import EybondLocal.Library.OrderedDict
import EybondLocal.Library.StripText
import Mathlib.Logic.Function.Basic

/-!
The process-wide ledger of callback triggers (`connection/callback_ledger.py`) and the
senders that reach the wire through its `callback_send_scope` (`collector/discovery.py`).
The physical datagrams of a probe are sent by a worker thread, so a step is either one
stretch of code of a coroutine between two awaits or one datagram of a thread.
-/
namespace CallbackLedger
open OrderedDict

structure Attempt where
  ownSends : Nat := 0
  foreignSends : Nat := 0
  deriving DecidableEq, Repr

/-- The probe a sender has handed to a worker thread; `running` counts the payload variants
    not sent yet. -/
inductive Job where
  | idle
  | queued
  | running (left : Nat)
  deriving DecidableEq, Repr

inductive SenderPhase where
  | unstarted
  | inside
  | left
  deriving DecidableEq, Repr

/-- One use of `callback_send_scope`, with the attempt its context belonged to. -/
structure Sender where
  phase : SenderPhase := .unstarted
  context : String := ""
  job : Job := .idle
  deriving DecidableEq, Repr

/-- One use of `inhibit_callback_triggers`; `drained` has seen the event and not resumed yet. -/
inductive Holder where
  | unstarted
  | waiting
  | drained
  | inside
  | left
  deriving DecidableEq, Repr

structure Ledger where
  generation : Nat := 0
  activeTriggerSends : Nat := 0
  triggerSendsDrained : Bool := true
  triggerInhibitors : Nat := 0
  causalityOwner : String := ""
  attempts : Dict String Attempt := Dict.empty
  senders : Nat → Sender := fun _ => {}
  holders : Nat → Holder := fun _ => .unstarted
  /-- History: a verifier was let in, and the last one has not left. -/
  silence : Bool := false

inductive Action where
  /-- A sender in the context of an attempt reaches `callback_send_scope`. -/
  | enter (sender : Nat) (context : String)
  /-- `asyncio.to_thread` with the next probe. -/
  | submit (sender : Nat)
  | begin (sender : Nat)
  | datagram (sender : Nat)
  /-- The probe got a reply, ran out of variants or failed. -/
  | finish (sender : Nat)
  | exit (sender : Nat)
  /-- The awaiting sender is cancelled. -/
  | cancel (sender : Nat)
  /-- One round of the `DiscoveryAnnouncer`, which sends without an await. -/
  | announce (context : String)
  | acquire (attempt : String)
  | release (attempt : String)
  | inhibit (holder : Nat)
  /-- The waiting thread sees the drained event. -/
  | drained (holder : Nat)
  | proceed (holder : Nat)
  | leave (holder : Nat)
  deriving Repr

def Action.leaseOf : Action → Option String
  | .acquire attempt => some (StripText.strip attempt)
  | .release attempt => some attempt
  | _ => none

/-- `build_discovery_messages` has three variants. -/
def payloadVariants : Nat := 3

section Operations
variable (s : Ledger)

/-- Whether `callback_send_scope` lets a sender of this context in. -/
def admits (context : String) : Bool :=
  s.triggerInhibitors == 0 && (s.causalityOwner == "" || context == s.causalityOwner)

def record (context : String) : Ledger :=
  { s with
    generation := s.generation + 1
    attempts := s.attempts.mapValues fun key attempt =>
      if context ≠ "" ∧ key = context then { attempt with ownSends := attempt.ownSends + 1 }
      else { attempt with foreignSends := attempt.foreignSends + 1 } }

def openScope : Ledger :=
  { s with
    triggerSendsDrained := if s.activeTriggerSends = 0 then false else s.triggerSendsDrained
    activeTriggerSends := s.activeTriggerSends + 1 }

def closeScope : Ledger :=
  { s with
    activeTriggerSends := s.activeTriggerSends - 1
    triggerSendsDrained := if s.activeTriggerSends - 1 = 0 then true else s.triggerSendsDrained }

def setSender (id : Nat) (sender : Sender) : Ledger :=
  { s with senders := Function.update s.senders id sender }

def setHolder (id : Nat) (holder : Holder) : Ledger :=
  { s with holders := Function.update s.holders id holder }

def enterScope (id : Nat) (context : String) : Ledger :=
  if admits s context then
    record (setSender (openScope s) id { phase := .inside, context := context }) context
  else setSender s id { phase := .left, context := context }

def cancelSender (id : Nat) : Ledger :=
  let sender := s.senders id
  let job := match sender.job with
    | .running left => .running left
    | _ => .idle
  closeScope (setSender s id { sender with phase := .left, job := job })

def leaseFree (attempt : String) : Bool :=
  attempt != "" && (s.attempts.get? attempt).isNone && s.causalityOwner == ""

/-- `_try_acquire_causality`, with the id as `causality_lease` cleans it. -/
def tryAcquireCausality (attempt : String) : Ledger :=
  if leaseFree s (StripText.strip attempt) then
    { s with
      causalityOwner := StripText.strip attempt
      attempts := s.attempts.set (StripText.strip attempt) {} }
  else s

def releaseCausality (attempt : String) : Ledger :=
  { s with
    causalityOwner := if s.causalityOwner = attempt then "" else s.causalityOwner
    attempts := s.attempts.erase attempt }

/-- The end of `inhibit_callback_triggers`, whichever way it is left. -/
def dropInhibitor (id : Nat) : Ledger :=
  { setHolder s id .left with
    triggerInhibitors := s.triggerInhibitors - 1
    silence := s.silence && s.triggerInhibitors - 1 != 0 }

def step (s : Ledger) : Action → Ledger
  | .enter id context =>
    if (s.senders id).phase = .unstarted then enterScope s id context else s
  | .submit id =>
    if (s.senders id).phase = .inside ∧ (s.senders id).job = .idle then
      setSender s id { s.senders id with job := .queued }
    else s
  | .begin id =>
    if (s.senders id).job = .queued then
      setSender s id { s.senders id with job := .running payloadVariants }
    else s
  | .datagram id =>
    match (s.senders id).job with
    | .running (left + 1) => setSender s id { s.senders id with job := .running left }
    | _ => s
  | .finish id =>
    match (s.senders id).job with
    | .running _ => setSender s id { s.senders id with job := .idle }
    | _ => s
  | .exit id =>
    if (s.senders id).phase = .inside ∧ (s.senders id).job = .idle then
      closeScope (setSender s id { s.senders id with phase := .left })
    else s
  | .cancel id => if (s.senders id).phase = .inside then cancelSender s id else s
  | .announce context =>
    if admits s context then closeScope (record (openScope s) context) else s
  | .acquire attempt => tryAcquireCausality s attempt
  | .release attempt => releaseCausality s attempt
  | .inhibit id =>
    if s.holders id = .unstarted then
      { setHolder s id .waiting with triggerInhibitors := s.triggerInhibitors + 1 }
    else s
  | .drained id =>
    if s.holders id = .waiting ∧ s.triggerSendsDrained then setHolder s id .drained else s
  | .proceed id =>
    if s.holders id = .drained then { setHolder s id .inside with silence := true } else s
  | .leave id =>
    match s.holders id with
    | .waiting | .drained | .inside => dropInhibitor s id
    | _ => s

def wire (s : Ledger) : Action → Option String
  | .datagram id =>
    match (s.senders id).job with
    | .running (_ + 1) => some (s.senders id).context
    | _ => none
  | .announce context => if admits s context then some context else none
  | _ => none

end Operations
end CallbackLedger
