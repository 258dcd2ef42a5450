import EybondLocal.CallbackLedger.Model
import EybondLocal.Library.Counting
import EybondLocal.Library.Execution

/-!
What the ledger keeps off the wire. The lease and the silence window are both checked when
a scope is entered, while the datagrams of a scope leave later and from another thread: the
two results say what has to be over at the moment the window opens.
-/
namespace CallbackLedger
open OrderedDict Execution Counting

def Job.maySend : Job → Bool
  | .queued => true
  | .running (_ + 1) => true
  | _ => false

def Sender.inFlight (sender : Sender) : Prop :=
  sender.phase = .inside ∨ sender.job.maySend = true

section Effects
variable (s : Ledger)

theorem setSender_senders (id other : Nat) (sender : Sender) :
    (setSender s id sender).senders other = if other = id then sender else s.senders other :=
  Function.update_apply ..

@[simp] theorem openScope_senders : (openScope s).senders = s.senders := rfl
@[simp] theorem closeScope_senders : (closeScope s).senders = s.senders := rfl
@[simp] theorem record_senders (context : String) : (record s context).senders = s.senders := rfl

def Calms (s s' : Ledger) : Prop :=
  ∀ id, (s'.senders id).inFlight →
    (s.senders id).inFlight ∧ (s'.senders id).context = (s.senders id).context

theorem calms_same {s s' : Ledger} (same : s'.senders = s.senders) : Calms s s' := by
  intro id flies
  rw [same] at flies ⊢
  exact ⟨flies, rfl⟩

theorem calms_setSender {s s' : Ledger} {id : Nat} {sender : Sender}
    (change : s'.senders = (setSender s id sender).senders)
    (before : sender.inFlight → (s.senders id).inFlight)
    (context : sender.context = (s.senders id).context) : Calms s s' := by
  intro other flies
  rw [change, setSender_senders] at flies ⊢
  split
  · rename_i same
    rw [if_pos same] at flies
    rw [same]
    exact ⟨before flies, context⟩
  · rename_i ne
    rw [if_neg ne] at flies
    exact ⟨flies, rfl⟩

theorem step_calms (action : Action) (notEnter : ∀ id context, action ≠ .enter id context) :
    Calms s (step s action) := by
  cases action with
  | enter id context => exact absurd rfl (notEnter id context)
  | submit id =>
    simp only [step]
    split
    · rename_i ready
      exact calms_setSender rfl (fun _ => .inl ready.1) rfl
    · exact calms_same rfl
  | begin id =>
    simp only [step]
    split
    · rename_i queued
      exact calms_setSender rfl (fun _ => .inr (by rw [queued]; rfl)) rfl
    · exact calms_same rfl
  | datagram id =>
    simp only [step]
    split
    · rename_i left running
      exact calms_setSender rfl (fun _ => .inr (by rw [running]; rfl)) rfl
    · exact calms_same rfl
  | finish id =>
    simp only [step]
    split
    · refine calms_setSender rfl ?_ rfl
      intro flies
      rcases flies with inside | sends
      · exact .inl inside
      · cases sends
    · exact calms_same rfl
  | exit id =>
    simp only [step]
    split
    · rename_i ready
      exact calms_setSender rfl (fun _ => .inl ready.1) rfl
    · exact calms_same rfl
  | cancel id =>
    simp only [step]
    split
    · rename_i inside
      exact calms_setSender rfl (fun _ => .inl inside) rfl
    · exact calms_same rfl
  | announce context =>
    simp only [step]
    split <;> exact calms_same rfl
  | acquire attempt =>
    simp only [step, tryAcquireCausality]
    split <;> exact calms_same rfl
  | release attempt => exact calms_same rfl
  | inhibit id =>
    simp only [step]
    split <;> exact calms_same rfl
  | drained id =>
    simp only [step]
    split <;> exact calms_same rfl
  | proceed id =>
    simp only [step]
    split <;> exact calms_same rfl
  | leave id =>
    simp only [step]
    split <;> exact calms_same rfl

theorem enter_inFlight {id other : Nat} {context : String}
    (flies : ((step s (.enter id context)).senders other).inFlight) :
    ((s.senders other).inFlight ∧
      ((step s (.enter id context)).senders other).context = (s.senders other).context) ∨
    (admits s context = true ∧ ((step s (.enter id context)).senders other).context = context) := by
  revert flies
  simp only [step, enterScope]
  split
  · split
    · rename_i admitted
      rw [record_senders, setSender_senders]
      split
      · exact fun _ => .inr ⟨admitted, rfl⟩
      · exact fun flies => .inl ⟨flies, rfl⟩
    · rw [setSender_senders]
      split
      · intro flies
        simp [Sender.inFlight, Job.maySend] at flies
      · exact fun flies => .inl ⟨flies, rfl⟩
  · exact fun flies => .inl ⟨flies, rfl⟩

end Effects
/-- While an attempt holds the lease, only its own scopes put datagrams on the wire. -/
def ExclusiveWire (s : Ledger) (action : Action) : Prop :=
  ∀ context, wire s action = some context →
    s.causalityOwner = "" ∨ context = s.causalityOwner

/-- The lease is taken only when nothing of another context is still in flight. -/
def NothingForeign (s : Ledger) : Action → Prop
  | .acquire attempt => leaseFree s (StripText.strip attempt) = true →
      ∀ id, (s.senders id).inFlight → (s.senders id).context = StripText.strip attempt
  | _ => True

def OnlyOwnInFlight (s : Ledger) : Prop :=
  s.causalityOwner ≠ "" → ∀ id, (s.senders id).inFlight → (s.senders id).context = s.causalityOwner

theorem onlyOwn_of_calms {s s' : Ledger} (own : OnlyOwnInFlight s) (calms : Calms s s')
    (owner : s'.causalityOwner = s.causalityOwner ∨ s'.causalityOwner = "") :
    OnlyOwnInFlight s' := by
  intro held id flies
  obtain ⟨before, context⟩ := calms id flies
  rcases owner with same | free
  · rw [same] at held ⊢
    rw [context]
    exact own held id before
  · exact absurd free held

theorem step_owner (s : Ledger) (action : Action) (notAcquire : ∀ attempt, action ≠ .acquire attempt) :
    (step s action).causalityOwner = s.causalityOwner ∨ (step s action).causalityOwner = "" := by
  cases action with
  | acquire attempt => exact absurd rfl (notAcquire attempt)
  | release attempt =>
    simp only [step, releaseCausality]
    split
    · exact .inr rfl
    · exact .inl rfl
  | enter id context =>
    simp only [step, enterScope]
    split
    · split <;> exact .inl rfl
    · exact .inl rfl
  | _ =>
    left
    simp only [step]
    split <;> rfl

theorem onlyOwn_step (s : Ledger) (action : Action) (own : OnlyOwnInFlight s)
    (undisturbed : NothingForeign s action) : OnlyOwnInFlight (step s action) := by
  cases action with
  | enter id context =>
    have owner : (step s (.enter id context)).causalityOwner = s.causalityOwner := by
      simp only [step, enterScope]
      split
      · split <;> rfl
      · rfl
    intro held other flies
    rw [owner] at held ⊢
    rcases enter_inFlight s flies with ⟨before, same⟩ | ⟨admitted, same⟩
    · rw [same]
      exact own held other before
    · rw [same]
      simp only [admits, Bool.and_eq_true, Bool.or_eq_true, beq_iff_eq] at admitted
      rcases admitted.2 with free | ours
      · exact absurd free held
      · exact ours
  | acquire attempt =>
    simp only [step, tryAcquireCausality]
    split
    · rename_i free
      intro held id flies
      exact undisturbed free id flies
    · exact own
  | _ => exact onlyOwn_of_calms own (step_calms s _ (by simp)) (step_owner s _ (by simp))

theorem exclusiveWire_of_own (s : Ledger) (action : Action) (own : OnlyOwnInFlight s) :
    ExclusiveWire s action := by
  intro context sent
  cases action with
  | datagram id =>
    simp only [wire] at sent
    split at sent
    · rename_i left running
      cases sent
      cases decEq s.causalityOwner "" with
      | isTrue free => exact .inl free
      | isFalse held => exact .inr (own held id (.inr (by rw [running]; rfl)))
    · cases sent
  | announce ours =>
    simp only [wire] at sent
    split at sent
    · rename_i admitted
      cases sent
      simp only [admits, Bool.and_eq_true, Bool.or_eq_true, beq_iff_eq] at admitted
      exact admitted.2
    · cases sent
  | _ => cases sent

/-- In every interleaving in which each lease is taken with nothing foreign in flight, every
    datagram sent while an attempt holds the lease comes from a scope of its own context. -/
theorem lease_exclusive_run (actions : List Action)
    (undisturbed : EveryStep step NothingForeign {} actions) :
    EveryStep step ExclusiveWire {} actions := by
  have start : OnlyOwnInFlight {} := fun held => absurd rfl held
  exact everyStep_of_invariant onlyOwn_step (fun s action own _ => exclusiveWire_of_own s action own)
    start undisturbed

theorem lease_exclusive_own_sender :
    wire (run step {} [.acquire "a1", .enter 0 "a1", .submit 0, .begin 0]) (.datagram 0) = some "a1" ∧
      EveryStep step ExclusiveWire {}
        [.acquire "a1", .enter 0 "a1", .submit 0, .begin 0, .datagram 0] := by
  refine ⟨by decide +kernel, lease_exclusive_run _ ?_⟩
  refine ⟨?_, trivial, trivial, trivial, trivial, trivial⟩
  intro free id flies
  simp [Sender.inFlight, Job.maySend] at flies

/-- A sender already inside its scope keeps sending after another attempt took the lease. -/
theorem open_scope_sends_under_foreign_lease :
    ¬ EveryStep step ExclusiveWire {}
      [.enter 0 "", .submit 0, .begin 0, .acquire "a1", .datagram 0] := by
  intro safe
  obtain ⟨-, -, -, -, datagram, -⟩ := safe
  have own := datagram "" (by decide +kernel)
  revert own
  decide +kernel

def SilentWire (s : Ledger) (action : Action) : Prop :=
  s.silence = true → wire s action = none

def Sender.abandoned (sender : Sender) : Prop :=
  sender.phase ≠ .inside ∧ sender.job.maySend = true

/-- A verifier is let in only when no abandoned thread is still sending. -/
def NothingAbandoned (s : Ledger) : Action → Prop
  | .proceed id => s.holders id = .drained → ∀ sender, ¬ (s.senders sender).abandoned
  | _ => True

def Holder.counted (holder : Holder) : Prop :=
  holder = .waiting ∨ holder = .drained ∨ holder = .inside

def Holder.passed (holder : Holder) : Prop := holder = .drained ∨ holder = .inside

structure Gated (s : Ledger) : Prop where
  active : Counts s.activeTriggerSends fun id => (s.senders id).phase = .inside
  drained : s.triggerSendsDrained = true ↔ s.activeTriggerSends = 0
  inhibitors : Counts s.triggerInhibitors fun id => (s.holders id).counted
  passed : ∀ id, (s.holders id).passed → s.activeTriggerSends = 0
  silent : s.silence = true → 0 < s.triggerInhibitors ∧ ∀ id, ¬ (s.senders id).inFlight

theorem gated_initial : Gated {} where
  active := counts_none (by simp)
  drained := by simp
  inhibitors := counts_none (by simp [Holder.counted])
  passed := by simp [Holder.passed]
  silent := by simp

section Gates
variable {s : Ledger}

theorem Gated.uninhibited (gated : Gated s) {context : String} (admitted : admits s context = true) :
    s.triggerInhibitors = 0 ∧ (∀ id, ¬ (s.holders id).passed) ∧ s.silence = false := by
  simp only [admits, Bool.and_eq_true, beq_iff_eq] at admitted
  obtain ⟨none, -⟩ := admitted
  have inhibitors := gated.inhibitors
  rw [none] at inhibitors
  refine ⟨none, ?_, ?_⟩
  · intro id passed
    exact counts_zero inhibitors id (.inr passed)
  · cases silence : s.silence with
    | false => rfl
    | true =>
      have positive := (gated.silent silence).1
      omega

theorem gated_job {id : Nat} {sender : Sender} (gated : Gated s)
    (phase : sender.phase = (s.senders id).phase)
    (before : sender.inFlight → (s.senders id).inFlight) : Gated (setSender s id sender) where
  active := by
    refine counts_congr gated.active ?_
    intro other
    rw [setSender_senders]
    split
    · rename_i same
      rw [phase, same]
    · rfl
  drained := gated.drained
  inhibitors := gated.inhibitors
  passed := gated.passed
  silent := by
    intro silence
    obtain ⟨positive, quiet⟩ := gated.silent silence
    refine ⟨positive, ?_⟩
    intro other flies
    rw [setSender_senders] at flies
    split at flies
    · exact quiet id (before flies)
    · exact quiet other flies

theorem gated_leaveScope {id : Nat} {sender : Sender} (gated : Gated s)
    (inside : (s.senders id).phase = .inside) (gone : sender.phase = .left) :
    Gated (closeScope (setSender s id sender)) := by
  have positive := counts_pos gated.active inside
  have loud : s.silence = false := by
    cases silence : s.silence with
    | false => rfl
    | true => exact absurd (.inl inside) ((gated.silent silence).2 id)
  constructor
  · refine counts_leave gated.active inside ?_
    intro other
    rw [closeScope_senders, setSender_senders]
    split
    · rename_i same
      simp [gone, same]
    · rename_i ne
      simp [ne]
  · have busy := gated.drained
    cases Nat.decEq (s.activeTriggerSends - 1) 0 with
    | isTrue last => simp [closeScope, setSender, last]
    | isFalse more =>
      simp only [closeScope, setSender, more, iff_false]
      intro drained
      have zero := busy.mp drained
      omega
  · exact gated.inhibitors
  · intro holder passed
    have zero := gated.passed holder passed
    omega
  · intro silence
    have silent : s.silence = true := silence
    rw [loud] at silent
    cases silent

theorem gated_refused {id : Nat} {context : String} (gated : Gated s)
    (outside : (s.senders id).phase ≠ .inside) :
    Gated (setSender s id { phase := .left, context := context }) where
  active := by
    refine counts_congr gated.active ?_
    intro other
    rw [setSender_senders]
    split
    · rename_i same
      simp [same, outside]
    · rfl
  drained := gated.drained
  inhibitors := gated.inhibitors
  passed := gated.passed
  silent := by
    intro silence
    obtain ⟨positive, quiet⟩ := gated.silent silence
    refine ⟨positive, ?_⟩
    intro other flies
    rw [setSender_senders] at flies
    split at flies
    · simp [Sender.inFlight, Job.maySend] at flies
    · exact quiet other flies

theorem gated_enter {id : Nat} {context : String} (gated : Gated s)
    (unstarted : (s.senders id).phase = .unstarted) : Gated (enterScope s id context) := by
  unfold enterScope
  split
  · rename_i admitted
    obtain ⟨none, unpassed, loud⟩ := gated.uninhibited admitted
    constructor
    · have outside : ¬ (s.senders id).phase = .inside := by
        rw [unstarted]
        simp
      refine counts_enter gated.active outside ?_
      intro other
      rw [record_senders, setSender_senders]
      split
      · rename_i same
        simp [same]
      · rename_i ne
        simp [ne]
    · have busy := gated.drained
      cases Nat.decEq s.activeTriggerSends 0 with
      | isTrue first => simp [record, setSender, openScope, first]
      | isFalse more =>
        have undrained : s.triggerSendsDrained ≠ true := fun drained => more (busy.mp drained)
        simp [record, setSender, openScope, more, undrained]
    · exact gated.inhibitors
    · intro holder passed
      exact absurd passed (unpassed holder)
    · intro silence
      have silent : s.silence = true := silence
      rw [loud] at silent
      cases silent
  · exact gated_refused gated (by rw [unstarted]; simp)

theorem gated_announce {context : String} (gated : Gated s) :
    Gated (closeScope (record (openScope s) context)) where
  active := gated.active
  drained := by
    have busy := gated.drained
    cases Nat.decEq s.activeTriggerSends 0 with
    | isTrue none => simp [closeScope, record, openScope, none]
    | isFalse more =>
      have undrained : s.triggerSendsDrained ≠ true := fun drained => more (busy.mp drained)
      simp [closeScope, record, openScope, more, undrained]
  inhibitors := gated.inhibitors
  passed := gated.passed
  silent := gated.silent

theorem setHolder_holders (id other : Nat) (holder : Holder) :
    (setHolder s id holder).holders other = if other = id then holder else s.holders other :=
  Function.update_apply ..

theorem gated_inhibit {id : Nat} (gated : Gated s) (unstarted : s.holders id = .unstarted) :
    Gated { setHolder s id .waiting with triggerInhibitors := s.triggerInhibitors + 1 } where
  active := gated.active
  drained := gated.drained
  inhibitors := by
    have uncounted : ¬ (s.holders id).counted := by simp [unstarted, Holder.counted]
    refine counts_enter gated.inhibitors uncounted ?_
    intro other
    rw [setHolder_holders]
    split
    · rename_i same
      simp [same, Holder.counted]
    · rename_i ne
      simp [ne]
  passed := by
    intro other passed
    rw [setHolder_holders] at passed
    split at passed
    · simp [Holder.passed] at passed
    · exact gated.passed other passed
  silent := by
    intro silence
    exact ⟨Nat.succ_pos _, (gated.silent silence).2⟩

theorem gated_advance {id : Nat} {holder : Holder} {silence : Bool} (gated : Gated s)
    (counted : (s.holders id).counted) (still : holder.counted)
    (drained : s.activeTriggerSends = 0)
    (silent : silence = true → s.silence = true ∨ ∀ sender, ¬ (s.senders sender).inFlight) :
    Gated { setHolder s id holder with silence := silence } where
  active := gated.active
  drained := gated.drained
  inhibitors := by
    refine counts_congr gated.inhibitors ?_
    intro other
    rw [setHolder_holders]
    split
    · rename_i same
      rw [same]
      exact ⟨fun _ => counted, fun _ => still⟩
    · rfl
  passed := fun _ _ => drained
  silent := by
    intro on
    rcases silent on with before | quiet
    · exact gated.silent before
    · exact ⟨counts_pos gated.inhibitors counted, quiet⟩

theorem gated_dropInhibitor {id : Nat} (gated : Gated s) (counted : (s.holders id).counted) :
    Gated (dropInhibitor s id) where
  active := gated.active
  drained := gated.drained
  inhibitors := by
    refine counts_leave gated.inhibitors counted ?_
    intro other
    change ((setHolder s id .left).holders other).counted ↔ _
    rw [setHolder_holders]
    split
    · rename_i same
      simp [same, Holder.counted]
    · rename_i ne
      simp [ne]
  passed := by
    intro other passed
    change ((setHolder s id .left).holders other).passed at passed
    rw [setHolder_holders] at passed
    split at passed
    · simp [Holder.passed] at passed
    · exact gated.passed other passed
  silent := by
    intro silence
    simp only [dropInhibitor, Bool.and_eq_true, bne_iff_ne] at silence
    exact ⟨Nat.pos_of_ne_zero silence.2, (gated.silent silence.1).2⟩

theorem gated_step (s : Ledger) (action : Action) (gated : Gated s)
    (settled : NothingAbandoned s action) : Gated (step s action) := by
  cases action with
  | enter id context =>
    simp only [step]
    split
    · rename_i unstarted
      exact gated_enter gated unstarted
    · exact gated
  | submit id =>
    simp only [step]
    split
    · rename_i ready
      exact gated_job gated rfl (fun _ => .inl ready.1)
    · exact gated
  | begin id =>
    simp only [step]
    split
    · rename_i queued
      exact gated_job gated rfl (fun _ => .inr (by rw [queued]; rfl))
    · exact gated
  | datagram id =>
    simp only [step]
    split
    · rename_i left running
      exact gated_job gated rfl (fun _ => .inr (by rw [running]; rfl))
    · exact gated
  | finish id =>
    simp only [step]
    split
    · refine gated_job gated rfl ?_
      intro flies
      rcases flies with inside | sends
      · exact .inl inside
      · cases sends
    · exact gated
  | exit id =>
    simp only [step]
    split
    · rename_i ready
      exact gated_leaveScope gated ready.1 rfl
    · exact gated
  | cancel id =>
    simp only [step]
    split
    · rename_i inside
      exact gated_leaveScope gated inside rfl
    · exact gated
  | announce context =>
    simp only [step]
    split
    · exact gated_announce gated
    · exact gated
  | acquire attempt =>
    simp only [step, tryAcquireCausality]
    split
    · exact ⟨gated.active, gated.drained, gated.inhibitors, gated.passed, gated.silent⟩
    · exact gated
  | release attempt =>
    exact ⟨gated.active, gated.drained, gated.inhibitors, gated.passed, gated.silent⟩
  | inhibit id =>
    simp only [step]
    split
    · rename_i unstarted
      exact gated_inhibit gated unstarted
    · exact gated
  | drained id =>
    simp only [step]
    split
    · rename_i ready
      have zero := gated.drained.mp ready.2
      exact gated_advance gated (.inl ready.1) (.inr (.inl rfl)) zero (fun on => .inl on)
    · exact gated
  | proceed id =>
    simp only [step]
    split
    · rename_i seen
      have zero := gated.passed id (.inl seen)
      have active := gated.active
      rw [zero] at active
      -- no scope is open any more, so what may still send was abandoned
      have quiet : ∀ sender, ¬ (s.senders sender).inFlight := by
        intro sender flies
        have outside := counts_zero active sender
        rcases flies with inside | sends
        · exact outside inside
        · exact settled seen sender ⟨outside, sends⟩
      exact gated_advance gated (.inr (.inl seen)) (.inr (.inr rfl)) zero (fun _ => .inr quiet)
    · exact gated
  | leave id =>
    simp only [step]
    split
    · rename_i waiting
      exact gated_dropInhibitor gated (.inl waiting)
    · rename_i drained
      exact gated_dropInhibitor gated (.inr (.inl drained))
    · rename_i inside
      exact gated_dropInhibitor gated (.inr (.inr inside))
    · exact gated

theorem silentWire_of_gated (s : Ledger) (action : Action) (gated : Gated s) :
    SilentWire s action := by
  intro silence
  cases action with
  | datagram id =>
    simp only [wire]
    split
    · rename_i left running
      have quiet := (gated.silent silence).2 id
      exact absurd (.inr (by rw [running]; rfl)) quiet
    · rfl
  | announce context =>
    simp only [wire]
    split
    · rename_i admitted
      obtain ⟨-, -, loud⟩ := gated.uninhibited admitted
      rw [loud] at silence
      cases silence
    · rfl
  | _ => rfl

end Gates

/-- In every interleaving of verifiers and senders in which no verifier is let in while a thread
    abandoned by a cancelled sender is still sending, nothing is sent in the silence window. -/
theorem silence_window_run (actions : List Action)
    (settled : EveryStep step NothingAbandoned {} actions) :
    EveryStep step SilentWire {} actions :=
  everyStep_of_invariant gated_step (fun s action gated _ => silentWire_of_gated s action gated)
    gated_initial settled

theorem silence_window_after_send :
    (run step {} [.enter 0 "", .submit 0, .begin 0, .datagram 0, .inhibit 0, .finish 0, .exit 0,
        .drained 0, .proceed 0]).silence = true ∧
      EveryStep step SilentWire {} [.enter 0 "", .submit 0, .begin 0, .datagram 0, .inhibit 0,
        .finish 0, .exit 0, .drained 0, .proceed 0, .announce ""] := by
  refine ⟨by decide +kernel, silence_window_run _ ?_⟩
  refine ⟨trivial, trivial, trivial, trivial, trivial, trivial, trivial, trivial, ?_, trivial,
    trivial⟩
  intro seen sender abandoned
  obtain ⟨outside, sends⟩ := abandoned
  revert sends
  cases sender with
  | zero => decide +kernel
  | succ sender =>
    intro sends
    simp [step, enterScope, setSender, setHolder, closeScope, record, openScope, admits,
      payloadVariants, Job.maySend] at sends

/-- The sender is cancelled while its thread is sending: its scope is closed, so the verifier is
    let in, and the thread's next datagram falls into the window. -/
theorem abandoned_thread_breaks_silence :
    ¬ EveryStep step SilentWire {}
      [.enter 0 "", .submit 0, .begin 0, .cancel 0, .inhibit 0, .drained 0, .proceed 0,
        .datagram 0] := by
  intro safe
  obtain ⟨-, -, -, -, -, -, -, datagram, -⟩ := safe
  have silent := datagram (by decide +kernel)
  revert silent
  decide +kernel

end CallbackLedger
