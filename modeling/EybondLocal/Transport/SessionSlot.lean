import EybondLocal.Library.Execution
import EybondLocal.Library.StripText
import Mathlib.Logic.Function.Basic

/-!
The session slot of one collector connection (`_CollectorConnection.run` and `_disconnect`
in `collector/transport/connections.py`; `_CollectorAtConnection` follows the same
discipline). Runs are told apart by their epoch, and so are the socket, the reader task
and the auxiliary session each of them brings. An action is one stretch of code between
two awaits, so a list of actions is one interleaving.
-/
namespace SessionSlot
open Execution

inductive RunPhase where
  | unstarted
  | replacing
  | serving
  | closing
  | ended
  deriving DecidableEq, Repr

inductive ReaderPhase where
  | unborn
  | created
  | reading (auxiliary : Nat)
  | finished
  deriving DecidableEq, Repr

structure Session where
  phase : RunPhase := .unstarted
  sessionId : String := ""
  writerClosing : Bool := false
  reader : ReaderPhase := .unborn
  readerCancelled : Bool := false
  auxiliaryClosed : Bool := false
  /-- History: a `_disconnect` has detached this session. -/
  detached : Bool := false
  deriving DecidableEq, Repr

structure Slot where
  writer : Option Nat := none
  readerTask : Option Nat := none
  heartbeatTask : Option Nat := none
  sessionId : Option (Nat × String) := none
  auxiliary : Nat := 0
  deriving DecidableEq, Repr

structure Connection where
  runEpoch : Nat := 0
  slot : Slot := {}
  sessions : Nat → Session := fun _ => {}

inductive Action where
  /-- `run()` is called for a new socket. -/
  | start (sessionId : String)
  /-- The `_disconnect` of the session being replaced has finished. -/
  | resume (epoch : Nat)
  /-- The `run()` is cancelled while it awaits that `_disconnect`. -/
  | abandon (epoch : Nat)
  | beginReading (epoch : Nat)
  | endReading (epoch : Nat)
  /-- The transport of the socket starts closing. -/
  | socketCloses (epoch : Nat)
  /-- An interrupted auxiliary exchange fences its own socket. -/
  | fenceAuxiliary (epoch : Nat)
  /-- The awaited reader task has ended. -/
  | finish (epoch : Nat)
  /-- The run's own `_disconnect` has finished. -/
  | cleanedUp (epoch : Nat)
  /-- `disconnect()`. -/
  | disconnect
  deriving Repr

section Definitions
variable (c : Connection)

def modify (epoch : Nat) (change : Session → Session) : Connection :=
  { c with sessions := Function.update c.sessions epoch (change (c.sessions epoch)) }

def modifySome (epoch : Option Nat) (change : Session → Session) : Connection :=
  match epoch with
  | none => c
  | some epoch => modify c epoch change

def connected : Bool :=
  match c.slot.writer with
  | none => false
  | some writer =>
    !(c.sessions writer).writerClosing &&
      match c.slot.readerTask with
      | none => true
      | some task => (c.sessions task).reader != .finished

/-- `_disconnect` up to its first await: the session is detached, its auxiliary session closed,
    its socket closed and its reader cancelled before anything else can run. -/
def detach : Connection :=
  let c' := modify c c.slot.auxiliary fun session => { session with auxiliaryClosed := true }
  let c' := modifySome c' c.slot.writer fun session =>
    { session with writerClosing := true, detached := true }
  let c' := modifySome c' c.slot.readerTask fun session => { session with readerCancelled := true }
  { c' with slot := { auxiliary := c.slot.auxiliary } }

def install (epoch : Nat) : Connection :=
  let text := StripText.strip (c.sessions epoch).sessionId
  { modify c epoch fun session => { session with phase := .serving, reader := .created } with
    slot := ⟨some epoch, some epoch, some epoch, some (epoch, text), epoch⟩ }

def setPhase (epoch : Nat) (phase : RunPhase) : Connection :=
  modify c epoch fun session => { session with phase := phase }

def bumpEpoch (sessionId : String) : Connection :=
  { modify c (c.runEpoch + 1) fun session => { session with sessionId := sessionId } with
    runEpoch := c.runEpoch + 1 }

def startRun (sessionId : String) : Connection :=
  if connected c then setPhase (detach (bumpEpoch c sessionId)) (c.runEpoch + 1) .replacing
  else install (bumpEpoch c sessionId) (c.runEpoch + 1)

def finishRun (epoch : Nat) : Connection :=
  if c.runEpoch = epoch then setPhase (detach c) epoch .closing else setPhase c epoch .ended

def readerAlive (session : Session) : Bool :=
  match session.reader with
  | .created => true
  | .reading _ => true
  | _ => false

def step (c : Connection) : Action → Connection
  | .start sessionId => startRun c sessionId
  | .resume epoch => if (c.sessions epoch).phase = .replacing then install c epoch else c
  | .abandon epoch => if (c.sessions epoch).phase = .replacing then setPhase c epoch .ended else c
  | .beginReading epoch =>
    -- a task cancelled before its first step never runs
    if (c.sessions epoch).reader = .created ∧ (c.sessions epoch).readerCancelled = false then
      modify c epoch fun session => { session with reader := .reading c.slot.auxiliary }
    else c
  | .endReading epoch =>
    if readerAlive (c.sessions epoch) then
      modify c epoch fun session => { session with reader := .finished }
    else c
  | .socketCloses epoch =>
    if (c.sessions epoch).phase = .unstarted then c
    else modify c epoch fun session => { session with writerClosing := true }
  | .fenceAuxiliary epoch =>
    if (c.sessions epoch).reader = .unborn then c
    else modify c epoch fun session =>
      { session with auxiliaryClosed := true, writerClosing := true, readerCancelled := true }
  | .finish epoch =>
    if (c.sessions epoch).phase = .serving ∧ (c.sessions epoch).reader = .finished then
      finishRun c epoch
    else c
  | .cleanedUp epoch => if (c.sessions epoch).phase = .closing then setPhase c epoch .ended else c
  | .disconnect => detach c

def detaches : Action → Bool
  | .start _ => connected c
  | .finish epoch =>
    (c.sessions epoch).phase = .serving && (c.sessions epoch).reader = .finished &&
      c.runEpoch = epoch
  | .disconnect => true
  | _ => false

def actor : Action → Option Nat
  | .start _ => some (c.runEpoch + 1)
  | .resume epoch => some epoch
  | .finish epoch => some epoch
  | _ => none

/-- Everything installed in the slot belongs to the newest run. -/
structure NewestOwns : Prop where
  writer : ∀ epoch, c.slot.writer = some epoch → epoch = c.runEpoch
  readerTask : ∀ epoch, c.slot.readerTask = some epoch → epoch = c.runEpoch
  heartbeatTask : ∀ epoch, c.slot.heartbeatTask = some epoch → epoch = c.runEpoch
  sessionId : ∀ epoch text, c.slot.sessionId = some (epoch, text) → epoch = c.runEpoch

def KeepsNewer (action : Action) : Prop :=
  ∀ epoch newer, actor c action = some epoch → epoch < c.runEpoch →
    c.slot.writer = some newer → epoch < newer → (step c action).slot = c.slot

/-- A run takes the slot over after the `_disconnect` it awaited, although another run has
    started meanwhile. -/
def StaleResume : Action → Prop
  | .resume epoch => (c.sessions epoch).phase = .replacing ∧ epoch ≠ c.runEpoch
  | _ => False

end Definitions

section Slots
variable (c : Connection)

@[simp] theorem modify_slot (epoch : Nat) (change : Session → Session) :
    (modify c epoch change).slot = c.slot := rfl

@[simp] theorem modify_runEpoch (epoch : Nat) (change : Session → Session) :
    (modify c epoch change).runEpoch = c.runEpoch := rfl

@[simp] theorem modifySome_runEpoch (epoch : Option Nat) (change : Session → Session) :
    (modifySome c epoch change).runEpoch = c.runEpoch := by
  cases epoch <;> rfl

@[simp] theorem detach_slot : (detach c).slot = { auxiliary := c.slot.auxiliary } := rfl

@[simp] theorem detach_runEpoch : (detach c).runEpoch = c.runEpoch := by
  simp [detach]

@[simp] theorem setPhase_slot (epoch : Nat) (phase : RunPhase) :
    (setPhase c epoch phase).slot = c.slot := rfl

@[simp] theorem setPhase_runEpoch (epoch : Nat) (phase : RunPhase) :
    (setPhase c epoch phase).runEpoch = c.runEpoch := rfl

@[simp] theorem install_runEpoch (epoch : Nat) : (install c epoch).runEpoch = c.runEpoch := rfl

theorem newestOwns_install {epoch : Nat} (newest : epoch = c.runEpoch) :
    NewestOwns (install c epoch) := by
  subst newest
  constructor <;> simp [install]

theorem newestOwns_empty {c : Connection} (empty : c.slot = { auxiliary := c.slot.auxiliary }) :
    NewestOwns c := by
  constructor <;> rw [empty] <;> simp

theorem newestOwns_same {c c' : Connection} (slot : c'.slot = c.slot)
    (epoch : c'.runEpoch = c.runEpoch) (owns : NewestOwns c) : NewestOwns c' := by
  obtain ⟨writer, readerTask, heartbeatTask, sessionId⟩ := owns
  constructor <;> rw [slot, epoch] <;> assumption

theorem step_slot (action : Action) :
    ((step c action).slot = c.slot ∧ (step c action).runEpoch = c.runEpoch) ∨
    (step c action).slot = { auxiliary := (step c action).slot.auxiliary } ∨
    (∃ sessionId, action = .start sessionId ∧
      NewestOwns (step c action)) ∨
    (∃ epoch, action = .resume epoch ∧ (c.sessions epoch).phase = .replacing ∧
      step c action = install c epoch) := by
  cases action with
  | start sessionId =>
    simp only [step, startRun]
    split
    · right; left; simp
    · right; right; left
      exact ⟨sessionId, rfl, newestOwns_install _ rfl⟩
  | resume epoch =>
    simp only [step]
    split
    · rename_i replacing
      exact .inr (.inr (.inr ⟨epoch, rfl, replacing, rfl⟩))
    · exact .inl ⟨rfl, rfl⟩
  | finish epoch =>
    simp only [step, finishRun]
    split
    · split
      · right; left; simp
      · left; simp
    · exact .inl ⟨rfl, rfl⟩
  | disconnect => right; left; simp [step]
  | abandon epoch => left; simp only [step]; split <;> simp
  | beginReading epoch => left; simp only [step]; split <;> simp
  | endReading epoch => left; simp only [step]; split <;> simp
  | socketCloses epoch => left; simp only [step]; split <;> simp
  | fenceAuxiliary epoch => left; simp only [step]; split <;> simp
  | cleanedUp epoch => left; simp only [step]; split <;> simp

theorem newestOwns_step_iff (action : Action) (owns : NewestOwns c) :
    NewestOwns (step c action) ↔ ¬ StaleResume c action := by
  constructor
  · intro next stale
    cases action with
    | resume epoch =>
      obtain ⟨replacing, older⟩ := stale
      have installed : step c (.resume epoch) = install c epoch := if_pos replacing
      rw [installed] at next
      exact older (next.writer epoch rfl)
    | _ => exact stale
  · intro fresh
    rcases step_slot c action with ⟨slot, epoch⟩ | empty | ⟨sessionId, rfl, next⟩ |
      ⟨epoch, rfl, replacing, installed⟩
    · exact newestOwns_same slot epoch owns
    · exact newestOwns_empty empty
    · exact next
    · rw [installed]
      apply newestOwns_install
      cases Nat.decEq epoch c.runEpoch with
      | isTrue newest => exact newest
      | isFalse older => exact absurd ⟨replacing, older⟩ fresh

theorem keepsNewer_of_fresh (action : Action) (fresh : ¬ StaleResume c action) :
    KeepsNewer c action := by
  intro epoch newer acts older installed behind
  cases action with
  | start sessionId =>
    cases acts
    omega
  | resume resumed =>
    cases acts
    have idle : (c.sessions epoch).phase ≠ .replacing := by
      intro replacing
      exact fresh ⟨replacing, Nat.ne_of_lt older⟩
    simp only [step, if_neg idle]
  | finish finished =>
    cases acts
    simp only [step, finishRun, if_neg (Nat.ne_of_gt older)]
    split <;> simp
  | _ => cases acts

end Slots

/-- Over every interleaving of overlapping runs, session ends and disconnects: the slot belongs
    to the newest run throughout, and no older run touches what a newer one installed, exactly
    when no run takes the slot over after it was itself superseded. -/
theorem newest_owns_slot_run (actions : List Action) :
    (EveryState step NewestOwns {} actions ∧ EveryStep step KeepsNewer {} actions) ↔
      EveryStep step (fun c action => ¬ StaleResume c action) {} actions := by
  have start : NewestOwns {} := newestOwns_empty rfl
  let support : Connection → Prop := fun _ => True
  have supported : ∀ c action, support c → support (step c action) := fun _ _ _ => trivial
  have states := everyState_iff_everyStep supported
    (fun c action _ owns => newestOwns_step_iff c action owns) trivial start actions
  constructor
  · intro safe
    exact states.mp safe.1
  · intro fresh
    exact ⟨states.mpr fresh, everyStep_mono keepsNewer_of_fresh fresh⟩

/-- Two replacements overlap: the second run finds the slot already empty and installs at once,
    and the first one, resuming from its `_disconnect`, overwrites it. -/
theorem stale_run_overwrites_newer :
    ¬ EveryState step NewestOwns {}
      [.start "s1", .start "s2", .start "s3", .resume 2] := by
  intro safe
  have last := everyState_run safe
  have owner := last.writer 2 (by decide)
  revert owner
  decide

end SessionSlot
