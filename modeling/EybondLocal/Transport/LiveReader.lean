import EybondLocal.Transport.SessionSlot

/-!
Which reader tasks can still hand frames on. As long as no run takes over a slot it no
longer owns, and none starts over a closing socket whose reader has not stopped, only the
reader of the newest installed session can.
-/
namespace SessionSlot
open Execution

/-- The reader task of this run may still pass a frame to the dispatch: its auxiliary session,
    the one its reads are fenced by, is open. -/
def stillReading (c : Connection) (epoch : Nat) : Bool :=
  match (c.sessions epoch).reader with
  | .created => !(c.sessions epoch).readerCancelled
  | .reading auxiliary => !(c.sessions auxiliary).auxiliaryClosed
  | _ => false

/-- A run starts while the slot counts as disconnected although its reader has not stopped:
    the old session is not torn down then. -/
def OverlapsReader (c : Connection) : Action → Prop
  | .start _ => connected c = false ∧
      ∃ epoch, c.slot.readerTask = some epoch ∧ stillReading c epoch = true
  | _ => False

def Orderly (c : Connection) (action : Action) : Prop :=
  ¬ StaleResume c action ∧ ¬ OverlapsReader c action

def Session.waiting (session : Session) : Prop :=
  session.phase = .unstarted ∨ session.phase = .replacing

structure Tracked (c : Connection) : Prop where
  together : c.slot.readerTask = c.slot.writer
  fenced : ∀ epoch, c.slot.writer = some epoch → c.slot.auxiliary = epoch
  single : ∀ epoch, stillReading c epoch = true → c.slot.writer = some epoch
  ownFence : ∀ epoch auxiliary, (c.sessions epoch).reader = .reading auxiliary → auxiliary = epoch
  bounded : ∀ epoch, c.runEpoch < epoch → (c.sessions epoch).phase = .unstarted
  unborn : ∀ epoch, (c.sessions epoch).waiting →
    (c.sessions epoch).reader = .unborn ∧ (c.sessions epoch).detached = false
  attached : ∀ epoch, c.slot.writer = some epoch →
    ¬ (c.sessions epoch).waiting ∧ (c.sessions epoch).detached = false

structure SingleReader (c : Connection) : Prop extends Tracked c where
  owns : NewestOwns c
  /-- The newest run finds the slot still empty when it resumes. -/
  awaited : ∀ epoch, (c.sessions epoch).phase = .replacing → epoch = c.runEpoch →
    c.slot.writer = none

theorem singleReader_initial : SingleReader {} where
  together := rfl
  fenced := by simp
  single := by simp [stillReading]
  ownFence := by simp
  bounded := by simp
  unborn := by simp
  attached := by simp
  owns := newestOwns_empty rfl
  awaited := by simp

section Steps
variable {c : Connection}

@[simp] theorem modify_sessions (epoch : Nat) (change : Session → Session) (other : Nat) :
    (modify c epoch change).sessions other =
      if other = epoch then change (c.sessions epoch) else c.sessions other :=
  Function.update_apply ..

@[simp] theorem modifySome_sessions (target : Option Nat) (change : Session → Session)
    (other : Nat) : (modifySome c target change).sessions other =
      if target = some other then change (c.sessions other) else c.sessions other := by
  cases target with
  | none => simp [modifySome]
  | some epoch =>
    simp only [modifySome, modify_sessions, Option.some.injEq]
    split
    · rename_i same
      rw [if_pos same.symm, same]
    · rename_i other
      rw [if_neg (Ne.symm other)]

/-- `_disconnect` flags exactly what the slot named and changes no reader and no phase. -/
theorem detach_sessions (epoch : Nat) : (detach c).sessions epoch =
    { c.sessions epoch with
      auxiliaryClosed := (c.sessions epoch).auxiliaryClosed || decide (epoch = c.slot.auxiliary)
      writerClosing := (c.sessions epoch).writerClosing || decide (c.slot.writer = some epoch)
      detached := (c.sessions epoch).detached || decide (c.slot.writer = some epoch)
      readerCancelled :=
        (c.sessions epoch).readerCancelled || decide (c.slot.readerTask = some epoch) } := by
  have modified : (detach c).sessions epoch =
      (modifySome (modifySome (modifySome c (some c.slot.auxiliary)
        fun session => { session with auxiliaryClosed := true }) c.slot.writer
        fun session => { session with writerClosing := true, detached := true }) c.slot.readerTask
        fun session => { session with readerCancelled := true }).sessions epoch := rfl
  rw [modified]
  simp only [modifySome_sessions, Option.some.injEq, eq_comm]
  split <;> split <;> split <;> simp_all

@[simp] theorem detach_reader (epoch : Nat) :
    ((detach c).sessions epoch).reader = (c.sessions epoch).reader := by
  rw [detach_sessions]

@[simp] theorem detach_phase (epoch : Nat) :
    ((detach c).sessions epoch).phase = (c.sessions epoch).phase := by
  rw [detach_sessions]

structure Advances (before after : Session) : Prop where
  phase : after.phase = before.phase ∨ before.phase ≠ .unstarted ∧ ¬ after.waiting
  reader : after.reader = before.reader ∨ after.reader = .finished
  unborn : before.reader = .unborn → after.reader = .unborn
  cancelled : before.readerCancelled = true → after.readerCancelled = true
  closed : before.auxiliaryClosed = true → after.auxiliaryClosed = true
  detached : after.detached = before.detached

theorem Advances.waiting {before after : Session} (advances : Advances before after)
    (waiting : after.waiting) : before.waiting := by
  rcases advances.phase with same | ⟨-, later⟩
  · unfold Session.waiting at waiting ⊢
    rwa [same] at waiting
  · exact absurd waiting later

theorem stillReading_advances {c' : Connection}
    (advances : ∀ epoch, Advances (c.sessions epoch) (c'.sessions epoch)) (epoch : Nat)
    (reading : stillReading c' epoch = true) : stillReading c epoch = true := by
  unfold stillReading at reading ⊢
  rcases (advances epoch).reader with same | stopped
  · rw [same] at reading
    split at reading
    · have cancelled := (advances epoch).cancelled
      simp_all
    · rename_i auxiliary eq
      have closed := (advances auxiliary).closed
      simp_all
    · cases reading
  · simp [stopped] at reading

theorem tracked_advances {c' : Connection} (tracked : Tracked c) (slot : c'.slot = c.slot)
    (later : c.runEpoch ≤ c'.runEpoch)
    (advances : ∀ epoch, Advances (c.sessions epoch) (c'.sessions epoch)) : Tracked c' where
  together := by
    rw [slot]
    exact tracked.together
  fenced := by
    rw [slot]
    exact tracked.fenced
  single := by
    intro epoch reading
    rw [slot]
    exact tracked.single epoch (stillReading_advances advances epoch reading)
  ownFence := by
    intro epoch auxiliary reading
    rcases (advances epoch).reader with same | stopped
    · exact tracked.ownFence epoch auxiliary (same ▸ reading)
    · rw [stopped] at reading
      cases reading
  bounded := by
    intro epoch beyond
    have unstarted := tracked.bounded epoch (by omega)
    rcases (advances epoch).phase with same | ⟨started, -⟩
    · rw [same, unstarted]
    · exact absurd unstarted started
  unborn := by
    intro epoch waiting
    obtain ⟨unborn, attached⟩ := tracked.unborn epoch ((advances epoch).waiting waiting)
    exact ⟨(advances epoch).unborn unborn, (advances epoch).detached.trans attached⟩
  attached := by
    intro epoch installed
    rw [slot] at installed
    obtain ⟨started, attached⟩ := tracked.attached epoch installed
    exact ⟨fun waiting => started ((advances epoch).waiting waiting),
      (advances epoch).detached.trans attached⟩

/-- No reader survives a `_disconnect`: the slot named the only one that could. -/
theorem detach_quiet (tracked : Tracked c) (epoch : Nat) : stillReading (detach c) epoch = false := by
  cases reading : stillReading (detach c) epoch with
  | false => rfl
  | true =>
    unfold stillReading at reading
    split at reading
    · rename_i created
      rw [detach_sessions] at created reading
      have before : stillReading c epoch = true := by
        unfold stillReading
        simp_all
      have installed := tracked.single epoch before
      have task : c.slot.readerTask = some epoch := tracked.together.trans installed
      simp [task] at reading
    · rename_i auxiliary eq
      rw [detach_reader] at eq
      have own := tracked.ownFence epoch auxiliary eq
      rw [detach_sessions] at reading
      have before : stillReading c epoch = true := by
        unfold stillReading
        simp_all
      have fence := tracked.fenced epoch (tracked.single epoch before)
      simp [own, fence] at reading
    · cases reading

theorem tracked_detach (tracked : Tracked c) : Tracked (detach c) where
  together := rfl
  fenced := by simp
  single := by
    intro epoch reading
    rw [detach_quiet tracked] at reading
    cases reading
  ownFence := by
    intro epoch auxiliary reading
    exact tracked.ownFence epoch auxiliary (by simpa using reading)
  bounded := by
    intro epoch beyond
    rw [detach_runEpoch] at beyond
    rw [detach_phase]
    exact tracked.bounded epoch beyond
  unborn := by
    intro epoch waiting
    have before : (c.sessions epoch).waiting := by
      unfold Session.waiting at waiting ⊢
      rwa [detach_phase] at waiting
    obtain ⟨unborn, attached⟩ := tracked.unborn epoch before
    refine ⟨by rw [detach_reader, unborn], ?_⟩
    have away : c.slot.writer ≠ some epoch := by
      intro installed
      exact (tracked.attached epoch installed).1 before
    rw [detach_sessions]
    simp [attached, away]
  attached := by simp

theorem tracked_install (tracked : Tracked c) (quiet : ∀ epoch, stillReading c epoch = false)
    {epoch : Nat} (reached : epoch ≤ c.runEpoch) (waiting : (c.sessions epoch).waiting) :
    Tracked (install c epoch) := by
  have others : ∀ other, other ≠ epoch → (install c epoch).sessions other = c.sessions other := by
    intro other ne
    exact Function.update_of_ne ne ..
  have own : (install c epoch).sessions epoch =
      { c.sessions epoch with phase := .serving, reader := .created } :=
    Function.update_self ..
  have attached := (tracked.unborn epoch waiting).2
  have ownFence : ∀ other auxiliary, ((install c epoch).sessions other).reader = .reading auxiliary →
      other ≠ epoch ∧ auxiliary = other := by
    intro other auxiliary reading
    have ne : other ≠ epoch := by
      intro same
      rw [same, own] at reading
      cases reading
    rw [others other ne] at reading
    exact ⟨ne, tracked.ownFence other auxiliary reading⟩
  constructor
  · rfl
  · intro other installed
    cases installed
    rfl
  · intro other reading
    cases Nat.decEq other epoch with
    | isTrue same =>
      rw [same]
      rfl
    | isFalse ne =>
      -- nothing that read before the install still does
      have before : stillReading c other = true := by
        unfold stillReading at reading ⊢
        rw [others other ne] at reading
        split at reading
        · simp_all
        · rename_i auxiliary eq
          have fence := tracked.ownFence other auxiliary eq
          rw [fence, others other ne] at reading
          simp_all
        · cases reading
      rw [quiet other] at before
      cases before
  · intro other auxiliary reading
    exact (ownFence other auxiliary reading).2
  · intro other beyond
    have ne : other ≠ epoch := by
      intro same
      rw [install_runEpoch] at beyond
      omega
    rw [others other ne]
    exact tracked.bounded other beyond
  · intro other stillWaiting
    have ne : other ≠ epoch := by
      intro same
      rw [same, own] at stillWaiting
      simp [Session.waiting] at stillWaiting
    rw [others other ne] at stillWaiting ⊢
    exact tracked.unborn other stillWaiting
  · intro other installed
    cases installed
    rw [own]
    exact ⟨by simp [Session.waiting], attached⟩

theorem singleReader_advances {c' : Connection} (h : SingleReader c) (slot : c'.slot = c.slot)
    (epoch : c'.runEpoch = c.runEpoch)
    (advances : ∀ epoch, Advances (c.sessions epoch) (c'.sessions epoch)) : SingleReader c' where
  toTracked := tracked_advances h.toTracked slot (Nat.le_of_eq epoch.symm) advances
  owns := newestOwns_same slot epoch h.owns
  awaited := by
    intro e replacing newest
    rw [slot]
    apply h.awaited e ?_ (newest.trans epoch)
    rcases (advances e).phase with same | ⟨-, later⟩
    · rw [← same, replacing]
    · exact absurd (.inr replacing) later

theorem advances_refl (session : Session) : Advances session session := by
  constructor <;> simp

theorem advances_modify {epoch : Nat} {change : Session → Session}
    (advances : Advances (c.sessions epoch) (change (c.sessions epoch))) (other : Nat) :
    Advances (c.sessions other) ((modify c epoch change).sessions other) := by
  rw [modify_sessions]
  split
  · rename_i same
    rw [same]
    exact advances
  · exact advances_refl _

/-- A change of one session that only lets it advance keeps the invariant. -/
theorem singleReader_modify {epoch : Nat} {change : Session → Session} (h : SingleReader c)
    (advances : Advances (c.sessions epoch) (change (c.sessions epoch))) :
    SingleReader (modify c epoch change) :=
  singleReader_advances h rfl rfl (advances_modify advances)

theorem singleReader_setPhase {epoch : Nat} {phase : RunPhase} (h : SingleReader c)
    (started : (c.sessions epoch).phase ≠ .unstarted)
    (later : phase ≠ .unstarted ∧ phase ≠ .replacing) : SingleReader (setPhase c epoch phase) := by
  apply singleReader_modify h
  constructor <;> simp_all [Session.waiting]

/-- After a `_disconnect` the slot is empty, so the newest run finds it so. -/
theorem singleReader_detach (tracked : Tracked c) : SingleReader (detach c) where
  toTracked := tracked_detach tracked
  owns := newestOwns_empty rfl
  awaited := by simp

theorem singleReader_install (tracked : Tracked c) (quiet : ∀ epoch, stillReading c epoch = false)
    (waiting : (c.sessions c.runEpoch).waiting) : SingleReader (install c c.runEpoch) where
  toTracked := tracked_install tracked quiet (Nat.le_refl _) waiting
  owns := newestOwns_install c rfl
  awaited := by
    intro epoch replacing newest
    rw [install_runEpoch] at newest
    subst newest
    simp [install] at replacing

theorem bumpEpoch_advances (c : Connection) (sessionId : String) (epoch : Nat) :
    Advances (c.sessions epoch) ((bumpEpoch c sessionId).sessions epoch) := by
  let change : Session → Session := fun session => { session with sessionId := sessionId }
  have named : Advances (c.sessions (c.runEpoch + 1)) (change (c.sessions (c.runEpoch + 1))) := by
    constructor <;> simp [change]
  exact advances_modify named epoch

/-- A run that has to wait for a `_disconnect` leaves the slot empty. -/
theorem singleReader_replacing (h : SingleReader c) (empty : c.slot.writer = none) {epoch : Nat}
    (unstarted : (c.sessions epoch).phase = .unstarted) (reached : epoch ≤ c.runEpoch) :
    SingleReader (setPhase c epoch .replacing) := by
  have same : ∀ other, (setPhase c epoch .replacing).sessions other =
      { c.sessions other with
        phase := if other = epoch then .replacing else (c.sessions other).phase } := by
    intro other
    unfold setPhase
    rw [modify_sessions]
    split
    · rename_i eq
      rw [eq]
    · rfl
  have before : ∀ other, ((setPhase c epoch .replacing).sessions other).waiting →
      (c.sessions other).waiting := by
    intro other waiting
    rw [same] at waiting
    unfold Session.waiting at waiting ⊢
    split at waiting
    · rename_i eq
      rw [eq]
      exact .inl unstarted
    · exact waiting
  constructor
  · constructor
    · exact h.together
    · exact h.fenced
    · intro other reading
      apply h.single other
      unfold stillReading at reading ⊢
      simp only [same] at reading
      exact reading
    · intro other auxiliary reading
      rw [same] at reading
      exact h.ownFence other auxiliary reading
    · intro other beyond
      rw [setPhase_runEpoch] at beyond
      rw [same, if_neg (by omega)]
      exact h.bounded other beyond
    · intro other waiting
      have unborn := h.unborn other (before other waiting)
      rw [same]
      exact unborn
    · intro other installed
      rw [setPhase_slot, empty] at installed
      cases installed
  · exact newestOwns_same (setPhase_slot c epoch _) (setPhase_runEpoch c epoch _) h.owns
  · intro other replacing newest
    exact empty

theorem tracked_bumpEpoch (tracked : Tracked c) (sessionId : String) :
    Tracked (bumpEpoch c sessionId) :=
  tracked_advances tracked rfl (Nat.le_succ _) (bumpEpoch_advances c sessionId)

theorem singleReader_start (h : SingleReader c) (sessionId : String)
    (orderly : ¬ OverlapsReader c (.start sessionId)) : SingleReader (startRun c sessionId) := by
  have begun := tracked_bumpEpoch h.toTracked sessionId
  have unstarted : (c.sessions (c.runEpoch + 1)).phase = .unstarted :=
    h.bounded _ (Nat.lt_succ_self _)
  unfold startRun
  split
  · have stillUnstarted :
        ((detach (bumpEpoch c sessionId)).sessions (c.runEpoch + 1)).phase = .unstarted := by
      rw [detach_phase]
      simp [bumpEpoch, unstarted]
    exact singleReader_replacing (singleReader_detach begun) rfl stillUnstarted (by simp [bumpEpoch])
  · rename_i disconnected
    have quiet : ∀ epoch, stillReading (bumpEpoch c sessionId) epoch = false := by
      intro epoch
      cases reading : stillReading (bumpEpoch c sessionId) epoch with
      | false => rfl
      | true =>
        have before := stillReading_advances (bumpEpoch_advances c sessionId) epoch reading
        have task : c.slot.readerTask = some epoch := h.together.trans (h.single epoch before)
        exact absurd ⟨by simpa using disconnected, epoch, task, before⟩ orderly
    apply singleReader_install begun quiet
    left
    simp [bumpEpoch, unstarted]

theorem singleReader_resume (h : SingleReader c) {epoch : Nat}
    (replacing : (c.sessions epoch).phase = .replacing)
    (fresh : ¬ StaleResume c (.resume epoch)) : SingleReader (install c epoch) := by
  have newest : epoch = c.runEpoch := by
    cases Nat.decEq epoch c.runEpoch with
    | isTrue newest => exact newest
    | isFalse older => exact absurd ⟨replacing, older⟩ fresh
  have empty := h.awaited epoch replacing newest
  have quiet : ∀ other, stillReading c other = false := by
    intro other
    cases reading : stillReading c other with
    | false => rfl
    | true =>
      have installed := h.single other reading
      rw [empty] at installed
      cases installed
  subst newest
  exact singleReader_install h.toTracked quiet (.inr replacing)

theorem singleReader_beginReading (h : SingleReader c) {epoch : Nat}
    (created : (c.sessions epoch).reader = .created)
    (kept : (c.sessions epoch).readerCancelled = false) :
    SingleReader (modify c epoch fun session =>
      { session with reader := .reading c.slot.auxiliary }) := by
  have reading : stillReading c epoch = true := by
    unfold stillReading
    simp [created, kept]
  have installed := h.single epoch reading
  have fence := h.fenced epoch installed
  have same : ∀ other, (modify c epoch fun session =>
      { session with reader := .reading c.slot.auxiliary }).sessions other =
      { c.sessions other with
        reader := if other = epoch then .reading epoch else (c.sessions other).reader } := by
    intro other
    rw [modify_sessions, fence]
    split
    · rename_i eq
      rw [eq]
    · rfl
  constructor
  · constructor
    · exact h.together
    · exact h.fenced
    · intro other still
      unfold stillReading at still
      simp only [same] at still
      split at still
      · rename_i eq
        split at eq
        · cases eq
        · exact h.single other (by unfold stillReading; simp_all)
      · rename_i auxiliary eq
        split at eq
        · rename_i own
          rw [own]
          exact installed
        · exact h.single other (by unfold stillReading; simp_all)
      · cases still
    · intro other auxiliary eq
      rw [same] at eq
      dsimp only at eq
      split at eq
      · rename_i own
        cases eq
        exact own.symm
      · exact h.ownFence other auxiliary eq
    · intro other beyond
      rw [same]
      exact h.bounded other beyond
    · intro other waiting
      rw [same] at waiting ⊢
      have unborn := h.unborn other waiting
      have ne : other ≠ epoch := by
        intro own
        rw [own, created] at unborn
        cases unborn.1
      rw [if_neg ne]
      exact unborn
    · intro other owner
      rw [same]
      exact h.attached other owner
  · exact newestOwns_same (modify_slot c epoch _) (modify_runEpoch c epoch _) h.owns
  · intro other replacing newest
    rw [same] at replacing
    exact h.awaited other replacing newest

theorem singleReader_step (action : Action) (h : SingleReader c) (orderly : Orderly c action) :
    SingleReader (step c action) := by
  cases action with
  | start sessionId => exact singleReader_start h sessionId orderly.2
  | resume epoch =>
    simp only [step]
    split
    · rename_i replacing
      exact singleReader_resume h replacing orderly.1
    · exact h
  | abandon epoch =>
    simp only [step]
    split
    · rename_i replacing
      exact singleReader_setPhase h (by simp [replacing]) (by simp)
    · exact h
  | beginReading epoch =>
    simp only [step]
    split
    · rename_i ready
      exact singleReader_beginReading h ready.1 ready.2
    · exact h
  | endReading epoch =>
    simp only [step]
    split
    · rename_i alive
      have born : (c.sessions epoch).reader ≠ .unborn := by
        intro unborn
        simp [readerAlive, unborn] at alive
      apply singleReader_modify h
      constructor <;> simp_all
    · exact h
  | socketCloses epoch =>
    simp only [step]
    split
    · exact h
    · apply singleReader_modify h
      constructor <;> simp
  | fenceAuxiliary epoch =>
    simp only [step]
    split
    · exact h
    · apply singleReader_modify h
      constructor <;> simp
  | finish epoch =>
    simp only [step]
    split
    · rename_i ready
      unfold finishRun
      split
      · exact singleReader_setPhase (singleReader_detach h.toTracked) (by simp [ready.1]) (by simp)
      · exact singleReader_setPhase h (by simp [ready.1]) (by simp)
    · exact h
  | cleanedUp epoch =>
    simp only [step]
    split
    · rename_i closing
      exact singleReader_setPhase h (by simp [closing]) (by simp)
    · exact h
  | disconnect => exact singleReader_detach h.toTracked

theorem step_runEpoch_le (c : Connection) (action : Action) :
    c.runEpoch ≤ (step c action).runEpoch := by
  cases action with
  | start sessionId =>
    simp only [step, startRun]
    split <;> simp [bumpEpoch]
  | finish epoch =>
    simp only [step, finishRun]
    split
    · split <;> simp
    · simp
  | disconnect => simp [step]
  | _ =>
    simp only [step]
    split <;> simp

theorem modify_detached {change : Session → Session}
    (same : ∀ session, (change session).detached = session.detached) (c : Connection)
    (target epoch : Nat) :
    ((modify c target change).sessions epoch).detached = (c.sessions epoch).detached := by
  rw [modify_sessions]
  split
  · rename_i eq
    rw [same, eq]
  · rfl

@[simp] theorem setPhase_detached (c : Connection) (target epoch : Nat) (phase : RunPhase) :
    ((setPhase c target phase).sessions epoch).detached = (c.sessions epoch).detached := by
  apply modify_detached
  intro session
  rfl

@[simp] theorem install_detached (c : Connection) (target epoch : Nat) :
    ((install c target).sessions epoch).detached = (c.sessions epoch).detached := by
  have modified : (install c target).sessions = (modify c target fun session =>
      { session with phase := .serving, reader := .created }).sessions := rfl
  rw [modified]
  apply modify_detached
  intro session
  rfl

@[simp] theorem bumpEpoch_detached (c : Connection) (sessionId : String) (epoch : Nat) :
    ((bumpEpoch c sessionId).sessions epoch).detached = (c.sessions epoch).detached := by
  have modified : (bumpEpoch c sessionId).sessions = (modify c (c.runEpoch + 1) fun session =>
      { session with sessionId := sessionId }).sessions := rfl
  rw [modified]
  apply modify_detached
  intro session
  rfl

/-- Only a step that runs `_disconnect` detaches a session. -/
theorem step_detached (c : Connection) (action : Action) (quiet : detaches c action = false)
    (epoch : Nat) : ((step c action).sessions epoch).detached = (c.sessions epoch).detached := by
  cases action with
  | start sessionId =>
    have disconnected : ¬ connected c = true := by
      simpa [detaches] using quiet
    simp [step, startRun, if_neg disconnected]
  | finish finished =>
    simp only [step, finishRun]
    split
    · rename_i ready
      have older : c.runEpoch ≠ finished := by
        intro newest
        simp [detaches, ready, newest] at quiet
      rw [if_neg older, setPhase_detached]
    · rfl
  | disconnect => cases quiet
  | _ =>
    simp only [step]
    split <;> first | rfl | (apply modify_detached; intro session; rfl) | simp

end Steps
end SessionSlot
