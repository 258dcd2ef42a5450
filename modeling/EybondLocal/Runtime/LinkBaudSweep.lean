import EybondLocal.Library.HookRun

/-!
The walk over the catalog's inverter speeds on one collector. Every candidate is set, swept and
kept if a driver matched there; otherwise the original speed is put back, also when the walk is
interrupted. A `set_baud` that fails or is cut off may have reached the collector all the same,
so the mark that a restore is due is written before the speed is.
-/
namespace LinkBaudSweep
open HookRun HookRun.Run

/-- One `set_baud`: the speed asked for, whether a cancellation cut it off, and whether it
    answered that the collector runs at that speed. -/
structure Change where
  baud : Int
  cutOff : Bool
  acknowledged : Bool
  deriving DecidableEq, Repr

/-- The collector's speed, the changes attempted on it, the sweep's own mark, and how often
    outside code has answered. -/
structure Track where
  speed : Int
  changes : List Change
  mutationAttempted : Bool
  answers : Nat
  deriving DecidableEq, Repr

def Track.start (speed : Int) : Track := ⟨speed, [], false, 0⟩

def Track.answered (s : Track) : Track := { s with answers := s.answers + 1 }

def Track.marked (s : Track) : Track := { s with mutationAttempted := true }

def Track.attempt (s : Track) (change : Change) (landed : Bool) : Track :=
  { s.answered with
    speed := if change.acknowledged || landed then change.baud else s.speed
    changes := s.changes ++ [change] }

/-- The outside of the sweep. `cutOff` delivers a cancellation inside a `set_baud` that is
    awaited directly; `deliveries` are the cancellations delivered while a restore is awaited,
    each with whether the restore was over by then. -/
structure Hooks (ε Scan : Type) where
  readBaud : Track → Ending ε (Option Int)
  answer : Track → Int → Ending ε Bool
  cutOff : Track → Bool
  landed : Track → Bool
  runSweep : Track → Int → Ending ε (Option Scan)
  admits : Option (Track → Ending ε Bool)
  deliveries : Track → List Bool
  hasCandidates : Scan → Bool

structure LinkBaudSweepOutcome (Scan : Type) where
  scan : Option Scan
  matchedBaud : Option Int
  originalBaud : Option Int
  attemptedBauds : List Int
  restored : Bool
  deriving DecidableEq, Repr

variable {ε Scan : Type}

def acknowledges : Ending ε Bool → Bool
  | .returned accepted => accepted
  | _ => false

/-- `_await_critical` over a task that ends as `task`: how the wait ends, and whether the task
    had ended by then. Without a further delivery the shield hands on the task's own ending. -/
def awaitCritical (task : Ending ε Bool) : List Bool → Bool → Ending ε Bool × Bool
  | [], cancelled =>
    (task.next (fun result => if cancelled then .cancelled else .returned result) id, true)
  | true :: _, _ => (task.next (fun _ => .cancelled) id, true)
  | false :: later, _ => awaitCritical task later true

def mark : Run Track ε Unit := call Track.marked (.returned ())

namespace Hooks
variable (hooks : Hooks ε Scan)

def read : Run Track ε (Option Int) := fun s => (s.answered, hooks.readBaud s)

def sweep (baud : Int) : Run Track ε (Option Scan) := fun s => (s.answered, hooks.runSweep s baud)

def admitted : Run Track ε Bool :=
  match hooks.admits with
  | none => pure true
  | some admits => fun s => (s.answered, admits s)

def setBaud (baud : Int) : Run Track ε Bool := fun s =>
  let ending := if hooks.cutOff s then .cancelled else hooks.answer s baud
  (s.attempt ⟨baud, hooks.cutOff s, acknowledges ending⟩ (hooks.landed s), ending)

/-- `await _await_critical(set_baud(original))`. The change is cut off if the wait gives up on
    the task. -/
def restore (original : Int) : Run Track ε Bool := fun s =>
  let task := hooks.answer s original
  let wait := awaitCritical task (hooks.deliveries s) false
  (s.attempt ⟨original, !wait.2, acknowledges task⟩ (hooks.landed s), wait.1)

/-- The loop over the candidates: the outcome it returns from inside, or the speeds that were
    accepted when it ran out or was stopped. -/
def walk (original : Int) :
    List Int → List Int → Run Track ε (LinkBaudSweepOutcome Scan ⊕ List Int)
  | [], attempted => pure (.inr attempted)
  | baud :: later, attempted =>
    if baud = original then walk original later attempted
    else do
      let admitted ← hooks.admitted
      if admitted then
        mark
        let accepted ← hooks.setBaud baud
        if accepted then
          let scan ← hooks.sweep baud
          match scan.filter hooks.hasCandidates with
          | some scan =>
            pure (.inl ⟨some scan, some baud, some original, attempted ++ [baud], false⟩)
          | none => walk original later (attempted ++ [baud])
        else walk original later attempted
      else pure (.inr attempted)

def settle (original : Int) : Run Track ε Bool := do
  let attempted ← observe Track.mutationAttempted
  if attempted then hooks.restore original else pure true

def interrupted {α : Type} (original : Int) : Ending ε α → Run Track ε Unit
  | .returned _ => pure ()
  | _ => do
    let _ ← hooks.settle original
    pure ()

def runLinkBaudSweep (candidateBauds : List Int) : Run Track ε (LinkBaudSweepOutcome Scan) := do
  let read ← hooks.read
  match read with
  | none => pure ⟨none, none, none, [], false⟩
  | some original =>
    let walked ← (hooks.walk original candidateBauds []).finishing (hooks.interrupted original)
    match walked with
    | .inl outcome => pure outcome
    | .inr attempted =>
      let restored ← hooks.settle original
      pure ⟨none, none, some original, attempted, restored⟩

end Hooks

theorem awaitCritical_finishes (task : Ending ε Bool) (deliveries : List Bool) (cancelled : Bool) :
    (awaitCritical task deliveries cancelled).2 = true := by
  induction deliveries generalizing cancelled with
  | nil => rfl
  | cons isOver later ih =>
    cases isOver with
    | false => exact ih true
    | true => rfl

theorem awaitCritical_returns (task : Ending ε Bool) (deliveries : List Bool) (cancelled : Bool)
    {result : Bool} (returned : (awaitCritical task deliveries cancelled).1 = .returned result) :
    task = .returned result := by
  induction deliveries generalizing cancelled with
  | nil =>
    cases task with
    | returned value =>
      cases cancelled with
      | false => exact returned
      | true => cases returned
    | raised error => cases returned
    | cancelled => cases returned
  | cons isOver later ih =>
    cases isOver with
    | false => exact ih true returned
    | true => cases task <;> cases returned

theorem acknowledges_iff {ending : Ending ε Bool} :
    acknowledges ending = true ↔ ending = .returned true := by
  cases ending <;> simp [acknowledges]

namespace Hooks
variable (hooks : Hooks ε Scan)

/-- A change is only ever attempted under the mark that makes its restore due. -/
def Due (s : Track) : Prop := s.changes ≠ [] → s.mutationAttempted = true

structure Kept (original : Int) (s : Track) (outcome : LinkBaudSweepOutcome Scan) (baud : Int) :
    Prop where
  matched : ∃ scan, outcome.scan = some scan ∧ hooks.hasCandidates scan = true
  matchedBaud : outcome.matchedBaud = some baud
  originalBaud : outcome.originalBaud = some original
  last : s.changes.getLast? = some ⟨baud, false, true⟩
  speed : s.speed = baud

def Walked (original : Int) (s : Track) :
    Ending ε (LinkBaudSweepOutcome Scan ⊕ List Int) → Prop
  | .returned (.inl outcome) => ∃ baud, hooks.Kept original s outcome baud
  | _ => Due s

theorem setBaud_accepted {s : Track} {baud : Int}
    (accepted : (hooks.setBaud baud s).2 = .returned true) :
    (hooks.setBaud baud s).1.changes.getLast? = some ⟨baud, false, true⟩ ∧
      (hooks.setBaud baud s).1.speed = baud := by
  simp only [setBaud] at accepted ⊢
  cases cut : hooks.cutOff s with
  | true => simp [cut] at accepted
  | false =>
    simp only [cut, Bool.false_eq_true, if_false] at accepted
    simp [Track.attempt, accepted, acknowledges]

/-- One candidate: whatever the hooks do, the mark stands before the speed is touched, and only
    an acknowledged speed with candidates is kept. -/
theorem walk_ends (original : Int) (candidates attempted : List Int) (s : Track) (due : Due s) :
    Ends (hooks.walk original candidates attempted) s (hooks.Walked original) := by
  induction candidates generalizing attempted s with
  | nil => exact due
  | cons baud later ih =>
    rw [walk]
    split
    · exact ih attempted s due
    · have admits : Ends hooks.admitted s fun s' _ => Due s' := by
        rw [admitted]
        cases hooks.admits with
        | none => exact due
        | some admits => exact due
      refine ends_bind_of admits ?_ (fun _ _ due' => due') (fun _ due' => due')
      intro s₁ go due₁
      cases go with
      | false => exact due₁
      | true =>
        have set : Ends (hooks.setBaud baud) s₁.marked fun s' e =>
            Due s' ∧ s'.mutationAttempted = true ∧
              (e = .returned true → s'.changes.getLast? = some ⟨baud, false, true⟩ ∧
                s'.speed = baud) :=
          ⟨fun _ => rfl, rfl, hooks.setBaud_accepted⟩
        rw [if_pos rfl, ends_bind, mark, ends_call, Ending.next_returned]
        refine ends_bind_of set ?_ (fun _ _ reached => reached.1) (fun _ reached => reached.1)
        intro s₂ accepted reached
        obtain ⟨due₂, -, acknowledged⟩ := reached
        cases accepted with
        | false => exact ih attempted s₂ due₂
        | true =>
          obtain ⟨last, speed⟩ := acknowledged rfl
          have swept : Ends (hooks.sweep baud) s₂ fun s' _ => s' = s₂.answered := rfl
          refine ends_bind_of swept ?_ (fun _ _ same => same ▸ due₂) (fun _ same => same ▸ due₂)
          intro s₃ scan same
          subst same
          cases found : scan.filter hooks.hasCandidates with
          | none => exact ih (attempted ++ [baud]) s₂.answered due₂
          | some scan' =>
            have candidates : hooks.hasCandidates scan' = true :=
              (Option.filter_eq_some_iff.mp found).2
            exact ⟨baud, ⟨scan', rfl, candidates⟩, rfl, rfl, last, speed⟩

def PutBack (original : Int) (s : Track) (e : Ending ε Bool) : Prop :=
  ∃ acknowledged, s.changes.getLast? = some ⟨original, false, acknowledged⟩ ∧
    ∀ restored, e = .returned restored → restored = true →
      acknowledged = true ∧ s.speed = original

theorem restore_ends (original : Int) (s : Track) :
    Ends (hooks.restore original) s (PutBack original) := by
  have finished := awaitCritical_finishes (hooks.answer s original) (hooks.deliveries s) false
  refine ⟨acknowledges (hooks.answer s original), ?_, ?_⟩
  · simp [restore, Track.attempt, finished]
  · intro restored returned held
    subst held
    have accepted := acknowledges_iff.mpr (awaitCritical_returns _ _ _ returned)
    exact ⟨accepted, by simp [restore, Track.attempt, accepted]⟩

theorem settle_ends (original : Int) (s : Track) (due : Due s) :
    Ends (hooks.settle original) s fun s' e => s'.changes = [] ∨ PutBack original s' e := by
  rw [settle, ends_bind, ends_observe]
  cases attempted : s.mutationAttempted with
  | false =>
    left
    by_contra changed
    rw [due changed] at attempted
    cases attempted
  | true => exact ends_mono (fun _ _ => Or.inr) (hooks.restore_ends original s)

theorem interrupted_ends {α : Type} (original : Int) (s : Track) (due : Due s) (e : Ending ε α)
    (stopped : ∀ value, e ≠ .returned value) :
    Ends (hooks.interrupted original e) s fun s' _ =>
      s'.changes = [] ∨ ∃ acknowledged,
        s'.changes.getLast? = some ⟨original, false, acknowledged⟩ := by
  have settled : Ends (do let _ ← hooks.settle original; pure ()) s fun s' _ =>
      s'.changes = [] ∨ ∃ acknowledged,
        s'.changes.getLast? = some ⟨original, false, acknowledged⟩ := by
    rw [ends_bind]
    refine ends_mono ?_ (hooks.settle_ends original s due)
    intro s' e' reached
    have kept : s'.changes = [] ∨ ∃ acknowledged,
        s'.changes.getLast? = some ⟨original, false, acknowledged⟩ :=
      reached.imp_right fun ⟨acknowledged, last, _⟩ => ⟨acknowledged, last⟩
    cases e' <;> exact kept
  cases e with
  | returned value => exact absurd rfl (stopped value)
  | raised error => exact settled
  | cancelled => exact settled

/-- The guarded loop: the outcome of a match, or speeds still to be put back, or an interruption
    after which the original speed was attempted last. -/
def Recovered (original : Int) (s : Track) :
    Ending ε (LinkBaudSweepOutcome Scan ⊕ List Int) → Prop
  | .returned (.inl outcome) => ∃ baud, hooks.Kept original s outcome baud
  | .returned (.inr _) => Due s
  | _ => s.changes = [] ∨ ∃ acknowledged,
      s.changes.getLast? = some ⟨original, false, acknowledged⟩

theorem guarded_ends (original : Int) (candidates : List Int) (s : Track) (due : Due s) :
    Ends ((hooks.walk original candidates []).finishing (hooks.interrupted original)) s
      (hooks.Recovered original) := by
  rw [ends_finishing]
  refine ends_mono ?_ (hooks.walk_ends original candidates [] s due)
  intro s' e walked
  cases e with
  | returned value => cases value <;> exact walked
  | raised error =>
    refine ends_mono ?_ (hooks.interrupted_ends original s' walked (.raised error) nofun)
    intro s'' c reached
    cases c <;> exact reached
  | cancelled =>
    refine ends_mono ?_ (hooks.interrupted_ends original s' walked .cancelled nofun)
    intro s'' c reached
    cases c <;> exact reached

/-- The sweep changed nothing, or it kept the speed it reports, or the last change it attempted
    is back to the original speed, was attempted to its end, and is reported as a restore only if
    it was acknowledged. -/
theorem runLinkBaudSweep_transactional (candidateBauds : List Int) (speed : Int) :
    Ends (hooks.runLinkBaudSweep candidateBauds) (Track.start speed) fun s e =>
      s.changes = [] ∨
      (∃ outcome baud, e = .returned outcome ∧ outcome.scan.isSome = true ∧
        outcome.matchedBaud = some baud ∧ s.changes.getLast? = some ⟨baud, false, true⟩ ∧
        s.speed = baud) ∨
      ∃ original acknowledged, hooks.readBaud (Track.start speed) = .returned (some original) ∧
        s.changes.getLast? = some ⟨original, false, acknowledged⟩ ∧
        ∀ outcome, e = .returned outcome → outcome.matchedBaud = none ∧ outcome.scan = none ∧
          outcome.originalBaud = some original ∧
          (outcome.restored = true → acknowledged = true ∧ s.speed = original) := by
  have reads : Ends hooks.read (Track.start speed) fun s e =>
      s = (Track.start speed).answered ∧ e = hooks.readBaud (Track.start speed) := ⟨rfl, rfl⟩
  have fresh : Due (Track.start speed).answered := fun changed => absurd rfl changed
  rw [runLinkBaudSweep]
  refine ends_bind_of reads ?_ (fun _ _ reached => .inl (reached.1 ▸ rfl))
    (fun _ reached => .inl (reached.1 ▸ rfl))
  rintro s read ⟨rfl, answered⟩
  cases read with
  | none => exact .inl rfl
  | some original =>
    refine ends_bind_of (hooks.guarded_ends original candidateBauds _ fresh) ?_ ?_ ?_
    · intro s walked recovered
      cases walked with
      | inl outcome =>
        obtain ⟨baud, kept⟩ := recovered
        obtain ⟨scan, found, -⟩ := kept.matched
        exact .inr (.inl ⟨outcome, baud, rfl, by rw [found]; rfl, kept.matchedBaud, kept.last,
          kept.speed⟩)
      | inr attempted =>
        refine ends_bind_of (hooks.settle_ends original s recovered) ?_ ?_ ?_
        · intro s' restored settled
          refine settled.imp_right ?_
          rintro ⟨acknowledged, last, worth⟩
          refine .inr ⟨original, acknowledged, answered.symm, last, ?_⟩
          intro outcome ended
          cases ended
          exact ⟨rfl, rfl, rfl, worth restored rfl⟩
        · intro s' error settled
          refine settled.imp_right ?_
          rintro ⟨acknowledged, last, -⟩
          exact .inr ⟨original, acknowledged, answered.symm, last, nofun⟩
        · intro s' settled
          refine settled.imp_right ?_
          rintro ⟨acknowledged, last, -⟩
          exact .inr ⟨original, acknowledged, answered.symm, last, nofun⟩
    · intro s error recovered
      refine recovered.imp_right ?_
      rintro ⟨acknowledged, last⟩
      exact .inr ⟨original, acknowledged, answered.symm, last, nofun⟩
    · intro s recovered
      refine recovered.imp_right ?_
      rintro ⟨acknowledged, last⟩
      exact .inr ⟨original, acknowledged, answered.symm, last, nofun⟩

end Hooks
end LinkBaudSweep
