import Mathlib.Tactic.Common

/-!
Runs of a system given by a total step function. The action carries every choice
of the environment, so one list of actions is one run and quantifying over lists
quantifies over all schedules. An action that is not enabled leaves the state alone.
-/
namespace Execution
variable {σ α : Type}

def run (step : σ → α → σ) (s : σ) (actions : List α) : σ := actions.foldl step s

/-- `holds` in every state the run passes through, the first and the last included. -/
def EveryState (step : σ → α → σ) (holds : σ → Prop) : σ → List α → Prop
  | s, [] => holds s
  | s, a :: rest => holds s ∧ EveryState step holds (step s a) rest

def EveryStep (step : σ → α → σ) (admits : σ → α → Prop) : σ → List α → Prop
  | _, [] => True
  | s, a :: rest => admits s a ∧ EveryStep step admits (step s a) rest

variable {step : σ → α → σ} {holds support : σ → Prop} {admits : σ → α → Prop}

/-- An invariant whose preservation needs the steps to be admitted. -/
theorem everyState_of_everyStep (preserved : ∀ s a, holds s → admits s a → holds (step s a))
    {s : σ} (start : holds s) {actions : List α} (admitted : EveryStep step admits s actions) :
    EveryState step holds s actions := by
  induction actions generalizing s with
  | nil => exact start
  | cons a rest ih =>
    obtain ⟨now, later⟩ := admitted
    exact ⟨start, ih (preserved s a start now) later⟩

/-- What every admitted step does from a state of the invariant holds of every step of a run. -/
theorem everyStep_of_invariant {safe : σ → α → Prop}
    (preserved : ∀ s a, holds s → admits s a → holds (step s a))
    (step_safe : ∀ s a, holds s → admits s a → safe s a) {s : σ} (start : holds s)
    {actions : List α} (admitted : EveryStep step admits s actions) :
    EveryStep step safe s actions := by
  induction actions generalizing s with
  | nil => trivial
  | cons a rest ih =>
    obtain ⟨now, later⟩ := admitted
    exact ⟨step_safe s a start now, ih (preserved s a start now) later⟩

theorem everyState_start {s : σ} {actions : List α} (h : EveryState step holds s actions) :
    holds s := by
  cases actions with
  | nil => exact h
  | cons a rest => exact h.1

theorem everyState_mono {stronger : σ → Prop} (implies : ∀ s, stronger s → holds s) {s : σ}
    {actions : List α} (h : EveryState step stronger s actions) :
    EveryState step holds s actions := by
  induction actions generalizing s with
  | nil => exact implies s h
  | cons a rest ih => exact ⟨implies s h.1, ih h.2⟩

theorem everyStep_mono {weaker : σ → α → Prop} (implies : ∀ s a, admits s a → weaker s a) {s : σ}
    {actions : List α} (h : EveryStep step admits s actions) : EveryStep step weaker s actions := by
  induction actions generalizing s with
  | nil => trivial
  | cons a rest ih => exact ⟨implies s a h.1, ih h.2⟩

theorem everyStep_append {s : σ} {first second : List α}
    (admitted : EveryStep step admits s (first ++ second)) :
    EveryStep step admits s first ∧ EveryStep step admits (run step s first) second := by
  induction first generalizing s with
  | nil => exact ⟨trivial, admitted⟩
  | cons a rest ih =>
    obtain ⟨now, later⟩ := admitted
    exact ⟨⟨now, (ih later).1⟩, (ih later).2⟩

theorem everyStep_true (s : σ) (actions : List α) : EveryStep step (fun _ _ => True) s actions := by
  induction actions generalizing s with
  | nil => trivial
  | cons a rest ih => exact ⟨trivial, ih (step s a)⟩

theorem everyState_run {s : σ} {actions : List α} (h : EveryState step holds s actions) :
    holds (run step s actions) := by
  induction actions generalizing s with
  | nil => exact h
  | cons a rest ih => exact ih h.2

/-- When a step keeps the property exactly if it is admitted, the runs that keep the
    property throughout are exactly those whose steps are all admitted. The unconditional
    invariant `support` is available at every step. -/
theorem everyState_iff_everyStep (supported : ∀ s a, support s → support (step s a))
    (exact_step : ∀ s a, support s → holds s → (holds (step s a) ↔ admits s a))
    {s : σ} (valid : support s) (start : holds s) (actions : List α) :
    EveryState step holds s actions ↔ EveryStep step admits s actions := by
  induction actions generalizing s with
  | nil => exact ⟨fun _ => trivial, fun _ => start⟩
  | cons a rest ih =>
    constructor
    · rintro ⟨_, later⟩
      have next := everyState_start later
      exact ⟨(exact_step s a valid start).mp next, (ih (supported s a valid) next).mp later⟩
    · rintro ⟨now, later⟩
      have next := (exact_step s a valid start).mpr now
      exact ⟨start, (ih (supported s a valid) next).mpr later⟩

/-- The same equivalence when both the invariant and the exactness of a step need the
    environment to keep to `guard`. -/
theorem everyState_iff_everyStep_of_guard {guard : σ → α → Prop}
    (supports : ∀ s, support s → holds s)
    (preserved : ∀ s a, support s → guard s a → admits s a → support (step s a))
    (exact_step : ∀ s a, support s → guard s a → holds (step s a) → admits s a)
    {s : σ} (valid : support s) {actions : List α} (guarded : EveryStep step guard s actions) :
    EveryState step holds s actions ↔ EveryStep step admits s actions := by
  induction actions generalizing s with
  | nil => exact ⟨fun _ => trivial, fun _ => supports s valid⟩
  | cons a rest ih =>
    obtain ⟨guardedNow, guardedLater⟩ := guarded
    constructor
    · rintro ⟨_, later⟩
      have now := exact_step s a valid guardedNow (everyState_start later)
      exact ⟨now, (ih (preserved s a valid guardedNow now) guardedLater).mp later⟩
    · rintro ⟨now, later⟩
      exact ⟨supports s valid, (ih (preserved s a valid guardedNow now) guardedLater).mpr later⟩

/-- Two properties of steps that agree on the states of an invariant, which the steps with the
    second property keep, hold of the same runs. -/
theorem everyStep_iff_everyStep {safe : σ → α → Prop}
    (preserved : ∀ s a, support s → admits s a → support (step s a))
    (exact_step : ∀ s a, support s → (safe s a ↔ admits s a)) {s : σ} (valid : support s)
    (actions : List α) : EveryStep step safe s actions ↔ EveryStep step admits s actions := by
  induction actions generalizing s with
  | nil => exact Iff.rfl
  | cons a rest ih =>
    constructor
    · rintro ⟨now, later⟩
      have admitted := (exact_step s a valid).mp now
      exact ⟨admitted, (ih (preserved s a valid admitted)).mp later⟩
    · rintro ⟨now, later⟩
      exact ⟨(exact_step s a valid).mpr now, (ih (preserved s a valid now)).mpr later⟩

instance decidableEveryStep [∀ s a, Decidable (admits s a)] :
    ∀ (s : σ) (actions : List α), Decidable (EveryStep step admits s actions)
  | _, [] => isTrue trivial
  | s, a :: rest =>
    have : Decidable (EveryStep step admits (step s a) rest) := decidableEveryStep _ rest
    inferInstanceAs (Decidable (admits s a ∧ EveryStep step admits (step s a) rest))

end Execution
