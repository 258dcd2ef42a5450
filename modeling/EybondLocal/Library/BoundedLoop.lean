import Mathlib.Data.List.Basic

/-!
Loops that end in a result, run with a bound on their turns. A loop whose turns bring a measure down
ends within the measure, where its invariant holds; a natural measure is how much of a finite list
is not used yet.
-/
namespace BoundedLoop
variable {σ ρ : Type}

def runLoop (turn : σ → σ ⊕ ρ) : Nat → σ → Option ρ
  | 0, _ => none
  | fuel + 1, s =>
    match turn s with
    | .inl next => runLoop turn fuel next
    | .inr result => some result

theorem runLoop_ends {turn : σ → σ ⊕ ρ} {holds : σ → Prop} {measure : σ → Nat}
    (goes_on : ∀ s next, holds s → turn s = .inl next → holds next ∧ measure next < measure s)
    {fuel : Nat} {s : σ} (start : holds s) (enough : measure s < fuel) :
    ∃ last result, holds last ∧ turn last = .inr result ∧ runLoop turn fuel s = some result := by
  induction fuel generalizing s with
  | zero => exact absurd enough (Nat.not_lt_zero _)
  | succ fuel ih =>
    rw [runLoop]
    cases here : turn s with
    | inl next =>
      obtain ⟨holding, less⟩ := goes_on s next start here
      exact ih holding (by omega)
    | inr result => exact ⟨s, result, start, here, rfl⟩

section
variable {α : Type} [DecidableEq α]

def unused (all used : List α) : List α := all.filter (· ∉ used)

theorem unused_le {all used more : List α} (grows : used ⊆ more) :
    (unused all more).length ≤ (unused all used).length := by
  refine (List.monotone_filter_right all ?_).length_le
  intro a fresh
  have apart : a ∉ more := by simpa using fresh
  simpa using fun known => apart (grows known)

theorem unused_lt {all used more : List α} (grows : used ⊆ more) {a : α} (among : a ∈ all)
    (fresh : a ∉ used) (taken : a ∈ more) : (unused all more).length < (unused all used).length := by
  have sublist : (unused all more).Sublist (unused all used) := by
    refine List.monotone_filter_right all ?_
    intro b new
    have apart : b ∉ more := by simpa using new
    simpa using fun known => apart (grows known)
  refine Nat.lt_of_le_of_ne sublist.length_le ?_
  intro same
  have left : a ∈ unused all used := List.mem_filter.mpr ⟨among, by simpa using fresh⟩
  rw [← sublist.eq_of_length same] at left
  simpa [taken] using (List.mem_filter.mp left).2

theorem unused_length_le (all used : List α) : (unused all used).length ≤ all.length :=
  List.length_filter_le _ _

end

end BoundedLoop
