import Mathlib.Data.Finset.Card

/-!
Reference counters: a number that stands for how many of arbitrarily many parties are in a
given state. A party entering adds one, a party leaving takes one away, and the counter
reads zero exactly when nobody is there.
-/
namespace Counting
variable {ι : Type} {n : Nat} {P Q : ι → Prop}

def Counts (n : Nat) (P : ι → Prop) : Prop := ∃ members : Finset ι, members.card = n ∧
  ∀ i, P i ↔ i ∈ members

theorem counts_none (nobody : ∀ i, ¬ P i) : Counts 0 P :=
  ⟨∅, rfl, fun i => by simp [nobody i]⟩

theorem counts_congr (counts : Counts n P) (same : ∀ i, Q i ↔ P i) : Counts n Q := by
  obtain ⟨members, card, mem⟩ := counts
  exact ⟨members, card, fun i => (same i).trans (mem i)⟩

theorem counts_zero (counts : Counts 0 P) (i : ι) : ¬ P i := by
  obtain ⟨members, card, mem⟩ := counts
  rw [mem, Finset.card_eq_zero.mp card]
  exact Finset.notMem_empty i

theorem counts_pos (counts : Counts n P) {i : ι} (present : P i) : 0 < n := by
  obtain ⟨members, rfl, mem⟩ := counts
  exact Finset.card_pos.mpr ⟨i, (mem i).mp present⟩

variable [DecidableEq ι]

theorem counts_enter (counts : Counts n P) {who : ι} (absent : ¬ P who)
    (same : ∀ i, Q i ↔ i = who ∨ P i) : Counts (n + 1) Q := by
  obtain ⟨members, rfl, mem⟩ := counts
  have fresh : who ∉ members := fun present => absent ((mem who).mpr present)
  refine ⟨insert who members, Finset.card_insert_of_notMem fresh, ?_⟩
  intro i
  rw [same, Finset.mem_insert, mem]

theorem counts_leave (counts : Counts n P) {who : ι} (present : P who)
    (same : ∀ i, Q i ↔ i ≠ who ∧ P i) : Counts (n - 1) Q := by
  obtain ⟨members, rfl, mem⟩ := counts
  refine ⟨members.erase who, Finset.card_erase_of_mem ((mem who).mp present), ?_⟩
  intro i
  rw [same, Finset.mem_erase, mem]

end Counting
