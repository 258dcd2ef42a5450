import Mathlib.Data.List.Basic
import Mathlib.Tactic.Common

/-!
The greedy scan that keeps one representative of each class it meets: an element related to
something kept is dropped, any other is kept. Over a relation that is not transitive the first
element decides alone whether one representative is enough, so the order of the scan matters.
-/
namespace Representatives
variable {α : Type} (same : α → α → Bool)

def keep (kept : List α) (x : α) : List α := if kept.any (same · x) then kept else kept ++ [x]

def scan (xs : List α) : List α := xs.foldl (keep same) []

variable {same}

theorem length_le_keep (kept : List α) (x : α) : kept.length ≤ (keep same kept x).length := by
  unfold keep
  split
  · exact Nat.le_refl _
  · rw [List.length_append]
    omega

theorem length_le_foldl (xs kept : List α) : kept.length ≤ (xs.foldl (keep same) kept).length := by
  induction xs generalizing kept with
  | nil => exact Nat.le_refl _
  | cons x rest ih => exact Nat.le_trans (length_le_keep kept x) (ih _)

theorem scan_one_iff (first : α) (rest : List α) :
    (scan same (first :: rest)).length ≤ 1 ↔ ∀ x ∈ rest, same first x = true := by
  have start : scan same (first :: rest) = rest.foldl (keep same) [first] := by
    simp [scan, keep]
  rw [start]
  clear start
  induction rest with
  | nil => simp
  | cons x rest ih =>
    rw [List.foldl_cons, List.forall_mem_cons]
    cases related : same first x with
    | true =>
      have dropped : keep same [first] x = [first] := by simp [keep, related]
      rw [dropped]
      simpa using ih
    | false =>
      have kept : keep same [first] x = [first, x] := by simp [keep, related]
      have grown := @length_le_foldl α same rest [first, x]
      rw [kept]
      simp only [List.length_cons, List.length_nil] at grown
      simp only [Bool.false_eq_true, false_and, iff_false]
      omega

end Representatives
