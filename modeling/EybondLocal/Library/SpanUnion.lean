import Mathlib.Algebra.Order.Ring.Int
import Mathlib.Data.List.Sort

/-!
Finite unions of integer spans. Spans in the order of their starts are merged where they overlap or
touch, which leaves one span for every maximal run of covered integers.
-/
namespace SpanUnion

structure Span where
  start : Int
  count : Int
  deriving DecidableEq, Repr

def Span.stop (s : Span) : Int := s.start + s.count

def Span.Holds (s : Span) (x : Int) : Prop := s.start ≤ x ∧ x < s.stop

def Covers (spans : List Span) (x : Int) : Prop := ∃ s ∈ spans, s.Holds x

def Apart (a b : Span) : Prop := a.stop < b.start

instance : DecidableRel Apart := fun a b => inferInstanceAs (Decidable (a.stop < b.start))

def absorb (current : Span) : List Span → List Span
  | [] => [current]
  | s :: rest =>
    if s.start ≤ current.stop then
      absorb ⟨current.start, max current.stop s.stop - current.start⟩ rest
    else current :: absorb s rest

def merge : List Span → List Span
  | [] => []
  | s :: rest => absorb s rest

theorem covers_cons {s : Span} {rest : List Span} {x : Int} :
    Covers (s :: rest) x ↔ s.Holds x ∨ Covers rest x := by
  simp only [Covers, List.mem_cons, exists_eq_or_imp]

theorem holds_join {a b : Span} (ordered : a.start ≤ b.start) (touch : b.start ≤ a.stop) (x : Int) :
    Span.Holds ⟨a.start, max a.stop b.stop - a.start⟩ x ↔ a.Holds x ∨ b.Holds x := by
  simp only [Span.Holds, Span.stop] at *
  omega

theorem covers_absorb {current : Span} {spans : List Span}
    (ordered : ∀ s ∈ spans, current.start ≤ s.start)
    (sorted : spans.Pairwise fun a b => a.start ≤ b.start) (x : Int) :
    Covers (absorb current spans) x ↔ current.Holds x ∨ Covers spans x := by
  induction spans generalizing current with
  | nil =>
    rw [absorb, covers_cons]
  | cons s rest ih =>
    obtain ⟨first, later⟩ := List.pairwise_cons.mp sorted
    obtain ⟨here, beyond⟩ := List.forall_mem_cons.mp ordered
    rw [absorb, covers_cons]
    split
    · next touch =>
      refine (ih ?_ later).trans ?_
      · exact beyond
      · rw [holds_join here touch, or_assoc]
    · rw [covers_cons, ih first later]

theorem covers_merge {spans : List Span} (sorted : spans.Pairwise fun a b => a.start ≤ b.start)
    (x : Int) : Covers (merge spans) x ↔ Covers spans x := by
  cases spans with
  | nil => rfl
  | cons s rest =>
    obtain ⟨first, later⟩ := List.pairwise_cons.mp sorted
    rw [merge, covers_absorb first later, covers_cons]

/-- Everything a pass emits starts where the growing span or a later one does, and is not empty. -/
theorem absorb_starts {current : Span} {spans : List Span} (low : Int)
    (here : low ≤ current.start ∧ 0 < current.count)
    (later : ∀ s ∈ spans, low ≤ s.start ∧ 0 < s.count) :
    ∀ s ∈ absorb current spans, low ≤ s.start ∧ 0 < s.count := by
  induction spans generalizing current with
  | nil =>
    intro s mem
    exact List.mem_singleton.mp mem ▸ here
  | cons next rest ih =>
    obtain ⟨nextHere, nextLater⟩ := List.forall_mem_cons.mp later
    rw [absorb]
    split
    · refine ih ⟨here.1, ?_⟩ nextLater
      have := here.2
      simp only [Span.stop]
      omega
    · intro s mem
      rcases List.mem_cons.mp mem with rfl | mem
      · exact here
      · exact ih nextHere nextLater s mem

theorem absorb_apart {current : Span} {spans : List Span}
    (positive : ∀ s ∈ spans, 0 < s.count) (here : 0 < current.count)
    (sorted : spans.Pairwise fun a b => a.start ≤ b.start) :
    (absorb current spans).Pairwise Apart := by
  induction spans generalizing current with
  | nil => exact List.pairwise_singleton _ _
  | cons s rest ih =>
    obtain ⟨first, later⟩ := List.pairwise_cons.mp sorted
    obtain ⟨now, beyond⟩ := List.forall_mem_cons.mp positive
    rw [absorb]
    split
    · refine ih beyond ?_ later
      simp only [Span.stop]
      omega
    · next gap =>
      refine List.pairwise_cons.mpr ⟨fun t mem => ?_, ih beyond now later⟩
      have above := (absorb_starts s.start ⟨le_rfl, now⟩
        (fun t mem => ⟨first t mem, beyond t mem⟩) t mem).1
      simp only [Apart]
      omega

theorem merge_apart {spans : List Span} (positive : ∀ s ∈ spans, 0 < s.count)
    (sorted : spans.Pairwise fun a b => a.start ≤ b.start) : (merge spans).Pairwise Apart := by
  cases spans with
  | nil => exact List.Pairwise.nil
  | cons s rest =>
    obtain ⟨now, beyond⟩ := List.forall_mem_cons.mp positive
    exact absorb_apart beyond now (List.pairwise_cons.mp sorted).2

theorem merge_positive {spans : List Span} (positive : ∀ s ∈ spans, 0 < s.count)
    (sorted : spans.Pairwise fun a b => a.start ≤ b.start) : ∀ s ∈ merge spans, 0 < s.count := by
  cases spans with
  | nil => exact fun s mem => absurd mem List.not_mem_nil
  | cons s rest =>
    obtain ⟨now, beyond⟩ := List.forall_mem_cons.mp positive
    obtain ⟨first, _⟩ := List.pairwise_cons.mp sorted
    exact fun t mem => (absorb_starts s.start ⟨le_rfl, now⟩
      (fun t mem => ⟨first t mem, beyond t mem⟩) t mem).2

theorem apart_either {spans : List Span} (apart : spans.Pairwise Apart) {s t : Span}
    (first : s ∈ spans) (second : t ∈ spans) : s = t ∨ Apart s t ∨ Apart t s := by
  induction spans with
  | nil => exact absurd first List.not_mem_nil
  | cons u rest ih =>
    obtain ⟨head, tail⟩ := List.pairwise_cons.mp apart
    rcases List.mem_cons.mp first with atHead | inside <;>
      rcases List.mem_cons.mp second with atHead' | inside'
    · exact Or.inl (atHead.trans atHead'.symm)
    · exact Or.inr (Or.inl (atHead ▸ head t inside'))
    · exact Or.inr (Or.inr (atHead' ▸ head s inside))
    · exact ih tail inside inside'

theorem holds_succ {spans : List Span} (apart : spans.Pairwise Apart) {s : Span} (mem : s ∈ spans)
    {x : Int} (holds : s.Holds x) (next : Covers spans (x + 1)) : s.Holds (x + 1) := by
  obtain ⟨t, member, above⟩ := next
  rcases apart_either apart mem member with same | gap | gap
  · exact same ▸ above
  · simp only [Span.Holds, Apart, Span.stop] at *
    omega
  · simp only [Span.Holds, Apart, Span.stop] at *
    omega

theorem holds_run {spans : List Span} (apart : spans.Pairwise Apart) {s : Span} (mem : s ∈ spans)
    {x : Int} (holds : s.Holds x) {n : Nat} (run : ∀ i ≤ n, Covers spans (x + i)) :
    s.Holds (x + n) := by
  induction n with
  | zero => simpa only [Nat.cast_zero, add_zero] using holds
  | succ n ih =>
    have next := run (n + 1) le_rfl
    push_cast at next ⊢
    rw [← add_assoc] at next ⊢
    exact holds_succ apart mem (ih fun i le => run i (Nat.le_succ_of_le le)) next

def Run (spans : List Span) (n : Nat) : Prop := ∃ x : Int, ∀ i ≤ n, Covers spans (x + i)

/-- Of spans that are apart, one is longer than `n` exactly where a run of more than `n` is
    covered. -/
theorem run_iff_long {spans : List Span} (apart : spans.Pairwise Apart) (n : Nat) :
    Run spans n ↔ ∃ s ∈ spans, (n : Int) < s.count := by
  constructor
  · rintro ⟨x, run⟩
    obtain ⟨s, mem, holds⟩ := run 0 (Nat.zero_le n)
    simp only [Nat.cast_zero, add_zero] at holds
    refine ⟨s, mem, ?_⟩
    have last := holds_run apart mem holds run
    simp only [Span.Holds, Span.stop] at holds last
    omega
  · rintro ⟨s, mem, long⟩
    refine ⟨s.start, fun i le => ⟨s, mem, ?_⟩⟩
    simp only [Span.Holds, Span.stop]
    omega

end SpanUnion
