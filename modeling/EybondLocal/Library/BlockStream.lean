import Mathlib.Data.List.Basic
import Mathlib.Tactic.Common

/-!
Streams of blocks that carry their own length. The length of the first block can be read off
the stream, so a stream splits into blocks in one way only, and what is left after whole
blocks were taken is again a stream of whole blocks.
-/
namespace BlockStream
variable {α : Type} {size : List α → Option Nat}

/-- Items whose number can be read off every sequence that begins with them. -/
@[ext] structure Block (size : List α → Option Nat) where
  items : List α
  nonempty : items ≠ []
  delimited : ∀ rest, size (items ++ rest) = some items.length

def stream (blocks : List (Block size)) : List α := (blocks.map Block.items).flatten

def Whole (size : List α → Option Nat) (items : List α) : Prop :=
  ∃ blocks : List (Block size), items = stream blocks

def Thinned (blocks : List (Block size)) (items : List α) : Prop :=
  ∃ kept, kept.Sublist blocks ∧ items = stream kept

@[simp] theorem stream_nil : stream ([] : List (Block size)) = [] := rfl

@[simp] theorem stream_cons (block : Block size) (rest : List (Block size)) :
    stream (block :: rest) = block.items ++ stream rest := rfl

@[simp] theorem stream_append (front back : List (Block size)) :
    stream (front ++ back) = stream front ++ stream back := by
  simp [stream]

theorem whole_items (block : Block size) : Whole size block.items := ⟨[block], by simp⟩

theorem thinned_stream (blocks : List (Block size)) : Thinned blocks (stream blocks) :=
  ⟨blocks, List.Sublist.refl blocks, rfl⟩

theorem head_unique {first second : Block size} {rest rest' : List α}
    (same : first.items ++ rest = second.items ++ rest') : first = second ∧ rest = rest' := by
  have sizes : some first.items.length = some second.items.length := by
    rw [← first.delimited rest, same, second.delimited rest']
  obtain ⟨items, left⟩ := List.append_inj same (Option.some.inj sizes)
  exact ⟨Block.ext items, left⟩

theorem split_front {front kept : List (Block size)} {rest : List α}
    (cut : stream front ++ rest = stream kept) : ∃ back, kept = front ++ back ∧ rest = stream back := by
  induction front generalizing kept with
  | nil => exact ⟨kept, rfl, by simpa using cut⟩
  | cons block more ih =>
    cases kept with
    | nil =>
      simp only [stream_cons, stream_nil, List.append_eq_nil_iff] at cut
      exact absurd cut.1.1 block.nonempty
    | cons other others =>
      simp only [stream_cons, List.append_assoc] at cut
      obtain ⟨rfl, left⟩ := head_unique cut
      obtain ⟨back, rfl, tail⟩ := ih left
      exact ⟨back, rfl, tail⟩

theorem Thinned.remove {blocks : List (Block size)} {front taken rest : List α}
    (thinned : Thinned blocks (front ++ (taken ++ rest))) (aligned : Whole size front)
    (whole : Whole size taken) : Thinned blocks (front ++ rest) := by
  obtain ⟨kept, sub, cut⟩ := thinned
  obtain ⟨frontBlocks, rfl⟩ := aligned
  obtain ⟨takenBlocks, rfl⟩ := whole
  obtain ⟨behind, rfl, later⟩ := split_front cut
  obtain ⟨back, rfl, last⟩ := split_front later
  refine ⟨frontBlocks ++ back, ?_, by rw [last, stream_append]⟩
  have shorter : (frontBlocks ++ back).Sublist (frontBlocks ++ (takenBlocks ++ back)) :=
    (List.Sublist.refl frontBlocks).append (List.sublist_append_right takenBlocks back)
  exact shorter.trans sub

theorem Thinned.next {blocks : List (Block size)} {front rest : List α}
    (thinned : Thinned blocks (front ++ rest)) (aligned : Whole size front) (more : rest ≠ []) :
    ∃ block : Block size, ∃ behind, rest = block.items ++ behind := by
  obtain ⟨kept, -, cut⟩ := thinned
  obtain ⟨frontBlocks, rfl⟩ := aligned
  obtain ⟨back, -, rfl⟩ := split_front cut
  cases back with
  | nil => exact absurd rfl more
  | cons block later => exact ⟨block, stream later, rfl⟩

end BlockStream
