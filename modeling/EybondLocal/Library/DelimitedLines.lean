import Mathlib.Data.List.Infix
import Mathlib.Tactic.Common

/-!
Streams cut into lines by an end mark. A line has the mark at its end and nowhere else, so a
stream of lines has one first line, every part of it is a number of whole lines with the beginning
of another behind them (which holds of every stream of pieces), and every later part starts with
the end of a line.
-/
namespace DelimitedLines
variable {α : Type} {mark : α}

def IsLine (mark : α) (line : List α) : Prop := ∃ body, line = body ++ [mark] ∧ mark ∉ body

def splitLine [DecidableEq α] (mark : α) : List α → Option (List α × List α)
  | [] => none
  | x :: rest =>
    if x = mark then some ([x], rest)
    else (splitLine mark rest).map fun cut => (x :: cut.1, cut.2)

theorem IsLine.ne_nil {line : List α} (isLine : IsLine mark line) : line ≠ [] := by
  obtain ⟨body, rfl, _⟩ := isLine
  simp

theorem length_le_flatten {lines : List (List α)} (all : ∀ line ∈ lines, IsLine mark line) :
    lines.length ≤ lines.flatten.length := by
  induction lines with
  | nil => simp
  | cons line lines ih =>
    have positive := List.length_pos_iff.mpr (all line List.mem_cons_self).ne_nil
    have rest := ih fun other mem => all other (List.mem_cons_of_mem line mem)
    rw [List.flatten_cons, List.length_append, List.length_cons]
    omega

theorem line_unique {first second rest rest' : List α} (isFirst : IsLine mark first)
    (isSecond : IsLine mark second) (same : first ++ rest = second ++ rest') :
    first = second ∧ rest = rest' := by
  obtain ⟨body, rfl, plain⟩ := isFirst
  obtain ⟨other, rfl, plain'⟩ := isSecond
  simp only [List.append_assoc, List.singleton_append] at same
  induction body generalizing other with
  | nil =>
    cases other with
    | nil => simpa using same
    | cons y more =>
      simp only [List.nil_append, List.cons_append, List.cons.injEq] at same
      exact absurd (same.1 ▸ List.mem_cons_self) plain'
  | cons x body ih =>
    cases other with
    | nil =>
      simp only [List.nil_append, List.cons_append, List.cons.injEq] at same
      exact absurd (same.1 ▸ List.mem_cons_self) plain
    | cons y more =>
      simp only [List.cons_append, List.cons.injEq] at same
      rw [List.mem_cons, not_or] at plain plain'
      obtain ⟨lines, rests⟩ := ih plain.2 more plain'.2 same.2
      exact ⟨by rw [List.cons_append, lines, same.1, List.cons_append], rests⟩

theorem IsLine.suffix {line tail : List α} (isLine : IsLine mark line) (ends : tail <:+ line)
    (some_tail : tail ≠ []) : IsLine mark tail := by
  obtain ⟨body, rfl, plain⟩ := isLine
  obtain ⟨front, eq⟩ := ends
  obtain ⟨start, last, rfl⟩ := List.eq_nil_or_concat tail |>.resolve_left some_tail
  rw [List.concat_eq_append, ← List.append_assoc] at eq
  obtain ⟨bodies, marks⟩ := List.append_inj' eq rfl
  refine ⟨start, by rw [List.concat_eq_append, marks], fun inside => plain ?_⟩
  rw [← bodies]
  exact List.mem_append_right _ inside

section Splitting
variable [DecidableEq α]

theorem splitLine_append {line : List α} (isLine : IsLine mark line) (rest : List α) :
    splitLine mark (line ++ rest) = some (line, rest) := by
  obtain ⟨body, rfl, plain⟩ := isLine
  induction body with
  | nil => simp [splitLine]
  | cons x body ih =>
    rw [List.mem_cons, not_or] at plain
    simp only [List.cons_append, splitLine, Ne.symm plain.1, ↓reduceIte, ih plain.2, Option.map_some]

theorem splitLine_eq_none {buffer : List α} : splitLine mark buffer = none ↔ mark ∉ buffer := by
  induction buffer with
  | nil => simp [splitLine]
  | cons x rest ih =>
    by_cases hit : x = mark
    · simp [splitLine, hit]
    · simp [splitLine, hit, ih, Ne.symm hit]

theorem splitLine_some {buffer line rest : List α}
    (split : splitLine mark buffer = some (line, rest)) :
    IsLine mark line ∧ buffer = line ++ rest := by
  induction buffer generalizing line with
  | nil => cases split
  | cons x more ih =>
    by_cases hit : x = mark
    · simp only [splitLine, hit, ↓reduceIte, Option.some.injEq, Prod.mk.injEq] at split
      obtain ⟨rfl, rfl⟩ := split
      exact ⟨⟨[], rfl, by simp⟩, by simp [hit]⟩
    · simp only [splitLine, hit, ↓reduceIte, Option.map_eq_some_iff] at split
      obtain ⟨⟨tail, left⟩, later, eq⟩ := split
      cases eq
      obtain ⟨⟨body, rfl, plain⟩, rfl⟩ := ih later
      refine ⟨⟨x :: body, rfl, ?_⟩, rfl⟩
      rw [List.mem_cons, not_or]
      exact ⟨Ne.symm hit, plain⟩

end Splitting

/-- A part of a stream: whole pieces of it, and the beginning of the next one as long as there is
    one. -/
theorem part_of_stream {Piece : Type} {items : Piece → List α} {pieces : List Piece}
    {part later tail : List α} (positive : ∀ piece ∈ pieces, 0 < (items piece).length)
    (cut : part ++ later = pieces.flatMap items ++ tail) :
    ∃ done left start, pieces = done ++ left ∧ part = done.flatMap items ++ start ∧
      start ++ later = left.flatMap items ++ tail ∧
      (left = [] ∨ ∃ piece more, left = piece :: more ∧ start <+: items piece ∧
        start.length < (items piece).length) := by
  induction pieces generalizing part with
  | nil => exact ⟨[], [], part, rfl, rfl, cut, Or.inl rfl⟩
  | cons piece pieces ih =>
    rw [List.forall_mem_cons] at positive
    rw [List.flatMap_cons, List.append_assoc] at cut
    by_cases short : part.length < (items piece).length
    · refine ⟨[], piece :: pieces, part, rfl, rfl, ?_, Or.inr ⟨_, _, rfl, ?_, short⟩⟩
      · rw [cut, List.flatMap_cons, List.append_assoc]
      · exact List.prefix_of_prefix_length_le ⟨later, cut⟩ (List.prefix_append _ _)
          (Nat.le_of_lt short)
    · have whole : items piece <+: part :=
        List.prefix_of_prefix_length_le (List.prefix_append _ _) ⟨later, cut⟩ (by omega)
      obtain ⟨more, rfl⟩ := whole
      rw [List.append_assoc] at cut
      obtain ⟨done, left, start, rfl, rfl, onward, state⟩ := ih positive.2 (List.append_cancel_left cut)
      refine ⟨piece :: done, left, start, rfl, ?_, onward, state⟩
      rw [List.flatMap_cons, List.append_assoc]

theorem part_of_lines {lines : List (List α)} {part rest : List α}
    (all : ∀ line ∈ lines, IsLine mark line) (cut : part ++ rest = lines.flatten) :
    ∃ done left start, lines = done ++ left ∧ part = done.flatten ++ start ∧
      start ++ rest = left.flatten ∧
      (start = [] ∨ ∃ line more, left = line :: more ∧ start <+: line ∧ start.length < line.length) := by
  have positive : ∀ line ∈ lines, 0 < (id line : List α).length := by
    intro line mem
    exact List.length_pos_iff.mpr (all line mem).ne_nil
  have whole : part ++ rest = lines.flatMap id ++ [] := by
    rw [cut, List.flatMap_id, List.append_nil]
  obtain ⟨done, left, start, split, taken, onward, state⟩ := part_of_stream positive whole
  rw [List.flatMap_id] at taken
  rw [List.flatMap_id, List.append_nil] at onward
  refine ⟨done, left, start, split, taken, onward, ?_⟩
  rcases state with rfl | begun
  · exact Or.inl (List.append_eq_nil_iff.mp onward).1
  · exact Or.inr begun

/-- The first line of a later part of a stream of lines is the end of one of the lines, with whole
    lines behind it. -/
theorem first_of_suffix {lines : List (List α)} {line rest : List α}
    (all : ∀ line ∈ lines, IsLine mark line) (isLine : IsLine mark line)
    (part : line ++ rest <:+ lines.flatten) :
    ∃ whole left, line <:+ whole ∧ whole ∈ lines ∧ left <:+ lines ∧ rest = left.flatten := by
  induction lines with
  | nil =>
    rw [List.flatten_nil, List.suffix_nil, List.append_eq_nil_iff] at part
    exact absurd part.1 isLine.ne_nil
  | cons first lines ih =>
    have later : ∀ other ∈ lines, IsLine mark other := by
      intro other mem
      exact all other (List.mem_cons_of_mem first mem)
    rw [List.flatten_cons] at part
    obtain ⟨front, cut⟩ := part
    rcases List.append_eq_append_iff.mp cut with ⟨tail, begins, behind⟩ | ⟨tail, begins, behind⟩
    · by_cases empty : tail = []
      · rw [empty, List.nil_append] at behind
        obtain ⟨whole, left, ends, mem, suffix, eq⟩ := ih later ⟨[], by simp [behind]⟩
        exact ⟨whole, left, ends, List.mem_cons_of_mem _ mem, suffix.trans (List.suffix_cons _ _), eq⟩
      · have ends : tail <:+ first := ⟨front, begins.symm⟩
        have isTail := (all first List.mem_cons_self).suffix ends empty
        obtain ⟨rfl, rfl⟩ := line_unique isLine isTail behind
        exact ⟨first, lines, ends, List.mem_cons_self, List.suffix_cons _ _, rfl⟩
    · have inside : line ++ rest <:+ lines.flatten := ⟨tail, behind.symm⟩
      obtain ⟨whole, left, ends, mem, suffix, eq⟩ := ih later inside
      exact ⟨whole, left, ends, List.mem_cons_of_mem _ mem, suffix.trans (List.suffix_cons _ _), eq⟩

end DelimitedLines
