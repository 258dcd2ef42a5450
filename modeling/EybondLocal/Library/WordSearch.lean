import Mathlib.Data.List.Infix
import Mathlib.Tactic.Common

/-!
Where a word can occur in a text that was put together: never across a character that the word
does not have.
-/
namespace WordSearch
variable {α : Type} {word : List α}

theorem infix_break {c : α} (foreign : c ∉ word) (front back : List α) :
    word <:+: front ++ c :: back ↔ word <:+: front ∨ word <:+: back := by
  constructor
  · rintro ⟨before, after, split⟩
    rcases List.append_eq_append_iff.mp split with ⟨rest, left, right⟩ | ⟨rest, left, right⟩
    · -- The word ends before the character.
      exact .inl ⟨before, rest, left.symm⟩
    · cases rest with
      | nil =>
        rw [List.append_nil] at left
        exact .inl ⟨before, [], by rw [List.append_nil, left]⟩
      | cons d rest =>
        obtain ⟨rfl, tail⟩ := List.cons_eq_cons.mp right
        rcases List.append_eq_append_iff.mp left with ⟨gap, first, second⟩ | ⟨gap, first, second⟩
        · have member : c ∈ word := by
            rw [second]
            exact List.mem_append_right gap List.mem_cons_self
          exact absurd member foreign
        · cases gap with
          | nil =>
            rw [List.nil_append] at second
            have member : c ∈ word := by
              rw [← second]
              exact List.mem_cons_self
            exact absurd member foreign
          | cons e gap =>
            obtain ⟨-, inner⟩ := List.cons_eq_cons.mp second
            refine .inr ⟨gap, after, ?_⟩
            subst inner
            exact tail.symm
  · intro found
    rcases found with inFront | inBack
    · exact inFront.trans (List.prefix_append front _).isInfix
    · have later : back <:+ front ++ c :: back :=
        (List.suffix_cons c back).trans (List.suffix_append front _)
      exact inBack.trans later.isInfix

theorem infix_separated {separator : List α} (present : word ≠ [])
    (foreign : ∀ c ∈ separator, c ∉ word) (some' : separator ≠ []) (front back : List α) :
    word <:+: front ++ separator ++ back ↔ word <:+: front ∨ word <:+: back := by
  induction separator generalizing front with
  | nil => exact absurd rfl some'
  | cons c rest ih =>
    have first : c ∉ word := foreign c List.mem_cons_self
    rw [List.append_assoc, List.cons_append, infix_break first]
    cases rest with
    | nil => rw [List.nil_append]
    | cons d rest =>
      have inner := ih (fun e member => foreign e (List.mem_cons_of_mem c member))
        (List.cons_ne_nil d rest) []
      rw [List.nil_append] at inner
      rw [inner, List.infix_nil]
      simp [present]

theorem infix_after {separator : List α} (present : word ≠ [])
    (foreign : ∀ c ∈ separator, c ∉ word) (text : List α) :
    word <:+: separator ++ text ↔ word <:+: text := by
  induction separator with
  | nil => rw [List.nil_append]
  | cons c rest ih =>
    have broken := infix_break (foreign c List.mem_cons_self) [] (rest ++ text)
    rw [List.nil_append] at broken
    rw [List.cons_append, broken, List.infix_nil,
      ih fun d member => foreign d (List.mem_cons_of_mem c member)]
    simp [present]

theorem infix_before {separator : List α} (present : word ≠ [])
    (foreign : ∀ c ∈ separator, c ∉ word) (text : List α) :
    word <:+: text ++ separator ↔ word <:+: text := by
  cases separator with
  | nil => rw [List.append_nil]
  | cons c rest =>
    have apart := infix_separated present foreign (List.cons_ne_nil c rest) text []
    rw [List.append_nil] at apart
    rw [apart, List.infix_nil]
    simp [present]

theorem infix_intercalate {separator : List α} (present : word ≠ [])
    (foreign : ∀ c ∈ separator, c ∉ word) (some' : separator ≠ []) (parts : List (List α)) :
    word <:+: separator.intercalate parts ↔ ∃ part ∈ parts, word <:+: part := by
  induction parts with
  | nil => simp [List.intercalate, present]
  | cons part rest ih =>
    cases rest with
    | nil => simp [List.intercalate]
    | cons next rest =>
      rw [List.intercalate_cons_cons, infix_separated present foreign some', ih]
      simp only [List.mem_cons, exists_eq_or_imp]

theorem infix_flatMap {spell : α → List α} {mark : α}
    (unmarked : mark ∉ word) (plain : spell mark = [mark]) (text : List α)
    (found : word <:+: text.flatMap spell) :
    ∃ stretch, stretch <:+: text ∧ mark ∉ stretch ∧ word <:+: stretch.flatMap spell := by
  induction size : text.length using Nat.strongRecOn generalizing text with
  | ind n ih =>
    by_cases marked : mark ∈ text
    · obtain ⟨front, back, rfl⟩ := List.append_of_mem marked
      rw [List.length_append, List.length_cons] at size
      rw [List.flatMap_append, List.flatMap_cons, plain, List.singleton_append,
        infix_break unmarked] at found
      rcases found with inFront | inBack
      · obtain ⟨stretch, inside, clear, spelled⟩ := ih front.length (by omega) front inFront rfl
        exact ⟨stretch, inside.trans (List.prefix_append front _).isInfix, clear, spelled⟩
      · obtain ⟨stretch, inside, clear, spelled⟩ := ih back.length (by omega) back inBack rfl
        have later : back <:+ front ++ mark :: back :=
          (List.suffix_cons mark back).trans (List.suffix_append front _)
        exact ⟨stretch, inside.trans later.isInfix, clear, spelled⟩
    · exact ⟨text, List.infix_rfl, marked, found⟩

theorem flatMap_contained {spell : α → List α} {stretch text : List α} (inside : stretch <:+: text) :
    stretch.flatMap spell <:+: text.flatMap spell := by
  obtain ⟨before, after, rfl⟩ := inside
  rw [List.flatMap_append, List.flatMap_append]
  exact List.infix_append _ _ _

end WordSearch
