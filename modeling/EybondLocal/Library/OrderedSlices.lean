import Mathlib.Data.List.Infix
import Mathlib.Tactic.Common

/-!
Items cut out of a sequence one after another: each item is carried by a contiguous
slice, and each later slice starts at or after the end of the one before it.
-/
namespace OrderedSlices
variable {α β : Type} {Carries : β → List α → Prop}

def Slices (Carries : β → List α → Prop) : List β → List α → Prop
  | [], _ => True
  | item :: later, whole =>
    ∃ gap piece rest, whole = gap ++ piece ++ rest ∧ Carries item piece ∧
      Slices Carries later rest

theorem slices_of_suffix {items : List β} {rest whole : List α} (suffix : rest <:+ whole)
    (h : Slices Carries items rest) : Slices Carries items whole := by
  cases items with
  | nil => trivial
  | cons item later =>
    obtain ⟨front, rfl⟩ := suffix
    obtain ⟨gap, piece, tail, rfl, carried, after⟩ := h
    exact ⟨front ++ gap, piece, tail, by simp, carried, after⟩

theorem slices_cons {item : β} {piece rest : List α} {later : List β} {whole : List α}
    (cut : whole = piece ++ rest) (carried : Carries item piece)
    (h : Slices Carries later rest) : Slices Carries (item :: later) whole :=
  ⟨[], piece, rest, by simp [cut], carried, h⟩

end OrderedSlices
