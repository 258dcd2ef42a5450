import EybondLocal.Library.PythonText
import Mathlib.Data.List.Infix

/-!
Texts that are put together from marked parts and taken apart again: `separator.join`, the text
behind a known start, `text.split(separator, 2)`, and `token in text`.
-/
namespace JoinedText
open StripText PythonText

def joinText (separator : Char) (texts : List String) : String :=
  String.ofList ([separator].intercalate (texts.map String.toList))

def afterStart (start s : String) : Option String :=
  if startsWith s start then some (String.ofList (s.toList.drop start.toList.length)) else none

def occursIn (token s : String) : Bool := decide (token.toList <:+: s.toList)

def cutAt (separator : Char) (s : String) : Option (String × String) :=
  if separator ∈ s.toList then
    some (String.ofList (s.toList.takeWhile (· ≠ separator)),
      String.ofList (s.toList.dropWhile (· ≠ separator)).tail)
  else none

theorem afterStart_append (start s : String) : afterStart start (start ++ s) = some s := by
  have starts : startsWith (start ++ s) start = true := by
    rw [startsWith_iff, String.toList_append]
    exact List.prefix_append _ _
  rw [afterStart, if_pos starts, String.toList_append, List.drop_left, String.ofList_toList]

theorem cutAt_append {separator : Char} {first : String} (plain : separator ∉ first.toList)
    (rest : String) :
    cutAt separator (first ++ String.ofList [separator] ++ rest) = some (first, rest) := by
  have cut : (first ++ String.ofList [separator] ++ rest).toList =
      first.toList ++ separator :: rest.toList := by simp
  have all : ∀ c ∈ first.toList, decide (c ≠ separator) = true := by
    intro c member
    simpa using fun eq : c = separator => plain (eq ▸ member)
  unfold cutAt
  rw [cut, if_pos (by simp), List.takeWhile_append_of_pos all, List.dropWhile_append_of_pos all]
  simp

theorem cutAt_append_of_mem {separator : Char} {first : String} (inside : separator ∈ first.toList)
    (rest : String) : ∃ before after,
      cutAt separator (first ++ String.ofList [separator] ++ rest) = some (before, after) ∧
        separator ∈ after.toList := by
  obtain ⟨front, back, split, plain⟩ := List.eq_append_cons_of_mem inside
  have outside : separator ∉ (String.ofList front).toList := by simpa using plain
  have cut := cutAt_append outside (String.ofList (back ++ separator :: rest.toList))
  have same : String.ofList front ++ String.ofList [separator] ++
      String.ofList (back ++ separator :: rest.toList) =
        first ++ String.ofList [separator] ++ rest := by
    apply String.toList_inj.mp
    simp [split]
  rw [same] at cut
  exact ⟨_, _, cut, by simp⟩

theorem infix_intercalate {α : Type} {separator part : List α} {parts : List (List α)}
    (member : part ∈ parts) : part <:+: separator.intercalate parts := by
  induction parts with
  | nil => cases member
  | cons first rest ih =>
    cases rest with
    | nil =>
      rw [List.mem_singleton.mp member, List.intercalate_singleton]
    | cons second rest =>
      rw [List.intercalate_cons_cons]
      rcases List.mem_cons.mp member with rfl | later
      · rw [List.append_assoc]
        exact (List.prefix_append _ _).isInfix
      · exact (ih later).trans (List.suffix_append _ _).isInfix

theorem intercalate_of_empty {α : Type} {separator : List α} {parts : List (List α)}
    (empty : ∀ part ∈ parts, part = []) : ∀ c ∈ separator.intercalate parts, c ∈ separator := by
  induction parts with
  | nil => exact nofun
  | cons first rest ih =>
    have none := empty first List.mem_cons_self
    have later := ih fun part member => empty part (List.mem_cons_of_mem first member)
    cases rest with
    | nil =>
      rw [List.intercalate_singleton, none]
      exact nofun
    | cons second rest =>
      intro c member
      rw [List.intercalate_cons_cons, none, List.nil_append] at member
      exact (List.mem_append.mp member).elim id (later c)

theorem toList_splitText (separator : Char) (s : String) :
    [separator].intercalate ((splitText separator s).map String.toList) = s.toList := by
  have texts : (splitText separator s).map String.toList = s.toList.splitOn separator := by
    simp [splitText]
  rw [texts, List.intercalate_splitOn]

theorem occursIn_iff (token s : String) : occursIn token s = true ↔ token.toList <:+: s.toList :=
  decide_eq_true_iff

theorem occursIn_piece {separator : Char} {piece token s : String}
    (member : piece ∈ splitText separator token) (found : occursIn token s = true) :
    occursIn piece s = true := by
  rw [occursIn_iff] at found ⊢
  refine List.IsInfix.trans ?_ found
  rw [← toList_splitText separator token]
  exact infix_intercalate (List.mem_map_of_mem member)

theorem exists_piece {separator c : Char} {s : String} (member : c ∈ s.toList)
    (other : c ≠ separator) : ∃ piece ∈ splitText separator s, piece ≠ "" := by
  by_contra! empty
  rw [← toList_splitText separator s] at member
  refine other (List.mem_singleton.mp (intercalate_of_empty ?_ c member))
  intro part among
  obtain ⟨piece, split, rfl⟩ := List.mem_map.mp among
  rw [empty piece split]
  rfl

theorem splitText_append (separator : Char) (first rest : String) :
    splitText separator (first ++ String.ofList [separator] ++ rest) =
      splitText separator first ++ splitText separator rest := by
  have cut : (first ++ String.ofList [separator] ++ rest).toList =
      first.toList ++ separator :: rest.toList := by simp
  rw [splitText, cut, List.splitOn_append_cons_self, List.map_append]
  rfl

theorem joinText_cons (separator : Char) (first second : String) (rest : List String) :
    joinText separator (first :: second :: rest) =
      first ++ String.ofList [separator] ++ joinText separator (second :: rest) := by
  apply String.toList_inj.mp
  simp [joinText, List.intercalate]

theorem splitText_joinText (separator : Char) {texts : List String} (some_text : texts ≠ []) :
    splitText separator (joinText separator texts) = texts.flatMap (splitText separator) := by
  induction texts with
  | nil => exact absurd rfl some_text
  | cons first rest ih =>
    cases rest with
    | nil =>
      have single : joinText separator [first] = first := by simp [joinText, List.intercalate]
      rw [single, List.flatMap_cons, List.flatMap_nil, List.append_nil]
    | cons second rest =>
      rw [joinText_cons, splitText_append, ih (List.cons_ne_nil _ _), ← List.flatMap_cons]

end JoinedText
