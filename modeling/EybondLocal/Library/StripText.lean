import Mathlib.Data.List.DropRight

/-!
Python `str` methods over Lean strings, as far as a verified program calls them.
A string is its list of code points; `len` is `String.length`, and `str.strip`
removes the characters `str.isspace` accepts from both ends.
-/
namespace StripText

def isSpace (c : Char) : Bool :=
  let n := c.toNat
  (9 ≤ n && n ≤ 13) || (28 ≤ n && n ≤ 32) || n == 0x85 || n == 0xA0 || n == 0x1680 ||
    (0x2000 ≤ n && n ≤ 0x200A) || n == 0x2028 || n == 0x2029 || n == 0x202F ||
    n == 0x205F || n == 0x3000

def stripBy {α : Type} (p : α → Bool) (l : List α) : List α := (l.dropWhile p).rdropWhile p

def strip (s : String) : String := String.ofList (stripBy isSpace s.toList)

def startsWith (s start : String) : Bool := start.toList.isPrefixOf s.toList

/-- `str.lower` on the characters whose lower-case form is ASCII: the ASCII capitals
    and the Kelvin sign. No other character can make a text equal an ASCII constant. -/
def lower (s : String) : String :=
  String.ofList (s.toList.map fun c => if c.toNat = 0x212A then 'k' else c.toLower)

theorem dropWhile_head_fails {α : Type} (p : α → Bool) (l : List α) :
    ∀ x ∈ (l.dropWhile p).head?, p x = false := by
  intro x hx
  have fails := List.head?_dropWhile_not p l
  simp_all

theorem rdropWhile_keeps_head {α : Type} (p : α → Bool) (l : List α)
    (fails : ∀ x ∈ l.head?, p x = false) :
    ∀ x ∈ (l.rdropWhile p).head?, p x = false := by
  intro x hx
  obtain ⟨suffix, eq⟩ := List.rdropWhile_prefix p (l := l)
  apply fails
  cases cut : l.rdropWhile p with
  | nil => simp [cut] at hx
  | cons y ys =>
    rw [cut] at eq hx
    simp only [← eq, List.cons_append, List.head?_cons] at hx ⊢
    exact hx

theorem dropWhile_of_head_fails {α : Type} (p : α → Bool) (l : List α)
    (fails : ∀ x ∈ l.head?, p x = false) : l.dropWhile p = l := by
  cases l with
  | nil => rfl
  | cons x xs => simp [fails x (by simp)]

theorem stripBy_idempotent {α : Type} (p : α → Bool) (l : List α) :
    stripBy p (stripBy p l) = stripBy p l := by
  have head := rdropWhile_keeps_head p (l.dropWhile p) (dropWhile_head_fails p l)
  simp only [stripBy]
  rw [dropWhile_of_head_fails p _ head]
  exact List.rdropWhile_idempotent p _

@[simp] theorem strip_idempotent (s : String) : strip (strip s) = strip s := by
  simp [strip, stripBy_idempotent]

@[simp] theorem strip_empty : strip "" = "" := by decide

theorem stripBy_eq_nil_iff {α : Type} (p : α → Bool) (l : List α) :
    stripBy p l = [] ↔ ∀ x ∈ l, p x = true := by
  constructor
  · intro empty
    by_contra kept
    have dropped : l.dropWhile p ≠ [] := by
      rw [ne_eq, List.dropWhile_eq_nil_iff]
      exact kept
    have head : p ((l.dropWhile p).head dropped) = false := List.head_dropWhile_not p dropped
    have all := List.rdropWhile_eq_nil_iff.mp empty
    have holds := all _ (List.head_mem dropped)
    rw [head] at holds
    cases holds
  · intro all
    simp [stripBy, List.dropWhile_eq_nil_iff.mpr all]

theorem strip_ne_empty {s : String} {c : Char} (present : c ∈ s.toList)
    (visible : isSpace c = false) : strip s ≠ "" := by
  intro empty
  have blank : stripBy isSpace s.toList = [] := by
    rw [← String.toList_ofList (l := stripBy isSpace s.toList)]
    exact congrArg String.toList empty
  have space := (stripBy_eq_nil_iff isSpace s.toList).mp blank c present
  rw [visible] at space
  cases space

theorem startsWith_iff (s start : String) :
    startsWith s start = true ↔ start.toList <+: s.toList := by
  simp [startsWith]

end StripText
