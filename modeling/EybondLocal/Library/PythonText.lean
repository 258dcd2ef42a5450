import EybondLocal.Library.StripText
import Mathlib.Algebra.Group.Nat.Defs
import Mathlib.Data.Bool.AllAny
import Mathlib.Tactic.Common

/-!
More of Python's `str`: `split` at one character, `int(text)`, `isascii`, and
`upper` for the callers that go on only when the result is ASCII. A text is cut,
trimmed and read code point by code point, so every rule is a rule on lists.
-/
namespace PythonText
open StripText

def splitText (separator : Char) (s : String) : List String :=
  (s.toList.splitOn separator).map String.ofList

def isAscii (s : String) : Bool := s.toList.all fun c => c.toNat < 128

/-- Where the runs of ten decimal digits start in Unicode 16, the version of Python 3.14. -/
def decimalZeros : List Nat :=
  [0x30, 0x660, 0x6F0, 0x7C0, 0x966, 0x9E6, 0xA66, 0xAE6, 0xB66, 0xBE6, 0xC66, 0xCE6, 0xD66,
    0xDE6, 0xE50, 0xED0, 0xF20, 0x1040, 0x1090, 0x17E0, 0x1810, 0x1946, 0x19D0, 0x1A80, 0x1A90,
    0x1B50, 0x1BB0, 0x1C40, 0x1C50, 0xA620, 0xA8D0, 0xA900, 0xA9D0, 0xA9F0, 0xAA50, 0xABF0,
    0xFF10, 0x104A0, 0x10D30, 0x10D40, 0x11066, 0x110F0, 0x11136, 0x111D0, 0x112F0, 0x11450,
    0x114D0, 0x11650, 0x116C0, 0x116D0, 0x116DA, 0x11730, 0x118E0, 0x11950, 0x11BF0, 0x11C50,
    0x11D50, 0x11DA0, 0x11F50, 0x16130, 0x16A60, 0x16AC0, 0x16B50, 0x16D70, 0x1CCF0, 0x1D7CE,
    0x1D7D8, 0x1D7E2, 0x1D7EC, 0x1D7F6, 0x1E140, 0x1E2F0, 0x1E4F0, 0x1E5F1, 0x1E950, 0x1FBF0]

def decimalValue (c : Char) : Option Nat :=
  (decimalZeros.find? fun start => start ≤ c.toNat && c.toNat < start + 10).map (c.toNat - ·)

def laterDigits : List Char → Option (List Nat)
  | [] => some []
  | '_' :: c :: rest => (decimalValue c).bind fun d => (laterDigits rest).map (d :: ·)
  | c :: rest => (decimalValue c).bind fun d => (laterDigits rest).map (d :: ·)

/-- `sys.get_int_max_str_digits()`: a longer literal is a `ValueError`. -/
def maxStrDigits : Nat := 4300

def unsignedInt : List Char → Option Nat
  | [] => none
  | c :: rest => do
    let first ← decimalValue c
    let later ← laterDigits rest
    if maxStrDigits < (first :: later).length then none
    else some ((first :: later).foldl (fun total d => 10 * total + d) 0)

def intSpace (c : Char) : Bool := isSpace c && !(28 ≤ c.toNat && c.toNat ≤ 31)

def parseInt (text : String) : Option Int :=
  match stripBy intSpace text.toList with
  | '+' :: digits => (unsignedInt digits).map Int.ofNat
  | '-' :: digits => (unsignedInt digits).map fun n => -(n : Int)
  | digits => (unsignedInt digits).map Int.ofNat

def upperAscii (c : Char) : Option (List Char) :=
  if c.toNat < 128 then some [c.toUpper]
  else match c.toNat with
    | 0xDF => some ['S', 'S']
    | 0x131 => some ['I']
    | 0x17F => some ['S']
    | 0xFB00 => some ['F', 'F']
    | 0xFB01 => some ['F', 'I']
    | 0xFB02 => some ['F', 'L']
    | 0xFB03 => some ['F', 'F', 'I']
    | 0xFB04 => some ['F', 'F', 'L']
    | 0xFB05 => some ['S', 'T']
    | 0xFB06 => some ['S', 'T']
    | _ => none

def upperChars : List Char → Option (List Char)
  | [] => some []
  | c :: rest => do return (← upperAscii c) ++ (← upperChars rest)

def asciiUpper (text : String) : Option String := (upperChars text.toList).map String.ofList

/-- Python's `str.lower` and `str.casefold`, with the laws of `lower` that callers rely on:
    an empty text and a lower-case one stay as they are, and no white space appears at an end. -/
structure CaseTables where
  lower : String → String
  casefold : String → String
  lower_empty : lower "" = ""
  lower_lower : ∀ s, lower (lower s) = lower s
  strip_lower : ∀ s, strip s = s → strip (lower s) = lower s

theorem splitText_single {separator : Char} {s : String} (plain : separator ∉ s.toList) :
    splitText separator s = [s] := by
  simp [splitText, List.splitOn_eq_singleton plain]

theorem splitText_cons {separator : Char} {first : String} (plain : separator ∉ first.toList)
    (rest : String) :
    splitText separator (first ++ String.ofList [separator] ++ rest) =
      first :: splitText separator rest := by
  have cut : (first ++ String.ofList [separator] ++ rest).toList =
      first.toList ++ separator :: rest.toList := by simp
  rw [splitText, cut, List.splitOn_append_cons_self_of_not_mem plain]
  simp [splitText]

theorem stripBy_eq_self {α : Type} {p : α → Bool} {l : List α}
    (head : ∀ x ∈ l.head?, p x = false) (last : ∀ x ∈ l.getLast?, p x = false) :
    stripBy p l = l := by
  rw [stripBy, dropWhile_of_head_fails p l head]
  rcases List.eq_nil_or_concat l with rfl | ⟨start, x, rfl⟩
  · rfl
  · have visible : p x = false := last x (by simp)
    simp [visible]

theorem head_of_stripBy_eq_self {α : Type} {p : α → Bool} {l : List α}
    (trimmed : stripBy p l = l) : ∀ x ∈ l.head?, p x = false := by
  have head := rdropWhile_keeps_head p (l.dropWhile p) (dropWhile_head_fails p l)
  rwa [show (l.dropWhile p).rdropWhile p = l from trimmed] at head

theorem last_of_stripBy_eq_self {α : Type} {p : α → Bool} {l : List α}
    (trimmed : stripBy p l = l) : ∀ x ∈ l.getLast?, p x = false := by
  intro x member
  rw [← trimmed, stripBy] at member
  obtain ⟨nonempty, eq⟩ := List.mem_getLast?_eq_getLast member
  have fails := List.rdropWhile_last_not p (l.dropWhile p) nonempty
  rw [eq]
  simpa using fails

theorem strip_eq_self_iff (s : String) : strip s = s ↔ stripBy isSpace s.toList = s.toList := by
  rw [strip, ← String.toList_inj, String.toList_ofList]

theorem stripBy_of_none {α : Type} {p : α → Bool} {l : List α}
    (none : ∀ x ∈ l, p x = false) : stripBy p l = l :=
  stripBy_eq_self (fun x member => none x (List.mem_of_mem_head? member))
    (fun x member => none x (List.mem_of_getLast? member))

theorem strip_joined {first last : String} (middle : String) (trimmedFirst : strip first = first)
    (startsVisibly : first ≠ "") (trimmedLast : strip last = last) (endsVisibly : last ≠ "") :
    strip (first ++ middle ++ last) = first ++ middle ++ last := by
  rw [strip_eq_self_iff] at trimmedFirst trimmedLast ⊢
  have firstNonempty : first.toList ≠ [] := by simpa using startsVisibly
  have lastNonempty : last.toList ≠ [] := by simpa using endsVisibly
  rw [String.toList_append, String.toList_append]
  apply stripBy_eq_self
  · rw [List.append_assoc, List.head?_append_of_ne_nil _ firstNonempty]
    exact head_of_stripBy_eq_self trimmedFirst
  · rw [List.getLast?_append_of_ne_nil _ lastNonempty]
    exact last_of_stripBy_eq_self trimmedLast

def Raised (c : Char) (images : List Char) : Prop :=
  images ≠ [] ∧ (∀ d ∈ images, upperAscii d = some [d]) ∧
    (isSpace c = false → ∀ d ∈ images, isSpace d = false)

theorem ascii_raised : ∀ n : Fin 128,
    upperAscii (Char.ofNat n).toUpper = some [(Char.ofNat n).toUpper] ∧
    (isSpace (Char.ofNat n) = false → isSpace (Char.ofNat n).toUpper = false) := by
  decide

theorem upperAscii_raised {c : Char} {images : List Char} (upper : upperAscii c = some images) :
    Raised c images := by
  unfold upperAscii at upper
  split at upper
  · rename_i ascii
    have facts := ascii_raised ⟨c.toNat, ascii⟩
    simp only [Char.ofNat_toNat] at facts
    cases upper
    simpa [Raised] using facts
  · split at upper <;> first
      | (cases upper
         exact ⟨by simp, List.all_iff_forall_prop.mp (by decide),
           fun _ => List.all_iff_forall_prop.mp (by decide)⟩)
      | cases upper

theorem upperChars_cons {c : Char} {rest images : List Char}
    (upper : upperChars (c :: rest) = some images) :
    ∃ first later, upperAscii c = some first ∧ upperChars rest = some later ∧
      images = first ++ later := by
  rw [upperChars] at upper
  cases here : upperAscii c with
  | none => simp [here] at upper
  | some first =>
    cases there : upperChars rest with
    | none => simp [here, there] at upper
    | some later =>
      simp only [here, there, Option.bind_eq_bind, Option.bind_some, Option.pure_def,
        Option.some.injEq] at upper
      exact ⟨first, later, rfl, rfl, upper.symm⟩

theorem upperChars_of_fixed {text : List Char} (fixed : ∀ c ∈ text, upperAscii c = some [c]) :
    upperChars text = some text := by
  induction text with
  | nil => rfl
  | cons c rest ih =>
    have tail := ih fun d member => fixed d (List.mem_cons_of_mem c member)
    simp [upperChars, fixed c List.mem_cons_self, tail]

theorem upperChars_fixed {text images : List Char} (upper : upperChars text = some images) :
    ∀ d ∈ images, upperAscii d = some [d] := by
  induction text generalizing images with
  | nil =>
    cases upper
    simp
  | cons c rest ih =>
    obtain ⟨first, later, here, there, rfl⟩ := upperChars_cons upper
    intro d member
    rcases List.mem_append.mp member with early | late
    · exact (upperAscii_raised here).2.1 d early
    · exact ih there d late

theorem upperChars_head {text images : List Char} (upper : upperChars text = some images)
    (visible : ∀ c ∈ text.head?, isSpace c = false) : ∀ d ∈ images.head?, isSpace d = false := by
  cases text with
  | nil =>
    cases upper
    simp
  | cons c rest =>
    obtain ⟨first, later, here, -, rfl⟩ := upperChars_cons upper
    obtain ⟨nonempty, -, clear⟩ := upperAscii_raised here
    intro d member
    rw [List.head?_append_of_ne_nil _ nonempty] at member
    exact clear (visible c (by simp)) d (List.mem_of_mem_head? member)

theorem upperChars_last {text images : List Char} (upper : upperChars text = some images)
    (visible : ∀ c ∈ text.getLast?, isSpace c = false) :
    ∀ d ∈ images.getLast?, isSpace d = false := by
  induction text generalizing images with
  | nil =>
    cases upper
    simp
  | cons c rest ih =>
    obtain ⟨first, later, here, there, rfl⟩ := upperChars_cons upper
    obtain ⟨nonempty, -, clear⟩ := upperAscii_raised here
    intro d member
    cases rest with
    | nil =>
      cases there
      rw [List.append_nil] at member
      exact clear (visible c (by simp)) d (List.mem_of_getLast? member)
    | cons next others =>
      obtain ⟨second, more, right, -, rfl⟩ := upperChars_cons there
      have tail : second ++ more ≠ [] := by simp [(upperAscii_raised right).1]
      rw [List.getLast?_append_of_ne_nil _ tail] at member
      exact ih there (by simpa using visible) d member

theorem asciiUpper_idempotent {text raised : String} (upper : asciiUpper text = some raised) :
    asciiUpper raised = some raised := by
  obtain ⟨images, chars, rfl⟩ := Option.map_eq_some_iff.mp upper
  rw [asciiUpper, String.toList_ofList, upperChars_of_fixed (upperChars_fixed chars)]
  rfl

theorem strip_asciiUpper {text raised : String} (upper : asciiUpper text = some raised)
    (trimmed : strip text = text) : strip raised = raised := by
  obtain ⟨images, chars, rfl⟩ := Option.map_eq_some_iff.mp upper
  rw [strip_eq_self_iff] at trimmed ⊢
  rw [String.toList_ofList]
  exact stripBy_eq_self (upperChars_head chars (head_of_stripBy_eq_self trimmed))
    (upperChars_last chars (last_of_stripBy_eq_self trimmed))

def lowerAscii (s : String) : String := String.ofList (s.toList.map Char.toLower)

theorem ascii_lower : ∀ n : Fin 128,
    (Char.ofNat n).toLower.toLower = (Char.ofNat n).toLower ∧
      isSpace (Char.ofNat n).toLower = isSpace (Char.ofNat n) := by
  decide

theorem char_lower (c : Char) : c.toLower.toLower = c.toLower ∧ isSpace c.toLower = isSpace c := by
  by_cases ascii : c.toNat < 128
  · have facts := ascii_lower ⟨c.toNat, ascii⟩
    simpa only [Char.ofNat_toNat] using facts
  · have same : c.toLower = c := by
      delta Char.toLower
      rw [dif_neg]
      rintro ⟨low, high⟩
      have bound : c.toNat ≤ 90 := by simpa [UInt32.le_iff_toNat_le] using high
      omega
    simp [same]

theorem strip_lowerAscii (s : String) (trimmed : strip s = s) :
    strip (lowerAscii s) = lowerAscii s := by
  rw [strip_eq_self_iff] at trimmed ⊢
  have head := head_of_stripBy_eq_self trimmed
  have last := last_of_stripBy_eq_self trimmed
  simp only [lowerAscii, String.toList_ofList]
  apply stripBy_eq_self
  · intro d member
    rw [List.head?_map] at member
    obtain ⟨c, first, rfl⟩ := Option.map_eq_some_iff.mp member
    rw [(char_lower c).2]
    exact head c first
  · intro d member
    rw [List.getLast?_map] at member
    obtain ⟨c, final, rfl⟩ := Option.map_eq_some_iff.mp member
    rw [(char_lower c).2]
    exact last c final

def CaseTables.ascii : CaseTables where
  lower := lowerAscii
  casefold := lowerAscii
  lower_empty := rfl
  lower_lower s := by
    simp only [lowerAscii, String.toList_ofList, List.map_map]
    exact congrArg String.ofList (List.map_congr_left fun c _ => (char_lower c).1)
  strip_lower := strip_lowerAscii

theorem decimalValue_digit {c : Char} (digit : c.isDigit = true) :
    decimalValue c = some (c.toNat - 48) := by
  have range : 48 ≤ c.toNat ∧ c.toNat ≤ 57 := by
    simpa [Char.isDigit, UInt32.le_iff_toNat_le] using digit
  have first : (decide (0x30 ≤ c.toNat) && decide (c.toNat < 0x30 + 10)) = true := by
    simp only [Bool.and_eq_true, decide_eq_true_eq]
    omega
  rw [decimalValue, decimalZeros, List.find?_cons, first]
  rfl

theorem laterDigits_of_digits {text : List Char} (digits : ∀ c ∈ text, c.isDigit = true) :
    laterDigits text = some (text.map fun c => c.toNat - 48) := by
  induction text with
  | nil => rfl
  | cons c rest ih =>
    have digit : c.isDigit = true := digits c (by simp)
    have tail := ih fun d member => digits d (by simp [member])
    have plain : c ≠ '_' := by
      rintro rfl
      exact absurd digit (by decide)
    rw [laterDigits]
    · simp [decimalValue_digit digit, tail]
    · intro d others eq
      exact absurd eq plain

theorem foldl_digits (text : List Char) (start : Nat) :
    (text.map fun c => c.toNat - 48).foldl (fun total d => 10 * total + d) start =
      Nat.ofDigitChars 10 text start := by
  rw [List.foldl_map]
  rfl

theorem unsignedInt_toDigits {n : Nat} (short : n < 10 ^ maxStrDigits) :
    unsignedInt (Nat.toDigits 10 n) = some n := by
  have digits : ∀ c ∈ Nat.toDigits 10 n, c.isDigit = true := fun c member =>
    Nat.isDigit_of_mem_toDigits (by omega) (by omega) member
  have length := (Nat.length_toDigits_le_iff (b := 10) (by omega)
    (by decide : 0 < maxStrDigits)).mpr short
  have value := Nat.ofDigitChars_ten_toDigits (n := n)
  cases text : Nat.toDigits 10 n with
  | nil => exact absurd text Nat.toDigits_ne_nil
  | cons c rest =>
    rw [text] at digits length value
    have first : c.isDigit = true := digits c (by simp)
    have later : laterDigits rest = some (rest.map fun d => d.toNat - 48) :=
      laterDigits_of_digits fun d member => digits d (List.mem_cons_of_mem c member)
    rw [← foldl_digits, List.map_cons] at value
    have fits : ¬ maxStrDigits < (rest.map fun d => d.toNat - 48).length + 1 := by
      simp only [List.length_map, List.length_cons] at length ⊢
      omega
    simp only [unsignedInt, decimalValue_digit first, later, Option.bind_eq_bind,
      Option.bind_some, List.length_cons, fits, ↓reduceIte, value]

theorem parseInt_toString {n : Nat} (short : n < 10 ^ maxStrDigits) :
    parseInt (toString (n : Int)) = some (n : Int) := by
  have text : (toString (n : Int)).toList = Nat.toDigits 10 n := by
    rw [show toString (n : Int) = n.repr from rfl, Nat.toList_repr]
  have digits : ∀ c ∈ Nat.toDigits 10 n, c.isDigit = true := fun c member =>
    Nat.isDigit_of_mem_toDigits (by omega) (by omega) member
  have unspaced : ∀ c ∈ Nat.toDigits 10 n, intSpace c = false := by
    intro c member
    have range : 48 ≤ c.toNat ∧ c.toNat ≤ 57 := by
      simpa [Char.isDigit, UInt32.le_iff_toNat_le] using digits c member
    simp only [intSpace, isSpace, Bool.and_eq_false_iff, Bool.or_eq_false_iff]
    left
    simp
    omega
  rw [parseInt, text, stripBy_of_none unspaced]
  split
  · rename_i rest eq
    exact absurd (digits '+' (by rw [eq]; simp)) (by decide)
  · rename_i rest eq
    exact absurd (digits '-' (by rw [eq]; simp)) (by decide)
  · rw [unsignedInt_toDigits short]
    rfl

end PythonText
