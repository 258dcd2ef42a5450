import EybondLocal.Library.HexText
import EybondLocal.Library.WordSearch
import Mathlib.Data.Char
import Mathlib.Data.List.Lex

/-!
`json.dumps(value, ensure_ascii=False)` in both layouts, and where a word can occur in what it
writes: in the spelling of one scalar or one key.
-/
namespace JsonWriter
open HexText WordSearch

abbrev Text := List Char

/-- A decoded document. A `float` is the text `json.dumps` writes for it. -/
inductive Json where
  | null
  | bool (b : Bool)
  | int (n : Int)
  | float (spelling : Text)
  | str (s : Text)
  | array (items : List Json)
  | object (entries : List (Text × Json))

structure Layout where
  indent : Option Nat := none
  sortKeys : Bool := false

def quotationMark : Char := Char.ofNat 34
def backslash : Char := Char.ofNat 92

def shortEscapes : List (Char × Char) :=
  [(quotationMark, quotationMark), (backslash, backslash), ('\n', 'n'), ('\r', 'r'), ('\t', 't'),
    (Char.ofNat 12, 'f'), (Char.ofNat 8, 'b')]

def escapeChar (c : Char) : Text :=
  match shortEscapes.lookup c with
  | some letter => [backslash, letter]
  | none =>
    if c.toNat < 32 then [backslash, 'u', '0', '0', digitOf (c.toNat / 16), digitOf (c.toNat % 16)]
    else [c]

def escape (s : Text) : Text := s.flatMap escapeChar

def quote (s : Text) : Text := [quotationMark] ++ escape s ++ [quotationMark]

def intText (n : Int) : Text := (toString n).toList

def Layout.lineBreak (layout : Layout) (depth : Nat) : Text :=
  match layout.indent with
  | none => []
  | some width => ['\n'] ++ List.replicate (width * depth) ' '

def Layout.itemSeparator (layout : Layout) (depth : Nat) : Text :=
  match layout.indent with
  | none => [',', ' ']
  | some _ => [','] ++ layout.lineBreak depth

def Layout.enclose (layout : Layout) (depth : Nat) (opening closing : Char) (parts : List Text) :
    Text :=
  if parts = [] then [opening, closing]
  else
    ([opening] ++ layout.lineBreak (depth + 1)) ++
      (layout.itemSeparator (depth + 1)).intercalate parts ++
        (layout.lineBreak depth ++ [closing])

def Layout.arrange (layout : Layout) (entries : List (Text × Text)) : List (Text × Text) :=
  if layout.sortKeys then entries.mergeSort fun left right => left.1 ≤ right.1 else entries

def writeEntry (entry : Text × Text) : Text := quote entry.1 ++ [':', ' '] ++ entry.2

mutual

def write (layout : Layout) : Nat → Json → Text
  | _, .null => "null".toList
  | _, .bool true => "true".toList
  | _, .bool false => "false".toList
  | _, .int n => intText n
  | _, .float spelling => spelling
  | _, .str s => quote s
  | depth, .array items => layout.enclose depth '[' ']' (writeItems layout (depth + 1) items)
  | depth, .object entries =>
    layout.enclose depth '\x7b' '\x7d'
      ((layout.arrange (writeEntries layout (depth + 1) entries)).map writeEntry)

def writeItems (layout : Layout) : Nat → List Json → List Text
  | _, [] => []
  | depth, item :: rest => write layout depth item :: writeItems layout depth rest

def writeEntries (layout : Layout) : Nat → List (Text × Json) → List (Text × Text)
  | _, [] => []
  | depth, (key, value) :: rest => (key, write layout depth value) :: writeEntries layout depth rest

end

def dumps (layout : Layout) (value : Json) : Text := write layout 0 value

def structural : List Char := [quotationMark, '\n', ' ', ',', ':', '[', ']', '\x7b', '\x7d']

structure Plain (word : Text) : Prop where
  foreign : ∀ c ∈ structural, c ∉ word
  digit : ∃ c ∈ word, c.isDigit = true

mutual

def spellings : Json → List Text
  | .null => []
  | .bool _ => []
  | .int n => [intText n]
  | .float spelling => [spelling]
  | .str s => [escape s]
  | .array items => itemSpellings items
  | .object entries => entrySpellings entries

def itemSpellings : List Json → List Text
  | [] => []
  | item :: rest => spellings item ++ itemSpellings rest

def entrySpellings : List (Text × Json) → List Text
  | [] => []
  | (key, value) :: rest => escape key :: (spellings value ++ entrySpellings rest)

end

variable {word : Text} (layout : Layout)

theorem Plain.present (plain : Plain word) : word ≠ [] := by
  obtain ⟨c, member, -⟩ := plain.digit
  exact List.ne_nil_of_mem member

theorem Plain.not_literal (plain : Plain word) {literal : Text}
    (letters : literal.any Char.isDigit = false) : ¬ word <:+: literal := by
  intro found
  obtain ⟨c, member, digit⟩ := plain.digit
  rw [List.any_eq_false] at letters
  exact letters c (found.subset member) digit

theorem lineBreak_structural (depth : Nat) : ∀ c ∈ layout.lineBreak depth, c ∈ structural := by
  intro c member
  unfold Layout.lineBreak at member
  split at member
  · cases member
  · rcases List.mem_append.mp member with newline | blank
    · rw [List.mem_singleton.mp newline]
      decide
    · rw [List.eq_of_mem_replicate blank]
      decide

theorem itemSeparator_structural (depth : Nat) :
    ∀ c ∈ layout.itemSeparator depth, c ∈ structural := by
  intro c member
  unfold Layout.itemSeparator at member
  split at member
  · exact List.all_iff_forall_prop.mp (by decide) c member
  · rcases List.mem_append.mp member with comma | blank
    · rw [List.mem_singleton.mp comma]
      decide
    · exact lineBreak_structural layout depth c blank

theorem itemSeparator_ne_nil (depth : Nat) : layout.itemSeparator depth ≠ [] := by
  unfold Layout.itemSeparator
  split <;> simp

theorem infix_quote_iff (plain : Plain word) (s : Text) : word <:+: quote s ↔ word <:+: escape s := by
  have mark : ∀ c ∈ [quotationMark], c ∉ word := by
    intro c member
    rw [List.mem_singleton.mp member]
    exact plain.foreign quotationMark (by decide)
  unfold quote
  rw [infix_before plain.present mark, infix_after plain.present mark]

theorem infix_enclose_iff (plain : Plain word) (depth : Nat) {opening closing : Char}
    (left : opening ∈ structural) (right : closing ∈ structural) (parts : List Text) :
    word <:+: layout.enclose depth opening closing parts ↔ ∃ part ∈ parts, word <:+: part := by
  have before : ∀ c ∈ [opening] ++ layout.lineBreak (depth + 1), c ∉ word := by
    intro c member
    rcases List.mem_append.mp member with bracket | blank
    · rw [List.mem_singleton.mp bracket]
      exact plain.foreign opening left
    · exact plain.foreign c (lineBreak_structural layout _ c blank)
  have after : ∀ c ∈ layout.lineBreak depth ++ [closing], c ∉ word := by
    intro c member
    rcases List.mem_append.mp member with blank | bracket
    · exact plain.foreign c (lineBreak_structural layout _ c blank)
    · rw [List.mem_singleton.mp bracket]
      exact plain.foreign closing right
  unfold Layout.enclose
  split
  · rename_i empty
    have brackets : ∀ c ∈ [opening, closing], c ∉ word := by
      intro c member
      rcases List.mem_pair.mp member with rfl | rfl
      · exact plain.foreign c left
      · exact plain.foreign c right
    have none := infix_before plain.present brackets []
    rw [List.nil_append] at none
    rw [none, empty, List.infix_nil]
    simp [plain.present]
  · rw [infix_before plain.present after, infix_after plain.present before,
      infix_intercalate plain.present ?_ (itemSeparator_ne_nil layout _)]
    exact fun c member => plain.foreign c (itemSeparator_structural layout _ c member)

theorem infix_writeEntry_iff (plain : Plain word) (entry : Text × Text) :
    word <:+: writeEntry entry ↔ word <:+: escape entry.1 ∨ word <:+: entry.2 := by
  have colon : ∀ c ∈ [':', ' '], c ∉ word := by
    intro c member
    refine plain.foreign c ?_
    rcases List.mem_pair.mp member with rfl | rfl <;> decide
  unfold writeEntry
  rw [infix_separated plain.present colon (by simp), infix_quote_iff plain]

theorem mem_arrange_iff (entries : List (Text × Text)) (entry : Text × Text) :
    entry ∈ layout.arrange entries ↔ entry ∈ entries := by
  unfold Layout.arrange
  split
  · exact List.mem_mergeSort
  · exact Iff.rfl

theorem infix_object_iff (plain : Plain word) (depth : Nat) (entries : List (Text × Text)) :
    word <:+: layout.enclose depth '\x7b' '\x7d' ((layout.arrange entries).map writeEntry) ↔
      ∃ entry ∈ entries, word <:+: escape entry.1 ∨ word <:+: entry.2 := by
  rw [infix_enclose_iff layout plain depth (by decide) (by decide)]
  constructor
  · rintro ⟨part, member, found⟩
    obtain ⟨entry, arranged, rfl⟩ := List.mem_map.mp member
    exact ⟨entry, (mem_arrange_iff layout entries entry).mp arranged,
      (infix_writeEntry_iff plain entry).mp found⟩
  · rintro ⟨entry, member, found⟩
    exact ⟨writeEntry entry,
      List.mem_map_of_mem ((mem_arrange_iff layout entries entry).mpr member),
      (infix_writeEntry_iff plain entry).mpr found⟩

mutual

theorem infix_write_iff (plain : Plain word) (depth : Nat) (value : Json) :
    word <:+: write layout depth value ↔ ∃ text ∈ spellings value, word <:+: text := by
  cases value with
  | null => simpa [write, spellings] using plain.not_literal (by decide : "null".toList.any _ = false)
  | bool b =>
    cases b with
    | true => simpa [write, spellings] using plain.not_literal (by decide : "true".toList.any _ = false)
    | false =>
      simpa [write, spellings] using plain.not_literal (by decide : "false".toList.any _ = false)
  | int n => simp [write, spellings]
  | float spelling => simp [write, spellings]
  | str s => simp [write, spellings, infix_quote_iff plain]
  | array items =>
    rw [write, spellings, infix_enclose_iff layout plain depth (by decide) (by decide)]
    exact infix_writeItems_iff plain (depth + 1) items
  | object entries =>
    rw [write, spellings, infix_object_iff layout plain]
    exact infix_writeEntries_iff plain (depth + 1) entries

theorem infix_writeItems_iff (plain : Plain word) (depth : Nat) (items : List Json) :
    (∃ part ∈ writeItems layout depth items, word <:+: part) ↔
      ∃ text ∈ itemSpellings items, word <:+: text := by
  cases items with
  | nil => simp [writeItems, itemSpellings]
  | cons item rest =>
    rw [writeItems, itemSpellings, List.exists_mem_cons_iff, infix_write_iff plain depth item,
      infix_writeItems_iff plain depth rest]
    simp only [List.mem_append, or_and_right, exists_or]

theorem infix_writeEntries_iff (plain : Plain word) (depth : Nat) (entries : List (Text × Json)) :
    (∃ entry ∈ writeEntries layout depth entries, word <:+: escape entry.1 ∨ word <:+: entry.2) ↔
      ∃ text ∈ entrySpellings entries, word <:+: text := by
  cases entries with
  | nil => simp [writeEntries, entrySpellings]
  | cons entry rest =>
    obtain ⟨key, value⟩ := entry
    rw [writeEntries, entrySpellings, List.exists_mem_cons_iff, List.exists_mem_cons_iff,
      infix_write_iff plain depth value, infix_writeEntries_iff plain depth rest, or_assoc]
    simp only [List.mem_append, or_and_right, exists_or]

end

theorem infix_dumps_iff (plain : Plain word) (value : Json) :
    word <:+: dumps layout value ↔ ∃ text ∈ spellings value, word <:+: text :=
  infix_write_iff layout plain 0 value

end JsonWriter
