import EybondLocal.Library.RunCover
import EybondLocal.Support.Masking

/-!
What masking leaves behind. A masked text has no run of ten digits, or is hex of bytes that have
none; two keys of a mapping become one exactly where they differ under the masks only; and a
masked value is masked again only where masked hex text reads as a long number. Tuples are not
looked into, and nothing is said about the texts inside them.
-/
namespace Masking
open HexText PythonText RunRewrite

section Runs
variable {α : Type} {digit : α → Bool} {star : α}

theorem longRunFrom_prefix {n count : Nat} (run rest : List α)
    (short : count + run.length < n) (outside : ∀ c ∈ rest.head?, digit c = false)
    (later : hasRun digit n rest = false) : longRunFrom digit n count (run ++ rest) = false := by
  induction run generalizing count with
  | nil =>
    rw [List.nil_append]
    cases rest with
    | nil =>
      simp only [longRunFrom, decide_eq_false_iff_not]
      simp only [List.length_nil] at short
      omega
    | cons c rest =>
      have out := outside c rfl
      simp only [longRunFrom, out, hasRun] at later ⊢
      simp only [List.length_nil] at short
      simp only [Bool.false_eq_true, if_false, Bool.or_eq_false_iff, decide_eq_false_iff_not]
        at later ⊢
      exact ⟨by omega, later.2⟩
  | cons c run ih =>
    simp only [List.length_cons] at short
    simp only [List.cons_append, longRunFrom]
    split
    · exact ih (by omega)
    · rw [Bool.or_eq_false_iff, decide_eq_false_iff_not]
      exact ⟨by omega, ih (by omega)⟩

theorem maskRun_long {run : List α} (long : minIdentifierDigits ≤ run.length) :
    maskRun star run = run.take 4 ++ (List.replicate (run.length - 8) star ++
      run.drop (run.length - 4)) := by
  unfold minIdentifierDigits at long
  have stars : max (run.length - 8) 1 = run.length - 8 := by omega
  have more : ¬ run.length ≤ 4 := by omega
  simp only [maskRun, minIdentifierDigits, long, if_true, maskIdentifierToken, more, if_false,
    stars, List.append_assoc]

theorem marks_maskRun (plain : digit star = false) :
    Marks digit minIdentifierDigits star (maskRun star) where
  short run few := by simp only [maskRun, Nat.not_le.mpr few, if_false]
  broken run long := by
    rw [maskRun_long long]
    unfold minIdentifierDigits at long ⊢
    obtain ⟨more, stars⟩ : ∃ more, run.length - 8 = more + 1 := ⟨run.length - 9, by omega⟩
    have ends : hasRun digit 10 (run.drop (run.length - 4)) = false := by
      rw [hasRun, ← List.append_nil (run.drop _)]
      exact longRunFrom_prefix _ [] (by rw [List.length_drop]; omega) (by simp) rfl
    have middle (k : Nat) :
        hasRun digit 10 (List.replicate k star ++ run.drop (run.length - 4)) = false := by
      induction k with
      | zero => exact ends
      | succ k ih =>
        rw [List.replicate_succ, List.cons_append, hasRun, longRunFrom, plain]
        simp only [Bool.false_eq_true, if_false, Bool.or_eq_false_iff, decide_eq_false_iff_not]
        exact ⟨by omega, ih⟩
    refine longRunFrom_prefix _ _ (by rw [List.length_take]; omega) ?_ (middle _)
    rw [stars, List.replicate_succ, List.cons_append]
    simpa using plain
  marked run long := by
    rw [maskRun_long long]
    unfold minIdentifierDigits at long
    refine List.mem_append_right _ (List.mem_append_left _ ?_)
    exact List.mem_replicate.mpr ⟨by omega, rfl⟩

/-- The characters of a run that the replacement stars: all but four at each end. -/
def Middle (run : List α) (j : Nat) : Prop :=
  minIdentifierDigits ≤ run.length ∧ 4 ≤ j ∧ j < run.length - 4

theorem veils_maskRun : Veils Middle star (maskRun star) where
  within run j hidden := by
    have := hidden.2.2
    omega
  marked run j hidden := by
    obtain ⟨long, after, before⟩ := hidden
    have first : (run.take 4).length = 4 := by
      unfold minIdentifierDigits at long
      rw [List.length_take]
      omega
    rw [maskRun_long long, List.getElem?_append_right (by omega),
      List.getElem?_append_left (by rw [List.length_replicate]; omega), List.getElem?_replicate,
      if_pos (by omega)]
  kept run j shown := by
    by_cases long : minIdentifierDigits ≤ run.length
    · have ends : j < 4 ∨ run.length - 4 ≤ j := by
        by_contra between
        exact shown ⟨long, by omega, by omega⟩
      have size : 10 ≤ run.length := long
      have first : (run.take 4).length = 4 := by
        rw [List.length_take]
        omega
      rw [maskRun_long long]
      rcases ends with front | back
      · rw [List.getElem?_append_left (by omega), List.getElem?_take, if_pos front]
      · rw [List.getElem?_append_right (by omega),
          List.getElem?_append_right (by rw [List.length_replicate]; omega), List.getElem?_drop,
          List.length_replicate]
        congr 1
        omega
    · simp only [maskRun, long, if_false]

end Runs

theorem marksText : Marks isDecimal minIdentifierDigits '*' (maskRun '*') :=
  marks_maskRun (by decide)

theorem marksBytes : Marks isDecimalByte minIdentifierDigits 0x2A (maskRun 0x2A) :=
  marks_maskRun (by decide)

def HasDigitRun (text : List Char) : Prop := LongRun isDecimal minIdentifierDigits text

def HasDigitRunBytes (raw : Bytes) : Prop := LongRun isDecimalByte minIdentifierDigits raw

theorem not_hasDigitRun {text : List Char}
    (none : hasRun isDecimal minIdentifierDigits text = false) : ¬ HasDigitRun text := by
  rw [HasDigitRun, ← hasRun_iff, none]
  simp

theorem maskBytes_eq_self_iff (raw : Bytes) : maskBytes raw = raw ↔ ¬ HasDigitRunBytes raw := by
  rw [HasDigitRunBytes, ← hasRun_iff, Bool.not_eq_true]
  exact marksBytes.rewriteRuns_eq_self_iff

theorem maskDigits_eq_self_iff (text : List Char) : maskDigits text = text ↔ ¬ HasDigitRun text := by
  rw [HasDigitRun, ← hasRun_iff, Bool.not_eq_true]
  exact marksText.rewriteRuns_eq_self_iff

theorem maskBytes_clean (raw : Bytes) : ¬ HasDigitRunBytes (maskBytes raw) := by
  rw [HasDigitRunBytes, ← hasRun_iff, maskBytes, marksBytes.hasRun_rewriteRuns]
  simp

theorem maskDigits_clean (text : List Char) : ¬ HasDigitRun (maskDigits text) :=
  not_hasDigitRun marksText.hasRun_rewriteRuns

theorem length_maskRun {α : Type} (star : α) (run : List α) :
    (maskRun star run).length = run.length := by
  by_cases long : minIdentifierDigits ≤ run.length
  · rw [maskRun_long long]
    unfold minIdentifierDigits at long
    simp only [List.length_append, List.length_take, List.length_replicate, List.length_drop]
    omega
  · simp only [maskRun, long, if_false]

theorem length_maskBytes (raw : Bytes) : (maskBytes raw).length = raw.length :=
  length_rewriteRuns (length_maskRun _) raw

theorem hexPayload_some {text : List Char} {raw : Bytes} (payload : hexPayload text = some raw) :
    4 ≤ raw.length := by
  unfold hexPayload at payload
  dsimp only at payload
  split at payload
  · rename_i hex
    cases payload
    rw [length_fromHex]
    omega
  · cases payload

theorem hexPayload_toHex {raw : Bytes} (size : 4 ≤ raw.length) :
    hexPayload (toHex raw) = some raw := by
  have hex := toHex_isHexDigit raw
  have length := length_toHex raw
  unfold hexPayload
  simp only [squeeze_of_hex hex, fromHex_toHex]
  exact if_pos ⟨by omega, by omega, List.all_eq_true.mpr hex⟩

theorem hexPayload_star {text : List Char} (star : '*' ∈ text) : hexPayload text = none := by
  unfold hexPayload
  dsimp only
  refine if_neg fun hex => ?_
  have kept : '*' ∈ squeeze text := List.mem_filter.mpr ⟨star, by decide⟩
  exact absurd (List.all_eq_true.mp hex.2.2 '*' kept) (by decide)

theorem maskChars_cases (wireHex : Bool) (text : List Char) :
    (hexPayload text = none ∧ maskChars wireHex text = maskDigits text) ∨
      ∃ raw, hexPayload text = some raw ∧
        (HasDigitRunBytes raw ∧ maskChars wireHex text = toHex (maskBytes raw) ∨
          ¬ HasDigitRunBytes raw ∧ wireHex = true ∧ maskChars wireHex text = text ∨
          ¬ HasDigitRunBytes raw ∧ wireHex = false ∧ maskChars wireHex text = maskDigits text) := by
  unfold maskChars
  cases payload : hexPayload text with
  | none => exact Or.inl ⟨rfl, rfl⟩
  | some raw =>
    refine Or.inr ⟨raw, rfl, ?_⟩
    dsimp only
    by_cases run : HasDigitRunBytes raw
    · have changed : maskBytes raw ≠ raw := fun same =>
        (maskBytes_eq_self_iff raw).mp same run
      exact Or.inl ⟨run, if_pos changed⟩
    · have same := (maskBytes_eq_self_iff raw).mpr run
      rw [if_neg (not_not.mpr same)]
      cases wireHex with
      | false => exact Or.inr (Or.inr ⟨run, rfl, rfl⟩)
      | true => exact Or.inr (Or.inl ⟨run, rfl, rfl⟩)

def IdentifierHex (text : List Char) : Prop :=
  ∃ raw, hexPayload text = some raw ∧ HasDigitRunBytes raw

theorem maskChars_hex {text : List Char} {raw : Bytes} (payload : hexPayload text = some raw)
    (run : HasDigitRunBytes raw) (wireHex : Bool) :
    maskChars wireHex text = toHex (maskBytes raw) := by
  have changed : maskBytes raw ≠ raw := fun same => (maskBytes_eq_self_iff raw).mp same run
  simp only [maskChars, payload, ne_eq, changed, not_false_eq_true, if_true]

theorem maskChars_text {text : List Char} (plain : ¬ IdentifierHex text) :
    maskChars false text = maskDigits text := by
  rcases maskChars_cases false text with
    ⟨_, masked⟩ | ⟨raw, payload, ⟨run, _⟩ | ⟨_, wire, _⟩ | ⟨_, _, masked⟩⟩
  · exact masked
  · exact absurd ⟨raw, payload, run⟩ plain
  · cases wire
  · exact masked

/-- The second text spells the masked bytes of the first, and has no long run of digits itself. -/
def Spells (first second : List Char) : Prop :=
  ¬ HasDigitRun second ∧ ∃ raw shown, hexPayload first = some raw ∧ HasDigitRunBytes raw ∧
    Veiled isDecimalByte Middle 0x2A raw shown ∧ second = toHex shown

theorem veiled_maskBytes (raw : Bytes) : Veiled isDecimalByte Middle 0x2A raw (maskBytes raw) :=
  veils_maskRun.veiled_rewriteRuns raw

theorem maskDigits_eq_iff (first second : List Char) :
    maskDigits first = maskDigits second ↔ Alike isDecimal Middle '*' first second :=
  veils_maskRun.rewriteRuns_eq_iff

theorem toHex_maskBytes_eq_iff (first second : Bytes) :
    toHex (maskBytes first) = toHex (maskBytes second) ↔
      Alike isDecimalByte Middle 0x2A first second := by
  rw [← veils_maskRun.rewriteRuns_eq_iff]
  constructor
  · intro same
    have bytes := congrArg fromHex same
    rwa [fromHex_toHex, fromHex_toHex] at bytes
  · exact congrArg toHex

theorem toHex_eq_maskDigits_iff (raw : Bytes) (text : List Char) :
    toHex raw = maskDigits text ↔ text = toHex raw ∧ ¬ HasDigitRun text := by
  constructor
  · intro spelled
    have same : maskDigits text = text := by
      by_contra changed
      have star : '*' ∈ maskDigits text := marksText.marked_of_changed changed
      rw [← spelled] at star
      exact absurd (toHex_isHexDigit raw '*' star) (by decide)
    exact ⟨by rw [spelled, same], (maskDigits_eq_self_iff text).mp same⟩
  · rintro ⟨rfl, clean⟩
    exact ((maskDigits_eq_self_iff _).mpr clean).symm

theorem spells_iff {first second : List Char} (plain : ¬ IdentifierHex second) {raw : Bytes}
    (payload : hexPayload first = some raw) (run : HasDigitRunBytes raw) :
    toHex (maskBytes raw) = maskChars false second ↔ Spells first second := by
  rw [maskChars_text plain, toHex_eq_maskDigits_iff]
  constructor
  · rintro ⟨spelled, clean⟩
    exact ⟨clean, raw, _, payload, run, veiled_maskBytes raw, spelled⟩
  · rintro ⟨clean, raw', shown, payload', -, veil, spelled⟩
    obtain rfl : raw = raw' := Option.some_inj.mp (payload.symm.trans payload')
    exact ⟨by rw [spelled, veil.unique (veiled_maskBytes raw)], clean⟩

theorem Spells.plain {first second : List Char} (spells : Spells first second) :
    ¬ IdentifierHex second := by
  obtain ⟨-, raw, shown, payload, -, veil, rfl⟩ := spells
  obtain rfl := veil.unique (veiled_maskBytes raw)
  have size := hexPayload_some payload
  rw [← length_maskBytes] at size
  rintro ⟨masked, again, run⟩
  rw [hexPayload_toHex size, Option.some_inj] at again
  exact maskBytes_clean raw (again ▸ run)

/-- Two texts that differ under the masks only. -/
inductive SameMask (first second : List Char) : Prop where
  | bytes (raw raw' : Bytes) (left : hexPayload first = some raw)
      (right : hexPayload second = some raw') (leftRun : HasDigitRunBytes raw)
      (rightRun : HasDigitRunBytes raw') (alike : Alike isDecimalByte Middle 0x2A raw raw')
  | texts (left : ¬ IdentifierHex first) (right : ¬ IdentifierHex second)
      (alike : Alike isDecimal Middle '*' first second)
  | spelled (spells : Spells first second)
  | spells (spelled : Spells second first)

theorem maskChars_eq_iff (first second : List Char) :
    maskChars false first = maskChars false second ↔ SameMask first second := by
  constructor
  · intro same
    by_cases left : IdentifierHex first
    · obtain ⟨raw, payload, run⟩ := left
      rw [maskChars_hex payload run] at same
      by_cases right : IdentifierHex second
      · obtain ⟨raw', payload', run'⟩ := right
        rw [maskChars_hex payload' run', toHex_maskBytes_eq_iff] at same
        exact .bytes raw raw' payload payload' run run' same
      · exact .spelled ((spells_iff right payload run).mp same)
    · by_cases right : IdentifierHex second
      · obtain ⟨raw', payload', run'⟩ := right
        rw [maskChars_hex payload' run'] at same
        exact .spells ((spells_iff left payload' run').mp same.symm)
      · rw [maskChars_text left, maskChars_text right, maskDigits_eq_iff] at same
        exact .texts left right same
  · rintro (⟨raw, raw', left, right, leftRun, rightRun, alike⟩ | ⟨left, right, alike⟩ | spells | spells)
    · rw [maskChars_hex left leftRun, maskChars_hex right rightRun, toHex_maskBytes_eq_iff]
      exact alike
    · rw [maskChars_text left, maskChars_text right, maskDigits_eq_iff]
      exact alike
    · obtain ⟨raw, -, payload, run, -⟩ := spells.2
      rw [maskChars_hex payload run]
      exact (spells_iff spells.plain payload run).mpr spells
    · obtain ⟨raw, -, payload, run, -⟩ := spells.2
      rw [maskChars_hex payload run]
      exact ((spells_iff spells.plain payload run).mpr spells).symm

/-- A masked text has no long run of digits, or is hex of bytes that have none. -/
theorem maskChars_safe (wireHex : Bool) (text : List Char) :
    ¬ HasDigitRun (maskChars wireHex text) ∨
      ∃ raw, hexPayload (maskChars wireHex text) = some raw ∧ ¬ HasDigitRunBytes raw ∧
        (wireHex = true ∨ ∃ before, hexPayload text = some before ∧ HasDigitRunBytes before) := by
  rcases maskChars_cases wireHex text with
    ⟨_, masked⟩ | ⟨raw, payload, ⟨run, masked⟩ | ⟨clean, wire, masked⟩ | ⟨_, _, masked⟩⟩
  · rw [masked]
    exact Or.inl (maskDigits_clean text)
  · have size := hexPayload_some payload
    rw [← length_maskBytes] at size
    rw [masked]
    exact Or.inr ⟨_, hexPayload_toHex size, maskBytes_clean raw, Or.inr ⟨raw, payload, run⟩⟩
  · rw [masked]
    exact Or.inr ⟨raw, payload, clean, Or.inl wire⟩
  · rw [masked]
    exact Or.inl (maskDigits_clean text)

theorem maskChars_maskDigits (wireHex : Bool) {text : List Char}
    (masked : maskChars wireHex text = maskDigits text) :
    maskChars wireHex (maskDigits text) = maskDigits text := by
  by_cases same : maskDigits text = text
  · rw [same] at masked ⊢
    exact masked
  · have star : '*' ∈ maskDigits text := marksText.marked_of_changed same
    unfold maskChars
    rw [hexPayload_star star]
    exact (maskDigits_eq_self_iff _).mpr (maskDigits_clean text)

/-- Masking again changes nothing, unless masked hex text outside a wire field reads as a long
    number. -/
theorem maskChars_again (wireHex : Bool) (text : List Char)
    (quiet : wireHex = true ∨ ¬ HasDigitRun (maskChars wireHex text)) :
    maskChars wireHex (maskChars wireHex text) = maskChars wireHex text := by
  rcases maskChars_cases wireHex text with
    ⟨_, masked⟩ | ⟨raw, payload, ⟨run, masked⟩ | ⟨clean, wire, masked⟩ | ⟨_, _, masked⟩⟩
  · rw [masked]
    exact maskChars_maskDigits wireHex masked
  · have size := hexPayload_some payload
    rw [← length_maskBytes] at size
    rw [masked] at quiet ⊢
    unfold maskChars
    rw [hexPayload_toHex size]
    dsimp only
    rw [if_neg (not_not.mpr ((maskBytes_eq_self_iff _).mpr (maskBytes_clean raw)))]
    rcases quiet with rfl | none
    · rfl
    · rw [(maskDigits_eq_self_iff _).mpr none, ite_self]
  · rw [masked, masked]
  · rw [masked]
    exact maskChars_maskDigits wireHex masked

theorem maskChars_changed (wireHex : Bool) (text : List Char)
    (changed : maskChars wireHex text ≠ text) :
    '*' ∈ maskChars wireHex text ∨ ∀ c ∈ maskChars wireHex text, isHexDigit c = true := by
  rcases maskChars_cases wireHex text with
    ⟨_, masked⟩ | ⟨raw, payload, ⟨run, masked⟩ | ⟨clean, wire, masked⟩ | ⟨_, _, masked⟩⟩
  · rw [masked] at changed ⊢
    exact Or.inl (marksText.marked_of_changed changed)
  · rw [masked]
    exact Or.inr (toHex_isHexDigit _)
  · exact absurd masked changed
  · rw [masked] at changed ⊢
    exact Or.inl (marksText.marked_of_changed changed)

/-- A text at a place that masking reaches, a key or a value, and whether it is wire hex there. -/
inductive Occurs : Context → Value → Bool → String → Prop where
  | text (context : Context) (s : String) : Occurs context (.text s) (context == .wireHex) s
  | listItem {context : Context} {items : List Value} {item : Value} {wire : Bool} {s : String}
      (member : item ∈ items) (inside : Occurs .plain item wire s) :
      Occurs context (.list items) wire s
  | key {context : Context} {entries : List (Key × Value)} {item : Value} {s : String}
      (member : (Key.text s, item) ∈ entries) : Occurs context (.dict entries) false s
  | entry {context : Context} {entries : List (Key × Value)} {key : Key} {item : Value}
      {wire : Bool} {s : String} (member : (key, item) ∈ entries)
      (inside : Occurs (context.under key) item wire s) : Occurs context (.dict entries) wire s

theorem maskString_toList (wireHex : Bool) (s : String) :
    (maskString wireHex s).toList = maskChars wireHex s.toList := by
  simp [maskString]

theorem maskString_field {name : String} (field : name ∈ "responses_hex" :: wireHexFields)
    (s : String) : maskString false s = name ↔ s = name := by
  have fixed : ∀ f ∈ "responses_hex" :: wireHexFields, maskString false f = f := by decide +kernel
  have spelled : ∀ f ∈ "responses_hex" :: wireHexFields,
      '*' ∉ f.toList ∧ f.toList.all isHexDigit = false := by decide +kernel
  constructor
  · intro masked
    have chars : maskChars false s.toList = name.toList := by
      rw [← maskString_toList, masked]
    by_cases same : maskChars false s.toList = s.toList
    · exact String.toList_inj.mp (same.symm.trans chars)
    · obtain ⟨unmarked, spells⟩ := spelled name field
      obtain ⟨c, member, other⟩ := List.all_eq_false.mp spells
      rcases maskChars_changed false s.toList same with star | hex
      · rw [chars] at star
        exact absurd star unmarked
      · rw [chars] at hex
        exact absurd (hex c member) other
  · rintro rfl
    exact fixed s field

theorem contextOf_maskKey (key : Key) : contextOf (maskKey key) = contextOf key := by
  cases key with
  | other label => rfl
  | text s =>
    have wire : maskString false s ∈ wireHexFields ↔ s ∈ wireHexFields := by
      constructor
      · intro member
        rwa [← (maskString_field (List.mem_cons_of_mem _ member) s).mp rfl] at member
      · intro member
        rwa [(maskString_field (List.mem_cons_of_mem _ member) s).mpr rfl]
    have replies : maskString false s = "responses_hex" ↔ s = "responses_hex" :=
      maskString_field List.mem_cons_self s
    simp only [maskKey, contextOf, List.contains_iff_mem, wire, replies]

theorem under_maskKey (context : Context) (key : Key) :
    context.under (maskKey key) = context.under key := by
  unfold Context.under
  rw [contextOf_maskKey]

/-- Every text of a masked value is the masked form of a text at the same place before. -/
def Comes (context : Context) (value : Value) : Prop :=
  ∀ wire t, Occurs context (maskIn context value) wire t →
    ∃ s, Occurs context value wire s ∧ t = maskString wire s

mutual

theorem comes_maskIn : ∀ (context : Context) (value : Value), Comes context value
  | context, .text s => by
    intro wire t occurs
    cases occurs
    exact ⟨s, .text context s, rfl⟩
  | context, .list items => by
    intro wire t occurs
    cases occurs with
    | listItem member inside =>
      obtain ⟨item, former, rfl, comes⟩ := comes_maskItems items _ member
      obtain ⟨s, before, rfl⟩ := comes wire t inside
      exact ⟨s, .listItem former before, rfl⟩
  | _, .tuple _ => by
    intro wire t occurs
    cases occurs
  | context, .dict entries => by
    intro wire t occurs
    cases occurs with
    | key member =>
      obtain ⟨key, item, former, masked, _, _⟩ :=
        comes_maskEntries context entries _ _ (OrderedDict.mem_assignAll member)
      cases key with
      | other label => cases masked
      | text s =>
        cases masked
        exact ⟨s, .key former, rfl⟩
    | entry member inside =>
      obtain ⟨key, item, former, rfl, rfl, comes⟩ :=
        comes_maskEntries context entries _ _ (OrderedDict.mem_assignAll member)
      rw [under_maskKey] at inside
      obtain ⟨s, before, rfl⟩ := comes wire t inside
      exact ⟨s, .entry former before, rfl⟩
  | _, .other _ => by
    intro wire t occurs
    cases occurs

theorem comes_maskItems : ∀ (items : List Value), ∀ masked ∈ maskItems items,
    ∃ item ∈ items, masked = maskIn .plain item ∧ Comes .plain item
  | [], _, member => by cases member
  | item :: rest, masked, member => by
    rcases List.mem_cons.mp member with rfl | member
    · exact ⟨item, List.mem_cons_self, rfl, comes_maskIn .plain item⟩
    · obtain ⟨other, former, rfl, comes⟩ := comes_maskItems rest masked member
      exact ⟨other, List.mem_cons_of_mem item former, rfl, comes⟩

theorem comes_maskEntries : ∀ (context : Context) (entries : List (Key × Value)) (key' : Key)
    (masked : Value), (key', masked) ∈ maskEntries context entries →
      ∃ key item, (key, item) ∈ entries ∧ key' = maskKey key ∧
        masked = maskIn (context.under key) item ∧ Comes (context.under key) item
  | _, [], _, _, member => by cases member
  | context, (key, item) :: rest, key', masked, member => by
    rcases List.mem_cons.mp member with same | member
    · cases same
      exact ⟨key, item, List.mem_cons_self, rfl, rfl, comes_maskIn (context.under key) item⟩
    · obtain ⟨other, value, former, masks, same, comes⟩ :=
        comes_maskEntries context rest key' masked member
      exact ⟨other, value, List.mem_cons_of_mem _ former, masks, same, comes⟩

end

def Quiet (context : Context) (value : Value) : Prop :=
  ∀ t, Occurs context value false t → ¬ HasDigitRun t.toList

theorem maskString_again (wireHex : Bool) (s : String)
    (quiet : wireHex = true ∨ ¬ HasDigitRun (maskString wireHex s).toList) :
    maskString wireHex (maskString wireHex s) = maskString wireHex s := by
  rw [maskString_toList] at quiet
  apply String.toList_inj.mp
  rw [maskString_toList, maskString_toList]
  exact maskChars_again wireHex s.toList quiet

theorem maskItems_eq_self : ∀ (items : List Value), (∀ item ∈ items, maskIn .plain item = item) →
    maskItems items = items
  | [], _ => rfl
  | item :: rest, same => by
    rw [maskItems, same item List.mem_cons_self,
      maskItems_eq_self rest fun other member => same other (List.mem_cons_of_mem item member)]

theorem maskEntries_eq_self (context : Context) : ∀ (entries : List (Key × Value)),
    (∀ entry ∈ entries, maskKey entry.1 = entry.1 ∧
      maskIn (context.under entry.1) entry.2 = entry.2) →
    maskEntries context entries = entries
  | [], _ => rfl
  | (key, item) :: rest, same => by
    obtain ⟨keySame, itemSame⟩ := same (key, item) List.mem_cons_self
    rw [maskEntries, keySame, itemSame, maskEntries_eq_self context rest fun other member =>
      same other (List.mem_cons_of_mem _ member)]

mutual

theorem maskIn_again : ∀ (context : Context) (value : Value),
    Quiet context (maskIn context value) →
      maskIn context (maskIn context value) = maskIn context value
  | context, .text s, quiet => by
    simp only [maskIn] at quiet ⊢
    rw [maskString_again]
    cases wire : context == Context.wireHex with
    | true => exact Or.inl rfl
    | false =>
      refine Or.inr ?_
      rw [wire] at quiet
      refine quiet _ ?_
      have := Occurs.text context (maskString false s)
      rwa [wire] at this
  | context, .list items, quiet => by
    simp only [maskIn] at quiet ⊢
    rw [maskItems_eq_self]
    intro masked member
    obtain ⟨item, rfl, again⟩ := maskItems_again items masked member
    exact again fun t occurs => quiet t (.listItem member occurs)
  | _, .tuple _, _ => rfl
  | context, .dict entries, quiet => by
    simp only [maskIn] at quiet ⊢
    rw [maskEntries_eq_self, OrderedDict.assignAll_of_nodup _ (OrderedDict.assignAll_nodup _)]
    rintro ⟨key', masked⟩ member
    obtain ⟨key, item, rfl, rfl, again⟩ :=
      maskEntries_again context entries key' masked (OrderedDict.mem_assignAll member)
    constructor
    · cases key with
      | other label => rfl
      | text s =>
        have clean := quiet _ (.key member)
        exact congrArg Key.text (maskString_again false s (Or.inr clean))
    · dsimp only
      rw [under_maskKey]
      refine again fun t occurs => quiet t (.entry member ?_)
      rw [under_maskKey]
      exact occurs
  | _, .other _, _ => rfl

theorem maskItems_again : ∀ (items : List Value), ∀ masked ∈ maskItems items,
    ∃ item, masked = maskIn .plain item ∧
      (Quiet .plain (maskIn .plain item) → maskIn .plain (maskIn .plain item) = maskIn .plain item)
  | [], _, member => by cases member
  | item :: rest, masked, member => by
    rcases List.mem_cons.mp member with rfl | member
    · exact ⟨item, rfl, maskIn_again .plain item⟩
    · exact maskItems_again rest masked member

theorem maskEntries_again : ∀ (context : Context) (entries : List (Key × Value)) (key' : Key)
    (masked : Value), (key', masked) ∈ maskEntries context entries →
    ∃ key item, key' = maskKey key ∧ masked = maskIn (context.under key) item ∧
      (Quiet (context.under key) (maskIn (context.under key) item) →
        maskIn (context.under key) (maskIn (context.under key) item) =
          maskIn (context.under key) item)
  | _, [], _, _, member => by cases member
  | context, (key, item) :: rest, key', masked, member => by
    rcases List.mem_cons.mp member with same | member
    · cases same
      exact ⟨key, item, rfl, rfl, maskIn_again (context.under key) item⟩
    · exact maskEntries_again context rest key' masked member

end

theorem maskEntries_keys (context : Context) (entries : List (Key × Value)) :
    (maskEntries context entries).map Prod.fst = entries.map fun entry => maskKey entry.1 := by
  induction entries with
  | nil => rfl
  | cons entry rest ih =>
    obtain ⟨key, item⟩ := entry
    rw [maskEntries, List.map_cons, ih, List.map_cons]

theorem maskEntries_append (context : Context) (front back : List (Key × Value)) :
    maskEntries context (front ++ back) =
      maskEntries context front ++ maskEntries context back := by
  induction front with
  | nil => rfl
  | cons entry rest ih =>
    obtain ⟨key, item⟩ := entry
    rw [List.cons_append, maskEntries, ih, maskEntries, List.cons_append]

theorem mem_masked_keys (context : Context) (entries : List (Key × Value)) (key : Key) :
    key ∈ (OrderedDict.assignAll (maskEntries context entries)).map Prod.fst ↔
      ∃ entry ∈ entries, key = maskKey entry.1 := by
  rw [OrderedDict.mem_keys_assignAll, maskEntries_keys, List.mem_map]
  exact ⟨fun ⟨entry, member, same⟩ => ⟨entry, member, same.symm⟩,
    fun ⟨entry, member, same⟩ => ⟨entry, member, same.symm⟩⟩

theorem find_masked (context : Context) (front back : List (Key × Value)) (key : Key)
    (item : Value) (last : ∀ entry ∈ back, maskKey entry.1 ≠ maskKey key) :
    OrderedDict.find (maskKey key)
        (OrderedDict.assignAll (maskEntries context (front ++ (key, item) :: back))) =
      some (maskIn (context.under key) item) := by
  rw [maskEntries_append, maskEntries]
  apply OrderedDict.find_assignAll
  rw [maskEntries_keys]
  intro member
  obtain ⟨entry, later, same⟩ := List.mem_map.mp member
  exact last entry later same

def SameKey : Key → Key → Prop
  | .text first, .text second => SameMask first.toList second.toList
  | first, second => first = second

theorem maskKey_eq_iff (first second : Key) : maskKey first = maskKey second ↔ SameKey first second := by
  cases first with
  | other label => cases second <;> simp [maskKey, SameKey]
  | text first =>
    cases second with
    | other label => simp [maskKey, SameKey]
    | text second =>
      rw [SameKey, ← maskChars_eq_iff, ← maskString_toList, ← maskString_toList, String.toList_inj]
      simp [maskKey]

/-- Masking leaves no long digit run outside hex text, lets two keys of a mapping become one
    exactly where they differ under the masks only, and is stable where it left no long run in
    other texts; all of it outside tuples. -/
theorem maskNumericIdentifiers_safe (value : Value) :
    (∀ wire t, Occurs .plain (maskNumericIdentifiers value) wire t →
      ¬ HasDigitRun t.toList ∨
        ∃ raw, hexPayload t.toList = some raw ∧ ¬ HasDigitRunBytes raw ∧
          (wire = true ∨ ∃ s before, Occurs .plain value wire s ∧ t = maskString wire s ∧
            hexPayload s.toList = some before ∧ HasDigitRunBytes before)) ∧
    (∀ first second, maskKey first = maskKey second ↔ SameKey first second) ∧
    (∀ context entries, ∃ masked, maskIn context (.dict entries) = .dict masked ∧
      (masked.map Prod.fst).Nodup ∧
      (∀ key, key ∈ masked.map Prod.fst ↔ ∃ entry ∈ entries, key = maskKey entry.1) ∧
      ∀ front key item back, entries = front ++ (key, item) :: back →
        (∀ entry ∈ back, ¬ SameKey entry.1 key) →
        OrderedDict.find (maskKey key) masked = some (maskIn (context.under key) item)) ∧
    (Quiet .plain (maskNumericIdentifiers value) →
      maskNumericIdentifiers (maskNumericIdentifiers value) = maskNumericIdentifiers value) := by
  refine ⟨fun wire t occurs => ?_, maskKey_eq_iff, fun context entries => ⟨_, rfl,
    OrderedDict.assignAll_nodup _, mem_masked_keys context entries, ?_⟩, maskIn_again .plain value⟩
  · obtain ⟨s, before, rfl⟩ := comes_maskIn .plain value wire t occurs
    rw [maskString_toList]
    rcases maskChars_safe wire s.toList with clean | ⟨raw, payload, clean, source⟩
    · exact Or.inl clean
    · refine Or.inr ⟨raw, payload, clean, source.imp_right fun ⟨first, hex, run⟩ => ?_⟩
      exact ⟨s, first, before, rfl, hex, run⟩
  · rintro front key item back rfl last
    refine find_masked context front back key item fun entry member same => ?_
    exact last entry member ((maskKey_eq_iff _ _).mp same)

def answered : Value :=
  .dict [(.text "payload_hex", .text "41542b39323633323530303030303030310d"),
    (.text "92632500000001", .list [.text "PN 92632500000001", .other 7]),
    (.text "pns", .tuple [.text "92632500000001"])]

theorem maskNumericIdentifiers_safe_answered :
    (∀ wire t, Occurs .plain (maskNumericIdentifiers answered) wire t →
      ¬ HasDigitRun t.toList ∨
        ∃ raw, hexPayload t.toList = some raw ∧ ¬ HasDigitRunBytes raw ∧
          (wire = true ∨ ∃ s before, Occurs .plain answered wire s ∧ t = maskString wire s ∧
            hexPayload s.toList = some before ∧ HasDigitRunBytes before)) ∧
      SameKey (.text "92632500010001") (.text "9263******0001") :=
  ⟨(maskNumericIdentifiers_safe answered).1,
    ((maskNumericIdentifiers_safe answered).2.1 _ _).mp (by decide +kernel)⟩

/-- Two keys become one, and masked hex text is masked a second time. -/
theorem maskNumericIdentifiers_limits :
    (∃ first second : String, first ≠ second ∧
      maskNumericIdentifiers (.dict [(.text first, .other 1), (.text second, .other 2)]) =
        .dict [(maskKey (.text first), .other 2)]) ∧
    ∃ s, maskNumericIdentifiers (maskNumericIdentifiers (.text s)) ≠
      maskNumericIdentifiers (.text s) := by
  refine ⟨⟨"92632500010001", "92632500020001", by decide, ?_⟩,
    ⟨"4539323633323530303030303030310d", ?_⟩⟩
  · have same : maskKey (.text "92632500010001") = maskKey (.text "92632500020001") := by
      decide +kernel
    simp only [maskNumericIdentifiers, maskIn, maskEntries]
    simp [same, OrderedDict.assignAll, OrderedDict.assign]
  · simp only [maskNumericIdentifiers, maskIn, ne_eq, Value.text.injEq]
    decide +kernel

end Masking
