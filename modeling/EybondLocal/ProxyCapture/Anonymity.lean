import EybondLocal.CollectorIdentity
import EybondLocal.Library.RunCover
import EybondLocal.ProxyCapture.Trace

/-!
Where a collector number can still be read in an anonymized bundle. The masking hides the middle
of the serial tokens of a text value, or of the bytes of a hex field that has no such token as
text; keys, numbers and file names stay as they are.
-/
namespace ProxyTrace
open StripText HexText RunRewrite JsonWriter WordSearch

def hiddenMiddle {α : Type} (char : α → Char) (run : List α) (j : Nat) : Prop :=
  isSerialToken (run.map char) = true ∧ visibleEnd run.length ≤ j ∧
    j < run.length - visibleEnd run.length

def HasSerial (value : Text) : Prop := ∃ i, Hidden isSerialChar (hiddenMiddle id) value i

def HasSerialBytes (payload : Bytes) : Prop :=
  ∃ i, Hidden isSerialByte (hiddenMiddle byteChar) payload i

def ClearlyShows (word value : Text) : Prop :=
  ∃ piece, Clear isSerialChar (hiddenMiddle id) value piece ∧ word <:+: escape piece

/-- The word is in the digits of a hex field, as they are or with its hidden bytes read as `*`. -/
inductive HexShows (word value : Text) : Prop where
  | untouched (whole : ¬ HasSerialBytes (fromHex (normalizeHexText value)))
      (found : word <:+: normalizeHexText value)
  | veiled (masked : HasSerialBytes (fromHex (normalizeHexText value))) (shown : Bytes)
      (veil : Veiled isSerialByte (hiddenMiddle byteChar) 0x2A (fromHex (normalizeHexText value)) shown)
      (found : word <:+: toHex shown)

inductive TextShows (word value : Text) : Prop where
  | asText (plain : HasSerial value ∨ looksLikeHexBlob value = false)
      (found : ClearlyShows word value)
  | asHex (whole : ¬ HasSerial value) (blob : looksLikeHexBlob value = true)
      (found : HexShows word value)

mutual

def Shows (word : Text) : Json → Prop
  | .null => False
  | .bool _ => False
  | .int n => word <:+: intText n
  | .float spelling => word <:+: spelling
  | .str s => TextShows word s
  | .array items => ItemsShow word items
  | .object entries => EntriesShow word entries

def ItemsShow (word : Text) : List Json → Prop
  | [] => False
  | item :: rest => Shows word item ∨ ItemsShow word rest

def EntriesShow (word : Text) : Mapping → Prop
  | [] => False
  | (key, value) :: rest => word <:+: escape key ∨ Shows word value ∨ EntriesShow word rest

end

variable (python : Python) (files : Files)

def LineShows (word raw : Text) : Prop :=
  trim raw ≠ [] ∧
    match python.loads (trim raw) with
    | none => ClearlyShows word (trim raw)
    | some payload => Shows word payload

def traceNames (path : Text) : List Text :=
  [pathStem (pathName path) ++ ".anonymized".toList ++ pathSuffix (pathName path),
    pathStem (pathName path) ++ ['.'] ++ Direction.collectorToServer.dumpName,
    pathStem (pathName path) ++ ['.'] ++ Direction.serverToCollector.dumpName]

def traceFile : Option (Text × List Text) :=
  (tracePathFromPayload python (readManifestPayload python files.manifestText)).bind fun path =>
    (files.lines path).map fun lines => (path, lines)

inductive Exposed (word : Text) : Prop where
  | manifestName (found : word <:+: files.manifestName)
  | manifest (payload : Mapping)
      (read : readManifestPayload python files.manifestText = some payload)
      (found : EntriesShow word payload)
  | traceName (path : Text) (lines : List Text) (present : traceFile python files = some (path, lines))
      (name : Text) (member : name ∈ traceNames path) (found : word <:+: name)
  | line (path : Text) (lines : List Text) (present : traceFile python files = some (path, lines))
      (raw : Text) (member : raw ∈ lines) (found : LineShows python word raw)
  | chunk (path : Text) (lines : List Text) (present : traceFile python files = some (path, lines))
      (raw : Text) (member : raw ∈ lines) (direction : Direction) (hex : Text)
      (sent : lineChunk python raw = some (direction, hex)) (found : HexShows word hex)

/-- A number `validated_collector_pn` accepts, with a letter and four digits. -/
structure CollectorPn where
  text : String
  accepted : CollectorIdentity.validatedCollectorPn (.str text) ≠ ""
  letter : ∃ c ∈ text.toList, c.isAlpha = true
  digits : 4 ≤ text.toList.countP Char.isDigit

def CollectorPn.bytes (pn : CollectorPn) : Bytes := pn.text.toList.map fun c => UInt8.ofNat c.toNat

/-- The number as text, or the hex of its bytes in either case of the digits. -/
def CollectorPn.Spelling (pn : CollectorPn) (word : Text) : Prop :=
  word = pn.text.toList ∨ word.map Char.toLower = toHex pn.bytes

def CollectorPn.ShownIn (pn : CollectorPn) (text : Text) : Prop :=
  ∃ word, pn.Spelling word ∧ word <:+: text

def HidesPn (members : List Member) (pn : CollectorPn) : Prop :=
  ∀ member ∈ members, ¬ pn.ShownIn member.name ∧ ¬ pn.ShownIn member.content

/-- The word stands in the text between characters that are neither letters nor digits. -/
def WholeToken {α : Type} (char : α → Char) (word text : List α) : Prop :=
  ∃ front back, text = front ++ (word ++ back) ∧
    (∀ c ∈ front.getLast?, (char c).isAlphanum = false) ∧
    (∀ c ∈ back.head?, (char c).isAlphanum = false)

mutual

/-- The number is a whole token of a text value, of a key or of the bytes of a hex field. -/
def Mentions (pn : CollectorPn) : Json → Prop
  | .null => False
  | .bool _ => False
  | .int _ => False
  | .float _ => False
  | .str s =>
    WholeToken id pn.text.toList s ∨
      (normalizeHexText s ≠ [] ∧ WholeToken byteChar pn.bytes (fromHex (normalizeHexText s)))
  | .array items => ItemsMention pn items
  | .object entries => EntriesMention pn entries

def ItemsMention (pn : CollectorPn) : List Json → Prop
  | [] => False
  | item :: rest => Mentions pn item ∨ ItemsMention pn rest

def EntriesMention (pn : CollectorPn) : Mapping → Prop
  | [] => False
  | (key, value) :: rest =>
    WholeToken id pn.text.toList key ∨ Mentions pn value ∨ EntriesMention pn rest

end

def LineMentions (pn : CollectorPn) (raw : Text) : Prop :=
  match python.loads (trim raw) with
  | none => WholeToken id pn.text.toList (trim raw)
  | some payload => Mentions pn payload

def Occurs (pn : CollectorPn) : Prop :=
  (∃ payload, readManifestPayload python files.manifestText = some payload ∧
      EntriesMention pn payload) ∨
    ∃ path lines, traceFile python files = some (path, lines) ∧
      ∃ raw ∈ lines, LineMentions python pn raw

theorem isSerialToken_length {run : Text} (token : isSerialToken run = true) : 8 ≤ run.length := by
  simp only [isSerialToken, Bool.and_eq_true, decide_eq_true_eq] at token
  exact token.1.1.2

theorem visibleEnd_fits {length : Nat} (long : 8 ≤ length) : 2 * visibleEnd length < length := by
  unfold visibleEnd
  split <;> omega

theorem getElem?_maskSerialToken {α : Type} (star : α) {token : List α} (long : 8 ≤ token.length)
    (j : Nat) :
    (maskSerialToken star token)[j]? =
      if visibleEnd token.length ≤ j ∧ j < token.length - visibleEnd token.length then some star
      else token[j]? := by
  have fits := visibleEnd_fits long
  have notShort : ¬ token.length ≤ 4 := by omega
  have middle : max (token.length - visibleEnd token.length - visibleEnd token.length) 1 =
      token.length - 2 * visibleEnd token.length := by omega
  rw [maskSerialToken, if_neg notShort]
  dsimp only
  rw [middle]
  generalize visibleEnd token.length = visible at fits
  have firstSize : (token.take visible).length = visible := by
    rw [List.length_take]
    omega
  split
  · rename_i inside
    rw [List.getElem?_append_left (by simp only [List.length_append, firstSize, List.length_replicate]; omega),
      List.getElem?_append_right (by omega), firstSize, List.getElem?_replicate,
      if_pos (by omega)]
  · rename_i outside
    by_cases before : j < visible
    · rw [List.append_assoc, List.getElem?_append_left (by omega), List.getElem?_take, if_pos before]
    · have after : token.length - visible ≤ j := by omega
      have bothSize : (token.take visible ++
          List.replicate (token.length - 2 * visible) star).length = token.length - visible := by
        simp only [List.length_append, firstSize, List.length_replicate]
        omega
      rw [List.getElem?_append_right (by omega), bothSize, List.getElem?_drop]
      congr 1
      omega

theorem veils {α : Type} (star : α) (char : α → Char) :
    Veils (hiddenMiddle char) star (maskRun star char) where
  within run j hidden := by
    have := hidden.2.2
    omega
  marked run j hidden := by
    have long := isSerialToken_length hidden.1
    rw [List.length_map] at long
    rw [maskRun, if_pos hidden.1, getElem?_maskSerialToken star long, if_pos hidden.2]
  kept run j shown := by
    unfold maskRun
    split
    · rename_i token
      have long := isSerialToken_length token
      rw [List.length_map] at long
      rw [getElem?_maskSerialToken star long, if_neg fun middle => shown ⟨token, middle⟩]
    · rfl

theorem maskSerialsInText_ne_iff (value : Text) : maskSerialsInText value ≠ value ↔ HasSerial value :=
  (veils '*' id).changed_iff (by decide)

theorem maskSerialsInBytes_ne_iff (payload : Bytes) :
    maskSerialsInBytes payload ≠ payload ↔ HasSerialBytes payload :=
  (veils 0x2A byteChar).changed_iff (by decide)

structure Word (word : Text) : Prop where
  plain : Plain word
  unstarred : '*' ∉ word

variable {python files} {word : Text}

theorem infix_masked_iff (isWord : Word word) (value : Text) :
    word <:+: escape (maskSerialsInText value) ↔ ClearlyShows word value := by
  constructor
  · intro found
    obtain ⟨piece, inside, unmarked, spelled⟩ :=
      infix_flatMap isWord.unstarred (by decide : escapeChar '*' = ['*']) _ found
    exact ⟨piece, (veils '*' id).clear_of_contained unmarked inside, spelled⟩
  · rintro ⟨piece, clear, spelled⟩
    exact spelled.trans (flatMap_contained ((veils '*' id).clear_contained clear))

theorem normalizeHexText_hex (value : Text) : ∀ c ∈ normalizeHexText value, isHexDigit c = true := by
  intro c member
  unfold normalizeHexText at member
  dsimp only at member
  split at member
  · rename_i hex
    exact List.all_eq_true.mp hex.2 c member
  · cases member

theorem infix_maskSerialsInHex_iff {value : Text} (present : normalizeHexText value ≠ []) :
    word <:+: maskSerialsInHex value ↔ HexShows word value := by
  unfold maskSerialsInHex
  dsimp only
  rw [if_neg present]
  split
  · rename_i changed
    have masked := (maskSerialsInBytes_ne_iff _).mp changed
    have veil : Veiled isSerialByte (hiddenMiddle byteChar) 0x2A _ _ :=
      (veils 0x2A byteChar).veiled_rewriteRuns (fromHex (normalizeHexText value))
    constructor
    · exact fun found => .veiled masked _ veil found
    · intro shows
      cases shows with
      | untouched whole found => exact absurd masked whole
      | veiled masked shown veil' found =>
        rw [maskSerialsInBytes, veil.unique veil']
        exact found
  · rename_i same
    have whole := mt (maskSerialsInBytes_ne_iff _).mpr same
    constructor
    · exact fun found => .untouched whole found
    · intro shows
      cases shows with
      | untouched whole found => exact found
      | veiled masked shown veil found => exact absurd masked whole

theorem escape_hex {text : Text} (hex : ∀ c ∈ text, isHexDigit c = true) : escape text = text := by
  have spelled : ∀ c ∈ hexDigits, escapeChar c = [c] := List.all_iff_forall_prop.mp (by decide)
  induction text with
  | nil => rfl
  | cons c rest ih =>
    have first : escapeChar c = [c] :=
      spelled c (List.contains_iff_mem.mp (hex c List.mem_cons_self))
    have rest' : escape rest = rest := ih fun d member => hex d (List.mem_cons_of_mem c member)
    unfold escape at rest' ⊢
    rw [List.flatMap_cons, first, rest', List.singleton_append]

theorem maskSerialsInHex_hex {value : Text} (present : normalizeHexText value ≠ []) :
    ∀ c ∈ maskSerialsInHex value, isHexDigit c = true := by
  unfold maskSerialsInHex
  dsimp only
  rw [if_neg present]
  split
  · exact toHex_isHexDigit _
  · exact normalizeHexText_hex value

theorem infix_anonymizeText_iff (isWord : Word word) (value : Text) :
    word <:+: escape (anonymizeText value) ↔ TextShows word value := by
  unfold anonymizeText
  split
  · rename_i changed
    have masked := (maskSerialsInText_ne_iff value).mp changed
    rw [infix_masked_iff isWord]
    constructor
    · exact .asText (.inl masked)
    · intro shows
      cases shows with
      | asText plain found => exact found
      | asHex whole blob found => exact absurd masked whole
  · rename_i same
    have whole := mt (maskSerialsInText_ne_iff value).mpr same
    split
    · rename_i blob
      have present : normalizeHexText value ≠ [] := by
        intro empty
        simp [looksLikeHexBlob, empty] at blob
      rw [escape_hex (maskSerialsInHex_hex present), infix_maskSerialsInHex_iff present]
      constructor
      · exact .asHex whole blob
      · intro shows
        cases shows with
        | asText plain found => exact (plain.elim whole fun noBlob => by simp [blob] at noBlob).elim
        | asHex whole blob found => exact found
    · rename_i noBlob
      have still := infix_masked_iff isWord value
      rw [not_not.mp same] at still
      rw [still]
      constructor
      · exact .asText (.inr (by simpa using noBlob))
      · intro shows
        cases shows with
        | asText plain found => exact found
        | asHex whole blob found => exact absurd blob noBlob

mutual

theorem infix_anonymizeValue_iff (isWord : Word word) (value : Json) :
    (∃ text ∈ spellings (anonymizeValue value), word <:+: text) ↔ Shows word value := by
  cases value with
  | null => simp [anonymizeValue, spellings, Shows]
  | bool b => simp [anonymizeValue, spellings, Shows]
  | int n => simp [anonymizeValue, spellings, Shows]
  | float spelling => simp [anonymizeValue, spellings, Shows]
  | str s => simp [anonymizeValue, spellings, Shows, infix_anonymizeText_iff isWord]
  | array items =>
    rw [anonymizeValue, spellings, Shows]
    exact infix_anonymizeItems_iff isWord items
  | object entries =>
    rw [anonymizeValue, spellings, Shows]
    exact infix_anonymizeEntries_iff isWord entries

theorem infix_anonymizeItems_iff (isWord : Word word) (items : List Json) :
    (∃ text ∈ itemSpellings (anonymizeItems items), word <:+: text) ↔ ItemsShow word items := by
  cases items with
  | nil => simp [anonymizeItems, itemSpellings, ItemsShow]
  | cons item rest =>
    rw [anonymizeItems, itemSpellings, ItemsShow, ← infix_anonymizeValue_iff isWord item,
      ← infix_anonymizeItems_iff isWord rest]
    simp only [List.mem_append, or_and_right, exists_or]

theorem infix_anonymizeEntries_iff (isWord : Word word) (entries : Mapping) :
    (∃ text ∈ entrySpellings (anonymizeEntries entries), word <:+: text) ↔
      EntriesShow word entries := by
  cases entries with
  | nil => simp [anonymizeEntries, entrySpellings, EntriesShow]
  | cons entry rest =>
    obtain ⟨key, value⟩ := entry
    rw [anonymizeEntries, entrySpellings, EntriesShow, ← infix_anonymizeValue_iff isWord value,
      ← infix_anonymizeEntries_iff isWord rest, List.exists_mem_cons_iff]
    simp only [List.mem_append, or_and_right, exists_or]

end

theorem infix_joinLines_iff (plain : Plain word) (lines : List Text) :
    word <:+: joinLines lines ↔ ∃ line ∈ lines, word <:+: line := by
  have newline : ∀ c ∈ ['\n'], c ∉ word := by
    intro c member
    rw [List.mem_singleton.mp member]
    exact plain.foreign '\n' (by decide)
  have last : ∀ c ∈ (if lines = [] then [] else ['\n']), c ∉ word := by
    intro c member
    split at member
    · cases member
    · exact newline c member
  unfold joinLines
  rw [infix_before plain.present last, infix_intercalate plain.present newline (by simp)]

theorem infix_invalidLine_iff (isWord : Word word) (stripped : Text) :
    (∃ text ∈ spellings (invalidLine stripped), word <:+: text) ↔ ClearlyShows word stripped := by
  have kind : ¬ word <:+: escape "kind".toList := isWord.plain.not_literal (by decide)
  have invalid : ¬ word <:+: escape "invalid_line".toList := isWord.plain.not_literal (by decide)
  have rawKey : ¬ word <:+: escape "raw".toList := isWord.plain.not_literal (by decide)
  simp only [invalidLine, spellings, entrySpellings, List.append_nil, List.singleton_append,
    List.exists_mem_cons_iff, kind, invalid, rawKey, false_or, List.not_mem_nil, false_and,
    exists_false, or_false, infix_masked_iff isWord]

theorem infix_anonymizeLine_iff (isWord : Word word) (raw : Text) :
    (∃ line, anonymizeLine python raw = some line ∧ word <:+: line) ↔ LineShows python word raw := by
  unfold anonymizeLine LineShows
  dsimp only
  by_cases empty : trim raw = []
  · simp [empty]
  · simp only [if_neg empty, Option.some_inj, exists_eq_left', infix_dumps_iff _ isWord.plain]
    rw [and_iff_right empty]
    cases python.loads (trim raw) with
    | none => exact infix_invalidLine_iff isWord (trim raw)
    | some payload => exact infix_anonymizeValue_iff isWord payload

theorem infix_anonymizeProxyTraceText_iff (isWord : Word word) (lines : List Text) :
    word <:+: anonymizeProxyTraceText python lines ↔ ∃ raw ∈ lines, LineShows python word raw := by
  unfold anonymizeProxyTraceText
  rw [infix_joinLines_iff isWord.plain]
  constructor
  · rintro ⟨line, member, found⟩
    obtain ⟨raw, inLines, written⟩ := List.mem_filterMap.mp member
    exact ⟨raw, inLines, (infix_anonymizeLine_iff isWord raw).mp ⟨line, written, found⟩⟩
  · rintro ⟨raw, inLines, shows⟩
    obtain ⟨line, written, found⟩ := (infix_anonymizeLine_iff isWord raw).mpr shows
    exact ⟨line, List.mem_filterMap.mpr ⟨raw, inLines, written⟩, found⟩

theorem normalizeHexText_idempotent (value : Text) :
    normalizeHexText (normalizeHexText value) = normalizeHexText value := by
  have hex := normalizeHexText_hex value
  have even : (normalizeHexText value).length % 2 = 0 := by
    unfold normalizeHexText
    dsimp only
    split
    · rename_i sound
      exact sound.1
    · rfl
  generalize normalizeHexText value = normalized at hex even
  unfold normalizeHexText
  dsimp only
  rw [squeeze_of_hex hex, if_pos ⟨even, List.all_eq_true.mpr hex⟩]

theorem lineChunk_present {raw : Text} {direction : Direction} {hex : Text}
    (sent : lineChunk python raw = some (direction, hex)) : normalizeHexText hex ≠ [] := by
  unfold lineChunk at sent
  dsimp only at sent
  split at sent
  · cases sent
  · obtain ⟨payload, -, event⟩ := Option.bind_eq_some_iff.mp sent
    unfold eventChunk at event
    split at event
    · dsimp only at event
      split at event
      · cases event
      · rename_i present
        simp only [Option.some_inj, Prod.mk.injEq] at event
        rw [← event.2, normalizeHexText_idempotent]
        exact present
    · cases event

theorem infix_directionalHexDump_iff (isWord : Word word) (lines : List Text) (direction : Direction) :
    word <:+: directionalHexDump python lines true direction ↔
      ∃ raw ∈ lines, ∃ hex, lineChunk python raw = some (direction, hex) ∧ HexShows word hex := by
  unfold directionalHexDump
  simp only [if_true]
  rw [infix_joinLines_iff isWord.plain]
  constructor
  · rintro ⟨line, member, found⟩
    obtain ⟨⟨direction', hex⟩, selected, rfl⟩ := List.mem_map.mp member
    obtain ⟨inChunks, same⟩ := List.mem_filter.mp selected
    obtain ⟨raw, inLines, sent⟩ := List.mem_filterMap.mp inChunks
    obtain rfl : direction' = direction := of_decide_eq_true same
    exact ⟨raw, inLines, hex, sent, (infix_maskSerialsInHex_iff (lineChunk_present sent)).mp found⟩
  · rintro ⟨raw, inLines, hex, sent, shows⟩
    refine ⟨maskSerialsInHex hex, ?_,
      (infix_maskSerialsInHex_iff (lineChunk_present sent)).mpr shows⟩
    refine List.mem_map.mpr ⟨(direction, hex), ?_, rfl⟩
    exact List.mem_filter.mpr ⟨List.mem_filterMap.mpr ⟨raw, inLines, sent⟩, decide_eq_true rfl⟩

variable (python files)

def Anonymized (bundleExists overwrite : Bool) : Prop :=
  (bundleExists = true → overwrite = true) ∧
    marksTraceAnonymized (readManifestPayload python files.manifestText) = true

theorem export_anonymized {bundleExists overwrite : Bool}
    (anonymized : Anonymized python files bundleExists overwrite) :
    ∃ payload, readManifestPayload python files.manifestText = some payload ∧
      exportProxyTraceBundle python files bundleExists overwrite =
        manifestMember files (some payload) true ::
          ((traceFile python files).elim [] fun trace => traceMembers python trace.1 trace.2 true) := by
  obtain ⟨written, marked⟩ := anonymized
  have kept : ¬ (bundleExists = true ∧ overwrite = false) := by
    rintro ⟨there, keep⟩
    rw [written there] at keep
    cases keep
  cases read : readManifestPayload python files.manifestText with
  | none =>
    rw [read] at marked
    cases marked
  | some payload =>
    refine ⟨payload, rfl, ?_⟩
    unfold exportProxyTraceBundle traceFile
    dsimp only
    rw [if_neg kept, marked, read]
    congr 1
    split
    · rename_i missing
      rw [missing]
      rfl
    · rename_i path lines present
      rw [present]
      rfl

theorem infix_manifest_iff (isWord : Word word) (payload : Mapping) :
    word <:+: (manifestMember files (some payload) true).content ↔ EntriesShow word payload := by
  have newline : ∀ c ∈ ['\n'], c ∉ word := by
    intro c member
    rw [List.mem_singleton.mp member]
    exact isWord.plain.foreign '\n' (by decide)
  simp only [manifestMember, if_true, Option.map_some, Option.getD_some]
  rw [infix_before isWord.plain.present newline, infix_dumps_iff _ isWord.plain,
    infix_anonymizeValue_iff isWord, Shows]

theorem shown_iff_exposed {bundleExists overwrite : Bool}
    (anonymized : Anonymized python files bundleExists overwrite) (isWord : Word word) :
    (∃ member ∈ exportProxyTraceBundle python files bundleExists overwrite,
        word <:+: member.name ∨ word <:+: member.content) ↔ Exposed python files word := by
  obtain ⟨payload, read, written⟩ := export_anonymized python files anonymized
  rw [written, List.exists_mem_cons_iff, infix_manifest_iff files isWord]
  constructor
  · rintro ((named | shown) | ⟨member, inTrace, found⟩)
    · exact .manifestName named
    · exact .manifest payload read shown
    · cases present : traceFile python files with
      | none =>
        rw [present] at inTrace
        cases inTrace
      | some trace =>
        obtain ⟨path, lines⟩ := trace
        simp only [present, Option.elim_some, traceMembers, if_true, List.mem_cons,
          List.not_mem_nil, or_false] at inTrace
        have named : ∀ name ∈ traceNames path, word <:+: name → Exposed python files word :=
          fun name inNames => .traceName path lines present name inNames
        have sent : ∀ direction, word <:+: directionalHexDump python lines true direction →
            Exposed python files word := by
          intro direction shown
          obtain ⟨raw, inLines, hex, event, shows⟩ :=
            (infix_directionalHexDump_iff isWord lines direction).mp shown
          exact .chunk path lines present raw inLines direction hex event shows
        rcases inTrace with rfl | rfl | rfl
        · rcases found with inName | inContent
          · exact named _ (by simp [traceNames]) inName
          · obtain ⟨raw, inLines, shows⟩ :=
              (infix_anonymizeProxyTraceText_iff isWord lines).mp inContent
            exact .line path lines present raw inLines shows
        · rcases found with inName | inContent
          · exact named _ (by simp [traceNames]) inName
          · exact sent .collectorToServer inContent
        · rcases found with inName | inContent
          · exact named _ (by simp [traceNames]) inName
          · exact sent .serverToCollector inContent
  · intro exposed
    cases exposed with
    | manifestName found => exact .inl (.inl found)
    | manifest payload' read' found =>
      rw [read, Option.some_inj] at read'
      rw [read']
      exact .inl (.inr found)
    | traceName path lines present name member found =>
      refine .inr ?_
      rw [present]
      simp only [traceNames, List.mem_cons, List.not_mem_nil, or_false] at member
      simp only [Option.elim_some, traceMembers, if_true, List.exists_mem_cons_iff]
      rcases member with rfl | rfl | rfl
      · exact .inl (.inl found)
      · exact .inr (.inl (.inl found))
      · exact .inr (.inr (.inl (.inl found)))
    | line path lines present raw member found =>
      refine .inr ?_
      rw [present]
      simp only [Option.elim_some, traceMembers, if_true, List.exists_mem_cons_iff]
      exact .inl (.inr ((infix_anonymizeProxyTraceText_iff isWord lines).mpr ⟨raw, member, found⟩))
    | chunk path lines present raw member direction hex sent found =>
      refine .inr ?_
      rw [present]
      simp only [Option.elim_some, traceMembers, if_true, List.exists_mem_cons_iff]
      have shown := (infix_directionalHexDump_iff isWord lines direction).mpr
        ⟨raw, member, hex, sent, found⟩
      cases direction with
      | collectorToServer => exact .inr (.inl (.inr shown))
      | serverToCollector => exact .inr (.inr (.inl (.inr shown)))

theorem CollectorPn.pattern (pn : CollectorPn) : CollectorIdentity.pnPattern pn.text = true := by
  have accepted := pn.accepted
  unfold CollectorIdentity.validatedCollectorPn at accepted
  dsimp only at accepted
  split at accepted
  · exact absurd rfl accepted
  · split at accepted
    · assumption
    · exact absurd rfl accepted

theorem pnLeading_range {c : Char} (leading : CollectorIdentity.pnLeading c = true) :
    48 ≤ c.toNat ∧ c.toNat ≤ 122 := by
  simp only [CollectorIdentity.pnLeading, Bool.or_eq_true, Bool.and_eq_true, decide_eq_true_eq]
    at leading
  omega

theorem CollectorPn.first (pn : CollectorPn) :
    ∃ c rest, pn.text.toList = c :: rest ∧ CollectorIdentity.pnLeading c = true := by
  have pattern := pn.pattern
  unfold CollectorIdentity.pnPattern at pattern
  split at pattern
  · cases pattern
  · rename_i c rest same
    simp only [Bool.and_eq_true] at pattern
    exact ⟨c, rest, same, pattern.1.1.1⟩

theorem CollectorPn.not_mem (pn : CollectorPn) {c : Char}
    (foreign : (CollectorIdentity.pnLeading c || c == '.' || c == '_' || c == '-') = false) :
    c ∉ pn.text.toList := by
  intro member
  have pattern := pn.pattern
  unfold CollectorIdentity.pnPattern at pattern
  split at pattern
  · cases pattern
  · rename_i first rest same
    rw [same] at member
    simp only [Bool.and_eq_true] at pattern
    rcases List.mem_cons.mp member with rfl | later
    · simp [pattern.1.1.1] at foreign
    · rw [List.all_eq_true.mp pattern.1.1.2 c later] at foreign
      cases foreign

theorem isDigit_of_toLower {c : Char} (digit : c.toLower.isDigit = true) : c.isDigit = true := by
  unfold Char.toLower at digit
  split at digit
  · rename_i upper
    simp only [Char.isDigit, ge_iff_le, UInt32.le_iff_toNat_le, UInt32.toNat_add, Bool.and_eq_true,
      decide_eq_true_eq] at digit upper
    have low : 'A'.val.toNat = 65 := by decide
    have high : 'Z'.val.toNat = 90 := by decide
    have shift : ('a'.val - 'A'.val).toNat = 32 := by decide
    have nine : '9'.val.toNat = 57 := by decide
    omega
  · exact digit

theorem byteHex_leading {c : Char} (leading : CollectorIdentity.pnLeading c = true) :
    (digitOf ((UInt8.ofNat c.toNat).toNat / 16)).isDigit = true := by
  obtain ⟨low, high⟩ := pnLeading_range leading
  have size : (UInt8.ofNat c.toNat).toNat = c.toNat := by
    rw [UInt8.toNat_ofNat']
    omega
  have small : c.toNat / 16 < 8 := by omega
  have all : ∀ n < 8, (digitOf n).isDigit = true := by decide
  rw [size]
  exact all _ small

theorem CollectorPn.word_of_spelling (pn : CollectorPn) (spelled : pn.Spelling word) :
    Word word := by
  rcases spelled with rfl | hex
  · have foreign : ∀ c ∈ structural, (CollectorIdentity.pnLeading c || c == '.' || c == '_' ||
        c == '-') = false := List.all_iff_forall_prop.mp (by decide)
    refine ⟨⟨fun c member => pn.not_mem (foreign c member), ?_⟩, pn.not_mem (by decide)⟩
    have some' : 0 < pn.text.toList.countP Char.isDigit := by
      have := pn.digits
      omega
    exact List.countP_pos_iff.mp some'
  · have foreign : ∀ c ∈ '*' :: structural, c ∉ word := by
      intro c member inWord
      have noDigit : ∀ d ∈ '*' :: structural, isHexDigit d.toLower = false :=
        List.all_iff_forall_prop.mp (by decide)
      have lowered : c.toLower ∈ word.map Char.toLower := List.mem_map_of_mem inWord
      rw [hex] at lowered
      have isDigit := toHex_isHexDigit _ _ lowered
      rw [noDigit c member] at isDigit
      cases isDigit
    obtain ⟨c, rest, text, leading⟩ := pn.first
    have decimal := byteHex_leading leading
    cases word with
    | nil => simp [CollectorPn.bytes, text, toHex, byteHex] at hex
    | cons d word =>
      have first : d.toLower = digitOf ((UInt8.ofNat c.toNat).toNat / 16) := by
        simp only [CollectorPn.bytes, text, toHex, byteHex, List.map_cons, List.flatMap_cons,
          List.cons_append] at hex
        exact (List.cons_eq_cons.mp hex).1
      rw [← first] at decimal
      exact ⟨⟨fun e member => foreign e (List.mem_cons_of_mem _ member),
        d, List.mem_cons_self, isDigit_of_toLower decimal⟩, foreign '*' List.mem_cons_self⟩

variable (bundleExists overwrite : Bool) (pn : CollectorPn)

/-- An anonymized bundle hides a collector number that occurs in its sources exactly if the
    sources expose no spelling of it. -/
theorem anonymized_bundle_hides_pn_iff :
    (Anonymized python files bundleExists overwrite → Occurs python files pn →
        HidesPn (exportProxyTraceBundle python files bundleExists overwrite) pn) ↔
      (Anonymized python files bundleExists overwrite → Occurs python files pn →
        ∀ word, pn.Spelling word → ¬ Exposed python files word) := by
  refine imp_congr_right fun anonymized => imp_congr_right fun _ => ?_
  constructor
  · intro hides word spelled exposed
    have isWord := pn.word_of_spelling spelled
    obtain ⟨member, inBundle, found⟩ :=
      (shown_iff_exposed python files anonymized isWord).mpr exposed
    rcases found with inName | inContent
    · exact (hides member inBundle).1 ⟨word, spelled, inName⟩
    · exact (hides member inBundle).2 ⟨word, spelled, inContent⟩
  · intro safe member inBundle
    constructor
    · rintro ⟨word, spelled, found⟩
      exact safe word spelled ((shown_iff_exposed python files anonymized
        (pn.word_of_spelling spelled)).mp ⟨member, inBundle, .inl found⟩)
    · rintro ⟨word, spelled, found⟩
      exact safe word spelled ((shown_iff_exposed python files anonymized
        (pn.word_of_spelling spelled)).mp ⟨member, inBundle, .inr found⟩)

def namedPn : CollectorPn where
  text := "E50000200000000001"
  accepted := by decide +kernel
  letter := ⟨'E', by decide, by decide⟩
  digits := by decide

def namedManifest : Mapping :=
  [("manifest_version".toList, .int 1),
    ("created_at".toList, .str "2026-07-16T10:00:00+00:00".toList),
    ("source".toList, .str "proxy_capture".toList),
    ("match".toList, .object
      [("entry_id".toList, .str []), ("collector_pn".toList, .str "E50000200000000001".toList)]),
    ("trace".toList, .object [("path".toList, .str []), ("anonymized".toList, .bool true)]),
    ("session".toList, .object []), ("summary".toList, .object [])]

def namedFiles : Files where
  manifestName := "E50000200000000001_20260716T100000000000Z.json".toList
  manifestText := dumps { indent := some 2 } (.object namedManifest) ++ ['\n']
  lines _ := none

def namedPython : Python where
  loads text := if text = namedFiles.manifestText then some (.object namedManifest) else none
  containerText _ := []

theorem anonymized_bundle_shows_pn :
    ¬ ∀ (python : Python) (files : Files) (bundleExists overwrite : Bool) (pn : CollectorPn),
      Anonymized python files bundleExists overwrite → Occurs python files pn →
        HidesPn (exportProxyTraceBundle python files bundleExists overwrite) pn := by
  intro hides
  have read : readManifestPayload namedPython namedFiles.manifestText = some namedManifest := by
    unfold readManifestPayload namedPython
    dsimp only
    rw [if_pos rfl]
    rfl
  have anonymized : Anonymized namedPython namedFiles false false := by
    refine ⟨nofun, ?_⟩
    rw [read]
    decide
  have occurs : Occurs namedPython namedFiles namedPn := by
    refine .inl ⟨namedManifest, read, ?_⟩
    refine .inr (.inr (.inr (.inr (.inr (.inr (.inr (.inl ?_)))))))
    exact .inr (.inr (.inr (.inl (.inl ⟨[], [], by decide, nofun, nofun⟩))))
  obtain ⟨payload, -, written⟩ := export_anonymized namedPython namedFiles anonymized
  have shown := hides namedPython namedFiles false false namedPn anonymized occurs
  rw [written] at shown
  have named : namedPn.text.toList <:+: namedFiles.manifestName := by decide
  exact (shown _ List.mem_cons_self).1 ⟨namedPn.text.toList, .inl rfl, named⟩

end ProxyTrace
