import EybondLocal.Detection.Catalog
import EybondLocal.Detection.Matcher

/-!
Where the check of an anchor through its signature and the check of its fields agree.
-/
namespace Detection
open StripText PythonText JoinedText

section
variable {F : Type} {r : Runtime F}

theorem mem_toString_int {n : Int} {c : Char} (member : c ∈ (toString n).toList) :
    c.isDigit = true ∨ c = '-' := by
  have digits : ∀ {k : Nat} {d : Char}, d ∈ (Nat.repr k).toList → d.isDigit = true := by
    intro k d inside
    rw [Nat.repr, String.toList_ofList] at inside
    exact Nat.isDigit_of_mem_toDigits (by decide) (by decide) inside
  cases n with
  | ofNat k => exact Or.inl (digits member)
  | negSucc k =>
    have shape : toString (Int.negSucc k) = "-" ++ Nat.repr (k + 1) := rfl
    rw [shape, String.toList_append, List.mem_append] at member
    rcases member with sign | inside
    · exact Or.inr (List.mem_singleton.mp sign)
    · exact Or.inl (digits inside)

/-- A bound as the signature spells it, read back. -/
def printed (r : Runtime F) (bound : Value F) : Except EvidenceError (Value F) :=
  readBound r (bound.str r)

theorem parse_none (lawful : r.Lawful) : r.parse "None" = none :=
  lawful.parse_words "None" (by decide)

theorem readBound_number (lawful : r.Lawful) {text : String} {f : F} (read : r.parse text = some f) :
    readBound r text = .ok (.float f) := by
  have word : text ≠ "None" := by
    rintro rfl
    rw [parse_none lawful] at read
    cases read
  rw [readBound, if_neg word, read]

theorem readBound_refused {text : String} (word : text ≠ "None") (unread : r.parse text = none) :
    readBound r text = .error .value := by
  rw [readBound, if_neg word, unread]

theorem readBound_ok (lawful : r.Lawful) {text : String} {bound : Value F}
    (read : readBound r text = .ok bound) :
    (bound = .none ∧ r.parse text = none) ∨ ∃ f, bound = .float f ∧ r.parse text = some f := by
  unfold readBound at read
  split at read
  · rename_i word
    cases read
    exact Or.inl ⟨rfl, by rw [word, parse_none lawful]⟩
  · split at read
    · rename_i f parsed
      cases read
      exact Or.inr ⟨f, rfl, parsed⟩
    · cases read

theorem printed_error {bound : Value F} {error : EvidenceError}
    (unread : printed r bound = .error error) : error = .value := by
  unfold printed readBound at unread
  split at unread
  · cases unread
  · split at unread <;> cases unread
    rfl

theorem printed_none : printed r (.none : Value F) = .ok .none := rfl

theorem toFloat_int {n : Int} {f : F} (converted : (Value.int n).toFloat r = .ok f) :
    r.ofInt n = some f := by
  unfold Value.toFloat at converted
  cases float : r.ofInt n <;> simp_all

theorem toFloat_text {s : String} {f : F} (converted : (Value.text s).toFloat r = .ok f) :
    r.parse s = some f := by
  unfold Value.toFloat at converted
  cases float : r.parse s <;> simp_all

/-- A bound that has a float reads back as that float, unless its text is the name of a truth
    value. -/
theorem printed_of_toFloat (lawful : r.Lawful) {bound read : Value F} {f : F}
    (converted : bound.toFloat r = .ok f) (readable : printed r bound = .ok read) :
    read = .float f := by
  have number {text : String} {g : F} (parsed : r.parse text = some g)
      (spelled : bound.str r = text) (same : g = f) : read = .float f := by
    rw [printed, spelled, readBound_number lawful parsed, same] at readable
    exact (Except.ok.inj readable).symm
  cases bound with
  | none | other => cases converted
  | int n => exact number (lawful.parse_int n f (toFloat_int converted)) rfl rfl
  | float g => exact number (lawful.parse_repr g) rfl (Except.ok.inj converted)
  | text s => exact number (toFloat_text converted) rfl rfl
  | bool b =>
    have word : r.parse ((Value.bool b : Value F).str r) = none := by
      cases b
      · exact lawful.parse_words "False" (by decide)
      · exact lawful.parse_words "True" (by decide)
    have apart : (Value.bool b : Value F).str r ≠ "None" := by
      cases b <;> simp [Value.str]
    rw [printed, readBound_refused apart word] at readable
    cases readable

theorem readBound_colon (lawful : r.Lawful) {text : String} (colon : ':' ∈ text.toList) :
    readBound r text = .error .value := by
  apply readBound_refused _ (lawful.parse_colon text colon)
  rintro rfl
  exact absurd colon (by decide)

theorem signatureMatches_range (lawful : r.Lawful) (low high value : Value F) :
    signatureMatchesValue r ("range:" ++ low.str r ++ ":" ++ high.str r) value =
      ((printed r low).bind fun low => (printed r high).bind fun high =>
        rangeMatches r low high value) := by
  have joined : "range:" ++ low.str r ++ ":" ++ high.str r =
      "range:" ++ (low.str r ++ String.ofList [':'] ++ high.str r) := by
    have colon : String.ofList [':'] = ":" := rfl
    rw [colon]
    simp only [String.append_assoc]
  rw [joined]
  generalize text : low.str r ++ String.ofList [':'] ++ high.str r = bounds
  have head := head_append (rfl : "range:".toList.head? = some 'r') bounds
  rw [signatureMatches_of_head head .rangeContainsValue (by decide), Matcher.matches,
    signatureRangeContainsValue, afterStart_append]
  by_cases colon : ':' ∈ (low.str r).toList
  · -- the text of the lower bound is cut in two, and its rest reads as no upper bound
    obtain ⟨before, after, cut, more⟩ := cutAt_append_of_mem colon (high.str r)
    rw [text] at cut
    rw [printed, readBound_colon lawful colon]
    simp only [cut, readBound_colon lawful more]
    cases first : readBound r before with
    | error error =>
      have unread : printed r (.text before) = .error error := first
      rw [printed_error unread]
      rfl
    | ok bound => rfl
  · have cut := cutAt_append colon (high.str r)
    rw [text] at cut
    simp only [cut, printed]
    cases readBound r (low.str r) with
    | error error => rfl
    | ok low =>
      cases readBound r (high.str r) with
      | error error => rfl
      | ok high => rfl

/-- The signature's text for a bound is `None` or a number. -/
def Value.Readable (r : Runtime F) (bound : Value F) : Prop :=
  bound.str r = "None" ∨ (r.parse (bound.str r)).isSome = true

def Value.Converts (r : Runtime F) (bound : Value F) : Prop :=
  bound.isNone = false → ∃ f, bound.toFloat r = .ok f

/-- Every bound that the comparison reaches has a float. -/
def BoundsFit (r : Runtime F) (low high value : Value F) : Prop :=
  ∀ observed, value.toFloat r = .ok observed →
    low.Converts r ∧ (outside r low (r.lt observed) = .ok false → high.Converts r)

/-- The comparison reaches a bound that is a text and no number. -/
def ReachesWord (r : Runtime F) (low high value : Value F) : Prop :=
  ∃ observed, value.toFloat r = .ok observed ∧
    (outside r low (r.lt observed) = .error .value ∨
      outside r low (r.lt observed) = .ok false ∧
        outside r high (r.lt · observed) = .error .value)

def RangesAgree (r : Runtime F) (low high value : Value F) : Prop :=
  (low.Readable r ∧ high.Readable r ∧ BoundsFit r low high value) ∨
    (¬ (low.Readable r ∧ high.Readable r) ∧ ReachesWord r low high value)

/-- The bounds as spelled are readable, and the value is no number or beyond one of them. -/
def BeyondPrinted (r : Runtime F) (low high value : Value F) : Prop :=
  low.Readable r ∧ high.Readable r ∧
    (value.toFloat r = .error .value ∨ value.toFloat r = .error .type ∨
      ∃ observed, value.toFloat r = .ok observed ∧
        ((∃ f, r.parse (low.str r) = some f ∧ r.lt observed f = true) ∨
          ∃ f, r.parse (high.str r) = some f ∧ r.lt f observed = true))

theorem readable_iff {bound : Value F} :
    bound.Readable r ↔ ∃ read, printed r bound = .ok read := by
  unfold Value.Readable printed readBound
  by_cases word : bound.str r = "None"
  · simp [word]
  · cases parsed : r.parse (bound.str r) <;> simp [word]

theorem outside_read (lawful : r.Lawful) {bound read : Value F}
    (readable : printed r bound = .ok read) (wrong : F → Bool) :
    ∃ b, outside r read wrong = .ok b ∧
      (b = true ↔ ∃ f, r.parse (bound.str r) = some f ∧ wrong f = true) := by
  rcases readBound_ok lawful readable with ⟨rfl, unread⟩ | ⟨f, rfl, parsed⟩
  · exact ⟨false, rfl, by simp [unread]⟩
  · exact ⟨wrong f, rfl, by simp [parsed]⟩

theorem outside_printed (lawful : r.Lawful) {bound read : Value F}
    (readable : printed r bound = .ok read) (converts : bound.Converts r) (wrong : F → Bool) :
    outside r read wrong = outside r bound wrong := by
  cases absent : bound.isNone with
  | true =>
    cases bound with
    | none =>
      obtain rfl : Value.none = read := Except.ok.inj (printed_none.symm.trans readable)
      rfl
    | bool | int | float | text | other => cases absent
  | false =>
    obtain ⟨f, converted⟩ := converts absent
    have whole : outside r bound wrong = .ok (wrong f) := by
      rw [outside, absent, converted]
      rfl
    rw [printed_of_toFloat lawful converted readable, whole]
    rfl

theorem converts_iff {bound : Value F} (wrong : F → Bool) :
    bound.Converts r ↔ ∃ b, outside r bound wrong = .ok b := by
  unfold Value.Converts outside
  cases bound.isNone with
  | true => simp
  | false => cases bound.toFloat r <;> simp [Except.map]

theorem range_printed_iff (lawful : r.Lawful) {low high low' high' value : Value F}
    (lowRead : printed r low = .ok low') (highRead : printed r high = .ok high') :
    rangeMatches r low' high' value = rangeMatches r low high value ↔
      BoundsFit r low high value := by
  unfold rangeMatches BoundsFit
  cases observed : value.toFloat r with
  | error error => cases error <;> simp
  | ok f =>
    simp only [Except.ok.injEq, forall_eq']
    obtain ⟨lower, below, -⟩ := outside_read lawful lowRead (r.lt f)
    obtain ⟨upper, above, -⟩ := outside_read lawful highRead (r.lt · f)
    rw [below, above]
    by_cases low_fits : low.Converts r
    · have same := outside_printed lawful lowRead low_fits (r.lt f)
      rw [below] at same
      rw [← same]
      cases lower with
      | true => simp [low_fits]
      | false =>
        by_cases high_fits : high.Converts r
        · rw [← outside_printed lawful highRead high_fits, above]
          simp [low_fits, high_fits]
        · have raises : ∀ b, outside r high (r.lt · f) ≠ .ok b := fun b said =>
            high_fits ((converts_iff _).mpr ⟨b, said⟩)
          cases said : outside r high (r.lt · f) with
          | error error => simp [low_fits, high_fits, Except.map]
          | ok b => exact absurd said (raises b)
    · cases said : outside r low (r.lt f) with
      | error error => cases lower <;> simp [low_fits, Except.map]
      | ok b => exact absurd ((converts_iff _).mpr ⟨b, said⟩) low_fits

theorem reachesWord_iff {low high value : Value F} :
    rangeMatches r low high value = .error .value ↔ ReachesWord r low high value := by
  unfold rangeMatches ReachesWord
  cases observed : value.toFloat r with
  | error error => cases error <;> simp
  | ok f =>
    dsimp only
    cases lower : outside r low (r.lt f) with
    | error error => simp [lower]
    | ok b =>
      cases b with
      | true => simp [lower]
      | false => cases upper : outside r high (r.lt · f) <;> simp [lower, upper, Except.map]

theorem printed_range_iff (lawful : r.Lawful) (low high value : Value F) :
    ((printed r low).bind fun low => (printed r high).bind fun high =>
        rangeMatches r low high value) = rangeMatches r low high value ↔
      RangesAgree r low high value := by
  unfold RangesAgree
  cases lowRead : printed r low with
  | error error =>
    have unreadable : ¬ low.Readable r := by
      rw [readable_iff]
      rintro ⟨read, same⟩
      rw [lowRead] at same
      cases same
    rw [printed_error lowRead, ← reachesWord_iff]
    simp [unreadable, Except.bind, eq_comm]
  | ok low' =>
    have lowReadable : low.Readable r := readable_iff.mpr ⟨low', lowRead⟩
    cases highRead : printed r high with
    | error error =>
      have unreadable : ¬ high.Readable r := by
        rw [readable_iff]
        rintro ⟨read, same⟩
        rw [highRead] at same
        cases same
      rw [printed_error highRead, ← reachesWord_iff]
      simp [unreadable, Except.bind, eq_comm]
    | ok high' =>
      have highReadable : high.Readable r := readable_iff.mpr ⟨high', highRead⟩
      simp only [Except.bind, lowReadable, highReadable, range_printed_iff lawful lowRead highRead,
        true_and, and_self, not_true_eq_false, false_and, or_false]

theorem beyondPrinted_iff (lawful : r.Lawful) (low high value : Value F) :
    ((printed r low).bind fun low => (printed r high).bind fun high =>
        rangeMatches r low high value) = .ok false ↔ BeyondPrinted r low high value := by
  unfold BeyondPrinted
  rw [readable_iff, readable_iff]
  cases lowRead : printed r low with
  | error error => simp [Except.bind]
  | ok low' =>
    cases highRead : printed r high with
    | error error => simp [Except.bind]
    | ok high' =>
      have readable : (∃ read, Except.ok (ε := EvidenceError) low' = .ok read) ∧
          ∃ read, Except.ok (ε := EvidenceError) high' = .ok read := ⟨⟨_, rfl⟩, _, rfl⟩
      simp only [Except.bind, readable, true_and, rangeMatches]
      cases observed : value.toFloat r with
      | error error => cases error <;> simp
      | ok f =>
        obtain ⟨lower, below, isBelow⟩ := outside_read lawful lowRead (r.lt f)
        obtain ⟨upper, above, isAbove⟩ := outside_read lawful highRead (r.lt · f)
        simp only [reduceCtorEq, false_or, Except.ok.injEq, exists_eq_left', ← isBelow, ← isAbove]
        rw [below, above]
        cases lower <;> cases upper <;> simp [Except.map]

def Piece (r : Runtime F) (options : List (Value F)) (text : String) : Prop :=
  text ≠ "" ∧ ∃ option ∈ options, text ∈ splitText ',' (stableSignatureValue r option)

/-- A comma-separated piece of a token occurs in the text only where a whole token does, and a
    token of commas only where a piece does. -/
def CommasHarmless (tokens : List String) (text : String) : Prop :=
  (∀ token ∈ tokens, ∀ piece ∈ splitText ',' token, piece ≠ "" → occursIn piece text = true →
    ∃ whole ∈ tokens, whole ≠ "" ∧ occursIn whole text = true) ∧
  ∀ token ∈ tokens, token ≠ "" → (∀ c ∈ token.toList, c = ',') → occursIn token text = true →
    ∃ other ∈ tokens, ∃ piece ∈ splitText ',' other, piece ≠ "" ∧ occursIn piece text = true

namespace AnchorCondition
variable (anchor : AnchorCondition F)

def rest : AnchorCondition F :=
  if anchor.equals.isNone = false then { anchor with equals := .none }
  else if anchor.oneOf ≠ [] then { anchor with oneOf := [] }
  else if anchor.ranged then { anchor with minValue := .none, maxValue := .none }
  else if anchor.knownEnum then { anchor with knownEnum := false }
  else { anchor with containsAny := [] }

def SameOn (r : Runtime F) (value : Value F) : Prop :=
  let accepts := anchorConditionMatches r anchor.rest value = .ok true
  let refuses := anchorConditionMatches r anchor.rest value = .ok false
  let piece := Piece r anchor.oneOf (stableSignatureValue r value)
  if anchor.equals.isNone = false then equalsMatches r anchor.equals value = true → accepts
  else if anchor.oneOf ≠ [] then
    (piece ∧ oneOfMatches r anchor.oneOf value = true ∧ accepts) ∨
      (¬ piece ∧ (oneOfMatches r anchor.oneOf value = false ∨ refuses))
  else if anchor.ranged then
    (accepts ∧ RangesAgree r anchor.minValue anchor.maxValue value) ∨
      (refuses ∧ BeyondPrinted r anchor.minValue anchor.maxValue value)
  else if anchor.knownEnum then knownEnumMatches value = true → accepts
  else if anchor.containsAny ≠ [] then
    CommasHarmless anchor.containsAny (r.lower (value.str r))
  else value.isNone = false

end AnchorCondition

theorem containsAny_iff {tokens : List String} {value : Value F} :
    containsAnyMatches r tokens value = true ↔
      ∃ token ∈ tokens, token ≠ "" ∧ occursIn token (r.lower (value.str r)) = true := by
  simp [containsAnyMatches]

theorem containsAny_pieces_iff (tokens : List String) (value : Value F) :
    containsAnyMatches r (tokens.flatMap (splitText ',')) value =
        containsAnyMatches r tokens value ↔
      CommasHarmless tokens (r.lower (value.str r)) := by
  rw [Bool.eq_iff_iff, containsAny_iff, containsAny_iff]
  simp only [List.mem_flatMap]
  constructor
  · rintro ⟨whole, cut⟩
    constructor
    · intro token member piece split nonempty found
      exact whole ⟨piece, ⟨token, member, split⟩, nonempty, found⟩
    · intro token member nonempty _ found
      obtain ⟨piece, ⟨other, among, split⟩, rest⟩ := cut ⟨token, member, nonempty, found⟩
      exact ⟨other, among, piece, split, rest⟩
  · rintro ⟨whole, commas⟩
    constructor
    · rintro ⟨piece, ⟨token, member, split⟩, nonempty, found⟩
      exact whole token member piece split nonempty found
    · rintro ⟨token, member, nonempty, found⟩
      by_cases only : ∀ c ∈ token.toList, c = ','
      · obtain ⟨other, among, piece, split, rest⟩ := commas token member nonempty only found
        exact ⟨piece, ⟨other, among, split⟩, rest⟩
      · obtain ⟨c, inside, other⟩ : ∃ c ∈ token.toList, c ≠ ',' := by
          by_contra! all
          exact only all
        obtain ⟨piece, split, filled⟩ := exists_piece inside other
        exact ⟨piece, ⟨token, member, split⟩, filled, occursIn_piece split found⟩

theorem piece_iff {options : List (Value F)} (some_option : options ≠ []) (text : String) :
    text ∈ (splitText ',' (joinText ',' (options.map (stableSignatureValue r)))).filter (· ≠ "") ↔
      Piece r options text := by
  rw [splitText_joinText ',' (by simpa using some_option), List.mem_filter]
  simp only [List.mem_flatMap, List.mem_map, exists_exists_and_eq_and, ne_eq, decide_not,
    Bool.not_eq_eq_eq_not, Bool.not_true, decide_eq_false_iff_not, Piece]
  exact and_comm

section
variable {anchor : AnchorCondition F} {value : Value F}

theorem matches_equals (given : anchor.equals.isNone = false) :
    anchorConditionMatches r anchor value =
      if equalsMatches r anchor.equals value = false then .ok false
      else anchorConditionMatches r { anchor with equals := .none } value := by
  unfold anchorConditionMatches
  by_cases same : equalsMatches r anchor.equals value = false
  · rw [if_pos ⟨given, same⟩, if_pos same]
  · rw [if_neg (fun both => same both.2), if_neg same]
    simp [Value.isNone, AnchorCondition.ranged]

theorem matches_oneOf (absent : ¬ anchor.equals.isNone = false) (given : anchor.oneOf ≠ []) :
    anchorConditionMatches r anchor value =
      if oneOfMatches r anchor.oneOf value = false then .ok false
      else anchorConditionMatches r { anchor with oneOf := [] } value := by
  unfold anchorConditionMatches
  rw [if_neg (fun both => absent both.1)]
  by_cases same : oneOfMatches r anchor.oneOf value = false
  · rw [if_pos ⟨given, same⟩, if_pos same]
  · rw [if_neg (fun both => same both.2), if_neg same]
    simp [absent, AnchorCondition.ranged]

theorem matches_range (absent : ¬ anchor.equals.isNone = false) (unlisted : ¬ anchor.oneOf ≠ [])
    (given : anchor.ranged = true) :
    (anchorConditionMatches r { anchor with minValue := .none, maxValue := .none } value =
        .ok false ∧ anchorConditionMatches r anchor value = .ok false) ∨
      (anchorConditionMatches r { anchor with minValue := .none, maxValue := .none } value =
        .ok true ∧ anchorConditionMatches r anchor value =
          rangeMatches r anchor.minValue anchor.maxValue value) := by
  unfold anchorConditionMatches
  by_cases tokens : anchor.containsAny ≠ [] ∧ containsAnyMatches r anchor.containsAny value = false
  · left
    simp [absent, unlisted, tokens]
  · by_cases known : anchor.knownEnum = true ∧ knownEnumMatches value = false
    · left
      simp [absent, unlisted, known]
    · right
      have none_left : ({ anchor with minValue := .none, maxValue := .none } :
        AnchorCondition F).ranged = false := rfl
      constructor
      · rw [if_neg (fun both => absent both.1), if_neg (fun both => unlisted both.1),
          if_neg tokens, if_neg known, none_left]
        rfl
      · rw [if_neg (fun both => absent both.1), if_neg (fun both => unlisted both.1),
          if_neg tokens, if_neg known, if_pos given]

theorem matches_known (absent : ¬ anchor.equals.isNone = false) (unlisted : ¬ anchor.oneOf ≠ [])
    (unranged : ¬ anchor.ranged = true) (given : anchor.knownEnum = true) :
    anchorConditionMatches r anchor value =
      if knownEnumMatches value = false then .ok false
      else anchorConditionMatches r { anchor with knownEnum := false } value := by
  have still : ({ anchor with knownEnum := false } : AnchorCondition F).ranged = false :=
    Bool.not_eq_true _ ▸ unranged
  unfold anchorConditionMatches
  by_cases known : knownEnumMatches value = false
  · simp [absent, unlisted, given, known]
  · simp [absent, unlisted, unranged, known, still]

theorem matches_containsAny (absent : ¬ anchor.equals.isNone = false)
    (unlisted : ¬ anchor.oneOf ≠ []) (unranged : ¬ anchor.ranged = true)
    (unknown : ¬ anchor.knownEnum = true) (given : anchor.containsAny ≠ []) :
    anchorConditionMatches r anchor value =
      .ok (containsAnyMatches r anchor.containsAny value) := by
  unfold anchorConditionMatches
  rw [if_neg (fun both => absent both.1), if_neg (fun both => unlisted both.1)]
  cases contains : containsAnyMatches r anchor.containsAny value with
  | false => rw [if_pos ⟨given, rfl⟩]
  | true =>
    rw [if_neg (fun both => by cases both.2), if_neg (fun both => unknown both.1), if_neg unranged]

theorem matches_nothing (absent : ¬ anchor.equals.isNone = false)
    (unlisted : ¬ anchor.oneOf ≠ []) (unranged : ¬ anchor.ranged = true)
    (unknown : ¬ anchor.knownEnum = true) (untold : ¬ anchor.containsAny ≠ []) :
    anchorConditionMatches r anchor value = .ok true := by
  unfold anchorConditionMatches
  rw [if_neg (fun both => absent both.1), if_neg (fun both => unlisted both.1),
    if_neg (fun both => untold both.1), if_neg (fun both => unknown both.1), if_neg unranged]

theorem equals_agree_iff (given : anchor.equals.isNone = false) :
    signatureMatchesValue r ("equals:" ++ stableSignatureValue r anchor.equals) value =
        anchorConditionMatches r anchor value ↔
      (equalsMatches r anchor.equals value = true →
        anchorConditionMatches r { anchor with equals := .none } value = .ok true) := by
  rw [signatureMatches_equals, matches_equals given]
  by_cases same : stableSignatureValue r value = stableSignatureValue r anchor.equals
  · have holds : equalsMatches r anchor.equals value = true := decide_eq_true same
    rw [decide_eq_true same.symm, holds, if_neg (by simp)]
    constructor
    · intro agree _
      exact agree.symm
    · intro accepts
      exact (accepts rfl).symm
  · have fails : equalsMatches r anchor.equals value = false := decide_eq_false same
    rw [decide_eq_false (fun eq => same eq.symm), fails, if_pos rfl]
    constructor
    · intro _ absurd
      cases absurd
    · intro _
      rfl

theorem oneOf_agree_iff (absent : ¬ anchor.equals.isNone = false) (given : anchor.oneOf ≠ []) :
    signatureMatchesValue r
          ("one_of:" ++ joinText ',' (anchor.oneOf.map (stableSignatureValue r))) value =
        anchorConditionMatches r anchor value ↔
      (Piece r anchor.oneOf (stableSignatureValue r value) ∧
        oneOfMatches r anchor.oneOf value = true ∧
          anchorConditionMatches r { anchor with oneOf := [] } value = .ok true) ∨
      (¬ Piece r anchor.oneOf (stableSignatureValue r value) ∧
        (oneOfMatches r anchor.oneOf value = false ∨
          anchorConditionMatches r { anchor with oneOf := [] } value = .ok false)) := by
  rw [signatureMatches_oneOf, matches_oneOf absent given]
  have cut := piece_iff (r := r) given (stableSignatureValue r value)
  by_cases piece : Piece r anchor.oneOf (stableSignatureValue r value)
  · rw [decide_eq_true (cut.mpr piece)]
    simp only [piece, true_and, not_true_eq_false, false_and, or_false]
    cases among : oneOfMatches r anchor.oneOf value with
    | false => simp
    | true =>
      simp only [Bool.true_eq_false, if_false, true_and]
      exact eq_comm
  · rw [decide_eq_false (fun member => piece (cut.mp member))]
    simp only [piece, false_and, not_false_eq_true, true_and, false_or]
    cases among : oneOfMatches r anchor.oneOf value with
    | false => simp
    | true =>
      simp only [Bool.true_eq_false, if_false, false_or]
      exact eq_comm

end

end

def digitsValue (text : List Char) : Option Int :=
  if text ≠ [] ∧ text.all Char.isDigit then some (Nat.ofDigitChars 10 text 0) else none

def wholeText (s : String) : Option Int :=
  match s.toList with
  | '-' :: rest => (digitsValue rest).map (- ·)
  | text => digitsValue text

theorem digitsValue_toDigits (n : Nat) : digitsValue (Nat.toDigits 10 n) = some (n : Int) := by
  have digits : (Nat.toDigits 10 n).all Char.isDigit = true := by
    rw [List.all_eq_true]
    intro c member
    exact Nat.isDigit_of_mem_toDigits (by decide) (by decide) member
  rw [digitsValue, if_pos ⟨Nat.toDigits_ne_nil, digits⟩, Nat.ofDigitChars_ten_toDigits]

theorem wholeText_toString (n : Int) : wholeText (toString n) = some n := by
  cases n with
  | ofNat k =>
    have shape : (toString (Int.ofNat k)).toList = Nat.toDigits 10 k := Nat.toList_repr
    unfold wholeText
    rw [shape]
    split
    · rename_i rest digits
      have sign : ('-').isDigit = true :=
        Nat.isDigit_of_mem_toDigits (by decide) (by decide) (digits ▸ List.mem_cons_self)
      exact absurd sign (by decide)
    · exact digitsValue_toDigits k
  | negSucc k =>
    have shape : (toString (Int.negSucc k)).toList = '-' :: Nat.toDigits 10 (k + 1) := by
      have sign : toString (Int.negSucc k) = "-" ++ Nat.repr (k + 1) := rfl
      rw [sign, String.toList_append, Nat.toList_repr]
      rfl
    unfold wholeText
    rw [shape]
    exact congrArg (Option.map fun n => -n) (digitsValue_toDigits (k + 1))

theorem digitsValue_none {text : List Char} {c : Char} (member : c ∈ text)
    (other : c.isDigit = false) : digitsValue text = none := by
  rw [digitsValue, if_neg]
  rintro ⟨-, digits⟩
  rw [List.all_eq_true.mp digits c member] at other
  cases other

theorem wholeText_none {s : String} {c : Char} (member : c ∈ s.toList)
    (other : c.isDigit = false ∧ c ≠ '-') : wholeText s = none := by
  unfold wholeText
  split
  · rename_i rest split
    rw [split] at member
    have later := (List.mem_cons.mp member).resolve_left other.2
    rw [digitsValue_none later other.1]
    rfl
  · exact digitsValue_none member other.1

def wholeFloats : Runtime Int where
  ofInt n := some n
  parse := wholeText
  repr n := toString n
  lt a b := a < b
  integral n := some n
  lower := lowerAscii

theorem wholeFloats_lawful : wholeFloats.Lawful where
  parse_repr := wholeText_toString
  parse_int := by
    intro n f converted
    cases converted
    exact wholeText_toString n
  parse_large := nofun
  parse_colon := by
    intro s colon
    apply wholeText_none colon
    decide
  parse_words := by decide

def ratedVoltage : AnchorCondition Int where
  key := "fingerprint.rated_voltage"
  source := "inverter_catalog.anchors"
  equals := .int 220

def labelledAnchor : RawAnchor Int where
  key := "runtime.model_label"
  knownEnum := true
  containsAny := [.text "Anenji"]

end Detection
