import EybondLocal.Capability.Codec
import Mathlib.Tactic.Ring

/-!
When the codec gives back the words that it decoded. Numbers without a scale, dates and times always
come back; a label comes back when it reads as its own number, and a divided value when the
decimals that are kept still hold it.
-/
namespace Capability
open OrderedDict StripText PythonText IsoTimestamp DateText HalfEven

theorem pow_tens_dvd (left n : Nat) : 10 ^ tens left n ∣ n := by
  induction left generalizing n with
  | zero => simp [tens]
  | succ left ih =>
    unfold tens
    split
    · rename_i more
      obtain ⟨k, eq⟩ := ih (n / 10)
      refine ⟨k, ?_⟩
      have whole : n = n / 10 * 10 := by omega
      rw [whole, Nat.pow_succ]
      nth_rewrite 1 [eq]
      rw [← whole]
      ring
    · exact one_dvd n

theorem pow_decimals_dvd (divisor : Int) : (10 : Int) ^ decimalsForDivisor divisor ∣ divisor := by
  by_cases positive : 0 ≤ divisor
  · obtain ⟨n, rfl⟩ := Int.eq_ofNat_of_zero_le positive
    have nat := Int.natCast_dvd_natCast.mpr (pow_tens_dvd n n)
    rw [Nat.cast_pow] at nat
    exact nat
  · have zero : divisor.toNat = 0 := by omega
    simp [decimalsForDivisor, zero, tens]

def unit (divisor : Int) : Int := divisor / 10 ^ decimalsForDivisor divisor

theorem scaled_back_iff {divisor : Int} (some_divisor : divisor ≠ 0) (raw : Int) :
    roundHalfEven (roundTo (raw / divisor) (decimalsForDivisor divisor) * divisor) = raw ↔
      unit divisor ∣ raw := by
  have power : (10 : ℚ) ^ decimalsForDivisor divisor ≠ 0 := by positivity
  have whole : divisor = unit divisor * 10 ^ decimalsForDivisor divisor :=
    (Int.ediv_mul_cancel (pow_decimals_dvd divisor)).symm
  have some_unit : unit divisor ≠ 0 := by
    intro zero
    rw [zero, zero_mul] at whole
    exact some_divisor whole
  have unit_rat : (unit divisor : ℚ) ≠ 0 := by exact_mod_cast some_unit
  have divisor_rat : (divisor : ℚ) = unit divisor * 10 ^ decimalsForDivisor divisor := by
    exact_mod_cast congrArg (Int.cast (R := ℚ)) whole
  have shifted : (raw : ℚ) / divisor * 10 ^ decimalsForDivisor divisor = raw / unit divisor := by
    rw [divisor_rat]
    field_simp
  have product : roundTo (raw / divisor) (decimalsForDivisor divisor) * divisor =
      ((roundHalfEven (raw / unit divisor) * unit divisor : Int) : ℚ) := by
    unfold roundTo
    rw [shifted, divisor_rat]
    push_cast
    field_simp
  rw [product, roundHalfEven_intCast]
  constructor
  · intro back
    exact ⟨_, by rw [mul_comm]; exact back.symm⟩
  · rintro ⟨m, rfl⟩
    have quotient : ((unit divisor * m : Int) : ℚ) / unit divisor = (m : Int) := by
      push_cast
      field_simp
    rw [quotient, roundHalfEven_intCast, mul_comm]

def LastLabel (name : String → String) (enumMap : Dict Int String) (raw : Int) (text : String) :
    Prop :=
  (enumMap.items.reverse.find? fun item => name item.2 = text).map Prod.fst = some raw

instance (name : String → String) (enumMap : Dict Int String) (raw : Int) (text : String) :
    Decidable (LastLabel name enumMap raw text) := inferInstanceAs (Decidable (_ = _))

theorem reverseMap_get? (name : String → String) (enumMap : Dict Int String) (text : String) :
    (reverseMap name enumMap).get? text =
      (enumMap.items.reverse.find? fun item => name item.2 = text).map Prod.fst := by
  have fold : ∀ items : List (Int × String),
      (items.foldl (fun map item => map.set (name item.2) item.1)
        (Dict.empty : Dict String Int)).get? text =
          (items.reverse.find? fun item => name item.2 = text).map Prod.fst := by
    intro items
    induction items using List.reverseRecOn with
    | nil => rfl
    | append_singleton items item ih =>
      rw [List.foldl_append, List.reverse_append, List.reverse_singleton, List.singleton_append,
        List.foldl_cons, List.foldl_nil, Dict.get?_set, List.find?_cons]
      by_cases same : name item.2 = text
      · simp [same]
      · simp [same, Ne.symm same, ih]
  exact fold enumMap.items

def EnumLabel (enumMap : Dict Int String) (raw : Int) (label : String) : Prop :=
  if isDigitText (strip label) then parseInt (strip label) = some raw
  else LastLabel id enumMap raw (strip label)

def BoolLabel (lower : String → String) (enumMap : Dict Int String) (raw : Int) (label : String) :
    Prop :=
  if lower (strip label) ∈ truthyWords then raw = 1
  else if lower (strip label) ∈ falsyWords then raw = 0
  else LastLabel lower enumMap raw (lower (strip label))

instance (enumMap : Dict Int String) (raw : Int) (label : String) :
    Decidable (EnumLabel enumMap raw label) := by
  unfold EnumLabel
  infer_instance

instance (lower : String → String) (enumMap : Dict Int String) (raw : Int) (label : String) :
    Decidable (BoolLabel lower enumMap raw label) := by
  unfold BoolLabel
  infer_instance

namespace WriteCapability
variable {c : WriteCapability} {p : Platform} {raw : Int} {label : String}

theorem enumRaw_eq_ok_iff :
    c.enumRaw p (strip label) = .ok raw ↔ EnumLabel c.enumValueMap raw label := by
  unfold enumRaw EnumLabel LastLabel
  split
  · cases parseInt (strip label) <;> simp
  · rw [reverseMap_get?]
    cases (c.enumValueMap.items.reverse.find? fun item => id item.2 = strip label) <;> simp

theorem boolRaw_eq_ok_iff :
    c.boolRaw p (.text label) = .ok raw ↔ BoolLabel p.lower c.enumValueMap raw label := by
  unfold boolRaw BoolLabel LastLabel
  dsimp only [pyStr]
  by_cases truthy : p.lower (strip label) ∈ truthyWords
  · simp [truthy, eq_comm]
  · by_cases falsy : p.lower (strip label) ∈ falsyWords
    · simp [truthy, falsy, eq_comm]
    · rw [if_neg truthy, if_neg truthy, if_neg falsy, if_neg falsy, reverseMap_get?]
      cases (c.enumValueMap.items.reverse.find? fun item =>
        p.lower item.2 = p.lower (strip label)) <;> simp

def InRange (c : WriteCapability) (raw : Int) : Prop :=
  (∀ low, c.minimum = some low → low ≤ raw) ∧ ∀ high, c.maximum = some high → raw ≤ high

def number (c : WriteCapability) : List Int → Int
  | [high, low] => if c.valueKind = .u32 then high * 65536 + low else high
  | raw :: _ => raw
  | [] => 0

def Declared (c : WriteCapability) (words : List Int) : Prop :=
  match c.valueKind with
  | .enum => (c.enumValueMap.get? (c.number words)).isSome
  | .bool => c.number words = 0 ∨ c.number words = 1
  | .scaledU16 | .u16 | .u32 | .timeHhmm => c.InRange (c.number words)
  | .action | .dateWords | .timeWords => True

def ReadsBack (c : WriteCapability) (p : Platform) (words : List Int) : Prop :=
  match c.valueKind with
  | .enum => c.wordCount = 1 ∧
      ∀ label, c.enumValueMap.get? (c.number words) = some label →
        EnumLabel c.enumValueMap (c.number words) label
  | .bool => c.wordCount = 1 ∧
      ∀ label, c.enumValueMap.get? (c.number words) = some label →
        BoolLabel p.lower c.enumValueMap (c.number words) label
  | .u16 => c.wordCount = 1
  | .scaledU16 => c.wordCount = 1 ∧ c.multiplier ≠ some 0 ∧
      ∀ divisor, c.divisor = some divisor → unit divisor ∣ c.number words
  | .action | .u32 | .dateWords | .timeWords | .timeHhmm => True

theorem validateRange_ok (range : c.InRange raw) : c.validateRange raw = .ok () := by
  obtain ⟨low, high⟩ := range
  unfold validateRange
  rw [if_neg, if_neg]
  · cases maximum : c.maximum with
    | none => simp
    | some m => simpa using high m maximum
  · cases minimum : c.minimum with
    | none => simp
    | some m => simpa using low m minimum

theorem map_one_eq_ok_iff {encoded : Except CodecError Int} {rest : List Int} :
    (encoded.map RawValue.one).map RawValue.words = .ok (raw :: rest) ↔
      encoded = .ok raw ∧ rest = [] := by
  cases encoded with
  | error error => simp [Except.map]
  | ok raw' => simp [Except.map, RawValue.words, eq_comm]

end WriteCapability

theorem parseInt_padded : ∀ n < 100, parseInt (String.ofList (paddedDigits 2 n)) = some (n : Int) := by
  decide +kernel

theorem digitChar_ne_colon (n : Nat) : digitChar (n % 10) ≠ ':' := by
  have plain : ∀ d < 10, digitChar d ≠ ':' := by decide
  exact plain (n % 10) (Nat.mod_lt _ (by omega))

theorem takeWhile_padded (n : Nat) (rest : List Char) :
    (paddedDigits 2 n ++ ':' :: rest).takeWhile (· ≠ ':') = paddedDigits 2 n := by
  have tens := digitChar_ne_colon (n / 10)
  have ones := digitChar_ne_colon n
  simp [paddedDigits_two, tens, ones]

theorem dropWhile_padded (n : Nat) (rest : List Char) :
    (paddedDigits 2 n ++ ':' :: rest).dropWhile (· ≠ ':') = ':' :: rest := by
  have tens := digitChar_ne_colon (n / 10)
  have ones := digitChar_ne_colon n
  simp [paddedDigits_two, tens, ones]

theorem isAsciiDigits_padded (n : Nat) : isAsciiDigits (paddedDigits 2 n) = true := by
  have tens := (digitChar_facts (n / 10 % 10) (Nat.mod_lt _ (by omega))).2.1
  have ones := (digitChar_facts (n % 10) (Nat.mod_lt _ (by omega))).2.1
  simp [isAsciiDigits, paddedDigits_two, tens, ones]

theorem hhmmText_padded {hour minute : Nat} (hour_fits : hour < 100) (minute_fits : minute < 100) :
    hhmmText (zeroPadded 2 hour ++ ":" ++ zeroPadded 2 minute) =
      some ((hour : Int) * 100 + minute) := by
  have chars : (zeroPadded 2 hour ++ ":" ++ zeroPadded 2 minute).toList =
      paddedDigits 2 hour ++ ':' :: paddedDigits 2 minute := by
    simp [toList_zeroPadded (by omega : hour < 10 ^ 2),
      toList_zeroPadded (by omega : minute < 10 ^ 2)]
  have unspaced : strip (zeroPadded 2 hour ++ ":" ++ zeroPadded 2 minute) =
      zeroPadded 2 hour ++ ":" ++ zeroPadded 2 minute := by
    apply strip_eq_self
    intro c member
    rw [chars] at member
    simp only [List.mem_append, List.mem_cons] at member
    rcases member with digit | rfl | digit
    · exact isSpace_paddedDigits digit
    · decide
    · exact isSpace_paddedDigits digit
  have shape : (paddedDigits 2 hour ++ ':' :: paddedDigits 2 minute).length = 5 ∧
      (paddedDigits 2 hour ++ ':' :: paddedDigits 2 minute)[2]? = some ':' := by
    rw [paddedDigits_two, paddedDigits_two]
    exact ⟨rfl, rfl⟩
  unfold hhmmText
  rw [if_neg (not_not.mpr unspaced), chars, if_pos shape]
  simp only [takeWhile_padded, dropWhile_padded, List.tail_cons, isAsciiDigits_padded,
    Bool.and_self, if_true, parseInt_padded hour hour_fits, parseInt_padded minute minute_fits]
  rfl

namespace WriteCapability
variable {c : WriteCapability} {p : Platform} {raw : Int} {rest : List Int} {v : NativeValue}

/-- A single raw word comes back when it is the only one. -/
theorem single_iff {encoded : Except CodecError Int}
    (length : ((raw :: rest).length : Int) = c.wordCount) (back : Prop)
    (same : encoded = .ok raw ↔ back) :
    (encoded.map RawValue.one).map RawValue.words = .ok (raw :: rest) ↔
      c.wordCount = 1 ∧ back := by
  rw [map_one_eq_ok_iff, same, ← length, and_comm]
  simp

theorem enum_back_iff (declared : (c.enumValueMap.get? raw).isSome)
    (decoded : c.decodeScaled p raw = .ok v) :
    c.encodeEnumValue p v = .ok raw ↔
      ∀ label, c.enumValueMap.get? raw = some label → EnumLabel c.enumValueMap raw label := by
  obtain ⟨label, held⟩ := Option.isSome_iff_exists.mp declared
  have labelled : c.enumValueMap.items ≠ [] := by
    intro empty
    rw [Dict.get?, empty] at held
    cases held
  unfold decodeScaled at decoded
  rw [if_pos labelled, held] at decoded
  cases decoded
  have encode : c.encodeEnumValue p (.text label) = .ok raw ↔ c.enumRaw p (strip label) = .ok raw := by
    unfold encodeEnumValue
    simp only [pyStr]
    cases found : c.enumRaw p (strip label) with
    | error error => simp [bind, Except.bind]
    | ok raw' =>
      simp only [bind, Except.bind, pure, Except.pure]
      constructor
      · intro passed
        split at passed
        · cases passed
        · exact passed
      · intro same
        cases same
        rw [if_neg (by simp [held])]
  rw [Option.getD_some, encode, enumRaw_eq_ok_iff, held]
  simp

theorem bool_back_iff (declared : raw = 0 ∨ raw = 1)
    (decoded : (match c.enumValueMap.get? raw with
      | some label => .ok (.text label)
      | none => .ok (.bool (raw ≠ 0))) = (Except.ok v : Except CodecError NativeValue)) :
    c.encodeBoolValue p v = .ok raw ↔
      ∀ label, c.enumValueMap.get? raw = some label → BoolLabel p.lower c.enumValueMap raw label := by
  cases held : c.enumValueMap.get? raw with
  | none =>
    rw [held] at decoded
    cases decoded
    rcases declared with rfl | rfl
    · simp [encodeBoolValue, bind, Except.bind, pure, Except.pure]
    · simp [encodeBoolValue, bind, Except.bind, pure, Except.pure]
  | some label =>
    rw [held] at decoded
    cases decoded
    have encode : c.encodeBoolValue p (.text label) = .ok raw ↔
        c.boolRaw p (.text label) = .ok raw := by
      unfold encodeBoolValue
      cases found : c.boolRaw p (.text label) with
      | error error => simp [found, bind, Except.bind]
      | ok raw' =>
        simp only [found, bind, Except.bind, pure, Except.pure]
        constructor
        · intro passed
          split at passed
          · cases passed
          · exact passed
        · intro same
          cases same
          rw [if_neg (by omega)]
    rw [encode, boolRaw_eq_ok_iff]
    simp

theorem u16_back (range : c.InRange raw) : c.encodeU16Value p (.int raw) = .ok raw := by
  simp [encodeU16Value, integer, pyInt, validateRange_ok range, bind, Except.bind, pure, Except.pure]

theorem scaled_back {q : ℚ} {r : Int} (one_scale : c.divisor = none ↔ c.multiplier ≠ none)
    (given : pyFloat p v = some q) (scaled : c.scaledRaw p q = .ok r) (range : c.InRange raw) :
    c.encodeScaledU16Value p v = .ok raw ↔ r = raw := by
  have not_missing : ¬ (c.divisor = none ∧ c.multiplier = none) := by tauto
  have not_ambiguous : ¬ (c.divisor ≠ none ∧ c.multiplier ≠ none) := by tauto
  unfold encodeScaledU16Value
  rw [if_neg not_missing, if_neg not_ambiguous]
  simp only [given, scaled, bind, Except.bind, pure, Except.pure]
  constructor
  · intro passed
    split at passed
    · cases passed
    · cases passed
      rfl
  · rintro rfl
    rw [validateRange_ok range]

theorem scaled_back_iff (exact : p.Exact) (sound : c.Sound) (kind : c.valueKind = .scaledU16)
    (range : c.InRange raw) (decoded : c.decodeScaled p raw = .ok v) :
    c.encodeScaledU16Value p v = .ok raw ↔ c.multiplier ≠ some 0 ∧
      ∀ divisor, c.divisor = some divisor → unit divisor ∣ raw := by
  have one_scale := sound.scaled kind
  have unlabelled := sound.unlabelled (by simp [kind]) (by simp [kind])
  unfold decodeScaled at decoded
  rw [if_neg (not_not.mpr unlabelled)] at decoded
  cases divisor : c.divisor with
  | some d =>
    have no_multiplier : c.multiplier = none := by
      by_contra given
      exact absurd (one_scale.mpr given) (by simp [divisor])
    rw [divisor, no_multiplier] at decoded
    by_cases zero : d = 0
    · subst zero
      simp only [Option.filter_some, ne_eq, not_true_eq_false, decide_false] at decoded
      cases decoded
      have scaled : c.scaledRaw p raw = .ok 0 := by
        have zero_back := roundHalfEven_intCast 0
        rw [Int.cast_zero] at zero_back
        simp [scaledRaw, divisor, exact.ofInt, exact.mul, zero_back]
      have given : pyFloat p (.int raw) = some (raw : ℚ) := exact.ofInt raw
      rw [scaled_back one_scale given scaled range, no_multiplier]
      simp [unit, eq_comm]
    · simp only [Option.filter_some, ne_eq, zero, not_false_eq_true, decide_true, if_true,
        exact.ofInt, exact.div, exact.round] at decoded
      cases decoded
      have scaled : c.scaledRaw p (roundTo (raw / d) (decimalsForDivisor d)) =
          .ok (roundHalfEven (roundTo (raw / d) (decimalsForDivisor d) * d)) := by
        simp [scaledRaw, divisor, exact.ofInt, exact.mul]
      rw [scaled_back one_scale rfl scaled range, Capability.scaled_back_iff zero, no_multiplier]
      simp
  | none =>
    obtain ⟨m, multiplier⟩ := Option.ne_none_iff_exists'.mp (one_scale.mp divisor)
    rw [divisor, multiplier] at decoded
    simp only [Option.filter_none, exact.ofInt, exact.mul] at decoded
    cases decoded
    by_cases zero : m = 0
    · subst zero
      have failed : c.scaledRaw p (raw * 0) = .error .zeroDivision := by
        simp [scaledRaw, divisor, multiplier]
      unfold encodeScaledU16Value
      simp only [pyFloat, failed, divisor, multiplier, bind, Except.bind, ne_eq, reduceCtorEq,
        not_false_eq_true, not_true_eq_false, and_false, false_and, and_true, if_false]
    · have scaled : c.scaledRaw p (raw * m) = .ok raw := by
        simp [scaledRaw, divisor, multiplier, zero, exact.div, roundHalfEven_intCast]
      rw [scaled_back one_scale rfl scaled range, multiplier]
      simp [zero]

theorem u32_back {words : List Int} (sixteen : ∀ w ∈ words, 0 ≤ w ∧ w < 65536)
    (kind : c.valueKind = .u32) (range : c.InRange (c.number words))
    (decoded : c.decodeU32Words words = .ok v) :
    ((c.encodeU32Raw p v).map RawValue.two).map RawValue.words = .ok words := by
  unfold decodeU32Words at decoded
  split at decoded
  · cases decoded
  rename_i two
  split at decoded
  · cases decoded
  rename_i combine
  split at decoded
  · rename_i high low
    cases decoded
    have high_fits := sixteen high (by simp)
    have low_fits := sixteen low (by simp)
    have whole : high % 65536 * 65536 + low % 65536 = c.number [high, low] := by
      simp only [number, kind, if_true]
      omega
    have high_back : (high % 65536 * 65536 + low % 65536) / 65536 % 65536 = high := by omega
    have low_back : (high % 65536 * 65536 + low % 65536) % 65536 = low := by omega
    rw [not_not] at two combine
    unfold encodeU32Raw
    simp only [integer, pyInt, whole, validateRange_ok range, two, combine, ne_eq,
      not_true_eq_false, if_false, bind, Except.bind, pure, Except.pure, Except.map, RawValue.words]
    rw [← whole, high_back, low_back]
  · cases decoded

theorem date_back {words : List Int} (decoded : c.decodeDateWords p words = .ok v) :
    (c.encodeDateRaw p v).map RawValue.words = .ok words := by
  unfold decodeDateWords at decoded
  split at decoded
  · cases decoded
  rename_i three
  split at decoded
  · rename_i year month day
    split at decoded
    · rename_i valid
      cases decoded
      have date := valid.2.2.2
      have year_back : (year.toNat : Int) = year := Int.toNat_of_nonneg valid.1
      have month_back : (month.toNat : Int) = month := Int.toNat_of_nonneg valid.2.1
      have day_back : (day.toNat : Int) = day := Int.toNat_of_nonneg valid.2.2.1
      unfold encodeDateRaw
      rw [if_neg three]
      simp only [pyStr, strip_dateText date, fromIsoFormat_dateText date, Option.some_or,
        Except.map, RawValue.words, year_back, month_back, day_back]
    · cases decoded
  · cases decoded

theorem time_back {words : List Int} (decoded : c.decodeTimeWords words = .ok v) :
    (c.encodeTimeRaw p v).map RawValue.words = .ok words := by
  unfold decodeTimeWords at decoded
  split at decoded
  · cases decoded
  rename_i three
  split at decoded
  · rename_i hour minute second
    split at decoded
    · rename_i valid
      cases decoded
      have clock : hour.toNat < 24 ∧ minute.toNat < 60 ∧ second.toNat < 60 := by omega
      have hour_back : (hour.toNat : Int) = hour := by omega
      have minute_back : (minute.toNat : Int) = minute := by omega
      have second_back : (second.toNat : Int) = second := by omega
      unfold encodeTimeRaw
      rw [if_neg three]
      simp only [pyStr, strip_clockText clock, strptime_clockText clock, Option.some_or,
        Except.map, RawValue.words, hour_back, minute_back, second_back]
    · cases decoded
  · cases decoded

theorem hhmm_back (range : c.InRange raw) (decoded : c.decodeTimeHhmmValue raw = .ok v) :
    c.encodeTimeHhmmValue p v = .ok raw := by
  unfold decodeTimeHhmmValue at decoded
  split at decoded
  · rename_i valid
    cases decoded
    have text := hhmmText_padded (by omega : (raw / 100).toNat < 100)
      (by omega : (raw % 100).toNat < 100)
    have whole : ((raw / 100).toNat : Int) * 100 + ((raw % 100).toNat : Int) = raw := by omega
    rw [whole] at text
    unfold encodeTimeHhmmValue
    simp only [text, bind, Except.bind, valid, and_self, not_true_eq_false, if_false,
      validateRange_ok range, pure, Except.pure]
  · cases decoded

end WriteCapability

/-- Words that were decoded come back when the condition of their kind holds, and only then. -/
theorem codec_round_trip_iff (p : Platform) (exact : p.Exact) (c : WriteCapability)
    (accepted : c.Accepted) (kind : c.valueKind ≠ .action) (words : List Int)
    (length : (words.length : Int) = c.wordCount) (sixteen : ∀ w ∈ words, 0 ≤ w ∧ w < 65536)
    (declared : c.Declared words) (v : NativeValue)
    (decoded : c.decodeCapabilityValue p words = .ok v) :
    c.encodeCapabilityWords p v = .ok words ↔ c.ReadsBack p words := by
  have sound := accepted.sound
  cases words with
  | nil => cases decoded
  | cons raw rest =>
    have number : c.valueKind ≠ .u32 → c.number (raw :: rest) = raw := by
      intro other
      unfold WriteCapability.number
      split
      · rename_i eq
        cases eq
        simp [other]
      · rename_i eq
        cases eq
        rfl
      · rename_i eq
        cases eq
    unfold WriteCapability.decodeCapabilityValue at decoded
    unfold WriteCapability.Declared at declared
    unfold WriteCapability.encodeCapabilityWords WriteCapability.encodeRaw
      WriteCapability.ReadsBack
    cases is : c.valueKind with
    | action => exact absurd is kind
    | bool =>
      simp only [is] at decoded declared ⊢
      rw [number (by simp [is])] at declared ⊢
      exact WriteCapability.single_iff length _ (WriteCapability.bool_back_iff declared decoded)
    | enum =>
      simp only [is] at decoded declared ⊢
      rw [number (by simp [is])] at declared ⊢
      exact WriteCapability.single_iff length _ (WriteCapability.enum_back_iff declared decoded)
    | scaledU16 =>
      simp only [is] at decoded declared ⊢
      rw [number (by simp [is])] at declared ⊢
      exact WriteCapability.single_iff length _
        (WriteCapability.scaled_back_iff exact sound is declared decoded)
    | u16 =>
      simp only [is] at decoded declared ⊢
      rw [number (by simp [is])] at declared
      obtain ⟨divisor, multiplier⟩ := sound.unscaled (by simp [is])
      have unlabelled := sound.unlabelled (by simp [is]) (by simp [is])
      unfold WriteCapability.decodeScaled at decoded
      rw [if_neg (not_not.mpr unlabelled), divisor, multiplier] at decoded
      cases decoded
      rw [WriteCapability.single_iff length True
        (iff_of_true (WriteCapability.u16_back declared) trivial), and_true]
    | timeHhmm =>
      simp only [is] at decoded declared ⊢
      rw [number (by simp [is])] at declared
      rw [WriteCapability.single_iff length True
        (iff_of_true (WriteCapability.hhmm_back declared decoded) trivial), and_true]
      exact iff_of_true (sound.hhmm_word is) trivial
    | u32 =>
      simp only [is] at decoded declared ⊢
      exact iff_of_true (WriteCapability.u32_back sixteen is declared decoded) trivial
    | dateWords =>
      simp only [is] at decoded ⊢
      exact iff_of_true (WriteCapability.date_back decoded) trivial
    | timeWords =>
      simp only [is] at decoded ⊢
      exact iff_of_true (WriteCapability.time_back decoded) trivial

def exactPlatform : Platform where
  ofInt n := some n
  ofText _ := none
  toText _ := ""
  mul a b := some (a * b)
  div a b := some (a / b)
  round := roundTo
  lower := lowerAscii
  intRefusal text := "invalid literal for int() with base 10: '" ++ text ++ "'"
  dateRefusal _ _ _ := "day is out of range for month"

theorem exactPlatform_exact : exactPlatform.Exact where
  ofInt _ := rfl
  mul _ _ := rfl
  div _ _ := rfl
  round _ _ := rfl

def profileOf (c : WriteCapability) : DriverProfileMetadata := ⟨"pack", ["config"], [c], []⟩

theorem accepted_of_profileOf {c : WriteCapability} (valid : validateProfile (profileOf c) = none) :
    c.Accepted := ⟨profileOf c, List.mem_singleton_self c, valid⟩

def tenths : WriteCapability where
  key := "output_voltage"
  register := 20
  valueKind := .scaledU16
  divisor := some 10

theorem tenths_come_back : tenths.encodeCapabilityWords exactPlatform
    (.number (roundTo ((235 : Int) / (10 : Int)) 1)) = .ok [235] :=
  (codec_round_trip_iff exactPlatform exactPlatform_exact tenths
    (accepted_of_profileOf (by decide +kernel)) (by decide) [235] rfl (by decide)
    ⟨nofun, nofun⟩ (.number (roundTo ((235 : Int) / (10 : Int)) 1)) rfl).mpr
      ⟨rfl, nofun, by
        intro divisor given
        cases given
        decide⟩

def sharedLabel : WriteCapability where
  key := "output_mode"
  register := 20
  valueKind := .enum
  enumMap := ⟨[(0, "Auto"), (1, "Auto")], by decide⟩

/-- The first of them is read as the label, and the label is written as the second. -/
theorem shared_label_moves : sharedLabel.Accepted ∧ sharedLabel.Declared [0] ∧
    sharedLabel.decodeCapabilityValue exactPlatform [0] = .ok (.text "Auto") ∧
    sharedLabel.encodeCapabilityWords exactPlatform (.text "Auto") = .ok [1] := by
  refine ⟨accepted_of_profileOf (by decide +kernel), ?_, ?_, ?_⟩
  · change (sharedLabel.enumValueMap.get? 0).isSome
    decide
  · decide +kernel
  · decide +kernel

end Capability
