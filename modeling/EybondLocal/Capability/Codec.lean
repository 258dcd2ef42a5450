import EybondLocal.Capability.Model

/-!
`drivers/capability_codec.py`: values to register words and back. What the language leaves to the
platform (floats, case tables) is a parameter; with exact floats a division or a product is the
rational one.
-/
namespace Capability
open OrderedDict StripText PythonText IsoTimestamp DateText HalfEven

/-- Floats by their values, `none` where the result is not finite, `str.lower`, and the texts with
    which `int` and `datetime` refuse, which the versions of the language word differently. -/
structure Platform where
  ofInt : Int → Option ℚ
  ofText : String → Option ℚ
  toText : ℚ → String
  mul : ℚ → ℚ → Option ℚ
  div : ℚ → ℚ → Option ℚ
  round : ℚ → Nat → ℚ
  lower : String → String
  intRefusal : String → String
  dateRefusal : Int → Int → Int → String

structure Platform.Exact (p : Platform) : Prop where
  ofInt : ∀ n : Int, p.ofInt n = some (n : ℚ)
  mul : ∀ a b, p.mul a b = some (a * b)
  div : ∀ a b, p.div a b = some (a / b)
  round : ∀ q n, p.round q n = roundTo q n

inductive NativeValue where
  | none
  | bool (b : Bool)
  | int (n : Int)
  | number (q : ℚ)
  | nonFinite (text : String)
  | text (s : String)
  | moment (at_ : DateTime)
  | other (text : String)
  deriving DecidableEq, Repr

inductive CodecError where
  | value (text : String)
  | overflow
  | zeroDivision
  deriving DecidableEq, Repr

def momentText (moment : DateTime) : String :=
  dateText moment.year moment.month moment.day ++ " " ++
    clockText moment.hour moment.minute moment.second

section
variable (p : Platform)

def pyStr : NativeValue → String
  | .none => "None"
  | .bool true => "True"
  | .bool false => "False"
  | .int n => toString n
  | .number q => p.toText q
  | .nonFinite text => text
  | .text s => s
  | .moment at_ => momentText at_
  | .other text => text

def pyInt : NativeValue → Option Int
  | .bool b => some (if b then 1 else 0)
  | .int n => some n
  | .number q => some (if 0 ≤ q then q.floor else q.ceil)
  | .text s => parseInt s
  | _ => none

def pyFloat : NativeValue → Option ℚ
  | .bool b => some (if b then 1 else 0)
  | .int n => p.ofInt n
  | .number q => some q
  | .text s => p.ofText s
  | _ => none

end

def digitIn (base : Nat) (c : Char) : Option Nat :=
  let d :=
    if 'a' ≤ c ∧ c ≤ 'f' then some (c.toNat - 'a'.toNat + 10)
    else if 'A' ≤ c ∧ c ≤ 'F' then some (c.toNat - 'A'.toNat + 10)
    else decimalValue c
  d.filter (· < base)

def digitsIn (base : Nat) : List Char → Option (List Nat)
  | [] => some []
  | '_' :: c :: rest => (digitIn base c).bind fun d => (digitsIn base rest).map (d :: ·)
  | c :: rest => (digitIn base c).bind fun d => (digitsIn base rest).map (d :: ·)

def numberIn (base : Nat) (text : List Char) : Option Nat :=
  if text = [] then none
  else (digitsIn base text).map fun digits => digits.foldl (fun total d => base * total + d) 0

def literal : List Char → Option Nat
  | '0' :: mark :: rest =>
    if mark = 'x' ∨ mark = 'X' then numberIn 16 rest
    else if mark = 'o' ∨ mark = 'O' then numberIn 8 rest
    else if mark = 'b' ∨ mark = 'B' then numberIn 2 rest
    -- a decimal literal that begins with 0 is only zeros
    else (unsignedInt ('0' :: mark :: rest)).filter (· = 0)
  | text => (unsignedInt text).filter fun n => n = 0 ∨ (text.head?.bind decimalValue) ≠ some 0

def plainDigit (c : Char) : Char := ((decimalValue c).map digitChar).getD c

def parseLiteral (text : String) : Option Int :=
  match (stripBy intSpace text.toList).map plainDigit with
  | '+' :: rest => (literal rest).map Int.ofNat
  | '-' :: rest => (literal rest).map fun n => -(n : Int)
  | rest => (literal rest).map Int.ofNat

/-- Where the digits of Unicode that are no decimal digits begin, with their number. -/
def otherDigits : List (Nat × Nat) :=
  [(0xB2, 2), (0xB9, 1), (0x1369, 9), (0x19DA, 1), (0x2070, 1), (0x2074, 6), (0x2080, 10),
    (0x2460, 9), (0x2474, 9), (0x2488, 9), (0x24EA, 1), (0x24F5, 9), (0x24FF, 1), (0x2776, 9),
    (0x2780, 9), (0x278A, 9), (0x10A40, 4), (0x10E60, 9), (0x11052, 9), (0x1F100, 11)]

def isDigitText (s : String) : Bool :=
  s ≠ "" && s.toList.all fun c =>
    (decimalValue c).isSome ||
      otherDigits.any fun run => run.1 ≤ c.toNat && c.toNat < run.1 + run.2

inductive RawValue where
  | one (raw : Int)
  | two (raw : Int)
  | three (first second third : Int)
  deriving DecidableEq, Repr

def RawValue.words : RawValue → List Int
  | .one raw => [raw]
  | .two raw => [raw / 65536 % 65536, raw % 65536]
  | .three first second third => [first, second, third]

/-- `{name(label): key for key, label in enum_map.items()}`. -/
def reverseMap (name : String → String) (enumMap : Dict Int String) : Dict String Int :=
  enumMap.items.foldl (fun map item => map.set (name item.2) item.1) Dict.empty

def truthyWords : List String := ["1", "true", "on", "yes", "enable", "enabled"]
def falsyWords : List String := ["0", "false", "off", "no", "disable", "disabled"]

def isAsciiDigits (text : List Char) : Bool := text ≠ [] && text.all IsoTimestamp.isDigit

/-- The number that a text of `_encode_time_hhmm_value` stands for. -/
def hhmmText (text : String) : Option Int :=
  let chars := text.toList
  if strip text ≠ text then none
  else if chars.length = 5 ∧ chars[2]? = some ':' then
    let hour := chars.takeWhile (· ≠ ':')
    let minute := (chars.dropWhile (· ≠ ':')).tail
    if isAsciiDigits hour && isAsciiDigits minute then do
      return (← parseInt (String.ofList hour)) * 100 + (← parseInt (String.ofList minute))
    else none
  else if isAsciiDigits chars then parseInt text
  else none

def dateFormat : List Directive := [.year, .literal '-', .month, .literal '-', .day]

def shortClockFormat : List Directive := [.hour, .literal ':', .minute]

/-- What comes of a float that is no number where an integer is wanted. -/
def unboundedError (text : String) : CodecError :=
  if text = "nan" then .value "cannot convert float NaN to integer" else .overflow

namespace WriteCapability
variable (c : WriteCapability) (p : Platform)

def refuse (label rest : String) : CodecError := .value (label ++ ":" ++ c.key ++ ":" ++ rest)

def validateRange (raw : Int) : Except CodecError Unit :=
  if c.minimum.any (raw < ·) then .error (c.refuse "value_below_minimum" (toString raw))
  else if c.maximum.any (· < raw) then .error (c.refuse "value_above_maximum" (toString raw))
  else .ok ()

def enumRaw (text : String) : Except CodecError Int :=
  if isDigitText text then
    match parseInt text with
    | some raw => .ok raw
    | none => .error (.value (p.intRefusal text))
  else
    match (reverseMap id c.enumValueMap).get? text with
    | some raw => .ok raw
    | none => .error (c.refuse "unsupported_enum_value" text)

def encodeEnumValue (value : NativeValue) : Except CodecError Int := do
  let raw ← match value with
    | .bool b => .ok (if b then 1 else 0)
    | .int n => .ok n
    | value => c.enumRaw p (strip (pyStr p value))
  if (c.enumValueMap.get? raw).isNone then .error (c.refuse "unsupported_enum_raw" (toString raw))
  else return raw

def boolRaw (value : NativeValue) : Except CodecError Int :=
  let text := p.lower (strip (pyStr p value))
  if text ∈ truthyWords then .ok 1
  else if text ∈ falsyWords then .ok 0
  else
    match (reverseMap p.lower c.enumValueMap).get? text with
    | some raw => .ok raw
    | none => .error (c.refuse "unsupported_bool_value" (pyStr p value))

def encodeBoolValue (value : NativeValue) : Except CodecError Int := do
  let raw ← match value with
    | .bool b => .ok (if b then 1 else 0)
    | .int n => .ok n
    | value => c.boolRaw p value
  if raw ≠ 0 ∧ raw ≠ 1 then .error (c.refuse "unsupported_bool_raw" (toString raw))
  else return raw

def integer (label : String) (value : NativeValue) : Except CodecError Int :=
  match pyInt value with
  | some raw => .ok raw
  | none =>
    match value with
    | .nonFinite "nan" => .error (c.refuse label "nan")
    | .nonFinite _ => .error .overflow
    | value => .error (c.refuse label (pyStr p value))

def encodeActionValue (value : NativeValue) : Except CodecError Int :=
  match value, c.actionValue with
  | .none, none => .error (.value ("missing_action_value:" ++ c.key))
  | .none, some action => .ok action
  | value, action => do
    let raw ← c.integer p "invalid_action_value" value
    if action.any (· ≠ raw) then .error (c.refuse "unsupported_action_value" (toString raw))
    else return raw

def scaledRaw (numeric : ℚ) : Except CodecError Int :=
  let scaled : Except CodecError (Option ℚ) :=
    match c.divisor, c.multiplier with
    | some divisor, _ => .ok ((p.ofInt divisor).bind (p.mul numeric))
    | none, some multiplier =>
      if multiplier = 0 then .error .zeroDivision else .ok (p.div numeric multiplier)
    | none, none => .error (.value ("missing_scale:" ++ c.key))
  match scaled with
  | .error error => .error error
  | .ok none => .error .overflow
  | .ok (some q) => .ok (roundHalfEven q)

def encodeScaledU16Value (value : NativeValue) : Except CodecError Int := do
  if c.divisor = none ∧ c.multiplier = none then .error (.value ("missing_scale:" ++ c.key))
  if c.divisor ≠ none ∧ c.multiplier ≠ none then .error (.value ("ambiguous_scale:" ++ c.key))
  let numeric ← match pyFloat p value with
    | some q => .ok q
    | none =>
      match value with
      | .nonFinite text => .error (unboundedError text)
      | .int _ => .error .overflow
      | value => .error (c.refuse "invalid_numeric_value" (pyStr p value))
  let raw ← c.scaledRaw p numeric
  c.validateRange raw
  return raw

def encodeTimeHhmmValue (value : NativeValue) : Except CodecError Int := do
  let refused := c.refuse "invalid_time_value" (pyStr p value)
  let raw ← match value with
    | .text s => match hhmmText s with
      | some raw => .ok raw
      | none => .error refused
    | .int n => .ok n
    | _ => .error refused
  if ¬ (0 ≤ raw / 100 ∧ raw / 100 ≤ 23 ∧ 0 ≤ raw % 100 ∧ raw % 100 ≤ 59) then .error refused
  c.validateRange raw
  return raw

def encodeU16Value (value : NativeValue) : Except CodecError Int := do
  let raw ← c.integer p "invalid_integer_value" value
  c.validateRange raw
  return raw

def encodeU32Raw (value : NativeValue) : Except CodecError Int := do
  let raw ← match value with
    | .text s => match parseLiteral (strip s) with
      | some raw => .ok raw
      | none => .error (c.refuse "invalid_integer_value" s)
    | value => c.integer p "invalid_integer_value" value
  c.validateRange raw
  if c.wordCount ≠ 2 then .error (c.refuse "unsupported_word_count" (toString c.wordCount))
  if c.combine ≠ "u32_high_first" then .error (c.refuse "unsupported_combine" c.combine)
  return raw

def encodeDateRaw (value : NativeValue) : Except CodecError RawValue :=
  if c.wordCount ≠ 3 then .error (c.refuse "unsupported_word_count" (toString c.wordCount))
  else
    let parsed := match value with
      | .moment at_ => some at_
      | value => (fromIsoFormat (strip (pyStr p value))).or (strptime dateFormat (strip (pyStr p value)))
    match parsed with
    | some moment => .ok (.three moment.year moment.month moment.day)
    | none => .error (c.refuse "invalid_date_value" (pyStr p value))

def encodeTimeRaw (value : NativeValue) : Except CodecError RawValue :=
  if c.wordCount ≠ 3 then .error (c.refuse "unsupported_word_count" (toString c.wordCount))
  else
    let parsed := match value with
      | .moment at_ => some at_
      | value => (strptime clockFormat (strip (pyStr p value))).or
          (strptime shortClockFormat (strip (pyStr p value)))
    match parsed with
    | some moment => .ok (.three moment.hour moment.minute moment.second)
    | none => .error (c.refuse "invalid_time_value" (pyStr p value))

/-- `encode_capability_words` before the words are cut. -/
def encodeRaw (value : NativeValue) : Except CodecError RawValue :=
  match c.valueKind with
  | .action => (c.encodeActionValue p value).map .one
  | .bool => (c.encodeBoolValue p value).map .one
  | .enum => (c.encodeEnumValue p value).map .one
  | .scaledU16 => (c.encodeScaledU16Value p value).map .one
  | .u16 => (c.encodeU16Value p value).map .one
  | .timeHhmm => (c.encodeTimeHhmmValue p value).map .one
  | .u32 => (c.encodeU32Raw p value).map .two
  | .dateWords => c.encodeDateRaw p value
  | .timeWords => c.encodeTimeRaw p value

def encodeCapabilityWords (value : NativeValue) : Except CodecError (List Int) :=
  (c.encodeRaw p value).map RawValue.words

def decodeU32Words (rawWords : List Int) : Except CodecError NativeValue :=
  if c.wordCount ≠ 2 then .error (c.refuse "unsupported_word_count" (toString c.wordCount))
  else if c.combine ≠ "u32_high_first" then .error (c.refuse "unsupported_combine" c.combine)
  else
    match rawWords with
    | [high, low] => .ok (.int (high % 65536 * 65536 + low % 65536))
    | _ => .error (c.refuse "unexpected_word_length" (toString rawWords.length))

def decodeDateWords (rawWords : List Int) : Except CodecError NativeValue :=
  if c.wordCount ≠ 3 then .error (c.refuse "unsupported_word_count" (toString c.wordCount))
  else
    match rawWords with
    | [year, month, day] =>
      if 0 ≤ year ∧ 0 ≤ month ∧ 0 ≤ day ∧
          validCalendarDate year.toNat month.toNat day.toNat = true then
        .ok (.text (dateText year.toNat month.toNat day.toNat))
      else .error (.value (p.dateRefusal year month day))
    | _ => .error (c.refuse "unexpected_word_length" (toString rawWords.length))

def decodeTimeWords (rawWords : List Int) : Except CodecError NativeValue :=
  if c.wordCount ≠ 3 then .error (c.refuse "unsupported_word_count" (toString c.wordCount))
  else
    match rawWords with
    | [hour, minute, second] =>
      if 0 ≤ hour ∧ hour ≤ 23 ∧ 0 ≤ minute ∧ minute ≤ 59 ∧ 0 ≤ second ∧ second ≤ 59 then
        .ok (.text (clockText hour.toNat minute.toNat second.toNat))
      else .error (c.refuse "invalid_time_words" (toString rawWords))
    | _ => .error (c.refuse "unexpected_word_length" (toString rawWords.length))

def decodeTimeHhmmValue (raw : Int) : Except CodecError NativeValue :=
  if 0 ≤ raw / 100 ∧ raw / 100 ≤ 23 ∧ 0 ≤ raw % 100 ∧ raw % 100 ≤ 59 then
    .ok (.text (zeroPadded 2 (raw / 100).toNat ++ ":" ++ zeroPadded 2 (raw % 100).toNat))
  else .error (c.refuse "invalid_time_word" (toString raw))

/-- The end of `decode_capability_value`: labels, then a divisor, then a multiplier. -/
def decodeScaled (raw : Int) : Except CodecError NativeValue :=
  if c.enumValueMap.items ≠ [] then
    .ok (.text ((c.enumValueMap.get? raw).getD ("Unknown (" ++ toString raw ++ ")")))
  else
    match c.divisor.filter (· ≠ 0), c.multiplier with
    | some divisor, _ =>
      match (p.ofInt raw).bind fun r => (p.ofInt divisor).bind (p.div r) with
      | some q => .ok (.number (p.round q (decimalsForDivisor divisor)))
      | none => .error .overflow
    | none, some multiplier =>
      match (p.ofInt raw).bind (p.mul · multiplier) with
      | some q => .ok (.number q)
      | none => .ok (.nonFinite (if 0 ≤ raw * multiplier then "inf" else "-inf"))
    | none, none => .ok (.int raw)

def decodeCapabilityValue (rawWords : List Int) : Except CodecError NativeValue :=
  match rawWords with
  | [] => .error (.value ("missing_raw_words:" ++ c.key))
  | raw :: _ =>
    match c.valueKind with
    | .action => .ok (.int raw)
    | .u32 => c.decodeU32Words rawWords
    | .dateWords => c.decodeDateWords p rawWords
    | .timeWords => c.decodeTimeWords rawWords
    | .timeHhmm => c.decodeTimeHhmmValue raw
    | .bool =>
      match c.enumValueMap.get? raw with
      | some label => .ok (.text label)
      | none => .ok (.bool (raw ≠ 0))
    | _ => c.decodeScaled p raw

end WriteCapability
end Capability
