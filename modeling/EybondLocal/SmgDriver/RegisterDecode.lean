import EybondLocal.Capability.Model
import EybondLocal.Library.DateText
import EybondLocal.Library.StripText
import EybondLocal.SmgDriver.Schema
import Mathlib.Data.Int.Bitwise

/-!
Register words to the values of a schema (`payload/register_decode.py`), with the printable ASCII
style and the all-ones sentinel the SMG driver decodes with. Floats are a parameter.
-/
namespace SmgDriver
open Capability DateText OrderedDict PythonObject StripText

/-- The float operations of a decoder; `none` stands for an overflow error. -/
structure FloatOps (F : Type) where
  ofInt : Int → Option F
  mul : F → F → F
  divide : Int → Int → Option F
  round : F → Int → Option F

inductive RawReading where
  | number (n : Int)
  | text (s : String)
  deriving DecidableEq, Repr

inductive DecodedValue (F : Type) where
  | none
  | int (n : Int)
  | float (x : F)
  | text (s : String)
  deriving DecidableEq, Repr

def overflowError : PyError := ⟨.overflowError, "float overflow"⟩

def isPrintableByte (byte : Nat) : Bool :=
  (0x20 ≤ byte && byte ≤ 0x7E) || (0xA1 ≤ byte && byte != 0xAD)

def printableChars (byte : Nat) : List Char :=
  if byte = 0x00 ∨ byte = 0xFF then [] else if isPrintableByte byte then [Char.ofNat byte] else []

def decodeAsciiWord (value : Int) : String :=
  strip (String.ofList
    (printableChars (value / 256 % 256).toNat ++ printableChars (value % 256).toNat))

def decodeAsciiLowBytes (words : List Int) : String :=
  strip (String.ofList (words.flatMap fun word => printableChars (word % 256).toNat))

def registersOf (startRegister : Int) (words : List Int) (register : Int) : Option Int :=
  if startRegister ≤ register then words[(register - startRegister).toNat]? else none

section
variable {F : Type} (floats : FloatOps F) (registers : Int → Option Int)
  (spec : RegisterValueSpec F)

def wordAt (register : Int) : Int := (registers register).getD 0

def toSigned16 (value : Int) : Int := if 0x8000 ≤ value then value - 0x10000 else value

def specWords : List Int :=
  (List.range spec.wordCount.toNat).map fun (offset : Nat) =>
    wordAt registers (spec.register + offset)

def decodeRawValue : RawReading :=
  if spec.combine = "ascii_low_byte" then .text (decodeAsciiLowBytes (specWords registers spec))
  else if spec.combine = "ascii" then
    .text (strip (String.join ((specWords registers spec).map decodeAsciiWord)))
  else if 2 ≤ spec.wordCount then
    let high := wordAt registers spec.register
    let low := wordAt registers (spec.register + 1)
    let raw :=
      if spec.combine = "u32_low_first" then Int.lor (low * 0x10000) high
      else Int.lor (high * 0x10000) low
    if spec.signed ∧ spec.wordCount = 2 then
      .number (if 0x80000000 ≤ raw then raw - 0x100000000 else raw)
    else .number raw
  else
    let raw := wordAt registers spec.register
    .number (if spec.signed then toSigned16 raw else raw)

def isAllOnesUnavailable : RawReading → Bool
  | .text _ => false
  | .number raw =>
    if spec.signed then false
    else if 2 ≤ spec.wordCount then raw = 0xFFFFFFFF
    else raw = 0xFFFF

/-- `(bitmask & -bitmask).bit_length() - 1`, which no mask of zero has. -/
def fieldShift (bitmask : Int) : Option Nat :=
  if bitmask = 0 then none else some (Int.land bitmask (-bitmask)).toNat.log2

def maskedReading : RawReading → Except PyError RawReading
  | .text s => .ok (.text s)
  | .number raw =>
    match spec.bitmask with
    | none => .ok (.number raw)
    | some bitmask =>
      match fieldShift bitmask with
      | none => .error (valueError "negative shift count")
      | some shift => .ok (.number (Int.land raw bitmask / 2 ^ shift))

def readingText : RawReading → String
  | .number raw => toString raw
  | .text s => s

def enumKey : RawReading → EnumKey
  | .number raw => .number raw
  | .text s => .text s

def orOverflow {α : Type} : Option α → Except PyError α
  | some a => .ok a
  | none => .error overflowError

def scaledValue : RawReading → Except PyError (DecodedValue F)
  | .text s => .ok (.text s)
  | .number raw =>
    let raw := raw + spec.offset.getD 0
    match spec.multiplier, spec.divisor.filter (· ≠ 0) with
    | some multiplier, _ => do
      let factor ← orOverflow (floats.ofInt raw)
      let rounded ← orOverflow (floats.round (floats.mul factor multiplier) (spec.decimals.getD 0))
      .ok (.float rounded)
    | none, some divisor => do
      let quotient ← orOverflow (floats.divide raw divisor)
      let precision := spec.decimals.getD (decimalsForDivisor divisor)
      let rounded ← orOverflow (floats.round quotient precision)
      .ok (.float rounded)
    | none, none => .ok (.int raw)

def clockValue (raw : Int) : Option (DecodedValue F) :=
  let hour := Int.fdiv raw 100
  let minute := Int.fmod raw 100
  if 0 ≤ hour ∧ hour ≤ 23 ∧ 0 ≤ minute ∧ minute ≤ 59 then
    some (.text (zeroPadded 2 hour.toNat ++ ":" ++ zeroPadded 2 minute.toNat))
  else none

def plainValue (raw : RawReading) : Except PyError (DecodedValue F) :=
  match spec.enumMap with
  | some enumMap =>
    .ok (.text ((enumMap.get? (enumKey raw)).getD ("Unknown (" ++ readingText raw ++ ")")))
  | none => if isAllOnesUnavailable spec raw then .ok .none else scaledValue floats spec raw

/-- One spec of `decode_block`: its value, or none where the key is left out. -/
def decodeSpec : Except PyError (Option (DecodedValue F)) := do
  match ← maskedReading spec (decodeRawValue registers spec) with
  | .number raw =>
    if spec.combine = "hhmm" then .ok (clockValue raw)
    else (plainValue floats spec (.number raw)).map some
  | .text s => (plainValue floats spec (.text s)).map some

end

section
variable {F : Type} (floats : FloatOps F)

def decodeInto (registers : Int → Option Int) (decoded : Dict String (DecodedValue F))
    (spec : RegisterValueSpec F) : Except PyError (Dict String (DecodedValue F)) :=
  (decodeSpec floats registers spec).map fun
    | some value => decoded.set spec.key value
    | none => decoded

def decodeBlock (startRegister : Int) (values : List Int) (specs : List (RegisterValueSpec F)) :
    Except PyError (Dict String (DecodedValue F)) :=
  specs.foldlM (decodeInto floats (registersOf startRegister values)) Dict.empty

theorem decodeSpec_congr {registers registers' : Int → Option Int} {spec : RegisterValueSpec F}
    (covers : 1 ≤ spec.wordCount)
    (same : ∀ register, spec.register ≤ register → register < spec.register + spec.wordCount →
      registers register = registers' register) :
    decodeSpec floats registers spec = decodeSpec floats registers' spec := by
  have word : ∀ register, spec.register ≤ register →
      register < spec.register + spec.wordCount →
        wordAt registers register = wordAt registers' register := fun register low high => by
    rw [wordAt, wordAt, same register low high]
  have first := word spec.register le_rfl (by omega)
  have words : specWords registers spec = specWords registers' spec := by
    refine List.map_congr_left fun offset mem => word _ (by omega) ?_
    have small := List.mem_range.mp mem
    omega
  have raw : decodeRawValue registers spec = decodeRawValue registers' spec := by
    unfold decodeRawValue
    rw [words, first]
    by_cases wide : 2 ≤ spec.wordCount
    · rw [word (spec.register + 1) (by omega) (by omega)]
    · simp only [wide, if_false]
  rw [decodeSpec, decodeSpec, raw]

end

end SmgDriver
