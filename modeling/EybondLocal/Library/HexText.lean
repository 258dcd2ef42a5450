import EybondLocal.Library.StripText
import Mathlib.Data.Bool.AllAny
import Mathlib.Tactic.Common

/-!
Bytes as hex text: `bytes.fromhex` on text made of hex digits only, and `bytes.hex`.
-/
namespace HexText
open StripText

def hexDigits : List Char := "0123456789abcdefABCDEF".toList

def isHexDigit (c : Char) : Bool := hexDigits.contains c

def digitValue (c : Char) : Nat :=
  if c.toNat ≤ 57 then c.toNat - 48 else if c.toNat ≤ 70 then c.toNat - 55 else c.toNat - 87

def digitOf (n : Nat) : Char := Char.ofNat (if n < 10 then 48 + n else 87 + n)

def fromHex : List Char → List UInt8
  | high :: low :: rest => UInt8.ofNat (16 * digitValue high + digitValue low) :: fromHex rest
  | _ => []

def byteHex (b : UInt8) : List Char := [digitOf (b.toNat / 16), digitOf (b.toNat % 16)]

def toHex (bytes : List UInt8) : List Char := bytes.flatMap byteHex

def squeeze (text : List Char) : List Char := text.filter fun c => !isSpace c

theorem byteHex_checked : ∀ n : Fin 256,
    (UInt8.ofNat (16 * digitValue (digitOf (n.val / 16)) + digitValue (digitOf (n.val % 16)))).toNat =
        n.val ∧
      isHexDigit (digitOf (n.val / 16)) = true ∧ isHexDigit (digitOf (n.val % 16)) = true := by
  decide +kernel

theorem byteHex_value (b : UInt8) :
    UInt8.ofNat (16 * digitValue (digitOf (b.toNat / 16)) + digitValue (digitOf (b.toNat % 16))) =
      b := UInt8.toNat_inj.mp (byteHex_checked ⟨b.toNat, b.toNat_lt⟩).1

theorem byteHex_isHexDigit (b : UInt8) : ∀ c ∈ byteHex b, isHexDigit c = true := by
  have checked := byteHex_checked ⟨b.toNat, b.toNat_lt⟩
  intro c member
  simp only [byteHex, List.mem_cons, List.not_mem_nil, or_false] at member
  rcases member with rfl | rfl
  · exact checked.2.1
  · exact checked.2.2

theorem isHexDigit_not_isSpace {c : Char} (hex : isHexDigit c = true) : isSpace c = false := by
  have all : ∀ d ∈ hexDigits, isSpace d = false := List.all_iff_forall_prop.mp (by decide)
  exact all c (List.contains_iff_mem.mp hex)

@[simp] theorem fromHex_toHex (bytes : List UInt8) : fromHex (toHex bytes) = bytes := by
  induction bytes with
  | nil => rfl
  | cons b rest ih =>
    have step : toHex (b :: rest) =
        digitOf (b.toNat / 16) :: digitOf (b.toNat % 16) :: toHex rest := rfl
    rw [step, fromHex, ih, byteHex_value]

theorem toHex_isHexDigit (bytes : List UInt8) : ∀ c ∈ toHex bytes, isHexDigit c = true := by
  intro c member
  obtain ⟨b, _, inByte⟩ := List.mem_flatMap.mp member
  exact byteHex_isHexDigit b c inByte

theorem length_toHex (bytes : List UInt8) : (toHex bytes).length = 2 * bytes.length := by
  induction bytes with
  | nil => rfl
  | cons b rest ih =>
    have step : toHex (b :: rest) = byteHex b ++ toHex rest := rfl
    rw [step, List.length_append, ih, List.length_cons]
    simp only [byteHex, List.length_cons, List.length_nil]
    omega

theorem length_fromHex (text : List Char) : (fromHex text).length = text.length / 2 := by
  induction text using fromHex.induct with
  | case1 high low rest ih =>
    rw [fromHex, List.length_cons, ih]
    simp only [List.length_cons]
    omega
  | case2 text short =>
    match text, short with
    | [], _ => rfl
    | [_], _ => simp [fromHex]
    | a :: b :: rest, short => exact absurd rfl (short a b rest)

theorem squeeze_of_hex {text : List Char} (hex : ∀ c ∈ text, isHexDigit c = true) :
    squeeze text = text := by
  refine List.filter_eq_self.mpr fun c member => ?_
  rw [isHexDigit_not_isSpace (hex c member)]
  rfl

end HexText
