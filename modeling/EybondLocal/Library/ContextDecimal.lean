import EybondLocal.Library.DateText
import EybondLocal.Library.HalfEven
import Mathlib.Data.Nat.Log
import Mathlib.Algebra.Order.Field.Basic

/-!
Python's `decimal`: a text is read exactly, and an operation rounds its exact result to the 28 digits
of the default context, which traps an overflow and lets tiny results fade to zero.
-/
namespace ContextDecimal
open HalfEven PythonText StripText

structure Decimal where
  coefficient : Int
  exponent : Int
  deriving DecidableEq, Repr

namespace Decimal
variable (d : Decimal)

def value : ℚ := d.coefficient * 10 ^ d.exponent

end Decimal

def digitCount (n : Nat) : Nat := Nat.log 10 n + 1

def Decimal.adjusted (d : Decimal) : Int := d.exponent + digitCount d.coefficient.natAbs - 1

def asciiDigit (c : Char) : Char := ((decimalValue c).map DateText.digitChar).getD c

def digitsValue (text : List Char) : Nat :=
  text.foldl (fun total c => 10 * total + (c.toNat - '0'.toNat)) 0

def plainDigits (text : List Char) : Option Nat :=
  if text ≠ [] ∧ text.all IsoTimestamp.isDigit then some (digitsValue text) else none

def exponentPart : List Char → Option Int
  | [] => some 0
  | _ :: '+' :: rest => (plainDigits rest).map Int.ofNat
  | _ :: '-' :: rest => (plainDigits rest).map fun n => -(n : Int)
  | _ :: rest => (plainDigits rest).map Int.ofNat

def isMark (c : Char) : Bool := c == 'e' || c == 'E'

def unsignedDecimal (text : List Char) : Option Decimal := do
  let mantissa := text.takeWhile fun c => !isMark c
  let whole := mantissa.takeWhile (· ≠ '.')
  let fraction := (mantissa.dropWhile (· ≠ '.')).tail
  let coefficient ← plainDigits (whole ++ fraction)
  let exponent ← exponentPart (text.dropWhile fun c => !isMark c)
  some ⟨coefficient, exponent - fraction.length⟩

def Decimal.representable (d : Decimal) : Bool :=
  d.adjusted ≤ 999999999999999999 && -1999999999999999997 ≤ d.exponent

def parseDecimal (text : String) : Option Decimal :=
  let plain := ((stripBy isSpace text.toList).filter (· ≠ '_')).map asciiDigit
  let parsed :=
    match plain with
    | '+' :: rest => unsignedDecimal rest
    | '-' :: rest => (unsignedDecimal rest).map fun (d : Decimal) => ⟨-d.coefficient, d.exponent⟩
    | rest => unsignedDecimal rest
  parsed.filter Decimal.representable

def precision : Int := 28
def emax : Int := 999999
def etiny : Int := -1000026

def Decimal.dropDigits (d : Decimal) (count : Nat) : Decimal :=
  ⟨roundHalfEven (d.coefficient / 10 ^ count), d.exponent + count⟩

def Decimal.excess (d : Decimal) : Int :=
  max (digitCount d.coefficient.natAbs - precision) (etiny - d.exponent)

def finalize (d : Decimal) : Option Decimal :=
  if d.coefficient = 0 then some ⟨0, max etiny (min d.exponent emax)⟩
  else if emax < d.adjusted then none
  else if d.excess ≤ 0 then some d
  else
    let rounded := d.dropDigits d.excess.toNat
    if emax < rounded.adjusted then none else some rounded

def multiply (d : Decimal) (n : Int) : Option Decimal := finalize ⟨d.coefficient * n, d.exponent⟩

/-- `int(d)` where `d == d.to_integral_value()`. -/
def Decimal.integral (d : Decimal) : Option Int :=
  if 0 ≤ d.exponent then some (d.coefficient * 10 ^ d.exponent.toNat)
  else if d.coefficient % 10 ^ (-d.exponent).toNat = 0 then
    some (d.coefficient / 10 ^ (-d.exponent).toNat)
  else none

theorem value_of_nonneg {d : Decimal} (whole : 0 ≤ d.exponent) :
    d.value = ((d.coefficient * 10 ^ d.exponent.toNat : Int) : ℚ) := by
  have power : (10 : ℚ) ^ d.exponent = 10 ^ d.exponent.toNat := by
    conv_lhs => rw [← Int.toNat_of_nonneg whole]
    rw [zpow_natCast]
  rw [Decimal.value, power]
  push_cast
  rfl

theorem value_of_neg {d : Decimal} (fractional : d.exponent < 0) :
    d.value = d.coefficient / 10 ^ (-d.exponent).toNat := by
  have power : (10 : ℚ) ^ d.exponent = (10 ^ (-d.exponent).toNat)⁻¹ := by
    have same : d.exponent = -((-d.exponent).toNat : Int) := by omega
    conv_lhs => rw [same]
    rw [zpow_neg, zpow_natCast]
  rw [Decimal.value, power, div_eq_mul_inv]

theorem value_product (d : Decimal) (n : Int) :
    (⟨d.coefficient * n, d.exponent⟩ : Decimal).value = d.value * n := by
  simp only [Decimal.value]
  push_cast
  ring

theorem coefficient_of_value {d : Decimal} (fractional : d.exponent < 0) {w : Int}
    (same : d.value = w) : d.coefficient = w * 10 ^ (-d.exponent).toNat := by
  rw [value_of_neg fractional, div_eq_iff (by positivity)] at same
  exact_mod_cast same

theorem integral_eq_some_iff {d : Decimal} {w : Int} : d.integral = some w ↔ d.value = w := by
  unfold Decimal.integral
  split
  · rename_i whole
    rw [value_of_nonneg whole, Option.some.injEq]
    norm_cast
  · rename_i fractional
    have below : d.exponent < 0 := by omega
    have positive : (10 : Int) ^ (-d.exponent).toNat ≠ 0 := by positivity
    split
    · rename_i divides
      obtain ⟨k, multiple⟩ := Int.dvd_of_emod_eq_zero divides
      rw [multiple, Int.mul_ediv_cancel_left k positive, value_of_neg below, multiple,
        Option.some.injEq, eq_comm (a := k)]
      push_cast
      rw [mul_div_cancel_left₀ (k : ℚ) (by positivity)]
      exact ⟨fun same => by exact_mod_cast same.symm, fun same => by exact_mod_cast same.symm⟩
    · rename_i rest
      refine iff_of_false (by simp) fun same => rest ?_
      rw [coefficient_of_value below same]
      exact Int.mul_emod_left _ _

theorem digitCount_le {n k : Nat} (small : n < 10 ^ k) (some_digit : n ≠ 0) : digitCount n ≤ k := by
  unfold digitCount
  exact Nat.log_lt_of_lt_pow some_digit small

theorem digitCount_mul_pow {n : Nat} (some_digit : n ≠ 0) (k : Nat) :
    digitCount (n * 10 ^ k) = digitCount n + k := by
  induction k with
  | zero => simp
  | succ k ih =>
    have nonzero : n * 10 ^ k ≠ 0 := Nat.mul_ne_zero some_digit (by positivity)
    unfold digitCount at ih ⊢
    rw [pow_succ, ← mul_assoc, Nat.log_mul_base (by omega) nonzero]
    omega

theorem natAbs_mul_pow (w : Int) (k : Nat) : (w * 10 ^ k).natAbs = w.natAbs * 10 ^ k := by
  rw [Int.natAbs_mul, Int.natAbs_pow]
  rfl

theorem dropDigits_zeros (w : Int) {zeros count : Nat} (inside : count ≤ zeros) (exponent : Int) :
    (⟨w * 10 ^ zeros, exponent⟩ : Decimal).dropDigits count =
      ⟨w * 10 ^ (zeros - count), exponent + count⟩ := by
  have quotient : ((w * 10 ^ zeros : Int) : ℚ) / 10 ^ count = ((w * 10 ^ (zeros - count) : Int) : ℚ) := by
    rw [div_eq_iff (by positivity)]
    push_cast
    rw [mul_assoc, ← pow_add, Nat.sub_add_cancel inside]
  simp only [Decimal.dropDigits, quotient, roundHalfEven_intCast]

theorem finalize_whole {c e w : Int} (nonzero : c ≠ 0) (whole : 0 ≤ e)
    (product : c * 10 ^ e.toNat = w) (small : w.natAbs < 10 ^ 28) : finalize ⟨c, e⟩ = some ⟨c, e⟩ := by
  have some_digit : c.natAbs ≠ 0 := Int.natAbs_ne_zero.mpr nonzero
  have digits : digitCount c.natAbs + e.toNat ≤ 28 := by
    rw [← digitCount_mul_pow some_digit, ← natAbs_mul_pow, product]
    refine digitCount_le small ?_
    rw [← product, natAbs_mul_pow]
    exact Nat.mul_ne_zero some_digit (by positivity)
  have fits : ¬ emax < (⟨c, e⟩ : Decimal).adjusted := by
    simp only [Decimal.adjusted, emax]
    omega
  have nothing : (⟨c, e⟩ : Decimal).excess ≤ 0 := by
    simp only [Decimal.excess, precision, etiny]
    omega
  unfold finalize
  rw [if_neg nonzero, if_neg fits, if_pos nothing]

theorem value_zeros (w : Int) (zeros : Nat) : (⟨w * 10 ^ zeros, -zeros⟩ : Decimal).value = w := by
  simp only [Decimal.value]
  rw [zpow_neg, zpow_natCast]
  push_cast
  rw [mul_assoc, mul_inv_cancel₀ (by positivity), mul_one]

theorem digitCount_zeros {w : Int} (nonzero : w ≠ 0) (small : w.natAbs < 10 ^ 28) (k : Nat) :
    digitCount (w * 10 ^ k).natAbs ≤ 28 + k := by
  rw [natAbs_mul_pow]
  refine digitCount_le ?_ (Nat.mul_ne_zero (Int.natAbs_ne_zero.mpr nonzero) (by positivity))
  rw [pow_add]
  exact Nat.mul_lt_mul_of_pos_right small (by positivity)

/-- The zeros are in the coefficient: only zeros are dropped. -/
theorem finalize_zeros {w : Int} (nonzero : w ≠ 0) (small : w.natAbs < 10 ^ 28) (zeros : Nat) :
    ∃ left : Nat, finalize ⟨w * 10 ^ zeros, -zeros⟩ = some ⟨w * 10 ^ left, -left⟩ := by
  have many := digitCount_zeros nonzero small zeros
  have fits : ¬ emax < (⟨w * 10 ^ zeros, -zeros⟩ : Decimal).adjusted := by
    simp only [Decimal.adjusted, emax]
    omega
  unfold finalize
  rw [if_neg (mul_ne_zero nonzero (by positivity)), if_neg fits]
  split
  · exact ⟨zeros, rfl⟩
  · have inside : (⟨w * 10 ^ zeros, -zeros⟩ : Decimal).excess.toNat ≤ zeros := by
      simp only [Decimal.excess, precision, etiny]
      omega
    dsimp only
    rw [dropDigits_zeros w inside]
    generalize (⟨w * 10 ^ zeros, -zeros⟩ : Decimal).excess.toNat = dropped at inside
    have some_left := digitCount_zeros nonzero small (zeros - dropped)
    have exponent : (-zeros + dropped : Int) = -((zeros - dropped : Nat) : Int) := by omega
    rw [exponent]
    have fits' : ¬ emax <
        (⟨w * 10 ^ (zeros - dropped), -(zeros - dropped : Nat)⟩ : Decimal).adjusted := by
      simp only [Decimal.adjusted, emax]
      omega
    rw [if_neg fits']
    exact ⟨zeros - dropped, rfl⟩

theorem finalize_integer {d : Decimal} {w : Int} (same : d.value = w) (small : w.natAbs < 10 ^ 28) :
    ∃ r, finalize d = some r ∧ r.value = w := by
  obtain ⟨c, e⟩ := d
  by_cases zero : c = 0
  · refine ⟨⟨0, max etiny (min e emax)⟩, ?_, ?_⟩
    · unfold finalize
      rw [if_pos zero]
    · rw [← same]
      simp [Decimal.value, zero]
  · by_cases whole : 0 ≤ e
    · have product : c * 10 ^ e.toNat = w := by
        rw [value_of_nonneg whole] at same
        exact_mod_cast same
      exact ⟨_, finalize_whole zero whole product small, same⟩
    · have below : e < 0 := by omega
      have multiple : c = w * 10 ^ (-e).toNat := coefficient_of_value below same
      have nonzero : w ≠ 0 := by
        rintro rfl
        exact zero (by simpa using multiple)
      have exponent : e = -((-e).toNat : Int) := by omega
      obtain ⟨left, finalized⟩ := finalize_zeros nonzero small (-e).toNat
      rw [← multiple, ← exponent] at finalized
      exact ⟨_, finalized, value_zeros w left⟩

end ContextDecimal
