import Mathlib.Data.Rat.Floor
import Mathlib.Tactic.Linarith
import Mathlib.Tactic.FieldSimp

/-!
Python's `round` on exact rationals: to the nearest integer, a tie to the even one, and the same
after a number of decimals.
-/
namespace HalfEven

def roundHalfEven (q : ℚ) : Int :=
  let below := q.floor
  if q - below < 1 / 2 then below
  else if q - below = 1 / 2 ∧ below % 2 = 0 then below
  else below + 1

def roundTo (q : ℚ) (decimals : Nat) : ℚ := roundHalfEven (q * 10 ^ decimals) / 10 ^ decimals

theorem roundHalfEven_intCast (n : Int) : roundHalfEven n = n := by
  have floor : (n : ℚ).floor = n := Rat.floor_intCast n
  unfold roundHalfEven
  rw [floor, if_pos (by norm_num)]

end HalfEven
