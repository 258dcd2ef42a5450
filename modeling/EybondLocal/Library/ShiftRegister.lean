import Mathlib.Data.Nat.Basic
import Mathlib.Logic.Function.Iterate
import Mathlib.Tactic.Common

/-!
A shift register with feedback, lowest bit first. A step with the top tap set can be undone, and a
register reads up to its own width of bits without losing any of them; so what it holds after two
messages that differ within that width is different.
-/
namespace ShiftRegister
variable {w : Nat} (taps : BitVec w)

def shift (register : BitVec w) : BitVec w :=
  if register.getLsbD 0 then (register >>> 1) ^^^ taps else register >>> 1

def bitWord (w : Nat) (bit : Bool) : BitVec w := (BitVec.ofBool bit).setWidth w

def step (register : BitVec w) (bit : Bool) : BitVec w := shift taps (register ^^^ bitWord w bit)

def feed (register : BitVec w) (bits : List Bool) : BitVec w := bits.foldl (step taps) register

def word (w : Nat) : List Bool → BitVec w
  | [] => 0
  | bit :: bits => bitWord w bit ^^^ (word w bits <<< 1)

theorem getLsbD_bitWord (bit : Bool) {i : Nat} (within : i < w) :
    (bitWord w bit).getLsbD i = (decide (i = 0) && bit) := by
  simp only [bitWord, BitVec.getLsbD_setWidth, BitVec.getLsbD_ofBool, within, decide_true,
    Bool.true_and]

theorem getLsbD_word (bits : List Bool) {i : Nat} (within : i < w) :
    (word w bits).getLsbD i = bits.getD i false := by
  induction bits generalizing i with
  | nil => simp [word]
  | cons bit bits ih =>
    rw [word, BitVec.getLsbD_xor, getLsbD_bitWord bit within, BitVec.getLsbD_shiftLeft]
    cases i with
    | zero => simp
    | succ i =>
      rw [Nat.add_sub_cancel, ih (by omega)]
      simp [within]

theorem word_up_down {bits : List Bool} (short : bits.length < w) :
    (word w bits <<< 1) >>> 1 = word w bits := by
  apply BitVec.eq_of_getLsbD_eq
  intro i within
  rw [BitVec.getLsbD_ushiftRight, BitVec.getLsbD_shiftLeft, getLsbD_word bits within]
  by_cases room : 1 + i < w
  · rw [Nat.add_sub_cancel_left, getLsbD_word bits within]
    simp [room]
  · have outside : bits.length ≤ i := by omega
    simp [room, outside]

theorem word_injective {bits others : List Bool} (fits : bits.length ≤ w)
    (same_length : bits.length = others.length) (same : word w bits = word w others) :
    bits = others := by
  apply List.ext_getElem same_length
  intro i here there
  have both : (word w bits).getLsbD i = (word w others).getLsbD i := by rw [same]
  rw [getLsbD_word bits (by omega), getLsbD_word others (by omega)] at both
  simpa [here, there] using both

theorem shift_xor_up (register above : BitVec w) (room : (above <<< 1) >>> 1 = above) :
    shift taps (register ^^^ (above <<< 1)) = shift taps register ^^^ above := by
  have low : (register ^^^ (above <<< 1)).getLsbD 0 = register.getLsbD 0 := by
    rw [BitVec.getLsbD_xor, BitVec.getLsbD_shiftLeft]
    simp
  unfold shift
  rw [low, BitVec.ushiftRight_xor_distrib, room]
  split
  · rw [BitVec.xor_assoc, BitVec.xor_comm above, ← BitVec.xor_assoc]
  · rfl

theorem shift_injective (top : taps.msb = true) {register other : BitVec w}
    (same : shift taps register = shift taps other) : register = other := by
  have positive : 0 < w := by
    rcases Nat.eq_zero_or_pos w with rfl | positive
    · simp [BitVec.msb] at top
    · exact positive
  -- The bit that was shifted out stands at the top.
  have shifted_out : ∀ r : BitVec w, (shift taps r).getLsbD (w - 1) = r.getLsbD 0 := by
    intro r
    have clear : (r >>> 1).getLsbD (w - 1) = false := by
      rw [BitVec.getLsbD_ushiftRight]
      exact BitVec.getLsbD_of_ge _ _ (by omega)
    rw [BitVec.msb_eq_getLsbD_last] at top
    unfold shift
    cases low : r.getLsbD 0 with
    | true => rw [if_pos rfl, BitVec.getLsbD_xor, clear, top, Bool.false_xor]
    | false => rw [if_neg Bool.false_ne_true, clear]
  have low : register.getLsbD 0 = other.getLsbD 0 := by
    rw [← shifted_out, ← shifted_out, same]
  have high : register >>> 1 = other >>> 1 := by
    unfold shift at same
    rw [low] at same
    split at same
    · exact (BitVec.xor_left_inj taps).mp same
    · exact same
  apply BitVec.eq_of_getLsbD_eq
  intro i within
  cases i with
  | zero => exact low
  | succ i =>
    have bit : (register >>> 1).getLsbD i = (other >>> 1).getLsbD i := by rw [high]
    rw [BitVec.getLsbD_ushiftRight, BitVec.getLsbD_ushiftRight, Nat.add_comm] at bit
    exact bit

theorem feed_append (register : BitVec w) (first second : List Bool) :
    feed taps register (first ++ second) = feed taps (feed taps register first) second :=
  List.foldl_append

theorem feed_eq_shifts (register : BitVec w) {bits : List Bool} (fits : bits.length ≤ w) :
    feed taps register bits = (shift taps)^[bits.length] (register ^^^ word w bits) := by
  induction bits generalizing register with
  | nil => simp [feed, word]
  | cons bit bits ih =>
    have short : bits.length < w := fits
    rw [List.length_cons, Function.iterate_succ_apply, word, ← BitVec.xor_assoc,
      shift_xor_up taps _ _ (word_up_down short)]
    exact ih _ (by omega)

theorem iterate_shift_injective (top : taps.msb = true) (n : Nat) {register other : BitVec w}
    (same : (shift taps)^[n] register = (shift taps)^[n] other) : register = other := by
  induction n with
  | zero => exact same
  | succ n ih =>
    rw [Function.iterate_succ_apply', Function.iterate_succ_apply'] at same
    exact ih (shift_injective taps top same)

theorem feed_injective (top : taps.msb = true) (bits : List Bool) {register other : BitVec w}
    (same : feed taps register bits = feed taps other bits) : register = other := by
  induction bits generalizing register other with
  | nil => exact same
  | cons bit bits ih =>
    have stepped : step taps register bit = step taps other bit := ih same
    exact (BitVec.xor_left_inj _).mp (shift_injective taps top stepped)

/-- Two messages that differ only where a window of the register's width is leave different
    registers. -/
theorem feed_window (top : taps.msb = true) (register : BitVec w) (before after : List Bool)
    {bits others : List Bool} (same_length : bits.length = others.length) (fits : bits.length ≤ w)
    (same : feed taps register (before ++ bits ++ after) =
      feed taps register (before ++ others ++ after)) : bits = others := by
  rw [feed_append, feed_append, feed_append, feed_append] at same
  have inside := feed_injective taps top after same
  have other_fits : others.length ≤ w := by omega
  generalize feed taps register before = entered at inside
  rw [feed_eq_shifts taps _ fits, feed_eq_shifts taps _ other_fits, same_length] at inside
  have words := iterate_shift_injective taps top _ inside
  exact word_injective fits same_length ((BitVec.xor_right_inj _).mp words)

/-- Every place where the lists differ is one of the `w` from some place on. -/
def WithinWindow (w : Nat) (bits others : List Bool) : Prop :=
  ∃ start, ∀ i, bits[i]? ≠ others[i]? → start ≤ i ∧ i < start + w

theorem feed_eq_of_withinWindow (top : taps.msb = true) (register : BitVec w)
    {bits others : List Bool} (same_length : bits.length = others.length)
    (window : WithinWindow w bits others)
    (same : feed taps register bits = feed taps register others) : bits = others := by
  obtain ⟨start, differ⟩ := window
  have parts : ∀ l : List Bool, l = l.take start ++ (l.drop start).take w ++ l.drop (start + w) := by
    intro l
    rw [List.append_assoc, ← List.drop_drop, List.take_append_drop, List.take_append_drop]
  have before : bits.take start = others.take start := by
    apply List.ext_getElem?
    intro i
    rw [List.getElem?_take, List.getElem?_take]
    split
    · by_contra unequal
      have := differ i unequal
      omega
    · rfl
  have after : bits.drop (start + w) = others.drop (start + w) := by
    apply List.ext_getElem?
    intro i
    rw [List.getElem?_drop, List.getElem?_drop]
    by_contra unequal
    have := differ _ unequal
    omega
  rw [parts bits, parts others, before, after] at same
  have middle := feed_window taps top register _ _ (by simp [same_length])
    (List.length_take_le w _) same
  rw [parts bits, parts others, before, middle, after]

end ShiftRegister
