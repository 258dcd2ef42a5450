import EybondLocal.Capability.WriteContract

/-!
`merge_capability_register_word` (`drivers/capability_codec.py`) for any encoded value: the shifted
field is cut to sixteen bits before it is held against the mask.
-/
namespace Capability
open ModbusWrite

theorem succ_two_pow_of_and_succ {n : Nat} (neighbours : n &&& (n + 1) = 0) :
    ∃ width, n + 1 = 2 ^ width := by
  have power : (n + 1) &&& (n + 1 - 1) = 0 := by
    rw [Nat.add_sub_cancel, Nat.and_comm]
    exact neighbours
  exact (Nat.and_sub_one_eq_zero_iff_isPowerOfTwo (by omega)).mp power

theorem field_succ_two_pow {mask : BitVec 16} (parsed : contiguous mask = true) :
    ∃ width, (mask >>> maskShift mask).toNat + 1 = 2 ^ width := by
  unfold contiguous at parsed
  rw [decide_eq_true_iff] at parsed
  generalize mask >>> maskShift mask = field at parsed ⊢
  have bits := congrArg BitVec.toNat parsed
  rw [BitVec.toNat_and, BitVec.toNat_add] at bits
  have size := field.isLt
  by_cases full : field.toNat = 65535
  · exact ⟨16, by rw [full]; rfl⟩
  · have sum : (field.toNat + (1 : BitVec 16).toNat) % 2 ^ 16 = field.toNat + 1 := by
      change (field.toNat + 1) % 65536 = _
      omega
    rw [sum] at bits
    exact succ_two_pow_of_and_succ bits

namespace WriteCapability
variable (c : WriteCapability)

def mergeRegisterWord (currentWord encodedWord : Int) : Except DriverError (BitVec 16) :=
  match c.bitmask with
  | none => .error (.value ("capability_has_no_bitmask:" ++ c.key))
  | some mask => c.mergeCapabilityRegisterWord mask currentWord encodedWord

def MergesExactly (current : BitVec 16) (encoded : Nat) : Prop :=
  ∀ merged, c.mergeRegisterWord current.toNat encoded = .ok merged →
    ∀ mask, c.bitmask = some mask →
      ((merged &&& mask) >>> c.bitmaskShift).toNat = encoded ∧
        merged &&& ~~~mask = current &&& ~~~mask

def ShiftsWhole (encoded : Nat) : Prop :=
  ∀ mask, c.bitmask = some mask → encoded < 2 ^ (16 - c.bitmaskShift) ∨
    (mask >>> c.bitmaskShift).toNat < encoded % 2 ^ (16 - c.bitmaskShift)

variable {c} {mask : BitVec 16}

theorem bitmaskShift_lt (masked : c.bitmask = some mask) : c.bitmaskShift < 16 := by
  unfold bitmaskShift
  rw [masked]
  change (mask &&& -mask).toNat.log2 < 16
  by_cases zero : (mask &&& -mask).toNat = 0
  · rw [zero]
    decide
  · exact (Nat.log2_lt zero).mpr (mask &&& -mask).isLt

theorem toNat_shiftedField (masked : c.bitmask = some mask) (encoded : Nat) :
    (c.shiftedField encoded).toNat =
      encoded % 2 ^ (16 - c.bitmaskShift) * 2 ^ c.bitmaskShift := by
  have shift := bitmaskShift_lt masked
  have width : (2 : Nat) ^ 16 = 2 ^ (16 - c.bitmaskShift) * 2 ^ c.bitmaskShift := by
    rw [← pow_add]
    congr 1
    omega
  have whole : (encoded : Int) * 2 ^ c.bitmaskShift = ((encoded * 2 ^ c.bitmaskShift : Nat) : Int) := by
    push_cast
    rfl
  unfold shiftedField
  rw [whole, BitVec.ofInt_natCast, BitVec.toNat_ofNat, width, Nat.mul_mod_mul_right]

theorem inside_iff (masked : c.bitmask = some mask) (encoded : Nat) :
    c.shiftedField encoded &&& ~~~mask = 0 ↔
      encoded % 2 ^ (16 - c.bitmaskShift) ≤ (mask >>> c.bitmaskShift).toNat := by
  have power : 0 < 2 ^ c.bitmaskShift := Nat.two_pow_pos _
  have moved_down : encoded % 2 ^ (16 - c.bitmaskShift) =
      (c.shiftedField encoded >>> c.bitmaskShift).toNat := by
    rw [BitVec.toNat_ushiftRight, Nat.shiftRight_eq_div_pow, toNat_shiftedField masked,
      Nat.mul_div_cancel _ power]
  constructor
  · intro inside
    have below : (c.shiftedField encoded).toNat ≤ mask.toNat := by
      rw [← and_of_inside inside, BitVec.toNat_and]
      exact Nat.and_le_right
    rw [moved_down, BitVec.toNat_ushiftRight, BitVec.toNat_ushiftRight, Nat.shiftRight_eq_div_pow,
      Nat.shiftRight_eq_div_pow]
    exact Nat.div_le_div_right below
  · intro fits
    obtain ⟨-, -, parsed⟩ := c.mask_parsed mask masked
    have shift : c.bitmaskShift = maskShift mask := by
      unfold bitmaskShift
      rw [masked]
      rfl
    obtain ⟨width, ones⟩ := field_succ_two_pow parsed
    rw [← shift] at ones
    apply BitVec.eq_of_getLsbD_eq
    intro i bound
    rw [BitVec.getLsbD_and, BitVec.getLsbD_not]
    cases bit : (c.shiftedField encoded).getLsbD i with
    | false => simp
    | true =>
      -- A set bit stands above the shift, among the ones of the field.
      rw [BitVec.getLsbD, toNat_shiftedField masked, Nat.testBit_mul_two_pow, Bool.and_eq_true,
        decide_eq_true_iff] at bit
      obtain ⟨above, low⟩ := bit
      have narrow : i - c.bitmaskShift < width := by
        by_contra wide
        have small : encoded % 2 ^ (16 - c.bitmaskShift) < 2 ^ (i - c.bitmaskShift) :=
          Nat.lt_of_lt_of_le (by omega) (Nat.pow_le_pow_right (by decide) (Nat.le_of_not_lt wide))
        rw [Nat.testBit_lt_two_pow small] at low
        cases low
      have in_mask : mask.getLsbD i = true := by
        have field : (mask >>> c.bitmaskShift).toNat = 2 ^ width - 1 := by omega
        have bit := Nat.testBit_two_pow_sub_one width (i - c.bitmaskShift)
        rw [← field, decide_eq_true narrow] at bit
        change (mask >>> c.bitmaskShift).getLsbD (i - c.bitmaskShift) = true at bit
        rw [BitVec.getLsbD_ushiftRight, Nat.add_sub_cancel' above] at bit
        exact bit
      simp [in_mask]

theorem mergeRegisterWord_masked (masked : c.bitmask = some mask) (current : BitVec 16)
    (encoded : Nat) :
    c.mergeRegisterWord current.toNat encoded =
      if c.shiftedField encoded &&& ~~~mask ≠ 0 then
        .error (.value ("value_exceeds_bitmask:" ++ c.key ++ ":" ++ toString (encoded : Int)))
      else .ok (mergeRegisterField current mask (c.shiftedField encoded)) := by
  have word : BitVec.ofInt 16 (current.toNat : Int) = current := by
    rw [BitVec.ofInt_natCast, BitVec.ofNat_toNat, BitVec.setWidth_eq]
  unfold mergeRegisterWord mergeCapabilityRegisterWord
  rw [masked, word]

/-- A merge is exact or refused exactly when the shift drops no bits of the encoded value, or those
    that are left are refused. -/
theorem mergesExactly_iff (c : WriteCapability) (current : BitVec 16) (encoded : Nat) :
    c.MergesExactly current encoded ↔ c.ShiftsWhole encoded := by
  constructor
  · intro exact mask masked
    by_contra neither
    obtain ⟨dropped, fits⟩ := not_or.mp neither
    have inside := (inside_iff masked encoded).mpr (Nat.le_of_not_lt fits)
    have run := mergeRegisterWord_masked masked current encoded
    rw [if_neg (not_not.mpr inside)] at run
    obtain ⟨field, -⟩ := exact _ run mask masked
    have small : ((mergeRegisterField current mask (c.shiftedField encoded) &&& mask) >>>
        c.bitmaskShift).toNat < 2 ^ (16 - c.bitmaskShift) := by
      rw [BitVec.toNat_ushiftRight, Nat.shiftRight_eq_div_pow]
      apply Nat.div_lt_of_lt_mul
      rw [← pow_add, Nat.add_sub_cancel' (bitmaskShift_lt masked).le]
      exact BitVec.isLt _
    omega
  · intro whole merged run mask masked
    rw [mergeRegisterWord_masked masked] at run
    split at run
    · cases run
    · rename_i inside
      rw [not_not] at inside
      cases run
      have low := (inside_iff masked encoded).mp inside
      have fits : encoded ≤ (mask >>> c.bitmaskShift).toNat := by
        rcases whole mask masked with small | large
        · rwa [Nat.mod_eq_of_lt small] at low
        · omega
      have field :
          (((mergeRegisterField current mask (c.shiftedField encoded) &&& mask) >>>
            c.bitmaskShift).toNat : Int) = encoded :=
        merged_field (Int.natCast_nonneg encoded) (Int.ofNat_le.mpr fits) inside
      exact ⟨Int.ofNat_inj.mp field, mergeRegisterField_rest _ _ _⟩

end WriteCapability

def topFlag : WriteCapability where
  key := "top_flag"
  register := 354
  valueKind := .u16
  bitmask := some 0x8000
  mask_parsed := by
    intro mask is
    cases is
    decide +kernel

/-- The value 2 is merged into the top bit as 0. -/
theorem topFlag_drops :
    topFlag.mergeRegisterWord 0x1234 2 = .ok 0x1234 ∧ ¬ topFlag.MergesExactly 0x1234 2 := by
  have run : topFlag.mergeRegisterWord 0x1234 2 = .ok 0x1234 := by decide +kernel
  refine ⟨run, fun exact => ?_⟩
  obtain ⟨field, -⟩ := exact _ run _ rfl
  revert field
  decide +kernel

end Capability
