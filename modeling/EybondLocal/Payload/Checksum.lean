import EybondLocal.Library.ShiftRegister
import EybondLocal.Transport.StrayReplies

/-!
The two Modbus checksums (`crc16_modbus` in `payload/modbus.py`, `_modbus_crc16` in
`collector/transport/binary_framing.py`): one value, and what it tells of the bytes it stands for.
-/
namespace ModbusChecksum
open BinaryFraming ShiftRegister
open ReadLoop (crcBytes littleWord_crcBytes)

def crcRound (crc : Nat) : Nat :=
  if crc &&& 0x0001 ≠ 0 then (crc >>> 1) ^^^ 0xA001 else crc >>> 1

def crcAdd (crc : Nat) (byte : UInt8) : Nat := crcRound^[8] (crc ^^^ byte.toNat)

def crc16Modbus (data : Bytes) : Nat := data.foldl crcAdd 0xFFFF &&& 0xFFFF

theorem crcRound_toNat (crc : BitVec 16) : crcRound crc.toNat = (crcShift crc).toNat := by
  have low : crc &&& 1 = 1 ↔ crc.toNat &&& 1 ≠ 0 := by
    rw [← BitVec.toNat_inj, BitVec.toNat_and]
    have bit := Nat.and_one_is_mod crc.toNat
    change crc.toNat &&& 1 = 1 ↔ _
    omega
  unfold crcRound crcShift
  by_cases odd : crc &&& 1 = 1
  · rw [if_pos odd, if_pos (low.mp odd), BitVec.toNat_xor, BitVec.toNat_ushiftRight]
    rfl
  · rw [if_neg odd, if_neg (mt low.mpr odd), BitVec.toNat_ushiftRight]

theorem crcAdd_toNat (crc : BitVec 16) (byte : UInt8) :
    crcAdd crc.toNat byte = (crcByte crc byte).toNat := by
  have rounds : ∀ (n : Nat) (c : BitVec 16), crcRound^[n] c.toNat = (crcShift^[n] c).toNat := by
    intro n
    induction n with
    | zero => intro c; rfl
    | succ n ih =>
      intro c
      rw [Function.iterate_succ_apply, Function.iterate_succ_apply, crcRound_toNat, ih]
  have added : (crc ^^^ byte.toBitVec.setWidth 16).toNat = crc.toNat ^^^ byte.toNat := by
    rw [BitVec.toNat_xor, BitVec.toNat_setWidth]
    have small := byte.toNat_lt
    rw [UInt8.toNat_toBitVec, Nat.mod_eq_of_lt (by omega)]
  unfold crcAdd crcByte
  rw [← added, rounds]

theorem crc16Modbus_eq (data : Bytes) : crc16Modbus data = (modbusCrc16 data).toNat := by
  have folded : ∀ (rest : Bytes) (crc : BitVec 16),
      rest.foldl crcAdd crc.toNat = (rest.foldl crcByte crc).toNat := by
    intro rest
    induction rest with
    | nil => intro crc; rfl
    | cons byte rest ih =>
      intro crc
      rw [List.foldl_cons, List.foldl_cons, crcAdd_toNat, ih]
  have start : (0xFFFF : Nat) = (0xFFFF : BitVec 16).toNat := rfl
  unfold crc16Modbus modbusCrc16
  rw [start, folded]
  have small := (data.foldl crcByte 0xFFFF).isLt
  rw [← start, Nat.and_two_pow_sub_one_eq_mod _ 16, Nat.mod_eq_of_lt small]

def byteBits (byte : UInt8) : List Bool := (List.range 8).map byte.toBitVec.getLsbD

def transmitted (data : Bytes) : List Bool := data.flatMap byteBits

theorem length_byteBits (byte : UInt8) : (byteBits byte).length = 8 := by simp [byteBits]

theorem length_transmitted (data : Bytes) : (transmitted data).length = 8 * data.length := by
  induction data with
  | nil => rfl
  | cons byte rest ih =>
    rw [transmitted, List.flatMap_cons, List.length_append, length_byteBits, List.length_cons]
    rw [transmitted] at ih
    omega

theorem word_byteBits (byte : UInt8) : word 16 (byteBits byte) = byte.toBitVec.setWidth 16 := by
  apply BitVec.eq_of_getLsbD_eq
  intro i within
  rw [getLsbD_word _ within, BitVec.getLsbD_setWidth]
  by_cases inside : i < 8
  · simp [byteBits, inside, within]
  · have outside : byte.toBitVec.getLsbD i = false := BitVec.getLsbD_of_ge _ _ (by omega)
    have beyond : (byteBits byte).length ≤ i := by
      rw [length_byteBits]
      omega
    rw [outside, Bool.and_false, List.getD_eq_getElem?_getD, List.getElem?_eq_none beyond]
    rfl

theorem byteBits_injective {byte other : UInt8} (same : byteBits byte = byteBits other) :
    byte = other := by
  have words : byte.toBitVec.setWidth 16 = other.toBitVec.setWidth 16 := by
    rw [← word_byteBits, ← word_byteBits, same]
  have numbers := congrArg BitVec.toNat words
  rw [BitVec.toNat_setWidth, BitVec.toNat_setWidth, UInt8.toNat_toBitVec, UInt8.toNat_toBitVec]
    at numbers
  have small := byte.toNat_lt
  have other_small := other.toNat_lt
  apply UInt8.toNat_inj.mp
  omega

theorem transmitted_injective {data other : Bytes} (same_length : data.length = other.length)
    (same : transmitted data = transmitted other) : data = other := by
  induction data generalizing other with
  | nil => exact (List.eq_nil_of_length_eq_zero same_length.symm).symm
  | cons byte rest ih =>
    cases other with
    | nil => cases same_length
    | cons head tail =>
      rw [transmitted, transmitted, List.flatMap_cons, List.flatMap_cons] at same
      obtain ⟨first, later⟩ := List.append_inj same (by rw [length_byteBits, length_byteBits])
      rw [byteBits_injective first, ih (Nat.succ.inj same_length) later]

theorem crcShift_eq (crc : BitVec 16) : crcShift crc = shift 0xA001 crc := by
  have low : crc &&& 1 = 1 ↔ crc.getLsbD 0 = true := by
    rw [← BitVec.toNat_inj, BitVec.toNat_and, BitVec.getLsbD, Nat.testBit_zero, decide_eq_true_iff]
    change crc.toNat &&& 1 = 1 ↔ _
    rw [Nat.and_one_is_mod]
  unfold crcShift shift
  by_cases odd : crc &&& 1 = 1
  · rw [if_pos odd, if_pos (low.mp odd)]
  · rw [if_neg odd, if_neg (mt low.mpr odd)]

theorem crcByte_eq (crc : BitVec 16) (byte : UInt8) :
    crcByte crc byte = feed 0xA001 crc (byteBits byte) := by
  have shifts : crcShift = shift 0xA001 := funext crcShift_eq
  have fits : (byteBits byte).length ≤ 16 := by
    rw [length_byteBits]
    decide
  rw [feed_eq_shifts 0xA001 crc fits, length_byteBits, word_byteBits, crcByte, shifts]

theorem modbusCrc16_eq (data : Bytes) :
    modbusCrc16 data = feed 0xA001 0xFFFF (transmitted data) := by
  unfold modbusCrc16
  generalize (0xFFFF : BitVec 16) = crc
  induction data generalizing crc with
  | nil => rfl
  | cons byte rest ih =>
    have bits : transmitted (byte :: rest) = byteBits byte ++ transmitted rest := List.flatMap_cons
    rw [List.foldl_cons, ih, bits, feed_append, crcByte_eq]

structure Certifies (data : Bytes) : Prop where
  one_value : crc16Modbus data = (modbusCrc16 data).toNat
  verifies : 2 ≤ data.length → modbusRtuCrcIsValid (data ++ crcBytes (modbusCrc16 data)) = true
  detects : ∀ other : Bytes, other.length = data.length →
    WithinWindow 16 (transmitted data) (transmitted other) →
    modbusCrc16 other = modbusCrc16 data → other = data

theorem crc_verifies {data : Bytes} (long : 2 ≤ data.length) :
    modbusRtuCrcIsValid (data ++ crcBytes (modbusCrc16 data)) = true := by
  have size : (crcBytes (modbusCrc16 data)).length = 2 := rfl
  have body : (data ++ crcBytes (modbusCrc16 data)).length - 2 = data.length := by
    rw [List.length_append, size, Nat.add_sub_cancel]
  have whole : ¬ (data ++ crcBytes (modbusCrc16 data)).length < 4 := by
    rw [List.length_append, size]
    omega
  unfold modbusRtuCrcIsValid
  rw [if_neg whole, body, List.take_left, List.drop_left, littleWord_crcBytes, beq_self_eq_true]

theorem crc_certifies (data : Bytes) : Certifies data := by
  refine ⟨crc16Modbus_eq data, crc_verifies, fun other same_length window same => ?_⟩
  rw [modbusCrc16_eq, modbusCrc16_eq] at same
  apply Eq.symm
  apply transmitted_injective same_length.symm
  apply feed_eq_of_withinWindow 0xA001 (by decide) 0xFFFF _ window same.symm
  rw [length_transmitted, length_transmitted, same_length]

/-- A window one bit wider is too wide: these differ only in the seventeen bits of the divisor. -/
example : modbusCrc16 [0x00, 0x00, 0x00] = modbusCrc16 [0x03, 0x40, 0x01] := by decide +kernel

end ModbusChecksum
