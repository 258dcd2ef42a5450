import EybondLocal.Payload.ModbusRecovery

/-!
Register writes of `payload/modbus.py`: the requests with function 6 and 16, their
acknowledgements, and the requests as a device decodes them.
-/
namespace ModbusWrite
open BinaryFraming ModbusRead

inductive WriteError where
  | modbus (text : String)
  | value (text : String)
  | overflow (text : String)
  deriving DecidableEq, Repr

def byteOf (n : Int) : UInt8 := UInt8.ofNat (n % 256).toNat

def wordBytes (n : Int) : Bytes := [byteOf (n / 256), byteOf n]

def withCrc (payload : Bytes) : Bytes :=
  payload ++ [lowByte (modbusCrc16 payload).toNat, lowByte ((modbusCrc16 payload).toNat / 256)]

def overflowText (value : Int) : String :=
  if value < 0 then "can't convert negative int to unsigned" else "int too big to convert"

def buildWriteMultipleRequest (slaveId : UInt8) (address : Int) (values : List Int) :
    Except WriteError Bytes :=
  if 255 < values.length * 2 then .error (.value "byte must be in range(0, 256)")
  else
    -- `to_bytes(2, "big", signed=False)`
    match values.find? fun value => decide (value < 0 ∨ 65536 ≤ value) with
    | some value => .error (.overflow (overflowText value))
    | none => .ok (withCrc ([slaveId, 0x10] ++ wordBytes address ++ wordBytes values.length ++
        [byteOf (values.length * 2)] ++ values.flatMap wordBytes))

def buildWriteSingleRequest (slaveId : UInt8) (address value : Int) : Bytes :=
  withCrc ([slaveId, 0x06] ++ wordBytes address ++ wordBytes value)

structure ReadRequestFrame where
  slaveId : UInt8
  functionCode : UInt8
  address : Nat
  count : Nat
  deriving DecidableEq, Repr

structure WriteRequestFrame where
  slaveId : UInt8
  functionCode : UInt8
  address : Nat
  values : List Nat
  deriving DecidableEq, Repr

def wordAt (frame : Bytes) (i : Nat) : Nat := word (frame.getD i 0) (frame.getD (i + 1) 0)

def decodeReadRequest (frame : Bytes) : Option ReadRequestFrame :=
  if frame.length ≠ 8 then none
  else if frame.getD 1 0 ≠ 0x03 ∧ frame.getD 1 0 ≠ 0x04 then none
  else if crcMatches frame = false then none
  else some ⟨frame.getD 0 0, frame.getD 1 0, wordAt frame 2, wordAt frame 4⟩

def decodeWriteRequest (frame : Bytes) : Option WriteRequestFrame :=
  if frame.length < 8 then none
  else if crcMatches frame = false then none
  else if frame.getD 1 0 = 0x06 ∧ frame.length = 8 then
    some ⟨frame.getD 0 0, frame.getD 1 0, wordAt frame 2, [wordAt frame 4]⟩
  else if frame.getD 1 0 ≠ 0x10 ∨ frame.length < 9 then none
  else if (frame.getD 6 0).toNat ≠ wordAt frame 4 * 2 then none
  else if frame.length ≠ 9 + (frame.getD 6 0).toNat then none
  else
    some ⟨frame.getD 0 0, frame.getD 1 0, wordAt frame 2,
      registersOf ((frame.take (frame.length - 2)).drop 7)⟩

/-- What both acknowledgements have in common: an exception, or eight bytes of the function with
    the address of the request. -/
def parseAcknowledgement (function exception : UInt8) (frame : Bytes) (slaveId : UInt8)
    (address : Int) : Except WriteError Nat :=
  if frame.length < 5 then .error (.modbus "response_too_short")
  else if frame.getD 0 0 ≠ slaveId then
    .error (.modbus ("unexpected_slave_id:" ++ toString (frame.getD 0 0).toNat))
  else if frame.getD 1 0 = exception then
    if crcMatches frame = false then .error (.modbus "crc_mismatch")
    else .error (.modbus ("exception_code:" ++ toString (frame.getD 2 0).toNat))
  else if frame.length ≠ 8 then
    .error (.modbus ("unexpected_length:" ++ toString frame.length))
  else if frame.getD 1 0 ≠ function then
    .error (.modbus ("unexpected_function:" ++ toString (frame.getD 1 0).toNat))
  else if crcMatches frame = false then .error (.modbus "crc_mismatch")
  else if (wordAt frame 2 : Int) ≠ address then
    .error (.modbus ("unexpected_address:" ++ toString (wordAt frame 2)))
  else .ok (wordAt frame 4)

def parseWriteSingleResponse (frame : Bytes) (slaveId : UInt8) (address : Int) :
    Except WriteError Nat :=
  parseAcknowledgement 0x06 0x86 frame slaveId address

def parseWriteMultipleResponse (frame : Bytes) (slaveId : UInt8) (address : Int)
    (registerCount : Nat) : Except WriteError Unit :=
  match parseAcknowledgement 0x10 0x90 frame slaveId address with
  | .error error => .error error
  | .ok countReceived =>
    if countReceived ≠ registerCount then
      .error (.modbus ("unexpected_register_count:" ++ toString countReceived))
    else .ok ()

def mergeRegisterField (current mask field : BitVec 16) : BitVec 16 :=
  (current &&& ~~~mask) ||| (field &&& mask)

theorem mergeRegisterField_field (current mask field : BitVec 16) :
    mergeRegisterField current mask field &&& mask = field &&& mask := by
  unfold mergeRegisterField
  ext i within
  simp only [BitVec.getElem_and, BitVec.getElem_or, BitVec.getElem_not]
  cases mask[i] <;> simp

theorem mergeRegisterField_rest (current mask field : BitVec 16) :
    mergeRegisterField current mask field &&& ~~~mask = current &&& ~~~mask := by
  unfold mergeRegisterField
  ext i within
  simp only [BitVec.getElem_and, BitVec.getElem_or, BitVec.getElem_not]
  cases mask[i] <;> simp

theorem byteOf_toNat (n : Int) : (byteOf n).toNat = (n % 256).toNat := by
  unfold byteOf
  rw [UInt8.toNat_ofNat']
  omega

/-- Two bytes keep a number up to its multiple of 65536. -/
theorem word_wordBytes (n : Int) : (word (byteOf (n / 256)) (byteOf n) : Int) = n % 65536 := by
  unfold word
  rw [byteOf_toNat, byteOf_toNat]
  omega

theorem registersOf_flatMap (values : List Int) (sixteen : ∀ v ∈ values, 0 ≤ v ∧ v < 65536) :
    (registersOf (values.flatMap wordBytes)).map Int.ofNat = values := by
  induction values with
  | nil => rfl
  | cons v rest ih =>
    have later := ih fun v member => sixteen v (List.mem_cons_of_mem _ member)
    have first := sixteen v List.mem_cons_self
    have here : (word (byteOf (v / 256)) (byteOf v) : Int) = v := by
      rw [word_wordBytes]
      omega
    rw [List.flatMap_cons, wordBytes]
    simp only [List.cons_append, List.nil_append, registersOf, List.map_cons, later]
    exact congrArg (· :: rest) here

theorem ofNat_sixteen {values : List Nat} (sixteen : ∀ n ∈ values, n < 65536) :
    ∀ v ∈ values.map Int.ofNat, 0 ≤ v ∧ v < 65536 := by
  intro v member
  obtain ⟨n, inside, rfl⟩ := List.mem_map.mp member
  have small := sixteen n inside
  constructor
  · exact Int.natCast_nonneg n
  · change (n : Int) < 65536
    omega

theorem lowByte_toNat (n : Nat) : (lowByte n).toNat = n % 256 := by
  unfold lowByte
  rw [UInt8.toNat_ofNat']
  omega

section
variable (payload : Bytes)

@[simp] theorem withCrc_length : (withCrc payload).length = payload.length + 2 := by
  simp [withCrc]

theorem withCrc_take : (withCrc payload).take ((withCrc payload).length - 2) = payload := by
  rw [withCrc_length, Nat.add_sub_cancel]
  exact List.take_left

theorem crcMatches_withCrc : crcMatches (withCrc payload) = true := by
  have crc := (modbusCrc16 payload).isLt
  have tail : (withCrc payload).drop ((withCrc payload).length - 2) =
      [lowByte (modbusCrc16 payload).toNat, lowByte ((modbusCrc16 payload).toNat / 256)] := by
    rw [withCrc_length, Nat.add_sub_cancel]
    exact List.drop_left
  unfold crcMatches
  rw [withCrc_take, tail, beq_iff_eq]
  simp only [littleWord, word, lowByte_toNat]
  omega

end

theorem decode_writeSingle (slaveId : UInt8) (address value : Int) :
    decodeWriteRequest (buildWriteSingleRequest slaveId address value) =
      some ⟨slaveId, 0x06, (address % 65536).toNat, [(value % 65536).toNat]⟩ := by
  have crc := crcMatches_withCrc ([slaveId, 0x06] ++ wordBytes address ++ wordBytes value)
  have first := word_wordBytes address
  have second := word_wordBytes value
  unfold decodeWriteRequest buildWriteSingleRequest
  rw [if_neg (by simp [wordBytes]), if_neg (by rw [crc]; simp), if_pos ⟨rfl, rfl⟩]
  have at_two : wordAt (withCrc ([slaveId, 0x06] ++ wordBytes address ++ wordBytes value)) 2 =
      word (byteOf (address / 256)) (byteOf address) := rfl
  have at_four : wordAt (withCrc ([slaveId, 0x06] ++ wordBytes address ++ wordBytes value)) 4 =
      word (byteOf (value / 256)) (byteOf value) := rfl
  have address_word : word (byteOf (address / 256)) (byteOf address) = (address % 65536).toNat := by
    omega
  have value_word : word (byteOf (value / 256)) (byteOf value) = (value % 65536).toNat := by
    omega
  rw [at_two, at_four, address_word, value_word]
  rfl

theorem flatMap_wordBytes_length (values : List Int) :
    (values.flatMap wordBytes).length = values.length * 2 := by
  induction values with
  | nil => rfl
  | cons v rest ih =>
    rw [List.flatMap_cons, List.length_append, ih, List.length_cons]
    simp only [wordBytes, List.length_cons, List.length_nil]
    omega

theorem buildWriteMultiple_cases (slaveId : UInt8) (address : Int) {values : List Int}
    (short : values.length * 2 ≤ 255) :
    (¬ (∀ v ∈ values, 0 ≤ v ∧ v < 65536) ∧
      ∃ error, buildWriteMultipleRequest slaveId address values = .error error) ∨
    ((∀ v ∈ values, 0 ≤ v ∧ v < 65536) ∧
      buildWriteMultipleRequest slaveId address values =
        .ok (withCrc ([slaveId, 0x10] ++ wordBytes address ++ wordBytes values.length ++
          [byteOf (values.length * 2)] ++ values.flatMap wordBytes))) := by
  unfold buildWriteMultipleRequest
  rw [if_neg (by omega)]
  cases found : values.find? fun value => decide (value < 0 ∨ 65536 ≤ value) with
  | some v =>
    left
    have outside := List.find?_some found
    simp only [decide_eq_true_eq] at outside
    constructor
    · intro sixteen
      have within := sixteen v (List.mem_of_find?_eq_some found)
      omega
    · exact ⟨_, rfl⟩
  | none =>
    right
    constructor
    · intro v member
      have within := List.find?_eq_none.mp found v member
      simp only [decide_eq_true_eq] at within
      omega
    · rfl

theorem decode_writeMultiple (slaveId : UInt8) (address : Int) {values : List Int}
    (short : values.length * 2 ≤ 255)
    (sixteen : ∀ v ∈ values, 0 ≤ v ∧ v < 65536) :
    decodeWriteRequest (withCrc ([slaveId, 0x10] ++ wordBytes address ++
        wordBytes values.length ++ [byteOf (values.length * 2)] ++ values.flatMap wordBytes)) =
      some ⟨slaveId, 0x10, (address % 65536).toNat, values.map Int.toNat⟩ := by
  generalize body : [slaveId, 0x10] ++ wordBytes address ++ wordBytes values.length ++
    [byteOf (values.length * 2)] ++ values.flatMap wordBytes = payload
  have shape : payload = slaveId :: 0x10 :: byteOf (address / 256) :: byteOf address ::
      byteOf ((values.length : Int) / 256) :: byteOf values.length ::
      byteOf (values.length * 2) :: values.flatMap wordBytes := body.symm
  have length : payload.length = values.length * 2 + 7 := by
    rw [shape]
    simp only [List.length_cons, flatMap_wordBytes_length]
  have first := word_wordBytes address
  have second := word_wordBytes values.length
  have bytes := byteOf_toNat (values.length * 2)
  have at_two : wordAt (withCrc payload) 2 = word (byteOf (address / 256)) (byteOf address) := by
    rw [shape]
    rfl
  have at_four : wordAt (withCrc payload) 4 =
      word (byteOf ((values.length : Int) / 256)) (byteOf values.length) := by
    rw [shape]
    rfl
  have function : (withCrc payload).getD 1 0 = 0x10 := by
    rw [shape]
    rfl
  have slave : (withCrc payload).getD 0 0 = slaveId := by
    rw [shape]
    rfl
  have count : (withCrc payload).getD 6 0 = byteOf (values.length * 2) := by
    rw [shape]
    rfl
  unfold decodeWriteRequest
  rw [if_neg (by rw [withCrc_length]; omega), if_neg (by rw [crcMatches_withCrc]; simp),
    if_neg (by rw [function]; simp), if_neg (by rw [function, withCrc_length]; simp; omega),
    if_neg (by rw [count, at_four, bytes]; omega),
    if_neg (by rw [count, bytes, withCrc_length]; omega), withCrc_take, slave, function, at_two]
  have registers : registersOf (payload.drop 7) = values.map Int.toNat := by
    have back := congrArg (List.map Int.toNat) (registersOf_flatMap values sixteen)
    rw [List.map_map] at back
    rw [shape, ← back]
    exact (List.map_id _).symm
  have address_word : word (byteOf (address / 256)) (byteOf address) = (address % 65536).toNat := by
    omega
  rw [registers, address_word]

end ModbusWrite
