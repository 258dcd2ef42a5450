import EybondLocal.Payload.ModbusWrite

/-!
A device that keeps a bank of 65536 registers and stores what it is sent, and the reads and
writes of a `ModbusSession` over it.
-/
namespace RegisterBank
open BinaryFraming ModbusRead ModbusWrite

abbrev Bank := BitVec 16 → BitVec 16

def Bank.read (bank : Bank) (address count : Nat) : List Nat :=
  (List.range count).map fun i => (bank (BitVec.ofNat 16 (address + i))).toNat

def Bank.store (bank : Bank) (address : Nat) (values : List Nat) : Bank := fun a =>
  if address ≤ a.toNat ∧ a.toNat < address + values.length then
    BitVec.ofNat 16 (values.getD (a.toNat - address) 0)
  else bank a

structure Device where
  slaveId : UInt8
  bank : Bank

def Device.store (device : Device) (address : Nat) (values : List Nat) : Device :=
  { device with bank := device.bank.store address values }

def exceptionReply (slaveId function code : UInt8) : Bytes :=
  withCrc [slaveId, function ||| 0x80, code]

def Device.readReply (device : Device) (request : ReadRequestFrame) : Bytes :=
  if request.functionCode ≠ 0x03 then exceptionReply device.slaveId request.functionCode 1
  else if request.count = 0 ∨ 125 < request.count then exceptionReply device.slaveId 0x03 3
  else if 65536 < request.address + request.count then exceptionReply device.slaveId 0x03 2
  else
    withCrc ([device.slaveId, 0x03, byteOf (request.count * 2)] ++
      (device.bank.read request.address request.count).flatMap fun (n : Nat) => wordBytes n)

/-- Both writes are acknowledged with the first six bytes of their request. -/
def Device.write (device : Device) (request : WriteRequestFrame) (frame : Bytes) : Bytes × Device :=
  if request.values = [] ∨ 123 < request.values.length then
    (exceptionReply device.slaveId request.functionCode 3, device)
  else if 65536 < request.address + request.values.length then
    (exceptionReply device.slaveId request.functionCode 2, device)
  else (withCrc (frame.take 6), device.store request.address request.values)

def Device.receive (device : Device) (frame : Bytes) : Option Bytes × Device :=
  match decodeReadRequest frame, decodeWriteRequest frame with
  | some request, _ =>
    if request.slaveId ≠ device.slaveId then (none, device)
    else (some (device.readReply request), device)
  | none, some request =>
    if request.slaveId ≠ device.slaveId then (none, device)
    else ((device.write request frame).map some id)
  | none, none => (none, device)

structure Wire where
  device : Device
  writes : List Bytes

def Device.outcome (device : Device) (request : Bytes) : Outcome :=
  match (device.receive request).1 with
  | some response => .answer response
  | none => .timeout

/-- `read_holding`. A read leaves the device as it is, so every attempt is answered alike. -/
def readHolding (slaveId : UInt8) (address : Int) (count : Nat) (device : Device) :
    Except ReadError (List Nat) :=
  let call : ReadCall := ⟨slaveId, (address % 65536).toNat, count, 0x03⟩
  (readRegisters call fun _ =>
    match call.buildReadRequest with
    | .ok request => device.outcome request
    | .error _ => .timeout).result

def sendWrite (request : Bytes) (wire : Wire) : Except WriteError Bytes × Wire :=
  let after : Wire := ⟨(wire.device.receive request).2, wire.writes ++ [request]⟩
  match (wire.device.receive request).1 with
  | some response => (.ok response, after)
  | none => (.error (.modbus "request_timeout"), after)

def writeHolding (slaveId : UInt8) (address : Int) (values : List Int) (wire : Wire) :
    Except WriteError Unit × Wire :=
  match buildWriteMultipleRequest slaveId address values with
  | .error error => (.error error, wire)
  | .ok request =>
    match sendWrite request wire with
    | (.error error, after) => (.error error, after)
    | (.ok response, after) =>
      (parseWriteMultipleResponse response slaveId address values.length, after)

def writeSingleHolding (slaveId : UInt8) (address value : Int) (wire : Wire) :
    Except WriteError Nat × Wire :=
  match sendWrite (buildWriteSingleRequest slaveId address value) wire with
  | (.error error, after) => (.error error, after)
  | (.ok response, after) => (parseWriteSingleResponse response slaveId address, after)

def cellsAt : Int → List Int → List (Int × Int)
  | _, [] => []
  | address, value :: rest => (address, value) :: cellsAt (address + 1) rest

def frameCells (frame : Bytes) : List (Int × Int) :=
  match decodeWriteRequest frame with
  | some request => cellsAt request.address (request.values.map Int.ofNat)
  | none => []

def cells (writes : List Bytes) : List (Int × Int) := writes.flatMap frameCells

theorem store_outside (bank : Bank) (address : Nat) (values : List Nat) {a : BitVec 16}
    (outside : ¬ (address ≤ a.toNat ∧ a.toNat < address + values.length)) :
    bank.store address values a = bank a :=
  if_neg outside

theorem store_inside (bank : Bank) (address : Nat) (values : List Nat)
    (sixteen : ∀ v ∈ values, v < 65536) (fits : address + values.length ≤ 65536) {i : Nat}
    (inside : i < values.length) :
    (bank.store address values (BitVec.ofNat 16 (address + i))).toNat = values.getD i 0 := by
  have small := sixteen _ (List.getElem_mem inside)
  have place : (BitVec.ofNat 16 (address + i)).toNat = address + i := by
    rw [BitVec.toNat_ofNat]
    omega
  unfold Bank.store
  rw [if_pos (by omega), place, Nat.add_sub_cancel_left, BitVec.toNat_ofNat,
    List.getD_eq_getElem?_getD, List.getElem?_eq_getElem inside, Option.getD_some]
  omega

theorem decodeRead_of_write {frame : Bytes} {request : WriteRequestFrame}
    (decoded : decodeWriteRequest frame = some request) : decodeReadRequest frame = none := by
  have function : frame.getD 1 0 = 0x06 ∨ frame.getD 1 0 = 0x10 := by
    by_cases six : frame.getD 1 0 = 0x06
    · exact Or.inl six
    · right
      by_contra other
      have single : ¬ (frame.getD 1 0 = 0x06 ∧ frame.length = 8) := fun both => six both.1
      have multiple : frame.getD 1 0 ≠ 0x10 ∨ frame.length < 9 := Or.inl other
      unfold decodeWriteRequest at decoded
      rw [if_neg single, if_pos multiple] at decoded
      split at decoded
      · cases decoded
      · split at decoded
        · cases decoded
        · cases decoded
  unfold decodeReadRequest
  split
  · rfl
  · rw [if_pos]
    rcases function with six | sixteen
    · rw [six]
      decide
    · rw [sixteen]
      decide

theorem receive_write {device : Device} {frame : Bytes} {request : WriteRequestFrame}
    (decoded : decodeWriteRequest frame = some request) (mine : request.slaveId = device.slaveId) :
    device.receive frame =
      (some (device.write request frame).1, (device.write request frame).2) := by
  unfold Device.receive
  rw [decodeRead_of_write decoded, decoded]
  dsimp only
  rw [if_neg (not_not.mpr mine)]
  rfl

theorem parseAcknowledgement_ok {function exception : UInt8} (other : function ≠ exception)
    (slaveId : UInt8) (address n : Int) :
    parseAcknowledgement function exception
        (withCrc ([slaveId, function] ++ wordBytes address ++ wordBytes n)) slaveId address =
      if address % 65536 = address then .ok (n % 65536).toNat
      else .error (.modbus ("unexpected_address:" ++ toString (address % 65536).toNat)) := by
  have crc := crcMatches_withCrc ([slaveId, function] ++ wordBytes address ++ wordBytes n)
  have first := word_wordBytes address
  have second := word_wordBytes n
  generalize shape : withCrc ([slaveId, function] ++ wordBytes address ++ wordBytes n) = frame
    at crc ⊢
  have length : frame.length = 8 := by
    rw [← shape]
    rfl
  have slave : frame.getD 0 0 = slaveId := by
    rw [← shape]
    rfl
  have code : frame.getD 1 0 = function := by
    rw [← shape]
    rfl
  have at_two : wordAt frame 2 = (address % 65536).toNat := by
    have bytes : wordAt frame 2 = word (byteOf (address / 256)) (byteOf address) := by
      rw [← shape]
      rfl
    omega
  have at_four : wordAt frame 4 = (n % 65536).toNat := by
    have bytes : wordAt frame 4 = word (byteOf (n / 256)) (byteOf n) := by
      rw [← shape]
      rfl
    omega
  unfold parseAcknowledgement
  rw [if_neg (by omega), if_neg (not_not.mpr slave), if_neg (by rw [code]; exact other),
    if_neg (not_not.mpr length), if_neg (not_not.mpr code), if_neg (by rw [crc]; simp), at_two,
    at_four]
  by_cases same : address % 65536 = address
  · rw [if_neg (by omega), if_pos same]
  · rw [if_pos (by omega), if_neg same]

theorem parseAcknowledgement_exception (function slaveId code : UInt8) (address : Int) :
    ∃ error, parseAcknowledgement function (function ||| 0x80)
      (exceptionReply slaveId function code) slaveId address = .error error := by
  have crc := crcMatches_withCrc [slaveId, function ||| 0x80, code]
  unfold parseAcknowledgement exceptionReply
  rw [if_neg (by simp), if_neg (by simp [withCrc]), if_pos (by simp [withCrc]),
    if_neg (by rw [crc]; simp)]
  exact ⟨_, rfl⟩

theorem registersOf_bytes (registers : List Nat) (sixteen : ∀ n ∈ registers, n < 65536) :
    registersOf (registers.flatMap fun (n : Nat) => wordBytes n) = registers := by
  have back := registersOf_flatMap (registers.map Int.ofNat) (ofNat_sixteen sixteen)
  rw [List.flatMap_map] at back
  exact List.map_injective_iff.mpr (fun _ _ same => Int.ofNat.inj same) back

section
variable {call : ReadCall} {registers : List Nat}

def registersReply (slaveId function : UInt8) (registers : List Nat) : Bytes :=
  withCrc ([slaveId, function, byteOf (registers.length * 2)] ++
    registers.flatMap fun (n : Nat) => wordBytes n)

theorem registersReply_length (slaveId function : UInt8) (registers : List Nat) :
    (registersReply slaveId function registers).length = 3 + registers.length * 2 + 2 := by
  have bytes := flatMap_wordBytes_length (registers.map Int.ofNat)
  rw [List.flatMap_map, List.length_map] at bytes
  rw [registersReply, withCrc_length, List.length_append]
  change 3 + (registers.flatMap fun (n : Nat) => wordBytes n).length + 2 = _
  exact congrArg (fun size => 3 + size + 2) bytes

theorem isReply_registers (many : registers.length = call.count) (fits : call.count ≤ 127) :
    call.IsReply (registersReply call.slaveId call.function registers) := by
  constructor
  · rw [registersReply_length, many]
    rfl
  · have third : ((registersReply call.slaveId call.function registers).getD 2 0).toNat =
        call.count * 2 := by
      change (byteOf (registers.length * 2)).toNat = call.count * 2
      rw [byteOf_toNat, many]
      omega
    exact decide_eq_true ⟨rfl, rfl, third⟩
  · exact crcMatches_withCrc _

theorem words_registersReply (slaveId function : UInt8) (sixteen : ∀ n ∈ registers, n < 65536) :
    words (registersReply slaveId function registers) = registers := by
  unfold words registersReply
  rw [withCrc_take]
  exact registersOf_bytes registers sixteen

end

section
variable (device : Device) {address count : Nat}

theorem read_sixteen (bank : Bank) {n : Nat} (member : n ∈ bank.read address count) :
    n < 65536 := by
  obtain ⟨i, _, rfl⟩ := List.mem_map.mp member
  exact (bank _).isLt

theorem receive_read (some_register : 1 ≤ count) (fits : count ≤ 125)
    (exist : address + count ≤ 65536) {request : Bytes}
    (built : ReadCall.buildReadRequest ⟨device.slaveId, address, count, 0x03⟩ = .ok request) :
    device.receive request = (some (withCrc ([device.slaveId, 0x03, byteOf (count * 2)] ++
      (device.bank.read address count).flatMap fun (n : Nat) => wordBytes n)), device) := by
  have sent : request = withCrc [device.slaveId, 0x03, lowByte (address / 256), lowByte address,
      lowByte (count / 256), lowByte count] := (Except.ok.inj built).symm
  have crc := crcMatches_withCrc [device.slaveId, 0x03, lowByte (address / 256), lowByte address,
    lowByte (count / 256), lowByte count]
  rw [← sent] at crc
  have length : request.length = 8 := by
    rw [sent]
    rfl
  have function : request.getD 1 0 = 0x03 := by
    rw [sent]
    rfl
  have slave : request.getD 0 0 = device.slaveId := by
    rw [sent]
    rfl
  have at_two : wordAt request 2 = address := by
    have bytes : wordAt request 2 = word (lowByte (address / 256)) (lowByte address) := by
      rw [sent]
      rfl
    rw [bytes, word, lowByte_toNat, lowByte_toNat]
    omega
  have at_four : wordAt request 4 = count := by
    have bytes : wordAt request 4 = word (lowByte (count / 256)) (lowByte count) := by
      rw [sent]
      rfl
    rw [bytes, word, lowByte_toNat, lowByte_toNat]
    omega
  have decoded : decodeReadRequest request = some ⟨device.slaveId, 0x03, address, count⟩ := by
    unfold decodeReadRequest
    rw [if_neg (not_not.mpr length), if_neg (by rw [function]; simp), if_neg (by rw [crc]; simp),
      slave, function, at_two, at_four]
  unfold Device.receive
  rw [decoded]
  dsimp only
  rw [if_neg (by simp), Device.readReply, if_neg (by simp), if_neg (by dsimp only; omega),
    if_neg (by dsimp only; omega)]

theorem readHolding_ok (some_register : 1 ≤ count) (fits : count ≤ 125) (first : Int)
    (exist : first % 65536 + count ≤ 65536) :
    readHolding device.slaveId first count device =
      .ok (device.bank.read (first % 65536).toNat count) := by
  let call : ReadCall := ⟨device.slaveId, (first % 65536).toNat, count, 0x03⟩
  let registers := device.bank.read (first % 65536).toNat count
  let reply := registersReply device.slaveId 0x03 registers
  have valid : call.Valid := ⟨some_register, by change count ≤ 127; omega, Or.inl rfl⟩
  have many : registers.length = call.count := by simp [registers, call, Bank.read]
  have complete : call.IsReply reply := isReply_registers many (by change count ≤ 127; omega)
  have values : words reply = registers :=
    words_registersReply _ _ fun n member => read_sixteen device.bank member
  obtain ⟨request, built⟩ : ∃ request, call.buildReadRequest = .ok request := ⟨_, rfl⟩
  have received := receive_read device some_register fits (by omega) built
  have judged : call.judge [] ([] ++ reply) = .ends (.ok (words reply)) :=
    judge_tail valid complete
  rw [List.nil_append] at judged
  have counted : registers.length = count := many
  have answered : device.outcome request = .answer reply := by
    rw [Device.outcome, received]
    change Outcome.answer _ = .answer (registersReply device.slaveId 0x03 registers)
    rw [registersReply, counted]
  change (readRegisters call fun _ => match call.buildReadRequest with
    | .ok request => device.outcome request
    | .error _ => .timeout).result = _
  unfold readRegisters
  rw [built]
  dsimp only
  rw [maxReadAttempts, attempts, answered]
  dsimp only
  rw [judged, values]

end

section
variable {wire : Wire} {slaveId : UInt8}

theorem sendWrite_eq {request : Bytes} {decodedRequest : WriteRequestFrame}
    (decoded : decodeWriteRequest request = some decodedRequest)
    (mine : decodedRequest.slaveId = wire.device.slaveId) :
    sendWrite request wire = (.ok (wire.device.write decodedRequest request).1,
      ⟨(wire.device.write decodedRequest request).2, wire.writes ++ [request]⟩) := by
  unfold sendWrite
  rw [receive_write decoded mine]

theorem writeSingleHolding_eq (mine : slaveId = wire.device.slaveId) (address value : Int) :
    writeSingleHolding slaveId address value wire =
      (if address % 65536 = address then .ok (value % 65536).toNat
        else .error (.modbus ("unexpected_address:" ++ toString (address % 65536).toNat)),
        ⟨wire.device.store (address % 65536).toNat [(value % 65536).toNat],
          wire.writes ++ [buildWriteSingleRequest slaveId address value]⟩) := by
  have decoded := decode_writeSingle slaveId address value
  have stored : wire.device.write ⟨slaveId, 0x06, (address % 65536).toNat, [(value % 65536).toNat]⟩
      (buildWriteSingleRequest slaveId address value) =
        (withCrc ([slaveId, 0x06] ++ wordBytes address ++ wordBytes value),
          wire.device.store (address % 65536).toNat [(value % 65536).toNat]) := by
    unfold Device.write
    rw [if_neg (by simp), if_neg (by simp only [List.length_singleton]; omega)]
    rfl
  unfold writeSingleHolding
  rw [sendWrite_eq decoded mine, stored]
  dsimp only
  rw [parseWriteSingleResponse, parseAcknowledgement_ok (by decide)]

/-- Words that fit are stored in one request, or refused by the device where the bank ends; of
    others nothing is sent. -/
theorem writeHolding_cases (mine : slaveId = wire.device.slaveId) (address : Int)
    {values : List Int} (some_value : values ≠ []) (short : values.length ≤ 123) :
    (¬ (∀ v ∈ values, 0 ≤ v ∧ v < 65536) ∧
      ∃ error, writeHolding slaveId address values wire = (.error error, wire)) ∨
    ((∀ v ∈ values, 0 ≤ v ∧ v < 65536) ∧ ∃ request,
      decodeWriteRequest request =
        some ⟨slaveId, 0x10, (address % 65536).toNat, values.map Int.toNat⟩ ∧
      ((65536 < address % 65536 + values.length ∧
        ∃ error, writeHolding slaveId address values wire =
          (.error error, ⟨wire.device, wire.writes ++ [request]⟩)) ∨
      (address % 65536 + values.length ≤ 65536 ∧
        ∃ result, (result = .ok () → address % 65536 = address) ∧
          writeHolding slaveId address values wire =
            (result, ⟨wire.device.store (address % 65536).toNat (values.map Int.toNat),
              wire.writes ++ [request]⟩)))) := by
  rcases buildWriteMultiple_cases slaveId address (by omega : values.length * 2 ≤ 255) with
    ⟨outside, error, refused⟩ | ⟨sixteen, built⟩
  · left
    refine ⟨outside, error, ?_⟩
    unfold writeHolding
    rw [refused]
  · right
    have decoded := decode_writeMultiple slaveId address (by omega) sixteen
    refine ⟨sixteen, _, decoded, ?_⟩
    have length : (values.map Int.toNat).length = values.length := List.length_map _
    have positive := List.length_pos_of_ne_nil some_value
    have filled : ¬ (values.map Int.toNat = [] ∨ 123 < (values.map Int.toNat).length) := by
      intro either
      rcases either with empty | long
      · exact some_value (List.map_eq_nil_iff.mp empty)
      · omega
    by_cases fits : address % 65536 + values.length ≤ 65536
    · right
      refine ⟨fits, ?_⟩
      unfold writeHolding
      rw [built]
      dsimp only
      rw [sendWrite_eq decoded mine]
      unfold Device.write
      rw [if_neg filled, if_neg (by dsimp only; omega)]
      dsimp only
      have start : List.take 6 (withCrc ([slaveId, 0x10] ++ wordBytes address ++
          wordBytes values.length ++ [byteOf (values.length * 2)] ++ values.flatMap wordBytes)) =
          [slaveId, 0x10] ++ wordBytes address ++ wordBytes values.length := rfl
      rw [start, parseWriteMultipleResponse, parseAcknowledgement_ok (by decide)]
      refine ⟨_, ?_, rfl⟩
      intro returned
      by_contra other
      rw [if_neg other] at returned
      cases returned
    · left
      refine ⟨by omega, ?_⟩
      unfold writeHolding
      rw [built]
      dsimp only
      rw [sendWrite_eq decoded mine]
      unfold Device.write
      rw [if_neg filled, if_pos (by dsimp only; omega)]
      dsimp only
      obtain ⟨error, refused⟩ : ∃ error, parseAcknowledgement 0x10 0x90
          (exceptionReply wire.device.slaveId 0x10 2) wire.device.slaveId address = .error error :=
        parseAcknowledgement_exception 0x10 wire.device.slaveId 2 address
      rw [parseWriteMultipleResponse, mine, refused]
      exact ⟨error, rfl⟩

end
end RegisterBank
