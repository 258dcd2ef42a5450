import EybondLocal.Payload.RegisterBank

/-!
The register requests of `payload/modbus.py`, built and decoded. What a decoder accepts is what the
builder of its fields makes, byte for byte, and no bytes are both a read and a write request.
-/
namespace ModbusWrite
open BinaryFraming ModbusRead

theorem lowByte_word (high low : UInt8) : lowByte (word high low) = low := by
  apply UInt8.toNat_inj.mp
  have small := low.toNat_lt
  rw [lowByte_toNat, word]
  omega

theorem lowByte_word_high (high low : UInt8) : lowByte (word high low / 256) = high := by
  apply UInt8.toNat_inj.mp
  have small := low.toNat_lt
  have small' := high.toNat_lt
  rw [lowByte_toNat, word]
  omega

theorem word_lowByte {n : Nat} (sixteen : n < 65536) : word (lowByte (n / 256)) (lowByte n) = n := by
  rw [word, lowByte_toNat, lowByte_toNat]
  omega

theorem word_lt (high low : UInt8) : word high low < 65536 := by
  have small := low.toNat_lt
  have small' := high.toNat_lt
  rw [word]
  omega

theorem wordBytes_natCast (n : Nat) : wordBytes n = [lowByte (n / 256), lowByte n] := by
  have bytes : ∀ m : Nat, byteOf (m : Int) = lowByte m := by
    intro m
    apply UInt8.toNat_inj.mp
    rw [byteOf_toNat, lowByte_toNat]
    omega
  have high := bytes (n / 256)
  rw [Int.natCast_ediv] at high
  rw [wordBytes, bytes n]
  exact congrArg (fun b => [b, lowByte n]) high

theorem wordBytes_word (high low : UInt8) : wordBytes (word high low : Nat) = [high, low] := by
  rw [wordBytes_natCast, lowByte_word_high, lowByte_word]

theorem exists_word_of_even {data : Bytes} {n : Nat} (even : data.length = (n + 1) * 2) :
    ∃ high low rest, data = high :: low :: rest ∧ rest.length = n * 2 := by
  rw [Nat.succ_mul] at even
  obtain ⟨high, tail, rfl⟩ := List.exists_cons_of_length_eq_add_one even
  obtain ⟨low, rest, rfl⟩ := List.exists_cons_of_length_eq_add_one (Nat.succ.inj even)
  exact ⟨high, low, rest, rfl, Nat.succ.inj (Nat.succ.inj even)⟩

theorem flatMap_registersOf (n : Nat) {data : Bytes} (even : data.length = n * 2) :
    (registersOf data).flatMap (fun (v : Nat) => wordBytes v) = data := by
  induction n generalizing data with
  | zero =>
    rw [List.eq_nil_of_length_eq_zero (by omega : data.length = 0)]
    rfl
  | succ n ih =>
    obtain ⟨high, low, rest, rfl, later⟩ := exists_word_of_even even
    rw [registersOf, List.flatMap_cons, ih later, wordBytes_word]
    rfl

theorem registersOf_lt {data : Bytes} {n : Nat} (even : data.length = n * 2) :
    ∀ v ∈ registersOf data, v < 65536 := by
  induction n generalizing data with
  | zero =>
    rw [List.eq_nil_of_length_eq_zero (by omega : data.length = 0)]
    simp [registersOf]
  | succ n ih =>
    obtain ⟨high, low, rest, rfl, later⟩ := exists_word_of_even even
    exact List.forall_mem_cons.mpr ⟨word_lt high low, ih later⟩

theorem withCrc_of_crcMatches {frame : Bytes} (long : 2 ≤ frame.length)
    (crc : crcMatches frame = true) : withCrc (frame.take (frame.length - 2)) = frame := by
  have split := List.take_append_drop (frame.length - 2) frame
  have two : (frame.drop (frame.length - 2)).length = 2 := by
    rw [List.length_drop]
    omega
  obtain ⟨low, high, tail⟩ := List.length_eq_two.mp two
  rw [crcMatches, tail, beq_iff_eq, littleWord] at crc
  rw [withCrc, ← crc, lowByte_word, lowByte_word_high]
  rw [tail] at split
  exact split

theorem eight_bytes {frame : Bytes} (length : frame.length = 8) :
    ∃ b0 b1 b2 b3 b4 b5 b6 b7 : UInt8, frame = [b0, b1, b2, b3, b4, b5, b6, b7] := by
  match frame, length with
  | [b0, b1, b2, b3, b4, b5, b6, b7], _ => exact ⟨b0, b1, b2, b3, b4, b5, b6, b7, rfl⟩

theorem seven_bytes {frame : Bytes} (length : 7 ≤ frame.length) :
    ∃ (b0 b1 b2 b3 b4 b5 b6 : UInt8) (rest : Bytes),
      frame = b0 :: b1 :: b2 :: b3 :: b4 :: b5 :: b6 :: rest := by
  match frame, length with
  | b0 :: b1 :: b2 :: b3 :: b4 :: b5 :: b6 :: rest, _ =>
    exact ⟨b0, b1, b2, b3, b4, b5, b6, rest, rfl⟩

section
variable {slaveId function : UInt8} {address count : Nat}

theorem buildRead_eq (known : function = 0x03 ∨ function = 0x04) :
    ReadCall.buildReadRequest ⟨slaveId, address, count, function⟩ =
      .ok (withCrc [slaveId, function, lowByte (address / 256), lowByte address,
        lowByte (count / 256), lowByte count]) := by
  have supported : readFunctions.contains function = true := by
    rcases known with three | four
    · rw [three]
      decide
    · rw [four]
      decide
  unfold ReadCall.buildReadRequest
  rw [if_neg (not_not_intro supported)]
  rfl

theorem decodeRead_buildRead (known : function = 0x03 ∨ function = 0x04)
    (addressFits : address < 65536) (countFits : count < 65536) :
    ∃ frame, ReadCall.buildReadRequest ⟨slaveId, address, count, function⟩ = .ok frame ∧
      decodeReadRequest frame = some ⟨slaveId, function, address, count⟩ := by
  refine ⟨_, buildRead_eq known, ?_⟩
  have crc := crcMatches_withCrc [slaveId, function, lowByte (address / 256), lowByte address,
    lowByte (count / 256), lowByte count]
  unfold decodeReadRequest
  rw [if_neg (by simp), if_neg (by
    rintro ⟨notThree, notFour⟩
    rcases known with three | four
    · exact notThree three
    · exact notFour four), if_neg (by rw [crc]; simp)]
  change some (ReadRequestFrame.mk slaveId function
    (word (lowByte (address / 256)) (lowByte address))
    (word (lowByte (count / 256)) (lowByte count))) = _
  rw [word_lowByte addressFits, word_lowByte countFits]

theorem buildRead_decodeRead {frame : Bytes} {request : ReadRequestFrame}
    (decoded : decodeReadRequest frame = some request) :
    ReadCall.buildReadRequest
      ⟨request.slaveId, request.address, request.count, request.functionCode⟩ = .ok frame := by
  unfold decodeReadRequest at decoded
  split at decoded
  · cases decoded
  · rename_i length
    rw [not_not] at length
    split at decoded
    · cases decoded
    · rename_i known
      split at decoded
      · cases decoded
      · rename_i crc
        cases decoded
        have whole := withCrc_of_crcMatches (by omega : 2 ≤ frame.length) (by simpa using crc)
        obtain ⟨b0, b1, b2, b3, b4, b5, b6, b7, rfl⟩ := eight_bytes length
        have function : b1 = 0x03 ∨ b1 = 0x04 := by
          by_contra other
          exact known (not_or.mp other)
        change ReadCall.buildReadRequest ⟨b0, word b2 b3, word b4 b5, b1⟩ = _
        rw [buildRead_eq function, lowByte_word, lowByte_word_high, lowByte_word,
          lowByte_word_high]
        exact congrArg Except.ok whole

end

def WriteRequestFrame.Rebuilds (request : WriteRequestFrame) (frame : Bytes) : Prop :=
  (request.functionCode = 0x06 ∧ ∃ value, request.values = [value] ∧
    buildWriteSingleRequest request.slaveId request.address value = frame) ∨
  (request.functionCode = 0x10 ∧
    buildWriteMultipleRequest request.slaveId request.address (request.values.map Int.ofNat) =
      .ok frame)

theorem decodeWrite_single (slaveId : UInt8) {address value : Nat} (addressFits : address < 65536)
    (valueFits : value < 65536) :
    decodeWriteRequest (buildWriteSingleRequest slaveId address value) =
      some ⟨slaveId, 0x06, address, [value]⟩ := by
  rw [decode_writeSingle]
  have addressWord : ((address : Int) % 65536).toNat = address := by omega
  have valueWord : ((value : Int) % 65536).toNat = value := by omega
  rw [addressWord, valueWord]

theorem decodeWrite_multiple (slaveId : UInt8) {address : Nat} {values : List Nat}
    (addressFits : address < 65536) (short : values.length ≤ 127)
    (sixteen : ∀ v ∈ values, v < 65536) :
    ∃ frame, buildWriteMultipleRequest slaveId address (values.map Int.ofNat) = .ok frame ∧
      decodeWriteRequest frame = some ⟨slaveId, 0x10, address, values⟩ := by
  have words := ofNat_sixteen sixteen
  have fits : (values.map Int.ofNat).length * 2 ≤ 255 := by
    rw [List.length_map]
    omega
  have decoded := decode_writeMultiple slaveId (address : Int) fits words
  have addressWord : ((address : Int) % 65536).toNat = address := by omega
  rcases buildWriteMultiple_cases slaveId (address : Int) fits with ⟨outside, _⟩ | ⟨_, built⟩
  · exact absurd words outside
  · refine ⟨_, built, ?_⟩
    rw [decoded, addressWord, List.map_map]
    exact congrArg (fun back => some (WriteRequestFrame.mk slaveId 0x10 address back))
      (List.map_id values)

/-- What a multiple write is decoded to is built to the bytes it was decoded from. -/
theorem buildMultiple_of_layout {slaveId b2 b3 b4 b5 b6 : UInt8} {data : Bytes}
    (count : b6.toNat = word b4 b5 * 2) (length : data.length = b6.toNat) :
    buildWriteMultipleRequest slaveId (word b2 b3 : Nat) ((registersOf data).map Int.ofNat) =
      .ok (withCrc (slaveId :: 0x10 :: b2 :: b3 :: b4 :: b5 :: b6 :: data)) := by
  have even : data.length = word b4 b5 * 2 := by omega
  have registers := registersOf_length data (word b4 b5) even
  have byte := b6.toNat_lt
  have words := ofNat_sixteen (registersOf_lt even)
  have fits : ((registersOf data).map Int.ofNat).length * 2 ≤ 255 := by
    rw [List.length_map]
    omega
  have bytes : ((registersOf data).map Int.ofNat).flatMap wordBytes = data := by
    rw [List.flatMap_map]
    exact flatMap_registersOf (word b4 b5) even
  have countByte : byteOf (((registersOf data).map Int.ofNat).length * 2) = b6 := by
    apply UInt8.toNat_inj.mp
    rw [byteOf_toNat, List.length_map, registers]
    omega
  rcases buildWriteMultiple_cases slaveId (word b2 b3 : Nat) fits with ⟨outside, _⟩ | ⟨_, built⟩
  · exact absurd words outside
  · rw [built, countByte, bytes, List.length_map, registers, wordBytes_word, wordBytes_word]
    rfl

theorem rebuilds_of_decodeWrite {frame : Bytes} {request : WriteRequestFrame}
    (decoded : decodeWriteRequest frame = some request) : request.Rebuilds frame := by
  unfold decodeWriteRequest at decoded
  split at decoded
  · cases decoded
  · rename_i long
    split at decoded
    · cases decoded
    · rename_i crc
      have whole := withCrc_of_crcMatches (by omega : 2 ≤ frame.length) (by simpa using crc)
      split at decoded
      · rename_i single
        obtain ⟨function, length⟩ := single
        cases decoded
        left
        refine ⟨function, _, rfl, ?_⟩
        obtain ⟨b0, b1, b2, b3, b4, b5, b6, b7, rfl⟩ := eight_bytes length
        have six : b1 = 0x06 := function
        change buildWriteSingleRequest b0 (word b2 b3 : Nat) (word b4 b5 : Nat) = _
        rw [buildWriteSingleRequest, wordBytes_word, wordBytes_word, ← six]
        exact whole
      · split at decoded
        · cases decoded
        · rename_i known
          obtain ⟨function, longer⟩ := not_or.mp known
          rw [not_not] at function
          split at decoded
          · cases decoded
          · rename_i count
            rw [not_not] at count
            split at decoded
            · cases decoded
            · rename_i length
              rw [not_not] at length
              cases decoded
              right
              refine ⟨function, ?_⟩
              obtain ⟨b0, b1, b2, b3, b4, b5, b6, rest, rfl⟩ :=
                seven_bytes (by omega : 7 ≤ frame.length)
              have sixteen : b1 = 0x10 := function
              have bytes : b6.toNat = word b4 b5 * 2 := count
              have size : (b0 :: b1 :: b2 :: b3 :: b4 :: b5 :: b6 :: rest).length - 2 =
                  rest.length - 2 + 7 := by
                simp only [List.length_cons] at longer ⊢
                omega
              have data : (rest.take (rest.length - 2)).length = b6.toNat := by
                have total : (b0 :: b1 :: b2 :: b3 :: b4 :: b5 :: b6 :: rest).length =
                    9 + b6.toNat := length
                simp only [List.length_cons] at total
                rw [List.length_take]
                omega
              rw [size] at whole ⊢
              change buildWriteMultipleRequest b0 (word b2 b3 : Nat)
                ((registersOf (rest.take (rest.length - 2))).map Int.ofNat) = _
              rw [buildMultiple_of_layout bytes data, ← sixteen]
              exact congrArg Except.ok whole

/-- Requests survive building and decoding, accepted bytes survive decoding and building, and no
    bytes are accepted as a read and as a write. -/
theorem request_codec :
    (∀ (slaveId function : UInt8) (address count : Nat), function = 0x03 ∨ function = 0x04 →
      address < 65536 → count < 65536 →
      ∃ frame, ReadCall.buildReadRequest ⟨slaveId, address, count, function⟩ = .ok frame ∧
        decodeReadRequest frame = some ⟨slaveId, function, address, count⟩) ∧
    (∀ (slaveId : UInt8) (address value : Nat), address < 65536 → value < 65536 →
      decodeWriteRequest (buildWriteSingleRequest slaveId address value) =
        some ⟨slaveId, 0x06, address, [value]⟩) ∧
    (∀ (slaveId : UInt8) (address : Nat) (values : List Nat), address < 65536 →
      values.length ≤ 127 → (∀ v ∈ values, v < 65536) →
      ∃ frame, buildWriteMultipleRequest slaveId address (values.map Int.ofNat) = .ok frame ∧
        decodeWriteRequest frame = some ⟨slaveId, 0x10, address, values⟩) ∧
    (∀ (frame : Bytes) (request : ReadRequestFrame), decodeReadRequest frame = some request →
      ReadCall.buildReadRequest
        ⟨request.slaveId, request.address, request.count, request.functionCode⟩ = .ok frame) ∧
    (∀ (frame : Bytes) (request : WriteRequestFrame), decodeWriteRequest frame = some request →
      request.Rebuilds frame) ∧
    ∀ frame : Bytes, decodeReadRequest frame = none ∨ decodeWriteRequest frame = none := by
  refine ⟨?_, ?_, ?_, ?_, ?_, ?_⟩
  · intro slaveId function address count known addressFits countFits
    exact decodeRead_buildRead known addressFits countFits
  · intro slaveId address value addressFits valueFits
    exact decodeWrite_single slaveId addressFits valueFits
  · intro slaveId address values addressFits short sixteen
    exact decodeWrite_multiple slaveId addressFits short sixteen
  · intro frame request decoded
    exact buildRead_decodeRead decoded
  · intro frame request decoded
    exact rebuilds_of_decodeWrite decoded
  · intro frame
    cases decoded : decodeWriteRequest frame with
    | none => exact Or.inr rfl
    | some request => exact Or.inl (RegisterBank.decodeRead_of_write decoded)

end ModbusWrite
