import EybondLocal.Transport.ReadLoop

/-!
A stream of EyeBond frames and bare Modbus RTU read replies, all of it available: the read
loop hands on the frames and skips the replies. A bare reply whose first bytes also form an
accepted header is left alone when that header claims no more bytes than the reply has.
-/
namespace ReadLoop
open BinaryFraming PrefixedReader

structure BareReply where
  address : UInt8
  function : UInt8
  data : Bytes
  read : function = 3 ∨ function = 4
  even : data.length % 2 = 0
  least : 2 ≤ data.length
  most : data.length ≤ 252

def BareReply.body (reply : BareReply) : Bytes :=
  reply.address :: reply.function :: UInt8.ofNat reply.data.length :: reply.data

def crcBytes (crc : BitVec 16) : Bytes :=
  [UInt8.ofNat (crc.toNat % 256), UInt8.ofNat (crc.toNat / 256)]

def BareReply.wire (reply : BareReply) : Bytes :=
  reply.body ++ crcBytes (modbusCrc16 reply.body)

structure EybondFrame where
  header : EybondHeader
  headerBytes : Bytes
  payload : Bytes
  long : headerBytes.length = headerSize
  decoded : decodeHeader headerBytes = some header
  accepted : runtimeEybondHeaderError header = ""
  complete : (payload.length : Int) = header.payloadLen
  notAt : (headerBytes ++ payload).take 3 ≠ atMarker
  notReply : ∀ reply : BareReply, ¬ reply.wire <+: headerBytes ++ payload

def EybondFrame.wire (frame : EybondFrame) : Bytes := frame.headerBytes ++ frame.payload

/-- The first bytes of the reply are an accepted header whose frame is no longer than it. -/
def BareReply.claimsNoLongerFrame (reply : BareReply) : Bool :=
  match decodeHeader reply.wire with
  | none => false
  | some header =>
    runtimeEybondHeaderError header == "" &&
      decide ((headerSize : Int) + header.payloadLen ≤ reply.wire.length)

theorem uint8_toNat_ofNat {n : Nat} (small : n < 256) : (UInt8.ofNat n).toNat = n := by
  rw [UInt8.toNat_ofNat']
  exact Nat.mod_eq_of_lt small

theorem littleWord_pair (low high : UInt8) :
    littleWord [low, high] = high.toNat * 256 + low.toNat := rfl

theorem littleWord_crcBytes (crc : BitVec 16) : littleWord (crcBytes crc) = crc.toNat := by
  have bound := crc.isLt
  rw [crcBytes, littleWord_pair, uint8_toNat_ofNat (by omega), uint8_toNat_ofNat (by omega)]
  omega

theorem crcBytes_of_littleWord {crc : BitVec 16} {low high : UInt8}
    (h : crc.toNat = littleWord [low, high]) : crcBytes crc = [low, high] := by
  have lowBound := low.toNat_lt
  have highBound := high.toNat_lt
  rw [littleWord_pair] at h
  unfold crcBytes
  have lowPart : crc.toNat % 256 = low.toNat := by omega
  have highPart : crc.toNat / 256 = high.toNat := by omega
  rw [lowPart, highPart, UInt8.ofNat_toNat, UInt8.ofNat_toNat]

section Reply
variable (reply : BareReply)

theorem bareReply_length : reply.wire.length = 5 + reply.data.length := by
  simp only [BareReply.wire, BareReply.body, crcBytes, List.length_append, List.length_cons,
    List.length_nil]
  omega

theorem bareReply_crc : modbusRtuCrcIsValid reply.wire = true := by
  have least := reply.least
  have bodyLength : reply.wire.length - 2 = reply.body.length := by
    rw [BareReply.wire, List.length_append]
    rfl
  have notShort : ¬ reply.wire.length < 4 := by
    rw [bareReply_length]
    omega
  unfold modbusRtuCrcIsValid
  rw [if_neg notShort, bodyLength, BareReply.wire, List.take_left, List.drop_left,
    littleWord_crcBytes, beq_self_eq_true]

/-- Any bytes that begin with the reply's first three announce the reply's length. -/
theorem bareReply_announced (more : Bytes) :
    strayModbusRtuReplyLength
      (reply.address :: reply.function :: UInt8.ofNat reply.data.length :: more) =
        reply.wire.length := by
  have even := reply.even
  have least := reply.least
  have most := reply.most
  have count : (UInt8.ofNat reply.data.length).toNat = reply.data.length :=
    uint8_toNat_ofNat (by omega)
  have shaped : looksLikeStrayModbusRtuReply
      [reply.address, reply.function, UInt8.ofNat reply.data.length] = true := by
    unfold looksLikeStrayModbusRtuReply modbusRtuReadReplyFcodes modbusRtuMaxPlausibleByteCount
    rcases reply.read with read | read <;>
      simp [read, UInt8.lt_iff_toNat_lt, UInt8.le_iff_toNat_le, count] <;> omega
  have announced : ¬ ((UInt8.ofNat reply.data.length).toNat % 2 ≠ 0 ∨
      looksLikeStrayModbusRtuReply
        [reply.address, reply.function, UInt8.ofNat reply.data.length] = false) := by
    rw [count, shaped]
    simp [even]
  rw [bareReply_length]
  unfold strayModbusRtuReplyLength
  refine (if_neg announced).trans ?_
  omega

end Reply

/-- A CRC-verified candidate ends in the two bytes of its own checksum. -/
theorem crcBytes_of_valid {body : Bytes} {low high : UInt8}
    (crc : modbusRtuCrcIsValid (body ++ [low, high]) = true) :
    crcBytes (modbusCrc16 body) = [low, high] := by
  have bodyLength : (body ++ [low, high]).length - 2 = body.length := by simp
  unfold modbusRtuCrcIsValid at crc
  split at crc
  · cases crc
  · rw [bodyLength, List.take_left, List.drop_left, beq_iff_eq] at crc
    exact crcBytes_of_littleWord crc

/-- Bytes of the announced length whose CRC verifies are a bare reply. -/
theorem bareReply_of_announced {bytes : Bytes}
    (announced : 0 < strayModbusRtuReplyLength bytes)
    (available : strayModbusRtuReplyLength bytes ≤ bytes.length)
    (crc : modbusRtuCrcIsValid (bytes.take (strayModbusRtuReplyLength bytes)) = true) :
    ∃ reply : BareReply, reply.wire = bytes.take (strayModbusRtuReplyLength bytes) := by
  match bytes, announced, available, crc with
  | address :: function :: count :: more, announced, available, crc =>
    have shape : ¬ (count.toNat % 2 ≠ 0 ∨
        looksLikeStrayModbusRtuReply [address, function, count] = false) := by
      intro bad
      have zero : strayModbusRtuReplyLength (address :: function :: count :: more) = 0 :=
        if_pos bad
      omega
    have length : strayModbusRtuReplyLength (address :: function :: count :: more) =
        3 + count.toNat + 2 := if_neg shape
    rw [length] at available crc ⊢
    obtain ⟨even, shaped⟩ := not_or.mp shape
    simp only [looksLikeStrayModbusRtuReply, modbusRtuReadReplyFcodes,
      modbusRtuMaxPlausibleByteCount, Bool.not_eq_false, Bool.and_eq_true, decide_eq_true_eq,
      UInt8.lt_iff_toNat_lt, UInt8.le_iff_toNat_le, List.contains_iff_mem, List.mem_cons,
      List.not_mem_nil, or_false] at shaped
    obtain ⟨read, positive, most⟩ := shaped
    simp only [List.length_cons] at available
    obtain ⟨data, low, high, rest, rfl, dataLength⟩ :
        ∃ data low high rest, more = data ++ low :: high :: rest ∧ data.length = count.toNat := by
      match cut : more.drop count.toNat with
      | [] => 
        have := congrArg List.length cut
        rw [List.length_drop, List.length_nil] at this
        omega
      | [_] =>
        have := congrArg List.length cut
        rw [List.length_drop, List.length_singleton] at this
        omega
      | low :: high :: rest =>
        refine ⟨more.take count.toNat, low, high, rest, ?_, by rw [List.length_take]; omega⟩
        rw [← cut, List.take_append_drop]
    have taken : (address :: function :: count :: (data ++ low :: high :: rest)).take
        (3 + count.toNat + 2) = address :: function :: count :: data ++ [low, high] := by
      have split : address :: function :: count :: (data ++ low :: high :: rest) =
          (address :: function :: count :: data ++ [low, high]) ++ rest := by simp
      rw [split]
      apply List.take_left'
      simp only [List.length_append, List.length_cons, List.length_nil]
      omega
    rw [taken] at crc ⊢
    refine ⟨⟨address, function, data, read, by omega, ?_, ?_⟩, ?_⟩
    · have : count.toNat ≠ 0 := by simpa using positive.ne'
      omega
    · rw [dataLength]
      exact most
    · have body : UInt8.ofNat data.length = count := by rw [dataLength, UInt8.ofNat_toNat]
      unfold BareReply.wire BareReply.body
      rw [body, crcBytes_of_valid crc]

structure Still (reader : Reader) : Prop where
  coming : reader.coming = []
  schedule : reader.schedule = []

theorem still_unread {reader : Reader} (still : Still reader) (data : Bytes) :
    Still (reader.unread data) := ⟨still.coming, still.schedule⟩

theorem still_read {reader : Reader} {data rest : Bytes} (still : Still reader) (bounded : Bool)
    (pending : reader.pending = data ++ rest) :
    ∃ after, reader.readexactly bounded data.length = .bytes data after ∧ Still after ∧
      after.pending = rest := by
  have completed : ∃ got after, reader.readexactly bounded data.length = .bytes got after ∧
      Still after := by
    unfold Reader.readexactly
    split
    · exact ⟨_, _, rfl, still.coming, still.schedule⟩
    · have enough : data.length - reader.buffer.length ≤ reader.arrived.length := by
        have length := congrArg List.length pending
        rw [Reader.pending, still.coming] at length
        simp only [List.flatten_nil, List.append_nil, List.length_append] at length
        omega
      unfold streamReadexactly
      rw [if_pos enough]
      exact ⟨_, _, rfl, still.coming, still.schedule⟩
  obtain ⟨got, after, read, stillAfter⟩ := completed
  obtain ⟨split, size⟩ := readexactly_bytes read
  obtain ⟨rfl, rfl⟩ := List.append_inj (split.symm.trans pending) size
  exact ⟨after, read, stillAfter, rfl⟩

theorem still_eof {reader : Reader} {size : Nat} (still : Still reader) (bounded : Bool)
    (short : reader.pending.length < size) : reader.readexactly bounded size = .eof := by
  rw [Reader.pending, still.coming] at short
  simp only [List.flatten_nil, List.append_nil, List.length_append] at short
  have waits : ¬ size - reader.buffer.length ≤ reader.arrived.length := by omega
  have stream : streamReadexactly bounded (size - reader.buffer.length) reader.coming
      reader.arrived reader.schedule = .eof := by
    unfold streamReadexactly
    rw [if_neg waits, still.coming, still.schedule]
    rfl
  unfold Reader.readexactly
  rw [if_neg (by omega), stream]

/-- The first three bytes are read, and they do not start an AT line. -/
theorem iteration_framed (state : LoopState) {reader : Reader} {b0 b1 b2 : UInt8} {rest : Bytes}
    (still : Still reader) (pending : reader.pending = b0 :: b1 :: b2 :: rest)
    (notAt : [b0, b1, b2] ≠ atMarker) :
    ∃ after, iteration {} state reader = framedIteration state [b0, b1, b2] after ∧
      Still after ∧ after.pending = rest := by
  have firstSplit : reader.pending = [b0] ++ b1 :: b2 :: rest := pending
  obtain ⟨one, readOne, stillOne, pendingOne⟩ := still_read still false firstSplit
  have moreSplit : one.pending = [b1, b2] ++ rest := pendingOne
  obtain ⟨after, readTwo, stillAfter, pendingAfter⟩ := still_read stillOne true moreSplit
  refine ⟨after, ?_, stillAfter, pendingAfter⟩
  simp only [List.length_cons, List.length_nil, Nat.zero_add] at readOne readTwo
  simp only [iteration, readOne, readTwo, awaitRead, List.cons_append, List.nil_append, notAt,
    if_false, Bool.false_eq_true]

/-- Reading on from `seen` up to `size` bytes of an element that is all there. -/
theorem read_candidate {reader : Reader} {seen body rest : Bytes} {size : Nat}
    (still : Still reader) (pending : reader.pending = body ++ rest)
    (covered : seen.length ≤ size) (available : size ≤ (seen ++ body).length) :
    ∃ tail after, reader.readexactly true (size - seen.length) = .bytes tail after ∧
      Still after ∧ seen ++ tail = (seen ++ body).take size ∧
      tail ++ after.pending = body ++ rest ∧ after.pending = (seen ++ body).drop size ++ rest := by
  rw [List.length_append] at available
  have tailLength : (body.take (size - seen.length)).length = size - seen.length := by
    rw [List.length_take]
    omega
  have split : reader.pending =
      body.take (size - seen.length) ++ (body.drop (size - seen.length) ++ rest) := by
    rw [pending, ← List.append_assoc, List.take_append_drop]
  obtain ⟨after, read, stillAfter, pendingAfter⟩ := still_read still true split
  rw [tailLength] at read
  refine ⟨_, after, read, stillAfter, ?_, ?_, ?_⟩
  · rw [List.take_append, List.take_of_length_le covered]
  · rw [pendingAfter, ← split, pending]
  · rw [pendingAfter, List.drop_append, List.drop_of_length_le covered, List.nil_append]

theorem readHeader_still (state : LoopState) {reader : Reader} {start body rest : Bytes}
    {header : EybondHeader} (still : Still reader) (pending : reader.pending = body ++ rest)
    (short : start.length ≤ headerSize) (long : headerSize ≤ (start ++ body).length)
    (decoded : decodeHeader (start ++ body) = some header) :
    ∃ after, Still after ∧ after.pending = (start ++ body).drop headerSize ++ rest ∧
      readHeader state start reader =
        if runtimeEybondHeaderError header ≠ "" then
          rejectedHeader state ((start ++ body).take headerSize)
            (runtimeEybondHeaderError header) after
        else acceptedHeader state ((start ++ body).take headerSize) header after := by
  obtain ⟨more, after, read, stillAfter, whole, -, pendingAfter⟩ :=
    read_candidate still pending short long
  have decodedFront : decodeHeader ((start ++ body).take headerSize) = some header := by
    have front : headerSize ≤ ((start ++ body).take headerSize).length := by
      rw [List.length_take]
      omega
    rw [← decodeHeader_append front ((start ++ body).drop headerSize), List.take_append_drop]
    exact decoded
  refine ⟨after, stillAfter, pendingAfter, ?_⟩
  simp only [readHeader, read, awaitRead, whole, decodedFront]

theorem readPayload_still (state : LoopState) {reader : Reader} {header : EybondHeader}
    {payload rest : Bytes} (still : Still reader) (pending : reader.pending = payload ++ rest)
    (complete : (payload.length : Int) = header.payloadLen) :
    ∃ after, readPayload state header reader = handOn state header payload after ∧
      Still after ∧ after.pending = rest := by
  unfold readPayload
  split
  · obtain ⟨after, read, stillAfter, pendingAfter⟩ := still_read still true pending
    refine ⟨after, ?_, stillAfter, pendingAfter⟩
    have size : header.payloadLen.toNat = payload.length := by omega
    simp only [size, read, awaitRead]
  · have empty : payload = [] := List.eq_nil_of_length_eq_zero (by omega)
    subst empty
    exact ⟨reader, rfl, still, pending⟩

theorem announced_take {size : Nat} (covers : 3 ≤ size) (bytes : Bytes) :
    strayModbusRtuReplyLength (bytes.take size) = strayModbusRtuReplyLength bytes := by
  obtain ⟨more, rfl⟩ := Nat.exists_eq_add_of_le' covers
  match bytes with
  | [] => rfl
  | [_] => rfl
  | [_, _] => rfl
  | _ :: _ :: _ :: _ => rfl

theorem announced_least {bytes : Bytes} (announced : 0 < strayModbusRtuReplyLength bytes) :
    5 ≤ strayModbusRtuReplyLength bytes := by
  unfold strayModbusRtuReplyLength at announced ⊢
  split
  · split
    · simp_all
    · omega
  · simp_all

theorem split_three {bytes : Bytes} (long : 3 ≤ bytes.length) :
    ∃ b0 b1 b2 body, bytes = b0 :: b1 :: b2 :: body := by
  match bytes, long with
  | b0 :: b1 :: b2 :: body, _ => exact ⟨b0, b1, b2, body, rfl⟩

section Frame
variable (frame : EybondFrame)

theorem frame_length : frame.wire.length = headerSize + frame.payload.length := by
  rw [EybondFrame.wire, List.length_append, frame.long]

theorem frame_take_header : frame.wire.take headerSize = frame.headerBytes := by
  rw [EybondFrame.wire, ← frame.long, List.take_left]

theorem frame_drop_header : frame.wire.drop headerSize = frame.payload := by
  rw [EybondFrame.wire, ← frame.long, List.drop_left]

theorem frame_candidate_fails (announced : 0 < strayModbusRtuReplyLength frame.wire)
    (available : strayModbusRtuReplyLength frame.wire ≤ frame.wire.length) :
    modbusRtuCrcIsValid (frame.wire.take (strayModbusRtuReplyLength frame.wire)) = false := by
  cases crc : modbusRtuCrcIsValid (frame.wire.take (strayModbusRtuReplyLength frame.wire)) with
  | false => rfl
  | true =>
    obtain ⟨reply, wire⟩ := bareReply_of_announced announced available crc
    refine absurd ?_ (frame.notReply reply)
    rw [wire]
    exact List.take_prefix _ _

theorem frame_framedIteration (state : LoopState) {reader : Reader} {start body rest : Bytes}
    (still : Still reader) (pending : reader.pending = body ++ rest)
    (whole : start ++ body = frame.wire) (three : start.length = 3) :
    ∃ after, Still after ∧ after.pending = body ++ rest ∧
      framedIteration state start reader = readHeader state start after := by
  have wireLength := frame_length frame
  have announced : strayModbusRtuReplyLength start = strayModbusRtuReplyLength frame.wire := by
    rw [← whole, ← announced_take (Nat.le_refl 3) (start ++ body), ← three, List.take_left]
  dsimp only [framedIteration]
  rw [announced]
  split
  · rename_i candidate
    obtain ⟨positive, short⟩ := candidate
    have available : strayModbusRtuReplyLength frame.wire ≤ (start ++ body).length := by
      rw [whole]
      omega
    have covered : start.length ≤ strayModbusRtuReplyLength frame.wire := by
      have least := announced_least positive
      omega
    obtain ⟨tail, after, read, stillAfter, taken, restored, -⟩ :=
      read_candidate still pending covered available
    refine ⟨after.unread tail, still_unread stillAfter tail, ?_, ?_⟩
    · rw [unread_pending, restored]
    · have fails := frame_candidate_fails frame positive (by omega)
      rw [whole] at taken
      simp only [read, awaitRead, taken, fails, Bool.false_eq_true, if_false]
  · exact ⟨reader, still, pending, rfl⟩

theorem frame_acceptedHeader (state : LoopState) {reader : Reader} {rest : Bytes}
    (still : Still reader) (pending : reader.pending = frame.payload ++ rest) :
    ∃ after, Still after ∧ after.pending = frame.payload ++ rest ∧
      acceptedHeader state frame.headerBytes frame.header reader =
        readPayload state frame.header after := by
  have wireLength := frame_length frame
  have complete := frame.complete
  have announced : strayModbusRtuReplyLength frame.headerBytes =
      strayModbusRtuReplyLength frame.wire := by
    rw [← frame_take_header, announced_take (by decide)]
  dsimp only [acceptedHeader]
  rw [announced]
  split
  · rename_i candidate
    obtain ⟨long, shorter⟩ := candidate
    have available : strayModbusRtuReplyLength frame.wire ≤
        (frame.headerBytes ++ frame.payload).length := by
      change _ ≤ frame.wire.length
      omega
    have covered : frame.headerBytes.length ≤ strayModbusRtuReplyLength frame.wire := by
      rw [frame.long]
      omega
    obtain ⟨tail, after, read, stillAfter, taken, restored, -⟩ :=
      read_candidate still pending covered available
    refine ⟨after.unread tail, still_unread stillAfter tail, ?_, ?_⟩
    · rw [unread_pending, restored]
    · have fails := frame_candidate_fails frame (by omega) available
      rw [frame.long] at read
      change _ = frame.wire.take _ at taken
      simp only [read, awaitRead, taken, fails, Bool.false_eq_true, if_false]
  · exact ⟨reader, still, pending, rfl⟩

theorem frame_iteration (state : LoopState) {reader : Reader} {rest : Bytes}
    (still : Still reader) (pending : reader.pending = frame.wire ++ rest) :
    ∃ after, iteration {} state reader = handOn state frame.header frame.payload after ∧
      Still after ∧ after.pending = rest := by
  have wireLength := frame_length frame
  have long : 3 ≤ frame.wire.length := by
    unfold headerSize at wireLength
    omega
  obtain ⟨b0, b1, b2, body, bytes⟩ := split_three long
  have notAt : [b0, b1, b2] ≠ atMarker := by
    intro marker
    apply frame.notAt
    change frame.wire.take 3 = atMarker
    rw [bytes, ← marker]
    rfl
  have pendingBytes : reader.pending = b0 :: b1 :: b2 :: (body ++ rest) := by
    rw [pending, bytes]
    rfl
  have whole : [b0, b1, b2] ++ body = frame.wire := bytes.symm
  obtain ⟨threeRead, toFramed, stillThree, pendingThree⟩ :=
    iteration_framed state still pendingBytes notAt
  obtain ⟨atHeader, stillHeader, pendingHeader, toHeader⟩ :=
    frame_framedIteration frame state stillThree pendingThree whole rfl
  have decoded : decodeHeader ([b0, b1, b2] ++ body) = some frame.header := by
    rw [whole, EybondFrame.wire, decodeHeader_append (Nat.le_of_eq frame.long.symm), frame.decoded]
  obtain ⟨afterHeader, stillAfter, pendingAfter, toAccepted⟩ :=
    readHeader_still state stillHeader pendingHeader (by simp [headerSize])
      (by rw [whole]; omega) decoded
  rw [whole, frame_drop_header] at pendingAfter
  rw [whole, frame_take_header, frame.accepted, if_neg (by simp)] at toAccepted
  obtain ⟨atPayload, stillPayload, pendingPayload, toPayload⟩ :=
    frame_acceptedHeader frame state stillAfter pendingAfter
  obtain ⟨after, handed, stillEnd, pendingEnd⟩ :=
    readPayload_still state stillPayload pendingPayload frame.complete
  refine ⟨after, ?_, stillEnd, pendingEnd⟩
  rw [toFramed, toHeader, toAccepted, toPayload, handed]

end Frame

section Skipped
variable (reply : BareReply)

theorem reply_candidate {reader : Reader} {seen body rest : Bytes} (still : Still reader)
    (pending : reader.pending = body ++ rest) (whole : seen ++ body = reply.wire) :
    ∃ tail after, reader.readexactly true (reply.wire.length - seen.length) = .bytes tail after ∧
      Still after ∧ modbusRtuCrcIsValid (seen ++ tail) = true ∧ after.pending = rest := by
  have covered : seen.length ≤ reply.wire.length := by
    rw [← whole, List.length_append]
    omega
  have available : reply.wire.length ≤ (seen ++ body).length := by rw [whole]
  obtain ⟨tail, after, read, stillAfter, taken, -, pendingAfter⟩ :=
    read_candidate still pending covered available
  refine ⟨tail, after, read, stillAfter, ?_, ?_⟩
  · rw [taken, whole, List.take_length]
    exact bareReply_crc reply
  · rw [pendingAfter, whole, List.drop_length, List.nil_append]

theorem reply_announced_wire : strayModbusRtuReplyLength reply.wire = reply.wire.length :=
  bareReply_announced reply (reply.data ++ crcBytes (modbusCrc16 reply.body))

theorem reply_header (state : LoopState) {reader : Reader} {rest : Bytes} {header : EybondHeader}
    (still : Still reader) (pending : reader.pending = reply.wire.drop headerSize ++ rest)
    (long : headerSize < reply.wire.length) (decoded : decodeHeader reply.wire = some header)
    (longer : reply.claimsNoLongerFrame = false) :
    ∃ after, Still after ∧ after.pending = rest ∧
      (if runtimeEybondHeaderError header ≠ "" then
          rejectedHeader state (reply.wire.take headerSize) (runtimeEybondHeaderError header) reader
        else acceptedHeader state (reply.wire.take headerSize) header reader) =
        .next (noteSkippedStrayRtuReply state) after := by
  have announced : strayModbusRtuReplyLength (reply.wire.take headerSize) = reply.wire.length := by
    rw [announced_take (by decide), reply_announced_wire]
  have seenLength : (reply.wire.take headerSize).length = headerSize := by
    rw [List.length_take]
    omega
  obtain ⟨tail, after, read, stillAfter, crc, pendingAfter⟩ :=
    reply_candidate reply still pending (List.take_append_drop _ _)
  rw [seenLength] at read
  refine ⟨after, stillAfter, pendingAfter, ?_⟩
  split
  · simp only [rejectedHeader, announced, if_pos long, read, awaitRead, crc, if_true]
  · rename_i accepted
    have shorter : (reply.wire.length : Int) < headerSize + header.payloadLen := by
      rw [BareReply.claimsNoLongerFrame, decoded] at longer
      simp only [not_not.mp accepted, beq_self_eq_true, Bool.true_and,
        decide_eq_false_iff_not] at longer
      omega
    simp only [acceptedHeader, announced, if_pos (And.intro long shorter), read, awaitRead, crc,
      if_true]

theorem reply_iteration (state : LoopState) {reader : Reader} {rest : Bytes}
    (still : Still reader) (pending : reader.pending = reply.wire ++ rest)
    (longer : reply.claimsNoLongerFrame = false) :
    ∃ after, iteration {} state reader = .next (noteSkippedStrayRtuReply state) after ∧
      Still after ∧ after.pending = rest := by
  have whole : [reply.address, reply.function, UInt8.ofNat reply.data.length] ++
      (reply.data ++ crcBytes (modbusCrc16 reply.body)) = reply.wire := rfl
  have notAt : [reply.address, reply.function, UInt8.ofNat reply.data.length] ≠ atMarker := by
    intro marker
    have function : reply.function = 0x54 := by
      injection marker with _ rest
      injection rest with same _
    rcases reply.read with read | read <;> rw [read] at function <;> cases function
  obtain ⟨threeRead, toFramed, stillThree, pendingBody⟩ :=
    iteration_framed state still pending notAt
  have pendingThree : threeRead.pending =
      reply.data ++ crcBytes (modbusCrc16 reply.body) ++ rest := pendingBody
  have announced := bareReply_announced reply []
  have wireLength := bareReply_length reply
  by_cases short : reply.wire.length ≤ headerSize
  · obtain ⟨tail, after, read, stillAfter, crc, pendingAfter⟩ :=
      reply_candidate reply stillThree pendingThree whole
    refine ⟨after, ?_, stillAfter, pendingAfter⟩
    have positive : 0 < reply.wire.length := by omega
    rw [toFramed]
    simp only [framedIteration, announced, if_pos (And.intro positive short), read, awaitRead, crc,
      if_true]
  · have long : headerSize < reply.wire.length := by omega
    obtain ⟨header, decoded⟩ := decodeHeader_of_length (Nat.le_of_lt long)
    have startShort : [reply.address, reply.function,
        UInt8.ofNat reply.data.length].length ≤ headerSize := by simp [headerSize]
    rw [← whole] at decoded
    obtain ⟨afterHeader, stillHeader, pendingHeader, toHeader⟩ :=
      readHeader_still state stillThree pendingThree startShort (by rw [whole]; omega) decoded
    rw [whole] at pendingHeader toHeader decoded
    obtain ⟨after, stillAfter, pendingAfter, skipped⟩ :=
      reply_header reply state stillHeader pendingHeader long decoded longer
    refine ⟨after, ?_, stillAfter, pendingAfter⟩
    have notShort : ¬ (0 < reply.wire.length ∧ reply.wire.length ≤ headerSize) := by omega
    rw [toFramed]
    simp only [framedIteration, announced, if_neg notShort]
    rw [toHeader, skipped]

end Skipped

inductive Element where
  | frame (eybond : EybondFrame)
  | reply (bare : BareReply)

def Element.wire : Element → Bytes
  | .frame eybond => eybond.wire
  | .reply bare => bare.wire

def Element.frame? : Element → Option (EybondHeader × Bytes)
  | .frame eybond => some (eybond.header, eybond.payload)
  | .reply _ => none

def Element.replies : Element → Nat
  | .frame _ => 0
  | .reply _ => 1

def Element.ambiguous : Element → Bool
  | .frame _ => false
  | .reply bare => bare.claimsNoLongerFrame

/-- The loop over the elements' bytes, all available, some of them pushed back: it hands on the
    frames in order, counts the replies and goes on to the end of the stream. -/
def ReadsExactly (elements : List Element) : Prop :=
  ∀ pushedBack arrived, pushedBack ++ arrived = (elements.map Element.wire).flatten →
    let result := readLoop [] ⟨pushedBack, arrived, [], []⟩
    result.handed = elements.filterMap Element.frame? ∧
      result.state.strayRtuReplyCount = (elements.map Element.replies).sum ∧
      result.ending = .closed "collector_eof" ∧ result.unconsumed = []

@[simp] theorem noteFrame_strayCount (state : LoopState) :
    (noteFrame state).strayRtuReplyCount = state.strayRtuReplyCount := rfl

@[simp] theorem noteSkipped_strayCount (state : LoopState) :
    (noteSkippedStrayRtuReply state).strayRtuReplyCount = state.strayRtuReplyCount + 1 := rfl

theorem iteration_eof (state : LoopState) {reader : Reader} (still : Still reader)
    (empty : reader.pending = []) :
    iteration {} state reader = .finish (.closed "collector_eof") := by
  have eof : reader.readexactly false 1 = .eof := still_eof still false (by rw [empty]; decide)
  simp only [iteration, Bool.false_eq_true, if_false, eof, awaitRead]

theorem loop_elements (elements : List Element) (fuel : Nat) (state : LoopState)
    (reader : Reader) (still : Still reader)
    (pending : reader.pending = (elements.map Element.wire).flatten)
    (enough : reader.pending.length < fuel)
    (clear : ∀ element ∈ elements, element.ambiguous = false) :
    (loop fuel [] state reader).handed = elements.filterMap Element.frame? ∧
      (loop fuel [] state reader).state.strayRtuReplyCount =
        state.strayRtuReplyCount + (elements.map Element.replies).sum ∧
      (loop fuel [] state reader).ending = .closed "collector_eof" ∧
      (loop fuel [] state reader).unconsumed = [] := by
  induction elements generalizing fuel state reader with
  | nil =>
    obtain ⟨fuel, rfl⟩ : ∃ more, fuel = more + 1 := ⟨fuel - 1, by omega⟩
    have empty : reader.pending = [] := pending
    simp [loop, iteration_eof state still empty, empty]
  | cons element rest ih =>
    obtain ⟨fuel, rfl⟩ : ∃ more, fuel = more + 1 := ⟨fuel - 1, by omega⟩
    have later : ∀ element ∈ rest, element.ambiguous = false := by
      intro element mem
      exact clear element (List.mem_cons_of_mem _ mem)
    rw [List.map_cons, List.flatten_cons] at pending
    have length := congrArg List.length pending
    rw [List.length_append] at length
    cases element with
    | frame eybond =>
      have front : reader.pending = eybond.wire ++ (rest.map Element.wire).flatten := pending
      obtain ⟨after, handed, stillAfter, pendingAfter⟩ := frame_iteration eybond state still front
      have long := frame_length eybond
      have fuelled : after.pending.length < fuel := by
        rw [pendingAfter]
        simp only [Element.wire, headerSize] at length long
        omega
      obtain ⟨frames, count, ending, consumed⟩ :=
        ih fuel (noteFrame state) after stillAfter pendingAfter fuelled later
      simp [loop, handed, handOn, frames, count, ending, consumed, Element.frame?,
        Element.replies]
    | reply bare =>
      have front : reader.pending = bare.wire ++ (rest.map Element.wire).flatten := pending
      have longer : bare.claimsNoLongerFrame = false := clear (.reply bare) List.mem_cons_self
      obtain ⟨after, skipped, stillAfter, pendingAfter⟩ :=
        reply_iteration bare state still front longer
      have long := bareReply_length bare
      have fuelled : after.pending.length < fuel := by
        rw [pendingAfter]
        simp only [Element.wire] at length
        omega
      obtain ⟨frames, count, ending, consumed⟩ :=
        ih fuel (noteSkippedStrayRtuReply state) after stillAfter pendingAfter fuelled later
      simp [loop, skipped, frames, count, ending, consumed, List.filterMap_cons, Element.frame?,
        Element.replies, Nat.add_assoc]

/-- Frames and bare replies in any order: exactly the frames are handed on, unless a reply also
    reads as a frame no longer than itself. -/
theorem readLoop_frames_and_replies (elements : List Element)
    (clear : ∀ element ∈ elements, element.ambiguous = false) : ReadsExactly elements := by
  intro pushedBack arrived stream
  have still : Still ⟨pushedBack, arrived, [], []⟩ := ⟨rfl, rfl⟩
  have pending : Reader.pending ⟨pushedBack, arrived, [], []⟩ =
      (elements.map Element.wire).flatten := by
    simp [Reader.pending, stream]
  have result := loop_elements elements _ {} _ still pending (Nat.lt_succ_self _) clear
  simpa [readLoop] using result

def heartbeatFrame : EybondFrame where
  header := ⟨7, 0, 2, 1, fcHeartbeat⟩
  headerBytes := [0, 7, 0, 0, 0, 2, 1, 1]
  payload := []
  long := rfl
  decoded := rfl
  accepted := by decide
  complete := rfl
  notAt := by decide
  notReply := by
    intro reply begins
    obtain ⟨rest, eq⟩ := begins
    have function : reply.function = 7 := by
      injection eq with _ tail
      injection tail with same _
    rcases reply.read with read | read <;> rw [read] at function <;> cases function

def oneRegisterReply : BareReply where
  address := 1
  function := 3
  data := [0x12, 0x34]
  read := .inl rfl
  even := rfl
  least := by decide
  most := by decide

theorem readLoop_frames_and_replies_mixed :
    ReadsExactly [.reply oneRegisterReply, .frame heartbeatFrame, .reply oneRegisterReply] :=
  readLoop_frames_and_replies _ (by decide +kernel)

/-- Its first eight bytes are an accepted header of a heartbeat without payload. -/
def frameLikeReply : BareReply where
  address := 1
  function := 3
  data := [0, 0, 2, 0, 1, 0xD5]
  read := .inl rfl
  even := rfl
  least := by decide
  most := by decide

theorem frameLikeReply_handed_on : ¬ ReadsExactly [.reply frameLikeReply] := by
  intro exact
  obtain ⟨handed, -⟩ := exact [] frameLikeReply.wire rfl
  revert handed
  decide +kernel

end ReadLoop
