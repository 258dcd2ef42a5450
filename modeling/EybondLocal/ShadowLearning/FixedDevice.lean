import EybondLocal.ShadowLearning.ModbusBackend

/-!
The Modbus shadow backend as a read-only device. Its registers are the seed's whatever it is sent,
every write is recorded once and refused, and every message is answered, except for reads of more
registers than the byte count of a reply can name and for AT lines whose answer cannot be written.
-/
namespace ShadowBackend
open BinaryFraming ModbusRead ModbusWrite OrderedDict Execution
open AtLine hiding Bytes
open RegisterBank (exceptionReply registersReply)

def Seed.SixteenBit (seed : Seed) : Prop :=
  ∀ entry ∈ seed.registerBank.items, 0 ≤ entry.2 ∧ entry.2 < 65536

instance (seed : Seed) : Decidable seed.SixteenBit :=
  inferInstanceAs (Decidable (∀ entry ∈ seed.registerBank.items, 0 ≤ entry.2 ∧ entry.2 < 65536))

def Seed.register (seed : Seed) (address : Nat) : Nat :=
  ((seed.registerBank.get? address).getD 0).toNat

def Seed.registers (seed : Seed) (address count : Nat) : List Nat :=
  (List.range count).map fun offset => seed.register (address + offset)

def IsException (slaveId function : UInt8) (payload : Bytes) : Prop :=
  ∃ code, payload = exceptionReply slaveId function code

def readCall (request : ReadRequestFrame) : ReadCall :=
  ⟨request.slaveId, request.address, request.count, request.functionCode⟩

structure Answers (seed : Seed) (frame response : CollectorFrame) : Prop where
  tid : response.header.tid = frame.header.tid
  devcode : response.header.devcode = frame.header.devcode
  devaddr : response.header.devaddr = frame.header.devaddr
  fcode : response.header.fcode = frame.header.fcode
  reads : ∀ request, decodeReadRequest frame.payload = some request →
    (readCall request).parseReadRegistersResponse response.payload =
        .ok (seed.registers request.address request.count) ∨
      IsException request.slaveId request.functionCode response.payload
  writes : ∀ request, decodeWriteRequest frame.payload = some request →
    IsException request.slaveId request.functionCode response.payload

def Answered (seed : Seed) : Call → Except ShadowError (Option Bytes) → Prop
  | .atLine _, result => ∃ response, result = .ok response
  | .frame _ frame, result =>
    ∃ response : CollectorFrame, result = .ok (some response.bytes) ∧ Answers seed frame response

def Call.observation : Call → Option ShadowWriteObservation
  | .atLine _ => none
  | .frame now sent =>
    (decodeWriteRequest sent.payload).map fun request =>
      ⟨now, "shadow_learning", request.slaveId, request.functionCode, request.address,
        request.values, sent.header.devcode, sent.header.devaddr, HexText.toHex sent.payload⟩

structure FixedDevice (seed : Seed) (calls : List Call) : Prop where
  answered : EveryStep (step seed) (fun state call => Answered seed call (handle seed state call).result)
    (State.initial seed) calls
  bank : ∀ front, front <+: calls →
    (run (step seed) (State.initial seed) front).registerBank = seed.registerBank
  observations : ∀ front, front <+: calls →
    (run (step seed) (State.initial seed) front).writeObservations =
      front.filterMap Call.observation

/-- Whether the answer to a message can be written: at most 127 registers are asked for, and the
    name that an AT line was read as is a name again, with an ASCII text to answer it. -/
def served (seed : Seed) (state : State) : Call → Bool
  | .atLine line =>
    match parseAtCommand line with
    | .error _ => true
    | .ok command =>
      (normalizeAtCommand command.command).isOk &&
        PythonText.isAscii ((state.noteAt command).atResponseValue seed command.command)
  | .frame _ frame =>
    match decodeReadRequest frame.payload with
    | none => true
    | some request => decide (request.count ≤ 127)

theorem decodeHeader_fits {bytes : Bytes} {header : EybondHeader}
    (decoded : decodeHeader bytes = some header) :
    header.tid < 65536 ∧ header.devcode < 65536 ∧ header.devaddr < 256 ∧ header.fcode < 256 := by
  unfold decodeHeader at decoded
  split at decoded
  · rename_i b0 b1 b2 b3 b4 b5 b6 b7 rest
    cases decoded
    exact ⟨word_lt b0 b1, word_lt b2 b3, b6.toNat_lt, b7.toNat_lt⟩
  · cases decoded

theorem decodeHeader_encodeHeader {header : EybondHeader} (tid : header.tid < 65536)
    (devcode : header.devcode < 65536) (wireLen : header.wireLen < 65536)
    (devaddr : header.devaddr < 256) (fcode : header.fcode < 256) :
    ∃ start, encodeHeader header = some start ∧ start.length = headerSize ∧
      ∀ rest, decodeHeader (start ++ rest) = some header := by
  have fits : fitsHeader header.tid header.devcode header.wireLen header.devaddr header.fcode =
      true := by simp [fitsHeader, tid, devcode, wireLen, devaddr, fcode]
  have byte : ∀ n : Nat, n < 256 → (lowByte n).toNat = n := by
    intro n small
    rw [lowByte_toNat]
    omega
  refine ⟨_, by rw [encodeHeader, if_pos fits], rfl, fun rest => ?_⟩
  change some (EybondHeader.mk (word (lowByte (header.tid / 256)) (lowByte header.tid))
    (word (lowByte (header.devcode / 256)) (lowByte header.devcode))
    (word (lowByte (header.wireLen / 256)) (lowByte header.wireLen))
    (lowByte header.devaddr).toNat (lowByte header.fcode).toNat) = some header
  rw [word_lowByte tid, word_lowByte devcode, word_lowByte wireLen, byte _ devaddr, byte _ fcode]

theorem buildCollectorRequest_frame (frame : CollectorFrame) {payload : Bytes}
    (short : payload.length + 2 < 65536) :
    ∃ response : CollectorFrame,
      buildCollectorRequest frame.header payload = .ok (some response.bytes) ∧
        response.payload = payload ∧ response.header.tid = frame.header.tid ∧
        response.header.devcode = frame.header.devcode ∧
        response.header.devaddr = frame.header.devaddr ∧
        response.header.fcode = frame.header.fcode := by
  obtain ⟨tid, devcode, devaddr, fcode⟩ := decodeHeader_fits frame.decoded
  have wire : headerSize + payload.length - wireLenOffset < 65536 := by
    simp only [headerSize, wireLenOffset]
    omega
  obtain ⟨start, encoded, length, decoded⟩ := @decodeHeader_encodeHeader
    { frame.header with wireLen := headerSize + payload.length - wireLenOffset }
    tid devcode wire devaddr fcode
  refine ⟨⟨start ++ payload, _, decoded payload, ?_⟩, ?_, ?_, rfl, rfl, rfl, rfl⟩
  · rw [List.length_append, length]
    simp only [EybondHeader.totalLen, headerSize, wireLenOffset]
    omega
  · rw [buildCollectorRequest, encoded]
  · exact List.drop_left' length

theorem mem_of_find {key : Int} {value : Int} {items : List (Int × Int)}
    (found : find key items = some value) : (key, value) ∈ items := by
  induction items with
  | nil => cases found
  | cons entry rest ih =>
    unfold find at found
    split at found
    · rename_i same
      cases found
      rw [← same]
      exact List.mem_cons_self
    · exact List.mem_cons_of_mem entry (ih found)

section Calls
variable {seed : Seed} {state : State}

theorem register_sixteen (sixteen : seed.SixteenBit) (address : Nat) :
    seed.register address < 65536 ∧
      (seed.register address : Int) = (seed.registerBank.get? address).getD 0 := by
  unfold Seed.register
  cases found : seed.registerBank.get? (address : Int) with
  | none => decide
  | some value =>
    have bounds := sixteen _ (mem_of_find found)
    dsimp only at bounds
    rw [Option.getD_some]
    omega

theorem registers_sixteen (sixteen : seed.SixteenBit) (address count : Nat) :
    ∀ n ∈ seed.registers address count, n < 65536 := by
  intro n mem
  obtain ⟨offset, _, rfl⟩ := List.mem_map.mp mem
  exact (register_sixteen sixteen _).1

theorem readRegisterValues_eq (sixteen : seed.SixteenBit)
    (bank : state.registerBank = seed.registerBank) (address count : Nat) :
    readRegisterValues state address count = (seed.registers address count).map Int.ofNat := by
  unfold readRegisterValues Seed.registers
  rw [bank, List.map_map]
  apply List.map_congr_left
  intro offset _
  exact (register_sixteen sixteen (address + offset)).2.symm

theorem buildReadResponse_eq (request : ReadRequestFrame) {registers : List Nat}
    (sixteen : ∀ n ∈ registers, n < 65536) :
    buildReadResponse request (registers.map Int.ofNat) =
      if registers.length ≤ 127 then
        .ok (registersReply request.slaveId request.functionCode registers)
      else .error (.value "byte must be in range(0, 256)") := by
  unfold buildReadResponse
  rw [List.length_map]
  by_cases fits : registers.length ≤ 127
  · have small : (registers.map Int.ofNat).find? (fun value => decide (value < 0 ∨ 65536 ≤ value)) =
        none := by
      rw [List.find?_eq_none]
      intro value mem outside
      have bounds := ofNat_sixteen sixteen value mem
      rw [decide_eq_true_eq] at outside
      omega
    rw [if_pos fits, if_neg (by omega), small]
    dsimp only
    rw [List.flatMap_map]
    rfl
  · rw [if_neg fits, if_pos (by omega)]

theorem decodeRead_known {payload : Bytes} {request : ReadRequestFrame}
    (decoded : decodeReadRequest payload = some request) :
    request.functionCode = 3 ∨ request.functionCode = 4 := by
  unfold decodeReadRequest at decoded
  split at decoded
  · cases decoded
  · split at decoded
    · cases decoded
    · rename_i known
      split at decoded
      · cases decoded
      · cases decoded
        by_contra other
        exact known (not_or.mp other)

theorem parse_registersReply {request : ReadRequestFrame} {registers : List Nat}
    (known : request.functionCode = 3 ∨ request.functionCode = 4)
    (sixteen : ∀ n ∈ registers, n < 65536) (many : registers.length = request.count)
    (fits : request.count ≤ 127) :
    (readCall request).parseReadRegistersResponse
      (registersReply request.slaveId request.functionCode registers) = .ok registers := by
  have reply : (readCall request).IsReply
      (registersReply request.slaveId request.functionCode registers) :=
    RegisterBank.isReply_registers many fits
  have parsed := parse_reply known reply
  rwa [RegisterBank.words_registersReply _ _ sixteen] at parsed

theorem answers_of_payload (frame : CollectorFrame) {payload : Bytes}
    (short : payload.length + 2 < 65536)
    (reads : ∀ request, decodeReadRequest frame.payload = some request →
      (readCall request).parseReadRegistersResponse payload =
        .ok (seed.registers request.address request.count))
    (writes : ∀ request, decodeWriteRequest frame.payload = some request →
      IsException request.slaveId request.functionCode payload) :
    ∃ response : CollectorFrame,
      buildCollectorRequest frame.header payload = .ok (some response.bytes) ∧
        Answers seed frame response := by
  obtain ⟨response, built, rfl, tid, devcode, devaddr, fcode⟩ :=
    buildCollectorRequest_frame frame short
  refine ⟨response, built, ⟨tid, devcode, devaddr, fcode, ?_, writes⟩⟩
  intro request decoded
  exact Or.inl (reads request decoded)

theorem exceptionReply_short (slaveId function code : UInt8) :
    (exceptionReply slaveId function code).length + 2 < 65536 := by
  rw [exceptionReply, withCrc_length]
  simp only [List.length_cons, List.length_nil]
  omega

section Frames
variable {now : String} {frame : CollectorFrame}

theorem handleFrame_read (sixteen : seed.SixteenBit)
    (bank : state.registerBank = seed.registerBank) {request : ReadRequestFrame}
    (decoded : decodeReadRequest frame.payload = some request) :
    Answered seed (.frame now frame) (handleFrame seed state now frame.bytes).result ↔
      request.count ≤ 127 := by
  have registers := registers_sixteen sixteen request.address request.count
  have many : (seed.registers request.address request.count).length = request.count := by
    simp [Seed.registers]
  have taken : decodeReadRequest (frame.bytes.drop headerSize) = some request := decoded
  have built := buildReadResponse_eq request registers
  rw [many] at built
  unfold handleFrame
  rw [frame.decoded]
  dsimp only
  rw [taken]
  dsimp only
  rw [readRegisterValues_eq sixteen bank, built]
  by_cases fits : request.count ≤ 127
  · rw [if_pos fits]
    dsimp only
    have parsed := parse_registersReply (decodeRead_known decoded) registers many fits
    have size := RegisterBank.registersReply_length request.slaveId request.functionCode
      (seed.registers request.address request.count)
    have short : (registersReply request.slaveId request.functionCode
        (seed.registers request.address request.count)).length + 2 < 65536 := by omega
    have answered := @answers_of_payload seed frame _ short ?_ ?_
    · exact iff_of_true answered fits
    · intro other again
      rw [decoded] at again
      cases again
      exact parsed
    · intro other written
      rw [RegisterBank.decodeRead_of_write written] at decoded
      cases decoded
  · rw [if_neg fits]
    refine iff_of_false ?_ fits
    rintro ⟨response, raised, _⟩
    cases raised

theorem handleFrame_write (readOnly : seed.writeResponseMode ≠ "ack")
    {request : WriteRequestFrame} (decoded : decodeWriteRequest frame.payload = some request) :
    Answered seed (.frame now frame) (handleFrame seed state now frame.bytes).result := by
  have unread := RegisterBank.decodeRead_of_write decoded
  have taken : decodeReadRequest (frame.bytes.drop headerSize) = none := unread
  have written : decodeWriteRequest (frame.bytes.drop headerSize) = some request := decoded
  unfold handleFrame
  rw [frame.decoded]
  dsimp only
  rw [taken, written]
  dsimp only
  rw [if_neg readOnly, buildWriteExceptionResponse]
  refine @answers_of_payload seed frame (exceptionReply request.slaveId request.functionCode 0x01)
    (exceptionReply_short _ _ _) ?_ ?_
  · intro other again
    rw [unread] at again
    cases again
  · intro other again
    rw [decoded] at again
    cases again
    exact ⟨0x01, rfl⟩

theorem handleFrame_unknown (unread : decodeReadRequest frame.payload = none)
    (unwritten : decodeWriteRequest frame.payload = none) :
    Answered seed (.frame now frame) (handleFrame seed state now frame.bytes).result := by
  have taken : decodeReadRequest (frame.bytes.drop headerSize) = none := unread
  have written : decodeWriteRequest (frame.bytes.drop headerSize) = none := unwritten
  unfold handleFrame
  rw [frame.decoded]
  dsimp only
  rw [taken, written]
  dsimp only
  unfold buildExceptionFrame
  dsimp only
  refine @answers_of_payload seed frame _ (exceptionReply_short _ _ _) ?_ ?_
  · intro other again
    rw [unread] at again
    cases again
  · intro other again
    rw [unwritten] at again
    cases again

end Frames

theorem buildAtLine_isOk {separator command value : String} :
    (∃ response, buildAtLine separator command value = .ok response) ↔
      ((normalizeAtCommand command).isOk && PythonText.isAscii value) = true := by
  unfold buildAtLine
  cases normalizeAtCommand command with
  | error error =>
    constructor
    · rintro ⟨response, raised⟩
      cases raised
    · intro writable
      cases writable
  | ok name =>
    cases plain : PythonText.isAscii value with
    | false =>
      constructor
      · rintro ⟨response, raised⟩
        simp only [bind, Except.bind, ↓reduceIte] at raised
        cases raised
      · intro writable
        cases writable
    | true =>
      simp only [bind, Except.bind, Bool.true_eq_false, ↓reduceIte]
      exact iff_of_true ⟨_, rfl⟩ rfl

theorem handleAtLine_answered (line : Bytes) :
    Answered seed (.atLine line) (handleAtLine seed state line).result ↔
      served seed state (.atLine line) = true := by
  unfold handleAtLine served Answered
  dsimp only
  cases parseAtCommand line with
  | error error =>
    dsimp only
    exact iff_of_true ⟨none, rfl⟩ rfl
  | ok command =>
    dsimp only
    generalize (state.noteAt command).atResponseValue seed command.command = value
    rw [← @buildAtLine_isOk ":" command.command value, buildAtResponse]
    cases buildAtLine ":" command.command value with
    | error error =>
      dsimp only
      constructor
      · rintro ⟨response, raised⟩
        cases raised
      · rintro ⟨response, raised⟩
        cases raised
    | ok response =>
      dsimp only
      exact iff_of_true ⟨some response, rfl⟩ ⟨response, rfl⟩

theorem handle_answered (sixteen : seed.SixteenBit) (readOnly : seed.writeResponseMode ≠ "ack")
    (bank : state.registerBank = seed.registerBank) (call : Call) :
    Answered seed call (handle seed state call).result ↔ served seed state call = true := by
  cases call with
  | atLine line =>
    rw [handle]
    exact handleAtLine_answered line
  | frame now frame =>
    rw [handle]
    unfold served
    dsimp only
    cases read : decodeReadRequest frame.payload with
    | some request =>
      dsimp only
      rw [decide_eq_true_eq]
      exact handleFrame_read sixteen bank read
    | none =>
      dsimp only
      have answered : Answered seed (.frame now frame)
          (handleFrame seed state now frame.bytes).result := by
        cases written : decodeWriteRequest frame.payload with
        | some request => exact handleFrame_write readOnly written
        | none => exact handleFrame_unknown read written
      exact iff_of_true answered rfl

theorem noteAt_keeps (state : State) (command : CollectorAtCommand) :
    (state.noteAt command).registerBank = state.registerBank ∧
      (state.noteAt command).writeObservations = state.writeObservations := by
  unfold State.noteAt
  split
  · exact ⟨rfl, rfl⟩
  · exact ⟨rfl, rfl⟩

/-- Whether or not a handler raises, it leaves the registers, and it records what was written. -/
theorem step_keeps (readOnly : seed.writeResponseMode ≠ "ack") (state : State) (call : Call) :
    (step seed state call).registerBank = state.registerBank ∧
      (step seed state call).writeObservations =
        state.writeObservations ++ call.observation.toList := by
  unfold step
  cases call with
  | atLine line =>
    have nothing : (Call.atLine line).observation.toList = [] := rfl
    have handled : handle seed state (.atLine line) = handleAtLine seed state line := rfl
    rw [nothing, List.append_nil, handled]
    unfold handleAtLine
    split
    · exact ⟨rfl, rfl⟩
    · dsimp only
      split
      · exact noteAt_keeps state _
      · exact noteAt_keeps state _
  | frame now frame =>
    have payload : frame.bytes.drop headerSize = frame.payload := rfl
    have handled : handle seed state (.frame now frame) =
      handleFrame seed state now frame.bytes := rfl
    rw [handled]
    unfold handleFrame Call.observation
    rw [frame.decoded]
    dsimp only
    rw [payload]
    cases read : decodeReadRequest frame.payload with
    | some request =>
      have unwritten : decodeWriteRequest frame.payload = none := by
        cases written : decodeWriteRequest frame.payload with
        | none => rfl
        | some other =>
          rw [RegisterBank.decodeRead_of_write written] at read
          cases read
      rw [unwritten]
      dsimp only
      split
      · exact ⟨rfl, by simp⟩
      · exact ⟨rfl, by simp [State.recordReadObservation]⟩
    | none =>
      cases written : decodeWriteRequest frame.payload with
      | none => exact ⟨rfl, by simp⟩
      | some request =>
        dsimp only
        rw [if_neg readOnly, writeObservation, written]
        exact ⟨rfl, rfl⟩

end Calls

section Runs
variable {seed : Seed}

theorem run_keeps (readOnly : seed.writeResponseMode ≠ "ack") (state : State) (calls : List Call) :
    (run (step seed) state calls).registerBank = state.registerBank ∧
      (run (step seed) state calls).writeObservations =
        state.writeObservations ++ calls.filterMap Call.observation := by
  induction calls generalizing state with
  | nil => exact ⟨rfl, by simp [run]⟩
  | cons call calls ih =>
    obtain ⟨bank, observations⟩ := ih (step seed state call)
    obtain ⟨bankNow, observationsNow⟩ := step_keeps readOnly state call
    constructor
    · exact bank.trans bankNow
    · change (run (step seed) (step seed state call) calls).writeObservations = _
      rw [observations, observationsNow, List.append_assoc]
      cases recorded : call.observation with
      | none => simp [recorded]
      | some observation => simp [recorded]

/-- The backend is the read-only device of its seed in exactly the runs in which every answer can
    be written. -/
theorem fixedDevice_iff (sixteen : seed.SixteenBit) (readOnly : seed.writeResponseMode ≠ "ack")
    (calls : List Call) : FixedDevice seed calls ↔
      EveryStep (step seed) (fun state call => served seed state call = true)
        (State.initial seed) calls := by
  have exact_steps := @everyStep_iff_everyStep State Call (step seed)
    (fun state => state.registerBank = seed.registerBank)
    (fun state call => served seed state call = true)
    (fun state call => Answered seed call (handle seed state call).result)
    (fun state call bank _ => (step_keeps readOnly state call).1.trans bank)
    (fun state call bank => handle_answered sixteen readOnly bank call)
    (State.initial seed) rfl calls
  constructor
  · intro fixed
    exact exact_steps.mp fixed.answered
  · intro writable
    have kept := fun front => run_keeps readOnly (State.initial seed) front
    exact ⟨exact_steps.mpr writable, fun front _ => (kept front).1, fun front _ => (kept front).2⟩

end Runs

section Examples

def pairSeed : Seed :=
  { collectorPn := "V0012", collectorCallbackEndpoint := "192.0.2.1:8899",
    commandResponses := .empty, registerBank := (Dict.empty.set 5 7).set 6 65535 }

/-- A frame to address 255 of transaction 9, with an eight-byte request in it. -/
def requestFrame (slaveId function addressHigh address high low : UInt8) : CollectorFrame :=
  ⟨[0x00, 0x09, 0x00, 0x01, 0x00, 0x0A, 0xFF, 0x04] ++
      withCrc [slaveId, function, addressHigh, address, high, low],
    ⟨9, 1, 10, 255, 4⟩, rfl, rfl⟩

def pairCalls : List Call :=
  [.atLine [0x41, 0x54, 0x2B, 0x51, 0x49, 0x44, 0x3F, 0x0D, 0x0A],
    .atLine [0x41, 0x54, 0x2B, 0x51, 0x49, 0x44, 0x3D, 0x58, 0x0D, 0x0A],
    .frame "12:00:00" (requestFrame 1 3 0 5 0 3), .frame "12:00:01" (requestFrame 1 6 0 5 0 9)]

theorem fixedDevice_iff_pair : FixedDevice pairSeed pairCalls :=
  (fixedDevice_iff (by decide) (by decide) pairCalls).mpr (by decide +kernel)

def wideRead : CollectorFrame := requestFrame 1 3 0 0 0 128

def nestedLine : Bytes := [0x41, 0x54, 0x2B, 0x41, 0x54, 0x2B, 0x41, 0x54, 0x2B, 0x3F, 0x0D, 0x0A]

/-- A well-formed read request makes the handler raise, and so does an AT line. -/
theorem wideRead_raises :
    pairSeed.SixteenBit ∧ pairSeed.writeResponseMode ≠ "ack" ∧
      decodeReadRequest wideRead.payload = some ⟨1, 3, 0, 128⟩ ∧
      (handle pairSeed (State.initial pairSeed) (.frame "12:00:00" wideRead)).result =
        .error (.build (.value "byte must be in range(0, 256)")) ∧
      (handle pairSeed (State.initial pairSeed) (.atLine nestedLine)).result =
        .error (.atCommand .commandInvalid) ∧
      ¬ FixedDevice pairSeed [.frame "12:00:00" wideRead] ∧
      ¬ FixedDevice pairSeed [.atLine nestedLine] := by
  have wide : (handle pairSeed (State.initial pairSeed) (.frame "12:00:00" wideRead)).result =
      .error (.build (.value "byte must be in range(0, 256)")) := by decide +kernel
  have nested : (handle pairSeed (State.initial pairSeed) (.atLine nestedLine)).result =
      .error (.atCommand .commandInvalid) := by decide +kernel
  refine ⟨by decide, by decide, by decide +kernel, wide, nested, ?_, ?_⟩
  · intro fixed
    obtain ⟨response, returned, _⟩ := fixed.answered.1
    rw [wide] at returned
    cases returned
  · intro fixed
    obtain ⟨response, returned⟩ := fixed.answered.1
    rw [nested] at returned
    cases returned

end Examples

end ShadowBackend
