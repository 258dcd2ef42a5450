import EybondLocal.Library.Execution
import EybondLocal.Library.HexText
import EybondLocal.Library.OrderedDict
import EybondLocal.Payload.AtLine
import EybondLocal.Payload.RequestCodec

/-!
The shadow backend with its Modbus adapter (`support/shadow_learning/backend.py`, `protocol.py`):
how AT lines and EyeBond frames are answered out of a seed, and what is recorded of them.
-/
namespace ShadowBackend
open BinaryFraming ModbusRead ModbusWrite StripText PythonText OrderedDict
open AtLine hiding Bytes
open RegisterBank (exceptionReply)

structure Seed where
  collectorPn : String
  collectorCallbackEndpoint : String
  commandResponses : Dict String String
  registerBank : Dict Int Int
  writeResponseMode : String := "exception"

structure ShadowWriteObservation where
  timestamp : String
  source : String
  unit : UInt8
  functionCode : UInt8
  register : Nat
  values : List Nat
  devcode : Nat
  devaddr : Nat
  rawPayloadHex : List Char
  deriving DecidableEq, Repr

structure ReadBlock where
  devcode : Nat
  collectorAddr : Nat
  deviceAddr : UInt8
  function : UInt8
  deriving DecidableEq, Repr

structure State where
  atResponses : Dict String String
  registerBank : Dict Int Int
  writeObservations : List ShadowWriteObservation
  readBlockCounts : Dict (ReadBlock × Nat × Nat) Nat
  readRegisterSamples : Dict (ReadBlock × Nat) (List Int)
  readEventCount : Nat

def State.initial (seed : Seed) : State :=
  ⟨seed.commandResponses, seed.registerBank, [], .empty, .empty, 0⟩

inductive ShadowError where
  | atCommand (error : AtError)
  | build (error : WriteError)
  /-- The `struct.error` of a header that is too short, or that a field does not fit into. -/
  | header
  deriving DecidableEq, Repr

/-- The state a handler leaves, also when it raises, and its answer. -/
structure Handled where
  state : State
  result : Except ShadowError (Option Bytes)

def upperName (command : String) : String := (asciiUpper (strip command)).getD ""

def State.atResponseValue (seed : Seed) (state : State) (command : String) : String :=
  let normalized := upperName command
  if normalized = "CLDSRVHOST1" then
    (state.atResponses.get? normalized).getD seed.collectorCallbackEndpoint
  else
    match state.atResponses.get? normalized with
    | some value => value
    | none =>
      if normalized = "QID" then seed.collectorPn
      else if "ID".toList.isSuffixOf normalized.toList then seed.collectorPn
      else ""

def State.noteAt (state : State) (command : CollectorAtCommand) : State :=
  if command.operation = "write" then
    { state with atResponses := state.atResponses.set command.command command.value }
  else state

def handleAtLine (seed : Seed) (state : State) (line : Bytes) : Handled :=
  match parseAtCommand line with
  | .error _ => ⟨state, .ok none⟩
  | .ok command =>
    let noted := state.noteAt command
    match buildAtResponse command.command (noted.atResponseValue seed command.command) with
    | .error error => ⟨noted, .error (.atCommand error)⟩
    | .ok response => ⟨noted, .ok (some response)⟩

def fitsHeader (tid devcode wireLen devaddr fcode : Nat) : Bool :=
  tid < 65536 && devcode < 65536 && wireLen < 65536 && devaddr < 256 && fcode < 256

def encodeHeader (header : EybondHeader) : Option Bytes :=
  if fitsHeader header.tid header.devcode header.wireLen header.devaddr header.fcode then
    some [lowByte (header.tid / 256), lowByte header.tid,
      lowByte (header.devcode / 256), lowByte header.devcode,
      lowByte (header.wireLen / 256), lowByte header.wireLen,
      lowByte header.devaddr, lowByte header.fcode]
  else none

/-- `build_collector_request` with the transaction, device code, address and function code of a
    frame that came in. -/
def buildCollectorRequest (header : EybondHeader) (payload : Bytes) :
    Except ShadowError (Option Bytes) :=
  match encodeHeader { header with wireLen := headerSize + payload.length - wireLenOffset } with
  | none => .error .header
  | some start => .ok (some (start ++ payload))

def buildReadResponse (request : ReadRequestFrame) (values : List Int) : Except WriteError Bytes :=
  if 255 < values.length * 2 then .error (.value "byte must be in range(0, 256)")
  else
    -- `to_bytes(2, "big", signed=False)`
    match values.find? fun value => decide (value < 0 ∨ 65536 ≤ value) with
    | some value => .error (.overflow (overflowText value))
    | none => .ok (withCrc ([request.slaveId, request.functionCode, byteOf (values.length * 2)] ++
        values.flatMap wordBytes))

def buildWriteAckResponse (request : WriteRequestFrame) : Bytes :=
  let last : Nat :=
    match request.functionCode, request.values with
    | 0x06, value :: _ => value
    | _, values => values.length
  withCrc ([request.slaveId, request.functionCode] ++ wordBytes request.address ++ wordBytes last)

def buildWriteExceptionResponse (request : WriteRequestFrame) (exceptionCode : UInt8) : Bytes :=
  exceptionReply request.slaveId request.functionCode exceptionCode

def applyWriteToRegisterBank (request : WriteRequestFrame) (registerBank : Dict Int Int) :
    Dict Int Int :=
  match request.functionCode, request.values with
  | 0x06, value :: _ => registerBank.set request.address value
  | _, values =>
    values.zipIdx.foldl (fun bank entry => bank.set (request.address + entry.2) entry.1) registerBank

def writeObservation (frame : Bytes) (devcode devaddr : Nat) (timestamp source : String) :
    Option ShadowWriteObservation :=
  (decodeWriteRequest frame).map fun decoded =>
    ⟨timestamp, source, decoded.slaveId, decoded.functionCode, decoded.address, decoded.values,
      devcode, devaddr, HexText.toHex frame⟩

def readSampleLimit : Nat := 8

def readRegisterValues (state : State) (address count : Nat) : List Int :=
  (List.range count).map fun offset => (state.registerBank.get? (address + offset : Nat)).getD 0

def addSample (samples : List Int) (value : Int) : List Int :=
  if value ∉ samples ∧ samples.length < readSampleLimit then samples ++ [value] else samples

def State.recordReadObservation (state : State) (block : ReadBlock) (address count : Nat)
    (values : List Int) : State :=
  let blockKey := (block, address, count)
  { state with
    readEventCount := state.readEventCount + 1
    readBlockCounts :=
      state.readBlockCounts.set blockKey ((state.readBlockCounts.get? blockKey).getD 0 + 1)
    readRegisterSamples := values.zipIdx.foldl (fun samples entry =>
      let key := (block, address + entry.2)
      samples.set key (addSample ((samples.get? key).getD []) entry.1)) state.readRegisterSamples }

def buildExceptionFrame (header : EybondHeader) (innerPayload : Bytes) (exceptionCode : UInt8) :
    Except ShadowError (Option Bytes) :=
  let answered : UInt8 × UInt8 :=
    if header.fcode = fcForwardToDevice ∧ 2 ≤ innerPayload.length then
      (innerPayload.getD 0 0, innerPayload.getD 1 0)
    else (lowByte header.devaddr, lowByte header.fcode)
  buildCollectorRequest header (exceptionReply answered.1 answered.2 exceptionCode)

def State.observe (state : State) (observation : ShadowWriteObservation) : State :=
  { state with writeObservations := state.writeObservations ++ [observation] }

def handleFrame (seed : Seed) (state : State) (now : String) (frame : Bytes) : Handled :=
  match decodeHeader frame with
  | none => ⟨state, .error .header⟩
  | some header =>
    let payload := frame.drop headerSize
    match decodeReadRequest payload with
    | some request =>
      let values := readRegisterValues state request.address request.count
      match buildReadResponse request values with
      | .error error => ⟨state, .error (.build error)⟩
      | .ok response =>
        let block := ⟨header.devcode, header.devaddr, request.slaveId, request.functionCode⟩
        ⟨state.recordReadObservation block request.address request.count values,
          buildCollectorRequest header response⟩
    | none =>
      match decodeWriteRequest payload with
      | none => ⟨state, buildExceptionFrame header payload 0x01⟩
      | some request =>
        let observed :=
          match writeObservation payload header.devcode header.devaddr now "shadow_learning" with
          | some observation => state.observe observation
          | none => state
        if seed.writeResponseMode = "ack" then
          ⟨{ observed with
              registerBank := applyWriteToRegisterBank request observed.registerBank },
            buildCollectorRequest header (buildWriteAckResponse request)⟩
        else
          ⟨observed, buildCollectorRequest header (buildWriteExceptionResponse request 0x01)⟩

structure CollectorFrame where
  bytes : Bytes
  header : EybondHeader
  decoded : decodeHeader bytes = some header
  whole : bytes.length = header.totalLen

def CollectorFrame.payload (frame : CollectorFrame) : Bytes := frame.bytes.drop headerSize

inductive Call where
  | atLine (line : Bytes)
  | frame (now : String) (frame : CollectorFrame)

def handle (seed : Seed) (state : State) : Call → Handled
  | .atLine line => handleAtLine seed state line
  | .frame now frame => handleFrame seed state now frame.bytes

/-- One message after the other; a handler that raises ends its connection, and the others go on
    from the state it leaves. -/
def step (seed : Seed) (state : State) (call : Call) : State := (handle seed state call).state

end ShadowBackend
