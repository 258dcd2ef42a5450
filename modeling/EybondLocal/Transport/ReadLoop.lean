import EybondLocal.Transport.PrefixedReader

/-!
`_CollectorConnection._read_loop` (`collector/transport/connections.py`): one iteration
parses one AT line, one EyeBond frame, one auxiliary frame or one bare Modbus RTU reply,
or ends the session. What the loop hands on is the header and payload that reach the
dispatch below it; the dispatch itself reads nothing.
-/
namespace ReadLoop
open BinaryFraming PrefixedReader

structure LoopState where
  framesThisSession : Nat := 0
  headerResyncStreak : Nat := 0
  strayRtuReplyCount : Nat := 0
  deriving DecidableEq, Repr

/-- What the auxiliary session of this socket shows one iteration: whether it was retired,
    whether its grammar was admitted, and the subtype its waiting reader asked for. -/
structure AuxiliaryView where
  closed : Bool := false
  enabled : Bool := false
  awaited : Option Bytes := none
  deriving Repr

/-- How the loop ends. `closed` carries the value left in `last_disconnect_reason`. -/
inductive Ending where
  | closed (reason : String)
  | retired
  | cancelled
  | raised (error : String)
  | starved
  deriving DecidableEq, Repr

inductive Iteration where
  | handedOn (header : EybondHeader) (payload : Bytes) (state : LoopState) (reader : Reader)
  | next (state : LoopState) (reader : Reader)
  | finish (ending : Ending)

def headerResyncLimit : Nat := 2

/-- `_AT_TEXT_MAX_MIXED_FRAME_PAYLOAD_LEN`. -/
def atTextMaxLen : Nat := maxEybondPayloadSize

def atMarker : Bytes := [0x41, 0x54, 0x2B]

def awaitRead (reply : Reply) (timedOut : Reader → Iteration)
    (got : Bytes → Reader → Iteration) : Iteration :=
  match reply with
  | .bytes data reader => got data reader
  | .timeout reader => timedOut reader
  | .eof => .finish (.closed "collector_eof")
  | .cancelled => .finish .cancelled

/-- An awaited read of the binary frame decoder: a cut-off frame never becomes a shorter one. -/
def awaitBinary (reply : Reply) (got : Bytes → Reader → Iteration) : Iteration :=
  match reply with
  | .bytes data reader => got data reader
  | .timeout _ => .finish (.closed "binary_frame_timeout")
  | .eof => .finish (.closed "binary_frame_truncated")
  | .cancelled => .finish .cancelled

def headerTimeout (_ : Reader) : Iteration := .finish (.closed "collector_frame_header_timeout")

def payloadTimeout (_ : Reader) : Iteration := .finish (.closed "collector_frame_payload_timeout")

def noteSkippedStrayRtuReply (state : LoopState) : LoopState :=
  { state with strayRtuReplyCount := state.strayRtuReplyCount + 1 }

def noteFrame (state : LoopState) : LoopState :=
  { state with framesThisSession := state.framesThisSession + 1, headerResyncStreak := 0 }

def handOn (state : LoopState) (header : EybondHeader) (payload : Bytes) (reader : Reader) :
    Iteration := .handedOn header payload (noteFrame state) reader

def looksLikeEybondFrameStart (chunk : Bytes) : Bool :=
  match decodeHeader chunk with
  | none => false
  | some header => runtimeEybondHeaderError header == ""

inductive AtReply where
  | line (data : Bytes) (reader : Reader)
  | overrun
  | eof
  | cancelled

/-- `read_at_response`, byte by byte: the line ends at CR LF, at an idle gap, or right before
    eight bytes that form a plausible EyeBond header, which are pushed back. -/
def readAtResponse : Nat → Bytes → Bool → Reader → AtReply
  | 0, _, _, _ => .overrun
  | budget + 1, data, binarySuspected, reader =>
    match reader.readexactly true 1 with
    | .timeout reader => .line data reader
    | .eof => .eof
    | .cancelled => .cancelled
    | .bytes byte reader =>
      let data := data ++ byte
      let candidate := data.drop (data.length - headerSize)
      if headerSize ≤ data.length ∧ looksLikeEybondFrameStart candidate then
        .line (data.take (data.length - headerSize)) (reader.unread candidate)
      else if byte = [0x0A] then
        if ¬ binarySuspected ∧ [0x0D, 0x0A].isSuffixOf data then .line data reader
        else readAtResponse budget data true reader
      else if (byte.headD 0x20) < 0x20 ∧ byte ≠ [0x0D] ∧ byte ≠ [0x09] then
        readAtResponse budget data true reader
      else readAtResponse budget data binarySuspected reader

def atIteration (state : LoopState) (reader : Reader) : Iteration :=
  match readAtResponse atTextMaxLen [] false reader with
  | .line _ reader => .next state reader
  | .overrun => .finish (.raised "collector_at_response_too_large")
  | .eof => .finish (.closed "collector_eof")
  | .cancelled => .finish .cancelled

/-- `auxiliary.accept`: deliver only to the reader waiting for this subtype. -/
def acceptAuxiliary (view : AuxiliaryView) (state : LoopState) (wire : Bytes) (reader : Reader) :
    Iteration :=
  match view.awaited with
  | none => .finish (.closed "aabb_response_unowned")
  | some subtype =>
    if (wire.drop 2).take 2 ≠ subtype then .finish (.closed "aabb_response_subtype_mismatch")
    else .next state reader

/-- `async_read_binary_frame` with the mixed grammar, after the three bytes already read. -/
def mixedIteration (view : AuxiliaryView) (state : LoopState) (start : Bytes) (reader : Reader) :
    Iteration :=
  awaitBinary (reader.readexactly true (headerSize - start.length)) fun more reader =>
    let headerBytes := start ++ more
    match decodeHeader headerBytes with
    | none => .finish (.raised "struct_error")
    | some header =>
      let headerError := runtimeEybondHeaderError header
      if aabbPrefixes.contains (headerBytes.take 4) ∧ headerError = "" then
        .finish (.closed "binary_frame_ambiguous")
      else if headerError = "" then
        awaitBinary (reader.readexactly true (header.totalLen - headerSize)) fun payload reader =>
          handOn state header payload reader
      else if aabbMagic.isPrefixOf headerBytes then
        awaitBinary (reader.readexactly true (aabbFrameSize - headerSize)) fun tail reader =>
          let wire := headerBytes ++ tail
          if aabbFrameError wire ≠ "" then .finish (.closed (aabbFrameError wire))
          else acceptAuxiliary view state wire reader
      else .finish (.closed headerError)

/-- `_skip_cut_off_stray_rtu_reply`: the bytes of the reply that did arrive are dropped. -/
def skipCutOffStrayRtuReply (state : LoopState) (reader : Reader) : Iteration :=
  awaitRead reader.takeAvailable (fun reader => .next state reader)
    fun _ reader => .next state reader

def findTrailingEybondFrame (data : Bytes) : Option Nat :=
  (List.range' 1 (data.length - headerSize)).find? fun offset =>
    match decodeHeader ((data.drop offset).take headerSize) with
    | none => false
    | some header =>
      runtimeEybondHeaderError header == "" &&
        decide ((offset : Int) + headerSize + header.payloadLen = data.length)

/-- `_resync_after_unrecognised_header`: drop everything that arrived except a complete frame
    at its very end. -/
def resyncAfterUnrecognisedHeader (state : LoopState) (headerBytes : Bytes) (headerError : String)
    (reader : Reader) : Iteration :=
  if state.framesThisSession = 0 ∨ headerResyncLimit ≤ state.headerResyncStreak then
    .finish (.closed headerError)
  else
    let state := { state with headerResyncStreak := state.headerResyncStreak + 1 }
    awaitRead reader.takeAvailable (fun reader => .next state reader) fun taken reader =>
      let junk := headerBytes ++ taken
      match findTrailingEybondFrame junk with
      | none => .next state reader
      | some offset => .next state (reader.unread (junk.drop offset))

def rejectedHeader (state : LoopState) (headerBytes : Bytes) (headerError : String)
    (reader : Reader) : Iteration :=
  let rtuLength := strayModbusRtuReplyLength headerBytes
  if headerSize < rtuLength then
    awaitRead (reader.readexactly true (rtuLength - headerSize)) (skipCutOffStrayRtuReply state)
      fun rtuTail reader =>
        if modbusRtuCrcIsValid (headerBytes ++ rtuTail) then
          .next (noteSkippedStrayRtuReply state) reader
        else .finish (.closed headerError)
  else if looksLikeStrayModbusRtuReply headerBytes then .finish (.closed headerError)
  else resyncAfterUnrecognisedHeader state headerBytes headerError reader

def readPayload (state : LoopState) (header : EybondHeader) (reader : Reader) : Iteration :=
  if 0 < header.payloadLen then
    awaitRead (reader.readexactly true header.payloadLen.toNat) payloadTimeout
      fun payload reader => handOn state header payload reader
  else handOn state header [] reader

/-- A claimed frame longer than the bare reply its first bytes also look like is taken for the
    reply when the CRC says so; a claimed frame no longer than it is left alone. -/
def acceptedHeader (state : LoopState) (headerBytes : Bytes) (header : EybondHeader)
    (reader : Reader) : Iteration :=
  let rtuLength := strayModbusRtuReplyLength headerBytes
  if headerSize < rtuLength ∧ (rtuLength : Int) < headerSize + header.payloadLen then
    awaitRead (reader.readexactly true (rtuLength - headerSize)) (skipCutOffStrayRtuReply state)
      fun rtuTail reader =>
        if modbusRtuCrcIsValid (headerBytes ++ rtuTail) then
          .next (noteSkippedStrayRtuReply state) reader
        else readPayload state header (reader.unread rtuTail)
  else readPayload state header reader

def readHeader (state : LoopState) (start : Bytes) (reader : Reader) : Iteration :=
  awaitRead (reader.readexactly true (headerSize - start.length)) headerTimeout
    fun more reader =>
      let headerBytes := start ++ more
      match decodeHeader headerBytes with
      | none => .finish (.raised "struct_error")
      | some header =>
        if runtimeEybondHeaderError header ≠ "" then
          rejectedHeader state headerBytes (runtimeEybondHeaderError header) reader
        else acceptedHeader state headerBytes header reader

def framedIteration (state : LoopState) (start : Bytes) (reader : Reader) : Iteration :=
  let rtuLength := strayModbusRtuReplyLength start
  if 0 < rtuLength ∧ rtuLength ≤ headerSize then
    awaitRead (reader.readexactly true (rtuLength - start.length)) headerTimeout
      fun rtuTail reader =>
        if modbusRtuCrcIsValid (start ++ rtuTail) then
          .next (noteSkippedStrayRtuReply state) reader
        else readHeader state start (reader.unread rtuTail)
  else readHeader state start reader

def iteration (view : AuxiliaryView) (state : LoopState) (reader : Reader) : Iteration :=
  if view.closed then .finish .retired
  else
    awaitRead (reader.readexactly false 1) headerTimeout fun first reader =>
      awaitRead (reader.readexactly true 2) headerTimeout fun more reader =>
        let start := first ++ more
        if start = atMarker then atIteration state reader
        else if view.enabled then mixedIteration view state start reader
        else framedIteration state start reader

structure LoopResult where
  handed : List (EybondHeader × Bytes)
  state : LoopState
  ending : Ending
  /-- The bytes still pending when the last iteration began. -/
  unconsumed : Bytes

def loop : Nat → List AuxiliaryView → LoopState → Reader → LoopResult
  | 0, _, state, reader => ⟨[], state, .starved, reader.pending⟩
  | fuel + 1, views, state, reader =>
    match iteration (views.headD {}) state reader with
    | .handedOn header payload state reader =>
      let result := loop fuel views.tail state reader
      { result with handed := (header, payload) :: result.handed }
    | .next state reader => loop fuel views.tail state reader
    | .finish ending => ⟨[], state, ending, reader.pending⟩

/-- Every iteration that goes on consumes a byte, so the pending bytes bound the iterations. -/
def readLoop (views : List AuxiliaryView) (reader : Reader) : LoopResult :=
  loop (reader.pending.length + 1) views {} reader

end ReadLoop
