import EybondLocal.Library.StripText
import EybondLocal.Transport.BinaryFraming

/-!
`ModbusSession.read_registers` (`payload/modbus.py`): a register read over a payload link that
hands back answers cut short, behind leftover bytes of an earlier answer, or not at all. The
outcomes of the requests come from the transport, one for each request sent.
-/
namespace ModbusRead
open BinaryFraming StripText

/-- What `read_registers` raises: a `ModbusError` or a `ValueError`, with its text. -/
inductive ReadError where
  | modbus (text : String)
  | value (text : String)
  deriving DecidableEq, Repr

structure ReadCall where
  slaveId : UInt8
  address : Nat
  count : Nat
  function : UInt8
  deriving DecidableEq, Repr

inductive Outcome where
  | answer (response : Bytes)
  | timeout
  deriving DecidableEq, Repr

def maxReadAttempts : Nat := 3

def readFunctions : List UInt8 := [0x03, 0x04]

/-- `int.from_bytes(frame[-2:], "little")` against the CRC of the bytes before. -/
def crcMatches (frame : Bytes) : Bool :=
  littleWord (frame.drop (frame.length - 2)) ==
    (modbusCrc16 (frame.take (frame.length - 2))).toNat

def lowByte (n : Nat) : UInt8 := UInt8.ofNat (n % 256)

def registersOf : Bytes → List Nat
  | high :: low :: rest => word high low :: registersOf rest
  | [last] => [last.toNat]
  | [] => []

/-- The register words of a reply: the bytes between its header and its CRC. -/
def words (frame : Bytes) : List Nat := registersOf ((frame.take (frame.length - 2)).drop 3)

namespace ReadCall
variable (call : ReadCall)

def buildReadRequest : Except ReadError Bytes :=
  if ¬ readFunctions.contains call.function then
    .error (.value ("unsupported_read_function:" ++ toString call.function.toNat))
  else
    let payload := [call.slaveId, call.function, lowByte (call.address / 256),
      lowByte call.address, lowByte (call.count / 256), lowByte call.count]
    let crc := (modbusCrc16 payload).toNat
    .ok (payload ++ [lowByte crc, lowByte (crc / 256)])

def expectedLength : Nat := 3 + call.count * 2 + 2

def parseReadRegistersResponse (frame : Bytes) : Except ReadError (List Nat) :=
  if ¬ readFunctions.contains call.function then
    .error (.value ("unsupported_read_function:" ++ toString call.function.toNat))
  else if frame.length < 5 then .error (.modbus "response_too_short")
  else if frame.getD 0 0 ≠ call.slaveId then
    .error (.modbus ("unexpected_slave_id:" ++ toString (frame.getD 0 0).toNat))
  else if frame.getD 1 0 = call.function ||| 0x80 then
    .error (.modbus ("exception_code:" ++ toString (frame.getD 2 0).toNat))
  else if frame.getD 1 0 ≠ call.function then
    .error (.modbus ("unexpected_function:" ++ toString (frame.getD 1 0).toNat))
  else if (frame.getD 2 0).toNat ≠ call.count * 2 then
    .error (.modbus ("unexpected_byte_count:" ++ toString (frame.getD 2 0).toNat))
  else if frame.length ≠ 3 + (frame.getD 2 0).toNat + 2 then
    .error (.modbus ("unexpected_length:" ++ toString frame.length))
  else if crcMatches frame = false then .error (.modbus "crc_mismatch")
  else .ok (words frame)

/-- The bytes present agree with the slave, function and byte count of this read. -/
def agrees (frame : Bytes) : Bool :=
  decide (frame.getD 0 0 = call.slaveId ∧ frame.getD 1 0 = call.function ∧
    (frame.getD 2 0).toNat = call.count * 2)

def supported : Bool := readFunctions.contains call.function && decide (0 < call.count)

def recoverReadReplyTail (frame : Bytes) : Option Bytes :=
  if call.supported = false then none
  else if frame.length ≤ call.expectedLength then none
  else
    let tail := frame.drop (frame.length - call.expectedLength)
    if call.agrees tail = false then none
    else if crcMatches tail = false then none
    else some tail

def isReadReplyPrefix (frame : Bytes) : Bool :=
  if call.supported = false then false
  else if frame.length < 3 ∨ call.expectedLength ≤ frame.length then false
  else call.agrees frame

def reassembleSplitReadReply (start continuation : Bytes) : Option Bytes :=
  if call.isReadReplyPrefix start = false then none
  else
    let joined := start ++ continuation
    if joined.length ≠ call.expectedLength then none
    else if crcMatches joined = false then none
    else some joined

end ReadCall

def isRetryableReadError (text : String) : Bool :=
  ["response_too_short", "crc_mismatch"].contains text ||
    ["unexpected_length:", "unexpected_slave_id:", "unexpected_function:",
      "unexpected_byte_count:"].any (startsWith text)

/-- What one answer leads to: the call ends, or the answer is rejected and, when it was cut
    short, held. -/
inductive Verdict where
  | ends (result : Except ReadError (List Nat))
  | rejected (text : String) (held : List Bytes)
  deriving Repr

def ReadCall.judge (call : ReadCall) (held : List Bytes) (response : Bytes) : Verdict :=
  match call.parseReadRegistersResponse response with
  | .ok registers => .ends (.ok registers)
  | .error (.value text) => .ends (.error (.value text))
  | .error (.modbus text) =>
    match call.recoverReadReplyTail response with
    | some tail => .ends (call.parseReadRegistersResponse tail)
    | none =>
      match held.findSome? (call.reassembleSplitReadReply · response) with
      | some joined => .ends (call.parseReadRegistersResponse joined)
      | none =>
        .rejected text (if call.isReadReplyPrefix response then held ++ [response] else held)

structure Sent where
  request : Bytes
  held : List Bytes
  deriving DecidableEq, Repr

structure ReadResult where
  result : Except ReadError (List Nat)
  sent : List Sent
  deriving Repr

def ReadResult.after (sent : Sent) (later : ReadResult) : ReadResult :=
  { later with sent := sent :: later.sent }

def attempts (call : ReadCall) (request : Bytes) (outcomes : Nat → Outcome) :
    Nat → Nat → List Bytes → ReadError → ReadResult
  | 0, _, _, lastError => ⟨.error lastError, []⟩
  | left + 1, attempt, held, _ =>
    match outcomes attempt with
    | .timeout =>
      if attempt = 0 then
        (attempts call request outcomes left (attempt + 1) held (.modbus "request_timeout")).after
          ⟨request, held⟩
      else ⟨.error (.modbus "request_timeout"), [⟨request, held⟩]⟩
    | .answer response =>
      match call.judge held response with
      | .ends result => ⟨result, [⟨request, held⟩]⟩
      | .rejected text kept =>
        if isRetryableReadError text = true ∧ (attempt = 0 ∨ attempt = 1 ∧ kept ≠ []) then
          (attempts call request outcomes left (attempt + 1) kept (.modbus text)).after
            ⟨request, held⟩
        else ⟨.error (.modbus text), [⟨request, held⟩]⟩

def readRegisters (call : ReadCall) (outcomes : Nat → Outcome) : ReadResult :=
  match call.buildReadRequest with
  | .error error => ⟨.error error, []⟩
  | .ok request =>
    attempts call request outcomes maxReadAttempts 0 [] (.modbus "read_failed")

end ModbusRead
