import Mathlib.Algebra.GroupWithZero.Nat
import Mathlib.Data.List.Basic
import Mathlib.Logic.Function.Iterate
import Mathlib.Tactic.Common

/-!
EyeBond frame headers (`collector/protocol.py`) and the byte-level recognisers of the
binary readers (`collector/transport/binary_framing.py`): the runtime header check, bare
Modbus RTU read replies and the auxiliary AABB frames.
-/
namespace BinaryFraming

abbrev Bytes := List UInt8

def headerSize : Nat := 8
def wireLenOffset : Nat := 6

structure EybondHeader where
  tid : Nat
  devcode : Nat
  wireLen : Nat
  devaddr : Nat
  fcode : Nat
  deriving DecidableEq, Repr

def EybondHeader.totalLen (header : EybondHeader) : Nat := header.wireLen + wireLenOffset

def EybondHeader.payloadLen (header : EybondHeader) : Int := (header.totalLen : Int) - headerSize

def word (high low : UInt8) : Nat := high.toNat * 256 + low.toNat

def decodeHeader : Bytes → Option EybondHeader
  | b0 :: b1 :: b2 :: b3 :: b4 :: b5 :: b6 :: b7 :: _ =>
    some ⟨word b0 b1, word b2 b3, word b4 b5, b6.toNat, b7.toNat⟩
  | _ => none

def fcHeartbeat : Nat := 1
def fcQueryCollector : Nat := 2
def fcSetCollector : Nat := 3
def fcForwardToDevice : Nat := 4
def fcTriggerQueryRealTime : Nat := 17
def fcSetDeviceReg : Nat := 18
def fcTriggerQueryHistory : Nat := 19

def runtimeEybondFcodes : List Nat :=
  [fcHeartbeat, fcQueryCollector, fcSetCollector, fcForwardToDevice, fcTriggerQueryRealTime,
    fcSetDeviceReg, fcTriggerQueryHistory]

def maxEybondPayloadSize : Nat := 4096

def runtimeEybondHeaderError (header : EybondHeader) : String :=
  if header.payloadLen < 0 then "collector_frame_length_invalid"
  else if header.payloadLen > maxEybondPayloadSize then "collector_frame_payload_too_large"
  else if ¬ runtimeEybondFcodes.contains header.fcode then "collector_frame_function_invalid"
  else ""

def modbusRtuReadReplyFcodes : List UInt8 := [0x03, 0x04]
def modbusRtuMaxPlausibleByteCount : UInt8 := 252

def looksLikeStrayModbusRtuReply : Bytes → Bool
  | _ :: function :: byteCount :: _ =>
    modbusRtuReadReplyFcodes.contains function &&
      decide (0 < byteCount ∧ byteCount ≤ modbusRtuMaxPlausibleByteCount)
  | _ => false

/-- Address, function, byte count, data and two CRC bytes; 0 when the first three bytes do
    not begin such a reply. -/
def strayModbusRtuReplyLength (start : Bytes) : Nat :=
  match start with
  | _ :: _ :: byteCount :: _ =>
    if byteCount.toNat % 2 ≠ 0 ∨ looksLikeStrayModbusRtuReply (start.take 3) = false then 0
    else 3 + byteCount.toNat + 2
  | _ => 0

def crcShift (crc : BitVec 16) : BitVec 16 :=
  if crc &&& 1 = 1 then (crc >>> 1) ^^^ 0xA001 else crc >>> 1

def crcByte (crc : BitVec 16) (byte : UInt8) : BitVec 16 :=
  crcShift^[8] (crc ^^^ byte.toBitVec.setWidth 16)

def modbusCrc16 (data : Bytes) : BitVec 16 := data.foldl crcByte 0xFFFF

/-- `int.from_bytes(frame[-2:], "little")`. -/
def littleWord : Bytes → Nat
  | [low, high] => word high low
  | _ => 0

def modbusRtuCrcIsValid (frame : Bytes) : Bool :=
  if frame.length < 4 then false
  else (modbusCrc16 (frame.take (frame.length - 2))).toNat ==
    littleWord (frame.drop (frame.length - 2))

def aabbMagic : Bytes := [0xAA, 0xBB]
def aabbFrameSize : Nat := 21
def aabbSubtypes : List Bytes := [[0x02, 0x00], [0x02, 0x02]]
def aabbPrefixes : List Bytes := aabbSubtypes.map (aabbMagic ++ ·)

/-- The reason `validate_aabb_frame` raises with; the empty text is acceptance. -/
def aabbFrameError (wire : Bytes) : String :=
  if wire.length ≠ aabbFrameSize then "aabb_length_invalid"
  else if ¬ aabbMagic.isPrefixOf wire then "aabb_magic_invalid"
  else if ¬ aabbSubtypes.contains ((wire.drop 2).take 2) then "aabb_subtype_unsupported"
  else if (((wire.drop 2).dropLast.map UInt8.toNat).sum % 256) ≠
      (wire.getLast?.map UInt8.toNat).getD 0 then "aabb_checksum_invalid"
  else ""

theorem decodeHeader_of_length {frame : Bytes} (long : headerSize ≤ frame.length) :
    ∃ header, decodeHeader frame = some header := by
  match frame, long with
  | b0 :: b1 :: b2 :: b3 :: b4 :: b5 :: b6 :: b7 :: rest, _ => exact ⟨_, rfl⟩

theorem decodeHeader_append {frame : Bytes} (long : headerSize ≤ frame.length) (rest : Bytes) :
    decodeHeader (frame ++ rest) = decodeHeader frame := by
  match frame, long with
  | b0 :: b1 :: b2 :: b3 :: b4 :: b5 :: b6 :: b7 :: more, _ => rfl

/-- An accepted header claims between 0 and 4096 payload bytes. -/
theorem payloadLen_of_accepted {header : EybondHeader}
    (accepted : runtimeEybondHeaderError header = "") :
    0 ≤ header.payloadLen ∧ header.payloadLen ≤ maxEybondPayloadSize := by
  unfold runtimeEybondHeaderError at accepted
  split at accepted
  · simp at accepted
  · split at accepted
    · simp at accepted
    · omega

end BinaryFraming
