import EybondLocal.Transport.BinaryFraming
import Mathlib.Order.Lattice

/-!
`BinaryFrameDecoder` and `async_read_binary_frame` (`collector/transport/binary_framing.py`):
one frame is decoded from chunks of any size under a fixed deadline. Clock readings are
values of any linear order; a reading that is not finite is `none`.
-/
namespace FrameDecoder
open BinaryFraming

inductive BinaryGrammar where
  | eybond
  | aabb
  | mixed
  deriving DecidableEq, Repr

structure BinaryFrame where
  grammar : BinaryGrammar
  wire : Bytes
  header : Option EybondHeader := none
  deriving DecidableEq, Repr

def maxBinaryFrameSize : Nat := headerSize + maxEybondPayloadSize

structure Decoder (Time : Type) where
  grammar : BinaryGrammar
  lastNow : Time
  deadline : Time
  buffer : Bytes := []
  header : Option EybondHeader := none
  size : Nat := 0
  kind : Option BinaryGrammar := none
  error : String := ""
  result : Option BinaryFrame := none
  deriving DecidableEq

/-- What `_select_boundary` settles from the first eight bytes. -/
structure Boundary where
  kind : BinaryGrammar
  header : Option EybondHeader
  size : Nat
  deriving DecidableEq, Repr

def Boundary.ofHeader (header : EybondHeader) : Boundary :=
  ⟨.eybond, some header, header.totalLen⟩

def Boundary.auxiliary : Boundary := ⟨.aabb, none, aabbFrameSize⟩

def boundaryOf (grammar : BinaryGrammar) (wire : Bytes) : Except String Boundary :=
  match decodeHeader wire with
  | none => .error "struct_error"
  | some header =>
    let headerError := runtimeEybondHeaderError header
    match grammar with
    | .eybond =>
      if headerError ≠ "" then .error headerError else .ok (.ofHeader header)
    | .aabb => .ok .auxiliary
    | .mixed =>
      if aabbPrefixes.contains (wire.take 4) ∧ headerError = "" then
        .error "binary_frame_ambiguous"
      else if headerError = "" then .ok (.ofHeader header)
      else if aabbMagic.isPrefixOf wire then .ok .auxiliary
      else .error headerError

inductive Fed where
  | returned (consumed : Nat)
  | raised (reason : String)
  | looping
  deriving DecidableEq, Repr

variable {Time : Type}

namespace Decoder

def new (grammar : BinaryGrammar) (startedAt deadline : Time) : Decoder Time :=
  { grammar, lastNow := startedAt, deadline }

def target (d : Decoder Time) : Nat := if d.size = 0 then headerSize else d.size

def bytesNeeded (d : Decoder Time) : Nat :=
  if d.error ≠ "" ∨ d.result ≠ none then 0 else d.target - d.buffer.length

/-- `_fail` records the reason and raises: below, a recorded reason is a call that raised. -/
def fail (d : Decoder Time) (reason : String) : Decoder Time := { d with error := reason }

def selectBoundary (d : Decoder Time) : Decoder Time :=
  match boundaryOf d.grammar d.buffer with
  | .error reason => d.fail reason
  | .ok boundary =>
    { d with kind := some boundary.kind, header := boundary.header, size := boundary.size }

def publish (d : Decoder Time) : Decoder Time :=
  match d.kind with
  | none => d.fail "AssertionError"
  | some kind =>
    if kind = .aabb ∧ aabbFrameError d.buffer ≠ "" then d.fail (aabbFrameError d.buffer)
    else { d with result := some ⟨kind, d.buffer, d.header⟩ }

/-- What the loop of `feed` does once it has copied the bytes it may take. -/
def settle (d : Decoder Time) : Decoder Time :=
  let d := if d.size = 0 ∧ d.buffer.length = headerSize then d.selectBoundary else d
  if d.error ≠ "" then d
  else if d.size ≠ 0 ∧ d.buffer.length = d.size then d.publish
  else d

/-- `fuel` bounds the passes of the loop; a loop that never ends shows as `looping`. -/
def feedLoop : Nat → Decoder Time → Bytes → Nat → Decoder Time × Fed
  | 0, d, _, _ => (d, .looping)
  | fuel + 1, d, data, consumed =>
    if data.length ≤ consumed then (d, .returned consumed)
    else
      let take := min (d.target - d.buffer.length) (data.length - consumed)
      let d := { d with buffer := d.buffer ++ (data.drop consumed).take take }.settle
      if d.error ≠ "" then (d, .raised d.error)
      else if d.result ≠ none then (d, .returned (consumed + take))
      else feedLoop fuel d data (consumed + take)

variable [LinearOrder Time]

def check (d : Decoder Time) (now : Option Time) : Decoder Time :=
  if d.error ≠ "" then d
  else match now with
    | none => d.fail "binary_clock_invalid"
    | some now =>
      if now < d.lastNow then d.fail "binary_clock_regressed"
      else
        let d := { d with lastNow := now }
        if d.result = none ∧ d.deadline ≤ now then d.fail "binary_frame_timeout" else d

def feed (d : Decoder Time) (data : Bytes) (now : Option Time) : Decoder Time × Fed :=
  let d := d.check now
  if d.error ≠ "" then (d, .raised d.error)
  else if d.result ≠ none then (d, .returned 0)
  else feedLoop (data.length + 1) d data 0

def finish (d : Decoder Time) (now : Option Time) : Decoder Time × Except String BinaryFrame :=
  let d := d.check now
  if d.error ≠ "" then (d, .error d.error)
  else match d.result with
    | none => (d.fail "binary_frame_truncated", .error "binary_frame_truncated")
    | some frame => (d, .ok frame)

/-- Chunks fed in order, stopping at the first call that raises; the bytes consumed in total. -/
def feedAll (d : Decoder Time) : List (Option Time × Bytes) → Decoder Time × Nat
  | [] => (d, 0)
  | (now, chunk) :: rest =>
    match d.feed chunk now with
    | (d, .returned consumed) =>
      let later := d.feedAll rest
      (later.1, consumed + later.2)
    | (d, _) => (d, 0)

end Decoder

/-- One turn of the reading loop: the clock before the read, whether the read is late, and the
    clock readings after it. -/
structure Turn (Time : Type) where
  checked : Option Time
  late : Bool
  arrived : Option Time
  finished : Option Time
  deriving DecidableEq

inductive ReadEnd where
  | frame (frame : BinaryFrame)
  | failed (reason : String)
  | waiting
  deriving DecidableEq, Repr

variable [LinearOrder Time]

def ReadEnd.ofFinish (d : Decoder Time) (now : Option Time) : ReadEnd :=
  match (d.finish now).2 with
  | .ok whole => .frame whole
  | .error reason => .failed reason

/-- The loop takes exactly `bytes_needed` bytes from the stream in each turn and also hands back
    all bytes it received; without a further turn it is still waiting, or was cancelled. -/
def readTurns (finished : Option Time) (d : Decoder Time) (stream received : Bytes) :
    List (Turn Time) → ReadEnd × Bytes
  | [] => (if d.result ≠ none then .ofFinish d finished else .waiting, received)
  | turn :: rest =>
    if d.result ≠ none then (.ofFinish d finished, received)
    else
      match d.feed [] turn.checked with
      | (_, .raised reason) => (.failed reason, received)
      | (_, .looping) => (.waiting, received)
      | (d, .returned _) =>
        if turn.late then (.failed "binary_frame_timeout", received)
        else if stream.length < d.bytesNeeded then
          match d.feed stream turn.arrived with
          | (_, .raised reason) => (.failed reason, received ++ stream)
          | (_, .looping) => (.waiting, received ++ stream)
          | (d, .returned _) => (.ofFinish d turn.finished, received ++ stream)
        else
          let tail := stream.take d.bytesNeeded
          match d.feed tail turn.arrived with
          | (_, .raised reason) => (.failed reason, received ++ tail)
          | (_, .looping) => (.waiting, received ++ tail)
          | (next, .returned _) =>
            readTurns finished next (stream.drop d.bytesNeeded) (received ++ tail) rest

def asyncReadBinaryFrame (grammar : BinaryGrammar) (startedAt deadline : Time)
    (opening : Bytes) (opened finished : Option Time) (stream : Bytes) (turns : List (Turn Time)) :
    ReadEnd × Bytes :=
  if opening.length = 0 ∨ headerSize < opening.length then
    (.failed "binary_prefix_length_invalid", [])
  else
    match (Decoder.new grammar startedAt deadline).feed opening opened with
    | (_, .raised reason) => (.failed reason, [])
    | (_, .looping) => (.waiting, [])
    | (d, .returned _) => readTurns finished d stream [] turns

end FrameDecoder
