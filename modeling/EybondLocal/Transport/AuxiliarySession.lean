import EybondLocal.Transport.FrameDecoder
import Mathlib.Data.Nat.Basic
import Mathlib.Logic.Function.Basic

/-!
One physical session with the auxiliary grammar (`collector/transport/auxiliary_session.py`, and
the auxiliary branch of `_read_loop` in `collector/transport/connections.py`). The reader and any
number of sends take turns at their awaits; other requests and writes hold the two locks at any
time, and a cancellation, a timeout, a failed write or a disconnect may come at any await.
-/
namespace AuxiliarySession
open BinaryFraming FrameDecoder

structure Claim where
  send : Nat
  subtype : Bytes
  deriving DecidableEq, Repr

structure AuxiliaryReadSession where
  enabled : Bool
  atBoundary : Bool
  closed : Bool
  claim : Option Claim
  deriving DecidableEq, Repr

inductive Future where
  | pending
  | result (wire : Bytes)
  | failed (error : String)
  | cancelled
  deriving DecidableEq, Repr

def Future.done : Future → Bool
  | .pending => false
  | _ => true

/-- Where a send is: waiting for the request lock, for the write lock, for `drain`, for its
    future, cleaning up after a failed exchange, or over. -/
inductive Phase where
  | unsent
  | queued
  | lockingWrite
  | draining
  | waiting
  | fencing (error : String)
  | finished (outcome : Except String Bytes)
  deriving DecidableEq, Repr

structure Send where
  payload : Bytes
  subtype : Bytes
  phase : Phase
  future : Future
  deriving DecidableEq, Repr

inductive Holder where
  | send (id : Nat)
  | other
  deriving DecidableEq, Repr

/-- The reader waits for a first byte, for the two bytes after it, or for the rest of a binary
    frame; or it is inside an iteration that delivers nothing here: an AT line, a frame read while
    the grammar was not enabled, or the start of the task. -/
inductive Reader where
  | boundary
  | opening (claim : Option Claim) (received : Bytes)
  | binary (claim : Option Claim) (received : Bytes)
  | elsewhere
  | stopped
  deriving DecidableEq, Repr

inductive Mark where
  | installed (claim : Claim) (query : Bytes)
  | cleared
  | wrote (send : Nat)
  | firstByte (byte : UInt8)
  | moreBytes (bytes : Bytes)
  | delivered (send : Nat) (wire : Bytes)
  | failed (send : Nat)
  | returned (send : Nat) (wire : Bytes)
  deriving DecidableEq, Repr

/-- `pushed` are the bytes handed back to the reader, which come before any other. -/
structure State where
  session : AuxiliaryReadSession
  writerClosing : Bool
  requestHolder : Option Holder
  writeHolder : Option Holder
  sends : Nat → Send
  reader : Reader
  pushed : Bytes
  journal : List Mark

def readQueries : List (Bytes × Bytes) :=
  [([0x5a, 0xa5, 0x02, 0x00] ++ List.replicate 16 0 ++ [0x02], [0x02, 0x00]),
    ([0x5a, 0xa5, 0x02, 0x02] ++ List.replicate 16 0 ++ [0x04], [0x02, 0x02])]

def subtypeOf (payload : Bytes) : Option Bytes := readQueries.lookup payload

namespace State

def start : State where
  session := ⟨false, true, false, none⟩
  writerClosing := false
  requestHolder := none
  writeHolder := none
  sends := fun _ => ⟨[], [], .unsent, .pending⟩
  reader := .elsewhere
  pushed := []
  journal := []

def note (s : State) (mark : Mark) : State := { s with journal := s.journal ++ [mark] }

def setSend (s : State) (id : Nat) (send : Send) : State :=
  { s with sends := Function.update s.sends id send }

def setPhase (s : State) (id : Nat) (phase : Phase) : State :=
  s.setSend id { s.sends id with phase }

def settle (s : State) (id : Nat) (future : Future) : State :=
  s.setSend id { s.sends id with future }

def conclude (s : State) (id : Nat) (outcome : Except String Bytes) : State :=
  let s :=
    if s.session.claim.any fun claim => claim.send = id then
      { s with session := { s.session with claim := none } }.note .cleared
    else s
  let s := if (s.sends id).future.done then s else s.settle id .cancelled
  { s with requestHolder := none }.setPhase id (.finished outcome)

def close (s : State) : State :=
  let s := { s with session := { s.session with closed := true } }
  match s.session.claim with
  | none => s
  | some claim =>
    if (s.sends claim.send).future.done then s
    else s.settle claim.send (.failed "collector_disconnected")

def fence (s : State) (id : Nat) (error : String) : State :=
  let s := { s.close with
    writerClosing := true
    writeHolder := if s.writeHolder = some (Holder.send id) then none else s.writeHolder }
  (s.setPhase id (.fencing error)).note (.failed id)

def request (s : State) (id : Nat) (payload : Bytes) (timeoutValid : Bool) : State :=
  match subtypeOf payload with
  | none =>
    s.setSend id ⟨payload, [], .finished (.error "auxiliary_read_query_unsupported"), .cancelled⟩
  | some subtype =>
    if timeoutValid then s.setSend id ⟨payload, subtype, .queued, .pending⟩
    else
      s.setSend id
        ⟨payload, subtype, .finished (.error "auxiliary_request_timeout_invalid"), .cancelled⟩

def requestLocked (s : State) (id : Nat) : State :=
  if s.session.closed || s.writerClosing then
    s.setPhase id (.finished (.error "collector_not_connected"))
  else if !s.session.atBoundary then
    s.setPhase id (.finished (.error "auxiliary_frame_in_progress"))
  else if s.session.claim.isSome then
    s.setPhase id (.finished (.error "auxiliary_request_already_pending"))
  else
    { s with
      session := { s.session with enabled := true }
      requestHolder := some (.send id) }.setPhase id .lockingWrite

def writeLocked (s : State) (id : Nat) (raises : Bool) : State :=
  if s.session.closed || s.writerClosing then s.conclude id (.error "collector_not_connected")
  else if !s.session.atBoundary then s.conclude id (.error "auxiliary_frame_in_progress")
  else
    let claim : Claim := ⟨id, (s.sends id).subtype⟩
    let s := { s with session := { s.session with claim := some claim } }
    let s := (s.note (.installed claim (s.sends id).payload)).note (.wrote id)
    let s := { s with writeHolder := some (.send id) }.setPhase id .draining
    if raises then s.fence id "write_failed" else s

/-- The future is done and `wait_for` hands on what it holds. -/
def replied (s : State) (id : Nat) : State :=
  match (s.sends id).future with
  | .result wire => (s.conclude id (.ok wire)).note (.returned id wire)
  | .failed error => s.fence id error
  | .cancelled => s.fence id "cancelled"
  | .pending => s

def interrupted (s : State) (id : Nat) (error : String) : State :=
  match (s.sends id).phase with
  | .queued => s.setPhase id (.finished (.error error))
  | .lockingWrite => s.conclude id (.error error)
  | .draining => s.fence id error
  | .waiting => s.fence id error
  | .fencing _ => s.conclude id (.error error)
  | _ => s

/-- The first byte of a frame is consumed and the claim of this moment captured. -/
def beginFrame (s : State) (byte : UInt8) (pushed : Bytes) : State :=
  { s with
    session := { s.session with atBoundary := false }
    reader := .opening s.session.claim [byte]
    pushed := pushed }.note (.firstByte byte)

/-- The top of the loop: a byte that was handed back is read without a wait. -/
def nextFrame (s : State) (pushed : Bytes) : State :=
  if s.session.closed then { s with reader := .stopped, pushed := pushed }
  else
    let s := { s with session := { s.session with atBoundary := true } }
    match pushed with
    | [] => { s with reader := .boundary, pushed := [] }
    | byte :: rest => s.beginFrame byte rest

def decoded (received : Bytes) : Decoder Nat :=
  ((Decoder.new .mixed 0 1).feed received (some 0)).1

def accept (s : State) (frame : BinaryFrame) (claim : Option Claim) : Option State :=
  match claim with
  | none => none
  | some claim =>
    if s.session.closed || s.session.claim ≠ some claim || (s.sends claim.send).future.done then
      none
    else if (frame.wire.drop 2).take 2 ≠ claim.subtype then none
    else some ((s.settle claim.send (.result frame.wire)).note (.delivered claim.send frame.wire))

def binaryRead (s : State) (claim : Option Claim) (received : Bytes) : State :=
  let decoder := decoded received
  if decoder.error ≠ "" then { s with reader := .stopped }
  else
    match decoder.result with
    | none => { s with reader := .binary claim received }
    | some frame =>
      if frame.grammar = .aabb then
        match s.accept frame claim with
        | none => { s with reader := .stopped }
        | some s => s.nextFrame s.pushed
      else s.nextFrame s.pushed

/-- `readexactly(size)`: bytes handed back first, then those that arrive. -/
def take (s : State) (size : Nat) (arrived : Bytes) : Bytes × State :=
  let chunk := (s.pushed ++ arrived).take size
  (chunk, { s with pushed := s.pushed.drop size }.note (.moreBytes chunk))

def atMarker : Bytes := [0x41, 0x54, 0x2B]

/-- The awaited bytes are there: exactly as many as asked for, unless the wait goes on. -/
def bytesArrive (s : State) (arrived : Bytes) : State :=
  match s.reader with
  | .opening claim received =>
    if arrived.length ≠ 2 - s.pushed.length then s
    else if s.session.closed then { s with reader := .stopped }
    else
      let (chunk, s) := s.take 2 arrived
      if received ++ chunk = atMarker then { s with reader := .elsewhere }
      else if s.session.enabled then s.binaryRead claim (received ++ chunk)
      else { s with reader := .elsewhere }
  | .binary claim received =>
    if arrived.length ≠ (decoded received).bytesNeeded - s.pushed.length then s
    else if s.session.closed then { s with reader := .stopped }
    else
      let (chunk, s) := s.take (decoded received).bytesNeeded arrived
      s.binaryRead claim (received ++ chunk)
  | _ => s

end State

inductive Event where
  | request (id : Nat) (payload : Bytes) (timeoutValid : Bool)
  | requestLocked (id : Nat)
  | writeLocked (id : Nat) (raises : Bool)
  | drained (id : Nat)
  | replied (id : Nat)
  | interrupted (id : Nat) (error : String)
  | cleaned (id : Nat)
  | otherRequest (holds : Bool)
  | otherWrite (holds : Bool)
  | writerCloses
  | sessionCloses
  | byteArrives (byte : UInt8)
  | bytesArrive (arrived : Bytes)
  | iterationEnds (pushed : Bytes)
  | readerStops
  deriving DecidableEq, Repr

def otherHolder (holder : Option Holder) (holds : Bool) : Option Holder :=
  match holder, holds with
  | none, true => some .other
  | some .other, false => none
  | holder, _ => holder

def step (s : State) : Event → State
  | .request id payload timeoutValid =>
    if (s.sends id).phase = .unsent then s.request id payload timeoutValid else s
  | .requestLocked id =>
    if (s.sends id).phase = .queued ∧ s.requestHolder = none then s.requestLocked id else s
  | .writeLocked id raises =>
    if (s.sends id).phase = .lockingWrite ∧ s.writeHolder = none then s.writeLocked id raises else s
  | .drained id =>
    if (s.sends id).phase = .draining then { s with writeHolder := none }.setPhase id .waiting else s
  | .replied id => if (s.sends id).phase = .waiting then s.replied id else s
  | .interrupted id error => s.interrupted id error
  | .cleaned id =>
    match (s.sends id).phase with
    | .fencing error => s.conclude id (.error error)
    | _ => s
  | .otherRequest holds => { s with requestHolder := otherHolder s.requestHolder holds }
  | .otherWrite holds => { s with writeHolder := otherHolder s.writeHolder holds }
  | .writerCloses => { s with writerClosing := true }
  | .sessionCloses => s.close
  | .byteArrives byte =>
    if s.reader = .boundary then
      if s.session.closed then { s with reader := .stopped } else s.beginFrame byte []
    else s
  | .bytesArrive arrived => s.bytesArrive arrived
  | .iterationEnds pushed => if s.reader = .elsewhere then s.nextFrame pushed else s
  | .readerStops => { s with reader := .stopped }

def run (s : State) (events : List Event) : State := events.foldl step s

end AuxiliarySession
