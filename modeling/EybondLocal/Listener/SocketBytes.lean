import EybondLocal.Library.BlockStream
import EybondLocal.Library.Execution
import EybondLocal.Listener.Sections

/-!
The bytes of one pending socket (`_read_pending_initial_chunk`, `_async_probe_pending_identity`,
`_park_unclaimed_pending_socket`, `_watch_parked_pending_socket`,
`_identify_pending_socket_for_route`, `_read_identity_probe_response` and `connection.run`).
Bytes are on their way, received by the stream, in the local chunk of a task or in
`initial_bytes`. Any number of tasks may hold the reader; a step is one task going on from the
await it is suspended in, or a call that starts a task, cancels one, or takes the socket.
-/
namespace Listener
open BinaryFraming BlockStream

inductive ReaderTask where
  | idle
  /-- The sniffer in `read(64)`. -/
  | reading
  /-- The sniffer has sent an identity request and reads the answer. -/
  | challenged
  /-- The sniffer waits for the rest of its first frame. -/
  | completing (chunk : Bytes) (need : Nat)
  | watching
  /-- A route identity attempt in its first `read(64)`. -/
  | listening
  | requested (wire : Wire)
  /-- The attempt has taken this header and waits for the payload. -/
  | awaitingPayload (header : Bytes) (need : Nat)
  deriving DecidableEq, Repr

inductive Place where
  | pending
  /-- Taken by a caller that has not activated it yet. -/
  | claimed
  | closed
  /-- `connection.run` was started with these initial bytes in front of these unread ones. -/
  | running (initialBytes unread : Bytes)
  deriving DecidableEq, Repr

structure Socket where
  coming : Bytes
  arrived : Bytes
  initialBytes : Bytes
  place : Place
  tasks : Nat → ReaderTask

/-- What wakes a task: bytes in the stream, the timer, the end of the stream, or an error. -/
inductive Wakeup where
  | data
  | timer
  | eof
  | failure
  deriving DecidableEq, Repr

structure Choice where
  /-- A connection takes the socket, which has an owner or a placeholder. -/
  route : Bool := false
  /-- One protocol is registered, so a silent socket gets an identity request. -/
  challenge : Bool := false
  /-- The request that follows the first read of a route identity attempt, if any does. -/
  request : Option Wire := none
  /-- The deadline has passed after a header, or a frame carried the identity. -/
  stops : Bool := false
  deriving DecidableEq, Repr

namespace Socket

def accepted (stream : Bytes) : Socket := ⟨stream, [], [], .pending, fun _ => .idle⟩

def unread (s : Socket) : Bytes := s.arrived ++ s.coming

def setTask (s : Socket) (i : Nat) (task : ReaderTask) : Socket :=
  { s with tasks := fun j => if j = i then task else s.tasks j }

def consume (s : Socket) (n : Nat) : Socket := { s with arrived := s.arrived.drop n }

def atEof (s : Socket) (wanted : Nat) : Bool := s.arrived.length < wanted && s.coming = []

def park (s : Socket) (i : Nat) (chunk : Bytes) : Socket :=
  { s with initialBytes := chunk ++ s.initialBytes }.setTask i .watching

/-- `_sniff_pending_socket` once its chunk is read. -/
def settle (s : Socket) (i : Nat) (chunk : Bytes) (exhausted route : Bool) : Socket :=
  if s.place ≠ .pending then s.setTask i .idle
  else if chunk = [] then
    if exhausted then { s with place := .closed }.setTask i .idle else s.park i []
  else if classifyInitialProtocolShape chunk = .unknown ∧ chunk.length < headerSize then
    s.park i chunk
  else if route then { s with place := .running chunk s.unread }.setTask i .idle
  else s.park i chunk

/-- The bytes the first frame of a chunk still lacks, when it has a plausible header. -/
def missingBytes (chunk : Bytes) : Nat :=
  match decodeHeader chunk with
  | none => 0
  | some header =>
    let frameLen := headerSize + header.payloadLen.toNat
    if frameLen ≤ headerSize + maxEybondPayloadSize then frameLen - chunk.length else 0

/-- `_read_pending_initial_chunk` from its first bytes on. -/
def examine (s : Socket) (i : Nat) (chunk : Bytes) (route : Bool) : Socket :=
  if missingBytes chunk = 0 then s.settle i chunk false route
  else s.setTask i (.completing chunk (missingBytes chunk))

/-- The start of `_sniff_pending_socket`. -/
def sniff (s : Socket) (i : Nat) (route : Bool) : Socket :=
  if s.initialBytes = [] then s.setTask i .reading
  else { s with initialBytes := [] }.examine i s.initialBytes route

def parkedIdentityBufferLimit : Nat := 512

def capped (initialBytes data : Bytes) : Bytes × Bytes :=
  if initialBytes.length < parkedIdentityBufferLimit then
    ((initialBytes ++ data).take parkedIdentityBufferLimit,
      (initialBytes ++ data).drop parkedIdentityBufferLimit)
  else (initialBytes, data)

def watched (s : Socket) (i : Nat) (route : Bool) : Socket :=
  let buffered :=
    { s with initialBytes := (capped s.initialBytes (s.arrived.take 256)).1 }.consume 256
  if s.initialBytes.length < parkedIdentityBufferLimit ∧
      classifyInitialProtocolShape buffered.initialBytes ≠ .unknown then
    buffered.sniff i route
  else buffered

def unwatched (s : Socket) (i : Nat) : Socket :=
  if s.place = .pending then { s with place := .closed }.setTask i .idle else s.setTask i .idle

def heard (s : Socket) (i : Nat) (request : Option Wire) : Socket :=
  s.setTask i (request.elim .idle .requested)

/-- The largest frame `_read_identity_probe_response` reads. -/
def maxProbedFrame : Nat := 4096

/-- `_read_identity_probe_response` has read a header. -/
def headerRead (s : Socket) (i : Nat) (stops : Bool) : Socket :=
  match decodeHeader (s.arrived.take headerSize) with
  | none => (s.consume headerSize).setTask i .idle
  | some header =>
    if header.totalLen < headerSize ∨ header.totalLen > maxProbedFrame ∨ stops then
      (s.consume headerSize).setTask i .idle
    else
      (s.consume headerSize).setTask i
        (.awaitingPayload (s.arrived.take headerSize) header.payloadLen.toNat)

/-- `readexactly` at the end of the stream takes the bytes that are left. -/
def incomplete (s : Socket) (i : Nat) : Socket := { s with arrived := [] }.setTask i .idle

def taskGoesOn (s : Socket) (i : Nat) (wakeup : Wakeup) (choice : Choice) : Socket :=
  match s.tasks i, wakeup with
  | .idle, _ => s
  | .reading, .data =>
    if s.arrived = [] then s else (s.consume 64).examine i (s.arrived.take 64) choice.route
  | .reading, .timer =>
    if choice.challenge then s.setTask i .challenged else s.settle i [] false choice.route
  | .reading, .eof => if s.atEof 1 then s.settle i [] true choice.route else s
  | .reading, .failure => s.settle i [] true choice.route
  | .challenged, .data =>
    if s.arrived = [] then s else (s.consume 64).settle i (s.arrived.take 64) false choice.route
  | .challenged, .eof => if s.atEof 1 then s.settle i [] false choice.route else s
  | .challenged, .timer | .challenged, .failure => s.settle i [] false choice.route
  | .completing chunk need, .data =>
    if s.arrived.length < need then s
    else (s.consume need).settle i (chunk ++ s.arrived.take need) false choice.route
  | .completing chunk _, .timer => s.settle i chunk false choice.route
  | .completing chunk need, .eof =>
    if s.atEof need then
      { s with arrived := [] }.settle i (chunk ++ s.arrived) true choice.route
    else s
  | .completing chunk _, .failure => s.settle i chunk true choice.route
  | .watching, .data => if s.arrived = [] then s else s.watched i choice.route
  | .watching, .eof => if s.atEof 1 then s.unwatched i else s
  | .watching, .timer | .watching, .failure => s.unwatched i
  | .listening, .data =>
    if s.arrived = [] then s
    else
      ({ s with initialBytes := s.initialBytes ++ s.arrived.take 64 }.consume 64).heard i
        choice.request
  | .listening, .eof => if s.atEof 1 then s.heard i choice.request else s
  | .listening, .timer => s.heard i choice.request
  | .listening, .failure => s.setTask i .idle
  | .requested .atText, .data =>
    if s.arrived = [] then s else (s.consume 128).setTask i .idle
  | .requested .atText, .eof => if s.atEof 1 then s.setTask i .idle else s
  | .requested .framed, .data =>
    if s.arrived.length < headerSize then s else s.headerRead i choice.stops
  | .requested .framed, .eof => if s.atEof headerSize then s.incomplete i else s
  | .requested _, .timer | .requested _, .failure => s.setTask i .idle
  | .awaitingPayload _ need, .data =>
    if s.arrived.length < need then s
    else (s.consume need).setTask i (if choice.stops then .idle else .requested .framed)
  | .awaitingPayload _ need, .eof => if s.atEof need then s.incomplete i else s
  | .awaitingPayload _ _, .timer | .awaitingPayload _ _, .failure => s.setTask i .idle

end Socket

inductive SocketEvent where
  | arrives (n : Nat)
  /-- A sniffer starts: after the accept, or when an exclusive route ends. -/
  | sniffs (task : Nat) (route : Bool)
  /-- `_resume_pending_watch` starts a watch. -/
  | watches (task : Nat)
  /-- A route identity attempt starts to read. -/
  | identifies (task : Nat)
  | goesOn (task : Nat) (wakeup : Wakeup) (choice : Choice)
  /-- `_pause_pending_sniff`, or the cancellation of an identity attempt. -/
  | cancels (task : Nat)
  /-- `_claim_pending_socket`, with the task it cancels. -/
  | claims (task : Option Nat)
  /-- `activate_pending_connection` and its AT sibling. -/
  | activates
  /-- The socket is evicted, retired or released, and its task cancelled. -/
  | closes (task : Option Nat)

/-- A task starts only on a registered socket, and its number is a new one. -/
def Socket.startable (s : Socket) (i : Nat) : Bool := s.place = .pending && s.tasks i = .idle

def Socket.dismiss (s : Socket) (task : Option Nat) : Socket := task.elim s (s.setTask · .idle)

def socketStep (s : Socket) : SocketEvent → Socket
  | .arrives n => { s with arrived := s.arrived ++ s.coming.take n, coming := s.coming.drop n }
  | .sniffs i route => if s.startable i then s.sniff i route else s
  | .watches i => if s.startable i then s.setTask i .watching else s
  | .identifies i => if s.startable i then s.setTask i .listening else s
  | .goesOn i wakeup choice => s.taskGoesOn i wakeup choice
  | .cancels i => s.setTask i .idle
  | .claims task =>
    if s.place = .pending then { s.dismiss task with place := .claimed } else s
  | .activates =>
    if s.place = .claimed then
      { s with place := .running s.initialBytes s.unread, initialBytes := [] }
    else s
  | .closes task => if s.place = .pending then { s.dismiss task with place := .closed } else s

def Follows (s : Socket) (l : SharedListener) (sid : String) : SharedListener.Sniffed → Prop
  | .gone => False
  | .parked => s.place = .pending ∧
    (l.pending.get? sid).map Pending.initialBytes = some s.initialBytes
  | .closed => s.place = .closed
  | .bound _ _ => ∃ chunk unread, s.place = .running chunk unread

open SharedListener in
theorem parkUnclaimed_initialBytes (l : SharedListener) (p : Pending) (chunk : Bytes)
    (state : SessionState) :
    ((l.parkUnclaimed p chunk state).pending.get? p.sessionId).map Pending.initialBytes =
      some (chunk ++ p.initialBytes) := by
  simp [parkUnclaimed, markState]

theorem park_follows {s : Socket} {p : Pending} (here : s.place = .pending)
    (same : s.initialBytes = p.initialBytes) (i : Nat) (l : SharedListener) (chunk : Bytes)
    (state : SessionState) :
    Follows (s.park i chunk) (l.parkUnclaimed p chunk state) p.sessionId .parked := by
  refine ⟨here, ?_⟩
  rw [parkUnclaimed_initialBytes, ← same]
  rfl

open SharedListener in
/-- Whatever owners, routes and connections the listener has, its section does with the bytes
    what `settle` does under one of its choices. -/
theorem settle_follows_sniffed (rules : Rules) (l : SharedListener) (p : Pending)
    (held : l.pending.get? p.sessionId = some p) (s : Socket) (here : s.place = .pending)
    (same : s.initialBytes = p.initialBytes) (i : Nat) (chunk : Bytes) (exhausted : Bool) :
    ∃ route, Follows (s.settle i chunk exhausted route)
      (l.sniffed rules p.sessionId chunk exhausted).1 p.sessionId
      (l.sniffed rules p.sessionId chunk exhausted).2 := by
  have registered : ¬ s.place ≠ .pending := fun elsewhere => elsewhere here
  unfold Socket.settle sniffed
  rw [held]
  simp only [if_neg registered]
  by_cases silent : chunk = []
  · subst silent
    refine ⟨false, ?_⟩
    rw [if_pos rfl, if_pos rfl]
    split
    · rfl
    · exact park_follows here same i l [] _
  · simp only [if_neg silent]
    by_cases short : (firstChunk rules chunk).shape = .unknown ∧ chunk.length < headerSize
    · refine ⟨false, ?_⟩
      have shape : classifyInitialProtocolShape chunk = .unknown ∧ chunk.length < headerSize := short
      rw [if_pos short, if_pos shape]
      exact park_follows here same i _ chunk _
    · have shape : ¬ (classifyInitialProtocolShape chunk = .unknown ∧ chunk.length < headerSize) :=
        short
      simp only [if_neg short, if_neg shape]
      generalize (if (firstChunk rules chunk).pn = "" then
        (l.markFirstBytes p.sessionId chunk).removePending p.sessionId
        else ((l.markFirstBytes p.sessionId chunk).removePending p.sessionId).markIdentity
          p.sessionId (firstChunk rules chunk).pn (firstChunk rules chunk).source) = noted
      split
      · exact ⟨false, park_follows here same i _ chunk _⟩
      · unfold routeOn
        dsimp only
        split
        · exact ⟨true, chunk, s.unread, rfl⟩
        · exact ⟨false, park_follows here same i _ chunk _⟩

end Listener
