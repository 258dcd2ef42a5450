import EybondLocal.CollectorIdentity
import EybondLocal.Library.DelimitedLines
import EybondLocal.Payload.AtLine

/-!
`AtChunkProxyFilter` (`support/collector_cloud_proxy.py`): what one direction of the proxy does to
the chunks it forwards. AT text is held back until its line is complete; the collector's answer
about its server endpoint is replaced while the cloud's question about it is pending.
-/
namespace ChunkFilter
open StripText AtLine DelimitedLines CollectorIdentity

inductive Direction where
  | collectorToCloud
  | cloudToCollector
  | other
  deriving DecidableEq, Repr

structure SessionObservation where
  sawAtTraffic : Bool := false
  pendingMaskedEndpointResponse : Bool := false
  collectorPn : String := ""
  identitySource : String := ""
  deriving DecidableEq, Repr

structure AtChunkProxyFilter where
  direction : Direction
  maskedEndpoint : String
  expectedCollectorPn : String
  deriving Repr

/-- What the filter changes: the bytes held back and the observation it shares. -/
structure FilterState where
  buffer : Bytes
  observed : SessionObservation
  deriving DecidableEq, Repr

inductive ProxyEvent where
  | identityObserved (collectorPn identitySource : String) (identityVerified : Bool)
  | maskedEndpointResponse (command : String) (forwarded original : Bytes)
  deriving DecidableEq, Repr

def newline : UInt8 := 0x0A

def atMarker : Bytes := [0x41, 0x54, 0x2B]

def isWhitespace (byte : UInt8) : Bool := (9 ≤ byte && byte ≤ 13) || byte == 32

def looksLikeAtTraffic (chunk : Bytes) : Bool :=
  atMarker.isPrefixOf (chunk.dropWhile isWhitespace)

def proxyIdentityEvent (expectedPn observedPn identitySource : String) : ProxyEvent :=
  .identityObserved observedPn identitySource
    (expectedPn != "" && pnIsSameIdentity expectedPn observedPn)

namespace AtChunkProxyFilter

def new (direction : Direction) (maskedEndpoint expectedCollectorPn : String) :
    AtChunkProxyFilter := ⟨direction, strip maskedEndpoint, strip expectedCollectorPn⟩

variable (filter : AtChunkProxyFilter)

/-- The bytes to forward for a line, the event, and the observation after it. A masked endpoint
    that is not ASCII raises out of the filter. -/
def handleCollectorLine (observed : SessionObservation) (line : Bytes) :
    Except AtError (Bytes × Option ProxyEvent × SessionObservation) :=
  match parseAtResponse line with
  | .error _ => .ok (line, none, observed)
  | .ok response =>
    let observed := { observed with sawAtTraffic := true }
    if response.command = "DTUPN" ∧ response.value ≠ "" then
      let observedPn := strip response.value
      .ok (line, some (proxyIdentityEvent filter.expectedCollectorPn observedPn "at_dtupn"),
        { observed with collectorPn := observedPn, identitySource := "at_dtupn" })
    else if observed.pendingMaskedEndpointResponse = false then .ok (line, none, observed)
    else
      let observed := { observed with pendingMaskedEndpointResponse := false }
      if response.command ≠ "CLDSRVHOST1" ∨ filter.maskedEndpoint = "" then
        .ok (line, none, observed)
      else
        match buildAtResponse "CLDSRVHOST1" filter.maskedEndpoint with
        | .error error => .error error
        | .ok masked =>
          if masked = line then .ok (line, none, observed)
          else .ok (masked, some (.maskedEndpointResponse response.command masked line), observed)

def handleCloudLine (observed : SessionObservation) (line : Bytes) :
    Bytes × Option ProxyEvent × SessionObservation :=
  match parseAtCommand line with
  | .error _ => (line, none, observed)
  | .ok command =>
    let observed := { observed with sawAtTraffic := true }
    if command.command = "CLDSRVHOST1" ∧ command.operation = "query" ∧ filter.maskedEndpoint ≠ "" then
      (line, none, { observed with pendingMaskedEndpointResponse := true })
    else (line, none, observed)

def transformLine (observed : SessionObservation) (line : Bytes) :
    Except AtError (Bytes × Option ProxyEvent × SessionObservation) :=
  match filter.direction with
  | .collectorToCloud => filter.handleCollectorLine observed line
  | .cloudToCollector => .ok (filter.handleCloudLine observed line)
  | .other => .ok (line, none, observed)

structure Forwarded where
  bytes : Bytes
  events : List ProxyEvent
  state : FilterState
  deriving DecidableEq, Repr

/-- `while True`: every complete line of the buffer is transformed and forwarded. A line is at
    least its newline, so the length of the buffer bounds the rounds. -/
def takeLines : Nat → FilterState → Except AtError Forwarded
  | 0, state => .ok ⟨[], [], state⟩
  | rounds + 1, state =>
    match splitLine newline state.buffer with
    | none => .ok ⟨[], [], state⟩
    | some (line, rest) =>
      match filter.transformLine state.observed line with
      | .error error => .error error
      | .ok (transformed, event, observed) =>
        match takeLines rounds ⟨rest, observed⟩ with
        | .error error => .error error
        | .ok later =>
          .ok ⟨transformed ++ later.bytes, event.toList ++ later.events, later.state⟩

def feed (state : FilterState) (chunk : Bytes) : Except AtError Forwarded :=
  if chunk = [] then .ok ⟨[], [], state⟩
  else if state.buffer = [] ∧ looksLikeAtTraffic chunk = false then .ok ⟨chunk, [], state⟩
  else
    let buffer := state.buffer ++ chunk
    match filter.takeLines buffer.length ⟨buffer, state.observed⟩ with
    | .error error => .error error
    | .ok taken =>
      if taken.state.buffer ≠ [] ∧ looksLikeAtTraffic taken.state.buffer = false then
        .ok ⟨taken.bytes ++ taken.state.buffer, taken.events, ⟨[], taken.state.observed⟩⟩
      else .ok taken

def flush (state : FilterState) : Bytes := state.buffer

def pipe : FilterState → List Bytes → Except AtError Bytes
  | state, [] => .ok (flush state)
  | state, chunk :: chunks =>
    match filter.feed state chunk with
    | .error error => .error error
    | .ok forwarded =>
      match pipe forwarded.state chunks with
      | .error error => .error error
      | .ok later => .ok (forwarded.bytes ++ later)

/-- `_transform_line` applied to the lines in order. -/
def transformLines : SessionObservation → List Bytes → Except AtError Bytes
  | _, [] => .ok []
  | observed, line :: lines =>
    match filter.transformLine observed line with
    | .error error => .error error
    | .ok (transformed, _, observed) =>
      match transformLines observed lines with
      | .error error => .error error
      | .ok later => .ok (transformed ++ later)

end AtChunkProxyFilter
end ChunkFilter
