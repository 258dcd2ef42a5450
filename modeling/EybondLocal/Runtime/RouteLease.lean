import EybondLocal.Library.PythonObject

/-!
The temporary callback routes of the runtime link (`runtime/link/cloud_routes.py`). Every lock
body is free of awaits, so a start or a stop is a task that changes the link only between two
awaits; the environment says how each awaited call ended and whose turn it is.
-/
namespace CallbackRoute
open StripText PythonObject

inductive Mode where
  | proxyCapture
  | shadowLearning
  deriving DecidableEq, Repr

def Mode.text : Mode → String
  | proxyCapture => "proxy_capture"
  | shadowLearning => "shadow_learning"

def Mode.routeRunning (mode : Mode) : PyError := ⟨.runtimeError, mode.text ++ "_route_running"⟩

inductive LeaseState where
  | starting
  | running
  | stopping
  deriving DecidableEq, Repr

structure RouteLease where
  mode : Mode
  ownerId : String
  entryId : String
  collectorIp : String
  listenPort : Int
  upstreamHost : String
  upstreamPort : Int
  state : LeaseState
  deriving DecidableEq, Repr

def ownerMismatch : PyError := ⟨.runtimeError, "route_lease_owner_mismatch"⟩

/-- What a start is called with; `outputPath` is `str(output_path)`. -/
structure StartRequest where
  mode : Mode
  ownerId : PyObj
  entryId : PyObj
  collectorIp : PyObj
  listenPort : Int
  upstreamHost : PyObj
  upstreamPort : Int
  outputPath : String
  expectedSessionProtocol : PyObj
  proxyWireMode : String := "transparent"

def normalizeRouteOwnerId (mode : Mode) (ownerId entryId : PyObj) (outputPath : String) : String :=
  if ownerId.cleanText ≠ "" then ownerId.cleanText
  else mode.text ++ ":" ++ entryId.cleanText ++ ":" ++ outputPath

namespace StartRequest

def protocolInvalid (request : StartRequest) : Bool :=
  match request.expectedSessionProtocol with
  | .str text => text ≠ strip text || !(["at_text", "eybond_framed"].contains (lower text))
  | _ => true

/-- The checks before the lease; only the proxy route has a wire mode. -/
def refusal (request : StartRequest) : Option PyError :=
  match request.mode with
  | .proxyCapture =>
    if request.proxyWireMode ≠ "transparent" then some (valueError "proxy_wire_mode_unsupported")
    else if request.protocolInvalid then
      some (valueError "proxy_expected_session_protocol_invalid")
    else none
  | .shadowLearning =>
    if request.protocolInvalid then some (valueError "shadow_expected_session_protocol_invalid")
    else none

def owner (request : StartRequest) : String :=
  normalizeRouteOwnerId request.mode request.ownerId request.entryId request.outputPath

def lease (request : StartRequest) : RouteLease where
  mode := request.mode
  ownerId := request.owner
  entryId := request.entryId.cleanText
  collectorIp := request.collectorIp.cleanText
  listenPort := request.listenPort
  upstreamHost := request.upstreamHost.cleanText
  upstreamPort := request.upstreamPort
  state := .starting

end StartRequest

inductive Task where
  | startingHandler (mode : Mode) (owner : String)
  | startingRoute (mode : Mode) (owner : String)
  | undoingRoute (mode : Mode) (owner : String) (error : PyError)
  | undoingHandler (mode : Mode) (owner : String) (error : PyError)
  | stoppingRoute (mode : Mode) (owner : String) (force : Bool) (taken : Nat)
  | stoppingHandler (mode : Mode) (owner : String) (force : Bool) (taken : Nat)
  | finished (raised : Option PyError)
  deriving DecidableEq, Repr

/-- Handlers and routes go by the number of the start that made them. `leasedTo` notes which
    start took the lease; nothing reads it. -/
structure Link where
  lease : Option RouteLease
  leasedTo : Nat
  published : Mode → Option Nat
  handlerRunning : Nat → Bool
  tasks : List Task

def Link.initial : Link := ⟨none, 0, fun _ => none, fun _ => false, []⟩

namespace Link

/-- `proxy_capture_route_running` and `shadow_learning_route_running`. -/
def routeRunning (link : Link) (mode : Mode) : Bool :=
  (link.published mode).any link.handlerRunning

def acquireRouteLease (link : Link) (request : StartRequest) : Except PyError RouteLease :=
  match link.lease with
  | some current => .error current.mode.routeRunning
  | none =>
    if request.mode ≠ .proxyCapture ∧ link.routeRunning .proxyCapture then
      .error Mode.proxyCapture.routeRunning
    else if request.mode ≠ .shadowLearning ∧ link.routeRunning .shadowLearning then
      .error Mode.shadowLearning.routeRunning
    else .ok request.lease

def setRouteLeaseState (link : Link) (owner : String) (state : LeaseState) :
    Except PyError RouteLease :=
  match link.lease with
  | none => .error ownerMismatch
  | some current =>
    if current.ownerId ≠ owner then .error ownerMismatch else .ok { current with state := state }

def beginRouteStop (link : Link) (mode : Mode) (owner : String) (force : Bool) :
    Except PyError (Option RouteLease) :=
  match link.lease with
  | none => .ok none
  | some current =>
    if current.mode ≠ mode then
      if force then .ok (some current) else .error current.mode.routeRunning
    else if strip owner ≠ "" ∧ strip owner ≠ current.ownerId ∧ force = false then
      .error ownerMismatch
    else .ok (some { current with state := .stopping })

def releaseRouteLease (link : Link) (mode : Mode) (owner : String) (force : Bool) :
    Except PyError (Option RouteLease) :=
  match link.lease with
  | none => .ok none
  | some current =>
    if current.mode ≠ mode then .ok (some current)
    else if strip owner ≠ "" ∧ strip owner ≠ current.ownerId ∧ force = false then
      .error ownerMismatch
    else .ok none

def push (link : Link) (task : Task) : Link := { link with tasks := link.tasks ++ [task] }

def retask (link : Link) (task : Nat) (next : Task) : Link :=
  { link with tasks := link.tasks.set task next }

def setHandler (link : Link) (start : Nat) (running : Bool) : Link :=
  { link with handlerRunning := fun n => if n = start then running else link.handlerRunning n }

def setPublished (link : Link) (mode : Mode) (start : Option Nat) : Link :=
  { link with published := fun m => if m = mode then start else link.published m }

/-- The last `finally` of a start or a stop: the task ends with its own outcome, or with what the
    release raised. -/
def finish (link : Link) (mode : Mode) (owner : String) (force : Bool)
    (raised : Option PyError) : Link × Task :=
  match link.releaseRouteLease mode owner force with
  | .ok lease => ({ link with lease := lease }, .finished raised)
  | .error error => (link, .finished (some error))

def finishTask (link : Link) (task : Nat) (mode : Mode) (owner : String) (force : Bool)
    (raised : Option PyError) : Link :=
  (link.finish mode owner force raised).1.retask task (link.finish mode owner force raised).2

/-- A start up to its first await; `unbuilt` is what the handler's constructor raised. -/
def beginStart (link : Link) (request : StartRequest) (unbuilt : Option PyError) : Link :=
  match request.refusal with
  | some error => link.push (.finished (some error))
  | none =>
    match link.acquireRouteLease request with
    | .error error => link.push (.finished (some error))
    | .ok lease =>
      let leased := { link with lease := some lease, leasedTo := link.tasks.length }
      match unbuilt with
      | none => leased.push (.startingHandler request.mode request.owner)
      | some error =>
        let (released, task) := leased.finish request.mode request.owner false (some error)
        released.push task

def beginStop (link : Link) (mode : Mode) (owner : String) (force : Bool) : Link :=
  match link.beginRouteStop mode owner force with
  | .error error => link.push (.finished (some error))
  | .ok lease =>
    let begun := { link with lease := lease }
    match link.published mode with
    | some start => (begun.setPublished mode none).push (.stoppingRoute mode owner force start)
    | none =>
      let (released, task) := begun.finish mode owner force none
      released.push task

/-- The section of a task after an await that returned (`none`) or raised. `handler.stop`
    clears `running` before it awaits anything. -/
def resume (link : Link) (task : Nat) (raised : Option PyError) : Link :=
  match link.tasks[task]? with
  | some (.startingHandler mode owner) =>
    match raised with
    | none => (link.setHandler task true).retask task (.startingRoute mode owner)
    | some error => (link.setHandler task false).retask task (.undoingHandler mode owner error)
  | some (.startingRoute mode owner) =>
    match raised with
    | some error => link.retask task (.undoingRoute mode owner error)
    | none =>
      match link.setRouteLeaseState owner .running with
      | .error error => link.retask task (.undoingRoute mode owner error)
      | .ok lease =>
        ({ link with lease := some lease }.setPublished mode (some task)).retask task
          (.finished none)
  | some (.undoingRoute mode owner error) =>
    (link.setHandler task false).retask task (.undoingHandler mode owner (raised.getD error))
  | some (.undoingHandler mode owner error) =>
    link.finishTask task mode owner false (some (raised.getD error))
  | some (.stoppingRoute mode owner force taken) =>
    match raised with
    | none => (link.setHandler taken false).retask task (.stoppingHandler mode owner force taken)
    -- `handler.stop()` stands after `route.stop()` in the same `try`
    | some error => link.finishTask task mode owner force (some error)
  | some (.stoppingHandler mode owner force _) => link.finishTask task mode owner force raised
  | _ => link

end Link

inductive Action where
  | beginStart (request : StartRequest) (unbuilt : Option PyError)
  | beginStop (mode : Mode) (owner : String) (force : Bool)
  | resume (task : Nat) (raised : Option PyError)

def step (link : Link) : Action → Link
  | .beginStart request unbuilt => link.beginStart request unbuilt
  | .beginStop mode owner force => link.beginStop mode owner force
  | .resume task raised => link.resume task raised

end CallbackRoute
