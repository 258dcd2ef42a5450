import EybondLocal.Hub.Snapshot

/-!
`async_refresh` of the runtime hub (`runtime/hub/refresh.py`) with the detection and
connection helpers it awaits (`runtime/hub/detection.py`). Every path ends in a published
snapshot; only some of them have read the device.
-/
namespace Hub
open OrderedDict PythonObject StripText HookRun HookRun.Run

def inverterIdentitySignature : Option Inverter → String
  | none => ""
  | some inverter =>
    strip inverter.driverKey ++ "|" ++ strip inverter.modelName ++ "|" ++ strip inverter.serialNumber

def inverterIdentityIsPresent (inverter : Inverter) : Bool :=
  strip inverter.modelName ≠ "" || strip inverter.serialNumber ≠ ""

section
variable {ω : Type} (host : Host ω)

def inverterIdentitiesConflict (current candidate : Inverter) : Bool :=
  let currentSerial := strip current.serialNumber
  let candidateSerial := strip candidate.serialNumber
  if currentSerial ≠ "" ∧ candidateSerial ≠ "" then currentSerial ≠ candidateSerial
  else
    let currentDriver := strip current.driverKey
    let candidateDriver := strip candidate.driverKey
    if currentDriver ≠ "" ∧ candidateDriver ≠ "" ∧ currentDriver ≠ candidateDriver then true
    else
      let currentModel := strip current.modelName
      let candidateModel := strip candidate.modelName
      currentModel ≠ "" && candidateModel ≠ "" && currentModel ≠ candidateModel &&
        !host.sharedCatalogIdentity currentModel candidateModel

def resetRuntimeMeasurementCache (hub : State) : State :=
  { hub with
    payloadError := "", measurementValues := Dict.empty, telemetry := Frame.empty,
    ownedKeys := [], diagnostics := Dict.empty, diagnosticKeys := [] }

def acceptInverterBindingIdentity : HubRun ω Unit := do
  let hub ← observe World.hub
  let token := inverterIdentitySignature hub.inverter
  if token = hub.measurementIdentity then pure ()
  else do
    hubUpdate fun hub =>
      { resetRuntimeMeasurementCache hub with
        staleOwnedKeys := hub.staleOwnedKeys ++ hub.ownedKeys
        staleDiagnosticKeys := hub.staleDiagnosticKeys ++ hub.diagnosticKeys
        measurementIdentity := token }
    note .rebound

def bindInverter (candidate : Inverter) : HubRun ω Unit := do
  hubUpdate fun hub =>
    { hub with inverter := some { candidate with details := candidate.details.erase "probe_log" } }
  acceptInverterBindingIdentity
  hubUpdate fun hub => { hub with needsLiveDetection := false, refreshAttempts := 0 }

def conflictsWithBound (previous : Option Inverter) (candidate : Inverter) : Bool :=
  match previous with
  | none => false
  | some current =>
    inverterIdentityIsPresent current && inverterIdentityIsPresent candidate &&
      inverterIdentitiesConflict host current candidate

/-- `_async_detect_driver`: the refusal text, empty on success. A bound identity is never
    swapped for a conflicting one. -/
def detectDriver : HubRun ω String := do
  let hub ← observe World.hub
  let found ← awaiting (host.detect hub.inverter)
  match found with
  | .error text => pure text
  | .ok candidate =>
    if conflictsWithBound host hub.inverter candidate then do
      hubUpdate fun hub => { hub with needsLiveDetection := false, refreshAttempts := 0 }
      pure "inverter_identity_conflict"
    else do
      bindInverter candidate
      pure ""

def isRetryableCollectorError (error : PyError) : Bool :=
  error.kind = .connectionError &&
    error.message ∈ ["collector_disconnected", "collector_not_connected",
      "collector_heartbeat_timeout", "collector_write_timeout"]

def shouldMarkSnapshotDisconnected (error : PyError) : Bool :=
  error.message ∈ ["collector_disconnected", "collector_not_connected",
    "collector_heartbeat_timeout", "collector_write_timeout"]

def shouldForceReconnect (error : PyError) : Bool := error.message ∈ ["collector_write_timeout"]

def recoverHeartbeatTimeout : HubRun ω Unit := do
  awaiting host.resetConnection
  awaiting host.linkEnsureConnected

/-- `_async_ensure_connected` with a required heartbeat. -/
def ensureConnected : HubRun ω Unit := do
  let ok ← awaiting (host.tryConnectForSessionLifecycle true)
  if ok then pure ()
  else do
    let connected ← observe fun w => host.connected w.host
    if connected then recoverHeartbeatTimeout host
    else Run.raise ⟨.connectionError, "collector_not_connected"⟩

def resolveRuntimeMeasurements (inverter : Inverter) (result : DriverReadResult) :
    HubRun ω Unit := do
  let hub ← observe World.hub
  let frame ← fromExcept (foldDriverTelemetry hub.telemetry inverter.driverKey result)
  hubUpdate fun hub =>
    { hub with
      telemetry := frame
      measurementValues :=
        if result.mode = .full then result.values
        else result.removedKeys.foldl Dict.erase (hub.measurementValues.update result.values)
      ownedKeys := hub.ownedKeys ++ result.values.items.map Prod.fst ++ result.removedKeys
      diagnostics := result.diagnostics
      diagnosticKeys := hub.diagnosticKeys ++ result.diagnostics.items.map Prod.fst }
  note (.read inverter result)

/-- The local `_async_read_driver_values`. -/
def readDriverValues : HubRun ω Values := do
  let hub ← observe World.hub
  match hub.inverter with
  | none => Run.raise ⟨.attributeError, "'NoneType' object has no attribute 'async_read_values'"⟩
  | some inverter =>
    let raw ← awaiting (host.readValues inverter)
    let result ← fromExcept (coerceDriverReadResult raw inverter.driverKey)
    resolveRuntimeMeasurements inverter result
    hubUpdate fun hub =>
      { hub with payloadError := if result.values.items.isEmpty then hub.payloadError else "" }
    observe fun w => host.measurementDiagnostics w.hub w.host

def publishFailure (collectorValues : Values) (error : PyError) : HubRun ω Snapshot :=
  publish host collectorValues error.message
    (if shouldMarkSnapshotDisconnected error then some false else none)

def readAfterReconnect (reconnect : HubRun ω Unit) (collectorValues : Values) :
    HubRun ω (Snapshot ⊕ Values) :=
  Run.recover
    (do
      reconnect
      let values ← readDriverValues host
      pure (.inr values))
    fun error => do
      let snapshot ← publishFailure host collectorValues error
      pure (.inl snapshot)

/-- The retry of a payload timeout failed while the link is up: the mapping of the last
    snapshot is published again. -/
def publishRetained (collectorValues : Values) (error : PyError) : HubRun ω Snapshot := do
  let retained ← observe fun w => w.hub.lastSnapshot.values
  hubUpdate fun hub => { hub with payloadError := error.message }
  let connected ← observe fun w => host.connected w.host
  publish host (retained.update collectorValues) error.message (some connected)

def retrySameSession (collectorValues : Values) : HubRun ω (Snapshot ⊕ Values) :=
  Run.recover
    (do
      let values ← readDriverValues host
      pure (.inr values))
    fun error =>
      if isRetryableCollectorError error then
        readAfterReconnect host (ensureConnected host) collectorValues
      else do
        let snapshot ← publishRetained host collectorValues error
        pure (.inl snapshot)

def readWithRecovery (collectorValues : Values) : HubRun ω (Snapshot ⊕ Values) :=
  Run.recover
    (do
      let values ← readDriverValues host
      pure (.inr values))
    fun error =>
      if error.message = "request_timeout" then retrySameSession host collectorValues
      else if isRetryableCollectorError error then
        readAfterReconnect host (ensureConnected host) collectorValues
      else if shouldForceReconnect error then
        readAfterReconnect host
          (do
            awaiting host.resetConnection
            ensureConnected host)
          collectorValues
      else do
        let snapshot ← publishFailure host collectorValues error
        pure (.inl snapshot)

def backoffReason (w : World ω) : String :=
  if host.lastRecoveryReason w.host ≠ "" then host.lastRecoveryReason w.host
  else if w.hub.lastSnapshot.lastError ≠ "" then w.hub.lastSnapshot.lastError
  else "request_timeout"

def refreshRead (collectorValues : Values) (detectError : String) : HubRun ω Snapshot := do
  let backoff ← observe fun w => host.backoffActive w.host
  if backoff then do
    let reason ← observe (backoffReason host)
    publish host collectorValues reason (some false)
  else do
    let outcome ← readWithRecovery host collectorValues
    match outcome with
    | .inl snapshot => pure snapshot
    | .inr values => publish host (collectorValues.update values) detectError none

def publishIntermediateSnapshot (collectorValues : Values) : HubRun ω Unit :=
  if host.hasSnapshotObserver then do
    let _ ← publish host
      (collectorValues.set "runtime_detection_status" (.text "detecting_inverter")) "" none
    pure ()
  else pure ()

def detectUnbound (collectorValues : Values) : HubRun ω (Values × String) := do
  publishIntermediateSnapshot host collectorValues
  let detectError ← detectDriver host
  if detectError = "collector_session_changed" then do
    let reconnected ← awaiting host.tryConnect
    if reconnected then do
      let values ← awaiting (host.readCollectorRuntimeValues true)
      publishIntermediateSnapshot host values
      let again ← detectDriver host
      pure (values, again)
    else pure (collectorValues, "waiting_for_collector")
  else pure (collectorValues, detectError)

def inverterBindingRefreshMaxAttempts : Nat := 3

def refreshProvisionalBinding : HubRun ω String := do
  hubUpdate fun hub => { hub with refreshAttempts := hub.refreshAttempts + 1 }
  let detectError ← detectDriver host
  if detectError ≠ "" then
    hubUpdate fun hub =>
      { hub with
        needsLiveDetection :=
          hub.needsLiveDetection && hub.refreshAttempts < inverterBindingRefreshMaxAttempts }
  else pure ()
  pure detectError

def refreshBound : HubRun ω Snapshot := do
  let collectorValues ← awaiting (host.readCollectorRuntimeValues false)
  let hub ← observe World.hub
  match hub.inverter with
  | none =>
    let detected ← detectUnbound host collectorValues
    let after ← observe World.hub
    match after.inverter with
    | none =>
      let connected ← observe fun w => host.connected w.host
      publish host detected.1 detected.2 (some connected)
    | some _ => refreshRead host detected.1 detected.2
  | some _ =>
    if hub.needsLiveDetection then do
      let detectError ← refreshProvisionalBinding host
      refreshRead host collectorValues detectError
    else refreshRead host collectorValues ""

def publishCollectorOnly (w : World ω) : Bool :=
  w.hub.inverter.isNone && host.collectorRuntimeReadFresh w.host

def refreshStaleHeartbeat : HubRun ω Snapshot := do
  let recovered ← Run.recover
    (do
      recoverHeartbeatTimeout host
      pure true)
    fun _ => pure false
  if recovered then refreshBound host
  else do
    let collectorValues ← awaiting (host.readCollectorRuntimeValues false)
    publish host collectorValues "collector_heartbeat_timeout" (some false)

def refreshWithoutHeartbeat : HubRun ω Snapshot := do
  let connected ← observe fun w => host.connected w.host
  if connected then do
    let hub ← observe World.hub
    match hub.inverter with
    | none =>
      let collectorValues ← awaiting (host.readCollectorRuntimeValues true)
      let collectorOnly ← observe (publishCollectorOnly host)
      if collectorOnly then
        publish host collectorValues "inverter_heartbeat_missing" (some true)
      else refreshStaleHeartbeat host
    | some _ => refreshStaleHeartbeat host
  else do
    let collectorValues ← awaiting (host.readCollectorRuntimeValues false)
    publish host collectorValues "waiting_for_collector" (some false)

def refreshConnected : HubRun ω Snapshot := do
  let ok ← awaiting (host.tryConnectForSessionLifecycle true)
  if ok then refreshBound host else refreshWithoutHeartbeat host

def refreshOffline : HubRun ω Snapshot := do
  let collectorValues ← awaiting (host.readCollectorRuntimeValues true)
  let collectorOnly ← observe (publishCollectorOnly host)
  if collectorOnly then publish host collectorValues "inverter_heartbeat_missing" (some true)
  else do
    let combined ← observe fun w => host.combinedCollectorRuntimeValues w.host
    publish host combined "waiting_for_collector" (some false)

def refresh : HubRun ω Snapshot := do
  let connected ← observe fun w => host.connected w.host
  if connected then refreshConnected host
  else do
    let ok ← awaiting (host.tryConnectForSessionLifecycle false)
    if ok then refreshConnected host else refreshOffline host

end
end Hub
