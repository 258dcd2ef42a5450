import EybondLocal.Hub.Telemetry
import EybondLocal.Library.HookRun

/-!
The runtime hub and the snapshot it publishes (`runtime/hub/snapshot.py`). The mapping of a
snapshot is assembled in layers over the mapping of the last one. The layers that write
collector, management and recovery entries are the host's; the driver's own entries, typed and
untyped, are written here.
-/
namespace Hub
open OrderedDict PythonObject StripText HookRun HookRun.Run

inductive ValueKind where
  | action
  | timeWords
  | other (name : String)
  deriving DecidableEq, Repr

structure Capability where
  key : String
  valueKind : ValueKind
  readKey : String := ""
  displayName : String := ""
  enumValueMap : List (Int × String) := []
  deriving DecidableEq, Repr

def Capability.valueKey (capability : Capability) : String :=
  if capability.readKey = "" then capability.key else capability.readKey

structure Inverter where
  driverKey : String
  modelName : String
  serialNumber : String
  variantKey : String
  details : Values
  capabilities : List Capability

structure Snapshot where
  connected : Bool
  values : Values
  telemetry : Frame
  /-- Empty for `None`: the code asks only for truth and for given texts. -/
  lastError : String

structure State where
  inverter : Option Inverter
  needsLiveDetection : Bool
  refreshAttempts : Nat
  measurementIdentity : String
  measurementValues : Values
  telemetry : Frame
  ownedKeys : List String
  staleOwnedKeys : List String
  diagnostics : Values
  diagnosticKeys : List String
  staleDiagnosticKeys : List String
  payloadError : String
  lastSnapshot : Snapshot

structure Awaited (ω α : Type) where
  host : ω
  ending : Ending PyError α

/-- Everything outside the hub: the link, the collector metadata service, the detection sweep,
    the driver with its device, the recovery clock and the tables of canonical measurements. -/
structure Host (ω : Type) where
  connected : ω → Bool
  tryConnectForSessionLifecycle : (requireHeartbeat : Bool) → ω → Awaited ω Bool
  tryConnect : ω → Awaited ω Bool
  resetConnection : ω → Awaited ω Unit
  linkEnsureConnected : ω → Awaited ω Unit
  readCollectorRuntimeValues : (forceLiveness : Bool) → ω → Awaited ω Values
  collectorRuntimeReadFresh : ω → Bool
  combinedCollectorRuntimeValues : ω → Values
  /-- The sweep of `_async_detect_driver`: a refusal text, or the inverter it found. -/
  detect : Option Inverter → ω → Awaited ω (Except String Inverter)
  backoffActive : ω → Bool
  lastRecoveryReason : ω → String
  readValues : Inverter → ω → Awaited ω RawRead
  writeCapability : Inverter → String → Value → ω → Awaited ω Value
  /-- The error raised for a refused write: the classification's own, or the error itself. -/
  classifyWriteError : Capability → PyError → ω → PyError
  /-- The reasons a capability is not editable under the runtime values. -/
  blockedReasons : Capability → Values → Option String
  monotonic : ω → ℚ
  repr : Value → String
  hasSnapshotObserver : Bool
  sharedCatalogIdentity : String → String → Bool
  collectorPn : ω → String
  collectorLayer : State → ω → Values → Values
  closingLayer : State → ω → Values → Values
  publishedLayer : State → ω → Values → Values
  measurementDiagnostics : State → ω → Values
  inverterOverlay : ω → Inverter → Inverter
  canonicalKeys : String → List String
  projectCanonical : Frame → Option String → Frame
  /-- Native driver keys always win. -/
  project_native : ∀ frame variant key point, frame.points.get? key = some point →
    (projectCanonical frame variant).points.get? key = some point

inductive Deed where
  | resolved (capability : Capability)
  | sent
  | refused (error : PyError)
  /-- The driver returned from a write, over the frame of the reads before it. -/
  | accepted (written : Value) (frame : Frame)
  | read (inverter : Inverter) (result : DriverReadResult)
  /-- Another identity was bound and the measurements of the last one dropped. -/
  | rebound
  | compared (capability : Capability) (elapsed : ℚ) (readback : Value)

structure World (ω : Type) where
  hub : State
  host : ω
  journal : List Deed

abbrev HubRun (ω α : Type) := Run (World ω) PyError α

section
variable {ω α : Type}

def awaiting (action : ω → Awaited ω α) : HubRun ω α := fun w =>
  ({ w with host := (action w.host).host }, (action w.host).ending)

def hubUpdate (change : State → State) : HubRun ω Unit :=
  Run.call (fun w => { w with hub := change w.hub }) (.returned ())

def note (deed : Deed) : HubRun ω Unit :=
  Run.call (fun w => { w with journal := w.journal ++ [deed] }) (.returned ())

def fromExcept (result : Except PyError α) : HubRun ω α :=
  match result with
  | .ok value => pure value
  | .error error => Run.raise error

end

def volatileCollectorValueKeys : List String :=
  ["smartess_collector_version", "smartess_protocol_raw_id", "smartess_protocol_asset_id",
    "smartess_protocol_asset_name", "smartess_protocol_suffix", "smartess_protocol_profile_key",
    "smartess_protocol_name", "smartess_device_address", "collector_protocol_version",
    "collector_type", "collector_hardware_version", "collector_local_ip_address",
    "collector_server_endpoint", "collector_callback_owner", "collector_reboot_required",
    "collector_transmission_mode", "collector_serial_baudrate", "collector_network_diagnostics",
    "collector_signal_strength", "collector_signal_strength_raw",
    "collector_signal_strength_source", "collector_signal_quality", "collector_upload_mode",
    "collector_system_time", "collector_link_status", "collector_cloud_heartbeat_value",
    "collector_ssid", "collector_wifi_scan_list", "collector_virtual_bridge",
    "collector_bridge_kind", "collector_bridge_version", "collector_udp_reply",
    "collector_udp_reply_from"]

section
variable {ω : Type} (host : Host ω)

def strippedKeys (hub : State) : List String :=
  (hub.inverter.map fun inverter => host.canonicalKeys inverter.driverKey).getD [] ++
    hub.ownedKeys ++ hub.staleOwnedKeys ++ hub.diagnosticKeys ++ hub.staleDiagnosticKeys

def carriedValues (hub : State) : Values :=
  hub.lastSnapshot.values.restrict fun key =>
    !startsWith key "capability_block_" && key ∉ strippedKeys host hub &&
      key ∉ volatileCollectorValueKeys && key ≠ "probe_log"

def detailValues (hub : State) (inverter : Inverter) : Values :=
  if hub.ownedKeys.isEmpty then inverter.details.restrict fun key => key ≠ "probe_log"
  else inverter.details.restrict fun key => key ≠ "probe_log" && key ∉ hub.ownedKeys

def driverLayer (hub : State) (values : Values) : Values :=
  match hub.inverter with
  | none => values
  | some inverter =>
    ((values.update (detailValues hub inverter)).update hub.measurementValues).update
      hub.diagnostics

def safeExtraValues (w : World ω) (extra : Values) : Values :=
  match extra.get? "collector_pn" with
  | none => extra
  | some _ =>
    if host.collectorPn w.host = "" then extra.erase "collector_pn"
    else extra.set "collector_pn" (.text (host.collectorPn w.host))

def assembledValues (w : World ω) (extra : Values) : Values :=
  let collected := host.collectorLayer w.hub w.host (carriedValues host w.hub)
  let driven := (driverLayer w.hub collected).update (safeExtraValues host w extra)
  host.closingLayer w.hub w.host driven

def typedTelemetry (hub : State) (lastError : String) (connected : Bool) : Frame :=
  let projected :=
    match hub.inverter with
    | none => hub.telemetry
    | some inverter =>
      host.projectCanonical hub.telemetry
        (if inverter.variantKey = "" then none else some inverter.variantKey)
  if lastError ≠ "" ∨ connected = false then projected.asCarried else projected

/-- `_build_snapshot` followed by `self._last_snapshot = snapshot`. -/
def publish (extra : Values) (lastError : String) (connected : Option Bool) :
    HubRun ω Snapshot := fun w =>
  let online := connected.getD (host.connected w.host)
  let values := assembledValues host w extra
  let hub := { w.hub with inverter := w.hub.inverter.map (host.inverterOverlay w.host) }
  let telemetry := typedTelemetry host hub lastError online
  let broad := values.restrict fun key => (telemetry.points.get? key).isNone
  let snapshot : Snapshot :=
    { connected := online, values := host.publishedLayer hub w.host broad, telemetry, lastError }
  ({ w with hub := { hub with lastSnapshot := snapshot } }, .returned snapshot)

end

def Snapshot.runtimeValue (snapshot : Snapshot) (key : String) : Except PyError Value :=
  if normalizedKey key then
    .ok ((snapshot.telemetry.value? key).getD ((snapshot.values.get? key).getD .none))
  else .error (valueError "telemetry_key_not_normalized")

def Snapshot.runtimeValues (snapshot : Snapshot) : Values :=
  snapshot.values.update
    ⟨snapshot.telemetry.points.items.map fun item => (item.1, item.2.value),
      by simpa [Function.comp_def] using snapshot.telemetry.points.nodup⟩

def ShowsPoints (hub : State) (snapshot : Snapshot) : Prop :=
  ∀ key v, hub.telemetry.value? key = some v → snapshot.telemetry.value? key = some v

variable {ω : Type} (host : Host ω)

theorem typedTelemetry_value? (hub : State) (lastError : String) (connected : Bool) (key : String)
    (v : Value) (held : hub.telemetry.value? key = some v) :
    (typedTelemetry host hub lastError connected).value? key = some v := by
  have projected : ∀ frame : Frame, frame.value? key = some v →
      (if lastError ≠ "" ∨ connected = false then frame.asCarried else frame).value? key =
        some v := by
    intro frame shown
    split
    · rw [Frame.value?_asCarried, shown]
    · exact shown
  unfold typedTelemetry
  refine projected _ ?_
  cases hub.inverter with
  | none => exact held
  | some inverter =>
    obtain ⟨point, found, value⟩ := Option.map_eq_some_iff.mp held
    simp only [Frame.value?, host.project_native _ _ _ _ found, Option.map_some, value]

theorem publish_shows (extra : Values) (lastError : String) (connected : Option Bool)
    (w : World ω) : Returns (publish host extra lastError connected) w fun w' snapshot =>
      ShowsPoints w'.hub snapshot ∧ snapshot.lastError = lastError := by
  intro snapshot returned
  cases returned
  exact ⟨fun key v held => typedTelemetry_value? host _ _ _ key v held, rfl⟩

end Hub
