import EybondLocal.Hub.Refresh

/-!
The layers of one published snapshot (`_build_snapshot` in `runtime/hub/snapshot.py`) and the write
blockers that it shows and clears. A host layer is a list of entries under the hub's own names; the
canonical measurements are computed from the values gathered before them.
-/
namespace HubFacts
open OrderedDict PythonObject StripText HookRun Hub

structure CapabilityBlocker where
  code : String
  reason : String
  suggestedAction : String := ""
  exceptionCode : Option Int := none
  clearOn : String := "mode_change"
  deriving DecidableEq, Repr

inductive Entry where
  | set (key : String) (value : Value)
  | pop (key : String)
  deriving DecidableEq, Repr

def Entry.key : Entry → String
  | set key _ => key
  | pop key => key

def Entry.written : Entry → Option String
  | set key _ => some key
  | pop _ => none

def Entry.apply (values : Values) : Entry → Values
  | set key value => values.set key value
  | pop key => values.erase key

def applyEntries (entries : List Entry) (values : Values) : Values :=
  entries.foldl Entry.apply values

def Entry.content : Entry → Option Value
  | set _ value => some value
  | pop _ => none

theorem Entry.get?_apply (entry : Entry) (values : Values) (key : String) :
    (entry.apply values).get? key = if key = entry.key then entry.content else values.get? key := by
  cases entry with
  | set name value => exact Dict.get?_set values name key value
  | pop name => exact Dict.get?_erase values name key

theorem applyEntries_of_unnamed {entries : List Entry} {key : String}
    (unnamed : ∀ entry ∈ entries, entry.key ≠ key) (values : Values) :
    (applyEntries entries values).get? key = values.get? key := by
  induction entries generalizing values with
  | nil => rfl
  | cons entry rest ih =>
    have other : key ≠ entry.key := (unnamed entry List.mem_cons_self).symm
    have later := ih (fun e member => unnamed e (List.mem_cons_of_mem entry member))
      (entry.apply values)
    calc (applyEntries (entry :: rest) values).get? key
        = (entry.apply values).get? key := later
      _ = values.get? key := by rw [Entry.get?_apply, if_neg other]

/-- Entries that only write the key leave it where it was or where they write it. -/
theorem applyEntries_isSome {entries : List Entry} {key : String}
    (kept : ∀ entry ∈ entries, entry ≠ .pop key) (values : Values) :
    ((applyEntries entries values).get? key).isSome = true ↔
      (values.get? key).isSome = true ∨ key ∈ entries.filterMap Entry.written := by
  induction entries generalizing values with
  | nil => simp [applyEntries]
  | cons entry rest ih =>
    have later := ih (fun e member => kept e (List.mem_cons_of_mem entry member))
      (entry.apply values)
    have now := kept entry List.mem_cons_self
    have unfolded : applyEntries (entry :: rest) values =
        applyEntries rest (entry.apply values) := rfl
    rw [unfolded, later, Entry.get?_apply]
    cases entry with
    | set name value =>
      by_cases same : key = name
      · simp [Entry.key, Entry.content, Entry.written, same]
      · simp [Entry.key, Entry.written, same]
    | pop name =>
      have other : key ≠ name := fun same => now (by rw [same])
      simp [Entry.key, Entry.written, other]

theorem applyEntries_none {entries : List Entry} {values : Values} {key : String}
    (absent : values.get? key = none) (unwritten : key ∉ entries.filterMap Entry.written) :
    (applyEntries entries values).get? key = none := by
  induction entries generalizing values with
  | nil => exact absent
  | cons entry rest ih =>
    have first : (entry.apply values).get? key = none := by
      rw [Entry.get?_apply, absent]
      cases entry with
      | set name value =>
        have other : key ≠ name := by
          intro same
          apply unwritten
          simp [Entry.written, same]
        rw [if_neg (by simpa [Entry.key] using other)]
      | pop name => simp [Entry.content]
    apply ih first
    intro written
    apply unwritten
    obtain ⟨e, member, eq⟩ := List.mem_filterMap.mp written
    exact List.mem_filterMap.mpr ⟨e, List.mem_cons_of_mem entry member, eq⟩

def hubNames : List String :=
  ["connection_type", "connection_mode", "configured_collector_ip", "driver_key", "protocol_family",
    "variant_key", "profile_name", "register_schema_name", "model_name", "serial_number",
    "inverter_route_devcode", "inverter_route_collector_addr", "inverter_route_device_addr",
    "write_capabilities", "blocked_write_capabilities", "blocked_write_count",
    "blocked_write_summary", "last_error"]

def isHubName (key : String) : Bool :=
  hubNames.contains key || startsWith key "collector_" || startsWith key "smartess_" ||
    startsWith key "runtime_"

structure Layer where
  entries : List Entry
  named : ∀ entry ∈ entries, isHubName entry.key = true

def Layer.empty : Layer := ⟨[], nofun⟩

def Layer.apply (layer : Layer) (values : Values) : Values := applyEntries layer.entries values

structure Computation where
  key : String
  value : Value
  sourceKeys : List String

def canonicalNames : List String :=
  ["grid_voltage", "grid_frequency", "output_power", "load_percent", "pv_voltage", "pv_current",
    "pv_power", "pv_charging_power", "battery_percent", "battery_power", "grid_power",
    "pv_to_home_power", "pv_to_battery_power", "pv_to_grid_power", "battery_to_home_power",
    "grid_to_home_power", "grid_to_battery_power"]

/-- `canonical_measurements_for_driver` and `_apply_canonical_pass`, which computes measurements
    that the values do not have yet. -/
structure CanonicalPass where
  keysOf : String → List String
  derive : String → Option String → Values → List Computation
  named : ∀ driver variant values, ∀ computation ∈ derive driver variant values,
    computation.key ∈ canonicalNames

def frameValues (frame : Frame) : Values :=
  ⟨frame.points.items.map fun item => (item.1, item.2.value),
    by simpa [Function.comp_def] using frame.points.nodup⟩

/-- One typed alias: only of a scalar, and only when each of its sources is typed. -/
def addComputation (points : Dict String Point) (computation : Computation) : Dict String Point :=
  let sources := computation.sourceKeys.filterMap points.get?
  if computation.value.isScalar = false ∨ sources.length ≠ computation.sourceKeys.length ∨
      sources = [] then points
  else
    points.set computation.key
      ⟨computation.value,
        if sources.all (·.freshness = .fresh) then .fresh else .carried⟩

def CanonicalPass.project (pass : CanonicalPass) (frame : Frame) (variant : Option String) : Frame :=
  if frame.points.items.isEmpty then frame
  else
    { frame with
      points := (pass.derive frame.driverKey variant (frameValues frame)).foldl addComputation
        frame.points }

def variantOf (inverter : Inverter) : Option String :=
  if inverter.variantKey = "" then none else some inverter.variantKey

structure Publication where
  /-- The collector's values of this cycle. -/
  collectorValues : Values := Dict.empty
  /-- What the cycle adds to them: diagnostics of the read, or the detection status. -/
  cycle : Layer := .empty
  collectorPn : String := ""
  collector : Layer := .empty
  management : Layer := .empty
  recovery : Layer := .empty
  runtimeState : Layer := .empty
  published : Layer := .empty
  canonical : CanonicalPass
  /-- The learned capabilities that the overlay adds. -/
  overlay : List Capability → List Capability := id
  online : Bool
  lastError : String := ""

structure State where
  hub : Hub.State
  blockers : Dict String CapabilityBlocker
  lastOperatingMode : Value

/-- Where `extra_values` comes from: the collector's values of this cycle, or, after a failed
    payload retry, those over the mapping of the last snapshot. -/
inductive Source where
  | collector
  | retained
  deriving DecidableEq, Repr

section
variable (s : State) (p : Publication)

def extraValues : Source → Values
  | .collector => p.cycle.apply p.collectorValues
  | .retained => s.hub.lastSnapshot.values.update p.collectorValues

def strippedKeys : List String :=
  (s.hub.inverter.map fun inverter => p.canonical.keysOf inverter.driverKey).getD [] ++
    s.hub.ownedKeys ++ s.hub.staleOwnedKeys ++ s.hub.diagnosticKeys ++ s.hub.staleDiagnosticKeys

def carriedValues : Values :=
  s.hub.lastSnapshot.values.restrict fun key =>
    !startsWith key "capability_block_" && key ∉ strippedKeys s p &&
      key ∉ volatileCollectorValueKeys && key ≠ "probe_log"

/-- `extra_values` as they are merged: the PN is the link's own. -/
def mergedExtra (extra : Values) : Values :=
  match extra.get? "collector_pn" with
  | none => extra
  | some _ =>
    if p.collectorPn = "" then extra.erase "collector_pn"
    else extra.set "collector_pn" (.text p.collectorPn)

def gatheredValues (extra : Values) : Values :=
  p.management.apply
    ((driverLayer s.hub (p.collector.apply (carriedValues s p))).update (mergedExtra p extra))

def computations (values : Values) : List Computation :=
  match s.hub.inverter with
  | none => []
  | some inverter => p.canonical.derive inverter.driverKey (variantOf inverter) values

def computationEntry (computation : Computation) : Entry := .set computation.key computation.value

def measuredValues (values : Values) : Values :=
  p.recovery.apply (applyEntries ((computations s p values).map computationEntry) values)

def remainingBlockers (mode : Value) : Dict String CapabilityBlocker :=
  if mode.pyEq s.lastOperatingMode then s.blockers
  else s.blockers.restrict fun key => (s.blockers.get? key).any (·.clearOn ≠ "mode_change")

end

def reasonName (capability : String) : String := "capability_block_reason_" ++ capability

def blockerEntries (capability : String) (blocker : CapabilityBlocker) : List Entry :=
  [.set (reasonName capability) (.text blocker.reason),
    .set ("capability_block_code_" ++ capability) (.text blocker.code)] ++
  (if blocker.suggestedAction = "" then []
    else [.set ("capability_block_action_" ++ capability) (.text blocker.suggestedAction)]) ++
  match blocker.exceptionCode with
  | none => []
  | some code => [.set ("capability_block_exception_" ++ capability) (.int code)]

def sortedBlockers (blockers : Dict String CapabilityBlocker) :
    List (String × CapabilityBlocker) :=
  blockers.items.mergeSort fun left right => left.1 ≤ right.1

def blockedSummary (blockers : Dict String CapabilityBlocker) : List Entry :=
  if blockers.items.isEmpty then
    [.pop "blocked_write_capabilities", .pop "blocked_write_count", .pop "blocked_write_summary"]
  else
    let sorted := sortedBlockers blockers
    [.set "blocked_write_capabilities" (.text (", ".intercalate (sorted.map Prod.fst))),
      .set "blocked_write_count" (.int blockers.items.length),
      .set "blocked_write_summary"
        (.text ("; ".intercalate (sorted.map fun item => item.1 ++ ": " ++ item.2.code)))]

def blockingEntries (blockers : Dict String CapabilityBlocker) : List Entry :=
  (sortedBlockers blockers).flatMap (fun item => blockerEntries item.1 item.2) ++
    blockedSummary blockers

def isReason (key : String) : Bool := startsWith key "capability_block_reason_"

theorem startsWith_excludes {key start other : String} (begins : startsWith key start = true)
    (apart : startsWith start other = false ∧ startsWith other start = false) :
    startsWith key other = false := by
  rw [Bool.eq_false_iff]
  intro also
  rw [startsWith_iff] at begins also
  rcases List.prefix_or_prefix_of_prefix begins also with first | second
  · have contrary := (startsWith_iff other start).mpr first
    rw [apart.2] at contrary
    cases contrary
  · have contrary := (startsWith_iff start other).mpr second
    rw [apart.1] at contrary
    cases contrary

theorem startsWith_append (start rest : String) : startsWith (start ++ rest) start = true := by
  rw [startsWith_iff, String.toList_append]
  exact List.prefix_append _ _

theorem isReason_block {key : String} (reason : isReason key = true) :
    startsWith key "capability_block_" = true := by
  unfold isReason at reason
  rw [startsWith_iff] at reason ⊢
  exact List.IsPrefix.trans (by decide) reason

theorem hubNames_not_reason : ∀ name ∈ hubNames, isReason name = false := by decide

theorem canonicalNames_not_reason : ∀ name ∈ canonicalNames, isReason name = false := by decide

theorem isHubName_of_reason {key : String} (reason : isReason key = true) :
    isHubName key = false := by
  have unlisted : key ∉ hubNames := by
    intro listed
    rw [hubNames_not_reason key listed] at reason
    cases reason
  have collector : startsWith key "collector_" = false :=
    startsWith_excludes reason (by decide)
  have smartess : startsWith key "smartess_" = false := startsWith_excludes reason (by decide)
  have runtime : startsWith key "runtime_" = false := startsWith_excludes reason (by decide)
  simp [isHubName, unlisted, collector, smartess, runtime]

theorem Layer.apply_reason (layer : Layer) {key : String} (reason : isReason key = true)
    (values : Values) : (layer.apply values).get? key = values.get? key := by
  apply applyEntries_of_unnamed
  intro entry member same
  have named := layer.named entry member
  rw [same, isHubName_of_reason reason] at named
  cases named

/-- Of a blocker's entries only the reason has a reason's name. -/
theorem blockerEntries_reason {capability key : String} {blocker : CapabilityBlocker}
    (reason : isReason key = true) :
    key ∈ (blockerEntries capability blocker).filterMap Entry.written ↔
      key = reasonName capability := by
  have apart : ∀ start, (startsWith "capability_block_reason_" start = false ∧
      startsWith start "capability_block_reason_" = false) → key ≠ start ++ capability := by
    intro start incomparable same
    have other := startsWith_excludes reason incomparable
    rw [same, startsWith_append] at other
    cases other
  have code := apart "capability_block_code_" (by decide)
  have action := apart "capability_block_action_" (by decide)
  have exception := apart "capability_block_exception_" (by decide)
  unfold blockerEntries
  cases blocker.exceptionCode with
  | none =>
    by_cases silent : blocker.suggestedAction = ""
    · simp [silent, Entry.written, code]
    · simp [silent, Entry.written, code, action]
  | some n =>
    by_cases silent : blocker.suggestedAction = ""
    · simp [silent, Entry.written, code, exception]
    · simp [silent, Entry.written, code, action, exception]

theorem blockedSummary_unnamed (blockers : Dict String CapabilityBlocker) :
    ∀ entry ∈ blockedSummary blockers, isReason entry.key = false := by
  have count : isReason "blocked_write_count" = false := by decide
  have names : isReason "blocked_write_capabilities" = false := by decide
  have summary : isReason "blocked_write_summary" = false := by decide
  unfold blockedSummary
  split
  · simp [Entry.key, count, names, summary]
  · simp [Entry.key, count, names, summary]

theorem blockerEntries_kept (capability key : String) (blocker : CapabilityBlocker) :
    .pop key ∉ blockerEntries capability blocker := by
  unfold blockerEntries
  by_cases silent : blocker.suggestedAction = ""
  · cases blocker.exceptionCode with
    | none => simp [silent]
    | some n => simp [silent]
  · cases blocker.exceptionCode with
    | none => simp [silent]
    | some n => simp [silent]

theorem blockingEntries_kept {blockers : Dict String CapabilityBlocker} {key : String}
    (reason : isReason key = true) : ∀ entry ∈ blockingEntries blockers, entry ≠ .pop key := by
  intro entry member popped
  rcases List.mem_append.mp member with single | summary
  · obtain ⟨item, _, own⟩ := List.mem_flatMap.mp single
    exact blockerEntries_kept item.1 key item.2 (popped ▸ own)
  · have other := blockedSummary_unnamed blockers entry summary
    rw [popped] at other
    rw [show isReason (Entry.pop key).key = isReason key from rfl, reason] at other
    cases other

theorem blockingEntries_reason {blockers : Dict String CapabilityBlocker} {key : String}
    (reason : isReason key = true) :
    key ∈ (blockingEntries blockers).filterMap Entry.written ↔
      ∃ capability, (blockers.get? capability).isSome = true ∧ key = reasonName capability := by
  have unsummed : key ∉ (blockedSummary blockers).filterMap Entry.written := by
    intro written
    obtain ⟨entry, member, eq⟩ := List.mem_filterMap.mp written
    have other := blockedSummary_unnamed blockers entry member
    cases entry with
    | set name value =>
      rw [Entry.written, Option.some.injEq] at eq
      rw [show (Entry.set name value).key = name from rfl, eq, reason] at other
      cases other
    | pop name => cases eq
  rw [blockingEntries, List.filterMap_append, List.mem_append, or_iff_left unsummed,
    List.filterMap_flatMap, List.mem_flatMap]
  constructor
  · rintro ⟨⟨capability, blocker⟩, member, own⟩
    have held : blockers.get? capability = some blocker :=
      (blockers.get?_eq_some_iff _ _).mpr (List.mem_mergeSort.mp member)
    exact ⟨capability, by rw [held]; rfl, (blockerEntries_reason reason).mp own⟩
  · rintro ⟨capability, blocked, same⟩
    obtain ⟨blocker, held⟩ := Option.isSome_iff_exists.mp blocked
    have listed : (capability, blocker) ∈ sortedBlockers blockers :=
      List.mem_mergeSort.mpr ((blockers.get?_eq_some_iff _ _).mp held)
    exact ⟨(capability, blocker), listed, (blockerEntries_reason reason).mpr same⟩

section
variable (s : State) (p : Publication)

def operatingMode (extra : Values) : Value :=
  ((measuredValues s p (gatheredValues s p extra)).get? "operating_mode").getD .none

def assembledValues (extra : Values) : Values :=
  p.runtimeState.apply
    (applyEntries (blockingEntries (remainingBlockers s (operatingMode s p extra)))
      (measuredValues s p (gatheredValues s p extra)))

def overlaid (inverter : Inverter) : Inverter :=
  { inverter with capabilities := p.overlay inverter.capabilities }

def typedComputations : List Computation :=
  match s.hub.inverter with
  | none => []
  | some inverter =>
    p.canonical.derive s.hub.telemetry.driverKey (variantOf inverter) (frameValues s.hub.telemetry)

def typedTelemetry : Frame :=
  let projected :=
    match s.hub.inverter with
    | none => s.hub.telemetry
    | some inverter => p.canonical.project s.hub.telemetry (variantOf inverter)
  if p.lastError ≠ "" ∨ p.online = false then projected.asCarried else projected

def snapshotOf (extra : Values) : Snapshot where
  connected := p.online
  values := p.published.apply
    ((assembledValues s p extra).restrict fun key => ((typedTelemetry s p).points.get? key).isNone)
  telemetry := typedTelemetry s p
  lastError := p.lastError

/-- `_build_snapshot` followed by `self._last_snapshot = snapshot`. -/
def build (extra : Values) : State where
  hub :=
    { s.hub with
      inverter := s.hub.inverter.map (overlaid p)
      lastSnapshot := snapshotOf s p extra }
  blockers := remainingBlockers s (operatingMode s p extra)
  lastOperatingMode :=
    if (operatingMode s p extra).pyEq s.lastOperatingMode then s.lastOperatingMode
    else operatingMode s p extra

/-- The build is what the hub's own `publish` does to the hub, with the host's answers as `p`. -/
theorem publish_eq_build {ω : Type} (host : Host ω) (w : World ω) (extra : Values)
    (connected : Option Bool) (same : w.hub = s.hub)
    (online : connected.getD (host.connected w.host) = p.online)
    (canonicalKeys : host.canonicalKeys = p.canonical.keysOf)
    (collectorPn : host.collectorPn w.host = p.collectorPn)
    (collector : host.collectorLayer s.hub w.host = p.collector.apply)
    (closing : ∀ driven, host.closingLayer s.hub w.host driven =
      p.runtimeState.apply
        (applyEntries (blockingEntries (remainingBlockers s (operatingMode s p extra)))
          (measuredValues s p (p.management.apply driven))))
    (overlay : host.inverterOverlay w.host = overlaid p)
    (project : host.projectCanonical = p.canonical.project)
    (onSnapshot : ∀ hub, host.publishedLayer hub w.host = p.published.apply) :
    (publish host extra p.lastError connected w).1.hub = (build s p extra).hub := by
  have carried : Hub.carriedValues host s.hub = carriedValues s p := by
    unfold Hub.carriedValues carriedValues Hub.strippedKeys strippedKeys
    rw [canonicalKeys]
  have merged : Hub.safeExtraValues host w extra = mergedExtra p extra := by
    unfold Hub.safeExtraValues mergedExtra
    exact collectorPn ▸ rfl
  have assembled : Hub.assembledValues host w extra = assembledValues s p extra := by
    unfold Hub.assembledValues assembledValues gatheredValues
    rw [same, carried, merged, collector, closing]
  have typed : ∀ hub : Hub.State, hub.telemetry = s.hub.telemetry →
      hub.inverter = s.hub.inverter.map (overlaid p) →
      Hub.typedTelemetry host hub p.lastError p.online = typedTelemetry s p := by
    intro hub frame bound
    unfold Hub.typedTelemetry typedTelemetry
    rw [frame, bound, project]
    cases s.hub.inverter <;> rfl
  unfold publish build snapshotOf
  dsimp only
  rw [online, assembled, onSnapshot, overlay, same,
    typed { s.hub with inverter := s.hub.inverter.map (overlaid p) } rfl rfl]

def writtenKeys (extra : Values) : List String :=
  (p.cycle.entries ++ p.collector.entries ++ p.management.entries ++ p.recovery.entries ++
      p.runtimeState.entries ++ p.published.entries ++
      blockingEntries (remainingBlockers s (operatingMode s p extra))).filterMap Entry.written ++
    (computations s p (gatheredValues s p extra)).map Computation.key ++
    (typedComputations s p).map Computation.key

def Absent (snapshot : Snapshot) (key : String) : Prop :=
  snapshot.values.get? key = none ∧ snapshot.telemetry.points.get? key = none

structure Undriven (hub : Hub.State) (key : String) : Prop where
  details : ∀ inverter, hub.inverter = some inverter → (detailValues hub inverter).get? key = none
  measured : hub.measurementValues.get? key = none
  diagnosed : hub.diagnostics.get? key = none
  pointed : hub.telemetry.points.get? key = none

variable {s p}

theorem Layer.apply_none {layer : Layer} {values : Values} {key : String}
    (absent : values.get? key = none) (unwritten : key ∉ layer.entries.filterMap Entry.written) :
    (layer.apply values).get? key = none := applyEntries_none absent unwritten

theorem mergedExtra_none {extra : Values} {key : String} (absent : extra.get? key = none) :
    (mergedExtra p extra).get? key = none := by
  unfold mergedExtra
  cases named : extra.get? "collector_pn" with
  | none => exact absent
  | some value =>
    have other : key ≠ "collector_pn" := by
      intro same
      rw [same, named] at absent
      cases absent
    dsimp only
    split
    · rw [Dict.get?_erase, if_neg other]
      exact absent
    · rw [Dict.get?_set, if_neg other]
      exact absent

theorem mergedExtra_isSome {extra : Values} {key : String}
    (shown : ((mergedExtra p extra).get? key).isSome = true) :
    (extra.get? key).isSome = true := by
  cases held : extra.get? key with
  | some value => rfl
  | none =>
    rw [mergedExtra_none held] at shown
    cases shown

theorem driverLayer_undriven {hub : Hub.State} {key : String} (undriven : Undriven hub key)
    (values : Values) : (driverLayer hub values).get? key = values.get? key := by
  unfold driverLayer
  cases bound : hub.inverter with
  | none => rfl
  | some inverter =>
    simp only [Dict.get?_update, undriven.diagnosed, undriven.measured,
      undriven.details inverter bound, Option.none_or]

theorem carriedValues_none {key : String}
    (stripped : startsWith key "capability_block_" = true ∨ key ∈ strippedKeys s p) :
    (carriedValues s p).get? key = none := by
  unfold carriedValues
  rw [Dict.get?_restrict]
  rcases stripped with block | owned
  · simp [block]
  · simp [owned]

theorem addComputation_none {points : Dict String Point} {computation : Computation} {key : String}
    (absent : points.get? key = none) (other : computation.key ≠ key) :
    (addComputation points computation).get? key = none := by
  unfold addComputation
  dsimp only
  split
  · exact absent
  · rw [Dict.get?_set, if_neg (Ne.symm other)]
    exact absent

theorem addComputations_none {computed : List Computation} {points : Dict String Point}
    {key : String} (absent : points.get? key = none)
    (underived : key ∉ computed.map Computation.key) :
    (computed.foldl addComputation points).get? key = none := by
  induction computed generalizing points with
  | nil => exact absent
  | cons computation rest ih =>
    rw [List.map_cons, List.mem_cons, not_or] at underived
    exact ih (addComputation_none absent (Ne.symm underived.1)) underived.2

theorem typedTelemetry_none {key : String} (unpointed : s.hub.telemetry.points.get? key = none)
    (underived : key ∉ (typedComputations s p).map Computation.key) :
    (typedTelemetry s p).points.get? key = none := by
  have projected : (match s.hub.inverter with
      | none => s.hub.telemetry
      | some inverter => p.canonical.project s.hub.telemetry (variantOf inverter)).points.get? key =
        none := by
    unfold typedComputations at underived
    cases bound : s.hub.inverter with
    | none => exact unpointed
    | some inverter =>
      simp only [bound] at underived
      simp only [CanonicalPass.project]
      split
      · exact unpointed
      · exact addComputations_none unpointed underived
  unfold typedTelemetry
  dsimp only
  split
  · simp only [Frame.asCarried, Dict.get?_mapValues, projected, Option.map_none]
  · exact projected

theorem computations_written {values : Values} :
    ((computations s p values).map computationEntry).filterMap Entry.written =
      (computations s p values).map Computation.key := by
  have writes : Entry.written ∘ computationEntry = some ∘ Computation.key := rfl
  rw [List.filterMap_map, writes, List.filterMap_eq_map]

theorem unwritten_cycle {extra : Values} {key : String} (unwritten : key ∉ writtenKeys s p extra) :
    key ∉ p.cycle.entries.filterMap Entry.written := by
  simp only [writtenKeys, List.filterMap_append, List.mem_append, not_or] at unwritten
  obtain ⟨⟨⟨⟨⟨⟨⟨⟨cycle, _⟩, _⟩, _⟩, _⟩, _⟩, _⟩, _⟩, _⟩ := unwritten
  exact cycle

/-- What a publication leaves out: a stripped key that is neither driven, nor among the extra
    values, nor written by the hub. -/
theorem snapshotOf_absent {extra : Values} {key : String} (stripped : key ∈ strippedKeys s p)
    (undriven : Undriven s.hub key) (absent : extra.get? key = none)
    (unwritten : key ∉ writtenKeys s p extra) : Absent (snapshotOf s p extra) key := by
  simp only [writtenKeys, List.filterMap_append, List.mem_append, not_or] at unwritten
  obtain ⟨⟨⟨⟨⟨⟨⟨⟨_, collector⟩, management⟩, recovery⟩, runtimeState⟩, published⟩, blocking⟩,
    computed⟩, typed⟩ := unwritten
  have collected : (p.collector.apply (carriedValues s p)).get? key = none :=
    Layer.apply_none (carriedValues_none (Or.inr stripped)) collector
  have driven : ((driverLayer s.hub (p.collector.apply (carriedValues s p))).update
      (mergedExtra p extra)).get? key = none := by
    rw [Dict.get?_update, mergedExtra_none absent, driverLayer_undriven undriven, collected]
    rfl
  have gathered : (gatheredValues s p extra).get? key = none := Layer.apply_none driven management
  have derived : (applyEntries ((computations s p (gatheredValues s p extra)).map computationEntry)
      (gatheredValues s p extra)).get? key = none :=
    applyEntries_none gathered (by rw [computations_written]; exact computed)
  have measured : (measuredValues s p (gatheredValues s p extra)).get? key = none :=
    Layer.apply_none derived recovery
  have assembled : (assembledValues s p extra).get? key = none :=
    Layer.apply_none (applyEntries_none measured blocking) runtimeState
  constructor
  · apply Layer.apply_none _ published
    rw [Dict.get?_restrict, assembled, ite_self]
  · exact typedTelemetry_none undriven.pointed typed

theorem computations_not_reason {values : Values} :
    ∀ computation ∈ computations s p values, isReason computation.key = false := by
  intro computation member
  apply canonicalNames_not_reason
  unfold computations at member
  cases bound : s.hub.inverter with
  | none => simp [bound] at member
  | some inverter =>
    simp only [bound] at member
    exact p.canonical.named _ _ _ computation member

theorem typedComputations_not_reason :
    ∀ computation ∈ typedComputations s p, isReason computation.key = false := by
  intro computation member
  apply canonicalNames_not_reason
  unfold typedComputations at member
  cases bound : s.hub.inverter with
  | none => simp [bound] at member
  | some inverter =>
    simp only [bound] at member
    exact p.canonical.named _ _ _ computation member

/-- Before the blockers are written, a reason can only be one of the extra values. -/
theorem measuredValues_reason {extra : Values} {key : String} (reason : isReason key = true)
    (undriven : Undriven s.hub key) :
    (measuredValues s p (gatheredValues s p extra)).get? key = (mergedExtra p extra).get? key := by
  have carried : (carriedValues s p).get? key = none :=
    carriedValues_none (Or.inl (isReason_block reason))
  have unnamed : ∀ entry ∈ (computations s p (gatheredValues s p extra)).map computationEntry,
      entry.key ≠ key := by
    intro entry member same
    obtain ⟨computation, computed, rfl⟩ := List.mem_map.mp member
    have other := computations_not_reason computation computed
    rw [show computation.key = key from same, reason] at other
    cases other
  unfold measuredValues
  rw [Layer.apply_reason _ reason, applyEntries_of_unnamed unnamed]
  unfold gatheredValues
  rw [Layer.apply_reason _ reason, Dict.get?_update, driverLayer_undriven undriven,
    Layer.apply_reason _ reason, carried, Option.or_none]

/-- A publication shows the reasons of the remaining blockers, and no others unless the extra
    values bring them. -/
theorem snapshotOf_reason {extra : Values} {key : String} (reason : isReason key = true)
    (undriven : Undriven s.hub key)
    (backed : (extra.get? key).isSome = true → ∃ capability,
      ((remainingBlockers s (operatingMode s p extra)).get? capability).isSome = true ∧
        key = reasonName capability) :
    ¬ Absent (snapshotOf s p extra) key ↔
      ∃ capability,
        ((remainingBlockers s (operatingMode s p extra)).get? capability).isSome = true ∧
          key = reasonName capability := by
  have typed : (typedTelemetry s p).points.get? key = none := by
    apply typedTelemetry_none undriven.pointed
    intro derived
    obtain ⟨computation, member, same⟩ := List.mem_map.mp derived
    have other := typedComputations_not_reason computation member
    rw [same, reason] at other
    cases other
  have shown : (snapshotOf s p extra).values.get? key = (assembledValues s p extra).get? key := by
    unfold snapshotOf
    dsimp only
    rw [Layer.apply_reason _ reason, Dict.get?_restrict, typed]
    rfl
  have assembled : ((assembledValues s p extra).get? key).isSome = true ↔
      ((mergedExtra p extra).get? key).isSome = true ∨ ∃ capability,
        ((remainingBlockers s (operatingMode s p extra)).get? capability).isSome = true ∧
          key = reasonName capability := by
    unfold assembledValues
    rw [Layer.apply_reason _ reason, applyEntries_isSome (blockingEntries_kept reason),
      blockingEntries_reason reason, measuredValues_reason reason undriven]
  constructor
  · intro present
    have some : ((assembledValues s p extra).get? key).isSome = true := by
      rw [← shown, Option.isSome_iff_ne_none]
      exact fun missing => present ⟨missing, typed⟩
    rcases assembled.mp some with merged | blocked
    · exact backed (mergedExtra_isSome merged)
    · exact blocked
  · rintro blocked ⟨missing, _⟩
    have some := assembled.mpr (Or.inr blocked)
    rw [← shown, missing] at some
    cases some

end
end HubFacts
