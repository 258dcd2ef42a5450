import EybondLocal.Hub.Assembly
import EybondLocal.Library.Execution

/-!
Whole runs of the hub: bindings, folded reads, write blockers and publications in any order. The
ownership sets of the hub cover every key a read or its diagnostics ever named, so a publication
shows such a key only where something current supplies it; only the one that takes up the mapping
of the last snapshot again can bring back more.
-/
namespace HubFacts
open OrderedDict PythonObject StripText HookRun HookRun.Run Hub Execution

def keysOf (values : Values) : List String := values.items.map Prod.fst

def boundInverter (candidate : Inverter) : Inverter :=
  { candidate with details := candidate.details.erase "probe_log" }

def bindHub (hub : Hub.State) (candidate : Inverter) : Hub.State :=
  let bound := { hub with inverter := some (boundInverter candidate) }
  let token := inverterIdentitySignature bound.inverter
  let accepted :=
    if token = bound.measurementIdentity then bound
    else
      { resetRuntimeMeasurementCache bound with
        staleOwnedKeys := bound.staleOwnedKeys ++ bound.ownedKeys
        staleDiagnosticKeys := bound.staleDiagnosticKeys ++ bound.diagnosticKeys
        measurementIdentity := token }
  { accepted with needsLiveDetection := false, refreshAttempts := 0 }

def foldHub (hub : Hub.State) (frame : Frame) (result : DriverReadResult) : Hub.State :=
  { hub with
    telemetry := frame
    measurementValues :=
      if result.mode = .full then result.values
      else result.removedKeys.foldl Dict.erase (hub.measurementValues.update result.values)
    ownedKeys := hub.ownedKeys ++ result.values.items.map Prod.fst ++ result.removedKeys
    diagnostics := result.diagnostics
    diagnosticKeys := hub.diagnosticKeys ++ result.diagnostics.items.map Prod.fst }

/-- `bindHub` and `foldHub` are the field updates of the hub's own binding and read. -/
theorem bindInverter_hub {ω : Type} (candidate : Inverter) (w : World ω) :
    (bindInverter candidate w).1.hub = bindHub w.hub candidate := by
  simp only [bindInverter, acceptInverterBindingIdentity, hubUpdate, note, bind_apply, observe,
    Run.call, Ending.next_returned]
  unfold bindHub boundInverter
  dsimp only
  split
  · rfl
  · rfl

theorem resolve_hub {ω : Type} (inverter : Inverter) (result : DriverReadResult) (frame : Frame)
    (w : World ω)
    (folded : foldDriverTelemetry w.hub.telemetry inverter.driverKey result = .ok frame) :
    (resolveRuntimeMeasurements inverter result w).1.hub = foldHub w.hub frame result := by
  simp only [resolveRuntimeMeasurements, hubUpdate, note, bind_apply, observe, Run.call,
    Ending.next_returned, folded]
  rfl

structure Tracked where
  state : State
  /-- Keys reads or diagnostics of an earlier identity reported. -/
  earlier : List String
  /-- Keys reads or diagnostics of the current identity reported. -/
  reported : List String
  /-- Those, with the keys the collector supplied since the identity was bound. -/
  supplied : List String
  /-- Keys a full read left out or a read removed, and nobody reported again. -/
  dropped : List String

inductive Event where
  | bound (candidate : Inverter)
  | read (result : DriverReadResult)
  | blocked (capability : String) (blocker : CapabilityBlocker)
  | unblocked (capability : String)
  | published (source : Source) (p : Publication)

namespace Tracked

def bind (t : Tracked) (candidate : Inverter) : Tracked :=
  let hub := bindHub t.state.hub candidate
  let state := { t.state with hub, blockers := Dict.empty }
  if hub.measurementIdentity = t.state.hub.measurementIdentity then { t with state }
  else
    { state, earlier := t.earlier ++ t.reported, reported := [], supplied := [], dropped := [] }

def read (t : Tracked) (result : DriverReadResult) : Tracked :=
  match t.state.hub.inverter with
  | none => t
  | some inverter =>
    match foldDriverTelemetry t.state.hub.telemetry inverter.driverKey result with
    | .error _ => t
    | .ok frame =>
      let named := keysOf result.values ++ keysOf result.diagnostics
      let lost := if result.mode = .full then keysOf t.state.hub.measurementValues else []
      { t with
        state :=
          { t.state with
            hub :=
              { foldHub t.state.hub frame result with
                payloadError :=
                  if result.values.items.isEmpty then t.state.hub.payloadError else "" } }
        reported := t.reported ++ named
        supplied := t.supplied ++ named
        dropped := (t.dropped ++ lost ++ result.removedKeys).filter (· ∉ named) }

def credit (t : Tracked) (p : Publication) : Tracked :=
  { t with
    supplied := t.supplied ++ keysOf p.collectorValues
    dropped := t.dropped.filter (· ∉ keysOf p.collectorValues) }

def noted (s : State) (source : Source) (p : Publication) : State :=
  match source with
  | .collector => s
  | .retained => { s with hub := { s.hub with payloadError := p.lastError } }

def publish (t : Tracked) (source : Source) (p : Publication) : Tracked :=
  { t.credit p with state := build (noted t.state source p) p (extraValues t.state p source) }

def detailed (t : Tracked) (key : String) : Bool :=
  t.state.hub.inverter.any fun inverter => (inverter.details.get? key).isSome

def goneKeys (t : Tracked) : List String :=
  t.earlier.filter (fun key => key ∉ t.supplied && !t.detailed key) ++ t.dropped

end Tracked

def step (t : Tracked) : Event → Tracked
  | .bound candidate => t.bind candidate
  | .read result => t.read result
  | .blocked capability blocker =>
    { t with state := { t.state with blockers := t.state.blockers.set capability blocker } }
  | .unblocked capability =>
    { t with state := { t.state with blockers := t.state.blockers.erase capability } }
  | .published source p => t.publish source p

def initial : Tracked where
  state :=
    { hub :=
        { inverter := none, needsLiveDetection := false, refreshAttempts := 0
          measurementIdentity := "", measurementValues := Dict.empty, telemetry := Frame.empty
          ownedKeys := [], staleOwnedKeys := [], diagnostics := Dict.empty, diagnosticKeys := []
          staleDiagnosticKeys := [], payloadError := ""
          lastSnapshot :=
            { connected := false, values := Dict.empty, telemetry := Frame.empty, lastError := "" } }
      blockers := Dict.empty
      lastOperatingMode := .none }
  earlier := []
  reported := []
  supplied := []
  dropped := []

structure Current (t : Tracked) : Prop where
  earlier : ∀ key ∈ t.earlier, key ∉ t.supplied → t.detailed key = false →
    Absent t.state.hub.lastSnapshot key
  dropped : ∀ key ∈ t.dropped, Absent t.state.hub.lastSnapshot key
  blocks : ∀ key, isReason key = true →
    (¬ Absent t.state.hub.lastSnapshot key ↔
      ∃ capability, (t.state.blockers.get? capability).isSome = true ∧ key = reasonName capability)

def Event.publishes : Event → Prop
  | .published _ _ => True
  | _ => False

def unreasoned (keys : List String) : Bool := keys.all fun key => !isReason key

def retainable (t : Tracked) (p : Publication) (gone : List String) : Bool :=
  let last := t.state.hub.lastSnapshot.values
  let blockers := remainingBlockers t.state (operatingMode t.state p (extraValues t.state p .retained))
  gone.all (fun key => (last.get? key).isNone) &&
    (keysOf last).all fun key =>
      !isReason key || blockers.items.any fun item => key = reasonName item.1

def carefulPublish (t : Tracked) (source : Source) (p : Publication) : Bool :=
  let gone := (t.credit p).goneKeys
  unreasoned (keysOf p.collectorValues) &&
    gone.all (fun key => key ∉ writtenKeys t.state p (extraValues t.state p source)) &&
    (source = .collector || retainable t p gone)

def careful (t : Tracked) : Event → Bool
  | .bound candidate => unreasoned (keysOf candidate.details)
  | .read result => unreasoned (keysOf result.values ++ keysOf result.diagnostics)
  | .blocked _ _ => true
  | .unblocked _ => true
  | .published source p => carefulPublish t source p

theorem mem_keysOf {values : Values} {key : String} :
    key ∈ keysOf values ↔ (values.get? key).isSome = true := by
  unfold keysOf
  constructor
  · intro member
    obtain ⟨⟨name, value⟩, held, rfl⟩ := List.mem_map.mp member
    rw [(values.get?_eq_some_iff name value).mpr held]
    rfl
  · intro some
    obtain ⟨value, held⟩ := Option.isSome_iff_exists.mp some
    exact List.mem_map.mpr ⟨(key, value), (values.get?_eq_some_iff key value).mp held, rfl⟩

theorem get?_none_of_notMem {values : Values} {key : String} (absent : key ∉ keysOf values) :
    values.get? key = none := by
  rw [mem_keysOf, Option.not_isSome_iff_eq_none] at absent
  exact absent

theorem get?_removed (removed : List String) (values : Values) (key : String) :
    (removed.foldl Dict.erase values).get? key =
      if key ∈ removed then none else values.get? key := by
  induction removed generalizing values with
  | nil => simp
  | cons name rest ih =>
    rw [List.foldl_cons, ih, Dict.get?_erase]
    by_cases later : key ∈ rest
    · simp [later]
    · by_cases now : key = name
      · simp [now]
      · simp [later, now]

/-- The ownership sets cover the history, and the hub holds only what the current identity
    supplied. -/
structure Inv (t : Tracked) : Prop where
  earlier : ∀ key ∈ t.earlier,
    key ∈ t.state.hub.staleOwnedKeys ++ t.state.hub.staleDiagnosticKeys
  reported : ∀ key ∈ t.reported, key ∈ t.state.hub.ownedKeys ++ t.state.hub.diagnosticKeys
  dropped : ∀ key ∈ t.dropped, key ∈ t.state.hub.ownedKeys
  measured : ∀ key ∈ keysOf t.state.hub.measurementValues,
    key ∈ t.supplied ∧ key ∉ t.dropped ∧ key ∈ t.state.hub.ownedKeys
  diagnosed : ∀ key ∈ keysOf t.state.hub.diagnostics, key ∈ t.supplied ∧ key ∉ t.dropped
  pointed : ∀ key, (t.state.hub.telemetry.points.get? key).isSome = true →
    key ∈ keysOf t.state.hub.measurementValues
  unreasoned : ∀ key, isReason key = true →
    key ∉ keysOf t.state.hub.measurementValues ∧ key ∉ keysOf t.state.hub.diagnostics ∧
      t.detailed key = false

theorem inv_initial : Inv initial := by
  constructor <;> simp [initial, keysOf, Dict.empty, Frame.empty, Dict.get?, find, Tracked.detailed]

theorem bindHub_same {hub : Hub.State} {candidate : Inverter}
    (same : inverterIdentitySignature (some candidate) = hub.measurementIdentity) :
    bindHub hub candidate =
      { hub with
        inverter := some (boundInverter candidate), needsLiveDetection := false
        refreshAttempts := 0 } := by
  have kept : inverterIdentitySignature (some (boundInverter candidate)) =
      hub.measurementIdentity := same
  unfold bindHub
  dsimp only
  rw [if_pos kept]

theorem bindHub_other {hub : Hub.State} {candidate : Inverter}
    (other : inverterIdentitySignature (some candidate) ≠ hub.measurementIdentity) :
    bindHub hub candidate =
      { resetRuntimeMeasurementCache hub with
        inverter := some (boundInverter candidate), needsLiveDetection := false
        refreshAttempts := 0
        staleOwnedKeys := hub.staleOwnedKeys ++ hub.ownedKeys
        staleDiagnosticKeys := hub.staleDiagnosticKeys ++ hub.diagnosticKeys
        measurementIdentity := inverterIdentitySignature (some candidate) } := by
  have changed : inverterIdentitySignature (some (boundInverter candidate)) ≠
      hub.measurementIdentity := other
  unfold bindHub
  dsimp only
  rw [if_neg changed]
  rfl

theorem detailed_bound {candidate : Inverter} {key : String}
    (unreasoned : ∀ key ∈ keysOf candidate.details, isReason key = false)
    (reason : isReason key = true) :
    ((boundInverter candidate).details.get? key).isSome = false := by
  have absent : candidate.details.get? key = none := by
    apply get?_none_of_notMem
    intro named
    rw [unreasoned key named] at reason
    cases reason
  unfold boundInverter
  rw [Dict.get?_erase, absent, ite_self]
  rfl

theorem inv_bind {t : Tracked} (inv : Inv t) {candidate : Inverter}
    (unreasoned : ∀ key ∈ keysOf candidate.details, isReason key = false) :
    Inv (t.bind candidate) := by
  unfold Tracked.bind
  dsimp only
  by_cases same : inverterIdentitySignature (some candidate) = t.state.hub.measurementIdentity
  · rw [bindHub_same same, if_pos rfl]
    constructor
    · exact inv.earlier
    · exact inv.reported
    · exact inv.dropped
    · exact inv.measured
    · exact inv.diagnosed
    · exact inv.pointed
    · intro key reason
      obtain ⟨unmeasured, undiagnosed, _⟩ := inv.unreasoned key reason
      exact ⟨unmeasured, undiagnosed, detailed_bound unreasoned reason⟩
  · rw [bindHub_other same, if_neg same]
    constructor
    · intro key member
      -- what the identity before this one reported is stale from now on
      simp only [List.mem_append]
      rcases List.mem_append.mp member with before | last
      · have stale := List.mem_append.mp (inv.earlier key before)
        exact stale.imp Or.inl Or.inl
      · have owned := List.mem_append.mp (inv.reported key last)
        exact owned.imp Or.inr Or.inr
    · nofun
    · nofun
    · nofun
    · nofun
    · intro key pointed
      cases pointed
    · intro key reason
      exact ⟨List.not_mem_nil, List.not_mem_nil, detailed_bound unreasoned reason⟩

theorem measured_read (t : Tracked) (frame : Frame) {result : DriverReadResult} {key : String}
    (member : key ∈ keysOf (foldHub t.state.hub frame result).measurementValues) :
    key ∈ keysOf result.values ∨
      (result.mode ≠ .full ∧ key ∈ keysOf t.state.hub.measurementValues ∧
        key ∉ result.removedKeys) := by
  unfold foldHub at member
  dsimp only at member
  split at member
  · exact Or.inl member
  · rename_i delta
    rw [mem_keysOf, get?_removed, Dict.get?_update] at member
    split at member
    · cases member
    · rename_i kept
      by_cases named : key ∈ keysOf result.values
      · exact Or.inl named
      · rw [get?_none_of_notMem named, Option.none_or, ← mem_keysOf] at member
        exact Or.inr ⟨delta, member, kept⟩

theorem pointed_read {t : Tracked} {inverter : Inverter} {result : DriverReadResult}
    {frame : Frame} (pointed : ∀ key, (t.state.hub.telemetry.points.get? key).isSome = true →
      key ∈ keysOf t.state.hub.measurementValues)
    (folded : foldDriverTelemetry t.state.hub.telemetry inverter.driverKey result = .ok frame)
    {key : String} (present : (frame.points.get? key).isSome = true) :
    key ∈ keysOf (foldHub t.state.hub frame result).measurementValues := by
  have value := foldDriverTelemetry_value? folded key
  have shown : (frame.value? key).isSome = true := by
    unfold Frame.value?
    rw [Option.isSome_map]
    exact present
  rw [value] at shown
  unfold foldHub
  dsimp only
  unfold DriverReadResult.mention at shown
  cases reported : result.values.get? key with
  | some v =>
    have unremoved : key ∉ result.removedKeys := by
      intro removed
      rw [result.value_not_removed key removed] at reported
      cases reported
    split
    · rw [mem_keysOf, reported]
      rfl
    · rw [mem_keysOf, get?_removed, if_neg unremoved, Dict.get?_update, reported]
      rfl
  | none =>
    rw [reported] at shown
    dsimp only at shown
    split at shown
    · cases shown
    · rename_i untouched
      rw [not_or, not_or] at untouched
      have earlier : (t.state.hub.telemetry.points.get? key).isSome = true := by
        rw [Option.getD_none, Frame.value?, Option.isSome_map] at shown
        exact shown
      have held := pointed key earlier
      rw [if_neg untouched.1, mem_keysOf, get?_removed, if_neg untouched.2.2, Dict.get?_update,
        reported, Option.none_or, ← mem_keysOf]
      exact held

theorem inv_read {t : Tracked} (inv : Inv t) {result : DriverReadResult}
    (unreasoned : ∀ key ∈ keysOf result.values ++ keysOf result.diagnostics,
      isReason key = false) : Inv (t.read result) := by
  unfold Tracked.read
  cases bound : t.state.hub.inverter with
  | none => exact inv
  | some inverter =>
    dsimp only
    cases folded : foldDriverTelemetry t.state.hub.telemetry inverter.driverKey result with
    | error error => exact inv
    | ok frame =>
      dsimp only
      constructor
      · exact inv.earlier
      · intro key member
        change key ∈ t.state.hub.ownedKeys ++ keysOf result.values ++ result.removedKeys ++
          (t.state.hub.diagnosticKeys ++ keysOf result.diagnostics)
        have old := inv.reported key
        simp only [List.mem_append] at member old ⊢
        tauto
      · intro key member
        change key ∈ t.state.hub.ownedKeys ++ keysOf result.values ++ result.removedKeys
        rw [List.mem_filter] at member
        simp only [List.mem_append] at member ⊢
        rcases member.1 with (before | lost) | removed
        · exact Or.inl (Or.inl (inv.dropped key before))
        · split at lost
          · exact Or.inl (Or.inl (inv.measured key lost).2.2)
          · cases lost
        · exact Or.inr removed
      · intro key member
        change key ∈ t.supplied ++ (keysOf result.values ++ keysOf result.diagnostics) ∧ _ ∧
          key ∈ t.state.hub.ownedKeys ++ keysOf result.values ++ result.removedKeys
        simp only [List.mem_append]
        rcases measured_read t frame member with named | ⟨delta, held, kept⟩
        · refine ⟨Or.inr (Or.inl named), ?_, Or.inl (Or.inr named)⟩
          simp [named]
        · obtain ⟨supplied, undropped, owned⟩ := inv.measured key held
          refine ⟨Or.inl supplied, ?_, Or.inl (Or.inl owned)⟩
          simp [delta, undropped, kept]
      · intro key member
        change key ∈ keysOf result.diagnostics at member
        simp [member]
      · intro key present
        exact pointed_read inv.pointed folded present
      · intro key reason
        obtain ⟨unmeasured, undiagnosed, undetailed⟩ := inv.unreasoned key reason
        have unnamed : key ∉ keysOf result.values ++ keysOf result.diagnostics := by
          intro named
          rw [unreasoned key named] at reason
          cases reason
        rw [List.mem_append, not_or] at unnamed
        refine ⟨?_, unnamed.2, ?_⟩
        · intro member
          rcases measured_read t frame member with named | ⟨_, held, _⟩
          · exact unnamed.1 named
          · exact unmeasured held
        · exact undetailed

theorem detailed_publish (t : Tracked) (source : Source) (p : Publication) (key : String) :
    (t.publish source p).detailed key = t.detailed key := by
  have overlay : (t.publish source p).state.hub.inverter = t.state.hub.inverter.map (overlaid p) := by
    cases source <;> rfl
  unfold Tracked.detailed
  rw [overlay]
  cases t.state.hub.inverter <;> rfl

theorem inv_credit {t : Tracked} (inv : Inv t) (p : Publication) : Inv (t.credit p) := by
  unfold Tracked.credit
  constructor
  · exact inv.earlier
  · exact inv.reported
  · intro key member
    exact inv.dropped key (List.mem_filter.mp member).1
  · intro key member
    obtain ⟨supplied, undropped, owned⟩ := inv.measured key member
    refine ⟨List.mem_append_left _ supplied, ?_, owned⟩
    exact fun dropped => undropped (List.mem_filter.mp dropped).1
  · intro key member
    obtain ⟨supplied, undropped⟩ := inv.diagnosed key member
    refine ⟨List.mem_append_left _ supplied, ?_⟩
    exact fun dropped => undropped (List.mem_filter.mp dropped).1
  · exact inv.pointed
  · exact inv.unreasoned

theorem inv_publish {t : Tracked} (inv : Inv t) (source : Source) (p : Publication) :
    Inv (t.publish source p) := by
  have credited := inv_credit inv p
  have owned : (t.publish source p).state.hub.ownedKeys = t.state.hub.ownedKeys := by
    cases source <;> rfl
  have staleOwned : (t.publish source p).state.hub.staleOwnedKeys = t.state.hub.staleOwnedKeys := by
    cases source <;> rfl
  have diagnostic : (t.publish source p).state.hub.diagnosticKeys = t.state.hub.diagnosticKeys := by
    cases source <;> rfl
  have staleDiagnostic : (t.publish source p).state.hub.staleDiagnosticKeys =
      t.state.hub.staleDiagnosticKeys := by
    cases source <;> rfl
  have measured : (t.publish source p).state.hub.measurementValues =
      t.state.hub.measurementValues := by
    cases source <;> rfl
  have diagnosed : (t.publish source p).state.hub.diagnostics = t.state.hub.diagnostics := by
    cases source <;> rfl
  have telemetry : (t.publish source p).state.hub.telemetry = t.state.hub.telemetry := by
    cases source <;> rfl
  constructor
  · rw [staleOwned, staleDiagnostic]
    exact credited.earlier
  · rw [owned, diagnostic]
    exact credited.reported
  · rw [owned]
    exact credited.dropped
  · rw [measured, owned]
    exact credited.measured
  · rw [diagnosed]
    exact credited.diagnosed
  · rw [telemetry, measured]
    exact credited.pointed
  · rw [measured, diagnosed]
    intro key reason
    rw [detailed_publish]
    exact inv.unreasoned key reason

theorem inv_blockers {t : Tracked} (inv : Inv t) (blockers : Dict String CapabilityBlocker) :
    Inv { t with state := { t.state with blockers } } :=
  ⟨inv.earlier, inv.reported, inv.dropped, inv.measured, inv.diagnosed, inv.pointed,
    inv.unreasoned⟩

theorem not_reason_of_unreasoned {keys : List String} (all : unreasoned keys = true) :
    ∀ key ∈ keys, isReason key = false := by
  intro key member
  have passed := List.all_eq_true.mp all key member
  rw [Bool.not_eq_true'] at passed
  exact passed

theorem inv_step {t : Tracked} (inv : Inv t) {event : Event} (admitted : careful t event = true) :
    Inv (step t event) := by
  cases event with
  | bound candidate =>
    unfold careful at admitted
    unfold step
    exact inv_bind inv (not_reason_of_unreasoned admitted)
  | read result =>
    unfold careful at admitted
    unfold step
    exact inv_read inv (not_reason_of_unreasoned admitted)
  | blocked capability blocker =>
    exact inv_blockers inv (t.state.blockers.set capability blocker)
  | unblocked capability => exact inv_blockers inv (t.state.blockers.erase capability)
  | published source p => exact inv_publish inv source p

theorem lastSnapshot_publish (t : Tracked) (source : Source) (p : Publication) :
    (t.publish source p).state.hub.lastSnapshot =
      snapshotOf t.state p (extraValues t.state p source) := by
  cases source <;> rfl

theorem blockers_publish (t : Tracked) (source : Source) (p : Publication) :
    (t.publish source p).state.blockers =
      remainingBlockers t.state (operatingMode t.state p (extraValues t.state p source)) := by
  cases source <;> rfl

theorem goneKeys_cases {t : Tracked} {key : String} (gone : key ∈ t.goneKeys) :
    (key ∈ t.earlier ∧ key ∉ t.supplied ∧ t.detailed key = false) ∨ key ∈ t.dropped := by
  unfold Tracked.goneKeys at gone
  simpa using gone

theorem gone_stripped {t : Tracked} (inv : Inv t) {key : String} (gone : key ∈ t.goneKeys)
    (p : Publication) : key ∈ strippedKeys t.state p := by
  unfold strippedKeys
  simp only [List.mem_append]
  rcases goneKeys_cases gone with ⟨earlier, _⟩ | dropped
  · rcases List.mem_append.mp (inv.earlier key earlier) with stale | diagnostic
    · exact Or.inl (Or.inl (Or.inr stale))
    · exact Or.inr diagnostic
  · have owned := inv.dropped key dropped
    exact Or.inl (Or.inl (Or.inl (Or.inr owned)))

theorem detailValues_none {hub : Hub.State} {inverter : Inverter} {key : String}
    (absent : inverter.details.get? key = none ∨ key ∈ hub.ownedKeys) :
    (detailValues hub inverter).get? key = none := by
  unfold detailValues
  rcases absent with missing | owned
  · split
    · rw [Dict.get?_restrict, missing, ite_self]
    · rw [Dict.get?_restrict, missing, ite_self]
  · have some : hub.ownedKeys.isEmpty = false := by
      rw [List.isEmpty_eq_false_iff]
      exact List.ne_nil_of_mem owned
    simp [some, owned]

theorem undetailed {t : Tracked} {key : String} (without : t.detailed key = false)
    {inverter : Inverter} (bound : t.state.hub.inverter = some inverter) :
    inverter.details.get? key = none := by
  unfold Tracked.detailed at without
  rw [bound] at without
  simpa using without

theorem gone_undriven {t : Tracked} (inv : Inv t) {key : String} (gone : key ∈ t.goneKeys) :
    Undriven t.state.hub key := by
  have cases := goneKeys_cases gone
  have unmeasured : key ∉ keysOf t.state.hub.measurementValues := by
    intro held
    obtain ⟨supplied, undropped, _⟩ := inv.measured key held
    rcases cases with ⟨_, unsupplied, _⟩ | dropped
    · exact unsupplied supplied
    · exact undropped dropped
  have undiagnosed : key ∉ keysOf t.state.hub.diagnostics := by
    intro held
    obtain ⟨supplied, undropped⟩ := inv.diagnosed key held
    rcases cases with ⟨_, unsupplied, _⟩ | dropped
    · exact unsupplied supplied
    · exact undropped dropped
  constructor
  · intro inverter bound
    apply detailValues_none
    rcases cases with ⟨_, _, without⟩ | dropped
    · exact Or.inl (undetailed without bound)
    · exact Or.inr (inv.dropped key dropped)
  · exact get?_none_of_notMem unmeasured
  · exact get?_none_of_notMem undiagnosed
  · rw [← Option.not_isSome_iff_eq_none]
    exact fun pointed => unmeasured (inv.pointed key pointed)

theorem reason_undriven {t : Tracked} (inv : Inv t) {key : String} (reason : isReason key = true) :
    Undriven t.state.hub key := by
  obtain ⟨unmeasured, undiagnosed, without⟩ := inv.unreasoned key reason
  constructor
  · intro inverter bound
    exact detailValues_none (Or.inl (undetailed without bound))
  · exact get?_none_of_notMem unmeasured
  · exact get?_none_of_notMem undiagnosed
  · rw [← Option.not_isSome_iff_eq_none]
    exact fun pointed => unmeasured (inv.pointed key pointed)

theorem gone_uncollected {t : Tracked} {p : Publication} {key : String}
    (gone : key ∈ (t.credit p).goneKeys) : p.collectorValues.get? key = none := by
  apply get?_none_of_notMem
  rcases goneKeys_cases gone with ⟨_, unsupplied, _⟩ | dropped
  · exact fun collected => unsupplied (List.mem_append_right _ collected)
  · exact of_decide_eq_true (List.mem_filter.mp dropped).2

theorem retainable_gone {t : Tracked} {p : Publication} {gone : List String}
    (taken : retainable t p gone = true) {key : String} (member : key ∈ gone) :
    t.state.hub.lastSnapshot.values.get? key = none := by
  unfold retainable at taken
  rw [Bool.and_eq_true] at taken
  exact Option.isNone_iff_eq_none.mp (List.all_eq_true.mp taken.1 key member)

theorem retainable_reason {t : Tracked} {p : Publication} {gone : List String}
    (taken : retainable t p gone = true) {key : String} (reason : isReason key = true)
    (shown : key ∈ keysOf t.state.hub.lastSnapshot.values) :
    ∃ capability, ((remainingBlockers t.state (operatingMode t.state p
        (extraValues t.state p .retained))).get? capability).isSome = true ∧
      key = reasonName capability := by
  unfold retainable at taken
  rw [Bool.and_eq_true] at taken
  have passed := List.all_eq_true.mp taken.2 key shown
  rw [reason, Bool.not_true, Bool.false_or, List.any_eq_true] at passed
  obtain ⟨⟨capability, blocker⟩, member, same⟩ := passed
  have held := (Dict.get?_eq_some_iff _ capability blocker).mpr member
  exact ⟨capability, by rw [held]; rfl, of_decide_eq_true same⟩

theorem carefulPublish_cases {t : Tracked} {source : Source} {p : Publication}
    (admitted : carefulPublish t source p = true) :
    (∀ key ∈ keysOf p.collectorValues, isReason key = false) ∧
      (∀ key ∈ (t.credit p).goneKeys, key ∉ writtenKeys t.state p (extraValues t.state p source)) ∧
      (source = .collector ∨ retainable t p (t.credit p).goneKeys = true) := by
  unfold carefulPublish at admitted
  rw [Bool.and_eq_true, Bool.and_eq_true, Bool.or_eq_true] at admitted
  obtain ⟨⟨quiet, unwritten⟩, origin⟩ := admitted
  refine ⟨not_reason_of_unreasoned quiet, ?_, origin.imp_left of_decide_eq_true⟩
  intro key member
  exact of_decide_eq_true (List.all_eq_true.mp unwritten key member)

theorem gone_unextra {t : Tracked} {source : Source} {p : Publication}
    (admitted : carefulPublish t source p = true) {key : String}
    (gone : key ∈ (t.credit p).goneKeys) :
    (extraValues t.state p source).get? key = none := by
  obtain ⟨_, unwritten, origin⟩ := carefulPublish_cases admitted
  cases source with
  | collector => exact Layer.apply_none (gone_uncollected gone) (unwritten_cycle (unwritten key gone))
  | retained =>
    have taken := origin.resolve_left (by decide)
    unfold extraValues
    dsimp only
    rw [Dict.get?_update, gone_uncollected gone, retainable_gone taken gone]
    rfl

theorem gone_absent {t : Tracked} (inv : Inv t) {source : Source} {p : Publication}
    (admitted : carefulPublish t source p = true) {key : String}
    (gone : key ∈ (t.credit p).goneKeys) :
    Absent (t.publish source p).state.hub.lastSnapshot key := by
  have credited := inv_credit inv p
  have unwritten := (carefulPublish_cases admitted).2.1 key gone
  rw [lastSnapshot_publish]
  exact snapshotOf_absent (gone_stripped credited gone p) (gone_undriven credited gone)
    (gone_unextra admitted gone) unwritten

theorem reason_backed {t : Tracked} {source : Source} {p : Publication}
    (admitted : carefulPublish t source p = true) {key : String} (reason : isReason key = true)
    (supplied : ((extraValues t.state p source).get? key).isSome = true) :
    ∃ capability, ((remainingBlockers t.state (operatingMode t.state p
        (extraValues t.state p source))).get? capability).isSome = true ∧
      key = reasonName capability := by
  obtain ⟨quiet, _, origin⟩ := carefulPublish_cases admitted
  have uncollected : p.collectorValues.get? key = none := by
    apply get?_none_of_notMem
    intro collected
    rw [quiet key collected] at reason
    cases reason
  cases source with
  | collector =>
    unfold extraValues at supplied
    dsimp only at supplied
    rw [Layer.apply_reason _ reason, uncollected] at supplied
    cases supplied
  | retained =>
    have taken := origin.resolve_left (by decide)
    have last : key ∈ keysOf t.state.hub.lastSnapshot.values := by
      unfold extraValues at supplied
      dsimp only at supplied
      rw [Dict.get?_update, uncollected, Option.none_or, ← mem_keysOf] at supplied
      exact supplied
    exact retainable_reason taken reason last

theorem current_publish {t : Tracked} (inv : Inv t) {source : Source} {p : Publication}
    (admitted : carefulPublish t source p = true) : Current (t.publish source p) := by
  constructor
  · intro key earlier unsupplied without
    apply gone_absent inv admitted
    rw [detailed_publish] at without
    have unsupplied' : key ∉ (t.credit p).supplied := unsupplied
    have without' : (t.credit p).detailed key = false := without
    apply List.mem_append_left
    rw [List.mem_filter]
    exact ⟨earlier, by simp [unsupplied', without']⟩
  · intro key dropped
    exact gone_absent inv admitted (List.mem_append_right _ dropped)
  · intro key reason
    rw [lastSnapshot_publish, blockers_publish]
    exact snapshotOf_reason reason (reason_undriven inv reason) (reason_backed admitted reason)

/-- In a run of such steps every published snapshot holds current facts only. -/
theorem snapshots_hold_current_facts (events : List Event)
    (admitted : EveryStep step (fun t event => careful t event = true) initial events) :
    EveryStep step (fun t event => event.publishes → Current (step t event)) initial events := by
  have preserved : ∀ t event, Inv t → careful t event = true → Inv (step t event) :=
    fun t event inv careful => inv_step inv careful
  have published : ∀ t event, Inv t → careful t event = true →
      event.publishes → Current (step t event) := by
    intro t event inv careful publishes
    cases event with
    | published source p =>
      have publication : carefulPublish t source p = true := careful
      exact current_publish inv publication
    | bound candidate => cases publishes
    | read result => cases publishes
    | blocked capability blocker => cases publishes
    | unblocked capability => cases publishes
  exact everyStep_of_invariant preserved published inv_initial admitted

def noCanonical : CanonicalPass where
  keysOf := fun _ => []
  derive := fun _ _ _ => []
  named := by simp

def report (lastError : String) : Publication where
  canonical := noCanonical
  online := true
  lastError := lastError

def shortAscii (modelName : String) : Inverter where
  driverKey := "eybond_short_ascii"
  modelName := modelName
  serialNumber := ""
  variantKey := ""
  details := Dict.empty
  capabilities := []

def statusRead : DriverReadResult where
  values := Dict.empty.set "battery_voltage" (.number (512 / 10))
  mode := .full
  removedKeys := []
  diagnostics := Dict.empty.set "short_ascii_optional_status" (.text "QPIRI=ok")
  values_normalized := by
    intro key v found
    rw [Dict.get?_set] at found
    split at found
    · rename_i same
      rw [same]
      decide
    · cases found
  removed_normalized := List.forall_mem_nil normalizedKey
  diagnostics_normalized := by
    intro key v found
    rw [Dict.get?_set] at found
    split at found
    · rename_i same
      rw [same]
      decide
    · cases found
  full_removes_nothing := full_removes_none
  value_not_removed := nofun
  value_not_diagnostic := by
    intro key v found
    rw [Dict.get?_set] at found
    split at found
    · rename_i same
      rw [same]
      decide
    · cases found
  removed_not_diagnostic := nofun

def renewedRun : List Event :=
  [.bound (shortAscii ""), .read statusRead, .published .collector (report ""),
    .blocked "output_mode" ⟨"unsupported", "not in this mode", "", none, "mode_change"⟩,
    .published .collector (report ""), .bound (shortAscii "HV 5kW"),
    .published .collector (report "request_timeout"), .unblocked "output_mode",
    .published .retained (report "request_timeout")]

theorem renewed_snapshots_are_current :
    EveryStep step (fun t event => event.publishes → Current (step t event)) initial renewedRun :=
  snapshots_hold_current_facts renewedRun (by decide +kernel)

def rebindRun : List Event :=
  [.bound (shortAscii ""), .read statusRead, .published .collector (report ""),
    .bound (shortAscii "HV 5kW"), .published .retained (report "request_timeout")]

theorem retained_mapping_shows_earlier_identity :
    ¬ EveryStep step (fun t event => event.publishes → Current (step t event)) initial
      rebindRun := by
  rintro ⟨_, _, _, _, last, _⟩
  have current := last trivial
  have absent := current.earlier "short_ascii_optional_status" (by decide +kernel)
    (by decide +kernel) (by decide +kernel)
  exact absurd absent.1 (by decide +kernel)

end HubFacts
