import EybondLocal.Hub.Assembly
import EybondLocal.Telemetry.Computations
import Mathlib.Data.List.Find

/-!
The canonical telemetry table and the one pass that evaluates it (`_apply_canonical_pass`). A pass
goes through the table in order, so that later aliases may be computed from earlier ones, and never
replaces a value that is there.
-/
namespace Telemetry
open OrderedDict StripText PythonObject Hub HubFacts TrackedReads

structure CanonicalTelemetryDescription where
  key : String
  variants : List CanonicalTelemetryVariant
  deriving DecidableEq, Repr

def flowDrivers : List String :=
  ["modbus_smg", "pi18", "pi30", "smartess_local", "eybond_g_ascii", "srne_modbus", "must_pv_ph18",
    "modbus_catalog"]

def CANONICAL_TELEMETRY : List CanonicalTelemetryDescription :=
  [
    ⟨"grid_voltage",
      [⟨["pi30"], ["input_voltage"], .passthrough, []⟩,
       ⟨["smartess_local"], ["ac_input_voltage"], .passthrough, []⟩]⟩,
    ⟨"grid_frequency",
      [⟨["pi30"], ["input_frequency"], .passthrough, []⟩,
       ⟨["smartess_local"], ["ac_input_frequency"], .passthrough, []⟩]⟩,
    ⟨"output_power",
      [⟨["pi18", "pi30", "smartess_local", "eybond_g_ascii"],
        ["output_active_power"],
        .passthrough, []⟩,
       ⟨["must_pv_ph18"], ["ac_output_power"], .passthrough, []⟩,
       ⟨["modbus_catalog"],
        ["household_load_power", "backup_load_power"],
        .sum, ["solis_esinv"]⟩,
       ⟨["modbus_catalog"],
        ["load_phase_power_l1", "load_phase_power_l2", "load_phase_power_l3"],
        .sum, ["deye_3ph_high_80kw"]⟩]⟩,
    ⟨"load_percent",
      [⟨["pi18"], ["output_load_percent"], .passthrough, []⟩,
       ⟨["eybond_g_ascii"], ["output_load_percentage"], .passthrough, []⟩]⟩,
    ⟨"pv_voltage",
      [⟨["pi18", "pi30", "smartess_local", "eybond_g_ascii"],
        ["pv_input_voltage"],
        .passthrough, []⟩]⟩,
    ⟨"pv_current",
      [⟨["pi30"], ["pv_input_current"], .passthrough, []⟩]⟩,
    ⟨"pv_power",
      [⟨["pi18", "pi30", "smartess_local"], ["pv_input_power"], .passthrough, []⟩,
       ⟨["srne_modbus"], ["pv1_input_power", "pv2_input_power"], .sum, []⟩,
       ⟨["srne_modbus"], ["pv1_input_power"], .passthrough, []⟩,
       ⟨["must_pv_ph18"], ["pv_charging_power"], .passthrough, []⟩,
       ⟨["modbus_catalog"], ["pv_input_voltage", "pv_input_current"], .multiply, ["aohai_fsa"]⟩,
       ⟨["modbus_catalog"], ["pv1_input_power", "pv2_input_power"], .sum, ["growatt_spf"]⟩,
       ⟨["modbus_catalog"],
        ["pv1_input_power", "pv2_input_power", "pv3_input_power", "pv4_input_power"],
        .sum, ["deye_lv"]⟩,
       ⟨["modbus_catalog"],
        ["pv1_input_power", "pv2_input_power", "pv3_input_power", "pv4_input_power"],
        .sum, ["deye_3ph_high_80kw"]⟩]⟩,
    ⟨"pv_charging_power",
      [⟨["modbus_catalog"], ["pv1_input_power", "pv2_input_power"], .sum, ["growatt_spf"]⟩]⟩,
    ⟨"battery_percent",
      [⟨["pi18", "eybond_g_ascii"], ["battery_capacity"], .passthrough, []⟩]⟩,
    ⟨"battery_power",
      [⟨["modbus_smg"], ["battery_average_power"], .passthrough, []⟩,
       ⟨["pi18", "pi30"],
        ["battery_voltage", "battery_charge_current", "battery_discharge_current"],
        .signedDeltaMultiply, []⟩,
       ⟨["smartess_local"],
        ["battery_voltage", "charging_current", "battery_discharge_current"],
        .signedDeltaMultiply, []⟩,
       ⟨["eybond_g_ascii"],
        ["battery_voltage", "battery_current", "eybond_g_ascii_operating_mode_code"],
        .eybondGAsciiBatteryPower, []⟩,
       ⟨["srne_modbus"], ["charge_power"], .passthrough, []⟩,
       ⟨["modbus_catalog"], ["battery_voltage", "battery_current"], .multiply, ["aohai_fsa"]⟩,
       ⟨["modbus_catalog"],
        ["battery_power_magnitude", "battery_current_direction"],
        .magnitudeWithDirection, ["solis_esinv"]⟩]⟩,
    ⟨"grid_power",
      [⟨["modbus_catalog"], ["grid_port_power"], .negate, ["solis_esinv"]⟩]⟩,
    ⟨"pv_to_home_power",
      [⟨flowDrivers, ["output_power", "pv_power", "battery_power"], .flow .pvToHome, []⟩]⟩,
    ⟨"pv_to_battery_power",
      [⟨flowDrivers, ["output_power", "pv_power", "battery_power"], .flow .pvToBattery, []⟩]⟩,
    ⟨"pv_to_grid_power",
      [⟨flowDrivers, ["output_power", "pv_power", "battery_power"], .flow .pvToGrid, []⟩]⟩,
    ⟨"battery_to_home_power",
      [⟨flowDrivers, ["output_power", "pv_power", "battery_power"], .flow .batteryToHome, []⟩]⟩,
    ⟨"grid_to_home_power",
      [⟨flowDrivers, ["output_power", "pv_power", "battery_power"], .flow .gridToHome, []⟩]⟩,
    ⟨"grid_to_battery_power",
      [⟨flowDrivers, ["output_power", "pv_power", "battery_power"], .flow .gridToBattery, []⟩]⟩
  ]

def matchingVariant (spec : CanonicalTelemetryDescription) (driverKey : String)
    (values : Values) (variantKey : Option String) : Option CanonicalTelemetryVariant :=
  spec.variants.find? fun variant =>
    driverKey ∈ variant.driverKeys &&
      (variant.variantKeys = [] || variant.variantKeys.any fun key => variantKey = some key) &&
      variant.sourceKeys.all fun key => (values.get? key).isSome

structure PassState where
  values : Values
  computations : List Computation

section Pass
variable (floatText : ℚ → String) (driverKey : String) (variantKey : Option String)

/-- What one round of the loop over the table finds. `available_keys` is always the key set of
    `values`. -/
def evaluated (values : Values) (spec : CanonicalTelemetryDescription) :
    Option Computation :=
  if (values.get? spec.key).isSome then none
  else
    match matchingVariant spec driverKey values variantKey with
    | none => none
    | some variant =>
      let (value, readKeys) := (variant.computed floatText).run values.get? []
      if value = .none then none else some ⟨spec.key, value, readKeys⟩

def PassState.add (pass : PassState) : Option Computation → PassState
  | none => pass
  | some found => ⟨pass.values.set found.key found.value, pass.computations ++ [found]⟩

def evaluateSpec (pass : PassState) (spec : CanonicalTelemetryDescription) : PassState :=
  pass.add (evaluated floatText driverKey variantKey pass.values spec)

def applyCanonicalPass (values : Values) : PassState :=
  if driverKey = "" then ⟨values, []⟩
  else CANONICAL_TELEMETRY.foldl (evaluateSpec floatText driverKey variantKey) ⟨values, []⟩

def applyCanonicalMeasurements (values : Values) : Values :=
  (applyCanonicalPass floatText driverKey variantKey values).values

end Pass

def flowKeys : List String :=
  ["output_power", "pv_power", "battery_power", "grid_voltage", "operating_mode", "grid_power",
    "pv_charging_power", "solar_feed_to_grid_power", "power_flow_charge_source_state",
    "charging_source_state", "charge_source_priority"]

def CanonicalTelemetryVariant.consults (v : CanonicalTelemetryVariant) : List String :=
  match v.compute with
  | .passthrough | .negate => [v.source 0]
  | .multiply | .sum => v.sourceKeys
  | .signedDeltaMultiply => [v.source 0, v.source 1, v.source 2]
  | .eybondGAsciiBatteryPower =>
    [v.source 0, v.source 1, v.source 2, "pv_charging_current", "charging_current"]
  | .magnitudeWithDirection => [v.source 0, v.source 1]
  | .flow _ => flowKeys

section Within
variable {keys : List String} {key : String}

theorem within_get (member : key ∈ keys) : (get key).Within keys :=
  (Query.within_lookup member).bind fun _ => Query.within_pure _ _

theorem within_numeric (member : key ∈ keys) : (numeric key).Within keys :=
  (within_get member).bind fun _ => Query.within_pure _ _

theorem within_nonNegativeNumeric (member : key ∈ keys) : (nonNegativeNumeric key).Within keys :=
  (within_numeric member).bind fun _ => Query.within_pure _ _

theorem within_accumulate (combine : ℚ → ℚ → ℚ) (total : ℚ) {sources : List String}
    (subset : sources ⊆ keys) : (accumulate combine total sources).Within keys := by
  induction sources generalizing total with
  | nil => exact Query.within_pure _ _
  | cons source rest ih =>
    rw [List.cons_subset] at subset
    apply (within_numeric subset.1).bind
    intro found
    cases found with
    | none => exact Query.within_pure _ _
    | some q => exact ih _ subset.2

end Within

theorem within_flowChargeSource : flowChargeSource.Within flowKeys := by
  apply (within_get (by decide)).bind
  intro state
  cases chargeSourceState state with
  | some source => exact Query.within_pure _ _
  | none =>
    apply (within_get (by decide)).bind
    intro state'
    cases chargeSourceState state' with
    | some source => exact Query.within_pure _ _
    | none => exact (within_get (by decide)).bind fun _ => Query.within_pure _ _

theorem within_gridPresent : gridPresent.Within flowKeys := by
  apply (within_numeric (by decide)).bind
  intro voltage
  cases voltage with
  | some voltage => exact Query.within_pure _ _
  | none =>
    apply (within_get (by decide)).bind
    intro mode
    cases mode <;> exact Query.within_pure _ _

theorem within_computeFlowSplit : computeFlowSplit.Within flowKeys := by
  apply (within_nonNegativeNumeric (by decide)).bind
  intro load
  apply (within_nonNegativeNumeric (by decide)).bind
  intro pv
  apply (within_numeric (by decide)).bind
  intro batteryPower
  split
  · apply within_gridPresent.bind
    intro present
    apply (within_numeric (by decide)).bind
    intro gridPower
    apply (within_nonNegativeNumeric (by decide)).bind
    intro pvCharging
    apply (within_nonNegativeNumeric (by decide)).bind
    intro pvExport
    apply within_flowChargeSource.bind
    intro chargeSource
    exact (within_get (by decide)).bind fun _ => Query.within_pure _ _
  · exact Query.within_pure _ _

namespace CanonicalTelemetryVariant

theorem within_eybondGAsciiBatteryPower (v : CanonicalTelemetryVariant) (floatText : ℚ → String) :
    (v.eybondGAsciiBatteryPower floatText).Within
      [v.source 0, v.source 1, v.source 2, "pv_charging_current", "charging_current"] := by
  apply (within_numeric (by simp)).bind
  intro voltage
  apply (within_numeric (by simp)).bind
  intro current
  apply (within_get (by simp)).bind
  intro mode
  split
  · split
    · apply (within_get (by simp)).bind
      intro pvCharging
      exact (within_get (by simp)).bind fun _ => Query.within_pure _ _
    · exact Query.within_pure _ _
  · exact Query.within_pure _ _

theorem within_computed (v : CanonicalTelemetryVariant) (floatText : ℚ → String) :
    (v.computed floatText).Within v.consults := by
  unfold computed consults
  cases v.compute with
  | passthrough => exact within_get (List.mem_singleton_self _)
  | multiply => exact (within_accumulate _ _ (List.Subset.refl _)).bind fun _ => Query.within_pure _ _
  | sum => exact (within_accumulate _ _ (List.Subset.refl _)).bind fun _ => Query.within_pure _ _
  | signedDeltaMultiply =>
    apply (within_numeric (by simp)).bind
    intro voltage
    apply (within_numeric (by simp)).bind
    intro charge
    exact (within_numeric (by simp)).bind fun _ => Query.within_pure _ _
  | eybondGAsciiBatteryPower => exact v.within_eybondGAsciiBatteryPower floatText
  | negate =>
    exact (within_numeric (List.mem_singleton_self _)).bind fun _ => Query.within_pure _ _
  | magnitudeWithDirection =>
    apply (within_numeric (by simp)).bind
    intro magnitude
    exact (within_get (by simp)).bind fun _ => Query.within_pure _ _
  | flow flow => exact within_computeFlowSplit.bind fun _ => Query.within_pure _ _

end CanonicalTelemetryVariant

def CanonicalTelemetryVariant.firstKey (v : CanonicalTelemetryVariant) : String :=
  match v.compute with
  | .flow _ => "output_power"
  | _ => v.source 0

theorem firstKey_source : ∀ spec ∈ CANONICAL_TELEMETRY, ∀ v ∈ spec.variants,
    v.firstKey ∈ v.sourceKeys := by
  decide

/-- No alias is computed for a driver from one that only a later row computes for it. -/
theorem rows_in_order : CANONICAL_TELEMETRY.Pairwise fun spec later =>
    ∀ v ∈ spec.variants, ∀ w ∈ later.variants, (∃ driver ∈ v.driverKeys, driver ∈ w.driverKeys) →
      later.key ∉ v.sourceKeys ++ v.consults := by
  decide +kernel

theorem spec_key_normalized : ∀ spec ∈ CANONICAL_TELEMETRY, normalizedKey spec.key := by
  decide +kernel

theorem spec_key_canonical : ∀ spec ∈ CANONICAL_TELEMETRY, spec.key ∈ canonicalNames := by
  decide

section Round
variable {floatText : ℚ → String} {driverKey : String} {variantKey : Option String}

theorem matchingVariant_some {spec : CanonicalTelemetryDescription} {values : Values}
    {variant : CanonicalTelemetryVariant}
    (found : matchingVariant spec driverKey values variantKey = some variant) :
    variant ∈ spec.variants ∧ driverKey ∈ variant.driverKeys ∧
      ∀ key ∈ variant.sourceKeys, (values.get? key).isSome := by
  have accepted := List.find?_some found
  simp only [Bool.and_eq_true, decide_eq_true_eq, List.all_eq_true] at accepted
  exact ⟨List.mem_of_find?_eq_some found, accepted.1.1, accepted.2⟩

theorem evaluated_some {values : Values} {spec : CanonicalTelemetryDescription}
    {found : Computation}
    (computed : evaluated floatText driverKey variantKey values spec = some found) :
    values.get? spec.key = none ∧ found.key = spec.key ∧ found.value ≠ .none ∧
      ∃ variant ∈ spec.variants, driverKey ∈ variant.driverKeys ∧
        (∀ key ∈ variant.sourceKeys, (values.get? key).isSome) ∧
        (variant.computed floatText).run values.get? [] = (found.value, found.sourceKeys) := by
  unfold evaluated at computed
  split at computed
  · cases computed
  · rename_i absent
    split at computed
    · cases computed
    · rename_i variant matched
      obtain ⟨member, driver, present⟩ := matchingVariant_some matched
      dsimp only at computed
      split at computed
      · cases computed
      · rename_i some_value
        cases computed
        exact ⟨by simpa using absent, rfl, some_value, variant, member, driver, present, rfl⟩

/-- A round depends only on the entries that the variants of its driver name. -/
theorem evaluated_congr {values values' : Values} {spec : CanonicalTelemetryDescription}
    (own : values.get? spec.key = values'.get? spec.key)
    (agree : ∀ v ∈ spec.variants, driverKey ∈ v.driverKeys →
      ∀ key ∈ v.sourceKeys ++ v.consults, values.get? key = values'.get? key) :
    evaluated floatText driverKey variantKey values spec =
      evaluated floatText driverKey variantKey values' spec := by
  have matched : matchingVariant spec driverKey values variantKey =
      matchingVariant spec driverKey values' variantKey := by
    unfold matchingVariant
    apply List.find?_congr
    intro v member
    by_cases driver : driverKey ∈ v.driverKeys
    · have same : (v.sourceKeys.all fun key => (values.get? key).isSome) =
          v.sourceKeys.all fun key => (values'.get? key).isSome := by
        rw [Bool.eq_iff_iff, List.all_eq_true, List.all_eq_true]
        have entry : ∀ key ∈ v.sourceKeys, values.get? key = values'.get? key :=
          fun key source => agree v member driver key (List.mem_append_left _ source)
        constructor
        · intro present key source
          rw [← entry key source]
          exact present key source
        · intro present key source
          rw [entry key source]
          exact present key source
      rw [same]
    · simp [driver]
  unfold evaluated
  rw [own, matched]
  split
  · rfl
  · split
    · rfl
    · rename_i variant found
      obtain ⟨member, driver, -⟩ := matchingVariant_some found
      have same := Query.run_congr (variant.within_computed floatText)
        (fun key consulted => agree variant member driver key (List.mem_append_right _ consulted)) []
      rw [same]

/-- What a round adds, a later row of the table never asked for. -/
theorem evaluated_add {earlier spec : CanonicalTelemetryDescription} {values : Values}
    {found : Computation}
    (ordered : ∀ v ∈ earlier.variants, ∀ w ∈ spec.variants,
      (∃ driver ∈ v.driverKeys, driver ∈ w.driverKeys) → spec.key ∉ v.sourceKeys ++ v.consults)
    (computed : evaluated floatText driverKey variantKey values spec = some found)
    (settled : evaluated floatText driverKey variantKey values earlier = none) :
    evaluated floatText driverKey variantKey (values.set found.key found.value) earlier = none := by
  obtain ⟨absent, key_eq, -, w, w_member, w_driver, -, -⟩ := evaluated_some computed
  by_cases same : earlier.key = spec.key
  · unfold evaluated
    simp [same, key_eq]
  · rw [← settled]
    apply evaluated_congr
    · rw [Dict.get?_set, key_eq, if_neg same]
    · intro v member driver key consulted
      have other : key ≠ spec.key := by
        rintro rfl
        exact ordered v member w w_member ⟨driverKey, driver, w_driver⟩ consulted
      rw [Dict.get?_set, key_eq, if_neg other]

theorem foldl_settled {done rest : List CanonicalTelemetryDescription} {state : PassState}
    (ordered : (done ++ rest).Pairwise fun spec later =>
      ∀ v ∈ spec.variants, ∀ w ∈ later.variants, (∃ driver ∈ v.driverKeys, driver ∈ w.driverKeys) →
        later.key ∉ v.sourceKeys ++ v.consults)
    (settled : ∀ spec ∈ done, evaluated floatText driverKey variantKey state.values spec = none) :
    ∀ spec ∈ done ++ rest, evaluated floatText driverKey variantKey
      (rest.foldl (evaluateSpec floatText driverKey variantKey) state).values spec = none := by
  induction rest generalizing done state with
  | nil => simpa using settled
  | cons spec rest ih =>
    have regroup : done ++ spec :: rest = (done ++ [spec]) ++ rest := by simp
    rw [regroup] at ordered ⊢
    apply ih ordered
    intro earlier member
    have own : evaluated floatText driverKey variantKey
        (evaluateSpec floatText driverKey variantKey state spec).values spec = none := by
      unfold evaluateSpec
      cases computed : evaluated floatText driverKey variantKey state.values spec with
      | none => exact computed
      | some found =>
        have key_eq := (evaluated_some computed).2.1
        simp [PassState.add, evaluated, key_eq]
    rw [List.mem_append, List.mem_singleton] at member
    rcases member with before | rfl
    · unfold evaluateSpec
      cases computed : evaluated floatText driverKey variantKey state.values spec with
      | none => exact settled earlier before
      | some found =>
        have order := (List.pairwise_append.mp (List.pairwise_append.mp ordered).1).2.2 earlier before
          spec (List.mem_singleton_self spec)
        exact evaluated_add order computed (settled earlier before)
    · exact own

theorem foldl_of_settled {specs : List CanonicalTelemetryDescription} {state : PassState}
    (settled : ∀ spec ∈ specs, evaluated floatText driverKey variantKey state.values spec = none) :
    specs.foldl (evaluateSpec floatText driverKey variantKey) state = state := by
  induction specs with
  | nil => rfl
  | cons spec rest ih =>
    have still : evaluateSpec floatText driverKey variantKey state spec = state := by
      rw [evaluateSpec, settled spec List.mem_cons_self]
      rfl
    rw [List.foldl_cons, still]
    exact ih fun later member => settled later (List.mem_cons_of_mem spec member)

variable (floatText variantKey) in
theorem applyCanonicalPass_settled (values : Values) (named : driverKey ≠ "") :
    ∀ spec ∈ CANONICAL_TELEMETRY, evaluated floatText driverKey variantKey
      (applyCanonicalPass floatText driverKey variantKey values).values spec = none := by
  unfold applyCanonicalPass
  rw [if_neg named]
  have settled : ∀ spec ∈ [] ++ CANONICAL_TELEMETRY, evaluated floatText driverKey variantKey
      (CANONICAL_TELEMETRY.foldl (evaluateSpec floatText driverKey variantKey)
        ⟨values, []⟩).values spec = none :=
    foldl_settled (by simpa using rows_in_order) (by simp)
  simpa using settled

theorem applyCanonicalPass_of_settled {values : Values}
    (settled : ∀ spec ∈ CANONICAL_TELEMETRY,
      evaluated floatText driverKey variantKey values spec = none) :
    applyCanonicalPass floatText driverKey variantKey values = ⟨values, []⟩ := by
  unfold applyCanonicalPass
  split
  · rfl
  · exact foldl_of_settled settled

theorem applyCanonicalMeasurements_idempotent (values : Values) :
    applyCanonicalMeasurements floatText driverKey variantKey
        (applyCanonicalMeasurements floatText driverKey variantKey values) =
      applyCanonicalMeasurements floatText driverKey variantKey values := by
  by_cases named : driverKey = ""
  · simp [applyCanonicalMeasurements, applyCanonicalPass, named]
  · have settled := applyCanonicalPass_settled floatText variantKey values named
    unfold applyCanonicalMeasurements
    rw [applyCanonicalPass_of_settled settled]

/-- What holds before a pass and survives every computed alias holds after it. -/
theorem applyCanonicalPass_induction {motive : PassState → Prop} {values : Values}
    (start : motive ⟨values, []⟩)
    (next : ∀ spec ∈ CANONICAL_TELEMETRY, ∀ state found, motive state →
      evaluated floatText driverKey variantKey state.values spec = some found →
      motive (state.add (some found))) :
    motive (applyCanonicalPass floatText driverKey variantKey values) := by
  have run : ∀ specs ⊆ CANONICAL_TELEMETRY, ∀ state, motive state →
      motive (specs.foldl (evaluateSpec floatText driverKey variantKey) state) := by
    intro specs
    induction specs with
    | nil => exact fun _ state held => held
    | cons spec rest ih =>
      intro subset state held
      rw [List.cons_subset] at subset
      apply ih subset.2
      unfold evaluateSpec
      cases computed : evaluated floatText driverKey variantKey state.values spec with
      | none => exact held
      | some found => exact next spec subset.1 state found held computed
  unfold applyCanonicalPass
  split
  · exact start
  · exact run _ (List.Subset.refl _) _ start

theorem computations_canonical (values : Values) :
    ∀ computation ∈ (applyCanonicalPass floatText driverKey variantKey values).computations,
      computation.key ∈ canonicalNames := by
  apply applyCanonicalPass_induction
    (motive := fun state => ∀ computation ∈ state.computations, computation.key ∈ canonicalNames)
  · simp
  · intro spec member state found named computed
    simp only [PassState.add, List.mem_append, List.mem_singleton]
    rintro computation (earlier | rfl)
    · exact named computation earlier
    · rw [(evaluated_some computed).2.1]
      exact spec_key_canonical spec member

/-- A pass sees only what is under each key, not in which order the mapping has it. -/
theorem applyCanonicalPass_congr {values values' : Values}
    (agree : ∀ key, values.get? key = values'.get? key) :
    (applyCanonicalPass floatText driverKey variantKey values).computations =
      (applyCanonicalPass floatText driverKey variantKey values').computations := by
  have run : ∀ (specs : List CanonicalTelemetryDescription) (state state' : PassState),
      (∀ key, state.values.get? key = state'.values.get? key) →
      state.computations = state'.computations →
      (specs.foldl (evaluateSpec floatText driverKey variantKey) state).computations =
        (specs.foldl (evaluateSpec floatText driverKey variantKey) state').computations := by
    intro specs
    induction specs with
    | nil => exact fun _ _ _ same => same
    | cons spec rest ih =>
      intro state state' entries same
      have round : evaluated floatText driverKey variantKey state.values spec =
          evaluated floatText driverKey variantKey state'.values spec :=
        evaluated_congr (entries _) fun _ _ _ key _ => entries key
      apply ih
      · intro key
        unfold evaluateSpec
        rw [round]
        cases evaluated floatText driverKey variantKey state'.values spec with
        | none => exact entries key
        | some found => simp [PassState.add, entries key]
      · unfold evaluateSpec
        rw [round]
        cases evaluated floatText driverKey variantKey state'.values spec with
        | none => exact same
        | some found => simp [PassState.add, same]
  unfold applyCanonicalPass
  split
  · rfl
  · exact run _ _ _ agree rfl

end Round

def canonicalMeasurementsForDriver (driverKey : String) (variantKey : Option String) : List String :=
  if driverKey = "" then []
  else
    (CANONICAL_TELEMETRY.filter fun spec => spec.variants.any fun variant =>
      driverKey ∈ variant.driverKeys &&
        (variant.variantKeys = [] || variantKey.isNone ||
          variant.variantKeys.any fun key => variantKey = some key)).map
      CanonicalTelemetryDescription.key

def tablePass (floatText : ℚ → String) : HubFacts.CanonicalPass where
  keysOf driverKey := canonicalMeasurementsForDriver driverKey none
  derive driverKey variantKey values :=
    (applyCanonicalPass floatText driverKey variantKey values).computations
  named _ _ values := computations_canonical values

end Telemetry
