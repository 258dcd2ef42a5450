import EybondLocal.Telemetry.Computations
import Mathlib.Tactic.Linarith

/-!
What `_compute_flow_split` routes, before it rounds. Each source and sink is a budget that the
routes draw on one after the other, so the order in which the operating mode and the charge source
put them does not matter to the balance.
-/
namespace Telemetry
open OrderedDict HalfEven Hub TrackedReads

/-- What `_compute_flow_split` reads of a map of values. -/
def flowReadings (values : Values) : Option FlowReadings :=
  match (nonNegativeNumeric "output_power").answer values.get?,
    (nonNegativeNumeric "pv_power").answer values.get?,
    (numeric "battery_power").answer values.get? with
  | some load, some pv, some batteryPower =>
    some {
      load := load
      pv := pv
      batteryPower := batteryPower
      gridPresent := gridPresent.answer values.get?
      gridPower := (numeric "grid_power").answer values.get?
      pvChargingPower := (nonNegativeNumeric "pv_charging_power").answer values.get?
      pvExportPower := (nonNegativeNumeric "solar_feed_to_grid_power").answer values.get?
      chargeSource := flowChargeSource.answer values.get?
      operatingMode := (get "operating_mode").answer values.get? }
  | _, _, _ => none

theorem computeFlowSplit_answer (values : Values) :
    computeFlowSplit.answer values.get? = (flowReadings values).map FlowReadings.flows := by
  unfold computeFlowSplit flowReadings
  simp only [Query.answer_bind]
  cases (nonNegativeNumeric "output_power").answer values.get? with
  | none => rfl
  | some load =>
    cases (nonNegativeNumeric "pv_power").answer values.get? with
    | none => rfl
    | some pv =>
      cases (numeric "battery_power").answer values.get? with
      | none => rfl
      | some batteryPower =>
        simp only [Query.answer_bind, Query.answer_pure, Option.map_some]

theorem nonNegativeNumeric_nonneg {key : String} {values : Values} {q : ℚ}
    (read : (nonNegativeNumeric key).answer values.get? = some q) : 0 ≤ q := by
  unfold nonNegativeNumeric at read
  rw [Query.answer_bind, Query.answer_pure, Option.map_eq_some_iff] at read
  obtain ⟨found, _, rfl⟩ := read
  exact le_max_left 0 found

/-- What is read through `_non_negative_numeric` is not negative. -/
structure FlowReadings.Clamped (r : FlowReadings) : Prop where
  load : 0 ≤ r.load
  pv : 0 ≤ r.pv
  pvCharging : ∀ q, r.pvChargingPower = some q → 0 ≤ q

theorem clamped_of_read {values : Values} {r : FlowReadings} (read : flowReadings values = some r) :
    r.Clamped := by
  unfold flowReadings at read
  split at read
  · rename_i load pv batteryPower readLoad readPv _
    cases read
    constructor
    · exact nonNegativeNumeric_nonneg readLoad
    · exact nonNegativeNumeric_nonneg readPv
    · intro q charging
      exact nonNegativeNumeric_nonneg charging
  · cases read

namespace FlowReadings
variable (r : FlowReadings)

def exact : Flow → ℚ
  | .pvToHome => r.routed.pvToHome
  | .pvToBattery => r.routed.pvToBattery
  | .pvToGrid => min r.routed.pv (max 0 r.desiredPvToGrid)
  | .batteryToHome => r.routed.batteryToHome
  | .gridToHome => r.routed.gridToHome
  | .gridToBattery => r.routed.gridToBattery

theorem flows_eq_round (flow : Flow) : r.flows flow = round4 (r.exact flow) := by
  cases flow <;> rfl

/-- What is left of each budget and what was routed out of it make it up, and nothing is
    negative. A grid without a reading has nothing to give. -/
structure Balanced (b : Budgets) : Prop where
  pvLeft : 0 ≤ b.pv
  gridLeft : 0 ≤ b.grid.getD 0
  chargeLeft : 0 ≤ b.charge
  dischargeLeft : 0 ≤ b.discharge
  loadLeft : 0 ≤ b.load
  pvToHome : 0 ≤ b.pvToHome
  pvToBattery : 0 ≤ b.pvToBattery
  batteryToHome : 0 ≤ b.batteryToHome
  gridToHome : 0 ≤ b.gridToHome
  gridToBattery : 0 ≤ b.gridToBattery
  pv : b.pv + b.pvToHome + b.pvToBattery = r.pv
  grid : b.grid.getD 0 + b.gridToHome + b.gridToBattery = r.gridImport.getD 0
  charge : b.charge + b.pvToBattery + b.gridToBattery = r.batteryCharge
  discharge : b.discharge + b.batteryToHome = r.batteryDischarge
  load : b.load + b.pvToHome + b.batteryToHome + b.gridToHome = r.load

variable {r} {b : Budgets}

theorem gridImport_nonneg : 0 ≤ r.gridImport.getD 0 := by
  unfold gridImport
  split
  · cases r.gridPower <;> exact le_refl _
  · exact le_max_left _ _
  · exact le_max_left _ _
  · exact le_refl _

theorem balanced_budgets (clamped : r.Clamped) : r.Balanced r.budgets := by
  constructor
  case pvLeft => exact clamped.pv
  case gridLeft => exact gridImport_nonneg
  case chargeLeft => exact le_max_left _ _
  case dischargeLeft => exact le_max_left _ _
  case loadLeft => exact clamped.load
  all_goals simp [budgets]

theorem route_bounds {source sink : ℚ} (hSource : 0 ≤ source) (hSink : 0 ≤ sink) :
    0 ≤ min source sink ∧ min source sink ≤ source ∧ min source sink ≤ sink :=
  ⟨le_min hSource hSink, min_le_left _ _, min_le_right _ _⟩

theorem balanced_reservePvCharge (clamped : r.Clamped) (balanced : r.Balanced b)
    (full : b.charge = r.batteryCharge) (none : b.pvToBattery = 0) :
    r.Balanced (r.reservePvCharge b) := by
  unfold reservePvCharge
  split
  · have sink : 0 ≤ r.batteryCharge := le_max_left _ _
    have desired : 0 ≤ (r.pvChargingPower.map (min r.batteryCharge)).getD r.batteryCharge ∧
        (r.pvChargingPower.map (min r.batteryCharge)).getD r.batteryCharge ≤ r.batteryCharge := by
      cases charging : r.pvChargingPower with
      | none => exact ⟨sink, le_refl _⟩
      | some q => exact ⟨le_min sink (clamped.pvCharging q charging), min_le_left _ _⟩
    obtain ⟨routed, fromPv, toBattery⟩ := route_bounds balanced.pvLeft desired.1
    have := balanced.pv
    have := balanced.charge
    exact { balanced with
      pvLeft := by simp only; linarith
      chargeLeft := by simp only; linarith
      pvToBattery := by simp only; linarith
      pv := by simp only; linarith
      charge := by simp only; linarith }
  · exact balanced

theorem balanced_chargeFromGrid (balanced : r.Balanced b) : r.Balanced (chargeFromGrid b) := by
  unfold chargeFromGrid
  split
  · rename_i grid present
    split
    · have given := balanced.gridLeft
      have made := balanced.grid
      rw [present, Option.getD_some] at given made
      obtain ⟨routed, fromGrid, toBattery⟩ := route_bounds given balanced.chargeLeft
      have := balanced.charge
      have := balanced.gridToBattery
      exact { balanced with
        gridLeft := by simp only [Option.getD_some]; linarith
        chargeLeft := by simp only; linarith
        gridToBattery := by simp only; linarith
        grid := by simp only [Option.getD_some]; linarith
        charge := by simp only; linarith }
    · exact balanced
  · exact balanced

theorem balanced_routeToHome (balanced : r.Balanced b) (source : HomeSource) :
    r.Balanced (routeToHome b source) := by
  unfold routeToHome
  split
  · exact balanced
  · have home := balanced.load
    split
    · obtain ⟨routed, fromPv, toHome⟩ := route_bounds balanced.pvLeft balanced.loadLeft
      have := balanced.pv
      have := balanced.pvToHome
      exact { balanced with
        pvLeft := by simp only; linarith
        loadLeft := by simp only; linarith
        pvToHome := by simp only; linarith
        pv := by simp only; linarith
        load := by simp only; linarith }
    · obtain ⟨routed, fromBattery, toHome⟩ := route_bounds balanced.dischargeLeft balanced.loadLeft
      have := balanced.discharge
      have := balanced.batteryToHome
      exact { balanced with
        dischargeLeft := by simp only; linarith
        loadLeft := by simp only; linarith
        batteryToHome := by simp only; linarith
        discharge := by simp only; linarith
        load := by simp only; linarith }
    · rename_i grid present
      have given := balanced.gridLeft
      have made := balanced.grid
      rw [present, Option.getD_some] at given made
      obtain ⟨routed, fromGrid, toHome⟩ := route_bounds given balanced.loadLeft
      have := balanced.gridToHome
      exact { balanced with
        gridLeft := by simp only [Option.getD_some]; linarith
        loadLeft := by simp only; linarith
        gridToHome := by simp only; linarith
        grid := by simp only [Option.getD_some]; linarith
        load := by simp only; linarith }
    · exact balanced

theorem balanced_homeRoutes (sources : List HomeSource) (balanced : r.Balanced b) :
    r.Balanced (sources.foldl routeToHome b) := by
  induction sources generalizing b with
  | nil => exact balanced
  | cons source rest ih => exact ih (balanced_routeToHome balanced source)

theorem balanced_remainingPvCharge (balanced : r.Balanced b) :
    r.Balanced (r.remainingPvCharge b) := by
  unfold remainingPvCharge
  split
  · obtain ⟨routed, fromPv, toBattery⟩ := route_bounds balanced.pvLeft balanced.chargeLeft
    have := balanced.pv
    have := balanced.charge
    have := balanced.pvToBattery
    exact { balanced with
      pvLeft := by simp only; linarith
      chargeLeft := by simp only; linarith
      pvToBattery := by simp only; linarith
      pv := by simp only; linarith
      charge := by simp only; linarith }
  · exact balanced

theorem absent_routes (balanced : r.Balanced b) (absent : r.gridPresent = some false) :
    b.gridToHome = 0 ∧ b.gridToBattery = 0 := by
  have budget : r.gridImport.getD 0 = 0 := by
    unfold gridImport
    rw [absent]
    cases r.gridPower <;> rfl
  have made := balanced.grid
  rw [budget] at made
  have := balanced.gridLeft
  have := balanced.gridToHome
  have := balanced.gridToBattery
  constructor <;> linarith

theorem balanced_clearAbsentGrid (balanced : r.Balanced b) : r.Balanced (r.clearAbsentGrid b) := by
  unfold clearAbsentGrid
  split
  · rename_i absent
    obtain ⟨home, battery⟩ := absent_routes balanced absent
    cases b
    simp only at home battery
    subst home battery
    exact balanced
  · exact balanced

theorem balanced_routed (clamped : r.Clamped) : r.Balanced r.routed := by
  have reserved := balanced_reservePvCharge clamped (balanced_budgets clamped) rfl rfl
  have grid : r.Balanced (r.reserveGridCharge (r.reservePvCharge r.budgets)) := by
    unfold reserveGridCharge
    split
    · exact balanced_chargeFromGrid reserved
    · exact reserved
  have home := balanced_homeRoutes r.homeSourceOrder grid
  have remaining := balanced_remainingPvCharge home
  apply balanced_clearAbsentGrid
  unfold remainingGridCharge
  split
  · exact balanced_chargeFromGrid remaining
  · exact remaining

structure Conserves (r : FlowReadings) : Prop where
  nonneg : ∀ flow, 0 ≤ r.exact flow
  pv : r.exact .pvToHome + r.exact .pvToBattery + r.exact .pvToGrid ≤ r.pv
  grid : r.exact .gridToHome + r.exact .gridToBattery ≤ r.gridImport.getD 0
  discharge : r.exact .batteryToHome ≤ r.batteryDischarge
  load : r.exact .pvToHome + r.exact .batteryToHome + r.exact .gridToHome ≤ r.load
  charge : r.exact .pvToBattery + r.exact .gridToBattery ≤ r.batteryCharge
  absent : r.gridPresent = some false →
    r.exact .pvToGrid = 0 ∧ r.exact .gridToHome = 0 ∧ r.exact .gridToBattery = 0

theorem conserves (clamped : r.Clamped) : r.Conserves := by
  have balanced := balanced_routed clamped
  have exported : 0 ≤ min r.routed.pv (max 0 r.desiredPvToGrid) ∧
      min r.routed.pv (max 0 r.desiredPvToGrid) ≤ r.routed.pv :=
    ⟨le_min balanced.pvLeft (le_max_left _ _), min_le_left _ _⟩
  constructor
  case nonneg =>
    intro flow
    cases flow with
    | pvToHome => exact balanced.pvToHome
    | pvToBattery => exact balanced.pvToBattery
    | pvToGrid => exact exported.1
    | batteryToHome => exact balanced.batteryToHome
    | gridToHome => exact balanced.gridToHome
    | gridToBattery => exact balanced.gridToBattery
  case pv =>
    have := balanced.pv
    simp only [exact]
    linarith
  case grid =>
    have := balanced.grid
    have := balanced.gridLeft
    simp only [exact]
    linarith
  case discharge =>
    have := balanced.discharge
    have := balanced.dischargeLeft
    simp only [exact]
    linarith
  case load =>
    have := balanced.load
    have := balanced.loadLeft
    simp only [exact]
    linarith
  case charge =>
    have := balanced.charge
    have := balanced.chargeLeft
    simp only [exact]
    linarith
  case absent =>
    intro absent
    obtain ⟨home, battery⟩ := absent_routes balanced absent
    refine ⟨?_, home, battery⟩
    have nothing : r.desiredPvToGrid = 0 := if_pos absent
    simp only [exact, nothing, max_self]
    exact min_eq_right balanced.pvLeft

end FlowReadings

/-- Where `_compute_flow_split` returns flows, they are the rounded flows of a split that conserves
    what was read. -/
theorem computeFlowSplit_conserves (values : Values) (flows : Flow → ℚ)
    (split : (computeFlowSplit.run values.get? []).1 = some flows) :
    ∃ r, flowReadings values = some r ∧ (∀ flow, flows flow = round4 (r.exact flow)) ∧
      r.Conserves := by
  rw [Query.run_fst, computeFlowSplit_answer, Option.map_eq_some_iff] at split
  obtain ⟨r, read, rfl⟩ := split
  exact ⟨r, read, r.flows_eq_round, FlowReadings.conserves (clamped_of_read read)⟩

def sunnyDay : Values :=
  ⟨[("output_power", .int 800), ("pv_power", .int 3000), ("battery_power", .int 1200),
    ("grid_power", .int (-900))], by decide⟩

theorem computeFlowSplit_conserves_sunnyDay :
    ∃ (flows : Flow → ℚ) (r : FlowReadings), flowReadings sunnyDay = some r ∧
      (∀ flow, flows flow = round4 (r.exact flow)) ∧ r.Conserves := by
  cases split : (computeFlowSplit.run sunnyDay.get? []).1 with
  | none =>
    rw [Query.run_fst, computeFlowSplit_answer] at split
    cases split
  | some flows => exact ⟨flows, computeFlowSplit_conserves sunnyDay flows split⟩

def nightValues : Values :=
  ⟨[("output_power", .int 0), ("pv_power", .int (-5)), ("battery_power", .int 0)], by decide⟩

/-- The PV flows add up to nothing, which is more than a negative reading. -/
theorem nightValues_exceeded :
    ¬ ∀ (values : Values) (flows : Flow → ℚ) (pv : ℚ),
      (computeFlowSplit.run values.get? []).1 = some flows →
      (numeric "pv_power").answer values.get? = some pv →
      ∃ r, flowReadings values = some r ∧
        r.exact .pvToHome + r.exact .pvToBattery + r.exact .pvToGrid ≤ pv := by
  intro bounded
  cases split : (computeFlowSplit.run nightValues.get? []).1 with
  | none =>
    rw [Query.run_fst, computeFlowSplit_answer] at split
    cases split
  | some flows =>
    obtain ⟨r, read, below⟩ := bounded nightValues flows (-5) split rfl
    have conserves := FlowReadings.conserves (clamped_of_read read)
    have := conserves.nonneg .pvToHome
    have := conserves.nonneg .pvToBattery
    have := conserves.nonneg .pvToGrid
    linarith

end Telemetry
