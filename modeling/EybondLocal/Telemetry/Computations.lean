import EybondLocal.Library.HalfEven
import EybondLocal.Library.PythonText
import EybondLocal.Library.TrackedReads
import EybondLocal.Telemetry.Frame

/-!
The computations behind the canonical telemetry aliases (`_compute_variant` and what it calls, in
`canonical_telemetry.py`). Each looks its values up in the order of the source. A float is its exact
value, so a non-finite one is no number here; how a float prints is a parameter.
-/
namespace Telemetry
open OrderedDict StripText PythonText HalfEven Hub TrackedReads

abbrev Reads := Query String Value

def get (key : String) : Reads Value := do
  return (← Query.lookup key).getD .none

def numeric (key : String) : Reads (Option ℚ) := do
  return (← get key).numeric

def nonNegativeNumeric (key : String) : Reads (Option ℚ) := do
  return (← numeric key).map (max 0)

def round4 (q : ℚ) : ℚ := roundTo q 4

def pyStr (floatText : ℚ → String) : Value → String
  | .none => "None"
  | .bool true => "True"
  | .bool false => "False"
  | .int n => toString n
  | .number q => floatText q
  | .infinity false => "inf"
  | .infinity true => "-inf"
  | .nan => "nan"
  | .text s => s
  | .structured content => content

inductive Flow where
  | pvToHome
  | pvToBattery
  | pvToGrid
  | batteryToHome
  | gridToHome
  | gridToBattery
  deriving DecidableEq, Repr

inductive ChargeSource where
  | pv
  | utility
  | pvAndUtility
  deriving DecidableEq, Repr

def chargeSourceState : Value → Option ChargeSource
  | .text "PV" => some .pv
  | .text "Utility" => some .utility
  | .text "PV + Utility" => some .pvAndUtility
  | _ => none

def flowChargeSource : Reads (Option ChargeSource) := do
  match chargeSourceState (← get "power_flow_charge_source_state") with
  | some source => return some source
  | none =>
    match chargeSourceState (← get "charging_source_state") with
    | some source => return some source
    | none => return if (← get "charge_source_priority") = .text "PV Only" then some .pv else none

def gridPresent : Reads (Option Bool) := do
  match ← numeric "grid_voltage" with
  | some voltage => return some (decide (20 ≤ voltage))
  | none =>
    match ← get "operating_mode" with
    | .text mode => return if mode ∈ ["Battery", "Off-Grid"] then some false else none
    | _ => return none

/-- What `_compute_flow_split` has read when it starts to split. -/
structure FlowReadings where
  load : ℚ
  pv : ℚ
  batteryPower : ℚ
  gridPresent : Option Bool
  gridPower : Option ℚ
  pvChargingPower : Option ℚ
  pvExportPower : Option ℚ
  chargeSource : Option ChargeSource
  operatingMode : Value

structure Budgets where
  pv : ℚ
  grid : Option ℚ
  charge : ℚ
  discharge : ℚ
  load : ℚ
  pvToBattery : ℚ := 0
  gridToBattery : ℚ := 0
  pvToHome : ℚ := 0
  batteryToHome : ℚ := 0
  gridToHome : ℚ := 0

namespace FlowReadings
variable (r : FlowReadings)

def batteryCharge : ℚ := max 0 r.batteryPower

def batteryDischarge : ℚ := max 0 (-r.batteryPower)

def gridImport : Option ℚ :=
  match r.gridPresent, r.gridPower with
  | some false, power => power.map fun _ => 0
  | _, some power => some (max 0 power)
  -- a trusted grid voltage without a power meter: the deficit of the measured sinks
  | some true, none => some (max 0 (r.load + r.batteryCharge - r.pv - r.batteryDischarge))
  | none, none => none

def desiredPvToGrid : ℚ :=
  if r.gridPresent = some false then 0
  else
    match r.pvExportPower, r.gridPower with
    | some measured, _ => measured
    | none, some power => max 0 (-power)
    | none, none => 0

def explicitPvCharge : Bool :=
  r.pvChargingPower.isSome || r.chargeSource = some .pv || r.chargeSource = some .pvAndUtility

def budgets : Budgets where
  pv := r.pv
  grid := r.gridImport
  charge := r.batteryCharge
  discharge := r.batteryDischarge
  load := r.load

def reservePvCharge (b : Budgets) : Budgets :=
  if r.chargeSource ≠ some .utility ∧ r.explicitPvCharge then
    let routed := min b.pv ((r.pvChargingPower.map (min r.batteryCharge)).getD r.batteryCharge)
    { b with pv := b.pv - routed, charge := b.charge - routed, pvToBattery := routed }
  else b

def chargeFromGrid (b : Budgets) : Budgets :=
  match b.grid with
  | some grid =>
    if 0 < b.charge then
      let routed := min grid b.charge
      { b with
        grid := some (grid - routed), charge := b.charge - routed,
        gridToBattery := b.gridToBattery + routed }
    else b
  | none => b

def reserveGridCharge (b : Budgets) : Budgets :=
  if r.chargeSource = some .utility ∨ r.chargeSource = some .pvAndUtility then chargeFromGrid b
  else b

inductive HomeSource where
  | pv
  | battery
  | grid

def routeToHome (b : Budgets) (source : HomeSource) : Budgets :=
  if b.load ≤ 0 then b
  else
    match source, b.grid with
    | .pv, _ =>
      let routed := min b.pv b.load
      { b with pv := b.pv - routed, pvToHome := b.pvToHome + routed, load := b.load - routed }
    | .battery, _ =>
      let routed := min b.discharge b.load
      { b with
        discharge := b.discharge - routed, batteryToHome := b.batteryToHome + routed,
        load := b.load - routed }
    | .grid, some grid =>
      let routed := min grid b.load
      { b with
        grid := some (grid - routed), gridToHome := b.gridToHome + routed,
        load := b.load - routed }
    | .grid, none => b

def homeSourceOrder : List HomeSource :=
  if r.operatingMode = .text "Mains" ∨ r.operatingMode = .text "Bypass" then [.grid, .pv, .battery]
  else [.pv, .battery, .grid]

def remainingPvCharge (b : Budgets) : Budgets :=
  if r.explicitPvCharge = false ∧ r.chargeSource ≠ some .utility then
    let routed := min b.pv b.charge
    { b with
      pv := b.pv - routed, charge := b.charge - routed, pvToBattery := b.pvToBattery + routed }
  else b

def remainingGridCharge (b : Budgets) : Budgets :=
  if r.chargeSource ≠ some .pv then chargeFromGrid b else b

def clearAbsentGrid (b : Budgets) : Budgets :=
  if r.gridPresent = some false then { b with gridToHome := 0, gridToBattery := 0 } else b

def routed : Budgets :=
  let reserved := r.reserveGridCharge (r.reservePvCharge r.budgets)
  let home := r.homeSourceOrder.foldl routeToHome reserved
  r.clearAbsentGrid (r.remainingGridCharge (r.remainingPvCharge home))

def flows : Flow → ℚ
  | .pvToHome => round4 r.routed.pvToHome
  | .pvToBattery => round4 r.routed.pvToBattery
  | .pvToGrid => round4 (min r.routed.pv (max 0 r.desiredPvToGrid))
  | .batteryToHome => round4 r.routed.batteryToHome
  | .gridToHome => round4 r.routed.gridToHome
  | .gridToBattery => round4 r.routed.gridToBattery

end FlowReadings

def computeFlowSplit : Reads (Option (Flow → ℚ)) := do
  let load ← nonNegativeNumeric "output_power"
  let pv ← nonNegativeNumeric "pv_power"
  let batteryPower ← numeric "battery_power"
  match load, pv, batteryPower with
  | some load, some pv, some batteryPower =>
    let present ← gridPresent
    let gridPower ← numeric "grid_power"
    let pvChargingPower ← nonNegativeNumeric "pv_charging_power"
    let pvExportPower ← nonNegativeNumeric "solar_feed_to_grid_power"
    let chargeSource ← flowChargeSource
    let operatingMode ← get "operating_mode"
    return some (FlowReadings.flows ⟨load, pv, batteryPower, present, gridPower, pvChargingPower,
      pvExportPower, chargeSource, operatingMode⟩)
  | _, _, _ => return none

inductive Compute where
  | passthrough
  | multiply
  | sum
  | signedDeltaMultiply
  | eybondGAsciiBatteryPower
  | negate
  | magnitudeWithDirection
  | flow (flow : Flow)
  deriving DecidableEq, Repr

structure CanonicalTelemetryVariant where
  driverKeys : List String
  sourceKeys : List String
  compute : Compute
  variantKeys : List String
  deriving DecidableEq, Repr

def accumulate (combine : ℚ → ℚ → ℚ) : ℚ → List String → Reads (Option ℚ)
  | total, [] => return some total
  | total, key :: rest => do
    match ← numeric key with
    | none => return none
    | some q => accumulate combine (combine total q) rest

def roundedNumber : Option ℚ → Value
  | some q => .number (round4 q)
  | none => .none

/-- `str(mode).strip()`; it is raised to upper case where it is compared. -/
def modeCode (floatText : ℚ → String) (mode : Value) : String :=
  if mode = .none then "" else strip (pyStr floatText mode)

def modeStarts (first : Char) (modeCode : String) : Bool :=
  match modeCode.toList with
  | c :: _ => (upperAscii c).bind List.head? = some first
  | [] => false

def eybondGAsciiPower (modeCode : String) (voltage current : ℚ) : Value :=
  if current = 0 then .number 0
  else if current < 0 ∨ modeStarts 'B' modeCode then .number (round4 (voltage * current))
  else if asciiUpper modeCode ∈ ["L", "4", "LINE", "UTILITY", "MAINS"].map some then
    .number (round4 (voltage * current))
  else if modeStarts '0' modeCode then .number (round4 (-(voltage * current)))
  else .none

def positiveNumeric (values : List Value) : ℚ :=
  ((values.filterMap Value.numeric).find? fun q => 0 < q).getD 0

def directedMagnitude (floatText : ℚ → String) (magnitude : Option ℚ) (direction : Value) : Value :=
  match magnitude with
  | none => .none
  | some magnitude =>
    if direction = .none then .none
    else if lowerAscii (strip (pyStr floatText direction)) ∈ ["0", "charge", "charging"] then
      .number (round4 |magnitude|)
    else .number (round4 (-|magnitude|))

namespace CanonicalTelemetryVariant
variable (v : CanonicalTelemetryVariant)

def source (i : Nat) : String := v.sourceKeys.getD i ""

/-- `_compute_eybond_g_ascii_battery_power`. -/
def eybondGAsciiBatteryPower (floatText : ℚ → String) : Reads Value := do
  let voltage ← numeric (v.source 0)
  let current ← numeric (v.source 1)
  let mode ← get (v.source 2)
  match voltage, current with
  | some voltage, some current =>
    if current = 0 ∧ modeStarts 'B' (modeCode floatText mode) then
      let pvCharging ← get "pv_charging_current"
      let charging ← get "charging_current"
      return eybondGAsciiPower (modeCode floatText mode) voltage
        (positiveNumeric [pvCharging, charging])
    else return eybondGAsciiPower (modeCode floatText mode) voltage current
  | _, _ => return .none

def computed (floatText : ℚ → String) : Reads Value :=
  match v.compute with
  | .passthrough => get (v.source 0)
  | .multiply => do return roundedNumber (← accumulate (· * ·) 1 v.sourceKeys)
  | .sum => do return roundedNumber (← accumulate (· + ·) 0 v.sourceKeys)
  | .signedDeltaMultiply => do
    let voltage ← numeric (v.source 0)
    let charge ← numeric (v.source 1)
    let discharge ← numeric (v.source 2)
    return roundedNumber (voltage.map (· * (charge.getD 0 - discharge.getD 0)))
  | .eybondGAsciiBatteryPower => v.eybondGAsciiBatteryPower floatText
  | .negate => do return roundedNumber ((← numeric (v.source 0)).map (- ·))
  | .magnitudeWithDirection => do
    let magnitude ← numeric (v.source 0)
    let direction ← get (v.source 1)
    return directedMagnitude floatText magnitude direction
  | .flow flow => do return ((← computeFlowSplit).map fun flows => .number (flows flow)).getD .none

end CanonicalTelemetryVariant
end Telemetry
