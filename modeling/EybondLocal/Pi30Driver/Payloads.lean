import EybondLocal.Hub.Telemetry
import EybondLocal.Library.PythonText

/-!
The PI30 runtime payloads (`payload/pi30.py`), and which value keys each parser can fill. The
arithmetic of floats is a parameter; which keys appear does not depend on it.
-/
namespace Pi30Driver
open StripText PythonObject OrderedDict Hub

inductive Failure where
  | pi30 (message : String)
  | other (error : PyError)
  deriving DecidableEq, Repr

/-- Python's floats, on the values that stand for them: `float(text)`, `round`, `int(value)` and
    the arithmetic. -/
structure Floats where
  ofText : String → Except PyError Value
  round : Value → Nat → Value
  toInt : Value → Except PyError Int
  times : Value → Value → Value
  minus : Value → Value → Value

inductive Kind where
  | str
  | bool
  | int
  | float
  deriving DecidableEq, Repr

def zeroTexts : List String := ["0", "00", "000", "0000", "0.0", "0.00"]

def uncaught {α : Type} : Except PyError α → Except Failure α
  | .ok value => .ok value
  | .error error => .error (.other error)

def decodeValue (floats : Floats) (raw : String) : Kind → Except Failure Value
  | .str => .ok (.text raw)
  | .bool => .ok (.bool (!zeroTexts.contains raw))
  | .int =>
    match PythonText.parseInt raw with
    | some n => .ok (.int n)
    | none => do
      let value ← uncaught (floats.ofText raw)
      let n ← uncaught (floats.toInt value)
      .ok (.int n)
  | .float => do
    let value ← uncaught (floats.ofText raw)
    .ok (floats.round value 2)

/-- `_decode_optional_fields`; a layout without gaps over fields that are never empty is
    `_decode_fields`. -/
def decodeOptionalFields (floats : Floats) :
    List (Option String × Kind) → List String → Values → Except Failure Values
  | (key, kind) :: layout, raw :: fields, values =>
    match key with
    | none => decodeOptionalFields floats layout fields values
    | some key =>
      if raw = "" then decodeOptionalFields floats layout fields values
      else do
        let value ← decodeValue floats raw kind
        decodeOptionalFields floats layout fields (values.set key value)
  | _, _, values => .ok values

def decodeFields (floats : Floats) (layout : List (String × Kind)) (fields : List String) :
    Except Failure Values :=
  decodeOptionalFields floats (layout.map fun (key, kind) => (some key, kind)) fields Dict.empty

def splitFields (separator : Char) (text : String) : List String :=
  (PythonText.splitText separator text).filter (· ≠ "")

def parseSpaceFields (payload : String) : List String :=
  if strip payload = "" then [] else splitFields ' ' (strip payload)

def qpigsLayout17 : List (String × Kind) :=
  [("input_voltage", .float), ("input_frequency", .float), ("output_voltage", .float),
    ("output_frequency", .float), ("output_apparent_power", .int), ("output_active_power", .int),
    ("load_percent", .int), ("inverter_bus_voltage", .int), ("battery_voltage", .float),
    ("battery_charge_current", .int), ("battery_percent", .int),
    ("inverter_bus_temperature", .int), ("pv_input_current", .float),
    ("pv_input_voltage", .float), ("battery_scc_voltage", .float),
    ("battery_discharge_current", .int), ("status_bits", .str)]

def qpigsLayout21 : List (String × Kind) :=
  qpigsLayout17 ++ [("battery_voltage_offset_fans_on", .int), ("eeprom_version", .int),
    ("pv_charging_power", .int), ("device_status_bits", .str)]

def qpigsLayout24 : List (String × Kind) :=
  qpigsLayout21 ++ [("solar_feed_to_grid_status", .int), ("country_code", .int),
    ("solar_feed_to_grid_power", .int)]

def isNumber : Value → Bool
  | .bool _ => true
  | .int _ => true
  | .number _ => true
  | .infinity _ => true
  | .nan => true
  | _ => false

def derive (values : Values) (left right result : String) (combine : Value → Value → Value) :
    Values :=
  match values.get? left, values.get? right with
  | some a, some b => if isNumber a && isNumber b then values.set result (combine a b) else values
  | _, _ => values

def statusBitsRaw (values : Values) : Values :=
  match values.get? "status_bits" with
  | some (.text bits) => if bits = "" then values else values.set "status_bits_raw" (.text bits)
  | _ => values

def parseQpigs (floats : Floats) (payload : String) : Except Failure Values :=
  let fields := parseSpaceFields payload
  if fields.length < 17 then .error (.pi30 "qpigs_field_count")
  else do
    let values ← decodeFields floats
      (if 24 ≤ fields.length then qpigsLayout24 else if 21 ≤ fields.length then qpigsLayout21
        else qpigsLayout17) fields
    let counted := values.set "qpigs_field_count" (.int fields.length)
    let powered := derive counted "pv_input_voltage" "pv_input_current" "pv_input_power"
      fun voltage current => floats.round (floats.times voltage current) 1
    let balanced := derive powered "battery_charge_current" "battery_discharge_current"
      "battery_power_balance_current" fun charge discharge =>
        floats.round (floats.minus charge discharge) 1
    .ok (statusBitsRaw balanced)

def parseQmod (payload : String) : Except Failure Values :=
  if strip payload = "" then .error (.pi30 "mode_code_empty")
  else .ok (Dict.empty.set "operating_mode_code" (.text (strip payload)))

def parseQpiws (payload : String) : Except Failure Values :=
  let bits := (strip payload).toList
  if bits = [] ∨ bits.any (fun bit => bit ≠ '0' && bit ≠ '1') then .error (.pi30 "qpiws_format")
  else .ok (((Dict.empty.set "alarm_bits_raw" (.text (strip payload))).set "alarm_active"
    (.bool (bits.contains '1'))).set "qpiws_bit_count" (.int bits.length))

def parseQ1Fields (payload : String) : List String :=
  if strip payload = "" then []
  else
    let primary := splitFields ' ' (strip payload)
    let fallback := splitFields ',' (strip payload)
    if primary.length < fallback.length then fallback else primary

def q1Layout13 : List (Option String × Kind) :=
  [(some "time_until_absorb_charge", .int), (some "time_until_float_charge", .int), (none, .int),
    (some "tracker_temperature", .int), (some "inverter_temperature", .int),
    (some "battery_temperature", .int), (some "transformer_temperature", .int), (none, .int),
    (none, .int), (none, .int), (some "fan_speed", .int), (none, .int),
    (some "inverter_charge_state_code", .int)]

def q1Layout17 : List (Option String × Kind) :=
  [(some "time_until_absorb_charge", .int), (some "time_until_float_charge", .int), (none, .bool),
    (none, .bool), (none, .int), (some "tracker_temperature", .int),
    (some "inverter_temperature", .int), (some "battery_temperature", .int),
    (some "transformer_temperature", .int), (none, .int), (some "fan_lock_status", .bool),
    (none, .int), (some "fan_speed", .int), (none, .int), (none, .bool), (none, .float),
    (some "inverter_charge_state_code", .int)]

def q1Layout22 : List (Option String × Kind) :=
  q1Layout17 ++ List.replicate 5 (none, .int)

def q1Layout27 : List (Option String × Kind) :=
  [(some "time_until_absorb_charge", .int), (some "time_until_float_charge", .int),
    (some "scc_flag", .bool), (some "allow_scc_on_flag", .bool),
    (some "charge_average_current", .int), (some "tracker_temperature", .int),
    (some "inverter_temperature", .int), (some "battery_temperature", .int),
    (some "transformer_temperature", .int), (none, .int), (some "fan_lock_status", .bool),
    (none, .int), (some "fan_speed", .int), (some "scc_charge_power", .int),
    (some "parallel_warning", .bool), (some "sync_frequency", .float),
    (some "inverter_charge_state_code", .int)] ++ List.replicate 10 (none, .int)

def parseQ1 (floats : Floats) (payload : String) : Except Failure Values :=
  let fields := parseQ1Fields payload
  if fields.length < 13 then .error (.pi30 "q1_field_count")
  else decodeOptionalFields floats
    (if 27 ≤ fields.length then q1Layout27 else if 22 ≤ fields.length then q1Layout22
      else if 17 ≤ fields.length then q1Layout17 else q1Layout13) fields Dict.empty

def parseEnergyCounter (key payload : String) : Except Failure Values :=
  if strip payload = "" then .error (.pi30 "energy_counter_empty")
  else
    match PythonText.parseInt (strip payload) with
    | some n => .ok (Dict.empty.set key (.int n))
    | none => .error (.pi30 "energy_counter_not_int")

def parseQtClock (payload : String) : Except Failure String :=
  let clock := (strip payload).toList
  if clock.length < 8 ∨ !(clock.take 8).all Char.isDigit then .error (.pi30 "qt_clock_format")
  else .ok (String.ofList (clock.take 8))

def Within (keys : List String) (values : Values) : Prop :=
  ∀ key v, values.get? key = some v → key ∈ keys

variable {keys : List String} {values : Values} {floats : Floats}

theorem within_empty (keys : List String) : Within keys Dict.empty := by
  intro key v found
  cases found

theorem Within.set (within : Within keys values) {key : String} (member : key ∈ keys) (v : Value) :
    Within keys (values.set key v) := by
  intro other w found
  rw [Dict.get?_set] at found
  split at found
  · rename_i same
    rw [same]
    exact member
  · exact within other w found

theorem Within.mono {wider : List String} (within : Within keys values)
    (covers : ∀ key ∈ keys, key ∈ wider) : Within wider values :=
  fun key v found => covers key (within key v found)

theorem Within.decode {layout : List (Option String × Kind)} {fields : List String}
    {result : Values} (covers : ∀ item ∈ layout, ∀ key ∈ item.1, key ∈ keys)
    (within : Within keys values)
    (decoded : decodeOptionalFields floats layout fields values = .ok result) :
    Within keys result := by
  induction layout generalizing fields values with
  | nil =>
    cases decoded
    exact within
  | cons item layout ih =>
    obtain ⟨named, kind⟩ := item
    obtain ⟨here, later⟩ := List.forall_mem_cons.mp covers
    cases fields with
    | nil =>
      cases decoded
      exact within
    | cons raw fields =>
      cases named with
      | none => exact ih later within decoded
      | some key =>
        rw [decodeOptionalFields] at decoded
        by_cases blank : raw = ""
        · rw [if_pos blank] at decoded
          exact ih later within decoded
        · rw [if_neg blank] at decoded
          obtain ⟨value, _, rest⟩ := bind_eq_ok.mp decoded
          exact ih later (within.set (here key rfl) value) rest

theorem Within.derive (within : Within keys values) {left right result : String}
    (member : result ∈ keys) (combine : Value → Value → Value) :
    Within keys (derive values left right result combine) := by
  rw [Pi30Driver.derive]
  split
  · split
    · exact within.set member _
    · exact within
  · exact within

theorem Within.statusBitsRaw (within : Within keys values) (member : "status_bits_raw" ∈ keys) :
    Within keys (statusBitsRaw values) := by
  rw [Pi30Driver.statusBitsRaw]
  split
  · split
    · exact within
    · exact within.set member _
  · exact within

def qpigsOutputKeys : List String :=
  qpigsLayout24.map Prod.fst ++
    ["qpigs_field_count", "pv_input_power", "battery_power_balance_current", "status_bits_raw"]

def qpiwsOutputKeys : List String := ["alarm_bits_raw", "alarm_active", "qpiws_bit_count"]

def q1OutputKeys : List String :=
  (q1Layout13 ++ q1Layout17 ++ q1Layout22 ++ q1Layout27).filterMap Prod.fst

theorem parseQpigs_within {payload : String} {result : Values}
    (parsed : parseQpigs floats payload = .ok result) : Within qpigsOutputKeys result := by
  rw [parseQpigs] at parsed
  dsimp only at parsed
  split at parsed
  · cases parsed
  obtain ⟨values, decoded, rest⟩ := bind_eq_ok.mp parsed
  cases rest
  have fields : Within qpigsOutputKeys values := by
    refine Within.decode ?_ (within_empty _) decoded
    split
    · decide
    split
    · decide
    · decide
  have listed : "qpigs_field_count" ∈ qpigsOutputKeys := by decide
  have counted := fields.set listed (.int (parseSpaceFields payload).length)
  exact ((counted.derive (by decide) _).derive (by decide) _).statusBitsRaw (by decide)

theorem parseQmod_within {payload : String} {result : Values} (parsed : parseQmod payload = .ok result) :
    Within ["operating_mode_code"] result := by
  rw [parseQmod] at parsed
  split at parsed
  · cases parsed
  · cases parsed
    exact (within_empty _).set (by decide) _

theorem parseQpiws_within {payload : String} {result : Values}
    (parsed : parseQpiws payload = .ok result) : Within qpiwsOutputKeys result := by
  rw [parseQpiws] at parsed
  split at parsed
  · cases parsed
  · cases parsed
    exact (((within_empty _).set (by decide) _).set (by decide) _).set (by decide) _

theorem parseQ1_within {payload : String} {result : Values}
    (parsed : parseQ1 floats payload = .ok result) : Within q1OutputKeys result := by
  rw [parseQ1] at parsed
  split at parsed
  · cases parsed
  refine Within.decode ?_ (within_empty _) parsed
  split
  · decide
  split
  · decide
  split
  · decide
  · decide

theorem parseEnergyCounter_within {key payload : String} {result : Values}
    (parsed : parseEnergyCounter key payload = .ok result) : Within [key] result := by
  rw [parseEnergyCounter] at parsed
  split at parsed
  · cases parsed
  split at parsed
  · cases parsed
    exact (within_empty _).set (List.mem_singleton_self key) _
  · cases parsed

end Pi30Driver
