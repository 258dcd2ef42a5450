import EybondLocal.Library.HookRun
import EybondLocal.Pi30Driver.CommandSupport
import EybondLocal.Pi30Driver.Payloads
import Mathlib.Data.List.Infix

/-!
One PI30 runtime poll (`drivers/pi30.py`): the required commands, the optional ones, then the
energy chain, each asked at most once and parsed on the spot, with the negative cache committed
and the values of finally unsupported commands removed at the end.
-/
namespace Pi30Driver
open StripText PythonObject OrderedDict Hub HookRun CommandSupport

inductive Outcome where
  | ok
  | timeout
  | error
  | skipped
  deriving DecidableEq, Repr

def Outcome.text : Outcome → String
  | ok => "ok"
  | timeout => "timeout"
  | error => "error"
  | skipped => "skipped"

def commandOutcome (message : String) : Outcome :=
  if "timeout".toList <:+: (lower message).toList then .timeout else .error

structure CommandSpec where
  command : String
  parser : String → Except Failure Values
  optional : Bool := false

def runtimeCommandSpecs (floats : Floats) : List CommandSpec :=
  [{ command := "QPIGS", parser := parseQpigs floats },
    { command := "QMOD", parser := parseQmod },
    { command := "QPIWS", parser := parseQpiws, optional := true },
    { command := "Q1", parser := parseQ1 floats, optional := true }]

def energyDynamicCommands : List String := ["QEY", "QEM", "QED", "QLY", "QLM", "QLD"]

def energyAllCommands : List String := ["QET", "QLT", "QT"] ++ energyDynamicCommands

def fullCycleCommandKeys : List String := ["QPIGS", "QMOD", "QPIWS", "Q1"] ++ energyAllCommands

def commandOutputKeys : String → List String
  | "QPIWS" => qpiwsOutputKeys ++ ["alarm_status"]
  | "Q1" => q1OutputKeys ++ ["inverter_charge_state"]
  | "QET" => ["pv_generation_sum"]
  | "QLT" => ["ac_in_generation_sum"]
  | "QEY" => ["pv_generation_year"]
  | "QEM" => ["pv_generation_month"]
  | "QED" => ["pv_generation_day"]
  | "QLY" => ["ac_in_generation_year"]
  | "QLM" => ["ac_in_generation_month"]
  | "QLD" => ["ac_in_generation_day"]
  | _ => []

/-- `_pi30_removed_keys_for_unsupported`, a set given by a list. -/
def removedKeysForUnsupported (unsupported : List String) : List String :=
  unsupported.flatMap commandOutputKeys ++
    (if "QET" ∈ unsupported then energyAllCommands.flatMap commandOutputKeys
      else if "QT" ∈ unsupported then energyDynamicCommands.flatMap commandOutputKeys
      else [])

def unreachableCommands (unsupported : List String) : List String :=
  (if "QET" ∈ unsupported then ["QLT", "QT"] ++ energyDynamicCommands
    else if "QT" ∈ unsupported then energyDynamicCommands
    else []).filter (· ∉ unsupported)

def reachableCommands (unsupported : List String) : List String :=
  fullCycleCommandKeys.filter fun key => key ∉ unsupported && key ∉ unreachableCommands unsupported

structure CommandStat where
  attempted : Nat := 0
  succeeded : Nat := 0
  timeout : Nat := 0
  error : Nat := 0
  skipped : Nat := 0
  lastDurationMs : Option Int := none
  maxDurationMs : Int := 0
  lastOutcome : String := ""
  lastWireCommand : String := ""

structure Timing where
  cacheKey : String
  wireCommand : String
  durationMs : Int
  outcome : Outcome

structure Poll (ω : Type) where
  world : ω
  cache : Cache
  stats : Dict String CommandStat
  timings : List Timing

structure Session (ω : Type) where
  request : String → ω → ω × Ending Failure String
  durationMs : ω → Int

variable {ω : Type}

namespace Poll

def statAfter (stat : CommandStat) (wire : String) (durationMs : Int) (outcome : Outcome) :
    CommandStat :=
  let seen := { stat with lastWireCommand := wire, lastOutcome := outcome.text }
  match outcome with
  | .skipped => { seen with skipped := stat.skipped + 1 }
  | _ =>
    { seen with
      attempted := stat.attempted + 1
      succeeded := stat.succeeded + if outcome = .ok then 1 else 0
      timeout := stat.timeout + if outcome = .timeout then 1 else 0
      error := stat.error + if outcome = .error then 1 else 0
      lastDurationMs := some durationMs
      maxDurationMs := max stat.maxDurationMs durationMs }

def recordCommandStat (poll : Poll ω) (cacheKey wire : String) (durationMs : Int)
    (outcome : Outcome) : Poll ω :=
  { poll with
    timings := poll.timings ++ [⟨cacheKey, wire, durationMs, outcome⟩]
    stats := poll.stats.set cacheKey
      (statAfter ((poll.stats.get? cacheKey).getD {}) wire durationMs outcome) }

def recordCommandFailure (poll : Poll ω) (key : String) : Poll ω :=
  { poll with cache := poll.cache.recordCommandFailure key }

def recordCommandSuccess (poll : Poll ω) (key : String) : Poll ω :=
  { poll with cache := poll.cache.recordCommandSuccess key }

end Poll

abbrev Cycle (ω : Type) := Run (Poll ω) Failure

def mark (change : Poll ω → Poll ω) : Cycle ω Unit := Run.call change (.returned ())

def ask (session : Session ω) (wire : String) : Cycle ω String := fun poll =>
  let answer := session.request wire poll.world
  ({ poll with world := answer.1 }, answer.2)

def lift {α : Type} : Except Failure α → Cycle ω α
  | .ok value => pure value
  | .error failure => Run.raise failure

/-- Request and parse as one operation, with its outcome on record: the parsed reply, or the
    message of the `Pi30Error`. -/
def attempt {α : Type} (session : Session ω) (cacheKey wire : String)
    (parse : String → Except Failure α) : Cycle ω (Except String α) := do
  let parsed ← Run.caught (ask session wire >>= fun payload => lift (parse payload))
  let durationMs ← Run.observe fun poll => session.durationMs poll.world
  match parsed with
  | .ok value =>
    mark fun poll => (poll.recordCommandStat cacheKey wire durationMs .ok).recordCommandSuccess cacheKey
    pure (.ok value)
  | .error (.pi30 message) =>
    mark fun poll => poll.recordCommandStat cacheKey wire durationMs (commandOutcome message)
    pure (.error message)
  | .error failure => Run.raise failure

def skip (cacheKey wire : String) : Cycle ω Unit :=
  mark fun poll => poll.recordCommandStat cacheKey wire 0 .skipped

def collectValues (session : Session ω) : List CommandSpec → Values → Cycle ω Values
  | [], values => pure values
  | spec :: rest, values => do
    let skipped ← Run.observe fun poll => poll.cache.commandSkippedAsUnsupported spec.command
    if spec.optional && skipped then
      skip spec.command spec.command
      collectValues session rest values
    else
      match ← attempt session spec.command spec.command spec.parser with
      | .ok parsed => collectValues session rest (values.update parsed)
      | .error message =>
        if spec.optional then
          mark fun poll => poll.recordCommandFailure spec.command
          collectValues session rest values
        else Run.raise (.pi30 message)

def atomic {α : Type} (session : Session ω) (wire cacheKey : String)
    (parse : String → Except Failure α) : Cycle ω (Option α) := do
  let skipped ← Run.observe fun poll => poll.cache.commandSkippedAsUnsupported cacheKey
  if skipped then
    skip cacheKey wire
    pure none
  else
    match ← attempt session cacheKey wire parse with
    | .ok parsed => pure (some parsed)
    | .error _ =>
      mark fun poll => poll.recordCommandFailure cacheKey
      pure none

def dynamicSpecs (clockToken : String) : List (String × String × String) :=
  let dated (command : String) (digits : Nat) :=
    command ++ String.ofList (clockToken.toList.take digits)
  [(dated "QEY" 4, "QEY", "pv_generation_year"), (dated "QEM" 6, "QEM", "pv_generation_month"),
    (dated "QED" 8, "QED", "pv_generation_day"), (dated "QLY" 4, "QLY", "ac_in_generation_year"),
    (dated "QLM" 6, "QLM", "ac_in_generation_month"),
    (dated "QLD" 8, "QLD", "ac_in_generation_day")]

def merged (values : Values) (parsed : Option Values) : Values :=
  match parsed with
  | some parsed => values.update parsed
  | none => values

def collectDynamic (session : Session ω) :
    List (String × String × String) → Values → Cycle ω Values
  | [], values => pure values
  | (wire, cacheKey, key) :: rest, values => do
    let parsed ← atomic session wire cacheKey (parseEnergyCounter key)
    collectDynamic session rest (merged values parsed)

def collectEnergyValues (session : Session ω) : Cycle ω Values := do
  match ← atomic session "QET" "QET" (parseEnergyCounter "pv_generation_sum") with
  | none => pure Dict.empty
  | some total =>
    let values := Dict.empty.update total
    let parsed ← atomic session "QLT" "QLT" (parseEnergyCounter "ac_in_generation_sum")
    let values := merged values parsed
    match ← atomic session "QT" "QT" parseQtClock with
    | none => pure values
    | some clockToken => collectDynamic session (dynamicSpecs clockToken) values

def commaJoined (texts : List String) : String := String.intercalate ", " texts

def statText (key : String) (stat : CommandStat) : String :=
  key ++ ":att" ++ toString stat.attempted ++ "/ok" ++ toString stat.succeeded ++
    "/to" ++ toString stat.timeout ++ "/err" ++ toString stat.error ++
    "/sk" ++ toString stat.skipped ++ "/last" ++
    (stat.lastDurationMs.elim "-" fun ms => toString ms) ++ "ms/max" ++
    toString stat.maxDurationMs ++ "ms/" ++ (if stat.lastOutcome = "" then "-" else stat.lastOutcome)

def sortedTexts (texts : List String) : List String := texts.mergeSort fun a b => decide (a ≤ b)

def buildReadMeta (poll : Poll ω) (cycleWallMs : Int) : Values :=
  let attempted := poll.timings.filter (·.outcome ≠ .skipped)
  let skipped := poll.timings.filter (·.outcome = .skipped)
  let count (outcome : Outcome) : Value := .int (attempted.countP (·.outcome = outcome))
  let unsupported := poll.cache.unsupportedCommands
  let unreachable := unreachableCommands unsupported
  let reachable := reachableCommands unsupported
  let lastDuration (key : String) := (poll.stats.get? key).bind CommandStat.lastDurationMs
  let measured := reachable.filterMap lastDuration
  let unmeasured := reachable.filter fun key => (lastDuration key).isNone
  let cumulative : List (String × Value) :=
    if poll.stats.items = [] then []
    else [("pi30_command_cumulative", .text (commaJoined
      (poll.stats.sortedItems.map fun item => statText item.1 item.2)))]
  ⟨assignAll ([("pi30_poll_mode", .text "delta"),
    ("pi30_poll_commands", .text (commaJoined (attempted.map Timing.wireCommand))),
    ("pi30_poll_skipped_commands", .text (commaJoined (skipped.map Timing.cacheKey))),
    ("pi30_poll_command_durations_ms", .text (commaJoined (attempted.map fun timing =>
      timing.wireCommand ++ "=" ++ toString timing.durationMs ++ ":" ++ timing.outcome.text))),
    ("pi30_poll_total_ms", .int cycleWallMs),
    ("pi30_poll_attempted", .int attempted.length),
    ("pi30_poll_skipped", .int skipped.length),
    ("pi30_poll_succeeded", count .ok),
    ("pi30_poll_timeout", count .timeout),
    ("pi30_poll_error", count .error)] ++ cumulative ++
    [("pi30_estimated_full_cycle_ms", .int measured.sum),
    ("pi30_estimated_full_cycle_measured_commands", .int measured.length),
    ("pi30_full_cycle_expected_commands", .int reachable.length),
    ("pi30_full_cycle_unmeasured_commands", .text (commaJoined unmeasured)),
    ("pi30_full_cycle_unreachable_commands", .text (commaJoined (sortedTexts unreachable))),
    ("pi30_full_cycle_estimate_complete", .bool unmeasured.isEmpty),
    ("pi30_known_unsupported_commands", .text (commaJoined unsupported))]), assignAll_nodup _⟩

def unsupportedCommandDiagnostics (cache : Cache) : Values :=
  if cache.unsupportedCommands = [] then Dict.empty
  else Dict.empty.set "driver_unsupported_commands" (.text (commaJoined cache.unsupportedCommands))

structure Reading where
  values : Values
  removedKeys : List String
  diagnostics : Values

def conclude (values : Values) (cycleWallMs : Int) : Cycle ω Reading := do
  mark fun poll => { poll with cache := poll.cache.commitCycleFailures }
  Run.observe fun poll =>
    { values := values
      removedKeys := (removedKeysForUnsupported poll.cache.unsupportedCommands).filter fun key =>
        (values.get? key).isNone
      diagnostics := (buildReadMeta poll cycleWallMs).update
        (unsupportedCommandDiagnostics poll.cache) }

def runCommands (session : Session ω) (floats : Floats) : Cycle ω Values := do
  let values ← collectValues session (runtimeCommandSpecs floats) Dict.empty
  let energy ← collectEnergyValues session
  pure (values.update energy)

/-- `_async_collect_runtime_values`; `wallMs` is the rounded duration of the cycle so far. -/
def collectRuntimeValues (session : Session ω) (floats : Floats) (wallMs : ω → Int) :
    Cycle ω Reading := do
  mark fun poll => { poll with timings := [] }
  let values ← runCommands session floats
  let cycleWallMs ← Run.observe fun poll => wallMs poll.world
  conclude values cycleWallMs

structure Schema where
  operatingModeNames : Dict String String
  chargeStateNames : Dict Int String
  alarmStatusNames : List (Nat × String)

def formatAlarmStatus (bits : String) (schema : Option Schema) : String :=
  let raised (index : Nat) : Bool := bits.toList[index]? = some '1'
  if !bits.toList.contains '1' then "Ok"
  else
    match schema with
    | none => "Unknown"
    | some schema =>
      let labels := schema.alarmStatusNames
      let named := (labels.filter fun label => raised label.1).map Prod.snd
      let unnamed := ((List.range bits.toList.length).filter fun index =>
        raised index && labels.all fun label => label.1 ≠ index).map
          fun index => "Unknown alarm bit " ++ toString index
      if named ++ unnamed = [] then "Ok" else String.intercalate "; " (named ++ unnamed)

def translateOperatingMode (values : Values) (schema : Option Schema) : Values :=
  match values.get? "operating_mode_code", schema with
  | some (.text code), some schema => Dict.empty.set "operating_mode"
      (.text ((schema.operatingModeNames.get? code).getD ("Unknown (" ++ code ++ ")")))
  | _, _ => Dict.empty

def translateAlarmStatus (values : Values) (schema : Option Schema) (translated : Values) : Values :=
  match values.get? "alarm_bits_raw" with
  | some (.text bits) => translated.set "alarm_status" (.text (formatAlarmStatus bits schema))
  | _ => translated

def translateChargeState (values : Values) (schema : Option Schema) (translated : Values) : Values :=
  match (values.get? "inverter_charge_state_code").bind Value.asInt, schema with
  | some code, some schema => translated.set "inverter_charge_state"
      (.text ((schema.chargeStateNames.get? code).getD ("Unknown (" ++ toString code ++ ")")))
  | _, _ => translated

def translateRuntimeMetadata (values : Values) (schema : Option Schema) : Values :=
  translateChargeState values schema
    (translateAlarmStatus values schema (translateOperatingMode values schema))

/-- `Pi30Driver.async_read_values`, up to the `DriverReadResult` it builds. -/
def readValues (session : Session ω) (floats : Floats) (wallMs : ω → Int)
    (schema : Option Schema) : Cycle ω Reading := do
  let reading ← collectRuntimeValues session floats wallMs
  pure { reading with
    values := reading.values.update (translateRuntimeMetadata reading.values schema) }

end Pi30Driver
