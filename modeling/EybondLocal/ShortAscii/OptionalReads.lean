import EybondLocal.Library.HalfEven
import EybondLocal.Pi30Driver.PollCycle
import Mathlib.Data.List.MinMax
import Mathlib.Logic.Function.Basic

/-!
The reads of the short-ASCII driver (`async_read_values` in `drivers/eybond_short_ascii.py`, with
`drivers/short_ascii_optional.py`): after a good `Q1` at most one more query, to the command that
is due the longest, with every sample kept until its time is up. The replies are parsed as
`payload/short_ascii.py` does; a float is a parameter, and which keys a reply fills does not depend
on it.
-/
namespace ShortAscii
open StripText PythonObject OrderedDict Hub HookRun CommandSupport

abbrev Bytes := List UInt8

inductive Failure where
  | shortAscii (message : String)
  | timeout
  | other (error : PyError)
  deriving DecidableEq, Repr

structure Decimals where
  ofText : Bytes → Value
  quotient : Nat → Nat → Value

def slice (frame : Bytes) (start stop : Nat) : Bytes := (frame.take stop).drop start

def byteAt (frame : Bytes) (index : Nat) : Nat := (frame.getD index 0).toNat

/-- `int.from_bytes(field, "big")`. -/
def bigEndian (field : Bytes) : Nat := field.foldl (fun n byte => 256 * n + byte.toNat) 0

def byteSum (field : Bytes) : Nat := (field.map UInt8.toNat).sum

def envelope (frame : Bytes) (length : Nat) (status : Bool) : Except Failure Unit :=
  if frame.length ≠ length then .error (.shortAscii "short_ascii_response_length")
  else if frame.getLast? ≠ some 13 ∨ (status ∧ frame.head? ≠ some 1) then
    .error (.shortAscii "short_ascii_response_envelope")
  else .ok ()

inductive Slot where
  | digit
  | dot
  | minus
  deriving DecidableEq, Repr

def Slot.takes (slot : Slot) (byte : UInt8) : Bool :=
  match slot with
  | .digit => 48 ≤ byte && byte ≤ 57
  | .dot => byte == 46
  | .minus => byte == 45

def fullmatch : List Slot → Bytes → Bool
  | [], [] => true
  | slot :: slots, byte :: field => slot.takes byte && fullmatch slots field
  | _, _ => false

def decimal (decimals : Decimals) (patterns : List (List Slot)) (field : Bytes) :
    Except Failure Value :=
  if patterns.any fun pattern => fullmatch pattern field then .ok (decimals.ofText field)
  else .error (.shortAscii "short_ascii_q1_field_format")

def threeDigits : List Slot := [.digit, .digit, .digit]

def threePointOne : List Slot := threeDigits ++ [.dot, .digit]

def twoPointTwo : List Slot := [.digit, .digit, .dot, .digit, .digit]

def twoPointOne : List Slot := [.digit, .digit, .dot, .digit]

def negativePointOne : List Slot := [.minus, .digit, .dot, .digit]

def parseF (decimals : Decimals) (frame : Bytes) : Except Failure Values := do
  envelope frame 22 false
  if frame.head? ≠ some 35 ∨ [6, 10, 16].any (fun index => byteAt frame index ≠ 32) then
    .error (.shortAscii "short_ascii_f_format")
  else
    let voltage ← decimal decimals [threePointOne] (slice frame 1 6)
    let current ← decimal decimals [threeDigits] (slice frame 7 10)
    let battery ← decimal decimals [twoPointTwo] (slice frame 11 16)
    let frequency ← decimal decimals [twoPointOne] (slice frame 17 21)
    .ok ((((Dict.empty.set "short_ascii_rated_voltage" voltage).set "short_ascii_rated_current"
      current).set "short_ascii_rated_battery_voltage" battery).set "short_ascii_rated_frequency"
      frequency)

/-- The scaled words of `parse_rb`: the key, the offset and the divisor. -/
def rbWords : List (String × Nat × Nat) :=
  [("bms_cell_temperature", 7, 10), ("bms_cycle_count", 9, 1),
    ("bms_internal_temperature", 11, 10), ("bms_mos_temperature", 13, 10),
    ("bms_max_cell_voltage", 15, 100), ("bms_min_cell_voltage", 17, 100),
    ("bms_low_protection_voltage", 19, 10), ("bms_charge_cutoff_voltage", 21, 10)]

def parseRb (decimals : Decimals) (frame : Bytes) : Except Failure Values := do
  envelope frame 40 true
  let body := slice frame 1 38
  let voltage := bigEndian (slice body 0 2)
  let soc := byteAt body 2
  if byteSum body % 256 ≠ byteAt frame 38 then .error (.shortAscii "short_ascii_rb_checksum")
  else if body.drop 25 ≠ List.replicate 12 0 then .error (.shortAscii "short_ascii_rb_padding")
  else if 100 < soc ∨ 1 < byteAt body 23 ∨ 1 < byteAt body 24 then
    .error (.shortAscii "short_ascii_rb_field")
  else if voltage = 0 then
    if soc ≠ 0 then .error (.shortAscii "short_ascii_rb_voltage_unavailable")
    else .ok (Dict.empty.set "short_ascii_bms_data_available" (.bool false))
  else
    let values := ((((Dict.empty.set "short_ascii_bms_data_available" (.bool true)).set
      "bms_total_voltage" (decimals.quotient voltage 10)).set "battery_soc" (.int soc)).set
      "short_ascii_bms_charge_path_enabled" (.bool (byteAt body 23 = 1))).set
      "short_ascii_bms_discharge_path_enabled" (.bool (byteAt body 24 = 1))
    .ok (rbWords.foldl (fun values (key, offset, divisor) =>
      values.set key (decimals.quotient (bigEndian (slice body offset (offset + 2))) divisor)) values)

def parseQ1 (decimals : Decimals) (frame : Bytes) : Except Failure Values := do
  envelope frame 51 true
  let body := slice frame 1 48
  let flags := slice body 37 44
  if byteSum body % 65536 ≠ bigEndian (slice frame 48 50) then
    .error (.shortAscii "short_ascii_q1_checksum")
  else if [5, 11, 17, 21, 26, 31, 36].any (fun index => byteAt body index ≠ 32) then
    .error (.shortAscii "short_ascii_q1_separator")
  else if (slice body 6 11).any (fun byte => byte < 32 || 126 < byte) then
    .error (.shortAscii "short_ascii_q1_fault_field")
  else if flags.length ≠ 7 ∨ flags.any (fun byte => byte ≠ 48 && byte ≠ 49) then
    .error (.shortAscii "short_ascii_q1_flags")
  else
    let grid ← decimal decimals [threePointOne] (slice body 0 5)
    let output ← decimal decimals [threePointOne] (slice body 12 17)
    let load ← decimal decimals [threeDigits] (slice body 18 21)
    let frequency ← decimal decimals [twoPointOne] (slice body 22 26)
    let reference ← decimal decimals [twoPointOne] (slice body 27 31)
    let temperature ← decimal decimals [twoPointOne, negativePointOne] (slice body 32 36)
    .ok ⟨assignAll [("short_ascii_q1_length", .int frame.length), ("grid_voltage", grid),
      ("output_voltage", output), ("load_percent", load), ("output_frequency", frequency),
      ("battery_reference_voltage", reference), ("temperature", temperature),
      ("short_ascii_status_flags",
        .text (String.ofList (flags.map fun byte => Char.ofNat byte.toNat))),
      ("short_ascii_fault_code", .int (byteAt body 44)),
      ("inverter_fault", .bool (byteAt flags 1 = 49)),
      ("grid_available", .bool (byteAt flags 2 = 48)),
      ("short_ascii_mains_input_connected", .bool (byteAt flags 3 = 48)),
      ("battery_low", .bool (byteAt flags 4 = 49)),
      ("pv_controller_present", .bool (byteAt flags 5 = 49))], assignAll_nodup _⟩

inductive OptionalCommand where
  | rb
  | f
  deriving DecidableEq, Repr

inductive SampleOutcome where
  | notChecked
  | unsupported
  | timeout
  | invalidResponse
  | noData
  | ok
  | expired
  deriving DecidableEq, Repr

def SampleOutcome.text : SampleOutcome → String
  | notChecked => "not_checked"
  | unsupported => "unsupported"
  | timeout => "timeout"
  | invalidResponse => "invalid_response"
  | noData => "no_data"
  | ok => "ok"
  | expired => "expired"

namespace OptionalCommand

def wire : OptionalCommand → String
  | rb => "RB"
  | f => "F"

def interval : OptionalCommand → ℚ
  | rb => 30
  | f => 900

def ttl : OptionalCommand → ℚ
  | rb => 60
  | f => 900

def parser (decimals : Decimals) : OptionalCommand → Bytes → Except Failure Values
  | rb => parseRb decimals
  | f => parseF decimals

def key (command : OptionalCommand) : String := "short_ascii:" ++ command.wire

def ageKey (command : OptionalCommand) : String :=
  "short_ascii_" ++ lower command.wire ++ "_age_seconds"

end OptionalCommand

def optionalCommands : List OptionalCommand := [.rb, .f]

structure OptionalSample where
  nextDue : ℚ := 0
  sampledAt : Option ℚ := none
  values : Values := Dict.empty
  outcome : SampleOutcome := .notChecked

namespace OptionalSample

def clear (sample : OptionalSample) : OptionalSample :=
  { sample with values := Dict.empty, sampledAt := none }

/-- The sample after `fresh_values`; what it returns are the values left in it. -/
def freshened (sample : OptionalSample) (ttl now : ℚ) : OptionalSample :=
  match sample.sampledAt with
  | some sampledAt =>
    if 0 ≤ now - sampledAt ∧ now - sampledAt < ttl then sample
    else { sample.clear with outcome := .expired }
  | none => sample

def supported (sample : OptionalSample) (skipped : Bool) (now : ℚ) : OptionalSample :=
  if skipped then { sample.clear with outcome := .unsupported }
  else if sample.outcome = .unsupported then
    -- The re-check action cleared the negative facts.
    { sample with nextDue := now, outcome := .notChecked }
  else sample

def missed (sample : OptionalSample) (outcome : SampleOutcome) (now : ℚ) : OptionalSample :=
  { sample.clear with outcome := outcome, nextDue := now + 30 }

def answered (sample : OptionalSample) (values : Values) (interval now : ℚ) : OptionalSample :=
  { sample with
    values := values
    sampledAt := some now
    nextDue := now + interval
    outcome :=
      if values.get? "short_ascii_bms_data_available" = some (.bool false) then .noData else .ok }

end OptionalSample

structure OptionalReads where
  transport : Nat
  inverter : Nat
  lastClock : ℚ
  samples : OptionalCommand → OptionalSample := fun _ => {}

namespace OptionalReads

def clear (reads : OptionalReads) : OptionalReads :=
  { reads with samples := fun command =>
      { (reads.samples command).clear with nextDue := 0, outcome := .notChecked } }

def setSample (reads : OptionalReads) (command : OptionalCommand) (sample : OptionalSample) :
    OptionalReads :=
  { reads with samples := Function.update reads.samples command sample }

@[simp] theorem setSample_self (reads : OptionalReads) (command : OptionalCommand)
    (sample : OptionalSample) : (reads.setSample command sample).samples command = sample :=
  Function.update_self ..

theorem setSample_of_ne (reads : OptionalReads) {command other : OptionalCommand}
    (sample : OptionalSample) (different : other ≠ command) :
    (reads.setSample command sample).samples other = reads.samples other :=
  Function.update_of_ne different ..

def checkSupport (reads : OptionalReads) (cache : Cache) (now : ℚ) : OptionalReads :=
  { reads with samples := fun command =>
      (reads.samples command).supported (cache.commandSkippedAsUnsupported command.key) now }

def due (reads : OptionalReads) (now : ℚ) : List OptionalCommand :=
  optionalCommands.filter fun command =>
    (reads.samples command).outcome ≠ .unsupported ∧ (reads.samples command).nextDue ≤ now

def chosen (reads : OptionalReads) (now : ℚ) : Option OptionalCommand :=
  (reads.due now).argmin fun command => (reads.samples command).nextDue

def freshened (reads : OptionalReads) (now : ℚ) : OptionalReads :=
  { reads with
    lastClock := now
    samples := fun command => (reads.samples command).freshened command.ttl now }

end OptionalReads

def optionalReadsFor (stored : Option OptionalReads) (transport inverter : Nat) (now : ℚ) :
    OptionalReads :=
  match stored with
  | some reads =>
    if reads.transport ≠ transport ∨ reads.inverter ≠ inverter ∨ now < reads.lastClock then
      { transport := transport, inverter := inverter, lastClock := now }
    else reads
  | none => { transport := transport, inverter := inverter, lastClock := now }

theorem optionalReadsFor_cases (stored : Option OptionalReads) (transport inverter : Nat) (now : ℚ) :
    (optionalReadsFor stored transport inverter now =
        { transport := transport, inverter := inverter, lastClock := now }) ∨
      ∃ reads, stored = some reads ∧ reads.transport = transport ∧ reads.inverter = inverter ∧
        reads.lastClock ≤ now ∧ optionalReadsFor stored transport inverter now = reads := by
  cases stored with
  | none => exact Or.inl rfl
  | some reads =>
    rw [optionalReadsFor]
    split
    · exact Or.inl rfl
    · rename_i same
      simp only [not_or, ne_eq, not_not, not_lt] at same
      exact Or.inr ⟨reads, rfl, same.1, same.2.1, same.2.2, rfl⟩

theorem optionalReadsFor_binding (stored : Option OptionalReads) (transport inverter : Nat)
    (now : ℚ) : (optionalReadsFor stored transport inverter now).transport = transport ∧
      (optionalReadsFor stored transport inverter now).inverter = inverter := by
  rcases optionalReadsFor_cases stored transport inverter now with new | ⟨_, _, left, right, _, same⟩
  · rw [new]
    exact ⟨rfl, rfl⟩
  · rw [same]
    exact ⟨left, right⟩

/-- What the record keeps of the exchanges: each with its binding and the clock at its end, and
    every moment from which nothing earlier may be used. -/
inductive Note where
  | asked (transport inverter : Nat) (wire : String) (answer : Ending Failure Bytes) (time : ℚ)
  | dropped

structure Feed (ω : Type) where
  world : ω
  cache : Cache
  reads : OptionalReads
  notes : List Note

structure Link (ω : Type) where
  request : String → ω → ω × Ending Failure Bytes
  connected : ω → Bool
  monotonic : ω → ℚ

/-- The exceptions `refresh_one` handles. -/
def Failure.outcome : Failure → Option SampleOutcome
  | .shortAscii _ => some .invalidResponse
  | .timeout => some .timeout
  | .other _ => none

def connectionLost : Failure := .other ⟨.connectionError, "short_ascii_optional_connection_lost"⟩

variable {ω : Type}

abbrev Sampling (ω : Type) := Run (Feed ω) Failure

def mark (change : Feed ω → Feed ω) : Sampling ω Unit := Run.call change (.returned ())

def lift {α : Type} : Except Failure α → Sampling ω α
  | .ok value => pure value
  | .error failure => Run.raise failure

namespace Feed

def now (clock : ω → ℚ) (feed : Feed ω) : ℚ := clock feed.world

def sample (feed : Feed ω) (command : OptionalCommand) : OptionalSample :=
  feed.reads.samples command

def setSample (feed : Feed ω) (command : OptionalCommand) (sample : OptionalSample) : Feed ω :=
  { feed with reads := feed.reads.setSample command sample }

def miss (clock : ω → ℚ) (command : OptionalCommand) (outcome : SampleOutcome) (feed : Feed ω) :
    Feed ω :=
  feed.setSample command ((feed.sample command).missed outcome (feed.now clock))

def recordFailure (command : OptionalCommand) (feed : Feed ω) : Feed ω :=
  { feed with cache := feed.cache.recordCommandFailure command.key }

def answer (clock : ω → ℚ) (command : OptionalCommand) (values : Values) (feed : Feed ω) :
    Feed ω :=
  { feed.setSample command
      ((feed.sample command).answered values command.interval (feed.now clock)) with
    cache := feed.cache.recordCommandSuccess command.key }

/-- The end of `refresh_one`: the cycle commits, and what is no longer fresh goes. -/
def settle (clock : ω → ℚ) (feed : Feed ω) : Feed ω :=
  { feed with
    cache := (feed.cache.recordCommandSuccess "short_ascii:Q1").commitCycleFailures
    reads := feed.reads.freshened (feed.now clock) }

def drop (feed : Feed ω) : Feed ω :=
  { feed with reads := feed.reads.clear, notes := feed.notes ++ [.dropped] }

end Feed

def ask (link : Link ω) (clock : ω → ℚ) (wire : String) : Sampling ω Bytes := fun feed =>
  let answer := link.request wire feed.world
  ({ feed with
      world := answer.1
      notes := feed.notes ++
        [.asked feed.reads.transport feed.reads.inverter wire answer.2 (clock answer.1)] },
    answer.2)

/-- The handler of `refresh_one`, once the sample is cleared. -/
def giveUp (link : Link ω) (clock : ω → ℚ) (command : OptionalCommand) (outcome : SampleOutcome) :
    Sampling ω Unit := do
  mark (Feed.miss clock command outcome)
  let connected ← Run.observe fun feed => link.connected feed.world
  if connected then mark (Feed.recordFailure command) else Run.raise connectionLost

def handleAnswer (link : Link ω) (clock : ω → ℚ) (command : OptionalCommand) :
    Except Failure Values → Sampling ω Unit
  | .ok values => mark (Feed.answer clock command values)
  | .error failure =>
    match failure.outcome with
    | none => Run.raise failure
    | some outcome => giveUp link clock command outcome

def query (link : Link ω) (decimals : Decimals) (clock : ω → ℚ) (command : OptionalCommand) :
    Sampling ω Unit := do
  let parsed ← Run.caught (ask link clock command.wire >>= fun frame =>
    lift (command.parser decimals frame))
  handleAnswer link clock command parsed

def freshValues (reads : OptionalReads) : Values :=
  optionalCommands.foldl (fun values command => values.update (reads.samples command).values)
    Dict.empty

def ages (reads : OptionalReads) (now : ℚ) : List (String × Value) :=
  optionalCommands.filterMap fun command =>
    (reads.samples command).sampledAt.map fun sampledAt =>
      (command.ageKey, .number (HalfEven.roundTo (now - sampledAt) 3))

def diagnostics (cache : Cache) (reads : OptionalReads) (now : ℚ) : Values :=
  ⟨assignAll (ages reads now ++
    [("short_ascii_optional_status", .text (String.intercalate "; "
      (optionalCommands.map fun command =>
        command.wire ++ "=" ++ (reads.samples command).outcome.text))),
    ("driver_unsupported_commands", .text (Pi30Driver.commaJoined
      (cache.unsupportedCommands.filter fun key => startsWith key "short_ascii:")))]),
    assignAll_nodup _⟩

def queryDue (link : Link ω) (decimals : Decimals) (clock : ω → ℚ) :
    Option OptionalCommand → Sampling ω Unit
  | some command => query link decimals clock command
  | none => pure ()

def refreshOne (link : Link ω) (decimals : Decimals) (clock : ω → ℚ) :
    Sampling ω (Values × Values) := do
  let now ← Run.observe (Feed.now clock)
  mark fun feed => { feed with reads := feed.reads.checkSupport feed.cache now }
  let command ← Run.observe fun feed => feed.reads.chosen now
  queryDue link decimals clock command
  mark (Feed.settle clock)
  Run.observe fun feed =>
    (freshValues feed.reads, diagnostics feed.cache feed.reads feed.reads.lastClock)

structure Reading where
  values : Values
  diagnostics : Values

/-- The body of the `try` in `async_read_values`, and the values it leads to. -/
def readCycle (link : Link ω) (decimals : Decimals) (clock : ω → ℚ) : Sampling ω Reading := do
  let frame ← ask link clock "Q1"
  let values ← lift (parseQ1 decimals frame)
  let extra ← refreshOne link decimals clock
  pure ⟨(values.erase "short_ascii_q1_length").update extra.1, extra.2⟩

def dropUnlessReturned (ending : Ending Failure Reading) : Sampling ω Unit :=
  match ending with
  | .returned _ => pure ()
  | _ => mark Feed.drop

structure Runtime (ω : Type) where
  world : ω
  cache : Cache
  reads : Option OptionalReads
  notes : List Note

def Runtime.feed (runtime : Runtime ω) (transport inverter : Nat) (now : ℚ) : Feed ω where
  world := runtime.world
  cache := runtime.cache
  reads := optionalReadsFor runtime.reads transport inverter now
  notes := runtime.notes

def Feed.runtime (feed : Feed ω) : Runtime ω := ⟨feed.world, feed.cache, some feed.reads, feed.notes⟩

namespace Runtime

theorem feed_transport (runtime : Runtime ω) (transport inverter : Nat) (now : ℚ) :
    (runtime.feed transport inverter now).reads.transport = transport :=
  (optionalReadsFor_binding runtime.reads transport inverter now).1

theorem feed_inverter (runtime : Runtime ω) (transport inverter : Nat) (now : ℚ) :
    (runtime.feed transport inverter now).reads.inverter = inverter :=
  (optionalReadsFor_binding runtime.reads transport inverter now).2

def now (link : Link ω) (nowMonotonic : Option ℚ) (runtime : Runtime ω) : ℚ :=
  nowMonotonic.getD (link.monotonic runtime.world)

def clock (link : Link ω) (nowMonotonic : Option ℚ) (runtime : Runtime ω) (world : ω) : ℚ :=
  runtime.now link nowMonotonic + max 0 (link.monotonic world - link.monotonic runtime.world)

end Runtime

/-- `async_read_values`, up to the `DriverReadResult` it builds. -/
def readValues (link : Link ω) (decimals : Decimals) (transport inverter : Nat)
    (nowMonotonic : Option ℚ) (runtime : Runtime ω) : Runtime ω × Ending Failure Reading :=
  let clock := runtime.clock link nowMonotonic
  let feed := runtime.feed transport inverter (runtime.now link nowMonotonic)
  let done := (readCycle link decimals clock).finishing dropUnlessReturned feed
  (done.1.runtime, done.2)

end ShortAscii
