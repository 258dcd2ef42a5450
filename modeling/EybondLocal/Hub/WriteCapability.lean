import EybondLocal.Hub.Readback

/-!
`async_write_capability` of the runtime hub (`runtime/hub/management.py`): one accepted driver
write, then refreshes whose snapshot has to show the written value. A snapshot also shows what
reads before the write left, so a matching value is not yet a read of the device.
-/
namespace Hub
open OrderedDict PythonObject StripText HookRun HookRun.Run

def twoDigits (a b : Char) : Option Nat :=
  if a.isDigit ∧ b.isDigit then some ((a.toNat - 48) * 10 + (b.toNat - 48)) else none

def clockSecondsSinceMidnight : Value → Option Nat
  | .text s =>
    match s.toList with
    | [h, h', ':', m, m', ':', sec, sec'] => do
      let hour ← twoDigits h h'
      let minute ← twoDigits m m'
      let second ← twoDigits sec sec'
      if hour ≤ 23 ∧ minute ≤ 59 ∧ second ≤ 59 then some ((hour * 60 + minute) * 60 + second)
      else none
    | _ => none
  | _ => none

def enumLabelMatches (capability : Capability) (requested readback : Value) : Bool :=
  match requested.asInt with
  | none => false
  | some n =>
    match OrderedDict.find n capability.enumValueMap with
    | none => false
    | some label => readback.pyEq (.text label)

def clockMatches (requested written readback : Value) (elapsed : ℚ) : Bool :=
  match (clockSecondsSinceMidnight written).or (clockSecondsSinceMidnight requested),
      clockSecondsSinceMidnight readback with
  | some expected, some shown =>
    (((shown : Int) - (expected : Int)) % (24 * 60 * 60)) ≤ ⌈max 0 elapsed⌉ + 1
  | _, _ => false

def writeReadbackMatches (capability : Capability) (requested written readback : Value)
    (elapsed : ℚ) : Bool :=
  readback.pyEq written || readback.pyEq requested ||
    enumLabelMatches capability requested readback ||
    (capability.valueKind = .timeWords && clockMatches requested written readback elapsed)

section
variable {ω : Type} (host : Host ω)

def driverWrite (key : String) (value : Value) : HubRun ω (ℚ × Value) := do
  let started ← observe fun w => host.monotonic w.host
  let hub ← observe World.hub
  match hub.inverter with
  | none =>
    Run.raise ⟨.attributeError, "'NoneType' object has no attribute 'async_write_capability'"⟩
  | some inverter =>
    note .sent
    let written ← Run.recover (awaiting (host.writeCapability inverter key value)) fun error => do
      note (.refused error)
      Run.raise error
    let frame ← observe fun w => w.hub.telemetry
    note (.accepted written frame)
    pure (started, written)

def raiseClassified (capability : Capability) (error : PyError) :
    HubRun ω (ℚ × Value × Option PyError) := do
  let classified ← observe fun w => host.classifyWriteError capability error w.host
  Run.raise classified

/-- The two attempts: the second only after a retryable error and a reconnect. -/
def writeAttempts (capability : Capability) (key : String) (value : Value) :
    HubRun ω (ℚ × Value × Option PyError) :=
  Run.recover
    (do
      let done ← driverWrite host key value
      pure (done.1, done.2, none))
    fun error =>
      if isRetryableCollectorError error then do
        ensureConnected host
        Run.recover
          (do
            let done ← driverWrite host key value
            pure (done.1, done.2, some error))
          fun again => raiseClassified host capability again
      else raiseClassified host capability error

def refreshAfterWrite : HubRun ω Snapshot := do
  let snapshot ← refresh host
  if snapshot.lastError ∈ ["collector_disconnected", "collector_not_connected",
      "waiting_for_collector"] then do
    ensureConnected host
    refresh host
  else pure snapshot

def compareReadback (capability : Capability) (requested written : Value) (started : ℚ)
    (snapshot : Snapshot) : HubRun ω (Bool × Value) := do
  let readback ← fromExcept (snapshot.runtimeValue capability.valueKey)
  let now ← observe fun w => host.monotonic w.host
  note (.compared capability (max 0 (now - started)) readback)
  pure (writeReadbackMatches capability requested written readback (max 0 (now - started)),
    readback)

def writeNotConfirmedError (capability : Capability) (written readback : Value)
    (refreshError : String) : PyError :=
  let shown := if readback = .none then "unavailable" else host.repr readback
  let message := "Command accepted, but " ++ host.repr (.text capability.displayName) ++
    " did not confirm by readback. Expected " ++ host.repr written ++ ", got " ++ shown ++ "."
  let full := if refreshError = "" then message
    else message ++ " Refresh reported " ++ refreshError ++ "."
  ⟨.runtimeError, "write_not_confirmed:" ++ capability.key ++ ":" ++ full⟩

def confirmWrite (capability : Capability) (requested written : Value) (started : ℚ)
    (snapshot : Snapshot) : HubRun ω Unit :=
  if capability.valueKind = .action then pure ()
  else do
    let first ← compareReadback host capability requested written started snapshot
    if first.1 then pure ()
    else do
      let again ← refresh host
      let second ← compareReadback host capability requested written started again
      if second.1 then pure ()
      else Run.raise (writeNotConfirmedError host capability written second.2 again.lastError)

def ensureBound : HubRun ω Unit := do
  let hub ← observe World.hub
  match hub.inverter with
  | some _ => pure ()
  | none =>
    let detectError ← detectDriver host
    let after ← observe World.hub
    match after.inverter with
    | some _ => pure ()
    | none =>
      Run.raise ⟨.runtimeError,
        if detectError = "" then "no_supported_driver_matched" else detectError⟩

def getCapability (key : String) : HubRun ω Capability := do
  let hub ← observe World.hub
  match hub.inverter with
  | none => Run.raise ⟨.attributeError, "'NoneType' object has no attribute 'get_capability'"⟩
  | some inverter =>
    match inverter.capabilities.find? fun capability => capability.key = key with
    | some capability => pure capability
    | none => Run.raise ⟨.keyError, "'" ++ key ++ "'"⟩

/-- Everything before the first write: the capability is there and editable. -/
def prepareWrite (key : String) : HubRun ω Capability := do
  ensureConnected host
  ensureBound host
  let snapshot ← refresh host
  let capability ← getCapability key
  note (.resolved capability)
  match host.blockedReasons capability snapshot.runtimeValues with
  | none => pure capability
  | some reasons =>
    Run.raise (valueError ("capability_not_editable:" ++ key ++ ":" ++
      (if reasons = "" then "capability_not_editable" else reasons)))

def settleWrite (capability : Capability) (key : String) (value : Value)
    (accepted : ℚ × Value × Option PyError) : HubRun ω Value :=
  if accepted.2.1 = .none then
    Run.raise (accepted.2.2.getD ⟨.runtimeError, "write_failed:" ++ key⟩)
  else do
    let snapshot ← refreshAfterWrite host
    confirmWrite host capability value accepted.2.1 accepted.1 snapshot
    pure accepted.2.1

def writeCapability (key : String) (value : Value) : HubRun ω Value := do
  let capability ← prepareWrite host key
  let accepted ← writeAttempts host capability key value
  settleWrite host capability key value accepted

end
end Hub
