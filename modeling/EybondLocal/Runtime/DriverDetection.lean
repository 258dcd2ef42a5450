import Mathlib.Algebra.Order.Ring.Unbundled.Rat
import Mathlib.Data.List.Sort
import Mathlib.Data.Prod.Lex
import EybondLocal.Library.HookRun
import EybondLocal.Library.OrderedDict

/-!
The search for the driver that speaks to the inverter behind one transport. Drivers may first
sign the link with a cheap request; then each probes its targets through a proxy that counts the
payloads that come back. What the drivers do and what the transport answers is outside, and may
depend on everything that was sent before.
-/
namespace DriverDetection
open HookRun HookRun.Run

structure ProbeTarget where
  devcode : Int
  collectorAddr : Int
  deviceAddr : Int
  deriving DecidableEq, Repr

inductive Route where
  | eybond (devcode collectorAddr : Int)
  | rawSerial (protocol : String)
  | atMixed (devcode collectorAddr : Int) (protocol : String)
  deriving DecidableEq, Repr

inductive Reply where
  | payload (bytes : List UInt8)
  | parts (items : List (List UInt8))
  deriving DecidableEq, Repr

def Reply.answers : Reply → Bool
  | .payload bytes => !bytes.isEmpty
  | .parts (_ :: second :: _) => !second.isEmpty
  | .parts items => !items.isEmpty

/-- One payload request: the route it names, and the reply unless the send raised. -/
structure Exchange where
  route : Option Route
  reply : Option Reply
  deriving DecidableEq, Repr

def Exchange.answered (exchange : Exchange) : Bool := exchange.reply.any Reply.answers

/-- `_ProbeRouteCounter`, under the route it counts. -/
structure RouteCounter where
  attempts : Nat
  responses : Nat
  deriving DecidableEq, Repr

/-- `_ResponseTrackingTransport`. -/
structure Tracker where
  responses : Nat
  routeCounters : List (Route × RouteCounter)
  deriving DecidableEq, Repr

def Tracker.new : Tracker := ⟨0, []⟩

def Tracker.sawResponse (t : Tracker) : Bool := t.responses > 0

def Tracker.counter (t : Tracker) (route : Route) : RouteCounter :=
  (OrderedDict.find route t.routeCounters).getD ⟨0, 0⟩

def Tracker.watched (t : Tracker) (exchange : Exchange) : Tracker :=
  let got := if exchange.answered then 1 else 0
  { responses := t.responses + got
    routeCounters :=
      match exchange.route with
      | none => t.routeCounters
      | some route =>
        let counter := t.counter route
        OrderedDict.assign route ⟨counter.attempts + 1, counter.responses + got⟩ t.routeCounters }

structure Attempt where
  target : ProbeTarget
  exchanges : List Exchange
  allZero : Bool
  deriving DecidableEq, Repr

def Attempt.answered (attempt : Attempt) : Bool := attempt.exchanges.any Exchange.answered

/-- Everything sent so far: the attempts of the signature pass, then the attempts of each driver
    probe. `timeUp` says whose cancellation is under way, that of the deadline awaited or the
    caller's. -/
structure World where
  signatures : List Attempt
  probes : List (List Attempt)
  tracked : Tracker
  timeUp : Bool
  turns : Nat
  deriving DecidableEq, Repr

def World.start : World := ⟨[], [], .new, false, 0⟩

inductive SignatureEnding where
  | answered (matched : Bool)
  | failed
  | cancelled (timeUp : Bool)
  deriving DecidableEq, Repr

/-- `InverterIdentityNoDataError` and `DriverProbeNoMatchError` apart, a probe may fail with any
    error. -/
inductive ProbeEnding (Inverter Evidence : Type) where
  | matched (inverter : Inverter)
  | unmatched (evidence : Option Evidence)
  | noMatch (evidence : Evidence)
  | allZero
  | failed (message : String)
  | cancelled (timeUp : Bool)
  deriving DecidableEq, Repr

def ProbeEnding.isAllZero {Inverter Evidence : Type} : ProbeEnding Inverter Evidence → Bool
  | .allZero => true
  | _ => false

structure Driver (Inverter Evidence : Type) where
  key : String
  signatureTimeout : Option Rat
  probeTimeout : Option Rat
  probeTargets : List ProbeTarget
  probeSignature : World → ProbeTarget → List Exchange × SignatureEnding
  probe : World → ProbeTarget → List Exchange × ProbeEnding Inverter Evidence

structure ProbeRecord (Evidence : Type) where
  driver : String
  outcome : String
  sawResponse : Option Bool
  routes : List (Route × RouteCounter)
  diagnostic : Option Evidence
  deriving DecidableEq, Repr

structure SweepNoMatch (Evidence : Type) where
  message : String
  silent : Bool
  probeLog : List (ProbeRecord Evidence)
  deriving DecidableEq, Repr

inductive Failure (Evidence : Type) where
  | timeout
  | identityNoData
  | probeNoMatch (evidence : Evidence)
  | sweepNoMatch (verdict : SweepNoMatch Evidence)
  | error (message : String)
  deriving DecidableEq, Repr

variable {Inverter Evidence α : Type}

abbrev Detection (Evidence α : Type) := Run World (Failure Evidence) α

def World.probed (w : World) (attempt : Attempt) : World :=
  { w with
    probes := w.probes.dropLast ++ [w.probes.getLastD [] ++ [attempt]]
    tracked := attempt.exchanges.foldl Tracker.watched w.tracked
    turns := w.turns + 1 }

def World.signed (w : World) (attempt : Attempt) : World :=
  { w with signatures := w.signatures ++ [attempt], turns := w.turns + 1 }

/-- `tracked = _ResponseTrackingTransport(transport)`, for the next driver. -/
def World.tracking (w : World) : World :=
  { w with probes := w.probes ++ [[]], tracked := .new }

def waitFor (body : Detection Evidence α) : Detection Evidence α := fun w =>
  match body w with
  | (w', .cancelled) => (w', if w'.timeUp then .raised .timeout else .cancelled)
  | ended => ended

structure Deadline where
  remainingSeconds : Option (World → Except String (Option Rat))

def Deadline.remaining (deadline : Deadline) : Detection Evidence (Option Rat) :=
  match deadline.remainingSeconds with
  | none => pure none
  | some clock => fun w =>
    let w' := { w with turns := w.turns + 1 }
    match clock w with
    | .ok reading => (w', .returned (reading.map (max 0)))
    | .error message => (w', .raised (.error message))

def Deadline.expired (deadline : Deadline) : Detection Evidence Bool := do
  let remaining ← deadline.remaining
  pure (remaining.any (· ≤ 0))

def Deadline.timeout (deadline : Deadline) (configured : Option Rat) :
    Detection Evidence (Option Rat) := do
  let base := configured.getD 0
  let remaining ← deadline.remaining
  match remaining with
  | none => pure (if base > 0 then some base else none)
  | some remaining => pure (some (if base ≤ 0 then remaining else min base remaining))

section
variable {κ : Type} [LinearOrder κ]

def sortedBy (key : α → κ) (items : List α) : List α :=
  items.insertionSort fun a b => key a ≤ key b

end

def orderedProbeTargets (driver : Driver Inverter Evidence) (preferredDevcodes : List Int) :
    List ProbeTarget :=
  let originalOrder := fun target : ProbeTarget =>
    driver.probeTargets.length - 1 - driver.probeTargets.reverse.idxOf target
  let devcodeRank := fun target : ProbeTarget =>
    if preferredDevcodes.isEmpty || preferredDevcodes.contains target.devcode then 0 else 1
  sortedBy (fun target => toLex (devcodeRank target, originalOrder target)) driver.probeTargets

abbrev Targeted (Inverter Evidence : Type) := Driver Inverter Evidence × List ProbeTarget

def signatureAttempt (driver : Driver Inverter Evidence) (target : ProbeTarget) :
    Detection Evidence Bool := fun w =>
  let script := driver.probeSignature w target
  let w' := w.signed ⟨target, script.1, false⟩
  match script.2 with
  | .answered matched => (w', .returned matched)
  | .failed => (w', .raised (.error ""))
  | .cancelled timeUp => ({ w' with timeUp }, .cancelled)

/-- `_async_probe_driver_signature_targets`. -/
def probeSignatureTargets (driver : Driver Inverter Evidence) :
    List ProbeTarget → Detection Evidence Bool
  | [] => pure false
  | target :: later => do
    let matched ← (signatureAttempt driver target).recover fun _ => pure false
    if matched then pure true else probeSignatureTargets driver later

def probeDriverSignature (deadline : Deadline) (driver : Driver Inverter Evidence)
    (targets : List ProbeTarget) : Detection Evidence Bool := do
  let timeout ← deadline.timeout driver.signatureTimeout
  if timeout.all (· ≤ 0) then pure false
  else (waitFor (probeSignatureTargets driver targets)).recover fun failure =>
    match failure with
    | .timeout => pure false
    | failure => raise failure

def orderedDriverTargetsBySignature (deadline : Deadline) :
    List (Targeted Inverter Evidence) → List (Targeted Inverter Evidence) →
    Detection Evidence (List (Targeted Inverter Evidence))
  | [], unsigned => pure unsigned
  | (driver, targets) :: later, unsigned =>
    if driver.signatureTimeout.all (· ≤ 0) then
      orderedDriverTargetsBySignature deadline later (unsigned ++ [(driver, targets)])
    else do
      let expired ← deadline.expired
      if expired then pure (unsigned ++ (driver, targets) :: later)
      else
        let matched ← (probeDriverSignature deadline driver targets).recover fun _ => pure false
        if matched then pure ((driver, targets) :: (unsigned ++ later))
        else orderedDriverTargetsBySignature deadline later (unsigned ++ [(driver, targets)])

structure Request (Inverter Evidence : Type) where
  drivers : List (Driver Inverter Evidence)
  preferredDevcodes : List Int
  preferredDriverKeys : List String
  allowedDriverKeys : List String
  deadline : Deadline

def orderedDriverTargets (request : Request Inverter Evidence) :
    Detection Evidence (List (Targeted Inverter Evidence)) :=
  let allowed := fun driver : Driver Inverter Evidence =>
    request.allowedDriverKeys.isEmpty || request.allowedDriverKeys.contains driver.key
  let driverTargets := (request.drivers.filter allowed).map fun driver =>
    (driver, orderedProbeTargets driver request.preferredDevcodes)
  let preferred := request.preferredDriverKeys.filter (· ≠ "")
  let rank := fun entry : Targeted Inverter Evidence =>
    if preferred.contains entry.1.key then 0 else 1
  if driverTargets.any fun entry => preferred.contains entry.1.key then
    pure (sortedBy rank driverTargets)
  else orderedDriverTargetsBySignature request.deadline driverTargets []

def probeAttempt (driver : Driver Inverter Evidence) (target : ProbeTarget) :
    Detection Evidence (Option Inverter × Option Evidence) := fun w =>
  let script := driver.probe w target
  let w' := w.probed ⟨target, script.1, script.2.isAllZero⟩
  match script.2 with
  | .matched inverter => (w', .returned (some inverter, none))
  | .unmatched evidence => (w', .returned (none, evidence))
  | .noMatch evidence => (w', .raised (.probeNoMatch evidence))
  | .allZero => (w', .raised .identityNoData)
  | .failed message => (w', .raised (.error message))
  | .cancelled timeUp => ({ w' with timeUp }, .cancelled)

/-- `_async_probe_driver_targets`. An identity that reads as zeros ends the walk over the
    targets; every other error leaves at most its evidence. -/
def probeDriverTargets (driver : Driver Inverter Evidence) :
    List ProbeTarget → Option Evidence → Detection Evidence (Option Inverter)
  | [], typedNoMatch =>
    match typedNoMatch with
    | some evidence => raise (.probeNoMatch evidence)
    | none => pure none
  | target :: later, typedNoMatch => do
    let attempt ← (probeAttempt driver target).recover fun failure =>
      match failure with
      | .identityNoData => raise .identityNoData
      | .probeNoMatch evidence => pure (none, some evidence)
      | _ => pure (none, none)
    match attempt with
    | (some inverter, _) => pure (some inverter)
    | (none, evidence) => probeDriverTargets driver later (evidence.or typedNoMatch)

def probeDriverWithBudget (deadline : Deadline) (driver : Driver Inverter Evidence)
    (targets : List ProbeTarget) : Detection Evidence (Option Inverter) := do
  let timeout ← deadline.timeout driver.probeTimeout
  if timeout.all (· ≤ 0) then probeDriverTargets driver targets none
  else waitFor (probeDriverTargets driver targets none)

def errorInverterLinkDown : String := "inverter_link_down"

structure Sweep (Evidence : Type) where
  errors : List String
  probeLog : List (ProbeRecord Evidence)
  inverterLinkDown : Bool
  deriving DecidableEq, Repr

def Sweep.new : Sweep Evidence := ⟨[], [], false⟩

def Sweep.note (s : Sweep Evidence) (driver : Driver Inverter Evidence) (error : String) :
    Sweep Evidence := { s with errors := s.errors ++ [driver.key ++ ":" ++ error] }

def Sweep.log (s : Sweep Evidence) (driver : Driver Inverter Evidence) (tracked : Tracker)
    (outcome : String) (sawResponse : Bool) (diagnostic : Option Evidence) : Sweep Evidence :=
  { s with probeLog := s.probeLog ++
      [⟨driver.key, outcome, some sawResponse, tracked.routeCounters, diagnostic⟩] }

def Sweep.failed (s : Sweep Evidence) (driver : Driver Inverter Evidence) (tracked : Tracker) :
    Failure Evidence → Sweep Evidence
  | .timeout =>
    (s.note driver "probe_timeout").log driver tracked "probe_timeout" tracked.sawResponse none
  | .identityNoData =>
    { (s.note driver errorInverterLinkDown).log driver tracked errorInverterLinkDown false none with
      inverterLinkDown := true }
  | .probeNoMatch evidence =>
    s.log driver tracked "no_match" tracked.sawResponse (some evidence)
  | .sweepNoMatch verdict =>
    (s.note driver verdict.message).log driver tracked
      ("error:" ++ String.ofList (verdict.message.toList.take 80)) tracked.sawResponse none
  | .error message =>
    (s.note driver message).log driver tracked
      ("error:" ++ String.ofList (message.toList.take 80)) tracked.sawResponse none

def Sweep.skipped (s : Sweep Evidence) (pending : List (Targeted Inverter Evidence)) :
    Sweep Evidence :=
  { s with probeLog := s.probeLog ++
      pending.map fun entry => ⟨entry.1.key, "skipped_budget_exhausted", none, [], none⟩ }

def Sweep.verdict (s : Sweep Evidence) (silent : Bool) : SweepNoMatch Evidence :=
  let answered := s.probeLog.find? fun record =>
    record.outcome == "no_match" && record.sawResponse == some true
  let answeredNoMatch := (answered.map ProbeRecord.driver).getD ""
  let message :=
    if s.inverterLinkDown then errorInverterLinkDown
    else if answeredNoMatch ≠ "" then answeredNoMatch ++ ":no_match"
    else s.errors.getLastD "no_supported_driver_matched"
  ⟨message, silent, s.probeLog⟩

structure DetectedDriverContext (Inverter Evidence : Type) where
  driver : String
  inverter : Inverter
  probeLog : List (ProbeRecord Evidence)
  deriving DecidableEq, Repr

structure DriverCandidateScan (Inverter Evidence : Type) where
  candidates : List (String × Inverter)
  budgetExhausted : Bool
  probeLog : List (ProbeRecord Evidence)
  deriving DecidableEq, Repr

def track : Detection Evidence Unit := call World.tracking (.returned ())

/-- The loop of `async_detect_inverter`. -/
def detectFirst (deadline : Deadline) : List (Targeted Inverter Evidence) → Sweep Evidence → Bool →
    Detection Evidence (DetectedDriverContext Inverter Evidence)
  | [], s, sawAnyResponse => raise (.sweepNoMatch (s.verdict !sawAnyResponse))
  | (driver, targets) :: later, s, sawAnyResponse => do
    let expired ← deadline.expired
    if expired then
      raise (.sweepNoMatch ((s.skipped ((driver, targets) :: later)).verdict !sawAnyResponse))
    else
      track
      let answer ← (probeDriverWithBudget deadline driver targets).caught
      let tracked ← observe World.tracked
      match answer with
      | .error .identityNoData =>
        detectFirst deadline later (s.failed driver tracked .identityNoData) sawAnyResponse
      | .error failure =>
        detectFirst deadline later (s.failed driver tracked failure)
          (sawAnyResponse || tracked.sawResponse)
      | .ok (some inverter) =>
        pure ⟨driver.key, inverter, (s.log driver tracked "matched" true none).probeLog⟩
      | .ok none =>
        detectFirst deadline later (s.log driver tracked "no_match" tracked.sawResponse none)
          (sawAnyResponse || tracked.sawResponse)

def detectInverter (request : Request Inverter Evidence) :
    Detection Evidence (DetectedDriverContext Inverter Evidence) := do
  let driverTargets ← orderedDriverTargets request
  detectFirst request.deadline driverTargets .new false

/-- The loop of `async_detect_inverter_candidates`. -/
def detectAll (deadline : Deadline) : List (Targeted Inverter Evidence) → Sweep Evidence →
    List (String × Inverter) → Detection Evidence (DriverCandidateScan Inverter Evidence)
  | [], s, candidates =>
    if candidates.isEmpty then
      raise (.sweepNoMatch (s.verdict !s.probeLog.any fun record => record.sawResponse == some true))
    else pure ⟨candidates, false, s.probeLog⟩
  | (driver, targets) :: later, s, candidates => do
    let remaining ← deadline.remaining
    if remaining.any (· ≤ 0) then
      pure ⟨candidates, true, (s.skipped ((driver, targets) :: later)).probeLog⟩
    else
      track
      let probe := probeDriverWithBudget deadline driver targets
      let answer ← (if remaining.isSome then waitFor probe else probe).caught
      let tracked ← observe World.tracked
      match answer with
      | .error failure => detectAll deadline later (s.failed driver tracked failure) candidates
      | .ok (some inverter) =>
        detectAll deadline later (s.log driver tracked "matched" true none)
          (candidates ++ [(driver.key, inverter)])
      | .ok none =>
        detectAll deadline later (s.log driver tracked "no_match" tracked.sawResponse none)
          candidates

def detectInverterCandidates (request : Request Inverter Evidence) :
    Detection Evidence (DriverCandidateScan Inverter Evidence) := do
  let driverTargets ← orderedDriverTargets request
  detectAll request.deadline driverTargets .new []

end DriverDetection
