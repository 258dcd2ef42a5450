import EybondLocal.Library.HookRun
import EybondLocal.Library.PythonObject
import EybondLocal.ShadowLearning.ModbusBackend
import Mathlib.Data.Rat.Defs
import Mathlib.Algebra.Order.Ring.Rat

/-!
One learn-settings run (`async_orchestrate_shadow_learning_settings` in
`support/shadow_learning/orchestrator.py`): the planned controls go to the cloud one after the
other, each is matched with the writes the proxy observes after it, and the run stops at a control
that the cloud took and the proxy did not see. The plan is any list, clocks are readings of the
world, and a wait that is not over after `passes` passes leaves the run unfinished.
-/
namespace ShadowOrchestrator
open StripText HookRun PythonObject
open ShadowBackend (ShadowWriteObservation)

inductive Status where
  | planned
  | sent
  | error
  | capturedNotApplied
  | degraded
  | leaked
  deriving DecidableEq, Repr

/-- An item of `build_learn_settings_plan`. -/
structure PlanItem where
  fieldId : String
  title : String
  value : String
  valueLabel : String
  valueSource : String
  deriving DecidableEq, Repr

/-- `response` or `cloud_rejection`, with the `delivery_outcome` that goes with it. -/
inductive Reply where
  | response (err : Int) (desc : String)
  | rejection (err : Int) (desc : String)
  deriving DecidableEq, Repr

structure Attempt where
  sequenceIndex : Nat
  item : PlanItem
  dryRun : Bool
  unknownField : Bool
  status : Status := .planned
  reason : String := ""
  observationCursorStart : Option Nat := none
  reply : Option Reply := none
  observation : Option ShadowWriteObservation := none
  observationCount : Nat := 0
  matchMode : String := ""
  proxyCaptureResult : String := ""
  cloudAckAfterProxyNack : Bool := false
  cloudNackResponse : Option (Int × String) := none
  deriving DecidableEq, Repr

namespace Attempt

def hasSuccessResponse (attempt : Attempt) : Bool :=
  match attempt.reply with
  | some (.response err _) => err = 0
  | _ => false

def isUnproxiedSuccessCandidate (attempt : Attempt) : Bool :=
  attempt.hasSuccessResponse && attempt.status ≠ .capturedNotApplied

def degrade (attempt : Attempt) (reason : String) : Attempt :=
  { attempt with status := .degraded, reason := reason }

def leak (attempt : Attempt) : Attempt :=
  { attempt with status := .leaked, reason := "control_leaked_unproxied" }

def replied (attempt : Attempt) (cursor : Nat) (reply : Reply) : Attempt :=
  { attempt with
    observationCursorStart := some cursor
    reply := some reply
    status :=
      match reply with
      | .response _ _ => .sent
      | .rejection _ _ => .error }

def attachObservation (attempt : Attempt) : List ShadowWriteObservation → Attempt
  | [] => { attempt with reason := "timeout_no_observed_write" }
  | observation :: more =>
    { attempt with
      observationCount := more.length + 1
      observation := some observation
      matchMode := "post_attempt_cursor" }

def capture (attempt : Attempt) : Attempt :=
  { attempt with status := .capturedNotApplied, proxyCaptureResult := "captured_not_applied" }

/-- `_normalize_captured_not_applied_status`. -/
def normalizeCapturedNotApplied (attempt : Attempt) : Attempt :=
  if attempt.observation.isNone then attempt
  else if attempt.status = .sent then
    if attempt.hasSuccessResponse then { attempt.capture with cloudAckAfterProxyNack := true }
    else
      match attempt.reply with
      | some (.response err desc) => { attempt.capture with cloudNackResponse := some (err, desc) }
      | _ => attempt.capture
  else if attempt.status ≠ .error then attempt
  else
    match attempt.reply with
    | some (.rejection err desc) => { attempt.capture with cloudNackResponse := some (err, desc) }
    | _ => attempt

end Attempt

inductive Failure where
  | rejected (err : Int) (desc : String)
  | cloud (message : String)
  | other (error : PyError)
  deriving DecidableEq, Repr

structure ApiEnvelope where
  err : Int
  desc : String
  deriving DecidableEq, Repr

/-- The callbacks of a run. `dispatch` is `async_dispatch_cloud_action` on the control action of an
    item. -/
structure Hooks (ω : Type) where
  dispatch : PlanItem → ω → ω × Ending Failure ApiEnvelope
  observationCursor : Option (ω → Nat)
  currentObservationsSince : Option (Nat → ω → List ShadowWriteObservation)
  waitForObservationsSince :
    Option (Nat → ℚ → ω → ω × Ending Failure (List ShadowWriteObservation))
  isSessionReady : Option (ω → Bool)
  waitUntilSessionReady : Option (ω → ω × Ending Failure Bool)
  sleep : ℚ → ω → ω × Ending Failure Unit
  time : ω → ℚ

structure Options where
  dryRun : Bool
  confirmCloudWrite : Bool
  shadowSessionState : String
  knownFieldIds : List String
  continueOnError : Bool := true
  abortOnUnproxiedWrite : Bool := true
  delaySeconds : ℚ := 0
  correlationTimeoutSeconds : ℚ := 2

structure Sent where
  item : PlanItem
  cursor : Nat
  answer : Ending Failure ApiEnvelope
  deriving DecidableEq, Repr

structure Session (ω : Type) where
  world : ω
  sent : List Sent
  attempts : List Attempt
  runObservations : List ShadowWriteObservation

def Session.start {ω : Type} (world : ω) : Session ω := ⟨world, [], [], []⟩

variable {ω α : Type}

abbrev Learning (ω : Type) := Run (Session ω) Failure

def look (view : ω → α) : Learning ω α := Run.observe fun session => view session.world

def awaiting (hook : ω → ω × Ending Failure α) : Learning ω α := fun session =>
  ({ session with world := (hook session.world).1 }, (hook session.world).2)

def keep (attempt : Attempt) : Learning ω Unit :=
  Run.call (fun session => { session with attempts := session.attempts ++ [attempt] })
    (.returned ())

section
variable (hooks : Hooks ω)

def Hooks.sessionReady (world : ω) : Bool :=
  match hooks.isSessionReady with
  | none => true
  | some ready => ready world

def Hooks.observationsSince (cursor : Nat) (world : ω) : List ShadowWriteObservation :=
  match hooks.currentObservationsSince with
  | none => []
  | some since => since cursor world

def Hooks.liveObservationCursor (world : ω) : Nat :=
  match hooks.observationCursor with
  | some cursor => cursor world
  | none => (hooks.observationsSince 0 world).length

/-- `_async_reacquire_session_after_sent_control`. -/
def reacquireSessionAfterSentControl : Learning ω Bool := do
  let ready ← look hooks.sessionReady
  if ready then pure true
  else
    match hooks.waitUntilSessionReady with
    | none => pure false
    | some wait => awaiting wait

/-- `_async_session_ready_for_attempt`, which has the same body. -/
def sessionReadyForAttempt : Learning ω Bool := reacquireSessionAfterSentControl hooks

/-- The start of a pass: nothing if the session is lost, else the deadline, which starts anew with
    a new session, and what that session has brought. -/
def renewDeadline (cursor : Nat) (timeout deadline : ℚ) :
    Learning ω (Option (ℚ × List ShadowWriteObservation)) := do
  let ready ← look hooks.sessionReady
  if ready then pure (some (deadline, []))
  else
    let held ← reacquireSessionAfterSentControl hooks
    if held then
      look fun world =>
        some (hooks.time world + max timeout 0, hooks.observationsSince cursor world)
    else pure none

def waitPasses (wait : Nat → ℚ → ω → ω × Ending Failure (List ShadowWriteObservation))
    (cursor : Nat) (timeout : ℚ) : Nat → ℚ → Learning ω (Option (List ShadowWriteObservation))
  | 0, _ => Run.call id .cancelled
  | passes + 1, deadline => do
    let renewed ← renewDeadline hooks cursor timeout deadline
    match renewed with
    | none => pure none
    | some (deadline', observations) =>
      if observations ≠ [] then pure (some observations)
      else
        let now ← look hooks.time
        if deadline' - now ≤ 0 then pure (some [])
        else
          let observed ← awaiting (wait cursor (min (deadline' - now) (1 / 4)))
          if observed ≠ [] then pure (some observed)
          else waitPasses wait cursor timeout passes deadline'

def waitForAttemptObservations (passes cursor : Nat) (timeout : ℚ) :
    Learning ω (Option (List ShadowWriteObservation)) := do
  let existing ← look (hooks.observationsSince cursor)
  if existing ≠ [] then pure (some existing)
  else
    let held ← reacquireSessionAfterSentControl hooks
    if held then
      match hooks.waitForObservationsSince with
      | none => pure (some [])
      | some wait =>
        let now ← look hooks.time
        waitPasses hooks wait cursor timeout passes (now + max timeout 0)
    else pure none

def dispatch (item : PlanItem) (cursor : Nat) : Learning ω ApiEnvelope := fun session =>
  let answer := hooks.dispatch item session.world
  ({ session with world := answer.1, sent := session.sent ++ [⟨item, cursor, answer.2⟩] }, answer.2)

def handleAnswer : Except Failure ApiEnvelope → Learning ω Reply
  | .ok envelope => pure (.response envelope.err envelope.desc)
  | .error (.rejected err desc) => pure (.rejection err desc)
  | .error failure => Run.raise failure

def deliver (item : PlanItem) (cursor : Nat) : Learning ω Reply := do
  let answer ← Run.caught (dispatch hooks item cursor)
  handleAnswer answer

variable (options : Options)

def newAttempt (index : Nat) (item : PlanItem) : Attempt where
  sequenceIndex := index
  item := item
  dryRun := options.dryRun
  unknownField := item.fieldId ∉ options.knownFieldIds

/-- The end of a pass that is not broken off: the writes it has seen are kept with its attempt. -/
def carryOn (attempt : Attempt) (observations : List ShadowWriteObservation) : Learning ω Bool := do
  Run.call (fun session =>
    { session with runObservations := session.runObservations ++ observations }) (.returned ())
  keep attempt
  if attempt.status = .error && !options.continueOnError then pure false
  else if 0 < options.delaySeconds then
    awaiting (hooks.sleep options.delaySeconds)
    pure true
  else pure true

def conclude (attempt : Attempt) :
    Option (List ShadowWriteObservation) → Learning ω Bool
  | none => do
    if options.abortOnUnproxiedWrite && attempt.isUnproxiedSuccessCandidate then
      keep attempt.leak
      pure false
    else
      keep (attempt.degrade "session_degraded_during_run")
      pure false
  | some observations => do
    let attached := (attempt.attachObservation observations).normalizeCapturedNotApplied
    if options.abortOnUnproxiedWrite && attached.isUnproxiedSuccessCandidate then
      keep attached.leak
      pure false
    else carryOn hooks options attached observations

def attemptItem (passes index : Nat) (item : PlanItem) : Learning ω Bool := do
  let attempt := newAttempt options index item
  if options.dryRun then
    keep attempt
    pure true
  else
    let ready ← sessionReadyForAttempt hooks
    if ready then
      let cursor ← look hooks.liveObservationCursor
      let reply ← deliver hooks item cursor
      let observations ←
        waitForAttemptObservations hooks passes cursor options.correlationTimeoutSeconds
      conclude hooks options (attempt.replied cursor reply) observations
    else
      keep (attempt.degrade "session_not_ready")
      pure false

def attemptPlan (passes : Nat) : Nat → List PlanItem → Learning ω Unit
  | _, [] => pure ()
  | index, item :: rest => do
    let goesOn ← attemptItem hooks options passes index item
    if goesOn then attemptPlan passes (index + 1) rest else pure ()

end

/-- `summarize_shadow_learning_attempts`; its counts are the lengths of its lists. -/
structure Summary where
  matched : List Attempt
  unmatchedAttempts : List Attempt
  degradedAttempts : List Attempt
  unmatchedWrites : List ShadowWriteObservation
  unknownFieldAttemptCount : Nat

def Attempt.withReason (attempt : Attempt) : Attempt :=
  if attempt.reason = "" then { attempt with reason := "no_observed_write" } else attempt

def matchedPayloadHex (matched : List Attempt) : List (List Char) :=
  (matched.filterMap fun attempt => attempt.observation.map (·.rawPayloadHex)).filter (· ≠ [])

def summarizeShadowLearningAttempts (attempts : List Attempt)
    (allObservations : List ShadowWriteObservation) : Summary :=
  let ordered := attempts.mergeSort fun first second =>
    first.sequenceIndex ≤ second.sequenceIndex
  let matched := ordered.filter (·.observation.isSome)
  let others := (ordered.filter (·.observation.isNone)).map Attempt.withReason
  { matched := matched
    unmatchedAttempts := others.filter (·.status ≠ .degraded)
    degradedAttempts := others.filter (·.status = .degraded)
    unmatchedWrites := allObservations.filter (·.rawPayloadHex ∉ matchedPayloadHex matched)
    unknownFieldAttemptCount := ordered.countP (·.unknownField) }

structure Result where
  plannedWriteCount : Nat
  executedResultCount : Nat
  sentCount : Nat
  capturedNotAppliedCount : Nat
  errorCount : Nat
  degradedCount : Nat
  leakedCount : Nat
  unknownFieldCount : Nat
  results : List Attempt
  correlation : Summary

def buildResult (plan : List PlanItem) (attempts : List Attempt)
    (completion : List ShadowWriteObservation) : Result where
  plannedWriteCount := plan.length
  executedResultCount := attempts.length
  sentCount := attempts.countP (·.status = .sent)
  capturedNotAppliedCount := attempts.countP (·.status = .capturedNotApplied)
  errorCount := attempts.countP (·.status = .error)
  degradedCount := attempts.countP (·.status = .degraded)
  leakedCount := attempts.countP (·.status = .leaked)
  unknownFieldCount := attempts.countP (·.unknownField)
  results := attempts
  correlation := summarizeShadowLearningAttempts attempts completion

def collectRunObservations (hooks : Hooks ω) (runCursorStart : Option Nat) (session : Session ω) :
    List ShadowWriteObservation :=
  match runCursorStart, hooks.currentObservationsSince with
  | some cursor, some since => since cursor session.world
  | _, _ => session.runObservations

/-- `async_orchestrate_shadow_learning_settings`, from its plan. -/
def orchestrateShadowLearningSettings (hooks : Hooks ω) (options : Options) (passes : Nat)
    (plan : List PlanItem) : Learning ω Result :=
  if !options.dryRun && !options.confirmCloudWrite then
    Run.raise (.cloud "learn_settings_requires_confirm_cloud_write")
  else if !options.dryRun && lower (strip options.shadowSessionState) ∉ ["ready", "learning"] then
    Run.raise (.other ⟨.runtimeError, "shadow_learning_session_not_ready"⟩)
  else do
    let runCursorStart ← look fun world => hooks.observationCursor.map (· world)
    attemptPlan hooks options passes 0 plan
    Run.observe fun session =>
      buildResult plan session.attempts (collectRunObservations hooks runCursorStart session)

end ShadowOrchestrator
