import EybondLocal.Library.HookRun
import EybondLocal.StrategyTransition.RecoveryState

/-!
The transition to `callback_on_demand` (`_async_transition_to_callback` in
`connection/strategy_transition.py`), call by call: the preflights, the write-ahead, the one
managed reset, the verification and the commit. How each hook answers is part of the call,
and the log keeps what was called in which order. `axis_extra` is empty at the only call, and
`restore_endpoint` is overwritten or unused.
-/
namespace StrategyTransition
open StripText PythonObject CollectorIdentity RecoveryVerification HookRun HookRun.Run

abbrev Answer (α : Type) := Ending PyError α

def accepts : Answer PyObj → Bool
  | .returned refusal => !refusal.truthy
  | _ => false

inductive Argument (α : Type) where
  | absent
  | exact (value : α)
  | foreign

/-- The user's choice: its constructor takes a known, normalized endpoint only. -/
structure CloudRollbackSelection where
  endpointValue : String
  known : endpointValue ≠ ""
  normalized : strip endpointValue = endpointValue

/-- What the verifier does with this function's hooks. It stops before the reset, or it asks
    the channel for the reset once: a reset that raises makes it fail (unless closing the
    channel is cancelled), otherwise it may send its trigger before it ends. -/
inductive Verification where
  | stops (answer : Answer RecoveryVerificationOutcome)
  | restarts (managed : Answer PyObj) (afterFailure : Answer Failure) (triggers : Bool)
      (answer : Answer RecoveryVerificationOutcome)

structure Call where
  collectorPn : PyObj
  sessionId : String
  callbackRoute : Option CallbackRecoveryRoute
  endpointControlPolicy : PyObj
  cloudRollbackSelection : Argument CloudRollbackSelection
  recoveryState : Argument StrategyTransitionRecoveryState
  optionsUpdates : List (String × PyObj)
  managementActionAvailable : Option (String → Answer Bool)
  validateRollbackSelection : Option (Answer PyObj)
  persistRollbackSelection : Option (Answer PyObj)
  persistPending : Option (Answer PyObj)
  persistConfirmed : Option (Answer PyObj)
  onEndpointRestored : Option (Answer Unit)
  managementChannelFactory : Option (Answer Unit)
  clock : Answer PyObj
  verification : Verification
  reverify : Answer Bool
  commit : Answer PyObj

inductive Event where
  | validateRollbackSelection (answer : Answer PyObj)
  | persistRollbackSelection (answer : Answer PyObj)
  | persistPending (state : StrategyTransitionRecoveryState) (answer : Answer PyObj)
  | writeEndpoint (endpoint : String)
  | sendRestart
  | sendTrigger
  | persistConfirmed (state : StrategyTransitionRecoveryState) (answer : Answer PyObj)
  | endpointRestored (value : String)
  | reverify (answer : Answer Bool)
  | commit (updates options : List (String × PyObj)) (terminal : RecoveryTerminalInput)
      (answer : Answer PyObj)

structure Progress where
  log : List Event := []
  restored : Option String := none

structure StrategyTransitionResult where
  success : Bool := false
  failureReason : PyObj := .str ""
  endpointRestored : Bool := false
  degradedState : String := ""
  outcome : Option RecoveryVerificationOutcome := none

abbrev Step (α : Type) := Run Progress PyError α

def note (event : Event) (progress : Progress) : Progress :=
  { progress with log := progress.log ++ [event] }

def confCallbackStrategy : String × PyObj := ("connection_strategy", .str callbackOnDemand)
def confEndpointExternal : String × PyObj := ("endpoint_control_policy", .str "external")
def degradedCallbackRestoreUnproven : String := "callback_restore_unproven"

namespace Call

def needsRestore (c : Call) : Bool := c.endpointControlPolicy.cleanText == "integration_managed"

def startable (c : Call) (route : CallbackRecoveryRoute) (state : StrategyTransitionRecoveryState) :
    Bool :=
  state.fields.collectorPn == normalizePn c.collectorPn &&
    state.fields.targetStrategy == callbackOnDemand && state.fields.phase == .pending &&
    state.hasRoute route

def trustedState (c : Call) : Except PyObj StrategyTransitionRecoveryState :=
  match c.callbackRoute with
  | none => .error (.str "transition_callback_route_required")
  | some route =>
    if route.invalidReason ≠ "" then .error (.str "transition_callback_route_required")
    else if c.managementChannelFactory.isNone then .error (.str "transition_management_unavailable")
    else
      match c.recoveryState with
      | .absent => .error (.str "transition_recovery_state_unavailable")
      | .foreign => .error (.str "transition_recovery_state_invalid")
      | .exact state =>
        if c.startable route state then .ok state
        else .error (.str "transition_recovery_state_invalid")

def actionAvailable (c : Call) (action : String) : Step Bool :=
  match c.managementActionAvailable with
  | none => pure true
  | some available => call id (available action)

def validateSelection (c : Call) : Step (Option PyObj) :=
  match c.validateRollbackSelection with
  | none => pure (some (.str "transition_rollback_selection_invalid"))
  | some answer => do
    let refusal ← (call (note (.validateRollbackSelection answer)) answer).recover fun _ =>
      pure (.str "transition_rollback_selection_invalid")
    return if refusal.truthy then some refusal else none

/-- `restore_target` of an integration-managed endpoint. -/
def selectedEndpoint (c : Call) : Step (Except PyObj String) := do
  if ¬ (← c.actionAvailable "write_endpoint") then
    return .error (.str "transition_management_unavailable")
  if ¬ (← c.actionAvailable "apply_changes") then
    return .error (.str "transition_management_unavailable")
  match c.cloudRollbackSelection with
  | .absent => return .error (.str "transition_rollback_selection_required")
  | .foreign => return .error (.str "transition_rollback_selection_invalid")
  | .exact selection =>
    match ← c.validateSelection with
    | some refusal => return .error refusal
    | none => return .ok selection.endpointValue

def channelEndpoint (c : Call) : Step (Except PyObj String) := do
  if c.needsRestore then c.selectedEndpoint
  else if ← c.actionAvailable "reboot" then return .ok ""
  else return .error (.str "transition_management_unavailable")

def saveSelection (c : Call) : Step (Option PyObj) :=
  if ¬ c.needsRestore then pure none
  else
    match c.persistRollbackSelection with
    | none => pure (some (.str "transition_rollback_persist_failed"))
    | some answer => do
      let refusal ← (call (note (.persistRollbackSelection answer)) answer).recover fun _ =>
        pure (.str "transition_rollback_persist_failed")
      return if refusal.truthy then some (.str refusal.render) else none

def writeAhead (c : Call) (state : StrategyTransitionRecoveryState) : Step (Option PyObj) :=
  if c.needsRestore ∧ c.persistConfirmed.isNone then
    pure (some (.str "transition_persist_confirmed_unavailable"))
  else
    match c.persistPending with
    | none => pure (some (.str "transition_recovery_state_unavailable"))
    | some answer => do
      match ← c.saveSelection with
      | some refusal => return some refusal
      | none =>
        let refusal ← (call (note (.persistPending state answer)) answer).recover fun _ =>
          pure (.str "transition_persist_pending_failed")
        return if refusal.truthy then some (.str "transition_persist_pending_failed") else none

structure Armed where
  state : StrategyTransitionRecoveryState
  endpoint : String

def preflight (c : Call) : Step (Except PyObj Armed) :=
  match c.trustedState with
  | .error reason => pure (.error reason)
  | .ok state => do
    match ← c.channelEndpoint with
    | .error reason => return .error reason
    | .ok endpoint =>
      match ← c.writeAhead state with
      | some reason => return .error reason
      | none => return .ok ⟨state, endpoint⟩

def receiptSessionId : PyObj → String
  | .mapping items _ => (PyObj.get items "management_session_id").cleanText
  | _ => ""

def appliedEndpointFromResult (receipt : PyObj) (fallback : String) : String :=
  match receipt with
  | .mapping items _ =>
    let readback := PyObj.get items "readback_endpoint"
    let value := if readback.truthy then readback.cleanText
      else (PyObj.get items "requested_endpoint").cleanText
    if value ≠ "" then value else fallback
  | _ => fallback

/-- The durable confirmed-unproven write. What `persist_confirmed` returns is not looked at. -/
def storeConfirmation (c : Call) (state : StrategyTransitionRecoveryState) : Step Unit :=
  match c.persistConfirmed with
  | none => pure ()
  | some answer => do
    let now ← call id c.clock
    match state.withPhase .restoreConfirmedUnproven now with
    | .error error => raise error
    | .ok confirmed =>
      let _ ← call (note (.persistConfirmed confirmed answer)) answer

/-- `_confirmed`. Only a restore is remembered; a plain restart changes no endpoint. -/
def confirmed (c : Call) (armed : Armed) (receipt : PyObj) : Step Unit :=
  if ¬ c.needsRestore then pure ()
  else do
    let value := appliedEndpointFromResult receipt armed.endpoint
    call (fun progress => { progress with restored := some value }) (.returned ())
    c.storeConfirmation armed.state
    match c.onEndpointRestored with
    | none => pure ()
    | some answer => call (note (.endpointRestored value)) answer

def asyncSendRestart (c : Call) (armed : Armed) (managed : Answer PyObj) : Step Unit := do
  let action := if armed.endpoint ≠ "" then .writeEndpoint armed.endpoint else .sendRestart
  let receipt ← call (note action) managed
  if receiptSessionId receipt ≠ c.sessionId then
    raise ⟨.runtimeError, "transition_management_session_receipt_invalid"⟩
  else c.confirmed armed receipt

def openChannel (c : Call) (armed : Armed) : Step Unit := do
  call id (c.managementChannelFactory.getD (.returned ()))
  if c.sessionId = "" ∨ c.sessionId ≠ strip c.sessionId then
    raise (valueError "managed_session_id_invalid")
  else if armed.endpoint ≠ strip armed.endpoint then raise (valueError "managed_endpoint_invalid")
  else pure ()

def asyncVerify (c : Call) (armed : Armed) : Step RecoveryVerificationOutcome :=
  match c.verification with
  | .stops answer => call id answer
  | .restarts managed afterFailure triggers answer => do
    let failure ← (c.asyncSendRestart armed managed >>= fun _ => pure none).recover fun _ =>
      call id afterFailure >>= fun reason => pure (some reason)
    match failure with
    | some reason => return .failed (normalizePn c.collectorPn) reason []
    | none => call (if triggers then note .sendTrigger else id) answer

def degradedMarker (restored : Option String) : String :=
  if restored.isSome then degradedCallbackRestoreUnproven else ""

def failure (restored : Option String) (reason : PyObj)
    (outcome : Option RecoveryVerificationOutcome) : StrategyTransitionResult :=
  { failureReason := reason, endpointRestored := restored.isSome,
    degradedState := degradedMarker restored, outcome := outcome }

def commitCertified (c : Call) (outcome : RecoveryVerificationOutcome)
    (updates options : List (String × PyObj)) : Step (Option PyObj) := do
  if ← call (note (.reverify c.reverify)) c.reverify then
    match RecoveryTerminalInput.fromPermanentOwnerTransaction outcome with
    | .error error => raise error
    | .ok terminal =>
      let refusal ← call (note (.commit updates options terminal c.commit)) c.commit
      return some refusal
  else return none

def staleCertification (restored : Option String) (outcome : RecoveryVerificationOutcome) :
    StrategyTransitionResult :=
  failure restored (.str "transition_owner_certification_stale") outcome

def callbackResult (restored : Option String) (outcome : RecoveryVerificationOutcome) :
    Option PyObj → StrategyTransitionResult
  | none => staleCertification restored outcome
  | some refusal =>
    if refusal.truthy then failure restored refusal outcome
    else { success := true, endpointRestored := restored.isSome, outcome := some outcome }

/-- The result after the collector came back on its own: its proof is kept, the strategy is not
    changed, and no marker is set since it did reconnect. -/
def inboundResult (restored : Option String) (outcome : RecoveryVerificationOutcome) :
    Option PyObj → StrategyTransitionResult
  | none => staleCertification restored outcome
  | some refusal =>
    let instead := if restored.isSome then "transition_inbound_recovered_after_restore"
      else "transition_inbound_recovered_instead"
    { failureReason := if refusal.truthy then refusal else .str instead,
      endpointRestored := restored.isSome, outcome := some outcome }

def conclude (c : Call) (outcome : RecoveryVerificationOutcome) : Step StrategyTransitionResult := do
  let restored ← observe Progress.restored
  if outcome.callbackVerified then
    let updates := confCallbackStrategy ::
      (if restored.isSome then [confEndpointExternal] else [])
    let answer ← c.commitCertified outcome updates c.optionsUpdates
    return callbackResult restored outcome answer
  else if outcome.inboundRecovered then
    let answer ← c.commitCertified outcome [] []
    return inboundResult restored outcome answer
  else
    let reason := if outcome.fields.failureReason ≠ "" then outcome.fields.failureReason
      else Failure.callbackTimeout.text
    return failure restored (.str reason) outcome

def resume (c : Call) (armed : Armed) : Step StrategyTransitionResult := do
  c.openChannel armed
  let outcome ← (c.asyncVerify armed >>= fun outcome => pure (some outcome)).recover fun _ =>
    pure none
  match outcome with
  | none =>
    let restored ← observe Progress.restored
    return failure restored (.str "transition_endpoint_write_failed") none
  | some outcome => c.conclude outcome

def asyncTransitionToCallback (c : Call) : Step StrategyTransitionResult := do
  match ← c.preflight with
  | .error reason => return { failureReason := reason }
  | .ok armed => c.resume armed

end Call
end StrategyTransition
