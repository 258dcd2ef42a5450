import EybondLocal.RecoveryVerification.Engine

/-!
The two phases of the recovery machine and the lease around them. Phase one resets the
collector in silence and looks for an autonomous reconnect; phase two, on a run with a route,
sends the one trigger and looks for its answer.
-/
namespace RecoveryVerification
open StripText PythonObject CollectorIdentity RecoveryContract HookRun HookRun.Run
open CallbackLedger (Ledger)

namespace Engine
variable {attempt : String} {ω : Type} (e : Engine attempt ω)

def adopted (pn : String) (observed : Option SessionEntry) : Option String :=
  match observed with
  | none => none
  | some session =>
    if session.strong ∧ session.pn ≠ "" ∧ (pn = "" ∨ pnIsSameIdentity pn session.pn) then
      some (if pn.length ≤ session.pn.length then session.pn else pn)
    else none

def identityPass : Step ω (Bool ⊕ Unit) := do
  let identity ← observe fun s => adopted s.collectorPn (e.sessionEntry s.host e.session)
  match identity with
  | none => return .inr ()
  | some pn => do
    update fun s => { s with collectorPn := pn }
    return .inl true

def awaitStrongIdentity (polls : Nat) : Step ω Bool :=
  poll (fun _ => e.identityPass) e.pause (fun _ => false) polls ()

/-- One read-only query on the management socket, unless its identity is strong already. -/
def probeObservedIdentity : Step ω Unit := do
  let strong ← observe fun s => (e.sessionEntry s.host e.session).any SessionEntry.strong
  if strong then return ()
  else
    match e.restartChannel.probeIdentity with
    | none => return ()
    | some probe => do
      let _ ← await probe
      return ()

def identify : Step ω Bool := do
  enter .waitingForStrongIdentity
  e.probeObservedIdentity
  let polls ← observe fun s => e.pollsLeft s.host
  e.awaitStrongIdentity polls

/-- The durable claim of the identity; only another owner's claim refuses it. -/
def promote : Step ω Bool :=
  match e.promoteClaim with
  | none => pure true
  | some hook => do
    let pn ← observe State.collectorPn
    onValueError (do ask (hook pn); return true) false

def sendRestart : Step ω (Option Failure) := do
  enter .restartRequested
  let answer ← await e.restartChannel.sendRestart
  match answer with
  | .ok () => do
    update (note .restarted)
    return none
  | .error .managementUnsupported => return some .restartNotSupported
  | .error .sessionUnavailable => return some .sessionUnavailable
  | .error (.other _) => return some .restartNotConfirmed

def resetPass : Step ω (Bool ⊕ Unit) :=
  observe fun s => if e.resetActivityObserved s then .inl true else .inr ()

def awaitResetActivity (polls : Nat) : Step ω Bool :=
  poll (fun _ => e.resetPass) e.pause (fun _ => false) polls ()

def stop (reason : Failure) : Step ω (Option RecoveryVerificationOutcome) := do
  let outcome ← fail reason
  return some outcome

def refuse (reason : Failure) : Step ω (Option RecoveryVerificationOutcome) := do
  e.closeChannel
  stop reason

def observeReset : Step ω (Option RecoveryVerificationOutcome) := do
  enter .waitingForDisconnect
  let polls ← observe fun s => e.pollsLeft s.host
  let observed ← e.awaitResetActivity polls
  if observed then return none else stop .disconnectNotObserved

def resetBarrier : Step ω (Option RecoveryVerificationOutcome) :=
  e.observeReset.ensuring e.closeChannel

def newSessionProofFields (sessionId : String) (s : State ω) : Except Failure (String × String) :=
  match e.sessionEntry s.host sessionId with
  | none => .error .reconnectTimeout
  | some session =>
    if ¬ identitySourceIsStrong session.identitySource then .error .reconnectedSessionUntrusted
    else if session.handle.conflict ≠ "" then .error .reconnectedSessionUntrusted
    else .ok (session.identitySource,
      if session.handle.observed then session.handle.wireFraming.text else "")

def commitOwnership : Step ω (String × Option OwnerCertification) :=
  match e.ownershipCommit with
  | .unavailable => pure ("", none)
  | .prepareHandoff hook => do
    let pn ← observe State.collectorPn
    let token ← onValueError (ask (hook pn)) (.str "")
    return (token.cleanText, none)
  | .ownerCertifier hook => do
    let pn ← observe State.collectorPn
    let certification ← onValueError (ask (hook pn)) none
    return ("", certification)

def accept (sessionId : String) : Step ω Unit :=
  update fun s => note (.accepted sessionId s.host s.ledger) s

def inboundProof (fields : String × String) (s : State ω) : InboundRecoveryProof where
  method := .str "reboot_reconnect_no_trigger"
  collectorPn := .str s.collectorPn
  identitySource := .str fields.1
  verifiedAt := .str (e.safeClock s.host)
  sessionProtocol := .str fields.2

def commitAndSucceed (status : VerificationState) (fields : OutcomeFields) :
    Step ω RecoveryVerificationOutcome := do
  let (handoffOwner, certification) ← e.commitOwnership
  if handoffOwner = "" ∧ certification = none then fail .sessionClaimed
  else
    succeed status
      { fields with handoffOwner := handoffOwner, ownerCertification := certification }

def certifyInbound (sessionId : String) : Step ω RecoveryVerificationOutcome := do
  let fields ← observe (e.newSessionProofFields sessionId)
  match fields with
  | .error reason => fail reason
  | .ok fields => do
    let proof ← observe (e.inboundProof fields)
    let refused ← observe fun s => (inboundRefusal s.collectorPn proof).isSome
    if refused then fail .inboundProofInvalid
    else do
      accept sessionId
      let granted ← e.retarget sessionId
      if ¬ granted then fail .sessionClaimed
      else if e.callbackRoute.isNone then
        succeed .inboundVerified
          { status := .inboundVerified, newSessionId := sessionId, inboundProof := some proof }
      else
        e.commitAndSucceed .inboundRecovered
          { status := .inboundRecovered, newSessionId := sessionId, inboundProof := some proof }

def inboundWindow (generationBefore : Int) : Step ω (Option RecoveryVerificationOutcome) := do
  enter .waitingForInboundReconnect
  let polls ← observe fun s => if e.callbackRoute.isSome then 0 else e.pollsLeft s.host
  let wait ← e.waitForNewSamePnSession polls
  match wait.sessionId with
  | none =>
    if e.callbackRoute.isSome then return none
    else stop (wait.silentFailure.getD .reconnectTimeout)
  | some sessionId => do
    let generation ← observe fun s => e.safeTriggerGeneration s.host
    if generation ≠ generationBefore then stop .udpTriggerObserved
    else do
      let outcome ← e.certifyInbound sessionId
      return some outcome

/-- `_async_reset_phase`: a terminal outcome, or none when the callback phase is due. -/
def resetPhase : Step ω (Option RecoveryVerificationOutcome) := do
  let generationBefore ← observe fun s => e.safeTriggerGeneration s.host
  let identified ← e.identify
  if ¬ identified then e.refuse .strongIdentityTimeout
  else do
    let promoted ← e.promote
    if ¬ promoted then e.refuse .sessionClaimed
    else do
      e.captureWireAuthority
      e.snapshotPendingBaseline
      e.captureBaseline
      let refusal ← e.sendRestart
      match refusal with
      | some reason => e.refuse reason
      | none => do
        let stopped ← e.resetBarrier
        match stopped with
        | some outcome => return some outcome
        | none => e.inboundWindow generationBefore

def recordOwn (attempt : String) : Nat → Ledger → Ledger
  | 0, ledger => ledger
  | sends + 1, ledger => recordOwn attempt sends (CallbackLedger.record ledger attempt)

def sendTrigger (route : CallbackRecoveryRoute) : Step ω (Except PyError Unit) := do
  enter .callbackTriggerRequested
  let sent ← observe fun s => e.triggerSender route s.host
  update fun s => note .triggered { s with ledger := recordOwn attempt sent.ownSends s.ledger }
  await fun _ => sent.toAwaited

def callbackProof (route : CallbackRecoveryRoute) (fields : String × String) (s : State ω) :
    CallbackRecoveryProof where
  method := .str "reset_unicast_reconnect_same_pn"
  collectorPn := .str s.collectorPn
  identitySource := .str fields.1
  verifiedAt := .str (e.safeClock s.host)
  triggerTarget := .str route.triggerTarget
  advertisedHaEndpoint := .str route.advertisedHaEndpoint
  listenerPort := route.listenerPort

def certifyCallback (route : CallbackRecoveryRoute) (sessionId : String) :
    Step ω RecoveryVerificationOutcome := do
  let fields ← observe (e.newSessionProofFields sessionId)
  match fields with
  | .error reason => fail reason
  | .ok fields => do
    let arrived ← observe fun s => e.sessionListenerPort s.host sessionId
    if portNumber route.listenerPort ≠ some arrived then fail .routeInvalid
    else do
      let proof ← observe (e.callbackProof route fields)
      let refused ← observe fun s => (callbackRefusal s.collectorPn proof).isSome
      if refused then fail .callbackProofInvalid
      else do
        accept sessionId
        let granted ← e.retarget sessionId
        if ¬ granted then fail .sessionClaimed
        else
          e.commitAndSucceed .callbackVerified
            { status := .callbackVerified, newSessionId := sessionId, callbackProof := some proof }

def callbackWindow (route : CallbackRecoveryRoute) : Step ω RecoveryVerificationOutcome := do
  enter .waitingForCallbackSession
  let polls ← observe fun s => e.pollsLeft s.host
  let wait ← e.waitForNewSamePnSession polls
  match wait.sessionId with
  | none => fail (wait.silentFailure.getD .callbackTimeout)
  | some sessionId => do
    let foreignSends ← observe fun s => (e.books s).foreignSends
    if foreignSends ≠ 0 then fail .callbackInterference
    else e.certifyCallback route sessionId

def callbackPhase (route : CallbackRecoveryRoute) : Step ω RecoveryVerificationOutcome := do
  e.snapshotPendingBaseline
  e.captureBaseline
  let foreignSends ← observe fun s => (e.books s).foreignSends
  if foreignSends ≠ 0 then fail .callbackInterference
  else do
    let answer ← e.sendTrigger route
    match answer with
    | .error _ => fail .triggerNotSent
    | .ok () => do
      let ownSends ← observe fun s => (e.books s).ownSends
      if ownSends ≠ 1 then fail .triggerNotSent else e.callbackWindow route

/-- One try of `causality_lease`; a lease somebody else holds is tried again. -/
def leasePass (attempt : String) : Step ω (Bool ⊕ Unit) := do
  let ledger ← observe State.ledger
  if attempt = "" then raise (valueError "attempt_id_required")
  else if (ledger.attempts.get? attempt).isSome then
    raise (valueError ("callback_attempt_duplicate:" ++ attempt))
  else if ledger.causalityOwner ≠ "" then return .inr ()
  else do
    update fun s =>
      note (.leased s.ledger.generation)
        { s with ledger := CallbackLedger.tryAcquireCausality s.ledger attempt }
    return .inl true

def acquireLease (polls : Nat) : Step ω Bool :=
  poll (fun _ => leasePass attempt) e.pause (fun _ => false) polls ()

def onLedger (action : CallbackLedger.Action) : Step ω Unit :=
  update fun s => { s with ledger := CallbackLedger.step s.ledger action }

def onceDrained {α : Type} (body : Step ω α) : Step ω α := do
  let _ ← await e.triggersDrained
  onLedger (.drained e.inhibitor)
  onLedger (.proceed e.inhibitor)
  body

/-- `inhibit_callback_triggers` around a body. -/
def inhibited {α : Type} (body : Step ω α) : Step ω α := do
  onLedger (.inhibit e.inhibitor)
  (e.onceDrained body).ensuring (onLedger (.leave e.inhibitor))

def phases : Step ω RecoveryVerificationOutcome := do
  let reset ← e.inhibited e.resetPhase
  match reset with
  | some outcome => return outcome
  | none =>
    match e.callbackRoute with
    -- the reset phase of an inbound-only run always ends in an outcome
    | none => fail .reconnectTimeout
    | some route => e.callbackPhase route

def upfrontRefusal : Option Failure :=
  if e.pn = "" ∨ e.session = "" then some .sessionUnavailable
  else if e.retargetClaim.isNone ∨
      (e.callbackRoute.isSome ∧ ¬ e.ownershipCommit.isAvailable) then some .ownershipUnavailable
  else if e.callbackRoute.any (·.invalidReason ≠ "") then some .routeInvalid
  else none

def leased (body : Step ω RecoveryVerificationOutcome) : Step ω RecoveryVerificationOutcome :=
  (body.ensuring e.closeChannel).ensuring (onLedger (.release attempt))

def asyncVerify : Step ω RecoveryVerificationOutcome :=
  match e.upfrontRefusal with
  | some reason => fail reason
  | none => do
    let polls ← observe fun s => e.pollsLeft s.host
    let taken ← e.acquireLease polls
    if ¬ taken then fail .causalityBusy else e.leased e.phases

def start (host : ω) (ledger : Ledger) : State ω where
  host := host
  ledger := ledger
  collectorPn := e.pn

end Engine
end RecoveryVerification
