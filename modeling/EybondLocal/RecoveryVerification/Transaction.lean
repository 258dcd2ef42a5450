import EybondLocal.RecoveryVerification.Phases

/-!
The callback recovery transaction (`async_run_callback_recovery_transaction` in
`connection/recovery/verification_transaction.py`): the claim, the wiring of the engine to the
registry, and the cleanup. Other owners call the registry at every await; which calls they
make is a parameter of the run.
-/
namespace RecoveryVerification
open StripText PythonObject CollectorIdentity RecoveryContract HookRun HookRun.Run
open SessionRegistry (Registry RawSession CallbackSession)
open CallbackLedger (Ledger Foreign)

/-- The registry and everything else a hook sees. `calls` is the history of the transaction's
    own registry calls: what each found and what it left. -/
structure World (ν : Type) where
  registry : Registry
  rest : ν
  calls : List (Registry × Registry) := []

abbrev OtherCall (owner : String) :=
  { call : SessionRegistry.Call // call.operation.owner ≠ some owner }

def interleave {owner : String} (calls : List (OtherCall owner)) (registry : Registry) : Registry :=
  calls.foldl (fun registry call => SessionRegistry.step registry call.val) registry

structure Reply (attempt : String) (ν ε α : Type) where
  rest : ν
  meanwhile : List (Foreign attempt) := []
  ending : Ending ε α

structure Surroundings (attempt : String) (ν : Type) where
  inventory : ν → List RawSession
  observedWire : World ν → Except PyError PyObj
  probeIdentity : World ν → Reply attempt ν PyError Unit
  sendRestart : World ν → Reply attempt ν RestartError Unit
  closeChannel : World ν → Reply attempt ν PyError Unit
  probeAvailable : World ν → Bool
  silentIds : World ν → Except PyError (List String)
  identifySilent : (sessionId sessionProtocol : String) → World ν → Reply attempt ν PyError PyObj
  sendTrigger : CallbackRecoveryRoute → World ν → Reply attempt ν PyError Unit
  ownSends : CallbackRecoveryRoute → World ν → Nat
  clock : World ν → Except PyError PyObj
  pollsLeft : World ν → Nat
  sleep : World ν → Reply attempt ν PyError Unit
  triggersDrained : World ν → Reply attempt ν PyError Unit
  inhibitor : Nat
  attempt_trimmed : strip attempt = attempt

/-- An await of the transaction itself. Its errors are suppressed where it is made, so it
    matters only whether it was cancelled. -/
structure Suspension (attempt : String) (ν : Type) where
  rest : ν → ν
  meanwhile : List (Foreign attempt) := []
  cancelled : Bool := false

inductive ConfirmationCallback where
  | absent
  | callable
  | notCallable
  deriving DecidableEq, Repr

/-- The arguments of one call. `portNumber` is what `int(route.listener_port)` comes to, and
    `token` the text of the owner's uuid. -/
structure Transaction (attempt : String) (ν : Type) where
  collectorPn : PyObj
  sessionId : PyObj
  route : CallbackRecoveryRoute
  portNumber : Except PyError Int
  permanentOwnerId : PyObj
  ownerCertifier : Option (String → World ν → ν × Except PyError (Option OwnerCertification))
  managementEndpoint : PyObj
  onManagementConfirmed : ConfirmationCallback
  token : String
  surroundings : Surroundings attempt ν
  opening : Suspension attempt ν
  probeClosing : Suspension attempt ν
  channelClosing : Suspension attempt ν
  token_trimmed : strip ("callback_recovery:" ++ token) = "callback_recovery:" ++ token

structure Scene (ν : Type) where
  world : World ν
  ledger : Ledger

section
variable {attempt : String} {ν ε α : Type}

def World.ask (w : World ν) (operation : Registry → SessionRegistry.Outcome α) :
    World ν × Except PyError α :=
  let outcome := operation w.registry
  ({ w with registry := outcome.registry, calls := w.calls ++ [(w.registry, outcome.registry)] },
    outcome.result)

def sessionState : SessionRegistry.SessionState → PyObj := fun state => .str state.text

/-- `registry_sessions_projection`, for one session. The raw port says nothing new: the
    registry's own port is already its number. -/
def projected (session : CallbackSession) : SessionEntry where
  sessionId := .str session.sessionId
  collectorPn := .str session.collectorPn
  state := sessionState session.state
  hasStrongIdentity := .bool session.hasStrongIdentity
  collectorIdentitySource := .str session.identitySource
  listenerPort := .int session.listenerPort
  raw := some session.raw

namespace Transaction
variable (t : Transaction attempt ν)

def permanentMode : Bool := t.permanentOwnerId.truthy && t.ownerCertifier.isSome

def owner : String :=
  if t.permanentMode then strip t.permanentOwnerId.render else "callback_recovery:" ++ t.token

def projection (w : World ν) : Except PyError (List SessionEntry) :=
  (w.registry.normalizedSessions (t.surroundings.inventory w.rest)).map (·.map projected)

def promoteHook (fullPn : String) : Hook (World ν) Unit := fun w =>
  let call := w.ask fun registry => registry.promoteClaimToFullPn (.str t.owner) (.str fullPn)
  (call.1, call.2.map fun _ => ())

def retargetHook (sessionId : String) : Hook (World ν) Bool := fun w =>
  if w.registry.claimedSessionId t.owner = sessionId then (w, .ok true)
  else
    let call := w.ask fun registry =>
      registry.retargetClaimToReconnectedSession (t.surroundings.inventory w.rest) (.str t.owner)
        (.str sessionId)
    match call.2 with
    | .ok granted => (call.1, .ok granted)
    | .error error => (call.1, if error.kind = .valueError then .ok false else .error error)

def prepareHook (fullPn : String) : Hook (World ν) PyObj := fun w =>
  let call := w.ask fun registry => registry.prepareHandoff (.str t.owner) (.str fullPn)
  match call.2 with
  | .ok granted => (call.1, .ok (.str (if granted then t.owner else "")))
  | .error error => (call.1, if error.kind = .valueError then .ok (.str "") else .error error)

def certifierHook (certify : String → World ν → ν × Except PyError (Option OwnerCertification))
    (fullPn : String) : Hook (World ν) (Option OwnerCertification) := fun w =>
  ({ w with rest := (certify fullPn w).1 }, (certify fullPn w).2)

def ownershipCommit : OwnershipCommit (World ν) :=
  match t.permanentMode, t.ownerCertifier with
  | true, some certify => .ownerCertifier (certifierHook certify)
  | _, _ => .prepareHandoff t.prepareHook

variable (others : ν → List (OtherCall t.owner))

def resumed (w : World ν) (rest : ν) : World ν :=
  { w with rest := rest, registry := interleave (others rest) w.registry }

def answer (hook : World ν → Reply attempt ν ε α) (w : World ν) :
    Awaited attempt (World ν) ε α where
  host := t.resumed others w (hook w).rest
  meanwhile := (hook w).meanwhile
  ending := (hook w).ending

def channel : RestartChannel attempt (World ν) where
  observedWire := some t.surroundings.observedWire
  probeIdentity := some (t.answer others t.surroundings.probeIdentity)
  sendRestart := t.answer others t.surroundings.sendRestart
  close := t.answer others t.surroundings.closeChannel

def silentProbe : SilentProbe attempt (World ν) where
  available := t.surroundings.probeAvailable
  snapshotSilentSessionIds := t.surroundings.silentIds
  identifyExactSession := fun sessionId protocol =>
    t.answer others (t.surroundings.identifySilent sessionId protocol)

def engine : Engine attempt (World ν) where
  collectorPn := t.collectorPn
  sessionId := t.sessionId
  restartChannel := t.channel others
  sessionsSource := t.projection
  clock := t.surroundings.clock
  callbackRoute := some t.route
  triggerSender := fun route w =>
    { t.answer others (t.surroundings.sendTrigger route) w with
      ownSends := t.surroundings.ownSends route w }
  callbackTriggerGeneration := fun _ => .ok 0
  promoteClaim := some t.promoteHook
  retargetClaim := some t.retargetHook
  ownershipCommit := t.ownershipCommit
  probeReconnectedIdentity := some fun _ => t.answer others t.surroundings.probeIdentity
  silentSessionProbe := some (t.silentProbe others)
  expectedInboundListenerPort := 0
  pollsLeft := t.surroundings.pollsLeft
  sleep := t.answer others t.surroundings.sleep
  triggersDrained := t.answer others t.surroundings.triggersDrained
  inhibitor := t.surroundings.inhibitor
  attempt_trimmed := t.surroundings.attempt_trimmed

def argumentRefusal : Option PyError :=
  match t.managementEndpoint with
  | .str endpoint =>
    if endpoint ≠ strip endpoint then
      some (valueError "callback_recovery_management_endpoint_invalid")
    else if t.onManagementConfirmed = .notCallable then
      some ⟨.typeError, "callback_recovery_confirmation_callback_invalid"⟩
    else if endpoint = "" ∧ t.onManagementConfirmed ≠ .absent then
      some (valueError "callback_recovery_confirmation_without_endpoint")
    else none
  | _ => some (valueError "callback_recovery_management_endpoint_invalid")

def exactText : PyObj → Bool
  | .str text => requiredToken text
  | _ => false

def channelRefusal : Option PyError :=
  match t.portNumber with
  | .error error => some error
  | .ok _ =>
    if t.managementEndpoint.truthy ∧ ¬ exactText t.sessionId then
      some (valueError "managed_session_id_invalid")
    else none

def claimSession (scene : Scene ν) : World ν × Except PyError Unit :=
  scene.world.ask fun registry =>
    registry.claimSession (t.surroundings.inventory scene.world.rest) (.str t.owner) t.sessionId

def suspend (suspension : Suspension attempt ν) : Run (Scene ν) PyError Unit := fun scene =>
  ({ world := t.resumed others scene.world (suspension.rest scene.world.rest)
     ledger := CallbackLedger.others scene.ledger suspension.meanwhile },
    if suspension.cancelled then .cancelled else .returned ())

def verify : Run (Scene ν) PyError RecoveryVerificationOutcome := fun scene =>
  let e := t.engine others
  let run := e.asyncVerify (e.start scene.world scene.ledger)
  (⟨run.1.host, run.1.ledger⟩, run.2)

def succeeded : Ending PyError RecoveryVerificationOutcome → Bool
  | .returned outcome => outcome.callbackVerified || outcome.inboundRecovered
  | _ => false

def release : Run (Scene ν) PyError Unit :=
  call (fun scene =>
    { scene with world := (scene.world.ask fun registry => registry.release (.str t.owner)).1 })
    (.returned ())

def cleanup (ending : Ending PyError RecoveryVerificationOutcome) : Run (Scene ν) PyError Unit := do
  t.suspend others t.probeClosing
  t.suspend others t.channelClosing
  if succeeded ending = false ∧ t.permanentMode = false then t.release else return ()

def claimed : Run (Scene ν) PyError RecoveryVerificationOutcome :=
  match t.channelRefusal with
  | some error => raise error
  | none => do
    t.suspend others t.opening
    (t.verify others).finishing (t.cleanup others)

def afterClaim : Except PyError Unit → Run (Scene ν) PyError RecoveryVerificationOutcome
  | .ok () => t.claimed others
  | .error error =>
    if error.kind = .valueError then
      pure (RecoveryVerificationOutcome.failed t.collectorPn.cleanText .sessionClaimed
        [.observedSession])
    else raise error

def asyncRunCallbackRecoveryTransaction : Run (Scene ν) PyError RecoveryVerificationOutcome :=
  match t.argumentRefusal with
  | some error => raise error
  | none => do
    let answer ← observe t.claimSession
    call (fun scene => { scene with world := answer.1 }) (.returned ())
    t.afterClaim others answer.2

end Transaction
end
end RecoveryVerification
