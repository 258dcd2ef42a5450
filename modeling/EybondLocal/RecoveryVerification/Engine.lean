import EybondLocal.CallbackLedger.Books
import EybondLocal.Library.HookRun
import EybondLocal.RecoveryVerification.Models
import EybondLocal.SessionRegistry.Handle

/-!
The controlled-reset recovery machine (`_ControlledResetRecoveryEngine` in
`connection/recovery/verification_engine.py`), stretch by stretch. The host is any state the
injected hooks read and change, so its evolution is that of the session inventory, the
channel, the probe and the claim. An await also lets others move on the ledger, and a bounded
wait polls as often as the host's time allows. The deeds are the history of one attempt.
-/
namespace RecoveryVerification
open StripText PythonObject CollectorIdentity RecoveryContract HookRun HookRun.Run
open SessionRegistry (RawSession SessionHandle negotiateSessionAdapters)
open CallbackLedger (Ledger Foreign)

/-- One session mapping of `sessions_source`: the values its `get` returns. -/
structure SessionEntry where
  sessionId : PyObj
  collectorPn : PyObj := .none
  state : PyObj := .none
  hasStrongIdentity : PyObj := .none
  collectorIdentitySource : PyObj := .none
  listenerPort : PyObj := .none
  raw : Option RawSession := none
  rawListenerPort : PyObj := .none

namespace SessionEntry

def id (session : SessionEntry) : String := session.sessionId.cleanText
def pn (session : SessionEntry) : String := session.collectorPn.cleanText
def sessionState (session : SessionEntry) : String := lower session.state.cleanText
def isClosed (session : SessionEntry) : Bool := startsWith session.sessionState "closed"
def strong (session : SessionEntry) : Bool := session.hasStrongIdentity.truthy
def identitySource (session : SessionEntry) : String := session.collectorIdentitySource.cleanText
def untrusted (session : SessionEntry) : Bool :=
  session.sessionState == "route_identity_mismatch"

def handle (session : SessionEntry) : SessionHandle :=
  (session.raw.map negotiateSessionAdapters).getD {}

def arrivalPort (session : SessionEntry) : Int :=
  if routePort session.listenerPort then (portNumber session.listenerPort).getD 0
  else if routePort session.rawListenerPort then (portNumber session.rawListenerPort).getD 0
  else 0

end SessionEntry

structure Awaited (attempt : String) (ω ε α : Type) where
  host : ω
  meanwhile : List (Foreign attempt) := []
  ending : Ending ε α

abbrev Hook (ω α : Type) := ω → ω × Except PyError α

inductive RestartError where
  | managementUnsupported
  | sessionUnavailable
  | other (error : PyError)

structure RestartChannel (attempt : String) (ω : Type) where
  observedWire : Option (ω → Except PyError PyObj)
  probeIdentity : Option (ω → Awaited attempt ω PyError Unit)
  sendRestart : ω → Awaited attempt ω RestartError Unit
  close : ω → Awaited attempt ω PyError Unit

structure SilentProbe (attempt : String) (ω : Type) where
  available : ω → Bool
  snapshotSilentSessionIds : ω → Except PyError (List String)
  identifyExactSession : (sessionId sessionProtocol : String) → ω → Awaited attempt ω PyError PyObj

inductive OwnershipCommit (ω : Type) where
  | unavailable
  | prepareHandoff (hook : String → Hook ω PyObj)
  | ownerCertifier (hook : String → Hook ω (Option OwnerCertification))

def OwnershipCommit.isAvailable {ω : Type} : OwnershipCommit ω → Bool
  | .unavailable => false
  | _ => true

structure Sent (attempt : String) (ω : Type) extends Awaited attempt ω PyError Unit where
  ownSends : Nat

/-- The arguments of one verification under the attempt `recovery_verification:<uuid>`. -/
structure Engine (attempt : String) (ω : Type) where
  collectorPn : PyObj
  sessionId : PyObj
  restartChannel : RestartChannel attempt ω
  sessionsSource : ω → Except PyError (List SessionEntry)
  clock : ω → Except PyError PyObj
  callbackRoute : Option CallbackRecoveryRoute
  triggerSender : CallbackRecoveryRoute → ω → Sent attempt ω
  callbackTriggerGeneration : ω → Except PyError Int
  promoteClaim : Option (String → Hook ω Unit)
  retargetClaim : Option (String → Hook ω Bool)
  ownershipCommit : OwnershipCommit ω
  probeReconnectedIdentity : Option (String → ω → Awaited attempt ω PyError Unit)
  silentSessionProbe : Option (SilentProbe attempt ω)
  expectedInboundListenerPort : Nat
  /-- How many polls fit before the deadline of a wait that starts now. -/
  pollsLeft : ω → Nat
  sleep : ω → Awaited attempt ω PyError Unit
  /-- The wait of `inhibit_callback_triggers` for the sends already begun. -/
  triggersDrained : ω → Awaited attempt ω PyError Unit
  inhibitor : Nat
  attempt_trimmed : strip attempt = attempt

inductive Deed (ω : Type) where
  | leased (generation : Nat)
  | baseline (host : ω)
  | restarted
  | triggered
  | accepted (sessionId : String) (host : ω) (ledger : Ledger)
  | retargeted (sessionId : String) (granted : Bool)

structure State (ω : Type) where
  host : ω
  ledger : Ledger
  collectorPn : String
  wireAuthority : Option String := none
  pendingBaseline : List String := []
  baselineSessionIds : List String := []
  resetTargetSessionIds : List String := []
  transitions : List VerificationState := [.observedSession]
  deeds : List (Deed ω) := []

abbrev Step (ω α : Type) := Run (State ω) PyError α

inductive SilentObservation where
  | noCandidate
  | ambiguous
  | probeFailed
  | foreignIdentity
  | sameIdentity
  | unavailable
  deriving DecidableEq, Repr

def SilentObservation.failure : SilentObservation → Option Failure
  | ambiguous => some .silentSessionAmbiguous
  | probeFailed => some .silentProbeFailed
  | foreignIdentity => some .recoveryIdentityMismatch
  | unavailable => some .silentProbeUnavailable
  | noCandidate => none
  | sameIdentity => none

structure ReconnectWaitResult where
  sessionId : Option String := none
  silentFailure : Option Failure := none
  deriving DecidableEq, Repr

section Primitives
variable {attempt : String} {ω ε α : Type}

def note (deed : Deed ω) (s : State ω) : State ω := { s with deeds := s.deeds ++ [deed] }

def update (f : State ω → State ω) : Step ω Unit := call f (.returned ())

/-- An await inside `except Exception`: only a cancellation ends the caller. -/
def await (hook : ω → Awaited attempt ω ε α) : Step ω (Except ε α) := fun s =>
  let answer := hook s.host
  ({ s with host := answer.host, ledger := CallbackLedger.others s.ledger answer.meanwhile },
    match answer.ending with
    | .returned value => .returned (.ok value)
    | .raised error => .returned (.error error)
    | .cancelled => .cancelled)

def ask (hook : Hook ω α) : Step ω α := fun s =>
  ({ s with host := (hook s.host).1 },
    match (hook s.host).2 with
    | .ok value => .returned value
    | .error error => .raised error)

def onValueError (body : Step ω α) (value : α) : Step ω α :=
  body.recover fun error => if error.kind = .valueError then pure value else raise error

def enter (state : VerificationState) : Step ω Unit :=
  update fun s => { s with transitions := s.transitions ++ [state] }

def fail (reason : Failure) : Step ω RecoveryVerificationOutcome := do
  let before ← observe fun s => (s.collectorPn, s.transitions)
  enter .inboundNotVerified
  return RecoveryVerificationOutcome.failed before.1 reason before.2

/-- `_result` of a success, whose status is entered first. -/
def succeed (status : VerificationState) (fields : OutcomeFields) :
    Step ω RecoveryVerificationOutcome := do
  enter status
  let reached ← observe fun s => (s.collectorPn, s.transitions)
  match RecoveryVerificationOutcome.construct
      { fields with
        status := status
        collectorPn := reached.1
        transitions := reached.2 } with
  | .ok outcome => return outcome
  | .error error => raise error

end Primitives

namespace Engine
variable {attempt : String} {ω : Type} (e : Engine attempt ω)

def pn : String := e.collectorPn.cleanText
def session : String := e.sessionId.cleanText

def sessions (host : ω) : List SessionEntry :=
  match e.sessionsSource host with
  | .ok sessions => sessions
  | .error _ => []

def sessionEntry (host : ω) (sessionId : String) : Option SessionEntry :=
  (e.sessions host).find? fun session => session.id = sessionId

def sessionListenerPort (host : ω) (sessionId : String) : Int :=
  ((e.sessionEntry host sessionId).map SessionEntry.arrivalPort).getD 0

def sessionMatchesExpectedInboundPort (host : ω) (sessionId : String) : Bool :=
  e.expectedInboundListenerPort == 0 ||
    e.sessionListenerPort host sessionId == e.expectedInboundListenerPort

def visibleIds (host : ω) : List String :=
  e.session :: ((e.sessions host).map SessionEntry.id).filter (· ≠ "")

def targetIds (host : ω) (pn : String) : List String :=
  e.session :: ((e.sessions host).filter fun session =>
    session.id != "" && !session.isClosed && session.pn != "" &&
      pnIsSameIdentity pn session.pn).map SessionEntry.id

def silentIds (host : ω) : Except PyError (List String) :=
  match e.silentSessionProbe with
  | none => .ok []
  | some probe => probe.snapshotSilentSessionIds host

def confirms (s : State ω) (session : SessionEntry) : Bool :=
  session.id != "" && !s.baselineSessionIds.contains session.id && !session.isClosed &&
    e.sessionMatchesExpectedInboundPort s.host session.id && !session.untrusted &&
    session.strong && session.pn == s.collectorPn

def findNewInboundSession (s : State ω) : Option String :=
  ((e.sessions s.host).find? (e.confirms s)).map SessionEntry.id

def enrichable (s : State ω) (session : SessionEntry) : Bool :=
  session.id != "" && !s.baselineSessionIds.contains session.id && !session.isClosed &&
    !session.untrusted && e.sessionMatchesExpectedInboundPort s.host session.id &&
    !session.strong && session.pn != "" && pnIsSameIdentity s.collectorPn session.pn

def findNewWeakIdentityCandidate (s : State ω) : Option String :=
  ((e.sessions s.host).find? (e.enrichable s)).map SessionEntry.id

def sessionById (host : ω) (sessionId : String) : Option SessionEntry :=
  (e.sessions host).reverse.find? fun session => session.id = sessionId

def targetGone (host : ω) (sessionId : String) : Bool :=
  match e.sessionById host sessionId with
  | none => true
  | some session => session.isClosed

def newSameIdentity (s : State ω) (session : SessionEntry) : Bool :=
  session.id != "" && !s.baselineSessionIds.contains session.id &&
    (e.sessionById s.host session.id).any fun current =>
      !current.isClosed && current.pn != "" && pnIsSameIdentity s.collectorPn current.pn

def newSilent (s : State ω) (sessionId : String) : Bool :=
  !s.pendingBaseline.contains sessionId && !s.baselineSessionIds.contains sessionId

def resetActivityObserved (s : State ω) : Bool :=
  s.resetTargetSessionIds.any (e.targetGone s.host) ||
    (e.sessions s.host).any (e.newSameIdentity s) ||
    match e.silentIds s.host with
    | .ok ids => ids.any (newSilent s)
    | .error _ => false

def wireProtocols : List String := ["eybond_framed", "at_text"]

def wireProbeAuthority (pn wire session : String) : Option String :=
  if requiredToken pn ∧ requiredToken wire ∧ requiredToken session ∧ wireProtocols.contains wire
  then some wire else none

def observedWire (host : ω) : String :=
  match e.restartChannel.observedWire with
  | none => ""
  | some view =>
    match view host with
    | .ok wire => wire.cleanText
    | .error _ => ""

def captureWireAuthority : Step ω Unit :=
  update fun s =>
    { s with wireAuthority := wireProbeAuthority s.collectorPn (e.observedWire s.host) e.session }

def snapshotPendingBaseline : Step ω Unit :=
  update fun s => { s with pendingBaseline := (e.silentIds s.host).toOption.getD [] }

def captureBaseline : Step ω Unit :=
  update fun s =>
    note (.baseline s.host)
      { s with
        baselineSessionIds := e.visibleIds s.host
        resetTargetSessionIds := e.targetIds s.host s.collectorPn }

def closeChannel : Step ω Unit := do
  let _ ← await e.restartChannel.close

def pause : Step ω Unit := do
  let _ ← await e.sleep

/-- The hook is there: `async_verify` refuses a run without it. -/
def retarget (sessionId : String) : Step ω Bool :=
  match e.retargetClaim with
  | none => pure false
  | some hook => do
    let granted ← ask (hook sessionId)
    update (note (.retargeted sessionId granted))
    return granted

def safeClock (host : ω) : String :=
  match e.clock host with
  | .ok value => value.cleanText
  | .error _ => ""

def safeTriggerGeneration (host : ω) : Int :=
  match e.callbackTriggerGeneration host with
  | .ok generation => generation
  | .error _ => 0

def books (_ : Engine attempt ω) (s : State ω) : CallbackLedger.Attempt :=
  (s.ledger.attempts.get? attempt).getD {}

def silentCandidate (probe : SilentProbe attempt ω) (attempted : List String) (s : State ω) :
    Except SilentObservation String :=
  if ¬ probe.available s.host then .error .unavailable
  else
    match probe.snapshotSilentSessionIds s.host with
    | .error _ => .error .noCandidate
    | .ok ids =>
      match ids.eraseDups.filter fun id =>
          newSilent s id && id != e.session && !attempted.contains id &&
            e.sessionMatchesExpectedInboundPort s.host id with
      | [] => .error .noCandidate
      | [candidate] => .ok candidate
      | _ => .error .ambiguous

def silentAnswer (pn : String) : Except PyError PyObj → SilentObservation
  | .error _ => .probeFailed
  | .ok answer =>
    if answer.cleanText = "" then .probeFailed
    else if pnIsSameIdentity pn answer.cleanText then .sameIdentity
    else .foreignIdentity

def probeSingleSilentCandidate (attempted : List String) :
    Step ω (SilentObservation × List String) :=
  match e.silentSessionProbe with
  | none => pure (.noCandidate, attempted)
  | some probe => do
    let authority ← observe State.wireAuthority
    match authority with
    | none => pure (.noCandidate, attempted)
    | some wire => do
      let candidate ← observe (e.silentCandidate probe attempted)
      match candidate with
      | .error observation => pure (observation, attempted)
      | .ok candidate => do
        let answer ← await (probe.identifyExactSession candidate wire)
        let pn ← observe State.collectorPn
        return (silentAnswer pn answer, attempted ++ [candidate])

def enrichWeakCandidate (attempted : List String) : Step ω (List String) :=
  match e.probeReconnectedIdentity with
  | none => pure attempted
  | some probe => do
    let candidate ← observe e.findNewWeakIdentityCandidate
    match candidate with
    | none => pure attempted
    | some sessionId =>
      if attempted.contains sessionId then pure attempted
      else do
        let granted ← e.retarget sessionId
        if granted then do
          let _ ← await (probe sessionId)
          return attempted ++ [sessionId]
        else return attempted ++ [sessionId]

def waitPass (probed silentProbed : List String) (last : Option Failure) :
    Step ω (ReconnectWaitResult ⊕ List String × List String × Option Failure) := do
  let found ← observe e.findNewInboundSession
  match found with
  | some sessionId => return .inl { sessionId := some sessionId }
  | none => do
    let (observation, silentProbed') ← e.probeSingleSilentCandidate silentProbed
    if observation = .foreignIdentity then
      return .inl { silentFailure := some .recoveryIdentityMismatch }
    else do
      let probed' ← e.enrichWeakCandidate probed
      let found ← observe e.findNewInboundSession
      match found with
      | some sessionId => return .inl { sessionId := some sessionId }
      | none => return .inr (probed', silentProbed', observation.failure.or last)

def waitForNewSamePnSession (polls : Nat) : Step ω ReconnectWaitResult :=
  poll (fun (probed, silentProbed, last) => e.waitPass probed silentProbed last) e.pause
    (fun (_, _, last) => { silentFailure := last }) polls ([], [], none)

end Engine
end RecoveryVerification
