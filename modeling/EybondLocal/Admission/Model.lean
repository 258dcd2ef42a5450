import EybondLocal.CallbackIdentity.Transaction
import EybondLocal.RecoveryVerification.Terminal
import EybondLocal.SessionRegistry.Frames

/-!
The collector admission transaction (`connection/admission_transaction.py`): inbound
verification, and after its failure the callback identity, the callback recovery and the
terminal handoff, all with one owner slot. A step is what runs between two awaits. The
identity and recovery authorities and the inbound verifier are the environment's: they make
registry calls for the owner they work for, and return or raise at some point.
-/
namespace SessionRegistry.Registry
open PythonObject CollectorIdentity OrderedDict

def preparedHandoffIdentity (reg : Registry) (attemptOwner candidatePn : PyObj) : String :=
  let owner := attemptOwner.cleanText
  let pn := normalizePn candidatePn
  if owner = "" ∨ pn = "" then ""
  else
    match reg.claims.get? owner with
    | none => ""
    | some claim =>
      if claim.handoffPending = false ∨ claim.sessionId = "" ∨ claim.collectorPn = "" ∨
          pnIsSameIdentity claim.collectorPn pn = false then ""
      else preferFullPn claim.collectorPn pn

end SessionRegistry.Registry

namespace Admission
open StripText PythonObject CollectorIdentity OrderedDict SessionRegistry RecoveryContract
open RecoveryVerification (RecoveryVerificationOutcome RecoveryTerminalInput)
open CallbackIdentity (callbackOnDemand)

inductive Phase where
  | ready
  | running
  | verified
  | failed
  | handedOff
  | closed
  | callbackReady
  | identityRunning
  | identityCertified
  | recoveryRunning
  | recoveryHeld
  | recoveryConsumed
  | recoveryAdopted
  deriving DecidableEq, Repr

def Phase.callbackResettable : Phase → Bool
  | .callbackReady | .identityCertified | .recoveryHeld | .recoveryConsumed => true
  | _ => false

def Phase.isRunning : Phase → Bool
  | .running | .identityRunning | .recoveryRunning => true
  | _ => false

inductive TerminalMode where
  | none
  | inbound
  | identity
  | recoveryOwner
  deriving DecidableEq, Repr

structure InboundRecoveryOutcome where
  statusVerified : Bool := false
  collectorPn : String := ""
  proof : Option InboundRecoveryProof := none

def InboundRecoveryOutcome.inboundVerified (outcome : InboundRecoveryOutcome) : Bool :=
  outcome.statusVerified && outcome.proof.isSome

def fromInboundOutcome (outcome : InboundRecoveryOutcome) : Except PyError RecoveryTerminalInput :=
  match outcome.statusVerified, outcome.proof with
  | true, some proof =>
    RecoveryTerminalInput.construct
      { collectorPn := preferFullPn outcome.collectorPn (normalizePn proof.collectorPn)
        inboundProof := some proof }
  | _, _ => .error (valueError "inbound_recovery_outcome_not_verified")

structure Transaction where
  registry : Registry
  /-- `request.callback_route` is a route. -/
  hasRoute : Bool
  expectedPn : String
  oldSessionId : String
  /-- `request.observed_session.session_id`. -/
  observedSessionId : String := oldSessionId
  phase : Phase := .ready
  closeRequested : Bool := false
  outcome : Option InboundRecoveryOutcome := none
  /-- `_registry` is set; the owner slot is `_registry` with `_owner`. -/
  bound : Bool := false
  owner : String := ""
  certifiedPn : String := ""
  certifiedSessionId : String := ""
  recoveryOutcome : Option RecoveryVerificationOutcome := none
  produced : Option RecoveryVerificationOutcome := none
  callbackTerminalInput : RecoveryTerminalInput := .none
  terminalMode : TerminalMode := .none
  handedOff : Bool := false
  handoffPn : String := ""
  /-- The owner the running authority claims under. -/
  active : String := ""
  /-- Every owner this transaction or one of its authorities has used. -/
  tokens : List String := []

inductive HandoffStatus where
  | ok
  | alreadyConfigured
  | notPrepared
  deriving DecidableEq, Repr

structure TerminalDecision where
  owns : Bool := false
  abortReason : String := ""
  deriving DecidableEq, Repr

namespace Transaction

def isVerified (s : Transaction) : Bool :=
  (s.outcome.map InboundRecoveryOutcome.inboundVerified).getD false

def holdsClaim (s : Transaction) : Bool := s.bound && s.owner ≠ ""

def terminalInput (s : Transaction) : Except PyError RecoveryTerminalInput :=
  if s.callbackTerminalInput.fields.preparedHandoffOwner ≠ "" then .ok s.callbackTerminalInput
  else
    match s.isVerified, s.outcome with
    | true, some outcome => fromInboundOutcome outcome
    | _, _ => .ok .none

def releaseOwner (s : Transaction) : Transaction :=
  { s with
    registry := if s.holdsClaim then (s.registry.release (.str s.owner)).registry else s.registry
    bound := false
    owner := "" }

def releaseProducedOwner (s : Transaction) (provided : Bool)
    (outcome : RecoveryVerificationOutcome) : Registry :=
  let owner := strip outcome.fields.handoffOwner
  if owner = "" ∨ owner = s.owner ∨ provided = false then s.registry
  else (s.registry.release (.str owner)).registry

def releaseCallbackRecoveryCapability (s : Transaction) (provided : Bool) : Transaction :=
  { s with
    registry :=
      match s.recoveryOutcome.or s.produced with
      | none => s.registry
      | some outcome => s.releaseProducedOwner provided outcome
    recoveryOutcome := none
    produced := none }

def resetCallbackAttempt (s : Transaction) (provided : Bool) : Transaction :=
  { (s.releaseCallbackRecoveryCapability provided).releaseOwner with
    certifiedPn := ""
    certifiedSessionId := ""
    callbackTerminalInput := .none
    terminalMode := .none }

def close (s : Transaction) : Transaction := { s.releaseOwner with phase := .closed }

def release (s : Transaction) (provided : Bool) : Transaction :=
  if s.phase = .handedOff then s
  else if s.phase.isRunning then { s with closeRequested := true }
  else { (s.releaseCallbackRecoveryCapability provided).close with closeRequested := true }

def backTo (s : Transaction) (phase : Phase) : Phase := if s.closeRequested then .closed else phase

/-- `current` is the session `current_session_for_pn` answers with, if any. -/
def runBegins (s : Transaction) (provided : Bool) (token : String) (current : Option String)
    (inventory : List RawSession) (lookupFails : Bool) : Transaction :=
  if s.phase ≠ .ready then s
  else if provided = false ∨ lookupFails then
    { s with phase := .failed, outcome := some { collectorPn := s.expectedPn } }
  else
    let sessionId := current.getD s.observedSessionId
    match s.registry.claimSession inventory (.str token) (.str sessionId) with
    | ⟨.error _, registry⟩ =>
      { s with
        registry := (registry.release (.str token)).registry
        oldSessionId := current.getD s.oldSessionId
        phase := .failed
        outcome := some { collectorPn := s.expectedPn }
        tokens := token :: s.tokens }
    | ⟨.ok _, registry⟩ =>
      { s with
        registry := registry
        oldSessionId := current.getD s.oldSessionId
        phase := .running
        bound := true
        owner := token
        active := token
        tokens := token :: s.tokens }

def adoptEnrichedPn (s : Transaction) : Transaction :=
  let enriched := strip ((s.outcome.map InboundRecoveryOutcome.collectorPn).getD "")
  if enriched ≠ "" then { s with expectedPn := enriched } else s

/-- The end of `async_run`: what the verifier returned, if it did, and whether a cancellation
    came before the channels were closed. -/
def runEnds (s : Transaction) (outcome : Option InboundRecoveryOutcome) (cancelled : Bool) :
    Transaction :=
  if s.phase ≠ .running then s
  else
    let ended := { s with outcome := outcome.or s.outcome }.adoptEnrichedPn
    if cancelled ∨ s.closeRequested then
      { ended.releaseOwner with outcome := none, phase := s.backTo .failed }
    else if ended.isVerified then { ended with phase := .verified }
    else { ended.releaseOwner with phase := .failed }

def resetForRetry (s : Transaction) : Transaction :=
  if (s.phase ≠ .ready ∧ s.phase ≠ .failed) ∨ s.closeRequested then s
  else { s.releaseOwner with outcome := none, phase := .ready }

/-- The registry half of `prepare_handoff` and `_prepare_callback_identity_handoff`, which
    differ in what they ask of the certified PN and in how they name its refusal. -/
def commitHandoff (s : Transaction) (pn : String) (accepts : String → Bool)
    (uncertified : HandoffStatus) : Transaction × HandoffStatus :=
  match s.registry.prepareHandoff (.str s.owner) (.str pn) with
  | ⟨.error _, registry⟩ => ({ s with registry := registry }.close, .alreadyConfigured)
  | ⟨.ok false, registry⟩ => ({ s with registry := registry }.close, .notPrepared)
  | ⟨.ok true, registry⟩ =>
    if accepts (registry.preparedHandoffIdentity (.str s.owner) (.str pn)) then
      ({ s with
          registry := registry
          handedOff := true
          handoffPn := pn
          phase := .handedOff }, .ok)
    else ({ s with registry := registry }.close, uncertified)

def prepareHandoff (s : Transaction) (collectorPn : String) :
    Transaction × Except PyError HandoffStatus :=
  let pn := strip collectorPn
  if s.phase = .handedOff then
    if s.handoffPn ≠ "" ∧ pn ≠ "" ∧ pnIsSameIdentity pn s.handoffPn = true then (s, .ok .ok)
    else (s, .ok .notPrepared)
  else if s.phase ≠ .verified ∨ s.isVerified = false then (s, .ok .notPrepared)
  else
    match s.terminalInput with
    | .error error => (s, .error error)
    | .ok terminal =>
      match terminal.fields.inboundProof with
      | none => (s, .ok .notPrepared)
      | some proof =>
        if s.holdsClaim = false ∨ pn = "" ∨
            pnIsSameIdentity pn (normalizePn proof.collectorPn) = false ∨
            pnIsSameIdentity pn s.expectedPn = false then (s, .ok .notPrepared)
        else
          let committed := s.commitHandoff pn (· ≠ "") .alreadyConfigured
          (committed.1, .ok committed.2)

def rollbackHandoff (s : Transaction) : Transaction :=
  if s.phase ≠ .handedOff then s else { s.close with handedOff := false, handoffPn := "" }

def beginCallbackContinuation (s : Transaction) (provided : Bool) : Transaction :=
  if s.phase ≠ .failed ∨ s.closeRequested ∨ s.holdsClaim then s
  else
    { ({ s with outcome := none } : Transaction).resetCallbackAttempt provided with
      phase := .callbackReady }

def beginManualCallbackContinuation (s : Transaction) (provided : Bool) : Transaction :=
  if s.phase = .failed then s.beginCallbackContinuation provided
  else if (s.phase = .ready ∧ s.hasRoute = false) ∨
      (s.phase ≠ .ready ∧ s.phase.callbackResettable = false) ∨ s.closeRequested then s
  else { s.resetCallbackAttempt provided with phase := .callbackReady }

def beginObservedCallbackContinuation (s : Transaction) (provided : Bool) : Transaction :=
  if s.phase ≠ .ready ∨ s.closeRequested ∨ s.hasRoute = false then s
  else { s.resetCallbackAttempt provided with oldSessionId := "", phase := .callbackReady }

/-- The checks of `async_run_identity` on its request. -/
def requestMatches (s : Transaction) (request : CallbackIdentity.Request) : Bool :=
  request.strategy = callbackOnDemand && strip request.expectedPn = request.expectedPn &&
    strip request.oldSessionId = request.oldSessionId &&
    (request.expectedPn = s.expectedPn ||
      (request.expectedPn ≠ "" && s.expectedPn ≠ "" &&
        pnIsSameIdentity request.expectedPn s.expectedPn)) &&
    request.oldSessionId = s.oldSessionId

def identityBegins (s : Transaction) (provided : Bool) (request : CallbackIdentity.Request)
    (token : String) : Transaction :=
  if s.requestMatches request = false ∨ s.phase.callbackResettable = false ∨ s.closeRequested then s
  else
    { s.resetCallbackAttempt provided with
      phase := .identityRunning
      active := token
      tokens := token :: s.tokens }

def releaseIdentityOutcomeOwner (s : Transaction) (provided : Bool)
    (outcome : CallbackIdentity.Outcome) : Transaction :=
  let owner := outcome.handoffOwner
  let certified := s.registry.preparedHandoffIdentity (.str owner) (.str outcome.collectorPn)
  if owner = "" ∨ owner ≠ strip owner ∨ outcome.collectorPn = "" ∨
      outcome.collectorPn ≠ strip outcome.collectorPn ∨ outcome.sessionId = "" ∨
      outcome.sessionId ≠ strip outcome.sessionId ∨ provided = false then s
  else if certified ≠ "" ∧ pnIsSameIdentity certified outcome.collectorPn = true ∧
      s.registry.claimedSessionId (strip owner) = outcome.sessionId then
    { s with registry := (s.registry.release (.str owner)).registry }
  else s

/-- The end of `async_run_identity`; `none` stands for a raise or a cancellation. A certified
    outcome with a text that is not trimmed makes the coroutine raise where it stands. -/
def identityEnds (s : Transaction) (provided : Bool) (outcome : Option CallbackIdentity.Outcome) :
    Transaction :=
  if s.phase ≠ .identityRunning then s
  else
    match outcome with
    | none => { s.resetCallbackAttempt provided with phase := s.backTo .callbackReady }
    | some outcome =>
      if s.closeRequested then
        { (s.releaseIdentityOutcomeOwner provided outcome).resetCallbackAttempt provided with
          phase := .closed }
      else if outcome.identityCertified = false then { s with phase := .callbackReady }
      else if outcome.collectorPn ≠ strip outcome.collectorPn ∨
          outcome.sessionId ≠ strip outcome.sessionId ∨
          outcome.handoffOwner ≠ strip outcome.handoffOwner then s
      else if outcome.sessionId = "" ∨ (s.expectedPn ≠ "" ∧
          pnIsSameIdentity outcome.collectorPn s.expectedPn = false) then
        { (s.releaseIdentityOutcomeOwner provided outcome).resetCallbackAttempt provided with
          phase := .callbackReady }
      else
        { s with
          bound := provided
          owner := outcome.handoffOwner
          certifiedPn := outcome.collectorPn
          certifiedSessionId := outcome.sessionId
          expectedPn := outcome.collectorPn
          phase := .identityCertified }

def recoveryBegins (s : Transaction) (provided : Bool) (token : String) : Transaction :=
  if s.phase ≠ .identityCertified ∨ s.closeRequested ∨ strip s.certifiedPn = "" ∨
      strip s.certifiedSessionId = "" ∨ provided = false then s
  else
    { s.releaseOwner with
      phase := .recoveryRunning
      active := token
      tokens := token :: s.tokens }

def recoveryEnds (s : Transaction) (provided : Bool)
    (outcome : Option RecoveryVerificationOutcome) : Transaction :=
  if s.phase ≠ .recoveryRunning then s
  else
    match outcome with
    | none => { s.resetCallbackAttempt provided with phase := s.backTo .callbackReady }
    | some outcome =>
      let held : Transaction := { s with recoveryOutcome := some outcome, produced := some outcome }
      if s.closeRequested then
        { held.releaseCallbackRecoveryCapability provided with phase := .closed }
      else { held with phase := .recoveryHeld }

def consumeRecoveryOutcome (s : Transaction) : Transaction :=
  if s.phase ≠ .recoveryHeld then s
  else if s.recoveryOutcome.isSome then
    { s with recoveryOutcome := none, phase := .recoveryConsumed }
  else s

/-- `adopt_recovery` of the outcome the transaction produced; any other object raises. -/
def adoptRecovery (s : Transaction) (provided : Bool) : Transaction :=
  match s.produced with
  | none => s
  | some outcome =>
    if s.phase ≠ .recoveryConsumed then s
    else
      match RecoveryTerminalInput.fromCallbackTransaction outcome with
      | .error _ => s
      | .ok terminal =>
        let owner := terminal.fields.preparedHandoffOwner
        if provided = false ∨ s.registry.preparedHandoffIdentity (.str owner)
            (.str terminal.fields.collectorPn) = "" then s
        else
          { s with
            bound := true
            owner := owner
            callbackTerminalInput := terminal
            terminalMode := .recoveryOwner
            phase := .recoveryAdopted }

def afterDrop (s : Transaction) : Phase :=
  if s.phase = .recoveryHeld ∨ s.phase = .recoveryConsumed then s.backTo .callbackReady
  else s.phase

def releaseUnadoptedRecovery (s : Transaction) (provided : Bool) : Transaction :=
  { s.releaseCallbackRecoveryCapability provided with phase := s.afterDrop }

def releaseExactRecoveryOwner (s : Transaction) (provided : Bool) : Transaction :=
  match s.produced with
  | none => s
  | some outcome =>
    { s with
      registry := s.releaseProducedOwner provided outcome
      recoveryOutcome := none
      produced := none
      phase := s.afterDrop }

def recoveryUnavailable : TerminalDecision := { abortReason := "recovery_ownership_unavailable" }

def prepareCallbackIdentityHandoff (s : Transaction) (collectorPn : String) :
    Transaction × HandoffStatus :=
  if collectorPn ≠ strip collectorPn ∨ collectorPn = "" ∨ s.phase ≠ .identityCertified ∨
      s.holdsClaim = false ∨ s.certifiedPn = "" ∨
      pnIsSameIdentity collectorPn s.certifiedPn = false then (s, .notPrepared)
  else
    s.commitHandoff collectorPn
      (fun certified => certified ≠ "" && pnIsSameIdentity certified collectorPn) .notPrepared

def prepareTerminal (s : Transaction) (collectorPn : String) (recovery : RecoveryTerminalInput)
    (adopted : Bool) : Transaction × Except PyError TerminalDecision :=
  let owner := recovery.fields.preparedHandoffOwner
  if owner ≠ "" then
    let certified := s.registry.preparedHandoffIdentity (.str owner) (.str recovery.fields.collectorPn)
    if s.phase ≠ .recoveryAdopted ∨ adopted = false ∨ s.bound = false ∨ owner ≠ s.owner then
      (s, .ok recoveryUnavailable)
    else if certified = "" ∨ pnIsSameIdentity certified collectorPn = false then
      (s, .ok recoveryUnavailable)
    else ({ s with terminalMode := .recoveryOwner }, .ok { owns := true })
  else if s.phase = .identityCertified ∧ s.holdsClaim = true then
    match s.prepareCallbackIdentityHandoff collectorPn with
    | (next, .alreadyConfigured) => (next, .ok { abortReason := "already_configured" })
    | (next, .notPrepared) => (next, .ok recoveryUnavailable)
    | (next, .ok) => ({ next with terminalMode := .identity }, .ok { owns := true })
  else if s.phase = .verified ∧ s.holdsClaim = true then
    match s.prepareHandoff collectorPn with
    | (next, .error error) => (next, .error error)
    | (next, .ok .alreadyConfigured) => (next, .ok { abortReason := "already_configured" })
    | (next, .ok .notPrepared) =>
      (next, .ok (if recovery.hasProof then recoveryUnavailable else {}))
    | (next, .ok .ok) => ({ next with terminalMode := .inbound }, .ok { owns := true })
  else (s, .ok (if recovery.hasProof then recoveryUnavailable else {}))

def commitTerminal (s : Transaction) : Transaction :=
  if s.terminalMode = .recoveryOwner then
    { s with
      handedOff := true
      handoffPn := if s.certifiedPn ≠ "" then s.certifiedPn else s.expectedPn
      phase := .handedOff }
  else s

def rollbackTerminal (s : Transaction) : Transaction :=
  match s.terminalMode with
  | .recoveryOwner => s.close
  | .identity => { s.close with handedOff := false, handoffPn := "" }
  | .inbound => s.rollbackHandoff
  | .none => s

end Transaction

inductive Operation where
  /-- A registry call of somebody else. -/
  | others (call : Call)
  /-- A registry call the running authority makes for its owner. -/
  | authorityCall (call : Call)
  | runBegins (token : String) (current : Option String) (inventory : List RawSession)
    (lookupFails : Bool)
  | runEnds (outcome : Option InboundRecoveryOutcome) (cancelled : Bool)
  | resetForRetry
  /-- `release`, `release_terminal_owner`, and `async_close` once it has closed the channels. -/
  | release
  | prepareHandoff (collectorPn : String)
  | rollbackHandoff
  | beginCallback
  | beginManual
  | beginObserved
  | identityBegins (request : CallbackIdentity.Request) (token : String)
  | identityEnds (outcome : Option CallbackIdentity.Outcome)
  | recoveryBegins (token : String)
  | recoveryEnds (outcome : Option RecoveryVerificationOutcome)
  | consume
  | adoptRecovery
  | releaseUnadopted
  | releaseExact
  | prepareTerminal (collectorPn : String) (recovery : RecoveryTerminalInput) (adopted : Bool)
  | commitTerminal
  | rollbackTerminal

structure Event where
  operation : Operation
  provided : Bool := true

def step (s : Transaction) (event : Event) : Transaction :=
  match event.operation with
  | .others call => { s with registry := SessionRegistry.step s.registry call }
  | .authorityCall call =>
    if s.phase.isRunning then { s with registry := SessionRegistry.step s.registry call } else s
  | .runBegins token current inventory lookupFails =>
    s.runBegins event.provided token current inventory lookupFails
  | .runEnds outcome cancelled => s.runEnds outcome cancelled
  | .resetForRetry => s.resetForRetry
  | .release => s.release event.provided
  | .prepareHandoff collectorPn => (s.prepareHandoff collectorPn).1
  | .rollbackHandoff => s.rollbackHandoff
  | .beginCallback => s.beginCallbackContinuation event.provided
  | .beginManual => s.beginManualCallbackContinuation event.provided
  | .beginObserved => s.beginObservedCallbackContinuation event.provided
  | .identityBegins request token => s.identityBegins event.provided request token
  | .identityEnds outcome => s.identityEnds event.provided outcome
  | .recoveryBegins token => s.recoveryBegins event.provided token
  | .recoveryEnds outcome => s.recoveryEnds event.provided outcome
  | .consume => s.consumeRecoveryOutcome
  | .adoptRecovery => s.adoptRecovery event.provided
  | .releaseUnadopted => s.releaseUnadoptedRecovery event.provided
  | .releaseExact => s.releaseExactRecoveryOwner event.provided
  | .prepareTerminal collectorPn recovery adopted => (s.prepareTerminal collectorPn recovery adopted).1
  | .commitTerminal => s.commitTerminal
  | .rollbackTerminal => s.rollbackTerminal

def Transaction.start (registry : Registry) (hasRoute : Bool) (expectedPn oldSessionId : String) :
    Transaction where
  registry := registry
  hasRoute := hasRoute
  expectedPn := expectedPn
  oldSessionId := oldSessionId

end Admission
