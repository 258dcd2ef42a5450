import EybondLocal.RecoveryContract.Updates

/-!
The typed data of one controlled-reset recovery verification
(`connection/recovery/verification_models.py`): its states and failures, the callback route
under proof and the outcome, whose constructor is the trust boundary of every consumer.
-/
namespace RecoveryVerification
open StripText PythonObject CollectorIdentity RecoveryContract

inductive VerificationState where
  | observedSession
  | waitingForStrongIdentity
  | restartRequested
  | waitingForDisconnect
  | waitingForInboundReconnect
  | inboundVerified
  | inboundNotVerified
  | inboundRecovered
  | callbackTriggerRequested
  | waitingForCallbackSession
  | callbackVerified
  deriving DecidableEq, Repr

inductive Failure where
  | strongIdentityTimeout
  | restartNotSupported
  | restartNotConfirmed
  | disconnectNotObserved
  | reconnectTimeout
  | udpTriggerObserved
  | sessionUnavailable
  | sessionClaimed
  | causalityBusy
  | reconnectedSessionUntrusted
  | inboundProofInvalid
  | triggerNotSent
  | callbackTimeout
  | callbackInterference
  | routeInvalid
  | callbackProofInvalid
  | ownershipUnavailable
  | silentSessionAmbiguous
  | recoveryIdentityMismatch
  | silentProbeFailed
  | silentProbeUnavailable
  deriving DecidableEq, Repr

def Failure.text : Failure → String
  | strongIdentityTimeout => "strong_identity_timeout"
  | restartNotSupported => "restart_not_supported"
  | restartNotConfirmed => "restart_not_confirmed"
  | disconnectNotObserved => "disconnect_not_observed"
  | reconnectTimeout => "inbound_reconnect_timeout"
  | udpTriggerObserved => "udp_trigger_during_verification"
  | sessionUnavailable => "collector_session_unavailable"
  | sessionClaimed => "session_claimed_by_other_owner"
  | causalityBusy => "verification_causality_busy"
  | reconnectedSessionUntrusted => "reconnected_session_untrusted"
  | inboundProofInvalid => "inbound_proof_invalid"
  | triggerNotSent => "callback_trigger_not_sent"
  | callbackTimeout => "callback_recovery_timeout"
  | callbackInterference => "callback_trigger_interference"
  | routeInvalid => "callback_route_invalid"
  | callbackProofInvalid => "callback_proof_invalid"
  | ownershipUnavailable => "recovery_ownership_unavailable"
  | silentSessionAmbiguous => "recovery_silent_session_ambiguous"
  | recoveryIdentityMismatch => "recovery_identity_mismatch"
  | silentProbeFailed => "recovery_silent_probe_failed"
  | silentProbeUnavailable => "recovery_silent_probe_unavailable"

/-- The route as the caller gave it; nothing is checked before `invalid_reason`. -/
structure CallbackRecoveryRoute where
  bindIp : PyObj
  triggerTargetIp : PyObj
  triggerUdpPort : PyObj
  advertisedHaHost : PyObj
  advertisedHaPort : PyObj
  listenerPort : PyObj

def routeHost : PyObj → Bool
  | .str s => strip s != "" && s == strip s
  | _ => false

def routePort (value : PyObj) : Bool :=
  match portNumber value with
  | some port => 0 < port && port < 65536
  | none => false

def routeFieldInvalid (label : String) : String := "route_field_invalid:" ++ label

namespace CallbackRecoveryRoute

def invalidReason (route : CallbackRecoveryRoute) : String :=
  if ¬ routeHost route.bindIp then routeFieldInvalid "bind_ip"
  else if ¬ routeHost route.triggerTargetIp then routeFieldInvalid "trigger_target_ip"
  else if ¬ routeHost route.advertisedHaHost then routeFieldInvalid "advertised_ha_host"
  else if ¬ routePort route.triggerUdpPort then routeFieldInvalid "trigger_udp_port"
  else if ¬ routePort route.advertisedHaPort then routeFieldInvalid "advertised_ha_port"
  else if ¬ routePort route.listenerPort then routeFieldInvalid "listener_port"
  else ""

def triggerTarget (route : CallbackRecoveryRoute) : String :=
  route.triggerTargetIp.render ++ ":" ++ route.triggerUdpPort.render

def advertisedHaEndpoint (route : CallbackRecoveryRoute) : String :=
  route.advertisedHaHost.render ++ ":" ++ route.advertisedHaPort.render

end CallbackRecoveryRoute

inductive OwnerCertification where
  | issued (ownerId sessionId collectorPn : String)
  | other
  deriving DecidableEq, Repr

def OwnerCertification.isIssued : OwnerCertification → Bool
  | .issued _ _ _ => true
  | .other => false

def requiredToken (value : String) : Bool := value != "" && value == strip value

def contractRefusal (pn : String) (identitySource updatedAt : PyObj)
    (add : Contract → PyObj → Except UpdateError Contract) : Option PyError :=
  match emptyForPn (.str pn) identitySource (.str "") with
  | .error error => some (valueError error.code)
  | .ok contract =>
    match add contract updatedAt with
    | .error error => some (valueError error.text)
    | .ok _ => none

def inboundRefusal (pn : String) (proof : InboundRecoveryProof) : Option PyError :=
  contractRefusal pn proof.identitySource proof.verifiedAt fun contract updatedAt =>
    contract.withInboundProof proof updatedAt

def callbackRefusal (pn : String) (proof : CallbackRecoveryProof) : Option PyError :=
  contractRefusal pn proof.identitySource proof.verifiedAt fun contract updatedAt =>
    contract.withCallbackProof proof updatedAt

structure OutcomeFields where
  status : VerificationState
  failureReason : String := ""
  collectorPn : String := ""
  newSessionId : String := ""
  inboundProof : Option InboundRecoveryProof := none
  callbackProof : Option CallbackRecoveryProof := none
  handoffOwner : String := ""
  ownerCertification : Option OwnerCertification := none
  transitions : List VerificationState := []

namespace OutcomeFields

def ownershipRefusal (fields : OutcomeFields) (required : Bool) : Option PyError :=
  let hasHandoff := requiredToken fields.handoffOwner
  let hasCertification := fields.ownerCertification.isSome
  if fields.ownerCertification.any (!·.isIssued) then
    some ⟨.typeError, "owner_certification_type_invalid"⟩
  else if required then
    if hasHandoff ∧ hasCertification then some (valueError "recovery_outcome_two_ownership_modes")
    else if ¬ hasHandoff ∧ ¬ hasCertification then
      some (valueError "recovery_outcome_requires_ownership")
    else none
  else if hasHandoff then some (valueError "handoff_owner_requires_callback_transaction")
  else if hasCertification then
    some (valueError "owner_certification_requires_callback_transaction")
  else none

/-- `_validate_success` of a proof that is there, given its PN and what the contract says. -/
def successRefusal (fields : OutcomeFields) (proofPn : PyObj) (stored : Option PyError)
    (ownershipRequired : Bool) : Option PyError :=
  if ¬ requiredToken fields.collectorPn then
    some (valueError "recovery_outcome_requires_normalized_pn")
  else if ¬ requiredToken fields.newSessionId then
    some (valueError "recovery_outcome_requires_new_session_id")
  else
    match fields.ownershipRefusal ownershipRequired with
    | some error => some error
    | none =>
      if fields.failureReason ≠ "" then some (valueError "success_outcome_carries_failure_reason")
      else if ¬ pnIsSameIdentity fields.collectorPn (normalizePn proofPn) then
        some (valueError "recovery_outcome_proof_identity_mismatch")
      else stored

def proofTypeInvalid : PyError := ⟨.typeError, "recovery_outcome_proof_type_invalid"⟩

def postInit (fields : OutcomeFields) : Option PyError :=
  if fields.inboundProof.isSome ∧ fields.callbackProof.isSome then
    some (valueError "recovery_outcome_carries_two_proofs")
  else
    match fields.status with
    | .callbackVerified =>
      match fields.callbackProof with
      | none => some proofTypeInvalid
      | some proof =>
        fields.successRefusal proof.collectorPn (callbackRefusal fields.collectorPn proof) true
    | .inboundRecovered =>
      match fields.inboundProof with
      | none => some proofTypeInvalid
      | some proof =>
        fields.successRefusal proof.collectorPn (inboundRefusal fields.collectorPn proof) true
    | .inboundVerified =>
      match fields.inboundProof with
      | none => some proofTypeInvalid
      | some proof =>
        fields.successRefusal proof.collectorPn (inboundRefusal fields.collectorPn proof) false
    | _ =>
      if fields.inboundProof.isSome ∨ fields.callbackProof.isSome then
        some (valueError "proof_requires_success_status")
      else if fields.handoffOwner ≠ "" then
        some (valueError "handoff_owner_requires_success_status")
      else if fields.ownerCertification.isSome then
        some (valueError "owner_certification_requires_success_status")
      else none

end OutcomeFields

/-- An outcome exists only with fields the constructor accepts. -/
structure RecoveryVerificationOutcome where
  fields : OutcomeFields
  accepted : fields.postInit = none

namespace RecoveryVerificationOutcome

def construct (fields : OutcomeFields) : Except PyError RecoveryVerificationOutcome :=
  match check : fields.postInit with
  | some error => .error error
  | none => .ok ⟨fields, check⟩

def inboundRecovered (outcome : RecoveryVerificationOutcome) : Bool :=
  (outcome.fields.status == .inboundRecovered || outcome.fields.status == .inboundVerified) &&
    outcome.fields.inboundProof.isSome

def callbackVerified (outcome : RecoveryVerificationOutcome) : Bool :=
  outcome.fields.status == .callbackVerified && outcome.fields.callbackProof.isSome

def failed (pn : String) (reason : Failure) (before : List VerificationState) :
    RecoveryVerificationOutcome where
  fields :=
    { status := .inboundNotVerified
      failureReason := reason.text
      collectorPn := pn
      transitions := before ++ [.inboundNotVerified] }
  accepted := rfl

end RecoveryVerificationOutcome
end RecoveryVerification
