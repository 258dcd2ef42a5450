import EybondLocal.RecoveryVerification.Models

/-!
The carrier of one recovery outcome into a terminal (`connection/recovery/terminal.py`).
-/
namespace RecoveryVerification
open StripText PythonObject CollectorIdentity RecoveryContract

structure TerminalFields where
  collectorPn : String := ""
  inboundProof : Option InboundRecoveryProof := none
  callbackProof : Option CallbackRecoveryProof := none
  preparedHandoffOwner : String := ""

namespace TerminalFields

def proofPn (fields : TerminalFields) : Option PyObj :=
  match fields.inboundProof with
  | some proof => some proof.collectorPn
  | none => fields.callbackProof.map (·.collectorPn)

def postInit (fields : TerminalFields) : Option PyError :=
  if fields.inboundProof.isSome ∧ fields.callbackProof.isSome then
    some (valueError "recovery_terminal_carries_two_proofs")
  else
    match fields.proofPn with
    | none =>
      if fields.collectorPn ≠ "" ∨ fields.preparedHandoffOwner ≠ "" then
        some (valueError "recovery_terminal_without_proof_carries_state")
      else none
    | some proofPn =>
      if ¬ requiredToken fields.collectorPn then
        some (valueError "recovery_terminal_requires_normalized_pn")
      else if ¬ pnIsSameIdentity fields.collectorPn (normalizePn proofPn) then
        some (valueError "recovery_terminal_proof_identity_mismatch")
      else if fields.preparedHandoffOwner ≠ "" ∧ ¬ requiredToken fields.preparedHandoffOwner then
        some (valueError "recovery_terminal_handoff_owner_invalid")
      else none

end TerminalFields

structure RecoveryTerminalInput where
  fields : TerminalFields
  accepted : fields.postInit = none

namespace RecoveryTerminalInput

def construct (fields : TerminalFields) : Except PyError RecoveryTerminalInput :=
  match check : fields.postInit with
  | some error => .error error
  | none => .ok ⟨fields, check⟩

def none : RecoveryTerminalInput := ⟨{}, rfl⟩

def hasProof (terminal : RecoveryTerminalInput) : Bool := terminal.fields.proofPn.isSome

def ofOutcome (outcome : RecoveryVerificationOutcome) (preparedHandoffOwner : String) :
    Except PyError RecoveryTerminalInput :=
  match outcome.callbackVerified, outcome.fields.callbackProof, outcome.inboundRecovered,
      outcome.fields.inboundProof with
  | true, some proof, _, _ =>
    construct
      { collectorPn := preferFullPn outcome.fields.collectorPn (normalizePn proof.collectorPn)
        callbackProof := some proof
        preparedHandoffOwner := preparedHandoffOwner }
  | _, _, true, some proof =>
    construct
      { collectorPn := preferFullPn outcome.fields.collectorPn (normalizePn proof.collectorPn)
        inboundProof := some proof
        preparedHandoffOwner := preparedHandoffOwner }
  | _, _, _, _ => .error (valueError "recovery_verification_outcome_not_verified")

def fromCallbackTransaction (outcome : RecoveryVerificationOutcome) :
    Except PyError RecoveryTerminalInput :=
  ofOutcome outcome outcome.fields.handoffOwner

def fromPermanentOwnerTransaction (outcome : RecoveryVerificationOutcome) :
    Except PyError RecoveryTerminalInput :=
  if outcome.fields.handoffOwner ≠ "" then
    .error (valueError "permanent_owner_outcome_carries_handoff")
  else if ¬ outcome.fields.ownerCertification.any (·.isIssued) then
    .error ⟨.typeError, "permanent_owner_certification_required"⟩
  else ofOutcome outcome ""

end RecoveryTerminalInput
end RecoveryVerification
