import EybondLocal.RecoveryContract.Model

/-!
Building a recovery contract: the empty seed, the four immutable updates and the record a
contract is persisted as. A builder raises where the parser drops, so an update either
returns a new contract or leaves its caller with the old one.
-/
namespace RecoveryContract
open StripText PythonObject CollectorIdentity

def recordOf (items : List (String × PyObj)) : PyObj := .mapping items ""

def InboundRecoveryProof.toRecord (proof : InboundRecoveryProof) : PyObj :=
  recordOf
    [("method", proof.method), ("collector_pn", proof.collectorPn),
      ("identity_source", proof.identitySource), ("verified_at", proof.verifiedAt),
      ("session_protocol", proof.sessionProtocol)]

def CallbackRecoveryProof.toRecord (proof : CallbackRecoveryProof) : PyObj :=
  recordOf
    [("method", proof.method), ("collector_pn", proof.collectorPn),
      ("identity_source", proof.identitySource), ("verified_at", proof.verifiedAt),
      ("trigger_target", proof.triggerTarget),
      ("advertised_ha_endpoint", proof.advertisedHaEndpoint),
      ("listener_port", proof.listenerPort)]

/-- The keys of a record in the order `to_record` sets them; a missing proof has no key. -/
def Fields.items (fields : Fields) : List (String × PyObj) :=
  [("schema_version", fields.schemaVersion), ("collector_pn", fields.collectorPn),
      ("collector_identity_source", fields.collectorIdentitySource),
      ("updated_at", fields.updatedAt)] ++
    (fields.inboundProof.map fun proof => ("inbound", proof.toRecord)).toList ++
    (fields.callbackProof.map fun proof => ("callback", proof.toRecord)).toList

def Contract.toRecord (contract : Contract) : PyObj := recordOf contract.fields.items

inductive UpdateError where
  | updatedAtRequired
  | foreignPn (contractPn proofPn : String)
  | rejected (error : ContractError)

def UpdateError.text : UpdateError → String
  | .updatedAtRequired => "recovery_contract_updated_at_required"
  | .foreignPn contractPn proofPn =>
    "recovery_proof_foreign_pn:" ++ contractPn ++ ":" ++ proofPn
  | .rejected error => error.code

def stripped : PyObj → PyObj
  | .str s => .str (strip s)
  | .strSubclass s _ => .str (strip s)
  | value => value

def asInt : PyObj → PyObj
  | .intSubclass n _ => .int n
  | value => value

def emptyForPn (collectorPn identitySource updatedAt : PyObj) : Except ContractError Contract :=
  if cleanPn collectorPn = "" then .error .requiresDurablePn
  else
    construct
      { schemaVersion := .int recoveryContractSchemaVersion
        collectorPn := .str (cleanPn collectorPn)
        collectorIdentitySource := .str (cleanStr identitySource)
        inboundProof := none
        callbackProof := none
        updatedAt := updatedAt }

namespace Contract

/-- `self.collector_pn`, a text since the constructor has accepted it. -/
def pn (contract : Contract) : String := (durablePn contract.fields.collectorPn).getD ""

def rebuild (fields : Fields) : Except UpdateError Contract :=
  (construct fields).mapError .rejected

def enriched (contract : Contract) (proofPn : PyObj) : Except UpdateError String :=
  if pnIsSameIdentity contract.pn (cleanPn proofPn) then
    .ok (preferFullPn contract.pn (cleanPn proofPn))
  else .error (.foreignPn contract.pn (cleanPn proofPn))

def storedInbound (proof : InboundRecoveryProof) (contractPn : String) : InboundRecoveryProof where
  method := proof.method
  collectorPn := .str contractPn
  identitySource := .str (cleanStr proof.identitySource)
  verifiedAt := stripped proof.verifiedAt
  sessionProtocol := .str (cleanStr proof.sessionProtocol)

def storedCallback (proof : CallbackRecoveryProof) (contractPn : String) :
    CallbackRecoveryProof where
  method := proof.method
  collectorPn := .str contractPn
  identitySource := .str (cleanStr proof.identitySource)
  verifiedAt := stripped proof.verifiedAt
  triggerTarget := stripped proof.triggerTarget
  advertisedHaEndpoint := stripped proof.advertisedHaEndpoint
  listenerPort := asInt proof.listenerPort

def withInboundProof (contract : Contract) (proof : InboundRecoveryProof) (updatedAt : PyObj) :
    Except UpdateError Contract :=
  if validTimestamp updatedAt = false then .error .updatedAtRequired
  else
    match contract.enriched proof.collectorPn with
    | .error error => .error error
    | .ok contractPn =>
      if validInboundProof proof contractPn = false then .error (.rejected .inboundProofInvalid)
      else
        rebuild
          { contract.fields with
            collectorPn := .str contractPn
            inboundProof := some (storedInbound proof contractPn)
            updatedAt := stripped updatedAt }

def withCallbackProof (contract : Contract) (proof : CallbackRecoveryProof) (updatedAt : PyObj) :
    Except UpdateError Contract :=
  if validTimestamp updatedAt = false then .error .updatedAtRequired
  else
    match contract.enriched proof.collectorPn with
    | .error error => .error error
    | .ok contractPn =>
      if validCallbackProof proof contractPn = false then .error (.rejected .callbackProofInvalid)
      else
        rebuild
          { contract.fields with
            collectorPn := .str contractPn
            callbackProof := some (storedCallback proof contractPn)
            updatedAt := stripped updatedAt }

def withoutInboundProof (contract : Contract) (updatedAt : PyObj) : Except UpdateError Contract :=
  if validTimestamp updatedAt = false then .error .updatedAtRequired
  else rebuild { contract.fields with inboundProof := none, updatedAt := stripped updatedAt }

def withoutCallbackProof (contract : Contract) (updatedAt : PyObj) : Except UpdateError Contract :=
  if validTimestamp updatedAt = false then .error .updatedAtRequired
  else rebuild { contract.fields with callbackProof := none, updatedAt := stripped updatedAt }

end Contract

inductive Update where
  | withInboundProof (proof : InboundRecoveryProof) (updatedAt : PyObj)
  | withCallbackProof (proof : CallbackRecoveryProof) (updatedAt : PyObj)
  | withoutInboundProof (updatedAt : PyObj)
  | withoutCallbackProof (updatedAt : PyObj)

def Contract.update (contract : Contract) : Update → Except UpdateError Contract
  | .withInboundProof proof updatedAt => contract.withInboundProof proof updatedAt
  | .withCallbackProof proof updatedAt => contract.withCallbackProof proof updatedAt
  | .withoutInboundProof updatedAt => contract.withoutInboundProof updatedAt
  | .withoutCallbackProof updatedAt => contract.withoutCallbackProof updatedAt

def updateStep (contract : Contract) (update : Update) : Contract :=
  match contract.update update with
  | .ok updated => updated
  | .error _ => contract

end RecoveryContract
