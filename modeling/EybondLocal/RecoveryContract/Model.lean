import EybondLocal.CollectorIdentity
import EybondLocal.Library.IsoTimestamp

/-!
The recovery contract of one collector (`connection/recovery_contract.py`): its two typed
proofs, the checks of its constructor and the parser of its persisted record. A field may
hold any Python value until the constructor has accepted it; a contract carries that
acceptance.
-/
namespace RecoveryContract
open StripText PythonObject CollectorIdentity IsoTimestamp

def recoveryContractSchemaVersion : Int := 1

def inboundRecoveryMethods : List String := ["reboot_reconnect_no_trigger"]
def callbackRecoveryMethods : List String := ["reset_unicast_reconnect_same_pn"]

def validTimestamp : PyObj → Bool
  | .str s => strip s != "" && parsesAware (strip s)
  | .strSubclass s _ => strip s != "" && parsesAware (strip s)
  | _ => false

def cleanStr (value : PyObj) : String := if value.isStr then strip value.render else ""

def strictStr : PyObj → Bool
  | .str s => s == strip s
  | _ => false

def cleanPn (value : PyObj) : String := if value.isStr then normalizePn value else ""

def cleanPort : PyObj → PyObj
  | .int port => if 0 < port ∧ port < 65536 then .int port else .int 0
  | .intSubclass port text => if 0 < port ∧ port < 65536 then .intSubclass port text else .int 0
  | _ => .int 0

def portNumber : PyObj → Option Int
  | .int port => some port
  | .intSubclass port _ => some port
  | _ => none

/-- `value in methods` for a value `_strict_str` has accepted. -/
def isOneOf (methods : List String) : PyObj → Bool
  | .str s => methods.contains s
  | _ => false

def sourceIsStrong (value : PyObj) : Bool := identitySourceIsStrong value.textOrEmpty

structure InboundRecoveryProof where
  method : PyObj
  collectorPn : PyObj
  identitySource : PyObj
  verifiedAt : PyObj
  sessionProtocol : PyObj

structure CallbackRecoveryProof where
  method : PyObj
  collectorPn : PyObj
  identitySource : PyObj
  verifiedAt : PyObj
  triggerTarget : PyObj
  advertisedHaEndpoint : PyObj
  listenerPort : PyObj

def validEvidence (methods : List String) (method identitySource verifiedAt : PyObj) : Bool :=
  (strictStr method && isOneOf methods method) &&
    (strictStr identitySource && sourceIsStrong identitySource) &&
    (strictStr verifiedAt && validTimestamp verifiedAt)

def ownPn (proofPn : PyObj) (contractPn : String) : Bool :=
  strictStr proofPn && cleanPn proofPn != "" && pnIsSameIdentity contractPn (cleanPn proofPn)

def validInboundProof (proof : InboundRecoveryProof) (contractPn : String) : Bool :=
  validEvidence inboundRecoveryMethods proof.method proof.identitySource proof.verifiedAt &&
    strictStr proof.sessionProtocol && ownPn proof.collectorPn contractPn

def validCallbackProof (proof : CallbackRecoveryProof) (contractPn : String) : Bool :=
  validEvidence callbackRecoveryMethods proof.method proof.identitySource proof.verifiedAt &&
    ownPn proof.collectorPn contractPn &&
    (strictStr proof.triggerTarget && proof.triggerTarget.truthy) &&
    (strictStr proof.advertisedHaEndpoint && proof.advertisedHaEndpoint.truthy) &&
    (portNumber (cleanPort proof.listenerPort) == portNumber proof.listenerPort &&
      proof.listenerPort.truthy)

def fullerPn (proofPn : PyObj) (contractPn : String) : PyObj :=
  if (cleanPn proofPn).length < contractPn.length then
    .str (preferFullPn (cleanPn proofPn) contractPn)
  else proofPn

def readInboundProof (items : List (String × PyObj)) : InboundRecoveryProof where
  method := .str (cleanStr (PyObj.get items "method"))
  collectorPn := .str (cleanPn (PyObj.get items "collector_pn"))
  identitySource := .str (cleanStr (PyObj.get items "identity_source"))
  verifiedAt := .str (cleanStr (PyObj.get items "verified_at"))
  sessionProtocol := .str (cleanStr (PyObj.get items "session_protocol"))

def readCallbackProof (items : List (String × PyObj)) : CallbackRecoveryProof where
  method := .str (cleanStr (PyObj.get items "method"))
  collectorPn := .str (cleanPn (PyObj.get items "collector_pn"))
  identitySource := .str (cleanStr (PyObj.get items "identity_source"))
  verifiedAt := .str (cleanStr (PyObj.get items "verified_at"))
  triggerTarget := .str (cleanStr (PyObj.get items "trigger_target"))
  advertisedHaEndpoint := .str (cleanStr (PyObj.get items "advertised_ha_endpoint"))
  listenerPort := cleanPort (PyObj.get items "listener_port")

/-- What both branches do with their record: read it, judge it under the contract's PN and
    complete its PN; anything untrusted is no proof. -/
def parseProof {Proof : Type} (read : List (String × PyObj) → Proof)
    (valid : Proof → String → Bool) (completed : Proof → String → Proof) (record : PyObj)
    (contractPn : String) : Option Proof :=
  match record with
  | .mapping items _ =>
    if valid (read items) contractPn then some (completed (read items) contractPn) else none
  | _ => none

def InboundRecoveryProof.completed (proof : InboundRecoveryProof) (contractPn : String) :
    InboundRecoveryProof :=
  { proof with collectorPn := fullerPn proof.collectorPn contractPn }

def CallbackRecoveryProof.completed (proof : CallbackRecoveryProof) (contractPn : String) :
    CallbackRecoveryProof :=
  { proof with collectorPn := fullerPn proof.collectorPn contractPn }

def parseInboundProof : PyObj → String → Option InboundRecoveryProof :=
  parseProof readInboundProof validInboundProof InboundRecoveryProof.completed

def parseCallbackProof : PyObj → String → Option CallbackRecoveryProof :=
  parseProof readCallbackProof validCallbackProof CallbackRecoveryProof.completed

structure Fields where
  schemaVersion : PyObj
  collectorPn : PyObj
  collectorIdentitySource : PyObj
  inboundProof : Option InboundRecoveryProof
  callbackProof : Option CallbackRecoveryProof
  updatedAt : PyObj

/-- The `ValueError`s of `__post_init__`, with the value their text shows. -/
inductive ContractError where
  | schemaUnknown (version : PyObj)
  | requiresDurablePn
  | identitySourceWeak (source : PyObj)
  | updatedAtInvalid (updatedAt : PyObj)
  | inboundProofInvalid
  | callbackProofInvalid

def ContractError.code : ContractError → String
  | .schemaUnknown _ => "recovery_contract_schema_unknown"
  | .requiresDurablePn => "recovery_contract_requires_durable_pn"
  | .identitySourceWeak _ => "recovery_contract_identity_source_weak"
  | .updatedAtInvalid _ => "recovery_contract_updated_at_invalid"
  | .inboundProofInvalid => "inbound_proof_invalid"
  | .callbackProofInvalid => "callback_proof_invalid"

def knownVersion : PyObj → Bool
  | .int version => version == recoveryContractSchemaVersion
  | _ => false

def durablePn : PyObj → Option String
  | .str pn => if pn = strip pn ∧ pn ≠ "" then some pn else none
  | _ => none

def recordedAt (updatedAt : PyObj) : Bool :=
  strictStr updatedAt && (!updatedAt.truthy || validTimestamp updatedAt)

def postInit (fields : Fields) : Option ContractError :=
  if ¬ knownVersion fields.schemaVersion then some (.schemaUnknown fields.schemaVersion)
  else
    match durablePn fields.collectorPn with
    | none => some .requiresDurablePn
    | some pn =>
      if ¬ (strictStr fields.collectorIdentitySource ∧
          sourceIsStrong fields.collectorIdentitySource) then
        some (.identitySourceWeak fields.collectorIdentitySource)
      else if ¬ recordedAt fields.updatedAt then some (.updatedAtInvalid fields.updatedAt)
      else if ¬ fields.inboundProof.all (validInboundProof · pn) then some .inboundProofInvalid
      else if ¬ fields.callbackProof.all (validCallbackProof · pn) then some .callbackProofInvalid
      else none

/-- A contract exists only with fields the constructor accepts. -/
structure Contract where
  fields : Fields
  accepted : postInit fields = none

def construct (fields : Fields) : Except ContractError Contract :=
  match check : postInit fields with
  | some error => .error error
  | none => .ok ⟨fields, check⟩

/-- A version `from_record` goes on with: an `int`, subclasses included, that is not a `bool`. -/
def acceptedVersion : PyObj → Bool
  | .int version => version == recoveryContractSchemaVersion
  | .intSubclass version _ => version == recoveryContractSchemaVersion
  | _ => false

def trusted (items : List (String × PyObj)) : Bool :=
  acceptedVersion (PyObj.get items "schema_version") &&
    cleanPn (PyObj.get items "collector_pn") != "" &&
    identitySourceIsStrong (cleanStr (PyObj.get items "collector_identity_source"))

def enrichedPn (contractPn : String) (inbound : Option InboundRecoveryProof)
    (callback : Option CallbackRecoveryProof) : String :=
  let pn := match inbound with
    | none => contractPn
    | some proof => preferFullPn contractPn (cleanPn proof.collectorPn)
  match callback with
  | none => pn
  | some proof => preferFullPn pn (cleanPn proof.collectorPn)

def recordFields (items : List (String × PyObj)) : Fields :=
  let contractPn := cleanPn (PyObj.get items "collector_pn")
  let inbound := parseInboundProof (PyObj.get items "inbound") contractPn
  let callback := parseCallbackProof (PyObj.get items "callback") contractPn
  let updatedAt := PyObj.get items "updated_at"
  { schemaVersion := PyObj.get items "schema_version"
    collectorPn := .str (enrichedPn contractPn inbound callback)
    collectorIdentitySource := .str (cleanStr (PyObj.get items "collector_identity_source"))
    inboundProof := inbound
    callbackProof := callback
    updatedAt := .str (if validTimestamp updatedAt then cleanStr updatedAt else "") }

def fromRecord (record : PyObj) : Except ContractError (Option Contract) :=
  match record with
  | .mapping items _ =>
    if trusted items then (construct (recordFields items)).map some else .ok none
  | _ => .ok none

end RecoveryContract
