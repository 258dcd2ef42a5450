import EybondLocal.RecoveryContract.FromRecord
import EybondLocal.RecoveryContract.Updates
import EybondLocal.Library.Execution

/-!
Serializing a contract and parsing it back. The parser rewrites a proof that is stored under
a shorter spelling than the contract's, so a contract is a fixed point exactly when all its
PNs have one spelling. An update that enriches the contract leaves the other proof under the
old spelling.
-/
namespace RecoveryContract
open StripText PythonObject CollectorIdentity Execution

theorem strictStr_iff (value : PyObj) :
    strictStr value = true ↔ ∃ s, value = .str s ∧ strip s = s := by
  cases value with
  | str s =>
    simp only [strictStr, beq_iff_eq, PyObj.str.injEq, exists_eq_left']
    exact eq_comm
  | _ => simp [strictStr]

theorem construct_ok_fields_iff (fields : Fields) (contract : Contract) :
    construct fields = .ok contract ↔ contract.fields = fields := by
  obtain ⟨own, accepted⟩ := contract
  unfold construct
  split
  · rename_i error check
    simp only [reduceCtorEq, false_iff]
    intro eq
    rw [eq, check] at accepted
    cases accepted
  · simp [eq_comm]

structure Accepted (fields : Fields) (pn : String) : Prop where
  version : fields.schemaVersion = .int recoveryContractSchemaVersion
  collectorPn : fields.collectorPn = .str pn
  trimmed : strip pn = pn
  nonempty : pn ≠ ""
  source : ∃ s, fields.collectorIdentitySource = .str s ∧ strip s = s ∧
    identitySourceIsStrong s = true
  updatedAt : ∃ s, fields.updatedAt = .str s ∧ strip s = s ∧
    (s = "" ∨ validTimestamp (.str s) = true)
  inbound : ∀ proof ∈ fields.inboundProof, validInboundProof proof pn = true
  callback : ∀ proof ∈ fields.callbackProof, validCallbackProof proof pn = true

theorem durablePn_eq_some_iff (value : PyObj) (pn : String) :
    durablePn value = some pn ↔ value = .str pn ∧ strip pn = pn ∧ pn ≠ "" := by
  cases value with
  | str s =>
    simp only [durablePn, Option.ite_none_right_eq_some, Option.some.injEq, PyObj.str.injEq]
    constructor
    · rintro ⟨⟨trimmed, nonempty⟩, rfl⟩
      exact ⟨rfl, trimmed.symm, nonempty⟩
    · rintro ⟨rfl, trimmed, nonempty⟩
      exact ⟨⟨trimmed.symm, nonempty⟩, rfl⟩
  | _ => simp [durablePn]

theorem knownVersion_eq_true_iff (version : PyObj) :
    knownVersion version = true ↔ version = .int recoveryContractSchemaVersion := by
  cases version with
  | int n => simp [knownVersion]
  | _ => simp [knownVersion]

theorem recordedAt_eq_true_iff (value : PyObj) :
    recordedAt value = true ↔ ∃ s, value = .str s ∧ strip s = s ∧
      (s = "" ∨ validTimestamp (.str s) = true) := by
  simp only [recordedAt, Bool.and_eq_true, strictStr_iff, Bool.or_eq_true, Bool.not_eq_true']
  constructor
  · rintro ⟨⟨s, rfl, trimmed⟩, recorded⟩
    exact ⟨s, rfl, trimmed, by simpa [PyObj.truthy] using recorded⟩
  · rintro ⟨s, rfl, trimmed, recorded⟩
    exact ⟨⟨s, rfl, trimmed⟩, by simpa [PyObj.truthy] using recorded⟩

theorem postInit_none_iff_accepted (fields : Fields) :
    postInit fields = none ↔ ∃ pn, Accepted fields pn := by
  rw [postInit_eq_none_iff]
  constructor
  · rintro ⟨version, pn, durable, ⟨strict, strong⟩, recorded, inbound, callback⟩
    obtain ⟨isPn, trimmed, nonempty⟩ := (durablePn_eq_some_iff _ _).mp durable
    obtain ⟨source, isSource, trimmedSource⟩ := (strictStr_iff _).mp strict
    refine ⟨pn, (knownVersion_eq_true_iff _).mp version, isPn, trimmed, nonempty, ?_,
      (recordedAt_eq_true_iff _).mp recorded, ?_, ?_⟩
    · exact ⟨source, isSource, trimmedSource, by simpa [isSource, sourceIsStrong] using strong⟩
    · simpa [Option.all_eq_true] using inbound
    · simpa [Option.all_eq_true] using callback
  · rintro ⟨pn, version, isPn, trimmed, nonempty, ⟨source, isSource, trimmedSource, strong⟩,
      recorded, inbound, callback⟩
    refine ⟨(knownVersion_eq_true_iff _).mpr version, pn,
      (durablePn_eq_some_iff _ _).mpr ⟨isPn, trimmed, nonempty⟩, ⟨?_, ?_⟩,
      (recordedAt_eq_true_iff _).mpr recorded, ?_, ?_⟩
    · exact (strictStr_iff _).mpr ⟨source, isSource, trimmedSource⟩
    · simpa [isSource, sourceIsStrong] using strong
    · simpa [Option.all_eq_true] using inbound
    · simpa [Option.all_eq_true] using callback

theorem Contract.isAccepted (contract : Contract) : Accepted contract.fields contract.pn := by
  obtain ⟨pn, accepted⟩ := (postInit_none_iff_accepted _).mp contract.accepted
  have own : contract.pn = pn := by
    have durable := (durablePn_eq_some_iff _ _).mpr
      ⟨accepted.collectorPn, accepted.trimmed, accepted.nonempty⟩
    simp [Contract.pn, durable]
  rwa [own]

@[simp] theorem cleanStr_str (s : String) : cleanStr (.str s) = strip s := rfl

theorem str_cleanStr_of_strict {value : PyObj} (strict : strictStr value = true) :
    PyObj.str (cleanStr value) = value := by
  obtain ⟨s, rfl, trimmed⟩ := (strictStr_iff value).mp strict
  rw [cleanStr_str, trimmed]

theorem str_cleanPn_of_strict {value : PyObj} (strict : strictStr value = true) :
    PyObj.str (cleanPn value) = value := by
  obtain ⟨s, rfl, trimmed⟩ := (strictStr_iff value).mp strict
  rw [cleanPn_str, trimmed]

theorem stripped_of_strict {value : PyObj} (strict : strictStr value = true) :
    stripped value = value := by
  obtain ⟨s, rfl, trimmed⟩ := (strictStr_iff value).mp strict
  rw [stripped, trimmed]

theorem validInboundProof_iff (proof : InboundRecoveryProof) (contractPn : String) :
    validInboundProof proof contractPn = true ↔
      (strictStr proof.method = true ∧ strictStr proof.identitySource = true ∧
        strictStr proof.verifiedAt = true) ∧
      validEvidence inboundRecoveryMethods proof.method proof.identitySource proof.verifiedAt = true ∧
      strictStr proof.sessionProtocol = true ∧ strictStr proof.collectorPn = true ∧
      pnIsSameIdentity contractPn (cleanPn proof.collectorPn) = true := by
  simp only [validInboundProof, validEvidence, ownPn, Bool.and_eq_true, bne_iff_ne, ne_eq]
  constructor
  · rintro ⟨⟨⟨⟨⟨method, known⟩, source, strong⟩, at_, valid⟩, protocol⟩, ⟨pn, _⟩, same⟩
    exact ⟨⟨method, source, at_⟩, ⟨⟨⟨method, known⟩, source, strong⟩, at_, valid⟩, protocol, pn, same⟩
  · rintro ⟨_, evidence, protocol, pn, same⟩
    have nonempty := (pnIsSameIdentity_nonempty same).2
    rw [strip_cleanPn] at nonempty
    exact ⟨⟨evidence, protocol⟩, ⟨pn, nonempty⟩, same⟩

theorem validCallbackProof_iff (proof : CallbackRecoveryProof) (contractPn : String) :
    validCallbackProof proof contractPn = true ↔
      (strictStr proof.method = true ∧ strictStr proof.identitySource = true ∧
        strictStr proof.verifiedAt = true) ∧
      validEvidence callbackRecoveryMethods proof.method proof.identitySource proof.verifiedAt = true ∧
      (strictStr proof.collectorPn = true ∧
        pnIsSameIdentity contractPn (cleanPn proof.collectorPn) = true) ∧
      (strictStr proof.triggerTarget = true ∧ proof.triggerTarget.truthy = true) ∧
      (strictStr proof.advertisedHaEndpoint = true ∧ proof.advertisedHaEndpoint.truthy = true) ∧
      (portNumber (cleanPort proof.listenerPort) = portNumber proof.listenerPort ∧
        proof.listenerPort.truthy = true) := by
  simp only [validCallbackProof, validEvidence, ownPn, Bool.and_eq_true, bne_iff_ne, ne_eq,
    beq_iff_eq]
  constructor
  · rintro ⟨⟨⟨⟨⟨⟨⟨method, known⟩, source, strong⟩, at_, valid⟩, ⟨pn, _⟩, same⟩, target⟩, endpoint⟩,
      port⟩
    exact ⟨⟨method, source, at_⟩, ⟨⟨⟨method, known⟩, source, strong⟩, at_, valid⟩, ⟨pn, same⟩,
      target, endpoint, port⟩
  · rintro ⟨_, evidence, ⟨pn, same⟩, target, endpoint, port⟩
    have nonempty := (pnIsSameIdentity_nonempty same).2
    rw [strip_cleanPn] at nonempty
    exact ⟨⟨⟨⟨evidence, ⟨pn, nonempty⟩, same⟩, target⟩, endpoint⟩, port⟩

theorem cleanPort_of_valid {port : PyObj} (valid : portNumber (cleanPort port) = portNumber port)
    (truthy : port.truthy = true) : cleanPort port = port := by
  cases port with
  | int n =>
    simp only [PyObj.truthy, ne_eq, decide_eq_true_eq] at truthy
    simp only [cleanPort] at valid ⊢
    split
    · rfl
    · rename_i outside
      simp only [outside, ↓reduceIte, portNumber, Option.some.injEq] at valid
      exact absurd valid.symm truthy
  | intSubclass n text =>
    simp only [PyObj.truthy, ne_eq, decide_eq_true_eq] at truthy
    simp only [cleanPort] at valid ⊢
    split
    · rfl
    · rename_i outside
      simp only [outside, ↓reduceIte, portNumber, Option.some.injEq] at valid
      exact absurd valid.symm truthy
  | _ => simp [cleanPort, portNumber] at valid

theorem readInboundProof_toRecord {proof : InboundRecoveryProof} {contractPn : String}
    (valid : validInboundProof proof contractPn = true) :
    parseInboundProof proof.toRecord contractPn = some (proof.completed contractPn) := by
  obtain ⟨⟨method, source, at_⟩, _, protocol, pn, _⟩ := (validInboundProof_iff _ _).mp valid
  have read : ∀ items rendered, proof.toRecord = .mapping items rendered →
      readInboundProof items = proof := by
    intro items rendered eq
    cases eq
    simp only [readInboundProof, PyObj.get, List.find?, beq_self_eq_true, Option.map_some,
      Option.getD_some, str_cleanStr_of_strict method, str_cleanStr_of_strict source,
      str_cleanStr_of_strict at_, str_cleanStr_of_strict protocol, str_cleanPn_of_strict pn,
      String.reduceBEq]
  simp only [parseInboundProof, InboundRecoveryProof.toRecord, recordOf, parseProof]
  rw [read _ _ rfl, if_pos valid]

theorem readCallbackProof_toRecord {proof : CallbackRecoveryProof} {contractPn : String}
    (valid : validCallbackProof proof contractPn = true) :
    parseCallbackProof proof.toRecord contractPn = some (proof.completed contractPn) := by
  obtain ⟨⟨method, source, at_⟩, _, ⟨pn, _⟩, ⟨target, _⟩, ⟨endpoint, _⟩, inRange, truthy⟩ :=
    (validCallbackProof_iff _ _).mp valid
  have cleaned := cleanPort_of_valid inRange truthy
  have read : ∀ items rendered, proof.toRecord = .mapping items rendered →
      readCallbackProof items = proof := by
    intro items rendered eq
    cases eq
    simp only [readCallbackProof, PyObj.get, List.find?, beq_self_eq_true, Option.map_some,
      Option.getD_some, str_cleanStr_of_strict method, str_cleanStr_of_strict source,
      str_cleanStr_of_strict at_, str_cleanStr_of_strict target, str_cleanStr_of_strict endpoint,
      str_cleanPn_of_strict pn, cleaned, String.reduceBEq]
  simp only [parseCallbackProof, CallbackRecoveryProof.toRecord, recordOf, parseProof]
  rw [read _ _ rfl, if_pos valid]

structure PnsWithin (contract : Contract) : Prop where
  inbound : ∀ proof ∈ contract.fields.inboundProof,
    (cleanPn proof.collectorPn).length ≤ contract.pn.length
  callback : ∀ proof ∈ contract.fields.callbackProof,
    (cleanPn proof.collectorPn).length ≤ contract.pn.length

def Uniform (contract : Contract) : Prop :=
  (∀ proof ∈ contract.fields.inboundProof, proof.collectorPn = .str contract.pn) ∧
    ∀ proof ∈ contract.fields.callbackProof, proof.collectorPn = .str contract.pn

def RoundTrips (contract : Contract) : Prop :=
  fromRecord contract.toRecord = .ok (some contract)

/-- The contract as the parser rewrites it: every proof under the contract's PN. -/
def respelled (contract : Contract) : Fields :=
  { contract.fields with
    inboundProof := contract.fields.inboundProof.map fun proof =>
      { proof with collectorPn := .str contract.pn }
    callbackProof := contract.fields.callbackProof.map fun proof =>
      { proof with collectorPn := .str contract.pn } }

theorem fullerPn_of_shorter {value : PyObj} {contractPn : String}
    (trimmed : strip contractPn = contractPn) (strict : strictStr value = true)
    (same : pnIsSameIdentity contractPn (cleanPn value) = true)
    (shorter : (cleanPn value).length ≤ contractPn.length) :
    fullerPn value contractPn = .str contractPn := by
  obtain ⟨s, rfl, trimmedPn⟩ := (strictStr_iff value).mp strict
  rw [cleanPn_str, trimmedPn] at same shorter
  rw [fullerPn_eq trimmedPn trimmed same]
  have nonempty := (pnIsSameIdentity_nonempty same).1
  rw [trimmed] at nonempty
  simp [preferFullPn, trimmed, trimmedPn, shorter, nonempty]

section Items
variable (fields : Fields)

theorem get_schemaVersion : PyObj.get fields.items "schema_version" = fields.schemaVersion := rfl

theorem get_collectorPn : PyObj.get fields.items "collector_pn" = fields.collectorPn := rfl

theorem get_collectorIdentitySource :
    PyObj.get fields.items "collector_identity_source" = fields.collectorIdentitySource := rfl

theorem get_updatedAt : PyObj.get fields.items "updated_at" = fields.updatedAt := rfl

theorem get_inbound : PyObj.get fields.items "inbound" =
    (fields.inboundProof.map InboundRecoveryProof.toRecord).getD .none := by
  cases inbound : fields.inboundProof with
  | none =>
    cases callback : fields.callbackProof with
    | none => simp [Fields.items, inbound, callback, PyObj.get]
    | some proof => simp [Fields.items, inbound, callback, PyObj.get]
  | some proof => simp [Fields.items, inbound, PyObj.get]

theorem get_callback : PyObj.get fields.items "callback" =
    (fields.callbackProof.map CallbackRecoveryProof.toRecord).getD .none := by
  cases inbound : fields.inboundProof with
  | none =>
    cases callback : fields.callbackProof with
    | none => simp [Fields.items, inbound, callback, PyObj.get]
    | some proof => simp [Fields.items, inbound, callback, PyObj.get]
  | some held =>
    cases callback : fields.callbackProof with
    | none => simp [Fields.items, inbound, callback, PyObj.get]
    | some proof => simp [Fields.items, inbound, callback, PyObj.get]

end Items

section Spelling
variable (contract : Contract)

theorem enrichedPn_respelled :
    enrichedPn contract.pn (respelled contract).inboundProof (respelled contract).callbackProof =
      contract.pn := by
  have trimmed := contract.isAccepted.trimmed
  have own : preferFullPn contract.pn contract.pn = contract.pn := by
    simp [preferFullPn, trimmed]
  have strippedOwn : preferFullPn contract.pn (strip contract.pn) = contract.pn := by
    rw [trimmed, own]
  cases inbound : contract.fields.inboundProof with
  | none =>
    cases callback : contract.fields.callbackProof with
    | none => simp [respelled, inbound, callback, enrichedPn]
    | some proof => simp [respelled, inbound, callback, enrichedPn, strippedOwn]
  | some held =>
    cases callback : contract.fields.callbackProof with
    | none => simp [respelled, inbound, callback, enrichedPn, strippedOwn]
    | some proof => simp [respelled, inbound, callback, enrichedPn, strippedOwn]

theorem trusted_items : trusted contract.fields.items = true := by
  have accepted := contract.isAccepted
  obtain ⟨source, isSource, trimmedSource, strong⟩ := accepted.source
  simp only [trusted, get_schemaVersion, get_collectorPn, get_collectorIdentitySource,
    accepted.version, accepted.collectorPn, isSource, cleanPn_str, cleanStr_str, accepted.trimmed,
    trimmedSource, strong, acceptedVersion, Bool.and_true, Bool.and_eq_true, beq_self_eq_true,
    bne_iff_ne, ne_eq, accepted.nonempty, not_false_eq_true, and_self]

theorem respelled_eq_iff : respelled contract = contract.fields ↔ Uniform contract := by
  constructor
  · intro eq
    constructor
    · intro proof held
      have same := congrArg Fields.inboundProof eq
      rw [Option.mem_def] at held
      simp only [respelled, held, Option.map_some, Option.some.injEq] at same
      exact congrArg InboundRecoveryProof.collectorPn same.symm
    · intro proof held
      have same := congrArg Fields.callbackProof eq
      rw [Option.mem_def] at held
      simp only [respelled, held, Option.map_some, Option.some.injEq] at same
      exact congrArg CallbackRecoveryProof.collectorPn same.symm
  · rintro ⟨inbound, callback⟩
    have inboundKept : (respelled contract).inboundProof = contract.fields.inboundProof := by
      cases held : contract.fields.inboundProof with
      | none => simp [respelled, held]
      | some proof => simp [respelled, held, ← inbound proof held]
    have callbackKept : (respelled contract).callbackProof = contract.fields.callbackProof := by
      cases held : contract.fields.callbackProof with
      | none => simp [respelled, held]
      | some proof => simp [respelled, held, ← callback proof held]
    simp only [respelled] at inboundKept callbackKept ⊢
    rw [inboundKept, callbackKept]

end Spelling

section Within
variable {contract : Contract} (within : PnsWithin contract)
include within

theorem parseInbound_items :
    parseInboundProof (PyObj.get contract.fields.items "inbound") contract.pn =
      (respelled contract).inboundProof := by
  have accepted := contract.isAccepted
  rw [get_inbound]
  cases held : contract.fields.inboundProof with
  | none => simp [respelled, held, parseInboundProof, parseProof]
  | some proof =>
    have valid := accepted.inbound proof held
    obtain ⟨_, _, _, strict, same⟩ := (validInboundProof_iff _ _).mp valid
    have spelling := fullerPn_of_shorter accepted.trimmed strict same (within.inbound proof held)
    rw [Option.map_some, Option.getD_some, readInboundProof_toRecord valid]
    simp [respelled, held, InboundRecoveryProof.completed, spelling]

theorem parseCallback_items :
    parseCallbackProof (PyObj.get contract.fields.items "callback") contract.pn =
      (respelled contract).callbackProof := by
  have accepted := contract.isAccepted
  rw [get_callback]
  cases held : contract.fields.callbackProof with
  | none => simp [respelled, held, parseCallbackProof, parseProof]
  | some proof =>
    have valid := accepted.callback proof held
    obtain ⟨_, _, ⟨strict, same⟩, _⟩ := (validCallbackProof_iff _ _).mp valid
    have spelling := fullerPn_of_shorter accepted.trimmed strict same (within.callback proof held)
    rw [Option.map_some, Option.getD_some, readCallbackProof_toRecord valid]
    simp [respelled, held, CallbackRecoveryProof.completed, spelling]

theorem recordFields_items : recordFields contract.fields.items = respelled contract := by
  have accepted := contract.isAccepted
  obtain ⟨source, isSource, trimmedSource, _⟩ := accepted.source
  obtain ⟨recorded, isRecorded, trimmedRecorded, valid⟩ := accepted.updatedAt
  have ownPn : cleanPn contract.fields.collectorPn = contract.pn := by
    rw [accepted.collectorPn, cleanPn_str, accepted.trimmed]
  have updatedAt : (recordFields contract.fields.items).updatedAt = .str recorded := by
    simp only [recordFields, get_updatedAt, isRecorded, cleanStr_str, trimmedRecorded]
    rcases valid with rfl | stamped
    · simp
    · rw [if_pos stamped]
  rw [show recordFields contract.fields.items =
    { recordFields contract.fields.items with updatedAt := .str recorded } by rw [← updatedAt]]
  simp only [recordFields, get_collectorPn, get_schemaVersion, get_collectorIdentitySource, ownPn,
    parseInbound_items within, parseCallback_items within, enrichedPn_respelled]
  simp only [respelled, accepted.collectorPn, isSource, isRecorded, cleanStr_str, trimmedSource]

/-- A contract's own record parses to the contract with every proof under its PN. -/
theorem fromRecord_toRecord : ∃ parsed, fromRecord contract.toRecord = .ok (some parsed) ∧
    parsed.fields = respelled contract := by
  have own := contract.isAccepted
  have valid : Accepted (respelled contract) contract.pn := by
    constructor
    case version => exact own.version
    case collectorPn => exact own.collectorPn
    case trimmed => exact own.trimmed
    case nonempty => exact own.nonempty
    case source => exact own.source
    case updatedAt => exact own.updatedAt
    case inbound =>
      intro proof held
      obtain ⟨kept, stored, rfl⟩ := Option.map_eq_some_iff.mp held
      obtain ⟨strict, evidence, protocol, _, same⟩ :=
        (validInboundProof_iff _ _).mp (own.inbound kept stored)
      refine (validInboundProof_iff _ _).mpr ⟨strict, evidence, protocol,
        (strictStr_iff _).mpr ⟨_, rfl, own.trimmed⟩, ?_⟩
      rw [cleanPn_str, pnIsSameIdentity_strip_right]
      exact pnIsSameIdentity_self (pnIsSameIdentity_nonempty same).1
    case callback =>
      intro proof held
      obtain ⟨kept, stored, rfl⟩ := Option.map_eq_some_iff.mp held
      obtain ⟨strict, evidence, ⟨_, same⟩, route⟩ :=
        (validCallbackProof_iff _ _).mp (own.callback kept stored)
      refine (validCallbackProof_iff _ _).mpr ⟨strict, evidence,
        ⟨(strictStr_iff _).mpr ⟨_, rfl, own.trimmed⟩, ?_⟩, route⟩
      rw [cleanPn_str, pnIsSameIdentity_strip_right]
      exact pnIsSameIdentity_self (pnIsSameIdentity_nonempty same).1
  have none := (postInit_none_iff_accepted _).mpr ⟨_, valid⟩
  have built := (construct_ok_fields_iff _ ⟨_, none⟩).mpr rfl
  refine ⟨⟨respelled contract, none⟩, ?_, rfl⟩
  simp only [fromRecord, Contract.toRecord, recordOf, trusted_items, ↓reduceIte,
    recordFields_items within, built, Except.map]

theorem roundTrips_iff_uniform : RoundTrips contract ↔ Uniform contract := by
  have parsed : fromRecord contract.toRecord = (construct (respelled contract)).map some := by
    simp only [fromRecord, Contract.toRecord, recordOf, trusted_items, ↓reduceIte,
      recordFields_items within]
  have returned : (construct (respelled contract)).map some = .ok (some contract) ↔
      construct (respelled contract) = .ok contract := by
    cases construct (respelled contract) <;> simp [Except.map]
  rw [RoundTrips, parsed, returned, construct_ok_fields_iff, eq_comm, respelled_eq_iff]

end Within

def accepts (contract : Contract) : Update → Bool
  | .withInboundProof proof updatedAt =>
    validTimestamp updatedAt && pnIsSameIdentity contract.pn (cleanPn proof.collectorPn) &&
      validInboundProof proof (preferFullPn contract.pn (cleanPn proof.collectorPn))
  | .withCallbackProof proof updatedAt =>
    validTimestamp updatedAt && pnIsSameIdentity contract.pn (cleanPn proof.collectorPn) &&
      validCallbackProof proof (preferFullPn contract.pn (cleanPn proof.collectorPn))
  | .withoutInboundProof updatedAt => validTimestamp updatedAt
  | .withoutCallbackProof updatedAt => validTimestamp updatedAt

def leavesBehind (contract : Contract) : Update → Bool
  | .withInboundProof proof updatedAt =>
    accepts contract (.withInboundProof proof updatedAt) && contract.fields.callbackProof.isSome &&
      decide (contract.pn.length < (cleanPn proof.collectorPn).length)
  | .withCallbackProof proof updatedAt =>
    accepts contract (.withCallbackProof proof updatedAt) && contract.fields.inboundProof.isSome &&
      decide (contract.pn.length < (cleanPn proof.collectorPn).length)
  | _ => false

def KeepsSpelling (contract : Contract) (update : Update) : Prop :=
  leavesBehind contract update = false

def updatedFields (contract : Contract) : Update → Fields
  | .withInboundProof proof updatedAt =>
    let contractPn := preferFullPn contract.pn (cleanPn proof.collectorPn)
    { contract.fields with
      collectorPn := .str contractPn
      inboundProof := some (Contract.storedInbound proof contractPn)
      updatedAt := stripped updatedAt }
  | .withCallbackProof proof updatedAt =>
    let contractPn := preferFullPn contract.pn (cleanPn proof.collectorPn)
    { contract.fields with
      collectorPn := .str contractPn
      callbackProof := some (Contract.storedCallback proof contractPn)
      updatedAt := stripped updatedAt }
  | .withoutInboundProof updatedAt =>
    { contract.fields with inboundProof := none, updatedAt := stripped updatedAt }
  | .withoutCallbackProof updatedAt =>
    { contract.fields with callbackProof := none, updatedAt := stripped updatedAt }

/-- An update raises where its own checks fail and otherwise depends on the constructor. -/
theorem update_cases (contract : Contract) (update : Update) :
    (accepts contract update = false ∧ ∃ error, contract.update update = .error error) ∨
      accepts contract update = true ∧
        contract.update update = Contract.rebuild (updatedFields contract update) := by
  cases update with
  | withInboundProof proof updatedAt =>
    by_cases stamped : validTimestamp updatedAt = true
    · by_cases same : pnIsSameIdentity contract.pn (cleanPn proof.collectorPn) = true
      · by_cases valid : validInboundProof proof
            (preferFullPn contract.pn (cleanPn proof.collectorPn)) = true
        · exact Or.inr (by simp [accepts, stamped, same, valid, Contract.update,
            Contract.withInboundProof, Contract.enriched, updatedFields])
        · exact Or.inl (by simp [accepts, stamped, same, valid, Contract.update,
            Contract.withInboundProof, Contract.enriched])
      · exact Or.inl (by simp [accepts, stamped, same, Contract.update, Contract.withInboundProof,
          Contract.enriched])
    · exact Or.inl (by simp [accepts, stamped, Contract.update, Contract.withInboundProof])
  | withCallbackProof proof updatedAt =>
    by_cases stamped : validTimestamp updatedAt = true
    · by_cases same : pnIsSameIdentity contract.pn (cleanPn proof.collectorPn) = true
      · by_cases valid : validCallbackProof proof
            (preferFullPn contract.pn (cleanPn proof.collectorPn)) = true
        · exact Or.inr (by simp [accepts, stamped, same, valid, Contract.update,
            Contract.withCallbackProof, Contract.enriched, updatedFields])
        · exact Or.inl (by simp [accepts, stamped, same, valid, Contract.update,
            Contract.withCallbackProof, Contract.enriched])
      · exact Or.inl (by simp [accepts, stamped, same, Contract.update, Contract.withCallbackProof,
          Contract.enriched])
    · exact Or.inl (by simp [accepts, stamped, Contract.update, Contract.withCallbackProof])
  | withoutInboundProof updatedAt =>
    by_cases stamped : validTimestamp updatedAt = true
    · exact Or.inr (by simp [accepts, stamped, Contract.update, Contract.withoutInboundProof,
        updatedFields])
    · exact Or.inl (by simp [accepts, stamped, Contract.update, Contract.withoutInboundProof])
  | withoutCallbackProof updatedAt =>
    by_cases stamped : validTimestamp updatedAt = true
    · exact Or.inr (by simp [accepts, stamped, Contract.update, Contract.withoutCallbackProof,
        updatedFields])
    · exact Or.inl (by simp [accepts, stamped, Contract.update, Contract.withoutCallbackProof])

theorem stripped_timestamp {value : PyObj} (valid : validTimestamp value = true) :
    ∃ s, stripped value = .str s ∧ strip s = s ∧ (s = "" ∨ validTimestamp (.str s) = true) := by
  cases value with
  | str s => exact ⟨strip s, rfl, strip_idempotent s, Or.inr (by simpa [validTimestamp] using valid)⟩
  | strSubclass s text =>
    exact ⟨strip s, rfl, strip_idempotent s, Or.inr (by simpa [validTimestamp] using valid)⟩
  | _ => cases valid

theorem storedInbound_eq {proof : InboundRecoveryProof} {contractPn : String}
    (valid : validInboundProof proof contractPn = true) :
    Contract.storedInbound proof contractPn = { proof with collectorPn := .str contractPn } := by
  obtain ⟨⟨_, source, at_⟩, _, protocol, _⟩ := (validInboundProof_iff _ _).mp valid
  simp only [Contract.storedInbound, str_cleanStr_of_strict source, stripped_of_strict at_,
    str_cleanStr_of_strict protocol]

theorem storedCallback_eq {proof : CallbackRecoveryProof} {contractPn : String}
    (valid : validCallbackProof proof contractPn = true) :
    Contract.storedCallback proof contractPn =
      { proof with
        collectorPn := .str contractPn
        listenerPort := asInt proof.listenerPort } := by
  obtain ⟨⟨_, source, at_⟩, _, _, ⟨target, _⟩, ⟨endpoint, _⟩, _⟩ :=
    (validCallbackProof_iff _ _).mp valid
  simp only [Contract.storedCallback, str_cleanStr_of_strict source, stripped_of_strict at_,
    stripped_of_strict target, stripped_of_strict endpoint]

theorem asInt_of_valid {port : PyObj} (inRange : portNumber (cleanPort port) = portNumber port)
    (truthy : port.truthy = true) :
    ∃ n, asInt port = .int n ∧ portNumber (cleanPort (.int n)) = portNumber (.int n) ∧
      (PyObj.int n).truthy = true := by
  cases port with
  | int n => exact ⟨n, rfl, inRange, truthy⟩
  | intSubclass n text =>
    refine ⟨n, rfl, ?_, truthy⟩
    by_cases range : 0 < n ∧ n < 65536
    · simp [cleanPort, range]
    · simpa [cleanPort, range, portNumber] using inRange
  | _ => simp [cleanPort, portNumber] at inRange

theorem validInboundProof_stored {proof : InboundRecoveryProof} {contractPn : String}
    (trimmed : strip contractPn = contractPn)
    (valid : validInboundProof proof contractPn = true) :
    validInboundProof (Contract.storedInbound proof contractPn) contractPn = true := by
  rw [storedInbound_eq valid, validInboundProof_iff]
  obtain ⟨strict, evidence, protocol, _, same⟩ := (validInboundProof_iff _ _).mp valid
  refine ⟨strict, evidence, protocol, (strictStr_iff _).mpr ⟨_, rfl, trimmed⟩, ?_⟩
  rw [cleanPn_str, pnIsSameIdentity_strip_right]
  exact pnIsSameIdentity_self (pnIsSameIdentity_nonempty same).1

theorem validCallbackProof_stored {proof : CallbackRecoveryProof} {contractPn : String}
    (trimmed : strip contractPn = contractPn)
    (valid : validCallbackProof proof contractPn = true) :
    validCallbackProof (Contract.storedCallback proof contractPn) contractPn = true := by
  rw [storedCallback_eq valid, validCallbackProof_iff]
  obtain ⟨strict, evidence, ⟨_, same⟩, target, endpoint, inRange, truthy⟩ :=
    (validCallbackProof_iff _ _).mp valid
  obtain ⟨n, eq, inRange', truthy'⟩ := asInt_of_valid inRange truthy
  refine ⟨strict, evidence, ⟨(strictStr_iff _).mpr ⟨_, rfl, trimmed⟩, ?_⟩, target, endpoint, ?_⟩
  · rw [cleanPn_str, pnIsSameIdentity_strip_right]
    exact pnIsSameIdentity_self (pnIsSameIdentity_nonempty same).1
  · rw [eq]
    exact ⟨inRange', truthy'⟩

theorem Contract.pn_of_fields {contract : Contract} {pn : String}
    (stored : contract.fields.collectorPn = .str pn) : contract.pn = pn := by
  have own := contract.isAccepted.collectorPn
  rw [stored] at own
  exact (PyObj.str.inj own).symm

theorem preferFullPn_eq_own_iff {contract : Contract} {value : PyObj}
    (same : pnIsSameIdentity contract.pn (cleanPn value) = true) :
    preferFullPn contract.pn (cleanPn value) = contract.pn ↔
      decide (contract.pn.length < (cleanPn value).length) = false := by
  obtain ⟨nonempty, nonemptyOther⟩ := pnIsSameIdentity_nonempty same
  rw [contract.isAccepted.trimmed] at nonempty
  rw [strip_cleanPn] at nonemptyOther
  rw [decide_eq_false_iff_not, Nat.not_lt]
  simp only [preferFullPn, contract.isAccepted.trimmed, strip_cleanPn, nonempty, nonemptyOther,
    ↓reduceIte]
  split
  · rename_i shorter
    exact iff_of_true rfl shorter
  · rename_i longer
    refine iff_of_false (fun eq => longer ?_) longer
    rw [eq]

section Enriching
variable {contract : Contract} (within : PnsWithin contract)
include within

theorem held_valid_enriched {other : String}
    (same : pnIsSameIdentity contract.pn other = true) :
    (∀ proof ∈ contract.fields.inboundProof,
      validInboundProof proof (preferFullPn contract.pn other) = true) ∧
    ∀ proof ∈ contract.fields.callbackProof,
      validCallbackProof proof (preferFullPn contract.pn other) = true := by
  have accepted := contract.isAccepted
  constructor
  · intro proof held
    obtain ⟨strict, evidence, protocol, pn, own⟩ :=
      (validInboundProof_iff _ _).mp (accepted.inbound proof held)
    have shorter : (strip (cleanPn proof.collectorPn)).length ≤ (strip contract.pn).length := by
      rw [strip_cleanPn, accepted.trimmed]
      exact within.inbound proof held
    have still := (preferFullPn_still_completes own shorter same).1
    exact (validInboundProof_iff _ _).mpr ⟨strict, evidence, protocol, pn, still⟩
  · intro proof held
    obtain ⟨strict, evidence, ⟨pn, own⟩, route⟩ :=
      (validCallbackProof_iff _ _).mp (accepted.callback proof held)
    have shorter : (strip (cleanPn proof.collectorPn)).length ≤ (strip contract.pn).length := by
      rw [strip_cleanPn, accepted.trimmed]
      exact within.callback proof held
    have still := (preferFullPn_still_completes own shorter same).1
    exact (validCallbackProof_iff _ _).mpr ⟨strict, evidence, ⟨pn, still⟩, route⟩

theorem updatedFields_accepted {update : Update} (accepted : accepts contract update = true) :
    ∃ pn, Accepted (updatedFields contract update) pn ∧ contract.pn.length ≤ pn.length := by
  have own := contract.isAccepted
  cases update with
  | withInboundProof proof updatedAt =>
    simp only [accepts, Bool.and_eq_true] at accepted
    obtain ⟨⟨stamped, same⟩, valid⟩ := accepted
    obtain ⟨_, callback⟩ := held_valid_enriched within same
    refine ⟨preferFullPn contract.pn (cleanPn proof.collectorPn), ⟨own.version, rfl,
      strip_preferFullPn _ _, preferFullPn_nonempty (Or.inl (by rw [own.trimmed]; exact own.nonempty)),
      own.source, stripped_timestamp stamped, ?_, callback⟩, ?_⟩
    · intro stored held
      cases held
      exact validInboundProof_stored (strip_preferFullPn _ _) valid
    · exact preferFullPn_length own.trimmed _
  | withCallbackProof proof updatedAt =>
    simp only [accepts, Bool.and_eq_true] at accepted
    obtain ⟨⟨stamped, same⟩, valid⟩ := accepted
    obtain ⟨inbound, _⟩ := held_valid_enriched within same
    refine ⟨preferFullPn contract.pn (cleanPn proof.collectorPn), ⟨own.version, rfl,
      strip_preferFullPn _ _, preferFullPn_nonempty (Or.inl (by rw [own.trimmed]; exact own.nonempty)),
      own.source, stripped_timestamp stamped, inbound, ?_⟩, ?_⟩
    · intro stored held
      cases held
      exact validCallbackProof_stored (strip_preferFullPn _ _) valid
    · exact preferFullPn_length own.trimmed _
  | withoutInboundProof updatedAt =>
    refine ⟨contract.pn, ⟨own.version, own.collectorPn, own.trimmed, own.nonempty, own.source,
      stripped_timestamp accepted, ?_, own.callback⟩, Nat.le_refl _⟩
    intro stored held
    cases held
  | withoutCallbackProof updatedAt =>
    refine ⟨contract.pn, ⟨own.version, own.collectorPn, own.trimmed, own.nonempty, own.source,
      stripped_timestamp accepted, own.inbound, ?_⟩, Nat.le_refl _⟩
    intro stored held
    cases held

/-- The constructor never rejects what an update's own checks have let through. -/
theorem updateStep_cases (update : Update) :
    (accepts contract update = false ∧ updateStep contract update = contract) ∨
      accepts contract update = true ∧
        (updateStep contract update).fields = updatedFields contract update := by
  rcases update_cases contract update with ⟨refused, error, raised⟩ | ⟨accepted, rebuilt⟩
  · exact Or.inl ⟨refused, by simp [updateStep, raised]⟩
  · obtain ⟨pn, valid, _⟩ := updatedFields_accepted within accepted
    have none := (postInit_none_iff_accepted _).mpr ⟨pn, valid⟩
    have built := (construct_ok_fields_iff _ ⟨_, none⟩).mpr rfl
    refine Or.inr ⟨accepted, ?_⟩
    simp [updateStep, rebuilt, Contract.rebuild, built, Except.mapError]

/-- The proof an update brings is stored under the new spelling; the other one is kept, and
    the spelling it is kept under is no longer than the new one. -/
theorem within_updateStep (update : Update) : PnsWithin (updateStep contract update) := by
  rcases updateStep_cases within update with ⟨_, eq⟩ | ⟨accepted, eq⟩
  · rw [eq]
    exact within
  · cases update with
    | withInboundProof proof updatedAt =>
      have pn := Contract.pn_of_fields (congrArg Fields.collectorPn eq)
      have longer : contract.pn.length ≤ (preferFullPn contract.pn (cleanPn proof.collectorPn)).length :=
        preferFullPn_length contract.isAccepted.trimmed _
      constructor
      · intro stored held
        rw [eq] at held
        cases held
        rw [pn, Contract.storedInbound, cleanPn_str, strip_preferFullPn]
      · intro kept held
        rw [eq] at held
        rw [pn]
        exact Nat.le_trans (within.callback kept held) longer
    | withCallbackProof proof updatedAt =>
      have pn := Contract.pn_of_fields (congrArg Fields.collectorPn eq)
      have longer : contract.pn.length ≤ (preferFullPn contract.pn (cleanPn proof.collectorPn)).length :=
        preferFullPn_length contract.isAccepted.trimmed _
      constructor
      · intro kept held
        rw [eq] at held
        rw [pn]
        exact Nat.le_trans (within.inbound kept held) longer
      · intro stored held
        rw [eq] at held
        cases held
        rw [pn, Contract.storedCallback, cleanPn_str, strip_preferFullPn]
    | withoutInboundProof updatedAt =>
      have pn := Contract.pn_of_fields
        ((congrArg Fields.collectorPn eq).trans contract.isAccepted.collectorPn)
      constructor
      · intro stored held
        rw [eq] at held
        cases held
      · intro kept held
        rw [eq] at held
        rw [pn]
        exact within.callback kept held
    | withoutCallbackProof updatedAt =>
      have pn := Contract.pn_of_fields
        ((congrArg Fields.collectorPn eq).trans contract.isAccepted.collectorPn)
      constructor
      · intro kept held
        rw [eq] at held
        rw [pn]
        exact within.inbound kept held
      · intro stored held
        rw [eq] at held
        cases held

end Enriching

section Step
variable {contract : Contract} (within : PnsWithin contract)
include within

theorem uniform_updateStep_iff (uniform : Uniform contract) (update : Update) :
    Uniform (updateStep contract update) ↔ KeepsSpelling contract update := by
  obtain ⟨ownInbound, ownCallback⟩ := uniform
  rcases updateStep_cases within update with ⟨refused, eq⟩ | ⟨accepted, eq⟩
  · rw [eq]
    refine iff_of_true ⟨ownInbound, ownCallback⟩ ?_
    cases update <;> simp [KeepsSpelling, leavesBehind, refused]
  · cases update with
    | withInboundProof proof updatedAt =>
      have pn := Contract.pn_of_fields (congrArg Fields.collectorPn eq)
      have same := accepted
      simp only [accepts, Bool.and_eq_true] at same
      have spelling := preferFullPn_eq_own_iff same.1.2
      rw [Uniform, eq, pn, KeepsSpelling, leavesBehind, accepted]
      cases callback : contract.fields.callbackProof with
      | none => simp [updatedFields, Contract.storedInbound, callback]
      | some kept =>
        have own := ownCallback kept callback
        rw [Option.isSome_some, Bool.true_and, Bool.true_and, ← spelling]
        simp [updatedFields, Contract.storedInbound, callback, own, eq_comm]
    | withCallbackProof proof updatedAt =>
      have pn := Contract.pn_of_fields (congrArg Fields.collectorPn eq)
      have same := accepted
      simp only [accepts, Bool.and_eq_true] at same
      have spelling := preferFullPn_eq_own_iff same.1.2
      rw [Uniform, eq, pn, KeepsSpelling, leavesBehind, accepted]
      cases inbound : contract.fields.inboundProof with
      | none => simp [updatedFields, Contract.storedCallback, inbound]
      | some kept =>
        have own := ownInbound kept inbound
        rw [Option.isSome_some, Bool.true_and, Bool.true_and, ← spelling]
        simp [updatedFields, Contract.storedCallback, inbound, own, eq_comm]
    | withoutInboundProof updatedAt =>
      have pn := Contract.pn_of_fields
        ((congrArg Fields.collectorPn eq).trans contract.isAccepted.collectorPn)
      rw [Uniform, eq, pn]
      exact iff_of_true ⟨by simp [updatedFields], ownCallback⟩ rfl
    | withoutCallbackProof updatedAt =>
      have pn := Contract.pn_of_fields
        ((congrArg Fields.collectorPn eq).trans contract.isAccepted.collectorPn)
      rw [Uniform, eq, pn]
      exact iff_of_true ⟨ownInbound, by simp [updatedFields]⟩ rfl

end Step

theorem emptyForPn_holds_nothing {collectorPn identitySource updatedAt : PyObj} {start : Contract}
    (seeded : emptyForPn collectorPn identitySource updatedAt = .ok start) :
    start.fields.inboundProof = none ∧ start.fields.callbackProof = none := by
  unfold emptyForPn at seeded
  split at seeded
  · cases seeded
  · have fields := (construct_ok_fields_iff _ _).mp seeded
    simp [fields]

theorem within_of_no_proof {contract : Contract} (inbound : contract.fields.inboundProof = none)
    (callback : contract.fields.callbackProof = none) : PnsWithin contract := by
  constructor
  · simp [inbound]
  · simp [callback]

/-- Every contract of a history comes back from its own record exactly when no update of the
    history enriches the contract over a proof it already holds. -/
theorem history_round_trips_iff {collectorPn identitySource updatedAt : PyObj} {start : Contract}
    (seeded : emptyForPn collectorPn identitySource updatedAt = .ok start) (updates : List Update) :
    EveryState updateStep RoundTrips start updates ↔
      EveryStep updateStep KeepsSpelling start updates := by
  obtain ⟨inbound, callback⟩ := emptyForPn_holds_nothing seeded
  have within := within_of_no_proof inbound callback
  have supported : ∀ contract update, PnsWithin contract → PnsWithin (updateStep contract update) :=
    fun _ update within => within_updateStep within update
  refine everyState_iff_everyStep supported ?_ within ?_ updates
  · intro contract update within roundTrips
    rw [roundTrips_iff_uniform (within_updateStep within update)]
    exact uniform_updateStep_iff within ((roundTrips_iff_uniform within).mp roundTrips) update
  · rw [roundTrips_iff_uniform within]
    exact ⟨by simp [inbound], by simp [callback]⟩

def shortCallbackUpdate : Update :=
  .withCallbackProof
    { method := .str "reset_unicast_reconnect_same_pn"
      collectorPn := .str "E500002000"
      identitySource := .str "fc2_parameter_2"
      verifiedAt := .str "2026-01-02T03:04:05+00:00"
      triggerTarget := .str "192.168.1.50"
      advertisedHaEndpoint := .str "192.168.1.10:8899"
      listenerPort := .int 8899 }
    (.str "2026-01-02T03:04:05+00:00")

def fullInboundUpdate : Update :=
  .withInboundProof
    { method := .str "reboot_reconnect_no_trigger"
      collectorPn := .str "E5000020000001"
      identitySource := .str "fc2_parameter_2"
      verifiedAt := .str "2026-01-03T03:04:05+00:00"
      sessionProtocol := .str "eybond" }
    (.str "2026-01-03T03:04:05+00:00")

def seedContract : Contract where
  fields :=
    { schemaVersion := .int 1
      collectorPn := .str "E500002000"
      collectorIdentitySource := .str "fc2_parameter_2"
      inboundProof := none
      callbackProof := none
      updatedAt := .str "" }
  accepted := by decide +kernel

theorem seedContract_seeded :
    emptyForPn (.str "E500002000") (.str "fc2_parameter_2") (.str "") = .ok seedContract := by
  have nonempty : cleanPn (.str "E500002000") ≠ "" := by decide +kernel
  have trimmed : cleanPn (.str "E500002000") = "E500002000" := by decide +kernel
  have source : cleanStr (.str "fc2_parameter_2") = "fc2_parameter_2" := by decide +kernel
  rw [emptyForPn, if_neg nonempty, construct_ok_fields_iff, trimmed, source]
  rfl

/-- The full PN first: the second proof brings nothing longer. -/
theorem full_pn_first_round_trips :
    EveryState updateStep RoundTrips seedContract [fullInboundUpdate, shortCallbackUpdate] := by
  rw [history_round_trips_iff seedContract_seeded]
  exact ⟨by unfold KeepsSpelling; decide +kernel, by unfold KeepsSpelling; decide +kernel, trivial⟩

def parsedCallbackPn : Except ContractError (Option Contract) → Option String
  | .ok (some contract) => contract.fields.callbackProof.map fun proof => cleanPn proof.collectorPn
  | _ => none

theorem short_pn_first_does_not_round_trip :
    emptyForPn (.str "E500002000") (.str "fc2_parameter_2") (.str "") = .ok seedContract ∧
      ¬ RoundTrips (run updateStep seedContract [shortCallbackUpdate, fullInboundUpdate]) := by
  refine ⟨seedContract_seeded, ?_⟩
  intro roundTrips
  have differ : parsedCallbackPn
      (.ok (some (run updateStep seedContract [shortCallbackUpdate, fullInboundUpdate]))) =
        some "E500002000" ∧
      parsedCallbackPn
        (fromRecord (run updateStep seedContract [shortCallbackUpdate, fullInboundUpdate]).toRecord) =
          some "E5000020000001" := by decide +kernel
  obtain ⟨stored, parsed⟩ := differ
  rw [roundTrips, stored] at parsed
  simp at parsed

end RecoveryContract
