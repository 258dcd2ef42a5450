import EybondLocal.Library.OrderedDict
import EybondLocal.RecoveryContract.RoundTrip
import EybondLocal.RecoveryVerification.Terminal

/-!
Merging a terminal's proof into the recovery contract of one config entry
(`merge_recovery_contract` in `connection/recovery/terminal.py`). The terminal's PN, the entry's,
the proof's and the stored contract's are compared in pairs, and being one identity is not
transitive, so what the merged record parses to is followed through each enrichment.
-/
namespace RecoveryVerification
open StripText PythonObject CollectorIdentity RecoveryContract OrderedDict PrefixIdentity

abbrev EntryData := Dict String PyObj

def recoveryContractKey : String := "recovery_contract"
def confCollectorPn : String := "collector_pn"

def entryValue (data : EntryData) (key : String) : PyObj := (data.get? key).getD .none

def fromEntryData (data : EntryData) : Except ContractError (Option Contract) :=
  fromRecord (entryValue data recoveryContractKey)

def writeTo (contract : Contract) (data : EntryData) : EntryData :=
  data.set recoveryContractKey contract.toRecord

/-- The reasons `merge_recovery_contract` returns; its empty text is no refusal. -/
inductive MergeRefusal where
  | malformedContract
  | entryIdentity
  | proofRejected
  deriving DecidableEq, Repr

def blankRecord : PyObj → Bool
  | .none => true
  | .mapping items _ => items.isEmpty
  | .str s => s == ""
  | .strSubclass s _ => s == ""
  | _ => false

namespace TerminalFields

def identitySource (fields : TerminalFields) : PyObj :=
  match fields.inboundProof, fields.callbackProof with
  | some proof, _ => proof.identitySource
  | none, some proof => proof.identitySource
  | none, none => .none

def baseFor (fields : TerminalFields) : Option Contract → Except UpdateError Contract
  | some existing => .ok existing
  | none => (emptyForPn (.str fields.collectorPn) fields.identitySource (.str "")).mapError .rejected

def addProof (fields : TerminalFields) (base : Contract) : Except UpdateError Contract :=
  match fields.callbackProof, fields.inboundProof with
  | some proof, _ => base.withCallbackProof proof proof.verifiedAt
  | none, some proof => base.withInboundProof proof proof.verifiedAt
  | none, none => .ok base

def mergedContract (fields : TerminalFields) (existing : Option Contract) :
    Except UpdateError Contract := fields.baseFor existing >>= fields.addProof

end TerminalFields

def mergeInto (data : EntryData) (fields : TerminalFields) (existing : Option Contract) :
    Option MergeRefusal × EntryData :=
  match fields.mergedContract existing with
  | .error _ => (some .proofRejected, data)
  | .ok merged => (none, writeTo merged data)

def mergeRecoveryContract (data : EntryData) (terminal : RecoveryTerminalInput) :
    Except ContractError (Option MergeRefusal × EntryData) :=
  let entryPn := (entryValue data confCollectorPn).cleanText
  let raw := entryValue data recoveryContractKey
  if terminal.hasProof = false then .ok (none, data)
  else if entryPn ≠ "" ∧ ¬ pnIsSameIdentity entryPn terminal.fields.collectorPn then
    .ok (some .entryIdentity, data)
  else if blankRecord raw then .ok (mergeInto data terminal.fields none)
  else
    match fromEntryData data with
    | .error error => .error error
    | .ok none => .ok (some .malformedContract, data)
    | .ok (some existing) => .ok (mergeInto data terminal.fields (some existing))

theorem preferFullPn_right_length (left : String) {right : String} (trimmed : strip right = right) :
    right.length ≤ (preferFullPn left right).length := by
  by_cases hl : strip left = ""
  · simp [preferFullPn, hl, trimmed]
  · by_cases hr : right = ""
    · simp [hr]
    · simp only [preferFullPn, trimmed, hl, hr, ↓reduceIte]
      split
      · assumption
      · omega

theorem enrichedPn_covers (contractPn : String)
    (inbound : Option InboundRecoveryProof) (callback : Option CallbackRecoveryProof) :
    (∀ proof ∈ inbound,
      (cleanPn proof.collectorPn).length ≤ (enrichedPn contractPn inbound callback).length) ∧
    ∀ proof ∈ callback,
      (cleanPn proof.collectorPn).length ≤ (enrichedPn contractPn inbound callback).length := by
  constructor
  · intro proof held
    cases held
    have first := preferFullPn_right_length contractPn (strip_cleanPn proof.collectorPn)
    cases callback with
    | none => exact first
    | some other => exact Nat.le_trans first (preferFullPn_length (strip_preferFullPn _ _) _)
  · intro proof held
    cases held
    exact preferFullPn_right_length _ (strip_cleanPn _)

theorem within_of_fromRecord {record : PyObj} {contract : Contract}
    (parsed : fromRecord record = .ok (some contract)) : PnsWithin contract := by
  cases record with
  | mapping items _ =>
    unfold fromRecord at parsed
    dsimp only at parsed
    split at parsed
    · cases built : construct (recordFields items) with
      | error error =>
        rw [built] at parsed
        cases parsed
      | ok own =>
        rw [built] at parsed
        cases parsed
        have fields := (construct_ok_fields_iff _ _).mp built
        have pn := Contract.pn_of_fields (congrArg Fields.collectorPn fields)
        obtain ⟨inbound, callback⟩ := enrichedPn_covers (cleanPn (PyObj.get items "collector_pn"))
          (recordFields items).inboundProof (recordFields items).callbackProof
        constructor
        · intro proof held
          rw [fields] at held
          rw [pn]
          exact inbound proof held
        · intro proof held
          rw [fields] at held
          rw [pn]
          exact callback proof held
    · cases parsed
  | _ => cases parsed

theorem emptyForPn_fields {pn : String} {identitySource : PyObj} {contract : Contract}
    (trimmed : strip pn = pn) (seeded : emptyForPn (.str pn) identitySource (.str "") = .ok contract) :
    contract.pn = pn ∧ contract.fields.inboundProof = none ∧ contract.fields.callbackProof = none := by
  unfold emptyForPn at seeded
  rw [cleanPn_str, trimmed] at seeded
  split at seeded
  · cases seeded
  · have fields := (construct_ok_fields_iff _ _).mp seeded
    rw [fields]
    exact ⟨Contract.pn_of_fields (congrArg Fields.collectorPn fields), rfl, rfl⟩

theorem startsWith_preferFullPn {left right : String} (trimmed : strip left = left)
    (same : pnIsSameIdentity left right = true) :
    startsWith (preferFullPn left right) left = true := by
  obtain ⟨hl, hr⟩ := pnIsSameIdentity_nonempty same
  rw [startsWith_iff]
  rcases preferFullPn_cases hl hr with ⟨own, _⟩ | ⟨other, longer⟩
  · rw [own, trimmed]
  · rw [pnIsSameIdentity_iff] at same
    rw [other]
    have begins := compatible_shorter_begins same (by simpa [String.length_toList] using longer)
    rwa [trimmed] at begins

/-- Two PNs that are one identity with a third are one identity through its completion, unless
    they diverge. -/
theorem pnIsSameIdentity_through {contractPn proofPn terminalPn : String}
    (contract : pnIsSameIdentity contractPn proofPn = true)
    (terminal : pnIsSameIdentity terminalPn proofPn = true)
    (converge : startsWith (strip contractPn) (strip terminalPn) = true ∨
      startsWith (strip terminalPn) (strip contractPn) = true) :
    pnIsSameIdentity (preferFullPn contractPn proofPn) terminalPn = true := by
  obtain ⟨hl, hr⟩ := pnIsSameIdentity_nonempty contract
  rcases preferFullPn_cases hl hr with ⟨own, shorter⟩ | ⟨other, _⟩
  · rw [own, pnIsSameIdentity_strip_left, pnIsSameIdentity_iff]
    rw [pnIsSameIdentity_comm, pnIsSameIdentity_iff] at contract terminal
    rw [startsWith_iff, startsWith_iff] at converge
    have below : (strip proofPn).toList.length ≤ (strip contractPn).toList.length := by
      simpa [String.length_toList] using shorter
    by_cases longer : (strip proofPn).toList.length ≤ (strip terminalPn).toList.length
    · exact (compatible_extensions_iff contract terminal below longer).mpr converge.symm
    · exact compatible_symm (compatible_extend (compatible_symm terminal) (by omega) contract below)
  · rw [other, pnIsSameIdentity_strip_left, pnIsSameIdentity_comm]
    exact terminal

theorem update_ok {base merged : Contract} {update : Update} (within : PnsWithin base)
    (updated : base.update update = .ok merged) :
    accepts base update = true ∧ merged.fields = updatedFields base update ∧ PnsWithin merged := by
  have stepped : updateStep base update = merged := by simp [updateStep, updated]
  have held := within_updateStep within update
  rw [stepped] at held
  rcases update_cases base update with ⟨_, error, raised⟩ | ⟨accepted, rebuilt⟩
  · rw [raised] at updated
    cases updated
  · rw [rebuilt] at updated
    cases built : construct (updatedFields base update) with
    | error error =>
      rw [Contract.rebuild, built] at updated
      cases updated
    | ok own =>
      rw [Contract.rebuild, built] at updated
      cases updated
      exact ⟨accepted, (construct_ok_fields_iff _ _).mp built, held⟩

/-- What the merged record parses to: the terminal's proof in its own branch, the other branch as
    it was, both under the PN the contract now has, which continues the one it had. -/
structure Merged (before : Option Contract) (fields : TerminalFields) (after : Contract) : Prop where
  inbound : ∀ proof ∈ fields.inboundProof,
    after.fields.inboundProof = some { proof with collectorPn := .str after.pn } ∧
      after.fields.callbackProof = (before.bind (·.fields.callbackProof)).map fun kept =>
        { kept with collectorPn := .str after.pn }
  callback : ∀ proof ∈ fields.callbackProof,
    after.fields.callbackProof = some
      { proof with collectorPn := .str after.pn, listenerPort := asInt proof.listenerPort } ∧
      after.fields.inboundProof = (before.bind (·.fields.inboundProof)).map fun kept =>
        { kept with collectorPn := .str after.pn }
  continues : ∀ contract ∈ before, startsWith after.pn contract.pn = true
  proofIdentity : ∀ proofPn ∈ fields.proofPn, pnIsSameIdentity after.pn (cleanPn proofPn) = true
  terminalIdentity :
    (∀ contract ∈ before, startsWith contract.pn fields.collectorPn = true ∨
      startsWith fields.collectorPn contract.pn = true) →
    pnIsSameIdentity after.pn fields.collectorPn = true

namespace RecoveryTerminalInput
variable (terminal : RecoveryTerminalInput)

theorem carries (proof : terminal.hasProof = true) :
    strip terminal.fields.collectorPn = terminal.fields.collectorPn ∧
      (∀ proofPn ∈ terminal.fields.proofPn,
        pnIsSameIdentity terminal.fields.collectorPn (normalizePn proofPn) = true) ∧
      ¬ (terminal.fields.inboundProof.isSome ∧ terminal.fields.callbackProof.isSome) := by
  have accepted := terminal.accepted
  unfold hasProof at proof
  unfold TerminalFields.postInit at accepted
  split at accepted
  · cases accepted
  · rename_i single
    split at accepted
    · rename_i absent
      rw [absent] at proof
      cases proof
    · rename_i proofPn held
      split at accepted
      · cases accepted
      · rename_i token
        split at accepted
        · cases accepted
        · rename_i same
          rw [not_not] at token same
          unfold requiredToken at token
          rw [Bool.and_eq_true, beq_iff_eq] at token
          refine ⟨token.2.symm, ?_, single⟩
          intro other mem
          rw [held] at mem
          cases mem
          exact same

end RecoveryTerminalInput

section Merge
variable {base merged : Contract} {fields : TerminalFields} (within : PnsWithin base)
include within

/-- The record of an update that returned parses to the contract it announces, each proof under the
    PN the contract has. -/
theorem parses_of_update {update : Update} (updated : base.update update = .ok merged) :
    ∃ parsed, fromRecord merged.toRecord = .ok (some parsed) ∧ parsed.pn = merged.pn ∧
      parsed.fields = respelled merged ∧ accepts base update = true ∧
      merged.fields = updatedFields base update := by
  obtain ⟨accepted, stored, held⟩ := update_ok within updated
  obtain ⟨parsed, reads, fields⟩ := fromRecord_toRecord held
  refine ⟨parsed, reads, ?_, fields, accepted, stored⟩
  apply Contract.pn_of_fields
  rw [fields]
  exact merged.isAccepted.collectorPn

theorem merged_inbound {proof : InboundRecoveryProof}
    (updated : base.withInboundProof proof proof.verifiedAt = .ok merged) :
    ∃ parsed, fromRecord merged.toRecord = .ok (some parsed) ∧
      parsed.pn = preferFullPn base.pn (cleanPn proof.collectorPn) ∧
      parsed.fields.inboundProof = some { proof with collectorPn := .str parsed.pn } ∧
      parsed.fields.callbackProof = base.fields.callbackProof.map (fun kept =>
        { kept with collectorPn := .str parsed.pn }) ∧
      strictStr proof.collectorPn = true ∧
      pnIsSameIdentity base.pn (cleanPn proof.collectorPn) = true := by
  have own : base.update (.withInboundProof proof proof.verifiedAt) = .ok merged := updated
  obtain ⟨parsed, reads, pn, fields, accepted, stored⟩ := parses_of_update within own
  simp only [accepts, Bool.and_eq_true] at accepted
  obtain ⟨⟨_, same⟩, valid⟩ := accepted
  have mergedPn := Contract.pn_of_fields (congrArg Fields.collectorPn stored)
  obtain ⟨_, _, _, strict, _⟩ := (validInboundProof_iff _ _).mp valid
  refine ⟨parsed, reads, pn.trans mergedPn, ?_, ?_, strict, same⟩
  · rw [fields, pn, respelled, stored]
    simp only [updatedFields, Option.map_some, storedInbound_eq valid]
  · rw [fields, pn, respelled, stored]
    rfl

theorem merged_callback {proof : CallbackRecoveryProof}
    (updated : base.withCallbackProof proof proof.verifiedAt = .ok merged) :
    ∃ parsed, fromRecord merged.toRecord = .ok (some parsed) ∧
      parsed.pn = preferFullPn base.pn (cleanPn proof.collectorPn) ∧
      parsed.fields.callbackProof = some
        { proof with collectorPn := .str parsed.pn, listenerPort := asInt proof.listenerPort } ∧
      parsed.fields.inboundProof = base.fields.inboundProof.map (fun kept =>
        { kept with collectorPn := .str parsed.pn }) ∧
      strictStr proof.collectorPn = true ∧
      pnIsSameIdentity base.pn (cleanPn proof.collectorPn) = true := by
  have own : base.update (.withCallbackProof proof proof.verifiedAt) = .ok merged := updated
  obtain ⟨parsed, reads, pn, fields, accepted, stored⟩ := parses_of_update within own
  simp only [accepts, Bool.and_eq_true] at accepted
  obtain ⟨⟨_, same⟩, valid⟩ := accepted
  have mergedPn := Contract.pn_of_fields (congrArg Fields.collectorPn stored)
  obtain ⟨_, _, ⟨strict, _⟩, _⟩ := (validCallbackProof_iff _ _).mp valid
  refine ⟨parsed, reads, pn.trans mergedPn, ?_, ?_, strict, same⟩
  · rw [fields, pn, respelled, stored]
    simp only [updatedFields, Option.map_some, storedCallback_eq valid]
  · rw [fields, pn, respelled, stored]
    rfl

end Merge

structure Seeded (existing : Option Contract) (fields : TerminalFields) (base : Contract) : Prop where
  within : PnsWithin base
  inbound : base.fields.inboundProof = existing.bind (·.fields.inboundProof)
  callback : base.fields.callbackProof = existing.bind (·.fields.callbackProof)
  stored : ∀ contract ∈ existing, contract = base
  fresh : existing = none → base.pn = fields.collectorPn

theorem seeded_of_mergedContract {existing : Option Contract} {fields : TerminalFields}
    {merged : Contract} (trimmed : strip fields.collectorPn = fields.collectorPn)
    (within : ∀ contract ∈ existing, PnsWithin contract)
    (added : fields.mergedContract existing = .ok merged) :
    ∃ base, Seeded existing fields base ∧ fields.addProof base = .ok merged := by
  unfold TerminalFields.mergedContract at added
  obtain ⟨base, based, added⟩ := bind_eq_ok.mp added
  refine ⟨base, ?_, added⟩
  cases existing with
  | some contract =>
    cases based
    exact ⟨within base rfl, rfl, rfl, fun other mem => (Option.some.inj mem).symm, nofun⟩
  | none =>
    cases seeded : emptyForPn (.str fields.collectorPn) fields.identitySource (.str "") with
    | error error =>
      rw [TerminalFields.baseFor, seeded] at based
      cases based
    | ok empty =>
      rw [TerminalFields.baseFor, seeded] at based
      cases based
      obtain ⟨pn, inbound, callback⟩ := emptyForPn_fields trimmed seeded
      constructor
      case within =>
        constructor
        · intro proof held
          rw [inbound] at held
          cases held
        · intro proof held
          rw [callback] at held
          cases held
      case inbound => exact inbound
      case callback => exact callback
      case stored => nofun
      case fresh => exact fun _ => pn

/-- The PN of the merged contract is one identity with the proof's, continues the stored one and,
    unless that and the terminal's diverge, is the terminal's identity. -/
theorem seeded_identity {existing : Option Contract} {fields : TerminalFields} {base : Contract}
    {proofPn : PyObj} (trimmed : strip fields.collectorPn = fields.collectorPn)
    (seeded : Seeded existing fields base) (strict : strictStr proofPn = true)
    (same : pnIsSameIdentity base.pn (cleanPn proofPn) = true)
    (terminal : pnIsSameIdentity fields.collectorPn (normalizePn proofPn) = true) :
    let pn := preferFullPn base.pn (cleanPn proofPn)
    (∀ contract ∈ existing, startsWith pn contract.pn = true) ∧
      pnIsSameIdentity pn (cleanPn proofPn) = true ∧
      ((∀ contract ∈ existing, startsWith contract.pn fields.collectorPn = true ∨
          startsWith fields.collectorPn contract.pn = true) →
        pnIsSameIdentity pn fields.collectorPn = true) := by
  have trimmedBase := base.isAccepted.trimmed
  have text : normalizePn proofPn = cleanPn proofPn := by
    obtain ⟨s, rfl, _⟩ := (strictStr_iff proofPn).mp strict
    simp [normalizePn]
  rw [text] at terminal
  obtain ⟨hl, hr⟩ := pnIsSameIdentity_nonempty same
  refine ⟨?_, ((preferFullPn_covers_both_iff hl hr).mpr same).2, ?_⟩
  · intro contract held
    rw [seeded.stored contract held]
    exact startsWith_preferFullPn trimmedBase same
  · intro converge
    apply pnIsSameIdentity_through same terminal
    rw [trimmed, trimmedBase]
    cases existing with
    | some contract =>
      have own := converge contract rfl
      rwa [seeded.stored contract rfl] at own
    | none =>
      rw [seeded.fresh rfl]
      exact Or.inl ((startsWith_iff _ _).mpr List.prefix_rfl)

theorem mergedContract_parses {existing : Option Contract} {merged : Contract}
    (terminal : RecoveryTerminalInput) (proof : terminal.hasProof = true)
    (within : ∀ contract ∈ existing, PnsWithin contract)
    (added : terminal.fields.mergedContract existing = .ok merged) :
    ∃ parsed, fromRecord merged.toRecord = .ok (some parsed) ∧
      Merged existing terminal.fields parsed := by
  obtain ⟨trimmed, identity, single⟩ := terminal.carries proof
  obtain ⟨base, seeded, updated⟩ := seeded_of_mergedContract trimmed within added
  unfold TerminalFields.proofPn at identity
  unfold RecoveryTerminalInput.hasProof TerminalFields.proofPn at proof
  cases inbound : terminal.fields.inboundProof with
  | some own =>
    cases callback : terminal.fields.callbackProof with
    | some other =>
      rw [inbound, callback] at single
      exact absurd ⟨rfl, rfl⟩ single
    | none =>
      rw [TerminalFields.addProof, inbound, callback] at updated
      rw [inbound] at identity
      obtain ⟨parsed, reads, pn, branch, opposite, strict, same⟩ :=
        merged_inbound seeded.within updated
      obtain ⟨continues, ofProof, ofTerminal⟩ :=
        seeded_identity trimmed seeded strict same (identity _ rfl)
      rw [← pn] at continues ofProof ofTerminal
      rw [seeded.callback] at opposite
      refine ⟨parsed, reads, ?_, ?_, continues, ?_, ofTerminal⟩
      · intro proof held
        rw [inbound] at held
        cases held
        exact ⟨branch, opposite⟩
      · intro proof held
        rw [callback] at held
        cases held
      · intro proofPn held
        rw [TerminalFields.proofPn, inbound] at held
        cases held
        exact ofProof
  | none =>
    cases callback : terminal.fields.callbackProof with
    | none =>
      rw [inbound, callback] at proof
      cases proof
    | some own =>
      rw [TerminalFields.addProof, inbound, callback] at updated
      rw [inbound, callback] at identity
      obtain ⟨parsed, reads, pn, branch, opposite, strict, same⟩ :=
        merged_callback seeded.within updated
      obtain ⟨continues, ofProof, ofTerminal⟩ :=
        seeded_identity trimmed seeded strict same (identity _ rfl)
      rw [← pn] at continues ofProof ofTerminal
      rw [seeded.inbound] at opposite
      refine ⟨parsed, reads, ?_, ?_, continues, ?_, ofTerminal⟩
      · intro proof held
        rw [inbound] at held
        cases held
      · intro proof held
        rw [callback] at held
        cases held
        exact ⟨branch, opposite⟩
      · intro proofPn held
        rw [TerminalFields.proofPn, inbound, callback] at held
        cases held
        exact ofProof

/-- The call returns: with a refusal the data is what it was; with success only the contract key
    may change, and with a proof the record under it parses to the merged contract. -/
def MergesAtomically (data : EntryData) (terminal : RecoveryTerminalInput) : Prop :=
  ∃ before refusal after, fromEntryData data = .ok before ∧
    mergeRecoveryContract data terminal = .ok (refusal, after) ∧
    (refusal ≠ none → after = data) ∧
    (terminal.hasProof = false → refusal = none ∧ after = data) ∧
    (refusal = none → ∀ key, key ≠ recoveryContractKey → after.get? key = data.get? key) ∧
    (refusal = none → terminal.hasProof = true →
      ∃ parsed, fromEntryData after = .ok (some parsed) ∧ Merged before terminal.fields parsed)

theorem entryValue_writeTo (contract : Contract) (data : EntryData) :
    entryValue (writeTo contract data) recoveryContractKey = contract.toRecord := by
  unfold entryValue writeTo
  rw [Dict.get?_set, if_pos rfl, Option.getD_some]

theorem fromRecord_of_blank {raw : PyObj} (blank : blankRecord raw = true) :
    fromRecord raw = .ok none := by
  cases raw with
  | mapping items rendered =>
    rw [blankRecord, List.isEmpty_iff] at blank
    rw [blank]
    rfl
  | _ => rfl

section Whole
variable {data : EntryData} {terminal : RecoveryTerminalInput} {before : Option Contract}

theorem merges_of_refusal {refusal : MergeRefusal} (proof : terminal.hasProof = true)
    (parsed : fromEntryData data = .ok before)
    (refused : mergeRecoveryContract data terminal = .ok (some refusal, data)) :
    MergesAtomically data terminal := by
  refine ⟨before, some refusal, data, parsed, refused, fun _ => rfl, ?_, nofun, nofun⟩
  intro absent
  rw [absent] at proof
  cases proof

theorem merges_of_mergeInto (proof : terminal.hasProof = true)
    (parsed : fromEntryData data = .ok before)
    (reached : mergeRecoveryContract data terminal = .ok (mergeInto data terminal.fields before)) :
    MergesAtomically data terminal := by
  unfold mergeInto at reached
  cases added : terminal.fields.mergedContract before with
  | error error =>
    rw [added] at reached
    exact merges_of_refusal proof parsed reached
  | ok merged =>
    rw [added] at reached
    have within : ∀ contract ∈ before, PnsWithin contract := by
      intro contract held
      cases held
      exact within_of_fromRecord parsed
    refine ⟨before, none, writeTo merged data, parsed, reached, ?_, ?_, ?_, ?_⟩
    · intro refused
      exact absurd rfl refused
    · intro absent
      rw [absent] at proof
      cases proof
    · intro _ key other
      unfold writeTo
      rw [Dict.get?_set, if_neg other]
    · intro _ _
      unfold fromEntryData
      rw [entryValue_writeTo]
      exact mergedContract_parses terminal proof within added

end Whole

/-- Whatever the entry holds, unless its record is one the parser raises on. -/
theorem mergeRecoveryContract_merges (data : EntryData) (terminal : RecoveryTerminalInput)
    (consistent : contradictory (entryValue data recoveryContractKey) = false) :
    MergesAtomically data terminal := by
  obtain ⟨before, parsed⟩ := fromRecord_of_consistent consistent
  have parsedData : fromEntryData data = .ok before := parsed
  cases proof : terminal.hasProof with
  | false =>
    have noop : mergeRecoveryContract data terminal = .ok (none, data) := if_pos proof
    refine ⟨before, none, data, parsed, noop, fun _ => rfl, fun _ => ⟨rfl, rfl⟩, fun _ _ _ => rfl, ?_⟩
    intro _ held
    rw [proof] at held
    cases held
  | true =>
    have carried : ¬ terminal.hasProof = false := by simp [proof]
    by_cases foreign : (entryValue data confCollectorPn).cleanText ≠ "" ∧
        ¬ pnIsSameIdentity (entryValue data confCollectorPn).cleanText terminal.fields.collectorPn
    · apply merges_of_refusal proof parsedData
      unfold mergeRecoveryContract
      rw [if_neg carried, if_pos foreign]
    · by_cases blank : blankRecord (entryValue data recoveryContractKey) = true
      · have absent : before = none := by
          rw [fromRecord_of_blank blank] at parsed
          exact (Except.ok.inj parsed).symm
        subst absent
        apply merges_of_mergeInto proof parsedData
        unfold mergeRecoveryContract
        rw [if_neg carried, if_neg foreign, if_pos blank]
      · cases before with
        | none =>
          apply merges_of_refusal proof parsedData
          unfold mergeRecoveryContract
          rw [if_neg carried, if_neg foreign, if_neg blank, parsedData]
        | some existing =>
          apply merges_of_mergeInto proof parsedData
          unfold mergeRecoveryContract
          rw [if_neg carried, if_neg foreign, if_neg blank, parsedData]

def fullPnData : EntryData :=
  ⟨[("collector_pn", .str "E5000020000001"),
    ("recovery_contract", .mapping
      [("schema_version", .int 1), ("collector_pn", .str "E5000020000001"),
        ("collector_identity_source", .str "fc2_parameter_2"),
        ("updated_at", .str "2026-01-02T03:04:05+00:00"),
        ("inbound", .mapping
          [("method", .str "reboot_reconnect_no_trigger"), ("collector_pn", .str "E5000020000001"),
            ("identity_source", .str "fc2_parameter_2"),
            ("verified_at", .str "2026-01-02T03:04:05+00:00"),
            ("session_protocol", .str "eybond")] "")] "")], by decide⟩

def shortPnTerminal : RecoveryTerminalInput where
  fields :=
    { collectorPn := "E500002000"
      callbackProof := some
        { method := .str "reset_unicast_reconnect_same_pn"
          collectorPn := .str "E500002000"
          identitySource := .str "fc2_parameter_2"
          verifiedAt := .str "2026-01-03T03:04:05+00:00"
          triggerTarget := .str "192.168.1.50"
          advertisedHaEndpoint := .str "192.168.1.10:8899"
          listenerPort := .int 8899 } }
  accepted := by decide +kernel

theorem mergeRecoveryContract_merges_shortPn : MergesAtomically fullPnData shortPnTerminal :=
  mergeRecoveryContract_merges fullPnData shortPnTerminal (by decide +kernel)

def mergedCallbackPn (data : EntryData) (terminal : RecoveryTerminalInput) : Option String :=
  match mergeRecoveryContract data terminal with
  | .ok (none, after) =>
    match fromEntryData after with
    | .ok (some parsed) => parsed.fields.callbackProof.map (·.collectorPn.render)
    | _ => none
  | _ => none

theorem mergedCallbackPn_of_verbatim {data : EntryData} {terminal : RecoveryTerminalInput}
    {proof : CallbackRecoveryProof} {pn : String}
    (verbatim : ∀ after parsed, mergeRecoveryContract data terminal = .ok (none, after) →
      fromEntryData after = .ok (some parsed) → parsed.fields.callbackProof = some proof)
    (completed : mergedCallbackPn data terminal = some pn) : proof.collectorPn.render = pn := by
  unfold mergedCallbackPn at completed
  split at completed
  · rename_i after merged
    split at completed
    · rename_i parsed reads
      rw [verbatim after parsed merged reads] at completed
      exact Option.some.inj completed
    · cases completed
  · cases completed

/-- The new proof is not stored as it is: its PN is completed to the contract's. -/
theorem shortPn_completed :
    ¬ ∀ data terminal after parsed, mergeRecoveryContract data terminal = .ok (none, after) →
      fromEntryData after = .ok (some parsed) →
      ∀ proof ∈ terminal.fields.callbackProof, parsed.fields.callbackProof = some proof := by
  intro verbatim
  have completed : mergedCallbackPn fullPnData shortPnTerminal = some "E5000020000001" := by
    decide +kernel
  have kept := mergedCallbackPn_of_verbatim
    (fun after parsed merged reads => verbatim _ _ after parsed merged reads _ rfl) completed
  revert kept
  decide +kernel

end RecoveryVerification
