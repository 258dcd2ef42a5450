import EybondLocal.RecoveryContract.Model

/-!
Which persisted records `from_record` parses. The constructor checks again what the parser
has cleaned; the two disagree on a version or timestamp that is a subclass in disguise,
and on two proofs that each extend the contract's PN but not each other.
-/
namespace RecoveryContract
open StripText PythonObject CollectorIdentity PrefixIdentity

section Record
variable (items : List (String × PyObj))

def recordPn : String := cleanPn (PyObj.get items "collector_pn")

def disguisedVersion : Bool :=
  match PyObj.get items "schema_version" with
  | .intSubclass _ _ => true
  | _ => false

def disguisedTimestamp : Bool :=
  match PyObj.get items "updated_at" with
  | .strSubclass own text =>
    validTimestamp (.strSubclass own text) && strip text != "" && !validTimestamp (.str (strip text))
  | _ => false

def divergingProofs : Bool :=
  match PyObj.get items "inbound", PyObj.get items "callback" with
  | .mapping inbound _, .mapping callback _ =>
    validInboundProof (readInboundProof inbound) (recordPn items) &&
      validCallbackProof (readCallbackProof callback) (recordPn items) &&
      !startsWith (recordPn inbound) (recordPn callback) &&
      !startsWith (recordPn callback) (recordPn inbound)
  | _, _ => false

end Record

/-- A trusted record the constructor rejects although every part of it passed on its own. -/
def contradictory : PyObj → Bool
  | .mapping items _ =>
    trusted items && (disguisedVersion items || disguisedTimestamp items || divergingProofs items)
  | _ => false

@[simp] theorem strip_cleanStr (value : PyObj) : strip (cleanStr value) = cleanStr value := by
  unfold cleanStr
  split <;> simp

@[simp] theorem strip_cleanPn (value : PyObj) : strip (cleanPn value) = cleanPn value := by
  unfold cleanPn normalizePn
  split <;> simp

@[simp] theorem cleanPn_str (s : String) : cleanPn (.str s) = strip s := by
  simp [cleanPn, normalizePn, PyObj.isStr]

@[simp] theorem strictStr_str (s : String) : strictStr (.str s) = (s == strip s) := rfl

theorem ownPn_str {pn contractPn : String} (trimmed : strip pn = pn) :
    ownPn (.str pn) contractPn = pnIsSameIdentity contractPn pn := by
  unfold ownPn
  rw [cleanPn_str, strictStr_str, trimmed, beq_self_eq_true, Bool.true_and]
  cases same : pnIsSameIdentity contractPn pn with
  | false => simp
  | true =>
    have nonempty := (pnIsSameIdentity_nonempty same).2
    rw [trimmed] at nonempty
    simp [nonempty]

theorem fullerPn_eq {pn contractPn : String} (trimmed : strip pn = pn)
    (trimmedContract : strip contractPn = contractPn)
    (same : pnIsSameIdentity contractPn pn = true) :
    fullerPn (.str pn) contractPn = .str (preferFullPn contractPn pn) := by
  obtain ⟨nonemptyContract, nonempty⟩ := pnIsSameIdentity_nonempty same
  unfold fullerPn
  rw [cleanPn_str, trimmed]
  rw [trimmed] at nonempty
  rw [trimmedContract] at nonemptyContract
  simp only [preferFullPn, trimmed, trimmedContract, nonempty, nonemptyContract, ↓reduceIte]
  rcases Nat.lt_trichotomy pn.length contractPn.length with shorter | equal | longer
  · simp [shorter, Nat.le_of_lt shorter, Nat.not_le.mpr shorter]
  · rw [pnIsSameIdentity_iff] at same
    have begins := compatible_shorter_begins same (by
      simp [trimmed, trimmedContract, String.length_toList, equal])
    rw [trimmed, trimmedContract] at begins
    have one : contractPn = pn :=
      String.toList_inj.mp (begins.eq_of_length (by simp [String.length_toList, equal]))
    simp [one]
  · simp [Nat.lt_asymm longer, Nat.not_le.mpr longer]

theorem postInit_eq_none_iff (fields : Fields) :
    postInit fields = none ↔
      knownVersion fields.schemaVersion = true ∧
        ∃ pn, durablePn fields.collectorPn = some pn ∧
          (strictStr fields.collectorIdentitySource = true ∧
            sourceIsStrong fields.collectorIdentitySource = true) ∧
          recordedAt fields.updatedAt = true ∧
          fields.inboundProof.all (validInboundProof · pn) = true ∧
          fields.callbackProof.all (validCallbackProof · pn) = true := by
  unfold postInit
  by_cases version : knownVersion fields.schemaVersion = true
  · cases durable : durablePn fields.collectorPn with
    | none => simp [version]
    | some pn =>
      by_cases source : strictStr fields.collectorIdentitySource = true ∧
          sourceIsStrong fields.collectorIdentitySource = true
      · by_cases recorded : recordedAt fields.updatedAt = true
        · by_cases inbound : fields.inboundProof.all (validInboundProof · pn) = true
          · by_cases callback : fields.callbackProof.all (validCallbackProof · pn) = true
            · simp [version, source, recorded, inbound, callback]
            · simp [version, source, recorded, inbound, callback]
          · simp [version, source, recorded, inbound]
        · simp [version, source, recorded]
      · simp only [version, source, not_true_eq_false, not_false_eq_true, ↓reduceIte,
          reduceCtorEq, false_and, and_false, exists_false]
  · simp [version]

theorem construct_ok_iff (fields : Fields) :
    (∃ contract, construct fields = .ok contract) ↔ postInit fields = none := by
  unfold construct
  split
  · rename_i error check
    simp [check]
  · rename_i check
    simp [check]

section Proofs
variable {contractPn : String}

theorem same_of_validInboundProof {items : List (String × PyObj)}
    (valid : validInboundProof (readInboundProof items) contractPn = true) :
    pnIsSameIdentity contractPn (recordPn items) = true := by
  simp only [validInboundProof, readInboundProof, Bool.and_eq_true] at valid
  have own := valid.2
  rwa [ownPn_str (strip_cleanPn _)] at own

theorem same_of_validCallbackProof {items : List (String × PyObj)}
    (valid : validCallbackProof (readCallbackProof items) contractPn = true) :
    pnIsSameIdentity contractPn (recordPn items) = true := by
  simp only [validCallbackProof, readCallbackProof, Bool.and_eq_true] at valid
  have own := valid.1.1.1.2
  rwa [ownPn_str (strip_cleanPn _)] at own

/-- Under another PN only the identity of a completed proof is still open. -/
theorem validInboundProof_completed {items : List (String × PyObj)} (otherPn : String)
    (trimmed : strip contractPn = contractPn)
    (valid : validInboundProof (readInboundProof items) contractPn = true) :
    validInboundProof ((readInboundProof items).completed contractPn) otherPn =
      pnIsSameIdentity otherPn (preferFullPn contractPn (recordPn items)) := by
  have stored : fullerPn (readInboundProof items).collectorPn contractPn =
      .str (preferFullPn contractPn (recordPn items)) :=
    fullerPn_eq (strip_cleanPn _) trimmed (same_of_validInboundProof valid)
  simp only [validInboundProof, Bool.and_eq_true] at valid
  obtain ⟨⟨evidence, protocol⟩, _⟩ := valid
  simp only [validInboundProof, InboundRecoveryProof.completed]
  rw [evidence, protocol, stored, ownPn_str (strip_preferFullPn _ _)]
  rfl

theorem validCallbackProof_completed {items : List (String × PyObj)} (otherPn : String)
    (trimmed : strip contractPn = contractPn)
    (valid : validCallbackProof (readCallbackProof items) contractPn = true) :
    validCallbackProof ((readCallbackProof items).completed contractPn) otherPn =
      pnIsSameIdentity otherPn (preferFullPn contractPn (recordPn items)) := by
  have stored : fullerPn (readCallbackProof items).collectorPn contractPn =
      .str (preferFullPn contractPn (recordPn items)) :=
    fullerPn_eq (strip_cleanPn _) trimmed (same_of_validCallbackProof valid)
  simp only [validCallbackProof, Bool.and_eq_true] at valid
  obtain ⟨⟨⟨⟨evidence, _⟩, target⟩, endpoint⟩, port⟩ := valid
  simp only [validCallbackProof, CallbackRecoveryProof.completed, stored, evidence, target, endpoint,
    port, ownPn_str (strip_preferFullPn _ _), Bool.and_true, Bool.true_and]

theorem cleanPn_completedInbound {items : List (String × PyObj)}
    (trimmed : strip contractPn = contractPn)
    (valid : validInboundProof (readInboundProof items) contractPn = true) :
    cleanPn ((readInboundProof items).completed contractPn).collectorPn =
      preferFullPn contractPn (recordPn items) := by
  have stored : fullerPn (readInboundProof items).collectorPn contractPn =
      .str (preferFullPn contractPn (recordPn items)) :=
    fullerPn_eq (strip_cleanPn _) trimmed (same_of_validInboundProof valid)
  rw [InboundRecoveryProof.completed, stored, cleanPn_str, strip_preferFullPn]

theorem cleanPn_completedCallback {items : List (String × PyObj)}
    (trimmed : strip contractPn = contractPn)
    (valid : validCallbackProof (readCallbackProof items) contractPn = true) :
    cleanPn ((readCallbackProof items).completed contractPn).collectorPn =
      preferFullPn contractPn (recordPn items) := by
  have stored : fullerPn (readCallbackProof items).collectorPn contractPn =
      .str (preferFullPn contractPn (recordPn items)) :=
    fullerPn_eq (strip_cleanPn _) trimmed (same_of_validCallbackProof valid)
  rw [CallbackRecoveryProof.completed, stored, cleanPn_str, strip_preferFullPn]

theorem parseProof_cases {Proof : Type} (read : List (String × PyObj) → Proof)
    (valid : Proof → String → Bool) (completed : Proof → String → Proof) (record : PyObj)
    (contractPn : String) :
    (parseProof read valid completed record contractPn = none ∧ ∀ items rendered,
      record = .mapping items rendered → valid (read items) contractPn = false) ∨
    ∃ items rendered, record = .mapping items rendered ∧ valid (read items) contractPn = true ∧
      parseProof read valid completed record contractPn =
        some (completed (read items) contractPn) := by
  cases record with
  | mapping items rendered =>
    cases accepted : valid (read items) contractPn with
    | true =>
      exact Or.inr ⟨items, rendered, rfl, accepted, by simp [parseProof, accepted]⟩
    | false =>
      refine Or.inl ⟨by simp [parseProof, accepted], ?_⟩
      intro others _ eq
      cases eq
      exact accepted
  | _ => exact Or.inl ⟨rfl, by intro _ _ eq; cases eq⟩

theorem enriched_by_one {pn : String} (same : pnIsSameIdentity contractPn pn = true) :
    pnIsSameIdentity (preferFullPn contractPn (preferFullPn contractPn pn))
      (preferFullPn contractPn pn) = true := by
  have completed := pnIsSameIdentity_preferFullPn same
  obtain ⟨nonempty, fuller⟩ := pnIsSameIdentity_nonempty completed
  exact ((preferFullPn_covers_both_iff nonempty fuller).mpr completed).2

end Proofs

theorem proofs_accepted_iff (items : List (String × PyObj)) :
    let inbound := parseInboundProof (PyObj.get items "inbound") (recordPn items)
    let callback := parseCallbackProof (PyObj.get items "callback") (recordPn items)
    let pn := enrichedPn (recordPn items) inbound callback
    inbound.all (validInboundProof · pn) = true ∧ callback.all (validCallbackProof · pn) = true ↔
      divergingProofs items = false := by
  have trimmed : strip (recordPn items) = recordPn items := strip_cleanPn _
  dsimp only [parseInboundProof, parseCallbackProof]
  rcases parseProof_cases readInboundProof validInboundProof InboundRecoveryProof.completed
      (PyObj.get items "inbound") (recordPn items) with
    ⟨noInbound, invalidInbound⟩ | ⟨inbound, _, isInbound, validInbound, parsedInbound⟩
  · have converge : divergingProofs items = false := by
      unfold divergingProofs
      split
      · rename_i inbound _ callback _ isInbound _
        simp [invalidInbound inbound _ isInbound]
      · rfl
    rcases parseProof_cases readCallbackProof validCallbackProof CallbackRecoveryProof.completed
        (PyObj.get items "callback") (recordPn items) with
      ⟨noCallback, _⟩ | ⟨callback, _, _, validCallback, parsedCallback⟩
    · simp [noInbound, noCallback, converge]
    · simp only [noInbound, parsedCallback, converge, enrichedPn, Option.all_none, Option.all_some,
        true_and, iff_true, cleanPn_completedCallback trimmed validCallback,
        validCallbackProof_completed _ trimmed validCallback]
      exact enriched_by_one (same_of_validCallbackProof validCallback)
  · have sameInbound := same_of_validInboundProof validInbound
    rcases parseProof_cases readCallbackProof validCallbackProof CallbackRecoveryProof.completed
        (PyObj.get items "callback") (recordPn items) with
      ⟨noCallback, invalidCallback⟩ | ⟨callback, _, isCallback, validCallback, parsedCallback⟩
    · have converge : divergingProofs items = false := by
        unfold divergingProofs
        split
        · rename_i callback _ _ isCallback
          simp [invalidCallback callback _ isCallback]
        · rfl
      simp only [noCallback, parsedInbound, converge, enrichedPn, Option.all_none, Option.all_some,
        and_true, iff_true, cleanPn_completedInbound trimmed validInbound,
        validInboundProof_completed _ trimmed validInbound]
      exact enriched_by_one sameInbound
    · have sameCallback := same_of_validCallbackProof validCallback
      have diverge : divergingProofs items = false ↔
          startsWith (recordPn callback) (recordPn inbound) = true ∨
            startsWith (recordPn inbound) (recordPn callback) = true := by
        simp only [divergingProofs, isInbound, isCallback, validInbound, validCallback]
        cases startsWith (recordPn inbound) (recordPn callback) <;> simp
      have completed := pnIsSameIdentity_completed_iff sameInbound sameCallback
      have nonemptyInbound := (pnIsSameIdentity_nonempty (pnIsSameIdentity_preferFullPn sameInbound)).2
      have nonemptyCallback := (pnIsSameIdentity_nonempty (pnIsSameIdentity_preferFullPn sameCallback)).2
      have trimmedInbound : strip (recordPn inbound) = recordPn inbound := strip_cleanPn _
      have trimmedCallback : strip (recordPn callback) = recordPn callback := strip_cleanPn _
      rw [trimmedInbound, trimmedCallback] at completed
      simp only [parsedInbound, parsedCallback, enrichedPn, Option.all_some, preferFullPn_again,
        cleanPn_completedInbound trimmed validInbound, cleanPn_completedCallback trimmed validCallback,
        validInboundProof_completed _ trimmed validInbound,
        validCallbackProof_completed _ trimmed validCallback]
      rw [preferFullPn_covers_both_iff nonemptyInbound nonemptyCallback, completed, diverge]

theorem knownVersion_iff {version : PyObj} (accepted : acceptedVersion version = true) :
    knownVersion version = true ↔ ∀ n text, version ≠ .intSubclass n text := by
  cases version with
  | int n => simpa [knownVersion, acceptedVersion] using accepted
  | intSubclass n text => simp [knownVersion]
  | _ => cases accepted

theorem recordedAt_stripped (s : String) :
    recordedAt (.str (strip s)) = (strip s == "" || validTimestamp (.str (strip s))) := by
  by_cases empty : strip s = "" <;> simp [recordedAt, PyObj.truthy, empty]

theorem recordedAt_iff (items : List (String × PyObj)) :
    recordedAt (recordFields items).updatedAt = true ↔ disguisedTimestamp items = false := by
  simp only [recordFields, disguisedTimestamp]
  cases PyObj.get items "updated_at" with
  | str s =>
    have stripped : validTimestamp (.str (strip s)) = validTimestamp (.str s) := by
      simp [validTimestamp]
    by_cases valid : validTimestamp (.str s) = true
    · simp [valid, cleanStr, PyObj.isStr, PyObj.render, recordedAt_stripped, stripped]
    · simp [valid, recordedAt, PyObj.truthy]
  | strSubclass s text =>
    by_cases valid : validTimestamp (.strSubclass s text) = true
    · by_cases empty : strip text = ""
      · simp [valid, empty, cleanStr, PyObj.isStr, PyObj.render, recordedAt, PyObj.truthy]
      · simp [valid, empty, cleanStr, PyObj.isStr, PyObj.render, recordedAt_stripped]
    · simp [valid, recordedAt, PyObj.truthy]
  | _ => simp [validTimestamp, recordedAt, PyObj.truthy]

theorem durablePn_enriched {contractPn : String} (trimmed : strip contractPn = contractPn)
    (nonempty : contractPn ≠ "") (inbound : Option InboundRecoveryProof)
    (callback : Option CallbackRecoveryProof) :
    durablePn (.str (enrichedPn contractPn inbound callback)) =
      some (enrichedPn contractPn inbound callback) := by
  have fuller : ∀ {pn : String} (other : String), strip pn = pn → pn ≠ "" →
      strip (preferFullPn pn other) = preferFullPn pn other ∧ preferFullPn pn other ≠ "" := by
    intro pn other trimmedPn nonemptyPn
    exact ⟨strip_preferFullPn _ _, preferFullPn_nonempty (Or.inl (by rwa [trimmedPn]))⟩
  have durable : strip (enrichedPn contractPn inbound callback) =
      enrichedPn contractPn inbound callback ∧ enrichedPn contractPn inbound callback ≠ "" := by
    cases inbound with
    | none =>
      cases callback with
      | none => exact ⟨trimmed, nonempty⟩
      | some proof =>
        simp only [enrichedPn]
        exact fuller _ trimmed nonempty
    | some inboundProof =>
      obtain ⟨trimmedPn, nonemptyPn⟩ := fuller (cleanPn inboundProof.collectorPn) trimmed nonempty
      cases callback with
      | none =>
        simp only [enrichedPn]
        exact ⟨trimmedPn, nonemptyPn⟩
      | some proof =>
        simp only [enrichedPn]
        exact fuller _ trimmedPn nonemptyPn
  simp [durablePn, durable]

/-- Of a trusted record the constructor repeats every check of the parser but three. -/
theorem postInit_recordFields_iff {items : List (String × PyObj)} (accepted : trusted items = true) :
    postInit (recordFields items) = none ↔
      disguisedVersion items = false ∧ disguisedTimestamp items = false ∧
        divergingProofs items = false := by
  simp only [trusted, Bool.and_eq_true, bne_iff_ne, ne_eq] at accepted
  obtain ⟨⟨version, nonempty⟩, strong⟩ := accepted
  have exact_version : knownVersion (recordFields items).schemaVersion = true ↔
      disguisedVersion items = false := by
    rw [recordFields, knownVersion_iff version, disguisedVersion]
    cases PyObj.get items "schema_version" <;> simp
  have durable : durablePn (recordFields items).collectorPn = some _ :=
    durablePn_enriched (strip_cleanPn _) nonempty _ _
  have source : strictStr (recordFields items).collectorIdentitySource = true ∧
      sourceIsStrong (recordFields items).collectorIdentitySource = true := by
    simpa [recordFields, sourceIsStrong] using strong
  have proofs := proofs_accepted_iff items
  dsimp only at proofs
  rw [postInit_eq_none_iff, exact_version, recordedAt_iff, durable, ← proofs]
  simp only [source, and_self, true_and, Option.some.injEq, exists_eq_left']
  rfl

theorem construct_recordFields_iff {items : List (String × PyObj)} (accepted : trusted items = true)
    (rendered : String) :
    (∃ contract, construct (recordFields items) = .ok contract) ↔
      contradictory (.mapping items rendered) = false := by
  rw [construct_ok_iff, postInit_recordFields_iff accepted]
  simp [contradictory, accepted, and_assoc]

theorem fromRecord_of_consistent {record : PyObj} (consistent : contradictory record = false) :
    ∃ result, fromRecord record = .ok result := by
  cases record with
  | mapping items rendered =>
    by_cases accepted : trusted items = true
    · obtain ⟨contract, built⟩ := (construct_recordFields_iff accepted rendered).mpr consistent
      exact ⟨some contract, by simp [fromRecord, accepted, built, Except.map]⟩
    · exact ⟨none, by simp [fromRecord, accepted]⟩
  | _ => exact ⟨none, rfl⟩

theorem fromRecord_of_contradictory {record : PyObj} (conflict : contradictory record = true) :
    ∃ error, fromRecord record = .error error := by
  cases record with
  | mapping items rendered =>
    by_cases accepted : trusted items = true
    · cases built : construct (recordFields items) with
      | error error => exact ⟨error, by simp [fromRecord, accepted, built, Except.map]⟩
      | ok contract =>
        rw [(construct_recordFields_iff accepted rendered).mp ⟨contract, built⟩] at conflict
        cases conflict
    · simp [contradictory, accepted] at conflict
  | _ => cases conflict

/-- The parser returns, with a contract or with none, exactly for the records whose parts do
    not contradict one another. -/
theorem fromRecord_returns_iff (record : PyObj) :
    (∃ result, fromRecord record = .ok result) ↔ contradictory record = false := by
  constructor
  · rintro ⟨result, returned⟩
    by_contra conflict
    rw [Bool.not_eq_false] at conflict
    obtain ⟨error, raised⟩ := fromRecord_of_contradictory conflict
    rw [raised] at returned
    cases returned
  · exact fromRecord_of_consistent

def divergingRecord : PyObj :=
  .mapping
    [("schema_version", .int 1), ("collector_pn", .str "E500002000"),
      ("collector_identity_source", .str "fc2_parameter_2"),
      ("inbound", .mapping
        [("method", .str "reboot_reconnect_no_trigger"), ("collector_pn", .str "E500002000A"),
          ("identity_source", .str "fc2_parameter_2"),
          ("verified_at", .str "2026-01-02T03:04:05+00:00"),
          ("session_protocol", .str "eybond")] ""),
      ("callback", .mapping
        [("method", .str "reset_unicast_reconnect_same_pn"), ("collector_pn", .str "E500002000B"),
          ("identity_source", .str "fc2_parameter_2"),
          ("verified_at", .str "2026-01-02T03:04:05+00:00"),
          ("trigger_target", .str "192.168.1.50"),
          ("advertised_ha_endpoint", .str "192.168.1.10:8899"),
          ("listener_port", .int 8899)] ""),
      ("updated_at", .str "2026-01-02T03:04:05+00:00")] ""

theorem fromRecord_raises_on_diverging_proofs :
    ¬ ∀ record, ∃ result, fromRecord record = .ok result := by
  intro returns
  obtain ⟨result, eq⟩ := returns divergingRecord
  have raised : (match fromRecord divergingRecord with
      | .ok _ => "returned"
      | .error error => error.code) = "callback_proof_invalid" := by decide +kernel
  rw [eq] at raised
  simp at raised

end RecoveryContract
