import EybondLocal.EntryMigration.Policy
import EybondLocal.RecoveryContract.FromRecord

/-!
What the entry migration keeps. Each axis is frozen at the value the entry behaved with, so
later steps and later runs read back what was written. The one thing that can go wrong is the
correction, which parses the recovery contract of an inbound entry and inherits its raise.
-/
namespace EntryMigration
open StripText PythonObject OrderedDict JsonValue

theorem present_congr {fields fields' : Fields} {key : String}
    (same : fields'.get? key = fields.get? key) : present fields' key = present fields key := by
  simp only [present, same]

theorem firstPresent_congr {data data' options options' : Fields} {key : String}
    (sameData : data'.get? key = data.get? key)
    (sameOptions : options'.get? key = options.get? key) :
    firstPresent key data' options' = firstPresent key data options := by
  simp only [firstPresent, present_congr sameData, present_congr sameOptions]

theorem firstText_congr {data data' options options' : Fields} {key : String}
    (sameData : data'.get? key = data.get? key)
    (sameOptions : options'.get? key = options.get? key) :
    firstText key data' options' = firstText key data options := by
  simp only [firstText, firstPresent_congr sameData sameOptions]

theorem present_str {fields : Fields} {key text : String}
    (held : fields.get? key = some (.str text)) (visible : strip text ≠ "") :
    present fields key = some (.str text) := by
  simp [present, held, Json.render, Json.toPyObj, PyObj.render, visible]

theorem present_none {fields : Fields} {key : String} (absent : fields.get? key = none) :
    present fields key = none := by
  simp [present, absent]

theorem writeAxis_other {data : Fields} {key other : String} (value : Json) (equal : Json → Bool)
    (ne : other ≠ key) : (writeAxis data key value equal).get? other = data.get? other := by
  unfold writeAxis
  split
  · rfl
  · rw [Dict.get?_set, if_neg ne]

theorem writeAxis_own (data : Fields) (key : String) (value : Json) (equal : Json → Bool)
    (reflects : equal value = true) :
    ∃ held, (writeAxis data key value equal).get? key = some held ∧ equal held = true := by
  unfold writeAxis
  split
  · rename_i same
    rw [Option.any_eq_true] at same
    exact same
  · exact ⟨value, by rw [Dict.get?_set, if_pos rfl], reflects⟩

theorem writeAxis_same {data : Fields} {key : String} {held : Json} (value : Json)
    {equal : Json → Bool} (stored : data.get? key = some held) (same : equal held = true) :
    writeAxis data key value equal = data := by
  unfold writeAxis
  rw [if_pos]
  simp [stored, same]

theorem writeStrategy_own (data : Fields) (strategy : ConnectionStrategy) :
    (writeStrategy data strategy).get? strategyKey = some (.str strategy.text) := by
  obtain ⟨held, stored, same⟩ := writeAxis_own data strategyKey (.str strategy.text)
    (fun held => held.equalsText strategy.text) (Json.equalsText_self _)
  rw [Json.equalsText_iff] at same
  rw [writeStrategy, stored, same]

theorem writePolicy_own (data : Fields) (policy : EndpointControlPolicy) :
    (writePolicy data policy).get? policyKey = some (.str policy.text) := by
  obtain ⟨held, stored, same⟩ := writeAxis_own data policyKey (.str policy.text)
    (fun held => held.equalsText policy.text) (Json.equalsText_self _)
  rw [Json.equalsText_iff] at same
  rw [writePolicy, stored, same]

theorem writeProxy_own (data : Fields) (enabled : Bool) :
    ∃ held, (writeProxy data enabled).get? proxyKey = some held ∧ held.equalsBool enabled = true :=
  writeAxis_own data proxyKey (.bool enabled) _ (Json.equalsBool_self enabled)

theorem writeStrategy_other (data : Fields) (strategy : ConnectionStrategy) {key : String}
    (ne : key ≠ strategyKey) : (writeStrategy data strategy).get? key = data.get? key :=
  writeAxis_other _ _ ne

theorem writePolicy_other (data : Fields) (policy : EndpointControlPolicy) {key : String}
    (ne : key ≠ policyKey) : (writePolicy data policy).get? key = data.get? key :=
  writeAxis_other _ _ ne

theorem writeProxy_other (data : Fields) (enabled : Bool) {key : String} (ne : key ≠ proxyKey) :
    (writeProxy data enabled).get? key = data.get? key :=
  writeAxis_other _ _ ne

theorem writeStrategy_same {data : Fields} {strategy : ConnectionStrategy}
    (stored : data.get? strategyKey = some (.str strategy.text)) :
    writeStrategy data strategy = data :=
  writeAxis_same _ stored (Json.equalsText_self _)

theorem writePolicy_same {data : Fields} {policy : EndpointControlPolicy}
    (stored : data.get? policyKey = some (.str policy.text)) : writePolicy data policy = data :=
  writeAxis_same _ stored (Json.equalsText_self _)

theorem strip_strategy_text (strategy : ConnectionStrategy) : strip strategy.text = strategy.text := by
  cases strategy <;> decide +kernel

theorem strategy_text_nonempty (strategy : ConnectionStrategy) : strategy.text ≠ "" := by
  cases strategy <;> decide

theorem knownStrategy_text (strategy : ConnectionStrategy) :
    knownStrategy strategy.text = some strategy := by
  cases strategy <;> decide

theorem strip_policy_text (policy : EndpointControlPolicy) : strip policy.text = policy.text := by
  cases policy <;> decide +kernel

theorem policy_text_nonempty (policy : EndpointControlPolicy) : policy.text ≠ "" := by
  cases policy <;> decide

theorem knownPolicy_text (policy : EndpointControlPolicy) :
    knownPolicy policy.text = some policy := by
  cases policy <;> decide

section Frozen
variable {data options : Fields} {strategy : ConnectionStrategy}

/-- With no copy in the options, a strategy written into the data is what everybody reads. -/
theorem firstText_strategy (stored : data.get? strategyKey = some (.str strategy.text))
    (absent : options.get? strategyKey = none) :
    firstText strategyKey data options = strategy.text := by
  have visible : strip strategy.text ≠ "" := by
    rw [strip_strategy_text]
    exact strategy_text_nonempty strategy
  simp [firstText, firstPresent, present_none absent, present_str stored visible,
    strip_strategy_text]

theorem legacy_of_stored (stored : data.get? strategyKey = some (.str strategy.text))
    (absent : options.get? strategyKey = none) :
    legacyEffectiveConnectionStrategy data options = strategy := by
  simp [legacyEffectiveConnectionStrategy, firstText_strategy stored absent, knownStrategy_text]

theorem resolve_of_stored (stored : data.get? strategyKey = some (.str strategy.text)) :
    resolveConnectionStrategy data options = strategy := by
  simp [resolveConnectionStrategy, fieldText, stored, strip_strategy_text, knownStrategy_text]

end Frozen

theorem resolvePolicy_congr {data data' options options' : Fields}
    (sameData : ∀ key ∈ [policyKey, endpointWrittenValueKey, originalEndpointSourceKey],
      data'.get? key = data.get? key)
    (sameOptions : ∀ key ∈ [policyKey, endpointWrittenValueKey, originalEndpointSourceKey],
      options'.get? key = options.get? key) :
    resolveEndpointControlPolicy data' options' = resolveEndpointControlPolicy data options := by
  simp only [List.mem_cons, List.not_mem_nil, or_false, forall_eq_or_imp, forall_eq]
    at sameData sameOptions
  obtain ⟨policyD, valueD, sourceD⟩ := sameData
  obtain ⟨policyO, valueO, sourceO⟩ := sameOptions
  simp only [resolveEndpointControlPolicy, deriveEndpointControlPolicy,
    firstText_congr policyD policyO, firstPresent_congr valueD valueO,
    firstText_congr sourceD sourceO]

/-- Freezing the resolved policy into the data changes nothing: a value of the options still
    comes first, and whatever was derived is now explicit. -/
theorem resolvePolicy_written {data data' options : Fields}
    (stored : data'.get? policyKey = some (.str (resolveEndpointControlPolicy data options).text))
    (others : ∀ key ∈ [endpointWrittenValueKey, originalEndpointSourceKey],
      data'.get? key = data.get? key) :
    resolveEndpointControlPolicy data' options = resolveEndpointControlPolicy data options := by
  simp only [List.mem_cons, List.not_mem_nil, or_false, forall_eq_or_imp, forall_eq] at others
  obtain ⟨value, source⟩ := others
  have derived : deriveEndpointControlPolicy data' options = deriveEndpointControlPolicy data options := by
    simp only [deriveEndpointControlPolicy, firstPresent_congr value rfl, firstText_congr source rfl]
  cases chosen : present options policyKey with
  | some held =>
    have same : firstText policyKey data' options = firstText policyKey data options := by
      simp [firstText, firstPresent, chosen]
    simp only [resolveEndpointControlPolicy, same, derived]
  | none =>
    have visible : strip (resolveEndpointControlPolicy data options).text ≠ "" := by
      rw [strip_policy_text]
      exact policy_text_nonempty _
    generalize resolveEndpointControlPolicy data options = policy at stored visible ⊢
    simp [resolveEndpointControlPolicy, firstText, firstPresent, chosen, present_str stored visible,
      strip_policy_text, knownPolicy_text]

theorem resolveProxy_written {data data' options : Fields} {held : Json}
    (stored : data'.get? proxyKey = some held)
    (same : held.equalsBool (resolveProxyEnabled data options) = true) :
    resolveProxyEnabled data' options = resolveProxyEnabled data options := by
  have flag := Json.truthy_of_equalsBool same
  unfold resolveProxyEnabled at flag ⊢
  cases chosen : options.get? proxyKey with
  | some value => rfl
  | none =>
    rw [chosen] at flag
    simp only [stored]
    exact flag

def axisKeys : List String := [strategyKey, policyKey, proxyKey]

theorem erase_other (options : Fields) {key : String} (ne : key ≠ strategyKey) :
    (options.erase strategyKey).get? key = options.get? key := by
  rw [Dict.get?_erase, if_neg ne]

theorem erase_own (options : Fields) : (options.erase strategyKey).get? strategyKey = none := by
  rw [Dict.get?_erase, if_pos rfl]

theorem resolvePolicy_frozen (data options : Fields) (strategy : ConnectionStrategy) :
    resolveEndpointControlPolicy (writeStrategy data strategy) (options.erase strategyKey) =
      resolveEndpointControlPolicy data options := by
  have apart : ∀ key ∈ [policyKey, endpointWrittenValueKey, originalEndpointSourceKey],
      key ≠ strategyKey := by decide
  apply resolvePolicy_congr
  · intro key read
    exact writeStrategy_other data strategy (apart key read)
  · intro key read
    exact erase_other options (apart key read)

theorem resolveProxy_frozen (data options : Fields) (strategy : ConnectionStrategy) :
    resolveProxyEnabled (writeStrategy data strategy) (options.erase strategyKey) =
      resolveProxyEnabled data options := by
  have apart : proxyKey ≠ strategyKey := by decide
  simp only [resolveProxyEnabled, writeStrategy_other data strategy apart, erase_other options apart]

/-- Every axis is written at the value the old entry resolved to. -/
theorem frozen_eq (data options : Fields) :
    frozen data options =
      (writeProxy
        (writePolicy (writeStrategy data (legacyEffectiveConnectionStrategy data options))
          (resolveEndpointControlPolicy data options))
        (resolveProxyEnabled data options), options.erase strategyKey) := by
  have stored := writeStrategy_own data (legacyEffectiveConnectionStrategy data options)
  simp only [frozen, migrateEntryAxes, legacy_of_stored stored (erase_own options),
    writeStrategy_same stored, resolvePolicy_frozen, resolveProxy_frozen]

/-- The data of an entry whose axes are settled at given values, everything else as before. -/
structure Settled (data data' : Fields) (strategy : ConnectionStrategy)
    (policy : EndpointControlPolicy) (proxy : Bool) : Prop where
  strategy : data'.get? strategyKey = some (.str strategy.text)
  policy : data'.get? policyKey = some (.str policy.text)
  proxy : ∃ held, data'.get? proxyKey = some held ∧ held.equalsBool proxy = true
  others : ∀ key, key ∉ axisKeys → data'.get? key = data.get? key

theorem frozen_settled (data options : Fields) :
    Settled data (frozen data options).1 (legacyEffectiveConnectionStrategy data options)
      (resolveEndpointControlPolicy data options) (resolveProxyEnabled data options) := by
  have strategyPolicy : strategyKey ≠ policyKey := by decide
  have strategyProxy : strategyKey ≠ proxyKey := by decide
  have policyProxy : policyKey ≠ proxyKey := by decide
  rw [frozen_eq]
  constructor
  · rw [writeProxy_other _ _ strategyProxy, writePolicy_other _ _ strategyPolicy,
      writeStrategy_own]
  · rw [writeProxy_other _ _ policyProxy, writePolicy_own]
  · exact writeProxy_own _ _
  · intro key other
    simp only [axisKeys, List.mem_cons, List.not_mem_nil, or_false, not_or] at other
    rw [writeProxy_other _ _ other.2.2, writePolicy_other _ _ other.2.1,
      writeStrategy_other _ _ other.1]

theorem Settled.corrected {data data' : Fields} {strategy : ConnectionStrategy}
    {policy : EndpointControlPolicy} {proxy : Bool}
    (settled : Settled data data' strategy policy proxy) (correction : ConnectionStrategy) :
    Settled data (writeStrategy data' correction) correction policy proxy := by
  have policyStrategy : policyKey ≠ strategyKey := by decide
  have proxyStrategy : proxyKey ≠ strategyKey := by decide
  refine ⟨writeStrategy_own _ _, ?_, ?_, ?_⟩
  · rw [writeStrategy_other _ _ policyStrategy, settled.policy]
  · rw [writeStrategy_other _ _ proxyStrategy]
    exact settled.proxy
  · intro key other
    have ne : key ≠ strategyKey := fun eq => other (by simp [axisKeys, eq])
    rw [writeStrategy_other _ _ ne, settled.others key other]

section Settled
variable {data data' options : Fields} {strategy : ConnectionStrategy}
  (settled : Settled data data' strategy (resolveEndpointControlPolicy data options)
    (resolveProxyEnabled data options))
include settled

theorem Settled.resolvePolicy :
    resolveEndpointControlPolicy data' (options.erase strategyKey) =
      resolveEndpointControlPolicy data options := by
  have erased : ∀ fields, resolveEndpointControlPolicy fields (options.erase strategyKey) =
      resolveEndpointControlPolicy fields options := by
    intro fields
    have apart : ∀ key ∈ [policyKey, endpointWrittenValueKey, originalEndpointSourceKey],
        key ≠ strategyKey := by decide
    apply resolvePolicy_congr
    · intro key _
      rfl
    · intro key read
      exact erase_other options (apart key read)
  rw [erased]
  apply resolvePolicy_written settled.policy
  have unwritten : ∀ key ∈ [endpointWrittenValueKey, originalEndpointSourceKey], key ∉ axisKeys := by
    decide
  intro key read
  exact settled.others key (unwritten key read)

theorem Settled.resolveProxy :
    resolveProxyEnabled data' (options.erase strategyKey) = resolveProxyEnabled data options := by
  obtain ⟨held, stored, same⟩ := settled.proxy
  have apart : proxyKey ≠ strategyKey := by decide
  have erased : resolveProxyEnabled data' (options.erase strategyKey) =
      resolveProxyEnabled data' options := by
    simp only [resolveProxyEnabled, erase_other options apart]
  rw [erased]
  exact resolveProxy_written stored same

/-- Freezing a settled entry again finds every axis as it would write it. -/
theorem Settled.frozen_again :
    frozen data' (options.erase strategyKey) = (data', options.erase strategyKey) := by
  have absent := erase_own options
  have twice : (options.erase strategyKey).erase strategyKey = options.erase strategyKey := by
    simp [Dict.erase, List.filter_filter]
  obtain ⟨held, stored, same⟩ := settled.proxy
  rw [frozen_eq, twice, legacy_of_stored settled.strategy absent, settled.resolvePolicy,
    settled.resolveProxy, writeStrategy_same settled.strategy, writePolicy_same settled.policy]
  rw [writeProxy, writeAxis_same _ stored same]

end Settled

/-- The frozen entry is inbound, nothing tells that its collector dials in, and its recovery
    contract contradicts itself. -/
def readsContradiction (data options : Fields) : Bool :=
  decide (legacyEffectiveConnectionStrategy data options = .inbound) &&
    decide (firstText evidenceKey data options ∉ inboundEvidence) &&
    RecoveryContract.contradictory (contractRecord data)

structure Preserved (old new : ConfigEntry) : Prop where
  /-- The strategy is the one the entry behaved with, unless the correction applies. -/
  strategy : ∃ correction,
    correctMigratedConnectionStrategy (frozen old.data old.options).1
      (frozen old.data old.options).2 = .ok correction ∧
    (correction = none ∨ correction = some .callbackOnDemand) ∧
    resolveConnectionStrategy new.data new.options =
      correction.getD (legacyEffectiveConnectionStrategy old.data old.options)
  policy : resolveEndpointControlPolicy new.data new.options =
    resolveEndpointControlPolicy old.data old.options
  proxy : resolveProxyEnabled new.data new.options = resolveProxyEnabled old.data old.options
  options : ∀ key, new.options.get? key =
    if key = strategyKey then none else old.options.get? key
  others : ∀ key, key ∉ axisKeys → new.data.get? key = old.data.get? key
  /-- Running the steps again changes nothing. -/
  again : migrationSteps new.data new.options = .ok (new.data, new.options)

def Migrates (update : VersionUpdate) (entry : ConfigEntry) : Prop :=
  ∃ accepted new, migrateEntry update entry = .ok (accepted, new) ∧
    (entry.schemaVersion < 4 → accepted = true ∧ Preserved entry new) ∧
    (4 ≤ entry.schemaVersion → new.data = entry.data ∧ new.options = entry.options)

theorem correct_returns {data options : Fields}
    (readable : firstText strategyKey data options ≠ ConnectionStrategy.inbound.text ∨
      firstText evidenceKey data options ∈ inboundEvidence ∨
      RecoveryContract.contradictory (contractRecord data) = false) :
    ∃ correction, correctMigratedConnectionStrategy data options = .ok correction ∧
      (correction = none ∨ correction = some .callbackOnDemand) := by
  unfold correctMigratedConnectionStrategy
  split
  · exact ⟨none, rfl, Or.inl rfl⟩
  rename_i inbound
  split
  · exact ⟨none, rfl, Or.inl rfl⟩
  rename_i unproven
  have consistent := (readable.resolve_left inbound).resolve_left unproven
  obtain ⟨contract, parsed⟩ := RecoveryContract.fromRecord_of_consistent consistent
  rw [parsed]
  dsimp only
  split
  · exact ⟨none, rfl, Or.inl rfl⟩
  split
  · exact ⟨none, rfl, Or.inl rfl⟩
  split
  · exact ⟨none, rfl, Or.inl rfl⟩
  · exact ⟨some .callbackOnDemand, rfl, Or.inr rfl⟩

theorem correct_raises {data options : Fields}
    (inbound : firstText strategyKey data options = ConnectionStrategy.inbound.text)
    (unproven : firstText evidenceKey data options ∉ inboundEvidence)
    (conflict : RecoveryContract.contradictory (contractRecord data) = true) :
    ∃ error, correctMigratedConnectionStrategy data options = .error error := by
  obtain ⟨error, raised⟩ := RecoveryContract.fromRecord_of_contradictory conflict
  exact ⟨error, by simp [correctMigratedConnectionStrategy, inbound, unproven, raised]⟩

section Reading
variable (data options : Fields)

theorem frozen_strategy : firstText strategyKey (frozen data options).1 (frozen data options).2 =
    (legacyEffectiveConnectionStrategy data options).text := by
  have absent : (frozen data options).2.get? strategyKey = none := by
    rw [frozen_eq]
    exact erase_own options
  exact firstText_strategy (frozen_settled data options).strategy absent

theorem frozen_evidence : firstText evidenceKey (frozen data options).1 (frozen data options).2 =
    firstText evidenceKey data options := by
  have unwritten : evidenceKey ∉ axisKeys := by decide
  apply firstText_congr
  · exact (frozen_settled data options).others evidenceKey unwritten
  · rw [frozen_eq]
    exact erase_other options (by decide)

theorem frozen_contract : contractRecord (frozen data options).1 = contractRecord data := by
  have unwritten : recoveryContractKey ∉ axisKeys := by decide
  simp only [contractRecord, (frozen_settled data options).others recoveryContractKey unwritten]

/-- The correction of the frozen entry raises exactly when it has to read a contradiction. -/
theorem frozen_correction_cases :
    (readsContradiction data options = true ∧
      ∃ error, correctMigratedConnectionStrategy (frozen data options).1 (frozen data options).2 =
        .error error) ∨
    (readsContradiction data options = false ∧
      ∃ correction, correctMigratedConnectionStrategy (frozen data options).1
        (frozen data options).2 = .ok correction ∧
        (correction = none ∨ correction = some .callbackOnDemand)) := by
  by_cases inbound : legacyEffectiveConnectionStrategy data options = .inbound
  · by_cases proven : firstText evidenceKey data options ∈ inboundEvidence
    · refine Or.inr ⟨by simp [readsContradiction, proven], correct_returns (Or.inr (Or.inl ?_))⟩
      rw [frozen_evidence]
      exact proven
    · cases conflict : RecoveryContract.contradictory (contractRecord data) with
      | true =>
        refine Or.inl ⟨by simp [readsContradiction, inbound, proven, conflict], ?_⟩
        apply correct_raises
        · rw [frozen_strategy, inbound]
        · rw [frozen_evidence]
          exact proven
        · rw [frozen_contract, conflict]
      | false =>
        refine Or.inr ⟨by simp [readsContradiction, conflict], correct_returns (Or.inr (Or.inr ?_))⟩
        rw [frozen_contract, conflict]
  · refine Or.inr ⟨by simp [readsContradiction, inbound], correct_returns (Or.inl ?_)⟩
    rw [frozen_strategy]
    cases strategy : legacyEffectiveConnectionStrategy data options with
    | inbound => exact absurd strategy inbound
    | callbackOnDemand => decide

end Reading

/-- The steps on an old entry: they raise, or preserve it. -/
theorem migrationSteps_cases (old : ConfigEntry) :
    (readsContradiction old.data old.options = true ∧
      ∃ error, migrationSteps old.data old.options = .error error) ∨
    (readsContradiction old.data old.options = false ∧
      ∃ data options, migrationSteps old.data old.options = .ok (data, options) ∧
        ∀ version, Preserved old ⟨version, data, options⟩) := by
  rcases frozen_correction_cases old.data old.options with
    ⟨conflict, error, raised⟩ | ⟨readable, correction, corrected, shape⟩
  · refine Or.inl ⟨conflict, error, ?_⟩
    simp only [migrationSteps, raised]
  refine Or.inr ⟨readable, ?_⟩
  have settled := frozen_settled old.data old.options
  have kept : (frozen old.data old.options).2 = old.options.erase strategyKey := by rw [frozen_eq]
  have options : ∀ key, (old.options.erase strategyKey).get? key =
      if key = strategyKey then none else old.options.get? key :=
    fun key => Dict.get?_erase old.options strategyKey key
  have eq : migrationSteps old.data old.options =
      .ok ((correction.map (writeStrategy (frozen old.data old.options).1)).getD
        (frozen old.data old.options).1, old.options.erase strategyKey) := by
    rw [kept] at corrected
    simp only [migrationSteps, kept, corrected]
    cases correction <;> rfl
  rcases shape with rfl | rfl
  · refine ⟨(frozen old.data old.options).1, old.options.erase strategyKey,
      eq, ?_⟩
    intro version
    rw [kept] at corrected
    refine ⟨⟨none, by rw [kept]; exact corrected, Or.inl rfl, resolve_of_stored settled.strategy⟩,
      settled.resolvePolicy, settled.resolveProxy, options, settled.others, ?_⟩
    simp only [migrationSteps, settled.frozen_again, corrected]
  · refine ⟨writeStrategy (frozen old.data old.options).1 .callbackOnDemand,
      old.options.erase strategyKey, eq, ?_⟩
    intro version
    rw [kept] at corrected
    have again := settled.corrected .callbackOnDemand
    refine ⟨⟨some .callbackOnDemand, by rw [kept]; exact corrected, Or.inr rfl,
      resolve_of_stored again.strategy⟩, again.resolvePolicy, again.resolveProxy, options,
      again.others, ?_⟩
    -- The corrected entry is no longer inbound, so the correction leaves it alone.
    have elsewhere : firstText strategyKey
        (writeStrategy (frozen old.data old.options).1 .callbackOnDemand)
        (old.options.erase strategyKey) ≠ ConnectionStrategy.inbound.text := by
      rw [firstText_strategy again.strategy (erase_own old.options)]
      decide
    simp only [migrationSteps, again.frozen_again, correctMigratedConnectionStrategy, ne_eq,
      elsewhere, not_false_eq_true, ↓reduceIte]

/-- The migration does what it promises of every entry exactly when it does not have to read a
    contradictory recovery contract. -/
theorem migrates_iff (update : VersionUpdate) (entry : ConfigEntry) :
    Migrates update entry ↔
      (entry.schemaVersion < 4 → readsContradiction entry.data entry.options = false) := by
  by_cases old : entry.schemaVersion < 4
  · have notNewer : ¬ entrySchemaVersion < entry.schemaVersion := by
      unfold entrySchemaVersion
      omega
    have notCurrent : ¬ entrySchemaVersion ≤ entry.schemaVersion := by
      unfold entrySchemaVersion
      omega
    have steps : migrateEntry update entry = (migrationSteps entry.data entry.options).map
        fun merged => (true, ⟨update.apply entry, merged.1, merged.2⟩) := by
      simp only [migrateEntry, notNewer, notCurrent, old, ↓reduceIte]
    rcases migrationSteps_cases entry with
      ⟨conflict, error, raised⟩ | ⟨readable, data, options, migrated, preserved⟩
    · simp [Migrates, steps, raised, Except.map, old, conflict]
    · refine iff_of_true ⟨true, ⟨update.apply entry, data, options⟩, ?_, ?_, ?_⟩ (fun _ => readable)
      · simp [steps, migrated, Except.map]
      · intro _
        exact ⟨rfl, preserved _⟩
      · intro newer
        omega
  · refine iff_of_true ?_ (fun below => absurd below old)
    unfold Migrates migrateEntry
    split
    · exact ⟨false, entry, rfl, fun below => absurd below old, fun _ => ⟨rfl, rfl⟩⟩
    split
    · exact ⟨true, entry, rfl, fun below => absurd below old, fun _ => ⟨rfl, rfl⟩⟩
    exact ⟨true, _, rfl, fun below => absurd below old, fun _ => ⟨rfl, rfl⟩⟩

def divergingEntry : ConfigEntry where
  version := 3
  data := Dict.empty.set recoveryContractKey <| .object
    [("schema_version", .int 1), ("collector_pn", .str "E500002000"),
      ("collector_identity_source", .str "fc2_parameter_2"),
      ("inbound", .object
        [("method", .str "reboot_reconnect_no_trigger"), ("collector_pn", .str "E500002000A"),
          ("identity_source", .str "fc2_parameter_2"),
          ("verified_at", .str "2026-01-02T03:04:05+00:00"),
          ("session_protocol", .str "eybond")] ""),
      ("callback", .object
        [("method", .str "reset_unicast_reconnect_same_pn"), ("collector_pn", .str "E500002000B"),
          ("identity_source", .str "fc2_parameter_2"),
          ("verified_at", .str "2026-01-02T03:04:05+00:00"),
          ("trigger_target", .str "192.168.1.50"),
          ("advertised_ha_endpoint", .str "192.168.1.10:8899"),
          ("listener_port", .int 8899)] ""),
      ("updated_at", .str "2026-01-02T03:04:05+00:00")] ""
  options := Dict.empty

theorem diverging_entry_does_not_migrate : ¬ ∀ update entry, Migrates update entry := by
  intro always
  obtain ⟨accepted, new, migrated, _⟩ := always .withEntry divergingEntry
  have raised : (match migrateEntry .withEntry divergingEntry with
      | .ok _ => "returned"
      | .error error => error.code) = "callback_proof_invalid" := by decide +kernel
  rw [migrated] at raised
  simp at raised

end EntryMigration
