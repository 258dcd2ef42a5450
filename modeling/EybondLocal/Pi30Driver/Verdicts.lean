import EybondLocal.Library.Execution
import EybondLocal.Pi30Driver.Reachability

/-!
Whole histories of polls, seeds and clears. The required commands are never staged, so a poll
always sends what the estimate expects; and a final verdict never removes a value of its own
cycle, so every finished poll is a well-formed read that leaves no value of an unsupported or
unreachable command in the frame.
-/
namespace Pi30Driver
open StripText PythonObject OrderedDict Hub HookRun CommandSupport Execution

variable {ω α : Type}

/-- Between two polls: every failure is staged once, and no verdict is under way on a command
    the poll may not leave out. -/
structure Sound (cache : Cache) : Prop where
  nodup : cache.pending.Nodup
  required : ∀ key ∈ ["QPIGS", "QMOD"], key ∉ cache.pending ∧ cache.strikes key = 0

theorem Sound.requiredOpen {cache : Cache} (sound : Sound cache) : RequiredOpen cache := by
  have zero : ∀ key ∈ ["QPIGS", "QMOD"], cache.commandSkippedAsUnsupported key = false := by
    intro key member
    rw [Cache.commandSkippedAsUnsupported, (sound.required key member).2]
    rfl
  exact ⟨zero "QPIGS" (by decide), zero "QMOD" (by decide)⟩

theorem Sound.failure {cache : Cache} (sound : Sound cache) {key : String}
    (optional : key ∉ ["QPIGS", "QMOD"]) : Sound (cache.recordCommandFailure key) := by
  refine ⟨?_, fun other member => ?_⟩
  · rw [Cache.recordCommandFailure]
    split
    · exact sound.nodup
    · rename_i new
      refine List.nodup_append.mpr ⟨sound.nodup, List.nodup_singleton _, ?_⟩
      intro staged old single last same
      rw [same, List.mem_singleton.mp last] at old
      exact new old
  · obtain ⟨unstaged, zero⟩ := sound.required other member
    refine ⟨?_, by rw [Cache.strikes_recordCommandFailure, zero]⟩
    rw [Cache.recordCommandFailure]
    split
    · exact unstaged
    · rw [List.mem_append, List.mem_singleton, not_or]
      exact ⟨unstaged, fun same => optional (same ▸ member)⟩

theorem Sound.success {cache : Cache} (sound : Sound cache) (key : String) :
    Sound (cache.recordCommandSuccess key) := by
  refine ⟨sound.nodup, fun other member => ?_⟩
  obtain ⟨unstaged, zero⟩ := sound.required other member
  refine ⟨unstaged, ?_⟩
  rw [Cache.strikes_recordCommandSuccess, zero]
  exact ite_self 0

theorem Cache.pending_commit (cache : Cache) : cache.commitCycleFailures.pending = [] := by
  rw [Cache.commitCycleFailures]
  split <;> rfl

theorem Sound.commit {cache : Cache} (sound : Sound cache) : Sound cache.commitCycleFailures := by
  refine ⟨?_, fun key member => ?_⟩
  · rw [Cache.pending_commit]
    exact List.nodup_nil
  · obtain ⟨unstaged, zero⟩ := sound.required key member
    refine ⟨by rw [Cache.pending_commit]; exact List.not_mem_nil, ?_⟩
    rw [Cache.strikes_commitCycleFailures cache sound.nodup, if_neg fun both => unstaged both.1, zero]

def KeepsSound (poll poll' : Poll ω) : Prop := Sound poll.cache → Sound poll'.cache

instance : IsPreorder (Poll ω) KeepsSound where
  refl _ := id
  trans _ _ _ first second := fun sound => second (first sound)

theorem within_ask (session : Session ω) (wire : String) :
    Run.Within KeepsSound (ask session wire) := fun _ => id

theorem within_lift (value : Except Failure α) :
    Run.Within KeepsSound (lift value : Cycle ω α) := by
  cases value with
  | ok value => exact Run.within_pure value
  | error failure => exact Run.within_raise failure

theorem within_attempt (session : Session ω) (cacheKey wire : String)
    (parse : String → Except Failure α) :
    Run.Within KeepsSound (attempt session cacheKey wire parse) := by
  refine Run.within_bind ?_ fun parsed => Run.within_bind (Run.within_observe _) fun ms => ?_
  · refine Run.within_recover (Run.within_bind ?_ fun _ => Run.within_pure _)
      fun _ => Run.within_pure _
    exact Run.within_bind (within_ask session wire) fun payload => within_lift (parse payload)
  · cases parsed with
    | ok value =>
      exact Run.within_bind (Run.within_call fun _ sound => sound.success cacheKey)
        fun _ => Run.within_pure _
    | error failure =>
      cases failure with
      | pi30 message =>
        exact Run.within_bind (Run.within_call fun _ => id) fun _ => Run.within_pure _
      | other error => exact Run.within_raise _

theorem within_atomic (session : Session ω) (wire : String) {cacheKey : String}
    (parse : String → Except Failure α) (optional : cacheKey ∉ ["QPIGS", "QMOD"]) :
    Run.Within KeepsSound (atomic session wire cacheKey parse) := by
  refine Run.within_bind (Run.within_observe _) fun skipped => ?_
  cases skipped with
  | true => exact Run.within_bind (Run.within_call fun _ => id) fun _ => Run.within_pure _
  | false =>
    refine Run.within_bind (within_attempt session cacheKey wire parse) fun reply => ?_
    cases reply with
    | ok parsed => exact Run.within_pure _
    | error message =>
      exact Run.within_bind (Run.within_call fun _ sound => sound.failure optional)
        fun _ => Run.within_pure _

theorem within_collectValues (session : Session ω) {specs : List CommandSpec}
    (optional : ∀ spec ∈ specs, spec.optional = true → spec.command ∉ ["QPIGS", "QMOD"])
    (values : Values) : Run.Within KeepsSound (collectValues session specs values) := by
  induction specs generalizing values with
  | nil => exact Run.within_pure values
  | cons spec rest ih =>
    obtain ⟨here, later⟩ := List.forall_mem_cons.mp optional
    cases may : spec.optional with
    | true =>
      rw [collectValues_optional session spec rest values may]
      exact Run.within_bind (within_atomic session _ _ (here may)) fun _ => ih later _
    | false =>
      rw [collectValues_required session spec rest values may]
      refine Run.within_bind (within_attempt session _ _ _) fun reply => ?_
      cases reply with
      | ok parsed => exact ih later _
      | error message => exact Run.within_raise _

theorem within_collectDynamic (session : Session ω) {specs : List (String × String × String)}
    (optional : ∀ item ∈ specs, item.2.1 ∉ ["QPIGS", "QMOD"]) (values : Values) :
    Run.Within KeepsSound (collectDynamic session specs values) := by
  induction specs generalizing values with
  | nil => exact Run.within_pure values
  | cons item rest ih =>
    obtain ⟨wire, cacheKey, key⟩ := item
    obtain ⟨here, later⟩ := List.forall_mem_cons.mp optional
    exact Run.within_bind (within_atomic session wire _ here) fun _ => ih later _

theorem within_runCommands (session : Session ω) (floats : Floats) :
    Run.Within KeepsSound (runCommands session floats) := by
  refine Run.within_bind (within_collectValues session ?_ _) fun values =>
    Run.within_bind ?_ fun _ => Run.within_pure _
  · intro spec member may
    rw [runtimeCommandSpecs] at member
    simp only [List.mem_cons, List.not_mem_nil, or_false] at member
    rcases member with rfl | rfl | rfl | rfl
    · cases may
    · cases may
    · exact (by decide : "QPIWS" ∉ ["QPIGS", "QMOD"])
    · exact (by decide : "Q1" ∉ ["QPIGS", "QMOD"])
  · refine Run.within_bind (within_atomic session "QET" _ (by decide)) fun total => ?_
    cases total with
    | none => exact Run.within_pure _
    | some total =>
      refine Run.within_bind (within_atomic session "QLT" _ (by decide)) fun imported =>
        Run.within_bind (within_atomic session "QT" _ (by decide)) fun token => ?_
      cases token with
      | none => exact Run.within_pure _
      | some clockToken =>
        refine within_collectDynamic session ?_ _
        intro item member
        have listed : item.2.1 ∈ energyDynamicCommands := by
          rw [← dynamicSpecs_commands clockToken]
          exact List.mem_map_of_mem member
        revert listed
        generalize item.2.1 = command
        revert command
        decide

theorem within_collectRuntimeValues (session : Session ω) (floats : Floats) (wallMs : ω → Int) :
    Run.Within KeepsSound (collectRuntimeValues session floats wallMs) := by
  refine Run.within_bind (Run.within_call fun _ => id) fun _ =>
    Run.within_bind (within_runCommands session floats) fun values =>
      Run.within_bind (Run.within_observe _) fun ms => ?_
  exact Run.within_bind (Run.within_call fun _ sound => sound.commit) fun _ => Run.within_observe _

theorem gates_self (command : String) : command ∈ gates command := by
  unfold gates
  split <;> simp

theorem energy_gated : ∀ command ∈ energyAllCommands, "QET" ∈ gates command := by decide

theorem dynamic_gated : ∀ command ∈ energyDynamicCommands, "QT" ∈ gates command := by decide

theorem energy_listed : ∀ command ∈ energyAllCommands, command ∈ fullCycleCommandKeys := by decide

theorem dynamic_listed : ∀ command ∈ energyDynamicCommands, command ∈ fullCycleCommandKeys := by
  decide

theorem listed_of_owns {command key : String} (owns : key ∈ commandOutputKeys command) :
    command ∈ fullCycleCommandKeys := by
  unfold commandOutputKeys at owns
  split at owns
  all_goals first | decide | cases owns

theorem strikes_before_verdict {cache : Cache} (nodup : cache.pending.Nodup) {command : String}
    (verdict : command ∈ cache.commitCycleFailures.unsupportedCommands) :
    cache.strikes command ≠ 0 := by
  rw [Cache.mem_unsupportedCommands, Cache.commandSkippedAsUnsupported_iff,
    Cache.strikes_commitCycleFailures cache nodup, unsupportedCommandStrikes] at verdict
  intro zero
  rw [zero] at verdict
  split at verdict
  · exact absurd verdict (by decide)
  · exact absurd verdict (by decide)

theorem removed_unread {cache : Cache} (nodup : cache.pending.Nodup) {values : Values}
    (backed : Backed cache values) {key : String}
    (removed : key ∈ removedKeysForUnsupported cache.commitCycleFailures.unsupportedCommands) :
    values.get? key = none := by
  cases found : values.get? key with
  | none => rfl
  | some v =>
    have clash : ∀ {command gate : String}, key ∈ commandOutputKeys command →
        command ∈ fullCycleCommandKeys → gate ∈ gates command →
        gate ∈ cache.commitCycleFailures.unsupportedCommands → False :=
      fun owns listed gated verdict => strikes_before_verdict nodup verdict
        (backed _ listed key owns v found _ gated)
    rw [removedKeysForUnsupported, List.mem_append, List.mem_flatMap] at removed
    rcases removed with ⟨command, verdict, owns⟩ | chain
    · exact (clash owns (listed_of_owns owns) (gates_self command) verdict).elim
    · split at chain
      · rename_i total
        obtain ⟨command, member, owns⟩ := List.mem_flatMap.mp chain
        exact (clash owns (energy_listed command member) (energy_gated command member) total).elim
      split at chain
      · rename_i clock
        obtain ⟨command, member, owns⟩ := List.mem_flatMap.mp chain
        exact (clash owns (dynamic_listed command member) (dynamic_gated command member) clock).elim
      · cases chain

def translatedKeys : List String := ["operating_mode", "alarm_status", "inverter_charge_state"]

def readValueKeys : List String := runtimeValueKeys ++ translatedKeys

def pollKeys : List String :=
  ["pi30_poll_mode", "pi30_poll_commands", "pi30_poll_skipped_commands",
    "pi30_poll_command_durations_ms", "pi30_poll_total_ms", "pi30_poll_attempted",
    "pi30_poll_skipped", "pi30_poll_succeeded", "pi30_poll_timeout", "pi30_poll_error"]

def estimateKeys : List String :=
  ["pi30_estimated_full_cycle_ms", "pi30_estimated_full_cycle_measured_commands",
    "pi30_full_cycle_expected_commands", "pi30_full_cycle_unmeasured_commands",
    "pi30_full_cycle_unreachable_commands", "pi30_full_cycle_estimate_complete",
    "pi30_known_unsupported_commands"]

def readDiagnosticKeys : List String :=
  pollKeys ++ ["pi30_command_cumulative"] ++ estimateKeys ++ ["driver_unsupported_commands"]

theorem readValueKeys_normalized : ∀ key ∈ readValueKeys, normalizedKey key := by decide +kernel

theorem readDiagnosticKeys_normalized : ∀ key ∈ readDiagnosticKeys, normalizedKey key := by
  decide +kernel

theorem readKeys_disjoint : ∀ key ∈ readValueKeys, key ∉ readDiagnosticKeys := by decide

theorem outputKeys_known : ∀ command ∈ fullCycleCommandKeys, ∀ key ∈ commandOutputKeys command,
    key ∈ readValueKeys := by
  decide

theorem alarmStatus_owner : ∀ command ∈ fullCycleCommandKeys,
    "alarm_status" ∈ commandOutputKeys command → "alarm_bits_raw" ∈ commandOutputKeys command := by
  decide

theorem chargeState_owner : ∀ command ∈ fullCycleCommandKeys,
    "inverter_charge_state" ∈ commandOutputKeys command →
      "inverter_charge_state_code" ∈ commandOutputKeys command := by
  decide

theorem operatingMode_unowned : ∀ command ∈ fullCycleCommandKeys,
    "operating_mode" ∉ commandOutputKeys command := by
  decide

theorem removed_owner {unsupported : List String} {key : String}
    (removed : key ∈ removedKeysForUnsupported unsupported) :
    ∃ command ∈ fullCycleCommandKeys, key ∈ commandOutputKeys command ∧
      ∀ other ∈ commandOutputKeys command, other ∈ removedKeysForUnsupported unsupported := by
  rw [removedKeysForUnsupported, List.mem_append, List.mem_flatMap] at removed
  simp only [removedKeysForUnsupported, List.mem_append, List.mem_flatMap]
  rcases removed with ⟨command, verdict, owns⟩ | chain
  · exact ⟨command, listed_of_owns owns, owns, fun other owned => Or.inl ⟨command, verdict, owned⟩⟩
  · by_cases total : "QET" ∈ unsupported
    · rw [if_pos total] at chain ⊢
      obtain ⟨command, member, owns⟩ := List.mem_flatMap.mp chain
      exact ⟨command, energy_listed command member, owns,
        fun other owned => Or.inr (List.mem_flatMap.mpr ⟨command, member, owned⟩)⟩
    · rw [if_neg total] at chain ⊢
      by_cases clock : "QT" ∈ unsupported
      · rw [if_pos clock] at chain ⊢
        obtain ⟨command, member, owns⟩ := List.mem_flatMap.mp chain
        exact ⟨command, dynamic_listed command member, owns,
          fun other owned => Or.inr (List.mem_flatMap.mpr ⟨command, member, owned⟩)⟩
      · rw [if_neg clock] at chain
        cases chain

theorem translateAlarmStatus_source {values : Values} {schema : Option Schema} {key : String}
    {v : Value} (found : (translateAlarmStatus values schema
      (translateOperatingMode values schema)).get? key = some v) :
    key = "operating_mode" ∨ (key = "alarm_status" ∧ values.get? "alarm_bits_raw" ≠ none) := by
  have mode : (translateOperatingMode values schema).get? key = some v → key = "operating_mode" := by
    intro reported
    unfold translateOperatingMode at reported
    split at reported
    · rw [Dict.get?_set] at reported
      split at reported
      · assumption
      · cases reported
    · cases reported
  unfold translateAlarmStatus at found
  split at found
  · rename_i bits at_bits
    rw [Dict.get?_set] at found
    split at found
    · rename_i same
      refine Or.inr ⟨same, ?_⟩
      rw [at_bits]
      exact Option.some_ne_none _
    · exact Or.inl (mode found)
  · exact Or.inl (mode found)

/-- The translation adds a key only beside the value it translates. -/
theorem translateRuntimeMetadata_source {values : Values} {schema : Option Schema} {key : String}
    {v : Value} (found : (translateRuntimeMetadata values schema).get? key = some v) :
    key = "operating_mode" ∨
      (key = "alarm_status" ∧ values.get? "alarm_bits_raw" ≠ none) ∨
      (key = "inverter_charge_state" ∧ values.get? "inverter_charge_state_code" ≠ none) := by
  unfold translateRuntimeMetadata translateChargeState at found
  split at found
  · rename_i code _ at_code
    rw [Dict.get?_set] at found
    split at found
    · rename_i same
      refine Or.inr (Or.inr ⟨same, ?_⟩)
      intro absent
      rw [absent] at at_code
      cases at_code
    · exact (translateAlarmStatus_source found).imp id Or.inl
  · exact (translateAlarmStatus_source found).imp id Or.inl

theorem buildReadMeta_keys (poll : Poll ω) (cycleWallMs : Int) :
    Within readDiagnosticKeys (buildReadMeta poll cycleWallMs) := by
  intro key v found
  have listed : key ∈ (buildReadMeta poll cycleWallMs).items.map Prod.fst :=
    List.mem_map_of_mem ((Dict.get?_eq_some_iff _ _ _).mp found)
  unfold buildReadMeta at listed
  dsimp only at listed
  rw [mem_keys_assignAll, List.map_append, List.mem_append, List.map_append, List.mem_append] at listed
  rw [readDiagnosticKeys, List.mem_append, List.mem_append, List.mem_append]
  rcases listed with (first | cumulative) | last
  · exact Or.inl (Or.inl (Or.inl first))
  · split at cumulative
    · cases cumulative
    · exact Or.inl (Or.inl (Or.inr cumulative))
  · exact Or.inl (Or.inr last)

theorem diagnostics_within (poll : Poll ω) (cycleWallMs : Int) :
    Within readDiagnosticKeys
      ((buildReadMeta poll cycleWallMs).update (unsupportedCommandDiagnostics poll.cache)) := by
  refine (buildReadMeta_keys poll cycleWallMs).update ?_
  rw [unsupportedCommandDiagnostics]
  split
  · exact within_empty _
  · exact (within_empty _).set (by decide) _

theorem normalized_items {keys : List String} {values : Values} (within : Within keys values)
    (normalized : ∀ key ∈ keys, normalizedKey key) : ∀ item ∈ values.items, normalizedKey item.1 :=
  fun item member => normalized item.1
    (within item.1 item.2 ((values.get?_eq_some_iff item.1 item.2).mpr member))

theorem absent_of_disjoint {keys others : List String} {values : Values}
    (within : Within others values) (disjoint : ∀ key ∈ keys, key ∉ others) {key : String}
    (member : key ∈ keys) : values.get? key = none := by
  cases found : values.get? key with
  | none => rfl
  | some v => exact absurd (within key v found) (disjoint key member)

theorem driverReadResult_ok {values diagnostics : Values} {removedKeys : List String}
    (known : Within readValueKeys values) (reported : Within readDiagnosticKeys diagnostics)
    (owned : ∀ key ∈ removedKeys, key ∈ readValueKeys)
    (unread : ∀ key ∈ removedKeys, values.get? key = none) :
    ∃ result, driverReadResult values .delta removedKeys diagnostics = .ok result ∧
      result.values = values ∧ result.removedKeys = removedKeys := by
  have noValue : ∀ item ∈ values.items, diagnostics.get? item.1 = none :=
    fun item member => absent_of_disjoint reported readKeys_disjoint
      (known item.1 item.2 ((values.get?_eq_some_iff item.1 item.2).mpr member))
  have noRemoved : ∀ key ∈ removedKeys, diagnostics.get? key = none :=
    fun key member => absent_of_disjoint reported readKeys_disjoint (owned key member)
  rw [driverReadResult, dif_pos (normalized_items known readValueKeys_normalized),
    dif_pos fun key member => readValueKeys_normalized key (owned key member),
    dif_pos (normalized_items reported readDiagnosticKeys_normalized),
    dif_neg fun both => DriverReadMode.noConfusion both.1, dif_pos unread, dif_pos noValue,
    dif_pos noRemoved]
  exact ⟨_, rfl, rfl, rfl⟩

theorem translated_unread {values : Values} {schema : Option Schema} {unsupported : List String}
    (unread : ∀ key ∈ removedKeysForUnsupported unsupported, values.get? key = none) :
    ∀ key ∈ removedKeysForUnsupported unsupported,
      (values.update (translateRuntimeMetadata values schema)).get? key = none := by
  intro key removed
  rw [Dict.get?_update, unread key removed, Option.or_none]
  cases found : (translateRuntimeMetadata values schema).get? key with
  | none => rfl
  | some v =>
    obtain ⟨command, listed, owns, together⟩ := removed_owner removed
    rcases translateRuntimeMetadata_source found with rfl | ⟨rfl, read⟩ | ⟨rfl, read⟩
    · exact absurd owns (operatingMode_unowned command listed)
    · exact absurd (unread _ (together _ (alarmStatus_owner command listed owns))) read
    · exact absurd (unread _ (together _ (chargeState_owner command listed owns))) read

/-- The frame a finished poll folds into holds nothing of a command that is finally unsupported
    or that its verdict makes unreachable. -/
def Purged (reading : Reading) (unsupported : List String) : Prop :=
  ∃ result, driverReadResult reading.values .delta reading.removedKeys reading.diagnostics =
      .ok result ∧
    ∀ previous frame driverKey, foldDriverTelemetry previous driverKey result = .ok frame →
      ∀ key ∈ removedKeysForUnsupported unsupported, frame.value? key = none

theorem translated_within {values : Values} (within : Within runtimeValueKeys values)
    (schema : Option Schema) :
    Within readValueKeys (values.update (translateRuntimeMetadata values schema)) := by
  refine (within.mono fun key member => List.mem_append_left _ member).update ?_
  intro key v found
  refine List.mem_append_right _ ?_
  rcases translateRuntimeMetadata_source found with rfl | ⟨rfl, _⟩ | ⟨rfl, _⟩ <;> decide

theorem purged_of_read {start : Cache} {done : List String} {poll : Poll ω} {values : Values}
    (read : Read start done poll values) (sound : Sound poll.cache) (schema : Option Schema)
    {reading : Reading}
    (removed : reading.removedKeys = (removedKeysForUnsupported
      poll.cache.commitCycleFailures.unsupportedCommands).filter fun key => (values.get? key).isNone)
    (shown : reading.values = values.update (translateRuntimeMetadata values schema))
    (reported : Within readDiagnosticKeys reading.diagnostics) :
    Purged reading poll.cache.commitCycleFailures.unsupportedCommands := by
  have unread : ∀ key ∈ removedKeysForUnsupported
      poll.cache.commitCycleFailures.unsupportedCommands, values.get? key = none :=
    fun key => removed_unread sound.nodup read.backed
  have whole : reading.removedKeys = removedKeysForUnsupported
      poll.cache.commitCycleFailures.unsupportedCommands := by
    rw [removed, List.filter_eq_self]
    intro key member
    rw [unread key member]
    rfl
  have clear : ∀ key ∈ removedKeysForUnsupported
      poll.cache.commitCycleFailures.unsupportedCommands,
      (values.update (translateRuntimeMetadata values schema)).get? key = none :=
    translated_unread unread
  rw [← shown, ← whole] at clear
  have owned : ∀ key ∈ reading.removedKeys, key ∈ readValueKeys := by
    intro key member
    rw [whole] at member
    obtain ⟨command, listed, owns, _⟩ := removed_owner member
    exact outputKeys_known command listed key owns
  obtain ⟨result, accepted, values_eq, removed_eq⟩ :=
    driverReadResult_ok (shown ▸ translated_within read.within schema) reported owned clear
  refine ⟨result, accepted, ?_⟩
  intro previous frame driverKey folded key member
  rw [← whole, ← removed_eq] at member
  have absent : result.values.get? key = none := by
    rw [values_eq]
    exact clear key (removed_eq ▸ member)
  rw [foldDriverTelemetry_value? folded, DriverReadResult.mention, absent]
  dsimp only
  rw [if_pos (Or.inr (Or.inr member))]
  rfl

theorem readValues_purged (session : Session ω) (floats : Floats) (wallMs : ω → Int)
    (schema : Option Schema) (poll : Poll ω) (sound : Sound poll.cache) :
    Run.Ends (readValues session floats wallMs schema) poll fun poll' e =>
      ∀ reading, e = .returned reading → Purged reading poll'.cache.unsupportedCommands := by
  rw [readValues, Run.ends_bind, collectRuntimeValues_bind]
  have kept := within_runCommands session floats { poll with timings := [] } sound
  have both : Run.Ends (runCommands session floats) { poll with timings := [] } fun poll' e =>
      ((∃ done, Reached poll.cache done poll') ∧ ∀ values, e = .returned values →
        ∃ done, Reached poll.cache done poll' ∧ Read poll.cache done poll' values ∧
          Stopped poll.cache done poll') ∧ Sound poll'.cache :=
    ⟨runCommands_ends session floats sound.requiredOpen rfl rfl, kept⟩
  refine Run.ends_mono ?_ both
  rintro poll' e ⟨⟨_, final⟩, soundAfter⟩
  cases e with
  | raised => exact nofun
  | cancelled => exact nofun
  | returned values =>
    obtain ⟨done, _, read, _⟩ := final values rfl
    intro reading eq
    cases eq
    exact purged_of_read read soundAfter schema rfl rfl (diagnostics_within _ _)

inductive Event (ω : Type) where
  | read (session : Session ω) (floats : Floats) (wallMs : ω → Int) (schema : Option Schema)
  | seed (keys : List PyObj)
  | clear

def Event.apply (poll : Poll ω) : Event ω → Poll ω
  | .read session floats wallMs schema => (readValues session floats wallMs schema poll).1
  | .seed keys => { poll with cache := poll.cache.seedUnsupportedCommands keys }
  | .clear => { poll with cache := poll.cache.clearUnsupportedCommands }

def SeedsOptional (_ : Poll ω) : Event ω → Prop
  | .seed keys => ∀ key ∈ ["QPIGS", "QMOD"], key ∉ keys.map PyObj.cleanText
  | _ => True

def PollsTruly (poll : Poll ω) : Event ω → Prop
  | .read session floats wallMs schema =>
    Run.Ends (readValues session floats wallMs schema) poll fun poll' e =>
      poll'.attempted <+: reachableCommands poll.cache.unsupportedCommands ∧
        ∀ reading, e = .returned reading →
          (poll'.attempted = reachableCommands poll.cache.unsupportedCommands ∨
            poll'.Failed "QET" ∨ poll'.Failed "QT") ∧
          Purged reading poll'.cache.unsupportedCommands
  | _ => True

def Poll.idle (world : ω) : Poll ω := ⟨world, Cache.empty, Dict.empty, []⟩

theorem sound_idle (world : ω) : Sound (Poll.idle world).cache :=
  ⟨List.nodup_nil, fun _ _ => ⟨List.not_mem_nil, rfl⟩⟩

theorem Sound.applied {poll : Poll ω} (sound : Sound poll.cache) (event : Event ω)
    (optional : SeedsOptional poll event) : Sound (event.apply poll).cache := by
  cases event with
  | read session floats wallMs schema =>
    exact Run.within_bind (within_collectRuntimeValues session floats wallMs)
      (fun _ => Run.within_pure _) poll sound
  | seed keys =>
    refine ⟨sound.nodup, fun key member => ⟨(sound.required key member).1, ?_⟩⟩
    rw [Event.apply, Cache.strikes_seedUnsupportedCommands, if_neg fun both =>
      optional key member both.2]
    exact (sound.required key member).2
  | clear => exact ⟨sound.nodup, fun key member => ⟨(sound.required key member).1, rfl⟩⟩

theorem Sound.pollsTruly {poll : Poll ω} (sound : Sound poll.cache) (event : Event ω) :
    PollsTruly poll event := by
  cases event with
  | seed keys => trivial
  | clear => trivial
  | read session floats wallMs schema =>
    have sends := poll_sends_reachable session floats wallMs poll sound.requiredOpen
    have purged := readValues_purged session floats wallMs schema poll sound
    rw [readValues, Run.ends_bind] at purged
    rw [PollsTruly, readValues, Run.ends_bind]
    have both := And.intro sends purged
    rw [Run.Ends, Run.Ends] at both
    rw [Run.Ends]
    generalize collectRuntimeValues session floats wallMs poll = outcome at both ⊢
    obtain ⟨poll', ending⟩ := outcome
    obtain ⟨⟨prefixed, complete⟩, clear⟩ := both
    cases ending with
    | raised failure => exact ⟨prefixed, fun reading eq => (raised_ne_returned failure reading eq).elim⟩
    | cancelled => exact ⟨prefixed, fun reading eq => (cancelled_ne_returned reading eq).elim⟩
    | returned reading =>
      refine ⟨prefixed, ?_⟩
      intro final eq
      exact ⟨complete reading rfl, clear final eq⟩

theorem history_polls_truly (world : ω) {events : List (Event ω)}
    (optional : EveryStep Event.apply SeedsOptional (Poll.idle world) events) :
    EveryStep Event.apply PollsTruly (Poll.idle world) events :=
  everyStep_of_invariant
    (fun (poll : Poll ω) event (sound : Sound poll.cache) admitted => sound.applied event admitted)
    (fun _ event sound _ => sound.pollsTruly event) (sound_idle world) optional

def exactFloats : Floats where
  ofText text :=
    match [("230.0", (230 : ℚ)), ("50.0", 50), ("54.5", 109 / 2), ("2.5", 5 / 2),
      ("180.0", 180)].lookup text with
    | some q => .ok (.number q)
    | none => .error (valueError "could not convert string to float")
  round value _ := value
  toInt
    | .number q => .ok q.floor
    | _ => .error (valueError "cannot convert float to integer")
  times
    | .number a, .number b => .number (a * b)
    | a, _ => a
  minus
    | .number a, .number b => .number (a - b)
    | .int a, .int b => .int (a - b)
    | a, _ => a

def withoutQ1 : Session Unit where
  request
    | "QPIGS", _ => ((), .returned
        "230.0 50.0 230.0 50.0 0500 0450 010 380 54.5 005 090 0040 2.5 180.0 54.5 00000 00010110")
    | "QMOD", _ => ((), .returned "B")
    | "QPIWS", _ => ((), .returned "00000100000000000000000000000000")
    | "Q1", _ => ((), .raised (.pi30 "Timeout waiting for response"))
    | "QT", _ => ((), .returned "20240131120000")
    | _, _ => ((), .returned "00012345")
  durationMs _ := 120

def readWithoutQ1 : Event Unit := .read withoutQ1 exactFloats (fun _ => 2400) none

def withoutQ1History : List (Event Unit) :=
  List.replicate 4 readWithoutQ1 ++ [.seed [.str "QPIWS"], readWithoutQ1]

theorem withoutQ1History_polls_truly :
    EveryStep Event.apply PollsTruly (Poll.idle ()) withoutQ1History ∧
      (run Event.apply (Poll.idle ()) withoutQ1History).cache.commandSkippedAsUnsupported "Q1" =
        true ∧
      (run Event.apply (Poll.idle ()) withoutQ1History).attempted =
        ["QPIGS", "QMOD", "QET", "QLT", "QT"] ++ energyDynamicCommands := by
  refine ⟨history_polls_truly () ⟨trivial, trivial, trivial, trivial, ?_, trivial, trivial⟩, ?_, ?_⟩
  · rw [SeedsOptional]
    decide
  · decide +kernel
  · decide +kernel

end Pi30Driver
