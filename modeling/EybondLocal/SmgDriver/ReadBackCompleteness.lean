import EybondLocal.Capability.RoundTrip
import EybondLocal.SmgDriver.ReadBack

/-!
What a full SMG poll says of the controls it can read: every value that the device's words decode
to, and for a pending write whether they are the requested words. Registers that were read for an
auxiliary spec are not kept for this.
-/
namespace SmgDriver
open Capability OrderedDict PythonObject
variable {F : Type}

/-- The key of the capability holds what the schema's specs gave for it, or what a capability with
    this key decodes from the words of the device. -/
def Reported (p : Platform) (device : Int → BitVec 16) (capabilities : List PolledCapability)
    (polled values : Hub.Values) (c : PolledCapability) : Prop :=
  (∃ value, polled.get? c.valueKey = some value ∧ values.get? c.valueKey = some value) ∨
  ∃ source ∈ capabilities, source.valueKey = c.valueKey ∧ ∃ comparable value,
    source.deviceObserved p device = .ok (comparable, value) ∧
      values.get? c.valueKey = some (hubValue value)

def Pending (state : Option CapabilityWriteConfirmation) (capabilities : List PolledCapability)
    (c : PolledCapability) (trace : CapabilityWriteConfirmation) : Prop :=
  state = some trace ∧ trace.pollMatchSeen = false ∧ tracedCapability trace capabilities = some c

/-- What is asked of a full poll: every readable capability whose words decode is reported, and a
    pending trace of it records whether its words are the requested ones. -/
def ReadBackComplete (p : Platform) (steps : PollSteps F) (read : ReadHolding)
    (schema : RegisterSchema F) (capabilities : List PolledCapability)
    (state : Option CapabilityWriteConfirmation) (device : Int → BitVec 16) : Prop :=
  ∀ c ∈ capabilities, c.Readable → ∀ comparable value,
    c.deviceObserved p device = .ok (comparable, value) →
      ∃ layout polled result, pollLayout schema = .ok layout ∧
        specValues steps device layout = .ok polled ∧
        asyncReadValues p steps read schema capabilities state = .ok result ∧
        Reported p device capabilities polled result.read.values c ∧
        ∀ trace, Pending state capabilities c trace →
          ∃ after, result.trace = some after ∧ after.latestPollStatus =
            if comparable = trace.requestedWords then .matched else .mismatched

/-- A key that the result of a poll may hold, beside the diagnostics of a trace. -/
def Publishable (state : Option CapabilityWriteConfirmation) (key : String) : Prop :=
  Hub.normalizedKey key ∧ (state.isSome = true → key ≠ writeConfirmationDiagnosticKey)

instance (state : Option CapabilityWriteConfirmation) : DecidablePred (Publishable state) :=
  fun _ => inferInstanceAs (Decidable (_ ∧ _))

def TraceStorable (p : Platform) (device : Int → BitVec 16) (layout : PollLayout F)
    (capabilities : List PolledCapability) (state : Option CapabilityWriteConfirmation) : Prop :=
  ∀ c trace, Pending state capabilities c trace → layout.Covers capabilities c →
    ∀ comparable value, c.deviceObserved p device = .ok (comparable, value) →
      strictScalar value = true

/-- A capability that gives the poll a value of its own for its key. -/
def Supplies (p : Platform) (device : Int → BitVec 16) (layout : PollLayout F)
    (capabilities : List PolledCapability) (source : PolledCapability) : Prop :=
  layout.Covers capabilities source ∧ ∃ result, source.deviceObserved p device = .ok result

structure WithinReach (p : Platform) (device : Int → BitVec 16) (layout : PollLayout F)
    (capabilities : List PolledCapability) (polled : Hub.Values)
    (state : Option CapabilityWriteConfirmation) (c : PolledCapability) : Prop where
  key_supplied : (polled.get? c.valueKey).isSome ∨ c.valueKey ≠ "" ∧
    ∃ source ∈ capabilities, source.valueKey = c.valueKey ∧
      Supplies p device layout capabilities source
  trace_covered : ∀ trace, Pending state capabilities c trace → layout.Covers capabilities c
  storable : TraceStorable p device layout capabilities state
  polled_publishable : ∀ key value, polled.get? key = some value → Publishable state key
  supplied_publishable : ∀ source ∈ capabilities, source.valueKey ≠ "" →
    polled.get? source.valueKey = none → Supplies p device layout capabilities source →
      Publishable state source.valueKey

section
variable {p : Platform} {steps : PollSteps F} {read : ReadHolding} {schema : RegisterSchema F}
  {layout : PollLayout F} {capabilities : List PolledCapability} {polled : Hub.Values}
  {state : Option CapabilityWriteConfirmation} {device : Int → BitVec 16}

theorem covers_iff_kept (device : Int → BitVec 16)
    (few : (layout.outOfBlockRegisters capabilities).length ≤ 16)
    (c : PolledCapability) :
    layout.Covers capabilities c ↔
      ∀ register ∈ c.registers, register ∈ blockRegisters (keptBlocks device layout capabilities) := by
  unfold PollLayout.Covers
  simp only [mem_keptBlocks few]

def observation (p : Platform) (device : Int → BitVec 16) (kept : List Int)
    (capabilities : List PolledCapability) (trace : CapabilityWriteConfirmation) :
    Option (List Int × NativeValue) :=
  (tracedCapability trace capabilities).bind fun c =>
    if ∀ register ∈ c.registers, register ∈ kept then (c.deviceObserved p device).toOption else none

theorem pollObservation_eq (trace : CapabilityWriteConfirmation) {blocks : RegisterBlocks}
    (truthful : Truthful device blocks) :
    pollObservation p trace capabilities blocks =
      observation p device (blockRegisters blocks) capabilities trace := by
  unfold pollObservation observation
  congr 1
  funext c
  split
  · rename_i covered
    rw [PolledCapability.observed_covered (get?_registerMap truthful) covered]
  · rename_i uncovered
    obtain ⟨text, failed⟩ :=
      PolledCapability.observed_uncovered (p := p) (get?_registerMap truthful) uncovered
    rw [failed]
    rfl

theorem observe_none {trace : CapabilityWriteConfirmation}
    (unobserved : observation p device (blockRegisters (keptBlocks device layout capabilities))
      capabilities trace = none) :
    observeCapabilityWriteFullPoll p (some trace) capabilities
      (keptBlocks device layout capabilities) = (trace.withPollObservation .none none).map some := by
  rw [observeCapabilityWriteFullPoll, pollObservation_eq trace truthful_keptBlocks, unobserved]

theorem observe_some {trace : CapabilityWriteConfirmation} {comparable : List Int}
    {value : NativeValue}
    (observed : observation p device (blockRegisters (keptBlocks device layout capabilities))
      capabilities trace = some (comparable, value)) :
    observeCapabilityWriteFullPoll p (some trace) capabilities
      (keptBlocks device layout capabilities) =
        (trace.withPollObservation value (some (comparable == trace.requestedWords))).map some := by
  rw [observeCapabilityWriteFullPoll, pollObservation_eq trace truthful_keptBlocks, observed]

/-- The first value that a capability supplies for a key. -/
def firstSupply (p : Platform) (device : Int → BitVec 16) (layout : PollLayout F)
    (capabilities : List PolledCapability) (key : String) : Option NativeValue :=
  capabilities.findSome? fun c =>
    if c.valueKey = key ∧ key ≠ "" then
      c.supply p device (blockRegisters (keptBlocks device layout capabilities))
    else none

/-- The values of a poll are what the specs gave and, for other keys, the first supply. -/
def Filled (p : Platform) (device : Int → BitVec 16) (layout : PollLayout F)
    (capabilities : List PolledCapability) (polled values : Hub.Values) : Prop :=
  ∀ key, values.get? key =
    (polled.get? key).or ((firstSupply p device layout capabilities key).map hubValue)

/-- A poll ends well exactly if the trace can be stored and the values make a read result. -/
theorem asyncReadValues_ok_iff (state : Option CapabilityWriteConfirmation)
    (answers : Answers read device) (laid : pollLayout schema = .ok layout)
    (specs : specValues steps device layout = .ok polled)
    (divides : ∀ c ∈ capabilities, ∀ divisor, c.divisor = some divisor → divisor ≠ 0 →
      DividesWords p divisor) :
    ∃ values : Hub.Values, Filled p device layout capabilities polled values ∧ ∀ result,
      asyncReadValues p steps read schema capabilities state = .ok result ↔
        observeCapabilityWriteFullPoll p state capabilities
          (keptBlocks device layout capabilities) = .ok result.trace ∧
        Hub.driverReadResult values .full [] (writeConfirmationDiagnostics steps result.trace) =
          .ok result.read := by
  obtain ⟨values, applied, gets⟩ :=
    foldlM_applyCapability (get?_registerMap truthful_keptBlocks) divides polled
  refine ⟨values, gets, fun result => ?_⟩
  have extra : (readOutOfBlockCapabilityRegisters read capabilities (filledBlocks device layout)
      layout.auxRegisters).map (filledBlocks device layout ++ ·) =
        .ok (keptBlocks device layout capabilities) := outOfBlock_answered answers
  cases outside : readOutOfBlockCapabilityRegisters read capabilities (filledBlocks device layout)
      layout.auxRegisters with
  | error error =>
    rw [outside] at extra
    cases extra
  | ok blocks =>
    rw [outside] at extra
    have kept : filledBlocks device layout ++ blocks = keptBlocks device layout capabilities :=
      Except.ok.inj extra
    unfold asyncReadValues
    simp only [laid, Except.mapError, bind, Except.bind, readSpecs_answered answers, specs,
      Except.map, outside, kept, applyCapabilityReadBack, applied]
    cases observeCapabilityWriteFullPoll p state capabilities
        (keptBlocks device layout capabilities) with
    | error error => simp
    | ok after =>
      cases accepted : Hub.driverReadResult values .full []
          (writeConfirmationDiagnostics steps after) with
      | error error =>
        simp only [accepted, reduceCtorEq, Except.ok.injEq, false_iff, not_and]
        rintro rfl
        rw [accepted]
        exact nofun
      | ok shown =>
        obtain ⟨read', trace'⟩ := result
        simp only [accepted, Except.ok.injEq, PollResult.mk.injEq]
        constructor
        · rintro ⟨rfl, rfl⟩
          exact ⟨rfl, accepted⟩
        · rintro ⟨rfl, accepted'⟩
          exact ⟨Except.ok.inj (accepted.symm.trans accepted'), rfl⟩

theorem firstSupply_some {key : String} {value : NativeValue}
    (first : firstSupply p device layout capabilities key = some value) :
    key ≠ "" ∧ ∃ c ∈ capabilities, c.valueKey = key ∧
      c.supply p device (blockRegisters (keptBlocks device layout capabilities)) = some value := by
  obtain ⟨c, member, supplied⟩ := List.exists_of_findSome?_eq_some first
  split at supplied
  · rename_i mine
    exact ⟨mine.2, c, member, mine.1, supplied⟩
  · cases supplied

theorem firstSupply_iff (few : (layout.outOfBlockRegisters capabilities).length ≤ 16)
    (key : String) : (firstSupply p device layout capabilities key).isSome ↔
      key ≠ "" ∧ ∃ source ∈ capabilities, source.valueKey = key ∧
        Supplies p device layout capabilities source := by
  constructor
  · intro first
    obtain ⟨value, found⟩ := Option.isSome_iff_exists.mp first
    obtain ⟨nonempty, source, member, named, supplied⟩ := firstSupply_some found
    obtain ⟨covered, comparable, decoded⟩ := PolledCapability.supply_eq_some_iff.mp supplied
    exact ⟨nonempty, source, member, named, (covers_iff_kept device few source).mpr covered, _,
      decoded⟩
  · rintro ⟨nonempty, source, member, named, covered, ⟨comparable, value⟩, decoded⟩
    have supplied := PolledCapability.supply_eq_some_iff.mpr
      ⟨(covers_iff_kept device few source).mp covered, comparable, decoded⟩
    rw [firstSupply, List.findSome?_isSome_iff]
    exact ⟨source, member, by rw [if_pos ⟨named, nonempty⟩, supplied]; rfl⟩

theorem reported_iff (few : (layout.outOfBlockRegisters capabilities).length ≤ 16)
    {values : Hub.Values} (filled : Filled p device layout capabilities polled values)
    (c : PolledCapability) :
    Reported p device capabilities polled values c ↔
      ((polled.get? c.valueKey).isSome ∨ c.valueKey ≠ "" ∧
        ∃ source ∈ capabilities, source.valueKey = c.valueKey ∧
          Supplies p device layout capabilities source) := by
  unfold Reported
  rw [filled, ← firstSupply_iff few]
  cases present : polled.get? c.valueKey with
  | some value => simp
  | none =>
    simp only [Option.none_or, Option.isSome_none, Bool.false_eq_true, false_or, reduceCtorEq,
      false_and, exists_false]
    cases first : firstSupply p device layout capabilities c.valueKey with
    | none => simp
    | some native =>
      obtain ⟨-, source, member, named, supplied⟩ := firstSupply_some first
      obtain ⟨-, comparable, decoded⟩ := PolledCapability.supply_eq_some_iff.mp supplied
      exact iff_of_true ⟨source, member, named, comparable, native, decoded, rfl⟩ rfl

theorem published_iff (few : (layout.outOfBlockRegisters capabilities).length ≤ 16)
    {values : Hub.Values} (filled : Filled p device layout capabilities polled values)
    (allowed : String → Prop) :
    (∀ key value, values.get? key = some value → allowed key) ↔
      (∀ key value, polled.get? key = some value → allowed key) ∧
        ∀ source ∈ capabilities, source.valueKey ≠ "" → polled.get? source.valueKey = none →
          Supplies p device layout capabilities source → allowed source.valueKey := by
  constructor
  · intro all
    constructor
    · intro key value held
      exact all key value (by rw [filled, held]; rfl)
    · intro source member nonempty absent supplies
      obtain ⟨value, first⟩ := Option.isSome_iff_exists.mp
        ((firstSupply_iff few _).mpr ⟨nonempty, source, member, rfl, supplies⟩)
      exact all source.valueKey (hubValue value) (by rw [filled, absent, first]; rfl)
  · rintro ⟨specs, supplied⟩ key value held
    rw [filled] at held
    cases present : polled.get? key with
    | some given => exact specs key given present
    | none =>
      rw [present, Option.none_or] at held
      obtain ⟨native, first, -⟩ := Option.map_eq_some_iff.mp held
      obtain ⟨nonempty, source, member, rfl, supplies⟩ :=
        (firstSupply_iff few key).mp (Option.isSome_iff_exists.mpr ⟨native, first⟩)
      exact supplied source member nonempty present supplies

theorem observation_eq_some_iff {kept : List Int} {trace : CapabilityWriteConfirmation}
    {result : List Int × NativeValue} :
    observation p device kept capabilities trace = some result ↔
      ∃ c, tracedCapability trace capabilities = some c ∧
        (∀ register ∈ c.registers, register ∈ kept) ∧ c.deviceObserved p device = .ok result := by
  unfold observation
  rw [Option.bind_eq_some_iff]
  refine exists_congr fun c => and_congr_right fun _ => ?_
  split
  · cases c.deviceObserved p device with
    | error error => simp_all [Except.toOption]
    | ok found => simp_all [Except.toOption]
  · simp_all

theorem observe_ok_iff (few : (layout.outOfBlockRegisters capabilities).length ≤ 16) :
    (∃ after, observeCapabilityWriteFullPoll p state capabilities
      (keptBlocks device layout capabilities) = .ok after) ↔
        TraceStorable p device layout capabilities state := by
  cases state with
  | none => simp [observeCapabilityWriteFullPoll, TraceStorable, Pending]
  | some trace =>
    cases observed : observation p device
        (blockRegisters (keptBlocks device layout capabilities)) capabilities trace with
    | none =>
      rw [observe_none observed]
      refine iff_of_true ?_ ?_
      · cases stored : trace.withPollObservation .none none with
        | ok after => exact ⟨some after, rfl⟩
        | error error => exact absurd ((observation_fails_iff _ _ _).mp ⟨error, stored⟩).2 (by decide)
      · rintro c other ⟨same, -, traced⟩ covered comparable value decoded
        cases Option.some.inj same
        rw [observation_eq_some_iff.mpr
          ⟨c, traced, (covers_iff_kept device few c).mp covered, decoded⟩] at observed
        cases observed
    | some result =>
      obtain ⟨comparable, value⟩ := result
      obtain ⟨c, traced, covered, decoded⟩ := observation_eq_some_iff.mp observed
      rw [observe_some observed]
      constructor
      · rintro ⟨after, stored⟩ c' other ⟨same, opened, traced'⟩ - comparable' value' decoded'
        cases Option.some.inj same
        cases Option.some.inj (traced.symm.trans traced')
        cases Except.ok.inj (decoded.symm.trans decoded')
        by_contra loose
        obtain ⟨error, failed⟩ := (observation_fails_iff trace value
          (some (comparable == trace.requestedWords))).mpr ⟨opened, by simpa using loose⟩
        rw [failed] at stored
        cases stored
      · intro storable
        cases stored : trace.withPollObservation value (some (comparable == trace.requestedWords)) with
        | ok after => exact ⟨some after, rfl⟩
        | error error =>
          obtain ⟨opened, loose⟩ := (observation_fails_iff _ _ _).mp ⟨error, stored⟩
          rw [storable c trace ⟨rfl, opened, traced⟩ ((covers_iff_kept device few c).mpr covered)
            comparable value decoded] at loose
          cases loose

theorem observed_right_iff (few : (layout.outOfBlockRegisters capabilities).length ≤ 16)
    {c : PolledCapability} {trace : CapabilityWriteConfirmation}
    (pending : Pending state capabilities c trace) {comparable : List Int} {value : NativeValue}
    (decoded : c.deviceObserved p device = .ok (comparable, value))
    {stored : Option CapabilityWriteConfirmation}
    (observed : observeCapabilityWriteFullPoll p state capabilities
      (keptBlocks device layout capabilities) = .ok stored) :
    (∃ after, stored = some after ∧ after.latestPollStatus =
      if comparable = trace.requestedWords then .matched else .mismatched) ↔
        layout.Covers capabilities c := by
  obtain ⟨rfl, opened, traced⟩ := pending
  rw [covers_iff_kept device few]
  by_cases covered : ∀ register ∈ c.registers,
      register ∈ blockRegisters (keptBlocks device layout capabilities)
  · refine iff_of_true ?_ covered
    rw [observe_some (observation_eq_some_iff.mpr ⟨c, traced, covered, decoded⟩)] at observed
    obtain ⟨after, recorded, rfl⟩ := map_eq_ok observed
    refine ⟨after, rfl, ?_⟩
    rw [(observation_recorded opened recorded).1]
    by_cases same : comparable = trace.requestedWords
    · simp [same, observationStatus]
    · have differ : (comparable == trace.requestedWords) = false := by simpa using same
      rw [differ, if_neg same]
      rfl
  · refine iff_of_false ?_ covered
    rw [observe_none (by rw [observation, traced, Option.bind_some, if_neg covered])] at observed
    obtain ⟨after, recorded, rfl⟩ := map_eq_ok observed
    rintro ⟨_, same, status⟩
    cases Option.some.inj same
    rw [(observation_recorded opened recorded).1] at status
    split at status <;> cases status

theorem observed_some_iff {blocks : RegisterBlocks} {after : Option CapabilityWriteConfirmation}
    (observed : observeCapabilityWriteFullPoll p state capabilities blocks = .ok after) :
    after.isSome = state.isSome := by
  unfold observeCapabilityWriteFullPoll at observed
  cases state with
  | none =>
    cases observed
    rfl
  | some trace =>
    dsimp only at observed
    split at observed <;> obtain ⟨recorded, -, rfl⟩ := map_eq_ok observed <;> rfl

theorem accepted_iff (steps : PollSteps F) {after : Option CapabilityWriteConfirmation}
    (same : after.isSome = state.isSome) (values : Hub.Values) :
    (∃ result, Hub.driverReadResult values .full [] (writeConfirmationDiagnostics steps after) =
      .ok result) ↔ ∀ key value, values.get? key = some value → Publishable state key := by
  have named : ∀ item ∈ (writeConfirmationDiagnostics steps after).items,
      Hub.normalizedKey item.1 := by
    cases after with
    | none => exact List.forall_mem_nil _
    | some trace =>
      intro item member
      rw [List.mem_singleton.mp member]
      exact (by decide +kernel : Hub.normalizedKey writeConfirmationDiagnosticKey)
  rw [Hub.driverReadResult_full_iff named]
  refine forall₃_congr fun key value _ => and_congr_right fun _ => ?_
  rw [← same]
  cases after with
  | none => simp [writeConfirmationDiagnostics]
  | some trace => simp [writeConfirmationDiagnostics, Dict.get?_set, eq_comm]

/-- **Completeness of the read-back.** A full poll reports every readable capability and observes
    its pending trace exactly where the registers in question are kept (those of the polled blocks
    and the extra reads, but not those read for an auxiliary spec alone) and every key of the poll
    may stand in a read result. -/
theorem readBackComplete_iff (answers : Answers read device)
    (few : ∀ layout, pollLayout schema = .ok layout →
      (layout.outOfBlockRegisters capabilities).length ≤ 16)
    (divides : ∀ c ∈ capabilities, ∀ divisor, c.divisor = some divisor → divisor ≠ 0 →
      DividesWords p divisor) :
    ReadBackComplete p steps read schema capabilities state device ↔
      ∀ c ∈ capabilities, c.Readable → (∃ result, c.deviceObserved p device = .ok result) →
        ∃ layout polled, pollLayout schema = .ok layout ∧
          specValues steps device layout = .ok polled ∧
          WithinReach p device layout capabilities polled state c := by
  constructor
  · rintro complete c member readable ⟨⟨comparable, value⟩, decoded⟩
    obtain ⟨layout, polled, result, laid, specs, polls, reported, traces⟩ :=
      complete c member readable comparable value decoded
    obtain ⟨values, filled, ends⟩ := asyncReadValues_ok_iff state answers laid specs divides
    obtain ⟨observed, accepted⟩ := (ends result).mp polls
    have shown := (Hub.driverReadResult_fields accepted).1
    have publishable := (published_iff (few layout laid) filled _).mp
      ((accepted_iff steps (observed_some_iff observed) values).mp ⟨_, accepted⟩)
    refine ⟨layout, polled, laid, specs, ?_, ?_, ?_, publishable.1, publishable.2⟩
    · exact (reported_iff (few layout laid) filled c).mp (shown ▸ reported)
    · intro trace pending
      exact (observed_right_iff (few layout laid) pending decoded observed).mp (traces trace pending)
    · exact (observe_ok_iff (few layout laid)).mp ⟨_, observed⟩
  · intro reach c member readable comparable value decoded
    obtain ⟨layout, polled, laid, specs, reached⟩ := reach c member readable ⟨_, decoded⟩
    obtain ⟨values, filled, ends⟩ := asyncReadValues_ok_iff state answers laid specs divides
    obtain ⟨after, observed⟩ := (observe_ok_iff (few layout laid)).mpr reached.storable
    obtain ⟨read, accepted⟩ := (accepted_iff steps (observed_some_iff observed) values).mpr
      ((published_iff (few layout laid) filled _).mpr
        ⟨reached.polled_publishable, reached.supplied_publishable⟩)
    refine ⟨layout, polled, ⟨read, after⟩, laid, specs, (ends _).mpr ⟨observed, accepted⟩, ?_, ?_⟩
    · rw [(Hub.driverReadResult_fields accepted).1]
      exact (reported_iff (few layout laid) filled c).mpr reached.key_supplied
    · intro trace pending
      exact (observed_right_iff (few layout laid) pending decoded observed).mpr
        (reached.trace_covered trace pending)

end

def smgBlocks : List RegisterBlockLayout :=
  [⟨"status", 100, 10⟩, ⟨"serial", 186, 12⟩, ⟨"live", 201, 34⟩, ⟨"config", 300, 44⟩]

def smgAux : List (RegisterValueSpec ℚ) :=
  [{ key := "turn_on_mode", register := 406 }, { key := "remote_switch", register := 420 }]

def smgSchema : RegisterSchema ℚ where
  blocks := smgBlocks
  specSets := (((Dict.empty.set "status" []).set "live" []).set "config" []).set "aux_config" smgAux
  bitLabels := (Dict.empty.set "fault_code_names" Dict.empty).set "warning_code_names" Dict.empty
  scalarRegisters := Dict.empty

def smgPollLayout : PollLayout ℚ where
  status := ⟨"status", 100, 10⟩
  live := ⟨"live", 201, 34⟩
  config := ⟨"config", 300, 44⟩
  statusFields := []
  liveFields := []
  configFields := []
  auxConfig := smgAux
  faultCodeNames := Dict.empty
  warningCodeNames := Dict.empty

theorem smgSchema_layout : pollLayout smgSchema = .ok smgPollLayout := rfl

def shownValue : DecodedValue ℚ → Hub.Value
  | .none => .none
  | .int n => .int n
  | .float q => .number q
  | .text s => .text s

/-- The blocks in the order in which they are merged. -/
def mergedSteps : PollSteps ℚ where
  floats := exactFloats
  assemble _ status live config aux :=
    .ok ((((live.update status).update config).update aux).items.foldl
      (fun shown item => shown.set item.1 (shownValue item.2)) Dict.empty)
  traceDiagnostics trace := .structured trace.capabilityKey

def onesDevice : Int → BitVec 16 := fun _ => 1

def auxOnes : Hub.Values := (Dict.empty.set "turn_on_mode" (.int 1)).set "remote_switch" (.int 1)

theorem smgSpecs_ones : specValues mergedSteps onesDevice smgPollLayout = .ok auxOnes := by
  have sorted : smgAux.mergeSort specLE = smgAux := List.mergeSort_of_pairwise (by decide +kernel)
  have aux : (readOptionalSpecs exactFloats (holdingSession (deviceRead onesDevice)) smgAux
      ()).result = .ok ((Dict.empty.set "turn_on_mode" (.int 1)).set "remote_switch" (.int 1)) := by
    rw [readOptionalSpecs, groupOptionalSpecs, sorted]
    rfl
  have none (block : Int × List Nat) :
      decodePolled exactFloats block ([] : List (RegisterValueSpec ℚ)) = .ok Dict.empty := rfl
  unfold specValues readSpecs
  simp only [smgPollLayout, mergedSteps, none, aux]
  rfl

def turnOnMode : PolledCapability where
  key := "turn_on_mode"
  register := 406
  valueKind := .enum
  enumMap := ((Dict.empty.set 0 "Local and Remote").set 1 "Local Only").set 2 "Remote Only"
  mask_parsed := unmasked_parsed

def learnedControl : PolledCapability where
  key := "learned_control"
  register := 500
  valueKind := .u16
  mask_parsed := unmasked_parsed

def floatVoltage : PolledCapability where
  key := "float_voltage"
  register := 325
  valueKind := .scaledU16
  divisor := some 10
  mask_parsed := unmasked_parsed

def pendingOne (key : String) (strict : strictKey key) : CapabilityWriteConfirmation where
  capabilityKey := key
  valueKey := key
  requestedValue := .int 1
  expectedValue := .int 1
  requestedWords := [1]
  keys_strict := ⟨strict, strict⟩
  target_scalar := ⟨rfl, rfl⟩
  requested_strict := by decide
  immediate_strict := by decide
  firstPoll_scalar := rfl
  latestPoll_scalar := rfl

theorem exactPlatform_divides (divisor : Int) : DividesWords exactPlatform divisor :=
  fun _ _ => rfl

/-- A learned control outside the blocks and a built-in one inside them are both read back. -/
theorem learnedControl_complete :
    ReadBackComplete exactPlatform mergedSteps (deviceRead onesDevice) smgSchema
      [learnedControl, floatVoltage] (some (pendingOne "learned_control" (by decide)))
      onesDevice := by
  refine (readBackComplete_iff (fun _ _ => rfl) ?_ ?_).mpr ?_
  · intro layout laid
    cases Except.ok.inj (smgSchema_layout.symm.trans laid)
    decide
  · exact fun _ _ divisor _ _ => exactPlatform_divides divisor
  · intro c member readable decodes
    have covered : smgPollLayout.Covers [learnedControl, floatVoltage] c := by
      rw [PollLayout.covers_iff_of_readable _ _ member readable]
      clear decodes readable
      revert c
      decide
    refine ⟨smgPollLayout, auxOnes, smgSchema_layout, smgSpecs_ones,
      Or.inr ⟨?_, c, member, rfl, covered, decodes⟩, fun _ _ => covered, ?_, ?_, ?_⟩
    · clear covered decodes readable
      revert c
      decide
    · rintro traced trace ⟨same, -, first⟩ - comparable value decoded
      cases Option.some.inj same
      have learned : tracedCapability (pendingOne "learned_control" (by decide))
          [learnedControl, floatVoltage] = some learnedControl := rfl
      cases Option.some.inj (learned.symm.trans first)
      cases decoded
      rfl
    · have specs : ∀ item ∈ auxOnes.items,
          Publishable (some (pendingOne "learned_control" (by decide))) item.1 := by
        decide +kernel
      exact fun key value held => specs _ ((auxOnes.get?_eq_some_iff key value).mp held)
    · have controls : ∀ source ∈ [learnedControl, floatVoltage],
          Publishable (some (pendingOne "learned_control" (by decide))) source.valueKey := by
        decide +kernel
      exact fun source among _ _ _ => controls source among

/-- The built-in turn-on mode is read for its spec and then counts as read, but its word is not
    kept: the trace of a write that took effect becomes unavailable. -/
theorem turnOnMode_unavailable :
    Answers (deviceRead onesDevice) onesDevice ∧
      (smgPollLayout.outOfBlockRegisters [turnOnMode]).length ≤ 16 ∧
      ¬ ReadBackComplete exactPlatform mergedSteps (deviceRead onesDevice) smgSchema [turnOnMode]
        (some (pendingOne "turn_on_mode" (by decide))) onesDevice := by
  refine ⟨fun _ _ => rfl, by decide, fun complete => ?_⟩
  have few : (smgPollLayout.outOfBlockRegisters [turnOnMode]).length ≤ 16 := by decide
  have decoded : turnOnMode.deviceObserved exactPlatform onesDevice = .ok ([1], .text "Local Only") :=
    rfl
  have pending : Pending (some (pendingOne "turn_on_mode" (by decide))) [turnOnMode] turnOnMode
      (pendingOne "turn_on_mode" (by decide)) := ⟨rfl, rfl, rfl⟩
  obtain ⟨layout, polled, result, laid, specs, polls, -, traces⟩ := complete turnOnMode
    List.mem_cons_self (by decide) _ _ decoded
  obtain rfl : smgPollLayout = layout := Except.ok.inj (smgSchema_layout.symm.trans laid)
  obtain ⟨values, -, ends⟩ := asyncReadValues_ok_iff
    (some (pendingOne "turn_on_mode" (by decide))) (fun _ _ => rfl) laid specs
    (fun _ _ divisor _ _ => exactPlatform_divides divisor)
  have covers := (observed_right_iff few pending decoded ((ends result).mp polls).1).mp
    (traces _ pending)
  rw [PollLayout.covers_iff_of_readable _ _ List.mem_cons_self (by decide)] at covers
  revert covers
  decide

end SmgDriver
