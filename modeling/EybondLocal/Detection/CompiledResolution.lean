import EybondLocal.Detection.CompiledCatalog
import EybondLocal.Detection.Completeness

/-!
From a decision tree of the compiled catalog to a runtime surface (`resolution_for_candidates`,
`resolve_family` and `_resolution_from_evaluation`). A surface is chosen exactly if every candidate
that the tree leaves compiles to it, so no choice depends on which of them is the right one.
-/
namespace Detection
open OrderedDict StripText PythonText PythonObject

variable {F : Type} {r : Runtime F} {casefold : String → String} {source : SourceCatalog F}
  {catalog : CompiledCatalog F} {evidence : Evidence F} {unavailable : String → Bool}

inductive ResolutionKind where
  | exact
  | compatibleGroup
  | family
  | unresolved
  deriving DecidableEq, Repr

structure ResolutionResult (F : Type) where
  protocolKey : String
  resolution : ResolutionKind
  candidateKeys : List String
  surfaceKey : Option String
  confidence : String
  contradictingEvidenceKeys : List String := []
  decisionPath : List (EvaluationStep F) := []

def refusedAnchorKeys (r : Runtime F) (evidence : Evidence F) :
    List (AnchorCondition F) → Except EvidenceError (List String)
  | [] => .ok []
  | anchor :: rest =>
    match evidence anchor.key with
    | none => refusedAnchorKeys r evidence rest
    | some value => do
      let matched ← anchorConditionMatches r anchor value
      let later ← refusedAnchorKeys r evidence rest
      .ok (if matched then later else anchor.key :: later)

def sortedKeys (keys : List String) : List String := keys.insertionSort (· ≤ ·)

def buildResolution (r : Runtime F) (protocolKey : String) (resolution : ResolutionKind)
    (candidates : List (CompiledDevice F)) (surfaceKey : Option String) (confidence : String)
    (evidence : Evidence F) (decisionPath : List (EvaluationStep F)) :
    Except EvidenceError (ResolutionResult F) := do
  let contradicting ← refusedAnchorKeys r evidence (candidates.flatMap CompiledDevice.anchors)
  .ok {
    protocolKey := protocolKey
    resolution := resolution
    candidateKeys := sortedKeys (candidates.map CompiledDevice.key)
    surfaceKey := surfaceKey
    confidence := confidence
    contradictingEvidenceKeys := sortedSet contradicting
    decisionPath := decisionPath }

namespace CompiledCatalog

def candidates (catalog : CompiledCatalog F) (protocolKey : String) (candidateKeys : List String) :
    List (CompiledDevice F) :=
  candidateKeys.filterMap fun key =>
    (catalog.devices.get? key).filter fun device => device.protocolKey = protocolKey

def resolutionForCandidates (r : Runtime F) (catalog : CompiledCatalog F) (protocolKey : String)
    (candidateKeys : List String) (evidence : Evidence F)
    (decisionPath : List (EvaluationStep F)) : Except EvidenceError (ResolutionResult F) :=
  match catalog.candidates protocolKey candidateKeys with
  | [] => buildResolution r protocolKey .unresolved [] none "none" evidence decisionPath
  | [device] =>
    buildResolution r protocolKey (if device.familyFallback then .family else .exact) [device]
      (some device.surfaceKey) (if device.familyFallback then "medium" else "high") evidence
      decisionPath
  | device :: rest =>
    if rest.all fun other => other.surfaceKey = device.surfaceKey then
      buildResolution r protocolKey .compatibleGroup (device :: rest) (some device.surfaceKey)
        "medium" evidence decisionPath
    else
      buildResolution r protocolKey .unresolved (device :: rest) none "none" evidence decisionPath

/-- `_descriptor_contradicts`, which looks at no anchor behind the first that is refused. -/
def descriptorContradicts (r : Runtime F) (evidence : Evidence F) :
    List (AnchorCondition F) → Except EvidenceError Bool
  | [] => .ok false
  | anchor :: rest =>
    match evidence anchor.key with
    | none => descriptorContradicts r evidence rest
    | some value =>
      match anchorConditionMatches r anchor value with
      | .error error => .error error
      | .ok false => .ok true
      | .ok true => descriptorContradicts r evidence rest

def descriptorHasRequiredEvidence (evidence : Evidence F) (device : CompiledDevice F) : Bool :=
  device.anchors.all fun anchor => !anchor.required || (evidence anchor.key).isSome

def familyCandidates (r : Runtime F) (protocolKey : String) (evidence : Evidence F) :
    List (CompiledDevice F) → Except EvidenceError (List String)
  | [] => .ok []
  | device :: rest =>
    if device.protocolKey = protocolKey ∧ device.familyFallback = true then do
      let contradicts ← descriptorContradicts r evidence device.anchors
      let later ← familyCandidates r protocolKey evidence rest
      .ok (if !contradicts && descriptorHasRequiredEvidence evidence device then device.key :: later
        else later)
    else familyCandidates r protocolKey evidence rest

def resolveFamily (r : Runtime F) (catalog : CompiledCatalog F) (protocolKey : String)
    (evidence : Evidence F) : Except EvidenceError (ResolutionResult F) := do
  let keys ← familyCandidates r (strip protocolKey) evidence catalog.devices.values
  catalog.resolutionForCandidates r (strip protocolKey) keys evidence []

end CompiledCatalog

def resolutionFromEvaluation (r : Runtime F) (catalog : CompiledCatalog F) (protocolKey : String)
    (evaluation : Evaluation F) (evidence : Evidence F) :
    Except EvidenceError (ResolutionResult F) :=
  if evaluation.status = .resolved ∨ evaluation.status = .ambiguous then
    catalog.resolutionForCandidates r protocolKey evaluation.candidateKeys evidence evaluation.path
  else .ok {
    protocolKey := protocolKey
    resolution := .unresolved
    candidateKeys := evaluation.candidateKeys
    surfaceKey := none
    confidence := "none"
    decisionPath := evaluation.path }

theorem buildResolution_ok {protocolKey : String} {resolution : ResolutionKind}
    {candidates : List (CompiledDevice F)} {surfaceKey : Option String} {confidence : String}
    {decisionPath : List (EvaluationStep F)} {result : ResolutionResult F}
    (built : buildResolution r protocolKey resolution candidates surfaceKey confidence evidence
      decisionPath = .ok result) :
    result.surfaceKey = surfaceKey ∧
      result.candidateKeys = sortedKeys (candidates.map CompiledDevice.key) := by
  rw [buildResolution] at built
  cases refused : refusedAnchorKeys r evidence (candidates.flatMap CompiledDevice.anchors) with
  | error error =>
    rw [refused] at built
    cases built
  | ok keys =>
    rw [refused] at built
    cases built
    exact ⟨rfl, rfl⟩

theorem resolutionForCandidates_surface {protocolKey : String} {candidateKeys : List String}
    {decisionPath : List (EvaluationStep F)} {result : ResolutionResult F}
    (resolved : catalog.resolutionForCandidates r protocolKey candidateKeys evidence decisionPath =
      .ok result) (surfaceKey : String) :
    (result.surfaceKey = some surfaceKey ↔ catalog.candidates protocolKey candidateKeys ≠ [] ∧
      ∀ device ∈ catalog.candidates protocolKey candidateKeys, device.surfaceKey = surfaceKey) ∧
    result.candidateKeys =
      sortedKeys ((catalog.candidates protocolKey candidateKeys).map CompiledDevice.key) := by
  rw [CompiledCatalog.resolutionForCandidates] at resolved
  split at resolved
  · rename_i none
    obtain ⟨surface, keys⟩ := buildResolution_ok resolved
    rw [none, surface]
    exact ⟨⟨fun eq => (by cases eq), fun both => absurd rfl both.1⟩, keys⟩
  · rename_i device single
    obtain ⟨surface, keys⟩ := buildResolution_ok resolved
    rw [single, surface]
    refine ⟨?_, keys⟩
    simp
  · rename_i device rest _ several
    split at resolved
    · rename_i agree
      obtain ⟨surface, keys⟩ := buildResolution_ok resolved
      rw [several, surface]
      refine ⟨?_, keys⟩
      simp only [List.all_eq_true, decide_eq_true_eq] at agree
      rw [Option.some.injEq]
      constructor
      · rintro rfl
        exact ⟨List.cons_ne_nil _ _, List.forall_mem_cons.mpr ⟨rfl, agree⟩⟩
      · rintro ⟨_, all⟩
        exact all device List.mem_cons_self
    · rename_i differ
      obtain ⟨surface, keys⟩ := buildResolution_ok resolved
      rw [several, surface]
      refine ⟨⟨fun eq => (by cases eq), ?_⟩, keys⟩
      rintro ⟨_, all⟩
      refine absurd ?_ differ
      simp only [List.all_eq_true, decide_eq_true_eq]
      intro other member
      rw [all other (List.mem_cons_of_mem _ member), all device List.mem_cons_self]

variable {descriptors : List (DeviceDescriptor F)} {used : List String}

theorem leaf_single {leaf : DecisionLeaf F} {result : Evaluation F}
    (outcome : evaluateLeaf r evidence unavailable leaf = .ok result)
    (resolved : result.status = .resolved) :
    leaf.ambiguous = false ∧ result.candidateKeys = leaf.candidateKeys := by
  unfold evaluateLeaf at outcome
  split at outcome
  · rename_i single
    split at outcome
    · cases outcome
    · cases outcome
      cases resolved
    · cases outcome
      cases resolved
    · cases outcome
      exact ⟨single.2, rfl⟩
  · split at outcome
    · cases outcome
      cases resolved
    · cases outcome
      cases resolved

theorem resolved_single (forced : List String) (fuel : Nat) {result : Evaluation F}
    (outcome : evaluateNode r evidence unavailable (buildNode r forced fuel descriptors used) =
      .ok result) (resolved : result.status = .resolved) :
    ∃ key, result.resolvedKey = some key ∧ result.candidateKeys = [key] := by
  induction fuel generalizing descriptors used result with
  | zero =>
    rw [buildNode, evaluateNode] at outcome
    obtain ⟨absent, _⟩ := leaf_resolved outcome resolved
    cases absent
  | succ fuel ih =>
    rw [buildNode] at outcome
    split at outcome
    · rename_i few
      rw [evaluateNode] at outcome
      obtain ⟨held, key, _⟩ := leaf_resolved outcome resolved
      obtain ⟨_, keys⟩ := leaf_single outcome resolved
      obtain _ | ⟨descriptor, _ | ⟨second, rest⟩⟩ := descriptors
      · cases held
      · exact ⟨descriptor.key, key, keys⟩
      · simp at few
    · split at outcome
      · rw [evaluateNode] at outcome
        obtain ⟨absent, _⟩ := leaf_resolved outcome resolved
        cases absent
      · rename_i anchorKey isForced _
        rw [evaluateNode, evaluateBranches_built] at outcome
        have child : ∀ branch ∈
            builtBranches r evidence unavailable forced fuel descriptors anchorKey used,
            ∀ inner, branch.2 = .ok inner → inner.status = .resolved →
              ∃ key, inner.resolvedKey = some key ∧ inner.candidateKeys = [key] := by
          intro branch member inner found done
          obtain ⟨partition, _, rfl⟩ := List.mem_map.mp member
          exact ih found done
        generalize builtBranches r evidence unavailable forced fuel descriptors anchorKey used =
          branches at outcome child
        unfold evaluateBranching at outcome
        split at outcome
        · split at outcome
          · split at outcome
            · rename_i branch found
              exact child branch (List.mem_of_find?_eq_some found) result outcome resolved
            · cases outcome
              cases resolved
          · cases outcome
            cases resolved
        · split at outcome
          · cases outcome
          · rename_i tried run
            obtain ⟨branch, member, inner, found, status, key, keys⟩ :=
              firstResult_inv outcome (by rw [resolved]; decide)
            rw [resolved] at status
            rw [← key, ← keys]
            cases origin_of_tried run member with
            | accepted matcher inside _ => exact child branch inside inner found status
            | missing inside _ => exact child branch inside inner found status
            | merged matcher accepted among eq =>
              rw [eq] at found
              rcases ambiguousBranch_unresolved found with ambiguous | noMatch
              · rw [ambiguous] at status
                cases status
              · rw [noMatch] at status
                cases status

theorem candidates_own (forced : List String) (fuel : Nat) {result : Evaluation F}
    (outcome : evaluateNode r evidence unavailable (buildNode r forced fuel descriptors used) =
      .ok result) (settled : result.status = .resolved ∨ result.status = .ambiguous) :
    ∀ key ∈ result.candidateKeys, key ∈ deviceKeys descriptors := by
  intro key member
  refine names_own forced fuel used ⟨result, outcome, ?_⟩
  rcases settled with resolved | ambiguous
  · obtain ⟨only, named, keys⟩ := resolved_single forced fuel outcome resolved
    rw [keys, List.mem_singleton] at member
    exact Or.inl ⟨resolved, member ▸ named⟩
  · exact Or.inr ⟨ambiguous, member⟩

theorem Compiled.mem_candidates (compiled : Compiled r casefold source catalog)
    {protocolKey : String} {candidateKeys : List String} {descriptor : CompiledDevice F} :
    descriptor ∈ catalog.candidates protocolKey candidateKeys ↔
      ∃ device ∈ source.devices, device.key ∈ candidateKeys ∧ device.protocolFamily = protocolKey ∧
        compileDevice device = descriptor := by
  simp only [CompiledCatalog.candidates, List.mem_filterMap, Option.filter_eq_some_iff,
    decide_eq_true_eq, compiled.devices]
  constructor
  · rintro ⟨_, named, ⟨device, member, rfl, rfl⟩, family⟩
    exact ⟨device, member, named, family, rfl⟩
  · rintro ⟨device, member, named, family, rfl⟩
    exact ⟨device.key, named, ⟨device, member, rfl, rfl⟩, family⟩

theorem Compiled.surface_iff (compiled : Compiled r casefold source catalog)
    {device : SourceDevice F} (member : device ∈ source.devices) (surfaceKey : String) :
    catalog.surfaces.get? surfaceKey = some (compileSurface device) ↔
      (compileDevice device).surfaceKey = surfaceKey := by
  rw [compiled.surfaces]
  constructor
  · rintro ⟨_, _, _, same⟩
    exact same
  · intro same
    exact ⟨device, member, rfl, same⟩

theorem source_of_candidates {protocolKey : String} {evaluation : Evaluation F}
    (outcome : evaluateNode r evidence unavailable
      (buildDetectionDecisionTree r protocolKey source.descriptors) = .ok evaluation)
    (settled : evaluation.status = .resolved ∨ evaluation.status = .ambiguous) :
    ∀ key ∈ evaluation.candidateKeys, ∃ device ∈ source.devices, device.key = key ∧
      device.protocolFamily = strip protocolKey := by
  intro key member
  obtain ⟨descriptor, inside, rfl⟩ := List.mem_map.mp (candidates_own _ _ outcome settled key member)
  obtain ⟨among, family⟩ := List.mem_filter.mp inside
  obtain ⟨device, here, rfl⟩ := List.mem_map.mp among
  exact ⟨device, here, rfl, by simpa using family⟩

/-- A probe that ends with an evaluation of its protocol's tree gets a surface exactly if the
    evaluation leaves candidates and all of them are devices of that protocol that compile to the
    surface, which the catalog holds under its key. -/
theorem compiled_resolution_agrees (r : Runtime F) (casefold : String → String)
    (source : SourceCatalog F)
    (valid : validateDetectionDescriptorCatalog source.descriptors = none)
    (catalog : CompiledCatalog F)
    (compiled : compileDetectionCatalog r casefold source = .ok catalog) (protocolKey : String)
    (tree : DecisionNode F) (found : catalog.decisionTrees.get? protocolKey = some tree)
    (evidence : Evidence F) (unavailable : String → Bool) (evaluation : Evaluation F)
    (outcome : evaluateNode r evidence unavailable tree = .ok evaluation)
    (result : ResolutionResult F)
    (resolved : resolutionFromEvaluation r catalog protocolKey evaluation evidence = .ok result)
    (surfaceKey : String) :
    result.surfaceKey = some surfaceKey ↔
      (evaluation.status = .resolved ∨ evaluation.status = .ambiguous) ∧
        evaluation.candidateKeys ≠ [] ∧ ∀ key ∈ evaluation.candidateKeys,
          ∃ device ∈ source.devices, device.key = key ∧ device.protocolFamily = protocolKey ∧
            catalog.surfaces.get? surfaceKey = some (compileSurface device) := by
  have whole := compiled_of_compile valid compiled
  have unique := source_keys_nodup valid
  rw [whole.decisionTrees, Option.map_eq_some_iff] at found
  obtain ⟨_, _, rfl⟩ := found
  rw [resolutionFromEvaluation] at resolved
  split at resolved
  · rename_i settled
    have own := source_of_candidates outcome settled
    rw [(resolutionForCandidates_surface resolved surfaceKey).1]
    constructor
    · rintro ⟨some_left, agree⟩
      obtain ⟨first, inside⟩ := List.exists_mem_of_ne_nil _ some_left
      obtain ⟨device, member, named, family, rfl⟩ := whole.mem_candidates.mp inside
      -- one candidate of the protocol shows that its key carries no blanks
      have clean : strip protocolKey = protocolKey := by
        obtain ⟨other, here, same, stripped⟩ := own _ named
        obtain rfl : other = device := List.inj_on_of_nodup_map unique here member same
        rw [← stripped, family]
      refine ⟨settled, List.ne_nil_of_mem named, fun key among => ?_⟩
      obtain ⟨device, here, rfl, stripped⟩ := own key among
      have here' := stripped.trans clean
      refine ⟨device, here, rfl, here', (whole.surface_iff here surfaceKey).mpr ?_⟩
      exact agree _ (whole.mem_candidates.mpr ⟨device, here, among, here', rfl⟩)
    · rintro ⟨_, filled, all⟩
      obtain ⟨key, among⟩ := List.exists_mem_of_ne_nil _ filled
      obtain ⟨device, member, rfl, family, _⟩ := all key among
      refine ⟨List.ne_nil_of_mem (whole.mem_candidates.mpr ⟨device, member, among, family, rfl⟩), ?_⟩
      intro descriptor inside
      obtain ⟨other, here, named, _, rfl⟩ := whole.mem_candidates.mp inside
      obtain ⟨same, there, key_eq, _, surface⟩ := all _ named
      obtain rfl : same = other := List.inj_on_of_nodup_map unique there here key_eq
      exact (whole.surface_iff here surfaceKey).mp surface
  · rename_i unsettled
    cases resolved
    exact ⟨fun eq => (by cases eq), fun both => absurd both.1 unsettled⟩

/-- The evidence contradicts no anchor of the device and holds every required one. -/
def SupportedBy (r : Runtime F) (evidence : Evidence F) (anchors : List (AnchorCondition F)) : Prop :=
  (∀ anchor ∈ anchors, ∀ value, evidence anchor.key = some value →
    anchorConditionMatches r anchor value = .ok true) ∧
  ∀ anchor ∈ anchors, anchor.required = true → (evidence anchor.key).isSome

theorem hasRequiredEvidence_iff {device : CompiledDevice F} :
    CompiledCatalog.descriptorHasRequiredEvidence evidence device = true ↔
      ∀ anchor ∈ device.anchors, anchor.required = true → (evidence anchor.key).isSome := by
  simp only [CompiledCatalog.descriptorHasRequiredEvidence, List.all_eq_true, Bool.or_eq_true,
    Bool.not_eq_true']
  refine forall₂_congr fun anchor _ => ?_
  cases anchor.required <;> simp

theorem descriptorContradicts_iff {anchors : List (AnchorCondition F)} {contradicts : Bool}
    (checked : CompiledCatalog.descriptorContradicts r evidence anchors = .ok contradicts) :
    contradicts = false ↔ ∀ anchor ∈ anchors, ∀ value, evidence anchor.key = some value →
      anchorConditionMatches r anchor value = .ok true := by
  induction anchors with
  | nil =>
    cases checked
    simp
  | cons anchor rest ih =>
    rw [CompiledCatalog.descriptorContradicts] at checked
    rw [List.forall_mem_cons]
    cases held : evidence anchor.key with
    | none =>
      rw [held] at checked
      rw [ih checked]
      simp
    | some value =>
      rw [held] at checked
      dsimp only at checked
      split at checked
      · cases checked
      · rename_i matched
        cases checked
        simp [matched]
      · rename_i matched
        rw [ih checked]
        simp [matched]

theorem mem_familyCandidates {protocolKey : String} {devices : List (CompiledDevice F)}
    {keys : List String}
    (checked : CompiledCatalog.familyCandidates r protocolKey evidence devices = .ok keys)
    (key : String) :
    key ∈ keys ↔ ∃ device ∈ devices, device.key = key ∧ device.protocolKey = protocolKey ∧
      device.familyFallback = true ∧ SupportedBy r evidence device.anchors := by
  induction devices generalizing keys with
  | nil =>
    cases checked
    simp
  | cons device rest ih =>
    rw [CompiledCatalog.familyCandidates] at checked
    rw [List.exists_mem_cons_iff]
    split at checked
    · rename_i family
      cases refused : CompiledCatalog.descriptorContradicts r evidence device.anchors with
      | error error =>
        rw [refused] at checked
        cases checked
      | ok contradicts =>
        rw [refused] at checked
        cases later : CompiledCatalog.familyCandidates r protocolKey evidence rest with
        | error error =>
          rw [later] at checked
          cases checked
        | ok others =>
          rw [later] at checked
          have supported : (!contradicts &&
              CompiledCatalog.descriptorHasRequiredEvidence evidence device) = true ↔
                SupportedBy r evidence device.anchors := by
            rw [Bool.and_eq_true, Bool.not_eq_true', hasRequiredEvidence_iff,
              descriptorContradicts_iff refused]
            exact Iff.rfl
          cases checked
          rw [← ih later]
          split
          · rename_i holds
            rw [List.mem_cons]
            refine or_congr_left ?_
            exact ⟨fun eq => ⟨eq.symm, family.1, family.2, supported.mp holds⟩,
              fun all => all.1.symm⟩
          · rename_i fails
            refine (or_iff_right ?_).symm
            rintro ⟨_, _, _, holds⟩
            exact fails (supported.mpr holds)
    · rename_i other
      rw [ih checked]
      refine (or_iff_right ?_).symm
      rintro ⟨_, family, fallback, _⟩
      exact other ⟨family, fallback⟩

/-- The family fallback gets a surface exactly if the evidence supports some fallback of the
    protocol and every supported one compiles to that surface. -/
theorem compiled_family_agrees (r : Runtime F) (casefold : String → String)
    (source : SourceCatalog F)
    (valid : validateDetectionDescriptorCatalog source.descriptors = none)
    (catalog : CompiledCatalog F)
    (compiled : compileDetectionCatalog r casefold source = .ok catalog) (protocolKey : String)
    (evidence : Evidence F) (result : ResolutionResult F)
    (resolved : catalog.resolveFamily r protocolKey evidence = .ok result) (surfaceKey : String) :
    result.surfaceKey = some surfaceKey ↔
      (∃ device ∈ source.devices, device.protocolFamily = strip protocolKey ∧
        device.familyFallback = true ∧ SupportedBy r evidence device.anchors) ∧
      ∀ device ∈ source.devices, device.protocolFamily = strip protocolKey →
        device.familyFallback = true → SupportedBy r evidence device.anchors →
          catalog.surfaces.get? surfaceKey = some (compileSurface device) := by
  have whole := compiled_of_compile valid compiled
  have unique := source_keys_nodup valid
  rw [CompiledCatalog.resolveFamily] at resolved
  cases checked : CompiledCatalog.familyCandidates r (strip protocolKey) evidence
    catalog.devices.values with
  | error error =>
    rw [checked] at resolved
    cases resolved
  | ok keys =>
    rw [checked] at resolved
    have chosen : ∀ device ∈ source.devices, device.protocolFamily = strip protocolKey →
        (device.key ∈ keys ↔ device.familyFallback = true ∧
          SupportedBy r evidence device.anchors) := by
      intro device member family
      rw [mem_familyCandidates checked]
      constructor
      · rintro ⟨descriptor, among, same, _, fallback, supported⟩
        obtain ⟨_, held⟩ := Dict.mem_values.mp among
        obtain ⟨other, here, rfl, rfl⟩ := (whole.devices _ _).mp held
        obtain rfl : other = device := List.inj_on_of_nodup_map unique here member same
        exact ⟨fallback, supported⟩
      · rintro ⟨fallback, supported⟩
        exact ⟨compileDevice device, Dict.mem_values.mpr ⟨_, (whole.devices _ _).mpr
          ⟨device, member, rfl, rfl⟩⟩, rfl, family, fallback, supported⟩
    rw [(resolutionForCandidates_surface resolved surfaceKey).1]
    constructor
    · rintro ⟨filled, agree⟩
      obtain ⟨first, inside⟩ := List.exists_mem_of_ne_nil _ filled
      obtain ⟨device, member, named, family, rfl⟩ := whole.mem_candidates.mp inside
      obtain ⟨fallback, supported⟩ := (chosen device member family).mp named
      refine ⟨⟨device, member, family, fallback, supported⟩, ?_⟩
      intro other here family' fallback' supported'
      refine (whole.surface_iff here surfaceKey).mpr (agree _ (whole.mem_candidates.mpr ?_))
      exact ⟨other, here, (chosen other here family').mpr ⟨fallback', supported'⟩, family', rfl⟩
    · rintro ⟨⟨device, member, family, fallback, supported⟩, all⟩
      refine ⟨List.ne_nil_of_mem (whole.mem_candidates.mpr ⟨device, member,
        (chosen device member family).mpr ⟨fallback, supported⟩, family, rfl⟩), ?_⟩
      intro descriptor inside
      obtain ⟨other, here, named, family', rfl⟩ := whole.mem_candidates.mp inside
      obtain ⟨fallback', supported'⟩ := (chosen other here family').mp named
      exact (whole.surface_iff here surfaceKey).mp (all other here family' fallback' supported')

def dualDevice : SourceDevice Int := smgDevice "dual" ["SMG 11 ", "SMG"] 3

theorem twoModels_evaluation : evaluateNode wholeFloats (fingerprint 3 0) (fun _ => false)
      (buildDetectionDecisionTree wholeFloats "modbus_smg" twoModels.descriptors) =
        .ok ⟨.resolved, ["dual"], some "dual", none,
          [⟨"fingerprint.layout_code", .int 3, "one_of:3", ["dual"]⟩]⟩ := by
  decide +kernel

theorem twoModels_resolution : ∃ catalog result,
    compileDetectionCatalog wholeFloats lowerAscii twoModels = .ok catalog ∧
      resolutionFromEvaluation wholeFloats catalog "modbus_smg"
        ⟨.resolved, ["dual"], some "dual", none,
          [⟨"fingerprint.layout_code", .int 3, "one_of:3", ["dual"]⟩]⟩ (fingerprint 3 0) =
        .ok result ∧
      result.surfaceKey = some (compileSurface dualDevice).key := by
  obtain ⟨catalog, compiled⟩ := twoModels_compiles
  have whole := compiled_of_compile twoModels_valid compiled
  have member : dualDevice ∈ twoModels.devices := List.mem_cons_of_mem _ List.mem_cons_self
  have held : catalog.devices.get? "dual" = some (compileDevice dualDevice) :=
    (whole.devices _ _).mpr ⟨dualDevice, member, rfl, rfl⟩
  have single : catalog.candidates "modbus_smg" ["dual"] = [compileDevice dualDevice] := by
    rw [CompiledCatalog.candidates, List.filterMap_cons, held]
    rfl
  obtain ⟨result, resolved⟩ : ∃ result, resolutionFromEvaluation wholeFloats catalog "modbus_smg"
      ⟨.resolved, ["dual"], some "dual", none,
        [⟨"fingerprint.layout_code", .int 3, "one_of:3", ["dual"]⟩]⟩ (fingerprint 3 0) =
      .ok result := by
    rw [resolutionFromEvaluation, if_pos (Or.inl rfl), CompiledCatalog.resolutionForCandidates,
      single]
    exact ⟨_, rfl⟩
  refine ⟨catalog, result, compiled, resolved, ?_⟩
  refine (compiled_resolution_agrees wholeFloats lowerAscii twoModels twoModels_valid catalog compiled
    "modbus_smg" _ (whole.decisionTrees _) (fingerprint 3 0) (fun _ => false) _ twoModels_evaluation
    result resolved _).mpr ⟨Or.inl rfl, List.cons_ne_nil _ _, ?_⟩
  intro key among
  obtain rfl := List.mem_singleton.mp among
  exact ⟨dualDevice, member, rfl, rfl, (whole.surface_iff member _).mpr rfl⟩

def familyDevice : SourceDevice Int where
  toDeviceDescriptor := deviceWith "family" 0 [layoutAnchor [1, 2, 3]]
  modelName := "SMG family"
  registerSchemaName := "modbus_smg/base.json"
  surfaceKey := "smg_family"
  readOnly := true
  familyFallback := true

def withFamily : SourceCatalog Int :=
  { twoModels with devices := twoModels.devices ++ [familyDevice] }

theorem withFamily_computed :
    validateDetectionDescriptorCatalog withFamily.descriptors = none ∧
      (∀ code ∈ ([2, 7] : List Int),
        ((compileDetectionCatalog wholeFloats lowerAscii withFamily).bind fun catalog =>
          (catalog.resolveFamily wholeFloats " modbus_smg" (fingerprint code 0)).mapError
            fun _ => valueError "").isOk = true) ∧
      (∀ device ∈ twoModels.devices, device.familyFallback = false) ∧
      (anchorConditionMatches wholeFloats (layoutAnchor [1, 2, 3]) (.int 2)).toOption = some true ∧
      ∀ device ∈ withFamily.devices, device.familyFallback = true →
        ∃ anchor ∈ device.anchors, anchor.key = "fingerprint.layout_code" ∧
          (anchorConditionMatches wholeFloats anchor (.int 7)).toOption = some false := by
  decide +kernel

theorem withFamily_valid : validateDetectionDescriptorCatalog withFamily.descriptors = none :=
  withFamily_computed.1

theorem withFamily_resolves (code : Int) (known : code ∈ [2, 7]) : ∃ catalog result,
    compileDetectionCatalog wholeFloats lowerAscii withFamily = .ok catalog ∧
      catalog.resolveFamily wholeFloats " modbus_smg" (fingerprint code 0) = .ok result := by
  have fine := withFamily_computed.2.1 code known
  cases compiled : compileDetectionCatalog wholeFloats lowerAscii withFamily with
  | error error =>
    rw [compiled] at fine
    cases fine
  | ok catalog =>
    rw [compiled] at fine
    cases resolved : catalog.resolveFamily wholeFloats " modbus_smg" (fingerprint code 0) with
    | error error =>
      simp [Except.bind, resolved, Except.mapError, Except.isOk, Except.toBool] at fine
    | ok result => exact ⟨catalog, result, rfl, resolved⟩

theorem withFamily_fallback {device : SourceDevice Int} (member : device ∈ withFamily.devices)
    (fallback : device.familyFallback = true) : device = familyDevice := by
  rcases List.mem_append.mp member with exact_model | family
  · rw [withFamily_computed.2.2.1 device exact_model] at fallback
    cases fallback
  · exact List.mem_singleton.mp family

theorem familyDevice_supported :
    SupportedBy wholeFloats (fingerprint 2 0) familyDevice.anchors := by
  have single : familyDevice.anchors = [layoutAnchor [1, 2, 3]] := rfl
  rw [SupportedBy, single, List.forall_mem_singleton, List.forall_mem_singleton]
  refine ⟨fun value held => ?_, fun _ => rfl⟩
  obtain rfl : Value.int 2 = value := Option.some.inj held
  have matched := withFamily_computed.2.2.2.1
  cases outcome : anchorConditionMatches wholeFloats (layoutAnchor [1, 2, 3]) (.int 2) with
  | error error =>
    rw [outcome] at matched
    cases matched
  | ok holds =>
    rw [outcome] at matched
    exact congrArg Except.ok (Option.some.inj matched)

/-- A layout of the family gets the fallback, and a layout outside it does not. -/
theorem withFamily_decides : ∃ catalog chosen refused,
    compileDetectionCatalog wholeFloats lowerAscii withFamily = .ok catalog ∧
      catalog.resolveFamily wholeFloats " modbus_smg" (fingerprint 2 0) = .ok chosen ∧
      chosen.surfaceKey = some "smg_family" ∧
      catalog.resolveFamily wholeFloats " modbus_smg" (fingerprint 7 0) = .ok refused ∧
      refused.surfaceKey ≠ some "smg_family" := by
  obtain ⟨catalog, chosen, compiled, resolved⟩ := withFamily_resolves 2 (by decide)
  obtain ⟨other, refused, compiled', unresolved⟩ := withFamily_resolves 7 (by decide)
  obtain rfl : catalog = other := Except.ok.inj (compiled.symm.trans compiled')
  have agrees := compiled_family_agrees wholeFloats lowerAscii withFamily withFamily_valid catalog
    compiled " modbus_smg"
  refine ⟨catalog, chosen, refused, compiled, resolved, ?_, unresolved, fun selected => ?_⟩
  · have member : familyDevice ∈ withFamily.devices :=
      List.mem_append_right twoModels.devices List.mem_cons_self
    have held := ((compiled_of_compile withFamily_valid compiled).surface_iff member
      "smg_family").mpr rfl
    refine (agrees _ _ resolved _).mpr
      ⟨⟨familyDevice, member, rfl, rfl, familyDevice_supported⟩, ?_⟩
    intro device here _ fallback _
    rw [withFamily_fallback here fallback]
    exact held
  · obtain ⟨⟨device, member, _, fallback, supported⟩, _⟩ := (agrees _ _ unresolved _).mp selected
    obtain ⟨anchor, among, same, mismatch⟩ := withFamily_computed.2.2.2.2 device member fallback
    have matched := supported.1 anchor among (.int 7) (by rw [same]; rfl)
    rw [matched] at mismatch
    cases mismatch

end Detection
