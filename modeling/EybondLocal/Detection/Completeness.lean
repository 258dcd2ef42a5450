import EybondLocal.Detection.Leaves
import EybondLocal.Detection.Preference
import EybondLocal.Detection.Soundness

/-!
When the one descriptor that fits the evidence is found: no branch that the tree prefers stands
in its way.
-/
namespace Detection
open Groups

variable {F : Type} {r : Runtime F} {evidence : Evidence F} {unavailable : String → Bool}

/-- At every node on the way to the descriptor, no rival of its branch has a higher priority and
    every branch tried before ends in no match; the way ends at a leaf, or where its branch is merged
    with rivals of the same priority. -/
inductive Clear (r : Runtime F) (evidence : Evidence F) (unavailable : String → Bool)
    (key : String) : DecisionNode F → Prop where
  | leaf (leaf : DecisionLeaf F) : Clear r evidence unavailable key (.leaf leaf)
  | node {anchorKey : String} {candidateKeys : List String} {report : NodeReport}
      {branches : DecisionBranches F} {value : Value F} {label : BranchLabel}
      {child : DecisionNode F} {tried : List (Tried F)}
      (held : evidence anchorKey = some value) (inside : (label, child) ∈ branches.toList)
      (named : key ∈ label.candidateKeys)
      (run : matchingBranchesByPriority r evidence unavailable
        (evaluateBranches r evidence unavailable branches) value = .ok tried)
      (unrivalled : Unrivalled r value (evaluateBranches r evidence unavailable branches)
        (label, evaluateNode r evidence unavailable child))
      (before : ∀ branch ∈ tried.takeWhile (fun (branch : Tried F) => key ∉ branch.1.candidateKeys),
        EndsNoMatch branch)
      (below : Alone r value (evaluateBranches r evidence unavailable branches)
        (label, evaluateNode r evidence unavailable child) → Clear r evidence unavailable key child) :
      Clear r evidence unavailable key (.node anchorKey candidateKeys report branches)

/-- The evidence has a value for every anchor, and every check of it answers. -/
structure Covered (r : Runtime F) (evidence : Evidence F) (descriptors : List (DeviceDescriptor F)) :
    Prop where
  held : ∀ device ∈ descriptors, ∀ anchor ∈ device.anchors, ∃ value, evidence anchor.key = some value
  answers : ∀ device ∈ descriptors, ∀ anchor ∈ device.anchors, ∀ value,
    evidence anchor.key = some value →
      ∃ answer, signatureMatchesValue r (conditionSignature r anchor) value = .ok answer

def Passes (r : Runtime F) (evidence : Evidence F) (device : DeviceDescriptor F) : Prop :=
  ∀ anchor ∈ device.anchors, ∃ value, evidence anchor.key = some value ∧
    signatureMatchesValue r (conditionSignature r anchor) value = .ok true

theorem toList_ofList (branches : List (BranchLabel × DecisionNode F)) :
    (DecisionBranches.ofList branches).toList = branches := by
  induction branches with
  | nil => rfl
  | cons branch rest ih => rw [DecisionBranches.ofList, DecisionBranches.toList, ih]

section
variable {descriptors : List (DeviceDescriptor F)} {forced used : List String}

theorem Covered.subset {some_of : List (DeviceDescriptor F)} (covered : Covered r evidence descriptors)
    (subset : some_of ⊆ descriptors) : Covered r evidence some_of :=
  ⟨fun device member => covered.held device (subset member),
    fun device member => covered.answers device (subset member)⟩

theorem anchorSignature_cases (device : DeviceDescriptor F) (anchorKey : String) :
    (∃ anchor ∈ device.anchors, anchor.key = anchorKey ∧
      anchorSignature r device anchorKey = conditionSignature r anchor) ∨
      anchorSignature r device anchorKey = "missing" := by
  unfold anchorSignature
  split
  · rename_i anchor found
    exact Or.inl ⟨anchor, List.mem_of_find?_eq_some found, by simpa using List.find?_some found, rfl⟩
  · exact Or.inr rfl

theorem covered_node {anchorKey : String} {isForced : Bool} (covered : Covered r evidence descriptors)
    (mandatory : ∀ key ∈ forced, ∃ value, evidence key = some value)
    (chosen : nodeAnchor r descriptors used forced = some (anchorKey, isForced)) :
    ∃ value, evidence anchorKey = some value := by
  rcases nodeAnchor_from chosen with needed | ⟨device, member, anchor, among, rfl⟩
  · exact mandatory anchorKey needed
  · exact covered.held device member anchor among

theorem answered_signature {device : DeviceDescriptor F} (covered : Covered r evidence descriptors)
    (member : device ∈ descriptors) {anchorKey : String} {value : Value F}
    (held : evidence anchorKey = some value) :
    Answered r (anchorSignature r device anchorKey) value := by
  rcases anchorSignature_cases (r := r) device anchorKey with ⟨anchor, among, rfl, eq⟩ | missing
  · rw [eq]
    obtain ⟨answer, answers⟩ := covered.answers device member anchor among value held
    exact answered_of_anyMatch answers
  · rw [missing]
    exact answered_missing value

theorem matched_signature {device : DeviceDescriptor F} (passes : Passes r evidence device)
    {anchorKey : String} {value : Value F} (held : evidence anchorKey = some value) :
    (∃ matcher : Matcher, matcher.matches r (anchorSignature r device anchorKey) value = .ok true) ∨
      anchorSignature r device anchorKey = "missing" := by
  rcases anchorSignature_cases (r := r) device anchorKey with ⟨anchor, among, rfl, eq⟩ | missing
  · obtain ⟨own, found, accepted⟩ := passes anchor among
    rw [held] at found
    cases found
    obtain ⟨matcher, _, matched⟩ := matches_of_anyMatch accepted
    rw [eq]
    exact Or.inl ⟨matcher, matched⟩
  · exact Or.inr missing

theorem validation_of_passing {anchors : List (AnchorCondition F)}
    (passing : ∀ anchor ∈ anchors, ∃ value, evidence anchor.key = some value ∧
      signatureMatchesValue r (conditionSignature r anchor) value = .ok true) :
    evaluateLeafValidation r evidence unavailable anchors = .ok .passed := by
  induction anchors with
  | nil => rfl
  | cons anchor rest ih =>
    obtain ⟨value, held, accepted⟩ := passing anchor List.mem_cons_self
    rw [evaluateLeafValidation, held]
    dsimp only
    rw [accepted]
    exact ih fun other member => passing other (List.mem_cons_of_mem _ member)

theorem Family.partition (family : Family descriptors) {anchorKey : String}
    {partition : String × List (DeviceDescriptor F)}
    (member : partition ∈ sortedPartitions r descriptors anchorKey) : Family partition.2 := by
  constructor
  · intro device inside
    exact family.accepted device ((mem_partition member).mp inside).1
  · obtain ⟨held, _⟩ := (mem_sortedGroups _).mp member
    rw [held]
    exact family.keys.sublist (List.filter_sublist.map _)

theorem deviceKeys_partition {anchorKey : String} {partition : String × List (DeviceDescriptor F)}
    (member : partition ∈ sortedPartitions r descriptors anchorKey) {key : String}
    (inside : key ∈ deviceKeys partition.2) : key ∈ deviceKeys descriptors := by
  obtain ⟨device, among, rfl⟩ := List.mem_map.mp inside
  exact List.mem_map_of_mem ((mem_partition member).mp among).1

theorem names_leaf {leaf : DecisionLeaf F} {key : String}
    (named : Names key (evaluateLeaf r evidence unavailable leaf)) :
    leaf.resolvedKey = some key ∨ key ∈ leaf.candidateKeys := by
  obtain ⟨result, outcome, named⟩ := named
  unfold evaluateLeaf at outcome
  split at outcome
  · split at outcome
    · cases outcome
    · cases outcome
      simp at named
    · cases outcome
      simp at named
    · cases outcome
      exact Or.inl (by simpa using named)
  · split at outcome
    · cases outcome
      exact Or.inr (by simpa using named)
    · cases outcome
      simp at named

theorem names_own (forced : List String) (fuel : Nat) (used : List String) {key : String}
    (named : Names key (evaluateNode r evidence unavailable
      (buildNode r forced fuel descriptors used))) : key ∈ deviceKeys descriptors := by
  induction fuel generalizing descriptors used with
  | zero =>
    rw [buildNode, evaluateNode] at named
    exact names_unresolved_iff.mp named
  | succ fuel ih =>
    rw [buildNode] at named
    split at named
    · rw [evaluateNode] at named
      rcases names_leaf named with resolved | inside
      · exact List.mem_of_head? resolved
      · exact inside
    · split at named
      · rw [evaluateNode] at named
        exact names_unresolved_iff.mp named
      · rename_i anchorKey isForced _
        rw [evaluateNode, evaluateBranches_built] at named
        -- the descriptor is one of a branch, or of branches that were merged
        have labelled : ∀ branch ∈
            builtBranches r evidence unavailable forced fuel descriptors anchorKey used,
            Names key branch.2 ∨ key ∈ branch.1.candidateKeys → key ∈ deviceKeys descriptors := by
          intro branch member has
          obtain ⟨partition, among, rfl⟩ := List.mem_map.mp member
          exact deviceKeys_partition among (has.elim (ih (anchorKey :: used)) id)
        unfold evaluateBranching at named
        split at named
        · split at named
          · split at named
            · rename_i branch found
              exact labelled branch (List.mem_of_find?_eq_some found) (Or.inl named)
            · simp [Names] at named
          · simp [Names] at named
        · split at named
          · simp [Names] at named
          · rename_i tried run
            obtain ⟨before, branch, after, eq, _, inner⟩ := names_firstResult_iff.mp named
            have member : branch ∈ tried := by simp [eq]
            cases origin_of_tried run member with
            | accepted matcher member found => exact labelled branch member (Or.inl inner)
            | merged matcher accepted among same =>
              rw [same] at inner
              obtain ⟨other, member, has⟩ := names_ambiguousBranch_iff.mp inner
              exact labelled other (among other member).1 (Or.inr has)
            | missing member found => exact labelled branch member (Or.inl inner)

theorem builtBranches_nodup (forced : List String) (fuel : Nat) (anchorKey : String) :
    (builtBranches r evidence unavailable forced fuel descriptors anchorKey used).Nodup := by
  have signatures : (builtBranches r evidence unavailable forced fuel descriptors anchorKey used).map
      (fun (branch : Tried F) => branch.1.signature) =
        groupKeys (anchorSignature r · anchorKey) descriptors := by
    rw [builtBranches, List.map_map]
    rfl
  apply List.Nodup.of_map (fun (branch : Tried F) => branch.1.signature)
  rw [signatures]
  refine (groupKeys_lt _ descriptors).imp ?_
  rintro a b lt rfl
  exact String.lt_irrefl a lt

def partitionOf (r : Runtime F) (descriptors : List (DeviceDescriptor F)) (anchorKey : String)
    (device : DeviceDescriptor F) : String × List (DeviceDescriptor F) :=
  (anchorSignature r device anchorKey, descriptors.filter fun (other : DeviceDescriptor F) =>
    anchorSignature r other anchorKey = anchorSignature r device anchorKey)

theorem partitionOf_mem {device : DeviceDescriptor F} (member : device ∈ descriptors)
    (anchorKey : String) :
    partitionOf r descriptors anchorKey device ∈ sortedPartitions r descriptors anchorKey := by
  refine (mem_sortedGroups _).mpr ⟨rfl, ?_⟩
  exact List.ne_nil_of_mem (List.mem_filter.mpr ⟨member, by simp⟩)

theorem partition_of_named (family : Family descriptors) {device : DeviceDescriptor F}
    (member : device ∈ descriptors) {anchorKey : String}
    {partition : String × List (DeviceDescriptor F)}
    (among : partition ∈ sortedPartitions r descriptors anchorKey)
    (named : device.key ∈ deviceKeys partition.2) :
    partition = partitionOf r descriptors anchorKey device := by
  obtain ⟨other, here, same⟩ := List.mem_map.mp named
  obtain ⟨known, signature⟩ := (mem_partition among).mp here
  obtain ⟨group, _⟩ := (mem_sortedGroups _).mp among
  rw [List.inj_on_of_nodup_map family.keys known member same] at signature
  refine Prod.ext signature.symm ?_
  rw [group, partitionOf, signature]

theorem ownBranch_built (family : Family descriptors) {device : DeviceDescriptor F}
    (member : device ∈ descriptors) (forced : List String) (fuel : Nat) (anchorKey : String) :
    OwnBranch device.key
      (builtBranches r evidence unavailable forced fuel descriptors anchorKey used)
      (branchLabel (partitionOf r descriptors anchorKey device),
        evaluateNode r evidence unavailable (buildNode r forced fuel
          (partitionOf r descriptors anchorKey device).2 (anchorKey :: used))) := by
  constructor
  · exact List.mem_map_of_mem (partitionOf_mem member anchorKey)
  · exact List.mem_map_of_mem (List.mem_filter.mpr ⟨member, by simp⟩)
  · intro branch inside named
    obtain ⟨partition, among, rfl⟩ := List.mem_map.mp inside
    rw [partition_of_named family member among named]
  · intro branch inside named
    obtain ⟨partition, _, rfl⟩ := List.mem_map.mp inside
    exact names_own forced fuel (anchorKey :: used) named
  · exact builtBranches_nodup forced fuel anchorKey

theorem answered_built (covered : Covered r evidence descriptors) {anchorKey : String}
    {value : Value F} (held : evidence anchorKey = some value) {fuel : Nat} :
    ∀ branch ∈ builtBranches r evidence unavailable forced fuel descriptors anchorKey used,
      Answered r branch.1.signature value := by
  intro branch inside
  obtain ⟨partition, among, rfl⟩ := List.mem_map.mp inside
  obtain ⟨other, has⟩ := List.exists_mem_of_ne_nil _ ((mem_sortedGroups _).mp among).2
  obtain ⟨known, signature⟩ := (mem_partition among).mp has
  have own := answered_signature covered known held
  rw [signature] at own
  exact own

theorem clear_built_iff (family : Family descriptors) {device : DeviceDescriptor F}
    (member : device ∈ descriptors) {anchorKey : String} {value : Value F}
    (held : evidence anchorKey = some value) {fuel : Nat} {tried : List (Tried F)}
    (run : matchingBranchesByPriority r evidence unavailable
      (builtBranches r evidence unavailable forced fuel descriptors anchorKey used) value = .ok tried)
    (keys : List String) (report : NodeReport) :
    let below := buildNode r forced fuel (partitionOf r descriptors anchorKey device).2
      (anchorKey :: used)
    let own := (branchLabel (partitionOf r descriptors anchorKey device),
      evaluateNode r evidence unavailable below)
    let branches := builtBranches r evidence unavailable forced fuel descriptors anchorKey used
    Clear r evidence unavailable device.key
        (.node anchorKey keys report (.ofList ((sortedPartitions r descriptors anchorKey).map
          fun partition => (branchLabel partition,
            buildNode r forced fuel partition.2 (anchorKey :: used))))) ↔
      Unrivalled r value branches own ∧
        (∀ branch ∈ tried.takeWhile (fun (branch : Tried F) => device.key ∉ branch.1.candidateKeys),
          EndsNoMatch branch) ∧
        (Alone r value branches own → Clear r evidence unavailable device.key below) := by
  intro below own branches
  constructor
  · intro clear
    generalize eq : DecisionNode.node anchorKey keys report _ = tree at clear
    cases clear with
    | leaf => cases eq
    | node held' inside named run' unrivalled before clear =>
      cases eq
      rw [held] at held'
      cases held'
      rw [evaluateBranches_built] at run' unrivalled clear
      rw [run] at run'
      cases run'
      rw [toList_ofList] at inside
      obtain ⟨partition, among, listed⟩ := List.mem_map.mp inside
      cases listed
      rw [partition_of_named family member among named] at unrivalled clear
      exact ⟨unrivalled, before, clear⟩
  · rintro ⟨unrivalled, before, clear⟩
    have listed : (branchLabel (partitionOf r descriptors anchorKey device), below) ∈
        (DecisionBranches.ofList ((sortedPartitions r descriptors anchorKey).map
          fun partition => (branchLabel partition,
            buildNode r forced fuel partition.2 (anchorKey :: used)))).toList := by
      rw [toList_ofList]
      exact List.mem_map_of_mem (partitionOf_mem member anchorKey)
    have named : device.key ∈ (branchLabel (partitionOf r descriptors anchorKey device)).candidateKeys :=
      List.mem_map_of_mem (List.mem_filter.mpr ⟨member, by simp⟩)
    refine .node held listed named ?_ ?_ before ?_
    · rw [evaluateBranches_built]
      exact run
    · rw [evaluateBranches_built]
      exact unrivalled
    · rw [evaluateBranches_built]
      exact clear

theorem names_singleLeaf {device : DeviceDescriptor F} (passes : Passes r evidence device)
    (used : List String) :
    Names device.key (evaluateLeaf r evidence unavailable (singleLeaf [device] used)) := by
  have passed : evaluateLeafValidation r evidence unavailable
      (singleLeaf [device] used).validationAnchors = .ok .passed := by
    apply validation_of_passing
    intro anchor among
    exact passes anchor (List.mem_filter.mp among).1
  refine ⟨⟨.resolved, [device.key], some device.key, none, []⟩, ?_, Or.inl ⟨rfl, rfl⟩⟩
  unfold evaluateLeaf
  rw [if_pos ⟨rfl, rfl⟩, passed]
  rfl

theorem names_built_iff (forced : List String) (fuel : Nat)
    (family : Family descriptors) (covered : Covered r evidence descriptors)
    (mandatory : ∀ key ∈ forced, ∃ value, evidence key = some value)
    {device : DeviceDescriptor F} (member : device ∈ descriptors)
    (passes : Passes r evidence device) (used : List String) :
    Names device.key (evaluateNode r evidence unavailable
        (buildNode r forced fuel descriptors used)) ↔
      Clear r evidence unavailable device.key (buildNode r forced fuel descriptors used) := by
  have here : device.key ∈ deviceKeys descriptors := List.mem_map_of_mem member
  induction fuel generalizing descriptors used with
  | zero =>
    rw [buildNode, evaluateNode, names_unresolved_iff]
    exact iff_of_true here (.leaf _)
  | succ fuel ih =>
    rw [buildNode]
    by_cases few : descriptors.length ≤ 1
    · rw [if_pos few, evaluateNode]
      obtain ⟨single, rfl⟩ :=
        List.length_eq_one_iff.mp (Nat.le_antisymm few (List.length_pos_of_mem member))
      cases List.mem_singleton.mp member
      exact iff_of_true (names_singleLeaf passes used) (.leaf _)
    · rw [if_neg few]
      cases chosen : nodeAnchor r descriptors used forced with
      | none =>
        dsimp only
        rw [evaluateNode, names_unresolved_iff]
        exact iff_of_true here (.leaf _)
      | some anchor =>
        dsimp only
        obtain ⟨value, held⟩ := covered_node covered mandatory chosen
        obtain ⟨tried, run⟩ : ∃ tried, matchingBranchesByPriority r evidence unavailable
            (builtBranches r evidence unavailable forced fuel descriptors anchor.1 used) value =
              .ok tried := tried_ok (answered_built covered held)
        have way : OwnBranch device.key
            (builtBranches r evidence unavailable forced fuel descriptors anchor.1 used) _ :=
          ownBranch_built family member forced fuel anchor.1
        have inside : partitionOf r descriptors anchor.1 device ∈
            sortedPartitions r descriptors anchor.1 := partitionOf_mem member anchor.1
        have below : Names device.key _ ↔ Clear r evidence unavailable device.key _ :=
          ih (family.partition inside) (covered.subset (partition_subset inside))
            ((mem_partition inside).mpr ⟨member, rfl⟩) (anchor.1 :: used) way.named
        rw [evaluateNode, evaluateBranches_built,
          names_branching_iff way held run (matched_signature passes held), below]
        exact (clear_built_iff family member held run _ _).symm

def Settled (outcome : Outcome F) : Prop :=
  ∃ result, outcome = .ok result ∧ result.status ≠ .missingAnchor

theorem settled_unresolved (keys : List String) :
    Settled (evaluateLeaf r evidence unavailable ⟨keys, none, []⟩) := by
  rw [evaluateLeaf_unresolved]
  split
  · exact ⟨_, rfl, by simp⟩
  · exact ⟨_, rfl, by simp⟩

theorem settled_firstResult {anchorKey : String} {keys : List String} {value : Value F}
    {tried : List (Tried F)} (settled : ∀ branch ∈ tried, Settled branch.2) :
    Settled (firstResult anchorKey keys value tried) := by
  induction tried with
  | nil => exact ⟨_, rfl, by simp⟩
  | cons first rest ih =>
    obtain ⟨label, outcome⟩ := first
    obtain ⟨result, same, asked⟩ := settled _ List.mem_cons_self
    dsimp only at same
    rw [same, firstResult]
    split
    · exact ⟨_, rfl, asked⟩
    · exact ih fun branch member => settled branch (List.mem_cons_of_mem _ member)

theorem settled_validation {anchors : List (AnchorCondition F)}
    (held : ∀ anchor ∈ anchors, ∃ value answer, evidence anchor.key = some value ∧
      signatureMatchesValue r (conditionSignature r anchor) value = .ok answer) :
    evaluateLeafValidation r evidence unavailable anchors = .ok .passed ∨
      evaluateLeafValidation r evidence unavailable anchors = .ok .refused := by
  induction anchors with
  | nil => exact Or.inl rfl
  | cons anchor rest ih =>
    obtain ⟨value, answer, has, answers⟩ := held anchor List.mem_cons_self
    rw [evaluateLeafValidation, has]
    dsimp only
    rw [answers]
    cases answer with
    | true => exact ih fun other member => held other (List.mem_cons_of_mem _ member)
    | false => exact Or.inr rfl

theorem settled_singleLeaf (covered : Covered r evidence descriptors)
    (few : descriptors.length ≤ 1) (used : List String) :
    Settled (evaluateLeaf r evidence unavailable (singleLeaf descriptors used)) := by
  have validated : evaluateLeafValidation r evidence unavailable
        (singleLeaf descriptors used).validationAnchors = .ok .passed ∨
      evaluateLeafValidation r evidence unavailable
        (singleLeaf descriptors used).validationAnchors = .ok .refused := by
    apply settled_validation
    intro anchor member
    match descriptors, few, member with
    | [device], _, member =>
      have among : anchor ∈ device.anchors := (List.mem_filter.mp member).1
      obtain ⟨value, has⟩ := covered.held device (List.mem_singleton_self _) anchor among
      obtain ⟨answer, answers⟩ :=
        covered.answers device (List.mem_singleton_self _) anchor among value has
      exact ⟨value, answer, has, answers⟩
  unfold evaluateLeaf
  split
  · rcases validated with passed | refused
    · rw [passed]
      exact ⟨_, rfl, by simp⟩
    · rw [refused]
      exact ⟨_, rfl, by simp⟩
  · split
    · exact ⟨_, rfl, by simp⟩
    · exact ⟨_, rfl, by simp⟩

/-- Where the evidence is whole, evaluation raises nothing and asks for nothing. -/
theorem settled_built (forced : List String) (fuel : Nat) (covered : Covered r evidence descriptors)
    (mandatory : ∀ key ∈ forced, ∃ value, evidence key = some value) (used : List String) :
    Settled (evaluateNode r evidence unavailable (buildNode r forced fuel descriptors used)) := by
  induction fuel generalizing descriptors used with
  | zero =>
    rw [buildNode, evaluateNode]
    exact settled_unresolved _
  | succ fuel ih =>
    rw [buildNode]
    by_cases few : descriptors.length ≤ 1
    · rw [if_pos few, evaluateNode]
      exact settled_singleLeaf covered few used
    · rw [if_neg few]
      cases chosen : nodeAnchor r descriptors used forced with
      | none =>
        dsimp only
        rw [evaluateNode]
        exact settled_unresolved _
      | some anchor =>
        dsimp only
        obtain ⟨value, held⟩ := covered_node covered mandatory chosen
        obtain ⟨tried, run⟩ : ∃ tried, matchingBranchesByPriority r evidence unavailable
            (builtBranches r evidence unavailable forced fuel descriptors anchor.1 used) value =
              .ok tried := tried_ok (answered_built covered held)
        have branches : ∀ branch ∈
            builtBranches r evidence unavailable forced fuel descriptors anchor.1 used,
            Settled branch.2 := by
          intro branch member
          obtain ⟨partition, among, rfl⟩ := List.mem_map.mp member
          exact ih (covered.subset (partition_subset among)) (anchor.1 :: used)
        rw [evaluateNode, evaluateBranches_built, evaluateBranching, held]
        dsimp only
        rw [run]
        apply settled_firstResult
        intro branch member
        cases origin_of_tried run member with
        | accepted matcher inside found => exact branches branch inside
        | merged matcher accepted among eq =>
          rw [eq]
          exact @settled_unresolved F r evidence unavailable _
        | missing inside found => exact branches branch inside

end

/-- Every anchor is satisfied, as `anchor_condition_matches` has it. -/
def Fits (r : Runtime F) (evidence : Evidence F) (device : DeviceDescriptor F) : Prop :=
  ∀ anchor ∈ device.anchors, ∃ value, evidence anchor.key = some value ∧
    anchorConditionMatches r anchor value = .ok true

/-- The evidence has a value for every anchor of the family, and both checks of it give one answer. -/
def Agreeing (r : Runtime F) (evidence : Evidence F) (descriptors : List (DeviceDescriptor F)) :
    Prop :=
  ∀ device ∈ descriptors, ∀ anchor ∈ device.anchors, ∃ value answer,
    evidence anchor.key = some value ∧ anchorConditionMatches r anchor value = .ok answer ∧
      signatureMatchesValue r (conditionSignature r anchor) value = .ok answer

theorem Agreeing.covered {descriptors : List (DeviceDescriptor F)}
    (agreeing : Agreeing r evidence descriptors) : Covered r evidence descriptors := by
  constructor
  · intro device member anchor among
    obtain ⟨value, _, held, _⟩ := agreeing device member anchor among
    exact ⟨value, held⟩
  · intro device member anchor among value held
    obtain ⟨own, answer, has, _, signature⟩ := agreeing device member anchor among
    rw [held] at has
    cases has
    exact ⟨answer, signature⟩

theorem Agreeing.fits_iff {descriptors : List (DeviceDescriptor F)}
    (agreeing : Agreeing r evidence descriptors) {device : DeviceDescriptor F}
    (member : device ∈ descriptors) : Fits r evidence device ↔ Passes r evidence device := by
  refine forall₂_congr ?_
  intro anchor among
  obtain ⟨value, answer, held, typed, signature⟩ := agreeing device member anchor among
  simp only [held, Option.some.injEq, exists_eq_left', typed, signature]

/-- The one descriptor that fits is found where the way to it is clear, and no other is resolved. -/
theorem fitting_found_iff (r : Runtime F) (catalog : DescriptorCatalog F)
    (valid : validateDetectionDescriptorCatalog catalog = none) (protocolFamily : String)
    (evidence : Evidence F) (unavailable : String → Bool)
    (agreeing : Agreeing r evidence (catalog.descriptorsForProtocol protocolFamily))
    (mandatory : ∀ key ∈ mandatoryDetectionAnchorKeys protocolFamily, (evidence key).isSome)
    (device : DeviceDescriptor F) (member : device ∈ catalog.descriptorsForProtocol protocolFamily)
    (fits : Fits r evidence device)
    (only : ∀ other ∈ catalog.descriptorsForProtocol protocolFamily,
      Fits r evidence other → other = device) :
    let tree := buildDetectionDecisionTree r protocolFamily catalog
    (Names device.key (evaluateNode r evidence unavailable tree) ↔
      Clear r evidence unavailable device.key tree) ∧
    ∃ result, evaluateNode r evidence unavailable tree = .ok result ∧
      result.status ≠ .missingAnchor ∧
      (result.status = .resolved → result.resolvedKey = some device.key) := by
  intro tree
  have family := family_of_valid valid protocolFamily
  have given : ∀ key ∈ mandatoryDetectionAnchorKeys protocolFamily,
      ∃ value, evidence key = some value := by
    intro key needed
    exact Option.isSome_iff_exists.mp (mandatory key needed)
  constructor
  · exact names_built_iff _ _ family agreeing.covered given member
      ((agreeing.fits_iff member).mp fits) []
  · obtain ⟨result, outcome, asked⟩ : Settled (evaluateNode r evidence unavailable tree) :=
      settled_built _ _ agreeing.covered given []
    refine ⟨result, outcome, asked, ?_⟩
    intro resolved
    obtain ⟨other, inside, key, borne⟩ := buildNode_resolved _ _ family.accepted [] outcome resolved
    have passes : Passes r evidence other := by
      intro anchor among
      obtain ⟨value, held⟩ := agreeing.covered.held other inside anchor among
      exact ⟨value, held, (borne anchor among (by simp)).2 value held⟩
    rw [key, only other inside ((agreeing.fits_iff inside).mpr passes)]

theorem descriptors_catalogOf {devices : List (DeviceDescriptor Int)}
    (own : ∀ device ∈ devices, device.protocolFamily = "modbus_smg") :
    (catalogOf devices).descriptorsForProtocol "modbus_smg" = devices := by
  have stripped : StripText.strip "modbus_smg" = "modbus_smg" := by decide +kernel
  apply List.filter_eq_self.mpr
  intro device member
  rw [stripped, own device member, decide_eq_true_eq]

theorem twoLayouts_descriptors : twoLayouts.descriptorsForProtocol "modbus_smg" =
    [deviceWith "single" 100 [layoutAnchor [1, 2]], deviceWith "dual" 100 [layoutAnchor [3]]] := by
  apply descriptors_catalogOf
  simp only [List.forall_mem_cons, List.not_mem_nil, false_implies, implies_true, and_true]
  exact ⟨rfl, rfl⟩

theorem dual_way_clear : Clear wholeFloats (fingerprint 3 0) (fun _ => false) "dual"
    (buildDetectionDecisionTree wholeFloats "modbus_smg" twoLayouts) := by
  have agreeing : Agreeing wholeFloats (fingerprint 3 0)
      (twoLayouts.descriptorsForProtocol "modbus_smg") := by
    rw [twoLayouts_descriptors]
    simp only [Agreeing, deviceWith, List.forall_mem_cons, List.not_mem_nil, false_implies,
      implies_true, and_true]
    exact ⟨⟨.int 3, false, by decide +kernel⟩, .int 3, true, by decide +kernel⟩
  have only : ∀ other ∈ twoLayouts.descriptorsForProtocol "modbus_smg",
      Fits wholeFloats (fingerprint 3 0) other → other = deviceWith "dual" 100 [layoutAnchor [3]] := by
    rw [twoLayouts_descriptors]
    simp only [List.forall_mem_cons, List.not_mem_nil, false_implies, implies_true, and_true]
    intro fits
    obtain ⟨value, held, matched⟩ := fits (layoutAnchor [1, 2]) (List.mem_singleton_self _)
    cases held
    exact absurd matched (by decide +kernel)
  have found := (fitting_found_iff wholeFloats twoLayouts (by decide +kernel) "modbus_smg"
    (fingerprint 3 0) (fun _ => false) agreeing (by decide)
    (deviceWith "dual" 100 [layoutAnchor [3]]) (by simp [twoLayouts_descriptors])
    (by
      intro anchor member
      rw [List.mem_singleton.mp member]
      exact ⟨.int 3, by decide +kernel⟩) only).1
  apply found.mp
  exact ⟨⟨.resolved, ["dual"], some "dual", none,
    [⟨"fingerprint.layout_code", .int 3, "one_of:3", ["dual"]⟩]⟩, by decide +kernel, Or.inl ⟨rfl, rfl⟩⟩

def powerAnchor (codes : List Int) : AnchorCondition Int :=
  { layoutAnchor codes with key := "fingerprint.rated_power" }

def lowPriority : DeviceDescriptor Int :=
  deviceWith "low" 50 [layoutAnchor [1, 2], powerAnchor [1]]

def highPriority : DeviceDescriptor Int :=
  deviceWith "high" 100 [layoutAnchor [2, 3], powerAnchor [2]]

def outranked : DescriptorCatalog Int := catalogOf [lowPriority, highPriority]

def outrankedEvidence : Evidence Int := fun key =>
  if key = "fingerprint.rated_power" then some (.int 1) else fingerprint 2 0 key

/-- The one descriptor that fits, behind a branch with a higher priority that ends in no match. -/
theorem outranked_fit_lost :
    validateDetectionDescriptorCatalog outranked = none ∧
    Agreeing wholeFloats outrankedEvidence (outranked.descriptorsForProtocol "modbus_smg") ∧
    (∀ key ∈ mandatoryDetectionAnchorKeys "modbus_smg", (outrankedEvidence key).isSome) ∧
    (∀ device ∈ outranked.descriptorsForProtocol "modbus_smg",
      Fits wholeFloats outrankedEvidence device ↔ device = lowPriority) ∧
    (evaluateNode wholeFloats outrankedEvidence (fun _ => false)
      (buildDetectionDecisionTree wholeFloats "modbus_smg" outranked)).map Evaluation.status =
        .ok .noMatch := by
  have family : outranked.descriptorsForProtocol "modbus_smg" = [lowPriority, highPriority] := by
    apply descriptors_catalogOf
    simp only [List.forall_mem_cons, List.not_mem_nil, false_implies, implies_true, and_true]
    exact ⟨rfl, rfl⟩
  refine ⟨by decide +kernel, ?_, by decide, ?_, by decide +kernel⟩
  · rw [family]
    simp only [Agreeing, lowPriority, highPriority, deviceWith, List.forall_mem_cons,
      List.not_mem_nil, false_implies, implies_true, and_true]
    exact ⟨⟨⟨.int 2, true, by decide +kernel⟩, .int 1, true, by decide +kernel⟩,
      ⟨.int 2, true, by decide +kernel⟩, .int 1, false, by decide +kernel⟩
  · rw [family]
    simp only [List.forall_mem_cons, List.not_mem_nil, false_implies, implies_true, and_true]
    constructor
    · refine iff_of_true ?_ trivial
      simp only [Fits, lowPriority, deviceWith, List.forall_mem_cons, List.not_mem_nil,
        false_implies, implies_true, and_true]
      exact ⟨⟨.int 2, by decide +kernel⟩, .int 1, by decide +kernel⟩
    · refine iff_of_false ?_ ?_
      · intro fits
        obtain ⟨value, held, matched⟩ := fits (powerAnchor [2]) (by simp [highPriority, deviceWith])
        cases held
        exact absurd matched (by decide +kernel)
      · intro same
        exact absurd (congrArg DeviceDescriptor.key same) (by decide)

end Detection
