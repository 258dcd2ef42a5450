import EybondLocal.Detection.Selection
import Mathlib.Data.List.Dedup

/-!
The tree that is built: its bound on the depth is never met, and every descriptor stands at one
leaf.
-/
namespace Detection
open Groups OrderedDict

variable {F : Type} {r : Runtime F} {descriptors : List (DeviceDescriptor F)}

theorem bestBranchAnchorKey_mem {used : List String} {anchorKey : String}
    (best : bestBranchAnchorKey r descriptors used = some anchorKey) :
    anchorKey ∈ candidateAnchorKeys descriptors ∧ anchorKey ∉ used := by
  unfold bestBranchAnchorKey at best
  dsimp only at best
  rw [Option.map_eq_some_iff] at best
  obtain ⟨rank, chosen, rfl⟩ := best
  -- Of the keys gone through, the best so far is one, and a new one.
  have run : ∀ (keys : List String) (held : Option BranchRank),
      (∀ rank, held = some rank →
        rank.anchorKey ∈ candidateAnchorKeys descriptors ∧ rank.anchorKey ∉ used) →
      (∀ key ∈ keys, key ∈ candidateAnchorKeys descriptors) →
      ∀ rank, keys.foldl (fun best anchorKey =>
          let rank := branchRank r descriptors anchorKey
          if anchorKey ∈ used ∨ rank.partitions ≤ 1 then best
          else if best.any fun (held : BranchRank) => !rank.beats held then best
          else some rank) held = some rank →
        rank.anchorKey ∈ candidateAnchorKeys descriptors ∧ rank.anchorKey ∉ used := by
    intro keys
    induction keys with
    | nil =>
      intro held fine _ rank eq
      exact fine rank eq
    | cons key rest ih =>
      intro held fine among rank eq
      rw [List.foldl_cons] at eq
      refine ih _ ?_ (fun other member => among other (List.mem_cons_of_mem _ member)) rank eq
      intro next kept
      dsimp only at kept
      split at kept
      · exact fine next kept
      · rename_i fresh
        split at kept
        · exact fine next kept
        · cases kept
          exact ⟨among key List.mem_cons_self, fun known => fresh (Or.inl known)⟩
  exact run _ none nofun (fun _ member => member) rank chosen

theorem nodeAnchor_mem {used forced : List String} {anchorKey : String} {isForced : Bool}
    (anchor : nodeAnchor r descriptors used forced = some (anchorKey, isForced)) :
    anchorKey ∈ keysLeft forced descriptors used := by
  unfold nodeAnchor nextForcedAnchorKey at anchor
  rw [keysLeft, List.mem_filter, List.mem_dedup, List.mem_append]
  split at anchor
  · rename_i found
    cases anchor
    refine ⟨Or.inl (List.mem_of_find?_eq_some found), ?_⟩
    simpa using List.find?_some found
  · rw [Option.map_eq_some_iff] at anchor
    obtain ⟨key, best, eq⟩ := anchor
    cases eq
    obtain ⟨candidate, fresh⟩ := bestBranchAnchorKey_mem best
    exact ⟨Or.inr candidate, by simpa using fresh⟩

theorem nodeAnchor_from {used forced : List String} {anchorKey : String} {isForced : Bool}
    (chosen : nodeAnchor r descriptors used forced = some (anchorKey, isForced)) :
    anchorKey ∈ forced ∨
      ∃ device ∈ descriptors, ∃ anchor ∈ device.anchors, anchor.key = anchorKey := by
  have left := nodeAnchor_mem chosen
  rw [keysLeft, List.mem_filter, List.mem_dedup, List.mem_append] at left
  rcases left.1 with needed | candidate
  · exact Or.inl needed
  · rw [candidateAnchorKeys, List.mem_insertionSort, List.mem_dedup, List.mem_flatMap] at candidate
    obtain ⟨device, member, required⟩ := candidate
    obtain ⟨anchor, among, same⟩ := List.mem_map.mp required
    exact Or.inr ⟨device, member, anchor, (List.mem_filter.mp among).1, same⟩

theorem candidateAnchorKeys_subset {some_of : List (DeviceDescriptor F)}
    (subset : some_of ⊆ descriptors) : candidateAnchorKeys some_of ⊆ candidateAnchorKeys descriptors := by
  intro key member
  rw [candidateAnchorKeys, List.mem_insertionSort, List.mem_dedup, List.mem_flatMap] at member ⊢
  obtain ⟨device, among, required⟩ := member
  exact ⟨device, subset among, required⟩

theorem keysLeft_lt {some_of : List (DeviceDescriptor F)} (subset : some_of ⊆ descriptors)
    {forced used : List String} {anchorKey : String}
    (left : anchorKey ∈ keysLeft forced descriptors used) :
    (keysLeft forced some_of (anchorKey :: used)).length <
      (keysLeft forced descriptors used).length := by
  have distinct : (anchorKey :: keysLeft forced some_of (anchorKey :: used)).Nodup := by
    rw [List.nodup_cons]
    constructor
    · simp [keysLeft]
    · exact (List.nodup_dedup _).filter _
  have inside : anchorKey :: keysLeft forced some_of (anchorKey :: used) ⊆
      keysLeft forced descriptors used := by
    rw [List.cons_subset]
    refine ⟨left, ?_⟩
    intro key member
    rw [keysLeft, List.mem_filter, List.mem_dedup, List.mem_append] at member ⊢
    obtain ⟨known, fresh⟩ := member
    refine ⟨known.imp_right (candidateAnchorKeys_subset subset ·), ?_⟩
    simp only [List.mem_cons, not_or, decide_eq_true_eq] at fresh
    simpa using fresh.2
  exact (List.subperm_of_subset distinct inside).length_le

theorem partition_subset {anchorKey : String} {partition : String × List (DeviceDescriptor F)}
    (member : partition ∈ sortedPartitions r descriptors anchorKey) :
    partition.2 ⊆ descriptors := by
  intro device inside
  exact ((mem_partition member).mp inside).1

theorem buildNode_enough {forced : List String} {fuel : Nat} {used : List String}
    (enough : (keysLeft forced descriptors used).length < fuel) :
    buildNode r forced (fuel + 1) descriptors used = buildNode r forced fuel descriptors used := by
  induction fuel generalizing descriptors used with
  | zero => exact absurd enough (Nat.not_lt_zero _)
  | succ fuel ih =>
    rw [buildNode]
    conv_rhs => rw [buildNode]
    by_cases few : descriptors.length ≤ 1
    · rw [if_pos few, if_pos few]
    · rw [if_neg few, if_neg few]
      cases chosen : nodeAnchor r descriptors used forced with
      | none => rfl
      | some anchor =>
        dsimp only
        have same : ∀ partition ∈ sortedPartitions r descriptors anchor.1,
            (branchLabel partition, buildNode r forced (fuel + 1) partition.2 (anchor.1 :: used)) =
              (branchLabel partition, buildNode r forced fuel partition.2 (anchor.1 :: used)) := by
          intro partition member
          have fewer := keysLeft_lt (partition_subset member) (nodeAnchor_mem chosen)
          rw [ih (by omega)]
        rw [List.map_congr_left same]

mutual

def DecisionNode.leaves : DecisionNode F → List (DecisionLeaf F)
  | .leaf leaf => [leaf]
  | .node _ _ _ branches => branches.leaves

def DecisionBranches.leaves : DecisionBranches F → List (DecisionLeaf F)
  | .nil => []
  | .cons _ child rest => child.leaves ++ rest.leaves

end

theorem leaves_ofList (branches : List (BranchLabel × DecisionNode F)) :
    (DecisionBranches.ofList branches).leaves = branches.flatMap fun branch => branch.2.leaves := by
  induction branches with
  | nil => rfl
  | cons branch rest ih =>
    rw [DecisionBranches.ofList, DecisionBranches.leaves, ih, List.flatMap_cons]

theorem buildNode_leaves (forced : List String) (fuel : Nat) (used : List String) :
    ((buildNode r forced fuel descriptors used).leaves.flatMap DecisionLeaf.candidateKeys).Perm
      (deviceKeys descriptors) := by
  have single : ∀ (here : List (DeviceDescriptor F)) (leaf : DecisionLeaf F),
      leaf.candidateKeys = deviceKeys here →
      ((DecisionNode.leaf leaf).leaves.flatMap DecisionLeaf.candidateKeys).Perm
        (deviceKeys here) := by
    intro here leaf eq
    rw [DecisionNode.leaves, List.flatMap_singleton, eq]
  induction fuel generalizing descriptors used with
  | zero => exact single _ _ rfl
  | succ fuel ih =>
    rw [buildNode]
    by_cases few : descriptors.length ≤ 1
    · rw [if_pos few]
      exact single _ _ rfl
    · rw [if_neg few]
      cases nodeAnchor r descriptors used forced with
      | none => exact single _ _ rfl
      | some anchor =>
        dsimp only
        rw [DecisionNode.leaves, leaves_ofList, List.flatMap_map, List.flatMap_assoc]
        have split : ∀ partitions : List (String × List (DeviceDescriptor F)),
            (partitions.flatMap fun partition =>
              (buildNode r forced fuel partition.2 (anchor.1 :: used)).leaves.flatMap
                DecisionLeaf.candidateKeys).Perm (deviceKeys (partitions.flatMap Prod.snd)) := by
          intro partitions
          induction partitions with
          | nil => exact List.Perm.nil
          | cons partition rest later =>
            rw [List.flatMap_cons, List.flatMap_cons, deviceKeys, List.map_append]
            exact List.Perm.append (ih (anchor.1 :: used)) later
        exact (split _).trans ((sortedGroups_flatMap _ descriptors).map DeviceDescriptor.key)

theorem countP_of_nodup {parts : List (DecisionLeaf F)} {key : String}
    (distinct : (parts.flatMap DecisionLeaf.candidateKeys).Nodup)
    (member : key ∈ parts.flatMap DecisionLeaf.candidateKeys) :
    (parts.countP fun (leaf : DecisionLeaf F) => key ∈ leaf.candidateKeys) = 1 := by
  induction parts with
  | nil => cases member
  | cons leaf rest ih =>
    rw [List.flatMap_cons] at distinct member
    obtain ⟨_, later, apart⟩ := List.nodup_append.mp distinct
    rw [List.countP_cons]
    by_cases here : key ∈ leaf.candidateKeys
    · have nowhere : rest.countP (fun (leaf : DecisionLeaf F) => key ∈ leaf.candidateKeys) = 0 := by
        rw [List.countP_eq_zero]
        intro other among
        have outside : key ∉ other.candidateKeys := by
          intro there
          exact apart key here key (List.mem_flatMap.mpr ⟨other, among, there⟩) rfl
        simpa using outside
      rw [nowhere]
      simp [here]
    · have inside : key ∈ rest.flatMap DecisionLeaf.candidateKeys :=
        (List.mem_append.mp member).resolve_left here
      rw [ih later inside]
      simp [here]

theorem one_leaf {catalog : DescriptorCatalog F}
    (valid : validateDetectionDescriptorCatalog catalog = none) {protocolFamily : String}
    {device : DeviceDescriptor F} (member : device ∈ catalog.descriptorsForProtocol protocolFamily) :
    ((buildDetectionDecisionTree r protocolFamily catalog).leaves.countP
      fun (leaf : DecisionLeaf F) => device.key ∈ leaf.candidateKeys) = 1 := by
  unfold buildDetectionDecisionTree
  dsimp only
  have same : ∀ fuel, ((buildNode r (mandatoryDetectionAnchorKeys protocolFamily) fuel
      (catalog.descriptorsForProtocol protocolFamily) []).leaves.flatMap
        DecisionLeaf.candidateKeys).Perm
          (deviceKeys (catalog.descriptorsForProtocol protocolFamily)) :=
    fun fuel => buildNode_leaves _ fuel []
  apply countP_of_nodup
  · exact (same _).nodup_iff.mpr (family_of_valid valid protocolFamily).keys
  · exact (same _).mem_iff.mpr (List.mem_map_of_mem member)

end Detection
