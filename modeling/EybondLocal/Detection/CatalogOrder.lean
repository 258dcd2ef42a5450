import EybondLocal.Detection.Leaves
import EybondLocal.Detection.Related
import EybondLocal.Detection.Soundness

/-!
The order of the descriptors in a catalog does not matter to what its tree decides, and every
descriptor stands at one leaf.
-/
namespace Detection
open Groups OrderedDict

variable {F : Type} {r : Runtime F} {evidence : Evidence F} {unavailable : String → Bool}

structure Evaluation.Alike (a b : Evaluation F) : Prop where
  status : a.status = b.status
  resolvedKey : a.resolvedKey = b.resolvedKey
  missingAnchorKey : a.missingAnchorKey = b.missingAnchorKey
  candidates : ∀ key, key ∈ a.candidateKeys ↔ key ∈ b.candidateKeys

def OutcomesAlike : Outcome F → Outcome F → Prop
  | .error error, .error error' => error = error'
  | .ok a, .ok b => a.Alike b
  | _, _ => False

theorem OutcomesAlike.refl (outcome : Outcome F) : OutcomesAlike outcome outcome := by
  cases outcome with
  | error error => exact rfl
  | ok result => exact ⟨rfl, rfl, rfl, fun _ => Iff.rfl⟩

structure TriedAlike (a b : Tried F) : Prop where
  signature : a.1.signature = b.1.signature
  priority : a.1.priority = b.1.priority
  candidates : ∀ key, key ∈ a.1.candidateKeys ↔ key ∈ b.1.candidateKeys
  outcome : OutcomesAlike a.2 b.2

theorem evaluateLeaf_unresolved_alike {keys keys' : List String}
    (same : ∀ key, key ∈ keys ↔ key ∈ keys') :
    OutcomesAlike (evaluateLeaf r evidence unavailable ⟨keys, none, []⟩)
      (evaluateLeaf r evidence unavailable ⟨keys', none, []⟩) := by
  rw [evaluateLeaf_unresolved, evaluateLeaf_unresolved]
  by_cases empty : keys = []
  · have empty' : keys' = [] := by
      rw [List.eq_nil_iff_forall_not_mem]
      intro key member
      rw [empty] at same
      cases (same key).mpr member
    rw [if_neg (not_not.mpr empty), if_neg (not_not.mpr empty')]
    exact ⟨rfl, rfl, rfl, fun _ => Iff.rfl⟩
  · have filled : keys' ≠ [] := by
      obtain ⟨key, member⟩ := List.exists_mem_of_ne_nil _ empty
      exact List.ne_nil_of_mem ((same key).mp member)
    rw [if_pos empty, if_pos filled]
    exact ⟨rfl, rfl, rfl, same⟩

theorem triedAlike_selective :
    Selective r evidence unavailable unavailable (TriedAlike (F := F)) where
  signature := TriedAlike.signature
  priority := TriedAlike.priority
  merged := by
    intro branches branches' alike
    have same : ∀ key,
        key ∈ (branches.flatMap fun (branch : Tried F) => branch.1.candidateKeys).eraseDups ↔
        key ∈ (branches'.flatMap fun (branch : Tried F) => branch.1.candidateKeys).eraseDups := by
      intro key
      rw [List.mem_eraseDups, List.mem_eraseDups]
      induction alike with
      | nil => exact Iff.rfl
      | cons head _ ih =>
        rw [List.flatMap_cons, List.flatMap_cons, List.mem_append, List.mem_append,
          head.candidates key, ih]
    constructor
    · rfl
    · simp only [ambiguousBranch, highestPriority_congr TriedAlike.priority alike]
    · exact same
    · unfold ambiguousBranch
      exact @evaluateLeaf_unresolved_alike F r evidence unavailable _ _ same

theorem firstResult_alike {tried tried' : List (Tried F)}
    (alike : List.Forall₂ TriedAlike tried tried') {keys keys' : List String}
    (same : ∀ key, key ∈ keys ↔ key ∈ keys') (anchorKey : String) (value : Value F) :
    OutcomesAlike (firstResult anchorKey keys value tried)
      (firstResult anchorKey keys' value tried') := by
  induction alike with
  | nil => exact ⟨rfl, rfl, rfl, same⟩
  | @cons a b rest rest' head _ ih =>
    obtain ⟨label, outcome⟩ := a
    obtain ⟨label', outcome'⟩ := b
    have both := head.outcome
    cases outcome with
    | error error =>
      cases outcome' with
      | error error' => exact both
      | ok inner' => cases both
    | ok inner =>
      cases outcome' with
      | error error' => cases both
      | ok inner' =>
        have status : inner.status = inner'.status := both.status
        rw [firstResult, firstResult]
        by_cases matched : inner'.status ≠ .noMatch
        · rw [if_pos matched, if_pos (by rw [status]; exact matched)]
          exact ⟨status, both.resolvedKey, both.missingAnchorKey, both.candidates⟩
        · rw [if_neg matched, if_neg (by rw [status]; exact matched)]
          exact ih

theorem evaluateBranching_alike {branches branches' : List (Tried F)}
    (alike : List.Forall₂ TriedAlike branches branches') {keys keys' : List String}
    (same : ∀ key, key ∈ keys ↔ key ∈ keys') (anchorKey : String) :
    OutcomesAlike (evaluateBranching r evidence unavailable anchorKey keys branches)
      (evaluateBranching r evidence unavailable anchorKey keys' branches') := by
  have selective : Selective r evidence unavailable unavailable TriedAlike := triedAlike_selective
  unfold evaluateBranching
  cases evidence anchorKey with
  | none =>
    dsimp only
    by_cases given_up : unavailable anchorKey = true
    · rw [if_pos given_up, if_pos given_up]
      rcases find_missing_related selective alike with
        ⟨none_found, none_found'⟩ | ⟨a, b, found, found', both⟩
      · rw [none_found, none_found']
        exact ⟨rfl, rfl, rfl, same⟩
      · rw [found, found']
        exact both.outcome
    · rw [if_neg given_up, if_neg given_up]
      exact ⟨rfl, rfl, rfl, same⟩
  | some value =>
    dsimp only
    have tried : ListsRelated TriedAlike
        (matchingBranchesByPriority r evidence unavailable branches value)
        (matchingBranchesByPriority r evidence unavailable branches' value) :=
      matchingBranches_related selective alike value
    obtain ⟨error, raised, raised'⟩ | ⟨tried, tried', run, run', both⟩ := listsRelated_cases tried
    · rw [raised, raised']
      rfl
    · rw [run, run']
      exact firstResult_alike both same anchorKey value

section
variable {descriptors descriptors' : List (DeviceDescriptor F)}

theorem dedup_insertionSort_lt (keys : List String) :
    (keys.dedup.insertionSort (· ≤ ·)).Pairwise (· < ·) := by
  have perm : (keys.dedup.insertionSort (· ≤ ·)).Perm keys.dedup := List.perm_insertionSort _ _
  have distinct : (keys.dedup.insertionSort (· ≤ ·)).Pairwise (· ≠ ·) :=
    perm.nodup_iff.mpr (List.nodup_dedup keys)
  have total : Std.Total fun a b : String => a ≤ b := ⟨String.le_total⟩
  have trans : IsTrans String fun a b => a ≤ b :=
    ⟨fun _ _ _ first second => String.le_trans first second⟩
  have ascending : (keys.dedup.insertionSort (· ≤ ·)).Pairwise (· ≤ ·) :=
    List.pairwise_insertionSort _ _
  refine List.Pairwise.imp₂ ?_ ascending distinct
  intro a b le ne
  by_contra ge
  exact ne (String.le_antisymm le (String.not_lt.mp ge))

theorem candidateAnchorKeys_congr (perm : descriptors.Perm descriptors') :
    candidateAnchorKeys descriptors = candidateAnchorKeys descriptors' := by
  refine ascending_eq (dedup_insertionSort_lt _) (dedup_insertionSort_lt _) ?_
  intro key
  unfold candidateAnchorKeys
  rw [List.mem_insertionSort, List.mem_insertionSort, List.mem_dedup, List.mem_dedup]
  exact (perm.flatMap_right requiredAnchorKeys).mem_iff

theorem partitions_length (descriptors : List (DeviceDescriptor F)) (anchorKey : String) :
    (partitionDescriptorsByAnchor r descriptors anchorKey).items.length =
      (groupKeys (anchorSignature r · anchorKey) descriptors).length := by
  rw [groupKeys, List.length_map, sortedGroups, List.length_insertionSort]
  rfl

theorem branchRank_congr (perm : descriptors.Perm descriptors') :
    branchRank r descriptors = branchRank r descriptors' := by
  funext anchorKey
  unfold branchRank
  rw [partitions_length, partitions_length, groupKeys_congr _ perm, perm.length_eq]

theorem nodeAnchor_congr (perm : descriptors.Perm descriptors') (used forced : List String) :
    nodeAnchor r descriptors used forced = nodeAnchor r descriptors' used forced := by
  have best : bestBranchAnchorKey r descriptors used = bestBranchAnchorKey r descriptors' used := by
    unfold bestBranchAnchorKey
    rw [candidateAnchorKeys_congr perm, branchRank_congr perm]
  unfold nodeAnchor
  rw [best]

theorem deviceKeys_alike (perm : descriptors.Perm descriptors') (key : String) :
    key ∈ deviceKeys descriptors ↔ key ∈ deviceKeys descriptors' :=
  (perm.map DeviceDescriptor.key).mem_iff

theorem max?_congr {values values' : List Int} (perm : values.Perm values') :
    values.max? = values'.max? := by
  cases largest : values'.max? with
  | none =>
    rw [List.max?_eq_none_iff] at largest ⊢
    rw [largest] at perm
    exact perm.eq_nil
  | some most =>
    rw [List.max?_eq_some_iff] at largest ⊢
    refine ⟨perm.mem_iff.mpr largest.1, ?_⟩
    intro value member
    exact largest.2 value (perm.mem_iff.mp member)

theorem branchLabel_alike {group group' : String × List (DeviceDescriptor F)}
    (same : group.1 = group'.1) (perm : group.2.Perm group'.2) :
    (branchLabel group).signature = (branchLabel group').signature ∧
      (branchLabel group).priority = (branchLabel group').priority ∧
      ∀ key, key ∈ (branchLabel group).candidateKeys ↔ key ∈ (branchLabel group').candidateKeys := by
  refine ⟨same, ?_, deviceKeys_alike perm⟩
  simp only [branchLabel, max?_congr (perm.map DeviceDescriptor.priority)]

theorem buildNode_alike (forced : List String) (fuel : Nat)
    (perm : descriptors.Perm descriptors') (used : List String) :
    OutcomesAlike (evaluateNode r evidence unavailable (buildNode r forced fuel descriptors used))
      (evaluateNode r evidence unavailable (buildNode r forced fuel descriptors' used)) := by
  induction fuel generalizing descriptors descriptors' used with
  | zero =>
    rw [buildNode, buildNode, evaluateNode, evaluateNode]
    exact evaluateLeaf_unresolved_alike (deviceKeys_alike perm)
  | succ fuel ih =>
    rw [buildNode, buildNode, perm.length_eq, nodeAnchor_congr perm]
    by_cases few : descriptors'.length ≤ 1
    · have same : descriptors = descriptors' := by
        rcases Nat.le_one_iff_eq_zero_or_eq_one.mp few with none_left | alone
        · rw [List.length_eq_zero_iff.mp none_left] at perm ⊢
          exact perm.eq_nil
        · obtain ⟨single, rfl⟩ := List.length_eq_one_iff.mp alone
          exact List.perm_singleton.mp perm
      rw [same, if_pos few]
      exact OutcomesAlike.refl _
    · rw [if_neg few, if_neg few]
      cases nodeAnchor r descriptors' used forced with
      | none =>
        dsimp only
        rw [evaluateNode, evaluateNode]
        exact evaluateLeaf_unresolved_alike (deviceKeys_alike perm)
      | some anchor =>
        dsimp only
        rw [evaluateNode, evaluateNode, evaluateBranches_built, evaluateBranches_built]
        refine evaluateBranching_alike ?_ (deviceKeys_alike perm) anchor.1
        unfold builtBranches
        rw [List.forall₂_map_left_iff, List.forall₂_map_right_iff]
        refine (sortedGroups_perm _ perm).imp ?_
        intro group group' both
        obtain ⟨signature, priority, candidates⟩ := branchLabel_alike both.1 both.2
        exact ⟨signature, priority, candidates, ih both.2 (anchor.1 :: used)⟩

end

/-- The order of the descriptors does not matter to what the tree decides. -/
theorem catalog_order_irrelevant (r : Runtime F) (catalog : DescriptorCatalog F)
    (valid : validateDetectionDescriptorCatalog catalog = none)
    (devices : List (DeviceDescriptor F)) (perm : catalog.devices.Perm devices)
    (protocolFamily : String) (evidence : Evidence F) (unavailable : String → Bool) :
    OutcomesAlike
      (evaluateNode r evidence unavailable (buildDetectionDecisionTree r protocolFamily catalog))
      (evaluateNode r evidence unavailable
        (buildDetectionDecisionTree r protocolFamily { catalog with devices })) ∧
    ∀ device ∈ catalog.descriptorsForProtocol protocolFamily,
      ((buildDetectionDecisionTree r protocolFamily catalog).leaves.countP
        fun (leaf : DecisionLeaf F) => device.key ∈ leaf.candidateKeys) = 1 := by
  constructor
  · have family : (catalog.descriptorsForProtocol protocolFamily).Perm
        (DescriptorCatalog.descriptorsForProtocol { catalog with devices } protocolFamily) :=
      perm.filter _
    have left : keysLeft (mandatoryDetectionAnchorKeys protocolFamily)
          (catalog.descriptorsForProtocol protocolFamily) [] =
        keysLeft (mandatoryDetectionAnchorKeys protocolFamily)
          (DescriptorCatalog.descriptorsForProtocol { catalog with devices } protocolFamily) [] := by
      rw [keysLeft, keysLeft, candidateAnchorKeys_congr family]
    unfold buildDetectionDecisionTree
    dsimp only
    rw [left]
    exact buildNode_alike _ _ family []
  · intro device member
    exact one_leaf valid member

theorem layouts_swapped : OutcomesAlike
      (evaluateNode wholeFloats (fingerprint 3 0) (fun _ => false)
        (buildDetectionDecisionTree wholeFloats "modbus_smg" twoLayouts))
      (evaluateNode wholeFloats (fingerprint 3 0) (fun _ => false)
        (buildDetectionDecisionTree wholeFloats "modbus_smg"
          { twoLayouts with devices := twoLayouts.devices.reverse })) ∧
    ((buildDetectionDecisionTree wholeFloats "modbus_smg" twoLayouts).leaves.countP
      fun (leaf : DecisionLeaf Int) => "dual" ∈ leaf.candidateKeys) = 1 := by
  obtain ⟨alike, leaf⟩ := catalog_order_irrelevant wholeFloats twoLayouts (by decide +kernel)
    twoLayouts.devices.reverse (List.reverse_perm _).symm "modbus_smg" (fingerprint 3 0) (fun _ => false)
  exact ⟨alike, leaf (deviceWith "dual" 100 [layoutAnchor [3]])
    (List.mem_filter.mpr ⟨by simp [twoLayouts, catalogOf], by decide +kernel⟩)⟩

end Detection
