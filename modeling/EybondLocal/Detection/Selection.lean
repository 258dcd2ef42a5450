import EybondLocal.Detection.Matcher
import EybondLocal.Detection.Tree

/-!
Which branches of a node are tried, and in which of them an outcome comes from.
-/
namespace Detection
open StripText JoinedText Groups

variable {F : Type} {r : Runtime F} {evidence : Evidence F} {unavailable : String → Bool}

theorem evaluateBranches_ofList (branches : List (BranchLabel × DecisionNode F)) :
    evaluateBranches r evidence unavailable (.ofList branches) =
      branches.map fun branch => (branch.1, evaluateNode r evidence unavailable branch.2) := by
  induction branches with
  | nil => rfl
  | cons branch rest ih =>
    rw [DecisionBranches.ofList, evaluateBranches, ih, List.map_cons]

section
variable {descriptors : List (DeviceDescriptor F)} {anchorKey : String}

def builtBranches (r : Runtime F) (evidence : Evidence F) (unavailable : String → Bool)
    (forced : List String) (fuel : Nat) (descriptors : List (DeviceDescriptor F))
    (anchorKey : String) (used : List String) : List (Tried F) :=
  (sortedPartitions r descriptors anchorKey).map fun partition =>
    (branchLabel partition,
      evaluateNode r evidence unavailable (buildNode r forced fuel partition.2 (anchorKey :: used)))

theorem evaluateBranches_built (forced : List String) (fuel : Nat) (used : List String) :
    evaluateBranches r evidence unavailable
        (.ofList ((sortedPartitions r descriptors anchorKey).map fun partition =>
          (branchLabel partition, buildNode r forced fuel partition.2 (anchorKey :: used)))) =
      builtBranches r evidence unavailable forced fuel descriptors anchorKey used := by
  rw [evaluateBranches_ofList, List.map_map]
  rfl

theorem mem_partition {partition : String × List (DeviceDescriptor F)}
    (member : partition ∈ sortedPartitions r descriptors anchorKey) {device : DeviceDescriptor F} :
    device ∈ partition.2 ↔
      device ∈ descriptors ∧ anchorSignature r device anchorKey = partition.1 := by
  obtain ⟨held, _⟩ := (mem_sortedGroups _).mp member
  rw [held, List.mem_filter, decide_eq_true_eq]

end

theorem acceptedBy_cons_ok {value : Value F} {matcher : Matcher} {first : Tried F}
    {rest accepted : List (Tried F)}
    (run : acceptedBy r value matcher (first :: rest) = .ok accepted) :
    ∃ answer kept, matcher.matches r first.1.signature value = .ok answer ∧
      acceptedBy r value matcher rest = .ok kept ∧
        accepted = if answer then first :: kept else kept := by
  rw [acceptedBy] at run
  cases answer : matcher.matches r first.1.signature value with
  | error error => simp [answer] at run
  | ok own =>
    cases later : acceptedBy r value matcher rest with
    | error error => cases own <;> simp [answer, later] at run
    | ok kept =>
      rw [answer, later] at run
      refine ⟨own, kept, rfl, rfl, ?_⟩
      cases own with
      | true => exact (Except.ok.inj run).symm
      | false => exact (Except.ok.inj run).symm

theorem mem_acceptedBy {value : Value F} {matcher : Matcher} {branches accepted : List (Tried F)}
    (run : acceptedBy r value matcher branches = .ok accepted) {branch : Tried F} :
    branch ∈ accepted ↔
      branch ∈ branches ∧ matcher.matches r branch.1.signature value = .ok true := by
  induction branches generalizing accepted with
  | nil =>
    cases run
    simp
  | cons first rest ih =>
    obtain ⟨answer, kept, own, later, rfl⟩ := acceptedBy_cons_ok run
    have inner := ih later
    cases answer with
    | true =>
      rw [if_pos rfl, List.mem_cons, List.mem_cons, inner]
      constructor
      · rintro (rfl | ⟨member, found⟩)
        · exact ⟨Or.inl rfl, own⟩
        · exact ⟨Or.inr member, found⟩
      · rintro ⟨rfl | member, found⟩
        · exact Or.inl rfl
        · exact Or.inr ⟨member, found⟩
    | false =>
      rw [if_neg Bool.false_ne_true, List.mem_cons, inner]
      constructor
      · rintro ⟨member, found⟩
        exact ⟨Or.inr member, found⟩
      · rintro ⟨rfl | member, found⟩
        · rw [own] at found
          cases found
        · exact ⟨member, found⟩

theorem acceptedBy_sublist {branches accepted : List (Tried F)} {value : Value F}
    {matcher : Matcher} (run : acceptedBy r value matcher branches = .ok accepted) :
    accepted.Sublist branches := by
  induction branches generalizing accepted with
  | nil =>
    cases run
    exact .slnil
  | cons first rest ih =>
    obtain ⟨answer, kept, _, later, rfl⟩ := acceptedBy_cons_ok run
    cases answer with
    | true => exact (ih later).cons_cons first
    | false => exact (ih later).cons first

def topmost (accepted : List (Tried F)) : List (Tried F) :=
  accepted.filter fun (branch : Tried F) => some branch.1.priority = highestPriority accepted

theorem mem_topmost {accepted : List (Tried F)} {branch : Tried F} :
    branch ∈ topmost accepted ↔
      branch ∈ accepted ∧ ∀ other ∈ accepted, other.1.priority ≤ branch.1.priority := by
  rw [topmost, List.mem_filter, decide_eq_true_eq, highestPriority]
  constructor
  · intro both
    obtain ⟨_, most⟩ := List.max?_eq_some_iff.mp both.2.symm
    exact ⟨both.1, fun other member => most _ (List.mem_map_of_mem member)⟩
  · intro both
    refine ⟨both.1, Eq.symm (List.max?_eq_some_iff.mpr ⟨List.mem_map_of_mem both.1, ?_⟩)⟩
    intro priority member
    obtain ⟨other, among, rfl⟩ := List.mem_map.mp member
    exact both.2 other among

theorem mem_prioritized_iff {accepted : List (Tried F)} {branch : Tried F} :
    branch ∈ prioritized r evidence unavailable accepted ↔
      topmost accepted = [branch] ∨
        2 ≤ (topmost accepted).length ∧
          branch = ambiguousBranch r evidence unavailable (topmost accepted) := by
  unfold prioritized
  rw [← topmost]
  cases topmost accepted with
  | nil => simp
  | cons first rest =>
    cases rest with
    | nil => simp [eq_comm]
    | cons second rest => simp

theorem selectedBy_cons_ok {branches selected : List (Tried F)} {value : Value F}
    {first : Matcher} {rest : List Matcher}
    (run : selectedBy r evidence unavailable branches value (first :: rest) = .ok selected) :
    ∃ kept others, acceptedBy r value first branches = .ok kept ∧
      selectedBy r evidence unavailable branches value rest = .ok others ∧
        selected = prioritized r evidence unavailable kept ++ others := by
  rw [selectedBy] at run
  cases here : acceptedBy r value first branches with
  | error error => simp [here] at run
  | ok kept =>
    cases later : selectedBy r evidence unavailable branches value rest with
    | error error => simp [here, later] at run
    | ok others =>
      rw [here, later] at run
      exact ⟨kept, others, rfl, rfl, (Except.ok.inj run).symm⟩

theorem mem_selectedBy {branches selected : List (Tried F)} {value : Value F}
    {order : List Matcher}
    (run : selectedBy r evidence unavailable branches value order = .ok selected)
    {branch : Tried F} :
    branch ∈ selected ↔ ∃ matcher ∈ order, ∃ accepted,
      acceptedBy r value matcher branches = .ok accepted ∧
        branch ∈ prioritized r evidence unavailable accepted := by
  induction order generalizing selected with
  | nil =>
    cases run
    simp
  | cons first rest ih =>
    obtain ⟨kept, others, here, later, rfl⟩ := selectedBy_cons_ok run
    rw [List.mem_append, ih later]
    constructor
    · rintro (member | ⟨matcher, member, accepted⟩)
      · exact ⟨first, List.mem_cons_self, kept, here, member⟩
      · exact ⟨matcher, List.mem_cons_of_mem _ member, accepted⟩
    · rintro ⟨matcher, member, accepted, own, among⟩
      rcases List.mem_cons.mp member with rfl | later
      · rw [here] at own
        cases own
        exact Or.inl among
      · exact Or.inr ⟨matcher, later, accepted, own, among⟩

theorem accepted_of_selected {branches selected : List (Tried F)} {value : Value F}
    {order : List Matcher}
    (run : selectedBy r evidence unavailable branches value order = .ok selected)
    {matcher : Matcher} (member : matcher ∈ order) :
    ∃ accepted, acceptedBy r value matcher branches = .ok accepted := by
  induction order generalizing selected with
  | nil => cases member
  | cons first rest ih =>
    obtain ⟨kept, others, here, later, _⟩ := selectedBy_cons_ok run
    rcases List.mem_cons.mp member with rfl | among
    · exact ⟨kept, here⟩
    · exact ih later among

theorem selected_of_tried {branches tried : List (Tried F)} {value : Value F}
    (run : matchingBranchesByPriority r evidence unavailable branches value = .ok tried) :
    ∃ selected, selectedBy r evidence unavailable branches value matchers = .ok selected ∧
      tried = selected ++ branches.filter isMissing := by
  unfold matchingBranchesByPriority at run
  cases kept : selectedBy r evidence unavailable branches value matchers with
  | error error => simp [kept, Except.map] at run
  | ok selected =>
    rw [kept] at run
    exact ⟨selected, rfl, (Except.ok.inj run).symm⟩

inductive Origin (r : Runtime F) (evidence : Evidence F) (unavailable : String → Bool)
    (branches : List (Tried F)) (value : Value F) (branch : Tried F) : Prop where
  | accepted (matcher : Matcher) (member : branch ∈ branches)
      (found : matcher.matches r branch.1.signature value = .ok true)
  | merged (matcher : Matcher) (accepted : List (Tried F))
      (among : ∀ b ∈ accepted, b ∈ branches ∧ matcher.matches r b.1.signature value = .ok true)
      (eq : branch = ambiguousBranch r evidence unavailable accepted)
  | missing (member : branch ∈ branches) (found : branch.1.signature = "missing")

theorem origin_of_selected {branches selected : List (Tried F)} {value : Value F}
    {order : List Matcher}
    (run : selectedBy r evidence unavailable branches value order = .ok selected)
    {branch : Tried F} (member : branch ∈ selected) :
    Origin r evidence unavailable branches value branch := by
  obtain ⟨matcher, _, accepted, here, kept⟩ := (mem_selectedBy run).mp member
  rcases mem_prioritized_iff.mp kept with single | ⟨_, eq⟩
  · have among : branch ∈ topmost accepted := single ▸ List.mem_singleton_self branch
    obtain ⟨inside, found⟩ := (mem_acceptedBy here).mp (mem_topmost.mp among).1
    exact .accepted matcher inside found
  · refine .merged matcher (topmost accepted) ?_ eq
    intro b among
    exact (mem_acceptedBy here).mp (mem_topmost.mp among).1

theorem origin_of_tried {branches tried : List (Tried F)} {value : Value F}
    (run : matchingBranchesByPriority r evidence unavailable branches value = .ok tried)
    {branch : Tried F} (member : branch ∈ tried) :
    Origin r evidence unavailable branches value branch := by
  obtain ⟨selected, kept, rfl⟩ := selected_of_tried run
  rcases List.mem_append.mp member with here | there
  · exact origin_of_selected kept here
  · obtain ⟨inside, missing⟩ := List.mem_filter.mp there
    exact .missing inside (by simpa [isMissing] using missing)

theorem evaluateLeaf_unresolved (keys : List String) :
    evaluateLeaf r evidence unavailable ⟨keys, none, []⟩ =
      if keys ≠ [] then .ok ⟨.ambiguous, keys, none, none, []⟩
      else .ok ⟨.noMatch, [], none, none, []⟩ := by
  unfold evaluateLeaf
  rw [if_neg (by simp)]

theorem ambiguousBranch_unresolved {merged : List (Tried F)} {result : Evaluation F}
    (outcome : (ambiguousBranch r evidence unavailable merged).2 = .ok result) :
    result.status = .ambiguous ∨ result.status = .noMatch := by
  unfold ambiguousBranch at outcome
  dsimp only at outcome
  rw [evaluateLeaf_unresolved] at outcome
  split at outcome
  · cases outcome
    exact Or.inl rfl
  · cases outcome
    exact Or.inr rfl

theorem firstResult_inv {anchorKey : String} {candidateKeys : List String} {value : Value F}
    {tried : List (Tried F)} {result : Evaluation F}
    (run : firstResult anchorKey candidateKeys value tried = .ok result)
    (matched : result.status ≠ .noMatch) :
    ∃ branch ∈ tried, ∃ inner, branch.2 = .ok inner ∧ inner.status = result.status ∧
      inner.resolvedKey = result.resolvedKey ∧ inner.candidateKeys = result.candidateKeys := by
  induction tried with
  | nil =>
    cases run
    exact absurd rfl matched
  | cons branch rest ih =>
    obtain ⟨label, outcome⟩ := branch
    cases outcome with
    | error error => cases run
    | ok inner =>
      rw [firstResult] at run
      split at run
      · cases run
        exact ⟨_, List.mem_cons_self, inner, rfl, rfl, rfl, rfl⟩
      · obtain ⟨found, member, rest⟩ := ih run
        exact ⟨found, List.mem_cons_of_mem _ member, rest⟩

end Detection
