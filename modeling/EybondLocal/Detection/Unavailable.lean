import EybondLocal.Detection.Related

/-!
Evaluation under more unavailable keys: an outcome that asks for no anchor stays. So the loop that
gives up one missing key after another ends where all absent keys are given up at once.
-/
namespace Detection

variable {F : Type} {r : Runtime F} {evidence : Evidence F} {unavailable unavailable' : String → Bool}

def Missing (outcome : Outcome F) : Prop :=
  ∃ result, outcome = .ok result ∧ result.status = .missingAnchor

def Kept (outcome outcome' : Outcome F) : Prop := ¬ Missing outcome → outcome' = outcome

structure Grown (a b : Tried F) : Prop where
  label : a.1 = b.1
  outcome : Kept a.2 b.2

theorem kept_refl (outcome : Outcome F) : Kept outcome outcome := fun _ => rfl

theorem kept_missing {result : Evaluation F} (asks : result.status = .missingAnchor)
    (outcome : Outcome F) : Kept (.ok result) outcome :=
  fun settled => absurd ⟨result, rfl, asks⟩ settled

theorem grown_selective : Selective r evidence unavailable unavailable' (Grown (F := F)) where
  signature := fun grown => congrArg BranchLabel.signature grown.label
  priority := fun grown => congrArg BranchLabel.priority grown.label
  merged := by
    intro branches branches' grown
    have keys : (branches.flatMap fun (branch : Tried F) => branch.1.candidateKeys) =
        branches'.flatMap fun (branch : Tried F) => branch.1.candidateKeys := by
      induction grown with
      | nil => rfl
      | cons head _ ih => rw [List.flatMap_cons, List.flatMap_cons, head.label, ih]
    have highest : highestPriority branches = highestPriority branches' :=
      highestPriority_congr (fun both => congrArg BranchLabel.priority both.label) grown
    have same : ambiguousBranch r evidence unavailable' branches' =
        ambiguousBranch r evidence unavailable branches := by
      simp only [ambiguousBranch, keys, highest, evaluateLeaf_unresolved]
    rw [same]
    exact ⟨rfl, kept_refl _⟩

section
variable (grow : ∀ key, evidence key = none → unavailable key = true → unavailable' key = true)
include grow

theorem validation_kept (anchors : List (AnchorCondition F)) :
    (∃ key, evaluateLeafValidation r evidence unavailable anchors = .ok (.missing key)) ∨
      evaluateLeafValidation r evidence unavailable' anchors =
        evaluateLeafValidation r evidence unavailable anchors := by
  induction anchors with
  | nil => exact Or.inr rfl
  | cons anchor rest ih =>
    rw [evaluateLeafValidation, evaluateLeafValidation]
    cases held : evidence anchor.key with
    | none =>
      dsimp only
      by_cases required : anchor.required = true
      · rw [if_pos required, if_pos required]
        cases given_up : unavailable anchor.key with
        | true =>
          rw [grow anchor.key held given_up]
          exact Or.inr rfl
        | false => exact Or.inl ⟨anchor.key, rfl⟩
      · rw [if_neg required, if_neg required]
        exact ih
    | some value =>
      dsimp only
      cases signatureMatchesValue r (conditionSignature r anchor) value with
      | error error => exact Or.inr rfl
      | ok answer =>
        cases answer with
        | true => exact ih
        | false => exact Or.inr rfl

theorem leaf_kept (leaf : DecisionLeaf F) :
    Kept (evaluateLeaf r evidence unavailable leaf) (evaluateLeaf r evidence unavailable' leaf) := by
  unfold evaluateLeaf
  by_cases single : leaf.resolvedKey.isSome ∧ leaf.ambiguous = false
  · rw [if_pos single, if_pos single]
    rcases validation_kept grow leaf.validationAnchors with ⟨key, asks⟩ | same
    · rw [asks]
      exact kept_missing rfl _
    · rw [same]
      exact kept_refl _
  · rw [if_neg single, if_neg single]
    exact kept_refl _

omit grow in
theorem firstResult_kept {tried tried' : List (Tried F)} (grown : List.Forall₂ Grown tried tried')
    (anchorKey : String) (keys : List String) (value : Value F) :
    Kept (firstResult anchorKey keys value tried) (firstResult anchorKey keys value tried') := by
  induction grown with
  | nil => exact kept_refl _
  | @cons a b _ _ head _ ih =>
    obtain ⟨label, outcome⟩ := a
    obtain ⟨label', outcome'⟩ := b
    obtain ⟨rfl, kept⟩ := head
    cases outcome with
    | error error =>
      have same : outcome' = .error error := kept (by rintro ⟨result, eq, _⟩; cases eq)
      rw [same]
      exact kept_refl _
    | ok result =>
      by_cases asks : result.status = .missingAnchor
      · rw [firstResult, if_pos (by rw [asks]; decide)]
        exact @kept_missing F (result.after _) asks _
      · have same : outcome' = .ok result :=
          kept (by rintro ⟨found, eq, missing⟩; cases eq; exact asks missing)
        rw [same, firstResult, firstResult]
        by_cases matched : result.status ≠ .noMatch
        · rw [if_pos matched, if_pos matched]
          exact kept_refl _
        · rw [if_neg matched, if_neg matched]
          exact ih

theorem branching_kept {branches branches' : List (Tried F)}
    (grown : List.Forall₂ Grown branches branches') (anchorKey : String) (keys : List String) :
    Kept (evaluateBranching r evidence unavailable anchorKey keys branches)
      (evaluateBranching r evidence unavailable' anchorKey keys branches') := by
  have selective : Selective r evidence unavailable unavailable' Grown := grown_selective
  unfold evaluateBranching
  cases held : evidence anchorKey with
  | none =>
    dsimp only
    cases given_up : unavailable anchorKey with
    | false => exact kept_missing rfl _
    | true =>
      rw [grow anchorKey held given_up, if_pos rfl, if_pos rfl]
      rcases find_missing_related selective grown with
        ⟨none_found, none_found'⟩ | ⟨a, b, found, found', both⟩
      · rw [none_found, none_found']
        exact kept_refl _
      · rw [found, found']
        exact both.outcome
  | some value =>
    dsimp only
    have tried : ListsRelated Grown
        (matchingBranchesByPriority r evidence unavailable branches value)
        (matchingBranchesByPriority r evidence unavailable' branches' value) :=
      matchingBranches_related selective grown value
    obtain ⟨error, raised, raised'⟩ | ⟨tried, tried', run, run', both⟩ := listsRelated_cases tried
    · rw [raised, raised']
      exact kept_refl _
    · rw [run, run']
      exact firstResult_kept both anchorKey keys value

end

mutual

theorem evaluateNode_kept
    (grow : ∀ key, evidence key = none → unavailable key = true → unavailable' key = true) :
    (tree : DecisionNode F) →
      Kept (evaluateNode r evidence unavailable tree) (evaluateNode r evidence unavailable' tree)
  | .leaf leaf => by
    rw [evaluateNode, evaluateNode]
    exact leaf_kept grow leaf
  | .node anchorKey keys _ branches => by
    rw [evaluateNode, evaluateNode]
    exact branching_kept grow (evaluateBranches_grown grow branches) anchorKey keys

theorem evaluateBranches_grown
    (grow : ∀ key, evidence key = none → unavailable key = true → unavailable' key = true) :
    (branches : DecisionBranches F) →
      List.Forall₂ Grown (evaluateBranches r evidence unavailable branches)
        (evaluateBranches r evidence unavailable' branches)
  | .nil => by
    rw [evaluateBranches, evaluateBranches]
    exact .nil
  | .cons label child rest => by
    rw [evaluateBranches, evaluateBranches]
    exact .cons ⟨rfl, evaluateNode_kept grow child⟩ (evaluateBranches_grown grow rest)

end

mutual

def DecisionNode.readKeys : DecisionNode F → List String
  | .leaf leaf => leaf.validationAnchors.map AnchorCondition.key
  | .node anchorKey _ _ branches => anchorKey :: branches.readKeys

def DecisionBranches.readKeys : DecisionBranches F → List String
  | .nil => []
  | .cons _ child rest => child.readKeys ++ rest.readKeys

end

def Asks (evidence : Evidence F) (unavailable : String → Bool) (keys : List String)
    (outcome : Outcome F) : Prop :=
  ∀ result, outcome = .ok result → result.status = .missingAnchor →
    ∃ key ∈ keys, result.missingAnchorKey = some key ∧ evidence key = none ∧ unavailable key = false

theorem validation_asks {anchors : List (AnchorCondition F)} {key : String}
    (missing : evaluateLeafValidation r evidence unavailable anchors = .ok (.missing key)) :
    key ∈ anchors.map AnchorCondition.key ∧ evidence key = none ∧ unavailable key = false := by
  induction anchors with
  | nil => cases missing
  | cons anchor rest ih =>
    rw [evaluateLeafValidation] at missing
    cases held : evidence anchor.key with
    | none =>
      rw [held] at missing
      dsimp only at missing
      split at missing
      · split at missing
        · cases missing
        · rename_i available
          cases missing
          exact ⟨List.mem_cons_self, held, by simpa using available⟩
      · obtain ⟨among, absent⟩ := ih missing
        exact ⟨List.mem_cons_of_mem _ among, absent⟩
    | some value =>
      rw [held] at missing
      dsimp only at missing
      split at missing
      · cases missing
      · cases missing
      · obtain ⟨among, absent⟩ := ih missing
        exact ⟨List.mem_cons_of_mem _ among, absent⟩

theorem leaf_asks (leaf : DecisionLeaf F) :
    Asks evidence unavailable (leaf.validationAnchors.map AnchorCondition.key)
      (evaluateLeaf r evidence unavailable leaf) := by
  intro result outcome status
  unfold evaluateLeaf at outcome
  split at outcome
  · split at outcome
    · cases outcome
    · rename_i key missing
      cases outcome
      exact ⟨key, (validation_asks missing).1, rfl, (validation_asks missing).2⟩
    · cases outcome
      cases status
    · cases outcome
      cases status
  · split at outcome
    · cases outcome
      cases status
    · cases outcome
      cases status

theorem firstResult_asks {tried : List (Tried F)} {keys : List String}
    (asks : ∀ branch ∈ tried, Asks evidence unavailable keys branch.2) (anchorKey : String)
    (candidateKeys : List String) (value : Value F) :
    Asks evidence unavailable keys (firstResult anchorKey candidateKeys value tried) := by
  intro result outcome status
  induction tried with
  | nil =>
    cases outcome
    cases status
  | cons branch rest ih =>
    obtain ⟨label, own⟩ := branch
    cases own with
    | error error => cases outcome
    | ok inner =>
      rw [firstResult] at outcome
      split at outcome
      · cases outcome
        exact asks _ List.mem_cons_self inner rfl status
      · exact ih (fun other member => asks other (List.mem_cons_of_mem _ member)) outcome

theorem branching_asks {branches : List (Tried F)} {keys : List String} {anchorKey : String}
    (asks : ∀ branch ∈ branches, Asks evidence unavailable keys branch.2)
    (candidateKeys : List String) :
    Asks evidence unavailable (anchorKey :: keys)
      (evaluateBranching r evidence unavailable anchorKey candidateKeys branches) := by
  have later : ∀ outcome, Asks evidence unavailable keys outcome →
      Asks evidence unavailable (anchorKey :: keys) outcome := by
    intro outcome inner result eq status
    obtain ⟨key, among, rest⟩ := inner result eq status
    exact ⟨key, List.mem_cons_of_mem _ among, rest⟩
  unfold evaluateBranching
  cases held : evidence anchorKey with
  | none =>
    dsimp only
    cases given_up : unavailable anchorKey with
    | true =>
      rw [if_pos rfl]
      split
      · rename_i branch found
        exact later _ (asks branch (List.mem_of_find?_eq_some found))
      · intro result outcome status
        cases outcome
        cases status
    | false =>
      intro result outcome status
      cases outcome
      exact ⟨anchorKey, List.mem_cons_self, rfl, held, given_up⟩
  | some value =>
    dsimp only
    split
    · nofun
    · rename_i tried run
      apply later
      apply firstResult_asks
      intro branch member
      cases origin_of_tried run member with
      | accepted matcher inside found => exact asks branch inside
      | merged matcher accepted among eq =>
        intro result outcome status
        rw [eq] at outcome
        rcases ambiguousBranch_unresolved outcome with ambiguous | noMatch
        · rw [ambiguous] at status
          cases status
        · rw [noMatch] at status
          cases status
      | missing inside found => exact asks branch inside

mutual

theorem evaluateNode_asks : (tree : DecisionNode F) →
    Asks evidence unavailable tree.readKeys (evaluateNode r evidence unavailable tree)
  | .leaf leaf => by
    rw [evaluateNode, DecisionNode.readKeys]
    exact leaf_asks leaf
  | .node anchorKey keys _ branches => by
    rw [evaluateNode, DecisionNode.readKeys]
    exact branching_asks (evaluateBranches_asks branches) keys

theorem evaluateBranches_asks : (branches : DecisionBranches F) →
    ∀ branch ∈ evaluateBranches r evidence unavailable branches,
      Asks evidence unavailable branches.readKeys branch.2
  | .nil => by
    rw [evaluateBranches]
    nofun
  | .cons label child rest => by
    rw [evaluateBranches, DecisionBranches.readKeys]
    intro branch member result outcome status
    rcases List.mem_cons.mp member with rfl | among
    · obtain ⟨key, own, more⟩ := evaluateNode_asks child result outcome status
      exact ⟨key, List.mem_append_left _ own, more⟩
    · obtain ⟨key, own, more⟩ := evaluateBranches_asks rest branch among result outcome status
      exact ⟨key, List.mem_append_right _ own, more⟩

end

end Detection
