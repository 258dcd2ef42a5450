import EybondLocal.Detection.Leaves
import EybondLocal.Detection.Soundness
import EybondLocal.Detection.Unavailable
import EybondLocal.Library.BoundedLoop

/-!
The two loops around a tree: `evaluate_detection_decision_tree_static`, which gives up one missing
key after another, and the walk of `drivers/catalog_probe.py`, which first looks for a probe action.
-/
namespace Detection
open BoundedLoop

variable {F : Type}

section
variable (r : Runtime F)

def staticTurn (tree : DecisionNode F) (evidence : Evidence F) (unavailable : List String) :
    List String ⊕ Outcome F :=
  match evaluateNode r evidence (· ∈ unavailable) tree with
  | .error error => .inr (.error error)
  | .ok evaluation =>
    let missing := evaluation.missingAnchorKey.getD ""
    if evaluation.status ≠ .missingAnchor ∨ missing = "" then .inr (.ok evaluation)
    else .inl (missing :: unavailable)

def evaluateDetectionDecisionTreeStatic (tree : DecisionNode F) (evidence : Evidence F) :
    Option (Outcome F) :=
  runLoop (staticTurn r tree evidence) (tree.readKeys.length + 1) []

def absentKeys (evidence : Evidence F) (key : String) : Bool := (evidence key).isNone

end

structure ProbeAction where
  key : String
  kind : String
  cost : Int
  optional : Bool
  evidenceFields : List String
  deriving DecidableEq, Repr

/-- What `execute_action` answers: `executed`, `unsupported`, or anything else. -/
inductive ActionOutcome where
  | executed
  | unsupported
  | failed
  deriving DecidableEq, Repr

/-- `execute_action`: with the number of the call, its answer and the evidence it leaves, or that it
    raises. -/
abbrev ExecuteAction (F : Type) :=
  Nat → ProbeAction → Evidence F → Option (ActionOutcome × Evidence F)

def nextUnexecutedRequiredAction (actions : List ProbeAction) (excluded kinds : List String) :
    Option ProbeAction :=
  actions.find? fun (candidate : ProbeAction) =>
    !candidate.optional && candidate.key ∉ excluded && candidate.kind ∈ kinds

def ProbeAction.cheaper (a b : ProbeAction) : Bool :=
  a.cost < b.cost ∨ a.cost = b.cost ∧ a.key < b.key

def actionForEvidenceKey (actions : List ProbeAction) (evidenceKey : String)
    (excluded : List String) : Option ProbeAction :=
  let candidates := actions.filter fun (action : ProbeAction) =>
    action.key ∉ excluded && evidenceKey ∈ action.evidenceFields
  candidates.foldl (fun best action =>
    match best with
    | none => some action
    | some held => if action.cheaper held then some action else some held) none

inductive WalkError where
  | requiredActionUnsupported (key : String)
  | requiredActionFailed (key : String)
  | actionRaised (key : String)
  | evaluation (error : EvidenceError)
  deriving DecidableEq, Repr

structure WalkState (F : Type) where
  executed : List String := []
  failed : List String := []
  unsupported : List String := []
  failedEvidence : List String := []
  unsupportedEvidence : List String := []
  evidence : Evidence F

namespace WalkState
variable (state : WalkState F)

def excluded : List String := state.executed ++ state.failed ++ state.unsupported

def unavailable : List String := state.failedEvidence ++ state.unsupportedEvidence

end WalkState

abbrev WalkEnd (F : Type) := WalkState F × Except WalkError (Evaluation F)

structure WalkInput (F : Type) where
  tree : DecisionNode F
  actions : List ProbeAction
  executeAction : ExecuteAction F
  supportedKinds : List String
  raiseOnRequiredFailure : Bool := false

section
variable (r : Runtime F) (input : WalkInput F)

def executeAndRecord (action : ProbeAction) (required : Bool) (state : WalkState F) :
    WalkState F ⊕ WalkEnd F :=
  match input.executeAction state.excluded.length action state.evidence with
  | none => .inr (state, .error (.actionRaised action.key))
  | some (.executed, evidence) =>
    .inl { state with executed := state.executed ++ [action.key], evidence }
  | some (.unsupported, evidence) =>
    let next := { state with
      unsupported := state.unsupported ++ [action.key]
      unsupportedEvidence := state.unsupportedEvidence ++ action.evidenceFields
      evidence }
    if input.raiseOnRequiredFailure && required then
      .inr (next, .error (.requiredActionUnsupported action.key))
    else .inl next
  | some (.failed, evidence) =>
    let next := { state with
      failed := state.failed ++ [action.key]
      failedEvidence := state.failedEvidence ++ action.evidenceFields
      evidence }
    if input.raiseOnRequiredFailure && required then
      .inr (next, .error (.requiredActionFailed action.key))
    else .inl next

/-- One turn of the loop of `async_walk_detection_dag`. -/
def walkTurn (state : WalkState F) : WalkState F ⊕ WalkEnd F :=
  match nextUnexecutedRequiredAction input.actions state.excluded input.supportedKinds with
  | some action => executeAndRecord input action true state
  | none =>
    match evaluateNode r state.evidence (· ∈ state.unavailable) input.tree with
    | .error error => .inr (state, .error (.evaluation error))
    | .ok evaluation =>
      if evaluation.status ≠ .missingAnchor then .inr (state, .ok evaluation)
      else
        let missing := evaluation.missingAnchorKey.getD ""
        let marked := { state with unsupportedEvidence := state.unsupportedEvidence ++ [missing] }
        match actionForEvidenceKey input.actions missing state.excluded with
        | none => .inl marked
        | some action =>
          if action.kind ∈ input.supportedKinds then
            executeAndRecord input action (!action.optional) state
          else .inl marked

/-- `async_walk_detection_dag`, with a bound on the turns. -/
def walkDetectionDag (evidence : Evidence F) : Option (WalkEnd F) :=
  runLoop (walkTurn r input) (input.actions.length + input.tree.readKeys.length + 1) { evidence }

end

section
variable {r : Runtime F} {tree : DecisionNode F} {evidence : Evidence F}

theorem not_missing_error {error : EvidenceError} : ¬ Missing (.error error : Outcome F) := by
  rintro ⟨_, eq, _⟩
  cases eq

/-- An outcome that asks for nothing is the one with every absent key given up. -/
theorem evaluateNode_absent {given_up : List String} {outcome : Outcome F}
    (ends : evaluateNode r evidence (· ∈ given_up) tree = outcome) (settled : ¬ Missing outcome) :
    evaluateNode r evidence (absentKeys evidence) tree = outcome := by
  rw [← ends] at settled ⊢
  apply evaluateNode_kept _ tree settled
  intro key absent _
  rw [absentKeys, absent]
  rfl

theorem staticTurn_inl {given_up next : List String}
    (turn : staticTurn r tree evidence given_up = .inl next) :
    ∃ key ∈ tree.readKeys, key ∉ given_up ∧ next = key :: given_up := by
  unfold staticTurn at turn
  split at turn
  · cases turn
  · rename_i evaluation outcome
    dsimp only at turn
    split at turn
    · cases turn
    · rename_i asks
      simp only [not_or, not_not] at asks
      obtain ⟨key, among, missing, _, fresh⟩ := evaluateNode_asks tree evaluation outcome asks.1
      cases turn
      rw [missing]
      exact ⟨key, among, by simpa using fresh, rfl⟩

theorem staticTurn_inr (named : ∀ key ∈ tree.readKeys, key ≠ "") {given_up : List String}
    {outcome : Outcome F} (turn : staticTurn r tree evidence given_up = .inr outcome) :
    evaluateNode r evidence (· ∈ given_up) tree = outcome ∧ ¬ Missing outcome := by
  unfold staticTurn at turn
  split at turn
  · rename_i error raised
    cases turn
    exact ⟨raised, not_missing_error⟩
  · rename_i evaluation ends
    dsimp only at turn
    split at turn
    · rename_i stops
      cases turn
      refine ⟨ends, ?_⟩
      rintro ⟨found, eq, asks⟩
      cases eq
      obtain ⟨key, among, missing, _⟩ := evaluateNode_asks tree evaluation ends asks
      rw [missing] at stops
      exact stops.elim (fun other => other asks) (named key among)
    · cases turn

theorem static_absent (named : ∀ key ∈ tree.readKeys, key ≠ "") (evidence : Evidence F) :
    evaluateDetectionDecisionTreeStatic r tree evidence =
      some (evaluateNode r evidence (absentKeys evidence) tree) := by
  have goes_on : ∀ given_up next, True → staticTurn r tree evidence given_up = .inl next →
      True ∧ (unused tree.readKeys next).length < (unused tree.readKeys given_up).length := by
    intro given_up next _ turn
    obtain ⟨key, among, fresh, rfl⟩ := staticTurn_inl turn
    exact ⟨trivial, unused_lt (List.subset_cons_self _ _) among fresh List.mem_cons_self⟩
  obtain ⟨last, outcome, _, final, run⟩ := runLoop_ends goes_on trivial
    (Nat.lt_succ_of_le (unused_length_le tree.readKeys []))
  obtain ⟨ends, settled⟩ := staticTurn_inr named final
  rw [evaluateDetectionDecisionTreeStatic, run, evaluateNode_absent ends settled]

end

section
variable {r : Runtime F} {input : WalkInput F} {state : WalkState F}

structure Recorded (action : ProbeAction) (state next : WalkState F) : Prop where
  excluded : next.excluded.Perm (action.key :: state.excluded)
  unavailable : state.unavailable ⊆ next.unavailable

theorem recorded_executed (action : ProbeAction) (evidence : Evidence F) :
    Recorded action state { state with executed := state.executed ++ [action.key], evidence } := by
  constructor
  · simp [WalkState.excluded, List.perm_iff_count, List.count_cons]
    omega
  · exact fun _ member => member

theorem recorded_unsupported (action : ProbeAction) (evidence : Evidence F) :
    Recorded action state { state with
      unsupported := state.unsupported ++ [action.key]
      unsupportedEvidence := state.unsupportedEvidence ++ action.evidenceFields
      evidence } := by
  constructor
  · simp [WalkState.excluded, List.perm_iff_count, List.count_cons]
    omega
  · intro key member
    rcases List.mem_append.mp member with failed | unsupported
    · exact List.mem_append_left _ failed
    · exact List.mem_append_right _ (List.mem_append_left _ unsupported)

theorem recorded_failed (action : ProbeAction) (evidence : Evidence F) :
    Recorded action state { state with
      failed := state.failed ++ [action.key]
      failedEvidence := state.failedEvidence ++ action.evidenceFields
      evidence } := by
  constructor
  · simp [WalkState.excluded, List.perm_iff_count, List.count_cons]
    omega
  · intro key member
    rcases List.mem_append.mp member with failed | unsupported
    · exact List.mem_append_left _ (List.mem_append_left _ failed)
    · exact List.mem_append_right _ unsupported

theorem executeAndRecord_inl {action : ProbeAction} {required : Bool} {next : WalkState F}
    (turn : executeAndRecord input action required state = .inl next) :
    Recorded action state next := by
  unfold executeAndRecord at turn
  split at turn
  · cases turn
  · cases turn
    exact recorded_executed action _
  · dsimp only at turn
    split at turn
    · cases turn
    · cases turn
      exact recorded_unsupported action _
  · dsimp only at turn
    split at turn
    · cases turn
    · cases turn
      exact recorded_failed action _

inductive Stopped (input : WalkInput F) (action : ProbeAction) (required : Bool)
    (state last : WalkState F) : WalkError → Prop where
  | raised (same : last = state) : Stopped input action required state last (.actionRaised action.key)
  | unsupported (strict : input.raiseOnRequiredFailure = true) (needed : required = true)
      (recorded : Recorded action state last) :
      Stopped input action required state last (.requiredActionUnsupported action.key)
  | failed (strict : input.raiseOnRequiredFailure = true) (needed : required = true)
      (recorded : Recorded action state last) :
      Stopped input action required state last (.requiredActionFailed action.key)

theorem executeAndRecord_inr {action : ProbeAction} {required : Bool} {result : WalkEnd F}
    (turn : executeAndRecord input action required state = .inr result) :
    ∃ error, result.2 = .error error ∧ Stopped input action required state result.1 error := by
  unfold executeAndRecord at turn
  split at turn
  · cases turn
    exact ⟨_, rfl, .raised rfl⟩
  · cases turn
  · dsimp only at turn
    split at turn
    · rename_i both
      rw [Bool.and_eq_true] at both
      cases turn
      exact ⟨_, rfl, .unsupported both.1 both.2 (recorded_unsupported action _)⟩
    · cases turn
  · dsimp only at turn
    split at turn
    · rename_i both
      rw [Bool.and_eq_true] at both
      cases turn
      exact ⟨_, rfl, .failed both.1 both.2 (recorded_failed action _)⟩
    · cases turn

theorem nextUnexecuted_some {actions : List ProbeAction} {excluded kinds : List String}
    {action : ProbeAction}
    (found : nextUnexecutedRequiredAction actions excluded kinds = some action) :
    action ∈ actions ∧ action.key ∉ excluded ∧ action.optional = false := by
  have passes := List.find?_some found
  simp only [Bool.and_eq_true, Bool.not_eq_true', decide_eq_true_eq] at passes
  exact ⟨List.mem_of_find?_eq_some found, passes.1.2, passes.1.1⟩

theorem nextUnexecuted_none {actions : List ProbeAction} {excluded kinds : List String}
    (found : nextUnexecutedRequiredAction actions excluded kinds = none) :
    ∀ action ∈ actions, action.optional = false → action.kind ∈ kinds → action.key ∈ excluded := by
  intro action member required supported
  have refused := List.find?_eq_none.mp found action member
  simpa [required, supported] using refused

theorem actionForEvidenceKey_some {actions : List ProbeAction} {evidenceKey : String}
    {excluded : List String} {action : ProbeAction}
    (found : actionForEvidenceKey actions evidenceKey excluded = some action) :
    action ∈ actions ∧ action.key ∉ excluded := by
  -- the cheapest so far is one of the candidates
  have run : ∀ (candidates : List ProbeAction) (held : Option ProbeAction),
      candidates.foldl (fun best action =>
        match best with
        | none => some action
        | some held => if action.cheaper held then some action else some held) held = some action →
        action ∈ candidates ∨ held = some action := by
    intro candidates
    induction candidates with
    | nil => exact fun held same => Or.inr same
    | cons first rest ih =>
      intro held same
      rw [List.foldl_cons] at same
      rcases ih _ same with later | now
      · exact Or.inl (List.mem_cons_of_mem _ later)
      · split at now
        · cases now
          exact Or.inl List.mem_cons_self
        · split at now
          · cases now
            exact Or.inl List.mem_cons_self
          · exact Or.inr now
  have member := (run _ none found).resolve_right nofun
  rw [List.mem_filter, Bool.and_eq_true, decide_eq_true_eq] at member
  exact ⟨member.1, member.2.1⟩

theorem walkTurn_inl {next : WalkState F} (turn : walkTurn r input state = .inl next) :
    (∃ action ∈ input.actions, action.key ∉ state.excluded ∧ Recorded action state next) ∨
      ∃ key ∈ input.tree.readKeys, key ∉ state.unavailable ∧
        next = { state with unsupportedEvidence := state.unsupportedEvidence ++ [key] } := by
  unfold walkTurn at turn
  split at turn
  · rename_i action found
    obtain ⟨member, fresh, _⟩ := nextUnexecuted_some found
    exact Or.inl ⟨action, member, fresh, executeAndRecord_inl turn⟩
  split at turn
  · cases turn
  rename_i evaluation outcome
  split at turn
  · cases turn
  rename_i asks
  obtain ⟨key, among, missing, _, fresh⟩ :=
    evaluateNode_asks input.tree evaluation outcome (not_not.mp asks)
  dsimp only at turn
  rw [missing] at turn
  split at turn
  · cases turn
    exact Or.inr ⟨key, among, by simpa using fresh, rfl⟩
  · rename_i action found
    obtain ⟨member, new⟩ := actionForEvidenceKey_some found
    split at turn
    · exact Or.inl ⟨action, member, new, executeAndRecord_inl turn⟩
    · cases turn
      exact Or.inr ⟨key, among, by simpa using fresh, rfl⟩

inductive Ends (r : Runtime F) (input : WalkInput F) (state last : WalkState F) :
    Except WalkError (Evaluation F) → Prop where
  | finished {evaluation : Evaluation F} (same : last = state)
      (required : ∀ action ∈ input.actions, action.optional = false →
        action.kind ∈ input.supportedKinds → action.key ∈ state.excluded)
      (outcome : evaluateNode r state.evidence (· ∈ state.unavailable) input.tree = .ok evaluation)
      (settled : evaluation.status ≠ .missingAnchor) : Ends r input state last (.ok evaluation)
  | raised {error : EvidenceError} (same : last = state)
      (outcome : evaluateNode r state.evidence (· ∈ state.unavailable) input.tree = .error error) :
      Ends r input state last (.error (.evaluation error))
  | called {action : ProbeAction} {error : WalkError} (member : action ∈ input.actions)
      (fresh : action.key ∉ state.excluded)
      (stopped : Stopped input action (!action.optional) state last error) :
      Ends r input state last (.error error)

theorem walkTurn_inr {ended : WalkEnd F} (turn : walkTurn r input state = .inr ended) :
    Ends r input state ended.1 ended.2 := by
  unfold walkTurn at turn
  split at turn
  · rename_i action found
    obtain ⟨member, fresh, required⟩ := nextUnexecuted_some found
    obtain ⟨error, eq, stopped⟩ := executeAndRecord_inr turn
    rw [eq]
    exact .called member fresh (by rw [required]; exact stopped)
  rename_i found
  split at turn
  · rename_i error outcome
    cases turn
    exact .raised rfl outcome
  rename_i evaluation outcome
  split at turn
  · rename_i settled
    cases turn
    exact .finished rfl (nextUnexecuted_none found) outcome settled
  dsimp only at turn
  split at turn
  · cases turn
  · rename_i action chosen
    obtain ⟨member, fresh⟩ := actionForEvidenceKey_some chosen
    split at turn
    · obtain ⟨error, eq, stopped⟩ := executeAndRecord_inr turn
      rw [eq]
      exact .called member fresh stopped
    · cases turn

def walkMeasure (input : WalkInput F) (state : WalkState F) : Nat :=
  (unused (input.actions.map ProbeAction.key) state.excluded).length +
    (unused input.tree.readKeys state.unavailable).length

theorem Recorded.nodup {action : ProbeAction} {next : WalkState F}
    (recorded : Recorded action state next) (fresh : action.key ∉ state.excluded)
    (distinct : state.excluded.Nodup) : next.excluded.Nodup :=
  recorded.excluded.nodup_iff.mpr (List.nodup_cons.mpr ⟨fresh, distinct⟩)

theorem walkTurn_goes_on {next : WalkState F} (distinct : state.excluded.Nodup)
    (turn : walkTurn r input state = .inl next) :
    next.excluded.Nodup ∧ walkMeasure input next < walkMeasure input state := by
  rcases walkTurn_inl turn with ⟨action, member, fresh, recorded⟩ | ⟨key, among, fresh, rfl⟩
  · refine ⟨recorded.nodup fresh distinct, ?_⟩
    have more : state.excluded ⊆ next.excluded :=
      fun key known => recorded.excluded.mem_iff.mpr (List.mem_cons_of_mem _ known)
    have called : action.key ∈ next.excluded := recorded.excluded.mem_iff.mpr List.mem_cons_self
    have fewer := unused_lt more (List.mem_map_of_mem member) fresh called
    have keys : (unused input.tree.readKeys next.unavailable).length ≤
        (unused input.tree.readKeys state.unavailable).length := unused_le recorded.unavailable
    unfold walkMeasure
    omega
  · refine ⟨distinct, ?_⟩
    have fewer : (unused input.tree.readKeys
        (state.failedEvidence ++ (state.unsupportedEvidence ++ [key]))).length <
          (unused input.tree.readKeys state.unavailable).length := by
      refine unused_lt ?_ among fresh (by simp)
      rw [← List.append_assoc]
      exact List.subset_append_left _ _
    exact Nat.add_lt_add_left fewer _

def EndsLikeStatic (r : Runtime F) (input : WalkInput F) (last : WalkState F) :
    Except WalkError (Evaluation F) → Prop
  | .ok evaluation =>
    (∀ action ∈ input.actions, action.optional = false → action.kind ∈ input.supportedKinds →
      action.key ∈ last.excluded) ∧
    evaluation.status ≠ .missingAnchor ∧
    evaluateDetectionDecisionTreeStatic r input.tree last.evidence = some (.ok evaluation)
  | .error (.evaluation error) =>
    evaluateDetectionDecisionTreeStatic r input.tree last.evidence = some (.error error)
  | .error (.actionRaised key) =>
    key ∉ last.excluded ∧ ∃ action ∈ input.actions, action.key = key
  | .error (.requiredActionUnsupported key) | .error (.requiredActionFailed key) =>
    input.raiseOnRequiredFailure = true ∧
      ∃ action ∈ input.actions, action.key = key ∧ action.optional = false

theorem Ends.likeStatic (named : ∀ key ∈ input.tree.readKeys, key ≠ "")
    (distinct : state.excluded.Nodup) {last : WalkState F}
    {outcome : Except WalkError (Evaluation F)} (ends : Ends r input state last outcome) :
    last.excluded.Nodup ∧ EndsLikeStatic r input last outcome := by
  cases ends with
  | @finished evaluation same required outcome settled =>
    cases same
    refine ⟨distinct, required, settled, ?_⟩
    have stops : ¬ Missing (.ok evaluation : Outcome F) := by
      rintro ⟨result, eq, asks⟩
      exact settled (by rw [Except.ok.inj eq]; exact asks)
    rw [static_absent named, evaluateNode_absent outcome stops]
  | raised same outcome =>
    cases same
    refine ⟨distinct, ?_⟩
    rw [EndsLikeStatic, static_absent named, evaluateNode_absent outcome not_missing_error]
  | @called action error member fresh stopped =>
    cases stopped with
    | raised same =>
      cases same
      exact ⟨distinct, fresh, action, member, rfl⟩
    | unsupported strict needed recorded =>
      exact ⟨recorded.nodup fresh distinct, strict, action, member, rfl, by simpa using needed⟩
    | failed strict needed recorded =>
      exact ⟨recorded.nodup fresh distinct, strict, action, member, rfl, by simpa using needed⟩

end

/-- The walk ends, calls no action twice, and ends in what one shot finds in its evidence. -/
theorem walk_agrees_with_static (r : Runtime F) (input : WalkInput F)
    (named : ∀ key ∈ input.tree.readKeys, key ≠ "") (evidence : Evidence F) :
    (∃ last outcome, walkDetectionDag r input evidence = some (last, outcome) ∧
      last.excluded.Nodup ∧ EndsLikeStatic r input last outcome) ∧
    ∀ collected : Evidence F, evaluateDetectionDecisionTreeStatic r input.tree collected =
      some (evaluateNode r collected (absentKeys collected) input.tree) := by
  constructor
  · have bound : walkMeasure input { evidence } <
        input.actions.length + input.tree.readKeys.length + 1 := by
      have actions := unused_length_le (input.actions.map ProbeAction.key) []
      have keys := unused_length_le input.tree.readKeys []
      rw [List.length_map] at actions
      exact Nat.lt_succ_of_le (Nat.add_le_add actions keys)
    have goes_on : ∀ state next : WalkState F, state.excluded.Nodup →
        walkTurn r input state = .inl next →
        next.excluded.Nodup ∧ walkMeasure input next < walkMeasure input state :=
      fun _ _ => walkTurn_goes_on
    have start : ({ evidence } : WalkState F).excluded.Nodup := List.nodup_nil
    obtain ⟨state, ended, distinct, turn, run⟩ := runLoop_ends goes_on start bound
    obtain ⟨nodup, like⟩ := (walkTurn_inr turn).likeStatic named distinct
    exact ⟨ended.1, ended.2, run, nodup, like⟩
  · exact static_absent named

theorem readKeys_ofList (branches : List (BranchLabel × DecisionNode F)) :
    (DecisionBranches.ofList branches).readKeys = branches.flatMap fun branch => branch.2.readKeys := by
  induction branches with
  | nil => rfl
  | cons branch rest ih =>
    rw [DecisionBranches.ofList, DecisionBranches.readKeys, ih, List.flatMap_cons]

theorem nodeAnchor_named {r : Runtime F} {forced used : List String}
    {descriptors : List (DeviceDescriptor F)} (mandatory : ∀ key ∈ forced, key ≠ "")
    (accepted : ∀ device ∈ descriptors, device.Accepted) {anchorKey : String} {isForced : Bool}
    (chosen : nodeAnchor r descriptors used forced = some (anchorKey, isForced)) :
    anchorKey ≠ "" := by
  rcases nodeAnchor_from chosen with needed | ⟨device, member, anchor, among, rfl⟩
  · exact mandatory anchorKey needed
  · exact ((accepted device member).anchors anchor among).keyed

theorem buildNode_named (r : Runtime F) {forced : List String} (mandatory : ∀ key ∈ forced, key ≠ "")
    (fuel : Nat) {descriptors : List (DeviceDescriptor F)}
    (accepted : ∀ device ∈ descriptors, device.Accepted) (used : List String) :
    ∀ key ∈ (buildNode r forced fuel descriptors used).readKeys, key ≠ "" := by
  induction fuel generalizing descriptors used with
  | zero =>
    rw [buildNode, DecisionNode.readKeys]
    exact List.forall_mem_nil _
  | succ fuel ih =>
    rw [buildNode]
    split
    · rename_i few
      rw [DecisionNode.readKeys]
      intro key member
      obtain ⟨anchor, among, rfl⟩ := List.mem_map.mp member
      rcases Nat.le_one_iff_eq_zero_or_eq_one.mp few with none_left | alone
      · rw [List.length_eq_zero_iff.mp none_left] at among
        cases among
      · obtain ⟨device, rfl⟩ := List.length_eq_one_iff.mp alone
        exact ((accepted device (List.mem_singleton_self _)).anchors anchor
          (List.mem_filter.mp among).1).keyed
    · split
      · rw [DecisionNode.readKeys]
        exact List.forall_mem_nil _
      · rename_i anchorKey isForced chosen
        rw [DecisionNode.readKeys, readKeys_ofList, List.flatMap_map]
        refine List.forall_mem_cons.mpr ⟨nodeAnchor_named mandatory accepted chosen, ?_⟩
        intro key member
        obtain ⟨partition, among, inside⟩ := List.mem_flatMap.mp member
        exact ih (fun device here => accepted device (partition_subset among here))
          (anchorKey :: used) key inside

theorem built_named (r : Runtime F) {catalog : DescriptorCatalog F}
    (valid : validateDetectionDescriptorCatalog catalog = none) (protocolFamily : String) :
    ∀ key ∈ (buildDetectionDecisionTree r protocolFamily catalog).readKeys, key ≠ "" := by
  have mandatory : ∀ key ∈ mandatoryDetectionAnchorKeys protocolFamily, key ≠ "" := by
    unfold mandatoryDetectionAnchorKeys
    split
    · decide
    · decide
  exact buildNode_named r mandatory _ (family_of_valid valid protocolFamily).accepted []

def identityAction : ProbeAction := ⟨"identity", "modbus_read", 1, false, ["fingerprint.layout_code"]⟩

def layoutWalk : WalkInput Int where
  tree := buildDetectionDecisionTree wholeFloats "modbus_smg" twoLayouts
  actions := [identityAction]
  executeAction := fun _ _ evidence => some (.executed, fun key =>
    if key = "fingerprint.layout_code" then some (.int 3) else evidence key)
  supportedKinds := ["modbus_read"]

def noEvidence : Evidence Int := fun _ => none

theorem layout_walk_agrees :
    (walkDetectionDag wholeFloats layoutWalk noEvidence).map
        (fun ended => (ended.1.executed, ended.2.map Evaluation.resolvedKey)) =
      some (["identity"], .ok (some "dual")) ∧
    ∃ last outcome, walkDetectionDag wholeFloats layoutWalk noEvidence = some (last, outcome) ∧
      last.excluded.Nodup ∧ EndsLikeStatic wholeFloats layoutWalk last outcome := by
  have valid : validateDetectionDescriptorCatalog twoLayouts = none := by decide +kernel
  constructor
  · decide +kernel
  · exact (walk_agrees_with_static wholeFloats layoutWalk
      (built_named wholeFloats valid "modbus_smg") noEvidence).1

def emptyKeyWalk : WalkInput Int where
  tree := .node "" ["device"] ⟨1, 1, 0, true⟩ .nil
  actions := []
  executeAction := fun _ _ _ => none
  supportedKinds := []

/-- The walk gives up the empty key, one shot stops at it. -/
theorem empty_key_disagrees :
    (walkDetectionDag wholeFloats emptyKeyWalk noEvidence).map (fun ended => ended.2) =
        some (.ok ⟨.noMatch, ["device"], none, none, []⟩) ∧
      evaluateDetectionDecisionTreeStatic wholeFloats emptyKeyWalk.tree noEvidence =
        some (.ok ⟨.missingAnchor, ["device"], none, some "", []⟩) ∧
      evaluateNode wholeFloats noEvidence (absentKeys noEvidence) emptyKeyWalk.tree =
        .ok ⟨.noMatch, ["device"], none, none, []⟩ := by
  decide +kernel

end Detection
