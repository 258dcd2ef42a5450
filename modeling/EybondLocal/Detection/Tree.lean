import EybondLocal.Detection.Catalog
import EybondLocal.Library.Groups
import Mathlib.Data.Rat.Defs

/-!
The decision tree of one protocol family (`detection_decision_tree.py`): how it is built from the
descriptors, and how it is evaluated against evidence.
-/
namespace Detection
open OrderedDict StripText Groups

variable {F : Type}

structure DecisionLeaf (F : Type) where
  candidateKeys : List String
  resolvedKey : Option String
  validationAnchors : List (AnchorCondition F) := []

def DecisionLeaf.ambiguous (leaf : DecisionLeaf F) : Bool := leaf.candidateKeys.length ≠ 1

structure BranchLabel where
  signature : String
  candidateKeys : List String
  priority : Int
  deriving DecidableEq, Repr

structure NodeReport where
  cost : Int
  partitionCount : Nat
  score : ℚ
  forced : Bool
  deriving DecidableEq, Repr

mutual

inductive DecisionNode (F : Type) where
  | leaf (leaf : DecisionLeaf F)
  | node (anchorKey : String) (candidateKeys : List String) (report : NodeReport)
      (branches : DecisionBranches F)

inductive DecisionBranches (F : Type) where
  | nil
  | cons (label : BranchLabel) (child : DecisionNode F) (rest : DecisionBranches F)

end

def DecisionBranches.ofList : List (BranchLabel × DecisionNode F) → DecisionBranches F
  | [] => .nil
  | (label, child) :: rest => .cons label child (ofList rest)

def DecisionBranches.toList : DecisionBranches F → List (BranchLabel × DecisionNode F)
  | .nil => []
  | .cons label child rest => (label, child) :: rest.toList

section
variable (r : Runtime F)

def anchorSignature (descriptor : DeviceDescriptor F) (anchorKey : String) : String :=
  match descriptor.anchors.find? fun (anchor : AnchorCondition F) => anchor.key = anchorKey with
  | some anchor => conditionSignature r anchor
  | none => "missing"

def partitionDescriptorsByAnchor (descriptors : List (DeviceDescriptor F)) (anchorKey : String) :
    Dict String (List (DeviceDescriptor F)) :=
  groupBy (anchorSignature r · anchorKey) descriptors

def sortedPartitions (descriptors : List (DeviceDescriptor F)) (anchorKey : String) :
    List (String × List (DeviceDescriptor F)) :=
  sortedGroups (anchorSignature r · anchorKey) descriptors

def requiredAnchorKeys (descriptor : DeviceDescriptor F) : List String :=
  (descriptor.anchors.filter AnchorCondition.required).map AnchorCondition.key

def candidateAnchorKeys (descriptors : List (DeviceDescriptor F)) : List String :=
  (descriptors.flatMap requiredAnchorKeys).dedup.insertionSort (· ≤ ·)

def nextForcedAnchorKey (forced used : List String) : Option String := forced.find? (· ∉ used)

/-- `(score, len(partitions), -cost, anchor_key)`. -/
structure BranchRank where
  score : ℚ
  partitions : Nat
  negatedCost : Int
  anchorKey : String
  deriving DecidableEq, Repr

def BranchRank.beats (a b : BranchRank) : Bool :=
  b.score < a.score ∨ a.score = b.score ∧
    (b.partitions < a.partitions ∨ a.partitions = b.partitions ∧
      (b.negatedCost < a.negatedCost ∨ a.negatedCost = b.negatedCost ∧ b.anchorKey < a.anchorKey))

def branchScore (partitions descriptors : Nat) (cost : Int) : ℚ :=
  ((partitions : ℚ) - 1) * descriptors / cost

def branchRank (descriptors : List (DeviceDescriptor F)) (anchorKey : String) : BranchRank :=
  let partitions := (partitionDescriptorsByAnchor r descriptors anchorKey).items.length
  let cost := detectionAnchorCost anchorKey
  ⟨branchScore partitions descriptors.length cost, partitions, -cost, anchorKey⟩

def bestBranchAnchorKey (descriptors : List (DeviceDescriptor F)) (used : List String) :
    Option String :=
  let best := (candidateAnchorKeys descriptors).foldl (fun best anchorKey =>
    let rank := branchRank r descriptors anchorKey
    if anchorKey ∈ used ∨ rank.partitions ≤ 1 then best
    else if best.any fun (held : BranchRank) => !rank.beats held then best
    else some rank) none
  best.map BranchRank.anchorKey

def deviceKeys (descriptors : List (DeviceDescriptor F)) : List String :=
  descriptors.map DeviceDescriptor.key

def branchLabel (partition : String × List (DeviceDescriptor F)) : BranchLabel :=
  ⟨partition.1, deviceKeys partition.2,
    ((partition.2.map DeviceDescriptor.priority).max?).getD 0⟩

def singleLeaf (descriptors : List (DeviceDescriptor F)) (used : List String) : DecisionLeaf F :=
  ⟨deviceKeys descriptors, (deviceKeys descriptors).head?,
    match descriptors.head? with
    | some descriptor =>
      descriptor.anchors.filter fun (anchor : AnchorCondition F) => anchor.key ∉ used
    | none => []⟩

def nodeAnchor (descriptors : List (DeviceDescriptor F)) (used forced : List String) :
    Option (String × Bool) :=
  match nextForcedAnchorKey forced used with
  | some anchorKey => some (anchorKey, true)
  | none => (bestBranchAnchorKey r descriptors used).map fun (anchorKey : String) => (anchorKey, false)

def nodeReport (descriptors : List (DeviceDescriptor F)) (anchorKey : String) (forced : Bool) :
    NodeReport :=
  let partitions := (partitionDescriptorsByAnchor r descriptors anchorKey).items.length
  let cost := detectionAnchorCost anchorKey
  ⟨cost, partitions, if 1 < partitions then branchScore partitions descriptors.length cost else 0,
    forced⟩

/-- `_build_node` and `_build_anchor_node`, with a bound on the depth. -/
def buildNode (forced : List String) : Nat → List (DeviceDescriptor F) → List String → DecisionNode F
  | 0, descriptors, _ => .leaf ⟨deviceKeys descriptors, none, []⟩
  | fuel + 1, descriptors, used =>
    if descriptors.length ≤ 1 then .leaf (singleLeaf descriptors used)
    else
      match nodeAnchor r descriptors used forced with
      | none => .leaf ⟨deviceKeys descriptors, none, []⟩
      | some (anchorKey, isForced) =>
        .node anchorKey (deviceKeys descriptors) (nodeReport r descriptors anchorKey isForced)
          (.ofList ((sortedPartitions r descriptors anchorKey).map fun partition =>
            (branchLabel partition, buildNode forced fuel partition.2 (anchorKey :: used))))

def keysLeft (forced : List String) (descriptors : List (DeviceDescriptor F)) (used : List String) :
    List String :=
  (forced ++ candidateAnchorKeys descriptors).dedup.filter (· ∉ used)

def buildDetectionDecisionTree (protocolFamily : String) (catalog : DescriptorCatalog F) :
    DecisionNode F :=
  let descriptors := catalog.descriptorsForProtocol protocolFamily
  let forced := mandatoryDetectionAnchorKeys protocolFamily
  buildNode r forced ((keysLeft forced descriptors []).length + 1) descriptors []

end

inductive EvaluationStatus where
  | resolved
  | ambiguous
  | noMatch
  | missingAnchor
  deriving DecidableEq, Repr

structure EvaluationStep (F : Type) where
  anchorKey : String
  value : Value F
  matchedSignature : String
  candidateKeys : List String
  deriving DecidableEq, Repr

structure Evaluation (F : Type) where
  status : EvaluationStatus
  candidateKeys : List String
  resolvedKey : Option String := none
  missingAnchorKey : Option String := none
  path : List (EvaluationStep F) := []
  deriving DecidableEq, Repr

abbrev Evidence (F : Type) := String → Option (Value F)

abbrev Outcome (F : Type) := Except EvidenceError (Evaluation F)

def Evaluation.after (step : EvaluationStep F) (evaluation : Evaluation F) : Evaluation F :=
  { evaluation with path := step :: evaluation.path }

inductive LeafValidation where
  | passed
  | missing (anchorKey : String)
  | refused
  deriving DecidableEq, Repr

section
variable (r : Runtime F) (evidence : Evidence F) (unavailable : String → Bool)

def evaluateLeafValidation : List (AnchorCondition F) → Except EvidenceError LeafValidation
  | [] => .ok .passed
  | anchor :: rest =>
    match evidence anchor.key with
    | none =>
      if anchor.required then
        if unavailable anchor.key then .ok .refused else .ok (.missing anchor.key)
      else evaluateLeafValidation rest
    | some value =>
      match signatureMatchesValue r (conditionSignature r anchor) value with
      | .error error => .error error
      | .ok false => .ok .refused
      | .ok true => evaluateLeafValidation rest

def evaluateLeaf (leaf : DecisionLeaf F) : Outcome F :=
  if leaf.resolvedKey.isSome ∧ leaf.ambiguous = false then
    match evaluateLeafValidation r evidence unavailable leaf.validationAnchors with
    | .error error => .error error
    | .ok (.missing anchorKey) =>
      .ok ⟨.missingAnchor, leaf.candidateKeys, none, some anchorKey, []⟩
    | .ok .refused => .ok ⟨.noMatch, leaf.candidateKeys, none, none, []⟩
    | .ok .passed => .ok ⟨.resolved, leaf.candidateKeys, leaf.resolvedKey, none, []⟩
  else if leaf.candidateKeys ≠ [] then .ok ⟨.ambiguous, leaf.candidateKeys, none, none, []⟩
  else .ok ⟨.noMatch, [], none, none, []⟩

abbrev Tried (F : Type) := BranchLabel × Outcome F

def highestPriority (branches : List (Tried F)) : Option Int :=
  (branches.map fun (branch : Tried F) => branch.1.priority).max?

def ambiguousBranch (branches : List (Tried F)) : Tried F :=
  let keys := (branches.flatMap fun (branch : Tried F) => branch.1.candidateKeys).eraseDups
  (⟨"ambiguous", keys, (highestPriority branches).getD 0⟩,
    evaluateLeaf r evidence unavailable ⟨keys, none, []⟩)

def prioritized (accepted : List (Tried F)) : List (Tried F) :=
  match accepted.filter fun (branch : Tried F) => some branch.1.priority = highestPriority accepted with
  | [] => []
  | [branch] => [branch]
  | branches => [ambiguousBranch r evidence unavailable branches]

def acceptedBy (value : Value F) (matcher : Matcher) :
    List (Tried F) → Except EvidenceError (List (Tried F))
  | [] => .ok []
  | branch :: rest =>
    match matcher.matches r branch.1.signature value, acceptedBy value matcher rest with
    | .error error, _ => .error error
    | .ok _, .error error => .error error
    | .ok true, .ok accepted => .ok (branch :: accepted)
    | .ok false, .ok accepted => .ok accepted

def selectedBy (branches : List (Tried F)) (value : Value F) :
    List Matcher → Except EvidenceError (List (Tried F))
  | [] => .ok []
  | matcher :: rest =>
    match acceptedBy r value matcher branches, selectedBy branches value rest with
    | .error error, _ => .error error
    | .ok _, .error error => .error error
    | .ok accepted, .ok later => .ok (prioritized r evidence unavailable accepted ++ later)

def isMissing (branch : Tried F) : Bool := branch.1.signature = "missing"

def matchingBranchesByPriority (branches : List (Tried F)) (value : Value F) :
    Except EvidenceError (List (Tried F)) :=
  (selectedBy r evidence unavailable branches value matchers).map (· ++ branches.filter isMissing)

def firstResult (anchorKey : String) (candidateKeys : List String) (value : Value F) :
    List (Tried F) → Outcome F
  | [] => .ok ⟨.noMatch, candidateKeys, none, none, []⟩
  | (label, outcome) :: rest =>
    match outcome with
    | .error error => .error error
    | .ok result =>
      if result.status ≠ .noMatch then
        .ok (result.after ⟨anchorKey, value, label.signature, label.candidateKeys⟩)
      else firstResult anchorKey candidateKeys value rest

def evaluateBranching (anchorKey : String) (candidateKeys : List String)
    (branches : List (Tried F)) : Outcome F :=
  match evidence anchorKey with
  | none =>
    if unavailable anchorKey then
      match branches.find? isMissing with
      | some branch => branch.2
      | none => .ok ⟨.noMatch, candidateKeys, none, none, []⟩
    else .ok ⟨.missingAnchor, candidateKeys, none, some anchorKey, []⟩
  | some value =>
    match matchingBranchesByPriority r evidence unavailable branches value with
    | .error error => .error error
    | .ok tried => firstResult anchorKey candidateKeys value tried

mutual

def evaluateNode : DecisionNode F → Outcome F
  | .leaf leaf => evaluateLeaf r evidence unavailable leaf
  | .node anchorKey candidateKeys _ branches =>
    evaluateBranching r evidence unavailable anchorKey candidateKeys (evaluateBranches branches)

def evaluateBranches : DecisionBranches F → List (Tried F)
  | .nil => []
  | .cons label child rest => (label, evaluateNode child) :: evaluateBranches rest

end

end
end Detection
