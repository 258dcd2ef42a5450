import EybondLocal.Detection.AnchorAgreement
import EybondLocal.Detection.Selection

/-!
A descriptor that the tree resolves to has its required anchors in the evidence and is
contradicted by none of them.
-/
namespace Detection
open StripText JoinedText PythonText Groups

variable {F : Type} {r : Runtime F} {evidence : Evidence F} {unavailable : String → Bool}

/-- The value is a number within the bounds as spelled, which are `None` or numbers. -/
def InRange (r : Runtime F) (low high value : Value F) : Prop :=
  low.Readable r ∧ high.Readable r ∧ ∃ observed, value.toFloat r = .ok observed ∧
    (∀ f, r.parse (low.str r) = some f → r.lt observed f = false) ∧
    ∀ f, r.parse (high.str r) = some f → r.lt f observed = false

structure AnchorCondition.Satisfied (r : Runtime F) (anchor : AnchorCondition F)
    (value : Value F) : Prop where
  equals : anchor.equals.isNone = false →
    stableSignatureValue r value = stableSignatureValue r anchor.equals
  oneOf : anchor.oneOf ≠ [] →
    ∃ option ∈ anchor.oneOf, stableSignatureValue r value = stableSignatureValue r option
  range : anchor.ranged = true → InRange r anchor.minValue anchor.maxValue value
  known : anchor.knownEnum = true → ∃ label, value = .text label ∧ ¬ "Unknown".toList <+: label.toList
  contains : anchor.containsAny ≠ [] → ∃ token ∈ anchor.containsAny, token ≠ "" ∧
    token.toList <:+: (r.lower (value.str r)).toList

structure AnchorCondition.OneKind (anchor : AnchorCondition F) : Prop where
  equals : anchor.equals.isNone = false → anchor.oneOf = [] ∧ anchor.ranged = false ∧
    anchor.knownEnum = false ∧ anchor.containsAny = []
  oneOf : anchor.oneOf ≠ [] → anchor.ranged = false ∧ anchor.knownEnum = false ∧
    anchor.containsAny = []
  range : anchor.ranged = true → anchor.knownEnum = false ∧ anchor.containsAny = []
  known : anchor.knownEnum = true → anchor.containsAny = []

structure AnchorCondition.CommaFree (r : Runtime F) (anchor : AnchorCondition F) : Prop where
  options : ∀ option ∈ anchor.oneOf, ',' ∉ (stableSignatureValue r option).toList
  tokens : ∀ token ∈ anchor.containsAny, ',' ∉ token.toList

theorem flatMap_splitText {texts : List String} (plain : ∀ text ∈ texts, ',' ∉ text.toList) :
    texts.flatMap (splitText ',') = texts := by
  induction texts with
  | nil => rfl
  | cons text rest ih =>
    have later := ih fun other member => plain other (List.mem_cons_of_mem _ member)
    rw [List.flatMap_cons, splitText_single (plain text List.mem_cons_self), later]
    rfl

theorem inRange_of_matches (lawful : r.Lawful) {low high value : Value F}
    (accepted : ((printed r low).bind fun low => (printed r high).bind fun high =>
      rangeMatches r low high value) = .ok true) : InRange r low high value := by
  cases lowRead : printed r low with
  | error error =>
    rw [lowRead] at accepted
    cases accepted
  | ok low' =>
    cases highRead : printed r high with
    | error error =>
      rw [lowRead, highRead] at accepted
      cases accepted
    | ok high' =>
      refine ⟨readable_iff.mpr ⟨low', lowRead⟩, readable_iff.mpr ⟨high', highRead⟩, ?_⟩
      simp only [lowRead, highRead, Except.bind, rangeMatches] at accepted
      cases observed : value.toFloat r with
      | error error =>
        rw [observed] at accepted
        cases error <;> cases accepted
      | ok f =>
        rw [observed] at accepted
        obtain ⟨lower, below, isBelow⟩ := outside_read lawful lowRead (r.lt f)
        obtain ⟨upper, above, isAbove⟩ := outside_read lawful highRead (r.lt · f)
        simp only [below, above] at accepted
        cases lower with
        | true => cases accepted
        | false =>
          cases upper with
          | true => cases accepted
          | false =>
            refine ⟨f, rfl, fun g parsed => ?_, fun g parsed => ?_⟩
            · by_contra beyond
              exact absurd (isBelow.mpr ⟨g, parsed, by simpa using beyond⟩) (by simp)
            · by_contra beyond
              exact absurd (isAbove.mpr ⟨g, parsed, by simpa using beyond⟩) (by simp)

theorem satisfied_of_signature (lawful : r.Lawful) {anchor : AnchorCondition F}
    (one : anchor.OneKind) (plain : anchor.CommaFree r) {value : Value F}
    (accepted : signatureMatchesValue r (conditionSignature r anchor) value = .ok true) :
    anchor.Satisfied r value := by
  unfold conditionSignature at accepted
  by_cases equal : anchor.equals.isNone = false
  · obtain ⟨unlisted, unranged, unknown, untold⟩ := one.equals equal
    rw [if_pos equal, signatureMatches_equals] at accepted
    have same := of_decide_eq_true (Except.ok.inj accepted)
    constructor
    · exact fun _ => same.symm
    · exact fun listed => absurd unlisted listed
    · intro ranged
      rw [unranged] at ranged
      cases ranged
    · intro known
      rw [unknown] at known
      cases known
    · exact fun tokens => absurd untold tokens
  rw [if_neg equal] at accepted
  by_cases listed : anchor.oneOf ≠ []
  · obtain ⟨unranged, unknown, untold⟩ := one.oneOf listed
    rw [if_pos listed, signatureMatches_oneOf] at accepted
    have member := (piece_iff listed _).mp (of_decide_eq_true (Except.ok.inj accepted))
    obtain ⟨_, option, among, piece⟩ := member
    rw [splitText_single (plain.options option among), List.mem_singleton] at piece
    constructor
    · exact fun given => absurd given equal
    · exact fun _ => ⟨option, among, piece⟩
    · intro ranged
      rw [unranged] at ranged
      cases ranged
    · intro known
      rw [unknown] at known
      cases known
    · exact fun tokens => absurd untold tokens
  rw [if_neg listed] at accepted
  by_cases ranged : anchor.ranged = true
  · obtain ⟨unknown, untold⟩ := one.range ranged
    rw [if_pos ranged, signatureMatches_range lawful] at accepted
    constructor
    · exact fun given => absurd given equal
    · exact fun given => absurd given listed
    · exact fun _ => inRange_of_matches lawful accepted
    · intro known
      rw [unknown] at known
      cases known
    · exact fun tokens => absurd untold tokens
  rw [if_neg ranged] at accepted
  by_cases known : anchor.knownEnum = true
  · have untold := one.known known
    rw [if_pos known, signatureMatches_knownEnum] at accepted
    have label := Except.ok.inj accepted
    constructor
    · exact fun given => absurd given equal
    · exact fun given => absurd given listed
    · exact fun given => absurd given ranged
    · intro _
      unfold knownEnumMatches at label
      split at label
      · rename_i s
        refine ⟨s, rfl, ?_⟩
        intro starts
        rw [(startsWith_iff s "Unknown").mpr starts] at label
        cases label
      · cases label
    · exact fun tokens => absurd untold tokens
  rw [if_neg known] at accepted
  constructor
  · exact fun given => absurd given equal
  · exact fun given => absurd given listed
  · exact fun given => absurd given ranged
  · exact fun given => absurd given known
  · intro tokens
    rw [if_pos tokens, signatureMatches_containsAny, splitText_joinText ',' tokens,
      flatMap_splitText plain.tokens] at accepted
    have found := Except.ok.inj accepted
    simp only [containsAnyMatches, List.any_eq_true, Bool.and_eq_true, decide_eq_true_eq,
      occursIn] at found
    exact found

def Borne (r : Runtime F) (evidence : Evidence F) (used : List String)
    (descriptor : DeviceDescriptor F) : Prop :=
  ∀ anchor ∈ descriptor.anchors, anchor.key ∉ used →
    (anchor.required = true → (evidence anchor.key).isSome) ∧
      ∀ value, evidence anchor.key = some value →
        signatureMatchesValue r (conditionSignature r anchor) value = .ok true

theorem validation_passed {anchors : List (AnchorCondition F)}
    (passed : evaluateLeafValidation r evidence unavailable anchors = .ok .passed) :
    ∀ anchor ∈ anchors, (anchor.required = true → (evidence anchor.key).isSome) ∧
      ∀ value, evidence anchor.key = some value →
        signatureMatchesValue r (conditionSignature r anchor) value = .ok true := by
  induction anchors with
  | nil => exact List.forall_mem_nil _
  | cons anchor rest ih =>
    rw [evaluateLeafValidation] at passed
    cases held : evidence anchor.key with
    | none =>
      rw [held] at passed
      dsimp only at passed
      split at passed
      · split at passed
        · cases passed
        · cases passed
      · rename_i optional
        refine List.forall_mem_cons.mpr ⟨⟨fun required => absurd required optional, ?_⟩, ih passed⟩
        intro value found
        rw [held] at found
        cases found
    | some value =>
      rw [held] at passed
      dsimp only at passed
      split at passed
      · cases passed
      · cases passed
      · rename_i accepted
        refine List.forall_mem_cons.mpr ⟨⟨fun _ => by rw [held]; rfl, ?_⟩, ih passed⟩
        intro other found
        rw [held] at found
        cases found
        exact accepted

theorem leaf_resolved {leaf : DecisionLeaf F} {result : Evaluation F}
    (outcome : evaluateLeaf r evidence unavailable leaf = .ok result)
    (resolved : result.status = .resolved) :
    leaf.resolvedKey.isSome ∧ result.resolvedKey = leaf.resolvedKey ∧
      evaluateLeafValidation r evidence unavailable leaf.validationAnchors = .ok .passed := by
  unfold evaluateLeaf at outcome
  split at outcome
  · rename_i single
    split at outcome
    · cases outcome
    · cases outcome
      cases resolved
    · cases outcome
      cases resolved
    · rename_i passed
      cases outcome
      exact ⟨single.1, rfl, passed⟩
  · split at outcome
    · cases outcome
      cases resolved
    · cases outcome
      cases resolved

theorem anchorSignature_eq {descriptor : DeviceDescriptor F} (accepted : descriptor.Accepted)
    {anchor : AnchorCondition F} (member : anchor ∈ descriptor.anchors) :
    anchorSignature r descriptor anchor.key = conditionSignature r anchor := by
  have found : descriptor.anchors.find? (fun (other : AnchorCondition F) => other.key = anchor.key) =
      some anchor := by
    obtain ⟨before, after, split⟩ := List.append_of_mem member
    have nodup := accepted.keys
    rw [split, List.map_append, List.map_cons, List.nodup_append] at nodup
    rw [split, List.find?_append, List.find?_eq_none.mpr, Option.none_or]
    · simp
    · intro other inside
      simpa using nodup.2.2 other.key (List.mem_map_of_mem inside) anchor.key List.mem_cons_self
  rw [anchorSignature, found]

theorem conditionSignature_ne_missing (anchor : AnchorCondition F) :
    conditionSignature r anchor ≠ "missing" := by
  have apart : ∀ {start : String} {c : Char} (text : String), start.toList.head? = some c →
      c ≠ 'm' → start ++ text ≠ "missing" := by
    intro start c text head other
    apply ne_of_head (head_append head text)
    intro same
    exact other (Option.some.inj same).symm
  unfold conditionSignature
  split
  · exact apart _ rfl (by decide)
  split
  · exact apart _ rfl (by decide)
  split
  · rw [String.append_assoc, String.append_assoc]
    exact apart _ rfl (by decide)
  split
  · decide
  split
  · exact apart _ rfl (by decide)
  · decide

theorem DeviceDescriptor.Accepted.unanchored {descriptor : DeviceDescriptor F}
    (accepted : descriptor.Accepted) {anchorKey : String}
    (missing : anchorSignature r descriptor anchorKey = "missing") :
    ∀ anchor ∈ descriptor.anchors, anchor.key ≠ anchorKey := by
  intro anchor inside same
  rw [← same, anchorSignature_eq accepted inside] at missing
  exact conditionSignature_ne_missing anchor missing

/-- The anchor of a node is checked by its branch, the others further down. -/
theorem Borne.extend {descriptor : DeviceDescriptor F} {used : List String} {anchorKey : String}
    (borne : Borne r evidence (anchorKey :: used) descriptor)
    (own : ∀ anchor ∈ descriptor.anchors, anchor.key = anchorKey →
      (evidence anchorKey).isSome ∧ ∀ value, evidence anchorKey = some value →
        signatureMatchesValue r (conditionSignature r anchor) value = .ok true) :
    Borne r evidence used descriptor := by
  intro anchor member unused
  by_cases here : anchor.key = anchorKey
  · rw [here]
    obtain ⟨present, passes⟩ := own anchor member here
    exact ⟨fun _ => present, passes⟩
  · exact borne anchor member (by simp [here, unused])

theorem buildNode_resolved (forced : List String) (fuel : Nat)
    {descriptors : List (DeviceDescriptor F)} (accepted : ∀ d ∈ descriptors, d.Accepted)
    (used : List String) {result : Evaluation F}
    (outcome : evaluateNode r evidence unavailable (buildNode r forced fuel descriptors used) =
      .ok result) (resolved : result.status = .resolved) :
    ∃ descriptor ∈ descriptors, result.resolvedKey = some descriptor.key ∧
      Borne r evidence used descriptor := by
  induction fuel generalizing descriptors used result with
  | zero =>
    rw [buildNode, evaluateNode] at outcome
    obtain ⟨absent, _⟩ := leaf_resolved outcome resolved
    cases absent
  | succ fuel ih =>
    rw [buildNode] at outcome
    split at outcome
    · rename_i few
      rw [evaluateNode] at outcome
      obtain ⟨held, key, passed⟩ := leaf_resolved outcome resolved
      match descriptors, few, held with
      | [descriptor], _, _ =>
        refine ⟨descriptor, List.mem_singleton_self _, key, ?_⟩
        intro anchor member unused
        refine validation_passed passed anchor ?_
        exact List.mem_filter.mpr ⟨member, decide_eq_true unused⟩
    · split at outcome
      · rw [evaluateNode] at outcome
        obtain ⟨absent, _⟩ := leaf_resolved outcome resolved
        cases absent
      · rename_i anchorKey isForced _
        rw [evaluateNode, evaluateBranches_built] at outcome
        have child : ∀ branch ∈
            builtBranches r evidence unavailable forced fuel descriptors anchorKey used,
              ∀ inner, branch.2 = .ok inner → inner.status = .resolved →
              ∃ descriptor ∈ descriptors, inner.resolvedKey = some descriptor.key ∧
                anchorSignature r descriptor anchorKey = branch.1.signature ∧
                Borne r evidence (anchorKey :: used) descriptor := by
          intro branch member inner found done
          obtain ⟨partition, among, rfl⟩ := List.mem_map.mp member
          obtain ⟨descriptor, here, key, borne⟩ := ih
            (fun d here => accepted d ((mem_partition among).mp here).1) (anchorKey :: used) found done
          obtain ⟨member, signature⟩ := (mem_partition among).mp here
          exact ⟨descriptor, member, key, signature, borne⟩
        generalize builtBranches r evidence unavailable forced fuel descriptors anchorKey used =
          branches at outcome child
        unfold evaluateBranching at outcome
        cases held : evidence anchorKey with
        | none =>
          rw [held] at outcome
          dsimp only at outcome
          split at outcome
          · split at outcome
            · rename_i branch found
              have missing : branch.1.signature = "missing" := by
                simpa [isMissing] using List.find?_some found
              obtain ⟨descriptor, member, key, signature, borne⟩ :=
                child branch (List.mem_of_find?_eq_some found) result outcome resolved
              refine ⟨descriptor, member, key, borne.extend fun anchor inside same => ?_⟩
              exact absurd same ((accepted descriptor member).unanchored (signature.trans missing)
                anchor inside)
            · cases outcome
              cases resolved
          · cases outcome
            cases resolved
        | some value =>
          rw [held] at outcome
          dsimp only at outcome
          split at outcome
          · cases outcome
          · rename_i tried run
            obtain ⟨branch, member, inner, found, status, key, _⟩ :=
              firstResult_inv outcome (by rw [resolved]; decide)
            rw [resolved] at status
            cases origin_of_tried run member with
            | accepted matcher inside matched =>
              obtain ⟨descriptor, here, name, signature, borne⟩ :=
                child branch inside inner found status
              refine ⟨descriptor, here, key.symm.trans name, borne.extend fun anchor among same => ?_⟩
              refine ⟨by rw [held]; rfl, ?_⟩
              intro other given
              rw [held] at given
              cases given
              rw [← anchorSignature_eq (accepted descriptor here) among, same, signature]
              exact signatureMatches_of_matches matched
            | merged matcher accepted among eq =>
              rw [eq] at found
              rcases ambiguousBranch_unresolved found with ambiguous | noMatch
              · rw [ambiguous] at status
                cases status
              · rw [noMatch] at status
                cases status
            | missing inside missing =>
              obtain ⟨descriptor, here, name, signature, borne⟩ :=
                child branch inside inner found status
              refine ⟨descriptor, here, key.symm.trans name, borne.extend fun anchor among same => ?_⟩
              exact absurd same ((accepted descriptor here).unanchored (signature.trans missing)
                anchor among)

/-- The descriptor that a tree resolves to has its required anchors in the evidence, and every
    anchor of it that is there is satisfied. -/
theorem resolution_sound (r : Runtime F) (lawful : r.Lawful) (catalog : DescriptorCatalog F)
    (valid : validateDetectionDescriptorCatalog catalog = none)
    (plain : ∀ device ∈ catalog.devices, ∀ anchor ∈ device.anchors,
      anchor.OneKind ∧ anchor.CommaFree r)
    (protocolFamily : String) (evidence : Evidence F) (unavailable : String → Bool)
    (result : Evaluation F)
    (outcome : evaluateNode r evidence unavailable
      (buildDetectionDecisionTree r protocolFamily catalog) = .ok result)
    (resolved : result.status = .resolved) :
    (∃ device ∈ catalog.descriptorsForProtocol protocolFamily,
      result.resolvedKey = some device.key) ∧
    ∀ device ∈ catalog.devices, result.resolvedKey = some device.key →
      ∀ anchor ∈ device.anchors, (anchor.required = true → (evidence anchor.key).isSome) ∧
        ∀ value, evidence anchor.key = some value → anchor.Satisfied r value := by
  have family := family_of_valid valid protocolFamily
  obtain ⟨device, member, key, borne⟩ :=
    buildNode_resolved _ _ family.accepted [] outcome resolved
  refine ⟨⟨device, member, key⟩, ?_⟩
  intro other inside same anchor among
  have eq : other = device := by
    refine List.inj_on_of_nodup_map (devices_of_valid valid).2 inside
      (List.mem_filter.mp member).1 ?_
    rw [key] at same
    exact (Option.some.inj same).symm
  subst eq
  obtain ⟨present, passes⟩ := borne anchor among (by simp)
  obtain ⟨one, commaFree⟩ := plain other inside anchor among
  refine ⟨present, ?_⟩
  intro value held
  exact satisfied_of_signature lawful one commaFree (passes value held)

def layoutAnchor (codes : List Int) : AnchorCondition Int where
  key := "fingerprint.layout_code"
  source := "inverter_catalog.anchors"
  oneOf := codes.map Value.int

theorem layoutAnchor_plain (codes : List Int) :
    (layoutAnchor codes).OneKind ∧ (layoutAnchor codes).CommaFree wholeFloats := by
  constructor
  · exact ⟨nofun, fun _ => ⟨rfl, rfl, rfl⟩, nofun, nofun⟩
  · constructor
    · intro option member
      obtain ⟨n, _, rfl⟩ := List.mem_map.mp member
      intro comma
      rcases mem_toString_int comma with digit | sign
      · exact absurd digit (by decide)
      · exact absurd sign (by decide)
    · nofun

def deviceWith (key : String) (priority : Int) (anchors : List (AnchorCondition Int)) :
    DeviceDescriptor Int :=
  ⟨key, "modbus_smg", "partial", ⟨"modbus_smg", key, ""⟩, anchors, priority⟩

def catalogOf (devices : List (DeviceDescriptor Int)) : DescriptorCatalog Int :=
  ⟨⟨[("modbus_smg", ⟨"modbus_smg", "modbus", ["identity"], ["fingerprint.layout_code"]⟩)], by simp⟩,
    devices⟩

def fingerprint (layoutCode modelCode : Int) : Evidence Int := fun key =>
  if key = "fingerprint.layout_code" then some (.int layoutCode)
  else if key = "fingerprint.model_code" then some (.int modelCode)
  else none

def twoLayouts : DescriptorCatalog Int :=
  catalogOf [deviceWith "single" 100 [layoutAnchor [1, 2]], deviceWith "dual" 100 [layoutAnchor [3]]]

theorem dual_resolved : evaluateNode wholeFloats (fingerprint 3 0) (fun _ => false)
      (buildDetectionDecisionTree wholeFloats "modbus_smg" twoLayouts) =
        .ok ⟨.resolved, ["dual"], some "dual", none,
          [⟨"fingerprint.layout_code", .int 3, "one_of:3", ["dual"]⟩]⟩ ∧
    (layoutAnchor [3]).Satisfied wholeFloats (.int 3) := by
  have outcome : evaluateNode wholeFloats (fingerprint 3 0) (fun _ => false)
      (buildDetectionDecisionTree wholeFloats "modbus_smg" twoLayouts) =
        .ok ⟨.resolved, ["dual"], some "dual", none,
          [⟨"fingerprint.layout_code", .int 3, "one_of:3", ["dual"]⟩]⟩ := by
    decide +kernel
  refine ⟨outcome, ?_⟩
  have plain : ∀ device ∈ twoLayouts.devices, ∀ anchor ∈ device.anchors,
      anchor.OneKind ∧ anchor.CommaFree wholeFloats := by
    intro device member anchor among
    obtain ⟨codes, rfl⟩ : ∃ codes, anchor = layoutAnchor codes := by
      simp only [twoLayouts, catalogOf, deviceWith, List.mem_cons, List.not_mem_nil, or_false] at member
      rcases member with rfl | rfl
      · exact ⟨_, List.mem_singleton.mp among⟩
      · exact ⟨_, List.mem_singleton.mp among⟩
    exact layoutAnchor_plain codes
  exact ((resolution_sound wholeFloats wholeFloats_lawful twoLayouts (by decide +kernel) plain
    "modbus_smg" (fingerprint 3 0) (fun _ => false) _ outcome rfl).2
      (deviceWith "dual" 100 [layoutAnchor [3]]) (by simp [twoLayouts, catalogOf]) rfl
      (layoutAnchor [3]) (List.mem_singleton_self _)).2 (.int 3) rfl

end Detection
