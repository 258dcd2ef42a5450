import EybondLocal.Library.DateText
import EybondLocal.Library.HalfEven
import EybondLocal.Library.OrderedDict
import Mathlib.Data.Int.Bitwise
import Mathlib.Data.List.Sort

/-!
Write capabilities of a declarative profile (`models.py`) and what the profile loader checks of them
(`_optional_bitmask` and `_validate_profile` in `metadata/profile_loader.py`).
-/
namespace Capability
open OrderedDict

inductive ValueKind where
  | action
  | bool
  | dateWords
  | enum
  | scaledU16
  | timeHhmm
  | timeWords
  | u16
  | u32
  deriving DecidableEq, Repr

structure CapabilityChoice where
  value : Int
  label : String
  order : Int := 1000
  deriving DecidableEq, Repr

def maskShift (mask : BitVec 16) : Nat := (mask &&& -mask).toNat.log2

/-- The check of `_optional_bitmask` that the set bits are neighbours. -/
def contiguous (mask : BitVec 16) : Bool :=
  (mask >>> maskShift mask) &&& ((mask >>> maskShift mask) + 1) = 0

theorem unmasked_parsed :
    ∀ mask : BitVec 16, none = some mask → mask ≠ 0 ∧ (1 : Int) = 1 ∧ contiguous mask = true :=
  nofun

structure WriteCapability where
  key : String
  register : Int
  valueKind : ValueKind
  command : String := ""
  commandMap : Bool := false
  wordCount : Int := 1
  combine : String := "u16"
  bitmask : Option (BitVec 16) := none
  supportTier : String := ""
  actionValue : Option Int := none
  divisor : Option Int := none
  multiplier : Option ℚ := none
  minimum : Option Int := none
  maximum : Option Int := none
  enumMap : Dict Int String := Dict.empty
  choices : List CapabilityChoice := []
  recommendations : List Int := []
  group : String := "config"
  writeFunction : Option Int := none
  /-- A mask comes from `_optional_bitmask`. -/
  mask_parsed : ∀ mask, bitmask = some mask → mask ≠ 0 ∧ wordCount = 1 ∧ contiguous mask = true := by
    simp

namespace WriteCapability
variable (c : WriteCapability)

def bitmaskShift : Nat := (c.bitmask.map maskShift).getD 0

def choiceLE (a b : CapabilityChoice) : Prop :=
  a.order < b.order ∨ a.order = b.order ∧ a.value ≤ b.value

instance : DecidableRel choiceLE :=
  fun a b => inferInstanceAs (Decidable (a.order < b.order ∨ a.order = b.order ∧ a.value ≤ b.value))

def enumChoices : List CapabilityChoice :=
  if c.choices ≠ [] then c.choices.insertionSort choiceLE
  else
    (c.enumMap.items.map fun item => ⟨item.1, item.2, item.1⟩).insertionSort choiceLE

def enumValueMap : Dict Int String :=
  if c.enumMap.items ≠ [] then c.enumMap
  else c.enumChoices.foldl (fun map choice => map.set choice.value choice.label) Dict.empty

end WriteCapability

/-- The number of times that ten divides, as far as `decimals_for_divisor` looks. -/
def tens : Nat → Nat → Nat
  | 0, _ => 0
  | left + 1, n => if 1 < n ∧ n % 10 = 0 then tens left (n / 10) + 1 else 0

def decimalsForDivisor (divisor : Int) : Nat := tens divisor.toNat divisor.toNat

structure CapabilityPreset where
  key : String
  capabilityKeys : List String

structure DriverProfileMetadata where
  key : String
  groups : List String
  capabilities : List WriteCapability
  presets : List CapabilityPreset

/-- `_unique_or_raise`: the first item that was seen before. -/
def duplicate {α : Type} [DecidableEq α] : List α → List α → Option α
  | _, [] => none
  | seen, item :: rest => if item ∈ seen then some item else duplicate (seen ++ [item]) rest

def sameMembers (left right : List Int) : Bool :=
  left.all (· ∈ right) && right.all (· ∈ left)

/-- The checks of `_validate_profile` on one capability in their order, each with its text without
    the profile's key. -/
def WriteCapability.checks (c : WriteCapability) (groupKeys : List String) : List (Bool × String) :=
  let keys := c.enumValueMap.items.map Prod.fst
  let choiceValues := c.enumChoices.map CapabilityChoice.value
  let unknown := c.recommendations.find? (· ∉ keys)
  [(c.group ∉ groupKeys, "unknown_group_for_capability:" ++ c.key ++ ":" ++ c.group),
   (c.register < 0 ∧ c.command = "" ∧ c.commandMap = false,
    "capability_requires_register_or_command:" ++ c.key),
   (c.wordCount < 1, "capability_requires_positive_word_count:" ++ c.key),
   (c.writeFunction ≠ none ∧ c.writeFunction ≠ some 6 ∧ c.writeFunction ≠ some 16,
    "unsupported_write_function:" ++ c.key ++ ":" ++ toString (c.writeFunction.getD 0)),
   (c.bitmask.isSome ∧ c.writeFunction = some 6, "bitmask_requires_write_multiple:" ++ c.key),
   (c.valueKind = .timeHhmm ∧ c.wordCount ≠ 1, "time_hhmm_requires_single_word:" ++ c.key),
   (c.valueKind ≠ .scaledU16 ∧ (c.divisor ≠ none ∨ c.multiplier ≠ none),
    "scale_requires_scaled_u16:" ++ c.key),
   (c.valueKind = .scaledU16 ∧ c.divisor = none ∧ c.multiplier = none,
    "scaled_u16_requires_scale:" ++ c.key),
   (c.valueKind = .enum ∧ keys = [], "enum_capability_without_choices:" ++ c.key),
   (c.valueKind = .action ∧ c.actionValue = none,
    "action_capability_requires_action_value:" ++ c.key),
   (c.valueKind ≠ .enum ∧ c.valueKind ≠ .bool ∧ keys ≠ [],
    "non_enum_capability_has_enum_map:" ++ c.key),
   (c.valueKind = .bool ∧ sameMembers (if keys = [] then [0, 1] else keys) [0, 1] = false,
    "bool_capability_requires_0_1:" ++ c.key),
   (c.divisor ≠ none ∧ c.multiplier ≠ none, "capability_has_divisor_and_multiplier:" ++ c.key),
   (c.supportTier ≠ "" ∧ c.supportTier ∉ ["standard", "conditional", "blocked"],
    "unsupported_support_tier:" ++ c.key ++ ":" ++ c.supportTier),
   ((duplicate [] choiceValues).isSome,
    "duplicate_choice_value:" ++ c.key ++ ":" ++ toString ((duplicate [] choiceValues).getD 0)),
   ((c.valueKind = .enum ∨ c.valueKind = .bool) ∧ unknown.isSome,
    "unknown_recommendation_enum_value:" ++ c.key ++ ":" ++ toString (unknown.getD 0))]

/-- What `_validate_profile` finds wrong with one capability. -/
def WriteCapability.fault (c : WriteCapability) (groupKeys : List String) : Option String :=
  ((c.checks groupKeys).find? Prod.fst).map Prod.snd

def validateProfile (profile : DriverProfileMetadata) : Option String :=
  let capabilityKeys := profile.capabilities.map WriteCapability.key
  let fault :=
    match duplicate [] profile.groups, duplicate [] capabilityKeys,
      duplicate [] (profile.presets.map CapabilityPreset.key) with
    | some group, _, _ => some ("duplicate_group:" ++ group)
    | none, some capability, _ => some ("duplicate_capability:" ++ capability)
    | none, none, some preset => some ("duplicate_preset:" ++ preset)
    | none, none, none =>
      match profile.capabilities.findSome? fun (c : WriteCapability) => c.fault profile.groups with
      | some text => some text
      | none =>
        profile.presets.findSome? fun (preset : CapabilityPreset) =>
          (preset.capabilityKeys.find? (· ∉ capabilityKeys)).map fun key =>
            "preset_references_unknown_capability:" ++ preset.key ++ ":" ++ key
  fault.map fun text => "profile:" ++ profile.key ++ ":" ++ text

def WriteCapability.Accepted (c : WriteCapability) : Prop :=
  ∃ profile, c ∈ profile.capabilities ∧ validateProfile profile = none

section Accepted
variable {c : WriteCapability}

theorem WriteCapability.Accepted.faultless (accepted : c.Accepted) :
    ∃ groupKeys, c.fault groupKeys = none := by
  obtain ⟨profile, member, valid⟩ := accepted
  refine ⟨profile.groups, ?_⟩
  unfold validateProfile at valid
  rw [Option.map_eq_none_iff] at valid
  split at valid
  · cases valid
  · cases valid
  · cases valid
  · split at valid
    · cases valid
    · rename_i none_found
      exact List.findSome?_eq_none_iff.mp none_found c member

structure WriteCapability.Sound (c : WriteCapability) : Prop where
  some_word : 1 ≤ c.wordCount
  write_function : c.writeFunction = none ∨ c.writeFunction = some 6 ∨ c.writeFunction = some 16
  mask_multiple : c.bitmask.isSome → c.writeFunction ≠ some 6
  hhmm_word : c.valueKind = .timeHhmm → c.wordCount = 1
  unscaled : c.valueKind ≠ .scaledU16 → c.divisor = none ∧ c.multiplier = none
  scaled : c.valueKind = .scaledU16 → (c.divisor = none ↔ c.multiplier ≠ none)
  unlabelled : c.valueKind ≠ .enum → c.valueKind ≠ .bool → c.enumValueMap.items = []
  two_labels : c.valueKind = .bool → c.enumValueMap.items = [] ∨
    ∀ raw, raw ∈ c.enumValueMap.items.map Prod.fst ↔ raw = 0 ∨ raw = 1

theorem sameMembers_iff {left right : List Int} :
    sameMembers left right = true ↔ ∀ n, n ∈ left ↔ n ∈ right := by
  simp only [sameMembers, Bool.and_eq_true, List.all_eq_true, decide_eq_true_eq]
  constructor
  · rintro ⟨forward, backward⟩ n
    exact ⟨forward n, backward n⟩
  · intro same
    exact ⟨fun n => (same n).mp, fun n => (same n).mpr⟩

theorem WriteCapability.Accepted.sound (accepted : c.Accepted) : c.Sound := by
  obtain ⟨groupKeys, faultless⟩ := accepted.faultless
  have passed : ∀ check ∈ c.checks groupKeys, check.1 = false := by
    intro check member
    unfold WriteCapability.fault at faultless
    rw [Option.map_eq_none_iff, List.find?_eq_none] at faultless
    simpa using faultless check member
  unfold WriteCapability.checks at passed
  simp only [List.forall_mem_cons, decide_eq_false_iff_not] at passed
  obtain ⟨-, -, words, function, masked, hhmm, unscaled, scaled, -, -, unlabelled, labels,
    one_scale, -⟩ := passed
  push Not at function masked hhmm unscaled scaled unlabelled labels one_scale
  constructor
  · omega
  · by_cases none_given : c.writeFunction = none
    · exact Or.inl none_given
    · by_cases six : c.writeFunction = some 6
      · exact Or.inr (Or.inl six)
      · exact Or.inr (Or.inr (function none_given six))
  · exact masked
  · exact hhmm
  · exact unscaled
  · intro kind
    cases divisor : c.divisor with
    | none => simpa using scaled kind divisor
    | some d => simpa [divisor] using one_scale
  · intro enum bool
    simpa using unlabelled enum bool
  · intro kind
    have members := labels kind
    rw [Bool.ne_false_iff, sameMembers_iff] at members
    by_cases empty : c.enumValueMap.items.map Prod.fst = []
    · exact Or.inl (by simpa using empty)
    · right
      intro raw
      have same := members raw
      rw [if_neg empty] at same
      simpa using same

end Accepted
end Capability
