import EybondLocal.Detection.Selection

/-!
Two lists of branches that are related one by one: what is selected of them is related too.
-/
namespace Detection

variable {F : Type} {r : Runtime F} {evidence : Evidence F} {unavailable unavailable' : String → Bool}

structure Selective (r : Runtime F) (evidence : Evidence F) (unavailable unavailable' : String → Bool)
    (Related : Tried F → Tried F → Prop) : Prop where
  signature : ∀ {a b}, Related a b → a.1.signature = b.1.signature
  priority : ∀ {a b}, Related a b → a.1.priority = b.1.priority
  merged : ∀ {branches branches'}, List.Forall₂ Related branches branches' →
    Related (ambiguousBranch r evidence unavailable branches)
      (ambiguousBranch r evidence unavailable' branches')

def ListsRelated (Related : Tried F → Tried F → Prop) :
    Except EvidenceError (List (Tried F)) → Except EvidenceError (List (Tried F)) → Prop
  | .error error, .error error' => error = error'
  | .ok branches, .ok branches' => List.Forall₂ Related branches branches'
  | _, _ => False

theorem listsRelated_cases {Related : Tried F → Tried F → Prop}
    {run run' : Except EvidenceError (List (Tried F))} (both : ListsRelated Related run run') :
    (∃ error, run = .error error ∧ run' = .error error) ∨
      ∃ branches branches', run = .ok branches ∧ run' = .ok branches' ∧
        List.Forall₂ Related branches branches' := by
  cases run with
  | error error =>
    cases run' with
    | error error' => exact Or.inl ⟨error, rfl, congrArg _ (Eq.symm both)⟩
    | ok _ => exact False.elim both
  | ok branches =>
    cases run' with
    | error _ => exact False.elim both
    | ok branches' => exact Or.inr ⟨branches, branches', rfl, rfl, both⟩

section
variable {Related : Tried F → Tried F → Prop} {branches branches' : List (Tried F)}

theorem highestPriority_congr
    (priority : ∀ {a b : Tried F}, Related a b → a.1.priority = b.1.priority)
    (related : List.Forall₂ Related branches branches') :
    highestPriority branches = highestPriority branches' := by
  have same : (branches.map fun (branch : Tried F) => branch.1.priority) =
      branches'.map fun (branch : Tried F) => branch.1.priority := by
    induction related with
    | nil => rfl
    | cons head _ ih => rw [List.map_cons, List.map_cons, priority head, ih]
  rw [highestPriority, highestPriority, same]

variable (selective : Selective r evidence unavailable unavailable' Related)
  (related : List.Forall₂ Related branches branches')
include selective related

omit selective in
theorem filter_related (keep : Tried F → Bool)
    (same : ∀ {a b}, Related a b → keep a = keep b) :
    List.Forall₂ Related (branches.filter keep) (branches'.filter keep) := by
  induction related with
  | nil => exact .nil
  | @cons a b _ _ head _ ih =>
    rw [List.filter_cons, List.filter_cons, same head]
    cases kept : keep b with
    | true => exact .cons head ih
    | false => exact ih

theorem missing_related :
    List.Forall₂ Related (branches.filter isMissing) (branches'.filter isMissing) := by
  apply filter_related related
  intro a b both
  rw [isMissing, isMissing, selective.signature both]

theorem prioritized_related :
    List.Forall₂ Related (prioritized r evidence unavailable branches)
      (prioritized r evidence unavailable' branches') := by
  have kept : List.Forall₂ Related
      (branches.filter fun (branch : Tried F) =>
        some branch.1.priority = highestPriority branches)
      (branches'.filter fun (branch : Tried F) =>
        some branch.1.priority = highestPriority branches') := by
    rw [highestPriority_congr selective.priority related]
    apply filter_related related
    intro a b both
    rw [selective.priority both]
  unfold prioritized
  generalize branches.filter _ = most, branches'.filter _ = most' at kept
  cases kept with
  | nil => exact .nil
  | cons head tail =>
    cases tail with
    | nil => exact .cons head .nil
    | cons second rest => exact .cons (selective.merged (.cons head (.cons second rest))) .nil

theorem acceptedBy_related (value : Value F) (matcher : Matcher) :
    ListsRelated Related (acceptedBy r value matcher branches)
      (acceptedBy r value matcher branches') := by
  induction related with
  | nil => exact .nil
  | @cons a b rest rest' head _ ih =>
    rw [acceptedBy, acceptedBy, selective.signature head]
    cases matcher.matches r b.1.signature value with
    | error error => rfl
    | ok answer =>
      obtain ⟨error, raised, raised'⟩ | ⟨accepted, accepted', run, run', kept⟩ :=
        listsRelated_cases ih
      · rw [raised, raised']
        cases answer <;> rfl
      · rw [run, run']
        cases answer with
        | true => exact .cons head kept
        | false => exact kept

theorem selectedBy_related (value : Value F) (order : List Matcher) :
    ListsRelated Related (selectedBy r evidence unavailable branches value order)
      (selectedBy r evidence unavailable' branches' value order) := by
  induction order with
  | nil => exact .nil
  | cons matcher rest ih =>
    have here := acceptedBy_related selective related value matcher
    rw [selectedBy, selectedBy]
    obtain ⟨error, raised, raised'⟩ | ⟨accepted, accepted', run, run', kept⟩ :=
      listsRelated_cases here
    · rw [raised, raised']
      rfl
    · rw [run, run']
      obtain ⟨error, raised, raised'⟩ | ⟨later, later', follow, follow', others⟩ :=
        listsRelated_cases ih
      · rw [raised, raised']
        rfl
      · rw [follow, follow']
        exact List.rel_append (prioritized_related selective kept) others

theorem matchingBranches_related (value : Value F) :
    ListsRelated Related (matchingBranchesByPriority r evidence unavailable branches value)
      (matchingBranchesByPriority r evidence unavailable' branches' value) := by
  have selected := selectedBy_related selective related value matchers
  unfold matchingBranchesByPriority
  obtain ⟨error, raised, raised'⟩ | ⟨kept, kept', run, run', both⟩ := listsRelated_cases selected
  · rw [raised, raised']
    rfl
  · rw [run, run']
    exact List.rel_append both (missing_related selective related)

theorem find_missing_related :
    (branches.find? isMissing = none ∧ branches'.find? isMissing = none) ∨
      ∃ a b, branches.find? isMissing = some a ∧ branches'.find? isMissing = some b ∧
        Related a b := by
  have missing := missing_related selective related
  rw [← List.head?_filter, ← List.head?_filter]
  generalize branches.filter isMissing = most, branches'.filter isMissing = most' at missing
  cases missing with
  | nil => exact Or.inl ⟨rfl, rfl⟩
  | cons head _ => exact Or.inr ⟨_, _, rfl, rfl, head⟩

end
end Detection
