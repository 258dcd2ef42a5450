import EybondLocal.Detection.Selection

/-!
The branch of a descriptor among those of its node: when it is tried, and when the node ends in the
descriptor.
-/
namespace Detection

variable {F : Type} {r : Runtime F} {evidence : Evidence F} {unavailable : String → Bool}

def Answered (r : Runtime F) (signature : String) (value : Value F) : Prop :=
  ∀ matcher : Matcher, ∃ answer, matcher.matches r signature value = .ok answer

theorem answered_of_anyMatch {signature : String} {value : Value F} {answer : Bool}
    (run : signatureMatchesValue r signature value = .ok answer) : Answered r signature value := by
  intro matcher
  cases outcome : matcher.matches r signature value with
  | ok own => exact ⟨own, rfl⟩
  | error error =>
    have raised : signatureMatchesValue r signature value = .error error :=
      anyMatch_of_matches outcome (by nofun) (mem_matchers matcher)
    rw [raised] at run
    cases run

theorem answered_missing (value : Value F) : Answered r "missing" value :=
  fun matcher => ⟨false, missing_unmatched matcher value⟩

theorem acceptedBy_ok {branches : List (Tried F)} {value : Value F}
    (answered : ∀ branch ∈ branches, Answered r branch.1.signature value) (matcher : Matcher) :
    ∃ accepted, acceptedBy r value matcher branches = .ok accepted := by
  induction branches with
  | nil => exact ⟨[], rfl⟩
  | cons branch rest ih =>
    obtain ⟨answer, own⟩ := answered branch List.mem_cons_self matcher
    obtain ⟨accepted, later⟩ := ih fun other member => answered other (List.mem_cons_of_mem _ member)
    rw [acceptedBy, own, later]
    cases answer with
    | true => exact ⟨_, rfl⟩
    | false => exact ⟨_, rfl⟩

theorem selectedBy_ok {branches : List (Tried F)} {value : Value F}
    (answered : ∀ branch ∈ branches, Answered r branch.1.signature value) (order : List Matcher) :
    ∃ selected, selectedBy r evidence unavailable branches value order = .ok selected := by
  induction order with
  | nil => exact ⟨[], rfl⟩
  | cons matcher rest ih =>
    obtain ⟨accepted, here⟩ := acceptedBy_ok answered matcher
    obtain ⟨selected, later⟩ := ih
    rw [selectedBy, here, later]
    exact ⟨_, rfl⟩

theorem tried_ok {branches : List (Tried F)} {value : Value F}
    (answered : ∀ branch ∈ branches, Answered r branch.1.signature value) :
    ∃ tried, matchingBranchesByPriority r evidence unavailable branches value = .ok tried := by
  obtain ⟨selected, run⟩ := selectedBy_ok answered matchers
  rw [matchingBranchesByPriority, run]
  exact ⟨_, rfl⟩

def Names (key : String) (outcome : Outcome F) : Prop :=
  ∃ result, outcome = .ok result ∧
    (result.status = .resolved ∧ result.resolvedKey = some key ∨
      result.status = .ambiguous ∧ key ∈ result.candidateKeys)

def EndsNoMatch (branch : Tried F) : Prop :=
  ∃ result, branch.2 = .ok result ∧ result.status = .noMatch

theorem not_names_of_noMatch {key : String} {branch : Tried F} (ends : EndsNoMatch branch) :
    ¬ Names key branch.2 := by
  rintro ⟨result, eq, named⟩
  obtain ⟨other, eq', noMatch⟩ := ends
  rw [eq] at eq'
  cases eq'
  rw [noMatch] at named
  simp at named

theorem names_unresolved_iff {key : String} {keys : List String} :
    Names key (evaluateLeaf r evidence unavailable ⟨keys, none, []⟩) ↔ key ∈ keys := by
  rw [evaluateLeaf_unresolved]
  by_cases empty : keys = []
  · rw [if_neg (not_not.mpr empty), empty]
    simp [Names]
  · rw [if_pos empty]
    simp [Names]

theorem names_firstResult_iff {key anchorKey : String} {keys : List String} {value : Value F}
    {tried : List (Tried F)} :
    Names key (firstResult anchorKey keys value tried) ↔
      ∃ before branch after, tried = before ++ branch :: after ∧
        (∀ other ∈ before, EndsNoMatch other) ∧ Names key branch.2 := by
  induction tried with
  | nil => simp [firstResult, Names]
  | cons first rest ih =>
    -- the first branch is the one, or it ends in no match and the one is later
    have split : (∃ before branch after, first :: rest = before ++ branch :: after ∧
          (∀ other ∈ before, EndsNoMatch other) ∧ Names key branch.2) ↔
        Names key first.2 ∨ EndsNoMatch first ∧ ∃ before branch after,
          rest = before ++ branch :: after ∧ (∀ other ∈ before, EndsNoMatch other) ∧
            Names key branch.2 := by
      constructor
      · rintro ⟨before, branch, after, eq, ends, named⟩
        cases before with
        | nil =>
          cases eq
          exact Or.inl named
        | cons head before =>
          cases eq
          exact Or.inr ⟨ends _ List.mem_cons_self, before, branch, after, rfl,
            fun other member => ends other (List.mem_cons_of_mem _ member), named⟩
      · rintro (named | ⟨ends, before, branch, after, rfl, others, named⟩)
        · exact ⟨[], first, rest, rfl, List.forall_mem_nil _, named⟩
        · exact ⟨first :: before, branch, after, rfl, List.forall_mem_cons.mpr ⟨ends, others⟩, named⟩
    rw [split, ← ih]
    obtain ⟨label, outcome⟩ := first
    cases outcome with
    | error error => simp [firstResult, Names, EndsNoMatch]
    | ok result =>
      rw [firstResult]
      by_cases matched : result.status = .noMatch
      · rw [if_neg (not_not.mpr matched)]
        have ends : EndsNoMatch (label, (.ok result : Outcome F)) := ⟨result, rfl, matched⟩
        constructor
        · exact fun later => Or.inr ⟨ends, later⟩
        · rintro (named | ⟨_, later⟩)
          · exact absurd named (not_names_of_noMatch ends)
          · exact later
      · rw [if_pos matched]
        constructor
        · rintro ⟨found, eq, named⟩
          cases eq
          exact Or.inl ⟨result, rfl, named⟩
        · rintro (⟨found, eq, named⟩ | ⟨⟨found, eq, noMatch⟩, _⟩)
          · cases eq
            exact ⟨_, rfl, named⟩
          · cases eq
            exact absurd noMatch matched

def Rivals (r : Runtime F) (value : Value F) (own other : BranchLabel) : Prop :=
  ∃ matcher : Matcher, matcher.matches r own.signature value = .ok true ∧
    matcher.matches r other.signature value = .ok true

structure OwnBranch (key : String) (branches : List (Tried F)) (own : Tried F) : Prop where
  inside : own ∈ branches
  named : key ∈ own.1.candidateKeys
  only : ∀ branch ∈ branches, key ∈ branch.1.candidateKeys → branch = own
  confined : ∀ branch ∈ branches, Names key branch.2 → key ∈ branch.1.candidateKeys
  distinct : branches.Nodup

section
variable {key : String} {branches tried : List (Tried F)} {own : Tried F} {value : Value F}

def Unrivalled (r : Runtime F) (value : Value F) (branches : List (Tried F)) (own : Tried F) : Prop :=
  ∀ other ∈ branches, Rivals r value own.1 other.1 → other.1.priority ≤ own.1.priority

def Alone (r : Runtime F) (value : Value F) (branches : List (Tried F)) (own : Tried F) : Prop :=
  ∀ other ∈ branches, Rivals r value own.1 other.1 → other.1.priority = own.1.priority → other = own

theorem rivals_iff {matcher : Matcher} {accepted : List (Tried F)}
    (run : acceptedBy r value matcher branches = .ok accepted) (mine : own ∈ accepted)
    {other : Tried F} (inside : other ∈ branches) :
    Rivals r value own.1 other.1 ↔ other ∈ accepted := by
  have found := ((mem_acceptedBy run).mp mine).2
  constructor
  · rintro ⟨matcher', own_found, other_found⟩
    by_cases same : matcher' = matcher
    · rw [same] at other_found
      exact (mem_acceptedBy run).mpr ⟨inside, other_found⟩
    · rw [matches_of_matches (by rw [found]; nofun) same] at own_found
      cases own_found
  · intro kept
    exact ⟨matcher, found, ((mem_acceptedBy run).mp kept).2⟩

theorem topmost_own_iff {matcher : Matcher} {accepted : List (Tried F)}
    (run : acceptedBy r value matcher branches = .ok accepted) (mine : own ∈ accepted) :
    own ∈ topmost accepted ↔ Unrivalled r value branches own := by
  rw [mem_topmost]
  constructor
  · intro most other inside rivals
    exact most.2 other ((rivals_iff run mine inside).mp rivals)
  · intro unrivalled
    refine ⟨mine, ?_⟩
    intro other kept
    have inside := ((mem_acceptedBy run).mp kept).1
    exact unrivalled other inside ((rivals_iff run mine inside).mpr kept)

theorem topmost_alone_iff (distinct : branches.Nodup) {matcher : Matcher}
    {accepted : List (Tried F)} (run : acceptedBy r value matcher branches = .ok accepted)
    (mine : own ∈ topmost accepted) :
    topmost accepted = [own] ↔ Alone r value branches own := by
  obtain ⟨kept, most⟩ := mem_topmost.mp mine
  constructor
  · intro single other inside rivals same
    have among := (rivals_iff run kept inside).mp rivals
    have top : other ∈ topmost accepted :=
      mem_topmost.mpr ⟨among, fun third member => by rw [same]; exact most third member⟩
    rw [single] at top
    exact List.mem_singleton.mp top
  · intro alone
    have nodup : (topmost accepted).Nodup := (distinct.sublist (acceptedBy_sublist run)).filter _
    apply List.perm_singleton.mp
    rw [List.perm_ext_iff_of_nodup nodup (List.nodup_singleton own)]
    intro other
    rw [List.mem_singleton]
    constructor
    · intro top
      obtain ⟨among, highest⟩ := mem_topmost.mp top
      have inside := ((mem_acceptedBy run).mp among).1
      refine alone other inside ((rivals_iff run kept inside).mpr among) ?_
      exact Int.le_antisymm (most other among) (highest own kept)
    · rintro rfl
      exact mine

theorem names_ambiguousBranch_iff {merged : List (Tried F)} :
    Names key (ambiguousBranch r evidence unavailable merged).2 ↔
      ∃ branch ∈ merged, key ∈ branch.1.candidateKeys := by
  unfold ambiguousBranch
  rw [names_unresolved_iff, List.mem_eraseDups, List.mem_flatMap]

theorem prioritized_of_topmost {accepted : List (Tried F)} (top : own ∈ topmost accepted)
    (named : key ∈ own.1.candidateKeys) :
    ∃ branch ∈ prioritized r evidence unavailable accepted, key ∈ branch.1.candidateKeys := by
  by_cases single : topmost accepted = [own]
  · exact ⟨own, mem_prioritized_iff.mpr (Or.inl single), named⟩
  · have several : 2 ≤ (topmost accepted).length := by
      by_contra few
      match all : topmost accepted with
      | [] => simp [all] at top
      | [only] =>
        rw [all] at top single
        exact single (by rw [List.mem_singleton.mp top])
      | first :: second :: rest => simp [all] at few
    refine ⟨_, mem_prioritized_iff.mpr (Or.inr ⟨several, rfl⟩), ?_⟩
    rw [ambiguousBranch, List.mem_eraseDups, List.mem_flatMap]
    exact ⟨own, top, named⟩

theorem tried_cases (way : OwnBranch key branches own)
    (run : matchingBranchesByPriority r evidence unavailable branches value = .ok tried)
    {branch : Tried F} (member : branch ∈ tried) (named : key ∈ branch.1.candidateKeys) :
    Unrivalled r value branches own ∧
      (branch = own ∧ Alone r value branches own ∨
        ¬ Alone r value branches own ∧ Names key branch.2) := by
  obtain ⟨kept, selected, rfl⟩ := selected_of_tried run
  rcases List.mem_append.mp member with here | there
  · obtain ⟨matcher, _, accepted, own_run, among⟩ := (mem_selectedBy selected).mp here
    rcases mem_prioritized_iff.mp among with single | ⟨several, eq⟩
    · have top : branch ∈ topmost accepted := single ▸ List.mem_singleton_self branch
      have inside := ((mem_acceptedBy own_run).mp (mem_topmost.mp top).1).1
      have same := way.only branch inside named
      rw [same] at top single
      refine ⟨(topmost_own_iff own_run (mem_topmost.mp top).1).mp top, Or.inl ⟨same, ?_⟩⟩
      exact (topmost_alone_iff way.distinct own_run top).mp single
    · rw [eq] at named ⊢
      rw [ambiguousBranch, List.mem_eraseDups, List.mem_flatMap] at named
      obtain ⟨other, top, has⟩ := named
      have inside := ((mem_acceptedBy own_run).mp (mem_topmost.mp top).1).1
      have same := way.only other inside has
      rw [same] at top
      refine ⟨(topmost_own_iff own_run (mem_topmost.mp top).1).mp top, Or.inr ⟨?_, ?_⟩⟩
      · intro alone
        rw [(topmost_alone_iff way.distinct own_run top).mpr alone] at several
        simp at several
      · exact names_ambiguousBranch_iff.mpr ⟨own, top, way.named⟩
  · obtain ⟨inside, missing⟩ := List.mem_filter.mp there
    have same := way.only branch inside named
    have unmatched : ∀ other, ¬ Rivals r value own.1 other := by
      rintro other ⟨matcher, found, _⟩
      rw [← same, of_decide_eq_true missing, missing_unmatched] at found
      cases found
    exact ⟨fun other _ rivals => absurd rivals (unmatched other.1),
      Or.inl ⟨same, fun other _ rivals _ => absurd rivals (unmatched other.1)⟩⟩

theorem confined_tried (way : OwnBranch key branches own)
    (run : matchingBranchesByPriority r evidence unavailable branches value = .ok tried)
    {branch : Tried F} (member : branch ∈ tried) (named : Names key branch.2) :
    key ∈ branch.1.candidateKeys := by
  cases origin_of_tried run member with
  | accepted matcher inside found => exact way.confined branch inside named
  | merged matcher accepted among eq =>
    rw [eq] at named ⊢
    rw [ambiguousBranch, List.mem_eraseDups, List.mem_flatMap]
    exact names_ambiguousBranch_iff.mp named
  | missing inside found => exact way.confined branch inside named

theorem tried_of_unrivalled (way : OwnBranch key branches own)
    (run : matchingBranchesByPriority r evidence unavailable branches value = .ok tried)
    (fits : (∃ matcher : Matcher, matcher.matches r own.1.signature value = .ok true) ∨
      own.1.signature = "missing")
    (unrivalled : Unrivalled r value branches own) :
    ∃ branch ∈ tried, key ∈ branch.1.candidateKeys := by
  obtain ⟨kept, selected, rfl⟩ := selected_of_tried run
  rcases fits with ⟨matcher, found⟩ | missing
  · obtain ⟨accepted, own_run⟩ := accepted_of_selected selected (mem_matchers matcher)
    have mine := (mem_acceptedBy own_run).mpr ⟨way.inside, found⟩
    have top := (topmost_own_iff own_run mine).mpr unrivalled
    obtain ⟨branch, among, has⟩ := prioritized_of_topmost (r := r) top way.named
    refine ⟨branch, List.mem_append_left _ ?_, has⟩
    exact (mem_selectedBy selected).mpr ⟨matcher, mem_matchers matcher, accepted, own_run, among⟩
  · exact ⟨own, List.mem_append_right _ (List.mem_filter.mpr
      ⟨way.inside, decide_eq_true missing⟩), way.named⟩

/-- A node names the descriptor where nothing it prefers stands in the way of its branch. -/
theorem names_branching_iff (way : OwnBranch key branches own) {anchorKey : String}
    {keys : List String} (held : evidence anchorKey = some value)
    (run : matchingBranchesByPriority r evidence unavailable branches value = .ok tried)
    (fits : (∃ matcher : Matcher, matcher.matches r own.1.signature value = .ok true) ∨
      own.1.signature = "missing") :
    Names key (evaluateBranching r evidence unavailable anchorKey keys branches) ↔
      Unrivalled r value branches own ∧
        (∀ branch ∈ tried.takeWhile (fun (branch : Tried F) => key ∉ branch.1.candidateKeys),
          EndsNoMatch branch) ∧
        (Alone r value branches own → Names key own.2) := by
  have outcome : evaluateBranching r evidence unavailable anchorKey keys branches =
      firstResult anchorKey keys value tried := by
    rw [evaluateBranching, held]
    dsimp only
    rw [run]
  rw [outcome, names_firstResult_iff]
  constructor
  · rintro ⟨before, branch, after, eq, ends, named⟩
    have member : branch ∈ tried := by simp [eq]
    have has := confined_tried way run member named
    obtain ⟨unrivalled, which⟩ := tried_cases way run member has
    refine ⟨unrivalled, ?_, ?_⟩
    · intro other earlier
      apply ends
      rw [eq, List.takeWhile_append, List.takeWhile_cons_of_neg (by simpa using has)] at earlier
      split at earlier
      · simpa using earlier
      · exact (List.takeWhile_sublist _).subset earlier
    · intro alone
      rcases which with ⟨same, _⟩ | ⟨rivalled, _⟩
      · rw [← same]
        exact named
      · exact absurd alone rivalled
  · rintro ⟨unrivalled, ends, below⟩
    obtain ⟨some_branch, tried_one, has⟩ := tried_of_unrivalled way run fits unrivalled
    have parts := List.takeWhile_append_dropWhile
      (p := fun (branch : Tried F) => decide (key ∉ branch.1.candidateKeys)) (l := tried)
    cases later : tried.dropWhile (fun (branch : Tried F) => decide (key ∉ branch.1.candidateKeys)) with
    | nil =>
      rw [List.dropWhile_eq_nil_iff] at later
      exact absurd has (by simpa using later some_branch tried_one)
    | cons branch after =>
      rw [later] at parts
      have first : key ∈ branch.1.candidateKeys := by
        have refused := List.head?_dropWhile_not
          (fun (branch : Tried F) => decide (key ∉ branch.1.candidateKeys)) tried
        rw [later] at refused
        simpa using refused
      refine ⟨_, branch, after, parts.symm, ends, ?_⟩
      have member : branch ∈ tried := by
        rw [← parts]
        simp
      obtain ⟨_, which⟩ := tried_cases way run member first
      rcases which with ⟨same, alone⟩ | ⟨_, named⟩
      · rw [same]
        exact below alone
      · exact named

end

end Detection
