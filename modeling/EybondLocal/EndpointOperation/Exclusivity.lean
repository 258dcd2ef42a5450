import EybondLocal.EndpointOperation.Authority
import EybondLocal.Library.Execution

/-!
Exclusive ownership over whole histories of the authority. From a successful acquire on, the
entry stays held for that acquisition until its own token is given back, exactly as long as
nobody presents another token of the same value: one left over from an earlier acquisition
under the same owner ref, or one built by hand.
-/
namespace EndpointOperation
open StripText PythonObject OrderedDict Execution

variable {φ : Type} (kinds : φ → PyObj)

def acquiredToken : Except PyError CollectorEndpointOperationAcquire →
    Option CollectorEndpointOperationToken
  | .ok outcome => outcome.token
  | .error _ => none

def acquired (s : State φ) : Action φ → Option CollectorEndpointOperationToken
  | .acquire entryId kind ownerRef => acquiredToken (s.authority.acquire entryId kind ownerRef).1
  | .leaseAcquire facade entryId => acquiredToken (s.leaseOutcome kinds facade entryId).1
  | _ => none

def adopted (s : State φ) : Action φ → Option CollectorEndpointOperationToken
  | .adopt entryId kind ownerRef =>
    match (s.authority.adopt entryId kind ownerRef).1 with
    | .ok token => token
    | .error _ => none
  | _ => none

def presents (s : State φ) : Action φ → Option (String × Presented)
  | .release entryId presented => (exactNormalizedStr entryId).map fun key => (key, presented)
  | .leaseRelease facade (.str key) =>
    match (s.leases facade).get? key with
    | none => none
    | some acquisition => (exactNormalizedStr (.str key)).map fun key => (key, .granted acquisition)
  | _ => none

/-- A release that presents the value the entry is held under presents the token of the
    acquisition that holds it. -/
def OwnToken (s : State φ) (action : Action φ) : Prop :=
  ∀ key presented, presents s action = some (key, presented) →
    s.authority.held.get? key = s.tokenOf presented → s.authority.held.get? key ≠ none →
    (s.entitled.get? key).map Presented.granted = some presented

theorem Authority.acquire_cases (authority : Authority) (entryId kind ownerRef : PyObj) :
    (acquiredToken (authority.acquire entryId kind ownerRef).1 = none ∧
        (authority.acquire entryId kind ownerRef).2.held = authority.held) ∨
      ∃ token, (authority.acquire entryId kind ownerRef).1 = .ok ⟨some token, none⟩ ∧
        authority.held.get? token.entryId = none ∧
        (authority.acquire entryId kind ownerRef).2.held =
          authority.held.set token.entryId token := by
  dsimp only [Authority.acquire]
  split
  · exact Or.inl ⟨rfl, rfl⟩
  split
  · exact Or.inl ⟨rfl, rfl⟩
  split
  · exact Or.inl ⟨rfl, rfl⟩
  split
  · exact Or.inl ⟨rfl, rfl⟩
  · rename_i free
    exact Or.inr ⟨_, rfl, free, rfl⟩

theorem Authority.adopt_cases (authority : Authority) (entryId kind ownerRef : PyObj) :
    ((∀ token, (authority.adopt entryId kind ownerRef).1 = .ok (some token) →
          authority.held.get? token.entryId = some token) ∧
        (authority.adopt entryId kind ownerRef).2.held = authority.held) ∨
      ∃ token, (authority.adopt entryId kind ownerRef).1 = .ok (some token) ∧
        authority.held.get? token.entryId = none ∧
        (authority.adopt entryId kind ownerRef).2.held =
          authority.held.set token.entryId token := by
  dsimp only [Authority.adopt]
  split
  · exact Or.inl ⟨by simp, rfl⟩
  split
  · split
    · rename_i free
      exact Or.inr ⟨_, rfl, free, rfl⟩
    · rename_i held busy
      refine Or.inl ⟨?_, rfl⟩
      intro token handed
      split at handed
      · rename_i same
        cases handed
        rwa [same] at busy ⊢
      · cases handed
  · exact Or.inl ⟨by simp, rfl⟩

theorem Authority.release_held (authority : Authority) {entryId : PyObj} {key : String}
    (exact_key : exactNormalizedStr entryId = some key)
    (token : Option CollectorEndpointOperationToken) :
    (authority.release entryId token).2.held =
      if authority.held.get? key ≠ none ∧ authority.held.get? key = token then
        authority.held.erase key
      else authority.held := by
  cases token with
  | none =>
    have differs : ¬ (authority.held.get? key ≠ none ∧ authority.held.get? key = none) := by
      rintro ⟨some_held, none_held⟩
      exact some_held none_held
    rw [if_neg differs]
    rfl
  | some token =>
    simp only [Authority.release, exact_key]
    by_cases same : authority.held.get? key = some token
    · simp [same]
    · simp [same]

theorem afterAcquire_none (s : State φ)
    {outcome : Except PyError CollectorEndpointOperationAcquire × Authority}
    (refused : acquiredToken outcome.1 = none) :
    s.afterAcquire outcome = { s with authority := outcome.2 } := by
  obtain ⟨result, authority⟩ := outcome
  cases result with
  | error error => rfl
  | ok answer =>
    obtain ⟨token, busy⟩ := answer
    simp only [acquiredToken] at refused
    rw [refused]
    rfl

theorem afterAcquire_some (s : State φ)
    {outcome : Except PyError CollectorEndpointOperationAcquire × Authority}
    {token : CollectorEndpointOperationToken} (handed : outcome.1 = .ok ⟨some token, none⟩) :
    s.afterAcquire outcome = s.grant outcome.2 token := by
  obtain ⟨result, authority⟩ := outcome
  dsimp only at handed
  rw [handed]
  rfl

theorem afterAdopt_shared (s : State φ)
    {outcome : Except PyError (Option CollectorEndpointOperationToken) × Authority}
    (shared : ∀ token, outcome.1 = .ok (some token) →
      s.authority.held.get? token.entryId = some token) :
    s.afterAdopt outcome = { s with authority := outcome.2 } := by
  obtain ⟨result, authority⟩ := outcome
  cases result with
  | error error => rfl
  | ok token =>
    cases token with
    | none => rfl
    | some token =>
      have busy : s.authority.held.get? token.entryId ≠ none := by
        rw [shared token rfl]
        simp
      simp only [State.afterAdopt, busy, ↓reduceIte]

theorem afterAdopt_some (s : State φ)
    {outcome : Except PyError (Option CollectorEndpointOperationToken) × Authority}
    {token : CollectorEndpointOperationToken} (handed : outcome.1 = .ok (some token))
    (free : s.authority.held.get? token.entryId = none) :
    s.afterAdopt outcome = s.grant outcome.2 token := by
  obtain ⟨result, authority⟩ := outcome
  dsimp only at handed
  rw [handed]
  simp only [State.afterAdopt, free, ↓reduceIte]

theorem leaseOutcome_cases (s : State φ) (facade : φ) (entryId : PyObj) :
    (acquiredToken (s.leaseOutcome kinds facade entryId).1 = none ∧
        (s.leaseOutcome kinds facade entryId).2.held = s.authority.held) ∨
      ∃ token, (s.leaseOutcome kinds facade entryId).1 = .ok ⟨some token, none⟩ ∧
        s.authority.held.get? token.entryId = none ∧
        (s.leaseOutcome kinds facade entryId).2.held = s.authority.held.set token.entryId token := by
  unfold State.leaseOutcome
  split
  · exact Or.inl ⟨rfl, rfl⟩
  · exact s.authority.acquire_cases entryId _ _

inductive Effect (s : State φ) (action : Action φ) : State φ → Prop where
  | quiet (s' : State φ) (held : s'.authority.held = s.authority.held)
      (granted : s'.granted = s.granted) (entitled : s'.entitled = s.entitled)
      (unacquired : acquired kinds s action = none) (unpresented : presents s action = none)
      (readopted : ∀ token, adopted s action = some token →
        s.authority.held.get? token.entryId = some token) :
      Effect s action s'
  | granted (s' : State φ) (token : CollectorEndpointOperationToken)
      (free : s.authority.held.get? token.entryId = none)
      (held : s'.authority.held = s.authority.held.set token.entryId token)
      (granted : s'.granted = s.granted ++ [token])
      (entitled : s'.entitled = s.entitled.set token.entryId s.granted.length)
      (handed : ∀ other, acquired kinds s action = some other ∨ adopted s action = some other →
        other = token)
      (unpresented : presents s action = none) :
      Effect s action s'
  | released (s' : State φ) (key : String) (presented : Presented)
      (presents : presents s action = some (key, presented))
      (held : s'.authority.held =
        if s.authority.held.get? key ≠ none ∧ s.authority.held.get? key = s.tokenOf presented then
          s.authority.held.erase key
        else s.authority.held)
      (granted : s'.granted = s.granted) (entitled : s'.entitled = s.giveBack key presented)
      (unacquired : acquired kinds s action = none) (unadopted : adopted s action = none) :
      Effect s action s'

structure Consistent (s : State φ) : Prop where
  held : ∀ key, s.authority.held.get? key =
    (s.entitled.get? key).bind fun acquisition => s.granted[acquisition]?
  known : ∀ key acquisition, s.entitled.get? key = some acquisition →
    acquisition < s.granted.length

theorem initial_consistent : Consistent (State.initial : State φ) := by
  constructor
  · intro key
    simp [State.initial, Authority.initial]
  · intro key acquisition entitled
    simp [State.initial] at entitled

theorem Consistent.holds {s : State φ} (consistent : Consistent s) {key : String}
    {acquisition : Nat} (entitled : s.entitled.get? key = some acquisition) :
    ∃ token, s.granted[acquisition]? = some token ∧ s.authority.held.get? key = some token := by
  have known := consistent.known key acquisition entitled
  have token : s.granted[acquisition]? = some s.granted[acquisition] := by simp [known]
  refine ⟨_, token, ?_⟩
  rw [consistent.held, entitled, Option.bind_some, token]

theorem giveBack_cases (s : State φ) (key : String) (presented : Presented) :
    ((s.entitled.get? key).map Presented.granted = some presented ∧
        s.giveBack key presented = s.entitled.erase key) ∨
      ((s.entitled.get? key).map Presented.granted ≠ some presented ∧
        s.giveBack key presented = s.entitled) := by
  unfold State.giveBack
  cases entitled : s.entitled.get? key with
  | none => simp
  | some acquisition =>
    by_cases own : presented = .granted acquisition
    · simp [own]
    · simp [own, Ne.symm own]

/-- With own tokens only, what the authority frees is what was given back. -/
theorem released_together {s : State φ} (consistent : Consistent s) {key : String}
    {presented : Presented} (own : s.authority.held.get? key = s.tokenOf presented →
      s.authority.held.get? key ≠ none →
      (s.entitled.get? key).map Presented.granted = some presented) :
    (s.authority.held.get? key ≠ none ∧ s.authority.held.get? key = s.tokenOf presented) ↔
      (s.entitled.get? key).map Presented.granted = some presented := by
  constructor
  · rintro ⟨busy, same⟩
    exact own same busy
  · intro given
    rw [Option.map_eq_some_iff] at given
    obtain ⟨acquisition, entitled, rfl⟩ := given
    obtain ⟨token, granted, held⟩ := consistent.holds entitled
    rw [held, State.tokenOf, granted]
    exact ⟨by simp, rfl⟩

theorem Effect.consistent {s s' : State φ} {action : Action φ} (effect : Effect kinds s action s')
    (before : Consistent s) (own : OwnToken s action) : Consistent s' := by
  cases effect with
  | quiet held granted entitled _ _ _ =>
    constructor
    · intro key
      rw [held, granted, entitled]
      exact before.held key
    · intro key acquisition
      rw [granted, entitled]
      exact before.known key acquisition
  | granted token free held granted entitled _ _ =>
    have known : ∀ key acquisition, s'.entitled.get? key = some acquisition →
        acquisition < s'.granted.length := by
      intro key acquisition given
      rw [entitled, Dict.get?_set] at given
      rw [granted, List.length_append, List.length_singleton]
      split at given
      · cases given
        omega
      · have := before.known key acquisition given
        omega
    refine ⟨?_, known⟩
    intro key
    rw [held, granted, entitled, Dict.get?_set, Dict.get?_set]
    split
    · simp
    · rw [before.held key]
      cases given : s.entitled.get? key with
      | none => rfl
      | some acquisition =>
        have earlier := before.known key acquisition given
        simp [List.getElem?_append_left earlier]
  | released key presented presents held granted entitled _ _ =>
    have together := released_together before (own key presented presents)
    rcases giveBack_cases s key presented with ⟨given, back⟩ | ⟨kept, back⟩
    · rw [if_pos (together.mpr given)] at held
      constructor
      · intro other
        rw [held, granted, entitled, back, Dict.get?_erase, Dict.get?_erase]
        split
        · rfl
        · exact before.held other
      · intro other acquisition
        rw [granted, entitled, back, Dict.get?_erase]
        split
        · intro absurd
          cases absurd
        · exact before.known other acquisition
    · rw [if_neg (fun freed => kept (together.mp freed))] at held
      constructor
      · intro other
        rw [held, granted, entitled, back]
        exact before.held other
      · intro other acquisition
        rw [granted, entitled, back]
        exact before.known other acquisition

variable [DecidableEq φ]

theorem leaseAcquire_none {s : State φ} {facade : φ} {entryId : PyObj}
    (refused : acquiredToken (s.leaseOutcome kinds facade entryId).1 = none) :
    s.leaseAcquire kinds facade entryId =
      { s with authority := (s.leaseOutcome kinds facade entryId).2 } := by
  unfold State.leaseAcquire
  dsimp only
  split
  · rename_i token busy authority eq
    rw [eq] at refused
    cases refused
  · exact afterAcquire_none s refused

theorem leaseAcquire_some {s : State φ} {facade : φ} {entryId : PyObj}
    {token : CollectorEndpointOperationToken}
    (handed : (s.leaseOutcome kinds facade entryId).1 = .ok ⟨some token, none⟩) :
    s.leaseAcquire kinds facade entryId =
      { s.grant (s.leaseOutcome kinds facade entryId).2 token with
        leases := Function.update s.leases facade
          ((s.leases facade).set token.entryId s.granted.length) } := by
  simp only [State.leaseAcquire, afterAcquire_some s handed]
  generalize s.leaseOutcome kinds facade entryId = outcome at handed ⊢
  obtain ⟨result, authority⟩ := outcome
  dsimp only at handed
  rw [handed]

theorem step_effect (s : State φ) (action : Action φ) :
    Effect kinds s action (step kinds s action) := by
  cases action with
  | acquire entryId kind ownerRef =>
    rcases s.authority.acquire_cases entryId kind ownerRef with
      ⟨refused, held⟩ | ⟨token, handed, free, held⟩
    · simp only [step, afterAcquire_none s refused]
      exact .quiet _ held rfl rfl refused rfl (by simp [adopted])
    · simp only [step, afterAcquire_some s handed]
      refine .granted _ token free held rfl rfl ?_ rfl
      rintro other (given | given)
      · simpa [acquired, handed, acquiredToken, eq_comm] using given
      · cases given
  | adopt entryId kind ownerRef =>
    rcases s.authority.adopt_cases entryId kind ownerRef with
      ⟨readopted, held⟩ | ⟨token, handed, free, held⟩
    · simp only [step, afterAdopt_shared s readopted]
      refine .quiet _ held rfl rfl rfl rfl ?_
      intro token given
      apply readopted
      simp only [adopted] at given
      split at given
      · rename_i answer eq
        rw [eq, given]
      · cases given
    · simp only [step, afterAdopt_some s handed free]
      refine .granted _ token free held rfl rfl ?_ rfl
      rintro other (given | given)
      · cases given
      · simpa [adopted, handed, eq_comm] using given
  | release entryId presented =>
    simp only [step, State.releaseWith]
    cases exact_key : exactNormalizedStr entryId with
    | none =>
      have unchanged : (s.authority.release entryId (s.tokenOf presented)).2 = s.authority := by
        simp [Authority.release, exact_key]
      exact .quiet _ (by rw [unchanged]) rfl rfl rfl (by simp [presents, exact_key])
        (by simp [adopted])
    | some key =>
      exact .released _ key presented (by simp [presents, exact_key])
        (s.authority.release_held exact_key _) rfl rfl rfl rfl
  | leaseAcquire facade entryId =>
    rcases leaseOutcome_cases kinds s facade entryId with
      ⟨refused, held⟩ | ⟨token, handed, free, held⟩
    · simp only [step, leaseAcquire_none kinds refused]
      exact .quiet _ held rfl rfl refused rfl (by simp [adopted])
    · simp only [step, leaseAcquire_some kinds handed]
      refine .granted _ token free held rfl rfl ?_ rfl
      rintro other (given | given)
      · simpa [acquired, handed, acquiredToken, eq_comm] using given
      · cases given
  | leaseRelease facade entryId =>
    cases entryId with
    | str key =>
      cases leased : (s.leases facade).get? key with
      | none =>
        simp only [step, State.leaseRelease, leased]
        exact .quiet _ rfl rfl rfl rfl (by simp [presents, leased]) (by simp [adopted])
      | some acquisition =>
        simp only [step, State.leaseRelease, leased, State.releaseWith]
        cases exact_key : exactNormalizedStr (.str key) with
        | none =>
          have unchanged : ∀ token, (s.authority.release (.str key) token).2 = s.authority := by
            intro token
            simp [Authority.release, exact_key]
          exact .quiet _ (by rw [unchanged]) rfl rfl rfl (by simp [presents, leased, exact_key])
            (by simp [adopted])
        | some entry =>
          exact .released _ entry (.granted acquisition) (by simp [presents, leased, exact_key])
            (s.authority.release_held exact_key _) rfl rfl rfl rfl
    | _ => exact .quiet _ rfl rfl rfl rfl rfl (by simp [adopted])

/-- While an acquisition has not been given back, no acquire on its entry succeeds, an adopt on
    it only with its kind and owner ref, and the entry stays held under its token unless this
    very call gives it back. -/
def Excludes (s : State φ) (action : Action φ) : Prop :=
  ∀ key acquisition, s.entitled.get? key = some acquisition →
    (∀ token, acquired kinds s action = some token → token.entryId ≠ key) ∧
    (∀ token, adopted s action = some token → token.entryId = key →
      s.granted[acquisition]? = some token) ∧
    ((step kinds s action).authority.held.get? key = s.granted[acquisition]? ∨
      presents s action = some (key, .granted acquisition))

/-- From a consistent state the exclusions hold for a call exactly when it presents no other
    token of the held value. -/
theorem excludes_iff_ownToken {s : State φ} (consistent : Consistent s) (action : Action φ) :
    Excludes kinds s action ↔ OwnToken s action := by
  have effect := step_effect kinds s action
  unfold Excludes OwnToken
  generalize step kinds s action = s' at effect
  cases effect with
  | quiet held granted entitled unacquired unpresented readopted =>
    constructor
    · intro _ key presented presents
      rw [unpresented] at presents
      cases presents
    · intro _ key acquisition entitled
      obtain ⟨token, granted, busy⟩ := consistent.holds entitled
      refine ⟨by simp [unacquired], ?_, Or.inl ?_⟩
      · intro other handed ours
        have shared := readopted other handed
        rw [ours, busy] at shared
        rw [granted, shared]
      · rw [held, granted, busy]
  | granted token free held granted entitled handed unpresented =>
    constructor
    · intro _ key presented presents
      rw [unpresented] at presents
      cases presents
    · intro _ key acquisition entitled
      obtain ⟨holding, granted, busy⟩ := consistent.holds entitled
      have elsewhere : token.entryId ≠ key := by
        intro ours
        rw [ours, busy] at free
        cases free
      refine ⟨?_, ?_, Or.inl ?_⟩
      · intro other acquired
        rw [handed other (Or.inl acquired)]
        exact elsewhere
      · intro other adopted ours
        rw [handed other (Or.inr adopted)] at ours
        exact absurd ours elsewhere
      · rw [held, granted, Dict.get?_set, if_neg (Ne.symm elsewhere), busy]
  | released key presented presents held granted entitled unacquired unadopted =>
    rw [presents]
    constructor
    · intro excludes other shown eq same busy
      cases eq
      rw [if_pos ⟨busy, same⟩] at held
      cases given : s.entitled.get? key with
      | none =>
        rw [consistent.held, given] at busy
        exact absurd rfl busy
      | some acquisition =>
        obtain ⟨token, granted, _⟩ := consistent.holds given
        rcases (excludes key acquisition given).2.2 with still | eq
        · rw [held, Dict.get?_erase, if_pos rfl, granted] at still
          cases still
        · cases eq
          rfl
    · intro own other acquisition holding
      obtain ⟨token, granted, busy⟩ := consistent.holds holding
      refine ⟨by simp [unacquired], by simp [unadopted], ?_⟩
      rw [held, granted]
      split
      · rename_i freed
        have given := own key presented rfl freed.2 freed.1
        by_cases ours : other = key
        · subst ours
          rw [holding, Option.map_some] at given
          exact Or.inr (by rw [Option.some.inj given])
        · rw [Dict.get?_erase, if_neg ours, busy]
          exact Or.inl rfl
      · exact Or.inl busy

/-- In every history of the authority and its facades, each call keeps to the exclusions
    exactly when each release presents its own acquisition's token. -/
theorem exclusive_history_iff (actions : List (Action φ)) :
    EveryStep (step kinds) (Excludes kinds) State.initial actions ↔
      EveryStep (step kinds) OwnToken State.initial actions := by
  have preserved : ∀ (s : State φ) action, Consistent s → OwnToken s action →
      Consistent (step kinds s action) := by
    intro s action consistent own
    exact (step_effect kinds s action).consistent kinds consistent own
  exact everyStep_iff_everyStep preserved
    (fun s action consistent => excludes_iff_ownToken kinds consistent action)
    initial_consistent actions

def repeatedCleanup : List (Action Unit) :=
  [.acquire (.str "entry_a") (.str "proxy_capture") (.str "route-1"),
    .release (.str "entry_a") (.granted 0),
    .acquire (.str "entry_a") (.str "proxy_capture") (.str "route-1"),
    .release (.str "entry_a") (.granted 0)]

theorem leftover_token_frees_later_acquisition :
    ¬ ∀ actions, EveryStep (step fun _ : Unit => .str "strategy_transition")
      (Excludes fun _ => .str "strategy_transition") State.initial actions := by
  intro always
  obtain ⟨_, _, _, last, _⟩ := always repeatedCleanup
  rcases (last "entry_a" 1 (by decide +kernel)).2.2 with still | own
  · revert still
    decide +kernel
  · revert own
    decide +kernel

end EndpointOperation
