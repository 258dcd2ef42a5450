import EybondLocal.CallbackMatching.Verdict

/-!
Ambiguity between the sessions that answered one attempt. The scan over their identities starts
from whichever session comes first; where one of them carries a common beginning of PNs that
differ, that start decides the verdict.
-/
namespace CallbackMatching.Attempt
open CallbackMatching

/-- Two newcomers of different identities never confirm, and the order of the sessions does not
    matter to the result. -/
def FailsClosed (attempt : Attempt) (sessions : List SessionView) : Prop :=
  (∀ view ∈ attempt.newcomers sessions, ∀ other ∈ attempt.newcomers sessions,
    isSameIdentity view.pn other.pn = false → (attempt.verdict sessions).confirmed = false) ∧
  ∀ reordered : List SessionView, reordered.Perm sessions →
    (attempt.verdict reordered).result = (attempt.verdict sessions).result

/-- Two newcomers have different identities, and one is the identity of every newcomer. -/
def Bridged (attempt : Attempt) (sessions : List SessionView) : Prop :=
  (∃ view ∈ attempt.newcomers sessions, ∃ other ∈ attempt.newcomers sessions,
    isSameIdentity view.pn other.pn = false) ∧
  ∃ bridge ∈ attempt.newcomers sessions, ∀ view ∈ attempt.newcomers sessions,
    isSameIdentity bridge.pn view.pn = true

section
variable {attempt : Attempt} {sessions reordered : List SessionView}

theorem newcomers_perm (order : reordered.Perm sessions) :
    (attempt.newcomers reordered).Perm (attempt.newcomers sessions) :=
  order.filter _

theorem newcomer_first {view : SessionView} (member : view ∈ attempt.newcomers sessions) :
    ∃ reordered : List SessionView, reordered.Perm sessions ∧
      ∃ rest, attempt.newcomers reordered = view :: rest := by
  obtain ⟨listed, admitted⟩ := mem_newcomers.mp member
  obtain ⟨earlier, later, split⟩ := List.append_of_mem listed
  refine ⟨view :: (earlier ++ later), ?_, (earlier ++ later).filter attempt.admits, ?_⟩
  · rw [split]
    exact List.perm_middle.symm
  · unfold newcomers
    rw [List.filter_cons, if_pos admitted]

theorem ambiguous_iff (probed : attempt.probed = true) {first : SessionView}
    {rest : List SessionView} (shape : attempt.newcomers sessions = first :: rest) :
    (attempt.verdict sessions).result = .identityAmbiguous ↔
      ∃ view ∈ attempt.newcomers sessions, isSameIdentity first.pn view.pn = false := by
  have one := distinct_one_iff shape
  have some_newcomer : attempt.newcomers sessions ≠ [] := by
    rw [shape]
    exact List.cons_ne_nil _ _
  rw [verdict_of_probed probed, decided, if_neg some_newcomer]
  by_cases several :
      1 < (distinctIdentities ((attempt.newcomers sessions).map SessionView.pn)).length
  · rw [if_pos several]
    simp only [true_iff]
    by_contra alike
    have bounded := one.mpr fun view member => by
      by_contra apart
      exact alike ⟨view, member, Bool.eq_false_iff.mpr apart⟩
    omega
  · have alike := one.mp (by omega)
    rw [if_neg several]
    constructor
    · intro ambiguous
      cases found : (attempt.newcomers sessions).find? fun view =>
          isSameIdentity attempt.anchor view.pn with
      | none =>
        rw [found] at ambiguous
        cases ambiguous
      | some view =>
        rw [found] at ambiguous
        cases ambiguous
    · rintro ⟨view, member, apart⟩
      rw [alike view member] at apart
      cases apart

/-- Where all newcomers are one identity, the verdict asks only whether one is the anchor's. -/
theorem result_of_alike (probed : attempt.probed = true)
    (alike : ∀ view ∈ attempt.newcomers sessions, ∀ other ∈ attempt.newcomers sessions,
      isSameIdentity view.pn other.pn = true) :
    (attempt.verdict sessions).result =
      if attempt.newcomers sessions = [] then .timeout
      else if (attempt.newcomers sessions).any (isSameIdentity attempt.anchor ·.pn) then .ok
      else .identityMismatch := by
  rw [verdict_of_probed probed, decided]
  by_cases nobody : attempt.newcomers sessions = []
  · rw [if_pos nobody, if_pos nobody]
  · obtain ⟨first, rest, shape⟩ := List.exists_cons_of_ne_nil nobody
    have one := (distinct_one_iff shape).mpr fun view member =>
      alike first (by rw [shape]; exact List.mem_cons_self) view member
    rw [if_neg nobody, if_neg nobody, if_neg (by omega)]
    cases found : (attempt.newcomers sessions).find? fun view =>
        isSameIdentity attempt.anchor view.pn with
    | none =>
      have unmatched := List.find?_eq_none.mp found
      rw [if_neg]
      simpa using unmatched
    | some view =>
      rw [if_pos]
      exact List.any_eq_true.mpr ⟨view, List.mem_of_find?_eq_some found,
        by simpa using List.find?_some found⟩

theorem not_confirmed_of_result {verdict : CallbackMatch} (other : verdict.result ≠ .ok) :
    verdict.confirmed = false := by
  simp [CallbackMatch.confirmed, other]

theorem failsClosed_of_not_probed (refused : attempt.probed = false) :
    attempt.FailsClosed sessions := by
  obtain ⟨result, other, constant⟩ := verdict_of_not_probed refused
  constructor
  · intro view _ other' _ _
    exact not_confirmed_of_result (by rw [constant]; exact other)
  · intro reordered _
    rw [constant, constant]

theorem failsClosed_of_alike (probed : attempt.probed = true)
    (alike : ∀ view ∈ attempt.newcomers sessions, ∀ other ∈ attempt.newcomers sessions,
      isSameIdentity view.pn other.pn = true) : attempt.FailsClosed sessions := by
  constructor
  · intro view member other member' apart
    rw [alike view member other member'] at apart
    cases apart
  · intro reordered order
    have same : (attempt.newcomers reordered).Perm (attempt.newcomers sessions) :=
      newcomers_perm order
    have alike' : ∀ view ∈ attempt.newcomers reordered, ∀ other ∈ attempt.newcomers reordered,
        isSameIdentity view.pn other.pn = true := by
      intro view member other member'
      exact alike view (same.subset member) other (same.subset member')
    rw [result_of_alike probed alike, result_of_alike probed alike', same.any_eq]
    have empty : attempt.newcomers reordered = [] ↔ attempt.newcomers sessions = [] := by
      constructor
      · intro nobody
        exact List.nil_perm.mp (nobody ▸ same)
      · intro nobody
        exact List.perm_nil.mp (nobody ▸ same)
    simp only [empty]

theorem failsClosed_of_apart (probed : attempt.probed = true)
    (apart : ∃ view ∈ attempt.newcomers sessions, ∃ other ∈ attempt.newcomers sessions,
      isSameIdentity view.pn other.pn = false)
    (unbridged : ¬ ∃ bridge ∈ attempt.newcomers sessions, ∀ view ∈ attempt.newcomers sessions,
      isSameIdentity bridge.pn view.pn = true) : attempt.FailsClosed sessions := by
  have ambiguous : ∀ reordered : List SessionView, reordered.Perm sessions →
      (attempt.verdict reordered).result = .identityAmbiguous := by
    intro reordered order
    have same : (attempt.newcomers reordered).Perm (attempt.newcomers sessions) :=
      newcomers_perm order
    cases shape : attempt.newcomers reordered with
    | nil =>
      obtain ⟨view, member, _⟩ := apart
      have listed := same.symm.subset member
      rw [shape] at listed
      cases listed
    | cons first rest =>
      apply (ambiguous_iff probed shape).mpr
      by_contra alike
      apply unbridged
      refine ⟨first, same.subset (by rw [shape]; exact List.mem_cons_self), ?_⟩
      intro view member
      by_contra different
      exact alike ⟨view, same.symm.subset member, Bool.eq_false_iff.mpr different⟩
  constructor
  · intro view _ other _ _
    apply not_confirmed_of_result
    rw [ambiguous sessions (List.Perm.refl _)]
    decide
  · intro reordered order
    rw [ambiguous reordered order, ambiguous sessions (List.Perm.refl _)]

theorem not_failsClosed_of_bridged (probed : attempt.probed = true)
    (bridged : attempt.Bridged sessions) : ¬ attempt.FailsClosed sessions := by
  rintro ⟨_, ordered⟩
  obtain ⟨⟨view, member, other, member', apart⟩, bridge, among, all⟩ := bridged
  obtain ⟨reordered, order, rest, shape⟩ := newcomer_first member
  obtain ⟨bridgeFirst, orderBridge, restBridge, shapeBridge⟩ := newcomer_first among
  have ambiguous := (ambiguous_iff probed shape).mpr
    ⟨other, (newcomers_perm order).symm.subset member', apart⟩
  have confirmed : (attempt.verdict bridgeFirst).result ≠ .identityAmbiguous := by
    intro result
    obtain ⟨view', listed, different⟩ := (ambiguous_iff probed shapeBridge).mp result
    rw [all view' ((newcomers_perm orderBridge).subset listed)] at different
    cases different
  rw [ordered bridgeFirst orderBridge, ← ordered reordered order] at confirmed
  exact confirmed ambiguous

end

/-- The verdict fails closed on ambiguity, in every order of the sessions, exactly where no
    newcomer is the identity of all while two others differ. -/
theorem failsClosed_iff (attempt : Attempt) (sessions : List SessionView) :
    attempt.FailsClosed sessions ↔ ¬ (attempt.probed = true ∧ attempt.Bridged sessions) := by
  constructor
  · rintro closed ⟨probed, bridged⟩
    exact not_failsClosed_of_bridged probed bridged closed
  · intro held
    cases probed : attempt.probed with
    | false => exact failsClosed_of_not_probed probed
    | true =>
      by_cases apart : ∃ view ∈ attempt.newcomers sessions, ∃ other ∈ attempt.newcomers sessions,
          isSameIdentity view.pn other.pn = false
      · exact failsClosed_of_apart probed apart fun bridge => held ⟨probed, apart, bridge⟩
      · apply failsClosed_of_alike probed
        intro view member other member'
        by_contra different
        exact apart ⟨view, member, other, member', Bool.eq_false_iff.mpr different⟩

def shortAndTwoFull : List SessionView :=
  [strongSession "s1" "Q0123456789", strongSession "s2" "Q0123456789ABC",
    strongSession "s3" "Q0123456789XYZ"]

theorem shortAndTwoFull_confirmed :
    ¬ ({ resultPn := "Q0123456789ABC" } : Attempt).FailsClosed shortAndTwoFull := by
  rintro ⟨closed, _⟩
  have newcomers : ({ resultPn := "Q0123456789ABC" } : Attempt).newcomers shortAndTwoFull =
      shortAndTwoFull := List.filter_eq_self.mpr (by decide +kernel)
  have confirmed :
      (({ resultPn := "Q0123456789ABC" } : Attempt).verdict shortAndTwoFull).confirmed = true := by
    decide +kernel
  have refused := closed (strongSession "s2" "Q0123456789ABC")
    (by rw [newcomers]; simp [shortAndTwoFull]) (strongSession "s3" "Q0123456789XYZ")
    (by rw [newcomers]; simp [shortAndTwoFull]) (by decide +kernel)
  rw [confirmed] at refused
  cases refused

end CallbackMatching.Attempt
