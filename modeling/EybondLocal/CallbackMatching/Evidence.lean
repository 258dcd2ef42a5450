import EybondLocal.CallbackMatching.Verdict

/-!
What a confirmed verdict says of the session it binds. An expected PN is compared with the probe's
own result and with the session, and the two of them are not compared with each other.
-/
namespace CallbackMatching
open StripText PythonObject CollectorIdentity PrefixIdentity

def SessionView.live (view : SessionView) : Bool :=
  !(startsWith (lower view.state.cleanText) "closed" ||
    lower view.state.cleanText == "route_identity_mismatch")

def divergeAfter (common left right : String) : Bool :=
  decide (callbackPnPrefixMatchMinLen ≤ (strip common).length) &&
    startsWith (strip left) (strip common) && startsWith (strip right) (strip common) &&
    !startsWith (strip left) (strip right) && !startsWith (strip right) (strip left)

namespace Attempt
variable (attempt : Attempt) (sessions : List SessionView)

/-- A confirmed verdict binds a new, live and strong session of the list, within the attempt's own
    triggers, that carries the identity the probe reached and the one it was for. -/
def BindsOwn : Prop :=
  (attempt.verdict sessions).confirmed = true →
    (∃ view ∈ sessions, view.sessionId.cleanText = (attempt.verdict sessions).sessionId ∧
      view.pn = (attempt.verdict sessions).collectorPn ∧ view.live = true ∧
      view.hasStrongIdentity.truthy = true) ∧
    (attempt.verdict sessions).sessionId ∉ attempt.baseline ∧
    (attempt.verdict sessions).sessionId ≠ attempt.oldSessionId ∧
    (∀ before after, attempt.triggersBefore = some before → attempt.triggersAfter = some after →
      after - before = max 0 attempt.expectedOwnTriggers) ∧
    isSameIdentity (attempt.verdict sessions).collectorPn attempt.resultPn = true ∧
    (attempt.expectedPn ≠ "" →
      isSameIdentity (attempt.verdict sessions).collectorPn attempt.expectedPn = true)

/-- All newcomers pass for one identity, and the first of the expected identity completes the
    expected PN otherwise than the probe's result does. -/
def Misled : Prop :=
  attempt.probed = true ∧ attempt.expectedPn ≠ "" ∧
    (∃ first, (attempt.newcomers sessions).head? = some first ∧
      ∀ view ∈ attempt.newcomers sessions, isSameIdentity first.pn view.pn = true) ∧
    ∃ answer, (attempt.newcomers sessions).find? (isSameIdentity attempt.expectedPn ·.pn) =
        some answer ∧ divergeAfter attempt.expectedPn attempt.resultPn answer.pn = true

end Attempt

/-- Of two PNs that both are the identity of a third, the ones that are not each other's are those
    that diverge after it. -/
theorem not_same_iff_diverge {common left right : String}
    (hl : pnIsSameIdentity common left = true) (hr : pnIsSameIdentity common right = true) :
    pnIsSameIdentity right left = false ↔ divergeAfter common left right = true := by
  rw [pnIsSameIdentity_comm, pnIsSameIdentity_iff] at hl hr
  have apart := incompatible_relatives_iff (by decide) hl hr
  rw [pnIsSameIdentity_comm, Bool.eq_false_iff, ne_eq, pnIsSameIdentity_iff]
  unfold divergeAfter
  simp only [Bool.and_eq_true, decide_eq_true_eq, Bool.not_eq_true', Bool.eq_false_iff, ne_eq,
    startsWith_iff]
  rw [String.length_toList] at apart
  constructor
  · intro different
    obtain ⟨long, beginsLeft, beginsRight, notBegins, notBegins'⟩ := apart.mp different
    exact ⟨⟨⟨⟨long, beginsLeft⟩, beginsRight⟩, notBegins'⟩, notBegins⟩
  · rintro ⟨⟨⟨⟨long, beginsLeft⟩, beginsRight⟩, notBegins'⟩, notBegins⟩
    exact apart.mpr ⟨long, beginsLeft, beginsRight, notBegins, notBegins'⟩

namespace Attempt
variable {attempt : Attempt} {sessions : List SessionView}

theorem verdict_of_answer {view : SessionView} (probed : attempt.probed = true)
    (alike : ∃ first, (attempt.newcomers sessions).head? = some first ∧
      ∀ other ∈ attempt.newcomers sessions, isSameIdentity first.pn other.pn = true)
    (found : (attempt.newcomers sessions).find? (isSameIdentity attempt.anchor ·.pn) = some view) :
    attempt.verdict sessions =
      { result := .ok, sessionId := view.sessionId.cleanText, collectorPn := view.pn } := by
  obtain ⟨first, head, alike⟩ := alike
  obtain ⟨rest, shape⟩ := List.head?_eq_some_iff.mp head
  have one := (distinct_one_iff shape).mpr alike
  rw [verdict_of_probed probed, decided, if_neg (by rw [shape]; exact List.cons_ne_nil _ _),
    if_neg (by omega), found]

theorem confirmed_cases (confirmed : (attempt.verdict sessions).confirmed = true) :
    attempt.probed = true ∧
      (∃ first, (attempt.newcomers sessions).head? = some first ∧
        ∀ other ∈ attempt.newcomers sessions, isSameIdentity first.pn other.pn = true) ∧
      ∃ view, (attempt.newcomers sessions).find? (isSameIdentity attempt.anchor ·.pn) =
          some view ∧
        attempt.verdict sessions =
          { result := .ok, sessionId := view.sessionId.cleanText, collectorPn := view.pn } := by
  have ok : (attempt.verdict sessions).result = .ok := by
    simp only [CallbackMatch.confirmed, Bool.and_eq_true, beq_iff_eq] at confirmed
    exact confirmed.1
  cases probed : attempt.probed with
  | false =>
    obtain ⟨result, other, constant⟩ := verdict_of_not_probed probed
    rw [constant] at ok
    exact absurd ok other
  | true =>
    have answer := verdict_of_probed probed sessions
    rw [answer, decided] at ok
    split at ok
    · cases ok
    · rename_i nonempty
      split at ok
      · cases ok
      · rename_i alone
        obtain ⟨first, rest, shape⟩ := List.exists_cons_of_ne_nil nonempty
        have alike := (distinct_one_iff shape).mp (by omega)
        have head : (attempt.newcomers sessions).head? = some first := by rw [shape]; rfl
        cases found : (attempt.newcomers sessions).find? (isSameIdentity attempt.anchor ·.pn) with
        | none =>
          rw [found] at ok
          cases ok
        | some view =>
          exact ⟨rfl, ⟨first, head, alike⟩, view, rfl,
            verdict_of_answer probed ⟨first, head, alike⟩ found⟩

theorem admits_cases {view : SessionView} (admitted : attempt.admits view = true) :
    view.sessionId.cleanText ∉ attempt.baseline ∧
      view.sessionId.cleanText ≠ attempt.oldSessionId ∧ view.live = true ∧
      view.hasStrongIdentity.truthy = true := by
  unfold admits qualifies at admitted
  simp only [Bool.and_eq_true, bne_iff_ne, ne_eq, Bool.not_eq_true', Bool.and_eq_false_iff,
    beq_eq_false_iff_ne, bne_eq_false_iff_eq] at admitted
  obtain ⟨⟨⟨⟨⟨named, fresh⟩, notOld⟩, live⟩, strong⟩, _⟩ := admitted
  refine ⟨?_, ?_, ?_, strong⟩
  · intro known
    rw [List.contains_iff_mem.mpr known] at fresh
    cases fresh
  · intro old
    rcases notOld with unnamed | other
    · exact named (old.trans unnamed)
    · exact other old
  · simp only [SessionView.live, live, Bool.not_false]

theorem own_triggers (probed : attempt.probed = true) (before after : Int)
    (given : attempt.triggersBefore = some before) (given' : attempt.triggersAfter = some after) :
    after - before = max 0 attempt.expectedOwnTriggers := by
  simp only [Attempt.probed, Bool.and_eq_true, Bool.not_eq_true'] at probed
  have own := probed.1
  rw [given, given'] at own
  simpa [interferes] using own

theorem same_as_result_iff {view : SessionView} (probed : attempt.probed = true)
    (expected : attempt.expectedPn ≠ "") (admitted : attempt.admits view = true)
    (matched : isSameIdentity attempt.expectedPn view.pn = true) :
    isSameIdentity view.pn attempt.resultPn = true ↔
      divergeAfter attempt.expectedPn attempt.resultPn view.pn = false := by
  have trimmed := strip_pn view
  have nonempty := pn_of_admits admitted
  have durable : strip attempt.expectedPn ≠ "" := by
    intro blank
    by_cases equal : attempt.expectedPn = view.pn
    · rw [equal, trimmed] at blank
      exact nonempty blank
    · rw [isSameIdentity, if_neg (by simp [expected, nonempty]), if_neg equal] at matched
      exact (pnIsSameIdentity_nonempty matched).1 blank
  simp only [Attempt.probed, Bool.and_eq_true, Bool.or_eq_true, beq_iff_eq] at probed
  have reached := probed.2.resolve_left expected
  rw [isSameIdentity_eq durable] at matched reached
  rw [isSameIdentity_eq (by rw [trimmed]; exact nonempty)]
  have apart := not_same_iff_diverge reached matched
  cases diverges : divergeAfter attempt.expectedPn attempt.resultPn view.pn with
  | false =>
    rw [diverges] at apart
    simpa using apart
  | true =>
    rw [diverges] at apart
    simpa using apart

/-- A confirmed verdict binds what the attempt's own probe reached exactly where the expected PN
    does not hide that the session and the probe's result diverge. -/
theorem bindsOwn_iff (attempt : Attempt) (sessions : List SessionView) :
    attempt.BindsOwn sessions ↔ ¬ attempt.Misled sessions := by
  constructor
  · rintro binds ⟨probed, expected, alike, answer, found, diverges⟩
    have anchor : attempt.anchor = attempt.expectedPn := if_neg expected
    have verdict := verdict_of_answer probed alike (by rw [anchor]; exact found)
    have admitted := (mem_newcomers.mp (List.mem_of_find?_eq_some found)).2
    have confirmed : (attempt.verdict sessions).confirmed = true := by
      rw [verdict]
      simp [CallbackMatch.confirmed, pn_of_admits admitted]
    obtain ⟨_, _, _, _, same, _⟩ := binds confirmed
    rw [verdict] at same
    have matched := List.find?_some found
    have agrees := (same_as_result_iff probed expected admitted matched).mp same
    rw [agrees] at diverges
    cases diverges
  · intro held confirmed
    obtain ⟨probed, alike, view, found, verdict⟩ := confirmed_cases confirmed
    obtain ⟨listed, admitted⟩ := mem_newcomers.mp (List.mem_of_find?_eq_some found)
    obtain ⟨fresh, notOld, live, strong⟩ := admits_cases admitted
    have matched := List.find?_some found
    rw [verdict]
    refine ⟨⟨view, listed, rfl, rfl, live, strong⟩, fresh, notOld, own_triggers probed, ?_, ?_⟩
    · by_cases expected : attempt.expectedPn = ""
      · rw [anchor, if_pos expected] at matched
        rw [isSameIdentity_comm]
        exact matched
      · rw [anchor, if_neg expected] at matched found
        apply (same_as_result_iff probed expected admitted matched).mpr
        by_contra diverges
        exact held ⟨probed, expected, alike, view, found, by simpa using diverges⟩
    · intro expected
      rw [anchor, if_neg expected] at matched
      rw [isSameIdentity_comm]
      exact matched

def foreignAnswer : Attempt where
  resultPn := "Q0123456789ABC"
  expectedPn := "Q0123456789"

theorem foreignAnswer_bound :
    ¬ foreignAnswer.BindsOwn [strongSession "s1" "Q0123456789XYZ"] := by
  intro binds
  obtain ⟨_, _, _, _, same, _⟩ := binds (by decide +kernel)
  have apart : isSameIdentity
      (foreignAnswer.verdict [strongSession "s1" "Q0123456789XYZ"]).collectorPn
      foreignAnswer.resultPn = false := by
    decide +kernel
  rw [apart] at same
  cases same

end Attempt
end CallbackMatching
