import EybondLocal.CallbackMatching
import EybondLocal.Library.Representatives

/-!
The verdict on one callback attempt, taken apart: what refuses it before a session is looked at,
which sessions may answer it, and how it is decided among them.
-/
namespace CallbackMatching
open StripText PythonObject CollectorIdentity Representatives

/-- What `match_callback_answer` is given besides the sessions. -/
structure Attempt where
  baseline : List String := []
  resultPn : String := ""
  expectedPn : String := ""
  oldSessionId : String := ""
  triggersBefore : Option Int := none
  triggersAfter : Option Int := none
  expectedOwnTriggers : Int := 1

def SessionView.pn (view : SessionView) : String := view.collectorPn.cleanText

def strongSession (sessionId pn : String) : SessionView where
  sessionId := .str sessionId
  collectorPn := .str pn
  state := .str "identified_strong"
  hasStrongIdentity := .bool true

namespace Attempt
variable (attempt : Attempt)

def verdict (sessions : List SessionView) : CallbackMatch :=
  matchCallbackAnswer sessions attempt.baseline attempt.resultPn attempt.expectedPn
    attempt.oldSessionId attempt.triggersBefore attempt.triggersAfter attempt.expectedOwnTriggers

def admits (view : SessionView) : Bool := qualifies attempt.baseline attempt.oldSessionId view

def newcomers (sessions : List SessionView) : List SessionView := sessions.filter attempt.admits

def anchor : String := if attempt.expectedPn = "" then attempt.resultPn else attempt.expectedPn

/-- The attempt is judged on the sessions: its triggers are its own, and its probe reached the
    identity it was for. -/
def probed : Bool :=
  !interferes attempt.triggersBefore attempt.triggersAfter attempt.expectedOwnTriggers &&
    (attempt.expectedPn == "" || isSameIdentity attempt.expectedPn attempt.resultPn)

end Attempt

theorem isSameIdentity_comm (left right : String) :
    isSameIdentity left right = isSameIdentity right left := by
  unfold isSameIdentity
  by_cases emptyLeft : left = ""
  · simp [emptyLeft]
  by_cases emptyRight : right = ""
  · simp [emptyRight]
  by_cases equal : left = right
  · simp [equal]
  · simp [emptyLeft, emptyRight, equal, Ne.symm equal, pnIsSameIdentity_comm right left]

theorem isSameIdentity_self {pn : String} (nonempty : pn ≠ "") : isSameIdentity pn pn = true := by
  simp [isSameIdentity, nonempty]

theorem isSameIdentity_empty_left (right : String) : isSameIdentity "" right = false := by
  simp [isSameIdentity]

theorem isSameIdentity_empty_right (left : String) : isSameIdentity left "" = false := by
  simp [isSameIdentity]

theorem isSameIdentity_eq {left : String} (nonempty : strip left ≠ "") (right : String) :
    isSameIdentity left right = pnIsSameIdentity left right := by
  unfold isSameIdentity
  by_cases empty : left = "" ∨ right = ""
  · rw [if_pos empty]
    rcases empty with rfl | rfl
    · exact absurd (by decide : strip "" = "") nonempty
    · cases related : pnIsSameIdentity left "" with
      | false => rfl
      | true => exact absurd (by decide : strip "" = "") (pnIsSameIdentity_nonempty related).2
  · rw [if_neg empty]
    by_cases equal : left = right
    · rw [if_pos equal, ← equal, pnIsSameIdentity_self nonempty]
    · rw [if_neg equal]

section
variable {attempt : Attempt} {sessions : List SessionView}

theorem mem_newcomers {view : SessionView} :
    view ∈ attempt.newcomers sessions ↔ view ∈ sessions ∧ attempt.admits view = true :=
  List.mem_filter

theorem pn_of_admits {view : SessionView} (admitted : attempt.admits view = true) :
    view.pn ≠ "" := by
  unfold Attempt.admits qualifies at admitted
  simp only [Bool.and_eq_true, bne_iff_ne] at admitted
  exact admitted.2

theorem strip_pn (view : SessionView) : strip view.pn = view.pn := PyObj.strip_cleanText _

theorem freshSessions_eq (attempt : Attempt) (sessions : List SessionView) :
    freshSessions sessions attempt.baseline attempt.oldSessionId =
      (attempt.newcomers sessions).map fun view => (view.sessionId.cleanText, view.pn) := rfl

theorem distinctIdentities_eq_scan {pns : List String} (nonempty : ∀ pn ∈ pns, pn ≠ "") :
    distinctIdentities pns = scan isSameIdentity pns := by
  unfold distinctIdentities scan
  apply List.foldl_ext
  intro kept pn member
  rw [if_neg (nonempty pn member)]
  rfl

/-- The scan over the newcomers keeps one identity exactly when the first one is the identity of
    all. -/
theorem distinct_one_iff {first : SessionView} {rest : List SessionView}
    (shape : attempt.newcomers sessions = first :: rest) :
    (distinctIdentities ((attempt.newcomers sessions).map SessionView.pn)).length ≤ 1 ↔
      ∀ view ∈ attempt.newcomers sessions, isSameIdentity first.pn view.pn = true := by
  have admitted : ∀ view ∈ first :: rest, attempt.admits view = true := by
    intro view member
    rw [← shape] at member
    exact (mem_newcomers.mp member).2
  have nonempty : ∀ pn ∈ (first :: rest).map SessionView.pn, pn ≠ "" := by
    intro pn member
    obtain ⟨view, among, rfl⟩ := List.mem_map.mp member
    exact pn_of_admits (admitted view among)
  rw [shape, distinctIdentities_eq_scan nonempty, List.map_cons, scan_one_iff,
    List.forall_mem_cons]
  have self := isSameIdentity_self (pn_of_admits (admitted first List.mem_cons_self))
  simp [self]

end

namespace Attempt
variable {attempt : Attempt}

theorem verdict_of_not_probed (refused : attempt.probed = false) :
    ∃ result, result ≠ .ok ∧ ∀ sessions, attempt.verdict sessions = { result := result } := by
  unfold verdict matchCallbackAnswer
  by_cases foreign : interferes attempt.triggersBefore attempt.triggersAfter
      attempt.expectedOwnTriggers = true
  · exact ⟨.triggerInterference, by decide, fun sessions => if_pos foreign⟩
  · simp only [probed, Bool.eq_false_iff.mpr foreign, Bool.not_false, Bool.true_and,
      Bool.or_eq_false_iff, beq_eq_false_iff_ne] at refused
    by_cases unanswered : attempt.resultPn = ""
    · refine ⟨.timeout, by decide, fun sessions => ?_⟩
      rw [if_neg foreign, if_pos ⟨refused.1, unanswered⟩]
    · refine ⟨.identityMismatch, by decide, fun sessions => ?_⟩
      rw [if_neg foreign, if_neg (fun h => unanswered h.2), if_pos refused]

def decided (attempt : Attempt) (newcomers : List SessionView) : CallbackMatch :=
  if newcomers = [] then { result := .timeout }
  else if 1 < (distinctIdentities (newcomers.map SessionView.pn)).length then
    { result := .identityAmbiguous }
  else
    match newcomers.find? fun view => isSameIdentity attempt.anchor view.pn with
    | some view =>
      { result := .ok, sessionId := view.sessionId.cleanText, collectorPn := view.pn }
    | none => { result := .identityMismatch }

theorem verdict_of_probed (probed : attempt.probed = true) (sessions : List SessionView) :
    attempt.verdict sessions = attempt.decided (attempt.newcomers sessions) := by
  simp only [Attempt.probed, Bool.and_eq_true, Bool.not_eq_true', Bool.or_eq_true,
    beq_iff_eq] at probed
  obtain ⟨own, reached⟩ := probed
  have answered : ¬ (attempt.expectedPn ≠ "" ∧ attempt.resultPn = "") := by
    rintro ⟨expected, unanswered⟩
    rw [unanswered, isSameIdentity_empty_right] at reached
    simp [expected] at reached
  have same : ¬ (attempt.expectedPn ≠ "" ∧
      isSameIdentity attempt.expectedPn attempt.resultPn = false) := by
    rintro ⟨expected, apart⟩
    rw [apart] at reached
    simp [expected] at reached
  unfold verdict matchCallbackAnswer decided
  rw [if_neg (by rw [own]; simp), if_neg answered, if_neg same, freshSessions_eq]
  dsimp only
  by_cases nobody : attempt.newcomers sessions = []
  · simp [nobody]
  rw [if_neg (by simpa using nobody), if_neg nobody, List.map_map]
  have pns : (Prod.snd ∘ fun view : SessionView => (view.sessionId.cleanText, view.pn)) =
      SessionView.pn := rfl
  rw [pns]
  by_cases several : 1 < (distinctIdentities ((attempt.newcomers sessions).map SessionView.pn)).length
  · rw [if_pos several, if_pos several]
  rw [if_neg several, if_neg several, List.find?_map]
  change (if attempt.anchor = "" then _ else _) = _
  by_cases nothing : attempt.anchor = ""
  · have unmatched : (attempt.newcomers sessions).find?
        (fun view => isSameIdentity attempt.anchor view.pn) = none := by
      rw [List.find?_eq_none]
      intro view _
      rw [nothing, isSameIdentity_empty_left]
      exact Bool.false_ne_true
    rw [if_pos nothing, unmatched]
  · have shown : (fun session : String × String => isSameIdentity attempt.anchor session.2) ∘
        (fun view : SessionView => (view.sessionId.cleanText, view.pn)) =
          fun view => isSameIdentity attempt.anchor view.pn := rfl
    rw [if_neg nothing]
    change (match Option.map _ ((attempt.newcomers sessions).find? ((fun session : String × String =>
      isSameIdentity attempt.anchor session.2) ∘ _)) with
      | some (sessionId, collectorPn) => CallbackMatch.mk .ok sessionId collectorPn
      | none => { result := .identityMismatch }) = _
    rw [shown]
    cases (attempt.newcomers sessions).find? fun view => isSameIdentity attempt.anchor view.pn with
    | none => rfl
    | some view => rfl

end Attempt
end CallbackMatching
