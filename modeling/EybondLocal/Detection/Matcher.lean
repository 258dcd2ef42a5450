import EybondLocal.Detection.Anchor

/-!
The five matchers of a signature: a signature is the matter of one of them, and its answer is the
answer of all.
-/
namespace Detection
open StripText PythonText JoinedText

variable {F : Type} {r : Runtime F}

theorem afterStart_of_head {start s : String} {c : Char} (starts : start.toList.head? = some c)
    (other : s.toList.head? ≠ some c) : afterStart start s = none := by
  have refused : startsWith s start = false := by
    by_contra starting
    rw [Bool.not_eq_false, startsWith_iff] at starting
    apply other
    obtain ⟨rest, eq⟩ := starting
    rw [← eq, List.head?_append, starts]
    rfl
  rw [afterStart, if_neg (by rw [refused]; simp)]

theorem head_append {start : String} {c : Char} (starts : start.toList.head? = some c) (s : String) :
    (start ++ s).toList.head? = some c := by
  rw [String.toList_append, List.head?_append, starts]
  rfl

theorem ne_of_head {start s : String} {c : Char} (starts : start.toList.head? = some c)
    (other : s.toList.head? ≠ some c) : start ≠ s := by
  rintro rfl
  exact other starts

def Matcher.heads : Matcher → List Char
  | .equalsValue => ['e']
  | .rangeContainsValue => ['r']
  | .oneOfContainsValue => ['o']
  | .containsAny => ['c']
  | .knownOrPresent => ['k', 'p']

theorem matches_of_other_head {matcher : Matcher} {signature : String} {value : Value F}
    (other : ∀ c ∈ matcher.heads, signature.toList.head? ≠ some c) :
    matcher.matches r signature value = .ok false := by
  cases matcher with
  | equalsValue =>
    have apart := afterStart_of_head (rfl : "equals:".toList.head? = some 'e') (other 'e' (by decide))
    simp only [Matcher.matches, signatureEqualsValue, apart, Option.any_none]
  | rangeContainsValue =>
    have apart := afterStart_of_head (rfl : "range:".toList.head? = some 'r') (other 'r' (by decide))
    simp only [Matcher.matches, signatureRangeContainsValue, apart]
  | oneOfContainsValue =>
    have apart := afterStart_of_head (rfl : "one_of:".toList.head? = some 'o') (other 'o' (by decide))
    simp only [Matcher.matches, signatureOneOfContainsValue, apart, Option.any_none]
  | containsAny =>
    have apart := afterStart_of_head (rfl : "contains_any:".toList.head? = some 'c')
      (other 'c' (by decide))
    simp only [Matcher.matches, signatureContainsAny, apart, Option.any_none]
  | knownOrPresent =>
    have known : signature ≠ "known_enum" := by
      rintro rfl
      exact other 'k' (by decide) rfl
    have present : signature ≠ "present" := by
      rintro rfl
      exact other 'p' (by decide) rfl
    simp only [Matcher.matches, signatureKnownOrPresent, if_neg known, if_neg present]

theorem mem_matchers (matcher : Matcher) : matcher ∈ matchers := by
  cases matcher <;> decide

theorem heads_apart : ∀ a b : Matcher, a ≠ b → ∀ c ∈ a.heads, c ∉ b.heads := by
  intro a b
  cases a <;> cases b <;> simp [Matcher.heads]

theorem matches_of_matches {matcher other : Matcher} {signature : String} {value : Value F}
    (accepted : matcher.matches r signature value ≠ .ok false) (apart : other ≠ matcher) :
    other.matches r signature value = .ok false := by
  apply matches_of_other_head
  intro c mine head
  apply accepted
  apply matches_of_other_head
  intro d theirs same
  rw [head] at same
  cases same
  exact heads_apart other matcher apart c mine theirs

theorem anyMatch_of_matches {matcher : Matcher} {signature : String} {value : Value F}
    {answer : Except EvidenceError Bool} (own : matcher.matches r signature value = answer)
    (said : answer ≠ .ok false) {order : List Matcher} (member : matcher ∈ order) :
    anyMatch r signature value order = answer := by
  induction order with
  | nil => cases member
  | cons first rest ih =>
    rw [anyMatch]
    by_cases here : first = matcher
    · rw [here, own]
      match answer, said with
      | .error error, _ => rfl
      | .ok true, _ => rfl
      | .ok false, said => exact absurd rfl said
    · rw [matches_of_matches (by rw [own]; exact said) here]
      exact ih ((List.mem_cons.mp member).resolve_left (Ne.symm here))

theorem signatureMatches_of_matches {matcher : Matcher} {signature : String} {value : Value F}
    (accepted : matcher.matches r signature value = .ok true) :
    signatureMatchesValue r signature value = .ok true :=
  anyMatch_of_matches accepted nofun (mem_matchers matcher)

theorem matches_of_anyMatch {signature : String} {value : Value F} {order : List Matcher}
    (accepted : anyMatch r signature value order = .ok true) :
    ∃ matcher ∈ order, matcher.matches r signature value = .ok true := by
  induction order with
  | nil => cases accepted
  | cons first rest ih =>
    rw [anyMatch] at accepted
    cases answer : first.matches r signature value with
    | error error => simp [answer] at accepted
    | ok b =>
      cases b with
      | true => exact ⟨first, List.mem_cons_self, answer⟩
      | false =>
        rw [answer] at accepted
        obtain ⟨matcher, member, found⟩ := ih accepted
        exact ⟨matcher, List.mem_cons_of_mem _ member, found⟩

theorem missing_unmatched (matcher : Matcher) (value : Value F) :
    matcher.matches r "missing" value = .ok false := by
  apply matches_of_other_head
  have head : "missing".toList.head? = some 'm' := rfl
  rw [head]
  cases matcher <;> simp [Matcher.heads]

theorem anyMatch_of_no_match {signature : String} {value : Value F} {order : List Matcher}
    (refused : ∀ matcher ∈ order, matcher.matches r signature value = .ok false) :
    anyMatch r signature value order = .ok false := by
  induction order with
  | nil => rfl
  | cons first rest ih =>
    rw [anyMatch, refused first List.mem_cons_self]
    exact ih fun matcher member => refused matcher (List.mem_cons_of_mem _ member)

theorem signatureMatches_of_head {signature : String} {c : Char}
    (head : signature.toList.head? = some c) (matcher : Matcher) (mine : c ∈ matcher.heads)
    (value : Value F) :
    signatureMatchesValue r signature value = matcher.matches r signature value := by
  by_cases refused : matcher.matches r signature value = .ok false
  · rw [refused]
    apply anyMatch_of_no_match
    intro other _
    by_cases same : other = matcher
    · rw [same, refused]
    · apply matches_of_other_head
      intro d theirs begins
      rw [head] at begins
      cases begins
      exact heads_apart other matcher same c theirs mine
  · exact anyMatch_of_matches rfl refused (mem_matchers matcher)

theorem signatureMatches_equals (text : String) (value : Value F) :
    signatureMatchesValue r ("equals:" ++ text) value =
      .ok (decide (text = stableSignatureValue r value)) := by
  have head := head_append (rfl : "equals:".toList.head? = some 'e') text
  rw [signatureMatches_of_head head .equalsValue (by decide), Matcher.matches,
    signatureEqualsValue, afterStart_append, Option.any_some]

theorem signatureMatches_oneOf (text : String) (value : Value F) :
    signatureMatchesValue r ("one_of:" ++ text) value =
      .ok (decide (stableSignatureValue r value ∈ (splitText ',' text).filter (· ≠ ""))) := by
  have head := head_append (rfl : "one_of:".toList.head? = some 'o') text
  rw [signatureMatches_of_head head .oneOfContainsValue (by decide), Matcher.matches,
    signatureOneOfContainsValue, afterStart_append, Option.any_some]

theorem signatureMatches_containsAny (text : String) (value : Value F) :
    signatureMatchesValue r ("contains_any:" ++ text) value =
      .ok (containsAnyMatches r (splitText ',' text) value) := by
  have head := head_append (rfl : "contains_any:".toList.head? = some 'c') text
  rw [signatureMatches_of_head head .containsAny (by decide), Matcher.matches,
    signatureContainsAny, afterStart_append, Option.any_some]

theorem signatureMatches_knownEnum (value : Value F) :
    signatureMatchesValue r "known_enum" value = .ok (knownEnumMatches value) := by
  have head : "known_enum".toList.head? = some 'k' := rfl
  rw [signatureMatches_of_head head .knownOrPresent (by decide), Matcher.matches,
    signatureKnownOrPresent, if_pos rfl]

theorem signatureMatches_present (value : Value F) :
    signatureMatchesValue r "present" value = .ok (!value.isNone) := by
  have head : "present".toList.head? = some 'p' := rfl
  have other : "present" ≠ "known_enum" := by decide
  rw [signatureMatches_of_head head .knownOrPresent (by decide), Matcher.matches,
    signatureKnownOrPresent, if_neg other, if_pos rfl]

end Detection
