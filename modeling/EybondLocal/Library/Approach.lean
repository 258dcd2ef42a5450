import Mathlib.Data.Int.Cast.Lemmas
import Mathlib.Order.Monotone.Basic
import Mathlib.Order.Lattice
import Mathlib.Tactic.Common

/-!
Sequences that go towards a target and never past it. Over the integers such a sequence arrives,
as soon as it only stands still at the target.
-/
namespace Approach
variable {α : Type*} [LinearOrder α]

def Toward (target before after : α) : Prop :=
  (before ≤ after ∧ after ≤ target) ∨ (target ≤ after ∧ after ≤ before)

theorem toward_target (target before : α) : Toward target before target :=
  (le_total before target).elim (fun below => Or.inl ⟨below, le_rfl⟩)
    fun above => Or.inr ⟨le_rfl, above⟩

theorem Toward.fixed {target after : α} (toward : Toward target target after) : after = target := by
  rcases toward with ⟨above, below⟩ | ⟨above, below⟩
  · exact le_antisymm below above
  · exact le_antisymm below above

theorem Toward.trans {target before middle after : α} (first : Toward target before middle)
    (second : Toward target middle after) : Toward target before after := by
  rcases first with ⟨rise, below⟩ | ⟨above, fall⟩ <;>
    rcases second with ⟨rise', below'⟩ | ⟨above', fall'⟩
  · exact Or.inl ⟨rise.trans rise', below'⟩
  · have arrived : after = target := le_antisymm (fall'.trans below) above'
    exact arrived ▸ toward_target target before
  · have arrived : after = target := le_antisymm below' (above.trans rise')
    exact arrived ▸ toward_target target before
  · exact Or.inr ⟨above', fall'.trans fall⟩

theorem Toward.antisymm {target before after : α} (there : Toward target before after)
    (back : Toward target after before) : after = before := by
  rcases there with ⟨rise, below⟩ | ⟨above, fall⟩ <;>
    rcases back with ⟨rise', below'⟩ | ⟨above', fall'⟩
  · exact le_antisymm rise' rise
  · exact le_antisymm (below.trans above') rise
  · exact le_antisymm fall (below'.trans above)
  · exact le_antisymm fall fall'

theorem monotone_or_antitone {x : Nat → α} {target : α}
    (toward : ∀ k, Toward target (x k) (x (k + 1))) : Monotone x ∨ Antitone x := by
  rcases le_total (x 0) target with start | start
  · have below : ∀ k, x k ≤ target := by
      intro k
      induction k with
      | zero => exact start
      | succ k ih =>
        rcases toward k with ⟨_, bound⟩ | ⟨_, fall⟩
        · exact bound
        · exact fall.trans ih
    refine Or.inl (monotone_nat_of_le_succ fun k => ?_)
    rcases toward k with ⟨rise, _⟩ | ⟨above, _⟩
    · exact rise
    · exact (below k).trans above
  · have above : ∀ k, target ≤ x k := by
      intro k
      induction k with
      | zero => exact start
      | succ k ih =>
        rcases toward k with ⟨rise, _⟩ | ⟨bound, _⟩
        · exact ih.trans rise
        · exact bound
    refine Or.inr (antitone_nat_of_succ_le fun k => ?_)
    rcases toward k with ⟨_, below⟩ | ⟨_, fall⟩
    · exact below.trans (above k)
    · exact fall

/-- Every step that changes the value takes it nearer, by at least one. -/
theorem nearer {target before after : Int} (toward : Toward target before after)
    (moved : after ≠ before) : (target - after).natAbs < (target - before).natAbs := by
  rcases toward with ⟨rise, below⟩ | ⟨above, fall⟩ <;> omega

theorem arrives {x : Nat → Int} (target : Int) (toward : ∀ k, Toward target (x k) (x (k + 1)))
    (moves : ∀ k, x (k + 1) = x k → x k = target) : ∃ n, ∀ k, n ≤ k → x k = target := by
  -- The distance left, for every sequence at once: what follows a step is such a sequence again.
  induction distance : (target - x 0).natAbs using Nat.strong_induction_on generalizing x with
  | _ distance ih =>
    by_cases arrived : x 0 = target
    · refine ⟨0, fun k _ => ?_⟩
      induction k with
      | zero => exact arrived
      | succ k stays => exact (stays (Nat.zero_le k) ▸ toward k).fixed
    · have moved : x 1 ≠ x 0 := fun still => arrived (moves 0 still)
      obtain ⟨n, settled⟩ := ih _ (distance ▸ nearer (toward 0) moved) (x := fun k => x (k + 1))
        (fun k => toward (k + 1)) (fun k => moves (k + 1)) rfl
      refine ⟨n + 1, fun k late => ?_⟩
      obtain ⟨k, rfl⟩ : ∃ j, k = j + 1 := ⟨k - 1, by omega⟩
      exact settled k (by omega)

end Approach
