import EybondLocal.Library.Execution
import EybondLocal.Library.PythonObject
import Mathlib.Algebra.Order.Ring.Unbundled.Rat
import Mathlib.Data.List.Infix
import Mathlib.Tactic.Linarith
import Mathlib.Tactic.Positivity

/-!
The recovery backoff of the hub (`runtime/hub/snapshot.py`): a delay that doubles with every failure
in a row and is capped only after it was computed.
-/
namespace RecoveryBackoff
open PythonObject Execution

inductive PyFloat where
  | finite (q : ℚ)
  | infinity
  | negInfinity
  | nan
  deriving DecidableEq, Repr

namespace PyFloat

def atLeast (q : ℚ) : PyFloat → PyFloat
  | .finite x => if q < x then .finite x else .finite q
  | .infinity => .infinity
  | .negInfinity => .finite q
  | .nan => .finite q

def atMost (q : ℚ) : PyFloat → PyFloat
  | .finite x => if x < q then .finite x else .finite q
  | .infinity => .finite q
  | .negInfinity => .negInfinity
  | .nan => .finite q

def limit : ℚ := 2 ^ 1024

/-- A float times `2 ** k`. The integer becomes a float first, and that has no room for `2 ** 1024`;
    the product of floats overflows to infinity, and is exact otherwise. -/
def timesPowerOfTwo (x : PyFloat) (k : Nat) : Except PyError PyFloat :=
  if 1024 ≤ k then .error ⟨.overflowError, "int too large to convert to float"⟩
  else match x with
    | .finite q =>
      if limit ≤ q * 2 ^ k then .ok .infinity
      else if q * 2 ^ k ≤ -limit then .ok .negInfinity
      else .ok (.finite (q * 2 ^ k))
    | other => .ok other

def plus (q : ℚ) : PyFloat → PyFloat
  | .finite x => .finite (q + x)
  | other => other

end PyFloat

structure Backoff where
  streak : Nat := 0
  untilMonotonic : PyFloat := .finite 0
  lastReason : String := ""
  lastSuccessMonotonic : ℚ := 0
  outageCachesCleared : Bool := false

inductive Call where
  | failure (now : ℚ) (reason : String)
  | success (now : ℚ)

def Call.isFailure : Call → Bool
  | .failure _ _ => true
  | .success _ => false

def recoveryBackoffDelay (requestTimeout : PyFloat) (streak : Nat) : Except PyError PyFloat :=
  ((PyFloat.atLeast 2 requestTimeout).timesPowerOfTwo (streak - 1)).map (PyFloat.atMost 60)

def Backoff.remaining (s : Backoff) (now : ℚ) : PyFloat :=
  match s.untilMonotonic with
  | .finite q => if q ≤ 0 then .finite 0 else PyFloat.atLeast 0 (.finite (q - now))
  | .negInfinity => .finite 0
  | other => PyFloat.atLeast 0 other

def Backoff.recordRecoveryFailure (requestTimeout : PyFloat) (now : ℚ) (reason : String)
    (s : Backoff) : Except PyError PyFloat × Backoff :=
  let counted := { s with streak := s.streak + 1, lastReason := reason }
  match recoveryBackoffDelay requestTimeout counted.streak with
  | .error error => (.error error, counted)
  | .ok delay => (.ok delay, { counted with untilMonotonic := PyFloat.plus now delay })

def Backoff.recordRefreshSuccess (now : ℚ) (s : Backoff) : Backoff :=
  { s with
    lastSuccessMonotonic := now
    outageCachesCleared := false
    streak := 0
    untilMonotonic := .finite 0
    lastReason := "" }

def perform (requestTimeout : PyFloat) (s : Backoff) : Call → Except PyError (Option PyFloat) × Backoff
  | .failure now reason =>
    let result := s.recordRecoveryFailure requestTimeout now reason
    (result.1.map some, result.2)
  | .success now => (.ok none, s.recordRefreshSuccess now)

def step (requestTimeout : PyFloat) (s : Backoff) (call : Call) : Backoff :=
  (perform requestTimeout s call).2

def baseDelay (requestTimeout : PyFloat) : PyFloat :=
  PyFloat.atMost 60 (PyFloat.atLeast 2 requestTimeout)

structure Usable (requestTimeout : PyFloat) (s : Backoff) (call : Call) : Prop where
  completes : ∃ chosen, (perform requestTimeout s call).1 = .ok chosen
  bounded : ∀ chosen, (perform requestTimeout s call).1 = .ok (some chosen) →
    ∃ seconds, chosen = .finite seconds ∧ 2 ≤ seconds ∧ seconds ≤ 60
  grows : ∀ chosen seconds now reason chosen' seconds',
    (perform requestTimeout s call).1 = .ok (some chosen) → chosen = .finite seconds →
    (perform requestTimeout (step requestTimeout s call) (.failure now reason)).1 = .ok (some chosen') →
    chosen' = .finite seconds' → seconds ≤ seconds'
  resets : call.isFailure = false → ∀ now reason,
    (step requestTimeout s call).remaining now = .finite 0 ∧
      (perform requestTimeout (step requestTimeout s call) (.failure now reason)).1 =
        .ok (some (baseDelay requestTimeout))

def ShortOutages (calls : List Call) : Prop :=
  ∀ outage, outage <:+: calls → (∀ call ∈ outage, call.isFailure = true) → outage.length ≤ 1024

variable {requestTimeout : PyFloat} {s : Backoff}

theorem atLeast_two (x : PyFloat) :
    PyFloat.atLeast 2 x = .infinity ∨ ∃ base, 2 ≤ base ∧ PyFloat.atLeast 2 x = .finite base := by
  cases x with
  | finite q =>
    unfold PyFloat.atLeast
    by_cases large : 2 < q
    · exact .inr ⟨q, large.le, if_pos large⟩
    · exact .inr ⟨2, le_refl 2, if_neg large⟩
  | infinity => exact .inl rfl
  | negInfinity => exact .inr ⟨2, le_refl 2, rfl⟩
  | nan => exact .inr ⟨2, le_refl 2, rfl⟩

theorem sixty_le_limit : 60 ≤ PyFloat.limit := by
  have power : (2 : ℚ) ^ 6 ≤ 2 ^ 1024 := pow_le_pow_right₀ (by norm_num) (by norm_num)
  exact le_trans (by norm_num) power

theorem delay_raises {streak : Nat} (long : 1024 < streak) :
    recoveryBackoffDelay requestTimeout streak =
      .error ⟨.overflowError, "int too large to convert to float"⟩ := by
  unfold recoveryBackoffDelay PyFloat.timesPowerOfTwo
  rw [if_pos (by omega)]
  rfl

def cappedDelay (requestTimeout : PyFloat) (streak : Nat) : ℚ :=
  match PyFloat.atLeast 2 requestTimeout with
  | .finite base => min 60 (base * 2 ^ (streak - 1))
  | _ => 60

theorem two_le_doubled {base : ℚ} (least : 2 ≤ base) (k : Nat) : 2 ≤ base * 2 ^ k := by
  have one : (1 : ℚ) ≤ 2 ^ k := one_le_pow₀ (by norm_num)
  nlinarith

theorem delay_of_short {streak : Nat} (short : streak ≤ 1024) :
    recoveryBackoffDelay requestTimeout streak =
      .ok (.finite (cappedDelay requestTimeout streak)) := by
  have in_range : ¬ 1024 ≤ streak - 1 := by omega
  unfold recoveryBackoffDelay PyFloat.timesPowerOfTwo cappedDelay
  rw [if_neg in_range]
  rcases atLeast_two requestTimeout with infinite | ⟨base, least, is⟩
  · rw [infinite]
    rfl
  · rw [is]
    have grown := two_le_doubled least (streak - 1)
    have limit := sixty_le_limit
    dsimp only
    generalize base * 2 ^ (streak - 1) = doubled at grown ⊢
    by_cases large : PyFloat.limit ≤ doubled
    · rw [if_pos large, min_eq_left (le_trans limit large)]
      rfl
    · have positive : ¬ doubled ≤ -PyFloat.limit := by linarith
      rw [if_neg large, if_neg positive]
      change Except.ok (if doubled < 60 then PyFloat.finite doubled else .finite 60) = _
      by_cases under : doubled < 60
      · rw [if_pos under, min_eq_right under.le]
      · rw [if_neg under, min_eq_left (not_lt.mp under)]

theorem cappedDelay_bounded (requestTimeout : PyFloat) (streak : Nat) :
    2 ≤ cappedDelay requestTimeout streak ∧ cappedDelay requestTimeout streak ≤ 60 := by
  unfold cappedDelay
  rcases atLeast_two requestTimeout with infinite | ⟨base, least, is⟩
  · rw [infinite]
    norm_num
  · rw [is]
    exact ⟨le_min (by norm_num) (two_le_doubled least _), min_le_left _ _⟩

theorem cappedDelay_grows (requestTimeout : PyFloat) (streak : Nat) :
    cappedDelay requestTimeout streak ≤ cappedDelay requestTimeout (streak + 1) := by
  unfold cappedDelay
  rcases atLeast_two requestTimeout with infinite | ⟨base, least, is⟩
  · rw [infinite]
  · rw [is]
    apply min_le_min_left
    apply mul_le_mul_of_nonneg_left _ (by linarith)
    exact pow_le_pow_right₀ (by norm_num) (by omega)

theorem baseDelay_eq (requestTimeout : PyFloat) :
    baseDelay requestTimeout = .finite (cappedDelay requestTimeout 1) := by
  unfold baseDelay cappedDelay
  rcases atLeast_two requestTimeout with infinite | ⟨base, least, is⟩
  · rw [infinite]
    rfl
  · rw [is]
    dsimp only [PyFloat.atMost]
    rw [Nat.sub_self, pow_zero, mul_one]
    by_cases under : base < 60
    · rw [if_pos under, min_eq_right under.le]
    · rw [if_neg under, min_eq_left (not_lt.mp under)]

theorem perform_failure (now : ℚ) (reason : String) (short : s.streak < 1024) :
    (perform requestTimeout s (.failure now reason)).1 =
      .ok (some (.finite (cappedDelay requestTimeout (s.streak + 1)))) := by
  unfold perform Backoff.recordRecoveryFailure
  dsimp only
  rw [delay_of_short (show s.streak + 1 ≤ 1024 by omega)]
  rfl

theorem perform_raises (now : ℚ) (reason : String) (long : 1024 ≤ s.streak) :
    (perform requestTimeout s (.failure now reason)).1 =
      .error ⟨.overflowError, "int too large to convert to float"⟩ := by
  unfold perform Backoff.recordRecoveryFailure
  dsimp only
  rw [delay_raises (show 1024 < s.streak + 1 by omega)]
  rfl

theorem step_streak (s : Backoff) (call : Call) :
    (step requestTimeout s call).streak = if call.isFailure then s.streak + 1 else 0 := by
  cases call with
  | failure now reason =>
    unfold step perform Backoff.recordRecoveryFailure
    dsimp only
    cases recoveryBackoffDelay requestTimeout (s.streak + 1) <;> rfl
  | success now => rfl

theorem usable_iff (call : Call) :
    Usable requestTimeout s call ↔ (call.isFailure = true → s.streak < 1024) := by
  constructor
  · intro usable failure
    by_contra long
    cases call with
    | success now => cases failure
    | failure now reason =>
      obtain ⟨chosen, chose⟩ := usable.completes
      rw [perform_raises now reason (not_lt.mp long)] at chose
      cases chose
  · intro short
    cases call with
    | success now =>
      refine ⟨⟨none, rfl⟩, ?_, ?_, ?_⟩
      · intro chosen chose
        cases chose
      · intro chosen seconds now' reason chosen' seconds' chose
        cases chose
      · intro _ now' reason
        refine ⟨rfl, ?_⟩
        have cleared : (step requestTimeout s (.success now)).streak = 0 := step_streak s _
        rw [perform_failure now' reason (by omega), cleared, baseDelay_eq]
    | failure now reason =>
      have chose : (perform requestTimeout s (.failure now reason)).1 = _ :=
        perform_failure now reason (short rfl)
      refine ⟨⟨_, chose⟩, ?_, ?_, nofun⟩
      · intro chosen same
        rw [chose] at same
        cases same
        exact ⟨_, rfl, cappedDelay_bounded _ _⟩
      · intro chosen seconds now' reason' chosen' seconds' same is next is'
        rw [chose] at same
        cases same
        cases is
        by_cases more : (step requestTimeout s (.failure now reason)).streak < 1024
        · rw [perform_failure now' reason' more, step_streak] at next
          cases next
          cases is'
          exact cappedDelay_grows _ _
        · rw [perform_raises now' reason' (not_lt.mp more)] at next
          cases next

def ShortAfter (streak : Nat) (calls : List Call) : Prop :=
  (∀ outage, outage <+: calls → (∀ call ∈ outage, call.isFailure = true) →
    streak + outage.length ≤ 1024) ∧ ShortOutages calls

theorem shortAfter_nil {streak : Nat} (start : streak ≤ 1024) : ShortAfter streak [] := by
  constructor
  · intro outage begins _
    rw [List.prefix_nil.mp begins]
    exact start
  · intro outage inside _
    rw [List.infix_nil.mp inside]
    decide

theorem shortOutages_tail {call : Call} {rest : List Call} (short : ShortOutages (call :: rest)) :
    ShortOutages rest :=
  fun outage inside all => short outage (inside.trans (List.suffix_cons call rest).isInfix) all

theorem shortAfter_failure {streak : Nat} {call : Call} {rest : List Call}
    (failed : call.isFailure = true) :
    ShortAfter streak (call :: rest) ↔ streak < 1024 ∧ ShortAfter (streak + 1) rest := by
  constructor
  · rintro ⟨current, others⟩
    have longer (outage : List Call) (begins : outage <+: rest)
        (all : ∀ call ∈ outage, call.isFailure = true) : streak + 1 + outage.length ≤ 1024 := by
      have bound := current (call :: outage) ((List.prefix_cons_inj call).mpr begins)
        (List.forall_mem_cons.mpr ⟨failed, all⟩)
      rw [List.length_cons] at bound
      omega
    have alone := longer [] List.nil_prefix (List.forall_mem_nil _)
    rw [List.length_nil] at alone
    exact ⟨by omega, longer, shortOutages_tail others⟩
  · rintro ⟨room, current, others⟩
    have begun (outage : List Call) (begins : outage <+: call :: rest)
        (all : ∀ call ∈ outage, call.isFailure = true) : streak + outage.length ≤ 1024 := by
      rcases List.prefix_cons_iff.mp begins with rfl | ⟨more, rfl, follows⟩
      · rw [List.length_nil]
        omega
      · have bound := current more follows fun c member => all c (List.mem_cons_of_mem _ member)
        rw [List.length_cons]
        omega
    refine ⟨begun, fun outage inside all => ?_⟩
    rcases List.infix_cons_iff.mp inside with begins | inside
    · have bound := begun outage begins all
      omega
    · exact others outage inside all

theorem shortAfter_success {streak : Nat} {call : Call} {rest : List Call} (start : streak ≤ 1024)
    (succeeded : call.isFailure = false) :
    ShortAfter streak (call :: rest) ↔ ShortAfter 0 rest := by
  have none_begins (outage : List Call) (begins : outage <+: call :: rest)
      (all : ∀ call ∈ outage, call.isFailure = true) : outage = [] := by
    rcases List.prefix_cons_iff.mp begins with rfl | ⟨more, rfl, -⟩
    · rfl
    · rw [all call List.mem_cons_self] at succeeded
      cases succeeded
  constructor
  · rintro ⟨-, others⟩
    have later := shortOutages_tail others
    refine ⟨fun outage begins all => ?_, later⟩
    have bound := later outage begins.isInfix all
    omega
  · rintro ⟨-, others⟩
    refine ⟨fun outage begins all => ?_, fun outage inside all => ?_⟩
    · rw [none_begins outage begins all]
      exact start
    · rcases List.infix_cons_iff.mp inside with begins | inside
      · rw [none_begins outage begins all]
        decide
      · exact others outage inside all

/-- The streak stays below its limit exactly when no outage, the current one included, is longer. -/
theorem everyStep_iff_outages (calls : List Call) (start : s.streak ≤ 1024) :
    EveryStep (step requestTimeout) (fun s call => call.isFailure = true → s.streak < 1024) s calls ↔
      ShortAfter s.streak calls := by
  induction calls generalizing s with
  | nil => exact iff_of_true trivial (shortAfter_nil start)
  | cons call rest ih =>
    have next : (step requestTimeout s call).streak = _ := step_streak s call
    rw [EveryStep]
    cases failed : call.isFailure with
    | true =>
      rw [failed, if_pos rfl] at next
      rw [shortAfter_failure failed, eq_self, true_imp_iff]
      refine and_congr_right fun room => ?_
      rw [ih (by omega), next]
    | false =>
      rw [failed, if_neg Bool.false_ne_true] at next
      rw [shortAfter_success start failed, ih (by omega), next]
      simp

/-- Every call of a run is usable exactly when no outage of the run is longer than 1024 failures. -/
theorem usable_iff_shortOutages (requestTimeout : PyFloat) (calls : List Call) :
    EveryStep (step requestTimeout) (Usable requestTimeout) {} calls ↔ ShortOutages calls := by
  have steps : EveryStep (step requestTimeout) (Usable requestTimeout) {} calls ↔
      EveryStep (step requestTimeout) (fun s call => call.isFailure = true → s.streak < 1024)
        {} calls :=
    ⟨everyStep_mono fun s call => (usable_iff call).mp,
      everyStep_mono fun s call => (usable_iff call).mpr⟩
  rw [steps, everyStep_iff_outages calls (Nat.zero_le _)]
  refine and_iff_right_of_imp fun short outage begins all => ?_
  have bound := short outage begins.isInfix all
  change 0 + outage.length ≤ 1024
  omega

def outageOf (length : Nat) : List Call :=
  (List.range length).map fun n => .failure (60 * n) "request_timeout"

theorem outageOf_raises {length : Nat} (long : 1024 < length) :
    ¬ EveryStep (step requestTimeout) (Usable requestTimeout) {} (outageOf length) := by
  intro run
  have all : ∀ call ∈ outageOf length, call.isFailure = true := by
    intro call member
    obtain ⟨n, -, rfl⟩ := List.mem_map.mp member
    rfl
  have size : (outageOf length).length = length := by simp [outageOf]
  have admitted := everyStep_mono (fun s call => (usable_iff call).mp) run
  obtain ⟨current, -⟩ := (everyStep_iff_outages _ (Nat.zero_le _)).mp admitted
  have bound := current _ List.prefix_rfl all
  omega

/-- A little over seventeen hours of them. -/

theorem longOutage_raises :
    ¬ ∀ requestTimeout calls, EveryStep (step requestTimeout) (Usable requestTimeout) {} calls := by
  intro usable
  -- The length is kept apart, so that the run is not unfolded.
  obtain ⟨length, long⟩ : ∃ length, length = 1025 := ⟨1025, rfl⟩
  exact outageOf_raises (by omega) (usable (.finite 5) (outageOf length))

end RecoveryBackoff
