import EybondLocal.Library.Approach
import EybondLocal.Library.Execution
import EybondLocal.Library.HalfEven
import EybondLocal.Library.StripText
import Mathlib.Data.List.DropRight
import Mathlib.Data.List.GetD
import Mathlib.Data.List.Sort

/-!
The adaptive poll interval (`runtime/poll_scheduler.py`, `poll_policy.py`), over exact rationals.
-/
namespace Polling
open Approach Execution HalfEven StripText

structure PollPolicy where
  minAutoInterval : ℚ
  maxAutoInterval : ℚ
  minManualInterval : ℚ := 2
  safetyFactor : ℚ := 13 / 10
  sampleWindow : Int := 10
  percentile : ℚ := 3 / 4
  growStepLimit : ℚ := 3 / 2
  shrinkStepLimit : ℚ := 9 / 10

def DEFAULT_POLL_POLICY : PollPolicy where
  minAutoInterval := 10
  maxAutoInterval := 120

def DEFAULT_POLL_INTERVAL : ℚ := 10

inductive PollMode where
  | auto
  | manual
  deriving DecidableEq, Repr

structure PollDecision where
  mode : PollMode
  effectiveInterval : ℚ
  manualInterval : ℚ
  recommendedInterval : ℚ
  utilizationPercent : Int
  policyMinInterval : ℚ
  policyMaxInterval : ℚ
  observedDuration : ℚ
  sampleCount : Nat

def normalizePollMode (value : String) : PollMode :=
  if lower (strip value) = "auto" then .auto else .manual

/-- `clamp_interval`. A value is what `float` makes of it; there is none where `float` raises or
    gives no finite number. -/
def clampInterval (value : Option ℚ) (minimum maximum : ℚ) : ℚ :=
  min maximum (max minimum (value.getD DEFAULT_POLL_INTERVAL))

def percentileOf (values : List ℚ) (percentile : ℚ) : ℚ :=
  match values.mergeSort with
  | [] => 0
  | [only] => only
  | ordered =>
    let p := min 1 (max 0 percentile)
    let index := ⌈p * ordered.length⌉ - 1
    ordered.getD (min ((ordered.length : Int) - 1) (max 0 index)).toNat 0

def recommendedInterval (policy : PollPolicy)
    (observedDuration fallbackInterval minimumInterval : ℚ) : ℚ :=
  let target :=
    if observedDuration ≤ 0 then fallbackInterval
    else observedDuration * max 1 policy.safetyFactor
  clampInterval (some ⌈target⌉) minimumInterval policy.maxAutoInterval

structure Settings where
  policy : PollPolicy
  mode : PollMode
  manualInterval : ℚ
  effectiveInterval : ℚ
  durations : List ℚ := []

namespace Settings

/-- `_clamp_manual_interval`, with the default maximum of `clamp_interval`. -/
def clampManualInterval (policy : PollPolicy) (value : Option ℚ) : ℚ :=
  clampInterval value policy.minManualInterval 3600

def initialEffectiveInterval (s : Settings) : ℚ :=
  match s.mode with
  | .auto =>
    clampInterval (some s.manualInterval) s.policy.minAutoInterval s.policy.maxAutoInterval
  | .manual => s.manualInterval

def observedDuration (s : Settings) : ℚ := percentileOf s.durations s.policy.percentile

def clampEffective (s : Settings) (value : ℚ) : ℚ :=
  match s.mode with
  | .auto => clampInterval (some value) s.policy.minAutoInterval s.policy.maxAutoInterval
  | .manual => clampManualInterval s.policy (some value)

def recommendationMinimumInterval (s : Settings) : ℚ :=
  match s.mode with
  | .auto => s.policy.minAutoInterval
  | .manual => s.policy.minManualInterval

def smoothAutoInterval (s : Settings) (target : ℚ) : ℚ :=
  let current := s.clampEffective s.effectiveInterval
  if current ≤ 0 then s.clampEffective target
  else
    let nextInterval :=
      if current < target then min target (current * max 1 s.policy.growStepLimit)
      else max target (current * min 1 (max 0 s.policy.shrinkStepLimit))
    match s.mode with
    | .auto =>
      s.clampEffective (if nextInterval < current then ⌊nextInterval⌋ else ⌈nextInterval⌉)
    | .manual => s.clampEffective nextInterval

def buildDecision (s : Settings) (observedDuration : ℚ) (lastDuration : Option ℚ)
    (recommended : Option ℚ) (utilizationInterval : Option ℚ) : PollDecision :=
  let duration := lastDuration.getD observedDuration
  let interval :=
    match utilizationInterval with
    | none => s.effectiveInterval
    | some interval => clampInterval (some interval) 2 3600
  { mode := s.mode
    effectiveInterval := s.effectiveInterval
    manualInterval := s.manualInterval
    recommendedInterval := recommended.getD
      (recommendedInterval s.policy observedDuration s.effectiveInterval
        s.recommendationMinimumInterval)
    utilizationPercent := if 0 < interval then roundHalfEven (duration / interval * 100) else 0
    policyMinInterval := s.policy.minAutoInterval
    policyMaxInterval := s.policy.maxAutoInterval
    observedDuration
    sampleCount := s.durations.length }

def remember (s : Settings) (duration : ℚ) : List ℚ :=
  let all := s.durations ++ [duration]
  let sampleWindow := (max 1 s.policy.sampleWindow).toNat
  if sampleWindow < all.length then all.drop (all.length - sampleWindow) else all

def recorded (s : Settings) (duration : ℚ) (success : Bool) : Settings :=
  if success ∧ 0 < duration then { s with durations := s.remember duration } else s

def nextEffective (s : Settings) (recommended : ℚ) (success : Bool) : ℚ :=
  match s.mode with
  | .auto =>
    if success then s.smoothAutoInterval recommended else s.clampEffective s.effectiveInterval
  | .manual => s.manualInterval

end Settings

structure PollScheduler extends Settings where
  lastDecision : PollDecision

namespace PollScheduler

def init (policy : PollPolicy) (mode : String) (manualInterval : Option ℚ) : PollScheduler :=
  let mode := normalizePollMode mode
  let manualInterval := Settings.clampManualInterval policy manualInterval
  let blank : Settings := { policy, mode, manualInterval, effectiveInterval := 0 }
  let settings := { blank with effectiveInterval := blank.initialEffectiveInterval }
  { settings with lastDecision := settings.buildDecision 0 none none none }

def configure (s : PollScheduler) (policy : Option PollPolicy) (mode : Option String)
    (manualInterval : Option (Option ℚ)) : PollScheduler :=
  let policy := policy.getD s.policy
  let mode := (mode.map normalizePollMode).getD s.mode
  let manualInterval :=
    Settings.clampManualInterval policy (manualInterval.getD (some s.manualInterval))
  let changed : Settings := { s.toSettings with policy, mode, manualInterval }
  let clamped := { changed with effectiveInterval := changed.clampEffective s.effectiveInterval }
  let settings : Settings := { clamped with
    effectiveInterval :=
      match mode with
      | .manual => manualInterval
      | .auto =>
        if clamped.effectiveInterval ≤ 0 then clamped.initialEffectiveInterval
        else clamped.effectiveInterval }
  { settings with lastDecision := settings.buildDecision settings.observedDuration none none none }

def observe (s : PollScheduler) (durationSeconds : Option ℚ) (success : Bool) : PollScheduler :=
  let duration := max 0 (durationSeconds.getD 0)
  let seen := s.toSettings.recorded duration success
  let observed := seen.observedDuration
  let recommended := recommendedInterval seen.policy observed seen.effectiveInterval
    seen.recommendationMinimumInterval
  let settings : Settings := { seen with
    effectiveInterval := seen.nextEffective recommended success }
  { settings with
    lastDecision := settings.buildDecision observed (some duration) (some recommended)
      (some s.effectiveInterval) }

end PollScheduler

inductive Call where
  | configure (policy : Option PollPolicy) (mode : Option String)
      (manualInterval : Option (Option ℚ))
  | observe (durationSeconds : Option ℚ) (success : Bool)

def step (s : PollScheduler) : Call → PollScheduler
  | .configure policy mode manualInterval => s.configure policy mode manualInterval
  | .observe durationSeconds success => s.observe durationSeconds success

structure Sound (policy : PollPolicy) : Prop where
  minimum_integer : ∃ n : Int, policy.minAutoInterval = n
  maximum_integer : ∃ n : Int, policy.maxAutoInterval = n
  ordered : policy.minAutoInterval ≤ policy.maxAutoInterval
  grows : 1 < policy.growStepLimit
  shrink_nonneg : 0 ≤ policy.shrinkStepLimit
  shrinks : policy.shrinkStepLimit < 1

def Call.Sound : Call → Prop
  | .configure policy _ _ => ∀ given ∈ policy, Polling.Sound given
  | .observe _ _ => True

structure InBounds (s : PollScheduler) : Prop where
  auto : s.mode = .auto → s.policy.minAutoInterval ≤ s.effectiveInterval ∧
    s.effectiveInterval ≤ s.policy.maxAutoInterval
  manual : s.mode = .manual → s.effectiveInterval = s.manualInterval ∧
    s.manualInterval = Settings.clampManualInterval s.policy (some s.manualInterval)

/-- What the calls so far have asked for: the policy, mode and manual interval given last, with
    the highest manual minimum in force since that interval was given. -/
structure Asked where
  policy : PollPolicy
  mode : String
  manualInterval : Option ℚ
  minimum : ℚ := policy.minManualInterval

def Asked.after (asked : Asked) : Call → Asked
  | .configure policy mode manualInterval =>
    let policy := policy.getD asked.policy
    { policy
      mode := mode.getD asked.mode
      manualInterval := manualInterval.getD asked.manualInterval
      minimum :=
        match manualInterval with
        | none => max policy.minManualInterval asked.minimum
        | some _ => policy.minManualInterval }
  | .observe _ _ => asked

structure Obeys (s : PollScheduler) (asked : Asked) : Prop where
  policy : s.policy = asked.policy
  mode : s.mode = normalizePollMode asked.mode
  manualInterval : s.manualInterval = clampInterval asked.manualInterval asked.minimum 3600

theorem clampInterval_of_mem {x minimum maximum : ℚ} (above : minimum ≤ x) (below : x ≤ maximum) :
    clampInterval (some x) minimum maximum = x := by
  simp only [clampInterval, Option.getD_some, max_eq_right above, min_eq_right below]

theorem le_clampInterval {minimum maximum : ℚ} (ordered : minimum ≤ maximum) (value : Option ℚ) :
    minimum ≤ clampInterval value minimum maximum :=
  le_min ordered (le_max_left _ _)

theorem clampInterval_le (value : Option ℚ) (minimum maximum : ℚ) :
    clampInterval value minimum maximum ≤ maximum :=
  min_le_left _ _

theorem clampInterval_idem (value : Option ℚ) (minimum maximum : ℚ) :
    clampInterval (some (clampInterval value minimum maximum)) minimum maximum =
      clampInterval value minimum maximum := by
  rcases le_total minimum maximum with ordered | crossed
  · exact clampInterval_of_mem (le_clampInterval ordered value) (clampInterval_le _ _ _)
  · have always : ∀ v, clampInterval v minimum maximum = maximum := fun v =>
      min_eq_left (crossed.trans (le_max_left _ _))
    rw [always, always]

/-- A value clamped twice below one maximum was clamped from the higher minimum. -/
theorem clampInterval_clampInterval (value : Option ℚ) (first second maximum : ℚ) :
    clampInterval (some (clampInterval value first maximum)) second maximum =
      clampInterval value (max second first) maximum := by
  unfold clampInterval
  rw [Option.getD_some, max_min_distrib_left, ← min_assoc, min_eq_left (le_max_right second _),
    max_assoc]

theorem Settings.clampEffective_auto {s : Settings} (auto : s.mode = .auto) (value : ℚ) :
    s.clampEffective value =
      clampInterval (some value) s.policy.minAutoInterval s.policy.maxAutoInterval := by
  simp only [clampEffective, auto]

theorem init_inBounds {policy : PollPolicy} (sound : Sound policy) (mode : String)
    (manualInterval : Option ℚ) : InBounds (.init policy mode manualInterval) := by
  unfold PollScheduler.init Settings.initialEffectiveInterval
  constructor
  · intro auto
    dsimp only at auto ⊢
    rw [auto]
    exact ⟨le_clampInterval sound.ordered _, clampInterval_le _ _ _⟩
  · intro manual
    dsimp only at manual ⊢
    rw [manual]
    exact ⟨rfl, (clampInterval_idem _ _ _).symm⟩

theorem configure_inBounds (s : PollScheduler) {policy : Option PollPolicy}
    (sound : Sound (policy.getD s.policy)) (mode : Option String)
    (manualInterval : Option (Option ℚ)) :
    InBounds (s.configure policy mode manualInterval) := by
  unfold PollScheduler.configure Settings.initialEffectiveInterval Settings.clampEffective
  constructor
  · intro auto
    dsimp only at auto ⊢
    rw [auto]
    dsimp only
    split_ifs
    · exact ⟨le_clampInterval sound.ordered _, clampInterval_le _ _ _⟩
    · exact ⟨le_clampInterval sound.ordered _, clampInterval_le _ _ _⟩
  · intro manual
    dsimp only at manual ⊢
    rw [manual]
    exact ⟨rfl, (clampInterval_idem _ _ _).symm⟩

/-- Only the durations are changed by what is remembered. -/
theorem Settings.recorded_keeps (s : Settings) (duration : ℚ) (success : Bool) :
    (s.recorded duration success).policy = s.policy ∧
      (s.recorded duration success).mode = s.mode ∧
        (s.recorded duration success).manualInterval = s.manualInterval ∧
          (s.recorded duration success).effectiveInterval = s.effectiveInterval := by
  unfold recorded
  split <;> exact ⟨rfl, rfl, rfl, rfl⟩

theorem observe_keeps (s : PollScheduler) (durationSeconds : Option ℚ) (success : Bool) :
    (s.observe durationSeconds success).policy = s.policy ∧
      (s.observe durationSeconds success).mode = s.mode ∧
        (s.observe durationSeconds success).manualInterval = s.manualInterval := by
  obtain ⟨policy, mode, manualInterval, _⟩ :=
    s.toSettings.recorded_keeps (max 0 (durationSeconds.getD 0)) success
  exact ⟨policy, mode, manualInterval⟩

theorem Settings.clampEffective_mem {s : Settings} (sound : Sound s.policy) (auto : s.mode = .auto)
    (value : ℚ) : s.policy.minAutoInterval ≤ s.clampEffective value ∧
      s.clampEffective value ≤ s.policy.maxAutoInterval := by
  rw [clampEffective_auto auto]
  exact ⟨le_clampInterval sound.ordered _, clampInterval_le _ _ _⟩

theorem Settings.smoothAutoInterval_mem {s : Settings} (sound : Sound s.policy)
    (auto : s.mode = .auto) (target : ℚ) :
    s.policy.minAutoInterval ≤ s.smoothAutoInterval target ∧
      s.smoothAutoInterval target ≤ s.policy.maxAutoInterval := by
  unfold smoothAutoInterval
  dsimp only
  split
  · exact clampEffective_mem sound auto _
  · rw [auto]
    exact clampEffective_mem sound auto _

theorem Settings.nextEffective_mem {s : Settings} (sound : Sound s.policy) (auto : s.mode = .auto)
    (recommended : ℚ) (success : Bool) :
    s.policy.minAutoInterval ≤ s.nextEffective recommended success ∧
      s.nextEffective recommended success ≤ s.policy.maxAutoInterval := by
  unfold nextEffective
  rw [auto]
  cases success with
  | false => exact clampEffective_mem sound auto _
  | true => exact smoothAutoInterval_mem sound auto _

theorem observe_inBounds {s : PollScheduler} (sound : Sound s.policy) (within : InBounds s)
    (durationSeconds : Option ℚ) (success : Bool) :
    InBounds (s.observe durationSeconds success) := by
  obtain ⟨policy, mode, manualInterval⟩ := observe_keeps s durationSeconds success
  obtain ⟨policy', mode', manualInterval', _⟩ :=
    s.toSettings.recorded_keeps (max 0 (durationSeconds.getD 0)) success
  constructor
  · intro auto
    rw [policy, ← policy']
    exact Settings.nextEffective_mem (policy' ▸ sound) (mode'.trans (mode ▸ auto)) _ success
  · intro manual
    rw [policy, manualInterval]
    refine ⟨?_, (within.manual (mode ▸ manual)).2⟩
    change Settings.nextEffective _ _ success = _
    rw [Settings.nextEffective, mode'.trans (mode ▸ manual)]
    exact manualInterval'

theorem step_sound {s : PollScheduler} (sound : Sound s.policy) {call : Call} (given : call.Sound) :
    Sound (step s call).policy := by
  cases call with
  | configure policy mode manualInterval =>
    change Sound (policy.getD s.policy)
    cases policy with
    | none => exact sound
    | some policy => exact given policy rfl
  | observe durationSeconds success =>
    exact (observe_keeps s durationSeconds success).1 ▸ sound

theorem step_inBounds {s : PollScheduler} (sound : Sound s.policy) (within : InBounds s)
    {call : Call} (given : call.Sound) : InBounds (step s call) := by
  cases call with
  | configure policy mode manualInterval =>
    have next : Sound (policy.getD s.policy) := by
      cases policy with
      | none => exact sound
      | some policy => exact given policy rfl
    exact configure_inBounds s next mode manualInterval
  | observe durationSeconds success => exact observe_inBounds sound within _ _

/-- The interval stays within the bounds of its mode, over every run of calls whose policies are
    sound. -/
theorem run_inBounds {s : PollScheduler} (sound : Sound s.policy) (within : InBounds s)
    {calls : List Call} (given : ∀ call ∈ calls, call.Sound) :
    EveryState step InBounds s calls := by
  induction calls generalizing s with
  | nil => exact within
  | cons call rest ih =>
    obtain ⟨now, later⟩ := List.forall_mem_cons.mp given
    exact ⟨within, ih (step_sound sound now) (step_inBounds sound within now) later⟩

theorem init_obeys (policy : PollPolicy) (mode : String) (manualInterval : Option ℚ) :
    Obeys (.init policy mode manualInterval) { policy, mode, manualInterval } := by
  unfold PollScheduler.init
  constructor
  · dsimp only
  · dsimp only
  · dsimp only
    rw [Settings.clampManualInterval]

theorem step_obeys {s : PollScheduler} {asked : Asked} (obeys : Obeys s asked) (call : Call) :
    Obeys (step s call) (asked.after call) := by
  cases call with
  | configure policy mode manualInterval =>
    unfold step PollScheduler.configure Asked.after
    constructor
    · dsimp only
      rw [obeys.policy]
    · dsimp only
      cases mode with
      | none => exact obeys.mode
      | some mode => rw [Option.map_some, Option.getD_some, Option.getD_some]
    · dsimp only
      rw [obeys.policy, Settings.clampManualInterval]
      cases manualInterval with
      | some given => rw [Option.getD_some, Option.getD_some]
      | none => rw [Option.getD_none, Option.getD_none, obeys.manualInterval,
          clampInterval_clampInterval]
  | observe durationSeconds success =>
    obtain ⟨policy, mode, manualInterval⟩ := observe_keeps s durationSeconds success
    exact ⟨policy.trans obeys.policy, mode.trans obeys.mode,
      manualInterval.trans obeys.manualInterval⟩

theorem run_obeys {s : PollScheduler} {asked : Asked} (obeys : Obeys s asked) (calls : List Call) :
    Obeys (run step s calls) (run Asked.after asked calls) := by
  induction calls generalizing s asked with
  | nil => exact obeys
  | cons call rest ih => exact ih (step_obeys obeys call)

theorem toward_clampInterval {minimum maximum target : ℚ} (above : minimum ≤ target)
    (below : target ≤ maximum) (x : ℚ) :
    Toward target x (clampInterval (some x) minimum maximum) := by
  rcases lt_trichotomy x minimum with low | rfl | high
  · have raised : clampInterval (some x) minimum maximum = minimum := by
      simp only [clampInterval, Option.getD_some, max_eq_left low.le,
        min_eq_right (above.trans below)]
    rw [raised]
    exact Or.inl ⟨low.le, above⟩
  · rw [clampInterval_of_mem le_rfl (above.trans below)]
    exact Or.inl ⟨le_rfl, above⟩
  · simp only [clampInterval, Option.getD_some, max_eq_right high.le]
    rcases le_total x maximum with within | beyond
    · rw [min_eq_right within]
      exact (le_total x target).elim (fun rise => Or.inl ⟨le_rfl, rise⟩)
        fun fall => Or.inr ⟨fall, le_rfl⟩
    · rw [min_eq_left beyond]
      exact Or.inr ⟨below, beyond⟩

theorem grow_step {current limit : ℚ} {target : Int} (positive : 0 < current)
    (short : current < target) (grows : 1 < limit) :
    current < min (target : ℚ) (current * limit) ∧
      ⌈min (target : ℚ) (current * limit)⌉ ≤ target := by
  have further : current < current * limit := lt_mul_of_one_lt_right positive grows
  exact ⟨lt_min short further, Int.ceil_le.mpr (min_le_left _ _)⟩

theorem shrink_step {current limit : ℚ} {target : Int} (positive : 0 < current)
    (above : (target : ℚ) < current) (shrinks : limit < 1) :
    max (target : ℚ) (current * limit) < current ∧
      target ≤ ⌊max (target : ℚ) (current * limit)⌋ := by
  have further : current * limit < current := mul_lt_of_lt_one_right positive shrinks
  exact ⟨max_lt above further, Int.le_floor.mpr (le_max_left _ _)⟩

structure Approached (target before : ℚ) (after : Int) : Prop where
  toward : Toward target before after
  still : (after : ℚ) = before → before = target

/-- A step between integer bounds: towards an integer target within them, to an integer, and
    standing still at the target only. -/
theorem smoothAutoInterval_approaches {s : Settings} (sound : Sound s.policy)
    (auto : s.mode = .auto) {target : Int} (above : s.policy.minAutoInterval ≤ target)
    (below : (target : ℚ) ≤ s.policy.maxAutoInterval) :
    ∃ after : Int, s.smoothAutoInterval target = after ∧
      Approached target (s.clampEffective s.effectiveInterval) after := by
  have clamp := s.clampEffective_auto auto
  have inside : ∀ n : Int, s.policy.minAutoInterval ≤ n → (n : ℚ) ≤ s.policy.maxAutoInterval →
      s.clampEffective n = n := fun n low high => by rw [clamp, clampInterval_of_mem low high]
  have low : s.policy.minAutoInterval ≤ s.clampEffective s.effectiveInterval :=
    clamp _ ▸ le_clampInterval sound.ordered _
  have high : s.clampEffective s.effectiveInterval ≤ s.policy.maxAutoInterval :=
    clamp _ ▸ clampInterval_le _ _ _
  unfold Settings.smoothAutoInterval
  generalize s.clampEffective s.effectiveInterval = current at low high
  rw [max_eq_right sound.grows.le, max_eq_right sound.shrink_nonneg,
    min_eq_right sound.shrinks.le]
  dsimp only
  rw [auto]
  dsimp only
  by_cases negative : current ≤ 0
  · rw [if_pos negative]
    exact ⟨target, inside target above below, toward_target _ _, fun same => same.symm⟩
  have positive : 0 < current := lt_of_not_ge negative
  rw [if_neg negative]
  rcases lt_trichotomy current target with short | arrived | past
  · obtain ⟨further, bounded⟩ := grow_step positive short sound.grows
    have ceiling : current < ⌈min (target : ℚ) (current * s.policy.growStepLimit)⌉ :=
      further.trans_le (Int.le_ceil _)
    have bounded' : (⌈min (target : ℚ) (current * s.policy.growStepLimit)⌉ : ℚ) ≤ target := by
      exact_mod_cast bounded
    rw [if_pos short, if_neg further.le.not_gt]
    exact ⟨_, inside _ (low.trans ceiling.le) (bounded'.trans below),
      Or.inl ⟨ceiling.le, bounded'⟩, fun same => absurd same ceiling.ne'⟩
  · have kept : max (target : ℚ) (current * s.policy.shrinkStepLimit) = target :=
      max_eq_left (arrived ▸ mul_le_of_le_one_right positive.le sound.shrinks.le)
    rw [if_neg arrived.ge.not_gt, kept, if_neg arrived.le.not_gt, Int.ceil_intCast]
    exact ⟨target, inside target above below, toward_target _ _, fun same => same.symm⟩
  · obtain ⟨further, bounded⟩ := shrink_step positive past sound.shrinks
    have floor : (⌊max (target : ℚ) (current * s.policy.shrinkStepLimit)⌋ : ℚ) < current :=
      (Int.floor_le _).trans_lt further
    have bounded' :
        (target : ℚ) ≤ ⌊max (target : ℚ) (current * s.policy.shrinkStepLimit)⌋ := by
      exact_mod_cast bounded
    rw [if_neg past.le.not_gt, if_pos further]
    exact ⟨_, inside _ (above.trans bounded') (floor.le.trans high),
      Or.inr ⟨bounded', floor.le⟩, fun same => absurd same floor.ne⟩

theorem percentileOf_constant {values : List ℚ} {d : ℚ} (nonempty : values ≠ [])
    (only : ∀ x ∈ values, x = d) (percentile : ℚ) : percentileOf values percentile = d := by
  unfold percentileOf
  have sorted : ∀ x ∈ values.mergeSort, x = d := fun x mem => only x (List.mem_mergeSort.mp mem)
  have length : 0 < values.mergeSort.length := by
    rw [List.length_mergeSort]
    exact List.length_pos_of_ne_nil nonempty
  generalize values.mergeSort = ordered at sorted length
  split
  · exact absurd length (lt_irrefl 0)
  · exact sorted _ (List.mem_singleton_self _)
  · rw [List.getD_eq_getElem _ _ (by omega)]
    exact sorted _ (List.getElem_mem _)

def Only (d : ℚ) (durations : List ℚ) : Prop := durations ≠ [] ∧ ∀ x ∈ durations, x = d

def sampleWindow (policy : PollPolicy) : Nat := (max 1 policy.sampleWindow).toNat

theorem sampleWindow_pos (policy : PollPolicy) : 0 < sampleWindow policy := by
  unfold sampleWindow
  omega

theorem remember_eq (s : Settings) (d : ℚ) :
    s.remember d = (s.durations ++ [d]).rtake (sampleWindow s.policy) := by
  unfold Settings.remember List.rtake
  change (if sampleWindow s.policy < _ then _ else _) = _
  split_ifs with full
  · rfl
  · rw [Nat.sub_eq_zero_of_le (by omega), List.drop_zero]

theorem rtake_concat_rtake {α : Type} (l : List α) (x : α) {n : Nat} (positive : 0 < n) :
    (l.rtake n ++ [x]).rtake n = (l ++ [x]).rtake n := by
  obtain ⟨m, rfl⟩ : ∃ m, n = m + 1 := ⟨n - 1, by omega⟩
  rw [List.rtake_concat_succ, List.rtake_concat_succ]
  simp only [List.rtake_eq_reverse_take_reverse, List.reverse_reverse, List.take_take]
  rw [Nat.min_eq_left (Nat.le_succ m)]

theorem remember_only {s : Settings} {d : ℚ} (only : ∀ x ∈ s.durations, x = d) :
    Only d (s.remember d) := by
  rw [remember_eq]
  constructor
  · intro empty
    have positive := sampleWindow_pos s.policy
    have length := List.drop_eq_nil_iff.mp empty
    simp only [List.length_append, List.length_singleton] at length
    omega
  · intro x mem
    rcases List.mem_append.mp (List.mem_of_mem_drop mem) with old | new
    · exact only x old
    · exact List.mem_singleton.mp new

def observations (s : PollScheduler) (d : ℚ) : Nat → PollScheduler
  | 0 => s
  | k + 1 => (observations s d k).observe (some d) true

def targetInterval (policy : PollPolicy) (d : ℚ) : ℚ :=
  clampInterval (some ⌈d * max 1 policy.safetyFactor⌉) policy.minAutoInterval
    policy.maxAutoInterval

theorem observe_success (s : PollScheduler) {d : ℚ} (positive : 0 < d) (auto : s.mode = .auto) :
    (s.observe (some d) true).durations = s.remember d ∧
      (s.observe (some d) true).effectiveInterval =
        ({ s.toSettings with durations := s.remember d } : Settings).smoothAutoInterval
          (recommendedInterval s.policy (percentileOf (s.remember d) s.policy.percentile)
            s.effectiveInterval s.policy.minAutoInterval) := by
  have taken : s.toSettings.recorded (max 0 ((some d).getD 0)) true =
      { s.toSettings with durations := s.remember d } := by
    rw [Option.getD_some, max_eq_right positive.le, Settings.recorded, if_pos ⟨rfl, positive⟩]
  unfold PollScheduler.observe
  dsimp only
  rw [taken]
  simp only [Settings.nextEffective, Settings.recommendationMinimumInterval,
    Settings.observedDuration, auto, if_true, and_self]

theorem observations_keeps (s : PollScheduler) (d : ℚ) (k : Nat) :
    (observations s d k).policy = s.policy ∧ (observations s d k).mode = s.mode := by
  induction k with
  | zero => exact ⟨rfl, rfl⟩
  | succ k ih =>
    obtain ⟨policy, mode, _⟩ := observe_keeps (observations s d k) (some d) true
    exact ⟨policy.trans ih.1, mode.trans ih.2⟩

/-- The window after some observations, as the end of everything observed. -/
theorem durations_observations {s : PollScheduler} (auto : s.mode = .auto) {d : ℚ}
    (positive : 0 < d) (k : Nat) :
    (observations s d (k + 1)).durations =
      (s.durations ++ List.replicate (k + 1) d).rtake (sampleWindow s.policy) := by
  have next : ∀ j, (observations s d (j + 1)).durations =
      ((observations s d j).durations ++ [d]).rtake (sampleWindow s.policy) := fun j => by
    obtain ⟨policy, mode⟩ := observations_keeps s d j
    rw [← policy, ← remember_eq]
    exact (observe_success _ positive (mode.trans auto)).1
  induction k with
  | zero => exact next 0
  | succ k ih =>
    rw [next, ih, rtake_concat_rtake _ _ (sampleWindow_pos _), List.append_assoc,
      ← List.replicate_succ']

theorem only_of_window {s : PollScheduler} (auto : s.mode = .auto) {d : ℚ} (positive : 0 < d)
    {k : Nat} (long : sampleWindow s.policy ≤ k) : Only d (observations s d k).durations := by
  have window := sampleWindow_pos s.policy
  obtain ⟨k, rfl⟩ : ∃ j, k = j + 1 := ⟨k - 1, by omega⟩
  rw [durations_observations auto positive, List.rtake, List.drop_append,
    List.drop_eq_nil_of_le (by simp only [List.length_append, List.length_replicate]; omega),
    List.nil_append, List.drop_replicate]
  constructor
  · rw [Ne, List.replicate_eq_nil_iff]
    simp only [List.length_append, List.length_replicate]
    omega
  · exact fun x mem => List.eq_of_mem_replicate mem

theorem Only.observe {s : PollScheduler} (auto : s.mode = .auto) {d : ℚ} (positive : 0 < d)
    (only : Only d s.durations) : Only d (s.observe (some d) true).durations := by
  rw [(observe_success s positive auto).1]
  exact remember_only only.2

theorem Only.observations {s : PollScheduler} (auto : s.mode = .auto) {d : ℚ} (positive : 0 < d)
    {m : Nat} (only : Only d (observations s d m).durations) (k : Nat) :
    Only d (Polling.observations s d (m + k)).durations := by
  induction k with
  | zero => exact only
  | succ k ih => exact ih.observe ((observations_keeps s d (m + k)).2.trans auto) positive

theorem targetInterval_spec {policy : PollPolicy} (sound : Sound policy) (d : ℚ) :
    (∃ n : Int, targetInterval policy d = n) ∧ policy.minAutoInterval ≤ targetInterval policy d ∧
      targetInterval policy d ≤ policy.maxAutoInterval := by
  refine ⟨?_, le_clampInterval sound.ordered _, clampInterval_le _ _ _⟩
  obtain ⟨low, minimum⟩ := sound.minimum_integer
  obtain ⟨high, maximum⟩ := sound.maximum_integer
  refine ⟨min high (max low ⌈d * max 1 policy.safetyFactor⌉), ?_⟩
  rw [targetInterval, clampInterval, minimum, maximum]
  push_cast
  rfl

/-- An observation that leaves only `d` in the window: one step towards the target. -/
theorem observe_approaches {s : PollScheduler} (sound : Sound s.policy) (auto : s.mode = .auto)
    {d : ℚ} (positive : 0 < d) (only : Only d (s.observe (some d) true).durations) :
    ∃ after : Int, (s.observe (some d) true).effectiveInterval = after ∧
      Approached (targetInterval s.policy d) s.effectiveInterval after := by
  obtain ⟨durations, interval⟩ := observe_success s positive auto
  rw [durations] at only
  have aim : recommendedInterval s.policy (percentileOf (s.remember d) s.policy.percentile)
      s.effectiveInterval s.policy.minAutoInterval = targetInterval s.policy d := by
    rw [percentileOf_constant only.1 only.2, recommendedInterval, if_neg positive.not_ge]
    rfl
  obtain ⟨⟨target, integer⟩, above, below⟩ := targetInterval_spec sound d
  rw [interval, aim, integer]
  rw [integer] at above below
  obtain ⟨after, reached, approached⟩ := smoothAutoInterval_approaches
    (s := { s.toSettings with durations := s.remember d }) sound auto above below
  have clamped := toward_clampInterval above below s.effectiveInterval
  rw [← s.toSettings.clampEffective_auto auto] at clamped
  refine ⟨after, reached, clamped.trans approached.toward, fun same => ?_⟩
  -- Standing still, the step also stood still where the bounds put the interval.
  have stayed : s.clampEffective s.effectiveInterval = s.effectiveInterval :=
    clamped.antisymm (same ▸ approached.toward)
  exact stayed ▸ approached.still (same.trans stayed.symm)

/-- One constant duration, once the window holds nothing else: the interval goes one way, towards
    its target, arrives and stays. -/
structure Converges (s : PollScheduler) (d : ℚ) : Prop where
  toward : ∀ k, Toward (targetInterval s.policy d) (observations s d k).effectiveInterval
    (observations s d (k + 1)).effectiveInterval
  one_way : Monotone (fun k => (observations s d k).effectiveInterval) ∨
    Antitone (fun k => (observations s d k).effectiveInterval)
  settles : ∃ n, ∀ k, n ≤ k →
    (observations s d k).effectiveInterval = targetInterval s.policy d

theorem observations_add (s : PollScheduler) (d : ℚ) (m k : Nat) :
    observations s d (m + k) = observations (observations s d m) d k := by
  induction k with
  | zero => rfl
  | succ k ih => exact congrArg (fun t => PollScheduler.observe t (some d) true) ih

theorem converges_of_only {s : PollScheduler} (sound : Sound s.policy) (auto : s.mode = .auto)
    {d : ℚ} (positive : 0 < d) (only : Only d (s.observe (some d) true).durations) :
    Converges s d := by
  have steps : ∀ k, ∃ after : Int, (observations s d (k + 1)).effectiveInterval = after ∧
      Approached (targetInterval s.policy d) (observations s d k).effectiveInterval after := by
    intro k
    obtain ⟨policy, mode⟩ := observations_keeps s d k
    have later : Only d ((observations s d k).observe (some d) true).durations := by
      have all := Only.observations (m := 1) auto positive only k
      rwa [Nat.add_comm] at all
    rw [← policy]
    exact observe_approaches (policy ▸ sound) (mode.trans auto) positive later
  have toward : ∀ k, Toward (targetInterval s.policy d) (observations s d k).effectiveInterval
      (observations s d (k + 1)).effectiveInterval := fun k => by
    obtain ⟨after, reached, approached⟩ := steps k
    exact reached ▸ approached.toward
  choose after reached approached using steps
  obtain ⟨⟨target, integer⟩, _⟩ := targetInterval_spec sound d
  obtain ⟨n, settled⟩ := arrives (x := after) target
    (fun k => by
      have next := toward (k + 1)
      rw [reached, reached, integer] at next
      simpa only [Toward, Int.cast_le] using next)
    (fun k same => by
      have still := (approached (k + 1)).still (by rw [same, reached])
      rw [reached, integer] at still
      exact_mod_cast still)
  refine ⟨toward, monotone_or_antitone toward, n + 1, fun k late => ?_⟩
  obtain ⟨k, rfl⟩ : ∃ j, k = j + 1 := ⟨k - 1, by omega⟩
  rw [reached, settled k (by omega), integer]

/-- From a sound policy, the interval in force is in the bounds of its mode after every run of
    calls, with policy, mode and manual interval as the calls gave them; and a constant duration
    brings it, once the window holds only that, one way to its target. The window is full of it
    after as many observations as it takes. -/
theorem bounded_and_converging {policy : PollPolicy} (sound : Sound policy) :
    (∀ mode manualInterval calls, (∀ call ∈ calls, Call.Sound call) →
      EveryState step InBounds (.init policy mode manualInterval) calls) ∧
    (∀ mode manualInterval calls,
      Obeys (run step (.init policy mode manualInterval) calls)
        (run Asked.after { policy, mode, manualInterval } calls)) ∧
    ∀ s : PollScheduler, s.policy = policy → s.mode = .auto → ∀ d, 0 < d →
      (∀ k, sampleWindow policy ≤ k → Only d (observations s d k).durations) ∧
      ∀ m, Only d (observations s d (m + 1)).durations →
        Converges (observations s d m) d ∧
          targetInterval (observations s d m).policy d = targetInterval policy d := by
  refine ⟨?_, fun mode manualInterval => run_obeys (init_obeys policy mode manualInterval), ?_⟩
  · intro mode manualInterval calls given
    have start : Sound (PollScheduler.init policy mode manualInterval).policy := sound
    exact run_inBounds (s := PollScheduler.init policy mode manualInterval) start
      (init_inBounds sound mode manualInterval) given
  rintro s rfl auto d positive
  refine ⟨fun k long => only_of_window auto positive long, fun m only => ?_⟩
  obtain ⟨policy, mode⟩ := observations_keeps s d m
  exact ⟨converges_of_only (policy ▸ sound) (mode.trans auto) positive only,
    congrArg (targetInterval · d) policy⟩

theorem DEFAULT_POLL_POLICY_sound : Sound DEFAULT_POLL_POLICY where
  minimum_integer := ⟨10, rfl⟩
  maximum_integer := ⟨120, rfl⟩
  ordered := by norm_num [DEFAULT_POLL_POLICY]
  grows := by norm_num [DEFAULT_POLL_POLICY]
  shrink_nonneg := by norm_num [DEFAULT_POLL_POLICY]
  shrinks := by norm_num [DEFAULT_POLL_POLICY]

/-- A scheduler in auto mode that always takes 20 seconds ends at 26. -/
theorem twentySeconds_settle :
    ∃ n, ∀ k, n ≤ k →
      (observations (.init DEFAULT_POLL_POLICY "auto" (some 60)) 20 (10 + k)).effectiveInterval =
        26 := by
  obtain ⟨_, _, converging⟩ := bounded_and_converging DEFAULT_POLL_POLICY_sound
  obtain ⟨full, settling⟩ := converging (.init DEFAULT_POLL_POLICY "auto" (some 60)) rfl
    (by decide +kernel) 20 (by norm_num)
  obtain ⟨⟨_, _, n, settled⟩, aim⟩ := settling 10 (full 11 (by decide +kernel))
  have target : targetInterval DEFAULT_POLL_POLICY 20 = 26 := by decide +kernel
  refine ⟨n, fun k late => ?_⟩
  rw [observations_add, settled k late, aim, target]

end Polling
