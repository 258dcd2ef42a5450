import EybondLocal.ShadowLearning.Orchestrator
import Mathlib.Data.List.Infix

/-!
A learning run against any cloud, any session and any proxy whose observations are only added to.
The controls are sent in the order of the plan, and none is sent before the one before it was
answered and, if the cloud accepted it, seen by the proxy. So at most one accepted control can have
passed the proxy by, and a live run that returns reports exactly that one as leaked.
-/
namespace ShadowOrchestrator
open HookRun
open ShadowBackend (ShadowWriteObservation)

variable {ω α : Type} {hooks : Hooks ω} {log : ω → List ShadowWriteObservation}
  {options : Options} {s s' : Session ω} {cursor : Nat}

/-- The observation callbacks are those of one route, whose observations are only added to. -/
structure Hooks.OnRoute (hooks : Hooks ω) (log : ω → List ShadowWriteObservation) : Prop where
  cursor : hooks.observationCursor = some fun world => (log world).length
  since : hooks.currentObservationsSince = some fun cursor world => (log world).drop cursor
  waited : ∀ wait, hooks.waitForObservationsSince = some wait →
    ∀ cursor timeout world observations, (wait cursor timeout world).2 = .returned observations →
      observations = [] ∨ observations = (log (wait cursor timeout world).1).drop cursor
  dispatch_grows : ∀ item world, log world <+: log (hooks.dispatch item world).1
  wait_grows : ∀ wait, hooks.waitForObservationsSince = some wait →
    ∀ cursor timeout world, log world <+: log (wait cursor timeout world).1
  ready_grows : ∀ wait, hooks.waitUntilSessionReady = some wait →
    ∀ world, log world <+: log (wait world).1
  sleep_grows : ∀ delay world, log world <+: log (hooks.sleep delay world).1

namespace Hooks.OnRoute

theorem liveObservationCursor (route : hooks.OnRoute log) (world : ω) :
    hooks.liveObservationCursor world = (log world).length := by
  rw [Hooks.liveObservationCursor, route.cursor]

theorem observationsSince (route : hooks.OnRoute log) (cursor : Nat) (world : ω) :
    hooks.observationsSince cursor world = (log world).drop cursor := by
  rw [Hooks.observationsSince, route.since]

end Hooks.OnRoute

def Quiet (log : ω → List ShadowWriteObservation) (s s' : Session ω) : Prop :=
  log s.world <+: log s'.world ∧ s'.sent = s.sent ∧ s'.attempts = s.attempts

instance : IsPreorder (Session ω) (Quiet log) where
  refl _ := ⟨List.prefix_refl _, rfl, rfl⟩
  trans _ _ _ first second :=
    ⟨first.1.trans second.1, second.2.1.trans first.2.1, second.2.2.trans first.2.2⟩

theorem look_quiet (view : ω → α) : Run.Within (Quiet log) (look view) := Run.within_observe _

theorem awaiting_quiet {hook : ω → ω × Ending Failure α}
    (grows : ∀ world, log world <+: log (hook world).1) :
    Run.Within (Quiet log) (awaiting hook) :=
  fun s => ⟨grows s.world, rfl, rfl⟩

theorem reacquire_quiet (route : hooks.OnRoute log) :
    Run.Within (Quiet log) (reacquireSessionAfterSentControl hooks) := by
  refine Run.within_bind (look_quiet _) fun ready => ?_
  cases ready with
  | true => exact Run.within_pure true
  | false =>
    rw [if_neg Bool.false_ne_true]
    cases held : hooks.waitUntilSessionReady with
    | none => exact Run.within_pure false
    | some wait => exact awaiting_quiet (route.ready_grows wait held)

theorem renewDeadline_quiet (route : hooks.OnRoute log) (cursor : Nat) (timeout deadline : ℚ) :
    Run.Within (Quiet log) (renewDeadline hooks cursor timeout deadline) := by
  refine Run.within_bind (look_quiet hooks.sessionReady) fun ready => ?_
  split
  · exact Run.within_pure _
  · refine Run.within_bind (reacquire_quiet route) fun held => ?_
    split
    · exact look_quiet _
    · exact Run.within_pure none

def Found (log : ω → List ShadowWriteObservation) (cursor : Nat) (s : Session ω)
    (observations : List ShadowWriteObservation) : Prop :=
  observations = [] ∨ observations = (log s.world).drop cursor

theorem renewDeadline_found (route : hooks.OnRoute log) (cursor : Nat) (timeout deadline : ℚ) :
    Run.Returns (renewDeadline hooks cursor timeout deadline) s fun s' renewed =>
      ∀ later observations, renewed = some (later, observations) →
        Found log cursor s' observations := by
  refine Run.returns_observe ?_
  split
  · refine Run.returns_pure ?_
    rintro _ _ ⟨⟩
    exact Or.inl rfl
  · refine Run.returns_bind Run.returns_any fun s' held _ => ?_
    cases held with
    | false => exact Run.returns_pure fun _ _ none => by cases none
    | true =>
      rintro _ ⟨⟩ _ _ ⟨⟩
      exact Or.inr (route.observationsSince cursor s'.world)

section
variable {wait : Nat → ℚ → ω → ω × Ending Failure (List ShadowWriteObservation)}

theorem waitPasses_quiet (route : hooks.OnRoute log)
    (waits : hooks.waitForObservationsSince = some wait) (cursor : Nat) (timeout : ℚ)
    (passes : Nat) (deadline : ℚ) :
    Run.Within (Quiet log) (waitPasses hooks wait cursor timeout passes deadline) := by
  induction passes generalizing deadline with
  | zero => exact Run.within_call fun s => refl_of (Quiet log) s
  | succ passes ih =>
    refine Run.within_bind (renewDeadline_quiet route cursor timeout deadline) fun renewed => ?_
    cases renewed with
    | none => exact Run.within_pure none
    | some renewed =>
      obtain ⟨later, observations⟩ := renewed
      dsimp only
      split
      · exact Run.within_pure _
      · refine Run.within_bind (look_quiet _) fun now => ?_
        split
        · exact Run.within_pure _
        · refine Run.within_bind
            (awaiting_quiet fun world => route.wait_grows wait waits _ _ world) fun observed => ?_
          split
          · exact Run.within_pure _
          · exact ih later

theorem waitPasses_found (route : hooks.OnRoute log)
    (waits : hooks.waitForObservationsSince = some wait) (cursor : Nat) (timeout : ℚ)
    (passes : Nat) (deadline : ℚ) :
    Run.Returns (waitPasses hooks wait cursor timeout passes deadline) s fun s' found =>
      ∀ observations, found = some observations → Found log cursor s' observations := by
  induction passes generalizing deadline s with
  | zero =>
    intro found eq
    cases eq
  | succ passes ih =>
    refine Run.returns_bind (renewDeadline_found route cursor timeout deadline) ?_
    intro s₁ renewed fresh
    cases renewed with
    | none => exact Run.returns_pure fun _ none => by cases none
    | some renewed =>
      obtain ⟨later, observations⟩ := renewed
      dsimp only
      split
      · refine Run.returns_pure ?_
        rintro _ ⟨⟩
        exact fresh later observations rfl
      · refine Run.returns_observe ?_
        split
        · refine Run.returns_pure ?_
          rintro _ ⟨⟩
          exact Or.inl rfl
        · have answered : ∀ window, Run.Returns (awaiting (wait cursor window)) s₁
              fun s₂ observed => Found log cursor s₂ observed :=
            fun window observed returned =>
              route.waited wait waits cursor window s₁.world observed returned
          refine Run.returns_bind (answered _) fun s₂ observed found => ?_
          split
          · refine Run.returns_pure ?_
            rintro _ ⟨⟩
            exact found
          · exact ih later

end

theorem waitForAttempt_quiet (route : hooks.OnRoute log) (passes cursor : Nat) (timeout : ℚ) :
    Run.Within (Quiet log) (waitForAttemptObservations hooks passes cursor timeout) := by
  refine Run.within_bind (look_quiet _) fun existing => ?_
  split
  · exact Run.within_pure _
  · refine Run.within_bind (reacquire_quiet route) fun held => ?_
    cases held with
    | false => exact Run.within_pure none
    | true =>
      rw [if_pos rfl]
      cases waits : hooks.waitForObservationsSince with
      | none => exact Run.within_pure _
      | some wait =>
        exact Run.within_bind (look_quiet _) fun _ =>
          waitPasses_quiet route waits cursor timeout passes _

theorem waitForAttempt_found (route : hooks.OnRoute log) (passes cursor : Nat) (timeout : ℚ) :
    Run.Returns (waitForAttemptObservations hooks passes cursor timeout) s fun s' found =>
      ∀ observations, found = some observations → Found log cursor s' observations := by
  refine Run.returns_observe ?_
  split
  · refine Run.returns_pure ?_
    rintro _ ⟨⟩
    exact Or.inr (route.observationsSince cursor s.world)
  · refine Run.returns_bind Run.returns_any fun s' held _ => ?_
    cases held with
    | false => exact Run.returns_pure fun _ none => by cases none
    | true =>
      rw [if_pos rfl]
      cases waits : hooks.waitForObservationsSince with
      | none =>
        refine Run.returns_pure ?_
        rintro _ ⟨⟩
        exact Or.inl rfl
      | some wait => exact Run.returns_observe (waitPasses_found route waits cursor timeout passes _)

def Sent.reply (entry : Sent) : Option Reply :=
  match entry.answer with
  | .returned envelope => some (.response envelope.err envelope.desc)
  | .raised (.rejected err desc) => some (.rejection err desc)
  | _ => none

/-- The control was answered, and seen by the proxy if it was accepted, when the proxy had
    observed `writes` writes. -/
def Sent.SettledBy (entry : Sent) (writes : Nat) : Prop :=
  match entry.reply with
  | some (.response err _) => entry.cursor ≤ writes ∧ (err = 0 → entry.cursor < writes)
  | some (.rejection _ _) => entry.cursor ≤ writes
  | none => False

theorem Sent.SettledBy.mono {entry : Sent} {writes more : Nat} (settled : entry.SettledBy writes)
    (le : writes ≤ more) : entry.SettledBy more := by
  unfold Sent.SettledBy at settled ⊢
  split at settled
  · exact ⟨settled.1.trans le, fun accepted => (settled.2 accepted).trans_le le⟩
  · exact settled.trans le
  · exact settled.elim

structure Sends (log : ω → List ShadowWriteObservation) (s s' : Session ω) (entry : Sent) :
    Prop where
  sent : s'.sent = s.sent ++ [entry]
  attempts : s'.attempts = s.attempts
  grows : log s.world <+: log s'.world

theorem deliver_ends (route : hooks.OnRoute log) (item : PlanItem) (cursor : Nat) :
    Run.Ends (deliver hooks item cursor) s fun s' e => ∃ answer, Sends log s s' ⟨item, cursor, answer⟩ ∧
      ∀ reply, e = .returned reply → Sent.reply ⟨item, cursor, answer⟩ = some reply := by
  have grows := route.dispatch_grows item s.world
  rw [deliver, Run.ends_bind, Run.ends_caught, Run.Ends]
  cases sent : hooks.dispatch item s.world with
  | mk world answer =>
    have at_cloud : dispatch hooks item cursor s =
        ({ s with world := world, sent := s.sent ++ [⟨item, cursor, answer⟩] }, answer) := by
      rw [dispatch, sent]
    rw [sent] at grows
    rw [at_cloud]
    cases answer with
    | returned envelope =>
      refine ⟨_, ⟨rfl, rfl, grows⟩, ?_⟩
      rintro reply ⟨⟩
      rfl
    | cancelled => exact ⟨_, ⟨rfl, rfl, grows⟩, fun _ eq => by cases eq⟩
    | raised failure =>
      cases failure with
      | rejected err desc =>
        refine ⟨_, ⟨rfl, rfl, grows⟩, ?_⟩
        rintro reply ⟨⟩
        rfl
      | cloud => exact ⟨_, ⟨rfl, rfl, grows⟩, fun _ eq => by cases eq⟩
      | other => exact ⟨_, ⟨rfl, rfl, grows⟩, fun _ eq => by cases eq⟩

/-- What an attempt says is so: its write is the first that was observed from its cursor on, a write
    makes it captured and nothing else does, and it is leaked if it was accepted without a write. -/
structure Attempt.Sound (writes : List ShadowWriteObservation) (attempt : Attempt) : Prop where
  observed : ∀ write, attempt.observation = some write →
    ∃ cursor, attempt.observationCursorStart = some cursor ∧ writes[cursor]? = some write
  captured : attempt.status = .capturedNotApplied ↔ attempt.observation.isSome = true
  leaked : attempt.status = .leaked ↔
    attempt.hasSuccessResponse = true ∧ attempt.observation = none

theorem Attempt.Sound.mono {writes more : List ShadowWriteObservation} {attempt : Attempt}
    (sound : attempt.Sound writes) (grows : writes <+: more) : attempt.Sound more where
  observed write held := by
    obtain ⟨cursor, start, found⟩ := sound.observed write held
    obtain ⟨later, rfl⟩ := grows
    have inside := (List.getElem?_eq_some_iff.mp found).1
    exact ⟨cursor, start, (List.getElem?_append_left inside).trans found⟩
  captured := sound.captured
  leaked := sound.leaked

structure Attempt.Got (index : Nat) (item : PlanItem) (cursor : Nat) (reply : Reply)
    (attempt : Attempt) : Prop where
  index : attempt.sequenceIndex = index
  item : attempt.item = item
  start : attempt.observationCursorStart = some cursor
  reply : attempt.reply = some reply

section
variable {index : Nat} {item : PlanItem} {reply : Reply} {attempt : Attempt}
  {writes : List ShadowWriteObservation}

theorem replied_got (options : Options) (index : Nat) (item : PlanItem) (cursor : Nat)
    (reply : Reply) : ((newAttempt options index item).replied cursor reply).Got index item cursor
      reply :=
  ⟨rfl, rfl, rfl, rfl⟩

theorem Attempt.Got.leak (got : attempt.Got index item cursor reply) :
    attempt.leak.Got index item cursor reply :=
  ⟨got.index, got.item, got.start, got.reply⟩

theorem Attempt.Got.degrade (got : attempt.Got index item cursor reply) (reason : String) :
    (attempt.degrade reason).Got index item cursor reply :=
  ⟨got.index, got.item, got.start, got.reply⟩

theorem Attempt.Got.attachObservation (got : attempt.Got index item cursor reply)
    (observations : List ShadowWriteObservation) :
    (attempt.attachObservation observations).Got index item cursor reply := by
  cases observations with
  | nil => exact ⟨got.index, got.item, got.start, got.reply⟩
  | cons => exact ⟨got.index, got.item, got.start, got.reply⟩

theorem Attempt.Got.normalize (got : attempt.Got index item cursor reply) :
    attempt.normalizeCapturedNotApplied.Got index item cursor reply := by
  unfold Attempt.normalizeCapturedNotApplied
  repeat' split
  all_goals exact ⟨got.index, got.item, got.start, got.reply⟩

structure Attempt.Open (attempt : Attempt) : Prop where
  unobserved : attempt.observation = none
  uncaptured : attempt.status ≠ .capturedNotApplied
  unleaked : attempt.status ≠ .leaked
  undegraded : attempt.status ≠ .degraded

theorem replied_open (options : Options) (index : Nat) (item : PlanItem) (cursor : Nat)
    (reply : Reply) : ((newAttempt options index item).replied cursor reply).Open := by
  cases reply with
  | response => exact ⟨rfl, Status.noConfusion, Status.noConfusion, Status.noConfusion⟩
  | rejection => exact ⟨rfl, Status.noConfusion, Status.noConfusion, Status.noConfusion⟩

theorem replied_captured (options : Options) (index : Nat) (item : PlanItem) (cursor : Nat)
    (reply : Reply) (write : ShadowWriteObservation) (more : List ShadowWriteObservation) :
    let attached := (((newAttempt options index item).replied cursor reply).attachObservation
      (write :: more)).normalizeCapturedNotApplied
    attached.observation = some write ∧ attached.status = .capturedNotApplied := by
  cases reply with
  | rejection => exact ⟨rfl, rfl⟩
  | response err desc =>
    by_cases accepted : err = 0
    all_goals simp [Attempt.normalizeCapturedNotApplied, Attempt.attachObservation,
      Attempt.replied, Attempt.hasSuccessResponse, Attempt.capture, accepted]

theorem attached_nil (unobserved : attempt.observation = none) :
    (attempt.attachObservation []).normalizeCapturedNotApplied =
      { attempt with reason := "timeout_no_observed_write" } := by
  unfold Attempt.normalizeCapturedNotApplied
  rw [if_pos]
  · rfl
  · change attempt.observation.isNone = true
    rw [unobserved]
    rfl

theorem Attempt.Open.candidate (opened : attempt.Open) :
    attempt.isUnproxiedSuccessCandidate = attempt.hasSuccessResponse := by
  rw [Attempt.isUnproxiedSuccessCandidate, decide_eq_true opened.uncaptured, Bool.and_true]

theorem Attempt.Open.sound_leak (opened : attempt.Open)
    (accepted : attempt.hasSuccessResponse = true) : attempt.leak.Sound writes where
  observed write held := by
    rw [show attempt.leak.observation = none from opened.unobserved] at held
    cases held
  captured := by
    rw [show attempt.leak.observation = none from opened.unobserved]
    exact ⟨Status.noConfusion, Bool.noConfusion⟩
  leaked := ⟨fun _ => ⟨accepted, opened.unobserved⟩, fun _ => rfl⟩

theorem Attempt.Open.sound_degrade (opened : attempt.Open)
    (unaccepted : attempt.hasSuccessResponse = false) (reason : String) :
    (attempt.degrade reason).Sound writes where
  observed write held := by
    rw [show (attempt.degrade reason).observation = none from opened.unobserved] at held
    cases held
  captured := by
    rw [show (attempt.degrade reason).observation = none from opened.unobserved]
    exact ⟨Status.noConfusion, Bool.noConfusion⟩
  leaked := by
    rw [show (attempt.degrade reason).hasSuccessResponse = false from unaccepted]
    exact ⟨Status.noConfusion, fun accepted => Bool.noConfusion accepted.1⟩

theorem Attempt.Open.sound (opened : attempt.Open) (unaccepted : attempt.hasSuccessResponse = false) :
    attempt.Sound writes where
  observed write held := by
    rw [opened.unobserved] at held
    cases held
  captured := by
    rw [opened.unobserved]
    exact ⟨fun captured => absurd captured opened.uncaptured, Bool.noConfusion⟩
  leaked := by
    rw [unaccepted]
    exact ⟨fun leaked => absurd leaked opened.unleaked, fun accepted => Bool.noConfusion accepted.1⟩

/-- The run goes on after this attempt. -/
structure Attempt.Passed (attempt : Attempt) : Prop where
  unleaked : attempt.status ≠ .leaked
  undegraded : attempt.status ≠ .degraded

theorem Attempt.Open.passed (opened : attempt.Open) : attempt.Passed :=
  ⟨opened.unleaked, opened.undegraded⟩

theorem Attempt.Passed.of_captured (captured : attempt.status = .capturedNotApplied) :
    attempt.Passed where
  unleaked := by
    rw [captured]
    exact Status.noConfusion
  undegraded := by
    rw [captured]
    exact Status.noConfusion

theorem sound_of_captured (captured : attempt.status = .capturedNotApplied) {write}
    (held : attempt.observation = some write) {cursor : Nat}
    (start : attempt.observationCursorStart = some cursor) (found : writes[cursor]? = some write) :
    attempt.Sound writes where
  observed other same := by
    rw [held] at same
    cases same
    exact ⟨cursor, start, found⟩
  captured := by
    rw [held]
    exact ⟨fun _ => rfl, fun _ => captured⟩
  leaked := by
    rw [captured, held]
    exact ⟨Status.noConfusion, fun unseen => by cases unseen.2⟩

/-- Why the run stopped after an attempt. -/
def Stopped (options : Options) (attempt : Attempt) : Prop :=
  ¬ attempt.Passed ∨ attempt.status = .error ∧ options.continueOnError = false

structure Closes (log : ω → List ShadowWriteObservation) (s s' : Session ω) : Prop where
  grows : log s.world <+: log s'.world
  sent : s'.sent = s.sent

structure Keeps (log : ω → List ShadowWriteObservation) (options : Options) (s s' : Session ω)
    (goesOn : Bool) (kept : Attempt) : Prop where
  attempts : s'.attempts = s.attempts ++ [kept]
  sound : kept.Sound (log s'.world)
  passed : goesOn = true → kept.Passed
  stopped : goesOn = false → Stopped options kept

theorem carryOn_ends (route : hooks.OnRoute log) (observations : List ShadowWriteObservation)
    (sound : attempt.Sound (log s.world)) (passed : attempt.Passed) :
    Run.Ends (carryOn hooks options attempt observations) s fun s' e =>
      Closes log s s' ∧ ∀ goesOn, e = .returned goesOn →
        Keeps log options s s' goesOn attempt := by
  rw [carryOn, Run.ends_bind, Run.ends_call, Ending.next_returned, Run.ends_bind, keep,
    Run.ends_call, Ending.next_returned]
  split
  · rename_i broken
    simp only [Bool.and_eq_true, decide_eq_true_eq, Bool.not_eq_true'] at broken
    refine ⟨⟨List.prefix_refl _, rfl⟩, ?_⟩
    rintro _ ⟨⟩
    exact ⟨rfl, sound, fun _ => passed, fun _ => Or.inr broken⟩
  · split
    · have grows := route.sleep_grows options.delaySeconds s.world
      refine Run.ends_bind_of (?_ : Run.Ends _ _ fun s' _ => Closes log s s' ∧
        s'.attempts = s.attempts ++ [attempt]) ?_ ?_ ?_
      · exact ⟨⟨grows, rfl⟩, rfl⟩
      · rintro s' _ ⟨closes, attempts⟩
        refine ⟨closes, ?_⟩
        rintro _ ⟨⟩
        exact ⟨attempts, sound.mono closes.grows, fun _ => passed, Bool.noConfusion⟩
      · exact fun _ _ reached => ⟨reached.1, fun _ eq => by cases eq⟩
      · exact fun _ reached => ⟨reached.1, fun _ eq => by cases eq⟩
    · refine ⟨⟨List.prefix_refl _, rfl⟩, ?_⟩
      rintro _ ⟨⟩
      exact ⟨rfl, sound, fun _ => passed, Bool.noConfusion⟩

theorem keep_stops (kept : Attempt) (sound : kept.Sound (log s.world)) (stopped : ¬ kept.Passed) :
    Run.Ends (do keep kept; pure false : Learning ω Bool) s fun s' e =>
      Closes log s s' ∧ ∀ goesOn, e = .returned goesOn → Keeps log options s s' goesOn kept := by
  refine ⟨⟨List.prefix_refl _, rfl⟩, ?_⟩
  rintro _ ⟨⟩
  exact ⟨rfl, sound, Bool.noConfusion, fun _ => Or.inl stopped⟩

/-- What is concluded from an answered control and what the proxy was seen to observe since. -/
theorem conclude_ends (route : hooks.OnRoute log) (aborts : options.abortOnUnproxiedWrite = true)
    (index : Nat) (item : PlanItem) (cursor : Nat) (reply : Reply)
    {found : Option (List ShadowWriteObservation)}
    (seen : ∀ observations, found = some observations → Found log cursor s observations) :
    Run.Ends (conclude hooks options ((newAttempt options index item).replied cursor reply) found) s
      fun s' e => Closes log s s' ∧ ∀ goesOn, e = .returned goesOn →
        ∃ kept, kept.Got index item cursor reply ∧ Keeps log options s s' goesOn kept := by
  have got := replied_got options index item cursor reply
  have opened := replied_open options index item cursor reply
  have captured := replied_captured options index item cursor reply
  generalize (newAttempt options index item).replied cursor reply = attempt at got opened captured ⊢
  have told : ∀ {m : Learning ω Bool} {kept : Attempt}, kept.Got index item cursor reply →
      Run.Ends m s (fun s' e => Closes log s s' ∧ ∀ goesOn, e = .returned goesOn →
        Keeps log options s s' goesOn kept) →
      Run.Ends m s fun s' e => Closes log s s' ∧ ∀ goesOn, e = .returned goesOn →
        ∃ kept, kept.Got index item cursor reply ∧ Keeps log options s s' goesOn kept :=
    fun {_ kept} got ends => Run.ends_mono
      (fun _ _ reached => ⟨reached.1, fun goesOn eq => ⟨kept, got, reached.2 goesOn eq⟩⟩) ends
  cases found with
  | none =>
    rw [conclude, aborts, Bool.true_and, opened.candidate]
    split
    · rename_i accepted
      exact told got.leak (keep_stops _ (opened.sound_leak accepted) fun passed =>
        passed.unleaked rfl)
    · rename_i unaccepted
      exact told (got.degrade _) (keep_stops _
        (opened.sound_degrade (Bool.eq_false_iff.mpr unaccepted) _) fun passed =>
          passed.undegraded rfl)
  | some observations =>
    have attached := (got.attachObservation observations).normalize
    rw [conclude]
    cases observations with
    | nil =>
      have reopened : ({ attempt with reason := "timeout_no_observed_write" } : Attempt).Open :=
        ⟨opened.unobserved, opened.uncaptured, opened.unleaked, opened.undegraded⟩
      rw [attached_nil opened.unobserved] at attached ⊢
      rw [aborts, Bool.true_and, reopened.candidate]
      split
      · rename_i accepted
        exact told attached.leak (keep_stops _ (reopened.sound_leak accepted) fun passed =>
          passed.unleaked rfl)
      · rename_i unaccepted
        exact told attached (carryOn_ends route [] (reopened.sound (Bool.eq_false_iff.mpr unaccepted))
          reopened.passed)
    | cons write more =>
      obtain ⟨observation, status⟩ := captured write more
      have position : (log s.world)[cursor]? = some write := by
        rcases seen _ rfl with none | all
        · cases none
        · rw [← List.head?_drop, ← all]
          rfl
      rw [Attempt.isUnproxiedSuccessCandidate, status, if_neg (by simp)]
      exact told attached (carryOn_ends route _
        (sound_of_captured status observation attached.start position) (.of_captured status))

end

/-- What is kept of a control that was sent. -/
structure Attempt.Tells (writes : List ShadowWriteObservation) (entry : Sent) (attempt : Attempt) :
    Prop where
  item : attempt.item = entry.item
  start : attempt.observationCursorStart = some entry.cursor
  reply : attempt.reply = entry.reply
  answered : attempt.reply.isSome = true
  reached : entry.cursor ≤ writes.length
  sound : attempt.Sound writes

/-- What is kept of an item the session was not ready for. -/
structure Attempt.Unsent (attempt : Attempt) : Prop where
  start : attempt.observationCursorStart = none
  reply : attempt.reply = none
  unobserved : attempt.observation = none
  status : attempt.status = .degraded

structure Delivers (log : ω → List ShadowWriteObservation) (s s' : Session ω) (item : PlanItem)
    (entry : Sent) : Prop where
  grows : log s.world <+: log s'.world
  sent : s'.sent = s.sent ++ [entry]
  item : entry.item = item
  after : (log s.world).length ≤ entry.cursor
  reached : entry.cursor ≤ (log s'.world).length

theorem delivers_of {s₁ s₂ : Session ω} {item : PlanItem} {answer : Ending Failure ApiEnvelope}
    (before : Quiet log s s₁) (sends : Sends log s₁ s₂ ⟨item, (log s₁.world).length, answer⟩)
    (closes : Closes log s₂ s') :
    Delivers log s s' item ⟨item, (log s₁.world).length, answer⟩ where
  grows := (before.1.trans sends.grows).trans closes.grows
  sent := by rw [closes.sent, sends.sent, before.2.1]
  item := rfl
  after := before.1.length_le
  reached := (sends.grows.trans closes.grows).length_le

structure Skips (log : ω → List ShadowWriteObservation) (s s' : Session ω) (index : Nat)
    (item : PlanItem) (kept : Attempt) : Prop where
  attempts : s'.attempts = s.attempts ++ [kept]
  index : kept.sequenceIndex = index
  item : kept.item = item
  unsent : kept.Unsent

structure Records (log : ω → List ShadowWriteObservation) (options : Options) (s s' : Session ω)
    (index : Nat) (entry : Sent) (goesOn : Bool) (kept : Attempt) : Prop
    extends Keeps log options s s' goesOn kept where
  index : kept.sequenceIndex = index
  tells : kept.Tells (log s'.world) entry

/-- One item of a live run: the session is not ready for it, or its control is sent and, where the
    run does not end there, kept. -/
theorem attemptItem_ends (route : hooks.OnRoute log) (aborts : options.abortOnUnproxiedWrite = true)
    (live : options.dryRun = false) (passes index : Nat) (item : PlanItem) :
    Run.Ends (attemptItem hooks options passes index item) s fun s' e =>
      (Closes log s s' ∧ ∀ goesOn, e = .returned goesOn →
        goesOn = false ∧ ∃ kept, Skips log s s' index item kept) ∨
      ∃ entry, Delivers log s s' item entry ∧ ∀ goesOn, e = .returned goesOn →
        ∃ kept, Records log options s s' index entry goesOn kept := by
  rw [attemptItem, live, if_neg Bool.false_ne_true]
  have reacquired : Run.Ends _ s fun s₁ _ => Quiet log s s₁ := reacquire_quiet route s
  refine Run.ends_bind_of reacquired ?_ ?_ ?_
  · intro s₁ ready before
    cases ready with
    | false =>
      refine Or.inl ⟨⟨before.1, before.2.1⟩, ?_⟩
      rintro _ ⟨⟩
      exact ⟨rfl, _, congrArg (· ++ _) before.2.2, rfl, rfl, rfl, rfl, rfl, rfl⟩
    | true =>
      rw [if_pos rfl, Run.ends_bind, look, Run.ends_observe, Ending.next_returned,
        route.liveObservationCursor]
      refine Run.ends_bind_of (deliver_ends route item _) ?_ ?_ ?_
      · rintro s₂ reply ⟨answer, sends, replies⟩
        have given := replies reply rfl
        refine Run.ends_bind_of (?_ : Run.Ends _ _ fun s₃ e => Quiet log s₂ s₃ ∧ ∀ found,
          e = .returned found → ∀ observations, found = some observations →
            Found log (log s₁.world).length s₃ observations) ?_ ?_ ?_
        · exact ⟨waitForAttempt_quiet route passes _ _ s₂, waitForAttempt_found route passes _ _⟩
        · rintro s₃ found ⟨waited, seen⟩
          refine Run.ends_mono ?_ (conclude_ends route aborts index item _ reply (seen found rfl))
          rintro s₄ e ⟨closes, keeps⟩
          have delivers := delivers_of before sends
            ⟨waited.1.trans closes.grows, closes.sent.trans waited.2.1⟩
          refine Or.inr ⟨_, delivers, fun goesOn returned => ?_⟩
          obtain ⟨kept, got, keeps⟩ := keeps goesOn returned
          have attempts : s₄.attempts = s.attempts ++ [kept] := by
            rw [keeps.attempts, waited.2.2, sends.attempts, before.2.2]
          refine ⟨kept, { keeps with attempts, index := got.index, tells := ?_ }⟩
          exact ⟨got.item, got.start, got.reply.trans given.symm, by rw [got.reply]; rfl,
            delivers.reached, keeps.sound⟩
        · rintro s₃ _ ⟨waited, _⟩
          exact Or.inr ⟨_, delivers_of before sends ⟨waited.1, waited.2.1⟩, fun _ eq => by cases eq⟩
        · rintro s₃ ⟨waited, _⟩
          exact Or.inr ⟨_, delivers_of before sends ⟨waited.1, waited.2.1⟩, fun _ eq => by cases eq⟩
      · rintro s₂ _ ⟨answer, sends, _⟩
        exact Or.inr ⟨_, delivers_of before sends ⟨List.prefix_refl _, rfl⟩, fun _ eq => by cases eq⟩
      · rintro s₂ ⟨answer, sends, _⟩
        exact Or.inr ⟨_, delivers_of before sends ⟨List.prefix_refl _, rfl⟩, fun _ eq => by cases eq⟩
  · exact fun s₁ _ before => Or.inl ⟨⟨before.1, before.2.1⟩, fun _ eq => by cases eq⟩
  · exact fun s₁ before => Or.inl ⟨⟨before.1, before.2.1⟩, fun _ eq => by cases eq⟩

section
variable {entry : Sent} {attempt : Attempt} {writes more : List ShadowWriteObservation}

theorem Attempt.Tells.mono (tells : attempt.Tells writes entry) (grows : writes <+: more) :
    attempt.Tells more entry :=
  { tells with
    reached := tells.reached.trans grows.length_le
    sound := tells.sound.mono grows }

/-- A control the run went on after was answered, and seen if it was accepted. -/
theorem Attempt.Tells.settled (tells : attempt.Tells writes entry) (passed : attempt.Passed) :
    entry.SettledBy writes.length := by
  have answered := tells.answered
  rw [tells.reply] at answered
  unfold Sent.SettledBy
  cases given : entry.reply with
  | none =>
    rw [given] at answered
    cases answered
  | some reply =>
    cases reply with
    | rejection err desc => exact tells.reached
    | response err desc =>
      refine ⟨tells.reached, fun accepted => ?_⟩
      have success : attempt.hasSuccessResponse = true := by
        rw [Attempt.hasSuccessResponse, tells.reply, given, accepted]
        rfl
      cases held : attempt.observation with
      | none => exact absurd (tells.sound.leaked.mpr ⟨success, held⟩) passed.unleaked
      | some write =>
        obtain ⟨cursor, start, found⟩ := tells.sound.observed write held
        cases tells.start.symm.trans start
        exact (List.getElem?_eq_some_iff.mp found).1

end

/-- Two attempts that have each been given a write have been given two writes. -/
def Attempt.ClaimsBefore (earlier later : Attempt) : Prop :=
  ∀ first second, earlier.observationCursorStart = some first →
    later.observationCursorStart = some second → earlier.observation.isSome = true → first < second

/-- The books of a live run that has gone through `done`. -/
structure Books (log : ω → List ShadowWriteObservation) (start : Nat) (done : List PlanItem)
    (s : Session ω) : Prop where
  grown : start ≤ (log s.world).length
  sent : s.sent.map Sent.item = done
  since : ∀ entry ∈ s.sent, start ≤ entry.cursor
  tells : List.Forall₂ (fun entry attempt => attempt.Tells (log s.world) entry) s.sent s.attempts
  numbered : s.attempts.map Attempt.sequenceIndex = List.range s.attempts.length
  passed : ∀ attempt ∈ s.attempts, attempt.Passed
  spaced : s.sent.Pairwise fun earlier later => earlier.SettledBy later.cursor
  claims : s.attempts.Pairwise Attempt.ClaimsBefore

structure Accounted (start : Nat) (plan : List PlanItem) (s : Session ω) : Prop where
  in_order : s.sent.map Sent.item <+: plan
  since : ∀ entry ∈ s.sent, start ≤ entry.cursor
  settled : s.sent.Pairwise fun earlier later => earlier.SettledBy later.cursor

structure Told (log : ω → List ShadowWriteObservation) (options : Options) (plan : List PlanItem)
    (s : Session ω) : Prop where
  in_plan : s.attempts.map Attempt.item <+: plan
  numbered : s.attempts.map Attempt.sequenceIndex = List.range s.attempts.length
  tells : List.Forall₂ (fun entry attempt => attempt.Tells (log s.world) entry) s.sent
    (s.attempts.filter (·.reply.isSome))
  unsent : ∀ attempt ∈ s.attempts, attempt.reply = none → attempt.Unsent
  passed : ∀ attempt ∈ s.attempts.dropLast, attempt.Passed
  claims : s.attempts.Pairwise Attempt.ClaimsBefore
  stopped : s.attempts.map Attempt.item = plan ∨
    ∃ last, s.attempts.getLast? = some last ∧ Stopped options last

section
variable {entries : List Sent} {told : List Attempt} {writes : List ShadowWriteObservation}
  {start : Nat} {done rest : List PlanItem} {item : PlanItem} {entry : Sent} {kept : Attempt}

theorem items_of_tells (tells : List.Forall₂ (fun entry attempt => attempt.Tells writes entry)
    entries told) : told.map Attempt.item = entries.map Sent.item := by
  induction tells with
  | nil => rfl
  | cons first _ ih => rw [List.map_cons, List.map_cons, first.item, ih]

theorem answered_of_tells (tells : List.Forall₂ (fun entry attempt => attempt.Tells writes entry)
    entries told) : ∀ attempt ∈ told, attempt.reply.isSome = true := by
  induction tells with
  | nil => exact fun _ member => by cases member
  | cons first _ ih => exact List.forall_mem_cons.mpr ⟨first.answered, ih⟩

theorem filter_of_tells (tells : List.Forall₂ (fun entry attempt => attempt.Tells writes entry)
    entries told) : told.filter (·.reply.isSome) = told :=
  List.filter_eq_self.mpr (answered_of_tells tells)

/-- An attempt without a reply is none of those that tell of a control. -/
theorem unsent_of_tells (tells : List.Forall₂ (fun entry attempt => attempt.Tells writes entry)
    entries told) (attempt : Attempt) (member : attempt ∈ told) (unanswered : attempt.reply = none) :
    attempt.Unsent := by
  have answered := answered_of_tells tells attempt member
  rw [unanswered] at answered
  cases answered

theorem settled_of_tells (tells : List.Forall₂ (fun entry attempt => attempt.Tells writes entry)
    entries told) (passed : ∀ attempt ∈ told, attempt.Passed) :
    ∀ entry ∈ entries, entry.SettledBy writes.length := by
  induction tells with
  | nil => exact fun _ member => by cases member
  | cons first _ ih =>
    obtain ⟨now, later⟩ := List.forall_mem_cons.mp passed
    exact List.forall_mem_cons.mpr ⟨first.settled now, ih later⟩

/-- What a write has been given to was sent before anything after it. -/
theorem claimsBefore_of_sound {later : Attempt} (sound : kept.Sound writes)
    (after : ∀ cursor, later.observationCursorStart = some cursor → writes.length ≤ cursor) :
    kept.ClaimsBefore later := by
  intro first second start next observed
  obtain ⟨write, held⟩ := Option.isSome_iff_exists.mp observed
  obtain ⟨cursor, start', found⟩ := sound.observed write held
  cases start.symm.trans start'
  exact (List.getElem?_eq_some_iff.mp found).1.trans_le (after second next)

theorem numbered_snoc {attempts : List Attempt}
    (numbered : attempts.map Attempt.sequenceIndex = List.range attempts.length)
    (index : kept.sequenceIndex = attempts.length) :
    (attempts ++ [kept]).map Attempt.sequenceIndex = List.range (attempts ++ [kept]).length := by
  rw [List.map_append, numbered, List.map_singleton, index, List.length_append,
    List.length_singleton, List.range_succ]

theorem after_of_tells (delivers : Delivers log s s' item entry) (tells : kept.Tells writes entry)
    (cursor : Nat) (start : kept.observationCursorStart = some cursor) :
    (log s.world).length ≤ cursor := by
  cases tells.start.symm.trans start
  exact delivers.after

namespace Books
variable (books : Books log start done s)
include books

theorem length_attempts : s.attempts.length = done.length := by
  rw [← books.tells.length_eq, ← books.sent, List.length_map]

theorem sound : ∀ attempt ∈ s.attempts, attempt.Sound (log s.world) := by
  have tells := books.tells
  generalize s.sent = entries at tells
  generalize s.attempts = told at tells
  induction tells with
  | nil => exact fun _ member => by cases member
  | cons first _ ih => exact List.forall_mem_cons.mpr ⟨first.sound, ih⟩

theorem accounted (closes : Closes log s s') : Accounted start (done ++ rest) s' := by
  rw [← books.sent]
  constructor
  · rw [closes.sent]
    exact List.prefix_append _ _
  · rw [closes.sent]
    exact books.since
  · rw [closes.sent]
    exact books.spaced

theorem spaced_next (delivers : Delivers log s s' item entry) :
    s'.sent.Pairwise fun earlier later => earlier.SettledBy later.cursor := by
  rw [delivers.sent, List.pairwise_append]
  refine ⟨books.spaced, List.pairwise_singleton _ _, fun earlier member last only => ?_⟩
  rw [List.mem_singleton.mp only]
  exact (settled_of_tells books.tells books.passed earlier member).mono delivers.after

theorem since_next (delivers : Delivers log s s' item entry) :
    ∀ sent ∈ s'.sent, start ≤ sent.cursor := by
  rw [delivers.sent, List.forall_mem_append]
  exact ⟨books.since, List.forall_mem_singleton.mpr (books.grown.trans delivers.after)⟩

theorem sent_next (delivers : Delivers log s s' item entry) :
    s'.sent.map Sent.item = done ++ [item] := by
  rw [delivers.sent, List.map_append, books.sent, List.map_singleton, delivers.item]

theorem accounted_next (delivers : Delivers log s s' item entry) :
    Accounted start (done ++ item :: rest) s' where
  in_order := by
    rw [books.sent_next delivers, List.append_cons done item rest]
    exact List.prefix_append _ _
  since := books.since_next delivers
  settled := books.spaced_next delivers

theorem tells_next {goesOn : Bool} (delivers : Delivers log s s' item entry)
    (records : Records log options s s' done.length entry goesOn kept) :
    List.Forall₂ (fun entry attempt => attempt.Tells (log s'.world) entry) s'.sent s'.attempts := by
  rw [delivers.sent, records.attempts]
  exact List.rel_append (books.tells.imp fun _ _ tells => tells.mono delivers.grows)
    (.cons records.tells .nil)

theorem claims_next (attempts : s'.attempts = s.attempts ++ [kept])
    (after : ∀ cursor, kept.observationCursorStart = some cursor →
      (log s.world).length ≤ cursor) : s'.attempts.Pairwise Attempt.ClaimsBefore := by
  rw [attempts, List.pairwise_append]
  refine ⟨books.claims, List.pairwise_singleton _ _, fun earlier member last only => ?_⟩
  rw [List.mem_singleton.mp only]
  exact claimsBefore_of_sound (books.sound earlier member) after

theorem numbered_next (attempts : s'.attempts = s.attempts ++ [kept])
    (index : kept.sequenceIndex = done.length) :
    s'.attempts.map Attempt.sequenceIndex = List.range s'.attempts.length := by
  rw [attempts]
  exact numbered_snoc books.numbered (index.trans books.length_attempts.symm)

theorem next (delivers : Delivers log s s' item entry)
    (records : Records log options s s' done.length entry true kept) :
    Books log start (done ++ [item]) s' where
  grown := books.grown.trans delivers.grows.length_le
  sent := books.sent_next delivers
  since := books.since_next delivers
  tells := books.tells_next delivers records
  numbered := books.numbered_next records.attempts records.index
  passed := by
    rw [records.attempts, List.forall_mem_append]
    exact ⟨books.passed, List.forall_mem_singleton.mpr (records.passed rfl)⟩
  spaced := books.spaced_next delivers
  claims := books.claims_next records.attempts (after_of_tells delivers records.tells)

theorem told_done : Told log options done s where
  in_plan := by rw [items_of_tells books.tells, books.sent]
  numbered := books.numbered
  tells := (filter_of_tells books.tells).symm ▸ books.tells
  unsent := unsent_of_tells books.tells
  passed attempt member := books.passed attempt (List.mem_of_mem_dropLast member)
  claims := books.claims
  stopped := Or.inl (by rw [items_of_tells books.tells, books.sent])

/-- The run stops at a control that was sent. -/
theorem told_stopped (delivers : Delivers log s s' item entry)
    (records : Records log options s s' done.length entry false kept) :
    Told log options (done ++ item :: rest) s' where
  in_plan := by
    rw [items_of_tells (books.tells_next delivers records), books.sent_next delivers,
      List.append_cons done item rest]
    exact List.prefix_append _ _
  numbered := books.numbered_next records.attempts records.index
  tells := by
    rw [filter_of_tells (books.tells_next delivers records)]
    exact books.tells_next delivers records
  unsent := unsent_of_tells (books.tells_next delivers records)
  passed := by
    rw [records.attempts, List.dropLast_concat]
    exact books.passed
  claims := books.claims_next records.attempts (after_of_tells delivers records.tells)
  stopped := Or.inr ⟨kept, by rw [records.attempts, List.getLast?_concat], records.stopped rfl⟩

/-- The run stops at an item the session is not ready for. -/
theorem told_unready (closes : Closes log s s') (skips : Skips log s s' done.length item kept) :
    Told log options (done ++ item :: rest) s' where
  in_plan := by
    rw [skips.attempts, List.map_append, items_of_tells books.tells, books.sent,
      List.map_singleton, skips.item, List.append_cons done item rest]
    exact List.prefix_append _ _
  numbered := books.numbered_next skips.attempts skips.index
  tells := by
    rw [skips.attempts, List.filter_append, filter_of_tells books.tells, closes.sent,
      List.filter_cons_of_neg (by simp [skips.unsent.reply]), List.filter_nil, List.append_nil]
    exact books.tells.imp fun _ _ tells => tells.mono closes.grows
  unsent attempt member unanswered := by
    rw [skips.attempts, List.mem_append, List.mem_singleton] at member
    rcases member with old | rfl
    · exact unsent_of_tells books.tells attempt old unanswered
    · exact skips.unsent
  passed := by
    rw [skips.attempts, List.dropLast_concat]
    exact books.passed
  claims := books.claims_next skips.attempts fun cursor start => by
    rw [skips.unsent.start] at start
    cases start
  stopped := Or.inr ⟨kept, by rw [skips.attempts, List.getLast?_concat],
    Or.inl fun passed => passed.undegraded skips.unsent.status⟩

end Books

/-- Item by item, from books that are kept so far. -/
theorem attemptPlan_ends (route : hooks.OnRoute log) (aborts : options.abortOnUnproxiedWrite = true)
    (live : options.dryRun = false) (passes : Nat) (books : Books log start done s) :
    Run.Ends (attemptPlan hooks options passes done.length rest) s fun s' e =>
      Accounted start (done ++ rest) s' ∧
        ∀ finished, e = .returned finished → Told log options (done ++ rest) s' := by
  induction rest generalizing done s with
  | nil =>
    have closes : Closes log s s := ⟨List.prefix_refl _, rfl⟩
    rw [List.append_nil]
    exact ⟨List.append_nil done ▸ books.accounted closes, fun _ _ => books.told_done⟩
  | cons item rest ih =>
    refine Run.ends_bind_of (attemptItem_ends route aborts live passes done.length item) ?_ ?_ ?_
    · intro s' goesOn outcome
      cases goesOn with
      | true =>
        rcases outcome with ⟨_, stops⟩ | ⟨entry, delivers, keeps⟩
        · cases (stops true rfl).1
        · obtain ⟨kept, records⟩ := keeps true rfl
          have further := ih (books.next delivers records)
          rw [List.length_append, List.length_singleton, ← List.append_cons] at further
          exact further
      | false =>
        rcases outcome with ⟨closes, stops⟩ | ⟨entry, delivers, keeps⟩
        · obtain ⟨_, kept, skips⟩ := stops false rfl
          exact ⟨books.accounted closes, fun _ _ => books.told_unready closes skips⟩
        · obtain ⟨kept, records⟩ := keeps false rfl
          exact ⟨books.accounted_next delivers, fun _ _ => books.told_stopped delivers records⟩
    · rintro s' _ (⟨closes, _⟩ | ⟨entry, delivers, _⟩)
      · exact ⟨books.accounted closes, fun _ eq => by cases eq⟩
      · exact ⟨books.accounted_next delivers, fun _ eq => by cases eq⟩
    · rintro s' (⟨closes, _⟩ | ⟨entry, delivers, _⟩)
      · exact ⟨books.accounted closes, fun _ eq => by cases eq⟩
      · exact ⟨books.accounted_next delivers, fun _ eq => by cases eq⟩

theorem dryItem_silent (dry : options.dryRun = true) (passes index : Nat) (item : PlanItem) :
    Run.Ends (attemptItem hooks options passes index item) s fun s' _ => s'.sent = s.sent := by
  rw [attemptItem, dry, if_pos rfl]
  rfl

theorem dryPlan_silent (dry : options.dryRun = true) (passes index : Nat) (plan : List PlanItem) :
    Run.Ends (attemptPlan hooks options passes index plan) s fun s' _ => s'.sent = s.sent := by
  induction plan generalizing index s with
  | nil => rfl
  | cons item rest ih =>
    refine Run.ends_bind_of (dryItem_silent dry passes index item) ?_ ?_ ?_
    · intro s' goesOn silent
      cases goesOn with
      | true => exact Run.ends_mono (fun _ _ later => later.trans silent) (ih (index + 1))
      | false => exact silent
    · exact fun _ _ silent => silent
    · exact fun _ silent => silent

theorem books_start (log : ω → List ShadowWriteObservation) (world : ω) :
    Books log (log world).length [] (Session.start world) where
  grown := le_rfl
  sent := rfl
  since _ member := by cases member
  tells := .nil
  numbered := rfl
  passed _ member := by cases member
  spaced := .nil
  claims := .nil

theorem accounted_of_silent (silent : s.sent = []) (plan : List PlanItem) : Accounted start plan s where
  in_order := by
    rw [silent]
    exact List.nil_prefix
  since := by
    rw [silent]
    exact fun _ member => by cases member
  settled := by
    rw [silent]
    exact .nil

end

variable {plan : List PlanItem}

/-- However a run ends: the controls are sent in the order of the plan, each when the one before it
    was answered and, if the cloud accepted it, seen by the proxy. So only the last control that was
    sent can have passed the proxy by. -/
theorem controls_settled (route : hooks.OnRoute log) (aborts : options.abortOnUnproxiedWrite = true)
    (passes : Nat) (world : ω) :
    Run.Ends (orchestrateShadowLearningSettings hooks options passes plan) (Session.start world)
      fun session _ => Accounted (log world).length plan session := by
  have idle : Accounted (log world).length plan (Session.start world) := accounted_of_silent rfl plan
  unfold orchestrateShadowLearningSettings
  split
  · exact idle
  · split
    · exact idle
    · rw [Run.ends_bind, look, Run.ends_observe, Ending.next_returned]
      cases dry : options.dryRun with
      | true =>
        refine Run.ends_bind_of (dryPlan_silent dry passes 0 plan) ?_ ?_ ?_
        · exact fun _ _ silent => accounted_of_silent silent plan
        · exact fun _ _ silent => accounted_of_silent silent plan
        · exact fun _ silent => accounted_of_silent silent plan
      | false =>
        refine Run.ends_bind_of
          (attemptPlan_ends route aborts dry passes (books_start log world)) ?_ ?_ ?_
        · exact fun _ _ ended => ended.1
        · exact fun _ _ ended => ended.1
        · exact fun _ ended => ended.1

/-- What a live run reports, against what was sent and what the proxy has observed. -/
structure Reported (log : ω → List ShadowWriteObservation) (options : Options) (start : Nat)
    (plan : List PlanItem) (session : Session ω) (result : Result) : Prop where
  results : result.results = session.attempts
  told : Told log options plan session
  matched : result.correlation.matched = result.results.filter (·.observation.isSome)
  unmatched : ∀ write ∈ (log session.world).drop start, write ∈ result.correlation.unmatchedWrites ∨
    ∃ attempt ∈ result.correlation.matched, ∃ own, attempt.observation = some own ∧
      own.rawPayloadHex = write.rawPayloadHex
  leaked : result.leakedCount + result.degradedCount ≤ 1

theorem ordered_of_numbered {attempts : List Attempt}
    (numbered : attempts.map Attempt.sequenceIndex = List.range attempts.length) :
    attempts.mergeSort (fun first second => first.sequenceIndex ≤ second.sequenceIndex) =
      attempts := by
  have increasing : (attempts.map Attempt.sequenceIndex).Pairwise (· < ·) := by
    rw [numbered]
    exact List.pairwise_lt_range
  refine List.mergeSort_of_pairwise ((List.pairwise_map.mp increasing).imp ?_)
  exact fun before => decide_eq_true before.le

theorem unmatched_or_matched (attempts : List Attempt) (observations : List ShadowWriteObservation)
    {write : ShadowWriteObservation} (member : write ∈ observations) :
    let summary := summarizeShadowLearningAttempts attempts observations
    write ∈ summary.unmatchedWrites ∨ ∃ attempt ∈ summary.matched, ∃ own,
      attempt.observation = some own ∧ own.rawPayloadHex = write.rawPayloadHex := by
  intro summary
  by_cases claimed : write.rawPayloadHex ∈ matchedPayloadHex summary.matched
  · obtain ⟨attempt, matched, named⟩ :=
      List.mem_filterMap.mp (List.mem_filter.mp claimed).1
    obtain ⟨own, held, same⟩ := Option.map_eq_some_iff.mp named
    exact Or.inr ⟨attempt, matched, own, held, same⟩
  · exact Or.inl (List.mem_filter.mpr ⟨member, decide_eq_true claimed⟩)

theorem stops_le_one {attempts : List Attempt}
    (passed : ∀ attempt ∈ attempts.dropLast, attempt.Passed) :
    attempts.countP (·.status = .leaked) + attempts.countP (·.status = .degraded) ≤ 1 := by
  rcases attempts.eq_nil_or_concat with rfl | ⟨earlier, last, rfl⟩
  · decide
  · rw [List.concat_eq_append] at passed ⊢
    rw [List.dropLast_concat] at passed
    have none_leaked : earlier.countP (·.status = .leaked) = 0 :=
      List.countP_eq_zero.mpr fun attempt member => by simp [(passed attempt member).unleaked]
    have none_degraded : earlier.countP (·.status = .degraded) = 0 :=
      List.countP_eq_zero.mpr fun attempt member => by simp [(passed attempt member).undegraded]
    rw [List.countP_append, List.countP_append, none_leaked, none_degraded, List.countP_singleton,
      List.countP_singleton]
    cases last.status <;> decide

theorem reported_of_told {start : Nat} (told : Told log options plan s) :
    Reported log options start plan s
      (buildResult plan s.attempts ((log s.world).drop start)) where
  results := rfl
  told
  matched := congrArg (List.filter _) (ordered_of_numbered told.numbered)
  unmatched _ member := unmatched_or_matched _ _ member
  leaked := stops_le_one told.passed

theorem collected_since (route : hooks.OnRoute log) (world : ω) (session : Session ω) :
    collectRunObservations hooks (hooks.observationCursor.map (· world)) session =
      (log session.world).drop (log world).length := by
  unfold collectRunObservations
  rw [route.cursor, route.since]
  rfl

def written (item : PlanItem) : ShadowWriteObservation where
  timestamp := "2026-07-16T10:00:00+00:00"
  source := "modbus"
  unit := 1
  functionCode := 6
  register := 301
  values := [1]
  devcode := 2376
  devaddr := 1
  rawPayloadHex := item.value.toList

/-- A route that the control named `bypass` does not take. -/
def leakyRoute : Hooks (List ShadowWriteObservation × Nat) where
  dispatch item world :=
    ((if item.fieldId = "bypass" then world.1 else world.1 ++ [written item], world.2),
      .returned ⟨0, "ERR_NONE"⟩)
  observationCursor := some fun world => world.1.length
  currentObservationsSince := some fun cursor world => world.1.drop cursor
  waitForObservationsSince :=
    some fun cursor _ world => ((world.1, world.2 + 1), .returned (world.1.drop cursor))
  isSessionReady := none
  waitUntilSessionReady := none
  sleep _ world := (world, .returned ())
  time world := world.2

theorem leakyRoute_onRoute : leakyRoute.OnRoute Prod.fst where
  cursor := rfl
  since := rfl
  waited wait given cursor timeout world observations returned := by
    cases given
    cases returned
    exact Or.inr rfl
  dispatch_grows item world := by
    unfold leakyRoute
    dsimp only
    split
    · exact List.prefix_refl _
    · exact List.prefix_append _ _
  wait_grows wait given cursor timeout world := by
    cases given
    exact List.prefix_refl _
  ready_grows wait given := by cases given
  sleep_grows delay world := List.prefix_refl _

def liveOptions : Options where
  dryRun := false
  confirmCloudWrite := true
  shadowSessionState := "ready"
  knownFieldIds := ["output"]

def control (fieldId : String) : PlanItem := ⟨fieldId, fieldId, "01060001", "On", "choice"⟩

def threeControls : List PlanItem := [control "output", control "bypass", control "buzzer"]

def leakyRun : Session (List ShadowWriteObservation × Nat) × Ending Failure Result :=
  orchestrateShadowLearningSettings leakyRoute liveOptions 9 threeControls (.start ([], 0))

/-- The third control is not sent after the second has passed the proxy by. -/
theorem leakyRun_settled :
    leakyRun.1.sent.map Sent.item = [control "output", control "bypass"] ∧
      Accounted 0 threeControls leakyRun.1 :=
  ⟨by decide +kernel, controls_settled leakyRoute_onRoute rfl 9 ([], 0)⟩

end ShadowOrchestrator
