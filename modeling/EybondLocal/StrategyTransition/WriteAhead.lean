import EybondLocal.StrategyTransition.Callback

/-!
The order and the honesty of a transition to callback, over every answer of every hook. The
write-ahead and the commit stay in order whatever the hooks do. What a result says about a
restored endpoint is a fact about the collector: the restore is remembered before its durable
write, so a write that fails does not take the report back.
-/
namespace StrategyTransition
open StripText PythonObject CollectorIdentity RecoveryVerification HookRun HookRun.Run

def Event.mutates : Event → Bool
  | .writeEndpoint _ => true
  | .sendRestart => true
  | .sendTrigger => true
  | _ => false

def Event.restores : Event → Bool
  | .writeEndpoint _ => true
  | .persistConfirmed _ _ => true
  | _ => false

def Event.commits : Event → Bool
  | .commit _ _ _ _ => true
  | _ => false

def SelectionSaved (log : List Event) : Prop :=
  ∃ before answer after, log = before ++ .persistRollbackSelection answer :: after ∧
    accepts answer = true ∧
    ∃ verdict, .validateRollbackSelection verdict ∈ before ∧ accepts verdict = true

def WrittenAhead (c : Call) (log : List Event) : Prop :=
  ∃ before state answer after, log = before ++ .persistPending state answer :: after ∧
    c.recoveryState = .exact state ∧ accepts answer = true ∧
    (c.needsRestore = true → SelectionSaved before)

def ConfirmedCopy (state copy : StrategyTransitionRecoveryState) : Prop :=
  ∃ stamp, copy.fields =
    { state.fields with phase := .restoreConfirmedUnproven, updatedAt := stamp }

/-- `persist_confirmed` was called with the confirmed-unproven state. -/
def ConfirmationOffered (state : StrategyTransitionRecoveryState) (log : List Event) : Prop :=
  ∃ copy answer, .persistConfirmed copy answer ∈ log ∧ ConfirmedCopy state copy

def ConfirmationStored (state : StrategyTransitionRecoveryState) (log : List Event) : Prop :=
  ∃ copy answer, .persistConfirmed copy answer ∈ log ∧ ConfirmedCopy state copy ∧
    accepts answer = true

def Allowed (c : Call) (before : List Event) (event : Event) : Prop :=
  (event.mutates = true → WrittenAhead c before) ∧
    (event.commits = true →
      .reverify (.returned true) ∈ before ∧ ∀ earlier ∈ before, earlier.commits = false)

def StrategyCommitted (log : List Event) : Prop :=
  ∃ updates options terminal answer, .commit updates options terminal answer ∈ log ∧
    confCallbackStrategy ∈ updates ∧ accepts answer = true

/-- Write-ahead order, one certified commit, and success reported for that commit only. -/
structure Orderly (c : Call) (progress : Progress) (ending : Answer StrategyTransitionResult) :
    Prop where
  ordered : Guarded (Allowed c) progress.log
  success_iff : ∀ result, ending = .returned result →
    (result.success = true ↔ StrategyCommitted progress.log)

def StrategyTransitionResult.reportsRestore (result : StrategyTransitionResult) : Prop :=
  result.endpointRestored = true ∨ result.degradedState ≠ ""

def ReportsAreStored (c : Call) (progress : Progress) (ending : Answer StrategyTransitionResult) :
    Prop :=
  ∀ result, ending = .returned result → result.reportsRestore →
    ∃ state, c.recoveryState = .exact state ∧ ConfirmationStored state progress.log

def Accepted (hook : Option (Answer PyObj)) : Prop := ∃ answer, hook = some answer ∧
  accepts answer = true

namespace Call

def availability (c : Call) (action : String) : Answer Bool :=
  (c.managementActionAvailable.map (· action)).getD (.returned true)

def EndpointChosen (c : Call) (endpoint : String) : Prop :=
  if c.needsRestore then
    c.availability "write_endpoint" = .returned true ∧
      c.availability "apply_changes" = .returned true ∧
      (∃ selection, c.cloudRollbackSelection = .exact selection ∧
        selection.endpointValue = endpoint) ∧
      Accepted c.validateRollbackSelection
  else c.availability "reboot" = .returned true ∧ endpoint = ""

structure Admitted (c : Call) (armed : Armed) : Prop where
  trusted : c.trustedState = .ok armed.state
  endpoint : c.EndpointChosen armed.endpoint
  saved : c.needsRestore = true →
    c.persistConfirmed.isSome = true ∧ Accepted c.persistRollbackSelection
  pending : Accepted c.persistPending

def confirmedBy (c : Call) : Answer PyObj → Bool
  | .returned receipt => c.needsRestore && receiptSessionId receipt == c.sessionId
  | _ => false

def restoreConfirmed (c : Call) : Bool :=
  match c.verification with
  | .stops _ => false
  | .restarts managed _ _ _ => c.confirmedBy managed

def ClockAware (c : Call) : Prop :=
  ∃ stamp, c.clock = .returned (.str stamp) ∧ awareIso stamp = true

/-- The calls of `persist_confirmed` a confirmed restore leads to. -/
def confirmation (c : Call) (state : StrategyTransitionRecoveryState) : List Event :=
  match c.persistConfirmed, c.clock with
  | some answer, .returned now =>
    match state.withPhase .restoreConfirmedUnproven now with
    | .ok copy => [.persistConfirmed copy answer]
    | .error _ => []
  | _, _ => []

def endpointWrite (armed : Armed) : List Event :=
  if armed.endpoint ≠ "" then [.writeEndpoint armed.endpoint] else []

def restoreCalls (c : Call) (armed : Armed) : List Event :=
  match c.verification with
  | .stops _ => []
  | .restarts managed _ _ _ =>
    endpointWrite armed ++ if c.confirmedBy managed then c.confirmation armed.state else []

def storeEnding (c : Call) (state : StrategyTransitionRecoveryState) : Answer Unit :=
  match c.persistConfirmed with
  | none => .returned ()
  | some answer =>
    c.clock.next (fun now =>
      match state.withPhase .restoreConfirmedUnproven now with
      | .error error => .raised error
      | .ok _ => answer.next (fun _ => .returned ()) id) id

def restartEnding (c : Call) (state : StrategyTransitionRecoveryState) (managed : Answer PyObj) :
    Answer Unit :=
  managed.next (fun receipt =>
    if receiptSessionId receipt ≠ c.sessionId then
      .raised ⟨.runtimeError, "transition_management_session_receipt_invalid"⟩
    else if c.needsRestore then
      (c.storeEnding state).next (fun _ => c.onEndpointRestored.getD (.returned ())) id
    else .returned ()) id

def verdict (c : Call) (state : StrategyTransitionRecoveryState) :
    Answer RecoveryVerificationOutcome :=
  match c.verification with
  | .stops answer => answer
  | .restarts managed afterFailure _ answer =>
    match c.restartEnding state managed with
    | .returned () => answer
    | .raised _ =>
      afterFailure.next (fun reason => .returned (.failed (normalizePn c.collectorPn) reason [])) id
    | .cancelled => .cancelled

def Concludes (c : Call) (outcome : RecoveryVerificationOutcome) : Prop :=
  outcome.callbackVerified = true ∨ outcome.inboundRecovered = true →
    c.reverify = .returned false ∨
    c.reverify = .returned true ∧
      (∃ terminal, RecoveryTerminalInput.fromPermanentOwnerTransaction outcome = .ok terminal) ∧
      ∃ refusal, c.commit = .returned refusal

def Opens (c : Call) : Prop :=
  c.managementChannelFactory = some (.returned ()) ∧ c.sessionId ≠ "" ∧
    c.sessionId = strip c.sessionId

def GivesResult (c : Call) (state : StrategyTransitionRecoveryState) : Prop :=
  c.Opens ∧
    match c.verdict state with
    | .returned outcome => c.Concludes outcome
    | .raised _ => True
    | .cancelled => False

def StoresWhatItReports (c : Call) : Prop :=
  ∀ armed, c.Admitted armed → c.restoreConfirmed = true → c.GivesResult armed.state →
    c.ClockAware ∧ Accepted c.persistConfirmed

end Call

def Event.early : Event → Bool
  | .validateRollbackSelection _ => true
  | .persistRollbackSelection _ => true
  | .persistPending _ _ => true
  | _ => false

def Early (earlier later : Progress) : Prop :=
  later.restored = earlier.restored ∧
    ∃ added, later.log = earlier.log ++ added ∧ ∀ event ∈ added, event.early = true

theorem early_refl (progress : Progress) : Early progress progress := ⟨rfl, [], by simp, by simp⟩

theorem early_note {event : Event} (early : event.early = true) (progress : Progress) :
    Early progress (note event progress) := ⟨rfl, [event], rfl, by simpa using early⟩

theorem early_trans {first second third : Progress} (one : Early first second)
    (two : Early second third) : Early first third := by
  obtain ⟨restored, added, eq, early⟩ := one
  obtain ⟨restored', added', eq', early'⟩ := two
  refine ⟨restored'.trans restored, added ++ added', by rw [eq', eq, List.append_assoc], ?_⟩
  intro event member
  rcases List.mem_append.mp member with h | h
  · exact early event h
  · exact early' event h

theorem ends_asked (event : Event) (answer : Answer PyObj) (fallback : PyObj) (reason : PyObj → PyObj)
    (refuses : fallback.truthy = true) (progress : Progress) :
    Ends ((call (note event) answer).recover (fun _ => pure fallback) >>= fun refusal =>
        pure (if refusal.truthy then some (reason refusal) else none)) progress
      fun later e => later = note event progress ∧ (e = .returned none ↔ accepts answer = true) := by
  rw [ends_bind, ends_recover, ends_call]
  cases answer with
  | returned refusal =>
    refine ⟨rfl, ?_⟩
    cases truth : refusal.truthy <;> simp [accepts, truth, pure]
  | raised error => simp [Ends, pure, Ending.next, refuses, accepts]
  | cancelled => simp [Ending.next, accepts]

namespace Call

theorem actionAvailable_eq (c : Call) (action : String) (progress : Progress) :
    c.actionAvailable action progress = (progress, c.availability action) := by
  unfold actionAvailable availability
  cases c.managementActionAvailable <;> rfl

theorem ends_validateSelection (c : Call) (progress : Progress) :
    Ends c.validateSelection progress fun later e =>
      Early progress later ∧ (e = .returned none ↔ Accepted c.validateRollbackSelection) ∧
        (e = .returned none → ∃ answer, .validateRollbackSelection answer ∈ later.log ∧
          accepts answer = true) := by
  unfold validateSelection
  cases hook : c.validateRollbackSelection with
  | none =>
    rw [ends_pure]
    exact ⟨early_refl _, by simp [Accepted], by simp⟩
  | some answer =>
    refine ends_mono ?_ (ends_asked (.validateRollbackSelection answer) answer _ id rfl progress)
    rintro later e ⟨rfl, passes⟩
    refine ⟨early_note rfl _, by simpa [Accepted] using passes, ?_⟩
    intro returned
    exact ⟨answer, by simp [note], passes.mp returned⟩

theorem ends_selectedEndpoint (c : Call) (progress : Progress) (restores : c.needsRestore = true) :
    Ends c.selectedEndpoint progress fun later e =>
      Early progress later ∧ (∀ endpoint, e = .returned (.ok endpoint) ↔ c.EndpointChosen endpoint) ∧
        ∀ endpoint, e = .returned (.ok endpoint) →
          ∃ answer, .validateRollbackSelection answer ∈ later.log ∧ accepts answer = true := by
  simp only [EndpointChosen, restores, ↓reduceIte, selectedEndpoint, Ends, bind_apply,
    actionAvailable_eq]
  rcases write : c.availability "write_endpoint" with (_ | _) | _ | _
  · simp [early_refl, Ending.next, pure_apply]
  · rcases apply : c.availability "apply_changes" with (_ | _) | _ | _
    · simp [early_refl, Ending.next, pure_apply, bind_apply, actionAvailable_eq, apply]
    · cases c.cloudRollbackSelection with
      | absent => simp [early_refl, Ending.next, pure_apply, bind_apply, actionAvailable_eq, apply]
      | foreign => simp [early_refl, Ending.next, pure_apply, bind_apply, actionAvailable_eq, apply]
      | exact selection =>
        obtain ⟨early, passes, validated⟩ := ends_validateSelection c progress
        rcases ended : (c.validateSelection progress).2 with (_ | _) | _ | _
        all_goals
          simp_all [Ending.next, pure_apply, bind_apply, actionAvailable_eq]
    · simp [early_refl, Ending.next, bind_apply, actionAvailable_eq, apply]
    · simp [early_refl, Ending.next, bind_apply, actionAvailable_eq, apply]
  · simp [early_refl, Ending.next]
  · simp [early_refl, Ending.next]

theorem ends_channelEndpoint (c : Call) (progress : Progress) :
    Ends c.channelEndpoint progress fun later e =>
      Early progress later ∧ (∀ endpoint, e = .returned (.ok endpoint) ↔ c.EndpointChosen endpoint) ∧
        ∀ endpoint, c.needsRestore = true → e = .returned (.ok endpoint) →
          ∃ answer, .validateRollbackSelection answer ∈ later.log ∧ accepts answer = true := by
  cases restores : c.needsRestore with
  | true =>
    simp only [channelEndpoint, restores, ↓reduceIte, forall_true_left]
    exact c.ends_selectedEndpoint progress restores
  | false =>
    simp only [channelEndpoint, restores, Bool.false_eq_true, ↓reduceIte, EndpointChosen,
      false_implies, implies_true, and_true, Ends, bind_apply, actionAvailable_eq]
    rcases c.availability "reboot" with (_ | _) | _ | _
    all_goals simp [early_refl, Ending.next, pure_apply, eq_comm]

theorem ends_saveSelection (c : Call) (progress : Progress) :
    Ends c.saveSelection progress fun later e =>
      Early progress later ∧
        (e = .returned none ↔ (c.needsRestore = true → Accepted c.persistRollbackSelection)) ∧
        (e = .returned none → c.needsRestore = true →
          (∃ answer, .validateRollbackSelection answer ∈ progress.log ∧ accepts answer = true) →
          SelectionSaved later.log) := by
  unfold saveSelection
  cases restores : c.needsRestore with
  | false =>
    simp only [Bool.false_eq_true, not_false_eq_true, ↓reduceIte, ends_pure]
    exact ⟨early_refl _, by simp, by simp⟩
  | true =>
    simp only [not_true_eq_false, ↓reduceIte, forall_true_left]
    cases hook : c.persistRollbackSelection with
    | none =>
      rw [ends_pure]
      exact ⟨early_refl _, by simp [Accepted], by simp⟩
    | some answer =>
      refine ends_mono ?_ (ends_asked (.persistRollbackSelection answer) answer _
        (fun refusal => .str refusal.render) rfl progress)
      rintro later e ⟨rfl, passes⟩
      refine ⟨early_note rfl _, by simpa [Accepted] using passes, ?_⟩
      intro returned validated
      exact ⟨progress.log, answer, [], rfl, passes.mp returned, validated⟩

theorem ends_writeAhead (c : Call) (state : StrategyTransitionRecoveryState) (progress : Progress) :
    Ends (c.writeAhead state) progress fun later e =>
      Early progress later ∧
        (e = .returned none ↔
          (c.needsRestore = true →
            c.persistConfirmed.isSome = true ∧ Accepted c.persistRollbackSelection) ∧
          Accepted c.persistPending) ∧
        (e = .returned none → c.recoveryState = .exact state →
          (c.needsRestore = true → ∃ answer, .validateRollbackSelection answer ∈ progress.log ∧
            accepts answer = true) → WrittenAhead c later.log) := by
  unfold writeAhead
  split
  · rename_i missing
    rw [ends_pure]
    refine ⟨early_refl _, ?_, by simp⟩
    simp [missing.1, Option.isNone_iff_eq_none.mp missing.2]
  · rename_i present
    cases hook : c.persistPending with
    | none =>
      rw [ends_pure]
      exact ⟨early_refl _, by simp [Accepted], by simp⟩
    | some answer =>
      refine ends_bind_of (c.ends_saveSelection progress) ?_ ?_ ?_
      · rintro saved refusal ⟨early, passes, complete⟩
        cases refusal with
        | some reason =>
          rw [ends_pure]
          refine ⟨early, ?_, by simp⟩
          simp only [Ending.returned.injEq, reduceCtorEq, false_iff] at passes ⊢
          exact fun saves => passes fun restores => (saves.1 restores).2
        | none =>
          refine ends_mono ?_ (ends_asked (.persistPending state answer) answer _
            (fun _ => .str "transition_persist_pending_failed") rfl saved)
          rintro later e ⟨rfl, accepted⟩
          refine ⟨early_trans early (early_note rfl _), ?_, ?_⟩
          · rw [accepted]
            have confirms : c.needsRestore = true → c.persistConfirmed.isSome = true := by
              intro restores
              by_contra absent
              exact present ⟨restores, by simpa using absent⟩
            have saves := passes.mp rfl
            constructor
            · intro pending
              exact ⟨fun restores => ⟨confirms restores, saves restores⟩, answer, rfl, pending⟩
            · rintro ⟨-, given, eq, pending⟩
              cases eq
              exact pending
          · intro returned exact validated
            exact ⟨saved.log, state, answer, [], rfl, exact, accepted.mp returned,
              fun restores => complete rfl restores (validated restores)⟩
      · rintro saved error ⟨early, passes, -⟩
        refine ⟨early, ?_, by simp⟩
        simp only [reduceCtorEq, false_iff] at passes ⊢
        exact fun saves => passes fun restores => (saves.1 restores).2
      · rintro saved ⟨early, passes, -⟩
        refine ⟨early, ?_, by simp⟩
        simp only [reduceCtorEq, false_iff] at passes ⊢
        exact fun saves => passes fun restores => (saves.1 restores).2

theorem trustedState_exact {c : Call} {state : StrategyTransitionRecoveryState}
    (trusted : c.trustedState = .ok state) : c.recoveryState = .exact state := by
  unfold trustedState at trusted
  split at trusted
  · cases trusted
  · split at trusted
    · cases trusted
    · split at trusted
      · cases trusted
      · split at trusted
        · cases trusted
        · cases trusted
        · rename_i exact
          split at trusted
          · cases trusted
            exact exact
          · cases trusted

section Preflight

-- whether a restore is needed is not computed again at every mention of the endpoint
attribute [local irreducible] EndpointChosen

theorem unadmitted_of_endpoint {c : Call} {e : Answer (Except PyObj String)}
    (choice : ∀ endpoint, e = .returned (.ok endpoint) ↔ c.EndpointChosen endpoint)
    (other : ∀ endpoint, e ≠ .returned (.ok endpoint)) (armed : Armed) : ¬ c.Admitted armed := by
  intro admitted
  exact other armed.endpoint ((choice armed.endpoint).mpr admitted.endpoint)

theorem unadmitted_of_writeAhead {c : Call} {e : Answer (Option PyObj)}
    (passes : e = .returned none ↔
      (c.needsRestore = true →
        c.persistConfirmed.isSome = true ∧ Accepted c.persistRollbackSelection) ∧
      Accepted c.persistPending)
    (other : e ≠ .returned none) (armed : Armed) : ¬ c.Admitted armed := by
  intro admitted
  exact other (passes.mpr ⟨admitted.saved, admitted.pending⟩)

theorem ends_preflight (c : Call) (progress : Progress) :
    Ends c.preflight progress fun later e =>
      Early progress later ∧ (∀ armed, e = .returned (.ok armed) ↔ c.Admitted armed) ∧
        ∀ armed, e = .returned (.ok armed) → WrittenAhead c later.log := by
  unfold preflight
  cases trusted : c.trustedState with
  | error reason =>
    rw [ends_pure]
    refine ⟨early_refl _, ?_, by simp⟩
    intro armed
    simp only [Ending.returned.injEq, reduceCtorEq, false_iff]
    intro admitted
    have := admitted.trusted
    simp [trusted] at this
  | ok state =>
    have refuses : ∀ (later : Progress) (e : Answer (Except PyObj Armed)), Early progress later →
        (∀ armed, e ≠ .returned (.ok armed)) → (∀ armed, ¬ c.Admitted armed) →
        Early progress later ∧ (∀ armed, e = .returned (.ok armed) ↔ c.Admitted armed) ∧
          ∀ armed, e = .returned (.ok armed) → WrittenAhead c later.log := by
      intro later e early never unadmitted
      exact ⟨early, fun armed => iff_of_false (never armed) (unadmitted armed),
        fun armed eq => absurd eq (never armed)⟩
    refine ends_bind_of (c.ends_channelEndpoint progress) ?_ ?_ ?_
    · rintro chosen (reason | endpoint) ⟨early, choice, validated⟩
      · rw [ends_pure]
        exact refuses chosen _ early (by simp) (unadmitted_of_endpoint choice (by simp))
      · refine ends_bind_of (c.ends_writeAhead state chosen) ?_ ?_ ?_
        · rintro written (_ | reason) ⟨early', passes, ahead⟩
          · rw [ends_pure]
            obtain ⟨saves, pending⟩ := passes.mp rfl
            have chosenHere : c.EndpointChosen endpoint := (choice endpoint).mp rfl
            refine ⟨early_trans early early', ?_, ?_⟩
            · intro armed
              constructor
              · intro eq
                cases eq
                exact ⟨trusted, chosenHere, saves, pending⟩
              · rintro ⟨trusted', endpoint', -, -⟩
                have same := (choice armed.endpoint).mpr endpoint'
                simp only [trusted, Except.ok.injEq] at trusted'
                simp only [Ending.returned.injEq, Except.ok.injEq] at same
                simp only [trusted', same]
            · intro armed eq
              exact ahead rfl (trustedState_exact trusted)
                fun restores => validated endpoint restores rfl
          · rw [ends_pure]
            exact refuses written _ (early_trans early early') (by simp)
              (unadmitted_of_writeAhead passes (by simp))
        · rintro written error ⟨early', passes, -⟩
          exact refuses written _ (early_trans early early') (by simp)
            (unadmitted_of_writeAhead passes (by simp))
        · rintro written ⟨early', passes, -⟩
          exact refuses written _ (early_trans early early') (by simp)
            (unadmitted_of_writeAhead passes (by simp))
    · rintro chosen error ⟨early, choice, -⟩
      exact refuses chosen _ early (by simp) (unadmitted_of_endpoint choice (by simp))
    · rintro chosen ⟨early, choice, -⟩
      exact refuses chosen _ early (by simp) (unadmitted_of_endpoint choice (by simp))

end Preflight
end Call

/-- The state from the write-ahead to the verdict: everything in order, nothing committed. -/
structure Reset (c : Call) (progress : Progress) : Prop where
  ordered : Guarded (Allowed c) progress.log
  uncommitted : ∀ event ∈ progress.log, event.commits = false
  ahead : WrittenAhead c progress.log

theorem writtenAhead_append {c : Call} {log : List Event} (ahead : WrittenAhead c log)
    (later : List Event) : WrittenAhead c (log ++ later) := by
  obtain ⟨before, state, answer, after, rfl, rest⟩ := ahead
  exact ⟨before, state, answer, after ++ later, by simp, rest⟩

theorem reset_note {c : Call} {progress : Progress} {event : Event} (reset : Reset c progress)
    (quiet : event.commits = false) : Reset c (note event progress) where
  ordered := by
    refine guarded_snoc reset.ordered ⟨fun _ => reset.ahead, ?_⟩
    simp [quiet]
  uncommitted := by
    intro earlier member
    rcases List.mem_append.mp member with h | h
    · exact reset.uncommitted earlier h
    · simpa using List.mem_singleton.mp h ▸ quiet
  ahead := writtenAhead_append reset.ahead _

theorem early_quiet {later : Progress} (early : Early {} later) :
    ∀ event ∈ later.log, event.mutates = false ∧ event.commits = false := by
  obtain ⟨-, added, eq, all⟩ := early
  simp only [List.nil_append] at eq
  intro event member
  have kind := all event (eq ▸ member)
  cases event <;> simp_all [Event.early, Event.mutates, Event.commits]

theorem early_ordered {later : Progress} (c : Call) (early : Early {} later) :
    Guarded (Allowed c) later.log := by
  intro before event after split
  have member : event ∈ later.log := by simp [split]
  simp [Allowed, early_quiet early event member]

theorem early_unconfirmed {later : Progress} (early : Early {} later) :
    later.log.filter Event.restores = [] := by
  obtain ⟨-, added, eq, all⟩ := early
  simp only [List.nil_append] at eq
  rw [eq, List.filter_eq_nil_iff]
  intro event member
  have kind := all event member
  cases event <;> simp_all [Event.early, Event.restores]

theorem reset_of_early {c : Call} {later : Progress} (early : Early {} later)
    (ahead : WrittenAhead c later.log) : Reset c later :=
  ⟨early_ordered c early, fun event member => (early_quiet early event member).2, ahead⟩

def restoreLog (log : List Event) : List Event := log.filter Event.restores

theorem restoreLog_note {event : Event} {progress : Progress} (other : event.restores = false) :
    restoreLog (note event progress).log = restoreLog progress.log := by
  simp [restoreLog, note, other]

namespace Call

/-- What a part of the reset does: it keeps to the order, makes the calls `adds` of a restore,
    remembers it if `restores` and ends as expected. -/
def ResetEnds {α : Type} (c : Call) (m : Step α) (adds : List Event) (restores : Bool)
    (expected : Answer α) : Prop :=
  ∀ progress, Reset c progress →
    Ends m progress fun later e =>
      Reset c later ∧ e = expected ∧
        restoreLog later.log = restoreLog progress.log ++ adds ∧
        later.restored.isSome = (progress.restored.isSome || restores)

theorem resetEnds_storeConfirmation (c : Call) (state : StrategyTransitionRecoveryState) :
    c.ResetEnds (c.storeConfirmation state) (c.confirmation state) false (c.storeEnding state) := by
  intro progress reset
  unfold storeConfirmation storeEnding confirmation
  cases hook : c.persistConfirmed with
  | none =>
    rw [ends_pure]
    simp [reset]
  | some answer =>
    simp only [ends_bind, ends_call]
    cases clock : c.clock with
    | raised error => simp [Ending.next, reset]
    | cancelled => simp [Ending.next, reset]
    | returned now =>
      simp only [Ending.next, id]
      cases copied : state.withPhase .restoreConfirmedUnproven now with
      | error error =>
        rw [ends_raise]
        simp [reset]
      | ok copy =>
        have noted : Reset c (note (.persistConfirmed copy answer) progress) := reset_note reset rfl
        have added : restoreLog (note (.persistConfirmed copy answer) progress).log =
            restoreLog progress.log ++ [.persistConfirmed copy answer] := by
          simp [restoreLog, note, Event.restores]
        simp only [ends_bind, ends_call]
        cases answer with
        | returned refusal => exact ⟨noted, rfl, added, by simp [note, pure_apply]⟩
        | raised error => exact ⟨noted, rfl, added, by simp [note]⟩
        | cancelled => exact ⟨noted, rfl, added, by simp [note]⟩

theorem resetEnds_bind {α β : Type} {c : Call} {m : Step α} {body : α → Step β}
    {adds : List Event} {restores : Bool} {expected : Answer α} {after : α → Answer β}
    (first : c.ResetEnds m adds restores expected)
    (rest : ∀ value, c.ResetEnds (body value) [] false (after value)) :
    c.ResetEnds (m >>= body) adds restores (expected.next after id) := by
  intro progress reset
  refine ends_bind_of (first progress reset) ?_ ?_ ?_
  · rintro middle value ⟨reset', rfl, added, remembered⟩
    refine ends_mono ?_ (rest value middle reset')
    rintro later e ⟨reset'', rfl, added', remembered'⟩
    exact ⟨reset'', rfl, by rw [added', added, List.append_nil],
      by rw [remembered', remembered, Bool.or_false]⟩
  · rintro middle error ⟨reset', rfl, added, remembered⟩
    exact ⟨reset', rfl, added, remembered⟩
  · rintro middle ⟨reset', rfl, added, remembered⟩
    exact ⟨reset', rfl, added, remembered⟩

theorem resetEnds_recover {α : Type} {c : Call} {m : Step α} {handler : PyError → Step α}
    {adds : List Event} {restores : Bool} {expected handled : Answer α}
    (first : c.ResetEnds m adds restores expected)
    (rest : ∀ error, c.ResetEnds (handler error) [] false handled) :
    c.ResetEnds (m.recover handler) adds restores (expected.handledBy handled) := by
  intro progress reset
  rw [ends_recover]
  refine ends_mono ?_ (first progress reset)
  rintro middle e ⟨reset', rfl, added, remembered⟩
  cases e with
  | raised error =>
    refine ends_mono ?_ (rest error middle reset')
    rintro later e ⟨reset'', rfl, added', remembered'⟩
    exact ⟨reset'', rfl, by rw [added', added, List.append_nil],
      by rw [remembered', remembered, Bool.or_false]⟩
  | returned value => exact ⟨reset', rfl, added, remembered⟩
  | cancelled => exact ⟨reset', rfl, added, remembered⟩

theorem resetEnds_pure {α : Type} (c : Call) (value : α) :
    c.ResetEnds (pure value) [] false (.returned value) := by
  intro progress reset
  rw [ends_pure]
  exact ⟨reset, rfl, by simp, by simp⟩

theorem resetEnds_call {α : Type} (c : Call) (answer : Answer α) :
    c.ResetEnds (call id answer) [] false answer := by
  intro progress reset
  rw [ends_call]
  exact ⟨reset, rfl, by simp, by simp⟩

theorem resetEnds_note {α : Type} (c : Call) (event : Event) (quiet : event.commits = false)
    (other : event.restores = false) (answer : Answer α) :
    c.ResetEnds (call (note event) answer) [] false answer := by
  intro progress reset
  rw [ends_call]
  exact ⟨reset_note reset quiet, rfl, by rw [restoreLog_note other, List.append_nil],
    by simp [note]⟩

theorem resetEnds_announced (c : Call) (value : String) : c.ResetEnds
    (match c.onEndpointRestored with
      | none => pure ()
      | some answer => call (note (.endpointRestored value)) answer) [] false
    (c.onEndpointRestored.getD (.returned ())) := by
  cases c.onEndpointRestored with
  | none => exact resetEnds_pure c ()
  | some answer => exact resetEnds_note c _ rfl rfl answer

theorem resetEnds_confirmed (c : Call) (armed : Armed) (receipt : PyObj)
    (restores : c.needsRestore = true) :
    c.ResetEnds (c.confirmed armed receipt) (c.confirmation armed.state) true
      ((c.storeEnding armed.state).next (fun _ => c.onEndpointRestored.getD (.returned ())) id) := by
  intro progress reset
  simp only [confirmed, restores, not_true_eq_false, ↓reduceIte]
  rw [ends_bind, ends_call, Ending.next_returned]
  have marked : Reset c { progress with
      restored := some (appliedEndpointFromResult receipt armed.endpoint) } :=
    ⟨reset.ordered, reset.uncommitted, reset.ahead⟩
  refine ends_mono ?_ (resetEnds_bind (c.resetEnds_storeConfirmation armed.state)
    (fun _ => c.resetEnds_announced _) _ marked)
  rintro later e ⟨reset', rfl, added, remembered⟩
  exact ⟨reset', rfl, added, by simpa using remembered⟩

theorem resetEnds_asyncSendRestart (c : Call) (armed : Armed) (managed : Answer PyObj) :
    c.ResetEnds (c.asyncSendRestart armed managed)
      (endpointWrite armed ++ if c.confirmedBy managed then c.confirmation armed.state else [])
      (c.confirmedBy managed) (c.restartEnding armed.state managed) := by
  intro progress reset
  unfold asyncSendRestart restartEnding
  rw [ends_bind, ends_call]
  generalize acted : note (if armed.endpoint ≠ "" then .writeEndpoint armed.endpoint
    else .sendRestart) progress = middle
  have reset' : Reset c middle := by
    rw [← acted]
    exact reset_note reset (by split <;> rfl)
  have added : restoreLog middle.log = restoreLog progress.log ++ endpointWrite armed := by
    rw [← acted]
    by_cases plain : armed.endpoint = "" <;>
      simp [restoreLog, note, endpointWrite, plain, Event.restores]
  have remembered : middle.restored.isSome = progress.restored.isSome := by
    rw [← acted, note]
  cases managed with
  | raised error => exact ⟨reset', rfl, by simpa [confirmedBy], by simpa [confirmedBy]⟩
  | cancelled => exact ⟨reset', rfl, by simpa [confirmedBy], by simpa [confirmedBy]⟩
  | returned receipt =>
    simp only [Ending.next_returned]
    by_cases own : receiptSessionId receipt = c.sessionId
    · cases restores : c.needsRestore with
      | true =>
        have confirms : c.confirmedBy (.returned receipt) = true := by
          simp [confirmedBy, restores, own]
        simp only [own, ne_eq, not_true_eq_false, ↓reduceIte, confirms]
        refine ends_mono ?_ (c.resetEnds_confirmed armed receipt restores middle reset')
        rintro later e ⟨reset'', rfl, added', remembered'⟩
        exact ⟨reset'', rfl, by rw [added', added, List.append_assoc],
          by rw [remembered', remembered]⟩
      | false =>
        have plain : c.confirmedBy (.returned receipt) = false := by
          simp [confirmedBy, restores]
        simp only [own, ne_eq, not_true_eq_false, ↓reduceIte, Bool.false_eq_true, confirmed,
          restores, not_false_eq_true, ends_pure]
        exact ⟨reset', trivial, by simp [plain, added], by simp [plain, remembered]⟩
    · have other : c.confirmedBy (.returned receipt) = false := by simp [confirmedBy, own]
      simp only [own, ne_eq, not_false_eq_true, ↓reduceIte, ends_raise]
      exact ⟨reset', trivial, by simp [other, added], by simp [other, remembered]⟩

theorem resetEnds_asyncVerify (c : Call) (armed : Armed) :
    c.ResetEnds (c.asyncVerify armed) (c.restoreCalls armed) c.restoreConfirmed
      (c.verdict armed.state) := by
  unfold asyncVerify verdict restoreConfirmed restoreCalls
  cases c.verification with
  | stops answer => simpa using resetEnds_call c answer
  | restarts managed afterFailure triggers answer =>
    have restarted := resetEnds_bind (c.resetEnds_asyncSendRestart armed managed)
      fun _ => resetEnds_pure c (none : Option Failure)
    have settled := resetEnds_recover restarted fun _ : PyError =>
      resetEnds_bind (resetEnds_call c afterFailure) fun reason => resetEnds_pure c (some reason)
    have finished : ∀ failure, c.ResetEnds
        (match failure with
          | some reason =>
            pure (RecoveryVerificationOutcome.failed (normalizePn c.collectorPn) reason [])
          | none => call (if triggers then note .sendTrigger else id) answer) [] false
        (match failure with
          | some reason => .returned (.failed (normalizePn c.collectorPn) reason [])
          | none => answer) := by
      intro failure
      cases failure with
      | some reason => exact resetEnds_pure c _
      | none =>
        cases triggers with
        | true => exact resetEnds_note c .sendTrigger rfl rfl answer
        | false => exact resetEnds_call c answer
    have whole := resetEnds_bind settled finished
    dsimp only
    cases ended : c.restartEnding armed.state managed with
    | returned done =>
      rw [ended] at whole
      exact whole
    | cancelled =>
      rw [ended] at whole
      exact whole
    | raised error =>
      rw [ended] at whole
      cases afterFailure <;> exact whole

end Call

theorem strategyCommitted_note {progress : Progress}
    (uncommitted : ∀ event ∈ progress.log, event.commits = false)
    (updates options : List (String × PyObj)) (terminal : RecoveryTerminalInput)
    (answer : Answer PyObj) :
    StrategyCommitted (note (.commit updates options terminal answer) progress).log ↔
      confCallbackStrategy ∈ updates ∧ accepts answer = true := by
  constructor
  · rintro ⟨updates', options', terminal', answer', member, rest⟩
    rcases List.mem_append.mp member with h | h
    · have := uncommitted _ h
      simp [Event.commits] at this
    · cases List.mem_singleton.mp h
      exact rest
  · rintro ⟨present, accepted⟩
    exact ⟨updates, options, terminal, answer, by simp [note], present, accepted⟩

theorem not_strategyCommitted {log : List Event}
    (uncommitted : ∀ event ∈ log, event.commits = false) : ¬ StrategyCommitted log := by
  rintro ⟨updates, options, terminal, answer, member, -⟩
  have := uncommitted _ member
  simp [Event.commits] at this

namespace Call

theorem ends_commitCertified (c : Call) (outcome : RecoveryVerificationOutcome)
    (updates options : List (String × PyObj)) {progress : Progress} (reset : Reset c progress) :
    Ends (c.commitCertified outcome updates options) progress fun later e =>
      Guarded (Allowed c) later.log ∧ later.restored = progress.restored ∧
        restoreLog later.log = restoreLog progress.log ∧
        ((∃ value, e = .returned value) ↔
          c.reverify = .returned false ∨
          c.reverify = .returned true ∧
            (∃ terminal, RecoveryTerminalInput.fromPermanentOwnerTransaction outcome =
              .ok terminal) ∧
            ∃ refusal, c.commit = .returned refusal) ∧
        ∀ value, e = .returned value → (StrategyCommitted later.log ↔
          confCallbackStrategy ∈ updates ∧ ∃ refusal, value = some refusal ∧
            refusal.truthy = false) := by
  have asked : Reset c (note (.reverify c.reverify) progress) := reset_note reset rfl
  have kept : restoreLog (note (.reverify c.reverify) progress).log =
      restoreLog progress.log := restoreLog_note rfl
  have nothing := not_strategyCommitted asked.uncommitted
  unfold commitCertified
  rw [ends_bind, ends_call]
  rcases verified : c.reverify with (_ | _) | error | _
  · rw [verified] at asked kept nothing
    simp only [Ending.next_returned, Bool.false_eq_true, ↓reduceIte, ends_pure]
    exact ⟨asked.ordered, rfl, kept, by simp, by simp [nothing]⟩
  · rw [verified] at asked kept nothing
    simp only [Ending.next_returned, ↓reduceIte]
    cases built : RecoveryTerminalInput.fromPermanentOwnerTransaction outcome with
    | error error =>
      rw [ends_raise]
      exact ⟨asked.ordered, rfl, kept, by simp, by simp⟩
    | ok terminal =>
      have allowed : Allowed c (note (.reverify (.returned true)) progress).log
          (.commit updates options terminal c.commit) :=
        ⟨by simp [Event.mutates], fun _ => ⟨by simp [note], asked.uncommitted⟩⟩
      have ordered := guarded_snoc asked.ordered allowed
      have stored : restoreLog (note (.commit updates options terminal c.commit)
          (note (.reverify (.returned true)) progress)).log = restoreLog progress.log :=
        (restoreLog_note rfl).trans kept
      have committed := strategyCommitted_note asked.uncommitted updates options terminal c.commit
      simp only [ends_bind, ends_call]
      cases answered : c.commit with
      | returned refusal =>
        rw [answered] at ordered stored committed
        rw [Ending.next_returned, ends_pure]
        refine ⟨ordered, rfl, stored, by simp, ?_⟩
        intro value eq
        cases eq
        simpa [accepts] using committed
      | raised error =>
        rw [answered] at ordered stored
        exact ⟨ordered, rfl, stored, by simp, by simp⟩
      | cancelled =>
        rw [answered] at ordered stored
        exact ⟨ordered, rfl, stored, by simp, by simp⟩
  · rw [verified] at asked kept nothing
    exact ⟨asked.ordered, rfl, kept, by simp, by simp⟩
  · rw [verified] at asked kept nothing
    exact ⟨asked.ordered, rfl, kept, by simp, by simp⟩

structure Told (c : Call) (progress later : Progress) (returns : Prop)
    (ending : Answer StrategyTransitionResult) : Prop where
  ordered : Guarded (Allowed c) later.log
  kept : restoreLog later.log = restoreLog progress.log
  returns_iff : (∃ result, ending = .returned result) ↔ returns
  success_iff : ∀ result, ending = .returned result →
    (result.success = true ↔ StrategyCommitted later.log)
  restored_iff : ∀ result, ending = .returned result →
    (result.reportsRestore ↔ progress.restored.isSome = true)

theorem reportsRestore_failure (restored : Option String) (reason : PyObj)
    (outcome : Option RecoveryVerificationOutcome) :
    (failure restored reason outcome).reportsRestore ↔ restored.isSome = true := by
  cases restored <;> simp [failure, degradedMarker, StrategyTransitionResult.reportsRestore]

theorem told_commit (c : Call) (outcome : RecoveryVerificationOutcome)
    (certified : outcome.callbackVerified = true ∨ outcome.inboundRecovered = true)
    (updates options : List (String × PyObj)) (tell : Option PyObj → StrategyTransitionResult)
    {progress : Progress} (reset : Reset c progress)
    (restored : ∀ value, (tell value).reportsRestore ↔ progress.restored.isSome = true)
    (success : ∀ value, (tell value).success = true ↔ confCallbackStrategy ∈ updates ∧
      ∃ refusal, value = some refusal ∧ refusal.truthy = false) :
    Ends (c.commitCertified outcome updates options >>= fun value => pure (tell value)) progress
      fun later e => c.Told progress later (c.Concludes outcome) e := by
  have needed : c.Concludes outcome ↔ c.reverify = .returned false ∨
      c.reverify = .returned true ∧
        (∃ terminal, RecoveryTerminalInput.fromPermanentOwnerTransaction outcome = .ok terminal) ∧
        ∃ refusal, c.commit = .returned refusal := by
    simp only [Concludes, certified, forall_true_left]
  refine ends_bind_of (c.ends_commitCertified outcome updates options reset) ?_ ?_ ?_
  · rintro later value ⟨ordered, -, stored, returns, committed⟩
    rw [← needed] at returns
    rw [ends_pure]
    refine ⟨ordered, stored, ⟨fun _ => returns.mp ⟨value, rfl⟩, fun _ => ⟨_, rfl⟩⟩, ?_, ?_⟩
    · intro result eq
      cases eq
      rw [success value, committed value rfl]
    · intro result eq
      cases eq
      exact restored value
  · rintro later error ⟨ordered, -, stored, returns, -⟩
    rw [← needed] at returns
    exact ⟨ordered, stored, by simpa using returns, by simp, by simp⟩
  · rintro later ⟨ordered, -, stored, returns, -⟩
    rw [← needed] at returns
    exact ⟨ordered, stored, by simpa using returns, by simp, by simp⟩

theorem reportsRestore_callbackResult (restored : Option String)
    (outcome : RecoveryVerificationOutcome) (value : Option PyObj) :
    (callbackResult restored outcome value).reportsRestore ↔ restored.isSome = true := by
  unfold callbackResult
  split
  · exact reportsRestore_failure _ _ _
  · split
    · exact reportsRestore_failure _ _ _
    · simp [StrategyTransitionResult.reportsRestore]

theorem reportsRestore_inboundResult (restored : Option String)
    (outcome : RecoveryVerificationOutcome) (value : Option PyObj) :
    (inboundResult restored outcome value).reportsRestore ↔ restored.isSome = true := by
  unfold inboundResult
  split
  · exact reportsRestore_failure _ _ _
  · simp [StrategyTransitionResult.reportsRestore]

theorem success_callbackResult (restored : Option String) (outcome : RecoveryVerificationOutcome)
    (value : Option PyObj) : (callbackResult restored outcome value).success = true ↔
      ∃ refusal, value = some refusal ∧ refusal.truthy = false := by
  cases value with
  | none => simp [callbackResult, staleCertification, failure]
  | some refusal => cases truth : refusal.truthy <;> simp [callbackResult, failure, truth]

theorem success_inboundResult (restored : Option String) (outcome : RecoveryVerificationOutcome)
    (value : Option PyObj) : (inboundResult restored outcome value).success = false := by
  cases value <;> rfl

theorem told_conclude (c : Call) (outcome : RecoveryVerificationOutcome) {progress : Progress}
    (reset : Reset c progress) :
    Ends (c.conclude outcome) progress fun later e =>
      c.Told progress later (c.Concludes outcome) e := by
  unfold conclude
  rw [ends_bind, ends_observe, Ending.next_returned]
  cases proven : outcome.callbackVerified with
  | true =>
    simp only [↓reduceIte]
    refine c.told_commit outcome (Or.inl proven) _ _ (callbackResult progress.restored outcome) reset
      (reportsRestore_callbackResult _ _) ?_
    intro value
    rw [success_callbackResult]
    exact ⟨fun h => ⟨List.mem_cons_self, h⟩, fun h => h.2⟩
  | false =>
    cases recovered : outcome.inboundRecovered with
    | true =>
      simp only [Bool.false_eq_true, ↓reduceIte]
      refine c.told_commit outcome (Or.inr recovered) _ _ (inboundResult progress.restored outcome)
        reset (reportsRestore_inboundResult _ _) ?_
      intro value
      simp [success_inboundResult]
    | false =>
      simp only [Bool.false_eq_true, ↓reduceIte, ends_pure]
      have free : c.Concludes outcome := by simp [Concludes, proven, recovered]
      refine ⟨reset.ordered, rfl, by simp [free], ?_, ?_⟩
      · intro result eq
        cases eq
        simp [failure, not_strategyCommitted reset.uncommitted]
      · intro result eq
        cases eq
        exact reportsRestore_failure _ _ _

theorem Admitted.factory {c : Call} {armed : Armed} (admitted : c.Admitted armed) :
    ∃ answer, c.managementChannelFactory = some answer := by
  have trusted := admitted.trusted
  unfold trustedState at trusted
  cases factory : c.managementChannelFactory with
  | some answer => exact ⟨answer, rfl⟩
  | none =>
    split at trusted
    · cases trusted
    · split at trusted
      · cases trusted
      · simp [factory] at trusted

theorem EndpointChosen.of_needsRestore {c : Call} {endpoint : String}
    (chosen : c.EndpointChosen endpoint) (restores : c.needsRestore = true) :
    c.availability "write_endpoint" = .returned true ∧
      c.availability "apply_changes" = .returned true ∧
      (∃ selection, c.cloudRollbackSelection = .exact selection ∧
        selection.endpointValue = endpoint) ∧
      Accepted c.validateRollbackSelection := by
  rwa [EndpointChosen, if_pos restores] at chosen

theorem EndpointChosen.normalized {c : Call} {endpoint : String}
    (chosen : c.EndpointChosen endpoint) : endpoint = strip endpoint := by
  unfold EndpointChosen at chosen
  split at chosen
  · obtain ⟨-, -, ⟨selection, -, eq⟩, -⟩ := chosen
    rw [← eq, selection.normalized]
  · rw [chosen.2]
    decide

theorem ends_openChannel (c : Call) {armed : Armed} (admitted : c.Admitted armed)
    (progress : Progress) :
    Ends (c.openChannel armed) progress fun later e =>
      later = progress ∧ (e = .returned () ↔ c.Opens) := by
  obtain ⟨answer, factory⟩ := admitted.factory
  have normalized := admitted.endpoint.normalized
  clear admitted
  unfold openChannel Opens
  rw [ends_bind, factory, Option.getD_some, ends_call]
  cases answer with
  | raised error => exact ⟨rfl, by simp⟩
  | cancelled => exact ⟨rfl, by simp⟩
  | returned done =>
    rw [Ending.next_returned]
    by_cases valid : c.sessionId = "" ∨ c.sessionId ≠ strip c.sessionId
    · simp only [valid, ↓reduceIte, ends_raise]
      refine ⟨rfl, iff_of_false nofun ?_⟩
      rintro ⟨-, known, trimmed⟩
      exact valid.elim known fun untrimmed => untrimmed trimmed
    · simp only [valid, ↓reduceIte, ne_eq, normalized.symm, not_true_eq_false, ends_pure]
      obtain ⟨known, trimmed⟩ := not_or.mp valid
      exact ⟨rfl, iff_of_true trivial ⟨trivial, known, not_not.mp trimmed⟩⟩

/-- What a whole call says: its report is about what the collector confirmed, and the log has
    the restoreLog that led to. -/
structure Reports (c : Call) (armed : Armed) (later : Progress)
    (ending : Answer StrategyTransitionResult) : Prop where
  orderly : Orderly c later ending
  reports_iff : ∀ result, ending = .returned result →
    (result.reportsRestore ↔ c.restoreConfirmed = true)
  restoreLog_eq : ∀ result, ending = .returned result →
    restoreLog later.log = c.restoreCalls armed
  returns_iff : (∃ result, ending = .returned result) ↔ c.GivesResult armed.state

theorem reports_resume (c : Call) {armed : Armed} (admitted : c.Admitted armed)
    {progress : Progress} (reset : Reset c progress) (fresh : progress.restored = none)
    (unconfirmed : restoreLog progress.log = []) :
    Ends (c.resume armed) progress (c.Reports armed) := by
  have verified := resetEnds_recover
    (resetEnds_bind (c.resetEnds_asyncVerify armed) fun outcome => resetEnds_pure c (some outcome))
    fun _ : PyError => resetEnds_pure c none
  refine ends_bind_of (c.ends_openChannel admitted progress) ?_ ?_ ?_
  · rintro start ⟨⟩ ⟨rfl, opens⟩
    have opened : c.Opens := opens.mp rfl
    have told := verified start reset
    simp only [unconfirmed, fresh, Option.isSome_none, Bool.false_or, List.nil_append] at told
    rw [ends_bind]
    refine ends_mono ?_ told
    rintro middle e ⟨reset', settled, added, remembered⟩
    cases ended : c.verdict armed.state with
    | returned outcome =>
      rw [ended, Ending.next_returned, Ending.handledBy_returned] at settled
      rw [settled, Ending.next_returned]
      refine ends_mono ?_ (c.told_conclude outcome reset')
      rintro later e ⟨ordered, kept, returns, success, said⟩
      rw [remembered] at said
      exact ⟨⟨ordered, success⟩, said, fun _ _ => kept.trans added,
        by simpa [GivesResult, opened, ended] using returns⟩
    | raised error =>
      rw [ended, Ending.next_raised, id, Ending.handledBy_raised] at settled
      rw [settled, Ending.next_returned, ends_bind, ends_observe, Ending.next_returned, ends_pure]
      refine ⟨⟨reset'.ordered, ?_⟩, ?_, fun _ _ => added, by simp [GivesResult, opened, ended]⟩
      · intro result eq
        cases eq
        simp [failure, not_strategyCommitted reset'.uncommitted]
      · intro result eq
        cases eq
        rw [← remembered]
        exact reportsRestore_failure _ _ _
    | cancelled =>
      rw [ended, Ending.next_cancelled, id, Ending.handledBy_cancelled] at settled
      rw [settled, Ending.next_cancelled]
      exact ⟨⟨reset'.ordered, by simp⟩, by simp, by simp, by simp [GivesResult, ended]⟩
  · rintro _ error ⟨rfl, opens⟩
    simp only [reduceCtorEq, false_iff] at opens
    exact ⟨⟨reset.ordered, by simp⟩, by simp, by simp, by simp [GivesResult, opens]⟩
  · rintro _ ⟨rfl, opens⟩
    simp only [reduceCtorEq, false_iff] at opens
    exact ⟨⟨reset.ordered, by simp⟩, by simp, by simp, by simp [GivesResult, opens]⟩

/-- Either the preflights let the call through and it reports as above, or they stop it and it
    did nothing. -/
theorem reports_or_stopped (c : Call) :
    Ends c.asyncTransitionToCallback {} fun later e =>
      (∃ armed, c.Admitted armed ∧ (∀ armed', c.Admitted armed' → armed' = armed) ∧
        c.Reports armed later e) ∨
      (∀ armed, ¬ c.Admitted armed) ∧ Orderly c later e ∧
        ∀ result, e = .returned result → ¬ result.reportsRestore := by
  have stopped : ∀ {later : Progress} {e : Answer StrategyTransitionResult}, Early {} later →
      (∀ result, e = .returned result → result.success = false) → Orderly c later e := by
    intro later e early unsuccessful
    refine ⟨early_ordered c early, ?_⟩
    intro result returned
    rw [unsuccessful result returned]
    simp [not_strategyCommitted fun event member => (early_quiet early event member).2]
  refine ends_bind_of (c.ends_preflight {}) ?_ ?_ ?_
  · rintro later (reason | armed) ⟨early, admits, ahead⟩
    · rw [ends_pure]
      exact Or.inr ⟨fun armed admitted => by simpa using (admits armed).mpr admitted,
        stopped early (by simp), by simp [StrategyTransitionResult.reportsRestore]⟩
    · have admitted := (admits armed).mp rfl
      have only : ∀ armed', c.Admitted armed' → armed' = armed := by
        intro armed' admitted'
        have same := (admits armed').mpr admitted'
        cases same
        rfl
      have unconfirmed : restoreLog later.log = [] := early_unconfirmed early
      refine ends_mono ?_ (c.reports_resume admitted (reset_of_early early (ahead armed rfl))
        early.1 unconfirmed)
      intro final e reports
      exact Or.inl ⟨armed, admitted, only, reports⟩
  · rintro later error ⟨early, admits, -⟩
    exact Or.inr ⟨fun armed admitted => by simpa using (admits armed).mpr admitted,
      stopped early (by simp), by simp⟩
  · rintro later ⟨early, admits, -⟩
    exact Or.inr ⟨fun armed admitted => by simpa using (admits armed).mpr admitted,
      stopped early (by simp), by simp⟩

theorem confirmation_cases (c : Call) (state : StrategyTransitionRecoveryState) :
    (∃ copy answer, c.confirmation state = [.persistConfirmed copy answer] ∧
      ConfirmedCopy state copy ∧ c.persistConfirmed = some answer ∧ c.ClockAware) ∨
    c.confirmation state = [] ∧ (c.persistConfirmed = none ∨ ¬ c.ClockAware) := by
  unfold confirmation ClockAware
  cases hook : c.persistConfirmed with
  | none => simp
  | some answer =>
    cases clock : c.clock with
    | raised error => simp
    | cancelled => simp
    | returned now =>
      dsimp only
      cases copied : state.withPhase .restoreConfirmedUnproven now with
      | ok copy =>
        obtain ⟨stamp, rfl, aware, fields⟩ :=
          StrategyTransitionRecoveryState.withPhase_fields copied
        exact Or.inl ⟨copy, answer, rfl, ⟨stamp, fields⟩, rfl, stamp, rfl, aware⟩
      | error error =>
        refine Or.inr ⟨rfl, Or.inr ?_⟩
        rintro ⟨stamp, eq, aware⟩
        cases eq
        obtain ⟨copy, eq⟩ := state.withPhase_of_aware .restoreConfirmedUnproven aware
        rw [copied] at eq
        cases eq

theorem needsRestore_of_confirmed {c : Call} (confirmed : c.restoreConfirmed = true) :
    c.needsRestore = true := by
  unfold restoreConfirmed at confirmed
  split at confirmed
  · cases confirmed
  · unfold confirmedBy at confirmed
    split at confirmed
    · exact (Bool.and_eq_true_iff.mp confirmed).1
    · cases confirmed

theorem mem_log_of_reports {c : Call} {armed : Armed} (admitted : c.Admitted armed)
    (confirmed : c.restoreConfirmed = true) {log : List Event}
    (calls : restoreLog log = c.restoreCalls armed) :
    .writeEndpoint armed.endpoint ∈ log ∧
      ∀ copy answer, .persistConfirmed copy answer ∈ log ↔
        .persistConfirmed copy answer ∈ c.confirmation armed.state := by
  have restores := needsRestore_of_confirmed confirmed
  unfold restoreConfirmed at confirmed
  unfold restoreCalls at calls
  cases verification : c.verification with
  | stops answer => simp [verification] at confirmed
  | restarts managed afterFailure triggers answer =>
    simp only [verification] at confirmed calls
    simp only [confirmed, ↓reduceIte] at calls
    have known : armed.endpoint ≠ "" := by
      obtain ⟨-, -, ⟨selection, -, eq⟩, -⟩ := admitted.endpoint.of_needsRestore restores
      exact eq ▸ selection.known
    have kept : ∀ event, event.restores = true → (event ∈ log ↔ event ∈ restoreLog log) := by
      intro event kind
      simp [restoreLog, kind]
    constructor
    · rw [kept _ rfl, calls]
      simp [endpointWrite, known]
    · intro copy answer
      rw [kept _ rfl, calls]
      simp [endpointWrite, known]

/-- For every call, whatever its hooks answer: write-ahead order, one certified commit, success
    for that commit only; and a result that reports a restore rests on an endpoint write the
    collector confirmed on this session, whose confirmed-unproven state was offered to
    `persist_confirmed` if the clock could stamp it. -/
theorem orderly_and_reports_confirmed_restores (c : Call) :
    Ends c.asyncTransitionToCallback {} fun later e =>
      Orderly c later e ∧
        ∀ result, e = .returned result → result.reportsRestore →
          c.restoreConfirmed = true ∧ (∃ endpoint, .writeEndpoint endpoint ∈ later.log) ∧
            (c.ClockAware → ∃ state, c.recoveryState = .exact state ∧
              ConfirmationOffered state later.log) := by
  refine ends_mono ?_ c.reports_or_stopped
  rintro later e (⟨armed, admitted, -, reports⟩ | ⟨-, orderly, unreported⟩)
  · refine ⟨reports.orderly, ?_⟩
    intro result returned reported
    have confirmed := (reports.reports_iff result returned).mp reported
    obtain ⟨written, offered⟩ := mem_log_of_reports admitted confirmed
      (reports.restoreLog_eq result returned)
    refine ⟨confirmed, ⟨_, written⟩, ?_⟩
    intro aware
    refine ⟨armed.state, trustedState_exact admitted.trusted, ?_⟩
    rcases c.confirmation_cases armed.state with ⟨copy, answer, eq, copied, -⟩ | ⟨-, missing⟩
    · exact ⟨copy, answer, (offered copy answer).mpr (by simp [eq]), copied⟩
    · rcases missing with absent | unaware
      · have present := (admitted.saved (needsRestore_of_confirmed confirmed)).1
        simp [absent] at present
      · exact absurd aware unaware
  · exact ⟨orderly, fun result returned reported => absurd reported (unreported result returned)⟩

/-- The stricter reading, that a reported restore is also stored, holds exactly for the calls
    that store what they report. -/
theorem reportsAreStored_iff (c : Call) :
    Ends c.asyncTransitionToCallback {} (ReportsAreStored c) ↔ c.StoresWhatItReports := by
  have whole := c.reports_or_stopped
  unfold Ends at whole ⊢
  generalize (c.asyncTransitionToCallback {}).1 = later, (c.asyncTransitionToCallback {}).2 = e
    at whole ⊢
  rcases whole with ⟨armed, admitted, only, reports⟩ | ⟨stopped, -, unreported⟩
  · have own := trustedState_exact admitted.trusted
    constructor
    · intro stored armed' admitted' confirmed gives
      rw [only armed' admitted'] at gives
      obtain ⟨result, returned⟩ := reports.returns_iff.mpr gives
      obtain ⟨state, exact, copy, answer, member, -, accepted⟩ :=
        stored result returned ((reports.reports_iff result returned).mpr confirmed)
      obtain ⟨-, offered⟩ := mem_log_of_reports admitted confirmed
        (reports.restoreLog_eq result returned)
      have called := (offered copy answer).mp member
      rcases c.confirmation_cases armed.state with ⟨copy', answer', eq, -, hook, aware⟩ | ⟨eq, -⟩
      · rw [eq, List.mem_singleton] at called
        cases called
        exact ⟨aware, answer, hook, accepted⟩
      · simp [eq] at called
    · intro stores result returned reported
      have confirmed := (reports.reports_iff result returned).mp reported
      obtain ⟨aware, answer, hook, accepted⟩ :=
        stores armed admitted confirmed (reports.returns_iff.mp ⟨result, returned⟩)
      obtain ⟨-, offered⟩ := mem_log_of_reports admitted confirmed
        (reports.restoreLog_eq result returned)
      refine ⟨armed.state, own, ?_⟩
      rcases c.confirmation_cases armed.state with ⟨copy, answer', eq, copied, hook', -⟩ | ⟨-, missing⟩
      · rw [hook] at hook'
        cases hook'
        exact ⟨copy, answer, (offered copy answer).mpr (by simp [eq]), copied, accepted⟩
      · rcases missing with absent | unaware
        · simp [hook] at absent
        · exact absurd aware unaware
  · exact iff_of_true
      (fun result returned reported => absurd reported (unreported result returned))
      (fun armed admitted => absurd admitted (stopped armed))

def storedPending : StrategyTransitionRecoveryState where
  fields :=
    { collectorPn := "E5000020000001", createdAt := "2025-01-01T00:00:00+00:00",
      updatedAt := "2025-01-01T00:00:00+00:00", triggerTargetHost := "192.168.1.20",
      triggerUdpPort := 58899, advertisedHost := "192.168.1.10", advertisedPort := 8899,
      triggerBindHost := "0.0.0.0", listenerBindHost := "0.0.0.0", localListenerPort := 8899 }
  accepted := by decide +kernel

def cloudEndpoint : CloudRollbackSelection where
  endpointValue := "ess.eybond.com,502,TCP"
  known := by decide
  normalized := by decide +kernel

def homeRoute : CallbackRecoveryRoute where
  bindIp := .str "0.0.0.0"
  triggerTargetIp := .str "192.168.1.20"
  triggerUdpPort := .int 58899
  advertisedHaHost := .str "192.168.1.10"
  advertisedHaPort := .int 8899
  listenerPort := .int 8899

/-- The collector confirms the restored endpoint, then the durable write raises: the verifier
    sees a restart that was not confirmed. -/
def unstoredRestore : Call where
  collectorPn := .str "E5000020000001"
  sessionId := "s1"
  callbackRoute := some homeRoute
  endpointControlPolicy := .str "integration_managed"
  cloudRollbackSelection := .exact cloudEndpoint
  recoveryState := .exact storedPending
  optionsUpdates := []
  managementActionAvailable := none
  validateRollbackSelection := some (.returned (.str ""))
  persistRollbackSelection := some (.returned (.str ""))
  persistPending := some (.returned .none)
  persistConfirmed := some (.raised ⟨.runtimeError, "crash right after restore"⟩)
  onEndpointRestored := some (.returned ())
  managementChannelFactory := some (.returned ())
  clock := .returned (.str "2025-01-01T00:05:00+00:00")
  verification := .restarts (.returned (.mapping [("management_session_id", .str "s1")] ""))
    (.returned .restartNotConfirmed) false .cancelled
  reverify := .returned true
  commit := .returned (.str "")

def reportedRestore : Answer StrategyTransitionResult → Bool
  | .returned result => result.endpointRestored
  | _ => false

def acceptedConfirmation : Event → Bool
  | .persistConfirmed _ answer => accepts answer
  | _ => false

theorem raised_confirmation_is_reported :
    ¬ Ends unstoredRestore.asyncTransitionToCallback {} fun later e =>
      Orderly unstoredRestore later e ∧ ReportsAreStored unstoredRestore later e := by
  have reported : reportedRestore (unstoredRestore.asyncTransitionToCallback {}).2 = true := by
    decide +kernel
  have unstored : (unstoredRestore.asyncTransitionToCallback {}).1.log.any
      acceptedConfirmation = false := by
    decide +kernel
  rintro ⟨-, stored⟩
  cases ended : (unstoredRestore.asyncTransitionToCallback {}).2 with
  | raised error => simp [reportedRestore, ended] at reported
  | cancelled => simp [reportedRestore, ended] at reported
  | returned result =>
    rw [ended] at reported
    obtain ⟨state, -, copy, answer, member, -, accepted⟩ :=
      stored result ended (Or.inl reported)
    exact List.any_eq_false.mp unstored _ member accepted

end Call
end StrategyTransition
