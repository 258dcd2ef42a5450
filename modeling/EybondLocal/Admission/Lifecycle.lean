import EybondLocal.Admission.Completion

/-!
Whole runs of the admission transaction: one claim at most, none in the phases that say so, a
certified one where it is handed off, and nothing new after a release.
-/
namespace Admission
open StripText PythonObject CollectorIdentity OrderedDict SessionRegistry Execution
open RecoveryVerification (RecoveryVerificationOutcome RecoveryTerminalInput)

namespace Transaction
variable {s : Transaction} (provided : Bool)

theorem backTo_ne (s : Transaction) {phase : Phase} (other : phase ≠ .handedOff) :
    s.backTo phase ≠ .handedOff := by
  unfold backTo
  split
  · nofun
  · exact other

theorem runBegins_handed (token : String) (current : Option String) (inventory : List RawSession)
    (lookupFails : Bool) :
    HandedOver s (s.runBegins provided token current inventory lookupFails) := by
  unfold HandedOver runBegins
  split
  · exact .inl
  · split
    · nofun
    · dsimp only
      split <;> nofun

theorem runEnds_handed (outcome : Option InboundRecoveryOutcome) (cancelled : Bool) :
    HandedOver s (s.runEnds outcome cancelled) := by
  unfold HandedOver runEnds
  split
  · exact .inl
  · dsimp only
    split
    · exact fun handed => absurd handed (backTo_ne s nofun)
    · split <;> nofun

theorem release_handed : HandedOver s (s.release provided) := by
  unfold HandedOver release
  split
  · exact .inl
  · split
    · exact .inl
    · nofun

theorem identityEnds_handed (outcome : Option CallbackIdentity.Outcome) :
    HandedOver s (s.identityEnds provided outcome) := by
  unfold HandedOver identityEnds
  split
  · exact .inl
  · split
    · exact fun handed => absurd handed (backTo_ne s nofun)
    · split
      · nofun
      · split
        · nofun
        · split
          · exact .inl
          · split <;> nofun

theorem recoveryEnds_handed (outcome : Option RecoveryVerificationOutcome) :
    HandedOver s (s.recoveryEnds provided outcome) := by
  unfold HandedOver recoveryEnds
  split
  · exact .inl
  · split
    · exact fun handed => absurd handed (backTo_ne s nofun)
    · dsimp only
      split <;> nofun

theorem begin_handed : HandedOver s (s.beginCallbackContinuation provided) := by
  unfold HandedOver beginCallbackContinuation
  split
  · exact .inl
  · nofun

theorem beginManual_handed : HandedOver s (s.beginManualCallbackContinuation provided) := by
  unfold beginManualCallbackContinuation
  split
  · exact begin_handed provided
  · split
    · exact .inl
    · nofun

theorem adoptRecovery_handed : HandedOver s (s.adoptRecovery provided) := by
  unfold HandedOver adoptRecovery
  split
  · exact .inl
  · split
    · exact .inl
    · split
      · exact .inl
      · dsimp only
        split
        · exact .inl
        · nofun

theorem afterDrop_handed (dropped : s.afterDrop = .handedOff) : s.phase = .handedOff := by
  unfold afterDrop at dropped
  split at dropped
  · exact absurd dropped (backTo_ne s nofun)
  · exact dropped

end Transaction

open Transaction
variable {s : Transaction}

/-- One step: the invariant, and how a handoff is reached. -/
theorem step_inv (inv : s.Inv) {event : Event} (env : assumed s event = true)
    (care : careful s event = true) : (step s event).Inv ∧ HandedOver s (step s event) := by
  obtain ⟨operation, provided⟩ := event
  have answers : (provided || (s.phase ≠ .recoveryHeld && s.phase ≠ .recoveryConsumed)) = true →
      (s.phase = .recoveryHeld ∨ s.phase = .recoveryConsumed) → provided = true := by
    intro careful phases
    rcases phases with held | consumed
    · simpa [held] using careful
    · simpa [consumed] using careful
  cases operation with
  | others call =>
    simp only [assumed, List.all_eq_true, decide_eq_true_eq] at env
    simp only [careful, Bool.or_eq_true, decide_eq_true_eq, Bool.not_eq_true'] at care
    exact ⟨others_inv inv env fun adopted => care.resolve_left (not_not.mpr adopted), .inl⟩
  | authorityCall call =>
    simp only [assumed, decide_eq_true_eq] at env
    rw [step]
    dsimp only
    split
    · exact ⟨authorityCall_inv inv ‹_› env, .inl⟩
    · exact ⟨inv, .inl⟩
  | runBegins token current inventory lookupFails =>
    rw [step]
    exact ⟨runBegins_inv provided inv env current inventory lookupFails,
      runBegins_handed provided token current inventory lookupFails⟩
  | runEnds outcome cancelled =>
    exact ⟨runEnds_inv inv outcome cancelled, runEnds_handed outcome cancelled⟩
  | resetForRetry =>
    refine ⟨resetForRetry_inv inv, ?_⟩
    rw [step]
    unfold HandedOver resetForRetry
    dsimp only
    split
    · exact .inl
    · nofun
  | release => exact ⟨release_inv provided inv (answers care), release_handed provided⟩
  | prepareHandoff collectorPn => exact prepareHandoff_inv inv collectorPn
  | rollbackHandoff =>
    refine ⟨rollbackHandoff_inv inv, ?_⟩
    rw [step]
    unfold HandedOver rollbackHandoff
    dsimp only
    split
    · exact .inl
    · nofun
  | beginCallback => exact ⟨beginCallback_inv provided inv, begin_handed provided⟩
  | beginManual => exact ⟨beginManual_inv provided inv (answers care), beginManual_handed provided⟩
  | beginObserved =>
    refine ⟨beginObserved_inv provided inv, ?_⟩
    rw [step]
    unfold HandedOver beginObservedCallbackContinuation
    dsimp only
    split
    · exact .inl
    · nofun
  | identityBegins request token =>
    refine ⟨identityBegins_inv provided inv env (answers care), ?_⟩
    rw [step]
    unfold HandedOver identityBegins
    dsimp only
    split
    · exact .inl
    · nofun
  | identityEnds outcome =>
    refine ⟨identityEnds_inv provided inv outcome ?_ ?_, identityEnds_handed provided outcome⟩
    · simp only [assumed] at env
      split
      · rename_i certified
        rwa [if_pos certified] at env
      · rename_i uncertified
        rwa [if_neg uncertified] at env
    · simpa [careful] using care
  | recoveryBegins token =>
    refine ⟨recoveryBegins_inv provided inv env, ?_⟩
    rw [step]
    unfold HandedOver recoveryBegins
    dsimp only
    split
    · exact .inl
    · nofun
  | recoveryEnds outcome =>
    refine ⟨recoveryEnds_inv provided inv outcome ?_ ?_, recoveryEnds_handed provided outcome⟩
    · cases outcome with
      | none => exact env
      | some outcome => simpa [assumed] using env
    · simpa [careful] using care
  | consume =>
    refine ⟨consume_inv inv, ?_⟩
    rw [step]
    unfold HandedOver consumeRecoveryOutcome
    dsimp only
    split
    · exact .inl
    · split
      · nofun
      · exact .inl
  | adoptRecovery => exact ⟨adoptRecovery_inv provided inv, adoptRecovery_handed provided⟩
  | releaseUnadopted =>
    exact ⟨releaseUnadopted_inv provided inv (answers care), fun handed => .inl (afterDrop_handed handed)⟩
  | releaseExact =>
    refine ⟨releaseExact_inv provided inv (answers care), ?_⟩
    rw [step]
    unfold HandedOver releaseExactRecoveryOwner
    dsimp only
    split
    · exact .inl
    · exact fun handed => .inl (afterDrop_handed handed)
  | prepareTerminal collectorPn recovery adopted =>
    exact prepareTerminal_inv inv collectorPn recovery adopted
  | commitTerminal =>
    refine commitTerminal_inv inv ?_
    simpa [careful, or_assoc] using care
  | rollbackTerminal =>
    refine ⟨rollbackTerminal_inv inv, ?_⟩
    rw [step]
    unfold HandedOver rollbackTerminal rollbackHandoff
    dsimp only
    split
    · nofun
    · nofun
    · split
      · exact .inl
      · nofun
    · exact .inl

def Transaction.Over (s : Transaction) : Prop :=
  s.closeRequested = true ∨ s.phase = .closed ∨ s.phase = .handedOff

structure Retired (before s : Transaction) : Prop where
  ended : s.Over
  owner : s.holdsClaim = true → before.holdsClaim = true ∧ s.owner = before.owner
  outcome : s.outcome = none ∨ s.outcome = before.outcome
  recoveryOutcome : s.recoveryOutcome = none ∨ s.recoveryOutcome = before.recoveryOutcome
  produced : s.produced = none ∨ s.produced = before.produced

theorem Retired.refl (ended : s.Over) : Retired s s :=
  ⟨ended, fun holds => ⟨holds, rfl⟩, .inr rfl, .inr rfl, .inr rfl⟩

theorem Retired.trans {first second third : Transaction} (left : Retired first second)
    (right : Retired second third) : Retired first third where
  ended := right.ended
  owner holds := by
    obtain ⟨holds', same⟩ := right.owner holds
    exact ⟨(left.owner holds').1, same.trans (left.owner holds').2⟩
  outcome := right.outcome.elim .inl fun same => left.outcome.imp same.trans same.trans
  recoveryOutcome :=
    right.recoveryOutcome.elim .inl fun same => left.recoveryOutcome.imp same.trans same.trans
  produced := right.produced.elim .inl fun same => left.produced.imp same.trans same.trans

theorem Retired.emptied {after : Transaction} (ended : after.Over) (empty : after.Empty)
    (outcome : after.outcome = none ∨ after.outcome = s.outcome)
    (recoveryOutcome : after.recoveryOutcome = none ∨ after.recoveryOutcome = s.recoveryOutcome)
    (produced : after.produced = none ∨ after.produced = s.produced) : Retired s after := by
  refine ⟨ended, fun holds => ?_, outcome, recoveryOutcome, produced⟩
  simp [holdsClaim, empty.1] at holds

structure Past (s : Transaction) : Prop where
  ready : s.phase ≠ .ready
  failed : s.phase ≠ .failed
  verified : s.phase ≠ .verified
  resettable : s.phase.callbackResettable = false
  adopted : s.phase ≠ .recoveryAdopted
  closing : s.phase.isRunning = true → s.closeRequested = true

theorem past_of_over (inv : s.Inv) (ended : s.Over) : Past s := by
  have facts := inv.facts
  have closing : s.closeRequested = false → s.phase ≠ .closed → s.phase ≠ .handedOff → False := by
    intro open' notClosed notHanded
    rcases ended with closing | closed | handed
    · rw [open'] at closing
      cases closing
    · exact notClosed closed
    · exact notHanded handed
  unfold Facts at facts
  cases phase : s.phase with
  | running | identityRunning | recoveryRunning =>
    have requested : s.closeRequested = true := by
      rw [← Bool.not_eq_false]
      exact fun open' => closing open' (by rw [phase]; nofun) (by rw [phase]; nofun)
    exact ⟨by rw [phase]; nofun, by rw [phase]; nofun, by rw [phase]; nofun, by rw [phase]; rfl,
      by rw [phase]; nofun, fun _ => requested⟩
  | closed | handedOff =>
    exact ⟨by rw [phase]; nofun, by rw [phase]; nofun, by rw [phase]; nofun, by rw [phase]; rfl,
      by rw [phase]; nofun, fun running => by rw [phase] at running; cases running⟩
  | ready =>
    rw [phase] at facts
    exact (closing facts.2.2.2.1 (by rw [phase]; nofun) (by rw [phase]; nofun)).elim
  | failed =>
    rw [phase] at facts
    exact (closing facts.2.2.2 (by rw [phase]; nofun) (by rw [phase]; nofun)).elim
  | verified =>
    rw [phase] at facts
    exact (closing facts.2.2.2 (by rw [phase]; nofun) (by rw [phase]; nofun)).elim
  | callbackReady | identityCertified | recoveryHeld | recoveryConsumed =>
    rw [phase] at facts
    exact (closing facts.2.2.2.1 (by rw [phase]; nofun) (by rw [phase]; nofun)).elim
  | recoveryAdopted =>
    rw [phase] at facts
    exact (closing facts.2 (by rw [phase]; nofun) (by rw [phase]; nofun)).elim

theorem not_resettable (past : Past s) {phase : Phase} (resettable : phase.callbackResettable = true) :
    s.phase ≠ phase := by
  intro same
  have none := past.resettable
  rw [same, resettable] at none
  cases none

theorem capability_kept (s : Transaction) (provided : Bool) :
    ∃ registry, s.releaseCallbackRecoveryCapability provided =
      { s with registry, recoveryOutcome := none, produced := none } := ⟨_, rfl⟩

theorem runEnds_retired (past : Past s) (ended : s.Over) (outcome : Option InboundRecoveryOutcome)
    (cancelled : Bool) : Retired s (s.runEnds outcome cancelled) := by
  unfold runEnds
  split
  · exact .refl ended
  · rename_i here
    have running : s.phase = .running := Decidable.not_not.mp here
    have closing := past.closing (by rw [running]; rfl)
    obtain ⟨pn, adopted⟩ := adoptEnrichedPn_same { s with outcome := outcome.or s.outcome }
    rw [adopted]
    dsimp only
    rw [if_pos (.inr closing)]
    exact .emptied (.inl closing) ⟨rfl, rfl⟩ (.inl rfl) (.inr rfl) (.inr rfl)

theorem identityEnds_retired (past : Past s) (ended : s.Over) (provided : Bool)
    (outcome : Option CallbackIdentity.Outcome) : Retired s (s.identityEnds provided outcome) := by
  unfold identityEnds
  split
  · exact .refl ended
  · rename_i here
    have running : s.phase = .identityRunning := Decidable.not_not.mp here
    have closing := past.closing (by rw [running]; rfl)
    cases outcome with
    | none => exact .emptied (.inl closing) ⟨rfl, rfl⟩ (.inr rfl) (.inl rfl) (.inl rfl)
    | some outcome =>
      dsimp only
      rw [if_pos closing]
      obtain ⟨registry, kept⟩ := identity_kept (s := s) provided outcome
      rw [kept]
      exact .emptied (.inl closing) ⟨rfl, rfl⟩ (.inr rfl) (.inl rfl) (.inl rfl)

theorem recoveryEnds_retired (inv : s.Inv) (past : Past s) (ended : s.Over) (provided : Bool)
    (outcome : Option RecoveryVerificationOutcome) :
    Retired s (s.recoveryEnds provided outcome) := by
  unfold recoveryEnds
  split
  · exact .refl ended
  · rename_i here
    have running : s.phase = .recoveryRunning := Decidable.not_not.mp here
    have closing := past.closing (by rw [running]; rfl)
    have facts := inv.facts
    simp only [Facts, running] at facts
    cases outcome with
    | none => exact .emptied (.inl closing) ⟨rfl, rfl⟩ (.inr rfl) (.inl rfl) (.inl rfl)
    | some outcome =>
      dsimp only
      rw [if_pos closing]
      obtain ⟨registry, kept⟩ := capability_kept
        ({ s with recoveryOutcome := some outcome, produced := some outcome } : Transaction) provided
      rw [kept]
      exact .emptied (.inl closing) facts.1 (.inr rfl) (.inl rfl) (.inl rfl)

theorem close_retired : Retired s s.close :=
  .emptied (.inr (.inl rfl)) ⟨rfl, rfl⟩ (.inr rfl) (.inr rfl) (.inr rfl)

theorem release_over (s : Transaction) (provided : Bool) : (s.release provided).Over := by
  unfold release
  split
  · exact .inr (.inr ‹_›)
  · split
    · exact .inl rfl
    · exact .inl rfl

theorem release_retired (ended : s.Over) (provided : Bool) : Retired s (s.release provided) := by
  unfold release
  split
  · exact .refl ended
  · split
    · exact ⟨.inl rfl, fun holds => ⟨holds, rfl⟩, .inr rfl, .inr rfl, .inr rfl⟩
    · exact .emptied (.inl rfl) ⟨rfl, rfl⟩ (.inr rfl) (.inl rfl) (.inl rfl)

theorem afterDrop_past (past : Past s) : s.afterDrop = s.phase := by
  refine if_neg fun phases => ?_
  rcases phases with held | consumed
  · exact not_resettable past rfl held
  · exact not_resettable past rfl consumed

theorem prepareTerminal_past (past : Past s) (collectorPn : String)
    (recovery : RecoveryTerminalInput) (adopted : Bool) :
    (s.prepareTerminal collectorPn recovery adopted).1 = s := by
  unfold prepareTerminal
  dsimp only
  split
  · rw [if_pos (.inl past.adopted)]
  · rw [if_neg fun here => not_resettable past rfl here.1, if_neg fun here => past.verified here.1]

theorem prepareHandoff_past (past : Past s) (collectorPn : String) :
    (s.prepareHandoff collectorPn).1 = s := by
  unfold prepareHandoff
  dsimp only
  split
  · split <;> rfl
  · rw [if_pos (.inl past.verified)]

theorem commitTerminal_retired (ended : s.Over) : Retired s s.commitTerminal := by
  unfold commitTerminal
  split
  · exact ⟨.inr (.inr rfl), fun holds => ⟨holds, rfl⟩, .inr rfl, .inr rfl, .inr rfl⟩
  · exact .refl ended

theorem step_retired (inv : s.Inv) (ended : s.Over) {event : Event}
    (care : careful s event = true) : Retired s (step s event) := by
  have past := past_of_over inv ended
  have stays : ∀ {after : Transaction}, after = s → Retired s after := by
    intro after same
    rw [same]
    exact .refl ended
  obtain ⟨operation, provided⟩ := event
  cases operation with
  | others call => exact ⟨ended, fun holds => ⟨holds, rfl⟩, .inr rfl, .inr rfl, .inr rfl⟩
  | authorityCall call =>
    rw [step]
    dsimp only
    split
    · exact ⟨ended, fun holds => ⟨holds, rfl⟩, .inr rfl, .inr rfl, .inr rfl⟩
    · exact .refl ended
  | runBegins token current inventory lookupFails => exact stays (if_pos past.ready)
  | runEnds outcome cancelled => exact runEnds_retired past ended outcome cancelled
  | resetForRetry => exact stays (if_pos (.inl ⟨past.ready, past.failed⟩))
  | release => exact release_retired ended provided
  | prepareHandoff collectorPn => exact stays (prepareHandoff_past past collectorPn)
  | rollbackHandoff =>
    rw [step]
    unfold rollbackHandoff
    dsimp only
    split
    · exact .refl ended
    · exact .emptied (.inr (.inl rfl)) ⟨rfl, rfl⟩ (.inr rfl) (.inr rfl) (.inr rfl)
  | beginCallback => exact stays (if_pos (.inl past.failed))
  | beginManual =>
    refine stays ?_
    rw [step]
    unfold beginManualCallbackContinuation
    dsimp only
    rw [if_neg past.failed, if_pos (.inr (.inl ⟨past.ready, past.resettable⟩))]
  | beginObserved => exact stays (if_pos (.inl past.ready))
  | identityBegins request token => exact stays (if_pos (.inr (.inl past.resettable)))
  | identityEnds outcome => exact identityEnds_retired past ended provided outcome
  | recoveryBegins token => exact stays (if_pos (.inl (not_resettable past rfl)))
  | recoveryEnds outcome => exact recoveryEnds_retired inv past ended provided outcome
  | consume => exact stays (if_pos (not_resettable past rfl))
  | adoptRecovery =>
    refine stays ?_
    rw [step]
    unfold adoptRecovery
    dsimp only
    split
    · rfl
    · rw [if_pos (not_resettable past rfl)]
  | releaseUnadopted =>
    refine ⟨?_, fun holds => ⟨holds, rfl⟩, .inr rfl, .inl rfl, .inl rfl⟩
    change s.closeRequested = true ∨ s.afterDrop = .closed ∨ s.afterDrop = .handedOff
    rw [afterDrop_past past]
    exact ended
  | releaseExact =>
    rw [step]
    unfold releaseExactRecoveryOwner
    dsimp only
    split
    · exact .refl ended
    · refine ⟨?_, fun holds => ⟨holds, rfl⟩, .inr rfl, .inl rfl, .inl rfl⟩
      change s.closeRequested = true ∨ s.afterDrop = .closed ∨ s.afterDrop = .handedOff
      rw [afterDrop_past past]
      exact ended
  | prepareTerminal collectorPn recovery adopted =>
    exact stays (prepareTerminal_past past collectorPn recovery adopted)
  | commitTerminal => exact commitTerminal_retired ended
  | rollbackTerminal =>
    rw [step]
    unfold rollbackTerminal rollbackHandoff
    dsimp only
    split
    · exact close_retired
    · exact .emptied (.inr (.inl rfl)) ⟨rfl, rfl⟩ (.inr rfl) (.inr rfl) (.inr rfl)
    · split
      · exact .refl ended
      · exact .emptied (.inr (.inl rfl)) ⟨rfl, rfl⟩ (.inr rfl) (.inr rfl) (.inr rfl)
    · exact .refl ended

def Kept (s : Transaction) (event : Event) : Prop :=
  assumed s event = true ∧ careful s event = true

instance (s : Transaction) (event : Event) : Decidable (Kept s event) :=
  inferInstanceAs (Decidable (_ ∧ _))

theorem inv_start (registry : Registry) (hasRoute : Bool) (expectedPn oldSessionId : String) :
    (Transaction.start registry hasRoute expectedPn oldSessionId).Inv :=
  .ofVacant ⟨⟨rfl, rfl⟩, ⟨rfl, rfl⟩, rfl, rfl, rfl⟩ nofun rfl nofun

theorem inv_run (inv : s.Inv) {events : List Event} (kept : EveryStep step Kept s events) :
    (run step s events).Inv := by
  induction events generalizing s with
  | nil => exact inv
  | cons event later ih => exact ih (step_inv inv kept.1.1 kept.1.2).1 kept.2

theorem retired_run (inv : s.Inv) {before : Transaction} (retired : Retired before s)
    {events : List Event} (kept : EveryStep step Kept s events) :
    Retired before (run step s events) := by
  induction events generalizing s with
  | nil => exact retired
  | cons event later ih =>
    exact ih (step_inv inv kept.1.1 kept.1.2).1
      (retired.trans (step_retired inv retired.ended kept.1.2)) kept.2

def Phase.claimless : Phase → Bool
  | .ready | .failed | .callbackReady | .closed => true
  | _ => false

structure Single (s : Transaction) : Prop where
  one : ∀ t ∈ s.tokens, ∀ t' ∈ s.tokens, (s.registry.claims.get? t).isSome = true →
    (s.registry.claims.get? t').isSome = true → t = t'
  none : s.phase.claimless = true → ∀ t ∈ s.tokens, s.registry.claims.get? t = none

theorem single_of_inv (inv : s.Inv) : Single s where
  one t member t' member' held held' := by
    have first := inv.only t member held
    rw [inv.only t' member' held'] at first
    exact (Option.some.inj first).symm
  none claimless := by
    refine inv.vacant ?_
    unfold holder
    cases phase : s.phase with
    | ready | failed | callbackReady | closed => rfl
    | _ =>
      rw [phase] at claimless
      cases claimless

variable (registry : Registry) (hasRoute : Bool) (expectedPn oldSessionId : String)

/-- In every run whose steps keep to the condition, each state has at most one claim of the
    transaction and none in a claimless phase, a handoff is reached only with a certified claim,
    and after a release no owner and no result appears that was not there. -/
theorem admission_owns_one_claim {events : List Event}
    (kept : EveryStep step Kept (.start registry hasRoute expectedPn oldSessionId) events) :
    EveryState step Single (.start registry hasRoute expectedPn oldSessionId) events ∧
    EveryStep step (fun s event => HandedOver s (step s event))
      (.start registry hasRoute expectedPn oldSessionId) events ∧
    ∀ before provided after, events = before ++ ⟨.release, provided⟩ :: after →
      Retired (run step (.start registry hasRoute expectedPn oldSessionId)
          (before ++ [⟨.release, provided⟩]))
        (run step (.start registry hasRoute expectedPn oldSessionId) events) := by
  have start := inv_start registry hasRoute expectedPn oldSessionId
  refine ⟨?_, ?_, ?_⟩
  · have states : EveryState step Transaction.Inv
        (Transaction.start registry hasRoute expectedPn oldSessionId) events :=
      everyState_of_everyStep (fun (s : Transaction) (event : Event) inv (kept : Kept s event) =>
        (step_inv inv kept.1 kept.2).1) start kept
    exact everyState_mono (fun s inv => single_of_inv inv) states
  · exact everyStep_of_invariant
      (fun (s : Transaction) (event : Event) inv (kept : Kept s event) =>
        (step_inv inv kept.1 kept.2).1)
      (fun (s : Transaction) (event : Event) inv (kept : Kept s event) =>
        (step_inv inv kept.1 kept.2).2) start kept
  · rintro before provided after rfl
    rw [List.append_cons] at kept ⊢
    obtain ⟨earlier, later⟩ := everyStep_append kept
    have inv := inv_run start earlier
    have ended : (run step (.start registry hasRoute expectedPn oldSessionId)
        (before ++ [⟨.release, provided⟩])).Over := by
      simp only [run, List.foldl_append, List.foldl_cons, List.foldl_nil]
      exact release_over _ provided
    have retired := retired_run inv (.refl ended) later
    simp only [run, List.foldl_append] at retired ⊢
    exact retired

def recovered : RecoveryVerificationOutcome where
  fields :=
    { status := .callbackVerified
      collectorPn := "E5000020000001"
      newSessionId := "listener-8899-2"
      callbackProof := some
        { method := .str "reset_unicast_reconnect_same_pn"
          collectorPn := .str "E5000020000001"
          identitySource := .str "fc2_parameter_2"
          verifiedAt := .str "2026-07-16T10:00:00+00:00"
          triggerTarget := .str "192.168.1.50:58899"
          advertisedHaEndpoint := .str "192.168.1.10:8899"
          listenerPort := .int 8899 }
      handoffOwner := "recovery:2b" }
  accepted := by decide +kernel

def certifies (owner sessionId : String) : List Event :=
  [{ operation := .authorityCall ⟨[], .claimSession (.str owner) (.str sessionId)⟩ },
    { operation := .authorityCall ⟨[], .prepareHandoff (.str owner) (.str "E5000020000001")⟩ }]

def adoption : List Event :=
  [{ operation := .beginObserved },
    { operation := .identityBegins { tcpPort := 8899 } "identity:1f" }] ++
  certifies "identity:1f" "listener-8899-1" ++
  [{ operation := .identityEnds (some
        { result := .ok
          collectorPn := "E5000020000001"
          sessionId := "listener-8899-1"
          handoffOwner := "identity:1f" }) },
    { operation := .recoveryBegins "recovery:2b" }] ++
  certifies "recovery:2b" "listener-8899-2" ++
  [{ operation := .recoveryEnds (some recovered) }, { operation := .consume },
    { operation := .adoptRecovery }]

theorem adoption_owns_one_claim :
    EveryState step Single (Transaction.start .initial true "" "")
      (adoption ++ [⟨.commitTerminal, true⟩]) :=
  (admission_owns_one_claim .initial true "" "" (by decide +kernel)).1

theorem released_recovery_hands_off_nothing :
    ¬ ∀ (registry : Registry) (hasRoute : Bool) (expectedPn oldSessionId : String)
      (events : List Event),
      EveryStep step (fun s event => assumed s event = true)
        (Transaction.start registry hasRoute expectedPn oldSessionId) events →
      EveryStep step (fun s event => HandedOver s (step s event))
        (Transaction.start registry hasRoute expectedPn oldSessionId) events := by
  intro reached
  have admitted : EveryStep step (fun s event => assumed s event = true)
      (Transaction.start .initial true "" "")
      ((adoption ++ [⟨.release, true⟩]) ++ [⟨.commitTerminal, true⟩]) := by decide +kernel
  have commit := (everyStep_append (reached .initial true "" "" _ admitted)).2.1
  rcases commit (by decide +kernel) with handed | vouched
  · revert handed
    decide +kernel
  · have owner := ((certified_iff _ _).mp vouched).1
    revert owner
    decide +kernel

end Admission
