import EybondLocal.Admission.Ownership

/-!
How the callback authorities end, and the terminal: the claim an authority leaves is taken into
the slot, kept with the outcome that names it, or released.
-/
namespace Admission
open StripText PythonObject CollectorIdentity OrderedDict SessionRegistry Execution
open RecoveryVerification (RecoveryVerificationOutcome RecoveryTerminalInput requiredToken)

namespace Transaction
variable {s : Transaction} (provided : Bool)

theorem vacant_of_active (inv : s.Inv) (running : s.phase.isRunning = true)
    (gone : s.registry.claims.get? s.active = none) : s.Vacant := by
  intro t member
  cases held : s.registry.claims.get? t with
  | none => rfl
  | some claim =>
    have mine := inv.only t member (by rw [held]; rfl)
    rw [holder_of_running inv running] at mine
    cases mine
    rw [gone] at held
    cases held

theorem handsOver_spec {outcome : CallbackIdentity.Outcome} (hands : s.handsOver outcome = true) :
    outcome.handoffOwner = s.active ∧ strip outcome.collectorPn = outcome.collectorPn ∧
      strip outcome.sessionId = outcome.sessionId ∧ outcome.sessionId ≠ "" ∧
      ∃ claim, s.registry.claims.get? s.active = some claim ∧ claim.handoffPending = true ∧
        claim.sessionId = outcome.sessionId ∧ claim.collectorPn ≠ "" ∧
        pnIsSameIdentity claim.collectorPn outcome.collectorPn = true := by
  simp only [handsOver, Bool.and_eq_true, decide_eq_true_eq, Option.any_eq_true] at hands
  obtain ⟨⟨⟨⟨owner, pn⟩, session⟩, nonempty⟩, claim, held, prepared⟩ := hands
  exact ⟨owner, pn, session, nonempty, claim, held, prepared.1.1.1, prepared.1.1.2, prepared.1.2,
    prepared.2⟩

theorem pnIsSameIdentity_preferFullPn_right {left right : String}
    (same : pnIsSameIdentity left right = true) :
    pnIsSameIdentity (preferFullPn left right) right = true := by
  obtain ⟨hl, hr⟩ := pnIsSameIdentity_nonempty same
  rcases preferFullPn_cases hl hr with ⟨eq, -⟩ | ⟨eq, -⟩
  · rw [eq, pnIsSameIdentity_strip_left]
    exact same
  · rw [eq, pnIsSameIdentity_strip_left]
    exact pnIsSameIdentity_self hr

theorem fewer_identity (outcome : CallbackIdentity.Outcome) :
    Fewer s.registry (s.releaseIdentityOutcomeOwner provided outcome).registry := by
  unfold releaseIdentityOutcomeOwner
  dsimp only
  split
  · exact Fewer.refl _
  · split
    · exact fewer_release _ _
    · exact Fewer.refl _

theorem identity_kept (outcome : CallbackIdentity.Outcome) :
    ∃ registry, s.releaseIdentityOutcomeOwner provided outcome = { s with registry } := by
  unfold releaseIdentityOutcomeOwner
  dsimp only
  split
  · exact ⟨s.registry, rfl⟩
  · split
    · exact ⟨_, rfl⟩
    · exact ⟨s.registry, rfl⟩

theorem releaseIdentity_vacant (inv : s.Inv) (running : s.phase.isRunning = true)
    (named : s.active ≠ "") (trimmed : strip s.active = s.active)
    {outcome : CallbackIdentity.Outcome} (hands : s.handsOver outcome = true) :
    (s.releaseIdentityOutcomeOwner true outcome).Vacant := by
  obtain ⟨owner, pn, session, nonempty, claim, held, pending, bound, full, same⟩ :=
    handsOver_spec hands
  have present : outcome.collectorPn ≠ "" := by
    intro empty
    have right := (pnIsSameIdentity_nonempty same).2
    rw [empty, strip_empty] at right
    exact right rfl
  have vouched : s.registry.preparedHandoffIdentity (.str s.active) (.str outcome.collectorPn) =
      preferFullPn claim.collectorPn outcome.collectorPn := by
    simp [Registry.preparedHandoffIdentity, PyObj.cleanText_str, normalizePn, trimmed, named, pn,
      present, held, pending, bound, nonempty, full, same]
  have released : s.releaseIdentityOutcomeOwner true outcome =
      { s with registry := (s.registry.release (.str s.active)).registry } := by
    unfold releaseIdentityOutcomeOwner
    dsimp only
    rw [if_neg, if_pos]
    · rw [owner]
    · rw [owner, vouched, trimmed, Registry.claimedSessionId_of_get? held]
      exact ⟨preferFullPn_nonempty (Or.inl (pnIsSameIdentity_nonempty same).1),
        pnIsSameIdentity_preferFullPn_right same, bound⟩
    · rw [owner, pn, session, trimmed]
      simp [named, present, nonempty]
  rw [released]
  intro t member
  simp only [get?_release, trimmed]
  split
  · rfl
  · rename_i other
    cases left : s.registry.claims.get? t with
    | none => rfl
    | some claim =>
      have mine := inv.only t member (by rw [left]; rfl)
      rw [holder_of_running inv running] at mine
      exact absurd (Option.some.inj mine).symm other

theorem giveUp_inv (inv : s.Inv) (vacant : s.Vacant) {after : Transaction}
    (empty : after.Empty) (quiet : after.NoRecovery) (mode : after.terminalMode = .none)
    (silent : after.outcome = none) (tokens : after.tokens = s.tokens)
    (fewer : Fewer s.registry after.registry)
    (phase : after.phase = .closed ∨ (after.phase = .callbackReady ∧ after.closeRequested = false)) :
    after.Inv := by
  have gone := vacant.fewer tokens fewer
  have names : ∀ t ∈ after.tokens, t ≠ "" := tokens ▸ inv.named
  rcases phase with closed | ⟨ready, open'⟩
  · refine .ofVacant ?_ gone (by rw [holder, closed]) names
    simp only [Facts, closed]
    exact ⟨empty, fun _ => quiet⟩
  · refine .ofVacant ?_ gone (by rw [holder, ready]) names
    simp only [Facts, ready]
    exact ⟨empty, quiet, mode, open', silent⟩

theorem backTo_callbackReady (s : Transaction) :
    s.backTo .callbackReady = .closed ∨
      (s.backTo .callbackReady = .callbackReady ∧ s.closeRequested = false) := by
  unfold backTo
  by_cases closing : s.closeRequested = true
  · exact .inl (if_pos closing)
  · exact .inr ⟨if_neg closing, Bool.eq_false_iff.mpr closing⟩

theorem identityEnds_inv (inv : s.Inv) (outcome : Option CallbackIdentity.Outcome)
    (leaves : if (outcome.map CallbackIdentity.Outcome.identityCertified).getD false then
        outcome.any s.handsOver = true
      else (s.registry.claims.get? s.active).isNone = true)
    (answers : provided = true ∨
      (outcome.map CallbackIdentity.Outcome.identityCertified).getD false = false) :
    (s.identityEnds provided outcome).Inv := by
  unfold identityEnds
  split
  · exact inv
  · rename_i here
    have running : s.phase = .identityRunning := Decidable.not_not.mp here
    have runs : s.phase.isRunning = true := by rw [running]; rfl
    have facts := inv.facts
    simp only [Facts, running] at facts
    obtain ⟨empty, none, mode, silent, named, trimmed⟩ := facts
    cases outcome with
    | none =>
      have vacant := vacant_of_active inv runs (Option.isNone_iff_eq_none.mp leaves)
      exact giveUp_inv inv vacant ⟨rfl, rfl⟩ ⟨rfl, rfl⟩ rfl silent rfl (fewer_reset provided s)
        (backTo_callbackReady s)
    | some outcome =>
      simp only [Option.map_some, Option.getD_some, Option.any_some] at leaves answers
      obtain ⟨registry, kept⟩ := identity_kept (s := s) provided outcome
      have fewer := fewer_identity (s := s) provided outcome
      dsimp only
      cases certified : outcome.identityCertified with
      | false =>
        rw [certified] at leaves
        have vacant := vacant_of_active inv runs (Option.isNone_iff_eq_none.mp leaves)
        split
        · refine giveUp_inv inv vacant ⟨rfl, rfl⟩ ⟨rfl, rfl⟩ rfl ?_ ?_
            (fewer.trans (fewer_reset provided _)) (.inl rfl)
          · rw [kept]
            exact silent
          · rw [kept]
            rfl
        · rename_i open'
          rw [if_pos rfl]
          exact giveUp_inv inv vacant empty none mode silent rfl (Fewer.refl _)
            (.inr ⟨rfl, Bool.eq_false_iff.mpr open'⟩)
      | true =>
        rw [certified] at leaves answers
        have answers' : provided = true := answers.resolve_right (by simp)
        subst answers'
        have hands : s.handsOver outcome = true := leaves
        have dropped := releaseIdentity_vacant inv runs named trimmed hands
        obtain ⟨owner, pn, session, nonempty, -⟩ := handsOver_spec hands
        split
        · have vacant : ({ (s.releaseIdentityOutcomeOwner true outcome).resetCallbackAttempt true with
              phase := .closed } : Transaction).Vacant := by
            refine dropped.fewer ?_ (fewer_reset true _)
            rfl
          refine .ofVacant ⟨⟨rfl, rfl⟩, fun _ => ⟨rfl, rfl⟩⟩ vacant rfl ?_
          rw [kept]
          exact inv.named
        · rename_i open'
          rw [if_neg (by simp), if_neg (by simp [owner, pn, session, trimmed])]
          split
          · have vacant : ({ (s.releaseIdentityOutcomeOwner true outcome).resetCallbackAttempt true with
                phase := .callbackReady } : Transaction).Vacant := by
              refine dropped.fewer ?_ (fewer_reset true _)
              rfl
            refine .ofVacant ⟨⟨rfl, rfl⟩, ⟨rfl, rfl⟩, rfl, ?_, ?_⟩ vacant rfl ?_
            · rw [kept]
              exact Bool.eq_false_iff.mpr open'
            · rw [kept]
              exact silent
            · rw [kept]
              exact inv.named
          · have own := holder_of_running inv runs
            rw [owner]
            refine ⟨⟨⟨rfl, named, trimmed⟩, none, mode, Bool.eq_false_iff.mpr open', silent⟩,
              fun t member held => ?_, fun adopted => ?_, inv.named, fun t mine nonempty => ?_⟩
            · have mine := inv.only t member held
              rw [own] at mine
              exact mine
            · cases adopted
            · exact inv.known t (own.trans mine) nonempty

theorem recoveryEnds_inv (inv : s.Inv) (outcome : Option RecoveryVerificationOutcome)
    (leaves : match outcome with
      | none => (s.registry.claims.get? s.active).isNone = true
      | some outcome => outcome.fields.handoffOwner = s.active ∨
          (outcome.fields.handoffOwner = "" ∧ (s.registry.claims.get? s.active).isNone = true))
    (answers : provided = true ∨ s.closeRequested = false) :
    (s.recoveryEnds provided outcome).Inv := by
  unfold recoveryEnds
  split
  · exact inv
  · rename_i here
    have running : s.phase = .recoveryRunning := Decidable.not_not.mp here
    have runs : s.phase.isRunning = true := by rw [running]; rfl
    have own := holder_of_running inv runs
    have facts := inv.facts
    simp only [Facts, running] at facts
    obtain ⟨empty, -, mode, silent, named, trimmed⟩ := facts
    cases outcome with
    | none =>
      have vacant := vacant_of_active inv runs (Option.isNone_iff_eq_none.mp leaves)
      exact giveUp_inv inv vacant ⟨rfl, rfl⟩ ⟨rfl, rfl⟩ rfl silent rfl (fewer_reset provided s)
        (backTo_callbackReady s)
    | some outcome =>
      -- A claim that is left is the one the outcome names.
      have only : ∀ t ∈ s.tokens, (s.registry.claims.get? t).isSome = true →
          some (strip outcome.fields.handoffOwner) = some t := by
        intro t member held
        have mine := inv.only t member held
        rw [own] at mine
        rcases leaves with same | ⟨-, gone⟩
        · rw [same, trimmed]
          exact mine
        · rw [← Option.some.inj mine, Option.isNone_iff_eq_none.mp gone] at held
          cases held
      dsimp only
      split
      · rename_i closing
        have answers' : provided = true := answers.resolve_right (by simp [closing])
        subst answers'
        have dropped := capability_vacant (s := { s with
          recoveryOutcome := some outcome, produced := some outcome }) empty.2 (.inr rfl) only
          inv.named
        exact .ofVacant ⟨empty, fun _ => ⟨rfl, rfl⟩⟩ dropped rfl inv.named
      · rename_i open'
        refine ⟨⟨empty, rfl, mode, Bool.eq_false_iff.mpr open', silent⟩, only, fun adopted => ?_,
          inv.named, fun t mine nonempty => ?_⟩
        · cases adopted
        · have same : strip outcome.fields.handoffOwner = t := Option.some.inj mine
          rcases leaves with eq | ⟨eq, -⟩
          · rw [eq, trimmed] at same
            exact inv.known t (own.trans (by rw [same])) nonempty
          · rw [eq, strip_empty] at same
            exact absurd same.symm nonempty

theorem consume_inv (inv : s.Inv) : s.consumeRecoveryOutcome.Inv := by
  unfold consumeRecoveryOutcome
  split
  · exact inv
  · rename_i here
    have held : s.phase = .recoveryHeld := Decidable.not_not.mp here
    have facts := inv.facts
    simp only [Facts, held] at facts
    obtain ⟨empty, -, mode, open', silent⟩ := facts
    have own : s.holder = s.producedOwner := by rw [holder, held]
    split
    · refine ⟨⟨empty, rfl, mode, open', silent⟩, fun t member claimed => ?_, fun adopted => ?_,
        inv.named, fun t mine nonempty => ?_⟩
      · exact own.symm.trans (inv.only t member claimed)
      · cases adopted
      · exact inv.known t (own.trans mine) nonempty
    · exact inv

theorem requiredToken_spec {value : String} (required : requiredToken value = true) :
    value ≠ "" ∧ strip value = value := by
  simp only [requiredToken, Bool.and_eq_true, bne_iff_ne, beq_iff_eq] at required
  exact ⟨required.1, required.2.symm⟩

theorem fromCallbackTransaction_owner {outcome : RecoveryVerificationOutcome}
    {terminal : RecoveryTerminalInput}
    (built : RecoveryTerminalInput.fromCallbackTransaction outcome = .ok terminal) :
    terminal.fields.preparedHandoffOwner = outcome.fields.handoffOwner := by
  have constructed : ∀ {fields : RecoveryVerification.TerminalFields},
      RecoveryTerminalInput.construct fields = .ok terminal → terminal.fields = fields := by
    intro fields made
    unfold RecoveryTerminalInput.construct at made
    split at made
    · cases made
    · cases made
      rfl
  unfold RecoveryTerminalInput.fromCallbackTransaction RecoveryTerminalInput.ofOutcome at built
  split at built
  · rw [constructed built]
  · rw [constructed built]
  · cases built

theorem preparedHandoffOwner_trimmed (terminal : RecoveryTerminalInput)
    (nonempty : terminal.fields.preparedHandoffOwner ≠ "") :
    strip terminal.fields.preparedHandoffOwner = terminal.fields.preparedHandoffOwner := by
  have accepted := terminal.accepted
  unfold RecoveryVerification.TerminalFields.postInit at accepted
  split at accepted
  · cases accepted
  · split at accepted
    · rename_i unproven
      rw [if_pos (Or.inr nonempty)] at accepted
      cases accepted
    · split at accepted
      · cases accepted
      · split at accepted
        · cases accepted
        · split at accepted
          · cases accepted
          · rename_i token
            simp only [not_and, Decidable.not_not] at token
            exact (requiredToken_spec (token nonempty)).2

theorem adoptRecovery_inv (inv : s.Inv) : (s.adoptRecovery provided).Inv := by
  unfold adoptRecovery
  cases produced : s.produced with
  | none => exact inv
  | some outcome =>
    dsimp only
    split
    · exact inv
    · rename_i here
      have consumed : s.phase = .recoveryConsumed := Decidable.not_not.mp here
      have facts := inv.facts
      simp only [Facts, consumed] at facts
      obtain ⟨-, -, -, open', -⟩ := facts
      have own : s.holder = some (strip outcome.fields.handoffOwner) := by
        simp [holder, consumed, producedOwner, produced]
      cases built : RecoveryTerminalInput.fromCallbackTransaction outcome with
      | error error => exact inv
      | ok terminal =>
        have same := fromCallbackTransaction_owner built
        dsimp only
        split
        · exact inv
        · rename_i vouched
          simp only [not_or] at vouched
          have certified : Certified s.registry terminal.fields.preparedHandoffOwner :=
            ⟨_, vouched.2⟩
          have nonempty : terminal.fields.preparedHandoffOwner ≠ "" := by
            intro empty
            have present := ((certified_iff _ _).mp certified).1
            rw [empty, strip_empty] at present
            exact present rfl
          have trimmed := preparedHandoffOwner_trimmed terminal nonempty
          have own' : s.holder = some terminal.fields.preparedHandoffOwner := by
            rw [own, ← same, trimmed]
          refine ⟨⟨⟨rfl, nonempty, trimmed⟩, open'⟩, fun t member held => ?_, fun _ => certified,
            inv.named, fun t mine nonempty => ?_⟩
          · exact own'.symm.trans (inv.only t member held)
          · exact inv.known t (own'.trans mine) nonempty

/-- Releasing the owner of an outcome never touches the claim in the slot. -/
theorem releaseProducedOwner_slot (outcome : RecoveryVerificationOutcome) :
    (s.releaseProducedOwner provided outcome).claims.get? s.owner =
      s.registry.claims.get? s.owner := by
  unfold releaseProducedOwner
  dsimp only
  split
  · rfl
  · rename_i apart
    simp only [not_or] at apart
    rw [get?_release, strip_idempotent, if_neg (Ne.symm apart.2.1)]

theorem drop_inv (inv : s.Inv) {registry : Registry} (fewer : Fewer s.registry registry)
    (slot : registry.claims.get? s.owner = s.registry.claims.get? s.owner)
    (gone : (s.phase = .recoveryHeld ∨ s.phase = .recoveryConsumed) →
      ∀ t ∈ s.tokens, registry.claims.get? t = none) :
    ({ s with
        registry := registry
        recoveryOutcome := none
        produced := none
        phase := s.afterDrop } : Transaction).Inv := by
  have facts := inv.facts
  have certified : s.phase = .recoveryAdopted → Certified registry s.owner := by
    intro adopted
    have slotted := facts
    simp only [Facts, adopted] at slotted
    have before := inv.certified adopted
    rw [certified_iff, slotted.1.2.2] at before ⊢
    rwa [slot]
  have dropped : (s.phase = .recoveryHeld ∨ s.phase = .recoveryConsumed) →
      s.closeRequested = false → s.Empty → s.terminalMode = .none → s.outcome = none →
      ({ s with
        registry := registry
        recoveryOutcome := none
        produced := none
        phase := s.afterDrop } : Transaction).Inv := by
    intro phases open' empty mode silent
    have ready : s.afterDrop = .callbackReady := by
      rw [afterDrop, if_pos phases, backTo, open']
      rfl
    rw [ready]
    exact .ofVacant ⟨empty, ⟨rfl, rfl⟩, mode, open', silent⟩ (gone phases) rfl inv.named
  have stays : ¬ (s.phase = .recoveryHeld ∨ s.phase = .recoveryConsumed) →
      ({ s with
        registry := registry
        recoveryOutcome := none
        produced := none } : Transaction).Facts →
      ({ s with
        registry := registry
        recoveryOutcome := none
        produced := none
        phase := s.afterDrop } : Transaction).Inv := by
    intro phases kept
    have same : ({ s with
        registry := registry
        recoveryOutcome := none
        produced := none } : Transaction).holder = s.holder := by
      unfold holder
      cases phase : s.phase with
      | recoveryHeld => exact absurd (.inl phase) phases
      | recoveryConsumed => exact absurd (.inr phase) phases
      | _ => rfl
    rw [show s.afterDrop = s.phase from if_neg phases]
    exact ⟨kept, fun t member held => same.trans (inv.only t member (fewer t held)), certified,
      inv.named, fun t mine nonempty => inv.known t (same.symm.trans mine) nonempty⟩
  unfold Facts at facts stays
  cases phase : s.phase with
  | recoveryHeld =>
    rw [phase] at facts
    exact dropped (.inl phase) facts.2.2.2.1 facts.1 facts.2.2.1 facts.2.2.2.2
  | recoveryConsumed =>
    rw [phase] at facts
    exact dropped (.inr phase) facts.2.2.2.1 facts.1 facts.2.2.1 facts.2.2.2.2
  | ready | failed | running | verified | callbackReady | identityRunning | recoveryRunning
  | identityCertified =>
    simp only [phase] at facts stays
    exact stays (by simp) ⟨facts.1, ⟨rfl, rfl⟩, facts.2.2⟩
  | recoveryAdopted | handedOff =>
    simp only [phase] at facts stays
    exact stays (by simp) facts
  | closed =>
    simp only [phase] at facts stays
    exact stays (by simp) ⟨facts.1, fun _ => ⟨rfl, rfl⟩⟩

theorem capability_slot (s : Transaction) :
    (s.releaseCallbackRecoveryCapability provided).registry.claims.get? s.owner =
      s.registry.claims.get? s.owner := by
  unfold releaseCallbackRecoveryCapability
  dsimp only
  split
  · rfl
  · exact releaseProducedOwner_slot provided _

theorem capability_gone (inv : s.Inv)
    (phases : s.phase = .recoveryHeld ∨ s.phase = .recoveryConsumed) (answers : provided = true) :
    (s.releaseCallbackRecoveryCapability provided).Vacant := by
  have facts := inv.facts
  subst answers
  rcases phases with held | consumed
  · simp only [Facts, held] at facts
    refine capability_vacant facts.1.2 (.inr facts.2.1) (fun t member claimed => ?_) inv.named
    have mine := inv.only t member claimed
    rwa [holder, held] at mine
  · simp only [Facts, consumed] at facts
    refine capability_vacant facts.1.2 (.inl facts.2.1) (fun t member claimed => ?_) inv.named
    have mine := inv.only t member claimed
    rwa [holder, consumed] at mine

theorem releaseUnadopted_inv (inv : s.Inv)
    (answers : (s.phase = .recoveryHeld ∨ s.phase = .recoveryConsumed) → provided = true) :
    (s.releaseUnadoptedRecovery provided).Inv :=
  drop_inv inv (fewer_capability provided s) (capability_slot provided s)
    fun phases => capability_gone provided inv phases (answers phases)

theorem releaseExact_inv (inv : s.Inv)
    (answers : (s.phase = .recoveryHeld ∨ s.phase = .recoveryConsumed) → provided = true) :
    (s.releaseExactRecoveryOwner provided).Inv := by
  unfold releaseExactRecoveryOwner
  cases produced : s.produced with
  | none => exact inv
  | some outcome =>
    refine drop_inv inv (fewer_releaseProducedOwner provided outcome)
      (releaseProducedOwner_slot provided outcome) fun phases => ?_
    have gone := capability_gone provided inv phases (answers phases)
    have last : s.recoveryOutcome.or s.produced = some outcome := by
      have facts := inv.facts
      rcases phases with held | consumed
      · simp only [Facts, held] at facts
        rw [facts.2.1, produced, Option.or_self]
      · simp only [Facts, consumed] at facts
        rw [facts.2.1, Option.none_or, produced]
    have same : (s.releaseCallbackRecoveryCapability provided).registry =
        s.releaseProducedOwner provided outcome := by
      simp [releaseCallbackRecoveryCapability, last]
    intro t member
    rw [← same]
    exact gone t member

def HandedOver (s after : Transaction) : Prop :=
  after.phase = .handedOff → s.phase = .handedOff ∨ Certified after.registry after.owner

theorem inv_terminalMode (inv : s.Inv) (mode : TerminalMode)
    (placed : s.phase = .recoveryAdopted ∨ s.phase = .handedOff) :
    ({ s with terminalMode := mode } : Transaction).Inv := by
  have facts := inv.facts
  refine ⟨?_, inv.only, inv.certified, inv.named, inv.known⟩
  rcases placed with adopted | handed
  · simp only [Facts, adopted] at facts ⊢
    exact facts
  · simp only [Facts, handed] at facts ⊢
    exact facts

theorem commitHandoff_ok (s : Transaction) (pn : String) (accepts : String → Bool)
    (uncertified : HandoffStatus) (next : Transaction)
    (unok : uncertified ≠ .ok) (committed : s.commitHandoff pn accepts uncertified = (next, .ok)) :
    next.phase = .handedOff := by
  unfold commitHandoff at committed
  split at committed
  · cases committed
  · cases committed
  · split at committed
    · cases committed
      rfl
    · cases committed
      exact absurd rfl unok

theorem prepareIdentity_inv (inv : s.Inv) (collectorPn : String) :
    (s.prepareCallbackIdentityHandoff collectorPn).1.Inv ∧
      HandedOver s (s.prepareCallbackIdentityHandoff collectorPn).1 := by
  unfold prepareCallbackIdentityHandoff
  split
  · exact ⟨inv, .inl⟩
  · rename_i here
    simp only [not_or, Decidable.not_not] at here
    have certified : s.phase = .identityCertified := here.2.2.1
    have facts := inv.facts
    simp only [Facts, certified] at facts
    obtain ⟨kept, reached⟩ := commitHandoff_inv inv facts.1 (by rw [holder, certified])
      facts.2.2.2.1 collectorPn
      (fun certified => certified ≠ "" && pnIsSameIdentity certified collectorPn)
      (fun _ accepted => by simp only [ne_eq, decide_not, Bool.and_eq_true, Bool.not_eq_true',
        decide_eq_false_iff_not] at accepted; exact accepted.1) .notPrepared
    exact ⟨kept, fun handed => .inr (reached handed)⟩

theorem prepareIdentity_ok {collectorPn : String} {next : Transaction}
    (prepared : s.prepareCallbackIdentityHandoff collectorPn = (next, .ok)) :
    next.phase = .handedOff := by
  unfold prepareCallbackIdentityHandoff at prepared
  split at prepared
  · cases prepared
  · exact commitHandoff_ok s collectorPn _ .notPrepared next nofun prepared

theorem prepareHandoff_ok {collectorPn : String} {next : Transaction}
    (verified : s.phase = .verified)
    (prepared : s.prepareHandoff collectorPn = (next, .ok .ok)) : next.phase = .handedOff := by
  unfold prepareHandoff at prepared
  dsimp only at prepared
  rw [if_neg (by rw [verified]; nofun)] at prepared
  split at prepared
  · cases prepared
  · split at prepared
    · cases prepared
    · split at prepared
      · cases prepared
      · split at prepared
        · cases prepared
        · simp only [Prod.mk.injEq, Except.ok.injEq] at prepared
          exact commitHandoff_ok s _ _ .alreadyConfigured next nofun
            (Prod.ext prepared.1 prepared.2)

theorem prepareTerminal_inv (inv : s.Inv) (collectorPn : String) (recovery : RecoveryTerminalInput)
    (adopted : Bool) : (s.prepareTerminal collectorPn recovery adopted).1.Inv ∧
      HandedOver s (s.prepareTerminal collectorPn recovery adopted).1 := by
  have unchanged : s.Inv ∧ HandedOver s s := ⟨inv, .inl⟩
  unfold prepareTerminal
  dsimp only
  split
  · split
    · exact unchanged
    · rename_i placed
      simp only [not_or, Decidable.not_not] at placed
      split
      · exact unchanged
      · exact ⟨inv_terminalMode inv _ (.inl placed.1), .inl⟩
  · split
    · rename_i here
      obtain ⟨kept, reached⟩ := prepareIdentity_inv inv collectorPn
      cases prepared : s.prepareCallbackIdentityHandoff collectorPn with
      | mk next status =>
        rw [prepared] at kept reached
        cases status with
        | alreadyConfigured => exact ⟨kept, reached⟩
        | notPrepared => exact ⟨kept, reached⟩
        | ok =>
          exact ⟨inv_terminalMode kept _ (.inr (prepareIdentity_ok prepared)), reached⟩
    · split
      · rename_i here
        obtain ⟨kept, reached⟩ := prepareHandoff_inv inv collectorPn
        cases prepared : s.prepareHandoff collectorPn with
        | mk next result =>
          rw [prepared] at kept reached
          cases result with
          | error error => exact ⟨kept, reached⟩
          | ok status =>
            cases status with
            | alreadyConfigured => exact ⟨kept, reached⟩
            | notPrepared => exact ⟨kept, reached⟩
            | ok =>
              have handed := prepareHandoff_ok here.1 prepared
              exact ⟨inv_terminalMode kept _ (.inr handed), reached⟩
      · exact unchanged

theorem commitTerminal_inv (inv : s.Inv)
    (placed : s.terminalMode ≠ .recoveryOwner ∨ s.phase = .recoveryAdopted ∨ s.phase = .handedOff) :
    s.commitTerminal.Inv ∧ HandedOver s s.commitTerminal := by
  unfold commitTerminal
  split
  · rename_i mode
    have facts := inv.facts
    rcases placed.resolve_left (fun other => other mode) with adopted | handed
    · simp only [Facts, adopted] at facts
      have own : s.holder = some s.owner := by rw [holder, adopted]
      refine ⟨⟨facts, fun t member held => ?_, fun again => (by cases again), inv.named,
        fun t mine nonempty => inv.known t (own.trans mine) nonempty⟩,
        fun _ => .inr (inv.certified adopted)⟩
      exact own.symm.trans (inv.only t member held)
    · simp only [Facts, handed] at facts
      have own : s.holder = some s.owner := by rw [holder, handed]
      refine ⟨⟨facts, fun t member held => ?_, fun again => (by cases again), inv.named,
        fun t mine nonempty => inv.known t (own.trans mine) nonempty⟩, fun _ => .inl handed⟩
      exact own.symm.trans (inv.only t member held)
  · exact ⟨inv, .inl⟩

theorem closed_inv (inv : s.Inv) (mode : s.terminalMode ≠ .none) : s.close.Inv := by
  have facts := inv.facts
  have quiet : s.closeRequested = false → s.closeRequested = true → s.NoRecovery := by
    intro open' closing
    rw [open'] at closing
    cases closing
  unfold Facts at facts
  cases phase : s.phase with
  | recoveryAdopted | handedOff =>
    rw [phase] at facts
    exact close_inv inv (releaseOwner_vacant facts.1 (inv.onlyOwner (by rw [holder, phase])))
      (quiet facts.2)
  | closed =>
    rw [phase] at facts
    exact close_inv inv ((inv.vacant (by rw [holder, phase])).fewer rfl (fewer_releaseOwner s)) facts.2
  | _ =>
    rw [phase] at facts
    exact absurd facts.2.2.1 mode

theorem rollbackTerminal_inv (inv : s.Inv) : s.rollbackTerminal.Inv := by
  unfold rollbackTerminal
  split
  · rename_i mode
    exact closed_inv inv (by rw [mode]; nofun)
  · rename_i mode
    have closed := closed_inv inv (by rw [mode]; nofun)
    exact ⟨closed.facts, closed.only, closed.certified, closed.named, closed.known⟩
  · exact rollbackHandoff_inv inv
  · exact inv

end Transaction
end Admission
