import EybondLocal.Admission.Model
import EybondLocal.Library.Execution

/-!
Which claim the admission transaction holds in which phase. The owner slot, the produced
recovery outcome and the running authority take turns, and each turn ends with a release; only
the commit of a recovery owner does not look whether there still is one.
-/
namespace Admission
open StripText PythonObject CollectorIdentity OrderedDict SessionRegistry Execution
open RecoveryVerification (RecoveryVerificationOutcome RecoveryTerminalInput)

def Transaction.fresh (s : Transaction) (token : String) : Bool :=
  !s.tokens.contains token && (s.registry.claims.get? token).isNone && strip token = token &&
    token ≠ ""

/-- A certified identity outcome names the owner of the attempt, whose claim is prepared on
    the returned socket and of the returned identity. -/
def Transaction.handsOver (s : Transaction) (outcome : CallbackIdentity.Outcome) : Bool :=
  outcome.handoffOwner = s.active && strip outcome.collectorPn = outcome.collectorPn &&
    strip outcome.sessionId = outcome.sessionId && outcome.sessionId ≠ "" &&
    (s.registry.claims.get? s.active).any fun claim =>
      claim.handoffPending && claim.sessionId = outcome.sessionId && claim.collectorPn ≠ "" &&
        pnIsSameIdentity claim.collectorPn outcome.collectorPn

/-- Owner ids are new and nobody else uses them, and an authority leaves a claim under its id
    only with a successful outcome. -/
def assumed (s : Transaction) (event : Event) : Bool :=
  match event.operation with
  | .others call => s.tokens.all fun t => call.operation.owner ≠ some t
  | .authorityCall call => call.operation.owner = some s.active
  | .runBegins token _ _ _ | .identityBegins _ token | .recoveryBegins token => s.fresh token
  | .identityEnds outcome =>
    if (outcome.map CallbackIdentity.Outcome.identityCertified).getD false then
      outcome.any s.handsOver
    else (s.registry.claims.get? s.active).isNone
  | .recoveryEnds outcome =>
    match outcome with
    | none => (s.registry.claims.get? s.active).isNone
    | some outcome =>
      outcome.fields.handoffOwner = s.active ||
        (outcome.fields.handoffOwner = "" && (s.registry.claims.get? s.active).isNone)
  | _ => true

/-- A recovery owner is committed while it is adopted, and entry setup takes its claim no
    earlier; the registry provider answers where a claim must be taken over or dropped. -/
def careful (s : Transaction) (event : Event) : Bool :=
  match event.operation with
  | .commitTerminal =>
    s.terminalMode ≠ .recoveryOwner || s.phase = .recoveryAdopted || s.phase = .handedOff
  | .others call => s.phase ≠ .recoveryAdopted || !s.registry.completes call s.owner
  | .identityEnds outcome =>
    event.provided || !(outcome.map CallbackIdentity.Outcome.identityCertified).getD false
  | .recoveryEnds _ => event.provided || !s.closeRequested
  | .release | .beginManual | .identityBegins _ _ | .releaseUnadopted | .releaseExact =>
    event.provided || (s.phase ≠ .recoveryHeld && s.phase ≠ .recoveryConsumed)
  | _ => true

def Certified (reg : Registry) (owner : String) : Prop :=
  ∃ pn, reg.preparedHandoffIdentity (.str owner) (.str pn) ≠ ""

def Fewer (reg reg' : Registry) : Prop :=
  ∀ t, (reg'.claims.get? t).isSome = true → (reg.claims.get? t).isSome = true

theorem Fewer.refl (reg : Registry) : Fewer reg reg := fun _ held => held

theorem Fewer.trans {first second third : Registry} (left : Fewer first second)
    (right : Fewer second third) : Fewer first third := fun t held => left t (right t held)

theorem get?_release (reg : Registry) (owner t : String) :
    (reg.release (.str owner)).registry.claims.get? t =
      if t = strip owner then none else reg.claims.get? t := by
  simp [Registry.release, Registry.returns]

theorem fewer_release (reg : Registry) (owner : String) :
    Fewer reg (reg.release (.str owner)).registry := by
  intro t held
  rw [get?_release] at held
  split at held
  · cases held
  · exact held

theorem certified_iff (reg : Registry) (owner : String) :
    Certified reg owner ↔ strip owner ≠ "" ∧ ∃ claim, reg.claims.get? (strip owner) = some claim ∧
      claim.handoffPending = true ∧ claim.sessionId ≠ "" ∧ strip claim.collectorPn ≠ "" := by
  simp only [Certified, Registry.preparedHandoffIdentity, PyObj.cleanText_str, normalizePn]
  constructor
  · rintro ⟨pn, vouched⟩
    split at vouched
    · exact absurd rfl vouched
    · rename_i present
      split at vouched
      · exact absurd rfl vouched
      · rename_i claim held
        split at vouched
        · exact absurd rfl vouched
        · rename_i sound
          simp only [not_or, Bool.not_eq_false] at present sound
          exact ⟨present.1, claim, held, sound.1, sound.2.1, (pnIsSameIdentity_nonempty sound.2.2.2).1⟩
  · rintro ⟨present, claim, held, pending, session, pn⟩
    refine ⟨claim.collectorPn, ?_⟩
    have nonempty : claim.collectorPn ≠ "" := by
      intro empty
      rw [empty, strip_empty] at pn
      exact pn rfl
    simp [present, pn, held, pending, session, nonempty, pnIsSameIdentity_self pn,
      preferFullPn_nonempty (Or.inl pn)]

/-- Others may complete the PN of a certified claim; only a completed handoff takes it. -/
theorem certified_step {reg : Registry} {call : Call} {owner : String} (trimmed : strip owner = owner)
    (other : call.operation.owner ≠ some owner) (open' : reg.completes call owner = false)
    (certified : Certified reg owner) : Certified (SessionRegistry.step reg call) owner := by
  rw [certified_iff, trimmed] at certified ⊢
  obtain ⟨present, claim, held, pending, session, pn⟩ := certified
  have touched : Touched reg call owner _ := step_touched other
  refine ⟨present, ?_⟩
  generalize (SessionRegistry.step reg call).claims.get? owner = after at touched
  cases touched with
  | kept => exact ⟨claim, held, pending, session, pn⟩
  | enriched previous fuller before same =>
    cases held.symm.trans before
    refine ⟨_, rfl, pending, session, ?_⟩
    rw [strip_preferFullPn]
    exact preferFullPn_nonempty (Or.inl pn)
  | completed previous before prepared completes =>
    rw [open'] at completes
    cases completes

theorem isSome_of_step {reg : Registry} {call : Call} {owner : String}
    (other : call.operation.owner ≠ some owner)
    (held : ((SessionRegistry.step reg call).claims.get? owner).isSome = true) :
    (reg.claims.get? owner).isSome = true := by
  have touched : Touched reg call owner _ := step_touched other
  generalize (SessionRegistry.step reg call).claims.get? owner = after at touched held
  cases touched with
  | kept => exact held
  | enriched claim fuller before same =>
    rw [before]
    rfl
  | completed => cases held

namespace Transaction
variable {s : Transaction} (provided : Bool)

def Vacant (s : Transaction) : Prop := ∀ t ∈ s.tokens, s.registry.claims.get? t = none

@[simp] theorem releaseOwner_tokens : s.releaseOwner.tokens = s.tokens := rfl

theorem fewer_releaseOwner (s : Transaction) : Fewer s.registry s.releaseOwner.registry := by
  unfold releaseOwner
  dsimp only
  split
  · exact fewer_release _ _
  · exact Fewer.refl _

theorem fewer_releaseProducedOwner (outcome : RecoveryVerificationOutcome) :
    Fewer s.registry (s.releaseProducedOwner provided outcome) := by
  unfold releaseProducedOwner
  dsimp only
  split
  · exact Fewer.refl _
  · exact fewer_release _ _

theorem fewer_capability (s : Transaction) :
    Fewer s.registry (s.releaseCallbackRecoveryCapability provided).registry := by
  unfold releaseCallbackRecoveryCapability
  dsimp only
  split
  · exact Fewer.refl _
  · exact fewer_releaseProducedOwner provided _

theorem fewer_reset (s : Transaction) : Fewer s.registry (s.resetCallbackAttempt provided).registry :=
  (fewer_capability provided s).trans (fewer_releaseOwner _)

theorem Vacant.fewer {s s' : Transaction} (vacant : s.Vacant) (same : s'.tokens = s.tokens)
    (fewer : Fewer s.registry s'.registry) : s'.Vacant := by
  intro t member
  cases held : s'.registry.claims.get? t with
  | none => rfl
  | some claim =>
    have before := fewer t (by rw [held]; rfl)
    rw [vacant t (same ▸ member)] at before
    cases before

def Empty (s : Transaction) : Prop := s.bound = false ∧ s.owner = ""

def Slotted (s : Transaction) : Prop := s.bound = true ∧ s.owner ≠ "" ∧ strip s.owner = s.owner

def NoRecovery (s : Transaction) : Prop := s.recoveryOutcome = none ∧ s.produced = none

def Facts (s : Transaction) : Prop :=
  match s.phase with
  | .ready => s.Empty ∧ s.NoRecovery ∧ s.terminalMode = .none ∧ s.closeRequested = false ∧
      s.outcome = none
  | .failed => s.Empty ∧ s.NoRecovery ∧ s.terminalMode = .none ∧ s.closeRequested = false
  | .running => s.Slotted ∧ s.NoRecovery ∧ s.terminalMode = .none ∧ s.owner = s.active
  | .verified => s.Slotted ∧ s.NoRecovery ∧ s.terminalMode = .none ∧ s.closeRequested = false
  | .callbackReady => s.Empty ∧ s.NoRecovery ∧ s.terminalMode = .none ∧
      s.closeRequested = false ∧ s.outcome = none
  | .identityRunning | .recoveryRunning => s.Empty ∧ s.NoRecovery ∧ s.terminalMode = .none ∧
      s.outcome = none ∧ s.active ≠ "" ∧ strip s.active = s.active
  | .identityCertified => s.Slotted ∧ s.NoRecovery ∧ s.terminalMode = .none ∧
      s.closeRequested = false ∧ s.outcome = none
  | .recoveryHeld => s.Empty ∧ s.recoveryOutcome = s.produced ∧ s.terminalMode = .none ∧
      s.closeRequested = false ∧ s.outcome = none
  | .recoveryConsumed => s.Empty ∧ s.recoveryOutcome = none ∧ s.terminalMode = .none ∧
      s.closeRequested = false ∧ s.outcome = none
  | .recoveryAdopted => s.Slotted ∧ s.closeRequested = false
  | .handedOff => s.Slotted ∧ s.closeRequested = false
  | .closed => s.Empty ∧ (s.closeRequested = true → s.NoRecovery)

def producedOwner (s : Transaction) : Option String :=
  s.produced.map fun outcome => strip outcome.fields.handoffOwner

def holder (s : Transaction) : Option String :=
  match s.phase with
  | .ready | .failed | .callbackReady | .closed => none
  | .running | .verified | .identityCertified | .recoveryAdopted | .handedOff => some s.owner
  | .identityRunning | .recoveryRunning => some s.active
  | .recoveryHeld | .recoveryConsumed => s.producedOwner

structure Inv (s : Transaction) : Prop where
  facts : s.Facts
  only : ∀ t ∈ s.tokens, (s.registry.claims.get? t).isSome = true → s.holder = some t
  certified : s.phase = .recoveryAdopted → Certified s.registry s.owner
  named : ∀ t ∈ s.tokens, t ≠ ""
  known : ∀ t, s.holder = some t → t ≠ "" → t ∈ s.tokens

theorem Inv.vacant (inv : s.Inv) (nobody : s.holder = none) : s.Vacant := by
  intro t member
  cases held : s.registry.claims.get? t with
  | none => rfl
  | some claim =>
    have own := inv.only t member (by rw [held]; rfl)
    rw [nobody] at own
    cases own

theorem Inv.ofVacant (facts : s.Facts) (vacant : s.Vacant) (nobody : s.holder = none)
    (named : ∀ t ∈ s.tokens, t ≠ "") : s.Inv where
  facts := facts
  only t member held := by
    rw [vacant t member] at held
    cases held
  certified adopted := by
    rw [holder, adopted] at nobody
    cases nobody
  named := named
  known t own := by
    rw [nobody] at own
    cases own

theorem releaseOwner_vacant (slotted : s.Slotted)
    (only : ∀ t ∈ s.tokens, (s.registry.claims.get? t).isSome = true → t = s.owner) :
    s.releaseOwner.Vacant := by
  obtain ⟨bound, nonempty, trimmed⟩ := slotted
  have holds : s.holdsClaim = true := by simp [holdsClaim, bound, nonempty]
  intro t member
  simp only [releaseOwner, holds, ↓reduceIte]
  rw [get?_release, trimmed]
  split
  · rfl
  · rename_i other
    cases held : s.registry.claims.get? t with
    | none => rfl
    | some claim => exact absurd (only t member (by rw [held]; rfl)) other

theorem capability_vacant (empty : s.owner = "")
    (last : s.recoveryOutcome = none ∨ s.recoveryOutcome = s.produced)
    (only : ∀ t ∈ s.tokens, (s.registry.claims.get? t).isSome = true → s.producedOwner = some t)
    (named : ∀ t ∈ s.tokens, t ≠ "") :
    (s.releaseCallbackRecoveryCapability true).Vacant := by
  have same : s.recoveryOutcome.or s.produced = s.produced := by
    rcases last with none | held
    · rw [none, Option.none_or]
    · rw [held, Option.or_self]
  intro t member
  simp only [releaseCallbackRecoveryCapability, same]
  cases produced : s.produced with
  | none =>
    dsimp only
    cases held : s.registry.claims.get? t with
    | none => rfl
    | some claim =>
      have own := only t member (by rw [held]; rfl)
      rw [producedOwner, produced] at own
      cases own
  | some outcome =>
    have own (held : (s.registry.claims.get? t).isSome = true) :
        t = strip outcome.fields.handoffOwner := by
      have named := only t member held
      rw [producedOwner, produced] at named
      exact (Option.some.inj named).symm
    dsimp only
    unfold releaseProducedOwner
    dsimp only
    split
    · rename_i skipped
      rw [empty] at skipped
      cases held : s.registry.claims.get? t with
      | none => rfl
      | some claim =>
        have mine := own (by rw [held]; rfl)
        rcases skipped with none | none | unprovided
        · exact absurd (mine.trans none) (named t member)
        · exact absurd (mine.trans none) (named t member)
        · cases unprovided
    · rw [get?_release, strip_idempotent]
      split
      · rfl
      · rename_i other
        cases held : s.registry.claims.get? t with
        | none => rfl
        | some claim => exact absurd (own (by rw [held]; rfl)) other

theorem Inv.onlyOwner (inv : s.Inv) (own : s.holder = some s.owner) (t : String)
    (member : t ∈ s.tokens) (held : (s.registry.claims.get? t).isSome = true) : t = s.owner := by
  have mine := inv.only t member held
  rw [own] at mine
  exact (Option.some.inj mine).symm

theorem close_inv (inv : s.Inv) (vacant : s.releaseOwner.Vacant)
    (quiet : s.closeRequested = true → s.NoRecovery) : s.close.Inv :=
  .ofVacant ⟨⟨rfl, rfl⟩, quiet⟩ vacant rfl inv.named

theorem reset_vacant (inv : s.Inv) (idle : s.phase.isRunning = false)
    (answers : (s.phase = .recoveryHeld ∨ s.phase = .recoveryConsumed) → provided = true) :
    (s.releaseCallbackRecoveryCapability provided).releaseOwner.Vacant := by
  have facts := inv.facts
  have fewer := (fewer_capability provided s).trans
    (fewer_releaseOwner (s.releaseCallbackRecoveryCapability provided))
  -- The slot survives the first release, so the second one takes its claim.
  have slot (slotted : s.Slotted) (own : s.holder = some s.owner) :
      (s.releaseCallbackRecoveryCapability provided).releaseOwner.Vacant := by
    refine releaseOwner_vacant slotted fun t member held => ?_
    exact inv.onlyOwner own t member (fewer_capability provided s t held)
  unfold Facts at facts
  cases phase : s.phase with
  | ready | failed | callbackReady | closed =>
    exact (inv.vacant (by rw [holder, phase])).fewer rfl fewer
  | running | identityRunning | recoveryRunning =>
    rw [phase] at idle
    cases idle
  | verified | identityCertified | recoveryAdopted | handedOff =>
    rw [phase] at facts
    exact slot facts.1 (by rw [holder, phase])
  | recoveryHeld =>
    rw [phase] at facts
    obtain ⟨empty, last, -⟩ := facts
    rw [answers (Or.inl phase)]
    have dropped := capability_vacant empty.2 (Or.inr last)
      (fun t member held => by simpa only [holder, phase] using inv.only t member held) inv.named
    exact dropped.fewer rfl (fewer_releaseOwner _)
  | recoveryConsumed =>
    rw [phase] at facts
    obtain ⟨empty, last, -⟩ := facts
    rw [answers (Or.inr phase)]
    have dropped := capability_vacant empty.2 (Or.inl last)
      (fun t member held => by simpa only [holder, phase] using inv.only t member held) inv.named
    exact dropped.fewer rfl (fewer_releaseOwner _)

theorem others_inv (inv : s.Inv) {call : Call}
    (foreign : ∀ t ∈ s.tokens, call.operation.owner ≠ some t)
    (open' : s.phase = .recoveryAdopted → s.registry.completes call s.owner = false) :
    ({ s with registry := SessionRegistry.step s.registry call } : Transaction).Inv where
  facts := inv.facts
  only t member held := inv.only t member (isSome_of_step (foreign t member) held)
  certified adopted := by
    have facts := inv.facts
    simp only [Facts, show s.phase = .recoveryAdopted from adopted] at facts
    obtain ⟨⟨-, nonempty, trimmed⟩, -⟩ := facts
    have own : s.holder = some s.owner := by rw [holder, show s.phase = .recoveryAdopted from adopted]
    exact certified_step trimmed (foreign s.owner (inv.known s.owner own nonempty)) (open' adopted)
      (inv.certified adopted)
  named := inv.named
  known := inv.known

theorem holder_of_running (inv : s.Inv) (running : s.phase.isRunning = true) :
    s.holder = some s.active := by
  have facts := inv.facts
  unfold Facts at facts
  unfold holder
  cases phase : s.phase with
  | running =>
    rw [phase] at facts
    rw [facts.2.2.2]
  | identityRunning | recoveryRunning => rfl
  | _ =>
    rw [phase] at running
    cases running

theorem authorityCall_inv (inv : s.Inv) {call : Call} (running : s.phase.isRunning = true)
    (own : call.operation.owner = some s.active) :
    ({ s with registry := SessionRegistry.step s.registry call } : Transaction).Inv where
  facts := inv.facts
  only t member held := by
    by_cases mine : t = s.active
    · rw [mine]
      exact holder_of_running (s := s) inv running
    · refine inv.only t member (isSome_of_step (fun same => mine ?_) held)
      exact (Option.some.inj (own.symm.trans same)).symm
  certified adopted := by
    rw [show s.phase = .recoveryAdopted from adopted] at running
    cases running
  named := inv.named
  known := inv.known

theorem fresh_spec {token : String} (fresh : s.fresh token = true) :
    token ∉ s.tokens ∧ s.registry.claims.get? token = none ∧ strip token = token ∧ token ≠ "" := by
  simp only [Transaction.fresh, Bool.and_eq_true, Bool.not_eq_true', decide_eq_true_eq,
    Option.isNone_iff_eq_none] at fresh
  refine ⟨fun member => ?_, fresh.1.1.2, fresh.1.2, fresh.2⟩
  have absent := fresh.1.1.1
  rw [List.contains_iff_mem.mpr member] at absent
  cases absent

theorem named_cons {token : String} (inv : s.Inv) (nonempty : token ≠ "") :
    ∀ t ∈ token :: s.tokens, t ≠ "" := by
  intro t member
  rcases List.mem_cons.mp member with rfl | old
  · exact nonempty
  · exact inv.named t old

theorem runBegins_inv (inv : s.Inv) {token : String} (fresh : s.fresh token = true)
    (current : Option String) (inventory : List RawSession) (lookupFails : Bool) :
    (s.runBegins provided token current inventory lookupFails).Inv := by
  obtain ⟨-, unclaimed, trimmed, nonempty⟩ := fresh_spec fresh
  unfold runBegins
  split
  · exact inv
  · rename_i here
    have ready : s.phase = .ready := Decidable.not_not.mp here
    have facts := inv.facts
    simp only [Facts, ready] at facts
    obtain ⟨empty, none, mode, closing, -⟩ := facts
    have vacant := inv.vacant (by rw [holder, ready])
    split
    · exact .ofVacant ⟨empty, none, mode, closing⟩ vacant rfl inv.named
    · have vacated : s.registry.claims.get? (PyObj.str token).cleanText = .none := by
        rwa [PyObj.cleanText_str, trimmed]
      dsimp only
      rcases Registry.claimSession_first inventory (.str token)
          (.str (current.getD s.observedSessionId)) vacated with ⟨error, refused⟩ | granted
      · rw [refused]
        refine .ofVacant ⟨empty, none, mode, closing⟩ ?_ rfl (named_cons inv nonempty)
        intro t member
        simp only [Registry.raises]
        rw [get?_release]
        split
        · rfl
        · rcases List.mem_cons.mp member with rfl | old
          · exact unclaimed
          · exact vacant t old
      · rw [granted]
        refine ⟨⟨⟨rfl, nonempty, trimmed⟩, none, mode, rfl⟩, fun t member held => ?_,
          fun adopted => ?_, named_cons inv nonempty, fun t own _ => ?_⟩
        · rcases List.mem_cons.mp member with rfl | old
          · rfl
          · simp only [Registry.returns, Registry.get?_write, PyObj.cleanText_str, trimmed] at held
            split at held
            · rename_i same
              rw [same]
              rfl
            · rw [vacant t old] at held
              cases held
        · cases adopted
        · cases own
          exact List.mem_cons_self

theorem adoptEnrichedPn_same (s : Transaction) :
    ∃ pn, s.adoptEnrichedPn = { s with expectedPn := pn } := by
  unfold adoptEnrichedPn
  dsimp only
  split
  · exact ⟨_, rfl⟩
  · exact ⟨s.expectedPn, rfl⟩

theorem runEnds_inv (inv : s.Inv) (outcome : Option InboundRecoveryOutcome) (cancelled : Bool) :
    (s.runEnds outcome cancelled).Inv := by
  unfold runEnds
  split
  · exact inv
  · rename_i here
    have running : s.phase = .running := Decidable.not_not.mp here
    have facts := inv.facts
    simp only [Facts, running] at facts
    obtain ⟨slotted, none, mode, own⟩ := facts
    have holds : s.holder = some s.owner := by rw [holder, running]
    obtain ⟨pn, adopted⟩ := adoptEnrichedPn_same { s with outcome := outcome.or s.outcome }
    rw [adopted]
    have released : s.releaseOwner.Vacant := releaseOwner_vacant slotted (inv.onlyOwner holds)
    dsimp only
    split
    · by_cases closing : s.closeRequested = true
      · rw [show s.backTo .failed = .closed from if_pos closing]
        exact .ofVacant ⟨⟨rfl, rfl⟩, fun _ => none⟩ released rfl inv.named
      · rw [show s.backTo .failed = .failed from if_neg closing]
        exact .ofVacant ⟨⟨rfl, rfl⟩, none, mode, Bool.eq_false_iff.mpr closing⟩ released rfl inv.named
    · rename_i open'
      simp only [not_or, Bool.not_eq_true] at open'
      split
      · refine ⟨⟨slotted, none, mode, open'.2⟩, fun t member held => ?_, fun adopted => ?_,
          inv.named, fun t mine nonempty => ?_⟩
        · rw [inv.onlyOwner holds t member held]
          rfl
        · cases adopted
        · exact inv.known t (holds.trans mine) nonempty
      · exact .ofVacant ⟨⟨rfl, rfl⟩, none, mode, open'.2⟩ released rfl inv.named

theorem resetForRetry_inv (inv : s.Inv) : s.resetForRetry.Inv := by
  unfold resetForRetry
  split
  · exact inv
  · rename_i here
    simp only [not_or, not_and, Bool.not_eq_true, Decidable.not_not] at here
    obtain ⟨phases, closing⟩ := here
    have facts := inv.facts
    by_cases ready : s.phase = .ready
    · simp only [Facts, ready] at facts
      have vacant := inv.vacant (by rw [holder, ready])
      exact .ofVacant ⟨⟨rfl, rfl⟩, facts.2.1, facts.2.2.1, closing, rfl⟩
        (vacant.fewer rfl (fewer_releaseOwner s)) rfl inv.named
    · have failed := phases ready
      simp only [Facts, failed] at facts
      have vacant := inv.vacant (by rw [holder, failed])
      exact .ofVacant ⟨⟨rfl, rfl⟩, facts.2.1, facts.2.2.1, closing, rfl⟩
        (vacant.fewer rfl (fewer_releaseOwner s)) rfl inv.named

theorem release_inv (inv : s.Inv)
    (answers : (s.phase = .recoveryHeld ∨ s.phase = .recoveryConsumed) → provided = true) :
    (s.release provided).Inv := by
  unfold release
  split
  · exact inv
  · split
    · rename_i running
      have facts := inv.facts
      refine ⟨?_, inv.only, inv.certified, inv.named, inv.known⟩
      unfold Facts at facts ⊢
      cases phase : s.phase with
      | running | identityRunning | recoveryRunning =>
        simp only [phase] at facts ⊢
        exact facts
      | _ =>
        rw [phase] at running
        cases running
    · rename_i idle
      have dropped := reset_vacant provided inv (Bool.eq_false_iff.mpr idle) answers
      exact .ofVacant ⟨⟨rfl, rfl⟩, fun _ => ⟨rfl, rfl⟩⟩ dropped rfl inv.named

theorem prepareHandoff_others (reg : Registry) {owner : String} (trimmed : strip owner = owner)
    (pn : String) {t : String} (other : t ≠ owner) :
    (reg.prepareHandoff (.str owner) (.str pn)).registry.claims.get? t = reg.claims.get? t := by
  let call : Call := ⟨[], .prepareHandoff (.str owner) (.str pn)⟩
  have foreign : call.operation.owner ≠ some t := by
    simp only [call, SessionRegistry.Operation.owner, PyObj.cleanText_str, trimmed]
    exact fun same => other (Option.some.inj same).symm
  have kept : (SessionRegistry.step reg call).claims.get? t = reg.claims.get? t :=
    step_kept foreign (by simp [call]) (by simp [call])
  exact kept

theorem commitHandoff_inv (inv : s.Inv) (slotted : s.Slotted) (own : s.holder = some s.owner)
    (open' : s.closeRequested = false) (pn : String) (accepts : String → Bool)
    (asks : ∀ certified, accepts certified = true → certified ≠ "") (uncertified : HandoffStatus) :
    (s.commitHandoff pn accepts uncertified).1.Inv ∧
      ((s.commitHandoff pn accepts uncertified).1.phase = .handedOff →
        Certified (s.commitHandoff pn accepts uncertified).1.registry
          (s.commitHandoff pn accepts uncertified).1.owner) := by
  have only (t : String) (member : t ∈ s.tokens)
      (held : ((s.registry.prepareHandoff (.str s.owner) (.str pn)).registry.claims.get? t).isSome =
        true) : t = s.owner := by
    by_cases mine : t = s.owner
    · exact mine
    · rw [prepareHandoff_others s.registry slotted.2.2 pn mine] at held
      exact inv.onlyOwner own t member held
  have closed : ({ s with
      registry := (s.registry.prepareHandoff (.str s.owner) (.str pn)).registry } :
        Transaction).close.Inv := by
    have released := releaseOwner_vacant (s := { s with
      registry := (s.registry.prepareHandoff (.str s.owner) (.str pn)).registry }) slotted only
    refine .ofVacant ⟨⟨rfl, rfl⟩, fun closing => ?_⟩ released rfl inv.named
    rw [show s.closeRequested = true from closing] at open'
    cases open'
  unfold commitHandoff
  cases prepared : s.registry.prepareHandoff (.str s.owner) (.str pn) with
  | mk result registry =>
    rw [prepared] at closed only
    cases result with
    | error error => exact ⟨closed, fun handed => by cases handed⟩
    | ok granted =>
      cases granted with
      | false => exact ⟨closed, fun handed => by cases handed⟩
      | true =>
        dsimp only
        split
        · rename_i accepted
          refine ⟨⟨⟨slotted, open'⟩, fun t member held => ?_, fun adopted => ?_, inv.named,
            fun t mine nonempty => ?_⟩, fun _ => ⟨pn, asks _ accepted⟩⟩
          · rw [only t member held]
            rfl
          · cases adopted
          · exact inv.known t (own.trans mine) nonempty
        · exact ⟨closed, fun handed => by cases handed⟩

theorem prepareHandoff_inv (inv : s.Inv) (collectorPn : String) :
    (s.prepareHandoff collectorPn).1.Inv ∧ ((s.prepareHandoff collectorPn).1.phase = .handedOff →
      s.phase = .handedOff ∨ Certified (s.prepareHandoff collectorPn).1.registry
        (s.prepareHandoff collectorPn).1.owner) := by
  have unchanged : s.Inv ∧ (s.phase = .handedOff → s.phase = .handedOff ∨
      Certified s.registry s.owner) := ⟨inv, fun handed => Or.inl handed⟩
  unfold prepareHandoff
  dsimp only
  split
  · split <;> exact unchanged
  · split
    · exact unchanged
    · rename_i here
      simp only [not_or, Decidable.not_not] at here
      have facts := inv.facts
      simp only [Facts, here.1] at facts
      split
      · exact unchanged
      · split
        · exact unchanged
        · split
          · exact unchanged
          · obtain ⟨kept, reached⟩ := commitHandoff_inv inv facts.1 (by rw [holder, here.1]) facts.2.2.2
              (strip collectorPn) (· ≠ "") (fun _ nonempty => by simpa using nonempty)
              .alreadyConfigured
            exact ⟨kept, fun handed => Or.inr (reached handed)⟩

theorem rollbackHandoff_inv (inv : s.Inv) : s.rollbackHandoff.Inv := by
  unfold rollbackHandoff
  split
  · exact inv
  · rename_i here
    have handed : s.phase = .handedOff := Decidable.not_not.mp here
    have facts := inv.facts
    simp only [Facts, handed] at facts
    have released := releaseOwner_vacant facts.1 (inv.onlyOwner (by rw [holder, handed]))
    refine .ofVacant ⟨⟨rfl, rfl⟩, fun closing => ?_⟩ released rfl inv.named
    rw [show s.closeRequested = true from closing] at facts
    cases facts.2

theorem callbackReady_inv (inv : s.Inv) {after : Transaction}
    (reset : after = { s.resetCallbackAttempt provided with
      outcome := after.outcome, oldSessionId := after.oldSessionId, phase := .callbackReady })
    (silent : after.outcome = none) (open' : s.closeRequested = false)
    (idle : s.phase.isRunning = false)
    (answers : (s.phase = .recoveryHeld ∨ s.phase = .recoveryConsumed) → provided = true) :
    after.Inv := by
  have dropped := reset_vacant provided inv idle answers
  rw [reset] at silent ⊢
  exact .ofVacant ⟨⟨rfl, rfl⟩, ⟨rfl, rfl⟩, rfl, open', silent⟩ dropped rfl inv.named

theorem beginCallback_inv (inv : s.Inv) : (s.beginCallbackContinuation provided).Inv := by
  unfold beginCallbackContinuation
  split
  · exact inv
  · rename_i here
    simp only [not_or, Decidable.not_not, Bool.not_eq_true] at here
    refine callbackReady_inv provided inv rfl rfl here.2.1 (by rw [here.1]; rfl) fun phases => ?_
    rw [here.1] at phases
    rcases phases with h | h <;> cases h

theorem outcome_of_resettable (inv : s.Inv) (resettable : s.phase.callbackResettable = true) :
    s.outcome = none := by
  have facts := inv.facts
  unfold Facts at facts
  cases phase : s.phase with
  | callbackReady | identityCertified | recoveryHeld | recoveryConsumed =>
    rw [phase] at facts
    exact facts.2.2.2.2
  | _ =>
    rw [phase] at resettable
    cases resettable

theorem idle_of_resettable (resettable : s.phase.callbackResettable = true) :
    s.phase.isRunning = false := by
  cases phase : s.phase with
  | callbackReady | identityCertified | recoveryHeld | recoveryConsumed => rfl
  | _ =>
    rw [phase] at resettable
    cases resettable

theorem beginManual_inv (inv : s.Inv)
    (answers : (s.phase = .recoveryHeld ∨ s.phase = .recoveryConsumed) → provided = true) :
    (s.beginManualCallbackContinuation provided).Inv := by
  unfold beginManualCallbackContinuation
  split
  · exact beginCallback_inv provided inv
  · split
    · exact inv
    · rename_i here
      simp only [not_or, not_and, Bool.not_eq_true, Bool.not_eq_false] at here
      obtain ⟨-, phases, open'⟩ := here
      by_cases ready : s.phase = .ready
      · have facts := inv.facts
        simp only [Facts, ready] at facts
        exact callbackReady_inv provided inv rfl facts.2.2.2.2 open' (by rw [ready]; rfl) answers
      · have silent := outcome_of_resettable inv (phases ready)
        exact callbackReady_inv provided inv rfl silent open' (idle_of_resettable (phases ready))
          answers

theorem beginObserved_inv (inv : s.Inv) : (s.beginObservedCallbackContinuation provided).Inv := by
  unfold beginObservedCallbackContinuation
  split
  · exact inv
  · rename_i here
    simp only [not_or, Decidable.not_not, Bool.not_eq_true] at here
    have facts := inv.facts
    simp only [Facts, here.1] at facts
    refine callbackReady_inv provided inv rfl facts.2.2.2.2 here.2.1 (by rw [here.1]; rfl)
      fun phases => ?_
    rw [here.1] at phases
    rcases phases with h | h <;> cases h

theorem authorityBegins_inv (inv : s.Inv) {after : Transaction} {token : String}
    (vacant : ∀ t ∈ s.tokens, after.registry.claims.get? t = none)
    (tokens : after.tokens = token :: s.tokens) (active : after.active = token)
    (holds : after.holder = some after.active) (facts : after.Facts)
    (running : after.phase ≠ .recoveryAdopted) (nonempty : token ≠ "") : after.Inv where
  facts := facts
  only t member held := by
    rw [tokens] at member
    rcases List.mem_cons.mp member with rfl | old
    · rw [holds, active]
    · rw [vacant t old] at held
      cases held
  certified adopted := absurd adopted running
  named := by
    rw [tokens]
    exact named_cons inv nonempty
  known t own _ := by
    rw [holds, active] at own
    rw [tokens, Option.some.inj own]
    exact List.mem_cons_self

theorem identityBegins_inv (inv : s.Inv) {request : CallbackIdentity.Request} {token : String}
    (fresh : s.fresh token = true)
    (answers : (s.phase = .recoveryHeld ∨ s.phase = .recoveryConsumed) → provided = true) :
    (s.identityBegins provided request token).Inv := by
  obtain ⟨-, -, trimmed, nonempty⟩ := fresh_spec fresh
  unfold identityBegins
  split
  · exact inv
  · rename_i here
    simp only [not_or, Bool.not_eq_false, Bool.not_eq_true] at here
    obtain ⟨-, resettable, -⟩ := here
    have dropped := reset_vacant provided inv (idle_of_resettable resettable) answers
    have silent := outcome_of_resettable inv resettable
    refine authorityBegins_inv inv dropped rfl rfl rfl ?_ (fun h => by cases h) nonempty
    exact ⟨⟨rfl, rfl⟩, ⟨rfl, rfl⟩, rfl, silent, nonempty, trimmed⟩

theorem recoveryBegins_inv (inv : s.Inv) {token : String} (fresh : s.fresh token = true) :
    (s.recoveryBegins provided token).Inv := by
  obtain ⟨-, -, trimmed, nonempty⟩ := fresh_spec fresh
  unfold recoveryBegins
  split
  · exact inv
  · rename_i here
    simp only [not_or, Decidable.not_not] at here
    have facts := inv.facts
    simp only [Facts, here.1] at facts
    obtain ⟨slotted, none, mode, -, silent⟩ := facts
    have released := releaseOwner_vacant slotted (inv.onlyOwner (by rw [holder, here.1]))
    exact authorityBegins_inv inv released rfl rfl rfl
      ⟨⟨rfl, rfl⟩, none, mode, silent, nonempty, trimmed⟩ (fun h => by cases h) nonempty

end Transaction
end Admission
