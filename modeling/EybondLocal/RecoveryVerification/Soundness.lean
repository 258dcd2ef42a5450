import EybondLocal.RecoveryVerification.Evidence

/-!
A proof is earned. Whatever the inventory shows, the hooks answer and others record in the
ledger, an outcome with a callback or an inbound proof comes from an attempt whose history
bears it out: the reset, the baselines, the one trigger, the session that was accepted and the
claim that was moved to it.
-/
namespace RecoveryVerification
open StripText PythonObject CollectorIdentity RecoveryContract HookRun HookRun.Run
open CallbackLedger (Ledger Books)

namespace Engine
variable {attempt : String} {ω ε α : Type} {e : Engine attempt ω} {s s' : State ω}
  {since own : Nat} {past : List (Deed ω)}

theorem fail_returns (reason : Failure) (s : State ω) :
    Returns (fail reason) s fun s' outcome => Sound e s'.deeds outcome :=
  returns_observe (returns_enter (returns_pure (sound_failed e _ _ _ _)))

def SameDeeds (s s' : State ω) : Prop := s'.deeds = s.deeds

instance : IsPreorder (State ω) SameDeeds where
  refl _ := rfl
  trans _ _ _ first second := Eq.trans second first

theorem ask_sameDeeds (hook : Hook ω α) : Within SameDeeds (ask hook) := fun _ => rfl

theorem closeChannel_sameDeeds (e : Engine attempt ω) : Within SameDeeds e.closeChannel :=
  within_bind (fun _ => rfl) fun _ => within_pure _

theorem pause_sameDeeds (e : Engine attempt ω) : Within SameDeeds e.pause :=
  within_bind (fun _ => rfl) fun _ => within_pure _

theorem onLedger_sameDeeds (action : CallbackLedger.Action) :
    Within SameDeeds (onLedger action : Step ω Unit) :=
  fun _ => rfl

theorem commitOwnership_sameDeeds (e : Engine attempt ω) : Within SameDeeds e.commitOwnership := by
  unfold commitOwnership
  cases e.ownershipCommit with
  | unavailable => exact within_pure _
  | prepareHandoff hook =>
    refine within_bind (within_observe _) fun pn => ?_
    exact within_bind (within_onValueError (ask_sameDeeds _) _) fun _ => within_pure _
  | ownerCertifier hook =>
    refine within_bind (within_observe _) fun pn => ?_
    exact within_bind (within_onValueError (ask_sameDeeds _) _) fun _ => within_pure _

theorem commitAndSucceed_returns (status : VerificationState) (fields : OutcomeFields) (s : State ω)
    (proven : ∀ outcome : RecoveryVerificationOutcome,
      outcome.fields.callbackProof = fields.callbackProof →
      outcome.fields.inboundProof = fields.inboundProof →
      outcome.fields.newSessionId = fields.newSessionId → Sound e s.deeds outcome) :
    Returns (e.commitAndSucceed status fields) s fun s' outcome => Sound e s'.deeds outcome := by
  refine returns_bind (within_returns (commitOwnership_sameDeeds e) s) ?_
  intro s' commit deeds
  dsimp only
  split
  · exact fail_returns _ _
  · refine returns_mono ?_ (succeed_returns _ _ s')
    rintro s'' outcome ⟨_, deeds', fields⟩
    rw [deeds', show s'.deeds = s.deeds from deeds]
    exact proven outcome (by rw [fields]) (by rw [fields]) (by rw [fields])

theorem certifyInbound_returns {before : ω} {sessionId : String}
    (reached : e.Reached s since 0 [.leased since, .baseline before, .restarted])
    (ids : s.baselineSessionIds = e.visibleIds before)
    (found : e.findNewInboundSession s = some sessionId) :
    Returns (e.certifyInbound sessionId) s fun s' outcome => Sound e s'.deeds outcome := by
  refine returns_observe ?_
  cases certified : e.newSessionProofFields sessionId s with
  | error reason => exact fail_returns _ _
  | ok fields =>
    have accepted := accepted_of_found reached ids found certified
    obtain ⟨foreign, books⟩ := reached.books
    refine returns_observe (returns_observe ?_)
    split
    · exact fail_returns _ _
    · refine returns_update ?_
      refine returns_bind (retarget_moves sessionId _) ?_
      rintro s' granted ⟨history, moved⟩
      split
      · exact fail_returns _ _
      · rename_i ok
        have evidence : InboundEvidence e s'.deeds sessionId := by
          refine .intro since foreign before s.host s.ledger ?_ books accepted ?_
          · rw [history, milestones_note rfl, reached.history]
            rfl
          · rw [moved]
            simp_all
        split
        · refine returns_mono ?_ (succeed_returns _ _ s')
          rintro s'' outcome ⟨_, deeds, fields⟩
          have session : outcome.fields.newSessionId = sessionId := by rw [fields]
          rw [deeds]
          exact ⟨fun h => by simp [fields] at h, fun _ => session ▸ evidence,
            unproven_owns_nothing outcome⟩
        · refine commitAndSucceed_returns _ _ s' ?_
          intro outcome noCallback _ session
          exact ⟨fun h => by simp [noCallback] at h, fun _ => session ▸ evidence,
            unproven_owns_nothing outcome⟩

theorem stop_returns (reason : Failure) (s : State ω) (past : State ω → Prop) :
    Returns (stop reason) s fun s' ended => ended.elim (past s') (Sound e s'.deeds) :=
  returns_bind (fail_returns reason s) fun _ _ sound => returns_pure sound

theorem refuse_returns (reason : Failure) (s : State ω) (past : State ω → Prop) :
    Returns (e.refuse reason) s fun s' ended => ended.elim (past s') (Sound e s'.deeds) :=
  returns_bind returns_any fun s' _ _ => stop_returns reason s' past

theorem inboundWindow_returns {before : ω} (generationBefore : Int)
    (reached : e.Reached s since 0 [.leased since, .baseline before, .restarted])
    (ids : s.baselineSessionIds = e.visibleIds before) :
    Returns (e.inboundWindow generationBefore) s fun s' ended =>
      ended.elim (e.Reached s' since 0 [.leased since, .baseline before, .restarted])
        (Sound e s'.deeds) := by
  unfold inboundWindow
  refine returns_bind (within_returns (enter_quiet attempt _) s) ?_
  intro s₁ _ entered
  refine returns_observe ?_
  refine returns_bind (returns_and (within_returns (waitForNewSamePnSession_within respects_quiet _) s₁)
    (waitForNewSamePnSession_found e _ s₁)) ?_
  rintro s₂ wait ⟨waited, found⟩
  have quiet := trans_of (Quiet attempt) entered waited
  cases session : wait.sessionId with
  | none =>
    dsimp only
    split
    · exact returns_pure (reached.quiet quiet)
    · exact stop_returns _ _ _
  | some sessionId =>
    refine returns_observe ?_
    split
    · exact stop_returns _ _ _
    · refine returns_bind (certifyInbound_returns (reached.quiet quiet)
        (quiet.baseline.trans ids) (found sessionId session)) ?_
      exact fun _ _ sound => returns_pure sound

theorem adopted_sameIdentity {pn adoptedPn : String} {observed : Option SessionEntry}
    (nonempty : strip pn ≠ "") (adopts : adopted pn observed = some adoptedPn) :
    pnIsSameIdentity pn adoptedPn = true := by
  unfold adopted at adopts
  cases observed with
  | none => cases adopts
  | some session =>
    dsimp only at adopts
    split at adopts
    · rename_i checks
      have same : pnIsSameIdentity pn session.pn = true := by
        refine checks.2.2.resolve_left ?_
        rintro rfl
        exact nonempty (by decide)
      cases adopts
      split
      · exact same
      · exact pnIsSameIdentity_self nonempty
    · cases adopts

structure Begun (e : Engine attempt ω) (s : State ω) (since : Nat) : Prop where
  history : milestones s.deeds = [.leased since]
  identity : s.collectorPn = e.pn
  books : ∃ foreign, Books s.ledger attempt since 0 foreign

theorem Begun.quiet (begun : e.Begun s since) (quiet : Quiet attempt s s') : e.Begun s' since := by
  obtain ⟨history, identity, foreign, books⟩ := begun
  exact ⟨quiet.milestones.trans history, quiet.collectorPn.trans identity,
    quiet.books since 0 foreign books⟩

theorem strip_pn (e : Engine attempt ω) : strip e.pn = e.pn := PyObj.strip_cleanText _

theorem identify_returns (nonempty : e.pn ≠ "") (begun : e.Begun s since) :
    Returns e.identify s fun s' identified =>
      identified = true → e.Reached s' since 0 [.leased since] := by
  have named : strip e.pn ≠ "" := by rwa [strip_pn]
  unfold identify
  refine returns_bind (within_returns (enter_quiet attempt _) s) ?_
  intro s₁ _ entered
  refine returns_bind (within_returns probeObservedIdentity_quiet s₁) ?_
  intro s₂ _ probed
  refine returns_observe ?_
  refine returns_poll (fun s => e.Begun s since) ?_ ?_ _ _ ((begun.quiet entered).quiet probed)
  · intro s _ begun
    refine returns_observe ?_
    cases adopts : adopted s.collectorPn (e.sessionEntry s.host e.session) with
    | none => exact returns_pure ⟨begun, fun h => (nomatch h)⟩
    | some pn =>
      refine returns_update (returns_pure fun _ => ?_)
      rw [begun.identity] at adopts
      exact ⟨begun.history, adopted_sameIdentity named adopts, begun.books⟩
  · intro s begun
    exact returns_mono (fun _ _ => begun.quiet) (within_returns respects_quiet.pause s)

theorem sendRestart_returns (reached : e.Reached s since own past) :
    Returns e.sendRestart s fun s' refusal => refusal = none →
      e.Reached s' since own (past ++ [.restarted]) ∧
        s'.baselineSessionIds = s.baselineSessionIds := by
  unfold sendRestart
  refine returns_bind (within_returns (enter_quiet attempt _) s) ?_
  intro s₁ _ entered
  refine returns_bind (within_returns (await_quiet _) s₁) ?_
  intro s₂ answer awaited
  have quiet := trans_of (Quiet attempt) entered awaited
  split
  · refine returns_update (returns_pure fun _ => ?_)
    exact ⟨(reached.quiet quiet).note rfl, quiet.baseline⟩
  all_goals exact returns_pure fun h => (nomatch h)

theorem resetBarrier_returns (s : State ω) :
    Returns e.resetBarrier s fun s' ended =>
      Quiet attempt s s' ∧ ended.elim True (Sound e s'.deeds) := by
  refine returns_and (within_returns (resetBarrier_within respects_quiet (enter_quiet attempt)) s) ?_
  have observed : Returns e.observeReset s fun s' ended => ended.elim True (Sound e s'.deeds) := by
    refine returns_bind returns_any fun s₁ _ _ => returns_observe ?_
    refine returns_bind returns_any fun s₂ observed _ => ?_
    split
    · exact returns_pure trivial
    · exact stop_returns _ _ _
  refine returns_ensuring observed ?_
  intro s' ended sound
  refine returns_mono ?_ (within_returns (closeChannel_sameDeeds e) s')
  intro s'' _ same
  rwa [show s''.deeds = s'.deeds from same]

theorem resetPhase_returns (nonempty : e.pn ≠ "") (begun : e.Begun s since) :
    Returns e.resetPhase s fun s' ended =>
      ended.elim (∃ before, e.Reached s' since 0 [.leased since, .baseline before, .restarted])
        (Sound e s'.deeds) := by
  unfold resetPhase
  refine returns_observe ?_
  refine returns_bind (identify_returns nonempty begun) ?_
  intro s₁ identified reached
  split
  · exact refuse_returns _ _ _
  · rename_i ok
    have reached := reached (by simpa using ok)
    refine returns_bind (within_returns promote_quiet s₁) ?_
    intro s₂ promoted quiet
    split
    · exact refuse_returns _ _ _
    · refine returns_bind (within_returns captureWireAuthority_quiet s₂) ?_
      intro s₃ _ captured
      refine returns_bind (within_returns snapshotPendingBaseline_quiet s₃) ?_
      intro s₄ _ pending
      have reached := ((reached.quiet quiet).quiet captured).quiet pending
      refine returns_update (returns_bind (sendRestart_returns reached.captured) ?_)
      intro s₅ refusal restarted
      cases refusal with
      | some reason => exact refuse_returns _ _ _
      | none =>
        obtain ⟨reached, ids⟩ := restarted rfl
        refine returns_bind (resetBarrier_returns s₅) ?_
        rintro s₆ stopped ⟨quiet, sound⟩
        cases stopped with
        | some outcome => exact returns_pure sound
        | none =>
          refine returns_mono ?_ (inboundWindow_returns _ (reached.quiet quiet)
            (quiet.baseline.trans ids))
          intro s' ended after
          cases ended with
          | none => exact ⟨_, after⟩
          | some outcome => exact after

theorem recordOwn_books {s : Ledger} {foreign : Nat} (named : attempt ≠ "") (sends : Nat)
    (books : Books s attempt since own foreign) :
    Books (recordOwn attempt sends s) attempt since (own + sends) foreign := by
  induction sends generalizing s own with
  | zero => exact books
  | succ sends ih =>
    have more := ih (books.recordOwn named)
    rwa [Nat.add_right_comm] at more

theorem books_eq {foreign : Nat} (books : Books s.ledger attempt since own foreign) :
    e.books s = ⟨own, foreign⟩ := by
  simp [Engine.books, books.counts]

theorem certifyCallback_returns {route : CallbackRecoveryRoute} {before after : ω} {sessionId : String}
    (armed : e.callbackRoute = some route)
    (reached : e.Reached s since 1
      [.leased since, .baseline before, .restarted, .baseline after, .triggered])
    (books : Books s.ledger attempt since 1 0) (ids : s.baselineSessionIds = e.visibleIds after)
    (found : e.findNewInboundSession s = some sessionId) :
    Returns (e.certifyCallback route sessionId) s fun s' outcome => Sound e s'.deeds outcome := by
  refine returns_observe ?_
  cases certified : e.newSessionProofFields sessionId s with
  | error reason => exact fail_returns _ _
  | ok fields =>
    have accepted := accepted_of_found reached ids found certified
    refine returns_observe ?_
    split
    · exact fail_returns _ _
    · rename_i arrived
      refine returns_observe (returns_observe ?_)
      split
      · exact fail_returns _ _
      · refine returns_update ?_
        refine returns_bind (retarget_moves sessionId _) ?_
        rintro s' granted ⟨history, moved⟩
        split
        · exact fail_returns _ _
        · rename_i ok
          refine commitAndSucceed_returns _ _ s' ?_
          intro outcome _ noInbound session
          have evidence : CallbackEvidence e s'.deeds sessionId := by
            refine .intro route since before after s.host s.ledger armed ?_ books accepted
              (by simpa using arrived) ?_
            · rw [history, milestones_note rfl, reached.history]
              rfl
            · exact moved (by simpa using ok)
          exact ⟨fun _ => session ▸ evidence, fun h => by simp [noInbound] at h,
            unproven_owns_nothing outcome⟩

theorem callbackWindow_returns {route : CallbackRecoveryRoute} {before after : ω}
    (armed : e.callbackRoute = some route)
    (reached : e.Reached s since 1
      [.leased since, .baseline before, .restarted, .baseline after, .triggered])
    (ids : s.baselineSessionIds = e.visibleIds after) :
    Returns (e.callbackWindow route) s fun s' outcome => Sound e s'.deeds outcome := by
  unfold callbackWindow
  refine returns_bind (within_returns (enter_quiet attempt _) s) ?_
  intro s₁ _ entered
  refine returns_observe ?_
  refine returns_bind (returns_and (within_returns (waitForNewSamePnSession_within respects_quiet _) s₁)
    (waitForNewSamePnSession_found e _ s₁)) ?_
  rintro s₂ wait ⟨waited, found⟩
  have quiet := trans_of (Quiet attempt) entered waited
  have reached := reached.quiet quiet
  cases session : wait.sessionId with
  | none => exact fail_returns _ _
  | some sessionId =>
    obtain ⟨foreign, books⟩ := reached.books
    refine returns_observe ?_
    rw [books_eq books]
    split
    · exact fail_returns _ _
    · rename_i none
      have silent : foreign = 0 := by simpa using none
      subst silent
      exact certifyCallback_returns armed reached books (quiet.baseline.trans ids)
        (found sessionId session)

theorem Reached.triggered (reached : e.Reached s since own past) (named : attempt ≠ "")
    (sends : Nat) :
    e.Reached
      (RecoveryVerification.note .triggered { s with ledger := recordOwn attempt sends s.ledger })
      since (own + sends) (past ++ [.triggered]) := by
  obtain ⟨history, identity, foreign, books⟩ := reached
  exact Reached.note ⟨history, identity, foreign, recordOwn_books named sends books⟩ rfl

theorem sendTrigger_returns {route : CallbackRecoveryRoute} (named : attempt ≠ "")
    (reached : e.Reached s since 0 past) :
    Returns (e.sendTrigger route) s fun s' _ =>
      s'.baselineSessionIds = s.baselineSessionIds ∧
        ∃ own, e.Reached s' since own (past ++ [.triggered]) := by
  unfold sendTrigger
  refine returns_bind (within_returns (enter_quiet attempt _) s) ?_
  intro s₁ _ entered
  have reached := reached.quiet entered
  refine returns_observe (returns_update ?_)
  refine returns_mono ?_ (within_returns (await_quiet _) _)
  intro s₂ _ awaited
  refine ⟨awaited.baseline.trans entered.baseline, _,
    (reached.triggered named (e.triggerSender route s₁.host).ownSends).quiet awaited⟩

theorem callbackPhase_returns {route : CallbackRecoveryRoute} {before : ω} (named : attempt ≠ "")
    (armed : e.callbackRoute = some route)
    (reached : e.Reached s since 0 [.leased since, .baseline before, .restarted]) :
    Returns (e.callbackPhase route) s fun s' outcome => Sound e s'.deeds outcome := by
  unfold callbackPhase
  refine returns_bind (within_returns snapshotPendingBaseline_quiet s) ?_
  intro s₁ _ pending
  refine returns_update (returns_observe ?_)
  split
  · exact fail_returns _ _
  · refine returns_bind (sendTrigger_returns named (reached.quiet pending).captured) ?_
    rintro s₂ answer ⟨ids, own, reached⟩
    cases answer with
    | error error => exact fail_returns _ _
    | ok value =>
      obtain ⟨foreign, books⟩ := reached.books
      refine returns_observe ?_
      rw [books_eq books]
      split
      · exact fail_returns _ _
      · rename_i one
        have single : own = 1 := by simpa using one
        subst single
        exact callbackWindow_returns armed reached ids

theorem acquireLease_returns (host : ω) (ledger : Ledger) (polls : Nat) :
    Returns (e.acquireLease polls) (e.start host ledger) fun s' taken =>
      taken = true → attempt ≠ "" ∧ ∃ since, e.Begun s' since := by
  refine returns_poll (fun s => s.deeds = [] ∧ s.collectorPn = e.pn) ?_ ?_ _ _ ⟨rfl, rfl⟩
  · intro s _ fresh
    refine returns_observe ?_
    split
    · exact returns_raise
    · split
      · exact returns_raise
      · split
        · exact returns_pure ⟨fresh, fun h => (nomatch h)⟩
        · rename_i named unknown unheld
          refine returns_update (returns_pure fun _ => ⟨named, s.ledger.generation, ?_, fresh.2, 0, ?_⟩)
          · rw [milestones_note rfl]
            simp [fresh.1, milestones]
          · have free : CallbackLedger.leaseFree s.ledger (strip attempt) = true := by
              rw [e.attempt_trimmed]
              simp [CallbackLedger.leaseFree, named] at unknown unheld ⊢
              exact ⟨unknown, unheld⟩
            have books := CallbackLedger.tryAcquireCausality_books free
            rwa [e.attempt_trimmed] at books
  · intro s fresh
    refine returns_mono ?_ (returns_and (within_returns (pause_sameDeeds e) s)
      (within_returns respects_quiet.pause s))
    rintro s' _ ⟨same, quiet⟩
    exact ⟨Eq.trans same fresh.1, quiet.collectorPn.trans fresh.2⟩

theorem inhibited_returns {body : Step ω α} {post : State ω → α → Prop}
    (stable : ∀ s s' value, Quiet attempt s s' → s'.deeds = s.deeds → post s value → post s' value)
    (inner : ∀ s', Quiet attempt s s' → Returns body s' post) : Returns (e.inhibited body) s post := by
  unfold inhibited onceDrained
  refine returns_bind (within_returns (onLedger_quiet attempt rfl rfl) s) ?_
  intro s₁ _ inhibits
  refine returns_ensuring ?_ ?_
  · refine returns_bind (within_returns (await_quiet _) s₁) ?_
    intro s₂ _ awaited
    refine returns_bind (within_returns (onLedger_quiet attempt rfl rfl) s₂) ?_
    intro s₃ _ drained
    refine returns_bind (within_returns (onLedger_quiet attempt rfl rfl) s₃) ?_
    intro s₄ _ proceeds
    have quiet := trans_of (Quiet attempt) inhibits awaited
    exact inner s₄ (trans_of (Quiet attempt) quiet (trans_of (Quiet attempt) drained proceeds))
  · intro s' value reached
    refine returns_mono ?_ (returns_and (within_returns (onLedger_quiet attempt rfl rfl) s')
      (within_returns (onLedger_sameDeeds _) s'))
    rintro s'' _ ⟨quiet, same⟩
    exact stable s' s'' value quiet same reached

theorem phases_returns (nonempty : e.pn ≠ "") (named : attempt ≠ "") (begun : e.Begun s since) :
    Returns e.phases s fun s' outcome => Sound e s'.deeds outcome := by
  refine returns_bind (inhibited_returns ?_ fun s' quiet => resetPhase_returns nonempty
    (begun.quiet quiet)) ?_
  · intro s s' ended quiet same after
    cases ended with
    | none =>
      obtain ⟨before, reached⟩ := after
      exact ⟨before, reached.quiet quiet⟩
    | some outcome => exact same.symm ▸ after
  · intro s₁ ended after
    cases ended with
    | some outcome => exact returns_pure after
    | none =>
      obtain ⟨before, reached⟩ := after
      cases armed : e.callbackRoute with
      | none => exact fail_returns _ _
      | some route => exact callbackPhase_returns named armed reached

/-- A recovery verification returns no proof it has not earned: for every host, every answer of
    its hooks and everything others do to the ledger at its awaits. -/
theorem asyncVerify_sound (e : Engine attempt ω) (host : ω) (ledger : Ledger) :
    Returns e.asyncVerify (e.start host ledger) fun final outcome => Sound e final.deeds outcome := by
  unfold asyncVerify
  cases refusal : e.upfrontRefusal with
  | some reason => exact fail_returns _ _
  | none =>
    have nonempty : e.pn ≠ "" := by
      intro empty
      simp [upfrontRefusal, empty] at refusal
    refine returns_observe (returns_bind (acquireLease_returns host ledger _) ?_)
    intro s taken begun
    split
    · exact fail_returns _ _
    · rename_i ok
      obtain ⟨named, since, begun⟩ := begun (by simpa using ok)
      refine returns_ensuring (returns_ensuring (phases_returns nonempty named begun) ?_) ?_
      · intro s' outcome sound
        refine returns_mono ?_ (within_returns (closeChannel_sameDeeds e) s')
        exact fun s'' _ same => same.symm ▸ sound
      · intro s' outcome sound
        refine returns_mono ?_ (within_returns (onLedger_sameDeeds _) s')
        exact fun s'' _ same => same.symm ▸ sound

section
variable (attempt)

def settled (host : Nat) (value : α) : Awaited attempt Nat ε α :=
  { host := host, ending := .returned value }

def sampleSessions (stage : Nat) : List SessionEntry :=
  if stage = 1 then []
  else
    [{ sessionId := .str (if stage = 0 then "old" else "new")
       collectorPn := .str "PN1"
       hasStrongIdentity := .bool true
       collectorIdentitySource := .str "fc2_parameter_2"
       listenerPort := .int 8899 }]

def sampleRoute : CallbackRecoveryRoute where
  bindIp := .str "ha"
  triggerTargetIp := .str "pn"
  triggerUdpPort := .int 58899
  advertisedHaHost := .str "ha"
  advertisedHaPort := .int 8899
  listenerPort := .int 8899

def sample : Engine "a" Nat where
  collectorPn := .str "PN1"
  sessionId := .str "old"
  restartChannel :=
    { observedWire := none
      probeIdentity := none
      sendRestart := fun _ => settled "a" 1 ()
      close := fun stage => settled "a" stage () }
  sessionsSource := fun stage => .ok (sampleSessions stage)
  clock := fun _ => .ok (.str "2026-01-01T00:00:00+00:00")
  callbackRoute := some sampleRoute
  triggerSender := fun _ stage => { settled "a" (stage + 1) () with ownSends := 1 }
  callbackTriggerGeneration := fun _ => .ok 0
  promoteClaim := none
  retargetClaim := some fun _ stage => (stage, .ok true)
  ownershipCommit := .prepareHandoff fun _ stage => (stage, .ok (.str "owner"))
  probeReconnectedIdentity := none
  silentSessionProbe := none
  expectedInboundListenerPort := 0
  pollsLeft := fun _ => 0
  sleep := fun stage => settled "a" stage ()
  triggersDrained := fun stage => settled "a" stage ()
  inhibitor := 0
  attempt_trimmed := by decide

end

def verifies (ending : Ending PyError RecoveryVerificationOutcome) : Bool :=
  match ending with
  | .returned outcome => outcome.callbackVerified
  | _ => false

theorem sample_earns_callback_proof :
    ∃ final outcome, sample.asyncVerify (sample.start 0 {}) = (final, .returned outcome) ∧
      outcome.callbackVerified = true ∧ Sound sample final.deeds outcome := by
  have reached : verifies (sample.asyncVerify (sample.start 0 {})).2 = true := by decide +kernel
  have sound := asyncVerify_sound sample 0 {}
  unfold Returns Ends at sound
  revert reached sound
  generalize sample.asyncVerify (sample.start 0 {}) = run
  obtain ⟨final, ending⟩ := run
  intro reached sound
  cases ending with
  | raised error => cases reached
  | cancelled => cases reached
  | returned outcome => exact ⟨final, outcome, rfl, reached, sound outcome rfl⟩

end Engine
end RecoveryVerification
