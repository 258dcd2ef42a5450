import EybondLocal.RecoveryVerification.Frames

/-!
The evidence behind a recovery proof, in the history of the attempt that returns it, and what
the waits of an attempt keep of that history.
-/
namespace RecoveryVerification
open StripText PythonObject CollectorIdentity RecoveryContract HookRun HookRun.Run
open CallbackLedger (Ledger Books)

variable {attempt : String} {ω ε α : Type}

def Deed.isMilestone : Deed ω → Bool
  | .retargeted _ _ => false
  | _ => true

def milestones (deeds : List (Deed ω)) : List (Deed ω) := deeds.filter Deed.isMilestone

/-- The session was in no entry of the baseline, and the inventory shows it live, strong, of
    the same collector and certified by a strong source. -/
structure Accepted (e : Engine attempt ω) (baseline host : ω) (sessionId : String) : Prop where
  absent : sessionId ∉ e.visibleIds baseline
  listed : ∃ session ∈ e.sessions host, session.id = sessionId ∧ session.isClosed = false ∧
    session.strong = true ∧ pnIsSameIdentity e.pn session.pn = true
  certified : ∃ session, e.sessionEntry host sessionId = some session ∧
    identitySourceIsStrong session.identitySource = true

inductive CallbackEvidence (e : Engine attempt ω) (deeds : List (Deed ω)) (sessionId : String) :
    Prop where
  | intro (route : CallbackRecoveryRoute) (since : Nat) (before after host : ω) (ledger : Ledger)
      (armed : e.callbackRoute = some route)
      (history : milestones deeds =
        [.leased since, .baseline before, .restarted, .baseline after, .triggered,
          .accepted sessionId host ledger])
      (sends : Books ledger attempt since 1 0)
      (accepted : Accepted e after host sessionId)
      (arrived : portNumber route.listenerPort = some (e.sessionListenerPort host sessionId))
      (moved : deeds.getLast? = some (.retargeted sessionId true))

inductive InboundEvidence (e : Engine attempt ω) (deeds : List (Deed ω)) (sessionId : String) :
    Prop where
  | intro (since foreign : Nat) (before host : ω) (ledger : Ledger)
      (history : milestones deeds =
        [.leased since, .baseline before, .restarted, .accepted sessionId host ledger])
      (sends : Books ledger attempt since 0 foreign)
      (accepted : Accepted e before host sessionId)
      (moved : deeds.getLast? = some (.retargeted sessionId true))

/-- Every proof of the outcome has its evidence; without one there is no capability either. -/
structure Sound (e : Engine attempt ω) (deeds : List (Deed ω)) (outcome : RecoveryVerificationOutcome) :
    Prop where
  callback : outcome.fields.callbackProof.isSome = true →
    CallbackEvidence e deeds outcome.fields.newSessionId
  inbound : outcome.fields.inboundProof.isSome = true →
    InboundEvidence e deeds outcome.fields.newSessionId
  unproven : outcome.fields.callbackProof = none → outcome.fields.inboundProof = none →
    outcome.fields.handoffOwner = "" ∧ outcome.fields.ownerCertification = none

theorem unproven_owns_nothing (outcome : RecoveryVerificationOutcome)
    (noCallback : outcome.fields.callbackProof = none) (noInbound : outcome.fields.inboundProof = none) :
    outcome.fields.handoffOwner = "" ∧ outcome.fields.ownerCertification = none := by
  obtain ⟨fields, accepted⟩ := outcome
  dsimp only at noCallback noInbound ⊢
  simp only [OutcomeFields.postInit, noCallback, noInbound] at accepted
  generalize fields.status = status at accepted
  by_cases owned : fields.handoffOwner = ""
  · cases certification : fields.ownerCertification with
    | none => exact ⟨owned, rfl⟩
    | some issued => cases status <;> simp [owned, certification] at accepted
  · cases status <;> simp [owned] at accepted

theorem sound_failed (e : Engine attempt ω) (deeds : List (Deed ω)) (pn : String) (reason : Failure)
    (before : List VerificationState) :
    Sound e deeds (RecoveryVerificationOutcome.failed pn reason before) :=
  ⟨fun h => (nomatch h), fun h => (nomatch h), fun _ _ => ⟨rfl, rfl⟩⟩

def KeepsBooks (attempt : String) (s s' : Ledger) : Prop :=
  ∀ since own foreign, Books s attempt since own foreign →
    ∃ foreign', Books s' attempt since own foreign'

structure Quiet (attempt : String) (s s' : State ω) : Prop where
  collectorPn : s'.collectorPn = s.collectorPn
  baseline : s'.baselineSessionIds = s.baselineSessionIds
  milestones : milestones s'.deeds = milestones s.deeds
  books : KeepsBooks attempt s.ledger s'.ledger

theorem KeepsBooks.refl (s : Ledger) : KeepsBooks attempt s s :=
  fun _ _ foreign books => ⟨foreign, books⟩

instance : IsPreorder (State ω) (Quiet attempt) where
  refl s := ⟨rfl, rfl, rfl, KeepsBooks.refl s.ledger⟩
  trans s s' s'' first second := by
    refine ⟨second.collectorPn.trans first.collectorPn, second.baseline.trans first.baseline,
      second.milestones.trans first.milestones, ?_⟩
    intro since own foreign books
    obtain ⟨foreign', books'⟩ := first.books since own foreign books
    exact second.books since own foreign' books'

theorem await_quiet (hook : ω → Awaited attempt ω ε α) : Within (Quiet attempt) (await hook) :=
  fun _ => ⟨rfl, rfl, rfl, fun _ _ _ books => books.others _⟩

theorem ask_quiet (hook : Hook ω α) : Within (Quiet attempt) (ask hook) :=
  fun s => ⟨rfl, rfl, rfl, KeepsBooks.refl s.ledger⟩

theorem enter_quiet (attempt : String) (state : VerificationState) :
    Within (Quiet attempt) (enter state : Step ω Unit) :=
  fun s => ⟨rfl, rfl, rfl, KeepsBooks.refl s.ledger⟩

theorem onLedger_quiet (attempt : String) {action : CallbackLedger.Action} (lease : action.leaseOf = none)
    (context : action.context = none) :
    Within (Quiet attempt) (Engine.onLedger action : Step ω Unit) := by
  intro s
  refine ⟨rfl, rfl, rfl, fun since own foreign books => books.step ?_ ?_⟩
  · simp [lease]
  · simp [context]

namespace Engine
variable {e : Engine attempt ω}

theorem retarget_quiet (sessionId : String) : Within (Quiet attempt) (e.retarget sessionId) := by
  unfold retarget
  cases e.retargetClaim with
  | none => exact within_pure _
  | some hook =>
    refine within_bind (ask_quiet _) fun granted => ?_
    refine within_bind (within_update fun s => ?_) fun _ => within_pure _
    refine ⟨rfl, rfl, ?_, KeepsBooks.refl s.ledger⟩
    simp [note, milestones, Deed.isMilestone]

theorem retarget_moves (sessionId : String) (s : State ω) :
    Returns (e.retarget sessionId) s fun s' granted =>
      milestones s'.deeds = milestones s.deeds ∧
        (granted = true → s'.deeds.getLast? = some (.retargeted sessionId true)) := by
  refine returns_and (returns_mono ?_ (within_returns (retarget_quiet sessionId) s)) ?_
  · exact fun _ _ quiet => quiet.milestones
  · unfold retarget
    cases e.retargetClaim with
    | none => exact returns_pure fun h => nomatch h
    | some hook =>
      refine returns_bind returns_any ?_
      intro s' granted _
      refine returns_update (returns_pure ?_)
      intro h
      simp [note, h]

theorem respects_quiet : e.Respects (Quiet attempt) where
  pause := within_bind (await_quiet _) fun _ => within_pure _
  close := within_bind (await_quiet _) fun _ => within_pure _
  retarget := retarget_quiet
  silent _ _ _ _ := await_quiet _
  reconnected _ _ _ := await_quiet _

theorem probeObservedIdentity_quiet : Within (Quiet attempt) e.probeObservedIdentity := by
  unfold probeObservedIdentity
  refine within_bind (within_observe _) fun strong => ?_
  split
  · exact within_pure _
  · split
    · exact within_pure _
    · exact within_bind (await_quiet _) fun _ => within_pure _

theorem promote_quiet : Within (Quiet attempt) e.promote := by
  unfold promote
  cases e.promoteClaim with
  | none => exact within_pure _
  | some hook =>
    refine within_bind (within_observe _) fun pn => within_onValueError ?_ _
    exact within_bind (ask_quiet _) fun _ => within_pure _

theorem captureWireAuthority_quiet : Within (Quiet attempt) e.captureWireAuthority :=
  within_update fun s => ⟨rfl, rfl, rfl, KeepsBooks.refl s.ledger⟩

theorem snapshotPendingBaseline_quiet : Within (Quiet attempt) e.snapshotPendingBaseline :=
  within_update fun s => ⟨rfl, rfl, rfl, KeepsBooks.refl s.ledger⟩

structure Reached (e : Engine attempt ω) (s : State ω) (since own : Nat) (past : List (Deed ω)) :
    Prop where
  history : milestones s.deeds = past
  identity : pnIsSameIdentity e.pn s.collectorPn = true
  books : ∃ foreign, Books s.ledger attempt since own foreign

variable {s s' : State ω} {since own : Nat} {past : List (Deed ω)}

theorem Reached.quiet (reached : e.Reached s since own past) (quiet : Quiet attempt s s') :
    e.Reached s' since own past := by
  obtain ⟨history, identity, foreign, books⟩ := reached
  exact ⟨quiet.milestones.trans history, quiet.collectorPn ▸ identity,
    quiet.books since own foreign books⟩

theorem milestones_note {deed : Deed ω} (milestone : deed.isMilestone = true) (s : State ω) :
    milestones (note deed s).deeds = milestones s.deeds ++ [deed] := by
  simp [note, milestones, milestone]

theorem Reached.note {deed : Deed ω} (reached : e.Reached s since own past)
    (milestone : deed.isMilestone = true) : e.Reached (note deed s) since own (past ++ [deed]) := by
  obtain ⟨history, identity, books⟩ := reached
  exact ⟨(milestones_note milestone s).trans (congrArg (· ++ [deed]) history), identity, books⟩

theorem Reached.captured (reached : e.Reached s since own past) :
    e.Reached
      (RecoveryVerification.note (.baseline s.host)
        { s with
          baselineSessionIds := e.visibleIds s.host
          resetTargetSessionIds := e.targetIds s.host s.collectorPn })
      since own (past ++ [.baseline s.host]) :=
  Reached.note ⟨reached.history, reached.identity, reached.books⟩ rfl

theorem accepted_of_found {baseline : ω} {sessionId : String} {fields : String × String}
    (reached : e.Reached s since own past) (ids : s.baselineSessionIds = e.visibleIds baseline)
    (found : e.findNewInboundSession s = some sessionId)
    (certified : e.newSessionProofFields sessionId s = .ok fields) :
    Accepted e baseline s.host sessionId := by
  obtain ⟨session, listed, eq, absent, live, strong, pn⟩ := findNewInboundSession_some found
  refine ⟨ids ▸ absent, ⟨session, listed, eq, live, strong, pn.symm ▸ reached.identity⟩, ?_⟩
  unfold newSessionProofFields at certified
  cases entry : e.sessionEntry s.host sessionId with
  | none => simp [entry] at certified
  | some session =>
    refine ⟨session, rfl, ?_⟩
    rw [entry] at certified
    by_contra weak
    simp [weak] at certified

end Engine
end RecoveryVerification
