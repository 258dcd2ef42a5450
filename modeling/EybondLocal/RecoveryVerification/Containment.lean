import EybondLocal.RecoveryVerification.Frames
import EybondLocal.RecoveryVerification.Transaction
import EybondLocal.SessionRegistry.Frames

/-!
What the callback recovery transaction leaves in the registry. The claim is taken before the
block that releases it, and the release stands behind two awaits that only suppress errors:
a raise or a cancellation in one of these places leaves the transient claim for ever.
-/
namespace RecoveryVerification
open StripText PythonObject CollectorIdentity RecoveryContract HookRun HookRun.Run
open SessionRegistry (Registry RawSession Claim Touched)
open CallbackLedger (Ledger)

variable {attempt : String} {ν ε α : Type}

def World.Spares (owner : String) (w : World ν) : Prop :=
  ∀ pair ∈ w.calls, ∀ other, other ≠ owner → pair.2.claims.get? other = pair.1.claims.get? other

def OnlyPrepared (owner : String) (registry : Registry) : Prop :=
  ∀ claim, registry.claims.get? owner = some claim → claim.handoffPending = true

def Sparing (owner : String) (w w' : World ν) : Prop := w.Spares owner → w'.Spares owner

def Holding (owner : String) (w w' : World ν) : Prop :=
  (w.registry.claims.get? owner).isSome = true → (w'.registry.claims.get? owner).isSome = true

instance (owner : String) : IsPreorder (World ν) (Sparing owner) where
  refl _ := id
  trans _ _ _ first second := second ∘ first

instance (owner : String) : IsPreorder (World ν) (Holding owner) where
  refl _ := id
  trans _ _ _ first second := second ∘ first

theorem ask_sparing {owner : String} (w : World ν) {operation : Registry → SessionRegistry.Outcome α}
    (kept : ∀ registry : Registry, ∀ other, other ≠ owner →
      (operation registry).registry.claims.get? other = registry.claims.get? other) :
    Sparing owner w (w.ask operation).1 := by
  intro spares pair member other different
  rcases List.mem_append.mp member with earlier | now
  · exact spares pair earlier other different
  · obtain rfl := List.mem_singleton.mp now
    exact kept w.registry other different

/-- Others complete a prepared handoff or complete its PN; they never take the mark off. -/
theorem step_onlyPrepared {owner : String} {registry : Registry} (call : OtherCall owner)
    (prepared : OnlyPrepared owner registry) :
    OnlyPrepared owner (SessionRegistry.step registry call.val) := by
  have touched : Touched registry call.val owner _ := SessionRegistry.step_touched call.property
  intro claim held
  generalize (SessionRegistry.step registry call.val).claims.get? owner = after at touched held
  cases touched with
  | kept => exact prepared claim held
  | enriched previous pn before same =>
    cases held
    exact prepared previous before
  | completed => cases held

theorem interleave_onlyPrepared {owner : String} (calls : List (OtherCall owner)) {registry : Registry}
    (prepared : OnlyPrepared owner registry) : OnlyPrepared owner (interleave calls registry) := by
  induction calls generalizing registry with
  | nil => exact prepared
  | cons call rest ih => exact ih (step_onlyPrepared call prepared)

namespace Transaction
variable (t : Transaction attempt ν) (others : ν → List (OtherCall t.owner))

theorem strip_owner : strip t.owner = t.owner := by
  unfold owner
  split
  · simp
  · exact t.token_trimmed

theorem cleanText_owner : (PyObj.str t.owner).cleanText = t.owner := by
  rw [PyObj.cleanText_str, strip_owner]

/-- A call the transaction makes under its own name keeps every other owner's claim. -/
theorem own_kept (registry : Registry) (call : SessionRegistry.Call)
    (own : call.operation.owner = some t.owner)
    (plain : ∀ fullPn entryId, call.operation ≠ .completeHandoff fullPn entryId) {other : String}
    (different : other ≠ t.owner) :
    (SessionRegistry.step registry call).claims.get? other = registry.claims.get? other := by
  refine SessionRegistry.step_kept ?_ ?_ plain
  · rw [own]
    exact fun h => different (Option.some.inj h).symm
  · intro sessionId fullPn eq
    rw [eq] at own
    cases own

theorem retargetHook_registry (sessionId : String) (w : World ν) :
    (t.retargetHook sessionId w).1 = w ∨
      (t.retargetHook sessionId w).1 =
        (w.ask fun registry =>
          registry.retargetClaimToReconnectedSession (t.surroundings.inventory w.rest)
            (.str t.owner) (.str sessionId)).1 := by
  unfold retargetHook
  split
  · exact Or.inl rfl
  · right
    dsimp only
    split <;> rfl

theorem prepareHook_registry (fullPn : String) (w : World ν) :
    (t.prepareHook fullPn w).1 =
      (w.ask fun registry => registry.prepareHandoff (.str t.owner) (.str fullPn)).1 := by
  unfold prepareHook
  dsimp only
  split <;> rfl

/-- The engine moves the world by the awaits and by the three ownership hooks only. -/
theorem engine_moves {P : World ν → World ν → Prop} [IsPreorder (World ν) P]
    (resumes : ∀ w rest, P w (t.resumed others w rest))
    (certifies : ∀ (w : World ν) rest, P w { w with rest := rest })
    (promotes : ∀ (w : World ν) fullPn,
      P w (w.ask fun registry => registry.promoteClaimToFullPn (.str t.owner) (.str fullPn)).1)
    (retargets : ∀ (w : World ν) inventory sessionId,
      P w (w.ask fun registry =>
        registry.retargetClaimToReconnectedSession inventory (.str t.owner) (.str sessionId)).1)
    (prepares : ∀ (w : World ν) fullPn,
      P w (w.ask fun registry => registry.prepareHandoff (.str t.owner) (.str fullPn)).1) :
    (t.engine others).MovesHost P where
  sleep w := resumes w _
  drained w := resumes w _
  close w := resumes w _
  restart w := resumes w _
  probe hook wired w := by
    cases wired
    exact resumes w _
  silent probe wired sessionId protocol w := by
    cases wired
    exact resumes w _
  reconnected hook wired sessionId w := by
    cases wired
    exact resumes w _
  trigger route w := resumes w _
  promote hook wired pn w := by
    cases wired
    exact promotes w pn
  retarget hook wired sessionId w := by
    cases wired
    rcases t.retargetHook_registry sessionId w with kept | asked
    · rw [kept]
      exact refl_of P w
    · rw [asked]
      exact retargets w _ sessionId
  prepare hook wired pn w := by
    have eq : hook = t.prepareHook := by
      change t.ownershipCommit = .prepareHandoff hook at wired
      unfold ownershipCommit at wired
      split at wired
      · cases wired
      · exact (OwnershipCommit.prepareHandoff.inj wired).symm
    rw [eq, prepareHook_registry]
    exact prepares w pn
  certify hook wired pn w := by
    change t.ownershipCommit = .ownerCertifier hook at wired
    unfold ownershipCommit at wired
    split at wired
    · cases wired
      exact certifies w _
    · cases wired

theorem engine_sparing : (t.engine others).MovesHost (Sparing t.owner) := by
  refine t.engine_moves others (fun _ _ => id) (fun _ _ => id) ?_ ?_ ?_
  · intro w fullPn
    refine ask_sparing w fun registry other different => ?_
    exact t.own_kept registry ⟨[], .promoteClaimToFullPn (.str t.owner) (.str fullPn)⟩
      (congrArg some t.cleanText_owner) (by simp) different
  · intro w inventory sessionId
    refine ask_sparing w fun registry other different => ?_
    exact t.own_kept registry
      ⟨inventory, .retargetClaimToReconnectedSession (.str t.owner) (.str sessionId)⟩
      (congrArg some t.cleanText_owner) (by simp) different
  · intro w fullPn
    refine ask_sparing w fun registry other different => ?_
    exact t.own_kept registry ⟨[], .prepareHandoff (.str t.owner) (.str fullPn)⟩
      (congrArg some t.cleanText_owner) (by simp) different

theorem engine_holding (alone : ∀ rest, others rest = []) :
    (t.engine others).MovesHost (Holding t.owner) := by
  refine t.engine_moves others ?_ (fun _ _ => id) ?_ ?_ ?_
  · intro w rest held
    simpa [resumed, alone, interleave] using held
  · intro w fullPn held
    exact SessionRegistry.step_held ⟨[], .promoteClaimToFullPn (.str t.owner) (.str fullPn)⟩
      rfl held
  · intro w inventory sessionId held
    exact SessionRegistry.step_held
      ⟨inventory, .retargetClaimToReconnectedSession (.str t.owner) (.str sessionId)⟩ rfl held
  · intro w fullPn held
    exact SessionRegistry.step_held ⟨[], .prepareHandoff (.str t.owner) (.str fullPn)⟩
      rfl held

theorem ownershipCommit_transient (transient : t.permanentMode = false) :
    t.ownershipCommit = .prepareHandoff t.prepareHook := by
  unfold ownershipCommit
  rw [transient]

theorem prepareHook_token {fullPn : String} {w : World ν} {token : PyObj}
    (returned : (t.prepareHook fullPn w).2 = .ok token) (nonempty : token.cleanText ≠ "") :
    token.cleanText = t.owner ∧ OnlyPrepared t.owner (t.prepareHook fullPn w).1.registry := by
  rw [prepareHook_registry]
  unfold prepareHook at returned
  dsimp only [World.ask] at returned ⊢
  cases granted : (w.registry.prepareHandoff (.str t.owner) (.str fullPn)).result with
  | error error =>
    rw [granted] at returned
    dsimp only at returned
    split at returned
    · cases returned
      exact absurd (by decide) nonempty
    · cases returned
  | ok value =>
    rw [granted] at returned
    cases returned
    cases value with
    | false => exact absurd (show (PyObj.str "").cleanText = "" by decide) nonempty
    | true =>
      refine ⟨t.cleanText_owner, ?_⟩
      intro claim held
      refine Registry.prepareHandoff_granted granted ?_
      rwa [cleanText_owner]

def Owns (registry : Registry) (outcome : RecoveryVerificationOutcome) : Prop :=
  succeeded (.returned outcome) = true →
    outcome.fields.handoffOwner = t.owner ∧ OnlyPrepared t.owner registry

theorem ask_prepareHook (fullPn : String) (s : State (World ν)) :
    Returns (ask (t.prepareHook fullPn)) s fun s' token =>
      token.cleanText ≠ "" → token.cleanText = t.owner ∧ OnlyPrepared t.owner s'.host.registry := by
  intro token ended nonempty
  unfold ask at ended ⊢
  cases answer : (t.prepareHook fullPn s.host).2 with
  | error error =>
    rw [answer] at ended
    cases ended
  | ok value =>
    rw [answer] at ended
    cases ended
    exact t.prepareHook_token answer nonempty

theorem commitAndSucceed_owns (transient : t.permanentMode = false) (status : VerificationState)
    (fields : OutcomeFields) (s : State (World ν)) :
    Returns ((t.engine others).commitAndSucceed status fields) s fun s' outcome =>
      t.Owns s'.host.registry outcome := by
  have commits : Returns (t.engine others).commitOwnership s fun s' commit =>
      commit.2 = none ∧ (commit.1 ≠ "" → commit.1 = t.owner ∧ OnlyPrepared t.owner s'.host.registry) := by
    have eq : (t.engine others).ownershipCommit = .prepareHandoff t.prepareHook :=
      t.ownershipCommit_transient transient
    unfold Engine.commitOwnership
    rw [eq]
    refine returns_observe ?_
    refine returns_bind (returns_onValueError (t.ask_prepareHook s.collectorPn s) ?_) ?_
    · exact fun _ nonempty => absurd (by decide) nonempty
    · intro s' token kept
      exact returns_pure ⟨rfl, kept⟩
  refine returns_bind commits ?_
  rintro s' ⟨token, certification⟩ ⟨rfl, owned⟩
  dsimp only
  split
  · exact returns_observe (returns_enter (returns_pure fun h => (nomatch h)))
  · rename_i committed
    obtain ⟨eq, prepared⟩ := owned (fun h => committed ⟨h, rfl⟩)
    refine returns_mono ?_ (succeed_returns _ _ s')
    rintro s'' outcome ⟨host, _, fields⟩ _
    rw [host, fields]
    exact ⟨eq, prepared⟩

theorem verify_owns (transient : t.permanentMode = false) (scene : Scene ν) :
    Returns (t.verify others) scene fun scene' outcome => t.Owns scene'.world.registry outcome := by
  have ends : (t.engine others).EndsIn fun s outcome => t.Owns s.host.registry outcome := by
    refine ⟨rfl, ?_, t.commitAndSucceed_owns others transient, ?_, fun _ _ _ owns _ _ => owns⟩
    · exact fun _ _ => returns_observe (returns_enter (returns_pure fun h => (nomatch h)))
    · intro s outcome owns
      refine returns_bind (returns_await fun ledger _ success => ?_) fun _ _ kept => returns_pure kept
      obtain ⟨token, prepared⟩ := owns success
      exact ⟨token, interleave_onlyPrepared _ prepared⟩
  have own := Engine.asyncVerify_ends ends ((t.engine others).start scene.world scene.ledger)
  unfold Returns Ends at own ⊢
  unfold verify
  dsimp only at own ⊢
  generalize (t.engine others).asyncVerify _ = run at own ⊢
  exact own

def OnWorld (P : World ν → World ν → Prop) (scene scene' : Scene ν) : Prop :=
  P scene.world scene'.world

instance {P : World ν → World ν → Prop} [IsPreorder (World ν) P] :
    IsPreorder (Scene ν) (OnWorld P) where
  refl scene := refl_of P scene.world
  trans _ _ _ first second := trans_of P first second

theorem verify_within {P : World ν → World ν → Prop} [IsPreorder (World ν) P]
    (moves : (t.engine others).MovesHost P) : Within (OnWorld P) (t.verify others) := by
  intro scene
  have moved := Engine.asyncVerify_along moves ((t.engine others).start scene.world scene.ledger)
  unfold OnWorld verify
  dsimp only at moved ⊢
  generalize (t.engine others).asyncVerify _ = run at moved ⊢
  exact moved

theorem suspend_sparing (suspension : Suspension attempt ν) :
    Within (OnWorld (Sparing t.owner)) (t.suspend others suspension) :=
  fun _ => id

theorem release_sparing : Within (OnWorld (Sparing t.owner)) (t.release : Run (Scene ν) PyError Unit) := by
  refine within_call fun scene => ?_
  show Sparing t.owner scene.world
    (scene.world.ask fun registry => registry.release (.str t.owner)).1
  refine ask_sparing scene.world fun registry other different => ?_
  exact t.own_kept registry ⟨[], .release (.str t.owner)⟩ (congrArg some t.cleanText_owner)
    (by simp) different

theorem claimSession_sparing (scene : Scene ν) :
    Sparing t.owner scene.world (t.claimSession scene).1 := by
  unfold claimSession
  refine ask_sparing scene.world fun registry other different => ?_
  have kept := t.own_kept registry
    ⟨t.surroundings.inventory scene.world.rest, .claimSession (.str t.owner) t.sessionId⟩
    (congrArg some t.cleanText_owner) (by simp) different
  simpa only [SessionRegistry.step] using kept

theorem asyncRun_eq (passes : t.argumentRefusal = none) (scene : Scene ν) :
    t.asyncRunCallbackRecoveryTransaction others scene =
      t.afterClaim others (t.claimSession scene).2
        { scene with world := (t.claimSession scene).1 } := by
  simp only [asyncRunCallbackRecoveryTransaction, passes, bind_apply, observe, call,
    Ending.next_returned]

theorem claimed_sparing : Within (OnWorld (Sparing t.owner)) (t.claimed others) := by
  have cleans : ∀ ending, Within (OnWorld (Sparing t.owner)) (t.cleanup others ending) := by
    intro ending
    refine within_bind (t.suspend_sparing others _) fun _ => ?_
    refine within_bind (t.suspend_sparing others _) fun _ => ?_
    split
    · exact t.release_sparing
    · exact within_pure _
  unfold claimed
  split
  · exact within_raise _
  · refine within_bind (t.suspend_sparing others _) fun _ => ?_
    intro scene
    exact trans_of (OnWorld (Sparing t.owner))
      (t.verify_within others (t.engine_sparing others) scene) (cleans _ _)

/-- Every own call of a run leaves the other owners' claims alone. -/
theorem asyncRun_sparing :
    Within (OnWorld (Sparing t.owner)) (t.asyncRunCallbackRecoveryTransaction others) := by
  have answered : ∀ answer, Within (OnWorld (Sparing t.owner)) (t.afterClaim others answer) := by
    intro answer
    cases answer with
    | ok value => exact t.claimed_sparing others
    | error error =>
      dsimp only [afterClaim]
      split
      · exact within_pure _
      · exact within_raise _
  intro scene
  cases passes : t.argumentRefusal with
  | some error =>
    unfold asyncRunCallbackRecoveryTransaction
    rw [passes]
    exact refl_of (OnWorld (Sparing t.owner)) scene
  | none =>
    rw [t.asyncRun_eq others passes]
    have taken := t.claimSession_sparing scene
    have rest := answered (t.claimSession scene).2 { scene with world := (t.claimSession scene).1 }
    exact fun spares => rest (taken spares)

/-- A transient claim that is left when the call has ended is a prepared one, and the call
    returned the outcome that owns it; and every own call spared the other owners. -/
structure Contained (final : Scene ν) (ending : Ending PyError RecoveryVerificationOutcome) : Prop where
  transient : t.permanentMode = false → ∀ claim,
    final.world.registry.claims.get? t.owner = some claim →
      ∃ outcome, ending = .returned outcome ∧ outcome.fields.handoffOwner = t.owner ∧
        claim.handoffPending = true
  spares : final.world.Spares t.owner

def takesClaim (scene : Scene ν) : Bool :=
  t.argumentRefusal.isNone && (t.claimSession scene).2.toBool

def Clean (scene : Scene ν) : Prop :=
  t.permanentMode = true ∨ t.takesClaim scene = false ∨
    (t.channelRefusal = none ∧ t.opening.cancelled = false ∧ t.probeClosing.cancelled = false ∧
      t.channelClosing.cancelled = false)

structure Fresh (scene : Scene ν) : Prop where
  vacant : t.permanentMode = false → scene.world.registry.claims.get? t.owner = none
  uncalled : scene.world.calls = []

variable {t} {others} {scene : Scene ν}

theorem claimSession_cases (vacant : scene.world.registry.claims.get? t.owner = none) :
    (∃ error, (t.claimSession scene).2 = .error error ∧
        (t.claimSession scene).1.registry = scene.world.registry) ∨
      (t.claimSession scene).2 = .ok () ∧
        ((t.claimSession scene).1.registry.claims.get? t.owner).isSome = true := by
  have first := @Registry.claimSession_first scene.world.registry
    (t.surroundings.inventory scene.world.rest) (.str t.owner) t.sessionId
  rw [cleanText_owner] at first
  unfold claimSession World.ask
  dsimp only
  rcases first vacant with ⟨error, refused⟩ | granted
  · rw [refused]
    exact Or.inl ⟨error, rfl, rfl⟩
  · rw [granted]
    exact Or.inr ⟨rfl, by simp [Registry.returns]⟩

theorem suspend_returned {suspension : Suspension attempt ν} (running : suspension.cancelled = false)
    (scene : Scene ν) : (t.suspend others suspension scene).2 = .returned () := by
  simp [suspend, running]

theorem suspend_cancelled {suspension : Suspension attempt ν} (cancelled : suspension.cancelled = true)
    (scene : Scene ν) : (t.suspend others suspension scene).2 = .cancelled := by
  simp [suspend, cancelled]

theorem suspend_onlyPrepared (others : ν → List (OtherCall t.owner))
    (suspension : Suspension attempt ν) (prepared : OnlyPrepared t.owner scene.world.registry) :
    OnlyPrepared t.owner (t.suspend others suspension scene).1.world.registry :=
  interleave_onlyPrepared _ prepared

theorem suspend_holding (alone : ∀ rest, others rest = []) (suspension : Suspension attempt ν) :
    Within (OnWorld (Holding t.owner)) (t.suspend others suspension) := by
  intro scene held
  simpa [suspend, resumed, alone, interleave] using held

theorem get?_release (scene : Scene ν) :
    (t.release scene).1.world.registry.claims.get? t.owner = none := by
  simp [release, call, World.ask, Registry.release, Registry.returns, strip_owner]

theorem finish_contained (transient : t.permanentMode = false)
    (probe : t.probeClosing.cancelled = false) (channel : t.channelClosing.cancelled = false)
    (scene : Scene ν) {claim : Claim}
    (held : ((t.verify others).finishing (t.cleanup others) scene).1.world.registry.claims.get?
      t.owner = some claim) :
    ∃ outcome, ((t.verify others).finishing (t.cleanup others) scene).2 = .returned outcome ∧
      outcome.fields.handoffOwner = t.owner ∧ claim.handoffPending = true := by
  have owns := t.verify_owns others transient scene
  unfold Returns HookRun.Run.Ends at owns
  unfold finishing cleanup at held ⊢
  generalize (t.verify others scene).1 = after at owns held ⊢
  generalize (t.verify others scene).2 = ending at owns held ⊢
  simp only [bind_apply, suspend_returned probe, suspend_returned channel, Ending.next_returned,
    transient, and_true] at held ⊢
  cases success : succeeded ending with
  | false =>
    simp only [success, ↓reduceIte] at held
    rw [get?_release] at held
    cases held
  | true =>
    simp only [success, Bool.true_eq_false, ↓reduceIte] at held ⊢
    cases ending with
    | raised error => cases success
    | cancelled => cases success
    | returned outcome =>
      obtain ⟨token, prepared⟩ := owns outcome rfl success
      have kept := suspend_onlyPrepared others t.channelClosing
        (suspend_onlyPrepared others t.probeClosing prepared)
      exact ⟨outcome, rfl, token, kept claim held⟩

theorem asyncRun_contained (fresh : t.Fresh scene) (clean : t.Clean scene) :
    t.Contained (t.asyncRunCallbackRecoveryTransaction others scene).1
      (t.asyncRunCallbackRecoveryTransaction others scene).2 := by
  refine ⟨?_, t.asyncRun_sparing others scene (by simp [World.Spares, fresh.uncalled])⟩
  intro transient claim held
  have vacant := fresh.vacant transient
  cases passes : t.argumentRefusal with
  | some error =>
    simp only [asyncRunCallbackRecoveryTransaction, passes, raise] at held
    rw [vacant] at held
    cases held
  | none =>
    rw [t.asyncRun_eq others passes] at held ⊢
    rcases claimSession_cases vacant with ⟨error, refused, unchanged⟩ | ⟨taken, _⟩
    · have untouched : (t.afterClaim others (t.claimSession scene).2
          { scene with world := (t.claimSession scene).1 }).1.world.registry =
          scene.world.registry := by
        rw [refused, ← unchanged]
        dsimp only [afterClaim]
        split <;> rfl
      rw [untouched, vacant] at held
      cases held
    · have entered : t.takesClaim scene = true := by
        simp [takesClaim, passes, taken, Except.toBool]
      rcases clean with permanent | unclaimed | ⟨constructed, opened, probe, channel⟩
      · rw [transient] at permanent
        cases permanent
      · rw [entered] at unclaimed
        cases unclaimed
      · rw [taken] at held ⊢
        simp only [afterClaim, claimed, constructed, bind_apply, suspend_returned opened,
          Ending.next_returned] at held ⊢
        exact finish_contained transient probe channel _ held

/-- A cleanup that is cancelled at one of its awaits never reaches the release. -/
theorem cleanup_cancelled (alone : ∀ rest, others rest = [])
    (cancelled : t.probeClosing.cancelled = true ∨ t.channelClosing.cancelled = true)
    (ending : Ending PyError RecoveryVerificationOutcome)
    (held : (scene.world.registry.claims.get? t.owner).isSome = true) :
    ((t.cleanup others ending scene).1.world.registry.claims.get? t.owner).isSome = true ∧
      (t.cleanup others ending scene).2 = .cancelled := by
  have first := suspend_holding alone t.probeClosing scene held
  have second := suspend_holding alone t.channelClosing (t.suspend others t.probeClosing scene).1 first
  unfold cleanup
  cases probe : t.probeClosing.cancelled with
  | true =>
    simp only [bind_apply, suspend_cancelled probe, Ending.next_cancelled]
    exact ⟨first, trivial⟩
  | false =>
    have channel := cancelled.resolve_left (by simp [probe])
    simp only [bind_apply, suspend_returned probe, suspend_cancelled channel, Ending.next_returned,
      Ending.next_cancelled]
    exact ⟨second, trivial⟩

/-- After the claim, alone, a raise or a cancellation outside the guarded block keeps it. -/
theorem claimed_leaks (alone : ∀ rest, others rest = [])
    (hit : ¬ (t.channelRefusal = none ∧ t.opening.cancelled = false ∧
      t.probeClosing.cancelled = false ∧ t.channelClosing.cancelled = false))
    (held : (scene.world.registry.claims.get? t.owner).isSome = true) :
    ((t.claimed others scene).1.world.registry.claims.get? t.owner).isSome = true ∧
      ∀ outcome, (t.claimed others scene).2 ≠ .returned outcome := by
  cases refusal : t.channelRefusal with
  | some error =>
    simp only [claimed, refusal, raise]
    exact ⟨held, by simp⟩
  | none =>
    have opens := suspend_holding alone t.opening scene held
    cases opening : t.opening.cancelled with
    | true =>
      simp only [claimed, refusal, bind_apply, suspend_cancelled opening, Ending.next_cancelled]
      exact ⟨opens, by simp⟩
    | false =>
      have cancelled : t.probeClosing.cancelled = true ∨ t.channelClosing.cancelled = true := by
        cases probe : t.probeClosing.cancelled with
        | true => exact Or.inl rfl
        | false =>
          cases channel : t.channelClosing.cancelled with
          | true => exact Or.inr rfl
          | false => exact absurd ⟨refusal, opening, probe, channel⟩ hit
      simp only [claimed, refusal, bind_apply, suspend_returned opening, Ending.next_returned]
      have verified := t.verify_within others (t.engine_holding others alone) _ opens
      obtain ⟨kept, ended⟩ := cleanup_cancelled alone cancelled
        (t.verify others (t.suspend others t.opening scene).1).2 verified
      unfold finishing
      dsimp only
      rw [ended]
      exact ⟨kept, fun _ eq => nomatch eq⟩

theorem leaks_of_not_clean (alone : ∀ rest, others rest = []) (fresh : t.Fresh scene)
    (hit : ¬ t.Clean scene) :
    ((t.asyncRunCallbackRecoveryTransaction others scene).1.world.registry.claims.get?
        t.owner).isSome = true ∧
      ∀ outcome, (t.asyncRunCallbackRecoveryTransaction others scene).2 ≠ .returned outcome := by
  simp only [Clean, not_or, Bool.not_eq_true, Bool.not_eq_false] at hit
  obtain ⟨transient, entered, place⟩ := hit
  simp only [takesClaim, Bool.and_eq_true, Option.isNone_iff_eq_none] at entered
  obtain ⟨passes, taken⟩ := entered
  rw [t.asyncRun_eq others passes]
  rcases claimSession_cases (fresh.vacant transient) with ⟨error, refused, _⟩ | ⟨granted, held⟩
  · rw [refused] at taken
    cases taken
  · rw [granted]
    exact claimed_leaks alone place held

/-- The transaction contains its claim, whatever other owners do meanwhile, exactly when it
    is clean. -/
theorem contained_iff_clean (fresh : t.Fresh scene) :
    (∀ others, t.Contained (t.asyncRunCallbackRecoveryTransaction others scene).1
      (t.asyncRunCallbackRecoveryTransaction others scene).2) ↔ t.Clean scene := by
  constructor
  · intro contained
    by_contra hit
    obtain ⟨held, unreturned⟩ := leaks_of_not_clean (fun _ => rfl) fresh hit
    obtain ⟨claim, eq⟩ := Option.isSome_iff_exists.mp held
    have transient : t.permanentMode = false := by
      cases mode : t.permanentMode with
      | false => rfl
      | true => exact absurd (Or.inl mode) hit
    obtain ⟨outcome, returned, _⟩ := (contained _).transient transient claim eq
    exact unreturned outcome returned
  · intro clean others
    exact asyncRun_contained fresh clean

def quietReply {β : Type} (value : β) (_ : World Unit) : Reply "a" Unit ε β :=
  { rest := (), ending := .returned value }

theorem sampleAttempt_trimmed : strip "a" = "a" := by decide

def sampleTransaction (cancelled : Bool) : Transaction "a" Unit where
  collectorPn := .str "PN1"
  sessionId := .str "s1"
  route :=
    { bindIp := .str "ha"
      triggerTargetIp := .str "pn"
      triggerUdpPort := .int 58899
      advertisedHaHost := .str "ha"
      advertisedHaPort := .int 8899
      listenerPort := .int 8899 }
  portNumber := .ok 8899
  permanentOwnerId := .none
  ownerCertifier := none
  managementEndpoint := .str ""
  onManagementConfirmed := .absent
  token := "1"
  surroundings :=
    { inventory := fun _ => []
      observedWire := fun _ => .ok .none
      probeIdentity := quietReply ()
      sendRestart := quietReply ()
      closeChannel := quietReply ()
      probeAvailable := fun _ => true
      silentIds := fun _ => .ok []
      identifySilent := fun _ _ => quietReply .none
      sendTrigger := fun _ => quietReply ()
      ownSends := fun _ _ => 1
      clock := fun _ => .ok .none
      pollsLeft := fun _ => 0
      sleep := quietReply ()
      triggersDrained := quietReply ()
      inhibitor := 0
      attempt_trimmed := sampleAttempt_trimmed }
  opening := { rest := id, cancelled := cancelled }
  probeClosing := { rest := id }
  channelClosing := { rest := id }
  token_trimmed := by decide

def emptyScene : Scene Unit := ⟨{ registry := Registry.initial, rest := () }, {}⟩

theorem sampleTransaction_fresh (cancelled : Bool) :
    (sampleTransaction cancelled).Fresh emptyScene :=
  ⟨fun _ => rfl, rfl⟩

theorem contained_iff_clean_sample :
    (sampleTransaction false).Fresh emptyScene ∧
      ∀ others, (sampleTransaction false).Contained
        ((sampleTransaction false).asyncRunCallbackRecoveryTransaction others emptyScene).1
        ((sampleTransaction false).asyncRunCallbackRecoveryTransaction others emptyScene).2 := by
  refine ⟨sampleTransaction_fresh false, (contained_iff_clean (sampleTransaction_fresh false)).mpr ?_⟩
  exact Or.inr (Or.inr ⟨rfl, rfl, rfl, rfl⟩)

/-- Cancelled while the probe opens: the claim stays and nobody knows its owner. -/
theorem cancelled_opening_leaks :
    ¬ ∀ others, (sampleTransaction true).Contained
      ((sampleTransaction true).asyncRunCallbackRecoveryTransaction others emptyScene).1
      ((sampleTransaction true).asyncRunCallbackRecoveryTransaction others emptyScene).2 := by
  intro contained
  have hit : ¬ (sampleTransaction true).Clean emptyScene := by
    rintro (permanent | unclaimed | ⟨_, opened, _⟩)
    · cases permanent
    · revert unclaimed
      decide
    · cases opened
  obtain ⟨held, unreturned⟩ := leaks_of_not_clean (fun _ => rfl) (sampleTransaction_fresh true) hit
  obtain ⟨claim, eq⟩ := Option.isSome_iff_exists.mp held
  obtain ⟨outcome, returned, _⟩ := (contained _).transient rfl claim eq
  exact unreturned outcome returned

end Transaction
end RecoveryVerification
