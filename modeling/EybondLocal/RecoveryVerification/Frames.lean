import EybondLocal.RecoveryVerification.Phases

/-!
What the stretches of the engine leave alone. A wait only reads, asks and moves the claim:
whatever its hooks keep, it keeps.
-/
namespace RecoveryVerification
open StripText PythonObject CollectorIdentity RecoveryContract HookRun HookRun.Run
open CallbackLedger (Ledger Books)

variable {attempt : String} {ω ε α β : Type}

theorem returns_update {f : State ω → State ω} {body : Unit → Step ω β} {s : State ω}
    {post : State ω → β → Prop} (rest : Returns (body ()) (f s) post) :
    Returns (update f >>= body) s post :=
  returns_call rest

theorem returns_enter {state : VerificationState} {body : Unit → Step ω β} {s : State ω}
    {post : State ω → β → Prop}
    (rest : Returns (body ()) { s with transitions := s.transitions ++ [state] } post) :
    Returns (enter state >>= body) s post :=
  returns_call rest

theorem returns_await {hook : ω → Awaited attempt ω ε α} {s : State ω}
    {post : State ω → Except ε α → Prop}
    (rest : ∀ ledger value, post { s with host := (hook s.host).host, ledger := ledger } value) :
    Returns (await hook) s post :=
  fun value _ => rest _ value

theorem returns_onValueError {body : Step ω α} {value : α} {s : State ω} {post : State ω → α → Prop}
    (returns : Returns body s post) (caught : ∀ s', post s' value) :
    Returns (onValueError body value) s post := by
  unfold Returns HookRun.Run.Ends onValueError recover at *
  cases ended : (body s).2 with
  | returned result => simpa [ended] using returns
  | cancelled => simp [ended]
  | raised error =>
    intro result
    dsimp only
    split
    · intro eq
      exact Ending.returned.inj eq ▸ caught _
    · exact fun eq => nomatch eq

theorem succeed_returns (status : VerificationState) (fields : OutcomeFields) (s : State ω) :
    Returns (succeed status fields) s fun s' outcome =>
      s'.host = s.host ∧ s'.deeds = s.deeds ∧ outcome.fields =
        { fields with
          status := status
          collectorPn := s.collectorPn
          transitions := s.transitions ++ [status] } := by
  unfold succeed
  refine returns_enter (returns_observe ?_)
  split
  · rename_i outcome constructed
    refine returns_pure ?_
    unfold RecoveryVerificationOutcome.construct at constructed
    split at constructed
    · cases constructed
    · cases constructed
      exact ⟨rfl, rfl, rfl⟩
  · exact returns_raise

theorem within_update {R : State ω → State ω → Prop} {f : State ω → State ω}
    (moves : ∀ s, R s (f s)) : Within R (update f) :=
  within_call moves

section
variable {R : State ω → State ω → Prop} [IsPreorder (State ω) R]

theorem within_onValueError {body : Step ω α} (moves : Within R body) (value : α) :
    Within R (onValueError body value) := by
  refine within_recover moves fun error => ?_
  split
  · exact within_pure _
  · exact within_raise _

end

namespace Engine
variable {e : Engine attempt ω} {R : State ω → State ω → Prop}

structure Respects (e : Engine attempt ω) (R : State ω → State ω → Prop) : Prop where
  pause : Within R e.pause
  close : Within R e.closeChannel
  retarget : ∀ sessionId, Within R (e.retarget sessionId)
  silent : ∀ probe, e.silentSessionProbe = some probe → ∀ sessionId protocol,
    Within R (await (probe.identifyExactSession sessionId protocol))
  reconnected : ∀ probe, e.probeReconnectedIdentity = some probe → ∀ sessionId,
    Within R (await (probe sessionId))

variable [IsPreorder (State ω) R]

theorem probeSingleSilentCandidate_within (respects : e.Respects R) (attempted : List String) :
    Within R (e.probeSingleSilentCandidate attempted) := by
  unfold probeSingleSilentCandidate
  cases wired : e.silentSessionProbe with
  | none => exact within_pure _
  | some probe =>
    refine within_bind (within_observe _) fun authority => ?_
    cases authority with
    | none => exact within_pure _
    | some wire =>
      refine within_bind (within_observe _) fun candidate => ?_
      cases candidate with
      | error observation => exact within_pure _
      | ok candidate =>
        refine within_bind (respects.silent probe wired candidate wire) fun answer => ?_
        exact within_bind (within_observe _) fun pn => within_pure _

theorem enrichWeakCandidate_within (respects : e.Respects R) (attempted : List String) :
    Within R (e.enrichWeakCandidate attempted) := by
  unfold enrichWeakCandidate
  cases wired : e.probeReconnectedIdentity with
  | none => exact within_pure _
  | some probe =>
    refine within_bind (within_observe _) fun candidate => ?_
    cases candidate with
    | none => exact within_pure _
    | some sessionId =>
      dsimp only
      split
      · exact within_pure _
      · refine within_bind (respects.retarget sessionId) fun granted => ?_
        split
        · exact within_bind (respects.reconnected probe wired sessionId) fun _ => within_pure _
        · exact within_pure _

theorem waitPass_within (respects : e.Respects R) (probed silentProbed : List String)
    (last : Option Failure) : Within R (e.waitPass probed silentProbed last) := by
  unfold waitPass
  refine within_bind (within_observe _) fun found => ?_
  cases found with
  | some sessionId => exact within_pure _
  | none =>
    refine within_bind (probeSingleSilentCandidate_within respects silentProbed) fun observed => ?_
    dsimp only
    split
    · exact within_pure _
    · refine within_bind (enrichWeakCandidate_within respects probed) fun probed' => ?_
      refine within_bind (within_observe _) fun found => ?_
      cases found <;> exact within_pure _

theorem waitForNewSamePnSession_within (respects : e.Respects R) (polls : Nat) :
    Within R (e.waitForNewSamePnSession polls) :=
  within_poll (fun _ => waitPass_within respects _ _ _) respects.pause polls _

theorem awaitResetActivity_within (respects : e.Respects R) (polls : Nat) :
    Within R (e.awaitResetActivity polls) :=
  within_poll (fun _ => within_observe _) respects.pause polls _

theorem stop_within (entered : ∀ state, Within R (enter state)) (reason : Failure) :
    Within R (stop reason) := by
  unfold stop fail
  refine within_bind ?_ fun _ => within_pure _
  exact within_bind (within_observe _) fun _ => within_bind (entered _) fun _ => within_pure _

theorem resetBarrier_within (respects : e.Respects R) (entered : ∀ state, Within R (enter state)) :
    Within R e.resetBarrier := by
  refine within_ensuring ?_ respects.close
  refine within_bind (entered _) fun _ => within_bind (within_observe _) fun polls => ?_
  refine within_bind (awaitResetActivity_within respects polls) fun observed => ?_
  split
  · exact within_pure _
  · exact stop_within entered _

theorem findNewInboundSession_some {s : State ω} {sessionId : String}
    (found : e.findNewInboundSession s = some sessionId) :
    ∃ session ∈ e.sessions s.host, session.id = sessionId ∧ sessionId ∉ s.baselineSessionIds ∧
      session.isClosed = false ∧ session.strong = true ∧ session.pn = s.collectorPn := by
  unfold findNewInboundSession at found
  cases search : (e.sessions s.host).find? (e.confirms s) with
  | none => simp [search] at found
  | some session =>
    rw [search] at found
    have eq : session.id = sessionId := by simpa using found
    have confirmed := List.find?_some search
    simp only [confirms, Bool.and_eq_true, Bool.not_eq_true', beq_iff_eq] at confirmed
    obtain ⟨⟨⟨⟨⟨⟨_, fresh⟩, live⟩, _⟩, _⟩, strong⟩, pn⟩ := confirmed
    refine ⟨session, List.mem_of_find?_eq_some search, eq, ?_, live, strong, pn⟩
    rw [← eq]
    simpa using fresh

theorem waitForNewSamePnSession_found (e : Engine attempt ω) (polls : Nat) (s : State ω) :
    Returns (e.waitForNewSamePnSession polls) s fun s' result =>
      ∀ sessionId, result.sessionId = some sessionId → e.findNewInboundSession s' = some sessionId := by
  refine returns_poll (fun _ => True) ?_ (fun _ _ => returns_any) polls _ trivial
  rintro s ⟨probed, silentProbed, last⟩ -
  unfold waitPass
  refine returns_observe ?_
  cases found : e.findNewInboundSession s with
  | some sessionId =>
    refine returns_pure ?_
    intro sessionId' eq
    exact found.trans eq
  | none =>
    refine returns_bind returns_any ?_
    rintro s' ⟨observation, silentProbed'⟩ -
    dsimp only
    split
    · exact returns_pure fun _ eq => nomatch eq
    · refine returns_bind returns_any ?_
      intro s'' probed' _
      refine returns_observe ?_
      cases found' : e.findNewInboundSession s'' with
      | some sessionId =>
        refine returns_pure ?_
        intro sessionId' eq
        exact found'.trans eq
      | none => exact returns_pure ⟨trivial, fun _ eq => nomatch eq⟩

def Along (P : ω → ω → Prop) (s s' : State ω) : Prop := P s.host s'.host

structure MovesHost (e : Engine attempt ω) (P : ω → ω → Prop) : Prop where
  sleep : ∀ w, P w (e.sleep w).host
  drained : ∀ w, P w (e.triggersDrained w).host
  close : ∀ w, P w (e.restartChannel.close w).host
  restart : ∀ w, P w (e.restartChannel.sendRestart w).host
  probe : ∀ hook, e.restartChannel.probeIdentity = some hook → ∀ w, P w (hook w).host
  silent : ∀ probe, e.silentSessionProbe = some probe → ∀ sessionId protocol w,
    P w (probe.identifyExactSession sessionId protocol w).host
  reconnected : ∀ hook, e.probeReconnectedIdentity = some hook → ∀ sessionId w,
    P w (hook sessionId w).host
  trigger : ∀ route w, P w (e.triggerSender route w).host
  promote : ∀ hook, e.promoteClaim = some hook → ∀ pn w, P w (hook pn w).1
  retarget : ∀ hook, e.retargetClaim = some hook → ∀ sessionId w, P w (hook sessionId w).1
  prepare : ∀ hook, e.ownershipCommit = .prepareHandoff hook → ∀ pn w, P w (hook pn w).1
  certify : ∀ hook, e.ownershipCommit = .ownerCertifier hook → ∀ pn w, P w (hook pn w).1

section
variable {P : ω → ω → Prop} [IsPreorder ω P]

instance : IsPreorder (State ω) (Along P) where
  refl s := refl_of P s.host
  trans _ _ _ first second := trans_of P first second

theorem update_along {f : State ω → State ω} (kept : ∀ s, (f s).host = s.host) :
    Within (Along P) (update f) := by
  refine within_update fun s => ?_
  unfold Along
  rw [kept]
  exact refl_of P s.host

theorem enter_along (state : VerificationState) : Within (Along P) (enter state : Step ω Unit) :=
  update_along fun _ => rfl

theorem onLedger_along (action : CallbackLedger.Action) :
    Within (Along P) (onLedger action : Step ω Unit) :=
  update_along fun _ => rfl

theorem fail_along (reason : Failure) :
    Within (Along P) (fail reason : Step ω RecoveryVerificationOutcome) :=
  within_bind (within_observe _) fun _ => within_bind (enter_along _) fun _ => within_pure _

theorem succeed_along (status : VerificationState) (fields : OutcomeFields) :
    Within (Along P) (succeed status fields : Step ω RecoveryVerificationOutcome) := by
  refine within_bind (enter_along _) fun _ => within_bind (within_observe _) fun reached => ?_
  split
  · exact within_pure _
  · exact within_raise _

variable (moves : e.MovesHost P)
include moves

theorem respects_along : e.Respects (Along P) where
  pause := within_bind (fun s => moves.sleep s.host) fun _ => within_pure _
  close := within_bind (fun s => moves.close s.host) fun _ => within_pure _
  retarget sessionId := by
    unfold Engine.retarget
    cases wired : e.retargetClaim with
    | none => exact within_pure _
    | some hook =>
      refine within_bind (fun s => moves.retarget hook wired sessionId s.host) fun granted => ?_
      exact within_bind (update_along fun _ => rfl) fun _ => within_pure _
  silent probe wired sessionId protocol s := moves.silent probe wired sessionId protocol s.host
  reconnected hook wired sessionId s := moves.reconnected hook wired sessionId s.host

theorem identify_along : Within (Along P) e.identify := by
  have probes : Within (Along P) e.probeObservedIdentity := by
    refine within_bind (within_observe _) fun strong => ?_
    split
    · exact within_pure _
    · cases wired : e.restartChannel.probeIdentity with
      | none => exact within_pure _
      | some hook => exact within_bind (fun s => moves.probe hook wired s.host) fun _ => within_pure _
  refine within_bind (enter_along _) fun _ => within_bind probes fun _ => ?_
  refine within_bind (within_observe _) fun polls => ?_
  refine within_poll (fun _ => ?_) (respects_along moves).pause _ _
  refine within_bind (within_observe _) fun identity => ?_
  cases identity with
  | none => exact within_pure _
  | some pn => exact within_bind (update_along fun _ => rfl) fun _ => within_pure _

theorem promote_along : Within (Along P) e.promote := by
  unfold promote
  cases wired : e.promoteClaim with
  | none => exact within_pure _
  | some hook =>
    refine within_bind (within_observe _) fun pn => within_onValueError ?_ _
    exact within_bind (fun s => moves.promote hook wired pn s.host) fun _ => within_pure _

theorem sendRestart_along : Within (Along P) e.sendRestart := by
  refine within_bind (enter_along _) fun _ => within_bind (fun s => moves.restart s.host) fun answer => ?_
  split
  · exact within_bind (update_along fun _ => rfl) fun _ => within_pure _
  all_goals exact within_pure _

theorem refuse_along (reason : Failure) : Within (Along P) (e.refuse reason) :=
  within_bind (respects_along moves).close fun _ => stop_within enter_along reason

theorem commitAndSucceed_along (status : VerificationState) (fields : OutcomeFields) :
    Within (Along P) (e.commitAndSucceed status fields) := by
  have commits : Within (Along P) e.commitOwnership := by
    unfold commitOwnership
    cases wired : e.ownershipCommit with
    | unavailable => exact within_pure _
    | prepareHandoff hook =>
      refine within_bind (within_observe _) fun pn => ?_
      exact within_bind (within_onValueError (fun s => moves.prepare hook wired pn s.host) _)
        fun _ => within_pure _
    | ownerCertifier hook =>
      refine within_bind (within_observe _) fun pn => ?_
      exact within_bind (within_onValueError (fun s => moves.certify hook wired pn s.host) _)
        fun _ => within_pure _
  refine within_bind commits fun commit => ?_
  dsimp only
  split
  · exact fail_along _
  · exact succeed_along _ _

theorem certifyInbound_along (sessionId : String) : Within (Along P) (e.certifyInbound sessionId) := by
  refine within_bind (within_observe _) fun fields => ?_
  cases fields with
  | error reason => exact fail_along _
  | ok fields =>
    refine within_bind (within_observe _) fun proof => within_bind (within_observe _) fun refused => ?_
    split
    · exact fail_along _
    · refine within_bind (update_along fun _ => rfl) fun _ => ?_
      refine within_bind ((respects_along moves).retarget sessionId) fun granted => ?_
      split
      · exact fail_along _
      · split
        · exact succeed_along _ _
        · exact commitAndSucceed_along moves _ _

theorem inboundWindow_along (generation : Int) : Within (Along P) (e.inboundWindow generation) := by
  refine within_bind (enter_along _) fun _ => within_bind (within_observe _) fun polls => ?_
  refine within_bind (waitForNewSamePnSession_within (respects_along moves) polls) fun wait => ?_
  cases wait.sessionId with
  | none =>
    dsimp only
    split
    · exact within_pure _
    · exact stop_within enter_along _
  | some sessionId =>
    refine within_bind (within_observe _) fun generation' => ?_
    split
    · exact stop_within enter_along _
    · exact within_bind (certifyInbound_along moves sessionId) fun _ => within_pure _

theorem resetPhase_along : Within (Along P) e.resetPhase := by
  refine within_bind (within_observe _) fun generation => ?_
  refine within_bind (identify_along moves) fun identified => ?_
  split
  · exact refuse_along moves _
  · refine within_bind (promote_along moves) fun promoted => ?_
    split
    · exact refuse_along moves _
    · refine within_bind (update_along fun _ => rfl) fun _ => ?_
      refine within_bind (update_along fun _ => rfl) fun _ => ?_
      refine within_bind (update_along fun _ => rfl) fun _ => ?_
      refine within_bind (sendRestart_along moves) fun refusal => ?_
      cases refusal with
      | some reason => exact refuse_along moves _
      | none =>
        refine within_bind (resetBarrier_within (respects_along moves) enter_along) fun stopped => ?_
        cases stopped with
        | some outcome => exact within_pure _
        | none => exact inboundWindow_along moves generation

theorem certifyCallback_along (route : CallbackRecoveryRoute) (sessionId : String) :
    Within (Along P) (e.certifyCallback route sessionId) := by
  refine within_bind (within_observe _) fun fields => ?_
  cases fields with
  | error reason => exact fail_along _
  | ok fields =>
    refine within_bind (within_observe _) fun arrived => ?_
    split
    · exact fail_along _
    · refine within_bind (within_observe _) fun proof => within_bind (within_observe _) fun refused => ?_
      split
      · exact fail_along _
      · refine within_bind (update_along fun _ => rfl) fun _ => ?_
        refine within_bind ((respects_along moves).retarget sessionId) fun granted => ?_
        split
        · exact fail_along _
        · exact commitAndSucceed_along moves _ _

theorem callbackPhase_along (route : CallbackRecoveryRoute) :
    Within (Along P) (e.callbackPhase route) := by
  have sends : Within (Along P) (e.sendTrigger route) := by
    refine within_bind (enter_along _) fun _ => ?_
    intro s
    exact moves.trigger route s.host
  have waits : Within (Along P) (e.callbackWindow route) := by
    refine within_bind (enter_along _) fun _ => within_bind (within_observe _) fun polls => ?_
    refine within_bind (waitForNewSamePnSession_within (respects_along moves) polls) fun wait => ?_
    cases wait.sessionId with
    | none => exact fail_along _
    | some sessionId =>
      refine within_bind (within_observe _) fun foreign => ?_
      split
      · exact fail_along _
      · exact certifyCallback_along moves route sessionId
  refine within_bind (update_along fun _ => rfl) fun _ => within_bind (update_along fun _ => rfl) fun _ => ?_
  refine within_bind (within_observe _) fun foreign => ?_
  split
  · exact fail_along _
  · refine within_bind sends fun answer => ?_
    cases answer with
    | error error => exact fail_along _
    | ok value =>
      refine within_bind (within_observe _) fun own => ?_
      split
      · exact fail_along _
      · exact waits

theorem asyncVerify_along : Within (Along P) e.asyncVerify := by
  have phases : Within (Along P) e.phases := by
    refine within_bind ?_ fun reset => ?_
    · refine within_bind (onLedger_along _) fun _ => within_ensuring ?_ (onLedger_along _)
      refine within_bind (fun s => moves.drained s.host) fun _ => ?_
      refine within_bind (onLedger_along _) fun _ => within_bind (onLedger_along _) fun _ => ?_
      exact resetPhase_along moves
    · cases reset with
      | some outcome => exact within_pure _
      | none =>
        dsimp only
        split
        · exact fail_along _
        · exact callbackPhase_along moves _
  unfold asyncVerify
  split
  · exact fail_along _
  · refine within_bind (within_observe _) fun polls => within_bind ?_ fun taken => ?_
    · refine within_poll (fun _ => ?_) (respects_along moves).pause _ _
      refine within_bind (within_observe _) fun ledger => ?_
      split
      · exact within_raise _
      · split
        · exact within_raise _
        · split
          · exact within_pure _
          · exact within_bind (update_along fun _ => rfl) fun _ => within_pure _
    · split
      · exact fail_along _
      · exact within_ensuring (within_ensuring phases (respects_along moves).close) (onLedger_along _)

end

/-- An outcome of a run with a route is a failure or comes out of the commit; afterwards only
    the channel is closed and the ledger is left. -/
structure EndsIn (e : Engine attempt ω) (post : State ω → RecoveryVerificationOutcome → Prop) : Prop where
  armed : e.callbackRoute.isSome = true
  fails : ∀ reason s, Returns (fail reason) s post
  commits : ∀ status fields s, Returns (e.commitAndSucceed status fields) s post
  closes : ∀ s outcome, post s outcome → Returns e.closeChannel s fun s' _ => post s' outcome
  leaves : ∀ action s outcome, post s outcome →
    Returns (onLedger action) s fun s' _ => post s' outcome

section
variable {post : State ω → RecoveryVerificationOutcome → Prop} (ends : e.EndsIn post)
include ends

theorem stop_ends (reason : Failure) (s : State ω) :
    Returns (stop reason) s fun s' ended => ended.elim True (post s') :=
  returns_bind (ends.fails reason s) fun _ _ reached => returns_pure reached

theorem refuse_ends (reason : Failure) (s : State ω) :
    Returns (e.refuse reason) s fun s' ended => ended.elim True (post s') :=
  returns_bind returns_any fun s' _ _ => stop_ends ends reason s'

theorem certifyInbound_ends (sessionId : String) (s : State ω) :
    Returns (e.certifyInbound sessionId) s post := by
  refine returns_bind returns_any fun s₁ fields _ => ?_
  cases fields with
  | error reason => exact ends.fails _ _
  | ok fields =>
    refine returns_bind returns_any fun s₂ proof _ => returns_bind returns_any fun s₃ refused _ => ?_
    split
    · exact ends.fails _ _
    · refine returns_bind returns_any fun s₄ _ _ => returns_bind returns_any fun s₅ granted _ => ?_
      split
      · exact ends.fails _ _
      · split
        · rename_i unarmed
          have armed := ends.armed
          rw [Option.isNone_iff_eq_none.mp unarmed] at armed
          cases armed
        · exact ends.commits _ _ _

theorem resetPhase_ends (s : State ω) :
    Returns e.resetPhase s fun s' ended => ended.elim True (post s') := by
  refine returns_bind returns_any fun s₁ generation _ => ?_
  refine returns_bind returns_any fun s₂ identified _ => ?_
  split
  · exact refuse_ends ends _ _
  · refine returns_bind returns_any fun s₃ promoted _ => ?_
    split
    · exact refuse_ends ends _ _
    · refine returns_bind returns_any fun s₄ _ _ => returns_bind returns_any fun s₅ _ _ => ?_
      refine returns_bind returns_any fun s₆ _ _ => returns_bind returns_any fun s₇ refusal _ => ?_
      cases refusal with
      | some reason => exact refuse_ends ends _ _
      | none =>
        have barrier : Returns e.resetBarrier s₇ fun s' ended => ended.elim True (post s') := by
          refine returns_ensuring ?_ ?_
          · refine returns_bind returns_any fun _ _ _ => returns_bind returns_any fun _ _ _ => ?_
            refine returns_bind returns_any fun s₈ observed _ => ?_
            split
            · exact returns_pure trivial
            · exact stop_ends ends _ _
          · intro s' ended reached
            cases ended with
            | none => exact returns_any
            | some outcome => exact ends.closes s' outcome reached
        refine returns_bind barrier fun s₈ stopped reached => ?_
        cases stopped with
        | some outcome => exact returns_pure reached
        | none =>
          refine returns_bind returns_any fun _ _ _ => returns_bind returns_any fun _ _ _ => ?_
          refine returns_bind returns_any fun s₉ wait _ => ?_
          cases wait.sessionId with
          | none =>
            dsimp only
            split
            · exact returns_pure trivial
            · exact stop_ends ends _ _
          | some sessionId =>
            refine returns_bind returns_any fun s' generation' _ => ?_
            split
            · exact stop_ends ends _ _
            · exact returns_bind (certifyInbound_ends ends sessionId s')
                fun _ _ reached => returns_pure reached

theorem callbackPhase_ends (route : CallbackRecoveryRoute) (s : State ω) :
    Returns (e.callbackPhase route) s post := by
  refine returns_bind returns_any fun _ _ _ => returns_bind returns_any fun _ _ _ => ?_
  refine returns_bind returns_any fun s₁ foreign _ => ?_
  split
  · exact ends.fails _ _
  · refine returns_bind returns_any fun s₂ answer _ => ?_
    cases answer with
    | error error => exact ends.fails _ _
    | ok value =>
      refine returns_bind returns_any fun s₃ own _ => ?_
      split
      · exact ends.fails _ _
      · refine returns_bind returns_any fun _ _ _ => returns_bind returns_any fun _ _ _ => ?_
        refine returns_bind returns_any fun s₄ wait _ => ?_
        cases wait.sessionId with
        | none => exact ends.fails _ _
        | some sessionId =>
          refine returns_bind returns_any fun s₅ foreign _ => ?_
          split
          · exact ends.fails _ _
          · refine returns_bind returns_any fun s₆ fields _ => ?_
            cases fields with
            | error reason => exact ends.fails _ _
            | ok fields =>
              refine returns_bind returns_any fun s₇ arrived _ => ?_
              split
              · exact ends.fails _ _
              · refine returns_bind returns_any fun _ _ _ => returns_bind returns_any fun _ _ _ => ?_
                split
                · exact ends.fails _ _
                · refine returns_bind returns_any fun _ _ _ => returns_bind returns_any fun _ _ _ => ?_
                  split
                  · exact ends.fails _ _
                  · exact ends.commits _ _ _

theorem asyncVerify_ends (s : State ω) : Returns e.asyncVerify s post := by
  have phases : ∀ s, Returns e.phases s post := by
    intro s
    have reset : Returns (e.inhibited e.resetPhase) s fun s' ended => ended.elim True (post s') := by
      refine returns_bind returns_any fun s₁ _ _ => returns_ensuring ?_ ?_
      · refine returns_bind returns_any fun _ _ _ => returns_bind returns_any fun _ _ _ => ?_
        exact returns_bind returns_any fun s₂ _ _ => resetPhase_ends ends s₂
      · intro s' ended reached
        cases ended with
        | none => exact returns_any
        | some outcome => exact ends.leaves _ s' outcome reached
    refine returns_bind reset fun s₁ ended reached => ?_
    cases ended with
    | some outcome => exact returns_pure reached
    | none =>
      dsimp only
      split
      · exact ends.fails _ _
      · exact callbackPhase_ends ends _ _
  unfold asyncVerify
  split
  · exact ends.fails _ _
  · refine returns_bind returns_any fun s₁ polls _ => returns_bind returns_any fun s₂ taken _ => ?_
    split
    · exact ends.fails _ _
    · exact returns_ensuring (returns_ensuring (phases s₂) ends.closes) (ends.leaves _)

end

end Engine
end RecoveryVerification
