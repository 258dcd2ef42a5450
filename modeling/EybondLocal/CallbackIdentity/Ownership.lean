import EybondLocal.CallbackIdentity.Transaction
import EybondLocal.CallbackLedger.Lease
import EybondLocal.Library.Execution
import EybondLocal.SessionRegistry.Frames

/-!
What the identity transaction owns when it is over. The transient claim is released by the
`finally` of the attempt, and a local flag says whether it is still transient; the flag is
cleared once the handoff is prepared, while the channel's closing is still to be awaited.
-/
namespace CallbackIdentity
open StripText PythonObject CollectorIdentity OrderedDict SessionRegistry CallbackMatching Execution
open CallbackLedger (FreeOf)

section Transaction
variable (request : Request) (token : String)

def Vacant (reg : Registry) : Prop := reg.claims.get? (attemptId request token) = none

/-- The claim a certified outcome promises: the only one under `handoff_owner`, prepared, on
    the returned socket and of the returned identity. -/
def Prepared (reg : Registry) (outcome : Outcome) : Prop :=
  ∃ claim : Claim,
    (reg.claims.items.filter fun item => item.1 = strip outcome.handoffOwner) =
      [(strip outcome.handoffOwner, claim)] ∧
    claim.handoffPending = true ∧ claim.sessionId = outcome.sessionId ∧
    pnIsSameIdentity claim.collectorPn outcome.collectorPn = true

/-- Once the call is over, it owns a prepared claim exactly when it returned a certified
    outcome, and otherwise neither a claim nor the lease. -/
def OwnsOnlyCertified (s : State) : Prop :=
  match s.phase with
  | .finished (.ok outcome) =>
    if outcome.identityCertified then Prepared s.registry outcome
    else Vacant request token s.registry ∧ FreeOf s.ledger (attemptId request token)
  | .finished (.error _) =>
    Vacant request token s.registry ∧ FreeOf s.ledger (attemptId request token)
  | _ => True

def handingOver (s : State) : Bool :=
  match s.phase with
  | .closing (.ok outcome) => outcome.identityCertified
  | _ => false

def cancelledWhileHandingOver (s : State) : Event → Bool
  | .cancelled => handingOver s
  | _ => false

def takenWhileHandingOver (s : State) : Event → Bool
  | .registry call => handingOver s && s.registry.completes call (attemptId request token)
  | _ => false

theorem attemptId_ne_empty : attemptId request token ≠ "" :=
  strip_ne_empty (by simp [owner]) (by decide : isSpace ':' = false)

theorem cleanText_owner : (PyObj.str (owner request token)).cleanText = attemptId request token :=
  PyObj.cleanText_str _

def HandedOver (reg : Registry) (outcome : Outcome) : Prop :=
  outcome.handoffOwner = owner request token ∧
    ∃ claim, reg.claims.get? (attemptId request token) = some claim ∧
      claim.handoffPending = true ∧ claim.sessionId = outcome.sessionId ∧
      pnIsSameIdentity claim.collectorPn outcome.collectorPn = true ∧
      (strip outcome.collectorPn).length ≤ (strip claim.collectorPn).length

def certifiedOutcome : Except PyError Outcome → Option Outcome
  | .ok outcome => if outcome.identityCertified then some outcome else none
  | .error _ => none

def Settles (reg : Registry) (result : Except PyError Outcome) : Prop :=
  match certifiedOutcome result with
  | some outcome => HandedOver request token reg outcome
  | none => Vacant request token reg

/-- The claim between `claim_session` and the promotion. -/
def transientClaim (session : CallbackSession) : Claim where
  entryId := attemptId request token
  sessionId := session.sessionId

def Inv (s : State) : Prop :=
  match s.phase with
  | .idle | .leaseWait =>
    s.claimed = false ∧ Vacant request token s.registry ∧ FreeOf s.ledger (attemptId request token)
  | .opening | .sending _ | .identifying _ | .polling _ =>
    s.claimed = false ∧ Vacant request token s.registry
  | .reading _ session _ =>
    s.claimed = true ∧
      s.registry.claims.get? (attemptId request token) = some (transientClaim request token session)
  | .closing result => Settles request token s.registry result
  | .finished result =>
    Settles request token s.registry result ∧ FreeOf s.ledger (attemptId request token)

variable {request token}

theorem prepared_of_handedOver {reg : Registry} {outcome : Outcome}
    (handed : HandedOver request token reg outcome) : Prepared reg outcome := by
  obtain ⟨owned, claim, held, pending, session, same, _⟩ := handed
  refine ⟨claim, ?_, pending, session, same⟩
  rw [owned]
  exact Dict.items_of_get? held

theorem inv_owns {s : State} (inv : Inv request token s) : OwnsOnlyCertified request token s := by
  unfold Inv at inv
  unfold OwnsOnlyCertified
  split
  · rename_i outcome eq
    rw [eq] at inv
    obtain ⟨settles, free⟩ := inv
    by_cases certified : outcome.identityCertified = true
    · simp only [Settles, certifiedOutcome, certified, ↓reduceIte] at settles ⊢
      exact prepared_of_handedOver settles
    · simp only [Settles, certifiedOutcome, certified, Bool.false_eq_true, ↓reduceIte] at settles ⊢
      exact ⟨settles, free⟩
  · rename_i error eq
    rw [eq] at inv
    exact inv
  · trivial

theorem leaveLease_inv {s : State} {result : Except PyError Outcome}
    (settles : Settles request token s.registry result) :
    Inv request token (leaveLease request token s result) := by
  have free := CallbackLedger.releaseCausality_freeOf s.ledger (attemptId_ne_empty request token)
  simp only [Inv, leaveLease]
  exact ⟨settles, free⟩

theorem leave_settled {s : State} {result : Except PyError Outcome} (unclaimed : s.claimed = false)
    (settles : Settles request token s.registry result) :
    Inv request token (leave request token s result) := by
  unfold leave
  simp only [unclaimed, Bool.false_eq_true, ↓reduceIte]
  split
  · exact settles
  · exact leaveLease_inv settles

theorem leave_inv {s : State} {result : Except PyError Outcome}
    (uncertified : certifiedOutcome result = none)
    (transient : s.claimed = true ∨ Vacant request token s.registry) :
    Inv request token (leave request token s result) := by
  have settles : ∀ reg, Vacant request token reg → Settles request token reg result := by
    intro reg vacant
    simpa [Settles, uncertified] using vacant
  cases claimed : s.claimed with
  | false => exact leave_settled claimed (settles _ (transient.resolve_left (by simp [claimed])))
  | true =>
    have released : Vacant request token (s.registry.release (.str (owner request token))).registry := by
      simp [Vacant, Registry.release, Registry.returns, attemptId]
    unfold leave
    simp only [claimed, ↓reduceIte]
    split
    · exact settles _ released
    · exact leaveLease_inv (settles _ released)

theorem settles_certified {reg : Registry} {outcome : Outcome}
    (certified : outcome.identityCertified = true) (handed : HandedOver request token reg outcome) :
    Settles request token reg (.ok outcome) := by
  simpa [Settles, certifiedOutcome, certified] using handed

@[simp] theorem certifiedOutcome_failure (result : IdentityResult) :
    certifiedOutcome (failure result) = none := by
  simp [failure, certifiedOutcome, Outcome.identityCertified]

@[simp] theorem certifiedOutcome_refusal (error : PyError) :
    certifiedOutcome (refusal error) = none := by
  unfold refusal
  split
  · simp
  · rfl

@[simp] theorem certifiedOutcome_error (error : PyError) :
    certifiedOutcome (.error error) = none := rfl

theorem endRound_inv {s : State} (reading : Reading) (wait : Wait) (unclaimed : s.claimed = false)
    (vacant : Vacant request token s.registry) :
    Inv request token (endRound request token s reading wait) := by
  unfold endRound
  split
  · exact ⟨unclaimed, vacant⟩
  · split
    · exact leave_inv (by simp [certifiedOutcome, Outcome.identityCertified]) (.inr vacant)
    · exact leave_inv (by simp) (.inr vacant)

theorem takeSession_inv {s : State} (reading : Reading) (baseline : List String)
    {session : CallbackSession} (trimmed : strip session.sessionId = session.sessionId)
    (vacant : Vacant request token s.registry) :
    Inv request token (takeSession request token s reading baseline session) := by
  have absent : s.registry.claims.get? (PyObj.str (owner request token)).cleanText = none := by
    rw [cleanText_owner]
    exact vacant
  unfold takeSession
  dsimp only
  split
  · exact leave_inv (by simp) (.inr vacant)
  · have claims := Registry.claimSession_first reading.inventory.sessions
      (.str (owner request token)) (.str session.sessionId) absent
    cases claims with
    | inl refusal =>
      cases refusal with
      | intro error refused =>
        rw [refused]
        dsimp only [Registry.raises]
        exact leave_inv (by simp) (.inr vacant)
    | inr bound =>
      rw [bound]
      dsimp only [Registry.returns]
      split
      · exact leave_inv rfl (.inl rfl)
      · split
        · exact leave_inv (by simp) (.inl rfl)
        · refine ⟨rfl, ?_⟩
          simp [transientClaim, trimmed, attemptId]

theorem sessionViews_trimmed {s : State} {reading : Reading} {session : CallbackSession}
    (member : session ∈ sessionViews s reading) : strip session.sessionId = session.sessionId := by
  unfold sessionViews at member
  split at member
  · split at member
    · rename_i observed
      exact Registry.normalizedSessions_trimmed observed member
    · cases member
  · cases member

theorem freshViews_mem {wait : Wait} {views : List CallbackSession} {session : CallbackSession}
    (member : session ∈ freshViews request wait views) : session ∈ views := by
  unfold freshViews at member
  split at member
  · exact (List.mem_filter.mp member).1
  · exact (List.mem_filter.mp member).1

theorem preferReadable_mem (first : CallbackSession) (rest : List CallbackSession) :
    preferReadable first rest ∈ first :: rest := by
  unfold preferReadable
  cases found : (first :: rest).find? fun session => (liveWire session).isSome with
  | none => simp
  | some session => simpa using List.mem_of_find?_eq_some found

theorem pollSessions_inv {s : State} (reading : Reading) (wait : Wait) (unclaimed : s.claimed = false)
    (vacant : Vacant request token s.registry) :
    Inv request token (pollSessions request token s reading wait) := by
  have trimmed : ∀ session ∈ freshViews request wait (sessionViews s reading),
      strip session.sessionId = session.sessionId := by
    intro session member
    exact sessionViews_trimmed (freshViews_mem member)
  unfold pollSessions
  split
  · rename_i only fresh
    exact takeSession_inv reading _ (trimmed only (by simp [fresh])) vacant
  · rename_i first rest _ fresh
    refine takeSession_inv reading _ (trimmed _ ?_) vacant
    rw [fresh]
    exact preferReadable_mem first rest
  · dsimp only
    split
    · split
      · exact leave_inv (by simp) (.inr vacant)
      · split
        · exact endRound_inv reading _ unclaimed vacant
        · exact ⟨unclaimed, vacant⟩
    · exact endRound_inv reading _ unclaimed vacant

theorem checkSends_inv {s : State} (reading : Reading) (wait : Wait) (unclaimed : s.claimed = false)
    (vacant : Vacant request token s.registry) :
    Inv request token (checkSends request token s reading wait) := by
  unfold checkSends
  split
  · exact leave_inv (by simp) (.inr vacant)
  · exact pollSessions_inv reading wait unclaimed vacant

theorem takeBaseline_inv {s : State} (reading : Reading) (unclaimed : s.claimed = false)
    (vacant : Vacant request token s.registry) :
    Inv request token (takeBaseline request token s reading) := by
  unfold takeBaseline
  dsimp only
  split
  · exact checkSends_inv reading _ unclaimed vacant
  · exact ⟨unclaimed, vacant⟩

theorem runAttempt_inv {s : State} (reading : Reading) (unclaimed : s.claimed = false)
    (vacant : Vacant request token s.registry) :
    Inv request token (runAttempt request token s reading) := by
  have settles : ∀ result, Settles request token s.registry (failure result) := by
    intro result
    simpa [Settles] using vacant
  unfold runAttempt
  split
  · exact leaveLease_inv (settles _)
  · split
    · exact leaveLease_inv (settles _)
    · split
      · exact takeBaseline_inv reading unclaimed vacant
      · exact ⟨unclaimed, vacant⟩

theorem acquireLease_inv {s : State} (reading : Reading) (unclaimed : s.claimed = false)
    (vacant : Vacant request token s.registry) (free : FreeOf s.ledger (attemptId request token)) :
    Inv request token (acquireLease request token s reading) := by
  unfold acquireLease
  split
  · exact ⟨vacant, free⟩
  · split
    · split
      · exact ⟨by simpa [Settles] using vacant, free⟩
      · exact ⟨unclaimed, vacant, free⟩
    · exact runAttempt_inv reading unclaimed vacant

theorem beginTransaction_inv {s : State} (reading : Reading) (unclaimed : s.claimed = false)
    (vacant : Vacant request token s.registry) (free : FreeOf s.ledger (attemptId request token)) :
    Inv request token (beginTransaction request token s reading) := by
  unfold beginTransaction
  split
  · exact ⟨by simpa [Settles] using vacant, free⟩
  · exact acquireLease_inv reading unclaimed vacant free

/-- Promoting a transient claim and preparing its handoff: each may refuse without a trace,
    and after both the claim carries exactly the certified PN. -/
theorem promote_then_prepare {reg : Registry} {session : CallbackSession} {certified : String}
    (trimmed : strip certified = certified) (nonempty : certified ≠ "")
    (held : reg.claims.get? (attemptId request token) = some (transientClaim request token session)) :
    (∃ error, reg.promoteClaimToFullPn (.str (owner request token)) (.str certified) =
      reg.raises error) ∨
    ∃ promoted : Registry,
      reg.promoteClaimToFullPn (.str (owner request token)) (.str certified) = promoted.returns true ∧
      ((∃ error, promoted.prepareHandoff (.str (owner request token)) (.str certified) =
        promoted.raises error) ∨
      ∃ prepared : Registry,
        promoted.prepareHandoff (.str (owner request token)) (.str certified) =
          prepared.returns true ∧
        prepared.claims.get? (attemptId request token) =
          some { transientClaim request token session with
            collectorPn := certified, handoffPending := true }) := by
  have ours := cleanText_owner request token
  have normalized : normalizePn (.str certified) = certified := by simp [normalizePn, trimmed]
  have declared : normalizePn (.str certified) ≠ "" := by rwa [normalized]
  have stored : preferFullPn (preferFullPn "" certified) certified = certified := by
    simp [preferFullPn, trimmed, nonempty]
  rw [← ours] at held
  rcases Registry.promoteClaimToFullPn_held held declared with refused | promoted
  · exact Or.inl refused
  · refine Or.inr ⟨_, promoted, ?_⟩
    have bearing := Registry.get?_write reg (PyObj.str (owner request token)).cleanText
      (PyObj.str (owner request token)).cleanText
      { transientClaim request token session with
        collectorPn := preferFullPn (transientClaim request token session).collectorPn
          (normalizePn (.str certified)) }
    rw [if_pos rfl] at bearing
    rcases Registry.prepareHandoff_held bearing declared with refused | prepared
    · exact Or.inl refused
    · refine Or.inr ⟨_, prepared, ?_⟩
      rw [Registry.get?_write, ours, if_pos rfl, normalized]
      simp only [transientClaim, stored]

/-- Reconciling, promoting and certifying: every refusal still finds the claim transient, and
    the certified outcome leaves it prepared under the returned identity. -/
theorem certify_inv {s : State} (reading : Reading) (baseline : List String)
    {session : CallbackSession} (wire : Wire) (fullPn identitySource : PyObj)
    (claimed : s.claimed = true)
    (held : s.registry.claims.get? (attemptId request token) =
      some (transientClaim request token session)) :
    Inv request token
      (certify request token s reading baseline session wire fullPn identitySource) := by
  have named : owner request token ≠ "" := by
    intro empty
    exact attemptId_ne_empty request token (by simp [attemptId, empty])
  unfold certify
  dsimp only
  generalize matchCallbackAnswer _ _ _ _ _ _ _ _ = verdict
  split
  · exact leave_inv (by simp) (.inl claimed)
  · rename_i read
    have nonempty : preferFullPn verdict.collectorPn fullPn.cleanText ≠ "" :=
      preferFullPn_nonempty (.inr (by rwa [PyObj.strip_cleanText]))
    have trimmed := strip_preferFullPn verdict.collectorPn fullPn.cleanText
    generalize preferFullPn verdict.collectorPn fullPn.cleanText = certified at nonempty trimmed ⊢
    split
    · exact leave_inv (by simp) (.inl claimed)
    · split
      · exact leave_inv (by simp) (.inl claimed)
      · rcases promote_then_prepare trimmed nonempty held with ⟨error, refused⟩ | ⟨promoted, ok, next⟩
        · rw [refused]
          exact leave_inv (by simp) (.inl claimed)
        · rw [ok]
          dsimp only [Registry.returns]
          rcases next with ⟨error, refused⟩ | ⟨prepared, done, carries⟩
          · rw [refused]
            exact leave_inv (by simp) (.inl claimed)
          · rw [done]
            refine leave_settled rfl (settles_certified ?_ ⟨rfl, _, carries, rfl, rfl, ?_, ?_⟩)
            · simp [Outcome.identityCertified, nonempty, named]
            · exact pnIsSameIdentity_self (by rwa [trimmed])
            · exact Nat.le_refl _

section Others
variable {reg : Registry} {call : Call}

theorem vacant_step (other : call.operation.owner ≠ some (attemptId request token))
    (vacant : Vacant request token reg) : Vacant request token (SessionRegistry.step reg call) := by
  have touched : Touched reg call _ _ := step_touched other
  unfold Vacant at vacant ⊢
  generalize (SessionRegistry.step reg call).claims.get? (attemptId request token) = after at touched
  cases touched with
  | kept => exact vacant
  | enriched claim pn held same => simp [held] at vacant
  | completed claim held prepared completes => rfl

theorem transient_step (other : call.operation.owner ≠ some (attemptId request token))
    {session : CallbackSession}
    (held : reg.claims.get? (attemptId request token) = some (transientClaim request token session)) :
    (SessionRegistry.step reg call).claims.get? (attemptId request token) =
      some (transientClaim request token session) := by
  have touched : Touched reg call _ _ := step_touched other
  generalize (SessionRegistry.step reg call).claims.get? (attemptId request token) = after at touched
  cases touched with
  | kept => exact held
  | enriched claim pn found same =>
    rw [held] at found
    cases found
    simp [transientClaim, pnIsSameIdentity] at same
  | completed claim found prepared completes =>
    rw [held] at found
    cases found
    cases prepared

theorem handedOver_step (other : call.operation.owner ≠ some (attemptId request token))
    {outcome : Outcome} (quiet : reg.completes call (attemptId request token) = false)
    (handed : HandedOver request token reg outcome) :
    HandedOver request token (SessionRegistry.step reg call) outcome := by
  obtain ⟨owned, claim, held, pending, session, same, shorter⟩ := handed
  have touched : Touched reg call _ _ := step_touched other
  refine ⟨owned, ?_⟩
  generalize (SessionRegistry.step reg call).claims.get? (attemptId request token) = after at touched
  cases touched with
  | kept => exact ⟨claim, held, pending, session, same, shorter⟩
  | enriched found pn at_owner enriching =>
    rw [held] at at_owner
    cases at_owner
    obtain ⟨still, longer⟩ := preferFullPn_still_completes same shorter enriching
    refine ⟨_, rfl, pending, session, ?_, ?_⟩
    · dsimp only
      exact still
    · dsimp only
      exact longer
  | completed found at_owner prepared completes =>
    rw [quiet] at completes
    cases completes

theorem settles_step (other : call.operation.owner ≠ some (attemptId request token))
    {result : Except PyError Outcome}
    (quiet : (certifiedOutcome result).isSome = true →
      reg.completes call (attemptId request token) = false)
    (settles : Settles request token reg result) :
    Settles request token (SessionRegistry.step reg call) result := by
  unfold Settles at settles ⊢
  cases certified : certifiedOutcome result with
  | none =>
    simp only [certified] at settles ⊢
    exact vacant_step other settles
  | some outcome =>
    simp only [certified] at settles ⊢
    exact handedOver_step other (quiet (by simp [certified])) settles

end Others

theorem handingOver_closing {s : State} {result : Except PyError Outcome}
    (phase : s.phase = .closing result) : handingOver s = (certifiedOutcome result).isSome := by
  unfold handingOver
  rw [phase]
  cases result with
  | error error => rfl
  | ok outcome =>
    dsimp only [certifiedOutcome]
    cases outcome.identityCertified <;> rfl

theorem registry_inv {s : State} {call : Call} (inv : Inv request token s)
    (running : ∀ result, s.phase ≠ .finished result)
    (other : call.operation.owner ≠ some (attemptId request token))
    (quiet : takenWhileHandingOver request token s (.registry call) = false) :
    Inv request token { s with registry := SessionRegistry.step s.registry call } := by
  unfold Inv at inv ⊢
  cases phase : s.phase with
  | idle | leaseWait =>
    simp only [phase] at inv ⊢
    obtain ⟨unclaimed, vacant, free⟩ := inv
    exact ⟨unclaimed, vacant_step other vacant, free⟩
  | opening | sending | identifying | polling =>
    simp only [phase] at inv ⊢
    obtain ⟨unclaimed, vacant⟩ := inv
    exact ⟨unclaimed, vacant_step other vacant⟩
  | reading baseline session wire =>
    simp only [phase] at inv ⊢
    obtain ⟨claimed, held⟩ := inv
    exact ⟨claimed, transient_step other held⟩
  | closing result =>
    simp only [phase] at inv ⊢
    refine settles_step other ?_ inv
    intro certified
    rw [takenWhileHandingOver, handingOver_closing phase, certified, Bool.true_and] at quiet
    exact quiet
  | finished result => exact absurd phase (running result)

theorem ledger_inv {s : State} {action : CallbackLedger.Action} (inv : Inv request token s)
    (other : action.leaseOf ≠ some (attemptId request token)) :
    Inv request token { s with ledger := CallbackLedger.step s.ledger action } := by
  have free_step : FreeOf s.ledger (attemptId request token) →
      FreeOf (CallbackLedger.step s.ledger action) (attemptId request token) :=
    CallbackLedger.step_freeOf (attemptId_ne_empty request token) other
  unfold Inv at inv ⊢
  cases phase : s.phase with
  | idle | leaseWait =>
    simp only [phase] at inv ⊢
    obtain ⟨unclaimed, vacant, free⟩ := inv
    exact ⟨unclaimed, vacant, free_step free⟩
  | finished result =>
    simp only [phase] at inv ⊢
    obtain ⟨settles, free⟩ := inv
    exact ⟨settles, free_step free⟩
  | _ => simpa only [phase] using inv

-- what a resumed call does is known from its own lemma here, not from its body
attribute [local irreducible] beginTransaction certify in
theorem resume_inv {s : State} {event : Event} (inv : Inv request token s)
    (admitted : cancelledWhileHandingOver s event = false) :
    Inv request token (resume request token s event) := by
  unfold Inv at inv
  cases event with
  | registry call => exact inv
  | ledger action => exact inv
  | begin reading =>
    dsimp only [resume]
    split
    · rename_i phase
      simp only [phase] at inv
      exact beginTransaction_inv reading inv.1 inv.2.1 inv.2.2
    · exact inv
  | slept reading =>
    dsimp only [resume]
    split
    · rename_i phase
      simp only [phase] at inv
      exact acquireLease_inv reading inv.1 inv.2.1 inv.2.2
    · rename_i phase
      simp only [phase] at inv
      exact pollSessions_inv reading _ inv.1 inv.2
    · exact inv
  | opened reading =>
    dsimp only [resume]
    split
    · rename_i phase
      simp only [phase] at inv
      exact takeBaseline_inv reading inv.1 inv.2
    · exact inv
  | sent reading =>
    dsimp only [resume]
    split
    · rename_i phase
      simp only [phase] at inv
      exact checkSends_inv reading _ inv.1 inv.2
    · exact inv
  | identified pn reading =>
    dsimp only [resume]
    split
    · rename_i phase
      simp only [phase] at inv
      split
      · exact leave_inv (by simp) (.inr inv.2)
      · exact endRound_inv reading _ inv.1 inv.2
    · exact inv
  | read fullPn identitySource reading =>
    dsimp only [resume]
    split
    · rename_i phase
      simp only [phase] at inv
      exact certify_inv reading _ _ fullPn identitySource inv.1 inv.2
    · exact inv
  | closed =>
    dsimp only [resume]
    split
    · rename_i phase
      simp only [phase] at inv
      exact leaveLease_inv inv
    · exact inv
  | failed reading =>
    dsimp only [resume]
    split
    · rename_i phase
      simp only [phase] at inv
      exact takeBaseline_inv reading inv.1 inv.2
    · rename_i phase
      simp only [phase] at inv
      exact checkSends_inv reading _ inv.1 inv.2
    · rename_i phase
      simp only [phase] at inv
      exact leave_inv (by simp) (.inl inv.1)
    · rename_i phase
      simp only [phase] at inv
      exact leaveLease_inv inv
    · exact inv
  | cancelled =>
    dsimp only [resume]
    cases phase : s.phase with
    | idle | finished =>
      unfold Inv
      simpa only [phase] using inv
    | leaseWait =>
      simp only [phase] at inv ⊢
      exact ⟨inv.2.1, inv.2.2⟩
    | opening | sending | identifying | polling =>
      simp only [phase] at inv ⊢
      exact leave_inv rfl (.inr inv.2)
    | reading baseline session wire =>
      simp only [phase] at inv ⊢
      exact leave_inv rfl (.inl inv.1)
    | closing result =>
      simp only [phase] at inv ⊢
      rw [cancelledWhileHandingOver, handingOver_closing phase] at admitted
      have uncertified : certifiedOutcome result = none := by simpa using admitted
      rw [Settles, uncertified] at inv
      exact leaveLease_inv inv

/-- Every step keeps what the transaction holds, except the one cancellation. -/
theorem step_inv {s : State} {event : Event} (inv : Inv request token s)
    (quiet : takenWhileHandingOver request token s event = false)
    (admitted : cancelledWhileHandingOver s event = false) :
    Inv request token (step request token s event) := by
  unfold step
  split
  · exact inv
  · rename_i running
    split
    · exact inv
    · rename_i other
      exact registry_inv inv running other quiet
  · split
    · exact inv
    · rename_i other
      exact ledger_inv inv other
  · exact resume_inv inv admitted

theorem cancelled_handover_leaks {s : State} (inv : Inv request token s)
    (handing : handingOver s = true) :
    ¬ OwnsOnlyCertified request token (step request token s .cancelled) := by
  unfold handingOver at handing
  split at handing
  · rename_i outcome phase
    simp only [Inv, phase, Settles, certifiedOutcome, handing, ↓reduceIte] at inv
    obtain ⟨_, claim, held, _⟩ := inv
    simp only [step, phase, resume, leaveLease, OwnsOnlyCertified, Vacant, held]
    simp
  · cases handing

def initial (registry : Registry) (ledger : CallbackLedger.Ledger) : State :=
  { registry := registry, ledger := ledger }

end Transaction

/-- From any registry and ledger that do not know the fresh owner id, and as long as nobody
    else completes the attempt's handoff before it is returned, a call owns a claim only with a
    certified outcome exactly when it is not cancelled while it hands over. -/
theorem transaction_owns_only_certified_iff (request : Request) (token : String)
    {registry : Registry} {ledger : CallbackLedger.Ledger}
    (fresh : Vacant request token registry) (unknown : FreeOf ledger (attemptId request token))
    {events : List Event}
    (quiet : EveryStep (step request token)
      (fun s event => takenWhileHandingOver request token s event = false)
      (initial registry ledger) events) :
    EveryState (step request token) (OwnsOnlyCertified request token) (initial registry ledger)
        events ↔
      EveryStep (step request token) (fun s event => cancelledWhileHandingOver s event = false)
        (initial registry ledger) events := by
  have start : Inv request token (initial registry ledger) := ⟨rfl, fresh, unknown⟩
  have exact_step : ∀ s event, Inv request token s →
      takenWhileHandingOver request token s event = false →
      OwnsOnlyCertified request token (step request token s event) →
      cancelledWhileHandingOver s event = false := by
    intro s event inv _ owns
    cases event with
    | cancelled =>
      by_contra handing
      exact cancelled_handover_leaks inv (by simpa [cancelledWhileHandingOver] using handing) owns
    | _ => rfl
  have preserved : ∀ s event, Inv request token s →
      takenWhileHandingOver request token s event = false →
      cancelledWhileHandingOver s event = false → Inv request token (step request token s event) := by
    intro s event inv untaken admitted
    exact step_inv inv untaken admitted
  have supports : ∀ s, Inv request token s → OwnsOnlyCertified request token s := by
    intro s inv
    exact inv_owns inv
  exact everyState_iff_everyStep_of_guard supports preserved exact_step start quiet

def dialIn : RawSession where
  sessionId := .str "listener-8899-1"
  peerIp := .str "192.168.1.50"
  listenerPort := .ok 8899
  protocolShape := .str "eybond_framed"
  sessionProtocol := .str "eybond_framed"
  collectorPn := .str "E5000020000001"
  collectorIdentitySource := .str "fc2_parameter_2"
  state := .str "routed_framed"

def dialedIn : Reading where
  inventory := ⟨[dialIn], by simp [dialIn]⟩

def manualRequest : Request where
  tcpPort := 8899
  targetIp := "192.168.1.50"

def answeredCall : List Event :=
  [.begin {}, .opened {}, .ledger (.enter 0 "callback_identity:1f"), .sent {}, .slept dialedIn,
    .read (.str "E5000020000001") (.str "fc2_parameter_2") dialedIn]

theorem answered_call_owns_its_claim :
    EveryState (step manualRequest "1f") (OwnsOnlyCertified manualRequest "1f")
      (initial .initial {}) (answeredCall ++ [.closed]) := by
  have fresh : Vacant manualRequest "1f" .initial := rfl
  have unknown : FreeOf {} (attemptId manualRequest "1f") := ⟨by decide, rfl⟩
  exact (transaction_owns_only_certified_iff manualRequest "1f" fresh unknown
    (by decide +kernel)).mpr (by decide +kernel)

def raisesCancelled : Phase → Bool
  | .finished (.error error) => error.kind == .cancelledError
  | _ => false

theorem cancelled_close_keeps_claim :
    ¬ ∀ (request : Request) (token : String) (registry : Registry) (ledger : CallbackLedger.Ledger)
      (events : List Event), Vacant request token registry →
      FreeOf ledger (attemptId request token) →
      OwnsOnlyCertified request token
        (run (step request token) (initial registry ledger) events) := by
  intro owns
  have nothing := owns manualRequest "1f" .initial {} (answeredCall ++ [.cancelled]) rfl
    ⟨by decide, rfl⟩
  have raised : raisesCancelled (run (step manualRequest "1f") (initial .initial {})
      (answeredCall ++ [.cancelled])).phase = true := by decide +kernel
  have kept : ((run (step manualRequest "1f") (initial .initial {})
      (answeredCall ++ [.cancelled])).registry.claims.get? (attemptId manualRequest "1f")).isSome =
        true := by decide +kernel
  unfold OwnsOnlyCertified at nothing
  unfold raisesCancelled at raised
  split at raised
  · rename_i error phase
    rw [phase] at nothing
    rw [nothing.1] at kept
    cases kept
  · cases raised

end CallbackIdentity
