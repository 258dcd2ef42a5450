import EybondLocal.SessionRegistry.Effects

/-!
What a call leaves to everybody else. A call is made for one owner, and the claims of the
others come through it untouched but for two operations that look for a claim by its
identity: the reconciliation of a PN and the completion of a handoff.
-/
namespace SessionRegistry
open StripText PythonObject CollectorIdentity OrderedDict

def Registry.completes (reg : Registry) (call : Call) (owner : String) : Bool :=
  match call.operation with
  | .completeHandoff fullPn entryId =>
    ((reg.preparedClaim (normalizePn fullPn) entryId.cleanText).map Prod.fst) == some owner
  | _ => false

inductive Touched (reg : Registry) (call : Call) (owner : String) : Option Claim → Prop where
  | kept : Touched reg call owner (reg.claims.get? owner)
  | enriched (claim : Claim) (pn : String) (held : reg.claims.get? owner = some claim)
      (same : pnIsSameIdentity claim.collectorPn pn = true) :
      Touched reg call owner (some { claim with collectorPn := preferFullPn claim.collectorPn pn })
  | completed (claim : Claim) (held : reg.claims.get? owner = some claim)
      (prepared : claim.handoffPending = true) (completes : reg.completes call owner = true) :
      Touched reg call owner none

namespace Registry
variable {reg : Registry} {owner : String}

theorem get?_write_other {written : String} (claim : Claim) (other : written ≠ owner) :
    (reg.write written claim).claims.get? owner = reg.claims.get? owner := by
  rw [get?_write, if_neg (Ne.symm other)]

theorem get?_erase_other {removed : String} (other : removed ≠ owner) :
    (reg.claims.erase removed).get? owner = reg.claims.get? owner := by
  rw [Dict.get?_erase, if_neg (Ne.symm other)]

theorem reconcileIdentity_touched (inventory : List RawSession) (sessionId fullPn : PyObj) :
    Touched reg ⟨inventory, .reconcileIdentity sessionId fullPn⟩ owner
      ((reg.reconcileIdentity sessionId fullPn).registry.claims.get? owner) := by
  dsimp only [reconcileIdentity]
  split
  · exact .kept
  · split
    · exact .kept
    · rename_i written claim found
      obtain ⟨held, accepted⟩ := Dict.firstItem_some found
      simp only [Bool.and_eq_true] at accepted
      dsimp only [returns]
      by_cases ours : written = owner
      · subst ours
        rw [get?_write, if_pos rfl]
        exact .enriched claim _ held accepted.1.2
      · rw [get?_write_other _ ours]
        exact .kept

theorem completeHandoff_touched (inventory : List RawSession) (fullPn : PyObj) {entryId : PyObj}
    (other : entryId.cleanText ≠ owner) :
    Touched reg ⟨inventory, .completeHandoff fullPn entryId⟩ owner
      ((reg.completeHandoff fullPn entryId).registry.claims.get? owner) := by
  dsimp only [completeHandoff]
  split
  · exact .kept
  · split
    · exact .kept
    · rename_i source prepared found
      split
      · exact .kept
      · split
        · exact .kept
        · obtain ⟨held, accepted⟩ := Dict.firstItem_some found
          simp only [Bool.and_eq_true] at accepted
          dsimp only [returns]
          by_cases ours : source = owner
          · subst ours
            rw [Dict.get?_erase, if_pos rfl]
            exact .completed prepared held accepted.1.1.1 (by simp [completes, found])
          · rw [Dict.get?_erase, if_neg (Ne.symm ours), get?_write_other _ other]
            exact .kept

end Registry

/-- Apart from the two operations that search by identity, a call made for somebody else keeps
    an owner's claim. -/
theorem step_kept {reg : Registry} {call : Call} {owner : String}
    (other : call.operation.owner ≠ some owner)
    (notReconcile : ∀ sessionId fullPn, call.operation ≠ .reconcileIdentity sessionId fullPn)
    (notComplete : ∀ fullPn entryId, call.operation ≠ .completeHandoff fullPn entryId) :
    (step reg call).claims.get? owner = reg.claims.get? owner := by
  obtain ⟨inventory, operation⟩ := call
  cases operation with
  | reconcileIdentity sessionId fullPn => exact absurd rfl (notReconcile _ _)
  | completeHandoff fullPn entryId => exact absurd rfl (notComplete _ _)
  | release entryId => exact Registry.get?_erase_other fun h => other (congrArg some h)
  | _ =>
    dsimp only [Operation.owner] at other
    dsimp only [step, Registry.claim, Registry.recordClaim, Registry.claimIdentity,
      Registry.claimSession, Registry.promoteClaimToFullPn, Registry.pinOwnerClaimToSession,
      Registry.retargetClaimToReconnectedSession, Registry.prepareHandoff]
    repeat' split
    all_goals first
      | rfl
      | exact Registry.get?_write_other _ fun h => other (congrArg some h)

/-- A call made for somebody else keeps an owner's claim, completes its PN, or completes the
    handoff it has prepared. -/
theorem step_touched {reg : Registry} {call : Call} {owner : String}
    (other : call.operation.owner ≠ some owner) :
    Touched reg call owner ((step reg call).claims.get? owner) := by
  obtain ⟨inventory, operation⟩ := call
  cases operation with
  | reconcileIdentity sessionId fullPn =>
    dsimp only [step]
    exact Registry.reconcileIdentity_touched _ _ _
  | completeHandoff fullPn entryId =>
    dsimp only [step]
    exact Registry.completeHandoff_touched _ _ (fun h => other (congrArg some h))
  | _ =>
    rw [step_kept other (by simp) (by simp)]
    exact .kept

def Operation.writesOnly : Operation → Bool
  | .promoteClaimToFullPn _ _ => true
  | .retargetClaimToReconnectedSession _ _ => true
  | .prepareHandoff _ _ => true
  | _ => false

theorem step_held {reg : Registry} (call : Call) {owner : String}
    (writes : call.operation.writesOnly = true) (held : (reg.claims.get? owner).isSome = true) :
    ((step reg call).claims.get? owner).isSome = true := by
  have written : ∀ name claim, ((reg.write name claim).claims.get? owner).isSome = true := by
    intro name claim
    rw [Registry.get?_write]
    split
    · rfl
    · exact held
  obtain ⟨inventory, operation⟩ := call
  cases operation with
  | promoteClaimToFullPn entryId fullPn =>
    dsimp only [step, Registry.promoteClaimToFullPn]
    repeat' split
    all_goals first
      | exact held
      | exact written _ _
  | retargetClaimToReconnectedSession entryId sessionId =>
    dsimp only [step, Registry.retargetClaimToReconnectedSession]
    repeat' split
    all_goals first
      | exact held
      | exact written _ _
  | prepareHandoff attemptOwner fullPn =>
    dsimp only [step, Registry.prepareHandoff]
    repeat' split
    all_goals first
      | exact held
      | exact written _ _
  | _ => cases writes

namespace Registry
variable {reg : Registry}

/-- A first `claim_session` refuses without a trace or binds exactly the named socket. -/
theorem claimSession_first (inventory : List RawSession) (entryId sessionId : PyObj)
    (vacant : reg.claims.get? entryId.cleanText = none) :
    (∃ error, reg.claimSession inventory entryId sessionId = reg.raises error) ∨
      reg.claimSession inventory entryId sessionId =
        (reg.write entryId.cleanText
          { entryId := entryId.cleanText, sessionId := sessionId.cleanText }).returns () := by
  dsimp only [claimSession]
  split
  · exact Or.inl ⟨_, rfl⟩
  · split
    · exact Or.inl ⟨_, rfl⟩
    · split
      · exact Or.inl ⟨_, rfl⟩
      · split
        · exact Or.inl ⟨_, rfl⟩
        · split
          · exact Or.inl ⟨_, rfl⟩
          · rw [vacant]
            exact Or.inr rfl

theorem promoteClaimToFullPn_held {entryId fullPn : PyObj} {claim : Claim}
    (held : reg.claims.get? entryId.cleanText = some claim) (nonempty : normalizePn fullPn ≠ "") :
    (∃ error, reg.promoteClaimToFullPn entryId fullPn = reg.raises error) ∨
      reg.promoteClaimToFullPn entryId fullPn =
        (reg.write entryId.cleanText
          { claim with collectorPn := preferFullPn claim.collectorPn (normalizePn fullPn) }).returns
          true := by
  simp only [promoteClaimToFullPn, held, nonempty, ↓reduceIte]
  split
  · exact Or.inl ⟨_, rfl⟩
  · split
    · exact Or.inl ⟨_, rfl⟩
    · exact Or.inr rfl

theorem prepareHandoff_held {attemptOwner fullPn : PyObj} {claim : Claim}
    (held : reg.claims.get? attemptOwner.cleanText = some claim)
    (nonempty : normalizePn fullPn ≠ "") :
    (∃ error, reg.prepareHandoff attemptOwner fullPn = reg.raises error) ∨
      reg.prepareHandoff attemptOwner fullPn =
        (reg.write attemptOwner.cleanText
          { claim with
            collectorPn := preferFullPn claim.collectorPn (normalizePn fullPn)
            handoffPending := true }).returns true := by
  simp only [prepareHandoff, held, nonempty, ↓reduceIte]
  split
  · exact Or.inl ⟨_, rfl⟩
  · split
    · exact Or.inl ⟨_, rfl⟩
    · exact Or.inr rfl

theorem prepareHandoff_granted {attemptOwner fullPn : PyObj}
    (granted : (reg.prepareHandoff attemptOwner fullPn).result = .ok true) {claim : Claim}
    (held : (reg.prepareHandoff attemptOwner fullPn).registry.claims.get? attemptOwner.cleanText =
      some claim) : claim.handoffPending = true := by
  cases existing : reg.claims.get? attemptOwner.cleanText with
  | none => simp [prepareHandoff, existing, returns] at granted
  | some previous =>
    by_cases empty : normalizePn fullPn = ""
    · simp [prepareHandoff, existing, empty, raises] at granted
    · rcases prepareHandoff_held existing empty with ⟨error, refused⟩ | written
      · rw [refused] at granted
        cases granted
      · rw [written, returns, get?_write, if_pos rfl] at held
        cases held
        rfl

theorem normalize_trimmed {raw : RawSession} {session : CallbackSession}
    (normalized : normalize raw = .ok session) : strip session.sessionId = session.sessionId := by
  unfold normalize at normalized
  cases peer : raw.peerPort with
  | error error => simp [peer, bind, Except.bind] at normalized
  | ok peerPort =>
    cases listener : raw.listenerPort with
    | error error => simp [peer, listener, bind, Except.bind] at normalized
    | ok listenerPort =>
      simp only [peer, listener, bind, Except.bind, pure, Except.pure, Except.ok.injEq] at normalized
      rw [← normalized]
      simp

@[simp] theorem attachOwner_sessionId (reg : Registry) (session : CallbackSession) :
    (reg.attachOwner session).sessionId = session.sessionId := by
  unfold attachOwner
  dsimp only
  split <;> rfl

theorem normalizedSessions_trimmed {inventory : List RawSession} {sessions : List CallbackSession}
    (observed : reg.normalizedSessions inventory = .ok sessions) {session : CallbackSession}
    (member : session ∈ sessions) : strip session.sessionId = session.sessionId := by
  unfold normalizedSessions at observed
  cases normalized : inventory.mapM normalize with
  | error error => simp [normalized, bind, Except.bind] at observed
  | ok all =>
    simp only [normalized, bind, Except.bind, pure, Except.pure, Except.ok.injEq] at observed
    rw [← observed] at member
    obtain ⟨original, kept, rfl⟩ := List.mem_map.mp member
    rw [attachOwner_sessionId]
    obtain ⟨raw, _, eq⟩ := mapM_ok_mem normalized original (List.mem_filter.mp kept).1
    exact normalize_trimmed eq

end Registry
end SessionRegistry
