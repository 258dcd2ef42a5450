import EybondLocal.SessionRegistry.SingleOwner
import EybondLocal.SessionRegistry.Frames
import EybondLocal.SessionRegistry.Handle

/-!
The life of one claim. From its creation to its removal a claim's PN only ever grows at its
end, and a call that raises has written nothing: in every operation the checks come before
the one write.
-/
namespace SessionRegistry
open StripText PythonObject CollectorIdentity OrderedDict PrefixIdentity Execution

def Outcome.forget {α : Type} (outcome : Outcome α) : Outcome Unit :=
  ⟨outcome.result.map fun _ => (), outcome.registry⟩

def Registry.outcome (reg : Registry) (call : Call) : Outcome Unit :=
  match call.operation with
  | .claim entryId collectorPn sessionId sessionProtocol =>
    (reg.claim call.inventory entryId collectorPn sessionId sessionProtocol).forget
  | .claimIdentity entryId collectorPn => (reg.claimIdentity entryId collectorPn).forget
  | .claimSession entryId sessionId => (reg.claimSession call.inventory entryId sessionId).forget
  | .promoteClaimToFullPn entryId fullPn => (reg.promoteClaimToFullPn entryId fullPn).forget
  | .pinOwnerClaimToSession entryId sessionId =>
    (reg.pinOwnerClaimToSession call.inventory entryId sessionId).forget
  | .retargetClaimToReconnectedSession entryId sessionId =>
    (reg.retargetClaimToReconnectedSession call.inventory entryId sessionId).forget
  | .reconcileIdentity sessionId fullPn => (reg.reconcileIdentity sessionId fullPn).forget
  | .prepareHandoff attemptOwner fullPn => (reg.prepareHandoff attemptOwner fullPn).forget
  | .completeHandoff fullPn entryId => (reg.completeHandoff fullPn entryId).forget
  | .release entryId => (reg.release entryId).forget

/-- A public method that writes claims: one operation, or the pin of the current socket,
    which chooses the socket itself. -/
inductive Writer where
  | operation (operation : Operation)
  | pinOwnerClaimToCurrentObservedSession (entryId : PyObj)

structure WriterCall where
  inventory : List RawSession
  writer : Writer

def perform (reg : Registry) (call : WriterCall) : Outcome Unit :=
  match call.writer with
  | .operation operation => reg.outcome ⟨call.inventory, operation⟩
  | .pinOwnerClaimToCurrentObservedSession entryId =>
    (reg.pinOwnerClaimToCurrentObservedSession call.inventory entryId).forget

def performStep (reg : Registry) (call : WriterCall) : Registry := (perform reg call).registry

def Reachable (reg : Registry) : Prop := ∃ calls, run performStep Registry.initial calls = reg

def removes (reg : Registry) (call : WriterCall) (owner : String) : Bool :=
  match call.writer with
  | .operation (.release entryId) => entryId.cleanText == owner
  | .operation (.completeHandoff fullPn entryId) =>
    reg.completes ⟨call.inventory, .completeHandoff fullPn entryId⟩ owner &&
      (match (reg.completeHandoff fullPn entryId).result with
        | .ok moved => moved
        | .error _ => false)
  | _ => false

theorem outcome_registry (reg : Registry) (call : Call) :
    (reg.outcome call).registry = step reg call := by
  obtain ⟨inventory, operation⟩ := call
  cases operation <;> simp only [Registry.outcome, step, Outcome.forget]

/-- How a call that removes nothing ends: it raises or returns on the claims it found, or it
    returns after its one write. -/
inductive Orderly {α : Type} (reg : Registry) : Outcome α → Prop where
  | raised (error : PyError) : Orderly reg (reg.raises error)
  | returned (value : α) : Orderly reg (reg.returns value)
  | wrote (owner : String) (claim : Claim) (value : α) :
      Orderly reg ((reg.write owner claim).returns value)

namespace Registry
variable (reg : Registry) (inventory : List RawSession)

theorem recordClaim_orderly (owner pn sid protocol : String) (result : Option CallbackSession) :
    Orderly reg (reg.recordClaim owner pn sid protocol result) := by
  dsimp only [recordClaim]
  split
  · exact .wrote _ _ _
  · split
    · exact .raised _
    · exact .wrote _ _ _

theorem claim_orderly (entryId collectorPn sessionId sessionProtocol : PyObj) :
    Orderly reg (reg.claim inventory entryId collectorPn sessionId sessionProtocol) := by
  dsimp only [claim]
  split
  · exact .raised _
  · split
    · exact .raised _
    · exact reg.recordClaim_orderly _ _ _ _ _

theorem claimIdentity_orderly (entryId collectorPn : PyObj) :
    Orderly reg (reg.claimIdentity entryId collectorPn) := by
  dsimp only [claimIdentity]
  repeat' split
  all_goals first | exact .raised _ | exact .wrote _ _ _

theorem claimSession_orderly (entryId sessionId : PyObj) :
    Orderly reg (reg.claimSession inventory entryId sessionId) := by
  dsimp only [claimSession]
  repeat' split
  all_goals first | exact .raised _ | exact .wrote _ _ _

theorem promoteClaimToFullPn_orderly (entryId fullPn : PyObj) :
    Orderly reg (reg.promoteClaimToFullPn entryId fullPn) := by
  dsimp only [promoteClaimToFullPn]
  repeat' split
  all_goals first | exact .raised _ | exact .returned _ | exact .wrote _ _ _

theorem pinOwnerClaimToSession_orderly (entryId sessionId : PyObj) :
    Orderly reg (reg.pinOwnerClaimToSession inventory entryId sessionId) := by
  dsimp only [pinOwnerClaimToSession]
  repeat' split
  all_goals first | exact .raised _ | exact .returned _ | exact .wrote _ _ _

theorem retargetClaimToReconnectedSession_orderly (entryId sessionId : PyObj) :
    Orderly reg (reg.retargetClaimToReconnectedSession inventory entryId sessionId) := by
  dsimp only [retargetClaimToReconnectedSession]
  repeat' split
  all_goals first | exact .raised _ | exact .returned _ | exact .wrote _ _ _

theorem reconcileIdentity_orderly (sessionId fullPn : PyObj) :
    Orderly reg (reg.reconcileIdentity sessionId fullPn) := by
  dsimp only [reconcileIdentity]
  repeat' split
  all_goals first | exact .returned _ | exact .wrote _ _ _

theorem prepareHandoff_orderly (attemptOwner fullPn : PyObj) :
    Orderly reg (reg.prepareHandoff attemptOwner fullPn) := by
  dsimp only [prepareHandoff]
  repeat' split
  all_goals first | exact .raised _ | exact .returned _ | exact .wrote _ _ _

theorem normalizedSessions_ok_iff (other : Registry) :
    (∃ sessions, reg.normalizedSessions inventory = .ok sessions) ↔
      ∃ sessions, other.normalizedSessions inventory = .ok sessions := by
  simp only [normalizedSessions]
  cases inventory.mapM normalize with
  | error error => simp [bind, Except.bind]
  | ok sessions => simp [bind, Except.bind, pure, Except.pure]

theorem sessionForEntry_readable {owner : String} {found : Option CallbackSession}
    (named : strip (reg.claimedIdentity owner) ≠ "")
    (current : reg.sessionForEntry inventory owner = .ok found) :
    ∃ sessions, reg.normalizedSessions inventory = .ok sessions := by
  simp only [sessionForEntry, named, ↓reduceIte] at current
  cases read : reg.normalizedSessions inventory with
  | error error => simp [read, Except.map] at current
  | ok sessions => exact ⟨sessions, rfl⟩

theorem sessionForOwnedSession_returns (owner sid : String)
    (readable : ∃ sessions, reg.normalizedSessions inventory = .ok sessions) :
    ∃ found, reg.sessionForOwnedSession inventory owner sid = .ok found := by
  obtain ⟨sessions, read⟩ := readable
  unfold sessionForOwnedSession
  split
  · exact ⟨none, rfl⟩
  · rw [read]
    exact ⟨_, rfl⟩

theorem confirmPinned_orderly (owner sid : String) {pinned : Outcome Bool}
    (readable : ∃ sessions, reg.normalizedSessions inventory = .ok sessions)
    (orderly : Orderly reg pinned) : Orderly reg (confirmPinned inventory owner sid pinned) := by
  have checked : ∀ other : Registry,
      ∃ found, other.sessionForOwnedSession inventory owner sid = .ok found := by
    intro other
    exact other.sessionForOwnedSession_returns inventory _ _
      ((reg.normalizedSessions_ok_iff inventory other).mp readable)
  cases orderly with
  | raised error => exact .raised error
  | returned value =>
    obtain ⟨found, eq⟩ := checked reg
    simp only [confirmPinned, returns, eq]
    cases value with
    | false => exact .returned ""
    | true =>
      cases found with
      | none => exact .returned ""
      | some session =>
        dsimp only
        split
        · exact .returned sid
        · exact .returned ""
  | wrote written claim value =>
    obtain ⟨found, eq⟩ := checked (reg.write written claim)
    simp only [confirmPinned, returns, eq]
    cases value with
    | false => exact .wrote _ _ ""
    | true =>
      cases found with
      | none => exact .wrote _ _ ""
      | some session =>
        dsimp only
        split
        · exact .wrote _ _ sid
        · exact .wrote _ _ ""

theorem pinOwnerClaimToCurrentObservedSession_orderly (valid : reg.Valid) (entryId : PyObj) :
    Orderly reg (reg.pinOwnerClaimToCurrentObservedSession inventory entryId) := by
  dsimp only [pinOwnerClaimToCurrentObservedSession]
  split
  · exact .returned _
  rename_i bearing
  split
  · exact .raised _
  · exact .returned _
  rename_i session current
  split
  · exact .returned _
  apply reg.confirmPinned_orderly
  · obtain ⟨claim, held, eq⟩ := claim_of_claimedIdentity bearing
    have named : strip (reg.claimedIdentity entryId.cleanText) ≠ "" := by
      rw [← eq, valid.trimmed _ claim held, eq]
      exact bearing
    exact reg.sessionForEntry_readable inventory named current
  · exact reg.pinOwnerClaimToSession_orderly inventory _ _

theorem completeHandoff_raises {fullPn entryId : PyObj} {error : PyError}
    (raised : (reg.completeHandoff fullPn entryId).result = .error error) :
    (reg.completeHandoff fullPn entryId).registry = reg := by
  dsimp only [completeHandoff] at raised ⊢
  split
  · rfl
  · rename_i args
    rw [if_neg args] at raised
    split
    · rfl
    · rename_i found
      rw [found] at raised
      dsimp only at raised
      split
      · rfl
      · rename_i named
        rw [if_neg named] at raised
        split
        · rfl
        · rename_i same
          rw [if_neg same] at raised
          cases raised

end Registry

theorem Orderly.forget {α : Type} {reg : Registry} {outcome : Outcome α}
    (orderly : Orderly reg outcome) : Orderly reg outcome.forget := by
  cases orderly with
  | raised error => exact .raised error
  | returned value => exact .returned ()
  | wrote owner claim value => exact .wrote owner claim ()

/-- Apart from the two methods that remove a claim, every writer is orderly. -/
theorem perform_cases {reg : Registry} (valid : reg.Valid) (call : WriterCall) :
    (∃ fullPn entryId, call.writer = .operation (.completeHandoff fullPn entryId)) ∨
      (∃ entryId, call.writer = .operation (.release entryId)) ∨ Orderly reg (perform reg call) := by
  obtain ⟨inventory, writer⟩ := call
  cases writer with
  | operation operation =>
    simp only [perform, Registry.outcome]
    cases operation with
    | completeHandoff fullPn entryId => exact Or.inl ⟨fullPn, entryId, rfl⟩
    | release entryId => exact Or.inr (Or.inl ⟨entryId, rfl⟩)
    | claim entryId collectorPn sessionId sessionProtocol =>
      exact Or.inr (Or.inr (reg.claim_orderly inventory _ _ _ _).forget)
    | claimIdentity entryId collectorPn =>
      exact Or.inr (Or.inr (reg.claimIdentity_orderly _ _).forget)
    | claimSession entryId sessionId =>
      exact Or.inr (Or.inr (reg.claimSession_orderly inventory _ _).forget)
    | promoteClaimToFullPn entryId fullPn =>
      exact Or.inr (Or.inr (reg.promoteClaimToFullPn_orderly _ _).forget)
    | pinOwnerClaimToSession entryId sessionId =>
      exact Or.inr (Or.inr (reg.pinOwnerClaimToSession_orderly inventory _ _).forget)
    | retargetClaimToReconnectedSession entryId sessionId =>
      exact Or.inr (Or.inr (reg.retargetClaimToReconnectedSession_orderly inventory _ _).forget)
    | reconcileIdentity sessionId fullPn =>
      exact Or.inr (Or.inr (reg.reconcileIdentity_orderly _ _).forget)
    | prepareHandoff attemptOwner fullPn =>
      exact Or.inr (Or.inr (reg.prepareHandoff_orderly _ _).forget)
  | pinOwnerClaimToCurrentObservedSession entryId =>
    have orderly := reg.pinOwnerClaimToCurrentObservedSession_orderly inventory valid entryId
    exact Or.inr (Or.inr orderly.forget)

theorem perform_raises {reg : Registry} (valid : reg.Valid) (call : WriterCall) {error : PyError}
    (raised : (perform reg call).result = .error error) : (perform reg call).registry = reg := by
  rcases perform_cases valid call with ⟨fullPn, entryId, eq⟩ | ⟨entryId, eq⟩ | orderly
  · simp only [perform, eq, Registry.outcome, Outcome.forget] at raised ⊢
    cases result : (reg.completeHandoff fullPn entryId).result with
    | error error => exact reg.completeHandoff_raises result
    | ok moved => simp [result, Except.map] at raised
  · simp only [perform, eq, Registry.outcome, Outcome.forget] at raised
    cases raised
  · generalize perform reg call = outcome at orderly raised
    cases orderly with
    | raised error => rfl
    | returned value => rfl
    | wrote owner claim value => cases raised

def Extends (earlier later : Claim) : Prop :=
  startsWith later.collectorPn earlier.collectorPn = true

theorem extends_refl (claim : Claim) : Extends claim claim :=
  (startsWith_iff _ _).mpr List.prefix_rfl

theorem extends_trans {a b c : Claim} (ab : Extends a b) (bc : Extends b c) : Extends a c := by
  unfold Extends at *
  rw [startsWith_iff] at *
  exact ab.trans bc

theorem startsWith_preferFullPn {left right : String} (same : pnIsSameIdentity left right = true) :
    startsWith (preferFullPn left right) (strip left) = true ∧
      startsWith (preferFullPn left right) (strip right) = true := by
  obtain ⟨nonempty, nonemptyOther⟩ := pnIsSameIdentity_nonempty same
  rw [pnIsSameIdentity_iff] at same
  rw [startsWith_iff, startsWith_iff]
  rcases preferFullPn_cases nonempty nonemptyOther with ⟨eq, shorter⟩ | ⟨eq, longer⟩
  · rw [eq]
    exact ⟨List.prefix_rfl, compatible_shorter_begins (compatible_symm same)
      (by simpa [String.length_toList] using shorter)⟩
  · rw [eq]
    exact ⟨compatible_shorter_begins same (by simpa [String.length_toList] using longer),
      List.prefix_rfl⟩

theorem Registry.PnEffect.extends {reg : Registry} {call : Call} {owner pn : String}
    (effect : reg.PnEffect call owner pn)
    (trimmed : strip (reg.claimedIdentity owner) = reg.claimedIdentity owner) :
    startsWith pn (reg.claimedIdentity owner) = true := by
  cases effect with
  | kept => exact (startsWith_iff _ _).mpr List.prefix_rfl
  | enriched pn same =>
    have grown := (startsWith_preferFullPn same).1
    rwa [trimmed] at grown
  | declared pn full vacant => simp [vacant, startsWith]
  | socket session vacant => simp [vacant, startsWith]

theorem Registry.Effect.extends {reg reg' : Registry} {call : Call} (effect : reg.Effect call reg')
    (valid : reg.Valid) {owner : String} {earlier later : Claim}
    (before : reg.claims.get? owner = some earlier) (after : reg'.claims.get? owner = some later) :
    Extends earlier later := by
  have current := Registry.claimedIdentity_of_get? before
  have trimmed := valid.trimmed owner earlier before
  cases effect with
  | unchanged =>
    cases before.symm.trans after
    exact extends_refl earlier
  | @wrote written claim named stored pn session =>
    rw [Registry.get?_write] at after
    split at after
    · rename_i ours
      subst ours
      cases after
      rw [← current] at trimmed
      rw [Extends, ← current]
      exact pn.extends trimmed
    · cases before.symm.trans after
      exact extends_refl earlier
  | @moved source toId prepared settled distinct named held bearing identity same session =>
    rw [Dict.get?_erase] at after
    split at after
    · cases after
    rw [Dict.get?_set] at after
    split at after
    · rename_i ours
      subst ours
      cases after
      rw [Extends, identity, current]
      by_cases vacant : earlier.collectorPn = ""
      · simp [vacant, startsWith]
      · rw [current] at same
        have own := same vacant
        rw [pnIsSameIdentity_comm] at own
        have grown := (startsWith_preferFullPn own).2
        rwa [trimmed] at grown
    · cases before.symm.trans after
      exact extends_refl earlier
  | removed erased =>
    rw [Dict.get?_erase] at after
    split at after
    · cases after
    · cases before.symm.trans after
      exact extends_refl earlier

theorem confirmPinned_registry (inventory : List RawSession) (owner sid : String)
    (pinned : Outcome Bool) :
    (Registry.confirmPinned inventory owner sid pinned).registry = pinned.registry := by
  unfold Registry.confirmPinned
  repeat' split
  all_goals rfl

theorem pinOwnerClaimToCurrentObservedSession_effect {reg : Registry} (valid : reg.Valid)
    (inventory : List RawSession) (entryId : PyObj) :
    ∃ call, reg.Effect call
      (reg.pinOwnerClaimToCurrentObservedSession inventory entryId).registry := by
  dsimp only [Registry.pinOwnerClaimToCurrentObservedSession]
  have idle : ∃ call, reg.Effect call reg := ⟨⟨[], .release entryId⟩, .unchanged⟩
  split
  · exact idle
  split
  · exact idle
  · exact idle
  split
  · exact idle
  rw [confirmPinned_registry]
  exact ⟨_, Registry.pinOwnerClaimToSession_effect valid inventory _ _⟩

theorem performStep_effect {reg : Registry} (valid : reg.Valid) (call : WriterCall) :
    ∃ operation, reg.Effect operation (performStep reg call) := by
  obtain ⟨inventory, writer⟩ := call
  cases writer with
  | operation operation =>
    refine ⟨⟨inventory, operation⟩, ?_⟩
    simp only [performStep, perform, outcome_registry]
    exact step_effect valid _
  | pinOwnerClaimToCurrentObservedSession entryId =>
    exact pinOwnerClaimToCurrentObservedSession_effect valid inventory entryId

theorem completeHandoff_survives {reg : Registry} {inventory : List RawSession}
    {fullPn entryId : PyObj} {owner : String} {claim : Claim}
    (held : reg.claims.get? owner = some claim)
    (kept : removes reg ⟨inventory, .operation (.completeHandoff fullPn entryId)⟩ owner = false) :
    ∃ later, (reg.completeHandoff fullPn entryId).registry.claims.get? owner = some later := by
  have unchanged : ∃ later, reg.claims.get? owner = some later := ⟨claim, held⟩
  simp only [removes, Registry.completes, Registry.completeHandoff] at kept ⊢
  split
  · exact unchanged
  rename_i args
  rw [if_neg args] at kept
  split
  · exact unchanged
  rename_i source prepared found
  rw [found] at kept
  dsimp only at kept
  split
  · exact unchanged
  rename_i named
  rw [if_neg named] at kept
  split
  · exact unchanged
  rename_i same
  rw [if_neg same] at kept
  have other : owner ≠ source := by
    intro ours
    simp [Registry.returns, ours] at kept
  dsimp only [Registry.returns]
  rw [Dict.get?_erase, if_neg other, Registry.get?_write]
  split
  · exact ⟨_, rfl⟩
  · exact unchanged

theorem performStep_survives {reg : Registry} (valid : reg.Valid) {call : WriterCall}
    {owner : String} {claim : Claim} (held : reg.claims.get? owner = some claim)
    (kept : removes reg call owner = false) :
    ∃ later, (performStep reg call).claims.get? owner = some later := by
  obtain ⟨inventory, writer⟩ := call
  rcases perform_cases valid ⟨inventory, writer⟩ with ⟨fullPn, entryId, rfl⟩ | ⟨entryId, rfl⟩ | orderly
  · simp only [performStep, perform, Registry.outcome, Outcome.forget]
    exact completeHandoff_survives held kept
  · simp only [removes, beq_eq_false_iff_ne, ne_eq] at kept
    simp only [performStep, perform, Registry.outcome, Outcome.forget, Registry.release,
      Registry.returns]
    rw [Dict.get?_erase, if_neg (Ne.symm kept)]
    exact ⟨claim, held⟩
  · unfold performStep
    generalize perform reg ⟨inventory, writer⟩ = outcome at orderly
    cases orderly with
    | raised error => exact ⟨claim, held⟩
    | returned value => exact ⟨claim, held⟩
    | wrote written stored value =>
      dsimp only [Registry.returns]
      rw [Registry.get?_write]
      split
      · exact ⟨stored, rfl⟩
      · exact ⟨claim, held⟩

theorem performStep_valid {reg : Registry} (valid : reg.Valid) (call : WriterCall) :
    (performStep reg call).Valid := by
  obtain ⟨operation, effect⟩ := performStep_effect valid call
  exact effect.valid valid

theorem run_valid {reg : Registry} (valid : reg.Valid) (calls : List WriterCall) :
    (run performStep reg calls).Valid := by
  induction calls generalizing reg with
  | nil => exact valid
  | cons call rest ih => exact ih (performStep_valid valid call)

theorem Reachable.valid {reg : Registry} (reachable : Reachable reg) : reg.Valid := by
  obtain ⟨calls, rfl⟩ := reachable
  exact run_valid Registry.initial_valid calls

theorem run_extends {reg : Registry} (valid : reg.Valid) {owner : String} {claim : Claim}
    (held : reg.claims.get? owner = some claim) {calls : List WriterCall}
    (kept : EveryStep performStep (fun reg call => removes reg call owner = false) reg calls) :
    ∃ later, (run performStep reg calls).claims.get? owner = some later ∧ Extends claim later := by
  induction calls generalizing reg claim with
  | nil => exact ⟨claim, held, extends_refl claim⟩
  | cons call rest ih =>
    obtain ⟨now, remaining⟩ := kept
    obtain ⟨next, still⟩ := performStep_survives valid held now
    obtain ⟨operation, effect⟩ := performStep_effect valid call
    obtain ⟨later, final, grown⟩ := ih (performStep_valid valid call) still remaining
    exact ⟨later, final, extends_trans (effect.extends valid held still) grown⟩

/-- Until it is released or handed off, an owner's claim stays in the registry and its PN only
    grows at its end; and a call that raises leaves the whole registry as it was. -/
theorem claim_grows_and_refusals_are_atomic {reg : Registry} (reachable : Reachable reg) :
    (∀ owner claim calls, reg.claims.get? owner = some claim →
      EveryStep performStep (fun reg call => removes reg call owner = false) reg calls →
      ∃ later, (run performStep reg calls).claims.get? owner = some later ∧
        startsWith later.collectorPn claim.collectorPn = true) ∧
    ∀ call error, (perform reg call).result = .error error → (perform reg call).registry = reg := by
  constructor
  · intro owner claim calls held kept
    exact run_extends reachable.valid held kept
  · intro call error raised
    exact perform_raises reachable.valid call raised

def shortOwner : Registry :=
  run performStep Registry.initial
    [⟨[], .operation (.claimIdentity (.str "entry_a") (.str "E500002000"))⟩]

/-- The full PN enriches the claim; a foreign one is refused. -/
theorem short_owner_grows_or_refuses :
    (∃ later, (run performStep shortOwner
        [⟨[], .operation (.promoteClaimToFullPn (.str "entry_a") (.str "E5000020000001"))⟩]).claims.get?
          "entry_a" = some later ∧ startsWith later.collectorPn "E500002000" = true) ∧
      (perform shortOwner
        ⟨[], .operation (.claimIdentity (.str "entry_a") (.str "F600003000"))⟩).registry =
          shortOwner := by
  have held : shortOwner.claims.get? "entry_a" =
      some { entryId := "entry_a", collectorPn := "E500002000" } := by decide +kernel
  have kept : EveryStep performStep (fun reg call => removes reg call "entry_a" = false) shortOwner
      [⟨[], .operation (.promoteClaimToFullPn (.str "entry_a") (.str "E5000020000001"))⟩] :=
    ⟨rfl, trivial⟩
  have refused : (perform shortOwner
      ⟨[], .operation (.claimIdentity (.str "entry_a") (.str "F600003000"))⟩).result =
        .error (valueError "claim_identity_mismatch:E500002000:F600003000") := by decide +kernel
  have stable := @claim_grows_and_refusals_are_atomic shortOwner ⟨_, rfl⟩
  exact ⟨stable.1 _ _ _ held kept, stable.2 _ _ refused⟩

end SessionRegistry
