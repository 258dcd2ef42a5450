import EybondLocal.SessionRegistry.Operations

/-!
What one call can do to the claims. Every operation leaves the registry alone, writes
one owner's claim, moves a prepared claim to its entry, or removes a claim; what is
written carries the evidence the operation had for it. The invariants of whole runs
are read off these effects and never off the operations themselves.
-/
namespace SessionRegistry
open StripText PythonObject CollectorIdentity OrderedDict

namespace Registry

structure Valid (reg : Registry) : Prop where
  named : ∀ owner claim, reg.claims.get? owner = some claim → owner ≠ ""
  trimmed : ∀ owner claim, reg.claims.get? owner = some claim →
    strip claim.collectorPn = claim.collectorPn

theorem initial_valid : Registry.initial.Valid :=
  ⟨by simp [Registry.initial], by simp [Registry.initial]⟩

theorem claimedIdentity_of_get? {reg : Registry} {owner : String} {claim : Claim}
    (h : reg.claims.get? owner = some claim) : reg.claimedIdentity owner = claim.collectorPn := by
  simp [claimedIdentity, h]

theorem claimedIdentity_of_none {reg : Registry} {owner : String}
    (h : reg.claims.get? owner = none) : reg.claimedIdentity owner = "" := by
  simp [claimedIdentity, h]

theorem claimedSessionId_of_get? {reg : Registry} {owner : String} {claim : Claim}
    (h : reg.claims.get? owner = some claim) : reg.claimedSessionId owner = claim.sessionId := by
  simp [claimedSessionId, h]

theorem claimedSessionId_of_none {reg : Registry} {owner : String}
    (h : reg.claims.get? owner = none) : reg.claimedSessionId owner = "" := by
  simp [claimedSessionId, h]

@[simp] theorem get?_write (reg : Registry) (owner other : String) (claim : Claim) :
    (reg.write owner claim).claims.get? other =
      if other = owner then some claim else reg.claims.get? other := by
  simp [write]

theorem Valid.write {reg : Registry} (valid : reg.Valid) {owner : String} {claim : Claim}
    (named : owner ≠ "") (trimmed : strip claim.collectorPn = claim.collectorPn) :
    (reg.write owner claim).Valid := by
  constructor
  · intro other held h
    rw [get?_write] at h
    split at h
    · rename_i eq
      exact eq ▸ named
    · exact valid.named other held h
  · intro other held h
    rw [get?_write] at h
    split at h
    · cases h
      exact trimmed
    · exact valid.trimmed other held h

theorem Valid.erase {reg : Registry} (valid : reg.Valid) (owner : String) :
    (⟨reg.claims.erase owner⟩ : Registry).Valid := by
  constructor
  · intro other held h
    rw [Dict.get?_erase] at h
    split at h
    · cases h
    · exact valid.named other held h
  · intro other held h
    rw [Dict.get?_erase] at h
    split at h
    · cases h
    · exact valid.trimmed other held h

/-- The single-owner guard lets a PN through exactly when nobody else holds its identity
    ahead of the owner; for an owner without a PN that is nobody at all. -/
theorem ownedByOther_none_of_vacant {reg : Registry} {owner pn : String}
    (vacant : reg.claimedIdentity owner = "") (free : reg.ownedByOther owner pn = none) :
    reg.ownerForPn pn = "" := by
  by_contra owned
  have ours : reg.ownerForPn pn = owner := by
    by_contra ne
    simp [ownedByOther, owned, ne] at free
  unfold ownerForPn at owned ours
  split at owned
  · exact owned rfl
  · rename_i hpn
    simp only [hpn, ↓reduceIte] at ours
    cases found : reg.claims.firstItem fun _ claim =>
        claim.collectorPn != "" && pnIsSameIdentity claim.collectorPn pn with
    | none => simp [found] at owned
    | some item =>
      obtain ⟨key, claim⟩ := item
      have eq : key = owner := by simpa [found] using ours
      obtain ⟨held, accepted⟩ := Dict.firstItem_some found
      subst eq
      rw [claimedIdentity_of_get? held] at vacant
      simp [vacant] at accepted

theorem ownerForPn_eq_empty_iff {reg : Registry} (valid : reg.Valid) {pn : String}
    (nonempty : pn ≠ "") :
    reg.ownerForPn pn = "" ↔ ∀ owner claim, reg.claims.get? owner = some claim →
      claim.collectorPn ≠ "" → pnIsSameIdentity claim.collectorPn pn = false := by
  simp only [ownerForPn, nonempty, ↓reduceIte]
  cases found : reg.claims.firstItem fun _ claim =>
      claim.collectorPn != "" && pnIsSameIdentity claim.collectorPn pn with
  | none =>
    have none := (Dict.firstItem_eq_none_iff _ _).mp found
    simp only [Option.map_none, Option.getD_none, true_iff]
    intro owner claim held bearing
    have := none owner claim held
    simpa [bearing] using this
  | some item =>
    obtain ⟨key, claim⟩ := item
    obtain ⟨held, accepted⟩ := Dict.firstItem_some found
    have named := valid.named key claim held
    simp only [Option.map_some, Option.getD_some, named, false_iff, not_forall]
    simp only [Bool.and_eq_true, bne_iff_ne, ne_eq] at accepted
    exact ⟨key, claim, held, accepted.1, by simp [accepted.2]⟩

/-- The socket whose PN `claim` takes over without consulting `owner_for_pn`: the call declares
    no PN and the owner's claim has none, so the single-owner guard had nothing to look up. -/
def takenSocket (reg : Registry) (call : Call) : Option CallbackSession :=
  match call.operation with
  | .claim entryId collectorPn sessionId sessionProtocol =>
    if entryId.cleanText ≠ "" ∧ normalizePn collectorPn = "" ∧
        reg.claimedIdentity entryId.cleanText = "" then
      match reg.resolveClaim call.inventory entryId.cleanText "" sessionId.cleanText
        sessionProtocol with
      | .error _ => none
      | .ok target => target.matched.filter fun session => strip session.collectorPn ≠ ""
    else none
  | _ => none

/-- The owner and the socket id that `claim`, `pin_owner_claim_to_session` and
    `retarget_claim_to_reconnected_session` bind without asking who else holds that id. -/
def boundSession (reg : Registry) (call : Call) : Option (String × String) :=
  match call.operation with
  | .claim entryId collectorPn sessionId sessionProtocol =>
    if entryId.cleanText ≠ "" ∧ reg.claimedSessionId entryId.cleanText = "" then
      match reg.resolveClaim call.inventory entryId.cleanText (normalizePn collectorPn)
        sessionId.cleanText sessionProtocol with
      | .error _ => none
      | .ok target => if target.sid = "" then none else some (entryId.cleanText, target.sid)
    else none
  | .pinOwnerClaimToSession entryId sessionId =>
    match reg.claims.get? entryId.cleanText with
    | none => none
    | some claim =>
      if sessionId.cleanText = "" ∨ claim.sessionId = sessionId.cleanText ∨
          strip claim.collectorPn = "" then none
      else match reg.pinnable call.inventory entryId.cleanText sessionId.cleanText claim with
      | .ok true => some (entryId.cleanText, sessionId.cleanText)
      | _ => none
  | .retargetClaimToReconnectedSession entryId sessionId =>
    match reg.claims.get? entryId.cleanText with
    | none => none
    | some claim =>
      if claim.collectorPn = "" ∨ sessionId.cleanText = "" then none
      else match reg.retargetable call.inventory entryId.cleanText sessionId.cleanText claim with
      | .ok true => some (entryId.cleanText, sessionId.cleanText)
      | _ => none
  | _ => none

inductive PnEffect (reg : Registry) (call : Call) (owner : String) : String → Prop where
  | kept : PnEffect reg call owner (reg.claimedIdentity owner)
  | enriched (pn : String) (same : pnIsSameIdentity (reg.claimedIdentity owner) pn = true) :
      PnEffect reg call owner (preferFullPn (reg.claimedIdentity owner) pn)
  | declared (pn full : String) (vacant : reg.claimedIdentity owner = "") (nonempty : pn ≠ "")
      (free : reg.ownerForPn pn = "")
      (completes : full = pn ∨ ∃ seen, pnIsSameIdentity pn seen = true ∧ full = preferFullPn pn seen) :
      PnEffect reg call owner full
  | socket (session : CallbackSession) (vacant : reg.claimedIdentity owner = "")
      (taken : reg.takenSocket call = some session) :
      PnEffect reg call owner (strip session.collectorPn)

inductive SessionEffect (reg : Registry) (call : Call) (owner : String) : String → Prop where
  | kept : SessionEffect reg call owner (reg.claimedSessionId owner)
  | guarded (sid : String) (free : reg.sessionHeldByOther owner sid = none) :
      SessionEffect reg call owner sid
  | bound (sid : String) (unguarded : reg.boundSession call = some (owner, sid)) :
      SessionEffect reg call owner sid

inductive Effect (reg : Registry) (call : Call) : Registry → Prop where
  | unchanged : Effect reg call reg
  | wrote {owner : String} {claim : Claim} (named : owner ≠ "")
      (trimmed : strip claim.collectorPn = claim.collectorPn)
      (pn : PnEffect reg call owner claim.collectorPn)
      (session : SessionEffect reg call owner claim.sessionId) :
      Effect reg call (reg.write owner claim)
  | moved {source toId : String} {prepared settled : Claim}
      (distinct : source ≠ toId) (named : toId ≠ "")
      (held : reg.claims.get? source = some prepared) (bearing : prepared.collectorPn ≠ "")
      (identity : settled.collectorPn = preferFullPn prepared.collectorPn (reg.claimedIdentity toId))
      (same : reg.claimedIdentity toId ≠ "" →
        pnIsSameIdentity (reg.claimedIdentity toId) prepared.collectorPn = true)
      (session : settled.sessionId = prepared.sessionId) :
      Effect reg call ⟨(reg.claims.set toId settled).erase source⟩
  | removed (owner : String) : Effect reg call ⟨reg.claims.erase owner⟩

theorem derivedPn_trimmed {pn : String} (trimmed : strip pn = pn)
    (matched : Option CallbackSession) : strip (derivedPn pn matched) = derivedPn pn matched := by
  unfold derivedPn
  split
  · exact trimmed
  · split
    · exact trimmed
    · simp

theorem resolveClaim_ok {reg : Registry} {inventory : List RawSession} {owner pn sid : String}
    {sessionProtocol : PyObj} {target : ClaimTarget}
    (resolved : reg.resolveClaim inventory owner pn sid sessionProtocol = .ok target) :
    reg.ownedByOther owner pn = none ∧
      rebindRefusal (reg.claims.get? owner) pn sid = none ∧
      contradictsSocket (reg.claimedIdentity owner) pn target.matched = none ∧
      target.pn = derivedPn pn target.matched ∧
      target.sid = derivedSession sid target.matched := by
  unfold resolveClaim at resolved
  split at resolved
  · cases resolved
  · rename_i free
    split at resolved
    · cases resolved
    · rename_i rebind
      split at resolved
      · cases resolved
      · dsimp only at resolved
        split at resolved
        · cases resolved
        · rename_i agrees
          cases resolved
          exact ⟨free, rebind, agrees, rfl, rfl⟩

theorem contradictsSocket_none {known pn : String} {session : CallbackSession}
    (agrees : contradictsSocket known pn (some session) = none)
    (identified : session.collectorPn ≠ "") :
    (pn ≠ "" → pnIsSameIdentity pn session.collectorPn = true) ∧
      (known ≠ "" → pnIsSameIdentity known session.collectorPn = true) := by
  simp only [contradictsSocket, identified, ↓reduceIte] at agrees
  split at agrees
  · cases agrees
  · rename_i declared
    split at agrees
    · cases agrees
    · rename_i stored
      exact ⟨by simpa using declared, by simpa using stored⟩

theorem pnEffect_kept {reg : Registry} {call : Call} {owner pn : String}
    (current : reg.claimedIdentity owner = pn) : PnEffect reg call owner pn :=
  current ▸ PnEffect.kept

theorem sessionEffect_kept {reg : Registry} {call : Call} {owner sid : String}
    (current : reg.claimedSessionId owner = sid) : SessionEffect reg call owner sid :=
  current ▸ SessionEffect.kept

theorem resolveClaim_pn {reg : Registry} {inventory : List RawSession}
    {entryId collectorPn sessionId sessionProtocol : PyObj} {target : ClaimTarget}
    (named : entryId.cleanText ≠ "")
    (resolved : reg.resolveClaim inventory entryId.cleanText (normalizePn collectorPn)
      sessionId.cleanText sessionProtocol = .ok target)
    (vacant : reg.claimedIdentity entryId.cleanText = "") :
    PnEffect reg ⟨inventory, .claim entryId collectorPn sessionId sessionProtocol⟩
      entryId.cleanText target.pn := by
  obtain ⟨free, _, agrees, eq, _⟩ := resolveClaim_ok resolved
  rw [eq]
  by_cases undeclared : normalizePn collectorPn = ""
  · rw [undeclared] at resolved ⊢
    cases found : target.matched with
    | none => exact pnEffect_kept vacant
    | some session =>
      by_cases blank : strip session.collectorPn = ""
      · have derived : derivedPn "" (some session) = "" := by
          simp only [derivedPn]
          split
          · rfl
          · rw [preferFullPn_empty_left, blank]
        rw [derived]
        exact pnEffect_kept vacant
      · have identified : session.collectorPn ≠ "" := fun h => blank (by simp [h])
        have derived : derivedPn "" (some session) = strip session.collectorPn := by
          simp [derivedPn, identified]
        rw [derived]
        exact .socket session vacant (by simp [takenSocket, named, undeclared, vacant, resolved,
          found, blank])
  · have unowned := ownedByOther_none_of_vacant vacant free
    refine .declared _ _ vacant undeclared unowned ?_
    cases found : target.matched with
    | none => exact Or.inl rfl
    | some session =>
      by_cases identified : session.collectorPn = ""
      · exact Or.inl (by simp [derivedPn, identified])
      · rw [found] at agrees
        have same := (contradictsSocket_none agrees identified).1 undeclared
        exact Or.inr ⟨session.collectorPn, same, by simp [derivedPn, identified]⟩

/-- Enriching an owner's PN by one of the same identity, or filling an empty one that passed
    the single-owner guard. -/
theorem pnEffect_promote {reg : Registry} {call : Call} {owner pn : String} {claim : Claim}
    (held : reg.claims.get? owner = some claim) (trimmed : strip pn = pn) (nonempty : pn ≠ "")
    (free : reg.ownedByOther owner pn = none)
    (same : ¬ (claim.collectorPn ≠ "" ∧ pnIsSameIdentity claim.collectorPn pn = false)) :
    PnEffect reg call owner (preferFullPn claim.collectorPn pn) := by
  have current := claimedIdentity_of_get? held
  by_cases vacant : claim.collectorPn = ""
  · rw [vacant, preferFullPn_empty_left, trimmed]
    rw [vacant] at current
    exact .declared pn pn current nonempty (ownedByOther_none_of_vacant current free) (Or.inl rfl)
  · rw [← current]
    refine .enriched pn ?_
    rw [current]
    simpa [vacant] using same

theorem recordClaim_effect {reg : Registry} {call : Call} (valid : reg.Valid)
    {owner pn sid : String} (protocol : String) (result : Option CallbackSession)
    (named : owner ≠ "") (trimmed : strip pn = pn)
    (derived : reg.claimedIdentity owner = "" → PnEffect reg call owner pn)
    (binds : reg.claimedSessionId owner = "" → SessionEffect reg call owner sid) :
    Effect reg call (reg.recordClaim owner pn sid protocol result).registry := by
  unfold recordClaim
  split
  · rename_i absent
    exact .wrote named trimmed (derived (claimedIdentity_of_none absent))
      (binds (claimedSessionId_of_none absent))
  · rename_i existing held
    have current := claimedIdentity_of_get? held
    split
    · exact .unchanged
    · rename_i gate
      refine .wrote named (by simp) ?_ ?_
      · by_cases vacant : existing.collectorPn = ""
        · simpa [vacant, trimmed] using derived (current.trans vacant)
        · by_cases undeclared : pn = ""
          · have kept : preferFullPn existing.collectorPn pn = reg.claimedIdentity owner := by
              rw [undeclared, preferFullPn_empty_right, current]
              exact valid.trimmed owner existing held
            simpa only [kept] using PnEffect.kept
          · simp only [← current] at gate vacant ⊢
            exact .enriched pn (by simpa [undeclared, vacant] using gate)
      · dsimp only
        split
        · rename_i unbound
          exact binds ((claimedSessionId_of_get? held).trans unbound)
        · exact sessionEffect_kept (claimedSessionId_of_get? held)

theorem claim_effect {reg : Registry} (valid : reg.Valid) (inventory : List RawSession)
    (entryId collectorPn sessionId sessionProtocol : PyObj) :
    Effect reg ⟨inventory, .claim entryId collectorPn sessionId sessionProtocol⟩
      (reg.claim inventory entryId collectorPn sessionId sessionProtocol).registry := by
  dsimp only [claim]
  split
  · exact .unchanged
  · rename_i named
    split
    · exact .unchanged
    · rename_i target resolved
      refine recordClaim_effect valid _ _ named ?_ (resolveClaim_pn named resolved) ?_
      · rw [(resolveClaim_ok resolved).2.2.2.1]
        exact derivedPn_trimmed (by simp [normalizePn]) _
      · intro unbound
        by_cases nothing : target.sid = ""
        · rw [nothing, ← unbound]
          exact .kept
        · exact .bound _ (by simp [boundSession, named, unbound, resolved, nothing])

theorem claimIdentity_effect {reg : Registry} {call : Call} (entryId collectorPn : PyObj) :
    Effect reg call (reg.claimIdentity entryId collectorPn).registry := by
  have trimmed : strip (normalizePn collectorPn) = normalizePn collectorPn := by
    simp [normalizePn]
  dsimp only [claimIdentity]
  split
  · exact .unchanged
  · rename_i named
    split
    · exact .unchanged
    · rename_i nonempty
      split
      · exact .unchanged
      · rename_i free
        split
        · rename_i absent
          have vacant := claimedIdentity_of_none absent
          have unowned := ownedByOther_none_of_vacant vacant free
          exact .wrote named trimmed (.declared _ _ vacant nonempty unowned (Or.inl rfl))
            (sessionEffect_kept (claimedSessionId_of_none absent))
        · rename_i existing held
          have bound := claimedSessionId_of_get? held
          split
          · rename_i bearing
            split
            · exact .unchanged
            · rename_i same
              refine .wrote named (by simp) ?_ (sessionEffect_kept bound)
              exact pnEffect_promote held trimmed nonempty free (fun h => same h.2)
          · rename_i vacant
            split
            · exact .unchanged
            · have current : reg.claimedIdentity entryId.cleanText = "" := by
                rw [claimedIdentity_of_get? held]
                simpa using vacant
              have unowned := ownedByOther_none_of_vacant current free
              exact .wrote named trimmed (.declared _ _ current nonempty unowned (Or.inl rfl))
                (sessionEffect_kept bound)

theorem claimSession_effect {reg : Registry} {call : Call} (valid : reg.Valid)
    (inventory : List RawSession) (entryId sessionId : PyObj) :
    Effect reg call (reg.claimSession inventory entryId sessionId).registry := by
  dsimp only [claimSession]
  split
  · exact .unchanged
  · rename_i named
    split
    · exact .unchanged
    · split
      · exact .unchanged
      · rename_i free
        split
        · exact .unchanged
        · split
          · exact .unchanged
          · split
            · rename_i absent
              exact .wrote named strip_empty (pnEffect_kept (claimedIdentity_of_none absent))
                (.guarded _ free)
            · rename_i existing held
              have current := claimedIdentity_of_get? held
              split
              · exact .unchanged
              · split
                · exact .unchanged
                · exact .wrote named (valid.trimmed _ existing held) (pnEffect_kept current)
                    (.guarded _ free)

theorem promoteClaimToFullPn_effect {reg : Registry} {call : Call} (valid : reg.Valid)
    (entryId fullPn : PyObj) : Effect reg call (reg.promoteClaimToFullPn entryId fullPn).registry := by
  dsimp only [promoteClaimToFullPn]
  split
  · exact .unchanged
  · rename_i claim held
    split
    · exact .unchanged
    · rename_i nonempty
      split
      · exact .unchanged
      · rename_i free
        split
        · exact .unchanged
        · rename_i same
          have trimmed : strip (normalizePn fullPn) = normalizePn fullPn := by simp [normalizePn]
          have bound := claimedSessionId_of_get? held
          exact .wrote (valid.named _ claim held) (by simp)
            (pnEffect_promote held trimmed nonempty free same) (sessionEffect_kept bound)

theorem prepareHandoff_effect {reg : Registry} {call : Call} (valid : reg.Valid)
    (attemptOwner fullPn : PyObj) : Effect reg call (reg.prepareHandoff attemptOwner fullPn).registry := by
  dsimp only [prepareHandoff]
  split
  · exact .unchanged
  · rename_i claim held
    split
    · exact .unchanged
    · rename_i nonempty
      split
      · exact .unchanged
      · rename_i free
        split
        · exact .unchanged
        · rename_i same
          have trimmed : strip (normalizePn fullPn) = normalizePn fullPn := by simp [normalizePn]
          have bound := claimedSessionId_of_get? held
          exact .wrote (valid.named _ claim held) (by simp)
            (pnEffect_promote held trimmed nonempty free same) (sessionEffect_kept bound)

theorem pinOwnerClaimToSession_effect {reg : Registry} (valid : reg.Valid)
    (inventory : List RawSession) (entryId sessionId : PyObj) :
    Effect reg ⟨inventory, .pinOwnerClaimToSession entryId sessionId⟩
      (reg.pinOwnerClaimToSession inventory entryId sessionId).registry := by
  dsimp only [pinOwnerClaimToSession]
  split
  · exact .unchanged
  · rename_i args
    split
    · exact .unchanged
    · rename_i claim held
      split
      · exact .unchanged
      · rename_i elsewhere
        split
        · exact .unchanged
        · rename_i bearing
          split
          · exact .unchanged
          · exact .unchanged
          · rename_i allowed
            have sid : sessionId.cleanText ≠ "" := fun h => args (Or.inr h)
            have current := claimedIdentity_of_get? held
            exact .wrote (valid.named _ claim held) (valid.trimmed _ claim held)
              (pnEffect_kept current)
              (.bound _ (by simp [boundSession, held, sid, elsewhere, bearing, allowed]))

theorem retargetClaimToReconnectedSession_effect {reg : Registry} (valid : reg.Valid)
    (inventory : List RawSession) (entryId sessionId : PyObj) :
    Effect reg ⟨inventory, .retargetClaimToReconnectedSession entryId sessionId⟩
      (reg.retargetClaimToReconnectedSession inventory entryId sessionId).registry := by
  dsimp only [retargetClaimToReconnectedSession]
  split
  · exact .unchanged
  · rename_i claim held
    split
    · exact .unchanged
    · rename_i args
      split
      · exact .unchanged
      · exact .unchanged
      · rename_i allowed
        have current := claimedIdentity_of_get? held
        exact .wrote (valid.named _ claim held) (valid.trimmed _ claim held) (pnEffect_kept current)
          (.bound _ (by simp [boundSession, held, args, allowed]))

theorem reconcileIdentity_effect {reg : Registry} {call : Call} (valid : reg.Valid)
    (sessionId fullPn : PyObj) : Effect reg call (reg.reconcileIdentity sessionId fullPn).registry := by
  dsimp only [reconcileIdentity]
  split
  · exact .unchanged
  · split
    · exact .unchanged
    · rename_i owner claim found
      obtain ⟨held, accepted⟩ := Dict.firstItem_some found
      simp only [Bool.and_eq_true] at accepted
      have current := claimedIdentity_of_get? held
      have bound := claimedSessionId_of_get? held
      refine .wrote (valid.named owner claim held) (by simp) ?_ (sessionEffect_kept bound)
      rw [← current]
      exact .enriched _ (current ▸ accepted.1.2)

theorem completeHandoff_effect {reg : Registry} {call : Call} (fullPn entryId : PyObj) :
    Effect reg call (reg.completeHandoff fullPn entryId).registry := by
  dsimp only [completeHandoff]
  split
  · exact .unchanged
  · rename_i args
    split
    · exact .unchanged
    · rename_i source prepared found
      obtain ⟨held, accepted⟩ := Dict.firstItem_some found
      simp only [Bool.and_eq_true, bne_iff_ne, ne_eq] at accepted
      split
      · exact .unchanged
      · split
        · exact .unchanged
        · rename_i same
          have named : entryId.cleanText ≠ "" := fun h => args (Or.inr h)
          exact .moved accepted.1.1.2 named held accepted.1.2 rfl
            (fun bearing => by simpa [bearing] using same) rfl

end Registry

theorem step_effect {reg : Registry} (valid : reg.Valid) (call : Call) :
    reg.Effect call (step reg call) := by
  obtain ⟨inventory, operation⟩ := call
  cases operation with
  | claim entryId collectorPn sessionId sessionProtocol =>
    exact Registry.claim_effect valid inventory entryId collectorPn sessionId sessionProtocol
  | claimIdentity entryId collectorPn => exact Registry.claimIdentity_effect _ _
  | claimSession entryId sessionId => exact Registry.claimSession_effect valid inventory _ _
  | promoteClaimToFullPn entryId fullPn => exact Registry.promoteClaimToFullPn_effect valid _ _
  | pinOwnerClaimToSession entryId sessionId =>
    exact Registry.pinOwnerClaimToSession_effect valid inventory _ _
  | retargetClaimToReconnectedSession entryId sessionId =>
    exact Registry.retargetClaimToReconnectedSession_effect valid inventory _ _
  | reconcileIdentity sessionId fullPn => exact Registry.reconcileIdentity_effect valid _ _
  | prepareHandoff attemptOwner fullPn => exact Registry.prepareHandoff_effect valid _ _
  | completeHandoff fullPn entryId => exact Registry.completeHandoff_effect _ _
  | release entryId => exact .removed _

theorem Registry.Effect.valid {reg reg' : Registry} {call : Call} (effect : reg.Effect call reg')
    (valid : reg.Valid) : reg'.Valid := by
  cases effect with
  | unchanged => exact valid
  | wrote named trimmed pn session => exact valid.write named trimmed
  | moved distinct named held bearing identity same session =>
    have settled := valid.write named (by rw [identity, strip_preferFullPn])
    exact settled.erase _
  | removed owner => exact valid.erase owner

theorem step_valid {reg : Registry} (valid : reg.Valid) (call : Call) : (step reg call).Valid :=
  (step_effect valid call).valid valid

end SessionRegistry
