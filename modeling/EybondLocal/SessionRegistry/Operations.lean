import EybondLocal.SessionRegistry.Model

/-!
The ten operations that write claims. An operation returns or raises, and either way
hands back the registry as it left it: a raise does not undo what was written before it.
-/
namespace SessionRegistry
open StripText PythonObject CollectorIdentity OrderedDict

structure Outcome (α : Type) where
  result : Except PyError α
  registry : Registry

namespace Registry

def returns {α : Type} (reg : Registry) (value : α) : Outcome α := ⟨.ok value, reg⟩

def raises {α : Type} (reg : Registry) (error : PyError) : Outcome α := ⟨.error error, reg⟩

def claimedIdentity (reg : Registry) (owner : String) : String :=
  ((reg.claims.get? owner).map Claim.collectorPn).getD ""

def claimedSessionId (reg : Registry) (owner : String) : String :=
  ((reg.claims.get? owner).map Claim.sessionId).getD ""

def write (reg : Registry) (owner : String) (claim : Claim) : Registry :=
  ⟨reg.claims.set owner claim⟩

def ownedByOther (reg : Registry) (owner pn : String) : Option PyError :=
  let other := reg.ownerForPn pn
  if other ≠ "" ∧ other ≠ owner then
    some (valueError ("session_already_claimed:" ++ pn ++ ":" ++ other))
  else none

def rebindRefusal (existing : Option Claim) (pn sid : String) : Option PyError :=
  match existing with
  | none => none
  | some claim =>
    if pn ≠ "" ∧ claim.collectorPn ≠ "" ∧ pnIsSameIdentity claim.collectorPn pn = false then
      some (valueError ("claim_identity_mismatch:" ++ claim.collectorPn ++ ":" ++ pn))
    else if sid ≠ "" ∧ claim.sessionId ≠ "" ∧ sid ≠ claim.sessionId then
      some (valueError ("claim_session_mismatch:" ++ claim.sessionId ++ ":" ++ sid))
    else none

/-- The search loop of `claim`: a socket named by its id ends it, otherwise the first
    same-identity socket is kept until a strong one replaces a weak one. -/
def matchObserved (pn sid : String) :
    List CallbackSession → Option CallbackSession → Option CallbackSession
  | [], best => best
  | session :: rest, best =>
    if sid ≠ "" ∧ session.sessionId = sid then some session
    else if pn ≠ "" ∧ pnIsSameIdentity pn session.collectorPn = true then
      match best with
      | none => matchObserved pn sid rest (some session)
      | some held =>
        if session.hasStrongIdentity ∧ ¬ held.hasStrongIdentity then
          matchObserved pn sid rest (some session)
        else matchObserved pn sid rest best
    else matchObserved pn sid rest best

/-- The trust boundary of `claim`: what the caller declares and what the claim already
    stands for must both be the identity the matched socket reports. -/
def contradictsSocket (known pn : String) (matched : Option CallbackSession) : Option PyError :=
  match matched with
  | none => none
  | some session =>
    if session.collectorPn = "" then none
    else if pn ≠ "" ∧ pnIsSameIdentity pn session.collectorPn = false then
      some (valueError ("claim_session_identity_mismatch:" ++ pn ++ ":" ++ session.collectorPn))
    else if known ≠ "" ∧ pnIsSameIdentity known session.collectorPn = false then
      some (valueError ("claim_session_identity_mismatch:" ++ known ++ ":" ++ session.collectorPn))
    else none

def derivedPn (pn : String) (matched : Option CallbackSession) : String :=
  match matched with
  | none => pn
  | some session =>
    if session.collectorPn = "" then pn else preferFullPn pn session.collectorPn

def derivedSession (sid : String) (matched : Option CallbackSession) : String :=
  if sid = "" then (matched.map CallbackSession.sessionId).getD "" else sid

def derivedProtocol (sessionProtocol : PyObj) (matched : Option CallbackSession) : String :=
  if sessionProtocol.cleanText = "" then
    (matched.map CallbackSession.sessionProtocol).getD ""
  else sessionProtocol.cleanText

def recordClaim (reg : Registry) (owner pn sid protocol : String) (result : Option CallbackSession) :
    Outcome (Option CallbackSession) :=
  match reg.claims.get? owner with
  | none =>
    let reg' := reg.write owner
      { entryId := owner, collectorPn := pn, sessionId := sid, sessionProtocol := protocol }
    reg'.returns (result.map reg'.attachOwner)
  | some existing =>
    if pn ≠ "" ∧ existing.collectorPn ≠ "" ∧
        pnIsSameIdentity existing.collectorPn pn = false then
      reg.raises (valueError ("claim_identity_mismatch:" ++ existing.collectorPn ++ ":" ++ pn))
    else
      let reg' := reg.write owner
        { existing with
          collectorPn := preferFullPn existing.collectorPn pn
          sessionId := if existing.sessionId = "" then sid else existing.sessionId
          sessionProtocol :=
            if existing.sessionProtocol = "" then protocol else existing.sessionProtocol }
      reg'.returns (result.map reg'.attachOwner)

structure ClaimTarget where
  pn : String
  sid : String
  protocol : String
  matched : Option CallbackSession

def resolveClaim (reg : Registry) (inventory : List RawSession) (owner pn sid : String)
    (sessionProtocol : PyObj) : Except PyError ClaimTarget :=
  match reg.ownedByOther owner pn with
  | some error => .error error
  | none =>
    match rebindRefusal (reg.claims.get? owner) pn sid with
    | some error => .error error
    | none =>
      match reg.observedSessions inventory with
      | .error error => .error error
      | .ok observed =>
        let matched := matchObserved pn sid observed none
        match contradictsSocket (reg.claimedIdentity owner) pn matched with
        | some error => .error error
        | none =>
          .ok {
            pn := derivedPn pn matched
            sid := derivedSession sid matched
            protocol := derivedProtocol sessionProtocol matched
            matched := matched }

def claim (reg : Registry) (inventory : List RawSession)
    (entryId collectorPn sessionId sessionProtocol : PyObj) : Outcome (Option CallbackSession) :=
  let owner := entryId.cleanText
  let pn := normalizePn collectorPn
  let sid := sessionId.cleanText
  if owner = "" then reg.raises (valueError "entry_id_required")
  else match reg.resolveClaim inventory owner pn sid sessionProtocol with
  | .error error => reg.raises error
  | .ok target => reg.recordClaim owner target.pn target.sid target.protocol target.matched

def claimIdentity (reg : Registry) (entryId collectorPn : PyObj) : Outcome Unit :=
  let owner := entryId.cleanText
  let pn := normalizePn collectorPn
  if owner = "" then reg.raises (valueError "entry_id_required")
  else if pn = "" then reg.raises (valueError "collector_pn_required")
  else match reg.ownedByOther owner pn with
  | some error => reg.raises error
  | none =>
    match reg.claims.get? owner with
    | none => (reg.write owner { entryId := owner, collectorPn := pn }).returns ()
    | some existing =>
      if existing.collectorPn ≠ "" then
        if pnIsSameIdentity existing.collectorPn pn = false then
          reg.raises (valueError ("claim_identity_mismatch:" ++ existing.collectorPn ++ ":" ++ pn))
        else
          (reg.write owner
            { existing with collectorPn := preferFullPn existing.collectorPn pn }).returns ()
      else if existing.sessionId ≠ "" ∨ existing.sessionProtocol ≠ "" ∨
          existing.handoffPending = true then
        reg.raises (valueError "claim_identity_transient_claim_conflict")
      else (reg.write owner { existing with collectorPn := pn }).returns ()

def sessionHeldByOther (reg : Registry) (owner sid : String) : Option String :=
  (reg.claims.firstItem fun other claim => other ≠ owner && claim.sessionId == sid).map Prod.fst

def claimSession (reg : Registry) (inventory : List RawSession) (entryId sessionId : PyObj) :
    Outcome Unit :=
  let owner := entryId.cleanText
  let sid := sessionId.cleanText
  if owner = "" then reg.raises (valueError "entry_id_required")
  else if sid = "" then reg.raises (valueError "session_id_required")
  else match reg.sessionHeldByOther owner sid with
  | some other => reg.raises (valueError ("session_already_claimed:" ++ sid ++ ":" ++ other))
  | none =>
    match reg.normalizedSessions inventory with
    | .error error => reg.raises error
    | .ok sessions =>
      let observedPn := ((sessions.find? fun session => session.sessionId = sid).map
        CallbackSession.collectorPn).getD ""
      match reg.ownedByOther owner observedPn with
      | some error => reg.raises error
      | none =>
        match reg.claims.get? owner with
        | none => (reg.write owner { entryId := owner, sessionId := sid }).returns ()
        | some existing =>
          if existing.sessionId ≠ "" ∧ existing.sessionId ≠ sid then
            reg.raises (valueError ("claim_session_mismatch:" ++ existing.sessionId ++ ":" ++ sid))
          else if existing.collectorPn ≠ "" ∧ observedPn ≠ "" ∧
              pnIsSameIdentity existing.collectorPn observedPn = false then
            reg.raises (valueError ("claim_session_identity_mismatch:" ++ existing.collectorPn ++
              ":" ++ observedPn))
          else (reg.write owner { existing with sessionId := sid }).returns ()

def promoteClaimToFullPn (reg : Registry) (entryId fullPn : PyObj) : Outcome Bool :=
  let owner := entryId.cleanText
  let pn := normalizePn fullPn
  match reg.claims.get? owner with
  | none => reg.returns false
  | some claim =>
    if pn = "" then reg.returns false
    else match reg.ownedByOther owner pn with
    | some error => reg.raises error
    | none =>
      if claim.collectorPn ≠ "" ∧ pnIsSameIdentity claim.collectorPn pn = false then
        reg.raises (valueError ("promote_identity_mismatch:" ++ claim.collectorPn ++ ":" ++ pn))
      else
        (reg.write owner
          { claim with collectorPn := preferFullPn claim.collectorPn pn }).returns true

/-- The search of `pin_owner_claim_to_session`: a live socket of the claim's own identity
    that `_owner_for_session` gives to nobody else. -/
def pinnable (reg : Registry) (inventory : List RawSession) (owner sid : String) (claim : Claim) :
    Except PyError Bool := do
  let sessions ← reg.normalizedSessions inventory
  match sessions.find? fun session => session.sessionId = sid with
  | none => return false
  | some session =>
    if session.state = .closed then return false
    else if pnIsSameIdentity session.collectorPn claim.collectorPn = false then return false
    else if reg.ownerForSession session ≠ "" ∧ reg.ownerForSession session ≠ owner then
      return false
    else return true

def pinOwnerClaimToSession (reg : Registry) (inventory : List RawSession)
    (entryId sessionId : PyObj) : Outcome Bool :=
  let owner := entryId.cleanText
  let sid := sessionId.cleanText
  if owner = "" ∨ sid = "" then reg.returns false
  else match reg.claims.get? owner with
  | none => reg.returns false
  | some claim =>
    if claim.sessionId = sid then reg.returns true
    else if strip claim.collectorPn = "" then reg.returns false
    else match reg.pinnable inventory owner sid claim with
    | .error error => reg.raises error
    | .ok false => reg.returns false
    | .ok true => (reg.write owner { claim with sessionId := sid }).returns true

/-- The target check of `retarget_claim_to_reconnected_session`. The sessions are first put
    into a dictionary by id, so the last one of an id counts. -/
def retargetable (reg : Registry) (inventory : List RawSession) (owner sid : String)
    (claim : Claim) : Except PyError Bool := do
  let sessions ← reg.normalizedSessions inventory
  match sessions.reverse.find? fun session => session.sessionId = sid with
  | none => return false
  | some target =>
    if target.state = .closed ∨
        pnIsSameIdentity claim.collectorPn target.collectorPn = false then return false
    else if reg.ownerForSession target ≠ "" ∧ reg.ownerForSession target ≠ owner then
      throw (valueError ("session_already_claimed:" ++ sid ++ ":" ++ reg.ownerForSession target))
    else return true

def retargetClaimToReconnectedSession (reg : Registry) (inventory : List RawSession)
    (entryId sessionId : PyObj) : Outcome Bool :=
  let owner := entryId.cleanText
  let sid := sessionId.cleanText
  match reg.claims.get? owner with
  | none => reg.returns false
  | some claim =>
    if claim.collectorPn = "" ∨ sid = "" then reg.returns false
    else match reg.retargetable inventory owner sid claim with
    | .error error => reg.raises error
    | .ok false => reg.returns false
    | .ok true => (reg.write owner { claim with sessionId := sid }).returns true

def reconcileIdentity (reg : Registry) (sessionId fullPn : PyObj) : Outcome Bool :=
  let sid := sessionId.cleanText
  let full := normalizePn fullPn
  if sid = "" ∨ full = "" then reg.returns false
  else
    match reg.claims.firstItem fun _ claim =>
      claim.sessionId == sid && pnIsSameIdentity claim.collectorPn full &&
        full != claim.collectorPn with
    | none => reg.returns false
    | some (owner, claim) =>
      (reg.write owner
        { claim with collectorPn := preferFullPn claim.collectorPn full }).returns true

def prepareHandoff (reg : Registry) (attemptOwner fullPn : PyObj) : Outcome Bool :=
  let owner := attemptOwner.cleanText
  let pn := normalizePn fullPn
  match reg.claims.get? owner with
  | none => reg.returns false
  | some claim =>
    if pn = "" then reg.raises (valueError "full_pn_required")
    else match reg.ownedByOther owner pn with
    | some error => reg.raises error
    | none =>
      if claim.collectorPn ≠ "" ∧ pnIsSameIdentity claim.collectorPn pn = false then
        reg.raises (valueError ("handoff_identity_mismatch:" ++ claim.collectorPn ++ ":" ++ pn))
      else
        (reg.write owner
          { claim with
            collectorPn := preferFullPn claim.collectorPn pn
            handoffPending := true }).returns true

/-- The prepared claim `complete_handoff` moves: the first of this identity that is not the
    destination itself. -/
def preparedClaim (reg : Registry) (pn toId : String) : Option (String × Claim) :=
  reg.claims.firstItem fun owner claim =>
    claim.handoffPending && owner != toId && claim.collectorPn != "" &&
      pnIsSameIdentity claim.collectorPn pn

def completeHandoff (reg : Registry) (fullPn entryId : PyObj) : Outcome Bool :=
  let pn := normalizePn fullPn
  let toId := entryId.cleanText
  if pn = "" ∨ toId = "" then reg.raises (valueError "handoff_args_required")
  else match reg.preparedClaim pn toId with
  | none => reg.returns false
  | some (sourceOwner, source) =>
    if sourceOwner = "" then reg.returns false
    else
      let held := reg.claimedIdentity toId
      if held ≠ "" ∧ pnIsSameIdentity held source.collectorPn = false then
        reg.raises (valueError ("session_already_claimed:" ++ source.collectorPn ++ ":" ++ toId))
      else
        let settled := reg.write toId
          { entryId := toId
            collectorPn := preferFullPn source.collectorPn held
            sessionId := source.sessionId
            sessionProtocol := source.sessionProtocol }
        (⟨settled.claims.erase sourceOwner⟩ : Registry).returns true

def release (reg : Registry) (entryId : PyObj) : Outcome Bool :=
  let owner := entryId.cleanText
  (⟨reg.claims.erase owner⟩ : Registry).returns (reg.claims.get? owner).isSome

end Registry

inductive Operation where
  | claim (entryId collectorPn sessionId sessionProtocol : PyObj)
  | claimIdentity (entryId collectorPn : PyObj)
  | claimSession (entryId sessionId : PyObj)
  | promoteClaimToFullPn (entryId fullPn : PyObj)
  | pinOwnerClaimToSession (entryId sessionId : PyObj)
  | retargetClaimToReconnectedSession (entryId sessionId : PyObj)
  | reconcileIdentity (sessionId fullPn : PyObj)
  | prepareHandoff (attemptOwner fullPn : PyObj)
  | completeHandoff (fullPn entryId : PyObj)
  | release (entryId : PyObj)

def Operation.owner : Operation → Option String
  | .claim entryId _ _ _ => some entryId.cleanText
  | .claimIdentity entryId _ => some entryId.cleanText
  | .claimSession entryId _ => some entryId.cleanText
  | .promoteClaimToFullPn entryId _ => some entryId.cleanText
  | .pinOwnerClaimToSession entryId _ => some entryId.cleanText
  | .retargetClaimToReconnectedSession entryId _ => some entryId.cleanText
  | .reconcileIdentity _ _ => none
  | .prepareHandoff attemptOwner _ => some attemptOwner.cleanText
  | .completeHandoff _ entryId => some entryId.cleanText
  | .release entryId => some entryId.cleanText

structure Call where
  inventory : List RawSession
  operation : Operation

def step (reg : Registry) (call : Call) : Registry :=
  match call.operation with
  | .claim entryId collectorPn sessionId sessionProtocol =>
    (reg.claim call.inventory entryId collectorPn sessionId sessionProtocol).registry
  | .claimIdentity entryId collectorPn => (reg.claimIdentity entryId collectorPn).registry
  | .claimSession entryId sessionId => (reg.claimSession call.inventory entryId sessionId).registry
  | .promoteClaimToFullPn entryId fullPn => (reg.promoteClaimToFullPn entryId fullPn).registry
  | .pinOwnerClaimToSession entryId sessionId =>
    (reg.pinOwnerClaimToSession call.inventory entryId sessionId).registry
  | .retargetClaimToReconnectedSession entryId sessionId =>
    (reg.retargetClaimToReconnectedSession call.inventory entryId sessionId).registry
  | .reconcileIdentity sessionId fullPn => (reg.reconcileIdentity sessionId fullPn).registry
  | .prepareHandoff attemptOwner fullPn => (reg.prepareHandoff attemptOwner fullPn).registry
  | .completeHandoff fullPn entryId => (reg.completeHandoff fullPn entryId).registry
  | .release entryId => (reg.release entryId).registry

end SessionRegistry
