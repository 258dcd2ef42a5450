import EybondLocal.SessionRegistry.Operations

/-!
The live wire of a claimed socket: the negotiation of `connection/session_handle.py`, as far
as a caller asks whether it may write, and the owner-scoped handle the registry gives out.
The wire comes from what the socket did, never from what the owner expected.
-/
namespace SessionRegistry
open StripText PythonObject CollectorIdentity OrderedDict

inductive Wire where
  | framed
  | atText
  | rawTcp
  | unknown
  deriving DecidableEq, Repr

def Wire.text : Wire → String
  | framed => "eybond_framed"
  | atText => "at_text"
  | rawTcp => "raw_tcp"
  | unknown => "unknown"

def framedStates : List String := ["routed_framed"]
def framedShapes : List String := ["eybond_framed_or_binary", "eybond_framed"]
def atStates : List String := ["routed_at_text"]
def atShapes : List String := ["at_text"]
def rawTcpShapes : List String := ["raw_tcp"]

def untrustedStates : List String :=
  ["route_identity_mismatch", "waiting_for_route_identity", "parked_waiting_for_identity",
    "closed_no_payload"]

def normalizeWireSignal (value : PyObj) : Wire :=
  let normalized := lower value.cleanText
  if framedStates.contains normalized || framedShapes.contains normalized then .framed
  else if atStates.contains normalized || atShapes.contains normalized then .atText
  else if rawTcpShapes.contains normalized then .rawTcp
  else if normalized = "framed" then .framed
  else .unknown

structure SessionHandle where
  wireFraming : Wire := .unknown
  conflict : String := ""
  deriving DecidableEq, Repr

def SessionHandle.observed (handle : SessionHandle) : Bool :=
  handle.wireFraming == .framed || handle.wireFraming == .atText || handle.wireFraming == .rawTcp

/-- `negotiate_wire_result`: routed state, then confirmed protocol, then sniffed shape; a
    routed state that contradicts the shape is a conflict, except raw bytes routed as AT. -/
def negotiateWireResult (state protocolShape sessionProtocol : PyObj) : SessionHandle :=
  let normalizedState := lower state.cleanText
  let stateWire := normalizeWireSignal (.str normalizedState)
  let shapeWire := normalizeWireSignal protocolShape
  let protocolWire := normalizeWireSignal sessionProtocol
  if untrustedStates.contains normalizedState then {}
  else if stateWire ≠ .unknown ∧ shapeWire ≠ .unknown ∧ stateWire ≠ shapeWire ∧
      ¬ (stateWire = .atText ∧ shapeWire = .rawTcp) then
    { conflict := "wire_conflict:state=" ++ normalizedState ++ ":shape=" ++ shapeWire.text }
  else if stateWire ≠ .unknown then { wireFraming := stateWire }
  else if protocolWire ≠ .unknown ∧ shapeWire ≠ .unknown ∧ protocolWire ≠ shapeWire then
    { wireFraming := shapeWire }
  else if protocolWire ≠ .unknown then { wireFraming := protocolWire }
  else { wireFraming := shapeWire }

def negotiateSessionAdapters (observed : RawSession) : SessionHandle :=
  negotiateWireResult observed.state observed.protocolShape observed.sessionProtocol

def SessionHandle.writable (handle : SessionHandle) : Option Wire :=
  if handle.observed = false ∨ handle.conflict ≠ "" then none
  else match handle.wireFraming with
  | .framed => some .framed
  | .atText => some .atText
  | _ => none

namespace Registry

/-- A route mismatch is another claimant's verdict: it gives way when the socket's own strong
    PN is the identity this owner claims or expects. -/
def ownsMismatchedRoute (claim : Claim) (session : CallbackSession) (expectedPn : String) : Bool :=
  let supplied := if expectedPn = strip expectedPn then expectedPn else ""
  let claimedPn := strip claim.collectorPn
  let anchor := if claimedPn = "" then strip supplied else claimedPn
  anchor != "" && session.hasStrongIdentity && session.collectorPn != "" &&
    pnIsSameIdentity anchor session.collectorPn &&
    (claimedPn == "" || supplied == "" || pnIsSameIdentity claimedPn supplied)

def sessionHandleForClaimedSession (reg : Registry) (inventory : List RawSession)
    (entryId : PyObj) (expectedPn : String) : Except PyError (Option SessionHandle) :=
  match reg.claims.get? entryId.cleanText with
  | none => .ok none
  | some claim =>
    if claim.sessionId = "" then .ok none
    else
      match reg.normalizedSessions inventory with
      | .error error => .error error
      | .ok sessions =>
        match sessions.find? fun session => session.sessionId = claim.sessionId with
        | none => .ok none
        | some session =>
          let handle := negotiateSessionAdapters session.raw
          if session.state = .closed then .ok none
          else if lower session.raw.state.cleanText ≠ "route_identity_mismatch" ∨
              handle.observed = true then .ok (some handle)
          else if ownsMismatchedRoute claim session expectedPn = false then .ok (some handle)
          else .ok (some (negotiateSessionAdapters { session.raw with state := .str "claimed" }))

/-- `rank >= best_rank` on tuples of one length. -/
def rankAtLeast : List Nat → List Nat → Bool
  | a :: as, b :: bs => if a = b then rankAtLeast as bs else decide (b < a)
  | _, [] => true
  | [], _ => false

/-- The rank of `session_handle_for_pn`: an observed wire, a routed socket, a strong identity,
    the longer PN. -/
def handleRank (session : CallbackSession) : List Nat :=
  [(negotiateSessionAdapters session.raw).observed.toNat,
    (activeInventoryStates.contains (lower session.raw.state.cleanText)).toNat,
    session.hasStrongIdentity.toNat, session.collectorPn.length]

def betterSession (pn : String) (best : Option CallbackSession) (session : CallbackSession) :
    Option CallbackSession :=
  if pnIsSameIdentity session.collectorPn pn = false then best
  else match best with
  | none => some session
  | some held => if rankAtLeast (handleRank session) (handleRank held) then some session else best

/-- `session_handle_for_entry`, by the socket its handle is negotiated from: on a tie the later
    socket of the inventory. -/
def sessionForEntry (reg : Registry) (inventory : List RawSession) (owner : String) :
    Except PyError (Option CallbackSession) :=
  let pn := strip (reg.claimedIdentity owner)
  if pn = "" then .ok none
  else (reg.normalizedSessions inventory).map fun sessions => sessions.foldl (betterSession pn) none

/-- `session_handle_for_owned_session`, by its socket: the one the owner's claim is bound to. -/
def sessionForOwnedSession (reg : Registry) (inventory : List RawSession) (owner sid : String) :
    Except PyError (Option CallbackSession) :=
  if owner = "" ∨ sid = "" ∨ reg.claims.get? owner = none ∨ reg.claimedSessionId owner ≠ sid then
    .ok none
  else (reg.normalizedSessions inventory).map fun sessions =>
    (sessions.find? fun session => session.sessionId = sid).filter fun session =>
      session.state ≠ .closed ∧
        (reg.ownerForSession session = "" ∨ reg.ownerForSession session = owner)

def trustedHandle (session : CallbackSession) : Bool :=
  let handle := negotiateSessionAdapters session.raw
  session.raw.sessionId.cleanText != "" && handle.observed && handle.conflict == ""

def confirmPinned (inventory : List RawSession) (owner sid : String) (pinned : Outcome Bool) :
    Outcome String :=
  match pinned.result with
  | .error error => pinned.registry.raises error
  | .ok false => pinned.registry.returns ""
  | .ok true =>
    match pinned.registry.sessionForOwnedSession inventory owner sid with
    | .error error => pinned.registry.raises error
    | .ok none => pinned.registry.returns ""
    | .ok (some session) =>
      if session.raw.sessionId.cleanText = sid ∧ trustedHandle session = true then
        pinned.registry.returns sid
      else pinned.registry.returns ""

def pinOwnerClaimToCurrentObservedSession (reg : Registry) (inventory : List RawSession)
    (entryId : PyObj) : Outcome String :=
  let owner := entryId.cleanText
  if reg.claimedIdentity owner = "" then reg.returns ""
  else match reg.sessionForEntry inventory owner with
  | .error error => reg.raises error
  | .ok none => reg.returns ""
  | .ok (some session) =>
    if trustedHandle session = false then reg.returns ""
    else
      let sid := session.raw.sessionId.cleanText
      confirmPinned inventory owner sid
        (reg.pinOwnerClaimToSession inventory (.str owner) (.str sid))

end Registry
end SessionRegistry
