import EybondLocal.CollectorIdentity
import EybondLocal.Library.OrderedDict

/-!
The callback session registry (`connection/session_registry.py`): what it observes
and what it stores. The registry owns no sockets; every call reads the listener
inventory afresh, so an operation takes the inventory of its own moment.
-/
namespace SessionRegistry
open StripText PythonObject CollectorIdentity OrderedDict

inductive SessionState where
  | accepted
  | identifiedWeak
  | identifiedStrong
  | claimed
  | active
  | closed
  deriving DecidableEq, Repr

def SessionState.text : SessionState → String
  | accepted => "accepted"
  | identifiedWeak => "identified_weak"
  | identifiedStrong => "identified_strong"
  | claimed => "claimed"
  | active => "active"
  | closed => "closed"

def activeInventoryStates : List String := ["routed_at_text", "routed_framed"]
def claimedInventoryStates : List String := ["claimed"]
def closedInventoryStates : List String :=
  ["closed_disconnected", "closed_no_payload", "parked_peer_closed"]

/-- One entry of the listener inventory: the values `raw.get(key)` returns. A port is
    the outcome of `int(raw.get(key) or 0)`, which may itself raise. -/
structure RawSession where
  sessionId : PyObj
  peerIp : PyObj := .none
  peerPort : Except PyError Int := .ok 0
  listenerPort : Except PyError Int := .ok 0
  protocolShape : PyObj := .none
  sessionProtocol : PyObj := .none
  collectorPn : PyObj := .none
  collectorIdentitySource : PyObj := .none
  state : PyObj := .none

structure CallbackSession where
  sessionId : String
  peerIp : String
  peerPort : Int
  listenerPort : Int
  protocolShape : String
  sessionProtocol : String
  collectorPn : String
  identitySource : String
  state : SessionState
  ownerEntryId : String
  raw : RawSession

def CallbackSession.hasStrongIdentity (session : CallbackSession) : Bool :=
  identitySourceIsStrong session.identitySource

structure Claim where
  entryId : String
  collectorPn : String := ""
  sessionId : String := ""
  sessionProtocol : String := ""
  handoffPending : Bool := false
  deriving DecidableEq, Repr

structure Registry where
  claims : Dict String Claim

def Registry.initial : Registry := ⟨.empty⟩

def stateFromInventory (inventoryState identitySource : String) : SessionState :=
  if activeInventoryStates.contains inventoryState then .active
  else if claimedInventoryStates.contains inventoryState then .claimed
  else if closedInventoryStates.contains inventoryState then .closed
  else if identitySourceIsStrong identitySource then .identifiedStrong
  else .identifiedWeak

def normalize (raw : RawSession) : Except PyError CallbackSession := do
  let identitySource := raw.collectorIdentitySource.cleanText
  let inventoryState := raw.state.cleanText
  let peerPort ← raw.peerPort
  let listenerPort ← raw.listenerPort
  return {
    sessionId := raw.sessionId.cleanText
    peerIp := raw.peerIp.cleanText
    peerPort := peerPort
    listenerPort := listenerPort
    protocolShape := raw.protocolShape.cleanText
    sessionProtocol := raw.sessionProtocol.cleanText
    collectorPn := normalizePn raw.collectorPn
    identitySource := identitySource
    state := stateFromInventory inventoryState identitySource
    ownerEntryId := ""
    raw := raw }

/-- Which of two observations of one collector replaces the other: the strong one, and
    between equals the longer spelling. -/
def keepNew (existing session : CallbackSession) : Bool :=
  if session.hasStrongIdentity && !existing.hasStrongIdentity then true
  else session.hasStrongIdentity == existing.hasStrongIdentity &&
    decide (existing.collectorPn.length < session.collectorPn.length)

/-- One round of `_coalesce`: merge a session with a PN into the first kept session of the
    same identity, or append it. -/
def coalesceInto (session : CallbackSession) : List CallbackSession → List CallbackSession
  | [] => [session]
  | existing :: rest =>
    if existing.collectorPn ≠ "" ∧
        pnIsSameIdentity existing.collectorPn session.collectorPn = true then
      if keepNew existing session then
        { session with
          collectorPn := preferFullPn existing.collectorPn session.collectorPn } :: rest
      else existing :: rest
    else existing :: coalesceInto session rest

def coalesceStep (kept : List CallbackSession) (session : CallbackSession) :
    List CallbackSession :=
  if session.collectorPn = "" then kept ++ [session] else coalesceInto session kept

def coalesce (sessions : List CallbackSession) : List CallbackSession :=
  sessions.foldl coalesceStep []

namespace Registry

def claimMatchesSession (session : CallbackSession) (claim : Claim) : Bool :=
  (claim.sessionId != "" && claim.sessionId == session.sessionId) ||
    (claim.collectorPn != "" && pnIsSameIdentity claim.collectorPn session.collectorPn)

def ownerForSession (reg : Registry) (session : CallbackSession) : String :=
  ((reg.claims.firstItem fun _ claim => claimMatchesSession session claim).map Prod.fst).getD ""

def ownerForPn (reg : Registry) (pn : String) : String :=
  if pn = "" then ""
  else ((reg.claims.firstItem fun _ claim =>
    claim.collectorPn != "" && pnIsSameIdentity claim.collectorPn pn).map Prod.fst).getD ""

def attachOwner (reg : Registry) (session : CallbackSession) : CallbackSession :=
  let owner := reg.ownerForSession session
  if owner = "" then session
  else
    { session with
      ownerEntryId := owner
      state := if session.state = .active ∨ session.state = .closed then session.state
        else .claimed }

def normalizedSessions (reg : Registry) (inventory : List RawSession) :
    Except PyError (List CallbackSession) := do
  let normalized ← inventory.mapM normalize
  return (normalized.filter fun session => session.sessionId ≠ "").map reg.attachOwner

def observedSessions (reg : Registry) (inventory : List RawSession) :
    Except PyError (List CallbackSession) := do
  return coalesce (← reg.normalizedSessions inventory)

end Registry
end SessionRegistry
