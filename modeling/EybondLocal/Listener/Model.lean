import EybondLocal.Library.OrderedDict
import EybondLocal.Listener.Inventory
import EybondLocal.Transport.BinaryFraming

/-!
The shared listener (`_SharedEybondListener` in `collector/transport/listener.py`): accepted
sockets that nobody has claimed, the inventory of socket sessions, the connection objects of
the two wires under their three indexes, and temporary exclusive routes. A function here is
the code between two awaits. A connection object is its number, a pending socket its session id.
-/
namespace Listener
open StripText PythonObject CollectorIdentity OrderedDict BinaryFraming

inductive Wire where
  | framed
  | atText
  deriving DecidableEq, Repr

/-- The rules on peer addresses and the parser of an identity in first bytes. -/
structure Rules where
  hairpinAlias : (expectedIp remoteIp : String) → Bool
  broadcastAlias : (expectedIp remoteIp : String) → Bool
  /-- `_collector_pn_from_initial_chunk`: the PN and its source. -/
  initialPn : Bytes → String × String

def isByteSpace (b : UInt8) : Bool := b = 32 || (9 ≤ b && b ≤ 13)

def looksLikeAtTraffic (chunk : Bytes) : Bool :=
  [65, 84, 43].isPrefixOf (chunk.dropWhile isByteSpace)

def looksLikeEybondFrameStart (chunk : Bytes) : Bool :=
  match decodeHeader chunk with
  | none => false
  | some header => runtimeEybondHeaderError header = ""

def classifyInitialProtocolShape (chunk : Bytes) : ProtocolShape :=
  if looksLikeAtTraffic chunk then .atText
  else if chunk.length < headerSize then .unknown
  else if looksLikeEybondFrameStart chunk then .eybondFramed
  else .rawTcp

structure Pending where
  sessionId : String
  remoteIp : String
  remotePort : Option Int
  sniffTask : Option Nat := none
  initialBytes : Bytes := []
  parked : Bool := false
  deriving DecidableEq, Repr

/-- `_ExclusiveCollectorRouteReservation`. -/
structure Reservation where
  collectorIp : String
  collectorPn : String
  baselineSessionIds : List String
  transparent : Bool
  expectedSessionProtocol : String
  deriving DecidableEq, Repr

structure Links where
  byIp : Dict String Nat
  byPn : Dict String Nat
  bySession : Dict String Nat
  made : Nat
  connected : Nat → Bool

def Links.empty : Links := ⟨Dict.empty, Dict.empty, Dict.empty, 0, fun _ => false⟩

structure SharedListener where
  port : Nat
  framed : Links
  atText : Links
  pending : Dict String Pending
  inventory : Dict String Entry
  sessionSeq : Nat
  routes : Dict Nat Reservation
  routeSeq : Nat
  owners : Wire → Dict String Nat
  pnOwners : Wire → Dict String Nat

def Entry.markState (entry : Entry) (state : SessionState) : Entry :=
  if entry.state.isTerminal && !state.isTerminal then entry else { entry with state := state }

/-- `_mark_session_first_bytes`: the first known shape stays the primary one. -/
def Entry.markFirstBytes (entry : Entry) (observed : ProtocolShape) (length : Nat) : Entry :=
  let entry :=
    if observed = .unknown ∨ observed ∈ entry.observedProtocolShapes then entry
    else { entry with observedProtocolShapes := observed :: entry.observedProtocolShapes }
  if entry.protocolShape = .unknown then
    { entry with firstBytesLen := length, protocolShape := observed }
  else entry

namespace SharedListener

def start (port : Nat) : SharedListener where
  port := port
  framed := Links.empty
  atText := Links.empty
  pending := Dict.empty
  inventory := Dict.empty
  sessionSeq := 0
  routes := Dict.empty
  routeSeq := 0
  owners := fun _ => Dict.empty
  pnOwners := fun _ => Dict.empty

def links (l : SharedListener) : Wire → Links
  | .framed => l.framed
  | .atText => l.atText

def setLinks (l : SharedListener) (wire : Wire) (links : Links) : SharedListener :=
  match wire with
  | .framed => { l with framed := links }
  | .atText => { l with atText := links }

def maxSessionInventory : Nat := 20

def updateEntry (l : SharedListener) (sid : String) (change : Entry → Entry) : SharedListener :=
  match l.inventory.get? sid with
  | none => l
  | some entry => { l with inventory := l.inventory.set sid (change entry) }

def markState (l : SharedListener) (sid : String) (state : SessionState) : SharedListener :=
  l.updateEntry sid fun entry => entry.markState state

def rememberSession (l : SharedListener) (sid remoteIp : String) (remotePort : Option Int) :
    SharedListener :=
  { l with
    inventory := (l.inventory.set sid
      { sessionId := sid, remoteIp := remoteIp, remotePort := remotePort }).newest
        maxSessionInventory }

def markFirstBytes (l : SharedListener) (sid : String) (chunk : Bytes) : SharedListener :=
  l.updateEntry sid fun entry =>
    entry.markFirstBytes (classifyInitialProtocolShape chunk) chunk.length

def indexPn (links : Links) (sid pn : String) : Links :=
  match links.bySession.get? sid with
  | none => links
  | some connection => { links with byPn := links.byPn.set pn connection }

/-- `_mark_session_identity`: the entry, then the PN indexes of the session's connections. -/
def markIdentity (l : SharedListener) (sid pn source : String) : SharedListener :=
  let normalized := validatedCollectorPn (.str pn)
  if normalized = "" then l
  else
    let l := l.updateEntry sid fun entry => entry.markIdentity (.str pn) source
    { l with
      framed := indexPn l.framed sid normalized
      atText := indexPn l.atText sid normalized }

def sessionIdOf (port seq : Nat) : String := "listener-" ++ toString port ++ "-" ++ toString seq

/-- `_handle_connection` of a peer with an address. -/
def accept (l : SharedListener) (remoteIp : String) (remotePort : Option Int) (task : Nat) :
    SharedListener :=
  if remoteIp = "" then l
  else
    let sid := sessionIdOf l.port (l.sessionSeq + 1)
    let l := { l with sessionSeq := l.sessionSeq + 1 }.rememberSession sid remoteIp remotePort
    { l with
      pending := l.pending.set sid
        { sessionId := sid, remoteIp := remoteIp, remotePort := remotePort, sniffTask := some task } }

def callbackIpMatches (rules : Rules) (collectorIp remoteIp : String) : Bool :=
  collectorIp ≠ "" && remoteIp ≠ "" &&
    (remoteIp = collectorIp || rules.hairpinAlias collectorIp remoteIp ||
      rules.broadcastAlias collectorIp remoteIp)

def hasOwnerForRemoteIp (rules : Rules) (counts : Dict String Nat) (remoteIp : String) : Bool :=
  counts.items.any fun owner =>
    0 < owner.2 && (owner.1 = "" || callbackIpMatches rules owner.1 remoteIp)

def hasOwnerForCollectorPn (counts : Dict String Nat) (pn : String) : Bool :=
  strip pn ≠ "" && counts.items.any fun owner =>
    0 < owner.2 && pnIsSameIdentity (strip pn) owner.1

/-- `_transparent_route_accepts_protocol_shape`. -/
def transparentRouteAccepts (expected : String) (shape : ProtocolShape) : Bool :=
  if expected = "at_text" then shape = .unknown || shape = .atText || shape = .rawTcp
  else if expected = "eybond_framed" then shape = .unknown || shape = .eybondFramed
  else false

def shapeOf (l : SharedListener) (sid : String) : ProtocolShape :=
  ((l.inventory.get? sid).map Entry.protocolShape).getD .unknown

def transparentCandidates (l : SharedListener) (sid : String) : List Reservation :=
  l.routes.values.filter fun reservation =>
    reservation.transparent && sid ∉ reservation.baselineSessionIds &&
      transparentRouteAccepts reservation.expectedSessionProtocol (l.shapeOf sid)

def reservedForTransparentRoute (rules : Rules) (l : SharedListener) (p : Pending) : Bool :=
  let candidates := l.transparentCandidates p.sessionId
  if candidates.length = 1 then true
  else candidates.any fun reservation =>
    reservation.collectorIp ≠ "" && callbackIpMatches rules reservation.collectorIp p.remoteIp

/-- `_matches_exclusive_collector_route`: identity first, the peer only without one. -/
def matchesExclusiveCollectorRoute (rules : Rules) (l : SharedListener) (remoteIp observedPn : String)
    (shape : ProtocolShape) : Bool :=
  l.routes.values.any fun reservation =>
    (!reservation.transparent ||
      transparentRouteAccepts reservation.expectedSessionProtocol shape) &&
    if strip observedPn ≠ "" then
      reservation.collectorPn ≠ "" &&
        pnIsSameIdentity reservation.collectorPn (strip observedPn)
    else
      reservation.collectorIp ≠ "" && callbackIpMatches rules reservation.collectorIp remoteIp

/-- `register_exclusive_collector_route`: every socket already pending is the baseline. -/
def registerExclusiveCollectorRoute (l : SharedListener) (collectorIp collectorPn : String)
    (transparent : Bool) (expectedSessionProtocol : String) : SharedListener :=
  { l with
    routeSeq := l.routeSeq + 1
    routes := l.routes.set (l.routeSeq + 1)
      { collectorIp := strip collectorIp, collectorPn := strip collectorPn
        baselineSessionIds := l.pending.items.map Prod.fst
        transparent := transparent
        expectedSessionProtocol := lower (strip expectedSessionProtocol) } }

/-- The first section of `unregister_exclusive_collector_route`. -/
def dropExclusiveRoute (l : SharedListener) (token : Nat) : SharedListener :=
  { l with routes := l.routes.erase token }

def removePending (l : SharedListener) (sid : String) : SharedListener :=
  { l with pending := l.pending.erase sid }

/-- `_claim_pending_socket`: the socket leaves the registry and its sniffer. -/
def claimPending (l : SharedListener) (sid : String) : SharedListener :=
  (l.removePending sid).markState sid .claimed

def closeUnclaimed (l : SharedListener) (sid : String) (state : SessionState) : SharedListener :=
  (l.removePending sid).markState sid state

def maxParkedSockets : Nat := 8

def evictParkedSockets (l : SharedListener) (newPending : String) : SharedListener :=
  let parked := l.pending.items.filter fun item => item.2.parked && item.1 ≠ newPending
  (parked.take (parked.length - (maxParkedSockets - 1))).foldl
    (fun l item => l.closeUnclaimed item.1 .parkedEvicted) l

/-- `_park_unclaimed_pending_socket` up to its watch. -/
def parkUnclaimed (l : SharedListener) (p : Pending) (chunk : Bytes) (state : SessionState) :
    SharedListener :=
  let l := l.evictParkedSockets p.sessionId
  let parked := { p with initialBytes := chunk ++ p.initialBytes, parked := true }
  ({ l with pending := l.pending.set p.sessionId parked }).markState p.sessionId state

/-- `_select_pending_socket_by_session_id`. -/
def selectPendingBySessionId (l : SharedListener) (sid : String) : Option Pending :=
  if strip sid = "" then none else l.pending.get? (strip sid)

def onlyOne (candidates : List Pending) : Option Pending :=
  match candidates with
  | [single] => some single
  | _ => none

def aliasedPending (rules : Rules) (l : SharedListener) (collectorIp : String) : List Pending :=
  l.pending.values.filter fun p =>
    rules.hairpinAlias collectorIp p.remoteIp || rules.broadcastAlias collectorIp p.remoteIp

def selectPendingSocket (rules : Rules) (l : SharedListener) (collectorIp : String) :
    Option Pending :=
  if collectorIp = "" then onlyOne l.pending.values
  else
    match l.pending.values.filter fun p => p.remoteIp = collectorIp with
    | [] => onlyOne (l.aliasedPending rules collectorIp)
    | exact => onlyOne exact

/-- `_select_pending_socket_by_collector_pn`. -/
def selectPendingByCollectorPn (l : SharedListener) (pn : String) : Option Pending :=
  if strip pn = "" then none
  else onlyOne (l.pending.values.filter fun p =>
    pnIsSameIdentity (strip pn)
      (strip (((l.inventory.get? p.sessionId).map Entry.collectorPn).getD "")))

def singleObject (objects : List Nat) : Option Nat :=
  match objects.dedup with
  | [single] => some single
  | _ => none

def connectionByCollectorPn (links : Links) (pn : String) : Option Nat :=
  if strip pn = "" then none
  else
    let same := links.byPn.items.filter fun item => pnIsSameIdentity (strip pn) item.1
    let candidates := same.map Prod.snd
    match links.byPn.get? (strip pn) with
    | some exact =>
      if links.connected exact then some exact
      else (singleObject (candidates.filter links.connected)).or (some exact)
    | none => (singleObject (candidates.filter links.connected)).or (singleObject candidates)

/-- `_connection_is_unbound_placeholder`. -/
def isUnboundPlaceholder (links : Links) (connection : Nat) : Bool :=
  !links.connected connection && connection ∉ links.bySession.values

/-- `_resolve_public_placeholder_alias`: the one idle placeholder this peer may stand for is
    indexed under the peer too. -/
def resolvePublicPlaceholderAlias (rules : Rules) (links : Links) (remoteIp : String) :
    Option Nat × Links :=
  match links.byIp.get? remoteIp with
  | some connection => (some connection, links)
  | none =>
    if remoteIp = "" then (none, links)
    else
      let candidates := links.byIp.items.filter fun item =>
        !links.connected item.2 &&
          (rules.hairpinAlias item.1 remoteIp || rules.broadcastAlias item.1 remoteIp)
      match singleObject (candidates.map Prod.snd) with
      | none => (none, links)
      | some connection =>
        (some connection, { links with byIp := links.byIp.set remoteIp connection })

def connectionByPeer (rules : Rules) (links : Links) (remoteIp : String) : Option Nat × Links :=
  match links.byIp.get? remoteIp with
  | some connection => (some connection, links)
  | none => resolvePublicPlaceholderAlias rules links remoteIp

def makeConnection (links : Links) : Nat × Links :=
  (links.made, { links with
    made := links.made + 1
    connected := fun c => if c = links.made then false else links.connected c })

/-- `ensure_connection` and `ensure_at_connection`: the placeholder of an address or a PN. -/
def ensureConnection (links : Links) (collectorIp collectorPn : String) : Links :=
  if collectorPn ≠ "" then
    match connectionByCollectorPn links collectorPn with
    | some _ => links
    | none =>
      let made := makeConnection links
      { made.2 with byPn := made.2.byPn.set (strip collectorPn) made.1 }
  else if collectorIp ≠ "" then
    match links.byIp.get? collectorIp with
    | some _ => links
    | none =>
      let made := makeConnection links
      { made.2 with byIp := made.2.byIp.set collectorIp made.1 }
  else links

/-- A looked-up connection is reused only as an unbound placeholder; else a new one is made. -/
def reuseOrMake (found : Option Nat) (links : Links) : Nat × Links :=
  match found with
  | some connection =>
    if isUnboundPlaceholder links connection then (connection, links) else makeConnection links
  | none => makeConnection links

inductive Sniffed where
  | gone
  | parked
  | closed
  | bound (wire : Wire) (connection : Nat)
  deriving DecidableEq, Repr

structure FirstChunk where
  chunk : Bytes
  shape : ProtocolShape
  pn : String
  source : String

def FirstChunk.canRoute (first : FirstChunk) : Bool :=
  first.pn ≠ "" && identitySourceIsStrong first.source

def firstChunk (rules : Rules) (chunk : Bytes) : FirstChunk :=
  ⟨chunk, classifyInitialProtocolShape chunk, (rules.initialPn chunk).1, (rules.initialPn chunk).2⟩

def hasOwner (rules : Rules) (l : SharedListener) (wire : Wire) (first : FirstChunk)
    (remoteIp : String) : Bool :=
  (first.canRoute && hasOwnerForCollectorPn (l.pnOwners wire) first.pn) ||
    (first.pn = "" && hasOwnerForRemoteIp rules (l.owners wire) remoteIp)

/-- The wire that takes the socket: raw bytes follow a registered owner, any other shape
    follows the bytes. -/
def routeWire (rules : Rules) (l : SharedListener) (first : FirstChunk) (remoteIp : String) :
    Wire :=
  match first.shape with
  | .atText => .atText
  | .rawTcp => if l.hasOwner rules .atText first remoteIp then .atText else .framed
  | _ => .framed

def routedConnection (rules : Rules) (links : Links) (first : FirstChunk) (remoteIp : String) :
    Option Nat × Links :=
  if first.canRoute then (connectionByCollectorPn links first.pn, links)
  else if first.pn = "" then connectionByPeer rules links remoteIp
  else (none, links)

def routedState : Wire → SessionState
  | .framed => .routedFramed
  | .atText => .routedAtText

def ownerlessState : Wire → SessionState
  | .framed => .parkedNoPayloadOwner
  | .atText => .parkedNoAtOwner

def bindSniffed (l : SharedListener) (wire : Wire) (p : Pending) (first : FirstChunk)
    (connection : Nat) (links : Links) : SharedListener :=
  let bound := { links with
    byIp := links.byIp.set p.remoteIp connection
    bySession := links.bySession.set p.sessionId connection }
  let l := l.setLinks wire bound
  let l := if first.pn = "" then l else l.markIdentity p.sessionId first.pn first.source
  l.markState p.sessionId (routedState wire)

/-- The routing half of `_sniff_pending_socket` for one wire. -/
def routeOn (rules : Rules) (l : SharedListener) (wire : Wire) (p : Pending) (first : FirstChunk) :
    SharedListener × Sniffed :=
  let found := routedConnection rules (l.links wire) first p.remoteIp
  let l' := l.setLinks wire found.2
  let reusable := (found.1.map (isUnboundPlaceholder found.2)).getD false
  if reusable || l.hasOwner rules wire first p.remoteIp then
    let chosen := reuseOrMake found.1 found.2
    (l'.bindSniffed wire p first chosen.1 chosen.2, .bound wire chosen.1)
  else (l'.parkUnclaimed p first.chunk (ownerlessState wire), .parked)

/-- `_sniff_pending_socket` once its chunk is read. -/
def sniffed (rules : Rules) (l : SharedListener) (sid : String) (chunk : Bytes) (exhausted : Bool) :
    SharedListener × Sniffed :=
  match l.pending.get? sid with
  | none => (l, .gone)
  | some p =>
    if chunk = [] then
      if exhausted then (l.closeUnclaimed sid .closedNoPayload, .closed)
      else
        (l.parkUnclaimed p []
          (if l.reservedForTransparentRoute rules p then .waitingForExclusiveRoute
            else .parkedWaitingForIdentity), .parked)
    else
      let first := firstChunk rules chunk
      let l := l.markFirstBytes sid chunk
      if first.shape = .unknown ∧ chunk.length < headerSize then
        (l.parkUnclaimed p chunk .waitingForMoreInitialBytes, .parked)
      else
        let l := l.removePending sid
        let l := if first.pn = "" then l else l.markIdentity sid first.pn first.source
        if l.matchesExclusiveCollectorRoute rules p.remoteIp first.pn first.shape then
          (l.parkUnclaimed p chunk .waitingForExclusiveRoute, .parked)
        else l.routeOn rules (l.routeWire rules first p.remoteIp) p first

/-- The lookup of `activate_pending_connection`: by the caller's PN, else by the peer. -/
def activatedConnection (rules : Rules) (links : Links) (collectorPn remoteIp : String) :
    Option Nat × Links :=
  if strip collectorPn ≠ "" then (connectionByCollectorPn links collectorPn, links)
  else connectionByPeer rules links remoteIp

/-- `activate_pending_connection` and `activate_pending_at_connection` up to their wait. -/
def activate (rules : Rules) (l : SharedListener) (wire : Wire) (p : Pending)
    (collectorIp collectorPn : String) : SharedListener × Nat :=
  let found := activatedConnection rules (l.links wire) collectorPn p.remoteIp
  let chosen := reuseOrMake found.1 found.2
  let links := chosen.2
  let indexed :=
    if strip collectorPn ≠ "" then { links with byPn := links.byPn.set (strip collectorPn) chosen.1 }
    else
      let byIp := links.byIp.set p.remoteIp chosen.1
      { links with
        byIp := if collectorIp ≠ "" ∧ byIp.get? collectorIp = none then byIp.set collectorIp chosen.1
          else byIp }
  let bound := { indexed with bySession := indexed.bySession.set p.sessionId chosen.1 }
  ((l.setLinks wire bound).markState p.sessionId (routedState wire), chosen.1)

def socketSessionClosed (l : SharedListener) (wire : Wire) (sid : String) (connection : Nat) :
    SharedListener :=
  if strip sid = "" then l
  else
    let links := l.links wire
    let l :=
      if links.bySession.get? (strip sid) = some connection then
        l.setLinks wire { links with bySession := links.bySession.erase (strip sid) }
      else l
    l.markState (strip sid) .closedDisconnected

/-- `_drop_connection_indexes_for_connection`. -/
def dropConnectionIndexes (l : SharedListener) (wire : Wire) (connection : Nat) : SharedListener :=
  let links := l.links wire
  let closed := (links.bySession.items.filter fun item => item.2 = connection).map Prod.fst
  let l := l.setLinks wire { links with
    byIp := links.byIp.dropValue connection
    byPn := links.byPn.dropValue connection
    bySession := links.bySession.dropValue connection }
  closed.foldl (fun l sid => l.markState sid .closedDisconnected) l

end SharedListener
end Listener
