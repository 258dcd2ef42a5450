import EybondLocal.Listener.Model

/-!
The listener between awaits: each action is one section of a task, with the bytes it read, the
answer it got or the call it serves chosen by the environment. Any interleaving of the
listener's tasks and callers is a list of actions. A socket is pending, or claimed by a caller
that has not activated it yet, or run by one connection.
-/
namespace Listener
open StripText OrderedDict BinaryFraming

structure SocketRun where
  wire : Wire
  sid : String
  connection : Nat
  deriving DecidableEq, Repr

structure Shared where
  listener : SharedListener
  claimed : Dict String Pending
  /-- Every `connection.run` started so far. -/
  runs : List SocketRun

def Shared.start (port : Nat) : Shared := ⟨SharedListener.start port, Dict.empty, []⟩

structure PeerAddress where
  ip : String
  visible : strip ip ≠ ""

theorem lanAddress_visible : strip "192.168.1.50" ≠ "" := by decide

inductive Action where
  | accept (peer : Option PeerAddress) (remotePort : Option Int) (task : Nat)
  | sniffed (sid : String) (chunk : Bytes) (exhausted : Bool)
  /-- `_mark_session_identity` after a probe or from a running connection. -/
  | identified (sid pn source : String)
  | firstBytes (sid : String) (chunk : Bytes)
  /-- A sniffer, watcher or probe moved bytes to or from `initial_bytes`. -/
  | buffered (sid : String) (bytes : Bytes)
  | retasked (sid : String) (task : Option Nat) (parked : Bool)
  /-- A probe or a route attempt notes how far it got. -/
  | marked (sid : String) (state : SessionState)
  /-- The watch ends, or a pending socket is retired. -/
  | unclaimedClosed (sid : String) (state : SessionState)
  /-- `release_collector_connections` takes a pending socket off the registry, ... -/
  | pendingDropped (sid : String)
  /-- ... and marks it as closed after a wait, whatever became of it meanwhile. -/
  | pendingClosed (sid : String)
  | claim (sid : String)
  | activate (wire : Wire) (sid collectorIp collectorPn : String)
  | ensure (wire : Wire) (collectorIp collectorPn : String)
  | connectionState (wire : Wire) (connection : Nat) (connected : Bool)
  | socketClosed (run : SocketRun)
  | connectionDropped (wire : Wire) (connection : Nat)
  /-- `_disconnect_connection_keys`: peers are popped first, the other indexes after the
      disconnects. -/
  | peersPopped (wire : Wire) (ips : List String)
  | indexesDropped (wire : Wire) (connections : List Nat)
  | routeRegistered (collectorIp collectorPn : String) (transparent : Bool) (protocol : String)
  | routeDropped (token : Nat)
  | ownersChanged (wire : Wire) (owners pnOwners : Dict String Nat)

namespace SharedListener

def Live (l : SharedListener) (sid : String) : Prop :=
  (l.pending.get? sid).isSome ∨ (l.framed.bySession.get? sid).isSome ∨
    (l.atText.bySession.get? sid).isSome

instance (l : SharedListener) (sid : String) : Decidable (l.Live sid) :=
  inferInstanceAs (Decidable (_ ∨ _ ∨ _))

def updatePending (l : SharedListener) (sid : String) (change : Pending → Pending) :
    SharedListener :=
  match l.pending.get? sid with
  | none => l
  | some p => { l with pending := l.pending.set sid (change p) }

def setConnected (l : SharedListener) (wire : Wire) (connection : Nat) (connected : Bool) :
    SharedListener :=
  l.setLinks wire { l.links wire with
    connected := fun c => if c = connection then connected else (l.links wire).connected c }

def popPeers (l : SharedListener) (wire : Wire) (ips : List String) : SharedListener :=
  l.setLinks wire { l.links wire with byIp := ips.foldl Dict.erase (l.links wire).byIp }

def dropIndexes (l : SharedListener) (wire : Wire) (connections : List Nat) : SharedListener :=
  l.setLinks wire { l.links wire with
    byPn := connections.foldl Dict.dropValue (l.links wire).byPn
    bySession := connections.foldl Dict.dropValue (l.links wire).bySession }

def setOwners (l : SharedListener) (wire : Wire) (owners pnOwners : Dict String Nat) :
    SharedListener :=
  { l with
    owners := fun w => if w = wire then owners else l.owners w
    pnOwners := fun w => if w = wire then pnOwners else l.pnOwners w }

end SharedListener

def withListener (s : Shared) (l : SharedListener) : Shared := { s with listener := l }

def recordRun (s : Shared) (sid : String) : SharedListener.Sniffed → Shared
  | .bound wire connection => { s with runs := ⟨wire, sid, connection⟩ :: s.runs }
  | _ => s

def step (rules : Rules) (s : Shared) : Action → Shared
  | .accept peer remotePort task =>
    withListener s (s.listener.accept (peer.elim "" PeerAddress.ip) remotePort task)
  | .sniffed sid chunk exhausted =>
    let result := s.listener.sniffed rules sid chunk exhausted
    recordRun (withListener s result.1) sid result.2
  | .identified sid pn source => withListener s (s.listener.markIdentity sid pn source)
  | .firstBytes sid chunk => withListener s (s.listener.markFirstBytes sid chunk)
  | .buffered sid bytes =>
    withListener s (s.listener.updatePending sid fun p => { p with initialBytes := bytes })
  | .retasked sid task parked =>
    withListener s (s.listener.updatePending sid fun p =>
      { p with sniffTask := task, parked := parked })
  | .marked sid state =>
    if state.isTerminal then s else withListener s (s.listener.markState sid state)
  | .unclaimedClosed sid state =>
    if (s.listener.pending.get? sid).isSome then
      withListener s (s.listener.closeUnclaimed sid state)
    else s
  | .pendingDropped sid => withListener s (s.listener.removePending sid)
  | .pendingClosed sid => withListener s (s.listener.markState sid .closedDisconnected)
  | .claim sid =>
    match s.listener.pending.get? sid with
    | none => s
    | some p =>
      { s with
        listener := s.listener.claimPending sid
        claimed := s.claimed.set sid { p with sniffTask := none } }
  | .activate wire sid collectorIp collectorPn =>
    match s.claimed.get? sid with
    | none => s
    | some p =>
      let result := s.listener.activate rules wire p collectorIp collectorPn
      { listener := result.1
        claimed := s.claimed.erase sid
        runs := ⟨wire, sid, result.2⟩ :: s.runs }
  | .ensure wire collectorIp collectorPn =>
    withListener s (s.listener.setLinks wire
      (SharedListener.ensureConnection (s.listener.links wire) collectorIp collectorPn))
  | .connectionState wire connection connected =>
    withListener s (s.listener.setConnected wire connection connected)
  | .socketClosed run =>
    if run ∈ s.runs then
      withListener s (s.listener.socketSessionClosed run.wire run.sid run.connection)
    else s
  | .connectionDropped wire connection =>
    withListener s (s.listener.dropConnectionIndexes wire connection)
  | .peersPopped wire ips => withListener s (s.listener.popPeers wire ips)
  | .indexesDropped wire connections => withListener s (s.listener.dropIndexes wire connections)
  | .routeRegistered collectorIp collectorPn transparent protocol =>
    withListener s
      (s.listener.registerExclusiveCollectorRoute collectorIp collectorPn transparent protocol)
  | .routeDropped token => withListener s (s.listener.dropExclusiveRoute token)
  | .ownersChanged wire owners pnOwners =>
    withListener s (s.listener.setOwners wire owners pnOwners)

theorem sniffed_step_listener (rules : Rules) (s : Shared) (sid : String) (chunk : Bytes)
    (exhausted : Bool) :
    (step rules s (.sniffed sid chunk exhausted)).listener =
      (s.listener.sniffed rules sid chunk exhausted).1 := by
  simp only [step]
  cases (s.listener.sniffed rules sid chunk exhausted).2 <;> rfl

end Listener
