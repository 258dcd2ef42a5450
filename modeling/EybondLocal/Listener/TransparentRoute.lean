import EybondLocal.Listener.Tracking

/-!
Who touches a socket that is reserved for a byte-transparent route. Normal routing checks the
reservation before it pauses a socket and claims or probes it after the wait; sniff routing
asks `_matches_exclusive_collector_route` instead; `pop_pending_socket` and
`async_identify_pending_session` do not ask at all.
-/
namespace Listener
open StripText CollectorIdentity OrderedDict BinaryFraming Execution

namespace SharedListener

/-- The selection of `pop_pending_socket_for_transparent_route`. -/
def transparentRoutePending (rules : Rules) (l : SharedListener) (token : Nat) : Option Pending :=
  match l.routes.get? token with
  | none => none
  | some reservation =>
    if reservation.transparent then
      onlyOne (l.pending.values.filter fun p =>
        let entry := l.inventory.get? p.sessionId
        let observedPn := strip ((entry.map Entry.collectorPn).getD "")
        let rivals := l.routes.items.filter fun item =>
          item.2.transparent && p.sessionId ∉ item.2.baselineSessionIds
        p.sessionId ∉ reservation.baselineSessionIds &&
        transparentRouteAccepts reservation.expectedSessionProtocol (l.shapeOf p.sessionId) &&
        !(l.shapeOf p.sessionId = .unknown && entry.map Entry.state ≠ some .exclusiveRouteSilent) &&
        if observedPn ≠ "" then
          reservation.collectorPn ≠ "" && pnIsSameIdentity reservation.collectorPn observedPn
        else
          (reservation.collectorIp ≠ "" &&
            callbackIpMatches rules reservation.collectorIp p.remoteIp) ||
          rivals.map Prod.fst = [token])
    else none

def foreignTo (l : SharedListener) (pn : String) (p : Pending) : Bool :=
  match l.inventory.get? p.sessionId with
  | none => false
  | some entry => strip entry.collectorPn ≠ "" &&
      identitySourceIsStrong (strip entry.collectorIdentitySource) &&
      !pnIsSameIdentity (strip pn) (strip entry.collectorPn)

end SharedListener

/-- How `pop_pending_socket_for_route` comes by the socket it pauses. -/
inductive RouteChoice where
  | bySession (sid : String)
  | byPeer (collectorIp : String)
  /-- One of the candidates it goes through for a PN. -/
  | candidate (collectorPn sid : String)

def RouteChoice.pick (rules : Rules) (l : SharedListener) : RouteChoice → Option Pending
  | .bySession sid => l.selectPendingBySessionId sid
  | .byPeer collectorIp => l.selectPendingSocket rules collectorIp
  | .candidate pn sid => (l.pending.get? sid).filter fun p => !l.foreignTo pn p

inductive Caller where
  | route
  | identify
  | transparent
  deriving DecidableEq, Repr

structure Routed where
  shared : Shared
  held : List (Caller × String)

def Routed.start (port : Nat) : Routed := ⟨Shared.start port, []⟩

inductive Move where
  /-- Any section but a claim. -/
  | listener (a : Action)
  | popPending (collectorIp : String)
  | routeChosen (choice : RouteChoice)
  | routeMatched (collectorPn : String)
  | identifyChosen (sid : String)
  | transparentChosen (token : Nat)
  /-- `_identify_pending_socket_for_route` after its read, with the probe its wire has. -/
  | probed (caller : Caller) (sid : String) (chunk : Bytes) (probe : Option String)
  /-- The passive read of a sniffer timed out. -/
  | readTimedOut (sid : String) (probe : Option String)
  | claimed (caller : Caller) (sid : String)
  | released (caller : Caller) (sid : String)

section Steps
open SharedListener
variable (rules : Rules)

def Routed.listener (d : Routed) : SharedListener := d.shared.listener

def Routed.act (d : Routed) (a : Action) : Routed := { d with shared := step rules d.shared a }

def Routed.hold (d : Routed) (caller : Caller) (p : Pending) : Routed :=
  { d.act rules (.retasked p.sessionId none p.parked) with
    held := (caller, p.sessionId) :: d.held }

def Routed.observed (d : Routed) (sid : String) (chunk : Bytes) : Routed :=
  if chunk = [] then d
  else
    let first := firstChunk rules chunk
    let d := (d.listener.pending.get? sid).elim d fun p =>
      d.act rules (.buffered sid (p.initialBytes ++ chunk))
    let d := d.act rules (.firstBytes sid chunk)
    if first.pn = "" then d else d.act rules (.identified sid first.pn first.source)

def Routed.reserved (d : Routed) (p : Pending) : Bool :=
  d.listener.reservedForTransparentRoute rules p

def isClaim : Action → Bool
  | .claim _ => true
  | _ => false

def move (d : Routed) : Move → Routed
  | .listener a => if isClaim a then d else d.act rules a
  | .popPending collectorIp =>
    match d.listener.selectPendingSocket rules collectorIp with
    | none => d
    | some p => d.act rules (.claim p.sessionId)
  | .routeChosen choice =>
    match choice.pick rules d.listener with
    | none => d
    | some p => if d.reserved rules p then d else d.hold rules .route p
  | .routeMatched pn =>
    match d.listener.selectPendingByCollectorPn pn with
    | none => d
    | some p => if d.reserved rules p then d else d.act rules (.claim p.sessionId)
  | .identifyChosen sid =>
    match d.listener.selectPendingBySessionId sid with
    | none => d
    | some p => d.hold rules .identify p
  | .transparentChosen token =>
    match d.listener.transparentRoutePending rules token with
    | none => d
    | some p => d.hold rules .transparent p
  | .probed caller sid chunk probe =>
    if (caller, sid) ∈ d.held ∧ caller ≠ .transparent then
      let observed := d.observed rules sid chunk
      match probe with
      | some kind =>
        if (firstChunk rules chunk).canRoute then observed
        else observed.act rules (.marked sid (.probingRouteIdentity kind))
      | none => observed
    else d
  | .readTimedOut sid probe =>
    match d.listener.pending.get? sid with
    | none => d
    | some p =>
      if d.reserved rules p then d.act rules (.marked sid .exclusiveRouteSilent)
      else
        d.act rules (.marked sid (probe.elim .waitingForIdentity .probingIdentity))
  | .claimed caller sid =>
    if (caller, sid) ∈ d.held ∧ caller ≠ .identify then
      { d.act rules (.claim sid) with held := d.held.erase (caller, sid) }
    else d
  | .released caller sid => { d with held := d.held.erase (caller, sid) }

/-- The socket a move writes to or hands over, other than to its transparent route, and the
    listener at that moment. -/
def touched (d : Routed) : Move → Option (Routed × Pending)
  | .listener (.sniffed sid chunk exhausted) =>
    match d.listener.pending.get? sid, (d.listener.sniffed rules sid chunk exhausted).2 with
    | some p, .bound _ _ => some (d.act rules (.firstBytes sid chunk), p)
    | _, _ => none
  | .popPending collectorIp =>
    (d.listener.selectPendingSocket rules collectorIp).map fun p => (d, p)
  | .routeMatched pn =>
    match d.listener.selectPendingByCollectorPn pn with
    | none => none
    | some p => if d.reserved rules p then none else some (d, p)
  | .probed caller sid chunk probe =>
    if (caller, sid) ∈ d.held ∧ caller ≠ .transparent ∧ probe.isSome = true ∧
        (firstChunk rules chunk).canRoute = false then
      ((d.observed rules sid chunk).listener.pending.get? sid).map fun p =>
        (d.observed rules sid chunk, p)
    else none
  | .readTimedOut sid probe =>
    match d.listener.pending.get? sid with
    | none => none
    | some p => if d.reserved rules p || probe.isNone then none else some (d, p)
  | .claimed .route sid =>
    if (.route, sid) ∈ d.held then (d.listener.pending.get? sid).map fun p => (d, p) else none
  | _ => none

def Undisturbed (d : Routed) (m : Move) : Prop :=
  ∀ d' p, touched rules d m = some (d', p) → d'.reserved rules p = false

structure Steady (l l' : SharedListener) : Prop where
  routes : l'.routes = l.routes
  routeSeq : l'.routeSeq = l.routeSeq
  shapes : ∀ k, l'.shapeOf k = l.shapeOf k
  pending : ∀ k p, l'.pending.get? k = some p → ∃ before, l.pending.get? k = some before ∧
    p.sessionId = before.sessionId ∧ p.remoteIp = before.remoteIp

namespace Steady
variable {l l' l'' : SharedListener}

theorem refl (l : SharedListener) : Steady l l :=
  ⟨rfl, rfl, fun _ => rfl, fun _ p held => ⟨p, held, rfl, rfl⟩⟩

theorem trans (first : Steady l l') (second : Steady l' l'') : Steady l l'' where
  routes := second.routes.trans first.routes
  routeSeq := second.routeSeq.trans first.routeSeq
  shapes k := (second.shapes k).trans (first.shapes k)
  pending k p held := by
    obtain ⟨between, held', id', ip'⟩ := second.pending k p held
    obtain ⟨before, held'', id'', ip''⟩ := first.pending k between held'
    exact ⟨before, held'', id'.trans id'', ip'.trans ip''⟩

theorem setLinks (wire : Wire) (links : Links) : Steady l (l.setLinks wire links) := by
  refine ⟨by simp, by cases wire <;> rfl, fun k => by simp [shapeOf], fun k p held => ?_⟩
  exact ⟨p, by simpa using held, rfl, rfl⟩

theorem updateEntry (k : String) {change : Entry → Entry}
    (keeps : ∀ entry, (change entry).protocolShape = entry.protocolShape) :
    Steady l (l.updateEntry k change) := by
  refine ⟨by simp, ?_, fun key => ?_, fun key p held => ⟨p, by simpa using held, rfl, rfl⟩⟩
  · unfold SharedListener.updateEntry
    split <;> rfl
  · unfold shapeOf
    rw [updateEntry_get?]
    split
    · rename_i hit
      rw [hit]
      cases l.inventory.get? k with
      | none => rfl
      | some entry => exact keeps entry
    · rfl

theorem markState (k : String) (state : SessionState) : Steady l (l.markState k state) := by
  refine updateEntry k fun entry => ?_
  unfold Entry.markState
  split <;> rfl

theorem markIdentity (k pn source : String) : Steady l (l.markIdentity k pn source) := by
  unfold SharedListener.markIdentity
  dsimp only
  split
  · exact refl l
  · refine trans (updateEntry k fun entry => ?_) ⟨rfl, rfl, fun _ => rfl, fun _ p held => ⟨p, held, rfl, rfl⟩⟩
    unfold Entry.markIdentity
    dsimp only
    split
    · rfl
    · split <;> rfl

theorem removePending (k : String) : Steady l (l.removePending k) := by
  refine ⟨rfl, rfl, fun _ => rfl, fun key p held => ⟨p, ?_, rfl, rfl⟩⟩
  simp only [SharedListener.removePending, Dict.get?_erase] at held
  split at held
  · cases held
  · exact held

theorem updatePending (k : String) {change : Pending → Pending}
    (keeps : ∀ p, (change p).sessionId = p.sessionId ∧ (change p).remoteIp = p.remoteIp) :
    Steady l (l.updatePending k change) := by
  unfold SharedListener.updatePending
  split
  · exact refl l
  · rename_i p held
    refine ⟨rfl, rfl, fun _ => rfl, fun key q found => ?_⟩
    rw [Dict.get?_set] at found
    split at found
    · rename_i hit
      cases Option.some.inj found
      exact ⟨p, hit ▸ held, (keeps p).1, (keeps p).2⟩
    · exact ⟨q, found, rfl, rfl⟩

theorem markAll (sids : List String) (state : SessionState) (l : SharedListener) :
    Steady l (sids.foldl (fun l k => l.markState k state) l) := by
  induction sids generalizing l with
  | nil => exact refl l
  | cons k rest ih => exact (markState k state).trans (ih _)

theorem activate (wire : Wire) (p : Pending) (collectorIp collectorPn : String) :
    Steady l (l.activate rules wire p collectorIp collectorPn).1 :=
  (setLinks wire _).trans (markState _ _)

theorem socketSessionClosed (wire : Wire) (k : String) (c : Nat) :
    Steady l (l.socketSessionClosed wire k c) := by
  unfold SharedListener.socketSessionClosed
  split
  · exact refl l
  · dsimp only
    split
    · exact (setLinks wire _).trans (markState _ _)
    · exact markState _ _

theorem dropConnectionIndexes (wire : Wire) (c : Nat) :
    Steady l (l.dropConnectionIndexes wire c) := (setLinks wire _).trans (markAll _ _ _)

end Steady

/-- The sections after which a socket may be reserved that was not: a route goes, its first
    bytes are classified, or its inventory entry is dropped. -/
def Action.reshapes : Action → Bool
  | .accept .. | .sniffed .. | .firstBytes .. | .routeDropped .. | .routeRegistered .. => true
  | _ => false

theorem steady_step {s : Shared} (a : Action) (plain : a.reshapes = false) :
    Steady s.listener (step rules s a).listener := by
  cases a with
  | accept | sniffed | firstBytes | routeDropped | routeRegistered => cases plain
  | identified sid pn source =>
    simp only [step, withListener]
    exact Steady.markIdentity sid pn source
  | buffered sid bytes => exact Steady.updatePending sid fun _ => ⟨rfl, rfl⟩
  | retasked sid task parked => exact Steady.updatePending sid fun _ => ⟨rfl, rfl⟩
  | marked sid state =>
    simp only [step, withListener]
    split
    · exact Steady.refl _
    · exact Steady.markState sid state
  | unclaimedClosed sid state =>
    simp only [step, withListener]
    split
    · exact (Steady.removePending sid).trans (Steady.markState sid state)
    · exact Steady.refl _
  | pendingDropped sid => exact Steady.removePending sid
  | pendingClosed sid => exact Steady.markState sid .closedDisconnected
  | claim sid =>
    simp only [step]
    split
    · exact Steady.refl _
    · exact (Steady.removePending sid).trans (Steady.markState sid .claimed)
  | activate wire sid collectorIp collectorPn =>
    simp only [step]
    split
    · exact Steady.refl _
    · exact Steady.activate rules wire _ collectorIp collectorPn
  | ensure wire collectorIp collectorPn => exact Steady.setLinks wire _
  | connectionState wire connection connected => exact Steady.setLinks wire _
  | socketClosed run =>
    simp only [step, withListener]
    split
    · exact Steady.socketSessionClosed run.wire run.sid run.connection
    · exact Steady.refl _
  | connectionDropped wire connection => exact Steady.dropConnectionIndexes wire connection
  | peersPopped wire ips => exact Steady.setLinks wire _
  | indexesDropped wire connections => exact Steady.setLinks wire _
  | ownersChanged wire owners pnOwners =>
    exact ⟨rfl, rfl, fun _ => rfl, fun _ p held => ⟨p, held, rfl, rfl⟩⟩

def SameRoutes (l l' : SharedListener) : Prop := l'.routes = l.routes ∧ l'.routeSeq = l.routeSeq

theorem SameRoutes.trans {l l' l'' : SharedListener} (first : SameRoutes l l')
    (second : SameRoutes l' l'') : SameRoutes l l'' :=
  ⟨second.1.trans first.1, second.2.trans first.2⟩

theorem Steady.same {l l' : SharedListener} (steady : Steady l l') : SameRoutes l l' :=
  ⟨steady.routes, steady.routeSeq⟩

theorem markFirstBytes_routes (l : SharedListener) (k : String) (chunk : Bytes) :
    SameRoutes l (l.markFirstBytes k chunk) := by
  refine ⟨updateEntry_routes l k _, ?_⟩
  unfold markFirstBytes SharedListener.updateEntry
  split <;> rfl

theorem closeAll_steady (items : List (String × Pending)) (l : SharedListener) :
    Steady l (items.foldl (fun l item => l.closeUnclaimed item.1 .parkedEvicted) l) := by
  induction items generalizing l with
  | nil => exact Steady.refl l
  | cons item rest ih =>
    exact ((Steady.removePending item.1).trans (Steady.markState item.1 .parkedEvicted)).trans (ih _)

theorem park_routes (l : SharedListener) (p : Pending) (chunk : Bytes) (state : SessionState) :
    SameRoutes l (l.parkUnclaimed p chunk state) := by
  have evicted : SameRoutes l (l.evictParkedSockets p.sessionId) := (closeAll_steady _ l).same
  exact evicted.trans (SameRoutes.trans ⟨rfl, rfl⟩ (Steady.markState _ _).same)

theorem noted_routes (l : SharedListener) (p : Pending) (chunk : Bytes) :
    SameRoutes l (l.noted rules p chunk) := by
  have removed := (markFirstBytes_routes l p.sessionId chunk).trans
    (Steady.removePending p.sessionId).same
  unfold noted
  dsimp only
  split
  · exact removed
  · exact removed.trans (Steady.markIdentity _ _ _).same

theorem bindSniffed_routes (l : SharedListener) (wire : Wire) (p : Pending) (first : FirstChunk)
    (c : Nat) (links : Links) : SameRoutes l (l.bindSniffed wire p first c links) := by
  unfold bindSniffed
  dsimp only
  split
  · exact ((Steady.setLinks wire _).trans (Steady.markState _ _)).same
  · exact ((Steady.setLinks wire _).trans
      ((Steady.markIdentity _ _ _).trans (Steady.markState _ _))).same

theorem routeOn_routes (l : SharedListener) (wire : Wire) (p : Pending) (first : FirstChunk) :
    SameRoutes l (l.routeOn rules wire p first).1 := by
  unfold routeOn
  dsimp only
  split
  · exact (Steady.setLinks wire _).same.trans (bindSniffed_routes _ _ _ _ _ _)
  · exact (Steady.setLinks wire _).same.trans (park_routes _ _ _ _)

theorem sniffed_routes {l : SharedListener} {p : Pending} (chunk : Bytes) (exhausted : Bool)
    (held : l.pending.get? p.sessionId = some p) :
    SameRoutes l (l.sniffed rules p.sessionId chunk exhausted).1 := by
  rcases sniffed_cases rules chunk exhausted held with ⟨-, -, closed⟩ | ⟨state, alive, parked⟩ |
    short | exclusive | ⟨-, -, routed⟩
  · rw [closed]
    exact ((Steady.removePending _).trans (Steady.markState _ _)).same
  · rw [parked]
    exact park_routes _ _ _ _
  · rw [short]
    exact (markFirstBytes_routes _ _ _).trans (park_routes _ _ _ _)
  · rw [exclusive]
    exact (noted_routes rules _ _ _).trans (park_routes _ _ _ _)
  · rw [routed]
    exact (noted_routes rules _ _ _).trans (routeOn_routes rules _ _ _ _)

/-- Tokens are numbered, so a new route never takes the place of another. -/
def Tokens (l : SharedListener) : Prop := ∀ token r, l.routes.get? token = some r → token ≤ l.routeSeq

theorem tokens_of_same {l l' : SharedListener} (tokens : Tokens l) (same : SameRoutes l l') :
    Tokens l' := by
  intro token r held
  rw [same.1] at held
  rw [same.2]
  exact tokens token r held

theorem tokens_step {s : Shared} (a : Action) (tracked : Tracked s) (tokens : Tokens s.listener) :
    Tokens (step rules s a).listener := by
  by_cases plain : a.reshapes = false
  · exact tokens_of_same tokens (steady_step rules a plain).same
  · cases a with
    | accept peer remotePort task =>
      refine tokens_of_same tokens ?_
      simp only [step, withListener, accept]
      split <;> exact ⟨rfl, rfl⟩
    | sniffed sid chunk exhausted =>
      rw [sniffed_step_listener]
      cases held : s.listener.pending.get? sid with
      | none => simpa [sniffed, held] using tokens
      | some p =>
        cases tracked.pendingKey sid p held
        exact tokens_of_same tokens (sniffed_routes rules chunk exhausted held)
    | firstBytes sid chunk => exact tokens_of_same tokens (markFirstBytes_routes _ sid chunk)
    | routeDropped token =>
      intro token' r held
      simp only [step, withListener, dropExclusiveRoute, Dict.get?_erase] at held
      split at held
      · cases held
      · exact tokens token' r held
    | routeRegistered collectorIp collectorPn transparent protocol =>
      intro token r held
      simp only [step, withListener, registerExclusiveCollectorRoute, Dict.get?_set] at held ⊢
      split at held
      · omega
      · have le := tokens token r held
        omega
    | _ => exact absurd rfl plain

theorem reserved_congr {l l' : SharedListener} {p p' : Pending} (sid : p'.sessionId = p.sessionId)
    (ip : p'.remoteIp = p.remoteIp)
    (candidates : l'.transparentCandidates p.sessionId = l.transparentCandidates p.sessionId) :
    l'.reservedForTransparentRoute rules p' = l.reservedForTransparentRoute rules p := by
  unfold reservedForTransparentRoute
  rw [sid, ip, candidates]

theorem candidates_of_steady {l l' : SharedListener} (steady : Steady l l') (k : String) :
    l'.transparentCandidates k = l.transparentCandidates k := by
  unfold transparentCandidates
  rw [steady.routes, steady.shapes]

theorem candidates_of_registered {l : SharedListener} (tokens : Tokens l) {k : String} {p : Pending}
    (held : l.pending.get? k = some p) (collectorIp collectorPn : String) (transparent : Bool)
    (protocol : String) :
    (l.registerExclusiveCollectorRoute collectorIp collectorPn transparent
      protocol).transparentCandidates k = l.transparentCandidates k := by
  have unused : l.routes.get? (l.routeSeq + 1) = none := by
    cases used : l.routes.get? (l.routeSeq + 1) with
    | none => rfl
    | some r => exact absurd (tokens _ r used) (by omega)
  have known : k ∈ l.pending.items.map Prod.fst :=
    List.mem_map.mpr ⟨(k, p), (Dict.get?_eq_some_iff _ _ _).mp held, rfl⟩
  unfold transparentCandidates
  have shape : (l.registerExclusiveCollectorRoute collectorIp collectorPn transparent
      protocol).shapeOf k = l.shapeOf k := rfl
  rw [shape]
  unfold registerExclusiveCollectorRoute
  dsimp only
  rw [Dict.values, Dict.set_items_of_absent unused, List.map_append, List.filter_append]
  simp [known, Dict.values]

def KeepsHeld (d d' : Routed) : Prop :=
  ∀ caller sid, (caller, sid) ∈ d.held → caller ≠ .transparent →
    ∀ p, d'.listener.pending.get? sid = some p → d'.reserved rules p = false

def Parks (l : SharedListener) (p : Pending) (chunk : Bytes) : Prop :=
  let first := firstChunk rules chunk
  let l' := l.noted rules p chunk
  let wire := l'.routeWire rules first p.remoteIp
  let found := routedConnection rules (l'.links wire) first p.remoteIp
  (first.shape = .unknown ∧ chunk.length < headerSize) ∨
    l'.matchesExclusiveCollectorRoute rules p.remoteIp first.pn first.shape = true ∨
      ((∀ c, found.1 = some c → isUnboundPlaceholder found.2 c = false) ∧
        l'.hasOwner rules wire first p.remoteIp = false)

/-- The unchecked entry points meet no reserved socket, a reserved socket that is sniffed
    has nowhere to go, and no socket becomes reserved while a call holds it. -/
def Respectful (d : Routed) : Move → Prop
  | .listener (.sniffed sid chunk exhausted) =>
    KeepsHeld rules d (d.act rules (.sniffed sid chunk exhausted)) ∧
      ∀ p, d.listener.pending.get? sid = some p →
        (d.act rules (.firstBytes sid chunk)).reserved rules p = true →
          Parks rules d.listener p chunk
  | .listener (.accept peer remotePort task) =>
    KeepsHeld rules d (d.act rules (.accept peer remotePort task))
  | .listener (.firstBytes sid chunk) => KeepsHeld rules d (d.act rules (.firstBytes sid chunk))
  | .listener (.routeDropped token) => KeepsHeld rules d (d.act rules (.routeDropped token))
  | .popPending collectorIp => ∀ p, d.listener.selectPendingSocket rules collectorIp = some p →
      d.reserved rules p = false
  | .identifyChosen sid => ∀ p, d.listener.selectPendingBySessionId sid = some p →
      d.reserved rules p = false
  | .probed _ sid chunk _ => KeepsHeld rules d (d.observed rules sid chunk)
  | _ => True

structure HeldFree (d : Routed) : Prop where
  tracked : Tracked d.shared
  tokens : Tokens d.listener
  free : KeepsHeld rules d d

namespace HeldFree
variable {rules} {d : Routed}

theorem start (port : Nat) : HeldFree rules (Routed.start port) where
  tracked := Tracked.start port
  tokens _ _ held := by cases held
  free _ _ held := by cases held

theorem act_of_keeps (valid : HeldFree rules d) (a : Action) (keeps : KeepsHeld rules d (d.act rules a)) :
    HeldFree rules (d.act rules a) :=
  ⟨tracked_step rules a valid.tracked, tokens_step rules a valid.tracked valid.tokens, keeps⟩

theorem act (valid : HeldFree rules d) (a : Action) (plain : a.reshapes = false) :
    HeldFree rules (d.act rules a) := by
  have steady : Steady d.listener (d.act rules a).listener := steady_step rules a plain
  refine valid.act_of_keeps a fun caller sid held normal p found => ?_
  obtain ⟨before, was, same, ip⟩ := steady.pending sid p found
  have unreserved := valid.free caller sid held normal before was
  unfold Routed.reserved at unreserved ⊢
  rw [reserved_congr rules same ip (candidates_of_steady steady _), unreserved]

theorem registered (valid : HeldFree rules d) (collectorIp collectorPn : String) (transparent : Bool)
    (protocol : String) :
    HeldFree rules (d.act rules (.routeRegistered collectorIp collectorPn transparent protocol)) := by
  refine valid.act_of_keeps _ fun caller sid held normal p found => ?_
  have was : d.listener.pending.get? sid = some p := found
  have unreserved := valid.free caller sid held normal p was
  unfold Routed.reserved at unreserved ⊢
  rw [← unreserved]
  refine reserved_congr rules rfl rfl ?_
  have key : p.sessionId = sid := valid.tracked.pendingKey sid p was
  rw [key]
  exact candidates_of_registered valid.tokens was collectorIp collectorPn transparent protocol

theorem hold (valid : HeldFree rules d) {caller : Caller} {p : Pending}
    (pending : d.listener.pending.get? p.sessionId = some p)
    (checked : caller ≠ .transparent → d.reserved rules p = false) :
    HeldFree rules (d.hold rules caller p) := by
  have paused := valid.act (.retasked p.sessionId none p.parked) rfl
  have steady : Steady d.listener (d.act rules (.retasked p.sessionId none p.parked)).listener :=
    steady_step rules _ rfl
  refine ⟨paused.tracked, paused.tokens, fun caller' sid held normal q found => ?_⟩
  rcases List.mem_cons.mp held with new | earlier
  · cases new
    obtain ⟨before, was, same, ip⟩ := steady.pending p.sessionId q found
    cases Option.some.inj (was.symm.trans pending)
    have unreserved := checked normal
    unfold Routed.reserved at unreserved ⊢
    rw [← unreserved]
    exact reserved_congr rules same ip (candidates_of_steady steady _)
  · exact paused.free caller' sid earlier normal q found

theorem fewer (valid : HeldFree rules d) {held : List (Caller × String)} (sub : held ⊆ d.held) :
    HeldFree rules { d with held := held } :=
  ⟨valid.tracked, valid.tokens, fun caller sid member => valid.free caller sid (sub member)⟩

end HeldFree

variable {d : Routed}

theorem onlyOne_mem {candidates : List Pending} {p : Pending} (single : onlyOne candidates = some p) :
    p ∈ candidates := by
  unfold onlyOne at single
  split at single
  · cases single
    exact List.mem_singleton_self _
  · cases single

theorem selected_pending {s : Shared} (tracked : Tracked s) {p : Pending}
    (listed : p ∈ s.listener.pending.values) : s.listener.pending.get? p.sessionId = some p := by
  obtain ⟨k, held⟩ := Dict.mem_values.mp listed
  cases tracked.pendingKey k p held
  exact held

theorem selectPendingSocket_listed {l : SharedListener} {collectorIp : String} {p : Pending}
    (selected : l.selectPendingSocket rules collectorIp = some p) : p ∈ l.pending.values := by
  unfold selectPendingSocket at selected
  split at selected
  · exact onlyOne_mem selected
  · split at selected
    · exact List.mem_of_mem_filter (onlyOne_mem selected)
    · exact List.mem_of_mem_filter (onlyOne_mem selected)

theorem selectPendingBySessionId_pending {s : Shared} (tracked : Tracked s) {sid : String}
    {p : Pending} (selected : s.listener.selectPendingBySessionId sid = some p) :
    s.listener.pending.get? p.sessionId = some p := by
  unfold selectPendingBySessionId at selected
  split at selected
  · cases selected
  · rw [tracked.pendingKey _ p selected]
    exact selected

theorem pick_pending {s : Shared} (tracked : Tracked s) {choice : RouteChoice} {p : Pending}
    (picked : choice.pick rules s.listener = some p) :
    s.listener.pending.get? p.sessionId = some p := by
  cases choice with
  | bySession sid => exact selectPendingBySessionId_pending tracked picked
  | byPeer collectorIp => exact selected_pending tracked (selectPendingSocket_listed rules picked)
  | candidate pn sid =>
    have held := (Option.filter_eq_some_iff.mp picked).1
    cases tracked.pendingKey sid p held
    exact held

theorem transparentRoutePending_listed {l : SharedListener} {token : Nat} {p : Pending}
    (selected : l.transparentRoutePending rules token = some p) : p ∈ l.pending.values := by
  unfold transparentRoutePending at selected
  split at selected
  · cases selected
  · split at selected
    · exact List.mem_of_mem_filter (onlyOne_mem selected)
    · cases selected

@[simp] theorem act_held (a : Action) : (d.act rules a).held = d.held := rfl

theorem observed_held (sid : String) (chunk : Bytes) :
    (d.observed rules sid chunk).held = d.held := by
  unfold Routed.observed
  split
  · rfl
  · dsimp only
    split
    · cases d.listener.pending.get? sid with
      | none => simp only [act_held, Option.elim_none]
      | some p => simp only [act_held, Option.elim_some]
    · cases d.listener.pending.get? sid with
      | none => simp only [act_held, Option.elim_none]
      | some p => simp only [act_held, Option.elim_some]

theorem observed_books (sid : String) (chunk : Bytes) (tracked : Tracked d.shared)
    (tokens : Tokens d.listener) : Tracked (d.observed rules sid chunk).shared ∧
      Tokens (d.observed rules sid chunk).listener := by
  have acts : ∀ {d : Routed} (a : Action), Tracked d.shared ∧ Tokens d.listener →
      Tracked (d.act rules a).shared ∧ Tokens (d.act rules a).listener :=
    fun a books => ⟨tracked_step rules a books.1, tokens_step rules a books.1 books.2⟩
  unfold Routed.observed
  split
  · exact ⟨tracked, tokens⟩
  · have buffered : ∀ found : Option Pending, Tracked (found.elim d fun p =>
        d.act rules (.buffered sid (p.initialBytes ++ chunk))).shared ∧
        Tokens (found.elim d fun p =>
          d.act rules (.buffered sid (p.initialBytes ++ chunk))).listener := by
      intro found
      cases found with
      | none => exact ⟨tracked, tokens⟩
      | some p => exact acts _ ⟨tracked, tokens⟩
    dsimp only
    split
    · exact acts _ (buffered _)
    · exact acts _ (acts _ (buffered _))

theorem move_free (m : Move) (valid : HeldFree rules d) (respectful : Respectful rules d m) :
    HeldFree rules (move rules d m) := by
  cases m with
  | listener a =>
    simp only [move]
    split
    · exact valid
    · by_cases plain : a.reshapes = false
      · exact valid.act a plain
      · cases a with
        | accept peer remotePort task => exact valid.act_of_keeps _ respectful
        | sniffed sid chunk exhausted => exact valid.act_of_keeps _ respectful.1
        | firstBytes sid chunk => exact valid.act_of_keeps _ respectful
        | routeDropped token => exact valid.act_of_keeps _ respectful
        | routeRegistered collectorIp collectorPn transparent protocol =>
          exact valid.registered collectorIp collectorPn transparent protocol
        | _ => exact absurd rfl plain
  | popPending collectorIp =>
    simp only [move]
    split
    · exact valid
    · exact valid.act _ rfl
  | routeChosen choice =>
    simp only [move]
    split
    · exact valid
    · rename_i p picked
      split
      · exact valid
      · rename_i unreserved
        exact valid.hold (pick_pending rules valid.tracked picked) fun _ => by simpa using unreserved
  | routeMatched pn =>
    simp only [move]
    split
    · exact valid
    · split
      · exact valid
      · exact valid.act _ rfl
  | identifyChosen sid =>
    simp only [move]
    split
    · exact valid
    · rename_i p selected
      exact valid.hold (selectPendingBySessionId_pending valid.tracked selected)
        fun _ => respectful p selected
  | transparentChosen token =>
    simp only [move]
    split
    · exact valid
    · rename_i p selected
      exact valid.hold (selected_pending valid.tracked (transparentRoutePending_listed rules selected))
        fun normal => absurd rfl normal
  | probed caller sid chunk probe =>
    have books := observed_books rules sid chunk valid.tracked valid.tokens
    have observed : HeldFree rules (d.observed rules sid chunk) :=
      ⟨books.1, books.2, fun caller' sid' held => respectful caller' sid' (observed_held rules sid chunk ▸ held)⟩
    simp only [move]
    split
    · split
      · split
        · exact observed
        · exact observed.act _ rfl
      · exact observed
    · exact valid
  | readTimedOut sid probe =>
    simp only [move]
    split
    · exact valid
    · split
      · exact valid.act _ rfl
      · exact valid.act _ rfl
  | claimed caller sid =>
    simp only [move]
    split
    · exact (valid.act (.claim sid) rfl).fewer List.erase_subset
    · exact valid
  | released caller sid => exact valid.fewer List.erase_subset

theorem parks_not_bound {s : Shared} (tracked : Tracked s) {sid : String} {p : Pending}
    {chunk : Bytes} {exhausted : Bool} {wire : Wire} {c : Nat}
    (held : s.listener.pending.get? sid = some p)
    (bound : (s.listener.sniffed rules sid chunk exhausted).2 = .bound wire c) :
    ¬ Parks rules s.listener p chunk := by
  cases tracked.pendingKey sid p held
  rcases sniffed_cases rules chunk exhausted held with ⟨-, -, closed⟩ | ⟨state, alive, parked⟩ |
    short | exclusive | ⟨long, open', routed⟩
  · rw [closed] at bound
    cases bound
  · rw [parked] at bound
    cases bound
  · rw [short] at bound
    cases bound
  · rw [exclusive] at bound
    cases bound
  · rw [routed] at bound
    rintro (still | exclusive | ⟨idle, ownerless⟩)
    · exact long still
    · rw [open'] at exclusive
      cases exclusive
    · unfold routeOn at bound
      dsimp only at bound
      rw [ownerless, Bool.or_false] at bound
      split at bound
      · rename_i reusable
        cases found : (routedConnection rules ((s.listener.noted rules p chunk).links
            ((s.listener.noted rules p chunk).routeWire rules (firstChunk rules chunk) p.remoteIp))
            (firstChunk rules chunk) p.remoteIp).1 with
        | none =>
          rw [found] at reusable
          cases reusable
        | some c =>
          rw [found, Option.map_some, Option.getD_some, idle c found] at reusable
          cases reusable
      · cases bound

theorem move_undisturbed (m : Move) (valid : HeldFree rules d) (respectful : Respectful rules d m) :
    Undisturbed rules d m := by
  intro d' p hit
  cases m with
  | listener a =>
    cases a with
    | sniffed sid chunk exhausted =>
      simp only [touched] at hit
      split at hit
      · rename_i q wire c held bound
        cases hit
        by_contra reserved
        have parks := respectful.2 p held (by simpa using reserved)
        exact parks_not_bound rules valid.tracked held bound parks
      · cases hit
    | _ => cases hit
  | popPending collectorIp =>
    simp only [touched] at hit
    obtain ⟨q, selected, same⟩ := Option.map_eq_some_iff.mp hit
    cases same
    exact respectful p selected
  | routeMatched pn =>
    simp only [touched] at hit
    split at hit
    · cases hit
    · split at hit
      · cases hit
      · rename_i unreserved
        cases hit
        simpa using unreserved
  | probed caller sid chunk probe =>
    simp only [touched] at hit
    split at hit
    · rename_i writes
      obtain ⟨q, pending, same⟩ := Option.map_eq_some_iff.mp hit
      cases same
      exact respectful caller sid writes.1 writes.2.1 p pending
    · cases hit
  | readTimedOut sid probe =>
    simp only [touched] at hit
    split at hit
    · cases hit
    · split at hit
      · cases hit
      · rename_i writes
        cases hit
        simp only [Bool.or_eq_true, not_or] at writes
        simpa using writes.1
  | claimed caller sid =>
    cases caller with
    | route =>
      simp only [touched] at hit
      split at hit
      · rename_i held
        obtain ⟨q, pending, same⟩ := Option.map_eq_some_iff.mp hit
        cases same
        exact valid.free .route sid held (by simp) p pending
      · cases hit
    | identify | transparent => cases hit
  | routeChosen | identifyChosen | transparentChosen | released => cases hit

/-- In a run of respectful moves nothing but its transparent route touches a reserved socket. -/
theorem reserved_sockets_undisturbed (port : Nat) (moves : List Move)
    (respectful : EveryStep (move rules) (Respectful rules) (Routed.start port) moves) :
    EveryStep (move rules) (Undisturbed rules) (Routed.start port) moves :=
  everyStep_of_invariant (fun _ m valid admitted => move_free rules m valid admitted)
    (fun _ m valid admitted => move_undisturbed rules m valid admitted) (HeldFree.start port)
    respectful

end Steps
theorem keepsHeld_of_none {rules : Rules} {d d' : Routed} (none : d.held = []) :
    KeepsHeld rules d d' := by
  intro caller sid held
  rw [none] at held
  cases held

def plainRules : Rules := ⟨fun _ _ => false, fun _ _ => false, fun _ => ("", "")⟩

def silentReserved : List Move :=
  [.listener (.routeRegistered "192.168.1.50" "" true "at_text"),
    .listener (.accept (some ⟨"192.168.1.50", lanAddress_visible⟩) none 0),
    .readTimedOut "listener-8899-1" (some "at_text")]

def handedToItsRoute : List Move :=
  silentReserved ++ [.transparentChosen 1, .claimed .transparent "listener-8899-1"]

theorem handed_to_its_route_undisturbed :
    EveryStep (move plainRules) (Respectful plainRules) (Routed.start 8899) handedToItsRoute ∧
      EveryStep (move plainRules) (Undisturbed plainRules) (Routed.start 8899)
        handedToItsRoute := by
  have respectful : EveryStep (move plainRules) (Respectful plainRules) (Routed.start 8899)
      handedToItsRoute := by
    refine ⟨trivial, ⟨keepsHeld_of_none ?_, ⟨trivial, trivial, trivial, trivial⟩⟩⟩
    decide +kernel
  exact ⟨respectful, reserved_sockets_undisturbed plainRules 8899 handedToItsRoute respectful⟩

def identifiedMeanwhile : List Move :=
  silentReserved ++ [.identifyChosen "listener-8899-1",
    .probed .identify "listener-8899-1" [] (some "at_dtupn")]

theorem reserved_socket_probed :
    ¬ EveryStep (move plainRules) (Undisturbed plainRules) (Routed.start 8899)
        identifiedMeanwhile := by
  rintro ⟨-, -, -, -, probe, -⟩
  have writes : (touched plainRules (run (move plainRules) (Routed.start 8899)
      (silentReserved ++ [.identifyChosen "listener-8899-1"]))
      (.probed .identify "listener-8899-1" [] (some "at_dtupn"))).isSome = true := by
    decide +kernel
  obtain ⟨⟨d', p⟩, hit⟩ := Option.isSome_iff_exists.mp writes
  have unreserved := probe d' p hit
  have reserved : ((touched plainRules (run (move plainRules) (Routed.start 8899)
      (silentReserved ++ [.identifyChosen "listener-8899-1"]))
      (.probed .identify "listener-8899-1" [] (some "at_dtupn"))).map fun hit =>
        hit.1.reserved plainRules hit.2) = some true := by decide +kernel
  rw [hit, Option.map_some, unreserved] at reserved
  cases reserved

end Listener
