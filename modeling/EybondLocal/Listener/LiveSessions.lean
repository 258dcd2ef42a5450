import EybondLocal.Listener.Tracking

/-!
The inventory against the live sockets: who is listed by `discovered_collector_sessions` and
who is found by `release_collector_connections`. A live session keeps its entry and stays
visible, unless a later accept drops the entry or a stale close marks it.
-/
namespace Listener
open StripText CollectorIdentity OrderedDict Execution

def ProtocolShape.text : ProtocolShape → String
  | .unknown => "unknown"
  | .atText => "at_text"
  | .eybondFramed => "eybond_framed"
  | .rawTcp => "raw_tcp"

/-- One record of `discovered_collector_sessions`. -/
structure DiscoveredSession where
  sessionId : String
  peerIp : String
  peerPort : Option Int
  state : SessionState
  protocolShape : ProtocolShape
  collectorPn : String
  collectorIdentitySource : String
  collectorIdentitySources : List String
  observedProtocolShapes : List String

namespace SharedListener

def hasLiveBacking (l : SharedListener) (sid : String) : Bool :=
  sid ≠ "" && ((l.pending.values.any fun p => strip p.sessionId = sid) ||
    (l.framed.bySession.get? sid).isSome || (l.atText.bySession.get? sid).isSome)

def discoveredSession (l : SharedListener) (entry : Entry) : Option DiscoveredSession :=
  if strip entry.collectorPn = "" ∨ strip entry.remoteIp = "" ∨ entry.state.isClosed = true ∨
      entry.state = .parkedPeerClosed ∨ l.hasLiveBacking (strip entry.sessionId) = false then none
  else some
    { sessionId := entry.sessionId
      peerIp := strip entry.remoteIp
      peerPort := entry.remotePort
      state := entry.state
      protocolShape := entry.protocolShape
      collectorPn := strip entry.collectorPn
      collectorIdentitySource := entry.collectorIdentitySource
      collectorIdentitySources := entry.collectorIdentitySources.mergeSort
      observedProtocolShapes := (entry.observedProtocolShapes.map ProtocolShape.text).mergeSort }

def discoveredCollectorSessions (l : SharedListener) : List DiscoveredSession :=
  l.inventory.values.filterMap l.discoveredSession

/-- The selection of `_disconnect_matching_session_connections`. -/
def matchingSessionConnections (rules : Rules) (l : SharedListener) (wire : Wire)
    (collectorIp collectorPn preserve : String) : List Nat :=
  (((l.links wire).bySession.items.filter fun item =>
    !(preserve ≠ "" && item.1 = preserve) &&
    match l.inventory.get? item.1 with
    | none => false
    | some entry =>
      if collectorPn ≠ "" then pnIsSameIdentity collectorPn (strip entry.collectorPn)
      else if collectorIp ≠ "" then callbackIpMatches rules collectorIp (strip entry.remoteIp)
      else false).map Prod.snd).eraseDups

/-- The pending sockets `release_collector_connections` closes. -/
def matchingPending (rules : Rules) (l : SharedListener) (collectorIp preserve : String) :
    List String :=
  ((l.pending.items.filter fun item =>
    !(preserve ≠ "" && item.2.sessionId = preserve) &&
      callbackIpMatches rules collectorIp item.2.remoteIp).map Prod.fst)

def FoundByRelease (rules : Rules) (l : SharedListener) (sid : String) (entry : Entry) : Prop :=
  (∀ wire c, (l.links wire).bySession.get? sid = some c →
    ∀ collectorIp collectorPn preserve, preserve ≠ sid → collectorPn ≠ "" →
      pnIsSameIdentity collectorPn (strip entry.collectorPn) = true →
        c ∈ l.matchingSessionConnections rules wire collectorIp collectorPn preserve) ∧
  ∀ p, l.pending.get? sid = some p → ∀ collectorIp preserve, preserve ≠ sid →
    callbackIpMatches rules collectorIp p.remoteIp = true →
      sid ∈ l.matchingPending rules collectorIp preserve

def Visible (rules : Rules) (l : SharedListener) : Prop :=
  ∀ sid, l.Live sid → ∃ entry, l.inventory.get? sid = some entry ∧ entry.sessionId = sid ∧
    (strip entry.collectorPn ≠ "" →
      (∃ listed ∈ l.discoveredCollectorSessions,
        listed.sessionId = sid ∧ listed.collectorPn = strip entry.collectorPn) ∧
      l.FoundByRelease rules sid entry)

def Covered (l : SharedListener) : Prop := ∀ k, l.Live k → l.Shown k

end SharedListener

/-- An accept drops only entries of sockets that are gone, a claimed socket is activated while
    its entry is there and open, and a stale close meets no live session. -/
def Careful (s : Shared) : Action → Prop
  | .accept peer _ _ => peer.isSome → ∀ k ∈ s.listener.displaced, ¬ s.listener.Live k
  | .activate _ sid _ _ => (s.claimed.get? sid).isSome → s.listener.Shown sid
  | .pendingClosed sid => ¬ s.listener.Live sid
  | _ => True

section Coverage
open SharedListener
variable (rules : Rules) {s : Shared}

theorem Tracked.nonempty (tracked : Tracked s) {k : String} (seen : s.Seen k) : k ≠ "" := by
  obtain ⟨n, -, rfl⟩ := tracked.numbered k seen
  intro blank
  have texts := congrArg String.toList blank
  simp [sessionIdOf] at texts

theorem live_backed (tracked : Tracked s) {k : String} (seen : s.Seen k) (live : s.listener.Live k) :
    s.listener.hasLiveBacking k = true := by
  have named := tracked.nonempty seen
  simp only [hasLiveBacking, ne_eq, named, not_false_eq_true, decide_true, Bool.true_and,
    Bool.or_eq_true]
  rcases live with pending | framed | atText
  · obtain ⟨p, held⟩ := Option.isSome_iff_exists.mp pending
    refine Or.inl (Or.inl (List.any_eq_true.mpr ⟨p, Dict.mem_values.mpr ⟨k, held⟩, ?_⟩))
    rw [tracked.pendingKey k p held]
    exact decide_eq_true (tracked.trimmed seen)
  · exact Or.inl (Or.inr framed)
  · exact Or.inr atText

theorem not_ended {state : SessionState} (alive : state.isTerminal = false) :
    state.isClosed = false ∧ state ≠ .parkedPeerClosed := by
  constructor
  · unfold SessionState.isTerminal at alive
    simp only [Bool.or_eq_false_iff] at alive
    exact alive.1.1.1.1
  · rintro rfl
    cases alive

theorem visible_of_covered (tracked : Tracked s) (covered : s.listener.Covered) :
    s.listener.Visible rules := by
  intro sid live
  obtain ⟨entry, held, alive⟩ := covered sid live
  obtain ⟨own, visible⟩ := tracked.entries sid entry held
  have seen : s.Seen sid := Or.inr (Or.inr (Or.inr (Option.isSome_of_eq_some held)))
  refine ⟨entry, held, own, fun named => ⟨?_, ?_, ?_⟩⟩
  · obtain ⟨open', notClosed⟩ := not_ended alive
    have backed := live_backed tracked seen live
    refine ⟨_, List.mem_filterMap.mpr ⟨entry, Dict.mem_values.mpr ⟨sid, held⟩, if_neg ?_⟩, own, rfl⟩
    simp [named, visible, open', notClosed, own, tracked.trimmed seen, backed]
  · intro wire c bound collectorIp collectorPn preserve other asked same
    refine List.mem_eraseDups.mpr (List.mem_map.mpr ⟨(sid, c), List.mem_filter.mpr ⟨?_, ?_⟩, rfl⟩)
    · exact (Dict.get?_eq_some_iff _ _ _).mp bound
    · simp [held, asked, same, Ne.symm other]
  · intro p pending collectorIp preserve other matched
    refine List.mem_map.mpr ⟨(sid, p), List.mem_filter.mpr ⟨?_, ?_⟩, rfl⟩
    · exact (Dict.get?_eq_some_iff _ _ _).mp pending
    · simp [matched, tracked.pendingKey sid p pending, Ne.symm other]

theorem covered_of_moved {l l' : SharedListener} (covered : l.Covered) (moved : Moved none l l') :
    l'.Covered :=
  fun k live => moved.shown k (Or.inr live) (covered k (moved.live (by simp) live))

theorem covered_of_moved_at {l l' : SharedListener} {k : String} (covered : l.Covered)
    (moved : Moved (some k) l l') (shown : l.Shown k) : l'.Covered := by
  intro key live
  by_cases same : key = k
  · exact same ▸ moved.shown k (Or.inl rfl) shown
  · refine moved.shown key (Or.inr live) (covered key (moved.live ?_ live))
    exact fun hit => same (Option.some.inj hit).symm

theorem covered_accept (tracked : Tracked s) (covered : s.listener.Covered) (peer : PeerAddress)
    (remotePort : Option Int) (task : Nat)
    (room : ∀ k ∈ s.listener.displaced, ¬ s.listener.Live k) :
    (s.listener.accept peer.ip remotePort task).Covered := by
  have named : peer.ip ≠ "" := fun blank => peer.visible (by rw [blank, strip_empty])
  have absent : s.listener.inventory.get? s.listener.nextSessionId = none := by
    cases held : s.listener.inventory.get? s.listener.nextSessionId with
    | none => rfl
    | some entry =>
      exact absurd (Or.inr (Or.inr (Or.inr (Option.isSome_of_eq_some held)))) tracked.fresh
  intro k live
  by_cases new : k = s.listener.nextSessionId
  · have kept : k ∉ s.listener.displaced := by
      intro displaced
      obtain ⟨item, listed, same⟩ := List.mem_map.mp displaced
      have held := (s.listener.inventory.get?_eq_some_iff item.1 item.2).mpr
        (List.mem_of_mem_take listed)
      rw [same, new, absent] at held
      cases held
    exact ⟨_, by rw [accept_inventory named remotePort task absent kept, if_pos new], rfl⟩
  · have before : s.listener.Live k := by
      rw [live_iff] at live ⊢
      simpa only [accept_pending named, accept_links, new, if_false] using live
    obtain ⟨entry, held, alive⟩ := covered k before
    have kept : k ∉ s.listener.displaced := fun displaced => room k displaced before
    exact ⟨entry, by rw [accept_inventory named remotePort task absent kept, if_neg new, held], alive⟩

theorem covered_step (a : Action) (tracked : Tracked s) (covered : s.listener.Covered)
    (careful : Careful s a) : (step rules s a).listener.Covered := by
  by_cases quiet : a.quiet = true
  · obtain ⟨l', eq, moved⟩ := quiet_moved rules tracked a quiet
    rw [eq]
    exact covered_of_moved covered moved
  · cases a with
    | accept peer remotePort task =>
      cases peer with
      | none => exact covered
      | some peer => exact covered_accept tracked covered peer remotePort task (careful rfl)
    | sniffed sid chunk exhausted =>
      cases held : s.listener.pending.get? sid with
      | none => simpa [step, sniffed, held, recordRun, withListener] using covered
      | some p =>
        cases tracked.pendingKey sid p held
        have live : s.listener.Live p.sessionId := Or.inl (Option.isSome_of_eq_some held)
        obtain ⟨moved, -⟩ := sniffed_spec rules chunk exhausted held tracked.pendingUnbound
        rw [sniffed_step_listener]
        cases outcome : (s.listener.sniffed rules p.sessionId chunk exhausted).2 with
        | closed =>
          rw [outcome] at moved
          exact covered_of_moved covered moved
        | gone | parked | bound =>
          rw [outcome] at moved
          exact covered_of_moved_at covered moved (covered _ live)
    | pendingClosed sid =>
      exact covered_of_moved covered (moved_markEnded .closedDisconnected (by simp) careful)
    | claim sid =>
      cases held : s.listener.pending.get? sid with
      | none => simpa [step, held] using covered
      | some p =>
        have moved : Moved none s.listener (s.listener.claimPending sid) :=
          (moved_removePending none sid).trans (moved_markState none sid rfl)
        simp only [step, held]
        exact covered_of_moved covered moved
    | activate wire sid collectorIp collectorPn =>
      cases held : s.claimed.get? sid with
      | none => simpa [step, held] using covered
      | some p =>
        cases tracked.claimedKey sid p held
        simp only [step, held]
        exact covered_of_moved_at covered (activate_spec rules wire p collectorIp collectorPn).1
          (careful (Option.isSome_of_eq_some held))
    | _ => exact absurd rfl quiet

/-- In a run whose accepts, activations and closes are careful, every live session has its
    entry, is listed once its PN is known, and is found by a release. -/
theorem live_sessions_visible_of_careful (port : Nat) (actions : List Action)
    (careful : EveryStep (step rules) Careful (Shared.start port) actions) :
    EveryState (step rules) (fun s => s.listener.Visible rules) (Shared.start port) actions := by
  have covered : EveryState (step rules) (fun s => Tracked s ∧ s.listener.Covered)
      (Shared.start port) actions := by
    refine everyState_of_everyStep (fun s a now admitted => ?_) ⟨Tracked.start port, ?_⟩ careful
    · exact ⟨tracked_step rules a now.1, covered_step rules a now.1 now.2 admitted⟩
    · intro k live
      rw [live_iff] at live
      rcases live with h | ⟨wire, h⟩
      · cases h
      · cases wire <;> cases h
  exact everyState_mono (fun s now => visible_of_covered rules now.1 now.2) covered

end Coverage

def lanRules : Rules := ⟨fun _ _ => false, fun _ _ => false, fun _ => ("", "")⟩

def collectorPeer : PeerAddress := ⟨"192.168.1.50", lanAddress_visible⟩

def forwardFrame : BinaryFraming.Bytes := [0, 1, 0, 1, 0, 2, 1, 4]

def collectorConnects : List Action :=
  [.ownersChanged .framed (Dict.empty.set "192.168.1.50" 1) Dict.empty,
    .accept (some collectorPeer) none 0,
    .sniffed "listener-8899-1" forwardFrame false,
    .identified "listener-8899-1" "E50000123456" "fc2_parameter_2"]

theorem collector_connects_visible :
    EveryStep (step lanRules) Careful (Shared.start 8899) collectorConnects ∧
      EveryState (step lanRules) (fun s => s.listener.Visible lanRules) (Shared.start 8899)
        collectorConnects := by
  have careful : EveryStep (step lanRules) Careful (Shared.start 8899) collectorConnects :=
    ⟨trivial, fun _ k displaced => absurd displaced List.not_mem_nil, trivial, trivial, trivial⟩
  exact ⟨careful, live_sessions_visible_of_careful lanRules 8899 collectorConnects careful⟩

def passingPeer (n : Nat) : List Action :=
  [.accept (some ⟨"192.168.1.77", by decide⟩) none (n + 1),
    .sniffed (SharedListener.sessionIdOf 8899 (n + 2)) [] true]

def passingPeers : List Action := (List.range 20).flatMap passingPeer

theorem live_session_forgotten :
    ¬ EveryState (step lanRules) (fun s => s.listener.Visible lanRules) (Shared.start 8899)
        (collectorConnects ++ passingPeers) := by
  intro every
  have last := everyState_run every
  have live : (run (step lanRules) (Shared.start 8899)
      (collectorConnects ++ passingPeers)).listener.Live "listener-8899-1" := by decide +kernel
  have dropped : (run (step lanRules) (Shared.start 8899)
      (collectorConnects ++ passingPeers)).listener.inventory.get? "listener-8899-1" = none := by
    decide +kernel
  obtain ⟨entry, held, -⟩ := last "listener-8899-1" live
  rw [dropped] at held
  cases held

end Listener
