import EybondLocal.Listener.Machine

/-!
What each section of the listener changes. Marks touch the inventory only; parking, claiming
and closing touch the pending sockets; routing and activation add one session to one wire.
-/
namespace Listener
open StripText OrderedDict BinaryFraming

namespace SharedListener
variable (rules : Rules) (l : SharedListener) (sid : String)

@[simp] theorem links_setLinks (wire other : Wire) (links : Links) :
    (l.setLinks wire links).links other = if other = wire then links else l.links other := by
  cases wire <;> cases other <;> rfl

@[simp] theorem setLinks_pending (wire : Wire) (links : Links) :
    (l.setLinks wire links).pending = l.pending := by cases wire <;> rfl

@[simp] theorem setLinks_inventory (wire : Wire) (links : Links) :
    (l.setLinks wire links).inventory = l.inventory := by cases wire <;> rfl

@[simp] theorem setLinks_port (wire : Wire) (links : Links) :
    (l.setLinks wire links).port = l.port := by cases wire <;> rfl

@[simp] theorem setLinks_sessionSeq (wire : Wire) (links : Links) :
    (l.setLinks wire links).sessionSeq = l.sessionSeq := by cases wire <;> rfl

@[simp] theorem setLinks_routes (wire : Wire) (links : Links) :
    (l.setLinks wire links).routes = l.routes := by cases wire <;> rfl

theorem updateEntry_get? (change : Entry → Entry) (k : String) :
    (l.updateEntry sid change).inventory.get? k =
      if k = sid then (l.inventory.get? sid).map change else l.inventory.get? k := by
  unfold updateEntry
  cases held : l.inventory.get? sid with
  | none =>
    by_cases hit : k = sid
    · simp [hit, held]
    · simp [hit]
  | some entry =>
    by_cases hit : k = sid
    · simp [hit]
    · simp [hit]

@[simp] theorem updateEntry_pending (change : Entry → Entry) :
    (l.updateEntry sid change).pending = l.pending := by
  unfold updateEntry
  split <;> rfl

@[simp] theorem updateEntry_links (change : Entry → Entry) (wire : Wire) :
    (l.updateEntry sid change).links wire = l.links wire := by
  unfold updateEntry
  split
  · rfl
  · cases wire <;> rfl

@[simp] theorem updateEntry_port (change : Entry → Entry) :
    (l.updateEntry sid change).port = l.port := by
  unfold updateEntry
  split <;> rfl

@[simp] theorem updateEntry_sessionSeq (change : Entry → Entry) :
    (l.updateEntry sid change).sessionSeq = l.sessionSeq := by
  unfold updateEntry
  split <;> rfl

@[simp] theorem updateEntry_routes (change : Entry → Entry) :
    (l.updateEntry sid change).routes = l.routes := by
  unfold updateEntry
  split <;> rfl

@[simp] theorem removePending_links (wire : Wire) :
    (l.removePending sid).links wire = l.links wire := by cases wire <;> rfl

theorem live_iff {l : SharedListener} {k : String} :
    l.Live k ↔ (l.pending.get? k).isSome ∨ ∃ wire, ((l.links wire).bySession.get? k).isSome := by
  constructor
  · rintro (pending | framed | atText)
    · exact Or.inl pending
    · exact Or.inr ⟨.framed, framed⟩
    · exact Or.inr ⟨.atText, atText⟩
  · rintro (pending | ⟨wire, bound⟩)
    · exact Or.inl pending
    · cases wire
      · exact Or.inr (Or.inl bound)
      · exact Or.inr (Or.inr bound)

def Shown (l : SharedListener) (k : String) : Prop :=
  ∃ entry, l.inventory.get? k = some entry ∧ entry.state.isTerminal = false

/-- One session (`at'`, if any) may change its place; every other pending or bound session
    stays or goes, and no session that is still live is marked as ended. -/
structure Moved (at' : Option String) (l l' : SharedListener) : Prop where
  port : l'.port = l.port
  sessionSeq : l'.sessionSeq = l.sessionSeq
  pending : ∀ k p, at' ≠ some k → l'.pending.get? k = some p →
    ∃ before, l.pending.get? k = some before ∧ p.sessionId = before.sessionId
  bySession : ∀ wire k c, at' ≠ some k → (l'.links wire).bySession.get? k = some c →
    (l.links wire).bySession.get? k = some c
  entries : ∀ k entry, l'.inventory.get? k = some entry → ∃ before,
    l.inventory.get? k = some before ∧ entry.sessionId = before.sessionId ∧
      entry.remoteIp = before.remoteIp
  shown : ∀ k, at' = some k ∨ l'.Live k → l.Shown k → l'.Shown k

variable {l} {l' l'' : SharedListener} {at' : Option String}

theorem Moved.live (moved : Moved at' l l') {k : String} (other : at' ≠ some k)
    (live : l'.Live k) : l.Live k := by
  rw [live_iff] at live ⊢
  rcases live with pending | ⟨wire, bound⟩
  · obtain ⟨p, held⟩ := Option.isSome_iff_exists.mp pending
    obtain ⟨before, found, -⟩ := moved.pending k p other held
    exact Or.inl (Option.isSome_of_eq_some found)
  · obtain ⟨c, held⟩ := Option.isSome_iff_exists.mp bound
    exact Or.inr ⟨wire, Option.isSome_of_eq_some (moved.bySession wire k c other held)⟩

theorem Moved.refl (at' : Option String) (l : SharedListener) : Moved at' l l where
  port := rfl
  sessionSeq := rfl
  pending _ p _ held := ⟨p, held, rfl⟩
  bySession _ _ _ _ held := held
  entries _ entry held := ⟨entry, held, rfl, rfl⟩
  shown _ _ shown := shown

theorem Moved.trans (first : Moved at' l l') (second : Moved at' l' l'') : Moved at' l l'' where
  port := second.port.trans first.port
  sessionSeq := second.sessionSeq.trans first.sessionSeq
  pending k p other held := by
    obtain ⟨between, held', id'⟩ := second.pending k p other held
    obtain ⟨before, held'', id''⟩ := first.pending k between other held'
    exact ⟨before, held'', id'.trans id''⟩
  bySession wire k c other held :=
    first.bySession wire k c other (second.bySession wire k c other held)
  entries k entry held := by
    obtain ⟨between, held', id', ip'⟩ := second.entries k entry held
    obtain ⟨before, held'', id'', ip''⟩ := first.entries k between held'
    exact ⟨before, held'', id'.trans id'', ip'.trans ip''⟩
  shown k here shown := by
    refine second.shown k here (first.shown k ?_ shown)
    rcases here with same | live
    · exact Or.inl same
    · by_cases same : at' = some k
      · exact Or.inl same
      · exact Or.inr (second.live same live)

theorem moved_updateEntry (at' : Option String) (k : String) {change : Entry → Entry}
    (keeps : ∀ entry, (change entry).sessionId = entry.sessionId ∧
      (change entry).remoteIp = entry.remoteIp ∧
        (entry.state.isTerminal = false → (change entry).state.isTerminal = false)) :
    Moved at' l (l.updateEntry k change) where
  port := by simp
  sessionSeq := by simp
  pending _ p _ held := ⟨p, by simpa using held, rfl⟩
  bySession _ _ _ _ held := by simpa using held
  entries key entry held := by
    rw [updateEntry_get?] at held
    split at held
    · rename_i hit
      obtain ⟨before, found, rfl⟩ := Option.map_eq_some_iff.mp held
      exact ⟨before, hit ▸ found, (keeps before).1, (keeps before).2.1⟩
    · exact ⟨entry, held, rfl, rfl⟩
  shown key _ shown := by
    obtain ⟨entry, held, alive⟩ := shown
    by_cases hit : key = k
    · refine ⟨change entry, ?_, (keeps entry).2.2 alive⟩
      rw [updateEntry_get?, if_pos hit, ← hit, held]
      rfl
    · exact ⟨entry, by rw [updateEntry_get?, if_neg hit, held], alive⟩

theorem moved_markState (at' : Option String) (k : String) {state : SessionState}
    (alive : state.isTerminal = false) : Moved at' l (l.markState k state) := by
  refine moved_updateEntry at' k fun entry => ?_
  unfold Entry.markState
  split
  · exact ⟨rfl, rfl, id⟩
  · exact ⟨rfl, rfl, fun _ => alive⟩

theorem moved_markFirstBytes (at' : Option String) (k : String) (chunk : Bytes) :
    Moved at' l (l.markFirstBytes k chunk) := by
  refine moved_updateEntry at' k fun entry => ?_
  unfold Entry.markFirstBytes
  split
  · dsimp only
    split <;> exact ⟨rfl, rfl, id⟩
  · dsimp only
    split <;> exact ⟨rfl, rfl, id⟩

theorem entry_markIdentity (entry : Entry) (pn : PythonObject.PyObj) (source : String) :
    (entry.markIdentity pn source).sessionId = entry.sessionId ∧
      (entry.markIdentity pn source).remoteIp = entry.remoteIp ∧
        (entry.markIdentity pn source).state = entry.state := by
  unfold Entry.markIdentity
  simp only []
  split
  · exact ⟨rfl, rfl, rfl⟩
  · split <;> exact ⟨rfl, rfl, rfl⟩

theorem moved_setLinks {wire : Wire} {links : Links}
    (same : ∀ k c, at' ≠ some k → links.bySession.get? k = some c →
      (l.links wire).bySession.get? k = some c) :
    Moved at' l (l.setLinks wire links) where
  port := by simp
  sessionSeq := by simp
  pending _ p _ held := ⟨p, by simpa using held, rfl⟩
  bySession other k c elsewhere held := by
    rw [links_setLinks] at held
    split at held
    · rename_i hit
      rw [hit]
      exact same k c elsewhere held
    · exact held
  entries k entry held := ⟨entry, by simpa using held, rfl, rfl⟩
  shown k _ shown := by
    obtain ⟨entry, held, alive⟩ := shown
    exact ⟨entry, by simpa using held, alive⟩

theorem moved_bind {wire : Wire} {links : Links} {k : String} {c : Nat}
    (bound : links.bySession = (l.links wire).bySession.set k c) :
    Moved (some k) l (l.setLinks wire links) := by
  apply moved_setLinks
  intro key c' other held
  have ne : key ≠ k := fun hit => other (congrArg some hit.symm)
  rw [bound, Dict.get?_set, if_neg ne] at held
  exact held

theorem indexPn_bySession (links : Links) (k pn : String) :
    (indexPn links k pn).bySession = links.bySession := by
  unfold indexPn
  split <;> rfl

theorem moved_markIdentity (at' : Option String) (k pn source : String) :
    Moved at' l (l.markIdentity k pn source) := by
  unfold markIdentity
  simp only []
  split
  · exact Moved.refl at' l
  · have update : Moved at' l (l.updateEntry k fun entry => entry.markIdentity (.str pn) source) := by
      refine moved_updateEntry at' k fun entry => ?_
      obtain ⟨id', ip', state'⟩ := entry_markIdentity entry (.str pn) source
      exact ⟨id', ip', fun alive => by rw [state', alive]⟩
    refine update.trans ⟨rfl, rfl, fun _ p _ held => ⟨p, held, rfl⟩, ?_, ?_, fun _ _ shown => shown⟩
    · intro wire key c _ held
      cases wire
      · exact (congrArg (Dict.get? · key) (indexPn_bySession _ _ _)).symm.trans held
      · exact (congrArg (Dict.get? · key) (indexPn_bySession _ _ _)).symm.trans held
    · exact fun key entry held => ⟨entry, held, rfl, rfl⟩

def Unbound (l : SharedListener) (k : String) : Prop :=
  ∀ wire, (l.links wire).bySession.get? k = none

theorem moved_setPending {pending : Dict String Pending}
    (smaller : ∀ k p, at' ≠ some k → pending.get? k = some p →
      ∃ before, l.pending.get? k = some before ∧ p.sessionId = before.sessionId) :
    Moved at' l { l with pending := pending } where
  port := rfl
  sessionSeq := rfl
  pending := smaller
  bySession wire _ _ _ held := by cases wire <;> exact held
  entries _ entry held := ⟨entry, held, rfl, rfl⟩
  shown _ _ shown := shown

theorem moved_removePending (at' : Option String) (k : String) :
    Moved at' l (l.removePending k) := by
  refine moved_setPending fun key p _ held => ?_
  rw [Dict.get?_erase] at held
  split at held
  · cases held
  · exact ⟨p, held, rfl⟩

theorem live_markState {k key : String} {state : SessionState} :
    (l.markState k state).Live key ↔ l.Live key := by
  simp only [live_iff, markState, updateEntry_pending, updateEntry_links]

theorem moved_markEnded {k : String} (state : SessionState) (other : at' ≠ some k)
    (gone : ¬ l.Live k) : Moved at' l (l.markState k state) where
  port := by simp [markState]
  sessionSeq := by simp [markState]
  pending _ p _ held := ⟨p, by simpa [markState] using held, rfl⟩
  bySession _ _ _ _ held := by simpa [markState] using held
  entries key entry held := by
    simp only [markState, updateEntry_get?] at held
    split at held
    · rename_i hit
      obtain ⟨before, found, rfl⟩ := Option.map_eq_some_iff.mp held
      refine ⟨before, hit ▸ found, ?_⟩
      unfold Entry.markState
      split <;> exact ⟨rfl, rfl⟩
    · exact ⟨entry, held, rfl, rfl⟩
  shown key here shown := by
    obtain ⟨entry, held, alive⟩ := shown
    have ne : key ≠ k := by
      rintro rfl
      rcases here with same | live
      · exact other same
      · exact gone (live_markState.mp live)
    exact ⟨entry, by simpa [markState, updateEntry_get?, ne] using held, alive⟩

theorem moved_closeUnclaimed {k : String} (state : SessionState) (other : at' ≠ some k)
    (unbound : l.Unbound k) : Moved at' l (l.closeUnclaimed k state) := by
  refine (moved_removePending at' k).trans (moved_markEnded state other ?_)
  rw [live_iff]
  rintro (pending | ⟨wire, bound⟩)
  · simp [removePending] at pending
  · rw [removePending_links, unbound wire] at bound
    cases bound

theorem closeUnclaimed_links (k : String) (state : SessionState) (wire : Wire) :
    (l.closeUnclaimed k state).links wire = l.links wire := by
  simp only [closeUnclaimed, markState, updateEntry_links, removePending_links]

theorem closeAll_links (items : List (String × Pending)) (l : SharedListener) (wire : Wire) :
    (items.foldl (fun l item => l.closeUnclaimed item.1 .parkedEvicted) l).links wire =
      l.links wire := by
  induction items generalizing l with
  | nil => rfl
  | cons item rest ih => rw [List.foldl_cons, ih, closeUnclaimed_links]

theorem moved_closeAll (items : List (String × Pending)) {l : SharedListener}
    (free : ∀ item ∈ items, at' ≠ some item.1 ∧ l.Unbound item.1) :
    Moved at' l (items.foldl (fun l item => l.closeUnclaimed item.1 .parkedEvicted) l) := by
  induction items generalizing l with
  | nil => exact Moved.refl at' l
  | cons item rest ih =>
    obtain ⟨other, unbound⟩ := free item List.mem_cons_self
    refine (moved_closeUnclaimed .parkedEvicted other unbound).trans (ih fun item' member => ?_)
    obtain ⟨other', unbound'⟩ := free item' (List.mem_cons_of_mem _ member)
    exact ⟨other', fun wire => by rw [closeUnclaimed_links]; exact unbound' wire⟩

def PendingUnbound (l : SharedListener) : Prop :=
  ∀ k p, l.pending.get? k = some p → l.Unbound k

theorem moved_evict (k : String) (unbound : l.PendingUnbound) :
    Moved (some k) l (l.evictParkedSockets k) := by
  refine moved_closeAll _ fun item member => ?_
  have listed := List.mem_of_mem_take member
  rw [List.mem_filter] at listed
  have ne : item.1 ≠ k := by simpa using (Bool.and_eq_true_iff.mp listed.2).2
  have held := (l.pending.get?_eq_some_iff item.1 item.2).mpr listed.1
  exact ⟨fun same => ne (Option.some.inj same).symm, unbound item.1 item.2 held⟩

theorem moved_park {p : Pending} (chunk : Bytes) {state : SessionState}
    (alive : state.isTerminal = false) (unbound : l.PendingUnbound) :
    Moved (some p.sessionId) l (l.parkUnclaimed p chunk state) := by
  refine (moved_evict p.sessionId unbound).trans ?_
  refine Moved.trans (moved_setPending ?_) (moved_markState _ _ alive)
  intro k q other held
  rw [Dict.get?_set] at held
  split at held
  · rename_i hit
    exact absurd (congrArg some hit.symm) other
  · exact ⟨q, held, rfl⟩

theorem park_links (p : Pending) (chunk : Bytes) (state : SessionState) (wire : Wire) :
    (l.parkUnclaimed p chunk state).links wire = l.links wire := by
  simp only [parkUnclaimed, markState, updateEntry_links]
  have same : ({ l.evictParkedSockets p.sessionId with
      pending := (l.evictParkedSockets p.sessionId).pending.set p.sessionId
        { p with initialBytes := chunk ++ p.initialBytes, parked := true } }).links wire =
      (l.evictParkedSockets p.sessionId).links wire := by cases wire <;> rfl
  rw [same]
  exact closeAll_links _ l wire

theorem park_pending (p : Pending) (chunk : Bytes) (state : SessionState) :
    (l.parkUnclaimed p chunk state).pending.get? p.sessionId =
      some { p with initialBytes := chunk ++ p.initialBytes, parked := true } := by
  simp [parkUnclaimed, markState]

@[simp] theorem connectionByPeer_bySession (links : Links) (remoteIp : String) :
    (connectionByPeer rules links remoteIp).2.bySession = links.bySession := by
  unfold connectionByPeer resolvePublicPlaceholderAlias
  split
  · rfl
  · split
    · rfl
    · split
      · rfl
      · dsimp only
        split <;> rfl

@[simp] theorem routedConnection_bySession (links : Links) (first : FirstChunk)
    (remoteIp : String) :
    (routedConnection rules links first remoteIp).2.bySession = links.bySession := by
  unfold routedConnection
  split
  · rfl
  · split
    · simp
    · rfl

@[simp] theorem activatedConnection_bySession (links : Links) (collectorPn remoteIp : String) :
    (activatedConnection rules links collectorPn remoteIp).2.bySession = links.bySession := by
  unfold activatedConnection
  split
  · rfl
  · simp

@[simp] theorem reuseOrMake_bySession (found : Option Nat) (links : Links) :
    (reuseOrMake found links).2.bySession = links.bySession := by
  unfold reuseOrMake
  split
  · split <;> rfl
  · rfl

@[simp] theorem markIdentity_pending (k pn source : String) :
    (l.markIdentity k pn source).pending = l.pending := by
  unfold markIdentity
  dsimp only
  split
  · rfl
  · exact updateEntry_pending l k _

@[simp] theorem markIdentity_bySession (k pn source : String) (wire : Wire) :
    ((l.markIdentity k pn source).links wire).bySession = (l.links wire).bySession := by
  unfold markIdentity
  dsimp only
  split
  · rfl
  · have same := updateEntry_links l k (fun entry => entry.markIdentity (.str pn) source) wire
    cases wire
    · exact (indexPn_bySession _ _ _).trans (congrArg Links.bySession same)
    · exact (indexPn_bySession _ _ _).trans (congrArg Links.bySession same)

def Placed (l : SharedListener) (k : String) (l' : SharedListener) : Sniffed → Prop
  | .gone => l' = l
  | .parked => (∃ p, l'.pending.get? k = some p ∧ p.sessionId = k) ∧
      ∀ wire, (l'.links wire).bySession = (l.links wire).bySession
  | .closed => l'.pending.get? k = none ∧
      ∀ wire, (l'.links wire).bySession = (l.links wire).bySession
  | .bound wire connection => l'.pending.get? k = none ∧ ∀ other,
      (l'.links other).bySession =
        if other = wire then (l.links wire).bySession.set k connection
        else (l.links other).bySession

theorem moved_bindSniffed {wire : Wire} {p : Pending} (first : FirstChunk) (connection : Nat)
    {links : Links} (same : links.bySession = (l.links wire).bySession) :
    Moved (some p.sessionId) l (l.bindSniffed wire p first connection links) := by
  have bound : Moved (some p.sessionId) l (l.setLinks wire { links with
      byIp := links.byIp.set p.remoteIp connection
      bySession := links.bySession.set p.sessionId connection }) :=
    moved_bind (congrArg (Dict.set · p.sessionId connection) same)
  refine bound.trans ?_
  unfold bindSniffed
  dsimp only
  have live : (routedState wire).isTerminal = false := by cases wire <;> rfl
  split
  · exact moved_markState _ _ live
  · exact (moved_markIdentity _ _ _ _).trans (moved_markState _ _ live)

theorem bindSniffed_pending (wire : Wire) (p : Pending) (first : FirstChunk) (connection : Nat)
    (links : Links) : (l.bindSniffed wire p first connection links).pending = l.pending := by
  unfold bindSniffed
  dsimp only
  split <;> simp [markState]

theorem bindSniffed_bySession (wire other : Wire) (p : Pending) (first : FirstChunk)
    (connection : Nat) (links : Links) :
    ((l.bindSniffed wire p first connection links).links other).bySession =
      if other = wire then links.bySession.set p.sessionId connection
      else (l.links other).bySession := by
  unfold bindSniffed
  dsimp only
  split <;> simp only [markState, updateEntry_links, markIdentity_bySession, links_setLinks] <;>
    split <;> rfl

theorem ownerlessState_alive (wire : Wire) : (ownerlessState wire).isTerminal = false := by
  cases wire <;> rfl

theorem setLinks_pendingUnbound {wire : Wire} {links : Links} (unbound : l.PendingUnbound)
    (same : links.bySession = (l.links wire).bySession) :
    (l.setLinks wire links).PendingUnbound := by
  intro k p held other
  rw [setLinks_pending] at held
  rw [links_setLinks]
  split
  · rw [same]
    exact unbound k p held wire
  · exact unbound k p held other

theorem routeOn_spec (wire : Wire) (p : Pending) (first : FirstChunk)
    (absent : l.pending.get? p.sessionId = none) (unbound : l.PendingUnbound) :
    Moved (some p.sessionId) l (l.routeOn rules wire p first).1 ∧
      Placed l p.sessionId (l.routeOn rules wire p first).1 (l.routeOn rules wire p first).2 := by
  have found := routedConnection_bySession rules (l.links wire) first p.remoteIp
  have aliased : Moved (some p.sessionId) l (l.setLinks wire
      (routedConnection rules (l.links wire) first p.remoteIp).2) :=
    moved_setLinks fun k c _ held => by rwa [found] at held
  unfold routeOn
  dsimp only
  split
  · constructor
    · refine aliased.trans (moved_bindSniffed first _ ?_)
      rw [reuseOrMake_bySession, links_setLinks, if_pos rfl]
    · refine ⟨?_, fun other => ?_⟩
      · rw [bindSniffed_pending, setLinks_pending, absent]
      · rw [bindSniffed_bySession, reuseOrMake_bySession, found, links_setLinks]
        split <;> rfl
  · constructor
    · refine aliased.trans (moved_park _ (ownerlessState_alive wire) ?_)
      exact setLinks_pendingUnbound unbound found
    · refine ⟨⟨_, park_pending _ _ _, rfl⟩, fun other => ?_⟩
      rw [park_links, links_setLinks]
      split
      · rename_i hit
        rw [found, hit]
      · rfl

def Sniffed.moving (k : String) : Sniffed → Option String
  | .closed => none
  | _ => some k

theorem removePending_pendingUnbound {k : String} (unbound : l.PendingUnbound) :
    (l.removePending k).PendingUnbound := by
  intro key p held wire
  rw [removePending_links]
  refine unbound key p ?_ wire
  simp only [removePending, Dict.get?_erase] at held
  split at held
  · cases held
  · exact held

theorem pendingUnbound_of_same (unbound : l.PendingUnbound) (pending : l'.pending = l.pending)
    (bySession : ∀ wire, (l'.links wire).bySession = (l.links wire).bySession) :
    l'.PendingUnbound := by
  intro k p held wire
  rw [pending] at held
  rw [bySession]
  exact unbound k p held wire

theorem Placed.of_same {k : String} {sniff : Sniffed} {m : SharedListener}
    (bySession : ∀ wire, (m.links wire).bySession = (l.links wire).bySession)
    (moved : sniff ≠ .gone) (placed : Placed m k l' sniff) : Placed l k l' sniff := by
  cases sniff with
  | gone => exact absurd rfl moved
  | parked => exact ⟨placed.1, fun wire => (placed.2 wire).trans (bySession wire)⟩
  | closed => exact ⟨placed.1, fun wire => (placed.2 wire).trans (bySession wire)⟩
  | bound wire connection =>
    refine ⟨placed.1, fun other => (placed.2 other).trans ?_⟩
    rw [bySession wire, bySession other]

theorem parked_spec {p : Pending} (chunk : Bytes) (state : SessionState)
    (alive : state.isTerminal = false) (unbound : l.PendingUnbound) :
    Moved (some p.sessionId) l (l.parkUnclaimed p chunk state) ∧
      Placed l p.sessionId (l.parkUnclaimed p chunk state) .parked :=
  ⟨moved_park chunk alive unbound, ⟨_, park_pending _ _ _, rfl⟩, fun _ => by rw [park_links]⟩

theorem routeOn_moving (wire : Wire) (p : Pending) (first : FirstChunk) :
    (l.routeOn rules wire p first).2 ≠ .gone ∧
      Sniffed.moving p.sessionId (l.routeOn rules wire p first).2 = some p.sessionId := by
  unfold routeOn
  dsimp only
  split <;> simp [Sniffed.moving]

@[simp] theorem markFirstBytes_pending (k : String) (chunk : Bytes) :
    (l.markFirstBytes k chunk).pending = l.pending := updateEntry_pending l k _

@[simp] theorem markFirstBytes_links (k : String) (chunk : Bytes) (wire : Wire) :
    (l.markFirstBytes k chunk).links wire = l.links wire := updateEntry_links l k _ wire

def noted (rules : Rules) (l : SharedListener) (p : Pending) (chunk : Bytes) : SharedListener :=
  let first := firstChunk rules chunk
  let l := (l.markFirstBytes p.sessionId chunk).removePending p.sessionId
  if first.pn = "" then l else l.markIdentity p.sessionId first.pn first.source

theorem moved_noted (p : Pending) (chunk : Bytes) :
    Moved (some p.sessionId) l (l.noted rules p chunk) := by
  have removed := (moved_markFirstBytes (l := l) (some p.sessionId) p.sessionId chunk).trans
    (moved_removePending (some p.sessionId) p.sessionId)
  unfold noted
  dsimp only
  split
  · exact removed
  · exact removed.trans (moved_markIdentity _ _ _ _)

@[simp] theorem noted_bySession (p : Pending) (chunk : Bytes) (wire : Wire) :
    ((l.noted rules p chunk).links wire).bySession = (l.links wire).bySession := by
  unfold noted
  dsimp only
  split <;> simp

theorem noted_pending (p : Pending) (chunk : Bytes) :
    (l.noted rules p chunk).pending = l.pending.erase p.sessionId := by
  unfold noted
  dsimp only
  split <;> simp [removePending]

theorem noted_pendingUnbound (p : Pending) (chunk : Bytes) (unbound : l.PendingUnbound) :
    (l.noted rules p chunk).PendingUnbound :=
  pendingUnbound_of_same (removePending_pendingUnbound unbound) (noted_pending rules p chunk)
    fun wire => by rw [noted_bySession, removePending_links]

theorem sniffed_cases {p : Pending} (chunk : Bytes) (exhausted : Bool)
    (held : l.pending.get? p.sessionId = some p) :
    (chunk = [] ∧ exhausted = true ∧ l.sniffed rules p.sessionId chunk exhausted =
      (l.closeUnclaimed p.sessionId .closedNoPayload, .closed)) ∨
    (∃ state, state.isTerminal = false ∧ l.sniffed rules p.sessionId chunk exhausted =
      (l.parkUnclaimed p [] state, .parked)) ∨
    (l.sniffed rules p.sessionId chunk exhausted =
      ((l.markFirstBytes p.sessionId chunk).parkUnclaimed p chunk
        .waitingForMoreInitialBytes, .parked)) ∨
    (l.sniffed rules p.sessionId chunk exhausted =
      ((l.noted rules p chunk).parkUnclaimed p chunk .waitingForExclusiveRoute, .parked)) ∨
    (¬ ((firstChunk rules chunk).shape = .unknown ∧ chunk.length < headerSize) ∧
      (l.noted rules p chunk).matchesExclusiveCollectorRoute rules p.remoteIp
        (firstChunk rules chunk).pn (firstChunk rules chunk).shape = false ∧
      l.sniffed rules p.sessionId chunk exhausted =
        (l.noted rules p chunk).routeOn rules ((l.noted rules p chunk).routeWire rules
          (firstChunk rules chunk) p.remoteIp) p (firstChunk rules chunk)) := by
  unfold sniffed
  rw [held]
  dsimp only
  by_cases silent : chunk = []
  · rw [if_pos silent]
    by_cases spent : exhausted = true
    · rw [if_pos spent]
      exact Or.inl ⟨silent, spent, rfl⟩
    · rw [if_neg spent]
      refine Or.inr (Or.inl ⟨_, ?_, rfl⟩)
      split <;> rfl
  · rw [if_neg silent]
    refine Or.inr (Or.inr ?_)
    by_cases short : (firstChunk rules chunk).shape = .unknown ∧ chunk.length < headerSize
    · exact Or.inl (if_pos short)
    · rw [if_neg short]
      right
      by_cases exclusive : (l.noted rules p chunk).matchesExclusiveCollectorRoute rules p.remoteIp
          (firstChunk rules chunk).pn (firstChunk rules chunk).shape = true
      · exact Or.inl (if_pos exclusive)
      · exact Or.inr ⟨short, by simpa using exclusive, if_neg exclusive⟩

theorem sniffed_spec {p : Pending} (chunk : Bytes) (exhausted : Bool)
    (held : l.pending.get? p.sessionId = some p) (unbound : l.PendingUnbound) :
    Moved (Sniffed.moving p.sessionId (l.sniffed rules p.sessionId chunk exhausted).2) l
        (l.sniffed rules p.sessionId chunk exhausted).1 ∧
      Placed l p.sessionId (l.sniffed rules p.sessionId chunk exhausted).1
        (l.sniffed rules p.sessionId chunk exhausted).2 := by
  rcases sniffed_cases rules chunk exhausted held with ⟨-, -, closed⟩ | ⟨state, alive, parked⟩ |
    short | exclusive | ⟨-, -, routed⟩
  · rw [closed]
    refine ⟨moved_closeUnclaimed _ (by simp [Sniffed.moving]) (unbound _ p held), ?_, fun wire => ?_⟩
    · simp [closeUnclaimed, markState, removePending]
    · rw [closeUnclaimed_links]
  · rw [parked]
    exact parked_spec [] state alive unbound
  · rw [short]
    have same : (l.markFirstBytes p.sessionId chunk).PendingUnbound :=
      pendingUnbound_of_same unbound (by simp) (by simp)
    obtain ⟨moved, placed⟩ := parked_spec (p := p) chunk
      .waitingForMoreInitialBytes rfl same
    exact ⟨(moved_markFirstBytes _ _ chunk).trans moved,
      placed.of_same (by simp) (by simp)⟩
  · rw [exclusive]
    obtain ⟨moved, placed⟩ := parked_spec (p := p) chunk .waitingForExclusiveRoute rfl
      (noted_pendingUnbound rules p chunk unbound)
    exact ⟨(moved_noted rules p chunk).trans moved, placed.of_same (by simp) (by simp)⟩
  · rw [routed]
    have absent : (l.noted rules p chunk).pending.get? p.sessionId = none := by
      simp [noted_pending]
    obtain ⟨moved, placed⟩ := routeOn_spec rules _ p (firstChunk rules chunk) absent
      (noted_pendingUnbound rules p chunk unbound)
    have here := routeOn_moving (l := l.noted rules p chunk) rules
      ((l.noted rules p chunk).routeWire rules (firstChunk rules chunk) p.remoteIp) p
      (firstChunk rules chunk)
    rw [here.2]
    exact ⟨(moved_noted rules p chunk).trans moved, placed.of_same (by simp) here.1⟩

theorem activate_spec (wire : Wire) (p : Pending) (collectorIp collectorPn : String) :
    Moved (some p.sessionId) l (l.activate rules wire p collectorIp collectorPn).1 ∧
      (l.activate rules wire p collectorIp collectorPn).1.pending = l.pending ∧
      ∀ other, ((l.activate rules wire p collectorIp collectorPn).1.links other).bySession =
        if other = wire then
          (l.links wire).bySession.set p.sessionId
            (l.activate rules wire p collectorIp collectorPn).2
        else (l.links other).bySession := by
  have live : (routedState wire).isTerminal = false := by cases wire <;> rfl
  have found : (reuseOrMake (activatedConnection rules (l.links wire) collectorPn p.remoteIp).1
      (activatedConnection rules (l.links wire) collectorPn p.remoteIp).2).2.bySession =
      (l.links wire).bySession := by simp
  unfold activate
  dsimp only
  generalize reuseOrMake _ _ = chosen at found ⊢
  obtain ⟨c, links⟩ := chosen
  dsimp only at found ⊢
  split
  · refine ⟨Moved.trans (moved_bind (c := c) ?_) (moved_markState _ _ live), ?_, fun other => ?_⟩
    · rw [found]
    · simp [markState]
    · simp only [markState, updateEntry_links, links_setLinks, found]
      split <;> rfl
  · refine ⟨Moved.trans (moved_bind (c := c) ?_) (moved_markState _ _ live), ?_, fun other => ?_⟩
    · rw [found]
    · simp [markState]
    · simp only [markState, updateEntry_links, links_setLinks, found]
      split <;> rfl

theorem moved_socketSessionClosed {wire : Wire} {k : String} {c : Nat} (trimmed : strip k = k)
    (absent : l.pending.get? k = none)
    (only : ∀ wire' c', (l.links wire').bySession.get? k = some c' → wire' = wire ∧ c' = c) :
    Moved none l (l.socketSessionClosed wire k c) := by
  unfold socketSessionClosed
  rw [trimmed]
  split
  · exact Moved.refl none l
  · dsimp only
    split
    · refine Moved.trans (moved_setLinks fun key c' _ held => ?_)
        (moved_markEnded .closedDisconnected (by simp) ?_)
      · rw [Dict.get?_erase] at held
        split at held
        · cases held
        · exact held
      · rw [live_iff]
        rintro (pending | ⟨other, bound⟩)
        · rw [setLinks_pending, absent] at pending
          cases pending
        · rw [links_setLinks] at bound
          split at bound
          · simp at bound
          · obtain ⟨c', held⟩ := Option.isSome_iff_exists.mp bound
            exact absurd (only other c' held).1 ‹_›
    · rename_i elsewhere
      refine moved_markEnded .closedDisconnected (by simp) ?_
      rw [live_iff]
      rintro (pending | ⟨other, bound⟩)
      · rw [absent] at pending
        cases pending
      · obtain ⟨c', held⟩ := Option.isSome_iff_exists.mp bound
        obtain ⟨rfl, rfl⟩ := only other c' held
        exact elsewhere held

theorem moved_markAll (sids : List String) (state : SessionState) {l : SharedListener}
    (gone : ∀ k ∈ sids, ¬ l.Live k) :
    Moved none l (sids.foldl (fun l k => l.markState k state) l) := by
  induction sids generalizing l with
  | nil => exact Moved.refl none l
  | cons k rest ih =>
    refine (moved_markEnded state (by simp) (gone k List.mem_cons_self)).trans (ih fun key member => ?_)
    rw [live_markState]
    exact gone key (List.mem_cons_of_mem _ member)

/-- Every session of a connection leaves its wire and is marked as closed. -/
theorem moved_dropConnectionIndexes {wire : Wire} {c : Nat}
    (only : ∀ k, (l.links wire).bySession.get? k = some c →
      l.pending.get? k = none ∧ ∀ other, other ≠ wire → (l.links other).bySession.get? k = none) :
    Moved none l (l.dropConnectionIndexes wire c) := by
  unfold dropConnectionIndexes
  dsimp only
  refine Moved.trans (moved_setLinks fun key c' _ held => ?_) (moved_markAll _ _ ?_)
  · exact (Dict.get?_dropValue_eq_some.mp held).1
  · intro k member
    simp only [List.mem_map, List.mem_filter, decide_eq_true_eq] at member
    obtain ⟨item, ⟨listed, value⟩, rfl⟩ := member
    have held : (l.links wire).bySession.get? item.1 = some c :=
      ((l.links wire).bySession.get?_eq_some_iff _ _).mpr (by rw [← value]; exact listed)
    obtain ⟨absent, elsewhere⟩ := only item.1 held
    rw [live_iff]
    rintro (pending | ⟨other, bound⟩)
    · rw [setLinks_pending, absent] at pending
      cases pending
    · rw [links_setLinks] at bound
      split at bound
      · obtain ⟨c', remains⟩ := Option.isSome_iff_exists.mp bound
        obtain ⟨before, ne⟩ := Dict.get?_dropValue_eq_some.mp remains
        rw [held] at before
        exact ne (Option.some.inj before).symm
      · rename_i ne
        rw [elsewhere other ne] at bound
        cases bound

end SharedListener
end Listener
