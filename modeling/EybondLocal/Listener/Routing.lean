import EybondLocal.Listener.Tracking
import Mathlib.Data.List.Dedup

/-!
Which connection object a socket is bound to. A looked-up connection is reused only while no
session runs on it, so the session maps stay injective whatever the callers do. A socket whose
first bytes name its collector is routed by that name; an activation is not, it looks up the
caller's PN or the peer's address.
-/
namespace Listener
open StripText CollectorIdentity OrderedDict BinaryFraming Execution

/-- Every index holds objects that were made, and no two sessions share one. -/
structure Links.Sound (links : Links) : Prop where
  byIp : ∀ k c, links.byIp.get? k = some c → c < links.made
  byPn : ∀ k c, links.byPn.get? k = some c → c < links.made
  bySession : ∀ k c, links.bySession.get? k = some c → c < links.made
  injective : ∀ k k' c, links.bySession.get? k = some c → links.bySession.get? k' = some c → k = k'

namespace Links.Sound
variable {links links' : Links}

theorem start : Links.empty.Sound where
  byIp _ _ held := by cases held
  byPn _ _ held := by cases held
  bySession _ _ held := by cases held
  injective _ _ _ held := by cases held

theorem shrink (sound : links.Sound) (made : links.made ≤ links'.made)
    (byIp : ∀ k c, links'.byIp.get? k = some c → links.byIp.get? k = some c)
    (byPn : ∀ k c, links'.byPn.get? k = some c → links.byPn.get? k = some c)
    (bySession : ∀ k c, links'.bySession.get? k = some c → links.bySession.get? k = some c) :
    links'.Sound where
  byIp k c held := (sound.byIp k c (byIp k c held)).trans_le made
  byPn k c held := (sound.byPn k c (byPn k c held)).trans_le made
  bySession k c held := (sound.bySession k c (bySession k c held)).trans_le made
  injective k k' c held held' :=
    sound.injective k k' c (bySession k c held) (bySession k' c held')

theorem assigned {d : Dict String Nat} {bound c : Nat} {key : String} (exists' : c < bound)
    (all : ∀ k c, d.get? k = some c → c < bound) :
    ∀ k c', (d.set key c).get? k = some c' → c' < bound := by
  intro k c' held
  rw [Dict.get?_set] at held
  split at held
  · cases held
    exact exists'
  · exact all k c' held

theorem setIp (sound : links.Sound) {c : Nat} (exists' : c < links.made) (ip : String) :
    ({ links with byIp := links.byIp.set ip c }).Sound :=
  ⟨assigned exists' sound.byIp, sound.byPn, sound.bySession, sound.injective⟩

theorem setPn (sound : links.Sound) {c : Nat} (exists' : c < links.made) (pn : String) :
    ({ links with byPn := links.byPn.set pn c }).Sound :=
  ⟨sound.byIp, assigned exists' sound.byPn, sound.bySession, sound.injective⟩

theorem bind (sound : links.Sound) {c : Nat} (exists' : c < links.made)
    (free : c ∉ links.bySession.values) (sid : String) :
    ({ links with bySession := links.bySession.set sid c }).Sound := by
  refine ⟨sound.byIp, sound.byPn, assigned exists' sound.bySession, ?_⟩
  intro k k' c' held held'
  have unshared : ∀ key, links.bySession.get? key ≠ some c :=
    fun key used => free (Dict.mem_values.mpr ⟨key, used⟩)
  rw [Dict.get?_set] at held held'
  split at held
  · cases held
    split at held'
    · rw [‹k = sid›, ‹k' = sid›]
    · exact absurd held' (unshared k')
  · split at held'
    · cases held'
      exact absurd held (unshared k)
    · exact sound.injective k k' c' held held'

theorem indexPn (sound : links.Sound) (sid pn : String) :
    (SharedListener.indexPn links sid pn).Sound := by
  unfold SharedListener.indexPn
  split
  · exact sound
  · rename_i c held
    exact sound.setPn (sound.bySession sid c held) pn

theorem makeConnection (sound : links.Sound) : (SharedListener.makeConnection links).2.Sound :=
  sound.shrink (Nat.le_succ _) (fun _ _ held => held) (fun _ _ held => held)
    fun _ _ held => held

theorem ensureConnection (sound : links.Sound) (collectorIp collectorPn : String) :
    (SharedListener.ensureConnection links collectorIp collectorPn).Sound := by
  unfold SharedListener.ensureConnection
  split
  · split
    · exact sound
    · exact sound.makeConnection.setPn (Nat.lt_succ_self links.made) _
  · split
    · split
      · exact sound
      · exact sound.makeConnection.setIp (Nat.lt_succ_self links.made) _
    · exact sound

end Links.Sound

namespace SharedListener

theorem singleObject_mem {objects : List Nat} {c : Nat} (single : singleObject objects = some c) :
    c ∈ objects := by
  unfold singleObject at single
  split at single
  · rename_i only
    cases single
    rw [← List.mem_dedup, only]
    exact List.mem_singleton_self _
  · cases single

theorem sameIdentity_strip {pn : String} (named : strip pn ≠ "") :
    pnIsSameIdentity (strip pn) (strip pn) = true := by
  simp [pnIsSameIdentity, named]

/-- A PN leads only to connections indexed under a PN of the same identity. -/
theorem connectionByCollectorPn_indexed {links : Links} {pn : String} {c : Nat}
    (found : connectionByCollectorPn links pn = some c) :
    strip pn ≠ "" ∧ ∃ key, links.byPn.get? key = some c ∧ pnIsSameIdentity (strip pn) key = true := by
  unfold connectionByCollectorPn at found
  split at found
  · cases found
  · rename_i named
    refine ⟨named, ?_⟩
    have listed : ∀ keep : Nat → Bool,
        c ∈ ((links.byPn.items.filter fun item => pnIsSameIdentity (strip pn) item.1).map
          Prod.snd).filter keep →
        ∃ key, links.byPn.get? key = some c ∧ pnIsSameIdentity (strip pn) key = true := by
      intro keep member
      obtain ⟨item, kept, rfl⟩ := List.mem_map.mp (List.mem_of_mem_filter member)
      obtain ⟨inItems, same⟩ := List.mem_filter.mp kept
      exact ⟨item.1, (links.byPn.get?_eq_some_iff _ _).mpr inItems, same⟩
    have own : links.byPn.get? (strip pn) = some c →
        ∃ key, links.byPn.get? key = some c ∧ pnIsSameIdentity (strip pn) key = true :=
      fun held => ⟨strip pn, held, sameIdentity_strip named⟩
    dsimp only at found
    split at found
    · rename_i exact' held
      split at found
      · cases found
        exact own held
      · rcases Option.or_eq_some_iff.mp found with connected | ⟨-, fallback⟩
        · exact listed _ (singleObject_mem connected)
        · cases fallback
          exact own held
    · rcases Option.or_eq_some_iff.mp found with connected | ⟨-, any⟩
      · exact listed _ (singleObject_mem connected)
      · refine listed (fun _ => true) (List.mem_filter.mpr ⟨singleObject_mem any, rfl⟩)

structure Found (links : Links) (result : Option Nat × Links) : Prop where
  sound : result.2.Sound
  made : result.2.made = links.made
  bySession : result.2.bySession = links.bySession
  connected : result.2.connected = links.connected
  byPn : result.2.byPn = links.byPn
  exists' : ∀ c, result.1 = some c → c < links.made

theorem connectionByPeer_found (rules : Rules) {links : Links} (sound : links.Sound)
    (remoteIp : String) : Found links (connectionByPeer rules links remoteIp) := by
  have known : ∀ c, links.byIp.get? remoteIp = some c → Found links (some c, links) :=
    fun c held => ⟨sound, rfl, rfl, rfl, rfl, fun c' same => by
      cases same
      exact sound.byIp remoteIp c held⟩
  have unknown : Found links (none, links) := ⟨sound, rfl, rfl, rfl, rfl, nofun⟩
  unfold connectionByPeer
  split
  · rename_i c held
    exact known c held
  · unfold resolvePublicPlaceholderAlias
    split
    · rename_i c held
      exact known c held
    · split
      · exact unknown
      · dsimp only
        split
        · exact unknown
        · rename_i c single
          obtain ⟨item, kept, rfl⟩ := List.mem_map.mp (singleObject_mem single)
          have held := (links.byIp.get?_eq_some_iff item.1 item.2).mpr (List.mem_of_mem_filter kept)
          have exists' := sound.byIp item.1 item.2 held
          refine ⟨sound.setIp exists' remoteIp, rfl, rfl, rfl, rfl, fun c' same => ?_⟩
          cases same
          exact exists'

theorem connectionByCollectorPn_found {links : Links} (sound : links.Sound) (pn : String) :
    Found links (connectionByCollectorPn links pn, links) := by
  refine ⟨sound, rfl, rfl, rfl, rfl, fun c found => ?_⟩
  dsimp only at found
  obtain ⟨-, key, held, -⟩ := connectionByCollectorPn_indexed found
  exact sound.byPn key c held

theorem routedConnection_found (rules : Rules) {links : Links} (sound : links.Sound)
    (first : FirstChunk) (remoteIp : String) :
    Found links (routedConnection rules links first remoteIp) := by
  unfold routedConnection
  split
  · exact connectionByCollectorPn_found sound first.pn
  · split
    · exact connectionByPeer_found rules sound remoteIp
    · exact ⟨sound, rfl, rfl, rfl, rfl, nofun⟩

theorem activatedConnection_found (rules : Rules) {links : Links} (sound : links.Sound)
    (collectorPn remoteIp : String) :
    Found links (activatedConnection rules links collectorPn remoteIp) := by
  unfold activatedConnection
  split
  · exact connectionByCollectorPn_found sound collectorPn
  · exact connectionByPeer_found rules sound remoteIp

theorem routedConnection_indexed (rules : Rules) {links : Links} {first : FirstChunk}
    {remoteIp : String} {c : Nat} (strong : first.canRoute = true)
    (found : (routedConnection rules links first remoteIp).1 = some c) :
    ∃ key, links.byPn.get? key = some c ∧ pnIsSameIdentity (strip first.pn) key = true := by
  rw [routedConnection, if_pos strong] at found
  dsimp only at found
  exact (connectionByCollectorPn_indexed found).2

theorem activatedConnection_indexed (rules : Rules) {links : Links} {collectorPn remoteIp : String}
    {c : Nat} (named : strip collectorPn ≠ "")
    (found : (activatedConnection rules links collectorPn remoteIp).1 = some c) :
    ∃ key, links.byPn.get? key = some c ∧ pnIsSameIdentity (strip collectorPn) key = true := by
  rw [activatedConnection, if_pos named] at found
  dsimp only at found
  exact (connectionByCollectorPn_indexed found).2

theorem activatedConnection_unnamed (rules : Rules) {links : Links} {collectorPn remoteIp : String}
    {c : Nat} (unnamed : strip collectorPn = "")
    (found : (activatedConnection rules links collectorPn remoteIp).1 = some c) :
    (connectionByPeer rules links remoteIp).1 = some c := by
  rwa [activatedConnection, if_neg (not_not.mpr unnamed)] at found

theorem reuseOrMake_spec {links : Links} {result : Option Nat × Links} (found : Found links result) :
    (reuseOrMake result.1 result.2).2.Sound ∧
      (reuseOrMake result.1 result.2).1 < (reuseOrMake result.1 result.2).2.made ∧
      (reuseOrMake result.1 result.2).1 ∉ (reuseOrMake result.1 result.2).2.bySession.values ∧
      ((reuseOrMake result.1 result.2).1 < links.made →
        result.1 = some (reuseOrMake result.1 result.2).1 ∧
          isUnboundPlaceholder links (reuseOrMake result.1 result.2).1 = true) := by
  obtain ⟨outcome, links'⟩ := result
  have fresh : (makeConnection links').2.Sound ∧
      (makeConnection links').1 < (makeConnection links').2.made ∧
      (makeConnection links').1 ∉ (makeConnection links').2.bySession.values ∧
      ¬ (makeConnection links').1 < links.made := by
    refine ⟨found.sound.makeConnection, Nat.lt_succ_self _, fun used => ?_, ?_⟩
    · obtain ⟨k, held⟩ := Dict.mem_values.mp used
      exact absurd (found.sound.bySession k _ held) (Nat.lt_irrefl _)
    · have made : links'.made = links.made := found.made
      simp only [makeConnection]
      omega
  have new : ∀ result, result = makeConnection links' → result.2.Sound ∧ result.1 < result.2.made ∧
      result.1 ∉ result.2.bySession.values ∧ (result.1 < links.made →
        outcome = some result.1 ∧ isUnboundPlaceholder links result.1 = true) := by
    rintro result rfl
    exact ⟨fresh.1, fresh.2.1, fresh.2.2.1, fun old => absurd old fresh.2.2.2⟩
  dsimp only
  cases outcome with
  | none => exact new _ rfl
  | some c =>
    by_cases idle : isUnboundPlaceholder links' c = true
    · have same : reuseOrMake (some c) links' = (c, links') := if_pos idle
      have unused : c ∉ links'.bySession.values := by
        simp only [isUnboundPlaceholder, Bool.and_eq_true, decide_eq_true_eq] at idle
        exact idle.2
      rw [same]
      refine ⟨found.sound, found.made ▸ found.exists' c rfl, unused, fun _ => ⟨rfl, ?_⟩⟩
      have bySession : links'.bySession = links.bySession := found.bySession
      have connected : links'.connected = links.connected := found.connected
      rwa [isUnboundPlaceholder, connected, bySession] at idle
    · exact new _ (if_neg idle)

def Wired (l : SharedListener) : Prop := ∀ wire, (l.links wire).Sound

variable {l l' : SharedListener} (rules : Rules)

theorem wired_of_links (wired : l.Wired) (same : ∀ wire, l'.links wire = l.links wire) :
    l'.Wired := fun wire => same wire ▸ wired wire

theorem wired_setLinks {wire : Wire} {links : Links} (wired : l.Wired) (sound : links.Sound) :
    (l.setLinks wire links).Wired := by
  intro other
  rw [links_setLinks]
  split
  · exact sound
  · exact wired other

theorem wired_markIdentity (wired : l.Wired) (sid pn source : String) :
    (l.markIdentity sid pn source).Wired := by
  unfold markIdentity
  dsimp only
  split
  · exact wired
  · have updated : (l.updateEntry sid fun entry => entry.markIdentity (.str pn) source).Wired :=
      wired_of_links wired (updateEntry_links l sid _)
    intro wire
    cases wire
    · exact (updated .framed).indexPn sid _
    · exact (updated .atText).indexPn sid _

theorem wired_bindSniffed {wire : Wire} {p : Pending} {c : Nat} {links : Links} (wired : l.Wired)
    (first : FirstChunk) (sound : links.Sound) (exists' : c < links.made)
    (free : c ∉ links.bySession.values) : (l.bindSniffed wire p first c links).Wired := by
  have bound : (l.setLinks wire { links with
      byIp := links.byIp.set p.remoteIp c
      bySession := links.bySession.set p.sessionId c }).Wired :=
    wired_setLinks wired ((sound.setIp exists' p.remoteIp).bind exists' free p.sessionId)
  unfold bindSniffed
  dsimp only
  split
  · exact wired_of_links bound (updateEntry_links _ _ _)
  · exact wired_of_links (wired_markIdentity bound _ _ _) (updateEntry_links _ _ _)

theorem wired_routeOn (wired : l.Wired) (wire : Wire) (p : Pending) (first : FirstChunk) :
    (l.routeOn rules wire p first).1.Wired := by
  have found := routedConnection_found rules (wired wire) first p.remoteIp
  obtain ⟨sound, exists', free, -⟩ := reuseOrMake_spec found
  have aliased : (l.setLinks wire (routedConnection rules (l.links wire) first p.remoteIp).2).Wired :=
    wired_setLinks wired found.sound
  unfold routeOn
  dsimp only
  split
  · exact wired_bindSniffed aliased first sound exists' free
  · exact wired_of_links aliased fun other => park_links _ _ _ other

theorem wired_noted (wired : l.Wired) (p : Pending) (chunk : Bytes) :
    (l.noted rules p chunk).Wired := by
  have removed : ((l.markFirstBytes p.sessionId chunk).removePending p.sessionId).Wired :=
    wired_of_links wired fun wire => by simp
  unfold noted
  dsimp only
  split
  · exact removed
  · exact wired_markIdentity removed _ _ _

theorem wired_sniffed {p : Pending} (wired : l.Wired)
    (held : l.pending.get? p.sessionId = some p) (chunk : Bytes) (exhausted : Bool) :
    (l.sniffed rules p.sessionId chunk exhausted).1.Wired := by
  rcases sniffed_cases rules chunk exhausted held with ⟨-, -, closed⟩ | ⟨state, alive, parked⟩ |
    short | exclusive | ⟨-, -, routed⟩
  · rw [closed]
    exact wired_of_links wired fun wire => closeUnclaimed_links _ _ wire
  · rw [parked]
    exact wired_of_links wired fun wire => park_links _ _ _ wire
  · rw [short]
    exact wired_of_links wired fun wire => by rw [park_links, markFirstBytes_links]
  · rw [exclusive]
    exact wired_of_links (wired_noted rules wired p chunk) fun wire => park_links _ _ _ wire
  · rw [routed]
    exact wired_routeOn rules (wired_noted rules wired p chunk) _ p _

theorem wired_activate (wired : l.Wired) (wire : Wire) (p : Pending)
    (collectorIp collectorPn : String) :
    (l.activate rules wire p collectorIp collectorPn).1.Wired := by
  obtain ⟨sound, exists', free, -⟩ :=
    reuseOrMake_spec (activatedConnection_found rules (wired wire) collectorPn p.remoteIp)
  unfold activate
  dsimp only
  generalize reuseOrMake _ _ = chosen at sound exists' free ⊢
  obtain ⟨c, links⟩ := chosen
  dsimp only at sound exists' free ⊢
  refine wired_of_links ?_ (updateEntry_links _ _ _)
  apply wired_setLinks wired
  split
  · exact (sound.setPn exists' _).bind exists' free p.sessionId
  · have peer := sound.setIp exists' p.remoteIp
    split
    · exact (peer.setIp exists' collectorIp).bind exists' free p.sessionId
    · exact peer.bind exists' free p.sessionId

theorem wired_socketSessionClosed (wired : l.Wired) (wire : Wire) (sid : String) (c : Nat) :
    (l.socketSessionClosed wire sid c).Wired := by
  unfold socketSessionClosed
  split
  · exact wired
  · dsimp only
    refine wired_of_links ?_ (updateEntry_links _ _ _)
    split
    · refine wired_setLinks wired ((wired wire).shrink le_rfl (fun _ _ held => held)
        (fun _ _ held => held) fun k c' held => ?_)
      rw [Dict.get?_erase] at held
      split at held
      · cases held
      · exact held
    · exact wired

theorem markAll_links (sids : List String) (state : SessionState) (l : SharedListener)
    (wire : Wire) :
    (sids.foldl (fun l k => l.markState k state) l).links wire = l.links wire := by
  induction sids generalizing l with
  | nil => rfl
  | cons k rest ih => rw [List.foldl_cons, ih, markState, updateEntry_links]

theorem wired_dropConnectionIndexes (wired : l.Wired) (wire : Wire) (c : Nat) :
    (l.dropConnectionIndexes wire c).Wired := by
  unfold dropConnectionIndexes
  dsimp only
  refine wired_of_links ?_ (markAll_links _ _ _)
  refine wired_setLinks wired ((wired wire).shrink le_rfl ?_ ?_ ?_)
  · exact fun _ _ held => (Dict.get?_dropValue_eq_some.mp held).1
  · exact fun _ _ held => (Dict.get?_dropValue_eq_some.mp held).1
  · exact fun _ _ held => (Dict.get?_dropValue_eq_some.mp held).1

theorem foldl_erase {d : Dict String Nat} {keys : List String} {k : String} {c : Nat}
    (held : (keys.foldl Dict.erase d).get? k = some c) : d.get? k = some c := by
  induction keys generalizing d with
  | nil => exact held
  | cons key rest ih =>
    have before := ih held
    rw [Dict.get?_erase] at before
    split at before
    · cases before
    · exact before

end SharedListener

section Bindings
open SharedListener
variable (rules : Rules) {s : Shared}

theorem wired_step (a : Action) (tracked : Tracked s) (wired : s.listener.Wired) :
    (step rules s a).listener.Wired := by
  cases a with
  | accept peer remotePort task => exact wired_of_links wired (accept_links _ _ _)
  | sniffed sid chunk exhausted =>
    rw [sniffed_step_listener]
    cases held : s.listener.pending.get? sid with
    | none => simpa [sniffed, held] using wired
    | some p =>
      cases tracked.pendingKey sid p held
      exact wired_sniffed rules wired held chunk exhausted
  | identified sid pn source =>
    simp only [step, withListener]
    exact wired_markIdentity wired sid pn source
  | firstBytes sid chunk => exact wired_of_links wired (updateEntry_links _ _ _)
  | buffered sid bytes =>
    refine wired_of_links wired fun wire => ?_
    simp only [step, withListener, updatePending]
    split
    · rfl
    · cases wire <;> rfl
  | retasked sid task parked =>
    refine wired_of_links wired fun wire => ?_
    simp only [step, withListener, updatePending]
    split
    · rfl
    · cases wire <;> rfl
  | marked sid state =>
    simp only [step, withListener]
    split
    · exact wired
    · exact wired_of_links wired (updateEntry_links _ _ _)
  | unclaimedClosed sid state =>
    simp only [step, withListener]
    split
    · exact wired_of_links wired (closeUnclaimed_links _ _)
    · exact wired
  | pendingDropped sid => exact wired_of_links wired (removePending_links _ _)
  | pendingClosed sid => exact wired_of_links wired (updateEntry_links _ _ _)
  | claim sid =>
    simp only [step]
    split
    · exact wired
    · exact wired_of_links wired (closeUnclaimed_links _ _)
  | activate wire sid collectorIp collectorPn =>
    simp only [step]
    split
    · exact wired
    · exact wired_activate rules wired wire _ collectorIp collectorPn
  | ensure wire collectorIp collectorPn =>
    exact wired_setLinks wired ((wired wire).ensureConnection collectorIp collectorPn)
  | connectionState wire connection connected =>
    exact wired_setLinks wired ((wired wire).shrink le_rfl (fun _ _ held => held)
      (fun _ _ held => held) fun _ _ held => held)
  | socketClosed run =>
    simp only [step, withListener]
    split
    · exact wired_socketSessionClosed wired run.wire run.sid run.connection
    · exact wired
  | connectionDropped wire connection => exact wired_dropConnectionIndexes wired wire connection
  | peersPopped wire ips =>
    exact wired_setLinks wired ((wired wire).shrink le_rfl (fun _ _ held => foldl_erase held)
      (fun _ _ held => held) fun _ _ held => held)
  | indexesDropped wire connections =>
    exact wired_setLinks wired ((wired wire).shrink le_rfl (fun _ _ held => held)
      (fun _ _ held => foldl_dropValue held) fun _ _ held => foldl_dropValue held)
  | routeRegistered collectorIp collectorPn transparent protocol =>
    exact wired_of_links wired fun wire => by cases wire <;> rfl
  | routeDropped token => exact wired_of_links wired fun wire => by cases wire <;> rfl
  | ownersChanged wire owners pnOwners =>
    exact wired_of_links wired fun wire => by cases wire <;> rfl

def OwnConnections (s : Shared) : Prop :=
  ∀ wire k k' c, (s.listener.links wire).bySession.get? k = some c →
    (s.listener.links wire).bySession.get? k' = some c → k = k'

def OwnRoute (links : Links) (pn : String) (c : Nat) : Prop :=
  c < links.made → ∃ key, links.byPn.get? key = some c ∧ pnIsSameIdentity (strip pn) key = true

/-- A section that binds a socket with a strong PN in its first bytes leads it to its own. -/
def RoutesOwn (s : Shared) : Action → Prop
  | .sniffed sid chunk exhausted => ∀ wire c,
      (s.listener.sniffed rules sid chunk exhausted).2 = .bound wire c →
        (firstChunk rules chunk).canRoute = true →
          OwnRoute (s.listener.links wire) (firstChunk rules chunk).pn c
  | .activate wire sid collectorIp collectorPn => ∀ p, s.claimed.get? sid = some p →
      (firstChunk rules p.initialBytes).canRoute = true →
        OwnRoute (s.listener.links wire) (firstChunk rules p.initialBytes).pn
          (s.listener.activate rules wire p collectorIp collectorPn).2
  | _ => True

/-- A caller that activates such a socket names its collector: the idle placeholders of the
    caller's PN are those of the first bytes. Without a PN the peer leads to none. -/
def NamesOwn (s : Shared) : Action → Prop
  | .activate wire sid _ collectorPn => ∀ p, s.claimed.get? sid = some p →
      (firstChunk rules p.initialBytes).canRoute = true →
        (strip collectorPn ≠ "" → ∀ key c, (s.listener.links wire).byPn.get? key = some c →
          isUnboundPlaceholder (s.listener.links wire) c = true →
          pnIsSameIdentity (strip collectorPn) key = true →
            pnIsSameIdentity (strip (firstChunk rules p.initialBytes).pn) key = true) ∧
        (strip collectorPn = "" → ∀ c,
          (connectionByPeer rules (s.listener.links wire) p.remoteIp).1 = some c →
            isUnboundPlaceholder (s.listener.links wire) c = false)
  | _ => True

theorem noted_links {l : SharedListener} (p : Pending) (chunk : Bytes)
    (unbound : l.Unbound p.sessionId) (wire : Wire) :
    (l.noted rules p chunk).links wire = l.links wire := by
  have unindexed : ∀ links : Links, links.bySession.get? p.sessionId = none → ∀ pn,
      indexPn links p.sessionId pn = links := by
    intro links absent pn
    simp [indexPn, absent]
  unfold noted
  dsimp only
  split
  · simp
  · unfold markIdentity
    dsimp only
    split
    · simp
    · generalize change : (fun entry : Entry => entry.markIdentity _ _) = update
      have same : ∀ w, (((l.markFirstBytes p.sessionId chunk).removePending
          p.sessionId).updateEntry p.sessionId update).links w = l.links w := by simp
      cases wire
      · exact (unindexed _ (by rw [show SharedListener.framed _ = l.framed from same .framed]
                               exact unbound .framed) _).trans (same .framed)
      · exact (unindexed _ (by rw [show SharedListener.atText _ = l.atText from same .atText]
                               exact unbound .atText) _).trans (same .atText)

/-- Routing by a strong PN reuses only what that PN leads to. -/
theorem routeOn_own {l : SharedListener} (wired : l.Wired) {wire bound : Wire} {p : Pending}
    {first : FirstChunk} {c : Nat} (strong : first.canRoute = true)
    (result : (l.routeOn rules wire p first).2 = .bound bound c) :
    OwnRoute (l.links bound) first.pn c := by
  have found := routedConnection_found rules (wired wire) first p.remoteIp
  obtain ⟨-, -, -, reused⟩ := reuseOrMake_spec found
  unfold routeOn at result
  dsimp only at result
  split at result
  · cases result
    intro old
    exact routedConnection_indexed rules strong (reused old).1
  · cases result

theorem routes_own_step (a : Action) (tracked : Tracked s) (wired : s.listener.Wired)
    (names : NamesOwn rules s a) : RoutesOwn rules s a := by
  cases a with
  | sniffed sid chunk exhausted =>
    intro wire c bound strong
    cases held : s.listener.pending.get? sid with
    | none => simp [sniffed, held] at bound
    | some p =>
      cases tracked.pendingKey sid p held
      rcases sniffed_cases rules chunk exhausted held with ⟨-, -, closed⟩ | ⟨state, alive, parked⟩ |
        short | exclusive | ⟨-, -, routed⟩
      · rw [closed] at bound
        cases bound
      · rw [parked] at bound
        cases bound
      · rw [short] at bound
        cases bound
      · rw [exclusive] at bound
        cases bound
      · rw [routed] at bound
        have own := routeOn_own rules (wired_noted rules wired p chunk) strong bound
        rwa [noted_links rules p chunk (tracked.pendingUnbound _ p held)] at own
  | activate wire sid collectorIp collectorPn =>
    intro p held strong old
    obtain ⟨byPn, byPeer⟩ := names p held strong
    obtain ⟨-, -, -, reused⟩ :=
      reuseOrMake_spec (activatedConnection_found rules (wired wire) collectorPn p.remoteIp)
    obtain ⟨looked, idle⟩ := reused old
    by_cases named : strip collectorPn = ""
    · have bound := byPeer named _ (activatedConnection_unnamed rules named looked)
      exact absurd idle (by rw [bound]; exact Bool.false_ne_true)
    · obtain ⟨key, indexed, same⟩ := activatedConnection_indexed rules named looked
      exact ⟨key, indexed, byPn named key _ indexed idle same⟩
  | _ => exact trivial

/-- Session maps are injective in every state of every run; when activations name the
    collector of a socket that names itself, no such socket gets a foreign connection. -/
theorem sockets_bound_to_own_connections (port : Nat) (actions : List Action)
    (names : EveryStep (step rules) (NamesOwn rules) (Shared.start port) actions) :
    EveryState (step rules) OwnConnections (Shared.start port) actions ∧
      EveryStep (step rules) (RoutesOwn rules) (Shared.start port) actions := by
  have keeps : ∀ s a, Tracked s ∧ s.listener.Wired → NamesOwn rules s a →
      Tracked (step rules s a) ∧ (step rules s a).listener.Wired :=
    fun s a now _ => ⟨tracked_step rules a now.1, wired_step rules a now.1 now.2⟩
  have start : Tracked (Shared.start port) ∧ (Shared.start port).listener.Wired := by
    refine ⟨Tracked.start port, fun wire => ?_⟩
    cases wire <;> exact Links.Sound.start
  constructor
  · refine everyState_mono (fun s now => ?_) (everyState_of_everyStep keeps start names)
    exact fun wire => (now.2 wire).injective
  · exact everyStep_of_invariant keeps
      (fun s a now admitted => routes_own_step rules a now.1 now.2 admitted) start names

end Bindings
/-- Peers of one LAN; a collector query reply states its PN after two leading bytes. -/
def replyRules : Rules where
  hairpinAlias _ _ := false
  broadcastAlias _ _ := false
  initialPn chunk :=
    if (decodeHeader chunk).map EybondHeader.fcode = some fcQueryCollector then
      (String.ofList ((chunk.drop (headerSize + 2)).map fun b => Char.ofNat b.toNat),
        "fc2_parameter_2")
    else ("", "")

def collectorReply : Bytes :=
  [0, 1, 0, 1, 0, 16, 1, 2, 0, 2] ++ [69, 53, 48, 48, 48, 48, 49, 50, 51, 52, 53, 54]

def parkedAndClaimed : List Action :=
  [.accept (some ⟨"192.168.1.50", lanAddress_visible⟩) none 0,
    .sniffed "listener-8899-1" collectorReply false,
    .claim "listener-8899-1"]

def activatedByName : List Action :=
  parkedAndClaimed ++ [.activate .framed "listener-8899-1" "192.168.1.50" "E50000123456"]

theorem named_activation_routed :
    EveryStep (step replyRules) (NamesOwn replyRules) (Shared.start 8899) activatedByName ∧
      EveryState (step replyRules) OwnConnections (Shared.start 8899) activatedByName ∧
      EveryStep (step replyRules) (RoutesOwn replyRules) (Shared.start 8899) activatedByName := by
  have unindexed : (run (step replyRules) (Shared.start 8899) parkedAndClaimed).listener.framed.byPn.items
      = [] := by decide +kernel
  have names : EveryStep (step replyRules) (NamesOwn replyRules) (Shared.start 8899)
      activatedByName := by
    refine ⟨trivial, trivial, trivial, fun p held strong => ⟨fun _ key c indexed => ?_, ?_⟩, trivial⟩
    · have listed := (Dict.get?_eq_some_iff _ _ _).mp indexed
      exact absurd (unindexed ▸ listed) List.not_mem_nil
    · intro blank
      exact absurd blank (by decide)
  exact ⟨names, sockets_bound_to_own_connections replyRules 8899 activatedByName names⟩

def activatedByAddress : List Action :=
  .ensure .framed "192.168.1.50" "" :: parkedAndClaimed ++
    [.activate .framed "listener-8899-1" "192.168.1.50" ""]

theorem foreign_placeholder_reused :
    ¬ EveryStep (step replyRules) (RoutesOwn replyRules) (Shared.start 8899)
        activatedByAddress := by
  rintro ⟨-, -, -, -, activation, -⟩
  have claimed : (run (step replyRules) (Shared.start 8899)
      (.ensure .framed "192.168.1.50" "" :: parkedAndClaimed)).claimed.get? "listener-8899-1" =
      some ⟨"listener-8899-1", "192.168.1.50", none, none, collectorReply, true⟩ := by
    decide +kernel
  have unindexed : (run (step replyRules) (Shared.start 8899)
      (.ensure .framed "192.168.1.50" "" :: parkedAndClaimed)).listener.framed.byPn.items = [] := by
    decide +kernel
  obtain ⟨key, indexed, -⟩ := activation _ claimed (by decide +kernel) (by decide +kernel)
  have listed := (Dict.get?_eq_some_iff _ _ _).mp indexed
  exact absurd (unindexed ▸ listed) List.not_mem_nil

end Listener
