import EybondLocal.Library.PythonText
import EybondLocal.Listener.Sections

/-!
Every socket of the listener is in one place: pending, claimed by a caller, or run once by one
connection. The invariant needs nothing from the callers and holds in every run; with it each
section only moves the session it is about.
-/
namespace Listener
open StripText PythonText CollectorIdentity OrderedDict BinaryFraming Execution

theorem toString_trimmed (n : Nat) : strip (toString n) = toString n ∧ toString n ≠ "" := by
  constructor
  · rw [strip_eq_self_iff]
    apply stripBy_of_none
    intro c member
    have listed : c ∈ Nat.toDigits 10 n := by simpa [Nat.toList_repr] using member
    have digit := Nat.isDigit_of_mem_toDigits (by decide) (by decide) listed
    simp only [Char.isDigit, Bool.and_eq_true, decide_eq_true_eq] at digit
    have low : 48 ≤ c.toNat := digit.1
    have high : c.toNat ≤ 57 := digit.2
    simp only [isSpace, Bool.or_eq_false_iff, Bool.and_eq_false_iff, decide_eq_false_iff_not,
      beq_eq_false_iff_ne]
    omega
  · exact Nat.repr_ne_empty

theorem sessionIdOf_trimmed (port n : Nat) :
    strip (SharedListener.sessionIdOf port n) = SharedListener.sessionIdOf port n := by
  obtain ⟨trimmed, visible⟩ := toString_trimmed n
  have joined : strip ("listener-" ++ (toString port ++ "-") ++ toString n) =
      "listener-" ++ (toString port ++ "-") ++ toString n :=
    strip_joined _ (by decide) (by decide) trimmed visible
  rwa [← String.append_assoc] at joined

theorem sessionIdOf_injective (port : Nat) {a b : Nat}
    (same : SharedListener.sessionIdOf port a = SharedListener.sessionIdOf port b) : a = b := by
  unfold SharedListener.sessionIdOf at same
  have digits : Nat.toDigits 10 a = Nat.toDigits 10 b := by
    have texts := congrArg String.toList same
    simpa [Nat.toList_repr] using texts
  rw [← Nat.ofDigitChars_ten_toDigits (n := a), digits, Nat.ofDigitChars_ten_toDigits]

def Shared.Seen (s : Shared) (k : String) : Prop :=
  (s.listener.pending.get? k).isSome ∨ (s.claimed.get? k).isSome ∨ (∃ run ∈ s.runs, run.sid = k) ∨
    (s.listener.inventory.get? k).isSome

structure Tracked (s : Shared) : Prop where
  pendingKey : ∀ k p, s.listener.pending.get? k = some p → p.sessionId = k
  claimedKey : ∀ k p, s.claimed.get? k = some p → p.sessionId = k
  numbered : ∀ k, s.Seen k →
    ∃ n ≤ s.listener.sessionSeq, k = SharedListener.sessionIdOf s.listener.port n
  pendingUnclaimed : ∀ k, (s.listener.pending.get? k).isSome → s.claimed.get? k = none
  pendingIdle : ∀ k, (s.listener.pending.get? k).isSome → ∀ run ∈ s.runs, run.sid ≠ k
  claimedIdle : ∀ k, (s.claimed.get? k).isSome → ∀ run ∈ s.runs, run.sid ≠ k
  oneRun : ∀ run ∈ s.runs, ∀ run' ∈ s.runs, run.sid = run'.sid → run = run'
  bound : ∀ wire k c, (s.listener.links wire).bySession.get? k = some c → ⟨wire, k, c⟩ ∈ s.runs
  entries : ∀ k entry, s.listener.inventory.get? k = some entry →
    entry.sessionId = k ∧ strip entry.remoteIp ≠ ""

namespace Tracked
variable {s : Shared} {l' : SharedListener}

theorem start (port : Nat) : Tracked (Shared.start port) where
  pendingKey _ _ held := by cases held
  claimedKey _ _ held := by cases held
  numbered _ seen := by rcases seen with h | h | ⟨_, h, _⟩ | h <;> cases h
  pendingUnclaimed _ held := by cases held
  pendingIdle _ held := by cases held
  claimedIdle _ held := by cases held
  oneRun _ held := by cases held
  bound wire _ _ held := by cases wire <;> cases held
  entries _ _ held := by cases held

theorem trimmed (tracked : Tracked s) {k : String} (seen : s.Seen k) : strip k = k := by
  obtain ⟨n, -, rfl⟩ := tracked.numbered k seen
  exact sessionIdOf_trimmed _ n

theorem pendingUnbound (tracked : Tracked s) : s.listener.PendingUnbound := by
  intro k p held wire
  cases bound : (s.listener.links wire).bySession.get? k with
  | none => rfl
  | some c =>
    have run := tracked.bound wire k c bound
    exact absurd rfl (tracked.pendingIdle k (Option.isSome_of_eq_some held) _ run)

theorem boundOnce (tracked : Tracked s) {run : SocketRun} (started : run ∈ s.runs) {wire : Wire}
    {c : Nat} (held : (s.listener.links wire).bySession.get? run.sid = some c) :
    wire = run.wire ∧ c = run.connection := by
  have same := tracked.oneRun run started _ (tracked.bound wire run.sid c held) rfl
  exact ⟨(congrArg SocketRun.wire same).symm, (congrArg SocketRun.connection same).symm⟩

theorem ranNotPending (tracked : Tracked s) {run : SocketRun} (started : run ∈ s.runs) :
    s.listener.pending.get? run.sid = none := by
  cases held : s.listener.pending.get? run.sid with
  | none => rfl
  | some p => exact absurd rfl (tracked.pendingIdle _ (Option.isSome_of_eq_some held) run started)

theorem of_shrunk (tracked : Tracked s) (port : l'.port = s.listener.port)
    (sessionSeq : l'.sessionSeq = s.listener.sessionSeq)
    (pending : ∀ k p, l'.pending.get? k = some p →
      ∃ before, s.listener.pending.get? k = some before ∧ p.sessionId = before.sessionId)
    (bySession : ∀ wire k c, (l'.links wire).bySession.get? k = some c →
      (s.listener.links wire).bySession.get? k = some c)
    (entries : ∀ k entry, l'.inventory.get? k = some entry → ∃ before,
      s.listener.inventory.get? k = some before ∧ entry.sessionId = before.sessionId ∧
        entry.remoteIp = before.remoteIp) : Tracked (withListener s l') := by
  have wasPending : ∀ k, (l'.pending.get? k).isSome → (s.listener.pending.get? k).isSome := by
    intro k present
    obtain ⟨p, held⟩ := Option.isSome_iff_exists.mp present
    obtain ⟨before, found, -⟩ := pending k p held
    exact Option.isSome_of_eq_some found
  refine ⟨?_, tracked.claimedKey, ?_, ?_, ?_, tracked.claimedIdle, tracked.oneRun, ?_, ?_⟩
  · intro k p held
    obtain ⟨before, found, same⟩ := pending k p held
    exact same.trans (tracked.pendingKey k before found)
  · intro k seen
    have before : s.Seen k := by
      rcases seen with here | claimed | ran | entry
      · exact Or.inl (wasPending k here)
      · exact Or.inr (Or.inl claimed)
      · exact Or.inr (Or.inr (Or.inl ran))
      · obtain ⟨entry, held⟩ := Option.isSome_iff_exists.mp entry
        obtain ⟨before, found, -⟩ := entries k entry held
        exact Or.inr (Or.inr (Or.inr (Option.isSome_of_eq_some found)))
    simp only [withListener, port, sessionSeq]
    exact tracked.numbered k before
  · exact fun k here => tracked.pendingUnclaimed k (wasPending k here)
  · exact fun k here => tracked.pendingIdle k (wasPending k here)
  · exact fun wire k c held => tracked.bound wire k c (bySession wire k c held)
  · intro k entry held
    obtain ⟨before, found, id', ip'⟩ := entries k entry held
    obtain ⟨own, visible⟩ := tracked.entries k before found
    exact ⟨id'.trans own, ip' ▸ visible⟩

theorem of_moved (tracked : Tracked s) (moved : SharedListener.Moved none s.listener l') :
    Tracked (withListener s l') :=
  tracked.of_shrunk moved.port moved.sessionSeq (fun k p => moved.pending k p (by simp))
    (fun wire k c => moved.bySession wire k c (by simp)) moved.entries

theorem of_bound (tracked : Tracked s) {k : String} {wire : Wire} {c : Nat}
    {claimed : Dict String Pending} (seen : s.Seen k) (idle : ∀ run ∈ s.runs, run.sid ≠ k)
    (moved : SharedListener.Moved (some k) s.listener l') (absent : l'.pending.get? k = none)
    (bySession : ∀ other, (l'.links other).bySession =
      if other = wire then (s.listener.links wire).bySession.set k c
      else (s.listener.links other).bySession)
    (unclaimed : claimed.get? k = none)
    (fewer : ∀ key p, claimed.get? key = some p → s.claimed.get? key = some p) :
    Tracked ⟨l', claimed, ⟨wire, k, c⟩ :: s.runs⟩ := by
  have wasPending : ∀ key, (l'.pending.get? key).isSome →
      key ≠ k ∧ (s.listener.pending.get? key).isSome := by
    intro key present
    have ne : key ≠ k := by
      rintro rfl
      rw [absent] at present
      cases present
    obtain ⟨p, held⟩ := Option.isSome_iff_exists.mp present
    obtain ⟨before, found, -⟩ :=
      moved.pending key p (fun same => ne (Option.some.inj same).symm) held
    exact ⟨ne, Option.isSome_of_eq_some found⟩
  have wasClaimed : ∀ key, (claimed.get? key).isSome → key ≠ k ∧ (s.claimed.get? key).isSome := by
    intro key present
    have ne : key ≠ k := by
      rintro rfl
      rw [unclaimed] at present
      cases present
    obtain ⟨p, held⟩ := Option.isSome_iff_exists.mp present
    exact ⟨ne, Option.isSome_of_eq_some (fewer key p held)⟩
  refine ⟨?_, fun key p held => tracked.claimedKey key p (fewer key p held), ?_, ?_, ?_, ?_, ?_,
    ?_, ?_⟩
  · intro key p held
    obtain ⟨ne, -⟩ := wasPending key (Option.isSome_of_eq_some held)
    obtain ⟨before, found, same⟩ :=
      moved.pending key p (fun same => ne (Option.some.inj same).symm) held
    exact same.trans (tracked.pendingKey key before found)
  · intro key seen'
    have before : s.Seen key := by
      rcases seen' with here | claimed | ⟨run, started, rfl⟩ | entry
      · exact Or.inl (wasPending key here).2
      · exact Or.inr (Or.inl (wasClaimed key claimed).2)
      · rcases List.mem_cons.mp started with rfl | earlier
        · exact seen
        · exact Or.inr (Or.inr (Or.inl ⟨run, earlier, rfl⟩))
      · obtain ⟨entry, held⟩ := Option.isSome_iff_exists.mp entry
        obtain ⟨before, found, -⟩ := moved.entries key entry held
        exact Or.inr (Or.inr (Or.inr (Option.isSome_of_eq_some found)))
    simp only [moved.port, moved.sessionSeq]
    exact tracked.numbered key before
  · intro key here
    cases held : claimed.get? key with
    | none => rfl
    | some p =>
      have none' := tracked.pendingUnclaimed key (wasPending key here).2
      rw [fewer key p held] at none'
      cases none'
  · intro key here run started
    rcases List.mem_cons.mp started with rfl | earlier
    · exact (wasPending key here).1.symm
    · exact tracked.pendingIdle key (wasPending key here).2 run earlier
  · intro key here run started
    rcases List.mem_cons.mp started with rfl | earlier
    · exact (wasClaimed key here).1.symm
    · exact tracked.claimedIdle key (wasClaimed key here).2 run earlier
  · intro run started run' started' same
    rcases List.mem_cons.mp started with rfl | earlier
    · rcases List.mem_cons.mp started' with rfl | earlier'
      · rfl
      · exact absurd same.symm (idle run' earlier')
    · rcases List.mem_cons.mp started' with rfl | earlier'
      · exact absurd same (idle run earlier)
      · exact tracked.oneRun run earlier run' earlier' same
  · intro other key c' held
    have held : (l'.links other).bySession.get? key = some c' := held
    rw [bySession other] at held
    split at held
    · rename_i same
      rw [Dict.get?_set] at held
      split at held
      · rename_i hit
        cases Option.some.inj held
        rw [same, hit]
        exact List.mem_cons_self
      · rw [same]
        exact List.mem_cons_of_mem _ (tracked.bound wire key c' held)
    · exact List.mem_cons_of_mem _ (tracked.bound other key c' held)
  · intro key entry held
    obtain ⟨before, found, id', ip'⟩ := moved.entries key entry held
    obtain ⟨own, visible⟩ := tracked.entries key before found
    exact ⟨id'.trans own, ip' ▸ visible⟩

theorem of_claimed (tracked : Tracked s) {k : String} {p : Pending}
    (held : s.listener.pending.get? k = some p) (task : Option Nat) :
    Tracked { s with
      listener := s.listener.claimPending k
      claimed := s.claimed.set k { p with sniffTask := task } } := by
  have moved : SharedListener.Moved none s.listener (s.listener.claimPending k) :=
    (SharedListener.moved_removePending none k).trans (SharedListener.moved_markState none k rfl)
  have kept := tracked.of_moved moved
  have gone : (s.listener.claimPending k).pending.get? k = none := by
    simp [SharedListener.claimPending, SharedListener.markState, SharedListener.removePending]
  have present := Option.isSome_of_eq_some held
  have apart : ∀ key, ((s.listener.claimPending k).pending.get? key).isSome → key ≠ k := by
    rintro key here rfl
    rw [gone] at here
    cases here
  have wasClaimed : ∀ key, ((s.claimed.set k { p with sniffTask := task }).get? key).isSome →
      key = k ∨ (s.claimed.get? key).isSome := by
    intro key here
    rw [Dict.get?_set] at here
    split at here
    · exact Or.inl ‹_›
    · exact Or.inr here
  refine ⟨kept.pendingKey, ?_, ?_, ?_, kept.pendingIdle, ?_, kept.oneRun, kept.bound,
    kept.entries⟩
  · intro key q claimed
    have claimed : (s.claimed.set k { p with sniffTask := task }).get? key = some q := claimed
    rw [Dict.get?_set] at claimed
    split at claimed
    · rename_i hit
      cases Option.some.inj claimed
      rw [hit]
      exact tracked.pendingKey k p held
    · exact tracked.claimedKey key q claimed
  · intro key seen
    rcases seen with here | claimed | rest
    · exact kept.numbered key (Or.inl here)
    · rcases wasClaimed key claimed with rfl | before
      · obtain ⟨n, le, eq⟩ := tracked.numbered key (Or.inl present)
        exact ⟨n, moved.sessionSeq ▸ le, moved.port ▸ eq⟩
      · exact kept.numbered key (Or.inr (Or.inl before))
    · exact kept.numbered key (Or.inr (Or.inr rest))
  · intro key here
    simp only [Dict.get?_set, apart key here, if_false]
    exact kept.pendingUnclaimed key here
  · intro key claimed
    rcases wasClaimed key claimed with rfl | before
    · exact tracked.pendingIdle key present
    · exact tracked.claimedIdle key before

theorem fresh (tracked : Tracked s) :
    ¬ s.Seen (SharedListener.sessionIdOf s.listener.port (s.listener.sessionSeq + 1)) := by
  intro seen
  obtain ⟨n, le, same⟩ := tracked.numbered _ seen
  have := sessionIdOf_injective _ same
  omega

end Tracked

namespace SharedListener
variable {l : SharedListener}

def nextSessionId (l : SharedListener) : String := sessionIdOf l.port (l.sessionSeq + 1)

def displaced (l : SharedListener) : List String :=
  (l.inventory.items.take (l.inventory.items.length + 1 - maxSessionInventory)).map Prod.fst

theorem accept_pending {ip : String} (named : ip ≠ "") (remotePort : Option Int) (task : Nat)
    (k : String) :
    (l.accept ip remotePort task).pending.get? k =
      if k = l.nextSessionId then
        some { sessionId := l.nextSessionId, remoteIp := ip, remotePort := remotePort
               sniffTask := some task }
      else l.pending.get? k := by
  rw [accept, if_neg named]
  exact Dict.get?_set _ _ _ _

theorem accept_links (ip : String) (remotePort : Option Int) (task : Nat) (wire : Wire) :
    (l.accept ip remotePort task).links wire = l.links wire := by
  unfold accept
  split
  · rfl
  · cases wire <;> rfl

theorem accept_inventory {ip : String} (named : ip ≠ "") (remotePort : Option Int) (task : Nat)
    (absent : l.inventory.get? l.nextSessionId = none) {k : String}
    (kept : k ∉ l.displaced) :
    (l.accept ip remotePort task).inventory.get? k =
      if k = l.nextSessionId then
        some { sessionId := l.nextSessionId, remoteIp := ip, remotePort := remotePort }
      else l.inventory.get? k := by
  have items := Dict.set_items_of_absent absent
    { sessionId := l.nextSessionId, remoteIp := ip, remotePort := remotePort }
  have short : l.inventory.items.length + 1 - maxSessionInventory ≤ l.inventory.items.length := by
    simp only [maxSessionInventory]
    omega
  have stays : k ∉ ((l.inventory.set l.nextSessionId
      { sessionId := l.nextSessionId, remoteIp := ip, remotePort := remotePort }).items.take
        ((l.inventory.set l.nextSessionId { sessionId := l.nextSessionId, remoteIp := ip
                                            remotePort := remotePort }).items.length -
          maxSessionInventory)).map Prod.fst := by
    rw [items, List.length_append, List.length_singleton, List.take_append_of_le_length short]
    exact kept
  rw [← Dict.get?_set, ← Dict.get?_newest stays]
  simp [accept, named, rememberSession, nextSessionId]

theorem accept_entries {ip : String} (named : ip ≠ "") (remotePort : Option Int) (task : Nat)
    {k : String} {entry : Entry} (held : (l.accept ip remotePort task).inventory.get? k = some entry) :
    (k = l.nextSessionId ∧ entry.sessionId = k ∧ entry.remoteIp = ip) ∨
      l.inventory.get? k = some entry := by
  simp only [accept, named, if_false, rememberSession] at held
  have before := Dict.get?_newest_some held
  rw [Dict.get?_set] at before
  split at before
  · rename_i hit
    cases Option.some.inj before
    exact Or.inl ⟨hit, hit.symm, rfl⟩
  · exact Or.inr before

end SharedListener

namespace Tracked
variable {s : Shared}

theorem of_accept (tracked : Tracked s) (peer : PeerAddress) (remotePort : Option Int)
    (task : Nat) : Tracked (withListener s (s.listener.accept peer.ip remotePort task)) := by
  have named : peer.ip ≠ "" := fun blank => peer.visible (by rw [blank, strip_empty])
  have unseen := tracked.fresh
  have seq : (s.listener.accept peer.ip remotePort task).sessionSeq = s.listener.sessionSeq + 1 := by
    simp [SharedListener.accept, named, SharedListener.rememberSession]
  have port : (s.listener.accept peer.ip remotePort task).port = s.listener.port := by
    simp [SharedListener.accept, named, SharedListener.rememberSession]
  have wasPending : ∀ k, ((s.listener.accept peer.ip remotePort task).pending.get? k).isSome →
      k = s.listener.nextSessionId ∨ (s.listener.pending.get? k).isSome := by
    intro k here
    rw [SharedListener.accept_pending named] at here
    split at here
    · exact Or.inl ‹_›
    · exact Or.inr here
  refine ⟨?_, tracked.claimedKey, ?_, ?_, ?_, tracked.claimedIdle, tracked.oneRun, ?_, ?_⟩
  · intro k p held
    have held : (s.listener.accept peer.ip remotePort task).pending.get? k = some p := held
    rw [SharedListener.accept_pending named] at held
    split at held
    · rename_i hit
      cases Option.some.inj held
      exact hit.symm
    · exact tracked.pendingKey k p held
  · intro k seen
    have before : k = s.listener.nextSessionId ∨ s.Seen k := by
      rcases seen with here | claimed | ran | entry
      · exact (wasPending k here).imp_right Or.inl
      · exact Or.inr (Or.inr (Or.inl claimed))
      · exact Or.inr (Or.inr (Or.inr (Or.inl ran)))
      · obtain ⟨entry, held⟩ := Option.isSome_iff_exists.mp entry
        rcases SharedListener.accept_entries named remotePort task held with new | old
        · exact Or.inl new.1
        · exact Or.inr (Or.inr (Or.inr (Or.inr (Option.isSome_of_eq_some old))))
    simp only [withListener, seq, port]
    rcases before with rfl | seen
    · exact ⟨_, le_rfl, rfl⟩
    · obtain ⟨n, le, eq⟩ := tracked.numbered k seen
      exact ⟨n, by omega, eq⟩
  · intro k here
    rcases wasPending k here with rfl | before
    · cases held : s.claimed.get? s.listener.nextSessionId with
      | none => exact held
      | some p => exact absurd (Or.inr (Or.inl (Option.isSome_of_eq_some held))) unseen
    · exact tracked.pendingUnclaimed k before
  · intro k here run started
    rcases wasPending k here with rfl | before
    · exact fun same => unseen (Or.inr (Or.inr (Or.inl ⟨run, started, same⟩)))
    · exact tracked.pendingIdle k before run started
  · intro wire k c held
    have held : ((s.listener.accept peer.ip remotePort task).links wire).bySession.get? k =
      some c := held
    rw [SharedListener.accept_links] at held
    exact tracked.bound wire k c held
  · intro k entry held
    rcases SharedListener.accept_entries named remotePort task held with ⟨-, own, ip⟩ | old
    · exact ⟨own, ip ▸ peer.visible⟩
    · exact tracked.entries k entry old

theorem of_sniffed (rules : Rules) (tracked : Tracked s) {p : Pending}
    (held : s.listener.pending.get? p.sessionId = some p) (chunk : Bytes) (exhausted : Bool) :
    Tracked (step rules s (.sniffed p.sessionId chunk exhausted)) := by
  obtain ⟨moved, placed⟩ := SharedListener.sniffed_spec rules chunk exhausted held
    tracked.pendingUnbound
  simp only [step]
  generalize s.listener.sniffed rules p.sessionId chunk exhausted = result at moved placed ⊢
  obtain ⟨l', outcome⟩ := result
  dsimp only at moved placed
  have here := Option.isSome_of_eq_some held
  cases outcome with
  | gone =>
    cases show l' = s.listener from placed
    exact tracked
  | parked =>
    obtain ⟨⟨q, kept, own⟩, bySession⟩ := placed
    refine tracked.of_shrunk moved.port moved.sessionSeq ?_ ?_ moved.entries
    · intro k r found
      by_cases same : k = p.sessionId
      · cases Option.some.inj ((same ▸ found).symm.trans kept)
        exact ⟨p, same ▸ held, own⟩
      · exact moved.pending k r (fun hit => same (Option.some.inj hit).symm) found
    · intro wire k c found
      rw [bySession wire] at found
      exact found
  | closed => exact tracked.of_moved moved
  | bound wire c =>
    obtain ⟨absent, bySession⟩ := placed
    exact tracked.of_bound (Or.inl here) (tracked.pendingIdle _ here) moved absent bySession
      (tracked.pendingUnclaimed _ here) fun _ _ claimed => claimed

theorem of_activated (rules : Rules) (tracked : Tracked s) {p : Pending}
    (held : s.claimed.get? p.sessionId = some p) (wire : Wire) (collectorIp collectorPn : String) :
    Tracked (step rules s (.activate wire p.sessionId collectorIp collectorPn)) := by
  obtain ⟨moved, pending, bySession⟩ :=
    SharedListener.activate_spec (l := s.listener) rules wire p collectorIp collectorPn
  have here := Option.isSome_of_eq_some held
  have absent : s.listener.pending.get? p.sessionId = none := by
    cases found : s.listener.pending.get? p.sessionId with
    | none => rfl
    | some q =>
      rw [tracked.pendingUnclaimed _ (Option.isSome_of_eq_some found)] at held
      cases held
  simp only [step, held]
  refine tracked.of_bound (Or.inr (Or.inl here)) (tracked.claimedIdle _ here) moved
    (pending ▸ absent) bySession (by simp) fun k q claimed => ?_
  rw [Dict.get?_erase] at claimed
  split at claimed
  · cases claimed
  · exact claimed

end Tracked

def Action.quiet : Action → Bool
  | .accept .. | .sniffed .. | .pendingClosed .. | .claim .. | .activate .. => false
  | _ => true

namespace SharedListener
variable {l : SharedListener}

theorem moved_updatePending (k : String) {change : Pending → Pending}
    (keeps : ∀ p, (change p).sessionId = p.sessionId) : Moved none l (l.updatePending k change) := by
  unfold updatePending
  split
  · exact Moved.refl none l
  · rename_i p held
    refine moved_setPending fun key q _ found => ?_
    rw [Dict.get?_set] at found
    split at found
    · rename_i hit
      cases Option.some.inj found
      exact ⟨p, hit ▸ held, keeps p⟩
    · exact ⟨q, found, rfl⟩

theorem ensureConnection_bySession (links : Links) (collectorIp collectorPn : String) :
    (ensureConnection links collectorIp collectorPn).bySession = links.bySession := by
  unfold ensureConnection
  split
  · split <;> rfl
  · split
    · split <;> rfl
    · rfl

theorem foldl_dropValue {d : Dict String Nat} {values : List Nat} {k : String} {c : Nat}
    (held : (values.foldl Dict.dropValue d).get? k = some c) : d.get? k = some c := by
  induction values generalizing d with
  | nil => exact held
  | cons v rest ih => exact (Dict.get?_dropValue_eq_some.mp (ih held)).1

theorem moved_of_same {l' : SharedListener} (port : l'.port = l.port)
    (sessionSeq : l'.sessionSeq = l.sessionSeq) (pending : l'.pending = l.pending)
    (links : ∀ wire, l'.links wire = l.links wire) (inventory : l'.inventory = l.inventory) :
    Moved none l l' where
  port := port
  sessionSeq := sessionSeq
  pending _ p _ held := ⟨p, pending ▸ held, rfl⟩
  bySession wire _ _ _ held := links wire ▸ held
  entries _ entry held := ⟨entry, inventory ▸ held, rfl, rfl⟩
  shown k _ shown := by
    unfold Shown
    rw [inventory]
    exact shown

end SharedListener

section Steps
open SharedListener
variable (rules : Rules) {s : Shared}

theorem quiet_moved (tracked : Tracked s) (a : Action) (quiet : a.quiet = true) :
    ∃ l', step rules s a = withListener s l' ∧ Moved none s.listener l' := by
  cases a with
  | accept | sniffed | pendingClosed | claim | activate => cases quiet
  | identified sid pn source => exact ⟨_, rfl, moved_markIdentity none sid pn source⟩
  | firstBytes sid chunk => exact ⟨_, rfl, moved_markFirstBytes none sid chunk⟩
  | buffered sid bytes => exact ⟨_, rfl, moved_updatePending sid fun _ => rfl⟩
  | retasked sid task parked => exact ⟨_, rfl, moved_updatePending sid fun _ => rfl⟩
  | marked sid state =>
    by_cases ended : state.isTerminal = true
    · exact ⟨s.listener, if_pos ended, Moved.refl none _⟩
    · exact ⟨_, if_neg ended, moved_markState none sid (by simpa using ended)⟩
  | unclaimedClosed sid state =>
    cases held : s.listener.pending.get? sid with
    | none => exact ⟨s.listener, by simp [step, held, withListener], Moved.refl none _⟩
    | some p =>
      exact ⟨_, by simp [step, held],
        moved_closeUnclaimed state (by simp) (tracked.pendingUnbound sid p held)⟩
  | pendingDropped sid => exact ⟨_, rfl, moved_removePending none sid⟩
  | ensure wire collectorIp collectorPn =>
    refine ⟨_, rfl, moved_setLinks fun k c _ held => ?_⟩
    rwa [ensureConnection_bySession] at held
  | connectionState wire connection connected =>
    exact ⟨_, rfl, moved_setLinks fun _ _ _ held => held⟩
  | socketClosed run =>
    by_cases started : run ∈ s.runs
    · refine ⟨_, if_pos started, moved_socketSessionClosed ?_ (tracked.ranNotPending started)
        fun wire c held => tracked.boundOnce started held⟩
      exact tracked.trimmed (Or.inr (Or.inr (Or.inl ⟨run, started, rfl⟩)))
    · exact ⟨s.listener, if_neg started, Moved.refl none _⟩
  | connectionDropped wire connection =>
    refine ⟨_, rfl, moved_dropConnectionIndexes fun k held => ?_⟩
    have started := tracked.bound wire k connection held
    refine ⟨tracked.ranNotPending started, fun other ne => ?_⟩
    cases found : (s.listener.links other).bySession.get? k with
    | none => rfl
    | some c => exact absurd (tracked.boundOnce started found).1 ne
  | peersPopped wire ips => exact ⟨_, rfl, moved_setLinks fun _ _ _ held => held⟩
  | indexesDropped wire connections =>
    exact ⟨_, rfl, moved_setLinks fun _ _ _ held => foldl_dropValue held⟩
  | routeRegistered collectorIp collectorPn transparent protocol =>
    exact ⟨_, rfl, moved_of_same rfl rfl rfl (fun wire => by cases wire <;> rfl) rfl⟩
  | routeDropped token =>
    exact ⟨_, rfl, moved_of_same rfl rfl rfl (fun wire => by cases wire <;> rfl) rfl⟩
  | ownersChanged wire owners pnOwners =>
    exact ⟨_, rfl, moved_of_same rfl rfl rfl (fun wire => by cases wire <;> rfl) rfl⟩

theorem tracked_step (a : Action) (tracked : Tracked s) : Tracked (step rules s a) := by
  by_cases quiet : a.quiet = true
  · obtain ⟨l', eq, moved⟩ := quiet_moved rules tracked a quiet
    rw [eq]
    exact tracked.of_moved moved
  · cases a with
    | accept peer remotePort task =>
      cases peer with
      | none => exact tracked
      | some peer => exact tracked.of_accept peer remotePort task
    | sniffed sid chunk exhausted =>
      cases held : s.listener.pending.get? sid with
      | none => simpa [step, sniffed, held, recordRun, withListener] using tracked
      | some p =>
        cases tracked.pendingKey sid p held
        exact tracked.of_sniffed rules held chunk exhausted
    | pendingClosed sid =>
      refine tracked.of_shrunk (by simp [markState]) (by simp [markState])
        (fun k p held => ⟨p, by simpa [markState] using held, rfl⟩)
        (fun wire k c held => by simpa [markState] using held) fun k entry held => ?_
      simp only [markState, updateEntry_get?] at held
      split at held
      · rename_i hit
        obtain ⟨before, found, rfl⟩ := Option.map_eq_some_iff.mp held
        refine ⟨before, hit ▸ found, ?_⟩
        unfold Entry.markState
        split <;> exact ⟨rfl, rfl⟩
      · exact ⟨entry, held, rfl, rfl⟩
    | claim sid =>
      cases held : s.listener.pending.get? sid with
      | none => simpa [step, held] using tracked
      | some p =>
        simp only [step, held]
        exact tracked.of_claimed held none
    | activate wire sid collectorIp collectorPn =>
      cases held : s.claimed.get? sid with
      | none => simpa [step, held] using tracked
      | some p =>
        cases tracked.claimedKey sid p held
        exact tracked.of_activated rules held wire collectorIp collectorPn
    | _ => exact absurd rfl quiet

end Steps
end Listener
