import Mathlib.Data.List.Induction
import EybondLocal.Library.HookRun
import EybondLocal.Transport.AuxiliarySession
import EybondLocal.Transport.FrameReading

/-!
Who owns an auxiliary reply. The claim is captured in the step that consumes the first byte, the
request lock keeps the sends of a session apart, and a send that fails after its write closes the
session in the same step, before any other send can look at it.
-/
namespace AuxiliarySession
open BinaryFraming FrameDecoder HookRun

def Mark.after (claim : Option Claim) : Mark → Option Claim
  | .installed claim _ => some claim
  | .cleared => none
  | _ => claim

def claimOf (journal : List Mark) : Option Claim := journal.foldl Mark.after none

def Mark.bytes : Mark → Bytes
  | .moreBytes bytes => bytes
  | _ => []

def bytesIn (journal : List Mark) : Bytes := journal.flatMap Mark.bytes

def Failed (journal : List Mark) : Prop := ∃ id, .failed id ∈ journal

/-- What a mark needs before it. A query is written under its own claim, and neither written nor
    answered after a failure. A reply goes to the claim of the moment its first byte was consumed,
    if that claim still stands and asked for this subtype; it is made of the bytes read since; and
    it is the only one of its send. -/
def Allowed (before : List Mark) : Mark → Prop
  | .installed claim query => subtypeOf query = some claim.subtype ∧ ¬ Failed before
  | .wrote id => ¬ Failed before ∧ ∃ subtype, claimOf before = some ⟨id, subtype⟩
  | .delivered id wire =>
    (∀ other, .delivered id other ∉ before) ∧
      ∃ claim query earlier byte later, claim.send = id ∧
        before = earlier ++ .firstByte byte :: later ∧ (∀ other, .firstByte other ∉ later) ∧
        .installed claim query ∈ earlier ∧ subtypeOf query = some claim.subtype ∧
        claimOf earlier = some claim ∧ claimOf before = some claim ∧
        (wire.drop 2).take 2 = claim.subtype ∧ wire = byte :: bytesIn later
  | .returned id wire => ¬ Failed before ∧ .delivered id wire ∈ before
  | _ => True

theorem claimOf_append (journal : List Mark) (mark : Mark) :
    claimOf (journal ++ [mark]) = mark.after (claimOf journal) := by
  simp [claimOf]

theorem bytesIn_append (journal : List Mark) (mark : Mark) :
    bytesIn (journal ++ [mark]) = bytesIn journal ++ mark.bytes := by
  simp [bytesIn]

theorem installed_of_claimOf {journal : List Mark} {claim : Claim}
    (stands : claimOf journal = some claim) : ∃ query, .installed claim query ∈ journal := by
  induction journal using List.reverseRecOn with
  | nil => cases stands
  | append_singleton journal mark ih =>
    rw [claimOf_append] at stands
    have older : claimOf journal = some claim →
        ∃ query, .installed claim query ∈ journal ++ [mark] := by
      intro before
      obtain ⟨query, member⟩ := ih before
      exact ⟨query, List.mem_append_left _ member⟩
    cases mark with
    | installed newer query =>
      cases stands
      exact ⟨query, by simp⟩
    | cleared => cases stands
    | wrote id => exact older stands
    | firstByte byte => exact older stands
    | moreBytes bytes => exact older stands
    | delivered id wire => exact older stands
    | failed id => exact older stands
    | returned id wire => exact older stands

theorem subtype_of_installed {journal : List Mark} {claim : Claim} {query : Bytes}
    (guarded : Guarded Allowed journal) (member : .installed claim query ∈ journal) :
    subtypeOf query = some claim.subtype := by
  obtain ⟨before, after, rfl⟩ := List.append_of_mem member
  exact (guarded before _ after rfl).1

theorem guarded_before {earlier later : List Mark} (guarded : Guarded Allowed (earlier ++ later)) :
    Guarded Allowed earlier := by
  intro before entry after eq
  exact guarded before entry (after ++ later) (by rw [eq]; simp)

def Phase.locked : Phase → Bool
  | .lockingWrite | .draining | .waiting | .fencing _ => true
  | _ => false

def Phase.exposed : Phase → Bool
  | .draining | .waiting => true
  | _ => false

def Phase.claiming : Phase → Bool
  | .draining | .waiting | .fencing _ => true
  | _ => false

def Phase.asking : Phase → Bool
  | .queued | .lockingWrite => true
  | _ => false

/-- A frame under way: since its first byte nothing but its own bytes was consumed. -/
def Underway (journal : List Mark) (claim : Option Claim) (received : Bytes) : Prop :=
  ∃ earlier byte later, journal = earlier ++ .firstByte byte :: later ∧
    (∀ other, .firstByte other ∉ later) ∧ claimOf earlier = claim ∧
    received = byte :: bytesIn later

def Keeping (received : Bytes) : Prop :=
  (State.decoded received).IsOpen ∧ (State.decoded received).buffer = received

def Reading (journal : List Mark) : Reader → Prop
  | .opening claim received => Underway journal claim received ∧ received.length = 1
  | .binary claim received => Underway journal claim received ∧ Keeping received
  | _ => True

structure Sound (s : State) : Prop where
  guarded : Guarded Allowed s.journal
  claim : claimOf s.journal = s.session.claim
  holder : ∀ id, (s.sends id).phase.locked = true → s.requestHolder = some (.send id)
  owner : ∀ claim, s.session.claim = some claim → (s.sends claim.send).phase.claiming = true
  asked : ∀ id, (s.sends id).phase.asking = true →
    subtypeOf (s.sends id).payload = some (s.sends id).subtype
  fenced : Failed s.journal →
    s.session.closed = true ∧ ∀ id, (s.sends id).phase.exposed = false
  settled : ∀ id wire, .delivered id wire ∈ s.journal →
    (s.sends id).future.done = true ∧ (s.sends id).phase ≠ .unsent
  replied : ∀ id wire, (s.sends id).future = .result wire → .delivered id wire ∈ s.journal
  reading : Reading s.journal s.reader

theorem sound_start : Sound .start where
  guarded := guarded_nil
  claim := rfl
  holder _ := nofun
  owner _ := nofun
  asked _ := nofun
  fenced := nofun
  settled _ _ := nofun
  replied _ _ := nofun
  reading := trivial

theorem underway_append {journal : List Mark} {claim : Option Claim} {received : Bytes}
    (now : Underway journal claim received) {mark : Mark} (inside : ∀ byte, mark ≠ .firstByte byte) :
    Underway (journal ++ [mark]) claim (received ++ mark.bytes) := by
  obtain ⟨earlier, byte, later, rfl, none, captured, rfl⟩ := now
  refine ⟨earlier, byte, later ++ [mark], by simp, ?_, captured, by rw [bytesIn_append]; rfl⟩
  intro other member
  rcases List.mem_append.mp member with old | new
  · exact none other old
  · exact inside other (List.mem_singleton.mp new).symm

/-- A mark that is not about bytes leaves the reader's frame as it was. -/
theorem reading_append {journal : List Mark} {reader : Reader} (now : Reading journal reader)
    {mark : Mark} (inside : ∀ byte, mark ≠ .firstByte byte) (empty : mark.bytes = []) :
    Reading (journal ++ [mark]) reader := by
  have moved : ∀ {claim received}, Underway journal claim received →
      Underway (journal ++ [mark]) claim received := by
    intro claim received under
    have appended := underway_append under inside
    rwa [empty, List.append_nil] at appended
  cases reader with
  | opening claim received => exact ⟨moved now.1, now.2⟩
  | binary claim received => exact ⟨moved now.1, now.2⟩
  | boundary => trivial
  | elsewhere => trivial
  | stopped => trivial

theorem failed_append {journal : List Mark} {mark : Mark} (inside : ∀ id, mark ≠ .failed id) :
    Failed (journal ++ [mark]) ↔ Failed journal := by
  constructor
  · rintro ⟨id, member⟩
    rcases List.mem_append.mp member with old | new
    · exact ⟨id, old⟩
    · exact absurd (List.mem_singleton.mp new).symm (inside id)
  · rintro ⟨id, member⟩
    exact ⟨id, List.mem_append_left _ member⟩

theorem delivered_append {journal : List Mark} {mark : Mark} {id : Nat} {wire : Bytes}
    (inside : mark ≠ .delivered id wire) :
    .delivered id wire ∈ journal ++ [mark] ↔ .delivered id wire ∈ journal := by
  simp [Ne.symm inside]

theorem claiming_locked {phase : Phase} (claiming : phase.claiming = true) : phase.locked = true := by
  cases phase <;> first | rfl | cases claiming

theorem exposed_locked {phase : Phase} (exposed : phase.exposed = true) : phase.locked = true := by
  cases phase <;> first | rfl | cases exposed

theorem exposed_of_unlocked {phase : Phase} (unlocked : phase.locked = false) :
    phase.exposed = false := by
  cases phase <;> first | rfl | cases unlocked

theorem setSend_same (s : State) (id : Nat) (send : Send) : (s.setSend id send).sends id = send :=
  Function.update_self ..

theorem setSend_other (s : State) {id other : Nat} (send : Send) (ne : other ≠ id) :
    (s.setSend id send).sends other = s.sends other := Function.update_of_ne ne ..

variable {s : State} {id : Nat}

theorem sound_outside (sound : Sound s) {send : Send} (before : (s.sends id).phase.locked = false)
    (after : send.phase.locked = false) (sent : send.phase ≠ .unsent)
    (asks : send.phase.asking = true → subtypeOf send.payload = some send.subtype)
    (kept : ∀ wire, .delivered id wire ∈ s.journal → send.future.done = true)
    (answered : ∀ wire, send.future = .result wire → .delivered id wire ∈ s.journal) :
    Sound (s.setSend id send) where
  guarded := sound.guarded
  claim := sound.claim
  holder := by
    intro other locked
    by_cases same : other = id
    · rw [same, setSend_same, after] at locked
      cases locked
    · rw [setSend_other s send same] at locked
      exact sound.holder other locked
  owner := by
    intro claim owned
    have claiming := sound.owner claim owned
    by_cases same : claim.send = id
    · rw [same] at claiming
      rw [claiming_locked claiming] at before
      cases before
    · rwa [setSend_other s send same]
  asked := by
    intro other asking
    by_cases same : other = id
    · rw [same, setSend_same] at asking ⊢
      exact asks asking
    · rw [setSend_other s send same] at asking ⊢
      exact sound.asked other asking
  fenced := by
    intro failed
    refine ⟨(sound.fenced failed).1, fun other => ?_⟩
    by_cases same : other = id
    · rw [same, setSend_same]
      exact exposed_of_unlocked after
    · rw [setSend_other s send same]
      exact (sound.fenced failed).2 other
  settled := by
    intro other wire delivered
    by_cases same : other = id
    · subst same
      rw [setSend_same]
      exact ⟨kept wire delivered, sent⟩
    · rw [setSend_other s send same]
      exact sound.settled other wire delivered
  replied := by
    intro other wire future
    by_cases same : other = id
    · subst same
      rw [setSend_same] at future
      exact answered wire future
    · rw [setSend_other s send same] at future
      exact sound.replied other wire future
  reading := sound.reading

theorem sound_request (sound : Sound s) (unsent : (s.sends id).phase = .unsent) (payload : Bytes)
    (timeoutValid : Bool) : Sound (s.request id payload timeoutValid) := by
  have before : (s.sends id).phase.locked = false := by rw [unsent]; rfl
  have fresh : ∀ wire, .delivered id wire ∉ s.journal :=
    fun wire delivered => (sound.settled id wire delivered).2 unsent
  rw [State.request]
  cases known : subtypeOf payload with
  | none => exact sound_outside sound before rfl nofun nofun (fun _ _ => rfl) nofun
  | some subtype =>
    dsimp only
    split
    · exact sound_outside sound before rfl nofun (fun _ => known)
        (fun wire delivered => absurd delivered (fresh wire)) nofun
    · exact sound_outside sound before rfl nofun nofun (fun _ _ => rfl) nofun

theorem unlocked_of_free (sound : Sound s) (free : s.requestHolder = none) (other : Nat) :
    (s.sends other).phase.locked = false := by
  rw [Bool.eq_false_iff]
  intro locked
  rw [sound.holder other locked] at free
  cases free

theorem locked_unique (sound : Sound s) {other : Nat} (here : (s.sends id).phase.locked = true)
    (there : (s.sends other).phase.locked = true) : other = id := by
  have first := sound.holder id here
  rw [sound.holder other there] at first
  cases first
  rfl

@[simp] theorem future_setPhase (s : State) (id other : Nat) (phase : Phase) :
    ((s.setPhase id phase).sends other).future = (s.sends other).future := by
  by_cases same : other = id
  · rw [same, State.setPhase, setSend_same]
  · rw [State.setPhase, setSend_other s _ same]

theorem phase_setPhase_same (s : State) (id : Nat) (phase : Phase) :
    ((s.setPhase id phase).sends id).phase = phase := by
  rw [State.setPhase, setSend_same]

@[simp] theorem phase_settle (s : State) (id other : Nat) (future : Future) :
    ((s.settle id future).sends other).phase = (s.sends other).phase := by
  by_cases same : other = id
  · rw [same, State.settle, setSend_same]
  · rw [State.settle, setSend_other s _ same]

theorem sound_enters (sound : Sound s) {s' : State} {phase : Phase}
    (sends : s'.sends = (s.setPhase id phase).sends) (journal : s'.journal = s.journal)
    (reader : s'.reader = s.reader) (claim : s'.session.claim = s.session.claim)
    (closed : s.session.closed = true → s'.session.closed = true)
    (others : ∀ other ≠ id, (s.sends other).phase.locked = true →
      s'.requestHolder = some (.send other))
    (mine : phase.locked = true → s'.requestHolder = some (.send id))
    (owns : ∀ claim, s.session.claim = some claim → claim.send = id → phase.claiming = true)
    (asks : phase.asking = true → (s.sends id).phase.asking = true)
    (risks : phase.exposed = true → ¬ Failed s.journal) (sent : phase ≠ .unsent) : Sound s' where
  guarded := journal ▸ sound.guarded
  claim := by rw [journal, claim, sound.claim]
  holder := by
    intro other locked
    rw [sends] at locked
    by_cases same : other = id
    · rw [same, phase_setPhase_same] at locked
      rw [same]
      exact mine locked
    · rw [State.setPhase, setSend_other s _ same] at locked
      exact others other same locked
  owner := by
    intro owned stands
    rw [claim] at stands
    rw [sends]
    by_cases same : owned.send = id
    · rw [same, phase_setPhase_same]
      exact owns owned stands same
    · rw [State.setPhase, setSend_other s _ same]
      exact sound.owner owned stands
  asked := by
    intro other asking
    rw [sends] at asking ⊢
    by_cases same : other = id
    · rw [same, phase_setPhase_same] at asking
      rw [same, State.setPhase, setSend_same]
      exact sound.asked id (asks asking)
    · rw [State.setPhase, setSend_other s _ same] at asking ⊢
      exact sound.asked other asking
  fenced := by
    intro failed
    rw [journal] at failed
    refine ⟨closed (sound.fenced failed).1, fun other => ?_⟩
    rw [sends]
    by_cases same : other = id
    · rw [same, phase_setPhase_same, Bool.eq_false_iff]
      exact fun exposed => risks exposed failed
    · rw [State.setPhase, setSend_other s _ same]
      exact (sound.fenced failed).2 other
  settled := by
    intro other wire delivered
    rw [journal] at delivered
    have known := sound.settled other wire delivered
    rw [sends, future_setPhase]
    refine ⟨known.1, ?_⟩
    by_cases same : other = id
    · rw [same, phase_setPhase_same]
      exact sent
    · rw [State.setPhase, setSend_other s _ same]
      exact known.2
  replied := by
    intro other wire future
    rw [sends, future_setPhase] at future
    rw [journal]
    exact sound.replied other wire future
  reading := by
    rw [journal, reader]
    exact sound.reading

theorem sound_mark (sound : Sound s) {s' : State} {mark : Mark} (sends : s'.sends = s.sends)
    (journal : s'.journal = s.journal ++ [mark]) (holder : s'.requestHolder = s.requestHolder)
    (claim : s'.session.claim = mark.after s.session.claim)
    (closed : s.session.closed = true → s'.session.closed = true)
    (allowed : Allowed s.journal mark) (plain : ∀ id wire, mark ≠ .delivered id wire)
    (owns : ∀ claim, s'.session.claim = some claim → (s.sends claim.send).phase.claiming = true)
    (fences : ∀ id, mark = .failed id →
      s'.session.closed = true ∧ ∀ other, (s.sends other).phase.exposed = false)
    (reading : Reading s'.journal s'.reader) : Sound s' where
  guarded := journal ▸ guarded_snoc sound.guarded allowed
  claim := by rw [journal, claimOf_append, sound.claim, claim]
  holder := by
    rw [sends, holder]
    exact sound.holder
  owner := by
    rw [sends]
    exact owns
  asked := by
    rw [sends]
    exact sound.asked
  fenced := by
    rw [journal, sends]
    rintro ⟨id, member⟩
    rcases List.mem_append.mp member with old | new
    · exact ⟨closed (sound.fenced ⟨id, old⟩).1, (sound.fenced ⟨id, old⟩).2⟩
    · exact fences id (List.mem_singleton.mp new).symm
  settled := by
    intro id wire delivered
    rw [journal, delivered_append (plain id wire)] at delivered
    rw [sends]
    exact sound.settled id wire delivered
  replied := by
    intro id wire future
    rw [sends] at future
    rw [journal, delivered_append (plain id wire)]
    exact sound.replied id wire future
  reading := reading

theorem sound_settle (sound : Sound s) {future : Future} (done : future.done = true)
    (empty : ∀ wire, future ≠ .result wire) : Sound (s.settle id future) where
  guarded := sound.guarded
  claim := sound.claim
  holder := by
    intro other locked
    rw [phase_settle] at locked
    exact sound.holder other locked
  owner := by
    intro claim stands
    rw [phase_settle]
    exact sound.owner claim stands
  asked := by
    intro other asking
    by_cases same : other = id
    · rw [same, State.settle, setSend_same] at asking ⊢
      exact sound.asked id asking
    · rw [State.settle, setSend_other s _ same] at asking ⊢
      exact sound.asked other asking
  fenced := by
    intro failed
    refine ⟨(sound.fenced failed).1, fun other => ?_⟩
    rw [phase_settle]
    exact (sound.fenced failed).2 other
  settled := by
    intro other wire delivered
    have known := sound.settled other wire delivered
    rw [phase_settle]
    refine ⟨?_, known.2⟩
    by_cases same : other = id
    · rw [same, State.settle, setSend_same]
      exact done
    · rw [State.settle, setSend_other s _ same]
      exact known.1
  replied := by
    intro other wire result
    by_cases same : other = id
    · rw [same, State.settle, setSend_same] at result
      exact absurd result (empty wire)
    · rw [State.settle, setSend_other s _ same] at result
      exact sound.replied other wire result
  reading := sound.reading

theorem sound_over (sound : Sound s) (queued : (s.sends id).phase = .queued)
    (outcome : Except String Bytes) : Sound (s.setPhase id (.finished outcome)) := by
  refine sound_enters sound rfl rfl rfl rfl (fun closed => closed)
    (fun other _ locked => sound.holder other locked) nofun ?_ nofun nofun nofun
  intro claim stands same
  have claiming := sound.owner claim stands
  rw [same, queued] at claiming
  cases claiming

theorem sound_requestLocked (sound : Sound s) (queued : (s.sends id).phase = .queued)
    (free : s.requestHolder = none) : Sound (s.requestLocked id) := by
  rw [State.requestLocked]
  split
  · exact sound_over sound queued _
  · split
    · exact sound_over sound queued _
    · split
      · exact sound_over sound queued _
      · rename_i unclaimed
        refine sound_enters sound rfl rfl rfl rfl (fun closed => closed) ?_ (fun _ => rfl) ?_
          (fun _ => by rw [queued]; rfl) nofun nofun
        · intro other _ locked
          rw [unlocked_of_free sound free other] at locked
          cases locked
        · intro claim stands
          rw [stands] at unclaimed
          exact absurd rfl unclaimed

theorem sound_drained (sound : Sound s) (draining : (s.sends id).phase = .draining) :
    Sound ({ s with writeHolder := none }.setPhase id .waiting) := by
  have locked : (s.sends id).phase.locked = true := by rw [draining]; rfl
  refine sound_enters sound rfl rfl rfl rfl (fun closed => closed)
    (fun other _ => sound.holder other) (fun _ => sound.holder id locked) (fun _ _ _ => rfl) nofun
    ?_ nofun
  intro _ failed
  have hidden := (sound.fenced failed).2 id
  rw [draining] at hidden
  cases hidden

theorem sound_conclude (sound : Sound s) (locked : (s.sends id).phase.locked = true)
    (outcome : Except String Bytes) : Sound (s.conclude id outcome) := by
  rw [State.conclude]
  -- The claim, if it is this send's, is taken away first.
  generalize cleared : (if s.session.claim.any fun claim => claim.send = id then
    ({ s with session := { s.session with claim := none } } : State).note .cleared else s) = s₁
  have facts : Sound s₁ ∧ s₁.sends = s.sends ∧
      ∀ claim, s₁.session.claim = some claim → claim.send ≠ id := by
    subst cleared
    split
    · refine ⟨sound_mark sound rfl rfl rfl rfl (fun closed => closed) trivial nofun nofun nofun
        (reading_append sound.reading nofun rfl), rfl, nofun⟩
    · rename_i other
      refine ⟨sound, rfl, ?_⟩
      intro claim stands same
      rw [stands] at other
      exact other (by simp [same])
  obtain ⟨sound₁, sends₁, gone⟩ := facts
  generalize ended : (if (s₁.sends id).future.done then s₁ else s₁.settle id .cancelled) = s₂
  have facts : Sound s₂ ∧ s₂.session.claim = s₁.session.claim ∧
      ∀ other, (s₂.sends other).phase = (s.sends other).phase := by
    subst ended
    split
    · exact ⟨sound₁, rfl, fun other => by rw [sends₁]⟩
    · exact ⟨sound_settle sound₁ rfl nofun, rfl, fun other => by rw [phase_settle, sends₁]⟩
  obtain ⟨sound₂, claim₂, phases⟩ := facts
  refine sound_enters sound₂ rfl rfl rfl rfl (fun closed => closed) ?_ nofun ?_ nofun nofun nofun
  · intro other ne there
    rw [phases] at there
    exact absurd (locked_unique sound locked there) ne
  · intro claim stands same
    exact absurd same (gone claim (claim₂ ▸ stands))

theorem close_facts (s : State) : s.close.session.closed = true ∧
    s.close.session.claim = s.session.claim ∧ s.close.journal = s.journal ∧
    s.close.requestHolder = s.requestHolder ∧
    ∀ other, (s.close.sends other).phase = (s.sends other).phase := by
  rw [State.close]
  dsimp only
  split
  · exact ⟨rfl, rfl, rfl, rfl, fun _ => rfl⟩
  · split
    · exact ⟨rfl, rfl, rfl, rfl, fun _ => rfl⟩
    · refine ⟨rfl, ?_, rfl, rfl, fun other => phase_settle _ _ _ _⟩
      rfl

theorem sound_close (sound : Sound s) : Sound s.close := by
  have closed : Sound { s with session := { s.session with closed := true } } :=
    { sound with fenced := fun failed => ⟨rfl, (sound.fenced failed).2⟩ }
  rw [State.close]
  dsimp only
  split
  · exact closed
  · split
    · exact closed
    · exact sound_settle closed rfl nofun

theorem sound_fence (sound : Sound s) (exposed : (s.sends id).phase.exposed = true)
    (error : String) : Sound (s.fence id error) := by
  have locked := exposed_locked exposed
  obtain ⟨closed, -, -, held, phases⟩ := close_facts s
  have entered : Sound ({ s.close with
      writerClosing := true
      writeHolder := if s.writeHolder = some (Holder.send id) then none else s.writeHolder }.setPhase id
        (.fencing error)) := by
    refine sound_enters (sound_close sound) rfl rfl rfl rfl (fun closed => closed)
      (fun other _ => (sound_close sound).holder other) ?_ (fun _ _ _ => rfl) nofun nofun nofun
    exact fun _ => held.trans (sound.holder id locked)
  refine sound_mark entered rfl rfl rfl rfl (fun closed => closed) trivial nofun
    entered.owner ?_ (reading_append entered.reading nofun rfl)
  intro _ _
  refine ⟨closed, fun other => ?_⟩
  by_cases same : other = id
  · rw [same, phase_setPhase_same]
    rfl
  · rw [State.setPhase, setSend_other _ _ same, Bool.eq_false_iff]
    intro there
    rw [phases] at there
    exact same (locked_unique sound locked (exposed_locked there))

theorem not_failed (sound : Sound s) (exposed : (s.sends id).phase.exposed = true) :
    ¬ Failed s.journal := by
  intro failed
  rw [(sound.fenced failed).2 id] at exposed
  cases exposed

theorem sound_writeLocked (sound : Sound s) (locking : (s.sends id).phase = .lockingWrite)
    (raises : Bool) : Sound (s.writeLocked id raises) := by
  have locked : (s.sends id).phase.locked = true := by rw [locking]; rfl
  rw [State.writeLocked]
  split
  · exact sound_conclude sound locked _
  · rename_i live
    split
    · exact sound_conclude sound locked _
    · have unfailed : ¬ Failed s.journal := by
        intro failed
        simp [(sound.fenced failed).1] at live
      have entered : Sound ({ s with writeHolder := some (.send id) }.setPhase id .draining) :=
        sound_enters sound rfl rfl rfl rfl (fun closed => closed)
          (fun other _ => sound.holder other) (fun _ => sound.holder id locked)
          (fun _ _ _ => rfl) nofun (fun _ => unfailed) nofun
      have query := sound.asked id (by rw [locking]; rfl)
      have installed : Sound (({ s with
          session := { s.session with claim := some ⟨id, (s.sends id).subtype⟩ }
          writeHolder := some (.send id) }.setPhase id .draining).note
            (.installed ⟨id, (s.sends id).subtype⟩ (s.sends id).payload)) := by
        refine sound_mark entered rfl rfl rfl rfl (fun closed => closed) ⟨query, unfailed⟩ nofun ?_
          nofun (reading_append entered.reading nofun rfl)
        intro claim stands
        cases stands
        rw [phase_setPhase_same]
        rfl
      have wrote : Sound ((({ s with
          session := { s.session with claim := some ⟨id, (s.sends id).subtype⟩ }
          writeHolder := some (.send id) }.setPhase id .draining).note
            (.installed ⟨id, (s.sends id).subtype⟩ (s.sends id).payload)).note (.wrote id)) := by
        refine sound_mark installed rfl rfl rfl rfl (fun closed => closed) ⟨?_, ?_⟩ nofun
          installed.owner nofun (reading_append installed.reading nofun rfl)
        · exact fun failed => unfailed ((failed_append (by nofun)).mp failed)
        · exact ⟨_, installed.claim⟩
      dsimp only
      split
      · refine sound_fence wrote ?_ _
        change ((State.setPhase _ id .draining).sends id).phase.exposed = true
        rw [phase_setPhase_same]
        rfl
      · exact wrote

theorem conclude_journal (s : State) (id : Nat) (outcome : Except String Bytes) :
    (s.conclude id outcome).journal = s.journal ∨
      (s.conclude id outcome).journal = s.journal ++ [.cleared] := by
  rw [State.conclude]
  dsimp only
  by_cases owned : s.session.claim.any fun claim => claim.send = id
  · right
    rw [if_pos owned]
    split <;> rfl
  · left
    rw [if_neg owned]
    split <;> rfl

theorem sound_replied (sound : Sound s) (waiting : (s.sends id).phase = .waiting) :
    Sound (s.replied id) := by
  have exposed : (s.sends id).phase.exposed = true := by rw [waiting]; rfl
  have unfailed := not_failed sound exposed
  rw [State.replied]
  cases future : (s.sends id).future with
  | pending => exact sound
  | failed error => exact sound_fence sound exposed _
  | cancelled => exact sound_fence sound exposed _
  | result wire =>
    have concluded := sound_conclude sound (exposed_locked exposed) (.ok wire)
    have delivered := sound.replied id wire future
    refine sound_mark concluded rfl rfl rfl rfl (fun closed => closed) ?_ nofun concluded.owner
      nofun (reading_append concluded.reading nofun rfl)
    rcases conclude_journal s id (.ok wire) with same | cleared
    · rw [same]
      exact ⟨unfailed, delivered⟩
    · rw [cleared]
      exact ⟨fun failed => unfailed ((failed_append (by nofun)).mp failed),
        List.mem_append_left _ delivered⟩

theorem sound_interrupted (sound : Sound s) (error : String) : Sound (s.interrupted id error) := by
  rw [State.interrupted]
  cases phase : (s.sends id).phase with
  | queued => exact sound_over sound phase _
  | lockingWrite => exact sound_conclude sound (by rw [phase]; rfl) _
  | draining => exact sound_fence sound (by rw [phase]; rfl) _
  | waiting => exact sound_fence sound (by rw [phase]; rfl) _
  | fencing first => exact sound_conclude sound (by rw [phase]; rfl) _
  | unsent => exact sound
  | finished outcome => exact sound

theorem sound_reader (sound : Sound s) {s' : State} (sends : s'.sends = s.sends)
    (journal : s'.journal = s.journal) (holder : s'.requestHolder = s.requestHolder)
    (claim : s'.session.claim = s.session.claim) (closed : s'.session.closed = s.session.closed)
    (reading : Reading s.journal s'.reader) : Sound s' where
  guarded := journal ▸ sound.guarded
  claim := by rw [journal, claim, sound.claim]
  holder := by rw [sends, holder]; exact sound.holder
  owner := by rw [sends, claim]; exact sound.owner
  asked := by rw [sends]; exact sound.asked
  fenced := by rw [journal, sends, closed]; exact sound.fenced
  settled := by rw [journal, sends]; exact sound.settled
  replied := by rw [journal, sends]; exact sound.replied
  reading := journal ▸ reading

theorem sound_beginFrame (sound : Sound s) (byte : UInt8) (pushed : Bytes) :
    Sound (s.beginFrame byte pushed) := by
  refine sound_mark sound rfl rfl rfl rfl (fun closed => closed) trivial nofun sound.owner nofun ?_
  exact ⟨⟨s.journal, byte, [], rfl, nofun, sound.claim, rfl⟩, rfl⟩

theorem sound_nextFrame (sound : Sound s) (pushed : Bytes) : Sound (s.nextFrame pushed) := by
  rw [State.nextFrame]
  split
  · exact sound_reader sound rfl rfl rfl rfl rfl trivial
  · have top : Sound { s with
        session := { s.session with atBoundary := true }, reader := .boundary, pushed := [] } :=
      sound_reader sound rfl rfl rfl rfl rfl trivial
    cases pushed with
    | nil => exact top
    | cons byte rest => exact sound_beginFrame top byte rest

theorem sound_stopped (sound : Sound s) : Sound { s with reader := .stopped } :=
  sound_reader sound rfl rfl rfl rfl rfl trivial

theorem sound_accept (sound : Sound { s with reader := .stopped }) {claim : Option Claim} {received : Bytes}
    (under : Underway s.journal claim received) {frame : BinaryFrame}
    (whole : frame.wire = received) {s' : State} (accepted : s.accept frame claim = some s') :
    Sound { s' with reader := .stopped } := by
  unfold State.accept at accepted
  cases claim with
  | none => cases accepted
  | some claim =>
    dsimp only at accepted
    split at accepted
    · cases accepted
    · rename_i open'
      split at accepted
      · cases accepted
      · rename_i subtype
        simp only [Bool.or_eq_true, decide_eq_true_eq, not_or, Bool.not_eq_true, not_not] at open'
        obtain ⟨⟨_, stands⟩, pending⟩ := open'
        rw [ne_eq, not_not] at subtype
        obtain ⟨earlier, byte, later, journal, none, captured, bytes⟩ := under
        obtain ⟨query, asked⟩ := installed_of_claimOf captured
        have known := subtype_of_installed
          (guarded_before (journal ▸ sound.guarded)) asked
        have fresh : ∀ other, .delivered claim.send other ∉ s.journal := by
          intro other delivered
          rw [(sound.settled _ other delivered).1] at pending
          cases pending
        have allowed : Allowed s.journal (.delivered claim.send frame.wire) :=
          ⟨fresh, claim, query, earlier, byte, later, rfl, journal, none, asked, known, captured,
            sound.claim.trans stands, subtype, whole.trans bytes⟩
        cases accepted
        exact
          { guarded := guarded_snoc sound.guarded allowed
            claim := by
              change claimOf (s.journal ++ [_]) = _
              rw [claimOf_append]
              exact sound.claim
            holder := by
              intro other locked
              change ((s.settle _ _).sends other).phase.locked = true at locked
              rw [phase_settle] at locked
              exact sound.holder other locked
            owner := by
              intro owned stands
              change ((s.settle _ _).sends owned.send).phase.claiming = true
              rw [phase_settle]
              exact sound.owner owned stands
            asked := by
              intro other asking
              change ((s.settle _ _).sends other).phase.asking = true at asking
              rw [phase_settle] at asking
              have query := sound.asked other asking
              change subtypeOf ((s.settle _ _).sends other).payload =
                some ((s.settle _ _).sends other).subtype
              by_cases same : other = claim.send
              · rw [same, State.settle, setSend_same]
                rw [same] at query
                exact query
              · rw [State.settle, setSend_other s _ same]
                exact query
            fenced := by
              intro failed
              have before := sound.fenced ((failed_append (by nofun)).mp failed)
              refine ⟨before.1, fun other => ?_⟩
              change ((s.settle _ _).sends other).phase.exposed = false
              rw [phase_settle]
              exact before.2 other
            settled := by
              intro other wire delivered
              change ((s.settle _ _).sends other).future.done = true ∧
                ((s.settle _ _).sends other).phase ≠ .unsent
              rw [phase_settle]
              by_cases same : other = claim.send
              · rw [same, State.settle, setSend_same]
                refine ⟨rfl, fun unsent => ?_⟩
                have claiming := sound.owner claim stands
                rw [unsent] at claiming
                cases claiming
              · rw [State.settle, setSend_other s _ same]
                refine sound.settled other wire ((delivered_append ?_).mp delivered)
                intro eq
                cases eq
                exact same rfl
            replied := by
              intro other wire result
              change ((s.settle _ _).sends other).future = .result wire at result
              change .delivered other wire ∈ s.journal ++ [_]
              by_cases same : other = claim.send
              · rw [same, State.settle, setSend_same] at result
                cases result
                rw [same]
                simp
              · rw [State.settle, setSend_other s _ same] at result
                exact List.mem_append_left _ (sound.replied other wire result)
            reading := trivial }

theorem nextFrame_reader (s : State) (reader : Reader) (pushed : Bytes) :
    s.nextFrame pushed = { s with reader }.nextFrame pushed := by
  rw [State.nextFrame, State.nextFrame]
  cases pushed <;> rfl

theorem decoded_holding (received : Bytes) :
    State.decoded received = Decoder.holding .mixed 0 1 received := by
  have silent : (Decoder.holding .mixed (0 : Nat) 1 []).error = "" := rfl
  exact congrArg Prod.fst (Decoder.feed_holding silent (le_refl 0) (by decide) received)

theorem keeping_opening {received : Bytes} (short : received.length < headerSize) :
    (State.decoded received).buffer = received := by
  rw [decoded_holding, Decoder.holding_short .mixed 0 1 short]
  rfl

theorem keeping_more {received : Bytes} (keeping : Keeping received) (chunk : Bytes)
    (fits : chunk.length ≤ (State.decoded received).bytesNeeded) :
    (State.decoded (received ++ chunk)).buffer = received ++ chunk := by
  obtain ⟨opened, kept⟩ := keeping
  rw [decoded_holding] at opened fits ⊢
  exact holding_fits opened chunk fits

theorem sound_binaryRead (sound : Sound { s with reader := .stopped }) {claim : Option Claim}
    {received : Bytes} (under : Underway s.journal claim received)
    (kept : (State.decoded received).buffer = received) : Sound (s.binaryRead claim received) := by
  rw [State.binaryRead]
  split
  · exact sound
  · rename_i silent
    rw [ne_eq, not_not] at silent
    cases decided : (State.decoded received).result with
    | none => exact sound_reader sound rfl rfl rfl rfl rfl ⟨under, ⟨silent, decided⟩, kept⟩
    | some frame =>
      dsimp only
      split
      · have whole : frame.wire = received := by
          rw [decoded_holding] at decided kept
          obtain ⟨_, _, _, _, _, _, _, buffer, _⟩ := Decoder.holding_frame decided
          exact buffer.symm.trans kept
        cases accepted : s.accept frame claim with
        | none => exact sound
        | some s' =>
          dsimp only
          rw [nextFrame_reader s' .stopped]
          exact sound_nextFrame (sound_accept sound under whole accepted) _
      · rw [nextFrame_reader s .stopped]
        exact sound_nextFrame sound _

theorem sound_take (sound : Sound s) (size : Nat) (arrived : Bytes) :
    Sound { (s.take size arrived).2 with reader := .stopped } :=
  sound_mark (sound_stopped sound) rfl rfl rfl rfl (fun closed => closed) trivial nofun sound.owner
    nofun trivial

theorem underway_take {claim : Option Claim} {received : Bytes}
    (under : Underway s.journal claim received) (size : Nat) (arrived : Bytes) :
    Underway (s.take size arrived).2.journal claim (received ++ (s.take size arrived).1) :=
  underway_append under (by nofun)

theorem take_length (s : State) (size : Nat) (arrived : Bytes) :
    (s.take size arrived).1.length ≤ size := by
  simp only [State.take, List.length_take]
  omega

theorem sound_bytesArrive (sound : Sound s) (arrived : Bytes) : Sound (s.bytesArrive arrived) := by
  have reading := sound.reading
  rw [State.bytesArrive]
  cases reader : s.reader with
  | opening claim received =>
    rw [reader] at reading
    obtain ⟨under, one⟩ := reading
    dsimp only
    split
    · exact sound
    · split
      · exact sound_stopped sound
      · have taken := sound_take sound 2 arrived
        have short : (received ++ (s.take 2 arrived).1).length < headerSize := by
          have := take_length s 2 arrived
          rw [List.length_append, one, headerSize]
          omega
        split
        · exact sound_reader taken rfl rfl rfl rfl rfl trivial
        · split
          · exact sound_binaryRead taken (underway_take under 2 arrived) (keeping_opening short)
          · exact sound_reader taken rfl rfl rfl rfl rfl trivial
  | binary claim received =>
    rw [reader] at reading
    obtain ⟨under, keeping⟩ := reading
    dsimp only
    split
    · exact sound
    · split
      · exact sound_stopped sound
      · exact sound_binaryRead (sound_take sound _ arrived) (underway_take under _ arrived)
          (keeping_more keeping _ (take_length s _ arrived))
  | boundary => exact sound
  | elsewhere => exact sound
  | stopped => exact sound

/-- Another holder comes and goes only while no send holds the lock. -/
theorem sound_otherRequest (sound : Sound s) (holds : Bool) :
    Sound { s with requestHolder := otherHolder s.requestHolder holds } := by
  have holder : ∀ id, (s.sends id).phase.locked = true →
      otherHolder s.requestHolder holds = some (.send id) := by
    intro id locked
    rw [sound.holder id locked]
    cases holds <;> rfl
  exact { sound with holder }

theorem sound_step (sound : Sound s) (event : Event) : Sound (step s event) := by
  cases event with
  | request id payload timeoutValid =>
    rw [step]
    split
    · exact sound_request sound ‹_› payload timeoutValid
    · exact sound
  | requestLocked id =>
    rw [step]
    split
    · rename_i ready
      exact sound_requestLocked sound ready.1 ready.2
    · exact sound
  | writeLocked id raises =>
    rw [step]
    split
    · rename_i ready
      exact sound_writeLocked sound ready.1 raises
    · exact sound
  | drained id =>
    rw [step]
    split
    · exact sound_drained sound ‹_›
    · exact sound
  | replied id =>
    rw [step]
    split
    · exact sound_replied sound ‹_›
    · exact sound
  | interrupted id error => exact sound_interrupted sound error
  | cleaned id =>
    rw [step]
    split
    · rename_i error fencing
      exact sound_conclude sound (by rw [fencing]; rfl) _
    · exact sound
  | otherRequest holds => exact sound_otherRequest sound holds
  | otherWrite holds => exact { sound with }
  | writerCloses => exact { sound with }
  | sessionCloses => exact sound_close sound
  | byteArrives byte =>
    rw [step]
    split
    · split
      · exact sound_stopped sound
      · exact sound_beginFrame sound byte []
    · exact sound
  | bytesArrive arrived => exact sound_bytesArrive sound arrived
  | iterationEnds pushed =>
    rw [step]
    split
    · exact sound_nextFrame sound pushed
    · exact sound
  | readerStops => exact sound_stopped sound

theorem sound_run (sound : Sound s) (events : List Event) : Sound (run s events) := by
  induction events generalizing s with
  | nil => exact sound
  | cons event later ih => exact ih (sound_step sound event)

/-- In every run, each mark has before it what it needs: a reply goes only to the claim that was
    installed when its first byte was consumed and that asked for its subtype, once for each send,
    and after a send has failed past its write no query is written and no reply is returned. -/
theorem auxiliary_ownership (events : List Event) :
    Guarded Allowed (run .start events).journal :=
  (sound_run sound_start events).guarded

def firstQuery : Bytes := [0x5a, 0xa5, 0x02, 0x00] ++ List.replicate 16 0 ++ [0x02]

def firstReply : Bytes := [0xaa, 0xbb, 0x02, 0x00] ++ List.replicate 16 0 ++ [0x02]

/-- An exchange whose reply comes in pieces, before `drain` is over. -/
example : .returned 1 firstReply ∈ (run .start
    [.iterationEnds [], .request 1 firstQuery true, .requestLocked 1, .writeLocked 1 false,
      .byteArrives 0xaa, .bytesArrive [0xbb, 0x02], .bytesArrive [0, 0, 0, 0, 0],
      .bytesArrive (List.replicate 12 0 ++ [0x02]), .drained 1, .replied 1]).journal := by
  decide +kernel

end AuxiliarySession
