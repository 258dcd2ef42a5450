import EybondLocal.Library.OrderedDict
import EybondLocal.Transport.BinaryFraming
import EybondLocal.Transport.LiveReader

/-!
Requests and replies of a framed connection (`async_send_collector`, `_heartbeat_loop`,
`_async_write` and the dispatch of `_read_loop` in `collector/transport/connections.py`,
`SocketSendOwner` in `send_ownership.py`), interleaved with the sessions of its slot. An
action is one stretch of code between two awaits; `clock` numbers them.
-/
namespace RequestReply
open BinaryFraming SessionSlot OrderedDict Execution

structure Owner where
  writer : Nat := 0
  epoch : Nat := 0
  deriving DecidableEq, Repr

def capture (c : Connection) : Option Owner :=
  match c.slot.writer with
  | none => none
  | some writer => if connected c then some ⟨writer, c.runEpoch⟩ else none

def Owner.check (owner : Owner) (c : Connection) : Bool :=
  c.slot.writer = some owner.writer && c.runEpoch = owner.epoch && connected c

def Owner.checkReply (owner : Owner) (c : Connection) : Bool :=
  c.runEpoch = owner.epoch && (c.slot.writer = none || c.slot.writer = some owner.writer)

structure Reply where
  header : EybondHeader
  payload : Bytes
  readOn : Nat
  readAt : Nat
  deriving DecidableEq, Repr

inductive FutureState where
  | pending
  | result (reply : Reply)
  | failed
  | cancelled
  deriving DecidableEq, Repr

/-- Where an `async_send_collector` call is suspended, or how it ended. -/
inductive CallPhase where
  | unstarted
  | queued
  | registered
  | draining
  | waiting
  | returned (reply : Reply)
  | raised
  deriving DecidableEq, Repr

structure Call where
  phase : CallPhase := .unstarted
  owner : Owner := {}
  fcode : Nat := 0
  tid : Nat := 0
  future : FutureState := .pending
  completions : Nat := 0
  registeredAt : Nat := 0
  /-- The run whose socket the request was written to. -/
  writtenTo : Option Nat := none
  deriving DecidableEq, Repr

/-- One entry of `_pending` with its code in `_pending_fcode`; the two are always written
    together. -/
structure Entry where
  call : Nat
  fcode : Nat
  deriving DecidableEq, Repr

inductive HeartbeatPhase where
  | idle
  | queued (owner : Owner)
  | draining (owner : Owner)
  | stopped
  deriving DecidableEq, Repr

inductive Sender where
  | call (id : Nat)
  | heartbeat (epoch : Nat)
  deriving DecidableEq, Repr

structure System where
  connection : Connection := {}
  clock : Nat := 0
  tid : Nat := 0
  pending : Dict Nat Entry := Dict.empty
  calls : Nat → Call := fun _ => {}
  heartbeats : Nat → HeartbeatPhase := fun _ => .idle
  requestLock : Option Nat := none
  writeLock : Option Sender := none

inductive Action where
  | session (action : SessionSlot.Action)
  | call (id fcode : Nat)
  | acquireRequest (id : Nat)
  | acquireWrite (id : Nat)
  | drained (id : Nat)
  /-- The drain times out or fails. -/
  | writeFails (id : Nat)
  | deliver (id : Nat)
  | timeout (id : Nat)
  | cancel (id : Nat)
  /-- The reader of a run hands on a frame. -/
  | frame (epoch : Nat) (header : EybondHeader) (payload : Bytes)
  | heartbeatNext (epoch : Nat)
  | heartbeatWrite (epoch : Nat)
  | heartbeatDrained (epoch : Nat)
  | heartbeatStop (epoch : Nat)

def nextTid (tid : Nat) : Nat := (tid + 1) % 65536

/-- `set_result`, `set_exception` or `cancel` on the call's future. -/
def settle (call : Call) (outcome : FutureState) : Call :=
  { call with future := outcome, completions := call.completions + 1 }

def finishRequestFuture (call : Call) : Call :=
  if call.future = .pending then settle call .cancelled else call

section Steps
variable (s : System)

def setCall (id : Nat) (call : Call) : System :=
  { s with calls := Function.update s.calls id call }

def forget (pending : Dict Nat Entry) (id tid : Nat) : Dict Nat Entry :=
  match pending.get? tid with
  | some entry => if entry.call = id then pending.erase tid else pending
  | none => pending

/-- The `finally` of `async_send_collector` and the exit of both locks. -/
def leave (id : Nat) (phase : CallPhase) : System :=
  { setCall s id { finishRequestFuture (s.calls id) with phase := phase } with
    pending := forget s.pending id (s.calls id).tid
    requestLock := if s.requestLock = some id then none else s.requestLock
    writeLock := if s.writeLock = some (.call id) then none else s.writeLock }

/-- A call's future is among those `_disconnect` fails. -/
def dropped (id : Nat) : Bool :=
  s.pending.items.any (fun item => item.2.call = id) && (s.calls id).future = .pending

/-- The part of `_disconnect` that ends the requests of the session. -/
def dropPending : System :=
  { s with
    calls := fun id => if dropped s id then settle (s.calls id) .failed else s.calls id
    pending := Dict.empty }

def sessionStep (action : SessionSlot.Action) : System :=
  let ended := if detaches s.connection action then dropPending s else s
  { ended with connection := SessionSlot.step s.connection action }

def startCall (id fcode : Nat) : System :=
  match capture s.connection with
  | none => setCall s id { s.calls id with phase := .raised }
  | some owner => setCall s id { phase := .queued, owner := owner, fcode := fcode }

def register (id : Nat) : System :=
  let call := s.calls id
  let tid := nextTid s.tid
  { setCall s id { call with phase := .registered, tid := tid, registeredAt := s.clock } with
    tid := tid
    pending := s.pending.set tid ⟨id, call.fcode⟩
    requestLock := some id }

def write (id : Nat) : System :=
  let call := s.calls id
  { setCall s id { call with phase := .draining, writtenTo := some call.owner.writer } with
    writeLock := some (.call id) }

def deliverReply (id : Nat) : System :=
  match (s.calls id).future with
  | .pending => s
  | .result reply =>
    if (s.calls id).owner.checkReply s.connection then leave s id (.returned reply)
    else leave s id .raised
  | _ => leave s id .raised

/-- The correlation at the end of `_read_loop`. -/
def dispatch (epoch : Nat) (header : EybondHeader) (payload : Bytes) : System :=
  match s.pending.get? header.tid with
  | none => s
  | some entry =>
    if (s.calls entry.call).future = .pending ∧ header.fcode = entry.fcode then
      setCall s entry.call
        (settle (s.calls entry.call) (.result ⟨header, payload, epoch, s.clock⟩))
    else s

/-- A reader hands a frame on only from a completed read its fence let through. -/
def handsOn (c : Connection) (epoch : Nat) : Bool :=
  match (c.sessions epoch).reader with
  | .reading auxiliary => !(c.sessions auxiliary).auxiliaryClosed
  | _ => false

def setHeartbeat (epoch : Nat) (phase : HeartbeatPhase) : System :=
  { s with heartbeats := Function.update s.heartbeats epoch phase }

def releaseHeartbeat (epoch : Nat) : System :=
  { s with writeLock := if s.writeLock = some (.heartbeat epoch) then none else s.writeLock }

def perform (s : System) : Action → System
  | .session action => sessionStep s action
  | .call id fcode => if (s.calls id).phase = .unstarted then startCall s id fcode else s
  | .acquireRequest id =>
    if (s.calls id).phase = .queued ∧ s.requestLock = none then
      if (s.calls id).owner.check s.connection then register s id
      else setCall s id { s.calls id with phase := .raised }
    else s
  | .acquireWrite id =>
    if (s.calls id).phase = .registered ∧ s.writeLock = none then
      if (s.calls id).owner.check s.connection then write s id else leave s id .raised
    else s
  | .drained id =>
    if (s.calls id).phase = .draining then
      if (s.calls id).owner.checkReply s.connection then
        { setCall s id { s.calls id with phase := .waiting } with writeLock := none }
      else leave s id .raised
    else s
  | .writeFails id => if (s.calls id).phase = .draining then leave s id .raised else s
  | .deliver id => if (s.calls id).phase = .waiting then deliverReply s id else s
  | .timeout id => if (s.calls id).phase = .waiting then leave s id .raised else s
  | .cancel id =>
    match (s.calls id).phase with
    | .queued => setCall s id { s.calls id with phase := .raised }
    | .registered | .draining | .waiting => leave s id .raised
    | _ => s
  | .frame epoch header payload =>
    if handsOn s.connection epoch then dispatch s epoch header payload else s
  | .heartbeatNext epoch =>
    -- `while self.connected` looks at the slot, whichever run the loop belongs to
    if s.heartbeats epoch = .idle ∧ (s.connection.sessions epoch).phase = .serving then
      match capture s.connection with
      | none => setHeartbeat s epoch .stopped
      | some owner => { setHeartbeat s epoch (.queued owner) with tid := nextTid s.tid }
    else s
  | .heartbeatWrite epoch =>
    match s.heartbeats epoch, s.writeLock with
    | .queued owner, none =>
      if owner.check s.connection then
        { setHeartbeat s epoch (.draining owner) with writeLock := some (.heartbeat epoch) }
      else setHeartbeat s epoch .stopped
    | _, _ => s
  | .heartbeatDrained epoch =>
    match s.heartbeats epoch with
    | .draining owner =>
      setHeartbeat (releaseHeartbeat s epoch) epoch
        (if owner.checkReply s.connection then .idle else .stopped)
    | _ => s
  | .heartbeatStop epoch => setHeartbeat (releaseHeartbeat s epoch) epoch .stopped

def step (s : System) (action : Action) : System :=
  { perform s action with clock := s.clock + 1 }

end Steps

/-- The frame has the call's own transaction and function, and was read after the call's entry
    was registered. -/
structure Answers (call : Call) (reply : Reply) : Prop where
  tid : reply.header.tid = call.tid
  fcode : reply.header.fcode = call.fcode
  after : call.registeredAt < reply.readAt

structure Correlated (s : System) : Prop where
  /-- A returned reply answers the call and was read on the run the request was written to. -/
  returned : ∀ id reply, (s.calls id).phase = .returned reply →
    Answers (s.calls id) reply ∧ (s.calls id).writtenTo = some reply.readOn
  once : ∀ id, (s.calls id).completions ≤ 1
  /-- No entry outlives the `_disconnect` of the session its request was pinned to. -/
  gone : ∀ tid entry, s.pending.get? tid = some entry →
    (s.connection.sessions (s.calls entry.call).owner.writer).detached = false

def CallPhase.inFlight : CallPhase → Bool
  | .registered | .draining | .waiting => true
  | _ => false

structure CallOk (runEpoch : Nat) (call : Call) : Prop where
  pinned : call.owner.writer = call.owner.epoch
  reached : call.owner.epoch ≤ runEpoch
  settled : call.completions = if call.future = .pending then 0 else 1
  fresh : call.phase = .queued → call.future = .pending
  answered : ∀ reply, call.future = .result reply →
    Answers call reply ∧ call.owner.epoch ≤ reply.readOn ∧ reply.readOn ≤ runEpoch
  written : call.phase = .draining ∨ call.phase = .waiting →
    call.writtenTo = some call.owner.writer
  returned : ∀ reply, call.phase = .returned reply →
    Answers call reply ∧ call.writtenTo = some reply.readOn

structure EntryOk (now : Nat) (c : Connection) (call : Call) (tid : Nat) (entry : Entry) :
    Prop where
  tid : call.tid = tid
  fcode : call.fcode = entry.fcode
  registered : call.registeredAt < now
  inFlight : call.phase.inFlight = true
  attached : (c.sessions call.owner.writer).detached = false

structure Invariant (now : Nat) (s : System) : Prop where
  reader : SingleReader s.connection
  calls : ∀ id, CallOk s.connection.runEpoch (s.calls id)
  entries : ∀ tid entry, s.pending.get? tid = some entry →
    EntryOk now s.connection (s.calls entry.call) tid entry

theorem invariant_initial : Invariant 0 {} where
  reader := singleReader_initial
  calls := by
    intro id
    constructor <;> simp
  entries := by simp

theorem correlated_of_invariant {now : Nat} {s : System} (inv : Invariant now s) :
    Correlated s where
  returned := fun id reply ended => (inv.calls id).returned reply ended
  once := by
    intro id
    rw [(inv.calls id).settled]
    split <;> omega
  gone := fun tid entry found => (inv.entries tid entry found).attached

section Preservation
variable {now : Nat} {s : System}

theorem invariant_later {later : Nat} (inv : Invariant now s) (le : now ≤ later) :
    Invariant later s where
  reader := inv.reader
  calls := inv.calls
  entries := by
    intro tid entry found
    obtain ⟨ownTid, fcode, registered, inFlight, attached⟩ := inv.entries tid entry found
    exact ⟨ownTid, fcode, by omega, inFlight, attached⟩

/-- Locks, heartbeats and the counter are not part of the invariant. -/
theorem invariant_same {s' : System} (inv : Invariant now s)
    (connection : s'.connection = s.connection) (calls : s'.calls = s.calls)
    (pending : s'.pending = s.pending) : Invariant now s' := by
  obtain ⟨reader, callsOk, entries⟩ := inv
  constructor
  · rw [connection]
    exact reader
  · rw [connection, calls]
    exact callsOk
  · rw [connection, calls, pending]
    exact entries

theorem invariant_change {id : Nat} {call : Call} {pending : Dict Nat Entry} {s' : System}
    (inv : Invariant now s) (connection : s'.connection = s.connection)
    (calls : s'.calls = Function.update s.calls id call) (kept : s'.pending = pending)
    (ok : CallOk s.connection.runEpoch call)
    (entries : ∀ tid entry, pending.get? tid = some entry →
      (entry.call ≠ id ∧ s.pending.get? tid = some entry) ∨
      (entry.call = id ∧ EntryOk now s.connection call tid entry)) : Invariant now s' where
  reader := by
    rw [connection]
    exact inv.reader
  calls := by
    intro other
    rw [calls, connection, Function.update_apply]
    split
    · exact ok
    · exact inv.calls other
  entries := by
    intro tid entry found
    rw [kept] at found
    rw [calls, connection, Function.update_apply]
    rcases entries tid entry found with ⟨other, before⟩ | ⟨own, entryOk⟩
    · rw [if_neg other]
      exact inv.entries tid entry before
    · rw [if_pos own]
      exact entryOk

theorem invariant_advance {id : Nat} {call : Call} {s' : System} (inv : Invariant now s)
    (connection : s'.connection = s.connection)
    (calls : s'.calls = Function.update s.calls id call) (pending : s'.pending = s.pending)
    (ok : CallOk s.connection.runEpoch call) (tid : call.tid = (s.calls id).tid)
    (fcode : call.fcode = (s.calls id).fcode)
    (registered : call.registeredAt = (s.calls id).registeredAt)
    (owner : call.owner = (s.calls id).owner)
    (inFlight : (s.calls id).phase.inFlight = true → call.phase.inFlight = true) :
    Invariant now s' := by
  apply invariant_change inv connection calls pending ok
  intro entryTid entry found
  have before := inv.entries entryTid entry found
  cases Nat.decEq entry.call id with
  | isFalse other => exact .inl ⟨other, found⟩
  | isTrue own =>
    rw [own] at before
    refine .inr ⟨own, ?_⟩
    constructor
    · rw [tid, before.tid]
    · rw [fcode, before.fcode]
    · rw [registered]
      exact before.registered
    · exact inFlight before.inFlight
    · rw [owner]
      exact before.attached

theorem invariant_idle {id : Nat} {call : Call} {s' : System} (inv : Invariant now s)
    (connection : s'.connection = s.connection)
    (calls : s'.calls = Function.update s.calls id call) (pending : s'.pending = s.pending)
    (ok : CallOk s.connection.runEpoch call) (idle : (s.calls id).phase.inFlight = false) :
    Invariant now s' := by
  apply invariant_change inv connection calls pending ok
  intro tid entry found
  refine .inl ⟨?_, found⟩
  intro own
  have busy := (inv.entries tid entry found).inFlight
  rw [own, idle] at busy
  cases busy

theorem forget_get? (pending : Dict Nat Entry) (id tid other : Nat) (entry : Entry) :
    (forget pending id tid).get? other = some entry →
      pending.get? other = some entry ∧ (entry.call = id → other ≠ tid) := by
  intro found
  unfold forget at found
  split at found
  · rename_i own present
    split at found
    · rw [Dict.get?_erase] at found
      split at found
      · cases found
      · rename_i ne
        exact ⟨found, fun _ => ne⟩
    · rename_i foreign
      refine ⟨found, ?_⟩
      intro own same
      rw [same, present] at found
      cases found
      exact foreign own
  · rename_i absent
    refine ⟨found, ?_⟩
    intro own same
    rw [same, absent] at found
    cases found

theorem callOk_mono {runEpoch later : Nat} {call : Call} (ok : CallOk runEpoch call)
    (le : runEpoch ≤ later) : CallOk later call where
  pinned := ok.pinned
  reached := by
    have reached := ok.reached
    omega
  settled := ok.settled
  fresh := ok.fresh
  answered := by
    intro reply done
    obtain ⟨answers, after, before⟩ := ok.answered reply done
    exact ⟨answers, after, by omega⟩
  written := ok.written
  returned := ok.returned

theorem callOk_phase {runEpoch : Nat} {call : Call} {phase : CallPhase} (ok : CallOk runEpoch call)
    (left : phase ≠ .queued)
    (written : phase = .draining ∨ phase = .waiting → call.writtenTo = some call.owner.writer)
    (returned : ∀ reply, phase = .returned reply →
      Answers call reply ∧ call.writtenTo = some reply.readOn) :
    CallOk runEpoch { call with phase := phase } where
  pinned := ok.pinned
  reached := ok.reached
  settled := ok.settled
  fresh := fun queued => absurd queued left
  answered := by
    intro reply done
    obtain ⟨⟨tid, fcode, after⟩, bounds⟩ := ok.answered reply done
    exact ⟨⟨tid, fcode, after⟩, bounds⟩
  written := written
  returned := by
    intro reply ended
    obtain ⟨⟨tid, fcode, after⟩, same⟩ := returned reply ended
    exact ⟨⟨tid, fcode, after⟩, same⟩

theorem callOk_settle {runEpoch : Nat} {call : Call} {outcome : FutureState}
    (ok : CallOk runEpoch call) (pending : call.future = .pending) (done : outcome ≠ .pending)
    (left : call.phase ≠ .queued)
    (answered : ∀ reply, outcome = .result reply →
      Answers call reply ∧ call.owner.epoch ≤ reply.readOn ∧ reply.readOn ≤ runEpoch) :
    CallOk runEpoch (settle call outcome) where
  pinned := ok.pinned
  reached := ok.reached
  settled := by
    have before := ok.settled
    rw [if_pos pending] at before
    simp only [settle, before, if_neg done]
  fresh := fun queued => absurd queued left
  answered := by
    intro reply result
    obtain ⟨⟨tid, fcode, after⟩, bounds⟩ := answered reply result
    exact ⟨⟨tid, fcode, after⟩, bounds⟩
  written := ok.written
  returned := by
    intro reply ended
    obtain ⟨⟨tid, fcode, after⟩, same⟩ := ok.returned reply ended
    exact ⟨⟨tid, fcode, after⟩, same⟩

theorem finishRequestFuture_ok {runEpoch : Nat} {call : Call} {phase : CallPhase}
    (ok : CallOk runEpoch call) (landed : phase.inFlight = false) (left : phase ≠ .queued)
    (returned : ∀ reply, phase = .returned reply →
      Answers call reply ∧ call.writtenTo = some reply.readOn) :
    CallOk runEpoch { finishRequestFuture call with phase := phase } := by
  have moved : CallOk runEpoch { call with phase := phase } := by
    refine callOk_phase ok left ?_ returned
    rintro (same | same) <;> rw [same] at landed <;> cases landed
  unfold finishRequestFuture
  split
  · rename_i pending
    have cancelled : CallOk runEpoch (settle { call with phase := phase } .cancelled) := by
      apply callOk_settle moved pending (by simp) left
      intro reply result
      cases result
    exact cancelled
  · exact moved

theorem invariant_leave {id : Nat} {phase : CallPhase} (inv : Invariant now s)
    (landed : phase.inFlight = false) (left : phase ≠ .queued)
    (returned : ∀ reply, phase = .returned reply →
      Answers (s.calls id) reply ∧ (s.calls id).writtenTo = some reply.readOn) :
    Invariant now (leave s id phase) := by
  refine invariant_change inv rfl rfl rfl
    (finishRequestFuture_ok (inv.calls id) landed left returned) ?_
  intro tid entry found
  obtain ⟨before, elsewhere⟩ := forget_get? _ _ _ _ _ found
  refine .inl ⟨?_, before⟩
  intro own
  have ownTid := (inv.entries tid entry before).tid
  rw [own] at ownTid
  exact elsewhere own ownTid.symm

theorem capture_eq {c : Connection} {owner : Owner} (captured : capture c = some owner) :
    c.slot.writer = some owner.writer ∧ owner.epoch = c.runEpoch := by
  unfold capture at captured
  split at captured
  · cases captured
  · rename_i writer installed
    split at captured
    · cases captured
      exact ⟨installed, rfl⟩
    · cases captured

theorem check_installed {c : Connection} {owner : Owner} (checked : owner.check c = true) :
    c.slot.writer = some owner.writer ∧ c.runEpoch = owner.epoch := by
  unfold Owner.check at checked
  simp only [Bool.and_eq_true, decide_eq_true_eq] at checked
  exact checked.1

theorem invariant_startCall {id fcode : Nat} (inv : Invariant now s)
    (unstarted : (s.calls id).phase = .unstarted) : Invariant now (startCall s id fcode) := by
  have idle : (s.calls id).phase.inFlight = false := by rw [unstarted]; rfl
  unfold startCall
  split
  · refine invariant_idle inv rfl rfl rfl ?_ idle
    apply callOk_phase (inv.calls id) <;> simp
  · rename_i owner captured
    obtain ⟨installed, epoch⟩ := capture_eq captured
    have newest := inv.reader.owns.writer _ installed
    refine invariant_idle inv rfl rfl rfl ?_ idle
    constructor
    · exact newest.trans epoch.symm
    · exact Nat.le_of_eq epoch
    · simp
    · simp
    · simp
    · simp
    · simp

theorem invariant_register {id : Nat} (inv : Invariant now s)
    (queued : (s.calls id).phase = .queued)
    (checked : (s.calls id).owner.check s.connection = true) (soon : s.clock < now) :
    Invariant now (register s id) := by
  have ok := inv.calls id
  have future := ok.fresh queued
  have installed := (check_installed checked).1
  refine invariant_change inv rfl rfl rfl ?_ ?_
  · constructor
    · exact ok.pinned
    · exact ok.reached
    · exact ok.settled
    · simp
    · intro reply result
      simp [future] at result
    · simp
    · simp
  · intro tid entry found
    change (s.pending.set (nextTid s.tid) ⟨id, (s.calls id).fcode⟩).get? tid = some entry at found
    rw [Dict.get?_set] at found
    split at found
    · rename_i own
      cases found
      exact .inr ⟨rfl, own.symm, rfl, soon, rfl, (inv.reader.attached _ installed).2⟩
    · refine .inl ⟨?_, found⟩
      intro own
      have busy := (inv.entries tid entry found).inFlight
      rw [own, queued] at busy
      cases busy

theorem invariant_raised {id : Nat} (inv : Invariant now s) : Invariant now (leave s id .raised) := by
  apply invariant_leave inv <;> simp [CallPhase.inFlight]

theorem invariant_write {id : Nat} (inv : Invariant now s) : Invariant now (write s id) := by
  have ok := inv.calls id
  refine invariant_advance inv rfl rfl rfl ?_ rfl rfl rfl rfl (fun _ => rfl)
  constructor
  · exact ok.pinned
  · exact ok.reached
  · exact ok.settled
  · simp
  · intro reply done
    obtain ⟨⟨tid, fcode, after⟩, bounds⟩ := ok.answered reply done
    exact ⟨⟨tid, fcode, after⟩, bounds⟩
  · simp
  · simp

/-- A reply that the owner still accepts was read on the run the request was written to: the
    epoch has not moved since the request was pinned. -/
theorem invariant_deliver {id : Nat} (inv : Invariant now s)
    (waiting : (s.calls id).phase = .waiting) : Invariant now (deliverReply s id) := by
  have ok := inv.calls id
  unfold deliverReply
  split
  · exact inv
  · rename_i reply result
    split
    · rename_i accepted
      obtain ⟨answers, after, before⟩ := ok.answered reply result
      have written := ok.written (.inr waiting)
      have pinned := ok.pinned
      simp only [Owner.checkReply, Bool.and_eq_true, decide_eq_true_eq] at accepted
      have readOn : reply.readOn = (s.calls id).owner.writer := by omega
      apply invariant_leave inv (by rfl) (by simp)
      intro same eq
      cases eq
      exact ⟨answers, by rw [written, readOn]⟩
    · exact invariant_raised inv
  · exact invariant_raised inv

theorem handsOn_newest {epoch : Nat} (inv : Invariant now s)
    (hands : handsOn s.connection epoch = true) : epoch = s.connection.runEpoch := by
  have reading : stillReading s.connection epoch = true := by
    unfold handsOn at hands
    unfold stillReading
    split at hands
    · simp_all
    · cases hands
  exact inv.reader.owns.writer epoch (inv.reader.single epoch reading)

theorem invariant_dispatch {epoch : Nat} {header : EybondHeader} {payload : Bytes}
    (inv : Invariant s.clock s) (newest : epoch = s.connection.runEpoch) :
    Invariant s.clock (dispatch s epoch header payload) := by
  unfold dispatch
  split
  · exact inv
  · rename_i entry found
    split
    · rename_i correlated
      have entryOk := inv.entries header.tid entry found
      have ok := inv.calls entry.call
      refine invariant_advance inv rfl rfl rfl ?_ rfl rfl rfl rfl (fun busy => busy)
      apply callOk_settle ok correlated.1 (by simp)
      · intro queued
        have busy := entryOk.inFlight
        rw [queued] at busy
        cases busy
      · intro reply result
        cases result
        refine ⟨⟨entryOk.tid.symm, correlated.2.trans entryOk.fcode.symm, entryOk.registered⟩, ?_, ?_⟩
        · have reached := ok.reached
          dsimp only
          omega
        · exact Nat.le_of_eq newest
    · exact inv

/-- A call whose future `_disconnect` fails is in flight. -/
theorem dropped_inFlight {id : Nat} (inv : Invariant now s) (fails : dropped s id = true) :
    (s.calls id).future = .pending ∧ (s.calls id).phase.inFlight = true := by
  unfold dropped at fails
  simp only [Bool.and_eq_true, List.any_eq_true, decide_eq_true_eq] at fails
  obtain ⟨⟨⟨tid, entry⟩, present, own⟩, pending⟩ := fails
  have found := (s.pending.get?_eq_some_iff tid entry).mpr present
  have busy := (inv.entries tid entry found).inFlight
  rw [own] at busy
  exact ⟨pending, busy⟩

theorem dropPending_ok (inv : Invariant now s) (id : Nat) :
    CallOk s.connection.runEpoch ((dropPending s).calls id) := by
  change CallOk _ (if dropped s id then settle (s.calls id) .failed else s.calls id)
  split
  · rename_i fails
    obtain ⟨pending, busy⟩ := dropped_inFlight inv fails
    apply callOk_settle (inv.calls id) pending (by simp)
    · intro queued
      rw [queued] at busy
      cases busy
    · intro reply result
      cases result
  · exact inv.calls id

theorem invariant_session (inv : Invariant now s) (action : SessionSlot.Action)
    (orderly : SessionSlot.Orderly s.connection action) : Invariant now (sessionStep s action) := by
  have later := step_runEpoch_le s.connection action
  cases ends : detaches s.connection action with
  | true =>
    have ended : sessionStep s action =
        { dropPending s with connection := SessionSlot.step s.connection action } := by
      simp [sessionStep, ends]
    rw [ended]
    exact ⟨singleReader_step action inv.reader orderly,
      fun id => callOk_mono (dropPending_ok inv id) later, fun tid entry found => by cases found⟩
  | false =>
    have same : sessionStep s action =
        { s with connection := SessionSlot.step s.connection action } := by
      simp [sessionStep, ends]
    rw [same]
    refine ⟨singleReader_step action inv.reader orderly,
      fun id => callOk_mono (inv.calls id) later, ?_⟩
    intro tid entry found
    obtain ⟨ownTid, fcode, registered, inFlight, attached⟩ := inv.entries tid entry found
    exact ⟨ownTid, fcode, registered, inFlight,
      (step_detached s.connection action ends _).trans attached⟩

/-- The session steps are orderly; everything else may happen at any time. -/
def Orderly (s : System) : Action → Prop
  | .session action => SessionSlot.Orderly s.connection action
  | _ => True

theorem invariant_abort {id : Nat} (inv : Invariant now s)
    (queued : (s.calls id).phase = .queued) :
    Invariant now (setCall s id { s.calls id with phase := .raised }) := by
  have idle : (s.calls id).phase.inFlight = false := by rw [queued]; rfl
  refine invariant_idle inv rfl rfl rfl ?_ idle
  apply callOk_phase (inv.calls id) <;> simp

theorem invariant_perform (action : Action) (inv : Invariant s.clock s) (orderly : Orderly s action) :
    Invariant (s.clock + 1) (perform s action) := by
  have next := invariant_later inv (Nat.le_succ s.clock)
  cases action with
  | session action => exact invariant_session next action orderly
  | call id fcode =>
    simp only [perform]
    split
    · rename_i unstarted
      exact invariant_startCall next unstarted
    · exact next
  | acquireRequest id =>
    simp only [perform]
    split
    · rename_i ready
      split
      · rename_i checked
        exact invariant_register next ready.1 checked (Nat.lt_succ_self _)
      · exact invariant_abort next ready.1
    · exact next
  | acquireWrite id =>
    simp only [perform]
    split
    · split
      · exact invariant_write next
      · exact invariant_raised next
    · exact next
  | drained id =>
    simp only [perform]
    split
    · rename_i draining
      split
      · have ok := next.calls id
        refine invariant_advance next rfl rfl rfl ?_ rfl rfl rfl rfl (fun _ => rfl)
        apply callOk_phase ok (by simp)
        · intro _
          exact ok.written (.inl draining)
        · simp
      · exact invariant_raised next
    · exact next
  | writeFails id =>
    simp only [perform]
    split
    · exact invariant_raised next
    · exact next
  | deliver id =>
    simp only [perform]
    split
    · rename_i waiting
      exact invariant_deliver next waiting
    · exact next
  | timeout id =>
    simp only [perform]
    split
    · exact invariant_raised next
    · exact next
  | cancel id =>
    simp only [perform]
    split
    · rename_i queued
      exact invariant_abort next queued
    · exact invariant_raised next
    · exact invariant_raised next
    · exact invariant_raised next
    · exact next
  | frame epoch header payload =>
    simp only [perform]
    split
    · rename_i hands
      exact invariant_later (invariant_dispatch inv (handsOn_newest inv hands)) (Nat.le_succ _)
    · exact next
  | heartbeatNext epoch =>
    simp only [perform]
    split
    · split <;> exact invariant_same next rfl rfl rfl
    · exact next
  | heartbeatWrite epoch =>
    simp only [perform]
    split
    · split <;> exact invariant_same next rfl rfl rfl
    · exact next
  | heartbeatDrained epoch =>
    simp only [perform]
    split
    · exact invariant_same next rfl rfl rfl
    · exact next
  | heartbeatStop epoch => exact invariant_same next rfl rfl rfl

theorem invariant_step (action : Action) (inv : Invariant s.clock s) (orderly : Orderly s action) :
    Invariant (step s action).clock (step s action) :=
  invariant_same (invariant_perform action inv orderly) rfl rfl rfl

end Preservation

/-- In every interleaving of calls, heartbeats, frames, timeouts, cancellations, disconnects and
    replacements whose session steps are orderly, requests and replies stay correlated. -/
theorem replies_correlated_run (actions : List Action)
    (orderly : EveryStep step Orderly {} actions) : EveryState step Correlated {} actions := by
  have invariants : EveryState step (fun s => Invariant s.clock s) {} actions :=
    everyState_of_everyStep (fun s action inv admitted => invariant_step action inv admitted)
      invariant_initial orderly
  exact everyState_mono (fun s inv => correlated_of_invariant inv) invariants

def forwardReply : EybondHeader := ⟨1, 0, 2, 1, fcForwardToDevice⟩

def answeredRequest (reader : Nat) : List Action :=
  [.call 0 fcForwardToDevice, .acquireRequest 0, .acquireWrite 0, .drained 0,
    .frame reader forwardReply [], .deliver 0]

theorem replies_correlated_single_session :
    ((run step {} ([.session (.start "s1"), .session (.beginReading 1)] ++
        answeredRequest 1)).calls 0).phase = .returned ⟨forwardReply, [], 1, 6⟩ ∧
      EveryState step Correlated {}
        ([.session (.start "s1"), .session (.beginReading 1)] ++ answeredRequest 1) := by
  refine ⟨by decide +kernel, replies_correlated_run _ ?_⟩
  simp [answeredRequest, EveryStep, Orderly, SessionSlot.Orderly, StaleResume, OverlapsReader]

/-- After a stale resume the slot's writer is run 2's while run 3's reader is still alive: the
    request goes out on one socket and its reply is taken from the other. -/
theorem stale_run_crosses_replies :
    ¬ EveryState step Correlated {}
      ([.session (.start "s1"), .session (.start "s2"), .session (.start "s3"),
        .session (.resume 2), .session (.beginReading 3)] ++ answeredRequest 3) := by
  intro safe
  have last := everyState_run safe
  obtain ⟨-, written⟩ := last.returned 0 ⟨forwardReply, [], 3, 9⟩ (by decide +kernel)
  revert written
  decide +kernel

-- a run started over a closing socket crosses replies too: nobody stops the old reader
example :
    let s := run step {} ([.session (.start "s1"), .session (.beginReading 1),
      .session (.socketCloses 1), .session (.start "s2")] ++ answeredRequest 1)
    (s.calls 0).phase = .returned ⟨forwardReply, [], 1, 8⟩ ∧ (s.calls 0).writtenTo = some 2 := by
  decide +kernel

end RequestReply
