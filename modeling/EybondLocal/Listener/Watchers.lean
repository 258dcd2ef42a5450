import EybondLocal.Listener.Tracking

/-!
Who watches a pending socket. A task sniffs or watches each registered socket; a call that
needs the socket cancels that task, waits until it is gone, and claims the socket, closes it or
gives it a task again. A call that is cancelled in between only re-arms the socket when its
code says so in a `finally` block, as `async_identify_pending_session` does.
-/
namespace Listener
open StripText OrderedDict BinaryFraming Execution

inductive TaskPhase where
  | sniffing
  | watching
  /-- Inside `connection.run`. -/
  | connected
  | finished
  deriving DecidableEq, Repr

structure SniffTask where
  sid : String
  phase : TaskPhase
  cancelled : Bool
  deriving DecidableEq, Repr

/-- The calls that pause a socket. `route` selects by session or peer, `routePn` is one
    candidate of a PN route. -/
inductive CallKind where
  | route
  | routePn
  | transparent
  | identify
  | retire
  | unregister
  deriving DecidableEq, Repr

inductive CallPhase where
  /-- `_pause_pending_sniff` drains this task; the call may have been cancelled meanwhile. -/
  | draining (task : Nat) (cancelled : Bool)
  /-- The reads and writes of `_identify_pending_socket_for_route`. -/
  | probing
  deriving DecidableEq, Repr

structure PauseCall where
  kind : CallKind
  sid : String
  phase : CallPhase
  deriving DecidableEq, Repr

structure Watchers where
  shared : Shared
  tasks : Dict Nat SniffTask
  nextTask : Nat
  calls : Dict Nat PauseCall

def Watchers.start (port : Nat) : Watchers := ⟨Shared.start port, Dict.empty, 0, Dict.empty⟩

inductive Event where
  | accept (peer : Option PeerAddress) (remotePort : Option Int)
  /-- Any section of the listener that starts or replaces no task. -/
  | listener (a : Action)
  /-- The sniffing task has read its chunk. -/
  | sniffed (task : Nat) (chunk : Bytes) (exhausted : Bool)
  /-- The watching task has buffered bytes that classify the wire. -/
  | reclassified (task : Nat)
  /-- The watch ends: the peer closed, the read failed or the time is over. -/
  | watchEnded (task : Nat) (state : SessionState)
  | connectionEnded (task : Nat)
  /-- The task of a socket that has left the registry is cancelled. -/
  | dismissed (task : Nat)
  /-- A requested cancellation reaches its task. -/
  | taskCancelled (task : Nat)
  | called (call : Nat) (kind : CallKind) (sid : String)
  /-- A PN route passes over a socket of another collector. -/
  | passedOver (sid : String)
  | cancel (call : Nat)
  | drained (call : Nat)
  | probed (call : Nat) (isMatch : Bool)

namespace Watchers
variable (rules : Rules)

def act (w : Watchers) (a : Action) : Watchers := { w with shared := step rules w.shared a }

def pending (w : Watchers) : Dict String Pending := w.shared.listener.pending

def finish (w : Watchers) (t : Nat) (task : SniffTask) : Watchers :=
  { w with tasks := w.tasks.set t { task with phase := .finished } }

def setPhase (w : Watchers) (t : Nat) (task : SniffTask) (phase : TaskPhase) : Watchers :=
  { w with tasks := w.tasks.set t { task with phase := phase } }

/-- `pending.sniff_task is not None and not pending.sniff_task.done()`. -/
def runs (w : Watchers) (p : Pending) : Bool :=
  match p.sniffTask.bind w.tasks.get? with
  | none => false
  | some task => task.phase ≠ .finished

def spawn (w : Watchers) (sid : String) (phase : TaskPhase) : Watchers :=
  { w.act rules (.retasked sid (some w.nextTask) (phase = .watching)) with
    tasks := w.tasks.set w.nextTask ⟨sid, phase, false⟩
    nextTask := w.nextTask + 1 }

def resume (w : Watchers) (sid : String) : Watchers :=
  match w.pending.get? sid with
  | none => w
  | some p => if w.runs p then w else w.spawn rules sid .watching

def drop (w : Watchers) (call : Nat) : Watchers := { w with calls := w.calls.erase call }

def paused (w : Watchers) (call : Nat) (kind : CallKind) (sid : String) : Watchers :=
  match w.pending.get? sid with
  | none => w.drop call
  | some _ =>
    match kind with
    | .route | .transparent => (w.act rules (.claim sid)).drop call
    | .retire => (w.act rules (.unclaimedClosed sid .closedIdentityNegotiationRetry)).drop call
    | .unregister => (w.spawn rules sid .sniffing).drop call
    | .routePn | .identify => { w with calls := w.calls.set call ⟨kind, sid, .probing⟩ }

/-- The end of a call by cancellation: only the identify call has a `finally`. -/
def abort (w : Watchers) (call : Nat) (kind : CallKind) (sid : String) : Watchers :=
  match kind with
  | .identify => (w.resume rules sid).drop call
  | _ => w.drop call

/-- `_pause_pending_sniff` up to its wait. -/
def pause (w : Watchers) (call : Nat) (kind : CallKind) (sid : String) (p : Pending) : Watchers :=
  let cleared := w.act rules (.retasked sid none p.parked)
  match p.sniffTask with
  | none => cleared.paused rules call kind sid
  | some t =>
    match w.tasks.get? t with
    | none => cleared.paused rules call kind sid
    | some task =>
      if task.phase = .finished then cleared.paused rules call kind sid
      else
        { cleared with
          tasks := cleared.tasks.set t { task with cancelled := true }
          calls := cleared.calls.set call ⟨kind, sid, .draining t false⟩ }

def isFinished (w : Watchers) (t : Nat) : Bool :=
  match w.tasks.get? t with
  | none => true
  | some task => task.phase = .finished

def unused (w : Watchers) (t : Nat) : Bool := w.pending.values.all fun p => p.sniffTask ≠ some t

end Watchers

def Action.taskless : Action → Bool
  | .accept .. | .sniffed .. | .retasked .. => false
  | _ => true

def react (rules : Rules) (w : Watchers) : Event → Watchers
  | .accept peer remotePort =>
    match peer with
    | none => w
    | some peer =>
      { w with
        shared := step rules w.shared (.accept (some peer) remotePort w.nextTask)
        tasks := w.tasks.set w.nextTask
          ⟨SharedListener.sessionIdOf w.shared.listener.port (w.shared.listener.sessionSeq + 1),
            .sniffing, false⟩
        nextTask := w.nextTask + 1 }
  | .listener a => if a.taskless then w.act rules a else w
  | .sniffed t chunk exhausted =>
    match w.tasks.get? t with
    | none => w
    | some task =>
      if task.phase = .sniffing ∧ task.cancelled = false then
        let sniffed := w.act rules (.sniffed task.sid chunk exhausted)
        match (w.shared.listener.sniffed rules task.sid chunk exhausted).2 with
        | .gone | .closed => sniffed.finish t task
        | .parked => sniffed.setPhase t task .watching
        | .bound _ _ => sniffed.setPhase t task .connected
      else w
  | .reclassified t =>
    match w.tasks.get? t with
    | none => w
    | some task =>
      if task.phase = .watching ∧ task.cancelled = false then
        ((w.pending.get? task.sid).elim w fun p =>
          w.act rules (.retasked task.sid p.sniffTask false)).setPhase t task .sniffing
      else w
  | .watchEnded t state =>
    match w.tasks.get? t with
    | none => w
    | some task =>
      if task.phase = .watching ∧ task.cancelled = false then
        (w.act rules (.unclaimedClosed task.sid state)).finish t task
      else w
  | .connectionEnded t =>
    match w.tasks.get? t with
    | none => w
    | some task => if task.phase = .connected then w.finish t task else w
  | .dismissed t =>
    match w.tasks.get? t with
    | none => w
    | some task =>
      if w.unused t then { w with tasks := w.tasks.set t { task with cancelled := true } } else w
  | .taskCancelled t =>
    match w.tasks.get? t with
    | none => w
    | some task => if task.cancelled then w.finish t task else w
  | .called call kind sid =>
    match w.pending.get? sid, w.calls.get? call with
    | some p, none => w.pause rules call kind sid p
    | _, _ => w
  | .passedOver sid => w.resume rules sid
  | .cancel call =>
    match w.calls.get? call with
    | none => w
    | some c =>
      match c.phase with
      | .draining t _ => { w with calls := w.calls.set call { c with phase := .draining t true } }
      | .probing => w.abort rules call c.kind c.sid
  | .drained call =>
    match w.calls.get? call with
    | none => w
    | some c =>
      match c.phase with
      | .draining t cancelled =>
        if w.isFinished t then
          if cancelled then w.abort rules call c.kind c.sid else w.paused rules call c.kind c.sid
        else w
      | .probing => w
  | .probed call isMatch =>
    match w.calls.get? call with
    | none => w
    | some c =>
      match c.phase with
      | .draining _ _ => w
      | .probing =>
        if isMatch = true ∧ c.kind = .routePn then (w.act rules (.claim c.sid)).drop call
        else (w.resume rules c.sid).drop call

def KeepsTasks (l l' : SharedListener) : Prop :=
  ∀ k p, l'.pending.get? k = some p → ∃ before, l.pending.get? k = some before ∧
    p.sniffTask = before.sniffTask

namespace KeepsTasks
open SharedListener
variable {l l' l'' : SharedListener} (rules : Rules)

theorem of_same (same : l'.pending = l.pending) : KeepsTasks l l' :=
  fun _ p held => ⟨p, same ▸ held, rfl⟩

theorem trans (first : KeepsTasks l l') (second : KeepsTasks l' l'') : KeepsTasks l l'' := by
  intro k p held
  obtain ⟨between, held', task'⟩ := second k p held
  obtain ⟨before, held'', task''⟩ := first k between held'
  exact ⟨before, held'', task'.trans task''⟩

theorem removePending (k : String) : KeepsTasks l (l.removePending k) := by
  intro key p held
  simp only [SharedListener.removePending, Dict.get?_erase] at held
  split at held
  · cases held
  · exact ⟨p, held, rfl⟩

theorem closeUnclaimed (k : String) (state : SessionState) :
    KeepsTasks l (l.closeUnclaimed k state) :=
  (removePending k).trans (of_same (updateEntry_pending _ _ _))

theorem closeAll (items : List (String × Pending)) (l : SharedListener) :
    KeepsTasks l (items.foldl (fun l item => l.closeUnclaimed item.1 .parkedEvicted) l) := by
  induction items generalizing l with
  | nil => exact of_same rfl
  | cons item rest ih => exact (closeUnclaimed item.1 .parkedEvicted).trans (ih _)

theorem park {m : SharedListener} {p : Pending} (held : l.pending.get? p.sessionId = some p)
    (kept : KeepsTasks l m) (chunk : Bytes) (state : SessionState) :
    KeepsTasks l (m.parkUnclaimed p chunk state) := by
  have evicted : KeepsTasks l (m.evictParkedSockets p.sessionId) := kept.trans (closeAll _ m)
  intro k q found
  simp only [parkUnclaimed, markState, updateEntry_pending, Dict.get?_set] at found
  split at found
  · rename_i hit
    cases Option.some.inj found
    exact ⟨p, hit ▸ held, rfl⟩
  · exact evicted k q found

theorem noted (p : Pending) (chunk : Bytes) : KeepsTasks l (l.noted rules p chunk) := by
  refine (removePending p.sessionId).trans (of_same ?_)
  rw [noted_pending]
  rfl

theorem routeOn {m : SharedListener} {p : Pending} (held : l.pending.get? p.sessionId = some p)
    (kept : KeepsTasks l m) (wire : Wire) (first : FirstChunk) :
    KeepsTasks l (m.routeOn rules wire p first).1 := by
  unfold SharedListener.routeOn
  dsimp only
  split
  · refine kept.trans (of_same ?_)
    rw [bindSniffed_pending, setLinks_pending]
  · exact park held (kept.trans (of_same (setLinks_pending _ _ _))) _ _

theorem sniffed {p : Pending} (held : l.pending.get? p.sessionId = some p) (chunk : Bytes)
    (exhausted : Bool) : KeepsTasks l (l.sniffed rules p.sessionId chunk exhausted).1 := by
  rcases sniffed_cases rules chunk exhausted held with ⟨-, -, closed⟩ | ⟨state, alive, parked⟩ |
    short | exclusive | ⟨-, -, routed⟩
  · rw [closed]
    exact closeUnclaimed _ _
  · rw [parked]
    exact park held (of_same rfl) _ _
  · rw [short]
    exact park held (of_same (updateEntry_pending _ _ _)) _ _
  · rw [exclusive]
    exact park held (noted rules p chunk) _ _
  · rw [routed]
    exact routeOn rules held (noted rules p chunk) _ _

theorem markAll_pending (sids : List String) (state : SessionState) (l : SharedListener) :
    (sids.foldl (fun l k => l.markState k state) l).pending = l.pending := by
  induction sids generalizing l with
  | nil => rfl
  | cons k rest ih => rw [List.foldl_cons, ih, markState, updateEntry_pending]

theorem socketSessionClosed_pending (wire : Wire) (k : String) (c : Nat) :
    (l.socketSessionClosed wire k c).pending = l.pending := by
  unfold socketSessionClosed
  split
  · rfl
  · dsimp only
    split <;> simp [markState]

theorem taskless {s : Shared} (a : Action) (plain : a.taskless = true) :
    KeepsTasks s.listener (step rules s a).listener := by
  cases a with
  | accept | sniffed | retasked => cases plain
  | identified sid pn source =>
    simp only [step, withListener]
    exact of_same (markIdentity_pending _ _ _)
  | firstBytes sid chunk => exact of_same (updateEntry_pending _ _ _)
  | buffered sid bytes =>
    simp only [step, withListener, updatePending]
    split
    · exact of_same rfl
    · rename_i p held
      intro k q found
      rw [Dict.get?_set] at found
      split at found
      · rename_i hit
        cases Option.some.inj found
        exact ⟨p, hit ▸ held, rfl⟩
      · exact ⟨q, found, rfl⟩
  | marked sid state =>
    simp only [step, withListener]
    split
    · exact of_same rfl
    · exact of_same (updateEntry_pending _ _ _)
  | unclaimedClosed sid state =>
    simp only [step, withListener]
    split
    · exact closeUnclaimed sid state
    · exact of_same rfl
  | pendingDropped sid => exact removePending sid
  | pendingClosed sid => exact of_same (updateEntry_pending _ _ _)
  | claim sid =>
    simp only [step]
    split
    · exact of_same rfl
    · exact closeUnclaimed sid .claimed
  | activate wire sid collectorIp collectorPn =>
    simp only [step]
    split
    · exact of_same rfl
    · exact of_same (activate_spec rules wire _ collectorIp collectorPn).2.1
  | ensure wire collectorIp collectorPn => exact of_same (setLinks_pending _ _ _)
  | connectionState wire connection connected => exact of_same (setLinks_pending _ _ _)
  | socketClosed run =>
    simp only [step, withListener]
    split
    · exact of_same (socketSessionClosed_pending run.wire run.sid run.connection)
    · exact of_same rfl
  | connectionDropped wire connection =>
    simp only [step, withListener, dropConnectionIndexes]
    exact of_same ((markAll_pending _ _ _).trans (setLinks_pending _ _ _))
  | peersPopped wire ips => exact of_same (setLinks_pending _ _ _)
  | indexesDropped wire connections => exact of_same (setLinks_pending _ _ _)
  | routeRegistered | routeDropped | ownersChanged => exact of_same rfl

end KeepsTasks

end Listener
