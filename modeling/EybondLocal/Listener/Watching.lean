import EybondLocal.Listener.Watchers

/-!
Every registered socket is watched: it has a running task, or a call in progress holds it. The
invariant survives every interleaving of the tasks, the listener and the calls, and every
cancellation of an identify call; a cancelled call of another kind breaks it.
-/
namespace Listener
open StripText OrderedDict BinaryFraming Execution

def Watchers.Alive (w : Watchers) (k : String) (t : Nat) : Prop :=
  ∃ task, w.tasks.get? t = some task ∧ task.sid = k ∧
    (task.phase = .sniffing ∨ task.phase = .watching) ∧ task.cancelled = false

def Watchers.Held (w : Watchers) (k : String) : Prop :=
  ∃ call c, w.calls.get? call = some c ∧ c.sid = k

/-- A registered socket has a running task or a call holds it; `spare` may have neither. A call
    that was cancelled while it drains is an identify call. -/
structure Armed (spare : Option String) (w : Watchers) : Prop where
  tracked : Tracked w.shared
  numbered : ∀ t task, w.tasks.get? t = some task → t < w.nextTask
  alive : ∀ k p t, w.pending.get? k = some p → p.sniffTask = some t → w.Alive k t
  held : ∀ k p, spare ≠ some k → w.pending.get? k = some p → p.sniffTask = none → w.Held k
  polite : ∀ call c t, w.calls.get? call = some c → c.phase = .draining t true → c.kind = .identify

namespace Armed
variable {rules : Rules} {w : Watchers} {spare : Option String}

theorem start (port : Nat) : Armed none (Watchers.start port) where
  tracked := Tracked.start port
  numbered _ _ held := by cases held
  alive _ _ _ held := by cases held
  held _ _ _ held := by cases held
  polite _ _ _ held := by cases held

theorem settle {k : String} (armed : Armed (some k) w)
    (settled : ∀ p, w.pending.get? k = some p → p.sniffTask = none → w.Held k) : Armed none w := by
  refine ⟨armed.tracked, armed.numbered, armed.alive, fun key p _ found idle => ?_, armed.polite⟩
  by_cases same : key = k
  · exact same ▸ settled p (same ▸ found) idle
  · exact armed.held key p (fun hit => same (Option.some.inj hit).symm) found idle

theorem spareAny (armed : Armed none w) (k : String) : Armed (some k) w :=
  ⟨armed.tracked, armed.numbered, armed.alive, fun key p _ => armed.held key p (by simp),
    armed.polite⟩

theorem of_keeps (armed : Armed spare w) {a : Action}
    (kept : KeepsTasks w.shared.listener (step rules w.shared a).listener) :
    Armed spare (w.act rules a) := by
  refine ⟨tracked_step rules a armed.tracked, armed.numbered, ?_, ?_, armed.polite⟩
  · intro k p t found task
    obtain ⟨before, was, same⟩ := kept k p found
    exact armed.alive k before t was (same ▸ task)
  · intro k p other found idle
    obtain ⟨before, was, same⟩ := kept k p found
    exact armed.held k before other was (same ▸ idle)

theorem act (armed : Armed spare w) (a : Action) (plain : a.taskless = true) :
    Armed spare (w.act rules a) := armed.of_keeps (KeepsTasks.taskless rules a plain)

theorem setTask (armed : Armed spare w) {t : Nat} {task changed : SniffTask}
    (found : w.tasks.get? t = some task)
    (used : ∀ k p, w.pending.get? k = some p → p.sniffTask = some t →
      changed.sid = k ∧ (changed.phase = .sniffing ∨ changed.phase = .watching) ∧
        changed.cancelled = false) :
    Armed spare { w with tasks := w.tasks.set t changed } := by
  refine ⟨armed.tracked, ?_, ?_, armed.held, armed.polite⟩
  · intro t' task' held
    have held : (w.tasks.set t changed).get? t' = some task' := held
    rw [Dict.get?_set] at held
    split at held
    · rename_i hit
      exact hit ▸ armed.numbered t task found
    · exact armed.numbered t' task' held
  · intro k p t' registered own
    by_cases same : t' = t
    · obtain ⟨sid, phase, running⟩ := used k p registered (same ▸ own)
      exact ⟨changed, by simp [same], sid, phase, running⟩
    · obtain ⟨task', held, rest⟩ := armed.alive k p t' registered own
      exact ⟨task', by simpa [same] using held, rest⟩

theorem setCall (armed : Armed spare w) {call : Nat} {c : PauseCall}
    (fresh : ∀ c', w.calls.get? call = some c' → c'.sid = c.sid)
    (polite : ∀ t, c.phase = .draining t true → c.kind = .identify) :
    Armed spare { w with calls := w.calls.set call c } := by
  refine ⟨armed.tracked, armed.numbered, armed.alive, ?_, ?_⟩
  · intro k p other found idle
    obtain ⟨call', c', held, sid⟩ := armed.held k p other found idle
    by_cases same : call' = call
    · exact ⟨call, c, by simp, (fresh c' (same ▸ held)).symm.trans sid⟩
    · exact ⟨call', c', by simpa [same] using held, sid⟩
  · intro call' c' t held
    have held : (w.calls.set call c).get? call' = some c' := held
    rw [Dict.get?_set] at held
    split at held
    · cases Option.some.inj held
      exact polite t
    · exact armed.polite call' c' t held

theorem drop {k : String} (armed : Armed (some k) w) {call : Nat}
    (own : ∀ c, w.calls.get? call = some c → c.sid = k) : Armed (some k) (w.drop call) := by
  refine ⟨armed.tracked, armed.numbered, armed.alive, ?_, ?_⟩
  · intro key p other found idle
    obtain ⟨call', c', held, sid⟩ := armed.held key p other found idle
    have ne : call' ≠ call := by
      rintro rfl
      exact other (congrArg some ((own c' held).symm.trans sid))
    exact ⟨call', c', by simpa [Watchers.drop, ne] using held, sid⟩
  · intro call' c' t held
    simp only [Watchers.drop, Dict.get?_erase] at held
    split at held
    · cases held
    · exact armed.polite call' c' t held

theorem retasked_pending (rules : Rules) {sid : String} {task : Option Nat} {parked : Bool} {k : String} {p : Pending}
    (found : (w.act rules (.retasked sid task parked)).pending.get? k = some p) :
    (k = sid ∧ p.sniffTask = task) ∨ (k ≠ sid ∧ w.pending.get? k = some p) := by
  simp only [Watchers.act, Watchers.pending, step, withListener,
    SharedListener.updatePending] at found
  split at found
  · rename_i absent
    by_cases same : k = sid
    · rw [same, absent] at found
      cases found
    · exact Or.inr ⟨same, found⟩
  · rw [Dict.get?_set] at found
    split at found
    · rename_i hit
      cases Option.some.inj found
      exact Or.inl ⟨hit, rfl⟩
    · exact Or.inr ⟨‹_›, found⟩

theorem clear (armed : Armed none w) (sid : String) (parked : Bool) :
    Armed (some sid) (w.act rules (.retasked sid none parked)) := by
  refine ⟨tracked_step rules (.retasked sid none parked) armed.tracked, armed.numbered, ?_, ?_, armed.polite⟩
  · intro k p t found own
    rcases retasked_pending rules found with ⟨-, none⟩ | ⟨-, was⟩
    · rw [none] at own
      cases own
    · exact armed.alive k p t was own
  · intro k p other found idle
    rcases retasked_pending rules found with ⟨same, -⟩ | ⟨-, was⟩
    · exact absurd (congrArg some same.symm) other
    · exact armed.held k p (by simp) was idle

theorem spawn {sid : String} (armed : Armed (some sid) w) {phase : TaskPhase}
    (running : phase = .sniffing ∨ phase = .watching) : Armed none (w.spawn rules sid phase) := by
  have tracked := tracked_step rules (.retasked sid (some w.nextTask) (phase = .watching))
    armed.tracked
  refine ⟨tracked, ?_, ?_, ?_, armed.polite⟩
  · intro t task held
    have held : (w.tasks.set w.nextTask ⟨sid, phase, false⟩).get? t = some task := held
    show t < w.nextTask + 1
    rw [Dict.get?_set] at held
    split at held
    · omega
    · have := armed.numbered t task held
      omega
  · intro k p t found own
    rcases retasked_pending rules found with ⟨rfl, new⟩ | ⟨-, was⟩
    · cases Option.some.inj (own.symm.trans new)
      exact ⟨⟨k, phase, false⟩, by simp [Watchers.spawn], rfl, running, rfl⟩
    · obtain ⟨task, held, rest⟩ := armed.alive k p t was own
      have ne : t ≠ w.nextTask := Nat.ne_of_lt (armed.numbered t task held)
      exact ⟨task, by simpa [Watchers.spawn, ne] using held, rest⟩
  · intro k p _ found idle
    rcases retasked_pending rules found with ⟨rfl, new⟩ | ⟨ne, was⟩
    · rw [new] at idle
      cases idle
    · exact armed.held k p (fun hit => ne (Option.some.inj hit).symm) was idle

theorem resume {sid : String} (armed : Armed (some sid) w) : Armed none (w.resume rules sid) := by
  unfold Watchers.resume
  split
  · rename_i absent
    exact armed.settle fun p found => by
      rw [absent] at found
      cases found
  · rename_i p found
    split
    · rename_i runs
      refine armed.settle fun q again idle => ?_
      cases Option.some.inj (again.symm.trans found)
      rw [Watchers.runs, idle] at runs
      cases runs
    · exact armed.spawn (Or.inr rfl)

theorem dropSettled (armed : Armed none w) {call : Nat} {k : String}
    (own : ∀ c, w.calls.get? call = some c → c.sid = k)
    (served : ∀ p, w.pending.get? k = some p → p.sniffTask ≠ none) : Armed none (w.drop call) :=
  ((armed.spareAny k).drop own).settle fun p found idle => absurd idle (served p found)

theorem paused {call : Nat} {kind : CallKind} {sid : String} (armed : Armed (some sid) w)
    (own : ∀ c, w.calls.get? call = some c → c.sid = sid) :
    Armed none (w.paused rules call kind sid) := by
  have removed : ∀ a : Action, a.taskless = true →
      (w.act rules a).pending.get? sid = none → Armed none ((w.act rules a).drop call) := by
    intro a plain gone
    refine ((armed.act a plain).drop own).settle fun p found => ?_
    have found : (w.act rules a).pending.get? sid = some p := found
    rw [gone] at found
    cases found
  have claimed : ∀ p, w.pending.get? sid = some p →
      (w.act rules (.claim sid)).pending.get? sid = none := by
    intro p found
    have found : w.shared.listener.pending.get? sid = some p := found
    simp [Watchers.act, Watchers.pending, step, found, SharedListener.claimPending,
      SharedListener.markState, SharedListener.removePending]
  have probing : (kind = .routePn ∨ kind = .identify) →
      Armed none { w with calls := w.calls.set call ⟨kind, sid, .probing⟩ } := by
    intro _
    refine (armed.setCall own (fun _ draining => by cases draining)).settle fun p _ _ => ?_
    exact ⟨call, ⟨kind, sid, .probing⟩, by simp, rfl⟩
  unfold Watchers.paused
  split
  · rename_i absent
    refine (armed.drop own).settle fun p found => ?_
    have found : w.pending.get? sid = some p := found
    rw [absent] at found
    cases found
  · rename_i p found
    cases kind with
    | route => exact removed _ rfl (claimed p found)
    | transparent => exact removed _ rfl (claimed p found)
    | retire =>
      refine removed _ rfl ?_
      have found : w.shared.listener.pending.get? sid = some p := found
      simp [Watchers.act, Watchers.pending, step, found, withListener,
        SharedListener.closeUnclaimed, SharedListener.markState, SharedListener.removePending]
    | unregister =>
      have spawned : Armed none (w.spawn rules sid .sniffing) := armed.spawn (Or.inl rfl)
      refine spawned.dropSettled own fun q again idle => ?_
      rcases retasked_pending rules again with ⟨-, new⟩ | ⟨ne, -⟩
      · rw [new] at idle
        cases idle
      · exact ne rfl
    | routePn => exact probing (Or.inl rfl)
    | identify => exact probing (Or.inr rfl)

theorem resumed_task {sid : String} {p : Pending}
    (found : (w.resume rules sid).pending.get? sid = some p) : p.sniffTask ≠ none := by
  intro idle
  unfold Watchers.resume at found
  split at found
  · rename_i absent
    rw [absent] at found
    cases found
  · rename_i q registered
    split at found
    · rename_i runs
      cases Option.some.inj (found.symm.trans registered)
      rw [Watchers.runs, idle] at runs
      cases runs
    · rcases retasked_pending rules found with ⟨-, new⟩ | ⟨ne, -⟩
      · rw [new] at idle
        cases idle
      · exact ne rfl

theorem resume_calls (sid : String) : (w.resume rules sid).calls = w.calls := by
  unfold Watchers.resume
  split
  · rfl
  · split <;> rfl

theorem resumeAndDrop {call : Nat} {sid : String} (armed : Armed none w)
    (own : ∀ c, w.calls.get? call = some c → c.sid = sid) :
    Armed none ((w.resume rules sid).drop call) := by
  refine (armed.spareAny sid).resume.dropSettled (fun c held => ?_) fun p found => resumed_task found
  rw [resume_calls] at held
  exact own c held

theorem pause {call : Nat} {kind : CallKind} {sid : String} {p : Pending} (armed : Armed none w)
    (fresh : w.calls.get? call = none) (found : w.pending.get? sid = some p) :
    Armed none (w.pause rules call kind sid p) := by
  have cleared : Armed (some sid) (w.act rules (.retasked sid none p.parked)) :=
    armed.clear sid p.parked
  have own : ∀ c, (w.act rules (.retasked sid none p.parked)).calls.get? call = some c →
      c.sid = sid := by
    intro c held
    have held : w.calls.get? call = some c := held
    rw [fresh] at held
    cases held
  unfold Watchers.pause
  dsimp only
  split
  · exact cleared.paused own
  · rename_i t own'
    split
    · exact cleared.paused own
    · rename_i task known
      split
      · exact cleared.paused own
      · -- the cancelled task belongs to no registered socket any more
        have stopped : Armed (some sid) { w.act rules (.retasked sid none p.parked) with
            tasks := w.tasks.set t { task with cancelled := true } } := by
          refine cleared.setTask known fun k q registered uses => ?_
          rcases retasked_pending rules registered with ⟨-, none⟩ | ⟨ne, was⟩
          · rw [none] at uses
            cases uses
          · obtain ⟨task', held, sid', -⟩ := armed.alive k q t was uses
            obtain ⟨task'', held', sid'', -⟩ := armed.alive sid p t found own'
            cases Option.some.inj (held.symm.trans held')
            exact absurd (sid'.symm.trans sid'') ne
        refine (stopped.setCall own (fun _ draining => by cases draining)).settle fun q _ _ => ?_
        exact ⟨call, ⟨kind, sid, .draining t false⟩, by simp, rfl⟩

theorem alive_task (armed : Armed spare w) {k : String} {p : Pending} {t : Nat} {task : SniffTask}
    (registered : w.pending.get? k = some p) (uses : p.sniffTask = some t)
    (known : w.tasks.get? t = some task) :
    task.sid = k ∧ (task.phase = .sniffing ∨ task.phase = .watching) ∧ task.cancelled = false := by
  obtain ⟨task', held, rest⟩ := armed.alive k p t registered uses
  cases Option.some.inj (held.symm.trans known)
  exact rest

theorem setTaskOf (armed : Armed none w) {w' : Watchers} (armed' : Armed none w') {t : Nat}
    {task changed : SniffTask} (known : w.tasks.get? t = some task) (same : w'.tasks = w.tasks)
    (from' : ∀ k p, w'.pending.get? k = some p → p.sniffTask = some t →
      ∃ before, w.pending.get? k = some before ∧ before.sniffTask = some t)
    (gone : w'.pending.get? task.sid = none) :
    Armed none { w' with tasks := w'.tasks.set t changed } := by
  refine armed'.setTask (same ▸ known) fun k p registered uses => ?_
  obtain ⟨before, was, had⟩ := from' k p registered uses
  obtain ⟨sid, -, -⟩ := armed.alive_task was had known
  rw [← sid, gone] at registered
  cases registered

theorem keeps_from {a : Action} {t : Nat}
    (kept : KeepsTasks w.shared.listener (step rules w.shared a).listener) :
    ∀ k p, (w.act rules a).pending.get? k = some p → p.sniffTask = some t →
      ∃ before, w.pending.get? k = some before ∧ before.sniffTask = some t := by
  intro k p found uses
  obtain ⟨before, was, same⟩ := kept k p found
  exact ⟨before, was, same ▸ uses⟩

/-- A sniff keeps the tasks, and only a parked socket stays registered. -/
theorem sniffed_keeps (rules : Rules) (armed : Armed none w) (sid : String) (chunk : Bytes) (exhausted : Bool) :
    KeepsTasks w.shared.listener (step rules w.shared (.sniffed sid chunk exhausted)).listener ∧
      ((w.shared.listener.sniffed rules sid chunk exhausted).2 ≠ .parked →
        (w.act rules (.sniffed sid chunk exhausted)).pending.get? sid = none) := by
  unfold Watchers.act Watchers.pending
  dsimp only
  rw [sniffed_step_listener]
  cases held : w.shared.listener.pending.get? sid with
  | none =>
    have same : w.shared.listener.sniffed rules sid chunk exhausted = (w.shared.listener, .gone) := by
      simp [SharedListener.sniffed, held]
    rw [same]
    exact ⟨KeepsTasks.of_same rfl, fun _ => held⟩
  | some p =>
    cases armed.tracked.pendingKey sid p held
    refine ⟨KeepsTasks.sniffed rules held chunk exhausted, fun left => ?_⟩
    obtain ⟨-, placed⟩ := SharedListener.sniffed_spec rules chunk exhausted held
      armed.tracked.pendingUnbound
    cases outcome : (w.shared.listener.sniffed rules p.sessionId chunk exhausted).2 with
    | parked => exact absurd outcome left
    | closed =>
      rw [outcome] at placed
      exact placed.1
    | bound wire c =>
      rw [outcome] at placed
      exact placed.1
    | gone =>
      rcases SharedListener.sniffed_cases rules chunk exhausted held with ⟨-, -, closed⟩ |
        ⟨state, alive, parked⟩ | short | exclusive | ⟨-, -, routed⟩
      · rw [closed] at outcome
        cases outcome
      · rw [parked] at outcome
        cases outcome
      · rw [short] at outcome
        cases outcome
      · rw [exclusive] at outcome
        cases outcome
      · rw [routed] at outcome
        exact absurd outcome (SharedListener.routeOn_moving rules _ p _).1

theorem sniffed (armed : Armed none w) (t : Nat) (chunk : Bytes) (exhausted : Bool) :
    Armed none (react rules w (.sniffed t chunk exhausted)) := by
  simp only [react]
  split
  · exact armed
  · rename_i task known
    split
    · obtain ⟨kept, left⟩ := armed.sniffed_keeps rules task.sid chunk exhausted
      have acted := armed.of_keeps kept
      split
      · rename_i gone
        exact armed.setTaskOf acted known rfl (keeps_from kept) (left (by rw [gone]; simp))
      · rename_i closed
        exact armed.setTaskOf acted known rfl (keeps_from kept) (left (by rw [closed]; simp))
      · refine acted.setTask known fun k p registered uses => ?_
        obtain ⟨before, was, had⟩ := keeps_from kept k p registered uses
        obtain ⟨sid, -, running⟩ := armed.alive_task was had known
        exact ⟨sid, Or.inr rfl, running⟩
      · rename_i bound
        exact armed.setTaskOf acted known rfl (keeps_from kept) (left (by rw [bound]; simp))
    · exact armed

theorem accept (armed : Armed none w) (peer : PeerAddress) (remotePort : Option Int) :
    Armed none (react rules w (.accept (some peer) remotePort)) := by
  have named : peer.ip ≠ "" := fun blank => peer.visible (by rw [blank, strip_empty])
  have tracked := tracked_step rules (.accept (some peer) remotePort w.nextTask) armed.tracked
  have registered : ∀ k p, (react rules w (.accept (some peer) remotePort)).pending.get? k = some p →
      (k = w.shared.listener.nextSessionId ∧ p.sniffTask = some w.nextTask) ∨
        w.pending.get? k = some p := by
    intro k p found
    have found : (w.shared.listener.accept peer.ip remotePort w.nextTask).pending.get? k = some p :=
      found
    rw [SharedListener.accept_pending named] at found
    split at found
    · rename_i hit
      cases Option.some.inj found
      exact Or.inl ⟨hit, rfl⟩
    · exact Or.inr found
  refine ⟨tracked, ?_, ?_, ?_, armed.polite⟩
  · intro t task held
    have held : (w.tasks.set w.nextTask _).get? t = some task := held
    show t < w.nextTask + 1
    rw [Dict.get?_set] at held
    split at held
    · omega
    · have := armed.numbered t task held
      omega
  · intro k p t found uses
    rcases registered k p found with ⟨rfl, new⟩ | was
    · cases Option.some.inj (uses.symm.trans new)
      exact ⟨_, (Dict.get?_set _ _ _ _).trans (if_pos rfl), rfl, Or.inl rfl, rfl⟩
    · obtain ⟨task, held, rest⟩ := armed.alive k p t was uses
      have ne : t ≠ w.nextTask := Nat.ne_of_lt (armed.numbered t task held)
      exact ⟨task, ((Dict.get?_set _ _ _ _).trans (if_neg ne)).trans held, rest⟩
  · intro k p _ found idle
    rcases registered k p found with ⟨-, new⟩ | was
    · rw [new] at idle
      cases idle
    · exact armed.held k p (by simp) was idle

theorem reclassified (armed : Armed none w) (t : Nat) :
    Armed none (react rules w (.reclassified t)) := by
  simp only [react]
  split
  · exact armed
  · rename_i task known
    split
    · cases found : w.pending.get? task.sid with
      | none =>
        refine armed.setTask known fun k p registered uses => ?_
        obtain ⟨sid, -, running⟩ := armed.alive_task registered uses known
        exact ⟨sid, Or.inl rfl, running⟩
      | some p =>
        have kept : KeepsTasks w.shared.listener
            (step rules w.shared (.retasked task.sid p.sniffTask false)).listener := by
          intro k q registered
          rcases retasked_pending rules registered with ⟨same, task'⟩ | ⟨-, was⟩
          · exact ⟨p, same ▸ found, task'⟩
          · exact ⟨q, was, rfl⟩
        refine (armed.of_keeps kept).setTask known fun k q registered uses => ?_
        obtain ⟨before, was, had⟩ := keeps_from kept k q registered uses
        obtain ⟨sid, -, running⟩ := armed.alive_task was had known
        exact ⟨sid, Or.inl rfl, running⟩
    · exact armed

theorem watchEnded (armed : Armed none w) (t : Nat) (state : SessionState) :
    Armed none (react rules w (.watchEnded t state)) := by
  simp only [react]
  split
  · exact armed
  · rename_i task known
    split
    · have kept : KeepsTasks w.shared.listener
          (step rules w.shared (.unclaimedClosed task.sid state)).listener :=
        KeepsTasks.taskless rules _ rfl
      refine armed.setTaskOf (armed.of_keeps kept) known rfl (keeps_from kept) ?_
      cases found : w.shared.listener.pending.get? task.sid with
      | none => simp [Watchers.act, Watchers.pending, step, found]
      | some p =>
        simp [Watchers.act, Watchers.pending, step, found, withListener,
          SharedListener.closeUnclaimed, SharedListener.markState, SharedListener.removePending]
    · exact armed

theorem setIdleTask (armed : Armed none w) {t : Nat} {task : SniffTask} (changed : SniffTask)
    (known : w.tasks.get? t = some task)
    (idle : ∀ k p, w.pending.get? k = some p → p.sniffTask ≠ some t) :
    Armed none { w with tasks := w.tasks.set t changed } :=
  armed.setTask known fun k p registered uses => absurd uses (idle k p registered)

theorem connectionEnded (armed : Armed none w) (t : Nat) :
    Armed none (react rules w (.connectionEnded t)) := by
  simp only [react]
  split
  · exact armed
  · rename_i task known
    split
    · rename_i connected
      refine armed.setIdleTask _ known fun k p registered uses => ?_
      obtain ⟨-, phase, -⟩ := armed.alive_task registered uses known
      rw [connected] at phase
      rcases phase with h | h <;> cases h
    · exact armed

theorem dismissed (armed : Armed none w) (t : Nat) :
    Armed none (react rules w (.dismissed t)) := by
  simp only [react]
  split
  · exact armed
  · rename_i task known
    split
    · rename_i unused
      refine armed.setIdleTask _ known fun k p registered => ?_
      have listed := Dict.mem_values.mpr ⟨k, registered⟩
      simpa using List.all_eq_true.mp unused p listed
    · exact armed

theorem taskCancelled (armed : Armed none w) (t : Nat) :
    Armed none (react rules w (.taskCancelled t)) := by
  simp only [react]
  split
  · exact armed
  · rename_i task known
    split
    · rename_i cancelled
      refine armed.setIdleTask _ known fun k p registered uses => ?_
      obtain ⟨-, -, running⟩ := armed.alive_task registered uses known
      rw [cancelled] at running
      cases running
    · exact armed

theorem own_call {call : Nat} {c : PauseCall} (held : w.calls.get? call = some c) :
    ∀ c', w.calls.get? call = some c' → c'.sid = c.sid := by
  intro c' again
  cases Option.some.inj (again.symm.trans held)
  rfl

theorem abortIdentify {call : Nat} {c : PauseCall} (armed : Armed none w)
    (held : w.calls.get? call = some c) (identify : c.kind = .identify) :
    Armed none (w.abort rules call c.kind c.sid) := by
  rw [identify]
  exact armed.resumeAndDrop (own_call held)

theorem cancel (armed : Armed none w) (call : Nat)
    (identify : ∀ c, w.calls.get? call = some c → c.kind = .identify) :
    Armed none (react rules w (.cancel call)) := by
  simp only [react]
  split
  · exact armed
  · rename_i c held
    split
    · refine armed.setCall (fun c' again => ?_) fun _ _ => identify c held
      exact own_call held c' again
    · exact armed.abortIdentify held (identify c held)

theorem drained (armed : Armed none w) (call : Nat) :
    Armed none (react rules w (.drained call)) := by
  simp only [react]
  split
  · exact armed
  · rename_i c held
    split
    · rename_i t cancelled draining
      split
      · split
        · rename_i requested
          have identify := armed.polite call c t held (by rw [draining, requested])
          exact armed.abortIdentify held identify
        · exact (armed.spareAny c.sid).paused (own_call held)
      · exact armed
    · exact armed

theorem probed (armed : Armed none w) (call : Nat) (isMatch : Bool) :
    Armed none (react rules w (.probed call isMatch)) := by
  simp only [react]
  split
  · exact armed
  · rename_i c held
    split
    · exact armed
    · split
      · have claimed : Armed none (w.act rules (.claim c.sid)) := armed.act _ rfl
        refine claimed.dropSettled (own_call held) fun p found => ?_
        cases registered : w.shared.listener.pending.get? c.sid with
        | none =>
          simp only [Watchers.act, Watchers.pending, step, registered] at found
          cases found
        | some q =>
          simp [Watchers.act, Watchers.pending, step, registered, SharedListener.claimPending,
            SharedListener.markState, SharedListener.removePending] at found
      · exact armed.resumeAndDrop (own_call held)

end Armed

/-- With no call in progress, every registered socket has a task that has not finished. -/
def Watched (w : Watchers) : Prop :=
  w.calls.items = [] → ∀ k p, w.pending.get? k = some p →
    ∃ t task, p.sniffTask = some t ∧ w.tasks.get? t = some task ∧ task.phase ≠ .finished

def Uncancelled (w : Watchers) : Event → Prop
  | .cancel call => ∀ c, w.calls.get? call = some c → c.kind = .identify
  | _ => True

theorem armed_react (rules : Rules) (w : Watchers) (e : Event) (armed : Armed none w)
    (uncancelled : Uncancelled w e) : Armed none (react rules w e) := by
  cases e with
  | accept peer remotePort =>
    cases peer with
    | none => exact armed
    | some peer => exact armed.accept peer remotePort
  | listener a =>
    simp only [react]
    split
    · rename_i plain
      exact armed.act a plain
    · exact armed
  | sniffed t chunk exhausted => exact armed.sniffed t chunk exhausted
  | reclassified t => exact armed.reclassified t
  | watchEnded t state => exact armed.watchEnded t state
  | connectionEnded t => exact armed.connectionEnded t
  | dismissed t => exact armed.dismissed t
  | taskCancelled t => exact armed.taskCancelled t
  | called call kind sid =>
    simp only [react]
    split
    · rename_i p found fresh
      exact armed.pause fresh found
    · exact armed
  | passedOver sid => exact (armed.spareAny sid).resume
  | cancel call => exact armed.cancel call uncancelled
  | drained call => exact armed.drained call
  | probed call isMatch => exact armed.probed call isMatch

theorem watched_of_armed {w : Watchers} (armed : Armed none w) : Watched w := by
  intro none k p registered
  cases task : p.sniffTask with
  | none =>
    obtain ⟨call, c, held, -⟩ := armed.held k p (by simp) registered task
    have listed := (Dict.get?_eq_some_iff _ _ _).mp held
    rw [none] at listed
    cases listed
  | some t =>
    obtain ⟨task', held, -, phase, -⟩ := armed.alive k p t registered task
    refine ⟨t, task', rfl, held, fun finished => ?_⟩
    rw [finished] at phase
    rcases phase with h | h <;> cases h

/-- While no other call is cancelled at a pause or a probe, a registered socket is always
    watched between calls. -/
theorem pending_sockets_watched (rules : Rules) (port : Nat) (events : List Event)
    (uncancelled : EveryStep (react rules) Uncancelled (Watchers.start port) events) :
    EveryState (react rules) Watched (Watchers.start port) events := by
  have armed := everyState_of_everyStep (armed_react rules) (Armed.start port) uncancelled
  exact everyState_mono (fun _ now => watched_of_armed now) armed

def strangerRules : Rules := ⟨fun _ _ => false, fun _ _ => false, fun _ => ("", "")⟩

def claimBegins : List Event :=
  [.accept (some ⟨"192.168.1.50", lanAddress_visible⟩) none, .called 0 .route "listener-8899-1"]

def claimCompletes : List Event := claimBegins ++ [.taskCancelled 0, .drained 0]

theorem completed_claim_watched :
    EveryStep (react strangerRules) Uncancelled (Watchers.start 8899) claimCompletes ∧
      EveryState (react strangerRules) Watched (Watchers.start 8899) claimCompletes := by
  have uncancelled : EveryStep (react strangerRules) Uncancelled (Watchers.start 8899)
      claimCompletes := ⟨trivial, trivial, trivial, trivial, trivial⟩
  exact ⟨uncancelled, pending_sockets_watched strangerRules 8899 claimCompletes uncancelled⟩

def claimCancelled : List Event := claimBegins ++ [.cancel 0, .taskCancelled 0, .drained 0]

theorem cancelled_claim_unwatched :
    ¬ EveryState (react strangerRules) Watched (Watchers.start 8899) claimCancelled := by
  intro every
  have last := everyState_run every
  have idle : (run (react strangerRules) (Watchers.start 8899) claimCancelled).calls.items = [] := by
    decide +kernel
  have left : (run (react strangerRules) (Watchers.start 8899) claimCancelled).pending.get?
      "listener-8899-1" = some { sessionId := "listener-8899-1", remoteIp := "192.168.1.50"
                                 remotePort := none } := by decide +kernel
  obtain ⟨t, task, own, -⟩ := last idle _ _ left
  cases own

end Listener
