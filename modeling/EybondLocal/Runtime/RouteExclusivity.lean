import EybondLocal.Runtime.RouteLease
import EybondLocal.Library.Execution

/-!
The callback route is exclusive under every schedule of starts and stops: what is published is
under its own lease, so never two routes at once and none is lost by being overwritten. The
schedules are those in which no start takes the owner id of a task still in flight, and no stop
begins while a stop that names no owner, or forces, is still waiting.
-/
namespace CallbackRoute
open StripText PythonObject Execution

def Task.start? : Task → Option (Mode × String)
  | .startingHandler mode owner => some (mode, owner)
  | .startingRoute mode owner => some (mode, owner)
  | .undoingRoute mode owner _ => some (mode, owner)
  | .undoingHandler mode owner _ => some (mode, owner)
  | _ => none

structure Stop where
  mode : Mode
  owner : String
  force : Bool
  taken : Nat
  deriving DecidableEq, Repr

def Task.stop? : Task → Option Stop
  | .stoppingRoute mode owner force taken => some ⟨mode, owner, force, taken⟩
  | .stoppingHandler mode owner force taken => some ⟨mode, owner, force, taken⟩
  | _ => none

def Stop.Unbound (stop : Stop) : Prop := stop.force = true ∨ strip stop.owner = ""

instance (stop : Stop) : Decidable stop.Unbound := inferInstanceAs (Decidable (_ ∨ _))

def Task.UnboundStop (mode : Mode) (task : Task) : Prop :=
  ∃ stop ∈ task.stop?, stop.mode = mode ∧ stop.Unbound

instance (mode : Mode) (task : Task) : Decidable (task.UnboundStop mode) :=
  inferInstanceAs (Decidable (∃ stop ∈ task.stop?, _))

def Task.owner? (task : Task) : Option String :=
  (task.start?.map fun start => strip start.2).or (task.stop?.map fun stop => strip stop.owner)

theorem Task.owner?_start {task : Task} {mode : Mode} {owner : String}
    (started : task.start? = some (mode, owner)) : task.owner? = some (strip owner) := by
  rw [Task.owner?, started]
  rfl

theorem Task.owner?_stop {task : Task} {stop : Stop} (stopped : task.stop? = some stop) :
    task.owner? = some (strip stop.owner) := by
  cases task <;> cases stopped <;> rfl

def Orderly (link : Link) : Action → Prop
  | .beginStart request _ => ∀ task ∈ link.tasks, task.owner? ≠ some (strip request.owner)
  | .beginStop mode _ _ => ∀ task ∈ link.tasks, ¬ task.UnboundStop mode
  | .resume _ _ => True

instance (link : Link) : (action : Action) → Decidable (Orderly link action)
  | .beginStart _ _ => inferInstanceAs (Decidable (∀ task ∈ link.tasks, _))
  | .beginStop _ _ _ => inferInstanceAs (Decidable (∀ task ∈ link.tasks, _))
  | .resume _ _ => isTrue trivial

namespace Link

def Starting (link : Link) (k : Nat) (mode : Mode) (owner : String) : Prop :=
  ∃ task, link.tasks[k]? = some task ∧ task.start? = some (mode, owner)

def Stopping (link : Link) (k : Nat) (stop : Stop) : Prop :=
  ∃ task, link.tasks[k]? = some task ∧ task.stop? = some stop

def Over (link : Link) (k : Nat) : Prop :=
  ∃ task, link.tasks[k]? = some task ∧ task.start? = none

structure Leased (link : Link) (mode : Mode) (n : Nat) (lease : RouteLease) : Prop where
  held : link.lease = some lease
  mode_eq : lease.mode = mode
  running : lease.state = .running
  taker : link.leasedTo = n
  handler : link.handlerRunning n = true

theorem Starting.not_over {link : Link} {k : Nat} {mode : Mode} {owner : String}
    (starting : link.Starting k mode owner) : ¬ link.Over k := by
  obtain ⟨task, found, started⟩ := starting
  rintro ⟨other, same, past⟩
  rw [found, Option.some.injEq] at same
  rw [← same, started] at past
  cases past

end Link

structure Owned (link : Link) : Prop where
  published_leased : ∀ mode n, link.published mode = some n →
    link.Over n ∧ ∃ lease, link.Leased mode n lease
  handler_runs : ∀ (k : Nat) (mode : Mode) (owner : String),
    link.tasks[k]? = some (.startingRoute mode owner) → link.handlerRunning k = true
  start_named : ∀ k mode owner, link.Starting k mode owner → strip owner ≠ ""
  /-- A lease with the owner id of a start in flight is the one that start took. -/
  start_owns : ∀ k mode owner, link.Starting k mode owner →
    ∀ lease, link.lease = some lease → strip lease.ownerId = strip owner →
      lease.mode = mode ∧ link.leasedTo = k
  stop_over : ∀ k stop, link.Stopping k stop → link.Over stop.taken
  stop_unpublished : ∀ k stop, link.Stopping k stop → ∀ mode, link.published mode ≠ some stop.taken
  stop_unique : ∀ j k first second, link.Stopping j first → link.Stopping k second →
    first.taken = second.taken → j = k
  /-- A lease with the owner id of a stop in flight is of the route that stop took down. -/
  stop_owns : ∀ k stop, link.Stopping k stop →
    ∀ lease, link.lease = some lease → strip lease.ownerId = strip stop.owner →
      link.leasedTo = stop.taken
  unbound_holds : ∀ k stop, link.Stopping k stop → stop.Unbound →
    ∃ lease, link.lease = some lease ∧ lease.mode = stop.mode ∧ link.leasedTo = stop.taken

theorem Owned.advance {link next : Link} (owned : Owned link) (lease : next.lease = link.lease)
    (leasedTo : next.leasedTo = link.leasedTo) (published : next.published = link.published)
    (starting : ∀ k mode owner, next.Starting k mode owner → link.Starting k mode owner)
    (stopping : ∀ k stop, next.Stopping k stop → link.Stopping k stop)
    (past : ∀ k, link.Over k → next.Over k)
    (handlers : ∀ mode n, link.published mode = some n → next.handlerRunning n = true)
    (pending : ∀ (k : Nat) (mode : Mode) (owner : String),
      next.tasks[k]? = some (.startingRoute mode owner) → next.handlerRunning k = true) :
    Owned next where
  published_leased mode n shown := by
    rw [published] at shown
    obtain ⟨done, ℓ, leased⟩ := owned.published_leased mode n shown
    exact ⟨past n done, ℓ, lease.trans leased.held, leased.mode_eq, leased.running,
      leasedTo.trans leased.taker, handlers mode n shown⟩
  handler_runs := pending
  start_named k mode owner flying := owned.start_named k mode owner (starting k mode owner flying)
  start_owns k mode owner flying := by
    rw [lease, leasedTo]
    exact owned.start_owns k mode owner (starting k mode owner flying)
  stop_over k stop flying := past _ (owned.stop_over k stop (stopping k stop flying))
  stop_unpublished k stop flying := by
    rw [published]
    exact owned.stop_unpublished k stop (stopping k stop flying)
  stop_unique j k first second flying other :=
    owned.stop_unique j k first second (stopping j first flying) (stopping k second other)
  stop_owns k stop flying := by
    rw [lease, leasedTo]
    exact owned.stop_owns k stop (stopping k stop flying)
  unbound_holds k stop flying := by
    rw [lease, leasedTo]
    exact owned.unbound_holds k stop (stopping k stop flying)

namespace Link
variable {link : Link} {j k : Nat} {mode : Mode} {owner : String} {stop : Stop} {task next : Task}

theorem retask_tasks_ne (link : Link) (task : Nat) (next : Task) {k : Nat} (other : k ≠ task) :
    (link.retask task next).tasks[k]? = link.tasks[k]? := by
  simp [retask, List.getElem?_set_ne (Ne.symm other)]

theorem retask_tasks_self (found : link.tasks[k]? = some task) (next : Task) :
    (link.retask k next).tasks[k]? = some next := by
  obtain ⟨bound, _⟩ := List.getElem?_eq_some_iff.mp found
  simp [retask, bound]

theorem Starting.of_retask (found : link.tasks[k]? = some task)
    (same : next.start? = none ∨ next.start? = task.start?) {mode : Mode} {owner : String}
    (starting : (link.retask k next).Starting j mode owner) : link.Starting j mode owner := by
  obtain ⟨current, at_j, started⟩ := starting
  by_cases other : j = k
  · subst other
    rw [retask_tasks_self found, Option.some.injEq] at at_j
    subst at_j
    rcases same with none | same
    · rw [none] at started
      cases started
    · exact ⟨task, found, same ▸ started⟩
  · rw [retask_tasks_ne link k next other] at at_j
    exact ⟨current, at_j, started⟩

theorem Stopping.of_retask (found : link.tasks[k]? = some task)
    (same : next.stop? = none ∨ next.stop? = task.stop?)
    (stopping : (link.retask k next).Stopping j stop) : link.Stopping j stop := by
  obtain ⟨current, at_j, stopped⟩ := stopping
  by_cases other : j = k
  · subst other
    rw [retask_tasks_self found, Option.some.injEq] at at_j
    subst at_j
    rcases same with none | same
    · rw [none] at stopped
      cases stopped
    · exact ⟨task, found, same ▸ stopped⟩
  · rw [retask_tasks_ne link k next other] at at_j
    exact ⟨current, at_j, stopped⟩

theorem Over.retask (found : link.tasks[k]? = some task)
    (same : next.start? = none ∨ next.start? = task.start?) (past : link.Over j) :
    (link.retask k next).Over j := by
  obtain ⟨current, at_j, ended⟩ := past
  by_cases other : j = k
  · subst other
    rw [found, Option.some.injEq] at at_j
    subst at_j
    exact ⟨next, retask_tasks_self found next, same.elim id fun same => same.trans ended⟩
  · exact ⟨current, (retask_tasks_ne link k next other).trans at_j, ended⟩

theorem push_tasks (link : Link) (task : Task) : (link.push task).tasks = link.tasks ++ [task] := rfl

theorem tasks_of_push {current : Task} (at_k : (link.push task).tasks[k]? = some current) :
    link.tasks[k]? = some current ∨ k = link.tasks.length ∧ current = task := by
  rw [push_tasks, List.getElem?_append] at at_k
  split at at_k
  · exact Or.inl at_k
  · rename_i beyond
    have last : k - link.tasks.length = 0 := by
      by_contra more
      rw [List.getElem?_eq_none (Nat.pos_of_ne_zero more)] at at_k
      cases at_k
    rw [last] at at_k
    exact Or.inr ⟨by omega, (Option.some.inj at_k).symm⟩

theorem Starting.of_push (starting : (link.push task).Starting k mode owner) :
    link.Starting k mode owner ∨ k = link.tasks.length ∧ task.start? = some (mode, owner) := by
  obtain ⟨current, at_k, started⟩ := starting
  rcases tasks_of_push at_k with old | ⟨last, rfl⟩
  · exact Or.inl ⟨current, old, started⟩
  · exact Or.inr ⟨last, started⟩

theorem Stopping.of_push (stopping : (link.push task).Stopping k stop) :
    link.Stopping k stop ∨ k = link.tasks.length ∧ task.stop? = some stop := by
  obtain ⟨current, at_k, stopped⟩ := stopping
  rcases tasks_of_push at_k with old | ⟨last, rfl⟩
  · exact Or.inl ⟨current, old, stopped⟩
  · exact Or.inr ⟨last, stopped⟩

theorem Over.push (past : link.Over k) (task : Task) : (link.push task).Over k := by
  obtain ⟨current, at_k, ended⟩ := past
  refine ⟨current, ?_, ended⟩
  rw [push_tasks, List.getElem?_append_left (List.getElem?_eq_some_iff.mp at_k).1]
  exact at_k

theorem setHandler_self (link : Link) (n : Nat) (running : Bool) :
    (link.setHandler n running).handlerRunning n = running := by simp [setHandler]

theorem setHandler_ne (link : Link) (running : Bool) {m n : Nat} (other : m ≠ n) :
    (link.setHandler n running).handlerRunning m = link.handlerRunning m := by
  simp [setHandler, other]

theorem setPublished_self (link : Link) (mode : Mode) (start : Option Nat) :
    (link.setPublished mode start).published mode = start := by simp [setPublished]

theorem setPublished_ne (link : Link) (start : Option Nat) {other mode : Mode}
    (ne : other ≠ mode) : (link.setPublished mode start).published other = link.published other := by
  simp [setPublished, ne]

end Link

section
variable {link : Link} {k n : Nat} {mode : Mode} {owner : String} {task next : Task} {stop : Stop}

theorem Owned.retask (owned : Owned link) (found : link.tasks[k]? = some task)
    (started : next.start? = none ∨ next.start? = task.start?)
    (stopped : next.stop? = none ∨ next.stop? = task.stop?)
    (waits : ∀ mode owner, next = .startingRoute mode owner → link.handlerRunning k = true) :
    Owned (link.retask k next) := by
  refine owned.advance rfl rfl rfl (fun _ _ _ => .of_retask found started)
    (fun _ _ => .of_retask found stopped) (fun _ => .retask found started) ?_ ?_
  · intro mode n shown
    obtain ⟨_, _, leased⟩ := owned.published_leased mode n shown
    exact leased.handler
  · intro j mode owner at_j
    by_cases same : j = k
    · subst same
      rw [Link.retask_tasks_self found, Option.some.injEq] at at_j
      exact waits mode owner at_j
    · rw [Link.retask_tasks_ne link k next same] at at_j
      exact owned.handler_runs j mode owner at_j

theorem Owned.push_finished (owned : Owned link) (raised : Option PyError) :
    Owned (link.push (.finished raised)) := by
  refine owned.advance rfl rfl rfl ?_ ?_ (fun _ past => past.push _) ?_ ?_
  · intro k mode owner flying
    rcases flying.of_push with old | ⟨_, started⟩
    · exact old
    · cases started
  · intro k stop flying
    rcases flying.of_push with old | ⟨_, stopped⟩
    · exact old
    · cases stopped
  · intro mode n shown
    obtain ⟨_, _, leased⟩ := owned.published_leased mode n shown
    exact leased.handler
  · intro k mode owner at_k
    rcases Link.tasks_of_push at_k with old | ⟨_, other⟩
    · exact owned.handler_runs k mode owner old
    · cases other

theorem Owned.setHandler (owned : Owned link) {running : Bool}
    (hidden : ∀ mode, link.published mode ≠ some n)
    (idle : ∀ mode owner, link.tasks[n]? = some (.startingRoute mode owner) → running = true) :
    Owned (link.setHandler n running) := by
  refine owned.advance rfl rfl rfl (fun _ _ _ => id) (fun _ _ => id) (fun _ => id) ?_ ?_
  · intro mode m shown
    obtain ⟨_, _, leased⟩ := owned.published_leased mode m shown
    have other : m ≠ n := by
      rintro rfl
      exact hidden mode shown
    exact (Link.setHandler_ne link running other).trans leased.handler
  · intro k mode owner at_k
    by_cases same : k = n
    · subst same
      exact (Link.setHandler_self link k running).trans (idle mode owner at_k)
    · exact (Link.setHandler_ne link running same).trans (owned.handler_runs k mode owner at_k)

theorem Owned.clear (owned : Owned link) (bare : ∀ mode, link.published mode = none)
    (bound : ∀ k stop, link.Stopping k stop → ¬ stop.Unbound) : Owned { link with lease := none } where
  published_leased mode n shown := by
    rw [bare mode] at shown
    cases shown
  handler_runs := owned.handler_runs
  start_named := owned.start_named
  start_owns _ _ _ _ _ held := by cases held
  stop_over := owned.stop_over
  stop_unpublished := owned.stop_unpublished
  stop_unique := owned.stop_unique
  stop_owns _ _ _ _ held := by cases held
  unbound_holds k stop flying unbound := absurd unbound (bound k stop flying)

theorem Owned.published_none_of_free (owned : Owned link) (free : link.lease = none) (mode : Mode) :
    link.published mode = none := by
  cases shown : link.published mode with
  | none => rfl
  | some n =>
    obtain ⟨_, lease, leased⟩ := owned.published_leased mode n shown
    have held := leased.held
    rw [free] at held
    cases held

theorem Owned.acquire (owned : Owned link) (free : link.lease = none) {lease : RouteLease}
    (mode_eq : lease.mode = mode) (owner_eq : lease.ownerId = owner) (named : strip owner ≠ "")
    (fresh : ∀ task ∈ link.tasks, task.owner? ≠ some (strip owner)) :
    Owned ({ link with lease := some lease, leasedTo := link.tasks.length }.push
      (.startingHandler mode owner)) := by
  subst mode_eq owner_eq
  have bare := owned.published_none_of_free free
  constructor
  case published_leased =>
    intro mode n shown
    have hidden := (bare mode).symm.trans shown
    cases hidden
  case handler_runs =>
    intro k mode owner at_k
    rcases Link.tasks_of_push at_k with old | ⟨_, other⟩
    · exact owned.handler_runs k mode owner old
    · cases other
  case start_named =>
    intro k mode owner flying
    rcases flying.of_push with old | ⟨_, started⟩
    · exact owned.start_named k mode owner old
    · cases started
      exact named
  case start_owns =>
    intro k mode owner flying held at_held same
    cases at_held
    rcases flying.of_push with ⟨task, at_k, started⟩ | ⟨last, started⟩
    · refine absurd ?_ (fresh task (List.mem_of_getElem? at_k))
      rw [Task.owner?_start started, same]
    · cases started
      exact ⟨rfl, last.symm⟩
  case stop_over =>
    intro k stop flying
    rcases flying.of_push with old | ⟨_, stopped⟩
    · exact Link.Over.push (owned.stop_over k stop old) _
    · cases stopped
  case stop_unpublished =>
    intro k stop flying mode shown
    have hidden := (bare mode).symm.trans shown
    cases hidden
  case stop_unique =>
    intro j k first second flying other
    rcases flying.of_push with old | ⟨_, stopped⟩
    · rcases other.of_push with old' | ⟨_, stopped⟩
      · exact owned.stop_unique j k first second old old'
      · cases stopped
    · cases stopped
  case stop_owns =>
    intro k stop flying held at_held same
    cases at_held
    rcases flying.of_push with ⟨task, at_k, stopped⟩ | ⟨_, stopped⟩
    · refine absurd ?_ (fresh task (List.mem_of_getElem? at_k))
      rw [Task.owner?_stop stopped, same]
    · cases stopped
  case unbound_holds =>
    intro k stop flying unbound
    rcases flying.of_push with old | ⟨_, stopped⟩
    · obtain ⟨held, at_held, _⟩ := owned.unbound_holds k stop old unbound
      rw [free] at at_held
      cases at_held
    · cases stopped

theorem Owned.published_taker (owned : Owned link) (shown : link.published mode = some n) :
    link.leasedTo = n := by
  obtain ⟨_, _, leased⟩ := owned.published_leased mode n shown
  exact leased.taker

theorem Owned.bare_of_starting (owned : Owned link) (starting : link.Starting k mode owner)
    (taker : link.leasedTo = k) (other : Mode) : link.published other = none := by
  cases shown : link.published other with
  | none => rfl
  | some n =>
    obtain ⟨past, _⟩ := owned.published_leased other n shown
    rw [← owned.published_taker shown, taker] at past
    exact absurd past starting.not_over

theorem Owned.bare_of_stopping (owned : Owned link) (stopping : link.Stopping k stop)
    (taker : link.leasedTo = stop.taken) (other : Mode) : link.published other = none := by
  cases shown : link.published other with
  | none => rfl
  | some n =>
    have same : n = stop.taken := (owned.published_taker shown).symm.trans taker
    exact absurd (same ▸ shown) (owned.stop_unpublished k stop stopping other)

theorem Owned.hide (owned : Owned link) (mode : Mode) : Owned (link.setPublished mode none) where
  published_leased other m shown := by
    by_cases same : other = mode
    · subst same
      rw [Link.setPublished_self] at shown
      cases shown
    · rw [Link.setPublished_ne link none same] at shown
      obtain ⟨past, lease, leased⟩ := owned.published_leased other m shown
      exact ⟨past, lease, leased.held, leased.mode_eq, leased.running, leased.taker,
        leased.handler⟩
  handler_runs := owned.handler_runs
  start_named := owned.start_named
  start_owns := owned.start_owns
  stop_over := owned.stop_over
  stop_unpublished k stop flying other shown := by
    by_cases same : other = mode
    · subst same
      rw [Link.setPublished_self] at shown
      cases shown
    · rw [Link.setPublished_ne link none same] at shown
      exact owned.stop_unpublished k stop flying other shown
  stop_unique := owned.stop_unique
  stop_owns := owned.stop_owns
  unbound_holds := owned.unbound_holds

theorem Owned.relabel {lease : RouteLease} (owned : Owned link) (held : link.lease = some lease)
    (bare : ∀ mode, link.published mode = none) (state : LeaseState) :
    Owned { link with lease := some { lease with state := state } } where
  published_leased mode m shown := by
    have hidden := (bare mode).symm.trans shown
    cases hidden
  handler_runs := owned.handler_runs
  start_named := owned.start_named
  start_owns k mode owner flying other at_other same := by
    cases at_other
    exact owned.start_owns k mode owner flying lease held same
  stop_over := owned.stop_over
  stop_unpublished := owned.stop_unpublished
  stop_unique := owned.stop_unique
  stop_owns k stop flying other at_other same := by
    cases at_other
    exact owned.stop_owns k stop flying lease held same
  unbound_holds k stop flying unbound := by
    obtain ⟨other, at_other, mode_eq, taken⟩ := owned.unbound_holds k stop flying unbound
    rw [held, Option.some.injEq] at at_other
    subst at_other
    exact ⟨_, rfl, mode_eq, taken⟩

theorem Owned.publish (owned : Owned link) (lease : RouteLease) (past : link.Over n)
    (held : link.lease = some lease) (running : lease.state = .running) (taker : link.leasedTo = n)
    (handler : link.handlerRunning n = true) (bare : ∀ mode, link.published mode = none)
    (untaken : ∀ k stop, link.Stopping k stop → stop.taken ≠ n) :
    Owned (link.setPublished lease.mode (some n)) where
  published_leased mode m shown := by
    by_cases same : mode = lease.mode
    · subst same
      rw [Link.setPublished_self, Option.some.injEq] at shown
      subst shown
      exact ⟨past, lease, held, rfl, running, taker, handler⟩
    · rw [Link.setPublished_ne _ _ same, bare mode] at shown
      cases shown
  handler_runs := owned.handler_runs
  start_named := owned.start_named
  start_owns := owned.start_owns
  stop_over := owned.stop_over
  stop_unpublished k stop flying mode shown := by
    by_cases same : mode = lease.mode
    · subst same
      rw [Link.setPublished_self, Option.some.injEq] at shown
      exact untaken k stop flying shown.symm
    · rw [Link.setPublished_ne _ _ same, bare mode] at shown
      cases shown
  stop_unique := owned.stop_unique
  stop_owns := owned.stop_owns
  unbound_holds := owned.unbound_holds

theorem Owned.push_stop {force : Bool} (owned : Owned link) (lease : RouteLease)
    (held : link.lease = some lease) (past : link.Over n) (taker : link.leasedTo = n)
    (bare : ∀ mode, link.published mode = none)
    (untaken : ∀ k stop, link.Stopping k stop → stop.taken ≠ n) :
    Owned (link.push (.stoppingRoute lease.mode owner force n)) := by
  constructor
  case published_leased =>
    intro mode m shown
    have hidden := (bare mode).symm.trans shown
    cases hidden
  case handler_runs =>
    intro k mode owner at_k
    rcases Link.tasks_of_push at_k with old | ⟨_, other⟩
    · exact owned.handler_runs k mode owner old
    · cases other
  case start_named =>
    intro k mode owner flying
    rcases flying.of_push with old | ⟨_, started⟩
    · exact owned.start_named k mode owner old
    · cases started
  case start_owns =>
    intro k mode owner flying
    rcases flying.of_push with old | ⟨_, started⟩
    · exact owned.start_owns k mode owner old
    · cases started
  case stop_over =>
    intro k stop flying
    rcases flying.of_push with old | ⟨_, stopped⟩
    · exact Link.Over.push (owned.stop_over k stop old) _
    · cases stopped
      exact past.push _
  case stop_unpublished =>
    intro k stop _ mode shown
    have hidden := (bare mode).symm.trans shown
    cases hidden
  case stop_unique =>
    intro j k first second flying other same
    rcases flying.of_push with old | ⟨last, stopped⟩
    · rcases other.of_push with old' | ⟨_, stopped⟩
      · exact owned.stop_unique j k first second old old' same
      · cases stopped
        exact absurd same (untaken j first old)
    · rcases other.of_push with old' | ⟨last', _⟩
      · cases stopped
        exact absurd same.symm (untaken k second old')
      · rw [last, last']
  case stop_owns =>
    intro k stop flying
    rcases flying.of_push with old | ⟨_, stopped⟩
    · exact owned.stop_owns k stop old
    · cases stopped
      exact fun _ _ _ => taker
  case unbound_holds =>
    intro k stop flying unbound
    rcases flying.of_push with old | ⟨_, stopped⟩
    · exact owned.unbound_holds k stop old unbound
    · cases stopped
      exact ⟨lease, held, rfl, taker⟩

theorem Owned.bare_beside {lease : RouteLease} (owned : Owned link) (held : link.lease = some lease)
    {other : Mode} (beside : other ≠ lease.mode) : link.published other = none := by
  cases shown : link.published other with
  | none => rfl
  | some n =>
    obtain ⟨_, current, leased⟩ := owned.published_leased other n shown
    have same := leased.held
    rw [held, Option.some.injEq] at same
    exact absurd (same ▸ leased.mode_eq).symm beside

end

theorem StartRequest.owner_named (request : StartRequest) : strip request.owner ≠ "" := by
  rw [StartRequest.owner, normalizeRouteOwnerId]
  split
  · rename_i given
    rw [PyObj.strip_cleanText]
    exact given
  · cases request.mode with
    | proxyCapture => exact strip_ne_empty (c := 'p') (by simp [Mode.text]) (by decide)
    | shadowLearning => exact strip_ne_empty (c := 's') (by simp [Mode.text]) (by decide)

section
variable {link : Link} {k : Nat} {mode : Mode} {owner : String} {force : Bool} {task : Task}
  {stop : Stop}

def Permitted (owner : String) (force : Bool) (lease : RouteLease) : Prop :=
  force = true ∨ strip owner = "" ∨ strip owner = lease.ownerId

theorem permitted_of_unchecked {lease : RouteLease}
    (unchecked : ¬(strip owner ≠ "" ∧ strip owner ≠ lease.ownerId ∧ force = false)) :
    Permitted owner force lease := by
  by_cases forced : force = true
  · exact Or.inl forced
  by_cases blank : strip owner = ""
  · exact Or.inr (Or.inl blank)
  refine Or.inr (Or.inr ?_)
  by_contra differs
  exact unchecked ⟨blank, differs, by simpa using forced⟩

theorem Link.releaseRouteLease_cases (link : Link) (mode : Mode) (owner : String) (force : Bool) :
    link.releaseRouteLease mode owner force = .ok link.lease ∨
      link.releaseRouteLease mode owner force = .error ownerMismatch ∨
      ∃ lease, link.lease = some lease ∧ lease.mode = mode ∧ Permitted owner force lease ∧
        link.releaseRouteLease mode owner force = .ok none := by
  cases held : link.lease with
  | none => exact Or.inl (by simp [Link.releaseRouteLease, held])
  | some lease =>
    by_cases same : lease.mode = mode
    · by_cases checked : strip owner ≠ "" ∧ strip owner ≠ lease.ownerId ∧ force = false
      · exact Or.inr (Or.inl (by simp [Link.releaseRouteLease, held, same, checked]))
      · refine Or.inr (Or.inr ⟨lease, rfl, same, permitted_of_unchecked checked, ?_⟩)
        rw [Link.releaseRouteLease, held]
        simp only [same, ne_eq, not_true_eq_false, if_false, if_neg checked]
    · exact Or.inl (by simp [Link.releaseRouteLease, held, same])

/-- The last `finally` leaves the link as it is, or gives up a lease of its mode that its owner
    check lets through. -/
theorem Link.finish_cases (link : Link) (mode : Mode) (owner : String) (force : Bool)
    (raised : Option PyError) :
    (∃ ending, link.finish mode owner force raised = (link, .finished ending)) ∨
      ∃ lease, link.lease = some lease ∧ lease.mode = mode ∧ Permitted owner force lease ∧
        link.finish mode owner force raised = ({ link with lease := none }, .finished raised) := by
  rw [Link.finish]
  rcases link.releaseRouteLease_cases mode owner force with kept | refused |
    ⟨lease, held, same, permitted, cleared⟩
  · rw [kept]
    exact Or.inl ⟨raised, rfl⟩
  · rw [refused]
    exact Or.inl ⟨some ownerMismatch, rfl⟩
  · rw [cleared]
    exact Or.inr ⟨lease, held, same, permitted, rfl⟩

/-- A task that gives the lease up needs only that nobody else counts on it. -/
theorem Owned.finishTask (owned : Owned link) (found : link.tasks[k]? = some task)
    (raised : Option PyError)
    (alone : ∀ lease, link.lease = some lease → lease.mode = mode → Permitted owner force lease →
      (∀ other, link.published other = none) ∧
        ∀ j stop, j ≠ k → link.Stopping j stop → ¬ stop.Unbound) :
    Owned (link.finishTask k mode owner force raised) := by
  have ended : ∀ ending, Owned (link.retask k (.finished ending)) := fun ending =>
    owned.retask found (Or.inl rfl) (Or.inl rfl) nofun
  rw [Link.finishTask]
  rcases link.finish_cases mode owner force raised with ⟨ending, same⟩ |
    ⟨lease, held, mode_eq, permitted, cleared⟩
  · rw [same]
    exact ended ending
  · rw [cleared]
    obtain ⟨bare, others⟩ := alone lease held mode_eq permitted
    refine (ended raised).clear bare ?_
    intro j stop flying
    by_cases same : j = k
    · subst same
      obtain ⟨current, at_j, stopped⟩ := flying
      rw [Link.retask_tasks_self found, Option.some.injEq] at at_j
      subst at_j
      cases stopped
    · exact others j stop same (flying.of_retask found (Or.inl rfl))

theorem Owned.unbound_taker (owned : Owned link) (stopping : link.Stopping k stop)
    (unbound : stop.Unbound) : link.leasedTo = stop.taken := by
  obtain ⟨_, _, _, taker⟩ := owned.unbound_holds k stop stopping unbound
  exact taker

theorem Owned.finishStart (owned : Owned link) (found : link.tasks[k]? = some task)
    (started : task.start? = some (mode, owner)) (raised : Option PyError) :
    Owned (link.finishTask k mode owner false raised) := by
  have starting : link.Starting k mode owner := ⟨task, found, started⟩
  refine owned.finishTask found raised ?_
  intro lease held _ permitted
  have same : strip lease.ownerId = strip owner := by
    rcases permitted with forced | blank | same
    · cases forced
    · exact absurd blank (owned.start_named k mode owner starting)
    · rw [← same, strip_idempotent]
  obtain ⟨_, taker⟩ := owned.start_owns k mode owner starting lease held same
  refine ⟨owned.bare_of_starting starting taker, ?_⟩
  intro j stop _ flying unbound
  have past := owned.stop_over j stop flying
  rw [← owned.unbound_taker flying unbound, taker] at past
  exact starting.not_over past

theorem Owned.finishStop (owned : Owned link) (found : link.tasks[k]? = some task)
    (stopped : task.stop? = some stop) (raised : Option PyError) :
    Owned (link.finishTask k stop.mode stop.owner stop.force raised) := by
  have stopping : link.Stopping k stop := ⟨task, found, stopped⟩
  refine owned.finishTask found raised ?_
  intro lease held _ permitted
  have taker : link.leasedTo = stop.taken := by
    rcases permitted with forced | blank | same
    · exact owned.unbound_taker stopping (Or.inl forced)
    · exact owned.unbound_taker stopping (Or.inr blank)
    · exact owned.stop_owns k stop stopping lease held (by rw [← same, strip_idempotent])
  refine ⟨owned.bare_of_stopping stopping taker, ?_⟩
  intro j other differs flying unbound
  exact differs (owned.stop_unique j k other stop flying stopping
    ((owned.unbound_taker flying unbound).symm.trans taker))

theorem Link.acquireRouteLease_ok {request : StartRequest} {lease : RouteLease}
    (taken : link.acquireRouteLease request = .ok lease) :
    link.lease = none ∧ lease = request.lease := by
  rw [Link.acquireRouteLease] at taken
  cases held : link.lease with
  | some current =>
    rw [held] at taken
    cases taken
  | none =>
    rw [held] at taken
    dsimp only at taken
    split at taken
    · cases taken
    split at taken
    · cases taken
    · exact ⟨rfl, (Except.ok.inj taken).symm⟩

theorem Link.finishTask_push (link : Link) (task : Task) (mode : Mode) (owner : String)
    (force : Bool) (raised : Option PyError) :
    (link.push task).finishTask link.tasks.length mode owner force raised =
      (link.finish mode owner force raised).1.push (link.finish mode owner force raised).2 := by
  have last : ∀ next : Task, (link.tasks ++ [task]).set link.tasks.length next =
      link.tasks ++ [next] := by
    intro next
    rw [List.set_append_right _ _ (Nat.le_refl _), Nat.sub_self]
    rfl
  rw [Link.finishTask, Link.finish, Link.finish]
  rw [show (link.push task).releaseRouteLease mode owner force =
    link.releaseRouteLease mode owner force from rfl]
  cases link.releaseRouteLease mode owner force with
  | ok lease => simp only [Link.retask, Link.push, last]
  | error error => simp only [Link.retask, Link.push, last]

theorem Owned.beginStart (owned : Owned link) (request : StartRequest) (unbuilt : Option PyError)
    (fresh : ∀ task ∈ link.tasks, task.owner? ≠ some (strip request.owner)) :
    Owned (link.beginStart request unbuilt) := by
  rw [Link.beginStart]
  split
  · exact owned.push_finished _
  split
  · exact owned.push_finished _
  rename_i lease taken
  obtain ⟨free, rfl⟩ := Link.acquireRouteLease_ok taken
  have same_mode : request.lease.mode = request.mode := rfl
  have same_owner : request.lease.ownerId = request.owner := rfl
  have leased := owned.acquire free same_mode same_owner request.owner_named fresh
  cases unbuilt with
  | none => exact leased
  | some error =>
    have found : ({ link with lease := some request.lease, leasedTo := link.tasks.length }.push
        (.startingHandler request.mode request.owner)).tasks[link.tasks.length]? =
        some (.startingHandler request.mode request.owner) := by
      simp [Link.push]
    have started : (Task.startingHandler request.mode request.owner).start? =
        some (request.mode, request.owner) := rfl
    have undone := leased.finishStart found started (some error)
    rw [Link.finishTask_push] at undone
    exact undone

theorem Link.beginRouteStop_cases (link : Link) (mode : Mode) (owner : String) (force : Bool) :
    (∃ error, link.beginRouteStop mode owner force = .error error) ∨
      (link.beginRouteStop mode owner force = .ok link.lease ∧
        ∀ lease, link.lease = some lease → lease.mode ≠ mode) ∨
      ∃ lease, link.lease = some lease ∧ lease.mode = mode ∧ Permitted owner force lease ∧
        link.beginRouteStop mode owner force = .ok (some { lease with state := .stopping }) := by
  rw [Link.beginRouteStop]
  cases held : link.lease with
  | none => exact Or.inr (Or.inl ⟨rfl, nofun⟩)
  | some lease =>
    dsimp only
    split
    · rename_i other
      split
      · refine Or.inr (Or.inl ⟨rfl, ?_⟩)
        rintro _ ⟨⟩
        exact other
      · exact Or.inl ⟨_, rfl⟩
    · rename_i same
      split
      · exact Or.inl ⟨_, rfl⟩
      · rename_i unchecked
        exact Or.inr (Or.inr ⟨lease, rfl, by simpa using same, permitted_of_unchecked unchecked,
          rfl⟩)

theorem Owned.stop_at_once (owned : Owned link) (raised : Option PyError)
    (alone : ∀ lease, link.lease = some lease → lease.mode = mode →
      (∀ other, link.published other = none) ∧ ∀ k stop, link.Stopping k stop → ¬ stop.Unbound) :
    Owned ((link.finish mode owner force raised).1.push
      (link.finish mode owner force raised).2) := by
  rcases link.finish_cases mode owner force raised with ⟨ending, same⟩ |
    ⟨lease, held, mode_eq, _, cleared⟩
  · rw [same]
    exact owned.push_finished ending
  · rw [cleared]
    obtain ⟨bare, bound⟩ := alone lease held mode_eq
    exact (owned.clear bare bound).push_finished raised

theorem Owned.beginStop (owned : Owned link)
    (idle : ∀ task ∈ link.tasks, ¬ task.UnboundStop mode) :
    Owned (link.beginStop mode owner force) := by
  rw [Link.beginStop]
  rcases link.beginRouteStop_cases mode owner force with ⟨error, refused⟩ | ⟨begun, elsewhere⟩ |
    ⟨lease, held, rfl, permitted, begun⟩
  · rw [refused]
    exact owned.push_finished _
  · rw [begun]
    have bare : link.published mode = none := by
      cases shown : link.published mode with
      | none => rfl
      | some n =>
        obtain ⟨_, lease, leased⟩ := owned.published_leased mode n shown
        exact absurd leased.mode_eq (elsewhere lease leased.held)
    dsimp only
    rw [bare]
    exact owned.stop_at_once none fun lease held same => absurd same (elsewhere lease held)
  · rw [begun]
    dsimp only
    cases shown : link.published lease.mode with
    | some n =>
      obtain ⟨past, _⟩ := owned.published_leased _ _ shown
      have bare : ∀ mode, (link.setPublished lease.mode none).published mode = none := by
        intro mode
        by_cases same : mode = lease.mode
        · rw [same, Link.setPublished_self]
        · rw [Link.setPublished_ne link none same]
          exact owned.bare_beside held same
      refine ((owned.hide lease.mode).relabel held bare .stopping).push_stop
        { lease with state := .stopping } rfl past
        (owned.published_taker shown) bare ?_
      intro k stop flying same
      exact owned.stop_unpublished k stop flying lease.mode (shown.trans (congrArg some same.symm))
    | none =>
      have bare : ∀ mode, link.published mode = none := by
        intro mode
        by_cases same : mode = lease.mode
        · rw [same, shown]
        · exact owned.bare_beside held same
      refine (owned.relabel held bare .stopping).stop_at_once none ?_
      intro _ _ _
      refine ⟨bare, ?_⟩
      intro k stop flying unbound
      obtain ⟨current, at_current, same, _⟩ := owned.unbound_holds k stop flying unbound
      rw [held, Option.some.injEq] at at_current
      subst at_current
      obtain ⟨task, at_k, stopped⟩ := flying
      exact idle task (List.mem_of_getElem? at_k) ⟨stop, stopped, same.symm, unbound⟩

theorem Link.setRouteLeaseState_cases (link : Link) (owner : String) (state : LeaseState) :
    link.setRouteLeaseState owner state = .error ownerMismatch ∨
      ∃ lease, link.lease = some lease ∧ lease.ownerId = owner ∧
        link.setRouteLeaseState owner state = .ok { lease with state := state } := by
  cases held : link.lease with
  | none => exact Or.inl (by simp [Link.setRouteLeaseState, held])
  | some lease =>
    by_cases same : lease.ownerId = owner
    · exact Or.inr ⟨lease, rfl, same, by simp [Link.setRouteLeaseState, held, same]⟩
    · exact Or.inl (by simp [Link.setRouteLeaseState, held, same])

theorem Owned.resume (owned : Owned link) (k : Nat) (raised : Option PyError) :
    Owned (link.resume k raised) := by
  rw [Link.resume]
  cases found : link.tasks[k]? with
  | none => exact owned
  | some task =>
    have hidden : ∀ {mode owner}, task.start? = some (mode, owner) →
        ∀ other, link.published other ≠ some k := by
      intro mode owner started other shown
      obtain ⟨past, _⟩ := owned.published_leased other k shown
      exact Link.Starting.not_over ⟨task, found, started⟩ past
    cases task with
    | startingHandler mode owner =>
      cases raised with
      | none =>
        refine (owned.setHandler (hidden rfl) fun _ _ _ => rfl).retask found (Or.inr rfl)
          (Or.inl rfl) ?_
        intro _ _ _
        exact Link.setHandler_self link k true
      | some error =>
        refine (owned.setHandler (hidden rfl) ?_).retask found (Or.inr rfl) (Or.inl rfl) nofun
        intro _ _ other
        rw [found] at other
        cases other
    | startingRoute mode owner =>
      cases raised with
      | some error => exact owned.retask found (Or.inr rfl) (Or.inl rfl) nofun
      | none =>
        have starting : link.Starting k mode owner := ⟨_, found, rfl⟩
        dsimp only
        rcases link.setRouteLeaseState_cases owner .running with refused | ⟨lease, held, same, set⟩
        · rw [refused]
          exact owned.retask found (Or.inr rfl) (Or.inl rfl) nofun
        · rw [set]
          obtain ⟨rfl, taker⟩ := owned.start_owns k mode owner starting lease held (by rw [same])
          have bare := owned.bare_of_starting starting taker
          have ended : Owned (link.retask k (.finished none)) :=
            owned.retask found (Or.inl rfl) (Or.inl rfl) nofun
          refine (ended.relabel held bare .running).publish { lease with state := .running }
            ⟨_, Link.retask_tasks_self found _, rfl⟩ rfl rfl taker
            (owned.handler_runs k _ owner found) bare ?_
          intro j stop flying taken
          have past := owned.stop_over j stop (flying.of_retask found (Or.inl rfl))
          rw [taken] at past
          exact starting.not_over past
    | undoingRoute mode owner error =>
      refine (owned.setHandler (hidden rfl) ?_).retask found (Or.inr rfl) (Or.inl rfl) nofun
      intro _ _ other
      rw [found] at other
      cases other
    | undoingHandler mode owner error => exact owned.finishStart found rfl _
    | stoppingRoute mode owner force taken =>
      have task_stop : (Task.stoppingRoute mode owner force taken).stop? =
          some ⟨mode, owner, force, taken⟩ := rfl
      cases raised with
      | some error => exact owned.finishStop found task_stop _
      | none =>
        have stopping : link.Stopping k ⟨mode, owner, force, taken⟩ := ⟨_, found, rfl⟩
        refine (owned.setHandler (owned.stop_unpublished k _ stopping) ?_).retask found
          (Or.inl rfl) (Or.inr rfl) nofun
        intro _ _ other
        exact absurd (owned.stop_over k _ stopping) (Link.Starting.not_over ⟨_, other, rfl⟩)
    | stoppingHandler mode owner force taken =>
      have task_stop : (Task.stoppingHandler mode owner force taken).stop? =
          some ⟨mode, owner, force, taken⟩ := rfl
      exact owned.finishStop found task_stop _
    | finished raised => exact owned

theorem Owned.stepped (owned : Owned link) (action : Action) (orderly : Orderly link action) :
    Owned (step link action) := by
  cases action with
  | beginStart request unbuilt => exact owned.beginStart request unbuilt orderly
  | beginStop mode owner force => exact owned.beginStop orderly
  | resume k raised => exact owned.resume k raised

theorem owned_initial : Owned Link.initial := by
  constructor
  case handler_runs => exact fun _ _ _ at_k => by cases at_k
  case published_leased => exact nofun
  case start_named => rintro k mode owner ⟨task, at_k, _⟩; cases at_k
  case start_owns => rintro k mode owner ⟨task, at_k, _⟩; cases at_k
  case stop_over => rintro k stop ⟨task, at_k, _⟩; cases at_k
  case stop_unpublished => exact fun _ _ _ _ => nofun
  case stop_unique => rintro j k first second ⟨task, at_k, _⟩; cases at_k
  case stop_owns => rintro k stop ⟨task, at_k, _⟩; cases at_k
  case unbound_holds => rintro k stop ⟨task, at_k, _⟩; cases at_k

theorem Link.finishTask_published (link : Link) (k : Nat) (mode : Mode) (owner : String)
    (force : Bool) (raised : Option PyError) :
    (link.finishTask k mode owner force raised).published = link.published := by
  rw [Link.finishTask]
  rcases link.finish_cases mode owner force raised with ⟨_, same⟩ | ⟨_, _, _, _, cleared⟩
  · rw [same]
    rfl
  · rw [cleared]
    rfl

theorem Owned.resume_published (owned : Owned link) (k : Nat) (raised : Option PyError)
    {mode : Mode} {n : Nat} (shown : link.published mode = some n) :
    (link.resume k raised).published mode = some n := by
  rw [Link.resume]
  cases found : link.tasks[k]? with
  | none => exact shown
  | some task =>
    cases task with
    | startingHandler => cases raised <;> exact shown
    | startingRoute other owner =>
      cases raised with
      | some error => exact shown
      | none =>
        have starting : link.Starting k other owner := ⟨_, found, rfl⟩
        dsimp only
        rcases link.setRouteLeaseState_cases owner .running with refused | ⟨lease, held, same, set⟩
        · rw [refused]
          exact shown
        · obtain ⟨_, taker⟩ := owned.start_owns k other owner starting lease held (by rw [same])
          rw [owned.bare_of_starting starting taker mode] at shown
          cases shown
    | undoingRoute => exact shown
    | undoingHandler => exact (congrFun (Link.finishTask_published ..) mode).trans shown
    | stoppingRoute =>
      cases raised with
      | some error => exact (congrFun (Link.finishTask_published ..) mode).trans shown
      | none => exact shown
    | stoppingHandler => exact (congrFun (Link.finishTask_published ..) mode).trans shown
    | finished => exact shown

end

def Exclusive (link : Link) : Prop :=
  (∀ mode n, link.published mode = some n → ∃ lease, link.Leased mode n lease) ∧
    ∀ first second m n, link.published first = some m → link.published second = some n →
      first = second ∧ m = n

/-- A published route stays so until a stop of its mode that the lease's owner check lets
    through takes it down. -/
def Retained (link : Link) (action : Action) : Prop :=
  ∀ mode n, link.published mode = some n → (step link action).published mode = some n ∨
    ∃ owner force lease, action = .beginStop mode owner force ∧ link.lease = some lease ∧
      Permitted owner force lease

theorem Owned.exclusive {link : Link} (owned : Owned link) : Exclusive link := by
  refine ⟨fun mode n shown => (owned.published_leased mode n shown).2, ?_⟩
  intro first second m n shown other
  obtain ⟨_, lease, leased⟩ := owned.published_leased first m shown
  have same : second = first := by
    by_contra beside
    rw [owned.bare_beside leased.held (leased.mode_eq ▸ beside)] at other
    cases other
  subst same
  exact ⟨rfl, Option.some.inj (shown.symm.trans other)⟩

theorem Owned.retained {link : Link} (owned : Owned link) (action : Action) :
    Retained link action := by
  intro mode n shown
  cases action with
  | resume k raised => exact Or.inl (owned.resume_published k raised shown)
  | beginStart request unbuilt =>
    refine Or.inl ?_
    obtain ⟨_, lease, leased⟩ := owned.published_leased mode n shown
    rw [step, Link.beginStart, Link.acquireRouteLease, leased.held]
    split <;> exact shown
  | beginStop other owner force =>
    rw [step, Link.beginStop]
    rcases link.beginRouteStop_cases other owner force with ⟨error, refused⟩ |
      ⟨begun, elsewhere⟩ | ⟨lease, held, rfl, permitted, begun⟩
    · rw [refused]
      exact Or.inl shown
    · rw [begun]
      obtain ⟨_, lease, leased⟩ := owned.published_leased mode n shown
      have differs := elsewhere lease leased.held
      have beside : link.published other = none :=
        owned.bare_beside leased.held (Ne.symm differs)
      refine Or.inl ?_
      dsimp only
      rw [beside]
      rcases link.finish_cases other owner force none with ⟨_, same⟩ | ⟨cur, at_cur, same, _⟩
      · rw [same]
        exact shown
      · exact absurd same (elsewhere cur at_cur)
    · obtain ⟨_, current, leased⟩ := owned.published_leased mode n shown
      have same := leased.held
      rw [held, Option.some.injEq] at same
      subst same
      obtain rfl := leased.mode_eq
      exact Or.inr ⟨owner, force, lease, rfl, held, permitted⟩

/-- Whatever the interleaving of starts, stops, failures and cancellations. -/
theorem routes_exclusive {actions : List Action}
    (orderly : EveryStep step Orderly Link.initial actions) :
    EveryState step Exclusive Link.initial actions ∧
      EveryStep step Retained Link.initial actions :=
  ⟨everyState_mono (fun _ owned => owned.exclusive)
      (everyState_of_everyStep (fun _ action owned => owned.stepped action) owned_initial orderly),
    everyStep_of_invariant (fun _ action owned => owned.stepped action)
      (fun _ action owned _ => owned.retained action) owned_initial orderly⟩

def entryRequest (mode : Mode) (ownerId outputPath : String) : StartRequest where
  mode := mode
  ownerId := .str ownerId
  entryId := .str "e1"
  collectorIp := .str "192.168.1.20"
  listenPort := 8899
  upstreamHost := .str "47.91.67.66"
  upstreamPort := 18899
  outputPath := outputPath
  expectedSessionProtocol := .str "eybond_framed"

def captureThenLearning : List Action :=
  [.beginStart (entryRequest .proxyCapture "proxy_capture:e1:t0" "/config/trace.jsonl") none,
    .resume 0 none, .resume 0 none, .beginStop .proxyCapture "" true, .resume 1 none,
    .resume 1 none,
    .beginStart (entryRequest .shadowLearning "shadow_learning:s1" "/config/shadow.jsonl") none,
    .resume 2 none, .resume 2 none]

theorem captureThenLearning_exclusive :
    EveryStep step Orderly Link.initial captureThenLearning ∧
      Exclusive (run step Link.initial captureThenLearning) ∧
      (run step Link.initial captureThenLearning).published .shadowLearning = some 2 := by
  have orderly : EveryStep step Orderly Link.initial captureThenLearning := by decide +kernel
  exact ⟨orderly, everyState_run (routes_exclusive orderly).1, by decide +kernel⟩

end CallbackRoute
