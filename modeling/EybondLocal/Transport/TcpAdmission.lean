import EybondLocal.Library.Execution
import Mathlib.Algebra.GroupWithZero.Nat

/-!
Admission of TCP sockets (`collector/transport/tcp_acceptor.py`). A raw socket is
accepted synchronously, then an admission task turns it into streams and calls the
handler. Every callback of the event loop is one step, so a task rests at its own
awaits: not started yet, in `open_connection`, in the handler, or in the bounded close
of its writer. Which outcome an await has is the environment's choice.
-/
namespace TcpAdmission
open Execution

inductive Ending where
  | returned
  | raised
  | cancelled
  deriving DecidableEq, Repr

inductive Phase where
  /-- no task was created for the socket -/
  | refused
  /-- the task exists and has not run its first instruction -/
  | created
  | opening
  | handling
  /-- in the `finally` block, after `writer.close()`; the task then ends as given -/
  | closingWriter (ending : Ending)
  | done (ending : Ending)
  deriving DecidableEq, Repr

structure Client where
  phase : Phase
  /-- `_admissions` holds the task -/
  tracked : Bool
  cancelRequested : Bool := false
  handlerCalls : Nat := 0
  handedOff : Bool := false
  closed : Bool := false
  deriving DecidableEq, Repr

/-- `task.cancel()` for a task `_admissions` holds. -/
def Client.requestCancel (c : Client) : Client :=
  if c.tracked then { c with cancelRequested := true } else c

inductive CloseTask where
  | absent
  | created
  | draining (tasks : List Nat)
  | finished
  deriving DecidableEq, Repr

structure CollectorTcpAcceptor where
  sockets : List Nat
  readers : List Nat
  retryHandles : List Nat := []
  closing : Bool := false
  clients : List Client := []
  closeTask : CloseTask := .absent
  deriving Repr

inductive AcceptResult where
  /-- a client; `prepared` unless `setblocking` or `create_task` raises -/
  | client (prepared : Bool)
  | connectionAborted
  | wouldBlock
  | resourceError
  | otherError
  deriving DecidableEq, Repr

def backlog : Nat := 100
def maxAdmissions : Nat := 100

namespace CollectorTcpAcceptor

def start (sockets : List Nat) : CollectorTcpAcceptor where
  sockets := sockets
  readers := sockets

def isTracked (s : CollectorTcpAcceptor) (id : Nat) : Bool :=
  (s.clients[id]?.map (·.tracked)).getD false

def admissions (s : CollectorTcpAcceptor) : List Nat :=
  (List.range s.clients.length).filter s.isTracked

def close (s : CollectorTcpAcceptor) : CollectorTcpAcceptor :=
  if s.closing then s
  else
    { s with
      closing := true
      retryHandles := []
      readers := []
      clients := s.clients.map Client.requestCancel
      closeTask := .created }

def resumeAccept (s : CollectorTcpAcceptor) (sock : Nat) : CollectorTcpAcceptor :=
  let s := { s with retryHandles := s.retryHandles.filter (· ≠ sock) }
  if s.closing then s else { s with readers := sock :: s.readers.filter (· ≠ sock) }

def stopReading (s : CollectorTcpAcceptor) (sock : Nat) : CollectorTcpAcceptor :=
  { s with readers := s.readers.filter (· ≠ sock) }

def addClient (s : CollectorTcpAcceptor) (c : Client) : CollectorTcpAcceptor :=
  { s with clients := s.clients ++ [c] }

/-- The body of the loop of `_accept_ready`, one iteration for each result. -/
def acceptLoop (sock : Nat) : Nat → List AcceptResult → CollectorTcpAcceptor → CollectorTcpAcceptor
  | 0, _, s => s
  | _, [], s => s
  | n + 1, result :: rest, s =>
    match result with
    | .connectionAborted => acceptLoop sock n rest s
    | .wouldBlock => s
    | .resourceError =>
      { s.stopReading sock with retryHandles := sock :: s.retryHandles.filter (· ≠ sock) }
    | .otherError => (s.stopReading sock).close
    | .client prepared =>
      if s.closing || maxAdmissions ≤ s.admissions.length then
        acceptLoop sock n rest
          (s.addClient { phase := .refused, tracked := false, closed := true })
      else if prepared then
        acceptLoop sock n rest (s.addClient { phase := .created, tracked := true })
      else
        -- the exception leaves the callback after the raw socket was closed
        s.addClient { phase := .refused, tracked := false, closed := true }

def acceptReady (s : CollectorTcpAcceptor) (sock : Nat) (results : List AcceptResult) :
    CollectorTcpAcceptor :=
  if s.closing then s else acceptLoop sock (backlog + 1) results s

def modify (s : CollectorTcpAcceptor) (id : Nat) (f : Client → Client) : CollectorTcpAcceptor :=
  { s with clients := s.clients.modify id f }

end CollectorTcpAcceptor

namespace Client

/-- The first step. A cancellation before it never enters the `try` block. -/
def begin (c : Client) : Client :=
  if c.phase = .created then
    if c.cancelRequested then { c with phase := .done .cancelled } else { c with phase := .opening }
  else c

/-- `open_connection` ends; on success the handler is called unless the acceptor is closing. -/
def opened (closing : Bool) (ending : Ending) (c : Client) : Client :=
  if c.phase = .opening then
    match ending with
    | .returned =>
      if closing then { c with phase := .closingWriter .returned, closed := true }
      else { c with phase := .handling, handlerCalls := c.handlerCalls + 1 }
    | ending => { c with phase := .done ending, closed := true }
  else c

def handled (ending : Ending) (c : Client) : Client :=
  if c.phase = .handling then
    match ending with
    | .returned => { c with phase := .done .returned, handedOff := true }
    | ending => { c with phase := .closingWriter ending, closed := true }
  else c

def writerClosed (interrupted : Bool) (c : Client) : Client :=
  match c.phase with
  | .closingWriter ending => { c with phase := .done (if interrupted then .cancelled else ending) }
  | _ => c

def isDone (c : Client) : Bool :=
  match c.phase with
  | .done _ => true
  | _ => false

def admissionDone (c : Client) : Client :=
  if c.tracked then
    { c with
      tracked := false
      closed := c.closed || c.phase = .done .cancelled || c.phase = .done .raised }
  else c

end Client

inductive Action where
  | acceptReady (sock : Nat) (results : List AcceptResult)
  | resumeAccept (sock : Nat)
  | cancelTask (id : Nat)
  | begin (id : Nat)
  | opened (id : Nat) (ending : Ending)
  | handled (id : Nat) (ending : Ending)
  | writerClosed (id : Nat) (interrupted : Bool)
  | admissionDone (id : Nat)
  | close
  | drainStarts
  | drainEnds
  deriving Repr

open CollectorTcpAcceptor in
def step (s : CollectorTcpAcceptor) : Action → CollectorTcpAcceptor
  | .acceptReady sock results => s.acceptReady sock results
  | .resumeAccept sock => s.resumeAccept sock
  | .cancelTask id => s.modify id fun c => { c with cancelRequested := true }
  | .begin id => s.modify id Client.begin
  | .opened id ending => s.modify id (Client.opened s.closing ending)
  | .handled id ending => s.modify id (Client.handled ending)
  | .writerClosed id interrupted => s.modify id (Client.writerClosed interrupted)
  | .admissionDone id => s.modify id fun c => if c.isDone then c.admissionDone else c
  | .close => s.close
  | .drainStarts =>
    if s.closeTask = .created then { s with closeTask := .draining s.admissions } else s
  | .drainEnds =>
    match s.closeTask with
    | .draining tasks =>
      -- `gather` returns once all of them have ended
      if ∀ id ∈ tasks, (s.clients[id]?.map Client.isDone).getD true = true then
        { s with
          clients := s.clients.mapIdx fun id c => if id ∈ tasks then c.admissionDone else c
          sockets := []
          closeTask := .finished }
      else s
    | _ => s

def Client.Accounted (c : Client) : Prop :=
  match c.phase with
  | .refused => c.closed = true ∧ c.handedOff = false ∧ c.handlerCalls = 0 ∧ c.tracked = false
  | .created | .opening =>
    c.closed = false ∧ c.handedOff = false ∧ c.handlerCalls = 0 ∧ c.tracked = true
  | .handling => c.closed = false ∧ c.handedOff = false ∧ c.handlerCalls = 1 ∧ c.tracked = true
  | .closingWriter _ =>
    c.closed = true ∧ c.handedOff = false ∧ c.handlerCalls ≤ 1 ∧ c.tracked = true
  | .done .returned =>
    c.closed = !c.handedOff ∧ c.handlerCalls ≤ 1 ∧ (c.handedOff = true → c.handlerCalls = 1)
  | .done _ => c.handedOff = false ∧ c.handlerCalls ≤ 1 ∧ (c.closed = true ∨ c.tracked = true)

namespace Client

theorem accounted_requestCancel {c : Client} (accounted : c.Accounted) :
    c.requestCancel.Accounted := by
  unfold requestCancel
  split
  · exact accounted
  · exact accounted

theorem accounted_begin {c : Client} (accounted : c.Accounted) : c.begin.Accounted := by
  unfold begin
  split
  · rename_i created
    rw [Accounted, created] at accounted
    split
    · exact ⟨accounted.2.1, by simp [accounted.2.2.1], .inr accounted.2.2.2⟩
    · exact accounted
  · exact accounted

theorem accounted_opened {c : Client} (accounted : c.Accounted) (closing : Bool) (ending : Ending) :
    (c.opened closing ending).Accounted := by
  unfold opened
  split
  · rename_i opening
    rw [Accounted, opening] at accounted
    obtain ⟨notClosed, notHanded, calls, tracked⟩ := accounted
    cases ending with
    | returned =>
      cases closing with
      | true => exact ⟨rfl, notHanded, by simp [calls], tracked⟩
      | false => exact ⟨notClosed, notHanded, by simp [calls], tracked⟩
    | raised => exact ⟨notHanded, by simp [calls], .inl rfl⟩
    | cancelled => exact ⟨notHanded, by simp [calls], .inl rfl⟩
  · exact accounted

theorem accounted_handled {c : Client} (accounted : c.Accounted) (ending : Ending) :
    (c.handled ending).Accounted := by
  unfold handled
  split
  · rename_i handling
    rw [Accounted, handling] at accounted
    obtain ⟨notClosed, notHanded, calls, tracked⟩ := accounted
    cases ending with
    | returned => exact ⟨by simp [notClosed], by simp [calls], fun _ => calls⟩
    | raised => exact ⟨rfl, notHanded, by simp [calls], tracked⟩
    | cancelled => exact ⟨rfl, notHanded, by simp [calls], tracked⟩
  · exact accounted

theorem accounted_writerClosed {c : Client} (accounted : c.Accounted) (interrupted : Bool) :
    (c.writerClosed interrupted).Accounted := by
  unfold writerClosed
  split
  · rename_i ending closing
    rw [Accounted, closing] at accounted
    obtain ⟨closed, notHanded, calls, -⟩ := accounted
    cases interrupted with
    | true => exact ⟨notHanded, calls, .inl closed⟩
    | false =>
      cases ending with
      | returned => exact ⟨by simp [closed, notHanded], calls, by simp [notHanded]⟩
      | raised => exact ⟨notHanded, calls, .inl closed⟩
      | cancelled => exact ⟨notHanded, calls, .inl closed⟩
  · exact accounted

theorem accounted_admissionDone {c : Client} (accounted : c.Accounted) (done : c.isDone = true) :
    c.admissionDone.Accounted := by
  unfold admissionDone
  split
  · cases phase : c.phase with
    | done ending =>
      rw [Accounted, phase] at accounted
      cases ending with
      | returned => simpa [Accounted, phase] using accounted
      | raised => simpa [Accounted, phase] using ⟨accounted.1, accounted.2.1⟩
      | cancelled => simpa [Accounted, phase] using ⟨accounted.1, accounted.2.1⟩
    | refused => simp [isDone, phase] at done
    | created => simp [isDone, phase] at done
    | opening => simp [isDone, phase] at done
    | handling => simp [isDone, phase] at done
    | closingWriter ending => simp [isDone, phase] at done
  · exact accounted

end Client

/-- What holds of the acceptor in every state: each socket is accounted for, and once the drain
    has begun every admission still tracked is one it waits for. -/
structure Sound (s : CollectorTcpAcceptor) : Prop where
  clients : ∀ c ∈ s.clients, c.Accounted
  open_until_close : s.closeTask = .absent → s.closing = false
  closing : s.closeTask ≠ .absent → s.closing = true
  draining : ∀ tasks, s.closeTask = .draining tasks → ∀ id, s.isTracked id = true → id ∈ tasks
  finished : s.closeTask = .finished → ∀ id, s.isTracked id = false

structure Settles (s s' : CollectorTcpAcceptor) : Prop where
  clients : ∀ c ∈ s'.clients, c.Accounted
  tracked : ∀ id, s'.isTracked id = true → s.isTracked id = true
  closeTask : s'.closeTask = s.closeTask
  closing : s'.closing = s.closing

theorem sound_of_settles {s s' : CollectorTcpAcceptor} (sound : Sound s) (settles : Settles s s') :
    Sound s' := by
  refine ⟨settles.clients, ?_, ?_, ?_, ?_⟩
  · rw [settles.closeTask, settles.closing]
    exact sound.open_until_close
  · rw [settles.closeTask, settles.closing]
    exact sound.closing
  · intro tasks draining id tracked
    rw [settles.closeTask] at draining
    exact sound.draining tasks draining id (settles.tracked id tracked)
  · intro finished id
    rw [settles.closeTask] at finished
    have before := sound.finished finished id
    cases after : s'.isTracked id with
    | false => rfl
    | true =>
      rw [settles.tracked id after] at before
      cases before

theorem settles_modify {s : CollectorTcpAcceptor} (sound : Sound s) (id : Nat) {f : Client → Client}
    (keeps : ∀ c : Client, c.Accounted → (f c).Accounted)
    (drops : ∀ c : Client, (f c).tracked = true → c.tracked = true) : Settles s (s.modify id f) := by
  refine ⟨?_, ?_, rfl, rfl⟩
  · intro c member
    obtain ⟨i, found⟩ := List.mem_iff_getElem?.mp member
    simp only [CollectorTcpAcceptor.modify, List.getElem?_modify] at found
    obtain ⟨original, held, eq⟩ := Option.map_eq_some_iff.mp found
    have accounted := sound.clients original (List.mem_of_getElem? held)
    split at eq
    · rw [← eq]
      exact keeps original accounted
    · rw [← eq]
      exact accounted
  · intro i tracked
    simp only [CollectorTcpAcceptor.isTracked, CollectorTcpAcceptor.modify,
      List.getElem?_modify] at tracked ⊢
    cases held : s.clients[i]? with
    | none => simp [held] at tracked
    | some original =>
      simp only [held, Option.map_some, Option.getD_some] at tracked ⊢
      split at tracked
      · exact drops original tracked
      · exact tracked

theorem sound_start (sockets : List Nat) : Sound (CollectorTcpAcceptor.start sockets) :=
  ⟨by simp [CollectorTcpAcceptor.start], fun _ => rfl, by simp [CollectorTcpAcceptor.start],
    by simp [CollectorTcpAcceptor.start], by simp [CollectorTcpAcceptor.start]⟩

theorem closeTask_absent {s : CollectorTcpAcceptor} (sound : Sound s) (opens : s.closing = false) :
    s.closeTask = .absent := by
  by_contra present
  rw [sound.closing present] at opens
  cases opens

theorem sound_close {s : CollectorTcpAcceptor} (sound : Sound s) : Sound s.close := by
  unfold CollectorTcpAcceptor.close
  split
  · exact sound
  · refine ⟨?_, by simp, fun _ => rfl, by simp, by simp⟩
    intro c member
    obtain ⟨original, held, rfl⟩ := List.mem_map.mp member
    exact Client.accounted_requestCancel (sound.clients original held)

theorem sound_addClient {s : CollectorTcpAcceptor} (sound : Sound s) (opens : s.closing = false)
    {c : Client} (accounted : c.Accounted) : Sound (s.addClient c) := by
  have absent : s.closeTask = .absent := closeTask_absent sound opens
  have absent : (s.addClient c).closeTask = .absent := absent
  refine ⟨?_, fun _ => opens, fun present => absurd absent present, by simp [absent],
    by simp [absent]⟩
  intro d member
  rcases List.mem_append.mp member with held | added
  · exact sound.clients d held
  · rw [List.mem_singleton.mp added]
    exact accounted

theorem sound_readers {s : CollectorTcpAcceptor} (sound : Sound s) (readers retries : List Nat) :
    Sound { s with readers := readers, retryHandles := retries } :=
  ⟨sound.clients, sound.open_until_close, sound.closing, sound.draining, sound.finished⟩

theorem sound_acceptLoop (sock n : Nat) (results : List AcceptResult) {s : CollectorTcpAcceptor}
    (sound : Sound s) (opens : s.closing = false) :
    Sound (CollectorTcpAcceptor.acceptLoop sock n results s) := by
  induction n generalizing results s with
  | zero => exact sound
  | succ n ih =>
    cases results with
    | nil => exact sound
    | cons result rest =>
      cases result with
      | connectionAborted => exact ih rest sound opens
      | wouldBlock => exact sound
      | resourceError => exact sound_readers sound _ _
      | otherError => exact sound_close (sound_readers sound _ s.retryHandles)
      | client prepared =>
        simp only [CollectorTcpAcceptor.acceptLoop]
        have refused : Client.Accounted { phase := .refused, tracked := false, closed := true } :=
          ⟨rfl, rfl, rfl, rfl⟩
        have created : Client.Accounted { phase := .created, tracked := true } :=
          ⟨rfl, rfl, rfl, rfl⟩
        split
        · exact ih rest (sound_addClient sound opens refused) opens
        · split
          · exact ih rest (sound_addClient sound opens created) opens
          · exact sound_addClient sound opens refused

theorem mem_admissions {s : CollectorTcpAcceptor} {id : Nat} (tracked : s.isTracked id = true) :
    id ∈ s.admissions := by
  refine List.mem_filter.mpr ⟨?_, tracked⟩
  rw [List.mem_range]
  by_contra outside
  have missing : s.clients[id]? = none := List.getElem?_eq_none (by omega)
  simp [CollectorTcpAcceptor.isTracked, missing] at tracked

theorem sound_drainStarts {s : CollectorTcpAcceptor} (sound : Sound s) :
    Sound (step s .drainStarts) := by
  simp only [step]
  split
  · rename_i created
    refine ⟨sound.clients, by simp, fun _ => sound.closing (by simp [created]), ?_, by simp⟩
    intro tasks eq id tracked
    cases eq
    exact mem_admissions tracked
  · exact sound

theorem sound_drainEnds {s : CollectorTcpAcceptor} (sound : Sound s) :
    Sound (step s .drainEnds) := by
  simp only [step]
  split
  · rename_i tasks draining
    split
    · rename_i ended
      refine ⟨?_, by simp, fun _ => sound.closing (by simp [draining]), by simp, ?_⟩
      · intro c member
        obtain ⟨id, inside, eq⟩ := List.mem_mapIdx.mp member
        have accounted := sound.clients s.clients[id] (List.getElem_mem inside)
        split at eq
        · rename_i awaited
          have done := ended id awaited
          rw [List.getElem?_eq_getElem inside] at done
          rw [← eq]
          exact Client.accounted_admissionDone accounted (by simpa using done)
        · rw [← eq]
          exact accounted
      · intro _ id
        simp only [CollectorTcpAcceptor.isTracked, List.getElem?_mapIdx]
        cases held : s.clients[id]? with
        | none => rfl
        | some c =>
          simp only [Option.map_some, Option.getD_some]
          by_cases awaited : id ∈ tasks
          · simp only [awaited, ↓reduceIte, Client.admissionDone]
            split
            · rfl
            · rename_i untracked
              simpa using untracked
          · -- whatever is tracked is among the awaited tasks
            simp only [awaited, ↓reduceIte]
            by_contra tracked
            exact awaited (sound.draining tasks draining id
              (by simpa [CollectorTcpAcceptor.isTracked, held] using tracked))
    · exact sound
  · exact sound

theorem sound_step {s : CollectorTcpAcceptor} (sound : Sound s) (a : Action) : Sound (step s a) := by
  cases a with
  | acceptReady sock results =>
    simp only [step, CollectorTcpAcceptor.acceptReady]
    split
    · exact sound
    · rename_i opens
      exact sound_acceptLoop sock _ results sound (by simpa using opens)
  | resumeAccept sock =>
    simp only [step, CollectorTcpAcceptor.resumeAccept]
    split
    · exact sound_readers sound s.readers _
    · exact sound_readers sound _ _
  | cancelTask id =>
    exact sound_of_settles sound (settles_modify sound id (fun _ accounted => accounted)
      (fun _ tracked => tracked))
  | begin id =>
    refine sound_of_settles sound (settles_modify sound id (fun _ => Client.accounted_begin) ?_)
    intro c tracked
    unfold Client.begin at tracked
    split at tracked
    · split at tracked <;> exact tracked
    · exact tracked
  | opened id ending =>
    refine sound_of_settles sound (settles_modify sound id
      (fun _ accounted => Client.accounted_opened accounted _ _) ?_)
    intro c tracked
    unfold Client.opened at tracked
    split at tracked
    · split at tracked
      · split at tracked <;> exact tracked
      · exact tracked
    · exact tracked
  | handled id ending =>
    refine sound_of_settles sound (settles_modify sound id
      (fun _ accounted => Client.accounted_handled accounted _) ?_)
    intro c tracked
    unfold Client.handled at tracked
    split at tracked
    · split at tracked <;> exact tracked
    · exact tracked
  | writerClosed id interrupted =>
    refine sound_of_settles sound (settles_modify sound id
      (fun _ accounted => Client.accounted_writerClosed accounted _) ?_)
    intro c tracked
    unfold Client.writerClosed at tracked
    split at tracked <;> exact tracked
  | admissionDone id =>
    refine sound_of_settles sound (settles_modify sound id ?_ ?_)
    · intro c accounted
      split
      · rename_i done
        exact Client.accounted_admissionDone accounted done
      · exact accounted
    · intro c tracked
      split at tracked
      · unfold Client.admissionDone at tracked
        split at tracked
        · cases tracked
        · exact tracked
      · exact tracked
  | close => exact sound_close sound
  | drainStarts => exact sound_drainStarts sound
  | drainEnds => exact sound_drainEnds sound

def handlerCalls (s : CollectorTcpAcceptor) : Nat := (s.clients.map (·.handlerCalls)).sum

def NoLateCall (s : CollectorTcpAcceptor) (a : Action) : Prop :=
  s.closing = true → handlerCalls (step s a) = handlerCalls s

theorem calls_modify (l : List Client) (id : Nat) {f : Client → Client}
    (same : ∀ c : Client, (f c).handlerCalls = c.handlerCalls) :
    (l.modify id f).map (·.handlerCalls) = l.map (·.handlerCalls) := by
  induction l generalizing id with
  | nil => simp
  | cons c rest ih =>
    cases id with
    | zero => simp [same]
    | succ id => simp [ih]

theorem calls_mapIdx (l : List Client) {f : Nat → Client → Client}
    (same : ∀ id c, (f id c).handlerCalls = c.handlerCalls) :
    (l.mapIdx f).map (·.handlerCalls) = l.map (·.handlerCalls) := by
  apply List.ext_getElem?
  intro i
  simp only [List.getElem?_map, List.getElem?_mapIdx]
  cases l[i]? with
  | none => rfl
  | some c => simp [same]

theorem noLateCall_step (s : CollectorTcpAcceptor) (a : Action) : NoLateCall s a := by
  intro closing
  unfold handlerCalls
  cases a with
  | acceptReady sock results => simp [step, CollectorTcpAcceptor.acceptReady, closing]
  | resumeAccept sock => simp [step, CollectorTcpAcceptor.resumeAccept, closing]
  | cancelTask id =>
    simp only [step, CollectorTcpAcceptor.modify]
    rw [calls_modify]
    intro c
    rfl
  | begin id =>
    simp only [step, CollectorTcpAcceptor.modify]
    rw [calls_modify]
    intro c
    unfold Client.begin
    split
    · split <;> rfl
    · rfl
  | opened id ending =>
    simp only [step, CollectorTcpAcceptor.modify, closing]
    rw [calls_modify]
    intro c
    unfold Client.opened
    split
    · cases ending <;> rfl
    · rfl
  | handled id ending =>
    simp only [step, CollectorTcpAcceptor.modify]
    rw [calls_modify]
    intro c
    unfold Client.handled
    split
    · cases ending <;> rfl
    · rfl
  | writerClosed id interrupted =>
    simp only [step, CollectorTcpAcceptor.modify]
    rw [calls_modify]
    intro c
    unfold Client.writerClosed
    split <;> rfl
  | admissionDone id =>
    simp only [step, CollectorTcpAcceptor.modify]
    rw [calls_modify]
    intro c
    split
    · unfold Client.admissionDone
      split <;> rfl
    · rfl
  | close => simp [step, CollectorTcpAcceptor.close, closing]
  | drainStarts =>
    simp only [step]
    split <;> rfl
  | drainEnds =>
    simp only [step]
    split
    · split
      · rw [calls_mapIdx]
        intro id c
        split
        · unfold Client.admissionDone
          split <;> rfl
        · rfl
      · rfl
    · rfl

def CollectorTcpAcceptor.waitClosedReturns (s : CollectorTcpAcceptor) : Prop :=
  s.closeTask = .finished

def Client.inAdmission (c : Client) : Prop := c.tracked = true

def Client.takenByHandler (c : Client) : Prop := c.handedOff = true ∧ c.handlerCalls = 1

structure LosesNoSocket (s : CollectorTcpAcceptor) : Prop where
  /-- the handler is called at most once for a socket -/
  once : ∀ c ∈ s.clients, c.handlerCalls ≤ 1
  /-- a socket outside an admission belongs to the handler or was closed, never both -/
  owned : ∀ c ∈ s.clients, ¬ c.inAdmission → (c.takenByHandler ↔ c.closed = false)
  /-- a socket the handler took is never closed by the acceptor -/
  kept : ∀ c ∈ s.clients, c.handedOff = true → c.takenByHandler ∧ c.closed = false
  /-- `wait_closed` leaves no admission behind -/
  joined : s.waitClosedReturns → ∀ c ∈ s.clients, ¬ c.inAdmission ∧
    (c.phase = .refused ∨ ∃ ending, c.phase = .done ending)

theorem accounted_calls {c : Client} (accounted : c.Accounted) : c.handlerCalls ≤ 1 := by
  unfold Client.Accounted at accounted
  split at accounted <;> omega

theorem accounted_kept {c : Client} (accounted : c.Accounted) (handed : c.handedOff = true) :
    c.takenByHandler ∧ c.closed = false := by
  unfold Client.Accounted at accounted
  split at accounted <;> simp_all [Client.takenByHandler]

theorem accounted_settled {c : Client} (accounted : c.Accounted) (settled : c.tracked = false) :
    c.phase = .refused ∨ ∃ ending, c.phase = .done ending := by
  unfold Client.Accounted at accounted
  split at accounted <;> simp_all

theorem accounted_owned {c : Client} (accounted : c.Accounted) (settled : c.tracked = false) :
    c.takenByHandler ↔ c.closed = false := by
  unfold Client.Accounted at accounted
  split at accounted <;> simp_all [Client.takenByHandler]

theorem losesNoSocket_of_sound {s : CollectorTcpAcceptor} (sound : Sound s) : LosesNoSocket s := by
  refine ⟨fun c member => accounted_calls (sound.clients c member), ?_,
    fun c member => accounted_kept (sound.clients c member), ?_⟩
  · intro c member outside
    exact accounted_owned (sound.clients c member) (by simpa [Client.inAdmission] using outside)
  · intro finished c member
    obtain ⟨id, held⟩ := List.mem_iff_getElem?.mp member
    have untracked : c.tracked = false := by
      simpa [CollectorTcpAcceptor.isTracked, held] using sound.finished finished id
    exact ⟨by simp [Client.inAdmission, untracked],
      accounted_settled (sound.clients c member) untracked⟩

end TcpAdmission
