import EybondLocal.Transport.BinaryFraming
import Mathlib.Data.List.Infix

/-!
The byte source of one collector socket (`_PrefixedAsyncReader` in
`collector/transport/common.py`, over the `StreamReader` of the socket). Bytes wait in
three places: pushed back in front, received by the stream, and still on their way in
separate arrivals. A schedule decides, whenever a read has to wait, whether the next
arrival, the read's timer or a cancellation comes first.
-/
namespace PrefixedReader
open BinaryFraming

inductive Wake where
  | data
  | timer
  | cancel
  deriving DecidableEq, Repr

structure Reader where
  buffer : Bytes
  arrived : Bytes
  coming : List Bytes
  schedule : List Wake
  deriving Repr

def Reader.pending (reader : Reader) : Bytes :=
  reader.buffer ++ (reader.arrived ++ reader.coming.flatten)

inductive Reply where
  | bytes (data : Bytes) (reader : Reader)
  | timeout (reader : Reader)
  | eof
  | cancelled

def nextWake (bounded : Bool) (schedule : List Wake) : Wake :=
  match schedule.headD .data with
  | .timer => if bounded then .timer else .data
  | wake => wake

/-- `StreamReader.readexactly`: a read that gives up leaves what has arrived in the stream.
    Past the last arrival the peer closes, unless the timer of a bounded read comes first. -/
def streamReadexactly (bounded : Bool) (size : Nat) :
    List Bytes → Bytes → List Wake → Reply
  | coming, arrived, schedule =>
    if size ≤ arrived.length then
      .bytes (arrived.take size) ⟨[], arrived.drop size, coming, schedule⟩
    else match coming, nextWake bounded schedule with
    | _, .cancel => .cancelled
    | coming, .timer => .timeout ⟨[], arrived, coming, schedule.tail⟩
    | [], .data => .eof
    | chunk :: rest, .data => streamReadexactly bounded size rest (arrived ++ chunk) schedule.tail

/-- The bytes taken from the push-back buffer belong to the read: when the stream part of it
    gives up they are gone. -/
def Reader.readexactly (reader : Reader) (bounded : Bool) (size : Nat) : Reply :=
  if size ≤ reader.buffer.length then
    .bytes (reader.buffer.take size) { reader with buffer := reader.buffer.drop size }
  else
    match streamReadexactly bounded (size - reader.buffer.length) reader.coming reader.arrived
      reader.schedule with
    | .bytes data rest => .bytes (reader.buffer ++ data) rest
    | .timeout rest => .timeout rest
    | .eof => .eof
    | .cancelled => .cancelled

def Reader.unread (reader : Reader) (data : Bytes) : Reader :=
  { reader with buffer := data ++ reader.buffer }

/-- `StreamReader.read(4096)` until a gap: what has arrived is taken at once, and only a wait
    for more consults the schedule. -/
def streamTakeAvailable : List Bytes → Bytes → List Wake → Reply
  | coming, arrived, schedule =>
    match coming, nextWake true schedule with
    | _, .cancel => .cancelled
    | coming, .timer => .bytes arrived ⟨[], [], coming, schedule.tail⟩
    | [], .data => .bytes arrived ⟨[], [], [], schedule.tail⟩
    | chunk :: rest, .data => streamTakeAvailable rest (arrived ++ chunk) schedule.tail

/-- Remove and return the buffered bytes plus any that follow within a short gap. -/
def Reader.takeAvailable (reader : Reader) : Reply :=
  match streamTakeAvailable reader.coming reader.arrived reader.schedule with
  | .bytes data rest => .bytes (reader.buffer ++ data) rest
  | reply => reply

theorem streamReadexactly_bytes {bounded : Bool} {size : Nat} {coming : List Bytes}
    {arrived : Bytes} {schedule : List Wake} {data : Bytes} {rest : Reader}
    (h : streamReadexactly bounded size coming arrived schedule = .bytes data rest) :
    arrived ++ coming.flatten = data ++ rest.pending ∧ data.length = size := by
  induction coming generalizing arrived schedule with
  | nil =>
    unfold streamReadexactly at h
    split at h
    · rename_i enough
      cases h
      simp [Reader.pending, enough]
    · split at h <;> simp_all
  | cons chunk more ih =>
    unfold streamReadexactly at h
    split at h
    · rename_i enough
      cases h
      refine ⟨?_, by simp [enough]⟩
      rw [Reader.pending, List.nil_append, ← List.append_assoc, List.take_append_drop]
    · split at h
      · cases h
      · cases h
      · contradiction
      · rename_i eq _
        cases eq
        have := ih h
        simpa using this

theorem streamReadexactly_timeout {bounded : Bool} {size : Nat} {coming : List Bytes}
    {arrived : Bytes} {schedule : List Wake} {rest : Reader}
    (h : streamReadexactly bounded size coming arrived schedule = .timeout rest) :
    rest.pending = arrived ++ coming.flatten := by
  induction coming generalizing arrived schedule with
  | nil =>
    unfold streamReadexactly at h
    split at h
    · cases h
    · split at h
      · cases h
      · cases h
        simp [Reader.pending]
      · cases h
      · contradiction
  | cons chunk more ih =>
    unfold streamReadexactly at h
    split at h
    · cases h
    · split at h
      · cases h
      · cases h
        simp [Reader.pending]
      · contradiction
      · rename_i eq _
        cases eq
        have := ih h
        simpa using this

/-- A completed read returns the next bytes and leaves the rest. -/
theorem readexactly_bytes {reader rest : Reader} {bounded : Bool} {size : Nat} {data : Bytes}
    (h : reader.readexactly bounded size = .bytes data rest) :
    reader.pending = data ++ rest.pending ∧ data.length = size := by
  unfold Reader.readexactly at h
  split at h
  · rename_i enough
    cases h
    refine ⟨?_, by simp [enough]⟩
    simp only [Reader.pending, ← List.append_assoc, List.take_append_drop]
  · rename_i short
    split at h
    · rename_i tail after run
      cases h
      have spec := streamReadexactly_bytes run
      refine ⟨?_, ?_⟩
      · rw [Reader.pending, spec.1, List.append_assoc]
      · rw [List.length_append, spec.2]
        omega
    · cases h
    · cases h
    · cases h

/-- A read that timed out has lost at most the pushed-back bytes. -/
theorem readexactly_timeout {reader rest : Reader} {bounded : Bool} {size : Nat}
    (h : reader.readexactly bounded size = .timeout rest) : rest.pending <:+ reader.pending := by
  unfold Reader.readexactly at h
  split at h
  · cases h
  · split at h
    · cases h
    · rename_i after run
      cases h
      rw [streamReadexactly_timeout run]
      exact List.suffix_append _ _
    · cases h
    · cases h

@[simp] theorem unread_pending (reader : Reader) (data : Bytes) :
    (reader.unread data).pending = data ++ reader.pending := by
  simp [Reader.unread, Reader.pending]

theorem streamTakeAvailable_bytes {coming : List Bytes} {arrived : Bytes} {schedule : List Wake}
    {data : Bytes} {rest : Reader}
    (h : streamTakeAvailable coming arrived schedule = .bytes data rest) :
    arrived ++ coming.flatten = data ++ rest.pending := by
  induction coming generalizing arrived schedule with
  | nil =>
    unfold streamTakeAvailable at h
    split at h
    · cases h
    · cases h
      simp [Reader.pending]
    · cases h
      simp [Reader.pending]
    · contradiction
  | cons chunk more ih =>
    unfold streamTakeAvailable at h
    split at h
    · cases h
    · cases h
      simp [Reader.pending]
    · contradiction
    · rename_i eq _
      cases eq
      have := ih h
      simpa using this

theorem takeAvailable_bytes {reader rest : Reader} {data : Bytes}
    (h : reader.takeAvailable = .bytes data rest) : reader.pending = data ++ rest.pending := by
  unfold Reader.takeAvailable at h
  split at h
  · rename_i tail after run
    cases h
    rw [Reader.pending, streamTakeAvailable_bytes run, List.append_assoc]
  · rename_i reply other
    exact absurd h (other data rest)

theorem streamTakeAvailable_no_timeout (coming : List Bytes) (arrived : Bytes)
    (schedule : List Wake) (rest : Reader) :
    streamTakeAvailable coming arrived schedule ≠ .timeout rest := by
  induction coming generalizing arrived schedule with
  | nil =>
    unfold streamTakeAvailable
    split <;> simp_all
  | cons chunk more ih =>
    unfold streamTakeAvailable
    split <;> simp_all

theorem takeAvailable_no_timeout (reader rest : Reader) :
    reader.takeAvailable ≠ .timeout rest := by
  unfold Reader.takeAvailable
  split
  · simp
  · exact streamTakeAvailable_no_timeout _ _ _ rest

end PrefixedReader
