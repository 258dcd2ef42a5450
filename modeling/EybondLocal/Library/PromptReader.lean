import EybondLocal.Library.DelimitedLines

/-!
Reading messages out of a buffer that grows by chunks. After every chunk messages are taken from
the front until the consumer waits. A message is prompt when the consumer waits for as long as a
part of it is missing and takes it, whatever follows, as soon as it is there; of a stream of
prompt messages exactly these are read, however the stream was cut.
-/
namespace PromptReader
variable {Message α Failure : Type}

inductive Reading (Message α Failure : Type) where
  | wait
  | message (message : Message) (rest : List α)
  | fail (failure : Failure) (rest : List α)
  deriving DecidableEq, Repr

structure Outcome (Message α Failure : Type) where
  messages : List Message
  buffer : List α
  failure : Option Failure
  deriving DecidableEq, Repr

def Outcome.behind (messages : List Message) (outcome : Outcome Message α Failure) :
    Outcome Message α Failure :=
  ⟨messages ++ outcome.messages, outcome.buffer, outcome.failure⟩

/-- Nothing is read out of an empty buffer, and every message taken shortens the buffer. -/
structure Settles (consume : List α → Reading Message α Failure) : Prop where
  idle : consume [] = .wait
  shortens : ∀ buffer message rest, consume buffer = .message message rest →
    rest.length < buffer.length

section Reading
variable (consume : List α → Reading Message α Failure)

def drain : Nat → List α → Outcome Message α Failure
  | 0, buffer => ⟨[], buffer, none⟩
  | rounds + 1, buffer =>
    match consume buffer with
    | .wait => ⟨[], buffer, none⟩
    | .fail failure rest => ⟨[], rest, some failure⟩
    | .message message rest => (drain rounds rest).behind [message]

def settle (buffer : List α) : Outcome Message α Failure := drain consume buffer.length buffer

def feed (buffer : List α) : List (List α) → Outcome Message α Failure
  | [] => ⟨[], buffer, none⟩
  | chunk :: chunks =>
    let now := settle consume (buffer ++ chunk)
    match now.failure with
    | some _ => now
    | none => (feed now.buffer chunks).behind now.messages

variable (bytes : Message → List α)

structure Prompt (message : Message) : Prop where
  taken : ∀ more, consume (bytes message ++ more) = .message message more
  waits : ∀ front, front <+: bytes message → front.length < (bytes message).length →
    consume front = .wait

end Reading

theorem Outcome.behind_behind (front messages : List Message)
    (outcome : Outcome Message α Failure) :
    (outcome.behind messages).behind front = outcome.behind (front ++ messages) := by
  simp [Outcome.behind]

section Settling
variable {consume : List α → Reading Message α Failure} {bytes : Message → List α}

theorem drain_enough (settles : Settles consume) {rounds more : Nat} {buffer : List α}
    (enough : buffer.length ≤ rounds) (enough' : buffer.length ≤ more) :
    drain consume rounds buffer = drain consume more buffer := by
  induction rounds generalizing more buffer with
  | zero =>
    have empty : buffer = [] := List.length_eq_zero_iff.mp (by omega)
    subst empty
    cases more with
    | zero => rfl
    | succ more => rw [drain, drain, settles.idle]
  | succ rounds ih =>
    cases more with
    | zero =>
      have empty : buffer = [] := List.length_eq_zero_iff.mp (by omega)
      subst empty
      rw [drain, drain, settles.idle]
    | succ more =>
      rw [drain, drain]
      cases look : consume buffer with
      | wait => rfl
      | fail failure rest => rfl
      | message message rest =>
        have shorter := settles.shortens _ _ _ look
        dsimp only
        rw [@ih more rest (by omega) (by omega)]

theorem settle_nil : settle consume [] = ⟨[], [], none⟩ := rfl

theorem settle_message (settles : Settles consume) {message : Message}
    (prompt : Prompt consume bytes message) (more : List α) :
    settle consume (bytes message ++ more) = (settle consume more).behind [message] := by
  have shorter := settles.shortens _ _ _ (prompt.taken more)
  have wider := drain_enough settles (Nat.le_refl _) (Nat.le_of_lt shorter)
  unfold settle
  rw [wider]
  cases size : (bytes message ++ more).length with
  | zero => omega
  | succ rounds =>
    rw [drain, prompt.taken]
    have enough : more.length ≤ rounds := by omega
    dsimp only
    rw [drain_enough settles enough (Nat.le_succ_of_le enough)]

theorem settle_messages (settles : Settles consume) {messages : List Message}
    (prompt : ∀ message ∈ messages, Prompt consume bytes message) (more : List α) :
    settle consume (messages.flatMap bytes ++ more) = (settle consume more).behind messages := by
  induction messages with
  | nil => rfl
  | cons message messages ih =>
    rw [List.forall_mem_cons] at prompt
    rw [List.flatMap_cons, List.append_assoc, settle_message settles prompt.1, ih prompt.2,
      Outcome.behind_behind]
    rfl

theorem Prompt.positive (settles : Settles consume) {message : Message}
    (prompt : Prompt consume bytes message) : 0 < (bytes message).length := by
  have shorter := settles.shortens _ _ _ (prompt.taken [])
  rw [List.append_nil] at shorter
  exact Nat.zero_lt_of_lt shorter

theorem settle_start {message : Message} (prompt : Prompt consume bytes message) {start : List α}
    (begins : start <+: bytes message) (short : start.length < (bytes message).length) :
    settle consume start = ⟨[], start, none⟩ := by
  cases start with
  | nil => rfl
  | cons first start =>
    unfold settle
    rw [List.length_cons, drain, prompt.waits _ begins short]

end Settling

section Streams
variable {consume : List α → Reading Message α Failure} {bytes : Message → List α}

theorem feed_behind {buffer chunk : List α} {chunks : List (List α)} {done : List Message}
    {now : Outcome Message α Failure} (settled : settle consume (buffer ++ chunk) = now.behind done) :
    feed consume buffer (chunk :: chunks) =
      (match now.failure with
        | some _ => now
        | none => (feed consume now.buffer chunks).behind now.messages).behind done := by
  rw [feed, settled]
  cases failed : now.failure with
  | some failure => simp [Outcome.behind, failed]
  | none => simp [Outcome.behind, failed]

/-- Whatever is behind a stream of prompt messages, these are read first; and nothing else where
    nothing is behind them. -/
theorem feed_messages (settles : Settles consume) {messages : List Message}
    (prompt : ∀ message ∈ messages, Prompt consume bytes message) {buffer rest : List α}
    {chunks : List (List α)} (split : buffer ++ chunks.flatten = messages.flatMap bytes ++ rest)
    (waiting : messages = [] ∨ ∃ message more, messages = message :: more ∧
      buffer <+: bytes message ∧ buffer.length < (bytes message).length) :
    ∃ outcome : Outcome Message α Failure, feed consume buffer chunks = outcome.behind messages ∧
      (rest = [] → outcome = ⟨[], [], none⟩) := by
  induction chunks generalizing buffer messages with
  | nil =>
    rcases waiting with rfl | ⟨message, more, rfl, _, short⟩
    · refine ⟨⟨[], buffer, none⟩, rfl, ?_⟩
      rintro rfl
      have empty : buffer = [] := by simpa using split
      rw [empty]
    · have length := congrArg List.length split
      simp only [List.flatten_nil, List.append_nil, List.flatMap_cons, List.length_append] at length
      omega
  | cons chunk chunks ih =>
    rw [List.flatten_cons, ← List.append_assoc] at split
    have positive : ∀ message ∈ messages, 0 < (bytes message).length := by
      intro message mem
      exact (prompt message mem).positive settles
    obtain ⟨done, left, start, rfl, taken, onward, state⟩ :=
      DelimitedLines.part_of_stream positive split
    rw [List.forall_mem_append] at prompt
    have settled := settle_messages settles prompt.1 start
    rw [← taken] at settled
    rw [feed_behind settled]
    rcases state with rfl | ⟨message, more, rfl, begins, short⟩
    · rw [List.append_nil]
      refine ⟨_, rfl, ?_⟩
      rintro rfl
      have nothing : start = [] ∧ chunks.flatten = [] := by simpa using onward
      have ended : ([] : List α) ++ chunks.flatten = ([] : List Message).flatMap bytes ++ [] := by
        simpa using nothing.2
      obtain ⟨outcome, read, nothing_read⟩ := ih (by simp) ended (Or.inl rfl)
      rw [nothing.1, settle_nil]
      dsimp only
      rw [read, nothing_read rfl]
      rfl
    · rw [settle_start (prompt.2 message List.mem_cons_self) begins short]
      dsimp only
      obtain ⟨outcome, read, nothing_read⟩ := ih prompt.2 onward (Or.inr ⟨_, _, rfl, begins, short⟩)
      refine ⟨outcome, ?_, nothing_read⟩
      rw [read, Outcome.behind_behind, Outcome.behind_behind, List.append_nil]

section Empty
variable {messages : List Message} {rest : List α} {chunks : List (List α)}

theorem feed_front (settles : Settles consume)
    (prompt : ∀ message ∈ messages, Prompt consume bytes message)
    (split : chunks.flatten = messages.flatMap bytes ++ rest) :
    ∃ outcome : Outcome Message α Failure, feed consume [] chunks = outcome.behind messages ∧
      (rest = [] → outcome = ⟨[], [], none⟩) := by
  refine feed_messages settles prompt split ?_
  cases messages with
  | nil => exact Or.inl rfl
  | cons message more =>
    have positive := (prompt message List.mem_cons_self).positive settles
    exact Or.inr ⟨message, more, rfl, List.nil_prefix, positive⟩

theorem feed_prompt (settles : Settles consume)
    (prompt : ∀ message ∈ messages, Prompt consume bytes message)
    (split : chunks.flatten = messages.flatMap bytes) :
    feed consume [] chunks = ⟨messages, [], none⟩ := by
  rw [← List.append_nil (messages.flatMap bytes)] at split
  obtain ⟨outcome, read, nothing_read⟩ := feed_front settles prompt split
  rw [read, nothing_read rfl]
  simp [Outcome.behind]

end Empty
end Streams
end PromptReader
