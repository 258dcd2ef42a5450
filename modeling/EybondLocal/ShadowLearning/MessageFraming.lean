import EybondLocal.Library.PromptReader
import EybondLocal.ProxyCapture.ChunkSplits
import EybondLocal.Transport.BinaryFraming

/-!
How the shadow backend takes messages off a connection (`support/shadow_learning/backend.py`): AT
lines, G-ASCII commands and EyeBond frames share one buffer, and the first byte does not tell
which of them it begins.
-/
namespace ShadowBackend
open BinaryFraming DelimitedLines PromptReader
open ChunkFilter (newline atMarker IsAtLine)

inductive Kind where
  | atLine
  | ascii
  | frame
  deriving DecidableEq, Repr

structure Message where
  kind : Kind
  payload : Bytes
  deriving DecidableEq, Repr

/-- The `RuntimeError`s of `_consume_next_message`. -/
inductive FramingError where
  | decodeError
  | invalidLength (totalLen : Nat)
  deriving DecidableEq, Repr

/-- What `_consume_g_ascii_frame` returns, with what it leaves of the buffer. -/
inductive AsciiFrame where
  | absent
  | incomplete
  | taken (frame rest : Bytes)
  deriving DecidableEq, Repr

def carriageReturn : UInt8 := 0x0D

def startsCommand (byte : UInt8) : Bool :=
  byte == 0x23 || byte == 0x28 || (0x41 ≤ byte && byte ≤ 0x5A)

def isPrintable (byte : UInt8) : Bool := 0x20 ≤ byte && byte ≤ 0x7E

def consumeGAsciiFrame (buffer : Bytes) : AsciiFrame :=
  match buffer with
  | [] => .absent
  | first :: _ =>
    if startsCommand first = false then .absent
    else
      match splitLine carriageReturn buffer with
      | none => if buffer.length < 64 then .incomplete else .absent
      | some (frame, rest) =>
        let body := frame.dropLast
        -- the carriage return stands right behind the body
        if body.length > 128 then .absent
        else if body = [] ∨ atMarker.isPrefixOf body then .absent
        else if body.any fun byte => !isPrintable byte then .absent
        else .taken frame rest

def consumeEybondFrameIfComplete (buffer : Bytes) : Option (Bytes × Bytes) :=
  if buffer.length < headerSize then none
  else
    match decodeHeader (buffer.take headerSize) with
    | none => none
    | some header =>
      if header.totalLen < headerSize ∨ buffer.length < header.totalLen then none
      else some (buffer.take header.totalLen, buffer.drop header.totalLen)

def consumeNextMessage (buffer : Bytes) : Reading Message UInt8 FramingError :=
  if buffer = [] then .wait
  else if atMarker.isPrefixOf buffer then
    match splitLine newline buffer with
    | none => .wait
    | some (line, rest) => .message ⟨.atLine, line⟩ rest
  else
    match consumeGAsciiFrame buffer with
    | .incomplete =>
      match consumeEybondFrameIfComplete buffer with
      | some (frame, rest) => .message ⟨.frame, frame⟩ rest
      | none => .wait
    | .taken frame rest => .message ⟨.ascii, frame⟩ rest
    | .absent =>
      if buffer.length < headerSize then .wait
      else
        match decodeHeader (buffer.take headerSize) with
        | none => .fail .decodeError []
        | some header =>
          if header.totalLen < headerSize then .fail (.invalidLength header.totalLen) []
          else if buffer.length < header.totalLen then .wait
          else .message ⟨.frame, buffer.take header.totalLen⟩ (buffer.drop header.totalLen)

def receive (chunks : List Bytes) : Outcome Message UInt8 FramingError :=
  feed consumeNextMessage [] chunks

/-- What stands in front of the carriage return of a G-ASCII command. -/
structure CommandBody (body : Bytes) : Prop where
  starts : ∃ first rest, body = first :: rest ∧ startsCommand first = true
  short : body.length ≤ 128
  printable : ∀ byte ∈ body, isPrintable byte = true
  foreign : ¬ atMarker <+: body

def IsCommand (command : Bytes) : Prop :=
  ∃ body, CommandBody body ∧ command = body ++ [carriageReturn]

/-- Any transaction, device code and address; one of the function codes 1 to 4; exactly as long
    as its header announces. -/
structure IsFrame (frame : Bytes) : Prop where
  announced : ∃ header, decodeHeader frame = some header ∧ 1 ≤ header.fcode ∧ header.fcode ≤ 4 ∧
    headerSize ≤ header.totalLen ∧ frame.length = header.totalLen
  foreign : ¬ atMarker <+: frame

def Message.WellFormed (message : Message) : Prop :=
  match message.kind with
  | .atLine => IsAtLine message.payload
  | .ascii => IsCommand message.payload
  | .frame => IsFrame message.payload

def BeginsWithCommand (frame : Bytes) : Prop := ∃ command, IsCommand command ∧ command <+: frame

theorem isLine_of_command {command : Bytes} (isCommand : IsCommand command) :
    IsLine carriageReturn command := by
  obtain ⟨body, ofBody, rfl⟩ := isCommand
  refine ⟨body, rfl, fun inside => ?_⟩
  exact absurd (ofBody.printable _ inside) (by decide)

theorem consumeGAsciiFrame_sound {buffer frame rest : Bytes}
    (look : consumeGAsciiFrame buffer = .taken frame rest) :
    IsCommand frame ∧ buffer = frame ++ rest := by
  unfold consumeGAsciiFrame at look
  split at look
  · cases look
  · rename_i first more
    split at look
    · cases look
    · rename_i starts
      split at look
      · split at look
        · cases look
        · cases look
      · rename_i line left split_at
        obtain ⟨⟨body, rfl, plain⟩, buffered⟩ := splitLine_some split_at
        dsimp only at look
        rw [List.dropLast_concat] at look
        split at look
        · cases look
        · rename_i short
          split at look
          · cases look
          · rename_i own
            split at look
            · cases look
            · rename_i clean
              cases look
              rw [not_or] at own
              refine ⟨⟨body, ⟨?_, by omega, ?_, ?_⟩, rfl⟩, buffered⟩
              · obtain ⟨first', rest', rfl⟩ := List.exists_cons_of_ne_nil own.1
                rw [List.cons_append, List.cons_append, List.cons.injEq] at buffered
                refine ⟨first', rest', rfl, ?_⟩
                rw [← buffered.1]
                exact (Bool.not_eq_false _).mp starts
              · simpa using clean
              · rw [← List.isPrefixOf_iff_prefix]
                exact own.2

theorem consumeGAsciiFrame_complete {command : Bytes} (isCommand : IsCommand command)
    (rest : Bytes) : consumeGAsciiFrame (command ++ rest) = .taken command rest := by
  have isLine := isLine_of_command isCommand
  obtain ⟨body, ofBody, rfl⟩ := isCommand
  have split := splitLine_append isLine rest
  obtain ⟨first, more, rfl, starts⟩ := ofBody.starts
  have whole : first :: more ++ [carriageReturn] ++ rest = first :: (more ++ [carriageReturn] ++ rest) :=
    rfl
  have own : ¬ (first :: more = [] ∨ atMarker.isPrefixOf (first :: more) = true) := by
    rw [List.isPrefixOf_iff_prefix]
    rintro (empty | foreign)
    · cases empty
    · exact ofBody.foreign foreign
  have clean : ((first :: more).any fun byte => !isPrintable byte) = false := by
    rw [List.any_eq_false]
    intro byte mem
    rw [ofBody.printable byte mem]
    decide
  unfold consumeGAsciiFrame
  rw [whole]
  dsimp only
  rw [← whole, if_neg (by rw [starts]; decide), split]
  dsimp only
  rw [List.dropLast_concat, if_neg (Nat.not_lt.mpr ofBody.short), if_neg own, clean,
    if_neg Bool.false_ne_true]

/-- Away from AT text and from commands the buffer is read as frames, at once or after the wait
    for a command that is not complete. -/
theorem consumeNextMessage_frame {buffer : Bytes} (some_bytes : buffer ≠ [])
    (foreign : ¬ atMarker <+: buffer)
    (untaken : ∀ frame rest, consumeGAsciiFrame buffer ≠ .taken frame rest)
    (proper : ∀ header, decodeHeader (buffer.take headerSize) = some header →
      headerSize ≤ header.totalLen) :
    consumeNextMessage buffer =
      match consumeEybondFrameIfComplete buffer with
      | some (frame, rest) => .message ⟨.frame, frame⟩ rest
      | none => .wait := by
  rw [← List.isPrefixOf_iff_prefix] at foreign
  unfold consumeNextMessage
  rw [if_neg some_bytes, if_neg foreign]
  cases look : consumeGAsciiFrame buffer with
  | incomplete => rfl
  | taken frame rest => exact absurd look (untaken frame rest)
  | absent =>
    dsimp only
    unfold consumeEybondFrameIfComplete
    by_cases short : buffer.length < headerSize
    · rw [if_pos short, if_pos short]
    · rw [if_neg short, if_neg short]
      cases decoded : decodeHeader (buffer.take headerSize) with
      | none =>
        obtain ⟨header, there⟩ := @decodeHeader_of_length (buffer.take headerSize) (by
          rw [List.length_take]
          omega)
        rw [there] at decoded
        cases decoded
      | some header =>
        have long := proper header decoded
        dsimp only
        rw [if_neg (Nat.not_lt.mpr long)]
        by_cases partly : buffer.length < header.totalLen
        · rw [if_pos partly, if_pos (Or.inr partly)]
        · rw [if_neg partly, if_neg (by omega)]

end ShadowBackend
