import EybondLocal.ShadowLearning.MessageFraming

/-!
Whether the shadow backend reads the messages it was sent. AT lines and commands are read as soon
as they are complete, however they arrive, and so is a frame, unless its first bytes are a complete
G-ASCII command: then that command is read in its place.
-/
namespace ShadowBackend
open BinaryFraming DelimitedLines PromptReader
open ChunkFilter (newline atMarker IsAtLine)

theorem headerSize_le_of_frame {buffer frame rest : Bytes}
    (look : consumeEybondFrameIfComplete buffer = some (frame, rest)) :
    rest.length + headerSize ≤ buffer.length := by
  unfold consumeEybondFrameIfComplete at look
  split at look
  · cases look
  · split at look
    · cases look
    · rename_i header _
      split at look
      · cases look
      · rename_i bounds
        cases look
        rw [List.length_drop]
        omega

theorem consumeNextMessage_settles : Settles consumeNextMessage := by
  constructor
  · rfl
  · intro buffer message rest look
    unfold consumeNextMessage at look
    split at look
    · cases look
    · split at look
      · split at look
        · cases look
        · rename_i line left split_at
          cases look
          obtain ⟨isLine, rfl⟩ := splitLine_some split_at
          have positive := List.length_pos_iff.mpr isLine.ne_nil
          rw [List.length_append]
          omega
      · split at look
        · split at look
          · rename_i taken
            cases look
            have shorter := headerSize_le_of_frame taken
            simp only [headerSize] at shorter
            omega
          · cases look
        · rename_i taken
          cases look
          obtain ⟨isCommand, rfl⟩ := consumeGAsciiFrame_sound taken
          have positive := List.length_pos_iff.mpr (isLine_of_command isCommand).ne_nil
          rw [List.length_append]
          omega
        · split at look
          · cases look
          · split at look
            · cases look
            · split at look
              · cases look
              · split at look
                · cases look
                · rename_i proper there
                  cases look
                  rw [List.length_drop]
                  simp only [headerSize] at proper
                  omega

theorem atLine_prompt {line : Bytes} (isAtLine : IsAtLine line) :
    Prompt consumeNextMessage Message.payload ⟨.atLine, line⟩ := by
  constructor
  · intro more
    have starts : atMarker <+: line ++ more := isAtLine.starts.trans (List.prefix_append _ _)
    have some_bytes : line ++ more ≠ [] := by
      rintro empty
      rw [empty] at starts
      exact absurd (List.prefix_nil.mp starts) (by decide)
    dsimp only
    unfold consumeNextMessage
    rw [if_neg some_bytes, if_pos (List.isPrefixOf_iff_prefix.mpr starts),
      splitLine_append isAtLine.isLine]
  · intro front begins short
    dsimp only at begins short
    by_cases starts : atMarker <+: front
    · have open_line : newline ∉ front := by
        obtain ⟨body, rfl, plain⟩ := isAtLine.isLine
        rcases List.prefix_concat_iff.mp begins with rfl | within
        · omega
        · exact fun inside => plain (within.subset inside)
      unfold consumeNextMessage
      split
      · rfl
      · rw [if_pos (List.isPrefixOf_iff_prefix.mpr starts), splitLine_eq_none.mpr open_line]
    · have within : front <+: atMarker := by
        rcases List.prefix_or_prefix_of_prefix begins isAtLine.starts with within | beyond
        · exact within
        · exact absurd beyond starts
      have cases : front = [] ∨ front = [0x41] ∨ front = [0x41, 0x54] ∨ front = atMarker := by
        have listed := (List.mem_inits front atMarker).mpr within
        simpa [List.inits, atMarker] using listed
      rcases cases with rfl | rfl | rfl | rfl
      · rfl
      · decide
      · decide
      · exact absurd (List.prefix_refl _) starts

theorem command_foreign {command : Bytes} (isCommand : IsCommand command) (more : Bytes) :
    ¬ atMarker <+: command ++ more := by
  intro starts
  obtain ⟨body, ofBody, rfl⟩ := isCommand
  rcases List.prefix_or_prefix_of_prefix starts (List.prefix_append _ more) with within | beyond
  · rcases List.prefix_concat_iff.mp within with whole | front
    · have inside : carriageReturn ∈ atMarker := by
        rw [whole]
        simp
      exact absurd inside (by decide)
    · exact ofBody.foreign front
  · have inside : carriageReturn ∈ atMarker := beyond.subset (by simp)
    exact absurd inside (by decide)

/-- Printable bytes announce a frame that is longer than every command. -/
theorem totalLen_of_printable {buffer : Bytes} {header : EybondHeader}
    (printable : ∀ byte ∈ buffer, isPrintable byte = true)
    (decoded : decodeHeader (buffer.take headerSize) = some header) : 0x2006 ≤ header.totalLen := by
  unfold decodeHeader at decoded
  split at decoded
  · rename_i b0 b1 b2 b3 b4 b5 b6 b7 more bytes
    have inside : b4 ∈ buffer := by
      apply List.mem_of_mem_take (i := headerSize)
      rw [bytes]
      simp
    have visible := printable b4 inside
    unfold isPrintable at visible
    rw [Bool.and_eq_true, decide_eq_true_eq, decide_eq_true_eq] at visible
    have least : 0x20 ≤ b4.toNat := visible.1
    cases decoded
    simp only [EybondHeader.totalLen, word, wireLenOffset]
    omega
  · cases decoded

theorem command_prompt {command : Bytes} (isCommand : IsCommand command) :
    Prompt consumeNextMessage Message.payload ⟨.ascii, command⟩ := by
  constructor
  · intro more
    have some_bytes : command ++ more ≠ [] := by
      intro empty
      exact (isLine_of_command isCommand).ne_nil (List.append_eq_nil_iff.mp empty).1
    have foreign : ¬ atMarker.isPrefixOf (command ++ more) = true := by
      rw [List.isPrefixOf_iff_prefix]
      exact command_foreign isCommand more
    dsimp only
    unfold consumeNextMessage
    rw [if_neg some_bytes, if_neg foreign, consumeGAsciiFrame_complete isCommand]
  · intro front begins short
    obtain ⟨body, ofBody, rfl⟩ := isCommand
    have within : front <+: body := by
      rcases List.prefix_concat_iff.mp begins with rfl | within
      · exact absurd short (Nat.lt_irrefl _)
      · exact within
    have printable : ∀ byte ∈ front, isPrintable byte = true := by
      intro byte mem
      exact ofBody.printable byte (within.subset mem)
    by_cases some_bytes : front = []
    · rw [some_bytes]
      rfl
    · have foreign : ¬ atMarker <+: front := fun starts => ofBody.foreign (starts.trans within)
      have untaken : ∀ frame rest, consumeGAsciiFrame front ≠ .taken frame rest := by
        intro frame rest taken
        obtain ⟨isCommand, rfl⟩ := consumeGAsciiFrame_sound taken
        obtain ⟨other, _, rfl⟩ := isCommand
        exact absurd (printable carriageReturn (by simp)) (by decide)
      have proper : ∀ header, decodeHeader (front.take headerSize) = some header →
          headerSize ≤ header.totalLen := by
        intro header decoded
        have long := totalLen_of_printable printable decoded
        simp only [headerSize]
        omega
      have incomplete : consumeEybondFrameIfComplete front = none := by
        unfold consumeEybondFrameIfComplete
        split
        · rfl
        · split
          · rfl
          · rename_i header decoded
            have long := totalLen_of_printable printable decoded
            have size := within.length_le
            have most := ofBody.short
            rw [if_pos (Or.inr (by omega))]
      rw [consumeNextMessage_frame some_bytes foreign untaken proper, incomplete]

theorem IsFrame.long {frame : Bytes} (isFrame : IsFrame frame) : headerSize ≤ frame.length := by
  obtain ⟨header, _, _, _, least, exactly⟩ := isFrame.announced
  omega

theorem IsFrame.not_prefix_command {frame command : Bytes} (isFrame : IsFrame frame)
    (isCommand : IsCommand command) : ¬ frame <+: command := by
  intro begins
  obtain ⟨header, decoded, least, most, -, -⟩ := isFrame.announced
  unfold decodeHeader at decoded
  split at decoded
  · rename_i b0 b1 b2 b3 b4 b5 b6 b7 rest
    cases decoded
    dsimp only at least most
    have inside : b7 ∈ command := begins.subset (by simp)
    obtain ⟨body, ofBody, rfl⟩ := isCommand
    rw [List.mem_append, List.mem_singleton] at inside
    rcases inside with inside | rfl
    · have visible := ofBody.printable b7 inside
      unfold isPrintable at visible
      rw [Bool.and_eq_true, decide_eq_true_eq, decide_eq_true_eq] at visible
      have lowest : 0x20 ≤ b7.toNat := visible.1
      omega
    · exact absurd most (by decide)
  · cases decoded

theorem decodeHeader_take {buffer : Bytes} (long : headerSize ≤ buffer.length) :
    decodeHeader (buffer.take headerSize) = decodeHeader buffer := by
  have whole : headerSize ≤ (buffer.take headerSize).length := by
    rw [List.length_take]
    omega
  have same := decodeHeader_append whole (buffer.drop headerSize)
  rw [List.take_append_drop] at same
  exact same.symm

theorem decodeHeader_begun {frame buffer : Bytes} (isFrame : IsFrame frame)
    (long : headerSize ≤ buffer.length) (begun : buffer <+: frame ∨ frame <+: buffer) :
    decodeHeader (buffer.take headerSize) = decodeHeader frame := by
  rw [decodeHeader_take long]
  rcases begun with ⟨rest, rfl⟩ | ⟨rest, rfl⟩
  · exact (decodeHeader_append long rest).symm
  · exact decodeHeader_append isFrame.long rest

theorem consumeNextMessage_begun {frame buffer : Bytes} (isFrame : IsFrame frame)
    (plain : ¬ BeginsWithCommand frame) (some_bytes : buffer ≠ [])
    (begun : buffer <+: frame ∨ frame <+: buffer) :
    consumeNextMessage buffer =
      match consumeEybondFrameIfComplete buffer with
      | some (frame, rest) => .message ⟨.frame, frame⟩ rest
      | none => .wait := by
  have long := isFrame.long
  apply consumeNextMessage_frame some_bytes
  · intro starts
    rcases begun with within | beyond
    · exact isFrame.foreign (starts.trans within)
    · rcases List.prefix_or_prefix_of_prefix starts beyond with inside | covers
      · exact isFrame.foreign inside
      · have size := covers.length_le
        simp only [headerSize, atMarker, List.length_cons, List.length_nil] at long size
        omega
  · intro command rest taken
    obtain ⟨isCommand, rfl⟩ := consumeGAsciiFrame_sound taken
    have first : command <+: command ++ rest := List.prefix_append _ _
    rcases begun with within | beyond
    · exact plain ⟨command, isCommand, first.trans within⟩
    · rcases List.prefix_or_prefix_of_prefix first beyond with inside | covers
      · exact plain ⟨command, isCommand, inside⟩
      · exact absurd covers (isFrame.not_prefix_command isCommand)
  · intro header decoded
    obtain ⟨own, there, _, _, least, _⟩ := isFrame.announced
    by_cases short : buffer.length < headerSize
    · rw [List.take_of_length_le (by omega)] at decoded
      unfold decodeHeader at decoded
      split at decoded
      · simp only [headerSize, List.length_cons] at short
        omega
      · cases decoded
    · rw [decodeHeader_begun isFrame (Nat.not_lt.mp short) begun, there] at decoded
      cases decoded
      exact least

theorem frame_prompt {frame : Bytes} (isFrame : IsFrame frame)
    (plain : ¬ BeginsWithCommand frame) :
    Prompt consumeNextMessage Message.payload ⟨.frame, frame⟩ := by
  have long := isFrame.long
  obtain ⟨header, decoded, _, _, least, exactly⟩ := isFrame.announced
  constructor
  · intro more
    dsimp only
    have longer : headerSize ≤ (frame ++ more).length := by
      rw [List.length_append]
      omega
    have some_bytes : frame ++ more ≠ [] := by
      intro empty
      rw [empty] at longer
      exact absurd longer (by decide)
    have begun : frame ++ more <+: frame ∨ frame <+: frame ++ more :=
      Or.inr (List.prefix_append _ _)
    have whole : consumeEybondFrameIfComplete (frame ++ more) = some (frame, more) := by
      unfold consumeEybondFrameIfComplete
      rw [if_neg (Nat.not_lt.mpr longer), decodeHeader_begun isFrame longer begun, decoded]
      dsimp only
      rw [if_neg (by rw [List.length_append]; omega), ← exactly, List.take_left, List.drop_left]
    rw [consumeNextMessage_begun isFrame plain some_bytes begun, whole]
  · intro front begins short
    dsimp only at begins short
    by_cases some_bytes : front = []
    · rw [some_bytes]
      rfl
    · have incomplete : consumeEybondFrameIfComplete front = none := by
        unfold consumeEybondFrameIfComplete
        by_cases header_missing : front.length < headerSize
        · rw [if_pos header_missing]
        · rw [if_neg header_missing,
            decodeHeader_begun isFrame (Nat.not_lt.mp header_missing) (Or.inl begins), decoded]
          dsimp only
          rw [if_pos (Or.inr (by omega))]
      rw [consumeNextMessage_begun isFrame plain some_bytes (Or.inl begins), incomplete]

/-- The kinds that are read whatever their bytes are, and the frames no command begins. -/
theorem prompt_of_wellFormed {message : Message} (wellFormed : message.WellFormed)
    (plain : message.kind = .frame → ¬ BeginsWithCommand message.payload) :
    Prompt consumeNextMessage Message.payload message := by
  obtain ⟨kind, payload⟩ := message
  cases kind with
  | atLine => exact atLine_prompt wellFormed
  | ascii => exact command_prompt wellFormed
  | frame => exact frame_prompt wellFormed (plain rfl)

theorem beginsWithCommand_iff (frame : Bytes) : BeginsWithCommand frame ↔
    ∃ command rest, consumeGAsciiFrame frame = .taken command rest := by
  constructor
  · rintro ⟨command, isCommand, rest, rfl⟩
    exact ⟨command, rest, consumeGAsciiFrame_complete isCommand rest⟩
  · rintro ⟨command, rest, taken⟩
    obtain ⟨isCommand, rfl⟩ := consumeGAsciiFrame_sound taken
    exact ⟨command, isCommand, List.prefix_append command rest⟩

instance (frame : Bytes) : Decidable (BeginsWithCommand frame) :=
  match look : consumeGAsciiFrame frame with
  | .taken command rest => .isTrue ((beginsWithCommand_iff frame).mpr ⟨command, rest, look⟩)
  | .absent => .isFalse fun begins => by
    obtain ⟨command, rest, taken⟩ := (beginsWithCommand_iff frame).mp begins
    rw [look] at taken
    cases taken
  | .incomplete => .isFalse fun begins => by
    obtain ⟨command, rest, taken⟩ := (beginsWithCommand_iff frame).mp begins
    rw [look] at taken
    cases taken

/-- The first frame that a command begins is not read as a frame: the messages in front of it are,
    and then the command is. -/
theorem command_read {front : List Message} {frame : Bytes} {rest : Bytes} {chunks : List Bytes}
    (prompt : ∀ message ∈ front, Prompt consumeNextMessage Message.payload message)
    (begins : BeginsWithCommand frame)
    (split : chunks.flatten = front.flatMap Message.payload ++ (frame ++ rest)) :
    ∃ command behind, front ++ ⟨.ascii, command⟩ :: behind = (receive chunks).messages := by
  obtain ⟨command, isCommand, more, rfl⟩ := begins
  have through : ∀ message ∈ front ++ [⟨.ascii, command⟩],
      Prompt consumeNextMessage Message.payload message := by
    rw [List.forall_mem_append]
    refine ⟨prompt, ?_⟩
    rw [List.forall_mem_singleton]
    exact command_prompt isCommand
  have stream : chunks.flatten =
      (front ++ [Message.mk .ascii command]).flatMap Message.payload ++ (more ++ rest) := by
    rw [split, List.flatMap_append]
    simp
  obtain ⟨outcome, read, _⟩ := feed_front consumeNextMessage_settles through stream
  refine ⟨command, outcome.messages, ?_⟩
  unfold receive
  rw [read]
  simp [Outcome.behind]

/-- A stream of AT lines, commands and frames is read as what it is made of, however it is cut,
    exactly when none of the frames begins with a command. -/
theorem receive_exact {messages : List Message} {chunks : List Bytes}
    (wellFormed : ∀ message ∈ messages, message.WellFormed)
    (split : chunks.flatten = messages.flatMap Message.payload) :
    receive chunks = ⟨messages, [], none⟩ ↔
      ∀ message ∈ messages, message.kind = .frame → ¬ BeginsWithCommand message.payload := by
  constructor
  · intro read
    -- front by front: the first frame that is misread would show as a command
    have plain : ∀ front back, messages = front ++ back → ∀ message ∈ front,
        message.kind = .frame → ¬ BeginsWithCommand message.payload := by
      intro front
      induction front using List.reverseRecOn with
      | nil => simp
      | append_singleton front message ih =>
        intro back whole
        rw [List.append_assoc] at whole
        have before := ih _ whole
        rw [List.forall_mem_append, List.forall_mem_singleton]
        refine ⟨before, fun isFrame begins => ?_⟩
        have prompt : ∀ other ∈ front, Prompt consumeNextMessage Message.payload other := by
          intro other mem
          apply prompt_of_wellFormed (wellFormed other _) (before other mem)
          rw [whole]
          exact List.mem_append_left _ mem
        have stream : chunks.flatten = front.flatMap Message.payload ++
            (message.payload ++ back.flatMap Message.payload) := by
          rw [split, whole, List.flatMap_append]
          simp
        obtain ⟨command, behind, misread⟩ := command_read prompt begins stream
        rw [read, whole] at misread
        have same := List.append_cancel_left misread
        rw [List.singleton_append, List.cons.injEq] at same
        rw [← same.1] at isFrame
        cases isFrame
    exact plain messages [] (List.append_nil messages).symm
  · intro plain
    apply feed_prompt consumeNextMessage_settles _ split
    intro message mem
    exact prompt_of_wellFormed (wellFormed message mem) (plain message mem)

section Examples

def endpointQuestion : Message := ⟨.atLine, [0x41, 0x54, 0x2B, 0x41, 0x3F, 0x0D, 0x0A]⟩

def statusCommand : Message := ⟨.ascii, [0x51, 0x50, 0x49, 0x47, 0x53, 0x0D]⟩

def returnsFrame : Message :=
  ⟨.frame, [0x41, 0x01, 0x0D, 0x0D, 0x00, 0x04, 0x01, 0x04, 0xAA, 0xBB]⟩

/-- Transaction `A` and a carriage return, function 2 and two payload bytes. -/
def letterFrame : Message := ⟨.frame, [0x41, 0x0D, 0x00, 0x01, 0x00, 0x04, 0x00, 0x02, 0x01, 0x01]⟩

def letterCommand : Message := ⟨.ascii, [0x41, 0x0D]⟩

def shortFrame : Message := ⟨.frame, [0x00, 0x01, 0x00, 0x04, 0x00, 0x02, 0x01, 0x01]⟩

theorem letters_wellFormed : ∀ message ∈ [endpointQuestion, returnsFrame, statusCommand],
    message.WellFormed := by
  simp only [List.forall_mem_cons, List.not_mem_nil, false_implies, implies_true, and_true]
  refine ⟨⟨⟨[0x41, 0x54, 0x2B, 0x41, 0x3F, 0x0D], rfl, by decide⟩, ⟨_, rfl⟩⟩,
    ⟨⟨_, rfl, by decide⟩, by decide⟩, [0x51, 0x50, 0x49, 0x47, 0x53], ?_, rfl⟩
  exact ⟨⟨_, _, rfl, rfl⟩, by decide, by decide +kernel, by decide⟩

def letterChunks : List Bytes :=
  [[0x41], [0x54, 0x2B, 0x41, 0x3F, 0x0D], [0x0A, 0x41, 0x01, 0x0D, 0x0D, 0x00],
    [0x04, 0x01, 0x04, 0xAA, 0xBB, 0x51, 0x50], [0x49, 0x47, 0x53, 0x0D]]

theorem receive_exact_letters :
    receive letterChunks = ⟨[endpointQuestion, returnsFrame, statusCommand], [], none⟩ := by
  apply (receive_exact letters_wellFormed ?_).mpr
  · decide +kernel
  · decide +kernel

/-- The frame has the bytes of a command and of another frame behind it, and both ways to read
    them are well formed. -/
theorem letterFrame_misread :
    (letterFrame.WellFormed ∧ letterCommand.WellFormed ∧ shortFrame.WellFormed) ∧
      letterFrame.payload = [letterCommand, shortFrame].flatMap Message.payload ∧
      receive [letterFrame.payload] = ⟨[letterCommand, shortFrame], [], none⟩ ∧
      receive [letterFrame.payload] ≠ ⟨[letterFrame], [], none⟩ := by
  have letter : CommandBody [0x41] := ⟨⟨_, _, rfl, rfl⟩, by decide, by decide +kernel, by decide⟩
  refine ⟨⟨⟨⟨_, rfl, by decide⟩, by decide⟩, ⟨_, letter, rfl⟩, ⟨_, rfl, by decide⟩, by decide⟩, rfl, ?_⟩
  decide +kernel

end Examples

end ShadowBackend
