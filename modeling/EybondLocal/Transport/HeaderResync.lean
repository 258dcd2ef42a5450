import EybondLocal.Transport.StrayReplies

/-!
Resynchronising behind leftover bytes that came where a header was expected. Everything of the
burst is taken, and what is kept of it starts at the first plausible header whose frame ends
exactly where the burst does; later arrivals are not touched.
-/
namespace ReadLoop
open BinaryFraming PrefixedReader

/-- The first byte arrives whenever it does, and everything else follows it without a gap. -/
structure Burst (reader : Reader) (data : Bytes) (later : Reader) : Prop where
  begins : ∃ first more begun, data = first :: more ∧
    reader.readexactly false 1 = .bytes [first] begun ∧ begun.takeAvailable = .bytes more later

section Taking
variable {reader later : Reader} {data arrived seen : Bytes} {coming : List Bytes}
  {schedule : List Wake} {bounded : Bool} {size : Nat}

/-- Bytes that have arrived in front are taken in front. -/
theorem streamTakeAvailable_append
    (taken : streamTakeAvailable coming (seen ++ arrived) schedule = .bytes data later) :
    ∃ more, data = seen ++ more ∧ streamTakeAvailable coming arrived schedule = .bytes more later := by
  induction coming generalizing arrived schedule with
  | nil =>
    unfold streamTakeAvailable at taken ⊢
    split at taken
    · cases taken
    · cases taken
      exact ⟨arrived, rfl, rfl⟩
    · cases taken
      exact ⟨arrived, rfl, rfl⟩
    · contradiction
  | cons chunk rest ih =>
    unfold streamTakeAvailable at taken ⊢
    split at taken
    · cases taken
    · cases taken
      exact ⟨arrived, rfl, rfl⟩
    · contradiction
    · rename_i same _
      cases same
      rw [List.append_assoc] at taken
      exact ih taken

theorem nextWake_data (woken : nextWake true schedule = .data) :
    nextWake bounded schedule = .data := by
  unfold nextWake at woken ⊢
  split at woken
  · cases woken
  · rw [woken]

theorem streamReadexactly_arrived (there : size ≤ arrived.length)
    (taken : streamTakeAvailable coming arrived schedule = .bytes data later) :
    ∃ next, streamReadexactly bounded size coming arrived schedule = .bytes (data.take size) next ∧
      next.takeAvailable = .bytes (data.drop size) later := by
  have sizes : (arrived.take size).length = size := List.length_take_of_le there
  rw [← List.take_append_drop size arrived] at taken
  obtain ⟨more, whole, kept⟩ := streamTakeAvailable_append taken
  refine ⟨⟨[], arrived.drop size, coming, schedule⟩, ?_, ?_⟩
  · unfold streamReadexactly
    rw [if_pos there, whole, List.take_left' sizes]
  · unfold Reader.takeAvailable
    rw [kept, whole, List.drop_left' sizes]
    rfl

theorem streamReadexactly_taken
    (taken : streamTakeAvailable coming arrived schedule = .bytes data later)
    (enough : size ≤ data.length) :
    ∃ next, streamReadexactly bounded size coming arrived schedule = .bytes (data.take size) next ∧
      next.takeAvailable = .bytes (data.drop size) later := by
  induction coming generalizing arrived schedule with
  | nil =>
    have there : size ≤ arrived.length := by
      unfold streamTakeAvailable at taken
      split at taken
      · cases taken
      · cases taken
        exact enough
      · cases taken
        exact enough
      · contradiction
    exact streamReadexactly_arrived there taken
  | cons chunk rest ih =>
    by_cases there : size ≤ arrived.length
    · exact streamReadexactly_arrived there taken
    · unfold streamTakeAvailable at taken
      split at taken
      · cases taken
      · cases taken
        exact absurd enough there
      · contradiction
      · rename_i same woken
        cases same
        obtain ⟨next, read, left⟩ := ih taken
        refine ⟨next, ?_, left⟩
        unfold streamReadexactly
        rw [if_neg there, nextWake_data woken]
        exact read

theorem readexactly_taken (bounded : Bool) (taken : reader.takeAvailable = .bytes data later)
    (enough : size ≤ data.length) :
    ∃ next, reader.readexactly bounded size = .bytes (data.take size) next ∧
      next.takeAvailable = .bytes (data.drop size) later := by
  unfold Reader.takeAvailable at taken
  split at taken
  · rename_i tail after run
    cases taken
    unfold Reader.readexactly
    by_cases pushed : size ≤ reader.buffer.length
    · rw [if_pos pushed, List.take_append_of_le_length pushed,
        List.drop_append_of_le_length pushed]
      refine ⟨_, rfl, ?_⟩
      unfold Reader.takeAvailable
      rw [run]
    · rw [if_neg pushed]
      have short : size - reader.buffer.length ≤ tail.length := by
        rw [List.length_append] at enough
        omega
      obtain ⟨next, read, left⟩ := streamReadexactly_taken run short
      have all : reader.buffer.length ≤ size := by omega
      refine ⟨next, ?_, ?_⟩
      · rw [read, List.take_append, List.take_of_length_le all]
      · rw [left, List.drop_append, List.drop_of_length_le all, List.nil_append]
  · rename_i other
    exact absurd taken (other data later)

end Taking

def standalone (bytes : Bytes) : Reader := ⟨bytes, [], [], []⟩

section PushedBack
variable {later : Reader} {bounded : Bool} {size : Nat} {bytes rest payload : Bytes}
  {header : EybondHeader} {state stateAfter : LoopState}

/-- A read of pushed-back bytes is the same whatever comes behind them. -/
theorem readexactly_unread (later : Reader) (bounded : Bool) (size : Nat) (bytes : Bytes) :
    (standalone bytes).readexactly bounded size = .eof ∨
      ∃ data kept, (standalone bytes).readexactly bounded size = .bytes data (standalone kept) ∧
        (later.unread bytes).readexactly bounded size = .bytes data (later.unread kept) := by
  by_cases pushed : size ≤ bytes.length
  · have more : size ≤ (bytes ++ later.buffer).length := by
      rw [List.length_append]
      omega
    refine Or.inr ⟨bytes.take size, bytes.drop size, if_pos pushed, (if_pos more).trans ?_⟩
    unfold Reader.unread
    dsimp only
    rw [List.take_append_of_le_length pushed, List.drop_append_of_le_length pushed]
  · left
    have waits : ¬ size - bytes.length ≤ ([] : Bytes).length := by
      rw [List.length_nil]
      omega
    have stream : streamReadexactly bounded (size - bytes.length) [] [] [] = .eof := by
      unfold streamReadexactly
      rw [if_neg waits]
      rfl
    unfold Reader.readexactly standalone
    dsimp only
    rw [if_neg pushed, stream]

/-- The step of a frame that is handed on from pushed-back bytes alone is made whatever comes
    behind them, when what follows the read is. -/
theorem awaitRead_unread {timedOut : Reader → Iteration} {got : Bytes → Reader → Iteration}
    (handed : awaitRead ((standalone bytes).readexactly bounded size) timedOut got =
      .handedOn header payload stateAfter (standalone rest))
    (goesOn : ∀ data kept,
      got data (standalone kept) = .handedOn header payload stateAfter (standalone rest) →
      got data (later.unread kept) = .handedOn header payload stateAfter (later.unread rest)) :
    awaitRead ((later.unread bytes).readexactly bounded size) timedOut got =
      .handedOn header payload stateAfter (later.unread rest) := by
  rcases readexactly_unread later bounded size bytes with eof | ⟨data, kept, read, same⟩
  · rw [eof] at handed
    cases handed
  · rw [read] at handed
    rw [same]
    exact goesOn data kept handed

theorem standalone_unread (bytes front : Bytes) :
    (standalone bytes).unread front = standalone (front ++ bytes) := rfl

theorem unread_unread (reader : Reader) (bytes front : Bytes) :
    (reader.unread bytes).unread front = reader.unread (front ++ bytes) := by
  unfold Reader.unread
  rw [List.append_assoc]

theorem standalone_injective {first second : Bytes} (same : standalone first = standalone second) :
    first = second := congrArg Reader.buffer same

theorem handOn_unread {claimed : EybondHeader} {data : Bytes}
    (handed : handOn state claimed data (standalone bytes) =
      .handedOn header payload stateAfter (standalone rest)) :
    handOn state claimed data (later.unread bytes) =
      .handedOn header payload stateAfter (later.unread rest) := by
  unfold handOn at handed ⊢
  injection handed with sameHeader samePayload sameState sameReader
  rw [sameHeader, samePayload, sameState, standalone_injective sameReader]

theorem readPayload_unread {claimed : EybondHeader}
    (handed : readPayload state claimed (standalone bytes) =
      .handedOn header payload stateAfter (standalone rest)) :
    readPayload state claimed (later.unread bytes) =
      .handedOn header payload stateAfter (later.unread rest) := by
  unfold readPayload at handed ⊢
  split at handed
  · rename_i some_payload
    rw [if_pos some_payload]
    apply awaitRead_unread handed
    intro data kept got
    exact handOn_unread got
  · rename_i no_payload
    rw [if_neg no_payload]
    exact handOn_unread handed

theorem acceptedHeader_unread {claimed : EybondHeader} {headerBytes : Bytes}
    (handed : acceptedHeader state headerBytes claimed (standalone bytes) =
      .handedOn header payload stateAfter (standalone rest)) :
    acceptedHeader state headerBytes claimed (later.unread bytes) =
      .handedOn header payload stateAfter (later.unread rest) := by
  unfold acceptedHeader at handed ⊢
  dsimp only at handed ⊢
  split at handed
  · rename_i candidate
    rw [if_pos candidate]
    apply awaitRead_unread handed
    intro rtuTail kept got
    split at got
    · cases got
    · rename_i failed
      rw [if_neg failed, unread_unread]
      rw [standalone_unread] at got
      exact readPayload_unread got
  · rename_i no_candidate
    rw [if_neg no_candidate]
    exact readPayload_unread handed

theorem rejectedHeader_not_handedOn (state : LoopState) (headerBytes : Bytes)
    (headerError : String) (reader after : Reader) :
    rejectedHeader state headerBytes headerError reader ≠
      .handedOn header payload stateAfter after := by
  have awaited : ∀ (reply : Reply) (timedOut : Reader → Iteration)
      (got : Bytes → Reader → Iteration),
      (∀ reader, timedOut reader ≠ .handedOn header payload stateAfter after) →
      (∀ data reader, got data reader ≠ .handedOn header payload stateAfter after) →
      awaitRead reply timedOut got ≠ .handedOn header payload stateAfter after := by
    intro reply timedOut got late read
    cases reply with
    | bytes data reader => exact read data reader
    | timeout reader => exact late reader
    | eof => simp [awaitRead]
    | cancelled => simp [awaitRead]
  unfold rejectedHeader
  dsimp only
  split
  · apply awaited
    · intro reader
      apply awaited <;> simp
    · intro data reader
      split <;> simp
  · split
    · simp
    · unfold resyncAfterUnrecognisedHeader
      dsimp only
      split
      · simp
      · apply awaited
        · simp
        · intro data reader
          split <;> simp

theorem readHeader_unread {start : Bytes}
    (handed : readHeader state start (standalone bytes) =
      .handedOn header payload stateAfter (standalone rest)) :
    readHeader state start (later.unread bytes) =
      .handedOn header payload stateAfter (later.unread rest) := by
  unfold readHeader at handed ⊢
  apply awaitRead_unread handed
  intro more kept got
  dsimp only at got ⊢
  split at got
  · cases got
  · split at got
    · exact absurd got (rejectedHeader_not_handedOn _ _ _ _ _)
    · rename_i accepted
      rw [if_neg accepted]
      exact acceptedHeader_unread got

theorem framedIteration_unread {start : Bytes}
    (handed : framedIteration state start (standalone bytes) =
      .handedOn header payload stateAfter (standalone rest)) :
    framedIteration state start (later.unread bytes) =
      .handedOn header payload stateAfter (later.unread rest) := by
  unfold framedIteration at handed ⊢
  dsimp only at handed ⊢
  split at handed
  · rename_i candidate
    rw [if_pos candidate]
    apply awaitRead_unread handed
    intro rtuTail kept got
    split at got
    · cases got
    · rename_i failed
      rw [if_neg failed, unread_unread]
      rw [standalone_unread] at got
      exact readHeader_unread got
  · rename_i no_candidate
    rw [if_neg no_candidate]
    exact readHeader_unread handed

theorem iteration_unread
    (handed : iteration {} state (standalone bytes) =
      .handedOn header payload stateAfter (standalone rest)) :
    iteration {} state (later.unread bytes) =
      .handedOn header payload stateAfter (later.unread rest) := by
  unfold iteration at handed ⊢
  rw [if_neg Bool.false_ne_true] at handed ⊢
  apply awaitRead_unread handed
  intro first kept got
  apply awaitRead_unread got
  intro more kept got
  dsimp only at got ⊢
  split at got
  · unfold atIteration at got
    split at got <;> cases got
  · rename_i notAt
    rw [if_neg notAt]
    rw [if_neg Bool.false_ne_true] at got ⊢
    exact framedIteration_unread got

end PushedBack

theorem standalone_of_still {reader : Reader} (still : Still reader) (empty : reader.pending = []) :
    reader = standalone [] := by
  obtain ⟨buffer, arrived, coming, schedule⟩ := reader
  obtain ⟨rfl, rfl⟩ := still
  unfold Reader.pending at empty
  obtain ⟨rfl, rest⟩ := List.append_eq_nil_iff.mp empty
  obtain ⟨rfl, -⟩ := List.append_eq_nil_iff.mp rest
  rfl

theorem frame_pushedBack (frame : EybondFrame) (state : LoopState) (later : Reader) :
    iteration {} state (later.unread frame.wire) =
      handOn state frame.header frame.payload later := by
  have still : Still (standalone frame.wire) := ⟨rfl, rfl⟩
  have pending : (standalone frame.wire).pending = frame.wire ++ [] := rfl
  obtain ⟨after, handed, stillAfter, pendingAfter⟩ := frame_iteration frame state still pending
  rw [standalone_of_still stillAfter pendingAfter] at handed
  exact iteration_unread handed

/-- Leftover bytes whose front is taken neither for a header nor for a bare reply, and in which
    no plausible header announces a frame that reaches past them. -/
structure JunkBefore (junk rest : Bytes) : Prop where
  nonempty : junk ≠ []
  rejected : ∀ header ∈ decodeHeader (junk ++ rest), runtimeEybondHeaderError header ≠ ""
  notReply : looksLikeStrayModbusRtuReply (junk ++ rest) = false
  clear : ∀ offset < junk.length, ∀ header ∈ decodeHeader ((junk ++ rest).drop offset),
    runtimeEybondHeaderError header = "" →
      (offset : Int) + headerSize + header.payloadLen ≤ junk.length

theorem decodeHeader_take (bytes : Bytes) :
    decodeHeader (bytes.take headerSize) = decodeHeader bytes := by
  match bytes with
  | [] | [_] | [_, _] | [_, _, _] | [_, _, _, _] | [_, _, _, _, _] | [_, _, _, _, _, _]
  | [_, _, _, _, _, _, _] => rfl
  | _ :: _ :: _ :: _ :: _ :: _ :: _ :: _ :: _ => rfl

/-- The first frame that ends with the burst is the one behind the leftover bytes. -/
theorem findTrailing_junk {junk : Bytes} (frame : EybondFrame)
    (leftover : JunkBefore junk frame.wire) :
    findTrailingEybondFrame (junk ++ frame.wire) = some junk.length := by
  have wireLength := frame_length frame
  have complete := frame.complete
  have positive : 0 < junk.length := List.length_pos_iff.mpr leftover.nonempty
  unfold findTrailingEybondFrame
  rw [List.find?_range'_eq_some]
  refine ⟨?_, ?_, ?_⟩
  · have decoded : decodeHeader (frame.wire.take headerSize) = some frame.header := by
      rw [frame_take_header, frame.decoded]
    rw [List.drop_left, decoded]
    simp only [frame.accepted, beq_self_eq_true, Bool.true_and, decide_eq_true_eq,
      List.length_append]
    omega
  · rw [List.mem_range'_1, List.length_append]
    omega
  · intro offset _ before
    rw [decodeHeader_take]
    cases decoded : decodeHeader ((junk ++ frame.wire).drop offset) with
    | none => rfl
    | some header =>
      cases accepted : runtimeEybondHeaderError header == "" with
      | false => simp [accepted]
      | true =>
        have within := leftover.clear offset before header decoded (beq_iff_eq.mp accepted)
        simp only [accepted, Bool.true_and, Bool.not_eq_true', decide_eq_false_iff_not,
          List.length_append]
        unfold headerSize at wireLength
        omega

/-- What decides whether bytes look like a bare reply is among the first three. -/
theorem looksLike_take {size : Nat} (covers : 3 ≤ size) (bytes : Bytes) :
    looksLikeStrayModbusRtuReply (bytes.take size) = looksLikeStrayModbusRtuReply bytes := by
  obtain ⟨more, rfl⟩ := Nat.exists_eq_add_of_le' covers
  match bytes with
  | [] => rfl
  | [_] => rfl
  | [_, _] => rfl
  | _ :: _ :: _ :: _ => rfl

theorem announced_of_not_looksLike {bytes : Bytes}
    (other : looksLikeStrayModbusRtuReply bytes = false) : strayModbusRtuReplyLength bytes = 0 := by
  unfold strayModbusRtuReplyLength
  split
  · apply if_pos
    right
    rw [looksLike_take (Nat.le_refl 3)]
    exact other
  · rfl

def noteResync (state : LoopState) : LoopState :=
  { state with headerResyncStreak := state.headerResyncStreak + 1 }

theorem junk_rejectedHeader {junk : Bytes} {reader later : Reader} {state : LoopState}
    (frame : EybondFrame) (leftover : JunkBefore junk frame.wire) (error : String)
    (delivered : 0 < state.framesThisSession)
    (streak : state.headerResyncStreak < headerResyncLimit)
    (taken : reader.takeAvailable = .bytes ((junk ++ frame.wire).drop headerSize) later) :
    rejectedHeader state ((junk ++ frame.wire).take headerSize) error reader =
      .next (noteResync state) (later.unread frame.wire) := by
  have other : looksLikeStrayModbusRtuReply ((junk ++ frame.wire).take headerSize) = false := by
    rw [looksLike_take (by decide)]
    exact leftover.notReply
  have open_session : ¬ (state.framesThisSession = 0 ∨
      headerResyncLimit ≤ state.headerResyncStreak) := by omega
  have short : ¬ headerSize < 0 := Nat.not_lt_zero _
  unfold rejectedHeader
  dsimp only
  rw [announced_of_not_looksLike other, if_neg short, other, if_neg Bool.false_ne_true]
  unfold resyncAfterUnrecognisedHeader
  rw [if_neg open_session, taken]
  dsimp only [awaitRead]
  rw [List.take_append_drop, findTrailing_junk frame leftover]
  dsimp only
  rw [List.drop_left]
  rfl

theorem junk_iteration {junk : Bytes} {reader later : Reader} {state : LoopState}
    (frame : EybondFrame) (leftover : JunkBefore junk frame.wire)
    (notAtLine : (junk ++ frame.wire).take 3 ≠ atMarker)
    (delivered : 0 < state.framesThisSession)
    (streak : state.headerResyncStreak < headerResyncLimit)
    (burst : Burst reader (junk ++ frame.wire) later) :
    iteration {} state reader = .next (noteResync state) (later.unread frame.wire) := by
  have wireLength := frame_length frame
  obtain ⟨first, more, begun, whole, readOne, taken⟩ := burst.begins
  have long : 7 ≤ more.length := by
    have length := congrArg List.length whole
    rw [List.length_append, List.length_cons] at length
    unfold headerSize at wireLength
    have positive := List.length_pos_iff.mpr leftover.nonempty
    omega
  have start : [first] ++ more.take 2 = (junk ++ frame.wire).take 3 := by
    rw [whole]
    rfl
  have startLength : ([first] ++ more.take 2).length = 3 := by
    rw [List.length_append, List.length_take_of_le (by omega), List.length_singleton]
  have headerBytes : [first] ++ more.take 2 ++ (more.drop 2).take 5 =
      (junk ++ frame.wire).take headerSize := by
    rw [whole, List.append_assoc, ← List.take_add]
    rfl
  have behind : (more.drop 2).drop 5 = (junk ++ frame.wire).drop headerSize := by
    rw [whole, List.drop_drop]
    rfl
  have notReply : strayModbusRtuReplyLength ([first] ++ more.take 2) = 0 := by
    rw [start]
    apply announced_of_not_looksLike
    rw [looksLike_take (Nat.le_refl 3)]
    exact leftover.notReply
  have notAt : [first] ++ more.take 2 ≠ atMarker := by
    rw [start]
    exact notAtLine
  have rest : 5 ≤ (more.drop 2).length := by
    rw [List.length_drop]
    omega
  obtain ⟨two, readTwo, takenTwo⟩ :=
    readexactly_taken true taken (Nat.le_trans (by decide : 2 ≤ 7) long)
  obtain ⟨eight, readEight, takenEight⟩ := readexactly_taken true takenTwo rest
  rw [behind] at takenEight
  have enough : headerSize ≤ (junk ++ frame.wire).length := by
    rw [List.length_append]
    omega
  obtain ⟨header, decoded⟩ := decodeHeader_of_length enough
  have rejected := leftover.rejected header decoded
  rw [← decodeHeader_take] at decoded
  unfold iteration
  rw [if_neg Bool.false_ne_true, readOne]
  dsimp only [awaitRead]
  rw [readTwo]
  dsimp only
  rw [if_neg notAt, if_neg Bool.false_ne_true]
  unfold framedIteration
  rw [notReply, if_neg (by omega)]
  unfold readHeader
  rw [startLength, show headerSize - 3 = 5 from rfl, readEight]
  dsimp only [awaitRead]
  rw [headerBytes, decoded]
  dsimp only
  rw [if_pos rejected]
  exact junk_rejectedHeader frame leftover _ delivered streak takenEight

section Steps
variable {view : AuxiliaryView} {fuel : Nat} {views : List AuxiliaryView}
  {state stateAfter : LoopState} {reader after : Reader} {header : EybondHeader} {payload : Bytes}

theorem loop_next (goesOn : iteration view state reader = .next stateAfter after) :
    loop (fuel + 1) (view :: views) state reader = loop fuel views stateAfter after := by
  rw [loop, List.headD_cons, goesOn, List.tail_cons]

theorem loop_handedOn
    (handed : iteration view state reader = .handedOn header payload stateAfter after) :
    loop (fuel + 1) (view :: views) state reader =
      { loop fuel views stateAfter after with
        handed := (header, payload) :: (loop fuel views stateAfter after).handed } := by
  rw [loop, List.headD_cons, handed, List.tail_cons]

end Steps

/-- The loop takes the burst as these frames behind leftover bytes: it hands them on in order and
    goes on with what comes later. -/
def HandsOn (junk : Bytes) (frames : List EybondFrame) (state : LoopState) : Prop :=
  ∀ reader later views fuel, Burst reader (junk ++ (frames.map EybondFrame.wire).flatten) later →
    let framed : List AuxiliaryView := List.replicate (frames.length + 1) {}
    let rest := loop fuel views (noteFrame^[frames.length] state) later
    loop (fuel + (frames.length + 1)) (framed ++ views) state reader =
      { rest with
        handed := frames.map (fun frame => (frame.header, frame.payload)) ++ rest.handed }

/-- Leftover bytes in front of one frame are all that a session loses to a resynchronisation,
    whatever bytes of the frame look like a header. -/
theorem resync_handsOn (junk : Bytes) (frame : EybondFrame) (state : LoopState)
    (leftover : JunkBefore junk frame.wire)
    (notAtLine : (junk ++ frame.wire).take 3 ≠ atMarker)
    (delivered : 0 < state.framesThisSession)
    (streak : state.headerResyncStreak < headerResyncLimit) : HandsOn junk [frame] state := by
  intro reader later views fuel burst
  have single : ([frame].map EybondFrame.wire).flatten = frame.wire := by simp
  rw [single] at burst
  have resynced := junk_iteration frame leftover notAtLine delivered streak burst
  have handed := frame_pushedBack frame (noteResync state) later
  unfold handOn at handed
  change loop (fuel + 1 + 1) ({} :: {} :: views) state reader = _
  rw [loop_next resynced, loop_handedOn handed]
  rfl

def fragment : Bytes := [0, 0, 0, 0, 0, 0, 0, 0x6C]

theorem fragment_before : JunkBefore fragment heartbeatFrame.wire where
  nonempty := by decide
  rejected := by decide +kernel
  notReply := by decide
  clear := by decide +kernel

theorem resync_handsOn_fragment : HandsOn fragment [heartbeatFrame] ⟨1, 1, 0⟩ :=
  resync_handsOn fragment heartbeatFrame ⟨1, 1, 0⟩ fragment_before (by decide) (by decide)
    (by decide)

theorem burst_arrived (first : UInt8) (more : Bytes) :
    Burst ⟨[], first :: more, [], []⟩ (first :: more) ⟨[], [], [], []⟩ where
  begins := ⟨first, more, ⟨[], more, [], []⟩, rfl, rfl, rfl⟩

/-- An AT line, then the first bytes of a bare reply longer than a header. -/
def atLineThenReply : Bytes := [0x41, 0x54, 0x2B, 0x0D, 0x0A, 1, 3, 6]

/-- Of two frames behind the leftover bytes only the second is kept, the third resynchronisation
    in a row closes, and leftover bytes that start an AT line are read as one. -/
theorem resync_loses :
    (JunkBefore fragment (heartbeatFrame.wire ++ heartbeatFrame.wire) ∧
      ¬ HandsOn fragment [heartbeatFrame, heartbeatFrame] ⟨1, 0, 0⟩) ∧
    (JunkBefore fragment heartbeatFrame.wire ∧ ¬ HandsOn fragment [heartbeatFrame] ⟨1, 2, 0⟩) ∧
    JunkBefore atLineThenReply heartbeatFrame.wire ∧
      ¬ HandsOn atLineThenReply [heartbeatFrame] ⟨1, 0, 0⟩ := by
  have twice := burst_arrived 0 (fragment.tail ++ heartbeatFrame.wire ++ heartbeatFrame.wire)
  have once := burst_arrived 0 (fragment.tail ++ heartbeatFrame.wire)
  have line := burst_arrived 0x41 (atLineThenReply.tail ++ heartbeatFrame.wire)
  refine ⟨⟨⟨?_, ?_, ?_, ?_⟩, ?_⟩, ⟨fragment_before, ?_⟩, ⟨?_, ?_, ?_, ?_⟩, ?_⟩
  all_goals try decide +kernel
  · intro handsOn
    have kept := congrArg LoopResult.handed (handsOn _ _ [] 1 twice)
    revert kept
    decide +kernel
  · intro handsOn
    have kept := congrArg LoopResult.handed (handsOn _ _ [] 1 once)
    revert kept
    decide +kernel
  · intro handsOn
    have kept := congrArg LoopResult.handed (handsOn _ _ [] 1 line)
    revert kept
    decide +kernel

end ReadLoop
