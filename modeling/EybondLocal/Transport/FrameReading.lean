import EybondLocal.Transport.Fragmentation
import Mathlib.Data.Nat.Basic

/-!
A reader that supplies exactly the bytes the decoder asks for, as `async_read_binary_frame`
does, stops at the end of the frame; with it, the decoder's independence of fragmentation.
-/
namespace FrameDecoder
open BinaryFraming

section reading
open Decoder
variable {Time : Type} {grammar : BinaryGrammar} {now deadline : Time} {seen : Bytes}

/-- Up to the bytes needed, everything supplied is kept. -/
theorem holding_fits (opened : (holding grammar now deadline seen).IsOpen) (piece : Bytes)
    (fits : piece.length ≤ (holding grammar now deadline seen).bytesNeeded) :
    (holding grammar now deadline (seen ++ piece)).buffer = seen ++ piece := by
  obtain ⟨kept, room⟩ := open_buffer opened
  have needed : (holding grammar now deadline seen).bytesNeeded =
      (holding grammar now deadline seen).target - seen.length := by
    simp [bytesNeeded, opened.1, opened.2, kept]
  by_cases empty : piece = []
  · rw [empty, List.append_nil, kept]
  · rw [← settle_holding opened piece empty (by omega), settle_buffer, kept]

/-- While everything supplied was kept, it is the beginning of any frame published later. -/
theorem supplied_within (kept : (holding grammar now deadline seen).buffer = seen) {rest : Bytes}
    {frame : BinaryFrame}
    (published : (holding grammar now deadline (seen ++ rest)).result = some frame) :
    seen <+: frame.wire := by
  obtain ⟨boundary, _, _, whole, wire, _, _, buffer, _⟩ := holding_frame published
  have grown := holding_grows grammar now deadline seen rest
  rw [kept, buffer] at grown
  rw [wire] at grown ⊢
  exact List.prefix_of_prefix_length_le (List.prefix_append _ _) (List.take_prefix _ _) grown

variable [LinearOrder Time]

/-- Each chunk has exactly the bytes the decoder asks for when it is fed. -/
def Exact (d : Decoder Time) : List (Time × Bytes) → Prop
  | [] => True
  | (now, data) :: rest => data.length = d.bytesNeeded ∧ Exact (d.feed data (some now)).1 rest

theorem exact_within (seen : Bytes) {last : Time} (chunks : List (Time × Bytes))
    (kept : (holding grammar last deadline seen).buffer = seen)
    (timely : Timely last deadline chunks)
    (exact : Exact (holding grammar last deadline seen) chunks) {rest : Bytes} {frame : BinaryFrame}
    (published : (holding grammar last deadline (seen ++ (bytesOf chunks ++ rest))).result =
      some frame) :
    seen ++ bytesOf chunks <+: frame.wire := by
  induction chunks generalizing last seen with
  | nil =>
    have same : seen ++ bytesOf ([] : List (Time × Bytes)) = seen := by simp [bytesOf]
    rw [same]
    exact supplied_within kept published
  | cons chunk chunks ih =>
    obtain ⟨now, data⟩ := chunk
    obtain ⟨later, early, timely⟩ := timely
    obtain ⟨size, exact⟩ := exact
    have all : bytesOf ((now, data) :: chunks) = data ++ bytesOf chunks := by simp [bytesOf]
    have silent : (holding grammar last deadline seen).error = "" := by
      by_contra failed
      rw [holding_closed fun opened => failed opened.1] at published
      obtain ⟨_, _, _, _, _, _, _, _, silent, _⟩ := holding_frame published
      exact failed silent
    have kept' : (holding grammar now deadline (seen ++ data)).buffer = seen ++ data := by
      rw [holding_buffer_at grammar deadline _ now last]
      by_cases opened : (holding grammar last deadline seen).IsOpen
      · exact holding_fits opened data (Nat.le_of_eq size)
      · have full : (holding grammar last deadline seen).bytesNeeded = 0 := by
          have decided : (holding grammar last deadline seen).result ≠ none := fun undecided =>
            opened ⟨silent, undecided⟩
          simp [bytesNeeded, decided]
        have empty : data = [] := List.eq_nil_of_length_eq_zero (size.trans full)
        rw [empty, List.append_nil, kept]
    rw [feed_holding silent later early data] at exact
    rw [all, List.append_assoc, ← List.append_assoc] at published
    rw [all, ← List.append_assoc]
    refine ih (seen ++ data) kept' timely exact ?_
    rw [holding_result_at grammar deadline _ now last]
    exact published

theorem ofFinish_frame {d : Decoder Time} {at' : Option Time} {frame : BinaryFrame}
    (returned : ReadEnd.ofFinish d at' = .frame frame) : d.result = some frame := by
  have kept : (d.check at').result = d.result := by
    unfold check
    split
    · rfl
    · split
      · rfl
      · split
        · rfl
        · dsimp only
          split <;> rfl
  rw [← kept]
  unfold ReadEnd.ofFinish finish at returned
  by_cases failed : (d.check at').error ≠ ""
  · simp [failed] at returned
  · cases decided : (d.check at').result with
    | none => simp [failed, decided] at returned
    | some whole => simpa [failed, decided] using returned

/-- What the reading loop received is the beginning of any frame that the bytes make, and all of
    the frame it returns. -/
def Received (grammar : BinaryGrammar) (deadline : Time) (seen stream received : Bytes)
    (outcome : ReadEnd × Bytes) : Prop :=
  ∃ taken, outcome.2 = received ++ taken ∧
    (∀ now frame, (holding grammar now deadline (seen ++ stream)).result = some frame →
      seen ++ taken <+: frame.wire) ∧
    ∀ frame, outcome.1 = .frame frame → seen ++ taken = frame.wire

section received
variable {stream received : Bytes}

omit [LinearOrder Time] in
theorem received_nothing (ending : ReadEnd)
    (kept : (holding grammar now deadline seen).buffer = seen)
    (returned : ∀ frame, ending = .frame frame → seen = frame.wire) :
    Received grammar deadline seen stream received (ending, received) := by
  refine ⟨[], (List.append_nil _).symm, fun at' frame published => ?_, fun frame ended => ?_⟩
  · rw [List.append_nil]
    rw [holding_buffer_at grammar deadline seen now at'] at kept
    exact supplied_within kept published
  · rw [List.append_nil]
    exact returned frame ended

omit [LinearOrder Time] in
theorem received_more {piece rest : Bytes} {outcome : ReadEnd × Bytes}
    (supplied : stream = piece ++ rest)
    (more : Received grammar deadline (seen ++ piece) rest (received ++ piece) outcome) :
    Received grammar deadline seen stream received outcome := by
  obtain ⟨taken, got, within, whole⟩ := more
  refine ⟨piece ++ taken, ?_, fun at' frame published => ?_, fun frame ended => ?_⟩
  · rw [got, List.append_assoc]
  · rw [supplied, ← List.append_assoc] at published
    rw [← List.append_assoc]
    exact within at' frame published
  · rw [← List.append_assoc]
    exact whole frame ended

theorem received_finish {at' : Option Time}
    (kept : (holding grammar now deadline seen).buffer = seen) :
    Received grammar deadline seen stream received
      (ReadEnd.ofFinish (holding grammar now deadline seen) at', received) := by
  refine received_nothing _ kept fun frame returned => ?_
  obtain ⟨_, _, _, _, _, _, _, buffer, _⟩ := holding_frame (ofFinish_frame returned)
  exact kept.symm.trans buffer

end received

theorem received_readTurns {last : Time} (finished : Option Time) (turns : List (Turn Time))
    (stream received : Bytes) (kept : (holding grammar last deadline seen).buffer = seen)
    (silent : (holding grammar last deadline seen).error = "") :
    Received grammar deadline seen stream received
      (readTurns finished (holding grammar last deadline seen) stream received turns) := by
  induction turns generalizing last seen stream received with
  | nil =>
    unfold readTurns
    split
    · exact received_finish kept
    · exact received_nothing _ kept nofun
  | cons turn rest ih =>
    unfold readTurns
    split
    · exact received_finish kept
    · rename_i undecided
      have opened : (holding grammar last deadline seen).IsOpen := ⟨silent, not_not.mp undecided⟩
      split
      · exact received_nothing _ kept nofun
      · exact received_nothing _ kept nofun
      · rename_i checked _ returned
        obtain ⟨now, same, _⟩ := feed_returned opened returned
        rw [List.append_nil] at same
        subst same
        have opened : (holding grammar now deadline seen).IsOpen := by
          rw [← holding_retimed last now]
          exact opened
        split
        · exact received_nothing _ kept nofun
        · split
          · rename_i short
            have kept' := holding_fits opened stream (Nat.le_of_lt short)
            refine received_more (List.append_nil stream).symm ?_
            split
            · exact received_nothing _ kept' nofun
            · exact received_nothing _ kept' nofun
            · rename_i last' _ returned
              obtain ⟨now', rfl, _⟩ := feed_returned opened returned
              refine received_finish ?_
              rw [holding_buffer_at grammar deadline _ now' now]
              exact kept'
          · dsimp only
            have kept' := holding_fits opened
              (stream.take (holding grammar now deadline seen).bytesNeeded)
              (List.length_take_le _ _)
            refine received_more (List.take_append_drop
              (holding grammar now deadline seen).bytesNeeded stream).symm ?_
            split
            · exact received_nothing _ kept' nofun
            · exact received_nothing _ kept' nofun
            · rename_i next _ returned
              obtain ⟨now', rfl, silent'⟩ := feed_returned opened returned
              refine ih _ _ ?_ silent'
              rw [holding_buffer_at grammar deadline _ now' now]
              exact kept'

end reading

section fragmentation
open Decoder
variable {Time : Type} [LinearOrder Time]

theorem feedAll_new (grammar : BinaryGrammar) {startedAt deadline : Time}
    (chunks : List (Time × Bytes)) (timely : Timely startedAt deadline chunks) :
    let fed := (new grammar startedAt deadline).feedAll (read chunks)
    let whole := holding grammar startedAt deadline (bytesOf chunks)
    fed.1.result = whole.result ∧ fed.1.error = whole.error ∧ fed.1.buffer = whole.buffer ∧
      (fed.1.error = "" → fed.2 = whole.buffer.length) := by
  intro fed whole
  obtain ⟨⟨now, holds⟩, consumed⟩ :=
    feedAll_holding [] chunks (show (holding grammar startedAt deadline []).error = "" from rfl)
      timely
  rw [List.nil_append] at holds
  have buffer : fed.1.buffer = whole.buffer :=
    (congrArg (·.buffer) holds).trans (holding_buffer_at grammar deadline _ now startedAt)
  refine ⟨(congrArg (·.result) holds).trans (holding_result_at grammar deadline _ now startedAt),
    (congrArg (·.error) holds).trans (holding_error_at grammar deadline _ now startedAt),
    buffer, fun silent => ?_⟩
  exact (Nat.zero_add _).symm.trans ((consumed silent).trans (congrArg List.length buffer))

theorem received_asyncReadBinaryFrame (grammar : BinaryGrammar) (startedAt deadline : Time)
    {opening : Bytes} (short : opening.length ≤ headerSize) (stream : Bytes)
    (opened finished : Option Time) (turns : List (Turn Time)) :
    Received grammar deadline opening stream []
      (asyncReadBinaryFrame grammar startedAt deadline opening opened finished stream turns) := by
  have start : (holding grammar startedAt deadline []).IsOpen := ⟨rfl, rfl⟩
  have kept : (holding grammar startedAt deadline opening).buffer = opening := by
    have := holding_fits start opening short
    rwa [List.nil_append] at this
  unfold asyncReadBinaryFrame
  split
  · exact received_nothing _ kept nofun
  · split
    · exact received_nothing _ kept nofun
    · exact received_nothing _ kept nofun
    · rename_i next _ returned
      obtain ⟨now, rfl, silent⟩ := feed_returned start returned
      refine received_readTurns finished turns stream [] ?_ silent
      exact (holding_buffer_at grammar deadline opening now startedAt).trans kept

def oneByOne (single : List (Time × UInt8)) : List (Time × Bytes) :=
  single.map fun entry => (entry.1, [entry.2])

/-- However the bytes are cut and whenever the pieces arrive, the decoder publishes the same frame
    or fails with the same reason as byte by byte; it consumes the frame and nothing more, its
    buffer stays bounded, and a reader that asks for the bytes needed reads no byte too many. -/
theorem feedAll_fragmentation (grammar : BinaryGrammar) (startedAt deadline : Time)
    (chunks : List (Time × Bytes)) (single : List (Time × UInt8))
    (timely : Timely startedAt deadline chunks)
    (timelySingle : Timely startedAt deadline (oneByOne single))
    (same : bytesOf (oneByOne single) = bytesOf chunks) :
    let fed := (new grammar startedAt deadline).feedAll (read chunks)
    let bytewise := (new grammar startedAt deadline).feedAll (read (oneByOne single))
    fed.1.result = bytewise.1.result ∧ fed.1.error = bytewise.1.error ∧
    (∀ frame, fed.1.result = some frame →
      fed.1.error = "" ∧ (bytesOf chunks).take fed.2 = frame.wire ∧
        fed.2 = frame.wire.length) ∧
    fed.1.buffer.length ≤ maxBinaryFrameSize ∧
    (∀ exact rest, Timely startedAt deadline exact → Exact (new grammar startedAt deadline) exact →
      bytesOf chunks = bytesOf exact ++ rest → ∀ frame, fed.1.result = some frame →
        bytesOf exact <+: frame.wire) ∧
    ∀ opening stream opened finished turns, bytesOf chunks = opening ++ stream →
      let reading :=
        asyncReadBinaryFrame grammar startedAt deadline opening opened finished stream turns
      (∀ frame, opening.length ≤ headerSize → fed.1.result = some frame →
        opening ++ reading.2 <+: frame.wire) ∧
      ∀ frame, reading.1 = .frame frame → opening ++ reading.2 = frame.wire := by
  intro fed bytewise
  obtain ⟨result, error, buffer, consumed⟩ := feedAll_new grammar chunks timely
  obtain ⟨result', error', _, _⟩ := feedAll_new grammar (oneByOne single) timelySingle
  rw [same] at result' error'
  refine ⟨result.trans result'.symm, error.trans error'.symm, ?_, ?_, ?_, ?_⟩
  · intro frame published
    obtain ⟨boundary, _, _, whole, wire, _, _, all, silent, _⟩ :=
      holding_frame (result.symm.trans published)
    have count := (consumed (error.trans silent)).trans (congrArg List.length all)
    have size : frame.wire.length = boundary.size := by
      rw [wire, List.length_take]
      omega
    refine ⟨error.trans silent, ?_, count⟩
    rw [count, size, wire]
  · rw [buffer]
    exact holding_buffer_le
  · intro exact rest timely' exactly split frame published
    rw [← List.nil_append (bytesOf exact)]
    refine exact_within [] exact rfl timely' exactly (?_ : (holding grammar startedAt deadline
      ([] ++ (bytesOf exact ++ rest))).result = some frame)
    rw [List.nil_append, ← split]
    exact result.symm.trans published
  · intro opening stream opened finished turns split reading
    by_cases short : opening.length ≤ headerSize
    · obtain ⟨taken, got, within, whole⟩ := received_asyncReadBinaryFrame grammar startedAt deadline
        short stream opened finished turns
      rw [List.nil_append] at got
      refine ⟨fun frame _ published => ?_, fun frame returned => ?_⟩
      · rw [got]
        refine within startedAt frame ?_
        rw [← split]
        exact result.symm.trans published
      · rw [got]
        exact whole frame returned
    · refine ⟨fun frame fits => absurd fits short, fun frame returned => ?_⟩
      simp [reading, asyncReadBinaryFrame, Nat.not_le.mp short] at returned

/-- A heartbeat header followed by two more bytes, in chunks of three and seven bytes. -/
theorem feedAll_fragmentation_heartbeat :
    ((new .eybond 0 9).feedAll (read [(1, [0, 1, 0]), (2, [1, 0, 2, 255, 1, 7, 7])])).1.result =
        some ⟨.eybond, [0, 1, 0, 1, 0, 2, 255, 1], some ⟨1, 1, 2, 255, 1⟩⟩ ∧
      ((new .eybond 0 9).feedAll (read [(1, [0, 1, 0]), (2, [1, 0, 2, 255, 1, 7, 7])])).1.result =
        ((new .eybond 0 9).feedAll (read (oneByOne [(1, 0), (1, 1), (1, 0), (2, 1), (2, 0), (2, 2),
          (2, 255), (3, 1), (3, 7), (3, 7)]))).1.result :=
  ⟨by decide +kernel, (feedAll_fragmentation .eybond 0 9 _ _ (by simp [Timely])
    (by simp [Timely, oneByOne]) (by decide)).1⟩

end fragmentation
end FrameDecoder
