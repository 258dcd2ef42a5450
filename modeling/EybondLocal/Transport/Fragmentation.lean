import EybondLocal.Transport.FrameDecoder

/-!
The decoder's fields depend on the bytes it was given and not on how they were cut into
chunks: `holding` computes them from the bytes alone, and one pass of the feeding loop takes
`holding` of the bytes before it to `holding` of the bytes after it.
-/
namespace FrameDecoder
open BinaryFraming

theorem ofHeader_bounds {header : EybondHeader} (accepted : runtimeEybondHeaderError header = "") :
    headerSize ≤ (Boundary.ofHeader header).size ∧
      (Boundary.ofHeader header).size ≤ maxBinaryFrameSize := by
  have bounds := payloadLen_of_accepted accepted
  simp only [EybondHeader.payloadLen, maxEybondPayloadSize, headerSize] at bounds
  simp only [Boundary.ofHeader, maxBinaryFrameSize, maxEybondPayloadSize, headerSize]
  omega

theorem auxiliary_bounds :
    headerSize ≤ Boundary.auxiliary.size ∧ Boundary.auxiliary.size ≤ maxBinaryFrameSize := by
  decide

theorem boundaryOf_ok {grammar : BinaryGrammar} {wire : Bytes} {boundary : Boundary}
    (selected : boundaryOf grammar wire = .ok boundary) :
    ∃ header, decodeHeader wire = some header ∧
      (grammar ≠ .aabb ∧ runtimeEybondHeaderError header = "" ∧
          (grammar = .mixed → aabbPrefixes.contains (wire.take 4) = false) ∧
          boundary = .ofHeader header ∨
        (grammar = .aabb ∨ grammar = .mixed ∧ runtimeEybondHeaderError header ≠ "") ∧
          boundary = .auxiliary) := by
  unfold boundaryOf at selected
  split at selected
  · cases selected
  · rename_i header decoded
    refine ⟨header, decoded, ?_⟩
    cases grammar with
    | eybond =>
      dsimp only at selected
      split at selected
      · cases selected
      · rename_i accepted
        cases selected
        exact Or.inl ⟨by decide, by simpa using accepted, by simp, rfl⟩
    | aabb =>
      cases selected
      exact Or.inr ⟨Or.inl rfl, rfl⟩
    | mixed =>
      dsimp only at selected
      split at selected
      · cases selected
      · rename_i distinct
        split at selected
        · rename_i accepted
          cases selected
          refine Or.inl ⟨by decide, accepted, fun _ => ?_, rfl⟩
          by_contra shared
          exact distinct ⟨by simpa using shared, accepted⟩
        · rename_i rejected
          split at selected
          · cases selected
            exact Or.inr ⟨Or.inr ⟨rfl, rejected⟩, rfl⟩
          · cases selected

theorem boundaryOf_bounds {grammar : BinaryGrammar} {wire : Bytes} {boundary : Boundary}
    (selected : boundaryOf grammar wire = .ok boundary) :
    headerSize ≤ boundary.size ∧ boundary.size ≤ maxBinaryFrameSize := by
  obtain ⟨header, _, ⟨_, accepted, _, rfl⟩ | ⟨_, rfl⟩⟩ := boundaryOf_ok selected
  · exact ofHeader_bounds accepted
  · exact auxiliary_bounds

theorem boundaryOf_reason {grammar : BinaryGrammar} {wire : Bytes} {reason : String}
    (refused : boundaryOf grammar wire = .error reason) : reason ≠ "" := by
  unfold boundaryOf at refused
  split at refused
  · cases refused
    decide
  · cases grammar with
    | eybond =>
      dsimp only at refused
      split at refused
      · rename_i rejected
        cases refused
        exact rejected
      · cases refused
    | aabb => cases refused
    | mixed =>
      dsimp only at refused
      split at refused
      · cases refused
        decide
      · split at refused
        · cases refused
        · rename_i rejected
          split at refused
          · cases refused
          · cases refused
            exact rejected

variable {Time : Type}

namespace Decoder

def bounded (d : Decoder Time) (boundary : Boundary) : Decoder Time :=
  { d with kind := some boundary.kind, header := boundary.header, size := boundary.size }

def keeping (d : Decoder Time) (bytes : Bytes) : Decoder Time := { d with buffer := bytes }

def retimed (d : Decoder Time) (now : Time) : Decoder Time := { d with lastNow := now }

def holding (grammar : BinaryGrammar) (now deadline : Time) (bytes : Bytes) : Decoder Time :=
  let start := new grammar now deadline
  if bytes.length < headerSize then start.keeping bytes
  else
    match boundaryOf grammar (bytes.take headerSize) with
    | .error reason => (start.keeping (bytes.take headerSize)).fail reason
    | .ok boundary =>
      if bytes.length < boundary.size then (start.keeping bytes).bounded boundary
      else ((start.keeping (bytes.take boundary.size)).bounded boundary).publish

def IsOpen (d : Decoder Time) : Prop := d.error = "" ∧ d.result = none

section fields
variable (grammar : BinaryGrammar) (now deadline : Time) {bytes : Bytes} {boundary : Boundary}

theorem holding_short (short : bytes.length < headerSize) :
    holding grammar now deadline bytes = (new grammar now deadline).keeping bytes := by
  simp only [holding, short, if_true]

theorem holding_refused (long : headerSize ≤ bytes.length) {reason : String}
    (refused : boundaryOf grammar (bytes.take headerSize) = .error reason) :
    holding grammar now deadline bytes =
      ((new grammar now deadline).keeping (bytes.take headerSize)).fail reason := by
  simp only [holding, Nat.not_lt.mpr long, if_false, refused]

theorem holding_part (long : headerSize ≤ bytes.length)
    (selected : boundaryOf grammar (bytes.take headerSize) = .ok boundary)
    (part : bytes.length < boundary.size) :
    holding grammar now deadline bytes =
      ((new grammar now deadline).keeping bytes).bounded boundary := by
  simp only [holding, Nat.not_lt.mpr long, if_false, selected, part, if_true]

theorem holding_whole (long : headerSize ≤ bytes.length)
    (selected : boundaryOf grammar (bytes.take headerSize) = .ok boundary)
    (whole : boundary.size ≤ bytes.length) :
    holding grammar now deadline bytes =
      (((new grammar now deadline).keeping (bytes.take boundary.size)).bounded boundary).publish := by
  simp only [holding, Nat.not_lt.mpr long, if_false, selected, Nat.not_lt.mpr whole]

/-- Bytes that do not go beyond the announced size are all kept. -/
theorem holding_upTo (long : headerSize ≤ bytes.length)
    (selected : boundaryOf grammar (bytes.take headerSize) = .ok boundary)
    (fits : bytes.length ≤ boundary.size) :
    holding grammar now deadline bytes =
      if bytes.length = boundary.size then
        (((new grammar now deadline).keeping bytes).bounded boundary).publish
      else ((new grammar now deadline).keeping bytes).bounded boundary := by
  by_cases whole : bytes.length = boundary.size
  · rw [if_pos whole, holding_whole grammar now deadline long selected (Nat.le_of_eq whole.symm),
      ← whole, List.take_length]
  · rw [if_neg whole, holding_part grammar now deadline long selected (by omega)]

end fields

theorem publish_invalid {d : Decoder Time} {kind : BinaryGrammar} (known : d.kind = some kind)
    (invalid : kind = .aabb ∧ aabbFrameError d.buffer ≠ "") :
    d.publish = d.fail (aabbFrameError d.buffer) := by
  unfold publish
  rw [known]
  exact if_pos invalid

theorem publish_valid {d : Decoder Time} {kind : BinaryGrammar} (known : d.kind = some kind)
    (valid : ¬ (kind = .aabb ∧ aabbFrameError d.buffer ≠ "")) :
    d.publish = { d with result := some ⟨kind, d.buffer, d.header⟩ } := by
  unfold publish
  rw [known]
  exact if_neg valid

theorem publish_cases (d : Decoder Time) :
    (∃ reason, reason ≠ "" ∧ d.publish = d.fail reason) ∨
      ∃ kind, d.kind = some kind ∧ (kind = .aabb → aabbFrameError d.buffer = "") ∧
        d.publish = { d with result := some ⟨kind, d.buffer, d.header⟩ } := by
  cases known : d.kind with
  | none =>
    refine Or.inl ⟨"AssertionError", by decide, ?_⟩
    unfold publish
    rw [known]
  | some kind =>
    by_cases invalid : kind = .aabb ∧ aabbFrameError d.buffer ≠ ""
    · exact Or.inl ⟨_, invalid.2, publish_invalid known invalid⟩
    · have done := publish_valid known invalid
      rw [known] at done
      refine Or.inr ⟨kind, rfl, fun auxiliary => ?_, done⟩
      by_contra mismatch
      exact invalid ⟨auxiliary, mismatch⟩

theorem publish_closed (d : Decoder Time) : ¬ d.publish.IsOpen := by
  rintro ⟨silent, unpublished⟩
  rcases publish_cases d with ⟨reason, given, failed⟩ | ⟨kind, _, _, published⟩
  · rw [failed] at silent
    exact given silent
  · rw [published] at unpublished
    cases unpublished

theorem publish_buffer (d : Decoder Time) : d.publish.buffer = d.buffer := by
  rcases publish_cases d with ⟨reason, _, failed⟩ | ⟨kind, _, _, published⟩
  · rw [failed]
    rfl
  · rw [published]

theorem publish_result {d : Decoder Time} {frame : BinaryFrame} (fresh : d.result = none)
    (published : d.publish.result = some frame) :
    d.publish.error = d.error ∧ d.kind = some frame.grammar ∧ frame.wire = d.buffer ∧
      frame.header = d.header ∧ (frame.grammar = .aabb → aabbFrameError d.buffer = "") := by
  rcases publish_cases d with ⟨reason, _, failed⟩ | ⟨kind, known, valid, done⟩
  · rw [failed] at published
    simp only [fail, fresh] at published
    cases published
  · rw [done] at published ⊢
    cases published
    exact ⟨rfl, known, rfl, rfl, valid⟩

section cases
variable {grammar : BinaryGrammar} {now deadline : Time} {bytes : Bytes}

/-- An open decoder keeps every byte and knows how many it still waits for. -/
theorem open_cases (opened : (holding grammar now deadline bytes).IsOpen) :
    bytes.length < headerSize ∨
      ∃ boundary, headerSize ≤ bytes.length ∧
        boundaryOf grammar (bytes.take headerSize) = .ok boundary ∧
        bytes.length < boundary.size := by
  by_cases short : bytes.length < headerSize
  · exact Or.inl short
  · have long : headerSize ≤ bytes.length := Nat.not_lt.mp short
    cases selected : boundaryOf grammar (bytes.take headerSize) with
    | error reason =>
      rw [holding_refused grammar now deadline long selected] at opened
      exact absurd opened.1 (boundaryOf_reason selected)
    | ok boundary =>
      by_cases part : bytes.length < boundary.size
      · exact Or.inr ⟨boundary, long, rfl, part⟩
      · rw [holding_whole grammar now deadline long selected (Nat.not_lt.mp part)] at opened
        exact absurd opened (publish_closed _)

theorem open_buffer (opened : (holding grammar now deadline bytes).IsOpen) :
    (holding grammar now deadline bytes).buffer = bytes ∧
      bytes.length < (holding grammar now deadline bytes).target := by
  rcases open_cases opened with short | ⟨boundary, long, selected, part⟩
  · rw [holding_short grammar now deadline short]
    exact ⟨rfl, short⟩
  · rw [holding_part grammar now deadline long selected part]
    have bounds := boundaryOf_bounds selected
    have sized : boundary.size ≠ 0 := by
      simp only [headerSize] at bounds
      omega
    refine ⟨rfl, ?_⟩
    simp only [target, bounded, sized, if_false]
    exact part

/-- What is decided stays decided: further bytes change nothing. -/
theorem holding_closed (closed : ¬ (holding grammar now deadline bytes).IsOpen) (more : Bytes) :
    holding grammar now deadline (bytes ++ more) = holding grammar now deadline bytes := by
  have long : headerSize ≤ bytes.length := by
    by_contra short
    rw [holding_short grammar now deadline (Nat.not_le.mp short)] at closed
    exact closed ⟨rfl, rfl⟩
  have longer : headerSize ≤ (bytes ++ more).length := by
    rw [List.length_append]
    omega
  have start : (bytes ++ more).take headerSize = bytes.take headerSize :=
    List.take_append_of_le_length long
  cases selected : boundaryOf grammar (bytes.take headerSize) with
  | error reason =>
    rw [holding_refused grammar now deadline long selected,
      holding_refused grammar now deadline longer (start ▸ selected), start]
  | ok boundary =>
    have whole : boundary.size ≤ bytes.length := by
      by_contra part
      rw [holding_part grammar now deadline long selected (Nat.not_le.mp part)] at closed
      exact closed ⟨rfl, rfl⟩
    have wholer : boundary.size ≤ (bytes ++ more).length := by
      rw [List.length_append]
      omega
    rw [holding_whole grammar now deadline long selected whole,
      holding_whole grammar now deadline longer (start ▸ selected) wholer,
      List.take_append_of_le_length whole]

theorem holding_buffer_le :
    (holding grammar now deadline bytes).buffer.length ≤ maxBinaryFrameSize := by
  by_cases opened : (holding grammar now deadline bytes).IsOpen
  · rw [(open_buffer opened).1]
    rcases open_cases opened with short | ⟨boundary, _, selected, part⟩
    · have : headerSize ≤ maxBinaryFrameSize := by decide
      omega
    · have := boundaryOf_bounds selected
      omega
  · by_cases short : bytes.length < headerSize
    · rw [holding_short grammar now deadline short] at opened
      exact absurd ⟨rfl, rfl⟩ opened
    · have long := Nat.not_lt.mp short
      cases selected : boundaryOf grammar (bytes.take headerSize) with
      | error reason =>
        rw [holding_refused grammar now deadline long selected]
        simp only [fail, keeping, List.length_take]
        have : headerSize ≤ maxBinaryFrameSize := by decide
        omega
      | ok boundary =>
        have bounds := boundaryOf_bounds selected
        by_cases part : bytes.length < boundary.size
        · rw [holding_part grammar now deadline long selected part] at opened
          exact absurd ⟨rfl, rfl⟩ opened
        · rw [holding_whole grammar now deadline long selected (Nat.not_lt.mp part),
            publish_buffer]
          simp only [bounded, keeping, List.length_take]
          omega

/-- A published frame begins with the bytes, is all of the buffer and has the size its first
    eight bytes announce. -/
theorem holding_frame {frame : BinaryFrame}
    (published : (holding grammar now deadline bytes).result = some frame) :
    ∃ boundary, headerSize ≤ bytes.length ∧
      boundaryOf grammar (bytes.take headerSize) = .ok boundary ∧
      boundary.size ≤ bytes.length ∧ frame.wire = bytes.take boundary.size ∧
      frame.grammar = boundary.kind ∧ frame.header = boundary.header ∧
      (holding grammar now deadline bytes).buffer = frame.wire ∧
      (holding grammar now deadline bytes).error = "" ∧
      (frame.grammar = .aabb → aabbFrameError frame.wire = "") := by
  by_cases short : bytes.length < headerSize
  · rw [holding_short grammar now deadline short] at published
    cases published
  · have long := Nat.not_lt.mp short
    cases selected : boundaryOf grammar (bytes.take headerSize) with
    | error reason =>
      rw [holding_refused grammar now deadline long selected] at published
      cases published
    | ok boundary =>
      by_cases part : bytes.length < boundary.size
      · rw [holding_part grammar now deadline long selected part] at published
        cases published
      · have whole := Nat.not_lt.mp part
        rw [holding_whole grammar now deadline long selected whole] at published ⊢
        obtain ⟨silent, kind, wire, header, valid⟩ := publish_result rfl published
        refine ⟨boundary, long, rfl, whole, wire, (Option.some.inj kind).symm, header, ?_, silent, ?_⟩
        · rw [publish_buffer, wire]
        · rw [wire]
          exact valid

end cases

theorem settle_buffer (d : Decoder Time) : d.settle.buffer = d.buffer := by
  have selected : d.selectBoundary.buffer = d.buffer := by
    unfold selectBoundary
    split <;> rfl
  unfold settle
  split
  · dsimp only
    split
    · exact selected
    · split
      · rw [publish_buffer, selected]
      · exact selected
  · dsimp only
    split
    · rfl
    · split
      · exact publish_buffer d
      · rfl

section feeding
variable {grammar : BinaryGrammar} {now deadline : Time} {seen : Bytes}

theorem holding_keeps (opened : (holding grammar now deadline seen).IsOpen) (more : Bytes) :
    seen.length ≤ (holding grammar now deadline (seen ++ more)).buffer.length := by
  have total : (seen ++ more).length = seen.length + more.length := List.length_append
  by_cases short : (seen ++ more).length < headerSize
  · rw [holding_short grammar now deadline short]
    simp only [keeping]
    omega
  · have long := Nat.not_lt.mp short
    cases selected : boundaryOf grammar ((seen ++ more).take headerSize) with
    | error reason =>
      rw [holding_refused grammar now deadline long selected]
      simp only [fail, keeping, List.length_take]
      rcases open_cases opened with few | ⟨boundary, enough, known, _⟩
      · omega
      · rw [List.take_append_of_le_length enough, known] at selected
        cases selected
    | ok boundary =>
      have bounds := boundaryOf_bounds selected
      rw [holding]
      simp only [short, if_false, selected]
      split
      · simp only [bounded, keeping]
        omega
      · rw [publish_buffer]
        simp only [bounded, keeping, List.length_take]
        rcases open_cases opened with few | ⟨boundary', enough, known, part⟩
        · omega
        · rw [List.take_append_of_le_length enough, known] at selected
          cases selected
          omega

theorem settle_holding (opened : (holding grammar now deadline seen).IsOpen) (piece : Bytes)
    (some_byte : piece ≠ [])
    (fits : seen.length + piece.length ≤ (holding grammar now deadline seen).target) :
    ({ holding grammar now deadline seen with
        buffer := (holding grammar now deadline seen).buffer ++ piece } : Decoder Time).settle =
      holding grammar now deadline (seen ++ piece) := by
  have grown : 0 < piece.length := List.length_pos_of_ne_nil some_byte
  have total : (seen ++ piece).length = seen.length + piece.length := List.length_append
  rw [(open_buffer opened).1]
  rcases open_cases opened with short | ⟨boundary, long, selected, part⟩
  · rw [holding_short grammar now deadline short] at fits ⊢
    have fits : (seen ++ piece).length ≤ headerSize := by
      rw [total]
      exact fits
    by_cases complete : (seen ++ piece).length = headerSize
    · have start : (seen ++ piece).take headerSize = seen ++ piece := by
        rw [← complete, List.take_length]
      cases selected : boundaryOf grammar (seen ++ piece) with
      | error reason =>
        rw [holding_refused grammar now deadline (Nat.le_of_eq complete.symm) (start.symm ▸ selected),
          start]
        simp [settle, keeping, new, complete, selectBoundary, selected, fail,
          boundaryOf_reason selected]
      | ok boundary =>
        have bounds := boundaryOf_bounds selected
        have sized : boundary.size ≠ 0 := by
          simp only [headerSize] at bounds
          omega
        rw [holding_upTo grammar now deadline (Nat.le_of_eq complete.symm)
          (start.symm ▸ selected) (by omega)]
        simp [settle, keeping, new, complete, selectBoundary, selected, bounded, sized]
    · rw [holding_short grammar now deadline (by omega)]
      simp [settle, keeping, new, complete, -List.length_append]
  · have bounds := boundaryOf_bounds selected
    have sized : boundary.size ≠ 0 := by
      simp only [headerSize] at bounds
      omega
    rw [holding_part grammar now deadline long selected part] at fits ⊢
    have fits : (seen ++ piece).length ≤ boundary.size := by
      rw [total]
      simpa only [target, bounded, sized, if_false] using fits
    have longer : headerSize ≤ (seen ++ piece).length := by omega
    have start : (seen ++ piece).take headerSize = seen.take headerSize :=
      List.take_append_of_le_length long
    rw [holding_upTo grammar now deadline longer (start.symm ▸ selected) fits]
    simp [settle, keeping, new, bounded, sized]

theorem feedLoop_holding (fuel : Nat) (data : Bytes) (consumed : Nat)
    (opened : (holding grammar now deadline seen).IsOpen) (within : consumed ≤ data.length)
    (enough : data.length - consumed < fuel) :
    feedLoop fuel (holding grammar now deadline seen) data consumed =
      let final := holding grammar now deadline (seen ++ data.drop consumed)
      (final, if final.error ≠ "" then .raised final.error
        else .returned (consumed + (final.buffer.length - seen.length))) := by
  induction fuel generalizing seen consumed with
  | zero => omega
  | succ fuel ih =>
    obtain ⟨kept, room⟩ := open_buffer opened
    by_cases done : data.length ≤ consumed
    · have nothing : data.drop consumed = [] := List.drop_eq_nil_of_le done
      simp only [feedLoop, done, if_true, nothing, List.append_nil]
      simp [opened.1, kept]
    · obtain ⟨take, amount⟩ : ∃ take, take = min ((holding grammar now deadline seen).target -
        (holding grammar now deadline seen).buffer.length) (data.length - consumed) := ⟨_, rfl⟩
      have step : feedLoop (fuel + 1) (holding grammar now deadline seen) data consumed =
          let d := ({ holding grammar now deadline seen with
            buffer := (holding grammar now deadline seen).buffer ++
              (data.drop consumed).take take } : Decoder Time).settle
          if d.error ≠ "" then (d, .raised d.error)
          else if d.result ≠ none then (d, .returned (consumed + take))
          else feedLoop fuel d data (consumed + take) := by
        simp only [feedLoop, done, if_false, amount]
      rw [kept] at amount
      have rest : data.drop consumed =
          (data.drop consumed).take take ++ data.drop (consumed + take) := by
        rw [← List.drop_drop, List.take_append_drop]
      obtain ⟨piece, taken⟩ : ∃ piece, (data.drop consumed).take take = piece := ⟨_, rfl⟩
      have length : piece.length = take := by
        rw [← taken, List.length_take, List.length_drop]
        omega
      have some_byte : piece ≠ [] := by
        rintro rfl
        rw [List.length_nil] at length
        omega
      have passed := settle_holding opened piece some_byte (by omega)
      have grown : (holding grammar now deadline (seen ++ piece)).buffer = seen ++ piece := by
        rw [← passed, settle_buffer, kept]
      rw [taken] at rest
      rw [step, taken, passed, rest, ← List.append_assoc]
      by_cases still : (holding grammar now deadline (seen ++ piece)).IsOpen
      · have later := holding_keeps still (data.drop (consumed + take))
        rw [List.length_append] at later
        simp only [still.1, still.2, ne_eq, not_true_eq_false, if_false]
        rw [ih (consumed + take) still (by omega) (by omega)]
        simp only [List.length_append, Prod.mk.injEq, true_and]
        split
        · rfl
        · congr 1
          omega
      · rw [holding_closed still]
        simp only [grown, List.length_append]
        by_cases silent : (holding grammar now deadline (seen ++ piece)).error = ""
        · have decided : (holding grammar now deadline (seen ++ piece)).result ≠ none :=
            fun undecided => still ⟨silent, undecided⟩
          simp [silent, decided, length]
        · simp [silent]

theorem publish_retimed (d : Decoder Time) :
    d.publish.retimed now = (d.retimed now).publish := by
  have kept : (d.retimed now).kind = d.kind := rfl
  cases known : d.kind with
  | none =>
    unfold publish
    rw [kept, known]
    rfl
  | some kind =>
    rw [known] at kept
    by_cases invalid : kind = .aabb ∧ aabbFrameError d.buffer ≠ ""
    · rw [publish_invalid known invalid, publish_invalid kept invalid]
      rfl
    · rw [publish_valid known invalid, publish_valid kept invalid]
      rfl

theorem holding_retimed (last now : Time) :
    (holding grammar last deadline seen).retimed now = holding grammar now deadline seen := by
  by_cases short : seen.length < headerSize
  · rw [holding_short grammar last deadline short, holding_short grammar now deadline short]
    rfl
  · have long := Nat.not_lt.mp short
    cases selected : boundaryOf grammar (seen.take headerSize) with
    | error reason =>
      rw [holding_refused grammar last deadline long selected,
        holding_refused grammar now deadline long selected]
      rfl
    | ok boundary =>
      by_cases part : seen.length < boundary.size
      · rw [holding_part grammar last deadline long selected part,
          holding_part grammar now deadline long selected part]
        rfl
      · rw [holding_whole grammar last deadline long selected (Nat.not_lt.mp part),
          holding_whole grammar now deadline long selected (Nat.not_lt.mp part), publish_retimed]
        rfl

theorem holding_clock (grammar : BinaryGrammar) (now deadline : Time) (seen : Bytes) :
    (holding grammar now deadline seen).lastNow = now ∧
      (holding grammar now deadline seen).deadline = deadline := by
  constructor
  · rw [← holding_retimed now now]
    rfl
  · unfold holding
    dsimp only
    split
    · rfl
    · split
      · rfl
      · split
        · rfl
        · rcases publish_cases (((new grammar now deadline).keeping _).bounded _) with
            ⟨reason, _, failed⟩ | ⟨kind, _, _, published⟩
          · rw [failed]
            rfl
          · rw [published]
            rfl

theorem holding_buffer_at (grammar : BinaryGrammar) (deadline : Time) (seen : Bytes)
    (last now : Time) : (holding grammar last deadline seen).buffer =
      (holding grammar now deadline seen).buffer := by
  rw [← holding_retimed last now]
  rfl

theorem holding_result_at (grammar : BinaryGrammar) (deadline : Time) (seen : Bytes)
    (last now : Time) : (holding grammar last deadline seen).result =
      (holding grammar now deadline seen).result := by
  rw [← holding_retimed last now]
  rfl

theorem holding_error_at (grammar : BinaryGrammar) (deadline : Time) (seen : Bytes)
    (last now : Time) : (holding grammar last deadline seen).error =
      (holding grammar now deadline seen).error := by
  rw [← holding_retimed last now]
  rfl

theorem holding_grows (grammar : BinaryGrammar) (now deadline : Time) (seen more : Bytes) :
    (holding grammar now deadline seen).buffer.length ≤
      (holding grammar now deadline (seen ++ more)).buffer.length := by
  by_cases opened : (holding grammar now deadline seen).IsOpen
  · rw [(open_buffer opened).1]
    exact holding_keeps opened more
  · exact Nat.le_of_eq (congrArg (·.buffer.length) (holding_closed opened more).symm)

variable [LinearOrder Time]

theorem check_holding {last : Time} (silent : (holding grammar last deadline seen).error = "")
    (later : last ≤ now) (early : now < deadline) :
    (holding grammar last deadline seen).check (some now) = holding grammar now deadline seen := by
  obtain ⟨clock, limit⟩ := holding_clock grammar last deadline seen
  have unmoved : ¬ now < (holding grammar last deadline seen).lastNow := by
    rw [clock]
    exact not_lt.mpr later
  have timely : ¬ (((holding grammar last deadline seen).retimed now).result = none ∧
      ((holding grammar last deadline seen).retimed now).deadline ≤ now) := by
    rintro ⟨_, late⟩
    exact not_le.mpr early (limit ▸ late)
  rw [← holding_retimed last now]
  unfold check
  rw [if_neg (not_not.mpr silent)]
  dsimp only
  rw [if_neg unmoved]
  exact if_neg timely

/-- A call at a valid clock reading, from the bytes seen before. -/
theorem feed_holding {last : Time} (silent : (holding grammar last deadline seen).error = "")
    (later : last ≤ now) (early : now < deadline) (data : Bytes) :
    (holding grammar last deadline seen).feed data (some now) =
      let final := holding grammar now deadline (seen ++ data)
      (final, if final.error ≠ "" then .raised final.error
        else .returned
          (final.buffer.length - (holding grammar last deadline seen).buffer.length)) := by
  have same := holding_buffer_at grammar deadline seen last now
  have silent' := (holding_error_at grammar deadline seen now last).trans silent
  rw [feed, check_holding silent later early, same]
  simp only [silent', ne_eq, not_true_eq_false, if_false]
  by_cases undecided : (holding grammar now deadline seen).result = none
  · have opened : (holding grammar now deadline seen).IsOpen := ⟨silent', undecided⟩
    simp only [undecided, not_true_eq_false, if_false]
    rw [feedLoop_holding _ data 0 opened (Nat.zero_le _) (by omega)]
    simp only [List.drop_zero, Nat.zero_add, (open_buffer opened).1, ne_eq]
  · have closed : ¬ (holding grammar now deadline seen).IsOpen := fun opened => undecided opened.2
    simp [undecided, holding_closed closed, silent']

theorem feed_returned {last : Time} (opened : (holding grammar last deadline seen).IsOpen)
    {data : Bytes} {at' : Option Time} {next : Decoder Time} {consumed : Nat}
    (fed : (holding grammar last deadline seen).feed data at' = (next, .returned consumed)) :
    ∃ now, next = holding grammar now deadline (seen ++ data) ∧ next.error = "" := by
  obtain ⟨clock, limit⟩ := holding_clock grammar last deadline seen
  cases at' with
  | none => simp [feed, check, opened.1, fail] at fed
  | some now =>
    by_cases regressed : now < last
    · simp [feed, check, opened.1, clock, regressed, fail] at fed
    · by_cases early : now < deadline
      · rw [feed_holding opened.1 (not_lt.mp regressed) early] at fed
        refine ⟨now, ?_⟩
        simp only [Prod.mk.injEq] at fed
        obtain ⟨rfl, returned⟩ := fed
        refine ⟨rfl, ?_⟩
        by_contra failed
        rw [if_pos failed] at returned
        cases returned
      · simp [feed, check, opened.1, opened.2, clock, limit, regressed, not_lt.mp early, fail] at fed

def Timely (last deadline : Time) : List (Time × Bytes) → Prop
  | [] => True
  | (now, _) :: rest => last ≤ now ∧ now < deadline ∧ Timely now deadline rest

def bytesOf (chunks : List (Time × Bytes)) : Bytes := (chunks.map Prod.snd).flatten

def read (chunks : List (Time × Bytes)) : List (Option Time × Bytes) :=
  chunks.map fun chunk => (some chunk.1, chunk.2)

/-- Chunk after chunk, the decoder holds the bytes it was given; what it consumed is what its
    buffer gained, unless a call raised. -/
theorem feedAll_holding (seen : Bytes) {last : Time} (chunks : List (Time × Bytes))
    (silent : (holding grammar last deadline seen).error = "")
    (timely : Timely last deadline chunks) :
    let fed := (holding grammar last deadline seen).feedAll (read chunks)
    (∃ now, fed.1 = holding grammar now deadline (seen ++ bytesOf chunks)) ∧
      (fed.1.error = "" → (holding grammar last deadline seen).buffer.length + fed.2 =
        fed.1.buffer.length) := by
  induction chunks generalizing last seen with
  | nil =>
    refine ⟨⟨last, ?_⟩, fun _ => rfl⟩
    simp [feedAll, read, bytesOf]
  | cons chunk rest ih =>
    obtain ⟨now, data⟩ := chunk
    obtain ⟨later, early, timely⟩ := timely
    have all : bytesOf ((now, data) :: rest) = data ++ bytesOf rest := by simp [bytesOf]
    have called := feed_holding silent later early data
    by_cases fine : (holding grammar now deadline (seen ++ data)).error = ""
    · simp only [fine, ne_eq, not_true_eq_false, if_false] at called
      have grows : (holding grammar last deadline seen).buffer.length ≤
          (holding grammar now deadline (seen ++ data)).buffer.length := by
        rw [holding_buffer_at grammar deadline seen last now]
        exact holding_grows grammar now deadline seen data
      obtain ⟨⟨final, holds⟩, gained⟩ := ih (seen ++ data) fine timely
      simp only [read, List.map_cons, feedAll, called]
      refine ⟨⟨final, ?_⟩, fun ended => ?_⟩
      · rw [all, ← List.append_assoc]
        exact holds
      · have := gained ended
        simp only [read] at this
        omega
    · have closed : ¬ (holding grammar now deadline (seen ++ data)).IsOpen := fun o => fine o.1
      simp only [fine, ne_eq, not_false_eq_true, if_true] at called
      simp only [read, List.map_cons, feedAll, called]
      refine ⟨⟨now, ?_⟩, fun ended => absurd ended fine⟩
      rw [all, ← List.append_assoc, holding_closed closed]

end feeding

end Decoder

end FrameDecoder
