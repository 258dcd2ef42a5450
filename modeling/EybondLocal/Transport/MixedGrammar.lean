import EybondLocal.Transport.FrameReading

/-!
The mixed grammar (`BinaryGrammar.MIXED`) publishes only what exactly one of the two single
grammars publishes, and refuses what both would.
-/
namespace FrameDecoder
open BinaryFraming Decoder

/-- A valid auxiliary frame begins with one of the four-byte prefixes. -/
theorem aabbPrefixes_of_valid {wire : Bytes} (valid : aabbFrameError wire = "") :
    aabbPrefixes.contains (wire.take 4) = true := by
  unfold aabbFrameError at valid
  split at valid
  · simp at valid
  · split at valid
    · simp at valid
    · rename_i magic
      split at valid
      · simp at valid
      · rename_i subtype
        match wire, magic, subtype with
        | first :: second :: rest, magic, subtype =>
          simp only [aabbMagic, List.isPrefixOf, Bool.and_eq_true, beq_iff_eq, Bool.and_true,
            not_not] at magic
          obtain ⟨rfl, rfl⟩ := magic
          have known := not_not.mp subtype
          simpa [aabbPrefixes, aabbMagic, aabbSubtypes] using known
        | [_], magic, _ => simp [aabbMagic] at magic
        | [], magic, _ => simp [aabbMagic] at magic

variable {Time : Type} {now deadline : Time} {bytes : Bytes} {frame : BinaryFrame}

theorem eybond_frame (published : (holding .eybond now deadline bytes).result = some frame) :
    ∃ header, decodeHeader (bytes.take headerSize) = some header ∧
      runtimeEybondHeaderError header = "" := by
  obtain ⟨boundary, _, selected, _⟩ := holding_frame published
  obtain ⟨header, decoded, ⟨_, accepted, _⟩ | ⟨wrong | ⟨wrong, _⟩, _⟩⟩ := boundaryOf_ok selected
  · exact ⟨header, decoded, accepted⟩
  · cases wrong
  · cases wrong

/-- What the auxiliary decoder publishes begins with one of the four-byte prefixes. -/
theorem aabb_frame (published : (holding .aabb now deadline bytes).result = some frame) :
    aabbPrefixes.contains ((bytes.take headerSize).take 4) = true := by
  obtain ⟨boundary, _, selected, _, wire, kind, _, _, _, valid⟩ := holding_frame published
  obtain ⟨_, _, ⟨wrong, _⟩ | ⟨_, rfl⟩⟩ := boundaryOf_ok selected
  · exact absurd rfl wrong
  · have start := aabbPrefixes_of_valid (valid kind)
    rw [wire] at start
    have first : (bytes.take Boundary.auxiliary.size).take 4 = (bytes.take headerSize).take 4 := by
      simp [List.take_take, Boundary.auxiliary, aabbFrameSize, headerSize]
    rwa [first] at start

theorem boundaryOf_mixed_overlap {wire : Bytes} {header : EybondHeader}
    (decoded : decodeHeader wire = some header) (accepted : runtimeEybondHeaderError header = "")
    (auxiliary : aabbPrefixes.contains (wire.take 4) = true) :
    boundaryOf .mixed wire = .error "binary_frame_ambiguous" := by
  simp only [boundaryOf, decoded]
  exact if_pos ⟨auxiliary, accepted⟩

/-- The same boundary from the same bytes is the same decoder, up to the grammar it was built
    with. -/
theorem holding_result_of_boundaryOf {first second : BinaryGrammar}
    (same : boundaryOf first (bytes.take headerSize) = boundaryOf second (bytes.take headerSize)) :
    (holding first now deadline bytes).result = (holding second now deadline bytes).result := by
  by_cases short : bytes.length < headerSize
  · rw [holding_short _ now deadline short, holding_short _ now deadline short]
    rfl
  · have long := Nat.not_lt.mp short
    cases selected : boundaryOf first (bytes.take headerSize) with
    | error reason =>
      rw [holding_refused _ now deadline long selected,
        holding_refused _ now deadline long (same.symm.trans selected)]
      rfl
    | ok boundary =>
      by_cases part : bytes.length < boundary.size
      · rw [holding_part _ now deadline long selected part,
          holding_part _ now deadline long (same.symm.trans selected) part]
        rfl
      · have whole := Nat.not_lt.mp part
        rw [holding_whole _ now deadline long selected whole,
          holding_whole _ now deadline long (same.symm.trans selected) whole]
        by_cases invalid : boundary.kind = .aabb ∧
            aabbFrameError (bytes.take boundary.size) ≠ ""
        · rw [publish_invalid rfl invalid, publish_invalid rfl invalid]
          rfl
        · rw [publish_valid rfl invalid, publish_valid rfl invalid]
          rfl

theorem mixed_result (published : (holding .mixed now deadline bytes).result = some frame) :
    (frame.grammar = .eybond ∧ (holding .eybond now deadline bytes).result = some frame ∧
        (holding .aabb now deadline bytes).result = none) ∨
      (frame.grammar = .aabb ∧ (holding .aabb now deadline bytes).result = some frame ∧
        (holding .eybond now deadline bytes).result = none) := by
  obtain ⟨boundary, long, selected, _, _, kind, _⟩ := holding_frame published
  obtain ⟨header, decoded, ⟨_, accepted, distinct, rfl⟩ | ⟨wrong | ⟨_, rejected⟩, rfl⟩⟩ :=
    boundaryOf_ok selected
  · have same : boundaryOf .eybond (bytes.take headerSize) = .ok (.ofHeader header) := by
      simp [boundaryOf, decoded, accepted]
    refine Or.inl ⟨kind, ?_, ?_⟩
    · rw [holding_result_of_boundaryOf (same.trans selected.symm)]
      exact published
    · by_contra some_frame
      obtain ⟨other, auxiliary⟩ := Option.ne_none_iff_exists'.mp some_frame
      have overlap := aabb_frame auxiliary
      rw [distinct rfl] at overlap
      cases overlap
  · cases wrong
  · have same : boundaryOf .aabb (bytes.take headerSize) = .ok .auxiliary := by
      simp [boundaryOf, decoded]
    refine Or.inr ⟨kind, ?_, ?_⟩
    · rw [holding_result_of_boundaryOf (same.trans selected.symm)]
      exact published
    · by_contra some_frame
      obtain ⟨other, framed⟩ := Option.ne_none_iff_exists'.mp some_frame
      obtain ⟨header', decoded', accepted⟩ := eybond_frame framed
      rw [decoded] at decoded'
      cases decoded'
      exact rejected accepted

theorem mixed_overlap {other : BinaryFrame}
    (framed : (holding .eybond now deadline bytes).result = some frame)
    (auxiliary : (holding .aabb now deadline bytes).result = some other) :
    (holding .mixed now deadline bytes).result = none ∧
      (holding .mixed now deadline bytes).error = "binary_frame_ambiguous" := by
  obtain ⟨_, long, _⟩ := holding_frame framed
  obtain ⟨header, decoded, accepted⟩ := eybond_frame framed
  have refused := boundaryOf_mixed_overlap decoded accepted (aabb_frame auxiliary)
  rw [holding_refused _ now deadline long refused]
  exact ⟨rfl, rfl⟩

variable [LinearOrder Time]

/-- One decoder of each grammar is fed the same chunks. -/
theorem mixed_refines_single_grammars (startedAt deadline : Time) (chunks : List (Time × Bytes))
    (timely : Timely startedAt deadline chunks) :
    let fed := fun grammar => ((new grammar startedAt deadline).feedAll (read chunks)).1
    (∀ frame, (fed .mixed).result = some frame →
      (frame.grammar = .eybond ∨ frame.grammar = .aabb) ∧
        (fed frame.grammar).result = some frame ∧
        ∀ other, other ≠ .mixed → other ≠ frame.grammar → (fed other).result = none) ∧
    ((fed .eybond).result ≠ none → (fed .aabb).result ≠ none →
      (fed .mixed).result = none ∧ (fed .mixed).error = "binary_frame_ambiguous") := by
  intro fed
  have result (grammar : BinaryGrammar) :
      (fed grammar).result = (holding grammar startedAt deadline (bytesOf chunks)).result :=
    (feedAll_new grammar chunks timely).1
  have error (grammar : BinaryGrammar) :
      (fed grammar).error = (holding grammar startedAt deadline (bytesOf chunks)).error :=
    (feedAll_new grammar chunks timely).2.1
  constructor
  · intro frame published
    rw [result] at published
    rcases mixed_result published with ⟨kind, same, none⟩ | ⟨kind, same, none⟩
    · refine ⟨Or.inl kind, by rw [kind, result, same], fun other single distinct => ?_⟩
      cases other with
      | eybond => exact absurd kind.symm distinct
      | aabb => rw [result, none]
      | mixed => exact absurd rfl single
    · refine ⟨Or.inr kind, by rw [kind, result, same], fun other single distinct => ?_⟩
      cases other with
      | eybond => rw [result, none]
      | aabb => exact absurd kind.symm distinct
      | mixed => exact absurd rfl single
  · intro framed auxiliary
    rw [result] at framed auxiliary
    obtain ⟨frame, framed⟩ := Option.ne_none_iff_exists'.mp framed
    obtain ⟨other, auxiliary⟩ := Option.ne_none_iff_exists'.mp auxiliary
    rw [result, error]
    exact mixed_overlap framed auxiliary

/-- A query reply fed to the mixed decoder. -/
theorem mixed_refines_query_reply :
    ((new .mixed 0 9).feedAll (read [(1, [0, 1, 0, 1, 0, 3, 255, 2, 66])])).1.result =
        some ⟨.eybond, [0, 1, 0, 1, 0, 3, 255, 2, 66], some ⟨1, 1, 3, 255, 2⟩⟩ ∧
      ((new .eybond 0 9).feedAll (read [(1, [0, 1, 0, 1, 0, 3, 255, 2, 66])])).1.result =
        some ⟨.eybond, [0, 1, 0, 1, 0, 3, 255, 2, 66], some ⟨1, 1, 3, 255, 2⟩⟩ := by
  have published : ((new .mixed 0 9).feedAll
      (read [(1, [0, 1, 0, 1, 0, 3, 255, 2, 66])])).1.result =
        some ⟨.eybond, [0, 1, 0, 1, 0, 3, 255, 2, 66], some ⟨1, 1, 3, 255, 2⟩⟩ := by decide +kernel
  exact ⟨published,
    ((mixed_refines_single_grammars 0 9 _ (by simp [Timely])).1 _ published).2.1⟩

end FrameDecoder
