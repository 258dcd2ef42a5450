import EybondLocal.Library.OrderedSlices
import EybondLocal.Transport.ReadLoop

/-!
The read loop never glues transactions together. One iteration either hands on a header
and payload that stand at the front of the pending bytes, or drops a nonempty front part
of them; the slices of a whole session follow by induction over its iterations.
-/
namespace ReadLoop
open BinaryFraming PrefixedReader OrderedSlices

/-- Eight header bytes immediately followed by the payload bytes they announce. -/
def CarriesFrame (pair : EybondHeader × Bytes) (piece : Bytes) : Prop :=
  ∃ headerBytes, piece = headerBytes ++ pair.2 ∧ headerBytes.length = headerSize ∧
    decodeHeader headerBytes = some pair.1 ∧ (pair.2.length : Int) = pair.1.payloadLen

def Iteration.Consumes (before : Bytes) : Iteration → Prop
  | .handedOn header payload _ reader =>
    ∃ piece, before = piece ++ reader.pending ∧ CarriesFrame (header, payload) piece
  | .next _ reader => reader.pending <:+ before ∧ reader.pending.length < before.length
  | .finish ending => ending ≠ .starved

section Steps
variable {before : Bytes} {state : LoopState}

theorem finish_consumes {ending : Ending} (ends : ending ≠ .starved) :
    (Iteration.finish ending).Consumes before := ends

theorem awaitRead_consumes {reply : Reply} {timedOut : Reader → Iteration}
    {got : Bytes → Reader → Iteration}
    (onTimeout : ∀ rest, reply = .timeout rest → (timedOut rest).Consumes before)
    (onBytes : ∀ data rest, reply = .bytes data rest → (got data rest).Consumes before) :
    (awaitRead reply timedOut got).Consumes before := by
  cases reply with
  | bytes data rest => exact onBytes data rest rfl
  | timeout rest => exact onTimeout rest rfl
  | eof => exact finish_consumes nofun
  | cancelled => exact finish_consumes nofun

theorem awaitBinary_consumes {reply : Reply} {got : Bytes → Reader → Iteration}
    (onBytes : ∀ data rest, reply = .bytes data rest → (got data rest).Consumes before) :
    (awaitBinary reply got).Consumes before := by
  cases reply with
  | bytes data rest => exact onBytes data rest rfl
  | timeout rest => exact finish_consumes nofun
  | eof => exact finish_consumes nofun
  | cancelled => exact finish_consumes nofun

theorem next_consumes {front : Bytes} {after reader : Reader}
    (split : before = front ++ after.pending) (nonempty : 0 < front.length)
    (suffix : reader.pending <:+ after.pending) : (Iteration.next state reader).Consumes before := by
  have shorter := suffix.length_le
  subst split
  refine ⟨suffix.trans (List.suffix_append _ _), ?_⟩
  rw [List.length_append]
  omega

theorem handOn_consumes {headerBytes payload : Bytes} {header : EybondHeader} {reader : Reader}
    (split : before = headerBytes ++ payload ++ reader.pending)
    (long : headerBytes.length = headerSize) (decoded : decodeHeader headerBytes = some header)
    (exact_len : (payload.length : Int) = header.payloadLen) :
    (handOn state header payload reader).Consumes before :=
  ⟨headerBytes ++ payload, split, headerBytes, rfl, long, decoded, exact_len⟩

theorem skipCutOff_consumes {front : Bytes} {after reader : Reader}
    (split : before = front ++ after.pending) (nonempty : 0 < front.length)
    (suffix : reader.pending <:+ after.pending) :
    (skipCutOffStrayRtuReply state reader).Consumes before := by
  apply awaitRead_consumes
  · intro rest timedOut
    exact absurd timedOut (takeAvailable_no_timeout _ _)
  · intro data rest taken
    have pending := takeAvailable_bytes taken
    apply next_consumes split nonempty
    refine List.IsSuffix.trans ?_ suffix
    rw [pending]
    exact List.suffix_append _ _

theorem findTrailingEybondFrame_pos {data : Bytes} {offset : Nat}
    (found : findTrailingEybondFrame data = some offset) : 0 < offset := by
  have mem := List.mem_of_find?_eq_some found
  rw [List.mem_range'_1] at mem
  omega

theorem resync_consumes {headerBytes : Bytes} {reader : Reader} {headerError : String}
    (split : before = headerBytes ++ reader.pending) (nonempty : 0 < headerBytes.length) :
    (resyncAfterUnrecognisedHeader state headerBytes headerError reader).Consumes before := by
  unfold resyncAfterUnrecognisedHeader
  split
  · exact finish_consumes nofun
  · apply awaitRead_consumes
    · intro rest timedOut
      exact absurd timedOut (takeAvailable_no_timeout _ _)
    · intro taken rest got
      have pending := takeAvailable_bytes got
      have all : before = headerBytes ++ taken ++ rest.pending := by
        rw [split, pending, List.append_assoc]
      dsimp only
      split
      · refine next_consumes all ?_ (List.suffix_refl _)
        rw [List.length_append]
        omega
      · -- the kept frame starts strictly behind the rejected header's first byte
        rename_i offset found
        have positive := findTrailingEybondFrame_pos found
        have cut : before = (headerBytes ++ taken).take offset ++
            (rest.unread ((headerBytes ++ taken).drop offset)).pending := by
          rw [unread_pending, ← List.append_assoc, List.take_append_drop, all]
        refine next_consumes cut ?_ (List.suffix_refl _)
        rw [List.length_take, List.length_append]
        omega

theorem readPayload_consumes {headerBytes : Bytes} {header : EybondHeader} {reader : Reader}
    (split : before = headerBytes ++ reader.pending) (long : headerBytes.length = headerSize)
    (decoded : decodeHeader headerBytes = some header)
    (accepted : runtimeEybondHeaderError header = "") :
    (readPayload state header reader).Consumes before := by
  have bounds := payloadLen_of_accepted accepted
  unfold readPayload
  split
  · apply awaitRead_consumes
    · intro rest timedOut
      exact finish_consumes nofun
    · intro payload rest got
      obtain ⟨pending, size⟩ := readexactly_bytes got
      refine handOn_consumes ?_ long decoded (by omega)
      rw [split, pending, List.append_assoc]
  · have bare : before = headerBytes ++ [] ++ reader.pending := by
      rw [split, List.append_nil]
    refine handOn_consumes bare long decoded ?_
    simp only [List.length_nil]
    omega

theorem acceptedHeader_consumes {headerBytes : Bytes} {header : EybondHeader} {reader : Reader}
    (split : before = headerBytes ++ reader.pending) (long : headerBytes.length = headerSize)
    (decoded : decodeHeader headerBytes = some header)
    (accepted : runtimeEybondHeaderError header = "") :
    (acceptedHeader state headerBytes header reader).Consumes before := by
  have nonempty : 0 < headerBytes.length := by
    rw [long]
    decide
  dsimp only [acceptedHeader]
  split
  · apply awaitRead_consumes
    · intro rest timedOut
      exact skipCutOff_consumes split nonempty (readexactly_timeout timedOut)
    · intro rtuTail rest got
      obtain ⟨pending, size⟩ := readexactly_bytes got
      split
      · refine next_consumes split nonempty ?_
        rw [pending]
        exact List.suffix_append _ _
      · refine readPayload_consumes ?_ long decoded accepted
        rw [split, unread_pending, pending]
  · exact readPayload_consumes split long decoded accepted

theorem rejectedHeader_consumes {headerBytes : Bytes} {headerError : String} {reader : Reader}
    (split : before = headerBytes ++ reader.pending) (nonempty : 0 < headerBytes.length) :
    (rejectedHeader state headerBytes headerError reader).Consumes before := by
  dsimp only [rejectedHeader]
  split
  · apply awaitRead_consumes
    · intro rest timedOut
      exact skipCutOff_consumes split nonempty (readexactly_timeout timedOut)
    · intro rtuTail rest got
      obtain ⟨pending, size⟩ := readexactly_bytes got
      split
      · refine next_consumes split nonempty ?_
        rw [pending]
        exact List.suffix_append _ _
      · exact finish_consumes nofun
  · split
    · exact finish_consumes nofun
    · exact resync_consumes split nonempty

theorem readHeader_consumes {start : Bytes} {reader : Reader}
    (split : before = start ++ reader.pending) (short : start.length ≤ headerSize) :
    (readHeader state start reader).Consumes before := by
  apply awaitRead_consumes
  · intro rest timedOut
    exact finish_consumes nofun
  · intro more rest got
    obtain ⟨pending, size⟩ := readexactly_bytes got
    have long : (start ++ more).length = headerSize := by
      rw [List.length_append]
      omega
    have nonempty : 0 < (start ++ more).length := by
      rw [long]
      decide
    have all : before = start ++ more ++ rest.pending := by
      rw [split, pending, List.append_assoc]
    dsimp only
    split
    · exact finish_consumes nofun
    · rename_i header decoded
      split
      · exact rejectedHeader_consumes all nonempty
      · rename_i accepted
        exact acceptedHeader_consumes all long decoded (not_not.mp accepted)

theorem framedIteration_consumes {start : Bytes} {reader : Reader}
    (split : before = start ++ reader.pending) (three : start.length = 3) :
    (framedIteration state start reader).Consumes before := by
  have short : start.length ≤ headerSize := by
    rw [three]
    decide
  dsimp only [framedIteration]
  split
  · apply awaitRead_consumes
    · intro rest timedOut
      exact finish_consumes nofun
    · intro rtuTail rest got
      obtain ⟨pending, size⟩ := readexactly_bytes got
      split
      · refine next_consumes split (by omega) ?_
        rw [pending]
        exact List.suffix_append _ _
      · refine readHeader_consumes ?_ short
        rw [split, unread_pending, pending]
  · exact readHeader_consumes split short

theorem mixedIteration_consumes {view : AuxiliaryView} {start : Bytes} {reader : Reader}
    (split : before = start ++ reader.pending) (three : start.length = 3) :
    (mixedIteration view state start reader).Consumes before := by
  apply awaitBinary_consumes
  intro more rest got
  obtain ⟨pending, size⟩ := readexactly_bytes got
  have long : (start ++ more).length = headerSize := by
    rw [List.length_append, size, three]
    decide
  have all : before = start ++ more ++ rest.pending := by
    rw [split, pending, List.append_assoc]
  dsimp only
  split
  · exact finish_consumes nofun
  · rename_i header decoded
    split
    · exact finish_consumes nofun
    · split
      · rename_i accepted
        apply awaitBinary_consumes
        intro payload rest got
        obtain ⟨pending, size⟩ := readexactly_bytes got
        have bounds := payloadLen_of_accepted accepted
        refine handOn_consumes ?_ long decoded ?_
        · rw [all, pending, ← List.append_assoc]
        · unfold EybondHeader.payloadLen at bounds ⊢
          omega
      · split
        · apply awaitBinary_consumes
          intro tail rest got
          obtain ⟨pending, size⟩ := readexactly_bytes got
          split
          · exact finish_consumes nofun
          · unfold acceptAuxiliary
            split
            · exact finish_consumes nofun
            · split
              · exact finish_consumes nofun
              · refine next_consumes all (by rw [long]; decide) ?_
                rw [pending]
                exact List.suffix_append _ _
        · exact finish_consumes nofun

/-- A finished AT line leaves a suffix of the bytes it was read from. -/
theorem readAtResponse_line {budget : Nat} {data out : Bytes} {binarySuspected : Bool}
    {reader rest : Reader}
    (h : readAtResponse budget data binarySuspected reader = .line out rest) :
    rest.pending <:+ data ++ reader.pending := by
  induction budget generalizing data binarySuspected reader with
  | zero => simp [readAtResponse] at h
  | succ budget ih =>
    unfold readAtResponse at h
    split at h
    · rename_i after timedOut
      cases h
      exact (readexactly_timeout timedOut).trans (List.suffix_append _ _)
    · cases h
    · cases h
    · rename_i byte after got
      obtain ⟨pending, size⟩ := readexactly_bytes got
      have all : data ++ reader.pending = data ++ byte ++ after.pending := by
        rw [pending, List.append_assoc]
      rw [all]
      dsimp only at h
      split at h
      · cases h
        rw [unread_pending]
        obtain ⟨front, cut⟩ := List.drop_suffix ((data ++ byte).length - headerSize) (data ++ byte)
        exact ⟨front, by rw [← List.append_assoc, cut]⟩
      · split at h
        · split at h
          · cases h
            exact List.suffix_append _ _
          · exact ih h
        · split at h
          · exact ih h
          · exact ih h

theorem atIteration_consumes {start : Bytes} {reader : Reader}
    (split : before = start ++ reader.pending) (nonempty : 0 < start.length) :
    (atIteration state reader).Consumes before := by
  unfold atIteration
  split
  · rename_i out rest line
    exact next_consumes split nonempty (readAtResponse_line line)
  · exact finish_consumes nofun
  · exact finish_consumes nofun
  · exact finish_consumes nofun

end Steps

theorem iteration_consumes (view : AuxiliaryView) (state : LoopState) (reader : Reader) :
    (iteration view state reader).Consumes reader.pending := by
  unfold iteration
  split
  · exact finish_consumes nofun
  · apply awaitRead_consumes
    · intro rest timedOut
      exact finish_consumes nofun
    · intro first afterFirst got
      obtain ⟨pendingFirst, one⟩ := readexactly_bytes got
      apply awaitRead_consumes
      · intro rest timedOut
        exact finish_consumes nofun
      · intro more rest got
        obtain ⟨pending, two⟩ := readexactly_bytes got
        have split : reader.pending = first ++ more ++ rest.pending := by
          rw [pendingFirst, pending, List.append_assoc]
        have three : (first ++ more).length = 3 := by
          rw [List.length_append, one, two]
        dsimp only
        split
        · exact atIteration_consumes split (by omega)
        · split
          · exact mixedIteration_consumes split three
          · exact framedIteration_consumes split three

theorem carriesFrame_length {pair : EybondHeader × Bytes} {piece : Bytes}
    (carried : CarriesFrame pair piece) : headerSize ≤ piece.length := by
  obtain ⟨headerBytes, rfl, long, -, -⟩ := carried
  rw [List.length_append]
  omega

theorem loop_slices (fuel : Nat) (views : List AuxiliaryView) (state : LoopState)
    (reader : Reader) : Slices CarriesFrame (loop fuel views state reader).handed reader.pending := by
  induction fuel generalizing views state reader with
  | zero => trivial
  | succ fuel ih =>
    have step := iteration_consumes (views.headD {}) state reader
    unfold loop
    split
    · rename_i header payload state rest eq
      rw [eq] at step
      obtain ⟨piece, cut, carried⟩ := step
      exact slices_cons cut carried (ih views.tail state rest)
    · rename_i state rest eq
      rw [eq] at step
      exact slices_of_suffix step.1 (ih views.tail state rest)
    · trivial

/-- An iteration that goes on has consumed a byte, so the fuel of `readLoop` always lasts. -/
theorem loop_not_starved (fuel : Nat) (views : List AuxiliaryView) (state : LoopState)
    (reader : Reader) (enough : reader.pending.length < fuel) :
    (loop fuel views state reader).ending ≠ .starved := by
  induction fuel generalizing views state reader with
  | zero => omega
  | succ fuel ih =>
    have step := iteration_consumes (views.headD {}) state reader
    unfold loop
    split
    · rename_i header payload state rest eq
      rw [eq] at step
      obtain ⟨piece, cut, carried⟩ := step
      have positive := carriesFrame_length carried
      have length := congrArg List.length cut
      rw [List.length_append] at length
      unfold headerSize at positive
      exact ih views.tail state rest (by omega)
    · rename_i state rest eq
      rw [eq] at step
      obtain ⟨-, shorter⟩ := step
      exact ih views.tail state rest (by omega)
    · rename_i ending eq
      rw [eq] at step
      exact step

/-- For every arrival pattern and every choice of timers, the session ends of itself and the
    pairs handed on are contiguous slices of the received bytes, in order and apart. -/
theorem readLoop_slices (views : List AuxiliaryView) (reader : Reader) :
    (readLoop views reader).ending ≠ .starved ∧
      Slices CarriesFrame (readLoop views reader).handed reader.pending :=
  ⟨loop_not_starved _ views {} reader (Nat.lt_succ_self _), loop_slices _ views {} reader⟩

end ReadLoop
