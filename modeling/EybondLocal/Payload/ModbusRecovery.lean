import EybondLocal.Payload.ModbusRead

/-!
Register reads return verified data only and recover answers that were cut. A reply is
recognised by its length, its three header bytes and its CRC; whatever is returned is the words
of a reply, and each of the three ways to one finds the reply that the answers contain.
-/
namespace ModbusRead
open BinaryFraming StripText

/-- A complete reply to this read: right slave, function and byte count, with a verifying CRC. -/
structure ReadCall.IsReply (call : ReadCall) (frame : Bytes) : Prop where
  size : frame.length = call.expectedLength
  header : call.agrees frame = true
  crc : crcMatches frame = true

structure ReadCall.Valid (call : ReadCall) : Prop where
  some_register : 1 ≤ call.count
  fits : call.count ≤ 127
  known : call.function = 3 ∨ call.function = 4

theorem registersOf_length (payload : Bytes) (n : Nat) (even : payload.length = n * 2) :
    (registersOf payload).length = n := by
  induction n generalizing payload with
  | zero =>
    rw [List.eq_nil_of_length_eq_zero (by omega : payload.length = 0)]
    rfl
  | succ n ih =>
    match payload, even with
    | high :: low :: rest, even =>
      rw [registersOf, List.length_cons, ih rest (by simp only [List.length_cons] at even; omega)]
    | [_], even => simp at even; omega
    | [], even => simp at even

section Replies
variable {call : ReadCall} {frame : Bytes}

theorem contains_of_known {function : UInt8} (known : function = 3 ∨ function = 4) :
    readFunctions.contains function = true := by
  rcases known with three | four
  · rw [three]
    decide
  · rw [four]
    decide

theorem ReadCall.Valid.contains (valid : call.Valid) :
    readFunctions.contains call.function = true := contains_of_known valid.known

theorem ReadCall.Valid.supported (valid : call.Valid) : call.supported = true := by
  rw [ReadCall.supported, valid.contains, Bool.true_and, decide_eq_true_eq]
  exact valid.some_register

theorem not_exception_of_known {function : UInt8} (known : function = 3 ∨ function = 4) :
    function ≠ function ||| 0x80 := by
  rcases known with three | four
  · rw [three]
    decide
  · rw [four]
    decide

theorem words_length (reply : call.IsReply frame) : (words frame).length = call.count := by
  apply registersOf_length
  have size := reply.size
  rw [List.length_drop, List.length_take, size]
  unfold ReadCall.expectedLength
  omega

theorem parse_of_agrees (known : call.function = 3 ∨ call.function = 4) (header : call.agrees frame = true)
    (long : 5 ≤ frame.length) :
    call.parseReadRegistersResponse frame =
      if frame.length ≠ 3 + call.count * 2 + 2 then
        .error (.modbus ("unexpected_length:" ++ toString frame.length))
      else if crcMatches frame = false then .error (.modbus "crc_mismatch")
      else .ok (words frame) := by
  simp only [ReadCall.agrees, decide_eq_true_eq] at header
  obtain ⟨slave, function, bytes⟩ := header
  unfold ReadCall.parseReadRegistersResponse
  rw [if_neg (by rw [contains_of_known known]; simp), if_neg (by omega),
    if_neg (not_not.mpr slave),
    if_neg (by rw [function]; exact not_exception_of_known known), if_neg (not_not.mpr function),
    if_neg (not_not.mpr bytes), bytes]

theorem parse_reply (known : call.function = 3 ∨ call.function = 4) (reply : call.IsReply frame) :
    call.parseReadRegistersResponse frame = .ok (words frame) := by
  have size : frame.length = 3 + call.count * 2 + 2 := reply.size
  rw [parse_of_agrees known reply.header (by omega), if_neg (not_not.mpr size),
    if_neg (by simp [reply.crc])]

theorem reply_of_parse {registers : List Nat}
    (parsed : call.parseReadRegistersResponse frame = .ok registers) :
    call.IsReply frame ∧ registers = words frame := by
  unfold ReadCall.parseReadRegistersResponse at parsed
  split at parsed
  · cases parsed
  split at parsed
  · cases parsed
  split at parsed
  · cases parsed
  rename_i slave
  split at parsed
  · cases parsed
  split at parsed
  · cases parsed
  rename_i function
  split at parsed
  · cases parsed
  rename_i bytes
  split at parsed
  · cases parsed
  rename_i size
  split at parsed
  · cases parsed
  rename_i crc
  cases parsed
  refine ⟨⟨?_, ?_, by simpa using crc⟩, rfl⟩
  · rw [not_not.mp bytes] at size
    exact not_not.mp size
  · rw [ReadCall.agrees, decide_eq_true_eq]
    exact ⟨not_not.mp slave, not_not.mp function, not_not.mp bytes⟩

theorem parse_refused (valid : call.Valid) (other : ¬ call.IsReply frame) :
    ∃ text, call.parseReadRegistersResponse frame = .error (.modbus text) := by
  cases parsed : call.parseReadRegistersResponse frame with
  | ok registers => exact absurd (reply_of_parse parsed).1 other
  | error error =>
    cases error with
    | modbus text => exact ⟨text, rfl⟩
    | value text =>
      unfold ReadCall.parseReadRegistersResponse at parsed
      rw [if_neg (by rw [valid.contains]; simp)] at parsed
      split_ifs at parsed <;> cases parsed

theorem tail_of_recover {tail : Bytes} (recovered : call.recoverReadReplyTail frame = some tail) :
    call.IsReply tail ∧ ∃ junk, frame = junk ++ tail := by
  unfold ReadCall.recoverReadReplyTail at recovered
  split at recovered
  · cases recovered
  split at recovered
  · cases recovered
  rename_i long
  dsimp only at recovered
  split at recovered
  · cases recovered
  rename_i header
  split at recovered
  · cases recovered
  rename_i crc
  cases recovered
  refine ⟨⟨?_, by simpa using header, by simpa using crc⟩,
    frame.take (frame.length - call.expectedLength), (List.take_append_drop _ _).symm⟩
  rw [List.length_drop]
  omega

/-- Whatever stands in front, a reply at the end is found. -/
theorem recover_tail (valid : call.Valid) {junk reply : Bytes} (some_junk : junk ≠ [])
    (complete : call.IsReply reply) :
    call.recoverReadReplyTail (junk ++ reply) = some reply := by
  have positive := List.length_pos_of_ne_nil some_junk
  have size := complete.size
  have total : (junk ++ reply).length = junk.length + call.expectedLength := by
    rw [List.length_append, size]
  have tail : (junk ++ reply).drop ((junk ++ reply).length - call.expectedLength) = reply := by
    rw [total, Nat.add_sub_cancel, List.drop_left]
  unfold ReadCall.recoverReadReplyTail
  rw [if_neg (by simp [valid.supported]), if_neg (by omega)]
  dsimp only
  rw [tail, if_neg (by simp [complete.header]), if_neg (by simp [complete.crc])]

theorem agrees_append (start : Bytes) (three : 3 ≤ start.length) (rest : Bytes) :
    call.agrees (start ++ rest) = call.agrees start := by
  match start, three with
  | _ :: _ :: _ :: _, _ => rfl

theorem reply_of_reassemble {start continuation joined : Bytes}
    (found : call.reassembleSplitReadReply start continuation = some joined) :
    call.IsReply joined ∧ joined = start ++ continuation := by
  unfold ReadCall.reassembleSplitReadReply at found
  split at found
  · cases found
  rename_i cut
  dsimp only at found
  split at found
  · cases found
  rename_i size
  split at found
  · cases found
  rename_i crc
  cases found
  refine ⟨⟨not_not.mp size, ?_, by simpa using crc⟩, rfl⟩
  simp only [Bool.not_eq_false, ReadCall.isReadReplyPrefix] at cut
  split at cut
  · cases cut
  split at cut
  · cases cut
  rename_i within
  rw [agrees_append start (by omega)]
  exact cut

theorem prefix_of_reply (valid : call.Valid) (reply : call.IsReply frame) {k : Nat} (three : 3 ≤ k)
    (short : k < frame.length) : call.isReadReplyPrefix (frame.take k) = true := by
  have header := reply.header
  have size := reply.size
  unfold ReadCall.isReadReplyPrefix
  rw [if_neg (by simp [valid.supported]), if_neg (by rw [List.length_take]; omega)]
  rw [← agrees_append (frame.take k) (by rw [List.length_take]; omega) (frame.drop k),
    List.take_append_drop]
  exact header

theorem reassemble_reply (valid : call.Valid) (reply : call.IsReply frame) {k : Nat}
    (three : 3 ≤ k) (short : k < frame.length) :
    call.reassembleSplitReadReply (frame.take k) (frame.drop k) = some frame := by
  unfold ReadCall.reassembleSplitReadReply
  rw [if_neg (by simp [prefix_of_reply valid reply three short])]
  dsimp only
  rw [List.take_append_drop, if_neg (not_not.mpr reply.size), if_neg (by simp [reply.crc])]

end Replies

section Judging
variable {call : ReadCall} {held : List Bytes} {response : Bytes}

theorem judge_ends (valid : call.Valid) {result : Except ReadError (List Nat)}
    (ended : call.judge held response = .ends result) :
    ∃ reply, call.IsReply reply ∧ result = .ok (words reply) ∧
      (response = reply ∨ (∃ junk, response = junk ++ reply) ∨
        ∃ start ∈ held, reply = start ++ response) := by
  unfold ReadCall.judge at ended
  split at ended
  · rename_i registers parsed
    cases ended
    obtain ⟨reply, rfl⟩ := reply_of_parse parsed
    exact ⟨response, reply, rfl, Or.inl rfl⟩
  · rename_i text parsed
    have other : ¬ call.IsReply response := by
      intro reply
      rw [parse_reply valid.known reply] at parsed
      cases parsed
    obtain ⟨_, refused⟩ := parse_refused valid other
    rw [refused] at parsed
    cases parsed
  · split at ended
    · rename_i tail recovered
      cases ended
      obtain ⟨reply, junk, rfl⟩ := tail_of_recover recovered
      exact ⟨tail, reply, parse_reply valid.known reply, Or.inr (Or.inl ⟨junk, rfl⟩)⟩
    · split at ended
      · rename_i joined found
        cases ended
        obtain ⟨start, held, found⟩ := List.exists_of_findSome?_eq_some found
        obtain ⟨reply, rfl⟩ := reply_of_reassemble found
        exact ⟨_, reply, parse_reply valid.known reply, Or.inr (Or.inr ⟨start, held, rfl⟩)⟩
      · cases ended

theorem judge_rejected {text : String} {kept : List Bytes}
    (rejected : call.judge held response = .rejected text kept) :
    call.parseReadRegistersResponse response = .error (.modbus text) ∧
      call.recoverReadReplyTail response = none ∧
      kept = if call.isReadReplyPrefix response then held ++ [response] else held := by
  unfold ReadCall.judge at rejected
  split at rejected
  · cases rejected
  · cases rejected
  · rename_i parsed
    split at rejected
    · cases rejected
    · rename_i unrecovered
      split at rejected
      · cases rejected
      · cases rejected
        exact ⟨parsed, unrecovered, rfl⟩

theorem judge_tail (valid : call.Valid) {junk reply : Bytes} (complete : call.IsReply reply) :
    call.judge held (junk ++ reply) = .ends (.ok (words reply)) := by
  by_cases empty : junk = []
  · unfold ReadCall.judge
    rw [empty, List.nil_append, parse_reply valid.known complete]
  · have other : ¬ call.IsReply (junk ++ reply) := by
      intro whole
      have size := whole.size
      have positive := List.length_pos_of_ne_nil empty
      rw [List.length_append, complete.size] at size
      omega
    obtain ⟨text, refused⟩ := parse_refused valid other
    unfold ReadCall.judge
    rw [refused]
    dsimp only
    rw [recover_tail valid empty complete]
    dsimp only
    rw [parse_reply valid.known complete]

theorem retryable_unexpected_length (n : Nat) :
    isRetryableReadError ("unexpected_length:" ++ toString n) = true := by
  have starts : startsWith ("unexpected_length:" ++ toString n) "unexpected_length:" = true := by
    rw [startsWith_iff, String.toList_append]
    exact List.prefix_append _ _
  simp only [isRetryableReadError, List.any_cons, starts, Bool.true_or, Bool.or_true]

theorem judge_cut (valid : call.Valid) {reply : Bytes} (complete : call.IsReply reply) {k : Nat}
    (three : 3 ≤ k) (short : k < reply.length) :
    ∃ text, call.judge [] (reply.take k) = .rejected text [reply.take k] ∧
      isRetryableReadError text = true := by
  have size := complete.size
  have length : (reply.take k).length = k := by
    rw [List.length_take]
    omega
  have header : call.agrees (reply.take k) = true := by
    rw [← agrees_append (reply.take k) (by omega) (reply.drop k), List.take_append_drop]
    exact complete.header
  have unrecovered : call.recoverReadReplyTail (reply.take k) = none := by
    unfold ReadCall.recoverReadReplyTail
    rw [if_neg (by simp [valid.supported]), if_pos (by omega)]
  have judged (text : String)
      (refused : call.parseReadRegistersResponse (reply.take k) = .error (.modbus text)) :
      call.judge [] (reply.take k) = .rejected text [reply.take k] := by
    unfold ReadCall.judge
    rw [refused]
    dsimp only
    rw [unrecovered]
    dsimp only [List.findSome?]
    rw [if_pos (prefix_of_reply valid complete three short), List.nil_append]
  by_cases tiny : k < 5
  · refine ⟨"response_too_short", judged _ ?_, by decide⟩
    unfold ReadCall.parseReadRegistersResponse
    rw [if_neg (by rw [valid.contains]; simp), if_pos (by omega)]
  · refine ⟨"unexpected_length:" ++ toString (reply.take k).length, judged _ ?_,
      retryable_unexpected_length _⟩
    unfold ReadCall.expectedLength at size
    rw [parse_of_agrees valid.known header (by omega), if_pos (by omega)]

theorem judge_rest (valid : call.Valid) {reply : Bytes} (complete : call.IsReply reply) {k : Nat}
    (three : 3 ≤ k) (short : k < reply.length) :
    call.judge [reply.take k] (reply.drop k) = .ends (.ok (words reply)) := by
  have size := complete.size
  have length : (reply.drop k).length < call.expectedLength := by
    rw [List.length_drop]
    omega
  have other : ¬ call.IsReply (reply.drop k) := by
    intro whole
    have := whole.size
    omega
  obtain ⟨text, refused⟩ := parse_refused valid other
  have unrecovered : call.recoverReadReplyTail (reply.drop k) = none := by
    unfold ReadCall.recoverReadReplyTail
    rw [if_neg (by simp [valid.supported]), if_pos (by omega)]
  unfold ReadCall.judge
  rw [refused]
  dsimp only
  rw [unrecovered]
  dsimp only [List.findSome?]
  rw [reassemble_reply valid complete three short]
  dsimp only
  rw [parse_reply valid.known complete]

end Judging

section Attempts
variable {call : ReadCall} {outcomes : Nat → Outcome}

/-- Every held piece is an earlier answer of this call that was cut short. -/
def Held (call : ReadCall) (outcomes : Nat → Outcome) (attempt : Nat) (held : List Bytes) : Prop :=
  ∀ start ∈ held, call.isReadReplyPrefix start = true ∧
    ∃ i < attempt, outcomes i = .answer start

/-- Where a returned reply comes from: one answer, the end of one, or an earlier answer followed
    by a later one. -/
def Source (outcomes : Nat → Outcome) (requests : Nat) (reply : Bytes) : Prop :=
  (∃ i < requests, outcomes i = .answer reply) ∨
    (∃ i < requests, ∃ junk, outcomes i = .answer (junk ++ reply)) ∨
    ∃ i j start rest, i < j ∧ j < requests ∧ outcomes i = .answer start ∧
      outcomes j = .answer rest ∧ reply = start ++ rest

structure Sound (call : ReadCall) (outcomes : Nat → Outcome) (left attempt : Nat)
    (read : ReadResult) : Prop where
  bounded : read.sent.length ≤ left
  returned : ∀ registers, read.result = .ok registers → ∃ reply, call.IsReply reply ∧
    registers = words reply ∧ Source outcomes (attempt + read.sent.length) reply
  held : ∀ k sent, read.sent[k]? = some sent → Held call outcomes (attempt + k) sent.held
  owed : ∀ k sent, read.sent[k]? = some sent → 2 ≤ attempt + k → sent.held ≠ []
  found : ∀ k junk reply, k < read.sent.length → call.IsReply reply →
    outcomes (attempt + k) = .answer (junk ++ reply) → read.result = .ok (words reply)

variable {left attempt : Nat} {held : List Bytes} {request : Bytes}

theorem sound_last {result : Except ReadError (List Nat)}
    (kept : Held call outcomes attempt held) (owed : 2 ≤ attempt → held ≠ [])
    (returned : ∀ registers, result = .ok registers → ∃ reply, call.IsReply reply ∧
      registers = words reply ∧ Source outcomes (attempt + 1) reply)
    (found : ∀ junk reply, call.IsReply reply → outcomes attempt = .answer (junk ++ reply) →
      result = .ok (words reply)) :
    Sound call outcomes (left + 1) attempt ⟨result, [⟨request, held⟩]⟩ where
  bounded := by simp
  returned := returned
  held := by
    intro k sent at_k
    cases k with
    | zero =>
      cases at_k
      exact kept
    | succ k => cases at_k
  owed := by
    intro k sent at_k late
    cases k with
    | zero =>
      cases at_k
      exact owed late
    | succ k => cases at_k
  found := by
    intro k junk reply within complete answered
    have : k = 0 := by simpa using within
    subst this
    exact found junk reply complete answered

theorem sound_next {later : ReadResult} (kept : Held call outcomes attempt held)
    (owed : 2 ≤ attempt → held ≠ []) (sound : Sound call outcomes left (attempt + 1) later)
    (unfound : ∀ junk reply, call.IsReply reply → outcomes attempt ≠ .answer (junk ++ reply)) :
    Sound call outcomes (left + 1) attempt (later.after ⟨request, held⟩) where
  bounded := Nat.succ_le_succ sound.bounded
  returned := by
    intro registers result
    have := sound.returned registers result
    rwa [Nat.add_assoc, Nat.add_comm 1] at this
  held := by
    intro k sent at_k
    cases k with
    | zero =>
      cases at_k
      exact kept
    | succ k =>
      have := sound.held k sent at_k
      rwa [Nat.add_assoc, Nat.add_comm 1] at this
  owed := by
    intro k sent at_k late
    cases k with
    | zero =>
      cases at_k
      exact owed late
    | succ k => exact sound.owed k sent at_k (by omega)
  found := by
    intro k junk reply within complete answered
    cases k with
    | zero => exact absurd answered (unfound junk reply complete)
    | succ k =>
      refine sound.found k junk reply (Nat.lt_of_succ_lt_succ within) complete ?_
      rw [← answered]
      congr 1
      omega

theorem attempts_sound (valid : call.Valid) (request : Bytes) (left attempt : Nat)
    (held : List Bytes) (lastError : ReadError) (kept : Held call outcomes attempt held)
    (owed : 2 ≤ attempt → held ≠ []) :
    Sound call outcomes left attempt (attempts call request outcomes left attempt held lastError) := by
  induction left generalizing attempt held lastError with
  | zero =>
    exact ⟨Nat.le_refl _, nofun, nofun, nofun, nofun⟩
  | succ left ih =>
    have later {more : List Bytes} (same : Held call outcomes (attempt + 1) more)
        (due : 2 ≤ attempt + 1 → more ≠ []) (error : ReadError) :=
      ih (attempt + 1) more error same due
    unfold attempts
    split
    · rename_i timedOut
      have unfound (junk reply : Bytes) (_ : call.IsReply reply) :
          outcomes attempt ≠ .answer (junk ++ reply) := by
        rw [timedOut]
        exact nofun
      split
      · rename_i first
        refine sound_next kept owed (later ?_ (by omega) _) unfound
        intro start member
        obtain ⟨cut, i, before, answered⟩ := kept start member
        exact ⟨cut, i, by omega, answered⟩
      · exact sound_last kept owed nofun fun junk reply complete answered =>
          absurd answered (unfound junk reply complete)
    · rename_i response answered
      split
      · rename_i result ended
        refine sound_last kept owed ?_ ?_
        · rintro registers rfl
          obtain ⟨reply, complete, result, from_answer⟩ := judge_ends valid ended
          refine ⟨reply, complete, by simpa using result, ?_⟩
          rcases from_answer with rfl | ⟨junk, rfl⟩ | ⟨start, member, rfl⟩
          · exact Or.inl ⟨attempt, by omega, answered⟩
          · exact Or.inr (Or.inl ⟨attempt, by omega, junk, answered⟩)
          · obtain ⟨_, i, before, earlier⟩ := kept start member
            exact Or.inr (Or.inr ⟨i, attempt, start, response, before, by omega, earlier, answered,
              rfl⟩)
        · intro junk reply complete again
          rw [answered] at again
          cases again
          rw [judge_tail valid complete] at ended
          cases ended
          rfl
      · rename_i text more rejected
        have unfound (junk reply : Bytes) (complete : call.IsReply reply) :
            outcomes attempt ≠ .answer (junk ++ reply) := by
          intro again
          rw [answered] at again
          cases again
          rw [judge_tail valid complete] at rejected
          cases rejected
        obtain ⟨_, _, grown⟩ := judge_rejected rejected
        split
        · rename_i retry
          refine sound_next kept owed (later ?_ ?_ _) unfound
          · intro start member
            rw [grown] at member
            have before : start ∈ held ∨
                call.isReadReplyPrefix response = true ∧ start = response := by
              split at member
              · rename_i cut
                rcases List.mem_append.mp member with old | new
                · exact Or.inl old
                · exact Or.inr ⟨cut, List.mem_singleton.mp new⟩
              · exact Or.inl member
            rcases before with old | ⟨cut, rfl⟩
            · obtain ⟨cut, i, before, earlier⟩ := kept start old
              exact ⟨cut, i, by omega, earlier⟩
            · exact ⟨cut, attempt, by omega, answered⟩
          · intro late
            rcases retry.2 with first | ⟨_, some_held⟩
            · omega
            · exact some_held
        · exact sound_last kept owed nofun fun junk reply complete again =>
            absurd again (unfound junk reply complete)

end Attempts

theorem readRegisters_sound {call : ReadCall} (valid : call.Valid) (outcomes : Nat → Outcome) :
    Sound call outcomes maxReadAttempts 0 (readRegisters call outcomes) := by
  unfold readRegisters ReadCall.buildReadRequest
  rw [if_neg (by rw [valid.contains]; simp)]
  exact attempts_sound valid _ _ _ _ _ nofun (by omega)

theorem readRegisters_split {call : ReadCall} (valid : call.Valid) {outcomes : Nat → Outcome}
    {reply : Bytes} (complete : call.IsReply reply) {k : Nat} (three : 3 ≤ k)
    (first : outcomes 0 = .answer (reply.take k)) (second : outcomes 1 = .answer (reply.drop k)) :
    (readRegisters call outcomes).result = .ok (words reply) := by
  unfold readRegisters ReadCall.buildReadRequest
  rw [if_neg (by rw [valid.contains]; simp)]
  by_cases short : k < reply.length
  · obtain ⟨text, cut, retry⟩ := judge_cut valid complete three short
    simp only [maxReadAttempts, attempts, first, cut, retry, second,
      judge_rest valid complete three short, ReadResult.after, true_and, if_true, Nat.zero_add,
      true_or]
  · rw [List.take_of_length_le (Nat.not_lt.mp short)] at first
    have whole : call.judge [] ([] ++ reply) = .ends (.ok (words reply)) :=
      judge_tail valid complete
    rw [List.nil_append] at whole
    simp only [maxReadAttempts, attempts, first, whole]

/-- Only verified data is returned, at most three requests are sent, and what the answers contain
    is recovered. -/
theorem readRegisters_verified (call : ReadCall) (valid : call.Valid) (outcomes : Nat → Outcome) :
    let read := readRegisters call outcomes
    (∀ registers, read.result = .ok registers → registers.length = call.count ∧
      ∃ reply, call.IsReply reply ∧ registers = words reply ∧
        Source outcomes read.sent.length reply) ∧
    (read.sent.length ≤ 3 ∧ ∀ third, read.sent[2]? = some third →
      ∃ start ∈ third.held, call.isReadReplyPrefix start = true ∧
        ∃ i < 2, outcomes i = .answer start) ∧
    ∀ reply, call.IsReply reply →
      (∀ k, 3 ≤ k → outcomes 0 = .answer (reply.take k) → outcomes 1 = .answer (reply.drop k) →
        read.result = .ok (words reply)) ∧
      ∀ i junk, i < read.sent.length → outcomes i = .answer (junk ++ reply) →
        read.result = .ok (words reply) := by
  intro read
  have sound := readRegisters_sound valid outcomes
  refine ⟨fun registers result => ?_, ⟨sound.bounded, fun third sent => ?_⟩,
    fun reply complete => ⟨fun k three first second => ?_, fun i junk within answered => ?_⟩⟩
  · obtain ⟨reply, complete, rfl, source⟩ := sound.returned registers result
    rw [Nat.zero_add] at source
    exact ⟨words_length complete, reply, complete, rfl, source⟩
  · obtain ⟨start, member⟩ := List.exists_mem_of_ne_nil _ (sound.owed 2 third sent (by omega))
    exact ⟨start, member, sound.held 2 third sent start member⟩
  · exact readRegisters_split valid complete three first second
  · refine sound.found i junk reply within complete ?_
    rw [Nat.zero_add]
    exact answered

/-- A one-register reply handed back in two pieces. -/
theorem readRegisters_verified_split :
    (⟨1, 0, 1, 3⟩ : ReadCall).IsReply [1, 3, 2, 0, 5, 120, 71] ∧
      (readRegisters ⟨1, 0, 1, 3⟩ fun i =>
        if i = 0 then .answer [1, 3, 2] else .answer [0, 5, 120, 71]).result = .ok [5] := by
  have complete : (⟨1, 0, 1, 3⟩ : ReadCall).IsReply [1, 3, 2, 0, 5, 120, 71] :=
    ⟨rfl, by decide, by decide +kernel⟩
  refine ⟨complete, ?_⟩
  obtain ⟨_, _, recovered⟩ := readRegisters_verified ⟨1, 0, 1, 3⟩
    ⟨by decide, by decide, Or.inl rfl⟩
    fun i => if i = 0 then .answer [1, 3, 2] else .answer [0, 5, 120, 71]
  exact (recovered _ complete).1 3 (by decide) rfl rfl

end ModbusRead
