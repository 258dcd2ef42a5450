import EybondLocal.Transport.ReadSlices

/-!
Progress and resynchronisation of the read loop. `unrecognisedHeader` follows the reads of one
iteration up to the call of `_resync_after_unrecognised_header`; every other way through an
iteration leaves the two counters alone or counts a frame. Over a session the counters are
then the frames so far and the resynchronisations since the last of them.
-/
namespace ReadLoop
open BinaryFraming PrefixedReader

def onBytes {α : Type} (reply : Reply) (got : Bytes → Reader → Option α) : Option α :=
  match reply with
  | .bytes data reader => got data reader
  | _ => none

def unrecognisedInHeader (start : Bytes) (reader : Reader) : Option (Bytes × String × Reader) :=
  onBytes (reader.readexactly true (headerSize - start.length)) fun more reader =>
    let headerBytes := start ++ more
    match decodeHeader headerBytes with
    | none => none
    | some header =>
      if runtimeEybondHeaderError header = "" ∨
          headerSize < strayModbusRtuReplyLength headerBytes ∨
          looksLikeStrayModbusRtuReply headerBytes = true then none
      else some (headerBytes, runtimeEybondHeaderError header, reader)

def unrecognisedInFrame (start : Bytes) (reader : Reader) : Option (Bytes × String × Reader) :=
  let rtuLength := strayModbusRtuReplyLength start
  if 0 < rtuLength ∧ rtuLength ≤ headerSize then
    onBytes (reader.readexactly true (rtuLength - start.length)) fun rtuTail reader =>
      if modbusRtuCrcIsValid (start ++ rtuTail) then none
      else unrecognisedInHeader start (reader.unread rtuTail)
  else unrecognisedInHeader start reader

/-- What this iteration calls `_resync_after_unrecognised_header` with, when it does. -/
def unrecognisedHeader (view : AuxiliaryView) (reader : Reader) :
    Option (Bytes × String × Reader) :=
  if view.closed then none
  else
    onBytes (reader.readexactly false 1) fun first reader =>
      onBytes (reader.readexactly true 2) fun more reader =>
        if first ++ more = atMarker ∨ view.enabled = true then none
        else unrecognisedInFrame (first ++ more) reader

def Iteration.Counts (state : LoopState) : Iteration → Prop
  | .handedOn _ _ after _ => after = noteFrame state
  | .next after _ => after.framesThisSession = state.framesThisSession ∧
      after.headerResyncStreak = state.headerResyncStreak
  | .finish _ => True

section Counting
variable {state : LoopState}

theorem awaitRead_counts {reply : Reply} {timedOut : Reader → Iteration}
    {got : Bytes → Reader → Iteration} (onTimeout : ∀ rest, (timedOut rest).Counts state)
    (onBytes : ∀ data rest, reply = .bytes data rest → (got data rest).Counts state) :
    (awaitRead reply timedOut got).Counts state := by
  cases reply with
  | bytes data rest => exact onBytes data rest rfl
  | timeout rest => exact onTimeout rest
  | eof => trivial
  | cancelled => trivial

theorem awaitBinary_counts {reply : Reply} {got : Bytes → Reader → Iteration}
    (onBytes : ∀ data rest, (got data rest).Counts state) :
    (awaitBinary reply got).Counts state := by
  cases reply with
  | bytes data rest => exact onBytes data rest
  | timeout rest => trivial
  | eof => trivial
  | cancelled => trivial

theorem next_counts (reader : Reader) : (Iteration.next state reader).Counts state := ⟨rfl, rfl⟩

theorem skipped_counts (reader : Reader) :
    (Iteration.next (noteSkippedStrayRtuReply state) reader).Counts state := ⟨rfl, rfl⟩

theorem skipCutOff_counts (reader : Reader) :
    (skipCutOffStrayRtuReply state reader).Counts state :=
  awaitRead_counts next_counts fun _ rest _ => next_counts rest

theorem readPayload_counts (header : EybondHeader) (reader : Reader) :
    (readPayload state header reader).Counts state := by
  unfold readPayload
  split
  · exact awaitRead_counts (fun _ => trivial) fun _ _ _ => rfl
  · rfl

theorem acceptedHeader_counts (headerBytes : Bytes) (header : EybondHeader) (reader : Reader) :
    (acceptedHeader state headerBytes header reader).Counts state := by
  dsimp only [acceptedHeader]
  split
  · refine awaitRead_counts skipCutOff_counts fun rtuTail rest _ => ?_
    split
    · exact skipped_counts rest
    · exact readPayload_counts header _
  · exact readPayload_counts header reader

theorem atIteration_counts (reader : Reader) : (atIteration state reader).Counts state := by
  unfold atIteration
  split
  · exact next_counts _
  · trivial
  · trivial
  · trivial

theorem mixedIteration_counts (view : AuxiliaryView) (start : Bytes) (reader : Reader) :
    (mixedIteration view state start reader).Counts state := by
  refine awaitBinary_counts fun more rest => ?_
  dsimp only
  split
  · trivial
  · split
    · trivial
    · split
      · exact awaitBinary_counts fun _ _ => rfl
      · split
        · refine awaitBinary_counts fun tail rest => ?_
          split
          · trivial
          · unfold acceptAuxiliary
            split
            · trivial
            · split
              · trivial
              · exact next_counts rest
        · trivial

/-- The iteration ends in the call of `_resync_after_unrecognised_header`, or counts. -/
def Iteration.Follows (state : LoopState) (found : Option (Bytes × String × Reader))
    (step : Iteration) : Prop :=
  match found with
  | some (headerBytes, headerError, reader) =>
    step = resyncAfterUnrecognisedHeader state headerBytes headerError reader
  | none => step.Counts state

theorem awaitRead_follows {reply : Reply} {timedOut : Reader → Iteration}
    {got : Bytes → Reader → Iteration} {look : Bytes → Reader → Option (Bytes × String × Reader)}
    (onTimeout : ∀ rest, (timedOut rest).Counts state)
    (next : ∀ data rest, (got data rest).Follows state (look data rest)) :
    (awaitRead reply timedOut got).Follows state (onBytes reply look) := by
  cases reply with
  | bytes data rest => exact next data rest
  | timeout rest => exact onTimeout rest
  | eof => trivial
  | cancelled => trivial

theorem rejectedHeader_counts {headerBytes : Bytes} {headerError : String} (reader : Reader)
    (known : headerSize < strayModbusRtuReplyLength headerBytes ∨
      looksLikeStrayModbusRtuReply headerBytes = true) :
    (rejectedHeader state headerBytes headerError reader).Counts state := by
  dsimp only [rejectedHeader]
  split
  · refine awaitRead_counts skipCutOff_counts fun rtuTail rest _ => ?_
    split
    · exact skipped_counts rest
    · trivial
  · rename_i short
    split
    · trivial
    · rename_i unlike
      rcases known with long | like
      · exact absurd long short
      · exact absurd like unlike

theorem readHeader_follows (start : Bytes) (reader : Reader) :
    (readHeader state start reader).Follows state (unrecognisedInHeader start reader) := by
  refine awaitRead_follows (fun _ => trivial) fun more rest => ?_
  dsimp only
  cases decoded : decodeHeader (start ++ more) with
  | none => trivial
  | some header =>
    dsimp only
    by_cases accepted : runtimeEybondHeaderError header = ""
    · rw [if_pos (Or.inl accepted), if_neg (not_not.mpr accepted)]
      exact acceptedHeader_counts (start ++ more) header rest
    · rw [if_pos accepted]
      split
      · rename_i known
        exact rejectedHeader_counts rest (known.resolve_left accepted)
      · rename_i unknown
        obtain ⟨-, short, unlike⟩ := not_or.mp unknown |>.imp_right not_or.mp
        show rejectedHeader state (start ++ more) (runtimeEybondHeaderError header) rest = _
        unfold rejectedHeader
        dsimp only
        rw [if_neg short, if_neg unlike]

theorem framedIteration_follows (start : Bytes) (reader : Reader) :
    (framedIteration state start reader).Follows state (unrecognisedInFrame start reader) := by
  dsimp only [framedIteration, unrecognisedInFrame]
  split
  · refine awaitRead_follows (fun _ => trivial) fun rtuTail rest => ?_
    split
    · exact skipped_counts rest
    · exact readHeader_follows start _
  · exact readHeader_follows start reader

theorem iteration_follows (view : AuxiliaryView) (reader : Reader) :
    (iteration view state reader).Follows state (unrecognisedHeader view reader) := by
  unfold iteration unrecognisedHeader
  split
  · trivial
  · refine awaitRead_follows (fun _ => trivial) fun first rest => ?_
    refine awaitRead_follows (fun _ => trivial) fun more rest => ?_
    dsimp only
    by_cases text : first ++ more = atMarker
    · rw [if_pos text, if_pos (Or.inl text)]
      exact atIteration_counts rest
    · rw [if_neg text]
      by_cases mixed : view.enabled = true
      · rw [if_pos mixed, if_pos (Or.inr mixed)]
        exact mixedIteration_counts view (first ++ more) rest
      · rw [if_neg mixed, if_neg (not_or.mpr ⟨text, mixed⟩)]
        exact framedIteration_follows (first ++ more) rest

/-- Only a session that delivered a frame, and has resynchronisations left, goes on. -/
theorem resync_cases (state : LoopState) (headerBytes : Bytes) (headerError : String) (reader : Reader) :
    ((state.framesThisSession = 0 ∨ headerResyncLimit ≤ state.headerResyncStreak) ∧
        resyncAfterUnrecognisedHeader state headerBytes headerError reader =
          .finish (.closed headerError)) ∨
      (0 < state.framesThisSession ∧ state.headerResyncStreak < headerResyncLimit ∧
        ∀ step, resyncAfterUnrecognisedHeader state headerBytes headerError reader = step →
          (∃ ending, step = .finish ending) ∨ ∃ rest, step =
            .next { state with headerResyncStreak := state.headerResyncStreak + 1 } rest) := by
  by_cases closing : state.framesThisSession = 0 ∨ headerResyncLimit ≤ state.headerResyncStreak
  · refine Or.inl ⟨closing, ?_⟩
    unfold resyncAfterUnrecognisedHeader
    rw [if_pos closing]
  · refine Or.inr ⟨by omega, by omega, ?_⟩
    rintro step rfl
    unfold resyncAfterUnrecognisedHeader
    rw [if_neg closing]
    dsimp only
    cases reader.takeAvailable with
    | bytes taken rest =>
      dsimp only [awaitRead]
      split
      · exact Or.inr ⟨_, rfl⟩
      · exact Or.inr ⟨_, rfl⟩
    | timeout rest => exact Or.inr ⟨rest, rfl⟩
    | eof => exact Or.inl ⟨_, rfl⟩
    | cancelled => exact Or.inl ⟨_, rfl⟩

end Counting

inductive Event where
  | frame
  | resync
  | passed
  deriving DecidableEq, Repr

def advance (view : AuxiliaryView) (state : LoopState) (reader : Reader) :
    Option (Event × LoopState × Reader) :=
  match iteration view state reader with
  | .handedOn _ _ after rest => some (.frame, after, rest)
  | .next after rest =>
    some (if (unrecognisedHeader view reader).isSome then .resync else .passed, after, rest)
  | .finish _ => none

def session (reader : Reader) : List AuxiliaryView → Option (List Event × LoopState × Reader)
  | [] => some ([], {}, reader)
  | view :: earlier =>
    match session reader earlier with
    | none => none
    | some (events, state, rest) =>
      match advance view state rest with
      | none => none
      | some (event, after, later) => some (event :: events, after, later)

def sinceFrame (events : List Event) : List Event := events.takeWhile (· ≠ .frame)

theorem advance_shorter {view : AuxiliaryView} {state after : LoopState} {reader rest : Reader}
    {event : Event} (went : advance view state reader = some (event, after, rest)) :
    rest.pending.length < reader.pending.length := by
  have step := iteration_consumes view state reader
  unfold advance at went
  split at went
  · rename_i header payload _ _ handed
    cases went
    rw [handed] at step
    obtain ⟨piece, cut, carried⟩ := step
    have positive := carriesFrame_length carried
    have length := congrArg List.length cut
    rw [List.length_append] at length
    unfold headerSize at positive
    omega
  · rename_i next
    cases went
    rw [next] at step
    exact step.2
  · cases went

def Event.Counts (state after : LoopState) : Event → Prop
  | .frame => after.framesThisSession = state.framesThisSession + 1 ∧
      after.headerResyncStreak = 0
  | .resync => after.framesThisSession = state.framesThisSession ∧
      after.headerResyncStreak = state.headerResyncStreak + 1 ∧
      0 < state.framesThisSession ∧ state.headerResyncStreak < headerResyncLimit
  | .passed => after.framesThisSession = state.framesThisSession ∧
      after.headerResyncStreak = state.headerResyncStreak

theorem advance_counts {view : AuxiliaryView} {state after : LoopState} {reader rest : Reader}
    {event : Event} (went : advance view state reader = some (event, after, rest)) :
    event.Counts state after := by
  have follows : (iteration view state reader).Follows state (unrecognisedHeader view reader) :=
    iteration_follows view reader
  unfold advance at went
  cases found : unrecognisedHeader view reader with
  | none =>
    rw [found] at follows went
    split at went
    · rename_i handed
      cases went
      rw [handed] at follows
      have counted : after = noteFrame state := follows
      rw [counted]
      exact ⟨rfl, rfl⟩
    · rename_i next
      cases went
      rw [next] at follows
      exact follows
    · cases went
  | some call =>
    obtain ⟨headerBytes, headerError, later⟩ := call
    rw [found] at follows went
    have called : iteration view state reader =
        resyncAfterUnrecognisedHeader state headerBytes headerError later := follows
    rw [called] at went
    rcases resync_cases state headerBytes headerError later with
      ⟨_, closed⟩ | ⟨delivered, left, ways⟩
    · rw [closed] at went
      cases went
    · rcases ways _ rfl with ⟨ending, finished⟩ | ⟨kept, next⟩
      · rw [finished] at went
        cases went
      · rw [next] at went
        cases went
        exact ⟨rfl, rfl, delivered, left⟩

theorem sinceFrame_frame (events : List Event) : sinceFrame (.frame :: events) = [] := by
  simp [sinceFrame]

theorem sinceFrame_cons {event : Event} (other : event ≠ .frame) (events : List Event) :
    sinceFrame (event :: events) = event :: sinceFrame events := by
  simp [sinceFrame, other]

theorem sinceFrame_append {stretch : List Event} (frameless : Event.frame ∉ stretch)
    (events : List Event) : sinceFrame (stretch ++ events) = stretch ++ sinceFrame events := by
  induction stretch with
  | nil => rfl
  | cons event stretch ih =>
    rw [List.mem_cons, not_or] at frameless
    rw [List.cons_append, sinceFrame_cons (Ne.symm frameless.1), ih frameless.2, List.cons_append]

section Session
variable {reader rest : Reader} {views : List AuxiliaryView} {events : List Event}
  {state : LoopState}

theorem session_cons {view : AuxiliaryView}
    (ran : session reader (view :: views) = some (events, state, rest)) :
    ∃ earlier before middle event, session reader views = some (earlier, before, middle) ∧
      advance view before middle = some (event, state, rest) ∧ events = event :: earlier := by
  unfold session at ran
  split at ran
  · cases ran
  · rename_i earlier before middle ranBefore
    split at ran
    · cases ran
    · rename_i event after later went
      cases ran
      exact ⟨earlier, before, middle, event, ranBefore, went, rfl⟩

theorem session_counts (ran : session reader views = some (events, state, rest)) :
    state.framesThisSession = events.count .frame ∧
      state.headerResyncStreak = (sinceFrame events).count .resync ∧
      state.headerResyncStreak ≤ headerResyncLimit := by
  induction views generalizing events state rest with
  | nil =>
    cases ran
    exact ⟨rfl, rfl, Nat.zero_le _⟩
  | cons view views ih =>
    obtain ⟨earlier, before, middle, event, ranBefore, went, rfl⟩ := session_cons ran
    obtain ⟨frames, streak, bounded⟩ := ih ranBefore
    have counts := advance_counts went
    cases event with
    | frame =>
      obtain ⟨oneMore, none⟩ := counts
      refine ⟨?_, ?_, by omega⟩
      · rw [List.count_cons_self]
        omega
      · rw [sinceFrame_frame, none]
        rfl
    | resync =>
      obtain ⟨same, oneMore, _, left⟩ := counts
      refine ⟨?_, ?_, by omega⟩
      · rw [List.count_cons_of_ne (by decide)]
        omega
      · rw [sinceFrame_cons (by decide), List.count_cons_self]
        omega
    | passed =>
      obtain ⟨same, kept⟩ := counts
      refine ⟨?_, ?_, by omega⟩
      · rw [List.count_cons_of_ne (by decide)]
        omega
      · rw [sinceFrame_cons (by decide), List.count_cons_of_ne (by decide)]
        omega

theorem session_shorter (ran : session reader views = some (events, state, rest)) :
    views.length + rest.pending.length ≤ reader.pending.length := by
  induction views generalizing events state rest with
  | nil =>
    cases ran
    simp
  | cons view views ih =>
    obtain ⟨earlier, before, middle, event, ranBefore, went, rfl⟩ := session_cons ran
    have := ih ranBefore
    have := advance_shorter went
    rw [List.length_cons]
    omega

/-- A session that delivered no frame is never resynchronised. -/
theorem session_resync (ran : session reader views = some (events, state, rest))
    {later earlier : List Event} (split : events = later ++ .resync :: earlier) :
    Event.frame ∈ earlier := by
  induction views generalizing events state rest later with
  | nil =>
    cases ran
    simp at split
  | cons view views ih =>
    obtain ⟨former, before, middle, event, ranBefore, went, rfl⟩ := session_cons ran
    cases later with
    | nil =>
      cases split
      obtain ⟨_, _, delivered, _⟩ := advance_counts went
      rw [(session_counts ranBefore).1] at delivered
      exact List.count_pos_iff.mp delivered
    | cons _ later =>
      cases split
      exact ih ranBefore rfl

/-- Between two frames there are never more resynchronisations than allowed. -/
theorem session_stretch (ran : session reader views = some (events, state, rest))
    {later stretch earlier : List Event} (split : events = later ++ (stretch ++ earlier))
    (frameless : Event.frame ∉ stretch) : stretch.count .resync ≤ headerResyncLimit := by
  induction views generalizing events state rest later with
  | nil =>
    cases ran
    obtain ⟨-, empty⟩ := List.nil_eq_append_iff.mp split
    rw [(List.append_eq_nil_iff.mp empty).1]
    exact Nat.zero_le _
  | cons view views ih =>
    obtain ⟨former, before, middle, event, ranBefore, went, rfl⟩ := session_cons ran
    cases later with
    | nil =>
      obtain ⟨_, streak, bounded⟩ := session_counts ran
      rw [split, List.nil_append, sinceFrame_append frameless, List.count_append] at streak
      omega
    | cons _ later =>
      cases split
      exact ih ranBefore rfl

end Session

/-- At any point of any session, for any arrivals and timeouts: the next iteration returns or
    leaves fewer bytes, a session without a frame was never resynchronised, no stretch without a
    frame holds more resynchronisations than the limit, and once they are used up the next
    unrecognised header closes the session; so the loop always ends. -/
theorem session_progress (reader : Reader) (views : List AuxiliaryView) (events : List Event)
    (state : LoopState) (rest : Reader)
    (ran : session reader views = some (events, state, rest)) (view : AuxiliaryView) :
    (∀ event after later, advance view state rest = some (event, after, later) →
      later.pending.length < rest.pending.length) ∧
    (∀ later earlier, events = later ++ .resync :: earlier → Event.frame ∈ earlier) ∧
    (∀ later stretch earlier, events = later ++ (stretch ++ earlier) → Event.frame ∉ stretch →
      stretch.count .resync ≤ headerResyncLimit) ∧
    (∀ headerBytes headerError later,
      unrecognisedHeader view rest = some (headerBytes, headerError, later) →
      Event.frame ∉ events ∨ (sinceFrame events).count .resync = headerResyncLimit →
      iteration view state rest = .finish (.closed headerError)) ∧
    views.length + rest.pending.length ≤ reader.pending.length ∧
    ∀ all, (readLoop all reader).ending ≠ .starved := by
  refine ⟨fun event after later went => advance_shorter went,
    fun later earlier split => session_resync ran split,
    fun later stretch earlier split frameless => session_stretch ran split frameless,
    fun headerBytes headerError later found spent => ?_, session_shorter ran,
    fun all => (readLoop_slices all reader).1⟩
  obtain ⟨frames, streak, _⟩ := session_counts ran
  have follows : (iteration view state rest).Follows state (unrecognisedHeader view rest) :=
    iteration_follows view rest
  rw [found] at follows
  have called : iteration view state rest =
      resyncAfterUnrecognisedHeader state headerBytes headerError later := follows
  rw [called]
  rcases resync_cases state headerBytes headerError later with
    ⟨_, closed⟩ | ⟨delivered, left, _⟩
  · exact closed
  · rcases spent with undelivered | used
    · rw [frames] at delivered
      exact absurd (List.count_pos_iff.mp delivered) undelivered
    · omega

def interrupted : Reader :=
  ⟨[], [0, 1, 0, 1, 0, 2, 255, 1, 0, 0, 0, 0, 0, 0, 0, 0x6c], [], [.timer]⟩

theorem session_progress_interrupted :
    session interrupted [{}, {}] =
        some ([.resync, .frame], { framesThisSession := 1, headerResyncStreak := 1 },
          ⟨[], [], [], []⟩) ∧
      ([.resync] : List Event).count .resync ≤ headerResyncLimit := by
  have ran : session interrupted [{}, {}] =
      some ([.resync, .frame], { framesThisSession := 1, headerResyncStreak := 1 },
        ⟨[], [], [], []⟩) := by rfl
  obtain ⟨_, _, stretches, _⟩ := session_progress interrupted _ _ _ _ ran {}
  exact ⟨ran, stretches [] [.resync] [.frame] rfl (by decide)⟩

end ReadLoop
