import EybondLocal.Listener.SocketBytes

/-!
Frames across the hand-over of a pending socket. As long as one task at a time reads the
socket, and none of them lets go of a part of a frame, the bytes a connection starts with are
the peer's frames, some whole ones of which the listener may have read and kept.
-/
namespace Listener
open BinaryFraming BlockStream Execution Socket

def frameSize (bytes : Bytes) : Option Nat := (decodeHeader bytes).map EybondHeader.totalLen

abbrev Frame := Block frameSize

theorem length_of_decodeHeader {bytes : Bytes} {header : EybondHeader}
    (decoded : decodeHeader bytes = some header) : headerSize ≤ bytes.length := by
  match bytes, decoded with
  | _ :: _ :: _ :: _ :: _ :: _ :: _ :: _ :: rest, _ => simp [headerSize]

def frameOf (bytes : Bytes) (header : EybondHeader) (decoded : decodeHeader bytes = some header)
    (length : bytes.length = header.totalLen) : Frame where
  items := bytes
  nonempty := by
    have long := length_of_decodeHeader decoded
    intro empty
    rw [empty] at long
    cases long
  delimited rest := by
    rw [frameSize, decodeHeader_append (length_of_decodeHeader decoded), decoded, length]
    rfl

theorem frame_header (frame : Frame) : ∃ header, headerSize ≤ frame.items.length ∧
    (∀ rest, decodeHeader (frame.items ++ rest) = some header) ∧
    header.totalLen = frame.items.length := by
  have claimed : (decodeHeader frame.items).map EybondHeader.totalLen =
      some frame.items.length := by
    simpa [frameSize] using frame.delimited []
  obtain ⟨header, decoded, total⟩ := Option.map_eq_some_iff.mp claimed
  have long := length_of_decodeHeader decoded
  exact ⟨header, long, fun rest => by rw [decodeHeader_append long, decoded], total⟩

def Droppable : ReaderTask → Prop
  | .completing _ _ => False
  | .awaitingPayload _ need => need = 0
  | _ => True

def TakesWhole (s : Socket) (wakeup : Wakeup) (choice : Choice) : ReaderTask → Prop
  | .watching => wakeup = .data →
    (capped s.initialBytes (s.arrived.take 256)).2 = [] ∨
      Whole frameSize (capped s.initialBytes (s.arrived.take 256)).1 ∧
        Whole frameSize (capped s.initialBytes (s.arrived.take 256)).2
  | .requested .atText => wakeup = .data →
    s.arrived = [] ∨ Whole frameSize s.initialBytes ∧ Whole frameSize (s.arrived.take 128)
  | .requested .framed =>
    (wakeup = .data → headerSize ≤ s.arrived.length → Whole frameSize s.initialBytes ∧
      ∀ header, decodeHeader s.arrived = some header →
        header.totalLen ≤ maxProbedFrame ∧ (choice.stops = true → header.payloadLen = 0)) ∧
    (wakeup = .eof → s.atEof headerSize = true → s.arrived = [] ∨ Whole frameSize s.initialBytes)
  | .awaitingPayload _ need => (wakeup = .timer ∨ wakeup = .failure) → need = 0
  | _ => True

/-- While the socket is pending, no second task starts to read it or reads it when it is
    claimed, no task is cancelled with a part of a frame, and every task takes whole frames. -/
def KeepsFrames (s : Socket) (event : SocketEvent) : Prop :=
  s.place = .pending →
    match event with
    | .sniffs _ _ | .watches _ | .identifies _ => ∀ j, s.tasks j = .idle
    | .goesOn i wakeup choice => TakesWhole s wakeup choice (s.tasks i)
    | .cancels i => Droppable (s.tasks i)
    | .claims task =>
      ∀ j, (task = some j → Droppable (s.tasks j)) ∧ (task ≠ some j → s.tasks j = .idle)
    | .arrives _ | .activates | .closes _ => True

def Kept (frames : List Frame) (initialBytes unread : Bytes) : ReaderTask → Prop
  | .reading | .challenged => initialBytes = [] ∧ Thinned frames unread
  | .completing chunk _ => initialBytes = [] ∧ Thinned frames (chunk ++ unread)
  | .awaitingPayload header need =>
    Whole frameSize initialBytes ∧ Thinned frames (initialBytes ++ (header ++ unread)) ∧
      ∃ frame : Frame, ∃ behind, header ++ unread = frame.items ++ behind ∧
        frame.items.length = header.length + need
  | _ => Thinned frames (initialBytes ++ unread)

structure Aligned (frames : List Frame) (s : Socket) : Prop where
  pending : s.place = .pending → ∃ i, (∀ j, j ≠ i → s.tasks j = .idle) ∧
    Kept frames s.initialBytes s.unread (s.tasks i)
  claimed : s.place = .claimed →
    (∀ j, s.tasks j = .idle) ∧ Thinned frames (s.initialBytes ++ s.unread)
  running : ∀ initialBytes unread, s.place = .running initialBytes unread →
    Thinned frames (initialBytes ++ unread)

namespace Aligned
variable {frames : List Frame} {s : Socket} {i : Nat}

theorem start (frames : List Frame) : Aligned frames (accepted (stream frames)) where
  pending _ := ⟨0, fun _ _ => rfl, thinned_stream frames⟩
  claimed here := by cases here
  running _ _ here := by cases here

theorem ofTask (here : s.place = .pending) (others : ∀ j, j ≠ i → s.tasks j = .idle)
    {task : ReaderTask} (kept : Kept frames s.initialBytes s.unread task) :
    Aligned frames (s.setTask i task) where
  pending _ := by
    refine ⟨i, fun j other => ?_, ?_⟩
    · simp only [setTask, if_neg other]
      exact others j other
    · simpa [setTask, unread] using kept
  claimed there := by
    rw [setTask, here] at there
    cases there
  running _ _ there := by
    rw [setTask, here] at there
    cases there

theorem startable (aligned : Aligned frames s) (free : s.startable i = true)
    (quiet : s.place = .pending → ∀ j, s.tasks j = .idle) :
    s.place = .pending ∧ (∀ j, j ≠ i → s.tasks j = .idle) ∧
      Thinned frames (s.initialBytes ++ s.unread) := by
  simp only [Socket.startable, Bool.and_eq_true, decide_eq_true_eq] at free
  obtain ⟨k, -, kept⟩ := aligned.pending free.1
  rw [quiet free.1 k] at kept
  exact ⟨free.1, fun j _ => quiet free.1 j, kept⟩

theorem ofClosed (closed : s.place = .closed) : Aligned frames s where
  pending here := by rw [closed] at here; cases here
  claimed here := by rw [closed] at here; cases here
  running _ _ here := by rw [closed] at here; cases here

theorem take_consume (s : Socket) (n : Nat) :
    s.arrived.take n ++ (s.consume n).unread = s.unread := by
  rw [unread, unread, consume, ← List.append_assoc, List.take_append_drop]

theorem park (here : s.place = .pending) (others : ∀ j, j ≠ i → s.tasks j = .idle)
    {chunk : Bytes} (thinned : Thinned frames (chunk ++ (s.initialBytes ++ s.unread))) :
    Aligned frames (s.park i chunk) := by
  refine ofTask (s := { s with initialBytes := chunk ++ s.initialBytes }) here others ?_
  simpa [Kept, unread] using thinned

theorem settle (here : s.place = .pending) (others : ∀ j, j ≠ i → s.tasks j = .idle)
    {chunk : Bytes} (first : chunk ≠ [] → s.initialBytes = [])
    (thinned : Thinned frames (chunk ++ (s.initialBytes ++ s.unread))) (exhausted route : Bool) :
    Aligned frames (s.settle i chunk exhausted route) := by
  unfold Socket.settle
  rw [if_neg (fun elsewhere => elsewhere here)]
  split
  · rename_i silent
    subst silent
    split
    · exact ofClosed rfl
    · exact park here others thinned
  · rename_i nonempty
    split
    · exact park here others thinned
    · split
      · rw [first nonempty, List.nil_append] at thinned
        refine ⟨fun there => ?_, fun there => ?_, fun initialBytes unread there => ?_⟩
        · cases there
        · cases there
        · cases there
          exact thinned
      · exact park here others thinned

theorem examine (here : s.place = .pending) (others : ∀ j, j ≠ i → s.tasks j = .idle)
    {chunk : Bytes} (first : s.initialBytes = []) (thinned : Thinned frames (chunk ++ s.unread))
    (route : Bool) : Aligned frames (s.examine i chunk route) := by
  unfold Socket.examine
  split
  · refine settle here others (fun _ => first) ?_ false route
    rwa [first]
  · exact ofTask here others ⟨first, thinned⟩

theorem sniff (here : s.place = .pending) (others : ∀ j, j ≠ i → s.tasks j = .idle)
    (thinned : Thinned frames (s.initialBytes ++ s.unread)) (route : Bool) :
    Aligned frames (s.sniff i route) := by
  unfold Socket.sniff
  split
  · rename_i empty
    rw [empty] at thinned
    exact ofTask here others ⟨empty, thinned⟩
  · exact examine (s := { s with initialBytes := [] }) here others rfl thinned route

theorem capped_append (initialBytes data : Bytes) :
    (capped initialBytes data).1 ++ (capped initialBytes data).2 = initialBytes ++ data := by
  unfold capped
  split
  · exact List.take_append_drop _ _
  · rfl

theorem watched (here : s.place = .pending) (task : s.tasks i = .watching)
    (others : ∀ j, j ≠ i → s.tasks j = .idle)
    (thinned : Thinned frames (s.initialBytes ++ s.unread))
    (fits : (capped s.initialBytes (s.arrived.take 256)).2 = [] ∨
      Whole frameSize (capped s.initialBytes (s.arrived.take 256)).1 ∧
        Whole frameSize (capped s.initialBytes (s.arrived.take 256)).2) (route : Bool) :
    Aligned frames (s.watched i route) := by
  have read : Thinned frames ((capped s.initialBytes (s.arrived.take 256)).1 ++
      ((capped s.initialBytes (s.arrived.take 256)).2 ++ (s.consume 256).unread)) := by
    rw [← List.append_assoc, capped_append, List.append_assoc, take_consume]
    exact thinned
  have left : Thinned frames ((capped s.initialBytes (s.arrived.take 256)).1 ++
      (s.consume 256).unread) := by
    rcases fits with nothing | ⟨front, dropped⟩
    · rwa [nothing, List.nil_append] at read
    · exact read.remove front dropped
  unfold Socket.watched
  dsimp only
  split
  · exact sniff (s := Socket.consume { s with
      initialBytes := (capped s.initialBytes (s.arrived.take 256)).1 } 256) here others left route
  · refine ⟨fun _ => ⟨i, others, ?_⟩, fun there => ?_, fun _ _ there => ?_⟩
    · change Kept frames _ _ (s.tasks i)
      rw [task]
      exact left
    · rw [consume, here] at there
      cases there
    · rw [consume, here] at there
      cases there

theorem unwatched (here : s.place = .pending) : Aligned frames (s.unwatched i) := by
  unfold Socket.unwatched
  rw [if_pos here]
  exact ofClosed rfl

theorem heard (here : s.place = .pending) (others : ∀ j, j ≠ i → s.tasks j = .idle)
    (thinned : Thinned frames (s.initialBytes ++ s.unread)) (request : Option Wire) :
    Aligned frames (s.heard i request) := by
  cases request with
  | none => exact ofTask here others thinned
  | some wire => exact ofTask here others thinned

theorem nothing_left (thinned : Thinned frames (s.initialBytes ++ s.unread))
    (aligned : Whole frameSize s.initialBytes) (ended : s.atEof headerSize = true) :
    s.arrived = [] := by
  simp only [atEof, Bool.and_eq_true, decide_eq_true_eq] at ended
  have rest : s.unread = s.arrived := by rw [unread, ended.2, List.append_nil]
  by_contra more
  obtain ⟨frame, behind, cut⟩ := thinned.next aligned (by rwa [rest])
  obtain ⟨-, long, -⟩ := frame_header frame
  have length := congrArg List.length cut
  rw [rest, List.length_append] at length
  omega

theorem headerRead (here : s.place = .pending) (others : ∀ j, j ≠ i → s.tasks j = .idle)
    (thinned : Thinned frames (s.initialBytes ++ s.unread))
    (long : headerSize ≤ s.arrived.length) (aligned : Whole frameSize s.initialBytes)
    {stops : Bool} (small : ∀ header, decodeHeader s.arrived = some header →
      header.totalLen ≤ maxProbedFrame ∧ (stops = true → header.payloadLen = 0)) :
    Aligned frames (s.headerRead i stops) := by
  have more : s.unread ≠ [] := by
    intro empty
    have length := congrArg List.length empty
    simp only [unread, List.length_append, List.length_nil] at length
    simp only [headerSize] at long
    omega
  obtain ⟨frame, behind, cut⟩ := thinned.next aligned more
  obtain ⟨header, wide, decodes, total⟩ := frame_header frame
  have decoded : decodeHeader s.arrived = some header := by
    rw [← decodes behind, ← cut, unread, decodeHeader_append long]
  have front : decodeHeader (s.arrived.take headerSize) = some header := by
    have size : headerSize ≤ (s.arrived.take headerSize).length := by simp [long]
    rw [← decodeHeader_append size (s.arrived.drop headerSize), List.take_append_drop, decoded]
  have width : (s.arrived.take headerSize).length = headerSize := by simp [long]
  have split := take_consume s headerSize
  unfold Socket.headerRead
  rw [front]
  dsimp only
  split
  · -- The header is given up: then it was all of its frame.
    rename_i given
    obtain ⟨least, last⟩ := small header decoded
    have bare : header.payloadLen = 0 := by
      rcases given with short | large | ended
      · omega
      · omega
      · exact last ended
    have size : frame.items.length = headerSize := by
      rw [← total]
      simp only [EybondHeader.payloadLen] at bare
      omega
    have same : s.arrived.take headerSize = frame.items := by
      have both : s.arrived.take headerSize ++ (s.consume headerSize).unread =
          frame.items ++ behind := by rw [split, cut]
      exact (List.append_inj both (by rw [width, size])).1
    refine ofTask (s := s.consume headerSize) here others ?_
    have read : Thinned frames
        (s.initialBytes ++ (s.arrived.take headerSize ++ (s.consume headerSize).unread)) := by
      rwa [split]
    rw [same] at read
    exact read.remove aligned (whole_items frame)
  · refine ofTask (s := s.consume headerSize) here others ⟨aligned, ?_, frame, behind, ?_, ?_⟩
    · change Thinned frames (s.initialBytes ++ _)
      rwa [split]
    · rw [split, cut]
    · rw [width, ← total]
      simp only [EybondHeader.payloadLen]
      omega

theorem payloadRead (here : s.place = .pending) (others : ∀ j, j ≠ i → s.tasks j = .idle)
    {header : Bytes} {need : Nat}
    (kept : Kept frames s.initialBytes s.unread (.awaitingPayload header need))
    (enough : need ≤ s.arrived.length) {task : ReaderTask}
    (free : Kept frames s.initialBytes (s.consume need).unread task ↔
      Thinned frames (s.initialBytes ++ (s.consume need).unread)) :
    Aligned frames ((s.consume need).setTask i task) := by
  obtain ⟨aligned, thinned, frame, behind, cut, size⟩ := kept
  have both : (header ++ s.arrived.take need) ++ (s.consume need).unread =
      frame.items ++ behind := by
    rw [List.append_assoc, take_consume, cut]
  have width : (header ++ s.arrived.take need).length = frame.items.length := by
    rw [List.length_append, List.length_take, size]
    omega
  refine ofTask (s := s.consume need) here others (free.mpr ?_)
  have read : Thinned frames
      (s.initialBytes ++ ((header ++ s.arrived.take need) ++ (s.consume need).unread)) := by
    rwa [List.append_assoc, take_consume]
  rw [(List.append_inj both width).1] at read
  exact read.remove aligned (whole_items frame)

theorem bareHeader (here : s.place = .pending) (others : ∀ j, j ≠ i → s.tasks j = .idle)
    {header : Bytes} (kept : Kept frames s.initialBytes s.unread (.awaitingPayload header 0)) :
    Aligned frames (s.setTask i .idle) := by
  exact payloadRead here others kept (Nat.zero_le _) Iff.rfl

theorem payload_comes {header : Bytes} {need : Nat}
    (kept : Kept frames s.initialBytes s.unread (.awaitingPayload header need)) :
    s.atEof need = false := by
  obtain ⟨-, -, frame, behind, cut, size⟩ := kept
  by_contra ended
  simp only [atEof, Bool.not_eq_false, Bool.and_eq_true, decide_eq_true_eq] at ended
  have length := congrArg List.length cut
  rw [unread, ended.2, List.append_nil, List.length_append, List.length_append, size] at length
  omega

theorem goesOn (here : s.place = .pending) (others : ∀ j, j ≠ i → s.tasks j = .idle)
    (kept : Kept frames s.initialBytes s.unread (s.tasks i)) (aligned : Aligned frames s)
    {wakeup : Wakeup} {choice : Choice} (takes : TakesWhole s wakeup choice (s.tasks i)) :
    Aligned frames (s.taskGoesOn i wakeup choice) := by
  have read (n : Nat) (front : Bytes) (thinned : Thinned frames (front ++ s.unread)) :
      Thinned frames ((front ++ s.arrived.take n) ++ (s.consume n).unread) := by
    rwa [List.append_assoc, take_consume]
  unfold taskGoesOn
  cases task : s.tasks i with
  | idle => exact aligned
  | reading =>
    rw [task] at kept
    obtain ⟨empty, thinned⟩ := kept
    have silent : Thinned frames ([] ++ (s.initialBytes ++ s.unread)) := by rwa [empty]
    cases wakeup with
    | data =>
      dsimp only
      split
      · exact aligned
      · exact examine (s := s.consume 64) here others empty (read 64 [] thinned) _
    | timer =>
      dsimp only
      split
      · exact ofTask here others ⟨empty, thinned⟩
      · exact settle here others (fun some => absurd rfl some) silent _ _
    | eof =>
      dsimp only
      split
      · exact settle here others (fun some => absurd rfl some) silent _ _
      · exact aligned
    | failure => exact settle here others (fun some => absurd rfl some) silent _ _
  | challenged =>
    rw [task] at kept
    obtain ⟨empty, thinned⟩ := kept
    have silent : Thinned frames ([] ++ (s.initialBytes ++ s.unread)) := by rwa [empty]
    cases wakeup with
    | data =>
      dsimp only
      split
      · exact aligned
      · refine settle (s := s.consume 64) here others (fun _ => empty) ?_ _ _
        change Thinned frames (_ ++ (s.initialBytes ++ _))
        rw [empty]
        exact read 64 [] thinned
    | eof =>
      dsimp only
      split
      · exact settle here others (fun some => absurd rfl some) silent _ _
      · exact aligned
    | timer => exact settle here others (fun some => absurd rfl some) silent _ _
    | failure => exact settle here others (fun some => absurd rfl some) silent _ _
  | completing chunk need =>
    rw [task] at kept
    obtain ⟨empty, thinned⟩ := kept
    have held : Thinned frames (chunk ++ (s.initialBytes ++ s.unread)) := by rwa [empty]
    cases wakeup with
    | data =>
      dsimp only
      split
      · exact aligned
      · refine settle (s := s.consume need) here others (fun _ => empty) ?_ _ _
        change Thinned frames (_ ++ (s.initialBytes ++ _))
        rw [empty]
        exact read need chunk thinned
    | timer => exact settle here others (fun _ => empty) held _ _
    | eof =>
      dsimp only
      split
      · refine settle (s := { s with arrived := [] }) here others (fun _ => empty) ?_ _ _
        change Thinned frames (_ ++ (s.initialBytes ++ s.coming))
        rw [empty, List.append_assoc]
        exact thinned
      · exact aligned
    | failure => exact settle here others (fun _ => empty) held _ _
  | watching =>
    rw [task] at kept takes
    cases wakeup with
    | data =>
      dsimp only
      split
      · exact aligned
      · exact watched here task others kept (takes rfl) _
    | eof =>
      dsimp only
      split
      · exact unwatched here
      · exact aligned
    | timer => exact unwatched here
    | failure => exact unwatched here
  | listening =>
    rw [task] at kept
    cases wakeup with
    | data =>
      dsimp only
      split
      · exact aligned
      · exact heard (s := Socket.consume { s with
          initialBytes := s.initialBytes ++ s.arrived.take 64 } 64) here others (read 64 _ kept) _
    | eof =>
      dsimp only
      split
      · exact heard here others kept _
      · exact aligned
    | timer => exact heard here others kept _
    | failure => exact ofTask here others kept
  | requested wire =>
    rw [task] at kept takes
    cases wire with
    | atText =>
      cases wakeup with
      | data =>
        dsimp only
        split
        · exact aligned
        · rename_i some
          obtain ⟨front, taken⟩ := (takes rfl).resolve_left some
          refine ofTask (s := s.consume 128) here others ?_
          have read : Thinned frames
              (s.initialBytes ++ (s.arrived.take 128 ++ (s.consume 128).unread)) := by
            rwa [take_consume]
          exact read.remove front taken
      | eof =>
        dsimp only
        split
        · exact ofTask here others kept
        · exact aligned
      | timer => exact ofTask here others kept
      | failure => exact ofTask here others kept
    | framed =>
      cases wakeup with
      | data =>
        dsimp only
        split
        · exact aligned
        · rename_i long
          obtain ⟨front, small⟩ := takes.1 rfl (Nat.le_of_not_lt long)
          exact headerRead here others kept (Nat.le_of_not_lt long) front small
      | eof =>
        dsimp only
        split
        · rename_i ended
          have nothing : s.arrived = [] := by
            rcases takes.2 rfl ended with empty | front
            · exact empty
            · exact nothing_left kept front ended
          refine ofTask (s := { s with arrived := [] }) here others ?_
          change Thinned frames (s.initialBytes ++ ([] ++ s.coming))
          rw [← nothing]
          exact kept
        · exact aligned
      | timer => exact ofTask here others kept
      | failure => exact ofTask here others kept
  | awaitingPayload header need =>
    rw [task] at kept takes
    cases wakeup with
    | data =>
      dsimp only
      split
      · exact aligned
      · rename_i enough
        split
        · exact payloadRead here others kept (Nat.le_of_not_lt enough) Iff.rfl
        · exact payloadRead here others kept (Nat.le_of_not_lt enough) Iff.rfl
    | eof =>
      dsimp only
      rw [payload_comes kept]
      exact aligned
    | timer =>
      have bare := takes (Or.inl rfl)
      subst bare
      exact bareHeader here others kept
    | failure =>
      have bare := takes (Or.inr rfl)
      subst bare
      exact bareHeader here others kept

end Aligned

namespace Socket
variable {s : Socket} (i : Nat)

theorem settle_elsewhere (gone : s.place ≠ .pending) (chunk : Bytes) (exhausted route : Bool) :
    (s.settle i chunk exhausted route).place = s.place := by
  rw [settle, if_pos gone]
  rfl

theorem examine_elsewhere (gone : s.place ≠ .pending) (chunk : Bytes) (route : Bool) :
    (s.examine i chunk route).place = s.place := by
  unfold examine
  split
  · exact settle_elsewhere i gone chunk false route
  · rfl

theorem sniff_elsewhere (gone : s.place ≠ .pending) (route : Bool) :
    (s.sniff i route).place = s.place := by
  unfold sniff
  split
  · rfl
  · exact examine_elsewhere (s := { s with initialBytes := [] }) i gone _ route

theorem watched_elsewhere (gone : s.place ≠ .pending) (route : Bool) :
    (s.watched i route).place = s.place := by
  unfold watched
  dsimp only
  split
  · exact sniff_elsewhere (s := consume { s with
      initialBytes := (capped s.initialBytes (s.arrived.take 256)).1 } 256) i gone route
  · rfl

theorem unwatched_elsewhere (gone : s.place ≠ .pending) : (s.unwatched i).place = s.place := by
  rw [unwatched, if_neg gone]
  rfl

theorem headerRead_place (stops : Bool) : (s.headerRead i stops).place = s.place := by
  unfold headerRead
  split
  · rfl
  · split <;> rfl

theorem place_ite {c : Prop} [Decidable c] {yes no : Socket} {place : Place}
    (ifYes : yes.place = place) (ifNo : no.place = place) :
    (if c then yes else no).place = place := by
  split
  · exact ifYes
  · exact ifNo

theorem taskGoesOn_elsewhere (gone : s.place ≠ .pending) (wakeup : Wakeup) (choice : Choice) :
    (s.taskGoesOn i wakeup choice).place = s.place := by
  have settled (chunk : Bytes) (exhausted : Bool) :
      (s.settle i chunk exhausted choice.route).place = s.place :=
    settle_elsewhere i gone chunk exhausted choice.route
  have read (n : Nat) (chunk : Bytes) (exhausted : Bool) :
      ((s.consume n).settle i chunk exhausted choice.route).place = s.place :=
    settle_elsewhere (s := s.consume n) i gone chunk exhausted choice.route
  unfold taskGoesOn
  cases s.tasks i with
  | idle => rfl
  | reading =>
    cases wakeup with
    | data => exact place_ite rfl (examine_elsewhere (s := s.consume 64) i gone _ _)
    | timer => exact place_ite rfl (settled [] false)
    | eof => exact place_ite (settled [] true) rfl
    | failure => exact settled [] true
  | challenged =>
    cases wakeup with
    | data => exact place_ite rfl (read 64 _ false)
    | timer => exact settled [] false
    | eof => exact place_ite (settled [] false) rfl
    | failure => exact settled [] false
  | completing chunk need =>
    cases wakeup with
    | data => exact place_ite rfl (read need _ false)
    | timer => exact settled chunk false
    | eof =>
      exact place_ite (settle_elsewhere (s := { s with arrived := [] }) i gone _ _ _) rfl
    | failure => exact settled chunk true
  | watching =>
    cases wakeup with
    | data => exact place_ite rfl (watched_elsewhere i gone _)
    | timer => exact unwatched_elsewhere i gone
    | eof => exact place_ite (unwatched_elsewhere i gone) rfl
    | failure => exact unwatched_elsewhere i gone
  | listening =>
    cases wakeup with
    | data => exact place_ite rfl rfl
    | timer => rfl
    | eof => exact place_ite rfl rfl
    | failure => rfl
  | requested wire =>
    cases wire with
    | atText => cases wakeup <;> first | rfl | exact place_ite rfl rfl
    | framed =>
      cases wakeup with
      | data => exact place_ite rfl (headerRead_place i _)
      | timer => rfl
      | eof => exact place_ite rfl rfl
      | failure => rfl
  | awaitingPayload header need => cases wakeup <;> first | rfl | exact place_ite rfl rfl

end Socket

def OnFrameBoundary (frames : List Frame) (s : Socket) : Prop :=
  ∀ initialBytes unread, s.place = .running initialBytes unread →
    Thinned frames (initialBytes ++ unread)

theorem dismiss_initialBytes (s : Socket) (task : Option Nat) :
    (s.dismiss task).initialBytes = s.initialBytes := by
  cases task <;> rfl

theorem dismiss_unread (s : Socket) (task : Option Nat) : (s.dismiss task).unread = s.unread := by
  cases task <;> rfl

theorem dismiss_tasks {s : Socket} {task : Option Nat}
    (others : ∀ j, task ≠ some j → s.tasks j = .idle) (j : Nat) :
    (s.dismiss task).tasks j = .idle := by
  cases task with
  | none => exact others j (by simp)
  | some i =>
    by_cases own : j = i
    · simp [Socket.dismiss, setTask, own]
    · have idle := others j (by simpa using Ne.symm own)
      simp [Socket.dismiss, setTask, own, idle]

theorem thinned_of_droppable {frames : List Frame} {initialBytes unread : Bytes}
    {task : ReaderTask} (kept : Kept frames initialBytes unread task) (droppable : Droppable task) :
    Thinned frames (initialBytes ++ unread) := by
  cases task with
  | idle | watching | listening | requested wire => exact kept
  | reading | challenged =>
    obtain ⟨empty, thinned⟩ := kept
    rwa [empty]
  | completing chunk need => exact droppable.elim
  | awaitingPayload header need =>
    obtain ⟨aligned, thinned, frame, behind, cut, size⟩ := kept
    have bare : frame.items.length = header.length := by
      rw [size, show need = 0 from droppable, Nat.add_zero]
    rw [(List.append_inj cut bare.symm).1] at thinned
    exact thinned.remove aligned (whole_items frame)

theorem aligned_step {frames : List Frame} (s : Socket) (event : SocketEvent)
    (aligned : Aligned frames s) (careful : KeepsFrames s event) :
    Aligned frames (socketStep s event) := by
  cases event with
  | arrives n =>
    have same : (socketStep s (.arrives n)).unread = s.unread := by
      simp [socketStep, unread]
    refine ⟨fun here => ?_, fun here => ?_, aligned.running⟩
    · rw [same]
      exact aligned.pending here
    · rw [same]
      exact aligned.claimed here
  | sniffs i route =>
    simp only [socketStep]
    split
    · rename_i free
      obtain ⟨here, others, thinned⟩ := aligned.startable free careful
      exact Aligned.sniff here others thinned route
    · exact aligned
  | watches i =>
    simp only [socketStep]
    split
    · rename_i free
      obtain ⟨here, others, thinned⟩ := aligned.startable free careful
      exact Aligned.ofTask here others thinned
    · exact aligned
  | identifies i =>
    simp only [socketStep]
    split
    · rename_i free
      obtain ⟨here, others, thinned⟩ := aligned.startable free careful
      exact Aligned.ofTask here others thinned
    · exact aligned
  | goesOn i wakeup choice =>
    by_cases here : s.place = .pending
    · obtain ⟨k, others, kept⟩ := aligned.pending here
      by_cases own : i = k
      · subst own
        exact Aligned.goesOn here others kept aligned (careful here)
      · simp only [socketStep, taskGoesOn, others i own]
        exact aligned
    · have place := taskGoesOn_elsewhere i here wakeup choice
      refine ⟨fun there => ?_, fun there => ?_, fun initialBytes unread there => ?_⟩
      · exact absurd (place.symm.trans there) here
      · have idle := (aligned.claimed (place.symm.trans there)).1 i
        simp only [socketStep, taskGoesOn, idle]
        exact aligned.claimed (place.symm.trans there)
      · exact aligned.running initialBytes unread (place.symm.trans there)
  | cancels i =>
    refine ⟨fun here => ?_, fun here => ?_, aligned.running⟩
    · obtain ⟨k, others, kept⟩ := aligned.pending here
      by_cases own : i = k
      · subst own
        have left := thinned_of_droppable kept (careful here)
        have idle : Aligned frames (s.setTask i .idle) :=
          Aligned.ofTask (s := s) here others left
        exact idle.pending here
      · refine ⟨k, fun j other => ?_, ?_⟩
        · by_cases this : j = i
          · simp [socketStep, setTask, this]
          · simp [socketStep, setTask, this, others j other]
        · simpa [socketStep, setTask, Ne.symm own, unread] using kept
    · obtain ⟨idle, thinned⟩ := aligned.claimed here
      refine ⟨fun j => ?_, thinned⟩
      simp [socketStep, setTask, idle j]
  | claims task =>
    simp only [socketStep]
    split
    · rename_i here
      refine ⟨fun there => ?_, fun there => ⟨fun j => ?_, ?_⟩, fun _ _ there => ?_⟩
      · cases there
      · exact dismiss_tasks (fun k other => (careful here k).2 other) j
      · obtain ⟨k, others, kept⟩ := aligned.pending here
        change Thinned frames ((s.dismiss task).initialBytes ++ (s.dismiss task).unread)
        rw [dismiss_initialBytes, dismiss_unread]
        refine thinned_of_droppable kept ?_
        by_cases own : task = some k
        · exact (careful here k).1 own
        · rw [(careful here k).2 own]
          trivial
      · cases there
    · exact aligned
  | activates =>
    simp only [socketStep]
    split
    · rename_i here
      refine ⟨fun there => ?_, fun there => ?_, fun initialBytes unread there => ?_⟩
      · cases there
      · cases there
      · cases there
        exact (aligned.claimed here).2
    · exact aligned
  | closes task =>
    simp only [socketStep]
    split
    · exact Aligned.ofClosed rfl
    · exact aligned

/-- While every step is careful, a connection starts on a frame boundary and misses no part of
    a frame. -/
theorem handed_over_on_frame_boundary (frames : List Frame) (events : List SocketEvent)
    (careful : EveryStep socketStep KeepsFrames (accepted (stream frames)) events) :
    EveryState socketStep (OnFrameBoundary frames) (accepted (stream frames)) events := by
  have aligned := everyState_of_everyStep aligned_step (Aligned.start frames) careful
  exact everyState_mono (fun _ now => now.running) aligned

def shortHeartbeat : Frame :=
  frameOf [0, 1, 0, 1, 0, 6, 1, 1, 9, 8, 7, 6] ⟨1, 1, 6, 1, 1⟩ rfl rfl

def claimPaused : List SocketEvent := [.cancels 0, .claims none, .activates]

def wholeArrival : List SocketEvent :=
  [.sniffs 0 false, .arrives 12, .goesOn 0 .data {}] ++ claimPaused

theorem whole_arrival_handed_over :
    EveryStep socketStep KeepsFrames (accepted (stream [shortHeartbeat])) wholeArrival ∧
      EveryState socketStep (OnFrameBoundary [shortHeartbeat]) (accepted (stream [shortHeartbeat]))
        wholeArrival := by
  have idle (j : Nat) : (run socketStep (accepted (stream [shortHeartbeat]))
      (wholeArrival.take 4)).tasks j = .idle := by
    by_cases own : j = 0
    · rw [own]
      rfl
    · change (if j = 0 then _ else if j = 0 then _ else if j = 0 then _ else _) = _
      simp only [if_neg own]
      rfl
  have careful : EveryStep socketStep KeepsFrames (accepted (stream [shortHeartbeat]))
      wholeArrival := by
    refine ⟨fun _ _ => rfl, fun _ => trivial, fun _ => trivial, fun _ => trivial, fun _ j => ?_,
      fun _ => trivial, trivial⟩
    exact ⟨fun some => (by cases some), fun _ => idle j⟩
  exact ⟨careful, handed_over_on_frame_boundary [shortHeartbeat] wholeArrival careful⟩

/-- Ten of the twelve bytes arrive; the claim cancels the sniffer that waits for the rest. -/
def splitArrival : List SocketEvent :=
  [.sniffs 0 false, .arrives 10, .goesOn 0 .data {}] ++ claimPaused

theorem split_arrival_misaligned :
    ¬ EveryState socketStep (OnFrameBoundary [shortHeartbeat]) (accepted (stream [shortHeartbeat]))
        splitArrival := by
  intro every
  have given : (run socketStep (accepted (stream [shortHeartbeat])) splitArrival).place =
      .running [] [7, 6] := by decide +kernel
  obtain ⟨kept, -, bytes⟩ := everyState_run every [] [7, 6] given
  cases kept with
  | nil => cases bytes
  | cons frame rest =>
    obtain ⟨header, long, -, -⟩ := frame_header frame
    have length := congrArg List.length bytes
    rw [stream_cons, List.length_append] at length
    simp only [headerSize, List.length_append, List.length_cons, List.length_nil] at long length
    omega

end Listener
