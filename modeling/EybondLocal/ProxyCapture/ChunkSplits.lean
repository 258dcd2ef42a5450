import EybondLocal.ProxyCapture.ChunkFilter
import Mathlib.Data.List.Infix

/-!
How a chunk filter depends on where its stream is cut. A filter that is given the start of every
AT line with its three first bytes does to the stream what it does to the lines. A chunk that ends
one or two bytes into a line is forwarded as it is, and so is what follows until some chunk begins
like an AT line again; so what the filter takes for a line may be any end of a line.
-/
namespace ChunkFilter
open StripText AtLine DelimitedLines AtChunkProxyFilter

structure IsAtLine (line : Bytes) : Prop where
  isLine : IsLine newline line
  starts : atMarker <+: line

theorem looksLike_append {bytes : Bytes} (looks : looksLikeAtTraffic bytes = true) (more : Bytes) :
    looksLikeAtTraffic (bytes ++ more) = true := by
  unfold looksLikeAtTraffic at looks ⊢
  rw [List.isPrefixOf_iff_prefix] at looks ⊢
  have visible : (bytes.dropWhile isWhitespace).isEmpty = false := by
    cases cut : bytes.dropWhile isWhitespace with
    | nil =>
      rw [cut] at looks
      exact absurd (List.prefix_nil.mp looks) (by decide)
    | cons _ _ => rfl
  rw [List.dropWhile_append, visible]
  exact looks.trans (List.prefix_append _ _)

theorem looksLike_of_starts {bytes : Bytes} (starts : atMarker <+: bytes) :
    looksLikeAtTraffic bytes = true := by
  obtain ⟨rest, rfl⟩ := starts
  exact looksLike_append (by decide) rest

theorem looksLike_line {line rest : Bytes} (isLine : IsLine newline line)
    (looks : looksLikeAtTraffic (line ++ rest) = true) :
    looksLikeAtTraffic line = true ∨ line.dropWhile isWhitespace = [] := by
  by_cases blank : line.dropWhile isWhitespace = []
  · exact Or.inr blank
  · left
    unfold looksLikeAtTraffic at looks ⊢
    have visible : (line.dropWhile isWhitespace).isEmpty = false := by
      rwa [List.isEmpty_eq_false_iff]
    rw [List.dropWhile_append, visible, if_neg Bool.false_ne_true,
      List.isPrefixOf_iff_prefix] at looks
    rw [List.isPrefixOf_iff_prefix]
    have ending := isLine.suffix (List.dropWhile_suffix isWhitespace) blank
    generalize line.dropWhile isWhitespace = text at looks ending
    -- the newline that ends the text is none of the three bytes
    rcases List.prefix_or_prefix_of_prefix looks (List.prefix_append text rest) with whole | short
    · exact whole
    · obtain ⟨body, rfl, _⟩ := ending
      have inside : newline ∈ atMarker := short.subset (by simp)
      exact absurd inside (by decide)

section Passing
variable (filter : AtChunkProxyFilter)

/-- Whatever the filter may take for a line at this point of the stream is forwarded unchanged.
    `fed` holds of a buffer the lines are taken from, given what is still ahead. -/
structure Passes (held : SessionObservation → Prop) (allowed : Bytes → Prop)
    (within : Bytes → Prop) (fed : Bytes → Bytes → Prop) : Prop where
  keeps : ∀ observed line, held observed → allowed line →
    ∃ event observed', filter.transformLine observed line = .ok (line, event, observed') ∧
      held observed'
  step : ∀ ahead buffer line rest, fed ahead buffer →
    splitLine newline buffer = some (line, rest) → allowed line ∧ fed ahead rest
  enter : ∀ ahead buffer, within (buffer ++ ahead) → looksLikeAtTraffic buffer = true →
    fed ahead buffer
  later : ∀ front rest, within (front ++ rest) → within rest

variable {filter} {held : SessionObservation → Prop} {allowed within : Bytes → Prop}
  {fed : Bytes → Bytes → Prop}

theorem takeLines_passes (passes : Passes filter held allowed within fed) {ahead : Bytes}
    (rounds : Nat) {state : FilterState} (holds : held state.observed)
    (feeds : fed ahead state.buffer) :
    ∃ taken, filter.takeLines rounds state = .ok taken ∧
      taken.bytes ++ taken.state.buffer = state.buffer ∧ held taken.state.observed := by
  induction rounds generalizing state with
  | zero => exact ⟨_, rfl, rfl, holds⟩
  | succ rounds ih =>
    unfold takeLines
    cases split : splitLine newline state.buffer with
    | none => exact ⟨_, rfl, rfl, holds⟩
    | some cut =>
      obtain ⟨line, rest⟩ := cut
      obtain ⟨permitted, feedsRest⟩ := passes.step _ _ _ _ feeds split
      obtain ⟨event, observed, unchanged, holds'⟩ := passes.keeps _ _ holds permitted
      obtain ⟨later, taken, restored, holdsLater⟩ := @ih ⟨rest, observed⟩ holds' feedsRest
      dsimp only at restored
      obtain ⟨_, buffer⟩ := splitLine_some split
      refine ⟨⟨line ++ later.bytes, event.toList ++ later.events, later.state⟩, ?_, ?_, holdsLater⟩
      · dsimp only
        rw [unchanged]
        dsimp only
        rw [taken]
      · rw [List.append_assoc, restored, buffer]

theorem pipe_passes (passes : Passes filter held allowed within fed) (chunks : List Bytes)
    {state : FilterState} (holds : held state.observed)
    (begun : state.buffer = [] ∨ looksLikeAtTraffic state.buffer = true)
    (inside : within (state.buffer ++ chunks.flatten)) :
    filter.pipe state chunks = .ok (state.buffer ++ chunks.flatten) := by
  induction chunks generalizing state with
  | nil => simp [pipe, flush]
  | cons chunk chunks ih =>
    rw [List.flatten_cons] at inside ⊢
    unfold pipe feed
    by_cases empty : chunk = []
    · rw [if_pos empty]
      dsimp only
      rw [empty, List.nil_append] at inside ⊢
      rw [ih holds begun inside]
      rfl
    · rw [if_neg empty]
      by_cases foreign : state.buffer = [] ∧ looksLikeAtTraffic chunk = false
      · rw [if_pos foreign]
        dsimp only
        have ahead : within (state.buffer ++ chunks.flatten) := by
          rw [foreign.1, List.nil_append] at inside ⊢
          exact passes.later _ _ inside
        rw [ih holds begun ahead, foreign.1]
        rfl
      · rw [if_neg foreign]
        dsimp only
        have looks : looksLikeAtTraffic (state.buffer ++ chunk) = true := by
          rcases begun with none_held | held_back
          · rw [none_held, List.nil_append]
            by_contra other
            exact foreign ⟨none_held, Bool.eq_false_iff.mpr other⟩
          · exact looksLike_append held_back chunk
        rw [← List.append_assoc] at inside
        have holdsSame : held (FilterState.mk (state.buffer ++ chunk) state.observed).observed := holds
        obtain ⟨taken, ran, restored, holds'⟩ := takeLines_passes passes
          (state.buffer ++ chunk).length holdsSame (passes.enter chunks.flatten _ inside looks)
        dsimp only at restored
        rw [ran, ← List.append_assoc, ← restored]
        rw [← restored, List.append_assoc] at inside
        have ahead := passes.later _ _ inside
        dsimp only
        by_cases other : taken.state.buffer ≠ [] ∧ looksLikeAtTraffic taken.state.buffer = false
        · rw [if_pos other]
          dsimp only
          rw [@ih ⟨[], taken.state.observed⟩ holds' (Or.inl rfl) (passes.later _ _ ahead)]
          rfl
        · rw [if_neg other]
          dsimp only
          have begun' : taken.state.buffer = [] ∨ looksLikeAtTraffic taken.state.buffer = true := by
            by_cases none_held : taken.state.buffer = []
            · exact Or.inl none_held
            · right
              by_contra unlike
              exact other ⟨none_held, Bool.eq_false_iff.mpr unlike⟩
          rw [ih holds' begun' ahead]
          simp

end Passing

section Unchanged
variable (filter : AtChunkProxyFilter)

def masks (line : Bytes) : Bool :=
  match parseAtResponse line with
  | .error _ => false
  | .ok response =>
    response.command == "CLDSRVHOST1" && filter.maskedEndpoint != "" &&
      decide (buildAtResponse "CLDSRVHOST1" filter.maskedEndpoint ≠ .ok line)

/-- With nothing pending no answer is replaced, and only the cloud's question changes that. -/
theorem transformLine_not_pending (collector : filter.direction = .collectorToCloud)
    {observed : SessionObservation} (idle : observed.pendingMaskedEndpointResponse = false)
    (line : Bytes) : ∃ event observed', filter.transformLine observed line =
      .ok (line, event, observed') ∧ observed'.pendingMaskedEndpointResponse = false := by
  unfold transformLine
  rw [collector]
  dsimp only
  unfold handleCollectorLine
  split
  · exact ⟨_, _, rfl, idle⟩
  · dsimp only
    split
    · exact ⟨_, _, rfl, idle⟩
    · exact ⟨_, _, rfl, idle⟩

theorem transformLine_unmasked (collector : filter.direction = .collectorToCloud) {line : Bytes}
    (unmasked : masks filter line = false) (observed : SessionObservation) :
    ∃ event observed', filter.transformLine observed line = .ok (line, event, observed') := by
  unfold transformLine
  rw [collector]
  dsimp only
  unfold handleCollectorLine
  unfold masks at unmasked
  split
  · exact ⟨_, _, rfl⟩
  · rename_i response parsed
    rw [parsed] at unmasked
    dsimp only at unmasked ⊢
    split
    · exact ⟨_, _, rfl⟩
    · split
      · exact ⟨_, _, rfl⟩
      · split
        · exact ⟨_, _, rfl⟩
        · rename_i own
          rw [not_or, not_not] at own
          have built : buildAtResponse "CLDSRVHOST1" filter.maskedEndpoint = .ok line := by
            simpa [own.1, own.2] using unmasked
          rw [built]
          dsimp only
          rw [if_pos rfl]
          exact ⟨_, _, rfl⟩

/-- Without an endpoint to put in its place every line is forwarded as it is. -/
theorem transformLine_no_endpoint (unset : filter.maskedEndpoint = "")
    (observed : SessionObservation) (line : Bytes) :
    ∃ event observed', filter.transformLine observed line = .ok (line, event, observed') := by
  cases direction : filter.direction with
  | collectorToCloud =>
    apply transformLine_unmasked filter direction
    unfold masks
    split
    · rfl
    · simp [unset]
  | cloudToCollector =>
    unfold transformLine
    rw [direction]
    unfold handleCloudLine
    dsimp only
    split
    · exact ⟨_, _, rfl⟩
    · split
      · exact ⟨_, _, rfl⟩
      · exact ⟨_, _, rfl⟩
  | other =>
    unfold transformLine
    rw [direction]
    exact ⟨_, _, rfl⟩

variable {filter}

theorem passes_of_keeps {held : SessionObservation → Prop}
    (keeps : ∀ observed line, held observed → ∃ event observed',
      filter.transformLine observed line = .ok (line, event, observed') ∧ held observed') :
    Passes filter held (fun _ => True) (fun _ => True) (fun _ _ => True) where
  keeps := fun observed line holds _ => keeps observed line holds
  step := fun _ _ _ _ _ _ => ⟨trivial, trivial⟩
  enter := fun _ _ _ _ => trivial
  later := fun _ _ _ => trivial

theorem pipe_no_endpoint (unset : filter.maskedEndpoint = "") (observed : SessionObservation)
    (chunks : List Bytes) : filter.pipe ⟨[], observed⟩ chunks = .ok chunks.flatten := by
  have passes : Passes filter (fun _ => True) (fun _ => True) (fun _ => True) (fun _ _ => True) := by
    apply passes_of_keeps
    intro observed line _
    obtain ⟨event, observed', unchanged⟩ := transformLine_no_endpoint filter unset observed line
    exact ⟨event, observed', unchanged, trivial⟩
  exact @pipe_passes _ _ _ _ _ passes chunks ⟨[], observed⟩ trivial (Or.inl rfl) trivial

theorem pipe_not_pending (collector : filter.direction = .collectorToCloud) {state : FilterState}
    (idle : state.observed.pendingMaskedEndpointResponse = false)
    (begun : state.buffer = [] ∨ looksLikeAtTraffic state.buffer = true) (chunks : List Bytes) :
    filter.pipe state chunks = .ok (state.buffer ++ chunks.flatten) := by
  have passes : Passes filter (fun observed => observed.pendingMaskedEndpointResponse = false)
      (fun _ => True) (fun _ => True) (fun _ _ => True) := by
    apply passes_of_keeps
    intro observed line idle
    exact transformLine_not_pending filter collector idle line
  exact pipe_passes passes chunks idle begun trivial

end Unchanged

section Lines
variable {filter : AtChunkProxyFilter} {lines : List Bytes}

def Exposed (filter : AtChunkProxyFilter) (observed : SessionObservation) (lines : List Bytes) :
    Prop :=
  observed.pendingMaskedEndpointResponse = true ∧
    ∃ line ∈ lines, ∃ tail, tail <:+ line ∧ looksLikeAtTraffic tail = true ∧
      masks filter tail = true

theorem masks_blank {line : Bytes} (blank : line.dropWhile isWhitespace = []) :
    masks filter line = false := by
  have spaces : ∀ byte : UInt8, isWhitespace byte = true → isSpace (Char.ofNat byte.toNat) = true := by
    have small : ∀ n < 33, 9 ≤ n ∧ n ≤ 13 ∨ n = 32 → isSpace (Char.ofNat n) = true := by decide
    intro byte white
    simp only [isWhitespace, Bool.or_eq_true, Bool.and_eq_true, decide_eq_true_eq, beq_iff_eq,
      UInt8.le_iff_toNat_le, ← UInt8.toNat_inj, UInt8.reduceToNat] at white
    exact small _ (by omega) white
  have empty : strip (decodeAscii line) = "" := by
    have gone : (decodeAscii line).toList.dropWhile isSpace = [] := by
      rw [List.dropWhile_eq_nil_iff] at blank ⊢
      unfold decodeAscii
      intro c mem
      rw [String.toList_ofList, List.mem_map] at mem
      obtain ⟨byte, inside, rfl⟩ := mem
      exact spaces byte (blank byte (List.mem_of_mem_filter inside))
    unfold strip stripBy
    rw [gone]
    rfl
  have refused : parseAtResponse line = .error .responseInvalid := by
    unfold parseAtResponse
    rw [empty]
    rfl
  unfold masks
  rw [refused]

theorem passes_of_not_exposed (collector : filter.direction = .collectorToCloud)
    (all : ∀ line ∈ lines, IsAtLine line)
    (safe : ∀ line ∈ lines, ∀ tail, tail <:+ line → looksLikeAtTraffic tail = true →
      masks filter tail = false) :
    Passes filter (fun _ => True) (fun line => masks filter line = false)
      (fun bytes => bytes <:+ lines.flatten)
      (fun ahead buffer => buffer ++ ahead <:+ lines.flatten ∧
        (looksLikeAtTraffic buffer = true ∨ ∃ left, left <:+ lines ∧ buffer ++ ahead = left.flatten)) where
  keeps := by
    intro observed line _ unmasked
    obtain ⟨event, observed', unchanged⟩ := transformLine_unmasked filter collector unmasked observed
    exact ⟨event, observed', unchanged, trivial⟩
  step := by
    intro ahead buffer line rest fed split
    obtain ⟨isLine, rfl⟩ := splitLine_some split
    obtain ⟨inside, state⟩ := fed
    rw [List.append_assoc] at inside
    obtain ⟨whole, left, ends, mem, suffix, onward⟩ :=
      first_of_suffix (fun line mem => (all line mem).isLine) isLine inside
    have behind : rest ++ ahead <:+ lines.flatten := (List.suffix_append _ _).trans inside
    refine ⟨?_, behind, Or.inr ⟨left, suffix, onward⟩⟩
    rcases state with looks | ⟨here, later, same⟩
    · rcases looksLike_line isLine looks with begins | blank
      · exact safe whole mem line ends begins
      · exact masks_blank blank
    · cases here with
      | nil =>
        rw [List.flatten_nil, List.append_assoc, List.append_eq_nil_iff] at same
        exact absurd same.1 isLine.ne_nil
      | cons first more =>
        have own : first ∈ lines := later.subset List.mem_cons_self
        rw [List.flatten_cons, List.append_assoc] at same
        obtain ⟨rfl, _⟩ := line_unique isLine (all first own).isLine same
        exact safe line own line (List.suffix_refl line) (looksLike_of_starts (all line own).starts)
  enter := fun ahead buffer inside looks => ⟨inside, Or.inl looks⟩
  later := fun front rest inside => (List.suffix_append front rest).trans inside

theorem pipe_not_exposed (collector : filter.direction = .collectorToCloud)
    (all : ∀ line ∈ lines, IsAtLine line) {observed : SessionObservation}
    (safe : ¬ Exposed filter observed lines) {chunks : List Bytes}
    (split : chunks.flatten = lines.flatten) :
    filter.pipe ⟨[], observed⟩ chunks = .ok lines.flatten := by
  rw [← split]
  cases pending : observed.pendingMaskedEndpointResponse with
  | false => exact @pipe_not_pending filter collector ⟨[], observed⟩ pending (Or.inl rfl) chunks
  | true =>
    have unmasked : ∀ line ∈ lines, ∀ tail, tail <:+ line → looksLikeAtTraffic tail = true →
        masks filter tail = false := by
      intro line mem tail ends looks
      by_contra masked
      exact safe ⟨pending, line, mem, tail, ends, looks, Bool.not_eq_false _ ▸ masked⟩
    have inside : ([] : Bytes) ++ chunks.flatten <:+ lines.flatten := by
      rw [split]
      exact List.suffix_refl _
    exact @pipe_passes _ _ _ _ _ (passes_of_not_exposed collector all unmasked) chunks
      ⟨[], observed⟩ trivial (Or.inl rfl) inside

def lineOffset : List Bytes → Nat → Nat
  | [], _ => 0
  | line :: lines, position =>
    if position < line.length then position else lineOffset lines (position - line.length)

def SparesStarts (lines chunks : List Bytes) : Prop :=
  ∀ front ∈ chunks.inits, lineOffset lines front.flatten.length ≠ 1 ∧
    lineOffset lines front.flatten.length ≠ 2

instance (lines chunks : List Bytes) : Decidable (SparesStarts lines chunks) :=
  inferInstanceAs (Decidable (∀ front ∈ chunks.inits, _ ∧ _))

theorem lineOffset_append (done left : List Bytes) (n : Nat) :
    lineOffset (done ++ left) (done.flatten.length + n) = lineOffset left n := by
  induction done with
  | nil => simp
  | cons line done ih =>
    have behind : ¬ (line :: done).flatten.length + n < line.length := by
      rw [List.flatten_cons, List.length_append]
      omega
    have rest : (line :: done).flatten.length + n - line.length = done.flatten.length + n := by
      rw [List.flatten_cons, List.length_append]
      omega
    rw [List.cons_append, lineOffset, if_neg behind, rest, ih]

def runLines (filter : AtChunkProxyFilter) : SessionObservation → List Bytes →
    Except AtError (Bytes × List ProxyEvent × SessionObservation)
  | observed, [] => .ok ([], [], observed)
  | observed, line :: lines =>
    match filter.transformLine observed line with
    | .error error => .error error
    | .ok (transformed, event, observed) =>
      match runLines filter observed lines with
      | .error error => .error error
      | .ok (later, events, observed) => .ok (transformed ++ later, event.toList ++ events, observed)

theorem transformLines_append (observed : SessionObservation) (done left : List Bytes) :
    filter.transformLines observed (done ++ left) =
      match runLines filter observed done with
      | .error error => .error error
      | .ok (bytes, _, observed) =>
        match filter.transformLines observed left with
        | .error error => .error error
        | .ok later => .ok (bytes ++ later) := by
  induction done generalizing observed with
  | nil =>
    simp only [List.nil_append, runLines]
    cases filter.transformLines observed left <;> rfl
  | cons line done ih =>
    simp only [List.cons_append, transformLines, runLines]
    cases filter.transformLine observed line with
    | error error => rfl
    | ok transformed =>
      dsimp only
      rw [ih]
      cases runLines filter transformed.2.2 done with
      | error error => rfl
      | ok more =>
        dsimp only
        cases filter.transformLines more.2.2 left with
        | error error => rfl
        | ok later => simp

theorem takeLines_lines {done : List Bytes} {start : Bytes}
    (all : ∀ line ∈ done, IsLine newline line) (partial_line : newline ∉ start)
    (observed : SessionObservation) {rounds : Nat} (enough : done.length ≤ rounds) :
    filter.takeLines rounds ⟨done.flatten ++ start, observed⟩ =
      match runLines filter observed done with
      | .error error => .error error
      | .ok (bytes, events, observed) => .ok ⟨bytes, events, ⟨start, observed⟩⟩ := by
  induction done generalizing observed rounds with
  | nil =>
    cases rounds with
    | zero => rfl
    | succ rounds =>
      unfold takeLines
      rw [List.flatten_nil, List.nil_append, splitLine_eq_none.mpr partial_line]
      rfl
  | cons line done ih =>
    cases rounds with
    | zero => exact absurd enough (by simp)
    | succ rounds =>
      have later : ∀ other ∈ done, IsLine newline other := by
        intro other mem
        exact all other (List.mem_cons_of_mem line mem)
      have fewer : done.length ≤ rounds := by simpa using enough
      unfold takeLines
      rw [List.flatten_cons, List.append_assoc]
      dsimp only
      rw [splitLine_append (all line List.mem_cons_self), runLines]
      dsimp only
      cases filter.transformLine observed line with
      | error error => rfl
      | ok transformed =>
        dsimp only
        rw [ih later transformed.2.2 fewer]
        cases runLines filter transformed.2.2 done with
        | error error => rfl
        | ok more => rfl

/-- What is held back between two chunks: nothing, or three bytes or more of the next line. -/
def HeldBack (lines : List Bytes) (start : Bytes) : Prop :=
  start = [] ∨ ∃ line more, lines = line :: more ∧ start <+: line ∧ start.length < line.length ∧
    3 ≤ start.length

theorem looksLike_heldBack {start : Bytes} (all : ∀ line ∈ lines, IsAtLine line)
    (held : HeldBack lines start) (some_bytes : start ≠ []) : looksLikeAtTraffic start = true := by
  rcases held with empty | ⟨line, more, rfl, begins, _, long⟩
  · exact absurd empty some_bytes
  · have starts := (all line List.mem_cons_self).starts
    exact looksLike_of_starts (List.prefix_of_prefix_length_le starts begins long)

theorem newline_not_mem_heldBack {start : Bytes} (all : ∀ line ∈ lines, IsAtLine line)
    (held : HeldBack lines start) : newline ∉ start := by
  rcases held with rfl | ⟨line, more, rfl, begins, short, _⟩
  · simp
  · obtain ⟨body, rfl, plain⟩ := (all line List.mem_cons_self).isLine
    have within : start <+: body := by
      apply List.prefix_of_prefix_length_le begins (List.prefix_append body [newline])
      rw [List.length_append, List.length_singleton] at short
      omega
    exact fun inside => plain (within.subset inside)

/-- What the start of the next line comes to when its first bytes are spared. -/
theorem heldBack_of_spared {left : List Bytes} {start : Bytes}
    (state : start = [] ∨ ∃ line more, left = line :: more ∧ start <+: line ∧
      start.length < line.length)
    (spared : lineOffset left start.length ≠ 1 ∧ lineOffset left start.length ≠ 2) :
    HeldBack left start := by
  rcases state with empty | ⟨line, more, rfl, begins, short⟩
  · exact Or.inl empty
  · rw [lineOffset, if_pos short] at spared
    by_cases none_held : start.length = 0
    · exact Or.inl (List.eq_nil_of_length_eq_zero none_held)
    · exact Or.inr ⟨line, more, rfl, begins, short, by omega⟩

theorem pipe_heldBack (chunks : List Bytes) {start : Bytes} (all : ∀ line ∈ lines, IsAtLine line)
    (split : start ++ chunks.flatten = lines.flatten) (held : HeldBack lines start)
    (spared : ∀ front ∈ chunks.inits, lineOffset lines (start.length + front.flatten.length) ≠ 1 ∧
      lineOffset lines (start.length + front.flatten.length) ≠ 2) (observed : SessionObservation) :
    filter.pipe ⟨start, observed⟩ chunks = filter.transformLines observed lines := by
  induction chunks generalizing lines start observed with
  | nil =>
    rw [List.flatten_nil, List.append_nil] at split
    cases lines with
    | nil =>
      rw [split]
      rfl
    | cons line more =>
      have nonempty := List.length_pos_iff.mpr (all line List.mem_cons_self).isLine.ne_nil
      have length := congrArg List.length split
      rw [List.flatten_cons, List.length_append] at length
      rcases held with rfl | ⟨_, _, same, _, short, _⟩
      · rw [List.length_nil] at length
        omega
      · cases same
        omega
  | cons chunk chunks ih =>
    rw [List.flatten_cons, ← List.append_assoc] at split
    unfold pipe feed
    by_cases empty : chunk = []
    · rw [if_pos empty]
      dsimp only
      rw [empty, List.append_nil] at split
      have later : ∀ front ∈ chunks.inits,
          lineOffset lines (start.length + front.flatten.length) ≠ 1 ∧
            lineOffset lines (start.length + front.flatten.length) ≠ 2 := by
        intro front mem
        have own := spared (chunk :: front) (by simpa [List.inits] using mem)
        rwa [empty, List.flatten_cons, List.nil_append] at own
      rw [ih all split held later]
      cases filter.transformLines observed lines <;> rfl
    · obtain ⟨done, left, next, rfl, taken, onward, state⟩ :=
        part_of_lines (fun line mem => (all line mem).isLine) split
      have shifted : ∀ n, lineOffset (done ++ left) (start.length + (chunk.length + n)) =
          lineOffset left (next.length + n) := by
        intro n
        have position : start.length + (chunk.length + n) = done.flatten.length + (next.length + n) := by
          have length := congrArg List.length taken
          rw [List.length_append, List.length_append] at length
          omega
        rw [position, lineOffset_append]
      have later : ∀ front ∈ chunks.inits,
          lineOffset left (next.length + front.flatten.length) ≠ 1 ∧
            lineOffset left (next.length + front.flatten.length) ≠ 2 := by
        intro front mem
        have own := spared (chunk :: front) (by simpa [List.inits] using mem)
        rw [List.flatten_cons, List.length_append] at own
        rwa [← shifted]
      have nextHeld : HeldBack left next := by
        apply heldBack_of_spared state
        have own := later [] (by simp)
        simpa using own
      have allLeft : ∀ line ∈ left, IsAtLine line := by
        intro line mem
        exact all line (List.mem_append_right done mem)
      have allDone : ∀ line ∈ done, IsAtLine line := by
        intro line mem
        exact all line (List.mem_append_left left mem)
      have own : ¬ (start = [] ∧ looksLikeAtTraffic chunk = false) := by
        rintro ⟨rfl, foreign⟩
        rw [List.nil_append] at taken
        have looks : looksLikeAtTraffic chunk = true := by
          rw [taken]
          cases done with
          | nil =>
            rw [List.flatten_nil, List.nil_append] at taken ⊢
            exact looksLike_heldBack allLeft nextHeld (taken ▸ empty)
          | cons line done =>
            rw [List.flatten_cons, List.append_assoc]
            exact looksLike_append
              (looksLike_of_starts (allDone line List.mem_cons_self).starts) _
        rw [looks] at foreign
        cases foreign
      have enough : done.length ≤ (done.flatten ++ next).length := by
        have lines := length_le_flatten fun line mem => (allDone line mem).isLine
        rw [List.length_append]
        omega
      rw [if_neg empty, if_neg own]
      dsimp only
      rw [taken, takeLines_lines (fun line mem => (allDone line mem).isLine)
        (newline_not_mem_heldBack allLeft nextHeld) observed enough, transformLines_append]
      cases runLines filter observed done with
      | error error => rfl
      | ok more =>
        dsimp only
        have kept : ¬ (next ≠ [] ∧ looksLikeAtTraffic next = false) := by
          rintro ⟨some_bytes, foreign⟩
          rw [looksLike_heldBack allLeft nextHeld some_bytes] at foreign
          cases foreign
        rw [if_neg kept]
        dsimp only
        have rest := ih allLeft onward nextHeld later more.2.2
        exact rest ▸ rfl

/-- Given the start of every line in one piece, the filter does what it does to the lines. -/
theorem pipe_spared {chunks : List Bytes} (all : ∀ line ∈ lines, IsAtLine line)
    (split : chunks.flatten = lines.flatten) (spared : SparesStarts lines chunks)
    (observed : SessionObservation) :
    filter.pipe ⟨[], observed⟩ chunks = filter.transformLines observed lines := by
  apply pipe_heldBack chunks all split (Or.inl rfl)
  intro front mem
  rw [List.length_nil, Nat.zero_add]
  exact spared front mem

theorem sparesStarts_self (all : ∀ line ∈ lines, IsAtLine line) : SparesStarts lines lines := by
  intro front mem
  obtain ⟨back, rfl⟩ := (List.mem_inits front lines).mp mem
  have offset : lineOffset (front ++ back) front.flatten.length = 0 := by
    have shifted := lineOffset_append front back 0
    rw [Nat.add_zero] at shifted
    rw [shifted]
    cases back with
    | nil => rfl
    | cons line back =>
      have own := all line (List.mem_append_right front List.mem_cons_self)
      exact if_pos (List.length_pos_iff.mpr own.isLine.ne_nil)
  rw [offset]
  decide

theorem pipe_foreign {chunk : Bytes} (foreign : looksLikeAtTraffic chunk = false)
    (observed : SessionObservation) (chunks : List Bytes) :
    filter.pipe ⟨[], observed⟩ (chunk :: chunks) =
      (filter.pipe ⟨[], observed⟩ chunks).map (chunk ++ ·) := by
  conv_lhs => unfold pipe feed
  by_cases empty : chunk = []
  · rw [if_pos empty, empty]
    dsimp only
    cases filter.pipe ⟨[], observed⟩ chunks with
    | error error => rfl
    | ok later => rfl
  · rw [if_neg empty, if_pos ⟨rfl, foreign⟩]
    dsimp only
    cases filter.pipe ⟨[], observed⟩ chunks with
    | error error => rfl
    | ok later => rfl

theorem map_append_eq_ok_iff {result : Except AtError Bytes} {front rest : Bytes} :
    result.map (front ++ ·) = .ok (front ++ rest) ↔ result = .ok rest := by
  cases result with
  | error error => simp [Except.map]
  | ok bytes => simp [Except.map]

/-- A pending answer that would be replaced by another one is, or raises. -/
theorem transformLine_masks (collector : filter.direction = .collectorToCloud)
    {observed : SessionObservation} (pending : observed.pendingMaskedEndpointResponse = true)
    {line : Bytes} (masked : masks filter line = true) :
    (∃ error, filter.transformLine observed line = .error error) ∨
      ∃ other event observed', filter.transformLine observed line = .ok (other, event, observed') ∧
        other ≠ line ∧ observed'.pendingMaskedEndpointResponse = false := by
  unfold masks at masked
  unfold transformLine
  rw [collector]
  dsimp only
  unfold handleCollectorLine
  cases parsed : parseAtResponse line with
  | error error =>
    rw [parsed] at masked
    cases masked
  | ok response =>
    rw [parsed] at masked
    simp only [Bool.and_eq_true, beq_iff_eq, bne_iff_ne, decide_eq_true_eq] at masked
    obtain ⟨⟨command, endpoint⟩, different⟩ := masked
    have notIdentity : ¬ (response.command = "DTUPN" ∧ response.value ≠ "") := by
      rw [command]
      simp
    have own : ¬ (response.command ≠ "CLDSRVHOST1" ∨ filter.maskedEndpoint = "") := by
      rw [command]
      simp [endpoint]
    dsimp only
    rw [if_neg notIdentity, if_neg (by simp [pending]), if_neg own]
    cases built : buildAtResponse "CLDSRVHOST1" filter.maskedEndpoint with
    | error error => exact Or.inl ⟨error, rfl⟩
    | ok other =>
      rw [built] at different
      have differs : other ≠ line := fun same => different (congrArg _ same)
      dsimp only
      rw [if_neg differs]
      exact Or.inr ⟨_, _, _, rfl, differs, rfl⟩

/-- The end of a line that is such an answer, in a chunk of its own, does not come out as it is. -/
theorem pipe_masks (collector : filter.direction = .collectorToCloud)
    {observed : SessionObservation} (pending : observed.pendingMaskedEndpointResponse = true)
    {tail : Bytes} (isLine : IsLine newline tail) (looks : looksLikeAtTraffic tail = true)
    (masked : masks filter tail = true) (rest : Bytes) :
    filter.pipe ⟨[], observed⟩ [tail, rest] ≠ .ok (tail ++ rest) := by
  have some_tail := isLine.ne_nil
  have own : ¬ (([] : Bytes) = [] ∧ looksLikeAtTraffic tail = false) := by simp [looks]
  have only : ∀ member ∈ [tail], IsLine newline member := by
    intro member mem
    rwa [List.mem_singleton.mp mem]
  have taken := @takeLines_lines filter _ _ only List.not_mem_nil observed _
    (length_le_flatten only)
  rw [List.flatten_singleton, List.append_nil] at taken
  unfold pipe feed
  rw [if_neg some_tail, if_neg own]
  dsimp only
  rw [List.nil_append, taken]
  unfold runLines
  rcases transformLine_masks collector pending masked with ⟨error, raised⟩ |
    ⟨other, event, observed', replaced, differs, idle⟩
  · rw [raised]
    simp
  · rw [replaced]
    simp only [runLines, List.append_nil, ne_eq, not_true_eq_false, false_and, if_false]
    have behind := @pipe_not_pending filter collector ⟨[], observed'⟩ idle (Or.inl rfl) [rest]
    rw [behind]
    intro same
    injection same with bytes
    simp only [List.nil_append, List.flatten_singleton] at bytes
    exact differs (List.append_cancel_right bytes)

theorem not_looksLike_of_T {bytes rest : Bytes} (part : bytes ++ rest = 0x54 :: more) :
    looksLikeAtTraffic bytes = false := by
  cases bytes with
  | nil => rfl
  | cons byte bytes =>
    cases part
    rfl

/-- A stream of AT lines begins with the three marker bytes. -/
theorem flatten_starts {line : Bytes} (all : ∀ line ∈ lines, IsAtLine line) (mem : line ∈ lines) :
    ∃ rest, lines.flatten = 0x41 :: 0x54 :: 0x2B :: rest := by
  cases lines with
  | nil => cases mem
  | cons first more =>
    obtain ⟨rest, starts⟩ := (all first List.mem_cons_self).starts
    refine ⟨rest ++ more.flatten, ?_⟩
    rw [List.flatten_cons, ← starts]
    rfl

/-- One byte first, and the rest of the stream is never looked at. -/
theorem raw_split {line : Bytes} (all : ∀ line ∈ lines, IsAtLine line) (mem : line ∈ lines)
    (observed : SessionObservation) : ∃ chunks, chunks.flatten = lines.flatten ∧
      filter.pipe ⟨[], observed⟩ chunks = .ok lines.flatten := by
  obtain ⟨rest, starts⟩ := flatten_starts all mem
  refine ⟨[[0x41], 0x54 :: 0x2B :: rest], by simp [starts], ?_⟩
  have first : looksLikeAtTraffic [0x41] = false := by decide
  have second : looksLikeAtTraffic (0x54 :: 0x2B :: rest) = false := rfl
  rw [pipe_foreign first, pipe_foreign second, starts]
  simp [pipe, flush, Except.map]

theorem exposed_split (collector : filter.direction = .collectorToCloud)
    (all : ∀ line ∈ lines, IsAtLine line) {observed : SessionObservation}
    (exposed : Exposed filter observed lines) : ∃ chunks, chunks.flatten = lines.flatten ∧
      filter.pipe ⟨[], observed⟩ chunks ≠ .ok lines.flatten := by
  obtain ⟨pending, line, mem, tail, ⟨head, cut⟩, looks, masked⟩ := exposed
  obtain ⟨done, more, rfl⟩ := List.append_of_mem mem
  have some_tail : tail ≠ [] := by
    rintro rfl
    cases looks
  have isLine := (all line mem).isLine.suffix ⟨head, cut⟩ some_tail
  have replaced := pipe_masks collector pending isLine looks masked more.flatten
  have whole : (done ++ line :: more).flatten = (done.flatten ++ head) ++ (tail ++ more.flatten) := by
    rw [← cut]
    simp
  rw [whole]
  cases front : done.flatten ++ head with
  | nil => exact ⟨[tail, more.flatten], by simp, replaced⟩
  | cons byte later =>
    obtain ⟨rest, starts⟩ := flatten_starts all mem
    rw [whole, front, List.cons_append] at starts
    injection starts with isA isT
    have first : looksLikeAtTraffic [byte] = false := by
      rw [isA]
      decide
    refine ⟨[[byte], later, tail, more.flatten], by simp, ?_⟩
    rw [pipe_foreign first, pipe_foreign (not_looksLike_of_T isT)]
    intro same
    have split : byte :: later ++ (tail ++ more.flatten) =
        [byte] ++ (later ++ (tail ++ more.flatten)) := rfl
    rw [split, map_append_eq_ok_iff, map_append_eq_ok_iff] at same
    exact replaced same

end Lines

def CutAnyhow (filter : AtChunkProxyFilter) (observed : SessionObservation) (lines : List Bytes) :
    Prop :=
  ∀ chunks : List Bytes, chunks.flatten = lines.flatten →
    filter.pipe ⟨[], observed⟩ chunks = filter.transformLines observed lines

/-- Every split of the lines gives what the lines give exactly when none of their ends is an answer
    to replace; a split that spares the start of every line always does; and without a configured
    endpoint every stream comes out as it went in. -/
theorem pipe_splits (filter : AtChunkProxyFilter) :
    (filter.direction = .collectorToCloud →
      ∀ (observed : SessionObservation) (lines : List Bytes), (∀ line ∈ lines, IsAtLine line) →
        (CutAnyhow filter observed lines ↔ ¬ Exposed filter observed lines) ∧
          ∀ chunks : List Bytes, chunks.flatten = lines.flatten → SparesStarts lines chunks →
            filter.pipe ⟨[], observed⟩ chunks = filter.transformLines observed lines) ∧
    (filter.maskedEndpoint = "" → ∀ (observed : SessionObservation) (chunks : List Bytes),
      filter.pipe ⟨[], observed⟩ chunks = .ok chunks.flatten) := by
  refine ⟨?_, fun unset observed chunks => pipe_no_endpoint unset observed chunks⟩
  intro collector observed lines all
  refine ⟨?_, fun chunks split spared => pipe_spared all split spared observed⟩
  constructor
  · intro anyhow exposed
    obtain ⟨_, line, mem, _⟩ := id exposed
    obtain ⟨raw, rawSplit, unchanged⟩ := @raw_split filter lines _ all mem observed
    obtain ⟨chunks, split, changed⟩ := exposed_split collector all exposed
    rw [anyhow raw rawSplit] at unchanged
    rw [anyhow chunks split] at changed
    exact changed unchanged
  · intro safe chunks split
    rw [pipe_not_exposed collector all safe split,
      ← pipe_spared all rfl (sparesStarts_self all) observed,
      pipe_not_exposed collector all safe rfl]

def endpointAnswer : Bytes := encodeAscii "AT+CLDSRVHOST1:192.168.1.50,18899,TCP\r\n"

def collectorFilter : AtChunkProxyFilter := .new .collectorToCloud "cloud.example,18899,TCP" ""

def asked : SessionObservation := { pendingMaskedEndpointResponse := true }

theorem endpointAnswer_isAtLine : ∀ line ∈ [endpointAnswer], IsAtLine line := by
  intro line mem
  rw [List.mem_singleton.mp mem]
  constructor
  · exact ⟨endpointAnswer.dropLast, by decide +kernel, by decide +kernel⟩
  · exact ⟨endpointAnswer.drop 3, by decide +kernel⟩

/-- Cut behind the third byte the answer is replaced as a whole. -/
theorem pipe_splits_endpointAnswer :
    collectorFilter.pipe ⟨[], asked⟩ [endpointAnswer.take 3, endpointAnswer.drop 3] =
      collectorFilter.transformLines asked [endpointAnswer] :=
  ((pipe_splits collectorFilter).1 rfl asked [endpointAnswer] endpointAnswer_isAtLine).2
    [endpointAnswer.take 3, endpointAnswer.drop 3] (by decide +kernel) (by decide +kernel)

/-- Cut behind the first byte it is forwarded as it is. -/
theorem endpointAnswer_exposed : ¬ CutAnyhow collectorFilter asked [endpointAnswer] := by
  intro anyhow
  have cut := anyhow [endpointAnswer.take 1, endpointAnswer.drop 1] (by decide +kernel)
  have differs : (collectorFilter.pipe ⟨[], asked⟩
      [endpointAnswer.take 1, endpointAnswer.drop 1]).toOption ≠
        (collectorFilter.transformLines asked [endpointAnswer]).toOption := by decide +kernel
  exact differs (congrArg _ cut)

end ChunkFilter
