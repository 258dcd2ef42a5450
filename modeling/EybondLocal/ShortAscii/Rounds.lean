import EybondLocal.ShortAscii.OptionalReads

/-!
What one read of the short-ASCII driver does: a `Q1` exchange, the samples checked against the
negative cache, and then nothing, an answered query or a missed one.
-/
namespace ShortAscii
open PythonObject OrderedDict Hub HookRun CommandSupport

variable {ω : Type} {link : Link ω} {decimals : Decimals} {clock : ω → ℚ} {feed feed' : Feed ω}

def Feed.asked (link : Link ω) (clock : ω → ℚ) (wire : String) (feed : Feed ω) : Feed ω :=
  (ask link clock wire feed).1

def Feed.checked (clock : ω → ℚ) (feed : Feed ω) : Feed ω :=
  { feed with reads := feed.reads.checkSupport feed.cache (feed.now clock) }

def Answered (decimals : Decimals) (command : OptionalCommand) (answer : Ending Failure Bytes) :
    Prop :=
  ∃ frame values, answer = .returned frame ∧ command.parser decimals frame = .ok values

inductive Refreshed (link : Link ω) (decimals : Decimals) (clock : ω → ℚ) (feed : Feed ω) :
    Feed ω → Prop
  | idle (none : feed.reads.chosen (feed.now clock) = none) : Refreshed link decimals clock feed feed
  | answered (command : OptionalCommand) (frame : Bytes) (values : Values)
      (chosen : feed.reads.chosen (feed.now clock) = some command)
      (replied : (link.request command.wire feed.world).2 = .returned frame)
      (parsed : command.parser decimals frame = .ok values) :
      Refreshed link decimals clock feed
        ((feed.asked link clock command.wire).answer clock command values)
  | missed (command : OptionalCommand) (outcome : SampleOutcome)
      (chosen : feed.reads.chosen (feed.now clock) = some command)
      (handled : outcome = .timeout ∨ outcome = .invalidResponse)
      (failed : ¬Answered decimals command (link.request command.wire feed.world).2) :
      Refreshed link decimals clock feed
        (((feed.asked link clock command.wire).miss clock command outcome).recordFailure command)

theorem Refreshed.binding (refreshed : Refreshed link decimals clock feed feed') :
    feed'.reads.transport = feed.reads.transport ∧ feed'.reads.inverter = feed.reads.inverter := by
  cases refreshed <;> exact ⟨rfl, rfl⟩

theorem Failure.outcome_failed {failure : Failure} {outcome : SampleOutcome}
    (handled : failure.outcome = some outcome) : outcome = .timeout ∨ outcome = .invalidResponse := by
  cases failure with
  | shortAscii message => cases handled; exact Or.inr rfl
  | timeout => cases handled; exact Or.inl rfl
  | other error => cases handled

theorem exchange_returns (command : OptionalCommand) :
    Run.Returns (Run.caught (ask link clock command.wire >>= fun frame =>
      lift (command.parser decimals frame))) feed
      fun feed' parsed => feed' = feed.asked link clock command.wire ∧
        match parsed with
        | .ok values => ∃ frame, (link.request command.wire feed.world).2 = .returned frame ∧
          command.parser decimals frame = .ok values
        | .error _ => ¬Answered decimals command (link.request command.wire feed.world).2 := by
  have sent : ask link clock command.wire feed =
      (feed.asked link clock command.wire, (link.request command.wire feed.world).2) := rfl
  rw [Run.Returns, Run.ends_caught, Run.ends_bind, Run.Ends, sent]
  cases (link.request command.wire feed.world).2 with
  | cancelled => rintro parsed ⟨⟩
  | raised failure =>
    rintro parsed ⟨⟩
    refine ⟨rfl, ?_⟩
    rintro ⟨frame, values, replied, _⟩
    cases replied
  | returned frame =>
    dsimp only [Ending.next_returned]
    cases parsed : command.parser decimals frame with
    | ok values =>
      rintro _ ⟨⟩
      exact ⟨rfl, frame, rfl, parsed⟩
    | error failure =>
      rintro _ ⟨⟩
      refine ⟨rfl, ?_⟩
      rintro ⟨_, values, replied, accepted⟩
      cases replied
      rw [parsed] at accepted
      cases accepted

theorem giveUp_returns (command : OptionalCommand) (outcome : SampleOutcome) :
    Run.Returns (giveUp link clock command outcome) feed fun feed' _ =>
      feed' = (feed.miss clock command outcome).recordFailure command := by
  refine Run.returns_call (Run.returns_observe ?_)
  split
  · exact fun _ _ => rfl
  · exact Run.returns_raise

theorem queryDue_returns :
    Run.Returns (queryDue link decimals clock (feed.reads.chosen (feed.now clock))) feed
      fun feed' _ => Refreshed link decimals clock feed feed' := by
  cases chosen : feed.reads.chosen (feed.now clock) with
  | none => exact Run.returns_pure (.idle chosen)
  | some command =>
    refine Run.returns_bind (exchange_returns command) ?_
    rintro _ parsed ⟨rfl, replied⟩
    cases parsed with
    | ok values =>
      obtain ⟨frame, returned, parsed⟩ := replied
      rintro done ⟨⟩
      exact .answered command frame values chosen returned parsed
    | error failure =>
      rw [handleAnswer]
      cases handled : failure.outcome with
      | none => exact Run.returns_raise
      | some outcome =>
        refine Run.returns_mono ?_ (giveUp_returns command outcome)
        rintro _ _ rfl
        exact .missed command outcome chosen (Failure.outcome_failed handled) replied

theorem refreshOne_returns :
    Run.Returns (refreshOne link decimals clock) feed fun feed' extra =>
      ∃ queried, Refreshed link decimals clock (feed.checked clock) queried ∧
        feed' = queried.settle clock ∧ extra =
          (freshValues feed'.reads, diagnostics feed'.cache feed'.reads feed'.reads.lastClock) := by
  refine Run.returns_observe (Run.returns_call (Run.returns_observe ?_))
  have query : Run.Returns (queryDue link decimals clock _) (feed.checked clock)
      fun queried _ => Refreshed link decimals clock (feed.checked clock) queried :=
    queryDue_returns
  refine Run.returns_bind query ?_
  intro queried _ refreshed
  refine Run.returns_call ?_
  rintro extra ⟨⟩
  exact ⟨queried, refreshed, rfl, rfl⟩

structure Round (link : Link ω) (decimals : Decimals) (clock : ω → ℚ) (feed feed' : Feed ω)
    (reading : Reading) : Prop where
  replied : ∃ frame values, (link.request "Q1" feed.world).2 = .returned frame ∧
    parseQ1 decimals frame = .ok values ∧
    reading.values = (values.erase "short_ascii_q1_length").update (freshValues feed'.reads)
  settled : ∃ queried, feed' = queried.settle clock ∧
    Refreshed link decimals clock ((feed.asked link clock "Q1").checked clock) queried

theorem readCycle_returns :
    Run.Returns (readCycle link decimals clock) feed (Round link decimals clock feed) := by
  have sent : ask link clock "Q1" feed =
      (feed.asked link clock "Q1", (link.request "Q1" feed.world).2) := rfl
  rw [readCycle, Run.Returns, Run.ends_bind, Run.Ends, sent]
  cases replied : (link.request "Q1" feed.world).2 with
  | cancelled => rintro reading ⟨⟩
  | raised failure => rintro reading ⟨⟩
  | returned frame =>
    dsimp only [Ending.next_returned]
    cases parsed : parseQ1 decimals frame with
    | error failure => rintro reading ⟨⟩
    | ok values =>
      change Run.Returns (refreshOne link decimals clock >>= _) _ _
      refine Run.returns_bind refreshOne_returns ?_
      rintro _ extra ⟨queried, refreshed, rfl, rfl⟩
      rintro reading ⟨⟩
      exact ⟨⟨frame, values, replied, parsed, rfl⟩, ⟨queried, rfl, refreshed⟩⟩

theorem readValues_cases (link : Link ω) (decimals : Decimals) (transport inverter : Nat)
    (nowMonotonic : Option ℚ) (runtime : Runtime ω) :
    (∃ (feed' : Feed ω) (reading : Reading),
      readValues link decimals transport inverter nowMonotonic runtime =
        (feed'.runtime, .returned reading) ∧
      Round link decimals (runtime.clock link nowMonotonic)
        (runtime.feed transport inverter (runtime.now link nowMonotonic)) feed' reading) ∨
      ∃ (feed' : Feed ω) (ending : Ending Failure Reading),
        readValues link decimals transport inverter nowMonotonic runtime =
          (feed'.drop.runtime, ending) ∧ ∀ reading, ending ≠ .returned reading := by
  have returns : Run.Returns (readCycle link decimals (runtime.clock link nowMonotonic))
      (runtime.feed transport inverter (runtime.now link nowMonotonic)) _ := readCycle_returns
  rw [Run.Returns, Run.Ends] at returns
  rw [readValues]
  dsimp only [Run.finishing]
  generalize readCycle link decimals _ _ = outcome at returns ⊢
  obtain ⟨feed', ending⟩ := outcome
  cases ending with
  | returned reading => exact Or.inl ⟨feed', reading, rfl, returns reading rfl⟩
  | raised failure => exact Or.inr ⟨feed', .raised failure, rfl, fun reading eq => (by cases eq)⟩
  | cancelled => exact Or.inr ⟨feed', .cancelled, rfl, fun reading eq => (by cases eq)⟩

inductive Event (ω : Type) where
  | read (transport inverter : Nat) (nowMonotonic : Option ℚ)
  | seed (keys : List PyObj)
  | recheck
  | forget
  | pass (world : ω)

def Event.apply (link : Link ω) (decimals : Decimals) (runtime : Runtime ω) :
    Event ω → Runtime ω
  | .read transport inverter nowMonotonic =>
    (readValues link decimals transport inverter nowMonotonic runtime).1
  | .seed keys => { runtime with cache := runtime.cache.seedUnsupportedCommands keys }
  | .recheck => { runtime with cache := runtime.cache.clearUnsupportedCommands }
  | .forget => ⟨runtime.world, Cache.empty, none, runtime.notes ++ [.dropped]⟩
  | .pass world => { runtime with world := world }

def Runtime.initial (world : ω) : Runtime ω := ⟨world, Cache.empty, none, []⟩

def Note.Keeps (transport inverter : Nat) (wire : String) : Note → Prop
  | .asked transport' inverter' wire' _ _ =>
    transport' = transport ∧ inverter' = inverter ∧ wire' ≠ wire
  | .dropped => False

def LatestQuery (notes : List Note) (transport inverter : Nat) (command : OptionalCommand)
    (answer : Ending Failure Bytes) (time : ℚ) : Prop :=
  ∃ before after, notes = before ++ .asked transport inverter command.wire answer time :: after ∧
    ∀ note ∈ after, note.Keeps transport inverter command.wire

variable {notes : List Note} {transport inverter : Nat} {command : OptionalCommand}
  {answer : Ending Failure Bytes} {time : ℚ} {note : Note}

theorem LatestQuery.snoc (latest : LatestQuery notes transport inverter command answer time)
    (keeps : note.Keeps transport inverter command.wire) :
    LatestQuery (notes ++ [note]) transport inverter command answer time := by
  obtain ⟨before, after, eq, quiet⟩ := latest
  refine ⟨before, after ++ [note], by rw [eq]; simp, fun other member => ?_⟩
  rcases List.mem_append.mp member with old | new
  · exact quiet other old
  · exact List.mem_singleton.mp new ▸ keeps

theorem latestQuery_last :
    LatestQuery (notes ++ [.asked transport inverter command.wire answer time]) transport inverter
      command answer time :=
  ⟨notes, [], rfl, List.forall_mem_nil _⟩

end ShortAscii
