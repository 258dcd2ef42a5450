import EybondLocal.Library.Execution
import EybondLocal.ShortAscii.Rounds
import Mathlib.Tactic.Linarith

/-!
Whole histories of reads, seeds, re-checks and cleared runtime states. Whatever a read returns
beside its own `Q1` reply is the last answer to its command, given to the same transport and
inverter object, with nothing dropped since and its time not up.
-/
namespace ShortAscii
open PythonObject OrderedDict Hub HookRun CommandSupport Execution

variable {ω : Type} {link : Link ω} {decimals : Decimals} {clock : ω → ℚ} {feed feed' : Feed ω}

def LatestAnswer (decimals : Decimals) (notes : List Note) (transport inverter : Nat)
    (command : OptionalCommand) (time : ℚ) (values : Values) : Prop :=
  ∃ frame, LatestQuery notes transport inverter command (.returned frame) time ∧
    command.parser decimals frame = .ok values

variable {notes : List Note} {transport inverter : Nat} {command : OptionalCommand} {time : ℚ}
  {values : Values}

theorem LatestAnswer.snoc (latest : LatestAnswer decimals notes transport inverter command time values)
    {note : Note} (keeps : note.Keeps transport inverter command.wire) :
    LatestAnswer decimals (notes ++ [note]) transport inverter command time values := by
  obtain ⟨frame, query, parsed⟩ := latest
  exact ⟨frame, query.snoc keeps, parsed⟩

theorem latestAnswer_last {frame : Bytes} (parsed : command.parser decimals frame = .ok values) :
    LatestAnswer decimals
      (notes ++ [.asked transport inverter command.wire (.returned frame) time]) transport inverter
      command time values :=
  ⟨frame, latestQuery_last, parsed⟩

structure Backed (decimals : Decimals) (notes : List Note) (transport inverter : Nat)
    (command : OptionalCommand) (sample : OptionalSample) : Prop where
  cleared : sample.sampledAt = none → sample.values = Dict.empty
  latest : ∀ time, sample.sampledAt = some time →
    LatestAnswer decimals notes transport inverter command time sample.values

variable {sample sample' : OptionalSample}

theorem backed_of_clear (none : sample.sampledAt = none) (empty : sample.values = Dict.empty) :
    Backed decimals notes transport inverter command sample where
  cleared _ := empty
  latest time found := by
    rw [none] at found
    cases found

theorem Backed.of_same (backed : Backed decimals notes transport inverter command sample)
    (sampledAt : sample'.sampledAt = sample.sampledAt) (values : sample'.values = sample.values) :
    Backed decimals notes transport inverter command sample' where
  cleared none := values.trans (backed.cleared (sampledAt ▸ none))
  latest time found := values ▸ backed.latest time (sampledAt ▸ found)

theorem Backed.snoc (backed : Backed decimals notes transport inverter command sample) {note : Note}
    (keeps : note.Keeps transport inverter command.wire) :
    Backed decimals (notes ++ [note]) transport inverter command sample where
  cleared := backed.cleared
  latest time found := (backed.latest time found).snoc keeps

theorem Backed.supported (backed : Backed decimals notes transport inverter command sample)
    (skipped : Bool) (now : ℚ) :
    Backed decimals notes transport inverter command (sample.supported skipped now) := by
  rw [OptionalSample.supported]
  split
  · exact backed_of_clear rfl rfl
  split
  · exact backed.of_same rfl rfl
  · exact backed

theorem Backed.freshened (backed : Backed decimals notes transport inverter command sample)
    (ttl now : ℚ) :
    Backed decimals notes transport inverter command (sample.freshened ttl now) := by
  rw [OptionalSample.freshened]
  split
  · split
    · exact backed
    · exact backed_of_clear rfl rfl
  · exact backed

def AllBacked (decimals : Decimals) (notes : List Note) (reads : OptionalReads) : Prop :=
  ∀ command, Backed decimals notes reads.transport reads.inverter command (reads.samples command)

theorem AllBacked.asked_q1 (backed : AllBacked decimals feed.notes feed.reads) :
    AllBacked decimals (feed.asked link clock "Q1").notes (feed.asked link clock "Q1").reads := by
  intro command
  refine (backed command).snoc ⟨rfl, rfl, ?_⟩
  cases command <;> decide

theorem AllBacked.checked (backed : AllBacked decimals feed.notes feed.reads) :
    AllBacked decimals (feed.checked clock).notes (feed.checked clock).reads :=
  fun command => (backed command).supported _ _

theorem AllBacked.setSample (backed : AllBacked decimals feed.notes feed.reads)
    (new : Backed decimals (feed.asked link clock command.wire).notes feed.reads.transport
      feed.reads.inverter command sample) :
    AllBacked decimals (feed.asked link clock command.wire).notes
      (feed.reads.setSample command sample) := by
  intro other
  by_cases same : other = command
  · subst same
    rwa [OptionalReads.setSample_self]
  · rw [OptionalReads.setSample_of_ne _ _ same]
    refine (backed other).snoc ⟨rfl, rfl, ?_⟩
    cases command <;> cases other <;> first | decide | exact absurd rfl same

theorem AllBacked.refreshed (backed : AllBacked decimals feed.notes feed.reads)
    (refreshed : Refreshed link decimals clock feed feed') :
    AllBacked decimals feed'.notes feed'.reads := by
  cases refreshed with
  | idle => exact backed
  | answered command frame values _ replied parsed =>
    refine backed.setSample ⟨fun none => (by cases none), ?_⟩
    rintro time ⟨⟩
    rw [Feed.asked, ask, replied]
    exact latestAnswer_last parsed
  | missed command outcome => exact backed.setSample (backed_of_clear rfl rfl)

theorem AllBacked.settle (backed : AllBacked decimals feed.notes feed.reads) :
    AllBacked decimals (feed.settle clock).notes (feed.settle clock).reads :=
  fun command => (backed command).freshened _ _

theorem allBacked_drop (feed : Feed ω) : AllBacked decimals feed.drop.notes feed.drop.reads :=
  fun _ => backed_of_clear rfl rfl

def RuntimeBacked (decimals : Decimals) (runtime : Runtime ω) : Prop :=
  ∀ reads, runtime.reads = some reads → AllBacked decimals runtime.notes reads

theorem RuntimeBacked.allBacked {runtime : Runtime ω} (backed : RuntimeBacked decimals runtime)
    (transport inverter : Nat) (now : ℚ) :
    AllBacked decimals runtime.notes (optionalReadsFor runtime.reads transport inverter now) := by
  rcases optionalReadsFor_cases runtime.reads transport inverter now with new | ⟨reads, held, _, _, _, same⟩
  · rw [new]
    exact fun _ => backed_of_clear rfl rfl
  · rw [same]
    exact backed reads held

theorem OptionalSample.fresh_of_freshened {ttl now : ℚ}
    (held : (sample.freshened ttl now).sampledAt = some time) : 0 ≤ now - time ∧ now - time < ttl := by
  rw [OptionalSample.freshened] at held
  split at held
  · rename_i sampledAt found
    split at held
    · rename_i fresh
      rw [found, Option.some.injEq] at held
      exact held ▸ fresh
    · cases held
  · rename_i found
    rw [found] at held
    cases held

theorem get?_freshValues {reads : OptionalReads} {key : String} {v : Value}
    (found : (freshValues reads).get? key = some v) :
    ∃ command, (reads.samples command).values.get? key = some v := by
  simp only [freshValues, optionalCommands, List.foldl_cons, List.foldl_nil, Dict.get?_update,
    Dict.get?_empty, Option.or_none] at found
  cases last : (reads.samples .f).values.get? key with
  | some w =>
    rw [last] at found
    exact ⟨.f, last.trans found⟩
  | none =>
    rw [last] at found
    exact ⟨.rb, found⟩

def FreshOptional (decimals : Decimals) (notes : List Note) (transport inverter : Nat) (now : ℚ)
    (key : String) (v : Value) : Prop :=
  ∃ command time values, LatestAnswer decimals notes transport inverter command time values ∧
    values.get? key = some v ∧ 0 ≤ now - time ∧ now - time < command.ttl

theorem AllBacked.fresh (backed : AllBacked decimals feed.notes feed.reads)
    {key : String} {v : Value}
    (found : (freshValues (feed.settle clock).reads).get? key = some v) :
    FreshOptional decimals feed.notes feed.reads.transport feed.reads.inverter (feed.now clock)
      key v := by
  obtain ⟨command, entry⟩ := get?_freshValues found
  have settled : Backed decimals feed.notes feed.reads.transport feed.reads.inverter command
    ((feed.settle clock).reads.samples command) := backed.settle command
  cases sampled : ((feed.settle clock).reads.samples command).sampledAt with
  | none =>
    rw [settled.cleared sampled] at entry
    cases entry
  | some time =>
    obtain ⟨after, before⟩ := OptionalSample.fresh_of_freshened sampled
    exact ⟨command, time, _, settled.latest time sampled, entry, after, before⟩

inductive Asks (transport inverter : Nat) (frame : Bytes) (before after : List Note) : Prop
  | mandatory (time : ℚ)
      (notes : after = before ++ [.asked transport inverter "Q1" (.returned frame) time])
  | optional (time later : ℚ) (command : OptionalCommand) (answer : Ending Failure Bytes)
      (notes : after = before ++ [.asked transport inverter "Q1" (.returned frame) time,
        .asked transport inverter command.wire answer later])

/-- A finished read asks `Q1` and at most one optional command, and every value it returns was
    parsed from its own `Q1` reply or is fresh. -/
def ReadsFresh (link : Link ω) (decimals : Decimals) (runtime : Runtime ω) : Event ω → Prop
  | .read transport inverter now => ∀ runtime' reading,
      readValues link decimals transport inverter now runtime = (runtime', .returned reading) →
      ∃ frame values reads, Asks transport inverter frame runtime.notes runtime'.notes ∧
        parseQ1 decimals frame = .ok values ∧ runtime'.reads = some reads ∧
        ∀ key v, reading.values.get? key = some v →
          (values.erase "short_ascii_q1_length").get? key = some v ∨
            FreshOptional decimals runtime'.notes transport inverter reads.lastClock key v
  | _ => True

theorem Refreshed.asks {frame : Bytes} {before : List Note}
    (refreshed : Refreshed link decimals clock feed feed')
    (notes : feed.notes = before ++
      [.asked feed.reads.transport feed.reads.inverter "Q1" (.returned frame) time]) :
    Asks feed.reads.transport feed.reads.inverter frame before feed'.notes := by
  have queried : ∀ command : OptionalCommand,
      feed'.notes = (feed.asked link clock command.wire).notes →
      Asks feed.reads.transport feed.reads.inverter frame before feed'.notes := by
    intro command same
    refine .optional time (clock (link.request command.wire feed.world).1) command
      (link.request command.wire feed.world).2 (same.trans ?_)
    change feed.notes ++ [_] = _
    rw [notes, List.append_assoc]
    rfl
  cases refreshed with
  | idle => exact .mandatory time notes
  | answered command => exact queried command rfl
  | missed command => exact queried command rfl

theorem AllBacked.round {reading : Reading} (backed : AllBacked decimals feed.notes feed.reads)
    (round : Round link decimals clock feed feed' reading) :
    AllBacked decimals feed'.notes feed'.reads ∧ ∃ frame values,
      Asks feed.reads.transport feed.reads.inverter frame feed.notes feed'.notes ∧
        parseQ1 decimals frame = .ok values ∧ ∀ key v, reading.values.get? key = some v →
          (values.erase "short_ascii_q1_length").get? key = some v ∨
            FreshOptional decimals feed'.notes feed.reads.transport feed.reads.inverter
              feed'.reads.lastClock key v := by
  obtain ⟨frame, values, replied, parsed, returned⟩ := round.replied
  obtain ⟨queried, rfl, refreshed⟩ := round.settled
  have sent : ((feed.asked link clock "Q1").checked clock).notes = feed.notes ++
      [.asked feed.reads.transport feed.reads.inverter "Q1" (.returned frame)
        (clock (link.request "Q1" feed.world).1)] := by
    rw [← replied]
    rfl
  obtain ⟨transport_eq, inverter_eq⟩ := refreshed.binding
  have after : AllBacked decimals queried.notes queried.reads :=
    (AllBacked.checked (AllBacked.asked_q1 backed)).refreshed refreshed
  refine ⟨after.settle, frame, values, refreshed.asks sent, parsed, fun key v entry => ?_⟩
  rw [returned, Dict.get?_update] at entry
  cases extra : (freshValues (queried.settle clock).reads).get? key with
  | none =>
    rw [extra] at entry
    exact Or.inl entry
  | some w =>
    rw [extra] at entry
    cases entry
    have fresh := after.fresh extra
    rw [transport_eq, inverter_eq] at fresh
    exact Or.inr fresh

theorem RuntimeBacked.apply {runtime : Runtime ω} (backed : RuntimeBacked decimals runtime)
    (event : Event ω) : RuntimeBacked decimals (event.apply link decimals runtime) := by
  cases event with
  | read transport inverter now =>
    rw [Event.apply]
    rcases readValues_cases link decimals transport inverter now runtime with
      ⟨feed', reading, eq, round⟩ | ⟨feed', ending, eq, _⟩
    · rw [eq]
      rintro reads ⟨⟩
      exact ((backed.allBacked transport inverter _).round round).1
    · rw [eq]
      rintro reads ⟨⟩
      exact allBacked_drop feed'
  | seed keys => exact backed
  | recheck => exact backed
  | forget => exact fun reads held => (by cases held)
  | pass world => exact backed

theorem RuntimeBacked.readsFresh {runtime : Runtime ω} (backed : RuntimeBacked decimals runtime)
    (event : Event ω) : ReadsFresh link decimals runtime event := by
  cases event with
  | read transport inverter now =>
    intro runtime' reading returned
    rcases readValues_cases link decimals transport inverter now runtime with
      ⟨feed', reading', eq, round⟩ | ⟨feed', ending, eq, stopped⟩
    · obtain ⟨rfl, rfl⟩ : runtime' = feed'.runtime ∧ reading = reading' := by
        rw [eq] at returned
        cases returned
        exact ⟨rfl, rfl⟩
      obtain ⟨_, frame, values, asks, parsed, sources⟩ :=
        AllBacked.round (backed.allBacked transport inverter _) round
      rw [runtime.feed_transport] at asks sources
      rw [runtime.feed_inverter] at asks sources
      exact ⟨frame, values, feed'.reads, asks, parsed, rfl, sources⟩
    · rw [eq] at returned
      cases returned
      exact absurd rfl (stopped reading)
  | _ => trivial

theorem history_reads_fresh (link : Link ω) (decimals : Decimals) (world : ω)
    (history : List (Event ω)) :
    EveryStep (Event.apply link decimals) (ReadsFresh link decimals) (Runtime.initial world)
      history :=
  have initial : RuntimeBacked decimals (Runtime.initial world) := fun _ held => by cases held
  everyStep_of_invariant (fun _ event backed _ => backed.apply event)
    (fun _ event backed _ => backed.readsFresh event) initial (everyStep_true _ _)

end ShortAscii
