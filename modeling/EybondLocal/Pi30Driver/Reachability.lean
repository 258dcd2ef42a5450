import EybondLocal.Pi30Driver.PollCycle

/-!
Which commands one poll sends, for every device and every state of the negative cache: a prefix
of the fixed order with the unsupported ones left out, cut short only by an unanswered `QET` or
`QT`. That is the set the full-cycle estimate expects.
-/
namespace Pi30Driver
open StripText PythonObject OrderedDict Hub HookRun CommandSupport

variable {ω α : Type}

theorem Cycle.bind_assoc {β γ : Type} (m : Cycle ω α) (f : α → Cycle ω β) (g : β → Cycle ω γ) :
    m >>= f >>= g = m >>= fun value => f value >>= g := by
  funext poll
  simp only [Run.bind_apply]
  cases (m poll).2 <;> rfl

namespace Poll

/-- The commands with a recorded timing; the request a cancellation came into has none. -/
def attempted (poll : Poll ω) : List String :=
  (poll.timings.filter (·.outcome ≠ .skipped)).map Timing.cacheKey

def Failed (poll : Poll ω) (key : String) : Prop :=
  ∃ timing ∈ poll.timings, timing.cacheKey = key ∧ timing.outcome ≠ .ok ∧
    timing.outcome ≠ .skipped

end Poll

theorem commandOutcome_failed (message : String) :
    commandOutcome message ≠ .ok ∧ commandOutcome message ≠ .skipped := by
  have either : commandOutcome message = .timeout ∨ commandOutcome message = .error :=
    ite_eq_or_eq _ _ _
  rcases either with timeout | error
  · rw [timeout]
    exact ⟨Outcome.noConfusion, Outcome.noConfusion⟩
  · rw [error]
    exact ⟨Outcome.noConfusion, Outcome.noConfusion⟩

inductive Attempted (key : String) (parse : String → Except Failure α) (poll poll' : Poll ω) :
    Ending Failure (Except String α) → Prop
  | answered (value : α) (payload wire : String) (ms : Int) (parsed : parse payload = .ok value)
      (cache : poll'.cache = poll.cache.recordCommandSuccess key)
      (timings : poll'.timings = poll.timings ++ [⟨key, wire, ms, .ok⟩]) :
      Attempted key parse poll poll' (.returned (.ok value))
  | refused (message wire : String) (ms : Int) (cache : poll'.cache = poll.cache)
      (timings : poll'.timings = poll.timings ++ [⟨key, wire, ms, commandOutcome message⟩]) :
      Attempted key parse poll poll' (.returned (.error message))
  | raised (failure : Failure) (cache : poll'.cache = poll.cache)
      (timings : poll'.timings = poll.timings) : Attempted key parse poll poll' (.raised failure)
  | cancelled (cache : poll'.cache = poll.cache) (timings : poll'.timings = poll.timings) :
      Attempted key parse poll poll' .cancelled

theorem attempt_attempted (session : Session ω) (key wire : String)
    (parse : String → Except Failure α) (poll : Poll ω) :
    Attempted key parse poll (attempt session key wire parse poll).1
      (attempt session key wire parse poll).2 := by
  change Run.Ends (attempt session key wire parse) poll fun poll' e =>
    Attempted key parse poll poll' e
  rw [attempt, Run.ends_bind, Run.ends_caught, Run.ends_bind]
  cases asked : session.request wire poll.world with
  | mk world answer =>
    have at_ask : ask session wire poll = ({ poll with world := world }, answer) := by
      rw [ask, asked]
    rw [Run.Ends, at_ask]
    cases answer with
    | raised failure =>
      cases failure with
      | pi30 message => exact .refused message wire _ rfl rfl
      | other error => exact .raised _ rfl rfl
    | cancelled => exact .cancelled rfl rfl
    | returned payload =>
      cases parsed : parse payload with
      | ok value =>
        rw [Ending.next_returned, parsed]
        exact .answered value payload wire _ parsed rfl rfl
      | error failure =>
        rw [Ending.next_returned, parsed]
        cases failure with
        | pi30 message => exact .refused message wire _ rfl rfl
        | other error => exact .raised _ rfl rfl

theorem ok_ne_skipped : Outcome.ok ≠ Outcome.skipped := by decide

theorem raised_ne_returned (failure : Failure) (value : α) :
    (.raised failure : Ending Failure α) ≠ .returned value := by
  intro eq
  cases eq

theorem cancelled_ne_returned (value : α) : (.cancelled : Ending Failure α) ≠ .returned value := by
  intro eq
  cases eq

inductive Handled (key : String) (parse : String → Except Failure α) (poll poll' : Poll ω) :
    Ending Failure (Option α) → Prop
  | skipped (known : poll.cache.commandSkippedAsUnsupported key = true)
      (cache : poll'.cache = poll.cache) (attempted : poll'.attempted = poll.attempted)
      (timings : poll.timings <+: poll'.timings) : Handled key parse poll poll' (.returned none)
  | answered (value : α) (payload : String)
      (known : poll.cache.commandSkippedAsUnsupported key = false)
      (parsed : parse payload = .ok value)
      (cache : poll'.cache = poll.cache.recordCommandSuccess key)
      (attempted : poll'.attempted = poll.attempted ++ [key])
      (timings : poll.timings <+: poll'.timings) :
      Handled key parse poll poll' (.returned (some value))
  | failed (known : poll.cache.commandSkippedAsUnsupported key = false)
      (cache : poll'.cache = poll.cache.recordCommandFailure key)
      (attempted : poll'.attempted = poll.attempted ++ [key])
      (timings : poll.timings <+: poll'.timings) (failure : poll'.Failed key) :
      Handled key parse poll poll' (.returned none)
  | stopped (ending : Ending Failure (Option α)) (stops : ∀ value, ending ≠ .returned value)
      (cache : poll'.cache = poll.cache) (attempted : poll'.attempted = poll.attempted) :
      Handled key parse poll poll' ending

theorem Poll.attempted_of_timings {poll poll' : Poll ω} {timing : Timing}
    (timings : poll'.timings = poll.timings ++ [timing]) (sent : timing.outcome ≠ .skipped) :
    poll'.attempted = poll.attempted ++ [timing.cacheKey] := by
  rw [Poll.attempted, timings, List.filter_append, List.map_append]
  simp [sent, Poll.attempted]

theorem Poll.attempted_of_skip {poll poll' : Poll ω} {timing : Timing}
    (timings : poll'.timings = poll.timings ++ [timing]) (skipped : timing.outcome = .skipped) :
    poll'.attempted = poll.attempted := by
  rw [Poll.attempted, timings, List.filter_append, List.map_append]
  simp [skipped, Poll.attempted]

theorem atomic_handled (session : Session ω) (wire key : String)
    (parse : String → Except Failure α) (poll : Poll ω) :
    Run.Ends (atomic session wire key parse) poll fun poll' e => Handled key parse poll poll' e := by
  rw [atomic, Run.ends_bind, Run.ends_observe, Ending.next_returned]
  cases known : poll.cache.commandSkippedAsUnsupported key with
  | true =>
    rw [if_pos rfl]
    refine .skipped known rfl (Poll.attempted_of_skip rfl rfl) ?_
    exact List.prefix_append _ _
  | false =>
    rw [if_neg Bool.false_ne_true, Run.ends_bind]
    have sent := attempt_attempted session key wire parse poll
    rw [Run.Ends]
    generalize attempt session key wire parse poll = outcome at sent ⊢
    obtain ⟨poll', ending⟩ := outcome
    cases sent with
    | answered value payload wire ms parsed cache timings =>
      exact .answered value payload known parsed cache
        (Poll.attempted_of_timings timings ok_ne_skipped) (timings ▸ List.prefix_append _ _)
    | refused message wire ms cache timings =>
      have failed := commandOutcome_failed message
      generalize commandOutcome message = outcome at failed timings
      have noted : (poll'.recordCommandFailure key).cache = poll.cache.recordCommandFailure key :=
        congrArg (Cache.recordCommandFailure · key) cache
      have same : (poll'.recordCommandFailure key).timings =
          poll.timings ++ [⟨key, wire, ms, outcome⟩] := timings
      refine .failed known noted (Poll.attempted_of_timings same failed.2) ?_ ?_
      · exact same ▸ List.prefix_append _ _
      · refine ⟨⟨key, wire, ms, outcome⟩, ?_, rfl, failed.1, failed.2⟩
        exact same ▸ List.mem_append_right _ (List.mem_singleton_self _)
    | raised failure cache timings =>
      exact .stopped _ (raised_ne_returned failure) cache (by rw [Poll.attempted, Poll.attempted, timings])
    | cancelled cache timings =>
      exact .stopped _ cancelled_ne_returned cache (by rw [Poll.attempted, Poll.attempted, timings])

structure Progress (start : Cache) (done : List String) (poll : Poll ω) : Prop where
  attempted : poll.attempted = done.filter fun key => !start.commandSkippedAsUnsupported key
  untouched : ∀ key, key ∉ done → poll.cache.strikes key = start.strikes key

namespace Progress
variable {start : Cache} {done : List String} {poll poll' : Poll ω} {key : String}
  {parse : String → Except Failure α}

theorem skips (progress : Progress start done poll) (fresh : key ∉ done) :
    poll.cache.commandSkippedAsUnsupported key = start.commandSkippedAsUnsupported key := by
  rw [Cache.commandSkippedAsUnsupported, Cache.commandSkippedAsUnsupported,
    progress.untouched key fresh]

theorem sent (progress : Progress start done poll)
    (known : start.commandSkippedAsUnsupported key = false)
    (strikes : ∀ other, other ≠ key → poll'.cache.strikes other = poll.cache.strikes other)
    (attempted : poll'.attempted = poll.attempted ++ [key]) :
    Progress start (done ++ [key]) poll' where
  attempted := by simp [attempted, progress.attempted, known]
  untouched other outside := by
    rw [List.mem_append, List.mem_singleton, not_or] at outside
    rw [strikes other outside.2, progress.untouched other outside.1]

theorem leftOut (progress : Progress start done poll)
    (known : start.commandSkippedAsUnsupported key = true) (cache : poll'.cache = poll.cache)
    (attempted : poll'.attempted = poll.attempted) : Progress start (done ++ [key]) poll' where
  attempted := by simp [attempted, progress.attempted, known]
  untouched other outside := by
    rw [List.mem_append, not_or] at outside
    rw [cache, progress.untouched other outside.1]

theorem handled (progress : Progress start done poll) (fresh : key ∉ done) {value : Option α}
    (turn : Handled key parse poll poll' (.returned value)) :
    Progress start (done ++ [key]) poll' := by
  cases turn with
  | skipped known cache attempted =>
    exact progress.leftOut (progress.skips fresh ▸ known) cache attempted
  | answered value payload known parsed cache attempted =>
    refine progress.sent (progress.skips fresh ▸ known) ?_ attempted
    intro other differs
    rw [cache, Cache.strikes_recordCommandSuccess, if_neg differs]
  | failed known cache attempted =>
    refine progress.sent (progress.skips fresh ▸ known) ?_ attempted
    intro other _
    rw [cache, Cache.strikes_recordCommandFailure]
  | stopped _ stops => exact absurd rfl (stops value)

theorem none_handled (progress : Progress start done poll) (fresh : key ∉ done)
    (turn : Handled key parse poll poll' (.returned none)) :
    start.commandSkippedAsUnsupported key = true ∨ poll'.Failed key := by
  cases turn with
  | skipped known => exact Or.inl (progress.skips fresh ▸ known)
  | failed _ _ _ _ failure => exact Or.inr failure
  | stopped _ stops => exact absurd rfl (stops none)

end Progress

def gates : String → List String
  | "QLT" => ["QET", "QLT"]
  | "QT" => ["QET", "QT"]
  | "QEY" => ["QET", "QT", "QEY"]
  | "QEM" => ["QET", "QT", "QEM"]
  | "QED" => ["QET", "QT", "QED"]
  | "QLY" => ["QET", "QT", "QLY"]
  | "QLM" => ["QET", "QT", "QLM"]
  | "QLD" => ["QET", "QT", "QLD"]
  | command => [command]

/-- Every value a command owns was read from it in this cycle: it and what gates it answered. -/
def Backed (cache : Cache) (values : Values) : Prop :=
  ∀ command ∈ fullCycleCommandKeys, ∀ key ∈ commandOutputKeys command,
    ∀ v, values.get? key = some v → ∀ gate ∈ gates command, cache.strikes gate = 0

namespace Backed
variable {cache cache' : Cache} {values : Values}

theorem start (cache : Cache) : Backed cache Dict.empty := by
  intro command _ key _ v found
  cases found

theorem mono (backed : Backed cache values)
    (lower : ∀ key, cache.strikes key = 0 → cache'.strikes key = 0) : Backed cache' values :=
  fun command member key owned v found gate gated =>
    lower gate (backed command member key owned v found gate gated)

theorem update (backed : Backed cache values) {parsed : Values} {keys : List String}
    (within : Within keys parsed)
    (answered : ∀ command ∈ fullCycleCommandKeys, ∀ key ∈ commandOutputKeys command, key ∈ keys →
      ∀ gate ∈ gates command, cache.strikes gate = 0) : Backed cache (values.update parsed) := by
  intro command member key owned v found gate gated
  rw [Dict.get?_update] at found
  cases reported : parsed.get? key with
  | none =>
    rw [reported] at found
    exact backed command member key owned v (by simpa using found) gate gated
  | some w => exact answered command member key owned (within key w reported) gate gated

end Backed

/-- The keys of `keys` that commands own are owned by this one, and only it gates them. -/
def OwnedBy (command : String) (keys : List String) : Prop :=
  ∀ other ∈ fullCycleCommandKeys, ∀ key ∈ commandOutputKeys other, key ∈ keys → gates other = [command]

instance (command : String) (keys : List String) : Decidable (OwnedBy command keys) :=
  inferInstanceAs (Decidable (∀ other ∈ fullCycleCommandKeys, _))

def runtimeValueKeys : List String :=
  qpigsOutputKeys ++ ["operating_mode_code"] ++ qpiwsOutputKeys ++ q1OutputKeys ++
    energyAllCommands.flatMap commandOutputKeys

def CommandSpec.Tidy (spec : CommandSpec) : Prop :=
  ∃ keys, (∀ key ∈ keys, key ∈ runtimeValueKeys) ∧ OwnedBy spec.command keys ∧
    ∀ payload values, spec.parser payload = .ok values → Within keys values

theorem qpigs_owned : OwnedBy "QPIGS" qpigsOutputKeys := by decide

theorem qmod_owned : OwnedBy "QMOD" ["operating_mode_code"] := by decide

theorem qpiws_owned : OwnedBy "QPIWS" qpiwsOutputKeys := by decide

theorem q1_owned : OwnedBy "Q1" q1OutputKeys := by decide

theorem runtimeCommandSpecs_tidy (floats : Floats) :
    ∀ spec ∈ runtimeCommandSpecs floats, spec.Tidy := by
  intro spec member
  rw [runtimeCommandSpecs] at member
  simp only [List.mem_cons, List.not_mem_nil, or_false] at member
  rcases member with rfl | rfl | rfl | rfl
  · refine ⟨qpigsOutputKeys, by decide, qpigs_owned, ?_⟩
    intro payload values parsed
    dsimp only at parsed
    exact parseQpigs_within parsed
  · refine ⟨["operating_mode_code"], by decide, qmod_owned, ?_⟩
    intro payload values parsed
    dsimp only at parsed
    exact parseQmod_within parsed
  · refine ⟨qpiwsOutputKeys, by decide, qpiws_owned, ?_⟩
    intro payload values parsed
    dsimp only at parsed
    exact parseQpiws_within parsed
  · refine ⟨q1OutputKeys, by decide, q1_owned, ?_⟩
    intro payload values parsed
    dsimp only at parsed
    exact parseQ1_within parsed

theorem collectValues_optional (session : Session ω) (spec : CommandSpec) (rest : List CommandSpec)
    (values : Values) (optional : spec.optional = true) :
    collectValues session (spec :: rest) values =
      atomic session spec.command spec.command spec.parser >>= fun parsed =>
        collectValues session rest (merged values parsed) := by
  rw [collectValues, atomic, Cycle.bind_assoc]
  congr 1
  funext skipped
  rw [optional, Bool.true_and]
  cases skipped with
  | true => rfl
  | false =>
    rw [if_neg Bool.false_ne_true, if_neg Bool.false_ne_true, Cycle.bind_assoc]
    congr 1
    funext reply
    cases reply <;> rfl

theorem collectValues_required (session : Session ω) (spec : CommandSpec) (rest : List CommandSpec)
    (values : Values) (required : spec.optional = false) :
    collectValues session (spec :: rest) values =
      attempt session spec.command spec.command spec.parser >>= fun reply =>
        match reply with
        | .ok parsed => collectValues session rest (values.update parsed)
        | .error message => Run.raise (.pi30 message) := by
  rw [collectValues]
  funext poll
  simp only [required, Bool.false_and, Bool.false_eq_true, if_false]
  rfl

section
variable {start : Cache} {done : List String} {poll poll' : Poll ω} {values parsed : Values}
  {key : String} {spec : CommandSpec}

theorem Backed.success (backed : Backed poll.cache values)
    (cache : poll'.cache = poll.cache.recordCommandSuccess key) : Backed poll'.cache values := by
  refine backed.mono ?_
  intro other zero
  rw [cache, Cache.strikes_recordCommandSuccess]
  split
  · rfl
  · exact zero

theorem Backed.join (backed : Backed poll.cache values) {keys : List String}
    (cache : poll'.cache = poll.cache.recordCommandSuccess key) (owned : OwnedBy key keys)
    (within : Within keys parsed) : Backed poll'.cache (values.update parsed) := by
  refine (backed.success cache).update within ?_
  intro other member owned_key owns inside gate gated
  rw [owned other member owned_key owns inside, List.mem_singleton] at gated
  rw [gated, cache, Cache.strikes_recordCommandSuccess, if_pos rfl]

theorem Within.update {keys : List String} (within : Within keys values)
    (more : Within keys parsed) : Within keys (values.update parsed) := by
  intro key v found
  rw [Dict.get?_update] at found
  cases reported : parsed.get? key with
  | none =>
    rw [reported, Option.none_or] at found
    exact within key v found
  | some w => exact more key w reported

structure Read (start : Cache) (done : List String) (poll : Poll ω) (values : Values) : Prop where
  progress : Progress start done poll
  backed : Backed poll.cache values
  within : Within runtimeValueKeys values

theorem Read.handled (read : Read start done poll values) (fresh : spec.command ∉ done)
    (tidy : spec.Tidy) {value : Option Values}
    (turn : Handled spec.command spec.parser poll poll' (.returned value)) :
    Read start (done ++ [spec.command]) poll' (merged values value) := by
  have progress := read.progress.handled fresh turn
  obtain ⟨keys, inside, owned, parses⟩ := tidy
  cases turn with
  | skipped known cache => exact ⟨progress, cache ▸ read.backed, read.within⟩
  | failed known cache =>
    refine ⟨progress, read.backed.mono ?_, read.within⟩
    intro key zero
    rw [cache, Cache.strikes_recordCommandFailure, zero]
  | stopped _ stops => exact absurd rfl (stops value)
  | answered value payload known parsed cache =>
    have within := parses payload value parsed
    exact ⟨progress, read.backed.join cache owned within, read.within.update (within.mono inside)⟩

def SentPrefix (start : Cache) (done turns : List String) (poll : Poll ω) : Prop :=
  ∃ part, part <+: turns ∧
    poll.attempted = (done ++ part).filter fun key => !start.commandSkippedAsUnsupported key

theorem SentPrefix.cons {first : String} {turns : List String}
    (sent : SentPrefix start (done ++ [first]) turns poll) :
    SentPrefix start done (first :: turns) poll := by
  obtain ⟨part, before, attempted⟩ := sent
  exact ⟨first :: part, List.cons_prefix_cons.mpr ⟨rfl, before⟩, by simpa using attempted⟩

theorem SentPrefix.stay {turns : List String}
    (attempted : poll.attempted = done.filter fun key => !start.commandSkippedAsUnsupported key) :
    SentPrefix start done turns poll :=
  ⟨[], List.nil_prefix, by simpa using attempted⟩

theorem collectValues_ends (session : Session ω) {specs : List CommandSpec}
    (tidy : ∀ spec ∈ specs, spec.Tidy) (nodup : (specs.map CommandSpec.command).Nodup)
    (fresh : ∀ spec ∈ specs, spec.command ∉ done)
    (required : ∀ spec ∈ specs, spec.optional = false →
      start.commandSkippedAsUnsupported spec.command = false)
    (read : Read start done poll values) :
    Run.Ends (collectValues session specs values) poll fun poll' e =>
      (∀ values', e = .returned values' →
        Read start (done ++ specs.map CommandSpec.command) poll' values') ∧
      SentPrefix start done (specs.map CommandSpec.command) poll' := by
  induction specs generalizing done poll values with
  | nil =>
    rw [collectValues, Run.ends_pure]
    refine ⟨?_, .stay read.progress.attempted⟩
    intro values' eq
    cases eq
    simpa using read
  | cons spec rest ih =>
    obtain ⟨tidyHere, tidyLater⟩ := List.forall_mem_cons.mp tidy
    obtain ⟨freshHere, freshLater⟩ := List.forall_mem_cons.mp fresh
    obtain ⟨requiredHere, requiredLater⟩ := List.forall_mem_cons.mp required
    rw [List.map_cons, List.nodup_cons] at nodup
    have freshNext : ∀ other ∈ rest, other.command ∉ done ++ [spec.command] := by
      intro other member outside
      rw [List.mem_append, List.mem_singleton] at outside
      rcases outside with old | same
      · exact freshLater other member old
      · exact nodup.1 (same ▸ List.mem_map_of_mem member)
    have later : ∀ {poll' : Poll ω} {values' : Values},
        Read start (done ++ [spec.command]) poll' values' →
        Run.Ends (collectValues session rest values') poll' fun poll'' e =>
          (∀ final, e = .returned final →
            Read start (done ++ (spec :: rest).map CommandSpec.command) poll'' final) ∧
          SentPrefix start done ((spec :: rest).map CommandSpec.command) poll'' := by
      intro poll' values' next
      refine Run.ends_mono ?_ (ih tidyLater nodup.2 freshNext requiredLater next)
      rintro poll'' e ⟨final, sent⟩
      refine ⟨fun values'' eq => ?_, sent.cons⟩
      simpa using final values'' eq
    cases optional : spec.optional with
    | true =>
      rw [collectValues_optional session spec rest values optional]
      refine Run.ends_bind_of (atomic_handled session spec.command spec.command spec.parser poll)
        ?_ ?_ ?_
      · intro poll' value turn
        exact later (read.handled freshHere tidyHere turn)
      · intro poll' failure turn
        cases turn with
        | stopped _ _ cache attempted =>
          exact ⟨nofun, .stay (attempted.trans read.progress.attempted)⟩
      · intro poll' turn
        cases turn with
        | stopped _ _ cache attempted =>
          exact ⟨nofun, .stay (attempted.trans read.progress.attempted)⟩
    | false =>
      have known := requiredHere optional
      rw [collectValues_required session spec rest values optional]
      refine Run.ends_bind_of
        (attempt_attempted session spec.command spec.command spec.parser poll) ?_ ?_ ?_
      · intro poll' reply turn
        cases turn with
        | answered value payload wire ms parsed cache timings =>
          exact later (read.handled freshHere tidyHere (.answered value payload
            (read.progress.skips freshHere ▸ known) parsed cache
            (Poll.attempted_of_timings timings nofun) (timings ▸ List.prefix_append _ _)))
        | refused message wire ms cache timings =>
          have failed := (commandOutcome_failed message).2
          generalize commandOutcome message = outcome at failed timings
          have sent := Poll.attempted_of_timings timings failed
          dsimp only
          rw [Run.ends_raise]
          refine ⟨nofun, SentPrefix.cons (SentPrefix.stay ?_)⟩
          rw [sent, read.progress.attempted]
          simp [known]
      · intro poll' failure turn
        cases turn with
        | raised _ cache timings =>
          refine ⟨nofun, .stay ?_⟩
          rw [Poll.attempted, timings]
          exact read.progress.attempted
      · intro poll' turn
        cases turn with
        | cancelled cache timings =>
          refine ⟨nofun, .stay ?_⟩
          rw [Poll.attempted, timings]
          exact read.progress.attempted

theorem Handled.keepsZero {parse : String → Except Failure α} {ending : Ending Failure (Option α)}
    (turn : Handled key parse poll poll' ending) {gate : String} (zero : poll.cache.strikes gate = 0) :
    poll'.cache.strikes gate = 0 := by
  cases turn with
  | skipped _ cache => rw [cache, zero]
  | failed _ cache => rw [cache, Cache.strikes_recordCommandFailure, zero]
  | stopped _ _ cache => rw [cache, zero]
  | answered _ _ _ _ cache =>
    rw [cache, Cache.strikes_recordCommandSuccess, zero]
    exact ite_self 0

theorem Read.congr {values' : Values} (read : Read start done poll values)
    (same : ∀ key, values'.get? key = values.get? key) : Read start done poll values' where
  progress := read.progress
  backed command member key owned v found :=
    read.backed command member key owned v (same key ▸ found)
  within key v found := read.within key v (same key ▸ found)

theorem Read.silent (read : Read start done poll values) (fresh : key ∉ done)
    {parse : String → Except Failure α} {value : Option α}
    (turn : Handled key parse poll poll' (.returned value)) :
    Read start (done ++ [key]) poll' values :=
  ⟨read.progress.handled fresh turn, read.backed.mono fun _ => turn.keepsZero, read.within⟩

theorem Read.counter (read : Read start done poll values) (fresh : key ∉ done) {valueKey : String}
    {earlier : List String} (known : valueKey ∈ runtimeValueKeys)
    (gated : ∀ other ∈ fullCycleCommandKeys, valueKey ∈ commandOutputKeys other →
      gates other = earlier ++ [key])
    (opened : ∀ gate ∈ earlier, poll.cache.strikes gate = 0) {value : Option Values}
    (turn : Handled key (parseEnergyCounter valueKey) poll poll' (.returned value)) :
    Read start (done ++ [key]) poll' (merged values value) := by
  have silent := read.silent fresh turn
  have zero : ∀ gate, poll.cache.strikes gate = 0 → poll'.cache.strikes gate = 0 :=
    fun _ => turn.keepsZero
  cases turn with
  | skipped => exact silent
  | failed => exact silent
  | stopped _ stops => exact absurd rfl (stops value)
  | answered value payload _ parsed cache =>
    have within := parseEnergyCounter_within parsed
    refine ⟨silent.progress, silent.backed.update within ?_, silent.within.update (within.mono ?_)⟩
    · intro other member owned owns inside gate among
      rw [List.mem_singleton.mp inside] at owns
      rw [gated other member owns, List.mem_append, List.mem_singleton] at among
      rcases among with before | rfl
      · exact zero gate (opened gate before)
      · rw [cache, Cache.strikes_recordCommandSuccess, if_pos rfl]
    · intro other inside
      rw [List.mem_singleton.mp inside]
      exact known

theorem get?_merged (values : Values) (parsed : Option Values) (key : String) :
    (merged values parsed).get? key = (parsed.bind (Dict.get? · key)).or (values.get? key) := by
  cases parsed with
  | none => rfl
  | some parsed => exact Dict.get?_update values parsed key

theorem get?_update_merged (base values : Values) (parsed : Option Values) (key : String) :
    (base.update (merged values parsed)).get? key =
      (merged (base.update values) parsed).get? key := by
  rw [Dict.get?_update, get?_merged, get?_merged, Dict.get?_update, Option.or_assoc]

theorem Handled.stopped_attempted {parse : String → Except Failure α}
    {ending : Ending Failure (Option α)} (turn : Handled key parse poll poll' ending)
    (stops : ∀ value, ending ≠ .returned value) : poll'.attempted = poll.attempted := by
  cases turn with
  | stopped _ _ _ attempted => exact attempted
  | skipped => exact absurd rfl (stops _)
  | answered => exact absurd rfl (stops _)
  | failed => exact absurd rfl (stops _)

def Dated (item : String × String × String) : Prop :=
  item.2.2 ∈ runtimeValueKeys ∧ ∀ other ∈ fullCycleCommandKeys,
    item.2.2 ∈ commandOutputKeys other → gates other = ["QET", "QT"] ++ [item.2.1]

theorem collectDynamic_ends (session : Session ω) {base : Values}
    {specs : List (String × String × String)} (dated : ∀ item ∈ specs, Dated item)
    (nodup : (specs.map fun item => item.2.1).Nodup) (fresh : ∀ item ∈ specs, item.2.1 ∉ done)
    (opened : ∀ gate ∈ ["QET", "QT"], poll.cache.strikes gate = 0)
    (read : Read start done poll (base.update values)) :
    Run.Ends (collectDynamic session specs values) poll fun poll' e =>
      (∀ values', e = .returned values' →
        Read start (done ++ specs.map fun item => item.2.1) poll' (base.update values')) ∧
      SentPrefix start done (specs.map fun item => item.2.1) poll' := by
  induction specs generalizing done poll values with
  | nil =>
    rw [collectDynamic, Run.ends_pure]
    refine ⟨?_, .stay read.progress.attempted⟩
    intro values' eq
    cases eq
    simpa using read
  | cons item rest ih =>
    obtain ⟨wire, cacheKey, valueKey⟩ := item
    obtain ⟨datedHere, datedLater⟩ := List.forall_mem_cons.mp dated
    obtain ⟨freshHere, freshLater⟩ := List.forall_mem_cons.mp fresh
    rw [List.map_cons, List.nodup_cons] at nodup
    have freshNext : ∀ other ∈ rest, other.2.1 ∉ done ++ [cacheKey] := by
      intro other member outside
      rw [List.mem_append, List.mem_singleton] at outside
      rcases outside with old | same
      · exact freshLater other member old
      · exact nodup.1 (List.mem_map.mpr ⟨other, member, same⟩)
    rw [collectDynamic]
    refine Run.ends_bind_of (atomic_handled session wire cacheKey (parseEnergyCounter valueKey) poll)
      ?_ ?_ ?_
    · intro poll' value turn
      have next := (read.counter freshHere datedHere.1 datedHere.2 opened turn).congr
        (get?_update_merged base values value)
      have still : ∀ gate ∈ ["QET", "QT"], poll'.cache.strikes gate = 0 :=
        fun gate member => turn.keepsZero (opened gate member)
      refine Run.ends_mono ?_ (ih datedLater nodup.2 freshNext still next)
      rintro poll'' e ⟨final, sent⟩
      refine ⟨fun values'' eq => ?_, sent.cons⟩
      simpa using final values'' eq
    · intro poll' failure turn
      exact ⟨nofun, .stay ((turn.stopped_attempted nofun).trans read.progress.attempted)⟩
    · intro poll' turn
      exact ⟨nofun, .stay ((turn.stopped_attempted nofun).trans read.progress.attempted)⟩

def firstCommands : List String := ["QPIGS", "QMOD", "QPIWS", "Q1"]

def cutAtTotal : List String := firstCommands ++ ["QET"]

def cutAtClock : List String := firstCommands ++ ["QET", "QLT", "QT"]

structure Reached (start : Cache) (done : List String) (poll : Poll ω) : Prop where
  before : done <+: fullCycleCommandKeys
  total : start.commandSkippedAsUnsupported "QET" = true → done <+: cutAtTotal
  clock : start.commandSkippedAsUnsupported "QT" = true → done <+: cutAtClock
  attempted : poll.attempted = done.filter fun key => !start.commandSkippedAsUnsupported key

def Stopped (start : Cache) (done : List String) (poll : Poll ω) : Prop :=
  done = fullCycleCommandKeys ∨
    (done = cutAtTotal ∧
      (start.commandSkippedAsUnsupported "QET" = true ∨ poll.Failed "QET")) ∨
    (done = cutAtClock ∧ (start.commandSkippedAsUnsupported "QT" = true ∨ poll.Failed "QT"))

def Ended (start : Cache) (base : Values) (poll : Poll ω) (ending : Ending Failure Values) : Prop :=
  (∃ done, Reached start done poll) ∧
    ∀ values, ending = .returned values → ∃ done, Reached start done poll ∧
      Read start done poll (base.update values) ∧ Stopped start done poll

theorem totalCounter_gated : ∀ other ∈ fullCycleCommandKeys,
    "pv_generation_sum" ∈ commandOutputKeys other → gates other = [] ++ ["QET"] := by
  decide

theorem importCounter_gated : ∀ other ∈ fullCycleCommandKeys,
    "ac_in_generation_sum" ∈ commandOutputKeys other → gates other = ["QET"] ++ ["QLT"] := by
  decide

def datedKeys : List (String × String) :=
  [("QEY", "pv_generation_year"), ("QEM", "pv_generation_month"), ("QED", "pv_generation_day"),
    ("QLY", "ac_in_generation_year"), ("QLM", "ac_in_generation_month"),
    ("QLD", "ac_in_generation_day")]

theorem datedKeys_gated : ∀ item ∈ datedKeys, item.2 ∈ runtimeValueKeys ∧
    ∀ other ∈ fullCycleCommandKeys, item.2 ∈ commandOutputKeys other →
      gates other = ["QET", "QT"] ++ [item.1] := by
  decide

theorem dynamicSpecs_keys (clockToken : String) :
    (dynamicSpecs clockToken).map Prod.snd = datedKeys := rfl

theorem dynamicSpecs_dated (clockToken : String) : ∀ item ∈ dynamicSpecs clockToken, Dated item := by
  intro item member
  refine datedKeys_gated item.2 ?_
  rw [← dynamicSpecs_keys clockToken]
  exact List.mem_map_of_mem member

theorem dynamicSpecs_commands (clockToken : String) :
    ((dynamicSpecs clockToken).map fun item => item.2.1) = energyDynamicCommands := rfl

/-- Only an answer clears the strikes of a command to nothing in its turn. -/
theorem Handled.answered_zero {parse : String → Except Failure α} {value : α}
    (turn : Handled key parse poll poll' (.returned (some value))) :
    poll'.cache.strikes key = 0 ∧ poll.cache.commandSkippedAsUnsupported key = false := by
  cases turn with
  | answered _ _ known _ cache =>
    rw [cache, Cache.strikes_recordCommandSuccess, if_pos rfl]
    exact ⟨rfl, known⟩
  | stopped _ stops => exact absurd rfl (stops _)

theorem Reached.of_progress (progress : Progress start done poll)
    (before : done <+: fullCycleCommandKeys)
    (total : start.commandSkippedAsUnsupported "QET" = true → done <+: cutAtTotal)
    (clock : start.commandSkippedAsUnsupported "QT" = true → done <+: cutAtClock) :
    Reached start done poll :=
  ⟨before, total, clock, progress.attempted⟩

theorem Ended.cut {base : Values} {ending : Ending Failure Values} (reached : Reached start done poll)
    (stops : ∀ values, ending ≠ .returned values) : Ended start base poll ending :=
  ⟨⟨done, reached⟩, fun values eq => absurd eq (stops values)⟩

theorem Reached.stopped_at (reached : Reached start done poll)
    (attempted : poll'.attempted = poll.attempted) : Reached start done poll' :=
  ⟨reached.before, reached.total, reached.clock, attempted.trans reached.attempted⟩

theorem collectEnergyValues_ends (session : Session ω) {base : Values}
    (read : Read start firstCommands poll base) :
    Run.Ends (collectEnergyValues session) poll fun poll' e => Ended start base poll' e := by
  have empty : ∀ key, (base.update Dict.empty).get? key = base.get? key := by simp
  have atFirst : Reached start firstCommands poll :=
    .of_progress read.progress (by decide) (fun _ => by decide)
      (fun _ => by decide)
  have freshTotal : "QET" ∉ firstCommands := by decide
  have freshImport : "QLT" ∉ cutAtTotal := by decide
  have freshClock : "QT" ∉ cutAtTotal ++ ["QLT"] := by decide
  rw [collectEnergyValues]
  refine Run.ends_bind_of (atomic_handled session "QET" "QET" _ poll) ?_ ?_ ?_
  · intro pollT value turn
    have readT := ((read.congr empty).counter freshTotal (by decide) totalCounter_gated
      (List.forall_mem_nil _) turn).congr (get?_update_merged base Dict.empty value)
    have atTotal : Reached start cutAtTotal pollT :=
      .of_progress readT.progress (by decide) (fun _ => List.prefix_refl _)
        (fun _ => by decide)
    cases value with
    | none =>
      refine ⟨⟨cutAtTotal, atTotal⟩, ?_⟩
      intro values eq
      cases eq
      exact ⟨cutAtTotal, atTotal, readT,
        Or.inr (Or.inl ⟨rfl, read.progress.none_handled freshTotal turn⟩)⟩
    | some total =>
      obtain ⟨zeroT, knownT⟩ := turn.answered_zero
      have openT : start.commandSkippedAsUnsupported "QET" = false :=
        (read.progress.skips freshTotal).symm.trans knownT
      have beyond : ∀ {goal : Prop}, start.commandSkippedAsUnsupported "QET" = true → goal := by
        intro goal skipped
        rw [openT] at skipped
        cases skipped
      refine Run.ends_bind_of (atomic_handled session "QLT" "QLT" _ pollT) ?_ ?_ ?_
      · intro pollI imported turnI
        have readI := (readT.counter freshImport (by decide) importCounter_gated
          (by simpa using zeroT) turnI).congr
          (get?_update_merged base (merged Dict.empty (some total)) imported)
        have atImport : Reached start (cutAtTotal ++ ["QLT"]) pollI :=
          .of_progress readI.progress (by decide) beyond (fun _ => by decide)
        refine Run.ends_bind_of (atomic_handled session "QT" "QT" parseQtClock pollI) ?_ ?_ ?_
        · intro pollC token turnC
          have readC := readI.silent freshClock turnC
          have atClock : Reached start cutAtClock pollC :=
            .of_progress readC.progress (by decide) beyond (fun _ => List.prefix_refl _)
          cases token with
          | none =>
            refine ⟨⟨cutAtClock, atClock⟩, ?_⟩
            intro values eq
            cases eq
            exact ⟨cutAtClock, atClock, readC,
              Or.inr (Or.inr ⟨rfl, readI.progress.none_handled freshClock turnC⟩)⟩
          | some clockToken =>
            obtain ⟨zeroC, knownC⟩ := turnC.answered_zero
            have openC : start.commandSkippedAsUnsupported "QT" = false :=
              (readI.progress.skips freshClock).symm.trans knownC
            have beyondC : ∀ {goal : Prop},
                start.commandSkippedAsUnsupported "QT" = true → goal := by
              intro goal skipped
              rw [openC] at skipped
              cases skipped
            have opened : ∀ gate ∈ ["QET", "QT"], pollC.cache.strikes gate = 0 := by
              intro gate member
              rcases List.mem_cons.mp member with rfl | rest
              · exact turnC.keepsZero (turnI.keepsZero zeroT)
              · rw [List.mem_singleton.mp rest]
                exact zeroC
            refine Run.ends_mono ?_ (collectDynamic_ends session (dynamicSpecs_dated clockToken)
              (by rw [dynamicSpecs_commands]; decide)
              (by
                intro item member
                have listed : item.2.1 ∈ energyDynamicCommands := by
                  rw [← dynamicSpecs_commands clockToken]
                  exact List.mem_map_of_mem member
                revert listed
                generalize item.2.1 = command
                revert command
                decide)
              opened readC)
            rintro pollD e ⟨final, part, before, attempted⟩
            rw [dynamicSpecs_commands] at final before
            refine ⟨⟨cutAtClock ++ part, ?_, beyond, beyondC, attempted⟩, ?_⟩
            · obtain ⟨rest, eq⟩ := before
              exact ⟨rest, by rw [List.append_assoc, eq]; decide⟩
            · intro values eq
              have readD := final values eq
              exact ⟨fullCycleCommandKeys,
                .of_progress readD.progress (List.prefix_refl _) beyond beyondC, readD, Or.inl rfl⟩
        · intro pollC failure turnC
          exact .cut (atImport.stopped_at (turnC.stopped_attempted nofun)) nofun
        · intro pollC turnC
          exact .cut (atImport.stopped_at (turnC.stopped_attempted nofun)) nofun
      · intro pollI failure turnI
        exact .cut (atTotal.stopped_at (turnI.stopped_attempted nofun)) nofun
      · intro pollI turnI
        exact .cut (atTotal.stopped_at (turnI.stopped_attempted nofun)) nofun
  · intro pollT failure turn
    exact .cut (atFirst.stopped_at (turn.stopped_attempted nofun)) nofun
  · intro pollT turn
    exact .cut (atFirst.stopped_at (turn.stopped_attempted nofun)) nofun

/-- Commands behind a final verdict are left out, and no others. -/
theorem reachableCommands_of_cut {unsupported limit rest : List String}
    (split : fullCycleCommandKeys = limit ++ rest)
    (open' : ∀ key ∈ limit, key ∉ unreachableCommands unsupported)
    (closed : ∀ key ∈ rest, key ∉ unsupported → key ∈ unreachableCommands unsupported) :
    reachableCommands unsupported = limit.filter fun key => key ∉ unsupported := by
  have none : rest.filter (fun key => decide (key ∉ unsupported) &&
      decide (key ∉ unreachableCommands unsupported)) = [] := by
    rw [List.filter_eq_nil_iff]
    intro key member
    simp only [Bool.and_eq_true, decide_eq_true_eq, not_and, not_not]
    exact closed key member
  rw [reachableCommands, split, List.filter_append, none, List.append_nil]
  refine List.filter_congr fun key member => ?_
  simp [open' key member]

theorem cutAtTotal_append :
    fullCycleCommandKeys = cutAtTotal ++ (["QLT", "QT"] ++ energyDynamicCommands) := by
  decide

theorem cutAtClock_append : fullCycleCommandKeys = cutAtClock ++ energyDynamicCommands := by
  decide

theorem cutAtTotal_before : ∀ key ∈ cutAtTotal, key ∉ ["QLT", "QT"] ++ energyDynamicCommands := by
  decide

theorem cutAtClock_before : ∀ key ∈ cutAtClock, key ∉ energyDynamicCommands := by decide

theorem reachableCommands_limit (unsupported : List String) :
    reachableCommands unsupported =
      (if "QET" ∈ unsupported then cutAtTotal
        else if "QT" ∈ unsupported then cutAtClock
        else fullCycleCommandKeys).filter fun key => key ∉ unsupported := by
  split
  · rename_i total
    refine reachableCommands_of_cut cutAtTotal_append ?_ ?_
    · intro key member inside
      rw [unreachableCommands, if_pos total, List.mem_filter] at inside
      exact cutAtTotal_before key member inside.1
    · intro key member outside
      rw [unreachableCommands, if_pos total, List.mem_filter]
      exact ⟨member, by simpa using outside⟩
  split
  · rename_i total clock
    refine reachableCommands_of_cut cutAtClock_append ?_ ?_
    · intro key member inside
      rw [unreachableCommands, if_neg total, if_pos clock, List.mem_filter] at inside
      exact cutAtClock_before key member inside.1
    · intro key member outside
      rw [unreachableCommands, if_neg total, if_pos clock, List.mem_filter]
      exact ⟨member, by simpa using outside⟩
  · rename_i total clock
    refine reachableCommands_of_cut (List.append_nil _).symm ?_ (List.forall_mem_nil _)
    intro key member inside
    rw [unreachableCommands, if_neg total, if_neg clock] at inside
    cases inside

theorem reachableCommands_start (start : Cache) :
    reachableCommands start.unsupportedCommands =
      (if start.commandSkippedAsUnsupported "QET" = true then cutAtTotal
        else if start.commandSkippedAsUnsupported "QT" = true then cutAtClock
        else fullCycleCommandKeys).filter fun key => !start.commandSkippedAsUnsupported key := by
  rw [reachableCommands_limit]
  simp only [Cache.mem_unsupportedCommands]
  refine List.filter_congr fun key _ => ?_
  rw [Bool.eq_iff_iff]
  simp

theorem Reached.sent (reached : Reached start done poll) :
    poll.attempted <+: reachableCommands start.unsupportedCommands := by
  rw [reached.attempted, reachableCommands_start]
  refine List.IsPrefix.filter _ ?_
  split
  · rename_i total
    exact reached.total total
  split
  · rename_i clock
    exact reached.clock clock
  · exact reached.before

theorem Stopped.sent (stopped : Stopped start done poll) (reached : Reached start done poll) :
    poll.attempted = reachableCommands start.unsupportedCommands ∨ poll.Failed "QET" ∨
      poll.Failed "QT" := by
  rcases stopped with rfl | ⟨rfl, total | failed⟩ | ⟨rfl, clock | failed⟩
  · refine Or.inl ?_
    rw [reached.attempted, reachableCommands_start]
    split
    · rename_i total
      exact absurd (reached.total total) (by decide)
    split
    · rename_i clock
      exact absurd (reached.clock clock) (by decide)
    · rfl
  · exact Or.inl (by rw [reached.attempted, reachableCommands_start, if_pos total])
  · exact Or.inr (Or.inl failed)
  · refine Or.inl ?_
    rw [reached.attempted, reachableCommands_start]
    split
    · rename_i total
      exact absurd (reached.total total) (by decide)
    · rfl
  · exact Or.inr (Or.inr failed)

/-- A poll can only be refused a verdict on the commands it may not leave out. -/
def RequiredOpen (cache : Cache) : Prop :=
  cache.commandSkippedAsUnsupported "QPIGS" = false ∧ cache.commandSkippedAsUnsupported "QMOD" = false

theorem Read.initial (start : Cache) {poll : Poll ω} (cache : poll.cache = start)
    (timings : poll.timings = []) : Read start [] poll Dict.empty where
  progress := ⟨by rw [Poll.attempted, timings]; rfl, fun key _ => by rw [cache]⟩
  backed := Backed.start _
  within := within_empty _

theorem SentPrefix.reached {done turns : List String} (sent : SentPrefix start done turns poll)
    (before : done ++ turns <+: firstCommands) : ∃ done, Reached start done poll := by
  obtain ⟨part, ahead, attempted⟩ := sent
  have first : done ++ part <+: firstCommands :=
    ((List.prefix_append_right_inj done).mpr ahead).trans before
  exact ⟨done ++ part, first.trans (by decide), fun _ => first.trans (by decide),
    fun _ => first.trans (by decide), attempted⟩

theorem runCommands_ends (session : Session ω) (floats : Floats) (required : RequiredOpen start)
    (cache : poll.cache = start) (timings : poll.timings = []) :
    Run.Ends (runCommands session floats) poll fun poll' e =>
      (∃ done, Reached start done poll') ∧ ∀ values, e = .returned values →
        ∃ done, Reached start done poll' ∧ Read start done poll' values ∧
          Stopped start done poll' := by
  have commands : (runtimeCommandSpecs floats).map CommandSpec.command = firstCommands := rfl
  have mandatory : ∀ spec ∈ runtimeCommandSpecs floats, spec.optional = false →
      start.commandSkippedAsUnsupported spec.command = false := by
    intro spec member mandatory
    rw [runtimeCommandSpecs] at member
    simp only [List.mem_cons, List.not_mem_nil, or_false] at member
    rcases member with rfl | rfl | rfl | rfl
    · exact required.1
    · exact required.2
    · cases mandatory
    · cases mandatory
  rw [runCommands]
  refine Run.ends_bind_of (collectValues_ends session (runtimeCommandSpecs_tidy floats)
    (by rw [commands]; decide) (fun _ _ => List.not_mem_nil) mandatory
    (Read.initial start cache timings)) ?_ ?_ ?_
  · rintro pollF values ⟨read, _⟩
    have readF : Read start firstCommands pollF values := read values rfl
    rw [Run.ends_bind]
    refine Run.ends_mono ?_ (collectEnergyValues_ends session readF)
    rintro poll' e ⟨reached, final⟩
    cases e with
    | raised => exact ⟨reached, nofun⟩
    | cancelled => exact ⟨reached, nofun⟩
    | returned energy =>
      refine ⟨reached, ?_⟩
      intro values eq
      cases eq
      exact final energy rfl
  · rintro poll' failure ⟨_, sent⟩
    exact ⟨sent.reached (by rw [commands]; exact List.prefix_refl _), nofun⟩
  · rintro poll' ⟨_, sent⟩
    exact ⟨sent.reached (by rw [commands]; exact List.prefix_refl _), nofun⟩

theorem collectRuntimeValues_bind (session : Session ω) (floats : Floats) (wallMs : ω → Int)
    (poll : Poll ω) (post : Poll ω → Ending Failure Reading → Prop) :
    Run.Ends (collectRuntimeValues session floats wallMs) poll post ↔
      Run.Ends (runCommands session floats) { poll with timings := [] } fun poll' e =>
        e.next (fun values => Run.Ends (conclude values (wallMs poll'.world)) poll' post)
          (post poll') := by
  rw [collectRuntimeValues, Run.ends_bind, mark, Run.ends_call, Ending.next_returned, Run.ends_bind]
  rfl

/-- However the device behaves, a poll attempts a beginning of the commands that the full-cycle
    estimate of the verdicts before it expects, and a poll that returns attempts all of them unless
    `QET` or `QT` went unanswered. -/
theorem poll_sends_reachable (session : Session ω) (floats : Floats) (wallMs : ω → Int)
    (poll : Poll ω) (required : RequiredOpen poll.cache) :
    Run.Ends (collectRuntimeValues session floats wallMs) poll fun poll' e =>
      poll'.attempted <+: reachableCommands poll.cache.unsupportedCommands ∧
        ∀ reading, e = .returned reading →
          poll'.attempted = reachableCommands poll.cache.unsupportedCommands ∨
            poll'.Failed "QET" ∨ poll'.Failed "QT" := by
  rw [collectRuntimeValues_bind]
  refine Run.ends_mono ?_ (runCommands_ends session floats required rfl rfl)
  rintro poll' e ⟨⟨done, reached⟩, final⟩
  cases e with
  | raised => exact ⟨reached.sent, nofun⟩
  | cancelled => exact ⟨reached.sent, nofun⟩
  | returned values =>
    obtain ⟨done, reached, _, stopped⟩ := final values rfl
    exact ⟨reached.sent, fun _ _ => stopped.sent reached⟩

end

end Pi30Driver
