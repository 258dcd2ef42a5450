import EybondLocal.Hub.WriteCapability

/-!
What a returned control write has established. A comparison either meets a value some read
since the accepted write reported, or one the hub had before it. The call is sound exactly
when no comparison of the second kind matches.
-/
namespace Hub
open OrderedDict PythonObject HookRun HookRun.Run

structure Comparison where
  written : Value
  /-- The driver's points when the write was accepted. -/
  frame : Frame
  /-- The deeds between the acceptance and the comparison. -/
  since : List Deed
  capability : Capability
  elapsed : ℚ
  readback : Value

def comparisonsFrom (written : Value) (frame : Frame) :
    List Deed → List Deed → List Comparison
  | _, [] => []
  | since, .compared capability elapsed readback :: rest =>
    ⟨written, frame, since, capability, elapsed, readback⟩ ::
      comparisonsFrom written frame since rest
  | since, deed :: rest => comparisonsFrom written frame (since ++ [deed]) rest

def comparisons : List Deed → List Comparison
  | [] => []
  | .accepted written frame :: rest => comparisonsFrom written frame [] rest
  | _ :: rest => comparisons rest

namespace Comparison

def key (x : Comparison) : String := x.capability.valueKey

def matching (x : Comparison) (requested shown : Value) : Bool :=
  writeReadbackMatches x.capability requested x.written shown x.elapsed

/-- The inverter is the hub's own: `readDriverValues` notes a read under the one it has bound. -/
def ReportedMatch (x : Comparison) (requested : Value) : Prop :=
  ∃ inverter result v, .read inverter result ∈ x.since ∧ result.values.get? x.key = some v ∧
    x.matching requested v = true

/-- The value of the key apart from reports since the acceptance: the driver's point from
    before it, or what the hub shows where the driver has no point. -/
def carried (x : Comparison) : Value :=
  match lastMention x.key x.frame x.since with
  | none => (x.frame.value? x.key).getD x.readback
  | some _ => x.readback

/-- The comparison rests on a report, or does not match, or only restates a report that a later
    read dropped. -/
def Backed (x : Comparison) (requested : Value) : Prop :=
  (∃ v, lastMention x.key x.frame x.since = some (some v)) ∨
    x.matching requested x.carried = false ∨
    (lastMention x.key x.frame x.since = some none ∧ x.ReportedMatch requested)

end Comparison

/-- A normal return of a write that is no action was observed on the device: a read since the
    acceptance reported a value that matches at the confirming comparison. -/
def Observed (requested : Value) (journal : List Deed) (ending : Ending PyError Value) : Prop :=
  ∀ written capability, ending = .returned written → .resolved capability ∈ journal →
    capability.valueKind ≠ .action →
      ∃ x, (comparisons journal).getLast? = some x ∧ x.ReportedMatch requested

/-- What must stand before a deed: a write is sent while none was accepted, the first time or a
    second time after a retryable connection error. -/
def SendAllowed (before : List Deed) (deed : Deed) : Prop :=
  deed = .sent → (∀ written frame, .accepted written frame ∉ before) ∧
    (.sent ∉ before ∨ (∃ early late, before = early ++ .sent :: late ∧ .sent ∉ early ∧ .sent ∉ late) ∧
      ∃ error, .refused error ∈ before ∧ isRetryableCollectorError error = true)

/-- A write is sent twice at most, again only after a retryable connection error, and never
    after one was accepted. -/
def SentSparingly (journal : List Deed) : Prop := Guarded SendAllowed journal

structure Comparison.Faithful (x : Comparison) : Prop where
  reads : ∀ deed ∈ x.since, OfRefresh deed
  shown : ∀ v, (x.since.foldl replay x.frame).value? x.key = some v → x.readback = v

namespace Comparison.Faithful
variable {x : Comparison} (faithful : x.Faithful) (requested : Value)
include faithful

theorem carried_eq : x.carried = x.readback := by
  unfold carried
  cases last : lastMention x.key x.frame x.since with
  | some mention => rfl
  | none =>
    cases held : x.frame.value? x.key with
    | none => rfl
    | some v =>
      have replayed := replayed_value? faithful.reads x.frame x.key
      rw [last, held] at replayed
      exact (faithful.shown v replayed).symm

theorem backed_of_mismatch (mismatch : x.matching requested x.readback = false) :
    x.Backed requested := by
  refine Or.inr (Or.inl ?_)
  rw [faithful.carried_eq, mismatch]

theorem backed_iff_of_match (matched : x.matching requested x.readback = true) :
    x.Backed requested ↔ x.ReportedMatch requested := by
  constructor
  · rintro (⟨v, last⟩ | mismatch | ⟨_, reported⟩)
    · have replayed := replayed_value? faithful.reads x.frame x.key
      rw [last] at replayed
      obtain ⟨inverter, result, member, value⟩ := reported_of_lastMention last
      rw [faithful.shown v replayed] at matched
      exact ⟨inverter, result, v, member, value, matched⟩
    · rw [faithful.carried_eq, matched] at mismatch
      cases mismatch
    · exact reported
  · intro reported
    cases last : lastMention x.key x.frame x.since with
    | none =>
      obtain ⟨inverter, result, v, member, value, _⟩ := reported
      rw [unreported_of_lastMention last member] at value
      cases value
    | some mention =>
      cases mention with
      | some v => exact Or.inl ⟨v, last⟩
      | none => exact Or.inr (Or.inr ⟨last, reported⟩)

end Comparison.Faithful

theorem comparisonsFrom_append {written : Value} {frame : Frame} {deeds : List Deed}
    (reads : ∀ deed ∈ deeds, OfRefresh deed) (since rest : List Deed) :
    comparisonsFrom written frame since (deeds ++ rest) =
      comparisonsFrom written frame (since ++ deeds) rest := by
  induction deeds generalizing since with
  | nil => simp
  | cons deed later ih =>
    have step : comparisonsFrom written frame since (deed :: (later ++ rest)) =
        comparisonsFrom written frame (since ++ [deed]) (later ++ rest) := by
      have ofRefresh := reads deed List.mem_cons_self
      cases deed with
      | compared capability elapsed readback => exact ofRefresh.elim
      | _ => rfl
    rw [List.cons_append, step, ih fun d member => reads d (List.mem_cons_of_mem _ member),
      List.append_assoc, List.singleton_append]

theorem comparisonsFrom_reads {written : Value} {frame : Frame} {deeds : List Deed}
    (reads : ∀ deed ∈ deeds, OfRefresh deed) (since : List Deed) :
    comparisonsFrom written frame since deeds = [] := by
  calc comparisonsFrom written frame since deeds
      = comparisonsFrom written frame since (deeds ++ []) := by rw [List.append_nil]
    _ = comparisonsFrom written frame (since ++ deeds) [] := comparisonsFrom_append reads since []
    _ = [] := rfl

inductive Settled (capability : Capability) (requested written : Value) (frame : Frame) :
    List Deed → Ending PyError Value → Prop where
  | unfinished {since : List Deed} {ending : Ending PyError Value}
      (reads : ∀ deed ∈ since, OfRefresh deed) (stopped : ∀ v, ending ≠ .returned v) :
      Settled capability requested written frame since ending
  | action {since : List Deed} (reads : ∀ deed ∈ since, OfRefresh deed)
      (kind : capability.valueKind = .action) :
      Settled capability requested written frame since (.returned written)
  | first {since : List Deed} {elapsed : ℚ} {readback : Value}
      (kind : capability.valueKind ≠ .action)
      (faithful : Comparison.Faithful ⟨written, frame, since, capability, elapsed, readback⟩)
      (matched : writeReadbackMatches capability requested written readback elapsed = true) :
      Settled capability requested written frame
        (since ++ [.compared capability elapsed readback]) (.returned written)
  | interrupted {since more : List Deed} {elapsed : ℚ} {readback : Value}
      {ending : Ending PyError Value}
      (faithful : Comparison.Faithful ⟨written, frame, since, capability, elapsed, readback⟩)
      (mismatch : writeReadbackMatches capability requested written readback elapsed = false)
      (reads : ∀ deed ∈ more, OfRefresh deed) (stopped : ∀ v, ending ≠ .returned v) :
      Settled capability requested written frame
        (since ++ .compared capability elapsed readback :: more) ending
  | second {since more : List Deed} {elapsed elapsed' : ℚ} {readback readback' : Value}
      {ending : Ending PyError Value} (kind : capability.valueKind ≠ .action)
      (faithful : Comparison.Faithful ⟨written, frame, since, capability, elapsed, readback⟩)
      (mismatch : writeReadbackMatches capability requested written readback elapsed = false)
      (reads : ∀ deed ∈ more, OfRefresh deed)
      (faithful' : Comparison.Faithful
        ⟨written, frame, since ++ more, capability, elapsed', readback'⟩)
      (verdict : (ending = .returned written ∧
          writeReadbackMatches capability requested written readback' elapsed' = true) ∨
        ((∀ v, ending ≠ .returned v) ∧
          writeReadbackMatches capability requested written readback' elapsed' = false)) :
      Settled capability requested written frame
        (since ++ .compared capability elapsed readback ::
          (more ++ [.compared capability elapsed' readback'])) ending

theorem Settled.observed_iff {capability : Capability} {requested written : Value} {frame : Frame}
    {since : List Deed} {ending : Ending PyError Value}
    (settled : Settled capability requested written frame since ending) :
    (∀ v, ending = .returned v → capability.valueKind ≠ .action →
        ∃ x, (comparisonsFrom written frame [] since).getLast? = some x ∧
          x.ReportedMatch requested) ↔
      ∀ x ∈ comparisonsFrom written frame [] since, x.Backed requested := by
  cases settled with
  | unfinished reads stopped =>
    rw [comparisonsFrom_reads reads]
    exact ⟨fun _ x member => (nomatch member), fun _ v returned => absurd returned (stopped v)⟩
  | action reads kind =>
    rw [comparisonsFrom_reads reads]
    exact ⟨fun _ x member => (nomatch member), fun _ v _ other => absurd kind other⟩
  | first kind faithful matched =>
    rw [comparisonsFrom_append faithful.reads]
    have backed := faithful.backed_iff_of_match requested matched
    simp only [comparisonsFrom, List.nil_append, List.getLast?_singleton, Option.some.injEq,
      exists_eq_left', List.mem_singleton, forall_eq, backed]
    exact ⟨fun observed => observed written rfl kind, fun reported _ _ _ => reported⟩
  | interrupted faithful mismatch reads stopped =>
    rw [comparisonsFrom_append faithful.reads, comparisonsFrom, comparisonsFrom_reads reads]
    have backed := faithful.backed_of_mismatch requested mismatch
    constructor
    · intro _ x member
      rw [List.mem_singleton.mp member]
      exact backed
    · exact fun _ v returned => absurd returned (stopped v)
  | second kind faithful mismatch reads faithful' verdict =>
    rw [comparisonsFrom_append faithful.reads, comparisonsFrom, comparisonsFrom_append reads]
    have backed := faithful.backed_of_mismatch requested mismatch
    simp only [comparisonsFrom, List.nil_append, List.mem_cons, List.not_mem_nil, or_false,
      forall_eq_or_imp, forall_eq, List.getLast?_cons_cons, List.getLast?_singleton,
      Option.some.injEq, exists_eq_left']
    rcases verdict with ⟨rfl, matched⟩ | ⟨stopped, mismatch'⟩
    · rw [faithful'.backed_iff_of_match requested matched]
      exact ⟨fun observed => ⟨backed, observed written rfl kind⟩, fun both _ _ _ => both.2⟩
    · exact ⟨fun _ => ⟨backed, faithful'.backed_of_mismatch requested mismatch'⟩,
        fun _ v returned => absurd returned (stopped v)⟩

section
variable {ω : Type} (host : Host ω)

def Quiet (w w' : World ω) : Prop := w'.hub = w.hub ∧ w'.journal = w.journal

instance : IsPreorder (World ω) Quiet where
  refl _ := ⟨rfl, rfl⟩
  trans _ _ _ first second := ⟨second.1.trans first.1, second.2.trans first.2⟩

theorem quiet_ensureConnected : Within Quiet (ensureConnected host) := by
  have waits {α : Type} (action : ω → Awaited ω α) : Within Quiet (awaiting action : HubRun ω α) :=
    fun _ => ⟨rfl, rfl⟩
  unfold ensureConnected
  refine within_bind (waits _) fun ok => ?_
  split
  · exact within_pure _
  · refine within_bind (within_observe _) fun connected => ?_
    split
    · exact within_bind (waits _) fun _ => waits _
    · exact within_raise _

theorem publishes_refreshAfterWrite : Publishes (refreshAfterWrite host) := by
  have again : Publishes (ensureConnected host >>= fun _ => refresh host) :=
    publishes_bind (within_ensureConnected host) fun _ => publishes_refresh host
  constructor
  · refine within_bind (publishes_refresh host).1 fun snapshot => ?_
    split
    · exact again.1
    · exact within_pure _
  · intro w
    refine returns_bind ((publishes_refresh host).2 w) fun w' snapshot shown => ?_
    split
    · exact again.2 w'
    · exact returns_pure shown

theorem publishes_ends {m : HubRun ω Snapshot} (published : Publishes m) (w : World ω) :
    Ends m w fun w' e => ∃ since, w'.journal = w.journal ++ since ∧
      (∀ deed ∈ since, OfRefresh deed) ∧ w'.hub.telemetry = since.foldl replay w.hub.telemetry ∧
      ∀ snapshot, e = .returned snapshot → ShowsPoints w'.hub snapshot := by
  obtain ⟨since, journal, reads, telemetry⟩ := published.1 w
  exact ⟨since, journal, reads, telemetry, published.2 w⟩

variable {capability : Capability} {requested written : Value} {started : ℚ}

theorem compareReadback_ends {snapshot : Snapshot} {w : World ω}
    (shows : ShowsPoints w.hub snapshot) :
    Ends (compareReadback host capability requested written started snapshot) w fun w' e =>
      (w' = w ∧ ∃ error, e = .raised error) ∨
      ∃ elapsed readback, w' = { w with
          journal := w.journal ++ [.compared capability elapsed readback] } ∧
        (∀ v, w.hub.telemetry.value? capability.valueKey = some v → readback = v) ∧
        e = .returned
          (writeReadbackMatches capability requested written readback elapsed, readback) := by
  unfold compareReadback Snapshot.runtimeValue
  split
  · refine Or.inr ⟨_, _, rfl, ?_, rfl⟩
    intro v held
    rw [shows _ v held]
    rfl
  · exact Or.inl ⟨rfl, _, rfl⟩

theorem confirmWrite_ends {frame : Frame} {since : List Deed} {snapshot : Snapshot} {w : World ω}
    (reads : ∀ deed ∈ since, OfRefresh deed)
    (telemetry : w.hub.telemetry = since.foldl replay frame)
    (shows : ShowsPoints w.hub snapshot) :
    Ends (confirmWrite host capability requested written started snapshot >>= fun _ =>
        (pure written : HubRun ω Value)) w fun w' e =>
      ∃ more, w'.journal = w.journal ++ more ∧
        Settled capability requested written frame (since ++ more) e := by
  have quiet {w' : World ω} {ending : Ending PyError Value} (journal : w'.journal = w.journal)
      (settled : Settled capability requested written frame since ending) :
      ∃ more, w'.journal = w.journal ++ more ∧
        Settled capability requested written frame (since ++ more) ending :=
    ⟨[], by rw [List.append_nil, journal], by rwa [List.append_nil]⟩
  rw [ends_bind]
  unfold confirmWrite
  split
  · rename_i kind
    exact quiet rfl (.action reads kind)
  · rename_i kind
    rw [ends_bind]
    refine ends_mono ?_ (compareReadback_ends host shows)
    rintro w1 e1 (⟨rfl, error, rfl⟩ | ⟨elapsed, readback, rfl, shown, rfl⟩)
    · exact quiet rfl (.unfinished reads (by simp))
    · have faithful : Comparison.Faithful ⟨written, frame, since, capability, elapsed, readback⟩ :=
        ⟨reads, fun v held => shown v (telemetry ▸ held)⟩
      rw [Ending.next_returned]
      cases matched : writeReadbackMatches capability requested written readback elapsed with
      | true => exact ⟨[.compared capability elapsed readback], rfl, .first kind faithful matched⟩
      | false =>
        simp only [Bool.false_eq_true, if_false]
        rw [ends_bind]
        refine ends_mono ?_ (publishes_ends (publishes_refresh host) _)
        rintro w2 e2 ⟨more, journal, moreReads, telemetry', shows'⟩
        simp only [] at journal telemetry'
        have appended : w2.journal =
            w.journal ++ (.compared capability elapsed readback :: more) := by
          rw [journal, List.append_assoc, List.singleton_append]
        cases e2 with
        | raised error =>
          exact ⟨_, appended, .interrupted faithful matched moreReads (by simp)⟩
        | cancelled =>
          exact ⟨_, appended, .interrupted faithful matched moreReads (by simp)⟩
        | returned again =>
          rw [Ending.next_returned, ends_bind]
          refine ends_mono ?_ (compareReadback_ends host (shows' again rfl))
          rintro w3 e3 (⟨rfl, error, rfl⟩ | ⟨elapsed', readback', rfl, shown', rfl⟩)
          · exact ⟨_, appended, .interrupted faithful matched moreReads (by simp)⟩
          · have replayed : w2.hub.telemetry = (since ++ more).foldl replay frame := by
              rw [telemetry', telemetry, List.foldl_append]
            have faithful' : Comparison.Faithful
                ⟨written, frame, since ++ more, capability, elapsed', readback'⟩ := by
              refine ⟨?_, fun v held => shown' v (replayed ▸ held)⟩
              intro deed member
              rcases List.mem_append.mp member with earlier | later
              · exact reads deed earlier
              · exact moreReads deed later
            have appended' : w2.journal ++ [.compared capability elapsed' readback'] =
                w.journal ++ (.compared capability elapsed readback ::
                  (more ++ [.compared capability elapsed' readback'])) := by
              rw [appended, List.append_assoc, List.cons_append]
            rw [Ending.next_returned]
            cases matched' : writeReadbackMatches capability requested written readback'
                elapsed' with
            | true =>
              exact ⟨_, appended', .second kind faithful matched moreReads faithful'
                (Or.inl ⟨rfl, matched'⟩)⟩
            | false =>
              exact ⟨_, appended', .second kind faithful matched moreReads faithful'
                (Or.inr ⟨by simp, matched'⟩)⟩

theorem settleWrite_ends (key : String) (accepted : ℚ × Value × Option PyError) (w : World ω) :
    Ends (settleWrite host capability key requested accepted) w fun w' e =>
      ∃ since, w'.journal = w.journal ++ since ∧
        Settled capability requested accepted.2.1 w.hub.telemetry since e := by
  unfold settleWrite
  split
  · exact ⟨[], (List.append_nil _).symm, .unfinished (by simp) (by simp [Run.raise])⟩
  · rw [ends_bind]
    refine ends_mono ?_ (publishes_ends (publishes_refreshAfterWrite host) w)
    rintro w1 e1 ⟨since, journal, reads, telemetry, shows⟩
    cases e1 with
    | raised error => exact ⟨since, journal, .unfinished reads (by simp)⟩
    | cancelled => exact ⟨since, journal, .unfinished reads (by simp)⟩
    | returned snapshot =>
      rw [Ending.next_returned]
      refine ends_mono ?_ (confirmWrite_ends host reads telemetry (shows snapshot rfl))
      rintro w2 e2 ⟨more, journal', settled⟩
      exact ⟨since ++ more, by rw [journal', journal, List.append_assoc], settled⟩

inductive Sends : List Deed → Prop where
  | none : Sends []
  | once : Sends [.sent]
  | refused (error : PyError) : Sends [.sent, .refused error]
  | again {error : PyError} (retryable : isRetryableCollectorError error = true) :
      Sends [.sent, .refused error, .sent]
  | twice {error : PyError} (retryable : isRetryableCollectorError error = true)
      (error' : PyError) : Sends [.sent, .refused error, .sent, .refused error']

theorem driverWrite_ends (key : String) (value : Value) (w : World ω) :
    Ends (driverWrite host key value) w fun w' e =>
      (∃ started written, e = .returned (started, written) ∧
        w'.journal = w.journal ++ [.sent, .accepted written w'.hub.telemetry]) ∨
      (∃ error, e = .raised error ∧
        ((w'.journal = w.journal ∧ isRetryableCollectorError error = false) ∨
          w'.journal = w.journal ++ [.sent, .refused error])) ∨
      (e = .cancelled ∧ w'.journal = w.journal ++ [.sent]) := by
  unfold driverWrite
  rw [ends_bind, ends_observe, Ending.next_returned, ends_bind, ends_observe,
    Ending.next_returned]
  cases w.hub.inverter with
  | none => exact Or.inr (Or.inl ⟨_, rfl, Or.inl ⟨rfl, by decide⟩⟩)
  | some inverter =>
    simp only []
    rw [ends_bind, note, ends_call, Ending.next_returned, ends_bind, ends_recover]
    unfold Ends awaiting
    simp only []
    cases (host.writeCapability inverter key value w.host).ending with
    | returned written =>
      exact Or.inl ⟨host.monotonic w.host, written, rfl, by
        simp [note, Run.call, observe, bind_apply, pure_apply, Ending.next]⟩
    | raised error =>
      exact Or.inr (Or.inl ⟨error, rfl, Or.inr (by
        simp [note, Run.call, Run.raise, bind_apply, Ending.next])⟩)
    | cancelled => exact Or.inr (Or.inr ⟨rfl, trivial⟩)

theorem ends_raiseClassified {error : PyError} {w : World ω}
    {post : World ω → Ending PyError (ℚ × Value × Option PyError) → Prop} :
    Ends (raiseClassified host capability error) w post ↔
      post w (.raised (host.classifyWriteError capability error w.host)) := Iff.rfl

theorem writeAttempts_ends (key : String) (value : Value) (w : World ω) :
    Ends (writeAttempts host capability key value) w fun w' e =>
      ∃ deeds, Sends deeds ∧
        ((∃ started written previous, e = .returned (started, written, previous) ∧
            w'.journal = w.journal ++ deeds ++ [.accepted written w'.hub.telemetry]) ∨
          ((∀ v, e ≠ .returned v) ∧ w'.journal = w.journal ++ deeds)) := by
  unfold writeAttempts
  rw [ends_recover, ends_bind]
  refine ends_mono ?_ (driverWrite_ends host key value w)
  rintro w1 e1 (⟨started, written, rfl, journal⟩ | ⟨error, rfl, journal⟩ | ⟨rfl, journal⟩)
  · exact ⟨[.sent], .once, Or.inl ⟨started, written, none, rfl, by
      rw [List.append_assoc]; exact journal⟩⟩
  · simp only [Ending.next_raised]
    split
    · rename_i retryable
      have refused : w1.journal = w.journal ++ [.sent, .refused error] := by
        rcases journal with ⟨_, final⟩ | sent
        · rw [final] at retryable
          cases retryable
        · exact sent
      rw [ends_bind]
      refine ends_mono ?_ (show Ends (ensureConnected host) w1 fun w2 _ => Quiet w1 w2 from
        quiet_ensureConnected host w1)
      intro w2 e2 quiet
      have waited : w2.journal = w.journal ++ [.sent, .refused error] := quiet.2.trans refused
      cases e2 with
      | raised error' => exact ⟨_, .refused error, Or.inr ⟨by simp, waited⟩⟩
      | cancelled => exact ⟨_, .refused error, Or.inr ⟨by simp, waited⟩⟩
      | returned done =>
        rw [Ending.next_returned, ends_recover, ends_bind]
        refine ends_mono ?_ (driverWrite_ends host key value w2)
        rintro w3 e3 (⟨started, written, rfl, journal'⟩ | ⟨error', rfl, journal'⟩ | ⟨rfl, journal'⟩)
        · exact ⟨_, .again retryable, Or.inl ⟨started, written, some error, rfl, by
            rw [pure_apply, journal', waited]; simp⟩⟩
        · simp only [Ending.next_raised]
          rw [ends_raiseClassified]
          rcases journal' with ⟨same, _⟩ | sent
          · exact ⟨_, .refused error, Or.inr ⟨by simp, same.trans waited⟩⟩
          · exact ⟨_, .twice retryable error', Or.inr ⟨by simp, by rw [sent, waited]; simp⟩⟩
        · exact ⟨_, .again retryable, Or.inr ⟨by simp, by rw [journal', waited]; simp⟩⟩
    · rw [ends_raiseClassified]
      rcases journal with ⟨same, _⟩ | sent
      · exact ⟨_, .none, Or.inr ⟨by simp, by rw [List.append_nil]; exact same⟩⟩
      · exact ⟨_, .refused error, Or.inr ⟨by simp, sent⟩⟩
  · exact ⟨_, .once, Or.inr ⟨by simp, journal⟩⟩

theorem ends_refreshed_bind {α β : Type} {m : HubRun ω α} {body : α → HubRun ω β} {w : World ω}
    {post : World ω → Ending PyError β → Prop} (first : Within Refreshed m)
    (rest : ∀ w' value, Refreshed w w' → Ends (body value) w' post)
    (stopped : ∀ w' e, Refreshed w w' → (∀ v, e ≠ .returned v) → post w' e) :
    Ends (m >>= body) w post := by
  refine ends_bind_of (show Ends m w fun w' _ => Refreshed w w' from first w) rest ?_ ?_
  · exact fun w' error moved => stopped w' _ moved (by simp)
  · exact fun w' moved => stopped w' _ moved (by simp)

theorem within_ensureBound : Within Refreshed (ensureBound host) := by
  refine within_bind (within_observe _) fun hub => ?_
  cases hub.inverter with
  | some inverter => exact within_pure _
  | none =>
    refine within_bind (within_detectDriver host) fun detectError => ?_
    refine within_bind (within_observe _) fun after => ?_
    cases after.inverter with
    | some inverter => exact within_pure _
    | none => exact within_raise _

theorem within_getCapability (key : String) :
    Within Refreshed (getCapability key : HubRun ω Capability) := by
  refine within_bind (within_observe _) fun hub => ?_
  cases hub.inverter with
  | none => exact within_raise _
  | some inverter =>
    simp only []
    split
    · exact within_pure _
    · exact within_raise _

def Prepared (w w' : World ω) (e : Ending PyError Capability) : Prop :=
  ∃ reads, (∀ deed ∈ reads, OfRefresh deed) ∧
    ((∃ capability, e = .returned capability ∧
        w'.journal = w.journal ++ reads ++ [.resolved capability]) ∨
      ((∀ v, e ≠ .returned v) ∧ (w'.journal = w.journal ++ reads ∨
        ∃ capability, w'.journal = w.journal ++ reads ++ [.resolved capability])))

theorem prepareWrite_ends (key : String) (w : World ω) :
    Ends (prepareWrite host key) w (Prepared w) := by
  have stopped {w' : World ω} {e : Ending PyError Capability} (moved : Refreshed w w')
      (ended : ∀ v, e ≠ .returned v) : Prepared w w' e := by
    obtain ⟨reads, journal, ofRefresh, _⟩ := moved
    exact ⟨reads, ofRefresh, Or.inr ⟨ended, Or.inl journal⟩⟩
  unfold prepareWrite
  refine ends_refreshed_bind (within_ensureConnected host) (fun w1 _ m1 => ?_)
    fun w' e moved ended => stopped moved ended
  refine ends_refreshed_bind (within_ensureBound host) (fun w2 _ m2 => ?_)
    fun w' e moved ended => stopped (trans_of Refreshed m1 moved) ended
  have m2' := trans_of Refreshed m1 m2
  refine ends_refreshed_bind (publishes_refresh host).1 (fun w3 snapshot m3 => ?_)
    fun w' e moved ended => stopped (trans_of Refreshed m2' moved) ended
  have m3' := trans_of Refreshed m2' m3
  refine ends_refreshed_bind (within_getCapability key) (fun w4 capability m4 => ?_)
    fun w' e moved ended => stopped (trans_of Refreshed m3' moved) ended
  obtain ⟨reads, journal, ofRefresh, _⟩ := trans_of Refreshed m3' m4
  have resolved : w4.journal ++ [.resolved capability] =
      w.journal ++ reads ++ [.resolved capability] := by rw [journal]
  rw [ends_bind, note, ends_call, Ending.next_returned]
  cases host.blockedReasons capability snapshot.runtimeValues with
  | none => exact ⟨reads, ofRefresh, Or.inl ⟨capability, rfl, resolved⟩⟩
  | some reasons =>
    exact ⟨reads, ofRefresh, Or.inr ⟨by simp [Run.raise], Or.inr ⟨capability, resolved⟩⟩⟩

inductive Told (requested : Value) : List Deed → Ending PyError Value → Prop where
  | unsent {reads : List Deed} {ending : Ending PyError Value}
      (ofRefresh : ∀ deed ∈ reads, OfRefresh deed) (stopped : ∀ v, ending ≠ .returned v) :
      Told requested reads ending
  | unaccepted {reads sends : List Deed} {capability : Capability} {ending : Ending PyError Value}
      (ofRefresh : ∀ deed ∈ reads, OfRefresh deed) (attempts : Sends sends)
      (stopped : ∀ v, ending ≠ .returned v) :
      Told requested (reads ++ .resolved capability :: sends) ending
  | accepted {reads sends since : List Deed} {capability : Capability} {written : Value}
      {frame : Frame} {ending : Ending PyError Value}
      (ofRefresh : ∀ deed ∈ reads, OfRefresh deed) (attempts : Sends sends)
      (settled : Settled capability requested written frame since ending) :
      Told requested (reads ++ .resolved capability :: (sends ++ .accepted written frame :: since))
        ending

theorem writeCapability_told (key : String) (value : Value) (hub : State) (start : ω) :
    Ends (writeCapability host key value) ⟨hub, start, []⟩ fun w' e => Told value w'.journal e := by
  unfold writeCapability
  rw [ends_bind]
  refine ends_mono ?_ (prepareWrite_ends host key _)
  rintro w1 e1 ⟨reads, ofRefresh, ⟨capability, rfl, journal⟩ | ⟨ended, journal⟩⟩
  · simp only [List.nil_append] at journal
    rw [Ending.next_returned, ends_bind]
    refine ends_mono ?_ (writeAttempts_ends host key value w1)
    rintro w2 e2 ⟨sends, attempts, ⟨started, written, previous, rfl, accepted⟩ | ⟨ended, refused⟩⟩
    · rw [Ending.next_returned]
      refine ends_mono ?_ (settleWrite_ends host key _ w2)
      rintro w3 e3 ⟨since, settledJournal, settled⟩
      have whole : w3.journal = reads ++ .resolved capability ::
          (sends ++ .accepted written w2.hub.telemetry :: since) := by
        rw [settledJournal, accepted, journal]
        simp
      rw [whole]
      exact .accepted ofRefresh attempts settled
    · have whole : w2.journal = reads ++ .resolved capability :: sends := by
        rw [refused, journal]
        simp
      cases e2 with
      | returned v => exact absurd rfl (ended v)
      | raised error => exact whole ▸ .unaccepted ofRefresh attempts (by simp)
      | cancelled => exact whole ▸ .unaccepted ofRefresh attempts (by simp)
  · have stopped (ending : Ending PyError Value) (ended : ∀ v, ending ≠ .returned v) :
        Told value w1.journal ending := by
      simp only [List.nil_append] at journal
      rcases journal with early | ⟨capability, resolved⟩
      · rw [early]
        exact .unsent ofRefresh ended
      · rw [resolved]
        exact .unaccepted ofRefresh .none ended
    cases e1 with
    | returned v => exact absurd rfl (ended v)
    | raised error => exact stopped _ (by simp)
    | cancelled => exact stopped _ (by simp)

end
theorem comparisons_append {early : List Deed}
    (unaccepted : ∀ deed ∈ early, ∀ written frame, deed ≠ .accepted written frame)
    (rest : List Deed) : comparisons (early ++ rest) = comparisons rest := by
  induction early with
  | nil => rfl
  | cons deed later ih =>
    have first := unaccepted deed List.mem_cons_self
    rw [List.cons_append]
    cases deed with
    | accepted written frame => exact absurd rfl (first written frame)
    | _ => exact ih fun d member => unaccepted d (List.mem_cons_of_mem _ member)

theorem ofRefresh_other {deed : Deed} (ofRefresh : OfRefresh deed) :
    deed ≠ .sent ∧ (∀ c, deed ≠ .resolved c) ∧ ∀ w f, deed ≠ .accepted w f := by
  cases deed with
  | read inverter result => simp
  | rebound => simp
  | _ => exact ofRefresh.elim

theorem Sends.other {sends : List Deed} (attempts : Sends sends) :
    ∀ deed ∈ sends, (∀ c, deed ≠ .resolved c) ∧ ∀ w f, deed ≠ .accepted w f := by
  cases attempts <;> simp

/-- After the acceptance there are only reads, rebindings and comparisons. -/
theorem Settled.other {capability : Capability} {requested written : Value} {frame : Frame}
    {since : List Deed} {ending : Ending PyError Value}
    (settled : Settled capability requested written frame since ending) :
    ∀ deed ∈ since, deed ≠ .sent ∧ ∀ c, deed ≠ .resolved c := by
  have refreshes {deeds : List Deed} (reads : ∀ deed ∈ deeds, OfRefresh deed) :
      ∀ deed ∈ deeds, deed ≠ .sent ∧ ∀ c, deed ≠ .resolved c :=
    fun deed member => ⟨(ofRefresh_other (reads deed member)).1,
      (ofRefresh_other (reads deed member)).2.1⟩
  cases settled with
  | unfinished reads stopped => exact refreshes reads
  | action reads kind => exact refreshes reads
  | first kind faithful matched =>
    simp only [List.forall_mem_append, List.forall_mem_singleton]
    exact ⟨refreshes faithful.reads, by simp⟩
  | interrupted faithful mismatch reads stopped =>
    simp only [List.forall_mem_append, List.forall_mem_cons]
    exact ⟨refreshes faithful.reads, by simp, refreshes reads⟩
  | second kind faithful mismatch reads faithful' verdict =>
    simp only [List.forall_mem_append, List.forall_mem_cons]
    exact ⟨refreshes faithful.reads, by simp, refreshes reads, by simp⟩

theorem allowed_of_ne {deed : Deed} (other : deed ≠ .sent) (before : List Deed) :
    SendAllowed before deed := fun sent => absurd sent other

theorem sentSparingly_reads {reads : List Deed} (ofRefresh : ∀ deed ∈ reads, OfRefresh deed) :
    SentSparingly reads := by
  refine (List.nil_append reads) ▸ guarded_append guarded_nil ?_
  exact fun deed member => allowed_of_ne (ofRefresh_other (ofRefresh deed member)).1

theorem sentSparingly_sends {before sends : List Deed} (guarded : SentSparingly before)
    (clean : ∀ deed ∈ before, deed ≠ .sent ∧ ∀ w f, deed ≠ .accepted w f)
    (attempts : Sends sends) : SentSparingly (before ++ sends) := by
  have unsent : Deed.sent ∉ before := fun member => (clean _ member).1 rfl
  have open' : ∀ w f, Deed.accepted w f ∉ before := fun w f member => (clean _ member).2 w f rfl
  have once : SentSparingly (before ++ [.sent]) :=
    guarded_snoc guarded fun _ => ⟨open', Or.inl unsent⟩
  have refused (error : PyError) : SentSparingly (before ++ [.sent] ++ [.refused error]) :=
    guarded_snoc once (allowed_of_ne (by simp) _)
  have again {error : PyError} (retryable : isRetryableCollectorError error = true) :
      SentSparingly (before ++ [.sent] ++ [.refused error] ++ [.sent]) := by
    refine guarded_snoc (refused error) fun _ => ⟨?_, Or.inr ⟨?_, error, by simp, retryable⟩⟩
    · intro w f
      simpa using open' w f
    · exact ⟨before, [.refused error], by simp, unsent, by simp⟩
  cases attempts with
  | none => rwa [List.append_nil]
  | once => exact once
  | refused error => simpa [List.append_assoc] using refused error
  | again retryable => simpa [List.append_assoc] using again retryable
  | twice retryable error' =>
    have allowed : ∀ before, SendAllowed before (.refused error') := allowed_of_ne (by simp)
    have last : SentSparingly _ := guarded_snoc (again retryable) (allowed _)
    simpa [List.append_assoc] using last

theorem sentSparingly_attempts {reads sends : List Deed} {capability : Capability}
    (ofRefresh : ∀ deed ∈ reads, OfRefresh deed) (attempts : Sends sends) :
    SentSparingly (reads ++ .resolved capability :: sends) := by
  rw [List.append_cons]
  refine sentSparingly_sends ?_ ?_ attempts
  · exact guarded_snoc (sentSparingly_reads ofRefresh) (allowed_of_ne (by simp) _)
  · simp only [List.forall_mem_append, List.forall_mem_singleton]
    refine ⟨fun deed member => ?_, by simp⟩
    have other := ofRefresh_other (ofRefresh deed member)
    exact ⟨other.1, other.2.2⟩

theorem Told.sentSparingly {requested : Value} {journal : List Deed}
    {ending : Ending PyError Value} (told : Told requested journal ending) :
    SentSparingly journal := by
  cases told with
  | unsent ofRefresh stopped => exact sentSparingly_reads ofRefresh
  | unaccepted ofRefresh attempts stopped => exact sentSparingly_attempts ofRefresh attempts
  | accepted ofRefresh attempts settled =>
    rw [← List.cons_append, ← List.append_assoc]
    refine guarded_append (sentSparingly_attempts ofRefresh attempts) ?_
    simp only [List.forall_mem_cons]
    refine ⟨allowed_of_ne (by simp), fun deed member => ?_⟩
    exact allowed_of_ne (settled.other deed member).1

theorem unaccepted_attempts {reads sends : List Deed} {capability : Capability}
    (ofRefresh : ∀ deed ∈ reads, OfRefresh deed) (attempts : Sends sends) :
    ∀ deed ∈ reads ++ .resolved capability :: sends, ∀ written frame,
      deed ≠ .accepted written frame := by
  simp only [List.forall_mem_append, List.forall_mem_cons]
  exact ⟨fun deed member => (ofRefresh_other (ofRefresh deed member)).2.2, by simp,
    fun deed member => (attempts.other deed member).2⟩

theorem Told.observed_iff {requested : Value} {journal : List Deed} {ending : Ending PyError Value}
    (told : Told requested journal ending) :
    Observed requested journal ending ↔ ∀ x ∈ comparisons journal, x.Backed requested := by
  have nothing {early : List Deed} (stopped : ∀ v, ending ≠ .returned v)
      (unaccepted : ∀ deed ∈ early, ∀ written frame, deed ≠ .accepted written frame) :
      Observed requested early ending ↔ ∀ x ∈ comparisons early, x.Backed requested := by
    have none : comparisons early = [] := by
      simpa [comparisons] using comparisons_append unaccepted []
    rw [none]
    exact ⟨fun _ x member => (nomatch member), fun _ v _ returned => absurd returned (stopped v)⟩
  cases told with
  | unsent ofRefresh stopped =>
    exact nothing stopped fun deed member => (ofRefresh_other (ofRefresh deed member)).2.2
  | unaccepted ofRefresh attempts stopped =>
    exact nothing stopped (unaccepted_attempts ofRefresh attempts)
  | @accepted reads sends since capability written frame _ ofRefresh attempts settled =>
    have tail : comparisons (reads ++ .resolved capability ::
        (sends ++ .accepted written frame :: since)) = comparisonsFrom written frame [] since := by
      rw [← List.cons_append, ← List.append_assoc,
        comparisons_append (unaccepted_attempts ofRefresh attempts)]
      rfl
    rw [Observed, tail, ← settled.observed_iff]
    constructor
    · intro observed v returned kind
      exact observed v capability returned (by simp) kind
    · intro observed v c returned member kind
      -- The call resolves one capability only.
      have same : c = capability := by
        rcases List.mem_append.mp member with early | late
        · exact absurd rfl ((ofRefresh_other (ofRefresh _ early)).2.1 c)
        · rcases List.mem_cons.mp late with eq | later
          · exact Deed.resolved.inj eq
          · rcases List.mem_append.mp later with inSends | after
            · exact absurd rfl ((attempts.other _ inSends).1 c)
            · rcases List.mem_cons.mp after with eq | inSince
              · cases eq
              · exact absurd rfl ((settled.other _ inSince).2 c)
      exact observed v returned (same ▸ kind)

section
variable {ω : Type} (host : Host ω)

/-- A returned write was read back from the device, and writes are sent sparingly, exactly when
    no comparison is decided by a value the hub had before the accepted write: at each one the
    last read to mention the key reported it, or the value carried from before does not match. -/
theorem write_confirmed_iff_comparisons_backed (key : String) (value : Value) (hub : State)
    (start : ω) :
    (Observed value (writeCapability host key value ⟨hub, start, []⟩).1.journal
        (writeCapability host key value ⟨hub, start, []⟩).2 ∧
      SentSparingly (writeCapability host key value ⟨hub, start, []⟩).1.journal) ↔
    ∀ x ∈ comparisons (writeCapability host key value ⟨hub, start, []⟩).1.journal,
      x.Backed value := by
  have told := writeCapability_told host key value hub start
  exact ⟨fun both => told.observed_iff.mp both.1,
    fun backed => ⟨told.observed_iff.mpr backed, told.sentSparingly⟩⟩

end

def chargeCurrent : Capability := { key := "max_charge_current", valueKind := .other "u16" }

def chargingInverter : Inverter where
  driverKey := "modbus_smg"
  modelName := "SMG 6200"
  serialNumber := "92632511100118"
  variantKey := "default"
  details := Dict.empty
  capabilities := [chargeCurrent]

/-- A device that already has the requested current, accepts the write, and answers no read
    after the first one. The host counts the reads. -/
def silentAfterWrite : Host Nat where
  connected _ := true
  tryConnectForSessionLifecycle _ n := ⟨n, .returned true⟩
  tryConnect n := ⟨n, .returned true⟩
  resetConnection n := ⟨n, .returned ()⟩
  linkEnsureConnected n := ⟨n, .returned ()⟩
  readCollectorRuntimeValues _ n := ⟨n, .returned Dict.empty⟩
  collectorRuntimeReadFresh _ := true
  combinedCollectorRuntimeValues _ := Dict.empty
  detect _ n := ⟨n, .returned (.error "no_supported_driver_matched")⟩
  backoffActive _ := false
  lastRecoveryReason _ := ""
  readValues _ n :=
    if n = 0 then ⟨1, .returned (.legacy (Dict.empty.set "max_charge_current" (.int 30)))⟩
    else ⟨n + 1, .raised ⟨.runtimeError, "exception_code:6"⟩⟩
  writeCapability _ _ value n := ⟨n, .returned value⟩
  classifyWriteError _ error _ := error
  blockedReasons _ _ := none
  monotonic n := n
  repr _ := ""
  hasSnapshotObserver := false
  sharedCatalogIdentity _ _ := false
  collectorPn _ := ""
  collectorLayer _ _ values := values
  closingLayer _ _ values := values
  publishedLayer _ _ values := values
  measurementDiagnostics _ _ := Dict.empty
  inverterOverlay _ inverter := inverter
  canonicalKeys _ := []
  projectCanonical frame _ := frame
  project_native _ _ _ _ found := found

def boundHub : State where
  inverter := some chargingInverter
  needsLiveDetection := false
  refreshAttempts := 0
  measurementIdentity := "modbus_smg|SMG 6200|92632511100118"
  measurementValues := Dict.empty
  telemetry := Frame.empty
  ownedKeys := []
  staleOwnedKeys := []
  diagnostics := Dict.empty
  diagnosticKeys := []
  staleDiagnosticKeys := []
  payloadError := ""
  lastSnapshot := ⟨true, Dict.empty, Frame.empty, ""⟩

def readsAtConfirmation (journal : List Deed) : Option Nat :=
  (comparisons journal).getLast?.map fun x => x.since.length

def resolvedCapabilities (journal : List Deed) : List Capability :=
  journal.filterMap fun deed =>
    match deed with
    | .resolved capability => some capability
    | _ => none

theorem silent_device_confirmed :
    ¬ Observed (.int 30)
      (writeCapability silentAfterWrite "max_charge_current" (.int 30) ⟨boundHub, 0, []⟩).1.journal
      (writeCapability silentAfterWrite "max_charge_current" (.int 30) ⟨boundHub, 0, []⟩).2 := by
  intro observed
  have returned :
      (writeCapability silentAfterWrite "max_charge_current" (.int 30) ⟨boundHub, 0, []⟩).2 =
        .returned (.int 30) := by decide +kernel
  have resolved : chargeCurrent ∈ resolvedCapabilities
      (writeCapability silentAfterWrite "max_charge_current" (.int 30)
        ⟨boundHub, 0, []⟩).1.journal := by decide +kernel
  have unread : readsAtConfirmation
      (writeCapability silentAfterWrite "max_charge_current" (.int 30)
        ⟨boundHub, 0, []⟩).1.journal = some 0 := by decide +kernel
  obtain ⟨deed, member, eq⟩ := List.mem_filterMap.mp resolved
  have isResolved : deed = .resolved chargeCurrent := by
    cases deed <;> simp_all
  obtain ⟨x, last, inverter, result, v, read, _⟩ :=
    observed _ chargeCurrent returned (isResolved ▸ member) (by decide)
  rw [readsAtConfirmation, last, Option.map_some, Option.some.injEq, List.length_eq_zero_iff]
    at unread
  rw [unread] at read
  cases read

end Hub
