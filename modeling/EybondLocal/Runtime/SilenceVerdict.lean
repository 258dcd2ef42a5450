import EybondLocal.Runtime.DriverDetection

/-!
What the silence verdict is worth. It is computed from the proxies of the drivers whose identity
did not read as zeros, so it is right about those. An answer to a signature request, and an
answer from a target tried before the one that read as zeros, are not in it.
-/
namespace DriverDetection
open HookRun HookRun.Run

variable {Inverter Evidence α : Type}

def zeroed (probe : List Attempt) : Bool := probe.any Attempt.allZero

def answered (probe : List Attempt) : Bool := probe.any Attempt.answered

def World.spoken (w : World) : Bool := w.probes.any fun probe => !zeroed probe && answered probe

/-- Nothing answered where the verdict does not look: not a signature request, and no other
    target of a probe that ended in zeros. -/
def World.Overheard (w : World) : Prop :=
  (∃ attempt ∈ w.signatures, attempt.answered = true) ∨
    ∃ probe ∈ w.probes, zeroed probe = true ∧
      ∃ attempt ∈ probe, attempt.allZero = false ∧ attempt.answered = true

def SilenceSound (verdict : SweepNoMatch Evidence) (w : World) : Prop :=
  verdict.silent = true →
    (∀ attempt ∈ w.signatures, attempt.answered = false) ∧
      ∀ probe ∈ w.probes, ∀ attempt ∈ probe, attempt.allZero = false → attempt.answered = false

theorem sawResponse_watched (t : Tracker) (exchange : Exchange) :
    (t.watched exchange).sawResponse = (t.sawResponse || exchange.answered) := by
  cases exchange.answered.eq_false_or_eq_true with
  | inl yes => simp [Tracker.sawResponse, Tracker.watched, yes]
  | inr no => simp [Tracker.sawResponse, Tracker.watched, no]

theorem sawResponse_foldl (exchanges : List Exchange) (t : Tracker) :
    (exchanges.foldl Tracker.watched t).sawResponse =
      (t.sawResponse || exchanges.any Exchange.answered) := by
  induction exchanges generalizing t with
  | nil => simp
  | cons exchange later ih =>
    rw [List.foldl_cons, ih, sawResponse_watched, List.any_cons, Bool.or_assoc]

structure Probing (before : List (List Attempt)) (probe : List Attempt) (w : World) : Prop where
  probes : w.probes = before ++ [probe]
  tracked : w.tracked.sawResponse = answered probe

def Ended {β : Type} (before : List (List Attempt)) (w : World)
    (e : Ending (Failure Evidence) β) : Prop :=
  ∃ probe, Probing before probe w ∧ (zeroed probe = true ↔ e = .raised .identityNoData)

variable {before : List (List Attempt)} {probe : List Attempt} {w : World}

theorem ended_of_clear {β : Type} {e : Ending (Failure Evidence) β} (now : Probing before probe w)
    (clear : zeroed probe = false) (other : e ≠ .raised .identityNoData) : Ended before w e :=
  ⟨probe, now, by simp [clear, other]⟩

theorem returned_not_zeros {β : Type} (value : β) :
    (.returned value : Ending (Failure Evidence) β) ≠ .raised .identityNoData := by
  intro same
  cases same

theorem probing_tracking (w : World) : Probing w.probes [] w.tracking := ⟨rfl, rfl⟩

theorem probing_probed (now : Probing before probe w) (attempt : Attempt) :
    Probing before (probe ++ [attempt]) (w.probed attempt) := by
  constructor
  · simp [World.probed, now.probes, List.getLastD_eq_getLast?]
  · rw [World.probed, sawResponse_foldl, now.tracked, answered, answered, List.any_append]
    simp [Attempt.answered]

theorem zeroed_append (attempt : Attempt) (clear : zeroed probe = false) :
    zeroed (probe ++ [attempt]) = attempt.allZero := by
  rw [zeroed] at clear
  simp [zeroed, List.any_append, clear]

theorem probeAttempt_ended (driver : Driver Inverter Evidence) (target : ProbeTarget)
    (now : Probing before probe w) (clear : zeroed probe = false) :
    Ends (probeAttempt driver target) w (Ended before) := by
  simp only [Ends, probeAttempt]
  obtain ⟨exchanges, ending⟩ := driver.probe w target
  have reached := probing_probed now ⟨target, exchanges, ending.isAllZero⟩
  have zeros := zeroed_append ⟨target, exchanges, ending.isAllZero⟩ clear
  cases ending with
  | matched inverter => exact ended_of_clear reached zeros (returned_not_zeros _)
  | unmatched evidence => exact ended_of_clear reached zeros (returned_not_zeros _)
  | noMatch evidence => exact ended_of_clear reached zeros (by simp)
  | allZero => exact ⟨_, reached, iff_of_true zeros rfl⟩
  | failed message => exact ended_of_clear reached zeros (by simp)
  | cancelled timeUp => exact ended_of_clear ⟨reached.probes, reached.tracked⟩ zeros (by simp)

theorem Ended.clear {β : Type} {e : Ending (Failure Evidence) β} (ended : Ended before w e)
    (other : e ≠ .raised .identityNoData) :
    ∃ probe, Probing before probe w ∧ zeroed probe = false := by
  obtain ⟨probe, now, zeros⟩ := ended
  refine ⟨probe, now, ?_⟩
  rw [Bool.eq_false_iff]
  exact fun zero => other (zeros.mp zero)

theorem Ended.transfer {β γ : Type} {e : Ending (Failure Evidence) β}
    {e' : Ending (Failure Evidence) γ} (ended : Ended before w e)
    (same : e = .raised .identityNoData ↔ e' = .raised .identityNoData) : Ended before w e' := by
  obtain ⟨probe, now, zeros⟩ := ended
  exact ⟨probe, now, zeros.trans same⟩

/-- Over the targets: the walk goes on only while no zeros have been read. -/
theorem probeDriverTargets_ended (driver : Driver Inverter Evidence) (targets : List ProbeTarget)
    (typedNoMatch : Option Evidence) (now : Probing before probe w) (clear : zeroed probe = false) :
    Ends (probeDriverTargets driver targets typedNoMatch) w (Ended before) := by
  induction targets generalizing typedNoMatch probe w with
  | nil =>
    cases typedNoMatch with
    | none => exact ended_of_clear now clear nofun
    | some evidence => exact ended_of_clear now clear nofun
  | cons target later ih =>
    rw [probeDriverTargets, ends_bind, ends_recover]
    refine ends_mono ?_ (probeAttempt_ended driver target now clear)
    intro w' e ended
    have goesOn : ∀ evidence, e ≠ .raised .identityNoData →
        Ends (probeDriverTargets driver later evidence) w' (Ended before) := by
      intro evidence other
      obtain ⟨probe', now', clear'⟩ := ended.clear other
      exact ih evidence now' clear'
    cases e with
    | returned attempt =>
      obtain ⟨found, evidence⟩ := attempt
      cases found with
      | some inverter => exact ended.transfer (by simp)
      | none => exact goesOn _ nofun
    | raised failure =>
      cases failure with
      | identityNoData => exact ended.transfer (by simp)
      | probeNoMatch evidence => exact goesOn _ (by simp)
      | timeout => exact goesOn _ (by simp)
      | sweepNoMatch verdict => exact goesOn _ (by simp)
      | error message => exact goesOn _ (by simp)
    | cancelled => exact ended.transfer (by simp)

theorem ends_waitFor {body : Detection Evidence α}
    {post : World → Ending (Failure Evidence) α → Prop} :
    Ends (waitFor body) w post ↔
      Ends body w fun w' e =>
        match e with
        | .cancelled => post w' (if w'.timeUp then .raised .timeout else .cancelled)
        | e => post w' e := by
  simp only [Ends, waitFor]
  obtain ⟨w', e⟩ := body w
  cases e <;> rfl

theorem waitFor_ended {body : Detection Evidence α} (inner : Ends body w (Ended before)) :
    Ends (waitFor body) w (Ended before) := by
  rw [ends_waitFor]
  refine ends_mono ?_ inner
  intro w' e ended
  cases e with
  | returned value => exact ended
  | raised failure => exact ended
  | cancelled => refine ended.transfer ?_; cases w'.timeUp <;> simp

def Read {β : Type} (w w' : World) (e : Ending (Failure Evidence) β) : Prop :=
  w'.probes = w.probes ∧ w'.tracked = w.tracked ∧
    ∀ failure, e = .raised failure → ∃ message, failure = .error message

theorem read_returned {β : Type} {w' : World} (value : β) (probes : w'.probes = w.probes)
    (tracked : w'.tracked = w.tracked) :
    Read w w' (.returned value : Ending (Failure Evidence) β) :=
  ⟨probes, tracked, fun _ same => by cases same⟩

theorem read_cancelled {β : Type} {w' : World} (probes : w'.probes = w.probes)
    (tracked : w'.tracked = w.tracked) : Read w w' (.cancelled : Ending (Failure Evidence) β) :=
  ⟨probes, tracked, fun _ same => by cases same⟩

theorem remaining_read (deadline : Deadline) :
    Ends (deadline.remaining : Detection Evidence _) w (Read w) := by
  rw [Deadline.remaining]
  cases deadline.remainingSeconds with
  | none => exact read_returned _ rfl rfl
  | some clock =>
    cases reading : clock w with
    | ok value =>
      simp only [Ends, reading]
      exact read_returned _ rfl rfl
    | error message =>
      simp only [Ends, reading]
      exact ⟨rfl, rfl, fun failure eq => ⟨message, by cases eq; rfl⟩⟩

theorem read_pure (value : α) : Ends (pure value : Detection Evidence α) w (Read w) :=
  read_returned value rfl rfl

theorem read_bind {m : Detection Evidence α} {body : α → Detection Evidence β}
    (first : Ends m w (Read w)) (rest : ∀ w' value, Ends (body value) w' (Read w')) :
    Ends (m >>= body) w (Read w) := by
  refine ends_bind_of first ?_ ?_ ?_
  · intro w' value read
    refine ends_mono ?_ (rest w' value)
    intro w'' e moved
    exact ⟨moved.1.trans read.1, moved.2.1.trans read.2.1, moved.2.2⟩
  · intro w' error read
    exact ⟨read.1, read.2.1, fun failure eq => read.2.2 failure (by cases eq; rfl)⟩
  · intro w' read
    exact read_cancelled read.1 read.2.1

theorem expired_read (deadline : Deadline) :
    Ends (deadline.expired : Detection Evidence _) w (Read w) :=
  read_bind (remaining_read deadline) fun _ _ => read_pure _

theorem timeout_read (deadline : Deadline) (configured : Option Rat) :
    Ends (deadline.timeout configured : Detection Evidence _) w (Read w) := by
  refine read_bind (remaining_read deadline) ?_
  intro w' value
  cases value with
  | none => exact read_pure _
  | some remaining => exact read_pure _

theorem probeDriverWithBudget_ended (deadline : Deadline) (driver : Driver Inverter Evidence)
    (targets : List ProbeTarget) (now : Probing before [] w) :
    Ends (probeDriverWithBudget deadline driver targets) w (Ended before) := by
  rw [probeDriverWithBudget]
  refine ends_bind_of (timeout_read deadline driver.probeTimeout) ?_ ?_ ?_
  · intro w' timeout read
    have now' : Probing before [] w' := ⟨read.1 ▸ now.probes, read.2.1 ▸ now.tracked⟩
    have targeted := probeDriverTargets_ended driver targets none now' rfl
    split
    · exact targeted
    · exact waitFor_ended targeted
  · intro w' failure read
    obtain ⟨message, rfl⟩ := read.2.2 failure rfl
    exact ended_of_clear ⟨read.1 ▸ now.probes, read.2.1 ▸ now.tracked⟩ rfl (by simp)
  · intro w' read
    exact ended_of_clear ⟨read.1 ▸ now.probes, read.2.1 ▸ now.tracked⟩ rfl (by simp)

theorem spoken_probing (now : Probing before probe w) :
    w.spoken = (before.any (fun probe => !zeroed probe && answered probe) ||
      (!zeroed probe && answered probe)) := by
  simp [World.spoken, now.probes]

def Heard {β : Type} (w w' : World) : Ending (Failure Evidence) (Except (Failure Evidence) β) → Prop
  | .returned (.error .identityNoData) => w'.spoken = w.spoken
  | .returned _ => w'.spoken = (w.spoken || w'.tracked.sawResponse)
  | .raised _ => False
  | .cancelled => True

theorem caught_heard {body : Detection Evidence α}
    (inner : Ends body w.tracking (Ended w.probes)) :
    Ends body.caught w.tracking (Heard w) := by
  rw [ends_caught]
  refine ends_mono ?_ inner
  intro w' e ended
  have counted : e ≠ .raised .identityNoData →
      w'.spoken = (w.spoken || w'.tracked.sawResponse) := by
    intro other
    obtain ⟨probe, now, clear⟩ := ended.clear other
    rw [spoken_probing now, now.tracked, clear]
    rfl
  cases e with
  | returned value => exact counted nofun
  | raised failure =>
    cases failure with
    | identityNoData =>
      obtain ⟨probe, now, zeros⟩ := ended
      change w'.spoken = w.spoken
      rw [spoken_probing now, zeros.mpr rfl, Bool.not_true, Bool.false_and, Bool.or_false]
      rfl
    | timeout => exact counted (by simp)
    | probeNoMatch evidence => exact counted (by simp)
    | sweepNoMatch verdict => exact counted (by simp)
    | error message => exact counted (by simp)
  | cancelled => trivial

def Judged {β : Type} (w : World) (e : Ending (Failure Evidence) β) : Prop :=
  ∀ verdict, e = .raised (.sweepNoMatch verdict) → verdict.silent = !w.spoken

theorem judged_read {β γ : Type} {w w' : World} {failure : Failure Evidence}
    (read : Read w w' (.raised failure : Ending (Failure Evidence) β)) :
    Judged w' (.raised failure : Ending (Failure Evidence) γ) := by
  obtain ⟨message, rfl⟩ := read.2.2 failure rfl
  exact fun verdict eq => by cases eq

theorem spoken_read {β : Type} {w w' : World} {e : Ending (Failure Evidence) β}
    (read : Read w w' e) : w'.spoken = w.spoken := by
  rw [World.spoken, read.1]
  rfl

theorem detectFirst_judged (deadline : Deadline) (pending : List (Targeted Inverter Evidence))
    (s : Sweep Evidence) (sawAnyResponse : Bool) (saw : sawAnyResponse = w.spoken) :
    Ends (detectFirst deadline pending s sawAnyResponse) w Judged := by
  induction pending generalizing s sawAnyResponse w with
  | nil =>
    intro verdict eq
    cases eq
    exact congrArg not saw
  | cons entry later ih =>
    obtain ⟨driver, targets⟩ := entry
    rw [detectFirst]
    refine ends_bind_of (expired_read deadline) ?_ (fun _ _ read => judged_read read)
      (fun _ _ => nofun)
    intro w₁ expired read
    rw [← spoken_read read] at saw
    split
    · intro verdict eq
      cases eq
      exact congrArg not saw
    · rw [ends_bind, track, ends_call, Ending.next_returned]
      have probed := probeDriverWithBudget_ended deadline driver targets (probing_tracking w₁)
      refine ends_bind_of (caught_heard probed) ?_ (fun _ _ heard => heard.elim) (fun _ _ => nofun)
      intro w₂ answer heard
      rw [ends_bind, ends_observe, Ending.next_returned]
      cases answer with
      | ok found =>
        cases found with
        | some inverter => exact nofun
        | none => exact ih _ _ (by rw [saw]; exact heard.symm)
      | error failure =>
        cases failure with
        | identityNoData => exact ih _ _ (saw.trans heard.symm)
        | timeout => exact ih _ _ (by rw [saw]; exact heard.symm)
        | probeNoMatch evidence => exact ih _ _ (by rw [saw]; exact heard.symm)
        | sweepNoMatch verdict => exact ih _ _ (by rw [saw]; exact heard.symm)
        | error message => exact ih _ _ (by rw [saw]; exact heard.symm)

def Sweep.loggedResponse (s : Sweep Evidence) : Bool :=
  s.probeLog.any fun record => record.sawResponse == some true

theorem loggedResponse_log (s : Sweep Evidence) (driver : Driver Inverter Evidence)
    (tracked : Tracker) (outcome : String) (sawResponse : Bool) (diagnostic : Option Evidence) :
    (s.log driver tracked outcome sawResponse diagnostic).loggedResponse =
      (s.loggedResponse || sawResponse) := by
  simp [Sweep.log, Sweep.loggedResponse]

theorem loggedResponse_failed (s : Sweep Evidence) (driver : Driver Inverter Evidence)
    (tracked : Tracker) (failure : Failure Evidence) :
    (s.failed driver tracked failure).loggedResponse = (s.loggedResponse ||
      match failure with
      | .identityNoData => false
      | _ => tracked.sawResponse) := by
  cases failure with
  | timeout => exact loggedResponse_log _ _ _ _ _ _
  | identityNoData => exact loggedResponse_log _ _ _ _ _ _
  | probeNoMatch evidence => exact loggedResponse_log _ _ _ _ _ _
  | sweepNoMatch verdict => exact loggedResponse_log _ _ _ _ _ _
  | error message => exact loggedResponse_log _ _ _ _ _ _

theorem detectAll_judged (deadline : Deadline) (pending : List (Targeted Inverter Evidence))
    (s : Sweep Evidence) (candidates : List (String × Inverter))
    (saw : candidates = [] → s.loggedResponse = w.spoken) :
    Ends (detectAll deadline pending s candidates) w Judged := by
  induction pending generalizing s candidates w with
  | nil =>
    rw [detectAll]
    split
    · rename_i empty
      intro verdict eq
      cases eq
      exact congrArg not (saw (List.isEmpty_iff.mp empty))
    · exact nofun
  | cons entry later ih =>
    obtain ⟨driver, targets⟩ := entry
    rw [detectAll]
    refine ends_bind_of (remaining_read deadline) ?_ (fun _ _ read => judged_read read)
      (fun _ _ => nofun)
    intro w₁ remaining read
    rw [← spoken_read read] at saw
    split
    · exact nofun
    · rw [ends_bind, track, ends_call, Ending.next_returned]
      have budgeted := probeDriverWithBudget_ended deadline driver targets (probing_tracking w₁)
      have probed : Ends (if remaining.isSome then
          waitFor (probeDriverWithBudget deadline driver targets)
          else probeDriverWithBudget deadline driver targets) w₁.tracking (Ended w₁.probes) := by
        split
        · exact waitFor_ended budgeted
        · exact budgeted
      refine ends_bind_of (caught_heard probed) ?_ (fun _ _ heard => heard.elim) (fun _ _ => nofun)
      intro w₂ answer heard
      rw [ends_bind, ends_observe, Ending.next_returned]
      cases answer with
      | ok found =>
        cases found with
        | some inverter => exact ih _ _ (fun none => absurd none (by simp))
        | none =>
          refine ih _ _ fun none => ?_
          rw [loggedResponse_log, saw none]
          exact heard.symm
      | error failure =>
        refine ih _ _ fun none => ?_
        rw [loggedResponse_failed, saw none]
        cases failure with
        | identityNoData => exact (Bool.or_false _).trans heard.symm
        | timeout => exact heard.symm
        | probeNoMatch evidence => exact heard.symm
        | sweepNoMatch verdict => exact heard.symm
        | error message => exact heard.symm

def Unprobed (w w' : World) : Prop := w'.probes = w.probes ∧ w'.tracked = w.tracked

instance : IsPreorder World Unprobed where
  refl _ := ⟨rfl, rfl⟩
  trans _ _ _ first second := ⟨second.1.trans first.1, second.2.trans first.2⟩

theorem unprobed_of_read {m : Detection Evidence α} (read : ∀ w, Ends m w (Read w)) :
    Within Unprobed m := fun w => ⟨(read w).1, (read w).2.1⟩

theorem unprobed_waitFor {body : Detection Evidence α} (inner : Within Unprobed body) :
    Within Unprobed (waitFor body) := by
  intro w
  have moved := inner w
  simp only [waitFor]
  cases ran : body w with
  | mk w' e =>
    rw [ran] at moved
    cases e <;> exact moved

theorem unprobed_signatureAttempt (driver : Driver Inverter Evidence) (target : ProbeTarget) :
    Within Unprobed (signatureAttempt driver target : Detection Evidence Bool) := by
  intro w
  rw [signatureAttempt]
  cases (driver.probeSignature w target).2 <;> exact ⟨rfl, rfl⟩

theorem unprobed_signatureTargets (driver : Driver Inverter Evidence)
    (targets : List ProbeTarget) : Within Unprobed (probeSignatureTargets driver targets) := by
  induction targets with
  | nil => exact within_pure false
  | cons target later ih =>
    rw [probeSignatureTargets]
    refine within_bind (within_recover (unprobed_signatureAttempt driver target)
      fun _ => within_pure false) ?_
    intro matched
    cases matched with
    | true => exact within_pure true
    | false => exact ih

theorem unprobed_signature (deadline : Deadline) (driver : Driver Inverter Evidence)
    (targets : List ProbeTarget) :
    Within Unprobed (probeDriverSignature deadline driver targets) := by
  refine within_bind (unprobed_of_read fun _ => timeout_read deadline _) ?_
  intro timeout
  split
  · exact within_pure false
  · refine within_recover (unprobed_waitFor (unprobed_signatureTargets driver targets)) ?_
    intro failure
    split
    · exact within_pure false
    · exact within_raise _

theorem ordered_read (deadline : Deadline) (pending unsigned : List (Targeted Inverter Evidence)) :
    Ends (orderedDriverTargetsBySignature deadline pending unsigned) w (Read w) := by
  induction pending generalizing unsigned w with
  | nil => exact read_returned _ rfl rfl
  | cons entry later ih =>
    obtain ⟨driver, targets⟩ := entry
    rw [orderedDriverTargetsBySignature]
    split
    · exact ih _
    · refine read_bind (expired_read deadline) ?_
      intro w₁ expired
      split
      · exact read_pure _
      · refine read_bind ?_ ?_
        · have moved := unprobed_signature deadline driver targets w₁
          rw [ends_recover]
          simp only [Ends]
          cases (probeDriverSignature deadline driver targets w₁).2 with
          | returned matched => exact read_returned _ moved.1 moved.2
          | raised failure => exact read_returned _ moved.1 moved.2
          | cancelled => exact read_cancelled moved.1 moved.2
        · intro w₂ matched
          split
          · exact read_pure _
          · exact ih _

theorem orderedDriverTargets_read (request : Request Inverter Evidence) :
    Ends (orderedDriverTargets request) w (Read w) := by
  rw [orderedDriverTargets]
  split
  · exact read_pure _
  · exact ordered_read request.deadline _ []

theorem detectInverter_judged (request : Request Inverter Evidence) :
    Ends (detectInverter request) .start Judged := by
  refine ends_bind_of (orderedDriverTargets_read request) ?_ (fun _ _ read => judged_read read)
    (fun _ _ => nofun)
  intro w targets read
  exact detectFirst_judged _ _ _ _ (spoken_read read).symm

theorem detectInverterCandidates_judged (request : Request Inverter Evidence) :
    Ends (detectInverterCandidates request) .start Judged := by
  refine ends_bind_of (orderedDriverTargets_read request) ?_ (fun _ _ read => judged_read read)
    (fun _ _ => nofun)
  intro w targets read
  exact detectAll_judged _ _ _ _ fun _ => (spoken_read read).symm

/-- A verdict computed from the spoken probes is right unless an answer came where it does not
    look, and then still right if a probe spoke. -/
theorem silenceSound_iff {verdict : SweepNoMatch Evidence} (judged : verdict.silent = !w.spoken) :
    SilenceSound verdict w ↔ w.spoken = true ∨ ¬ w.Overheard := by
  rw [SilenceSound, judged]
  cases spoke : w.spoken with
  | true => simp
  | false =>
    simp only [Bool.not_false, forall_const, Bool.false_eq_true, false_or]
    constructor
    · rintro ⟨signatures, probes⟩
        (⟨attempt, member, yes⟩ | ⟨probe, inside, -, attempt, member, plain, yes⟩)
      · rw [signatures attempt member] at yes
        cases yes
      · rw [probes probe inside attempt member plain] at yes
        cases yes
    · intro quiet
      constructor
      · intro attempt member
        rw [← Bool.not_eq_true]
        exact fun yes => quiet (.inl ⟨attempt, member, yes⟩)
      · intro probe inside attempt member plain
        rw [← Bool.not_eq_true]
        intro yes
        cases zeros : zeroed probe with
        | true => exact quiet (.inr ⟨probe, inside, zeros, attempt, member, plain, yes⟩)
        | false =>
          have speaks : w.spoken = true :=
            List.any_eq_true.mpr ⟨probe, inside, by
              simp only [zeros, Bool.not_false, Bool.true_and]
              exact List.any_eq_true.mpr ⟨attempt, member, yes⟩⟩
          rw [spoke] at speaks
          cases speaks

/-- Whenever a sweep ends with a verdict, the verdict is right about silence exactly when a probe
    without zeros was answered, or no answer came to a signature request or to another target of
    a probe that read zeros. -/
theorem silence_verdict_sound_iff (request : Request Inverter Evidence)
    (verdict : SweepNoMatch Evidence) :
    ((detectInverter request .start).2 = .raised (.sweepNoMatch verdict) →
      (SilenceSound verdict (detectInverter request .start).1 ↔
        (detectInverter request .start).1.spoken = true ∨
          ¬ (detectInverter request .start).1.Overheard)) ∧
    ((detectInverterCandidates request .start).2 = .raised (.sweepNoMatch verdict) →
      (SilenceSound verdict (detectInverterCandidates request .start).1 ↔
        (detectInverterCandidates request .start).1.spoken = true ∨
          ¬ (detectInverterCandidates request .start).1.Overheard)) :=
  ⟨fun ended => silenceSound_iff (detectInverter_judged request verdict ended),
    fun ended => silenceSound_iff (detectInverterCandidates_judged request verdict ended)⟩

def talking : List Exchange := [⟨some (.eybond 1 1), some (.payload [0x28])⟩]

def signedDriver : Driver String String :=
  ⟨"pi30", some 4, none, [⟨1, 1, 1⟩], fun _ _ => (talking, .answered false),
    fun _ _ => ([⟨some (.eybond 1 1), none⟩], .unmatched none)⟩

def zeroDriver : Driver String String :=
  ⟨"smg", none, none, [⟨1, 1, 1⟩, ⟨2, 1, 1⟩], fun _ _ => ([], .failed), fun _ target =>
    if target.devcode = 1 then (talking, .unmatched none) else (talking, .allZero)⟩

def requestOf (driver : Driver String String) : Request String String :=
  ⟨[driver], [], [], [], ⟨none⟩⟩

instance (verdict : SweepNoMatch Evidence) (w : World) : Decidable (SilenceSound verdict w) :=
  inferInstanceAs (Decidable (_ → _ ∧ _))

def signedVerdict : SweepNoMatch String :=
  ⟨"no_supported_driver_matched", true,
    [⟨"pi30", "no_match", some false, [(.eybond 1 1, ⟨1, 0⟩)], none⟩]⟩

def zeroVerdict : SweepNoMatch String :=
  ⟨"inverter_link_down", true,
    [⟨"smg", "inverter_link_down", some false, [(.eybond 1 1, ⟨2, 2⟩)], none⟩]⟩

/-- Both sweeps call the link silent after an answer to a signature request, and after an answer
    from a target that did not read as zeros. -/
theorem silence_verdict_unsound :
    (∀ request ∈ [requestOf signedDriver, requestOf zeroDriver], ∃ verdict,
      (detectInverter request .start).2 = .raised (.sweepNoMatch verdict) ∧
        ¬ SilenceSound verdict (detectInverter request .start).1) ∧
    (∀ request ∈ [requestOf signedDriver, requestOf zeroDriver], ∃ verdict,
      (detectInverterCandidates request .start).2 = .raised (.sweepNoMatch verdict) ∧
        ¬ SilenceSound verdict (detectInverterCandidates request .start).1) := by
  simp only [List.forall_mem_cons, List.not_mem_nil, false_imp_iff, implies_true, and_true]
  exact ⟨⟨⟨signedVerdict, by decide +kernel, by decide +kernel⟩,
      ⟨zeroVerdict, by decide +kernel, by decide +kernel⟩⟩,
    ⟨signedVerdict, by decide +kernel, by decide +kernel⟩,
      ⟨zeroVerdict, by decide +kernel, by decide +kernel⟩⟩

theorem silence_verdict_sound_iff_zeros :
    (SilenceSound zeroVerdict (detectInverter (requestOf zeroDriver) .start).1 ↔
      (detectInverter (requestOf zeroDriver) .start).1.spoken = true ∨
        ¬ (detectInverter (requestOf zeroDriver) .start).1.Overheard) ∧
    (SilenceSound zeroVerdict (detectInverterCandidates (requestOf zeroDriver) .start).1 ↔
      (detectInverterCandidates (requestOf zeroDriver) .start).1.spoken = true ∨
        ¬ (detectInverterCandidates (requestOf zeroDriver) .start).1.Overheard) :=
  ⟨(silence_verdict_sound_iff (requestOf zeroDriver) zeroVerdict).1 (by decide +kernel),
    (silence_verdict_sound_iff (requestOf zeroDriver) zeroVerdict).2 (by decide +kernel)⟩

end DriverDetection
