import EybondLocal.Hub.Refresh

/-!
What a refresh can do to the driver's points: it appends reads and rebindings to the history,
and the frame it leaves is the replay of these over the frame it found.
-/
namespace Hub
open OrderedDict PythonObject StripText HookRun HookRun.Run

def replay (frame : Frame) : Deed → Frame
  | .read inverter result =>
    match foldDriverTelemetry frame inverter.driverKey result with
    | .ok folded => folded
    | .error _ => frame
  | .rebound => Frame.empty
  | _ => frame

def OfRefresh : Deed → Prop
  | .read inverter _ => inverter.driverKey ≠ "" ∧ strip inverter.driverKey = inverter.driverKey
  | .rebound => True
  | _ => False

def Refreshed {ω : Type} (w w' : World ω) : Prop :=
  ∃ since, w'.journal = w.journal ++ since ∧ (∀ deed ∈ since, OfRefresh deed) ∧
    w'.hub.telemetry = since.foldl replay w.hub.telemetry

theorem driverKey_normalized {previous frame : Frame} {driverKey : String}
    {result : DriverReadResult} (folded : foldDriverTelemetry previous driverKey result = .ok frame) :
    driverKey ≠ "" ∧ strip driverKey = driverKey := by
  unfold foldDriverTelemetry at folded
  split at folded
  · cases folded
  · rename_i normalized
    simpa only [not_or, ne_eq, not_not] using normalized

def mentionOf (frame : Frame) (key : String) : Deed → Option (Option Value)
  | .read inverter result => result.mention (decide (frame.driverKey = inverter.driverKey)) key
  | .rebound => some none
  | _ => none

def lastMention (key : String) : Frame → List Deed → Option (Option Value)
  | _, [] => none
  | frame, deed :: rest =>
    (lastMention key (replay frame deed) rest).or (mentionOf frame key deed)

theorem replay_value? {frame : Frame} {deed : Deed} (ofRefresh : OfRefresh deed) (key : String) :
    (replay frame deed).value? key = (mentionOf frame key deed).getD (frame.value? key) := by
  cases deed with
  | read inverter result =>
    cases folded : foldDriverTelemetry frame inverter.driverKey result with
    | ok next =>
      simp only [replay, folded, mentionOf]
      exact foldDriverTelemetry_value? folded key
    | error error =>
      unfold foldDriverTelemetry at folded
      split at folded
      · rename_i unusable
        exact absurd unusable (by simpa [OfRefresh] using ofRefresh)
      · cases folded
  | rebound => rfl
  | _ => exact ofRefresh.elim

theorem replayed_value? {since : List Deed} (reads : ∀ deed ∈ since, OfRefresh deed) (frame : Frame)
    (key : String) : (since.foldl replay frame).value? key =
      (lastMention key frame since).getD (frame.value? key) := by
  induction since generalizing frame with
  | nil => rfl
  | cons deed rest ih =>
    rw [List.foldl_cons, ih (fun d member => reads d (List.mem_cons_of_mem _ member)),
      replay_value? (reads deed List.mem_cons_self), lastMention]
    cases lastMention key (replay frame deed) rest <;> rfl

/-- A value is the last word only if some read reported it. -/
theorem reported_of_lastMention {key : String} {frame : Frame} {since : List Deed} {v : Value}
    (last : lastMention key frame since = some (some v)) :
    ∃ inverter result, .read inverter result ∈ since ∧ result.values.get? key = some v := by
  induction since generalizing frame with
  | nil => cases last
  | cons deed rest ih =>
    rw [lastMention] at last
    cases later : lastMention key (replay frame deed) rest with
    | some mention =>
      rw [later, Option.some_or] at last
      obtain ⟨inverter, result, member, reported⟩ := ih (later.trans last)
      exact ⟨inverter, result, List.mem_cons_of_mem _ member, reported⟩
    | none =>
      rw [later, Option.none_or] at last
      cases deed with
      | read inverter result =>
        refine ⟨inverter, result, List.mem_cons_self, ?_⟩
        simp only [mentionOf, DriverReadResult.mention] at last
        cases reported : result.values.get? key with
        | some w =>
          rw [reported] at last
          by_cases scalar : w.isScalar
          · simpa [scalar] using last
          · simp [scalar] at last
        | none =>
          rw [reported] at last
          simp only [] at last
          split at last <;> simp at last
      | rebound => simp [mentionOf] at last
      | _ => simp [mentionOf] at last

theorem unreported_of_lastMention {key : String} {frame : Frame} {since : List Deed}
    (silent : lastMention key frame since = none) {inverter : Inverter} {result : DriverReadResult}
    (member : .read inverter result ∈ since) : result.values.get? key = none := by
  induction since generalizing frame with
  | nil => cases member
  | cons deed rest ih =>
    rw [lastMention, Option.or_eq_none_iff] at silent
    rcases List.mem_cons.mp member with rfl | later
    · simp only [mentionOf, DriverReadResult.mention] at silent
      cases reported : result.values.get? key with
      | none => rfl
      | some v => simp [reported] at silent
    · exact ih silent.1 later

section
variable {ω α : Type}

theorem refreshed_of_same {w w' : World ω} (journal : w'.journal = w.journal)
    (telemetry : w'.hub.telemetry = w.hub.telemetry) : Refreshed w w' :=
  ⟨[], by simp [journal], by simp, telemetry⟩

instance : IsPreorder (World ω) Refreshed where
  refl _ := refreshed_of_same rfl rfl
  trans := by
    rintro w w' w'' ⟨first, journal, reads, frame⟩ ⟨second, journal', reads', frame'⟩
    refine ⟨first ++ second, ?_, ?_, ?_⟩
    · rw [journal', journal, List.append_assoc]
    · intro deed member
      rcases List.mem_append.mp member with earlier | later
      · exact reads deed earlier
      · exact reads' deed later
    · rw [frame', frame, List.foldl_append]

theorem within_awaiting (action : ω → Awaited ω α) :
    Within Refreshed (awaiting action : HubRun ω α) := fun _ => refreshed_of_same rfl rfl

theorem within_hubUpdate {change : State → State}
    (keeps : ∀ hub, (change hub).telemetry = hub.telemetry) :
    Within Refreshed (hubUpdate change : HubRun ω Unit) :=
  fun w => refreshed_of_same rfl (keeps w.hub)

theorem within_fromExcept (result : Except PyError α) :
    Within Refreshed (fromExcept result : HubRun ω α) := by
  cases result with
  | ok value => exact within_pure value
  | error error => exact within_raise error

variable (host : Host ω)

theorem within_publish (extra : Values) (lastError : String) (connected : Option Bool) :
    Within Refreshed (publish host extra lastError connected) :=
  fun _ => refreshed_of_same rfl rfl

theorem within_accept : Within Refreshed (acceptInverterBindingIdentity : HubRun ω Unit) := by
  intro w
  simp only [acceptInverterBindingIdentity, bind_apply, observe, Ending.next_returned]
  split
  · exact refl_of Refreshed w
  · exact ⟨[.rebound], rfl, by simp [OfRefresh], rfl⟩

theorem within_bindInverter (candidate : Inverter) :
    Within Refreshed (bindInverter candidate : HubRun ω Unit) := by
  unfold bindInverter
  refine within_bind (within_hubUpdate fun _ => rfl) fun _ => ?_
  exact within_bind within_accept fun _ => within_hubUpdate fun _ => rfl

theorem within_detectDriver : Within Refreshed (detectDriver host) := by
  unfold detectDriver
  refine within_bind (within_observe _) fun hub => ?_
  refine within_bind (within_awaiting _) fun found => ?_
  cases found with
  | error text => exact within_pure _
  | ok candidate =>
    simp only []
    split
    · exact within_bind (within_hubUpdate fun _ => rfl) fun _ => within_pure _
    · exact within_bind (within_bindInverter candidate) fun _ => within_pure _

theorem within_recoverHeartbeatTimeout : Within Refreshed (recoverHeartbeatTimeout host) :=
  within_bind (within_awaiting _) fun _ => within_awaiting _

theorem within_ensureConnected : Within Refreshed (ensureConnected host) := by
  unfold ensureConnected
  refine within_bind (within_awaiting _) fun ok => ?_
  cases ok with
  | true => exact within_pure _
  | false =>
    refine within_bind (within_observe _) fun connected => ?_
    cases connected with
    | true => exact within_recoverHeartbeatTimeout host
    | false => exact within_raise _

theorem within_resolve (inverter : Inverter) (result : DriverReadResult) :
    Within Refreshed (resolveRuntimeMeasurements inverter result : HubRun ω Unit) := by
  intro w
  simp only [resolveRuntimeMeasurements, bind_apply, observe, Ending.next_returned]
  cases folded : foldDriverTelemetry w.hub.telemetry inverter.driverKey result with
  | error error => exact refl_of Refreshed w
  | ok frame =>
    have normalized := driverKey_normalized folded
    refine ⟨[.read inverter result], rfl, by simpa [OfRefresh] using normalized, ?_⟩
    simp only [List.foldl_cons, List.foldl_nil, replay, folded]
    rfl

theorem within_readDriverValues : Within Refreshed (readDriverValues host) := by
  unfold readDriverValues
  refine within_bind (within_observe _) fun hub => ?_
  cases hub.inverter with
  | none => exact within_raise _
  | some inverter =>
    refine within_bind (within_awaiting _) fun raw => ?_
    refine within_bind (within_fromExcept _) fun result => ?_
    refine within_bind (within_resolve inverter result) fun _ => ?_
    exact within_bind (within_hubUpdate fun _ => rfl) fun _ => within_observe _

theorem within_publishFailure (values : Values) (error : PyError) :
    Within Refreshed (publishFailure host values error) := within_publish host _ _ _

theorem within_readAfterReconnect {reconnect : HubRun ω Unit} (first : Within Refreshed reconnect)
    (values : Values) : Within Refreshed (readAfterReconnect host reconnect values) := by
  refine within_recover ?_ fun error => ?_
  · refine within_bind first fun _ => ?_
    exact within_bind (within_readDriverValues host) fun _ => within_pure _
  · exact within_bind (within_publishFailure host values error) fun _ => within_pure _

theorem within_publishRetained (values : Values) (error : PyError) :
    Within Refreshed (publishRetained host values error) := by
  refine within_bind (within_observe _) fun _ => ?_
  refine within_bind (within_hubUpdate fun _ => rfl) fun _ => ?_
  exact within_bind (within_observe _) fun _ => within_publish host _ _ _

theorem within_readWithRecovery (values : Values) :
    Within Refreshed (readWithRecovery host values) := by
  have read : Within Refreshed (readDriverValues host >>= fun values =>
      (pure (.inr values) : HubRun ω (Snapshot ⊕ Values))) :=
    within_bind (within_readDriverValues host) fun _ => within_pure _
  have reconnect := within_readAfterReconnect host (within_ensureConnected host) values
  refine within_recover read fun error => ?_
  split
  · refine within_recover read fun retryError => ?_
    split
    · exact reconnect
    · exact within_bind (within_publishRetained host values retryError) fun _ => within_pure _
  · split
    · exact reconnect
    · split
      · refine within_readAfterReconnect host ?_ values
        exact within_bind (within_awaiting _) fun _ => within_ensureConnected host
      · exact within_bind (within_publishFailure host values error) fun _ => within_pure _

theorem within_publishIntermediate (values : Values) :
    Within Refreshed (publishIntermediateSnapshot host values) := by
  unfold publishIntermediateSnapshot
  split
  · exact within_bind (within_publish host _ _ _) fun _ => within_pure _
  · exact within_pure _

theorem within_detectUnbound (values : Values) : Within Refreshed (detectUnbound host values) := by
  refine within_bind (within_publishIntermediate host values) fun _ => ?_
  refine within_bind (within_detectDriver host) fun detectError => ?_
  split
  · refine within_bind (within_awaiting _) fun reconnected => ?_
    split
    · refine within_bind (within_awaiting _) fun again => ?_
      refine within_bind (within_publishIntermediate host again) fun _ => ?_
      exact within_bind (within_detectDriver host) fun _ => within_pure _
    · exact within_pure _
  · exact within_pure _

theorem within_refreshProvisionalBinding : Within Refreshed (refreshProvisionalBinding host) := by
  unfold refreshProvisionalBinding
  refine within_bind (within_hubUpdate fun _ => rfl) fun _ => ?_
  refine within_bind (within_detectDriver host) fun detectError => ?_
  split
  · exact within_bind (within_hubUpdate fun _ => rfl) fun _ => within_pure _
  · exact within_pure _

def Publishes (m : HubRun ω Snapshot) : Prop :=
  Within Refreshed m ∧ ∀ w, Returns m w fun w' snapshot => ShowsPoints w'.hub snapshot

theorem publishes_bind {m : HubRun ω α} {body : α → HubRun ω Snapshot} (first : Within Refreshed m)
    (rest : ∀ value, Publishes (body value)) : Publishes (m >>= body) := by
  refine ⟨within_bind first fun value => (rest value).1, fun w => ?_⟩
  exact returns_bind returns_any fun w' value _ => (rest value).2 w'

theorem publishes_publish (extra : Values) (lastError : String) (connected : Option Bool) :
    Publishes (publish host extra lastError connected) :=
  ⟨within_publish host extra lastError connected, fun w =>
    returns_mono (fun _ _ shown => shown.1) (publish_shows host extra lastError connected w)⟩

theorem publishes_publishRetained (values : Values) (error : PyError) :
    Publishes (publishRetained host values error) := by
  refine publishes_bind (within_observe _) fun _ => ?_
  refine publishes_bind (within_hubUpdate fun _ => rfl) fun _ => ?_
  exact publishes_bind (within_observe _) fun _ => publishes_publish host _ _ _

def FailureShown (w : World ω) (outcome : Snapshot ⊕ Values) : Prop :=
  ∀ snapshot, outcome = .inl snapshot → ShowsPoints w.hub snapshot

theorem failureShown_published {m : HubRun ω Snapshot} (published : Publishes m) (w : World ω) :
    Returns (m >>= fun snapshot => (pure (.inl snapshot) : HubRun ω (Snapshot ⊕ Values))) w
      FailureShown := by
  refine returns_bind (published.2 w) fun w' snapshot shown => ?_
  refine returns_pure ?_
  intro snapshot' eq
  cases eq
  exact shown

theorem failureShown_values {m : HubRun ω Values} (w : World ω) :
    Returns (m >>= fun values => (pure (.inr values) : HubRun ω (Snapshot ⊕ Values))) w
      FailureShown := by
  refine returns_bind returns_any fun w' values _ => ?_
  refine returns_pure ?_
  intro snapshot eq
  cases eq

theorem failureShown_readAfterReconnect (reconnect : HubRun ω Unit) (values : Values)
    (w : World ω) : Returns (readAfterReconnect host reconnect values) w FailureShown := by
  refine returns_recover ?_ fun w' error => ?_
  · exact returns_bind returns_any fun w' _ _ => failureShown_values w'
  · exact failureShown_published (publishes_publish host _ _ _) w'

theorem failureShown_readWithRecovery (values : Values) (w : World ω) :
    Returns (readWithRecovery host values) w FailureShown := by
  refine returns_recover (failureShown_values w) fun w' error => ?_
  split
  · refine returns_recover (failureShown_values w') fun w'' retryError => ?_
    split
    · exact failureShown_readAfterReconnect host _ values w''
    · exact failureShown_published (publishes_publishRetained host values retryError) w''
  · split
    · exact failureShown_readAfterReconnect host _ values w'
    · split
      · exact failureShown_readAfterReconnect host _ values w'
      · exact failureShown_published (publishes_publish host _ _ _) w'

theorem publishes_refreshRead (values : Values) (detectError : String) :
    Publishes (refreshRead host values detectError) := by
  refine publishes_bind (within_observe _) fun backoff => ?_
  cases backoff with
  | true => exact publishes_bind (within_observe _) fun _ => publishes_publish host _ _ _
  | false =>
    constructor
    · refine within_bind (within_readWithRecovery host values) fun outcome => ?_
      cases outcome with
      | inl snapshot => exact within_pure snapshot
      | inr runtimeValues => exact within_publish host _ _ _
    · intro w
      refine returns_bind (failureShown_readWithRecovery host values w) fun w' outcome shown => ?_
      cases outcome with
      | inl snapshot => exact returns_pure (shown snapshot rfl)
      | inr runtimeValues => exact (publishes_publish host _ _ _).2 w'

theorem publishes_refreshBound : Publishes (refreshBound host) := by
  refine publishes_bind (within_awaiting _) fun values => ?_
  refine publishes_bind (within_observe _) fun hub => ?_
  cases hub.inverter with
  | none =>
    refine publishes_bind (within_detectUnbound host values) fun detected => ?_
    refine publishes_bind (within_observe _) fun after => ?_
    cases after.inverter with
    | none => exact publishes_bind (within_observe _) fun _ => publishes_publish host _ _ _
    | some inverter => exact publishes_refreshRead host _ _
  | some inverter =>
    simp only []
    split
    · exact publishes_bind (within_refreshProvisionalBinding host) fun _ =>
        publishes_refreshRead host _ _
    · exact publishes_refreshRead host _ _

theorem publishes_refreshStaleHeartbeat : Publishes (refreshStaleHeartbeat host) := by
  unfold refreshStaleHeartbeat
  refine publishes_bind ?_ fun recovered => ?_
  · refine within_recover ?_ fun _ => within_pure false
    exact within_bind (within_recoverHeartbeatTimeout host) fun _ => within_pure true
  · split
    · exact publishes_refreshBound host
    · exact publishes_bind (within_awaiting _) fun _ => publishes_publish host _ _ _

theorem publishes_refreshWithoutHeartbeat : Publishes (refreshWithoutHeartbeat host) := by
  unfold refreshWithoutHeartbeat
  refine publishes_bind (within_observe _) fun connected => ?_
  split
  · refine publishes_bind (within_observe _) fun hub => ?_
    cases hub.inverter with
    | none =>
      refine publishes_bind (within_awaiting _) fun _ => ?_
      refine publishes_bind (within_observe _) fun collectorOnly => ?_
      split
      · exact publishes_publish host _ _ _
      · exact publishes_refreshStaleHeartbeat host
    | some inverter => exact publishes_refreshStaleHeartbeat host
  · exact publishes_bind (within_awaiting _) fun _ => publishes_publish host _ _ _

theorem publishes_refreshConnected : Publishes (refreshConnected host) := by
  refine publishes_bind (within_awaiting _) fun ok => ?_
  split
  · exact publishes_refreshBound host
  · exact publishes_refreshWithoutHeartbeat host

theorem publishes_refreshOffline : Publishes (refreshOffline host) := by
  refine publishes_bind (within_awaiting _) fun _ => ?_
  refine publishes_bind (within_observe _) fun collectorOnly => ?_
  split
  · exact publishes_publish host _ _ _
  · exact publishes_bind (within_observe _) fun _ => publishes_publish host _ _ _

theorem publishes_refresh : Publishes (refresh host) := by
  refine publishes_bind (within_observe _) fun connected => ?_
  split
  · exact publishes_refreshConnected host
  · refine publishes_bind (within_awaiting _) fun ok => ?_
    split
    · exact publishes_refreshConnected host
    · exact publishes_refreshOffline host

end
end Hub
