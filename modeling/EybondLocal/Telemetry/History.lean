import EybondLocal.Telemetry.Frame

/-!
Runs of driver results folded from the empty frame. A key's point is read off the run: the last
result that reported it, if nothing removed it or replaced the frame since.
-/
namespace Telemetry
open OrderedDict PythonObject StripText Hub

structure Read where
  driverKey : String
  result : DriverReadResult

def foldRead (previous : TypedTelemetryFrame) (read : Read) : Except PyError TypedTelemetryFrame :=
  foldDriverTelemetry previous read.driverKey read.result.values
    (decide (read.result.mode = .full)) read.result.removedKeys

def foldReads (reads : List Read) : Except PyError TypedTelemetryFrame :=
  reads.foldlM foldRead TypedTelemetryFrame.empty

def Read.Named (read : Read) : Prop := read.driverKey ≠ "" ∧ strip read.driverKey = read.driverKey

def Untouched (driverKey key : String) (later : Read) : Prop :=
  later.driverKey = driverKey ∧ later.result.mode = .delta ∧
    later.result.values.get? key = none ∧ key ∉ later.result.removedKeys

/-- The last report of a key that no removal, full result or driver change has undone, with its
    driver, its value and the results since. -/
def LastReport (reads : List Read) (key driverKey : String) (v : Value) (since : List Read) : Prop :=
  ∃ front read, reads = front ++ read :: since ∧ read.driverKey = driverKey ∧
    read.result.values.get? key = some v ∧ ∀ later ∈ since, Untouched driverKey key later

def reportedPoint (key : String) (v : Value) (since : List Read) : TelemetryPoint :=
  ⟨key, v, if since.isEmpty then .fresh else .carried, .driver, []⟩

theorem reportedPoint_snoc (key : String) (v : Value) (since : List Read) (read : Read) :
    reportedPoint key v (since ++ [read]) = (reportedPoint key v since).asCarried := by
  simp [reportedPoint, TelemetryPoint.asCarried]

theorem lastReport_nil {key driverKey : String} {v : Value} {since : List Read} :
    ¬ LastReport [] key driverKey v since := by
  rintro ⟨front, read, eq, _⟩
  cases front <;> cases eq

theorem lastReport_snoc_iff (reads : List Read) (read : Read) (key driverKey : String) (v : Value)
    (since : List Read) :
    LastReport (reads ++ [read]) key driverKey v since ↔
      (since = [] ∧ read.driverKey = driverKey ∧ read.result.values.get? key = some v) ∨
        ∃ earlier, since = earlier ++ [read] ∧ LastReport reads key driverKey v earlier ∧
          Untouched driverKey key read := by
  constructor
  · rintro ⟨front, reporting, eq, driver, reported, untouched⟩
    induction since using List.reverseRecOn with
    | nil =>
      obtain ⟨_, same⟩ := List.append_inj' eq rfl
      cases same
      exact Or.inl ⟨rfl, driver, reported⟩
    | append_singleton earlier last _ =>
      rw [← List.cons_append, ← List.append_assoc] at eq
      obtain ⟨before, same⟩ := List.append_inj' eq rfl
      cases same
      have quiet : ∀ later ∈ earlier, Untouched driverKey key later :=
        fun later member => untouched later (List.mem_append_left _ member)
      exact Or.inr ⟨earlier, rfl, ⟨front, reporting, before, driver, reported, quiet⟩,
        untouched read (List.mem_append_right _ List.mem_cons_self)⟩
  · rintro (⟨rfl, driver, reported⟩ | ⟨earlier, rfl, ⟨front, reporting, rfl, facts⟩, quiet⟩)
    · exact ⟨reads, read, rfl, driver, reported, nofun⟩
    · refine ⟨front, reporting, by simp, facts.1, facts.2.1, ?_⟩
      intro later member
      rcases List.mem_append.mp member with before | last
      · exact facts.2.2 later before
      · rw [List.mem_singleton.mp last]
        exact quiet

theorem foldReads_snoc (reads : List Read) (read : Read) :
    foldReads (reads ++ [read]) = foldReads reads >>= fun frame => foldRead frame read := by
  unfold foldReads
  rw [List.foldlM_append]
  simp

theorem foldRead_driverKey {previous frame : TypedTelemetryFrame} {read : Read}
    (folded : foldRead previous read = .ok frame) : frame.driverKey = read.driverKey :=
  (TypedTelemetryFrame.construct_ok (foldDriverTelemetry_ok folded)).1

theorem foldRead_point? {previous frame : TypedTelemetryFrame} {read : Read}
    (folded : foldRead previous read = .ok frame) (key : String) :
    frame.point? key =
      match read.result.values.get? key with
      | some v => if v.isScalar then some (reportedPoint key v []) else none
      | none =>
        if read.result.mode = .full ∨ previous.driverKey ≠ read.driverKey ∨
            key ∈ read.result.removedKeys then none
        else (previous.point? key).map TelemetryPoint.asCarried := by
  rw [construct_sortedPoints (mergedPoints_own _ _ _ _ _) (foldDriverTelemetry_ok folded),
    mergedPoints_get?]
  simp only [decide_eq_true_eq]
  rfl

theorem foldRead_sorted {previous frame : TypedTelemetryFrame} {read : Read}
    (folded : foldRead previous read = .ok frame) :
    (frame.points.map TelemetryPoint.key).Pairwise (· < ·) := by
  rw [(TypedTelemetryFrame.construct_ok (foldDriverTelemetry_ok folded)).2]
  exact sortedPoints_lt (mergedPoints_own _ _ _ _ _)

structure Shows (reads : List Read) (frame : TypedTelemetryFrame) : Prop where
  /-- The frame's driver is that of every report that still counts. -/
  driver : ∀ key driverKey v since, LastReport reads key driverKey v since →
    frame.driverKey = driverKey
  points : ∀ key point, frame.point? key = some point ↔
    ∃ driverKey v since, LastReport reads key driverKey v since ∧ v.isScalar = true ∧
      point = reportedPoint key v since
  sorted : (frame.points.map TelemetryPoint.key).Pairwise (· < ·)

theorem shows_empty : Shows [] TypedTelemetryFrame.empty := by
  constructor
  · intro key driverKey v since report
    exact absurd report lastReport_nil
  · intro key point
    constructor
    · intro held
      cases held
    · rintro ⟨driverKey, v, since, report, _⟩
      exact absurd report lastReport_nil
  · exact List.Pairwise.nil

theorem shows_foldRead {reads : List Read} {previous frame : TypedTelemetryFrame} {read : Read}
    (shows : Shows reads previous) (folded : foldRead previous read = .ok frame) :
    Shows (reads ++ [read]) frame := by
  have driverKey := foldRead_driverKey folded
  constructor
  · intro key driver v since report
    rcases (lastReport_snoc_iff _ _ _ _ _ _).mp report with ⟨_, same, _⟩ | ⟨_, _, _, quiet⟩
    · exact driverKey.trans same
    · exact driverKey.trans quiet.1
  · intro key point
    rw [foldRead_point? folded]
    cases reported : read.result.values.get? key with
    | some v =>
      have only : ∀ driver w since, LastReport (reads ++ [read]) key driver w since →
          w = v ∧ since = [] := by
        intro driver w since report
        rcases (lastReport_snoc_iff _ _ _ _ _ _).mp report with ⟨rfl, _, now⟩ | ⟨_, _, _, quiet⟩
        · rw [reported, Option.some.injEq] at now
          exact ⟨now.symm, rfl⟩
        · have silent := quiet.2.2.1
          rw [reported] at silent
          cases silent
      dsimp only
      constructor
      · intro held
        split at held
        · rename_i scalar
          cases held
          exact ⟨read.driverKey, v, [],
            (lastReport_snoc_iff _ _ _ _ _ _).mpr (Or.inl ⟨rfl, rfl, reported⟩), scalar, rfl⟩
        · cases held
      · rintro ⟨driver, w, since, report, scalar, rfl⟩
        obtain ⟨rfl, rfl⟩ := only driver w since report
        rw [if_pos scalar]
    | none =>
      dsimp only
      constructor
      · intro held
        split at held
        · cases held
        · rename_i quiet
          rw [not_or, not_or, not_not] at quiet
          obtain ⟨earlier, found, rfl⟩ := Option.map_eq_some_iff.mp held
          obtain ⟨driver, v, since, report, scalar, rfl⟩ := (shows.points key earlier).mp found
          have delta : read.result.mode = .delta := by
            cases mode : read.result.mode with
            | full => exact absurd mode quiet.1
            | delta => rfl
          have same : read.driverKey = driver :=
            quiet.2.1.symm.trans (shows.driver key driver v since report)
          have untouched : Untouched driver key read := ⟨same, delta, reported, quiet.2.2⟩
          exact ⟨driver, v, since ++ [read],
            (lastReport_snoc_iff _ _ _ _ _ _).mpr (Or.inr ⟨since, rfl, report, untouched⟩), scalar,
            (reportedPoint_snoc key v since read).symm⟩
      · rintro ⟨driver, v, since, report, scalar, rfl⟩
        rcases (lastReport_snoc_iff _ _ _ _ _ _).mp report with
          ⟨_, _, now⟩ | ⟨earlier, rfl, before, quiet⟩
        · rw [reported] at now
          cases now
        · obtain ⟨same, delta, _, kept⟩ := quiet
          have held := (shows.points key _).mpr ⟨driver, v, earlier, before, scalar, rfl⟩
          have driven := shows.driver key driver v earlier before
          have carries : ¬ (read.result.mode = .full ∨ previous.driverKey ≠ read.driverKey ∨
              key ∈ read.result.removedKeys) := by
            simp [delta, driven, same, kept]
          rw [if_neg carries, held, reportedPoint_snoc]
          rfl
  · exact foldRead_sorted folded

theorem shows_foldReads {reads : List Read} {frame : TypedTelemetryFrame}
    (folded : foldReads reads = .ok frame) : Shows reads frame := by
  induction reads using List.reverseRecOn generalizing frame with
  | nil =>
    cases folded
    exact shows_empty
  | append_singleton reads read ih =>
    rw [foldReads_snoc] at folded
    cases before : foldReads reads with
    | error error =>
      rw [before] at folded
      cases folded
    | ok previous =>
      rw [before] at folded
      exact shows_foldRead (ih before) folded

theorem exists_foldReads {reads : List Read} (named : ∀ read ∈ reads, read.Named) :
    ∃ frame, foldReads reads = .ok frame := by
  induction reads using List.reverseRecOn with
  | nil => exact ⟨_, rfl⟩
  | append_singleton reads read ih =>
    obtain ⟨previous, before⟩ := ih fun r member => named r (List.mem_append_left _ member)
    have normalized : ∀ key ∈ read.result.removedKeys ++ read.result.values.items.map Prod.fst,
        normalizedKey key := by
      intro key member
      rcases List.mem_append.mp member with removed | reported
      · exact read.result.removed_normalized key removed
      · obtain ⟨⟨name, v⟩, entry, rfl⟩ := List.mem_map.mp reported
        exact read.result.values_normalized name v
          ((read.result.values.get?_eq_some_iff name v).mpr entry)
    have last := named read (List.mem_append_right _ List.mem_cons_self)
    obtain ⟨frame, folded⟩ : ∃ frame, foldRead previous read = .ok frame :=
      exists_foldDriverTelemetry previous last normalized
    refine ⟨frame, ?_⟩
    rw [foldReads_snoc, before]
    exact folded

/-- Every run of named drivers folds to the frame of its last scalar reports: the point is fresh
    exactly when the last result reported it, and the keys go up. -/
theorem fold_shows_last_reports {reads : List Read} (named : ∀ read ∈ reads, read.Named) :
    ∃ frame, foldReads reads = .ok frame ∧
      (∀ key point, frame.point? key = some point ↔
        ∃ driverKey v since, LastReport reads key driverKey v since ∧ v.isScalar = true ∧
          point = reportedPoint key v since) ∧
      (frame.points.map TelemetryPoint.key).Pairwise (· < ·) := by
  obtain ⟨frame, folded⟩ := exists_foldReads named
  have shows := shows_foldReads folded
  exact ⟨frame, folded, shows.points, shows.sorted⟩

def singleResult (mode : DriverReadMode) (key : String) (normalized : normalizedKey key) (v : Value) :
    DriverReadResult where
  values := Dict.empty.set key v
  mode := mode
  removedKeys := []
  diagnostics := Dict.empty
  values_normalized := by
    intro name w found
    rw [Dict.get?_set] at found
    split at found
    · rename_i same
      rw [same]
      exact normalized
    · cases found
  removed_normalized := List.forall_mem_nil normalizedKey
  diagnostics_normalized := nofun
  full_removes_nothing := fun _ => rfl
  value_not_removed := nofun
  value_not_diagnostic := fun _ _ _ => rfl
  removed_not_diagnostic := nofun

def structuredRun : List Read :=
  [⟨"pi30", singleResult .full "battery_voltage" (by decide) (.number (512 / 10))⟩,
    ⟨"pi30", singleResult .delta "battery_voltage" (by decide) (.structured "[51.2, 51.3]")⟩]

theorem structured_run_folds : ∃ frame, foldReads structuredRun = .ok frame ∧
    (∀ key point, frame.point? key = some point ↔
      ∃ driverKey v since, LastReport structuredRun key driverKey v since ∧ v.isScalar = true ∧
        point = reportedPoint key v since) ∧
    (frame.points.map TelemetryPoint.key).Pairwise (· < ·) :=
  fold_shows_last_reports (by unfold Read.Named; decide +kernel)

/-- The frame does not hold every value that was reported last. -/
theorem structured_report_is_dropped : ¬ ∀ reads frame, foldReads reads = .ok frame →
    ∀ key driverKey v since, LastReport reads key driverKey v since →
      frame.value? key = some v := by
  intro holds
  have named : ∀ read ∈ structuredRun, read.Named := by
    unfold Read.Named
    decide +kernel
  obtain ⟨frame, folded⟩ := exists_foldReads named
  have report : LastReport structuredRun "battery_voltage" "pi30" (.structured "[51.2, 51.3]") [] :=
    ⟨structuredRun.take 1, structuredRun[1], rfl, rfl, rfl, nofun⟩
  have value := holds structuredRun frame folded _ _ _ _ report
  obtain ⟨point, held, eq⟩ := Option.map_eq_some_iff.mp value
  obtain ⟨driverKey, v, since, _, scalar, rfl⟩ :=
    ((shows_foldReads folded).points _ point).mp held
  have structured : v = .structured "[51.2, 51.3]" := eq
  rw [structured] at scalar
  cases scalar

end Telemetry
