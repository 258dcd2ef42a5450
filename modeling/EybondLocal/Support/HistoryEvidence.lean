import EybondLocal.Library.AwareTimestamp
import EybondLocal.Library.ContextDecimal
import EybondLocal.SmgDriver.CapturePlan

/-!
The evidence that a correlation reads: points of a cloud history (`support/cloud_history_evidence.py`)
and repeated snapshots of local registers (`drivers/local_register_evidence.py`,
`drivers/local_register_series.py`). A value of each type has passed its constructor.
-/
namespace HistoryCorrelation
open AwareTimestamp ContextDecimal SmgDriver StripText

def RequiredToken (text : String) : Prop := text ≠ "" ∧ strip text = text ∧ text.length ≤ 512

instance : DecidablePred RequiredToken :=
  fun text => inferInstanceAs (Decidable (text ≠ "" ∧ strip text = text ∧ text.length ≤ 512))

def utcTimestamp (text : String) : Option AwareDateTime :=
  (fromIsoFormatAware text).filter fun m => m.offset = 0 ∧ utcIsoFormat m = text

structure CloudHistoryPoint where
  utcTimestamp : String
  value : String
  tokens : RequiredToken utcTimestamp ∧ RequiredToken value
  utc_read : (HistoryCorrelation.utcTimestamp utcTimestamp).isSome
  value_read : (parseDecimal value).isSome

namespace CloudHistoryPoint
variable (point : CloudHistoryPoint)

def moment : AwareDateTime := (HistoryCorrelation.utcTimestamp point.utcTimestamp).get point.utc_read

def number : Decimal := (parseDecimal point.value).get point.value_read

end CloudHistoryPoint

structure CloudHistorySeries where
  points : List CloudHistoryPoint
  few : points.length ≤ 4096
  ordered : (points.map CloudHistoryPoint.utcTimestamp).IsChain (· < ·)

/-- `_aware_datetime` of the register evidence. -/
def evidenceDatetime (text : String) : Option AwareDateTime :=
  if text = "" ∨ strip text ≠ text then none
  else if text.toList.getLast? = some 'Z' then isoChars (text.toList.dropLast ++ zeroOffset)
  else fromIsoFormatAware text

structure LocalRegisterBlockObservation where
  plan : LocalRegisterReadPlan
  observedAt : String
  values : List Nat
  observed_read : (evidenceDatetime observedAt).isSome
  count_eq : (values.length : Int) = plan.count
  words : ∀ value ∈ values, value ≤ 0xFFFF

def LocalRegisterBlockObservation.observed (block : LocalRegisterBlockObservation) : AwareDateTime :=
  (evidenceDatetime block.observedAt).get block.observed_read

structure LocalRegisterSnapshot where
  startedAt : String
  completedAt : String
  plannedBlockCount : Nat
  failedBlockCount : Nat
  blocks : List LocalRegisterBlockObservation
  started_read : (evidenceDatetime startedAt).isSome
  completed_read : (evidenceDatetime completedAt).isSome
  planned_bounded : 1 ≤ plannedBlockCount ∧ plannedBlockCount ≤ 256 ∧ failedBlockCount ≤ 256
  planned_eq : blocks.length + failedBlockCount = plannedBlockCount
  inside : ((evidenceDatetime startedAt).get started_read).instant ≤
      ((evidenceDatetime completedAt).get completed_read).instant ∧
    ∀ block ∈ blocks, ((evidenceDatetime startedAt).get started_read).instant ≤
        block.observed.instant ∧
      block.observed.instant ≤ ((evidenceDatetime completedAt).get completed_read).instant
  plans_differ : (blocks.map LocalRegisterBlockObservation.plan).Nodup

structure LocalRegisterSnapshotSeries where
  snapshots : List LocalRegisterSnapshot
  count_bounded : 3 ≤ snapshots.length ∧ snapshots.length ≤ 64
  apart : snapshots.IsChain fun earlier later =>
    ((evidenceDatetime earlier.completedAt).get earlier.completed_read).instant ≤
      ((evidenceDatetime later.startedAt).get later.started_read).instant

theorem CloudHistoryPoint.moment_read (point : CloudHistoryPoint) :
    fromIsoFormatAware point.utcTimestamp = some point.moment ∧ point.moment.offset = 0 ∧
      utcIsoFormat point.moment = point.utcTimestamp := by
  have read : HistoryCorrelation.utcTimestamp point.utcTimestamp = some point.moment :=
    (Option.some_get point.utc_read).symm
  unfold HistoryCorrelation.utcTimestamp at read
  obtain ⟨parsed, canonical⟩ := Option.filter_eq_some_iff.mp read
  exact ⟨parsed, by simpa using canonical⟩

theorem CloudHistoryPoint.number_read (point : CloudHistoryPoint) :
    parseDecimal point.value = some point.number := (Option.some_get point.value_read).symm

theorem LocalRegisterBlockObservation.observed_again (block : LocalRegisterBlockObservation) :
    fromIsoFormatAware block.observedAt = some block.observed := by
  have read : evidenceDatetime block.observedAt = some block.observed :=
    (Option.some_get block.observed_read).symm
  unfold evidenceDatetime at read
  split at read
  · cases read
  · split at read
    · rename_i zulu
      obtain ⟨front, whole⟩ := List.getLast?_eq_some_iff.mp zulu
      rw [whole, List.dropLast_concat] at read
      rw [fromIsoFormatAware, whole]
      exact isoChars_zulu read
    · exact read

theorem CloudHistorySeries.ascending (cloud : CloudHistorySeries) :
    cloud.points.Pairwise fun earlier later => earlier.moment.instant < later.moment.instant := by
  have texts : (cloud.points.map CloudHistoryPoint.utcTimestamp).Pairwise (· < ·) :=
    List.isChain_iff_pairwise.mp cloud.ordered
  refine (List.pairwise_map.mp texts).imp fun {earlier later} lt => ?_
  obtain ⟨-, utc, text⟩ := earlier.moment_read
  obtain ⟨-, utc', text'⟩ := later.moment_read
  rw [← text, ← text'] at lt
  exact instant_lt_of_text_lt utc utc' lt

end HistoryCorrelation
