import EybondLocal.Library.NearestPoint
import EybondLocal.Library.OrderedDict
import EybondLocal.Support.HistoryEvidence
import Mathlib.Data.List.Dedup
import Mathlib.Data.Nat.Bitwise

/-!
Correlation of a cloud history with local register snapshots
(`support/cloud_local_history_correlation.py`): a register, a divisor and a sign are a candidate
where every value of the cloud is the register's word, scaled.
-/
namespace HistoryCorrelation
open AwareTimestamp ContextDecimal NearestPoint OrderedDict PythonObject SmgDriver

inductive CorrelationError where
  | value (text : String)
  | decimalOverflow
  deriving DecidableEq, Repr

structure LocalRegisterLocation where
  devcode : Int
  collectorAddr : Int
  deviceAddr : Int
  function : Int
  register : Int
  deriving DecidableEq, Repr

def LocalRegisterLocation.checked (l : LocalRegisterLocation) :
    Except CorrelationError LocalRegisterLocation :=
  if ¬ (0 ≤ l.devcode ∧ l.devcode ≤ 0xFFFF) then
    .error (.value "cloud_local_history_devcode_invalid")
  else if ¬ (0 ≤ l.collectorAddr ∧ l.collectorAddr ≤ 0xFF ∧
      0 ≤ l.deviceAddr ∧ l.deviceAddr ≤ 0xFF) then
    .error (.value "cloud_local_history_address_invalid")
  else if ¬ (l.function = 3 ∨ l.function = 4) then
    .error (.value "cloud_local_history_function_invalid")
  else if ¬ (0 ≤ l.register ∧ l.register ≤ 0xFFFF) then
    .error (.value "cloud_local_history_register_invalid")
  else .ok l

def planLocation (plan : LocalRegisterReadPlan) (offset : Nat) : LocalRegisterLocation :=
  ⟨plan.devcode, plan.collectorAddr, plan.deviceAddr, plan.function, plan.start + offset⟩

/-- `_aware_datetime` of the correlation. -/
def awareInstant (text reason : String) : Except CorrelationError Int :=
  match fromIsoFormatAware text with
  | some m => .ok m.instant
  | none => .error (.value reason)

abbrev Sample := Int × Nat

/-- The body of the block loop of `_local_register_samples`. -/
def blockSamples (block : LocalRegisterBlockObservation) :
    Except CorrelationError (List (LocalRegisterLocation × Sample)) := do
  let observedAt ← awareInstant block.observedAt "cloud_local_history_local_timestamp_invalid"
  block.values.zipIdx.mapM fun item => do
    let location ← (planLocation block.plan item.2).checked
    .ok (location, observedAt, item.1)

def collect (samples : List (LocalRegisterLocation × Sample)) :
    Dict LocalRegisterLocation (List Sample) :=
  samples.foldl (fun output entry =>
    output.set entry.1 ((output.get? entry.1).getD [] ++ [entry.2])) Dict.empty

def localRegisterSamples (series : LocalRegisterSnapshotSeries) :
    Except CorrelationError (Dict LocalRegisterLocation (List Sample)) := do
  let blocks ← (series.snapshots.flatMap LocalRegisterSnapshot.blocks).mapM blockSamples
  .ok (collect blocks.flatten)

def cloudPoints (cloud : CloudHistorySeries) : Except CorrelationError (List (Int × Decimal)) :=
  cloud.points.mapM fun point => do
    let instant ← awareInstant point.utcTimestamp "cloud_local_history_utc_timestamp_invalid"
    match parseDecimal point.value with
    | some number => .ok (instant, number)
    | none => .error (.value "cloud_history_value_invalid")

def divisors : List Int := [1, 10, 100, 1000]

def observedWord (signed : Bool) (raw : Nat) : Int :=
  if signed = true ∧ raw &&& 0x8000 ≠ 0 then (raw : Int) - 0x10000 else raw

/-- The loop of `_exact_transform_matches`. -/
def transformLoop (divisor : Int) (signed : Bool) :
    Bool → List (Decimal × Nat) → Except CorrelationError Bool
  | sawNegative, [] => .ok (signed == sawNegative)
  | sawNegative, (cloudValue, raw) :: rest =>
    match multiply cloudValue divisor with
    | none => .error .decimalOverflow
    | some scaled =>
      match scaled.integral with
      | none => .ok false
      | some expected =>
        if observedWord signed raw ≠ expected then .ok false
        else transformLoop divisor signed (sawNegative || decide (expected < 0)) rest

def exactTransformMatches (samples : List (Decimal × Nat)) (divisor : Int) (signed : Bool) :
    Except CorrelationError Bool := transformLoop divisor signed false samples

structure CloudLocalHistoryCandidate where
  location : LocalRegisterLocation
  divisor : Int
  signed : Bool
  alignedSampleCount : Nat
  distinctCloudValueCount : Nat
  deriving DecidableEq, Repr

def CloudLocalHistoryCandidate.checked (c : CloudLocalHistoryCandidate) :
    Except CorrelationError CloudLocalHistoryCandidate :=
  if c.divisor ∉ divisors then .error (.value "cloud_local_history_candidate_divisor_invalid")
  else if ¬ (4 ≤ c.alignedSampleCount ∧ c.alignedSampleCount ≤ 64) then
    .error (.value "cloud_local_history_candidate_sample_count_invalid")
  else if ¬ (3 ≤ c.distinctCloudValueCount ∧ c.distinctCloudValueCount ≤ c.alignedSampleCount) then
    .error (.value "cloud_local_history_candidate_variation_invalid")
  else .ok c

inductive CorrelationStatus where
  | insufficientSamples
  | insufficientVariation
  | noExactCandidate
  | ambiguous
  | unique
  deriving DecidableEq, Repr

structure Tolerance where
  seconds : Int
  bounded : 1 ≤ seconds ∧ seconds ≤ 3600

def Tolerance.micros (tolerance : Tolerance) : Int := tolerance.seconds * 1000000

/-- The samples with the cloud values that are nearest to them (`_nearest_cloud_value`). -/
def alignSamples (points : List (Int × Decimal)) (tolerance : Tolerance) (samples : List Sample) :
    List (Decimal × Nat) :=
  samples.filterMap fun sample =>
    (nearestNeighbour points tolerance.micros sample.1).map fun value => (value, sample.2)

def distinctValues (aligned : List (Decimal × Nat)) : Nat :=
  (aligned.map fun sample => sample.1.value).dedup.length

def transforms : List (Int × Bool) :=
  divisors.flatMap fun divisor => [(divisor, false), (divisor, true)]

/-- What the loop of `_correlate` gets from one location. -/
structure LocationVerdict where
  alignedCount : Nat
  distinctCount : Nat
  candidates : List CloudLocalHistoryCandidate

def transformVerdict (location : LocalRegisterLocation) (aligned : List (Decimal × Nat))
    (transform : Int × Bool) : Except CorrelationError (Option CloudLocalHistoryCandidate) := do
  if ← exactTransformMatches aligned transform.1 transform.2 then
    let candidate ← CloudLocalHistoryCandidate.checked
      ⟨location, transform.1, transform.2, aligned.length, distinctValues aligned⟩
    .ok (some candidate)
  else .ok none

def correlateLocation (points : List (Int × Decimal)) (tolerance : Tolerance)
    (entry : LocalRegisterLocation × List Sample) : Except CorrelationError LocationVerdict :=
  let aligned := alignSamples points tolerance entry.2
  if aligned.length < 4 ∨ distinctValues aligned < 3 then
    .ok ⟨aligned.length, distinctValues aligned, []⟩
  else do
    let matching ← transforms.mapM (transformVerdict entry.1 aligned)
    .ok ⟨aligned.length, distinctValues aligned, matching.reduceOption⟩

def CloudLocalHistoryCandidate.rank (c : CloudLocalHistoryCandidate) : List Int :=
  [c.location.devcode, c.location.collectorAddr, c.location.deviceAddr, c.location.function,
    c.location.register, c.divisor, if c.signed then 1 else 0]

def tupleLE : List Int → List Int → Bool
  | [], _ => true
  | _ :: _, [] => false
  | a :: rest, b :: rest' => a < b || (a = b && tupleLE rest rest')

def correlationStatus (verdicts : List LocationVerdict)
    (ordered : List CloudLocalHistoryCandidate) : CorrelationStatus :=
  if (verdicts.map LocationVerdict.alignedCount).foldl max 0 < 4 then .insufficientSamples
  else if (verdicts.map LocationVerdict.distinctCount).foldl max 0 < 3 then .insufficientVariation
  else if ordered = [] then .noExactCandidate
  else if ordered.length = 1 then .unique
  else .ambiguous

def correlate (cloud : CloudHistorySeries) (series : LocalRegisterSnapshotSeries)
    (tolerance : Tolerance) :
    Except CorrelationError (CorrelationStatus × List CloudLocalHistoryCandidate) := do
  let points ← cloudPoints cloud
  let samples ← localRegisterSamples series
  let verdicts ← samples.items.mapM (correlateLocation points tolerance)
  let ordered := (verdicts.flatMap LocationVerdict.candidates).insertionSort
    fun a b => tupleLE a.rank b.rank
  .ok (correlationStatus verdicts ordered, ordered)

structure AlignedPair where
  snapshot : Nat
  cloudValue : Decimal
  raw : Nat
  deriving DecidableEq, Repr

def observations (series : LocalRegisterSnapshotSeries) (location : LocalRegisterLocation) :
    List (Nat × Sample) :=
  series.snapshots.zipIdx.flatMap fun snapshot =>
    snapshot.1.blocks.flatMap fun block =>
      (block.values.zipIdx.filter fun item => planLocation block.plan item.2 = location).map
        fun item => (snapshot.2, block.observed.instant, item.1)

def timeline (cloud : CloudHistorySeries) : List (Int × Decimal) :=
  cloud.points.map fun point => (point.moment.instant, point.number)

def pairs (cloud : CloudHistorySeries) (series : LocalRegisterSnapshotSeries)
    (tolerance : Tolerance) (location : LocalRegisterLocation) : List AlignedPair :=
  (observations series location).filterMap fun observation =>
    (nearestPoint (timeline cloud) tolerance.micros observation.2.1).map fun point =>
      ⟨observation.1, point.2, observation.2.2⟩

def snapshotCount (pairs : List AlignedPair) : Nat := (pairs.map AlignedPair.snapshot).dedup.length

def valueCount (pairs : List AlignedPair) : Nat :=
  (pairs.map fun pair => pair.cloudValue.value).dedup.length

def registerWord (signed : Bool) (raw : Nat) : Int :=
  if signed then (BitVec.ofNat 16 raw).toInt else raw

structure ExactCandidate (pairs : List AlignedPair) (divisor : Int) (signed : Bool) : Prop where
  divisor_known : divisor ∈ divisors
  four_snapshots : 4 ≤ snapshotCount pairs
  three_values : 3 ≤ valueCount pairs
  word_eq : ∀ pair ∈ pairs, pair.cloudValue.value * divisor = registerWord signed pair.raw
  negative_seen : signed = true ↔ ∃ pair ∈ pairs, pair.cloudValue.value * divisor < 0

def CorrelationExact (cloud : CloudHistorySeries) (series : LocalRegisterSnapshotSeries)
    (tolerance : Tolerance) : Prop :=
  ∃ status listed, correlate cloud series tolerance = .ok (status, listed) ∧
    (∀ location divisor signed,
      (∃ c ∈ listed, c.location = location ∧ c.divisor = divisor ∧ c.signed = signed) ↔
        ExactCandidate (pairs cloud series tolerance location) divisor signed) ∧
    (status = .unique ↔ listed.length = 1)

theorem cloudPoints_eq (cloud : CloudHistorySeries) : cloudPoints cloud = .ok (timeline cloud) := by
  refine mapM_eq_map fun point _ => ?_
  simp [awareInstant, point.moment_read.1, point.number_read, bind, Except.bind]

theorem timeline_ascending (cloud : CloudHistorySeries) : Ascending (timeline cloud) :=
  List.pairwise_map.mpr cloud.ascending

def locatedSamples (block : LocalRegisterBlockObservation) : List (LocalRegisterLocation × Sample) :=
  block.values.zipIdx.map fun item =>
    (planLocation block.plan item.2, block.observed.instant, item.1)

theorem planLocation_checked (plan : LocalRegisterReadPlan) {offset : Nat}
    (inside : (offset : Int) < plan.count) :
    (planLocation plan offset).checked = .ok (planLocation plan offset) := by
  have devcode := plan.devcode_word
  have collector := plan.collectorAddr_byte
  have device := plan.deviceAddr_byte
  have start := plan.start_word
  have stop := plan.inside
  have reads := plan.function_reads
  unfold LocalRegisterLocation.checked planLocation
  rw [if_neg (not_not.mpr devcode), if_neg (by dsimp only; omega), if_neg (not_not.mpr reads),
    if_neg (by dsimp only; omega)]

theorem blockSamples_eq (block : LocalRegisterBlockObservation) :
    blockSamples block = .ok (locatedSamples block) := by
  unfold blockSamples
  rw [awareInstant, block.observed_again]
  refine mapM_eq_map fun item member => ?_
  have inside := List.snd_lt_of_mem_zipIdx member
  have count := block.count_eq
  rw [planLocation_checked block.plan (by omega)]
  rfl

def allSamples (series : LocalRegisterSnapshotSeries) : List (LocalRegisterLocation × Sample) :=
  (series.snapshots.flatMap LocalRegisterSnapshot.blocks).flatMap locatedSamples

theorem localRegisterSamples_eq (series : LocalRegisterSnapshotSeries) :
    localRegisterSamples series = .ok (collect (allSamples series)) := by
  unfold localRegisterSamples
  rw [mapM_eq_map fun block _ => blockSamples_eq block, allSamples, List.flatMap_def]
  rfl

theorem get?_collect (samples : List (LocalRegisterLocation × Sample))
    (location : LocalRegisterLocation) :
    (collect samples).get? location =
      if samples.filter (·.1 = location) = [] then none
      else some ((samples.filter (·.1 = location)).map Prod.snd) :=
  Dict.get?_foldl_collect Prod.fst Prod.snd samples location

theorem filter_allSamples (series : LocalRegisterSnapshotSeries)
    (location : LocalRegisterLocation) :
    ((allSamples series).filter (·.1 = location)).map Prod.snd =
      (observations series location).map Prod.snd := by
  have block_samples (snapshot : LocalRegisterSnapshot × Nat) :
      (snapshot.1.blocks.flatMap fun block =>
        (block.values.zipIdx.filter fun item => planLocation block.plan item.2 = location).map
          fun item => (snapshot.2, block.observed.instant, item.1)).map Prod.snd =
      ((snapshot.1.blocks.flatMap locatedSamples).filter (·.1 = location)).map Prod.snd := by
    simp only [locatedSamples, List.map_flatMap, List.filter_flatMap, List.filter_map, List.map_map]
    rfl
  have all : allSamples series =
      series.snapshots.zipIdx.flatMap fun snapshot => snapshot.1.blocks.flatMap locatedSamples := by
    rw [allSamples, List.flatMap_assoc]
    conv_lhs => rw [← List.zipIdx_map_fst 0 series.snapshots]
    rw [List.flatMap_map]
  unfold observations
  rw [all, List.map_flatMap, List.filter_flatMap, List.map_flatMap]
  simp only [block_samples]

def AlignedPair.sample (pair : AlignedPair) : Decimal × Nat := (pair.cloudValue, pair.raw)

section
variable {cloud : CloudHistorySeries} {series : LocalRegisterSnapshotSeries}
  {tolerance : Tolerance} {location : LocalRegisterLocation}

theorem alignSamples_eq :
    alignSamples (timeline cloud) tolerance ((observations series location).map Prod.snd) =
      (pairs cloud series tolerance location).map AlignedPair.sample := by
  unfold alignSamples pairs
  rw [List.filterMap_map, List.map_filterMap]
  congr 1
  funext observation
  simp only [Function.comp_apply, nearestNeighbour_eq (timeline_ascending cloud), Option.map_map]
  rfl

theorem entry_iff {samples : List Sample} :
    (location, samples) ∈ (collect (allSamples series)).items ↔
      samples = (observations series location).map Prod.snd ∧
        observations series location ≠ [] := by
  rw [← Dict.get?_eq_some_iff, get?_collect, filter_allSamples]
  have empty : (allSamples series).filter (·.1 = location) = [] ↔
      observations series location = [] := by
    rw [← List.map_eq_nil_iff (f := Prod.snd), filter_allSamples, List.map_eq_nil_iff]
  by_cases none_given : observations series location = []
  · simp [empty.mpr none_given, none_given]
  · rw [if_neg (mt empty.mp none_given)]
    simp [none_given, eq_comm]

theorem observed_of_enough (enough : 4 ≤ (pairs cloud series tolerance location).length) :
    observations series location ≠ [] := by
  intro empty
  rw [pairs, empty] at enough
  exact absurd enough (by simp)

theorem raw_le {pair : AlignedPair} (member : pair ∈ pairs cloud series tolerance location) :
    pair.raw ≤ 0xFFFF := by
  obtain ⟨observation, observed, aligned⟩ := List.mem_filterMap.mp member
  obtain ⟨point, -, rfl⟩ := Option.map_eq_some_iff.mp aligned
  unfold observations at observed
  simp only [List.mem_flatMap, List.mem_map, List.mem_filter] at observed
  obtain ⟨snapshot, -, block, -, item, ⟨inside, -⟩, rfl⟩ := observed
  exact block.words _ (List.fst_mem_of_mem_zipIdx inside)

end

theorem observedWord_eq (signed : Bool) {raw : Nat} (word : raw ≤ 0xFFFF) :
    observedWord signed raw = registerWord signed raw := by
  cases signed with
  | false => rfl
  | true =>
    have top : raw &&& 0x8000 ≠ 0 ↔ 0x8000 ≤ raw := by
      have bit : raw &&& 2 ^ 15 = (raw.testBit 15).toNat * 2 ^ 15 := Nat.and_two_pow raw 15
      rw [show (0x8000 : Nat) = 2 ^ 15 from rfl, bit, Nat.testBit_eq_decide_div_mod_eq]
      by_cases high : raw / 2 ^ 15 % 2 = 1
      · simp only [high, decide_true, Bool.toNat_true]
        omega
      · simp only [high, decide_false, Bool.toNat_false]
        omega
    unfold observedWord registerWord
    simp only [true_and, top, if_true, BitVec.toInt, BitVec.toNat_ofNat]
    have small : raw % 2 ^ 16 = raw := Nat.mod_eq_of_lt (by omega)
    rw [small]
    split <;> split <;> omega

theorem registerWord_small (signed : Bool) {raw : Nat} (word : raw ≤ 0xFFFF) :
    (registerWord signed raw).natAbs < 10 ^ 28 := by
  rw [← observedWord_eq signed word, observedWord]
  split <;> omega

def RoundsToWord (pair : AlignedPair) (divisor : Int) (signed : Bool) : Prop :=
  ∃ scaled, multiply pair.cloudValue divisor = some scaled ∧
    scaled.value = registerWord signed pair.raw

structure RoundedMatch (pairs : List AlignedPair) (divisor : Int) (signed : Bool) : Prop where
  words : ∀ pair ∈ pairs, RoundsToWord pair divisor signed
  sign : signed = true ↔ ∃ pair ∈ pairs, registerWord signed pair.raw < 0

def OverflowReached (pairs : List AlignedPair) (divisor : Int) (signed : Bool) : Prop :=
  ∃ front pair back, pairs = front ++ pair :: back ∧ multiply pair.cloudValue divisor = none ∧
    ∀ earlier ∈ front, RoundsToWord earlier divisor signed

theorem transformLoop_step {pair : AlignedPair} {divisor : Int} (signed sawNegative : Bool)
    (rest : List (Decimal × Nat)) (word : pair.raw ≤ 0xFFFF)
    (present : (multiply pair.cloudValue divisor).isSome) :
    (RoundsToWord pair divisor signed ∧
      transformLoop divisor signed sawNegative (pair.sample :: rest) =
        transformLoop divisor signed
          (sawNegative || decide (registerWord signed pair.raw < 0)) rest) ∨
    (¬ RoundsToWord pair divisor signed ∧
      transformLoop divisor signed sawNegative (pair.sample :: rest) = .ok false) := by
  obtain ⟨scaled, product⟩ := Option.isSome_iff_exists.mp present
  have rounds : RoundsToWord pair divisor signed ↔
      scaled.integral = some (registerWord signed pair.raw) := by
    rw [integral_eq_some_iff]
    constructor
    · rintro ⟨other, same, value⟩
      cases Option.some.inj (product.symm.trans same)
      exact value
    · exact fun value => ⟨scaled, product, value⟩
  rw [rounds, AlignedPair.sample, transformLoop, product]
  dsimp only
  cases integral : scaled.integral with
  | none => exact Or.inr ⟨by simp, rfl⟩
  | some expected =>
    dsimp only
    rw [observedWord_eq signed word, Option.some.injEq]
    by_cases same : expected = registerWord signed pair.raw
    · subst same
      exact Or.inl ⟨rfl, by rw [if_neg (by simp)]⟩
    · exact Or.inr ⟨same, by rw [if_pos (Ne.symm same)]⟩

theorem overflowReached_cons {pair : AlignedPair} {rest : List AlignedPair} {divisor : Int}
    {signed : Bool} (present : multiply pair.cloudValue divisor ≠ none) :
    OverflowReached (pair :: rest) divisor signed ↔
      RoundsToWord pair divisor signed ∧ OverflowReached rest divisor signed := by
  constructor
  · rintro ⟨front, overflowing, back, cut, overflow, before⟩
    cases front with
    | nil =>
      obtain ⟨rfl, -⟩ := List.cons.inj cut
      exact absurd overflow present
    | cons first front =>
      obtain ⟨rfl, rfl⟩ := List.cons.inj cut
      obtain ⟨here, later⟩ := List.forall_mem_cons.mp before
      exact ⟨here, front, overflowing, back, rfl, overflow, later⟩
  · rintro ⟨here, front, overflowing, back, rfl, overflow, before⟩
    exact ⟨pair :: front, overflowing, back, rfl, overflow, List.forall_mem_cons.mpr ⟨here, before⟩⟩

theorem transformLoop_spec {pairs : List AlignedPair} {divisor : Int} {signed : Bool}
    (words : ∀ pair ∈ pairs, pair.raw ≤ 0xFFFF) (sawNegative : Bool) :
    (transformLoop divisor signed sawNegative (pairs.map AlignedPair.sample) = .ok true ↔
      (∀ pair ∈ pairs, RoundsToWord pair divisor signed) ∧
        (signed = true ↔ sawNegative = true ∨ ∃ pair ∈ pairs, registerWord signed pair.raw < 0)) ∧
    ((∃ error, transformLoop divisor signed sawNegative (pairs.map AlignedPair.sample) =
      .error error) ↔ OverflowReached pairs divisor signed) := by
  induction pairs generalizing sawNegative with
  | nil =>
    refine ⟨?_, ?_⟩
    · simp only [List.map_nil, transformLoop]
      cases signed <;> cases sawNegative <;> simp
    · refine iff_of_false ?_ ?_
      · rintro ⟨error, failed⟩
        cases failed
      · rintro ⟨front, overflowing, back, cut, -⟩
        exact absurd cut (by simp)
  | cons pair rest ih =>
    obtain ⟨word, words⟩ := List.forall_mem_cons.mp words
    rw [List.map_cons]
    by_cases overflow : multiply pair.cloudValue divisor = none
    · have failed : transformLoop divisor signed sawNegative
          (pair.sample :: rest.map AlignedPair.sample) = .error .decimalOverflow := by
        rw [AlignedPair.sample, transformLoop, overflow]
      rw [failed]
      refine ⟨iff_of_false (by simp) ?_, iff_of_true ⟨_, rfl⟩ ?_⟩
      · rintro ⟨all, -⟩
        obtain ⟨scaled, product, -⟩ := all pair List.mem_cons_self
        rw [overflow] at product
        cases product
      · exact ⟨[], pair, rest, rfl, overflow, by simp⟩
    · rw [overflowReached_cons overflow]
      rcases transformLoop_step signed sawNegative (rest.map AlignedPair.sample) word
        (Option.ne_none_iff_isSome.mp overflow) with ⟨rounds, continued⟩ | ⟨differs, stopped⟩
      · rw [continued]
        obtain ⟨matches_, fails⟩ :=
          ih words (sawNegative || decide (registerWord signed pair.raw < 0))
        refine ⟨?_, ?_⟩
        · rw [matches_]
          simp only [List.forall_mem_cons, rounds, true_and, Bool.or_eq_true, decide_eq_true_eq,
            List.exists_mem_cons_iff, or_assoc]
        · rw [fails]
          simp only [rounds, true_and]
      · rw [stopped]
        refine ⟨iff_of_false (by simp) ?_, iff_of_false (by simp) fun reached => differs reached.1⟩
        rintro ⟨all, -⟩
        exact differs (all pair List.mem_cons_self)

section
variable {pairs : List AlignedPair} {divisor : Int} {signed : Bool}
  (words : ∀ pair ∈ pairs, pair.raw ≤ 0xFFFF)
include words

theorem matches_iff : exactTransformMatches (pairs.map AlignedPair.sample) divisor signed = .ok true ↔
    RoundedMatch pairs divisor signed := by
  rw [exactTransformMatches, (transformLoop_spec words false).1]
  simp only [Bool.false_eq_true, false_or]
  exact ⟨fun both => ⟨both.1, both.2⟩, fun both => ⟨both.words, both.sign⟩⟩

theorem match_fails_iff :
    (∃ error, exactTransformMatches (pairs.map AlignedPair.sample) divisor signed = .error error) ↔
      OverflowReached pairs divisor signed := (transformLoop_spec words false).2

end

end HistoryCorrelation
