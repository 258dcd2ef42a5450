import EybondLocal.Support.HistoryCorrelation
import Mathlib.Data.List.ReduceOption

/-!
When a correlation is exact: which registers it lists, and where decimals of limited precision,
overlapping blocks and a bounded sample count make it list others or fail.
-/
namespace HistoryCorrelation
open AwareTimestamp ContextDecimal NearestPoint OrderedDict PythonObject SmgDriver

def EnoughPairs (pairs : List AlignedPair) : Prop := 4 ≤ pairs.length ∧ 3 ≤ valueCount pairs

theorem distinctValues_sample (pairs : List AlignedPair) :
    distinctValues (pairs.map AlignedPair.sample) = valueCount pairs := by
  rw [distinctValues, List.map_map]
  rfl

theorem valueCount_le (pairs : List AlignedPair) : valueCount pairs ≤ pairs.length := by
  have shorter := (List.dedup_sublist (pairs.map fun pair => pair.cloudValue.value)).length_le
  rwa [List.length_map] at shorter

theorem snapshotCount_le (pairs : List AlignedPair) : snapshotCount pairs ≤ pairs.length := by
  have shorter := (List.dedup_sublist (pairs.map AlignedPair.snapshot)).length_le
  rwa [List.length_map] at shorter

theorem mem_transforms {transform : Int × Bool} :
    transform ∈ transforms ↔ transform.1 ∈ divisors := by
  obtain ⟨divisor, signed⟩ := transform
  simp only [transforms, List.mem_flatMap, List.mem_cons, Prod.mk.injEq, List.not_mem_nil, or_false]
  constructor
  · rintro ⟨other, member, ⟨rfl, -⟩ | ⟨rfl, -⟩⟩
    · exact member
    · exact member
  · intro member
    refine ⟨divisor, member, ?_⟩
    cases signed
    · exact Or.inl ⟨rfl, rfl⟩
    · exact Or.inr ⟨rfl, rfl⟩

def candidateOf (location : LocalRegisterLocation) (pairs : List AlignedPair)
    (transform : Int × Bool) : CloudLocalHistoryCandidate :=
  ⟨location, transform.1, transform.2, pairs.length, valueCount pairs⟩

theorem candidate_checked_iff (location : LocalRegisterLocation) {pairs : List AlignedPair}
    {transform : Int × Bool} (enough : EnoughPairs pairs) (known : transform ∈ transforms) :
    (candidateOf location pairs transform).checked = .ok (candidateOf location pairs transform) ∧
        pairs.length ≤ 64 ∨
      (∃ error, (candidateOf location pairs transform).checked = .error error) ∧
        ¬ pairs.length ≤ 64 := by
  have values := valueCount_le pairs
  unfold CloudLocalHistoryCandidate.checked candidateOf
  rw [if_neg (not_not.mpr (mem_transforms.mp known))]
  dsimp only
  by_cases bounded : pairs.length ≤ 64
  · rw [if_neg (not_not.mpr ⟨enough.1, bounded⟩), if_neg (not_not.mpr ⟨enough.2, values⟩)]
    exact Or.inl ⟨rfl, bounded⟩
  · rw [if_pos fun both => bounded both.2]
    exact Or.inr ⟨⟨_, rfl⟩, bounded⟩

theorem transformVerdict_spec (location : LocalRegisterLocation) {pairs : List AlignedPair}
    {transform : Int × Bool} (words : ∀ pair ∈ pairs, pair.raw ≤ 0xFFFF) (enough : EnoughPairs pairs)
    (known : transform ∈ transforms) :
    ((∃ verdict, transformVerdict location (pairs.map AlignedPair.sample) transform = .ok verdict) ↔
      ¬ OverflowReached pairs transform.1 transform.2 ∧
        (RoundedMatch pairs transform.1 transform.2 → pairs.length ≤ 64)) ∧
    ∀ c, transformVerdict location (pairs.map AlignedPair.sample) transform = .ok (some c) ↔
      RoundedMatch pairs transform.1 transform.2 ∧ pairs.length ≤ 64 ∧
        c = candidateOf location pairs transform := by
  have matched : exactTransformMatches (pairs.map AlignedPair.sample) transform.1 transform.2 =
      .ok true ↔ RoundedMatch pairs transform.1 transform.2 := matches_iff words
  have failed : (∃ error, exactTransformMatches (pairs.map AlignedPair.sample) transform.1
      transform.2 = .error error) ↔ OverflowReached pairs transform.1 transform.2 :=
    match_fails_iff words
  have same : (⟨location, transform.1, transform.2, (pairs.map AlignedPair.sample).length,
      distinctValues (pairs.map AlignedPair.sample)⟩ : CloudLocalHistoryCandidate) =
        candidateOf location pairs transform := by
    rw [candidateOf, List.length_map, distinctValues_sample]
  unfold transformVerdict
  rw [same]
  cases outcome : exactTransformMatches (pairs.map AlignedPair.sample) transform.1 transform.2 with
  | error error =>
    have reached := failed.mp ⟨error, outcome⟩
    have unmatched : ¬ RoundedMatch pairs transform.1 transform.2 := by
      rw [← matched, outcome]
      simp
    exact ⟨iff_of_false (by simp [bind, Except.bind]) fun both => both.1 reached,
      fun c => iff_of_false (by simp [bind, Except.bind]) fun both => unmatched both.1⟩
  | ok holds =>
    have unreached : ¬ OverflowReached pairs transform.1 transform.2 := by
      rw [← failed, outcome]
      simp
    cases holds with
    | false =>
      have unmatched : ¬ RoundedMatch pairs transform.1 transform.2 := by
        rw [← matched, outcome]
        simp
      exact ⟨iff_of_true ⟨none, rfl⟩ ⟨unreached, fun match_ => absurd match_ unmatched⟩,
        fun c => iff_of_false (by simp [bind, Except.bind]) fun both => unmatched both.1⟩
    | true =>
      have match_ := matched.mp outcome
      rcases candidate_checked_iff location enough known with
        ⟨checked, bounded⟩ | ⟨⟨error, checked⟩, unbounded⟩
      · refine ⟨iff_of_true ⟨some (candidateOf location pairs transform), ?_⟩
          ⟨unreached, fun _ => bounded⟩, fun c => ?_⟩
        · simp [bind, Except.bind, checked]
        · simp [bind, Except.bind, checked, match_, bounded, eq_comm]
      · refine ⟨iff_of_false ?_ fun both => unbounded (both.2 match_), fun c =>
          iff_of_false ?_ fun both => unbounded both.2.1⟩
        · simp [bind, Except.bind, checked]
        · simp [bind, Except.bind, checked]

section
variable {cloud : CloudHistorySeries} {series : LocalRegisterSnapshotSeries} {tolerance : Tolerance}

theorem correlateLocation_spec (location : LocalRegisterLocation) :
    let found := pairs cloud series tolerance location
    let verdict := correlateLocation (timeline cloud) tolerance
      (location, (observations series location).map Prod.snd)
    ((∃ v, verdict = .ok v) ↔ (EnoughPairs found → ∀ transform ∈ transforms,
      ¬ OverflowReached found transform.1 transform.2 ∧
        (RoundedMatch found transform.1 transform.2 → found.length ≤ 64))) ∧
    ∀ v, verdict = .ok v → v.alignedCount = found.length ∧ v.distinctCount = valueCount found ∧
      ∀ c, c ∈ v.candidates ↔ EnoughPairs found ∧ ∃ transform ∈ transforms,
        RoundedMatch found transform.1 transform.2 ∧ c = candidateOf location found transform := by
  intro found verdict
  have words : ∀ pair ∈ found, pair.raw ≤ 0xFFFF := fun pair member => raw_le member
  have unfolded : verdict = if found.length < 4 ∨ valueCount found < 3 then
      .ok ⟨found.length, valueCount found, []⟩
    else (transforms.mapM (transformVerdict location (found.map AlignedPair.sample))).bind
      fun matching => .ok ⟨found.length, valueCount found, matching.reduceOption⟩ := by
    simp only [verdict, correlateLocation, alignSamples_eq, List.length_map, distinctValues_sample]
    rfl
  rw [unfolded]
  by_cases enough : EnoughPairs found
  · obtain ⟨four, three⟩ := enough
    have spec := fun transform (known : transform ∈ transforms) =>
      transformVerdict_spec location words ⟨four, three⟩ known
    rw [if_neg (by omega)]
    have succeeds : (∃ matching, transforms.mapM (transformVerdict location
        (found.map AlignedPair.sample)) = .ok matching) ↔ ∀ transform ∈ transforms,
          ¬ OverflowReached found transform.1 transform.2 ∧
            (RoundedMatch found transform.1 transform.2 → found.length ≤ 64) := by
      rw [mapM_ok_iff]
      exact forall₂_congr fun transform known => (spec transform known).1
    cases outcome : transforms.mapM (transformVerdict location (found.map AlignedPair.sample)) with
    | error error =>
      rw [outcome] at succeeds
      refine ⟨iff_of_false (by simp [Except.bind]) fun all => ?_, by simp [Except.bind]⟩
      simpa using succeeds.mpr (all ⟨four, three⟩)
    | ok matching =>
      refine ⟨iff_of_true ⟨_, rfl⟩ fun _ => succeeds.mp ⟨matching, outcome⟩, ?_⟩
      rintro v same
      obtain rfl := Except.ok.inj same
      refine ⟨rfl, rfl, fun c => ?_⟩
      rw [List.reduceOption_mem_iff, mem_mapM outcome]
      constructor
      · rintro ⟨transform, known, listed⟩
        obtain ⟨match_, -, rfl⟩ := ((spec transform known).2 c).mp listed
        exact ⟨⟨four, three⟩, transform, known, match_, rfl⟩
      · rintro ⟨-, transform, known, match_, rfl⟩
        have bounded := (succeeds.mp ⟨matching, outcome⟩ transform known).2 match_
        exact ⟨transform, known, ((spec transform known).2 _).mpr ⟨match_, bounded, rfl⟩⟩
  · have few : found.length < 4 ∨ valueCount found < 3 := by
      unfold EnoughPairs at enough
      omega
    rw [if_pos few]
    refine ⟨iff_of_true ⟨_, rfl⟩ fun given => absurd given enough, ?_⟩
    rintro v same
    obtain rfl := Except.ok.inj same
    exact ⟨rfl, rfl, fun c => iff_of_false (by simp) fun given => enough given.1⟩

def orderedCandidates (verdicts : List LocationVerdict) : List CloudLocalHistoryCandidate :=
  (verdicts.flatMap LocationVerdict.candidates).insertionSort fun a b => tupleLE a.rank b.rank

theorem correlate_eq :
    correlate cloud series tolerance =
      ((collect (allSamples series)).items.mapM (correlateLocation (timeline cloud) tolerance)).map
        fun verdicts =>
          (correlationStatus verdicts (orderedCandidates verdicts), orderedCandidates verdicts) := by
  unfold correlate
  rw [cloudPoints_eq, localRegisterSamples_eq]
  simp only [bind, Except.bind]
  cases (collect (allSamples series)).items.mapM (correlateLocation (timeline cloud) tolerance)
  · rfl
  · rfl

/-- Nothing raises: no product overflows before a mismatch, and no match has too many pairs. -/
theorem correlate_ok_iff :
    (∃ result, correlate cloud series tolerance = .ok result) ↔
      ∀ location, EnoughPairs (pairs cloud series tolerance location) →
        ∀ transform ∈ transforms,
          ¬ OverflowReached (pairs cloud series tolerance location) transform.1 transform.2 ∧
            (RoundedMatch (pairs cloud series tolerance location) transform.1 transform.2 →
              (pairs cloud series tolerance location).length ≤ 64) := by
  have returns : (∃ result, correlate cloud series tolerance = .ok result) ↔
      ∃ verdicts, (collect (allSamples series)).items.mapM
        (correlateLocation (timeline cloud) tolerance) = .ok verdicts := by
    rw [correlate_eq]
    cases (collect (allSamples series)).items.mapM (correlateLocation (timeline cloud) tolerance)
    · simp [Except.map]
    · simp [Except.map]
  rw [returns, mapM_ok_iff]
  constructor
  · intro each location enough
    have observed := observed_of_enough enough.1
    exact (correlateLocation_spec location).1.mp
      (each (location, _) (entry_iff.mpr ⟨rfl, observed⟩)) enough
  · rintro fine ⟨location, samples⟩ member
    obtain ⟨rfl, -⟩ := entry_iff.mp member
    exact (correlateLocation_spec location).1.mpr (fine location)

theorem foldl_max_lt {values : List Nat} {limit start : Nat} :
    values.foldl max start < limit ↔ start < limit ∧ ∀ value ∈ values, value < limit := by
  induction values generalizing start with
  | nil => simp
  | cons value rest ih =>
    rw [List.foldl_cons, ih, List.forall_mem_cons, Nat.max_lt, and_assoc]

theorem mem_orderedCandidates {verdicts : List LocationVerdict} {c : CloudLocalHistoryCandidate} :
    c ∈ orderedCandidates verdicts ↔ ∃ v ∈ verdicts, c ∈ v.candidates := by
  rw [orderedCandidates, List.mem_insertionSort, List.mem_flatMap]

/-- Where every candidate comes from enough pairs, the status `unique` only counts them. -/
theorem correlationStatus_unique_iff {verdicts : List LocationVerdict}
    (enough : ∀ v ∈ verdicts, v.candidates ≠ [] → 4 ≤ v.alignedCount ∧ 3 ≤ v.distinctCount) :
    correlationStatus verdicts (orderedCandidates verdicts) = .unique ↔
      (orderedCandidates verdicts).length = 1 := by
  unfold correlationStatus
  constructor
  · intro unique
    split at unique
    · cases unique
    · split at unique
      · cases unique
      · split at unique
        · cases unique
        · split at unique
          · assumption
          · cases unique
  · intro one
    have some_listed : orderedCandidates verdicts ≠ [] := by
      intro empty
      rw [empty] at one
      cases one
    obtain ⟨c, listed⟩ := List.exists_mem_of_ne_nil _ some_listed
    obtain ⟨v, member, listed⟩ := mem_orderedCandidates.mp listed
    obtain ⟨four, three⟩ := enough v member (List.ne_nil_of_mem listed)
    have aligned : ¬ (verdicts.map LocationVerdict.alignedCount).foldl max 0 < 4 := by
      rw [foldl_max_lt]
      intro below
      have bound := below.2 v.alignedCount (List.mem_map_of_mem member)
      omega
    have distinct : ¬ (verdicts.map LocationVerdict.distinctCount).foldl max 0 < 3 := by
      rw [foldl_max_lt]
      intro below
      have bound := below.2 v.distinctCount (List.mem_map_of_mem member)
      omega
    rw [if_neg aligned, if_neg distinct, if_neg some_listed, if_pos one]

theorem correlate_listed {status : CorrelationStatus} {listed : List CloudLocalHistoryCandidate}
    (returned : correlate cloud series tolerance = .ok (status, listed)) :
    (∀ c, c ∈ listed ↔ EnoughPairs (pairs cloud series tolerance c.location) ∧
      ∃ transform ∈ transforms,
        RoundedMatch (pairs cloud series tolerance c.location) transform.1 transform.2 ∧
          c = candidateOf c.location (pairs cloud series tolerance c.location) transform) ∧
    (status = .unique ↔ listed.length = 1) := by
  rw [correlate_eq] at returned
  cases outcome : (collect (allSamples series)).items.mapM
      (correlateLocation (timeline cloud) tolerance) with
  | error error =>
    rw [outcome] at returned
    cases returned
  | ok verdicts =>
    rw [outcome] at returned
    obtain ⟨rfl, rfl⟩ := Prod.mk.inj (Except.ok.inj returned)
    have from_entry (v : LocationVerdict) (member : v ∈ verdicts) : ∃ location,
        v.alignedCount = (pairs cloud series tolerance location).length ∧
        v.distinctCount = valueCount (pairs cloud series tolerance location) ∧
        ∀ c, c ∈ v.candidates ↔ EnoughPairs (pairs cloud series tolerance location) ∧
          ∃ transform ∈ transforms,
            RoundedMatch (pairs cloud series tolerance location) transform.1 transform.2 ∧
              c = candidateOf location (pairs cloud series tolerance location) transform := by
      obtain ⟨⟨location, samples⟩, entry, verdict⟩ := (mem_mapM outcome).mp member
      obtain ⟨rfl, -⟩ := entry_iff.mp entry
      exact ⟨location, (correlateLocation_spec location).2 v verdict⟩
    refine ⟨fun c => ?_, correlationStatus_unique_iff fun v member some_listed => ?_⟩
    · rw [mem_orderedCandidates]
      constructor
      · rintro ⟨v, member, listed⟩
        obtain ⟨location, -, -, candidates⟩ := from_entry v member
        obtain ⟨enough, transform, known, match_, rfl⟩ := (candidates c).mp listed
        exact ⟨enough, transform, known, match_, rfl⟩
      · rintro ⟨enough, transform, known, match_, same⟩
        have observed := observed_of_enough enough.1
        obtain ⟨v, verdict⟩ := mapM_ok_iff.mp ⟨verdicts, outcome⟩
          (c.location, (observations series c.location).map Prod.snd) (entry_iff.mpr ⟨rfl, observed⟩)
        exact ⟨v, (mem_mapM outcome).mpr ⟨_, entry_iff.mpr ⟨rfl, observed⟩, verdict⟩,
          (((correlateLocation_spec c.location).2 v verdict).2.2 c).mpr
            ⟨enough, transform, known, match_, same⟩⟩
    · obtain ⟨c, listed⟩ := List.exists_mem_of_ne_nil _ some_listed
      obtain ⟨location, aligned, distinct, candidates⟩ := from_entry v member
      obtain ⟨⟨four, three⟩, -⟩ := (candidates c).mp listed
      rw [aligned, distinct]
      exact ⟨four, three⟩

end

def ProductKept (pair : AlignedPair) (divisor : Int) : Prop :=
  ∀ scaled, multiply pair.cloudValue divisor = some scaled →
    scaled.value = pair.cloudValue.value * divisor

structure TransformSound (pairs : List AlignedPair) (divisor : Int) (signed : Bool) : Prop where
  no_overflow : ¬ OverflowReached pairs divisor signed
  match_faithful : RoundedMatch pairs divisor signed → pairs.length ≤ 64 ∧ 4 ≤ snapshotCount pairs ∧
    ∀ pair ∈ pairs, ProductKept pair divisor

theorem rounds_of_exact {pair : AlignedPair} {divisor : Int} {signed : Bool}
    (word : pair.raw ≤ 0xFFFF)
    (same : pair.cloudValue.value * divisor = registerWord signed pair.raw) :
    RoundsToWord pair divisor signed :=
  finalize_integer ((value_product pair.cloudValue divisor).trans same) (registerWord_small signed word)

theorem exactCandidate_rounds {pairs : List AlignedPair} {divisor : Int} {signed : Bool}
    (words : ∀ pair ∈ pairs, pair.raw ≤ 0xFFFF) (candidate : ExactCandidate pairs divisor signed) :
    RoundedMatch pairs divisor signed where
  words pair member := rounds_of_exact (words pair member) (candidate.word_eq pair member)
  sign := by
    rw [candidate.negative_seen]
    refine exists_congr fun pair => and_congr_right fun member => ?_
    rw [candidate.word_eq pair member]
    norm_cast

theorem exactCandidate_of_faithful {pairs : List AlignedPair} {divisor : Int} {signed : Bool}
    (known : divisor ∈ divisors) (enough : EnoughPairs pairs)
    (match_ : RoundedMatch pairs divisor signed) (snapshots : 4 ≤ snapshotCount pairs)
    (kept : ∀ pair ∈ pairs, ProductKept pair divisor) : ExactCandidate pairs divisor signed := by
  have exact_word : ∀ pair ∈ pairs,
      pair.cloudValue.value * divisor = registerWord signed pair.raw := by
    intro pair member
    obtain ⟨scaled, product, value⟩ := match_.words pair member
    rw [← kept pair member scaled product, value]
  refine ⟨known, snapshots, enough.2, exact_word, ?_⟩
  rw [match_.sign]
  refine exists_congr fun pair => and_congr_right fun member => ?_
  rw [exact_word pair member]
  norm_cast

/-- **Exactness of the correlation.** It returns and lists exactly the candidates where, for every
    register with enough pairs and every transform, no product overflows while all before it are
    words, and a match has at most 64 pairs, from four snapshots, with no product rounded away. -/
theorem correlation_exact_iff (cloud : CloudHistorySeries) (series : LocalRegisterSnapshotSeries)
    (tolerance : Tolerance) :
    CorrelationExact cloud series tolerance ↔
      ∀ location, EnoughPairs (pairs cloud series tolerance location) →
        ∀ divisor ∈ divisors, ∀ signed,
          TransformSound (pairs cloud series tolerance location) divisor signed := by
  constructor
  · rintro ⟨status, listed, returned, exact_list, -⟩ location enough divisor known signed
    have known' : (divisor, signed) ∈ transforms := mem_transforms.mpr known
    obtain ⟨unreached, bounded⟩ :=
      correlate_ok_iff.mp ⟨_, returned⟩ location enough (divisor, signed) known'
    refine ⟨unreached, fun match_ => ⟨bounded match_, ?_⟩⟩
    have present := ((correlate_listed returned).1
      (candidateOf location (pairs cloud series tolerance location) (divisor, signed))).mpr
        ⟨enough, (divisor, signed), known', match_, rfl⟩
    have candidate := (exact_list location divisor signed).mp ⟨_, present, rfl, rfl, rfl⟩
    refine ⟨candidate.four_snapshots, fun pair member scaled product => ?_⟩
    obtain ⟨other, same, value⟩ := match_.words pair member
    cases Option.some.inj (product.symm.trans same)
    rw [value, candidate.word_eq pair member]
  · intro sound
    have returns : ∃ result, correlate cloud series tolerance = .ok result := by
      refine correlate_ok_iff.mpr fun location enough transform known => ?_
      have here := sound location enough transform.1 (mem_transforms.mp known) transform.2
      exact ⟨here.no_overflow, fun match_ => (here.match_faithful match_).1⟩
    obtain ⟨⟨status, listed⟩, returned⟩ := returns
    obtain ⟨members, unique⟩ := correlate_listed returned
    refine ⟨status, listed, returned, fun location divisor signed => ?_, unique⟩
    constructor
    · rintro ⟨c, member, rfl, rfl, rfl⟩
      obtain ⟨enough, transform, known, match_, same⟩ := (members c).mp member
      have divisor_eq : c.divisor = transform.1 := congrArg CloudLocalHistoryCandidate.divisor same
      have signed_eq : c.signed = transform.2 := congrArg CloudLocalHistoryCandidate.signed same
      rw [divisor_eq, signed_eq]
      have known' := mem_transforms.mp known
      obtain ⟨-, snapshots, kept⟩ :=
        (sound c.location enough transform.1 known' transform.2).match_faithful match_
      exact exactCandidate_of_faithful known' enough match_ snapshots kept
    · intro candidate
      have enough : EnoughPairs (pairs cloud series tolerance location) :=
        ⟨candidate.four_snapshots.trans (snapshotCount_le _), candidate.three_values⟩
      have match_ := exactCandidate_rounds (fun pair member => raw_le member) candidate
      exact ⟨candidateOf location (pairs cloud series tolerance location) (divisor, signed),
        (members _).mpr ⟨enough, (divisor, signed), mem_transforms.mpr candidate.divisor_known,
          match_, rfl⟩, rfl, rfl, rfl⟩

def minutePlan : LocalRegisterReadPlan where
  devcode := 1
  collectorAddr := 1
  deviceAddr := 1
  function := 3
  start := 10
  count := 1
  devcode_word := by decide
  collectorAddr_byte := by decide
  deviceAddr_byte := by decide
  function_reads := by decide
  start_word := by decide
  count_bounded := by decide
  inside := by decide

def minuteSnapshot (text : String) (word : Nat) (read : (evidenceDatetime text).isSome)
    (small : word ≤ 0xFFFF) : LocalRegisterSnapshot where
  startedAt := text
  completedAt := text
  plannedBlockCount := 1
  failedBlockCount := 0
  blocks := [⟨minutePlan, text, [word], read, rfl, by simpa using small⟩]
  started_read := read
  completed_read := read
  planned_bounded := by decide
  planned_eq := rfl
  inside := ⟨le_rfl, by
    intro block member
    rw [List.mem_singleton.mp member]
    exact ⟨le_rfl, le_rfl⟩⟩
  plans_differ := List.nodup_singleton _

def minuteSeries : LocalRegisterSnapshotSeries where
  snapshots := [
    minuteSnapshot "2024-05-01T00:00:00+00:00" 1 (by decide +kernel) (by decide),
    minuteSnapshot "2024-05-01T00:05:00+00:00" 2 (by decide +kernel) (by decide),
    minuteSnapshot "2024-05-01T00:10:00+00:00" 3 (by decide +kernel) (by decide),
    minuteSnapshot "2024-05-01T00:15:00+00:00" 4 (by decide +kernel) (by decide)]
  count_bounded := by decide
  apart := by decide +kernel

def minuteCloud : CloudHistorySeries where
  points := [
    ⟨"2024-05-01T00:00:00+00:00", "1.00000000000000000000000000001", by decide +kernel,
      by decide +kernel, by decide +kernel⟩,
    ⟨"2024-05-01T00:05:00+00:00", "2", by decide +kernel, by decide +kernel, by decide +kernel⟩,
    ⟨"2024-05-01T00:10:00+00:00", "3", by decide +kernel, by decide +kernel, by decide +kernel⟩,
    ⟨"2024-05-01T00:15:00+00:00", "4", by decide +kernel, by decide +kernel, by decide +kernel⟩]
  few := by decide
  ordered := by decide +kernel

/-- The register is listed although one of its words is not the value of the cloud. -/
theorem roundedValue_listed :
    ¬ CorrelationExact minuteCloud minuteSeries ⟨60, by decide⟩ := by
  rintro ⟨status, listed, returned, exact_list, -⟩
  have evaluated : (correlate minuteCloud minuteSeries ⟨60, by decide⟩).toOption.map Prod.snd =
      some [⟨planLocation minutePlan 0, 1, false, 4, 4⟩] := by decide +kernel
  have paired : (pairs minuteCloud minuteSeries ⟨60, by decide⟩ (planLocation minutePlan 0)).head? =
      some ⟨0, ⟨100000000000000000000000000001, -29⟩, 1⟩ := by decide +kernel
  rw [returned] at evaluated
  obtain rfl := Option.some.inj evaluated
  have candidate := (exact_list (planLocation minutePlan 0) 1 false).mp
    ⟨_, List.mem_singleton_self _, rfl, rfl, rfl⟩
  have wrong := candidate.word_eq _ (List.mem_of_head? paired)
  revert wrong
  norm_num [Decimal.value, registerWord]

end HistoryCorrelation
