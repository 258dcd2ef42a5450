import EybondLocal.Library.SpanUnion
import EybondLocal.SmgDriver.Schema
import Mathlib.Data.List.Dedup
import Mathlib.Data.Rat.Defs

/-!
The register ranges a support capture of an SMG device reads (`_support_capture_ranges` in
`drivers/smg.py`), and the read plans made of them (`drivers/local_register_evidence.py`).
-/
namespace SmgDriver
open OrderedDict PythonObject SpanUnion
variable {F : Type}

/-- The loop of `_merge_capture_ranges`. -/
def mergeLoop (merged : List Span) (currentStart currentCount currentEnd : Int) :
    List Span → List Span
  | [] => merged ++ [⟨currentStart, currentCount⟩]
  | ⟨start, count⟩ :: rest =>
    let stop := start + count
    if start ≤ currentEnd then
      let currentEnd := max currentEnd stop
      mergeLoop merged currentStart (currentEnd - currentStart) currentEnd rest
    else mergeLoop (merged ++ [⟨currentStart, currentCount⟩]) start count stop rest

def startLE (a b : Span) : Bool := a.start ≤ b.start

/-- What both copies of `_merge_capture_ranges` do. -/
def mergeRanges (ranges : List Span) : List Span :=
  match (ranges.filter fun range => 0 < range.count).mergeSort startLE with
  | [] => []
  | ⟨start, count⟩ :: rest => mergeLoop [] start count (start + count) rest

/-- `_merge_capture_ranges` of `drivers/smg.py`. -/
def smgMergeCaptureRanges (ranges : List Span) : List Span := mergeRanges ranges

/-- `_merge_capture_ranges` of `runtime/hub/common.py`. -/
def hubMergeCaptureRanges (ranges : List Span) : List Span := mergeRanges ranges

structure SupportCapturePolicy where
  ranges : List Span := []

def positiveScalars (values : List Int) : List Int :=
  (values.filter (0 < ·)).dedup.mergeSort

def plannedRanges (schema : RegisterSchema F) (policy : SupportCapturePolicy) :
    Except PyError (List Span) := do
  let status ← schema.block "status"
  let serial ← schema.block "serial"
  let live ← schema.block "live"
  let config ← schema.block "config"
  let auxConfig ← schema.specSet "aux_config"
  .ok (([status, serial, live, config].map fun block => ⟨block.start, block.count⟩) ++
    (auxConfig.map fun spec => ⟨spec.register, spec.wordCount⟩) ++
    ((positiveScalars schema.scalarRegisters.values).map fun register => ⟨register, 1⟩) ++
    policy.ranges)

def supportCaptureRanges (schema : RegisterSchema F) (policy : SupportCapturePolicy) :
    Except PyError (List Span) :=
  (plannedRanges schema policy).map smgMergeCaptureRanges

structure ProbeTarget where
  devcode : Int
  collectorAddr : Int
  deviceAddr : Int

structure LocalRegisterReadPlan where
  devcode : Int
  collectorAddr : Int
  deviceAddr : Int
  function : Int
  start : Int
  count : Int
  devcode_word : 0 ≤ devcode ∧ devcode ≤ 0xFFFF
  collectorAddr_byte : 0 ≤ collectorAddr ∧ collectorAddr ≤ 0xFF
  deviceAddr_byte : 0 ≤ deviceAddr ∧ deviceAddr ≤ 0xFF
  function_reads : function = 3 ∨ function = 4
  start_word : 0 ≤ start ∧ start ≤ 0xFFFF
  count_bounded : 1 ≤ count ∧ count ≤ 125
  inside : start + count ≤ 0x10000

/-- `LocalRegisterReadPlan.for_target`, with the checks of `__post_init__` in their order. -/
def LocalRegisterReadPlan.forTarget (target : ProbeTarget) (function start count : Int) :
    Except PyError LocalRegisterReadPlan :=
  if devcode : 0 ≤ target.devcode ∧ target.devcode ≤ 0xFFFF then
    if collectorAddr : 0 ≤ target.collectorAddr ∧ target.collectorAddr ≤ 0xFF then
      if deviceAddr : 0 ≤ target.deviceAddr ∧ target.deviceAddr ≤ 0xFF then
        if reads : function = 3 ∨ function = 4 then
          if startWord : 0 ≤ start ∧ start ≤ 0xFFFF then
            if bounded : 1 ≤ count ∧ count ≤ 125 then
              if inside : start + count ≤ 0x10000 then
                .ok ⟨target.devcode, target.collectorAddr, target.deviceAddr, function, start,
                  count, devcode, collectorAddr, deviceAddr, reads, startWord, bounded, inside⟩
              else .error (valueError "local_register_range_invalid")
            else .error (valueError "local_register_count_invalid")
          else .error (valueError "local_register_start_invalid")
        else .error (valueError "local_register_function_invalid")
      else .error (valueError "local_register_device_addr_invalid")
    else .error (valueError "local_register_collector_addr_invalid")
  else .error (valueError "local_register_devcode_invalid")

def localRegisterReadPlans (target : ProbeTarget) (schema : RegisterSchema F)
    (policy : SupportCapturePolicy) : Except PyError (List LocalRegisterReadPlan) := do
  let ranges ← supportCaptureRanges schema policy
  ranges.mapM fun range => LocalRegisterReadPlan.forTarget target 3 range.start range.count

structure SmgStyle (schema : RegisterSchema F) where
  status : RegisterBlockLayout
  serial : RegisterBlockLayout
  live : RegisterBlockLayout
  config : RegisterBlockLayout
  auxConfig : List (RegisterValueSpec F)
  status_eq : schema.block "status" = .ok status
  serial_eq : schema.block "serial" = .ok serial
  live_eq : schema.block "live" = .ok live
  config_eq : schema.block "config" = .ok config
  auxConfig_eq : schema.specSet "aux_config" = .ok auxConfig

def SmgStyle.ranges {schema : RegisterSchema F} (smg : SmgStyle schema)
    (policy : SupportCapturePolicy) : List Span :=
  ([smg.status, smg.serial, smg.live, smg.config].map fun block => ⟨block.start, block.count⟩) ++
    (smg.auxConfig.map fun spec => ⟨spec.register, spec.wordCount⟩) ++
    ((schema.scalarRegisters.values.filter (0 < ·)).map fun register => ⟨register, 1⟩) ++
    policy.ranges

def Readable (range : Span) : Prop :=
  1 ≤ range.count ∧ range.count ≤ 125 ∧ 0 ≤ range.start ∧ range.stop ≤ 0x10000

def TargetFits (target : ProbeTarget) : Prop :=
  (0 ≤ target.devcode ∧ target.devcode ≤ 0xFFFF) ∧
    (0 ≤ target.collectorAddr ∧ target.collectorAddr ≤ 0xFF) ∧
      (0 ≤ target.deviceAddr ∧ target.deviceAddr ≤ 0xFF)

instance (range : Span) : Decidable (Readable range) :=
  inferInstanceAs (Decidable (1 ≤ range.count ∧ range.count ≤ 125 ∧ 0 ≤ range.start ∧
    range.stop ≤ 0x10000))

instance (target : ProbeTarget) : Decidable (TargetFits target) :=
  inferInstanceAs (Decidable ((0 ≤ target.devcode ∧ target.devcode ≤ 0xFFFF) ∧
    (0 ≤ target.collectorAddr ∧ target.collectorAddr ≤ 0xFF) ∧
      (0 ≤ target.deviceAddr ∧ target.deviceAddr ≤ 0xFF)))

/-- The capture ranges are sorted and apart, cover what was asked for, are the same in both copies,
    and each becomes a read plan. -/
structure Executable (target : ProbeTarget) (schema : RegisterSchema F) (smg : SmgStyle schema)
    (policy : SupportCapturePolicy) (ranges : List Span) : Prop where
  captured : supportCaptureRanges schema policy = .ok ranges
  apart : ranges.Pairwise Apart
  exact : ∀ register, Covers ranges register ↔ Covers (smg.ranges policy) register
  same : (plannedRanges schema policy).map hubMergeCaptureRanges = .ok ranges
  planned : ∃ plans, localRegisterReadPlans target schema policy = .ok plans ∧
    plans.map (fun plan => ⟨plan.start, plan.count⟩) = ranges

theorem mergeLoop_eq (merged : List Span) (current : Span) (rest : List Span) :
    mergeLoop merged current.start current.count current.stop rest =
      merged ++ absorb current rest := by
  induction rest generalizing merged current with
  | nil => rfl
  | cons s rest ih =>
    rw [absorb]
    simp only [mergeLoop]
    split
    · rw [← ih]
      congr 1
      simp only [Span.stop]
      omega
    · rw [show s.start + s.count = s.stop from rfl, ih, List.append_assoc, List.singleton_append]

theorem mergeRanges_eq (ranges : List Span) : mergeRanges ranges =
    merge ((ranges.filter fun range => 0 < range.count).mergeSort startLE) := by
  unfold mergeRanges
  cases (ranges.filter fun range => 0 < range.count).mergeSort startLE with
  | nil => rfl
  | cons s rest => exact mergeLoop_eq [] s rest

theorem startLE_trans (a b c : Span) (first : startLE a b = true) (second : startLE b c = true) :
    startLE a c = true := by
  simp only [startLE, decide_eq_true_eq] at *
  omega

theorem startLE_total (a b : Span) : (startLE a b || startLE b a) = true := by
  simp only [startLE, Bool.or_eq_true, decide_eq_true_eq]
  omega

theorem sorted_normalized (ranges : List Span) :
    (ranges.mergeSort startLE).Pairwise fun a b => a.start ≤ b.start := by
  have sorted := List.pairwise_mergeSort startLE_trans startLE_total ranges
  exact sorted.imp fun le => of_decide_eq_true le

theorem positive_normalized (ranges : List Span) :
    ∀ s ∈ (ranges.filter fun range => 0 < range.count).mergeSort startLE, 0 < s.count :=
  fun _ mem => of_decide_eq_true (List.mem_filter.mp (List.mem_mergeSort.mp mem)).2

theorem mergeRanges_apart (ranges : List Span) : (mergeRanges ranges).Pairwise Apart := by
  rw [mergeRanges_eq]
  exact merge_apart (positive_normalized ranges) (sorted_normalized _)

theorem mergeRanges_positive (ranges : List Span) : ∀ s ∈ mergeRanges ranges, 0 < s.count := by
  rw [mergeRanges_eq]
  exact merge_positive (positive_normalized ranges) (sorted_normalized _)

theorem covers_mergeRanges (ranges : List Span) (register : Int) :
    Covers (mergeRanges ranges) register ↔ Covers ranges register := by
  rw [mergeRanges_eq, covers_merge (sorted_normalized _)]
  constructor
  · rintro ⟨s, mem, holds⟩
    exact ⟨s, (List.mem_filter.mp (List.mem_mergeSort.mp mem)).1, holds⟩
  · rintro ⟨s, mem, holds⟩
    have positive : 0 < s.count := by
      simp only [Span.Holds, Span.stop] at holds
      omega
    exact ⟨s, List.mem_mergeSort.mpr (List.mem_filter.mpr ⟨mem, decide_eq_true positive⟩), holds⟩

def SmgStyle.planned {schema : RegisterSchema F} (smg : SmgStyle schema)
    (policy : SupportCapturePolicy) : List Span :=
  ([smg.status, smg.serial, smg.live, smg.config].map fun block => ⟨block.start, block.count⟩) ++
    (smg.auxConfig.map fun spec => ⟨spec.register, spec.wordCount⟩) ++
    ((positiveScalars schema.scalarRegisters.values).map fun register => ⟨register, 1⟩) ++
    policy.ranges

theorem plannedRanges_eq {schema : RegisterSchema F} (smg : SmgStyle schema)
    (policy : SupportCapturePolicy) : plannedRanges schema policy = .ok (smg.planned policy) := by
  unfold plannedRanges
  rw [smg.status_eq, smg.serial_eq, smg.live_eq, smg.config_eq, smg.auxConfig_eq]
  rfl

theorem mem_positiveScalars {values : List Int} {value : Int} :
    value ∈ positiveScalars values ↔ value ∈ values.filter (0 < ·) := by
  rw [positiveScalars, List.mem_mergeSort, List.mem_dedup]

theorem mem_planned {schema : RegisterSchema F} (smg : SmgStyle schema)
    (policy : SupportCapturePolicy) (range : Span) :
    range ∈ smg.planned policy ↔ range ∈ smg.ranges policy := by
  simp only [SmgStyle.planned, SmgStyle.ranges, List.mem_append, List.mem_map, mem_positiveScalars]

theorem covers_planned {schema : RegisterSchema F} (smg : SmgStyle schema)
    (policy : SupportCapturePolicy) (register : Int) :
    Covers (smg.planned policy) register ↔ Covers (smg.ranges policy) register := by
  simp only [Covers, mem_planned]

theorem forTarget_eq_ok {target : ProbeTarget} {range : Span} (fits : TargetFits target)
    (readable : Readable range) : ∃ plan,
      LocalRegisterReadPlan.forTarget target 3 range.start range.count = .ok plan ∧
        (⟨plan.start, plan.count⟩ : Span) = range := by
  obtain ⟨devcode, collectorAddr, deviceAddr⟩ := fits
  obtain ⟨positive, bounded, low, high⟩ := readable
  simp only [Span.stop] at high
  unfold LocalRegisterReadPlan.forTarget
  rw [dif_pos devcode, dif_pos collectorAddr, dif_pos deviceAddr, dif_pos (Or.inl rfl),
    dif_pos (by omega), dif_pos ⟨positive, bounded⟩, dif_pos (by omega)]
  exact ⟨_, rfl, rfl⟩

theorem forTarget_readable {target : ProbeTarget} {range : Span} {plan : LocalRegisterReadPlan}
    (made : LocalRegisterReadPlan.forTarget target 3 range.start range.count = .ok plan) :
    TargetFits target ∧ range.count ≤ 125 := by
  unfold LocalRegisterReadPlan.forTarget at made
  split_ifs at made with devcode collectorAddr deviceAddr reads startWord bounded inside
  exact ⟨⟨devcode, collectorAddr, deviceAddr⟩, bounded.2⟩

theorem plans_eq_ok {target : ProbeTarget} (fits : TargetFits target) {ranges : List Span}
    (readable : ∀ range ∈ ranges, Readable range) : ∃ plans,
      ranges.mapM (fun range => LocalRegisterReadPlan.forTarget target 3 range.start range.count) =
        .ok plans ∧ plans.map (fun plan => (⟨plan.start, plan.count⟩ : Span)) = ranges := by
  induction ranges with
  | nil => exact ⟨[], rfl, rfl⟩
  | cons range rest ih =>
    obtain ⟨now, later⟩ := List.forall_mem_cons.mp readable
    obtain ⟨plan, made, same⟩ := forTarget_eq_ok fits now
    obtain ⟨plans, success, spans⟩ := ih later
    refine ⟨plan :: plans, ?_, by rw [List.map_cons, same, spans]⟩
    rw [List.mapM_cons, made, success]
    rfl

theorem range_of_plans {target : ProbeTarget} {ranges : List Span}
    {plans : List LocalRegisterReadPlan}
    (success : ranges.mapM (fun range =>
      LocalRegisterReadPlan.forTarget target 3 range.start range.count) = .ok plans) :
    ∀ range ∈ ranges, TargetFits target ∧ range.count ≤ 125 := by
  induction ranges generalizing plans with
  | nil => exact fun range mem => absurd mem List.not_mem_nil
  | cons range rest ih =>
    rw [List.mapM_cons] at success
    obtain ⟨plan, made, success⟩ := bind_eq_ok.mp success
    obtain ⟨plans, later, _⟩ := bind_eq_ok.mp success
    exact List.forall_mem_cons.mpr ⟨forTarget_readable made, ih later⟩

/-- Everything merged lies where the ranges that were asked for lie. -/
theorem merged_inside {ranges : List Span} (readable : ∀ range ∈ ranges, Readable range) :
    ∀ range ∈ mergeRanges ranges, 0 ≤ range.start ∧ range.stop ≤ 0x10000 := by
  intro range mem
  have positive := mergeRanges_positive ranges range mem
  have first : Covers ranges range.start :=
    (covers_mergeRanges ranges _).mp ⟨range, mem, le_rfl, by simp only [Span.stop]; omega⟩
  have last : Covers ranges (range.stop - 1) :=
    (covers_mergeRanges ranges _).mp ⟨range, mem, by simp only [Span.stop]; omega, by omega⟩
  obtain ⟨low, lowMem, lowHolds⟩ := first
  obtain ⟨high, highMem, highHolds⟩ := last
  have lowBound := (readable low lowMem).2.2.1
  have highBound := (readable high highMem).2.2.2
  simp only [Span.Holds] at lowHolds highHolds
  exact ⟨by omega, by omega⟩

theorem run_congr {a b : List Span} (same : ∀ x, Covers a x ↔ Covers b x) (n : Nat) :
    Run a n ↔ Run b n :=
  exists_congr fun _ => forall_congr' fun _ => imp_congr_right fun _ => same _

theorem covers_merged {schema : RegisterSchema F} (smg : SmgStyle schema)
    (policy : SupportCapturePolicy) (register : Int) :
    Covers (mergeRanges (smg.planned policy)) register ↔ Covers (smg.ranges policy) register :=
  (covers_mergeRanges _ _).trans (covers_planned smg policy register)

theorem supportCaptureRanges_eq {schema : RegisterSchema F} (smg : SmgStyle schema)
    (policy : SupportCapturePolicy) :
    supportCaptureRanges schema policy = .ok (mergeRanges (smg.planned policy)) := by
  rw [supportCaptureRanges, plannedRanges_eq smg]
  rfl

theorem merged_nonempty {schema : RegisterSchema F} {smg : SmgStyle schema}
    {policy : SupportCapturePolicy} (readable : ∀ range ∈ smg.ranges policy, Readable range) :
    ∃ range, range ∈ mergeRanges (smg.planned policy) := by
  have member : ⟨smg.status.start, smg.status.count⟩ ∈ smg.ranges policy := by
    simp only [SmgStyle.ranges, List.map_cons, List.cons_append, List.mem_cons, true_or]
  have asked : Covers (smg.ranges policy) smg.status.start := by
    have positive := (readable _ member).1
    exact ⟨_, member, le_rfl, by simp only [Span.stop] at *; omega⟩
  obtain ⟨range, mem, _⟩ := (covers_merged smg policy _).mpr asked
  exact ⟨range, mem⟩

theorem Executable.noLongRun {target : ProbeTarget} {schema : RegisterSchema F}
    {smg : SmgStyle schema} {policy : SupportCapturePolicy} {ranges : List Span}
    (executable : Executable target schema smg policy ranges) :
    ¬ Run (smg.ranges policy) 125 := by
  obtain ⟨plans, success, _⟩ := executable.planned
  rw [localRegisterReadPlans, executable.captured] at success
  rw [← run_congr executable.exact, run_iff_long executable.apart]
  rintro ⟨range, mem, long⟩
  have bounded := (range_of_plans success range mem).2
  omega

theorem executable_of {target : ProbeTarget} {schema : RegisterSchema F} {smg : SmgStyle schema}
    {policy : SupportCapturePolicy} (readable : ∀ range ∈ smg.ranges policy, Readable range)
    (fits : TargetFits target) (short : ¬ Run (smg.ranges policy) 125) :
    Executable target schema smg policy (mergeRanges (smg.planned policy)) := by
  have asked : ∀ range ∈ smg.planned policy, Readable range := fun range mem =>
    readable range ((mem_planned smg policy range).mp mem)
  have each : ∀ range ∈ mergeRanges (smg.planned policy), Readable range := by
    intro range mem
    obtain ⟨low, high⟩ := merged_inside asked range mem
    have positive := mergeRanges_positive _ range mem
    rw [← run_congr (covers_merged smg policy), run_iff_long (mergeRanges_apart _)] at short
    have bounded : range.count ≤ 125 := by
      by_contra long
      exact short ⟨range, mem, by omega⟩
    exact ⟨by omega, bounded, low, high⟩
  obtain ⟨plans, success, spans⟩ := plans_eq_ok fits each
  refine ⟨supportCaptureRanges_eq smg policy, mergeRanges_apart _, covers_merged smg policy, ?_,
    plans, ?_, spans⟩
  · rw [plannedRanges_eq smg]
    rfl
  · rw [localRegisterReadPlans, supportCaptureRanges_eq smg]
    exact success

/-- Of ranges that one request can read each, the capture can be executed exactly when the target
    fits the tunnel's header and no 126 registers in a row are asked for. Everything but the plans
    holds without either condition. -/
theorem executable_iff {target : ProbeTarget} {schema : RegisterSchema F} (smg : SmgStyle schema)
    {policy : SupportCapturePolicy} (readable : ∀ range ∈ smg.ranges policy, Readable range) :
    ((∃ ranges, Executable target schema smg policy ranges) ↔
      TargetFits target ∧ ¬ Run (smg.ranges policy) 125) ∧
    ∃ ranges, supportCaptureRanges schema policy = .ok ranges ∧ ranges.Pairwise Apart ∧
      (∀ register, Covers ranges register ↔ Covers (smg.ranges policy) register) ∧
      (plannedRanges schema policy).map hubMergeCaptureRanges = .ok ranges := by
  constructor
  · constructor
    · rintro ⟨ranges, executable⟩
      refine ⟨?_, executable.noLongRun⟩
      obtain ⟨plans, success, _⟩ := executable.planned
      rw [localRegisterReadPlans, supportCaptureRanges_eq smg] at success
      obtain ⟨range, mem⟩ := merged_nonempty readable
      exact (range_of_plans success range mem).1
    · rintro ⟨fits, short⟩
      exact ⟨_, executable_of readable fits short⟩
  · refine ⟨_, supportCaptureRanges_eq smg policy, mergeRanges_apart _,
      covers_merged smg policy, ?_⟩
    rw [plannedRanges_eq smg]
    rfl

def blocksAt (status serial live config : Span) : RegisterSchema ℚ where
  blocks := [⟨"status", status.start, status.count⟩, ⟨"serial", serial.start, serial.count⟩,
    ⟨"live", live.start, live.count⟩, ⟨"config", config.start, config.count⟩]
  specSets := Dict.empty.set "aux_config" []
  scalarRegisters := Dict.empty

def blocksAt_smgStyle (status serial live config : Span) :
    SmgStyle (blocksAt status serial live config) where
  status := ⟨"status", status.start, status.count⟩
  serial := ⟨"serial", serial.start, serial.count⟩
  live := ⟨"live", live.start, live.count⟩
  config := ⟨"config", config.start, config.count⟩
  auxConfig := []
  status_eq := rfl
  serial_eq := rfl
  live_eq := rfl
  config_eq := rfl
  auxConfig_eq := rfl

theorem blocksAt_ranges (status serial live config : Span) :
    (blocksAt_smgStyle status serial live config).ranges {} = [status, serial, live, config] := rfl

def smgTarget : ProbeTarget := ⟨1, 0xFF, 1⟩

/-- Blocks with gaps between them are captured as they are. -/
theorem gappedBlocks_executable : ∃ ranges, Executable smgTarget
    (blocksAt ⟨100, 10⟩ ⟨186, 12⟩ ⟨201, 34⟩ ⟨300, 43⟩)
    (blocksAt_smgStyle ⟨100, 10⟩ ⟨186, 12⟩ ⟨201, 34⟩ ⟨300, 43⟩) {} ranges := by
  have apart : [(⟨100, 10⟩ : Span), ⟨186, 12⟩, ⟨201, 34⟩, ⟨300, 43⟩].Pairwise Apart := by
    decide
  refine (executable_iff _ ?_).1.mpr ⟨by decide, ?_⟩
  · rw [blocksAt_ranges]
    decide
  · rw [blocksAt_ranges, run_iff_long apart]
    decide

/-- Two touching blocks of 100 registers each are merged into a range no plan can be made of. -/
theorem touchingBlocks_fail : ¬ ∀ target (schema : RegisterSchema ℚ) (smg : SmgStyle schema)
    policy, TargetFits target →
    (∀ range ∈ smg.ranges policy, Readable range) →
      ∃ ranges, Executable target schema smg policy ranges := by
  intro always
  obtain ⟨ranges, executable⟩ := always smgTarget
    (blocksAt ⟨100, 100⟩ ⟨200, 100⟩ ⟨400, 40⟩ ⟨500, 40⟩) (blocksAt_smgStyle _ _ _ _) {}
    (by decide) (by
      rw [blocksAt_ranges]
      decide)
  refine executable.noLongRun ⟨100, fun i le => ?_⟩
  rw [blocksAt_ranges]
  simp only [covers_cons, Span.Holds, Span.stop]
  omega

end SmgDriver
