import EybondLocal.Capability.DeviceWrite
import EybondLocal.Capability.WriteConfirmation
import EybondLocal.Hub.Telemetry
import EybondLocal.SmgDriver.OptionalReads
import Mathlib.Data.List.Dedup
import Mathlib.Data.List.Perm.Subperm
import Mathlib.Data.List.ReduceOption
import Mathlib.Data.List.Sort

/-!
A full SMG poll (`drivers/smg.py`): the reads of the schema's blocks and auxiliary registers, single
reads of control registers outside the polled blocks, the values of controls that no spec decodes,
and the observation that a pending write trace gets. How the decoded blocks become the shown values
(corrections, optional details, derived states) is a parameter.
-/
namespace SmgDriver
open Capability OrderedDict PythonObject StripText
variable {F : Type}

structure PolledCapability extends WriteCapability where
  readKey : String := ""
  pollReadback : Bool := true

namespace PolledCapability
variable (c : PolledCapability)

def valueKey : String := if c.readKey ≠ "" then c.readKey else c.key

def registers : List Int :=
  (List.range (max c.wordCount 1).toNat).map fun (offset : Nat) => c.register + offset

def Readable : Prop := c.pollReadback = true ∧ c.valueKind ≠ .action ∧ 0 < c.register

instance : Decidable c.Readable :=
  inferInstanceAs (Decidable (c.pollReadback = true ∧ c.valueKind ≠ .action ∧ 0 < c.register))

end PolledCapability

/-- What `async_read_values` takes from the schema. -/
structure PollLayout (F : Type) where
  status : RegisterBlockLayout
  live : RegisterBlockLayout
  config : RegisterBlockLayout
  statusFields : List (RegisterValueSpec F)
  liveFields : List (RegisterValueSpec F)
  configFields : List (RegisterValueSpec F)
  auxConfig : List (RegisterValueSpec F)
  faultCodeNames : BitLabels
  warningCodeNames : BitLabels

def specsForBlock (specs : List (RegisterValueSpec F)) (block : RegisterBlockLayout) :
    List (RegisterValueSpec F) :=
  specs.filter fun spec =>
    block.start ≤ spec.register && spec.register + spec.wordCount ≤ block.start + block.count

def pollLayout (schema : RegisterSchema F) : Except PyError (PollLayout F) := do
  let status ← schema.block "status"
  let live ← schema.block "live"
  let config ← schema.block "config"
  let statusSpecs ← schema.specSet "status"
  let liveSpecs ← schema.specSet "live"
  let configSpecs ← schema.specSet "config"
  let auxConfig ← schema.specSet "aux_config"
  let faultCodeNames ← schema.bitLabelsFor "fault_code_names"
  let warningCodeNames ← schema.bitLabelsFor "warning_code_names"
  .ok ⟨status, live, config, specsForBlock statusSpecs status, specsForBlock liveSpecs live,
    specsForBlock configSpecs config, auxConfig, faultCodeNames, warningCodeNames⟩

namespace PollLayout
variable (layout : PollLayout F)

def blocks : List RegisterBlockLayout := [layout.status, layout.live, layout.config]

def auxRegisters : List Int :=
  layout.auxConfig.flatMap fun spec =>
    (List.range (max spec.wordCount 1).toNat).map fun (offset : Nat) => spec.register + offset

end PollLayout

abbrev ReadHolding := Int → Int → Except ReadFailure (List Nat)

def holdingSession (read : ReadHolding) : Session Unit where
  readHolding start count _ := ((read start count).map (List.map Int.ofNat), ())

abbrev RegisterBlocks := List (Int × List Nat)

inductive PollError where
  | schema (error : PyError)
  | read (failure : ReadFailure)
  | optional (error : OptionalError)
  | decode (error : PyError)
  | codec (error : CodecError)
  | trace (error : PyError)
  | result (error : PyError)
  deriving DecidableEq, Repr

/-- The parts of a poll that the read-back does not look into: the floats of the spec decoder, the
    steps from the decoded blocks (status, live, config, auxiliary) to the values, and the
    diagnostics of a trace. -/
structure PollSteps (F : Type) where
  floats : FloatOps F
  assemble : PollLayout F → Decoded F → Decoded F → Decoded F → Decoded F →
    Except PyError Hub.Values
  traceDiagnostics : CapabilityWriteConfirmation → Hub.Value

def readBlock (read : ReadHolding) (block : RegisterBlockLayout) :
    Except PollError (Int × List Nat) :=
  ((read block.start block.count).map fun words => (block.start, words)).mapError .read

def decodePolled (floats : FloatOps F) (block : Int × List Nat) (specs : List (RegisterValueSpec F)) :
    Except PollError (Decoded F) :=
  (decodeBlock floats block.1 (block.2.map Int.ofNat) specs).mapError .decode

/-- The polled blocks and the values that the schema's specs give. -/
def readSpecs (steps : PollSteps F) (read : ReadHolding) (layout : PollLayout F) :
    Except PollError (RegisterBlocks × Hub.Values) := do
  let status ← readBlock read layout.status
  let statusValues ← decodePolled steps.floats status layout.statusFields
  let live ← readBlock read layout.live
  let liveValues ← decodePolled steps.floats live layout.liveFields
  let config ← readBlock read layout.config
  let configValues ← decodePolled steps.floats config layout.configFields
  let auxValues ← (readOptionalSpecs steps.floats (holdingSession read) layout.auxConfig
    ()).result.mapError .optional
  let values ← (steps.assemble layout statusValues liveValues configValues auxValues).mapError .decode
  .ok ([status, live, config], values)

def blockRegisters (blocks : RegisterBlocks) : List Int :=
  blocks.flatMap fun block => (List.range block.2.length).map fun (index : Nat) => block.1 + index

def neededRegisters (capabilities : List PolledCapability) (polled : List Int) : List Int :=
  let needed := (capabilities.filter fun (c : PolledCapability) => c.Readable).flatMap
    fun (c : PolledCapability) => c.registers.filter (· ∉ polled)
  needed.dedup.insertionSort (· ≤ ·)

def readExtra (read : ReadHolding) (register : Int) : Except PollError (Option (Int × List Nat)) :=
  match read register 1 with
  | .ok [] => .ok none
  | .ok (raw :: _) => .ok (some (register, [raw]))
  -- only a `ModbusError` is passed over
  | .error failure => if failure.modbus then .ok none else .error (.read failure)

def readOutOfBlockCapabilityRegisters (read : ReadHolding) (capabilities : List PolledCapability)
    (polledBlocks : RegisterBlocks) (alreadyRead : List Int) : Except PollError RegisterBlocks :=
  (((neededRegisters capabilities (alreadyRead ++ blockRegisters polledBlocks)).take 16).mapM
    (readExtra read)).map List.reduceOption

def registerMap (blocks : RegisterBlocks) : Dict Int Nat :=
  (blocks.flatMap fun block => block.2.zipIdx.map fun item => (block.1 + (item.2 : Int), item.1)).foldl
    (fun map entry => map.set entry.1 entry.2) Dict.empty

namespace PolledCapability
variable (c : PolledCapability) (p : Platform)

/-- The words of the capability. A missing register is a `KeyError` or a `ValueError`, and both
    are caught wherever this is used. -/
def wordsFromMap (map : Dict Int Nat) : Except CodecError (List Nat) :=
  (List.range c.wordCount.toNat).mapM fun (offset : Nat) =>
    match map.get? (c.register + offset) with
    | some word => .ok word
    | none =>
      .error (c.refuse "capability_full_poll_readback_missing" (toString (c.register + offset)))

def comparableCapabilityWords (observedWords : List Nat) : Except CodecError (List Int) :=
  if (observedWords.length : Int) ≠ c.wordCount then
    .error (c.refuse "capability_post_write_read_length" ("expected=" ++ toString c.wordCount ++
      ":observed=" ++ toString observedWords.length))
  else .ok (c.comparableWords observedWords)

def observed (words : List Nat) : Except CodecError (List Int × NativeValue) := do
  let comparable ← c.comparableCapabilityWords words
  let value ← c.decodeCapabilityValue p comparable
  .ok (comparable, value)

end PolledCapability

def hubValue : NativeValue → Hub.Value
  | .none => .none
  | .bool b => .bool b
  | .int n => .int n
  | .number q => .number q
  | .nonFinite "nan" => .nan
  | .nonFinite text => .infinity (startsWith text "-")
  | .text s => .text s
  | .moment at_ => .structured (momentText at_)
  | .other text => .structured text

def writeConfirmationDiagnosticKey : String := "runtime_capability_write_confirmation"

def writeConfirmationDiagnostics (steps : PollSteps F) :
    Option CapabilityWriteConfirmation → Hub.Values
  | none => Dict.empty
  | some trace => Dict.empty.set writeConfirmationDiagnosticKey (steps.traceDiagnostics trace)

section
variable (p : Platform)

/-- The loop body of `_apply_capability_read_back`. Only a `KeyError` or `ValueError` is caught. -/
def applyCapability (map : Dict Int Nat) (values : Hub.Values) (c : PolledCapability) :
    Except CodecError Hub.Values :=
  if c.valueKey = "" ∨ (values.get? c.valueKey).isSome then .ok values
  else if map.get? c.register = none then .ok values
  else
    match c.wordsFromMap map >>= c.observed p with
    | .ok (_, value) => .ok (values.set c.valueKey (hubValue value))
    | .error (.value _) => .ok values
    | .error error => .error error

def applyCapabilityReadBack (values : Hub.Values) (capabilities : List PolledCapability)
    (registerBlocks : RegisterBlocks) : Except CodecError Hub.Values :=
  capabilities.foldlM (applyCapability p (registerMap registerBlocks)) values

def tracedCapability (trace : CapabilityWriteConfirmation) (capabilities : List PolledCapability) :
    Option PolledCapability :=
  capabilities.find? fun (c : PolledCapability) => c.key = trace.capabilityKey

def pollObservation (trace : CapabilityWriteConfirmation) (capabilities : List PolledCapability)
    (registerBlocks : RegisterBlocks) : Option (List Int × NativeValue) :=
  (tracedCapability trace capabilities).bind fun c =>
    (c.wordsFromMap (registerMap registerBlocks) >>= c.observed p).toOption

def observeCapabilityWriteFullPoll (state : Option CapabilityWriteConfirmation)
    (capabilities : List PolledCapability) (registerBlocks : RegisterBlocks) :
    Except PyError (Option CapabilityWriteConfirmation) :=
  match state with
  | none => .ok none
  | some trace =>
    match pollObservation p trace capabilities registerBlocks with
    | none => (trace.withPollObservation .none none).map some
    | some (comparable, value) =>
      (trace.withPollObservation value (some (comparable == trace.requestedWords))).map some

structure PollResult where
  read : Hub.DriverReadResult
  trace : Option CapabilityWriteConfirmation

def asyncReadValues (steps : PollSteps F) (read : ReadHolding) (schema : RegisterSchema F)
    (capabilities : List PolledCapability) (state : Option CapabilityWriteConfirmation) :
    Except PollError PollResult := do
  let layout ← (pollLayout schema).mapError .schema
  let (polledBlocks, polled) ← readSpecs steps read layout
  let extraBlocks ←
    readOutOfBlockCapabilityRegisters read capabilities polledBlocks layout.auxRegisters
  let allPolledBlocks := polledBlocks ++ extraBlocks
  let values ← (applyCapabilityReadBack p polled capabilities allPolledBlocks).mapError .codec
  let trace ← (observeCapabilityWriteFullPoll p state capabilities allPolledBlocks).mapError .trace
  let result ← (Hub.driverReadResult values .full []
    (writeConfirmationDiagnostics steps trace)).mapError .result
  .ok ⟨result, trace⟩

end

def deviceWords (device : Int → BitVec 16) (start : Int) (count : Nat) : List Nat :=
  (List.range count).map fun (index : Nat) => (device (start + (index : Int))).toNat

def deviceRead (device : Int → BitVec 16) : ReadHolding :=
  fun start count => .ok (deviceWords device start count.toNat)

def Answers (read : ReadHolding) (device : Int → BitVec 16) : Prop :=
  ∀ start count, read start count = deviceRead device start count

/-- What the schema's specs give for the words of a device. -/
def specValues (steps : PollSteps F) (device : Int → BitVec 16) (layout : PollLayout F) :
    Except PollError Hub.Values :=
  (readSpecs steps (deviceRead device) layout).map Prod.snd

def PolledCapability.deviceObserved (c : PolledCapability) (p : Platform)
    (device : Int → BitVec 16) : Except CodecError (List Int × NativeValue) :=
  c.observed p (deviceWords device c.register c.wordCount.toNat)

/-- The quotient of a register word and the divisor is a finite float. -/
def DividesWords (p : Platform) (divisor : Int) : Prop :=
  ∀ word : Nat, word < 65536 →
    ((p.ofInt word).bind fun raw => (p.ofInt divisor).bind (p.div raw)).isSome

namespace PollLayout
variable (layout : PollLayout F) (capabilities : List PolledCapability)

def polledRegisters : List Int :=
  layout.blocks.flatMap fun block =>
    (List.range block.count.toNat).map fun (index : Nat) => block.start + (index : Int)

def outOfBlockRegisters : List Int :=
  ((capabilities.filter fun (c : PolledCapability) => c.Readable).flatMap
    fun (c : PolledCapability) => c.registers.filter (· ∉ layout.polledRegisters)).dedup

def Keeps (register : Int) : Prop :=
  register ∈ layout.polledRegisters ∨ register ∉ layout.auxRegisters ∧
    ∃ c ∈ capabilities, c.Readable ∧ register ∈ c.registers

def Covers (c : PolledCapability) : Prop :=
  ∀ register ∈ c.registers, layout.Keeps capabilities register

/-- For a readable capability, only auxiliary registers are missing. -/
theorem covers_iff_of_readable {c : PolledCapability} (member : c ∈ capabilities)
    (readable : c.Readable) :
    layout.Covers capabilities c ↔
      ∀ register ∈ c.registers, register ∈ layout.auxRegisters →
        register ∈ layout.polledRegisters := by
  unfold Covers Keeps
  constructor
  · intro covers register mine aux
    exact (covers register mine).resolve_right fun kept => kept.1 aux
  · intro inside register mine
    by_cases aux : register ∈ layout.auxRegisters
    · exact Or.inl (inside register mine aux)
    · exact Or.inr ⟨aux, c, member, readable, mine⟩

end PollLayout

def Truthful (device : Int → BitVec 16) (blocks : RegisterBlocks) : Prop :=
  ∀ block ∈ blocks, block.2 = deviceWords device block.1 block.2.length

@[simp] theorem length_deviceWords (device : Int → BitVec 16) (start : Int) (count : Nat) :
    (deviceWords device start count).length = count := by
  simp [deviceWords]

theorem mem_blockRegisters {blocks : RegisterBlocks} {register : Int} :
    register ∈ blockRegisters blocks ↔
      ∃ block ∈ blocks, ∃ index < block.2.length, block.1 + (index : Int) = register := by
  simp [blockRegisters]

theorem get?_registerMap {device : Int → BitVec 16} {blocks : RegisterBlocks}
    (truthful : Truthful device blocks) (register : Int) :
    (registerMap blocks).get? register =
      if register ∈ blockRegisters blocks then some (device register).toNat else none := by
  unfold registerMap
  rw [Dict.get?_foldl_samples fun register => (device register).toNat]
  · have keys : register ∈ (blocks.flatMap fun block =>
        block.2.zipIdx.map fun item => (block.1 + (item.2 : Int), item.1)).map Prod.fst ↔
          register ∈ blockRegisters blocks := by
      rw [mem_blockRegisters]
      constructor
      · intro member
        simp only [List.mem_map, List.mem_flatMap] at member
        obtain ⟨_, ⟨block, inside, ⟨word, index⟩, item, rfl⟩, rfl⟩ := member
        exact ⟨block, inside, index, List.snd_lt_of_mem_zipIdx item, rfl⟩
      · rintro ⟨block, inside, index, bounded, rfl⟩
        simp only [List.mem_map, List.mem_flatMap]
        exact ⟨(block.1 + index, block.2[index]), ⟨block, inside, (block.2[index], index),
          List.mem_zipIdx_iff_getElem?.mpr (by simp [bounded]), rfl⟩, rfl⟩
    simp only [keys, Dict.get?_empty]
  · intro entry member
    simp only [List.mem_map, List.mem_flatMap] at member
    obtain ⟨block, inside, ⟨word, index⟩, item, rfl⟩ := member
    have here : block.2[index]? = some word := List.mem_zipIdx_iff_getElem?.mp item
    rw [truthful block inside] at here
    obtain ⟨bounded, same⟩ := List.getElem?_eq_some_iff.mp here
    simp only [deviceWords, List.getElem_map, List.getElem_range] at same
    exact same.symm

section
variable {read : ReadHolding} {device : Int → BitVec 16} {layout : PollLayout F}
  {capabilities : List PolledCapability}

def filledBlocks (device : Int → BitVec 16) (layout : PollLayout F) : RegisterBlocks :=
  layout.blocks.map fun block => (block.start, deviceWords device block.start block.count.toNat)

theorem readSpecs_answered (answers : Answers read device) (steps : PollSteps F) :
    readSpecs steps read layout =
      (specValues steps device layout).map fun values => (filledBlocks device layout, values) := by
  obtain rfl : read = deviceRead device := funext₂ answers
  unfold specValues readSpecs
  have block (layout : RegisterBlockLayout) : readBlock (deviceRead device) layout =
      .ok (layout.start, deviceWords device layout.start layout.count.toNat) := rfl
  simp only [block, bind, Except.bind]
  split
  · rfl
  · split
    · rfl
    · split
      · rfl
      · split
        · rfl
        · split <;> rfl

theorem mem_filledBlocks (register : Int) :
    register ∈ blockRegisters (filledBlocks device layout) ↔ register ∈ layout.polledRegisters := by
  simp [blockRegisters, filledBlocks, PollLayout.polledRegisters]

theorem mem_neededRegisters {polled : List Int} {register : Int} :
    register ∈ neededRegisters capabilities polled ↔
      register ∉ polled ∧ ∃ c ∈ capabilities, c.Readable ∧ register ∈ c.registers := by
  simp only [neededRegisters, List.mem_insertionSort, List.mem_dedup, List.mem_flatMap,
    List.mem_filter, decide_eq_true_eq]
  constructor
  · rintro ⟨c, ⟨member, readable⟩, mine, outside⟩
    exact ⟨outside, c, member, readable, mine⟩
  · rintro ⟨outside, c, member, readable, mine⟩
    exact ⟨c, ⟨member, readable⟩, mine, outside⟩

theorem mem_outOfBlockRegisters {register : Int} :
    register ∈ layout.outOfBlockRegisters capabilities ↔
      register ∉ layout.polledRegisters ∧
        ∃ c ∈ capabilities, c.Readable ∧ register ∈ c.registers := by
  simp only [PollLayout.outOfBlockRegisters, List.mem_dedup, List.mem_flatMap, List.mem_filter,
    decide_eq_true_eq]
  constructor
  · rintro ⟨c, ⟨member, readable⟩, mine, outside⟩
    exact ⟨outside, c, member, readable, mine⟩
  · rintro ⟨outside, c, member, readable, mine⟩
    exact ⟨c, ⟨member, readable⟩, mine, outside⟩

/-- Registers that specs have read only lower the number of extra reads. -/
theorem neededRegisters_le (aux : List Int) :
    (neededRegisters capabilities (aux ++ blockRegisters (filledBlocks device layout))).length ≤
      (layout.outOfBlockRegisters capabilities).length := by
  have nodup : (neededRegisters capabilities
      (aux ++ blockRegisters (filledBlocks device layout))).Nodup := by
    unfold neededRegisters
    exact (List.perm_insertionSort _ _).nodup_iff.mpr (List.nodup_dedup _)
  refine (nodup.subperm fun register member => ?_).length_le
  obtain ⟨outside, wanted⟩ := mem_neededRegisters.mp member
  rw [List.mem_append, mem_filledBlocks, not_or] at outside
  exact mem_outOfBlockRegisters.mpr ⟨outside.2, wanted⟩

def keptBlocks (device : Int → BitVec 16) (layout : PollLayout F)
    (capabilities : List PolledCapability) : RegisterBlocks :=
  filledBlocks device layout ++
    ((neededRegisters capabilities
      (layout.auxRegisters ++ blockRegisters (filledBlocks device layout))).take 16).map
        fun register => (register, deviceWords device register 1)

theorem outOfBlock_answered (answers : Answers read device) :
    (readOutOfBlockCapabilityRegisters read capabilities (filledBlocks device layout)
      layout.auxRegisters).map (filledBlocks device layout ++ ·) =
        .ok (keptBlocks device layout capabilities) := by
  obtain rfl : read = deviceRead device := funext₂ answers
  have extra (register : Int) : readExtra (deviceRead device) register =
      .ok (some (register, deviceWords device register 1)) := rfl
  have found (registers : List Int) :
      (registers.map fun register => some (register, deviceWords device register 1)).reduceOption =
        registers.map fun register => (register, deviceWords device register 1) := by
    induction registers with
    | nil => rfl
    | cons register rest ih => rw [List.map_cons, List.reduceOption_cons_of_some, ih, List.map_cons]
  rw [readOutOfBlockCapabilityRegisters, mapM_eq_map fun register _ => extra register]
  exact congrArg (fun more => Except.ok (filledBlocks device layout ++ more)) (found _)

theorem truthful_keptBlocks : Truthful device (keptBlocks device layout capabilities) := by
  intro block member
  rw [keptBlocks, List.mem_append] at member
  rcases member with polled | extra
  · obtain ⟨b, -, rfl⟩ := List.mem_map.mp polled
    simp
  · obtain ⟨register, -, rfl⟩ := List.mem_map.mp extra
    simp

theorem mem_keptBlocks (few : (layout.outOfBlockRegisters capabilities).length ≤ 16)
    (register : Int) :
    register ∈ blockRegisters (keptBlocks device layout capabilities) ↔
      layout.Keeps capabilities register := by
  have whole : (neededRegisters capabilities
      (layout.auxRegisters ++ blockRegisters (filledBlocks device layout))).take 16 =
        neededRegisters capabilities
          (layout.auxRegisters ++ blockRegisters (filledBlocks device layout)) :=
    List.take_of_length_le ((neededRegisters_le layout.auxRegisters).trans few)
  have split : register ∈ blockRegisters (keptBlocks device layout capabilities) ↔
      register ∈ blockRegisters (filledBlocks device layout) ∨
        register ∈ neededRegisters capabilities
          (layout.auxRegisters ++ blockRegisters (filledBlocks device layout)) := by
    rw [keptBlocks, whole]
    unfold blockRegisters
    rw [List.flatMap_append, List.mem_append]
    simp
  rw [split, mem_neededRegisters, List.mem_append, mem_filledBlocks, not_or]
  unfold PollLayout.Keeps
  tauto

end

def Caught {α : Type} (outcome : Except CodecError α) : Prop := ∃ text, outcome = .error (.value text)

def Harmless {α : Type} (outcome : Except CodecError α) : Prop :=
  (∃ a, outcome = .ok a) ∨ Caught outcome

namespace PolledCapability
variable {c : PolledCapability} {p : Platform} {device : Int → BitVec 16}

theorem mem_registers {register : Int} :
    register ∈ c.registers ↔ ∃ offset : Nat, offset < (max c.wordCount 1).toNat ∧
      c.register + (offset : Int) = register := by
  simp [registers]

theorem lookups_kept {kept : List Int} {map : Dict Int Nat} (offsets : List Nat)
    (found : ∀ register, map.get? register =
      if register ∈ kept then some (device register).toNat else none) :
    (offsets.mapM fun (offset : Nat) =>
        match map.get? (c.register + offset) with
        | some word => Except.ok word
        | none => .error
          (c.refuse "capability_full_poll_readback_missing" (toString (c.register + offset)))) =
      .ok (offsets.map fun (offset : Nat) => (device (c.register + (offset : Int))).toNat) ∧
        (∀ offset ∈ offsets, c.register + (offset : Int) ∈ kept) ∨
    Caught (offsets.mapM fun (offset : Nat) =>
        match map.get? (c.register + offset) with
        | some word => Except.ok word
        | none => .error
          (c.refuse "capability_full_poll_readback_missing" (toString (c.register + offset)))) ∧
        ∃ offset ∈ offsets, c.register + (offset : Int) ∉ kept := by
  induction offsets with
  | nil => exact Or.inl ⟨rfl, by simp⟩
  | cons offset rest ih =>
    rw [List.mapM_cons]
    by_cases here : c.register + (offset : Int) ∈ kept
    · rw [found, if_pos here]
      rcases ih with ⟨all, inside⟩ | ⟨⟨text, failed⟩, other, member, outside⟩
      · left
        rw [all]
        exact ⟨rfl, List.forall_mem_cons.mpr ⟨here, inside⟩⟩
      · right
        rw [failed]
        exact ⟨⟨text, rfl⟩, other, List.mem_cons_of_mem _ member, outside⟩
    · right
      rw [found, if_neg here]
      exact ⟨⟨_, rfl⟩, offset, List.mem_cons_self, here⟩

theorem comparableWords_word {words : List Nat} (words_lt : ∀ word ∈ words, word < 65536) {raw : Int}
    {rest : List Int} (comparable : c.comparableWords words = raw :: rest) :
    ∃ word : Nat, raw = word ∧ word < 65536 := by
  unfold WriteCapability.comparableWords at comparable
  split at comparable
  · obtain ⟨rfl, -⟩ := List.cons.inj comparable
    exact ⟨_, rfl, BitVec.isLt _⟩
  · cases words with
    | nil => cases comparable
    | cons word words =>
      obtain ⟨rfl, -⟩ := List.cons.inj comparable
      exact ⟨word, rfl, words_lt word List.mem_cons_self⟩

theorem decode_harmless {raw : Int} (rest : List Int)
    (divides : ∀ divisor, c.divisor = some divisor → divisor ≠ 0 →
      ((p.ofInt raw).bind fun r => (p.ofInt divisor).bind (p.div r)).isSome) :
    Harmless (c.decodeCapabilityValue p (raw :: rest)) := by
  have value (text : String) : Harmless (.error (.value text) : Except CodecError NativeValue) :=
    Or.inr ⟨text, rfl⟩
  have ok (value : NativeValue) : Harmless (.ok value : Except CodecError NativeValue) :=
    Or.inl ⟨value, rfl⟩
  have scaled : Harmless (c.decodeScaled p raw) := by
    unfold WriteCapability.decodeScaled
    split
    · exact ok _
    · split
      · rename_i divisor given
        obtain ⟨some_divisor, nonzero⟩ := Option.filter_eq_some_iff.mp given
        split
        · exact ok _
        · rename_i infinite
          have finite := divides divisor some_divisor (by simpa using nonzero)
          rw [infinite] at finite
          cases finite
      · split <;> exact ok _
      · exact ok _
  unfold WriteCapability.decodeCapabilityValue
  split
  · rename_i empty
    cases empty
  rename_i raw' rest' same
  obtain ⟨rfl, rfl⟩ := List.cons.inj same
  cases c.valueKind with
  | action => exact ok _
  | u32 =>
    dsimp only
    unfold WriteCapability.decodeU32Words
    repeat' split
    all_goals first | exact value _ | exact ok _
  | dateWords =>
    dsimp only
    unfold WriteCapability.decodeDateWords
    repeat' split
    all_goals first | exact value _ | exact ok _
  | timeWords =>
    dsimp only
    unfold WriteCapability.decodeTimeWords
    repeat' split
    all_goals first | exact value _ | exact ok _
  | timeHhmm =>
    dsimp only
    unfold WriteCapability.decodeTimeHhmmValue
    split
    · exact ok _
    · exact value _
  | bool =>
    dsimp only
    split
    · exact ok _
    · exact ok _
  | enum | scaledU16 | u16 => exact scaled

theorem observed_harmless {words : List Nat} (words_lt : ∀ word ∈ words, word < 65536)
    (divides : ∀ divisor, c.divisor = some divisor → divisor ≠ 0 → DividesWords p divisor) :
    Harmless (c.observed p words) := by
  unfold observed comparableCapabilityWords
  split
  · exact Or.inr ⟨_, rfl⟩
  cases comparable : c.comparableWords words with
  | nil => exact Or.inr ⟨_, rfl⟩
  | cons raw rest =>
    obtain ⟨word, rfl, small⟩ := comparableWords_word words_lt comparable
    have decoded := decode_harmless (c := c) rest
      (fun divisor given nonzero => divides divisor given nonzero word small)
    rcases decoded with ⟨value, ok⟩ | ⟨text, error⟩
    · exact Or.inl ⟨(word :: rest, value), by simp [bind, Except.bind, ok]⟩
    · exact Or.inr ⟨text, by simp [bind, Except.bind, error]⟩

theorem deviceObserved_harmless (device : Int → BitVec 16)
    (divides : ∀ divisor, c.divisor = some divisor → divisor ≠ 0 → DividesWords p divisor) :
    Harmless (c.deviceObserved p device) := by
  refine observed_harmless (fun word member => ?_) divides
  obtain ⟨index, -, rfl⟩ := List.mem_map.mp member
  exact (device _).isLt

theorem observed_no_words (none_given : c.wordCount ≤ 0) : Caught (c.observed p []) := by
  unfold observed comparableCapabilityWords
  split
  · exact ⟨_, rfl⟩
  · have unmasked : c.bitmask = none := by
      cases masked : c.bitmask with
      | none => rfl
      | some mask =>
        have one := (c.mask_parsed mask masked).2.1
        omega
    have empty : c.comparableWords [] = [] := by
      simp [WriteCapability.comparableWords, unmasked]
    exact ⟨"missing_raw_words:" ++ c.key, by
      simp [bind, Except.bind, empty, WriteCapability.decodeCapabilityValue]⟩

section Kept
variable {kept : List Int} {map : Dict Int Nat}
  (found : ∀ register, map.get? register =
    if register ∈ kept then some (device register).toNat else none)
include found

theorem observed_covered (covered : ∀ register ∈ c.registers, register ∈ kept) :
    (c.wordsFromMap map >>= c.observed p) = c.deviceObserved p device := by
  rcases lookups_kept (c := c) (List.range c.wordCount.toNat) found with
    ⟨all, -⟩ | ⟨-, offset, member, outside⟩
  · rw [wordsFromMap, all]
    rfl
  · refine absurd (covered _ (mem_registers.mpr ⟨offset, ?_, rfl⟩)) outside
    have := List.mem_range.mp member
    omega

theorem observed_uncovered (uncovered : ¬ ∀ register ∈ c.registers, register ∈ kept) :
    Caught (c.wordsFromMap map >>= c.observed p) := by
  rcases lookups_kept (c := c) (List.range c.wordCount.toNat) found with
    ⟨all, inside⟩ | ⟨⟨text, failed⟩, -⟩
  · by_cases positive : 1 ≤ c.wordCount
    · refine absurd (fun register member => ?_) uncovered
      obtain ⟨offset, bounded, rfl⟩ := mem_registers.mp member
      exact inside offset (List.mem_range.mpr (by omega))
    · have no_words : c.wordCount.toNat = 0 := by omega
      rw [wordsFromMap, all, no_words]
      exact observed_no_words (by omega)
  · rw [wordsFromMap, failed]
    exact ⟨text, rfl⟩

end Kept

def supply (c : PolledCapability) (p : Platform) (device : Int → BitVec 16) (kept : List Int) :
    Option NativeValue :=
  if ∀ register ∈ c.registers, register ∈ kept then
    (c.deviceObserved p device).toOption.map Prod.snd
  else none

theorem supply_eq_some_iff {kept : List Int} {value : NativeValue} :
    c.supply p device kept = some value ↔
      (∀ register ∈ c.registers, register ∈ kept) ∧
        ∃ comparable, c.deviceObserved p device = .ok (comparable, value) := by
  unfold supply
  split
  · cases c.deviceObserved p device with
    | error error => simp_all [Except.toOption]
    | ok result => simp_all [Except.toOption, Prod.ext_iff]
  · simp_all

end PolledCapability

/-- What one capability adds to the values of a poll. -/
def filledBy (p : Platform) (device : Int → BitVec 16) (kept : List Int) (values : Hub.Values)
    (c : PolledCapability) : Hub.Values :=
  if c.valueKey = "" ∨ (values.get? c.valueKey).isSome then values
  else
    match c.supply p device kept with
    | some value => values.set c.valueKey (hubValue value)
    | none => values

theorem get?_filledBy (p : Platform) (device : Int → BitVec 16) (kept : List Int)
    (values : Hub.Values) (c : PolledCapability) (key : String) :
    (filledBy p device kept values c).get? key = (values.get? key).or
      ((if c.valueKey = key ∧ key ≠ "" then c.supply p device kept else none).map hubValue) := by
  unfold filledBy
  by_cases mine : c.valueKey = key ∧ key ≠ ""
  · obtain ⟨rfl, nonempty⟩ := mine
    cases present : values.get? c.valueKey with
    | some value => simp [present]
    | none =>
      cases supplied : c.supply p device kept with
      | none => simp [present, nonempty]
      | some value => simp [nonempty]
  · rw [if_neg mine, Option.map_none, Option.or_none]
    split
    · rfl
    · rename_i absent
      split
      · rw [Dict.get?_set, if_neg]
        rintro rfl
        exact mine ⟨rfl, fun empty => absent (Or.inl empty)⟩
      · rfl

section
variable {p : Platform} {device : Int → BitVec 16} {kept : List Int} {map : Dict Int Nat}
  {capabilities : List PolledCapability}
  (found : ∀ register, map.get? register =
    if register ∈ kept then some (device register).toNat else none)
include found

theorem applyCapability_eq {c : PolledCapability}
    (divides : ∀ divisor, c.divisor = some divisor → divisor ≠ 0 → DividesWords p divisor)
    (values : Hub.Values) :
    applyCapability p map values c = .ok (filledBy p device kept values c) := by
  unfold applyCapability filledBy
  split
  · rfl
  by_cases covered : ∀ register ∈ c.registers, register ∈ kept
  · have first : map.get? c.register ≠ none := by
      have inside : c.register ∈ kept :=
        covered c.register (PolledCapability.mem_registers.mpr ⟨0, by omega, by simp⟩)
      simp [found, inside]
    rw [if_neg first, PolledCapability.observed_covered found covered, PolledCapability.supply,
      if_pos covered]
    rcases PolledCapability.deviceObserved_harmless device divides with
      ⟨⟨comparable, value⟩, ok⟩ | ⟨text, error⟩
    · rw [ok]
      rfl
    · rw [error]
      rfl
  · rw [PolledCapability.supply, if_neg covered]
    split
    · rfl
    · obtain ⟨text, error⟩ := PolledCapability.observed_uncovered (p := p) found covered
      rw [error]

theorem foldlM_applyCapability
    (divides : ∀ c ∈ capabilities, ∀ divisor, c.divisor = some divisor → divisor ≠ 0 →
      DividesWords p divisor)
    (values : Hub.Values) :
    ∃ after, capabilities.foldlM (applyCapability p map) values = .ok after ∧
      ∀ key, after.get? key = (values.get? key).or
        ((capabilities.findSome? fun c =>
          if c.valueKey = key ∧ key ≠ "" then c.supply p device kept else none).map hubValue) := by
  induction capabilities generalizing values with
  | nil => exact ⟨values, rfl, by simp⟩
  | cons c rest ih =>
    obtain ⟨here, later⟩ := List.forall_mem_cons.mp divides
    rw [List.foldlM_cons, applyCapability_eq found here]
    obtain ⟨after, folded, gets⟩ := ih later (filledBy p device kept values c)
    refine ⟨after, folded, fun key => ?_⟩
    rw [gets, get?_filledBy, Option.or_assoc, List.findSome?_cons]
    cases (if c.valueKey = key ∧ key ≠ "" then c.supply p device kept else none) with
    | none => rfl
    | some value => rfl

end

end SmgDriver
