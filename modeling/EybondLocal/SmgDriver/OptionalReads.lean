import EybondLocal.Library.HalfEven
import EybondLocal.SmgDriver.RegisterDecode
import Mathlib.Data.List.Sort
import Mathlib.Data.String.Basic

/-!
Optional registers of an SMG device (`_group_optional_specs` and `_read_optional_specs` in
`drivers/smg.py`): specs that touch are read together, and one by one where that is rejected.
-/
namespace SmgDriver
open HalfEven OrderedDict PythonObject StripText

structure SpecGroup (F : Type) where
  start : Int
  count : Int
  specs : List (RegisterValueSpec F)

section
variable {F : Type}

/-- The order by `(register, word_count, key)`. -/
def specLE (a b : RegisterValueSpec F) : Bool :=
  a.register < b.register || (a.register = b.register &&
    (a.wordCount < b.wordCount || (a.wordCount = b.wordCount && a.key ≤ b.key)))

/-- The loop of `_group_optional_specs`. -/
def groupLoop (grouped : List (SpecGroup F)) (current : List (RegisterValueSpec F))
    (currentStart currentEnd : Int) : List (RegisterValueSpec F) → List (SpecGroup F)
  | [] =>
    if current.isEmpty then grouped
    else grouped ++ [⟨currentStart, currentEnd - currentStart + 1, current⟩]
  | spec :: rest =>
    let specEnd := spec.register + spec.wordCount - 1
    if current.isEmpty || currentEnd + 1 < spec.register then
      let grouped :=
        if current.isEmpty then grouped
        else grouped ++ [⟨currentStart, currentEnd - currentStart + 1, current⟩]
      groupLoop grouped [spec] spec.register specEnd rest
    else groupLoop grouped (current ++ [spec]) currentStart (max currentEnd specEnd) rest

def groupOptionalSpecs (specs : List (RegisterValueSpec F)) : List (SpecGroup F) :=
  groupLoop [] [] 0 (-1) (specs.mergeSort specLE)

end

structure ReadFailure where
  modbus : Bool
  text : String
  deriving DecidableEq, Repr

def isExplicitOptionalRegisterRejection (failure : ReadFailure) : Bool :=
  if failure.modbus then startsWith failure.text "exception_code:"
  else startsWith failure.text "missing_register:"

structure Session (σ : Type) where
  readHolding : Int → Int → σ → Except ReadFailure (List Int) × σ

inductive OptionalError where
  | read (failure : ReadFailure)
  | decode (error : PyError)
  deriving DecidableEq, Repr

structure Reading (σ α : Type) where
  result : Except OptionalError α
  log : List (Except ReadFailure (List Int))
  state : σ

def Reading.after {σ α : Type} (reading : Reading σ α)
    (earlier : List (Except ReadFailure (List Int))) : Reading σ α :=
  { reading with log := earlier ++ reading.log }

section
variable {F σ : Type} (floats : FloatOps F) (session : Session σ)

abbrev Decoded (F : Type) := Dict String (DecodedValue F)

def readSingly (decoded : Decoded F) :
    List (RegisterValueSpec F) → σ → Reading σ (Decoded F)
  | [], s => ⟨.ok decoded, [], s⟩
  | spec :: rest, s =>
    match session.readHolding spec.register spec.wordCount s with
    | (.error failure, after) =>
      if isExplicitOptionalRegisterRejection failure then
        (readSingly decoded rest after).after [.error failure]
      else ⟨.error (.read failure), [.error failure], after⟩
    | (.ok values, after) =>
      match decodeBlock floats spec.register values [spec] with
      | .error error => ⟨.error (.decode error), [.ok values], after⟩
      | .ok block => (readSingly (decoded.update block) rest after).after [.ok values]

def readGroups (decoded : Decoded F) : List (SpecGroup F) → σ → Reading σ (Decoded F)
  | [], s => ⟨.ok decoded, [], s⟩
  | group :: rest, s =>
    match session.readHolding group.start group.count s with
    | (.error failure, after) =>
      if isExplicitOptionalRegisterRejection failure then
        let singly := readSingly floats session decoded group.specs after
        match singly.result with
        | .error error => ⟨.error error, .error failure :: singly.log, singly.state⟩
        | .ok decoded =>
          (readGroups decoded rest singly.state).after (.error failure :: singly.log)
      else ⟨.error (.read failure), [.error failure], after⟩
    | (.ok values, after) =>
      match decodeBlock floats group.start values group.specs with
      | .error error => ⟨.error (.decode error), [.ok values], after⟩
      | .ok block => (readGroups (decoded.update block) rest after).after [.ok values]

def readOptionalSpecs (specs : List (RegisterValueSpec F)) (s : σ) : Reading σ (Decoded F) :=
  readGroups floats session Dict.empty (groupOptionalSpecs specs) s

end

structure RegisterMap where
  contents : Int → Option Int
  exceptionCode : Int → Int → Nat

def RegisterMap.range (device : RegisterMap) (start : Int) : Nat → Option (List Int)
  | 0 => some []
  | n + 1 =>
    (device.contents start).bind fun value => (device.range (start + 1) n).map (value :: ·)

def RegisterMap.read (device : RegisterMap) (start count : Int) : Except ReadFailure (List Int) :=
  match device.range start count.toNat with
  | some values =>
    if count ≤ 125 then .ok values
    else .error ⟨true, "exception_code:" ++ toString (device.exceptionCode start count)⟩
  | none => .error ⟨true, "exception_code:" ++ toString (device.exceptionCode start count)⟩

def RegisterMap.session (device : RegisterMap) : Session Unit where
  readHolding start count _ := (device.read start count, ())

section
variable {F : Type} (floats : FloatOps F) (device : RegisterMap)

def readAlone (spec : RegisterValueSpec F) : Except PyError (Decoded F) :=
  match device.read spec.register spec.wordCount with
  | .error _ => .ok Dict.empty
  | .ok values => decodeBlock floats spec.register values [spec]

def readEach (specs : List (RegisterValueSpec F)) : Except PyError (Decoded F) :=
  specs.foldlM (fun decoded spec => (readAlone floats device spec).map decoded.update) Dict.empty

/-- Read together, the specs have the values they have on their own; what cannot be decoded on its
    own is raised. -/
def SameAsEach (specs : List (RegisterValueSpec F)) : Prop :=
  match readEach floats device specs with
  | .ok expected => ∃ decoded,
      (readOptionalSpecs floats device.session specs ()).result = .ok decoded ∧
        ∀ key, decoded.get? key = expected.get? key
  | .error _ => ∃ spec ∈ specs, ∃ error, readAlone floats device spec = .error error ∧
      (readOptionalSpecs floats device.session specs ()).result = .error (.decode error)

end

/-- Every failed read was an explicit rejection, or is what is raised. -/
def NothingSkipped {σ α : Type} (reading : Reading σ α) : Prop :=
  ∀ failure, .error failure ∈ reading.log →
    isExplicitOptionalRegisterRejection failure = true ∨
      reading.result = .error (.read failure)

theorem startsWith_append (start rest : String) : startsWith (start ++ rest) start = true :=
  (startsWith_iff _ _).mpr ⟨rest.toList, by rw [String.toList_append]⟩

theorem RegisterMap.read_error {device : RegisterMap} {start count : Int} {failure : ReadFailure}
    (failed : device.read start count = .error failure) :
    isExplicitOptionalRegisterRejection failure = true := by
  unfold RegisterMap.read at failed
  split at failed
  · split_ifs at failed
    cases failed
    exact startsWith_append _ _
  · cases failed
    exact startsWith_append _ _

theorem RegisterMap.range_isSome {device : RegisterMap} {start : Int} {n : Nat} :
    (∃ values, device.range start n = some values) ↔
      ∀ register, start ≤ register → register < start + n →
        ∃ value, device.contents register = some value := by
  induction n generalizing start with
  | zero => exact ⟨fun _ register low high => absurd high (by omega), fun _ => ⟨[], rfl⟩⟩
  | succ n ih =>
    simp only [range]
    constructor
    · rintro ⟨values, answered⟩ register low high
      obtain ⟨value, first, answered⟩ := Option.bind_eq_some_iff.mp answered
      obtain ⟨rest, later, _⟩ := Option.map_eq_some_iff.mp answered
      by_cases here : register = start
      · exact ⟨value, here ▸ first⟩
      · exact ih.mp ⟨rest, later⟩ register (by omega) (by omega)
    · intro all
      obtain ⟨value, first⟩ := all start le_rfl (by omega)
      have tail : ∃ rest, device.range (start + 1) n = some rest :=
        ih.mpr fun register low high => all register (by omega) (by omega)
      obtain ⟨rest, later⟩ := tail
      exact ⟨value :: rest, by rw [first, Option.bind_some, later]; rfl⟩

theorem RegisterMap.registersOf_range {device : RegisterMap} {start : Int} {n : Nat}
    {values : List Int} (answered : device.range start n = some values) {register : Int}
    (low : start ≤ register) (high : register < start + n) :
    registersOf start values register = device.contents register := by
  induction n generalizing start values with
  | zero => omega
  | succ n ih =>
    rw [range] at answered
    obtain ⟨value, first, answered⟩ := Option.bind_eq_some_iff.mp answered
    obtain ⟨rest, later, rfl⟩ := Option.map_eq_some_iff.mp answered
    by_cases here : register = start
    · rw [here, registersOf, if_pos le_rfl, Int.sub_self, first]
      rfl
    · have tail := ih later (by omega) (by omega)
      rw [registersOf, if_pos (by omega)] at tail
      rw [registersOf, if_pos low, ← tail,
        show (register - start).toNat = (register - (start + 1)).toNat + 1 by omega,
        List.getElem?_cons_succ]

theorem RegisterMap.read_ok {device : RegisterMap} {start count : Int} {values : List Int} :
    device.read start count = .ok values ↔
      count ≤ 125 ∧ device.range start count.toNat = some values := by
  unfold RegisterMap.read
  split
  · next found answered =>
    rw [answered, Option.some.injEq]
    split_ifs with bounded
    · rw [Except.ok.injEq]
      exact ⟨fun same => ⟨bounded, same⟩, And.right⟩
    · exact ⟨fun bad => (by cases bad), fun both => absurd both.1 bounded⟩
  · next missing =>
    rw [missing]
    exact ⟨fun bad => (by cases bad), fun both => (by cases both.2)⟩

section
variable {F : Type} (floats : FloatOps F) (device : RegisterMap)

/-- What a spec reads on its own: nothing where it is rejected or left out. -/
def valueOf (spec : RegisterValueSpec F) : Except PyError (Option (DecodedValue F)) :=
  match device.read spec.register spec.wordCount with
  | .error _ => .ok none
  | .ok values => decodeSpec floats (registersOf spec.register values) spec

def put (decoded : Decoded F) (spec : RegisterValueSpec F) : Except PyError (Decoded F) :=
  (valueOf floats device spec).map fun
    | some value => decoded.set spec.key value
    | none => decoded

variable {floats device}

theorem update_decodeBlock_single (decoded : Decoded F) (spec : RegisterValueSpec F)
    (values : List Int) :
    (decodeBlock floats spec.register values [spec]).map decoded.update =
      (decodeSpec floats (registersOf spec.register values) spec).map fun
        | some value => decoded.set spec.key value
        | none => decoded := by
  rw [decodeBlock, List.foldlM_cons, decodeInto]
  cases decodeSpec floats (registersOf spec.register values) spec with
  | error error => rfl
  | ok value => cases value <;> rfl

theorem update_readAlone (decoded : Decoded F) (spec : RegisterValueSpec F) :
    (readAlone floats device spec).map decoded.update = put floats device decoded spec := by
  unfold readAlone put valueOf
  cases device.read spec.register spec.wordCount with
  | error failure => rfl
  | ok values => exact update_decodeBlock_single decoded spec values

theorem readEach_eq (specs : List (RegisterValueSpec F)) :
    readEach floats device specs = specs.foldlM (put floats device) Dict.empty := by
  unfold readEach
  congr 1
  funext decoded spec
  exact update_readAlone decoded spec

theorem result_readSingly (decoded : Decoded F) (specs : List (RegisterValueSpec F)) :
    (readSingly floats device.session decoded specs ()).result =
      (specs.foldlM (put floats device) decoded).mapError .decode := by
  induction specs generalizing decoded with
  | nil => rfl
  | cons spec rest ih =>
    rw [readSingly, List.foldlM_cons, put, valueOf]
    simp only [RegisterMap.session]
    cases outcome : device.read spec.register spec.wordCount with
    | error failure =>
      dsimp only
      rw [if_pos (RegisterMap.read_error outcome)]
      exact ih decoded
    | ok values =>
      dsimp only
      rw [← update_decodeBlock_single decoded spec values]
      cases decodeBlock floats spec.register values [spec] with
      | error error => rfl
      | ok block => exact ih (decoded.update block)

def SpecGroup.Covers (group : SpecGroup F) : Prop :=
  ∀ spec ∈ group.specs, 1 ≤ spec.wordCount ∧ group.start ≤ spec.register ∧
    spec.register + spec.wordCount ≤ group.start + group.count

theorem decodeSpec_grouped {group : SpecGroup F} (covers : group.Covers) {values : List Int}
    (answered : device.read group.start group.count = .ok values) {spec : RegisterValueSpec F}
    (mem : spec ∈ group.specs) :
    decodeSpec floats (registersOf group.start values) spec = valueOf floats device spec := by
  obtain ⟨positive, low, high⟩ := covers spec mem
  obtain ⟨bounded, whole⟩ := RegisterMap.read_ok.mp answered
  have exist := RegisterMap.range_isSome.mp ⟨values, whole⟩
  obtain ⟨alone, single⟩ : ∃ alone, device.range spec.register spec.wordCount.toNat = some alone :=
    RegisterMap.range_isSome.mpr fun register above below => exist register (by omega) (by omega)
  rw [valueOf, RegisterMap.read_ok.mpr ⟨by omega, single⟩]
  refine decodeSpec_congr floats positive fun register above below => ?_
  rw [RegisterMap.registersOf_range whole (by omega) (by omega),
    RegisterMap.registersOf_range single above (by omega)]

theorem update_set_of_absent {ν : Type} (d e : Dict String ν) {key : String} (value : ν)
    (absent : e.get? key = none) : d.update (e.set key value) = (d.update e).set key value := by
  rw [Dict.update, Dict.set_items_of_absent absent, List.foldl_append]
  rfl

/-- Specs put into an empty block and merged afterwards are the same as put in place, where the
    keys are new to the block. -/
theorem foldlM_put_update (decoded : Decoded F) {specs : List (RegisterValueSpec F)}
    (distinct : (specs.map RegisterValueSpec.key).Nodup) {block : Decoded F}
    (absent : ∀ spec ∈ specs, block.get? spec.key = none) :
    specs.foldlM (put floats device) (decoded.update block) =
      (specs.foldlM (put floats device) block).map decoded.update := by
  induction specs generalizing block with
  | nil => rfl
  | cons spec rest ih =>
    obtain ⟨fresh, distinct⟩ := List.nodup_cons.mp distinct
    obtain ⟨here, later⟩ := List.forall_mem_cons.mp absent
    rw [List.foldlM_cons, List.foldlM_cons, put, put]
    cases valueOf floats device spec with
    | error error => rfl
    | ok value =>
      cases value with
      | none => exact ih distinct later
      | some value =>
        have untouched : ∀ other ∈ rest, (block.set spec.key value).get? other.key = none := by
          intro other mem
          have different : other.key ≠ spec.key := fun same =>
            fresh (same ▸ List.mem_map_of_mem mem)
          rw [Dict.get?_set, if_neg different]
          exact later other mem
        have step := ih distinct untouched
        rw [update_set_of_absent _ _ _ here] at step
        exact step

theorem foldlM_congr {α β ε : Type} {f g : β → α → Except ε β} {items : List α} (b : β)
    (same : ∀ b, ∀ item ∈ items, f b item = g b item) : items.foldlM f b = items.foldlM g b := by
  induction items generalizing b with
  | nil => rfl
  | cons item rest ih =>
    obtain ⟨here, later⟩ := forall_and.mp fun b => List.forall_mem_cons.mp (same b)
    rw [List.foldlM_cons, List.foldlM_cons, here]
    exact congrArg (g b item >>= ·) (funext fun b => ih b later)

theorem update_empty {ν : Type} (d : Dict String ν) : d.update Dict.empty = d := rfl

theorem update_decodeBlock_group (decoded : Decoded F) {group : SpecGroup F}
    (covers : group.Covers) (distinct : (group.specs.map RegisterValueSpec.key).Nodup)
    {values : List Int} (answered : device.read group.start group.count = .ok values) :
    (decodeBlock floats group.start values group.specs).map decoded.update =
      group.specs.foldlM (put floats device) decoded := by
  have same : decodeBlock floats group.start values group.specs =
      group.specs.foldlM (put floats device) Dict.empty := by
    refine foldlM_congr _ fun block spec mem => ?_
    rw [decodeInto, decodeSpec_grouped covers answered mem]
    rfl
  rw [same, ← foldlM_put_update decoded distinct fun _ _ => Dict.get?_empty _, update_empty]

theorem result_readGroups (decoded : Decoded F) {groups : List (SpecGroup F)}
    (covers : ∀ group ∈ groups, group.Covers)
    (distinct : ∀ group ∈ groups, (group.specs.map RegisterValueSpec.key).Nodup) :
    (readGroups floats device.session decoded groups ()).result =
      ((groups.flatMap SpecGroup.specs).foldlM (put floats device) decoded).mapError .decode := by
  induction groups generalizing decoded with
  | nil => rfl
  | cons group rest ih =>
    obtain ⟨here, later⟩ := List.forall_mem_cons.mp covers
    obtain ⟨fresh, others⟩ := List.forall_mem_cons.mp distinct
    rw [readGroups, List.flatMap_cons, List.foldlM_append,
      show device.session.readHolding group.start group.count () =
        (device.read group.start group.count, ()) from rfl]
    cases outcome : device.read group.start group.count with
    | error failure =>
      dsimp only
      rw [if_pos (RegisterMap.read_error outcome)]
      have singly : (readSingly floats device.session decoded group.specs ()).result = _ :=
        result_readSingly decoded group.specs
      generalize readSingly floats device.session decoded group.specs () = reading at singly ⊢
      cases placed : group.specs.foldlM (put floats device) decoded with
      | error error =>
        rw [placed] at singly
        rw [singly]
        rfl
      | ok decoded =>
        rw [placed] at singly
        rw [singly]
        exact ih decoded later others
    | ok values =>
      dsimp only
      rw [← update_decodeBlock_group decoded here fresh outcome]
      cases decodeBlock floats group.start values group.specs with
      | error error => rfl
      | ok block => exact ih (decoded.update block) later others

structure Building (current : List (RegisterValueSpec F)) (currentStart currentEnd : Int)
    (rest : List (RegisterValueSpec F)) : Prop where
  covers : ∀ spec ∈ current, 1 ≤ spec.wordCount ∧ currentStart ≤ spec.register ∧
    spec.register + spec.wordCount ≤ currentEnd + 1
  starts : current ≠ [] → ∀ spec ∈ rest, currentStart ≤ spec.register

def flushed (grouped : List (SpecGroup F)) (current : List (RegisterValueSpec F))
    (currentStart currentEnd : Int) : List (SpecGroup F) :=
  if current.isEmpty then grouped
  else grouped ++ [⟨currentStart, currentEnd - currentStart + 1, current⟩]

theorem flushed_spec {grouped : List (SpecGroup F)} {current rest : List (RegisterValueSpec F)}
    {currentStart currentEnd : Int} (done : ∀ group ∈ grouped, group.Covers)
    (building : Building current currentStart currentEnd rest) :
    (∀ group ∈ flushed grouped current currentStart currentEnd, group.Covers) ∧
      (flushed grouped current currentStart currentEnd).flatMap SpecGroup.specs =
        grouped.flatMap SpecGroup.specs ++ current := by
  unfold flushed
  split
  · next empty =>
    rw [List.isEmpty_iff.mp empty, List.append_nil]
    exact ⟨done, rfl⟩
  · refine ⟨fun group mem => ?_, ?_⟩
    · rcases List.mem_append.mp mem with old | new
      · exact done group old
      · rw [List.mem_singleton.mp new]
        intro spec inside
        obtain ⟨positive, low, high⟩ := building.covers spec inside
        exact ⟨positive, low, by dsimp only; omega⟩
    · rw [List.flatMap_append, List.flatMap_singleton]

theorem groupLoop_spec {grouped : List (SpecGroup F)} {current rest : List (RegisterValueSpec F)}
    {currentStart currentEnd : Int} (done : ∀ group ∈ grouped, group.Covers)
    (building : Building current currentStart currentEnd rest)
    (positive : ∀ spec ∈ rest, 1 ≤ spec.wordCount)
    (sorted : rest.Pairwise fun a b => a.register ≤ b.register) :
    (∀ group ∈ groupLoop grouped current currentStart currentEnd rest, group.Covers) ∧
      (groupLoop grouped current currentStart currentEnd rest).flatMap SpecGroup.specs =
        grouped.flatMap SpecGroup.specs ++ current ++ rest := by
  induction rest generalizing grouped current currentStart currentEnd with
  | nil =>
    rw [List.append_nil]
    exact flushed_spec done building
  | cons spec rest ih =>
    obtain ⟨here, later⟩ := List.forall_mem_cons.mp positive
    obtain ⟨first, ordered⟩ := List.pairwise_cons.mp sorted
    obtain ⟨closed, specs⟩ := flushed_spec done building
    rw [groupLoop]
    split
    · have opened : Building [spec] spec.register (spec.register + spec.wordCount - 1) rest := by
        refine ⟨fun other mem => ?_, fun _ => first⟩
        rw [List.mem_singleton.mp mem]
        exact ⟨here, le_rfl, by omega⟩
      obtain ⟨all, joined⟩ := ih closed opened later ordered
      refine ⟨all, joined.trans ?_⟩
      rw [specs, List.append_assoc, List.singleton_append]
    · next near =>
      have nonempty : current ≠ [] := by
        rintro rfl
        exact near rfl
      have grown : Building (current ++ [spec]) currentStart
          (max currentEnd (spec.register + spec.wordCount - 1)) rest := by
        have starts := building.starts nonempty
        refine ⟨fun other mem => ?_, fun _ other mem =>
          starts other (List.mem_cons_of_mem spec mem)⟩
        rcases List.mem_append.mp mem with old | new
        · obtain ⟨positive, low, high⟩ := building.covers other old
          exact ⟨positive, low, by omega⟩
        · rw [List.mem_singleton.mp new]
          exact ⟨here, starts spec List.mem_cons_self, by omega⟩
      obtain ⟨all, joined⟩ := ih done grown later ordered
      refine ⟨all, joined.trans ?_⟩
      simp only [List.append_assoc, List.singleton_append]

theorem specLE_trans (a b c : RegisterValueSpec F) (first : specLE a b = true)
    (second : specLE b c = true) : specLE a c = true := by
  simp only [specLE, Bool.or_eq_true, Bool.and_eq_true, decide_eq_true_eq] at *
  rcases first with lower | ⟨same, narrower | ⟨width, le⟩⟩ <;>
    rcases second with lower' | ⟨same', narrower' | ⟨width', le'⟩⟩ <;> try omega
  exact Or.inr ⟨same.trans same', Or.inr ⟨width.trans width', le_trans le le'⟩⟩

theorem specLE_total (a b : RegisterValueSpec F) : (specLE a b || specLE b a) = true := by
  simp only [specLE, Bool.or_eq_true, Bool.and_eq_true, decide_eq_true_eq]
  rcases lt_trichotomy a.register b.register with lower | same | higher
  · exact Or.inl (Or.inl lower)
  · rcases lt_trichotomy a.wordCount b.wordCount with narrower | width | wider
    · exact Or.inl (Or.inr ⟨same, Or.inl narrower⟩)
    · rcases le_total a.key b.key with le | le
      · exact Or.inl (Or.inr ⟨same, Or.inr ⟨width, le⟩⟩)
      · exact Or.inr (Or.inr ⟨same.symm, Or.inr ⟨width.symm, le⟩⟩)
    · exact Or.inr (Or.inr ⟨same.symm, Or.inl wider⟩)
  · exact Or.inr (Or.inl higher)

theorem sorted_specs (specs : List (RegisterValueSpec F)) :
    (specs.mergeSort specLE).Pairwise fun a b => a.register ≤ b.register := by
  refine (List.pairwise_mergeSort specLE_trans specLE_total specs).imp fun {a b} le => ?_
  simp only [specLE, Bool.or_eq_true, Bool.and_eq_true, decide_eq_true_eq] at le
  omega

theorem groupOptionalSpecs_spec {specs : List (RegisterValueSpec F)}
    (positive : ∀ spec ∈ specs, 1 ≤ spec.wordCount) :
    (∀ group ∈ groupOptionalSpecs specs, group.Covers) ∧
      (groupOptionalSpecs specs).flatMap SpecGroup.specs = specs.mergeSort specLE := by
  have nothing : Building ([] : List (RegisterValueSpec F)) 0 (-1) (specs.mergeSort specLE) :=
    ⟨fun _ mem => absurd mem List.not_mem_nil, fun nonempty => absurd rfl nonempty⟩
  exact groupLoop_spec (fun _ mem => absurd mem List.not_mem_nil) nothing
    (fun spec mem => positive spec (List.mem_mergeSort.mp mem)) (sorted_specs specs)

theorem foldlM_put_ok {decoded result : Decoded F} {specs : List (RegisterValueSpec F)}
    (distinct : (specs.map RegisterValueSpec.key).Nodup)
    (absent : ∀ spec ∈ specs, decoded.get? spec.key = none)
    (success : specs.foldlM (put floats device) decoded = .ok result) (key : String)
    (value : DecodedValue F) :
    result.get? key = some value ↔ decoded.get? key = some value ∨
      ∃ spec ∈ specs, spec.key = key ∧ valueOf floats device spec = .ok (some value) := by
  induction specs generalizing decoded with
  | nil =>
    cases success
    simp only [List.not_mem_nil, false_and, exists_false, or_false]
  | cons spec rest ih =>
    obtain ⟨fresh, distinct⟩ := List.nodup_cons.mp distinct
    obtain ⟨here, later⟩ := List.forall_mem_cons.mp absent
    rw [List.foldlM_cons] at success
    obtain ⟨middle, first, success⟩ := bind_eq_ok.mp success
    rw [put] at first
    cases found : valueOf floats device spec with
    | error error =>
      rw [found] at first
      cases first
    | ok own =>
      rw [found] at first
      cases first
      cases own with
      | none =>
        rw [ih distinct later success]
        simp only [List.mem_cons, exists_eq_or_imp, found, Except.ok.injEq, reduceCtorEq, and_false,
          false_or]
      | some own =>
        have untouched : ∀ other ∈ rest, (decoded.set spec.key own).get? other.key = none := by
          intro other mem
          have different : other.key ≠ spec.key := fun same =>
            fresh (same ▸ List.mem_map_of_mem mem)
          rw [Dict.get?_set, if_neg different]
          exact later other mem
        rw [ih distinct untouched success, Dict.get?_set]
        simp only [List.mem_cons, exists_eq_or_imp, found, Except.ok.injEq, Option.some.injEq]
        by_cases same : key = spec.key
        · subst same
          simp only [if_true, here, Option.some.injEq, true_and, reduceCtorEq, false_or]
        · simp only [same, if_false, Ne.symm same, false_and, false_or]

/-- Where the fold raises, one of the specs raises the same on its own. -/
theorem foldlM_put_error {decoded : Decoded F} {specs : List (RegisterValueSpec F)}
    {error : PyError} (failed : specs.foldlM (put floats device) decoded = .error error) :
    ∃ spec ∈ specs, valueOf floats device spec = .error error := by
  induction specs generalizing decoded with
  | nil => cases failed
  | cons spec rest ih =>
    rw [List.foldlM_cons, put] at failed
    cases found : valueOf floats device spec with
    | error own =>
      rw [found] at failed
      cases failed
      exact ⟨spec, List.mem_cons_self, found⟩
    | ok own =>
      rw [found] at failed
      obtain ⟨other, mem, raised⟩ := ih failed
      exact ⟨other, List.mem_cons_of_mem spec mem, raised⟩

theorem valueOf_of_foldlM {decoded result : Decoded F} {specs : List (RegisterValueSpec F)}
    (success : specs.foldlM (put floats device) decoded = .ok result) :
    ∀ spec ∈ specs, ∃ value, valueOf floats device spec = .ok value := by
  induction specs generalizing decoded with
  | nil => exact fun _ mem => absurd mem List.not_mem_nil
  | cons spec rest ih =>
    rw [List.foldlM_cons] at success
    obtain ⟨middle, first, success⟩ := bind_eq_ok.mp success
    refine List.forall_mem_cons.mpr ⟨?_, ih success⟩
    rw [put] at first
    cases found : valueOf floats device spec with
    | error error =>
      rw [found] at first
      cases first
    | ok own => exact ⟨own, rfl⟩

theorem readAlone_of_valueOf {spec : RegisterValueSpec F} {error : PyError}
    (raised : valueOf floats device spec = .error error) :
    readAlone floats device spec = .error error := by
  unfold valueOf at raised
  unfold readAlone
  split at raised
  · cases raised
  · rw [decodeBlock, List.foldlM_cons, decodeInto, raised]
    rfl

theorem result_readOptionalSpecs {specs : List (RegisterValueSpec F)}
    (distinct : (specs.map RegisterValueSpec.key).Nodup)
    (positive : ∀ spec ∈ specs, 1 ≤ spec.wordCount) :
    (readOptionalSpecs floats device.session specs ()).result =
      ((specs.mergeSort specLE).foldlM (put floats device) Dict.empty).mapError .decode := by
  obtain ⟨covers, joined⟩ := groupOptionalSpecs_spec positive
  have keys : ((specs.mergeSort specLE).map RegisterValueSpec.key).Nodup :=
    ((List.mergeSort_perm specs specLE).map _).nodup_iff.mpr distinct
  rw [readOptionalSpecs, result_readGroups _ covers, joined]
  intro group mem
  rw [← joined, List.map_flatMap] at keys
  exact (List.nodup_flatMap.mp keys).1 group mem

theorem grouped_same {specs : List (RegisterValueSpec F)}
    (distinct : (specs.map RegisterValueSpec.key).Nodup)
    (positive : ∀ spec ∈ specs, 1 ≤ spec.wordCount) : SameAsEach floats device specs := by
  have grouped : (readOptionalSpecs floats device.session specs ()).result = _ :=
    result_readOptionalSpecs distinct positive
  have members : ∀ spec, spec ∈ specs.mergeSort specLE ↔ spec ∈ specs := fun _ => List.mem_mergeSort
  have keys : ((specs.mergeSort specLE).map RegisterValueSpec.key).Nodup :=
    ((List.mergeSort_perm specs specLE).map _).nodup_iff.mpr distinct
  have new : ∀ spec : RegisterValueSpec F, (Dict.empty : Decoded F).get? spec.key = none :=
    fun _ => Dict.get?_empty _
  unfold SameAsEach
  rw [readEach_eq, grouped]
  cases each : specs.foldlM (put floats device) Dict.empty with
  | ok expected =>
    cases sorted : (specs.mergeSort specLE).foldlM (put floats device) Dict.empty with
    | error error =>
      obtain ⟨spec, mem, raised⟩ := foldlM_put_error sorted
      obtain ⟨value, found⟩ := valueOf_of_foldlM each spec ((members spec).mp mem)
      rw [found] at raised
      cases raised
    | ok decoded =>
      refine ⟨decoded, rfl, fun key => Option.ext fun value => ?_⟩
      rw [foldlM_put_ok keys (fun spec _ => new spec) sorted,
        foldlM_put_ok distinct (fun spec _ => new spec) each]
      simp only [members]
  | error error =>
    cases sorted : (specs.mergeSort specLE).foldlM (put floats device) Dict.empty with
    | error error =>
      obtain ⟨spec, mem, raised⟩ := foldlM_put_error sorted
      exact ⟨spec, (members spec).mp mem, error, readAlone_of_valueOf raised, rfl⟩
    | ok decoded =>
      obtain ⟨spec, mem, raised⟩ := foldlM_put_error each
      obtain ⟨value, found⟩ := valueOf_of_foldlM sorted spec ((members spec).mpr mem)
      rw [found] at raised
      cases raised

end

section
variable {F σ : Type} (floats : FloatOps F) (session : Session σ)

theorem nothingSkipped_after {α : Type} {reading : Reading σ α}
    {earlier : List (Except ReadFailure (List Int))} (rest : NothingSkipped reading)
    (rejected : ∀ failure, .error failure ∈ earlier →
      isExplicitOptionalRegisterRejection failure = true) :
    NothingSkipped (reading.after earlier) :=
  fun failure mem => (List.mem_append.mp mem).elim (fun old => Or.inl (rejected failure old))
    (rest failure)

theorem rejected_single {outcome : Except ReadFailure (List Int)}
    (rejected : ∀ failure, outcome = .error failure →
      isExplicitOptionalRegisterRejection failure = true) (failure : ReadFailure)
    (mem : .error failure ∈ [outcome]) : isExplicitOptionalRegisterRejection failure = true :=
  rejected failure (List.mem_singleton.mp mem).symm

theorem readSingly_nothingSkipped (decoded : Decoded F) (specs : List (RegisterValueSpec F))
    (s : σ) : NothingSkipped (readSingly floats session decoded specs s) := by
  induction specs generalizing decoded s with
  | nil => exact fun _ mem => absurd mem List.not_mem_nil
  | cons spec rest ih =>
    rw [readSingly]
    rcases session.readHolding spec.register spec.wordCount s with ⟨failure | values, after⟩
    · dsimp only
      split
      · next explicit =>
        refine nothingSkipped_after (ih decoded after) (rejected_single fun _ same => ?_)
        cases same
        exact explicit
      · intro other mem
        cases List.mem_singleton.mp mem
        exact Or.inr rfl
    · dsimp only
      cases decodeBlock floats spec.register values [spec] with
      | error error => exact fun other mem => by cases List.mem_singleton.mp mem
      | ok block =>
        exact nothingSkipped_after (ih _ after) (rejected_single fun _ same => by cases same)

theorem readGroups_nothingSkipped (decoded : Decoded F) (groups : List (SpecGroup F)) (s : σ) :
    NothingSkipped (readGroups floats session decoded groups s) := by
  induction groups generalizing decoded s with
  | nil => exact fun _ mem => absurd mem List.not_mem_nil
  | cons group rest ih =>
    rw [readGroups]
    rcases session.readHolding group.start group.count s with ⟨failure | values, after⟩
    · dsimp only
      split
      · next explicit =>
        have singly := readSingly_nothingSkipped floats session decoded group.specs after
        generalize readSingly floats session decoded group.specs after = reading at singly ⊢
        split
        · next error finished =>
          intro other mem
          rcases List.mem_cons.mp mem with first | later
          · cases first
            exact Or.inl explicit
          · exact finished ▸ singly other later
        · next decoded finished =>
          -- The single reads finished, so what failed among them was rejected.
          refine nothingSkipped_after (ih decoded reading.state) fun other mem => ?_
          rcases List.mem_cons.mp mem with first | later
          · cases first
            exact explicit
          · refine (singly other later).resolve_right fun raised => ?_
            rw [finished] at raised
            cases raised
      · intro other mem
        cases List.mem_singleton.mp mem
        exact Or.inr rfl
    · dsimp only
      cases decodeBlock floats group.start values group.specs with
      | error error => exact fun other mem => by cases List.mem_singleton.mp mem
      | ok block =>
        exact nothingSkipped_after (ih _ after) (rejected_single fun _ same => by cases same)

end

/-- Where every spec covers a register, grouped reads of a device give what reading and decoding
    each spec on its own gives; and of any session, every read that failed was an explicit rejection
    or is raised. -/
theorem optional_reads_faithful {F : Type} (floats : FloatOps F)
    {specs : List (RegisterValueSpec F)}
    (distinct : (specs.map RegisterValueSpec.key).Nodup)
    (positive : ∀ spec ∈ specs, 1 ≤ spec.wordCount) :
    (∀ device, SameAsEach floats device specs) ∧
      ∀ (σ : Type) (session : Session σ) (s : σ),
        NothingSkipped (readOptionalSpecs floats session specs s) :=
  ⟨fun _ => grouped_same distinct positive, fun _ session s =>
    readGroups_nothingSkipped floats session Dict.empty (groupOptionalSpecs specs) s⟩

def exactFloats : FloatOps ℚ where
  ofInt n := some n
  mul := (· * ·)
  divide a b := some (a / b)
  round q decimals := some (roundTo q decimals.toNat)

def pairSpecs : List (RegisterValueSpec ℚ) :=
  [{ key := "mode", register := 11 }, { key := "level", register := 10 }]

def halfDevice : RegisterMap where
  contents register := if register = 10 then some 7 else none
  exceptionCode _ _ := 2

/-- The group of two is rejected, and the one register that exists is read alone. -/
theorem halfDevice_same : SameAsEach exactFloats halfDevice pairSpecs :=
  (optional_reads_faithful exactFloats (by decide) (by decide)).1 halfDevice

def emptySpecs : List (RegisterValueSpec ℚ) :=
  [{ key := "nothing", register := 10, wordCount := 0 }, { key := "level", register := 10 }]

theorem emptySpec_differs : ¬ ∀ specs : List (RegisterValueSpec ℚ),
    (specs.map RegisterValueSpec.key).Nodup →
      (∀ device, SameAsEach exactFloats device specs) ∧
        ∀ (σ : Type) (session : Session σ) (s : σ),
          NothingSkipped (readOptionalSpecs exactFloats session specs s) := by
  intro always
  have same := (always emptySpecs (by decide)).1 halfDevice
  have alone : (readEach exactFloats halfDevice emptySpecs).toOption.bind
      (·.get? "nothing") = some (.int 0) := by decide +kernel
  have sorted : emptySpecs.mergeSort specLE = emptySpecs :=
    List.mergeSort_of_pairwise (by decide +kernel)
  have together : (readOptionalSpecs exactFloats halfDevice.session emptySpecs
      ()).result.toOption.bind (·.get? "nothing") = some (.int 7) := by
    rw [readOptionalSpecs, groupOptionalSpecs, sorted]
    decide +kernel
  unfold SameAsEach at same
  cases each : readEach exactFloats halfDevice emptySpecs with
  | error error =>
    rw [each] at alone
    cases alone
  | ok expected =>
    rw [each] at same alone
    obtain ⟨decoded, grouped, equal⟩ := same
    rw [grouped] at together
    have differ := (together.symm.trans (equal "nothing")).trans alone
    cases differ

end SmgDriver
