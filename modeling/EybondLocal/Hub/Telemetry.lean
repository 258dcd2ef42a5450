import Mathlib.Data.Rat.Floor
import EybondLocal.Library.OrderedDict
import EybondLocal.Library.PythonObject

/-!
What one driver read may return (`drivers/read_result.py`) and how the hub folds it into the
typed frame of last-good scalars (`fold_driver_telemetry` in `telemetry.py`).
-/
namespace Hub
open OrderedDict PythonObject StripText

/-- A runtime value. A finite float is its rational value; a list, a dict or any other object
    is its contents. -/
inductive Value where
  | none
  | bool (b : Bool)
  | int (n : Int)
  | number (q : ℚ)
  | infinity (negative : Bool)
  | nan
  | text (s : String)
  | structured (content : String)
  deriving DecidableEq, Repr

namespace Value

def numeric : Value → Option ℚ
  | bool b => some (if b then 1 else 0)
  | int n => some n
  | number q => some q
  | _ => Option.none

def pyEq (a b : Value) : Bool :=
  match a.numeric, b.numeric with
  | some x, some y => x = y
  | Option.none, Option.none => a ≠ .nan ∧ a = b
  | _, _ => false

def asInt : Value → Option Int
  | bool b => some (if b then 1 else 0)
  | int n => some n
  | _ => Option.none

def isScalar : Value → Bool
  | infinity _ => false
  | nan => false
  | structured _ => false
  | _ => true

end Value

abbrev Values := Dict String Value

inductive DriverReadMode where
  | full
  | delta
  deriving DecidableEq, Repr

def normalizedKey (key : String) : Prop := key ≠ "" ∧ strip key = key

instance : DecidablePred normalizedKey := fun _ => inferInstanceAs (Decidable (_ ∧ _))

/-- A read that `DriverReadResult.__post_init__` accepts. -/
structure DriverReadResult where
  values : Values
  mode : DriverReadMode
  removedKeys : List String
  diagnostics : Values
  values_normalized : ∀ key v, values.get? key = some v → normalizedKey key
  removed_normalized : ∀ key ∈ removedKeys, normalizedKey key
  diagnostics_normalized : ∀ key v, diagnostics.get? key = some v → normalizedKey key
  full_removes_nothing : mode = .full → removedKeys = []
  value_not_removed : ∀ key ∈ removedKeys, values.get? key = none
  value_not_diagnostic : ∀ key v, values.get? key = some v → diagnostics.get? key = none
  removed_not_diagnostic : ∀ key ∈ removedKeys, diagnostics.get? key = none

def keyNotNormalized (field : String) : PyError :=
  valueError ("driver_read_" ++ field ++ "_key_not_normalized")

theorem normalized_of_items {values : Values}
    (normalized : ∀ item ∈ values.items, normalizedKey item.1) (key : String) (v : Value)
    (found : values.get? key = some v) : normalizedKey key :=
  normalized (key, v) ((values.get?_eq_some_iff key v).mp found)

theorem removes_nothing {mode : DriverReadMode} {removedKeys : List String}
    (allowed : ¬(mode = .full ∧ removedKeys ≠ [])) (full : mode = .full) : removedKeys = [] :=
  not_not.mp fun removes => allowed ⟨full, removes⟩

/-- `DriverReadResult(...)` with the checks of `__post_init__`, in their order. -/
def driverReadResult (values : Values) (mode : DriverReadMode) (removedKeys : List String)
    (diagnostics : Values) : Except PyError DriverReadResult :=
  if values_normalized : ∀ item ∈ values.items, normalizedKey item.1 then
    if removed_normalized : ∀ key ∈ removedKeys, normalizedKey key then
      if diagnostics_normalized : ∀ item ∈ diagnostics.items, normalizedKey item.1 then
        if full : mode = .full ∧ removedKeys ≠ [] then
          .error (valueError "driver_read_full_has_removed_keys")
        else if removed : ∀ key ∈ removedKeys, values.get? key = none then
          if reported : ∀ item ∈ values.items, diagnostics.get? item.1 = none then
            if named : ∀ key ∈ removedKeys, diagnostics.get? key = none then
              .ok {
                values := values
                mode := mode
                removedKeys := removedKeys
                diagnostics := diagnostics
                values_normalized := normalized_of_items values_normalized
                removed_normalized := removed_normalized
                diagnostics_normalized := normalized_of_items diagnostics_normalized
                full_removes_nothing := removes_nothing full
                value_not_removed := removed
                value_not_diagnostic := fun key v found =>
                  reported (key, v) ((values.get?_eq_some_iff key v).mp found)
                removed_not_diagnostic := named }
            else .error (valueError "driver_read_removed_diagnostic_overlap")
          else .error (valueError "driver_read_value_diagnostic_overlap")
        else .error (valueError "driver_read_value_also_removed")
      else .error (keyNotNormalized "diagnostics")
    else .error (keyNotNormalized "removed_keys")
  else .error (keyNotNormalized "values")

theorem driverReadResult_fields {values diagnostics : Values} {mode : DriverReadMode}
    {removedKeys : List String} {result : DriverReadResult}
    (accepted : driverReadResult values mode removedKeys diagnostics = .ok result) :
    result.values = values ∧ result.diagnostics = diagnostics := by
  unfold driverReadResult at accepted
  split_ifs at accepted
  cases accepted
  exact ⟨rfl, rfl⟩

/-- A full read is accepted exactly if each of its keys is normal and no diagnostic has it. -/
theorem driverReadResult_full_iff {values diagnostics : Values}
    (named : ∀ item ∈ diagnostics.items, normalizedKey item.1) :
    (∃ result, driverReadResult values .full [] diagnostics = .ok result) ↔
      ∀ key v, values.get? key = some v → normalizedKey key ∧ diagnostics.get? key = none := by
  constructor
  · rintro ⟨result, accepted⟩
    obtain ⟨rfl, rfl⟩ := driverReadResult_fields accepted
    intro key v found
    exact ⟨result.values_normalized key v found, result.value_not_diagnostic key v found⟩
  · intro fits
    have member : ∀ item ∈ values.items, values.get? item.1 = some item.2 :=
      fun item member => (values.get?_eq_some_iff item.1 item.2).mpr member
    rw [driverReadResult, dif_pos fun item inside => (fits _ _ (member item inside)).1,
      dif_pos (List.forall_mem_nil _), dif_pos named, dif_neg fun both => both.2 rfl,
      dif_pos (List.forall_mem_nil _), dif_pos fun item inside => (fits _ _ (member item inside)).2,
      dif_pos (List.forall_mem_nil _)]
    exact ⟨_, rfl⟩

/-- What `async_read_values` may hand back. -/
inductive RawRead where
  | result (result : DriverReadResult)
  | legacy (values : Values)
  | malformed (typeName : String)

theorem full_removes_none : DriverReadMode.full = .full → ([] : List String) = [] := fun _ => rfl

def DriverReadResult.ofLegacy (values : Values)
    (normalized : ∀ key v, values.get? key = some v → normalizedKey key) : DriverReadResult where
  values := values
  mode := .full
  removedKeys := []
  diagnostics := Dict.empty
  values_normalized := normalized
  removed_normalized := by simp
  diagnostics_normalized := by simp
  full_removes_nothing := full_removes_none
  value_not_removed := by simp
  value_not_diagnostic := by simp
  removed_not_diagnostic := by simp

def coerceDriverReadResult (raw : RawRead) (driverKey : String) :
    Except PyError DriverReadResult :=
  match raw with
  | .result result => .ok result
  | .legacy values =>
    if normalized : ∀ item ∈ values.items, normalizedKey item.1 then
      .ok (.ofLegacy values fun key v found =>
        normalized (key, v) ((values.get?_eq_some_iff key v).mp found))
    else .error (valueError "driver_read_values_key_not_normalized")
  | .malformed typeName =>
    .error ⟨.typeError, "invalid_driver_read_result:" ++
      (if driverKey = "" then "?" else driverKey) ++ ":" ++ typeName⟩

inductive Freshness where
  | fresh
  | carried
  deriving DecidableEq, Repr

structure Point where
  value : Value
  freshness : Freshness
  deriving DecidableEq, Repr

structure Frame where
  driverKey : String
  points : Dict String Point

namespace Frame

def empty : Frame := ⟨"", Dict.empty⟩

def asCarried (frame : Frame) : Frame :=
  { frame with points := frame.points.mapValues fun _ point => { point with freshness := .carried } }

def value? (frame : Frame) (key : String) : Option Value := (frame.points.get? key).map Point.value

@[simp] theorem value?_empty (key : String) : empty.value? key = none := rfl

@[simp] theorem value?_asCarried (frame : Frame) (key : String) :
    frame.asCarried.value? key = frame.value? key := by
  simp [value?, asCarried, Function.comp_def]

end Frame

def keptPoints (previous : Frame) (driverKey : String) (result : DriverReadResult) :
    Dict String Point :=
  if result.mode = .full ∨ previous.driverKey ≠ driverKey then Dict.empty
  else previous.asCarried.points.restrict fun key =>
    key ∉ result.removedKeys && (result.values.get? key).isNone

def foldDriverTelemetry (previous : Frame) (driverKey : String) (result : DriverReadResult) :
    Except PyError Frame :=
  if driverKey = "" ∨ strip driverKey ≠ driverKey then
    .error (valueError "telemetry_driver_key_not_normalized")
  else
    .ok ⟨driverKey, result.values.items.foldl
      (fun merged item =>
        if item.2.isScalar then merged.set item.1 ⟨item.2, .fresh⟩ else merged)
      (keptPoints previous driverKey result)⟩

def DriverReadResult.mention (result : DriverReadResult) (sameDriver : Bool) (key : String) :
    Option (Option Value) :=
  match result.values.get? key with
  | some v => some (if v.isScalar then some v else none)
  | none =>
    if result.mode = .full ∨ sameDriver = false ∨ key ∈ result.removedKeys then some none else none

theorem points_scalars {items : List (String × Value)} (nodup : (items.map Prod.fst).Nodup)
    (merged : Dict String Point) (key : String) :
    (items.foldl (fun merged item =>
        if item.2.isScalar then merged.set item.1 ⟨item.2, .fresh⟩ else merged) merged).get? key =
      match OrderedDict.find key items with
      | some v => if v.isScalar then some ⟨v, .fresh⟩ else merged.get? key
      | none => merged.get? key := by
  have writes : ∀ (d : Dict String Point) (item : String × Value) (k : String),
      (if item.2.isScalar then d.set item.1 ⟨item.2, .fresh⟩ else d).get? k =
        if k = item.1 then (if item.2.isScalar then some ⟨item.2, .fresh⟩ else none).or (d.get? k)
        else d.get? k := by
    intro d item k
    by_cases scalar : item.2.isScalar
    · simp [scalar]
    · simp [scalar]
  rw [Dict.get?_foldl_write (fun _ v => if v.isScalar then some ⟨v, .fresh⟩ else none) nodup writes]
  cases OrderedDict.find key items with
  | none => rfl
  | some v =>
    by_cases scalar : v.isScalar
    · simp [scalar]
    · simp [scalar]

theorem foldDriverTelemetry_value? {previous frame : Frame} {driverKey : String}
    {result : DriverReadResult} (folded : foldDriverTelemetry previous driverKey result = .ok frame)
    (key : String) :
    frame.value? key =
      (result.mention (decide (previous.driverKey = driverKey)) key).getD (previous.value? key) := by
  unfold foldDriverTelemetry at folded
  split at folded
  · cases folded
  · cases folded
    simp only [Frame.value?, points_scalars result.values.nodup]
    have entry : OrderedDict.find key result.values.items = result.values.get? key := rfl
    rw [entry]
    unfold DriverReadResult.mention keptPoints
    cases reported : result.values.get? key with
    | some v =>
      by_cases scalar : v.isScalar
      · simp [scalar]
      · by_cases dropped : result.mode = .full ∨ previous.driverKey ≠ driverKey
        · simp [scalar, dropped]
        · simp [scalar, dropped, reported]
    | none =>
      by_cases full : result.mode = .full
      · simp [full]
      · by_cases same : previous.driverKey = driverKey
        · by_cases removed : key ∈ result.removedKeys
          · simp [full, same, removed]
          · simp [full, same, removed, reported, Frame.asCarried, Function.comp_def]
        · simp [full, same]

end Hub
