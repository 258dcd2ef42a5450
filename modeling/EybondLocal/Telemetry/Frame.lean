import EybondLocal.Hub.Telemetry
import EybondLocal.Library.SortedItems

/-!
The typed telemetry frame with all that its constructors check (`telemetry.py`), and the fold of
one driver result into it. `Hub.Telemetry` keeps of a frame only what the hub's writes compare; the
two folds leave the same values.
-/
namespace Telemetry
open OrderedDict PythonObject StripText Hub

inductive Origin where
  | driver
  | canonical
  deriving DecidableEq, Repr

structure TelemetryPoint where
  key : String
  value : Value
  freshness : Freshness
  origin : Origin := .driver
  sourceKeys : List String := []
  deriving DecidableEq, Repr

/-- The error that `TelemetryPoint.__post_init__` raises. -/
def TelemetryPoint.fault (point : TelemetryPoint) : Option PyError :=
  if ¬ normalizedKey point.key ∨ ∃ key ∈ point.sourceKeys, ¬ normalizedKey key then
    some (valueError "telemetry_key_not_normalized")
  else if ¬ point.sourceKeys.Nodup then some (valueError "telemetry_source_key_duplicate")
  else if point.origin = .driver ∧ point.sourceKeys ≠ [] then
    some (valueError "driver_telemetry_has_sources")
  else if point.origin = .canonical ∧ point.sourceKeys = [] then
    some (valueError "canonical_telemetry_missing_sources")
  else if point.origin = .canonical ∧ point.key ∈ point.sourceKeys then
    some (valueError "canonical_telemetry_self_reference")
  else if point.value.isScalar then none
  else
    match point.value with
    | .structured _ => some ⟨.typeError, "telemetry_value_not_scalar"⟩
    | _ => some (valueError "telemetry_number_not_finite")

def TelemetryPoint.asCarried (point : TelemetryPoint) : TelemetryPoint :=
  { point with freshness := .carried }

structure TypedTelemetryFrame where
  driverKey : String
  points : List TelemetryPoint
  driver_normalized : strip driverKey = driverKey
  driver_named : points ≠ [] → driverKey ≠ ""
  faultless : ∀ point ∈ points, point.fault = none
  nodup : (points.map TelemetryPoint.key).Nodup

namespace TypedTelemetryFrame

def empty : TypedTelemetryFrame where
  driverKey := ""
  points := []
  driver_normalized := by decide
  driver_named := by simp
  faultless := by simp
  nodup := by simp

def construct (driverKey : String) (points : List TelemetryPoint) :
    Except PyError TypedTelemetryFrame :=
  if bad : strip driverKey ≠ driverKey ∨ (points ≠ [] ∧ driverKey = "") then
    .error (valueError "telemetry_driver_key_not_normalized")
  else if faultless : ∀ point ∈ points, point.fault = none then
    if nodup : (points.map TelemetryPoint.key).Nodup then
      .ok ⟨driverKey, points, not_not.mp (not_or.mp bad).1,
        fun some unnamed => (not_or.mp bad).2 ⟨some, unnamed⟩, faultless, nodup⟩
    else .error (valueError "telemetry_point_duplicate")
  else .error ((points.findSome? TelemetryPoint.fault).getD (valueError ""))

def point? (frame : TypedTelemetryFrame) (key : String) : Option TelemetryPoint :=
  frame.points.find? fun point => point.key = key

def value? (frame : TypedTelemetryFrame) (key : String) : Option Value :=
  (frame.point? key).map TelemetryPoint.value

def byKey (frame : TypedTelemetryFrame) : Dict String TelemetryPoint :=
  ⟨frame.points.map fun point => (point.key, point), by simpa [Function.comp_def] using frame.nodup⟩

def values (frame : TypedTelemetryFrame) : Values := frame.byKey.items.foldl
  (fun values item => values.set item.1 item.2.value) Dict.empty

theorem construct_ok {driverKey : String} {points : List TelemetryPoint}
    {frame : TypedTelemetryFrame} (built : construct driverKey points = .ok frame) :
    frame.driverKey = driverKey ∧ frame.points = points := by
  unfold construct at built
  split at built
  · cases built
  · split at built
    · split at built
      · cases built
        exact ⟨rfl, rfl⟩
      · cases built
    · cases built

theorem exists_construct {driverKey : String} {points : List TelemetryPoint}
    (normalized : strip driverKey = driverKey) (named : driverKey ≠ "")
    (faultless : ∀ point ∈ points, point.fault = none)
    (nodup : (points.map TelemetryPoint.key).Nodup) :
    ∃ frame, construct driverKey points = .ok frame := by
  unfold construct
  rw [dif_neg (by simp [normalized, named]), dif_pos faultless, dif_pos nodup]
  exact ⟨_, rfl⟩

theorem get?_byKey (frame : TypedTelemetryFrame) (key : String) :
    frame.byKey.get? key = frame.point? key := by
  have search : ∀ points : List TelemetryPoint,
      find key (points.map fun point => (point.key, point)) =
        points.find? fun point => point.key = key := by
    intro points
    induction points with
    | nil => rfl
    | cons point rest ih =>
      by_cases hit : point.key = key
      · simp [find, hit]
      · simp [find, hit, ih]
  exact search frame.points

theorem point?_eq_some_iff (frame : TypedTelemetryFrame) (key : String) (point : TelemetryPoint) :
    frame.point? key = some point ↔ point ∈ frame.points ∧ point.key = key := by
  rw [← get?_byKey, Dict.get?_eq_some_iff]
  unfold byKey
  simp only [List.mem_map, Prod.mk.injEq]
  constructor
  · rintro ⟨point', member, rfl, rfl⟩
    exact ⟨member, rfl⟩
  · rintro ⟨member, rfl⟩
    exact ⟨point, member, rfl, rfl⟩

theorem point?_key {frame : TypedTelemetryFrame} {key : String} {point : TelemetryPoint}
    (held : frame.point? key = some point) : point.key = key :=
  ((frame.point?_eq_some_iff key point).mp held).2

end TypedTelemetryFrame

def OwnKeys (merged : Dict String TelemetryPoint) : Prop :=
  ∀ key point, merged.get? key = some point → point.key = key

def sortedPoints (merged : Dict String TelemetryPoint) : List TelemetryPoint :=
  merged.sortedItems.map Prod.snd

theorem mem_sortedPoints {merged : Dict String TelemetryPoint} (own : OwnKeys merged)
    (point : TelemetryPoint) :
    point ∈ sortedPoints merged ↔ merged.get? point.key = some point := by
  unfold sortedPoints
  rw [List.mem_map]
  constructor
  · rintro ⟨⟨key, point'⟩, member, rfl⟩
    rw [merged.mem_sortedItems] at member
    rw [own key _ member]
    exact member
  · intro held
    exact ⟨(point.key, point), merged.mem_sortedItems.mpr held, rfl⟩

theorem sortedPoints_keys {merged : Dict String TelemetryPoint} (own : OwnKeys merged) :
    (sortedPoints merged).map TelemetryPoint.key = merged.sortedItems.map Prod.fst := by
  unfold sortedPoints
  rw [List.map_map, List.map_inj_left]
  rintro ⟨key, point⟩ member
  exact own key point (merged.mem_sortedItems.mp member)

theorem sortedPoints_lt {merged : Dict String TelemetryPoint} (own : OwnKeys merged) :
    ((sortedPoints merged).map TelemetryPoint.key).Pairwise (· < ·) := by
  rw [sortedPoints_keys own]
  exact merged.sortedItems_lt

theorem construct_sortedPoints {driverKey : String} {merged : Dict String TelemetryPoint}
    {frame : TypedTelemetryFrame} (own : OwnKeys merged)
    (built : TypedTelemetryFrame.construct driverKey (sortedPoints merged) = .ok frame)
    (key : String) : frame.point? key = merged.get? key := by
  apply Option.ext
  intro point
  rw [frame.point?_eq_some_iff, (TypedTelemetryFrame.construct_ok built).2, mem_sortedPoints own]
  constructor
  · rintro ⟨held, rfl⟩
    exact held
  · intro held
    have eq := own key point held
    rw [eq]
    exact ⟨held, rfl⟩

theorem exists_construct_sortedPoints {driverKey : String} {merged : Dict String TelemetryPoint}
    (normalized : strip driverKey = driverKey) (named : driverKey ≠ "") (own : OwnKeys merged)
    (faultless : ∀ key point, merged.get? key = some point → point.fault = none) :
    ∃ frame, TypedTelemetryFrame.construct driverKey (sortedPoints merged) = .ok frame := by
  apply TypedTelemetryFrame.exists_construct normalized named
  · intro point member
    exact faultless _ _ ((mem_sortedPoints own point).mp member)
  · rw [sortedPoints_keys own]
    exact merged.sortedItems_nodup

def carriedPoints (previous : TypedTelemetryFrame) (driverKey : String) (values : Values)
    (replace : Bool) (removedKeys : List String) : Dict String TelemetryPoint :=
  if replace = true ∨ previous.driverKey ≠ driverKey then Dict.empty
  else
    (previous.byKey.restrict fun key => key ∉ removedKeys && (values.get? key).isNone).mapValues
      fun _ point => point.asCarried

def addReported (merged : Dict String TelemetryPoint) (item : String × Value) :
    Dict String TelemetryPoint :=
  if item.2.isScalar then merged.set item.1 ⟨item.1, item.2, .fresh, .driver, []⟩ else merged

def mergedPoints (previous : TypedTelemetryFrame) (driverKey : String) (values : Values)
    (replace : Bool) (removedKeys : List String) : Dict String TelemetryPoint :=
  values.items.foldl addReported (carriedPoints previous driverKey values replace removedKeys)

def foldDriverTelemetry (previous : TypedTelemetryFrame) (driverKey : String) (values : Values)
    (replace : Bool) (removedKeys : List String) : Except PyError TypedTelemetryFrame :=
  if driverKey = "" ∨ strip driverKey ≠ driverKey then
    .error (valueError "telemetry_driver_key_not_normalized")
  else if ∃ key ∈ removedKeys ++ values.items.map Prod.fst, ¬ normalizedKey key then
    .error (valueError "telemetry_key_not_normalized")
  else
    TypedTelemetryFrame.construct driverKey
      (sortedPoints (mergedPoints previous driverKey values replace removedKeys))

def freshPoint (key : String) (v : Value) : Option TelemetryPoint :=
  if v.isScalar then some ⟨key, v, .fresh, .driver, []⟩ else none

theorem get?_addReported (merged : Dict String TelemetryPoint) (item : String × Value)
    (key : String) :
    (addReported merged item).get? key =
      if key = item.1 then (freshPoint item.1 item.2).or (merged.get? key)
      else merged.get? key := by
  unfold addReported freshPoint
  by_cases scalar : item.2.isScalar
  · rw [if_pos scalar, if_pos scalar, Dict.get?_set]
    rfl
  · rw [if_neg scalar, if_neg scalar]
    simp

theorem mergedPoints_get? (previous : TypedTelemetryFrame) (driverKey : String) (values : Values)
    (replace : Bool) (removedKeys : List String) (key : String) :
    (mergedPoints previous driverKey values replace removedKeys).get? key =
      match values.get? key with
      | some v => if v.isScalar then some ⟨key, v, .fresh, .driver, []⟩ else none
      | none =>
        if replace = true ∨ previous.driverKey ≠ driverKey ∨ key ∈ removedKeys then none
        else (previous.point? key).map TelemetryPoint.asCarried := by
  unfold mergedPoints
  rw [Dict.get?_foldl_write freshPoint values.nodup get?_addReported]
  have entry : OrderedDict.find key values.items = values.get? key := rfl
  rw [entry]
  unfold carriedPoints freshPoint
  cases reported : values.get? key with
  | some v =>
    by_cases replaced : replace = true ∨ previous.driverKey ≠ driverKey
    · simp [replaced]
    · simp [replaced, reported]
  | none =>
    by_cases replaced : replace = true ∨ previous.driverKey ≠ driverKey
    · rw [if_pos replaced, if_pos (or_assoc.mp (Or.inl replaced))]
      rfl
    · rw [if_neg replaced]
      by_cases removed : key ∈ removedKeys
      · simp [removed]
      · rw [if_neg (by simpa [removed] using replaced)]
        simp [removed, reported, TypedTelemetryFrame.get?_byKey]

theorem mergedPoints_own (previous : TypedTelemetryFrame) (driverKey : String) (values : Values)
    (replace : Bool) (removedKeys : List String) :
    OwnKeys (mergedPoints previous driverKey values replace removedKeys) := by
  intro key point held
  rw [mergedPoints_get?] at held
  split at held
  · split at held
    · cases held
      rfl
    · cases held
  · split at held
    · cases held
    · obtain ⟨earlier, found, rfl⟩ := Option.map_eq_some_iff.mp held
      have own : earlier.key = key := TypedTelemetryFrame.point?_key found
      exact own

theorem foldDriverTelemetry_ok {previous frame : TypedTelemetryFrame} {driverKey : String}
    {values : Values} {replace : Bool} {removedKeys : List String}
    (folded : foldDriverTelemetry previous driverKey values replace removedKeys = .ok frame) :
    TypedTelemetryFrame.construct driverKey
      (sortedPoints (mergedPoints previous driverKey values replace removedKeys)) = .ok frame := by
  unfold foldDriverTelemetry at folded
  split at folded
  · cases folded
  · split at folded
    · cases folded
    · exact folded

theorem asCarried_fault {point : TelemetryPoint} (faultless : point.fault = none) :
    point.asCarried.fault = none := faultless

theorem reported_fault {key : String} {v : Value} (normalized : normalizedKey key)
    (scalar : v.isScalar = true) : TelemetryPoint.fault ⟨key, v, .fresh, .driver, []⟩ = none := by
  simp [TelemetryPoint.fault, normalized, scalar]

/-- A fold of a named driver and normalized keys never raises. -/
theorem exists_foldDriverTelemetry (previous : TypedTelemetryFrame) {driverKey : String}
    {values : Values} {replace : Bool} {removedKeys : List String}
    (named : driverKey ≠ "" ∧ strip driverKey = driverKey)
    (normalized : ∀ key ∈ removedKeys ++ values.items.map Prod.fst, normalizedKey key) :
    ∃ frame, foldDriverTelemetry previous driverKey values replace removedKeys = .ok frame := by
  unfold foldDriverTelemetry
  rw [if_neg (by simpa using named), if_neg (by simpa using normalized)]
  apply exists_construct_sortedPoints named.2 named.1 (mergedPoints_own _ _ _ _ _)
  intro key point held
  rw [mergedPoints_get?] at held
  split at held
  · rename_i v reported
    split at held
    · rename_i scalar
      cases held
      have member : key ∈ values.items.map Prod.fst :=
        List.mem_map.mpr ⟨(key, v), (values.get?_eq_some_iff key v).mp reported, rfl⟩
      exact reported_fault (normalized key (List.mem_append_right _ member)) scalar
    · cases held
  · split at held
    · cases held
    · obtain ⟨earlier, found, rfl⟩ := Option.map_eq_some_iff.mp held
      have member := ((previous.point?_eq_some_iff key earlier).mp found).1
      exact asCarried_fault (previous.faultless earlier member)

def Agrees (frame : TypedTelemetryFrame) (hub : Hub.Frame) : Prop :=
  frame.driverKey = hub.driverKey ∧ ∀ key,
    hub.points.get? key = (frame.point? key).map fun point => ⟨point.value, point.freshness⟩

theorem agrees_empty : Agrees TypedTelemetryFrame.empty Hub.Frame.empty := ⟨rfl, fun _ => rfl⟩

theorem agrees_fold {previous frame : TypedTelemetryFrame} {hub hub' : Hub.Frame}
    {driverKey : String} {result : DriverReadResult} (agrees : Agrees previous hub)
    (folded : foldDriverTelemetry previous driverKey result.values
      (decide (result.mode = .full)) result.removedKeys = .ok frame)
    (hubFolded : Hub.foldDriverTelemetry hub driverKey result = .ok hub') : Agrees frame hub' := by
  unfold Hub.foldDriverTelemetry at hubFolded
  split at hubFolded
  · cases hubFolded
  · cases hubFolded
    have built := foldDriverTelemetry_ok folded
    refine ⟨(TypedTelemetryFrame.construct_ok built).1, fun key => ?_⟩
    rw [construct_sortedPoints (mergedPoints_own _ _ _ _ _) built, mergedPoints_get?]
    simp only [points_scalars result.values.nodup]
    have entry : OrderedDict.find key result.values.items = result.values.get? key := rfl
    rw [entry]
    obtain ⟨sameDriver, samePoints⟩ := agrees
    unfold keptPoints
    rw [← sameDriver]
    cases reported : result.values.get? key with
    | some v =>
      by_cases scalar : v.isScalar
      · simp [scalar]
      · by_cases replaced : result.mode = .full ∨ previous.driverKey ≠ driverKey
        · simp [scalar, replaced]
        · simp [scalar, replaced, reported]
    | none =>
      by_cases full : result.mode = .full
      · simp [full]
      · by_cases other : previous.driverKey = driverKey
        · by_cases removed : key ∈ result.removedKeys
          · simp [full, other, removed]
          · simp [full, other, removed, reported, Hub.Frame.asCarried, samePoints,
              Function.comp_def, TelemetryPoint.asCarried]
        · simp [full, other]

end Telemetry
