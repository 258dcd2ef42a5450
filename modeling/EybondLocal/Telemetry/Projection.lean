import EybondLocal.Library.DerivedFlags
import EybondLocal.Telemetry.Canonical

/-!
`project_canonical_telemetry`: a typed frame with its canonical aliases. It shows what the pass
leaves in the mapping, and an alias is as fresh as everything it rests on.
-/
namespace Telemetry
open OrderedDict StripText PythonObject Hub HubFacts TrackedReads DerivedFlags

def acceptedVariant (variantKey : Option String) : Prop :=
  ∀ key, variantKey = some key → normalizedKey key

instance (variantKey : Option String) : Decidable (acceptedVariant variantKey) :=
  match variantKey with
  | none => isTrue nofun
  | some key => decidable_of_iff (normalizedKey key) (by simp [acceptedVariant])

def canonicalPoint (found : Computation) (sources : List TelemetryPoint) : TelemetryPoint where
  key := found.key
  value := found.value
  freshness := if ∀ source ∈ sources, source.freshness = .fresh then .fresh else .carried
  origin := .canonical
  sourceKeys := found.sourceKeys

def addCanonical (points : Dict String TelemetryPoint) (found : Computation) :
    Except PyError (Dict String TelemetryPoint) :=
  if found.value.isScalar = false then .ok points
  else
    let sources := found.sourceKeys.filterMap points.get?
    if sources.length ≠ found.sourceKeys.length ∨ sources = [] then .ok points
    else
      match (canonicalPoint found sources).fault with
      | some error => .error error
      | none => .ok (points.set found.key (canonicalPoint found sources))

def projectCanonicalTelemetry (floatText : ℚ → String) (frame : TypedTelemetryFrame)
    (variantKey : Option String) : Except PyError TypedTelemetryFrame :=
  if ¬ acceptedVariant variantKey then .error (valueError "canonical_telemetry_variant_invalid")
  else if frame.points = [] then .ok frame
  else do
    let pass := applyCanonicalPass floatText frame.driverKey variantKey frame.values
    let points ← pass.computations.foldlM addCanonical frame.byKey
    TypedTelemetryFrame.construct frame.driverKey (sortedPoints points)

theorem fault_eq_none_iff (point : TelemetryPoint) : point.fault = none ↔
    (normalizedKey point.key ∧ ∀ key ∈ point.sourceKeys, normalizedKey key) ∧
      point.sourceKeys.Nodup ∧ (point.origin = .driver → point.sourceKeys = []) ∧
      (point.origin = .canonical → point.sourceKeys ≠ [] ∧ point.key ∉ point.sourceKeys) ∧
      point.value.isScalar = true := by
  unfold TelemetryPoint.fault
  constructor
  · intro faultless
    split at faultless
    · cases faultless
    · rename_i names
      split at faultless
      · cases faultless
      · rename_i nodup
        split at faultless
        · cases faultless
        · rename_i driver
          split at faultless
          · cases faultless
          · rename_i sources
            split at faultless
            · cases faultless
            · rename_i self
              split at faultless
              · rename_i scalar
                push Not at names nodup driver sources self
                exact ⟨names, nodup, driver, fun canonical => ⟨sources canonical, self canonical⟩,
                  scalar⟩
              · split at faultless
                · exact absurd faultless (by simp)
                · exact absurd faultless (by simp)
  · rintro ⟨⟨key, sources⟩, nodup, driver, canonical, scalar⟩
    cases origin : point.origin with
    | driver => simp_all
    | canonical => simp_all

theorem get?_values (frame : TypedTelemetryFrame) (key : String) :
    frame.values.get? key = frame.value? key := by
  have search : OrderedDict.find key frame.byKey.items = frame.point? key := frame.get?_byKey key
  unfold TypedTelemetryFrame.values TypedTelemetryFrame.value?
  rw [Dict.get?_foldl_write (fun _ point => some point.value) frame.byKey.nodup
    (fun values item key => Dict.get?_set values item.1 key item.2.value), search]
  cases frame.point? key with
  | none => rfl
  | some point => rfl

theorem yields_any {α : Type} (q : Reads α) :
    q.Yields (fun v => v.isScalar = true) fun _ => True := by
  induction q with
  | done answer => trivial
  | ask key next ih => exact fun entry _ => ih entry

theorem yields_get (key : String) :
    (get key).Yields (fun v => v.isScalar = true) fun v => v.isScalar = true := by
  apply (Query.yields_lookup _ key).bind
  intro entry entryOk
  cases entry with
  | none => rfl
  | some v => exact entryOk v rfl

theorem roundedNumber_isScalar (q : Option ℚ) : (roundedNumber q).isScalar = true := by
  cases q <;> rfl

theorem eybondGAsciiPower_isScalar (code : String) (voltage current : ℚ) :
    (eybondGAsciiPower code voltage current).isScalar = true := by
  unfold eybondGAsciiPower
  repeat' split
  all_goals rfl

theorem directedMagnitude_isScalar (floatText : ℚ → String) (magnitude : Option ℚ)
    (direction : Value) : (directedMagnitude floatText magnitude direction).isScalar = true := by
  unfold directedMagnitude
  cases magnitude with
  | none => rfl
  | some magnitude =>
    dsimp only
    split
    · rfl
    · split <;> rfl

theorem yields_scalar {α : Type} (q : Reads α) {f : α → Reads Value}
    (scalar : ∀ answer, (f answer).Yields (fun v => v.isScalar = true) fun v => v.isScalar = true) :
    (q >>= f).Yields (fun v => v.isScalar = true) fun v => v.isScalar = true :=
  (yields_any q).bind fun answer _ => scalar answer

theorem computed_isScalar (v : CanonicalTelemetryVariant) (floatText : ℚ → String) :
    (v.computed floatText).Yields (fun v => v.isScalar = true) fun v => v.isScalar = true := by
  unfold CanonicalTelemetryVariant.computed
  cases v.compute with
  | passthrough => exact yields_get _
  | multiply => exact yields_scalar _ fun q => roundedNumber_isScalar q
  | sum => exact yields_scalar _ fun q => roundedNumber_isScalar q
  | signedDeltaMultiply =>
    apply yields_scalar
    intro voltage
    apply yields_scalar
    intro charge
    exact yields_scalar _ fun discharge => roundedNumber_isScalar _
  | eybondGAsciiBatteryPower =>
    apply yields_scalar
    intro voltage
    apply yields_scalar
    intro current
    apply yields_scalar
    intro mode
    split
    · split
      · apply yields_scalar
        intro pvCharging
        exact yields_scalar _ fun charging => eybondGAsciiPower_isScalar _ _ _
      · exact eybondGAsciiPower_isScalar _ _ _
    · rfl
  | negate => exact yields_scalar _ fun q => roundedNumber_isScalar _
  | magnitudeWithDirection =>
    apply yields_scalar
    intro magnitude
    exact yields_scalar _ fun direction => directedMagnitude_isScalar _ _ _
  | flow flow =>
    apply yields_scalar
    intro flows
    cases flows <;> rfl

theorem computed_asks (v : CanonicalTelemetryVariant) (floatText : ℚ → String)
    (sourced : v.firstKey ∈ v.sourceKeys) :
    ∃ next, v.computed floatText = .ask v.firstKey next := by
  obtain ⟨first, rest, eq⟩ := List.exists_cons_of_ne_nil (List.ne_nil_of_mem sourced)
  have source : v.source 0 = first := by simp [CanonicalTelemetryVariant.source, eq]
  unfold CanonicalTelemetryVariant.computed CanonicalTelemetryVariant.firstKey
  cases v.compute with
  | multiply =>
    dsimp only
    rw [eq, source]
    exact ⟨_, rfl⟩
  | sum =>
    dsimp only
    rw [eq, source]
    exact ⟨_, rfl⟩
  | _ => exact ⟨_, rfl⟩

def freshnessFrom (base : TelemetryPoint → Prop) : Derivation String TelemetryPoint where
  sources := TelemetryPoint.sourceKeys
  base := base
  flag point := point.freshness = .fresh

structure Mirrors (frame : TypedTelemetryFrame) (state : PassState)
    (points : Dict String TelemetryPoint) : Prop where
  values : ∀ key, state.values.get? key = (points.get? key).map TelemetryPoint.value
  own : OwnKeys points
  faultless : ∀ key point, points.get? key = some point → point.fault = none
  native : ∀ key point, frame.point? key = some point → points.get? key = some point

section Step
variable {floatText : ℚ → String} {driverKey : String} {variantKey : Option String}
  {frame : TypedTelemetryFrame} {state : PassState} {points : Dict String TelemetryPoint}
  {found : Computation}

theorem Mirrors.isSome_iff (mirrors : Mirrors frame state points) (key : String) :
    (state.values.get? key).isSome = (points.get? key).isSome := by
  rw [mirrors.values key, Option.isSome_map]

/-- What the loop relies on in a computation: it is scalar, it has sources, they are there, and
    its own key is not. -/
structure Sourced (points : Dict String TelemetryPoint) (found : Computation) : Prop where
  normalized : normalizedKey found.key
  absent : points.get? found.key = none
  scalar : found.value.isScalar = true
  nonempty : found.sourceKeys ≠ []
  nodup : found.sourceKeys.Nodup
  present : ∀ key ∈ found.sourceKeys, (points.get? key).isSome

theorem sourced_of_evaluated (mirrors : Mirrors frame state points)
    {spec : CanonicalTelemetryDescription} (member : spec ∈ CANONICAL_TELEMETRY)
    (computed : evaluated floatText driverKey variantKey state.values spec = some found) :
    Sourced points found := by
  obtain ⟨absent, key_eq, -, v, v_member, -, present, run⟩ := evaluated_some computed
  have first := firstKey_source spec member v v_member
  have logged : ((v.computed floatText).run state.values.get? []).2 = found.sourceKeys := by rw [run]
  have value_eq : ((v.computed floatText).run state.values.get? []).1 = found.value := by rw [run]
  have entriesGood : ∀ key w, state.values.get? key = some w → w.isScalar = true := by
    intro key w entry
    rw [mirrors.values, Option.map_eq_some_iff] at entry
    obtain ⟨point, held, rfl⟩ := entry
    exact ((fault_eq_none_iff point).mp (mirrors.faultless key point held)).2.2.2.2
  constructor
  · rw [key_eq]
    exact spec_key_normalized spec member
  · rw [key_eq]
    have none_point := mirrors.isSome_iff spec.key
    rw [absent] at none_point
    exact Option.not_isSome_iff_eq_none.mp (by simp [← none_point])
  · rw [← value_eq]
    exact Query.run_yields (computed_isScalar v floatText) entriesGood []
  · obtain ⟨next, asks⟩ := computed_asks v floatText first
    rw [asks] at logged
    rw [← logged]
    exact List.ne_nil_of_mem (Query.mem_run_ask next [] (present _ first))
  · rw [← logged]
    exact Query.run_nodup _ _ List.nodup_nil
  · intro key source
    rw [← mirrors.isSome_iff]
    rw [← logged] at source
    exact Query.isSome_of_mem_run _ _ (by simp) source

theorem Sourced.self_absent (sourced : Sourced points found) : found.key ∉ found.sourceKeys := by
  intro member
  have present := sourced.present _ member
  rw [sourced.absent] at present
  cases present

theorem Sourced.fault (sourced : Sourced points found) (own : OwnKeys points)
    (faultless : ∀ key point, points.get? key = some point → point.fault = none)
    (sources : List TelemetryPoint) : (canonicalPoint found sources).fault = none := by
  rw [fault_eq_none_iff]
  refine ⟨⟨sourced.normalized, ?_⟩, sourced.nodup, nofun,
    fun _ => ⟨sourced.nonempty, sourced.self_absent⟩, sourced.scalar⟩
  intro key member
  obtain ⟨point, held⟩ := Option.isSome_iff_exists.mp (sourced.present key member)
  rw [← own key point held]
  exact ((fault_eq_none_iff point).mp (faultless key point held)).1.1

theorem addCanonical_sourced (sourced : Sourced points found) (own : OwnKeys points)
    (faultless : ∀ key point, points.get? key = some point → point.fault = none) :
    addCanonical points found = .ok (points.set found.key
      (canonicalPoint found (found.sourceKeys.filterMap points.get?))) := by
  have complete : (found.sourceKeys.filterMap points.get?).length = found.sourceKeys.length :=
    List.filterMap_length_eq_length.mpr sourced.present
  have some_source : found.sourceKeys.filterMap points.get? ≠ [] := by
    rw [← List.length_pos_iff_ne_nil, complete, List.length_pos_iff_ne_nil]
    exact sourced.nonempty
  unfold addCanonical
  rw [if_neg (by simp [sourced.scalar])]
  dsimp only
  rw [if_neg (by simp only [complete, some_source, ne_eq, not_true_eq_false, or_self,
    not_false_eq_true]), sourced.fault own faultless]

theorem canonicalPoint_fresh (points : Dict String TelemetryPoint) (found : Computation) :
    (canonicalPoint found (found.sourceKeys.filterMap points.get?)).freshness = .fresh ↔
      ∀ key ∈ found.sourceKeys, ∀ source, points.get? key = some source →
        source.freshness = .fresh := by
  unfold canonicalPoint
  constructor
  · intro fresh key member source held
    dsimp only at fresh
    split at fresh
    · rename_i all
      exact all source (List.mem_filterMap.mpr ⟨key, member, held⟩)
    · cases fresh
  · intro all
    dsimp only
    rw [if_pos]
    intro source member
    obtain ⟨key, used, held⟩ := List.mem_filterMap.mp member
    exact all key used source held

theorem Mirrors.add (mirrors : Mirrors frame state points) (sourced : Sourced points found)
    (sources : List TelemetryPoint) :
    Mirrors frame (state.add (some found)) (points.set found.key (canonicalPoint found sources)) := by
  constructor
  · intro key
    simp only [PassState.add, Dict.get?_set]
    split
    · rfl
    · exact mirrors.values key
  · intro key point held
    rw [Dict.get?_set] at held
    split at held
    · rename_i same
      cases held
      exact same.symm
    · exact mirrors.own key point held
  · intro key point held
    rw [Dict.get?_set] at held
    split at held
    · cases held
      exact sourced.fault mirrors.own mirrors.faultless sources
    · exact mirrors.faultless key point held
  · intro key point held
    have before := mirrors.native key point held
    have other : key ≠ found.key := by
      rintro rfl
      rw [sourced.absent] at before
      cases before
    rw [Dict.get?_set, if_neg other, before]

theorem Sourced.extends (sourced : Sourced points found) {base : TelemetryPoint → Prop}
    (derived : ¬ base (canonicalPoint found (found.sourceKeys.filterMap points.get?))) :
    Derivation.Extends (freshnessFrom base) points.get?
      (points.set found.key (canonicalPoint found (found.sourceKeys.filterMap points.get?))).get?
      found.key (canonicalPoint found (found.sourceKeys.filterMap points.get?)) where
  fresh := sourced.absent
  held := by rw [Dict.get?_set, if_pos rfl]
  others key other := by rw [Dict.get?_set, if_neg other]
  derived := derived
  present := sourced.present
  flagged := canonicalPoint_fresh points found

end Step

/-- Each point of the frame that is no base point is fresh exactly when every base point is that it
    rests on. -/
def FreshnessLaw (base : TelemetryPoint → Prop) (frame : TypedTelemetryFrame) : Prop :=
  (freshnessFrom base).Law frame.point?

def SourcesPresent (base : TelemetryPoint → Prop) (frame : TypedTelemetryFrame) : Prop :=
  (freshnessFrom base).Closed frame.point?

def driverOrigin (point : TelemetryPoint) : Prop := point.origin = .driver

def TypedTelemetryFrame.native (frame : TypedTelemetryFrame) (point : TelemetryPoint) : Prop :=
  frame.point? point.key = some point

section Run
variable {floatText : ℚ → String} {variantKey : Option String} {frame : TypedTelemetryFrame}

theorem law_native (frame : TypedTelemetryFrame) :
    SourcesPresent frame.native frame ∧ FreshnessLaw frame.native frame := by
  have native : ∀ key point, frame.point? key = some point → frame.native point := by
    intro key point held
    rw [TypedTelemetryFrame.native, TypedTelemetryFrame.point?_key held]
    exact held
  constructor
  · intro key point held derived
    exact absurd (native key point held) derived
  · intro key point held derived
    exact absurd (native key point held) derived

theorem law_of_driver_points (driven : ∀ point ∈ frame.points, driverOrigin point) :
    SourcesPresent driverOrigin frame ∧ FreshnessLaw driverOrigin frame := by
  constructor
  · intro key point held derived
    exact absurd (driven point ((frame.point?_eq_some_iff key point).mp held).1) derived
  · intro key point held derived
    exact absurd (driven point ((frame.point?_eq_some_iff key point).mp held).1) derived

def AliasesDerived (frame : TypedTelemetryFrame) (base : TelemetryPoint → Prop) : Prop :=
  ∀ point, point.origin = .canonical → frame.point? point.key = none → ¬ base point

theorem aliasesDerived_native (frame : TypedTelemetryFrame) : AliasesDerived frame frame.native := by
  intro point _ absent native
  rw [TypedTelemetryFrame.native, absent] at native
  cases native

theorem aliasesDerived_driver (frame : TypedTelemetryFrame) :
    AliasesDerived frame driverOrigin := by
  intro point canonical _ driver
  rw [driverOrigin, canonical] at driver
  cases driver

structure Collected (frame : TypedTelemetryFrame) (state : PassState)
    (points : Dict String TelemetryPoint) : Prop where
  built : state.computations.foldlM addCanonical frame.byKey = .ok points
  mirrors : Mirrors frame state points
  lawful : ∀ base, AliasesDerived frame base → SourcesPresent base frame →
    FreshnessLaw base frame →
    (freshnessFrom base).Closed points.get? ∧ (freshnessFrom base).Law points.get?

theorem collected_start (frame : TypedTelemetryFrame) :
    Collected frame ⟨frame.values, []⟩ frame.byKey := by
  have table : frame.byKey.get? = frame.point? := funext frame.get?_byKey
  constructor
  · rfl
  · constructor
    · intro key
      rw [get?_values, table]
      rfl
    · intro key point held
      rw [table] at held
      exact TypedTelemetryFrame.point?_key held
    · intro key point held
      rw [table] at held
      exact frame.faultless point ((frame.point?_eq_some_iff key point).mp held).1
    · intro key point held
      rw [table, held]
  · intro base _ present law
    rw [table]
    exact ⟨present, law⟩

theorem collected_step {driverKey : String} {state : PassState}
    {points : Dict String TelemetryPoint} {spec : CanonicalTelemetryDescription}
    {found : Computation} (collected : Collected frame state points)
    (member : spec ∈ CANONICAL_TELEMETRY)
    (computed : evaluated floatText driverKey variantKey state.values spec = some found) :
    ∃ grown, Collected frame (state.add (some found)) grown := by
  have mirrors := collected.mirrors
  have sourced := sourced_of_evaluated mirrors member computed
  refine ⟨points.set found.key
    (canonicalPoint found (found.sourceKeys.filterMap points.get?)), ?_, ?_, ?_⟩
  · simp only [PassState.add, List.foldlM_append, collected.built, List.foldlM_cons,
      List.foldlM_nil, bind_pure]
    exact addCanonical_sourced sourced mirrors.own mirrors.faultless
  · exact mirrors.add sourced _
  · intro base aliases present law
    obtain ⟨closed, lawful⟩ := collected.lawful base aliases present law
    have unframed : frame.point? found.key = none := by
      by_contra framed
      obtain ⟨point, held⟩ := Option.ne_none_iff_exists'.mp framed
      have kept := mirrors.native found.key point held
      rw [sourced.absent] at kept
      cases kept
    have ext := sourced.extends (aliases _ rfl unframed)
    exact ⟨ext.closed closed, ext.law closed lawful⟩

theorem exists_collected (frame : TypedTelemetryFrame) :
    ∃ points, Collected frame
      (applyCanonicalPass floatText frame.driverKey variantKey frame.values) points := by
  apply applyCanonicalPass_induction (motive := fun state => ∃ points, Collected frame state points)
  · exact ⟨_, collected_start frame⟩
  · rintro spec member state found ⟨points, collected⟩ computed
    exact collected_step collected member computed

theorem settled_of_bare (bare : frame.points = []) : ∀ spec ∈ CANONICAL_TELEMETRY,
    evaluated floatText frame.driverKey variantKey frame.values spec = none := by
  intro spec member
  cases computed : evaluated floatText frame.driverKey variantKey frame.values spec with
  | none => rfl
  | some found =>
    obtain ⟨-, -, -, v, v_member, -, present, -⟩ := evaluated_some computed
    have held := present _ (firstKey_source spec member v v_member)
    rw [get?_values, TypedTelemetryFrame.value?, TypedTelemetryFrame.point?, bare] at held
    cases held

variable (floatText frame) in
theorem exists_project (accepted : acceptedVariant variantKey) :
    ∃ projected points, projectCanonicalTelemetry floatText frame variantKey = .ok projected ∧
      Collected frame (applyCanonicalPass floatText frame.driverKey variantKey frame.values) points ∧
      projected.driverKey = frame.driverKey ∧
      (∀ key, projected.point? key = points.get? key) ∧
      (frame.points ≠ [] → projected.points = sortedPoints points) := by
  unfold projectCanonicalTelemetry
  rw [if_neg (not_not.mpr accepted)]
  obtain ⟨points, collected⟩ :=
    @exists_collected floatText variantKey frame
  by_cases bare : frame.points = []
  · rw [if_pos bare]
    have nothing : applyCanonicalPass floatText frame.driverKey variantKey frame.values =
        ⟨frame.values, []⟩ := applyCanonicalPass_of_settled (settled_of_bare bare)
    have same : points = frame.byKey := by
      have built := collected.built
      rw [nothing] at built
      cases built
      rfl
    exact ⟨frame, points, rfl, collected, rfl, fun key => by rw [same, frame.get?_byKey],
      fun some_point => absurd bare some_point⟩
  · rw [if_neg bare]
    have named := frame.driver_named bare
    obtain ⟨projected, constructed⟩ := exists_construct_sortedPoints frame.driver_normalized named
      collected.mirrors.own collected.mirrors.faultless
    refine ⟨projected, points, ?_, collected, (TypedTelemetryFrame.construct_ok constructed).1,
      construct_sortedPoints collected.mirrors.own constructed,
      fun _ => (TypedTelemetryFrame.construct_ok constructed).2⟩
    simp only [collected.built, bind, Except.bind]
    exact constructed

theorem project_idempotent {projected : TypedTelemetryFrame} (accepted : acceptedVariant variantKey)
    (done : projectCanonicalTelemetry floatText frame variantKey = .ok projected) :
    projectCanonicalTelemetry floatText projected variantKey = .ok projected := by
  obtain ⟨projected', points, done', collected, driver, table, sorted⟩ :=
    exists_project floatText frame accepted
  rw [done] at done'
  cases done'
  by_cases bare : frame.points = []
  · have same : projected = frame := by
      unfold projectCanonicalTelemetry at done
      rw [if_neg (not_not.mpr accepted), if_pos bare] at done
      cases done
      rfl
    rw [same] at done ⊢
    exact done
  · have named := frame.driver_named bare
    -- the values of the result are those the pass left, so the second pass has nothing to add
    have settled : ∀ spec ∈ CANONICAL_TELEMETRY,
        evaluated floatText projected.driverKey variantKey projected.values spec = none := by
      intro spec member
      have before := applyCanonicalPass_settled floatText variantKey
        frame.values named spec member
      have entries : ∀ key, projected.values.get? key =
          (applyCanonicalPass floatText frame.driverKey variantKey frame.values).values.get? key := by
        intro key
        rw [get?_values, TypedTelemetryFrame.value?, table, collected.mirrors.values]
      rw [driver, ← before]
      exact evaluated_congr (entries _) fun _ _ _ key _ => entries key
    have resorted : sortedPoints projected.byKey = projected.points := by
      rw [sorted bare]
      unfold sortedPoints
      rw [Dict.sortedItems_congr fun key => (projected.get?_byKey key).trans (table key)]
    unfold projectCanonicalTelemetry
    rw [if_neg (not_not.mpr accepted)]
    split
    · rfl
    · rw [applyCanonicalPass_of_settled settled]
      have rebuilt : TypedTelemetryFrame.construct projected.driverKey projected.points =
          .ok projected := by
        unfold projectCanonicalTelemetry at done
        rw [if_neg (not_not.mpr accepted), if_neg bare] at done
        simp only [collected.built, bind, Except.bind] at done
        rw [driver, sorted bare]
        exact done
      simp only [List.foldlM_nil, bind, Except.bind, pure, Except.pure, resorted]
      exact rebuilt

end Run

def measuredFrame : TypedTelemetryFrame where
  driverKey := "pi30"
  points :=
    [⟨"output_active_power", .int 500, .fresh, .driver, []⟩,
     ⟨"pv_input_power", .int 300, .carried, .driver, []⟩,
     ⟨"battery_voltage", .int 50, .fresh, .driver, []⟩,
     ⟨"battery_charge_current", .int 2, .fresh, .driver, []⟩,
     ⟨"battery_discharge_current", .int 0, .fresh, .driver, []⟩]
  driver_normalized := by decide
  driver_named := by decide
  faultless := by decide
  nodup := by decide

def presetFrame : TypedTelemetryFrame where
  driverKey := "pi30"
  points :=
    [⟨"output_active_power", .int 100, .carried, .driver, []⟩,
     ⟨"output_power", .int 100, .fresh, .canonical, ["output_active_power"]⟩]
  driver_normalized := by decide
  driver_named := by decide
  faultless := by decide
  nodup := by decide

def hubPoint (point : TelemetryPoint) : Hub.Point := ⟨point.value, point.freshness⟩

def HubView (points : Dict String TelemetryPoint) (hubPoints : Dict String Hub.Point) : Prop :=
  ∀ key, hubPoints.get? key = (points.get? key).map hubPoint

theorem hubView_add {points grown : Dict String TelemetryPoint} {hubPoints : Dict String Hub.Point}
    {found : Computation} (view : HubView points hubPoints)
    (added : addCanonical points found = .ok grown) :
    HubView grown (addComputation hubPoints found) := by
  have table : hubPoints.get? = fun key => (points.get? key).map hubPoint := funext view
  have sources : found.sourceKeys.filterMap hubPoints.get? =
      (found.sourceKeys.filterMap points.get?).map hubPoint := by
    rw [table, List.map_filterMap]
  unfold addCanonical at added
  unfold addComputation
  dsimp only
  rw [sources, List.length_map]
  simp only [List.map_eq_nil_iff]
  split at added
  · rename_i unscalar
    rw [if_pos (Or.inl unscalar)]
    cases added
    exact view
  · rename_i scalar
    dsimp only at added
    split at added
    · rename_i missing
      rw [if_pos (Or.inr missing)]
      cases added
      exact view
    · rename_i complete
      rw [if_neg (not_or.mpr ⟨scalar, complete⟩)]
      split at added
      · cases added
      · cases added
        intro key
        rw [Dict.get?_set, Dict.get?_set]
        split
        · have fresh : ((found.sourceKeys.filterMap points.get?).map hubPoint).all
              (·.freshness = .fresh) = true ↔
              ∀ source ∈ found.sourceKeys.filterMap points.get?, source.freshness = .fresh := by
            rw [List.all_map, List.all_eq_true]
            exact forall₂_congr fun _ _ => decide_eq_true_iff
          simp only [Option.map_some, hubPoint, canonicalPoint]
          rw [if_congr fresh rfl rfl]
        · exact view key

theorem hubView_foldl {computations : List Computation} {points grown : Dict String TelemetryPoint}
    {hubPoints : Dict String Hub.Point} (view : HubView points hubPoints)
    (added : computations.foldlM addCanonical points = .ok grown) :
    HubView grown (computations.foldl addComputation hubPoints) := by
  induction computations generalizing points hubPoints with
  | nil =>
    cases added
    exact view
  | cons found rest ih =>
    rw [List.foldlM_cons] at added
    cases first : addCanonical points found with
    | error e =>
      rw [first] at added
      cases added
    | ok middle =>
      rw [first] at added
      exact ih (hubView_add view first) added

theorem get?_frameValues (hub : Hub.Frame) (key : String) :
    (frameValues hub).get? key = (hub.points.get? key).map Hub.Point.value := by
  have search : ∀ items : List (String × Hub.Point),
      find key (items.map fun item => (item.1, item.2.value)) =
        (find key items).map Hub.Point.value := by
    intro items
    induction items with
    | nil => rfl
    | cons item rest ih =>
      by_cases same : item.1 = key
      · simp [find, same]
      · simp [find, same, ih]
  exact search hub.points.items

theorem agrees_project {floatText : ℚ → String} {frame : TypedTelemetryFrame} {hub : Hub.Frame}
    {variantKey : Option String} {projected : TypedTelemetryFrame} (agrees : Agrees frame hub)
    (accepted : acceptedVariant variantKey)
    (done : projectCanonicalTelemetry floatText frame variantKey = .ok projected) :
    Agrees projected ((tablePass floatText).project hub variantKey) := by
  obtain ⟨projected', points, done', collected, driver, table, -⟩ :=
    exists_project floatText frame accepted
  rw [done] at done'
  cases done'
  obtain ⟨sameDriver, samePoints⟩ := agrees
  have view : HubView frame.byKey hub.points := by
    intro key
    rw [frame.get?_byKey]
    exact samePoints key
  have entries : ∀ key, (frameValues hub).get? key = frame.values.get? key := by
    intro key
    rw [get?_frameValues, samePoints, get?_values, TypedTelemetryFrame.value?, Option.map_map]
    rfl
  have same : (tablePass floatText).derive hub.driverKey variantKey (frameValues hub) =
      (applyCanonicalPass floatText frame.driverKey variantKey frame.values).computations := by
    rw [sameDriver]
    exact applyCanonicalPass_congr entries
  have grown := hubView_foldl view collected.built
  rw [← same] at grown
  unfold HubFacts.CanonicalPass.project
  split
  · rename_i empty
    have bare : frame.points = [] := by
      by_contra pointed
      obtain ⟨point, rest, eq⟩ := List.exists_cons_of_ne_nil pointed
      have held : frame.point? point.key = some point := by
        simp [TypedTelemetryFrame.point?, eq]
      have hubHeld := samePoints point.key
      rw [held, Dict.get?, List.isEmpty_iff.mp empty] at hubHeld
      cases hubHeld
    have nothing : applyCanonicalPass floatText frame.driverKey variantKey frame.values =
        ⟨frame.values, []⟩ := applyCanonicalPass_of_settled (settled_of_bare bare)
    rw [same, nothing] at grown
    refine ⟨driver.trans sameDriver, fun key => ?_⟩
    rw [table]
    exact grown key
  · refine ⟨driver.trans sameDriver, fun key => ?_⟩
    rw [table]
    exact grown key

/-- A read of a driver, ready to be folded. -/
structure Reading where
  driverKey : String
  named : driverKey ≠ "" ∧ strip driverKey = driverKey
  result : DriverReadResult

def typedFold (frame : TypedTelemetryFrame) (reading : Reading) :
    Except PyError TypedTelemetryFrame :=
  foldDriverTelemetry frame reading.driverKey reading.result.values
    (decide (reading.result.mode = .full)) reading.result.removedKeys

def hubFold (hub : Hub.Frame) (reading : Reading) : Except PyError Hub.Frame :=
  Hub.foldDriverTelemetry hub reading.driverKey reading.result

theorem agrees_reading {frame : TypedTelemetryFrame} {hub : Hub.Frame} (agrees : Agrees frame hub)
    (reading : Reading) :
    ∃ frame' hub', typedFold frame reading = .ok frame' ∧ hubFold hub reading = .ok hub' ∧
      Agrees frame' hub' := by
  have normalized : ∀ key ∈ reading.result.removedKeys ++
      reading.result.values.items.map Prod.fst, normalizedKey key := by
    intro key member
    rcases List.mem_append.mp member with removed | reported
    · exact reading.result.removed_normalized key removed
    · obtain ⟨⟨key, v⟩, held, rfl⟩ := List.mem_map.mp reported
      exact reading.result.values_normalized key v
        ((reading.result.values.get?_eq_some_iff key v).mpr held)
  obtain ⟨frame', folded⟩ := exists_foldDriverTelemetry frame reading.named normalized
  have hubFolded : ∃ hub', hubFold hub reading = .ok hub' := by
    unfold hubFold Hub.foldDriverTelemetry
    rw [if_neg (by simpa using reading.named)]
    exact ⟨_, rfl⟩
  obtain ⟨hub', hubFolded⟩ := hubFolded
  exact ⟨frame', hub', folded, hubFolded, agrees_fold agrees folded hubFolded⟩

end Telemetry
