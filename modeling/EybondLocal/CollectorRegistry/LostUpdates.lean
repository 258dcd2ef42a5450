import EybondLocal.CollectorRegistry.Model
import EybondLocal.Library.Execution

/-!
Durable endpoints under concurrent calls. A save writes the snapshot its call loaded, so it
undoes whatever was saved in between. Endpoints survive a run exactly when every save finds
the endpoints its call has loaded.
-/
namespace CollectorRegistry
open StripText PythonObject OrderedDict Execution

def view (record : CollectorRegistryRecord) : String × String :=
  (record.collectorPn, record.originalEndpointRaw)

def itemView (item : String × PyObj) : Option (String × String) :=
  match item.2 with
  | .mapping fields _ =>
    if itemPn item.1 fields = "" ∨ itemEndpoint fields = "" then none
    else some (itemPn item.1 fields, itemEndpoint fields)
  | _ => none

theorem itemView_mapping (key rendered : String) (fields : List (String × PyObj)) :
    itemView (key, .mapping fields rendered) =
      if itemPn key fields = "" ∨ itemEndpoint fields = "" then none
      else some (itemPn key fields, itemEndpoint fields) := rfl

def viewedEndpoint (views : List (String × String)) (pn : String) : Option String :=
  (views.reverse.find? fun entry => entry.1 = pn).map Prod.snd

def fileEndpoint (file : Option PyObj) (pn : String) : Option String :=
  viewedEndpoint ((collectorItems file).filterMap itemView) pn

theorem build_view (lower : String → String) {pn endpoint : String}
    (normal : normalizeCollectorPn (.str pn) = pn) (trimmed : strip endpoint = endpoint)
    (nonemptyPn : pn ≠ "") (nonempty : endpoint ≠ "") (cloud source observedAt ip : PyObj)
    (stamp : String) :
    (buildCollectorRegistryRecord lower (.str pn) (.str endpoint) cloud source observedAt ip
      stamp).toOption.map view = some (pn, endpoint) := by
  simp only [buildCollectorRegistryRecord, normal, nonemptyPn, PyObj.cleanText_str, trimmed,
    nonempty, ↓reduceDIte, Except.toOption, Option.map_some, view]

theorem loadRecord_view (lower stamps : String → String) (item : String × PyObj) :
    (loadRecord lower stamps item).map view = itemView item := by
  obtain ⟨key, value⟩ := item
  cases value with
  | mapping fields rendered =>
    by_cases skipped : itemPn key fields = "" ∨ itemEndpoint fields = ""
    · simp only [loadRecord, itemView, skipped, ↓reduceIte, Option.map_none]
    · simp only [loadRecord, itemView, skipped, ↓reduceIte]
      rw [not_or] at skipped
      have normal : normalizeCollectorPn (.str (itemPn key fields)) = itemPn key fields := by
        rw [itemPn, normalizeCollectorPn_idempotent]
      have trimmed : strip (itemEndpoint fields) = itemEndpoint fields := by
        rw [itemEndpoint, PyObj.strip_cleanText]
      exact build_view lower normal trimmed skipped.1 skipped.2 _ _ _ _ _
  | _ => rfl

theorem filterMap_map_view (lower stamps : String → String) (items : List (String × PyObj)) :
    (items.filterMap (loadRecord lower stamps)).map view = items.filterMap itemView := by
  rw [List.map_filterMap]
  apply List.filterMap_congr
  intro item _
  exact loadRecord_view lower stamps item

theorem endpointOf_fold (records : List CollectorRegistryRecord) (pn : String) :
    endpointOf (records.foldl keepRecord .empty) pn = viewedEndpoint (records.map view) pn := by
  have last := Dict.get?_foldl_set CollectorRegistryRecord.collectorPn records Dict.empty pn
  rw [Dict.get?_empty, Option.or_none] at last
  unfold endpointOf keepRecord
  rw [last, viewedEndpoint, ← List.map_reverse, List.find?_map, Option.map_map]
  rfl

theorem loadedEndpoint_eq (lower stamps : String → String) (file : Option PyObj) (pn : String) :
    loadedEndpoint lower stamps file pn = fileEndpoint file pn := by
  rw [loadedEndpoint, loadCollectorRegistry, endpointOf_fold, filterMap_map_view, fileEndpoint]

def Keyed (records : Records) : Prop :=
  ∀ pn record, records.get? pn = some record → record.collectorPn = pn

theorem Keyed.keep {records : Records} (keyed : Keyed records) (record : CollectorRegistryRecord) :
    Keyed (keepRecord records record) := by
  intro pn stored held
  rw [keepRecord, Dict.get?_set] at held
  split at held
  · rename_i own
    cases held
    exact own.symm
  · exact keyed pn stored held

theorem keyed_empty : Keyed .empty := by
  intro pn record held
  cases held

theorem keyed_fold (loaded : List CollectorRegistryRecord) {records : Records}
    (keyed : Keyed records) : Keyed (loaded.foldl keepRecord records) := by
  induction loaded generalizing records with
  | nil => exact keyed
  | cons record rest ih => exact ih (keyed.keep record)

theorem keyed_load (lower stamps : String → String) (file : Option PyObj) :
    Keyed (loadCollectorRegistry lower stamps file) := keyed_fold _ keyed_empty

theorem payloadFields_pn (record : CollectorRegistryRecord) :
    PyObj.get (payloadFields record) "collector_pn" = .str record.collectorPn := rfl

theorem payloadFields_endpoint (record : CollectorRegistryRecord) :
    PyObj.get (payloadFields record) "original_endpoint_raw" = .str record.originalEndpointRaw := rfl

theorem itemView_payload (key : String) (record : CollectorRegistryRecord) :
    itemView (key, recordToPayload record) = some (view record) := by
  have truthy : (PyObj.str record.collectorPn).truthy = true := by
    simp [PyObj.truthy, record.pnNonempty]
  have pn : itemPn key (payloadFields record) = record.collectorPn := by
    rw [itemPn, payloadFields_pn, if_pos truthy, record.pnNormal]
  have endpoint : itemEndpoint (payloadFields record) = record.originalEndpointRaw := by
    rw [itemEndpoint, payloadFields_endpoint, PyObj.cleanText_str, record.endpointTrimmed]
  have loadable : ¬ (record.collectorPn = "" ∨ record.originalEndpointRaw = "") := by
    rw [not_or]
    exact ⟨record.pnNonempty, record.endpointNonempty⟩
  rw [recordToPayload, itemView_mapping, pn, endpoint, if_neg loadable, view]

theorem collectorItems_save (records : Records) :
    collectorItems (some (saveCollectorRegistry records)) =
      (savedItems records).map fun item => (item.1, recordToPayload item.2) := by
  simp [collectorItems, saveCollectorRegistry, PyObj.get]

theorem fileViews_save (records : Records) :
    (collectorItems (some (saveCollectorRegistry records))).filterMap itemView =
      (savedItems records).map fun item => view item.2 := by
  rw [collectorItems_save, List.filterMap_map, ← List.filterMap_eq_map]
  apply List.filterMap_congr
  intro item _
  rw [Function.comp_apply, itemView_payload]
  rfl

theorem mem_savedItems {records : Records} (keyed : Keyed records) (pn : String)
    (record : CollectorRegistryRecord) :
    (pn, record) ∈ savedItems records ↔ records.get? pn = some record := by
  rw [savedItems, List.mem_filter, List.mem_insertionSort, ← Dict.get?_eq_some_iff]
  constructor
  · exact And.left
  · intro held
    have named : pn ≠ "" := keyed pn record held ▸ record.pnNonempty
    exact ⟨held, by simp [named, record.endpointNonempty]⟩

theorem fileEndpoint_save {records : Records} (keyed : Keyed records) (pn : String) :
    fileEndpoint (some (saveCollectorRegistry records)) pn = endpointOf records pn := by
  unfold fileEndpoint viewedEndpoint endpointOf
  rw [fileViews_save, ← List.map_reverse, List.find?_map]
  cases found : (savedItems records).reverse.find?
      ((fun entry : String × String => decide (entry.1 = pn)) ∘ fun item => view item.2) with
  | none =>
    cases held : records.get? pn with
    | none => rfl
    | some record =>
      rw [List.find?_eq_none] at found
      have saved := (mem_savedItems keyed pn record).mpr held
      have missed := found (pn, record) (List.mem_reverse.mpr saved)
      simp [view, keyed pn record held] at missed
  | some item =>
    obtain ⟨key, record⟩ := item
    have saved := List.mem_reverse.mp (List.mem_of_find?_eq_some found)
    have held := (mem_savedItems keyed key record).mp saved
    have own := List.find?_some found
    simp only [Function.comp_apply, view, decide_eq_true_eq] at own
    rw [← keyed key record held, own] at held
    simp [held, view]

def initial (file : Option PyObj) : State := ⟨file, fun _ => none, fileEndpoint file⟩

def Kept (lower : String → String) (s : State) : Prop :=
  ∀ stamps pn endpoint, s.durable pn = some endpoint →
    loadedEndpoint lower stamps s.file pn = some endpoint

/-- The file still holds, for every other PN, the endpoint the call has loaded; for its own PN
    a call that stores one finds none or the same, and one that replaces it any. -/
def Undisturbed (file : Option PyObj) (pending : Pending) : Prop :=
  (∀ pn, pn ≠ pending.record.collectorPn → fileEndpoint file pn = endpointOf pending.snapshot pn) ∧
    match pending.purpose with
    | .stores => ∀ endpoint, fileEndpoint file pending.record.collectorPn = some endpoint →
        endpoint = pending.record.originalEndpointRaw
    | .replaces => True
    | .refreshes => fileEndpoint file pending.record.collectorPn =
        endpointOf pending.snapshot pending.record.collectorPn

def SavesUndisturbed (s : State) : Action → Prop
  | .save id => ∀ pending, s.pending id = some pending → Undisturbed s.file pending
  | _ => True

/-- What is known of a call between its load and its save: its snapshot names no PN the file
    has lost, and its own record fits its purpose. -/
structure Sound (file : Option PyObj) (pending : Pending) : Prop where
  keyed : Keyed pending.snapshot
  present : ∀ pn, endpointOf pending.snapshot pn ≠ none → fileEndpoint file pn ≠ none
  purpose : pending.purpose = .refreshes →
    endpointOf pending.snapshot pending.record.collectorPn =
      some pending.record.originalEndpointRaw

structure Settled (s : State) : Prop where
  durable : s.durable = fileEndpoint s.file
  sound : ∀ id pending, s.pending id = some pending → Sound s.file pending

theorem endpointOf_records (pending : Pending) (pn : String) :
    endpointOf pending.records pn =
      if pn = pending.record.collectorPn then some pending.record.originalEndpointRaw
      else endpointOf pending.snapshot pn := by
  unfold endpointOf Pending.records keepRecord
  rw [Dict.get?_set]
  split <;> rfl

theorem Sound.saved {file : Option PyObj} {pending : Pending} (sound : Sound file pending)
    (pn : String) :
    fileEndpoint (some (saveCollectorRegistry pending.records)) pn =
      if pn = pending.record.collectorPn then some pending.record.originalEndpointRaw
      else endpointOf pending.snapshot pn := by
  rw [fileEndpoint_save, endpointOf_records]
  exact sound.keyed.keep pending.record

theorem remember_sound {lower stamps : String → String} {file : Option PyObj} {call : RememberCall}
    {pending : Pending}
    (decided : rememberCollectorOriginalEndpoint lower stamps file call = .ok (.saves pending)) :
    Sound file pending := by
  have loaded : ∀ pn, endpointOf (loadCollectorRegistry lower stamps file) pn = fileEndpoint file pn :=
    loadedEndpoint_eq lower stamps file
  have keyed := keyed_load lower stamps file
  have present : ∀ pn, endpointOf (loadCollectorRegistry lower stamps file) pn ≠ none →
      fileEndpoint file pn ≠ none := by
    intro pn
    rw [loaded]
    exact id
  unfold rememberCollectorOriginalEndpoint at decided
  split at decided
  · cases decided
  · split at decided
    · cases decided
    · dsimp only at decided
      split at decided
      · cases decided
        exact ⟨keyed, present, by simp⟩
      · split at decided
        · cases decided
          exact ⟨keyed, present, by simp⟩
        · rename_i existing held
          split at decided
          · cases decided
            refine ⟨keyed, present, fun _ => ?_⟩
            have own := keyed _ existing held
            dsimp only
            rw [endpointOf, own, held]
            rfl
          · cases decided

theorem durableAfter_eq {file : Option PyObj} {pending : Pending} (sound : Sound file pending)
    (undisturbed : Undisturbed file pending) :
    durableAfter (fileEndpoint file) pending =
      fileEndpoint (some (saveCollectorRegistry pending.records)) := by
  funext pn
  rw [sound.saved]
  obtain ⟨others, own⟩ := undisturbed
  unfold durableAfter
  cases purpose : pending.purpose with
  | stores =>
    rw [purpose] at own
    by_cases ours : pn = pending.record.collectorPn
    · subst ours
      simp only [Function.update_self, ↓reduceIte]
      cases found : fileEndpoint file pending.record.collectorPn with
      | none => rfl
      | some endpoint => rw [own endpoint found, Option.some_or]
    · simp only [Function.update_of_ne ours, ours, ↓reduceIte]
      exact others pn ours
  | replaces =>
    by_cases ours : pn = pending.record.collectorPn
    · subst ours
      simp only [Function.update_self, ↓reduceIte]
    · simp only [Function.update_of_ne ours, ours, ↓reduceIte]
      exact others pn ours
  | refreshes =>
    rw [purpose] at own
    by_cases ours : pn = pending.record.collectorPn
    · subst ours
      simp only [↓reduceIte]
      exact own.trans (sound.purpose purpose)
    · simp only [ours, ↓reduceIte]
      exact others pn ours

theorem save_present {file : Option PyObj} {pending : Pending} (sound : Sound file pending)
    (undisturbed : Undisturbed file pending) {pn : String} (present : fileEndpoint file pn ≠ none) :
    fileEndpoint (some (saveCollectorRegistry pending.records)) pn ≠ none := by
  rw [sound.saved]
  split
  · simp
  · rename_i other
    rwa [← undisturbed.1 pn other]

theorem settled_step (lower : String → String) {s : State} {action : Action} (settled : Settled s)
    (undisturbed : SavesUndisturbed s action) : Settled (step lower s action) := by
  cases action with
  | load id call stamps =>
    simp only [step]
    split
    · rename_i pending _ decided
      refine ⟨settled.durable, ?_⟩
      intro other held
      by_cases ours : other = id
      · subst ours
        simp only [Function.update_self, Option.some.injEq]
        rintro rfl
        exact remember_sound decided
      · simp only [Function.update_of_ne ours]
        exact settled.sound other held
    · exact settled
  | save id =>
    simp only [step]
    cases under_way : s.pending id with
    | none => exact settled
    | some pending =>
      have sound := settled.sound id pending under_way
      have calm := undisturbed pending under_way
      constructor
      · dsimp only
        rw [settled.durable]
        exact durableAfter_eq sound calm
      · intro other held
        dsimp only
        by_cases ours : other = id
        · subst ours
          simp
        · simp only [Function.update_of_ne ours]
          intro pendingOther
          have soundOther := settled.sound other held pendingOther
          refine ⟨soundOther.keyed, ?_, soundOther.purpose⟩
          intro pn named
          exact save_present sound calm (soundOther.present pn named)
  | saveFails id =>
    refine ⟨settled.durable, ?_⟩
    intro other held
    simp only [step]
    by_cases ours : other = id
    · subst ours
      simp
    · simp only [Function.update_of_ne ours]
      exact settled.sound other held

theorem kept_of_settled (lower : String → String) {s : State} (settled : Settled s) :
    Kept lower s := by
  intro stamps pn endpoint durable
  rw [loadedEndpoint_eq, ← settled.durable]
  exact durable

/-- A save that keeps every durable endpoint was undisturbed. -/
theorem undisturbed_of_kept (lower : String → String) {s : State} {action : Action}
    (settled : Settled s) (kept : Kept lower (step lower s action)) : SavesUndisturbed s action := by
  cases action with
  | load id call stamps => trivial
  | saveFails id => trivial
  | save id =>
    intro pending under_way
    have sound := settled.sound id pending under_way
    have written : ∀ pn endpoint, durableAfter (fileEndpoint s.file) pending pn = some endpoint →
        (if pn = pending.record.collectorPn then some pending.record.originalEndpointRaw
          else endpointOf pending.snapshot pn) = some endpoint := by
      intro pn endpoint durable
      have loaded := kept (fun _ => "") pn endpoint
      simp only [step, under_way, loadedEndpoint_eq, settled.durable, sound.saved] at loaded
      exact loaded durable
    constructor
    · intro pn other
      have apart : durableAfter (fileEndpoint s.file) pending pn = fileEndpoint s.file pn := by
        cases purpose : pending.purpose <;> simp [durableAfter, purpose, Function.update_of_ne other]
      have kept_other := written pn
      rw [apart, if_neg other] at kept_other
      cases found : fileEndpoint s.file pn with
      | some endpoint => exact (kept_other endpoint found).symm
      | none =>
        by_contra named
        exact sound.present pn (Ne.symm named) found
    · have own := written pending.record.collectorPn
      rw [if_pos rfl] at own
      cases purpose : pending.purpose with
      | stores =>
        intro endpoint found
        have stored := own endpoint (by simp [durableAfter, purpose, found])
        exact (Option.some.inj stored).symm
      | replaces => trivial
      | refreshes =>
        have recorded := sound.purpose purpose
        have held := sound.present pending.record.collectorPn (by rw [recorded]; simp)
        cases found : fileEndpoint s.file pending.record.collectorPn with
        | none => exact absurd found held
        | some endpoint =>
          have same := own endpoint (by simp [durableAfter, purpose, found])
          dsimp only
          rw [recorded, same]

theorem initial_settled (file : Option PyObj) : Settled (initial file) :=
  ⟨rfl, fun _ _ held => by cases held⟩

/-- In every interleaving of loads and saves, every load returns every durable endpoint exactly
    when every save is undisturbed. -/
theorem durable_endpoints_kept_iff (lower : String → String) (file : Option PyObj)
    (actions : List Action) :
    EveryState (step lower) (Kept lower) (initial file) actions ↔
      EveryStep (step lower) SavesUndisturbed (initial file) actions := by
  have supports : ∀ s, Settled s → Kept lower s := fun _ => kept_of_settled lower
  have preserved : ∀ s action, Settled s → True → SavesUndisturbed s action →
      Settled (step lower s action) := fun _ _ settled _ calm => settled_step lower settled calm
  have exact_step : ∀ s action, Settled s → True → Kept lower (step lower s action) →
      SavesUndisturbed s action := fun _ _ settled _ kept => undisturbed_of_kept lower settled kept
  exact everyState_iff_everyStep_of_guard supports preserved exact_step (initial_settled file)
    (everyStep_true (initial file) actions)

def firstCall : RememberCall :=
  { collectorPn := .str "E5000020000001", originalEndpointRaw := .str "cloud.example:18899",
    stamp := "2026-01-02T03:04:05+00:00" }

def secondCall : RememberCall :=
  { collectorPn := .str "E5000020000002", originalEndpointRaw := .str "cloud.example:18899",
    stamp := "2026-01-02T03:04:05+00:00" }

def overlappingCalls : List Action :=
  [.load 1 firstCall fun _ => "", .load 2 secondCall fun _ => "", .save 1, .save 2]

theorem overlapping_calls_lose_endpoint :
    ¬ ∀ file actions, EveryState (step lower) (Kept lower) (initial file) actions := by
  intro always
  have final := everyState_run (always none overlappingCalls)
  have durable : (run (step lower) (initial none) overlappingCalls).durable "E5000020000001" =
      some "cloud.example:18899" := by
    decide +kernel
  have loaded := final (fun _ => "") _ _ durable
  have lost : loadedEndpoint lower (fun _ => "")
      (run (step lower) (initial none) overlappingCalls).file "E5000020000001" = none := by
    decide +kernel
  rw [lost] at loaded
  cases loaded

end CollectorRegistry
