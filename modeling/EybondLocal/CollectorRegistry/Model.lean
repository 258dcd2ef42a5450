import EybondLocal.Library.PythonObject
import EybondLocal.Library.OrderedDict
import Mathlib.Data.List.Sort

/-!
The persistent collector registry (`support/collector_registry.py`): one JSON file that is read
whole and rewritten whole. The file is its decoded payload, or nothing when it is missing or
does not decode. A call of `remember_collector_original_endpoint` is one load and at most one
save, and other calls may load and save between the two.
-/
namespace CollectorRegistry
open StripText PythonObject OrderedDict

def explicitUserReplacementSources : List String :=
  ["user_confirmed_existing", "user_selected_catalog", "user_entered_manual"]

def pnCharacter (c : Char) : Bool :=
  ('A' ≤ c && c ≤ 'Z') || ('a' ≤ c && c ≤ 'z') || ('0' ≤ c && c ≤ '9') ||
    c == '_' || c == '.' || c == ':' || c == '-'

def normalizeCollectorPn (value : PyObj) : String :=
  let candidate := value.cleanText
  if 4 ≤ candidate.length ∧ candidate.length ≤ 128 ∧ candidate.toList.all pnCharacter = true then
    candidate
  else ""

/-- `build_collector_registry_record` is the only way to a record, so its PN and its endpoint
    are normalized and not empty. -/
structure CollectorRegistryRecord where
  collectorPn : String
  originalEndpointRaw : String
  cloudProfileKey : String
  source : String
  observedAt : String
  lastSeenIp : String
  pnNormal : normalizeCollectorPn (.str collectorPn) = collectorPn
  pnNonempty : collectorPn ≠ ""
  endpointTrimmed : strip originalEndpointRaw = originalEndpointRaw
  endpointNonempty : originalEndpointRaw ≠ ""

abbrev Records := Dict String CollectorRegistryRecord

theorem normalizeCollectorPn_idempotent (value : PyObj) :
    normalizeCollectorPn (.str (normalizeCollectorPn value)) = normalizeCollectorPn value := by
  by_cases accepted : 4 ≤ value.cleanText.length ∧ value.cleanText.length ≤ 128 ∧
      value.cleanText.toList.all pnCharacter = true
  · have normal : normalizeCollectorPn value = value.cleanText := by
      simp only [normalizeCollectorPn, accepted, and_self, ↓reduceIte]
    rw [normal]
    simp only [normalizeCollectorPn, PyObj.cleanText_str, PyObj.strip_cleanText, accepted, and_self,
      ↓reduceIte]
  · have empty : normalizeCollectorPn value = "" := by
      simp only [normalizeCollectorPn, accepted, ↓reduceIte]
    rw [empty]
    decide

section
-- `str.lower`, which only the cloud profile key goes through.
variable (lower : String → String)

def buildCollectorRegistryRecord (collectorPn originalEndpointRaw cloudProfileKey source observedAt
    lastSeenIp : PyObj) (stamp : String) : Except PyError CollectorRegistryRecord :=
  if pn : normalizeCollectorPn collectorPn = "" then .error (valueError "collector_pn_invalid")
  else if endpoint : originalEndpointRaw.cleanText = "" then
    .error (valueError "original_endpoint_raw_invalid")
  else
    .ok {
      collectorPn := normalizeCollectorPn collectorPn
      originalEndpointRaw := originalEndpointRaw.cleanText
      cloudProfileKey := lower cloudProfileKey.cleanText
      source := if source.cleanText = "" then "runtime_observed" else source.cleanText
      observedAt := if observedAt.cleanText = "" then stamp else observedAt.cleanText
      lastSeenIp := lastSeenIp.cleanText
      pnNormal := normalizeCollectorPn_idempotent collectorPn
      pnNonempty := pn
      endpointTrimmed := PyObj.strip_cleanText originalEndpointRaw
      endpointNonempty := endpoint }

def itemPn (key : String) (fields : List (String × PyObj)) : String :=
  let stored := PyObj.get fields "collector_pn"
  normalizeCollectorPn (if stored.truthy then stored else .str key)

def itemEndpoint (fields : List (String × PyObj)) : String :=
  (PyObj.get fields "original_endpoint_raw").cleanText

def itemText (fields : List (String × PyObj)) (key : String) : PyObj :=
  .str (PyObj.get fields key).textOrEmpty

/-- One round of the loop in `load_collector_registry`. -/
def loadRecord (stamps : String → String) (item : String × PyObj) :
    Option CollectorRegistryRecord :=
  match item.2 with
  | .mapping fields _ =>
    if itemPn item.1 fields = "" ∨ itemEndpoint fields = "" then none
    else
      (buildCollectorRegistryRecord lower (.str (itemPn item.1 fields)) (.str (itemEndpoint fields))
        (itemText fields "cloud_profile_key") (itemText fields "source")
        (itemText fields "observed_at") (itemText fields "last_seen_ip")
        (stamps item.1)).toOption
  | _ => none

def keepRecord (records : Records) (record : CollectorRegistryRecord) : Records :=
  records.set record.collectorPn record

def collectorItems : Option PyObj → List (String × PyObj)
  | some (.mapping payload _) =>
    match PyObj.get payload "collectors" with
    | .mapping items _ => items
    | _ => []
  | _ => []

def loadCollectorRegistry (stamps : String → String) (file : Option PyObj) : Records :=
  ((collectorItems file).filterMap (loadRecord lower stamps)).foldl keepRecord .empty

end

def payloadFields (record : CollectorRegistryRecord) : List (String × PyObj) :=
  [("collector_pn", .str record.collectorPn),
    ("original_endpoint_raw", .str record.originalEndpointRaw),
    ("cloud_profile_key", .str record.cloudProfileKey), ("source", .str record.source),
    ("observed_at", .str record.observedAt), ("last_seen_ip", .str record.lastSeenIp)]

def recordToPayload (record : CollectorRegistryRecord) : PyObj :=
  .mapping (payloadFields record) ""

def savedItems (records : Records) : List (String × CollectorRegistryRecord) :=
  (records.items.insertionSort fun a b => a.1 ≤ b.1).filter fun item =>
    item.1 ≠ "" ∧ item.2.originalEndpointRaw ≠ ""

def saveCollectorRegistry (records : Records) : PyObj :=
  .mapping
    [("version", .int 1),
      ("collectors", .mapping ((savedItems records).map fun item =>
        (item.1, recordToPayload item.2)) "")] ""

structure RememberCall where
  collectorPn : PyObj
  originalEndpointRaw : PyObj
  cloudProfileKey : PyObj := .str ""
  source : PyObj := .str ""
  observedAt : PyObj := .str ""
  lastSeenIp : PyObj := .str ""
  force : Bool := false
  stamp : String := ""

/-- What a save is for: a PN without an endpoint, the replacement of one, or only the address
    an existing record was last seen at. -/
inductive Purpose where
  | stores
  | replaces
  | refreshes
  deriving DecidableEq, Repr

structure Pending where
  snapshot : Records
  record : CollectorRegistryRecord
  purpose : Purpose

def Pending.records (pending : Pending) : Records := keepRecord pending.snapshot pending.record

inductive Decision where
  | returns (existing : CollectorRegistryRecord)
  | saves (pending : Pending)

def forceSourceInvalid : PyError :=
  valueError "collector_original_endpoint_force_source_invalid"

def rememberCollectorOriginalEndpoint (lower : String → String) (stamps : String → String)
    (file : Option PyObj) (call : RememberCall) : Except PyError Decision :=
  match buildCollectorRegistryRecord lower call.collectorPn call.originalEndpointRaw
    call.cloudProfileKey call.source call.observedAt call.lastSeenIp call.stamp with
  | .error error => .error error
  | .ok record =>
    if call.force = true ∧ record.source ∉ explicitUserReplacementSources then
      .error forceSourceInvalid
    else
      let records := loadCollectorRegistry lower stamps file
      if call.force = true then .ok (.saves ⟨records, record, .replaces⟩)
      else match records.get? record.collectorPn with
      | none => .ok (.saves ⟨records, record, .stores⟩)
      | some existing =>
        if call.lastSeenIp.truthy = true ∧ existing.lastSeenIp ≠ record.lastSeenIp then
          .ok (.saves ⟨records,
            { existing with
              cloudProfileKey :=
                if existing.cloudProfileKey = "" then record.cloudProfileKey
                else existing.cloudProfileKey
              lastSeenIp := record.lastSeenIp }, .refreshes⟩)
        else .ok (.returns existing)

inductive Action where
  | load (id : Nat) (call : RememberCall) (stamps : String → String)
  | save (id : Nat)
  | saveFails (id : Nat)

/-- The file, the calls between load and save, and the endpoints that calls have stored and
    returned, as far as no explicit replacement has followed. -/
structure State where
  file : Option PyObj
  pending : Nat → Option Pending
  durable : String → Option String

def durableAfter (durable : String → Option String) (pending : Pending) : String → Option String :=
  let stored := some pending.record.originalEndpointRaw
  match pending.purpose with
  | .stores =>
    Function.update durable pending.record.collectorPn
      ((durable pending.record.collectorPn).or stored)
  | .replaces => Function.update durable pending.record.collectorPn stored
  | .refreshes => durable

def step (lower : String → String) (s : State) : Action → State
  | .load id call stamps =>
    match s.pending id, rememberCollectorOriginalEndpoint lower stamps s.file call with
    | none, .ok (.saves pending) => { s with pending := Function.update s.pending id (some pending) }
    | _, _ => s
  | .save id =>
    match s.pending id with
    | none => s
    | some pending =>
      { file := some (saveCollectorRegistry pending.records)
        pending := Function.update s.pending id none
        durable := durableAfter s.durable pending }
  | .saveFails id => { s with pending := Function.update s.pending id none }

def endpointOf (records : Records) (pn : String) : Option String :=
  (records.get? pn).map CollectorRegistryRecord.originalEndpointRaw

def loadedEndpoint (lower stamps : String → String) (file : Option PyObj) (pn : String) :
    Option String := endpointOf (loadCollectorRegistry lower stamps file) pn

end CollectorRegistry
