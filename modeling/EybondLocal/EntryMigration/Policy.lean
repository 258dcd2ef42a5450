import EybondLocal.Library.JsonValue
import EybondLocal.Library.OrderedDict
import EybondLocal.RecoveryContract.Model

/-!
The connection axes of a config entry (`connection/connection_policy.py`). Entries are loaded
from storage, so their data and options are mappings of JSON values. Most resolvers read the
options first; `resolve_connection_strategy` reads the data first.
-/
namespace EntryMigration
open StripText PythonObject OrderedDict JsonValue

abbrev Fields := Dict String Json

inductive ConnectionStrategy where
  | inbound
  | callbackOnDemand
  deriving DecidableEq, Repr

def ConnectionStrategy.text : ConnectionStrategy → String
  | inbound => "inbound"
  | callbackOnDemand => "callback_on_demand"

def connectionStrategies : List ConnectionStrategy := [.inbound, .callbackOnDemand]

def defaultConnectionStrategy : ConnectionStrategy := .inbound

inductive EndpointControlPolicy where
  | external
  | integrationManaged
  deriving DecidableEq, Repr

def EndpointControlPolicy.text : EndpointControlPolicy → String
  | external => "external"
  | integrationManaged => "integration_managed"

def endpointControlPolicies : List EndpointControlPolicy := [.external, .integrationManaged]

def defaultEndpointControlPolicy : EndpointControlPolicy := .external

def defaultProxyEnabled : Bool := false

def strategyKey : String := "connection_strategy"
def policyKey : String := "endpoint_control_policy"
def proxyKey : String := "proxy_enabled"
def evidenceKey : String := "connection_strategy_evidence"
def operationModeKey : String := "collector_operation_mode"
def connectionModeKey : String := "connection_mode"
def endpointWrittenValueKey : String := "endpoint_written_value"
def originalEndpointSourceKey : String := "collector_original_server_endpoint_source"
def recoveryContractKey : String := "recovery_contract"

def userTriggeredCallbackConnectionModes : List String := ["manual", "known_ip"]
def integrationWriteEndpointSources : List String := ["config_flow_pre_bind"]

def inboundEvidence : List String := ["reboot_reconnect", "user_confirmed_session"]

def present (fields : Fields) (key : String) : Option Json :=
  (fields.get? key).filter fun value =>
    match value with
    | .null => false
    | value => strip value.render ≠ ""

def firstPresent (key : String) (data options : Fields) : Option Json :=
  (present options key).or (present data key)

/-- `str(_first_present(..) or "").strip()`. -/
def firstText (key : String) (data options : Fields) : String :=
  ((firstPresent key data options).map Json.cleanText).getD ""

def fieldText (fields : Fields) (key : String) : String :=
  ((fields.get? key).map Json.cleanText).getD ""

def knownStrategy (text : String) : Option ConnectionStrategy :=
  connectionStrategies.find? fun strategy => strategy.text = text

def deriveConnectionStrategy (data options : Fields) : ConnectionStrategy :=
  let evidence := firstText evidenceKey data options
  let operationMode := firstText operationModeKey data options
  let connectionMode := firstText connectionModeKey data options
  if evidence = "callback_trigger" then .callbackOnDemand
  else if evidence ∈ inboundEvidence then .inbound
  else if operationMode = "smartess_cloud_home_assistant" then .callbackOnDemand
  else if connectionMode ∈ userTriggeredCallbackConnectionModes then .callbackOnDemand
  else if operationMode = "home_assistant_only" then .inbound
  else if connectionMode = "callback_listener" then .inbound
  else if operationMode ≠ "" then .callbackOnDemand
  else defaultConnectionStrategy

def resolveConnectionStrategy (data options : Fields) : ConnectionStrategy :=
  match knownStrategy (fieldText data strategyKey) with
  | some canonical => canonical
  | none =>
    match knownStrategy (fieldText options strategyKey) with
    | some legacy => legacy
    | none => deriveConnectionStrategy data options

def legacyEffectiveConnectionStrategy (data options : Fields) : ConnectionStrategy :=
  match knownStrategy (firstText strategyKey data options) with
  | some explicit => explicit
  | none => deriveConnectionStrategy data options

def knownPolicy (text : String) : Option EndpointControlPolicy :=
  endpointControlPolicies.find? fun policy => policy.text = text

def deriveEndpointControlPolicy (data options : Fields) : EndpointControlPolicy :=
  if (firstPresent endpointWrittenValueKey data options).isSome then .integrationManaged
  else if firstText originalEndpointSourceKey data options ∈ integrationWriteEndpointSources then
    .integrationManaged
  else defaultEndpointControlPolicy

def resolveEndpointControlPolicy (data options : Fields) : EndpointControlPolicy :=
  match knownPolicy (firstText policyKey data options) with
  | some explicit => explicit
  | none => deriveEndpointControlPolicy data options

def resolveProxyEnabled (data options : Fields) : Bool :=
  match options.get? proxyKey with
  | some value => value.truthy
  | none =>
    match data.get? proxyKey with
    | some value => value.truthy
    | none => defaultProxyEnabled

def contractRecord (data : Fields) : PyObj :=
  ((data.get? recoveryContractKey).map Json.toPyObj).getD .none

/-- `correct_migrated_connection_strategy`: only an inbound entry of the cloud-primary shape,
    without any sign that its collector dials in. Reading the contract may raise. -/
def correctMigratedConnectionStrategy (data options : Fields) :
    Except RecoveryContract.ContractError (Option ConnectionStrategy) :=
  if firstText strategyKey data options ≠ ConnectionStrategy.inbound.text then .ok none
  else if firstText evidenceKey data options ∈ inboundEvidence then .ok none
  else
    match RecoveryContract.fromRecord (contractRecord data) with
    | .error error => .error error
    | .ok contract =>
      if (contract.bind fun held => held.fields.inboundProof).isSome then .ok none
      else if resolveEndpointControlPolicy data options = .integrationManaged then .ok none
      else if firstText operationModeKey data options ≠ "smartess_cloud_home_assistant" then .ok none
      else .ok (some .callbackOnDemand)

def writeAxis (data : Fields) (key : String) (value : Json) (equal : Json → Bool) : Fields :=
  if (data.get? key).any equal then data else data.set key value

def writeStrategy (data : Fields) (strategy : ConnectionStrategy) : Fields :=
  writeAxis data strategyKey (.str strategy.text) fun held => held.equalsText strategy.text

def writePolicy (data : Fields) (policy : EndpointControlPolicy) : Fields :=
  writeAxis data policyKey (.str policy.text) fun held => held.equalsText policy.text

def writeProxy (data : Fields) (enabled : Bool) : Fields :=
  writeAxis data proxyKey (.bool enabled) fun held => held.equalsBool enabled

def migrateEntryAxes (data options : Fields) : Fields :=
  let strategy := legacyEffectiveConnectionStrategy data options
  let policy := resolveEndpointControlPolicy data options
  let proxy := resolveProxyEnabled data options
  writeProxy (writePolicy (writeStrategy data strategy) policy) proxy

def frozen (data options : Fields) : Fields × Fields :=
  let kept := options.erase strategyKey
  let strategy := legacyEffectiveConnectionStrategy data options
  (migrateEntryAxes (writeStrategy data strategy) kept, kept)

/-- The steps of `async_migrate_entry` for an entry below version 4. -/
def migrationSteps (data options : Fields) :
    Except RecoveryContract.ContractError (Fields × Fields) :=
  let (filled, kept) := frozen data options
  match correctMigratedConnectionStrategy filled kept with
  | .error error => .error error
  | .ok none => .ok (filled, kept)
  | .ok (some corrected) => .ok (writeStrategy filled corrected, kept)

structure ConfigEntry where
  version : Int
  data : Fields
  options : Fields

def entrySchemaVersion : Int := 5

def ConfigEntry.schemaVersion (entry : ConfigEntry) : Int :=
  if entry.version = 0 then 1 else entry.version

/-- How the core takes the new version: with the update, by assignment after an update without
    it, or not at all. -/
inductive VersionUpdate where
  | withEntry
  | assigned
  | refused
  deriving DecidableEq, Repr

def VersionUpdate.apply (update : VersionUpdate) (entry : ConfigEntry) : Int :=
  match update with
  | .withEntry | .assigned => entrySchemaVersion
  | .refused => entry.version

/-- `async_migrate_entry`: whether the entry was accepted, and the entry afterwards. -/
def migrateEntry (update : VersionUpdate) (entry : ConfigEntry) :
    Except RecoveryContract.ContractError (Bool × ConfigEntry) :=
  if entrySchemaVersion < entry.schemaVersion then .ok (false, entry)
  else if entrySchemaVersion ≤ entry.schemaVersion then .ok (true, entry)
  else if entry.schemaVersion < 4 then
    (migrationSteps entry.data entry.options).map fun (data, options) =>
      (true, ⟨update.apply entry, data, options⟩)
  else .ok (true, { entry with version := update.apply entry })

end EntryMigration
