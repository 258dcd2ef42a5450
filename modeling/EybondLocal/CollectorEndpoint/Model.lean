import EybondLocal.Library.InternetAddress
import EybondLocal.Library.OrderedDict
import EybondLocal.Library.PythonObject

/-!
The collector's persistent server endpoint (`collector_endpoint.py`) and the cloud
profile catalog it reads defaults from (`collector_cloud_profile_catalog_loader.py`).
An endpoint text is `host`, `host,port` or `host,port,protocol`; which parts were
written out is kept beside their values.
-/
namespace CollectorEndpoint
open StripText PythonText PythonObject InternetAddress OrderedDict

structure CollectorCloudProfileCatalogEntry where
  family : String
  defaultPort : Int
  defaultProtocol : String
  knownHosts : List String
  endpointWriteFormat : String

structure CollectorCloudProfileCatalog where
  familiesByHost : Dict String String
  defaultPorts : Dict String Int
  defaultProtocols : Dict String String
  endpointWriteFormats : Dict String String

namespace CollectorCloudProfileCatalog

def empty : CollectorCloudProfileCatalog := ⟨.empty, .empty, .empty, .empty⟩

/-- `families_by_host.setdefault(host, family)`. -/
def addHost (family : String) (hosts : Dict String String) (host : String) : Dict String String :=
  if host ≠ "" ∧ hosts.get? host = none then hosts.set host family else hosts

def addEntry (catalog : CollectorCloudProfileCatalog) (entry : CollectorCloudProfileCatalogEntry) :
    CollectorCloudProfileCatalog :=
  if entry.family = "" then catalog
  else
    { familiesByHost := entry.knownHosts.foldl (addHost entry.family) catalog.familiesByHost
      defaultPorts :=
        if entry.defaultPort ≠ 0 then catalog.defaultPorts.set entry.family entry.defaultPort
        else catalog.defaultPorts
      defaultProtocols :=
        if entry.defaultProtocol ≠ "" then
          catalog.defaultProtocols.set entry.family entry.defaultProtocol
        else catalog.defaultProtocols
      endpointWriteFormats :=
        if entry.endpointWriteFormat ≠ "" then
          catalog.endpointWriteFormats.set entry.family entry.endpointWriteFormat
        else catalog.endpointWriteFormats }

end CollectorCloudProfileCatalog

def loadCollectorCloudProfileCatalog (entries : List CollectorCloudProfileCatalogEntry) :
    CollectorCloudProfileCatalog :=
  entries.foldl CollectorCloudProfileCatalog.addEntry .empty

/-- The profiles of `collector_cloud_profiles.json`. -/
def collectorCloudProfiles : List CollectorCloudProfileCatalogEntry :=
  [⟨"legacy_binary", 502, "TCP", ["ess.eybond.com"], "host_only"⟩,
    ⟨"smartess_at", 18899, "TCP", ["dtu_ess.eybond.com"], "host_port_protocol"⟩,
    ⟨"smartvalue_at", 18899, "TCP", ["m2m.eybond.com"], "host_port_protocol"⟩,
    ⟨"valuecloud_at", 18899, "TCP", ["iot.eybond.com"], "host_port_protocol"⟩]

def builtInCatalog : CollectorCloudProfileCatalog :=
  loadCollectorCloudProfileCatalog collectorCloudProfiles

section Defaults
variable (text : CaseTables) (catalog : CollectorCloudProfileCatalog)

def catalogKey (value : String) : String := text.lower (strip value)

def lookup {α : Type} (index : Dict String α) (fallback : α) (value : String) : α :=
  if catalogKey text value = "" then fallback
  else (index.get? (catalogKey text value)).getD fallback

def resolveCollectorCloudFamilyByHost (host : String) : String :=
  lookup text catalog.familiesByHost "" host

def resolveCollectorCloudDefaultPort (cloudFamily : String) : Int :=
  lookup text catalog.defaultPorts 0 cloudFamily

def resolveCollectorCloudDefaultProtocol (cloudFamily : String) : String :=
  lookup text catalog.defaultProtocols "" cloudFamily

def resolveCollectorCloudEndpointWriteFormat (cloudFamily : String) : String :=
  lookup text catalog.endpointWriteFormats "" cloudFamily

def legacyBinaryCollectorServerPort : Int := 502

def defaultServerPort : Int := 18899

def defaultServerProtocol : String := "TCP"

def defaultCollectorServerPort (cloudFamily : String) : Int :=
  let family := catalogKey text cloudFamily
  let port := if family = "" then 0 else resolveCollectorCloudDefaultPort text catalog family
  if port ≠ 0 then port
  else if family = "legacy_binary" then legacyBinaryCollectorServerPort
  else defaultServerPort

def defaultCollectorServerProtocol (cloudFamily : String) : String :=
  let family := catalogKey text cloudFamily
  let protocol :=
    if family = "" then "" else resolveCollectorCloudDefaultProtocol text catalog family
  if protocol ≠ "" then protocol else defaultServerProtocol

end Defaults

def isAlphanumeric (c : Char) : Bool :=
  let n := c.toNat
  (48 ≤ n && n ≤ 57) || (65 ≤ n && n ≤ 90) || (97 ≤ n && n ≤ 122)

/-- `_HOSTNAME_LABEL_RE`: at most 63 letters, digits, underscores and hyphens, with a letter or
    digit at both ends. -/
def hostnameLabel (label : String) : Bool :=
  let chars := label.toList
  (match chars.head?, chars.getLast? with
    | some first, some last => isAlphanumeric first && isAlphanumeric last
    | _, _ => false) &&
    chars.all (fun c => isAlphanumeric c || c == '_' || c == '-') && chars.length ≤ 63

def hostInvalid : PyError := valueError "collector_server_host_invalid"

def validateCollectorServerHost (serverHost : String) : Except PyError String :=
  let host := strip serverHost
  if host = "" ∨ isAscii host = false ∨ ',' ∈ host.toList then .error hostInvalid
  else match addressVersion host with
    | some .v4 => .ok host
    | some .v6 => .error hostInvalid
    | none =>
      if 253 < host.length ∨ host.toList.head? = some '.' ∨ host.toList.getLast? = some '.' then
        .error hostInvalid
      else if (splitText '.' host).any fun label => label = "" || !hostnameLabel label then
        .error hostInvalid
      else .ok host

inductive PortInput where
  | number (n : Int)
  | text (s : String)

def PortInput.toInt : PortInput → Option Int
  | .number n => some n
  | .text s => parseInt s

def validateCollectorServerPort (serverPort : PortInput) : Except PyError Int :=
  match serverPort.toInt with
  | none => .error (valueError "collector_server_port_invalid")
  | some port =>
    if 1 ≤ port ∧ port ≤ 65535 then .ok port
    else .error (valueError "collector_server_port_invalid")

def validateCollectorServerProtocol (serverProtocol : String) (requireTcp : Bool) :
    Except PyError String :=
  -- `asciiUpper` is `none` exactly where the upper-case form fails `isascii`
  match asciiUpper (strip serverProtocol) with
  | none => .error (valueError "collector_server_protocol_invalid")
  | some protocol =>
    if protocol = "" ∨ ',' ∈ protocol.toList then
      .error (valueError "collector_server_protocol_invalid")
    else if requireTcp ∧ protocol ≠ "TCP" then
      .error (valueError "collector_server_protocol_tcp_required")
    else .ok protocol

structure CollectorServerEndpointParts where
  host : String
  port : Int
  protocol : String
  hasExplicitPort : Bool
  hasExplicitProtocol : Bool
  deriving DecidableEq, Repr

def CollectorServerEndpointParts.render (parts : CollectorServerEndpointParts)
    (preserveShape : Bool) : String :=
  if preserveShape ∧ parts.hasExplicitPort = false then parts.host
  else if preserveShape ∧ parts.hasExplicitProtocol = false then
    parts.host ++ "," ++ toString parts.port
  else parts.host ++ "," ++ toString parts.port ++ "," ++ parts.protocol

/-- The `require_*` keyword arguments. -/
structure Requirements where
  explicitPort : Bool
  explicitProtocol : Bool
  tcp : Bool
  deriving DecidableEq, Repr

def endpointInvalid : PyError := valueError "collector_server_endpoint_invalid"

section Inspection
variable (text : CaseTables) (catalog : CollectorCloudProfileCatalog)

def impliedPort (host : String) : Int :=
  defaultCollectorServerPort text catalog ((catalog.familiesByHost.get? (text.lower host)).getD "")

def inspectCollectorServerEndpoint (require : Requirements) (endpoint : String) :
    Except PyError CollectorServerEndpointParts :=
  match (splitText ',' endpoint).map strip with
  | [host] =>
    if require.explicitPort ∨ host = "" then .error endpointInvalid
    else do
      let host ← validateCollectorServerHost host
      let protocol ← validateCollectorServerProtocol defaultServerProtocol require.tcp
      return ⟨host, impliedPort text catalog host, protocol, false, false⟩
  | [host, port] =>
    if host = "" ∨ port = "" then .error endpointInvalid
    else if require.explicitProtocol then .error endpointInvalid
    else do
      let host ← validateCollectorServerHost host
      let port ← validateCollectorServerPort (.text port)
      let protocol ← validateCollectorServerProtocol defaultServerProtocol require.tcp
      return ⟨host, port, protocol, true, false⟩
  | [host, port, protocol] =>
    if host = "" ∨ port = "" ∨ protocol = "" then .error endpointInvalid
    else do
      let host ← validateCollectorServerHost host
      let port ← validateCollectorServerPort (.text port)
      let protocol ← validateCollectorServerProtocol protocol require.tcp
      return ⟨host, port, protocol, true, true⟩
  | _ => .error endpointInvalid

def resolveCollectorServerEndpoint (require : Requirements) (cloudFamily endpoint : String) :
    Except PyError (String × Int × String) := do
  let parsed ← inspectCollectorServerEndpoint text catalog require endpoint
  let port :=
    if parsed.hasExplicitPort then parsed.port
    else defaultCollectorServerPort text catalog cloudFamily
  return (parsed.host, port, parsed.protocol)

def normalizeCollectorServerEndpoint (require : Requirements) (preserveShape : Bool)
    (endpoint : String) : Except PyError String := do
  let parsed ← inspectCollectorServerEndpoint text catalog require endpoint
  return parsed.render preserveShape

end Inspection

end CollectorEndpoint
