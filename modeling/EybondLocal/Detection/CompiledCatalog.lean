import EybondLocal.Detection.Soundness
import EybondLocal.Detection.Tree
import EybondLocal.Library.DictIndex
import EybondLocal.Library.PythonObject

/-!
The catalog that detection runs on (`metadata/compiled_detection_catalog.py`): protocols, devices
and runtime surfaces under their keys, the indexes over them and one decision tree a protocol. The
case folding of the language is a parameter; revisions and fingerprints, which are digests, are
left out. A stored model name looked up through the indexes gets what a scan of the source gives:
the one device that carries the name among its aliases, or nothing.
-/
namespace Detection
open OrderedDict StripText PythonText PythonObject

variable {F : Type}

structure SourceField where
  key : String
  register : Int
  words : Int := 1
  sourceKey : String := ""
  decoder : String := ""
  deriving DecidableEq, Repr

structure SourceAction where
  key : String
  kind : String
  cost : Int
  optional : Bool
  timeout : ℚ
  retries : Int
  fields : List SourceField
  register : Option Int := none
  count : Option Int := none
  function : Int := 3
  command : String := ""
  parserKey : String := ""
  deriving DecidableEq, Repr

structure ReadBlock where
  start : Int
  count : Int
  cost : Int := 1
  deriving DecidableEq, Repr

structure SourceProtocol where
  key : String
  transportKey : String
  readBlocks : List ReadBlock
  fields : List SourceField
  probeActions : List SourceAction := []
  layoutKeys : List String := []
  layoutCodes : List Int := []
  probeTargets : List (Int × Int × Int) := []
  probeTimeout : ℚ := 0
  signatureTimeout : ℚ := 0
  deriving DecidableEq, Repr

structure SourceDevice (F : Type) extends DeviceDescriptor F where
  modelName : String
  aliases : List String := []
  registerSchemaName : String := ""
  surfaceKey : String := ""
  defaultForDriver : Bool := false
  supportCaptureRanges : List (Int × Int) := []
  supportCaptureNotes : List String := []
  provenanceSources : List String := []
  provenanceConfidence : String := ""
  readOnly : Bool := false
  familyFallback : Bool := false
  detectionSupersedesProtocols : List String := []

structure SourceCatalog (F : Type) where
  protocols : Dict String SourceProtocol
  devices : List (SourceDevice F)

def SourceCatalog.descriptors (source : SourceCatalog F) : DescriptorCatalog F where
  protocols := source.protocols.mapTo fun _ protocol =>
    { key := protocol.key
      transportKey := protocol.transportKey
      probeActionKeys := protocol.probeActions.map SourceAction.key
      fieldKeys := protocol.fields.map SourceField.key }
  devices := source.devices.map SourceDevice.toDeviceDescriptor

structure CompiledEvidenceField where
  key : String
  sourceKey : String
  register : Int
  words : Int
  decoder : String
  deriving DecidableEq, Repr

structure CompiledProbeAction where
  key : String
  protocolKey : String
  kind : String
  cost : Int
  optional : Bool
  timeout : ℚ
  retries : Int
  evidenceFields : List CompiledEvidenceField
  register : Option Int
  count : Option Int
  function : Int
  command : String
  parserKey : String
  deriving DecidableEq, Repr

structure CompiledProtocol where
  key : String
  transportKey : String
  probeActions : List CompiledProbeAction
  layoutKeys : List String
  layoutCodes : List Int
  probeTargets : List (Int × Int × Int)
  probeTimeout : ℚ
  signatureTimeout : ℚ
  deriving DecidableEq, Repr

structure CompiledSurface where
  key : String
  driverKey : String
  variantKey : String
  profileName : String
  registerSchemaName : String
  supportTier : String
  readOnly : Bool
  defaultForDriver : Bool
  supportCaptureRanges : List (Int × Int)
  supportCaptureNotes : List String
  deriving DecidableEq, Repr

structure CompiledDevice (F : Type) where
  key : String
  protocolKey : String
  modelName : String
  aliases : List String
  surfaceKey : String
  anchors : List (AnchorCondition F)
  provenanceSources : List String
  provenanceConfidence : String
  familyFallback : Bool
  priority : Int
  detectionSupersedesProtocols : List String

structure CompiledCatalog (F : Type) where
  protocols : Dict String CompiledProtocol
  protocolsByTransport : Dict String (List String)
  devices : Dict String (CompiledDevice F)
  surfaces : Dict String CompiledSurface
  devicesByProtocol : Dict String (List String)
  devicesBySurface : Dict String (List String)
  devicesByEvidenceKey : Dict String (List String)
  devicesByAlias : Dict String (List String)
  decisionTrees : Dict String (DecisionNode F)

def evidenceKeys : List (String × String) :=
  [("layout_code", "fingerprint.layout_code"), ("model_code", "fingerprint.model_code"),
    ("rated_power", "fingerprint.rated_power"), ("serial_ascii", "identity.serial_ascii")]

def orText (a b : String) : String := if a = "" then b else a

def compileEvidenceField (field : SourceField) : CompiledEvidenceField :=
  let name := orText field.sourceKey field.key
  { key := (evidenceKeys.lookup name).getD field.key
    sourceKey := name
    register := field.register
    words := field.words
    decoder := orText field.decoder (if name = "serial_ascii" then "ascii" else "u16") }

def compileProbeAction (protocolKey : String) (action : SourceAction) : CompiledProbeAction where
  key := action.key
  protocolKey := protocolKey
  kind := action.kind
  cost := action.cost
  optional := action.optional
  timeout := action.timeout
  retries := action.retries
  evidenceFields := action.fields.map compileEvidenceField
  register := action.register
  count := action.count
  function := action.function
  command := action.command
  parserKey := action.parserKey

def blockFields (fields : List SourceField) (block : ReadBlock) : List SourceField :=
  fields.filter fun field => block.start ≤ field.register ∧ field.register < block.start + block.count

def compileReadBlock (protocol : SourceProtocol) (block : ReadBlock) : CompiledProbeAction where
  key := protocol.key ++ ".modbus." ++ toString block.start ++ "." ++ toString block.count
  protocolKey := protocol.key
  kind := "modbus_read"
  cost := block.cost
  optional := false
  timeout := 0
  retries := 0
  evidenceFields := (blockFields protocol.fields block).map compileEvidenceField
  register := some block.start
  count := some block.count
  function := 3
  command := ""
  parserKey := ""

def compileProtocol (protocol : SourceProtocol) : CompiledProtocol where
  key := protocol.key
  transportKey := protocol.transportKey
  probeActions :=
    if protocol.probeActions = [] then protocol.readBlocks.map (compileReadBlock protocol)
    else protocol.probeActions.map (compileProbeAction protocol.key)
  layoutKeys := protocol.layoutKeys
  layoutCodes := protocol.layoutCodes
  probeTargets := protocol.probeTargets
  probeTimeout := protocol.probeTimeout
  signatureTimeout := protocol.signatureTimeout

def surfaceKeyOf (driverKey variantKey profileName registerSchemaName : String) : String :=
  String.intercalate "|" [strip driverKey, strip variantKey, orText profileName "none",
    orText registerSchemaName "none"]

def compileSurface (device : SourceDevice F) : CompiledSurface where
  key := orText device.surfaceKey (surfaceKeyOf device.binding.driverKey device.binding.variantKey
    device.binding.profileName device.registerSchemaName)
  driverKey := device.binding.driverKey
  variantKey := device.binding.variantKey
  profileName := device.binding.profileName
  registerSchemaName := device.registerSchemaName
  supportTier := device.tier
  readOnly := device.readOnly
  defaultForDriver := device.defaultForDriver
  supportCaptureRanges := device.supportCaptureRanges
  supportCaptureNotes := device.supportCaptureNotes

def compileDevice (device : SourceDevice F) : CompiledDevice F where
  key := device.key
  protocolKey := device.protocolFamily
  modelName := device.modelName
  aliases := device.aliases
  surfaceKey := (compileSurface device).key
  anchors := device.anchors
  provenanceSources := device.provenanceSources
  provenanceConfidence := device.provenanceConfidence
  familyFallback := device.familyFallback
  priority := device.priority
  detectionSupersedesProtocols := device.detectionSupersedesProtocols

/-- The loop over the devices: a surface key stands for one surface only. -/
def compileDevices : List (SourceDevice F) → Dict String CompiledSurface →
    Dict String (CompiledDevice F) →
    Except PyError (Dict String CompiledSurface × Dict String (CompiledDevice F))
  | [], surfaces, devices => .ok (surfaces, devices)
  | device :: rest, surfaces, devices =>
    let surface := compileSurface device
    if (surfaces.get? surface.key).any (· ≠ surface) then
      .error (valueError ("compiled_detection_catalog:conflicting_surface:" ++ surface.key))
    else
      compileDevices rest (surfaces.set surface.key surface)
        (devices.set device.key (compileDevice device))

def groupDeviceKeys (key : CompiledDevice F → String) (devices : Dict String (CompiledDevice F)) :
    Dict String (List String) :=
  indexOf (devices.values.map fun device => (key device, device.key))

def groupProtocolKeys (protocols : Dict String CompiledProtocol) : Dict String (List String) :=
  indexOf (protocols.values.map fun protocol => (protocol.transportKey, protocol.key))

def aliasKey (casefold : String → String) (name : String) : String := casefold (strip name)

def buildAliasIndex (casefold : String → String) (devices : Dict String (CompiledDevice F)) :
    Dict String (List String) :=
  indexOf ((devices.values.flatMap fun device => device.aliases.map fun name =>
    (aliasKey casefold name, device.key)).filter fun entry => entry.1 ≠ "")

def buildEvidenceDeviceIndex (devices : Dict String (CompiledDevice F)) :
    Dict String (List String) :=
  indexOf (devices.values.flatMap fun device => device.anchors.map fun anchor =>
    (anchor.key, device.key))

def supportedProbeActionKinds : List String :=
  ["modbus_read", "ascii_command", "smartess_query", "collector_metadata"]

def actionFault (action : CompiledProbeAction) : Option String :=
  firstFault
    [(action.kind ∉ supportedProbeActionKinds, "unsupported_probe_action:" ++ action.kind),
      (action.kind = "modbus_read" &&
        (action.register.isNone || !action.count.any (0 < ·)), "invalid_modbus_action:" ++ action.key),
      (action.kind = "ascii_command" && action.command = "", "invalid_ascii_action:" ++ action.key)]

def compiledProtocolFault (protocol : CompiledProtocol) : Option String :=
  if protocol.probeActions = [] then some ("missing_probe_actions:" ++ protocol.key)
  else protocol.probeActions.findSome? actionFault

def compiledDeviceFault (protocols : Dict String CompiledProtocol)
    (surfaces : Dict String CompiledSurface) (device : CompiledDevice F) : Option String :=
  firstFault
    [((protocols.get? device.protocolKey).isNone, "unknown_protocol:" ++ device.key),
      ((surfaces.get? device.surfaceKey).isNone, "unknown_surface:" ++ device.key)]

def defaultsFault : List String → List CompiledSurface → Option String
  | _, [] => none
  | seen, surface :: rest =>
    if surface.defaultForDriver = false then defaultsFault seen rest
    else if surface.driverKey ∈ seen then some ("duplicate_default_surface:" ++ surface.driverKey)
    else defaultsFault (surface.driverKey :: seen) rest

def validateCompiledDetectionCatalog (catalog : CompiledCatalog F) : Option String :=
  let fault :=
    if catalog.protocols.items = [] then some "missing_protocols"
    else if catalog.devices.items.isEmpty then some "missing_devices"
    else
      match catalog.protocols.values.findSome? compiledProtocolFault with
      | some text => some text
      | none =>
        match catalog.devices.values.findSome?
          (compiledDeviceFault catalog.protocols catalog.surfaces) with
        | some text => some text
        | none => defaultsFault [] catalog.surfaces.values
  fault.map ("compiled_detection_catalog:" ++ ·)

def assembleCatalog (r : Runtime F) (casefold : String → String) (source : SourceCatalog F)
    (surfaces : Dict String CompiledSurface) (devices : Dict String (CompiledDevice F)) :
    CompiledCatalog F :=
  let protocols := source.protocols.mapTo fun _ protocol => compileProtocol protocol
  { protocols := protocols
    protocolsByTransport := groupProtocolKeys protocols
    devices := devices
    surfaces := surfaces
    devicesByProtocol := groupDeviceKeys CompiledDevice.protocolKey devices
    devicesBySurface := groupDeviceKeys CompiledDevice.surfaceKey devices
    devicesByEvidenceKey := buildEvidenceDeviceIndex devices
    devicesByAlias := buildAliasIndex casefold devices
    decisionTrees := protocols.mapTo fun protocolKey _ =>
      buildDetectionDecisionTree r protocolKey source.descriptors }

def compileDetectionCatalog (r : Runtime F) (casefold : String → String)
    (source : SourceCatalog F) : Except PyError (CompiledCatalog F) := do
  let (surfaces, devices) ← compileDevices source.devices Dict.empty Dict.empty
  let compiled := assembleCatalog r casefold source surfaces devices
  match validateCompiledDetectionCatalog compiled with
  | some text => .error (valueError text)
  | none => .ok compiled

variable {r : Runtime F} {casefold : String → String} {source : SourceCatalog F}
  {catalog : CompiledCatalog F}

def CompiledSurface.usable (surface : CompiledSurface) : Bool :=
  surface.driverKey ≠ "" && surface.registerSchemaName ≠ "" &&
    (surface.readOnly || surface.profileName ≠ "")

def resolveUniquePersistedModelSurface (casefold : String → String) (catalog : CompiledCatalog F)
    (modelName : String) : Option (CompiledDevice F × CompiledSurface) :=
  let normalized := aliasKey casefold modelName
  if normalized = "" then none
  else
    match (catalog.devicesByAlias.get? normalized).getD [] with
    | [key] =>
      match catalog.devices.get? key with
      | none => none
      | some descriptor =>
        if descriptor.familyFallback then none
        else
          match catalog.surfaces.get? descriptor.surfaceKey with
          | none => none
          | some surface => if surface.usable then some (descriptor, surface) else none
    | _ => none

theorem compileDevices_surfaces {devices : List (SourceDevice F)}
    {surfaces surfaces' : Dict String CompiledSurface} {known known' : Dict String (CompiledDevice F)}
    (compiled : compileDevices devices surfaces known = .ok (surfaces', known')) (key : String)
    (surface : CompiledSurface) :
    surfaces'.get? key = some surface ↔ surfaces.get? key = some surface ∨
      ∃ device ∈ devices, compileSurface device = surface ∧ surface.key = key := by
  induction devices generalizing surfaces known with
  | nil =>
    cases compiled
    simp
  | cons device rest ih =>
    rw [compileDevices] at compiled
    split at compiled
    · cases compiled
    · rename_i agrees
      rw [ih compiled, Dict.get?_set, List.exists_mem_cons_iff]
      by_cases here : key = (compileSurface device).key
      · have old : ∀ x, surfaces.get? key = some x → x = compileSurface device := by
          intro x held
          rw [← here, held] at agrees
          simpa using agrees
        rw [if_pos here, Option.some.injEq]
        constructor
        · rintro (same | later)
          · exact Or.inr (Or.inl ⟨same, by rw [← same, here]⟩)
          · exact Or.inr (Or.inr later)
        · rintro (held | ⟨same, _⟩ | later)
          · exact Or.inl (old surface held).symm
          · exact Or.inl same
          · exact Or.inr later
      · rw [if_neg here]
        constructor
        · rintro (held | later)
          · exact Or.inl held
          · exact Or.inr (Or.inr later)
        · rintro (held | ⟨rfl, same⟩ | later)
          · exact Or.inl held
          · exact absurd same.symm here
          · exact Or.inr later

theorem compileDevices_devices {devices : List (SourceDevice F)}
    (nodup : (devices.map fun device => device.key).Nodup)
    {surfaces surfaces' : Dict String CompiledSurface} {known known' : Dict String (CompiledDevice F)}
    (compiled : compileDevices devices surfaces known = .ok (surfaces', known')) (key : String)
    (descriptor : CompiledDevice F) :
    known'.get? key = some descriptor ↔
      (known.get? key = some descriptor ∧ key ∉ devices.map fun device => device.key) ∨
        ∃ device ∈ devices, device.key = key ∧ compileDevice device = descriptor := by
  induction devices generalizing surfaces known with
  | nil =>
    cases compiled
    simp
  | cons device rest ih =>
    rw [List.map_cons, List.nodup_cons] at nodup
    rw [compileDevices] at compiled
    split at compiled
    · cases compiled
    · rw [ih nodup.2 compiled, Dict.get?_set, List.exists_mem_cons_iff, List.map_cons,
        List.mem_cons, not_or]
      by_cases here : key = device.key
      · subst here
        simp [nodup.1]
      · simp [here, Ne.symm here]

structure Compiled (r : Runtime F) (casefold : String → String) (source : SourceCatalog F)
    (catalog : CompiledCatalog F) : Prop where
  devices : ∀ key descriptor, catalog.devices.get? key = some descriptor ↔
    ∃ device ∈ source.devices, device.key = key ∧ compileDevice device = descriptor
  surfaces : ∀ key surface, catalog.surfaces.get? key = some surface ↔
    ∃ device ∈ source.devices, compileSurface device = surface ∧ surface.key = key
  devicesByAlias : catalog.devicesByAlias = buildAliasIndex casefold catalog.devices
  devicesBySurface : catalog.devicesBySurface =
    groupDeviceKeys CompiledDevice.surfaceKey catalog.devices
  decisionTrees : ∀ protocolKey, catalog.decisionTrees.get? protocolKey =
    (source.protocols.get? protocolKey).map fun _ =>
      buildDetectionDecisionTree r protocolKey source.descriptors

theorem source_keys_nodup (valid : validateDetectionDescriptorCatalog source.descriptors = none) :
    (source.devices.map fun device => device.key).Nodup := by
  have nodup := (devices_of_valid valid).2
  rwa [SourceCatalog.descriptors, List.map_map] at nodup

theorem compiled_of_compile (valid : validateDetectionDescriptorCatalog source.descriptors = none)
    (compiled : compileDetectionCatalog r casefold source = .ok catalog) :
    Compiled r casefold source catalog := by
  rw [compileDetectionCatalog] at compiled
  cases loop : compileDevices source.devices Dict.empty Dict.empty with
  | error error =>
    rw [loop] at compiled
    cases compiled
  | ok pair =>
    obtain ⟨surfaces, devices⟩ := pair
    rw [loop] at compiled
    change (match validateCompiledDetectionCatalog
      (assembleCatalog r casefold source surfaces devices) with
      | some text => Except.error (valueError text)
      | none => .ok (assembleCatalog r casefold source surfaces devices)) = _ at compiled
    split at compiled
    · cases compiled
    · cases compiled
      refine ⟨?_, ?_, rfl, rfl, ?_⟩
      · intro key descriptor
        refine (compileDevices_devices (source_keys_nodup valid) loop key descriptor).trans ?_
        simp
      · intro key surface
        refine (compileDevices_surfaces loop key surface).trans ?_
        simp
      · intro protocolKey
        simp only [assembleCatalog, Dict.get?_mapTo, Option.map_map]
        rfl

def SourceDevice.Named (casefold : String → String) (device : SourceDevice F) (modelName : String) :
    Prop :=
  ∃ name ∈ device.aliases, aliasKey casefold name = aliasKey casefold modelName

def aliasEntries (casefold : String → String) (devices : Dict String (CompiledDevice F)) :
    List (String × String) :=
  (devices.values.flatMap fun device => device.aliases.map fun name =>
    (aliasKey casefold name, device.key)).filter fun entry => entry.1 ≠ ""

theorem Compiled.mem_aliasEntries (compiled : Compiled r casefold source catalog)
    {modelName key : String} (filled : aliasKey casefold modelName ≠ "") :
    (aliasKey casefold modelName, key) ∈ aliasEntries casefold catalog.devices ↔
      ∃ device ∈ source.devices, device.key = key ∧ device.Named casefold modelName := by
  simp only [aliasEntries, List.mem_filter, List.mem_flatMap, List.mem_map, Dict.mem_values,
    Prod.mk.injEq, decide_eq_true_eq]
  constructor
  · rintro ⟨⟨descriptor, ⟨_, held⟩, name, among, same, rfl⟩, _⟩
    obtain ⟨device, member, rfl, rfl⟩ := (compiled.devices _ _).mp held
    exact ⟨device, member, rfl, name, among, same⟩
  · rintro ⟨device, member, rfl, name, among, same⟩
    exact ⟨⟨compileDevice device, ⟨_, (compiled.devices _ _).mpr ⟨device, member, rfl, rfl⟩⟩, name,
      among, same, rfl⟩, filled⟩

theorem Compiled.alias_eq_singleton_iff (compiled : Compiled r casefold source catalog)
    {modelName key : String} (filled : aliasKey casefold modelName ≠ "") :
    (catalog.devicesByAlias.get? (aliasKey casefold modelName)).getD [] = [key] ↔
      (∃ device ∈ source.devices, device.key = key ∧ device.Named casefold modelName) ∧
        ∀ other ∈ source.devices, other.Named casefold modelName → other.key = key := by
  have entries : catalog.devicesByAlias = indexOf (aliasEntries casefold catalog.devices) :=
    compiled.devicesByAlias
  rw [entries, indexOf_eq_singleton_iff, compiled.mem_aliasEntries filled]
  refine and_congr_right fun _ => ?_
  constructor
  · intro only other member named
    exact only other.key ((compiled.mem_aliasEntries filled).mpr ⟨other, member, rfl, named⟩)
  · intro only key' inside
    obtain ⟨other, member, rfl, named⟩ := (compiled.mem_aliasEntries filled).mp inside
    exact only other member named

structure NamesOnly (casefold : String → String) (source : SourceCatalog F) (modelName : String)
    (device : SourceDevice F) : Prop where
  filled : aliasKey casefold modelName ≠ ""
  member : device ∈ source.devices
  named : device.Named casefold modelName
  only : ∀ other ∈ source.devices, other.Named casefold modelName → other.key = device.key
  exact_model : device.familyFallback = false
  usable : (compileSurface device).usable = true

theorem Compiled.resolve_eq_some_iff (compiled : Compiled r casefold source catalog)
    (modelName : String) (descriptor : CompiledDevice F) (surface : CompiledSurface) :
    resolveUniquePersistedModelSurface casefold catalog modelName = some (descriptor, surface) ↔
      ∃ device, NamesOnly casefold source modelName device ∧ descriptor = compileDevice device ∧
        surface = compileSurface device := by
  constructor
  · intro resolved
    rw [resolveUniquePersistedModelSurface] at resolved
    split at resolved
    · cases resolved
    rename_i filled
    split at resolved
    · rename_i key single
      obtain ⟨⟨device, member, rfl, named⟩, only⟩ := (compiled.alias_eq_singleton_iff filled).mp single
      have held : catalog.devices.get? device.key = some (compileDevice device) :=
        (compiled.devices _ _).mpr ⟨device, member, rfl, rfl⟩
      have surface_held : catalog.surfaces.get? (compileDevice device).surfaceKey =
          some (compileSurface device) := (compiled.surfaces _ _).mpr ⟨device, member, rfl, rfl⟩
      rw [held] at resolved
      dsimp only at resolved
      split at resolved
      · cases resolved
      rename_i exact_model
      rw [surface_held] at resolved
      dsimp only at resolved
      split at resolved
      · rename_i usable
        cases resolved
        exact ⟨device, ⟨filled, member, named, only, Bool.not_eq_true _ ▸ exact_model, usable⟩, rfl,
          rfl⟩
      · cases resolved
    · cases resolved
  · rintro ⟨device, names, rfl, rfl⟩
    have single := (compiled.alias_eq_singleton_iff names.filled).mpr
      ⟨⟨device, names.member, rfl, names.named⟩, names.only⟩
    have held : catalog.devices.get? device.key = some (compileDevice device) :=
      (compiled.devices _ _).mpr ⟨device, names.member, rfl, rfl⟩
    have surface_held : catalog.surfaces.get? (compileDevice device).surfaceKey =
        some (compileSurface device) := (compiled.surfaces _ _).mpr ⟨device, names.member, rfl, rfl⟩
    have exact_model : (compileDevice device).familyFallback = false := names.exact_model
    rw [resolveUniquePersistedModelSurface, if_neg names.filled, single]
    dsimp only
    rw [held]
    dsimp only
    rw [if_neg (Bool.not_eq_true _ ▸ exact_model), surface_held]
    dsimp only
    rw [if_pos names.usable]

/-- A stored model name resolves to a device and a surface of the compiled catalog exactly if it is
    an alias of one device of the source, which is no family fallback, and that device's surface is
    usable; the answer is the device and its surface as compiled. -/
theorem compiled_lookup_agrees (r : Runtime F) (casefold : String → String) (source : SourceCatalog F)
    (valid : validateDetectionDescriptorCatalog source.descriptors = none)
    (catalog : CompiledCatalog F)
    (compiled : compileDetectionCatalog r casefold source = .ok catalog) (modelName : String)
    (descriptor : CompiledDevice F) (surface : CompiledSurface) :
    resolveUniquePersistedModelSurface casefold catalog modelName = some (descriptor, surface) ↔
      ∃ device, NamesOnly casefold source modelName device ∧ descriptor = compileDevice device ∧
        surface = compileSurface device :=
  (compiled_of_compile valid compiled).resolve_eq_some_iff modelName descriptor surface

def modelNamesShareCatalogIdentity (casefold : String → String) (catalog : CompiledCatalog F)
    (firstModelName secondModelName : PyObj) : Bool :=
  match firstModelName, secondModelName with
  | .str first, .str second =>
    let first := strip first
    let second := strip second
    if first = "" ∨ second = "" then false
    else if first = second then true
    else
      match resolveUniquePersistedModelSurface casefold catalog first,
        resolveUniquePersistedModelSurface casefold catalog second with
      | some (firstDescriptor, firstSurface), some (secondDescriptor, secondSurface) =>
        firstDescriptor.key = secondDescriptor.key && firstSurface.key = secondSurface.key
      | _, _ => false
  | _, _ => false

theorem namesOnly_strip {modelName : String} {device : SourceDevice F} :
    NamesOnly casefold source (strip modelName) device ↔
      NamesOnly casefold source modelName device := by
  have same : aliasKey casefold (strip modelName) = aliasKey casefold modelName := by
    rw [aliasKey, strip_idempotent, aliasKey]
  constructor
  · rintro ⟨filled, member, named, only, exact_model, usable⟩
    simp only [SourceDevice.Named, same] at filled named only
    exact ⟨filled, member, named, only, exact_model, usable⟩
  · rintro ⟨filled, member, named, only, exact_model, usable⟩
    refine ⟨by rw [same]; exact filled, member, ?_, ?_, exact_model, usable⟩
    · simpa only [SourceDevice.Named, same] using named
    · simpa only [SourceDevice.Named, same] using only

/-- Two names of one inverter: one text, or aliases of one source device and of no other. -/
def SameInverter (casefold : String → String) (source : SourceCatalog F) (first second : String) :
    Prop :=
  strip first ≠ "" ∧ strip second ≠ "" ∧ (strip first = strip second ∨
    ∃ device, NamesOnly casefold source first device ∧ NamesOnly casefold source second device)

theorem Compiled.share_iff (compiled : Compiled r casefold source catalog)
    (nodup : (source.devices.map fun device => device.key).Nodup) (first second : String) :
    modelNamesShareCatalogIdentity casefold catalog (.str first) (.str second) = true ↔
      SameInverter casefold source first second := by
  rw [modelNamesShareCatalogIdentity, SameInverter]
  by_cases blank : strip first = "" ∨ strip second = ""
  · rw [if_pos blank]
    constructor
    · intro refused
      cases refused
    · rintro ⟨left, right, _⟩
      exact absurd blank (not_or.mpr ⟨left, right⟩)
  rw [if_neg blank]
  obtain ⟨left, right⟩ := not_or.mp blank
  by_cases same : strip first = strip second
  · rw [if_pos same]
    exact ⟨fun _ => ⟨left, right, Or.inl same⟩, fun _ => rfl⟩
  rw [if_neg same]
  constructor
  · intro shared
    split at shared
    · rename_i descriptor surface descriptor' surface' resolved resolved'
      obtain ⟨device, names, rfl, _⟩ := (compiled.resolve_eq_some_iff _ _ _).mp resolved
      obtain ⟨device', names', rfl, _⟩ := (compiled.resolve_eq_some_iff _ _ _).mp resolved'
      rw [Bool.and_eq_true, decide_eq_true_eq] at shared
      obtain rfl : device = device' := List.inj_on_of_nodup_map nodup names.member names'.member shared.1
      exact ⟨left, right, Or.inr ⟨device, namesOnly_strip.mp names, namesOnly_strip.mp names'⟩⟩
    · cases shared
  · rintro ⟨_, _, equal | ⟨device, names, names'⟩⟩
    · exact absurd equal same
    · rw [(compiled.resolve_eq_some_iff _ _ _).mpr ⟨device, namesOnly_strip.mpr names, rfl, rfl⟩,
        (compiled.resolve_eq_some_iff _ _ _).mpr ⟨device, namesOnly_strip.mpr names', rfl, rfl⟩]
      simp

/-- Two stored model names share an identity exactly if they are texts that name one inverter of
    the source. -/
theorem share_identity_iff (r : Runtime F) (casefold : String → String) (source : SourceCatalog F)
    (valid : validateDetectionDescriptorCatalog source.descriptors = none)
    (catalog : CompiledCatalog F)
    (compiled : compileDetectionCatalog r casefold source = .ok catalog)
    (firstModelName secondModelName : PyObj) :
    modelNamesShareCatalogIdentity casefold catalog firstModelName secondModelName = true ↔
      ∃ first second, firstModelName = .str first ∧ secondModelName = .str second ∧
        SameInverter casefold source first second := by
  constructor
  · intro shared
    unfold modelNamesShareCatalogIdentity at shared
    split at shared
    · rename_i first second
      refine ⟨first, second, rfl, rfl, ?_⟩
      exact ((compiled_of_compile valid compiled).share_iff (source_keys_nodup valid) _ _).mp shared
    · cases shared
  · rintro ⟨first, second, rfl, rfl, same⟩
    exact ((compiled_of_compile valid compiled).share_iff (source_keys_nodup valid) _ _).mpr same

def smgDevice (key : String) (aliases : List String) (code : Int) : SourceDevice Int where
  toDeviceDescriptor := deviceWith key 100 [layoutAnchor [code]]
  modelName := key
  aliases := aliases
  registerSchemaName := "modbus_smg/base.json"
  readOnly := true

def twoModels : SourceCatalog Int where
  protocols := Dict.empty.set "modbus_smg"
    { key := "modbus_smg"
      transportKey := "modbus"
      readBlocks := []
      fields := [{ key := "layout_code", register := 184 }]
      probeActions :=
        [{ key := "identity", kind := "modbus_read", cost := 1, optional := false, timeout := 3,
           retries := 1, fields := [{ key := "layout_code", register := 184 }],
           register := some 184, count := some 1 }] }
  devices := [smgDevice "single" ["SMG 5", "SMG"] 1, smgDevice "dual" ["SMG 11 ", "SMG"] 3]

theorem twoModels_computed :
    validateDetectionDescriptorCatalog twoModels.descriptors = none ∧
      (compileDetectionCatalog wholeFloats lowerAscii twoModels).isOk = true ∧
      (∀ other ∈ twoModels.devices, (∃ known ∈ other.aliases,
        aliasKey lowerAscii known = "smg 11") → other.key = "dual") ∧
      (∀ other ∈ twoModels.devices, "SMG" ∈ other.aliases) ∧
      (compileSurface (smgDevice "dual" ["SMG 11 ", "SMG"] 3)).usable = true := by
  decide +kernel

theorem smg11_computed :
    (∀ name ∈ [" SMG 11", "smg 11", "SMG 11 "], aliasKey lowerAscii name = "smg 11") ∧
      strip " SMG 11" ≠ "" ∧ strip "smg 11" ≠ "" ∧ strip "SMG" ≠ strip "smg 11" := by
  decide +kernel

theorem twoModels_valid : validateDetectionDescriptorCatalog twoModels.descriptors = none :=
  twoModels_computed.1

theorem twoModels_compiles :
    ∃ catalog, compileDetectionCatalog wholeFloats lowerAscii twoModels = .ok catalog := by
  have fine := twoModels_computed.2.1
  cases compiled : compileDetectionCatalog wholeFloats lowerAscii twoModels with
  | ok catalog => exact ⟨catalog, rfl⟩
  | error error =>
    rw [compiled] at fine
    cases fine

theorem twoModels_dual {name : String} (filled : aliasKey lowerAscii name = "smg 11") :
    NamesOnly lowerAscii twoModels name (smgDevice "dual" ["SMG 11 ", "SMG"] 3) := by
  obtain ⟨-, -, named, -, usable⟩ := twoModels_computed
  refine ⟨by rw [filled]; decide, List.mem_cons_of_mem _ List.mem_cons_self, ?_, ?_, rfl, usable⟩
  · exact ⟨"SMG 11 ", List.mem_cons_self, (smg11_computed.1 _ (by simp)).trans filled.symm⟩
  · intro other member carries
    rw [SourceDevice.Named, filled] at carries
    exact named other member carries

theorem twoModels_lookup : ∃ catalog,
    compileDetectionCatalog wholeFloats lowerAscii twoModels = .ok catalog ∧
      resolveUniquePersistedModelSurface lowerAscii catalog "smg 11" =
        some (compileDevice (smgDevice "dual" ["SMG 11 ", "SMG"] 3),
          compileSurface (smgDevice "dual" ["SMG 11 ", "SMG"] 3)) := by
  obtain ⟨catalog, compiled⟩ := twoModels_compiles
  exact ⟨catalog, compiled, (compiled_lookup_agrees wholeFloats lowerAscii twoModels twoModels_valid
    catalog compiled _ _ _).mpr ⟨_, twoModels_dual (smg11_computed.1 _ (by simp)), rfl, rfl⟩⟩

/-- Two spellings of one alias name one inverter; an alias of two devices names none. -/
theorem twoModels_identities : ∃ catalog,
    compileDetectionCatalog wholeFloats lowerAscii twoModels = .ok catalog ∧
      modelNamesShareCatalogIdentity lowerAscii catalog (.str " SMG 11") (.str "smg 11") = true ∧
      modelNamesShareCatalogIdentity lowerAscii catalog (.str "SMG") (.str "smg 11") ≠ true := by
  obtain ⟨catalog, compiled⟩ := twoModels_compiles
  have shared := share_identity_iff wholeFloats lowerAscii twoModels twoModels_valid catalog compiled
  obtain ⟨spelled, left, right, apart⟩ := smg11_computed
  refine ⟨catalog, compiled, (shared _ _).mpr ⟨_, _, rfl, rfl, left, right, Or.inr
    ⟨_, twoModels_dual (spelled _ (by simp)), twoModels_dual (spelled _ (by simp))⟩⟩, ?_⟩
  intro joined
  obtain ⟨_, _, ⟨⟩, ⟨⟩, -, -, same | ⟨device, names, -⟩⟩ := (shared _ _).mp joined
  · exact absurd same apart
  · have only : ∀ other ∈ twoModels.devices, other.key = device.key := by
      intro other member
      exact names.only other member ⟨"SMG", twoModels_computed.2.2.2.1 other member, rfl⟩
    have first := only _ List.mem_cons_self
    have second := only _ (List.mem_cons_of_mem _ List.mem_cons_self)
    exact absurd (first.trans second.symm) (by decide)

end Detection
