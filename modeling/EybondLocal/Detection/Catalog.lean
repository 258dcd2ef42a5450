import EybondLocal.Detection.Anchor
import EybondLocal.Library.OrderedDict

/-!
The descriptor catalog of `metadata/detection_descriptor_loader.py` and its validation.
-/
namespace Detection
open StripText OrderedDict

structure ProtocolDescriptor where
  key : String
  transportKey : String
  probeActionKeys : List String
  fieldKeys : List String
  deriving DecidableEq, Repr

structure BindingDescriptor where
  driverKey : String
  variantKey : String
  profileName : String := ""
  deriving DecidableEq, Repr

structure DeviceDescriptor (F : Type) where
  key : String
  protocolFamily : String
  tier : String
  binding : BindingDescriptor
  anchors : List (AnchorCondition F)
  priority : Int := 100

structure DescriptorCatalog (F : Type) where
  protocols : Dict String ProtocolDescriptor
  devices : List (DeviceDescriptor F)

variable {F : Type}

def DescriptorCatalog.descriptorsForProtocol (catalog : DescriptorCatalog F)
    (protocolFamily : String) : List (DeviceDescriptor F) :=
  catalog.devices.filter fun (device : DeviceDescriptor F) =>
    device.protocolFamily = strip protocolFamily

def mandatoryDetectionAnchorKeys (protocolFamily : String) : List String :=
  if startsWith protocolFamily "pi" then ["protocol.protocol_id"]
  else ["fingerprint.layout_code", "fingerprint.model_code"]

def AnchorCondition.hasCondition (anchor : AnchorCondition F) : Bool :=
  !anchor.equals.isNone || !anchor.oneOf.isEmpty || anchor.ranged || anchor.knownEnum ||
    !anchor.containsAny.isEmpty

/-- The first check that fails, with its text behind `detection_descriptor_catalog:`. -/
def firstFault (checks : List (Bool × String)) : Option String :=
  (checks.find? Prod.fst).map Prod.snd

def anchorFault (descriptorKey : String) (seen : List String) (anchor : AnchorCondition F) :
    Option String :=
  firstFault
    [(anchor.key = "", "invalid_anchor:" ++ descriptorKey),
      (anchor.key ∈ seen, "duplicate_anchor:" ++ descriptorKey ++ ":" ++ anchor.key),
      (anchor.source = "", "missing_anchor_source:" ++ descriptorKey ++ ":" ++ anchor.key),
      (anchor.cost ≤ 0, "invalid_anchor_cost:" ++ descriptorKey ++ ":" ++ anchor.key),
      (anchor.required && !anchor.hasCondition,
        "required_anchor_without_condition:" ++ descriptorKey ++ ":" ++ anchor.key)]

/-- `_validate_anchor_conditions`, with the keys seen so far. -/
def anchorsFault (descriptorKey : String) : List String → List (AnchorCondition F) → Option String
  | _, [] => none
  | seen, anchor :: rest =>
    match anchorFault descriptorKey seen anchor with
    | some text => some text
    | none => anchorsFault descriptorKey (anchor.key :: seen) rest

def protocolFault (item : String × ProtocolDescriptor) : Option String :=
  let (key, protocol) := item
  firstFault
    [(key = "", "invalid_protocol_key"),
      (protocol.key ≠ key, "protocol_key_mismatch:" ++ protocol.key ++ ":" ++ key),
      (protocol.transportKey = "", "missing_protocol_transport:" ++ key),
      (protocol.probeActionKeys.isEmpty, "missing_protocol_actions:" ++ key),
      (protocol.fieldKeys.isEmpty, "missing_protocol_fields:" ++ key)]

def deviceFault (protocols : Dict String ProtocolDescriptor) (seen : List String)
    (device : DeviceDescriptor F) : Option String :=
  let checks :=
    firstFault
      [(device.key = "", "invalid_device_key"),
        (device.key ∈ seen, "duplicate_device:" ++ device.key),
        ((protocols.get? device.protocolFamily).isNone,
          "unknown_device_protocol:" ++ device.key ++ ":" ++ device.protocolFamily),
        (device.binding.driverKey = "", "missing_binding_driver:" ++ device.key),
        (device.binding.variantKey = "", "missing_binding_variant:" ++ device.key),
        (device.anchors.isEmpty, "missing_anchors:" ++ device.key),
        (device.tier = "full" ∧ device.binding.profileName = "", "full_without_profile:" ++ device.key),
        (device.tier = "partial" ∧ device.binding.profileName ≠ "",
          "partial_with_profile:" ++ device.key)]
  match checks with
  | some text => some text
  | none => anchorsFault device.key [] device.anchors

def devicesFault (protocols : Dict String ProtocolDescriptor) :
    List String → List (DeviceDescriptor F) → Option String
  | _, [] => none
  | seen, device :: rest =>
    match deviceFault protocols seen device with
    | some text => some text
    | none => devicesFault protocols (device.key :: seen) rest

/-- The `ValueError` of `_validate_detection_descriptor_catalog`. The keys of a dictionary differ,
    so no protocol is seen twice. -/
def validateDetectionDescriptorCatalog (catalog : DescriptorCatalog F) : Option String :=
  let fault :=
    if catalog.protocols.items.isEmpty then some "missing_protocols"
    else if catalog.devices.isEmpty then some "missing_devices"
    else
      match catalog.protocols.items.findSome? protocolFault with
      | some text => some text
      | none => devicesFault catalog.protocols [] catalog.devices
  fault.map ("detection_descriptor_catalog:" ++ ·)

theorem firstFault_eq_none {checks : List (Bool × String)} (passed : firstFault checks = none) :
    ∀ check ∈ checks, check.1 = false := by
  intro check member
  rw [firstFault, Option.map_eq_none_iff, List.find?_eq_none] at passed
  simpa using passed check member

structure AnchorCondition.Accepted (anchor : AnchorCondition F) : Prop where
  keyed : anchor.key ≠ ""
  conditioned : anchor.required = true → anchor.hasCondition = true

theorem anchorsFault_eq_none {descriptorKey : String} {anchors : List (AnchorCondition F)}
    {seen : List String} (passed : anchorsFault descriptorKey seen anchors = none) :
    (∀ anchor ∈ anchors, anchor.Accepted) ∧ (anchors.map AnchorCondition.key).Nodup ∧
      ∀ key ∈ seen, key ∉ anchors.map AnchorCondition.key := by
  induction anchors generalizing seen with
  | nil => exact ⟨List.forall_mem_nil _, List.nodup_nil, fun _ _ => List.not_mem_nil⟩
  | cons anchor rest ih =>
    unfold anchorsFault at passed
    cases fault : anchorFault descriptorKey seen anchor with
    | some text => simp [fault] at passed
    | none =>
      rw [fault] at passed
      obtain ⟨accepted, nodup, apart⟩ := ih passed
      have checks := firstFault_eq_none fault
      simp only [List.forall_mem_cons, decide_eq_false_iff_not] at checks
      obtain ⟨keyed, fresh, -, -, conditioned, -⟩ := checks
      have here : anchor.Accepted := by
        refine ⟨keyed, ?_⟩
        intro required
        simpa [required] using conditioned
      refine ⟨List.forall_mem_cons.mpr ⟨here, accepted⟩, ?_, ?_⟩
      · rw [List.map_cons, List.nodup_cons]
        exact ⟨apart anchor.key List.mem_cons_self, nodup⟩
      · intro key member
        rw [List.map_cons, List.mem_cons, not_or]
        refine ⟨?_, apart key (List.mem_cons_of_mem _ member)⟩
        intro same
        exact fresh (same ▸ member)

structure DeviceDescriptor.Accepted (device : DeviceDescriptor F) : Prop where
  anchors : ∀ anchor ∈ device.anchors, anchor.Accepted
  keys : (device.anchors.map AnchorCondition.key).Nodup

theorem deviceFault_eq_none {protocols : Dict String ProtocolDescriptor} {seen : List String}
    {device : DeviceDescriptor F} (passed : deviceFault protocols seen device = none) :
    device.key ∉ seen ∧ device.Accepted := by
  unfold deviceFault at passed
  dsimp only at passed
  split at passed
  · cases passed
  · rename_i checks
    have checked := firstFault_eq_none checks
    simp only [List.forall_mem_cons, decide_eq_false_iff_not] at checked
    obtain ⟨-, fresh, -⟩ := checked
    obtain ⟨accepted, nodup, -⟩ := anchorsFault_eq_none passed
    exact ⟨fresh, accepted, nodup⟩

theorem devicesFault_eq_none {protocols : Dict String ProtocolDescriptor}
    {devices : List (DeviceDescriptor F)} {seen : List String}
    (passed : devicesFault protocols seen devices = none) :
    (∀ device ∈ devices, device.Accepted) ∧ (devices.map DeviceDescriptor.key).Nodup ∧
      ∀ key ∈ seen, key ∉ devices.map DeviceDescriptor.key := by
  induction devices generalizing seen with
  | nil => exact ⟨List.forall_mem_nil _, List.nodup_nil, fun _ _ => List.not_mem_nil⟩
  | cons device rest ih =>
    unfold devicesFault at passed
    cases fault : deviceFault protocols seen device with
    | some text => simp [fault] at passed
    | none =>
      rw [fault] at passed
      obtain ⟨accepted, nodup, apart⟩ := ih passed
      obtain ⟨fresh, here⟩ := deviceFault_eq_none fault
      refine ⟨List.forall_mem_cons.mpr ⟨here, accepted⟩, ?_, ?_⟩
      · rw [List.map_cons, List.nodup_cons]
        exact ⟨apart device.key List.mem_cons_self, nodup⟩
      · intro key member
        rw [List.map_cons, List.mem_cons, not_or]
        refine ⟨?_, apart key (List.mem_cons_of_mem _ member)⟩
        intro same
        exact fresh (same ▸ member)

theorem devices_of_valid {catalog : DescriptorCatalog F}
    (valid : validateDetectionDescriptorCatalog catalog = none) :
    (∀ device ∈ catalog.devices, device.Accepted) ∧
      (catalog.devices.map DeviceDescriptor.key).Nodup := by
  unfold validateDetectionDescriptorCatalog at valid
  rw [Option.map_eq_none_iff] at valid
  split at valid
  · cases valid
  split at valid
  · cases valid
  split at valid
  · cases valid
  obtain ⟨accepted, nodup, -⟩ := devicesFault_eq_none valid
  exact ⟨accepted, nodup⟩

structure Family (descriptors : List (DeviceDescriptor F)) : Prop where
  accepted : ∀ device ∈ descriptors, device.Accepted
  keys : (descriptors.map DeviceDescriptor.key).Nodup

theorem family_of_valid {catalog : DescriptorCatalog F}
    (valid : validateDetectionDescriptorCatalog catalog = none) (protocolFamily : String) :
    Family (catalog.descriptorsForProtocol protocolFamily) := by
  obtain ⟨accepted, nodup⟩ := devices_of_valid valid
  constructor
  · intro device member
    exact accepted device (List.mem_filter.mp member).1
  · exact nodup.sublist ((List.filter_sublist).map _)

end Detection
