import EybondLocal.CollectorEndpoint.Model

/-!
What `inspect_collector_server_endpoint` accepts is well formed, and a well-formed
endpoint is read back from either of its renderings. Each part is stable on its own:
a validated host, port or protocol passes its validation again unchanged.
-/
namespace CollectorEndpoint
open StripText PythonText PythonObject OrderedDict

theorem validateHost_strip (serverHost : String) :
    validateCollectorServerHost (strip serverHost) = validateCollectorServerHost serverHost := by
  simp [validateCollectorServerHost]

theorem validateHost_ok {serverHost host : String}
    (valid : validateCollectorServerHost serverHost = .ok host) :
    host = strip serverHost ∧ host ≠ "" ∧ ',' ∉ host.toList := by
  simp only [validateCollectorServerHost] at valid
  split at valid
  · cases valid
  · rename_i shape
    have accepted : host = strip serverHost := by
      split at valid
      · exact (Except.ok.inj valid).symm
      · cases valid
      · split at valid
        · cases valid
        · split at valid
          · cases valid
          · exact (Except.ok.inj valid).symm
    simp only [not_or] at shape
    rw [accepted]
    exact ⟨rfl, shape.1, shape.2.2⟩

theorem validateHost_stable {serverHost host : String}
    (valid : validateCollectorServerHost serverHost = .ok host) :
    validateCollectorServerHost host = .ok host := by
  obtain ⟨rfl, -, -⟩ := validateHost_ok valid
  rw [validateHost_strip]
  exact valid

def portInRange (port : Int) : Prop := 1 ≤ port ∧ port ≤ 65535

theorem validatePort_ok {input : PortInput} {port : Int}
    (valid : validateCollectorServerPort input = .ok port) : portInRange port := by
  unfold validateCollectorServerPort at valid
  split at valid
  · cases valid
  · split at valid
    · rename_i range
      cases valid
      exact range
    · cases valid

theorem validatePort_number {port : Int} (range : portInRange port) :
    validateCollectorServerPort (.number port) = .ok port := by
  obtain ⟨low, high⟩ := range
  simp [validateCollectorServerPort, PortInput.toInt, low, high]

theorem validatePort_rendered {port : Int} (range : portInRange port) :
    validateCollectorServerPort (.text (toString port)) = .ok port := by
  obtain ⟨low, high⟩ := range
  obtain ⟨n, rfl⟩ := Int.eq_ofNat_of_zero_le (show 0 ≤ port by omega)
  have short : n < 10 ^ maxStrDigits := by
    calc n < 10 ^ 5 := by omega
      _ ≤ 10 ^ maxStrDigits := Nat.pow_le_pow_right (by omega) (by decide)
  simp only [validateCollectorServerPort, PortInput.toInt, parseInt_toString short, low, high,
    and_self, ↓reduceIte]

theorem renderedPort_digits {port : Int} (range : portInRange port) :
    ∀ c ∈ (toString port).toList, c.isDigit = true := by
  obtain ⟨low, -⟩ := range
  obtain ⟨n, rfl⟩ := Int.eq_ofNat_of_zero_le (show 0 ≤ port by omega)
  rw [show toString (n : Int) = n.repr from rfl, Nat.toList_repr]
  exact fun c member => Nat.isDigit_of_mem_toDigits (by omega) (by omega) member

theorem renderedPort_plain {port : Int} (range : portInRange port) :
    ',' ∉ (toString port).toList := fun comma =>
  absurd (renderedPort_digits range ',' comma) (by decide)

theorem renderedPort_trimmed {port : Int} (range : portInRange port) :
    strip (toString port) = toString port := by
  rw [strip_eq_self_iff]
  apply stripBy_of_none
  intro c member
  have digit : 48 ≤ c.toNat ∧ c.toNat ≤ 57 := by
    simpa [Char.isDigit, UInt32.le_iff_toNat_le] using renderedPort_digits range c member
  simp [isSpace]
  omega

theorem renderedPort_nonempty {port : Int} (range : portInRange port) : toString port ≠ "" := by
  obtain ⟨low, -⟩ := range
  obtain ⟨n, rfl⟩ := Int.eq_ofNat_of_zero_le (show 0 ≤ port by omega)
  intro empty
  have digits : Nat.toDigits 10 n = [] := by
    rw [← Nat.toList_repr, show n.repr = toString (n : Int) from rfl, empty]
    rfl
  exact Nat.toDigits_ne_nil digits

theorem validateProtocol_ok {serverProtocol protocol : String} {tcp : Bool}
    (valid : validateCollectorServerProtocol serverProtocol tcp = .ok protocol) :
    asciiUpper (strip serverProtocol) = some protocol ∧ protocol ≠ "" ∧
      ',' ∉ protocol.toList ∧ (tcp = true → protocol = "TCP") := by
  unfold validateCollectorServerProtocol at valid
  split at valid
  · cases valid
  · rename_i raised upper
    split at valid
    · cases valid
    · rename_i shape
      split at valid
      · cases valid
      · rename_i allowed
        cases valid
        simp only [not_or] at shape
        refine ⟨upper, shape.1, shape.2, fun required => ?_⟩
        by_contra other
        exact allowed ⟨required, other⟩

theorem validateProtocol_trimmed {serverProtocol protocol : String} {tcp : Bool}
    (valid : validateCollectorServerProtocol serverProtocol tcp = .ok protocol) :
    strip protocol = protocol :=
  strip_asciiUpper (validateProtocol_ok valid).1 (strip_idempotent serverProtocol)

theorem validateProtocol_stable {serverProtocol protocol : String} {tcp : Bool}
    (valid : validateCollectorServerProtocol serverProtocol tcp = .ok protocol) (tcp' : Bool)
    (allowed : tcp' = true → protocol = "TCP") :
    validateCollectorServerProtocol protocol tcp' = .ok protocol := by
  obtain ⟨upper, nonempty, plain, -⟩ := validateProtocol_ok valid
  have again := asciiUpper_idempotent upper
  have permitted : ¬ (tcp' = true ∧ protocol ≠ "TCP") := fun refused =>
    refused.2 (allowed refused.1)
  simp only [validateCollectorServerProtocol, validateProtocol_trimmed valid, again, nonempty,
    plain, or_self, permitted, ↓reduceIte]

theorem validateProtocol_default (tcp : Bool) :
    validateCollectorServerProtocol defaultServerProtocol tcp = .ok "TCP" := by
  cases tcp <;> decide

section Inspection
variable (text : CaseTables) (catalog : CollectorCloudProfileCatalog)

structure WellFormed (parts : CollectorServerEndpointParts) : Prop where
  host : validateCollectorServerHost parts.host = .ok parts.host
  port : parts.hasExplicitPort = true → portInRange parts.port
  impliedPort : parts.hasExplicitPort = false → parts.port = impliedPort text catalog parts.host
  protocol : validateCollectorServerProtocol parts.protocol false = .ok parts.protocol
  impliedProtocol : parts.hasExplicitProtocol = false → parts.protocol = "TCP"
  shape : parts.hasExplicitProtocol = true → parts.hasExplicitPort = true

/-- The requirements let an endpoint of this shape and protocol through. A text that is only a
    host is never asked for a protocol. -/
def Requirements.accepts (require : Requirements) (parts : CollectorServerEndpointParts) : Prop :=
  (require.explicitPort = true → parts.hasExplicitPort = true) ∧
    (require.explicitProtocol = true → parts.hasExplicitPort = true →
      parts.hasExplicitProtocol = true) ∧
    (require.tcp = true → parts.protocol = "TCP")

variable {text catalog}

theorem inspect_wellFormed {require : Requirements} {endpoint : String}
    {parts : CollectorServerEndpointParts}
    (accepted : inspectCollectorServerEndpoint text catalog require endpoint = .ok parts) :
    WellFormed text catalog parts ∧ require.accepts parts := by
  unfold inspectCollectorServerEndpoint at accepted
  split at accepted
  · split at accepted
    · cases accepted
    · rename_i allowed
      obtain ⟨host, validHost, accepted⟩ := bind_eq_ok.mp accepted
      rw [validateProtocol_default] at accepted
      cases accepted
      simp only [not_or, Bool.not_eq_true] at allowed
      have stable := validateHost_stable validHost
      exact ⟨⟨stable, by simp, by simp, validateProtocol_default false, by simp, by simp⟩,
        by simp [allowed.1], by simp, by simp⟩
  · split at accepted
    · cases accepted
    · split at accepted
      · cases accepted
      · rename_i allowed
        obtain ⟨host, validHost, accepted⟩ := bind_eq_ok.mp accepted
        obtain ⟨port, validPort, accepted⟩ := bind_eq_ok.mp accepted
        rw [validateProtocol_default] at accepted
        cases accepted
        have stable := validateHost_stable validHost
        have range := validatePort_ok validPort
        exact ⟨⟨stable, fun _ => range, by simp, validateProtocol_default false, by simp, by simp⟩,
          by simp, by simp [allowed], by simp⟩
  · split at accepted
    · cases accepted
    · obtain ⟨host, validHost, accepted⟩ := bind_eq_ok.mp accepted
      obtain ⟨port, validPort, accepted⟩ := bind_eq_ok.mp accepted
      obtain ⟨protocol, validProtocol, accepted⟩ := bind_eq_ok.mp accepted
      cases accepted
      have stable := validateHost_stable validHost
      have range := validatePort_ok validPort
      have stableProtocol := validateProtocol_stable validProtocol false (by simp)
      exact ⟨⟨stable, fun _ => range, by simp, stableProtocol, by simp, by simp⟩, by simp, by simp,
        (validateProtocol_ok validProtocol).2.2.2⟩
  · cases accepted

theorem WellFormed.host_facts {parts : CollectorServerEndpointParts}
    (wellFormed : WellFormed text catalog parts) :
    strip parts.host = parts.host ∧ parts.host ≠ "" ∧ ',' ∉ parts.host.toList := by
  obtain ⟨trimmed, nonempty, plain⟩ := validateHost_ok wellFormed.host
  exact ⟨trimmed.symm, nonempty, plain⟩

theorem comma_eq : "," = String.ofList [','] := rfl

theorem inspect_host_only {parts : CollectorServerEndpointParts}
    (wellFormed : WellFormed text catalog parts) (require : Requirements)
    (optional : require.explicitPort = false) :
    inspectCollectorServerEndpoint text catalog require parts.host =
      .ok ⟨parts.host, impliedPort text catalog parts.host, "TCP", false, false⟩ := by
  obtain ⟨trimmed, nonempty, plain⟩ := wellFormed.host_facts
  simp only [inspectCollectorServerEndpoint, splitText_single plain, List.map_cons, List.map_nil,
    trimmed, optional, Bool.false_eq_true, nonempty, or_self, ↓reduceIte, wellFormed.host,
    validateProtocol_default]
  rfl

theorem inspect_host_port {parts : CollectorServerEndpointParts}
    (wellFormed : WellFormed text catalog parts) (range : portInRange parts.port)
    (require : Requirements) (optional : require.explicitProtocol = false) :
    inspectCollectorServerEndpoint text catalog require
        (parts.host ++ "," ++ toString parts.port) =
      .ok ⟨parts.host, parts.port, "TCP", true, false⟩ := by
  obtain ⟨trimmed, nonempty, plain⟩ := wellFormed.host_facts
  rw [comma_eq]
  simp only [inspectCollectorServerEndpoint, splitText_cons plain,
    splitText_single (renderedPort_plain range), List.map_cons, List.map_nil, trimmed,
    renderedPort_trimmed range, nonempty, renderedPort_nonempty range, or_self, ↓reduceIte,
    optional, Bool.false_eq_true, wellFormed.host, validatePort_rendered range,
    validateProtocol_default]
  rfl

theorem inspect_canonical {parts : CollectorServerEndpointParts}
    (wellFormed : WellFormed text catalog parts) (range : portInRange parts.port)
    (require : Requirements) (allowed : require.tcp = true → parts.protocol = "TCP") :
    inspectCollectorServerEndpoint text catalog require
        (parts.host ++ "," ++ toString parts.port ++ "," ++ parts.protocol) =
      .ok ⟨parts.host, parts.port, parts.protocol, true, true⟩ := by
  obtain ⟨trimmed, nonempty, plain⟩ := wellFormed.host_facts
  obtain ⟨-, named, unbroken, -⟩ := validateProtocol_ok wellFormed.protocol
  have whole : parts.host ++ "," ++ toString parts.port ++ "," ++ parts.protocol =
      parts.host ++ String.ofList [','] ++
        (toString parts.port ++ String.ofList [','] ++ parts.protocol) := by
    simp only [comma_eq, String.append_assoc]
  rw [whole]
  simp only [inspectCollectorServerEndpoint, splitText_cons plain,
    splitText_cons (renderedPort_plain range), splitText_single unbroken, List.map_cons,
    List.map_nil, trimmed, renderedPort_trimmed range, validateProtocol_trimmed wellFormed.protocol,
    nonempty, renderedPort_nonempty range, named, or_self, ↓reduceIte, wellFormed.host,
    validatePort_rendered range, validateProtocol_stable wellFormed.protocol _ allowed]
  rfl

theorem inspect_render {parts : CollectorServerEndpointParts}
    (wellFormed : WellFormed text catalog parts) (require : Requirements)
    (accepts : require.accepts parts) :
    inspectCollectorServerEndpoint text catalog require (parts.render true) = .ok parts := by
  obtain ⟨host, port, protocol, explicitPort, explicitProtocol⟩ := parts
  obtain ⟨portOk, protocolOk, tcpOk⟩ := accepts
  cases explicitPort with
  | false =>
    cases explicitProtocol with
    | true => exact absurd (wellFormed.shape rfl) (by simp)
    | false =>
      obtain rfl : protocol = "TCP" := wellFormed.impliedProtocol rfl
      obtain rfl : port = impliedPort text catalog host := wellFormed.impliedPort rfl
      exact inspect_host_only wellFormed require (by simpa using portOk)
  | true =>
    have range := wellFormed.port rfl
    cases explicitProtocol with
    | true => exact inspect_canonical wellFormed range require tcpOk
    | false =>
      obtain rfl : protocol = "TCP" := wellFormed.impliedProtocol rfl
      exact inspect_host_port wellFormed range require (by simpa using protocolOk)

def CollectorCloudProfileCatalog.PortsInRange (catalog : CollectorCloudProfileCatalog) : Prop :=
  ∀ family port, catalog.defaultPorts.get? family = some port → portInRange port

theorem builtInCatalog_ports : builtInCatalog.PortsInRange := by
  have all : ∀ item ∈ builtInCatalog.defaultPorts.items, 1 ≤ item.2 ∧ item.2 ≤ 65535 := by decide
  intro family port found
  exact all (family, port) ((Dict.get?_eq_some_iff _ _ _).mp found)

theorem lookup_cases {α : Type} (text : CaseTables) (index : Dict String α) (fallback : α)
    (value : String) :
    lookup text index fallback value = fallback ∨
      ∃ key found, index.get? key = some found ∧ lookup text index fallback value = found := by
  unfold lookup
  split
  · exact .inl rfl
  · cases hit : index.get? (catalogKey text value) with
    | none => exact .inl rfl
    | some found => exact .inr ⟨_, found, hit, rfl⟩

theorem defaultPort_inRange (ports : catalog.PortsInRange) (cloudFamily : String) :
    portInRange (defaultCollectorServerPort text catalog cloudFamily) := by
  have fallback : ∀ family : String, portInRange
      (if family = "legacy_binary" then legacyBinaryCollectorServerPort else defaultServerPort) := by
    intro family
    split <;> exact ⟨by decide, by decide⟩
  simp only [defaultCollectorServerPort, resolveCollectorCloudDefaultPort]
  by_cases unknown : catalogKey text cloudFamily = ""
  · simpa [unknown] using fallback ""
  · simp only [unknown, ↓reduceIte]
    rcases lookup_cases text catalog.defaultPorts 0 (catalogKey text cloudFamily) with none | found
    · simpa [none] using fallback (catalogKey text cloudFamily)
    · obtain ⟨family, port, held, eq⟩ := found
      have range := ports family port held
      have named : port ≠ 0 := by
        have low := range.1
        omega
      simpa [eq, named] using range

theorem WellFormed.portInRange {parts : CollectorServerEndpointParts}
    (wellFormed : WellFormed text catalog parts) (ports : catalog.PortsInRange) :
    portInRange parts.port := by
  cases explicit : parts.hasExplicitPort with
  | true => exact wellFormed.port explicit
  | false =>
    rw [wellFormed.impliedPort explicit]
    exact defaultPort_inRange ports _

theorem normalize_stable (ports : catalog.PortsInRange) {require : Requirements}
    {preserveShape : Bool} {endpoint normal : String}
    (normalized :
      normalizeCollectorServerEndpoint text catalog require preserveShape endpoint = .ok normal) :
    normalizeCollectorServerEndpoint text catalog require preserveShape normal = .ok normal := by
  obtain ⟨parts, accepted, rendered⟩ := bind_eq_ok.mp normalized
  obtain rfl : parts.render preserveShape = normal := Except.ok.inj rendered
  obtain ⟨wellFormed, accepts⟩ := inspect_wellFormed accepted
  cases preserveShape with
  | true =>
    rw [normalizeCollectorServerEndpoint, inspect_render wellFormed require accepts]
    rfl
  | false =>
    have canonical := inspect_canonical wellFormed (wellFormed.portInRange ports) require
      accepts.2.2
    simp only [normalizeCollectorServerEndpoint, CollectorServerEndpointParts.render,
      Bool.false_eq_true, false_and, ↓reduceIte, canonical]
    rfl

end Inspection

end CollectorEndpoint
