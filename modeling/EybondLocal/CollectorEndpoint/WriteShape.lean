import EybondLocal.CollectorEndpoint.RoundTrip

/-!
The shape in which a collector stores its server endpoint, resolved twice in the
source: once as a typed shape that prepares the listener, once while the text for the
device is formatted. Both read family, template and catalog in the same order.
-/
namespace CollectorEndpoint
open StripText PythonText PythonObject OrderedDict

inductive WriteFormat where
  | hostOnly
  | hostPort
  | hostPortProtocol
  deriving DecidableEq, Repr

def WriteFormat.ofText (name : String) : Option WriteFormat :=
  if name = "host_only" then some .hostOnly
  else if name = "host_port" then some .hostPort
  else if name = "host_port_protocol" then some .hostPortProtocol
  else none

/-- The first failing check of `CollectorEndpointWriteShape.__post_init__`. -/
def shapeError (writeFormat : WriteFormat) (fixedPort : Int) (protocol : String) : Option PyError :=
  if writeFormat = .hostOnly ∧ ¬ (1 ≤ fixedPort ∧ fixedPort ≤ 65535) then
    some (valueError "collector_endpoint_fixed_port_invalid")
  else if writeFormat ≠ .hostOnly ∧ fixedPort ≠ 0 then
    some (valueError "collector_endpoint_editable_port_must_not_be_fixed")
  else if protocol = "" ∨ protocol ≠ strip protocol ∨ asciiUpper protocol ≠ some protocol then
    some (valueError "collector_endpoint_protocol_invalid")
  else none

structure CollectorEndpointWriteShape where
  writeFormat : WriteFormat
  fixedPort : Int
  protocol : String
  checked : shapeError writeFormat fixedPort protocol = none

def CollectorEndpointWriteShape.portIsFixed (shape : CollectorEndpointWriteShape) : Bool :=
  0 < shape.fixedPort

def CollectorEndpointWriteShape.new (writeFormat : WriteFormat) (fixedPort : Int)
    (protocol : String) : Except PyError CollectorEndpointWriteShape :=
  match checked : shapeError writeFormat fixedPort protocol with
  | none => .ok ⟨writeFormat, fixedPort, protocol, checked⟩
  | some error => .error error

def CollectorServerEndpointParts.writeFormat (parts : CollectorServerEndpointParts) : WriteFormat :=
  if parts.hasExplicitPort = false then .hostOnly
  else if parts.hasExplicitProtocol = false then .hostPort
  else .hostPortProtocol

def anyShapeTcp (tcp : Bool) : Requirements := ⟨false, false, tcp⟩

section Shape
variable (text : CaseTables) (catalog : CollectorCloudProfileCatalog)

def parseTemplate (tcp : Bool) (template : String) : Option CollectorServerEndpointParts :=
  if template = "" then none
  else (inspectCollectorServerEndpoint text catalog (anyShapeTcp tcp) template).toOption

def exactText : PyObj → String
  | .str s => if s = strip s then s else ""
  | _ => ""

def familyOrHost (family : String) (templateHost : Option String) : String :=
  match templateHost with
  | some host => if family = "" then resolveCollectorCloudFamilyByHost text catalog host else family
  | none => family

def resolveCollectorEndpointWriteShape (cloudFamily templateEndpoint : PyObj) :
    Except PyError CollectorEndpointWriteShape := do
  let family := if exactText cloudFamily = "" then "" else text.lower (exactText cloudFamily)
  let template := parseTemplate text catalog true (exactText templateEndpoint)
  let family := familyOrHost text catalog family (template.map fun parts => text.lower parts.host)
  let name := resolveCollectorCloudEndpointWriteFormat text catalog family
  let observed := if name = "" then template.map (·.writeFormat) else WriteFormat.ofText name
  let writeFormat := observed.getD .hostPortProtocol
  let protocol :=
    (template.map (·.protocol)).getD (defaultCollectorServerProtocol text catalog family)
  let protocol ← validateCollectorServerProtocol protocol true
  let fixedPort :=
    if writeFormat = .hostOnly then defaultCollectorServerPort text catalog family else 0
  CollectorEndpointWriteShape.new writeFormat fixedPort protocol

def formatCollectorServerEndpoint (serverHost : String) (serverPort : Int) (serverProtocol : String)
    (includePort includeProtocol tcp : Bool) : Except PyError String := do
  let host ← validateCollectorServerHost serverHost
  let port ← validateCollectorServerPort (.number serverPort)
  let protocol ← validateCollectorServerProtocol serverProtocol tcp
  if includePort = false then return host
  else if includeProtocol = false then return host ++ "," ++ toString port
  else return host ++ "," ++ toString port ++ "," ++ protocol

def formatCollectorServerEndpointForCloudProfile (serverHost cloudFamily : String)
    (serverPort : Option Int) (serverProtocol : Option String) (templateEndpoint : String)
    (tcp : Bool) : Except PyError String :=
  let template := parseTemplate text catalog tcp templateEndpoint
  let family := familyOrHost text catalog (catalogKey text cloudFamily)
    (template.map fun parts => text.lower (strip parts.host))
  let name := resolveCollectorCloudEndpointWriteFormat text catalog family
  let port := serverPort.getD <|
    (template.map (·.port)).getD (defaultCollectorServerPort text catalog family)
  let protocol := serverProtocol.getD <|
    (template.map (·.protocol)).getD (defaultCollectorServerProtocol text catalog family)
  let included : Bool × Bool := match WriteFormat.ofText name with
    | some .hostOnly => (false, false)
    | some .hostPort => (true, false)
    | some .hostPortProtocol => (true, true)
    | none =>
      (template.map fun parts => (parts.hasExplicitPort, parts.hasExplicitProtocol)).getD (true, true)
  formatCollectorServerEndpoint serverHost port protocol included.1 included.2 tcp

def chosenFamily (cloudFamily template : String) : String :=
  familyOrHost text catalog (if cloudFamily = "" then "" else text.lower cloudFamily)
    ((parseTemplate text catalog true template).map fun parts => text.lower parts.host)

def chosenName (cloudFamily template : String) : String :=
  resolveCollectorCloudEndpointWriteFormat text catalog
    (chosenFamily text catalog cloudFamily template)

def chosenFormat (cloudFamily template : String) : WriteFormat :=
  (if chosenName text catalog cloudFamily template = "" then
      (parseTemplate text catalog true template).map (·.writeFormat)
    else WriteFormat.ofText (chosenName text catalog cloudFamily template)).getD .hostPortProtocol

def chosenProtocol (cloudFamily template : String) : String :=
  ((parseTemplate text catalog true template).map (·.protocol)).getD
    (defaultCollectorServerProtocol text catalog (chosenFamily text catalog cloudFamily template))

def dialledPort (cloudFamily template : String) : Int :=
  defaultCollectorServerPort text catalog (chosenFamily text catalog cloudFamily template)

/-- Every write format of the catalog is empty or one of the three known ones. -/
def CollectorCloudProfileCatalog.FormatsKnown (catalog : CollectorCloudProfileCatalog) : Prop :=
  ∀ family name, catalog.endpointWriteFormats.get? family = some name →
    name = "" ∨ (WriteFormat.ofText name).isSome = true

variable {text catalog}

theorem writeShape_eq {cloudFamily template : String} (exactFamily : strip cloudFamily = cloudFamily)
    (exactTemplate : strip template = template) :
    resolveCollectorEndpointWriteShape text catalog (.str cloudFamily) (.str template) =
      (validateCollectorServerProtocol (chosenProtocol text catalog cloudFamily template) true >>=
        CollectorEndpointWriteShape.new (chosenFormat text catalog cloudFamily template)
          (if chosenFormat text catalog cloudFamily template = .hostOnly then
            dialledPort text catalog cloudFamily template else 0)) := by
  simp only [resolveCollectorEndpointWriteShape, exactText, exactFamily, exactTemplate, ↓reduceIte]
  rfl

theorem parseTemplate_wellFormed {tcp : Bool} {template : String}
    {parts : CollectorServerEndpointParts}
    (parsed : parseTemplate text catalog tcp template = some parts) :
    WellFormed text catalog parts := by
  unfold parseTemplate at parsed
  split at parsed
  · cases parsed
  · cases inspected : inspectCollectorServerEndpoint text catalog (anyShapeTcp tcp) template with
    | error error => simp [inspected, Except.toOption] at parsed
    | ok found =>
      simp only [inspected, Except.toOption, Option.some.injEq] at parsed
      rw [← parsed]
      exact (inspect_wellFormed inspected).1

theorem formatterFamily_eq {cloudFamily template : String}
    (exactFamily : strip cloudFamily = cloudFamily) :
    familyOrHost text catalog (catalogKey text cloudFamily)
        ((parseTemplate text catalog true template).map fun parts =>
          text.lower (strip parts.host)) =
      chosenFamily text catalog cloudFamily template := by
  have key : catalogKey text cloudFamily =
      if cloudFamily = "" then "" else text.lower cloudFamily := by
    rw [catalogKey, exactFamily]
    split
    · rename_i empty
      rw [empty, text.lower_empty]
    · rfl
  rw [chosenFamily, key]
  cases parsed : parseTemplate text catalog true template with
  | none => rfl
  | some parts =>
    simp only [Option.map_some, (parseTemplate_wellFormed parsed).host_facts.1]

def WriteFormat.included : WriteFormat → Bool × Bool
  | .hostOnly => (false, false)
  | .hostPort => (true, false)
  | .hostPortProtocol => (true, true)

theorem template_included {parts : CollectorServerEndpointParts}
    (wellFormed : WellFormed text catalog parts) :
    (parts.hasExplicitPort, parts.hasExplicitProtocol) = parts.writeFormat.included := by
  have shape := wellFormed.shape
  unfold CollectorServerEndpointParts.writeFormat
  cases explicitPort : parts.hasExplicitPort <;> cases explicitProtocol : parts.hasExplicitProtocol <;>
    simp_all [WriteFormat.included]

theorem chosenName_known (known : catalog.FormatsKnown) (cloudFamily template : String) :
    chosenName text catalog cloudFamily template = "" ∨
      ∃ format, WriteFormat.ofText (chosenName text catalog cloudFamily template) = some format := by
  rw [chosenName, resolveCollectorCloudEndpointWriteFormat]
  rcases lookup_cases text catalog.endpointWriteFormats ""
    (chosenFamily text catalog cloudFamily template) with none | found
  · exact .inl none
  · obtain ⟨key, name, held, eq⟩ := found
    rw [eq]
    exact (known key name held).imp id Option.isSome_iff_exists.mp

theorem formatter_eq (known : catalog.FormatsKnown) {cloudFamily template : String}
    (exactFamily : strip cloudFamily = cloudFamily) (serverHost : String) (port : Int) :
    formatCollectorServerEndpointForCloudProfile text catalog serverHost cloudFamily (some port) none
        template true =
      formatCollectorServerEndpoint serverHost port (chosenProtocol text catalog cloudFamily template)
        (chosenFormat text catalog cloudFamily template).included.1
        (chosenFormat text catalog cloudFamily template).included.2 true := by
  have name : resolveCollectorCloudEndpointWriteFormat text catalog
      (chosenFamily text catalog cloudFamily template) =
        chosenName text catalog cloudFamily template := rfl
  simp only [formatCollectorServerEndpointForCloudProfile, formatterFamily_eq exactFamily, name,
    Option.getD_some, Option.getD_none, chosenProtocol]
  rcases chosenName_known known cloudFamily template with unnamed | ⟨format, named⟩
  · rw [chosenFormat, if_pos unnamed, unnamed]
    cases parsed : parseTemplate text catalog true template with
    | none => rfl
    | some parts =>
      have included := template_included (parseTemplate_wellFormed parsed)
      simp only [WriteFormat.ofText, String.reduceEq, ↓reduceIte, Option.map_some, Option.getD_some,
        included]
  · have nonempty : chosenName text catalog cloudFamily template ≠ "" := by
      intro empty
      rw [empty] at named
      cases named
    rw [chosenFormat, if_neg nonempty, named]
    cases format <;> rfl

theorem shape_new_cases (format : WriteFormat) (dialled : Int) :
    (∃ shape, CollectorEndpointWriteShape.new format (if format = .hostOnly then dialled else 0) "TCP" =
        .ok shape ∧ shape.writeFormat = format ∧
        shape.fixedPort = (if format = .hostOnly then dialled else 0) ∧
        (format = .hostOnly → portInRange dialled)) ∨
      (CollectorEndpointWriteShape.new format (if format = .hostOnly then dialled else 0) "TCP" =
        .error (valueError "collector_endpoint_fixed_port_invalid") ∧ format = .hostOnly ∧
        ¬ portInRange dialled) := by
  have protocol : ¬ ("TCP" = "" ∨ "TCP" ≠ strip "TCP" ∨ asciiUpper "TCP" ≠ some "TCP") := by decide
  have build : ∀ checked : shapeError format (if format = .hostOnly then dialled else 0) "TCP" = none,
      CollectorEndpointWriteShape.new format (if format = .hostOnly then dialled else 0) "TCP" =
        .ok ⟨_, _, _, checked⟩ := by
    intro checked
    unfold CollectorEndpointWriteShape.new
    split
    · rfl
    · rename_i error raised
      rw [checked] at raised
      cases raised
  by_cases host : format = .hostOnly
  · subst host
    by_cases range : portInRange dialled
    · have checked : shapeError .hostOnly dialled "TCP" = none := by
        simp only [shapeError, protocol]
        simp [range.1, range.2]
      exact .inl ⟨_, build checked, rfl, rfl, fun _ => range⟩
    · have refused : shapeError .hostOnly dialled "TCP" =
          some (valueError "collector_endpoint_fixed_port_invalid") :=
        if_pos ⟨rfl, range⟩
      refine .inr ⟨?_, rfl, range⟩
      unfold CollectorEndpointWriteShape.new
      split
      · rename_i checked
        simp only [↓reduceIte, refused] at checked
        cases checked
      · rename_i error raised
        simp only [↓reduceIte, refused, Option.some.injEq] at raised
        rw [raised]
  · have checked : shapeError format (if format = .hostOnly then dialled else 0) "TCP" = none := by
      simp only [shapeError, protocol]
      simp [host]
    exact .inl ⟨_, build checked, rfl, rfl, fun only => absurd only host⟩

variable (text catalog) in
def writtenParts (host : String) (port : Int) (format : WriteFormat) :
    CollectorServerEndpointParts where
  host := host
  port := if format = .hostOnly then impliedPort text catalog host else port
  protocol := "TCP"
  hasExplicitPort := format.included.1
  hasExplicitProtocol := format.included.2

variable (text catalog) in
theorem writtenParts_wellFormed {serverHost host : String}
    (validHost : validateCollectorServerHost serverHost = .ok host) {port : Int}
    (range : portInRange port) (format : WriteFormat) :
    WellFormed text catalog (writtenParts text catalog host port format) where
  host := validateHost_stable validHost
  port := by cases format <;> simp [writtenParts, WriteFormat.included, range]
  impliedPort := by cases format <;> simp [writtenParts, WriteFormat.included]
  protocol := validateProtocol_default false
  impliedProtocol := fun _ => rfl
  shape := by cases format <;> simp [writtenParts, WriteFormat.included]

variable (text catalog) in
theorem format_writes {serverHost host : String}
    (validHost : validateCollectorServerHost serverHost = .ok host) {port : Int}
    (range : portInRange port) {serverProtocol : String}
    (validProtocol : validateCollectorServerProtocol serverProtocol true = .ok "TCP")
    (format : WriteFormat) :
    formatCollectorServerEndpoint serverHost port serverProtocol format.included.1
        format.included.2 true =
      .ok ((writtenParts text catalog host port format).render true) := by
  simp only [formatCollectorServerEndpoint, validHost, validatePort_number range, validProtocol]
  cases format <;> rfl

variable (text catalog) in
/-- The written text says the same as the shape about port and protocol, and a collector of the
    family dials the port the shape announces. -/
structure Agrees (cloudFamily host : String) (port : Int) (shape : CollectorEndpointWriteShape)
    (endpoint : String) : Prop where
  inspected : ∃ parts, inspectCollectorServerEndpoint text catalog (anyShapeTcp true) endpoint =
      .ok parts ∧ (parts.hasExplicitPort = true ↔ shape.portIsFixed = false) ∧
      (parts.hasExplicitProtocol = true ↔ shape.writeFormat = .hostPortProtocol)
  dialled : text.lower cloudFamily ≠ "" →
    resolveCollectorServerEndpoint text catalog (anyShapeTcp true) cloudFamily endpoint =
      .ok (host, if shape.portIsFixed then shape.fixedPort else port, "TCP")

theorem dialledPort_eq {cloudFamily : String} (exactFamily : strip cloudFamily = cloudFamily)
    (named : text.lower cloudFamily ≠ "") (template : String) :
    dialledPort text catalog cloudFamily template =
      defaultCollectorServerPort text catalog cloudFamily := by
  have given : cloudFamily ≠ "" := fun empty => named (by rw [empty, text.lower_empty])
  have family : chosenFamily text catalog cloudFamily template = text.lower cloudFamily := by
    rw [chosenFamily, if_neg given]
    cases parseTemplate text catalog true template with
    | none => rfl
    | some parts => simp [familyOrHost, named]
  have key : catalogKey text (text.lower cloudFamily) = catalogKey text cloudFamily := by
    rw [catalogKey, catalogKey, text.strip_lower _ exactFamily, text.lower_lower, exactFamily]
  simp only [dialledPort, family, defaultCollectorServerPort, key]

theorem written_agrees {cloudFamily template : String}
    (exactFamily : strip cloudFamily = cloudFamily) {serverHost host : String}
    (validHost : validateCollectorServerHost serverHost = .ok host) {port : Int}
    (range : portInRange port) {format : WriteFormat} {shape : CollectorEndpointWriteShape}
    (sameFormat : shape.writeFormat = format)
    (fixed : shape.fixedPort =
      if format = .hostOnly then dialledPort text catalog cloudFamily template else 0)
    (dialledRange : format = .hostOnly → portInRange (dialledPort text catalog cloudFamily template)) :
    Agrees text catalog cloudFamily host port shape
      ((writtenParts text catalog host port format).render true) := by
  have wellFormed := writtenParts_wellFormed text catalog validHost range format
  have reread := inspect_render wellFormed (anyShapeTcp true)
    ⟨by simp [anyShapeTcp], by simp [anyShapeTcp], fun _ => rfl⟩
  have portFixed : shape.portIsFixed = decide (format = .hostOnly) := by
    unfold CollectorEndpointWriteShape.portIsFixed
    rw [fixed]
    split
    · rename_i only
      have low := (dialledRange only).1
      simp only [only, decide_true, decide_eq_true_eq]
      omega
    · rename_i other
      simp [other]
  constructor
  · refine ⟨_, reread, ?_, ?_⟩
    · rw [portFixed]
      cases format <;> simp [writtenParts, WriteFormat.included]
    · rw [sameFormat]
      cases format <;> simp [writtenParts, WriteFormat.included]
  · intro named
    rw [resolveCollectorServerEndpoint, reread, portFixed, fixed,
      dialledPort_eq exactFamily named]
    cases format <;> rfl

end Shape

/-- Whenever a shape is resolved the formatter succeeds and writes a text that agrees with it. A
    refused shape is refused by the formatter with the same error, except for a fixed port outside
    the port range: that one only the shape checks. -/
theorem writeShape_and_formatter_agree (text : CaseTables) (catalog : CollectorCloudProfileCatalog)
    (known : catalog.FormatsKnown) (cloudFamily template serverHost host : String) (port : Int)
    (exactFamily : strip cloudFamily = cloudFamily) (exactTemplate : strip template = template)
    (validHost : validateCollectorServerHost serverHost = .ok host) (range : portInRange port) :
    (∀ shape, resolveCollectorEndpointWriteShape text catalog (.str cloudFamily) (.str template) =
        .ok shape →
      ∃ endpoint, formatCollectorServerEndpointForCloudProfile text catalog serverHost cloudFamily
          (some port) none template true = .ok endpoint ∧
        Agrees text catalog cloudFamily host port shape endpoint) ∧
    (∀ error, resolveCollectorEndpointWriteShape text catalog (.str cloudFamily) (.str template) =
        .error error →
      formatCollectorServerEndpointForCloudProfile text catalog serverHost cloudFamily
          (some port) none template true = .error error ∨
        error = valueError "collector_endpoint_fixed_port_invalid" ∧
          ¬ portInRange (dialledPort text catalog cloudFamily template)) := by
  rw [writeShape_eq exactFamily exactTemplate, formatter_eq known exactFamily]
  cases protocol : validateCollectorServerProtocol (chosenProtocol text catalog cloudFamily template)
      true with
  | error raised =>
    constructor
    · rintro shape ⟨⟩
    · intro error same
      obtain rfl : raised = error := Except.error.inj same
      left
      simp only [formatCollectorServerEndpoint, validHost, validatePort_number range, protocol]
      rfl
  | ok value =>
    obtain rfl : value = "TCP" := (validateProtocol_ok protocol).2.2.2 rfl
    have written := format_writes text catalog validHost range protocol
      (chosenFormat text catalog cloudFamily template)
    rcases shape_new_cases (chosenFormat text catalog cloudFamily template)
        (dialledPort text catalog cloudFamily template) with ⟨built, eq, format, fixed, dialled⟩ | refused
    · constructor
      · intro shape resolved
        obtain rfl : built = shape := Except.ok.inj (eq.symm.trans resolved)
        exact ⟨_, written, written_agrees exactFamily validHost range format fixed dialled⟩
      · intro error raised
        cases eq.symm.trans raised
    · obtain ⟨eq, -, outside⟩ := refused
      constructor
      · intro shape resolved
        cases eq.symm.trans resolved
      · intro error raised
        obtain rfl := Except.error.inj (eq.symm.trans raised)
        exact .inr ⟨rfl, outside⟩

theorem formatsKnown_of_items {catalog : CollectorCloudProfileCatalog}
    (all : ∀ item ∈ catalog.endpointWriteFormats.items,
      item.2 = "" ∨ (WriteFormat.ofText item.2).isSome = true) : catalog.FormatsKnown :=
  fun family name found => all (family, name) ((Dict.get?_eq_some_iff _ _ _).mp found)

/-- The shipped host-only family: the collector gets no port and dials 502. -/
theorem legacy_binary_agrees :
    ∃ shape endpoint,
      resolveCollectorEndpointWriteShape .ascii builtInCatalog (.str "legacy_binary") (.str "") =
        .ok shape ∧ shape.fixedPort = 502 ∧
      formatCollectorServerEndpointForCloudProfile .ascii builtInCatalog " 192.0.2.7" "legacy_binary"
        (some 8899) none "" true = .ok endpoint ∧
      Agrees .ascii builtInCatalog "legacy_binary" "192.0.2.7" 8899 shape endpoint := by
  have known : builtInCatalog.FormatsKnown := formatsKnown_of_items (by decide +kernel)
  have agree := (writeShape_and_formatter_agree .ascii builtInCatalog known "legacy_binary" ""
    " 192.0.2.7" "192.0.2.7" 8899 (by decide +kernel) (by decide +kernel) (by decide +kernel)
    ⟨by decide, by decide⟩).1 ⟨.hostOnly, 502, "TCP", by decide +kernel⟩ rfl
  obtain ⟨endpoint, written, agrees⟩ := agree
  exact ⟨_, endpoint, rfl, rfl, written, agrees⟩

/-- A catalog whose host-only family has a default port no socket can use. -/
def unusablePortCatalog : CollectorCloudProfileCatalog :=
  loadCollectorCloudProfileCatalog [⟨"acme", 70000, "TCP", [], "host_only"⟩]

/-- The formatter writes the host alone while no shape can be built. -/
theorem unusable_port_has_no_shape :
    ¬ ∀ (text : CaseTables) (catalog : CollectorCloudProfileCatalog), catalog.FormatsKnown →
      ∀ (cloudFamily template serverHost host : String) (port : Int),
        strip cloudFamily = cloudFamily → strip template = template →
        validateCollectorServerHost serverHost = .ok host → portInRange port →
        ∀ endpoint, formatCollectorServerEndpointForCloudProfile text catalog serverHost cloudFamily
            (some port) none template true = .ok endpoint →
          ∃ shape, resolveCollectorEndpointWriteShape text catalog (.str cloudFamily)
              (.str template) = .ok shape ∧
            Agrees text catalog cloudFamily host port shape endpoint := by
  intro agree
  have known : unusablePortCatalog.FormatsKnown := formatsKnown_of_items (by decide +kernel)
  obtain ⟨shape, resolved, -⟩ := agree .ascii unusablePortCatalog known "acme" "" "192.0.2.7"
    "192.0.2.7" 8899 (by decide +kernel) (by decide +kernel) (by decide +kernel)
    ⟨by decide, by decide⟩ "192.0.2.7" (by decide +kernel)
  have refused : (resolveCollectorEndpointWriteShape .ascii unusablePortCatalog (.str "acme")
      (.str "")).toOption.isNone = true := by decide +kernel
  rw [resolved] at refused
  cases refused

end CollectorEndpoint
