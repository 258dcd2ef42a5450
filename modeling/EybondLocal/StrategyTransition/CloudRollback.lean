import EybondLocal.CollectorEndpoint.RoundTrip
import EybondLocal.CollectorIdentity

/-!
The cloud endpoint to restore after a strategy transition
(`connection/strategy_transition_context.py`). The resolver reads facts that were
gathered before, each of which may be any object, and builds a model that refuses
an endpoint outside its normal form.
-/
namespace CloudRollback
open StripText PythonText PythonObject CollectorIdentity CollectorEndpoint

inductive CloudProvenance where
  | explicitUserEndpoint
  | originalCloudEndpoint
  | collectorRegistry
  | observedCurrentExternalEndpoint
  | none
  deriving DecidableEq, Repr

inductive EndpointProvenance where
  | explicitAdvertised
  | callbackProof
  | confirmedHaEndpoint
  | observedCurrentEndpoint
  | effectiveRuntimeRoute
  | none
  deriving DecidableEq, Repr

def wildcardHosts : List String := ["0.0.0.0", "::", "0:0:0:0:0:0:0:0", "*"]

def normalizedStr : PyObj → Option String
  | .str s => if s = strip s then some s else none
  | _ => none

def candidateFieldsValid (host : String) (port : Int) : EndpointProvenance → Bool
  | .none => host = "" && port = 0
  | _ => host = strip host && host ≠ "" && !wildcardHosts.contains host && 1 ≤ port && port ≤ 65535

structure TransitionEndpointCandidate where
  host : String
  port : Int
  provenance : EndpointProvenance
  checked : candidateFieldsValid host port provenance = true

def anyShape : Requirements := ⟨false, false, false⟩

section Resolver
variable (text : CaseTables) (catalog : CollectorCloudProfileCatalog)

def validWritableCloudEndpoint (value : PyObj) : Except PyError (Option String) :=
  match normalizedStr value with
  | none => .ok none
  | some endpoint =>
    if endpoint = "" then .ok none
    else match inspectCollectorServerEndpoint text catalog anyShape endpoint with
      | .error error => if error.kind = .valueError then .ok none else .error error
      | .ok parts =>
        if wildcardHosts.contains parts.host then .ok none else .ok (some (parts.render true))

def postInit (endpoint : String) (provenance : CloudProvenance) : Except PyError Unit :=
  if normalizedStr (.str endpoint) = none then
    .error (valueError "transition_cloud_endpoint_invalid")
  else if provenance = .none then
    if endpoint ≠ "" then .error (valueError "transition_cloud_none_must_be_empty") else .ok ()
  else if endpoint = "" then .error (valueError "transition_cloud_endpoint_missing")
  else do
    match ← validWritableCloudEndpoint text catalog (.str endpoint) with
    | none => .error (valueError "transition_cloud_endpoint_syntax_invalid")
    | some normalized =>
      if normalized ≠ endpoint then .error (valueError "transition_cloud_endpoint_not_normalized")
      else .ok ()

structure CloudRollbackEndpoint where
  endpoint : String
  provenance : CloudProvenance
  checked : postInit text catalog endpoint provenance = .ok ()

def CloudRollbackEndpoint.new (endpoint : String) (provenance : CloudProvenance) :
    Except PyError (CloudRollbackEndpoint text catalog) :=
  match checked : postInit text catalog endpoint provenance with
  | .ok () => .ok ⟨endpoint, provenance, checked⟩
  | .error error => .error error

def CloudRollbackEndpoint.absent : Except PyError (CloudRollbackEndpoint text catalog) :=
  CloudRollbackEndpoint.new text catalog "" .none

def observedEndpointIsDistinctFromHa (endpoint : String) (confirmed : TransitionEndpointCandidate) :
    Except PyError Bool :=
  match inspectCollectorServerEndpoint text catalog anyShape endpoint with
  | .error error => if error.kind = .valueError then .ok false else .error error
  | .ok parts =>
    if text.casefold parts.host ≠ text.casefold confirmed.host then .ok true
    else if parts.hasExplicitPort = false then .ok false
    else .ok !(parts.port = confirmed.port && text.casefold parts.protocol = "tcp")

structure RollbackFacts where
  explicitUserEndpoint : PyObj
  durableOriginalEndpoint : PyObj
  registryEndpoint : PyObj
  registryPn : PyObj
  entryPn : PyObj
  observedCurrentEndpoint : PyObj
  confirmedHaEndpoint : Option TransitionEndpointCandidate

/-- `normalize_pn` with the `str()` that raises; `normalizePn` is its text. -/
def normalizePnOrRaise (value : PyObj) : Except PyError String := do
  if !value.truthy then return ""
  return strip (← value.printed)

def isAbsent : PyObj → Bool
  | .str s => s = ""
  | _ => false

def resolveSource (source : PyObj) (provenance : CloudProvenance)
    (usable : String → Except PyError Bool) : Except PyError (CloudRollbackEndpoint text catalog) := do
  match ← validWritableCloudEndpoint text catalog source with
  | none => CloudRollbackEndpoint.absent text catalog
  | some endpoint =>
    if ← usable endpoint then CloudRollbackEndpoint.new text catalog endpoint provenance
    else CloudRollbackEndpoint.absent text catalog

def resolveCloudRollbackEndpoint (facts : RollbackFacts) :
    Except PyError (CloudRollbackEndpoint text catalog) :=
  if !isAbsent facts.explicitUserEndpoint then
    resolveSource text catalog facts.explicitUserEndpoint .explicitUserEndpoint fun _ => .ok true
  else if !isAbsent facts.durableOriginalEndpoint then
    resolveSource text catalog facts.durableOriginalEndpoint .originalCloudEndpoint
      fun _ => .ok true
  else if !isAbsent facts.registryEndpoint then
    resolveSource text catalog facts.registryEndpoint .collectorRegistry fun _ => do
      let entryPn ← normalizePnOrRaise facts.entryPn
      let registryPn ← normalizePnOrRaise facts.registryPn
      return pnIsSameIdentity entryPn registryPn
  else if !isAbsent facts.observedCurrentEndpoint then
    resolveSource text catalog facts.observedCurrentEndpoint .observedCurrentExternalEndpoint
      fun endpoint =>
        match facts.confirmedHaEndpoint with
        | none => .ok false
        | some confirmed =>
          if confirmed.provenance ≠ .confirmedHaEndpoint then .ok false
          else observedEndpointIsDistinctFromHa text catalog endpoint confirmed
  else CloudRollbackEndpoint.absent text catalog

end Resolver

section NoRaise
variable {text : CaseTables} {catalog : CollectorCloudProfileCatalog}

def OnlyValueErrors {α : Type} (m : Except PyError α) : Prop :=
  ∀ error, m = .error error → error.kind = .valueError

theorem onlyValueErrors_ok {α : Type} (a : α) : OnlyValueErrors (.ok a) := by
  rintro error ⟨⟩

theorem onlyValueErrors_raise {α : Type} (message : String) :
    OnlyValueErrors (.error (valueError message) : Except PyError α) := by
  rintro error ⟨⟩
  rfl

theorem onlyValueErrors_bind {α β : Type} {m : Except PyError α} {f : α → Except PyError β}
    (first : OnlyValueErrors m) (later : ∀ a, OnlyValueErrors (f a)) :
    OnlyValueErrors (m >>= f) := by
  intro error raised
  cases m with
  | error own =>
    obtain rfl : own = error := Except.error.inj raised
    exact first own rfl
  | ok a => exact later a error raised

theorem onlyValueErrors_host (serverHost : String) :
    OnlyValueErrors (validateCollectorServerHost serverHost) := by
  simp only [validateCollectorServerHost]
  split
  · exact onlyValueErrors_raise _
  · split
    · exact onlyValueErrors_ok _
    · exact onlyValueErrors_raise _
    · split
      · exact onlyValueErrors_raise _
      · split
        · exact onlyValueErrors_raise _
        · exact onlyValueErrors_ok _

theorem onlyValueErrors_port (input : PortInput) :
    OnlyValueErrors (validateCollectorServerPort input) := by
  unfold validateCollectorServerPort
  split
  · exact onlyValueErrors_raise _
  · split
    · exact onlyValueErrors_ok _
    · exact onlyValueErrors_raise _

theorem onlyValueErrors_protocol (serverProtocol : String) (tcp : Bool) :
    OnlyValueErrors (validateCollectorServerProtocol serverProtocol tcp) := by
  unfold validateCollectorServerProtocol
  split
  · exact onlyValueErrors_raise _
  · split
    · exact onlyValueErrors_raise _
    · split
      · exact onlyValueErrors_raise _
      · exact onlyValueErrors_ok _

theorem onlyValueErrors_inspect (require : Requirements) (endpoint : String) :
    OnlyValueErrors (inspectCollectorServerEndpoint text catalog require endpoint) := by
  unfold inspectCollectorServerEndpoint
  split
  · split
    · exact onlyValueErrors_raise _
    · apply onlyValueErrors_bind (onlyValueErrors_host _)
      intro host
      apply onlyValueErrors_bind (onlyValueErrors_protocol _ _)
      intro protocol
      exact onlyValueErrors_ok _
  · split
    · exact onlyValueErrors_raise _
    · split
      · exact onlyValueErrors_raise _
      · apply onlyValueErrors_bind (onlyValueErrors_host _)
        intro host
        apply onlyValueErrors_bind (onlyValueErrors_port _)
        intro port
        apply onlyValueErrors_bind (onlyValueErrors_protocol _ _)
        intro protocol
        exact onlyValueErrors_ok _
  · split
    · exact onlyValueErrors_raise _
    · apply onlyValueErrors_bind (onlyValueErrors_host _)
      intro host
      apply onlyValueErrors_bind (onlyValueErrors_port _)
      intro port
      apply onlyValueErrors_bind (onlyValueErrors_protocol _ _)
      intro protocol
      exact onlyValueErrors_ok _
  · exact onlyValueErrors_raise _

theorem observedEndpointIsDistinctFromHa_ok (endpoint : String)
    (confirmed : TransitionEndpointCandidate) :
    ∃ answer, observedEndpointIsDistinctFromHa text catalog endpoint confirmed = .ok answer := by
  unfold observedEndpointIsDistinctFromHa
  cases inspected : inspectCollectorServerEndpoint text catalog anyShape endpoint with
  | error error =>
    have kind := onlyValueErrors_inspect anyShape endpoint error inspected
    exact ⟨false, by simp [kind]⟩
  | ok parts =>
    dsimp only
    split
    · exact ⟨_, rfl⟩
    · split <;> exact ⟨_, rfl⟩

theorem render_trimmed {parts : CollectorServerEndpointParts}
    (wellFormed : WellFormed text catalog parts) : strip (parts.render true) = parts.render true := by
  obtain ⟨hostTrimmed, hostNonempty, -⟩ := wellFormed.host_facts
  unfold CollectorServerEndpointParts.render
  split
  · exact hostTrimmed
  · rename_i explicit
    have range : portInRange parts.port := wellFormed.port (by simpa using explicit)
    split
    · exact strip_joined "," hostTrimmed hostNonempty (renderedPort_trimmed range)
        (renderedPort_nonempty range)
    · have protocolNonempty := (validateProtocol_ok wellFormed.protocol).2.1
      have joined := strip_joined ("," ++ toString parts.port ++ ",") hostTrimmed hostNonempty
        (validateProtocol_trimmed wellFormed.protocol) protocolNonempty
      simpa only [String.append_assoc] using joined

theorem render_nonempty {parts : CollectorServerEndpointParts}
    (wellFormed : WellFormed text catalog parts) : parts.render true ≠ "" := by
  have hostNonempty := wellFormed.host_facts.2.1
  unfold CollectorServerEndpointParts.render
  split
  · exact hostNonempty
  · split <;> simp [hostNonempty]

theorem validWritable_ok (value : PyObj) :
    ∃ result, validWritableCloudEndpoint text catalog value = .ok result := by
  unfold validWritableCloudEndpoint
  split
  · exact ⟨_, rfl⟩
  · rename_i endpoint normal
    split
    · exact ⟨_, rfl⟩
    · cases inspected : inspectCollectorServerEndpoint text catalog anyShape endpoint with
      | error error =>
        have kind := onlyValueErrors_inspect anyShape endpoint error inspected
        exact ⟨none, by simp [kind]⟩
      | ok parts =>
        dsimp only
        split <;> exact ⟨_, rfl⟩

/-- What `_valid_writable_cloud_endpoint` returns is a rendering of accepted parts. -/
theorem validWritable_some {value : PyObj} {endpoint : String}
    (usable : validWritableCloudEndpoint text catalog value = .ok (some endpoint)) :
    ∃ parts, WellFormed text catalog parts ∧ endpoint = parts.render true ∧
      wildcardHosts.contains parts.host = false := by
  unfold validWritableCloudEndpoint at usable
  split at usable
  · cases usable
  · split at usable
    · cases usable
    · split at usable
      · split at usable <;> cases usable
      · rename_i parts inspected
        split at usable
        · cases usable
        · rename_i advertisable
          cases usable
          exact ⟨parts, (inspect_wellFormed inspected).1, rfl, by simpa using advertisable⟩

/-- A rendering of well-formed parts is accepted in every shape. -/
theorem anyShape_accepts (parts : CollectorServerEndpointParts) : anyShape.accepts parts := by
  simp [Requirements.accepts, anyShape]

theorem validWritable_normal {parts : CollectorServerEndpointParts}
    (wellFormed : WellFormed text catalog parts)
    (advertisable : wildcardHosts.contains parts.host = false) :
    validWritableCloudEndpoint text catalog (.str (parts.render true)) =
      .ok (some (parts.render true)) := by
  have reread := inspect_render wellFormed anyShape (anyShape_accepts parts)
  simp only [validWritableCloudEndpoint, normalizedStr, render_trimmed wellFormed, ↓reduceIte,
    render_nonempty wellFormed, reread, advertisable, Bool.false_eq_true]

theorem postInit_normal {parts : CollectorServerEndpointParts}
    (wellFormed : WellFormed text catalog parts)
    (advertisable : wildcardHosts.contains parts.host = false) {provenance : CloudProvenance}
    (known : provenance ≠ .none) :
    postInit text catalog (parts.render true) provenance = .ok () := by
  simp only [postInit, normalizedStr, render_trimmed wellFormed, ↓reduceIte, reduceCtorEq, known,
    render_nonempty wellFormed, validWritable_normal wellFormed advertisable]
  simp [bind, Except.bind]

theorem new_ok {endpoint : String} {provenance : CloudProvenance}
    (checked : postInit text catalog endpoint provenance = .ok ()) :
    CloudRollbackEndpoint.new text catalog endpoint provenance =
      .ok ⟨endpoint, provenance, checked⟩ := by
  unfold CloudRollbackEndpoint.new
  split
  · rfl
  · rename_i error raised
    rw [checked] at raised
    cases raised

def Published (result : Except PyError (CloudRollbackEndpoint text catalog)) : Prop :=
  ∃ rollback, result = .ok rollback ∧
    (rollback.provenance ≠ .none →
      normalizeCollectorServerEndpoint text catalog anyShape true rollback.endpoint =
        .ok rollback.endpoint)

theorem published_absent : Published (CloudRollbackEndpoint.absent text catalog) := by
  have checked : postInit text catalog "" .none = .ok () := by
    simp [postInit, normalizedStr]
  exact ⟨_, new_ok checked, by simp⟩

theorem published_source (source : PyObj) {provenance : CloudProvenance}
    (known : provenance ≠ .none) {usable : String → Except PyError Bool}
    (decides : ∀ endpoint, ∃ answer, usable endpoint = .ok answer) :
    Published (resolveSource text catalog source provenance usable) := by
  obtain ⟨result, found⟩ := @validWritable_ok text catalog source
  simp only [resolveSource, found, bind, Except.bind]
  cases result with
  | none => exact published_absent
  | some endpoint =>
    obtain ⟨answer, decided⟩ := decides endpoint
    simp only [decided]
    cases answer with
    | false => exact published_absent
    | true =>
      obtain ⟨parts, wellFormed, rfl, advertisable⟩ := validWritable_some found
      have reread := inspect_render wellFormed anyShape (anyShape_accepts parts)
      refine ⟨_, new_ok (postInit_normal wellFormed advertisable known), fun _ => ?_⟩
      rw [normalizeCollectorServerEndpoint, reread]
      rfl

theorem truthy_of_textless {value : PyObj} (textless : value.textless = true) :
    value.truthy = true := by
  cases value with
  | int n =>
    have long : 10 ^ maxStrDigits ≤ n.natAbs := by simpa [PyObj.textless] using textless
    have positive : 0 < 10 ^ maxStrDigits := Nat.pow_pos (by decide)
    simp only [PyObj.truthy, decide_eq_true_eq]
    omega
  | mapping items rendered =>
    cases items with
    | nil => simp [PyObj.textless, PyObj.anyTextless] at textless
    | cons item rest => rfl
  | none | bool | intSubclass | str | strSubclass | other => simp [PyObj.textless] at textless

theorem normalizePnOrRaise_eq (value : PyObj) :
    normalizePnOrRaise value =
      if value.textless then .error intTextError else .ok (normalizePn value) := by
  cases textless : value.textless with
  | true => simp [normalizePnOrRaise, truthy_of_textless textless, PyObj.printed, textless, bind,
      Except.bind]
  | false =>
    cases truthy : value.truthy <;>
      simp [normalizePnOrRaise, normalizePn, PyObj.cleanText, PyObj.textOrEmpty, PyObj.printed,
        truthy, textless, bind, Except.bind, pure, Except.pure]

/-- The third source is asked: the two before it are absent, and its endpoint is usable. -/
def RegistryAsked (text : CaseTables) (catalog : CollectorCloudProfileCatalog)
    (facts : RollbackFacts) : Prop :=
  isAbsent facts.explicitUserEndpoint = true ∧ isAbsent facts.durableOriginalEndpoint = true ∧
    isAbsent facts.registryEndpoint = false ∧
    ∃ endpoint, validWritableCloudEndpoint text catalog facts.registryEndpoint = .ok (some endpoint)

def PnTextless (facts : RollbackFacts) : Prop :=
  facts.entryPn.textless = true ∨ facts.registryPn.textless = true

theorem raises_registry {facts : RollbackFacts} (asked : RegistryAsked text catalog facts)
    (long : PnTextless facts) :
    resolveCloudRollbackEndpoint text catalog facts = .error intTextError := by
  obtain ⟨noChoice, noOriginal, present, endpoint, usable⟩ := asked
  simp only [resolveCloudRollbackEndpoint, noChoice, noOriginal, present, resolveSource, usable,
    normalizePnOrRaise_eq]
  rcases long with entry | registry
  · simp [entry, bind, Except.bind]
  · cases facts.entryPn.textless <;> simp [registry, bind, Except.bind]

theorem published_registry {facts : RollbackFacts} (readable : ¬ PnTextless facts) :
    Published (resolveSource text catalog facts.registryEndpoint .collectorRegistry fun _ => do
      let entryPn ← normalizePnOrRaise facts.entryPn
      let registryPn ← normalizePnOrRaise facts.registryPn
      return pnIsSameIdentity entryPn registryPn) := by
  obtain ⟨entry, registry⟩ := not_or.mp readable
  apply published_source _ (by simp)
  intro endpoint
  exact ⟨pnIsSameIdentity (normalizePn facts.entryPn) (normalizePn facts.registryPn), by
    simp [normalizePnOrRaise_eq, entry, registry, bind, Except.bind, pure, Except.pure]⟩

theorem published_unusable {source : PyObj} {provenance : CloudProvenance}
    {usable : String → Except PyError Bool}
    (refused : ∀ endpoint, validWritableCloudEndpoint text catalog source ≠ .ok (some endpoint)) :
    Published (resolveSource text catalog source provenance usable) := by
  obtain ⟨result, found⟩ := @validWritable_ok text catalog source
  cases result with
  | none =>
    simp only [resolveSource, found, bind, Except.bind]
    exact published_absent
  | some endpoint => exact absurd found (refused endpoint)

theorem published_resolve {facts : RollbackFacts}
    (spared : ¬ (RegistryAsked text catalog facts ∧ PnTextless facts)) :
    Published (resolveCloudRollbackEndpoint text catalog facts) := by
  unfold resolveCloudRollbackEndpoint
  split
  · exact published_source _ (by simp) fun _ => ⟨_, rfl⟩
  · rename_i noChoice
    split
    · exact published_source _ (by simp) fun _ => ⟨_, rfl⟩
    · rename_i noOriginal
      split
      · rename_i present
        by_cases long : PnTextless facts
        · apply published_unusable
          intro endpoint usable
          exact spared ⟨⟨by simpa using noChoice, by simpa using noOriginal, by simpa using present,
            endpoint, usable⟩, long⟩
        · exact published_registry long
      · split
        · apply published_source _ (by simp)
          intro endpoint
          cases facts.confirmedHaEndpoint with
          | none => exact ⟨_, rfl⟩
          | some confirmed =>
            dsimp only
            split
            · exact ⟨_, rfl⟩
            · exact observedEndpointIsDistinctFromHa_ok endpoint confirmed
        · exact published_absent

end NoRaise

def longPnFacts : RollbackFacts where
  explicitUserEndpoint := .str ""
  durableOriginalEndpoint := .str ""
  registryEndpoint := .str "ess.eybond.com"
  registryPn := .int (10 ^ maxStrDigits : Nat)
  entryPn := .str "E50000200000000001"
  observedCurrentEndpoint := .str ""
  confirmedHaEndpoint := none

def sampleParts : CollectorServerEndpointParts := ⟨"Ess.Eybond.com", 80, "TCP", true, true⟩

theorem sampleParts_accepted :
    inspectCollectorServerEndpoint .ascii builtInCatalog anyShape " Ess.Eybond.com ,+0_80, tcp" =
      .ok sampleParts := by
  decide +kernel

end CloudRollback
