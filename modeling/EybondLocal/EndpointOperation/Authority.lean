import EybondLocal.Library.PythonObject
import EybondLocal.Library.OrderedDict

/-!
The per-entry authority for collector configuration (`connection/collector_endpoint_operation.py`)
and the boolean lease facades over it (`connection/strategy_transition.py`). A token is a plain
value: whoever presents an equal one frees the entry.
-/
namespace EndpointOperation
open StripText PythonObject OrderedDict

inductive OperationKind where
  | strategyTransition
  | strategyRepair
  | proxyCapture
  | shadowLearning
  | manualEndpointWrite
  | endpointBind
  | endpointRollback
  | reconcileEndpoint
  | collectorSystemAction
  | runtimeLinkBaudSweep
  deriving DecidableEq, Repr

def OperationKind.text : OperationKind → String
  | strategyTransition => "strategy_transition"
  | strategyRepair => "strategy_repair"
  | proxyCapture => "proxy_capture"
  | shadowLearning => "shadow_learning"
  | manualEndpointWrite => "manual_endpoint_write"
  | endpointBind => "endpoint_bind"
  | endpointRollback => "endpoint_rollback"
  | reconcileEndpoint => "reconcile_endpoint"
  | collectorSystemAction => "collector_system_action"
  | runtimeLinkBaudSweep => "runtime_link_baud_sweep"

def operationKinds : List OperationKind :=
  [.strategyTransition, .strategyRepair, .proxyCapture, .shadowLearning, .manualEndpointWrite,
    .endpointBind, .endpointRollback, .reconcileEndpoint, .collectorSystemAction,
    .runtimeLinkBaudSweep]

/-- `type(value) is str and value in _OPERATION_KINDS`. -/
def operationKind : PyObj → Option OperationKind
  | .str s => operationKinds.find? fun kind => kind.text = s
  | _ => none

def kindInvalid : PyError := valueError "collector_endpoint_operation_kind_invalid"

def exactNormalizedStr : PyObj → Option String
  | .str s => if s = "" ∨ s ≠ strip s then none else some s
  | _ => none

structure CollectorEndpointOperationToken where
  entryId : String
  operationKind : OperationKind
  ownerRef : String
  deriving DecidableEq, Repr

structure CollectorEndpointOperationAcquire where
  token : Option CollectorEndpointOperationToken
  busyOperation : Option OperationKind := none
  deriving DecidableEq, Repr

structure Authority where
  held : Dict String CollectorEndpointOperationToken
  counter : Nat

namespace Authority

def initial : Authority := ⟨.empty, 0⟩

/-- The owner ref of an acquire call and the counter after it. Only the exact empty text
    asks for a generated one, and a generated one is spent even if the entry is busy. -/
def ownerRefFor (authority : Authority) : PyObj → Option String × Nat
  | .str "" => (some ("auto:" ++ toString (authority.counter + 1)), authority.counter + 1)
  | ownerRef => (exactNormalizedStr ownerRef, authority.counter)

def acquire (authority : Authority) (entryId kind ownerRef : PyObj) :
    Except PyError CollectorEndpointOperationAcquire × Authority :=
  match operationKind kind with
  | none => (.error kindInvalid, authority)
  | some kind =>
    match exactNormalizedStr entryId with
    | none => (.ok ⟨none, none⟩, authority)
    | some key =>
      let (ref, counter) := authority.ownerRefFor ownerRef
      let counted := { authority with counter := counter }
      match ref with
      | none => (.ok ⟨none, none⟩, counted)
      | some ref =>
        match authority.held.get? key with
        | some held => (.ok ⟨none, some held.operationKind⟩, counted)
        | none =>
          let token : CollectorEndpointOperationToken := ⟨key, kind, ref⟩
          (.ok ⟨some token, none⟩, { counted with held := authority.held.set key token })

def adopt (authority : Authority) (entryId kind ownerRef : PyObj) :
    Except PyError (Option CollectorEndpointOperationToken) × Authority :=
  match operationKind kind with
  | none => (.error kindInvalid, authority)
  | some kind =>
    match exactNormalizedStr entryId, exactNormalizedStr ownerRef with
    | some key, some ref =>
      let reconstructed : CollectorEndpointOperationToken := ⟨key, kind, ref⟩
      match authority.held.get? key with
      | none => (.ok (some reconstructed), { authority with held := authority.held.set key reconstructed })
      | some held => (.ok (if held = reconstructed then some held else none), authority)
    | _, _ => (.ok none, authority)

def release (authority : Authority) (entryId : PyObj)
    (token : Option CollectorEndpointOperationToken) : Bool × Authority :=
  match token, exactNormalizedStr entryId with
  | some token, some key =>
    if authority.held.get? key = some token then
      (true, { authority with held := authority.held.erase key })
    else (false, authority)
  | _, _ => (false, authority)

end Authority

/-- What a caller hands to `release`: the token one of the acquisitions gave out, a token built
    from its three values, or something else. -/
inductive Presented where
  | granted (acquisition : Nat)
  | built (token : CollectorEndpointOperationToken)
  | other
  deriving DecidableEq, Repr

inductive Action (φ : Type) where
  | acquire (entryId kind ownerRef : PyObj)
  | adopt (entryId kind ownerRef : PyObj)
  | release (entryId : PyObj) (presented : Presented)
  | leaseAcquire (facade : φ) (entryId : PyObj)
  | leaseRelease (facade : φ) (entryId : PyObj)

/-- The authority, the token tables of the facades, and the history the claims are about:
    the acquisitions so far, and for each entry the acquisition whose holder has not yet
    released it. A facade keeps the tokens of its acquisitions by their numbers. -/
structure State (φ : Type) where
  authority : Authority
  leases : φ → Dict String Nat
  granted : List CollectorEndpointOperationToken
  entitled : Dict String Nat

section
variable {φ : Type} [DecidableEq φ]

def State.initial : State φ := ⟨.initial, fun _ => .empty, [], .empty⟩

def State.tokenOf (s : State φ) : Presented → Option CollectorEndpointOperationToken
  | .granted acquisition => s.granted[acquisition]?
  | .built token => some token
  | .other => none

def State.grant (s : State φ) (authority : Authority) (token : CollectorEndpointOperationToken) :
    State φ :=
  { s with
    authority := authority
    granted := s.granted ++ [token]
    entitled := s.entitled.set token.entryId s.granted.length }

def State.giveBack (s : State φ) (key : String) (presented : Presented) : Dict String Nat :=
  match s.entitled.get? key with
  | some acquisition =>
    if presented = .granted acquisition then s.entitled.erase key else s.entitled
  | none => s.entitled

def State.afterAcquire (s : State φ)
    (outcome : Except PyError CollectorEndpointOperationAcquire × Authority) : State φ :=
  match outcome with
  | (.ok ⟨some token, _⟩, authority) => s.grant authority token
  | (_, authority) => { s with authority := authority }

def State.afterAdopt (s : State φ)
    (outcome : Except PyError (Option CollectorEndpointOperationToken) × Authority) : State φ :=
  match outcome with
  | (.ok (some token), authority) =>
    if s.authority.held.get? token.entryId = none then s.grant authority token
    else { s with authority := authority }
  | (_, authority) => { s with authority := authority }

def State.releaseWith (s : State φ) (entryId : PyObj) (presented : Presented) : State φ :=
  { s with
    authority := (s.authority.release entryId (s.tokenOf presented)).2
    entitled := match exactNormalizedStr entryId with
      | some key => s.giveBack key presented
      | none => s.entitled }

variable (kinds : φ → PyObj)

/-- `StrategyTransitionLease.acquire`, up to the authority's answer; `kinds` gives the operation
    kind each facade was built with. -/
def State.leaseOutcome (s : State φ) (facade : φ) (entryId : PyObj) :
    Except PyError CollectorEndpointOperationAcquire × Authority :=
  match exactNormalizedStr entryId with
  | none => (.ok ⟨none, none⟩, s.authority)
  | some _ => s.authority.acquire entryId (kinds facade) (.str "")

def State.leaseAcquire (s : State φ) (facade : φ) (entryId : PyObj) : State φ :=
  let outcome := s.leaseOutcome kinds facade entryId
  let after := s.afterAcquire outcome
  match outcome with
  | (.ok ⟨some token, _⟩, _) =>
    { after with
      leases := Function.update s.leases facade
        ((s.leases facade).set token.entryId s.granted.length) }
  | _ => after

def State.leaseRelease (s : State φ) (facade : φ) (entryId : PyObj) : State φ :=
  match entryId with
  | .str key =>
    match (s.leases facade).get? key with
    | none => s
    | some acquisition =>
      let popped := { s with
        leases := Function.update s.leases facade ((s.leases facade).erase key) }
      popped.releaseWith entryId (.granted acquisition)
  | _ => s

def step (s : State φ) : Action φ → State φ
  | .acquire entryId kind ownerRef => s.afterAcquire (s.authority.acquire entryId kind ownerRef)
  | .adopt entryId kind ownerRef => s.afterAdopt (s.authority.adopt entryId kind ownerRef)
  | .release entryId presented => s.releaseWith entryId presented
  | .leaseAcquire facade entryId => s.leaseAcquire kinds facade entryId
  | .leaseRelease facade entryId => s.leaseRelease facade entryId

end

end EndpointOperation
