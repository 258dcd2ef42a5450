import EybondLocal.RecoveryVerification.Terminal

/-!
The write-ahead state of a strategy transition
(`connection/strategy_transition_recovery.py`). Schema version and kind have one accepted
value each and are left out.
-/
namespace StrategyTransition
open StripText PythonObject CollectorIdentity IsoTimestamp RecoveryContract RecoveryVerification

inductive RecoveryPhase where
  | pending
  | restoreConfirmedUnproven
  deriving DecidableEq, Repr

def callbackOnDemand : String := "callback_on_demand"

structure StateFields where
  collectorPn : String
  createdAt : String
  updatedAt : String
  triggerTargetHost : String
  triggerUdpPort : Int
  advertisedHost : String
  advertisedPort : Int
  triggerBindHost : String
  listenerBindHost : String
  localListenerPort : Int
  phase : RecoveryPhase := .pending
  targetStrategy : String := callbackOnDemand
  deriving DecidableEq, Repr

/-- `_aware_iso(value) == value` for a text. -/
def awareIso (text : String) : Bool := text == strip text && text != "" && parsesAware text

def refuseUnless (ok : Bool) (message : String) : Option PyError :=
  if ok then none else some (valueError message)

theorem refuseUnless_eq_none_iff {ok : Bool} {message : String} :
    refuseUnless ok message = none ↔ ok = true := by
  cases ok <;> simp [refuseUnless]

def hostOk (host : String) : Bool := host != "" && host == strip host

def portOk (port : Int) : Bool := 1 ≤ port && port ≤ 65535

def StateFields.checks (fields : StateFields) : List (Option PyError) :=
  [refuseUnless (fields.targetStrategy == callbackOnDemand) "recovery_state_target_invalid",
    refuseUnless (fields.collectorPn != "" && strip fields.collectorPn == fields.collectorPn)
      "recovery_state_pn_not_normalized",
    refuseUnless (awareIso fields.createdAt) "recovery_state_created_at_not_aware",
    refuseUnless (awareIso fields.updatedAt) "recovery_state_updated_at_not_aware",
    refuseUnless (hostOk fields.triggerTargetHost) "recovery_state_trigger_target_host_invalid",
    refuseUnless (hostOk fields.advertisedHost) "recovery_state_advertised_host_invalid",
    refuseUnless (hostOk fields.triggerBindHost) "recovery_state_trigger_bind_host_invalid",
    refuseUnless (hostOk fields.listenerBindHost) "recovery_state_listener_bind_host_invalid",
    refuseUnless (portOk fields.triggerUdpPort) "recovery_state_trigger_udp_port_invalid",
    refuseUnless (portOk fields.advertisedPort) "recovery_state_advertised_port_invalid",
    refuseUnless (portOk fields.localListenerPort) "recovery_state_local_listener_port_invalid"]

def StateFields.postInit (fields : StateFields) : Option PyError := fields.checks.findSome? id

structure StrategyTransitionRecoveryState where
  fields : StateFields
  accepted : fields.postInit = none

namespace StrategyTransitionRecoveryState

def construct (fields : StateFields) : Except PyError StrategyTransitionRecoveryState :=
  match check : fields.postInit with
  | some error => .error error
  | none => .ok ⟨fields, check⟩

def withPhase (state : StrategyTransitionRecoveryState) (phase : RecoveryPhase) (now : PyObj) :
    Except PyError StrategyTransitionRecoveryState :=
  match now with
  | .str stamp =>
    if awareIso stamp then construct { state.fields with phase := phase, updatedAt := stamp }
    else .error (valueError "recovery_state_now_not_aware")
  | _ => .error ⟨.typeError, "recovery_state_now_must_be_str"⟩

/-- Whether the route is the one this state would be repaired on. Every part of a constructed
    state is there, so `route_is_complete` holds of it. -/
def hasRoute (state : StrategyTransitionRecoveryState) (route : CallbackRecoveryRoute) : Bool :=
  let sameText (text : String) (value : PyObj) : Bool :=
    match value with
    | .str s => s == text
    | _ => false
  sameText state.fields.triggerBindHost route.bindIp &&
    sameText state.fields.triggerTargetHost route.triggerTargetIp &&
    portNumber route.triggerUdpPort == some state.fields.triggerUdpPort &&
    sameText state.fields.advertisedHost route.advertisedHaHost &&
    portNumber route.advertisedHaPort == some state.fields.advertisedPort &&
    portNumber route.listenerPort == some state.fields.localListenerPort

/-- The stamp was an aware text, and the copy differs in its phase and that stamp only. -/
theorem withPhase_fields {state copy : StrategyTransitionRecoveryState} {phase : RecoveryPhase}
    {now : PyObj} (success : state.withPhase phase now = .ok copy) :
    ∃ stamp, now = .str stamp ∧ awareIso stamp = true ∧
      copy.fields = { state.fields with phase := phase, updatedAt := stamp } := by
  unfold withPhase at success
  split at success
  · rename_i stamp
    split at success
    · rename_i aware
      unfold construct at success
      split at success
      · cases success
      · cases success
        exact ⟨stamp, rfl, aware, rfl⟩
    · cases success
  · cases success

theorem withPhase_of_aware (state : StrategyTransitionRecoveryState) (phase : RecoveryPhase)
    {stamp : String} (aware : awareIso stamp = true) :
    ∃ copy, state.withPhase phase (.str stamp) = .ok copy := by
  have passes : ({ state.fields with phase := phase, updatedAt := stamp } : StateFields).postInit =
      none := by
    have before := state.accepted
    simp only [StateFields.postInit, StateFields.checks, List.findSome?_eq_none_iff,
      List.forall_mem_cons, id, refuseUnless_eq_none_iff] at before ⊢
    obtain ⟨target, pn, created, _, rest⟩ := before
    exact ⟨target, pn, created, aware, rest⟩
  refine ⟨⟨_, passes⟩, ?_⟩
  simp only [withPhase, aware, ↓reduceIte, construct]
  split
  · rename_i error refused
    rw [passes] at refused
    cases refused
  · rfl

end StrategyTransitionRecoveryState
end StrategyTransition
