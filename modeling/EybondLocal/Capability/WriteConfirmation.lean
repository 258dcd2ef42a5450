import EybondLocal.Capability.Codec
import EybondLocal.Library.PythonObject

/-!
The trace that one capability write leaves (`drivers/write_confirmation.py`), and what a full poll
adds to it.
-/
namespace Capability
open PythonObject StripText

inductive ObservationStatus where
  | pending
  | matched
  | mismatched
  | unavailable
  deriving DecidableEq, Repr

def strictScalar : NativeValue → Bool
  | .none | .bool _ | .int _ | .number _ | .text _ => true
  | .nonFinite _ | .moment _ | .other _ => false

def strictKey (key : String) : Prop := key ≠ "" ∧ key = strip key

def strictWords (words : List Int) : Prop := ∀ word ∈ words, 0 ≤ word ∧ word ≤ 0xFFFF

instance : DecidablePred strictKey :=
  fun key => inferInstanceAs (Decidable (key ≠ "" ∧ key = strip key))

instance : DecidablePred strictWords :=
  fun words => inferInstanceAs (Decidable (∀ word ∈ words, 0 ≤ word ∧ word ≤ 0xFFFF))

/-- A trace that passed `__post_init__`. `None` is the value of nothing observed. -/
structure CapabilityWriteConfirmation where
  capabilityKey : String
  valueKey : String
  requestedValue : NativeValue
  expectedValue : NativeValue
  requestedWords : List Int
  immediateStatus : ObservationStatus := .pending
  immediateValue : NativeValue := .none
  immediateWords : List Int := []
  immediateError : String := ""
  firstPollStatus : ObservationStatus := .pending
  firstPollValue : NativeValue := .none
  latestPollStatus : ObservationStatus := .pending
  latestPollValue : NativeValue := .none
  pollObservationCount : Nat := 0
  pollMismatchSeen : Bool := false
  pollMatchSeen : Bool := false
  keys_strict : strictKey capabilityKey ∧ strictKey valueKey
  target_scalar : strictScalar requestedValue = true ∧ strictScalar expectedValue = true
  requested_strict : requestedWords ≠ [] ∧ strictWords requestedWords
  immediate_strict : strictScalar immediateValue = true ∧ strictWords immediateWords ∧
    immediateError = strip immediateError
  firstPoll_scalar : strictScalar firstPollValue = true
  latestPoll_scalar : strictScalar latestPollValue = true

def observationStatus : Option Bool → ObservationStatus
  | none => .unavailable
  | some true => .matched
  | some false => .mismatched

namespace CapabilityWriteConfirmation
variable (trace : CapabilityWriteConfirmation)

/-- The field that `__post_init__` names when an observed value is no scalar. -/
def faultyField : String :=
  if trace.pollObservationCount = 0 then "first_poll_value" else "latest_poll_value"

def withPollObservation (value : NativeValue) (matched : Option Bool) :
    Except PyError CapabilityWriteConfirmation :=
  if trace.pollMatchSeen then .ok trace
  else if scalar : strictScalar value = true then
    let status := observationStatus matched
    .ok { trace with
      firstPollStatus := if trace.pollObservationCount = 0 then status else trace.firstPollStatus
      firstPollValue := if trace.pollObservationCount = 0 then value else trace.firstPollValue
      latestPollStatus := status
      latestPollValue := value
      pollObservationCount := trace.pollObservationCount + 1
      pollMismatchSeen := trace.pollMismatchSeen || matched == some false
      pollMatchSeen := matched == some true
      firstPoll_scalar := by
        split
        · exact scalar
        · exact trace.firstPoll_scalar
      latestPoll_scalar := scalar }
  else .error ⟨.typeError, "write_confirmation_" ++ trace.faultyField ++ "_not_scalar"⟩

end CapabilityWriteConfirmation

theorem observation_fails_iff (trace : CapabilityWriteConfirmation) (value : NativeValue)
    (matched : Option Bool) :
    (∃ error, trace.withPollObservation value matched = .error error) ↔
      trace.pollMatchSeen = false ∧ strictScalar value = false := by
  unfold CapabilityWriteConfirmation.withPollObservation
  split
  · simp_all
  · split <;> simp_all

theorem observation_recorded {trace after : CapabilityWriteConfirmation} {value : NativeValue}
    {matched : Option Bool} (opened : trace.pollMatchSeen = false)
    (observed : trace.withPollObservation value matched = .ok after) :
    after.latestPollStatus = observationStatus matched ∧ after.latestPollValue = value ∧
      after.pollObservationCount = trace.pollObservationCount + 1 ∧
      after.pollMatchSeen = (matched == some true) := by
  unfold CapabilityWriteConfirmation.withPollObservation at observed
  rw [opened] at observed
  simp only [Bool.false_eq_true, ↓reduceIte] at observed
  split at observed
  · cases observed
    exact ⟨rfl, rfl, rfl, rfl⟩
  · cases observed

end Capability
