import EybondLocal.CallbackLedger.Model

/-!
Who holds the causality lease. An attempt's lease is taken and given back by its own calls
only, so an attempt that holds nothing keeps holding nothing whatever the others do.
-/
namespace CallbackLedger
open OrderedDict

def FreeOf (s : Ledger) (attempt : String) : Prop :=
  s.causalityOwner ≠ attempt ∧ s.attempts.get? attempt = none

theorem freeOf_congr {s s' : Ledger} {attempt : String}
    (owner : s'.causalityOwner = s.causalityOwner)
    (attempts : s'.attempts.get? attempt = s.attempts.get? attempt) (free : FreeOf s attempt) :
    FreeOf s' attempt := by
  obtain ⟨other, unknown⟩ := free
  exact ⟨owner ▸ other, attempts.trans unknown⟩

theorem record_freeOf {s : Ledger} {attempt : String} (context : String) (free : FreeOf s attempt) :
    FreeOf (record s context) attempt := by
  obtain ⟨other, unknown⟩ := free
  exact ⟨other, by simp [record, unknown]⟩

theorem releaseCausality_freeOf (s : Ledger) {attempt : String} (named : attempt ≠ "") :
    FreeOf (releaseCausality s attempt) attempt := by
  constructor
  · simp only [releaseCausality]
    split
    · exact Ne.symm named
    · assumption
  · simp [releaseCausality]

theorem tryAcquireCausality_freeOf {s : Ledger} {attempt taken : String}
    (other : StripText.strip taken ≠ attempt) (free : FreeOf s attempt) :
    FreeOf (tryAcquireCausality s taken) attempt := by
  unfold tryAcquireCausality
  split
  · obtain ⟨_, unknown⟩ := free
    exact ⟨other, by simp [Ne.symm other, unknown]⟩
  · exact free

theorem releaseCausality_other_freeOf {s : Ledger} {attempt released : String}
    (named : attempt ≠ "") (free : FreeOf s attempt) :
    FreeOf (releaseCausality s released) attempt := by
  obtain ⟨other, unknown⟩ := free
  constructor
  · simp only [releaseCausality]
    split
    · exact Ne.symm named
    · exact other
  · simp [releaseCausality, unknown]

theorem step_freeOf {s : Ledger} {attempt : String} (named : attempt ≠ "") {action : Action}
    (other : action.leaseOf ≠ some attempt) (free : FreeOf s attempt) :
    FreeOf (step s action) attempt := by
  cases action with
  | acquire taken => exact tryAcquireCausality_freeOf (fun h => other (congrArg some h)) free
  | release released => exact releaseCausality_other_freeOf named free
  | enter id context =>
    dsimp only [step, enterScope]
    split
    · split
      · exact record_freeOf context (freeOf_congr rfl rfl free)
      · exact freeOf_congr rfl rfl free
    · exact free
  | announce context =>
    dsimp only [step]
    split
    · exact freeOf_congr rfl rfl (record_freeOf context (freeOf_congr rfl rfl free))
    · exact free
  | _ =>
    dsimp only [step]
    split <;> exact freeOf_congr rfl rfl free

end CallbackLedger
