import EybondLocal.SessionRegistry.Effects
import EybondLocal.Library.Execution

/-!
Single ownership over whole runs of the registry, for durable identities and for
sockets. Both hold exactly as long as no unguarded write lands on something another
owner already holds; the guarded operations preserve them by themselves.
-/
namespace SessionRegistry
open StripText PythonObject CollectorIdentity OrderedDict PrefixIdentity Execution

def SharesIdentity (a b : Claim) : Prop :=
  a.collectorPn ≠ "" ∧ b.collectorPn ≠ "" ∧ pnIsSameIdentity a.collectorPn b.collectorPn = true

def SharesSocket (a b : Claim) : Prop := a.sessionId ≠ "" ∧ a.sessionId = b.sessionId

def SingleDurableOwner (reg : Registry) : Prop := Exclusive SharesIdentity reg.claims.get?

def SingleSocketOwner (reg : Registry) : Prop := Exclusive SharesSocket reg.claims.get?

def IdentityFree (reg : Registry) (call : Call) : Prop :=
  ∀ session, reg.takenSocket call = some session → reg.ownerForPn session.collectorPn = ""

def SocketFree (reg : Registry) (call : Call) : Prop :=
  ∀ owner sid, reg.boundSession call = some (owner, sid) → reg.sessionHeldByOther owner sid = none

theorem sharesIdentity_symm (a b : Claim) (h : SharesIdentity a b) : SharesIdentity b a :=
  ⟨h.2.1, h.1, by rw [pnIsSameIdentity_comm]; exact h.2.2⟩

theorem sharesSocket_symm (a b : Claim) (h : SharesSocket a b) : SharesSocket b a :=
  ⟨h.2 ▸ h.1, h.2.symm⟩

theorem get?_write_eq (reg : Registry) (owner : String) (claim : Claim) :
    (reg.write owner claim).claims.get? =
      fun o => if o = owner then some claim else reg.claims.get? o := by
  funext o
  exact Registry.get?_write reg owner o claim

theorem get?_move_eq (reg : Registry) (source toId : String) (claim : Claim) :
    ((reg.claims.set toId claim).erase source).get? =
      fun o => if o = source then none else if o = toId then some claim else reg.claims.get? o := by
  funext o
  simp

theorem get?_erase_eq (reg : Registry) (owner : String) :
    (reg.claims.erase owner).get? = fun o => if o = owner then none else reg.claims.get? o := by
  funext o
  simp

/-- An owner whose claim stands for a PN is in the registry. -/
theorem claim_of_claimedIdentity {reg : Registry} {owner : String}
    (bearing : reg.claimedIdentity owner ≠ "") :
    ∃ claim, reg.claims.get? owner = some claim ∧ claim.collectorPn = reg.claimedIdentity owner := by
  cases held : reg.claims.get? owner with
  | none => exact absurd (Registry.claimedIdentity_of_none held) bearing
  | some claim => exact ⟨claim, rfl, (Registry.claimedIdentity_of_get? held).symm⟩

theorem claim_of_claimedSessionId {reg : Registry} {owner : String}
    (bound : reg.claimedSessionId owner ≠ "") :
    ∃ claim, reg.claims.get? owner = some claim ∧ claim.sessionId = reg.claimedSessionId owner := by
  cases held : reg.claims.get? owner with
  | none => exact absurd (Registry.claimedSessionId_of_none held) bound
  | some claim => exact ⟨claim, rfl, (Registry.claimedSessionId_of_get? held).symm⟩

theorem sessionHeldByOther_eq_none_iff (reg : Registry) (owner sid : String) :
    reg.sessionHeldByOther owner sid = none ↔
      ∀ other claim, other ≠ owner → reg.claims.get? other = some claim → claim.sessionId ≠ sid := by
  simp only [Registry.sessionHeldByOther, Option.map_eq_none_iff, Dict.firstItem_eq_none_iff]
  constructor
  · intro h other claim ne held
    simpa [ne] using h other claim held
  · intro h other claim held
    by_cases ne : other = owner
    · simp [ne]
    · simpa [ne] using h other claim ne held

theorem pnEffect_unshared {reg : Registry} {call : Call} {owner : String} {claim : Claim}
    (valid : reg.Valid) (before : SingleDurableOwner reg) (free : IdentityFree reg call)
    (effect : reg.PnEffect call owner claim.collectorPn) {other : String} {held : Claim}
    (ne : other ≠ owner) (h : reg.claims.get? other = some held) : ¬ SharesIdentity held claim := by
  rintro ⟨bearing, _, same⟩
  -- Whatever the owner's own PN already matches would be shared before the call too.
  have unshared : pnIsSameIdentity held.collectorPn (reg.claimedIdentity owner) = true → False := by
    intro shared
    have nonempty : reg.claimedIdentity owner ≠ "" := by
      intro vacant
      exact (pnIsSameIdentity_nonempty shared).2 (by simp [vacant])
    obtain ⟨current, at_owner, eq⟩ := claim_of_claimedIdentity nonempty
    exact before other owner held current h at_owner ne ⟨bearing, eq ▸ nonempty, eq ▸ shared⟩
  generalize claim.collectorPn = pn at effect same
  cases effect with
  | kept => exact unshared same
  | enriched pn known => exact unshared (pnIsSameIdentity_of_preferFullPn known same)
  | declared pn full vacant nonempty unowned completes =>
    have refused := (Registry.ownerForPn_eq_empty_iff valid nonempty).mp unowned other held h bearing
    rcases completes with eq | ⟨seen, known, eq⟩
    · subst eq
      simp [refused] at same
    · subst eq
      simp [pnIsSameIdentity_of_preferFullPn known same] at refused
  | socket session vacant taken =>
    rw [pnIsSameIdentity_strip_right] at same
    have nonempty : session.collectorPn ≠ "" := by
      intro blank
      exact (pnIsSameIdentity_nonempty same).2 (by simp [blank])
    have refused := (Registry.ownerForPn_eq_empty_iff valid nonempty).mp (free session taken)
      other held h bearing
    simp [refused] at same

theorem singleDurableOwner_effect {reg reg' : Registry} {call : Call} (valid : reg.Valid)
    (before : SingleDurableOwner reg) (free : IdentityFree reg call)
    (effect : reg.Effect call reg') : SingleDurableOwner reg' := by
  unfold SingleDurableOwner at before ⊢
  cases effect with
  | unchanged => exact before
  | wrote named trimmed pn session =>
    rw [get?_write_eq]
    apply (exclusive_set_iff sharesIdentity_symm before _ _).mpr
    intro other held ne h
    exact pnEffect_unshared valid before free pn ne h
  | @moved source toId prepared settled distinct named held bearing identity same session =>
    rw [get?_move_eq]
    apply exclusive_move sharesIdentity_symm before held
    intro other claim _ _ _ shared
    refine ⟨shared.1, bearing, ?_⟩
    have full := shared.2.2
    rw [identity] at full
    by_cases vacant : reg.claimedIdentity toId = ""
    · rw [vacant, preferFullPn_empty_right, pnIsSameIdentity_strip_right] at full
      exact full
    · have known := same vacant
      rw [pnIsSameIdentity_comm] at known
      exact pnIsSameIdentity_of_preferFullPn known full
  | removed owner =>
    rw [get?_erase_eq]
    exact exclusive_erase before owner

theorem takenSocket_writes {reg : Registry} {call : Call} {session : CallbackSession}
    (taken : reg.takenSocket call = some session) :
    ∃ owner claim, reg.claimedIdentity owner = "" ∧ strip session.collectorPn ≠ "" ∧
      step reg call = reg.write owner claim ∧ claim.collectorPn = strip session.collectorPn := by
  obtain ⟨inventory, operation⟩ := call
  cases operation with
  | claim entryId collectorPn sessionId sessionProtocol =>
    simp only [Registry.takenSocket] at taken
    split at taken
    · rename_i args
      obtain ⟨named, undeclared, vacant⟩ := args
      split at taken
      · cases taken
      · rename_i target resolved
        rw [Option.filter_eq_some_iff] at taken
        obtain ⟨found, identified⟩ := taken
        have nonblank : strip session.collectorPn ≠ "" := by simpa using identified
        have nonempty : session.collectorPn ≠ "" := fun h => nonblank (by simp [h])
        have pn : target.pn = strip session.collectorPn := by
          rw [(Registry.resolveClaim_ok resolved).2.2.2.1, found]
          simp [Registry.derivedPn, nonempty]
        rw [← undeclared] at resolved
        simp only [step, Registry.claim, named, ↓reduceIte, resolved, Registry.recordClaim, pn]
        split
        · exact ⟨entryId.cleanText, _, vacant, nonblank, rfl, rfl⟩
        · rename_i existing held
          have blank : existing.collectorPn = "" := by
            rw [← Registry.claimedIdentity_of_get? held]
            exact vacant
          simp only [blank, ne_eq, not_true_eq_false, false_and, and_false, ↓reduceIte]
          exact ⟨entryId.cleanText, _, vacant, nonblank, rfl, by simp⟩
    · cases taken
  | _ => cases taken

theorem singleDurableOwner_step_iff {reg : Registry} (valid : reg.Valid)
    (before : SingleDurableOwner reg) (call : Call) :
    SingleDurableOwner (step reg call) ↔ IdentityFree reg call := by
  constructor
  · intro after session taken
    obtain ⟨owner, claim, vacant, nonblank, eq, pn⟩ := takenSocket_writes taken
    have nonempty : session.collectorPn ≠ "" := fun h => nonblank (by simp [h])
    apply (Registry.ownerForPn_eq_empty_iff valid nonempty).mpr
    intro other held h bearing
    by_contra shared
    have ne : other ≠ owner := by
      intro same
      rw [same] at h
      exact bearing ((Registry.claimedIdentity_of_get? h).symm.trans vacant)
    unfold SingleDurableOwner at after
    rw [eq, get?_write_eq] at after
    apply after other owner held claim (by simp [ne, h]) (by simp) ne
    exact ⟨bearing, by rw [pn]; exact nonblank, by rw [pn]; simpa using shared⟩
  · intro free
    exact singleDurableOwner_effect valid before free (step_effect valid call)

/-- Every run from the empty registry keeps one durable owner for each identity in all its
    states exactly when each of its calls takes over no PN that somebody already owns. -/
theorem single_durable_owner_run (calls : List Call) :
    EveryState step SingleDurableOwner Registry.initial calls ↔
      EveryStep step IdentityFree Registry.initial calls := by
  have supported : ∀ reg call, Registry.Valid reg → Registry.Valid (step reg call) :=
    fun reg call valid => step_valid valid call
  have start : SingleDurableOwner Registry.initial := by
    intro a b x y ha
    cases ha
  exact everyState_iff_everyStep supported
    (fun reg call valid before => singleDurableOwner_step_iff valid before call)
    Registry.initial_valid start calls

def ownedCollectorInventory : List RawSession :=
  [{ sessionId := .str "s1", collectorPn := .str "E5000020000001",
     collectorIdentitySource := .str "fc2_parameter_2", state := .str "routed_framed" }]

def socketClaimCalls : List Call :=
  [⟨ownedCollectorInventory, .claimIdentity (.str "entry_a") (.str "E5000020000001")⟩,
   ⟨ownedCollectorInventory, .claim (.str "entry_b") .none (.str "s1") .none⟩]

theorem socket_claim_second_durable_owner :
    ¬ ∀ calls, EveryState step SingleDurableOwner Registry.initial calls := by
  intro always
  have final := everyState_run (always socketClaimCalls)
  have first : (run step Registry.initial socketClaimCalls).claims.get? "entry_a" =
      some { entryId := "entry_a", collectorPn := "E5000020000001" } := by decide +kernel
  have second : (run step Registry.initial socketClaimCalls).claims.get? "entry_b" =
      some { entryId := "entry_b", collectorPn := "E5000020000001", sessionId := "s1" } := by
    decide +kernel
  exact final "entry_a" "entry_b" _ _ first second (by decide)
    ⟨by decide, by decide, by decide +kernel⟩

theorem sessionEffect_unshared {reg : Registry} {call : Call} {owner : String} {claim : Claim}
    (before : SingleSocketOwner reg) (free : SocketFree reg call)
    (effect : reg.SessionEffect call owner claim.sessionId) {other : String} {held : Claim}
    (ne : other ≠ owner) (h : reg.claims.get? other = some held) : ¬ SharesSocket held claim := by
  rintro ⟨bound, same⟩
  generalize claim.sessionId = sid at effect same
  cases effect with
  | kept =>
    obtain ⟨current, at_owner, eq⟩ := claim_of_claimedSessionId (same ▸ bound)
    exact before other owner held current h at_owner ne ⟨bound, same.trans eq.symm⟩
  | guarded sid unheld =>
    exact (sessionHeldByOther_eq_none_iff reg owner sid).mp unheld other held ne h same
  | bound sid unguarded =>
    have unheld := free owner sid unguarded
    exact (sessionHeldByOther_eq_none_iff reg owner sid).mp unheld other held ne h same

theorem singleSocketOwner_effect {reg reg' : Registry} {call : Call}
    (before : SingleSocketOwner reg) (free : SocketFree reg call)
    (effect : reg.Effect call reg') : SingleSocketOwner reg' := by
  unfold SingleSocketOwner at before ⊢
  cases effect with
  | unchanged => exact before
  | wrote named trimmed pn session =>
    rw [get?_write_eq]
    apply (exclusive_set_iff sharesSocket_symm before _ _).mpr
    intro other held ne h
    exact sessionEffect_unshared before free session ne h
  | moved distinct named held bearing identity same session =>
    rw [get?_move_eq]
    apply exclusive_move sharesSocket_symm before held
    intro other claim _ _ _ shared
    exact ⟨shared.1, shared.2.trans session⟩
  | removed owner =>
    rw [get?_erase_eq]
    exact exclusive_erase before owner

/-- The last gate of `claim` never fires: its earlier guards already made the caller's PN, the
    socket's and the stored one the same identity. -/
theorem resolveClaim_same_identity {reg : Registry} {inventory : List RawSession}
    {owner pn sid : String} {sessionProtocol : PyObj} {target : Registry.ClaimTarget}
    {existing : Claim} (held : reg.claims.get? owner = some existing)
    (resolved : reg.resolveClaim inventory owner pn sid sessionProtocol = .ok target)
    (declared : target.pn ≠ "") (bearing : existing.collectorPn ≠ "") :
    pnIsSameIdentity existing.collectorPn target.pn = true := by
  obtain ⟨_, rebind, agrees, eq, _⟩ := Registry.resolveClaim_ok resolved
  rw [Registry.claimedIdentity_of_get? held] at agrees
  have own : pn ≠ "" → pnIsSameIdentity existing.collectorPn pn = true := by
    intro given
    by_contra differs
    rw [Bool.not_eq_true] at differs
    simp [Registry.rebindRefusal, held, given, bearing, differs] at rebind
  rw [eq] at declared ⊢
  cases found : target.matched with
  | none =>
    simp only [found, Registry.derivedPn] at declared ⊢
    exact own declared
  | some session =>
    simp only [found, Registry.derivedPn] at declared ⊢
    by_cases identified : session.collectorPn = ""
    · simp only [identified, ↓reduceIte] at declared ⊢
      exact own declared
    · rw [found] at agrees
      have stored := (Registry.contradictsSocket_none agrees identified).2 bearing
      simp only [identified, ↓reduceIte]
      by_cases given : strip pn = ""
      · simpa [preferFullPn, given] using stored
      · have nonempty : pn ≠ "" := fun h => given (by simp [h])
        have seen := (pnIsSameIdentity_nonempty stored).2
        rcases preferFullPn_cases given seen with ⟨full, _⟩ | ⟨full, _⟩
        · rw [full, pnIsSameIdentity_strip_right]
          exact own nonempty
        · rw [full, pnIsSameIdentity_strip_right]
          exact stored

theorem boundSession_writes {reg : Registry} (valid : reg.Valid) {call : Call}
    {owner sid : String} (unguarded : reg.boundSession call = some (owner, sid)) :
    ∃ claim, sid ≠ "" ∧ step reg call = reg.write owner claim ∧ claim.sessionId = sid := by
  obtain ⟨inventory, operation⟩ := call
  cases operation with
  | claim entryId collectorPn sessionId sessionProtocol =>
    simp only [Registry.boundSession] at unguarded
    split at unguarded
    · rename_i args
      obtain ⟨named, unbound⟩ := args
      split at unguarded
      · cases unguarded
      · rename_i target resolved
        split at unguarded
        · cases unguarded
        · rename_i nonempty
          cases unguarded
          simp only [step, Registry.claim, named, ↓reduceIte, resolved, Registry.recordClaim]
          split
          · exact ⟨_, nonempty, rfl, rfl⟩
          · rename_i existing held
            have gate : ¬ (target.pn ≠ "" ∧ existing.collectorPn ≠ "" ∧
                pnIsSameIdentity existing.collectorPn target.pn = false) := by
              rintro ⟨declared, bearing, differs⟩
              simp [resolveClaim_same_identity held resolved declared bearing] at differs
            have vacant : existing.sessionId = "" := by
              rw [← Registry.claimedSessionId_of_get? held]
              exact unbound
            simp only [gate, ↓reduceIte, vacant]
            exact ⟨_, nonempty, rfl, rfl⟩
    · cases unguarded
  | pinOwnerClaimToSession entryId sessionId =>
    simp only [Registry.boundSession] at unguarded
    split at unguarded
    · cases unguarded
    · rename_i claim held
      split at unguarded
      · cases unguarded
      · rename_i args
        simp only [not_or] at args
        obtain ⟨nonempty, elsewhere, bearing⟩ := args
        split at unguarded
        · rename_i allowed
          cases unguarded
          have named : entryId.cleanText ≠ "" := valid.named _ claim held
          refine ⟨{ claim with sessionId := sessionId.cleanText }, nonempty, ?_, rfl⟩
          simp [step, Registry.pinOwnerClaimToSession, named, nonempty, held, elsewhere, bearing,
            allowed, Registry.returns]
        · cases unguarded
  | retargetClaimToReconnectedSession entryId sessionId =>
    simp only [Registry.boundSession] at unguarded
    split at unguarded
    · cases unguarded
    · rename_i claim held
      split at unguarded
      · cases unguarded
      · rename_i args
        split at unguarded
        · rename_i allowed
          cases unguarded
          have nonempty : sessionId.cleanText ≠ "" := fun h => args (Or.inr h)
          refine ⟨{ claim with sessionId := sessionId.cleanText }, nonempty, ?_, rfl⟩
          simp [step, Registry.retargetClaimToReconnectedSession, held, args, allowed,
            Registry.returns]
        · cases unguarded
  | _ => cases unguarded

theorem singleSocketOwner_step_iff {reg : Registry} (valid : reg.Valid)
    (before : SingleSocketOwner reg) (call : Call) :
    SingleSocketOwner (step reg call) ↔ SocketFree reg call := by
  constructor
  · intro after owner sid unguarded
    obtain ⟨claim, nonempty, eq, bound⟩ := boundSession_writes valid unguarded
    apply (sessionHeldByOther_eq_none_iff reg owner sid).mpr
    intro other held ne h same
    unfold SingleSocketOwner at after
    rw [eq, get?_write_eq] at after
    apply after other owner held claim (by simp [ne, h]) (by simp) ne
    exact ⟨by rw [same]; exact nonempty, by rw [same, bound]⟩
  · intro free
    exact singleSocketOwner_effect before free (step_effect valid call)

/-- Every run from the empty registry keeps one owner for each socket in all its states exactly
    when each of its unguarded bindings names a socket that no other claim holds. -/
theorem single_socket_owner_run (calls : List Call) :
    EveryState step SingleSocketOwner Registry.initial calls ↔
      EveryStep step SocketFree Registry.initial calls := by
  have supported : ∀ reg call, Registry.Valid reg → Registry.Valid (step reg call) :=
    fun reg call valid => step_valid valid call
  have start : SingleSocketOwner Registry.initial := by
    intro a b x y ha
    cases ha
  exact everyState_iff_everyStep supported
    (fun reg call valid before => singleSocketOwner_step_iff valid before call)
    Registry.initial_valid start calls

def silentSocket : RawSession := { sessionId := .str "s1" }
def identifiedSocket : RawSession :=
  { sessionId := .str "s1", collectorPn := .str "E5000020000001",
    collectorIdentitySource := .str "fc2_parameter_2", state := .str "routed_framed" }

/-- The entry's PN claim comes first in the dictionary and shadows the transient claim that
    already holds the socket, so `_owner_for_session` answers with the entry itself. -/
def shadowedPinCalls : List Call :=
  [⟨[], .claimIdentity (.str "entry_a") (.str "E5000020000001")⟩,
   ⟨[silentSocket], .claimSession (.str "verification_b") (.str "s1")⟩,
   ⟨[identifiedSocket], .pinOwnerClaimToSession (.str "entry_a") (.str "s1")⟩]

theorem shadowed_pin_second_socket_owner :
    ¬ ∀ calls, EveryState step SingleSocketOwner Registry.initial calls := by
  intro always
  have final := everyState_run (always shadowedPinCalls)
  have first : (run step Registry.initial shadowedPinCalls).claims.get? "entry_a" =
      some { entryId := "entry_a", collectorPn := "E5000020000001", sessionId := "s1" } := by
    decide +kernel
  have second : (run step Registry.initial shadowedPinCalls).claims.get? "verification_b" =
      some { entryId := "verification_b", sessionId := "s1" } := by decide +kernel
  exact final "entry_a" "verification_b" _ _ first second (by decide) ⟨by decide, rfl⟩

end SessionRegistry
