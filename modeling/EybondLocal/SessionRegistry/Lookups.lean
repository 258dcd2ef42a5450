import EybondLocal.SessionRegistry.SingleOwner

/-!
The three searches that stop at the first matching claim. Prefix identity is not transitive,
so claims that are pairwise different can still both match: a short PN may begin the PNs of
two owners, and a socket may be bound by one owner while its PN belongs to another.
-/
namespace SessionRegistry
open StripText PythonObject CollectorIdentity OrderedDict PrefixIdentity

def claimMatchesPn (pn : String) (claim : Claim) : Bool :=
  claim.collectorPn != "" && pnIsSameIdentity claim.collectorPn pn

/-- The claims `complete_handoff` may move. -/
def movable (toId owner : String) (claim : Claim) : Bool := claim.handoffPending && owner != toId

/-- A lookup answers alike for every insertion order of the same claims. -/
def OrderFree {β : Type} (reg : Registry) (lookup : Registry → β) : Prop :=
  ∀ other : Registry, (∀ owner, other.claims.get? owner = reg.claims.get? owner) →
    lookup other = lookup reg

def BeginsTwoPns (reg : Registry) (among : String → Claim → Bool) (pn : String) : Prop :=
  callbackPnPrefixMatchMinLen ≤ (strip pn).length ∧
    ∃ a b x y, a ≠ b ∧ reg.claims.get? a = some x ∧ reg.claims.get? b = some y ∧
      among a x = true ∧ among b y = true ∧
      startsWith (strip x.collectorPn) (strip pn) = true ∧
      startsWith (strip y.collectorPn) (strip pn) = true

/-- One owner's claim is bound to the socket and another owner's claim stands for its PN. -/
def BoundApartFromPn (reg : Registry) (session : CallbackSession) : Prop :=
  ∃ a b x y, a ≠ b ∧ reg.claims.get? a = some x ∧ reg.claims.get? b = some y ∧
    x.sessionId ≠ "" ∧ x.sessionId = session.sessionId ∧
    claimMatchesPn session.collectorPn y = true

theorem ownerForPn_eq (reg : Registry) (pn : String) :
    reg.ownerForPn pn =
      ((reg.claims.firstItem fun _ claim => claimMatchesPn pn claim).map Prod.fst).getD "" := by
  unfold Registry.ownerForPn
  split
  · rename_i blank
    have none : (reg.claims.firstItem fun _ claim => claimMatchesPn pn claim) = none := by
      rw [Dict.firstItem_eq_none_iff]
      intro owner claim _
      have differs : pnIsSameIdentity claim.collectorPn pn = false := by
        by_contra same
        rw [Bool.not_eq_false] at same
        exact (pnIsSameIdentity_nonempty same).2 (by simp [blank])
      simp [claimMatchesPn, differs]
    simp [none]
  · rfl

theorem preparedClaim_eq (reg : Registry) (pn toId : String) :
    reg.preparedClaim pn toId =
      reg.claims.firstItem fun owner claim => movable toId owner claim && claimMatchesPn pn claim := by
  simp only [Registry.preparedClaim, movable, claimMatchesPn, Bool.and_assoc]

theorem claimMatchesPn_of_startsWith {pn : String} {claim : Claim}
    (long : callbackPnPrefixMatchMinLen ≤ (strip pn).length)
    (begins : startsWith (strip claim.collectorPn) (strip pn) = true) :
    claimMatchesPn pn claim = true := by
  have positive : 0 < callbackPnPrefixMatchMinLen := by decide
  rw [startsWith_iff] at begins
  have longer := begins.length_le
  have nonempty : claim.collectorPn ≠ "" := by
    intro blank
    rw [blank, strip_empty] at longer
    simp only [String.length_toList, String.length_empty] at longer
    omega
  simp only [claimMatchesPn, Bool.and_eq_true, bne_iff_ne, ne_eq, nonempty, not_false_eq_true,
    true_and]
  rw [pnIsSameIdentity_iff, SameIdentity]
  rw [← String.length_toList] at long
  refine ⟨?_, ?_, Or.inr ⟨by omega, Or.inr begins⟩⟩
  · intro empty
    rw [empty] at longer
    simp only [List.length_nil] at longer
    omega
  · intro empty
    rw [empty] at long
    simp only [List.length_nil] at long
    omega

theorem begins_of_both_match {reg : Registry} (identities : SingleDurableOwner reg) {pn : String}
    {a b : String} {x y : Claim} (apart : a ≠ b) (ha : reg.claims.get? a = some x)
    (hb : reg.claims.get? b = some y) (matchA : claimMatchesPn pn x = true)
    (matchB : claimMatchesPn pn y = true) :
    callbackPnPrefixMatchMinLen ≤ (strip pn).length ∧
      startsWith (strip x.collectorPn) (strip pn) = true ∧
      startsWith (strip y.collectorPn) (strip pn) = true := by
  simp only [claimMatchesPn, Bool.and_eq_true, bne_iff_ne, ne_eq] at matchA matchB
  have distinct : ¬ SameIdentity x.collectorPn y.collectorPn := by
    rw [← pnIsSameIdentity_iff]
    intro same
    exact identities a b x y ha hb apart ⟨matchA.1, matchB.1, same⟩
  have positive : 0 < callbackPnPrefixMatchMinLen := by decide
  have both := (compatible_with_both_iff positive distinct).mp
    ⟨(pnIsSameIdentity_iff _ _).mp matchA.2, (pnIsSameIdentity_iff _ _).mp matchB.2⟩
  rwa [startsWith_iff, startsWith_iff, ← String.length_toList]

theorem uniqueMatch_pn_iff {reg : Registry} (identities : SingleDurableOwner reg)
    (among : String → Claim → Bool) (pn : String) :
    (reg.claims.UniqueMatch fun owner claim => among owner claim && claimMatchesPn pn claim) ↔
      ¬ BeginsTwoPns reg among pn := by
  constructor
  · rintro unique ⟨long, a, b, x, y, apart, ha, hb, inA, inB, beginsA, beginsB⟩
    have matchA := Bool.and_eq_true_iff.mpr ⟨inA, claimMatchesPn_of_startsWith long beginsA⟩
    have matchB := Bool.and_eq_true_iff.mpr ⟨inB, claimMatchesPn_of_startsWith long beginsB⟩
    exact apart (unique a b x y ha hb matchA matchB)
  · intro unambiguous a b x y ha hb matchA matchB
    rw [Bool.and_eq_true] at matchA matchB
    by_contra apart
    obtain ⟨long, beginsA, beginsB⟩ := begins_of_both_match identities apart ha hb matchA.2 matchB.2
    exact unambiguous
      ⟨long, a, b, x, y, apart, ha, hb, matchA.1, matchB.1, beginsA, beginsB⟩

theorem claimMatchesSession_eq (session : CallbackSession) (claim : Claim) :
    Registry.claimMatchesSession session claim = true ↔
      claim.sessionId ≠ "" ∧ claim.sessionId = session.sessionId ∨
        claimMatchesPn session.collectorPn claim = true := by
  simp [Registry.claimMatchesSession, claimMatchesPn]

theorem uniqueMatch_session_iff {reg : Registry} (identities : SingleDurableOwner reg)
    (sockets : SingleSocketOwner reg) (session : CallbackSession) :
    (reg.claims.UniqueMatch fun _ claim => Registry.claimMatchesSession session claim) ↔
      ¬ BeginsTwoPns reg (fun _ _ => true) session.collectorPn ∧ ¬ BoundApartFromPn reg session := by
  have byPn := uniqueMatch_pn_iff identities (fun _ _ => true) session.collectorPn
  simp only [Bool.true_and] at byPn
  rw [← byPn]
  constructor
  · intro unique
    constructor
    · intro a b x y ha hb matchA matchB
      exact unique a b x y ha hb ((claimMatchesSession_eq _ _).mpr (Or.inr matchA))
        ((claimMatchesSession_eq _ _).mpr (Or.inr matchB))
    · rintro ⟨a, b, x, y, apart, ha, hb, bound, here, matchB⟩
      exact apart (unique a b x y ha hb ((claimMatchesSession_eq _ _).mpr (Or.inl ⟨bound, here⟩))
        ((claimMatchesSession_eq _ _).mpr (Or.inr matchB)))
  · rintro ⟨unique, together⟩ a b x y ha hb matchA matchB
    rw [claimMatchesSession_eq] at matchA matchB
    by_contra apart
    rcases matchA with ⟨boundA, hereA⟩ | matchA
    · rcases matchB with ⟨boundB, hereB⟩ | matchB
      · exact sockets a b x y ha hb apart ⟨boundA, hereA.trans hereB.symm⟩
      · exact together ⟨a, b, x, y, apart, ha, hb, boundA, hereA, matchB⟩
    · rcases matchB with ⟨boundB, hereB⟩ | matchB
      · exact together ⟨b, a, y, x, Ne.symm apart, hb, ha, boundB, hereB, matchA⟩
      · exact apart (unique a b x y ha hb matchA matchB)

theorem orderFree_firstItem {β : Type} {reg : Registry} {test : String → Claim → Bool}
    (unique : reg.claims.UniqueMatch test) (answer : Option (String × Claim) → β) :
    OrderFree reg fun other => answer (other.claims.firstItem test) := by
  intro other same
  exact congrArg answer (Dict.firstItem_eq_of_unique unique same)

/-- For claims of pairwise different identities and sockets, each of the three searches has at
    most one match and is free of the insertion order exactly under the stated conditions. -/
theorem lookups_unambiguous_iff {reg : Registry} (identities : SingleDurableOwner reg)
    (sockets : SingleSocketOwner reg) (session : CallbackSession) (collectorPn entryId : PyObj) :
    ((reg.claims.UniqueMatch fun _ claim => Registry.claimMatchesSession session claim) ∧
        OrderFree reg (fun reg => reg.ownerForSession session) ↔
      ¬ BeginsTwoPns reg (fun _ _ => true) session.collectorPn ∧ ¬ BoundApartFromPn reg session) ∧
    ((reg.claims.UniqueMatch fun _ claim => claimMatchesPn (normalizePn collectorPn) claim) ∧
        OrderFree reg (fun reg => reg.ownerForPn (normalizePn collectorPn)) ↔
      ¬ BeginsTwoPns reg (fun _ _ => true) (normalizePn collectorPn)) ∧
    ((reg.claims.UniqueMatch fun owner claim => movable entryId.cleanText owner claim &&
          claimMatchesPn (normalizePn collectorPn) claim) ∧
        OrderFree reg (fun reg => reg.preparedClaim (normalizePn collectorPn) entryId.cleanText) ↔
      ¬ BeginsTwoPns reg (movable entryId.cleanText) (normalizePn collectorPn)) := by
  have bySession := uniqueMatch_session_iff identities sockets session
  have byPn := uniqueMatch_pn_iff identities (fun _ _ => true) (normalizePn collectorPn)
  have prepared := uniqueMatch_pn_iff identities (movable entryId.cleanText) (normalizePn collectorPn)
  simp only [Bool.true_and] at byPn
  rw [← bySession, ← byPn, ← prepared]
  refine ⟨⟨And.left, fun unique => ⟨unique, ?_⟩⟩, ⟨And.left, fun unique => ⟨unique, ?_⟩⟩,
    And.left, fun unique => ⟨unique, ?_⟩⟩
  · exact orderFree_firstItem unique fun found => (found.map Prod.fst).getD ""
  · simp only [ownerForPn_eq]
    exact orderFree_firstItem unique fun found => (found.map Prod.fst).getD ""
  · simp only [preparedClaim_eq]
    exact orderFree_firstItem unique id

def twoOwners (first second : Claim) (apart : first.entryId ≠ second.entryId) : Registry :=
  ⟨⟨[(first.entryId, first), (second.entryId, second)], by simpa using apart⟩⟩

theorem twoOwners_exclusive {first second : Claim} {apart : first.entryId ≠ second.entryId}
    {shares : Claim → Claim → Prop} (symm : ∀ a b, shares a b → shares b a)
    (unshared : ¬ shares first second) :
    Exclusive shares (twoOwners first second apart).claims.get? := by
  intro a b x y ha hb ne shared
  rw [Dict.get?_eq_some_iff] at ha hb
  simp only [twoOwners, List.mem_cons, Prod.mk.injEq, List.not_mem_nil, or_false] at ha hb
  rcases ha with ⟨rfl, rfl⟩ | ⟨rfl, rfl⟩
  · rcases hb with ⟨rfl, rfl⟩ | ⟨rfl, rfl⟩
    · exact ne rfl
    · exact unshared shared
  · rcases hb with ⟨rfl, rfl⟩ | ⟨rfl, rfl⟩
    · exact unshared (symm _ _ shared)
    · exact ne rfl

def collectorA : Claim := { entryId := "entry_a", collectorPn := "E5000020000001" }
def collectorB : Claim := { entryId := "entry_b", collectorPn := "E5000020000002" }

theorem collectors_single_owner (apart : collectorA.entryId ≠ collectorB.entryId) :
    SingleDurableOwner (twoOwners collectorA collectorB apart) ∧
      SingleSocketOwner (twoOwners collectorA collectorB apart) := by
  constructor
  · apply twoOwners_exclusive sharesIdentity_symm
    rintro ⟨_, _, same⟩
    have differs : pnIsSameIdentity collectorA.collectorPn collectorB.collectorPn = false := by
      decide +kernel
    rw [differs] at same
    cases same
  · apply twoOwners_exclusive sharesSocket_symm
    intro shared
    exact shared.1 rfl

/-- Under a full PN the two are told apart. -/
theorem full_pn_lookup_unambiguous :
    OrderFree (twoOwners collectorA collectorB (by decide))
      fun reg => reg.ownerForPn (normalizePn (.str "E5000020000001")) := by
  obtain ⟨identities, sockets⟩ := collectors_single_owner (by decide)
  let raw : RawSession := { sessionId := .str "s1" }
  let session : CallbackSession :=
    { sessionId := "s1", peerIp := "", peerPort := 0, listenerPort := 0, protocolShape := "",
      sessionProtocol := "", collectorPn := "", identitySource := "", state := .identifiedWeak,
      ownerEntryId := "", raw := raw }
  have exact_condition :=
    (lookups_unambiguous_iff identities sockets session (.str "E5000020000001") .none).2.1
  refine (exact_condition.mpr ?_).2
  rintro ⟨_, a, b, x, y, ne, ha, hb, _, _, beginsA, beginsB⟩
  rw [Dict.get?_eq_some_iff] at ha hb
  simp only [twoOwners, List.mem_cons, Prod.mk.injEq, List.not_mem_nil, or_false] at ha hb
  have other : startsWith (strip collectorB.collectorPn)
      (strip (normalizePn (.str "E5000020000001"))) = false := by decide +kernel
  rcases ha with ⟨rfl, rfl⟩ | ⟨rfl, rfl⟩
  · rcases hb with ⟨rfl, rfl⟩ | ⟨rfl, rfl⟩
    · exact ne rfl
    · simp [other] at beginsB
  · simp [other] at beginsA

/-- Under the ten characters a heartbeat shows, whoever claimed first is reported as the owner. -/
theorem short_pn_lookup_depends_on_order :
    (SingleDurableOwner (twoOwners collectorA collectorB (by decide)) ∧
      SingleSocketOwner (twoOwners collectorA collectorB (by decide))) ∧
    ¬ ((twoOwners collectorA collectorB (by decide)).claims.UniqueMatch
        fun _ claim => claimMatchesPn (normalizePn (.str "E500002000")) claim) ∧
    ¬ OrderFree (twoOwners collectorA collectorB (by decide))
      fun reg => reg.ownerForPn (normalizePn (.str "E500002000")) := by
  refine ⟨collectors_single_owner _, ?_, ?_⟩
  · intro unique
    have same := unique "entry_a" "entry_b" collectorA collectorB (by decide) (by decide)
      (by decide +kernel) (by decide +kernel)
    exact absurd same (by decide)
  intro free
  have first : (twoOwners collectorA collectorB (by decide)).ownerForPn
      (normalizePn (.str "E500002000")) = "entry_a" := by decide +kernel
  have swapped : (twoOwners collectorB collectorA (by decide)).ownerForPn
      (normalizePn (.str "E500002000")) = "entry_b" := by decide +kernel
  have same := free (twoOwners collectorB collectorA (by decide)) (by
    intro owner
    simp only [twoOwners, Dict.get?, find]
    by_cases isA : collectorA.entryId = owner
    · have notB : collectorB.entryId ≠ owner := isA ▸ by decide
      simp [isA, notB]
    · simp [isA])
  simp only [first, swapped] at same
  exact absurd same (by decide)

end SessionRegistry
