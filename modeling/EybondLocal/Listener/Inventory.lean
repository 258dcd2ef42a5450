import EybondLocal.CollectorIdentity
import EybondLocal.Library.Execution

/-!
The inventory entry of one socket session of the shared listener
(`collector/transport/listener.py`), and what its identity observations add up to.
The PN and its source are merged by two separate rules: the longest spelling that
does not contradict the first one, and the strongest source.
-/
namespace Listener
open StripText PythonObject CollectorIdentity PrefixIdentity Execution

inductive SessionState where
  | pending
  | waitingForIdentity
  | probingIdentity (sessionProtocol : String)
  | identityProbeTimeout
  | identityProbeFailed
  | exclusiveRouteSilent
  | waitingForExclusiveRoute
  | parkedWaitingForIdentity
  | waitingForMoreInitialBytes
  | parkedNoAtOwner
  | parkedNoPayloadOwner
  | routedAtText
  | routedFramed
  | claimed
  | routeIdentityMismatch
  | waitingForRouteIdentity
  | routeIdentityReadFailed
  | probingRouteIdentity (probeKind : String)
  | routeIdentityProbeTimeout
  | routeIdentityProbeFailed
  | parkedIdentifiedStrong
  | parkedEvicted
  | parkedExpired
  | parkedPeerClosed
  | parkedReadFailed
  | closedNoPayload
  | closedDisconnected
  | closedIdentityNegotiationRetry
  deriving DecidableEq, Repr

namespace SessionState

def isClosed : SessionState → Bool
  | closedNoPayload | closedDisconnected | closedIdentityNegotiationRetry => true
  | _ => false

def isTerminal (state : SessionState) : Bool :=
  state.isClosed || state = parkedEvicted || state = parkedExpired || state = parkedPeerClosed ||
    state = parkedReadFailed

end SessionState

inductive ProtocolShape where
  | unknown
  | atText
  | eybondFramed
  | rawTcp
  deriving DecidableEq, Repr

structure Entry where
  sessionId : String
  remoteIp : String
  remotePort : Option Int
  state : SessionState := .pending
  protocolShape : ProtocolShape := .unknown
  firstBytesLen : Nat := 0
  collectorPn : String := ""
  collectorIdentitySource : String := ""
  collectorIdentitySources : List String := []
  observedProtocolShapes : List ProtocolShape := []
  deriving DecidableEq, Repr

/-- The part of `_mark_session_identity` that updates the entry. -/
def Entry.markIdentity (entry : Entry) (collectorPn : PyObj) (source : String) : Entry :=
  let pn := validatedCollectorPn collectorPn
  if pn = "" then entry
  else
    let entry := { entry with collectorPn := reconcilePn entry.collectorPn pn }
    if source = "" then entry
    else
      { entry with
        collectorIdentitySources :=
          if source ∈ entry.collectorIdentitySources then entry.collectorIdentitySources
          else source :: entry.collectorIdentitySources
        collectorIdentitySource := preferIdentitySource entry.collectorIdentitySource source }

theorem validated_trimmed (value : PyObj) :
    strip (validatedCollectorPn value) = validatedCollectorPn value := by
  unfold validatedCollectorPn
  split
  · split
    · simp
    · rename_i exact
      split
      · exact (not_ne_iff.mp exact).symm
      · simp
  · simp

theorem reconcilePn_cases {current candidate : String} (trimmedCurrent : strip current = current)
    (trimmedCandidate : strip candidate = candidate) (observed : candidate ≠ "") :
    (reconcilePn current candidate = candidate ∧
      (current = "" ∨ current.toList <+: candidate.toList)) ∨
    (reconcilePn current candidate = current ∧ current ≠ "" ∧
      ¬ current.toList <+: candidate.toList) := by
  simp only [reconcilePn, trimmedCurrent, trimmedCandidate, observed, ↓reduceIte]
  by_cases unseen : current = ""
  · simp [unseen]
  by_cases equal : current = candidate
  · simp [equal, observed]
  by_cases extended : startsWith candidate current = true
  · have begins := (startsWith_iff _ _).mp extended
    simp [unseen, equal, extended, begins]
  · have apart : ¬ current.toList <+: candidate.toList := fun begins =>
      extended ((startsWith_iff _ _).mpr begins)
    simp [unseen, equal, extended, apart]

theorem identitySourceIsStrong_strip (source : String) :
    identitySourceIsStrong (strip source) = identitySourceIsStrong source := by
  simp [identitySourceIsStrong]

theorem preferIdentitySource_strong (current candidate : String) :
    identitySourceIsStrong (preferIdentitySource current candidate) =
      (identitySourceIsStrong current || identitySourceIsStrong candidate) := by
  simp only [preferIdentitySource, identitySourceIsStrong_strip]
  cases here : identitySourceIsStrong current with
  | true => simp [identitySourceIsStrong_strip, here]
  | false =>
    cases there : identitySourceIsStrong candidate with
    | true => simp [identitySourceIsStrong_strip, there]
    | false =>
      simp only [Bool.false_eq_true, ↓reduceIte, Bool.or_self]
      split <;> simp [identitySourceIsStrong_strip, here, there]

structure Observed where
  entry : Entry
  strongPns : List String

/-- One call of `_mark_session_identity` for the session. -/
structure Observation where
  collectorPn : PyObj
  source : String

def observe (s : Observed) (o : Observation) : Observed where
  entry := s.entry.markIdentity o.collectorPn o.source
  strongPns :=
    if validatedCollectorPn o.collectorPn ≠ "" ∧ identitySourceIsStrong o.source = true then
      validatedCollectorPn o.collectorPn :: s.strongPns
    else s.strongPns

def Observed.fresh (sessionId remoteIp : String) (remotePort : Option Int) : Observed :=
  ⟨{ sessionId, remoteIp, remotePort }, []⟩

def StronglyBacked (s : Observed) : Prop :=
  identitySourceIsStrong s.entry.collectorIdentitySource = true →
    ∃ pn ∈ s.strongPns, pnIsSameIdentity s.entry.collectorPn pn = true

/-- The observation does not attach a strong source to a PN of another identity: a first strong
    report must name the identity observed so far, or extend its spelling, and a weak report must
    not extend a spelling that is too short to identify. -/
def Consistent (s : Observed) (o : Observation) : Prop :=
  let pn := validatedCollectorPn o.collectorPn
  if pn = "" then True
  else if identitySourceIsStrong o.source = true then
    identitySourceIsStrong s.entry.collectorIdentitySource = true ∨
      startsWith pn s.entry.collectorPn = true ∨
      pnIsSameIdentity s.entry.collectorPn pn = true
  else
    identitySourceIsStrong s.entry.collectorIdentitySource = false ∨
      callbackPnPrefixMatchMinLen ≤ s.entry.collectorPn.length ∨
      ¬ (startsWith pn s.entry.collectorPn = true ∧ pn ≠ s.entry.collectorPn)

/-- Every strong PN begins the published one or diverges from it, and there is one exactly when
    the published source is strong. -/
structure Recorded (s : Observed) : Prop where
  trimmed : strip s.entry.collectorPn = s.entry.collectorPn
  strong_trimmed : ∀ pn ∈ s.strongPns, strip pn = pn ∧ pn ≠ ""
  source : identitySourceIsStrong s.entry.collectorIdentitySource = true ↔ s.strongPns ≠ []
  observed : s.strongPns ≠ [] → s.entry.collectorPn ≠ ""
  placed : ∀ pn ∈ s.strongPns, pn.toList <+: s.entry.collectorPn.toList ∨
    ¬ (pn.toList <+: s.entry.collectorPn.toList ∨ s.entry.collectorPn.toList <+: pn.toList)

theorem markIdentity_pn (entry : Entry) {collectorPn : PyObj}
    (valid : validatedCollectorPn collectorPn ≠ "") (source : String) :
    (entry.markIdentity collectorPn source).collectorPn =
      reconcilePn entry.collectorPn (validatedCollectorPn collectorPn) := by
  simp only [Entry.markIdentity, valid, ↓reduceIte]
  split <;> rfl

theorem markIdentity_strong (entry : Entry) {collectorPn : PyObj}
    (valid : validatedCollectorPn collectorPn ≠ "") (source : String) :
    identitySourceIsStrong (entry.markIdentity collectorPn source).collectorIdentitySource =
      (identitySourceIsStrong entry.collectorIdentitySource || identitySourceIsStrong source) := by
  simp only [Entry.markIdentity, valid, ↓reduceIte]
  split
  · rename_i unnamed
    have weak : identitySourceIsStrong "" = false := by decide
    simp [unnamed, weak]
  · rw [preferIdentitySource_strong]

theorem observe_invalid {s : Observed} {o : Observation}
    (invalid : validatedCollectorPn o.collectorPn = "") : observe s o = s := by
  simp [observe, Entry.markIdentity, invalid]

theorem diverging_extension {pn current full : List Char} (extended : current <+: full)
    (apart : ¬ (pn <+: current ∨ current <+: pn)) : ¬ (pn <+: full ∨ full <+: pn) := by
  rintro (begins | continues)
  · exact apart (List.prefix_or_prefix_of_prefix begins extended)
  · exact apart (.inr (extended.trans continues))

/-- A valid observation leaves the old PN or the new one; the new one only if it extends the
    old. -/
theorem observe_pn_cases {s : Observed} (recorded : Recorded s) {o : Observation}
    (valid : validatedCollectorPn o.collectorPn ≠ "") :
    ((observe s o).entry.collectorPn = validatedCollectorPn o.collectorPn ∧
      s.entry.collectorPn.toList <+: (validatedCollectorPn o.collectorPn).toList) ∨
    ((observe s o).entry.collectorPn = s.entry.collectorPn ∧ s.entry.collectorPn ≠ "" ∧
      ¬ s.entry.collectorPn.toList <+: (validatedCollectorPn o.collectorPn).toList) := by
  have pn := markIdentity_pn s.entry valid o.source
  rcases reconcilePn_cases recorded.trimmed (validated_trimmed o.collectorPn) valid with
    ⟨taken, reason⟩ | kept
  · left
    refine ⟨pn.trans taken, ?_⟩
    rcases reason with unseen | begins
    · simp [unseen]
    · exact begins
  · exact .inr ⟨pn.trans kept.1, kept.2⟩

theorem recorded_observe {s : Observed} (recorded : Recorded s) (o : Observation) :
    Recorded (observe s o) := by
  by_cases valid : validatedCollectorPn o.collectorPn = ""
  · rwa [observe_invalid valid]
  have pns : ∀ pn ∈ (observe s o).strongPns,
      pn = validatedCollectorPn o.collectorPn ∨ pn ∈ s.strongPns := by
    intro pn member
    simp only [observe] at member
    split at member
    · exact List.mem_cons.mp member
    · exact .inr member
  have strong : identitySourceIsStrong (observe s o).entry.collectorIdentitySource =
      (identitySourceIsStrong s.entry.collectorIdentitySource || identitySourceIsStrong o.source) :=
    markIdentity_strong s.entry valid o.source
  have cases := observe_pn_cases recorded valid
  have nonempty : (observe s o).entry.collectorPn ≠ "" := by
    rcases cases with ⟨taken, -⟩ | ⟨kept, seen, -⟩
    · rw [taken]
      exact valid
    · rw [kept]
      exact seen
  refine ⟨?_, ?_, ?_, fun _ => nonempty, ?_⟩
  · rcases cases with ⟨taken, -⟩ | ⟨kept, -⟩
    · rw [taken]
      exact validated_trimmed o.collectorPn
    · rw [kept]
      exact recorded.trimmed
  · intro pn member
    rcases pns pn member with rfl | earlier
    · exact ⟨validated_trimmed o.collectorPn, valid⟩
    · exact recorded.strong_trimmed pn earlier
  · rw [strong, Bool.or_eq_true, recorded.source]
    by_cases source : identitySourceIsStrong o.source = true
    · simp [observe, valid, source]
    · simp [observe, source]
  · intro pn member
    rcases cases with ⟨taken, extended⟩ | ⟨kept, -, notExtended⟩
    · rw [taken]
      rcases pns pn member with rfl | earlier
      · exact .inl List.prefix_rfl
      · rcases recorded.placed pn earlier with begins | apart
        · exact .inl (begins.trans extended)
        · exact .inr (diverging_extension extended apart)
    · rw [kept]
      rcases pns pn member with rfl | earlier
      · by_cases begins : (validatedCollectorPn o.collectorPn).toList <+: s.entry.collectorPn.toList
        · exact .inl begins
        · exact .inr fun comparable => comparable.elim begins notExtended
      · exact recorded.placed pn earlier

theorem same_strong_begins {s : Observed} (recorded : Recorded s) {pn : String}
    (member : pn ∈ s.strongPns) (same : pnIsSameIdentity s.entry.collectorPn pn = true) :
    pn.toList <+: s.entry.collectorPn.toList ∧
      (s.entry.collectorPn = pn ∨ callbackPnPrefixMatchMinLen ≤ pn.length) := by
  rw [pnIsSameIdentity_iff, SameIdentity, recorded.trimmed, (recorded.strong_trimmed pn member).1]
    at same
  obtain ⟨-, -, equal | ⟨long, comparable⟩⟩ := same
  · have equalText := String.toList_inj.mp equal
    exact ⟨by rw [equal], .inl equalText⟩
  · have short : callbackPnPrefixMatchMinLen ≤ pn.length := by
      simp only [String.length_toList] at long
      omega
    rcases recorded.placed pn member with begins | apart
    · exact ⟨begins, .inr short⟩
    · exact absurd comparable.symm apart

theorem same_of_begins {full pn : String} (trimmedFull : strip full = full)
    (trimmedPn : strip pn = pn) (observed : pn ≠ "")
    (long : callbackPnPrefixMatchMinLen ≤ pn.length) (begins : pn.toList <+: full.toList) :
    pnIsSameIdentity full pn = true := by
  rw [pnIsSameIdentity_iff, SameIdentity, trimmedFull, trimmedPn]
  have longer := begins.length_le
  have nonempty : pn.toList ≠ [] := by simpa using observed
  refine ⟨?_, nonempty, .inr ⟨?_, .inr begins⟩⟩
  · intro empty
    rw [empty] at begins
    exact nonempty (List.prefix_nil.mp begins)
  · simp only [String.length_toList] at longer ⊢
    omega

theorem backed_strong_step {s : Observed} (recorded : Recorded s) (backed : StronglyBacked s)
    {o : Observation} (valid : validatedCollectorPn o.collectorPn ≠ "")
    (strong : identitySourceIsStrong o.source = true) :
    StronglyBacked (observe s o) ↔ Consistent s o := by
  let pn := validatedCollectorPn o.collectorPn
  have self : pnIsSameIdentity pn pn = true :=
    pnIsSameIdentity_self (by rw [validated_trimmed]; exact valid)
  have published : identitySourceIsStrong (observe s o).entry.collectorIdentitySource = true := by
    rw [show (observe s o).entry.collectorIdentitySource =
      (s.entry.markIdentity o.collectorPn o.source).collectorIdentitySource from rfl,
      markIdentity_strong s.entry valid, strong, Bool.or_true]
  have reported : (observe s o).strongPns = pn :: s.strongPns := by simp [observe, valid, strong, pn]
  have condition : Consistent s o ↔
      identitySourceIsStrong s.entry.collectorIdentitySource = true ∨
        startsWith pn s.entry.collectorPn = true ∨
        pnIsSameIdentity s.entry.collectorPn pn = true := by
    simp only [Consistent, valid, strong, ↓reduceIte, pn]
  rw [condition]
  constructor
  · intro after
    obtain ⟨found, member, same⟩ := after published
    rw [reported] at member
    by_cases already : identitySourceIsStrong s.entry.collectorIdentitySource = true
    · exact .inl already
    -- no strong PN was reported before, so the witness is the one reported now
    have none : s.strongPns = [] := by
      by_contra some
      exact already (recorded.source.mpr some)
    obtain rfl : found = pn := by simpa [none] using member
    rcases observe_pn_cases recorded valid with ⟨-, extended⟩ | ⟨kept, -⟩
    · exact .inr (.inl ((startsWith_iff _ _).mpr extended))
    · rw [kept] at same
      exact .inr (.inr same)
  · intro consistent _
    rcases observe_pn_cases recorded valid with ⟨taken, -⟩ | ⟨kept, -, notExtended⟩
    · rw [taken, reported]
      exact ⟨pn, List.mem_cons_self, self⟩
    · rw [kept, reported]
      rcases consistent with already | extended | same
      · obtain ⟨earlier, member, same⟩ := backed already
        exact ⟨earlier, List.mem_cons_of_mem _ member, same⟩
      · exact absurd ((startsWith_iff _ _).mp extended) notExtended
      · exact ⟨pn, List.mem_cons_self, same⟩

theorem backed_weak_step {s : Observed} (recorded : Recorded s) (backed : StronglyBacked s)
    {o : Observation} (valid : validatedCollectorPn o.collectorPn ≠ "")
    (weak : identitySourceIsStrong o.source = false) :
    StronglyBacked (observe s o) ↔ Consistent s o := by
  let pn := validatedCollectorPn o.collectorPn
  have published : identitySourceIsStrong (observe s o).entry.collectorIdentitySource =
      identitySourceIsStrong s.entry.collectorIdentitySource := by
    rw [show (observe s o).entry.collectorIdentitySource =
      (s.entry.markIdentity o.collectorPn o.source).collectorIdentitySource from rfl,
      markIdentity_strong s.entry valid, weak, Bool.or_false]
  have reported : (observe s o).strongPns = s.strongPns := by simp [observe, weak]
  have condition : Consistent s o ↔
      identitySourceIsStrong s.entry.collectorIdentitySource = false ∨
        callbackPnPrefixMatchMinLen ≤ s.entry.collectorPn.length ∨
        ¬ (startsWith pn s.entry.collectorPn = true ∧ pn ≠ s.entry.collectorPn) := by
    simp only [Consistent, valid, weak, ↓reduceIte, Bool.false_eq_true, pn]
  rw [condition]
  by_cases strong : identitySourceIsStrong s.entry.collectorIdentitySource = true
  swap
  · have stillWeak : ¬ identitySourceIsStrong (observe s o).entry.collectorIdentitySource = true := by
      rwa [published]
    exact ⟨fun _ => .inl (by simpa using strong), fun _ after => absurd after stillWeak⟩
  obtain ⟨earlier, member, same⟩ := backed strong
  obtain ⟨begins, short⟩ := same_strong_begins recorded member same
  constructor
  · intro after
    by_contra refused
    simp only [not_or, not_not] at refused
    obtain ⟨-, brief, extended, proper⟩ := refused
    have extension := (startsWith_iff _ _).mp extended
    obtain ⟨taken, -⟩ : (observe s o).entry.collectorPn = pn ∧ _ :=
      (observe_pn_cases recorded valid).resolve_right fun kept => kept.2.2 extension
    obtain ⟨other, reportedOther, sameOther⟩ := after (by rw [published]; exact strong)
    have otherMember : other ∈ s.strongPns := reported ▸ reportedOther
    obtain ⟨beginsOther, shortOther⟩ :=
      same_strong_begins (recorded_observe recorded o) reportedOther sameOther
    rw [taken] at beginsOther shortOther
    -- a strong PN long enough, or equal to the extension, cannot begin the short spelling
    have length : s.entry.collectorPn.length < other.length := by
      rcases shortOther with equal | long
      · have proper' : s.entry.collectorPn.toList.length < pn.toList.length := by
          rcases Nat.lt_or_ge s.entry.collectorPn.toList.length pn.toList.length with less | more
          · exact less
          · have whole := extension.eq_of_length_le more
            exact absurd (String.toList_inj.mp whole).symm proper
        rw [String.length_toList, String.length_toList, equal] at proper'
        exact proper'
      · omega
    rcases recorded.placed other otherMember with inside | apart
    · have bound := inside.length_le
      simp only [String.length_toList] at bound
      omega
    · exact apart (List.prefix_or_prefix_of_prefix beginsOther extension)
  · intro consistent _
    rw [reported]
    rcases observe_pn_cases recorded valid with ⟨taken, extended⟩ | ⟨kept, -⟩
    · rw [taken]
      rcases consistent with notStrong | long | unextended
      · rw [strong] at notStrong
        cases notStrong
      · have longEarlier : callbackPnPrefixMatchMinLen ≤ earlier.length := by
          rcases short with equal | long'
          · rwa [← equal]
          · exact long'
        exact ⟨earlier, member, same_of_begins (validated_trimmed _)
          (recorded.strong_trimmed earlier member).1 (recorded.strong_trimmed earlier member).2
          longEarlier (begins.trans extended)⟩
      · have equal : pn = s.entry.collectorPn := by
          by_contra proper
          exact unextended ⟨(startsWith_iff _ _).mpr extended, proper⟩
        rw [show validatedCollectorPn o.collectorPn = pn from rfl, equal]
        exact ⟨earlier, member, same⟩
    · rw [kept]
      exact ⟨earlier, member, same⟩

theorem backed_step {s : Observed} (recorded : Recorded s) (backed : StronglyBacked s)
    (o : Observation) : StronglyBacked (observe s o) ↔ Consistent s o := by
  by_cases valid : validatedCollectorPn o.collectorPn = ""
  · rw [observe_invalid valid]
    simp [Consistent, valid, backed]
  · cases strength : identitySourceIsStrong o.source with
    | true => exact backed_strong_step recorded backed valid strength
    | false => exact backed_weak_step recorded backed valid strength

/-- The published pair is backed after every observation exactly when every observation is
    consistent with the entry it meets. -/
theorem strongly_backed_iff_consistent (sessionId remoteIp : String) (remotePort : Option Int)
    (observations : List Observation) :
    EveryState observe StronglyBacked (Observed.fresh sessionId remoteIp remotePort) observations ↔
      EveryStep observe Consistent (Observed.fresh sessionId remoteIp remotePort) observations := by
  have weak : identitySourceIsStrong "" = false := by decide
  apply everyState_iff_everyStep (fun s o (recorded : Recorded s) => recorded_observe recorded o)
    (fun s o recorded backed => backed_step recorded backed o)
  · exact ⟨by simp [Observed.fresh], by simp [Observed.fresh], by simp [Observed.fresh, weak],
      by simp [Observed.fresh], by simp [Observed.fresh]⟩
  · intro strong
    simp [Observed.fresh, weak] at strong

def foreignChallenge : List Observation :=
  [⟨.str "HEARTBEAT-0001", "framed_heartbeat"⟩, ⟨.str "CHALLENGED-0002", "fc2_parameter_2"⟩]

theorem foreign_challenge_unbacked :
    ¬ ∀ (sessionId remoteIp : String) (remotePort : Option Int) (observations : List Observation),
      EveryState observe StronglyBacked (Observed.fresh sessionId remoteIp remotePort)
        observations := by
  intro always
  have backed := everyState_run (always "listener-8899-1" "192.0.2.7" none foreignChallenge)
  have published : identitySourceIsStrong (run observe (Observed.fresh "listener-8899-1" "192.0.2.7"
      none) foreignChallenge).entry.collectorIdentitySource = true := by decide +kernel
  have unbacked : ∀ pn ∈ (run observe (Observed.fresh "listener-8899-1" "192.0.2.7" none)
      foreignChallenge).strongPns, pnIsSameIdentity (run observe (Observed.fresh "listener-8899-1"
      "192.0.2.7" none) foreignChallenge).entry.collectorPn pn = false := by decide +kernel
  obtain ⟨pn, member, same⟩ := backed published
  rw [unbacked pn member] at same
  cases same

end Listener
