import EybondLocal.SessionRegistry.Model

/-!
What `_coalesce` keeps of the observed sessions. A session joins the first kept one of the same
identity, and either of the two may stay. Sameness is not transitive, so a session that completes
a kept short PN may take the place that stood for other sessions as well.
-/
namespace SessionRegistry
open StripText PythonObject CollectorIdentity PrefixIdentity

/-- `_normalize` trims every PN it stores. -/
def Normalized (sessions : List CallbackSession) : Prop :=
  ∀ session ∈ sessions, strip session.collectorPn = session.collectorPn

def CallbackSession.sameAs (session other : CallbackSession) : Bool :=
  pnIsSameIdentity session.collectorPn other.collectorPn

structure KeepsIdentities (observed kept : List CallbackSession) : Prop where
  apart : kept.Pairwise fun session other => session.sameAs other = false
  unnamed : kept.filter (·.collectorPn = "") = observed.filter (·.collectorPn = "")
  represented : ∀ session ∈ observed, session.collectorPn ≠ "" →
    ∃ keeper ∈ kept, keeper.sameAs session = true
  separate : ∀ session ∈ observed, ∀ other ∈ observed,
    session.collectorPn ≠ "" → other.collectorPn ≠ "" → session.sameAs other = false →
    ∃ keeper ∈ kept, ∃ keeper' ∈ kept, keeper.sameAs session = true ∧
      keeper'.sameAs other = true ∧ keeper.sameAs keeper' = false

def Completes (observed kept : List CallbackSession) (session : CallbackSession) : Prop :=
  ∀ existing ∈ kept, existing.sameAs session = true →
    existing.collectorPn.length < session.collectorPn.length →
    ∀ other ∈ observed, existing.sameAs other = true → session.sameAs other = true

section Sameness
variable {session other existing : CallbackSession}

theorem sameAs_comm (session other : CallbackSession) :
    session.sameAs other = other.sameAs session := pnIsSameIdentity_comm _ _

theorem sameAs_named (same : session.sameAs other = true) :
    session.collectorPn ≠ "" ∧ other.collectorPn ≠ "" := by
  obtain ⟨left, right⟩ := pnIsSameIdentity_nonempty same
  constructor
  · intro empty
    rw [empty] at left
    exact left (by decide)
  · intro empty
    rw [empty] at right
    exact right (by decide)

theorem sameAs_self (trimmed : strip session.collectorPn = session.collectorPn)
    (named : session.collectorPn ≠ "") : session.sameAs session = true :=
  pnIsSameIdentity_self (by rwa [trimmed])

theorem sameAs_iff (trimmed : strip session.collectorPn = session.collectorPn)
    (trimmed' : strip other.collectorPn = other.collectorPn) :
    session.sameAs other = true ↔
      Compatible callbackPnPrefixMatchMinLen session.collectorPn.toList
        other.collectorPn.toList := by
  unfold CallbackSession.sameAs
  rw [pnIsSameIdentity_iff, SameIdentity, trimmed, trimmed']

theorem sameAs_of_longer (trimmed : strip session.collectorPn = session.collectorPn)
    (trimmed' : strip existing.collectorPn = existing.collectorPn)
    (trimmedOther : strip other.collectorPn = other.collectorPn)
    (same : existing.sameAs session = true)
    (shorter : existing.collectorPn.length ≤ session.collectorPn.length)
    (h : other.sameAs session = true) : other.sameAs existing = true := by
  rw [sameAs_iff trimmed' trimmed] at same
  rw [sameAs_iff trimmedOther trimmed] at h
  rw [sameAs_iff trimmedOther trimmed']
  exact compatible_of_extension same (by simpa [String.length_toList] using shorter) h

theorem sameAs_trans_longer (trimmed : strip session.collectorPn = session.collectorPn)
    (trimmed' : strip existing.collectorPn = existing.collectorPn)
    (trimmedOther : strip other.collectorPn = other.collectorPn)
    (same : session.sameAs existing = true)
    (shorter : session.collectorPn.length ≤ existing.collectorPn.length)
    (h : existing.sameAs other = true)
    (longer : existing.collectorPn.length ≤ other.collectorPn.length) :
    session.sameAs other = true := by
  rw [sameAs_iff trimmed trimmed'] at same
  rw [sameAs_iff trimmed' trimmedOther] at h
  rw [sameAs_iff trimmed trimmedOther]
  exact compatible_extend same (by simpa [String.length_toList] using shorter) h
    (by simpa [String.length_toList] using longer)

end Sameness

/-- What stands in the place of a kept session once another of its identity has come. -/
def mergedWith (existing session : CallbackSession) : CallbackSession :=
  if keepNew existing session then
    { session with collectorPn := preferFullPn existing.collectorPn session.collectorPn }
  else existing

theorem coalesceInto_cases (session : CallbackSession) (kept : List CallbackSession) :
    ((∀ existing ∈ kept, existing.sameAs session = false) ∧
      coalesceInto session kept = kept ++ [session]) ∨
    ∃ before existing after, kept = before ++ existing :: after ∧
      existing.sameAs session = true ∧
      coalesceInto session kept = before ++ mergedWith existing session :: after := by
  induction kept with
  | nil =>
    left
    exact ⟨by simp, rfl⟩
  | cons existing rest ih =>
    cases same : existing.sameAs session with
    | true =>
      right
      refine ⟨[], existing, rest, rfl, same, ?_⟩
      have joins : existing.collectorPn ≠ "" ∧
          pnIsSameIdentity existing.collectorPn session.collectorPn = true :=
        ⟨(sameAs_named same).1, same⟩
      unfold coalesceInto mergedWith
      rw [if_pos joins]
      split <;> rfl
    | false =>
      have passes : ¬ (existing.collectorPn ≠ "" ∧
          pnIsSameIdentity existing.collectorPn session.collectorPn = true) := by
        rintro ⟨_, joins⟩
        rw [CallbackSession.sameAs, joins] at same
        cases same
      have step : coalesceInto session (existing :: rest) =
          existing :: coalesceInto session rest := by
        rw [coalesceInto, if_neg passes]
      rcases ih with ⟨others, appended⟩ | ⟨before, found, after, split, joins, replaced⟩
      · left
        rw [step, appended]
        exact ⟨List.forall_mem_cons.mpr ⟨same, others⟩, rfl⟩
      · right
        rw [step, replaced, split]
        exact ⟨existing :: before, found, after, rfl, joins, rfl⟩

section Round
variable {session existing : CallbackSession}

theorem mergedWith_pn (trimmed : strip session.collectorPn = session.collectorPn)
    (trimmed' : strip existing.collectorPn = existing.collectorPn)
    (same : existing.sameAs session = true) :
    (mergedWith existing session).collectorPn = existing.collectorPn ∨
      existing.collectorPn.length < session.collectorPn.length ∧
        (mergedWith existing session).collectorPn = session.collectorPn := by
  obtain ⟨named, named'⟩ := sameAs_named same
  unfold mergedWith
  split
  · by_cases longer : existing.collectorPn.length < session.collectorPn.length
    · right
      refine ⟨longer, ?_⟩
      rcases preferFullPn_cases (by rwa [trimmed']) (by rwa [trimmed]) with ⟨_, notLonger⟩ | ⟨eq, _⟩
      · rw [trimmed, trimmed'] at notLonger
        omega
      · rw [eq, trimmed]
    · left
      rcases preferFullPn_cases (by rwa [trimmed']) (by rwa [trimmed]) with ⟨eq, _⟩ | ⟨eq, shorter⟩
      · rw [eq, trimmed']
      · rw [trimmed, trimmed'] at shorter
        have begins := (sameAs_iff trimmed' trimmed).mp same
        have equal := (compatible_shorter_begins begins (by
          simp only [String.length_toList]
          omega)).eq_of_length (by simp only [String.length_toList]; omega)
        rw [eq, trimmed]
        exact (String.toList_inj.mp equal).symm
  · exact Or.inl rfl

theorem mergedWith_trimmed (trimmed : strip session.collectorPn = session.collectorPn)
    (trimmed' : strip existing.collectorPn = existing.collectorPn)
    (same : existing.sameAs session = true) :
    strip (mergedWith existing session).collectorPn = (mergedWith existing session).collectorPn := by
  rcases mergedWith_pn trimmed trimmed' same with eq | ⟨_, eq⟩
  · rw [eq, trimmed']
  · rw [eq, trimmed]

theorem sameAs_congr {session existing : CallbackSession}
    (eq : session.collectorPn = existing.collectorPn) (other : CallbackSession) :
    session.sameAs other = existing.sameAs other := by
  unfold CallbackSession.sameAs
  rw [eq]

theorem mergedWith_sameAs (trimmed : strip session.collectorPn = session.collectorPn)
    (trimmed' : strip existing.collectorPn = existing.collectorPn)
    (same : existing.sameAs session = true) :
    (mergedWith existing session).sameAs session = true := by
  rcases mergedWith_pn trimmed trimmed' same with eq | ⟨_, eq⟩
  · rw [sameAs_congr eq, same]
  · rw [sameAs_congr eq, sameAs_self trimmed (sameAs_named same).2]

/-- What differs from a kept session differs from whatever stands in its place. -/
theorem mergedWith_apart {other : CallbackSession}
    (trimmed : strip session.collectorPn = session.collectorPn)
    (trimmed' : strip existing.collectorPn = existing.collectorPn)
    (trimmedOther : strip other.collectorPn = other.collectorPn)
    (same : existing.sameAs session = true) (apart : other.sameAs existing = false) :
    other.sameAs (mergedWith existing session) = false := by
  rw [sameAs_comm]
  rcases mergedWith_pn trimmed trimmed' same with eq | ⟨longer, eq⟩
  · rw [sameAs_congr eq, sameAs_comm, apart]
  · rw [sameAs_congr eq, sameAs_comm]
    by_contra h
    have again := sameAs_of_longer trimmed trimmed' trimmedOther same (by omega) (by simpa using h)
    rw [again] at apart
    cases apart

end Round

section Rounds
variable {observed kept : List CallbackSession} {session : CallbackSession}

/-- A round keeps the identities if it carries every keeper over, keeps different ones different
    and has a keeper of its own for the new session. -/
theorem keeps_extended {kept' : List CallbackSession} (keeps : KeepsIdentities observed kept)
    (carry : CallbackSession → CallbackSession)
    (apart : kept'.Pairwise fun session other => session.sameAs other = false)
    (unnamed : kept'.filter (·.collectorPn = "") = (observed ++ [session]).filter (·.collectorPn = ""))
    (carried : ∀ keeper ∈ kept, carry keeper ∈ kept' ∧
      ∀ other ∈ observed, keeper.sameAs other = true → (carry keeper).sameAs other = true)
    (distinct : ∀ keeper ∈ kept, ∀ keeper' ∈ kept, keeper.sameAs keeper' = false →
      (carry keeper).sameAs (carry keeper') = false)
    (own : session.collectorPn ≠ "" → ∃ mine ∈ kept', mine.sameAs session = true ∧
      ∀ other ∈ observed, other.collectorPn ≠ "" → other.sameAs session = false →
        ∃ keeper ∈ kept', keeper.sameAs other = true ∧ keeper.sameAs mine = false) :
    KeepsIdentities (observed ++ [session]) kept' := by
  constructor
  · exact apart
  · exact unnamed
  · intro other member named
    rcases List.mem_append.mp member with before | last
    · obtain ⟨keeper, held, same⟩ := keeps.represented other before named
      exact ⟨carry keeper, (carried keeper held).1, (carried keeper held).2 other before same⟩
    · rw [List.mem_singleton.mp last] at named ⊢
      obtain ⟨mine, held, same, _⟩ := own named
      exact ⟨mine, held, same⟩
  · intro one member other member' named named' different
    rcases List.mem_append.mp member with before | last
    · rcases List.mem_append.mp member' with before' | last'
      · obtain ⟨keeper, held, keeper', held', same, same', differ⟩ :=
          keeps.separate one before other before' named named' different
        exact ⟨carry keeper, (carried keeper held).1, carry keeper', (carried keeper' held').1,
          (carried keeper held).2 one before same, (carried keeper' held').2 other before' same',
          distinct keeper held keeper' held' differ⟩
      · rw [List.mem_singleton.mp last'] at named' different ⊢
        obtain ⟨mine, held, same, others⟩ := own named'
        obtain ⟨keeper, held', same', differ⟩ := others one before named different
        exact ⟨keeper, held', mine, held, same', same, differ⟩
    · rw [List.mem_singleton.mp last] at named different ⊢
      obtain ⟨mine, held, same, others⟩ := own named
      rcases List.mem_append.mp member' with before' | last'
      · rw [sameAs_comm] at different
        obtain ⟨keeper, held', same', differ⟩ := others other before' named' different
        rw [sameAs_comm] at differ
        exact ⟨mine, held, keeper, held', same, same', differ⟩
      · rw [List.mem_singleton.mp last'] at different
        have self : session.sameAs session = true :=
          pnIsSameIdentity_self (pnIsSameIdentity_nonempty same).2
        rw [self] at different
        cases different

theorem pairwise_appended (keeps : KeepsIdentities observed kept)
    (others : ∀ existing ∈ kept, existing.sameAs session = false) :
    (kept ++ [session]).Pairwise fun session other => session.sameAs other = false := by
  rw [List.pairwise_append]
  refine ⟨keeps.apart, List.pairwise_singleton _ _, ?_⟩
  intro keeper member other last
  rw [List.mem_singleton.mp last]
  exact others keeper member

theorem keeps_appended (keeps : KeepsIdentities observed kept)
    (trimmed : strip session.collectorPn = session.collectorPn)
    (others : ∀ existing ∈ kept, existing.sameAs session = false) :
    KeepsIdentities (observed ++ [session]) (kept ++ [session]) := by
  apply keeps_extended keeps id (pairwise_appended keeps others)
  · rw [List.filter_append, List.filter_append, keeps.unnamed]
  · intro keeper held
    exact ⟨List.mem_append_left _ held, fun other _ same => same⟩
  · intro keeper _ keeper' _ different
    exact different
  · intro named
    refine ⟨session, List.mem_append_right _ (List.mem_singleton_self _),
      sameAs_self trimmed named, ?_⟩
    intro other member named' _
    obtain ⟨keeper, held, same⟩ := keeps.represented other member named'
    exact ⟨keeper, List.mem_append_left _ held, same, others keeper held⟩

end Rounds

section Joins
variable {observed before after : List CallbackSession} {existing session : CallbackSession}

theorem kept_apart_iff (existing : CallbackSession) :
    ((before ++ existing :: after).Pairwise fun session other => session.sameAs other = false) ↔
      (∀ other ∈ before ++ after, existing.sameAs other = false) ∧
        (before ++ after).Pairwise fun session other => session.sameAs other = false := by
  rw [List.pairwise_middle (by
    intro x y apart
    rw [sameAs_comm]
    exact apart), List.pairwise_cons]

theorem mem_middle {other : CallbackSession} :
    other ∈ before ++ existing :: after ↔ other = existing ∨ other ∈ before ++ after := by
  simp only [List.mem_append, List.mem_cons]
  tauto

theorem unnamed_replaced {replacement : CallbackSession} (named : existing.collectorPn ≠ "")
    (named' : replacement.collectorPn ≠ "") :
    (before ++ replacement :: after).filter (·.collectorPn = "") =
      (before ++ existing :: after).filter (·.collectorPn = "") := by
  simp [named, named']

theorem joins_covers (observedTrimmed : Normalized observed)
    (trimmed : strip session.collectorPn = session.collectorPn)
    (trimmed' : strip existing.collectorPn = existing.collectorPn)
    (same : existing.sameAs session = true)
    (completes : Completes observed (before ++ existing :: after) session)
    {other : CallbackSession} (member : other ∈ observed) (of : existing.sameAs other = true) :
    session.sameAs other = true := by
  have trimmedOther := observedTrimmed other member
  by_cases longer : existing.collectorPn.length < session.collectorPn.length
  · exact completes existing (mem_middle.mpr (Or.inl rfl)) same longer other member of
  · by_cases shorter : other.collectorPn.length ≤ existing.collectorPn.length
    · rw [sameAs_comm] at same of
      exact sameAs_of_longer trimmed' trimmedOther trimmed of shorter same
    · rw [sameAs_comm] at same
      exact sameAs_trans_longer trimmed trimmed' trimmedOther same (by omega) of (by omega)

theorem keeps_joined (keeps : KeepsIdentities observed (before ++ existing :: after))
    (observedTrimmed : Normalized observed)
    (keptTrimmed : Normalized (before ++ existing :: after))
    (trimmed : strip session.collectorPn = session.collectorPn)
    (same : existing.sameAs session = true)
    (completes : Completes observed (before ++ existing :: after) session) :
    KeepsIdentities (observed ++ [session]) (before ++ mergedWith existing session :: after) := by
  have trimmed' := keptTrimmed existing (mem_middle.mpr (Or.inl rfl))
  obtain ⟨named, named'⟩ := sameAs_named same
  have mine := mergedWith_sameAs trimmed trimmed' same
  have self := sameAs_self trimmed' named
  obtain ⟨others, rest⟩ := (kept_apart_iff existing).mp keeps.apart
  have apart : ∀ other ∈ before ++ after, other.sameAs (mergedWith existing session) = false := by
    intro other member
    apply mergedWith_apart trimmed trimmed' (keptTrimmed other (mem_middle.mpr (Or.inr member))) same
    rw [sameAs_comm]
    exact others other member
  have different : ∀ other ∈ before ++ after, other.collectorPn ≠ existing.collectorPn := by
    intro other member equal
    have apart' := others other member
    rw [sameAs_comm, sameAs_congr equal, self] at apart'
    cases apart'
  apply keeps_extended keeps
    (fun keeper => if keeper.collectorPn = existing.collectorPn then mergedWith existing session
      else keeper)
  · rw [kept_apart_iff]
    refine ⟨fun other member => ?_, rest⟩
    rw [sameAs_comm]
    exact apart other member
  · rw [unnamed_replaced named (sameAs_named mine).1, keeps.unnamed, List.filter_append]
    simp [named']
  · intro keeper held
    rcases mem_middle.mp held with rfl | member
    · rw [if_pos rfl]
      refine ⟨mem_middle.mpr (Or.inl rfl), fun other observed of => ?_⟩
      rcases mergedWith_pn trimmed trimmed' same with eq | ⟨_, eq⟩
      · rw [sameAs_congr eq, of]
      · rw [sameAs_congr eq]
        exact joins_covers observedTrimmed trimmed trimmed' same completes observed of
    · rw [if_neg (different keeper member)]
      exact ⟨mem_middle.mpr (Or.inr member), fun other _ of => of⟩
  · intro keeper held keeper' held' differ
    rcases mem_middle.mp held with rfl | member
    · rcases mem_middle.mp held' with rfl | member'
      · rw [self] at differ
        cases differ
      · rw [if_pos rfl, if_neg (different keeper' member'), sameAs_comm]
        exact apart keeper' member'
    · rw [if_neg (different keeper member)]
      rcases mem_middle.mp held' with rfl | member'
      · rw [if_pos rfl]
        exact apart keeper member
      · rw [if_neg (different keeper' member')]
        exact differ
  · intro _
    refine ⟨mergedWith existing session, mem_middle.mpr (Or.inl rfl), mine, ?_⟩
    intro other member named'' differ
    obtain ⟨keeper, held, of⟩ := keeps.represented other member named''
    rcases mem_middle.mp held with rfl | elsewhere
    · have covered := joins_covers observedTrimmed trimmed trimmed' same completes member of
      rw [sameAs_comm, covered] at differ
      cases differ
    · exact ⟨keeper, mem_middle.mpr (Or.inr elsewhere), of, apart keeper elsewhere⟩

/-- Where the condition fails, what only the replaced or the refused session stood for has no
    keeper of its own any more. -/
theorem completes_of_keeps (keeps : KeepsIdentities observed (before ++ existing :: after))
    (observedTrimmed : Normalized observed)
    (keptTrimmed : Normalized (before ++ existing :: after))
    (trimmed : strip session.collectorPn = session.collectorPn)
    (same : existing.sameAs session = true)
    (later : KeepsIdentities (observed ++ [session])
      (before ++ mergedWith existing session :: after)) :
    Completes observed (before ++ existing :: after) session := by
  have trimmed' := keptTrimmed existing (mem_middle.mpr (Or.inl rfl))
  obtain ⟨others, _⟩ := (kept_apart_iff existing).mp keeps.apart
  have only : ∀ other ∈ before ++ after, existing.collectorPn.length < session.collectorPn.length →
      other.sameAs session = false := by
    intro other member longer
    by_contra joins
    have again := sameAs_of_longer trimmed trimmed'
      (keptTrimmed other (mem_middle.mpr (Or.inr member))) same (by omega) (by simpa using joins)
    rw [sameAs_comm, others other member] at again
    cases again
  intro joined held joins longer other member of
  have place : joined = existing := by
    rcases mem_middle.mp held with equal | elsewhere
    · exact equal
    · have again := sameAs_of_longer trimmed (keptTrimmed joined held) trimmed' joins (by omega) same
      rw [others joined elsewhere] at again
      cases again
  subst place
  by_contra differ
  rw [Bool.not_eq_true] at differ
  have named := (sameAs_named of).2
  have trimmedOther := observedTrimmed other member
  have last : session ∈ observed ++ [session] :=
    List.mem_append_right _ (List.mem_singleton_self _)
  obtain ⟨mine, heldMine, theirs, heldTheirs, ofSession, ofOther, apart⟩ := later.separate session
    last other (List.mem_append_left _ member) (sameAs_named same).2 named differ
  rcases mem_middle.mp heldMine with rfl | elsewhere
  · rcases mem_middle.mp heldTheirs with rfl | elsewhere'
    · have self := sameAs_self (mergedWith_trimmed trimmed trimmed' same) (sameAs_named ofSession).1
      rw [self] at apart
      cases apart
    · have apart' := others theirs elsewhere'
      have shorter : other.collectorPn.length ≤ joined.collectorPn.length := by
        by_contra fuller
        have again := sameAs_of_longer trimmedOther trimmed'
          (keptTrimmed theirs (mem_middle.mpr (Or.inr elsewhere'))) of (by omega) ofOther
        rw [sameAs_comm, again] at apart'
        cases apart'
      rw [sameAs_comm] at of
      have covered := sameAs_trans_longer trimmedOther trimmed' trimmed of shorter same (by omega)
      rw [sameAs_comm, differ] at covered
      cases covered
  · rw [only mine elsewhere longer] at ofSession
    cases ofSession

end Joins

section Run
variable {observed kept : List CallbackSession} {session : CallbackSession}

theorem normalized_append {sessions others : List CallbackSession} :
    Normalized (sessions ++ others) ↔ Normalized sessions ∧ Normalized others :=
  List.forall_mem_append

theorem normalized_step (keptTrimmed : Normalized kept)
    (trimmed : strip session.collectorPn = session.collectorPn) :
    Normalized (coalesceStep kept session) := by
  have alone : Normalized [session] := by
    intro other member
    rw [List.mem_singleton.mp member, trimmed]
  unfold coalesceStep
  split
  · exact normalized_append.mpr ⟨keptTrimmed, alone⟩
  · rcases coalesceInto_cases session kept with ⟨_, appended⟩ | ⟨before, existing, after, split, same, replaced⟩
    · rw [appended]
      exact normalized_append.mpr ⟨keptTrimmed, alone⟩
    · rw [replaced]
      rw [split] at keptTrimmed
      have trimmed' := keptTrimmed existing (mem_middle.mpr (Or.inl rfl))
      intro other member
      rcases mem_middle.mp member with rfl | elsewhere
      · exact mergedWith_trimmed trimmed trimmed' same
      · exact keptTrimmed other (mem_middle.mpr (Or.inr elsewhere))

theorem keeps_step_iff (keeps : KeepsIdentities observed kept) (observedTrimmed : Normalized observed)
    (keptTrimmed : Normalized kept) (trimmed : strip session.collectorPn = session.collectorPn) :
    KeepsIdentities (observed ++ [session]) (coalesceStep kept session) ↔
      Completes observed kept session := by
  have vacuous (others : ∀ existing ∈ kept, existing.sameAs session = false) :
      KeepsIdentities (observed ++ [session]) (kept ++ [session]) ↔
        Completes observed kept session := by
    refine iff_of_true (keeps_appended keeps trimmed others) ?_
    intro existing held same
    rw [others existing held] at same
    cases same
  unfold coalesceStep
  split
  · rename_i unnamed
    apply vacuous
    intro existing _
    by_contra same
    exact (sameAs_named (by simpa using same)).2 unnamed
  · rcases coalesceInto_cases session kept with
      ⟨others, appended⟩ | ⟨before, existing, after, rfl, same, replaced⟩
    · rw [appended]
      exact vacuous others
    · rw [replaced]
      constructor
      · exact completes_of_keeps keeps observedTrimmed keptTrimmed trimmed same
      · exact keeps_joined keeps observedTrimmed keptTrimmed trimmed same

theorem coalesce_snoc (sessions : List CallbackSession) (session : CallbackSession) :
    coalesce (sessions ++ [session]) = coalesceStep (coalesce sessions) session := by
  unfold coalesce
  rw [List.foldl_append]
  rfl

theorem normalized_coalesce {sessions : List CallbackSession} (trimmed : Normalized sessions) :
    Normalized (coalesce sessions) := by
  induction sessions using List.reverseRecOn with
  | nil => exact trimmed
  | append_singleton sessions session ih =>
    obtain ⟨earlier, last⟩ := normalized_append.mp trimmed
    rw [coalesce_snoc]
    exact normalized_step (ih earlier) (last session (List.mem_singleton_self _))

theorem keepsIdentities_nil : KeepsIdentities [] (coalesce []) := by
  constructor
  · exact List.Pairwise.nil
  · rfl
  · intro session member
    cases member
  · intro session member
    cases member

end Run

/-- Coalescing keeps the identities of every beginning of a list exactly where each session that
    completes a kept PN is the identity of all that was observed of it before. -/
theorem keepsIdentities_iff (sessions : List CallbackSession) (trimmed : Normalized sessions) :
    (∀ earlier, earlier <+: sessions → KeepsIdentities earlier (coalesce earlier)) ↔
      ∀ earlier session, earlier ++ [session] <+: sessions →
        Completes earlier (coalesce earlier) session := by
  induction sessions using List.reverseRecOn with
  | nil =>
    constructor
    · intro _ earlier session begins
      simp at begins
    · intro _ earlier begins
      rw [List.prefix_nil.mp begins]
      exact keepsIdentities_nil
  | append_singleton sessions last ih =>
    obtain ⟨trimmedEarlier, trimmedLast⟩ := normalized_append.mp trimmed
    have step (keeps : KeepsIdentities sessions (coalesce sessions)) :=
      keeps_step_iff keeps trimmedEarlier (normalized_coalesce trimmedEarlier)
        (trimmedLast last (List.mem_singleton_self _))
    constructor
    · intro keeps earlier session begins
      have keepsEarlier : ∀ earlier, earlier <+: sessions →
          KeepsIdentities earlier (coalesce earlier) := fun earlier h =>
        keeps earlier (h.trans (List.prefix_append _ _))
      rcases List.prefix_concat_iff.mp begins with equal | shorter
      · obtain ⟨rfl, sameLast⟩ := List.append_inj' equal rfl
        obtain rfl := List.singleton_inj.mp sameLast
        have final := keeps _ List.prefix_rfl
        rw [coalesce_snoc] at final
        exact (step (keepsEarlier _ List.prefix_rfl)).mp final
      · exact (ih trimmedEarlier).mp keepsEarlier earlier session shorter
    · intro completes
      have keepsEarlier := (ih trimmedEarlier).mpr fun earlier session h =>
        completes earlier session (h.trans (List.prefix_append _ _))
      intro earlier begins
      rcases List.prefix_concat_iff.mp begins with rfl | shorter
      · rw [coalesce_snoc]
        exact (step (keepsEarlier _ List.prefix_rfl)).mpr (completes _ _ List.prefix_rfl)
      · exact keepsEarlier earlier shorter

/-- A session as `_normalize` observes it with this PN, read from this source. -/
def observedAs (sessionId pn source : String) : CallbackSession where
  sessionId := sessionId
  peerIp := "192.0.2.7"
  peerPort := 40001
  listenerPort := 8899
  protocolShape := ""
  sessionProtocol := ""
  collectorPn := pn
  identitySource := source
  state := stateFromInventory "" source
  ownerEntryId := ""
  raw := { sessionId := .str sessionId }

def completedTwice : List CallbackSession :=
  [observedAs "s1" "Q0123456789" "at_dtupn", observedAs "s2" "Q0123456789ABC" "heartbeat",
    observedAs "s3" "Q0123456789XYZ" "at_dtupn"]

theorem keepsIdentities_iff_completedTwice :
    (∀ earlier, earlier <+: completedTwice → KeepsIdentities earlier (coalesce earlier)) ↔
      ∀ earlier session, earlier ++ [session] <+: completedTwice →
        Completes earlier (coalesce earlier) session :=
  keepsIdentities_iff completedTwice (by
    intro session member
    revert session
    decide +kernel)

/-- The last session takes the place that stood for the second one too. -/
theorem completedTwice_loses : ¬ KeepsIdentities completedTwice (coalesce completedTwice) := by
  intro keeps
  obtain ⟨keeper, held, same⟩ := keeps.represented (observedAs "s2" "Q0123456789ABC" "heartbeat")
    (by simp [completedTwice]) (by decide)
  have kept : (coalesce completedTwice).map CallbackSession.collectorPn = ["Q0123456789XYZ"] := by
    decide +kernel
  have pn : keeper.collectorPn = "Q0123456789XYZ" := by
    have member := List.mem_map_of_mem (f := CallbackSession.collectorPn) held
    rw [kept] at member
    exact List.mem_singleton.mp member
  have apart : pnIsSameIdentity "Q0123456789XYZ" "Q0123456789ABC" = false := by decide +kernel
  rw [CallbackSession.sameAs, pn] at same
  exact absurd (same.symm.trans apart) (by decide)

end SessionRegistry
