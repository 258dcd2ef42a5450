import EybondLocal.Library.OrderedDict
import EybondLocal.Library.PythonObject
import EybondLocal.Library.SortedItems

/-!
The negative cache for commands an inverter does not answer (`drivers/command_support.py`), and
what its strikes come to after any history of calls: the commits since the command was last
answered, cleared or seeded whose window both failed it and answered something, up to four.
-/
namespace CommandSupport
open StripText PythonObject OrderedDict

def unsupportedCommandStrikes : Nat := 4

/-- The entries of the runtime state the cache keeps: the table, the staged failures and the
    success flag of the cycle. -/
structure Cache where
  table : Dict String Nat
  pending : List String
  cycleHadSuccess : Bool

def Cache.empty : Cache := ⟨Dict.empty, [], false⟩

namespace Cache

def strikes (cache : Cache) (key : String) : Nat := (cache.table.get? key).getD 0

def commandSkippedAsUnsupported (cache : Cache) (key : String) : Bool :=
  unsupportedCommandStrikes ≤ cache.strikes key

def recordCommandFailure (cache : Cache) (key : String) : Cache :=
  if key ∈ cache.pending then cache else { cache with pending := cache.pending ++ [key] }

def recordCommandSuccess (cache : Cache) (key : String) : Cache :=
  { cache with cycleHadSuccess := true, table := cache.table.erase key }

def strike (table : Dict String Nat) (key : String) : Dict String Nat :=
  table.set key (min ((table.get? key).getD 0 + 1) unsupportedCommandStrikes)

def commitCycleFailures (cache : Cache) : Cache :=
  if cache.pending = [] ∨ cache.cycleHadSuccess = false then
    { cache with pending := [], cycleHadSuccess := false }
  else ⟨cache.pending.foldl strike cache.table, [], false⟩

def unsupportedCommands (cache : Cache) : List String :=
  (cache.table.sortedItems.filter fun item => unsupportedCommandStrikes ≤ item.2).map Prod.fst

def seed (table : Dict String Nat) (key : PyObj) : Dict String Nat :=
  if key.cleanText ≠ "" then table.set key.cleanText unsupportedCommandStrikes else table

def seedUnsupportedCommands (cache : Cache) (keys : List PyObj) : Cache :=
  { cache with table := keys.foldl seed cache.table }

def clearUnsupportedCommands (cache : Cache) : Cache := { cache with table := Dict.empty }

theorem commandSkippedAsUnsupported_iff (cache : Cache) (key : String) :
    cache.commandSkippedAsUnsupported key = true ↔ unsupportedCommandStrikes ≤ cache.strikes key :=
  decide_eq_true_iff

theorem mem_unsupportedCommands (cache : Cache) (key : String) :
    key ∈ cache.unsupportedCommands ↔ cache.commandSkippedAsUnsupported key = true := by
  rw [commandSkippedAsUnsupported_iff, strikes]
  simp only [unsupportedCommands, List.mem_map, List.mem_filter, decide_eq_true_eq, Prod.exists,
    exists_and_right, exists_eq_right, Dict.mem_sortedItems]
  constructor
  · rintro ⟨n, found, enough⟩
    rwa [found]
  · intro enough
    cases found : cache.table.get? key with
    | none =>
      rw [found] at enough
      exact absurd enough (by decide)
    | some n =>
      rw [found] at enough
      exact ⟨n, rfl, enough⟩

@[simp] theorem strikes_recordCommandFailure (cache : Cache) (failed key : String) :
    (cache.recordCommandFailure failed).strikes key = cache.strikes key := by
  rw [recordCommandFailure]
  split <;> rfl

@[simp] theorem strikes_recordCommandSuccess (cache : Cache) (answered key : String) :
    (cache.recordCommandSuccess answered).strikes key =
      if key = answered then 0 else cache.strikes key := by
  simp only [strikes, recordCommandSuccess, Dict.get?_erase]
  split <;> rfl

theorem getD_strikes (pending : List String) (nodup : pending.Nodup) (table : Dict String Nat)
    (key : String) :
    ((pending.foldl strike table).get? key).getD 0 =
      if key ∈ pending then min ((table.get? key).getD 0 + 1) unsupportedCommandStrikes
      else (table.get? key).getD 0 := by
  induction pending generalizing table with
  | nil => rfl
  | cons first rest ih =>
    obtain ⟨new, distinct⟩ := List.nodup_cons.mp nodup
    rw [List.foldl_cons, ih distinct, strike, Dict.get?_set]
    by_cases same : key = first
    · subst same
      simp [new]
    · simp [same]

theorem strikes_commitCycleFailures (cache : Cache) (nodup : cache.pending.Nodup) (key : String) :
    cache.commitCycleFailures.strikes key =
      if key ∈ cache.pending ∧ cache.cycleHadSuccess = true then
        min (cache.strikes key + 1) unsupportedCommandStrikes
      else cache.strikes key := by
  rw [commitCycleFailures]
  split
  · rename_i nothing
    rw [if_neg]
    · rfl
    · rintro ⟨staged, success⟩
      rcases nothing with empty | failed
      · rw [empty] at staged
        cases staged
      · rw [failed] at success
        cases success
  · rename_i counts
    rw [not_or, Bool.not_eq_false] at counts
    rw [strikes, getD_strikes _ nodup]
    simp only [counts.2, and_true]
    rfl

theorem strikes_seedUnsupportedCommands (cache : Cache) (keys : List PyObj) (key : String) :
    (cache.seedUnsupportedCommands keys).strikes key =
      if key ≠ "" ∧ key ∈ keys.map PyObj.cleanText then unsupportedCommandStrikes
      else cache.strikes key := by
  have folded : ∀ table : Dict String Nat, ((keys.foldl seed table).get? key).getD 0 =
      if key ≠ "" ∧ key ∈ keys.map PyObj.cleanText then unsupportedCommandStrikes
      else (table.get? key).getD 0 := by
    induction keys with
    | nil => exact fun table => by simp
    | cons value rest ih =>
      intro table
      rw [List.foldl_cons, ih, seed]
      by_cases blank : value.cleanText = ""
      · by_cases empty : key = ""
        · simp [blank, empty]
        · simp [blank, empty]
      · by_cases same : key = value.cleanText
        · simp [same, blank]
        · simp [same, blank]
  rw [strikes, strikes, ← folded]
  rfl

end Cache

inductive Event where
  | failure (key : String)
  | success (key : String)
  | commit
  | seed (keys : List PyObj)
  | clear

def step (cache : Cache) : Event → Cache
  | .failure key => cache.recordCommandFailure key
  | .success key => cache.recordCommandSuccess key
  | .commit => cache.commitCycleFailures
  | .seed keys => cache.seedUnsupportedCommands keys
  | .clear => cache.clearUnsupportedCommands

def after (history : List Event) : Cache := history.foldl step Cache.empty

theorem after_snoc (history : List Event) (event : Event) :
    after (history ++ [event]) = step (after history) event := by
  simp [after]

namespace Event

def isCommit : Event → Bool
  | .commit => true
  | _ => false

def fails (key : String) : Event → Bool
  | .failure failed => failed == key
  | _ => false

def answers : Event → Bool
  | .success _ => true
  | _ => false

def wipes (key : String) : Event → Bool
  | .success answered => answered == key
  | .clear => true
  | _ => false

def seeds (key : String) : Event → Bool
  | .seed keys => key != "" && (keys.map PyObj.cleanText).contains key
  | _ => false

end Event

def openWindow (history : List Event) : List Event := history.rtakeWhile fun e => !e.isCommit

def counts (key : String) (history : List Event) : Bool :=
  (openWindow history).any (Event.fails key) && (openWindow history).any Event.answers

def counted (key : String) : List Event → List Event → Nat
  | _, [] => 0
  | before, e :: rest =>
    (if e.isCommit && counts key before then 1 else 0) + counted key (before ++ [e]) rest

theorem counted_snoc (key : String) (before rest : List Event) (e : Event) :
    counted key before (rest ++ [e]) =
      counted key before rest + if e.isCommit && counts key (before ++ rest) then 1 else 0 := by
  induction rest generalizing before with
  | nil => simp [counted]
  | cons first rest ih =>
    rw [List.cons_append, counted, counted, ih, List.append_assoc, List.singleton_append]
    omega

theorem openWindow_snoc (history : List Event) (e : Event) :
    openWindow (history ++ [e]) = if e.isCommit then [] else openWindow history ++ [e] := by
  rw [openWindow, List.rtakeWhile_concat]
  cases e.isCommit <;> rfl

theorem any_openWindow_snoc (p : Event → Bool) (history : List Event) {e : Event}
    (inside : e.isCommit = false) :
    (openWindow (history ++ [e])).any p = ((openWindow history).any p || p e) := by
  rw [openWindow_snoc, inside]
  simp

structure Staged (history : List Event) (cache : Cache) : Prop where
  nodup : cache.pending.Nodup
  pending : ∀ key, key ∈ cache.pending ↔ (openWindow history).any (Event.fails key) = true
  success : cache.cycleHadSuccess = (openWindow history).any Event.answers

theorem Staged.failure {history : List Event} {cache : Cache} (staged : Staged history cache)
    (failed : String) :
    Staged (history ++ [.failure failed]) (cache.recordCommandFailure failed) := by
  have inside : (Event.failure failed).isCommit = false := rfl
  have window := fun p => any_openWindow_snoc p history inside
  rw [Cache.recordCommandFailure]
  by_cases old : failed ∈ cache.pending
  · rw [if_pos old]
    refine ⟨staged.nodup, fun key => ?_, ?_⟩
    · rw [window, Bool.or_eq_true, ← staged.pending]
      refine ⟨Or.inl, fun either => either.elim id fun same => ?_⟩
      rwa [← beq_iff_eq.mp same]
    · rw [window, ← staged.success]
      exact (Bool.or_false _).symm
  · rw [if_neg old]
    refine ⟨?_, fun key => ?_, ?_⟩
    · refine List.nodup_append.mpr ⟨staged.nodup, List.nodup_singleton _, ?_⟩
      intro key member other single same
      rw [same, List.mem_singleton.mp single] at member
      exact old member
    · rw [window, Bool.or_eq_true, ← staged.pending, List.mem_append, List.mem_singleton]
      exact or_congr_right (eq_comm.trans beq_iff_eq.symm)
    · rw [window, ← staged.success]
      exact (Bool.or_false _).symm

theorem Staged.other {history : List Event} {cache cache' : Cache} {e : Event}
    (staged : Staged history cache) (inside : e.isCommit = false)
    (fails : ∀ key, e.fails key = false) (pending : cache'.pending = cache.pending)
    (success : cache'.cycleHadSuccess = (cache.cycleHadSuccess || e.answers)) :
    Staged (history ++ [e]) cache' where
  nodup := pending ▸ staged.nodup
  pending key := by
    rw [any_openWindow_snoc _ _ inside, fails, Bool.or_false, pending]
    exact staged.pending key
  success := by rw [any_openWindow_snoc _ _ inside, success, staged.success]

theorem staged_after (history : List Event) : Staged history (after history) := by
  induction history using List.reverseRecOn with
  | nil => exact ⟨List.nodup_nil, fun key => by simp [after, Cache.empty, openWindow], rfl⟩
  | append_singleton history e ih =>
    rw [after_snoc]
    cases e with
    | failure failed => exact ih.failure failed
    | success answered =>
      exact ih.other rfl (fun _ => rfl) rfl (Bool.or_true _).symm
    | seed keys => exact ih.other rfl (fun _ => rfl) rfl (Bool.or_false _).symm
    | clear => exact ih.other rfl (fun _ => rfl) rfl (Bool.or_false _).symm
    | commit =>
      have window : openWindow (history ++ [.commit]) = [] := openWindow_snoc _ _
      have empty : (step (after history) .commit).pending = [] ∧
          (step (after history) .commit).cycleHadSuccess = false := by
        rw [step, Cache.commitCycleFailures]
        split <;> exact ⟨rfl, rfl⟩
      refine ⟨empty.1 ▸ List.nodup_nil, fun key => ?_, ?_⟩
      · rw [empty.1, window]
        simp
      · rw [empty.2, window]
        rfl

theorem strikes_snoc (history : List Event) (e : Event) (key : String) :
    (after (history ++ [e])).strikes key =
      if e.seeds key then unsupportedCommandStrikes
      else if e.wipes key then 0
      else if e.isCommit && counts key history then
        min ((after history).strikes key + 1) unsupportedCommandStrikes
      else (after history).strikes key := by
  have staged := staged_after history
  rw [after_snoc]
  cases e with
  | failure failed => exact Cache.strikes_recordCommandFailure _ _ _
  | success answered =>
    refine (Cache.strikes_recordCommandSuccess _ _ _).trans ?_
    simp only [Event.seeds, Event.isCommit, Bool.false_and, Bool.false_eq_true, if_false]
    exact if_congr (eq_comm.trans beq_iff_eq.symm) rfl rfl
  | commit =>
    refine (Cache.strikes_commitCycleFailures _ staged.nodup key).trans ?_
    simp only [Event.seeds, Event.wipes, Event.isCommit, Bool.true_and, Bool.false_eq_true, if_false]
    refine if_congr ?_ rfl rfl
    rw [staged.pending, staged.success]
    exact (Bool.and_eq_true _ _).symm ▸ Iff.rfl
  | seed keys =>
    refine (Cache.strikes_seedUnsupportedCommands _ _ _).trans ?_
    exact if_congr (by simp [Event.seeds]) rfl rfl
  | clear => rfl

/-- The strikes are backed by counting commits since the last time they were forgotten, or by a
    seed since then. -/
theorem strikes_backed (history : List Event) (key : String) :
    ∃ before rest, history = before ++ rest ∧ (∀ e ∈ rest, e.wipes key = false) ∧
      ((∃ earlier e, before = earlier ++ [e] ∧ e.seeds key = true) ∨
        (after history).strikes key ≤ counted key before rest) := by
  induction history using List.reverseRecOn with
  | nil => exact ⟨[], [], rfl, List.forall_mem_nil _, Or.inr (Nat.le_refl _)⟩
  | append_singleton history e ih =>
    rw [strikes_snoc]
    by_cases seeded : e.seeds key = true
    · exact ⟨history ++ [e], [], by simp, List.forall_mem_nil _, Or.inl ⟨history, e, rfl, seeded⟩⟩
    by_cases wiped : e.wipes key = true
    · refine ⟨history ++ [e], [], by simp, List.forall_mem_nil _, Or.inr ?_⟩
      simp [seeded, wiped]
    obtain ⟨before, rest, rfl, kept, backed⟩ := ih
    refine ⟨before, rest ++ [e], by simp, ?_, ?_⟩
    · intro other member
      rcases List.mem_append.mp member with old | new
      · exact kept other old
      · rw [List.mem_singleton.mp new]
        simpa using wiped
    · refine backed.imp id ?_
      intro enough
      rw [if_neg seeded, if_neg wiped, counted_snoc]
      split
      · exact (Nat.min_le_left _ _).trans (Nat.succ_le_succ enough)
      · exact enough

theorem strikes_keep (key : String) (before rest : List Event)
    (kept : ∀ e ∈ rest, e.wipes key = false) :
    min ((after before).strikes key + counted key before rest) unsupportedCommandStrikes ≤
      (after (before ++ rest)).strikes key := by
  induction rest using List.reverseRecOn with
  | nil =>
    rw [List.append_nil]
    exact Nat.min_le_left _ _
  | append_singleton rest e ih =>
    have earlier := ih fun other member => kept other (List.mem_append_left _ member)
    have last : e.wipes key = false := kept e (by simp)
    rw [← List.append_assoc, strikes_snoc, counted_snoc, last]
    by_cases seeded : e.seeds key = true
    · rw [if_pos seeded]
      exact Nat.min_le_right _ _
    · rw [if_neg seeded, if_neg Bool.false_ne_true]
      split
      · omega
      · exact earlier

/-- A command is skipped exactly if, since it was last answered or cleared, it was seeded or four
    commits closed a window that both failed it and answered some command. -/
theorem skipped_iff (history : List Event) (key : String) :
    (after history).commandSkippedAsUnsupported key = true ↔
      ∃ before rest, history = before ++ rest ∧ (∀ e ∈ rest, e.wipes key = false) ∧
        ((∃ earlier e, before = earlier ++ [e] ∧ e.seeds key = true) ∨
          unsupportedCommandStrikes ≤ counted key before rest) := by
  rw [Cache.commandSkippedAsUnsupported_iff]
  constructor
  · intro enough
    obtain ⟨before, rest, eq, kept, backed⟩ := strikes_backed history key
    exact ⟨before, rest, eq, kept, backed.imp id enough.trans⟩
  · rintro ⟨before, rest, rfl, kept, backed⟩
    refine Nat.le_trans ?_ (strikes_keep key before rest kept)
    refine Nat.le_min.mpr ⟨?_, Nat.le_refl _⟩
    rcases backed with ⟨earlier, e, rfl, seeded⟩ | enough
    · rw [strikes_snoc, if_pos seeded]
      exact Nat.le_add_right _ _
    · exact enough.trans (Nat.le_add_left _ _)

end CommandSupport
