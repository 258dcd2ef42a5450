import Mathlib.Data.List.Nodup
import Mathlib.Tactic.Common

/-!
A computation that looks entries of a mapping up one at a time, where what it looks up next may
depend on what it found. A run answers, and logs each key that it found present, once, in the order
of the first lookup.
-/
namespace TrackedReads
variable {κ ν α β : Type}

inductive Query (κ ν α : Type) where
  | done (answer : α)
  | ask (key : κ) (next : Option ν → Query κ ν α)

namespace Query

def bind : Query κ ν α → (α → Query κ ν β) → Query κ ν β
  | done answer, f => f answer
  | ask key next, f => ask key fun entry => (next entry).bind f

instance : Monad (Query κ ν) where
  pure := done
  bind := bind

def lookup (key : κ) : Query κ ν (Option ν) := ask key done

def answer (entries : κ → Option ν) : Query κ ν α → α
  | done answer => answer
  | ask key next => (next (entries key)).answer entries

@[simp] theorem answer_pure (entries : κ → Option ν) (a : α) :
    (pure a : Query κ ν α).answer entries = a := rfl

@[simp] theorem answer_lookup (entries : κ → Option ν) (key : κ) :
    (lookup key : Query κ ν (Option ν)).answer entries = entries key := rfl

@[simp] theorem answer_bind (entries : κ → Option ν) (q : Query κ ν α) (f : α → Query κ ν β) :
    (q >>= f).answer entries = (f (q.answer entries)).answer entries := by
  induction q with
  | done answer => rfl
  | ask key next ih => exact ih _

section Run
variable [DecidableEq κ]

def record (entry : Option ν) (key : κ) (log : List κ) : List κ :=
  if entry.isSome ∧ key ∉ log then log ++ [key] else log

def run (entries : κ → Option ν) : Query κ ν α → List κ → α × List κ
  | done answer, log => (answer, log)
  | ask key next, log => (next (entries key)).run entries (record (entries key) key log)

theorem run_fst (entries : κ → Option ν) (q : Query κ ν α) (log : List κ) :
    (q.run entries log).1 = q.answer entries := by
  induction q generalizing log with
  | done answer => rfl
  | ask key next ih => exact ih _ _

theorem record_nodup {entry : Option ν} {key : κ} {log : List κ} (nodup : log.Nodup) :
    (record entry key log).Nodup := by
  unfold record
  split
  · rename_i fresh
    rw [List.nodup_append]
    simp only [List.nodup_cons, List.not_mem_nil, not_false_eq_true, List.nodup_nil, and_self,
      List.mem_cons, or_false, true_and, nodup]
    rintro a member b rfl rfl
    exact fresh.2 member
  · exact nodup

theorem mem_record {entry : Option ν} {key k : κ} {log : List κ} :
    k ∈ record entry key log ↔ k ∈ log ∨ (entry.isSome ∧ k = key) := by
  unfold record
  split
  · rename_i fresh
    simp [fresh.1]
  · rename_i stale
    constructor
    · exact Or.inl
    · rintro (member | ⟨present, rfl⟩)
      · exact member
      · by_contra absent
        exact stale ⟨present, absent⟩

theorem run_nodup (entries : κ → Option ν) (q : Query κ ν α) {log : List κ} (nodup : log.Nodup) :
    (q.run entries log).2.Nodup := by
  induction q generalizing log with
  | done answer => exact nodup
  | ask key next ih => exact ih _ (record_nodup nodup)

theorem log_subset_run (entries : κ → Option ν) (q : Query κ ν α) (log : List κ) :
    log ⊆ (q.run entries log).2 := by
  induction q generalizing log with
  | done answer => exact List.Subset.refl _
  | ask key next ih =>
    intro k member
    exact ih _ _ (mem_record.mpr (Or.inl member))

theorem isSome_of_mem_run (entries : κ → Option ν) (q : Query κ ν α) {log : List κ}
    (present : ∀ k ∈ log, (entries k).isSome) {k : κ} (member : k ∈ (q.run entries log).2) :
    (entries k).isSome := by
  induction q generalizing log with
  | done answer => exact present k member
  | ask key next ih =>
    refine ih _ ?_ member
    intro k' logged
    rcases mem_record.mp logged with earlier | ⟨found, rfl⟩
    · exact present k' earlier
    · exact found

theorem mem_run_ask {entries : κ → Option ν} {key : κ} (next : Option ν → Query κ ν α)
    (log : List κ) (found : (entries key).isSome) :
    key ∈ ((ask key next).run entries log).2 :=
  log_subset_run entries (next (entries key)) _ (mem_record.mpr (Or.inr ⟨found, rfl⟩))

end Run

def Within (keys : List κ) : Query κ ν α → Prop
  | done _ => True
  | ask key next => key ∈ keys ∧ ∀ entry, (next entry).Within keys

theorem within_pure (keys : List κ) (answer : α) :
    (pure answer : Query κ ν α).Within keys := trivial

theorem within_lookup {keys : List κ} {key : κ} (member : key ∈ keys) :
    (lookup key : Query κ ν (Option ν)).Within keys := ⟨member, fun _ => trivial⟩

theorem Within.bind {keys : List κ} {q : Query κ ν α} {f : α → Query κ ν β}
    (first : q.Within keys) (second : ∀ answer, (f answer).Within keys) :
    (q >>= f).Within keys := by
  induction q with
  | done answer => exact second answer
  | ask key next ih => exact ⟨first.1, fun entry => ih entry (first.2 entry)⟩

theorem run_congr [DecidableEq κ] {entries entries' : κ → Option ν} {keys : List κ}
    {q : Query κ ν α} (within : q.Within keys) (agree : ∀ k ∈ keys, entries k = entries' k)
    (log : List κ) : q.run entries log = q.run entries' log := by
  induction q generalizing log with
  | done answer => rfl
  | ask key next ih =>
    have same := agree key within.1
    simp only [run, same]
    exact ih _ (within.2 _) _

def Yields (entryGood : ν → Prop) (good : α → Prop) : Query κ ν α → Prop
  | done answer => good answer
  | ask _ next => ∀ entry, (∀ v, entry = some v → entryGood v) → (next entry).Yields entryGood good

theorem Yields.bind {entryGood : ν → Prop} {good : α → Prop} {good' : β → Prop}
    {q : Query κ ν α} {f : α → Query κ ν β} (first : q.Yields entryGood good)
    (second : ∀ answer, good answer → (f answer).Yields entryGood good') :
    (q >>= f).Yields entryGood good' := by
  induction q with
  | done answer => exact second answer first
  | ask key next ih => exact fun entry entryOk => ih entry (first entry entryOk)

theorem yields_lookup (entryGood : ν → Prop) (key : κ) :
    (lookup key : Query κ ν (Option ν)).Yields entryGood
      fun entry => ∀ v, entry = some v → entryGood v := fun _ entryOk => entryOk

theorem run_yields [DecidableEq κ] {entryGood : ν → Prop} {good : α → Prop} {q : Query κ ν α}
    (yields : q.Yields entryGood good) {entries : κ → Option ν}
    (entriesGood : ∀ k v, entries k = some v → entryGood v) (log : List κ) :
    good (q.run entries log).1 := by
  induction q generalizing log with
  | done answer => exact yields
  | ask key next ih => exact ih _ (yields _ (entriesGood key)) _

end Query
end TrackedReads
