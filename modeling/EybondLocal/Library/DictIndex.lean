import EybondLocal.Library.OrderedDict
import Mathlib.Data.List.Dedup
import Mathlib.Data.List.Sort

/-!
Dictionaries compiled from others: values mapped under the same keys, and an index that lists the
distinct values of every key in their order.
-/
namespace OrderedDict
variable {κ ν μ : Type} [DecidableEq κ]

namespace Dict

theorem mapTo_nodup (d : Dict κ ν) (f : κ → ν → μ) :
    ((d.items.map fun e => (e.1, f e.1 e.2)).map Prod.fst).Nodup := by
  simpa [Function.comp_def] using d.nodup

def mapTo (d : Dict κ ν) (f : κ → ν → μ) : Dict κ μ :=
  ⟨d.items.map fun e => (e.1, f e.1 e.2), d.mapTo_nodup f⟩

theorem find_mapTo (f : κ → ν → μ) (k : κ) (items : List (κ × ν)) :
    find k (items.map fun e => (e.1, f e.1 e.2)) = (find k items).map (f k) := by
  induction items with
  | nil => rfl
  | cons item rest ih =>
    rw [List.map_cons, find, find]
    by_cases hit : item.1 = k
    · subst hit
      simp
    · simp [hit, ih]

@[simp] theorem get?_mapTo (d : Dict κ ν) (f : κ → ν → μ) (k : κ) :
    (d.mapTo f).get? k = (d.get? k).map (f k) := find_mapTo f k d.items

end Dict

def sortedSet (values : List String) : List String := values.dedup.insertionSort (· ≤ ·)

theorem mem_sortedSet {values : List String} {v : String} : v ∈ sortedSet values ↔ v ∈ values := by
  rw [sortedSet, List.mem_insertionSort, List.mem_dedup]

theorem sortedSet_nodup (values : List String) : (sortedSet values).Nodup :=
  (List.perm_insertionSort _ _).nodup_iff.mpr (List.nodup_dedup values)

/-- The index holds one value exactly if that is the only one there is. -/
theorem sortedSet_eq_singleton_iff {values : List String} {v : String} :
    sortedSet values = [v] ↔ v ∈ values ∧ ∀ w ∈ values, w = v := by
  constructor
  · intro eq
    have members : ∀ w, w ∈ values ↔ w = v := by
      intro w
      rw [← mem_sortedSet, eq, List.mem_singleton]
    exact ⟨(members v).mpr rfl, fun w member => (members w).mp member⟩
  · rintro ⟨member, only⟩
    have all : ∀ w ∈ sortedSet values, w = v := fun w inside => only w (mem_sortedSet.mp inside)
    have inside := mem_sortedSet.mpr member
    have nodup := sortedSet_nodup values
    generalize sortedSet values = sorted at all inside nodup
    cases sorted with
    | nil => cases inside
    | cons first rest =>
      obtain rfl := all first List.mem_cons_self
      cases rest with
      | nil => rfl
      | cons second more =>
        have same := all second (by simp)
        rw [List.nodup_cons] at nodup
        exact absurd (same ▸ List.mem_cons_self) nodup.1

/-- Every value under its key, the values of a key sorted and without repetition. -/
def indexOf (entries : List (κ × String)) : Dict κ (List String) :=
  (entries.foldl (fun index entry =>
    index.set entry.1 ((index.get? entry.1).getD [] ++ [entry.2])) Dict.empty).mapTo
      fun _ values => sortedSet values

theorem get?_indexOf (entries : List (κ × String)) (k : κ) :
    (indexOf entries).get? k =
      if entries.filter (·.1 = k) = [] then none
      else some (sortedSet ((entries.filter (·.1 = k)).map Prod.snd)) := by
  rw [indexOf, Dict.get?_mapTo, Dict.get?_foldl_collect Prod.fst Prod.snd]
  split <;> rfl

theorem indexOf_eq_singleton_iff {entries : List (κ × String)} {k : κ} {v : String} :
    ((indexOf entries).get? k).getD [] = [v] ↔
      (k, v) ∈ entries ∧ ∀ w, (k, w) ∈ entries → w = v := by
  have members : ∀ w, w ∈ (entries.filter (·.1 = k)).map Prod.snd ↔ (k, w) ∈ entries := by
    simp
  rw [get?_indexOf]
  split
  · rename_i none
    have nothing : ∀ w, (k, w) ∉ entries := by
      intro w inside
      have := (members w).mpr inside
      rw [none] at this
      cases this
    exact ⟨fun eq => (by cases eq), fun both => absurd both.1 (nothing v)⟩
  · rw [Option.getD_some, sortedSet_eq_singleton_iff, members]
    exact and_congr_right fun _ => forall_congr' fun w => imp_congr_left (members w)

end OrderedDict
