import EybondLocal.Library.SortedItems
import Mathlib.Data.List.Sort
import Mathlib.Data.List.Forall2

/-!
Items grouped under a text key in an insertion-ordered dictionary, and the groups in the order of
their keys. Each group keeps the order of the items; the sorted groups do not depend on it.
-/
namespace Groups
open OrderedDict
variable {α : Type} (key : α → String)

def groupBy (items : List α) : Dict String (List α) :=
  items.foldl (fun groups item =>
    groups.set (key item) ((groups.get? (key item)).getD [] ++ [item])) Dict.empty

def sortedGroups (items : List α) : List (String × List α) :=
  (groupBy key items).items.insertionSort fun a b => a.1 ≤ b.1

def groupKeys (items : List α) : List String := (sortedGroups key items).map Prod.fst

theorem get?_groupBy (items : List α) (k : String) :
    (groupBy key items).get? k =
      if items.filter (key · = k) = [] then none else some (items.filter (key · = k)) := by
  have collected := Dict.get?_foldl_collect key id items k
  rwa [List.map_id] at collected

theorem mem_sortedGroups {items : List α} {group : String × List α} :
    group ∈ sortedGroups key items ↔
      group.2 = items.filter (key · = group.1) ∧ group.2 ≠ [] := by
  rw [sortedGroups, List.mem_insertionSort, ← Dict.get?_eq_some_iff, get?_groupBy]
  by_cases empty : items.filter (key · = group.1) = []
  · rw [if_pos empty, empty]
    constructor
    · nofun
    · intro both
      exact absurd both.1 both.2
  · rw [if_neg empty]
    constructor
    · intro same
      have held := Option.some.inj same
      exact ⟨held.symm, held ▸ empty⟩
    · intro both
      exact congrArg some both.1.symm

theorem mem_groupKeys {items : List α} {k : String} :
    k ∈ groupKeys key items ↔ ∃ item ∈ items, key item = k := by
  rw [groupKeys, List.mem_map]
  constructor
  · rintro ⟨group, member, rfl⟩
    obtain ⟨held, filled⟩ := (mem_sortedGroups key).mp member
    obtain ⟨item, among⟩ := List.exists_mem_of_ne_nil _ filled
    rw [held, List.mem_filter] at among
    exact ⟨item, among.1, by simpa using among.2⟩
  · rintro ⟨item, member, rfl⟩
    refine ⟨(key item, items.filter (key · = key item)), ?_, rfl⟩
    refine (mem_sortedGroups key).mpr ⟨rfl, ?_⟩
    exact List.ne_nil_of_mem (List.mem_filter.mpr ⟨member, by simp⟩)

theorem groupKeys_lt (items : List α) : (groupKeys key items).Pairwise (· < ·) := by
  have perm : (sortedGroups key items).Perm (groupBy key items).items := List.perm_insertionSort _ _
  have distinct : (groupKeys key items).Pairwise (· ≠ ·) :=
    (perm.map Prod.fst).nodup_iff.mpr (groupBy key items).nodup
  have ascending : (groupKeys key items).Pairwise (· ≤ ·) := by
    rw [groupKeys, List.pairwise_map]
    have total : Std.Total fun a b : String × List α => a.1 ≤ b.1 :=
      ⟨fun a b => String.le_total a.1 b.1⟩
    have trans : IsTrans (String × List α) fun a b => a.1 ≤ b.1 :=
      ⟨fun _ _ _ first second => String.le_trans first second⟩
    exact List.pairwise_insertionSort _ _
  refine List.Pairwise.imp₂ ?_ ascending distinct
  intro a b le ne
  by_contra ge
  exact ne (String.le_antisymm le (String.not_lt.mp ge))

theorem sortedGroups_eq (items : List α) :
    sortedGroups key items =
      (groupKeys key items).map fun k => (k, items.filter (key · = k)) := by
  rw [groupKeys, List.map_map]
  conv_lhs => rw [← List.map_id (sortedGroups key items)]
  refine List.map_congr_left ?_
  intro group member
  obtain ⟨held, _⟩ := (mem_sortedGroups key).mp member
  exact Prod.ext rfl held

theorem ascending_eq {l l' : List String} (ascending : l.Pairwise (· < ·))
    (ascending' : l'.Pairwise (· < ·)) (same : ∀ k, k ∈ l ↔ k ∈ l') : l = l' := by
  have distinct : ∀ {a b : String}, a < b → a ≠ b := by
    rintro a b lt rfl
    exact String.lt_irrefl a lt
  have perm : l.Perm l' :=
    (List.perm_ext_iff_of_nodup (ascending.imp distinct) (ascending'.imp distinct)).mpr same
  refine perm.eq_of_pairwise ?_ ascending ascending'
  intro a b _ _ forward backward
  exact absurd (String.lt_trans forward backward) (String.lt_irrefl a)

theorem groupKeys_congr {items items' : List α} (perm : items.Perm items') :
    groupKeys key items = groupKeys key items' := by
  refine ascending_eq (groupKeys_lt key items) (groupKeys_lt key items') ?_
  intro k
  rw [mem_groupKeys, mem_groupKeys]
  constructor
  · rintro ⟨item, member, rfl⟩
    exact ⟨item, perm.mem_iff.mp member, rfl⟩
  · rintro ⟨item, member, rfl⟩
    exact ⟨item, perm.mem_iff.mpr member, rfl⟩

theorem sortedGroups_perm {items items' : List α} (perm : items.Perm items') :
    List.Forall₂ (fun group group' => group.1 = group'.1 ∧ group.2.Perm group'.2)
      (sortedGroups key items) (sortedGroups key items') := by
  rw [sortedGroups_eq, sortedGroups_eq, groupKeys_congr key perm, List.forall₂_map_left_iff,
    List.forall₂_map_right_iff]
  refine List.forall₂_same.mpr ?_
  intro k _
  exact ⟨rfl, perm.filter _⟩

theorem perm_flatMap_filter {keys : List String} (distinct : keys.Nodup) {items : List α}
    (covered : ∀ item ∈ items, key item ∈ keys) :
    (keys.flatMap fun k => items.filter (key · = k)).Perm items := by
  induction keys generalizing items with
  | nil =>
    have none_left : items = [] := by
      rw [List.eq_nil_iff_forall_not_mem]
      intro item member
      cases covered item member
    rw [none_left]
    exact List.Perm.nil
  | cons k rest ih =>
    obtain ⟨fresh, distinct⟩ := List.nodup_cons.mp distinct
    have others : (rest.flatMap fun k' =>
        (items.filter (key · ≠ k)).filter (key · = k')).Perm (items.filter (key · ≠ k)) := by
      apply ih distinct
      intro item member
      obtain ⟨among, apart⟩ := List.mem_filter.mp member
      exact (List.mem_cons.mp (covered item among)).resolve_left (by simpa using apart)
    have untouched : ∀ k' ∈ rest, (items.filter (key · ≠ k)).filter (key · = k') =
        items.filter (key · = k') := by
      intro k' later
      rw [List.filter_filter]
      refine List.filter_congr ?_
      intro item _
      by_cases here : key item = k'
      · have apart : k' ≠ k := by
          rintro rfl
          exact fresh later
        simp [here, apart]
      · simp [here]
    rw [List.flatMap_congr untouched] at others
    rw [List.flatMap_cons]
    refine (List.Perm.append_left _ others).trans ?_
    simpa using List.filter_append_perm (fun item => decide (key item = k)) items

theorem sortedGroups_flatMap (items : List α) :
    ((sortedGroups key items).flatMap Prod.snd).Perm items := by
  have distinct : (groupKeys key items).Nodup := by
    refine (groupKeys_lt key items).imp ?_
    rintro a b lt rfl
    exact String.lt_irrefl a lt
  rw [sortedGroups_eq, List.flatMap_map]
  refine perm_flatMap_filter key distinct ?_
  intro item member
  exact (mem_groupKeys key).mpr ⟨item, member, rfl⟩

end Groups
