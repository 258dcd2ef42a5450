import EybondLocal.Library.OrderedDict
import Mathlib.Data.List.Perm.Basic

/-!
`sorted(d.items())` and `for key in sorted(d)` of a dictionary with text keys. The keys differ, so
the order of the values never matters and the result does not depend on the insertion order.
-/
namespace OrderedDict
variable {ν : Type}

def keyLE (left right : String × ν) : Bool := decide (left.1 ≤ right.1)

def Dict.sortedItems (d : Dict String ν) : List (String × ν) := d.items.mergeSort keyLE

theorem keyLE_trans (a b c : String × ν) (first : keyLE a b = true) (second : keyLE b c = true) :
    keyLE a c = true := by
  simp only [keyLE, decide_eq_true_eq] at first second ⊢
  exact String.le_trans first second

theorem keyLE_total (a b : String × ν) : (keyLE a b || keyLE b a) = true := by
  simp only [keyLE, Bool.or_eq_true, decide_eq_true_eq]
  exact String.le_total a.1 b.1

namespace Dict
variable (d : Dict String ν)

theorem sortedItems_perm : d.sortedItems.Perm d.items := List.mergeSort_perm _ _

theorem mem_sortedItems {k : String} {v : ν} : (k, v) ∈ d.sortedItems ↔ d.get? k = some v := by
  rw [d.sortedItems_perm.mem_iff, get?_eq_some_iff]

theorem sortedItems_nodup : (d.sortedItems.map Prod.fst).Nodup :=
  (d.sortedItems_perm.map Prod.fst).nodup_iff.mpr d.nodup

theorem sortedItems_lt : (d.sortedItems.map Prod.fst).Pairwise (· < ·) := by
  have ascending : d.sortedItems.Pairwise fun a b => keyLE a b = true :=
    List.pairwise_mergeSort keyLE_trans keyLE_total _
  have distinct : (d.sortedItems.map Prod.fst).Pairwise (· ≠ ·) := d.sortedItems_nodup
  rw [List.pairwise_map] at distinct ⊢
  refine List.Pairwise.imp₂ ?_ ascending distinct
  intro a b le ne
  simp only [keyLE, decide_eq_true_eq] at le
  by_contra ge
  exact ne (String.le_antisymm le (String.not_lt.mp ge))

end Dict

theorem sorted_eq_of_mem_iff {l l' : List (String × ν)} (ascending : (l.map Prod.fst).Pairwise (· < ·))
    (ascending' : (l'.map Prod.fst).Pairwise (· < ·)) (same : ∀ item, item ∈ l ↔ item ∈ l') :
    l = l' := by
  rw [List.pairwise_map] at ascending ascending'
  have distinct : ∀ a b : String × ν, a.1 < b.1 → a ≠ b := by
    rintro a b lt rfl
    exact String.lt_irrefl a.1 lt
  have nodup : l.Nodup := ascending.imp fun {a b} => distinct a b
  have nodup' : l'.Nodup := ascending'.imp fun {a b} => distinct a b
  have perm : l.Perm l' := (List.perm_ext_iff_of_nodup nodup nodup').mpr same
  refine perm.eq_of_pairwise ?_ ascending ascending'
  intro a b _ _ forward backward
  exact absurd (String.lt_trans forward backward) (String.lt_irrefl a.1)

theorem Dict.sortedItems_congr {d d' : Dict String ν} (same : ∀ k, d.get? k = d'.get? k) :
    d.sortedItems = d'.sortedItems := by
  refine sorted_eq_of_mem_iff d.sortedItems_lt d'.sortedItems_lt ?_
  rintro ⟨k, v⟩
  rw [d.mem_sortedItems, d'.mem_sortedItems, same]

end OrderedDict
