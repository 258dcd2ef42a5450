import Mathlib.Data.List.Induction
import Mathlib.Data.List.Nodup
import Mathlib.Tactic.Common

/-!
The insertion-ordered dictionary of Python: assigning to a present key keeps its
position, assigning to an absent one appends, and deletion closes the gap. The keys
are distinct by construction, so a lookup never depends on the order, while a loop
over the items sees that order.
-/
namespace OrderedDict
variable {κ ν : Type} [DecidableEq κ]

def assign (k : κ) (v : ν) : List (κ × ν) → List (κ × ν)
  | [] => [(k, v)]
  | e :: rest => if e.1 = k then (k, v) :: rest else e :: assign k v rest

def find (k : κ) : List (κ × ν) → Option ν
  | [] => none
  | e :: rest => if e.1 = k then some e.2 else find k rest

theorem assign_keys (k : κ) (v : ν) (l : List (κ × ν)) :
    (assign k v l).map Prod.fst =
      if k ∈ l.map Prod.fst then l.map Prod.fst else l.map Prod.fst ++ [k] := by
  induction l with
  | nil => simp [assign]
  | cons e rest ih =>
    by_cases hit : e.1 = k
    · simp [assign, hit]
    · simp only [assign, hit, ↓reduceIte, List.map_cons, ih, List.mem_cons, Ne.symm hit, false_or]
      split <;> simp

theorem assign_nodup (k : κ) (v : ν) (l : List (κ × ν)) (nodup : (l.map Prod.fst).Nodup) :
    ((assign k v l).map Prod.fst).Nodup := by
  rw [assign_keys]
  split
  · exact nodup
  · rename_i absent
    simp only [List.nodup_append, nodup, List.nodup_cons, List.not_mem_nil, not_false_eq_true,
      List.nodup_nil, and_self, true_and]
    intro a ha b hb
    simp only [List.mem_singleton] at hb
    exact fun eq => absent (hb ▸ eq ▸ ha)

theorem find_eq_some_iff {k : κ} {v : ν} {l : List (κ × ν)} (nodup : (l.map Prod.fst).Nodup) :
    find k l = some v ↔ (k, v) ∈ l := by
  induction l with
  | nil => simp [find]
  | cons e rest ih =>
    obtain ⟨k', v'⟩ := e
    simp only [List.map_cons, List.nodup_cons, List.mem_map, Prod.exists, exists_and_right,
      exists_eq_right, not_exists] at nodup
    by_cases hit : k' = k
    · subst hit
      simp only [find, ↓reduceIte, Option.some.injEq, List.mem_cons, Prod.mk.injEq, true_and]
      exact ⟨fun eq => Or.inl eq.symm,
        fun h => h.elim Eq.symm fun mem => absurd mem (nodup.1 v)⟩
    · simp [find, hit, Ne.symm hit, ih nodup.2]

theorem find_eq_none {k : κ} {l : List (κ × ν)} (absent : k ∉ l.map Prod.fst) :
    find k l = none := by
  induction l with
  | nil => rfl
  | cons e rest ih =>
    simp only [List.map_cons, List.mem_cons, not_or] at absent
    rw [find, if_neg (Ne.symm absent.1)]
    exact ih absent.2

theorem assign_of_absent {k : κ} (v : ν) {l : List (κ × ν)} (absent : find k l = none) :
    assign k v l = l ++ [(k, v)] := by
  induction l with
  | nil => rfl
  | cons e rest ih =>
    by_cases hit : e.1 = k
    · simp [find, hit] at absent
    · simp only [find, hit, ↓reduceIte] at absent
      simp [assign, hit, ih absent]

theorem find_assign (k k' : κ) (v : ν) (l : List (κ × ν)) :
    find k' (assign k v l) = if k' = k then some v else find k' l := by
  induction l with
  | nil => simp [assign, find, eq_comm]
  | cons e rest ih =>
    by_cases hit : e.1 = k
    · by_cases same : k' = k
      · simp [assign, find, hit, same]
      · simp [assign, find, hit, same, Ne.symm same]
    · by_cases same : e.1 = k'
      · have ne : k' ≠ k := fun h => hit (same.trans h)
        simp [assign, find, same, ne]
      · simp [assign, find, hit, same, ih]

theorem find_filter (k k' : κ) (l : List (κ × ν)) :
    find k' (l.filter fun e => e.1 ≠ k) = if k' = k then none else find k' l := by
  induction l with
  | nil => simp [find]
  | cons e rest ih =>
    by_cases hit : e.1 = k
    · by_cases same : k' = k
      · simp_all
      · simp_all [find, Ne.symm same]
    · by_cases same : e.1 = k'
      · have ne : k' ≠ k := fun h => hit (same.trans h)
        simp [find, same, ne]
      · simp_all [find]

theorem find_map (f : κ → ν → ν) (k : κ) (l : List (κ × ν)) :
    find k (l.map fun e => (e.1, f e.1 e.2)) = (find k l).map (f k) := by
  induction l with
  | nil => rfl
  | cons e rest ih =>
    by_cases hit : e.1 = k
    · simp [find, hit]
    · simp [find, hit, ih]

theorem filter_of_find {k : κ} {v : ν} {l : List (κ × ν)} (nodup : (l.map Prod.fst).Nodup)
    (found : find k l = some v) : (l.filter fun e => e.1 = k) = [(k, v)] := by
  induction l with
  | nil => cases found
  | cons e rest ih =>
    simp only [List.map_cons, List.nodup_cons] at nodup
    by_cases hit : e.1 = k
    · simp only [find, hit, ↓reduceIte, Option.some.injEq] at found
      have others : (rest.filter fun e => e.1 = k) = [] := by
        rw [List.filter_eq_nil_iff]
        intro item member
        have apart : item.1 ≠ e.1 := fun eq => nodup.1 (eq ▸ List.mem_map_of_mem member)
        simpa [hit] using apart
      rw [List.filter_cons_of_pos (by simpa using hit), others, ← hit, ← found]
    · simp only [find, hit, ↓reduceIte] at found
      rw [List.filter_cons_of_neg (by simpa using hit)]
      exact ih nodup.2 found

def assignAll (entries : List (κ × ν)) : List (κ × ν) :=
  entries.foldl (fun l e => assign e.1 e.2 l) []

theorem assignAll_snoc (entries : List (κ × ν)) (e : κ × ν) :
    assignAll (entries ++ [e]) = assign e.1 e.2 (assignAll entries) := by
  simp [assignAll]

theorem assignAll_nodup (entries : List (κ × ν)) :
    ((assignAll entries).map Prod.fst).Nodup := by
  induction entries using List.reverseRecOn with
  | nil => simp [assignAll]
  | append_singleton entries e ih =>
    rw [assignAll_snoc]
    exact assign_nodup e.1 e.2 _ ih

theorem mem_assign {k : κ} {v : ν} {l : List (κ × ν)} {e : κ × ν} (member : e ∈ assign k v l) :
    e = (k, v) ∨ e ∈ l := by
  induction l with
  | nil => exact Or.inl (by simpa [assign] using member)
  | cons d rest ih =>
    unfold assign at member
    split at member
    · rcases List.mem_cons.mp member with rfl | old
      · exact Or.inl rfl
      · exact Or.inr (List.mem_cons_of_mem d old)
    · rcases List.mem_cons.mp member with rfl | later
      · exact Or.inr List.mem_cons_self
      · exact (ih later).imp_right (List.mem_cons_of_mem d)

theorem mem_assignAll {entries : List (κ × ν)} {e : κ × ν} (member : e ∈ assignAll entries) :
    e ∈ entries := by
  induction entries using List.reverseRecOn with
  | nil => exact member
  | append_singleton entries d ih =>
    rw [assignAll_snoc] at member
    rcases mem_assign member with rfl | old
    · exact List.mem_append_right _ List.mem_cons_self
    · exact List.mem_append_left _ (ih old)

theorem mem_keys_assignAll (entries : List (κ × ν)) (k : κ) :
    k ∈ (assignAll entries).map Prod.fst ↔ k ∈ entries.map Prod.fst := by
  induction entries using List.reverseRecOn generalizing k with
  | nil => rfl
  | append_singleton entries e ih =>
    rw [assignAll_snoc, assign_keys]
    split
    · rename_i present
      rw [ih, List.map_append, List.mem_append]
      refine ⟨Or.inl, fun either => either.elim id fun last => ?_⟩
      rw [List.mem_singleton.mp last]
      exact (ih e.1).mp present
    · rw [List.mem_append, ih, List.map_append, List.mem_append]
      rfl

theorem find_assignAll (front back : List (κ × ν)) (k : κ) (v : ν)
    (last : k ∉ back.map Prod.fst) : find k (assignAll (front ++ (k, v) :: back)) = some v := by
  induction back using List.reverseRecOn with
  | nil => rw [assignAll_snoc, find_assign, if_pos rfl]
  | append_singleton back e ih =>
    rw [List.map_append, List.mem_append, not_or] at last
    rw [← List.cons_append, ← List.append_assoc, assignAll_snoc, find_assign,
      if_neg fun same => last.2 (List.mem_singleton.mpr same)]
    exact ih last.1

theorem assignAll_of_nodup (entries : List (κ × ν)) (nodup : (entries.map Prod.fst).Nodup) :
    assignAll entries = entries := by
  induction entries using List.reverseRecOn with
  | nil => rfl
  | append_singleton entries e ih =>
    rw [List.map_append, List.nodup_append] at nodup
    obtain ⟨former, _, apart⟩ := nodup
    rw [assignAll_snoc, ih former, assign_of_absent]
    exact find_eq_none fun present => apart _ present _ (List.mem_singleton.mpr rfl) rfl

structure Dict (κ ν : Type) [DecidableEq κ] where
  items : List (κ × ν)
  nodup : (items.map Prod.fst).Nodup

namespace Dict

def empty : Dict κ ν := ⟨[], by simp⟩

def get? (d : Dict κ ν) (k : κ) : Option ν := find k d.items

def set (d : Dict κ ν) (k : κ) (v : ν) : Dict κ ν :=
  ⟨assign k v d.items, assign_nodup k v d.items d.nodup⟩

def erase (d : Dict κ ν) (k : κ) : Dict κ ν :=
  ⟨d.items.filter fun e => e.1 ≠ k, d.nodup.sublist (List.filter_sublist.map _)⟩

def update (d e : Dict κ ν) : Dict κ ν := e.items.foldl (fun d item => d.set item.1 item.2) d

def restrict (d : Dict κ ν) (keep : κ → Bool) : Dict κ ν :=
  ⟨d.items.filter fun e => keep e.1, d.nodup.sublist (List.filter_sublist.map _)⟩

def dropValue [DecidableEq ν] (d : Dict κ ν) (v : ν) : Dict κ ν :=
  ⟨d.items.filter fun e => e.2 ≠ v, d.nodup.sublist (List.filter_sublist.map _)⟩

def newest (d : Dict κ ν) (limit : Nat) : Dict κ ν :=
  ⟨d.items.drop (d.items.length - limit), d.nodup.sublist ((List.drop_sublist _ _).map _)⟩

def values (d : Dict κ ν) : List ν := d.items.map Prod.snd

def mapValues (d : Dict κ ν) (f : κ → ν → ν) : Dict κ ν :=
  ⟨d.items.map fun e => (e.1, f e.1 e.2), by simpa [Function.comp_def] using d.nodup⟩

@[simp] theorem get?_empty (k : κ) : (empty : Dict κ ν).get? k = none := rfl

@[simp] theorem get?_set (d : Dict κ ν) (k k' : κ) (v : ν) :
    (d.set k v).get? k' = if k' = k then some v else d.get? k' := find_assign k k' v d.items

@[simp] theorem get?_erase (d : Dict κ ν) (k k' : κ) :
    (d.erase k).get? k' = if k' = k then none else d.get? k' := find_filter k k' d.items

@[simp] theorem get?_mapValues (d : Dict κ ν) (f : κ → ν → ν) (k : κ) :
    (d.mapValues f).get? k = (d.get? k).map (f k) := find_map f k d.items

/-- A fold that writes each entry of a dictionary at most once, and only under its own key. -/
theorem get?_foldl_write {μ : Type} {put : Dict κ μ → κ × ν → Dict κ μ} (written : κ → ν → Option μ)
    {items : List (κ × ν)} (nodup : (items.map Prod.fst).Nodup)
    (puts : ∀ d item k, (put d item).get? k =
      if k = item.1 then (written item.1 item.2).or (d.get? k) else d.get? k)
    (d : Dict κ μ) (k : κ) :
    (items.foldl put d).get? k = ((find k items).bind (written k)).or (d.get? k) := by
  induction items generalizing d with
  | nil => simp [find]
  | cons item rest ih =>
    rw [List.map_cons, List.nodup_cons] at nodup
    rw [List.foldl_cons, ih nodup.2, puts]
    by_cases hit : item.1 = k
    · simp [find, hit, find_eq_none (hit ▸ nodup.1)]
    · simp [find, hit, Ne.symm hit]

@[simp] theorem get?_update (d e : Dict κ ν) (k : κ) :
    (d.update e).get? k = (e.get? k).or (d.get? k) := by
  unfold update
  rw [get?_foldl_write (fun _ v => some v) e.nodup (fun d item k => get?_set d item.1 k item.2)]
  rw [Option.bind_fun_some]
  rfl

@[simp] theorem get?_restrict (d : Dict κ ν) (keep : κ → Bool) (k : κ) :
    (d.restrict keep).get? k = if keep k then d.get? k else none := by
  simp only [restrict, get?]
  induction d.items with
  | nil => simp [find]
  | cons item rest ih =>
    by_cases hit : item.1 = k
    · by_cases kept : keep k
      · simp [find, hit, kept]
      · simp_all
    · by_cases kept : keep item.1
      · simp [find, hit, kept, ih]
      · simp [find, hit, kept, ih]

theorem items_of_get? {d : Dict κ ν} {k : κ} {v : ν} (found : d.get? k = some v) :
    (d.items.filter fun e => e.1 = k) = [(k, v)] := filter_of_find d.nodup found

theorem get?_eq_some_iff (d : Dict κ ν) (k : κ) (v : ν) :
    d.get? k = some v ↔ (k, v) ∈ d.items := find_eq_some_iff d.nodup

theorem get?_dropValue_eq_some [DecidableEq ν] {d : Dict κ ν} {v w : ν} {k : κ} :
    (d.dropValue v).get? k = some w ↔ d.get? k = some w ∧ w ≠ v := by
  simp [get?_eq_some_iff, dropValue]

theorem set_items_of_absent {d : Dict κ ν} {k : κ} (absent : d.get? k = none) (v : ν) :
    (d.set k v).items = d.items ++ [(k, v)] := assign_of_absent v absent

theorem mem_values {d : Dict κ ν} {v : ν} : v ∈ d.values ↔ ∃ k, d.get? k = some v := by
  simp [values, get?_eq_some_iff]

theorem get?_newest_some {d : Dict κ ν} {limit : Nat} {k : κ} {v : ν}
    (held : (d.newest limit).get? k = some v) : d.get? k = some v := by
  rw [get?_eq_some_iff] at held ⊢
  exact List.mem_of_mem_drop held

theorem get?_newest {d : Dict κ ν} {limit : Nat} {k : κ}
    (kept : k ∉ (d.items.take (d.items.length - limit)).map Prod.fst) :
    (d.newest limit).get? k = d.get? k := by
  cases held : d.get? k with
  | none =>
    cases found : (d.newest limit).get? k with
    | none => rfl
    | some v => rw [get?_newest_some found] at held; cases held
  | some v =>
    rw [get?_eq_some_iff] at held ⊢
    rw [← List.take_append_drop (d.items.length - limit) d.items] at held
    rcases List.mem_append.mp held with dropped | remains
    · exact absurd (List.mem_map_of_mem dropped) kept
    · exact remains

def firstItem (d : Dict κ ν) (test : κ → ν → Bool) : Option (κ × ν) :=
  d.items.find? fun e => test e.1 e.2

theorem firstItem_eq_none_iff (d : Dict κ ν) (test : κ → ν → Bool) :
    d.firstItem test = none ↔ ∀ k v, d.get? k = some v → test k v = false := by
  simp [firstItem, get?_eq_some_iff]

theorem firstItem_some {d : Dict κ ν} {test : κ → ν → Bool} {k : κ} {v : ν}
    (h : d.firstItem test = some (k, v)) : d.get? k = some v ∧ test k v = true := by
  have accepted := List.find?_some h
  exact ⟨(d.get?_eq_some_iff _ _).mpr (List.mem_of_find?_eq_some h), accepted⟩

/-- A dictionary built by assigning values to their own keys holds for each key the last of
    its values. -/
theorem get?_foldl_set (key : ν → κ) (values : List ν) (d : Dict κ ν) (k : κ) :
    (values.foldl (fun d v => d.set (key v) v) d).get? k =
      (values.reverse.find? fun v => key v = k).or (d.get? k) := by
  induction values generalizing d with
  | nil => simp
  | cons v rest ih =>
    rw [List.foldl_cons, ih, get?_set, List.reverse_cons, List.find?_append, Option.or_assoc]
    by_cases hit : key v = k
    · simp [hit]
    · simp [hit, Ne.symm hit]

/-- A dictionary written only with the values of one function holds that function. -/
theorem get?_foldl_samples (f : κ → ν) {entries : List (κ × ν)}
    (samples : ∀ entry ∈ entries, entry.2 = f entry.1) (d : Dict κ ν) (k : κ) :
    (entries.foldl (fun map entry => map.set entry.1 entry.2) d).get? k =
      if k ∈ entries.map Prod.fst then some (f k) else d.get? k := by
  induction entries generalizing d with
  | nil => simp
  | cons entry rest ih =>
    obtain ⟨sample, samples⟩ := List.forall_mem_cons.mp samples
    rw [List.foldl_cons, ih samples, get?_set]
    by_cases hit : k = entry.1
    · simp [hit, sample]
    · simp only [hit, ↓reduceIte, List.map_cons, List.mem_cons, false_or]

/-- `groups.setdefault(key(item), []).append(value(item))` for every item: each key holds the values
    of its own items in their order, and no key is without any. -/
theorem get?_foldl_collect {α : Type} (key : α → κ) (value : α → ν) (items : List α) (k : κ) :
    (items.foldl (fun groups item =>
      groups.set (key item) ((groups.get? (key item)).getD [] ++ [value item]))
        (empty : Dict κ (List ν))).get? k =
      if items.filter (key · = k) = [] then none
      else some ((items.filter (key · = k)).map value) := by
  induction items using List.reverseRecOn with
  | nil => rfl
  | append_singleton items item ih =>
    rw [List.foldl_append, List.foldl_cons, List.foldl_nil, get?_set, List.filter_append]
    generalize items.foldl (fun groups item =>
      groups.set (key item) ((groups.get? (key item)).getD [] ++ [value item]))
        (empty : Dict κ (List ν)) = groups at ih
    by_cases here : k = key item
    · subst here
      have held : (groups.get? (key item)).getD [] =
          (items.filter (key · = key item)).map value := by
        rw [ih]
        split
        · rename_i none_given
          rw [none_given]
          rfl
        · rfl
      rw [if_pos rfl, held, List.filter_cons_of_pos (by simp), List.filter_nil, if_neg (by simp),
        List.map_append]
      rfl
    · have apart : [item].filter (fun a => decide (key a = k)) = [] := by
        rw [List.filter_cons_of_neg (by simpa using Ne.symm here), List.filter_nil]
      rw [if_neg here, ih, apart, List.append_nil]

def UniqueMatch (d : Dict κ ν) (test : κ → ν → Bool) : Prop :=
  ∀ a b x y, d.get? a = some x → d.get? b = some y → test a x = true → test b y = true → a = b

theorem firstItem_eq_some_iff {d : Dict κ ν} {test : κ → ν → Bool} (unique : d.UniqueMatch test)
    {k : κ} {v : ν} : d.firstItem test = some (k, v) ↔ d.get? k = some v ∧ test k v = true := by
  constructor
  · exact firstItem_some
  · rintro ⟨held, accepted⟩
    cases found : d.firstItem test with
    | none =>
      rw [(d.firstItem_eq_none_iff test).mp found k v held] at accepted
      cases accepted
    | some item =>
      obtain ⟨k', v'⟩ := item
      obtain ⟨held', accepted'⟩ := firstItem_some found
      have same := unique k' k v' v held' held accepted' accepted
      subst same
      cases held.symm.trans held'
      rfl

theorem firstItem_eq_of_unique {d d' : Dict κ ν} {test : κ → ν → Bool}
    (unique : d.UniqueMatch test) (same : ∀ k, d'.get? k = d.get? k) :
    d'.firstItem test = d.firstItem test := by
  have unique' : d'.UniqueMatch test := by
    intro a b x y ha hb
    rw [same] at ha hb
    exact unique a b x y ha hb
  apply Option.ext
  rintro ⟨k, v⟩
  rw [firstItem_eq_some_iff unique', firstItem_eq_some_iff unique, same]

end Dict
end OrderedDict
