import Mathlib.Algebra.Order.Group.Int
import Mathlib.Data.List.Pairwise
import Mathlib.Data.List.Sort
import Mathlib.Tactic.Common

/-!
Points on the integer line in the order of their positions, and the one that is nearest to a place.
A binary search finds the two neighbours of the place, and one of them is the nearest point unless
both are equally far.
-/
namespace NearestPoint

/-- `bisect_left` between two bounds, in so many halvings at most. -/
def bisectBetween (positions : List Int) (place : Int) : Nat → Nat → Nat → Nat
  | 0, low, _ => low
  | fuel + 1, low, high =>
    if low < high then
      let middle := (low + high) / 2
      if (positions[middle]?.any (· < place)) then bisectBetween positions place fuel (middle + 1) high
      else bisectBetween positions place fuel low middle
    else low

def bisectLeft (positions : List Int) (place : Int) : Nat :=
  bisectBetween positions place positions.length 0 positions.length

def Splits (positions : List Int) (place : Int) (index : Nat) : Prop :=
  index ≤ positions.length ∧
    ∀ (i : Nat) (inside : i < positions.length), positions[i] < place ↔ i < index

theorem splits_bisectBetween {positions : List Int} {place : Int}
    (sorted : positions.Pairwise (· < ·)) {fuel low high : Nat} (enough : high ≤ low + fuel)
    (ordered : low ≤ high) (bounded : high ≤ positions.length)
    (below : ∀ (i : Nat) (inside : i < positions.length), i < low → positions[i] < place)
    (above : ∀ (i : Nat) (inside : i < positions.length), high ≤ i → ¬ positions[i] < place) :
    Splits positions place (bisectBetween positions place fuel low high) := by
  have climbs (i j : Nat) (first : i < positions.length) (second : j < positions.length)
      (le : i ≤ j) : positions[i] ≤ positions[j] := by
    rcases Nat.eq_or_lt_of_le le with rfl | lt
    · exact le_rfl
    · exact (List.pairwise_iff_getElem.mp sorted i j first second lt).le
  induction fuel generalizing low high with
  | zero =>
    have met : low = high := by omega
    subst met
    refine ⟨bounded, fun i inside => ⟨fun under => ?_, below i inside⟩⟩
    by_contra beyond
    exact above i inside (Nat.le_of_not_lt beyond) under
  | succ fuel ih =>
    rw [bisectBetween]
    split
    · rename_i apart
      have inside : (low + high) / 2 < positions.length := by omega
      simp only [List.getElem?_eq_getElem inside, Option.any_some]
      by_cases under : positions[(low + high) / 2] < place
      · rw [if_pos (by simpa using under)]
        refine ih (by omega) (by omega) bounded (fun i within lt => ?_) above
        exact (climbs i _ within inside (by omega)).trans_lt under
      · rw [if_neg (by simpa using under)]
        refine ih (by omega) (by omega) (by omega) below (fun i within le => ?_)
        exact fun lt => under ((climbs _ i inside within le).trans_lt lt)
    · have met : low = high := by omega
      subst met
      refine ⟨bounded, fun i inside => ⟨fun under => ?_, below i inside⟩⟩
      by_contra beyond
      exact above i inside (Nat.le_of_not_lt beyond) under

theorem splits_bisectLeft {positions : List Int} (sorted : positions.Pairwise (· < ·))
    (place : Int) : Splits positions place (bisectLeft positions place) :=
  splits_bisectBetween sorted (by omega) (by omega) le_rfl
    (fun _ _ none_below => absurd none_below (by omega)) (fun _ inside beyond => by omega)

section
variable {β : Type}

def distance (place : Int) (point : Int × β) : Nat := (point.1 - place).natAbs

/-- Within the tolerance, and nearer than every point at another position. -/
def UniqueNearest (points : List (Int × β)) (tolerance place : Int) (point : Int × β) : Prop :=
  (distance place point : Int) ≤ tolerance ∧
    ∀ other ∈ points, other.1 ≠ point.1 → distance place point < distance place other

instance (points : List (Int × β)) (tolerance place : Int) :
    DecidablePred (UniqueNearest points tolerance place) :=
  fun point => inferInstanceAs (Decidable ((distance place point : Int) ≤ tolerance ∧
    ∀ other ∈ points, other.1 ≠ point.1 → distance place point < distance place other))

def nearestPoint (points : List (Int × β)) (tolerance place : Int) : Option (Int × β) :=
  points.find? fun point => UniqueNearest points tolerance place point

def nearestNeighbour (points : List (Int × β)) (tolerance place : Int) : Option β :=
  let index := bisectLeft (points.map Prod.fst) place
  let neighbours := (if 0 < index then points[index - 1]?.toList else []) ++ points[index]?.toList
  let near := neighbours.filter fun point => (distance place point : Int) ≤ tolerance
  match near.insertionSort fun a b => distance place a ≤ distance place b with
  | [] => none
  | [only] => some only.2
  | first :: second :: _ =>
    if distance place first = distance place second then none else some first.2

def Ascending (points : List (Int × β)) : Prop := points.Pairwise fun a b => a.1 < b.1

variable {points : List (Int × β)}

theorem nearestPoint_eq_some_iff (ascending : Ascending points) {tolerance place : Int}
    {point : Int × β} : nearestPoint points tolerance place = some point ↔
      point ∈ points ∧ UniqueNearest points tolerance place point := by
  have positions_differ : points.Pairwise fun a b => a.1 ≠ b.1 := ascending.imp fun lt => lt.ne
  have : Std.Symm fun a b : Int × β => a.1 ≠ b.1 := ⟨fun _ _ apart => Ne.symm apart⟩
  have same_position {a b : Int × β} (first : a ∈ points) (second : b ∈ points)
      (same : a.1 = b.1) : a = b := by
    by_contra differ
    exact positions_differ.forall first second differ same
  constructor
  · intro found
    exact ⟨List.mem_of_find?_eq_some found, by simpa using List.find?_some found⟩
  · rintro ⟨member, nearest⟩
    cases found : nearestPoint points tolerance place with
    | none =>
      have rejected := List.find?_eq_none.mp found point member
      simp [nearest] at rejected
    | some other =>
      have other_member := List.mem_of_find?_eq_some found
      have other_nearest : UniqueNearest points tolerance place other := by
        simpa using List.find?_some found
      by_cases same : other.1 = point.1
      · rw [same_position other_member member same]
      · have nearer := other_nearest.2 point member (Ne.symm same)
        have nearer' := nearest.2 other other_member same
        omega

structure Cut (points : List (Int × β)) (place : Int) (before after : List (Int × β)) : Prop where
  whole : points = before ++ after
  before_lt : ∀ point ∈ before, point.1 < place
  after_ge : ∀ point ∈ after, place ≤ point.1

theorem cut_bisect (ascending : Ascending points) (place : Int) :
    Cut points place (points.take (bisectLeft (points.map Prod.fst) place))
      (points.drop (bisectLeft (points.map Prod.fst) place)) := by
  have sorted : (points.map Prod.fst).Pairwise (· < ·) := List.pairwise_map.mpr ascending
  obtain ⟨-, splits⟩ := splits_bisectLeft sorted place
  refine ⟨(List.take_append_drop _ _).symm, fun point member => ?_, fun point member => ?_⟩
  · obtain ⟨i, inside, rfl⟩ := List.mem_iff_getElem.mp member
    rw [List.length_take] at inside
    have under := (splits i (by rw [List.length_map]; omega)).mpr (by omega)
    simpa using under
  · obtain ⟨i, inside, rfl⟩ := List.mem_iff_getElem.mp member
    rw [List.length_drop] at inside
    have later := (splits (bisectLeft (points.map Prod.fst) place + i)
      (by rw [List.length_map]; omega)).not.mpr (by omega)
    simpa using later

/-- Only the last point before the place and the first one after it can be nearest. -/
theorem neighbour_of_nearest {tolerance place : Int} {before after : List (Int × β)}
    {point : Int × β} (ascending : Ascending points) (cut : Cut points place before after)
    (member : point ∈ points) (nearest : UniqueNearest points tolerance place point) :
    before.getLast? = some point ∨ after.head? = some point := by
  obtain ⟨rfl, before_lt, after_ge⟩ := cut
  obtain ⟨before_ascending, after_ascending, -⟩ := List.pairwise_append.mp ascending
  rcases List.mem_append.mp member with early | late
  · left
    rcases List.eq_nil_or_concat' before with rfl | ⟨front, last, rfl⟩
    · cases early
    · rcases List.mem_append.mp early with inner | here
      · have lt := (List.pairwise_append.mp before_ascending).2.2 point inner last (by simp)
        have nearer := nearest.2 last (by simp) (by omega)
        have under := before_lt last (by simp)
        unfold distance at nearer
        omega
      · rw [List.mem_singleton.mp here]
        simp
  · right
    cases after with
    | nil => cases late
    | cons first rest =>
      rcases List.mem_cons.mp late with rfl | inner
      · rfl
      · have lt := (List.pairwise_cons.mp after_ascending).1 point inner
        have nearer := nearest.2 first (by simp) (by omega)
        have later := after_ge first (by simp)
        unfold distance at nearer
        omega

theorem distance_before {place : Int} {before after : List (Int × β)} {last point : Int × β}
    (ascending : Ascending points) (cut : Cut points place before after)
    (neighbour : before.getLast? = some last) (member : point ∈ before) (apart : point.1 ≠ last.1) :
    distance place last < distance place point := by
  obtain ⟨rfl, before_lt, -⟩ := cut
  obtain ⟨front, rfl⟩ := List.getLast?_eq_some_iff.mp neighbour
  have under := before_lt last (by simp)
  rcases List.mem_append.mp member with inner | here
  · have lt := (List.pairwise_append.mp (List.pairwise_append.mp ascending).1).2.2 point inner last
      (by simp)
    unfold distance
    omega
  · exact absurd (congrArg Prod.fst (List.mem_singleton.mp here)) apart

theorem distance_after {place : Int} {before after : List (Int × β)} {first point : Int × β}
    (ascending : Ascending points) (cut : Cut points place before after)
    (neighbour : after.head? = some first) (member : point ∈ after) (apart : point.1 ≠ first.1) :
    distance place first < distance place point := by
  obtain ⟨rfl, -, after_ge⟩ := cut
  obtain ⟨rest, rfl⟩ := List.head?_eq_some_iff.mp neighbour
  have later := after_ge first (by simp)
  rcases List.mem_cons.mp member with here | inner
  · exact absurd (congrArg Prod.fst here) apart
  · have lt := (List.pairwise_cons.mp (List.pairwise_append.mp ascending).2.1).1 point inner
    unfold distance
    omega

theorem nearest_last_iff {tolerance place : Int} {before after : List (Int × β)} {last : Int × β}
    (ascending : Ascending points) (cut : Cut points place before after)
    (neighbour : before.getLast? = some last) :
    UniqueNearest points tolerance place last ↔ (distance place last : Int) ≤ tolerance ∧
      ∀ first, after.head? = some first → distance place last < distance place first := by
  refine and_congr_right fun _ => ?_
  have under : last.1 < place := cut.before_lt last (List.mem_of_getLast? neighbour)
  constructor
  · intro nearest first head
    have member := List.mem_of_head? head
    have later := cut.after_ge first member
    exact nearest first (cut.whole ▸ List.mem_append_right before member) (by omega)
  · intro nearer other member apart
    rw [cut.whole] at member
    rcases List.mem_append.mp member with early | late
    · exact distance_before ascending cut neighbour early apart
    · obtain ⟨first, head⟩ : ∃ first, after.head? = some first := by
        cases after with
        | nil => cases late
        | cons first rest => exact ⟨first, rfl⟩
      have step := nearer first head
      by_cases here : other.1 = first.1
      · unfold distance at step ⊢
        omega
      · exact step.trans (distance_after ascending cut head late here)

theorem nearest_head_iff {tolerance place : Int} {before after : List (Int × β)} {first : Int × β}
    (ascending : Ascending points) (cut : Cut points place before after)
    (neighbour : after.head? = some first) :
    UniqueNearest points tolerance place first ↔ (distance place first : Int) ≤ tolerance ∧
      ∀ last, before.getLast? = some last → distance place first < distance place last := by
  refine and_congr_right fun _ => ?_
  have later : place ≤ first.1 := cut.after_ge first (List.mem_of_head? neighbour)
  constructor
  · intro nearest last end_
    have member := List.mem_of_getLast? end_
    have under := cut.before_lt last member
    exact nearest last (cut.whole ▸ List.mem_append_left after member) (by omega)
  · intro nearer other member apart
    rw [cut.whole] at member
    rcases List.mem_append.mp member with early | late
    · obtain ⟨last, end_⟩ : ∃ last, before.getLast? = some last := by
        rcases List.eq_nil_or_concat' before with rfl | ⟨front, last, rfl⟩
        · cases early
        · exact ⟨last, by simp⟩
      have step := nearer last end_
      by_cases here : other.1 = last.1
      · unfold distance at step ⊢
        omega
      · exact step.trans (distance_before ascending cut end_ early here)
    · exact distance_after ascending cut neighbour late apart

theorem choose_nearest (tolerance place : Int) (last first : Option (Int × β)) :
    (match ((last.toList ++ first.toList).filter fun point =>
        (distance place point : Int) ≤ tolerance).insertionSort
          fun a b => distance place a ≤ distance place b with
      | [] => none
      | [only] => some only.2
      | a :: b :: _ => if distance place a = distance place b then none else some a.2) =
    ((last.filter fun a => (distance place a : Int) ≤ tolerance ∧
        first.all (distance place a < distance place ·)).or
      (first.filter fun b => (distance place b : Int) ≤ tolerance ∧
        last.all (distance place b < distance place ·))).map Prod.snd := by
  cases last with
  | none =>
    cases first with
    | none => rfl
    | some b =>
      by_cases near : (distance place b : Int) ≤ tolerance
      · simp [near, Option.filter]
      · simp [near, Option.filter]
  | some a =>
    cases first with
    | none =>
      by_cases near : (distance place a : Int) ≤ tolerance
      · simp [near, Option.filter]
      · simp [near, Option.filter]
    | some b =>
      by_cases near : (distance place a : Int) ≤ tolerance
      · by_cases near' : (distance place b : Int) ≤ tolerance
        · rcases Nat.lt_trichotomy (distance place a) (distance place b) with lt | same | gt
          · simp [near, near', Option.filter, lt, lt.le, lt.ne]
          · simp [near', Option.filter, same]
          · simp [near, near', Option.filter, gt, gt.not_ge, gt.not_gt, gt.ne]
        · have lt : distance place a < distance place b := by omega
          simp [near, near', Option.filter, lt]
      · by_cases near' : (distance place b : Int) ≤ tolerance
        · have gt : distance place b < distance place a := by omega
          simp [near, near', Option.filter, gt]
        · simp [near, near', Option.filter]

theorem nearestNeighbour_eq (ascending : Ascending points) (tolerance place : Int) :
    nearestNeighbour points tolerance place =
      (nearestPoint points tolerance place).map Prod.snd := by
  have cut := cut_bisect ascending place
  have bounded : bisectLeft (points.map Prod.fst) place ≤ points.length := by
    simpa using (splits_bisectLeft (List.pairwise_map.mpr ascending) place).1
  unfold nearestNeighbour
  generalize bisectLeft (points.map Prod.fst) place = index at cut bounded
  have neighbours : (if 0 < index then points[index - 1]?.toList else []) ++ points[index]?.toList =
      (points.take index).getLast?.toList ++ (points.drop index).head?.toList := by
    rw [List.head?_drop, List.getLast?_take]
    by_cases start : index = 0
    · simp [start]
    · have inside : index - 1 < points.length := by omega
      simp [start, Nat.pos_of_ne_zero start, List.getElem?_eq_getElem inside]
  dsimp only
  rw [neighbours, choose_nearest]
  congr 1
  ext point
  rw [nearestPoint_eq_some_iff ascending, Option.or_eq_some_iff, Option.filter_eq_some_iff,
    Option.filter_eq_none_iff, Option.filter_eq_some_iff]
  simp only [decide_eq_true_eq, Option.all_eq_true]
  constructor
  · rintro (⟨neighbour, near⟩ | ⟨-, neighbour, near⟩)
    · exact ⟨List.mem_of_mem_take (List.mem_of_getLast? neighbour),
        (nearest_last_iff ascending cut neighbour).mpr near⟩
    · exact ⟨List.mem_of_mem_drop (List.mem_of_head? neighbour),
        (nearest_head_iff ascending cut neighbour).mpr near⟩
  · rintro ⟨member, nearest⟩
    rcases neighbour_of_nearest ascending cut member nearest with neighbour | neighbour
    · exact Or.inl ⟨neighbour, (nearest_last_iff ascending cut neighbour).mp nearest⟩
    · have near := (nearest_head_iff ascending cut neighbour).mp nearest
      refine Or.inr ⟨fun last end_ closer => ?_, neighbour, near⟩
      have there := closer.2 point neighbour
      have back := near.2 last end_
      omega

end

end NearestPoint
