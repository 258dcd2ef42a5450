import EybondLocal.Library.RunRewrite

/-!
Substitution of whole runs that overwrites some positions of a run with one mark and leaves the
others: which positions of a text it hides, said of the text alone.
-/
namespace RunRewrite
variable {α : Type} (inside : α → Bool)

structure MaximalRun (text front run back : List α) : Prop where
  split : text = front ++ (run ++ back)
  all : ∀ c ∈ run, inside c = true
  left : ∀ c ∈ front.getLast?, inside c = false
  right : ∀ c ∈ back.head?, inside c = false

def Hidden (hides : List α → Nat → Prop) (text : List α) (i : Nat) : Prop :=
  ∃ front run back, MaximalRun inside text front run back ∧
    ∃ j, i = front.length + j ∧ hides run j

def Clear (hides : List α → Nat → Prop) (text piece : List α) : Prop :=
  ∃ front back, text = front ++ (piece ++ back) ∧
    ∀ j < piece.length, ¬ Hidden inside hides text (front.length + j)

def Veiled (hides : List α → Nat → Prop) (mark : α) (text shown : List α) : Prop :=
  ∀ i, (Hidden inside hides text i → shown[i]? = some mark) ∧
    (¬ Hidden inside hides text i → shown[i]? = text[i]?)

def Covered (hides : List α → Nat → Prop) (mark : α) (text : List α) (i : Nat) : Prop :=
  Hidden inside hides text i ∨ text[i]? = some mark

/-- Two texts that differ only where both are covered; they are then equally long. -/
def Alike (hides : List α → Nat → Prop) (mark : α) (text other : List α) : Prop :=
  ∀ i, (Covered inside hides mark text i ↔ Covered inside hides mark other i) ∧
    (¬ Covered inside hides mark text i → text[i]? = other[i]?)

structure Veils (hides : List α → Nat → Prop) (mark : α) (rewrite : List α → List α) : Prop where
  within : ∀ run j, hides run j → j < run.length
  marked : ∀ run j, hides run j → (rewrite run)[j]? = some mark
  kept : ∀ run j, ¬ hides run j → (rewrite run)[j]? = run[j]?

variable {inside} {hides : List α → Nat → Prop} {mark : α} {rewrite : List α → List α}
variable {text front run back : List α}

theorem Veils.length_rewrite (veils : Veils hides mark rewrite) (run : List α) :
    (rewrite run).length = run.length := by
  apply Nat.le_antisymm
  · by_contra longer
    have beyond : ¬ hides run run.length := fun hidden =>
      Nat.lt_irrefl _ (veils.within run run.length hidden)
    have same := veils.kept run run.length beyond
    rw [List.getElem?_eq_none (Nat.le_refl _), List.getElem?_eq_none_iff] at same
    omega
  · by_contra shorter
    have present : (rewrite run).length < run.length := by omega
    by_cases hidden : hides run (rewrite run).length
    · have same := veils.marked run _ hidden
      rw [List.getElem?_eq_none (Nat.le_refl _)] at same
      cases same
    · have same := veils.kept run _ hidden
      rw [List.getElem?_eq_none (Nat.le_refl _), List.getElem?_eq_getElem present] at same
      cases same

theorem hidden_run (all : ∀ c ∈ run, inside c = true) {i : Nat} :
    Hidden inside hides run i ↔ hides run i := by
  constructor
  · rintro ⟨front, piece, back, maximal, j, rfl, hid⟩
    have noFront : front = [] := by
      cases last : front.getLast? with
      | none => exact List.getLast?_eq_none_iff.mp last
      | some c =>
        have outside := maximal.left c last
        have member : c ∈ run := by
          rw [maximal.split]
          exact List.mem_append_left _ (List.mem_of_getLast? last)
        rw [all c member] at outside
        cases outside
    have noBack : back = [] := by
      cases first : back.head? with
      | none => exact List.head?_eq_none_iff.mp first
      | some c =>
        have outside := maximal.right c first
        have member : c ∈ run := by
          rw [maximal.split]
          exact List.mem_append_right _ (List.mem_append_right _ (List.mem_of_head? first))
        rw [all c member] at outside
        cases outside
    have whole := maximal.split
    rw [noFront, noBack, List.append_nil, List.nil_append] at whole
    rw [noFront, List.length_nil, Nat.zero_add, whole]
    exact hid
  · intro hid
    exact ⟨[], run, [], ⟨by simp, all, nofun, nofun⟩, i, by simp, hid⟩

/-- A break takes nothing from the runs before it. -/
theorem Hidden.before_break {c : α} (outside : inside c = false) {front : List α} {i : Nat}
    (hidden : Hidden inside hides front i) (back : List α) :
    Hidden inside hides (front ++ c :: back) i := by
  obtain ⟨before, run, after, maximal, j, rfl, hid⟩ := hidden
  refine ⟨before, run, after ++ c :: back, ⟨?_, maximal.all, maximal.left, ?_⟩, j, rfl, hid⟩
  · rw [maximal.split]
    simp
  · intro d head
    cases after with
    | nil =>
      rw [List.nil_append, List.head?_cons, Option.mem_some_iff] at head
      rw [← head]
      exact outside
    | cons e after => exact maximal.right d head

theorem Hidden.after_break {c : α} (outside : inside c = false) {back : List α} {k : Nat}
    (hidden : Hidden inside hides back k) (front : List α) :
    Hidden inside hides (front ++ c :: back) (front.length + 1 + k) := by
  obtain ⟨before, run, after, maximal, j, rfl, hid⟩ := hidden
  refine ⟨front ++ c :: before, run, after, ⟨?_, maximal.all, ?_, maximal.right⟩, j, ?_, hid⟩
  · rw [maximal.split]
    simp
  · intro d last
    cases before using List.reverseRecOn with
    | nil =>
      rw [List.getLast?_append, List.getLast?_singleton, Option.some_or, Option.mem_some_iff] at last
      rw [← last]
      exact outside
    | append_singleton before e =>
      refine maximal.left d ?_
      rw [← List.cons_append, ← List.append_assoc] at last
      rw [List.getLast?_append] at last ⊢
      exact last
  · rw [List.length_append, List.length_cons]
    omega

theorem hidden_break (within : ∀ run j, hides run j → j < run.length) {c : α}
    (outside : inside c = false) (front back : List α) {i : Nat} :
    Hidden inside hides (front ++ c :: back) i ↔
      Hidden inside hides front i ∨ ∃ k, i = front.length + 1 + k ∧ Hidden inside hides back k := by
  constructor
  · rintro ⟨before, run, after, maximal, j, rfl, hid⟩
    have size := within run j hid
    have notInRun : c ∉ run := by
      intro member
      rw [maximal.all c member] at outside
      cases outside
    rcases List.append_eq_append_iff.mp maximal.split.symm with
      ⟨rest, left, right⟩ | ⟨rest, left, right⟩
    · -- The run begins before the character, so it ends there at the latest.
      rcases List.append_eq_append_iff.mp right with ⟨gap, first, second⟩ | ⟨gap, first, second⟩
      · refine .inl ⟨before, run, gap, ⟨by rw [left, first], maximal.all, maximal.left, ?_⟩, j, rfl, hid⟩
        intro d head
        refine maximal.right d ?_
        rw [second, List.head?_append, Option.mem_def.mp head]
        rfl
      · cases gap with
        | nil =>
          rw [List.append_nil] at first
          refine .inl ⟨before, run, [], ⟨?_, maximal.all, maximal.left, nofun⟩, j, rfl, hid⟩
          rw [List.append_nil, left, first]
        | cons d gap =>
          obtain ⟨rfl, -⟩ := List.cons_eq_cons.mp second
          refine absurd ?_ notInRun
          rw [first]
          exact List.mem_append_right rest List.mem_cons_self
    · cases rest with
      | nil =>
        rw [List.nil_append] at right
        cases run with
        | nil => exact absurd size (Nat.not_lt_zero j)
        | cons d run =>
          obtain ⟨rfl, -⟩ := List.cons_eq_cons.mp right
          exact absurd List.mem_cons_self notInRun
      | cons d rest =>
        obtain ⟨rfl, tail⟩ := List.cons_eq_cons.mp right
        refine .inr ⟨rest.length + j, ?_, rest, run, after, ⟨tail, maximal.all, ?_, maximal.right⟩,
          j, rfl, hid⟩
        · rw [left, List.length_append, List.length_cons]
          omega
        · intro e last
          refine maximal.left e ?_
          rw [left, List.getLast?_append, List.getLast?_cons, Option.mem_def.mp last]
          rfl
  · rintro (hidden | ⟨k, rfl, hidden⟩)
    · exact hidden.before_break outside back
    · exact hidden.after_break outside front

theorem Veils.veiled_from (veils : Veils hides mark rewrite) (run : List α)
    (all : ∀ c ∈ run, inside c = true) :
    Veiled inside hides mark (run ++ text) (rewriteFrom inside rewrite run text) := by
  induction text generalizing run with
  | nil =>
    intro i
    rw [List.append_nil, hidden_run all, rewriteFrom]
    exact ⟨veils.marked run i, veils.kept run i⟩
  | cons c rest ih =>
    unfold rewriteFrom
    split
    · rename_i more
      have grown := ih (run ++ [c]) (grown_all all more)
      rwa [List.append_assoc, List.singleton_append] at grown
    · rename_i outside
      intro i
      have later := ih [] nofun
      rw [List.nil_append] at later
      rw [hidden_break veils.within (by simpa using outside), hidden_run all]
      have size := veils.length_rewrite run
      rcases Nat.lt_trichotomy i run.length with before | here | after
      · have notLater : ¬ ∃ k, i = run.length + 1 + k ∧ Hidden inside hides rest k := by
          rintro ⟨k, far, -⟩
          omega
        rw [or_iff_left notLater, List.getElem?_append_left (by omega),
          List.getElem?_append_left before]
        exact ⟨veils.marked run i, veils.kept run i⟩
      · subst here
        constructor
        · rintro (hidden | ⟨k, far, -⟩)
          · exact absurd (veils.within run _ hidden) (Nat.lt_irrefl _)
          · omega
        · intro _
          rw [List.getElem?_append_right (by omega), List.getElem?_append_right (by omega), size,
            Nat.sub_self]
          rfl
      · obtain ⟨k, rfl⟩ : ∃ k, i = run.length + 1 + k := ⟨i - run.length - 1, by omega⟩
        have notHere : ¬ hides run (run.length + 1 + k) := fun hidden => by
          have := veils.within run _ hidden
          omega
        have position : run.length + 1 + k - run.length = k + 1 := by omega
        rw [or_iff_right notHere, List.getElem?_append_right (by omega),
          List.getElem?_append_right (by omega), size, position, List.getElem?_cons_succ,
          List.getElem?_cons_succ]
        constructor
        · rintro ⟨k', same, hidden⟩
          obtain rfl : k' = k := by omega
          exact (later _).1 hidden
        · intro shown
          exact (later k).2 fun hidden => shown ⟨k, rfl, hidden⟩

theorem Veils.veiled_rewriteRuns (veils : Veils hides mark rewrite) (text : List α) :
    Veiled inside hides mark text (rewriteRuns inside rewrite text) :=
  veils.veiled_from [] nofun

theorem Veiled.unique {shown shown' : List α} (first : Veiled inside hides mark text shown)
    (second : Veiled inside hides mark text shown') : shown = shown' := by
  apply List.ext_getElem?
  intro i
  by_cases hidden : Hidden inside hides text i
  · rw [(first i).1 hidden, (second i).1 hidden]
  · rw [(first i).2 hidden, (second i).2 hidden]

theorem Veiled.marked_iff {shown : List α} (veiled : Veiled inside hides mark text shown) (i : Nat) :
    shown[i]? = some mark ↔ Covered inside hides mark text i := by
  by_cases hidden : Hidden inside hides text i
  · exact iff_of_true ((veiled i).1 hidden) (Or.inl hidden)
  · rw [(veiled i).2 hidden, Covered, or_iff_right hidden]

theorem Veils.rewriteRuns_eq_iff (veils : Veils hides mark rewrite) {other : List α} :
    rewriteRuns inside rewrite text = rewriteRuns inside rewrite other ↔
      Alike inside hides mark text other := by
  have left : Veiled inside hides mark text _ := veils.veiled_rewriteRuns text
  have right : Veiled inside hides mark other _ := veils.veiled_rewriteRuns other
  constructor
  · intro same i
    have marked : Covered inside hides mark text i ↔ Covered inside hides mark other i := by
      rw [← left.marked_iff, ← right.marked_iff, same]
    refine ⟨marked, fun bare => ?_⟩
    have bareOther := bare ∘ marked.mpr
    rw [← (left i).2 (bare ∘ Or.inl), ← (right i).2 (bareOther ∘ Or.inl), same]
  · intro alike
    apply List.ext_getElem?
    intro i
    obtain ⟨marked, bare⟩ := alike i
    by_cases covered : Covered inside hides mark text i
    · rw [(left.marked_iff i).mpr covered, (right.marked_iff i).mpr (marked.mp covered)]
    · have uncovered := covered ∘ marked.mpr
      rw [(left i).2 (covered ∘ Or.inl), (right i).2 (uncovered ∘ Or.inl), bare covered]

theorem Veils.changed_iff (veils : Veils hides mark rewrite) (outside : inside mark = false) :
    rewriteRuns inside rewrite text ≠ text ↔ ∃ i, Hidden inside hides text i := by
  have veiled : Veiled inside hides mark text _ := veils.veiled_rewriteRuns text
  constructor
  · intro changed
    by_contra none
    refine changed (List.ext_getElem? fun i => ?_)
    exact (veiled i).2 fun hidden => none ⟨i, hidden⟩
  · rintro ⟨i, hidden⟩ same
    have marked := (veiled i).1 hidden
    rw [same] at marked
    obtain ⟨front, run, back, maximal, j, rfl, hid⟩ := hidden
    have size := veils.within run j hid
    rw [maximal.split, List.getElem?_append_right (by omega), Nat.add_sub_cancel_left,
      List.getElem?_append_left size] at marked
    have inRun := maximal.all mark (List.mem_of_getElem? marked)
    rw [outside] at inRun
    cases inRun

theorem Veils.clear_contained (veils : Veils hides mark rewrite) {piece : List α}
    (clear : Clear inside hides text piece) : piece <:+: rewriteRuns inside rewrite text := by
  obtain ⟨front, back, split, open'⟩ := clear
  have veiled : Veiled inside hides mark text _ := veils.veiled_rewriteRuns text
  have size : (rewriteRuns inside rewrite text).length = text.length :=
    length_rewriteRuns veils.length_rewrite text
  rw [List.infix_iff_getElem?]
  refine ⟨front.length, ?_, fun j small => ?_⟩
  · rw [size, split, List.length_append, List.length_append]
    omega
  · rw [Nat.add_comm, (veiled _).2 (open' j small), split, List.getElem?_append_right (by omega),
      Nat.add_sub_cancel_left, List.getElem?_append_left small, List.getElem?_eq_getElem small]

theorem Veils.clear_of_contained (veils : Veils hides mark rewrite) {piece : List α}
    (unmarked : mark ∉ piece) (found : piece <:+: rewriteRuns inside rewrite text) :
    Clear inside hides text piece := by
  have veiled : Veiled inside hides mark text _ := veils.veiled_rewriteRuns text
  have size : (rewriteRuns inside rewrite text).length = text.length :=
    length_rewriteRuns veils.length_rewrite text
  obtain ⟨start, fits, same⟩ := List.infix_iff_getElem?.mp found
  have open' : ∀ j < piece.length, ¬ Hidden inside hides text (start + j) := by
    intro j small hidden
    have marked := (veiled _).1 hidden
    rw [Nat.add_comm, same j small, Option.some_inj] at marked
    exact unmarked (marked ▸ List.getElem_mem small)
  have original : piece = (text.drop start).take piece.length := by
    apply List.ext_getElem?
    intro j
    rw [List.getElem?_take]
    split
    · rename_i small
      rw [List.getElem?_drop, ← (veiled _).2 (open' j small), Nat.add_comm, same j small,
        List.getElem?_eq_getElem small]
    · rename_i large
      exact List.getElem?_eq_none (by omega)
  refine ⟨text.take start, (text.drop start).drop piece.length, ?_, fun j small => ?_⟩
  · conv_rhs => rw [original]
    rw [List.length_take, Nat.min_eq_left (by rw [List.length_drop]; omega), List.take_append_drop,
      List.take_append_drop]
  · rw [List.length_take, Nat.min_eq_left (by omega)]
    exact open' j small

end RunRewrite
