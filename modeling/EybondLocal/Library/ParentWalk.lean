import Mathlib.Logic.Relation
import Mathlib.Data.List.Nodup
import Mathlib.Data.List.Perm.Subperm

/-!
Walks from parent to parent, cut off after a number of steps. A walk of any length passes each
place once exactly when no place it can reach is its own ancestor.
-/
namespace ParentWalk
open Relation
variable {α : Type*} (parent : α → Option α)

def IsParent (child up : α) : Prop := parent child = some up

def walk : Nat → α → List α
  | 0, _ => []
  | n + 1, a => a :: match parent a with
    | some up => walk n up
    | none => []

def NoLoop (a : α) : Prop :=
  ∀ b, ReflTransGen (IsParent parent) a b → ¬ TransGen (IsParent parent) b b

variable {parent}

theorem walk_of_parent {a up : α} (is : parent a = some up) (n : Nat) :
    walk parent (n + 1) a = a :: walk parent n up := by
  rw [walk, is]

theorem walk_of_root {a : α} (root : parent a = none) (n : Nat) :
    walk parent (n + 1) a = [a] := by
  rw [walk, root]

theorem reaches_of_mem {n : Nat} {a b : α} (mem : b ∈ walk parent n a) :
    ReflTransGen (IsParent parent) a b := by
  induction n generalizing a with
  | zero => exact absurd mem List.not_mem_nil
  | succ n ih =>
    cases is : parent a with
    | none =>
      rw [walk_of_root is, List.mem_singleton] at mem
      exact mem ▸ ReflTransGen.refl
    | some up =>
      rw [walk_of_parent is, List.mem_cons] at mem
      rcases mem with rfl | later
      · exact ReflTransGen.refl
      · exact ReflTransGen.head is (ih later)

theorem walk_through {a b : α} (reaches : ReflTransGen (IsParent parent) a b) :
    ∃ front : List α, ∀ n, walk parent (front.length + n) a = front ++ walk parent n b := by
  induction reaches using ReflTransGen.head_induction_on with
  | refl => exact ⟨[], fun n => by rw [List.length_nil, Nat.zero_add, List.nil_append]⟩
  | @head start _ is _ ih =>
    obtain ⟨front, passes⟩ := ih
    refine ⟨start :: front, fun n => ?_⟩
    rw [List.length_cons, Nat.add_right_comm, walk_of_parent is, passes, List.cons_append]

theorem noLoop_parent {a up : α} (is : parent a = some up) (noLoop : NoLoop parent a) :
    NoLoop parent up :=
  fun b reaches => noLoop b (ReflTransGen.head is reaches)

theorem nodup_of_noLoop {a : α} (noLoop : NoLoop parent a) (n : Nat) :
    (walk parent n a).Nodup := by
  induction n generalizing a with
  | zero => exact List.nodup_nil
  | succ n ih =>
    cases is : parent a with
    | none =>
      rw [walk_of_root is]
      exact List.nodup_singleton a
    | some up =>
      rw [walk_of_parent is]
      refine List.nodup_cons.mpr ⟨fun again => ?_, ih (noLoop_parent is noLoop)⟩
      exact noLoop a ReflTransGen.refl (TransGen.head' is (reaches_of_mem again))

theorem noLoop_of_nodup {a : α} (nodup : ∀ n, (walk parent n a).Nodup) : NoLoop parent a := by
  intro b reaches loop
  obtain ⟨front, arrives⟩ := walk_through reaches
  obtain ⟨up, is, back⟩ := TransGen.head'_iff.mp loop
  obtain ⟨round, returns⟩ := walk_through back
  have passed := nodup (front.length + (round.length + 1 + 1))
  rw [arrives, walk_of_parent is, returns, walk] at passed
  have here := (List.nodup_cons.mp (List.nodup_append.mp passed).2.1).1
  exact here (List.mem_append.mpr (Or.inr List.mem_cons_self))

theorem length_of_cut {n : Nat} {a : α} {places : List α}
    (cut : ∀ b ∈ walk parent n a, parent b ≠ none ∧ b ∈ places) (noLoop : NoLoop parent a) :
    n ≤ places.length := by
  have length : (walk parent n a).length = n := by
    clear noLoop
    induction n generalizing a with
    | zero => rfl
    | succ n ih =>
      obtain ⟨some_parent, _⟩ := cut a (by rw [walk]; exact List.mem_cons_self)
      obtain ⟨up, is⟩ := Option.ne_none_iff_exists'.mp some_parent
      rw [walk_of_parent is] at cut ⊢
      rw [List.length_cons, ih fun b mem => cut b (List.mem_cons_of_mem a mem)]
  rw [← length]
  exact ((nodup_of_noLoop noLoop n).subperm fun b mem => (cut b mem).2).length_le

end ParentWalk
