import Mathlib.Data.List.Infix
import Mathlib.Tactic.Common

/-!
Substitution of whole runs: a regular expression that matches a maximal run of one character
class, between characters outside the class, replaces each such run independently.
-/
namespace RunRewrite
variable {α : Type} (inside : α → Bool)

/-- The text with every maximal run rewritten; `run` is the run read so far. -/
def rewriteFrom (rewrite : List α → List α) (run : List α) : List α → List α
  | [] => rewrite run
  | c :: rest =>
    if inside c then rewriteFrom rewrite (run ++ [c]) rest
    else rewrite run ++ c :: rewriteFrom rewrite [] rest

def rewriteRuns (rewrite : List α → List α) (text : List α) : List α :=
  rewriteFrom inside rewrite [] text

def longRunFrom (n : Nat) (count : Nat) : List α → Bool
  | [] => decide (n ≤ count)
  | c :: rest =>
    if inside c then longRunFrom n (count + 1) rest
    else decide (n ≤ count) || longRunFrom n 0 rest

def hasRun (n : Nat) (text : List α) : Bool := longRunFrom inside n 0 text

def LongRun (n : Nat) (text : List α) : Prop :=
  ∃ run, run <:+: text ∧ n ≤ run.length ∧ ∀ c ∈ run, inside c = true

variable {inside} {n count : Nat} {text : List α}

theorem longRunFrom_of_le (enough : n ≤ count) : longRunFrom inside n count text = true := by
  induction text generalizing count with
  | nil => simp [longRunFrom, enough]
  | cons c rest ih =>
    unfold longRunFrom
    split
    · exact ih (by omega)
    · simp [enough]

theorem longRunFrom_run {run : List α} (all : ∀ c ∈ run, inside c = true) (rest : List α) :
    longRunFrom inside n count (run ++ rest) = longRunFrom inside n (count + run.length) rest := by
  induction run generalizing count with
  | nil => rfl
  | cons c run ih =>
    simp only [List.cons_append, longRunFrom, all c List.mem_cons_self, if_true]
    rw [ih fun d member => all d (List.mem_cons_of_mem c member), List.length_cons]
    congr 1
    omega

theorem longRunFrom_break {c : α} (outside : inside c = false) (front back : List α) :
    longRunFrom inside n count (front ++ c :: back) =
      (longRunFrom inside n count front || hasRun inside n back) := by
  induction front generalizing count with
  | nil => simp [longRunFrom, outside, hasRun]
  | cons d front ih =>
    simp only [List.cons_append, longRunFrom]
    split
    · exact ih
    · rw [ih, Bool.or_assoc]

theorem grown_all {run : List α} {c : α} (all : ∀ d ∈ run, inside d = true) (more : inside c = true) :
    ∀ d ∈ run ++ [c], inside d = true := by
  intro d member
  rcases List.mem_append.mp member with old | new
  · exact all d old
  · rw [List.mem_singleton.mp new]
    exact more

theorem longRun_of_from (read : List α) (all : ∀ c ∈ read, inside c = true)
    (long : longRunFrom inside n read.length text = true) : LongRun inside n (read ++ text) := by
  induction text generalizing read with
  | nil =>
    refine ⟨read, ⟨[], [], by simp⟩, by simpa [longRunFrom] using long, all⟩
  | cons c rest ih =>
    unfold longRunFrom at long
    split at long
    · rename_i more
      have := ih (read ++ [c]) (grown_all all more) (by simpa using long)
      rwa [List.append_assoc, List.singleton_append] at this
    · rcases Bool.or_eq_true_iff.mp long with now | later
      · exact ⟨read, ⟨[], c :: rest, by simp⟩, of_decide_eq_true now, all⟩
      · obtain ⟨run, ⟨front, back, split⟩, size, inRun⟩ := ih [] nofun later
        refine ⟨run, ⟨read ++ c :: front, back, ?_⟩, size, inRun⟩
        rw [List.nil_append] at split
        rw [← split]
        simp

theorem hasRun_iff : hasRun inside n text = true ↔ LongRun inside n text := by
  constructor
  · intro long
    exact longRun_of_from [] nofun long
  · rintro ⟨run, ⟨front, back, rfl⟩, size, all⟩
    unfold hasRun
    generalize 0 = count
    induction front generalizing count with
    | nil =>
      rw [List.nil_append, longRunFrom_run all]
      exact longRunFrom_of_le (by omega)
    | cons c front ih =>
      simp only [List.cons_append, longRunFrom]
      split
      · exact ih _
      · rw [ih, Bool.or_true]

/-- What a rewriting of the runs of length `n` and more may do: it leaves shorter runs alone, and
    what it makes of a longer one has no such run and shows the mark. -/
structure Marks (inside : α → Bool) (n : Nat) (mark : α) (rewrite : List α → List α) : Prop where
  short : ∀ run, run.length < n → rewrite run = run
  broken : ∀ run, n ≤ run.length → hasRun inside n (rewrite run) = false
  marked : ∀ run, n ≤ run.length → mark ∈ rewrite run

section rewriting
variable {rewrite : List α → List α} {mark : α} {run : List α}

theorem Marks.hasRun_rewrite (marks : Marks inside n mark rewrite)
    (all : ∀ c ∈ run, inside c = true) : hasRun inside n (rewrite run) = false := by
  by_cases long : n ≤ run.length
  · exact marks.broken run long
  · rw [marks.short run (Nat.not_le.mp long), hasRun]
    have : longRunFrom inside n 0 (run ++ []) = longRunFrom inside n (0 + run.length) [] :=
      longRunFrom_run all []
    rw [List.append_nil] at this
    rw [this]
    simp only [longRunFrom, decide_eq_false_iff_not]
    omega

theorem Marks.hasRun_rewriteFrom (marks : Marks inside n mark rewrite) (run : List α)
    (all : ∀ c ∈ run, inside c = true) :
    hasRun inside n (rewriteFrom inside rewrite run text) = false := by
  induction text generalizing run with
  | nil => exact marks.hasRun_rewrite all
  | cons c rest ih =>
    unfold rewriteFrom
    split
    · rename_i more
      exact ih (run ++ [c]) (grown_all all more)
    · rename_i outside
      rw [hasRun, longRunFrom_break (by simpa using outside)]
      have first := marks.hasRun_rewrite all
      rw [hasRun] at first
      rw [first, ih [] nofun, Bool.or_false]

theorem Marks.hasRun_rewriteRuns (marks : Marks inside n mark rewrite) :
    hasRun inside n (rewriteRuns inside rewrite text) = false :=
  marks.hasRun_rewriteFrom [] nofun

theorem Marks.rewriteFrom_of_short (marks : Marks inside n mark rewrite) (run : List α)
    (short : longRunFrom inside n run.length text = false) :
    rewriteFrom inside rewrite run text = run ++ text := by
  induction text generalizing run with
  | nil =>
    simp only [longRunFrom, decide_eq_false_iff_not, not_le] at short
    rw [List.append_nil]
    exact marks.short run short
  | cons c rest ih =>
    unfold longRunFrom at short
    unfold rewriteFrom
    split at short
    · rename_i more
      rw [if_pos more, ih (run ++ [c]) (by simpa using short), List.append_assoc, List.singleton_append]
    · rename_i outside
      obtain ⟨now, later⟩ := Bool.or_eq_false_iff.mp short
      simp only [decide_eq_false_iff_not, not_le] at now
      rw [if_neg outside, marks.short run now, ih [] later, List.nil_append]

theorem Marks.rewriteRuns_of_short (marks : Marks inside n mark rewrite)
    (short : hasRun inside n text = false) : rewriteRuns inside rewrite text = text :=
  marks.rewriteFrom_of_short [] short

theorem Marks.rewriteRuns_eq_self_iff (marks : Marks inside n mark rewrite) :
    rewriteRuns inside rewrite text = text ↔ hasRun inside n text = false := by
  constructor
  · intro same
    rw [← same]
    exact marks.hasRun_rewriteRuns
  · exact marks.rewriteRuns_of_short

theorem Marks.marked_from (marks : Marks inside n mark rewrite) (run : List α)
    (long : longRunFrom inside n run.length text = true) :
    mark ∈ rewriteFrom inside rewrite run text := by
  induction text generalizing run with
  | nil =>
    simp only [longRunFrom, decide_eq_true_eq] at long
    exact marks.marked run long
  | cons c rest ih =>
    unfold longRunFrom at long
    unfold rewriteFrom
    split at long
    · rename_i more
      rw [if_pos more]
      exact ih (run ++ [c]) (by simpa using long)
    · rename_i outside
      rw [if_neg outside]
      rcases Bool.or_eq_true_iff.mp long with now | later
      · exact List.mem_append_left _ (marks.marked run (of_decide_eq_true now))
      · exact List.mem_append_right _ (List.mem_cons_of_mem c (ih [] later))

theorem Marks.marked_of_changed (marks : Marks inside n mark rewrite)
    (changed : rewriteRuns inside rewrite text ≠ text) :
    mark ∈ rewriteRuns inside rewrite text := by
  have long : hasRun inside n text = true := by
    rw [Ne, marks.rewriteRuns_eq_self_iff, Bool.not_eq_false] at changed
    exact changed
  exact marks.marked_from [] long

theorem length_rewriteFrom (kept : ∀ piece, (rewrite piece).length = piece.length)
    (run text : List α) : (rewriteFrom inside rewrite run text).length = run.length + text.length := by
  induction text generalizing run with
  | nil => exact kept run
  | cons c rest ih =>
    unfold rewriteFrom
    split
    · rw [ih, List.length_append, List.length_singleton, List.length_cons]
      omega
    · rw [List.length_append, kept, List.length_cons, ih, List.length_nil, List.length_cons]
      omega

theorem length_rewriteRuns (kept : ∀ piece, (rewrite piece).length = piece.length)
    (text : List α) : (rewriteRuns inside rewrite text).length = text.length := by
  rw [rewriteRuns, length_rewriteFrom kept, List.length_nil, Nat.zero_add]

end rewriting

end RunRewrite
