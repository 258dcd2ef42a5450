import Mathlib.Tactic.Common

/-!
A growing table of entries in which some are derived from others, by key, and each carries a flag.
When every entry that is added is flagged exactly when its immediate sources are, each derived entry
is flagged exactly when every base entry is that it rests on through any chain of derived ones.
-/
namespace DerivedFlags
variable {κ π : Type}

structure Derivation (κ π : Type) where
  sources : π → List κ
  base : π → Prop
  flag : π → Prop

namespace Derivation
variable (d : Derivation κ π)

inductive RestsOn (table : κ → Option π) : κ → κ → Prop
  | source {key used : κ} {entry : π} (held : table key = some entry) (derived : ¬ d.base entry)
      (member : used ∈ d.sources entry) : RestsOn table key used
  | through {key middle used : κ} {entry : π} (held : table key = some entry)
      (derived : ¬ d.base entry) (member : middle ∈ d.sources entry)
      (rest : RestsOn table middle used) : RestsOn table key used

def Law (table : κ → Option π) : Prop :=
  ∀ key entry, table key = some entry → ¬ d.base entry →
    (d.flag entry ↔ ∀ used source, d.RestsOn table key used → table used = some source →
      d.base source → d.flag source)

def Closed (table : κ → Option π) : Prop :=
  ∀ key entry, table key = some entry → ¬ d.base entry →
    ∀ used ∈ d.sources entry, (table used).isSome

variable {d} {table grown : κ → Option π} {new : κ} {added : π}

structure Extends (d : Derivation κ π) (table grown : κ → Option π) (new : κ) (added : π) :
    Prop where
  fresh : table new = none
  held : grown new = some added
  others : ∀ key, key ≠ new → grown key = table key
  derived : ¬ d.base added
  present : ∀ used ∈ d.sources added, (table used).isSome
  flagged : d.flag added ↔ ∀ used ∈ d.sources added, ∀ source, table used = some source →
    d.flag source

namespace Extends

theorem ne_of_held (ext : Extends d table grown new added) {key : κ} {entry : π}
    (held : table key = some entry) : key ≠ new := by
  rintro rfl
  rw [ext.fresh] at held
  cases held

theorem grown_of_held (ext : Extends d table grown new added) {key : κ} {entry : π}
    (held : table key = some entry) : grown key = some entry := by
  rw [ext.others key (ext.ne_of_held held), held]

theorem restsOn_grown (ext : Extends d table grown new added) {key used : κ}
    (rests : d.RestsOn table key used) : d.RestsOn grown key used := by
  induction rests with
  | source held derived member => exact .source (ext.grown_of_held held) derived member
  | through held derived member _ ih => exact .through (ext.grown_of_held held) derived member ih

theorem restsOn_table (ext : Extends d table grown new added) (closed : d.Closed table)
    {key used : κ} (rests : d.RestsOn grown key used) (held : (table key).isSome) :
    d.RestsOn table key used ∧ (table used).isSome := by
  induction rests with
  | @source key used entry grownHeld derived member =>
    obtain ⟨entry', held⟩ := Option.isSome_iff_exists.mp held
    rw [ext.others key (ext.ne_of_held held)] at grownHeld
    exact ⟨.source grownHeld derived member, closed key entry grownHeld derived used member⟩
  | @through key middle used entry grownHeld derived member _ ih =>
    obtain ⟨entry', held⟩ := Option.isSome_iff_exists.mp held
    rw [ext.others key (ext.ne_of_held held)] at grownHeld
    obtain ⟨rest, present⟩ := ih (closed key entry grownHeld derived middle member)
    exact ⟨.through grownHeld derived member rest, present⟩

theorem closed (ext : Extends d table grown new added) (before : d.Closed table) :
    d.Closed grown := by
  intro key entry held derived used member
  have source_held : ∀ k, (table k).isSome → (grown k).isSome := by
    intro k present
    obtain ⟨source, held⟩ := Option.isSome_iff_exists.mp present
    rw [ext.grown_of_held held]
    rfl
  by_cases same : key = new
  · subst same
    rw [ext.held] at held
    cases held
    exact source_held used (ext.present used member)
  · rw [ext.others key same] at held
    exact source_held used (before key entry held derived used member)

theorem law (ext : Extends d table grown new added) (closed : d.Closed table)
    (before : d.Law table) : d.Law grown := by
  intro key entry held derived
  by_cases same : key = new
  · subst same
    rw [ext.held] at held
    cases held
    rw [ext.flagged]
    constructor
    · -- a base entry is a source itself, or lies below a derived source
      intro sources used base rests baseHeld isBase
      cases rests with
      | source held' _ member =>
        rw [ext.held] at held'
        cases held'
        obtain ⟨source, sourceHeld⟩ := Option.isSome_iff_exists.mp (ext.present used member)
        rw [ext.grown_of_held sourceHeld] at baseHeld
        cases baseHeld
        exact sources used member _ sourceHeld
      | @through _ middle _ _ held' _ member rest =>
        rw [ext.held] at held'
        cases held'
        have present := ext.present middle member
        obtain ⟨source, sourceHeld⟩ := Option.isSome_iff_exists.mp present
        obtain ⟨below, usedPresent⟩ := ext.restsOn_table closed rest present
        obtain ⟨base', usedHeld⟩ := Option.isSome_iff_exists.mp usedPresent
        rw [ext.grown_of_held usedHeld] at baseHeld
        cases baseHeld
        have sourceDerived : ¬ d.base source := by
          cases below with
          | source h derived' _ => exact Option.some.inj (h.symm.trans sourceHeld) ▸ derived'
          | through h derived' _ _ => exact Option.some.inj (h.symm.trans sourceHeld) ▸ derived'
        exact (before middle source sourceHeld sourceDerived).mp
          (sources middle member source sourceHeld) used _ below usedHeld isBase
    · intro all used member source sourceHeld
      by_cases isBase : d.base source
      · exact all used source (.source ext.held derived member) (ext.grown_of_held sourceHeld)
          isBase
      · rw [before used source sourceHeld isBase]
        intro used' base rests baseHeld isBase'
        exact all used' base (.through ext.held derived member (ext.restsOn_grown rests))
          (ext.grown_of_held baseHeld) isBase'
  · have tableHeld : table key = some entry := by rw [← ext.others key same, held]
    rw [before key entry tableHeld derived]
    constructor
    · intro all used source rests sourceHeld isBase
      obtain ⟨below, present⟩ := ext.restsOn_table closed rests (by simp [tableHeld])
      obtain ⟨source', usedHeld⟩ := Option.isSome_iff_exists.mp present
      rw [ext.grown_of_held usedHeld] at sourceHeld
      cases sourceHeld
      exact all used _ below usedHeld isBase
    · intro all used source rests sourceHeld isBase
      exact all used source (ext.restsOn_grown rests) (ext.grown_of_held sourceHeld) isBase

end Extends
end Derivation
end DerivedFlags
