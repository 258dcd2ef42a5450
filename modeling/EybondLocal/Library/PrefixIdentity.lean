import Mathlib.Data.List.Infix
import Mathlib.Tactic.Common

/-!
Identities that may be observed under a shortened spelling. Two spellings are
compatible when they are equal, or both are at least `least` long and one begins
the other. Compatibility is reflexive and symmetric but not transitive: two long
spellings that diverge are both compatible with their common beginning.

What survives of transitivity is monotonicity: whatever is compatible with the
longer of two compatible spellings is compatible with the shorter one. So an
exclusive assignment of spellings stays exclusive when one of them is extended.
-/
namespace PrefixIdentity
variable {α ω : Type}

def Compatible (least : Nat) (a b : List α) : Prop :=
  a ≠ [] ∧ b ≠ [] ∧ (a = b ∨ least ≤ min a.length b.length ∧ (a <+: b ∨ b <+: a))

theorem compatible_refl {least : Nat} {a : List α} (nonempty : a ≠ []) : Compatible least a a :=
  ⟨nonempty, nonempty, Or.inl rfl⟩

theorem compatible_symm {least : Nat} {a b : List α} (h : Compatible least a b) :
    Compatible least b a := by
  obtain ⟨ha, hb, eq | ⟨long, prefixes⟩⟩ := h
  · exact ⟨hb, ha, Or.inl eq.symm⟩
  · exact ⟨hb, ha, Or.inr ⟨by omega, prefixes.symm⟩⟩

theorem compatible_comm {least : Nat} {a b : List α} :
    Compatible least a b ↔ Compatible least b a :=
  ⟨compatible_symm, compatible_symm⟩

theorem compatible_shorter_begins {least : Nat} {a b : List α} (h : Compatible least a b)
    (shorter : a.length ≤ b.length) : a <+: b := by
  obtain ⟨_, _, eq | ⟨_, ab | ba⟩⟩ := h
  · exact eq ▸ List.prefix_rfl
  · exact ab
  · exact (ba.eq_of_length (Nat.le_antisymm ba.length_le shorter)) ▸ List.prefix_rfl

theorem compatible_shorter_long {least : Nat} {a b : List α} (h : Compatible least a b) :
    a = b ∨ least ≤ a.length := by
  obtain ⟨_, _, eq | ⟨long, _⟩⟩ := h
  · exact Or.inl eq
  · exact Or.inr (by omega)

theorem compatible_of_extension {least : Nat} {short full other : List α}
    (same : Compatible least short full) (shorter : short.length ≤ full.length)
    (h : Compatible least other full) : Compatible least other short := by
  have begins := compatible_shorter_begins same shorter
  rcases compatible_shorter_long same with eq | long
  · exact eq ▸ h
  · obtain ⟨ho, _, eq | ⟨bound, of | fo⟩⟩ := h
    · exact eq ▸ compatible_symm same
    · refine ⟨ho, same.1, Or.inr ⟨by omega, ?_⟩⟩
      exact List.prefix_or_prefix_of_prefix of begins
    · exact ⟨ho, same.1, Or.inr ⟨by omega, Or.inr (begins.trans fo)⟩⟩

theorem compatible_with_both_iff {least : Nat} (positive : 0 < least) {a b common : List α}
    (apart : ¬ Compatible least a b) :
    Compatible least a common ∧ Compatible least b common ↔
      least ≤ common.length ∧ common <+: a ∧ common <+: b := by
  have begins : ∀ {x y : List α}, ¬ Compatible least x y → Compatible least x common →
      Compatible least y common → least ≤ common.length ∧ common <+: x := by
    intro x y apart hx hy
    have shorter : common.length < x.length := by
      by_contra longer
      exact apart (compatible_symm (compatible_of_extension hx (by omega) hy))
    have long := compatible_shorter_long (compatible_symm hx)
    refine ⟨long.resolve_left ?_, compatible_shorter_begins (compatible_symm hx) (by omega)⟩
    intro eq
    rw [eq] at shorter
    omega
  constructor
  · rintro ⟨ha, hb⟩
    have apart' : ¬ Compatible least b a := fun h => apart (compatible_symm h)
    exact ⟨(begins apart ha hb).1, (begins apart ha hb).2, (begins apart' hb ha).2⟩
  · rintro ⟨long, ha, hb⟩
    have nonempty : common ≠ [] := by
      intro empty
      rw [empty, List.length_nil] at long
      omega
    have extended : ∀ x, common <+: x → Compatible least x common := by
      intro x h
      have longer := h.length_le
      refine ⟨?_, nonempty, Or.inr ⟨by omega, Or.inr h⟩⟩
      intro empty
      rw [empty] at h
      exact nonempty (List.prefix_nil.mp h)
    exact ⟨extended a ha, extended b hb⟩

/-- Two relatives of a common spelling are incompatible exactly when both continue it and neither
    begins the other. -/
theorem incompatible_relatives_iff {least : Nat} (positive : 0 < least) {a b common : List α}
    (ha : Compatible least a common) (hb : Compatible least b common) :
    ¬ Compatible least a b ↔
      least ≤ common.length ∧ common <+: a ∧ common <+: b ∧ ¬ a <+: b ∧ ¬ b <+: a := by
  constructor
  · intro apart
    obtain ⟨long, beginsA, beginsB⟩ := (compatible_with_both_iff positive apart).mp ⟨ha, hb⟩
    have longA := beginsA.length_le
    have longB := beginsB.length_le
    refine ⟨long, beginsA, beginsB, fun begins => apart ?_, fun begins => apart ?_⟩
    · exact ⟨ha.1, hb.1, Or.inr ⟨by omega, Or.inl begins⟩⟩
    · exact ⟨ha.1, hb.1, Or.inr ⟨by omega, Or.inr begins⟩⟩
  · rintro ⟨_, _, _, notBegins, notBegins'⟩ ⟨_, _, equal | ⟨_, begins | begins⟩⟩
    · exact notBegins (equal ▸ List.prefix_rfl)
    · exact notBegins begins
    · exact notBegins' begins

theorem compatible_extend {least : Nat} {short full fuller : List α}
    (same : Compatible least short full) (shorter : short.length ≤ full.length)
    (again : Compatible least full fuller) (longer : full.length ≤ fuller.length) :
    Compatible least short fuller := by
  have begins := compatible_shorter_begins same shorter
  have extended := compatible_shorter_begins again longer
  rcases compatible_shorter_long same with rfl | long
  · exact again
  · exact ⟨same.1, again.2.1, Or.inr ⟨by omega, Or.inl (begins.trans extended)⟩⟩

theorem compatible_extensions_iff {least : Nat} {short a b : List α}
    (ha : Compatible least short a) (hb : Compatible least short b)
    (la : short.length ≤ a.length) (lb : short.length ≤ b.length) :
    Compatible least a b ↔ a <+: b ∨ b <+: a := by
  constructor
  · rintro ⟨_, _, eq | ⟨_, prefixes⟩⟩
    · exact Or.inl (eq ▸ List.prefix_rfl)
    · exact prefixes
  · intro prefixes
    by_cases eq : a = b
    · exact eq ▸ compatible_refl ha.2.1
    · rcases compatible_shorter_long ha with rfl | long
      · exact hb
      · exact ⟨ha.2.1, hb.2.1, Or.inr ⟨by omega, prefixes⟩⟩

def longer (a b : List α) : List α := if b.length ≤ a.length then a else b

/-- Completing two spellings by a common relative makes them compatible exactly when they
    did not diverge themselves: a beginning of the relative is replaced by it. -/
theorem compatible_longer_iff {least : Nat} {known a b : List α}
    (ha : Compatible least known a) (hb : Compatible least known b) :
    Compatible least (longer known a) (longer known b) ↔ a <+: b ∨ b <+: a := by
  have self : Compatible least known known := compatible_refl ha.1
  unfold longer
  by_cases shortA : a.length ≤ known.length
  · have beginsA := compatible_shorter_begins (compatible_symm ha) shortA
    by_cases shortB : b.length ≤ known.length
    · have beginsB := compatible_shorter_begins (compatible_symm hb) shortB
      simp only [shortA, shortB, ↓reduceIte, self, true_iff]
      exact List.prefix_or_prefix_of_prefix beginsA beginsB
    · have completed := compatible_shorter_begins hb (by omega)
      simp only [shortA, shortB, ↓reduceIte, hb, true_iff]
      exact Or.inl (beginsA.trans completed)
  · have completed := compatible_shorter_begins ha (by omega)
    by_cases shortB : b.length ≤ known.length
    · have beginsB := compatible_shorter_begins (compatible_symm hb) shortB
      simp only [shortA, shortB, ↓reduceIte, compatible_symm ha, true_iff]
      exact Or.inr (beginsB.trans completed)
    · simp only [shortA, shortB, ↓reduceIte]
      exact compatible_extensions_iff ha hb (by omega) (by omega)

def Exclusive (related : α → α → Prop) (held : ω → Option α) : Prop :=
  ∀ a b x y, held a = some x → held b = some y → a ≠ b → ¬ related x y

/-- Giving one owner a new value keeps the assignment exclusive exactly when that value is
    unrelated to everybody else's. -/
theorem exclusive_set_iff [DecidableEq ω] {related : α → α → Prop}
    (symm : ∀ x y, related x y → related y x) {held : ω → Option α} (before : Exclusive related held)
    (owner : ω) (value : α) :
    Exclusive related (fun o => if o = owner then some value else held o) ↔
      ∀ o x, o ≠ owner → held o = some x → ¬ related x value := by
  constructor
  · intro all o x ne ho
    exact all o owner x value (by simp [ne, ho]) (by simp) ne
  · intro free a b x y ha hb ne
    by_cases ea : a = owner
    · have eb : b ≠ owner := fun h => ne (ea.trans h.symm)
      simp only [ea, ↓reduceIte, Option.some.injEq] at ha
      simp only [eb, ↓reduceIte] at hb
      subst ha
      exact fun r => free b y eb hb (symm _ _ r)
    · simp only [ea, ↓reduceIte] at ha
      by_cases eb : b = owner
      · simp only [eb, ↓reduceIte, Option.some.injEq] at hb
        subst hb
        exact free a x ea ha
      · simp only [eb, ↓reduceIte] at hb
        exact before a b x y ha hb ne

theorem exclusive_erase [DecidableEq ω] {related : α → α → Prop} {held : ω → Option α}
    (before : Exclusive related held) (owner : ω) :
    Exclusive related fun o => if o = owner then none else held o := by
  intro a b x y ha hb ne
  by_cases ea : a = owner
  · simp [ea] at ha
  · by_cases eb : b = owner
    · simp [eb] at hb
    · simp only [ea, ↓reduceIte] at ha
      simp only [eb, ↓reduceIte] at hb
      exact before a b x y ha hb ne

/-- Moving one owner's value to another owner, possibly completed on the way, keeps the
    assignment exclusive when the new value is related to nobody the old one was unrelated to. -/
theorem exclusive_move [DecidableEq ω] {related : α → α → Prop}
    (symm : ∀ x y, related x y → related y x) {held : ω → Option α} (before : Exclusive related held)
    {source target : ω} {old new : α} (at_source : held source = some old)
    (descends : ∀ o x, o ≠ source → o ≠ target → held o = some x → related x new → related x old) :
    Exclusive related fun o => if o = source then none else if o = target then some new else held o := by
  have cleared := exclusive_erase before source
  by_cases same : target = source
  · have eq : (fun o => if o = source then none else if o = target then some new else held o) =
        fun o => if o = source then none else held o := by
      funext o
      by_cases h : o = source <;> simp [h, same]
    rw [eq]
    exact cleared
  · have eq : (fun o => if o = source then none else if o = target then some new else held o) =
        fun o => if o = target then some new else if o = source then none else held o := by
      funext o
      by_cases h : o = source
      · simp [h, Ne.symm same]
      · simp [h]
    rw [eq]
    apply (exclusive_set_iff symm cleared target new).mpr
    intro o x ne ho
    by_cases h : o = source
    · simp [h] at ho
    · simp only [h, ↓reduceIte] at ho
      exact fun r => before o source x old ho at_source h (descends o x h ne ho r)

end PrefixIdentity
