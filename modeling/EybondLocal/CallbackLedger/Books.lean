import EybondLocal.CallbackLedger.Lease

/-!
The books of one open attempt. Between its acquisition of the lease and its release every
recorded trigger is counted once: as the attempt's own, or as a foreign one.
-/
namespace CallbackLedger
open OrderedDict

def Action.context : Action → Option String
  | .enter _ context => some context
  | .announce context => some context
  | _ => none

/-- What reaches the ledger from outside an attempt: an action of its protocol, or a trigger
    some uncoordinated sender records past the gate. -/
inductive Move where
  | acts (action : Action)
  | records (context : String)

def Move.foreignTo (attempt : String) : Move → Bool
  | .acts action => action.leaseOf != some attempt && action.context != some attempt
  | .records context => context != attempt

abbrev Foreign (attempt : String) := { move : Move // move.foreignTo attempt = true }

def Move.apply (s : Ledger) : Move → Ledger
  | .acts action => step s action
  | .records context => record s context

def others {attempt : String} (s : Ledger) (moves : List (Foreign attempt)) : Ledger :=
  moves.foldl (fun s move => move.val.apply s) s

structure Books (s : Ledger) (attempt : String) (since own foreign : Nat) : Prop where
  counts : s.attempts.get? attempt = some ⟨own, foreign⟩
  total : s.generation = since + own + foreign

variable {s : Ledger} {attempt : String} {since own foreign : Nat}

theorem Books.congr {s' : Ledger} (books : Books s attempt since own foreign)
    (attempts : s'.attempts.get? attempt = s.attempts.get? attempt)
    (generation : s'.generation = s.generation) : Books s' attempt since own foreign :=
  ⟨attempts.trans books.counts, generation.trans books.total⟩

theorem Books.recordOwn (books : Books s attempt since own foreign) (named : attempt ≠ "") :
    Books (record s attempt) attempt since (own + 1) foreign := by
  obtain ⟨counts, total⟩ := books
  refine ⟨by simp [record, counts, named], ?_⟩
  simp only [record]
  omega

theorem Books.recordForeign {context : String} (books : Books s attempt since own foreign)
    (other : context ≠ attempt) : Books (record s context) attempt since own (foreign + 1) := by
  obtain ⟨counts, total⟩ := books
  refine ⟨by simp [record, counts, Ne.symm other], ?_⟩
  simp only [record]
  omega

theorem tryAcquireCausality_books (free : leaseFree s (StripText.strip attempt) = true) :
    Books (tryAcquireCausality s attempt) (StripText.strip attempt) s.generation 0 0 := by
  simp only [tryAcquireCausality, free, ↓reduceIte]
  exact ⟨by simp, rfl⟩

theorem Books.step {action : Action} (books : Books s attempt since own foreign)
    (lease : action.leaseOf ≠ some attempt) (context : action.context ≠ some attempt) :
    ∃ foreign', Books (step s action) attempt since own foreign' := by
  have kept : ∀ s' : Ledger, s'.attempts.get? attempt = s.attempts.get? attempt →
      s'.generation = s.generation → ∃ foreign', Books s' attempt since own foreign' :=
    fun s' attempts generation => ⟨foreign, books.congr attempts generation⟩
  cases action with
  | acquire taken =>
    have other : attempt ≠ StripText.strip taken := fun h => lease (congrArg some h.symm)
    dsimp only [CallbackLedger.step, tryAcquireCausality]
    split
    · exact kept _ (by simp [other]) rfl
    · exact kept _ rfl rfl
  | release released =>
    have other : attempt ≠ released := fun h => lease (congrArg some h.symm)
    exact kept _ (by simp [CallbackLedger.step, releaseCausality, other]) rfl
  | enter id sender =>
    have other : sender ≠ attempt := fun h => context (congrArg some h)
    dsimp only [CallbackLedger.step, enterScope]
    split
    · split
      · exact ⟨_, (books.congr rfl rfl : Books (setSender (openScope s) id _) _ _ _ _).recordForeign
          other⟩
      · exact kept _ rfl rfl
    · exact kept _ rfl rfl
  | announce sender =>
    have other : sender ≠ attempt := fun h => context (congrArg some h)
    dsimp only [CallbackLedger.step]
    split
    · have recorded := (books.congr rfl rfl : Books (openScope s) _ _ _ _).recordForeign other
      exact ⟨_, recorded.congr rfl rfl⟩
    · exact kept _ rfl rfl
  | _ =>
    dsimp only [CallbackLedger.step]
    split <;> exact kept _ rfl rfl

theorem Books.others (books : Books s attempt since own foreign) (moves : List (Foreign attempt)) :
    ∃ foreign', Books (others s moves) attempt since own foreign' := by
  induction moves generalizing s foreign with
  | nil => exact ⟨foreign, books⟩
  | cons move rest ih =>
    obtain ⟨move, isForeign⟩ := move
    have next : ∃ foreign', Books (move.apply s) attempt since own foreign' := by
      cases move with
      | acts action =>
        simp only [Move.foreignTo, Bool.and_eq_true, bne_iff_ne] at isForeign
        exact books.step isForeign.1 isForeign.2
      | records context =>
        simp only [Move.foreignTo, bne_iff_ne] at isForeign
        exact ⟨foreign + 1, books.recordForeign isForeign⟩
    obtain ⟨foreign', books'⟩ := next
    exact ih books'

end CallbackLedger
