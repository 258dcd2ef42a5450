import Mathlib.Order.Defs.Unbundled
import Mathlib.Tactic.Common

/-!
A caller of outside code. Every call it makes returns, raises or is cancelled, and a run is
the state it leaves together with its own ending. `except Exception` sees a raised error and
lets a cancellation pass; a `finally` block runs after either.
-/
namespace HookRun

inductive Ending (ε α : Type) where
  | returned (value : α)
  | raised (error : ε)
  | cancelled
  deriving DecidableEq, Repr

def Ending.next {ε α β : Type} {out : Type} (ending : Ending ε α) (body : α → out)
    (stop : Ending ε β → out) : out :=
  match ending with
  | .returned value => body value
  | .raised error => stop (.raised error)
  | .cancelled => stop .cancelled

def Ending.handledBy {ε α : Type} (ending handled : Ending ε α) : Ending ε α :=
  match ending with
  | .raised _ => handled
  | ending => ending

section
variable {ε α β out : Type} {body : α → out} {stop : Ending ε β → out}

theorem Ending.next_returned (value : α) :
    (Ending.returned value : Ending ε α).next body stop = body value := rfl

theorem Ending.next_raised (error : ε) :
    (Ending.raised error : Ending ε α).next body stop = stop (.raised error) := rfl

theorem Ending.next_cancelled :
    (Ending.cancelled : Ending ε α).next body stop = stop .cancelled := rfl

theorem Ending.handledBy_returned (value : α) (handled : Ending ε α) :
    (Ending.returned value).handledBy handled = .returned value := rfl

theorem Ending.handledBy_raised (error : ε) (handled : Ending ε α) :
    (Ending.raised error).handledBy handled = handled := rfl

theorem Ending.handledBy_cancelled (handled : Ending ε α) :
    Ending.cancelled.handledBy handled = .cancelled := rfl

end

def Run (σ ε α : Type) : Type := σ → σ × Ending ε α

namespace Run
variable {σ ε α β : Type}

instance : Monad (Run σ ε) where
  pure value := fun s => (s, .returned value)
  bind m body := fun s => (m s).2.next (fun value => body value (m s).1) fun stop => ((m s).1, stop)

def call (mark : σ → σ) (answer : Ending ε α) : Run σ ε α := fun s => (mark s, answer)

def observe (view : σ → α) : Run σ ε α := fun s => (s, .returned (view s))

def raise (error : ε) : Run σ ε α := fun s => (s, .raised error)

def recover (body : Run σ ε α) (handler : ε → Run σ ε α) : Run σ ε α := fun s =>
  match (body s).2 with
  | .raised error => handler error (body s).1
  | _ => body s

def caught (body : Run σ ε α) : Run σ ε (Except ε α) :=
  recover (body >>= fun value => pure (.ok value)) fun error => pure (.error error)

/-- `try: body finally: cleanup`, for a cleanup that looks at what the body has set. A cleanup
    that does not return replaces the ending. -/
def finishing (body : Run σ ε α) (cleanup : Ending ε α → Run σ ε Unit) : Run σ ε α := fun s =>
  let after := cleanup (body s).2 (body s).1
  (after.1, after.2.next (fun _ => (body s).2) id)

def ensuring (body : Run σ ε α) (cleanup : Run σ ε Unit) : Run σ ε α :=
  body.finishing fun _ => cleanup

/-- A wait with a deadline: a pass ends it or leaves what the next pass remembers, and after
    the last pass that fits the wait has expired. -/
def poll {β : Type} (pass : β → Run σ ε (α ⊕ β)) (pause : Run σ ε Unit) (expired : β → α) :
    Nat → β → Run σ ε α
  | 0, memory => do
    let answer ← pass memory
    match answer with
    | .inl result => pure result
    | .inr memory' => pure (expired memory')
  | polls + 1, memory => do
    let answer ← pass memory
    match answer with
    | .inl result => pure result
    | .inr memory' => do
      pause
      poll pass pause expired polls memory'

theorem pure_apply (value : α) (s : σ) : (pure value : Run σ ε α) s = (s, .returned value) := rfl

theorem bind_apply (m : Run σ ε α) (body : α → Run σ ε β) (s : σ) :
    (m >>= body) s = (m s).2.next (fun value => body value (m s).1) fun stop => ((m s).1, stop) :=
  rfl

def Ends (m : Run σ ε α) (s : σ) (post : σ → Ending ε α → Prop) : Prop := post (m s).1 (m s).2

variable {m : Run σ ε α} {body : α → Run σ ε β} {s : σ}

theorem ends_pure {value : α} {post : σ → Ending ε α → Prop} :
    Ends (pure value : Run σ ε α) s post ↔ post s (.returned value) := Iff.rfl

theorem ends_call {mark : σ → σ} {answer : Ending ε α} {post : σ → Ending ε α → Prop} :
    Ends (call mark answer) s post ↔ post (mark s) answer := Iff.rfl

theorem ends_observe {view : σ → α} {post : σ → Ending ε α → Prop} :
    Ends (observe view : Run σ ε α) s post ↔ post s (.returned (view s)) := Iff.rfl

theorem ends_raise {error : ε} {post : σ → Ending ε α → Prop} :
    Ends (raise error : Run σ ε α) s post ↔ post s (.raised error) := Iff.rfl

theorem ends_mono {post weaker : σ → Ending ε α → Prop} (implies : ∀ s e, post s e → weaker s e)
    (h : Ends m s post) : Ends m s weaker := implies _ _ h

theorem ends_bind {post : σ → Ending ε β → Prop} :
    Ends (m >>= body) s post ↔
      Ends m s fun s' e => e.next (fun value => Ends (body value) s' post) (post s') := by
  simp only [Ends, bind]
  cases (m s).2 <;> rfl

theorem ends_recover {handler : ε → Run σ ε α} {post : σ → Ending ε α → Prop} :
    Ends (m.recover handler) s post ↔
      Ends m s fun s' e =>
        match e with
        | .raised error => Ends (handler error) s' post
        | e => post s' e := by
  simp only [Ends, recover]
  cases ended : (m s).2 <;> simp [ended]

theorem ends_caught {post : σ → Ending ε (Except ε α) → Prop} :
    Ends m.caught s post ↔
      Ends m s fun s' e =>
        match e with
        | .returned value => post s' (.returned (.ok value))
        | .raised error => post s' (.returned (.error error))
        | .cancelled => post s' .cancelled := by
  rw [caught, ends_recover, ends_bind]
  simp only [Ends]
  cases (m s).2 <;> rfl

theorem ends_finishing {cleanup : Ending ε α → Run σ ε Unit} {post : σ → Ending ε α → Prop} :
    Ends (m.finishing cleanup) s post ↔
      Ends m s fun s' e => Ends (cleanup e) s' fun s'' c => post s'' (c.next (fun _ => e) id) :=
  Iff.rfl

theorem ends_ensuring {cleanup : Run σ ε Unit} {post : σ → Ending ε α → Prop} :
    Ends (m.ensuring cleanup) s post ↔
      Ends m s fun s' e => Ends cleanup s' fun s'' c => post s'' (c.next (fun _ => e) id) :=
  Iff.rfl

theorem ends_bind_of {middle : σ → Ending ε α → Prop} {post : σ → Ending ε β → Prop}
    (first : Ends m s middle) (rest : ∀ s' value, middle s' (.returned value) →
      Ends (body value) s' post)
    (raised : ∀ s' error, middle s' (.raised error) → post s' (.raised error))
    (cancelled : ∀ s', middle s' .cancelled → post s' .cancelled) : Ends (m >>= body) s post := by
  rw [ends_bind]
  refine ends_mono ?_ first
  intro s' e reached
  cases e with
  | returned value => exact rest s' value reached
  | raised error => exact raised s' error reached
  | cancelled => exact cancelled s' reached

def Returns (m : Run σ ε α) (s : σ) (post : σ → α → Prop) : Prop :=
  Ends m s fun s' e => ∀ value, e = .returned value → post s' value

theorem returns_pure {value : α} {post : σ → α → Prop} (now : post s value) :
    Returns (pure value : Run σ ε α) s post := by
  intro value' eq
  cases eq
  exact now

theorem returns_raise {error : ε} {post : σ → α → Prop} :
    Returns (raise error : Run σ ε α) s post := by
  intro value eq
  cases eq

theorem returns_any : Returns m s fun _ _ => True := fun _ _ => trivial

theorem returns_bind {middle : σ → α → Prop} {post : σ → β → Prop} (first : Returns m s middle)
    (rest : ∀ s' value, middle s' value → Returns (body value) s' post) :
    Returns (m >>= body) s post := by
  rw [Returns, ends_bind]
  refine ends_mono ?_ first
  intro s' e reached
  cases e with
  | returned value => exact rest s' value (reached value rfl)
  | raised error => intro value eq; cases eq
  | cancelled => intro value eq; cases eq

theorem returns_observe {view : σ → α} {post : σ → β → Prop}
    (rest : Returns (body (view s)) s post) : Returns (observe view >>= body) s post := by
  rw [Returns, ends_bind]
  exact rest

theorem returns_call {mark : σ → σ} {value : α} {post : σ → β → Prop}
    (rest : Returns (body value) (mark s) post) :
    Returns (call mark (.returned value) >>= body) s post := by
  rw [Returns, ends_bind]
  exact rest

theorem returns_mono {post weaker : σ → α → Prop} (implies : ∀ s value, post s value → weaker s value)
    (h : Returns m s post) : Returns m s weaker :=
  fun value eq => implies _ value (h value eq)

theorem returns_and {left right : σ → α → Prop} (hl : Returns m s left) (hr : Returns m s right) :
    Returns m s fun s' value => left s' value ∧ right s' value :=
  fun value eq => ⟨hl value eq, hr value eq⟩

theorem returns_recover {handler : ε → Run σ ε α} {post : σ → α → Prop} (first : Returns m s post)
    (rest : ∀ s' error, Returns (handler error) s' post) :
    Returns (m.recover handler) s post := by
  rw [Returns, ends_recover]
  refine ends_mono ?_ first
  intro s' e reached
  cases e with
  | returned value => exact reached
  | raised error => exact rest s' error
  | cancelled => exact reached

theorem returns_ensuring {cleanup : Run σ ε Unit} {post : σ → α → Prop} (first : Returns m s post)
    (rest : ∀ s' value, post s' value → Returns cleanup s' fun s'' _ => post s'' value) :
    Returns (m.ensuring cleanup) s post := by
  rw [Returns, ends_ensuring]
  refine ends_mono ?_ first
  intro s' e reached value
  cases e with
  | raised error => cases (cleanup s').2 <;> exact fun eq => nomatch eq
  | cancelled => cases (cleanup s').2 <;> exact fun eq => nomatch eq
  | returned result =>
    have after := rest s' result (reached result rfl)
    unfold Returns Ends at after
    cases ended : (cleanup s').2 with
    | raised error => exact fun eq => nomatch eq
    | cancelled => exact fun eq => nomatch eq
    | returned done =>
      intro eq
      cases eq
      exact after done ended

/-- The rule of a wait: what a pass without a result keeps, and the pause keeps, holds before
    every pass. -/
theorem returns_poll {β : Type} {pass : β → Run σ ε (α ⊕ β)} {pause : Run σ ε Unit}
    {expired : β → α} {post : σ → α → Prop} (inv : σ → Prop)
    (passes : ∀ s memory, inv s → Returns (pass memory) s fun s' answer =>
      answer.elim (post s') fun memory' => inv s' ∧ post s' (expired memory'))
    (pauses : ∀ s, inv s → Returns pause s fun s' _ => inv s') (polls : Nat) (memory : β)
    (now : inv s) : Returns (poll pass pause expired polls memory) s post := by
  induction polls generalizing s memory with
  | zero =>
    refine returns_bind (passes s memory now) ?_
    intro s' answer reached
    cases answer with
    | inl result => exact returns_pure reached
    | inr memory' => exact returns_pure reached.2
  | succ polls ih =>
    refine returns_bind (passes s memory now) ?_
    intro s' answer reached
    cases answer with
    | inl result => exact returns_pure reached
    | inr memory' =>
      refine returns_bind (pauses s' reached.1) ?_
      intro s'' _ kept
      exact ih memory' kept

def Within (R : σ → σ → Prop) (m : Run σ ε α) : Prop := ∀ s, R s (m s).1

section
variable {R : σ → σ → Prop}

theorem within_returns (moves : Within R m) (s : σ) : Returns m s fun s' _ => R s s' :=
  fun _ _ => moves s

theorem within_call {mark : σ → σ} {answer : Ending ε α} (moves : ∀ s, R s (mark s)) :
    Within R (call mark answer) := moves

variable [IsPreorder σ R]

theorem within_pure (value : α) : Within R (pure value : Run σ ε α) := fun s => refl_of R s

theorem within_observe (view : σ → α) : Within R (observe view : Run σ ε α) := fun s => refl_of R s

theorem within_raise (error : ε) : Within R (raise error : Run σ ε α) := fun s => refl_of R s

theorem within_bind (first : Within R m) (rest : ∀ value, Within R (body value)) :
    Within R (m >>= body) := by
  intro s
  rw [bind_apply]
  cases (m s).2 with
  | returned value => exact trans_of R (first s) (rest value _)
  | raised error => exact first s
  | cancelled => exact first s

theorem within_recover {handler : ε → Run σ ε α} (first : Within R m)
    (rest : ∀ error, Within R (handler error)) : Within R (m.recover handler) := by
  intro s
  simp only [recover]
  split
  · exact trans_of R (first s) (rest _ _)
  · exact first s

theorem within_ensuring {cleanup : Run σ ε Unit} (first : Within R m) (last : Within R cleanup) :
    Within R (m.ensuring cleanup) :=
  fun s => trans_of R (first s) (last _)

theorem within_poll {β : Type} {pass : β → Run σ ε (α ⊕ β)} {pause : Run σ ε Unit}
    {expired : β → α} (passes : ∀ memory, Within R (pass memory)) (pauses : Within R pause)
    (polls : Nat) (memory : β) : Within R (poll pass pause expired polls memory) := by
  induction polls generalizing memory with
  | zero =>
    refine within_bind (passes memory) fun answer => ?_
    cases answer <;> exact within_pure _
  | succ polls ih =>
    refine within_bind (passes memory) fun answer => ?_
    cases answer with
    | inl result => exact within_pure _
    | inr memory' => exact within_bind pauses fun _ => ih memory'

end
end Run

def Guarded {ι : Type} (allowed : List ι → ι → Prop) (journal : List ι) : Prop :=
  ∀ before entry after, journal = before ++ entry :: after → allowed before entry

variable {ι : Type} {allowed : List ι → ι → Prop}

theorem guarded_nil : Guarded allowed [] := by
  intro before entry after eq
  simp at eq

theorem guarded_snoc {journal : List ι} {entry : ι} (earlier : Guarded allowed journal)
    (last : allowed journal entry) : Guarded allowed (journal ++ [entry]) := by
  intro before entry' after eq
  rcases List.eq_nil_or_concat after with rfl | ⟨shorter, end', rfl⟩
  · obtain ⟨rfl, h⟩ := List.append_inj' eq (by simp)
    simp only [List.cons.injEq, and_true] at h
    exact h ▸ last
  · refine earlier before entry' shorter ?_
    have split : before ++ entry' :: (shorter ++ [end']) =
        (before ++ entry' :: shorter) ++ [end'] := by simp
    rw [List.concat_eq_append, split] at eq
    exact (List.append_inj' eq (by simp)).1

theorem guarded_append {journal more : List ι} (earlier : Guarded allowed journal)
    (free : ∀ entry ∈ more, ∀ before, allowed before entry) : Guarded allowed (journal ++ more) := by
  induction more generalizing journal with
  | nil => rwa [List.append_nil]
  | cons entry rest ih =>
    rw [List.append_cons]
    refine ih (guarded_snoc earlier (free entry List.mem_cons_self journal)) ?_
    exact fun e member => free e (List.mem_cons_of_mem _ member)

end HookRun
