import EybondLocal.Library.PythonText

/-!
Python values as far as type tests, truthiness, `str()` and `Mapping.get` can tell
them apart, and the exceptions a modelled function may raise. Subclasses of `str`
and `int` are separate from the exact types because `type(x) is str` and
`isinstance(x, str)` answer differently for them, and because `str(x)` of a
subclass may render something other than its own characters.
-/
namespace PythonObject
open StripText PythonText

inductive PyObj where
  | none
  | bool (b : Bool)
  | int (n : Int)
  | intSubclass (n : Int) (rendered : String)
  | str (s : String)
  | strSubclass (s : String) (rendered : String)
  | mapping (items : List (String × PyObj)) (rendered : String)
  | other (truthy : Bool) (rendered : String)
  deriving Repr

namespace PyObj

def truthy : PyObj → Bool
  | none => false
  | bool b => b
  | int n => n ≠ 0
  | intSubclass n _ => n ≠ 0
  | str s => s ≠ ""
  | strSubclass s _ => s ≠ ""
  | mapping items _ => !items.isEmpty
  | other truthy _ => truthy

/-- `str()` where it answers: an `int` of more than `maxStrDigits` digits has no text, on its own
    or within a mapping (see `printed`), and decoded JSON holds no such `int`. -/
def render : PyObj → String
  | none => "None"
  | bool true => "True"
  | bool false => "False"
  | int n => toString n
  | intSubclass _ rendered => rendered
  | str s => s
  | strSubclass _ rendered => rendered
  | mapping _ rendered => rendered
  | other _ rendered => rendered

def textOrEmpty (value : PyObj) : String := if value.truthy then value.render else ""

def cleanText (value : PyObj) : String := strip value.textOrEmpty

def isStr : PyObj → Bool
  | str _ => true
  | strSubclass _ _ => true
  | _ => false

def get (items : List (String × PyObj)) (key : String) : PyObj :=
  ((items.find? fun item => item.1 == key).map Prod.snd).getD none

mutual

def textless : PyObj → Bool
  | int n => decide (10 ^ maxStrDigits ≤ n.natAbs)
  | mapping items _ => anyTextless items
  | _ => false

def anyTextless : List (String × PyObj) → Bool
  | [] => false
  | (_, value) :: rest => value.textless || anyTextless rest

end

theorem textless_int {n : Nat} (long : 10 ^ maxStrDigits ≤ n) : (int n).textless = true := by
  rw [textless, Int.natAbs_natCast]
  exact decide_eq_true long

@[simp] theorem textOrEmpty_str (s : String) : (PyObj.str s).textOrEmpty = s := by
  by_cases h : s = ""
  · simp [textOrEmpty, truthy, h]
  · simp [textOrEmpty, truthy, render, h]

@[simp] theorem cleanText_str (s : String) : (PyObj.str s).cleanText = strip s := by
  simp [cleanText]

@[simp] theorem strip_cleanText (value : PyObj) : strip value.cleanText = value.cleanText := by
  simp [cleanText]

end PyObj

inductive ExceptionKind where
  | valueError
  | typeError
  | overflowError
  | connectionError
  | runtimeError
  | keyError
  | attributeError
  | cancelledError
  deriving DecidableEq, Repr

structure PyError where
  kind : ExceptionKind
  message : String
  deriving DecidableEq, Repr

def valueError (message : String) : PyError := ⟨.valueError, message⟩

def intTextError : PyError :=
  valueError <| "Exceeds the limit (4300 digits) for integer string conversion; " ++
    "use sys.set_int_max_str_digits() to increase the limit"

def PyObj.printed (value : PyObj) : Except PyError String :=
  if value.textless then .error intTextError else .ok value.render

theorem bind_eq_ok {α β ε : Type} {m : Except ε α} {f : α → Except ε β} {b : β} :
    m >>= f = .ok b ↔ ∃ a, m = .ok a ∧ f a = .ok b := by
  cases m <;> simp [bind, Except.bind]

section
variable {α β ε : Type} {f : α → Except ε β} {items : List α}

theorem mapM_eq_map {g : α → β} (each : ∀ item ∈ items, f item = .ok (g item)) :
    items.mapM f = .ok (items.map g) := by
  induction items with
  | nil => rfl
  | cons item rest ih =>
    obtain ⟨here, later⟩ := List.forall_mem_cons.mp each
    rw [List.mapM_cons, here, ih later]
    rfl

theorem mapM_ok_iff : (∃ results, items.mapM f = .ok results) ↔
    ∀ item ∈ items, ∃ result, f item = .ok result := by
  induction items with
  | nil => simp [pure, Except.pure]
  | cons item rest ih =>
    rw [List.mapM_cons, List.forall_mem_cons, ← ih]
    cases here : f item with
    | error error => simp [bind, Except.bind]
    | ok result =>
      cases later : rest.mapM f with
      | error error => simp [bind, Except.bind]
      | ok results => simp [bind, Except.bind, pure, Except.pure]

theorem mem_mapM {results : List β} (success : items.mapM f = .ok results) {result : β} :
    result ∈ results ↔ ∃ item ∈ items, f item = .ok result := by
  induction items generalizing results with
  | nil =>
    cases success
    simp
  | cons item rest ih =>
    rw [List.mapM_cons] at success
    cases here : f item with
    | error error => simp [here, bind, Except.bind] at success
    | ok first =>
      cases later : rest.mapM f with
      | error error => simp [here, later, bind, Except.bind] at success
      | ok tail =>
        simp only [here, later, bind, Except.bind, pure, Except.pure, Except.ok.injEq] at success
        rw [← success, List.mem_cons, ih later]
        simp [here, eq_comm]

/-- A comprehension that raised nowhere holds only results of its own items. -/
theorem mapM_ok_mem {results : List β} (success : items.mapM f = .ok results) :
    ∀ result ∈ results, ∃ item ∈ items, f item = .ok result :=
  fun _ member => (mem_mapM success).mp member

end

end PythonObject
