import EybondLocal.Library.PythonObject
import Mathlib.Data.Rat.Init

/-!
The values a JSON document decodes to, as Python compares and renders them. A number without
a fraction is an `int`, any other a `float`; `True == 1 == 1.0`, and a text equals only a text.
-/
namespace JsonValue
open StripText PythonObject

/-- A float keeps its value (none for the values that equal nothing) and the text `str()` gives
    for it; so do a list and a mapping. -/
inductive Json where
  | null
  | bool (b : Bool)
  | int (n : Int)
  | float (value : Option ℚ) (rendered : String)
  | str (s : String)
  | array (items : List Json) (rendered : String)
  | object (items : List (String × Json)) (rendered : String)

namespace Json

mutual

def toPyObj : Json → PyObj
  | null => .none
  | bool b => .bool b
  | int n => .int n
  | float value rendered => .other (value != some 0) rendered
  | str s => .str s
  | array items rendered => .other (!items.isEmpty) rendered
  | object items rendered => .mapping (itemsToPyObj items) rendered

def itemsToPyObj : List (String × Json) → List (String × PyObj)
  | [] => []
  | item :: rest => itemToPyObj item :: itemsToPyObj rest

def itemToPyObj : String × Json → String × PyObj
  | (key, value) => (key, value.toPyObj)

end

def truthy (value : Json) : Bool := value.toPyObj.truthy

def render (value : Json) : String := value.toPyObj.render

def cleanText (value : Json) : String := value.toPyObj.cleanText

def equalsText : Json → String → Bool
  | str s, text => s == text
  | _, _ => false

def equalsBool : Json → Bool → Bool
  | bool b, flag => b == flag
  | int n, flag => n == flag.toInt
  | float (some value) _, flag => value == flag.toInt
  | _, _ => false

theorem equalsText_iff (value : Json) (text : String) :
    value.equalsText text = true ↔ value = .str text := by
  cases value <;> simp [equalsText]

@[simp] theorem cleanText_str (s : String) : (Json.str s).cleanText = strip s := by
  simp [cleanText, toPyObj]

@[simp] theorem equalsText_self (s : String) : (Json.str s).equalsText s = true := by
  simp [equalsText]

@[simp] theorem equalsBool_self (b : Bool) : (Json.bool b).equalsBool b = true := by
  simp [equalsBool]

@[simp] theorem truthy_bool (b : Bool) : (Json.bool b).truthy = b := by
  simp [truthy, toPyObj, PyObj.truthy]

theorem truthy_of_equalsBool {value : Json} {flag : Bool} (equal : value.equalsBool flag = true) :
    value.truthy = flag := by
  cases value with
  | bool b => simpa [equalsBool] using equal
  | int n =>
    simp only [equalsBool, beq_iff_eq] at equal
    cases flag <;> simp [truthy, toPyObj, PyObj.truthy, equal]
  | float number rendered =>
    cases number with
    | none => simp [equalsBool] at equal
    | some number =>
      simp only [equalsBool, beq_iff_eq] at equal
      cases flag <;> simp [truthy, toPyObj, PyObj.truthy, equal]
  | _ => simp [equalsBool] at equal

end Json
end JsonValue
