import EybondLocal.Library.JoinedText

/-!
Anchor conditions and the two checks of an observed value against them: `anchor_matching.py` over
the typed fields, and the signature texts of `detection_decision_tree.py`. Floats and the case
tables of the language are a parameter.
-/
namespace Detection
open StripText PythonText JoinedText

/-- `float` of an int, `none` where it overflows, and of a text, `none` where it is no number. -/
structure Runtime (F : Type) where
  ofInt : Int → Option F
  parse : String → Option F
  repr : F → String
  lt : F → F → Bool
  integral : F → Option Int
  lower : String → String

/-- What the language says of number texts: they read back, an int that overflows reads as an
    infinity, and neither a text with a colon nor the name of a constant is a number. -/
structure Runtime.Lawful {F : Type} (r : Runtime F) : Prop where
  parse_repr : ∀ f, r.parse (r.repr f) = some f
  parse_int : ∀ n f, r.ofInt n = some f → r.parse (toString n) = some f
  parse_large : ∀ n, r.ofInt n = none → (r.parse (toString n)).isSome
  parse_colon : ∀ s, ':' ∈ s.toList → r.parse s = none
  parse_words : ∀ s ∈ ["None", "True", "False"], r.parse s = none

inductive Value (F : Type) where
  | none
  | bool (b : Bool)
  | int (n : Int)
  | float (f : F)
  | text (s : String)
  | other (text : String)
  deriving DecidableEq, Repr

inductive EvidenceError where
  | overflow
  | value
  | type
  deriving DecidableEq, Repr

structure AnchorCondition (F : Type) where
  key : String
  source : String
  required : Bool := true
  equals : Value F := .none
  oneOf : List (Value F) := []
  minValue : Value F := .none
  maxValue : Value F := .none
  knownEnum : Bool := false
  containsAny : List String := []
  cost : Int := 1

def Value.isNone {F : Type} : Value F → Bool
  | .none => true
  | _ => false

section
variable {F : Type} (r : Runtime F)

def Value.str : Value F → String
  | .none => "None"
  | .bool true => "True"
  | .bool false => "False"
  | .int n => toString n
  | .float f => r.repr f
  | .text s => s
  | .other shown => shown

def stableSignatureValue : Value F → String
  | .bool b => if b then "true" else "false"
  | .float f => ((r.integral f).map toString).getD (r.repr f)
  | value => value.str r

/-- `float(value)` and what it raises; `other` stands for the lists and mappings of JSON. -/
def Value.toFloat : Value F → Except EvidenceError F
  | .bool b => ((r.ofInt (if b then 1 else 0)).map Except.ok).getD (.error .overflow)
  | .int n => ((r.ofInt n).map Except.ok).getD (.error .overflow)
  | .float f => .ok f
  | .text s => ((r.parse s).map Except.ok).getD (.error .value)
  | .none | .other _ => .error .type

def equalsMatches (expected value : Value F) : Bool :=
  stableSignatureValue r value = stableSignatureValue r expected

def oneOfMatches (options : List (Value F)) (value : Value F) : Bool :=
  options.any fun (option : Value F) => stableSignatureValue r value = stableSignatureValue r option

def outside (bound : Value F) (wrong : F → Bool) : Except EvidenceError Bool :=
  if bound.isNone then .ok false else (bound.toFloat r).map wrong

def rangeMatches (minValue maxValue value : Value F) : Except EvidenceError Bool :=
  match value.toFloat r with
  | .error .overflow => .error .overflow
  | .error _ => .ok false
  | .ok observed =>
    match outside r minValue (r.lt observed) with
    | .error error => .error error
    | .ok true => .ok false
    | .ok false => (outside r maxValue (r.lt · observed)).map not

def containsAnyMatches (tokens : List String) (value : Value F) : Bool :=
  tokens.any fun (token : String) => token ≠ "" && occursIn token (r.lower (value.str r))

def knownEnumMatches : Value F → Bool
  | .text s => !startsWith s "Unknown"
  | _ => false

namespace AnchorCondition
variable (anchor : AnchorCondition F)

def ranged : Bool := !anchor.minValue.isNone || !anchor.maxValue.isNone

end AnchorCondition

def anchorConditionMatches (anchor : AnchorCondition F) (value : Value F) :
    Except EvidenceError Bool :=
  if anchor.equals.isNone = false ∧ equalsMatches r anchor.equals value = false then .ok false
  else if anchor.oneOf ≠ [] ∧ oneOfMatches r anchor.oneOf value = false then .ok false
  else if anchor.containsAny ≠ [] ∧ containsAnyMatches r anchor.containsAny value = false then
    .ok false
  else if anchor.knownEnum ∧ knownEnumMatches value = false then .ok false
  else if anchor.ranged then rangeMatches r anchor.minValue anchor.maxValue value
  else .ok true

def conditionSignature (anchor : AnchorCondition F) : String :=
  if anchor.equals.isNone = false then "equals:" ++ stableSignatureValue r anchor.equals
  else if anchor.oneOf ≠ [] then
    "one_of:" ++ joinText ',' (anchor.oneOf.map (stableSignatureValue r))
  else if anchor.ranged then
    "range:" ++ anchor.minValue.str r ++ ":" ++ anchor.maxValue.str r
  else if anchor.knownEnum then "known_enum"
  else if anchor.containsAny ≠ [] then "contains_any:" ++ joinText ',' anchor.containsAny
  else "present"

def signatureEqualsValue (signature : String) (value : Value F) : Bool :=
  (afterStart "equals:" signature).any fun (text : String) => text = stableSignatureValue r value

def signatureOneOfContainsValue (signature : String) (value : Value F) : Bool :=
  (afterStart "one_of:" signature).any fun (text : String) =>
    stableSignatureValue r value ∈ (splitText ',' text).filter (· ≠ "")

def readBound (text : String) : Except EvidenceError (Value F) :=
  if text = "None" then .ok .none
  else
    match r.parse text with
    | some f => .ok (.float f)
    | none => .error .value

def signatureRangeContainsValue (signature : String) (value : Value F) :
    Except EvidenceError Bool :=
  match afterStart "range:" signature with
  | none => .ok false
  | some bounds =>
    match cutAt ':' bounds with
    | none => .error .value
    | some (minText, maxText) =>
      match readBound r minText with
      | .error error => .error error
      | .ok minValue =>
        match readBound r maxText with
        | .error error => .error error
        | .ok maxValue => rangeMatches r minValue maxValue value

def signatureKnownOrPresent (signature : String) (value : Value F) : Bool :=
  if signature = "known_enum" then knownEnumMatches value
  else if signature = "present" then !value.isNone
  else false

def signatureContainsAny (signature : String) (value : Value F) : Bool :=
  (afterStart "contains_any:" signature).any fun (text : String) =>
    containsAnyMatches r (splitText ',' text) value

inductive Matcher where
  | equalsValue
  | rangeContainsValue
  | oneOfContainsValue
  | containsAny
  | knownOrPresent
  deriving DecidableEq, Repr

def matchers : List Matcher :=
  [.equalsValue, .rangeContainsValue, .oneOfContainsValue, .containsAny, .knownOrPresent]

def Matcher.matches (matcher : Matcher) (signature : String) (value : Value F) :
    Except EvidenceError Bool :=
  match matcher with
  | .equalsValue => .ok (signatureEqualsValue r signature value)
  | .rangeContainsValue => signatureRangeContainsValue r signature value
  | .oneOfContainsValue => .ok (signatureOneOfContainsValue r signature value)
  | .containsAny => .ok (signatureContainsAny r signature value)
  | .knownOrPresent => .ok (signatureKnownOrPresent signature value)

def anyMatch (signature : String) (value : Value F) : List Matcher → Except EvidenceError Bool
  | [] => .ok false
  | matcher :: rest =>
    match matcher.matches r signature value with
    | .error error => .error error
    | .ok true => .ok true
    | .ok false => anyMatch signature value rest

def signatureMatchesValue (signature : String) (value : Value F) : Except EvidenceError Bool :=
  anyMatch r signature value matchers

end

def anchorCosts : List (String × Int) :=
  [("fingerprint.layout_code", 1), ("fingerprint.model_code", 1), ("fingerprint.rated_power", 1),
    ("structural.serial_ascii_plausible", 1)]

def detectionAnchorCost (anchorKey : String) : Int :=
  let normalized := strip anchorKey
  ((anchorCosts.find? fun (item : String × Int) => item.1 = normalized).map Prod.snd).getD
    (if startsWith normalized "fingerprint." then 1 else 5)

structure RawAnchor (F : Type) where
  key : String
  required : Bool := true
  equals : Value F := .none
  oneOf : List (Value F) := []
  minValue : Value F := .none
  maxValue : Value F := .none
  knownEnum : Bool := false
  containsAny : List (Value F) := []
  cost : Option Int := none

def parseCatalogAnchors {F : Type} (r : Runtime F) (anchors : List (RawAnchor F)) :
    List (AnchorCondition F) :=
  anchors.map fun (raw : RawAnchor F) =>
    { key := strip raw.key, source := "inverter_catalog.anchors", required := raw.required,
      equals := raw.equals, oneOf := raw.oneOf, minValue := raw.minValue,
      maxValue := raw.maxValue, knownEnum := raw.knownEnum,
      containsAny := raw.containsAny.map fun (value : Value F) => r.lower (value.str r),
      cost := raw.cost.getD (detectionAnchorCost raw.key) }

end Detection
