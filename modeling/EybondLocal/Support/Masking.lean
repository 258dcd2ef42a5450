import EybondLocal.Library.HexText
import EybondLocal.Library.OrderedDict
import EybondLocal.Library.PythonText
import EybondLocal.Library.RunRewrite

/-!
Identifier masking of support artifacts (`support/masking.py`): long digit runs lose their
middle, in texts and in the bytes that hex texts encode.
-/
namespace Masking
open HexText PythonText RunRewrite

abbrev Bytes := List UInt8

def isDecimal (c : Char) : Bool := (decimalValue c).isSome

def isDecimalByte (b : UInt8) : Bool := decide (48 ≤ b ∧ b ≤ 57)

def minIdentifierDigits : Nat := 10

section token
variable {α : Type} (star : α)

def maskIdentifierToken (token : List α) : List α :=
  if token.length ≤ 4 then List.replicate token.length star
  else token.take 4 ++ List.replicate (max (token.length - 8) 1) star ++
    token.drop (token.length - 4)

/-- The replacement of `_NUMERIC_IDENTIFIER_RE`: only ten or more digits are an identifier. -/
def maskRun (run : List α) : List α :=
  if minIdentifierDigits ≤ run.length then maskIdentifierToken star run else run

end token

def maskDigits (text : List Char) : List Char := rewriteRuns isDecimal (maskRun '*') text

def maskBytes (raw : Bytes) : Bytes := rewriteRuns isDecimalByte (maskRun 0x2A) raw

/-- The bytes a text encodes, when it is hex of at least four bytes, white space aside. -/
def hexPayload (text : List Char) : Option Bytes :=
  let normalized := squeeze text
  if 8 ≤ normalized.length ∧ normalized.length % 2 = 0 ∧ normalized.all isHexDigit = true then
    some (fromHex normalized)
  else none

def maskChars (wireHex : Bool) (text : List Char) : List Char :=
  match hexPayload text with
  | none => maskDigits text
  | some raw =>
    if maskBytes raw ≠ raw then toHex (maskBytes raw)
    else if wireHex then text
    else maskDigits text

def maskString (wireHex : Bool) (value : String) : String :=
  String.ofList (maskChars wireHex value.toList)

inductive Key where
  | text (s : String)
  | other (label : Nat)
  deriving DecidableEq, Repr

inductive Value where
  | text (s : String)
  | list (items : List Value)
  | tuple (items : List Value)
  | dict (entries : List (Key × Value))
  | other (label : Nat)
  deriving Repr

def wireHexFields : List String :=
  ["response_hex", "raw_response_hex", "payload_hex", "raw_payload_hex", "frame_hex", "chunk_hex",
    "remaining_hex", "buffer_hex", "raw_hex", "command_hex"]

/-- What the surrounding mapping says about a value: nothing, that a text is wire hex, or that a
    mapping holds wire hex replies. -/
inductive Context where
  | plain
  | wireHex
  | replies
  deriving DecidableEq, Repr

def contextOf : Key → Context
  | .text name =>
    if wireHexFields.contains name then .wireHex
    else if name = "responses_hex" then .replies
    else .plain
  | .other _ => .plain

def Context.under (context : Context) (key : Key) : Context :=
  if context = .replies then .wireHex else contextOf key

def maskKey : Key → Key
  | .text s => .text (maskString false s)
  | .other label => .other label

mutual

def maskIn : Context → Value → Value
  | context, .text s => .text (maskString (context == .wireHex) s)
  | _, .list items => .list (maskItems items)
  | _, .tuple items => .tuple items
  | context, .dict entries => .dict (OrderedDict.assignAll (maskEntries context entries))
  | _, .other label => .other label

def maskItems : List Value → List Value
  | [] => []
  | item :: rest => maskIn .plain item :: maskItems rest

def maskEntries : Context → List (Key × Value) → List (Key × Value)
  | _, [] => []
  | context, (key, item) :: rest =>
    (maskKey key, maskIn (context.under key) item) :: maskEntries context rest

end

def maskNumericIdentifiers (value : Value) : Value := maskIn .plain value

end Masking
