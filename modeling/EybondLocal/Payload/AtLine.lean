import EybondLocal.Library.PythonText

/-!
AT commands of a collector as text lines (`collector/at.py`). A line is read as ASCII with every
other byte left out.
-/
namespace AtLine
open StripText PythonText

abbrev Bytes := List UInt8

inductive AtError where
  | commandInvalid
  | responseInvalid
  | responseCommandMismatch
  | valueNotAscii
  deriving DecidableEq, Repr

structure CollectorAtCommand where
  command : String
  operation : String
  value : String
  raw : String
  deriving DecidableEq, Repr

structure CollectorAtResponse where
  command : String
  value : String
  raw : String
  deriving DecidableEq, Repr

def decodeAscii (payload : Bytes) : String :=
  String.ofList ((payload.filter (· < 128)).map fun byte => Char.ofNat byte.toNat)

def encodeAscii (text : String) : Bytes := text.toList.map fun c => UInt8.ofNat c.toNat

def rstripMarks (text : String) : String :=
  String.ofList (text.toList.rdropWhile fun c => c == '?' || c == '=')

def dropFront (n : Nat) (text : String) : String := String.ofList (text.toList.drop n)

def dropLast (text : String) : String := String.ofList text.toList.dropLast

def endsWith (text : String) (c : Char) : Bool := text.toList.getLast? == some c

def partition (text : String) (separator : Char) : Option (String × String) :=
  if text.toList.contains separator then
    some (String.ofList (text.toList.takeWhile (· != separator)),
      String.ofList ((text.toList.dropWhile (· != separator)).drop 1))
  else none

def atPrefix : String := "AT+"

def normalizeAtCommand (command : String) : Except AtError String :=
  -- `asciiUpper` is `none` exactly where the upper-case form fails `isascii`, and what is cut off
  -- below is ASCII
  match asciiUpper (strip command) with
  | none => .error .commandInvalid
  | some normalized =>
    let bare := if startsWith normalized atPrefix then dropFront 3 normalized else normalized
    let name := rstripMarks bare
    if name = "" then .error .commandInvalid else .ok name

def buildAtLine (separator command value : String) : Except AtError Bytes := do
  let normalized ← normalizeAtCommand command
  if isAscii value = false then .error .valueNotAscii
  else return encodeAscii (atPrefix ++ normalized ++ separator ++ value ++ "\r\n")

def buildAtResponse : String → String → Except AtError Bytes := buildAtLine ":"

def parseAtCommand (payload : Bytes) : Except AtError CollectorAtCommand :=
  let normalized := strip (decodeAscii payload)
  if startsWith normalized atPrefix = false then .error .commandInvalid
  else
    let remainder := dropFront 3 normalized
    if endsWith remainder '?' then do
      let command ← normalizeAtCommand (dropLast remainder)
      return ⟨command, "query", "", normalized⟩
    else
      match partition remainder '=' with
      | none => .error .commandInvalid
      | some (commandText, value) => do
        let command ← normalizeAtCommand commandText
        return ⟨command, "write", strip value, normalized⟩

def parseAtResponse (payload : Bytes) (expectedCommand : Option String := none) :
    Except AtError CollectorAtResponse :=
  let normalized := strip (decodeAscii payload)
  if startsWith normalized atPrefix = false then .error .responseInvalid
  else
    match partition (dropFront 3 normalized) ':' with
    | none => .error .responseInvalid
    | some (commandText, value) => do
      let command ← normalizeAtCommand commandText
      match expectedCommand with
      | none => return ⟨command, strip value, normalized⟩
      | some expected =>
        let expected ← normalizeAtCommand expected
        if command ≠ expected then .error .responseCommandMismatch
        else return ⟨command, strip value, normalized⟩

end AtLine
