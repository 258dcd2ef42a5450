import EybondLocal.Library.PythonText

/-!
Which texts Python's `ipaddress.ip_address` takes for an address, and of which
version: the tests of `IPv4Address` come first, those of `IPv6Address` second.
-/
namespace InternetAddress
open PythonText

inductive Version where
  | v4
  | v6
  deriving DecidableEq, Repr

def isDecimal (c : Char) : Bool := 48 ≤ c.toNat && c.toNat ≤ 57

/-- `_parse_octet`: at most three ASCII digits without a leading zero, at most 255. -/
def validOctet (octet : String) : Bool :=
  octet ≠ "" && octet.toList.all isDecimal && octet.length ≤ 3 &&
    (octet = "0" || octet.toList.head? ≠ some '0') &&
    octet.toList.foldl (fun total c => 10 * total + (c.toNat - 48)) 0 ≤ 255

def isIpv4 (text : String) : Bool :=
  text ≠ "" && !text.toList.contains '/' &&
    (splitText '.' text).length = 4 && (splitText '.' text).all validOctet

def isHexDigit (c : Char) : Bool :=
  isDecimal c || (97 ≤ c.toNat && c.toNat ≤ 102) || (65 ≤ c.toNat && c.toNat ≤ 70)

/-- `_parse_hextet`; `int("", 16)` is a `ValueError` too. -/
def validHextet (hextet : String) : Bool :=
  hextet ≠ "" && hextet.toList.all isHexDigit && hextet.length ≤ 4

def expandSuffix (parts : List String) : Option (List String) :=
  match parts.getLast? with
  | some last =>
    if last.toList.contains '.' then
      if isIpv4 last then some (parts.dropLast ++ ["0", "0"]) else none
    else some parts
  | none => some parts

def skipPositions (parts : List String) : List Nat :=
  (List.range parts.length).filter fun i =>
    1 ≤ i && i + 1 < parts.length && parts[i]? = some ""

def validParts (parts : List String) : Bool :=
  parts.length ≤ 9 &&
    match skipPositions parts with
    | [] =>
      parts.length = 8 && parts.head? ≠ some "" && parts.getLast? ≠ some "" &&
        parts.all validHextet
    | [skip] =>
      let leading := parts.head? = some ""
      let trailing := parts.getLast? = some ""
      let high := if leading then skip - 1 else skip
      let low := if trailing then parts.length - skip - 2 else parts.length - skip - 1
      !(leading && high ≠ 0) && !(trailing && low ≠ 0) && high + low ≤ 7 &&
        (parts.take high).all validHextet &&
        (parts.drop (parts.length - low)).all validHextet
    | _ => false

def splitScope (text : String) : Option String :=
  match text.toList.splitOn '%' with
  | [address] => some (String.ofList address)
  | [address, scope] => if scope = [] then none else some (String.ofList address)
  | _ => none

def isIpv6 (text : String) : Bool :=
  !text.toList.contains '/' &&
    match splitScope text with
    | none => false
    | some address =>
      address ≠ "" && 3 ≤ (splitText ':' address).length &&
        match expandSuffix (splitText ':' address) with
        | none => false
        | some parts => validParts parts

/-- `ipaddress.ip_address(text).version`, `none` for its `ValueError`. -/
def addressVersion (text : String) : Option Version :=
  if isIpv4 text then some .v4 else if isIpv6 text then some .v6 else none

end InternetAddress
