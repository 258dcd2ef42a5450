import Mathlib.Algebra.Group.Nat.Defs
import Mathlib.Data.List.Basic

/-!
Which texts `datetime.fromisoformat` turns into a timezone-aware datetime. This follows the
documented grammar (basic and extended calendar and week dates, one separator character,
`HH[:MM[:SS[.ffffff]]]` and an optional `Z` or offset) step by step as the standard
library's own Python implementation does; only the validity of the parts is kept.
-/
namespace IsoTimestamp

def isDigit (c : Char) : Bool := '0' ≤ c && c ≤ '9'

def digits (size : Nat) (text : List Char) : Option (Nat × List Char) :=
  let front := text.take size
  if front.length = size ∧ front.all isDigit then
    some (front.foldl (fun n c => 10 * n + (c.toNat - '0'.toNat)) 0, text.drop size)
  else none

def isLeap (year : Nat) : Bool := year % 4 == 0 && (year % 100 != 0 || year % 400 == 0)

def daysInMonth (year month : Nat) : Nat :=
  if month = 2 then if isLeap year then 29 else 28
  else if month = 4 ∨ month = 6 ∨ month = 9 ∨ month = 11 then 30 else 31

def newYearOrdinal (year : Nat) : Nat :=
  (year - 1) * 365 + (year - 1) / 4 - (year - 1) / 100 + (year - 1) / 400 + 1

def maxOrdinal : Nat := 3652059

def validYear (year : Nat) : Bool := 1 ≤ year && year ≤ 9999

def validCalendarDate (year month day : Nat) : Bool :=
  validYear year && 1 ≤ month && month ≤ 12 && 1 ≤ day && day ≤ daysInMonth year month

def validWeekDate (year week day : Nat) : Bool :=
  let weekday := newYearOrdinal year % 7
  let long := weekday == 4 || (weekday == 3 && isLeap year)
  let fromMonday := (newYearOrdinal year + 6) % 7
  let firstMonday := newYearOrdinal year + (if 3 < fromMonday then 7 else 0)
  validYear year && 1 ≤ week && (week < 53 || (week == 53 && long)) && 1 ≤ day && day < 8 &&
    firstMonday + (week - 1) * 7 + (day - 1) ≤ maxOrdinal + fromMonday

def separatorPosition (text : List Char) : Option Nat :=
  let size := text.length
  if size < 7 then none
  else if size = 7 then some 7
  else if text[4]? = some '-' then
    if text[5]? ≠ some 'W' then some 10
    else if 8 < size ∧ text[8]? = some '-' then
      if size = 9 then none
      else if 10 < size ∧ (text[10]?.map isDigit).getD false then some 8 else some 10
    else some 8
  else if text[4]? = some 'W' then
    let numbers := 7 + ((text.drop 7).takeWhile isDigit).length
    if numbers < 9 then some numbers else if numbers % 2 = 0 then some 7 else some 8
  else some 8

def dash (extended : Bool) (text : List Char) : Option (List Char) :=
  match text with
  | '-' :: rest => if extended then some rest else none
  | _ => if extended then none else some text

def validDate (text : List Char) : Bool :=
  match digits 4 text with
  | none => false
  | some (year, rest) =>
    let extended := rest.head? == some '-'
    match if extended then rest.tail else rest with
    | 'W' :: rest =>
      match digits 2 rest with
      | none => false
      | some (week, []) => validWeekDate year week 1
      | some (week, rest) =>
        match (dash extended rest).bind (digits 1) with
        | some (day, _) => validWeekDate year week day
        | none => false
    | rest =>
      match digits 2 rest with
      | none => false
      | some (month, rest) =>
        match (dash extended rest).bind (digits 2) with
        | some (day, _) => validCalendarDate year month day
        | none => false

def fraction (text : List Char) : Option Nat :=
  match text with
  | [] => some 0
  | mark :: rest =>
    if (mark = '.' ∨ mark = ',') ∧ rest ≠ [] ∧ rest.all isDigit then
      let kept := rest.take 6
      (digits kept.length kept).map fun number => number.1 * 10 ^ (6 - kept.length)
    else none

def clock (text : List Char) : Option (Nat × Nat × Nat × Nat) :=
  match digits 2 text with
  | none => none
  | some (hour, []) => some (hour, 0, 0, 0)
  | some (hour, rest) =>
    let extended := rest.head? == some ':'
    match digits 2 (if extended then rest.tail else rest) with
    | none => none
    | some (minute, []) => some (hour, minute, 0, 0)
    | some (minute, rest) =>
      if extended ∧ rest.head? ≠ some ':' then none
      else
        match digits 2 (if extended then rest.tail else rest) with
        | none => none
        | some (second, rest) => (fraction rest).map fun micros => (hour, minute, second, micros)

def validTime (time : Nat × Nat × Nat × Nat) : Bool :=
  time.1 < 24 && time.2.1 < 60 && time.2.2.1 < 60

def validOffset (time : Nat × Nat × Nat × Nat) : Bool :=
  time.1 * 3600 + time.2.1 * 60 + time.2.2.1 < 86400

def zonePosition (text : List Char) : Option Nat :=
  (text.findIdx? (· == '-')) <|> (text.findIdx? (· == '+')) <|> (text.findIdx? (· == 'Z'))

def awareTime (text : List Char) : Bool :=
  match zonePosition text with
  | none => false
  | some position =>
    match clock (text.take position) with
    | none => false
    | some time =>
      let zone := text.drop (position + 1)
      if text[position]? = some 'Z' ∧ zone = [] then validTime time
      else if zone.length = 0 ∨ zone.length = 1 ∨ zone.length = 3 then false
      else
        match clock zone with
        | none => false
        | some offset => validTime time && validOffset offset

def parsesAware (text : String) : Bool :=
  match separatorPosition text.toList with
  | none => false
  | some position =>
    validDate (text.toList.take position) && awareTime (text.toList.drop (position + 1))

end IsoTimestamp
