import EybondLocal.Library.StripText
import Mathlib.Data.List.Basic
import Mathlib.Tactic.Common

/-!
The ASCII frames of PI30 and PI18 (`payload/pi30.py`, `payload/pi18.py`) on a raw connection, whose
reader ends a message at the first carriage return. PI30 moves a check byte away from the
terminator; PI18 sends it as it is, and neither parser looks for a terminator inside the body.
-/
namespace AsciiLine
open StripText

abbrev Bytes := List UInt8

def carriageReturn : UInt8 := 0x0D

def crcShift (crc : UInt16) : UInt16 :=
  if crc &&& 0x8000 ≠ 0 then (crc <<< 1) ^^^ 0x1021 else crc <<< 1

def crcByte (crc : UInt16) (byte : UInt8) : UInt16 :=
  crcShift (crcShift (crcShift (crcShift (crcShift (crcShift (crcShift (crcShift
    (crc ^^^ (byte.toUInt16 <<< 8)))))))))

def crc16Xmodem (data : Bytes) : UInt16 := data.foldl crcByte 0

def highByte (crc : UInt16) : UInt8 := (crc >>> 8).toUInt8

def lowByte (crc : UInt16) : UInt8 := crc.toUInt8

def crcBytes (payload : Bytes) : Bytes :=
  [highByte (crc16Xmodem payload), lowByte (crc16Xmodem payload)]

def escapeCrcByte (value : UInt8) : UInt8 :=
  if value ∈ [0x28, 0x0D, 0x0A] then value + 1 else value

def encodeCrc (payload : Bytes) : Bytes := (crcBytes payload).map escapeCrcByte

theorem escapeCrcByte_ne (value : UInt8) : escapeCrcByte value ≠ carriageReturn := by
  unfold escapeCrcByte carriageReturn
  split
  · rename_i special
    simp only [List.mem_cons, List.not_mem_nil, or_false] at special
    rcases special with rfl | rfl | rfl <;> decide
  · rename_i ordinary
    intro terminator
    exact ordinary (by simp [terminator])

theorem encodeCrc_free (payload : Bytes) : carriageReturn ∉ encodeCrc payload := by
  intro member
  obtain ⟨value, _, same⟩ := List.mem_map.mp member
  exact escapeCrcByte_ne value same

def isAscii (s : String) : Bool := s.toList.all fun c => c.toNat < 128

def encodeAscii (command : String) : Bytes := command.toList.map fun c => UInt8.ofNat c.toNat

inductive Protocol where
  | pi30
  | pi18
  deriving DecidableEq, Repr

def Protocol.check : Protocol → Bytes → Bytes
  | pi30 => encodeCrc
  | pi18 => crcBytes

def buildRequest (protocol : Protocol) (command : String) : Except String Bytes :=
  if command = "" ∨ isAscii command = false then .error "invalid_command"
  else
    let payload := encodeAscii command
    .ok (payload ++ protocol.check payload ++ [carriageReturn])

def decodeAscii (data : Bytes) : Option String :=
  if data.all (· < 128) then some (String.ofList (data.map fun b => Char.ofNat b.toNat)) else none

namespace Pi30

def parseResponse (frame : Bytes) : Except String String :=
  if frame.length < 4 then .error "response_too_short"
  else if frame.getLast? ≠ some carriageReturn then .error "missing_terminator"
  else
    let body := frame.take (frame.length - 3)
    let crcReceived := (frame.drop (frame.length - 3)).dropLast
    if crcReceived ≠ encodeCrc body then .error "crc_mismatch"
    else if body.head? ≠ some 0x28 then .error "unexpected_prefix"
    else
      match decodeAscii body.tail with
      | some text => .ok text
      | none => .error "invalid_ascii"

end Pi30

namespace Pi18

def parseResponse (frame : Bytes) : Except String String :=
  if frame.length < 6 then .error "response_too_short"
  else if frame.getLast? ≠ some carriageReturn then .error "missing_terminator"
  else
    let body := frame.take (frame.length - 3)
    let crcReceived := (frame.drop (frame.length - 3)).dropLast
    if crcReceived ≠ crcBytes body then .error "crc_mismatch"
    else
      match decodeAscii body with
      | none => .error "invalid_ascii"
      | some text =>
        if startsWith text "^D" = false ∨ text.length < 5 ∨
            ((text.toList.drop 2).take 3).all Char.isDigit = false then
          .error "unexpected_prefix"
        else .ok (String.ofList (text.toList.drop 5))

end Pi18

def parseResponse : Protocol → Bytes → Except String String
  | .pi30 => Pi30.parseResponse
  | .pi18 => Pi18.parseResponse

def readLine : Bytes → Option (Bytes × Bytes)
  | [] => none
  | b :: rest =>
    if b = carriageReturn then some ([b], rest)
    else (readLine rest).map fun read => (b :: read.1, read.2)

def OnlyTerminator (frame : Bytes) : Prop :=
  ∃ body, frame = body ++ [carriageReturn] ∧ carriageReturn ∉ body

def WholeLine (frame : Bytes) : Prop := ∀ rest, readLine (frame ++ rest) = some (frame, rest)

theorem readLine_terminated {body : Bytes} (free : carriageReturn ∉ body) (rest : Bytes) :
    readLine (body ++ carriageReturn :: rest) = some (body ++ [carriageReturn], rest) := by
  induction body with
  | nil => simp [readLine]
  | cons b body ih =>
    rw [List.mem_cons, not_or] at free
    rw [List.cons_append, readLine, if_neg (Ne.symm free.1), ih free.2]
    rfl

theorem readLine_some {stream line rest : Bytes} (read : readLine stream = some (line, rest)) :
    ∃ body, line = body ++ [carriageReturn] ∧ carriageReturn ∉ body := by
  induction stream generalizing line with
  | nil => cases read
  | cons b stream ih =>
    unfold readLine at read
    split at read
    · rename_i terminator
      cases read
      exact ⟨[], by rw [terminator]; rfl, List.not_mem_nil⟩
    · rename_i ordinary
      obtain ⟨⟨front, back⟩, first, eq⟩ := Option.map_eq_some_iff.mp read
      cases eq
      obtain ⟨body, rfl, free⟩ := ih first
      refine ⟨b :: body, rfl, ?_⟩
      rw [List.mem_cons, not_or]
      exact ⟨Ne.symm ordinary, free⟩

theorem onlyTerminator_iff (body : Bytes) :
    OnlyTerminator (body ++ [carriageReturn]) ↔ carriageReturn ∉ body := by
  constructor
  · rintro ⟨body', same, free⟩
    rw [List.append_cancel_right same]
    exact free
  · intro free
    exact ⟨body, rfl, free⟩

theorem wholeLine_iff (frame : Bytes) : WholeLine frame ↔ OnlyTerminator frame := by
  constructor
  · intro whole
    exact readLine_some (whole [])
  · rintro ⟨body, rfl, free⟩ rest
    rw [List.append_assoc]
    exact readLine_terminated free rest

inductive Framed (protocol : Protocol) : Bytes → Bytes → Prop where
  | request {command : String} {frame : Bytes} (built : buildRequest protocol command = .ok frame) :
      Framed protocol (encodeAscii command) frame
  | response {frame : Bytes} {text : String} (accepted : parseResponse protocol frame = .ok text) :
      Framed protocol (frame.take (frame.length - 3)) frame

theorem frame_split {frame : Bytes} {crc : Bytes} (long : 3 < frame.length)
    (terminated : frame.getLast? = some carriageReturn)
    (checked : (frame.drop (frame.length - 3)).dropLast = crc) :
    frame = frame.take (frame.length - 3) ++ crc ++ [carriageReturn] := by
  have last : (frame.drop (frame.length - 3)).getLast? = some carriageReturn := by
    rw [List.getLast?_drop, if_neg (by omega)]
    exact terminated
  have tail := List.dropLast_append_getLast? carriageReturn last
  rw [List.append_assoc, ← checked, tail, List.take_append_drop]

/-- Every frame is its payload, the check bytes and the terminator. -/
theorem framed_split {protocol : Protocol} {payload frame : Bytes}
    (framed : Framed protocol payload frame) :
    frame = payload ++ protocol.check payload ++ [carriageReturn] := by
  cases framed with
  | request built =>
    unfold buildRequest at built
    split at built
    · cases built
    · cases built
      rfl
  | response accepted =>
    cases protocol with
    | pi30 =>
      simp only [parseResponse, Pi30.parseResponse] at accepted
      split at accepted
      · cases accepted
      · rename_i long
        split at accepted
        · cases accepted
        · rename_i terminated
          split at accepted
          · cases accepted
          · rename_i checked
            exact frame_split (by omega) (not_not.mp terminated) (not_not.mp checked)
    | pi18 =>
      simp only [parseResponse, Pi18.parseResponse] at accepted
      split at accepted
      · cases accepted
      · rename_i long
        split at accepted
        · cases accepted
        · rename_i terminated
          split at accepted
          · cases accepted
          · rename_i checked
            exact frame_split (by omega) (not_not.mp terminated) (not_not.mp checked)

/-- The payload has no terminator, nor have check bytes that are sent as they are. -/
def Unbroken (protocol : Protocol) (payload : Bytes) : Prop :=
  carriageReturn ∉ payload ∧ (protocol = .pi18 → carriageReturn ∉ crcBytes payload)

/-- A built request or an accepted response has its only terminator at its end, and so is read as
    one line, exactly when its payload has no terminator and, in PI18, its checksum has none. -/
theorem framed_wholeLine_iff {protocol : Protocol} {payload frame : Bytes}
    (framed : Framed protocol payload frame) :
    (OnlyTerminator frame ↔ Unbroken protocol payload) ∧
      (WholeLine frame ↔ Unbroken protocol payload) := by
  have only : OnlyTerminator frame ↔ Unbroken protocol payload := by
    rw [framed_split framed, onlyTerminator_iff, List.mem_append, not_or]
    unfold Unbroken
    cases protocol with
    | pi30 =>
      have escaped : carriageReturn ∉ Protocol.pi30.check payload := encodeCrc_free payload
      simp [escaped]
    | pi18 => simp [Protocol.check]
  exact ⟨only, (wholeLine_iff frame).trans only⟩

/-- The clock query of PI18. -/
theorem clock_query_wholeLine :
    WholeLine (encodeAscii "^P004T" ++ crcBytes (encodeAscii "^P004T") ++ [carriageReturn]) := by
  have built : buildRequest .pi18 "^P004T" = .ok
      (encodeAscii "^P004T" ++ crcBytes (encodeAscii "^P004T") ++ [carriageReturn]) := by
    decide +kernel
  exact (framed_wholeLine_iff (.request built)).2.mpr (by unfold Unbroken; decide +kernel)

/-- The energy query of one day: its checksum is 0x030D, so the line ends before the frame does. -/
theorem dated_query_is_cut : ¬ ∀ command frame, '\r' ∉ command.toList →
    buildRequest .pi18 command = .ok frame → WholeLine frame := by
  intro whole
  have built : buildRequest .pi18 "^P013ED20240118" = .ok
      (encodeAscii "^P013ED20240118" ++ [0x03, 0x0D] ++ [carriageReturn]) := by decide +kernel
  have read := whole "^P013ED20240118" _ (by decide) built []
  exact absurd read (by decide +kernel)

end AsciiLine
