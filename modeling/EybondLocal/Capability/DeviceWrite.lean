import EybondLocal.Capability.Codec
import EybondLocal.Payload.RegisterBank

/-!
`ModbusCatalogDriver.async_write_capability` (`drivers/modbus_catalog.py`) over a register bank:
what is sent for a value, what the registers hold afterwards, and when that is what was asked.
-/
namespace Capability
open BinaryFraming ModbusRead ModbusWrite RegisterBank

inductive DriverError where
  | codec (error : CodecError)
  | value (text : String)
  | write (error : WriteError)
  | preWriteRead (text : String)
  | postWriteRead (text : String)
  | mismatch (text : String)
  deriving DecidableEq, Repr

structure DetectedInverter where
  capabilities : List WriteCapability
  profileName : String
  payloadAddress : UInt8

def DetectedInverter.writeCapabilities (inverter : DetectedInverter)
    (profileForName : String → Option DriverProfileMetadata) (own : List WriteCapability) :
    List WriteCapability :=
  let listed :=
    if inverter.capabilities.isEmpty ∧ inverter.profileName ≠ "" then
      ((profileForName inverter.profileName).map DriverProfileMetadata.capabilities).getD []
    else inverter.capabilities
  if listed.isEmpty then own else listed

def findCapability (capabilityKey : String) (capabilities : List WriteCapability) :
    Option WriteCapability :=
  capabilities.find? fun (c : WriteCapability) => c.key = capabilityKey

def readErrorText : ReadError → String
  | .modbus text => text
  | .value text => text

def writeSingles (slaveId : UInt8) : Int → List Int → Wire → Except WriteError Unit × Wire
  | _, [], wire => (.ok (), wire)
  | register, word :: rest, wire =>
    match writeSingleHolding slaveId register word wire with
    | (.error error, after) => (.error error, after)
    | (.ok _, after) => writeSingles slaveId (register + 1) rest after

namespace WriteCapability
variable (c : WriteCapability)

def shiftedField (encodedWord : Int) : BitVec 16 := BitVec.ofInt 16 (encodedWord * 2 ^ c.bitmaskShift)

def mergeCapabilityRegisterWord (mask : BitVec 16) (currentWord encodedWord : Int) :
    Except DriverError (BitVec 16) :=
  if c.shiftedField encodedWord &&& ~~~mask ≠ 0 then
    .error (.value ("value_exceeds_bitmask:" ++ c.key ++ ":" ++ toString encodedWord))
  else .ok (mergeRegisterField (BitVec.ofInt 16 currentWord) mask (c.shiftedField encodedWord))

/-- The writes of `async_write_capability`. -/
def sendWords (slaveId : UInt8) (rawWords : List Int) (wire : Wire) :
    Except DriverError Unit × Wire :=
  if c.writeFunction = some 6 then
    (writeSingles slaveId c.register rawWords wire).map (Except.mapError .write) id
  else
    match c.bitmask with
    | some mask =>
      match readHolding slaveId c.register 1 wire.device with
      | .error error =>
        (.error (.preWriteRead
          ("bitmask_pre_write_read_failed:" ++ c.key ++ ":" ++ readErrorText error)), wire)
      | .ok [] => (.error (.preWriteRead ("bitmask_read_back_empty:" ++ c.key)), wire)
      | .ok (current :: _) =>
        match c.mergeCapabilityRegisterWord mask current (rawWords.headD 0) with
        | .error error => (.error error, wire)
        | .ok merged =>
          (writeHolding slaveId c.register [(merged.toNat : Int)] wire).map
            (Except.mapError .write) id
    | none => (writeHolding slaveId c.register rawWords wire).map (Except.mapError .write) id

def comparableWords (observedWords : List Nat) : List Int :=
  match c.bitmask with
  | some mask =>
    [(((BitVec.ofNat 16 (observedWords.headD 0) &&& mask) >>> c.bitmaskShift).toNat : Int)]
  | none => observedWords.map Int.ofNat

def confirm (p : Platform) (slaveId : UInt8) (requestedWords : List Int) (device : Device) :
    Except DriverError NativeValue :=
  match readHolding slaveId c.register c.wordCount.toNat device with
  | .error error =>
    .error (.postWriteRead
      ("capability_post_write_read_failed:" ++ c.key ++ ":" ++ readErrorText error))
  | .ok observedWords =>
    if (observedWords.length : Int) ≠ c.wordCount then
      .error (.postWriteRead ("capability_post_write_read_empty:" ++ c.key))
    else if c.comparableWords observedWords ≠ requestedWords then
      .error (.mismatch ("capability_write_readback_mismatch:" ++ c.key ++ ":requested=" ++
        toString requestedWords ++ ":observed=" ++ toString (c.comparableWords observedWords)))
    else (c.decodeCapabilityValue p (c.comparableWords observedWords)).mapError .codec

/-- `async_write_capability` from the capability on. -/
def writeValue (p : Platform) (slaveId : UInt8) (value : NativeValue) (device : Device) :
    Except DriverError NativeValue × Wire :=
  match c.encodeRaw p value with
  | .error error => (.error (.codec error), ⟨device, []⟩)
  | .ok raw =>
    match c.sendWords slaveId raw.words ⟨device, []⟩ with
    | (.error error, after) => (.error error, after)
    | (.ok (), after) => (c.confirm p slaveId raw.words after.device, after)

end WriteCapability

def asyncWriteCapability (p : Platform)
    (profileForName : String → Option DriverProfileMetadata) (own : List WriteCapability)
    (inverter : DetectedInverter) (capabilityKey : String) (value : NativeValue) (device : Device) :
    Except DriverError NativeValue × Wire :=
  match findCapability capabilityKey (inverter.writeCapabilities profileForName own) with
  | none => (.error (.value ("unsupported_capability:" ++ capabilityKey)), ⟨device, []⟩)
  | some c => c.writeValue p inverter.payloadAddress value device

theorem map_eq_ok {α β ε : Type} {f : α → β} {e : Except ε α} {b : β} (mapped : e.map f = .ok b) :
    ∃ a, e = .ok a ∧ f a = b := by
  cases e with
  | error error => cases mapped
  | ok a => exact ⟨a, rfl, Except.ok.inj mapped⟩

namespace WriteCapability
variable {c : WriteCapability} {p : Platform} {value : NativeValue} {raw : RawValue}

theorem u32_two_words {n : Int} (encoded : c.encodeU32Raw p value = .ok n) : c.wordCount = 2 := by
  by_contra other
  unfold encodeU32Raw at encoded
  simp only [bind, Except.bind, if_pos other] at encoded
  split at encoded
  · split at encoded
    · split at encoded
      · cases encoded
      · cases encoded
    · cases encoded
  · split at encoded
    · cases encoded
    · split at encoded
      · cases encoded
      · cases encoded

theorem encodeRaw_shape (encoded : c.encodeRaw p value = .ok raw) :
    (∃ n, raw = .one n) ∨ (c.wordCount = 2 ∧ ∃ n, raw = .two n) ∨
      (c.wordCount = 3 ∧ ∃ first second third, raw = .three first second third) := by
  unfold encodeRaw at encoded
  split at encoded
  case h_7 =>
    obtain ⟨n, two, rfl⟩ := map_eq_ok encoded
    exact Or.inr (Or.inl ⟨u32_two_words two, n, rfl⟩)
  case h_8 =>
    unfold encodeDateRaw at encoded
    split at encoded
    · cases encoded
    · rename_i three
      dsimp only at encoded
      split at encoded
      · cases encoded
        exact Or.inr (Or.inr ⟨not_not.mp three, _, _, _, rfl⟩)
      · cases encoded
  case h_9 =>
    unfold encodeTimeRaw at encoded
    split at encoded
    · cases encoded
    · rename_i three
      dsimp only at encoded
      split at encoded
      · cases encoded
        exact Or.inr (Or.inr ⟨not_not.mp three, _, _, _, rfl⟩)
      · cases encoded
  all_goals
    obtain ⟨n, _, rfl⟩ := map_eq_ok encoded
    exact Or.inl ⟨n, rfl⟩

theorem words_length (sound : c.Sound) (encoded : c.encodeRaw p value = .ok raw) :
    1 ≤ raw.words.length ∧ (raw.words.length : Int) ≤ c.wordCount ∧ raw.words.length ≤ 3 := by
  have some_word := sound.some_word
  rcases encodeRaw_shape encoded with ⟨n, rfl⟩ | ⟨two, n, rfl⟩ | ⟨three, first, second, third, rfl⟩
  · simp only [RawValue.words, List.length_singleton]
    omega
  · simp only [RawValue.words, List.length_cons, List.length_nil]
    omega
  · simp only [RawValue.words, List.length_cons, List.length_nil]
    omega

theorem masked_one {mask : BitVec 16} (masked : c.bitmask = some mask)
    (encoded : c.encodeRaw p value = .ok raw) : c.wordCount = 1 ∧ ∃ n, raw = .one n := by
  have one := (c.mask_parsed mask masked).2.1
  refine ⟨one, ?_⟩
  rcases encodeRaw_shape encoded with shape | ⟨two, _⟩ | ⟨three, _⟩
  · exact shape
  · omega
  · omega

end WriteCapability

theorem store_cons (bank : Bank) (address : Nat) (v : Nat) (rest : List Nat) :
    (bank.store address [v]).store (address + 1) rest = bank.store address (v :: rest) := by
  funext a
  unfold Bank.store
  simp only [List.length_cons, List.length_nil]
  by_cases here : a.toNat = address
  · rw [if_neg (by omega), if_pos (by omega), if_pos (by omega), here, Nat.sub_self]
    rfl
  · by_cases later : address + 1 ≤ a.toNat ∧ a.toNat < address + 1 + rest.length
    · have next : a.toNat - address = a.toNat - (address + 1) + 1 := by omega
      rw [if_pos later, if_pos (by omega), next]
      rfl
    · rw [if_neg later, if_neg (by omega), if_neg (by omega)]

theorem store_nil (bank : Bank) (address : Nat) : bank.store address [] = bank := by
  funext a
  exact store_outside bank address [] (by simp only [List.length_nil]; omega)

section
variable {slaveId : UInt8}

theorem writeSingles_stores (words : List Int) (register : Int) (wire : Wire)
    (mine : slaveId = wire.device.slaveId) (first : 0 ≤ register)
    (last : register + words.length ≤ 65536) (sixteen : ∀ word ∈ words, 0 ≤ word ∧ word < 65536) :
    ∃ writes, cells writes = cellsAt register words ∧
      writeSingles slaveId register words wire =
        (.ok (), ⟨wire.device.store register.toNat (words.map Int.toNat), wire.writes ++ writes⟩) := by
  induction words generalizing register wire with
  | nil =>
    refine ⟨[], rfl, ?_⟩
    rw [List.map_nil, Device.store, store_nil, List.append_nil]
    rfl
  | cons word rest ih =>
    have here := sixteen word List.mem_cons_self
    rw [List.length_cons] at last
    have address : register % 65536 = register := by omega
    have value : word % 65536 = word := by omega
    have sent := writeSingleHolding_eq mine register word
    rw [address, if_pos rfl, value] at sent
    obtain ⟨writes, placed, stored⟩ := ih (register + 1)
      ⟨wire.device.store register.toNat [word.toNat],
        wire.writes ++ [buildWriteSingleRequest slaveId register word]⟩
      mine (by omega) (by omega) fun w member => sixteen w (List.mem_cons_of_mem _ member)
    have decoded := decode_writeSingle slaveId register word
    rw [address, value] at decoded
    refine ⟨buildWriteSingleRequest slaveId register word :: writes, ?_, ?_⟩
    · have head : frameCells (buildWriteSingleRequest slaveId register word) = [(register, word)] := by
        have back : (register.toNat : Int) = register := by omega
        have whole : Int.ofNat word.toNat = word := Int.toNat_of_nonneg here.1
        rw [frameCells, decoded]
        simp only [List.map_cons, List.map_nil, cellsAt, back, whole]
      rw [cells, List.flatMap_cons, head, cellsAt, ← placed]
      rfl
    · have next : (register + 1).toNat = register.toNat + 1 := by omega
      rw [writeSingles, sent]
      dsimp only
      rw [stored, next, Device.store, Device.store, Device.store, store_cons, List.append_assoc]
      rfl

theorem writeSingles_sends (words : List Int) (register : Int) (wire : Wire)
    (mine : slaveId = wire.device.slaveId) :
    ∃ writes, (writeSingles slaveId register words wire).2.writes = wire.writes ++ writes ∧
      (words ≠ [] → writes ≠ []) ∧ ∀ cell ∈ cells writes, 0 ≤ cell.1 ∧ cell.1 < 65536 := by
  induction words generalizing register wire with
  | nil => exact ⟨[], (List.append_nil _).symm, fun other => absurd rfl other, nofun⟩
  | cons word rest ih =>
    have decoded := decode_writeSingle slaveId register word
    have head : ∀ cell ∈ frameCells (buildWriteSingleRequest slaveId register word),
        0 ≤ cell.1 ∧ cell.1 < 65536 := by
      intro cell member
      rw [frameCells, decoded] at member
      simp only [List.map_cons, List.map_nil, cellsAt, List.mem_singleton] at member
      rw [member]
      dsimp only
      omega
    have sent := writeSingleHolding_eq mine register word
    rw [writeSingles, sent]
    by_cases same : register % 65536 = register
    · rw [if_pos same]
      dsimp only
      obtain ⟨writes, extended, _, placed⟩ := ih (register + 1)
        ⟨wire.device.store (register % 65536).toNat [(word % 65536).toNat],
          wire.writes ++ [buildWriteSingleRequest slaveId register word]⟩ mine
      refine ⟨buildWriteSingleRequest slaveId register word :: writes, ?_, fun _ => by simp, ?_⟩
      · rw [extended, List.append_assoc]
        rfl
      · intro cell member
        rw [cells, List.flatMap_cons, List.mem_append] at member
        rcases member with first | later
        · exact head cell first
        · exact placed cell later
    · rw [if_neg same]
      dsimp only
      refine ⟨[buildWriteSingleRequest slaveId register word], rfl, fun _ => by simp, ?_⟩
      intro cell member
      rw [cells, List.flatMap_cons, List.flatMap_nil, List.append_nil] at member
      exact head cell member

end

end Capability
