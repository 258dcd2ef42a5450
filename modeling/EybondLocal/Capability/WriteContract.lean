import EybondLocal.Capability.DeviceWrite
import EybondLocal.Capability.RoundTrip

/-!
What a written value should do to the registers, and the exact condition under which
`async_write_capability` does it.
-/
namespace Capability
open BinaryFraming ModbusRead ModbusWrite RegisterBank

namespace WriteCapability
variable (c : WriteCapability)

def Representable : RawValue → Prop
  | .one raw =>
    match c.bitmask with
    | none => 0 ≤ raw ∧ raw < 65536
    | some mask => 0 ≤ raw ∧ raw ≤ (mask >>> c.bitmaskShift).toNat
  | .two raw => 0 ≤ raw ∧ raw < 4294967296
  | .three first second third => ∀ word ∈ [first, second, third], 0 ≤ word ∧ word < 65536

def Encodes (bank : Bank) (raw : RawValue) (written : List (Int × Int)) : Prop :=
  match c.bitmask with
  | none => written = cellsAt c.register raw.words
  | some mask => ∃ merged : BitVec 16, written = [(c.register, (merged.toNat : Int))] ∧
      [(((merged &&& mask) >>> c.bitmaskShift).toNat : Int)] = raw.words ∧
      merged &&& ~~~mask = bank (BitVec.ofInt 16 c.register) &&& ~~~mask

def Holds (bank : Bank) (raw : RawValue) : Prop :=
  match c.bitmask with
  | none => ∀ (i : Nat) (word : Int), raw.words[i]? = some word →
      ((bank (BitVec.ofInt 16 (c.register + i))).toNat : Int) = word
  | some mask =>
    [(((bank (BitVec.ofInt 16 c.register) &&& mask) >>> c.bitmaskShift).toNat : Int)] = raw.words

def Target (a : BitVec 16) : Prop :=
  c.register ≤ a.toNat ∧ (a.toNat : Int) < c.register + c.wordCount

structure Framed (before after : Bank) : Prop where
  others : ∀ a, ¬ c.Target a → after a = before a
  bits : ∀ mask, c.bitmask = some mask → ∀ a, after a &&& ~~~mask = before a &&& ~~~mask

structure WriteContract (p : Platform) (value : NativeValue) (before : Bank)
    (run : Except DriverError NativeValue × Wire) : Prop where
  sent : run.2.writes = [] ∨ ∃ raw, c.encodeRaw p value = .ok raw ∧ c.Representable raw ∧
    c.Encodes before raw (cells run.2.writes)
  stored : ∀ v, run.1 = .ok v →
    ∃ raw, c.encodeRaw p value = .ok raw ∧ c.Representable raw ∧ c.Holds run.2.device.bank raw
  framed : c.Framed before run.2.device.bank

def Passes (raw : RawValue) : Prop :=
  if c.writeFunction = some 6 then True
  else
    match c.bitmask with
    | none => ∀ word ∈ raw.words, 0 ≤ word ∧ word < 65536
    | some mask => c.shiftedField (raw.words.headD 0) &&& ~~~mask = 0

def Addressable (raw : RawValue) : Prop :=
  if c.writeFunction = some 6 then 0 ≤ c.register ∧ c.register + raw.words.length ≤ 65536
  else 0 ≤ c.register ∧ c.register < 65536

def Writable (p : Platform) (value : NativeValue) : Prop :=
  ∀ raw, c.encodeRaw p value = .ok raw → c.Passes raw → c.Representable raw ∧ c.Addressable raw

end WriteCapability

section
variable (device : Device) (address : Int)

theorem ofInt_address : BitVec.ofNat 16 (address % 65536).toNat = BitVec.ofInt 16 address := by
  apply BitVec.eq_of_toNat_eq
  rw [BitVec.toNat_ofNat, BitVec.toNat_ofInt]
  omega

theorem readHolding_one : readHolding device.slaveId address 1 device =
    .ok [(device.bank (BitVec.ofInt 16 address)).toNat] := by
  rw [readHolding_ok device (le_refl 1) (by omega) address (by omega)]
  simp only [Bank.read, List.range_one, List.map_cons, List.map_nil, Nat.add_zero, ofInt_address]

end

theorem mem_cellsAt (words : List Int) (address : Int) {i : Nat} {word : Int}
    (found : words[i]? = some word) : (address + i, word) ∈ cellsAt address words := by
  induction words generalizing address i with
  | nil => cases found
  | cons first rest ih =>
    rw [cellsAt, List.mem_cons]
    cases i with
    | zero =>
      left
      rw [List.getElem?_cons_zero] at found
      cases found
      rw [Int.natCast_zero, add_zero]
    | succ i =>
      right
      have later := ih (address + 1) found
      rwa [add_assoc, add_comm 1 (i : Int)] at later

namespace WriteCapability
variable {c : WriteCapability} {p : Platform} {value : NativeValue} {raw : RawValue} {wire : Wire}

theorem words_sixteen (unmasked : c.bitmask = none) (representable : c.Representable raw) :
    ∀ word ∈ raw.words, 0 ≤ word ∧ word < 65536 := by
  unfold Representable at representable
  cases raw with
  | one n =>
    rw [unmasked] at representable
    intro word member
    rw [List.mem_singleton.mp member]
    exact representable
  | two n =>
    intro word member
    simp only [RawValue.words, List.mem_cons, List.not_mem_nil, or_false] at member
    rcases member with high | low
    · omega
    · omega
  | three first second third => exact representable

theorem and_of_inside {field mask : BitVec 16} (inside : field &&& ~~~mask = 0) :
    field &&& mask = field := by
  ext i bound
  have outside : (field &&& ~~~mask)[i] = (0 : BitVec 16)[i] := by rw [inside]
  simp only [BitVec.getElem_and, BitVec.getElem_not] at outside ⊢
  cases bit : field[i] with
  | false => rfl
  | true =>
    rw [bit] at outside
    cases there : mask[i] with
    | true => rfl
    | false =>
      rw [there] at outside
      simp at outside

theorem merged_field {mask current : BitVec 16} {n : Int} (small : 0 ≤ n)
    (fits : n ≤ (mask >>> c.bitmaskShift).toNat) (inside : c.shiftedField n &&& ~~~mask = 0) :
    (((mergeRegisterField current mask (c.shiftedField n) &&& mask) >>> c.bitmaskShift).toNat : Int) =
      n := by
  have within := and_of_inside inside
  have power : 0 < 2 ^ c.bitmaskShift := Nat.two_pow_pos _
  have shifted : (mask >>> c.bitmaskShift).toNat = mask.toNat / 2 ^ c.bitmaskShift := by
    rw [BitVec.toNat_ushiftRight, Nat.shiftRight_eq_div_pow]
  have bound : n.toNat * 2 ^ c.bitmaskShift < 65536 := by
    have below : n.toNat ≤ mask.toNat / 2 ^ c.bitmaskShift := by omega
    have scaled := (Nat.le_div_iff_mul_le power).mp below
    have size := mask.isLt
    omega
  have number : (c.shiftedField n).toNat = n.toNat * 2 ^ c.bitmaskShift := by
    have whole : n * 2 ^ c.bitmaskShift = ((n.toNat * 2 ^ c.bitmaskShift : Nat) : Int) := by
      push_cast
      rw [Int.toNat_of_nonneg small]
    unfold shiftedField
    rw [whole, BitVec.ofInt_natCast, BitVec.toNat_ofNat]
    omega
  rw [mergeRegisterField_field, within, BitVec.toNat_ushiftRight, Nat.shiftRight_eq_div_pow, number,
    Nat.mul_div_cancel _ power]
  omega

theorem holds_of_store (unmasked : c.bitmask = none) (first : 0 ≤ c.register)
    (last : c.register + raw.words.length ≤ 65536)
    (sixteen : ∀ word ∈ raw.words, 0 ≤ word ∧ word < 65536) (bank : Bank) :
    c.Holds (bank.store c.register.toNat (raw.words.map Int.toNat)) raw := by
  unfold Holds
  rw [unmasked]
  intro i word found
  obtain ⟨inside, rfl⟩ := List.getElem?_eq_some_iff.mp found
  have small := sixteen _ (List.getElem_mem inside)
  have length : (raw.words.map Int.toNat).length = raw.words.length := List.length_map _
  have place : c.register + i = ((c.register.toNat + i : Nat) : Int) := by omega
  have held := store_inside bank c.register.toNat (raw.words.map Int.toNat)
    (by
      intro v member
      obtain ⟨w, among, rfl⟩ := List.mem_map.mp member
      have bounds := sixteen w among
      omega)
    (by omega) (by omega : i < (raw.words.map Int.toNat).length)
  rw [place, BitVec.ofInt_natCast, held, List.getD_eq_getElem?_getD, List.getElem?_map, found,
    Option.map_some, Option.getD_some]
  omega

theorem framed_of_store (unmasked : c.bitmask = none) (first : 0 ≤ c.register)
    (few : (raw.words.length : Int) ≤ c.wordCount) (bank : Bank) :
    c.Framed bank (bank.store c.register.toNat (raw.words.map Int.toNat)) := by
  constructor
  · intro a other
    apply store_outside
    intro inside
    apply other
    rw [List.length_map] at inside
    unfold Target
    omega
  · intro mask masked
    rw [unmasked] at masked
    cases masked

theorem framed_refl (bank : Bank) : c.Framed bank bank :=
  ⟨fun _ _ => rfl, fun _ _ _ => rfl⟩

theorem sendWords_stopped (sound : c.Sound) (encoded : c.encodeRaw p value = .ok raw)
    (refused : ¬ c.Passes raw) :
    ∃ error, c.sendWords wire.device.slaveId raw.words wire = (.error error, wire) := by
  obtain ⟨some_word, _, three⟩ := words_length sound encoded
  unfold Passes at refused
  unfold sendWords
  by_cases six : c.writeFunction = some 6
  · rw [if_pos six] at refused
    exact absurd trivial refused
  rw [if_neg six] at refused ⊢
  cases masked : c.bitmask with
  | none =>
    rw [masked] at refused
    rcases writeHolding_cases rfl c.register (List.ne_nil_of_length_pos some_word) (by omega) with
      ⟨_, error, stopped⟩ | ⟨sixteen, _⟩
    · dsimp only
      rw [stopped]
      exact ⟨_, rfl⟩
    · exact absurd sixteen refused
  | some mask =>
    rw [masked] at refused
    dsimp only at refused ⊢
    rw [readHolding_one]
    dsimp only
    rw [mergeCapabilityRegisterWord, if_pos refused]
    exact ⟨_, rfl⟩

structure Stored (c : WriteCapability) (raw : RawValue) (wire : Wire)
    (run : Except DriverError Unit × Wire) : Prop where
  encoded : ∃ writes, run.2.writes = wire.writes ++ writes ∧
    c.Encodes wire.device.bank raw (cells writes)
  framed : c.Framed wire.device.bank run.2.device.bank
  holds : run.1 = .ok () → c.Holds run.2.device.bank raw

theorem cells_single {request : Bytes} {slaveId : UInt8} {address : Nat} {values : List Nat}
    (decoded : decodeWriteRequest request = some ⟨slaveId, 0x10, address, values⟩) :
    cells [request] = cellsAt address (values.map Int.ofNat) := by
  rw [cells, List.flatMap_cons, List.flatMap_nil, List.append_nil, frameCells, decoded]

theorem map_ofNat_toNat {words : List Int} (sixteen : ∀ word ∈ words, 0 ≤ word ∧ word < 65536) :
    (words.map Int.toNat).map Int.ofNat = words := by
  rw [List.map_map]
  calc words.map (Int.ofNat ∘ Int.toNat) = words.map id :=
        List.map_congr_left fun word member => Int.toNat_of_nonneg (sixteen word member).1
    _ = words := List.map_id _

theorem multiple_stores (sound : c.Sound) (encoded : c.encodeRaw p value = .ok raw)
    (unmasked : c.bitmask = none) (first : 0 ≤ c.register) (last : c.register < 65536)
    (sixteen : ∀ word ∈ raw.words, 0 ≤ word ∧ word < 65536) :
    Stored c raw wire
      ((writeHolding wire.device.slaveId c.register raw.words wire).map (Except.mapError .write) id) := by
  obtain ⟨some_word, few, three⟩ := words_length sound encoded
  have address : c.register % 65536 = c.register := by omega
  have back : (c.register.toNat : Int) = c.register := Int.toNat_of_nonneg first
  rcases writeHolding_cases rfl c.register (List.ne_nil_of_length_pos some_word) (by omega) with
    ⟨outside, _⟩ | ⟨_, request, decoded, rest⟩
  · exact absurd sixteen outside
  rw [address] at decoded rest
  have placed : c.Encodes wire.device.bank raw (cells [request]) := by
    unfold Encodes
    rw [unmasked]
    dsimp only
    rw [cells_single decoded, map_ofNat_toNat sixteen, back]
  rcases rest with ⟨long, error, sent⟩ | ⟨fits, result, _, sent⟩
  · rw [sent]
    constructor
    · exact ⟨[request], rfl, placed⟩
    · exact framed_refl _
    · intro returned
      cases returned
  · rw [sent]
    constructor
    · exact ⟨[request], rfl, placed⟩
    · exact framed_of_store unmasked first few _
    · intro _
      exact holds_of_store unmasked first fits sixteen _

theorem masked_stores {mask : BitVec 16} (masked : c.bitmask = some mask) {n : Int}
    (one : raw = .one n) (single : c.wordCount = 1) (first : 0 ≤ c.register)
    (last : c.register < 65536) (small : 0 ≤ n) (fits : n ≤ (mask >>> c.bitmaskShift).toNat)
    (inside : c.shiftedField n &&& ~~~mask = 0) :
    Stored c raw wire
      ((writeHolding wire.device.slaveId c.register
        [((mergeRegisterField (wire.device.bank (BitVec.ofInt 16 c.register)) mask
          (c.shiftedField n)).toNat : Int)] wire).map (Except.mapError .write) id) := by
  generalize is : mergeRegisterField (wire.device.bank (BitVec.ofInt 16 c.register)) mask
    (c.shiftedField n) = merged
  have size := merged.isLt
  have sixteen : ∀ word ∈ [(merged.toNat : Int)], 0 ≤ word ∧ word < 65536 := by
    intro word member
    rw [List.mem_singleton.mp member]
    omega
  have address : c.register % 65536 = c.register := by omega
  have back : (c.register.toNat : Int) = c.register := Int.toNat_of_nonneg first
  have field : [(((merged &&& mask) >>> c.bitmaskShift).toNat : Int)] = raw.words := by
    rw [one, ← is]
    exact congrArg (fun n => [n]) (merged_field small fits inside)
  have rest : merged &&& ~~~mask = wire.device.bank (BitVec.ofInt 16 c.register) &&& ~~~mask := by
    rw [← is]
    exact mergeRegisterField_rest _ _ _
  have mine : wire.device.slaveId = wire.device.slaveId := rfl
  rcases writeHolding_cases mine c.register (List.cons_ne_nil (merged.toNat : Int) [])
    (by simp) with ⟨outside, _⟩ | ⟨_, request, decoded, sent⟩
  · exact absurd sixteen outside
  rw [address] at decoded sent
  have placed : c.Encodes wire.device.bank raw (cells [request]) := by
    unfold Encodes
    rw [masked]
    refine ⟨merged, ?_, field, rest⟩
    rw [cells_single decoded, map_ofNat_toNat sixteen, back]
    rfl
  have target : (BitVec.ofInt 16 c.register).toNat = c.register.toNat := by
    rw [BitVec.toNat_ofInt]
    omega
  have stored : ∀ a, (wire.device.bank.store c.register.toNat [merged.toNat]) a =
      if a = BitVec.ofInt 16 c.register then merged else wire.device.bank a := by
    intro a
    by_cases here : a = BitVec.ofInt 16 c.register
    · have value := store_inside wire.device.bank c.register.toNat [merged.toNat]
        (fun v member => by rw [List.mem_singleton.mp member]; exact size)
        (by simp only [List.length_singleton]; omega) (by simp : 0 < [merged.toNat].length)
      rw [if_pos here, here]
      apply BitVec.eq_of_toNat_eq
      rw [Nat.add_zero] at value
      rwa [← BitVec.ofInt_natCast, back] at value
    · rw [if_neg here]
      apply store_outside
      intro within
      apply here
      apply BitVec.eq_of_toNat_eq
      rw [List.length_singleton] at within
      omega
  rcases sent with ⟨long, _⟩ | ⟨_, result, _, sent⟩
  · rw [List.length_singleton] at long
    omega
  · rw [sent]
    constructor
    · exact ⟨[request], rfl, placed⟩
    · constructor
      · intro a other
        change wire.device.bank.store c.register.toNat [merged.toNat] a = _
        rw [stored, if_neg]
        intro here
        apply other
        unfold Target
        rw [here, target, single]
        omega
      · intro other given a
        rw [masked] at given
        cases given
        change wire.device.bank.store c.register.toNat [merged.toNat] a &&& _ = _
        rw [stored]
        split
        · rename_i here
          rw [here]
          exact rest
        · rfl
    · intro _
      unfold Holds
      rw [masked]
      change [(((wire.device.bank.store c.register.toNat [merged.toNat]
        (BitVec.ofInt 16 c.register) &&& mask) >>> c.bitmaskShift).toNat : Int)] = _
      rw [stored, if_pos rfl]
      exact field

theorem Sound.unmasked_of_single (sound : c.Sound) (six : c.writeFunction = some 6) :
    c.bitmask = none := by
  cases masked : c.bitmask with
  | none => rfl
  | some mask => exact absurd six (sound.mask_multiple (by rw [masked]; rfl))

theorem sendWords_stores (sound : c.Sound) (encoded : c.encodeRaw p value = .ok raw)
    (passes : c.Passes raw) (representable : c.Representable raw)
    (addressable : c.Addressable raw) :
    Stored c raw wire (c.sendWords wire.device.slaveId raw.words wire) := by
  obtain ⟨some_word, few, three⟩ := words_length sound encoded
  unfold Passes at passes
  unfold Addressable at addressable
  unfold sendWords
  by_cases six : c.writeFunction = some 6
  · have unmasked := sound.unmasked_of_single six
    rw [if_pos six] at addressable ⊢
    obtain ⟨first, last⟩ := addressable
    have sixteen := words_sixteen unmasked representable
    obtain ⟨writes, placed, sent⟩ := writeSingles_stores raw.words c.register wire rfl first last
      sixteen
    rw [sent]
    constructor
    · refine ⟨writes, rfl, ?_⟩
      unfold Encodes
      rw [unmasked]
      exact placed
    · exact framed_of_store unmasked first few _
    · intro _
      exact holds_of_store unmasked first last sixteen _
  · rw [if_neg six] at passes addressable ⊢
    obtain ⟨first, last⟩ := addressable
    cases masked : c.bitmask with
    | none =>
      rw [masked] at passes
      exact multiple_stores sound encoded masked first last passes
    | some mask =>
      obtain ⟨single, n, rfl⟩ := masked_one masked encoded
      rw [masked] at passes
      unfold Representable at representable
      rw [masked] at representable
      dsimp only at passes representable ⊢
      rw [readHolding_one]
      dsimp only
      rw [mergeCapabilityRegisterWord, if_neg (not_not.mpr passes), BitVec.ofInt_natCast,
        BitVec.ofNat_toNat, BitVec.setWidth_eq]
      exact masked_stores masked rfl single first last representable.1 representable.2 passes

/-- A raw value that is passed on is sent, and the cells name its registers only when they can
    be named. -/
theorem sendWords_sends (sound : c.Sound) (encoded : c.encodeRaw p value = .ok raw)
    (passes : c.Passes raw) :
    ∃ writes, (c.sendWords wire.device.slaveId raw.words wire).2.writes = wire.writes ++ writes ∧
      writes ≠ [] ∧ (c.Encodes wire.device.bank raw (cells writes) → c.Addressable raw) := by
  obtain ⟨some_word, few, three⟩ := words_length sound encoded
  have some_words := List.ne_nil_of_length_pos some_word
  unfold Passes at passes
  unfold Addressable
  unfold sendWords
  by_cases six : c.writeFunction = some 6
  · have unmasked := sound.unmasked_of_single six
    rw [if_pos six, if_pos six]
    obtain ⟨writes, extended, sent, placed⟩ := writeSingles_sends raw.words c.register wire rfl
    refine ⟨writes, extended, sent some_words, ?_⟩
    intro encodes
    unfold Encodes at encodes
    rw [unmasked] at encodes
    rw [encodes] at placed
    have first := placed _ (mem_cellsAt raw.words c.register
      (List.getElem?_eq_getElem (by omega : 0 < raw.words.length)))
    have last := placed _ (mem_cellsAt raw.words c.register
      (List.getElem?_eq_getElem (by omega : raw.words.length - 1 < raw.words.length)))
    dsimp only at first last
    omega
  · rw [if_neg six] at passes
    rw [if_neg six, if_neg six]
    have sends : ∀ words : List Int, words ≠ [] → words.length ≤ 123 →
        (∀ word ∈ words, 0 ≤ word ∧ word < 65536) →
        ∃ request, decodeWriteRequest request =
            some ⟨wire.device.slaveId, 0x10, (c.register % 65536).toNat, words.map Int.toNat⟩ ∧
          (writeHolding wire.device.slaveId c.register words wire).2.writes =
            wire.writes ++ [request] := by
      intro words some_word few sixteen
      rcases writeHolding_cases rfl c.register some_word few with
        ⟨outside, _⟩ | ⟨_, request, decoded, ⟨_, error, sent⟩ | ⟨_, result, _, sent⟩⟩
      · exact absurd sixteen outside
      · exact ⟨request, decoded, by rw [sent]⟩
      · exact ⟨request, decoded, by rw [sent]⟩
    have named : ∀ (request : Bytes) (word : Int) (words : List Int) (value : Int),
        decodeWriteRequest request = some ⟨wire.device.slaveId, 0x10, (c.register % 65536).toNat,
          (word :: words).map Int.toNat⟩ →
        (∃ rest, cells [request] = (c.register, value) :: rest) →
        0 ≤ c.register ∧ c.register < 65536 := by
      intro request word words value decoded same
      obtain ⟨rest, same⟩ := same
      rw [cells_single decoded] at same
      have first := congrArg Prod.fst (List.cons.inj same).1
      dsimp only at first
      omega
    cases masked : c.bitmask with
    | none =>
      rw [masked] at passes
      obtain ⟨request, decoded, sent⟩ := sends raw.words some_words (by omega) passes
      refine ⟨[request], sent, by simp, ?_⟩
      intro encodes
      unfold Encodes at encodes
      rw [masked] at encodes
      cases words : raw.words with
      | nil => exact absurd words some_words
      | cons word rest =>
        rw [words] at decoded encodes
        exact named request word rest word decoded ⟨_, encodes⟩
    | some mask =>
      rw [masked] at passes
      dsimp only at passes ⊢
      rw [readHolding_one]
      dsimp only
      rw [mergeCapabilityRegisterWord, if_neg (not_not.mpr passes)]
      dsimp only
      generalize mergeRegisterField (BitVec.ofInt 16 _) mask _ = merged
      have size := merged.isLt
      obtain ⟨request, decoded, sent⟩ := sends [(merged.toNat : Int)] (by simp) (by simp)
        (by
          intro word member
          rw [List.mem_singleton.mp member]
          omega)
      refine ⟨[request], sent, by simp, ?_⟩
      intro encodes
      unfold Encodes at encodes
      rw [masked] at encodes
      obtain ⟨written, same, _⟩ := encodes
      exact named request _ [] _ decoded ⟨[], same⟩

theorem writeValue_writes (encoded : c.encodeRaw p value = .ok raw) (device : Device)
    (slaveId : UInt8) : (c.writeValue p slaveId value device).2 =
      (c.sendWords slaveId raw.words ⟨device, []⟩).2 := by
  unfold writeValue
  rw [encoded]
  dsimp only
  split
  · rename_i sent
    rw [sent]
  · rename_i sent
    rw [sent]

theorem writeValue_returns (encoded : c.encodeRaw p value = .ok raw) {device : Device}
    {slaveId : UInt8} {v : NativeValue} (returned : (c.writeValue p slaveId value device).1 = .ok v) :
    (c.sendWords slaveId raw.words ⟨device, []⟩).1 = .ok () := by
  unfold writeValue at returned
  rw [encoded] at returned
  dsimp only at returned
  split at returned
  · cases returned
  · rename_i sent
    rw [sent]

theorem contract_of_writable (sound : c.Sound) (device : Device) (writable : c.Writable p value) :
    c.WriteContract p value device.bank (c.writeValue p device.slaveId value device) := by
  cases encoded : c.encodeRaw p value with
  | error error =>
    have stopped : c.writeValue p device.slaveId value device =
        (.error (.codec error), ⟨device, []⟩) := by
      unfold writeValue
      rw [encoded]
    rw [stopped]
    exact ⟨Or.inl rfl, nofun, framed_refl _⟩
  | ok raw =>
    by_cases passes : c.Passes raw
    · obtain ⟨representable, addressable⟩ := writable raw encoded passes
      have stores : Stored c raw ⟨device, []⟩ (c.sendWords device.slaveId raw.words ⟨device, []⟩) :=
        sendWords_stores sound encoded passes representable addressable
      have wire := writeValue_writes encoded device device.slaveId
      obtain ⟨writes, extended, encodes⟩ := stores.encoded
      rw [List.nil_append] at extended
      constructor
      · rw [wire, extended]
        exact Or.inr ⟨raw, encoded, representable, encodes⟩
      · intro v returned
        rw [wire]
        exact ⟨raw, encoded, representable, stores.holds (writeValue_returns encoded returned)⟩
      · rw [wire]
        exact stores.framed
    · obtain ⟨error, stopped⟩ : ∃ error, c.sendWords device.slaveId raw.words ⟨device, []⟩ =
          (.error error, ⟨device, []⟩) := sendWords_stopped sound encoded passes
      have run : c.writeValue p device.slaveId value device = (.error error, ⟨device, []⟩) := by
        unfold writeValue
        rw [encoded]
        dsimp only
        rw [stopped]
      rw [run]
      exact ⟨Or.inl rfl, nofun, framed_refl _⟩

theorem writable_of_contract (sound : c.Sound) (device : Device)
    (contract : c.WriteContract p value device.bank (c.writeValue p device.slaveId value device)) :
    c.Writable p value := by
  intro raw encoded passes
  obtain ⟨writes, extended, sent, named⟩ : ∃ writes,
      (c.sendWords device.slaveId raw.words ⟨device, []⟩).2.writes = [] ++ writes ∧ writes ≠ [] ∧
        (c.Encodes device.bank raw (cells writes) → c.Addressable raw) :=
    sendWords_sends sound encoded passes
  rw [List.nil_append] at extended
  have wire := writeValue_writes encoded device device.slaveId
  rcases contract.sent with nothing | ⟨other, same, representable, encodes⟩
  · rw [wire, extended] at nothing
    exact absurd nothing sent
  · rw [encoded] at same
    cases same
    rw [wire, extended] at encodes
    exact ⟨representable, named encodes⟩

end WriteCapability

/-- A write does what it should when the raw value that is passed on fits the registers and these
    can be named, and only then. -/
theorem write_contract_iff (p : Platform) (profileForName : String → Option DriverProfileMetadata)
    (own : List WriteCapability) (inverter : DetectedInverter) (capabilityKey : String)
    (value : NativeValue) (device : Device) (mine : device.slaveId = inverter.payloadAddress)
    (c : WriteCapability)
    (found : findCapability capabilityKey (inverter.writeCapabilities profileForName own) = some c)
    (accepted : c.Accepted) :
    c.WriteContract p value device.bank
        (asyncWriteCapability p profileForName own inverter capabilityKey value device) ↔
      c.Writable p value := by
  unfold asyncWriteCapability
  rw [found]
  dsimp only
  rw [← mine]
  constructor
  · intro contract
    exact WriteCapability.writable_of_contract accepted.sound device contract
  · intro writable
    exact WriteCapability.contract_of_writable accepted.sound device writable

def bankOf (word : BitVec 16) : Device := ⟨5, fun _ => word⟩

def inverterWith (c : WriteCapability) : DetectedInverter := ⟨[c], "", 5⟩

def writeTo (device : Device) (c : WriteCapability) (value : NativeValue) :
    Except DriverError NativeValue × Wire :=
  asyncWriteCapability exactPlatform (fun _ => none) [] (inverterWith c) c.key value device

def chargeMode : WriteCapability where
  key := "charge_mode"
  register := 20
  valueKind := .u16
  bitmask := some 0x1C
  mask_parsed := by
    intro mask given
    cases given
    decide

theorem charge_mode_written : (writeTo (bankOf 0xFFE3) chargeMode (.int 5)).1 = .ok (.int 5) ∧
    chargeMode.WriteContract exactPlatform (.int 5) (bankOf 0xFFE3).bank
      (writeTo (bankOf 0xFFE3) chargeMode (.int 5)) := by
  refine ⟨by decide +kernel, (write_contract_iff exactPlatform (fun _ => none) []
    (inverterWith chargeMode) "charge_mode" (.int 5) (bankOf 0xFFE3) rfl chargeMode rfl
    (accepted_of_profileOf (by decide +kernel))).mpr ?_⟩
  intro raw encoded _
  cases encoded
  constructor
  · change 0 ≤ (5 : Int) ∧ (5 : Int) ≤ ((0x1C : BitVec 16) >>> (2 : Nat)).toNat
    decide
  · change 0 ≤ (20 : Int) ∧ (20 : Int) < 65536
    decide

def energyLimit : WriteCapability where
  key := "energy_limit"
  register := 20
  valueKind := .u32
  wordCount := 2
  combine := "u32_high_first"

def farRegister : WriteCapability where
  key := "far_register"
  register := 70000
  valueKind := .u16
  writeFunction := some 6
  mask_parsed := unmasked_parsed

/-- 2 ^ 32 + 5 is written as 5 and returned as that; a write to register 70000 goes to register
    4464. -/
theorem unchecked_values_are_written :
    (energyLimit.Accepted ∧
      (writeTo (bankOf 0) energyLimit (.int 4294967301)).1 = .ok (.int 5) ∧
      cells (writeTo (bankOf 0) energyLimit (.int 4294967301)).2.writes = [(20, 0), (21, 5)] ∧
      ¬ energyLimit.WriteContract exactPlatform (.int 4294967301) (bankOf 0).bank
        (writeTo (bankOf 0) energyLimit (.int 4294967301))) ∧
    farRegister.Accepted ∧
      (writeTo (bankOf 0) farRegister (.int 1)).2.device.bank 4464 = 1 ∧
      ¬ farRegister.WriteContract exactPlatform (.int 1) (bankOf 0).bank
        (writeTo (bankOf 0) farRegister (.int 1)) := by
  constructor
  · have returned : (writeTo (bankOf 0) energyLimit (.int 4294967301)).1 = .ok (.int 5) := by
      decide +kernel
    refine ⟨accepted_of_profileOf (by decide +kernel), returned, by decide +kernel, ?_⟩
    intro contract
    obtain ⟨raw, encoded, representable, _⟩ := contract.stored _ returned
    cases encoded
    exact absurd representable.2 (by decide)
  · have moved : (writeTo (bankOf 0) farRegister (.int 1)).2.device.bank 4464 = 1 := by
      decide +kernel
    refine ⟨accepted_of_profileOf (by decide +kernel), moved, ?_⟩
    intro contract
    have kept := contract.framed.others 4464 fun target => absurd target.1 (by decide)
    rw [moved] at kept
    exact absurd kept (by decide)

end Capability
