import EybondLocal.Library.PythonObject
import EybondLocal.Library.PrefixIdentity

/-!
Collector part numbers and their short/full reconciliation (`collector_identity.py`).
A PN read from a heartbeat may be a beginning of the PN read later from the collector
itself; below ten characters a beginning is too ambiguous to be the same collector.
-/
namespace CollectorIdentity
open StripText PythonObject PrefixIdentity

def callbackPnPrefixMatchMinLen : Nat := 10

def strongIdentitySources : List String :=
  ["at_dtupn", "fc1_identity_challenge", "fc2_parameter_2"]

def identitySourceIsStrong (source : String) : Bool := strongIdentitySources.contains (strip source)

def normalizePn (value : PyObj) : String := value.cleanText

def pnIsSameIdentity (left right : String) : Bool :=
  let a := strip left
  let b := strip right
  if a = "" ∨ b = "" then false
  else if a = b then true
  else if min a.length b.length < callbackPnPrefixMatchMinLen then false
  else startsWith a b || startsWith b a

def preferFullPn (left right : String) : String :=
  let a := strip left
  let b := strip right
  if a = "" then b
  else if b = "" then a
  else if b.length ≤ a.length then a else b

def reconcilePn (current candidate : String) : String :=
  let a := strip current
  let b := strip candidate
  if b = "" then a
  else if a = "" then b
  else if a = b then a
  else if startsWith b a then b
  else if startsWith a b then a
  else a

def preferIdentitySource (current candidate : String) : String :=
  if identitySourceIsStrong (strip current) then strip current
  else if identitySourceIsStrong (strip candidate) then strip candidate
  else if strip candidate ≠ "" then strip candidate
  else strip current

def pnLeading (c : Char) : Bool :=
  let n := c.toNat
  (48 ≤ n && n ≤ 57) || (65 ≤ n && n ≤ 90) || (97 ≤ n && n ≤ 122)

def pnPattern (pn : String) : Bool :=
  match pn.toList with
  | [] => false
  | c :: rest =>
    pnLeading c && rest.all (fun d => pnLeading d || d == '.' || d == '_' || d == '-') &&
      5 ≤ rest.length && rest.length ≤ 63

def validatedCollectorPn (value : PyObj) : String :=
  match value with
  | .str s => if s ≠ strip s then "" else if pnPattern s then s else ""
  | _ => ""

/-- The relation `pn_is_same_identity` decides, on the code points of the trimmed PNs. -/
def SameIdentity (left right : String) : Prop :=
  Compatible callbackPnPrefixMatchMinLen (strip left).toList (strip right).toList

theorem pnIsSameIdentity_iff (left right : String) :
    pnIsSameIdentity left right = true ↔ SameIdentity left right := by
  simp only [pnIsSameIdentity, SameIdentity, Compatible, String.length_toList]
  by_cases ha : strip left = ""
  · simp [ha]
  by_cases hb : strip right = ""
  · simp [hb]
  by_cases eq : strip left = strip right
  · simp [hb, eq]
  by_cases short : min (strip left).length (strip right).length < callbackPnPrefixMatchMinLen
  · have notLong : ¬ callbackPnPrefixMatchMinLen ≤ min (strip left).length (strip right).length := by
      omega
    simp [ha, hb, eq, short, notLong, String.toList_inj]
  · have long : callbackPnPrefixMatchMinLen ≤ min (strip left).length (strip right).length := by
      omega
    simp [ha, hb, eq, short, long, String.toList_inj, startsWith_iff, or_comm]

theorem pnIsSameIdentity_comm (left right : String) :
    pnIsSameIdentity left right = pnIsSameIdentity right left := by
  rw [Bool.eq_iff_iff, pnIsSameIdentity_iff, pnIsSameIdentity_iff]
  exact compatible_comm

@[simp] theorem pnIsSameIdentity_strip_right (left right : String) :
    pnIsSameIdentity left (strip right) = pnIsSameIdentity left right := by
  simp [pnIsSameIdentity]

@[simp] theorem pnIsSameIdentity_strip_left (left right : String) :
    pnIsSameIdentity (strip left) right = pnIsSameIdentity left right := by
  simp [pnIsSameIdentity]

theorem pnIsSameIdentity_nonempty {left right : String} (same : pnIsSameIdentity left right = true) :
    strip left ≠ "" ∧ strip right ≠ "" := by
  rw [pnIsSameIdentity_iff] at same
  exact ⟨fun h => same.1 (by simp [h]), fun h => same.2.1 (by simp [h])⟩

theorem pnIsSameIdentity_self {pn : String} (nonempty : strip pn ≠ "") :
    pnIsSameIdentity pn pn = true := by
  simp [pnIsSameIdentity, nonempty]

@[simp] theorem strip_preferFullPn (left right : String) :
    strip (preferFullPn left right) = preferFullPn left right := by
  simp only [preferFullPn]
  split
  · simp
  · split
    · simp
    · split <;> simp

@[simp] theorem preferFullPn_empty_left (right : String) : preferFullPn "" right = strip right := by
  simp [preferFullPn]

@[simp] theorem preferFullPn_empty_right (left : String) : preferFullPn left "" = strip left := by
  by_cases h : strip left = "" <;> simp [preferFullPn, h]

theorem preferFullPn_nonempty {left right : String} (h : strip left ≠ "" ∨ strip right ≠ "") :
    preferFullPn left right ≠ "" := by
  by_cases hl : strip left = ""
  · have hr : strip right ≠ "" := h.resolve_left (fun ne => ne hl)
    simp [preferFullPn, hl, hr]
  · by_cases hr : strip right = ""
    · simp [preferFullPn, hl, hr]
    · simp only [preferFullPn, hl, hr, ↓reduceIte]
      split <;> assumption

theorem preferFullPn_cases {left right : String} (hl : strip left ≠ "") (hr : strip right ≠ "") :
    preferFullPn left right = strip left ∧ (strip right).length ≤ (strip left).length ∨
      preferFullPn left right = strip right ∧ (strip left).length ≤ (strip right).length := by
  by_cases longer : (strip right).length ≤ (strip left).length
  · exact Or.inl ⟨by simp [preferFullPn, hl, hr, longer], longer⟩
  · exact Or.inr ⟨by simp [preferFullPn, hl, hr, longer], by omega⟩

theorem preferFullPn_length {left : String} (trimmed : strip left = left) (right : String) :
    left.length ≤ (preferFullPn left right).length := by
  by_cases hl : left = ""
  · simp [hl]
  · by_cases hr : strip right = ""
    · simp [preferFullPn, trimmed, hl, hr]
    · simp only [preferFullPn, trimmed, hl, hr, ↓reduceIte]
      split
      · omega
      · omega

/-- Whatever is the same identity as the fuller spelling is the same identity as the
    spelling it completes. -/
theorem pnIsSameIdentity_of_preferFullPn {left right other : String}
    (same : pnIsSameIdentity left right = true)
    (h : pnIsSameIdentity other (preferFullPn left right) = true) :
    pnIsSameIdentity other left = true := by
  obtain ⟨hl, hr⟩ := pnIsSameIdentity_nonempty same
  rw [pnIsSameIdentity_iff] at same h ⊢
  simp only [SameIdentity, strip_preferFullPn] at h
  rcases preferFullPn_cases hl hr with ⟨eq, _⟩ | ⟨eq, longer⟩
  · simpa [SameIdentity, eq] using h
  · rw [eq] at h
    exact compatible_of_extension same (by simpa [String.length_toList] using longer) h

theorem pnIsSameIdentity_preferFullPn {left right : String}
    (same : pnIsSameIdentity left right = true) :
    pnIsSameIdentity left (preferFullPn left right) = true := by
  obtain ⟨hl, hr⟩ := pnIsSameIdentity_nonempty same
  rcases preferFullPn_cases hl hr with ⟨eq, _⟩ | ⟨eq, _⟩
  · rw [eq, pnIsSameIdentity_iff]
    simpa [SameIdentity] using compatible_refl (by simpa using hl)
  · rw [pnIsSameIdentity_iff] at same ⊢
    simpa [SameIdentity, eq] using same

@[simp] theorem preferFullPn_again (left right : String) :
    preferFullPn left (preferFullPn left right) = preferFullPn left right := by
  by_cases hl : strip left = ""
  · simp [preferFullPn, hl]
  · by_cases hr : strip right = ""
    · simp [preferFullPn, hl, hr]
    · by_cases longer : (strip right).length ≤ (strip left).length
      · simp [preferFullPn, hl, hr, longer]
      · simp [preferFullPn, hl, hr, longer]

theorem toList_preferFullPn {left right : String} (hl : strip left ≠ "") (hr : strip right ≠ "") :
    (preferFullPn left right).toList = longer (strip left).toList (strip right).toList := by
  simp only [preferFullPn, longer, hl, hr, ↓reduceIte, String.length_toList]
  split <;> rfl

theorem preferFullPn_still_completes {short pn other : String}
    (same : pnIsSameIdentity pn short = true) (shorter : (strip short).length ≤ (strip pn).length)
    (enriching : pnIsSameIdentity pn other = true) :
    pnIsSameIdentity (preferFullPn pn other) short = true ∧
      (strip short).length ≤ (strip (preferFullPn pn other)).length := by
  obtain ⟨nonempty, nonemptyOther⟩ := pnIsSameIdentity_nonempty enriching
  rcases preferFullPn_cases nonempty nonemptyOther with ⟨eq, _⟩ | ⟨eq, longer⟩
  · simp [eq, same, shorter]
  · rw [pnIsSameIdentity_comm, pnIsSameIdentity_iff] at same
    rw [pnIsSameIdentity_iff] at enriching
    have extended := compatible_extend same (by simpa [String.length_toList] using shorter)
      enriching (by simpa [String.length_toList] using longer)
    constructor
    · rw [eq, pnIsSameIdentity_strip_left, pnIsSameIdentity_comm, pnIsSameIdentity_iff]
      exact extended
    · rw [eq, strip_idempotent]
      omega

theorem preferFullPn_covers_both_iff {left right : String} (hl : strip left ≠ "")
    (hr : strip right ≠ "") :
    pnIsSameIdentity (preferFullPn left right) left = true ∧
      pnIsSameIdentity (preferFullPn left right) right = true ↔
      pnIsSameIdentity left right = true := by
  rcases preferFullPn_cases hl hr with ⟨eq, _⟩ | ⟨eq, _⟩
  · simp [eq, pnIsSameIdentity_self hl]
  · simp [eq, pnIsSameIdentity_self hr, pnIsSameIdentity_comm right left]

theorem pnIsSameIdentity_completed_iff {known left right : String}
    (hl : pnIsSameIdentity known left = true) (hr : pnIsSameIdentity known right = true) :
    pnIsSameIdentity (preferFullPn known left) (preferFullPn known right) = true ↔
      startsWith (strip right) (strip left) = true ∨ startsWith (strip left) (strip right) = true := by
  obtain ⟨nonempty, nonemptyLeft⟩ := pnIsSameIdentity_nonempty hl
  have nonemptyRight := (pnIsSameIdentity_nonempty hr).2
  rw [pnIsSameIdentity_iff] at hl hr ⊢
  simp only [SameIdentity, strip_preferFullPn, startsWith_iff]
  rw [toList_preferFullPn nonempty nonemptyLeft, toList_preferFullPn nonempty nonemptyRight]
  exact compatible_longer_iff hl hr

-- Everything below goes through the lemmas above; unfolding the two in unification is costly.
attribute [irreducible] pnIsSameIdentity preferFullPn

end CollectorIdentity
