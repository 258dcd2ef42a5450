import EybondLocal.Library.DateText
import Mathlib.Algebra.GroupWithZero.Nat

/-!
Aware datetimes: `datetime.fromisoformat` with the offset it reads, the instants that the datetimes
stand for, and `isoformat` in UTC, whose texts are in the order of their instants.
-/
namespace AwareTimestamp
open IsoTimestamp DateText

structure AwareDateTime where
  year : Nat
  month : Nat
  day : Nat
  hour : Nat
  minute : Nat
  second : Nat
  microsecond : Nat
  offset : Int
  date_valid : validCalendarDate year month day = true
  time_valid : hour < 24 ∧ minute < 60 ∧ second < 60 ∧ microsecond < 1000000
  deriving Repr

def clockMicros (time : Nat × Nat × Nat × Nat) : Nat :=
  (time.1 * 3600 + time.2.1 * 60 + time.2.2.1) * 1000000 + time.2.2.2

def timeWithZone (text : List Char) : Option ((Nat × Nat × Nat × Nat) × Int) := do
  let position ← zonePosition text
  let time ← clock (text.take position)
  let zone := text.drop (position + 1)
  if text[position]? = some 'Z' ∧ zone = [] then some (time, 0)
  else if zone.length = 0 ∨ zone.length = 1 ∨ zone.length = 3 then none
  else
    let offset ← clock zone
    if validOffset offset then
      some (time, if text[position]? = some '-' then -(clockMicros offset : Int) else clockMicros offset)
    else none

def awareDateTime (date : Nat × Nat × Nat) (time : Nat × Nat × Nat × Nat) (offset : Int) :
    Option AwareDateTime :=
  if date_valid : validCalendarDate date.1 date.2.1 date.2.2 = true then
    if time_valid : time.1 < 24 ∧ time.2.1 < 60 ∧ time.2.2.1 < 60 ∧ time.2.2.2 < 1000000 then
      some ⟨date.1, date.2.1, date.2.2, time.1, time.2.1, time.2.2.1, time.2.2.2, offset,
        date_valid, time_valid⟩
    else none
  else none

def isoChars (text : List Char) : Option AwareDateTime := do
  let position ← separatorPosition text
  let date ← isoDate (text.take position)
  let (time, offset) ← timeWithZone (text.drop (position + 1))
  awareDateTime date time offset

def fromIsoFormatAware (text : String) : Option AwareDateTime := isoChars text.toList

def daysBefore (year month : Nat) : Nat :=
  ((List.range (month - 1)).map fun k => daysInMonth year (k + 1)).sum

def dayOrdinal (year month day : Nat) : Nat := newYearOrdinal year + daysBefore year month + day - 1

def AwareDateTime.instant (m : AwareDateTime) : Int :=
  (dayOrdinal m.year m.month m.day * 86400000000 +
    clockMicros (m.hour, m.minute, m.second, m.microsecond) : Nat) - m.offset

def utcIsoFormat (m : AwareDateTime) : String :=
  dateText m.year m.month m.day ++ "T" ++ clockText m.hour m.minute m.second ++
    (if m.microsecond = 0 then "" else "." ++ zeroPadded 6 m.microsecond) ++ "+00:00"

def Earlier (a b : AwareDateTime) : Prop :=
  a.year < b.year ∨ a.year = b.year ∧ (a.month < b.month ∨ a.month = b.month ∧ (a.day < b.day ∨
    a.day = b.day ∧ (a.hour < b.hour ∨ a.hour = b.hour ∧ (a.minute < b.minute ∨
      a.minute = b.minute ∧ (a.second < b.second ∨ a.second = b.second ∧
        a.microsecond < b.microsecond)))))

theorem newYearOrdinal_succ {year : Nat} (some_year : 1 ≤ year) :
    newYearOrdinal (year + 1) = newYearOrdinal year + 365 + (if isLeap year then 1 else 0) := by
  have fourth : year / 4 = (year - 1) / 4 + (if year % 4 = 0 then 1 else 0) := by
    split <;> omega
  have century : year / 100 = (year - 1) / 100 + (if year % 100 = 0 then 1 else 0) := by
    split <;> omega
  have fourth_century : year / 400 = (year - 1) / 400 + (if year % 400 = 0 then 1 else 0) := by
    split <;> omega
  have fewer : (year - 1) / 100 ≤ (year - 1) / 4 := by omega
  have leap : isLeap year = true ↔ year % 4 = 0 ∧ (year % 100 ≠ 0 ∨ year % 400 = 0) := by
    simp [isLeap]
  unfold newYearOrdinal
  simp only [leap, Nat.add_sub_cancel, fourth, century, fourth_century]
  generalize (year - 1) / 4 = a at *
  generalize (year - 1) / 100 = b at *
  generalize (year - 1) / 400 = c at *
  by_cases four : year % 4 = 0
  · by_cases hundred : year % 100 = 0
    · by_cases four_hundred : year % 400 = 0
      · simp only [four, hundred, four_hundred, if_true, ne_eq, not_true, false_or, and_self]
        omega
      · simp only [four, hundred, four_hundred, if_true, if_false, ne_eq, not_true, false_or,
          and_false]
        omega
    · have plain : year % 400 ≠ 0 := by omega
      simp only [four, hundred, plain, if_true, if_false, ne_eq, not_false_eq_true, true_or,
        and_self]
      omega
  · have plain : year % 100 ≠ 0 := by omega
    have plain' : year % 400 ≠ 0 := by omega
    simp only [four, plain, plain', if_false, false_and]
    omega

theorem newYearOrdinal_lt {year year' : Nat} (some_year : 1 ≤ year) (later : year < year') :
    newYearOrdinal year + 365 + (if isLeap year then 1 else 0) ≤ newYearOrdinal year' := by
  induction year', later using Nat.le_induction with
  | base => exact (newYearOrdinal_succ some_year).ge
  | succ year' later ih =>
    rw [newYearOrdinal_succ (by omega)]
    omega

theorem daysBefore_succ (year : Nat) {month : Nat} (some_month : 1 ≤ month) :
    daysBefore year (month + 1) = daysBefore year month + daysInMonth year month := by
  obtain ⟨k, rfl⟩ : ∃ k, month = k + 1 := ⟨month - 1, by omega⟩
  simp [daysBefore, List.range_succ]

theorem daysBefore_mono (year : Nat) {month month' : Nat} (some_month : 1 ≤ month)
    (later : month ≤ month') : daysBefore year month ≤ daysBefore year month' := by
  induction month', later using Nat.le_induction with
  | base => exact le_rfl
  | succ month' later ih =>
    rw [daysBefore_succ year (by omega)]
    omega

theorem daysBefore_year (year : Nat) :
    daysBefore year 13 = 365 + (if isLeap year then 1 else 0) := by
  simp only [daysBefore, List.range_succ, List.range_zero]
  simp [daysInMonth]
  split <;> rfl

theorem day_le {year month day : Nat} (valid : validCalendarDate year month day = true) :
    1 ≤ year ∧ 1 ≤ month ∧ month ≤ 12 ∧ 1 ≤ day ∧ day ≤ daysInMonth year month := by
  unfold validCalendarDate validYear at valid
  simp only [Bool.and_eq_true, decide_eq_true_eq] at valid
  omega

theorem dayOrdinal_lt {year month day year' month' day' : Nat}
    (valid : validCalendarDate year month day = true)
    (valid' : validCalendarDate year' month' day' = true)
    (earlier : year < year' ∨ year = year' ∧ (month < month' ∨ month = month' ∧ day < day')) :
    dayOrdinal year month day < dayOrdinal year' month' day' := by
  obtain ⟨some_year, some_month, last_month, some_day, last_day⟩ := day_le valid
  obtain ⟨-, some_month', -, some_day', -⟩ := day_le valid'
  have inside := daysBefore_succ year some_month
  unfold dayOrdinal
  rcases earlier with years | ⟨rfl, months | ⟨rfl, days⟩⟩
  · have whole := daysBefore_year year
    have rest := daysBefore_mono year (by omega : 1 ≤ month + 1) (by omega : month + 1 ≤ 13)
    have step := newYearOrdinal_lt some_year years
    omega
  · have rest := daysBefore_mono year (by omega : 1 ≤ month + 1) (by omega : month + 1 ≤ month')
    omega
  · omega

theorem instant_lt_of_earlier {a b : AwareDateTime} (offsets : a.offset = b.offset)
    (earlier : Earlier a b) : a.instant < b.instant := by
  obtain ⟨hour, minute, second, micro⟩ := a.time_valid
  obtain ⟨hour', minute', second', micro'⟩ := b.time_valid
  have dates := dayOrdinal_lt a.date_valid b.date_valid
  unfold AwareDateTime.instant clockMicros
  unfold Earlier at earlier
  rw [offsets]
  dsimp only
  by_cases same : a.year = b.year ∧ a.month = b.month ∧ a.day = b.day
  · obtain ⟨year, month, day⟩ := same
    rw [year, month, day]
    omega
  · have lt := dates (by omega)
    omega

theorem trichotomy (a b : AwareDateTime) : Earlier a b ∨ Earlier b a ∨
    a.year = b.year ∧ a.month = b.month ∧ a.day = b.day ∧ a.hour = b.hour ∧ a.minute = b.minute ∧
      a.second = b.second ∧ a.microsecond = b.microsecond := by
  unfold Earlier
  omega

theorem digitChar_lt {d d' : Nat} (small : d' < 10) (lt : d < d') : digitChar d < digitChar d' := by
  have value := (digitChar_facts d (by omega)).1
  have value' := (digitChar_facts d' small).1
  rw [Char.lt_def, UInt32.lt_iff_toNat_lt]
  change (digitChar d).toNat < (digitChar d').toNat
  omega

theorem paddedDigits_lt {width n n' : Nat} (fits : n' < 10 ^ width) (lt : n < n')
    (rest rest' : List Char) : paddedDigits width n ++ rest < paddedDigits width n' ++ rest' := by
  induction width generalizing n n' rest rest' with
  | zero => omega
  | succ width ih =>
    rw [paddedDigits, paddedDigits, List.append_assoc, List.append_assoc]
    by_cases high : n / 10 = n' / 10
    · rw [high]
      exact List.append_left_lt (List.cons_lt_cons_iff.mpr
        (Or.inl (digitChar_lt (Nat.mod_lt _ (by omega)) (by omega))))
    · refine ih ?_ (by omega) _ _
      rw [Nat.pow_succ] at fits
      omega

theorem toList_utcIsoFormat (m : AwareDateTime) :
    (utcIsoFormat m).toList = paddedDigits 4 m.year ++ '-' :: (paddedDigits 2 m.month ++
      '-' :: (paddedDigits 2 m.day ++ 'T' :: (paddedDigits 2 m.hour ++ ':' ::
        (paddedDigits 2 m.minute ++ ':' :: (paddedDigits 2 m.second ++
          ((if m.microsecond = 0 then [] else '.' :: paddedDigits 6 m.microsecond) ++
            ['+', '0', '0', ':', '0', '0'])))))) := by
  obtain ⟨hour, minute, second, micro⟩ := m.time_valid
  rw [utcIsoFormat]
  simp only [String.toList_append, toList_dateText m.date_valid,
    toList_clockText ⟨hour, minute, second⟩]
  by_cases whole : m.microsecond = 0
  · simp [whole]
  · have fits : m.microsecond < 10 ^ 6 := by omega
    simp [whole, toList_zeroPadded fits]

theorem fraction_lt {n n' : Nat} (fits : n' < 1000000) (lt : n < n') (rest : List Char) :
    (if n = 0 then [] else '.' :: paddedDigits 6 n) ++ '+' :: rest <
      (if n' = 0 then [] else '.' :: paddedDigits 6 n') ++ '+' :: rest := by
  rw [if_neg (by omega : n' ≠ 0)]
  split
  · exact List.cons_lt_cons_iff.mpr (Or.inl (by decide))
  · exact List.cons_lt_cons_iff.mpr (Or.inr ⟨rfl, paddedDigits_lt (by omega) lt _ _⟩)

theorem field_lt {width n n' : Nat} {c : Char} {rest rest' : List Char} (fits : n' < 10 ^ width)
    (decides : n < n' ∨ n = n' ∧ rest < rest') :
    paddedDigits width n ++ c :: rest < paddedDigits width n' ++ c :: rest' := by
  rcases decides with lt | ⟨same, lt⟩
  · exact paddedDigits_lt fits lt _ _
  · rw [same]
    exact List.append_left_lt (List.cons_lt_cons_iff.mpr (Or.inr ⟨rfl, lt⟩))

theorem text_lt_of_earlier {a b : AwareDateTime} (earlier : Earlier a b) :
    utcIsoFormat a < utcIsoFormat b := by
  have bounds := validCalendarDate_bounds b.date_valid
  obtain ⟨hour, minute, second, micro⟩ := b.time_valid
  rw [String.lt_iff, toList_utcIsoFormat, toList_utcIsoFormat]
  refine field_lt (by omega) (earlier.imp_right (And.imp_right fun months => ?_))
  refine field_lt (by omega) (months.imp_right (And.imp_right fun days => ?_))
  refine field_lt (by omega) (days.imp_right (And.imp_right fun hours => ?_))
  refine field_lt (by omega) (hours.imp_right (And.imp_right fun minutes => ?_))
  refine field_lt (by omega) (minutes.imp_right (And.imp_right fun seconds => ?_))
  -- the fraction is only there where it is not zero
  rcases seconds with lt | ⟨same, lt⟩
  · exact paddedDigits_lt (by omega) lt _ _
  · rw [same]
    exact List.append_left_lt (fraction_lt (by omega) lt _)

theorem instant_lt_of_text_lt {a b : AwareDateTime} (utc : a.offset = 0) (utc' : b.offset = 0)
    (texts : utcIsoFormat a < utcIsoFormat b) : a.instant < b.instant := by
  rcases trichotomy a b with earlier | later | ⟨year, month, day, hour, minute, second, micro⟩
  · exact instant_lt_of_earlier (utc.trans utc'.symm) earlier
  · exact absurd (text_lt_of_earlier later) (String.lt_asymm texts)
  · have same : utcIsoFormat a = utcIsoFormat b := by
      simp only [utcIsoFormat, year, month, day, hour, minute, second, micro]
    rw [same] at texts
    exact absurd texts (String.lt_irrefl _)

theorem digits_some {size n : Nat} {text rest : List Char} (read : digits size text = some (n, rest)) :
    ∃ front, text = front ++ rest ∧ front.length = size ∧ ∀ c ∈ front, isDigit c = true := by
  unfold digits at read
  dsimp only at read
  split at read
  · rename_i good
    obtain ⟨-, rfl⟩ := Prod.mk.inj (Option.some.inj read)
    exact ⟨text.take size, (List.take_append_drop size text).symm, good.1,
      List.all_eq_true.mp good.2⟩
  · cases read

def clockChar (c : Char) : Bool := isDigit c || c == ':' || c == '.' || c == ','

theorem clockChar_of_isDigit {c : Char} (digit : isDigit c = true) : clockChar c = true := by
  simp [clockChar, digit]

theorem fraction_chars {text : List Char} {n : Nat} (read : fraction text = some n) :
    ∀ c ∈ text, clockChar c = true := by
  cases text with
  | nil => simp
  | cons mark rest =>
    rw [fraction] at read
    split at read
    · rename_i good
      obtain ⟨dot, -, all⟩ := good
      intro c member
      rcases List.mem_cons.mp member with rfl | later
      · rcases dot with rfl | rfl <;> rfl
      · exact clockChar_of_isDigit (List.all_eq_true.mp all c later)
    · cases read

theorem after_colon {text rest : List Char} {extended : Bool} {n : Nat}
    (colon : extended = true → text.head? = some ':')
    (read : digits 2 (if extended = true then text.tail else text) = some (n, rest))
    (later : ∀ c ∈ rest, clockChar c = true) : ∀ c ∈ text, clockChar c = true := by
  obtain ⟨front, cut, -, all⟩ := digits_some read
  have inner : ∀ c ∈ front ++ rest, clockChar c = true := by
    intro c member
    rcases List.mem_append.mp member with first | second
    · exact clockChar_of_isDigit (all c first)
    · exact later c second
  rw [← cut] at inner
  by_cases given : extended = true
  · rw [if_pos given] at inner
    obtain ⟨tail, rfl⟩ := List.head?_eq_some_iff.mp (colon given)
    intro c member
    rcases List.mem_cons.mp member with rfl | second
    · rfl
    · exact inner c second
  · rwa [if_neg given] at inner

theorem clock_chars {text : List Char} {time : Nat × Nat × Nat × Nat} (read : clock text = some time) :
    2 ≤ text.length ∧ ∀ c ∈ text, clockChar c = true := by
  unfold clock at read
  split at read
  · cases read
  · rename_i hour none_left
    obtain ⟨front, rfl, two, all⟩ := digits_some none_left
    exact ⟨by simp [two], fun c member => clockChar_of_isDigit (all c (by simpa using member))⟩
  · rename_i hour rest _ first
    obtain ⟨front, rfl, two, all⟩ := digits_some first
    refine ⟨by simp [two], fun c member => ?_⟩
    rcases List.mem_append.mp member with early | late
    · exact clockChar_of_isDigit (all c early)
    have colon : (rest.head? == some ':') = true → rest.head? = some ':' := by simp
    revert c
    suffices inner : ∀ c ∈ rest, clockChar c = true from fun c _ late => inner c late
    dsimp only at read
    split at read
    · cases read
    · rename_i minute second
      exact after_colon colon second (by simp)
    · rename_i minute rest' _ second
      refine after_colon colon second ?_
      split at read
      · cases read
      · rename_i joined
        split at read
        · cases read
        · rename_i third
          obtain ⟨micros, parts, -⟩ := Option.map_eq_some_iff.mp read
          refine after_colon (fun given => ?_) third (fraction_chars parts)
          rw [not_and, not_not] at joined
          exact joined given

def zeroOffset : List Char := ['+', '0', '0', ':', '0', '0']

theorem clock_of_zeroOffset {text : List Char} {time : Nat × Nat × Nat × Nat} {offset : Int}
    (read : timeWithZone (text ++ zeroOffset) = some (time, offset)) :
    clock text = some time ∧ offset = 0 := by
  unfold timeWithZone at read
  obtain ⟨position, found, read⟩ := Option.bind_eq_some_iff.mp read
  obtain ⟨time', front, read⟩ := Option.bind_eq_some_iff.mp read
  have plus_foreign : clockChar '+' = false := by decide
  have chars := (clock_chars front).2
  rcases Nat.lt_trichotomy position text.length with inside | rfl | beyond
  · have zone : (text ++ zeroOffset).drop (position + 1) = text.drop (position + 1) ++ zeroOffset :=
      List.drop_append_of_le_length (by omega)
    have plus : '+' ∈ (text ++ zeroOffset).drop (position + 1) := by
      rw [zone]
      simp [zeroOffset]
    dsimp only at read
    split at read
    · rename_i empty
      rw [empty.2] at plus
      cases plus
    · split at read
      · cases read
      · obtain ⟨offset', zone_read, -⟩ := Option.bind_eq_some_iff.mp read
        rw [(clock_chars zone_read).2 '+' plus] at plus_foreign
        cases plus_foreign
  · rw [List.take_left] at front
    have zone : (text ++ zeroOffset).drop (text.length + 1) = ['0', '0', ':', '0', '0'] := by
      rw [List.drop_append]
      simp [zeroOffset]
    have sign : (text ++ zeroOffset)[text.length]? = some '+' := by
      simp [zeroOffset]
    have noon : clock ['0', '0', ':', '0', '0'] = some (0, 0, 0, 0) := by decide
    rw [zone, sign] at read
    dsimp only at read
    rw [noon] at read
    have result : some (time', (0 : Int)) = some (time, offset) := read
    obtain ⟨rfl, rfl⟩ := Prod.mk.inj (Option.some.inj result)
    exact ⟨front, rfl⟩
  · have plus : '+' ∈ (text ++ zeroOffset).take position := by
      obtain ⟨more, rfl⟩ : ∃ more, position = text.length + (more + 1) :=
        ⟨position - text.length - 1, by omega⟩
      rw [List.take_length_add_append, zeroOffset, List.take_succ_cons]
      simp
    rw [chars '+' plus] at plus_foreign
    cases plus_foreign

theorem timeWithZone_zulu {text : List Char} {time : Nat × Nat × Nat × Nat}
    (read : clock text = some time) : timeWithZone (text ++ ['Z']) = some (time, 0) := by
  have chars := (clock_chars read).2
  have absent {mark : Char} (foreign : clockChar mark = false) :
      text.findIdx? (· == mark) = none := by
    rw [List.findIdx?_eq_none_iff]
    intro c member
    by_contra same
    have equal : c = mark := by simpa using same
    rw [← equal, chars c member] at foreign
    cases foreign
  have position : zonePosition (text ++ ['Z']) = some text.length := by
    unfold zonePosition
    rw [List.findIdx?_append, List.findIdx?_append, List.findIdx?_append, absent (by decide),
      absent (by decide), absent (by decide)]
    simp
  unfold timeWithZone
  rw [position]
  simp [read]

theorem separatorPosition_congr {front : List Char} (long : 10 ≤ front.length) {x y : Char}
    (x_foreign : isDigit x = false) (y_foreign : isDigit y = false) (rest rest' : List Char) :
    separatorPosition (front ++ x :: rest) = separatorPosition (front ++ y :: rest') := by
  have early (i : Nat) (inside : i < 10) :
      (front ++ x :: rest)[i]? = (front ++ y :: rest')[i]? := by
    rw [List.getElem?_append_left (by omega), List.getElem?_append_left (by omega)]
  have tenth : ((front ++ x :: rest)[10]?.map isDigit).getD false =
      ((front ++ y :: rest')[10]?.map isDigit).getD false := by
    by_cases more : 10 < front.length
    · rw [List.getElem?_append_left more, List.getElem?_append_left more]
    · have exact_length : front.length = 10 := by omega
      rw [List.getElem?_append_right (by omega), List.getElem?_append_right (by omega)]
      simp [exact_length, x_foreign, y_foreign]
  have run (c : Char) (foreign : isDigit c = false) (rest : List Char) :
      ((front ++ c :: rest).drop 7).takeWhile isDigit = (front.drop 7).takeWhile isDigit := by
    rw [List.drop_append_of_le_length (by omega)]
    induction front.drop 7 with
    | nil => simp [foreign]
    | cons d later ih =>
      by_cases digit : isDigit d
      · simp [digit, ih]
      · simp [digit]
  have sizes : ¬ (front ++ x :: rest).length < 7 ∧ (front ++ x :: rest).length ≠ 7 ∧
      8 < (front ++ x :: rest).length ∧ (front ++ x :: rest).length ≠ 9 ∧
        10 < (front ++ x :: rest).length := by
    rw [List.length_append, List.length_cons]
    omega
  have sizes' : ¬ (front ++ y :: rest').length < 7 ∧ (front ++ y :: rest').length ≠ 7 ∧
      8 < (front ++ y :: rest').length ∧ (front ++ y :: rest').length ≠ 9 ∧
        10 < (front ++ y :: rest').length := by
    rw [List.length_append, List.length_cons]
    omega
  unfold separatorPosition
  simp only [sizes, sizes', early 4 (by omega), early 5 (by omega), early 8 (by omega), tenth,
    run x x_foreign, run y y_foreign, if_false, true_and]

theorem separatorPosition_ge {text : List Char} {position : Nat}
    (found : separatorPosition text = some position) : 7 ≤ position := by
  unfold separatorPosition at found
  dsimp only at found
  repeat' split at found
  all_goals simp only [reduceCtorEq, Option.some.injEq] at found
  all_goals omega

theorem no_zone_inside (cut : Nat) : timeWithZone (zeroOffset.drop (cut + 1)) = none := by
  match cut with
  | 0 | 1 | 2 | 3 | 4 => decide
  | more + 5 =>
    have empty : zeroOffset.drop (more + 5 + 1) = [] := List.drop_eq_nil_of_le (by simp [zeroOffset])
    rw [empty]
    rfl

theorem isoChars_zulu {front : List Char} {m : AwareDateTime}
    (parsed : isoChars (front ++ zeroOffset) = some m) : isoChars (front ++ ['Z']) = some m := by
  unfold isoChars at parsed
  obtain ⟨position, found, parsed⟩ := Option.bind_eq_some_iff.mp parsed
  obtain ⟨date, date_read, parsed⟩ := Option.bind_eq_some_iff.mp parsed
  obtain ⟨⟨time, offset⟩, time_read, built⟩ := Option.bind_eq_some_iff.mp parsed
  have inside : position + 1 ≤ front.length := by
    by_contra beyond
    obtain ⟨cut, past⟩ : ∃ cut, position + 1 = front.length + (cut + 1) :=
      ⟨position - front.length, by omega⟩
    rw [past, List.drop_length_add_append, no_zone_inside] at time_read
    cases time_read
  rw [List.drop_append_of_le_length inside] at time_read
  obtain ⟨clock_read, rfl⟩ := clock_of_zeroOffset time_read
  have two := (clock_chars clock_read).1
  rw [List.length_drop] at two
  have start := separatorPosition_ge found
  have found' : separatorPosition (front ++ ['Z']) = some position := by
    rw [← found]
    exact separatorPosition_congr (by omega) (by decide) (by decide) _ _
  rw [List.take_append_of_le_length (by omega)] at date_read
  unfold isoChars
  rw [found']
  simp only [Option.bind_eq_bind, Option.bind_some, List.take_append_of_le_length (by omega :
    position ≤ front.length), date_read, List.drop_append_of_le_length inside,
    timeWithZone_zulu clock_read]
  exact built

end AwareTimestamp
