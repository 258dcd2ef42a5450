import EybondLocal.Library.IsoTimestamp
import EybondLocal.Library.PythonText
import Mathlib.Data.Nat.Find

/-!
Dates and times as text: `datetime.fromisoformat` with the date and the time of day it returns,
`datetime.strptime` for numeric directives, and zero-padded numbers. What is written with padded
numbers is read back.
-/
namespace DateText
open IsoTimestamp PythonText

structure DateTime where
  year : Nat
  month : Nat
  day : Nat
  hour : Nat
  minute : Nat
  second : Nat
  date_valid : validCalendarDate year month day = true
  time_valid : hour < 24 ∧ minute < 60 ∧ second < 60
  deriving DecidableEq, Repr

def datetime (year month day hour minute second : Nat) : Option DateTime :=
  if date : validCalendarDate year month day = true then
    if time : hour < 24 ∧ minute < 60 ∧ second < 60 then
      some ⟨year, month, day, hour, minute, second, date, time⟩
    else none
  else none

theorem datetime_date {year month day : Nat} (valid : validCalendarDate year month day = true) :
    datetime year month day 0 0 0 = some ⟨year, month, day, 0, 0, 0, valid, by decide⟩ := by
  rw [datetime, dif_pos valid, dif_pos (by decide)]

theorem validCalendarDate_bounds {year month day : Nat}
    (valid : validCalendarDate year month day = true) :
    1 ≤ year ∧ year ≤ 9999 ∧ 1 ≤ month ∧ month ≤ 12 ∧ 1 ≤ day ∧ day ≤ 31 := by
  unfold validCalendarDate validYear at valid
  simp only [Bool.and_eq_true, decide_eq_true_eq] at valid
  have days : daysInMonth year month ≤ 31 := by
    unfold daysInMonth
    repeat' split
    all_goals omega
  omega

def monthOf (year : Nat) : Nat → Nat → Nat → Nat × Nat
  | 0, month, day => (month, day)
  | left + 1, month, day =>
    if day ≤ daysInMonth year month then (month, day)
    else monthOf year left (month + 1) (day - daysInMonth year month)

def fromOrdinal (ordinal : Nat) : Nat × Nat × Nat :=
  let year := Nat.findGreatest (fun year => newYearOrdinal year ≤ ordinal) 9999
  (year, monthOf year 11 1 (ordinal + 1 - newYearOrdinal year))

def weekDate (year week day : Nat) : Option (Nat × Nat × Nat) :=
  if validWeekDate year week day then
    let fromMonday := (newYearOrdinal year + 6) % 7
    let firstMonday := newYearOrdinal year + (if 3 < fromMonday then 7 else 0)
    some (fromOrdinal (firstMonday + (week - 1) * 7 + (day - 1) - fromMonday))
  else none

def isoDate (text : List Char) : Option (Nat × Nat × Nat) := do
  let (year, rest) ← digits 4 text
  let extended := rest.head? == some '-'
  match if extended then rest.tail else rest with
  | 'W' :: rest =>
    let (week, rest) ← digits 2 rest
    if rest = [] then weekDate year week 1
    else
      let (day, _) ← (dash extended rest).bind (digits 1)
      weekDate year week day
  | rest =>
    let (month, rest) ← digits 2 rest
    let (day, _) ← (dash extended rest).bind (digits 2)
    return (year, month, day)

def isoTime (text : List Char) : Option (Nat × Nat × Nat) :=
  match zonePosition text with
  | none => (clock text).map fun time => (time.1, time.2.1, time.2.2.1)
  | some position =>
    if awareTime text then (clock (text.take position)).map fun time => (time.1, time.2.1, time.2.2.1)
    else none

def fromIsoFormat (text : String) : Option DateTime := do
  let position ← separatorPosition text.toList
  let (year, month, day) ← isoDate (text.toList.take position)
  match text.toList.drop (position + 1) with
  | [] => datetime year month day 0 0 0
  | rest =>
    let (hour, minute, second) ← isoTime rest
    datetime year month day hour minute second

inductive Directive where
  | year
  | month
  | day
  | hour
  | minute
  | second
  | literal (c : Char)
  deriving DecidableEq, Repr

abbrev Class := Char → Option Nat

def between (low high : Nat) : Class := fun c =>
  if low + 48 ≤ c.toNat ∧ c.toNat ≤ high + 48 then some (c.toNat - 48) else none

def anyDigit : Class := decimalValue

def single (one : Class) : List Char → List (Nat × List Char)
  | c :: rest => ((one c).map fun d => (d, rest)).toList
  | [] => []

def double (tens ones : Class) : List Char → List (Nat × List Char)
  | c :: c' :: rest =>
    ((tens c).bind fun d => (ones c').map fun d' => (10 * d + d', rest)).toList
  | _ => []

def Directive.readings : Directive → List Char → List (Nat × List Char)
  | .year, text =>
    (double anyDigit anyDigit text).flatMap fun century =>
      (double anyDigit anyDigit century.2).map fun year => (100 * century.1 + year.1, year.2)
  | .month, text =>
    double (between 1 1) (between 0 2) text ++ double (between 0 0) (between 1 9) text ++
      single (between 1 9) text
  | .day, text =>
    double (between 3 3) (between 0 1) text ++ double (between 1 2) anyDigit text ++
      double (between 0 0) (between 1 9) text ++ single (between 1 9) text ++
      (match text with
        | ' ' :: rest => single (between 1 9) rest
        | _ => [])
  | .hour, text =>
    double (between 2 2) (between 0 3) text ++ double (between 0 1) anyDigit text ++
      single anyDigit text
  | .minute, text => double (between 0 5) anyDigit text ++ single anyDigit text
  | .second, text =>
    double (between 6 6) (between 0 1) text ++ double (between 0 5) anyDigit text ++
      single anyDigit text
  | .literal c, text =>
    match text with
    | c' :: rest => if c = c' then [(0, rest)] else []
    | [] => []

structure Fields where
  year : Nat := 1900
  month : Nat := 1
  day : Nat := 1
  hour : Nat := 0
  minute : Nat := 0
  second : Nat := 0
  deriving DecidableEq, Repr

def Fields.put (fields : Fields) (value : Nat) : Directive → Fields
  | .year => { fields with year := value }
  | .month => { fields with month := value }
  | .day => { fields with day := value }
  | .hour => { fields with hour := value }
  | .minute => { fields with minute := value }
  | .second => { fields with second := value }
  | .literal _ => fields

def scan : List Directive → Fields → List Char → Option Fields
  | [], fields, text => if text = [] then some fields else none
  | directive :: format, fields, text =>
    (directive.readings text).findSome? fun reading =>
      scan format (fields.put reading.1 directive) reading.2

def strptime (format : List Directive) (text : String) : Option DateTime := do
  let fields ← scan format {} text.toList
  datetime fields.year fields.month fields.day fields.hour fields.minute fields.second

def digitChar (d : Nat) : Char := Char.ofNat (48 + d)

def paddedDigits : Nat → Nat → List Char
  | 0, _ => []
  | width + 1, n => paddedDigits width (n / 10) ++ [digitChar (n % 10)]

def zeroPadded (width n : Nat) : String :=
  if n < 10 ^ width then String.ofList (paddedDigits width n) else toString n

theorem digitChar_facts : ∀ d < 10, (digitChar d).toNat = 48 + d ∧
    IsoTimestamp.isDigit (digitChar d) = true ∧ (digitChar d).isDigit = true ∧
    StripText.isSpace (digitChar d) = false := by
  decide

theorem anyDigit_digitChar {d : Nat} (small : d < 10) : anyDigit (digitChar d) = some d := by
  obtain ⟨value, -, digit, -⟩ := digitChar_facts d small
  rw [anyDigit, decimalValue_digit digit, value]
  simp

theorem between_digitChar {d low high : Nat} (small : d < 10) (le : low ≤ d) (ge : d ≤ high) :
    between low high (digitChar d) = some d := by
  have value := (digitChar_facts d small).1
  rw [between, value, if_pos (by omega)]
  simp

theorem between_digitChar_none {d low high : Nat} (small : d < 10) (out : d < low ∨ high < d) :
    between low high (digitChar d) = none := by
  have value := (digitChar_facts d small).1
  rw [between, value, if_neg (by omega)]

theorem paddedDigits_two (n : Nat) :
    paddedDigits 2 n = [digitChar (n / 10 % 10), digitChar (n % 10)] := rfl

theorem mem_paddedDigits {width n : Nat} {c : Char} (member : c ∈ paddedDigits width n) :
    ∃ d < 10, c = digitChar d := by
  induction width generalizing n with
  | zero => cases member
  | succ width ih =>
    rw [paddedDigits, List.mem_append, List.mem_singleton] at member
    rcases member with earlier | rfl
    · exact ih earlier
    · exact ⟨n % 10, Nat.mod_lt n (by omega), rfl⟩

theorem length_paddedDigits (width n : Nat) : (paddedDigits width n).length = width := by
  induction width generalizing n with
  | zero => rfl
  | succ width ih => simp [paddedDigits, ih]

theorem foldl_paddedDigits {width n : Nat} (fits : n < 10 ^ width) :
    (paddedDigits width n).foldl (fun n c => 10 * n + (c.toNat - '0'.toNat)) 0 = n := by
  induction width generalizing n with
  | zero => simp [paddedDigits]; omega
  | succ width ih =>
    have high : n / 10 < 10 ^ width := by
      rw [Nat.pow_succ] at fits
      omega
    have value := (digitChar_facts (n % 10) (Nat.mod_lt n (by omega))).1
    rw [paddedDigits, List.foldl_append, ih high, List.foldl_cons, List.foldl_nil, value]
    simp
    omega

theorem digits_paddedDigits {width n : Nat} (fits : n < 10 ^ width) (rest : List Char) :
    digits width (paddedDigits width n ++ rest) = some (n, rest) := by
  have length := length_paddedDigits width n
  have front : (paddedDigits width n ++ rest).take width = paddedDigits width n :=
    List.take_left' length
  have back : (paddedDigits width n ++ rest).drop width = rest := List.drop_left' length
  have all : (paddedDigits width n).all IsoTimestamp.isDigit = true := by
    rw [List.all_eq_true]
    intro c member
    obtain ⟨d, small, rfl⟩ := mem_paddedDigits member
    exact (digitChar_facts d small).2.1
  unfold digits
  simp only [front, back, length, all, and_self, if_true, foldl_paddedDigits fits]

def dateText (year month day : Nat) : String :=
  zeroPadded 4 year ++ "-" ++ zeroPadded 2 month ++ "-" ++ zeroPadded 2 day

def clockText (hour minute second : Nat) : String :=
  zeroPadded 2 hour ++ ":" ++ zeroPadded 2 minute ++ ":" ++ zeroPadded 2 second

theorem toList_zeroPadded {width n : Nat} (fits : n < 10 ^ width) :
    (zeroPadded width n).toList = paddedDigits width n := by
  rw [zeroPadded, if_pos fits, String.toList_ofList]

theorem toList_dateText {year month day : Nat} (valid : validCalendarDate year month day = true) :
    (dateText year month day).toList = paddedDigits 4 year ++ '-' :: (paddedDigits 2 month ++
      '-' :: paddedDigits 2 day) := by
  have bounds := validCalendarDate_bounds valid
  have year_fits : year < 10 ^ 4 := by omega
  have month_fits : month < 10 ^ 2 := by omega
  have day_fits : day < 10 ^ 2 := by omega
  simp [dateText, toList_zeroPadded year_fits, toList_zeroPadded month_fits,
    toList_zeroPadded day_fits]

theorem toList_clockText {hour minute second : Nat}
    (valid : hour < 24 ∧ minute < 60 ∧ second < 60) :
    (clockText hour minute second).toList = paddedDigits 2 hour ++ ':' :: (paddedDigits 2 minute ++
      ':' :: paddedDigits 2 second) := by
  have hour_fits : hour < 10 ^ 2 := by omega
  have minute_fits : minute < 10 ^ 2 := by omega
  have second_fits : second < 10 ^ 2 := by omega
  simp [clockText, toList_zeroPadded hour_fits, toList_zeroPadded minute_fits,
    toList_zeroPadded second_fits]

theorem isoDate_dateText {year month day : Nat} (valid : validCalendarDate year month day = true) :
    isoDate (paddedDigits 4 year ++ '-' :: (paddedDigits 2 month ++ '-' :: paddedDigits 2 day)) =
      some (year, month, day) := by
  have bounds := validCalendarDate_bounds valid
  have year_read := digits_paddedDigits (by omega : year < 10 ^ 4)
    ('-' :: (paddedDigits 2 month ++ '-' :: paddedDigits 2 day))
  have month_read := digits_paddedDigits (by omega : month < 10 ^ 2) ('-' :: paddedDigits 2 day)
  have day_read := digits_paddedDigits (by omega : day < 10 ^ 2) []
  rw [List.append_nil] at day_read
  have plain : ∀ rest, paddedDigits 2 month ++ '-' :: paddedDigits 2 day ≠ 'W' :: rest := by
    intro rest eq
    rw [paddedDigits_two, List.cons_append, List.cons.injEq] at eq
    have digit := (digitChar_facts (month / 10 % 10) (Nat.mod_lt _ (by omega))).2.1
    rw [eq.1] at digit
    exact absurd digit (by decide)
  unfold isoDate
  rw [year_read]
  simp only [Option.bind_eq_bind, Option.bind_some, List.head?_cons, BEq.rfl, if_true,
    List.tail_cons]
  rw [month_read]
  simp [dash, day_read]

theorem fromIsoFormat_dateText {year month day : Nat}
    (valid : validCalendarDate year month day = true) :
    fromIsoFormat (dateText year month day) =
      some ⟨year, month, day, 0, 0, 0, valid, by decide⟩ := by
  have text := toList_dateText valid
  have length : (dateText year month day).toList.length = 10 := by
    simp [text, length_paddedDigits]
  have position : separatorPosition (dateText year month day).toList = some 10 := by
    have month_digit := (digitChar_facts (month / 10 % 10) (Nat.mod_lt _ (by omega))).2.1
    have not_week : digitChar (month / 10 % 10) ≠ 'W' := by
      intro eq
      rw [eq] at month_digit
      exact absurd month_digit (by decide)
    have fourth : (dateText year month day).toList[4]? = some '-' := by
      rw [text, List.getElem?_append_right (by rw [length_paddedDigits]), length_paddedDigits]
      rfl
    have fifth : (dateText year month day).toList[5]? = some (digitChar (month / 10 % 10)) := by
      rw [text, List.getElem?_append_right (by rw [length_paddedDigits]; omega),
        length_paddedDigits]
      rfl
    unfold separatorPosition
    simp only [length, fourth, fifth, Option.some.injEq, ne_eq, not_week, not_false_eq_true,
      if_true]
    rfl
  unfold fromIsoFormat
  rw [position]
  have whole : (dateText year month day).toList.take 10 = (dateText year month day).toList :=
    List.take_of_length_le (by omega)
  have none_left : (dateText year month day).toList.drop 11 = [] :=
    List.drop_eq_nil_of_le (by omega)
  simp only [Option.bind_eq_bind, Option.bind_some, whole, none_left]
  rw [text, isoDate_dateText valid]
  exact datetime_date valid

theorem double_digits {tens ones : Class} {d d' : Nat} (first : tens (digitChar d) = some d)
    (second : ones (digitChar d') = some d') (rest : List Char) :
    double tens ones (digitChar d :: digitChar d' :: rest) = [(10 * d + d', rest)] := by
  simp [double, first, second]

theorem double_digits_none {tens ones : Class} {d : Nat} (first : tens (digitChar d) = none)
    (c : Char) (rest : List Char) : double tens ones (digitChar d :: c :: rest) = [] := by
  simp [double, first]

theorem readings_two {directive : Directive} {n : Nat}
    (clock : (directive = .hour ∧ n < 24) ∨ ((directive = .minute ∨ directive = .second) ∧ n < 60))
    (rest : List Char) :
    ∃ more, directive.readings (paddedDigits 2 n ++ rest) = (n, rest) :: more := by
  have ones_small : n % 10 < 10 := Nat.mod_lt n (by omega)
  have tens : n / 10 % 10 = n / 10 := by omega
  have whole : 10 * (n / 10) + n % 10 = n := by omega
  have any := anyDigit_digitChar ones_small
  rw [paddedDigits_two, tens, List.cons_append, List.cons_append, List.nil_append]
  rcases clock with ⟨rfl, small⟩ | ⟨rfl | rfl, small⟩
  · simp only [Directive.readings]
    by_cases twenty : 20 ≤ n
    · rw [double_digits (between_digitChar (by omega) (by omega) (by omega))
        (between_digitChar ones_small (by omega) (by omega)), whole]
      exact ⟨_, rfl⟩
    · rw [double_digits_none (between_digitChar_none (by omega) (by omega)),
        double_digits (between_digitChar (by omega) (by omega) (by omega)) any, whole]
      exact ⟨_, rfl⟩
  · simp only [Directive.readings]
    rw [double_digits (between_digitChar (by omega) (by omega) (by omega)) any, whole]
    exact ⟨_, rfl⟩
  · simp only [Directive.readings]
    rw [double_digits_none (between_digitChar_none (by omega) (by omega)),
      double_digits (between_digitChar (by omega) (by omega) (by omega)) any, whole]
    exact ⟨_, rfl⟩

theorem scan_two {directive : Directive} {n : Nat} {format : List Directive} {fields read : Fields}
    {rest : List Char}
    (clock : (directive = .hour ∧ n < 24) ∨ ((directive = .minute ∨ directive = .second) ∧ n < 60))
    (later : scan format (fields.put n directive) rest = some read) :
    scan (directive :: format) fields (paddedDigits 2 n ++ rest) = some read := by
  obtain ⟨more, first⟩ := readings_two clock rest
  simp [scan, first, later]

theorem scan_literal {c : Char} {format : List Directive} {fields read : Fields}
    {rest : List Char} (later : scan format fields rest = some read) :
    scan (.literal c :: format) fields (c :: rest) = some read := by
  simp [scan, Directive.readings, Fields.put, later]

def clockFormat : List Directive := [.hour, .literal ':', .minute, .literal ':', .second]

theorem strptime_clockText {hour minute second : Nat}
    (valid : hour < 24 ∧ minute < 60 ∧ second < 60) :
    strptime clockFormat (clockText hour minute second) =
      some ⟨1900, 1, 1, hour, minute, second, by decide, valid⟩ := by
  have read : scan clockFormat {} (clockText hour minute second).toList =
      some { hour := hour, minute := minute, second := second } := by
    rw [toList_clockText valid, ← List.append_nil (paddedDigits 2 second)]
    apply scan_two (Or.inl ⟨rfl, valid.1⟩)
    apply scan_literal
    apply scan_two (Or.inr ⟨Or.inl rfl, valid.2.1⟩)
    apply scan_literal
    apply scan_two (Or.inr ⟨Or.inr rfl, valid.2.2⟩)
    rfl
  unfold strptime
  rw [read]
  simp only [Option.bind_eq_bind, Option.bind_some]
  rw [datetime, dif_pos (by decide), dif_pos valid]

theorem strip_eq_self {text : String} (unspaced : ∀ c ∈ text.toList, StripText.isSpace c = false) :
    StripText.strip text = text := by
  rw [StripText.strip, stripBy_of_none unspaced, String.ofList_toList]

theorem isSpace_paddedDigits {width n : Nat} {c : Char} (member : c ∈ paddedDigits width n) :
    StripText.isSpace c = false := by
  obtain ⟨d, small, rfl⟩ := mem_paddedDigits member
  exact (digitChar_facts d small).2.2.2

theorem strip_dateText {year month day : Nat} (valid : validCalendarDate year month day = true) :
    StripText.strip (dateText year month day) = dateText year month day := by
  apply strip_eq_self
  intro c member
  rw [toList_dateText valid] at member
  simp only [List.mem_append, List.mem_cons] at member
  rcases member with digit | rfl | digit | rfl | digit
  · exact isSpace_paddedDigits digit
  · decide
  · exact isSpace_paddedDigits digit
  · decide
  · exact isSpace_paddedDigits digit

theorem strip_clockText {hour minute second : Nat}
    (valid : hour < 24 ∧ minute < 60 ∧ second < 60) :
    StripText.strip (clockText hour minute second) = clockText hour minute second := by
  apply strip_eq_self
  intro c member
  rw [toList_clockText valid] at member
  simp only [List.mem_append, List.mem_cons] at member
  rcases member with digit | rfl | digit | rfl | digit
  · exact isSpace_paddedDigits digit
  · decide
  · exact isSpace_paddedDigits digit
  · decide
  · exact isSpace_paddedDigits digit

end DateText
