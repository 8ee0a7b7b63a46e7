import Mathlib.Algebra.Order.Ring.Nat
import Mathlib.Tactic.IntervalCases
import Mathlib.Tactic.Ring
import LimnoPulse.Library.CivilTime

/-!
# RFC 3339 timestamps

The text of an instant in UTC with as many fractional digits as it needs, and the
reading of such a text with any offset.

Main results:

- Theorem `Date.ofDays_spec`: a date tells its day.
- Theorem `parse_format`: the text of an instant is read back as that instant.
-/

namespace CivilTime

variable {n : Nat} {c : Char} {date : Date}

/-! ## Digits -/

/-- A decimal digit. -/
def digitChar (d : Nat) : Char := Char.ofNat (48 + d)

/-- The value of a decimal digit. -/
def digitValue (c : Char) : Option Nat :=
  if 48 ≤ c.toNat ∧ c.toNat ≤ 57 then some (c.toNat - 48) else none

/-- A digit is read back. -/
theorem digitValue_digitChar {d : Nat} (h : d < 10) : digitValue (digitChar d) = some d := by
  interval_cases d <;> rfl

/-- The last `width` decimal digits of a number. -/
def digitChars : (width n : Nat) → List Char
  | 0, _ => []
  | width + 1, n => digitChar (n / 10 ^ width % 10) :: digitChars width n

/-- The width of a number. -/
@[simp]
theorem length_digitChars : ∀ width n, (digitChars width n).length = width
  | 0, _ => rfl
  | width + 1, n => by rw [digitChars, List.length_cons, length_digitChars]

/-- Read exactly `width` digits after those that are read already. -/
def readDigits : (width read : Nat) → List Char → Option (Nat × List Char)
  | 0, read, text => some (read, text)
  | _ + 1, _, [] => none
  | width + 1, read, c :: text => (digitValue c).bind fun d => readDigits width (10 * read + d) text

/-- Digits are read back. -/
theorem readDigits_digitChars : ∀ (width read n : Nat) (rest : List Char),
    readDigits width read (digitChars width n ++ rest) = some (read * 10 ^ width + n % 10 ^ width, rest)
  | 0, read, n, rest => by simp [readDigits, digitChars, Nat.mod_one]
  | width + 1, read, n, rest => by
    have hdigit : n / 10 ^ width % 10 < 10 := Nat.mod_lt _ (by decide)
    rw [digitChars, List.cons_append, readDigits, digitValue_digitChar hdigit, Option.bind_some,
      readDigits_digitChars width]
    have hsplit : n % 10 ^ (width + 1) = n / 10 ^ width % 10 * 10 ^ width + n % 10 ^ width := by
      rw [Nat.pow_succ, Nat.mod_mul, Nat.add_comm, Nat.mul_comm]
    rw [hsplit, Nat.pow_succ]
    congr 2
    ring

/-- A number that fits its width is read back. -/
theorem readDigits_of_lt {width : Nat} (h : n < 10 ^ width) (rest : List Char) :
    readDigits width 0 (digitChars width n ++ rest) = some (n, rest) := by
  rw [readDigits_digitChars, Nat.mod_eq_of_lt h, Nat.zero_mul, Nat.zero_add]

/-- The day number of a date. -/
def Date.toDays (date : Date) : Int :=
  let year := date.year - if date.month ≤ 2 then 1 else 0
  let era := year / 400
  let yearOfEra := (year - era * 400).toNat
  let shiftedMonth := if date.month ≤ 2 then date.month + 9 else date.month - 3
  let dayOfYear := (153 * shiftedMonth + 2) / 5 + date.day - 1
  era * 146097 + (365 * yearOfEra + yearOfEra / 4 - yearOfEra / 100 + dayOfYear : Nat) - 719468

/-- The year of a day in century `e` of an era, in its four years `q`. -/
theorem yearOfEra_of_parts {e q r : Nat} (he : e ≤ 3) (hq : q ≤ 24) (hr : r ≤ 1460) :
    let n := 36524 * e + 1461 * q + r
    let y := (n - n / 1460 + e) / 365
    y < 400 ∧ 365 * y + y / 4 - y / 100 ≤ n ∧ n ≤ 365 * y + y / 4 - y / 100 + 365 := by
  intro n y
  -- The quotient by 1460 counts the leap days, up to one too many at the end.
  obtain ⟨t, ht⟩ : ∃ t, t = (24 * e + q + r) / 1460 := ⟨_, rfl⟩
  obtain ⟨z, hz⟩ : ∃ z, z = (r - t) / 365 := ⟨_, rfl⟩
  have hn : n = 1460 * (25 * e + q) + (24 * e + q + r) := by
    simp only [n]
    ring
  have hleap : n / 1460 = 25 * e + q + t := by
    rw [hn, Nat.mul_add_div (by decide), ht]
  have hone : t ≤ 1 := by omega
  have hday : t ≤ r := by omega
  have hy : y = 100 * e + 4 * q + z := by
    have hdays : n - n / 1460 + e = 365 * (100 * e + 4 * q) + (r - t) := by
      rw [hleap, hn]
      omega
    simp only [y]
    rw [hdays, Nat.mul_add_div (by decide), hz]
  have hz3 : z ≤ 3 := by omega
  have hrest : 365 * z ≤ r - t ∧ r - t < 365 * z + 365 := by omega
  have hfour : y / 4 = 25 * e + q := by
    rw [hy]
    omega
  have hcentury : y / 100 = e := by
    rw [hy]
    omega
  rw [hfour, hcentury, hy, hn]
  omega

/-- The year of an era and the day of that year, from the day of the era. -/
theorem yearOfEra_spec {y : Nat} (h : n < 146097)
    (hy : y = (n - n / 1460 + n / 36524 - n / 146096) / 365) :
    y < 400 ∧ 365 * y + y / 4 - y / 100 ≤ n ∧ n ≤ 365 * y + y / 4 - y / 100 + 365 := by
  by_cases hlast : n = 146096
  · subst hlast
    have hy : y = 399 := hy
    subst hy
    decide
  · have hn : n = 36524 * (n / 36524) + 1461 * (n % 36524 / 1461) + n % 36524 % 1461 := by
      have h₁ := Nat.div_add_mod n 36524
      have h₂ := Nat.div_add_mod (n % 36524) 1461
      omega
    have hcentury : n / 36524 ≤ 3 := by omega
    have hfour : n % 36524 / 1461 ≤ 24 := by
      have := Nat.mod_lt n (show 0 < 36524 by decide)
      omega
    have hday : n % 36524 % 1461 ≤ 1460 := Nat.le_of_lt_succ (Nat.mod_lt _ (by decide))
    have hera : n / 146096 = 0 := Nat.div_eq_of_lt (by omega)
    have hparts := yearOfEra_of_parts hcentury hfour hday
    simp only [← hn] at hparts
    rw [hera, Nat.sub_zero] at hy
    rw [hy]
    exact hparts

/-- The month and its day tell the day of a year that begins in March. -/
theorem month_spec {dayOfYear shiftedMonth : Nat} (h : dayOfYear ≤ 365)
    (hmonth : shiftedMonth = (5 * dayOfYear + 2) / 153) :
    shiftedMonth ≤ 11 ∧ (153 * shiftedMonth + 2) / 5 ≤ dayOfYear ∧
      dayOfYear ≤ (153 * shiftedMonth + 2) / 5 + 30 := by
  omega

/-- The day number from the era, the year of the era and the shifted month. -/
theorem Date.toDays_mk (era : Int) {y m d : Nat} (hy : y < 400) (hm : m ≤ 11)
    (hd : (153 * m + 2) / 5 ≤ d) :
    let month := if m < 10 then m + 3 else m - 9
    Date.toDays ⟨y + era * 400 + if month ≤ 2 then 1 else 0, month, d - (153 * m + 2) / 5 + 1⟩ =
      era * 146097 + (365 * y + y / 4 - y / 100 + d : Nat) - 719468 := by
  have hera : ((y : Int) + era * 400) / 400 = era := by omega
  have hyear : ((y : Int) + era * 400 - era * 400).toNat = y := by omega
  by_cases hmonth : m < 10
  · have hlate : ¬ m + 3 ≤ 2 := by omega
    simp only [Date.toDays, hmonth, if_true, hlate, if_false, Int.sub_zero, Int.add_zero, hera, hyear,
      Nat.add_sub_cancel]
    have hday : (153 * m + 2) / 5 + (d - (153 * m + 2) / 5 + 1) - 1 = d := by omega
    rw [hday]
  · have hearly : m - 9 ≤ 2 := by omega
    have hback : m - 9 + 9 = m := by omega
    simp only [Date.toDays, hmonth, if_false, hearly, if_true, Int.add_sub_cancel, hera, hback,
      Int.toNat_natCast]
    have hday : (153 * m + 2) / 5 + (d - (153 * m + 2) / 5 + 1) - 1 = d := by omega
    rw [hday]

/-- A date tells its day, and its fields have two digits at most. -/
theorem Date.ofDays_spec (days : Int) :
    (Date.ofDays days).toDays = days ∧ 1 ≤ (Date.ofDays days).month ∧
      (Date.ofDays days).month ≤ 12 ∧ 1 ≤ (Date.ofDays days).day ∧ (Date.ofDays days).day ≤ 31 := by
  obtain ⟨era, hera⟩ : ∃ era, era = (days + 719468) / 146097 := ⟨_, rfl⟩
  obtain ⟨n, hn⟩ : ∃ n, n = ((days + 719468) % 146097).toNat := ⟨_, rfl⟩
  obtain ⟨y, hy⟩ : ∃ y, y = (n - n / 1460 + n / 36524 - n / 146096) / 365 := ⟨_, rfl⟩
  obtain ⟨d, hd⟩ : ∃ d, d = n - (365 * y + y / 4 - y / 100) := ⟨_, rfl⟩
  obtain ⟨m, hm⟩ : ∃ m, m = (5 * d + 2) / 153 := ⟨_, rfl⟩
  have hbound : n < 146097 := by omega
  have hsplit : days + 719468 = era * 146097 + n := by omega
  obtain ⟨hyears, hlow, hhigh⟩ := yearOfEra_spec hbound hy
  obtain ⟨hmonths, hmlow, hmhigh⟩ := month_spec (show d ≤ 365 by omega) hm
  have hdate : Date.ofDays days = ⟨y + era * 400 + if (if m < 10 then m + 3 else m - 9) ≤ 2 then 1 else 0,
      if m < 10 then m + 3 else m - 9, d - (153 * m + 2) / 5 + 1⟩ := by
    simp only [Date.ofDays, ← hera, ← hn, ← hy, ← hd, ← hm]
  rw [hdate]
  refine ⟨?_, ?_, ?_, ?_, ?_⟩
  · rw [Date.toDays_mk era hyears hmonths hmlow]
    omega
  all_goals
    simp only
    try split
    all_goals omega

/-! ## The fraction of a second -/

/-- Digits without the zeros at their end. -/
def trimZeros : List Char → List Char
  | [] => []
  | c :: cs =>
    match trimZeros cs with
    | [] => if c = '0' then [] else [c]
    | d :: ds => c :: d :: ds

/-- The zeros that were trimmed can be put back. -/
theorem trimZeros_append : ∀ cs : List Char,
    trimZeros cs ++ List.replicate (cs.length - (trimZeros cs).length) '0' = cs
  | [] => rfl
  | c :: cs => by
    have ih := trimZeros_append cs
    cases htrim : trimZeros cs with
    | nil =>
      rw [htrim] at ih
      simp only [List.nil_append, List.length_nil, Nat.sub_zero] at ih
      by_cases hzero : c = '0'
      · simp only [trimZeros, htrim, hzero, if_true, List.nil_append, List.length_nil, Nat.sub_zero,
          List.length_cons, List.replicate_succ, ih]
      · simp only [trimZeros, htrim, hzero, if_false, List.length_cons, List.length_nil,
          Nat.add_sub_cancel, List.cons_append, List.nil_append, ih, Nat.zero_add]
    | cons =>
      rw [htrim] at ih
      simp only [trimZeros, htrim, List.length_cons, List.cons_append, Nat.add_sub_add_right] at ih ⊢
      rw [ih]

/-- Trimming adds nothing. -/
theorem mem_of_mem_trimZeros {cs : List Char} (h : c ∈ trimZeros cs) : c ∈ cs := by
  rw [← trimZeros_append cs]
  exact List.mem_append_left _ h

/-- The fraction of a second, left out when it is zero. -/
def fractionChars (nanoseconds : Nat) : List Char :=
  if nanoseconds = 0 then [] else '.' :: trimZeros (digitChars 9 nanoseconds)

/-- A decimal digit. -/
def isDigit (c : Char) : Bool := (digitValue c).isSome

/-- Read the fraction of a second; digits after the ninth are cut off. -/
def readFraction : List Char → Option (Nat × List Char)
  | '.' :: text =>
    let digits := text.takeWhile isDigit
    if digits = [] then none
    else
      (readDigits 9 0 (digits.take 9 ++ List.replicate (9 - digits.length) '0')).map fun (n, _) =>
        (n, text.dropWhile isDigit)
  | text => some (0, text)

/-- Numbers are made of digits. -/
theorem isDigit_of_mem_digitChars : ∀ {width n : Nat}, c ∈ digitChars width n → isDigit c = true
  | 0, _, h => by cases h
  | width + 1, n, h => by
    rcases List.mem_cons.mp h with rfl | h
    · rw [isDigit, digitValue_digitChar (Nat.mod_lt _ (by decide))]
      rfl
    · exact isDigit_of_mem_digitChars h

theorem readFraction_absent (hdot : c ≠ '.') (rest : List Char) :
    readFraction (c :: rest) = some (0, c :: rest) := by
  rw [readFraction.eq_def]
  split
  next text heq =>
    cases heq
    exact absurd rfl hdot
  next => rfl

/-- Digits that are nine when padded with zeros. -/
theorem readFraction_digits {digits : List Char} (hdigits : ∀ d ∈ digits, isDigit d = true)
    (hsome : digits ≠ [])
    (hpad : digits ++ List.replicate (9 - digits.length) '0' = digitChars 9 n) (h : n < 10 ^ 9)
    (rest : List Char) (hdigit : isDigit c = false) :
    readFraction ('.' :: (digits ++ c :: rest)) = some (n, c :: rest) := by
  have htake : (digits ++ c :: rest).takeWhile isDigit = digits := by
    rw [List.takeWhile_append_of_pos hdigits, List.takeWhile_cons_of_neg (by simp [hdigit]),
      List.append_nil]
  have hdrop : (digits ++ c :: rest).dropWhile isDigit = c :: rest := by
    rw [List.dropWhile_append_of_pos hdigits, List.dropWhile_cons_of_neg (by simp [hdigit])]
  have hlen : digits.length ≤ 9 := by
    have hsum := congrArg List.length hpad
    rw [List.length_append, length_digitChars] at hsum
    omega
  have hnine : digits.take 9 ++ List.replicate (9 - digits.length) '0' = digitChars 9 n ++ [] := by
    rw [List.take_of_length_le hlen, hpad, List.append_nil]
  rw [readFraction]
  simp only [htake, hdrop, if_neg hsome, hnine, readDigits_of_lt h, Option.map_some]

/-- A fraction is read back. -/
theorem readFraction_fractionChars (h : n < 10 ^ 9) (rest : List Char)
    (hdot : c ≠ '.') (hdigit : isDigit c = false) :
    readFraction (fractionChars n ++ c :: rest) = some (n, c :: rest) := by
  unfold fractionChars
  by_cases hzero : n = 0
  · rw [if_pos hzero, List.nil_append, hzero, readFraction_absent hdot]
  · have hpad := trimZeros_append (digitChars 9 n)
    rw [length_digitChars] at hpad
    have hsome : trimZeros (digitChars 9 n) ≠ [] := by
      intro hnil
      -- Nine zeros are the digits of zero.
      rw [hnil, List.nil_append, List.length_nil] at hpad
      have hread := readDigits_of_lt h []
      rw [← hpad] at hread
      have hnine : readDigits 9 0 (List.replicate (9 - 0) '0' ++ []) = some (0, []) := by decide
      rw [hnine] at hread
      cases hread
      exact hzero rfl
    rw [if_neg hzero, List.cons_append]
    exact readFraction_digits (fun d hd => isDigit_of_mem_digitChars (mem_of_mem_trimZeros hd)) hsome
      hpad h rest hdigit

/-- A fraction with a fixed number of digits, left out when it is zero. -/
def fixedFractionChars (width n : Nat) : List Char :=
  if n = 0 then [] else '.' :: digitChars width n

/-- Zeros after the digits of a number. -/
theorem digitChars_append_zeros (width n : Nat) : ∀ zeros,
    digitChars (width + zeros) (n * 10 ^ zeros) = digitChars width n ++ List.replicate zeros '0' := by
  intro zeros
  induction width with
  | zero =>
    induction zeros generalizing n with
    | zero => rfl
    | succ zeros ih =>
      have hzero : n * 10 ^ (zeros + 1) / 10 ^ (0 + zeros) % 10 = 0 := by
        rw [Nat.zero_add, Nat.pow_succ', ← Nat.mul_assoc,
          Nat.mul_div_cancel _ (Nat.pow_pos (by decide)), Nat.mul_mod_left]
      have hrest := ih (n * 10)
      rw [Nat.mul_assoc, ← Nat.pow_succ'] at hrest
      rw [← Nat.add_assoc, digitChars.eq_2, hzero, hrest]
      rfl
  | succ width ih =>
    have hdigit : n * 10 ^ zeros / 10 ^ (width + zeros) = n / 10 ^ width := by
      rw [Nat.pow_add, Nat.mul_div_mul_right _ _ (Nat.pow_pos (by decide))]
    rw [Nat.add_right_comm, digitChars, digitChars, List.cons_append, hdigit, ih]

/-! ## Dates and times of day -/

/-- A fixed character. -/
def expect (c : Char) : List Char → Option (List Char)
  | d :: text => if d = c then some text else none
  | [] => none

@[simp]
theorem expect_cons (c : Char) (text : List Char) : expect c (c :: text) = some text := if_pos rfl

/-- The text of a date. -/
def dateChars (date : Date) : List Char :=
  digitChars 4 date.year.toNat ++ '-' :: (digitChars 2 date.month ++ '-' :: digitChars 2 date.day)

/-- Read a date.  It is one of the calendar if it is the date of its day. -/
def readDate (text : List Char) : Option (Date × List Char) := do
  let (year, text) ← readDigits 4 0 text
  let text ← expect '-' text
  let (month, text) ← readDigits 2 0 text
  let text ← expect '-' text
  let (dayOfMonth, text) ← readDigits 2 0 text
  let date : Date := ⟨year, month, dayOfMonth⟩
  if Date.ofDays date.toDays = date then some (date, text) else none

/-- A date is read back. -/
theorem readDate_dateChars (hyear : 0 ≤ date.year) (hyear' : date.year ≤ 9999)
    (hmonth : date.month ≤ 12) (hday : date.day ≤ 31) (hdate : Date.ofDays date.toDays = date)
    (rest : List Char) : readDate (dateChars date ++ rest) = some (date, rest) := by
  have hcast : (⟨(date.year.toNat : Int), date.month, date.day⟩ : Date) = date := by
    rw [Int.toNat_of_nonneg hyear]
  unfold readDate dateChars
  simp only [List.append_assoc, List.cons_append]
  rw [readDigits_of_lt (show date.year.toNat < 10 ^ 4 by omega)]
  simp only [Option.bind_eq_bind, Option.bind_some, expect_cons]
  rw [readDigits_of_lt (show date.month < 10 ^ 2 by omega)]
  simp only [Option.bind_some, expect_cons]
  rw [readDigits_of_lt (show date.day < 10 ^ 2 by omega)]
  simp only [Option.bind_some, hcast, hdate, if_true]

/-- The text of a time of day. -/
def clockChars (seconds : Nat) : List Char :=
  digitChars 2 (seconds / 3600) ++ ':' :: (digitChars 2 (seconds / 60 % 60) ++
    ':' :: digitChars 2 (seconds % 60))

/-- Read a time of day in seconds. -/
def readClock (text : List Char) : Option (Nat × List Char) := do
  let (hours, text) ← readDigits 2 0 text
  let text ← expect ':' text
  let (minutes, text) ← readDigits 2 0 text
  let text ← expect ':' text
  let (seconds, text) ← readDigits 2 0 text
  if hours ≤ 23 ∧ minutes ≤ 59 ∧ seconds ≤ 59 then
    some (3600 * hours + 60 * minutes + seconds, text)
  else none

/-- A time of day is read back. -/
theorem readClock_clockChars {seconds : Nat} (h : seconds < 86400) (rest : List Char) :
    readClock (clockChars seconds ++ rest) = some (seconds, rest) := by
  have hfields : seconds / 3600 ≤ 23 ∧ seconds / 60 % 60 ≤ 59 ∧ seconds % 60 ≤ 59 := by omega
  have hsum : 3600 * (seconds / 3600) + 60 * (seconds / 60 % 60) + seconds % 60 = seconds := by omega
  unfold readClock clockChars
  simp only [List.append_assoc, List.cons_append]
  rw [readDigits_of_lt (show seconds / 3600 < 10 ^ 2 by omega)]
  simp only [Option.bind_eq_bind, Option.bind_some, expect_cons]
  rw [readDigits_of_lt (show seconds / 60 % 60 < 10 ^ 2 by omega)]
  simp only [Option.bind_some, expect_cons]
  rw [readDigits_of_lt (show seconds % 60 < 10 ^ 2 by omega)]
  simp only [Option.bind_some]
  rw [if_pos hfields, hsum]

/-- A day between 1970 and the year 7000 has four digits for its year. -/
theorem Date.ofDays_year {days : Int} (hlow : 0 ≤ days) (hhigh : days < 2000000) :
    0 ≤ (Date.ofDays days).year ∧ (Date.ofDays days).year ≤ 9999 := by
  obtain ⟨n, hn⟩ : ∃ n, n = ((days + 719468) % 146097).toNat := ⟨_, rfl⟩
  obtain ⟨y, hy⟩ : ∃ y, y = (n - n / 1460 + n / 36524 - n / 146096) / 365 := ⟨_, rfl⟩
  have hyear := (yearOfEra_spec (show n < 146097 by omega) hy).1
  simp only [Date.ofDays, ← hn, ← hy]
  split <;> omega

/-- Read the offset from UTC in seconds, which ends the text. -/
def readOffset : List Char → Option Int
  | ['Z'] => some 0
  | c :: text => do
    let (hours, text) ← readDigits 2 0 text
    let text ← expect ':' text
    let (minutes, text) ← readDigits 2 0 text
    if text ≠ [] ∨ 23 < hours ∨ 59 < minutes then none
    else if c = '+' then some (3600 * hours + 60 * minutes)
    else if c = '-' then some (-(3600 * hours + 60 * minutes))
    else none
  | [] => none

/-- Nanoseconds in a day. -/
def day : Int := 86400 * second

/-- The timestamp of a date and a time of day in nanoseconds, in UTC. -/
def timestampChars (date : Date) (ofDay : Nat) : List Char :=
  dateChars date ++ 'T' :: (clockChars (ofDay / 10 ^ 9) ++ (fractionChars (ofDay % 10 ^ 9) ++ ['Z']))

/-- The timestamp of an instant whose year has four digits. -/
def formatTimestamp (t : Instant) : Option String :=
  let date := Date.ofDays (t / day)
  if 0 ≤ date.year ∧ date.year ≤ 9999 then
    some (String.ofList (timestampChars date (t % day).toNat))
  else none

/-- The instant of a timestamp. -/
def parseTimestamp (text : String) : Option Instant := do
  let (date, text) ← readDate text.toList
  let text ← expect 'T' text
  let (seconds, text) ← readClock text
  let (nanoseconds, text) ← readFraction text
  let offset ← readOffset text
  some (date.toDays * day + (seconds - offset) * second + nanoseconds)

section

variable (hyear : 0 ≤ date.year) (hyear' : date.year ≤ 9999) (hmonth : date.month ≤ 12)
  (hday : date.day ≤ 31) (hdate : Date.ofDays date.toDays = date)
include hyear hyear' hmonth hday hdate

/-- A timestamp in UTC is read back if the fraction of its second is. -/
theorem parseTimestamp_chars {seconds nanoseconds : Nat} {fraction : List Char} (hseconds : seconds < 86400)
    (hfraction : readFraction (fraction ++ ['Z']) = some (nanoseconds, ['Z'])) :
    parseTimestamp (String.ofList (dateChars date ++ 'T' :: (clockChars seconds ++
      (fraction ++ ['Z'])))) = some (date.toDays * day + (seconds * second + nanoseconds)) := by
  unfold parseTimestamp
  rw [String.toList_ofList, readDate_dateChars hyear hyear' hmonth hday hdate]
  simp only [Option.bind_eq_bind, Option.bind_some, expect_cons]
  rw [readClock_clockChars hseconds]
  simp only [Option.bind_some, hfraction, readOffset, Int.sub_zero, Int.add_assoc]

/-- The timestamp of a date and a time of day is read back. -/
theorem parseTimestamp_timestampChars {ofDay : Nat} (htime : ofDay < 86400 * 10 ^ 9) :
    parseTimestamp (String.ofList (timestampChars date ofDay)) = some (date.toDays * day + ofDay) := by
  have hseconds : ofDay / 10 ^ 9 < 86400 := by omega
  have hnanos : ofDay % 10 ^ 9 < 10 ^ 9 := Nat.mod_lt _ (by decide)
  have hsum : ((ofDay / 10 ^ 9 : Nat) : Int) * second + ((ofDay % 10 ^ 9 : Nat) : Int) = ofDay := by
    simp only [second]
    omega
  have hfraction := readFraction_fractionChars hnanos [] (show 'Z' ≠ '.' by decide) (by decide)
  rw [timestampChars, parseTimestamp_chars hyear hyear' hmonth hday hdate hseconds hfraction, hsum]

end

/-- The text of an instant is read back as that instant. -/
theorem parse_format {t : Instant} {text : String} (h : formatTimestamp t = some text) :
    parseTimestamp text = some t := by
  unfold formatTimestamp at h
  simp only at h
  split at h
  next hyear =>
    cases h
    obtain ⟨hdays, -, hmonth, -, hday⟩ := Date.ofDays_spec (t / day)
    have hpositive : 0 ≤ t % day := Int.emod_nonneg _ (by decide)
    have hless : t % day < day := Int.emod_lt_of_pos _ (by decide)
    rw [parseTimestamp_timestampChars hyear.1 hyear.2 hmonth hday (by rw [hdays])]
    · rw [hdays, Int.toNat_of_nonneg hpositive]
      congr 1
      exact Int.ediv_mul_add_emod t day
    · simp only [day, second] at hless hpositive ⊢
      omega
  next => cases h

end CivilTime
