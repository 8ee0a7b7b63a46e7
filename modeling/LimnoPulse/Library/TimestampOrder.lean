import Mathlib.Data.String.Basic
import LimnoPulse.Library.Timestamp

/-!
# The order of timestamps

Timestamps whose fields have a fixed width are in the order of time.

Main results:

- Theorem `Date.number_lt`: dates are in the order of their days.
- Theorem `stampText_lt`: so are timestamps, as texts.
-/

namespace CivilTime

variable {width m n : Nat}

/-- Digits are ordered as their values. -/
theorem digitChar_order : ∀ c < 10, ∀ d < 10, (digitChar c < digitChar d ↔ c < d) ∧
    (digitChar c = digitChar d ↔ c = d) := by
  decide

/-- The last digit of a number. -/
theorem digitChars_concat (n : Nat) : ∀ width,
    digitChars (width + 1) n = digitChars width (n / 10) ++ [digitChar (n % 10)]
  | 0 => by simp [digitChars]
  | width + 1 => by
    rw [digitChars.eq_2, digitChars_concat n width, digitChars.eq_2 (n / 10) width, Nat.pow_succ',
      Nat.div_div_eq_div_mul, List.cons_append]

/-- Texts that start with a number of fixed width are in the order of the numbers. -/
theorem digitChars_lt (hm : m < 10 ^ width) (hn : n < 10 ^ width) {x y : List Char} :
    digitChars width m ++ x < digitChars width n ++ y ↔ m < n ∨ m = n ∧ x < y := by
  induction width generalizing m n x y with
  | zero =>
    have hsame : m = n := by omega
    simp [digitChars, hsame]
  | succ width ih =>
    rw [Nat.pow_succ] at hm hn
    obtain ⟨hless, hinj⟩ :=
      digitChar_order (m % 10) (Nat.mod_lt _ (by decide)) (n % 10) (Nat.mod_lt _ (by decide))
    rw [digitChars_concat, digitChars_concat, List.append_assoc, List.append_assoc,
      ih (by omega) (by omega), List.cons_append, List.cons_append, List.cons_lt_cons_iff, hless, hinj]
    by_cases hxy : x < y <;> simp only [List.nil_append, hxy, and_true, and_false, or_false] <;> omega

/-- A padded number is its digits. -/
theorem toList_padded (h : n < 10 ^ (width + 1)) :
    (padded (width + 1) n).toList = digitChars (width + 1) n := by
  have hchar : ∀ d < 10, Nat.digitChar d = digitChar d := by decide
  rw [padded, String.toList_ofList]
  induction width generalizing n with
  | zero =>
    rw [Nat.toDigits_of_lt_base (by omega), hchar n (by omega)]
    simp [digitChars, Nat.mod_eq_of_lt (show n < 10 by omega)]
  | succ width ih =>
    rw [Nat.pow_succ] at h
    rw [digitChars_concat, ← ih (by omega), ← hchar _ (Nat.mod_lt _ (by decide))]
    by_cases hten : n < 10
    · rw [Nat.toDigits_of_lt_base hten, Nat.div_eq_of_lt hten, Nat.mod_eq_of_lt hten, Nat.toDigits_zero]
      simp [List.replicate_succ']
    · rw [Nat.toDigits_of_base_le (by decide) (Nat.le_of_not_lt hten)]
      simp

/-- The digits of a date as one number. -/
def Date.number (date : Date) : Int := 10000 * date.year + 100 * date.month + date.day

/-- The digits of a day of a year that begins in March. -/
def dayNumber (d : Nat) : Nat :=
  let m := (5 * d + 2) / 153
  let month := if m < 10 then m + 3 else m - 9
  10000 * (if month ≤ 2 then 1 else 0) + 100 * month + (d - (153 * m + 2) / 5 + 1)

/-- The first day of a year that begins in March. -/
def yearStart (year : Int) : Int := 365 * year + year / 4 - year / 100 + year / 400 - 719468

/-- The number of a date within its year. -/
theorem Date.number_ofDays (days : Int) : ∃ (year : Int) (d : Nat), d ≤ 365 ∧
    days = yearStart year + d ∧ (Date.ofDays days).number = 10000 * year + dayNumber d := by
  obtain ⟨era, hera⟩ : ∃ era, era = (days + 719468) / 146097 := ⟨_, rfl⟩
  obtain ⟨n, hn⟩ : ∃ n, n = ((days + 719468) % 146097).toNat := ⟨_, rfl⟩
  obtain ⟨y, hy⟩ : ∃ y, y = (n - n / 1460 + n / 36524 - n / 146096) / 365 := ⟨_, rfl⟩
  obtain ⟨hyears, hlow, hhigh⟩ := yearOfEra_spec (show n < 146097 by omega) hy
  refine ⟨y + era * 400, n - (365 * y + y / 4 - y / 100), by omega, ?_, ?_⟩
  · have hsplit : days + 719468 = era * 146097 + n := by omega
    clear hy
    rw [yearStart, show ((y : Int) + era * 400) / 4 = y / 4 + era * 100 by omega,
      show ((y : Int) + era * 400) / 100 = y / 100 + era * 4 by omega,
      show ((y : Int) + era * 400) / 400 = era by omega]
    omega
  · simp only [Date.number, Date.ofDays, dayNumber, ← hera, ← hn, ← hy]
    push_cast
    ring

/-- A year has 365 days at least. -/
theorem yearStart_lt {a b : Int} (h : a < b) : yearStart a + 365 ≤ yearStart b := by
  have hfour : a / 4 ≤ b / 4 := by omega
  have hleap : ∀ q r : Int, q ≤ r → q - q / 25 + q / 100 ≤ r - r / 25 + r / 100 := by omega
  have hparts : ∀ n : Int, n / 100 = n / 4 / 25 ∧ n / 400 = n / 4 / 100 := by omega
  have := hleap _ _ hfour
  rw [yearStart, yearStart, (hparts a).1, (hparts a).2, (hparts b).1, (hparts b).2]
  omega

/-- The next day has a larger number. -/
theorem Date.number_lt_succ (days : Int) :
    (Date.ofDays days).number < (Date.ofDays (days + 1)).number := by
  obtain ⟨year, d, hd, hdays, hnumber⟩ := Date.number_ofDays days
  obtain ⟨year', d', hd', hdays', hnumber'⟩ := Date.number_ofDays (days + 1)
  rw [hnumber, hnumber']
  rcases lt_trichotomy year year' with hyears | rfl | hyears
  · -- The last day of February is followed by the first day of March.
    have hstart := yearStart_lt hyears
    have hnext : year' = year + 1 := by
      by_contra hne
      have hlater := yearStart_lt (show year + 1 < year' by omega)
      have hstart := yearStart_lt (show year < year + 1 by omega)
      omega
    have hfebruary : ∀ d < 366, 364 ≤ d → dayNumber d < 10300 := by decide +kernel
    have hmarch : ∀ d < 2, 300 < dayNumber d := by decide
    have hlast := hfebruary d (by omega) (by omega)
    have hfirst := hmarch d' (by omega)
    omega
  · have hnext : d' = d + 1 := by omega
    have hstep : ∀ d < 365, dayNumber d < dayNumber (d + 1) := by decide +kernel
    have hless := hstep d (by omega)
    rw [hnext]
    omega
  · have hstart := yearStart_lt hyears
    omega

/-- Dates are in the order of their days. -/
theorem Date.number_lt {a b : Int} : (Date.ofDays a).number < (Date.ofDays b).number ↔ a < b :=
  (strictMono_int_of_lt_succ Date.number_lt_succ).lt_iff_lt

/-- The timestamp of a time of a day, with a fixed number of fractional digits. -/
def stampText (width : Nat) (ending : String) (days : Int) (seconds fraction : Nat) : String :=
  (Date.ofDays days).text ++ "T" ++ padded 2 (seconds / 3600) ++ ":"
    ++ padded 2 (seconds / 60 % 60) ++ ":" ++ padded 2 (seconds % 60) ++ "."
    ++ padded width fraction ++ ending

/-- The year of the day has four digits. -/
def FourDigitYear (days : Int) : Prop :=
  1000 ≤ (Date.ofDays days).year ∧ (Date.ofDays days).year ≤ 9999

/-- The parts of a timestamp. -/
theorem toList_stampText (ending : String) {days : Int} {seconds : Nat}
    (hyear : FourDigitYear days) (hseconds : seconds < 86400) (hn : n < 10 ^ (width + 1)) :
    (stampText (width + 1) ending days seconds n).toList =
      dateChars (Date.ofDays days) ++ 'T' :: (clockChars seconds ++
        '.' :: (digitChars (width + 1) n ++ ending.toList)) := by
  obtain ⟨-, -, hmonth, -, hday⟩ := Date.ofDays_spec days
  unfold FourDigitYear at hyear
  have hfield : ∀ n < 100, (padded 2 n).toList = digitChars 2 n :=
    fun n hn => toList_padded (show n < 10 ^ (1 + 1) by omega)
  have hfour : (padded 4 (Date.ofDays days).year.toNat).toList =
      digitChars 4 (Date.ofDays days).year.toNat := toList_padded (by omega)
  simp only [stampText, Date.text, dateChars, clockChars, String.toList_append, hfour,
    toList_padded hn]
  rw [hfield _ (by omega), hfield _ (by omega), hfield _ (by omega), hfield _ (by omega),
    hfield _ (by omega)]
  simp

/-- Timestamps of one width are in the order of time. -/
theorem stampText_lt {ending : String} {a b : Int} {k l : Nat} (ha : FourDigitYear a)
    (hb : FourDigitYear b) (hk : k < 86400) (hl : l < 86400) (hm : m < 10 ^ (width + 1))
    (hn : n < 10 ^ (width + 1)) :
    stampText (width + 1) ending a k m < stampText (width + 1) ending b l n ↔
      a < b ∨ a = b ∧ (k < l ∨ k = l ∧ m < n) := by
  rw [String.lt_iff_toList_lt, toList_stampText ending ha hk hm, toList_stampText ending hb hl hn]
  have hless := Date.number_lt (a := a) (b := b)
  have hmore := Date.number_lt (a := b) (b := a)
  obtain ⟨-, -, hmonth, -, hday⟩ := Date.ofDays_spec a
  obtain ⟨-, -, hmonth', -, hday'⟩ := Date.ofDays_spec b
  unfold FourDigitYear at ha hb
  unfold Date.number at hless hmore
  unfold dateChars clockChars
  generalize Date.ofDays a = date at *
  generalize Date.ofDays b = date' at *
  have hsign : ∀ (c : Char) (x y : List Char), c :: x < c :: y ↔ x < y := by simp
  simp only [List.append_assoc, List.cons_append]
  rw [digitChars_lt (by omega) (by omega), hsign, digitChars_lt (by omega) (by omega), hsign,
    digitChars_lt (by omega) (by omega), hsign, digitChars_lt (by omega) (by omega), hsign,
    digitChars_lt (by omega) (by omega), hsign, digitChars_lt (by omega) (by omega), hsign,
    digitChars_lt hm hn]
  simp only [lt_irrefl, and_false, or_false]
  omega

/-- Three fractional digits that are zero. -/
theorem stampText_thousands {days : Int} {seconds : Nat} (hyear : FourDigitYear days)
    (hseconds : seconds < 86400) (hn : n < 10 ^ 6) :
    stampText 9 "Z" days seconds (n * 1000) = stampText 6 "000Z" days seconds n := by
  have hzeros : digitChars 9 (n * 1000) = digitChars 6 n ++ ['0', '0', '0'] :=
    digitChars_append_zeros 6 n 3
  apply String.toList_injective
  rw [toList_stampText "Z" hyear hseconds (by omega),
    toList_stampText "000Z" hyear hseconds (by omega), hzeros, List.append_assoc]
  rfl

end CivilTime
