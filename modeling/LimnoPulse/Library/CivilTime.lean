import Mathlib.Data.Int.Basic

/-!
# Instants and their fixed-width UTC text

An instant is a number of nanoseconds since the Unix epoch.  Its text is that of
the proleptic Gregorian calendar with every field padded to a fixed width.
-/

namespace CivilTime

/-- Nanoseconds since 1970-01-01T00:00:00Z. -/
abbrev Instant := Int

/-- Nanoseconds in a second. -/
def second : Int := 1000000000

/-- Nanoseconds in a minute. -/
def minute : Int := 60 * second

/-- Decimal digits of a number, padded with zeros on the left. -/
def padded (width n : Nat) : String :=
  let digits := Nat.toDigits 10 n
  String.ofList (List.replicate (width - digits.length) '0' ++ digits)

/-- A calendar date. -/
structure Date where
  year : Int
  (month day : Nat)
deriving DecidableEq

/-- The date of a day number, over eras of 400 years that begin in March. -/
def Date.ofDays (days : Int) : Date :=
  let z := days + 719468
  let era := z / 146097
  let dayOfEra := (z % 146097).toNat
  let yearOfEra := (dayOfEra - dayOfEra / 1460 + dayOfEra / 36524 - dayOfEra / 146096) / 365
  let dayOfYear := dayOfEra - (365 * yearOfEra + yearOfEra / 4 - yearOfEra / 100)
  let shiftedMonth := (5 * dayOfYear + 2) / 153
  let month := if shiftedMonth < 10 then shiftedMonth + 3 else shiftedMonth - 9
  { year := yearOfEra + era * 400 + if month ≤ 2 then 1 else 0
    month := month
    day := dayOfYear - (153 * shiftedMonth + 2) / 5 + 1 }

/-- The date part of an instant's text. -/
def Date.text (date : Date) : String :=
  padded 4 date.year.toNat ++ "-" ++ padded 2 date.month ++ "-" ++ padded 2 date.day

/-- The text of an instant with nine fractional digits. -/
def nanosecondText (t : Instant) : String :=
  let ofDay := (t % (86400 * second)).toNat
  let seconds := ofDay / second.toNat
  (Date.ofDays (t / (86400 * second))).text ++ "T" ++ padded 2 (seconds / 3600) ++ ":"
    ++ padded 2 (seconds / 60 % 60) ++ ":" ++ padded 2 (seconds % 60) ++ "."
    ++ padded 9 (ofDay % second.toNat) ++ "Z"

end CivilTime
