import LimnoPulse.Alerts.Rule
import LimnoPulse.Library.TimestampOrder
import LimnoPulse.Notifications.Model
import Mathlib.Order.Bounds.Basic

/-!
# Evaluation slots in both programs

The evaluator and the API both compute the slot at which a rule is next due, the
evaluator from the first day of year 1, the API from the Unix epoch and up to year 9999.
Both write instants as texts of a fixed width and let the store compare them.

Main results:

- Theorem `Evaluator.nextCompleteSlot_spec`: one slot lies in the minute from an instant on.
- Theorem `completeSlots_agree`: the programs agree on every slot that the API can hold.
- Theorem `fixed_timestamps_ordered`: the order of the texts is the order of time.
-/

namespace LimnoPulse.Alerts

open CivilTime

/-! ## The evaluator -/

namespace Evaluator

/-- Nanoseconds from year 1 to the Unix epoch. -/
def unixToInternal : Int := 62135596800 * second

/-- `Time.Truncate`: the last multiple since year 1. -/
def truncate (value d : Int) : Int :=
  if d ≤ 0 then value else value - (value + unixToInternal) % d

/-- `LatestCompleteSlot`. -/
def latestCompleteSlot (evaluationTime cadence allowedLateness : Int) : Int :=
  truncate evaluationTime cadence - allowedLateness

/-- `NextCompleteSlot`. -/
def nextCompleteSlot (value cadence allowedLateness : Int) : Int :=
  let shifted := value + allowedLateness
  let boundary := truncate shifted cadence
  (if boundary ≠ shifted then boundary + cadence else boundary) - allowedLateness

/-- Minutes are the same from both zero points. -/
theorem truncate_minute (value : Int) : truncate value minute = value - value % minute := by
  have hpos : ¬ minute ≤ 0 := by decide
  have hwhole : unixToInternal = minute * 1035593280 := by decide
  rw [truncate, if_neg hpos, hwhole, Int.add_mul_emod_self_left]

variable (value allowedLateness : Int)

/-- The one slot in the minute from an instant on. -/
theorem nextCompleteSlot_spec :
    value ≤ nextCompleteSlot value minute allowedLateness ∧
      nextCompleteSlot value minute allowedLateness < value + minute ∧
      minute ∣ nextCompleteSlot value minute allowedLateness + allowedLateness := by
  rw [nextCompleteSlot, truncate_minute]
  simp only [minute, second]
  split_ifs <;> omega

/-- The next slot is the first one. -/
theorem nextCompleteSlot_isLeast :
    IsLeast {s | value ≤ s ∧ minute ∣ s + allowedLateness}
      (nextCompleteSlot value minute allowedLateness) := by
  obtain ⟨hle, hlt, hslot⟩ := nextCompleteSlot_spec value allowedLateness
  refine ⟨⟨hle, hslot⟩, ?_⟩
  rintro s ⟨hs, hs'⟩
  generalize nextCompleteSlot value minute allowedLateness = next at hlt hslot ⊢
  simp only [minute, second] at hslot hs' hlt
  omega

/-- The latest slot is the last one. -/
theorem latestCompleteSlot_isGreatest :
    IsGreatest {s | minute ∣ s + allowedLateness ∧ s + allowedLateness ≤ value}
      (latestCompleteSlot value minute allowedLateness) := by
  rw [latestCompleteSlot, truncate_minute]
  refine ⟨⟨?_, ?_⟩, ?_⟩
  · simp only [minute, second]
    omega
  · simp only [minute, second]
    omega
  · rintro s ⟨hslot, hs⟩
    simp only [minute, second] at hslot ⊢
    omega

end Evaluator

/-- The end of year 9999, in seconds since the epoch. -/
def endOfDates : Int := 253402300800

/-- `datetime.fromtimestamp`, for years from 1 to 9999. -/
def fromTimestamp (seconds : Int) : Option Int :=
  if -62135596800 ≤ seconds ∧ seconds < endOfDates then some (seconds * second) else none

/-- `next_complete_slot` with both of its options. -/
def nextCompleteSlotWith (value cadence allowedLateness : Int) : Option Int :=
  let cadenceSeconds := cadence.tdiv second
  let latenessSeconds := allowedLateness.tdiv second
  let shifted := value.tdiv second + latenessSeconds
  let boundary := (shifted + cadenceSeconds - 1) / cadenceSeconds * cadenceSeconds
  fromTimestamp (boundary - latenessSeconds)

/-- For whole seconds from 1970 on both programs give the first slot that is not in the past, as
long as it lies before the year 10000, where the API fails.  The latest complete slot is the last
one whose lateness has passed, and with some lateness it comes before the next one. -/
theorem completeSlots_agree (value allowedLateness : Int) (hvalue : 0 ≤ value)
    (hwhole : second ∣ value) (hlateness : 0 ≤ allowedLateness) (hseconds : second ∣ allowedLateness) :
    IsLeast {s | value ≤ s ∧ minute ∣ s + allowedLateness}
        (Evaluator.nextCompleteSlot value minute allowedLateness) ∧
      nextCompleteSlotWith value minute allowedLateness =
        (if Evaluator.nextCompleteSlot value minute allowedLateness < endOfDates * second then
          some (Evaluator.nextCompleteSlot value minute allowedLateness) else none) ∧
      IsGreatest {s | minute ∣ s + allowedLateness ∧ s + allowedLateness ≤ value}
        (Evaluator.latestCompleteSlot value minute allowedLateness) ∧
      (0 < allowedLateness → Evaluator.latestCompleteSlot value minute allowedLateness <
        Evaluator.nextCompleteSlot value minute allowedLateness) := by
  refine ⟨Evaluator.nextCompleteSlot_isLeast _ _, ?_, Evaluator.latestCompleteSlot_isGreatest _ _, ?_⟩
  · obtain ⟨hle, hlt, hslot⟩ := Evaluator.nextCompleteSlot_spec value allowedLateness
    generalize Evaluator.nextCompleteSlot value minute allowedLateness = next at hle hlt hslot ⊢
    obtain ⟨t, rfl⟩ := hwhole
    obtain ⟨l, rfl⟩ := hseconds
    have hsecond : second ≠ 0 := by decide
    -- The API's slot lies in the same minute.
    have hsame : next = ((t + l + 60 - 1) / 60 * 60 - l) * second := by
      simp only [minute, second] at hle hlt hslot ⊢
      omega
    have hcadence : minute.tdiv second = 60 := by decide
    simp only [nextCompleteSlotWith, Int.mul_tdiv_cancel_left _ hsecond, hcadence, fromTimestamp,
      hsame]
    simp only [second, endOfDates] at hvalue ⊢
    refine if_congr ?_ rfl rfl
    omega
  · intro hpos
    have hbefore := (Evaluator.latestCompleteSlot_isGreatest value allowedLateness).1.2
    have hafter := (Evaluator.nextCompleteSlot_spec value allowedLateness).1
    omega

/-- The slot after the first minute of 1970, with the default lateness. -/
theorem completeSlots_agree_first :
    nextCompleteSlotWith (61 * second) minute (15 * second) = some (105 * second) ∧
      Evaluator.nextCompleteSlot (61 * second) minute (15 * second) = 105 * second ∧
      Evaluator.latestCompleteSlot (61 * second) minute (15 * second) <
        Evaluator.nextCompleteSlot (61 * second) minute (15 * second) :=
  ⟨by decide, by decide,
    (completeSlots_agree (61 * second) (15 * second) (by decide) (by decide) (by decide)
      (by decide)).2.2.2 (by decide)⟩

/-- In the last second of year 9999 the evaluator gives a slot and the API fails. -/
theorem completeSlots_past_dates :
    nextCompleteSlotWith ((endOfDates - 1) * second) minute (15 * second) = none ∧
      Evaluator.nextCompleteSlot ((endOfDates - 1) * second) minute (15 * second) =
        (endOfDates + 45) * second := by
  decide

/-! ## Timestamps -/

/-- `FixedUTCTimestamp`. -/
def Evaluator.fixedUTCTimestamp (value : Instant) : String := nanosecondText value

/-- An aware datetime, in microseconds since the epoch. -/
abbrev Datetime := Int

namespace Datetime

/-- Microseconds in a day. -/
def day : Int := 86400000000

/-- The UTC text with six digits for microseconds. -/
def text (ending : String) (value : Datetime) : String :=
  let ofDay := (value % day).toNat
  stampText 6 ending (value / day) (ofDay / 1000000) (ofDay % 1000000)

/-- `fixed_utc_timestamp`. -/
def fixedUtcTimestamp (value : Datetime) : String := text "000Z" value

end Datetime

/-- `format_utc_timestamp`; a naive datetime is no instant. -/
def formatUtcTimestamp : Option Datetime → Except String String
  | none => .error "timestamp must be timezone-aware"
  | some value => .ok (Datetime.text "Z" value)

section Timestamps

variable {a b : Int}

/-- The text of an instant. -/
theorem nanosecondText_eq (value : Instant) : nanosecondText value =
    stampText 9 "Z" (value / day) ((value % day).toNat / 1000000000)
      ((value % day).toNat % 1000000000) :=
  rfl

/-- Nanosecond texts are ordered by time. -/
theorem nanosecondText_lt (ha : FourDigitYear (a / day)) (hb : FourDigitYear (b / day)) :
    nanosecondText a < nanosecondText b ↔ a < b := by
  rw [nanosecondText_eq, nanosecondText_eq]
  refine (stampText_lt ha hb ?_ ?_ ?_ ?_).trans ?_
  all_goals
    simp only [day, second]
    omega

theorem Datetime.text_lt (ending : String) (ha : FourDigitYear (a / Datetime.day))
    (hb : FourDigitYear (b / Datetime.day)) : text ending a < text ending b ↔ a < b := by
  refine (stampText_lt ha hb ?_ ?_ ?_ ?_).trans ?_
  all_goals
    simp only [Datetime.day]
    omega

/-- Whole microseconds have one text in both programs. -/
theorem nanosecondText_datetime (ha : FourDigitYear (a / Datetime.day)) :
    nanosecondText (1000 * a) = Datetime.fixedUtcTimestamp a := by
  obtain ⟨n, hn⟩ : ∃ n, n = (a % Datetime.day).toNat := ⟨_, rfl⟩
  have hdays : 1000 * a / day = a / Datetime.day := by
    simp only [day, second, Datetime.day]
    omega
  have hnanos : (1000 * a % day).toNat = 1000 * n ∧ n < 86400000000 := by
    simp only [day, second, Datetime.day] at hn ⊢
    omega
  rw [nanosecondText_eq, hdays, hnanos.1, show 1000 * n / 1000000000 = n / 1000000 by omega,
    show 1000 * n % 1000000000 = n % 1000000 * 1000 by omega,
    stampText_thousands ha (by omega) (by omega), hn]
  rfl

end Timestamps

/-- For years of four digits the order of the texts is the order of time, in nanoseconds for Go and
in microseconds for Python, and both write the same text. -/
theorem fixed_timestamps_ordered :
    (∀ a b : Instant, FourDigitYear (a / day) → FourDigitYear (b / day) →
      (Evaluator.fixedUTCTimestamp a < Evaluator.fixedUTCTimestamp b ↔ a < b) ∧
      (Notifications.fixedUTCTimestamp a < Notifications.fixedUTCTimestamp b ↔ a < b)) ∧
    ∀ a b : Datetime, FourDigitYear (a / Datetime.day) → FourDigitYear (b / Datetime.day) →
      (Datetime.fixedUtcTimestamp a < Datetime.fixedUtcTimestamp b ↔ a < b) ∧
      (∃ x y, formatUtcTimestamp (some a) = .ok x ∧ formatUtcTimestamp (some b) = .ok y ∧
        (x < y ↔ a < b)) ∧
      Evaluator.fixedUTCTimestamp (1000 * a) = Datetime.fixedUtcTimestamp a := by
  refine ⟨fun a b ha hb => ⟨nanosecondText_lt ha hb, nanosecondText_lt ha hb⟩, fun a b ha hb => ?_⟩
  exact ⟨Datetime.text_lt _ ha hb, ⟨_, _, rfl, rfl, Datetime.text_lt _ ha hb⟩,
    nanosecondText_datetime ha⟩

/-- The last second of the first day and the first of the next. -/
theorem fixed_timestamps_ordered_next_day :
    Evaluator.fixedUTCTimestamp (86399 * second) < Evaluator.fixedUTCTimestamp (86400 * second) ∧
      Datetime.fixedUtcTimestamp 1 < Datetime.fixedUtcTimestamp 2 :=
  ⟨(fixed_timestamps_ordered.1 _ _ ⟨by decide, by decide⟩ ⟨by decide, by decide⟩).1.mpr (by decide),
    (fixed_timestamps_ordered.2 1 2 ⟨by decide, by decide⟩ ⟨by decide, by decide⟩).1.mpr (by decide)⟩

end LimnoPulse.Alerts
