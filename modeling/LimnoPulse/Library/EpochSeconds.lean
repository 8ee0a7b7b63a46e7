import Mathlib.Algebra.Order.Group.Nat
import Mathlib.Data.Nat.Log
import Mathlib.Data.Int.Basic
import Mathlib.Tactic.Linarith

/-!
# Seconds since the epoch as doubles

An instant is a number of microseconds since the epoch.  Its timestamp is the number
of seconds, correctly rounded to a double, and whole seconds are taken from the
double.  Up to `2^34` seconds two neighbouring doubles are less than two
microseconds apart, so that rounding does not cross a whole second.

Main results:

- Theorem `whole_timestamp`: below that bound the whole seconds of the double
  are those of the instant.
- Theorem `le_of_ceil_le_toInt`: a second rounded up that has passed, in whole
  seconds, has passed.
-/

namespace EpochSeconds

/-- The integer nearest to a quotient; a tie goes to the even one. -/
def nearest (n d : Nat) : Nat :=
  if 2 * (n % d) < d || (2 * (n % d) = d && n / d % 2 = 0) then n / d else n / d + 1

/-- The nearest integer is within a half. -/
theorem nearest_bounds (n : Nat) {d : Nat} (hd : 0 < d) :
    2 * n ≤ 2 * (d * nearest n d) + d ∧ 2 * (d * nearest n d) ≤ 2 * n + d := by
  have hdiv := Nat.div_add_mod n d
  have hmod := Nat.mod_lt n hd
  unfold nearest
  split
  next h =>
    simp only [Bool.or_eq_true, decide_eq_true_eq, Bool.and_eq_true] at h
    omega
  next h =>
    simp only [Bool.or_eq_true, decide_eq_true_eq, Bool.and_eq_true] at h
    rw [Nat.mul_add, Nat.mul_one]
    omega

/-- A nonnegative double: a significand of 53 bits over a power of two. -/
structure Double where
  (significand scale : Nat)

/-- Microseconds in a second. -/
def microsecondsPerSecond : Nat := 1000000

/-- The double nearest to microseconds, in seconds; the leading bit decides its scale. -/
def ofMicroseconds (t : Nat) : Double :=
  let scale := 72 - Nat.log2 (t * 2 ^ 20 / microsecondsPerSecond)
  ⟨nearest (t * 2 ^ scale) microsecondsPerSecond, scale⟩

namespace Double

/-- A double, rounded down. -/
def floor (x : Double) : Nat := x.significand / 2 ^ x.scale

/-- A double, rounded up. -/
def ceil (x : Double) : Nat := (x.significand + (2 ^ x.scale - 1)) / 2 ^ x.scale

end Double

/-- `int(timestamp())`: toward zero. -/
def toInt (t : Int) : Int :=
  if 0 ≤ t then (ofMicroseconds t.toNat).floor else -(ofMicroseconds (-t).toNat).floor

/-- `math.ceil(timestamp())`. -/
def ceil (t : Int) : Int :=
  if 0 ≤ t then (ofMicroseconds t.toNat).ceil else -(ofMicroseconds (-t).toNat).floor

/-- Instants from the epoch on whose doubles are finer than two microseconds. -/
def isFine (t : Int) : Bool := decide (0 ≤ t) && decide (t < 2 ^ 34 * 1000000)

section

variable {t : Nat} (h : t < 2 ^ 34 * microsecondsPerSecond)
include h

/-- A fine instant has 19 bits below the point. -/
theorem scale_of_fine :
    19 ≤ (ofMicroseconds t).scale := by
  have hlt : t * 2 ^ 20 / microsecondsPerSecond < 2 ^ 54 := by
    unfold microsecondsPerSecond at h ⊢
    omega
  have hlog : Nat.log2 (t * 2 ^ 20 / microsecondsPerSecond) < 54 := by
    by_cases hzero : t * 2 ^ 20 / microsecondsPerSecond = 0
    · rw [hzero]
      decide
    · exact (Nat.log2_lt hzero).mpr hlt
  simp only [ofMicroseconds]
  omega

/-- The significand of a fine instant is whole only if the instant is. -/
theorem significand_bounds :
    let x := ofMicroseconds t
    (t % microsecondsPerSecond = 0 → x.significand = t / microsecondsPerSecond * 2 ^ x.scale) ∧
    (t % microsecondsPerSecond ≠ 0 →
      t / microsecondsPerSecond * 2 ^ x.scale < x.significand ∧
        x.significand < (t / microsecondsPerSecond + 1) * 2 ^ x.scale) := by
  intro x
  have hscale := scale_of_fine h
  have hpow : 2 ^ 19 ≤ 2 ^ x.scale := Nat.pow_le_pow_right (by decide) hscale
  have hbounds := nearest_bounds (t * 2 ^ x.scale) (show 0 < microsecondsPerSecond by decide)
  have hx : x.significand = nearest (t * 2 ^ x.scale) microsecondsPerSecond := rfl
  rw [← hx] at hbounds
  have hdiv := Nat.div_add_mod t microsecondsPerSecond
  have hmod := Nat.mod_lt t (show 0 < microsecondsPerSecond by decide)
  generalize t / microsecondsPerSecond = q at hdiv ⊢
  generalize t % microsecondsPerSecond = r at hdiv hmod ⊢
  generalize x.significand = m at hbounds ⊢
  generalize 2 ^ x.scale = p at hpow hbounds ⊢
  subst hdiv
  unfold microsecondsPerSecond at hbounds hmod
  have hexpand : (1000000 * q + r) * p = 1000000 * (q * p) + r * p := by
    rw [Nat.add_mul, Nat.mul_assoc]
  rw [hexpand] at hbounds
  refine ⟨?_, ?_⟩
  · rintro rfl
    omega
  · intro hr
    have hlow : 524288 ≤ r * p := by nlinarith [Nat.pos_of_ne_zero hr]
    have hhigh : r * p + 524288 ≤ 1000000 * p := by nlinarith
    rw [Nat.add_mul, Nat.one_mul]
    omega

/-- The whole seconds of a fine instant. -/
theorem whole_timestamp :
    (ofMicroseconds t).floor = t / microsecondsPerSecond ∧
      (ofMicroseconds t).ceil = (t + (microsecondsPerSecond - 1)) / microsecondsPerSecond := by
  obtain ⟨hwhole, hpart⟩ := significand_bounds h
  have hpos : 0 < 2 ^ (ofMicroseconds t).scale := Nat.two_pow_pos _
  unfold Double.floor Double.ceil
  have hdiv := Nat.div_add_mod t microsecondsPerSecond
  have hmod := Nat.mod_lt t (show 0 < microsecondsPerSecond by decide)
  by_cases hr : t % microsecondsPerSecond = 0
  · have hm := hwhole hr
    have hup : (t + (microsecondsPerSecond - 1)) / microsecondsPerSecond =
        t / microsecondsPerSecond := by
      unfold microsecondsPerSecond at hr ⊢
      omega
    rw [hm, hup]
    refine ⟨Nat.mul_div_cancel _ hpos, ?_⟩
    refine Nat.div_eq_of_lt_le (by omega) ?_
    rw [Nat.succ_mul]
    omega
  · obtain ⟨hlow, hhigh⟩ := hpart hr
    have hup : (t + (microsecondsPerSecond - 1)) / microsecondsPerSecond =
        t / microsecondsPerSecond + 1 := by
      unfold microsecondsPerSecond at hr ⊢
      omega
    rw [hup]
    refine ⟨Nat.div_eq_of_lt_le hlow.le hhigh, Nat.div_eq_of_lt_le ?_ ?_⟩
    · rw [Nat.succ_mul]
      omega
    · rw [Nat.succ_mul]
      rw [Nat.succ_mul] at hhigh ⊢
      omega

end

/-- A fine instant does not lie after its second rounded up. -/
theorem le_ceil {t : Int} (h : isFine t = true) : t ≤ ceil t * 1000000 := by
  simp only [isFine, Bool.and_eq_true, decide_eq_true_eq] at h
  have ht : t.toNat < 2 ^ 34 * microsecondsPerSecond := by
    unfold microsecondsPerSecond
    omega
  rw [ceil, if_pos h.1, (whole_timestamp ht).2]
  unfold microsecondsPerSecond
  omega

/-- A deadline whose rounded-up second is reached has passed. -/
theorem le_of_ceil_le_toInt {deadline now : Int} (hdeadline : isFine deadline = true)
    (hnow : isFine now = true) (h : ceil deadline ≤ toInt now) : deadline ≤ now := by
  simp only [isFine, Bool.and_eq_true, decide_eq_true_eq] at hdeadline hnow
  have hd : deadline.toNat < 2 ^ 34 * microsecondsPerSecond := by
    unfold microsecondsPerSecond
    omega
  have hn : now.toNat < 2 ^ 34 * microsecondsPerSecond := by
    unfold microsecondsPerSecond
    omega
  rw [ceil, if_pos hdeadline.1, toInt, if_pos hnow.1, (whole_timestamp hd).2,
    (whole_timestamp hn).1] at h
  unfold microsecondsPerSecond at h
  omega

end EpochSeconds
