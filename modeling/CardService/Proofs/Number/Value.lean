import CardService.Json.Basic
import CardService.Proofs.Number.Rounding
import Mathlib.Algebra.Order.Ring.Rat
import Mathlib.Tactic.NormNum

/-!
# CardService — the values of numbers

A double is kept as its sign and its rank, and is compared by its units. Here its value is told as its
format tells it, by an exponent and a fraction, and it is found to be that many units. So every number of
JSON has a rational value, in whichever way it is represented.

Main results:

* `Binary64.units_eq` — the units of a double are its value in units.
* `Binary64.whole?_eq_some_iff` — a double counts as whole just if its value is a whole number, and then
  it counts as that number.
* `Binary64.negative_eq_decide` — of a whole double only the zero may have a sign of its own.
-/

namespace CardService

namespace Binary64

/-! ## Doubles -/

/-- The exponent of a double, biased by 1023. -/
def exponent (x : Binary64) : Nat := x.rank / binadeSize

/-- The fraction of a double, without the point in front of it. -/
def fraction (x : Binary64) : Nat := x.rank % binadeSize

/-- The size of a double: a one stands in front of the fraction, unless the exponent is the least. -/
def sizeValue (x : Binary64) : ℚ :=
  if x.exponent = 0 then x.fraction / 2 ^ 52 * (2 : ℚ) ^ (-1022 : ℤ)
  else (1 + x.fraction / 2 ^ 52) * (2 : ℚ) ^ ((x.exponent : ℤ) - 1023)

/-- The value of a double. -/
def value (x : Binary64) : ℚ := if x.negative then -x.sizeValue else x.sizeValue

theorem rank_eq (x : Binary64) : x.exponent * binadeSize + x.fraction = x.rank :=
  Nat.div_add_mod' _ _

theorem magnitude_eq (x : Binary64) :
    x.magnitude =
      if x.exponent = 0 then x.fraction
      else (binadeSize + x.fraction) * 2 ^ (x.exponent - 1) := by
  have hrank := x.rank_eq
  show (x.rank - (x.exponent - 1) * binadeSize) * 2 ^ (x.exponent - 1) = _
  split
  next hleast =>
    rw [hleast] at hrank ⊢
    rw [Nat.pow_zero]
    omega
  next hexponent =>
    -- the steps of the lowest two exponents are the same, so binades are counted from the second
    obtain ⟨binade, hbinade⟩ := Nat.exists_eq_succ_of_ne_zero hexponent
    rw [hbinade, Nat.succ_mul] at hrank
    rw [hbinade, Nat.succ_sub_one]
    congr 1
    omega

theorem two_zpow_mul_unitsPerOne (k : ℤ) :
    (2 : ℚ) ^ k * (unitsPerOne : ℚ) = 2 ^ (k + (unitExponent : ℤ)) := by
  have hunits : (unitsPerOne : ℚ) = 2 ^ unitExponent := by
    unfold unitsPerOne
    generalize unitExponent = e
    exact Nat.cast_pow 2 e
  rw [hunits, zpow_add₀ two_ne_zero, zpow_natCast]

theorem magnitude_eq_sizeValue (x : Binary64) :
    (x.magnitude : ℚ) = x.sizeValue * (unitsPerOne : ℚ) := by
  rw [magnitude_eq, sizeValue]
  split
  next hleast =>
    rw [mul_assoc, two_zpow_mul_unitsPerOne]
    have hunit : (-1022 : ℤ) + (unitExponent : ℤ) = (52 : ℕ) := rfl
    rw [hunit, zpow_natCast, div_mul_cancel₀ _ (pow_ne_zero 52 two_ne_zero)]
  next hexponent =>
    rw [mul_assoc, two_zpow_mul_unitsPerOne]
    obtain ⟨binade, hbinade⟩ := Nat.exists_eq_succ_of_ne_zero hexponent
    have hunit : (x.exponent : ℤ) - 1023 + (unitExponent : ℤ) = (52 + binade : ℕ) := by
      have : unitExponent = 1074 := rfl
      omega
    have hsteps : (1 + (x.fraction : ℚ) / 2 ^ 52) * 2 ^ 52 = (binadeSize + x.fraction : ℕ) := by
      rw [add_mul, div_mul_cancel₀ _ (pow_ne_zero 52 two_ne_zero), Nat.cast_add]
      norm_num [binadeSize]
    rw [hunit, hbinade, Nat.succ_sub_one, zpow_natCast, pow_add, ← mul_assoc, hsteps]
    rw [Nat.cast_mul, Nat.cast_pow, Nat.cast_ofNat]

theorem units_eq (x : Binary64) : (x.units : ℚ) = x.value * (unitsPerOne : ℚ) := by
  rw [units, value]
  split
  · rw [Int.cast_neg, Int.cast_natCast, magnitude_eq_sizeValue, neg_mul]
  · rw [Int.cast_natCast, magnitude_eq_sizeValue]

/-- A double is a whole number if it has that many times the units of one. -/
theorem value_eq_intCast_iff {x : Binary64} {n : ℤ} :
    x.value = n ↔ x.units = n * (unitsPerOne : ℤ) := by
  have hone : (unitsPerOne : ℚ) ≠ 0 := Nat.cast_ne_zero.mpr (Nat.ne_of_gt unitsPerOne_pos)
  rw [← mul_left_inj' hone, ← units_eq]
  exact_mod_cast Iff.rfl

/-- The zero with a minus sign. -/
def negativeZero : Binary64 := { zero with negative := true }

/-- Two doubles have no size, one of each sign. -/
theorem rank_eq_zero_of_magnitude {x : Binary64} (h : x.magnitude = 0) : x.rank = 0 := by
  rw [magnitude_eq] at h
  split at h
  next hleast => rw [← rank_eq, hleast, h, Nat.zero_mul]
  next =>
    -- with a one in front of the fraction there is some size
    have hone : 0 < binadeSize + x.fraction := Nat.add_pos_left (by decide) _
    exact absurd h (Nat.ne_of_gt (Nat.mul_pos hone (Nat.two_pow_pos _)))

/-- The sign of a whole double is that of the number, but for the one zero. -/
theorem negative_eq_decide {x : Binary64} {n : ℤ} (hvalue : x.value = n) (hzero : x ≠ negativeZero) :
    x.negative = decide (n < 0) := by
  have hunits : x.units = n * (unitsPerOne : ℤ) := value_eq_intCast_iff.mp hvalue
  have hone : (0 : ℤ) < unitsPerOne := Int.natCast_pos.mpr unitsPerOne_pos
  cases hsign : x.negative with
  | false =>
    rw [units, hsign, if_neg Bool.false_ne_true] at hunits
    have hnonneg : 0 ≤ n := Int.nonneg_of_mul_nonneg_left (hunits ▸ Int.natCast_nonneg _) hone
    exact (decide_eq_false (Int.not_lt.mpr hnonneg)).symm
  | true =>
    rw [units, hsign, if_pos rfl] at hunits
    have hnegative : n < 0 := by
      by_contra hnonneg
      have hproduct : 0 ≤ n * (unitsPerOne : ℤ) :=
        Int.mul_nonneg (Int.not_lt.mp hnonneg) (Int.le_of_lt hone)
      -- there is no size to take the sign, and then the double is the zero that is left out
      have hrank : x.rank = 0 := rank_eq_zero_of_magnitude (by omega)
      obtain ⟨negative, rank, hlt⟩ := x
      obtain rfl : negative = true := hsign
      obtain rfl : rank = 0 := hrank
      exact hzero rfl
    exact (decide_eq_true hnegative).symm

theorem whole?_eq_some_iff {x : Binary64} {n : ℤ} : x.whole? = some n ↔ x.value = n := by
  have hone : (unitsPerOne : ℤ) ≠ 0 := Int.natCast_ne_zero.mpr (Nat.ne_of_gt unitsPerOne_pos)
  have hdvd : unitsPerOne ∣ x.magnitude ↔ (unitsPerOne : ℤ) ∣ x.units := by
    rw [units]
    split
    · rw [Int.dvd_neg, Int.natCast_dvd_natCast]
    · rw [Int.natCast_dvd_natCast]
  rw [value_eq_intCast_iff, whole?]
  split
  next hmod =>
    have hunits := hdvd.mp (Nat.dvd_of_mod_eq_zero hmod)
    rw [Option.some.injEq]
    exact Int.ediv_eq_iff_eq_mul_left hone hunits
  next hmod =>
    refine iff_of_false (Option.some_ne_none n ∘ Eq.symm) fun hunits => hmod ?_
    exact Nat.mod_eq_zero_of_dvd (hdvd.mpr (hunits ▸ Int.dvd_mul_left _ _))

end Binary64

/-! ## Numbers of JSON -/

namespace Number

/-- The value of a number, whichever way it is represented. -/
def value : Number → ℚ
  | .whole n _ => n
  | .float x => x.value

end Number

end CardService
