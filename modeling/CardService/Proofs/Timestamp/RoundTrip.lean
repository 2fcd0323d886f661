import CardService.Proofs.Timestamp.WholeMilliseconds

/-!
# CardService — milliseconds, there and back

An instant is told in milliseconds by way of seconds: whole seconds, a fraction that is divided, their
sum, and a product. The doubles of so many seconds are at most `2 ^ -14` seconds apart, and those of so
many milliseconds `2 ^ -4` milliseconds, so that all roundings together stay far below a millisecond.

Main results:

* `toEpochMs_near` — an instant is told in a finite number of milliseconds, less than a tenth of a
  millisecond off.
* `wholeMilliseconds_return` — whole milliseconds within the range of instants come back as the whole
  number nearest to what they are told in.
-/

namespace CardService

/-- A whole number is the one nearest to a double: all others are farther away. -/
def Binary64.NearestWhole (x : Binary64) (n : Int) : Prop :=
  ∀ m, m ≠ n → (x.units - n * unitsPerOne).natAbs < (x.units - m * unitsPerOne).natAbs

/-- What is less than half away is nearest. -/
theorem Binary64.nearestWhole_of_lt {x : Binary64} {n : Int}
    (h : 2 * (x.units - n * unitsPerOne).natAbs < unitsPerOne) : x.NearestWhole n := by
  intro m hm
  -- two whole numbers are one or more apart
  have hapart : unitsPerOne ≤ (m * (unitsPerOne : Int) - n * unitsPerOne).natAbs := by
    rw [← Int.sub_mul, Int.natAbs_mul, Int.natAbs_natCast]
    exact Nat.le_mul_of_pos_left _ (by omega)
  generalize m * (unitsPerOne : Int) = others at hapart ⊢
  omega

namespace Timestamp

/-! ## Seconds -/

/-- The doubles below `2 ^ 39` seconds are whole multiples of `2` to this power, in units. -/
def stepExponent : Nat := unitExponent - 14

theorem unitsPerOne_eq_step : unitsPerOne = 16384 * 2 ^ stepExponent := by
  have hexponent : 14 + stepExponent = unitExponent := by decide
  rw [Binary64.unitsPerOne_eq_mul hexponent]
  generalize stepExponent = e
  rfl

/-- Whole seconds are whole steps. -/
theorem mul_unitsPerOne_eq (n : Int) :
    n * (unitsPerOne : Int) = 16384 * (n * (2 ^ stepExponent : Nat)) := by
  rw [unitsPerOne_eq_step, Nat.cast_mul]
  exact Int.mul_left_comm n 16384 _

theorem two_pow_stepExponent_add (k : Nat) : 2 ^ (stepExponent + k) = 2 ^ k * 2 ^ stepExponent := by
  rw [Nat.pow_add, Nat.mul_comm]

theorem natAbs_mul_natCast_le {n : Int} {bound : Nat} (h : n.natAbs ≤ bound) (k : Nat) :
    (n * k).natAbs ≤ bound * k := by
  rw [Int.natAbs_mul, Int.natAbs_natCast]
  exact Nat.mul_le_mul_right k h

/-- The seconds from the epoch to an instant. -/
def seconds (t : Timestamp) : Double :=
  (Double.ofInt (t.nanos.tdiv nanosPerSecond)).add
    ((Double.ofInt (t.nanos.tmod nanosPerSecond)).divWhole nanosPerSecond)

theorem toEpochMs_eq (t : Timestamp) : t.toEpochMs = t.seconds.mulWhole 1000 := by
  rw [toEpochMs, seconds]

/-- The seconds of all instants have twelve digits at most. -/
theorem natAbs_nanos_le (t : Timestamp) : t.nanos.natAbs ≤ 377705116800 * nanosPerSecond := by
  have hrange := t.inRange
  unfold earliestNanos latestNanos nanosPerSecond at hrange
  unfold nanosPerSecond
  omega

theorem nanos_split (t : Timestamp) :
    t.nanos = t.nanos.tdiv nanosPerSecond * 1000000000 + t.nanos.tmod nanosPerSecond ∧
      (t.nanos.tdiv nanosPerSecond).natAbs ≤ 377705116800 ∧
      (t.nanos.tmod nanosPerSecond).natAbs < 1000000000 := by
  refine ⟨(Int.tdiv_mul_add_tmod t.nanos nanosPerSecond).symm, ?_, ?_⟩
  · rw [Int.natAbs_tdiv]
    exact Nat.div_le_of_le_mul (Nat.mul_comm _ nanosPerSecond ▸ t.natAbs_nanos_le)
  · rw [Int.natAbs_tmod]
    exact Nat.mod_lt _ (by decide)

/-- A sum of whole seconds and a fraction is off by a step at most: half of it is due to the fraction,
and half to the sum. -/
theorem sum_near {whole rest : Int} (hwhole : whole.natAbs ≤ 377705116800)
    (hrest : rest.natAbs < 1000000000) :
    ∃ sum, (Double.ofInt whole).add ((Double.ofInt rest).divWhole nanosPerSecond) = .finite sum ∧
      (sum.units * 1000000000 - (whole * 1000000000 + rest) * unitsPerOne).natAbs ≤
        1000000000 * 2 ^ stepExponent := by
  have hwholeFits : whole.natAbs < 0x10000000000000000 := by omega
  have hrestFits : rest.natAbs < 0x10000000000000000 := by omega
  have hwholeUnits := Binary64.units_ofInt_of_lt hwholeFits (by omega)
  have hrestUnits := Binary64.units_ofInt_of_lt hrestFits (by omega)
  rw [Double.ofInt_eq hwholeFits, Double.ofInt_eq hrestFits]
  generalize Binary64.ofInt whole hwholeFits = wholeDouble at hwholeUnits ⊢
  generalize Binary64.ofInt rest hrestFits = restDouble at hrestUnits ⊢
  -- from here on everything is told in steps
  have hk : stepExponent ≤ 2044 := by decide
  rw [mul_unitsPerOne_eq] at hwholeUnits hrestUnits ⊢
  have hwholeSize := natAbs_mul_natCast_le hwhole (2 ^ stepExponent)
  have hrestSize := natAbs_mul_natCast_le (Nat.le_of_lt hrest) (2 ^ stepExponent)
  rw [Int.add_mul, Int.mul_right_comm]
  have hstep := Nat.two_pow_pos stepExponent
  have hdivided := @Double.divWhole_near restDouble nanosPerSecond stepExponent (by decide) hk
  have hadded := fun fraction => @Double.add_near wholeDouble fraction stepExponent hk
  unfold Double.Near at hdivided hadded
  rw [two_pow_stepExponent_add] at hdivided hadded
  unfold nanosPerSecond at hdivided ⊢
  generalize 2 ^ stepExponent = step at *
  generalize whole * (step : Int) = wholeSteps at *
  generalize rest * (step : Int) = restSteps at *
  -- the quotient is below a second and the sum below `2 ^ 39`, so that both are rounded to steps
  obtain ⟨fraction, hfraction, hfractionNear⟩ := hdivided (by omega)
  obtain ⟨sum, hsum, hsumNear⟩ := hadded fraction (by omega)
  rw [hfraction]
  exact ⟨sum, hsum, by omega⟩

theorem seconds_near (t : Timestamp) :
    ∃ sum, t.seconds = .finite sum ∧
      (sum.units * 1000000000 - t.nanos * unitsPerOne).natAbs ≤ 1000000000 * 2 ^ stepExponent := by
  obtain ⟨hsplit, hwhole, hrest⟩ := t.nanos_split
  have hsum := sum_near hwhole hrest
  rw [← hsplit] at hsum
  exact hsum

/-! ## Milliseconds -/

/-- The milliseconds of an instant are a finite double, and less than a tenth of one off. -/
theorem toEpochMs_near (t : Timestamp) :
    ∃ x, t.toEpochMs = .finite x ∧
      (x.units * 1000000 - t.nanos * unitsPerOne).natAbs ≤ 100000 * unitsPerOne := by
  obtain ⟨sum, hsum, hsumNear⟩ := t.seconds_near
  have hsize := natAbs_mul_natCast_le t.natAbs_nanos_le unitsPerOne
  have hmultiplied := @Double.mulWhole_near sum 1000 (stepExponent + 10) (by decide)
  unfold Double.Near at hmultiplied
  rw [Nat.add_assoc, two_pow_stepExponent_add, two_pow_stepExponent_add] at hmultiplied
  have hstep := Nat.two_pow_pos stepExponent
  rw [toEpochMs_eq, hsum]
  unfold nanosPerSecond at hsize
  generalize t.nanos * (unitsPerOne : Int) = instant at *
  rw [unitsPerOne_eq_step] at *
  generalize 2 ^ stepExponent = step at *
  -- the product is below `2 ^ 49`, and a step of the doubles there is 1024 times as long
  obtain ⟨x, hx, hxNear⟩ := hmultiplied (by omega)
  exact ⟨x, hx, by omega⟩

/-! ## Whole milliseconds -/

/-- Whole milliseconds become an instant by seconds that are less than 31 microseconds off. -/
theorem nanosOfSeconds_near {ms : Int} (hms : ms.natAbs < 2 ^ 39 * 1000) :
    ∃ seconds, (Double.ofInt ms).divWhole 1000 = .finite seconds ∧
      (nanosOfSeconds seconds - ms * 1000000).natAbs ≤ 30518 := by
  obtain ⟨seconds, places, hquotient, hnanos, hle, -⟩ := @nanosOfSeconds_eq ms (by omega)
  have hplaces : 14 ≤ binaryPlaces (ms.natAbs / 1000) :=
    le_binaryPlaces (by decide) (by decide) (Nat.div_lt_of_lt_mul (by omega))
  refine ⟨seconds, hquotient, ?_⟩
  rw [hnanos, natAbs_sub_eq_dist]
  exact dist_nanosBy_le (by omega)

/-- Whole milliseconds from the beginning of the year 1 to the last second of the year 9999 become an
instant that is told in a double, and they are the whole number nearest to it. -/
theorem wholeMilliseconds_return {ms : Int} (hlow : -62135596800000 ≤ ms)
    (hhigh : ms ≤ 253402300799000) :
    ∃ t x, ofEpochMs? (Double.ofInt ms) = some t ∧ t.toEpochMs = .finite x ∧
      x.NearestWhole ms := by
  obtain ⟨seconds, hquotient, hnear⟩ := @nanosOfSeconds_near ms (by omega)
  have hrange : earliestNanos ≤ nanosOfSeconds seconds ∧ nanosOfSeconds seconds ≤ latestNanos := by
    unfold earliestNanos latestNanos nanosPerSecond
    omega
  have hconverted : ofEpochMs? (Double.ofInt ms) = some ⟨nanosOfSeconds seconds, hrange⟩ := by
    rw [ofEpochMs?_eq hquotient, ofNanos?_eq hrange]
  obtain ⟨x, hx, htold⟩ := toEpochMs_near ⟨nanosOfSeconds seconds, hrange⟩
  refine ⟨_, x, hconverted, hx, Binary64.nearestWhole_of_lt ?_⟩
  -- the way to the instant and the way back together are an eighth of a millisecond at most
  have hpos := Binary64.unitsPerOne_pos
  have hthere := natAbs_mul_natCast_le hnear unitsPerOne
  rw [Int.sub_mul, Int.mul_right_comm] at hthere
  dsimp only at htold
  generalize nanosOfSeconds seconds * (unitsPerOne : Int) = instant at hthere htold
  generalize ms * (unitsPerOne : Int) = whole at hthere ⊢
  omega

/-- The first millisecond of the year 1, and the last second of the year 9999. -/
theorem wholeMilliseconds_return_ends :
    ((-62135596800000 : Int) ≤ -62135596800000 ∧ (-62135596800000 : Int) ≤ 253402300799000 ∧
      ∃ t x, ofEpochMs? (Double.ofInt (-62135596800000)) = some t ∧ t.toEpochMs = .finite x ∧
        x.NearestWhole (-62135596800000)) ∧
    ((-62135596800000 : Int) ≤ 253402300799000 ∧ (253402300799000 : Int) ≤ 253402300799000 ∧
      ∃ t x, ofEpochMs? (Double.ofInt 253402300799000) = some t ∧ t.toEpochMs = .finite x ∧
        x.NearestWhole 253402300799000) :=
  ⟨⟨by decide, by decide, wholeMilliseconds_return (by decide) (by decide)⟩,
    ⟨by decide, by decide, wholeMilliseconds_return (by decide) (by decide)⟩⟩

end Timestamp

end CardService
