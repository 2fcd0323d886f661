import CardService.Proofs.Number.Operations
import CardService.Timestamp

/-!
# CardService — whole milliseconds

Milliseconds become an instant by way of seconds: the quotient by 1000 is rounded to a double, and
the double to nanoseconds. A double of so many seconds has a fixed number of binary places, so the
two roundings are one after the other on whole numbers (`nanosBy`), and how near the result is to
the instant asked for depends on the places alone.

Main results:

* `nanosBy_eq_iff` — the instant is met when some number of seconds with so many binary places is
  no more than half a nanosecond away from it.
* `wholeMilliseconds_converted` — whole milliseconds within the range of instants always convert,
  to the right second, and less than 31 microseconds off (`Approximates` says when exactly).
* `wholeMilliseconds_not_exact` — an instant of the year 2023 that is missed.
-/

namespace CardService.Timestamp

open Binary64 (halfEven unitsAt nearestRank binadeOf)

/-! ## Nanoseconds by way of seconds -/

/-- The nanoseconds nearest to milliseconds, by way of seconds with so many binary places. -/
def nanosBy (places n : Nat) : Nat :=
  halfEven (halfEven (n * 2 ^ places) 1000 * nanosPerSecond) (2 ^ places)

/-- Some number of seconds with so many binary places is no more than half a nanosecond away. -/
def CloseBy (places n : Nat) : Prop :=
  ∃ steps, 2 * Nat.dist (steps * nanosPerSecond) (n * 1000000 * 2 ^ places) ≤ 2 ^ places

/-- The binary places behind the point of a double of so many seconds. -/
def binaryPlaces (seconds : Nat) : Nat := 52 - seconds.log2

section Nearness

variable {places n : Nat}

theorem dist_seconds (steps places n : Nat) :
    Nat.dist (steps * nanosPerSecond) (n * 1000000 * 2 ^ places) =
      Nat.dist (steps * 1000) (n * 2 ^ places) * 1000000 := by
  have hnanos : steps * nanosPerSecond = steps * 1000 * 1000000 := by
    rw [Nat.mul_assoc]
    rfl
  rw [hnanos, Nat.mul_right_comm n, Nat.dist_mul_right]

/-- If any number of seconds is close by, the nearest one is. -/
theorem closeBy_iff_nearest :
    CloseBy places n ↔ 2 * Nat.dist (halfEven (n * 2 ^ places) 1000 * nanosPerSecond)
      (n * 1000000 * 2 ^ places) ≤ 2 ^ places := by
  have hden : 0 < 1000 := by decide
  refine ⟨?_, fun h => ⟨_, h⟩⟩
  rintro ⟨steps, hsteps⟩
  -- no number of steps is nearer to the milliseconds, so none is nearer to the nanoseconds
  have hnearest := (Binary64.isNearest_halfEven (n * 2 ^ places) hden).dist_le steps
  rw [dist_seconds] at hsteps ⊢
  exact Nat.le_trans (Nat.mul_le_mul_left 2 (Nat.mul_le_mul_right 1000000 hnearest)) hsteps

theorem nanosBy_eq_iff : nanosBy places n = n * 1000000 ↔ CloseBy places n := by
  -- a half goes to the even neighbour, which whole milliseconds are
  have heven : n * 1000000 % 2 = 0 := by omega
  rw [nanosBy, Binary64.halfEven_eq_iff (Nat.two_pow_pos places), closeBy_iff_nearest,
    Nat.dist_comm]
  exact ⟨fun h => h.near, fun h => ⟨h, fun _ => heven⟩⟩

theorem closeBy_of_eq {steps : Nat} (h : steps * 1000 = n * 2 ^ places) : CloseBy places n := by
  refine ⟨steps, ?_⟩
  rw [dist_seconds, h, Nat.dist_self]
  exact Nat.zero_le _

theorem closeBy_of_dvd (h : 1000 ∣ n) : CloseBy places n := by
  obtain ⟨seconds, rfl⟩ := h
  have heq : seconds * 2 ^ places * 1000 = 1000 * seconds * 2 ^ places := by ring
  exact closeBy_of_eq heq

/-- Thirty places are finer than a nanosecond. -/
theorem closeBy_of_le (h : 30 ≤ places) : CloseBy places n := by
  have hden : 0 < 1000 := by decide
  -- half a step is no more than half a nanosecond
  have hpow : 2 ^ 30 ≤ 2 ^ places := Nat.pow_le_pow_right (by decide) h
  have hnear := (Binary64.isNearest_halfEven (n * 2 ^ places) hden).near
  rw [closeBy_iff_nearest, dist_seconds]
  omega

/-- Up to 23 places are so coarse that only an instant that is one of the steps is met. -/
theorem closeBy_iff_dvd (hlow : 3 ≤ places) (hhigh : places ≤ 23) :
    CloseBy places n ↔ 125 ∣ n := by
  obtain ⟨k, rfl⟩ := Nat.exists_eq_add_of_le hlow
  have hpow : 2 ^ (3 + k) ≤ 2 ^ 23 := Nat.pow_le_pow_right (by decide) hhigh
  have hsplit : n * 2 ^ (3 + k) = 8 * (n * 2 ^ k) := by ring
  constructor
  · rintro ⟨steps, hsteps⟩
    rw [dist_seconds, hsplit] at hsteps
    unfold Nat.dist at hsteps
    -- both sides are multiples of eight, and they differ by less than that
    have heq : n * 2 ^ k = 125 * steps := by omega
    have hcoprime : Nat.Coprime 125 (2 ^ k) := Nat.Coprime.pow_right k (by decide)
    exact hcoprime.dvd_of_dvd_mul_right (heq ▸ Nat.dvd_mul_right 125 steps)
  · rintro ⟨j, rfl⟩
    have heq : j * 2 ^ k * 1000 = 125 * j * 2 ^ (3 + k) := by ring
    exact closeBy_of_eq heq

/-- The way by seconds leads astray by half a step of the doubles there, and half a nanosecond. -/
theorem dist_nanosBy_le (h : 14 ≤ places) : Nat.dist (nanosBy places n) (n * 1000000) ≤ 30518 := by
  have hden : 0 < 1000 := by decide
  have hpow : 2 ^ 14 ≤ 2 ^ places := Nat.pow_le_pow_right (by decide) h
  have hseconds := (Binary64.isNearest_halfEven (n * 2 ^ places) hden).near
  have hnanos := (Binary64.isNearest_halfEven
    (halfEven (n * 2 ^ places) 1000 * nanosPerSecond) (Nat.two_pow_pos places)).near
  have htriangle := Nat.dist.triangle_inequality (nanosBy places n * 2 ^ places)
    (halfEven (n * 2 ^ places) 1000 * nanosPerSecond) (n * 1000000 * 2 ^ places)
  rw [← nanosBy] at hnanos
  rw [dist_seconds, Nat.dist_mul_right] at htriangle
  -- what is left is arithmetic on three distances, two of which are bounded by half a step
  generalize Nat.dist (halfEven (n * 2 ^ places) 1000 * 1000) (n * 2 ^ places) = toSeconds at *
  generalize Nat.dist (nanosBy places n * 2 ^ places) _ = toNanos at *
  generalize Nat.dist (nanosBy places n) (n * 1000000) = whole at *
  by_contra hfar
  have hmul : 30519 * 2 ^ places ≤ whole * 2 ^ places := Nat.mul_le_mul_right _ (by omega)
  omega

end Nearness

/-! ## How many places there are -/

theorem le_binaryPlaces {seconds k : Nat} (hk : 0 < k) (hle : k ≤ 52)
    (h : seconds < 2 ^ (53 - k)) : k ≤ binaryPlaces seconds := by
  rw [binaryPlaces]
  by_cases hzero : seconds = 0
  · rw [hzero]
    exact hle
  · have hlog := (Nat.log2_lt hzero).mpr h
    omega

theorem binaryPlaces_le {seconds k : Nat} (hle : k ≤ 52) (h : 2 ^ (52 - k) ≤ seconds) :
    binaryPlaces seconds ≤ k := by
  have hzero : seconds ≠ 0 := Nat.ne_of_gt (Nat.lt_of_lt_of_le (Nat.two_pow_pos _) h)
  have hlog := (Nat.le_log2 hzero).mpr h
  rw [binaryPlaces]
  omega

/-- The seconds of so many milliseconds are a double with so many binary places, or with more if
they are less than one. -/
theorem exists_places {n : Nat} (hn : n < 0x20000000000000) : ∃ places,
    places + binadeOf (n * unitsPerOne) 1000 = unitExponent ∧
      binaryPlaces (n / 1000) ≤ places ∧
      (n / 1000 ≠ 0 → places = binaryPlaces (n / 1000)) := by
  have hden : 0 < 1000 := by decide
  have hunit : 52 ≤ unitExponent := by decide
  rw [binaryPlaces]
  by_cases hwhole : n / 1000 = 0
  · -- a fraction of a second is in a lower binade, whose steps are finer
    have hbinade := Binary64.binadeOf_wholeUnits_div_le hden hwhole
    rw [hwhole]
    exact ⟨unitExponent - binadeOf (n * unitsPerOne) 1000, by omega, by omega, by omega⟩
  · have hlog : (n / 1000).log2 < 52 := (Nat.log2_lt hwhole).mpr (by omega)
    rw [Binary64.binadeOf_wholeUnits_div hden hwhole]
    exact ⟨52 - (n / 1000).log2, by omega, by omega, fun _ => rfl⟩

/-- Below one second the places beyond the 52 of a whole second change nothing. -/
theorem closeBy_iff {n places : Nat} (hle : binaryPlaces (n / 1000) ≤ places)
    (heq : n / 1000 ≠ 0 → places = binaryPlaces (n / 1000)) :
    CloseBy places n ↔ CloseBy (binaryPlaces (n / 1000)) n := by
  by_cases hwhole : n / 1000 = 0
  · have hzero : binaryPlaces (n / 1000) = 52 := by
      rw [hwhole]
      rfl
    exact iff_of_true (closeBy_of_le (by omega)) (closeBy_of_le (by omega))
  · rw [heq hwhole]

/-! ## The conversion on whole numbers -/

/-- Rounding to a double and to nanoseconds, told without units. -/
theorem halfEven_quotient {n places : Nat}
    (h : places + binadeOf (n * unitsPerOne) 1000 = unitExponent) :
    halfEven (unitsAt (nearestRank (n * unitsPerOne) 1000) * nanosPerSecond) unitsPerOne =
      nanosBy places n := by
  have hden : 0 < 1000 := by decide
  rw [Binary64.unitsAt_nearestRank hden]
  generalize binadeOf (n * unitsPerOne) 1000 = binade at h ⊢
  -- one second is a power of two of steps, so the size of a step cancels in both roundings
  have hstep : 0 < Nat.pow 2 binade := Nat.two_pow_pos binade
  rw [Binary64.unitsPerOne_eq_mul h, ← Nat.mul_assoc, Binary64.halfEven_mul_mul _ _ hstep,
    Nat.mul_right_comm, Binary64.halfEven_mul_mul _ _ hstep]
  rfl

theorem nanosOfSeconds_eq {ms : Int} (hms : ms.natAbs < 0x20000000000000) :
    ∃ seconds places, (Double.ofInt ms).divWhole 1000 = .finite seconds ∧
      nanosOfSeconds seconds =
        (if ms < 0 then -(nanosBy places ms.natAbs : Int) else nanosBy places ms.natAbs) ∧
      binaryPlaces (ms.natAbs / 1000) ≤ places ∧
      (ms.natAbs / 1000 ≠ 0 → places = binaryPlaces (ms.natAbs / 1000)) := by
  have hfits : ms.natAbs < 0x10000000000000000 := Nat.lt_trans hms (by decide)
  obtain ⟨places, hplaces, hle, heq⟩ := exists_places hms
  have hquotient := halfEven_quotient hplaces
  -- the milliseconds are a double themselves, so the first rounding is that of the quotient
  rw [← Binary64.magnitude_ofInt_of_lt hfits hms] at hquotient
  have hfinite := @Double.divWhole_eq (Binary64.ofInt ms hfits) 1000 (by decide)
  rw [← Double.ofInt_eq hfits] at hfinite
  refine ⟨_, places, hfinite, ?_, hle, heq⟩
  simp only [nanosOfSeconds, Binary64.magnitude] at hquotient ⊢
  rw [hquotient]
  simp only [Binary64.ofInt, decide_eq_true_eq]

theorem natAbs_sub_eq_dist (ms : Int) (nanos : Nat) :
    ((if ms < 0 then -(nanos : Int) else nanos) - ms * 1000000).natAbs =
      Nat.dist nanos (ms.natAbs * 1000000) := by
  unfold Nat.dist
  split <;> omega

theorem ofEpochMs?_eq {ms : Double} {seconds : Binary64} (h : ms.divWhole 1000 = .finite seconds) :
    ofEpochMs? ms = ofNanos? (nanosOfSeconds seconds) := by
  rw [ofEpochMs?, h]

theorem ofNanos?_eq {nanos : Int} (h : earliestNanos ≤ nanos ∧ nanos ≤ latestNanos) :
    ofNanos? nanos = some ⟨nanos, h⟩ := dif_pos h

/-! ## Whole milliseconds -/

/-- What is so near to whole milliseconds, and is the same as whole seconds, has the same whole
seconds. Its millisecond is the same as well, unless it fell below. -/
theorem floor_of_near {ms nanos : Int} (hnear : (nanos - ms * 1000000).natAbs ≤ 30518)
    (hwhole : (1000 : Int) ∣ ms → nanos = ms * 1000000) :
    nanos / nanosPerSecond = ms / 1000 ∧
      (nanos / 1000000 % 1000 = ms % 1000 ↔ ms * 1000000 ≤ nanos) := by
  unfold nanosPerSecond
  by_cases hdvd : (1000 : Int) ∣ ms
  · have heq := hwhole hdvd
    constructor <;> omega
  · -- both neighbouring seconds are a millisecond away or more
    constructor <;> omega

/-- How far an instant is the one of the given milliseconds. -/
structure Approximates (t : Timestamp) (ms : Int) : Prop where
  /-- The instant is the very one if the doubles of so many seconds come close enough. -/
  exact_iff : t.nanos = ms * 1000000 ↔ CloseBy (binaryPlaces (ms.natAbs / 1000)) ms.natAbs
  /-- Within 97 days of the epoch it always is. -/
  exact_early : ms.natAbs < 2 ^ 23 * 1000 → t.nanos = ms * 1000000
  /-- More than seventeen years from the epoch it is so at every eighth of a second only. -/
  exact_late_iff : 2 ^ 29 * 1000 ≤ ms.natAbs → (t.nanos = ms * 1000000 ↔ (125 : Int) ∣ ms)
  second : t.nanos / nanosPerSecond = ms / 1000
  /-- The millisecond is the right one unless the instant comes before it. -/
  millisecond_iff : t.nanos / 1000000 % 1000 = ms % 1000 ↔ ms * 1000000 ≤ t.nanos
  near : (t.nanos - ms * 1000000).natAbs ≤ 30518

/-- Whole milliseconds within the range of instants become an instant of the same second, which
is the one asked for just if the doubles there come close enough. -/
theorem wholeMilliseconds_converted {ms : Int}
    (h : earliestNanos ≤ ms * 1000000 ∧ ms * 1000000 ≤ latestNanos) :
    ∃ t, ofEpochMs? (Double.ofInt ms) = some t ∧ t.Approximates ms := by
  have hsize : ms.natAbs < 2 ^ 39 * 1000 := by
    unfold earliestNanos latestNanos nanosPerSecond at h
    omega
  obtain ⟨seconds, places, hquotient, hnanos, hle, heq⟩ := @nanosOfSeconds_eq ms (by omega)
  have hplaces : 14 ≤ binaryPlaces (ms.natAbs / 1000) :=
    le_binaryPlaces (by decide) (by decide) (Nat.div_lt_of_lt_mul (by omega))
  have hexact : nanosOfSeconds seconds = ms * 1000000 ↔
      CloseBy (binaryPlaces (ms.natAbs / 1000)) ms.natAbs := by
    rw [← closeBy_iff hle heq, ← nanosBy_eq_iff, hnanos]
    split <;> omega
  have hnear : (nanosOfSeconds seconds - ms * 1000000).natAbs ≤ 30518 := by
    rw [hnanos, natAbs_sub_eq_dist]
    exact dist_nanosBy_le (by omega)
  have hwhole : (1000 : Int) ∣ ms → nanosOfSeconds seconds = ms * 1000000 := fun hdvd =>
    hexact.mpr (closeBy_of_dvd (by omega))
  obtain ⟨hsecond, hmillisecond⟩ := floor_of_near hnear hwhole
  -- the range begins and ends with a second, so what has the same second is within it
  have hrange : earliestNanos ≤ nanosOfSeconds seconds ∧ nanosOfSeconds seconds ≤ latestNanos := by
    unfold earliestNanos latestNanos nanosPerSecond at *
    omega
  have hconverted : ofEpochMs? (Double.ofInt ms) = some ⟨nanosOfSeconds seconds, hrange⟩ := by
    rw [ofEpochMs?_eq hquotient, ofNanos?_eq hrange]
  refine ⟨_, hconverted, hexact, fun hearly => ?early, fun hlate => ?late, hsecond, hmillisecond,
    hnear⟩
  case early =>
    have hfine : 30 ≤ binaryPlaces (ms.natAbs / 1000) :=
      le_binaryPlaces (by decide) (by decide) (Nat.div_lt_of_lt_mul (by omega))
    exact hexact.mpr (closeBy_of_le hfine)
  case late =>
    have hcoarse : binaryPlaces (ms.natAbs / 1000) ≤ 23 :=
      binaryPlaces_le (by decide) ((Nat.le_div_iff_mul_le (by decide)).mpr hlate)
    show nanosOfSeconds seconds = _ ↔ _
    rw [hexact, closeBy_iff_dvd (by omega) hcoarse, ← Int.natCast_dvd]
    rfl

/-- An instant of the year 2023 that no double of seconds comes close to keeps its second. -/
theorem wholeMilliseconds_converted_recent :
    (earliestNanos ≤ 1700000000123 * 1000000 ∧ 1700000000123 * 1000000 ≤ latestNanos) ∧
      ∃ t, ofEpochMs? (Double.ofInt 1700000000123) = some t ∧
        t.nanos / nanosPerSecond = 1700000000 ∧ t.nanos ≠ 1700000000123 * 1000000 := by
  have hrange : earliestNanos ≤ 1700000000123 * 1000000 ∧
      1700000000123 * 1000000 ≤ latestNanos := by decide
  obtain ⟨t, hconverted, happroximates⟩ := wholeMilliseconds_converted hrange
  refine ⟨hrange, t, hconverted, happroximates.second, fun heq => ?_⟩
  have hdvd := (happroximates.exact_late_iff (by decide)).mp heq
  omega

/-- It becomes an instant of the millisecond before. -/
theorem wholeMilliseconds_not_exact :
    (earliestNanos ≤ 1700000000123 * 1000000 ∧ 1700000000123 * 1000000 ≤ latestNanos) ∧
      (ofEpochMs? (Double.ofInt 1700000000123)).map nanos = some 1700000000122999907 ∧
      (1700000000122999907 : Int) ≠ 1700000000123 * 1000000 ∧
      (1700000000122999907 : Int) / 1000000 % 1000 ≠ 1700000000123 % 1000 := by
  decide +kernel

end CardService.Timestamp
