import CardService.Proofs.Backend.Field
import CardService.Proofs.Number.Order
import CardService.Proofs.Timestamp.WholeMilliseconds

/-!
# CardService — instants in order

Milliseconds become an instant by two roundings of their size (`nanosOf`), and then the instant must
be in range. Each of these steps keeps the order, so later milliseconds are no earlier instant, and
what lies between milliseconds that have an instant has one as well.

Main result: `instants_ordered`.
-/

namespace CardService.Timestamp

open Binary64 (halfEven unitsAt nearestRank signed)

variable {a b : Double} {t u : Timestamp}

/-! ## Two roundings -/

/-- The nanoseconds nearest to so many units of milliseconds, by way of seconds. -/
def nanosOf (size : Nat) : Nat :=
  halfEven (unitsAt (nearestRank size 1000) * nanosPerSecond) unitsPerOne

theorem nanosOf_mono (size size' : Nat) (h : size ≤ size') : nanosOf size ≤ nanosOf size' := by
  have hseconds := @Binary64.unitsAt_nearestRank_mono size size' 1000 (by decide) h
  exact Binary64.halfEven_mono _ (Nat.mul_le_mul_right nanosPerSecond hseconds)

theorem nanosOf_zero : nanosOf 0 = 0 := by
  have hseconds := @Binary64.unitsAt_nearestRank_zero 1000 (by decide)
  rw [nanosOf, hseconds, Nat.zero_mul, Binary64.halfEven_zero Binary64.unitsPerOne_pos]

/-- The conversion of a finite double: its size is rounded twice, and the range is checked. -/
theorem ofEpochMs?_finite (x : Binary64) :
    ofEpochMs? (.finite x) = ofNanos? (signed x.negative (nanosOf x.magnitude)) := by
  have hquotient := @Double.divWhole_eq x 1000 (by decide)
  rw [ofEpochMs?_eq hquotient]
  simp only [nanosOfSeconds, signed, nanosOf, Binary64.magnitude]

theorem ofNanos?_eq_some_iff {nanos : Int} : ofNanos? nanos = some t ↔ t.nanos = nanos := by
  unfold ofNanos?
  constructor
  · intro h
    split at h
    · cases h
      rfl
    · cases h
  · rintro rfl
    rw [dif_pos t.inRange]

/-! ## The order -/

/-- Only finite doubles are instants. -/
theorem finite_of_ofEpochMs? (h : ofEpochMs? a = some t) :
    ∃ x, a = .finite x ∧ t.nanos = signed x.negative (nanosOf x.magnitude) := by
  cases a with
  | finite x =>
    rw [ofEpochMs?_finite, ofNanos?_eq_some_iff] at h
    exact ⟨x, rfl, h⟩
  | infinite negative => cases h
  | notANumber => cases h

theorem nanos_mono {x y : Binary64} (h : x.units ≤ y.units) :
    signed x.negative (nanosOf x.magnitude) ≤ signed y.negative (nanosOf y.magnitude) :=
  Binary64.signed_mono nanosOf_zero nanosOf_mono h

/-- What lies between two doubles that are instants is an instant between theirs. -/
theorem ofEpochMs?_between {c : Double} (ha : ofEpochMs? a = some t) (hb : ofEpochMs? b = some u)
    (hac : a ≤ c) (hcb : c ≤ b) :
    ∃ v, ofEpochMs? c = some v ∧ t.nanos ≤ v.nanos ∧ v.nanos ≤ u.nanos := by
  obtain ⟨x, rfl, ht⟩ := finite_of_ofEpochMs? ha
  obtain ⟨y, rfl, hu⟩ := finite_of_ofEpochMs? hb
  obtain ⟨z, rfl, hxz, hzy⟩ := Double.finite_between hac hcb
  have hlow := nanos_mono hxz
  have hhigh := nanos_mono hzy
  rw [← ht] at hlow
  rw [← hu] at hhigh
  -- the range is an interval, and it has both ends
  have hrange : earliestNanos ≤ signed z.negative (nanosOf z.magnitude) ∧
      signed z.negative (nanosOf z.magnitude) ≤ latestNanos :=
    ⟨Int.le_trans t.inRange.1 hlow, Int.le_trans hhigh u.inRange.2⟩
  refine ⟨⟨_, hrange⟩, ?_, hlow, hhigh⟩
  rw [ofEpochMs?_finite, ofNanos?_eq hrange]

theorem nanos_le_of_le (ha : ofEpochMs? a = some t) (hb : ofEpochMs? b = some u) (hab : a ≤ b) :
    t.nanos ≤ u.nanos := by
  obtain ⟨x, rfl, ht⟩ := finite_of_ofEpochMs? ha
  obtain ⟨y, rfl, hu⟩ := finite_of_ofEpochMs? hb
  rw [ht, hu]
  exact nanos_mono hab

end CardService.Timestamp

namespace CardService.Backend

/-- The instants of doubles are in the order of the doubles, the doubles that are instants are all
those between any two of them, and neither an infinity nor what is not a number is an instant. -/
theorem instants_ordered :
    (∀ {a b : Double} {t u : Timestamp}, a ≤ b → instant a = .ok t → instant b = .ok u →
      t.nanos ≤ u.nanos ∧
      ∀ c, a ≤ c → c ≤ b → ∃ v, instant c = .ok v ∧ t.nanos ≤ v.nanos ∧ v.nanos ≤ u.nanos) ∧
    ∀ c : Double, (∀ x, c ≠ .finite x) → instant c = .error (.unexpected (.invalidEpochMs c)) := by
  refine ⟨?_, ?_⟩
  · intro a b t u hab ha hb
    rw [instant_eq_ok_iff] at ha hb
    refine ⟨Timestamp.nanos_le_of_le ha hb hab, fun c hac hcb => ?_⟩
    obtain ⟨v, hv, hlow, hhigh⟩ := Timestamp.ofEpochMs?_between ha hb hac hcb
    exact ⟨v, instant_eq_ok_iff.mpr hv, hlow, hhigh⟩
  · intro c hinfinite
    rw [instant_eq_error_iff]
    refine ⟨Option.eq_none_iff_forall_not_mem.mpr fun t ht => ?_, rfl⟩
    obtain ⟨x, hx, -⟩ := Timestamp.finite_of_ofEpochMs? ht
    exact hinfinite x hx

/-- The largest double below zero. -/
def nearlyZero : Double := .finite ⟨true, 1, by decide⟩

def negativeZero : Double := .finite { Binary64.zero with negative := true }

/-- The last second of the year 9999. -/
def lastSecond : Double := .finite (.ofInt 253402300799000 (by decide))

/-- They are instants in this order, and infinity is none. -/
theorem instants_ordered_zero :
    nearlyZero ≤ lastSecond ∧ instant nearlyZero = .ok ⟨0, by decide⟩ ∧
      instant lastSecond = .ok ⟨253402300799000000000, by decide⟩ ∧
      nearlyZero ≤ negativeZero ∧ negativeZero ≤ lastSecond ∧
      (∃ v, instant negativeZero = .ok v ∧ 0 ≤ v.nanos ∧ v.nanos ≤ 253402300799000000000) ∧
      instant (.infinite false) = .error (.unexpected (.invalidEpochMs (.infinite false))) := by
  have hends : nearlyZero ≤ lastSecond := Double.finite_le_finite_iff.mpr (by decide +kernel)
  have hlow : nearlyZero ≤ negativeZero := Double.finite_le_finite_iff.mpr (by decide +kernel)
  have hhigh : negativeZero ≤ lastSecond := Double.finite_le_finite_iff.mpr (by decide +kernel)
  have hfirst : instant nearlyZero = .ok ⟨0, by decide⟩ :=
    instant_eq_ok_iff.mpr (by decide +kernel)
  have hlast : instant lastSecond = .ok ⟨253402300799000000000, by decide⟩ :=
    instant_eq_ok_iff.mpr (by decide +kernel)
  obtain ⟨hordered, hrejected⟩ := instants_ordered
  obtain ⟨-, hbetween⟩ := hordered hends hfirst hlast
  exact ⟨hends, hfirst, hlast, hlow, hhigh, hbetween negativeZero hlow hhigh,
    hrejected (.infinite false) nofun⟩

end CardService.Backend
