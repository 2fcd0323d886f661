import CardService.Number.Double
import Mathlib.Data.Nat.Dist
import Mathlib.Tactic.Ring

/-!
# CardService — what rounding gives

The size of a double is a whole number of steps, and the step doubles with each binade. Rounding
takes the number of steps nearest to the exact quotient, so its result is told in steps
(`unitsAt_nearestRank`), with no word about ranks.

Main results:

* `halfEven_eq_iff` — rounding gives the one whole number that is nearest to the quotient.
* `magnitude_ofInt_of_lt` — a whole number of at most 53 bits is a double exactly.
* `ofInt_units_eq_iff` — so the double nearest to a whole number is one of these only if it is that
  number.
-/

namespace CardService.Binary64

/-! ## The nearest whole number -/

/-- A whole number nearest to a quotient; of two that are as near, the even one. -/
structure IsNearest (num den q : Nat) : Prop where
  near : 2 * Nat.dist (q * den) num ≤ den
  even : 2 * Nat.dist (q * den) num = den → q % 2 = 0

theorem isNearest_halfEven (num : Nat) {den : Nat} (hden : 0 < den) :
    IsNearest num den (halfEven num den) := by
  have hsplit : num / den * den + num % den = num := Nat.div_add_mod' num den
  have hrest : num % den < den := Nat.mod_lt num hden
  unfold halfEven
  dsimp only
  split
  · constructor <;> unfold Nat.dist <;> omega
  · have hnext : (num / den + 1) * den = num / den * den + den := Nat.succ_mul _ _
    constructor <;> unfold Nat.dist <;> omega

theorem IsNearest.not_lt {num den p q : Nat} (hp : IsNearest num den p)
    (hq : IsNearest num den q) (hden : 0 < den) : ¬ p < q := by
  intro hlt
  obtain ⟨d, rfl⟩ := Nat.exists_eq_add_of_lt hlt
  have hexpand : (p + d + 1) * den = p * den + d * den + den := by ring
  obtain ⟨hpnear, hpeven⟩ := hp
  obtain ⟨hqnear, hqeven⟩ := hq
  rw [hexpand] at hqnear hqeven
  unfold Nat.dist at hpnear hpeven hqnear hqeven
  -- both are half a unit away, so they are neighbours, and one of them is odd
  have hd : d * den = 0 := by omega
  obtain rfl : d = 0 := (Nat.mul_eq_zero.mp hd).resolve_right (by omega)
  have := hpeven (by omega)
  have := hqeven (by omega)
  omega

theorem halfEven_eq_iff {num den q : Nat} (hden : 0 < den) :
    halfEven num den = q ↔ IsNearest num den q := by
  have hnearest := isNearest_halfEven num hden
  constructor
  · rintro rfl
    exact hnearest
  · intro hq
    exact Nat.le_antisymm (Nat.le_of_not_lt (hq.not_lt hnearest hden))
      (Nat.le_of_not_lt (hnearest.not_lt hq hden))

/-- No whole number is nearer. -/
theorem IsNearest.dist_le {num den q : Nat} (hq : IsNearest num den q) (p : Nat) :
    Nat.dist (q * den) num ≤ Nat.dist (p * den) num := by
  obtain ⟨hnear, -⟩ := hq
  unfold Nat.dist at hnear ⊢
  -- another whole number is a unit or more from this one, and this one at most half a unit off
  rcases Nat.lt_trichotomy p q with hlt | rfl | hlt
  · have hstep : (p + 1) * den ≤ q * den := Nat.mul_le_mul_right den hlt
    rw [Nat.succ_mul] at hstep
    omega
  · exact Nat.le_refl _
  · have hstep : (q + 1) * den ≤ p * den := Nat.mul_le_mul_right den hlt
    rw [Nat.succ_mul] at hstep
    omega

theorem halfEven_mul_mul (num den : Nat) {c : Nat} (hc : 0 < c) :
    halfEven (num * c) (den * c) = halfEven num den := by
  unfold halfEven
  dsimp only
  rw [Nat.mul_div_mul_right _ _ hc, Nat.mul_mod_mul_right, ← Nat.mul_assoc]
  simp only [Nat.mul_lt_mul_right hc, Nat.mul_left_inj (Nat.ne_of_gt hc)]

theorem div_le_halfEven (num den : Nat) : num / den ≤ halfEven num den := by
  unfold halfEven
  dsimp only
  split
  · exact Nat.le_refl _
  · exact Nat.le_succ _

/-- A quotient that is a whole number is not rounded. -/
theorem halfEven_mul (quotient : Nat) {den : Nat} (hden : 0 < den) :
    halfEven (quotient * den) den = quotient := by
  unfold halfEven
  simp only [Nat.mul_mod_left, Nat.mul_div_cancel _ hden]
  rw [if_pos (.inl (by omega))]

/-! ## Ranks and steps -/

/-- The double that lies `steps` steps of a binade above zero. In all binades but the first these
are as many steps as there are doubles in a binade, or up to twice as many. -/
theorem unitsAt_add {binade steps : Nat} (hlow : binade = 0 ∨ binadeSize ≤ steps)
    (hhigh : steps ≤ 2 * binadeSize) :
    unitsAt (binade * binadeSize + steps) = steps * Nat.pow 2 binade := by
  have hpos : 0 < binadeSize := by decide
  rcases Nat.lt_or_ge steps binadeSize with hsmall | hlarge
  · -- the numbers below the first power of two have the same step as the binade above
    obtain rfl : binade = 0 := hlow.resolve_right (Nat.not_le.mpr hsmall)
    simp [unitsAt, Nat.div_eq_of_lt hsmall]
  · rcases Nat.lt_or_ge steps (2 * binadeSize) with hbelow | habove
    · have hdiv : (binade * binadeSize + steps) / binadeSize - 1 = binade := by
        rw [Nat.mul_comm, Nat.mul_add_div hpos, Nat.div_eq_of_lt_le (k := 1) (by omega) (by omega)]
        rfl
      rw [unitsAt, hdiv, Nat.add_sub_cancel_left]
    · -- the end of a binade is the beginning of the next
      obtain rfl : steps = 2 * binadeSize := Nat.le_antisymm hhigh habove
      have hrank : binade * binadeSize + 2 * binadeSize = (binade + 2) * binadeSize := by ring
      have hdiv : (binade + 2) * binadeSize / binadeSize - 1 = binade + 1 := by
        rw [Nat.mul_div_cancel _ hpos]
        rfl
      have hsteps : (binade + 2) * binadeSize - (binade + 1) * binadeSize = binadeSize := by
        rw [← Nat.sub_mul]
        simp
      have hpow : Nat.pow 2 (binade + 1) = Nat.pow 2 binade * 2 := Nat.pow_succ 2 binade
      rw [hrank, unitsAt, hdiv, hsteps, hpow]
      ring

theorem unitsAt_lt {rank last : Nat} (h : rank < (last + 2) * binadeSize) :
    unitsAt rank < Nat.pow 2 (53 + last) := by
  have hpos : 0 < binadeSize := by decide
  have hlast : rank / binadeSize - 1 ≤ last := by
    have hdiv : rank / binadeSize < last + 2 := (Nat.div_lt_iff_lt_mul hpos).mpr h
    omega
  have hsteps : rank - (rank / binadeSize - 1) * binadeSize < 2 * binadeSize := by
    have hsplit := Nat.div_add_mod' rank binadeSize
    have hmod := Nat.mod_lt rank hpos
    rw [Nat.sub_mul]
    omega
  have hsplit : Nat.pow 2 (53 + last) = 2 * binadeSize * Nat.pow 2 last := Nat.pow_add 2 53 last
  rw [hsplit]
  exact Nat.mul_lt_mul_of_lt_of_le hsteps (Nat.pow_le_pow_right (by decide) hlast)
    (Nat.two_pow_pos _)

/-- Half of a double, or less of it, is far from the largest one. -/
theorem unitsAt_div_lt {rank last n : Nat} (h : rank < (last + 2) * binadeSize) (hn : 2 ≤ n) :
    unitsAt rank / n < Nat.pow 2 (52 + last) := by
  have hsplit : Nat.pow 2 (53 + last) = Nat.pow 2 (52 + last) * 2 := by
    rw [Nat.add_right_comm 52 1 last]
    exact Nat.pow_succ 2 _
  have hlt := unitsAt_lt h
  rw [hsplit] at hlt
  exact Nat.div_lt_of_lt_mul (Nat.mul_comm _ n ▸ Nat.lt_of_lt_of_le hlt (Nat.mul_le_mul_left _ hn))

theorem nearestRank_div_lt (x : Binary64) {n : Nat} (hn : 2 ≤ n) :
    nearestRank x.magnitude n < 2047 * binadeSize :=
  nearestRank_lt (by omega) (by decide) (by decide) (@unitsAt_div_lt x.rank 2045 n x.rank_lt hn)

/-- The binade whose steps a quotient is rounded to. -/
def binadeOf (num den : Nat) : Nat := (num / den).log2 - 52

theorem halfEven_binade_le {num den : Nat} (hden : 0 < den) :
    halfEven num (den * Nat.pow 2 (binadeOf num den)) ≤ 2 * binadeSize := by
  refine halfEven_le ?_
  have hlt : num / den < 2 ^ (binadeOf num den + 53) :=
    Nat.lt_of_lt_of_le Nat.lt_log2_self
      (Nat.pow_le_pow_right (by decide) (by rw [binadeOf]; omega))
  calc num < den * 2 ^ (binadeOf num den + 53) := by
        rw [Nat.mul_comm]
        exact (Nat.div_lt_iff_lt_mul hden).mp hlt
    _ = den * Nat.pow 2 (binadeOf num den) * (2 * binadeSize) := by
        rw [Nat.pow_add, ← Nat.mul_assoc]
        rfl

theorem le_halfEven_binade {num den : Nat} (hbinade : binadeOf num den ≠ 0) :
    binadeSize ≤ halfEven num (den * Nat.pow 2 (binadeOf num den)) := by
  refine Nat.le_trans ?_ (div_le_halfEven _ _)
  have hquotient : num / den ≠ 0 := fun h => hbinade (by rw [binadeOf, h]; rfl)
  have hle : 2 ^ (52 + binadeOf num den) ≤ num / den := by
    have hlog := Nat.log2_self_le hquotient
    have hexp : 52 + binadeOf num den = (num / den).log2 := by
      rw [binadeOf] at hbinade ⊢
      omega
    rw [hexp]
    exact hlog
  rw [Nat.pow_add] at hle
  rw [← Nat.div_div_eq_div_mul]
  exact (Nat.le_div_iff_mul_le (Nat.two_pow_pos _)).mpr hle

/-- Rounding takes the number of steps nearest to the quotient. -/
theorem unitsAt_nearestRank {num den : Nat} (hden : 0 < den) :
    unitsAt (nearestRank num den) =
      halfEven num (den * Nat.pow 2 (binadeOf num den)) * Nat.pow 2 (binadeOf num den) := by
  refine unitsAt_add ?_ (halfEven_binade_le hden)
  by_cases hbinade : binadeOf num den = 0
  · exact .inl hbinade
  · exact .inr (le_halfEven_binade hbinade)

/-- Below `2 ^ (k + 53)` units the steps are `2 ^ k` units at most, and a quotient is rounded by no
more than half of that. -/
theorem dist_unitsAt_nearestRank_le {num den k : Nat} (hden : 0 < den)
    (h : num < den * 2 ^ (k + 53)) :
    2 * Nat.dist (unitsAt (nearestRank num den) * den) num ≤ den * 2 ^ k := by
  have hbinade : binadeOf num den ≤ k := by
    have hquotient : num / den < 2 ^ (k + 53) := Nat.div_lt_of_lt_mul h
    rw [binadeOf]
    by_cases hzero : num / den = 0
    · rw [hzero]
      exact Nat.zero_le _
    · have hlog := (Nat.log2_lt hzero).mpr hquotient
      omega
  have hstep : den * Nat.pow 2 (binadeOf num den) ≤ den * 2 ^ k :=
    Nat.mul_le_mul_left den (Nat.pow_le_pow_right (by decide) hbinade)
  have hpos : 0 < den * Nat.pow 2 (binadeOf num den) := Nat.mul_pos hden (Nat.two_pow_pos _)
  have hnear := (isNearest_halfEven num hpos).near
  rw [unitsAt_nearestRank hden, Nat.mul_right_comm, Nat.mul_assoc]
  exact Nat.le_trans hnear hstep

/-! ## Signs -/

/-- A size with a sign. -/
def signed (negative : Bool) (size : Nat) : Int := if negative then -(size : Int) else size

theorem units_eq_signed (x : Binary64) : x.units = signed x.negative x.magnitude := rfl

theorem natAbs_signed (negative : Bool) (size : Nat) : (signed negative size).natAbs = size := by
  rw [signed]
  split <;> omega

theorem signed_mul (negative : Bool) (size factor : Nat) :
    signed negative (size * factor) = signed negative size * factor := by
  rw [signed, signed, Nat.cast_mul]
  split
  · exact (Int.neg_mul _ _).symm
  · rfl

/-- The sign is set aside where two sizes are compared. -/
theorem natAbs_signed_sub (negative : Bool) (size size' : Nat) :
    (signed negative size - signed negative size').natAbs = Nat.dist size size' := by
  rw [signed, signed]
  unfold Nat.dist
  split <;> omega

/-! ## Whole numbers -/

theorem unitsPerOne_pos : 0 < unitsPerOne := by
  unfold unitsPerOne
  generalize unitExponent = e
  exact Nat.two_pow_pos e

/-- The quotient of a whole number is as long as its whole part. -/
theorem log2_wholeUnits_div {n den : Nat} (hden : 0 < den) (hwhole : n / den ≠ 0) :
    (n * unitsPerOne / den).log2 = (n / den).log2 + unitExponent := by
  unfold unitsPerOne
  generalize unitExponent = e
  have hunit : 0 < Nat.pow 2 e := Nat.two_pow_pos e
  have hsplit : ∀ l, 2 ^ (l + e) = 2 ^ l * Nat.pow 2 e := fun l => Nat.pow_add 2 l e
  -- multiplying by a power of two moves the leading digit, and the rest of the division does not
  have hlow : 2 ^ ((n / den).log2 + e) ≤ n * Nat.pow 2 e / den := by
    rw [hsplit, Nat.le_div_iff_mul_le hden, Nat.mul_right_comm]
    refine Nat.mul_le_mul_right _ ((Nat.le_div_iff_mul_le hden).mp ?_)
    exact Nat.log2_self_le hwhole
  have hhigh : n * Nat.pow 2 e / den < 2 ^ ((n / den).log2 + 1 + e) := by
    rw [hsplit, Nat.div_lt_iff_lt_mul hden, Nat.mul_right_comm]
    refine Nat.mul_lt_mul_of_pos_right ((Nat.div_lt_iff_lt_mul hden).mp ?_) hunit
    exact Nat.lt_log2_self
  have hne : n * Nat.pow 2 e / den ≠ 0 :=
    Nat.ne_of_gt (Nat.lt_of_lt_of_le (Nat.two_pow_pos _) hlow)
  rw [Nat.log2_eq_iff hne, Nat.add_right_comm]
  exact ⟨hlow, hhigh⟩

theorem binadeOf_wholeUnits_div {n den : Nat} (hden : 0 < den) (hwhole : n / den ≠ 0) :
    binadeOf (n * unitsPerOne) den = (n / den).log2 + (unitExponent - 52) := by
  rw [binadeOf, log2_wholeUnits_div hden hwhole, Nat.add_sub_assoc (by decide)]

theorem binadeOf_wholeUnits {m : Nat} (hm : m ≠ 0) :
    binadeOf (m * unitsPerOne) 1 = m.log2 + (unitExponent - 52) := by
  have hone := @binadeOf_wholeUnits_div m 1 Nat.one_pos
  rw [Nat.div_one] at hone
  exact hone hm

/-- The doubles below one have their steps below those of one. -/
theorem binadeOf_wholeUnits_div_le {n den : Nat} (hden : 0 < den) (hwhole : n / den = 0) :
    binadeOf (n * unitsPerOne) den ≤ unitExponent - 52 := by
  have hlt : n * unitsPerOne / den < unitsPerOne := by
    rw [Nat.div_lt_iff_lt_mul hden, Nat.mul_comm]
    exact Nat.mul_lt_mul_of_pos_left (Nat.lt_of_div_eq_zero hden hwhole) unitsPerOne_pos
  have hlog : (n * unitsPerOne / den).log2 ≤ unitExponent := by
    unfold unitsPerOne at hlt ⊢
    generalize unitExponent = e at hlt ⊢
    by_cases hzero : n * Nat.pow 2 e / den = 0
    · rw [hzero]
      exact Nat.zero_le _
    · exact Nat.le_of_lt ((Nat.log2_lt hzero).mpr hlt)
  exact Nat.sub_le_sub_right hlog 52

/-- One unit of a whole number is many steps, if the number is small. -/
theorem unitsPerOne_eq_mul {low high : Nat} (h : low + high = unitExponent) :
    unitsPerOne = Nat.pow 2 low * Nat.pow 2 high := by
  unfold unitsPerOne
  rw [← h]
  exact Nat.pow_add 2 low high

/-- A whole number below `2 ^ 53` has a double of its own. -/
theorem magnitude_ofInt_of_lt {n : Int} (h : n.natAbs < 0x10000000000000000)
    (hn : n.natAbs < 0x20000000000000) : (ofInt n h).magnitude = n.natAbs * unitsPerOne := by
  show unitsAt (nearestRank (n.natAbs * unitsPerOne) 1) = _
  rw [unitsAt_nearestRank Nat.one_pos, Nat.one_mul]
  by_cases hzero : n.natAbs = 0
  · rw [hzero, Nat.zero_mul]
    rfl
  · have hlog : n.natAbs.log2 ≤ 52 := Nat.le_of_lt_succ ((Nat.log2_lt hzero).mpr hn)
    have hunit : 52 ≤ unitExponent := by decide
    have hexp : 52 - n.natAbs.log2 + binadeOf (n.natAbs * unitsPerOne) 1 = unitExponent := by
      rw [binadeOf_wholeUnits hzero]
      omega
    have hsplit := congrArg (n.natAbs * ·) (unitsPerOne_eq_mul hexp)
    simp only [← Nat.mul_assoc] at hsplit
    generalize binadeOf (n.natAbs * unitsPerOne) 1 = binade at hsplit ⊢
    -- the number is a multiple of the step, so nothing is rounded
    have hstep : 0 < Nat.pow 2 binade := Nat.two_pow_pos binade
    rw [hsplit, halfEven_mul _ hstep]

theorem units_ofInt (n : Int) (h : n.natAbs < 0x10000000000000000) :
    (ofInt n h).units = if n < 0 then -((ofInt n h).magnitude : Int) else (ofInt n h).magnitude := by
  simp only [units, ofInt, decide_eq_true_eq]

theorem units_ofInt_of_lt {n : Int} (h : n.natAbs < 0x10000000000000000)
    (hn : n.natAbs < 0x20000000000000) : (ofInt n h).units = n * (unitsPerOne : Int) := by
  rw [units_ofInt, magnitude_ofInt_of_lt h hn, Nat.cast_mul]
  split
  · rw [← Int.neg_mul]
    congr 1
    omega
  · congr 1
    omega

/-- A larger whole number does not fall below `2 ^ 53` by rounding. -/
theorem le_magnitude_ofInt {n : Int} (h : n.natAbs < 0x10000000000000000)
    (hn : 0x20000000000000 ≤ n.natAbs) :
    0x20000000000000 * unitsPerOne ≤ (ofInt n h).magnitude := by
  have hzero : n.natAbs ≠ 0 := by omega
  have hlog : 53 ≤ n.natAbs.log2 := (Nat.le_log2 hzero).mpr hn
  have hunit : 52 ≤ unitExponent := by decide
  have hbinade : 1 + unitExponent ≤ binadeOf (n.natAbs * unitsPerOne) 1 := by
    rw [binadeOf_wholeUnits hzero]
    omega
  have hlow : 0x20000000000000 * unitsPerOne = binadeSize * Nat.pow 2 (1 + unitExponent) := by
    unfold unitsPerOne
    generalize unitExponent = e
    have hsplit : Nat.pow 2 (1 + e) = 2 * Nat.pow 2 e := Nat.pow_add 2 1 e
    rw [hsplit, ← Nat.mul_assoc]
    rfl
  have hsteps := @le_halfEven_binade (n.natAbs * unitsPerOne) 1 (by omega)
  show _ ≤ unitsAt (nearestRank (n.natAbs * unitsPerOne) 1)
  rw [unitsAt_nearestRank Nat.one_pos, hlow]
  generalize 1 + unitExponent = e at hbinade
  exact Nat.mul_le_mul hsteps (Nat.pow_le_pow_right (by decide) hbinade)

/-- The double nearest to a whole number is a natural number below `2 ^ 53` only if it is the very
same. -/
theorem ofInt_units_eq_iff {n : Int} (h : n.natAbs < 0x10000000000000000) {k : Nat}
    (hk : k < 0x20000000000000) : (ofInt n h).units = (k * unitsPerOne : Nat) ↔ n = k := by
  have hpos := unitsPerOne_pos
  rcases Nat.lt_or_ge n.natAbs 0x20000000000000 with hn | hn
  · rw [units_ofInt_of_lt h hn, Nat.cast_mul]
    exact Int.mul_eq_mul_right_iff (by omega)
  · -- both sides fail: the size of the double is beyond that of `k`
    have hle := le_magnitude_ofInt h hn
    have hlt : k * unitsPerOne < 0x20000000000000 * unitsPerOne :=
      Nat.mul_lt_mul_of_pos_right hk hpos
    refine iff_of_false (fun heq => ?_) (by omega)
    rw [units_ofInt] at heq
    split at heq <;> omega

end CardService.Binary64
