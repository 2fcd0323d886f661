import CardService.Proofs.Number.Rounding

/-!
# CardService — operations on doubles

An operation on doubles rounds its exact result, and is finite where that is not beyond the largest
double. Whole numbers of 64 bits are far below it, and so is half of any double, or less.
-/

namespace CardService.Double

/-- Rounding to a double, as a function: the number of units in a double is too large to unfold
the definition where it is applied. -/
theorem round_eq : @Double.round = fun negative num den =>
    match Binary64.round? negative num den with
    | some x => .finite x
    | none => .infinite negative := by
  delta Double.round
  rfl

theorem round_finite {negative : Bool} {num den : Nat}
    (h : Binary64.nearestRank num den < 2047 * binadeSize) :
    Double.round negative num den = .finite ⟨negative, Binary64.nearestRank num den, h⟩ := by
  have hround : Binary64.round? negative num den =
      some ⟨negative, Binary64.nearestRank num den, h⟩ := by
    rw [Binary64.round?]
    exact dif_pos h
  rw [round_eq]
  simp only [hround]

/-- A whole number of 64 bits goes to a finite double. -/
theorem ofInt_eq {n : Int} (h : n.natAbs < 0x10000000000000000) :
    Double.ofInt n = .finite (.ofInt n h) := by
  rw [Double.ofInt]
  exact round_finite _

/-- A quotient of a finite double is finite. -/
theorem divWhole_eq {x : Binary64} {n : Nat} (hn : 2 ≤ n) :
    (Double.finite x).divWhole n =
      .finite ⟨x.negative, Binary64.nearestRank x.magnitude n, Binary64.nearestRank_div_lt x hn⟩ :=
  round_finite _

/-! ## How far an operation leads astray -/

/-- A double is finite, and is off from a quotient by half a step at most, where a step is `2 ^ k`
units. -/
def Near (x : Double) (num : Int) (den k : Nat) : Prop :=
  ∃ y, x = .finite y ∧ 2 * (y.units * den - num).natAbs ≤ den * 2 ^ k

theorem round_near {negative : Bool} {num den k : Nat} (hden : 0 < den) (hk : k ≤ 2044)
    (h : num < den * 2 ^ (k + 53)) :
    (Double.round negative num den).Near (Binary64.signed negative num) den k := by
  have hfinite : Binary64.nearestRank num den < 2047 * binadeSize :=
    Binary64.nearestRank_lt hden (Nat.le_add_left 53 k) (by omega) (Nat.div_lt_of_lt_mul h)
  refine ⟨_, round_finite hfinite, ?_⟩
  rw [Binary64.units_eq_signed, ← Binary64.signed_mul, Binary64.natAbs_signed_sub]
  exact Binary64.dist_unitsAt_nearestRank_le hden h

theorem divWhole_near {x : Binary64} {n k : Nat} (hn : 0 < n) (hk : k ≤ 2044)
    (h : x.units.natAbs < n * 2 ^ (k + 53)) : ((Double.finite x).divWhole n).Near x.units n k := by
  rw [Binary64.units_eq_signed, Binary64.natAbs_signed] at h
  exact round_near hn hk h

theorem mulWhole_near {x : Binary64} {n k : Nat} (hk : k ≤ 2044)
    (h : x.units.natAbs * n < 2 ^ (k + 53)) :
    ((Double.finite x).mulWhole n).Near (x.units * n) 1 k := by
  rw [Binary64.units_eq_signed, Binary64.natAbs_signed] at h
  rw [Binary64.units_eq_signed, ← Binary64.signed_mul]
  exact round_near Nat.one_pos hk (by omega)

theorem add_near {x y : Binary64} {k : Nat} (hk : k ≤ 2044)
    (h : (x.units + y.units).natAbs < 2 ^ (k + 53)) :
    ((Double.finite x).add (.finite y)).Near (x.units + y.units) 1 k := by
  rw [Double.add]
  split
  · next hzero =>
    -- the sum of opposite numbers is zero, whichever sign it is given
    have hround := @round_near (x.negative && y.negative) 0 1 k Nat.one_pos hk (by omega)
    rw [Binary64.signed, Nat.cast_zero, Int.neg_zero, ite_self] at hround
    rw [hzero]
    exact hround
  · have hround := @round_near (decide (x.units + y.units < 0)) (x.units + y.units).natAbs 1 k
      Nat.one_pos hk (by omega)
    have hsigned : Binary64.signed (decide (x.units + y.units < 0)) (x.units + y.units).natAbs =
        x.units + y.units := by
      simp only [Binary64.signed, decide_eq_true_eq]
      split <;> omega
    rw [hsigned] at hround
    exact hround

end CardService.Double
