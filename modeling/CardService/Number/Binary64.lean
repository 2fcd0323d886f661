/-!
# CardService — finite binary64 numbers

A finite double is a sign and a *rank*: its place among the non-negative doubles, counted from
zero. Every double is a whole multiple of `2 ^ -1074`, so its size is kept exactly as a natural
number of such *units*, and rounding is one division of natural numbers.

Main results:

* `nearestRank_le` — the rank nearest to a quotient below `2 ^ k` units is at most `k - 51` binades,
  so a quotient below `2 ^ 2097` units never overflows.
-/

namespace CardService

/-- The least double above zero is `2 ^ -1074`. -/
def unitExponent : Nat := 1074

/-- `1.0` in units. -/
def unitsPerOne : Nat := Nat.pow 2 unitExponent

/-- The number of doubles in a binade, between a power of two and the next: `2 ^ 52`. -/
def binadeSize : Nat := 0x10000000000000

/-- A finite double: its sign, and its rank among the non-negative doubles. -/
structure Binary64 where
  negative : Bool
  rank : Nat
  rank_lt : rank < 2047 * binadeSize
  deriving DecidableEq

namespace Binary64

/-! ## Size -/

/-- The size of the double of the given rank, in units. The step between neighbours doubles from
each binade to the next. -/
def unitsAt (rank : Nat) : Nat :=
  let binade := rank / binadeSize - 1
  (rank - binade * binadeSize) * Nat.pow 2 binade

/-- The size of a double in units, without its sign. -/
def magnitude (x : Binary64) : Nat := unitsAt x.rank

/-- The exact value of a double in units. -/
def units (x : Binary64) : Int := if x.negative then -(x.magnitude : Int) else x.magnitude

def zero : Binary64 := ⟨false, 0, by decide⟩

instance : Inhabited Binary64 := ⟨zero⟩

/-! ## Rounding -/

/-- The whole number nearest to `num / den`; a half goes to the even neighbour. -/
def halfEven (num den : Nat) : Nat :=
  let quotient := num / den
  let rest := num % den
  if 2 * rest < den ∨ (2 * rest = den ∧ quotient % 2 = 0) then quotient else quotient + 1

/-- The rank nearest to `num / den` units; a half goes to the even rank. -/
def nearestRank (num den : Nat) : Nat :=
  let binade := (num / den).log2 - 52
  binade * binadeSize + halfEven num (den * Nat.pow 2 binade)

theorem halfEven_le {num den bound : Nat} (h : num < den * bound) : halfEven num den ≤ bound := by
  have hq : num / den < bound := Nat.div_lt_of_lt_mul h
  unfold halfEven
  dsimp only
  split <;> omega

theorem nearestRank_le {num den k : Nat} (hden : 0 < den) (hk : 53 ≤ k)
    (h : num / den < Nat.pow 2 k) :
    nearestRank num den ≤ (k - 53) * binadeSize + 2 * binadeSize := by
  have hlog : (num / den).log2 - 52 ≤ k - 53 := by
    by_cases h0 : num / den = 0
    · simp [h0]
    · have := (Nat.log2_lt h0).2 h
      omega
  have hhalf : halfEven num (den * Nat.pow 2 ((num / den).log2 - 52)) ≤ 2 * binadeSize := by
    apply halfEven_le
    have hlt : num / den < Nat.pow 2 ((num / den).log2 - 52 + 53) :=
      Nat.lt_of_lt_of_le Nat.lt_log2_self (Nat.pow_le_pow_right (by decide) (by omega))
    have hsplit : Nat.pow 2 ((num / den).log2 - 52 + 53) =
        Nat.pow 2 ((num / den).log2 - 52) * (2 * binadeSize) := Nat.pow_add 2 _ 53
    rw [hsplit] at hlt
    rw [Nat.mul_assoc, Nat.mul_comm den]
    exact (Nat.div_lt_iff_lt_mul hden).1 hlt
  exact Nat.add_le_add (Nat.mul_le_mul_right binadeSize hlog) hhalf

/-- The double nearest to `num / den` units, where there is one. -/
def round? (negative : Bool) (num den : Nat) : Option Binary64 :=
  if h : nearestRank num den < 2047 * binadeSize then some ⟨negative, nearestRank num den, h⟩
  else none

/-- A quotient below `2 ^ 2097` units has a nearest double. -/
theorem nearestRank_lt {num den k : Nat} (hden : 0 < den) (hk : 53 ≤ k) (hk' : k ≤ 2097)
    (h : num / den < Nat.pow 2 k) : nearestRank num den < 2047 * binadeSize := by
  have hrank := nearestRank_le hden hk h
  have hmul : (k - 53) * binadeSize ≤ 2044 * binadeSize := Nat.mul_le_mul_right _ (by omega)
  have hpos : 0 < binadeSize := by decide
  omega

theorem mul_pow_lt {n bits e : Nat} (h : n < Nat.pow 2 bits) :
    n * Nat.pow 2 e / 1 < Nat.pow 2 (bits + e) := by
  have hsplit : Nat.pow 2 (bits + e) = Nat.pow 2 bits * Nat.pow 2 e := Nat.pow_add 2 bits e
  rw [Nat.div_one, hsplit]
  exact Nat.mul_lt_mul_of_pos_right h (Nat.two_pow_pos e)

theorem wholeUnits_lt {n bits : Nat} (h : n < Nat.pow 2 bits) :
    n * unitsPerOne / 1 < Nat.pow 2 (bits + unitExponent) := by
  unfold unitsPerOne
  exact mul_pow_lt h

/-- The double nearest to a whole number of 64 bits. -/
def ofInt (n : Int) (h : n.natAbs < 0x10000000000000000) : Binary64 :=
  ⟨decide (n < 0), nearestRank (n.natAbs * unitsPerOne) 1,
    nearestRank_lt (by decide) (by decide) (by decide) (@wholeUnits_lt _ 64 h)⟩

/-! ## Whole values -/

/-- The value of a double that is a whole number. -/
def whole? (x : Binary64) : Option Int :=
  if x.magnitude % unitsPerOne = 0 then some (x.units / unitsPerOne) else none

end Binary64

end CardService
