import CardService.Number.Double
import CardService.Proofs.Number.Rounding
import Mathlib.Data.Nat.Log

/-!
# CardService — the order of doubles

Doubles are compared by their exact values. Rounding keeps that order, also where two quotients are
rounded to steps of different size: the steps of one binade end where those of the next begin.

Main results:

* `unitsAt_nearestRank_mono` — the size that a larger quotient is rounded to is no smaller.
* `Double.finite_between` — what lies between finite doubles is finite.
-/

namespace CardService

namespace Binary64

/-! ## Rounding -/

theorem halfEven_le_succ (num den : Nat) : halfEven num den ≤ num / den + 1 := by
  unfold halfEven
  dsimp only
  split
  · exact Nat.le_succ _
  · exact Nat.le_refl _

theorem halfEven_mono {num num' : Nat} (den : Nat) (h : num ≤ num') :
    halfEven num den ≤ halfEven num' den := by
  have hquotient : num / den ≤ num' / den := Nat.div_le_div_right h
  rcases Nat.eq_or_lt_of_le hquotient with heq | hlt
  · -- the rests decide, and the larger one is rounded up if the smaller one is
    have hsplit := Nat.div_add_mod num den
    have hsplit' := Nat.div_add_mod num' den
    rw [heq] at hsplit
    have hrest : num % den ≤ num' % den := by omega
    unfold halfEven
    dsimp only
    rw [heq]
    split <;> split <;> omega
  · calc halfEven num den ≤ num / den + 1 := halfEven_le_succ num den
      _ ≤ num' / den := hlt
      _ ≤ halfEven num' den := div_le_halfEven num' den

theorem halfEven_zero {den : Nat} (hden : 0 < den) : halfEven 0 den = 0 := by
  have hexact := halfEven_mul 0 hden
  rw [Nat.zero_mul] at hexact
  exact hexact

theorem binadeOf_mono {num num' : Nat} (den : Nat) (h : num ≤ num') :
    binadeOf num den ≤ binadeOf num' den := by
  rw [binadeOf, binadeOf, Nat.log2_eq_log_two, Nat.log2_eq_log_two]
  exact Nat.sub_le_sub_right (Nat.log_mono_right (Nat.div_le_div_right h)) 52

theorem unitsAt_nearestRank_mono {num num' den : Nat} (hden : 0 < den) (h : num ≤ num') :
    unitsAt (nearestRank num den) ≤ unitsAt (nearestRank num' den) := by
  rw [unitsAt_nearestRank hden, unitsAt_nearestRank hden]
  have hbinade := binadeOf_mono den h
  have hhigh := @halfEven_binade_le num den hden
  have hlow := @le_halfEven_binade num' den
  generalize binadeOf num den = binade at *
  generalize binadeOf num' den = binade' at *
  rcases Nat.eq_or_lt_of_le hbinade with rfl | hlt
  · exact Nat.mul_le_mul_right _ (halfEven_mono _ h)
  · have hnext : 2 * binadeSize * 2 ^ binade = binadeSize * 2 ^ (binade + 1) := by ring
    calc halfEven num (den * Nat.pow 2 binade) * Nat.pow 2 binade
        ≤ 2 * binadeSize * 2 ^ binade := Nat.mul_le_mul_right _ hhigh
      _ = binadeSize * 2 ^ (binade + 1) := hnext
      _ ≤ binadeSize * 2 ^ binade' :=
          Nat.mul_le_mul_left _ (Nat.pow_le_pow_right (by decide) hlt)
      _ ≤ halfEven num' (den * Nat.pow 2 binade') * Nat.pow 2 binade' :=
          Nat.mul_le_mul_right _ (hlow (by omega))

theorem unitsAt_nearestRank_zero {den : Nat} (hden : 0 < den) :
    unitsAt (nearestRank 0 den) = 0 := by
  have hpos : 0 < den * Nat.pow 2 (binadeOf 0 den) := Nat.mul_pos hden (Nat.two_pow_pos _)
  rw [unitsAt_nearestRank hden, halfEven_zero hpos, Nat.zero_mul]

/-! ## Signs -/

/-- What keeps the order of sizes, and keeps zero, keeps the order of signed sizes. -/
theorem signed_mono {f : Nat → Nat} (hzero : f 0 = 0) (hmono : ∀ m n, m ≤ n → f m ≤ f n)
    {negative negative' : Bool} {m n : Nat} (h : signed negative m ≤ signed negative' n) :
    signed negative (f m) ≤ signed negative' (f n) := by
  unfold signed at h ⊢
  cases negative <;> cases negative' <;> simp only [if_true, Bool.false_eq_true, if_false] at h ⊢
  · have hle := hmono m n (by omega)
    omega
  · -- two zeros, of which only the second one has a sign
    obtain rfl : m = 0 := by omega
    obtain rfl : n = 0 := by omega
    omega
  · omega
  · have hle := hmono n m (by omega)
    omega

end Binary64

/-! ## Comparing doubles -/

namespace Double

/-- The order of doubles. What is not a number compares with nothing, not even with itself. -/
def Le : Double → Double → Prop
  | .finite x, .finite y => x.units ≤ y.units
  | .infinite negative, .finite _ => negative = true
  | .finite _, .infinite negative => negative = false
  | .infinite negative, .infinite negative' => negative = true ∨ negative' = false
  | _, _ => False

instance : LE Double := ⟨Le⟩

theorem finite_le_finite_iff {x y : Binary64} :
    Double.finite x ≤ .finite y ↔ x.units ≤ y.units := Iff.rfl

theorem finite_between {x y : Binary64} {c : Double} (hlow : .finite x ≤ c) (hhigh : c ≤ .finite y) :
    ∃ z, c = .finite z ∧ x.units ≤ z.units ∧ z.units ≤ y.units := by
  cases c with
  | finite z => exact ⟨z, rfl, hlow, hhigh⟩
  | infinite negative =>
    -- an infinity is below or above all finite doubles, not both
    have hpositive : negative = false := hlow
    have hnegative : negative = true := hhigh
    cases hpositive.symm.trans hnegative
  | notANumber => exact hlow.elim

end Double

end CardService
