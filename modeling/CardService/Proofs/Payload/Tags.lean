import CardService.Payload.Schema
import CardService.Proofs.Json.Tokens
import CardService.Proofs.Number.Value

/-!
# CardService — texts of tags

A tag is shown as its three parts with colons between them. A version that is a whole number is shown as
the plain decimal of that number, also if it is held as a double: then all its digits are written, however
many these are. So it makes no difference to the text in which way such a version is represented, and all
the difference which number it is. The one exception is the zero with a minus sign, which keeps the sign.

Main result: `wholeVersions_rendered`.
-/

namespace CardService

/-! ## Whole numbers -/

namespace Decimal

theorem ofWhole_eq_toString (n : ℤ) : String.ofList (ofWhole n) = toString n := by
  cases n with
  | ofNat m => exact Nat.repr_eq_ofList_toDigits.symm
  | negSucc m =>
    have hnegative : ofWhole (.negSucc m) = '-' :: Nat.toDigits 10 (m + 1) := by
      rw [ofWhole, decide_eq_true (Int.negSucc_lt_zero m)]
      rfl
    show _ = "-" ++ (m + 1).repr
    rw [hnegative, String.ofList_cons, Nat.repr_eq_ofList_toDigits]
    rfl

/-- The digits tell the size, and what stands in front of them the sign. -/
theorem signed_toDigits_inj {negative negative' : Bool} {m n : ℕ}
    (h : signed negative (Nat.toDigits 10 m) = signed negative' (Nat.toDigits 10 n)) :
    negative = negative' ∧ m = n := by
  have hsign : ∀ k rest, Nat.toDigits 10 k ≠ '-' :: rest := fun k rest heq =>
    absurd (Json.isDigit_toDigits k '-' (heq ▸ List.mem_cons_self)) (by decide)
  have hdigits : Nat.toDigits 10 m = Nat.toDigits 10 n → m = n := fun heq => by
    rw [← Json.appendDigits_toDigits m, heq, Json.appendDigits_toDigits]
  cases negative <;> cases negative'
  · exact ⟨rfl, hdigits h⟩
  -- a sign in front of only one of the texts would be a digit of the other
  · exact absurd h (hsign m _)
  · exact absurd h.symm (hsign n _)
  · exact ⟨rfl, hdigits (List.cons.inj h).2⟩

theorem ofWhole_inj {m n : ℤ} : ofWhole m = ofWhole n ↔ m = n := by
  refine ⟨fun h => ?_, congrArg ofWhole⟩
  obtain ⟨hsign, hsize⟩ := signed_toDigits_inj h
  rw [decide_eq_decide] at hsign
  omega

end Decimal

namespace Payload

namespace Tag

/-! ## Versions -/

/-- The text of a version, where it is left open how whole doubles are told. The way it is done computes
with units, which are too large for the text to be unfolded with it. -/
def versionTextBy (whole? : Binary64 → Option Int) : Number → List Char
  | .whole n _ => Decimal.ofWhole n
  | .float x =>
    match whole? x with
    | some n => Decimal.signed x.negative (Decimal.digitsOf n.natAbs)
    | none => x.text

theorem versionText_eq : versionText = versionTextBy Binary64.whole? := by
  delta versionText versionTextBy
  rfl

theorem versionTextBy_float {whole? : Binary64 → Option Int} {x : Binary64} {n : ℤ}
    (h : whole? x = some n) :
    versionTextBy whole? (.float x) = Decimal.signed x.negative (Decimal.digitsOf n.natAbs) := by
  simp only [versionTextBy, h]

/-- A version that is a whole number is shown as its decimal, in whichever way it is represented. -/
theorem versionText_of_value {version : Number} {n : ℤ} (hvalue : version.value = n)
    (hzero : version ≠ .float .negativeZero) : versionText version = Decimal.ofWhole n := by
  cases version with
  | whole m fits =>
    obtain rfl : m = n := Int.cast_injective hvalue
    rfl
  | float x =>
    have hsign := Binary64.negative_eq_decide hvalue fun hx => hzero (congrArg _ hx)
    rw [versionText_eq, versionTextBy_float (Binary64.whole?_eq_some_iff.mpr hvalue), hsign]
    rfl

theorem text_of_value {tag : Tag} {n : ℤ} (hvalue : tag.version.value = n)
    (hzero : tag.version ≠ .float .negativeZero) :
    tag.text = tag.provider ++ ":" ++ toString n ++ ":" ++ tag.kind := by
  rw [text, versionText_of_value hvalue hzero, Decimal.ofWhole_eq_toString]

end Tag

/-- Two tags of one provider and one type, with versions that are whole numbers, but not the zero with a
minus sign: each of them is shown with the decimal of its version, in which there are only digits behind a
sign, and both look the same just if their versions are equal. -/
theorem wholeVersions_rendered {tag tag' : Tag} {n n' : ℤ}
    (hprovider : tag.provider = tag'.provider) (hkind : tag.kind = tag'.kind)
    (hvalue : tag.version.value = n) (hvalue' : tag'.version.value = n')
    (hzero : tag.version ≠ .float .negativeZero) (hzero' : tag'.version ≠ .float .negativeZero) :
    tag.text = tag.provider ++ ":" ++ toString n ++ ":" ++ tag.kind ∧
    tag'.text = tag'.provider ++ ":" ++ toString n' ++ ":" ++ tag'.kind ∧
    (∀ c ∈ (toString n).toList ++ (toString n').toList, c = '-' ∨ c.isDigit) ∧
    (tag.text = tag'.text ↔ tag.version.value = tag'.version.value) := by
  have htext := Tag.text_of_value hvalue hzero
  have htext' := Tag.text_of_value hvalue' hzero'
  refine ⟨htext, htext', ?_, ?_⟩
  · intro c hc
    rw [← Decimal.ofWhole_eq_toString, ← Decimal.ofWhole_eq_toString, String.toList_ofList,
      String.toList_ofList, List.mem_append] at hc
    exact hc.elim Json.mem_ofWhole Json.mem_ofWhole
  · -- provider and type are the same, so the texts differ in nothing but the decimals
    have hdecimals : tag.text = tag'.text ↔ toString n = toString n' := by
      rw [htext, htext', hprovider, hkind, String.append_left_inj, String.append_left_inj,
        String.append_right_inj]
    rw [hdecimals, ← Decimal.ofWhole_eq_toString, ← Decimal.ofWhole_eq_toString, String.ofList_inj,
      Decimal.ofWhole_inj, hvalue, hvalue', Int.cast_inj]

/-- The zero that is left out would keep its sign. -/
example : Tag.versionText (.float .negativeZero) = ['-', '0'] := by decide +kernel

/-- A card in the given version. -/
def adyenCard (version : Number) : Tag := ⟨"adyen", version, "CREDIT_CARD"⟩

/-- `2 ^ 63`, which is beyond the signed numbers of 64 bits, as an unsigned one. -/
def wholeVersion : Number := .whole 0x8000000000000000 (by decide)

/-- `2 ^ 63` as a double. -/
def doubleVersion : Number := .float ⟨false, 0x43e0000000000000, by decide⟩

/-- The least double there is. -/
def leastVersion : Number := .float ⟨true, 0x7fefffffffffffff, by decide⟩

/-- A whole number and a double of one value are shown alike, and the least double in full. -/
theorem wholeVersions_rendered_large :
    (adyenCard wholeVersion).text = (adyenCard doubleVersion).text ∧
      (adyenCard doubleVersion).text = "adyen:9223372036854775808:CREDIT_CARD" ∧
      (adyenCard leastVersion).text =
        "adyen" ++ ":" ++ toString (-(2 ^ 1024 - 2 ^ 971) : ℤ) ++ ":" ++ "CREDIT_CARD" ∧
      (adyenCard doubleVersion).text ≠ (adyenCard leastVersion).text := by
  have hwhole : wholeVersion.value = (0x8000000000000000 : ℤ) := rfl
  have hdouble : doubleVersion.value = (0x8000000000000000 : ℤ) :=
    Binary64.value_eq_intCast_iff.mpr (by decide +kernel)
  have hleast : leastVersion.value = (-(2 ^ 1024 - 2 ^ 971) : ℤ) :=
    Binary64.value_eq_intCast_iff.mpr (by decide +kernel)
  obtain ⟨-, htext, -, hsame⟩ := @wholeVersions_rendered (adyenCard wholeVersion)
    (adyenCard doubleVersion) _ _ rfl rfl hwhole hdouble (by decide) (by decide)
  obtain ⟨-, hfull, -, hdiffer⟩ := @wholeVersions_rendered (adyenCard doubleVersion)
    (adyenCard leastVersion) _ _ rfl rfl hdouble hleast (by decide) (by decide)
  refine ⟨hsame.mpr (hwhole.trans hdouble.symm), htext, hfull, fun heq => ?_⟩
  have hvalues := hdouble.symm.trans ((hdiffer.mp heq).trans hleast)
  exact absurd (Int.cast_injective hvalues) (by decide +kernel)

end Payload

end CardService
