import CardService.Proofs.Number.Value
import CardService.Proofs.Payload.Reports

/-!
# CardService — discriminants

Of the rules of a schema, those for literals tell the variants apart. They are looked at twice: a
schema claims a record by its discriminants alone, and checks it by all its rules. Here both are told by
the rules that the record breaks (`FieldRule.Broken`), and so they are found to agree. A literal number is
compared with the double nearest to a number, and yet by the exact value.

Main results:

* `claims_agrees_with_check` — a schema claims a record just if it has discriminants, and no failure that
  its check reports stems from one of them.
* `literalNumber_exact` — a literal number accepts the numbers of its value and no others.
-/

namespace CardService

/-! ## Numbers by value -/

namespace Number

variable {x : Number} {k : Nat}

theorem equals_iff_value_eq : x.Equals k ↔ x.value = k := by
  cases x with
  | whole n h =>
    show n = (k : ℤ) ↔ (n : ℚ) = k
    exact_mod_cast Iff.rfl
  | float x => exact_mod_cast (@Binary64.value_eq_intCast_iff x k).symm

/-- The double nearest to a number has the value of a small natural number only if the number has. -/
theorem value_toBinary64_eq_iff (hk : k < 0x20000000000000) :
    x.toBinary64.value = k ↔ x.value = k := by
  have hunits : x.toBinary64.value = k ↔ x.toBinary64.units = (k * unitsPerOne : Nat) := by
    exact_mod_cast @Binary64.value_eq_intCast_iff x.toBinary64 k
  rw [hunits, units_toBinary64_iff hk, equals_iff_value_eq]

end Number

namespace Payload

variable {record : Members} {schema : Schema}

/-! ## Claims and checks -/

namespace Schema

/-- The schema has a rule that tells variants apart. -/
def Discriminates (schema : Schema) : Prop := ∃ rule ∈ schema.fields, rule.kind.isDiscriminant

instance (schema : Schema) : Decidable schema.Discriminates :=
  inferInstanceAs (Decidable (∃ rule ∈ schema.fields, _))

/-- The rules that failures stem from are the broken ones. -/
theorem exists_failure_iff {rule : FieldRule} :
    (∃ failure ∈ schema.check record, failure.rule = rule) ↔
      rule ∈ schema.fields ∧ rule.Broken record := by
  constructor
  · rintro ⟨failure, hfailure, rfl⟩
    obtain ⟨rule, hrule, hbroken, rfl⟩ := mem_check_iff.mp hfailure
    exact ⟨hrule, hbroken⟩
  · rintro ⟨hrule, hbroken⟩
    exact ⟨_, mem_check_iff.mpr ⟨rule, hrule, hbroken, rfl⟩, rfl⟩

/-- A schema claims the records that break none of its discriminants, if it has any. -/
theorem claims_iff_unbroken :
    schema.claims record ↔ schema.Discriminates ∧
      ∀ rule ∈ schema.fields, rule.kind.isDiscriminant → ¬ rule.Broken record := by
  simp only [claims_iff, Discriminates, FieldRule.broken_iff, not_not]

end Schema

/-- A schema claims a record just if it has discriminants and none of the failures that its check reports
stems from one; what they stem from are the rules that the record breaks. So a schema with discriminants
claims the records that match it, and one without claims nothing. -/
theorem claims_agrees_with_check (schema : Schema) (record : Members) :
    (schema.claims record ↔ schema.Discriminates ∧
      ∀ failure ∈ schema.check record, ¬ failure.rule.kind.isDiscriminant) ∧
    (∀ rule, (∃ failure ∈ schema.check record, failure.rule = rule) ↔
      rule ∈ schema.fields ∧ rule.Broken record) ∧
    (schema.Discriminates → schema.isMatch record → schema.claims record) ∧
    (¬ schema.Discriminates → ¬ schema.claims record) := by
  refine ⟨?_, fun rule => Schema.exists_failure_iff, Schema.claims_of_isMatch, ?_⟩
  · -- both ask for discriminants, and what is left to compare are the rules that are broken
    rw [Schema.claims_iff_unbroken]
    refine and_congr_right fun _ => ?_
    constructor
    · intro hunbroken failure hfailure hkind
      obtain ⟨hrule, hbroken⟩ := Schema.exists_failure_iff.mp ⟨failure, hfailure, rfl⟩
      exact hunbroken failure.rule hrule hkind hbroken
    · intro hfailures rule hrule hkind hbroken
      obtain ⟨failure, hfailure, rfl⟩ := Schema.exists_failure_iff.mpr ⟨hrule, hbroken⟩
      exact hfailures failure hfailure hkind
  · intro hnone hclaims
    obtain ⟨hsome, -⟩ := Schema.claims_iff_unbroken.mp hclaims
    exact hnone hsome

/-- A card of some provider. -/
def typedCard : Members :=
  [("provider", .string "adyen"), ("version", .ofUInt32 1), ("type", .string "CREDIT_CARD")]

/-- A schema with two rules for one field: it may be absent for the first of them, not for the second. -/
def twiceTyped : Schema where
  name := "TwiceTyped"
  fields := [{ name := "type", kind := .literalString "CREDIT_CARD", optional := true },
    { name := "version", kind := .literalNumber 1 }, { name := "type", kind := .string }]

/-- It claims a record that it does not match, since the failure stems from the second rule; it claims
a record that matches; and the base of payloads, which this record matches too, claims nothing. -/
theorem claims_agrees_with_check_twice :
    (twiceTyped.check (typedCard.take 2)).map (fun failure => (failure.rule.name, failure.rule.kind)) =
        [("type", .string)] ∧
      twiceTyped.claims (typedCard.take 2) ∧
      twiceTyped.isMatch typedCard ∧ twiceTyped.claims typedCard ∧
      (Schema.mk "Base" baseFields).isMatch typedCard ∧
      ¬ (Schema.mk "Base" baseFields).claims typedCard := by
  have hreported : (twiceTyped.check (typedCard.take 2)).map
      (fun failure => (failure.rule.name, failure.rule.kind)) = [("type", .string)] := by
    decide +kernel
  have hfailures : ∀ failure ∈ twiceTyped.check (typedCard.take 2),
      ¬ failure.rule.kind.isDiscriminant := by decide +kernel
  have hmatch : twiceTyped.isMatch typedCard := by decide +kernel
  have hbase : ¬ (Schema.mk "Base" baseFields).Discriminates := by decide
  obtain ⟨hclaims, -⟩ := claims_agrees_with_check twiceTyped (typedCard.take 2)
  obtain ⟨-, -, hclaimed, -⟩ := claims_agrees_with_check twiceTyped typedCard
  obtain ⟨-, -, -, hunclaimed⟩ := claims_agrees_with_check ⟨"Base", baseFields⟩ typedCard
  exact ⟨hreported, hclaims.mpr ⟨by decide, hfailures⟩, hmatch, hclaimed (by decide) hmatch, rfl,
    hunclaimed hbase⟩

/-! ## Literal numbers -/

theorem FieldKind.accepts_literalNumber_iff_value_eq {literal : UInt32} {x : Number} :
    (FieldKind.literalNumber literal).accepts (.number x) ↔ x.value = literal.toNat := by
  rw [accepts_literalNumber_iff, ← Number.equals_iff_value_eq]
  simp only [Json.number.injEq, exists_eq_left']

/-- A literal number accepts a number just if this has its value, although the number is compared as the
double nearest to it: another number does not come to that value by rounding. So no whole number
beyond `2 ^ 53`, where rounding begins, is accepted. -/
theorem literalNumber_exact (literal : UInt32) (x : Number) :
    ((FieldKind.literalNumber literal).accepts (.number x) ↔ x.value = literal.toNat) ∧
    (x.toBinary64.value = literal.toNat ↔ x.value = literal.toNat) ∧
    ∀ (n : ℤ) (fits : Whole64 n), 2 ^ 53 < n.natAbs →
      ¬ (FieldKind.literalNumber literal).accepts (.number (.whole n fits)) := by
  -- a literal has 32 bits, and no double that was rounded is as small as 53 bits
  have hsmall : literal.toNat < 0x20000000000000 := Nat.lt_trans literal.toNat_lt (by decide)
  refine ⟨FieldKind.accepts_literalNumber_iff_value_eq, Number.value_toBinary64_eq_iff hsmall, ?_⟩
  intro n fits hlarge haccepts
  have hvalue := FieldKind.accepts_literalNumber_iff_value_eq.mp haccepts
  have hn : n = (literal.toNat : ℤ) := Number.equals_iff_value_eq.mpr hvalue
  omega

/-- The greatest literal accepts its double, and not the greatest whole number, which is nearer to a
double that is beyond it. -/
theorem literalNumber_exact_greatest :
    (FieldKind.literalNumber 0xffffffff).accepts
        (.number (.float ⟨false, 0x41efffffffe00000, by decide⟩)) ∧
      2 ^ 53 < (0xffffffffffffffff : ℤ).natAbs ∧
      ¬ (FieldKind.literalNumber 0xffffffff).accepts
        (.number (.whole 0xffffffffffffffff (by decide))) := by
  have hunits : Binary64.units ⟨false, 0x41efffffffe00000, by decide⟩ =
      ((0xffffffff : UInt32).toNat * unitsPerOne : Nat) := by decide +kernel
  have hvalue := (@Number.equals_iff_value_eq (.float _) _).mp hunits
  have hlarge : 2 ^ 53 < (0xffffffffffffffff : ℤ).natAbs := by decide
  exact ⟨(literalNumber_exact _ _).1.mpr hvalue, hlarge,
    (literalNumber_exact _ (.ofUInt32 0)).2.2 _ (by decide) hlarge⟩

end Payload

end CardService
