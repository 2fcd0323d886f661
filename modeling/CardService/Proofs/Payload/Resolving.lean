import CardService.Payload.Schema
import CardService.Proofs.Number.Rounding

/-!
# CardService — what schemas accept

The checks of a schema compute; here they are told as conditions on the fields of a record. What a
registry makes of a record is one of three things (`Registry.Found`): the payload of a variant that
matches, an unknown variant, or a mismatch.
-/

namespace CardService

/-- A number that is the given natural number, written as a whole number or as a double. -/
def Number.Equals (k : Nat) : Number → Prop
  | .whole n _ => n = k
  | .float x => x.units = (k * unitsPerOne : Nat)

/-- No other number goes to the double of a small natural number. -/
theorem Number.units_toBinary64_iff {x : Number} {k : Nat} (hk : k < 0x20000000000000) :
    x.toBinary64.units = (k * unitsPerOne : Nat) ↔ x.Equals k := by
  cases x with
  | whole n h => exact Binary64.ofInt_units_eq_iff h.natAbs_lt hk
  | float x => exact Iff.rfl

/-! ## Members -/

namespace Members

variable {record : Members} {key : String}

theorem string?_eq_some_iff {s : String} :
    record.string? key = some s ↔ record.get? key = some (.string s) := by
  simp only [string?, Option.bind_eq_some_iff]
  constructor
  · rintro ⟨v, hv, hs⟩
    cases v <;> simp_all [Json.string?]
  · exact fun h => ⟨_, h, rfl⟩

theorem number?_eq_some_iff {x : Number} :
    (record.get? key).bind Json.number? = some x ↔ record.get? key = some (.number x) := by
  simp only [Option.bind_eq_some_iff]
  constructor
  · rintro ⟨v, hv, hx⟩
    cases v <;> simp_all [Json.number?]
  · exact fun h => ⟨_, h, rfl⟩

end Members

namespace Payload

variable {record : Members}

/-! ## Fields -/

namespace FieldKind

theorem accepts_string_iff {v : Json} : FieldKind.string.accepts v ↔ ∃ s, v = .string s := by
  cases v <;> simp [accepts]

theorem accepts_number_iff {v : Json} : FieldKind.number.accepts v ↔ ∃ x, v = .number x := by
  cases v <;> simp [accepts]

theorem accepts_literalString_iff {expected : String} {v : Json} :
    (FieldKind.literalString expected).accepts v ↔ v = .string expected := by
  cases v <;> simp [accepts]

theorem accepts_literalNumber_iff {expected : UInt32} {v : Json} :
    (FieldKind.literalNumber expected).accepts v ↔
      ∃ x, v = .number x ∧ x.Equals expected.toNat := by
  have hsmall : expected.toNat < 0x20000000000000 :=
    Nat.lt_trans expected.toNat_lt (by decide)
  cases v with
  | number x =>
    simp only [accepts, beq_iff_eq, Number.units_toBinary64_iff hsmall, Json.number.injEq,
      exists_eq_left']
  | null | bool | string | array | object => simp [accepts]

end FieldKind

namespace FieldRule

variable {name : String}

theorem holds_iff {rule : FieldRule} :
    rule.holds record ↔
      (record.get? rule.name = none ∧ rule.optional) ∨
        ∃ v, record.get? rule.name = some v ∧ rule.kind.accepts v := by
  unfold holds
  cases record.get? rule.name <;> simp

theorem holds_required_iff {kind : FieldKind} :
    (FieldRule.mk name kind false).holds record ↔
      ∃ v, record.get? name = some v ∧ kind.accepts v := by
  rw [holds_iff]
  exact or_iff_right fun h => Bool.false_ne_true h.2

theorem holds_string_iff :
    (FieldRule.mk name .string false).holds record ↔ ∃ s, record.get? name = some (.string s) := by
  rw [holds_required_iff]
  simp only [FieldKind.accepts_string_iff]
  constructor
  · rintro ⟨_, h, s, rfl⟩
    exact ⟨s, h⟩
  · exact fun ⟨s, h⟩ => ⟨_, h, s, rfl⟩

theorem holds_number_iff :
    (FieldRule.mk name .number false).holds record ↔ ∃ x, record.get? name = some (.number x) := by
  rw [holds_required_iff]
  simp only [FieldKind.accepts_number_iff]
  constructor
  · rintro ⟨_, h, x, rfl⟩
    exact ⟨x, h⟩
  · exact fun ⟨x, h⟩ => ⟨_, h, x, rfl⟩

theorem holds_literalString_iff {expected : String} {optional : Bool} :
    (FieldRule.mk name (.literalString expected) optional).holds record ↔
      (record.get? name = none ∧ optional) ∨ record.get? name = some (.string expected) := by
  rw [holds_iff]
  simp only [FieldKind.accepts_literalString_iff, exists_eq_right]

theorem holds_literalNumber_iff {expected : UInt32} :
    (FieldRule.mk name (.literalNumber expected) false).holds record ↔
      ∃ x, record.get? name = some (.number x) ∧ x.Equals expected.toNat := by
  rw [holds_required_iff]
  simp only [FieldKind.accepts_literalNumber_iff]
  constructor
  · rintro ⟨_, h, x, rfl, hx⟩
    exact ⟨x, h, hx⟩
  · exact fun ⟨x, h, hx⟩ => ⟨_, h, x, rfl, hx⟩

/-- A failure is reported just where the rule is not satisfied, though each of the two looks at the
record in its own way. -/
theorem failure?_eq (rule : FieldRule) (schema : String) (record : Members) :
    rule.failure? schema record =
      if rule.holds record then none else some ⟨schema, rule, record.get? rule.name⟩ := by
  unfold failure? holds
  cases record.get? rule.name <;> rfl

theorem failure?_eq_none_iff {rule : FieldRule} {schema : String} :
    rule.failure? schema record = none ↔ rule.holds record := by
  rw [failure?_eq]
  simp

theorem failure?_eq_some_iff {rule : FieldRule} {schema : String} {failure : PathFailure} :
    rule.failure? schema record = some failure ↔
      ¬ rule.holds record ∧ failure = ⟨schema, rule, record.get? rule.name⟩ := by
  rw [failure?_eq]
  split
  next hholds => exact iff_of_false (Option.some_ne_none failure ∘ Eq.symm) fun h => h.1 hholds
  next hbroken => rw [Option.some.injEq, eq_comm, and_iff_right hbroken]

end FieldRule

/-! ## Schemas -/

namespace Schema

variable {schema : Schema}

theorem isMatch_iff : schema.isMatch record ↔ ∀ rule ∈ schema.fields, rule.holds record := by
  simp only [isMatch, check, List.isEmpty_iff, List.filterMap_eq_nil_iff,
    FieldRule.failure?_eq_none_iff]

/-- A schema claims the records that satisfy its discriminants, if it has any. -/
theorem claims_iff :
    schema.claims record ↔
      (∃ rule ∈ schema.fields, rule.kind.isDiscriminant) ∧
        ∀ rule ∈ schema.fields, rule.kind.isDiscriminant → rule.holds record := by
  simp only [claims, Bool.and_eq_true, Bool.not_eq_true', List.isEmpty_eq_false_iff_exists_mem,
    List.all_eq_true, List.mem_filter, and_imp]

/-- A schema with a discriminant claims every record that matches it. -/
theorem claims_of_isMatch (hdiscriminant : ∃ rule ∈ schema.fields, rule.kind.isDiscriminant)
    (hmatch : schema.isMatch record) : schema.claims record :=
  claims_iff.mpr ⟨hdiscriminant, fun rule hrule _ => isMatch_iff.mp hmatch rule hrule⟩

end Schema

/-! ## Tags -/

theorem Tag.ofRecord?_eq_some_iff {tag : Tag} :
    Tag.ofRecord? record = some tag ↔
      record.get? "provider" = some (.string tag.provider) ∧
        record.get? "version" = some (.number tag.version) ∧
        record.get? "type" = some (.string tag.kind) := by
  simp only [Tag.ofRecord?, Option.bind_eq_bind, Option.bind_eq_some_iff,
    Members.string?_eq_some_iff, Option.pure_def, Option.some.injEq]
  constructor
  · rintro ⟨provider, hprovider, version, hversion, kind, hkind, rfl⟩
    have hversion := Members.number?_eq_some_iff.mp (Option.bind_eq_some_iff.mpr hversion)
    exact ⟨hprovider, hversion, hkind⟩
  · rintro ⟨hprovider, hversion, hkind⟩
    have hversion := Option.bind_eq_some_iff.mp (Members.number?_eq_some_iff.mpr hversion)
    exact ⟨_, hprovider, _, hversion, _, hkind, rfl⟩

/-! ## Registries -/

namespace Registry

variable {α : Type}

/-- What a record is found to be, and why. -/
inductive Found (registry : Registry α) (record : Members) : Resolution α → Prop
  | matched {variant : Variant α} {payload : α} (known : variant ∈ registry.variants)
      (fits : variant.schema.isMatch record) (made : variant.make record = some payload) :
      Found registry record (.matched payload)
  | unrecognized {tag : Tag}
      (unclaimed : ∀ variant ∈ registry.variants, ¬ variant.schema.claims record)
      (base : registry.base.isMatch record) (tagged : Tag.ofRecord? record = some tag) :
      Found registry record (.unrecognized tag)
  | mismatch (unmatched : ∀ variant ∈ registry.variants, ¬ variant.schema.isMatch record)
      (reason : (∃ variant ∈ registry.variants, variant.schema.claims record) ∨
        ¬ registry.base.isMatch record ∨ Tag.ofRecord? record = none) :
      Found registry record (.mismatch (registry.failures record))

/-- Either a variant matches and gives its payload, or all that is left of the variants is whether
one of them claims the record. -/
theorem resolveVariants_cases {variants : List (Variant α)}
    (hmake : ∀ variant ∈ variants, variant.schema.isMatch record →
      ∃ payload, variant.make record = some payload) (claimed : Bool) :
    (∃ variant ∈ variants, variant.schema.isMatch record ∧ ∃ payload,
        variant.make record = some payload ∧
          (resolveVariants record claimed variants).1 = some payload) ∨
      (∀ variant ∈ variants, ¬ variant.schema.isMatch record) ∧
        resolveVariants record claimed variants =
          (none, claimed || variants.any fun variant => variant.schema.claims record) := by
  induction variants generalizing claimed with
  | nil => exact .inr ⟨List.forall_mem_nil _, by rw [List.any_nil, Bool.or_false]; rfl⟩
  | cons variant variants ih =>
    obtain ⟨hmake, hmakes⟩ := List.forall_mem_cons.mp hmake
    by_cases hmatch : variant.schema.isMatch record
    · obtain ⟨payload, hpayload⟩ := hmake hmatch
      refine .inl ⟨variant, List.mem_cons_self, hmatch, payload, hpayload, ?_⟩
      rw [resolveVariants, if_pos hmatch]
      simp only [hpayload]
    · -- a variant that does not match may still claim the record
      rw [resolveVariants, if_neg hmatch]
      rcases ih hmakes (claimed || variant.schema.claims record) with
        ⟨other, hmem, hfound⟩ | ⟨hnone, hresolve⟩
      · exact .inl ⟨other, List.mem_cons_of_mem _ hmem, hfound⟩
      · refine .inr ⟨List.forall_mem_cons.mpr ⟨hmatch, hnone⟩, ?_⟩
        rw [hresolve, List.any_cons, Bool.or_assoc]

/-- Where every variant makes a payload of the records that match it, resolving a record finds out
what it is. -/
theorem found_resolve {registry : Registry α}
    (hmake : ∀ variant ∈ registry.variants, variant.schema.isMatch record →
      ∃ payload, variant.make record = some payload) :
    Found registry record (registry.resolve record) := by
  rcases resolveVariants_cases hmake false with
    ⟨variant, hknown, hmatch, payload, hmade, hresolve⟩ | ⟨hnone, hresolve⟩
  · have hresolve : registry.resolve record = .matched payload := by
      rw [resolve]
      generalize resolveVariants record false registry.variants = result at hresolve ⊢
      obtain ⟨found, claimed⟩ := result
      obtain rfl : found = some payload := hresolve
      rfl
    rw [hresolve]
    exact .matched hknown hmatch hmade
  · rw [resolve, hresolve]
    simp only [Bool.false_or]
    split
    next h =>
      rw [Bool.and_eq_true, Bool.not_eq_true', List.any_eq_false] at h
      cases htag : Tag.ofRecord? record with
      | some tag => exact .unrecognized h.1 h.2 htag
      | none => exact .mismatch hnone (.inr (.inr htag))
    next h =>
      -- one of the two conditions fails: a variant claims the record, or it breaks a base rule
      refine .mismatch hnone ?_
      rw [Bool.and_eq_true, Bool.not_eq_true', not_and_or, Bool.not_eq_false, List.any_eq_true] at h
      exact h.imp_right .inl

end Registry

end Payload

end CardService
