import CardService.Proofs.Payload.Interaction

/-!
# CardService — why a record matches nothing

A record that matches nothing is answered with a report. Which rules belong in it is told here by the
fields of the record alone (`FieldRule.Broken`), for each rule of a registry in the order in which the
registry lists them (`Registry.rules`). A report that leaves none of these out and adds none is
`Registry.Explained`; it is never empty, because a record that breaks no rule matches something.

Main results:

* `Registry.explained_of_mismatch` — in a registry whose variants make something of every record that
  matches them, every mismatch is explained.
* `mismatch_explained` — the two registries of payloads are of this kind, so no record is refused for
  matching nothing without a reason.
-/

namespace CardService.Payload

variable {α : Type} {record : Members}

/-! ## Broken rules -/

/-- The values that a rule of a kind allows. -/
inductive FieldKind.Allows : FieldKind → Json → Prop
  | string (s : String) : Allows .string (.string s)
  | number (x : Number) : Allows .number (.number x)
  | literalString (expected : String) : Allows (.literalString expected) (.string expected)
  | literalNumber {expected : UInt32} {x : Number} (hequals : x.Equals expected.toNat) :
      Allows (.literalNumber expected) (.number x)

theorem FieldKind.accepts_iff_allows {kind : FieldKind} {v : Json} :
    kind.accepts v ↔ kind.Allows v := by
  cases kind with
  | string =>
    rw [accepts_string_iff]
    exact ⟨fun ⟨s, h⟩ => h ▸ .string s, fun | .string s => ⟨s, rfl⟩⟩
  | number =>
    rw [accepts_number_iff]
    exact ⟨fun ⟨x, h⟩ => h ▸ .number x, fun | .number x => ⟨x, rfl⟩⟩
  | literalString expected =>
    rw [accepts_literalString_iff]
    exact ⟨fun h => h ▸ .literalString expected, fun | .literalString _ => rfl⟩
  | literalNumber expected =>
    rw [accepts_literalNumber_iff]
    exact ⟨fun ⟨_, h, hequals⟩ => h ▸ .literalNumber hequals,
      fun | .literalNumber hequals => ⟨_, rfl, hequals⟩⟩

/-- The record breaks the rule: a field that has to be there is absent, or the field holds a value
that is not allowed, whether or not it has to be there. -/
inductive FieldRule.Broken (rule : FieldRule) (record : Members) : Prop
  | absent (nothing : record.get? rule.name = none) (required : rule.optional = false)
  | unfit {v : Json} (present : record.get? rule.name = some v) (unfit : ¬ rule.kind.Allows v)

theorem FieldRule.broken_iff {rule : FieldRule} : rule.Broken record ↔ ¬ rule.holds record := by
  rw [holds_iff, not_or, not_and, Bool.not_eq_true]
  constructor
  · rintro (⟨hnone, hrequired⟩ | ⟨hpresent, hunfit⟩)
    · exact ⟨fun _ => hrequired, fun ⟨v, hv, _⟩ => Option.some_ne_none v (hv.symm.trans hnone)⟩
    · refine ⟨fun hnone => absurd (hpresent.symm.trans hnone) (Option.some_ne_none _), ?_⟩
      rintro ⟨w, hw, haccepts⟩
      obtain rfl := Option.some.inj (hpresent.symm.trans hw)
      exact hunfit (FieldKind.accepts_iff_allows.mp haccepts)
  · rintro ⟨hrequired, hunfit⟩
    cases hfield : record.get? rule.name with
    | none => exact .absent hfield (hrequired hfield)
    | some v =>
      refine .unfit hfield fun hallows => ?_
      exact hunfit ⟨v, hfield, FieldKind.accepts_iff_allows.mpr hallows⟩

instance (rule : FieldRule) (record : Members) : Decidable (rule.Broken record) :=
  decidable_of_iff _ FieldRule.broken_iff.symm

/-! ## Reports -/

/-- The rule that a failure is about, behind the name of its schema. -/
def PathFailure.place (failure : PathFailure) : String × FieldRule := (failure.schema, failure.rule)

/-- The rules of a schema, each behind the name of the schema. -/
def Schema.rules (schema : Schema) : List (String × FieldRule) :=
  schema.fields.map fun rule => (schema.name, rule)

/-- The rules of a registry: those of its variants in order, and those of its base at the end. -/
def Registry.rules (registry : Registry α) : List (String × FieldRule) :=
  (registry.variants.flatMap fun variant => variant.schema.rules) ++ registry.base.rules

/-- A report says why a record matches nothing: it has something to say, it lists the rules that the
record breaks and no others, one by one in the order of the registry, and it shows for each of them
what the record holds there. -/
structure Registry.Explained (registry : Registry α) (record : Members)
    (failures : List PathFailure) : Prop where
  nonempty : failures ≠ []
  listed : failures.map PathFailure.place =
    registry.rules.filter fun (_, rule) => rule.Broken record
  actual : ∀ failure ∈ failures, failure.actual = record.get? failure.rule.name
  message : ∀ failure ∈ failures, failure.message =
    "Invalid value " ++ (record.get? failure.rule.name).elim "undefined" Json.text ++
      " supplied to : " ++ failure.schema ++ "/" ++ failure.rule.name ++ ": " ++
      failure.rule.kind.describe

/-- The check reports a failure for each broken rule, with what the record has there. -/
theorem Schema.mem_check_iff {schema : Schema} {failure : PathFailure} :
    failure ∈ schema.check record ↔ ∃ rule ∈ schema.fields, rule.Broken record ∧
      failure = ⟨schema.name, rule, record.get? rule.name⟩ := by
  simp only [check, List.mem_filterMap, FieldRule.failure?_eq_some_iff, FieldRule.broken_iff]

theorem Schema.mem_check {schema : Schema} {failure : PathFailure}
    (h : failure ∈ schema.check record) : failure.actual = record.get? failure.rule.name := by
  obtain ⟨rule, -, -, rfl⟩ := mem_check_iff.mp h
  rfl

/-- The check of a schema lists the rules that are broken, in their order. -/
theorem Schema.map_place_check (schema : Schema) (record : Members) :
    (schema.check record).map PathFailure.place =
      schema.rules.filter fun (_, rule) => rule.Broken record := by
  obtain ⟨name, fields⟩ := schema
  rw [check, rules]
  induction fields with
  | nil => rfl
  | cons rule fields ih =>
    rw [List.filterMap_cons, List.map_cons, List.filter_cons]
    by_cases hbroken : rule.Broken record
    · have hfailure : rule.failure? name record = some ⟨name, rule, record.get? rule.name⟩ :=
        FieldRule.failure?_eq_some_iff.mpr ⟨FieldRule.broken_iff.mp hbroken, rfl⟩
      simp only [hfailure, hbroken, decide_true, if_true, List.map_cons]
      rw [ih]
      rfl
    · have hkept : rule.failure? name record = none :=
        FieldRule.failure?_eq_none_iff.mpr (not_not.mp fun h => hbroken (FieldRule.broken_iff.mpr h))
      simp only [hkept, hbroken, decide_false, Bool.false_eq_true, if_false]
      exact ih

namespace Registry

variable {registry : Registry α}

theorem failures_eq (registry : Registry α) (record : Members) :
    registry.failures record =
      (registry.variants.flatMap fun variant => variant.schema.check record) ++
        registry.base.check record := by
  rw [failures, List.flatMap_append, List.flatMap_map, List.flatMap_singleton]

theorem map_place_failures (registry : Registry α) (record : Members) :
    (registry.failures record).map PathFailure.place =
      registry.rules.filter fun (_, rule) => rule.Broken record := by
  rw [failures_eq, rules, List.map_append, List.filter_append, List.map_flatMap,
    List.filter_flatMap, Schema.map_place_check]
  simp only [Schema.map_place_check]

theorem actual_of_mem_failures {failure : PathFailure} (h : failure ∈ registry.failures record) :
    failure.actual = record.get? failure.rule.name := by
  obtain ⟨schema, -, hcheck⟩ := List.mem_flatMap.mp h
  exact Schema.mem_check hcheck

/-- A schema that a record does not match contributes to the report. -/
theorem failures_ne_nil_of_not_isMatch {schema : Schema}
    (hschema : schema ∈ registry.variants.map (·.schema) ++ [registry.base])
    (hmatch : ¬ schema.isMatch record) : registry.failures record ≠ [] := by
  intro hnil
  refine hmatch (List.isEmpty_iff.mpr ?_)
  exact List.flatMap_eq_nil_iff.mp hnil schema hschema

/-- The variants make something of every record that matches them. -/
def Productive (registry : Registry α) : Prop :=
  ∀ variant ∈ registry.variants, ∀ record, variant.schema.isMatch record →
    ∃ payload, variant.make record = some payload

/-- Whatever the reason for a mismatch is, it is the broken rule of some schema: of a variant that
claims the record without matching it, or of the base. For where no rule of the base is broken, the
record has a tag. -/
theorem explained_of_mismatch (hbase : registry.base.fields = baseFields)
    (hproductive : registry.Productive) {failures : List PathFailure}
    (hmismatch : registry.resolve record = .mismatch failures) :
    registry.Explained record failures := by
  have hfound := found_resolve fun variant hknown => hproductive variant hknown record
  rw [hmismatch] at hfound
  cases hfound with
  | mismatch hunmatched hreason =>
    refine ⟨?_, map_place_failures registry record, fun _ => actual_of_mem_failures,
      fun failure hfailure => ?_⟩
    · have hbasemem : registry.base ∈ registry.variants.map (·.schema) ++ [registry.base] :=
        List.mem_append_right _ List.mem_cons_self
      rcases hreason with ⟨variant, hknown, -⟩ | hbroken | huntagged
      · have hmem : variant.schema ∈ registry.variants.map (·.schema) ++ [registry.base] :=
          List.mem_append_left _ (List.mem_map_of_mem hknown)
        exact failures_ne_nil_of_not_isMatch hmem (hunmatched variant hknown)
      · exact failures_ne_nil_of_not_isMatch hbasemem hbroken
      · refine failures_ne_nil_of_not_isMatch hbasemem fun hmatch => ?_
        obtain ⟨tag, htag⟩ := (base_isMatch_iff hbase).mp hmatch
        exact Option.some_ne_none tag (htag.symm.trans huntagged)
    · rw [← actual_of_mem_failures hfailure]
      rfl

end Registry

/-! ## The registries of payloads -/

theorem provisioningRegistry_productive : provisioningRegistry.Productive :=
  fun variant hknown _ => make_of_isMatch variant hknown

theorem interactionRegistry_productive : interactionRegistry.Productive :=
  fun variant hknown _ => make_interaction_of_isMatch variant hknown

/-- What is refused for matching nothing carries the record and its report. -/
theorem payloadOf_eq_error {pipeline : Pipeline} {resolution : Resolution α} {e : DecodeError}
    (h : payloadOf pipeline record resolution = .error e) (hstage : e.stage = .noMatch) :
    ∃ failures, resolution = .mismatch failures ∧ e.refusal = .noMatch record failures := by
  cases resolution with
  | matched payload => cases h
  | unrecognized tag =>
    obtain rfl := Except.error.inj h
    cases hstage
  | mismatch failures =>
    obtain rfl := Except.error.inj h
    exact ⟨failures, rfl, rfl⟩

/-- A refusal at this stage comes from a record that was found in the envelope and resolved. -/
theorem explained_of_noMatch {registry : Registry α} {pipeline : Pipeline} {raw : String}
    {e : DecodeError} (hbase : registry.base.fields = baseFields)
    (hproductive : registry.Productive)
    (h : (do
      let record ← decodeRecord pipeline raw
      payloadOf pipeline record (registry.resolve record)) = .error e)
    (hstage : e.stage = .noMatch) :
    ∃ record failures, e.refusal = .noMatch record failures ∧
      registry.Explained record failures := by
  cases hopened : decodeRecord pipeline raw with
  | error refused =>
    rw [hopened] at h
    obtain rfl : refused = e := Except.error.inj h
    obtain ⟨-, hearlier⟩ := decodeRecord_error hopened
    exact absurd (hstage ▸ hearlier) (by decide)
  | ok record =>
    rw [hopened] at h
    obtain ⟨failures, hmismatch, hrefusal⟩ := payloadOf_eq_error h hstage
    exact ⟨record, failures, hrefusal,
      Registry.explained_of_mismatch hbase hproductive hmismatch⟩

/-- In every registry with the base of payloads, whose variants make something of every record that
matches them, a mismatch comes with a report that is not empty and lists exactly the rules that the
record breaks: variant by variant, and the base at the end. The registries of provisioning data and
of interaction data are of this kind, so that whatever is refused for matching nothing is refused
with such a report. -/
theorem mismatch_explained :
    (∀ {α : Type} {registry : Registry α}, registry.base.fields = baseFields →
      registry.Productive → ∀ record failures, registry.resolve record = .mismatch failures →
        registry.Explained record failures) ∧
    (provisioningRegistry.base.fields = baseFields ∧ provisioningRegistry.Productive) ∧
    (interactionRegistry.base.fields = baseFields ∧ interactionRegistry.Productive) ∧
    (∀ raw e, decodeProvisioning raw = .error e → e.stage = .noMatch →
      ∃ record failures, e.refusal = .noMatch record failures ∧
        provisioningRegistry.Explained record failures) ∧
    (∀ info e, decodeInteraction info = .error e → e.stage = .noMatch →
      ∃ record failures, e.refusal = .noMatch record failures ∧
        interactionRegistry.Explained record failures) := by
  refine ⟨fun hbase hproductive record failures hmismatch => ?_,
    ⟨rfl, provisioningRegistry_productive⟩, ⟨rfl, interactionRegistry_productive⟩,
    fun raw e hrefused hstage => ?_, fun info e hrefused hstage => ?_⟩
  · exact Registry.explained_of_mismatch hbase hproductive hmismatch
  · exact explained_of_noMatch rfl provisioningRegistry_productive hrefused hstage
  · by_cases hcarries : ∃ raw, Carries info raw
    · obtain ⟨raw, hcarries⟩ := hcarries
      rw [decodeInteraction_of_carries hcarries] at hrefused
      exact explained_of_noMatch rfl interactionRegistry_productive hrefused hstage
    · -- without an envelope there is no record to be refused
      rw [decodeInteraction_of_missing hcarries] at hrefused
      obtain rfl := Except.error.inj hrefused
      cases hstage

/-- A record that one variant claims, although its intent is no text and its secret is missing. -/
def pennilessStripe : Members :=
  [("intent", .bool true), ("version", .ofUInt32 1), ("provider", .string "stripe")]

/-- Each variant has its say, also those that do not claim the record, and so has the base. -/
theorem mismatch_explained_penniless :
    ∃ failures, provisioningRegistry.resolve pennilessStripe = .mismatch failures ∧
      provisioningRegistry.Explained pennilessStripe failures ∧
      failures.map (fun failure => (failure.schema, failure.rule.name)) =
        [("StripeCardProvisioningData", "client_secret"), ("StripeCardProvisioningData", "intent"),
          ("CheckoutCardProvisioningData", "provider"), ("CheckoutCardProvisioningData", "type"),
          ("CheckoutBankAccountProvisioningData", "provider"),
          ("CheckoutBankAccountProvisioningData", "type"), ("BaseProvisioningData", "type")] ∧
      failures.map (fun failure => failure.actual.map Json.text) =
        [none, some "true", some "\"stripe\"", none, some "\"stripe\"", none, none] := by
  have hstripe : OfProvider "stripe" pennilessStripe := ⟨rfl, _, rfl, rfl⟩
  have hnothing : ∀ data, ¬ Describes pennilessStripe data := by
    rintro data (⟨-, -, hsecret⟩ | ⟨hcheckout⟩ | ⟨hcheckout⟩)
    · exact Option.some_ne_none _ (hsecret.symm.trans rfl)
    · exact absurd (hstripe.unique hcheckout) (by decide)
    · exact absurd (hstripe.unique hcheckout) (by decide)
  have huntagged : ∀ tag, ¬ OfUnknownVariant pennilessStripe tag :=
    fun _ hunknown => Option.some_ne_none _ (hunknown.kind.symm.trans rfl)
  have hmismatch := resolve_eq_iff.mpr (Classified.neither hnothing huntagged)
  obtain ⟨hexplained, ⟨hbase, hproductive⟩, -⟩ := mismatch_explained
  exact ⟨_, hmismatch, hexplained hbase hproductive _ _ hmismatch, by decide +kernel,
    by decide +kernel⟩

end CardService.Payload
