import CardService.Payload.Provisioning
import CardService.Proofs.Payload.Opening
import CardService.Proofs.Payload.Resolving

/-!
# CardService — what provisioning records are

A record describes one of three payloads (`Describes`), or it is well-formed but of a variant that
is not known (`OfUnknownVariant`), or neither. The conditions are told by the fields of the record;
resolving it finds out which of them holds (`classified_resolve`).
-/

namespace CardService.Payload

variable {record : Members}

/-! ## Tags -/

/-- The record is of the given provider, in the only version of payloads there is. -/
def OfProvider (provider : String) (record : Members) : Prop :=
  record.get? "provider" = some (.string provider) ∧
    ∃ version, record.get? "version" = some (.number version) ∧ version.Equals 1

/-- A tag under which one of the variants of provisioning data is known. -/
def Tag.IsKnown (tag : Tag) : Prop :=
  tag.version.Equals 1 ∧ (tag.provider, tag.kind) ∈
    [("stripe", "CREDIT_CARD"), ("checkout", "CREDIT_CARD"), ("checkout", "BANK_ACCOUNT")]

/-- The record has the three fields of a tag, and the tag is none of the known ones. -/
structure OfUnknownVariant (record : Members) (tag : Tag) : Prop where
  provider : record.get? "provider" = some (.string tag.provider)
  version : record.get? "version" = some (.number tag.version)
  kind : record.get? "type" = some (.string tag.kind)
  unknown : ¬ tag.IsKnown

theorem tagRules_hold_iff {provider : Provider} {kind : FundingSourceType} {optionalType : Bool} :
    (∀ rule ∈ tagRules provider kind optionalType, rule.holds record) ↔
      OfProvider provider.name record ∧
        ((record.get? "type" = none ∧ optionalType) ∨
          record.get? "type" = some (.string (Keyword.name kind))) := by
  have hversion : version.toNat = 1 := rfl
  simp only [tagRules, List.forall_mem_cons, List.not_mem_nil, false_implies, implies_true,
    and_true, FieldRule.holds_literalString_iff, FieldRule.holds_literalNumber_iff, hversion,
    Bool.false_eq_true, and_false, false_or, OfProvider, and_assoc]

/-- Where all three fields of the tag are there, it does not matter whether one may be absent. -/
theorem tagRules_hold_iff_of_tag {tag : Tag} (htag : Tag.ofRecord? record = some tag)
    {provider : Provider} {kind : FundingSourceType} {optionalType : Bool} :
    (∀ rule ∈ tagRules provider kind optionalType, rule.holds record) ↔
      tag.version.Equals 1 ∧ (tag.provider, tag.kind) = (provider.name, Keyword.name kind) := by
  obtain ⟨hprovider, hversion, hkind⟩ := Tag.ofRecord?_eq_some_iff.mp htag
  rw [tagRules_hold_iff, OfProvider, hprovider, hversion, hkind, Prod.mk.injEq]
  simp only [Option.some.injEq, Json.string.injEq, Json.number.injEq, exists_eq_left', reduceCtorEq,
    false_and, false_or]
  exact ⟨fun ⟨⟨hp, hv⟩, hk⟩ => ⟨hv, hp, hk⟩, fun ⟨hv, hp, hk⟩ => ⟨⟨hp, hv⟩, hk⟩⟩

/-- The discriminants of a variant are the rules for its tag. -/
theorem claims_iff_tagRules {schema : Schema} {provider : Provider} {kind : FundingSourceType}
    {optionalType : Bool} {secrets : List FieldRule}
    (hfields : schema.fields = tagRules provider kind optionalType ++ secrets)
    (hsecrets : ∀ rule ∈ secrets, rule.kind.isDiscriminant = false) :
    schema.claims record ↔ ∀ rule ∈ tagRules provider kind optionalType, rule.holds record := by
  have htag : ∀ rule ∈ tagRules provider kind optionalType, rule.kind.isDiscriminant = true := by
    intro rule hrule
    simp only [tagRules, List.mem_cons, List.not_mem_nil, or_false] at hrule
    rcases hrule with rfl | rfl | rfl <;> rfl
  rw [Schema.claims_iff, hfields]
  constructor
  · exact fun h rule hrule => h.2 rule (List.mem_append_left _ hrule) (htag rule hrule)
  · intro h
    -- the rule for the provider is a discriminant, so there is one
    refine ⟨⟨_, List.mem_append_left _ List.mem_cons_self, rfl⟩, fun rule hrule hdiscriminant => ?_⟩
    rcases List.mem_append.mp hrule with hrule | hrule
    · exact h rule hrule
    · exact absurd hdiscriminant (by rw [hsecrets rule hrule]; exact Bool.false_ne_true)

theorem base_isMatch_iff {base : Schema} (hfields : base.fields = baseFields) :
    base.isMatch record ↔ ∃ tag, Tag.ofRecord? record = some tag := by
  simp only [Schema.isMatch_iff, hfields, baseFields, List.forall_mem_cons, List.not_mem_nil,
    false_implies, implies_true, and_true, FieldRule.holds_string_iff, FieldRule.holds_number_iff,
    Tag.ofRecord?_eq_some_iff]
  constructor
  · rintro ⟨⟨provider, hprovider⟩, ⟨version, hversion⟩, kind, hkind⟩
    exact ⟨⟨provider, version, kind⟩, hprovider, hversion, hkind⟩
  · rintro ⟨tag, hprovider, hversion, hkind⟩
    exact ⟨⟨_, hprovider⟩, ⟨_, hversion⟩, _, hkind⟩

/-! ## Payloads -/

/-- The record is provisioning data of a known variant, with all that belongs to it. -/
inductive Describes (record : Members) : ProvisioningData → Prop
  | stripeCard {clientSecret intent : String} (ofStripe : OfProvider "stripe" record)
      (ofCard : record.get? "type" = none ∨ record.get? "type" = some (.string "CREDIT_CARD"))
      (hasSecret : record.get? "client_secret" = some (.string clientSecret))
      (hasIntent : record.get? "intent" = some (.string intent)) :
      Describes record (.stripeCard clientSecret intent)
  | checkoutCard (ofCheckout : OfProvider "checkout" record)
      (ofCard : record.get? "type" = some (.string "CREDIT_CARD")) :
      Describes record .checkoutCard
  | checkoutBankAccount (ofCheckout : OfProvider "checkout" record)
      (ofAccount : record.get? "type" = some (.string "BANK_ACCOUNT")) :
      Describes record .checkoutBankAccount

theorem stripeCard_isMatch_iff :
    stripeCardSchema.isMatch record ↔
      OfProvider "stripe" record ∧
        (record.get? "type" = none ∨ record.get? "type" = some (.string "CREDIT_CARD")) ∧
        (∃ s, record.get? "client_secret" = some (.string s)) ∧
        ∃ s, record.get? "intent" = some (.string s) := by
  simp only [Schema.isMatch_iff, stripeCardSchema, List.forall_mem_append, tagRules_hold_iff,
    List.forall_mem_cons, List.not_mem_nil, false_implies, implies_true, and_true,
    FieldRule.holds_string_iff, and_assoc]
  rfl

/-- The two variants of one provider that hold nothing but their tag. -/
theorem checkout_isMatch_iff {name : String} {kind : FundingSourceType} :
    (Schema.mk name (tagRules .checkout kind false)).isMatch record ↔
      OfProvider "checkout" record ∧ record.get? "type" = some (.string (Keyword.name kind)) := by
  simp only [Schema.isMatch_iff, tagRules_hold_iff, Bool.false_eq_true, and_false, false_or]
  rfl

theorem stripeCard_make_iff {data : ProvisioningData} :
    (do
      return ProvisioningData.stripeCard (← record.string? "client_secret")
        (← record.string? "intent")) = some data ↔
      ∃ clientSecret intent, record.get? "client_secret" = some (.string clientSecret) ∧
        record.get? "intent" = some (.string intent) ∧ .stripeCard clientSecret intent = data := by
  simp only [Option.bind_eq_bind, Option.bind_eq_some_iff, Members.string?_eq_some_iff,
    Option.pure_def, Option.some.injEq, exists_and_left]

/-- A record describes the payload that a variant makes of it if it matches. -/
theorem describes_iff {data : ProvisioningData} :
    Describes record data ↔ ∃ variant ∈ provisioningRegistry.variants,
      variant.schema.isMatch record ∧ variant.make record = some data := by
  simp only [provisioningRegistry, List.mem_cons, List.not_mem_nil, or_false, exists_eq_or_imp,
    exists_eq_left, stripeCard_isMatch_iff, stripeCard_make_iff]
  constructor
  · rintro (⟨hstripe, hcard, hsecret, hintent⟩ | ⟨hcheckout, hcard⟩ | ⟨hcheckout, haccount⟩)
    · exact .inl ⟨⟨hstripe, hcard, ⟨_, hsecret⟩, _, hintent⟩, _, _, hsecret, hintent, rfl⟩
    · exact .inr (.inl ⟨checkout_isMatch_iff.mpr ⟨hcheckout, hcard⟩, rfl⟩)
    · exact .inr (.inr ⟨checkout_isMatch_iff.mpr ⟨hcheckout, haccount⟩, rfl⟩)
  · rintro (⟨⟨hstripe, hcard, -⟩, clientSecret, intent, hsecret, hintent, rfl⟩ | ⟨hmatch, hmade⟩ |
      ⟨hmatch, hmade⟩)
    · exact .stripeCard hstripe hcard hsecret hintent
    · obtain ⟨hcheckout, hcard⟩ := checkout_isMatch_iff.mp hmatch
      obtain rfl := Option.some.inj hmade
      exact .checkoutCard hcheckout hcard
    · obtain ⟨hcheckout, haccount⟩ := checkout_isMatch_iff.mp hmatch
      obtain rfl := Option.some.inj hmade
      exact .checkoutBankAccount hcheckout haccount

/-- A tag is known if a variant claims the records that carry it. -/
theorem isKnown_iff {tag : Tag} (htag : Tag.ofRecord? record = some tag) :
    tag.IsKnown ↔ ∃ variant ∈ provisioningRegistry.variants, variant.schema.claims record := by
  have hstripe : stripeCardSchema.claims record ↔ tag.version.Equals 1 ∧
      (tag.provider, tag.kind) = ("stripe", "CREDIT_CARD") :=
    (claims_iff_tagRules rfl (by decide)).trans (tagRules_hold_iff_of_tag htag)
  have hcard : checkoutCardSchema.claims record ↔ tag.version.Equals 1 ∧
      (tag.provider, tag.kind) = ("checkout", "CREDIT_CARD") :=
    (claims_iff_tagRules (List.append_nil _).symm (List.forall_mem_nil _)).trans
      (tagRules_hold_iff_of_tag htag)
  have haccount : checkoutBankAccountSchema.claims record ↔ tag.version.Equals 1 ∧
      (tag.provider, tag.kind) = ("checkout", "BANK_ACCOUNT") :=
    (claims_iff_tagRules (List.append_nil _).symm (List.forall_mem_nil _)).trans
      (tagRules_hold_iff_of_tag htag)
  simp only [provisioningRegistry, Tag.IsKnown, List.mem_cons, List.not_mem_nil, or_false,
    exists_eq_or_imp, exists_eq_left, hstripe, hcard, haccount, and_or_left]

/-! ## Exactly one of three -/

/-- A tag that a record of a provider carries is of this provider and of the one version. -/
theorem OfProvider.tag {provider : String} {tag : Tag} (h : OfProvider provider record)
    (htag : Tag.ofRecord? record = some tag) : tag.provider = provider ∧ tag.version.Equals 1 := by
  obtain ⟨hprovider, version, hversion, hone⟩ := h
  obtain ⟨hprovider', hversion', -⟩ := Tag.ofRecord?_eq_some_iff.mp htag
  rw [hprovider] at hprovider'
  rw [hversion] at hversion'
  simp only [Option.some.injEq, Json.string.injEq, Json.number.injEq] at hprovider' hversion'
  exact ⟨hprovider'.symm, hversion' ▸ hone⟩

theorem OfProvider.unique {provider other : String} (h : OfProvider provider record)
    (h' : OfProvider other record) : provider = other := by
  have heq := h.1.symm.trans h'.1
  rwa [Option.some.injEq, Json.string.injEq] at heq

/-- No record describes two payloads. -/
theorem Describes.unique {data other : ProvisioningData} (h : Describes record data)
    (h' : Describes record other) : data = other := by
  cases h with
  | stripeCard hstripe _ hsecret hintent =>
    cases h' with
    | stripeCard _ _ hsecret' hintent' =>
      rw [hsecret, Option.some.injEq, Json.string.injEq] at hsecret'
      rw [hintent, Option.some.injEq, Json.string.injEq] at hintent'
      rw [hsecret', hintent']
    | checkoutCard hcheckout | checkoutBankAccount hcheckout =>
      exact absurd (hstripe.unique hcheckout) (by decide)
  | checkoutCard hcheckout hcard =>
    cases h' with
    | stripeCard hstripe => exact absurd (hstripe.unique hcheckout) (by decide)
    | checkoutCard => rfl
    | checkoutBankAccount _ haccount =>
      rw [hcard, Option.some.injEq, Json.string.injEq] at haccount
      exact absurd haccount (by decide)
  | checkoutBankAccount hcheckout haccount =>
    cases h' with
    | stripeCard hstripe => exact absurd (hstripe.unique hcheckout) (by decide)
    | checkoutCard _ hcard =>
      rw [haccount, Option.some.injEq, Json.string.injEq] at hcard
      exact absurd hcard (by decide)
    | checkoutBankAccount => rfl

theorem OfUnknownVariant.ofRecord? {tag : Tag} (h : OfUnknownVariant record tag) :
    Tag.ofRecord? record = some tag :=
  Tag.ofRecord?_eq_some_iff.mpr ⟨h.provider, h.version, h.kind⟩

theorem OfUnknownVariant.unique {tag other : Tag} (h : OfUnknownVariant record tag)
    (h' : OfUnknownVariant record other) : tag = other :=
  Option.some.inj (h.ofRecord?.symm.trans h'.ofRecord?)

/-- The tag of a record that describes a payload is a known one, if it is whole. -/
theorem Describes.not_ofUnknownVariant {data : ProvisioningData} (h : Describes record data)
    (tag : Tag) : ¬ OfUnknownVariant record tag := by
  intro hunknown
  refine hunknown.unknown ?_
  have hkind := hunknown.kind
  cases h with
  | stripeCard hstripe hcard =>
    obtain ⟨hprovider, hone⟩ := hstripe.tag hunknown.ofRecord?
    -- the type may be absent, but then the tag is not whole
    rcases hcard with habsent | hcard
    · exact absurd (hkind.symm.trans habsent) (Option.some_ne_none _)
    · rw [hcard, Option.some.injEq, Json.string.injEq] at hkind
      exact ⟨hone, by rw [hprovider, ← hkind]; decide⟩
  | checkoutCard hcheckout hcard =>
    obtain ⟨hprovider, hone⟩ := hcheckout.tag hunknown.ofRecord?
    rw [hcard, Option.some.injEq, Json.string.injEq] at hkind
    exact ⟨hone, by rw [hprovider, ← hkind]; decide⟩
  | checkoutBankAccount hcheckout haccount =>
    obtain ⟨hprovider, hone⟩ := hcheckout.tag hunknown.ofRecord?
    rw [haccount, Option.some.injEq, Json.string.injEq] at hkind
    exact ⟨hone, by rw [hprovider, ← hkind]; decide⟩

/-- What resolving a record of provisioning data gives, by what the record is. -/
inductive Classified (record : Members) : Resolution ProvisioningData → Prop
  | described {data : ProvisioningData} (h : Describes record data) :
      Classified record (.matched data)
  | unknown {tag : Tag} (h : OfUnknownVariant record tag) : Classified record (.unrecognized tag)
  | neither (undescribed : ∀ data, ¬ Describes record data)
      (untagged : ∀ tag, ¬ OfUnknownVariant record tag) :
      Classified record (.mismatch (provisioningRegistry.failures record))

theorem make_of_isMatch : ∀ variant ∈ provisioningRegistry.variants,
    variant.schema.isMatch record → ∃ data, variant.make record = some data := by
  intro variant hknown hmatch
  simp only [provisioningRegistry, List.mem_cons, List.not_mem_nil, or_false] at hknown
  rcases hknown with rfl | rfl | rfl
  · obtain ⟨-, -, ⟨_, hsecret⟩, _, hintent⟩ := stripeCard_isMatch_iff.mp hmatch
    exact ⟨_, stripeCard_make_iff.mpr ⟨_, _, hsecret, hintent, rfl⟩⟩
  · exact ⟨_, rfl⟩
  · exact ⟨_, rfl⟩

theorem classified_resolve (record : Members) :
    Classified record (provisioningRegistry.resolve record) := by
  have hfound := Registry.found_resolve (@make_of_isMatch record)
  have hbase : provisioningRegistry.base.isMatch record ↔ ∃ tag, Tag.ofRecord? record = some tag :=
    base_isMatch_iff rfl
  generalize provisioningRegistry.resolve record = resolution at hfound ⊢
  cases hfound with
  | matched known fits made => exact .described (describes_iff.mpr ⟨_, known, fits, made⟩)
  | @unrecognized tag unclaimed base tagged =>
    obtain ⟨hprovider, hversion, hkind⟩ := Tag.ofRecord?_eq_some_iff.mp tagged
    refine .unknown ⟨hprovider, hversion, hkind, fun hknown => ?_⟩
    obtain ⟨variant, hmem, hclaims⟩ := (isKnown_iff tagged).mp hknown
    exact unclaimed variant hmem hclaims
  | mismatch unmatched reason =>
    refine .neither (fun data hdescribes => ?_) (fun tag hunknown => ?_)
    · obtain ⟨variant, hmem, hmatch, -⟩ := describes_iff.mp hdescribes
      exact unmatched variant hmem hmatch
    · -- with a whole tag the base schema holds, so it was a variant that claimed the record
      have htag := hunknown.ofRecord?
      rcases reason with hclaimed | hbroken | huntagged
      · exact hunknown.unknown ((isKnown_iff htag).mpr hclaimed)
      · exact hbroken (hbase.mpr ⟨tag, htag⟩)
      · exact Option.some_ne_none tag (htag.symm.trans huntagged)

/-- A record is one thing only. -/
theorem Classified.unique {resolution other : Resolution ProvisioningData}
    (h : Classified record resolution) (h' : Classified record other) : resolution = other := by
  cases h with
  | described h =>
    cases h' with
    | described h' => rw [h.unique h']
    | unknown h' => exact absurd h' (h.not_ofUnknownVariant _)
    | neither undescribed => exact absurd h (undescribed _)
  | unknown h =>
    cases h' with
    | described h' => exact absurd h (h'.not_ofUnknownVariant _)
    | unknown h' => rw [h.unique h']
    | neither _ untagged => exact absurd h (untagged _)
  | neither undescribed untagged =>
    cases h' with
    | described h' => exact absurd h' (undescribed _)
    | unknown h' => exact absurd h' (untagged _)
    | neither => rfl

theorem resolve_eq_iff {resolution : Resolution ProvisioningData} :
    provisioningRegistry.resolve record = resolution ↔ Classified record resolution :=
  ⟨fun h => h ▸ classified_resolve record, fun h => (classified_resolve record).unique h⟩

theorem classified_matched_iff {data : ProvisioningData} :
    Classified record (.matched data) ↔ Describes record data :=
  ⟨fun | .described h => h, .described⟩

theorem classified_unrecognized_iff {tag : Tag} :
    Classified record (.unrecognized tag) ↔ OfUnknownVariant record tag :=
  ⟨fun | .unknown h => h, .unknown⟩

theorem classified_mismatch_iff :
    Classified record (.mismatch (provisioningRegistry.failures record)) ↔
      (∀ data, ¬ Describes record data) ∧ ∀ tag, ¬ OfUnknownVariant record tag :=
  ⟨fun | .neither undescribed untagged => ⟨undescribed, untagged⟩, fun h => .neither h.1 h.2⟩

/-! ## Decoding -/

section PayloadOf

variable {α : Type} {pipeline : Pipeline} {resolution : Resolution α}

theorem payloadOf_eq_ok_iff {payload : α} :
    payloadOf pipeline record resolution = .ok payload ↔ resolution = .matched payload := by
  cases resolution <;> simp [payloadOf]

theorem payloadOf_eq_unrecognized_iff {tag : Tag} :
    payloadOf pipeline record resolution = .error ⟨pipeline, .unrecognized tag⟩ ↔
      resolution = .unrecognized tag := by
  cases resolution <;> simp [payloadOf]

theorem payloadOf_eq_noMatch_iff {failures : List PathFailure} :
    payloadOf pipeline record resolution = .error ⟨pipeline, .noMatch record failures⟩ ↔
      resolution = .mismatch failures := by
  cases resolution <;> simp [payloadOf]

end PayloadOf

theorem decodeProvisioning_of_record {raw : String}
    (hrecord : decodeEnvelope .provisioning raw = .ok (.object record)) :
    decodeProvisioning raw =
      payloadOf .provisioning record (provisioningRegistry.resolve record) := by
  rw [decodeProvisioning, decodeRecord_of_object hrecord]
  rfl

/-- A record is decoded as the payload that it describes; it is of an unknown variant where its tag
is whole and none of the known ones; and it matches nothing in every other case. So these cases are
all there are, no two of them happen together, and a record that satisfies only what all variants
share is never decoded. -/
theorem decodeProvisioning_classifies {raw : String}
    (hrecord : decodeEnvelope .provisioning raw = .ok (.object record)) :
    (∀ data, decodeProvisioning raw = .ok data ↔ Describes record data) ∧
    (∀ tag, decodeProvisioning raw = .error ⟨.provisioning, .unrecognized tag⟩ ↔
      OfUnknownVariant record tag) ∧
    (decodeProvisioning raw =
        .error ⟨.provisioning, .noMatch record (provisioningRegistry.failures record)⟩ ↔
      (∀ data, ¬ Describes record data) ∧ ∀ tag, ¬ OfUnknownVariant record tag) ∧
    (∃! resolution, Classified record resolution) ∧
    ((∀ variant ∈ provisioningRegistry.variants, ¬ variant.schema.isMatch record) →
      ∀ data, decodeProvisioning raw ≠ .ok data) := by
  have hdata : ∀ data, decodeProvisioning raw = .ok data ↔ Describes record data := by
    intro data
    rw [decodeProvisioning_of_record hrecord, payloadOf_eq_ok_iff, resolve_eq_iff,
      classified_matched_iff]
  refine ⟨hdata, fun tag => ?_, ?_, ?_, fun hbase data hdecoded => ?_⟩
  · rw [decodeProvisioning_of_record hrecord, payloadOf_eq_unrecognized_iff, resolve_eq_iff,
      classified_unrecognized_iff]
  · rw [decodeProvisioning_of_record hrecord, payloadOf_eq_noMatch_iff, resolve_eq_iff,
      classified_mismatch_iff]
  · exact ⟨_, classified_resolve record, fun _ h => h.unique (classified_resolve record)⟩
  · obtain ⟨variant, hmem, hmatch, -⟩ := describes_iff.mp ((hdata data).mp hdecoded)
    exact hbase variant hmem hmatch

/-- A record without a type, and with a member too many. -/
def untypedStripe : Members :=
  [("extra", .array [.null]), ("intent", .string "pi_1"), ("version", .ofUInt32 1),
    ("provider", .string "stripe"), ("client_secret", .string "\"\\")]

/-- A record of a version that is not known. -/
def laterCheckout : Members :=
  [("type", .string "BANK_ACCOUNT"), ("version", .ofUInt32 2), ("provider", .string "checkout"),
    ("extra", .array [.null])]

theorem untypedStripe_decoded_laterCheckout_unknown :
    (decodeEnvelope .provisioning (encodeEnvelope (.object untypedStripe)) =
        .ok (.object untypedStripe) ∧
      decodeProvisioning (encodeEnvelope (.object untypedStripe)) =
        .ok (.stripeCard "\"\\" "pi_1")) ∧
    (decodeEnvelope .provisioning (encodeEnvelope (.object laterCheckout)) =
        .ok (.object laterCheckout) ∧
      decodeProvisioning (encodeEnvelope (.object laterCheckout)) =
        .error ⟨.provisioning, .unrecognized ⟨"checkout", .ofUInt32 2, "BANK_ACCOUNT"⟩⟩) := by
  have hstripe := decodeEnvelope_encodeEnvelope .provisioning (v := .object untypedStripe)
    (by decide) (by decide) (by decide)
  have hcheckout := decodeEnvelope_encodeEnvelope .provisioning (v := .object laterCheckout)
    (by decide) (by decide) (by decide)
  refine ⟨⟨hstripe, ((decodeProvisioning_classifies hstripe).1 _).mpr ?_⟩,
    hcheckout, ((decodeProvisioning_classifies hcheckout).2.1 _).mpr ?_⟩
  · exact .stripeCard ⟨rfl, _, rfl, rfl⟩ (.inl rfl) rfl rfl
  · exact ⟨rfl, rfl, rfl, fun h => absurd (show (2 : Int) = 1 from h.1) (by decide)⟩

end CardService.Payload
