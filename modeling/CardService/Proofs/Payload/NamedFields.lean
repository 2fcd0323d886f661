import CardService.Proofs.Json.Members
import CardService.Proofs.Payload.Reports

/-!
# CardService — the fields that count

A record is resolved by the fields that the rules of a registry name, and by nothing else of it. This
is so of the rules by what they are; the base names the fields of a tag; and a variant is `Focused` if
it makes its payload of fields that its own rules name.

Main results:

* `Registry.resolve_congr` — records that agree on the named fields are found to be the same.
* `resolve_indifferent` — hence other members, and the order of all of them, are of no account to the
  registries of payloads.
-/

namespace CardService

/-- Two records hold the same under each of the names, or nothing. -/
def Members.AgreeOn (names : List String) (record record' : Members) : Prop :=
  ∀ name ∈ names, record.get? name = record'.get? name

namespace Members.AgreeOn

variable {names names' : List String} {record record' : Members} {key : String}

theorem mono (h : AgreeOn names record record') (hnames : names' ⊆ names) :
    AgreeOn names' record record' :=
  fun name hname => h name (hnames hname)

theorem string? (h : AgreeOn names record record') (name : String) (hname : name ∈ names) :
    record.string? name = record'.string? name := by
  rw [Members.string?, Members.string?, h name hname]

/-- A value put under another key makes no difference, whether or not there was one. -/
theorem insert (hkey : key ∉ names) (record : Members) (v : Json) :
    AgreeOn names (record.insert key v) record := by
  intro name hname
  rw [get?_insert, if_neg (ne_of_mem_of_not_mem hname hkey)]

theorem filter_ne (hkey : key ∉ names) (record : Members) :
    AgreeOn names (record.filter fun member => member.1 ≠ key) record :=
  fun _ hname => get?_filter_ne key _ record (ne_of_mem_of_not_mem hname hkey)

theorem of_perm (hperm : record.Perm record') (hkeys : (record.map Prod.fst).Nodup) :
    AgreeOn names record record' :=
  fun name _ => get?_perm name hperm hkeys

end Members.AgreeOn

namespace Payload

open Members (AgreeOn)

variable {α : Type} {record record' : Members}

/-! ## Rules -/

theorem FieldRule.holds_congr {rule : FieldRule}
    (h : record.get? rule.name = record'.get? rule.name) :
    rule.holds record = rule.holds record' := by
  rw [holds, holds, h]

namespace Schema

variable {schema : Schema}

/-- The names of the fields that a schema has rules for. -/
def fieldNames (schema : Schema) : List String := schema.fields.map FieldRule.name

theorem get?_eq_of_agreeOn (h : AgreeOn schema.fieldNames record record') {rule : FieldRule}
    (hrule : rule ∈ schema.fields) : record.get? rule.name = record'.get? rule.name :=
  h rule.name (List.mem_map_of_mem hrule)

theorem check_congr (h : AgreeOn schema.fieldNames record record') :
    schema.check record = schema.check record' := by
  refine List.filterMap_congr fun rule hrule => ?_
  have hfield := get?_eq_of_agreeOn h hrule
  rw [FieldRule.failure?, FieldRule.failure?, hfield]

theorem isMatch_congr (h : AgreeOn schema.fieldNames record record') :
    schema.isMatch record = schema.isMatch record' := by
  rw [isMatch, isMatch, check_congr h]

theorem claims_congr (h : AgreeOn schema.fieldNames record record') :
    schema.claims record = schema.claims record' := by
  refine Bool.eq_iff_iff.mpr ?_
  rw [claims_iff, claims_iff]
  refine and_congr_right' (forall₂_congr fun rule hrule => ?_)
  rw [FieldRule.holds_congr (get?_eq_of_agreeOn h hrule)]

end Schema

theorem Tag.ofRecord?_congr (h : AgreeOn (baseFields.map FieldRule.name) record record') :
    Tag.ofRecord? record = Tag.ofRecord? record' := by
  have hprovider := h.string? "provider" (by decide)
  have hversion := h "version" (by decide)
  have hkind := h.string? "type" (by decide)
  rw [Tag.ofRecord?, Tag.ofRecord?, hprovider, hversion, hkind]

/-! ## Registries -/

/-- What the variant makes of a record depends on the fields that its rules name. -/
def Variant.Focused (variant : Variant α) : Prop :=
  ∀ record record', AgreeOn variant.schema.fieldNames record record' →
    variant.make record = variant.make record'

namespace Registry

variable {registry : Registry α}

/-- The names of the fields that some rule of the registry mentions. -/
def fieldNames (registry : Registry α) : List String :=
  (registry.variants.flatMap fun variant => variant.schema.fieldNames) ++ registry.base.fieldNames

theorem resolveVariants_congr {variants : List (Variant α)}
    (hfocused : ∀ variant ∈ variants, variant.Focused)
    (h : ∀ variant ∈ variants, AgreeOn variant.schema.fieldNames record record') (claimed : Bool) :
    resolveVariants record claimed variants = resolveVariants record' claimed variants := by
  induction variants generalizing claimed with
  | nil => rfl
  | cons variant variants ih =>
    obtain ⟨hmake, hmakes⟩ := List.forall_mem_cons.mp hfocused
    obtain ⟨hfields, hothers⟩ := List.forall_mem_cons.mp h
    rw [resolveVariants, resolveVariants, Schema.isMatch_congr hfields,
      Schema.claims_congr hfields, hmake record record' hfields]
    simp only [ih hmakes hothers]

theorem failures_congr
    (hvariants : ∀ variant ∈ registry.variants, AgreeOn variant.schema.fieldNames record record')
    (hbase : AgreeOn registry.base.fieldNames record record') :
    registry.failures record = registry.failures record' := by
  rw [failures_eq, failures_eq, Schema.check_congr hbase]
  congr 1
  exact List.flatMap_congr fun variant hvariant => Schema.check_congr (hvariants variant hvariant)

/-- Records that agree on the fields that a registry names are found to be the same thing, down to
the report of a mismatch. -/
theorem resolve_congr (hbase : registry.base.fields = baseFields)
    (hfocused : ∀ variant ∈ registry.variants, variant.Focused)
    (h : AgreeOn registry.fieldNames record record') :
    registry.resolve record = registry.resolve record' := by
  have hvariants : ∀ variant ∈ registry.variants,
      AgreeOn variant.schema.fieldNames record record' := fun variant hvariant =>
    h.mono fun name hname => List.mem_append_left _ (List.mem_flatMap.mpr ⟨variant, hvariant, hname⟩)
  have hbaseFields : AgreeOn registry.base.fieldNames record record' :=
    h.mono (List.subset_append_right _ _)
  have htag : Tag.ofRecord? record = Tag.ofRecord? record' :=
    Tag.ofRecord?_congr (hbase ▸ hbaseFields)
  rw [resolve, resolve, resolveVariants_congr hfocused hvariants, Schema.isMatch_congr hbaseFields,
    htag, failures_congr hvariants hbaseFields]

/-- Nothing of a record counts but what it holds under the names that the rules mention: not what it
holds under any other key, be this added, changed or removed, and not the order of its members. -/
structure Indifferent (registry : Registry α) : Prop where
  agreeing : ∀ record record', AgreeOn registry.fieldNames record record' →
    registry.resolve record = registry.resolve record'
  inserted : ∀ (record : Members) key v, key ∉ registry.fieldNames →
    registry.resolve (record.insert key v) = registry.resolve record
  removed : ∀ (record : Members) key, key ∉ registry.fieldNames →
    registry.resolve (record.filter fun member => member.1 ≠ key) = registry.resolve record
  reordered : ∀ record record' : Members, (record.map Prod.fst).Nodup → record.Perm record' →
    registry.resolve record = registry.resolve record'

theorem indifferent_of_focused (hbase : registry.base.fields = baseFields)
    (hfocused : ∀ variant ∈ registry.variants, variant.Focused) : registry.Indifferent where
  agreeing _ _ h := resolve_congr hbase hfocused h
  inserted record _ v hkey := resolve_congr hbase hfocused (.insert hkey record v)
  removed record _ hkey := resolve_congr hbase hfocused (.filter_ne hkey record)
  reordered _ _ hkeys hperm := resolve_congr hbase hfocused (.of_perm hperm hkeys)

end Registry

/-! ## The registries of payloads -/

theorem provisioningRegistry_focused :
    ∀ variant ∈ provisioningRegistry.variants, variant.Focused := by
  simp only [provisioningRegistry, List.forall_mem_cons, List.not_mem_nil, false_implies,
    implies_true, and_true]
  refine ⟨fun record record' h => ?_, fun _ _ _ => rfl, fun _ _ _ => rfl⟩
  have hsecret := h.string? "client_secret" (by decide)
  have hintent := h.string? "intent" (by decide)
  simp only [hsecret, hintent]

theorem interactionRegistry_focused :
    ∀ variant ∈ interactionRegistry.variants, variant.Focused := by
  rw [interactionRegistry_variants, List.forall_mem_singleton]
  intro record record' h
  have hurl := h.string? "redirectUrl" (by decide)
  simp only [checkoutCardVariant, hurl]

/-- The registries of provisioning data and of interaction data find the same in every two records
that hold the same under the names which their rules mention. So a member under another key may be
added, changed or removed, and the members may be put into another order: what is made of the record,
the tag it is unknown by, and the report of a mismatch remain as they were. -/
theorem resolve_indifferent :
    provisioningRegistry.Indifferent ∧ interactionRegistry.Indifferent :=
  ⟨Registry.indifferent_of_focused rfl provisioningRegistry_focused,
    Registry.indifferent_of_focused rfl interactionRegistry_focused⟩

/-- A record that is found out in any order, and one whose report is the same with another member. -/
theorem resolve_indifferent_stripe :
    provisioningRegistry.resolve untypedStripe.reverse = .matched (.stripeCard "\"\\" "pi_1") ∧
      provisioningRegistry.resolve (pennilessStripe.insert "redirectUrl" .null) =
        provisioningRegistry.resolve pennilessStripe ∧
      interactionRegistry.resolve (redirecting.filter fun member => member.1 ≠ "extra") =
        .matched (.checkoutCard "https://a.b/\"") := by
  obtain ⟨hprovisioning, hinteraction⟩ := resolve_indifferent
  have hstripe : provisioningRegistry.resolve untypedStripe =
      .matched (.stripeCard "\"\\" "pi_1") :=
    resolve_eq_iff.mpr (.described (.stripeCard ⟨rfl, _, rfl, rfl⟩ (.inl rfl) rfl rfl))
  have hredirecting : interactionRegistry.resolve redirecting =
      .matched (.checkoutCard "https://a.b/\"") :=
    resolve_interaction_iff.mpr (.redirects (.checkoutCard ⟨rfl, _, rfl, rfl⟩ rfl rfl))
  refine ⟨?_, hprovisioning.inserted _ _ _ (by decide), ?_⟩
  · rw [← hprovisioning.reordered _ _ (by decide) (List.reverse_perm _).symm, hstripe]
  · rw [hinteraction.removed _ _ (by decide), hredirecting]

/-- The names that the rules for provisioning data mention. -/
example : provisioningRegistry.fieldNames.eraseDups =
    ["provider", "version", "type", "client_secret", "intent"] := by
  decide

end Payload

end CardService
