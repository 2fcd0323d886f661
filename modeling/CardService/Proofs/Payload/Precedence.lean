import CardService.Proofs.Payload.Classification
import Mathlib.Data.List.Perm.Basic

/-!
# CardService — registries without precedence

A registry tries its variants in order, and the first one that gives a payload wins. If no record
matches two of the variants (`Registry.Exclusive`), then this order is of no account: it can be
changed at will, and every record is found to be the same thing (`resolve_reordered`). Only the
report of a mismatch follows the order.

The argument takes the one pass over the variants apart into two searches. Which payload is found
(`resolveVariants_fst`) is the same in every order because at most one variant has any to give, and
whether the record concerns some variant (`resolveVariants_snd`) has nothing to do with order.
-/

namespace CardService.Payload

variable {α : Type} {record : Members}

/-! ## One pass as two searches -/

/-- The payload that a variant gives, if the record matches it. -/
def Variant.give? (variant : Variant α) (record : Members) : Option α :=
  if variant.schema.isMatch record then variant.make record else none

/-- Whether a record matches a variant, or is claimed by it all the same. -/
def Variant.concerns (variant : Variant α) (record : Members) : Bool :=
  variant.schema.isMatch record || variant.schema.claims record

theorem Variant.isMatch_of_give? {variant : Variant α} {payload : α}
    (h : variant.give? record = some payload) : variant.schema.isMatch record := by
  unfold give? at h
  split at h
  · assumption
  · cases h

namespace Registry

theorem resolveVariants_cons_of_some {variant : Variant α} {payload : α}
    (h : variant.give? record = some payload) (claimed : Bool) (rest : List (Variant α)) :
    resolveVariants record claimed (variant :: rest) = (some payload, claimed) := by
  have hmatch := Variant.isMatch_of_give? h
  rw [Variant.give?, if_pos hmatch] at h
  rw [resolveVariants, if_pos hmatch]
  simp only [h]

/-- A variant that gives nothing is passed over, and what is known of the record from then on is
whether it was of any concern. -/
theorem resolveVariants_cons_of_none {variant : Variant α} (h : variant.give? record = none)
    (claimed : Bool) (rest : List (Variant α)) :
    resolveVariants record claimed (variant :: rest) =
      resolveVariants record (claimed || variant.concerns record) rest := by
  rw [resolveVariants]
  by_cases hmatch : variant.schema.isMatch record
  · rw [Variant.give?, if_pos hmatch] at h
    rw [if_pos hmatch, Variant.concerns, hmatch, Bool.true_or, Bool.or_true]
    simp only [h]
  · rw [Bool.not_eq_true] at hmatch
    rw [hmatch, if_neg Bool.false_ne_true, Variant.concerns, hmatch, Bool.false_or]

/-- The first payload that a variant has to give is the one that is found. -/
theorem resolveVariants_fst (record : Members) (claimed : Bool) (variants : List (Variant α)) :
    (resolveVariants record claimed variants).1 =
      variants.findSome? fun variant => variant.give? record := by
  induction variants generalizing claimed with
  | nil => rfl
  | cons variant rest ih =>
    rw [List.findSome?_cons]
    cases hgive : variant.give? record with
    | some payload => rw [resolveVariants_cons_of_some hgive]
    | none => rw [resolveVariants_cons_of_none hgive, ih]

/-- Where none is found, all variants were asked whether the record concerns them. -/
theorem resolveVariants_snd {variants : List (Variant α)} (claimed : Bool)
    (hnone : (variants.findSome? fun variant => variant.give? record) = none) :
    (resolveVariants record claimed variants).2 =
      (claimed || variants.any fun variant => variant.concerns record) := by
  induction variants generalizing claimed with
  | nil => rw [List.any_nil, Bool.or_false]; rfl
  | cons variant rest ih =>
    have hgive := List.findSome?_eq_none_iff.mp hnone variant List.mem_cons_self
    rw [List.findSome?_cons, hgive] at hnone
    rw [resolveVariants_cons_of_none hgive, ih _ hnone, List.any_cons, Bool.or_assoc]

variable {registry registry' : Registry α}

theorem resolve_of_some {payload : α}
    (hfound : (registry.variants.findSome? fun variant => variant.give? record) = some payload) :
    registry.resolve record = .matched payload := by
  have hfst := (resolveVariants_fst record false registry.variants).trans hfound
  rw [resolve]
  generalize resolveVariants record false registry.variants = result at hfst ⊢
  obtain ⟨found, claimed⟩ := result
  obtain rfl : found = some payload := hfst
  rfl

/-- What a record without a payload is found to be. -/
def unmatched (registry : Registry α) (record : Members) (concerned : Bool) : Resolution α :=
  if !concerned && registry.base.isMatch record then
    match Tag.ofRecord? record with
    | some tag => .unrecognized tag
    | none => .mismatch (registry.failures record)
  else .mismatch (registry.failures record)

theorem resolve_of_none
    (hnone : (registry.variants.findSome? fun variant => variant.give? record) = none) :
    registry.resolve record = registry.unmatched record
      (registry.variants.any fun variant => variant.concerns record) := by
  have hpass : resolveVariants record false registry.variants =
      (none, registry.variants.any fun variant => variant.concerns record) :=
    Prod.ext ((resolveVariants_fst record false registry.variants).trans hnone)
      ((resolveVariants_snd false hnone).trans (Bool.false_or _))
  rw [resolve, hpass]
  rfl

/-! ## Another order -/

/-- No record matches two of the variants. -/
def Exclusive (registry : Registry α) : Prop :=
  ∀ record, registry.variants.Pairwise fun variant other =>
    ¬ (variant.schema.isMatch record ∧ other.schema.isMatch record)

/-- Where at most one variant has a payload to give, the order of the search makes no difference. -/
theorem findSome?_give?_perm {variants variants' : List (Variant α)}
    (hperm : variants.Perm variants')
    (hexclusive : variants.Pairwise fun variant other =>
      ¬ (variant.schema.isMatch record ∧ other.schema.isMatch record)) :
    (variants.findSome? fun variant => variant.give? record) =
      variants'.findSome? fun variant => variant.give? record := by
  -- on the way from one order to the other, only neighbours are swapped
  induction hperm with
  | nil => rfl
  | cons variant _ ih =>
    rw [List.findSome?_cons, List.findSome?_cons, ih (List.pairwise_cons.mp hexclusive).2]
  | swap variant other rest =>
    rw [List.findSome?_cons, List.findSome?_cons, List.findSome?_cons, List.findSome?_cons]
    cases hother : other.give? record with
    | none => rfl
    | some payload =>
      cases hgive : variant.give? record with
      | none => rfl
      | some payload' =>
        -- both would match the record, and this is what the registry excludes
        have hapart := (List.pairwise_cons.mp hexclusive).1 variant List.mem_cons_self
        exact absurd ⟨Variant.isMatch_of_give? hother, Variant.isMatch_of_give? hgive⟩ hapart
  | trans hperm _ ih ih' =>
    -- to be exclusive is symmetric, so it holds of the order in the middle too
    have hmiddle := (hperm.pairwise_iff fun hapart hboth => hapart hboth.symm).mp hexclusive
    exact (ih hexclusive).trans (ih' hmiddle)

theorem failures_perm (hperm : registry.variants.Perm registry'.variants)
    (hbase : registry'.base = registry.base) (record : Members) :
    (registry.failures record).Perm (registry'.failures record) := by
  rw [failures, failures, hbase]
  exact ((hperm.map _).append_right _).flatMap_right _

end Registry

/-- The same finding, but for the order in which broken rules are reported. -/
inductive Resolution.Reordered : Resolution α → Resolution α → Prop
  | matched (payload : α) : Reordered (.matched payload) (.matched payload)
  | unrecognized (tag : Tag) : Reordered (.unrecognized tag) (.unrecognized tag)
  | mismatch {failures failures' : List PathFailure} (hperm : failures.Perm failures') :
      Reordered (.mismatch failures) (.mismatch failures')

theorem Registry.unmatched_reordered {registry registry' : Registry α}
    (hperm : registry.variants.Perm registry'.variants) (hbase : registry'.base = registry.base)
    (record : Members) (concerned : Bool) :
    (registry.unmatched record concerned).Reordered (registry'.unmatched record concerned) := by
  have hmismatch := failures_perm hperm hbase record
  rw [unmatched, unmatched, hbase]
  split
  · cases Tag.ofRecord? record with
    | some tag => exact .unrecognized tag
    | none => exact .mismatch hmismatch
  · exact .mismatch hmismatch

/-! ## The order of provisioning data -/

/-- The variants differ in their providers, and those of one provider in their types. -/
theorem provisioningRegistry_exclusive : provisioningRegistry.Exclusive := by
  intro record
  simp only [provisioningRegistry, List.pairwise_cons, List.forall_mem_cons, List.not_mem_nil,
    false_implies, implies_true, and_true, List.Pairwise.nil]
  refine ⟨⟨?_, ?_⟩, ?_⟩
  · rintro ⟨hstripe, hcard⟩
    have hprovider := (stripeCard_isMatch_iff.mp hstripe).1
    exact absurd (hprovider.unique (checkout_isMatch_iff.mp hcard).1) (by decide)
  · rintro ⟨hstripe, haccount⟩
    have hprovider := (stripeCard_isMatch_iff.mp hstripe).1
    exact absurd (hprovider.unique (checkout_isMatch_iff.mp haccount).1) (by decide)
  · rintro ⟨hcard, haccount⟩
    have hkind := (checkout_isMatch_iff.mp hcard).2
    rw [(checkout_isMatch_iff.mp haccount).2, Option.some.injEq, Json.string.injEq] at hkind
    exact absurd hkind (by decide)

/-- Where no record matches two of the variants, their order does not matter: with the variants in
any other order, every record that was found to be a payload is found to be the same payload, every
one that was of an unknown variant is so under the same tag, and a mismatch remains one, with the
same broken rules in another order. The variants of provisioning data are of this kind. -/
theorem resolve_reordered :
    (∀ {α : Type} {registry registry' : Registry α}, registry.Exclusive →
      registry'.variants.Perm registry.variants → registry'.base = registry.base →
      ∀ record, (registry.resolve record).Reordered (registry'.resolve record)) ∧
    provisioningRegistry.Exclusive := by
  refine ⟨?_, provisioningRegistry_exclusive⟩
  intro α registry registry' hexclusive hperm hbase record
  have hsame := Registry.findSome?_give?_perm hperm.symm (hexclusive record)
  cases hfound : registry.variants.findSome? fun variant => variant.give? record with
  | some payload =>
    rw [Registry.resolve_of_some hfound, Registry.resolve_of_some (hsame.symm.trans hfound)]
    exact .matched payload
  | none =>
    -- whether the record is of any concern is asked of all variants, in whatever order
    rw [Registry.resolve_of_none hfound, Registry.resolve_of_none (hsame.symm.trans hfound),
      hperm.any_eq]
    exact Registry.unmatched_reordered hperm.symm hbase record _

/-- The variants of provisioning data, the other way round. -/
def reversedRegistry : Registry ProvisioningData :=
  { provisioningRegistry with variants := provisioningRegistry.variants.reverse }

/-- The card without a type is still found, although it is the last to be looked for, and a record
of a version that is not known still has its tag. -/
theorem resolve_reordered_reversed :
    reversedRegistry.variants.Perm provisioningRegistry.variants ∧
      (Resolution.matched (.stripeCard "\"\\" "pi_1")).Reordered
        (reversedRegistry.resolve untypedStripe) ∧
      (Resolution.unrecognized ⟨"checkout", .ofUInt32 2, "BANK_ACCOUNT"⟩).Reordered
        (reversedRegistry.resolve laterCheckout) := by
  have hperm : reversedRegistry.variants.Perm provisioningRegistry.variants :=
    List.reverse_perm _
  have hstripe : provisioningRegistry.resolve untypedStripe =
      .matched (.stripeCard "\"\\" "pi_1") :=
    resolve_eq_iff.mpr (.described (.stripeCard ⟨rfl, _, rfl, rfl⟩ (.inl rfl) rfl rfl))
  have hlater : provisioningRegistry.resolve laterCheckout =
      .unrecognized ⟨"checkout", .ofUInt32 2, "BANK_ACCOUNT"⟩ :=
    resolve_eq_iff.mpr (.unknown ⟨rfl, rfl, rfl, fun h =>
      absurd (show (2 : Int) = 1 from h.1) (by decide)⟩)
  obtain ⟨hreordered, hexclusive⟩ := resolve_reordered
  refine ⟨hperm, ?_, ?_⟩
  · rw [← hstripe]
    exact hreordered hexclusive hperm rfl untypedStripe
  · rw [← hlater]
    exact hreordered hexclusive hperm rfl laterCheckout

end CardService.Payload
