import CardService.Payload.Interaction
import CardService.Proofs.Payload.Classification

/-!
# CardService — what errors carry for the user

An error that asks for an action of the user carries an envelope under one key of its info
(`Carries`). If it does not, it is refused at once; if it does, nothing else of the info counts. The
record in the envelope says where to send the user (`Redirects`), or it is well-formed but of a
variant that is not known, or neither.

Main results:

* `precheck_iff` — the first stage refuses exactly the infos without an envelope.
* `redirected_resolve` — resolving a record finds out which of the three it is.
* `decodeInteraction_pipeline` — every refusal names the pipeline of interaction data.
-/

namespace CardService.Payload

/-! ## Stages -/

section Stages

variable {pipeline : Pipeline} {raw : String} {e : DecodeError}

/-- An envelope is refused for its text or for what the text says, in the pipeline it was opened
for. -/
theorem decodeRecord_error (h : decodeRecord pipeline raw = .error e) :
    e.pipeline = pipeline ∧ e.stage ∈ [Stage.base64, .json, .shape] := by
  rw [decodeRecord] at h
  cases hopen : decodeEnvelope pipeline raw with
  | error refused =>
    rw [hopen] at h
    obtain rfl : refused = e := Except.error.inj h
    rw [decodeEnvelope] at hopen
    -- either the text is no Base64, or its bytes hold no JSON
    cases hdecode : Base64.decode (Utf8.encode raw.toList) with
    | error fault =>
      rw [hdecode] at hopen
      obtain rfl := Except.error.inj hopen
      exact ⟨rfl, by simp [DecodeError.stage, Refusal.stage]⟩
    | ok bytes =>
      rw [hdecode] at hopen
      simp only [jsonOfBytes] at hopen
      split at hopen
      · obtain rfl := Except.error.inj hopen
        exact ⟨rfl, by simp [DecodeError.stage, Refusal.stage]⟩
      · split at hopen
        · obtain rfl := Except.error.inj hopen
          exact ⟨rfl, by simp [DecodeError.stage, Refusal.stage]⟩
        · exact absurd hopen (by simp [Except.mapError])
  | ok value =>
    rw [hopen] at h
    cases value with
    | object members => exact absurd h (by simp [recordOf, bind, Except.bind])
    | null | bool | number | string | array =>
      obtain rfl := Except.error.inj h
      exact ⟨rfl, by simp [DecodeError.stage, Refusal.stage]⟩

/-- A record without a payload is refused as the last stages refuse records. -/
theorem payloadOf_error {α : Type} {record : Members} {resolution : Resolution α}
    (h : payloadOf pipeline record resolution = .error e) :
    e.pipeline = pipeline ∧ e.stage ∈ [Stage.noMatch, .unrecognizedVariant] := by
  cases resolution with
  | matched payload => exact absurd h (by simp [payloadOf])
  | unrecognized tag =>
    obtain rfl := Except.error.inj h
    exact ⟨rfl, by simp [DecodeError.stage, Refusal.stage]⟩
  | mismatch failures =>
    obtain rfl := Except.error.inj h
    exact ⟨rfl, by simp [DecodeError.stage, Refusal.stage]⟩

end Stages

/-! ## The envelope in an error -/

/-- The info of an error is an object with an envelope under the key for it. -/
def Carries (info : Json) (raw : String) : Prop :=
  ∃ members : Members, info = .object members ∧ members.get? InteractionData.infoKey = some (.string raw)

variable {info other : Json} {raw : String}

theorem carries_iff :
    Carries info raw ↔ (info.get? InteractionData.infoKey).bind Json.string? = some raw := by
  constructor
  · rintro ⟨members, rfl, hraw⟩
    show (members.get? InteractionData.infoKey).bind Json.string? = some raw
    rw [hraw]
    rfl
  · intro h
    cases info with
    | object members => exact ⟨members, rfl, Members.string?_eq_some_iff.mp h⟩
    | null | bool | number | string | array => exact absurd h (by simp [Json.get?, Json.members?])

/-- Without an envelope nothing is decoded. -/
theorem decodeInteraction_of_missing (h : ¬ ∃ raw, Carries info raw) :
    decodeInteraction info = .error ⟨.interaction, .missingData⟩ := by
  have hnone : (info.get? InteractionData.infoKey).bind Json.string? = none := by
    refine Option.eq_none_iff_forall_ne_some.mpr fun raw hraw => h ⟨raw, carries_iff.mpr hraw⟩
  rw [decodeInteraction, hnone]

/-- With an envelope, the record in it is resolved. -/
theorem decodeInteraction_of_carries (h : Carries info raw) :
    decodeInteraction info = (do
      let record ← decodeRecord .interaction raw
      payloadOf .interaction record (interactionRegistry.resolve record)) := by
  rw [decodeInteraction, carries_iff.mp h]

theorem decodeInteraction_of_record {record : Members} (hinfo : Carries info raw)
    (hrecord : decodeEnvelope .interaction raw = .ok (.object record)) :
    decodeInteraction info =
      payloadOf .interaction record (interactionRegistry.resolve record) := by
  rw [decodeInteraction_of_carries hinfo, decodeRecord_of_object hrecord]
  rfl

/-- What is refused with an envelope is refused for the envelope. -/
theorem decodeInteraction_error_of_carries {e : DecodeError} (hinfo : Carries info raw)
    (h : decodeInteraction info = .error e) :
    e.pipeline = .interaction ∧ e.stage ≠ .precheck := by
  rw [decodeInteraction_of_carries hinfo] at h
  cases hrecord : decodeRecord .interaction raw with
  | error refused =>
    rw [hrecord] at h
    obtain rfl : refused = e := Except.error.inj h
    obtain ⟨hpipeline, hstage⟩ := decodeRecord_error hrecord
    exact ⟨hpipeline, fun hpre => absurd (hpre ▸ hstage) (by decide)⟩
  | ok record =>
    rw [hrecord] at h
    obtain ⟨hpipeline, hstage⟩ := payloadOf_error h
    exact ⟨hpipeline, fun hpre => absurd (hpre ▸ hstage) (by decide)⟩

theorem precheck_iff :
    (∃ e, decodeInteraction info = .error e ∧ e.stage = .precheck) ↔
      ¬ ∃ raw, Carries info raw := by
  constructor
  · rintro ⟨e, hdecode, hstage⟩ ⟨raw, hcarries⟩
    exact (decodeInteraction_error_of_carries hcarries hdecode).2 hstage
  · intro h
    exact ⟨_, decodeInteraction_of_missing h, rfl⟩

theorem decodeInteraction_pipeline {e : DecodeError} (h : decodeInteraction info = .error e) :
    e.pipeline = .interaction := by
  by_cases hcarries : ∃ raw, Carries info raw
  · obtain ⟨raw, hcarries⟩ := hcarries
    exact (decodeInteraction_error_of_carries hcarries h).1
  · rw [decodeInteraction_of_missing hcarries] at h
    obtain rfl := Except.error.inj h
    rfl

/-! ## Records -/

variable {record : Members}

/-- The record tells the client where to send the user. -/
inductive Redirects (record : Members) : InteractionData → Prop
  | checkoutCard {redirectUrl : String} (ofCheckout : OfProvider "checkout" record)
      (ofCard : record.get? "type" = some (.string "CREDIT_CARD"))
      (hasUrl : record.get? "redirectUrl" = some (.string redirectUrl)) :
      Redirects record (.checkoutCard redirectUrl)

/-- The record has the three fields of a tag, and the tag is not that of the one known variant. -/
structure OfUnknownInteraction (record : Members) (tag : Tag) : Prop where
  provider : record.get? "provider" = some (.string tag.provider)
  version : record.get? "version" = some (.number tag.version)
  kind : record.get? "type" = some (.string tag.kind)
  unknown : ¬ (tag.version.Equals 1 ∧ (tag.provider, tag.kind) = ("checkout", "CREDIT_CARD"))

/-- The only known variant of interaction data. -/
def checkoutCardVariant : Variant InteractionData :=
  ⟨checkoutCardInteractionSchema, fun record => do
    return .checkoutCard (← record.string? "redirectUrl")⟩

theorem interactionRegistry_variants : interactionRegistry.variants = [checkoutCardVariant] := rfl

theorem checkoutCardInteraction_isMatch_iff :
    checkoutCardInteractionSchema.isMatch record ↔
      OfProvider "checkout" record ∧ record.get? "type" = some (.string "CREDIT_CARD") ∧
        ∃ s, record.get? "redirectUrl" = some (.string s) := by
  simp only [Schema.isMatch_iff, checkoutCardInteractionSchema, List.forall_mem_append,
    tagRules_hold_iff, List.forall_mem_singleton, FieldRule.holds_string_iff, Bool.false_eq_true,
    and_false, false_or, and_assoc]
  rfl

theorem checkoutCardVariant_make_iff {data : InteractionData} :
    checkoutCardVariant.make record = some data ↔
      ∃ url, record.get? "redirectUrl" = some (.string url) ∧ .checkoutCard url = data := by
  simp only [checkoutCardVariant, Option.bind_eq_bind, Option.bind_eq_some_iff,
    Members.string?_eq_some_iff, Option.pure_def, Option.some.injEq]

/-- A record redirects as the known variant makes it out, if it matches. -/
theorem redirects_iff {data : InteractionData} :
    Redirects record data ↔
      checkoutCardInteractionSchema.isMatch record ∧
        checkoutCardVariant.make record = some data := by
  rw [checkoutCardInteraction_isMatch_iff, checkoutCardVariant_make_iff]
  constructor
  · rintro ⟨hcheckout, hcard, hurl⟩
    exact ⟨⟨hcheckout, hcard, _, hurl⟩, _, hurl, rfl⟩
  · rintro ⟨⟨hcheckout, hcard, -⟩, url, hurl, rfl⟩
    exact .checkoutCard hcheckout hcard hurl

/-- A record of an unknown variant has a whole tag, and no variant claims it. -/
theorem ofUnknownInteraction_iff {tag : Tag} :
    OfUnknownInteraction record tag ↔
      Tag.ofRecord? record = some tag ∧ ¬ checkoutCardInteractionSchema.claims record := by
  have hclaims (htag : Tag.ofRecord? record = some tag) :
      checkoutCardInteractionSchema.claims record ↔
        tag.version.Equals 1 ∧ (tag.provider, tag.kind) = ("checkout", "CREDIT_CARD") :=
    (claims_iff_tagRules rfl (by decide)).trans (tagRules_hold_iff_of_tag htag)
  constructor
  · rintro ⟨hprovider, hversion, hkind, hunknown⟩
    have htag := Tag.ofRecord?_eq_some_iff.mpr ⟨hprovider, hversion, hkind⟩
    exact ⟨htag, fun h => hunknown ((hclaims htag).mp h)⟩
  · rintro ⟨htag, hunclaimed⟩
    obtain ⟨hprovider, hversion, hkind⟩ := Tag.ofRecord?_eq_some_iff.mp htag
    exact ⟨hprovider, hversion, hkind, fun h => hunclaimed ((hclaims htag).mpr h)⟩

/-- What resolving a record of interaction data gives, by what the record is. -/
inductive Redirected (record : Members) : Resolution InteractionData → Prop
  | redirects {data : InteractionData} (h : Redirects record data) :
      Redirected record (.matched data)
  | unknown {tag : Tag} (h : OfUnknownInteraction record tag) :
      Redirected record (.unrecognized tag)
  | neither (nowhere : ∀ data, ¬ Redirects record data)
      (untagged : ∀ tag, ¬ OfUnknownInteraction record tag) :
      Redirected record (.mismatch (interactionRegistry.failures record))

theorem make_interaction_of_isMatch : ∀ variant ∈ interactionRegistry.variants,
    variant.schema.isMatch record → ∃ data, variant.make record = some data := by
  rw [interactionRegistry_variants, List.forall_mem_singleton]
  intro hmatch
  obtain ⟨-, -, url, hurl⟩ := checkoutCardInteraction_isMatch_iff.mp hmatch
  exact ⟨_, checkoutCardVariant_make_iff.mpr ⟨url, hurl, rfl⟩⟩

theorem redirected_resolve (record : Members) :
    Redirected record (interactionRegistry.resolve record) := by
  have hbase : interactionRegistry.base.isMatch record ↔ ∃ tag, Tag.ofRecord? record = some tag :=
    base_isMatch_iff rfl
  have hfound := Registry.found_resolve (@make_interaction_of_isMatch record)
  generalize interactionRegistry.resolve record = resolution at hfound ⊢
  cases hfound with
  | matched known fits made =>
    obtain rfl := List.mem_singleton.mp (interactionRegistry_variants ▸ known)
    exact .redirects (redirects_iff.mpr ⟨fits, made⟩)
  | unrecognized unclaimed base tagged =>
    exact .unknown (ofUnknownInteraction_iff.mpr ⟨tagged, unclaimed _ List.mem_cons_self⟩)
  | mismatch unmatched reason =>
    refine .neither (fun data h => ?_) (fun tag h => ?_)
    · exact unmatched _ List.mem_cons_self (redirects_iff.mp h).1
    · obtain ⟨htag, hunclaimed⟩ := ofUnknownInteraction_iff.mp h
      -- the tag is whole and unclaimed, so no reason for a mismatch is left
      rcases reason with ⟨variant, hknown, hclaims⟩ | hbroken | huntagged
      · obtain rfl := List.mem_singleton.mp (interactionRegistry_variants ▸ hknown)
        exact hunclaimed hclaims
      · exact hbroken (hbase.mpr ⟨tag, htag⟩)
      · exact Option.some_ne_none tag (htag.symm.trans huntagged)

/-- No record redirects in two ways. -/
theorem Redirects.unique {data other : InteractionData} (h : Redirects record data)
    (h' : Redirects record other) : data = other := by
  obtain ⟨-, -, hurl⟩ := h
  obtain ⟨-, -, hurl'⟩ := h'
  rw [hurl, Option.some.injEq, Json.string.injEq] at hurl'
  rw [hurl']

/-- A record that redirects is of the known variant. -/
theorem Redirects.not_ofUnknownInteraction {data : InteractionData} (h : Redirects record data)
    (tag : Tag) : ¬ OfUnknownInteraction record tag := by
  intro hunknown
  have hclaimed : checkoutCardInteractionSchema.claims record :=
    Schema.claims_of_isMatch ⟨_, List.mem_cons_self, rfl⟩ (redirects_iff.mp h).1
  exact (ofUnknownInteraction_iff.mp hunknown).2 hclaimed

/-- A record is one thing only. -/
theorem Redirected.unique {resolution other : Resolution InteractionData}
    (h : Redirected record resolution) (h' : Redirected record other) : resolution = other := by
  cases h with
  | redirects h =>
    cases h' with
    | redirects h' => rw [h.unique h']
    | unknown h' => exact absurd h' (h.not_ofUnknownInteraction _)
    | neither nowhere => exact absurd h (nowhere _)
  | unknown h =>
    cases h' with
    | redirects h' => exact absurd h (h'.not_ofUnknownInteraction _)
    | unknown h' =>
      have htag := (ofUnknownInteraction_iff.mp h).1.symm.trans (ofUnknownInteraction_iff.mp h').1
      rw [Option.some.inj htag]
    | neither _ untagged => exact absurd h (untagged _)
  | neither nowhere untagged =>
    cases h' with
    | redirects h' => exact absurd h' (nowhere _)
    | unknown h' => exact absurd h' (untagged _)
    | neither => rfl

theorem resolve_interaction_iff {resolution : Resolution InteractionData} :
    interactionRegistry.resolve record = resolution ↔ Redirected record resolution :=
  ⟨fun h => h ▸ redirected_resolve record, fun h => (redirected_resolve record).unique h⟩

/-! ## Decoding -/

/-- The info of an error is refused at once if and only if it carries no envelope. Else nothing but
the envelope counts; and if there is a record in it, this record is decoded as the data with which
it redirects the user, is of an unknown variant where its tag is whole and not the known one, and
matches nothing in every other case. Whatever is refused is refused as interaction data. -/
theorem decodeInteraction_classifies (info : Json) :
    ((∃ e, decodeInteraction info = .error e ∧ e.stage = .precheck) ↔
      ¬ ∃ raw, Carries info raw) ∧
    (∀ raw, Carries info raw → ∀ other, Carries other raw →
      decodeInteraction other = decodeInteraction info) ∧
    (∀ raw record, Carries info raw → decodeEnvelope .interaction raw = .ok (.object record) →
      (∀ data, decodeInteraction info = .ok data ↔ Redirects record data) ∧
      (∀ tag, decodeInteraction info = .error ⟨.interaction, .unrecognized tag⟩ ↔
        OfUnknownInteraction record tag) ∧
      (decodeInteraction info =
          .error ⟨.interaction, .noMatch record (interactionRegistry.failures record)⟩ ↔
        (∀ data, ¬ Redirects record data) ∧ ∀ tag, ¬ OfUnknownInteraction record tag)) ∧
    (∀ e, decodeInteraction info = .error e → e.pipeline = .interaction) := by
  refine ⟨precheck_iff, fun raw hinfo other hother => ?_, fun raw record hinfo hrecord => ?_,
    fun e h => decodeInteraction_pipeline h⟩
  · rw [decodeInteraction_of_carries hinfo, decodeInteraction_of_carries hother]
  · rw [decodeInteraction_of_record hinfo hrecord]
    refine ⟨fun data => ?_, fun tag => ?_, ?_⟩
    · rw [payloadOf_eq_ok_iff, resolve_interaction_iff]
      exact ⟨fun | .redirects h => h, .redirects⟩
    · rw [payloadOf_eq_unrecognized_iff, resolve_interaction_iff]
      exact ⟨fun | .unknown h => h, .unknown⟩
    · rw [payloadOf_eq_noMatch_iff, resolve_interaction_iff]
      exact ⟨fun | .neither nowhere untagged => ⟨nowhere, untagged⟩, fun h => .neither h.1 h.2⟩

/-- The info of an error with the envelope of a record, behind another member. -/
def infoWith (record : Members) : Json :=
  .object [("code", .null),
    (InteractionData.infoKey, .string (encodeEnvelope (.object record)))]

/-- A record that redirects, with a member too many. -/
def redirecting : Members :=
  [("redirectUrl", .string "https://a.b/\""), ("extra", .array [.null]),
    ("version", .ofUInt32 1), ("type", .string "CREDIT_CARD"), ("provider", .string "checkout")]

/-- A record that is of a known variant of provisioning data, but of none of interaction data. -/
def redirectingAccount : Members :=
  [("redirectUrl", .string "https://a.b/"), ("version", .ofUInt32 1),
    ("type", .string "BANK_ACCOUNT"), ("provider", .string "checkout")]

/-- A record with the known tag, but nowhere to go. -/
def goingNowhere : Members :=
  [("redirectUrl", .null), ("version", .ofUInt32 1), ("type", .string "CREDIT_CARD"),
    ("provider", .string "checkout")]

theorem redirecting_decoded_others_refused :
    decodeInteraction (infoWith redirecting) = .ok (.checkoutCard "https://a.b/\"") ∧
      decodeInteraction (infoWith redirectingAccount) =
        .error ⟨.interaction, .unrecognized ⟨"checkout", .ofUInt32 1, "BANK_ACCOUNT"⟩⟩ ∧
      decodeInteraction (infoWith goingNowhere) = .error ⟨.interaction,
        .noMatch goingNowhere (interactionRegistry.failures goingNowhere)⟩ := by
  have hcarries : ∀ record, Carries (infoWith record) (encodeEnvelope (.object record)) :=
    fun _ => ⟨_, rfl, rfl⟩
  have hredirecting := decodeEnvelope_encodeEnvelope .interaction (v := .object redirecting)
    (by decide) (by decide) (by decide)
  have haccount := decodeEnvelope_encodeEnvelope .interaction (v := .object redirectingAccount)
    (by decide) (by decide) (by decide)
  have hnowhere := decodeEnvelope_encodeEnvelope .interaction (v := .object goingNowhere)
    (by decide) (by decide) (by decide)
  obtain ⟨hdata, -, -⟩ := (decodeInteraction_classifies (infoWith redirecting)).2.2.1 _ _
    (hcarries _) hredirecting
  obtain ⟨-, htag, -⟩ := (decodeInteraction_classifies (infoWith redirectingAccount)).2.2.1 _ _
    (hcarries _) haccount
  obtain ⟨-, -, hnone⟩ := (decodeInteraction_classifies (infoWith goingNowhere)).2.2.1 _ _
    (hcarries _) hnowhere
  refine ⟨(hdata _).mpr ?_, (htag _).mpr ?_, hnone.mpr ⟨fun data h => ?_, fun tag h => ?_⟩⟩
  · exact .checkoutCard ⟨rfl, _, rfl, rfl⟩ rfl rfl
  · exact ⟨rfl, rfl, rfl, fun h => absurd h.2 (by decide)⟩
  · obtain ⟨-, -, hurl⟩ := h
    exact absurd hurl (by simp [goingNowhere, Members.get?])
  · -- its tag is whole, but a variant claims it
    exact (ofUnknownInteraction_iff.mp h).2 (by decide +kernel)

end CardService.Payload
