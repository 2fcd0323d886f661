import CardService.Proofs.Json.Members
import CardService.Proofs.Payload.Classification

/-!
# CardService — records of other versions

The version is one of the fields by which a record is known, so a record that is decoded is decoded
no more with any other number there. What it is refused for depends on its type: it is of an unknown
variant if its tag is whole, and it matches nothing if the type was left out.

Main results:

* `otherVersion_refused` — what becomes of a record that was decoded, with another version.
* `otherVersion_noMatch` — a record without a type that is refused for matching nothing.
-/

namespace CardService.Payload

variable {record : Members} {data : ProvisioningData}

/-! ## What describes a payload -/

theorem Describes.ofProvider (h : Describes record data) :
    OfProvider data.provider.name record := by
  cases h with
  | stripeCard hstripe => exact hstripe
  | checkoutCard hcheckout => exact hcheckout
  | checkoutBankAccount hcheckout => exact hcheckout

/-- A type that is there is the one of the payload, and only a provider's card may be without. -/
theorem Describes.type_cases (h : Describes record data) :
    record.get? "type" = some (.string (Keyword.name data.fundingSourceType)) ∨
      record.get? "type" = none ∧ data.provider = .stripe := by
  cases h with
  | stripeCard _ hcard =>
    rcases hcard with habsent | hcard
    · exact .inr ⟨habsent, rfl⟩
    · exact .inl hcard
  | checkoutCard _ hcard => exact .inl hcard
  | checkoutBankAccount _ haccount => exact .inl haccount

/-! ## Another version -/

section OtherVersion

variable {version : Number}

/-- The record with another version. -/
def withVersion (record : Members) (version : Number) : Members :=
  record.insert "version" (.number version)

theorem get?_withVersion (record : Members) (version : Number) (key : String) :
    (withVersion record version).get? key =
      if key = "version" then some (.number version) else record.get? key :=
  Members.get?_insert "version" key (.number version) record

theorem not_describes_withVersion (hversion : ¬ version.Equals 1) (other : ProvisioningData) :
    ¬ Describes (withVersion record version) other := by
  intro h
  -- whatever it describes, its version would have to be the one there is
  obtain ⟨-, one, hone, hequals⟩ := h.ofProvider
  rw [get?_withVersion, if_pos rfl, Option.some.injEq, Json.number.injEq] at hone
  exact hversion (hone ▸ hequals)

/-- The tag of a payload in another version. -/
def ProvisioningData.tagAt (data : ProvisioningData) (version : Number) : Tag :=
  ⟨data.provider.name, version, Keyword.name data.fundingSourceType⟩

theorem Describes.withVersion_ofUnknownVariant (h : Describes record data)
    (hversion : ¬ version.Equals 1) (htype : record.get? "type" ≠ none) :
    OfUnknownVariant (withVersion record version) (data.tagAt version) where
  provider := (get?_withVersion record version "provider").trans h.ofProvider.1
  version := get?_withVersion record version "version"
  kind := by
    have hkind := h.type_cases.resolve_right fun habsent => htype habsent.1
    exact (get?_withVersion record version "type").trans hkind
  unknown := fun hknown => hversion hknown.1

theorem not_ofUnknownVariant_withVersion (htype : record.get? "type" = none) (tag : Tag) :
    ¬ OfUnknownVariant (withVersion record version) tag := by
  intro h
  have habsent := (get?_withVersion record version "type").trans htype
  exact Option.some_ne_none _ (h.kind.symm.trans habsent)

/-- A record that was decoded is refused with any other version: as an unknown variant, under the
tag of its payload in that version, if it has its type, and for matching nothing if it was a record
of the one variant whose type may be left out, and has none. -/
theorem otherVersion_refused {raw other : String}
    (hrecord : decodeEnvelope .provisioning raw = .ok (.object record))
    (hdecoded : decodeProvisioning raw = .ok data) (hversion : ¬ version.Equals 1)
    (hother : decodeEnvelope .provisioning other = .ok (.object (withVersion record version))) :
    (decodeProvisioning other = .error ⟨.provisioning, .unrecognized (data.tagAt version)⟩ ↔
      record.get? "type" ≠ none) ∧
    (decodeProvisioning other = .error ⟨.provisioning, .noMatch (withVersion record version)
        (provisioningRegistry.failures (withVersion record version))⟩ ↔
      record.get? "type" = none) ∧
    (record.get? "type" = none → data.provider = .stripe) := by
  rw [decodeProvisioning_of_record hrecord, payloadOf_eq_ok_iff, resolve_eq_iff,
    classified_matched_iff] at hdecoded
  rw [decodeProvisioning_of_record hother, payloadOf_eq_unrecognized_iff, payloadOf_eq_noMatch_iff,
    resolve_eq_iff, resolve_eq_iff, classified_unrecognized_iff, classified_mismatch_iff]
  -- from here on both records are told by their fields alone
  refine ⟨⟨fun hunknown hnone => ?_, fun htype => ?_⟩, ⟨fun hneither => ?_, fun hnone => ?_⟩,
    fun hnone => ?_⟩
  · exact not_ofUnknownVariant_withVersion hnone _ hunknown
  · exact hdecoded.withVersion_ofUnknownVariant hversion htype
  · by_contra htype
    exact hneither.2 _ (hdecoded.withVersion_ofUnknownVariant hversion htype)
  · exact ⟨not_describes_withVersion hversion, not_ofUnknownVariant_withVersion hnone⟩
  · rcases hdecoded.type_cases with htype | ⟨-, hstripe⟩
    · exact absurd (htype.symm.trans hnone) (Option.some_ne_none _)
    · exact hstripe

end OtherVersion

/-- A card of the one provider whose records may leave out their type. -/
def typedStripe : Members :=
  [("provider", .string "stripe"), ("version", .ofUInt32 1), ("type", .string "CREDIT_CARD"),
    ("client_secret", .string "s"), ("intent", .string "i")]

theorem otherVersion_refused_typed :
    decodeProvisioning (encodeEnvelope (.object typedStripe)) = .ok (.stripeCard "s" "i") ∧
      ¬ (Number.ofUInt32 2).Equals 1 ∧
      decodeProvisioning (encodeEnvelope (.object (withVersion typedStripe (.ofUInt32 2)))) =
        .error ⟨.provisioning, .unrecognized ⟨"stripe", .ofUInt32 2, "CREDIT_CARD"⟩⟩ := by
  have hrecord : decodeEnvelope .provisioning (encodeEnvelope (.object typedStripe)) =
      .ok (.object typedStripe) :=
    decodeEnvelope_encodeEnvelope .provisioning (by decide) (by decide) (by decide)
  have hother : decodeEnvelope .provisioning
      (encodeEnvelope (.object (withVersion typedStripe (.ofUInt32 2)))) =
        .ok (.object (withVersion typedStripe (.ofUInt32 2))) :=
    decodeEnvelope_encodeEnvelope .provisioning (by decide) (by decide) (by decide)
  have hdecoded : decodeProvisioning (encodeEnvelope (.object typedStripe)) =
      .ok (.stripeCard "s" "i") := by
    rw [decodeProvisioning_of_record hrecord, payloadOf_eq_ok_iff, resolve_eq_iff]
    exact .described (.stripeCard ⟨rfl, _, rfl, rfl⟩ (.inr rfl) rfl rfl)
  have hversion : ¬ (Number.ofUInt32 2).Equals 1 := show ¬ (2 : Int) = 1 by decide
  exact ⟨hdecoded, hversion,
    (otherVersion_refused hrecord hdecoded hversion hother).1.mpr (Option.some_ne_none _)⟩

/-- The same card without its type. -/
def untyped : Members :=
  [("provider", .string "stripe"), ("version", .ofUInt32 1), ("client_secret", .string "s"),
    ("intent", .string "i")]

/-- It is decoded in the first version, and matches nothing in the second. -/
theorem otherVersion_noMatch :
    decodeProvisioning (encodeEnvelope (.object untyped)) = .ok (.stripeCard "s" "i") ∧
      ¬ (Number.ofUInt32 2).Equals 1 ∧
      ∃ e, decodeProvisioning (encodeEnvelope (.object (withVersion untyped (.ofUInt32 2)))) =
        .error e ∧ e.stage = .noMatch := by
  have hrecord : decodeEnvelope .provisioning (encodeEnvelope (.object untyped)) =
      .ok (.object untyped) :=
    decodeEnvelope_encodeEnvelope .provisioning (by decide) (by decide) (by decide)
  have hother : decodeEnvelope .provisioning
      (encodeEnvelope (.object (withVersion untyped (.ofUInt32 2)))) =
        .ok (.object (withVersion untyped (.ofUInt32 2))) :=
    decodeEnvelope_encodeEnvelope .provisioning (by decide) (by decide) (by decide)
  have hdecoded : decodeProvisioning (encodeEnvelope (.object untyped)) =
      .ok (.stripeCard "s" "i") := by
    rw [decodeProvisioning_of_record hrecord, payloadOf_eq_ok_iff, resolve_eq_iff]
    exact .described (.stripeCard ⟨rfl, _, rfl, rfl⟩ (.inl rfl) rfl rfl)
  have hversion : ¬ (Number.ofUInt32 2).Equals 1 := show ¬ (2 : Int) = 1 by decide
  have hmismatch := resolve_eq_iff.mpr (Classified.neither (not_describes_withVersion hversion)
    (not_ofUnknownVariant_withVersion (rfl : untyped.get? "type" = none)))
  exact ⟨hdecoded, hversion, _,
    (decodeProvisioning_of_record hother).trans (congrArg _ hmismatch), rfl⟩

end CardService.Payload
