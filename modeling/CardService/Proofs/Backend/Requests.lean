import CardService.Card.Request
import CardService.FundingSource.Request
import CardService.Proofs.Payload.Submission

/-!
# CardService — requests, told apart

What a user asks for is sent to the backend as a request, in which data for a provider stands in an
envelope and whatever is left open is left out. No two inputs are sent as the same request, and what
is left out is just what was left open. Only of metadata, which may be any value, no more is told
apart than JSON does.

Main result: `requests_faithful` — every kind of input is sent faithfully.
-/

namespace CardService

open Payload (SetupData CompletionData RefreshData Recovered)

theorem Identifier.text_inj {kind : IdentifierKind} {id other : Identifier kind} :
    id.text = other.text ↔ id = other := by
  cases id
  cases other
  simp

/-! ## Requests about funding sources -/

theorem SetupRequest.same_toJson_iff {r other : SetupRequest} :
    r.toJson.Same other.toJson ↔ r = other := by
  cases r
  cases other
  simp [toJson, Payload.keywordName_inj]

namespace SetupInput

/-- The envelope of the data loses nothing, and the rest of the input is kept as it is. -/
theorem request_injective : Function.Injective SetupInput.request := by
  rintro ⟨type, currency, providers, data⟩ ⟨type', currency', providers', data'⟩ h
  have hdata := Option.map_injective SetupData.recovered.encode_injective
  simp only [request, SetupRequest.mk.injEq, hdata.eq_iff] at h
  simpa only [SetupInput.mk.injEq] using h

/-- What may be left open where a funding source is set up. -/
def choices (input : SetupInput) : List (String × Bool) :=
  [("supportedProviders", input.supportedProviders.isSome), ("setupData", input.setupData.isSome)]

theorem faithful :
    Faithful (fun input : SetupInput => input.request.toJson) (· = ·) choices := by
  refine .of_injective (fun _ _ => SetupRequest.same_toJson_iff) request_injective
    fun input => ?chosen
  case chosen => simp [choices, SetupRequest.toJson, request, Option.isSome_iff_ne_none]

theorem get?_setupData (input : SetupInput) :
    input.request.toJson.get? "setupData" =
      input.setupData.map fun data => .string data.encode := by
  simp [SetupRequest.toJson, request, Function.comp_def]

end SetupInput

theorem CompleteRequest.same_toJson_iff {r other : CompleteRequest} :
    r.toJson.Same other.toJson ↔ r = other := by
  cases r
  cases other
  simp [toJson]

namespace CompleteInput

theorem request_injective : Function.Injective CompleteInput.request := by
  rintro ⟨id, data, update⟩ ⟨id', data', update'⟩ h
  simp only [request, CompleteRequest.mk.injEq, Identifier.text_inj,
    CompletionData.recovered.encode_injective.eq_iff] at h
  simpa only [CompleteInput.mk.injEq] using h

/-- What may be left open where a funding source is completed. -/
def choices (input : CompleteInput) : List (String × Bool) :=
  [("updateCardFundingSource", input.updateCardFundingSource.isSome)]

theorem faithful :
    Faithful (fun input : CompleteInput => input.request.toJson) (· = ·) choices := by
  refine .of_injective (fun _ _ => CompleteRequest.same_toJson_iff) request_injective
    fun input => ?chosen
  case chosen => simp [choices, CompleteRequest.toJson, request, Option.isSome_iff_ne_none]

theorem get?_completionData (input : CompleteInput) :
    input.request.toJson.get? "completionData" = some (.string input.completionData.encode) := by
  simp [CompleteRequest.toJson, request]

end CompleteInput

theorem RefreshRequest.same_toJson_iff {r other : RefreshRequest} :
    r.toJson.Same other.toJson ↔ r = other := by
  cases r
  cases other
  simp [toJson]

namespace RefreshInput

theorem request_injective : Function.Injective RefreshInput.request := by
  rintro ⟨id, data, language⟩ ⟨id', data', language'⟩ h
  simp only [request, RefreshRequest.mk.injEq, Identifier.text_inj,
    RefreshData.recovered.encode_injective.eq_iff] at h
  simpa only [RefreshInput.mk.injEq] using h

/-- What may be left open where a funding source is refreshed. -/
def choices (input : RefreshInput) : List (String × Bool) :=
  [("language", input.language.isSome)]

theorem faithful :
    Faithful (fun input : RefreshInput => input.request.toJson) (· = ·) choices := by
  refine .of_injective (fun _ _ => RefreshRequest.same_toJson_iff) request_injective
    fun input => ?chosen
  case chosen => simp [choices, RefreshRequest.toJson, request, Option.isSome_iff_ne_none]

theorem get?_refreshData (input : RefreshInput) :
    input.request.toJson.get? "refreshData" = some (.string input.refreshData.encode) := by
  simp [RefreshRequest.toJson, request]

end RefreshInput

/-! ## Requests about cards -/

/-- The members of an address, as its layout writes them. -/
theorem BillingAddressRecord.toJson_eq (r : BillingAddressRecord) :
    r.toJson = .object
      ([("addressLine1", .string r.addressLine1)] ++
        Members.optional "addressLine2" Json.string r.addressLine2 ++
        [("city", .string r.city), ("state", .string r.state),
          ("postalCode", .string r.postalCode), ("country", .string r.country)]) := rfl

@[simp] theorem BillingAddressRecord.same_toJson_iff {r other : BillingAddressRecord} :
    r.toJson.Same other.toJson ↔ r = other := by
  cases r
  cases other
  simp [toJson_eq]

namespace BillingAddress

theorem toRecord_injective : Function.Injective toRecord := by
  rintro ⟨⟩ ⟨⟩ ⟨⟩
  rfl

/-- What an address may leave open. -/
def choices (a : BillingAddress) : List (String × Bool) :=
  [("addressLine2", a.addressLine2.isSome)]

theorem faithful : Faithful (fun a : BillingAddress => a.toRecord.toJson) (· = ·) choices := by
  refine .of_injective (fun _ _ => BillingAddressRecord.same_toJson_iff) toRecord_injective
    fun a => ?chosen
  case chosen =>
    simp [choices, BillingAddressRecord.toJson_eq, toRecord, Option.isSome_iff_ne_none]

theorem map_toRecord_inj {a other : Option BillingAddress} :
    a.map toRecord = other.map toRecord ↔ a = other :=
  (Option.map_injective toRecord_injective).eq_iff

end BillingAddress

namespace ProvisionInput

/-- Two inputs for a card agree in all but their metadata, which is the same. -/
def Same (input other : ProvisionInput) : Prop :=
  { input with metadata := none } = { other with metadata := none } ∧
    Option.Rel Json.Same input.metadata other.metadata

theorem Same.eq {input other : ProvisionInput} (h : input.Same other)
    (hmetadata : input.metadata = other.metadata) : input = other := by
  have hrest := h.1
  cases input
  cases other
  cases hmetadata
  cases hrest
  rfl

/-- Metadata that is set stands there as it is, also where it is `null`. -/
theorem get?_metadata (input : ProvisionInput) :
    input.request.toJson.get? "metadata" = input.metadata := by
  simp [ProvisionRequest.toJson, request]

theorem same_toJson_iff {input other : ProvisionInput} :
    input.request.toJson.Same other.request.toJson ↔ input.Same other := by
  cases input
  cases other
  simp [ProvisionRequest.toJson, request, Same, Identifier.text_inj,
    BillingAddress.map_toRecord_inj, and_assoc]

/-- What may be left open where a card is issued. -/
def choices (input : ProvisionInput) : List (String × Bool) :=
  [("billingAddress", input.billingAddress.isSome), ("metadata", input.metadata.isSome)]

theorem faithful :
    Faithful (fun input : ProvisionInput => input.request.toJson) Same choices := by
  -- all but the metadata is told apart by sameness alone
  refine .of_same_but get?_metadata (fun _ _ => same_toJson_iff) (fun _ _ => Same.eq)
    fun input => ?chosen
  case chosen => simp [choices, ProvisionRequest.toJson, request, Option.isSome_iff_ne_none]

end ProvisionInput

namespace UpdateInput

/-- Two inputs to change a card agree in all but their metadata, which is the same. -/
def Same (input other : UpdateInput) : Prop :=
  { input with metadata := none } = { other with metadata := none } ∧
    Option.Rel Json.Same input.metadata other.metadata

theorem Same.eq {input other : UpdateInput} (h : input.Same other)
    (hmetadata : input.metadata = other.metadata) : input = other := by
  have hrest := h.1
  cases input
  cases other
  cases hmetadata
  cases hrest
  rfl

/-- Metadata that is set stands there as it is, also where it is `null`. -/
theorem get?_metadata (input : UpdateInput) :
    input.request.toJson.get? "metadata" = input.metadata := by
  simp [UpdateRequest.toJson, request]

theorem same_toJson_iff {input other : UpdateInput} :
    input.request.toJson.Same other.request.toJson ↔ input.Same other := by
  cases input
  cases other
  simp [UpdateRequest.toJson, request, Same, Identifier.text_inj,
    BillingAddress.map_toRecord_inj, and_assoc]

/-- What may be left open where a card is changed. -/
def choices (input : UpdateInput) : List (String × Bool) :=
  [("expectedVersion", input.expectedVersion.isSome), ("cardHolder", input.cardholder.isSome),
    ("billingAddress", input.billingAddress.isSome), ("metadata", input.metadata.isSome)]

theorem faithful : Faithful (fun input : UpdateInput => input.request.toJson) Same choices := by
  -- all but the metadata is told apart by sameness alone
  refine .of_same_but get?_metadata (fun _ _ => same_toJson_iff) (fun _ _ => Same.eq)
    fun input => ?chosen
  case chosen => simp [choices, UpdateRequest.toJson, request, Option.isSome_iff_ne_none]

end UpdateInput

/-! ## All of them -/

/-- Inputs of every kind are sent faithfully: different ones are different as JSON, and a part that
may be left open is sent just if it is set, metadata as the very value it has, and data for a
provider in its envelope. From the envelope the data is recovered. -/
theorem requests_faithful :
    Faithful (fun input : SetupInput => input.request.toJson) (· = ·) SetupInput.choices ∧
    Faithful (fun input : CompleteInput => input.request.toJson) (· = ·) CompleteInput.choices ∧
    Faithful (fun input : RefreshInput => input.request.toJson) (· = ·) RefreshInput.choices ∧
    Faithful (fun input : ProvisionInput => input.request.toJson) ProvisionInput.Same
      ProvisionInput.choices ∧
    Faithful (fun input : UpdateInput => input.request.toJson) UpdateInput.Same
      UpdateInput.choices ∧
    Faithful (fun a : BillingAddress => a.toRecord.toJson) (· = ·) BillingAddress.choices ∧
    (∀ input : ProvisionInput, input.request.toJson.get? "metadata" = input.metadata) ∧
    (∀ input : UpdateInput, input.request.toJson.get? "metadata" = input.metadata) ∧
    (∀ input : SetupInput, input.request.toJson.get? "setupData" =
      input.setupData.map fun data => .string data.encode) ∧
    (∀ input : CompleteInput, input.request.toJson.get? "completionData" =
      some (.string input.completionData.encode)) ∧
    (∀ input : RefreshInput, input.request.toJson.get? "refreshData" =
      some (.string input.refreshData.encode)) ∧
    Recovered SetupData.toRecord SetupData.encode (fun _ => []) ∧
    Recovered CompletionData.toRecord CompletionData.encode (fun _ => []) ∧
    Recovered RefreshData.toRecord RefreshData.encode RefreshData.choices :=
  ⟨SetupInput.faithful, CompleteInput.faithful, RefreshInput.faithful, ProvisionInput.faithful,
    UpdateInput.faithful, BillingAddress.faithful, ProvisionInput.get?_metadata,
    UpdateInput.get?_metadata, SetupInput.get?_setupData, CompleteInput.get?_completionData,
    RefreshInput.get?_refreshData, SetupData.recovered, CompletionData.recovered,
    RefreshData.recovered⟩

end CardService
