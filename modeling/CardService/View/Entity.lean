import CardService.Backend.Resource
import CardService.View.Payload

/-!
# CardService — views of entities

What the client answers with. States and flags are shown by their names; networks, types and the
progress of charges and cards by their titles.
-/

namespace CardService.View

/-! ## Names -/

instance : View FundingSourceState := ⟨fun s => .string (Keyword.name s)⟩

instance : View FundingSourceFlag := ⟨fun f => .string (Keyword.name f)⟩

instance : View ProvisionalFundingSourceState := ⟨fun s => .string (Keyword.name s)⟩

instance : View CardState := ⟨fun s => .string (Keyword.name s)⟩

instance : View ProvisioningState := ⟨fun s => .string (titleOf s)⟩

instance : View TransactionType := ⟨fun t => .string (titleOf t)⟩

instance : View ChargeState := ⟨fun s => .string (titleOf s)⟩

instance : View CardNetwork := ⟨fun n => .string (knownTitle CardNetwork.known n)⟩

instance : View CardType := ⟨fun t => .string (knownTitle CardType.known t)⟩

instance : View BankAccountType := ⟨fun t => .string (knownTitle BankAccountType.known t)⟩

/-! ## Funding sources -/

instance : View TransactionVelocity where
  view v := .object [member "maximum" v.maximum, member "velocity" v.velocity]

/-- What is shown of an account. -/
def accountMembers : Account → Members
  | .creditCard network cardType => [member "network" network, member "card_type" cardType]
  | .bankAccount accountType institutionName unfundedAmount =>
    [member "bank_account_type" accountType, member "institution_name" institutionName,
      member "unfunded_amount" unfundedAmount]

instance : View FundingSource where
  view s := .object <|
    [member "type" s.account.fundingSourceType, member "id" s.id, member "owner" s.owner,
      member "version" s.version, member "created_at" s.createdAt,
      member "updated_at" s.updatedAt, member "state" s.state, member "flags" s.flags,
      member "currency" s.currency, member "transaction_velocity" s.transactionVelocity,
      member "last4" s.last4] ++
      accountMembers s.account

instance : View ProvisionalFundingSource where
  view s := .object
    [member "id" s.id, member "owner" s.owner, member "version" s.version,
      member "created_at" s.createdAt, member "updated_at" s.updatedAt,
      member "type" s.fundingSourceType, member "state" s.state,
      member "provisioning_data" s.provisioningData, member "last4" s.last4]

/-! ## Transactions -/

instance : View Markup where
  view m := .object
    [member "percent" m.percent, member "flat" m.flat, member "minimum_charge" m.minimumCharge]

instance : View Charge where
  view c := .object
    [member "virtual_card_amount" c.virtualCardAmount, member "markup" c.markup,
      member "markup_amount" c.markupAmount, member "funding_source_amount" c.fundingSourceAmount,
      member "funding_source_id" c.fundingSourceId, member "description" c.description,
      member "state" c.state]

instance : View Transaction where
  view t := .object
    [member "id" t.id, member "owner" t.owner, member "version" t.version,
      member "created_at" t.createdAt, member "updated_at" t.updatedAt, member "card_id" t.cardId,
      member "sequence_id" t.sequenceId, member "transaction_type" t.transactionType,
      member "billed_amount" t.billedAmount, member "transacted_amount" t.transactedAmount,
      member "description" t.description, member "transacted_at" t.transactedAt,
      member "settled_at" t.settledAt, member "decline_reason" t.declineReason,
      member "details" t.charges]

/-! ## Cards -/

instance : View BillingAddress where
  view a := .object
    [member "address_line1" a.addressLine1, member "address_line2" a.addressLine2,
      member "city" a.city, member "state" a.state, member "postal_code" a.postalCode,
      member "country" a.country]

instance : View CardOwner where
  view o := .object [member "id" o.id, member "issuer" o.issuer]

instance : View Expiry where
  view e := .object [member "mm" e.mm, member "yyyy" e.yyyy]

instance : View Card where
  view c := .object
    [member "id" c.id, member "owner" c.owner, member "owners" c.owners,
      member "version" c.version, member "created_at" c.createdAt,
      member "updated_at" c.updatedAt, member "funding_source_id" c.fundingSourceId,
      member "currency" c.currency, member "state" c.state, member "activated_at" c.activatedAt,
      member "cancelled_at" c.cancelledAt, member "last4" c.last4,
      member "cardholder" c.cardholder, member "pan" c.pan, member "csc" c.csc,
      member "billing_address" c.billingAddress, member "expiry" c.expiry,
      member "metadata" c.metadata, member "last_transaction" c.lastTransaction]

instance : View ProvisionalCard where
  view c := .object
    [member "id" c.id, member "owner" c.owner, member "version" c.version,
      member "created_at" c.createdAt, member "updated_at" c.updatedAt,
      member "client_refs" c.clientRefs, member "provisioning_state" c.provisioningState,
      member "card" c.card]

/-! ## Configuration of the service -/

instance : View CurrencyVelocity where
  view v := .object [member "currency" v.currency, member "velocity" v.velocity]

instance : View FundingSourceSupport where
  view s := .object
    [member "provider_type" s.providerType, member "type" s.fundingSourceType,
      member "network" s.network, member "detail" s.cardTypes]

instance : View ServiceConfig where
  view c := .object
    [member "max_funding_source_velocity" c.maxFundingSourceVelocity,
      member "max_funding_source_failure_velocity" c.maxFundingSourceFailureVelocity,
      member "max_card_creation_velocity" c.maxCardCreationVelocity,
      member "max_transaction_velocity" c.maxTransactionVelocity,
      member "max_transaction_amount" c.maxTransactionAmount,
      member "virtual_card_currencies" c.virtualCardCurrencies,
      member "funding_source_support_info" c.fundingSourceSupport,
      member "bank_account_funding_source_expendable_enabled" c.bankAccountExpendable,
      member "funding_source_client_configuration" c.clientConfiguration]

/-! ## Results -/

instance : (r : Backend.Resource) → View r.Entity
  | .serviceConfig => inferInstanceAs (View ServiceConfig)
  | .clientConfiguration => inferInstanceAs (View (List Payload.ProviderConfiguration))
  | .fundingSource => inferInstanceAs (View FundingSource)
  | .provisionalFundingSource => inferInstanceAs (View ProvisionalFundingSource)
  | .card => inferInstanceAs (View Card)
  | .provisionalCard => inferInstanceAs (View ProvisionalCard)
  | .transaction => inferInstanceAs (View Transaction)

instance {α : Type} [View α] : (arity : Backend.Arity) → View (arity.Of α)
  | .one => inferInstanceAs (View α)
  | .optional => inferInstanceAs (View (Option α))
  | .page => inferInstanceAs (View (Page α))

end CardService.View
