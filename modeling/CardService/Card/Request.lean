import CardService.Card.Record

/-!
# CardService — requests about cards

What a user of the client asks for to have a card issued or changed, and what the backend is sent.
Whatever is not asked for is left out; metadata that is asked to be `null` is sent as `null`.
-/

namespace CardService

/-- The record of an address. -/
def BillingAddress.toRecord (a : BillingAddress) : BillingAddressRecord where
  addressLine1 := a.addressLine1
  addressLine2 := a.addressLine2
  city := a.city
  state := a.state
  postalCode := a.postalCode
  country := a.country

def BillingAddressRecord.toJson (r : BillingAddressRecord) : Json := shape.write r

/-! ## Issuing -/

/-- What a user asks for to have a card issued. -/
structure ProvisionInput where
  clientRefs : String
  ownerProofs : List String
  fundingSourceId : FundingSourceId
  cardholder : String
  currency : String
  billingAddress : Option BillingAddress
  metadata : Option Json

/-- A request to issue a card. -/
structure ProvisionRequest where
  clientRefs : String
  ownerProofs : List String
  fundingSourceId : String
  cardHolder : String
  currency : String
  billingAddress : Option BillingAddressRecord
  metadata : Option Json

/-- The request for what is asked. -/
def ProvisionInput.request (input : ProvisionInput) : ProvisionRequest where
  clientRefs := input.clientRefs
  ownerProofs := input.ownerProofs
  fundingSourceId := input.fundingSourceId.text
  cardHolder := input.cardholder
  currency := input.currency
  billingAddress := input.billingAddress.map BillingAddress.toRecord
  metadata := input.metadata

def ProvisionRequest.toJson (r : ProvisionRequest) : Json :=
  .object <|
    [("clientRefs", .string r.clientRefs), ("ownerProofs", .array (r.ownerProofs.map Json.string)),
      ("fundingSourceId", .string r.fundingSourceId), ("cardHolder", .string r.cardHolder),
      ("currency", .string r.currency)] ++
      Members.optional "billingAddress" BillingAddressRecord.toJson r.billingAddress ++
      Members.optional "metadata" (fun metadata => metadata) r.metadata

/-! ## Changing -/

/-- What a user asks for to have a card changed. -/
structure UpdateInput where
  id : CardId
  expectedVersion : Option UInt32
  cardholder : Option String
  billingAddress : Option BillingAddress
  metadata : Option Json

/-- A request to change a card. -/
structure UpdateRequest where
  id : String
  expectedVersion : Option UInt32
  cardHolder : Option String
  billingAddress : Option BillingAddressRecord
  metadata : Option Json

/-- The request for what is asked. -/
def UpdateInput.request (input : UpdateInput) : UpdateRequest where
  id := input.id.text
  expectedVersion := input.expectedVersion
  cardHolder := input.cardholder
  billingAddress := input.billingAddress.map BillingAddress.toRecord
  metadata := input.metadata

def UpdateRequest.toJson (r : UpdateRequest) : Json :=
  .object <|
    [("id", .string r.id)] ++
      Members.optional "expectedVersion" Json.ofUInt32 r.expectedVersion ++
      Members.optional "cardHolder" Json.string r.cardHolder ++
      Members.optional "billingAddress" BillingAddressRecord.toJson r.billingAddress ++
      Members.optional "metadata" (fun metadata => metadata) r.metadata

end CardService
