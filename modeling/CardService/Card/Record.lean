import CardService.Card.Basic
import CardService.Transaction.Record

/-!
# CardService — records of virtual cards

How the backend sends cards, and how they are read off its records.
-/

namespace CardService

open Record (Shape Layout)

/-! ## Records -/

/-- An owner of a card, as the backend sends it. -/
structure CardOwnerRecord where
  id : String
  issuer : String
  deriving DecidableEq

/-- An address, as it is sent either way. -/
structure BillingAddressRecord where
  addressLine1 : String
  addressLine2 : Option String
  city : String
  state : String
  postalCode : String
  country : String
  deriving DecidableEq

/-- An expiry, as the backend sends it. -/
structure ExpiryRecord where
  mm : String
  yyyy : String
  deriving DecidableEq

/-- A card, as the backend sends it. -/
structure CardRecord where
  id : String
  owner : String
  version : UInt32
  createdAtEpochMs : Binary64
  updatedAtEpochMs : Binary64
  owners : List CardOwnerRecord
  fundingSourceId : String
  currency : String
  state : String
  activatedAtEpochMs : Binary64
  cancelledAtEpochMs : Option Binary64
  last4 : String
  cardholder : String
  pan : String
  csc : String
  billingAddress : Option BillingAddressRecord
  expiry : ExpiryRecord
  metadata : Option Json
  lastTransaction : Option TransactionRecord

/-- A provisional card, as the backend sends it. -/
structure ProvisionalCardRecord where
  id : String
  owner : String
  version : UInt32
  createdAtEpochMs : Binary64
  updatedAtEpochMs : Binary64
  clientRefs : String
  provisioningState : String
  card : Option CardRecord

/-! ## Layouts -/

def CardOwnerRecord.shape : Shape CardOwnerRecord :=
  .record "OwnerWire"
    (.field "id" none .text <|
      .field "issuer" none .text .done)
    (fun (id, issuer, ()) => { id, issuer })
    (fun r => (r.id, r.issuer, ()))

/-- The layout of an address; an absent second line is left out. -/
def BillingAddressRecord.shape : Shape BillingAddressRecord :=
  .record "BillingAddressWire"
    (.field "addressLine1" none .text <|
      .omittable "addressLine2" .text <|
      .field "city" none .text <|
      .field "state" none .text <|
      .field "postalCode" none .text <|
      .field "country" none .text .done)
    (fun (addressLine1, addressLine2, city, state, postalCode, country, ()) =>
      { addressLine1, addressLine2, city, state, postalCode, country })
    (fun r => (r.addressLine1, r.addressLine2, r.city, r.state, r.postalCode, r.country, ()))

def ExpiryRecord.shape : Shape ExpiryRecord :=
  .record "ExpiryWire"
    (.field "mm" none .text <|
      .field "yyyy" none .text .done)
    (fun (mm, yyyy, ()) => { mm, yyyy })
    (fun r => (r.mm, r.yyyy, ()))

def CardRecord.shape : Shape CardRecord :=
  .record "CardWire"
    (.field "id" none .text <|
      .field "owner" none .text <|
      .field "version" none .natural32 <|
      .field "createdAtEpochMs" none .real <|
      .field "updatedAtEpochMs" none .real <|
      .field "owners" (some []) (.list CardOwnerRecord.shape) <|
      .field "fundingSourceId" none .text <|
      .field "currency" none .text <|
      .field "state" none .text <|
      .field "activatedAtEpochMs" none .real <|
      .field "cancelledAtEpochMs" (some none) (.optional .real) <|
      .field "last4" none .text <|
      .field "cardHolder" none .text <|
      .field "pan" none .text <|
      .field "csc" none .text <|
      .field "billingAddress" (some none) (.optional BillingAddressRecord.shape) <|
      .field "expiry" none ExpiryRecord.shape <|
      .field "metadata" (some none) (.optional .anything) <|
      .field "lastTransaction" (some none) (.optional TransactionRecord.shape) .done)
    (fun (id, owner, version, createdAtEpochMs, updatedAtEpochMs, owners, fundingSourceId, currency,
        state, activatedAtEpochMs, cancelledAtEpochMs, last4, cardholder, pan, csc, billingAddress,
        expiry, metadata, lastTransaction, ()) =>
      { id, owner, version, createdAtEpochMs, updatedAtEpochMs, owners, fundingSourceId, currency,
        state, activatedAtEpochMs, cancelledAtEpochMs, last4, cardholder, pan, csc, billingAddress,
        expiry, metadata, lastTransaction })
    (fun r => (r.id, r.owner, r.version, r.createdAtEpochMs, r.updatedAtEpochMs, r.owners,
      r.fundingSourceId, r.currency, r.state, r.activatedAtEpochMs, r.cancelledAtEpochMs, r.last4,
      r.cardholder, r.pan, r.csc, r.billingAddress, r.expiry, r.metadata, r.lastTransaction, ()))

def ProvisionalCardRecord.shape : Shape ProvisionalCardRecord :=
  .record "ProvisionalCardWire"
    (.field "id" none .text <|
      .field "owner" none .text <|
      .field "version" none .natural32 <|
      .field "createdAtEpochMs" none .real <|
      .field "updatedAtEpochMs" none .real <|
      .field "clientRefs" none .text <|
      .field "provisioningState" none .text <|
      .field "card" (some none) (.optional CardRecord.shape) .done)
    (fun (id, owner, version, createdAtEpochMs, updatedAtEpochMs, clientRefs, provisioningState,
        card, ()) =>
      { id, owner, version, createdAtEpochMs, updatedAtEpochMs, clientRefs, provisioningState,
        card })
    (fun r => (r.id, r.owner, r.version, r.createdAtEpochMs, r.updatedAtEpochMs, r.clientRefs,
      r.provisioningState, r.card, ()))

/-! ## Reading records -/

/-- The owner of a record. -/
def CardOwner.ofRecord (r : CardOwnerRecord) : CardOwner where
  id := ⟨r.id⟩
  issuer := r.issuer

/-- The address of a record. -/
def BillingAddress.ofRecord (r : BillingAddressRecord) : BillingAddress where
  addressLine1 := r.addressLine1
  addressLine2 := r.addressLine2
  city := r.city
  state := r.state
  postalCode := r.postalCode
  country := r.country

/-- The expiry of a record. -/
def Expiry.ofRecord (r : ExpiryRecord) : Expiry where
  mm := r.mm
  yyyy := r.yyyy

/-- The card of a record. Its last transaction is looked at first. -/
def Card.ofRecord (r : CardRecord) : Except Failure Card := do
  let lastTransaction ← r.lastTransaction.mapM Transaction.ofRecord
  return {
    id := ⟨r.id⟩
    owner := ⟨r.owner⟩
    owners := r.owners.map CardOwner.ofRecord
    version := r.version
    createdAt := ← Backend.instantOf r.createdAtEpochMs
    updatedAt := ← Backend.instantOf r.updatedAtEpochMs
    fundingSourceId := ⟨r.fundingSourceId⟩
    currency := r.currency
    state := ← Backend.keyword "card state" r.state
    activatedAt := ← Backend.instantOf r.activatedAtEpochMs
    cancelledAt := ← r.cancelledAtEpochMs.mapM Backend.instantOf
    last4 := r.last4
    cardholder := r.cardholder
    pan := r.pan
    csc := r.csc
    billingAddress := r.billingAddress.map BillingAddress.ofRecord
    expiry := .ofRecord r.expiry
    metadata := r.metadata
    lastTransaction }

/-- The provisional card of a record. -/
def ProvisionalCard.ofRecord (r : ProvisionalCardRecord) : Except Failure ProvisionalCard := do
  return {
    id := ⟨r.id⟩
    owner := ⟨r.owner⟩
    version := r.version
    createdAt := ← Backend.instantOf r.createdAtEpochMs
    updatedAt := ← Backend.instantOf r.updatedAtEpochMs
    clientRefs := r.clientRefs
    provisioningState := ← Backend.keyword "provisioning state" r.provisioningState
    card := ← r.card.mapM Card.ofRecord }

end CardService
