import CardService.Backend.Field
import CardService.FundingSource.Basic
import CardService.Record.Shape

/-!
# CardService — records of funding sources

How the backend sends funding sources, and how they are read off its records. A record has the same
fields whatever is charged; only the account differs.
-/

namespace CardService

open Record (Shape Layout Kinds)

/-! ## Records -/

/-- How much may be paid and how often, as the backend sends it. -/
structure TransactionVelocityRecord where
  maximum : Option Int64
  velocity : List String
  deriving DecidableEq

/-- The credit card of a record. -/
structure CreditCardRecord where
  network : String
  cardType : String
  deriving DecidableEq

/-- The bank account of a record. -/
structure BankAccountRecord where
  accountType : String
  institutionName : String
  unfundedAmount : Option CurrencyAmountRecord
  deriving DecidableEq

/-- What is charged, as the backend gives it. -/
inductive AccountRecord where
  | creditCard (card : CreditCardRecord)
  | bankAccount (account : BankAccountRecord)
  deriving DecidableEq

/-- A funding source with an account of some kind, as the backend sends it. -/
structure FundingSourceRecordOf (Account : Type) where
  id : String
  owner : String
  version : UInt32
  createdAtEpochMs : Binary64
  updatedAtEpochMs : Binary64
  state : String
  flags : List String
  currency : String
  transactionVelocity : Option TransactionVelocityRecord
  last4 : String
  account : Account
  deriving DecidableEq

/-- A funding source, as the backend sends it. -/
abbrev FundingSourceRecord := FundingSourceRecordOf AccountRecord

namespace FundingSourceRecordOf

variable {α β : Type}

/-- The same record with another account. -/
def withAccount (r : FundingSourceRecordOf α) (account : β) : FundingSourceRecordOf β :=
  { r with account }

end FundingSourceRecordOf

/-- A provisional funding source, as the backend sends it. -/
structure ProvisionalFundingSourceRecord where
  id : String
  owner : String
  version : UInt32
  createdAtEpochMs : Binary64
  updatedAtEpochMs : Binary64
  fundingSourceType : String
  provisioningData : String
  state : String
  last4 : Option String
  deriving DecidableEq

/-! ## Layouts -/

def TransactionVelocityRecord.shape : Shape TransactionVelocityRecord :=
  .record "TransactionVelocityWire"
    (.field "maximum" (some none) (.optional .integer64) <|
      .field "velocity" (some []) (.list .text) .done)
    (fun (maximum, velocity, ()) => { maximum, velocity })
    (fun r => (r.maximum, r.velocity, ()))

/-- The layout of a funding source with a credit card. -/
def FundingSourceRecord.cardShape : Shape (FundingSourceRecordOf CreditCardRecord) :=
  .record "CreditCardFundingSourceWire"
    (.field "id" none .text <|
      .field "owner" none .text <|
      .field "version" none .natural32 <|
      .field "createdAtEpochMs" none .real <|
      .field "updatedAtEpochMs" none .real <|
      .field "state" none .text <|
      .field "flags" (some []) (.list .text) <|
      .field "currency" none .text <|
      .field "transactionVelocity" (some none) (.optional TransactionVelocityRecord.shape) <|
      .field "last4" none .text <|
      .field "network" none .text <|
      .field "cardType" none .text .done)
    (fun (id, owner, version, createdAtEpochMs, updatedAtEpochMs, state, flags, currency,
        transactionVelocity, last4, network, cardType, ()) =>
      { id, owner, version, createdAtEpochMs, updatedAtEpochMs, state, flags, currency,
        transactionVelocity, last4, account := { network, cardType } })
    (fun r => (r.id, r.owner, r.version, r.createdAtEpochMs, r.updatedAtEpochMs, r.state, r.flags,
      r.currency, r.transactionVelocity, r.last4, r.account.network, r.account.cardType, ()))

/-- The layout of a funding source with a bank account. -/
def FundingSourceRecord.bankShape : Shape (FundingSourceRecordOf BankAccountRecord) :=
  .record "BankAccountFundingSourceWire"
    (.field "id" none .text <|
      .field "owner" none .text <|
      .field "version" none .natural32 <|
      .field "createdAtEpochMs" none .real <|
      .field "updatedAtEpochMs" none .real <|
      .field "state" none .text <|
      .field "flags" (some []) (.list .text) <|
      .field "currency" none .text <|
      .field "transactionVelocity" (some none) (.optional TransactionVelocityRecord.shape) <|
      .field "bankAccountType" none .text <|
      .field "last4" none .text <|
      .field "institutionName" none .text <|
      .field "unfundedAmount" (some none) (.optional CurrencyAmountRecord.shape) .done)
    (fun (id, owner, version, createdAtEpochMs, updatedAtEpochMs, state, flags, currency,
        transactionVelocity, accountType, last4, institutionName, unfundedAmount, ()) =>
      { id, owner, version, createdAtEpochMs, updatedAtEpochMs, state, flags, currency,
        transactionVelocity, last4, account := { accountType, institutionName, unfundedAmount } })
    (fun r => (r.id, r.owner, r.version, r.createdAtEpochMs, r.updatedAtEpochMs, r.state, r.flags,
      r.currency, r.transactionVelocity, r.account.accountType, r.last4, r.account.institutionName,
      r.account.unfundedAmount, ()))

/-- The layout of a funding source; its type name tells the kind of account. -/
def FundingSourceRecord.shape : Shape FundingSourceRecord :=
  .tagged "FundingSourceWire" "__typename" <|
    .kind "CreditCardFundingSource" FundingSourceRecord.cardShape
      (fun r => r.withAccount (.creditCard r.account))
      (fun r =>
        match r.account with
        | .creditCard card => some (r.withAccount card)
        | .bankAccount _ => none) <|
    .kind "BankAccountFundingSource" FundingSourceRecord.bankShape
      (fun r => r.withAccount (.bankAccount r.account))
      (fun r =>
        match r.account with
        | .creditCard _ => none
        | .bankAccount account => some (r.withAccount account))
      .none

def ProvisionalFundingSourceRecord.shape : Shape ProvisionalFundingSourceRecord :=
  .record "ProvisionalFundingSourceWire"
    (.field "id" none .text <|
      .field "owner" none .text <|
      .field "version" none .natural32 <|
      .field "createdAtEpochMs" none .real <|
      .field "updatedAtEpochMs" none .real <|
      .field "type" none .text <|
      .field "provisioningData" none .text <|
      .field "state" none .text <|
      .field "last4" (some none) (.optional .text) .done)
    (fun (id, owner, version, createdAtEpochMs, updatedAtEpochMs, fundingSourceType,
        provisioningData, state, last4, ()) =>
      { id, owner, version, createdAtEpochMs, updatedAtEpochMs, fundingSourceType,
        provisioningData, state, last4 })
    (fun r => (r.id, r.owner, r.version, r.createdAtEpochMs, r.updatedAtEpochMs,
      r.fundingSourceType, r.provisioningData, r.state, r.last4, ()))

/-! ## Reading records -/

/-- The velocity of a record. -/
def TransactionVelocity.ofRecord (r : TransactionVelocityRecord) : TransactionVelocity where
  maximum := r.maximum
  velocity := r.velocity

/-- The account of a record. -/
def Account.ofRecord : AccountRecord → Account
  | .creditCard card => .creditCard (.ofName card.network) (.ofName card.cardType)
  | .bankAccount account =>
    .bankAccount (.ofName account.accountType) account.institutionName
      (account.unfundedAmount.map CurrencyAmount.ofRecord)

/-- The funding source of a record. -/
def FundingSource.ofRecord (r : FundingSourceRecord) : Except Failure FundingSource := do
  return {
    id := ⟨r.id⟩
    owner := ⟨r.owner⟩
    version := r.version
    createdAt := ← Backend.instantOf r.createdAtEpochMs
    updatedAt := ← Backend.instantOf r.updatedAtEpochMs
    state := ← Backend.keyword "funding source state" r.state
    flags := ← r.flags.mapM (Backend.keyword "funding source flag")
    currency := r.currency
    transactionVelocity := r.transactionVelocity.map TransactionVelocity.ofRecord
    last4 := r.last4
    account := Account.ofRecord r.account }

/-- The provisional funding source of a record. -/
def ProvisionalFundingSource.ofRecord (r : ProvisionalFundingSourceRecord) :
    Except Failure ProvisionalFundingSource := do
  return {
    id := ⟨r.id⟩
    owner := ⟨r.owner⟩
    version := r.version
    createdAt := ← Backend.instantOf r.createdAtEpochMs
    updatedAt := ← Backend.instantOf r.updatedAtEpochMs
    fundingSourceType := ← Backend.keyword "funding source type" r.fundingSourceType
    state := ← Backend.keyword "provisional funding source state" r.state
    provisioningData := ← (Payload.decodeProvisioning r.provisioningData).mapError Failure.decode
    last4 := r.last4 }

end CardService
