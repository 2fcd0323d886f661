import CardService.Backend.Field
import CardService.Record.Shape
import CardService.Transaction.Basic

/-!
# CardService — records of transactions

How the backend sends transactions, and how they are read off its records.
-/

namespace CardService

open Record (Shape Layout)

/-! ## Records -/

/-- What is added to a charge, as the backend sends it. -/
structure MarkupRecord where
  percent : Int64
  flat : Int64
  minCharge : Option Int64
  deriving DecidableEq

/-- A charge, as the backend sends it. -/
structure ChargeRecord where
  virtualCardAmount : CurrencyAmountRecord
  markup : MarkupRecord
  markupAmount : CurrencyAmountRecord
  fundingSourceAmount : CurrencyAmountRecord
  fundingSourceId : String
  description : String
  state : Option String
  deriving DecidableEq

/-- A transaction, as the backend sends it. -/
structure TransactionRecord where
  id : String
  owner : String
  version : UInt32
  createdAtEpochMs : Binary64
  updatedAtEpochMs : Binary64
  cardId : String
  sequenceId : String
  transactionType : String
  billedAmount : CurrencyAmountRecord
  transactedAmount : CurrencyAmountRecord
  description : String
  transactedAtEpochMs : Binary64
  settledAtEpochMs : Option Binary64
  declineReason : Option String
  charges : List ChargeRecord
  deriving DecidableEq

/-! ## Layouts -/

def MarkupRecord.shape : Shape MarkupRecord :=
  .record "MarkupWire"
    (.field "percent" none .integer64 <|
      .field "flat" none .integer64 <|
      .field "minCharge" (some none) (.optional .integer64) .done)
    (fun (percent, flat, minCharge, ()) => { percent, flat, minCharge })
    (fun r => (r.percent, r.flat, r.minCharge, ()))

def ChargeRecord.shape : Shape ChargeRecord :=
  .record "TransactionDetailChargeWire"
    (.field "virtualCardAmount" none CurrencyAmountRecord.shape <|
      .field "markup" none MarkupRecord.shape <|
      .field "markupAmount" none CurrencyAmountRecord.shape <|
      .field "fundingSourceAmount" none CurrencyAmountRecord.shape <|
      .field "fundingSourceId" none .text <|
      .field "description" none .text <|
      .field "state" (some none) (.optional .text) .done)
    (fun (virtualCardAmount, markup, markupAmount, fundingSourceAmount, fundingSourceId,
        description, state, ()) =>
      { virtualCardAmount, markup, markupAmount, fundingSourceAmount, fundingSourceId,
        description, state })
    (fun r => (r.virtualCardAmount, r.markup, r.markupAmount, r.fundingSourceAmount,
      r.fundingSourceId, r.description, r.state, ()))

def TransactionRecord.shape : Shape TransactionRecord :=
  .record "TransactionWire"
    (.field "id" none .text <|
      .field "owner" none .text <|
      .field "version" none .natural32 <|
      .field "createdAtEpochMs" none .real <|
      .field "updatedAtEpochMs" none .real <|
      .field "cardId" none .text <|
      .field "sequenceId" none .text <|
      .field "type" none .text <|
      .field "billedAmount" none CurrencyAmountRecord.shape <|
      .field "transactedAmount" none CurrencyAmountRecord.shape <|
      .field "description" none .text <|
      .field "transactedAtEpochMs" none .real <|
      .field "settledAtEpochMs" (some none) (.optional .real) <|
      .field "declineReason" (some none) (.optional .text) <|
      .field "detail" (some []) (.list ChargeRecord.shape) .done)
    (fun (id, owner, version, createdAtEpochMs, updatedAtEpochMs, cardId, sequenceId,
        transactionType, billedAmount, transactedAmount, description, transactedAtEpochMs,
        settledAtEpochMs, declineReason, charges, ()) =>
      { id, owner, version, createdAtEpochMs, updatedAtEpochMs, cardId, sequenceId,
        transactionType, billedAmount, transactedAmount, description, transactedAtEpochMs,
        settledAtEpochMs, declineReason, charges })
    (fun r => (r.id, r.owner, r.version, r.createdAtEpochMs, r.updatedAtEpochMs, r.cardId,
      r.sequenceId, r.transactionType, r.billedAmount, r.transactedAmount, r.description,
      r.transactedAtEpochMs, r.settledAtEpochMs, r.declineReason, r.charges, ()))

/-! ## Reading records -/

/-- The markup of a record. -/
def Markup.ofRecord (r : MarkupRecord) : Markup where
  percent := r.percent
  flat := r.flat
  minimumCharge := r.minCharge

/-- The charge of a record. Its state is looked at first. -/
def Charge.ofRecord (r : ChargeRecord) : Except Failure Charge := do
  let state ← r.state.mapM (Backend.keyword "charge state")
  return {
    virtualCardAmount := .ofRecord r.virtualCardAmount
    markup := .ofRecord r.markup
    markupAmount := .ofRecord r.markupAmount
    fundingSourceAmount := .ofRecord r.fundingSourceAmount
    fundingSourceId := ⟨r.fundingSourceId⟩
    description := r.description
    state }

/-- The transaction of a record. Its charges are looked at first. -/
def Transaction.ofRecord (r : TransactionRecord) : Except Failure Transaction := do
  let charges ← r.charges.mapM Charge.ofRecord
  return {
    id := ⟨r.id⟩
    owner := ⟨r.owner⟩
    version := r.version
    createdAt := ← Backend.instantOf r.createdAtEpochMs
    updatedAt := ← Backend.instantOf r.updatedAtEpochMs
    cardId := ⟨r.cardId⟩
    sequenceId := r.sequenceId
    transactionType := ← Backend.keyword "transaction type" r.transactionType
    billedAmount := .ofRecord r.billedAmount
    transactedAmount := .ofRecord r.transactedAmount
    description := r.description
    transactedAt := ← Backend.instantOf r.transactedAtEpochMs
    settledAt := ← r.settledAtEpochMs.mapM Backend.instantOf
    declineReason := r.declineReason
    charges }

end CardService
