import CardService.CurrencyAmount
import CardService.Identifier
import CardService.Keyword
import CardService.Timestamp

/-!
# CardService — transactions

A purchase with a card makes one or more transactions that share a sequence. Each tells how the
funding source was charged for it.
-/

namespace CardService

/-! ## Names of kinds and states -/

/-- What a transaction does. -/
inductive TransactionType where
  | pending
  | complete
  | refund
  | decline
  deriving DecidableEq

instance : Keyword TransactionType where
  all := [.pending, .complete, .refund, .decline]
  name
    | .pending => "PENDING"
    | .complete => "COMPLETE"
    | .refund => "REFUND"
    | .decline => "DECLINE"

/-- How far a charge to a funding source is. -/
inductive ChargeState where
  | pending
  | cleared
  | insufficientFunds
  | failed
  deriving DecidableEq

instance : Keyword ChargeState where
  all := [.pending, .cleared, .insufficientFunds, .failed]
  name
    | .pending => "PENDING"
    | .cleared => "CLEARED"
    | .insufficientFunds => "INSUFFICIENT_FUNDS"
    | .failed => "FAILED"

/-- The order of a listing by time. -/
inductive SortOrder where
  | ascending
  | descending
  deriving DecidableEq, Inhabited

instance : Keyword SortOrder where
  all := [.ascending, .descending]
  name
    | .ascending => "ASC"
    | .descending => "DESC"

/-! ## Transactions -/

/-- What is added to an amount when a funding source is charged. -/
structure Markup where
  percent : Int64
  flat : Int64
  minimumCharge : Option Int64
  deriving DecidableEq

/-- A charge to a funding source. -/
structure Charge where
  virtualCardAmount : CurrencyAmount
  markup : Markup
  markupAmount : CurrencyAmount
  fundingSourceAmount : CurrencyAmount
  fundingSourceId : FundingSourceId
  description : String
  state : Option ChargeState
  deriving DecidableEq

/-- A transaction. -/
structure Transaction where
  id : TransactionId
  owner : OwnerId
  version : UInt32
  createdAt : Timestamp
  updatedAt : Timestamp
  cardId : CardId
  sequenceId : String
  transactionType : TransactionType
  billedAmount : CurrencyAmount
  transactedAmount : CurrencyAmount
  description : String
  transactedAt : Timestamp
  settledAt : Option Timestamp
  declineReason : Option String
  charges : List Charge
  deriving DecidableEq

end CardService
