import CardService.CurrencyAmount
import CardService.Identifier
import CardService.Keyword
import CardService.Payload.Provisioning
import CardService.Timestamp

/-!
# CardService — funding sources

A funding source is the credit card or the bank account that a card's payments are charged to. While
it is being set up it is provisional, and carries the provider's provisioning data.
-/

namespace CardService

/-! ## Names of states and kinds -/

/-- The state of a funding source. -/
inductive FundingSourceState where
  | active
  | inactive
  | refresh
  deriving DecidableEq

instance : Keyword FundingSourceState where
  all := [.active, .inactive, .refresh]
  name
    | .active => "ACTIVE"
    | .inactive => "INACTIVE"
    | .refresh => "REFRESH"

/-- A remark on a funding source. -/
inductive FundingSourceFlag where
  | unfunded
  | refund
  deriving DecidableEq

instance : Keyword FundingSourceFlag where
  all := [.unfunded, .refund]
  name
    | .unfunded => "UNFUNDED"
    | .refund => "REFUND"

/-- The state of a provisional funding source. -/
inductive ProvisionalFundingSourceState where
  | provisioning
  | pending
  | completed
  | failed
  deriving DecidableEq

instance : Keyword ProvisionalFundingSourceState where
  all := [.provisioning, .pending, .completed, .failed]
  name
    | .provisioning => "PROVISIONING"
    | .pending => "PENDING"
    | .completed => "COMPLETED"
    | .failed => "FAILED"

/-- The network of a credit card. -/
inductive CardNetwork where
  | amex
  | diners
  | discover
  | jcb
  | mastercard
  | unionpay
  | visa
  | other
  deriving DecidableEq

/-- The networks that are known by name. -/
def CardNetwork.known : List (String × CardNetwork) :=
  [("AMEX", .amex), ("DINERS", .diners), ("DISCOVER", .discover), ("JCB", .jcb),
    ("MASTERCARD", .mastercard), ("UNIONPAY", .unionpay), ("VISA", .visa)]

/-- The network of a name; every unknown name is another network. -/
def CardNetwork.ofName (name : String) : CardNetwork := (known.lookup name).getD .other

/-- The type of a credit card. -/
inductive CardType where
  | credit
  | debit
  | prepaid
  | other
  deriving DecidableEq

/-- The card types that are known by name. -/
def CardType.known : List (String × CardType) :=
  [("CREDIT", .credit), ("DEBIT", .debit), ("PREPAID", .prepaid)]

/-- The card type of a name; every unknown name is another type. -/
def CardType.ofName (name : String) : CardType := (known.lookup name).getD .other

/-- The type of a bank account. -/
inductive BankAccountType where
  | savings
  | checking
  | other
  deriving DecidableEq

/-- The account types that are known by name; one has two names. -/
def BankAccountType.known : List (String × BankAccountType) :=
  [("SAVING", .savings), ("SAVINGS", .savings), ("CHECKING", .checking)]

/-- The account type of a name; every unknown name is another type. -/
def BankAccountType.ofName (name : String) : BankAccountType := (known.lookup name).getD .other

/-! ## Funding sources -/

/-- How much may be paid, and how often. -/
structure TransactionVelocity where
  maximum : Option Int64
  velocity : List String
  deriving DecidableEq

/-- What payments are charged to. -/
inductive Account where
  | creditCard (network : CardNetwork) (cardType : CardType)
  | bankAccount (accountType : BankAccountType) (institutionName : String)
      (unfundedAmount : Option CurrencyAmount)
  deriving DecidableEq

def Account.fundingSourceType : Account → FundingSourceType
  | .creditCard .. => .creditCard
  | .bankAccount .. => .bankAccount

/-- A funding source. -/
structure FundingSource where
  id : FundingSourceId
  owner : OwnerId
  version : UInt32
  createdAt : Timestamp
  updatedAt : Timestamp
  state : FundingSourceState
  flags : List FundingSourceFlag
  currency : String
  transactionVelocity : Option TransactionVelocity
  last4 : String
  account : Account
  deriving DecidableEq

/-- A funding source that is being set up. -/
structure ProvisionalFundingSource where
  id : FundingSourceId
  owner : OwnerId
  version : UInt32
  createdAt : Timestamp
  updatedAt : Timestamp
  fundingSourceType : FundingSourceType
  state : ProvisionalFundingSourceState
  provisioningData : Payload.ProvisioningData
  last4 : Option String
  deriving DecidableEq

end CardService
