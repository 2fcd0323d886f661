/-!
# CardService — documents of the backend's operations

A document is the text of one GraphQL operation together with every fragment it spreads. Its name
and its root field identify it.
-/

namespace CardService.Backend

/-- What an operation does: it asks, it changes something, or it waits for changes. -/
inductive DocumentKind where
  | query
  | mutation
  | subscription
  deriving DecidableEq

/-- The keyword that a document starts with. -/
def DocumentKind.keyword : DocumentKind → String
  | .query => "query"
  | .mutation => "mutation"
  | .subscription => "subscription"

/-- The text of an operation, and the field of the answer that holds its result. -/
structure Document where
  name : String
  field : String
  kind : DocumentKind
  text : String
  deriving DecidableEq

namespace Document

/-! ## Layout -/

/-- A selection of fields on one line. -/
def braced (head body : String) : String := head ++ " \x7b " ++ body ++ " \x7d"

/-- A selection of fields on lines of its own. -/
def block (head : String) (lines : List String) : List String :=
  (head ++ " \x7b") :: lines.map ("  " ++ ·) ++ ["\x7d"]

/-- Text lines, each ended by a newline. -/
def textOf (lines : List String) : String := String.join (lines.map (· ++ "\n"))

/-! ## Fragments -/

/-- A fragment: its name, and the lines of it and of the fragments that it spreads. -/
structure Fragment where
  name : String
  lines : List String

/-- A fragment on the type of the same name. -/
def fragmentOn (name : String) (fields : List String) (spreads : List Fragment) : Fragment where
  name := name
  lines := block ("fragment " ++ name ++ " on " ++ name) fields ++ spreads.flatMap Fragment.lines

/-- A fragment's fields, wherever it is spread. -/
def Fragment.spread (fragment : Fragment) : String := "..." ++ fragment.name

/-- The fields of an amount. -/
def amountFields (head : String) : String := braced head "currency amount"

def creditCardFundingSource : Fragment :=
  fragmentOn "CreditCardFundingSource"
    ["__typename id owner version createdAtEpochMs updatedAtEpochMs state flags currency",
      braced "transactionVelocity" "maximum velocity",
      "last4 network cardType"] []

def bankAccountFundingSource : Fragment :=
  fragmentOn "BankAccountFundingSource"
    ["__typename id owner version createdAtEpochMs updatedAtEpochMs state flags currency",
      braced "transactionVelocity" "maximum velocity",
      "bankAccountType last4 institutionName",
      amountFields "unfundedAmount"] []

def fundingSource : Fragment :=
  fragmentOn "FundingSource"
    [braced ("... on " ++ creditCardFundingSource.name) creditCardFundingSource.spread,
      braced ("... on " ++ bankAccountFundingSource.name) bankAccountFundingSource.spread]
    [creditCardFundingSource, bankAccountFundingSource]

def provisionalFundingSource : Fragment :=
  fragmentOn "ProvisionalFundingSource"
    ["id owner version createdAtEpochMs updatedAtEpochMs type provisioningData state last4"] []

def transaction : Fragment :=
  fragmentOn "Transaction"
    (["id owner version createdAtEpochMs updatedAtEpochMs cardId sequenceId type",
      amountFields "billedAmount",
      amountFields "transactedAmount",
      "description transactedAtEpochMs settledAtEpochMs declineReason"] ++
      block "detail"
        [amountFields "virtualCardAmount",
          braced "markup" "percent flat minCharge",
          amountFields "markupAmount",
          amountFields "fundingSourceAmount",
          "fundingSourceId description state"]) []

def card : Fragment :=
  fragmentOn "Card"
    ["id owner version createdAtEpochMs updatedAtEpochMs",
      braced "owners" "id issuer",
      "fundingSourceId currency state activatedAtEpochMs cancelledAtEpochMs",
      "last4 cardHolder pan csc",
      braced "billingAddress" "addressLine1 addressLine2 city state postalCode country",
      braced "expiry" "mm yyyy",
      "metadata",
      braced "lastTransaction" transaction.spread]
    [transaction]

def provisionalCard : Fragment :=
  fragmentOn "ProvisionalCard"
    ["id owner version createdAtEpochMs updatedAtEpochMs clientRefs provisioningState",
      braced "card" card.spread]
    [card]

/-! ## Kinds of documents -/

/-- A query without parameters. -/
def plainQuery (name field : String) (selection : List String) : Document where
  name := name
  field := field
  kind := .query
  text := textOf (block (DocumentKind.query.keyword ++ " " ++ name) selection)

/-- A document whose root field takes one parameter and selects one fragment. -/
def ofFragment (kind : DocumentKind) (name field parameter type : String) (fragment : Fragment) :
    Document where
  name := name
  field := field
  kind := kind
  text := textOf <|
    block (kind.keyword ++ " " ++ name ++ "($" ++ parameter ++ ": " ++ type ++ "!)")
      [braced (field ++ "(" ++ parameter ++ ": $" ++ parameter ++ ")") fragment.spread] ++
      fragment.lines

/-- A change, described by an input of some type. -/
def change (name field inputType : String) (fragment : Fragment) : Document :=
  ofFragment .mutation name field "input" inputType fragment

/-- A query for one thing. -/
def fetch (name field : String) (fragment : Fragment) : Document :=
  ofFragment .query name field "id" "ID" fragment

/-- A query for a page of things, laid out as `head` and `root`. -/
def listing (name field : String) (head : List String) (root : List String) (fragment : Fragment) :
    Document where
  name := name
  field := field
  kind := .query
  text := textOf <|
    head ++ (root ++ ["    " ++ braced "items" fragment.spread, "    nextToken", "  \x7d"]) ++
      ["\x7d"] ++ fragment.lines

/-- A query for a page of things that takes no other parameters. -/
def page (name field : String) (fragment : Fragment) : Document :=
  listing name field
    ["query " ++ name ++ "($limit: Int, $nextToken: String) \x7b"]
    ["  " ++ field ++ "(limit: $limit, nextToken: $nextToken) \x7b"] fragment

/-! ## The documents -/

def getServiceConfig : Document :=
  plainQuery "GetVirtualCardsConfig" "getVirtualCardsConfig" <|
    block "getVirtualCardsConfig"
      ["maxFundingSourceVelocity maxFundingSourceFailureVelocity maxCardCreationVelocity",
        braced "maxTransactionVelocity" "currency velocity",
        amountFields "maxTransactionAmount",
        "virtualCardCurrencies",
        braced "fundingSourceSupportInfo"
          ("providerType fundingSourceType network " ++ braced "detail" "cardType"),
        "bankAccountFundingSourceExpendableEnabled",
        braced "fundingSourceClientConfiguration" "data"]

def getClientConfiguration : Document :=
  plainQuery "GetFundingSourceClientConfiguration" "getFundingSourceClientConfiguration"
    [braced "getFundingSourceClientConfiguration" "data"]

def setupFundingSource : Document :=
  change "SetupFundingSource" "setupFundingSource" "SetupFundingSourceRequest"
    provisionalFundingSource

def completeFundingSource : Document :=
  change "CompleteFundingSource" "completeFundingSource" "CompleteFundingSourceRequest"
    fundingSource

def refreshFundingSource : Document :=
  change "RefreshFundingSource" "refreshFundingSource" "RefreshFundingSourceRequest" fundingSource

def cancelFundingSource : Document :=
  change "CancelFundingSource" "cancelFundingSource" "IdInput" fundingSource

def cancelProvisionalFundingSource : Document :=
  change "CancelProvisionalFundingSource" "cancelProvisionalFundingSource" "IdInput"
    provisionalFundingSource

def reviewUnfundedFundingSource : Document :=
  change "ReviewUnfundedFundingSource" "reviewUnfundedFundingSource" "IdInput" fundingSource

def getFundingSource : Document := fetch "GetFundingSource" "getFundingSource" fundingSource

def listFundingSources : Document := page "ListFundingSources" "listFundingSources" fundingSource

def getProvisionalFundingSource : Document :=
  fetch "GetProvisionalFundingSource" "getProvisionalFundingSource" provisionalFundingSource

def listProvisionalFundingSources : Document :=
  page "ListProvisionalFundingSources" "listProvisionalFundingSources" provisionalFundingSource

def onFundingSourceUpdate : Document :=
  ofFragment .subscription "OnFundingSourceUpdate" "onFundingSourceUpdate" "owner" "ID"
    fundingSource

def provisionVirtualCard : Document :=
  change "ProvisionVirtualCard" "cardProvision" "CardProvisionRequest" provisionalCard

def getProvisionalCard : Document :=
  fetch "GetProvisionalCard" "getProvisionalCard" provisionalCard

def listProvisionalCards : Document :=
  page "ListProvisionalCards" "listProvisionalCards" provisionalCard

def getCard : Document := fetch "GetCard" "getCard" card

def listCards : Document := page "ListCards" "listCards" card

def updateCard : Document := change "UpdateCard" "updateCard" "CardUpdateRequest" card

def cancelCard : Document := change "CancelCard" "cancelCard" "CardCancelRequest" card

def getTransaction : Document := fetch "GetTransaction" "getTransaction" transaction

def listTransactionsByCardId : Document :=
  listing "ListTransactionsByCardId" "listTransactionsByCardId"
    ["query ListTransactionsByCardId(",
      "  $cardId: ID!, $limit: Int, $nextToken: String,",
      "  $dateRange: DateRangeInput, $sortOrder: SortOrder",
      ") \x7b"]
    ["  listTransactionsByCardId(",
      "    cardId: $cardId, limit: $limit, nextToken: $nextToken,",
      "    dateRange: $dateRange, sortOrder: $sortOrder",
      "  ) \x7b"]
    transaction

def listTransactions : Document :=
  listing "ListTransactions" "listTransactions"
    ["query ListTransactions(",
      "  $limit: Int, $nextToken: String, $dateRange: DateRangeInput, $sortOrder: SortOrder",
      ") \x7b"]
    ["  listTransactions(",
      "    limit: $limit, nextToken: $nextToken, dateRange: $dateRange, sortOrder: $sortOrder",
      "  ) \x7b"]
    transaction

/-- All documents. -/
def all : List Document :=
  [getServiceConfig, getClientConfiguration, setupFundingSource, completeFundingSource,
    refreshFundingSource, cancelFundingSource, cancelProvisionalFundingSource,
    reviewUnfundedFundingSource, getFundingSource, listFundingSources, getProvisionalFundingSource,
    listProvisionalFundingSources, onFundingSourceUpdate, provisionVirtualCard, getProvisionalCard,
    listProvisionalCards, getCard, listCards, updateCard, cancelCard, getTransaction,
    listTransactionsByCardId, listTransactions]

/-- The document of a name. -/
def named? (name : String) : Option Document := all.find? (·.name == name)

end Document

end CardService.Backend
