import CardService.Backend.Document
import CardService.Backend.Resource
import CardService.Backend.Response
import CardService.Card.Request
import CardService.FundingSource.Request
import CardService.Transaction.Request

/-!
# CardService — operations

The operations that the backend offers. An operation sends one request, and its result is read off
the one answer to it in the same way for all of them: a failure of the transport first, then the
first error of the response, then the data, and last the root field.
-/

namespace CardService.Backend

/-! ## Requests -/

/-- Where the answer to a query may come from. -/
inductive CachePolicy where
  | cacheOnly
  | remoteOnly
  deriving DecidableEq, Inhabited

/-- The name of a policy in requests. -/
def CachePolicy.name : CachePolicy → String
  | .cacheOnly => "cache-only"
  | .remoteOnly => "network-only"

/-- A request to the backend. Only queries have a policy. -/
structure Request where
  document : Document
  /-- The values of the document's variables, by name. -/
  bindings : Json
  policy : Option CachePolicy

/-! ## Operations -/

/-- An operation together with its input. -/
inductive Operation where
  | getServiceConfig (policy : CachePolicy)
  | getClientConfiguration
  | setupFundingSource (request : SetupRequest)
  | completeFundingSource (request : CompleteRequest)
  | refreshFundingSource (request : RefreshRequest)
  | cancelFundingSource (id : FundingSourceId)
  | cancelProvisionalFundingSource (id : FundingSourceId)
  | reviewUnfundedFundingSource (id : FundingSourceId)
  | getFundingSource (id : FundingSourceId) (policy : CachePolicy)
  | listFundingSources (page : PageRequest) (policy : CachePolicy)
  | getProvisionalFundingSource (id : FundingSourceId) (policy : CachePolicy)
  | listProvisionalFundingSources (page : PageRequest) (policy : CachePolicy)
  | provisionCard (request : ProvisionRequest)
  | getProvisionalCard (id : CardId) (policy : CachePolicy)
  | listProvisionalCards (page : PageRequest) (policy : CachePolicy)
  | getCard (id : CardId) (policy : CachePolicy)
  | listCards (page : PageRequest) (policy : CachePolicy)
  | updateCard (request : UpdateRequest)
  | cancelCard (id : CardId)
  | getTransaction (id : TransactionId) (policy : CachePolicy)
  | listCardTransactions (card : CardId) (page : PageRequest) (filter : TransactionFilter)
      (policy : CachePolicy)
  | listTransactions (page : PageRequest) (filter : TransactionFilter) (policy : CachePolicy)

namespace Operation

/-- The name of an operation. -/
def name : Operation → String
  | .getServiceConfig _ => "get_virtual_cards_config"
  | .getClientConfiguration => "get_funding_source_client_configuration"
  | .setupFundingSource _ => "setup_funding_source"
  | .completeFundingSource _ => "complete_funding_source"
  | .refreshFundingSource _ => "refresh_funding_source"
  | .cancelFundingSource _ => "cancel_funding_source"
  | .cancelProvisionalFundingSource _ => "cancel_provisional_funding_source"
  | .reviewUnfundedFundingSource _ => "review_unfunded_funding_source"
  | .getFundingSource .. => "get_funding_source"
  | .listFundingSources .. => "list_funding_sources"
  | .getProvisionalFundingSource .. => "get_provisional_funding_source"
  | .listProvisionalFundingSources .. => "list_provisional_funding_sources"
  | .provisionCard _ => "provision_virtual_card"
  | .getProvisionalCard .. => "get_provisional_card"
  | .listProvisionalCards .. => "list_provisional_cards"
  | .getCard .. => "get_card"
  | .listCards .. => "list_cards"
  | .updateCard _ => "update_card"
  | .cancelCard _ => "cancel_card"
  | .getTransaction .. => "get_transaction"
  | .listCardTransactions .. => "list_transactions_by_card_id"
  | .listTransactions .. => "list_transactions"

/-- The document that an operation sends. -/
def document : Operation → Document
  | .getServiceConfig _ => .getServiceConfig
  | .getClientConfiguration => .getClientConfiguration
  | .setupFundingSource _ => .setupFundingSource
  | .completeFundingSource _ => .completeFundingSource
  | .refreshFundingSource _ => .refreshFundingSource
  | .cancelFundingSource _ => .cancelFundingSource
  | .cancelProvisionalFundingSource _ => .cancelProvisionalFundingSource
  | .reviewUnfundedFundingSource _ => .reviewUnfundedFundingSource
  | .getFundingSource .. => .getFundingSource
  | .listFundingSources .. => .listFundingSources
  | .getProvisionalFundingSource .. => .getProvisionalFundingSource
  | .listProvisionalFundingSources .. => .listProvisionalFundingSources
  | .provisionCard _ => .provisionVirtualCard
  | .getProvisionalCard .. => .getProvisionalCard
  | .listProvisionalCards .. => .listProvisionalCards
  | .getCard .. => .getCard
  | .listCards .. => .listCards
  | .updateCard _ => .updateCard
  | .cancelCard _ => .cancelCard
  | .getTransaction .. => .getTransaction
  | .listCardTransactions .. => .listTransactionsByCardId
  | .listTransactions .. => .listTransactions

/-- The policy of a query. The client configuration is never taken from the cache. -/
def policy? : Operation → Option CachePolicy
  | .getServiceConfig policy => some policy
  | .getClientConfiguration => some .remoteOnly
  | .getFundingSource _ policy => some policy
  | .listFundingSources _ policy => some policy
  | .getProvisionalFundingSource _ policy => some policy
  | .listProvisionalFundingSources _ policy => some policy
  | .getProvisionalCard _ policy => some policy
  | .listProvisionalCards _ policy => some policy
  | .getCard _ policy => some policy
  | .listCards _ policy => some policy
  | .getTransaction _ policy => some policy
  | .listCardTransactions _ _ _ policy => some policy
  | .listTransactions _ _ policy => some policy
  | _ => none

/-! ## Variables -/

/-- The variables of a change. -/
def inputVariables (input : Json) : Json := .object [("input", input)]

/-- The variables that name one thing. -/
def idVariables {kind : IdentifierKind} (id : Identifier kind) : Json :=
  .object [("id", .string id.text)]

/-- The variables of a listing. -/
def pageMembers (page : PageRequest) : Members :=
  [("limit", .ofOption Json.ofUInt32 page.limit),
    ("nextToken", .ofOption Json.string page.nextToken)]

/-- The variables that pick transactions; what is not asked for is left out. -/
def filterMembers (filter : TransactionFilter) : Members :=
  Members.optional "dateRange" EpochRange.toJson filter.dateRange ++
    Members.optional "sortOrder" (fun order => .string (Keyword.name order)) filter.sortOrder

/-- The values of the variables that an operation sends. -/
def bindings : Operation → Json
  | .getServiceConfig _ => .object []
  | .getClientConfiguration => .object []
  | .setupFundingSource request => inputVariables request.toJson
  | .completeFundingSource request => inputVariables request.toJson
  | .refreshFundingSource request => inputVariables request.toJson
  | .cancelFundingSource id => inputVariables (idVariables id)
  | .cancelProvisionalFundingSource id => inputVariables (idVariables id)
  | .reviewUnfundedFundingSource id => inputVariables (idVariables id)
  | .getFundingSource id _ => idVariables id
  | .listFundingSources page _ => .object (pageMembers page)
  | .getProvisionalFundingSource id _ => idVariables id
  | .listProvisionalFundingSources page _ => .object (pageMembers page)
  | .provisionCard request => inputVariables request.toJson
  | .getProvisionalCard id _ => idVariables id
  | .listProvisionalCards page _ => .object (pageMembers page)
  | .getCard id _ => idVariables id
  | .listCards page _ => .object (pageMembers page)
  | .updateCard request => inputVariables request.toJson
  | .cancelCard id => inputVariables (idVariables id)
  | .getTransaction id _ => idVariables id
  | .listCardTransactions card page filter _ =>
    .object (pageMembers page ++ filterMembers filter ++ [("cardId", .string card.text)])
  | .listTransactions page filter _ => .object (pageMembers page ++ filterMembers filter)

/-- The request that an operation sends. -/
def request (op : Operation) : Request := ⟨op.document, op.bindings, op.policy?⟩

/-- Sets the number of items in a page where a listing does not ask for one. -/
def withLimit (limit : UInt32) : Operation → Operation
  | .listFundingSources page policy => .listFundingSources (fill page) policy
  | .listProvisionalFundingSources page policy => .listProvisionalFundingSources (fill page) policy
  | .listProvisionalCards page policy => .listProvisionalCards (fill page) policy
  | .listCards page policy => .listCards (fill page) policy
  | .listCardTransactions card page filter policy =>
    .listCardTransactions card (fill page) filter policy
  | .listTransactions page filter policy => .listTransactions (fill page) filter policy
  | op => op
where
  fill (page : PageRequest) : PageRequest := { page with limit := some (page.limit.getD limit) }

/-! ## Results -/

/-- What an operation is answered with. -/
def resource : Operation → Resource
  | .getServiceConfig _ => .serviceConfig
  | .getClientConfiguration => .clientConfiguration
  | .setupFundingSource _ => .provisionalFundingSource
  | .completeFundingSource _ => .fundingSource
  | .refreshFundingSource _ => .fundingSource
  | .cancelFundingSource _ => .fundingSource
  | .cancelProvisionalFundingSource _ => .provisionalFundingSource
  | .reviewUnfundedFundingSource _ => .fundingSource
  | .getFundingSource .. => .fundingSource
  | .listFundingSources .. => .fundingSource
  | .getProvisionalFundingSource .. => .provisionalFundingSource
  | .listProvisionalFundingSources .. => .provisionalFundingSource
  | .provisionCard _ => .provisionalCard
  | .getProvisionalCard .. => .provisionalCard
  | .listProvisionalCards .. => .provisionalCard
  | .getCard .. => .card
  | .listCards .. => .card
  | .updateCard _ => .card
  | .cancelCard _ => .card
  | .getTransaction .. => .transaction
  | .listCardTransactions .. => .transaction
  | .listTransactions .. => .transaction

/-- How many of it an operation is answered with: a look-up may find nothing. -/
def arity : Operation → Arity
  | .getFundingSource .. => .optional
  | .getProvisionalFundingSource .. => .optional
  | .getProvisionalCard .. => .optional
  | .getCard .. => .optional
  | .getTransaction .. => .optional
  | .listFundingSources .. => .page
  | .listProvisionalFundingSources .. => .page
  | .listProvisionalCards .. => .page
  | .listCards .. => .page
  | .listCardTransactions .. => .page
  | .listTransactions .. => .page
  | _ => .one

/-- The records that an operation results in. -/
abbrev Records (op : Operation) : Type := op.arity.Of op.resource.Record

/-- What a user of the client sees of an operation's result. -/
abbrev Result (op : Operation) : Type := op.arity.Of op.resource.Entity

end Operation

/-! ## Reading answers -/

/-- What came of a request. -/
abbrev Reply := Except TransportFault Response

/-- The value of the root field; `null` is none. -/
def rootValue? (field : String) (data : Json) : Option Json :=
  match data.get? field with
  | none => none
  | some .null => none
  | some value => some value

/-- What the root field of a response holds. -/
def readRoot {ρ : Type} (document : Document) (shape : Record.Shape ρ) (response : Response) :
    Except Failure (Option ρ) :=
  match response.errors, response.data with
  | e :: _, _ => .error (Failure.ofBackend e)
  | [], none => .error (.unexpected (.noData document.name))
  | [], some data =>
    match rootValue? document.field data with
    | none => .ok none
    | some value =>
      match shape.ofJson value with
      | .ok r => .ok (some r)
      | .error mismatch => .error (.unexpected (.misshapen document.field mismatch))

namespace Operation

/-- The records in the answer to an operation. -/
def readRecords (op : Operation) (answer : Except Failure Response) : Except Failure op.Records := do
  let held ← readRoot op.document (op.arity.shape op.resource.shape) (← answer)
  op.arity.settle op.document.field held

/-- The result of an operation. -/
def readResult (op : Operation) (answer : Except Failure Response) : Except Failure op.Result := do
  op.arity.mapM op.resource.ofRecord (← op.readRecords answer)

end Operation

end CardService.Backend
