import CardService.Backend.Operation

/-!
# CardService — listings

What a user may list. Everything is listed page by page; transactions are also listed by time and in
an order, of all cards or of one.
-/

namespace CardService.Backend

/-- What a user lists. -/
inductive Listing where
  | fundingSources (page : PageRequest)
  | provisionalFundingSources (page : PageRequest)
  | provisionalCards (page : PageRequest)
  | cards (page : PageRequest)
  | cardTransactions (card : CardId) (input : TransactionListInput)
  | transactions (input : TransactionListInput)

/-- The operation that answers to a listing. -/
def Listing.operation (policy : CachePolicy) : Listing → Operation
  | .fundingSources page => .listFundingSources page policy
  | .provisionalFundingSources page => .listProvisionalFundingSources page policy
  | .provisionalCards page => .listProvisionalCards page policy
  | .cards page => .listCards page policy
  | .cardTransactions card input => .listCardTransactions card input.page input.filter policy
  | .transactions input => .listTransactions input.page input.filter policy

end CardService.Backend
