import CardService.Card.Record
import CardService.FundingSource.Record
import CardService.Page
import CardService.Record.OfJson
import CardService.ServiceConfig.Record

/-!
# CardService — resources of the backend

The kinds of things that the backend answers with. A resource has a record, as it is sent, and an
entity, as a user of the client sees it. An operation is answered by one of them, by one or none, or
by a page of them.
-/

namespace CardService.Backend

open Record (Shape)

/-- What the backend can be asked for. -/
inductive Resource where
  | serviceConfig
  | clientConfiguration
  | fundingSource
  | provisionalFundingSource
  | card
  | provisionalCard
  | transaction
  deriving DecidableEq

instance : Keyword Resource where
  all := [.serviceConfig, .clientConfiguration, .fundingSource, .provisionalFundingSource, .card,
    .provisionalCard, .transaction]
  name
    | .serviceConfig => "virtual_cards_config"
    | .clientConfiguration => "client_configuration"
    | .fundingSource => "funding_source"
    | .provisionalFundingSource => "provisional_funding_source"
    | .card => "card"
    | .provisionalCard => "provisional_card"
    | .transaction => "transaction"

namespace Resource

/-- What is sent for a resource. -/
abbrev Record : Resource → Type
  | .serviceConfig => ServiceConfigRecord
  | .clientConfiguration => ClientConfigurationRecord
  | .fundingSource => FundingSourceRecord
  | .provisionalFundingSource => ProvisionalFundingSourceRecord
  | .card => CardRecord
  | .provisionalCard => ProvisionalCardRecord
  | .transaction => TransactionRecord

/-- What a user of the client sees of a resource. -/
abbrev Entity : Resource → Type
  | .serviceConfig => ServiceConfig
  | .clientConfiguration => List Payload.ProviderConfiguration
  | .fundingSource => FundingSource
  | .provisionalFundingSource => ProvisionalFundingSource
  | .card => Card
  | .provisionalCard => ProvisionalCard
  | .transaction => Transaction

/-- The layout of a record. -/
def shape : (r : Resource) → Shape r.Record
  | .serviceConfig => ServiceConfigRecord.shape
  | .clientConfiguration => ClientConfigurationRecord.shape
  | .fundingSource => FundingSourceRecord.shape
  | .provisionalFundingSource => ProvisionalFundingSourceRecord.shape
  | .card => CardRecord.shape
  | .provisionalCard => ProvisionalCardRecord.shape
  | .transaction => TransactionRecord.shape

/-- The entity of a record. -/
def ofRecord : (r : Resource) → r.Record → Except Failure r.Entity
  | .serviceConfig => ServiceConfig.ofRecord
  | .clientConfiguration => clientConfigurationOfRecord
  | .fundingSource => FundingSource.ofRecord
  | .provisionalFundingSource => ProvisionalFundingSource.ofRecord
  | .card => Card.ofRecord
  | .provisionalCard => ProvisionalCard.ofRecord
  | .transaction => Transaction.ofRecord

end Resource

/-! ## How many -/

/-- How many things an operation is answered by. -/
inductive Arity where
  | one
  | optional
  | page
  deriving DecidableEq

namespace Arity

/-- What stands in the root field of an answer that has one. -/
abbrev Held : Arity → Type → Type
  | .one, α => α
  | .optional, α => α
  | .page, α => Page α

/-- What an operation results in. -/
abbrev Of : Arity → Type → Type
  | .one, α => α
  | .optional, α => Option α
  | .page, α => Page α

/-- The layout of the root field. -/
def shape {α : Type} : (arity : Arity) → Shape α → Shape (arity.Held α)
  | .one, item => item
  | .optional, item => item
  | .page, item => Page.shape item

/-- The result where the root field holds something or nothing. Only an operation that may find
nothing can do without. -/
def settle {α : Type} (field : String) : (arity : Arity) → Option (arity.Held α) →
    Except Failure (arity.Of α)
  | .optional, held => .ok held
  | .one, some a => .ok a
  | .page, some found => .ok found
  | .one, none => .error (.unexpected (.nullField field))
  | .page, none => .error (.unexpected (.nullField field))

/-- Converts everything in a result, or fails as the first thing that fails. -/
def mapM {α β : Type} (f : α → Except Failure β) : (arity : Arity) → arity.Of α →
    Except Failure (arity.Of β)
  | .one, a => f a
  | .optional, a => a.mapM f
  | .page, found => found.mapM f

end Arity

end CardService.Backend
