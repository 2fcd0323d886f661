import CardService.Transaction.Basic
import CardService.Json.Basic

/-!
# CardService — virtual cards

A virtual card pays from a funding source. While it is being issued it is provisional.
-/

namespace CardService

/-! ## Names of states -/

/-- The state of a card. -/
inductive CardState where
  | issued
  | failed
  | closed
  | suspended
  deriving DecidableEq

instance : Keyword CardState where
  all := [.issued, .failed, .closed, .suspended]
  name
    | .issued => "ISSUED"
    | .failed => "FAILED"
    | .closed => "CLOSED"
    | .suspended => "SUSPENDED"

/-- How far a provisional card is. -/
inductive ProvisioningState where
  | provisioning
  | completed
  | failed
  deriving DecidableEq

instance : Keyword ProvisioningState where
  all := [.provisioning, .completed, .failed]
  name
    | .provisioning => "PROVISIONING"
    | .completed => "COMPLETED"
    | .failed => "FAILED"

/-! ## Cards -/

/-- An owner of a card besides its user. -/
structure CardOwner where
  id : OwnerId
  issuer : String
  deriving DecidableEq

/-- The address that a card is billed to. -/
structure BillingAddress where
  addressLine1 : String
  addressLine2 : Option String
  city : String
  state : String
  postalCode : String
  country : String
  deriving DecidableEq

/-- The month after which a card is not valid. -/
structure Expiry where
  mm : String
  yyyy : String
  deriving DecidableEq

/-- A virtual card. -/
structure Card where
  id : CardId
  owner : OwnerId
  owners : List CardOwner
  version : UInt32
  createdAt : Timestamp
  updatedAt : Timestamp
  fundingSourceId : FundingSourceId
  currency : String
  state : CardState
  activatedAt : Timestamp
  cancelledAt : Option Timestamp
  last4 : String
  cardholder : String
  pan : String
  csc : String
  billingAddress : Option BillingAddress
  expiry : Expiry
  metadata : Option Json
  lastTransaction : Option Transaction

/-- A card that is being issued. -/
structure ProvisionalCard where
  id : CardId
  owner : OwnerId
  version : UInt32
  createdAt : Timestamp
  updatedAt : Timestamp
  clientRefs : String
  provisioningState : ProvisioningState
  card : Option Card

end CardService
