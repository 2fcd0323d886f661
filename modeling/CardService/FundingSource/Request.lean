import CardService.FundingSource.Basic
import CardService.Payload.Submission

/-!
# CardService — requests about funding sources

What a user of the client asks for, with the data for the provider in the open, and what the backend
is sent, with that data in an envelope. What is left open is left out.
-/

namespace CardService

/-! ## Setting up -/

/-- What a user asks for to set up a funding source. -/
structure SetupInput where
  fundingSourceType : FundingSourceType
  currency : String
  supportedProviders : Option (List String)
  setupData : Option Payload.SetupData
  deriving DecidableEq

/-- A request to set up a funding source. -/
structure SetupRequest where
  fundingSourceType : FundingSourceType
  currency : String
  supportedProviders : Option (List String)
  setupData : Option String
  deriving DecidableEq

/-- The request for what is asked. -/
def SetupInput.request (input : SetupInput) : SetupRequest where
  fundingSourceType := input.fundingSourceType
  currency := input.currency
  supportedProviders := input.supportedProviders
  setupData := input.setupData.map Payload.SetupData.encode

def SetupRequest.toJson (r : SetupRequest) : Json :=
  .object <|
    [("type", .string (Keyword.name r.fundingSourceType)), ("currency", .string r.currency)] ++
      Members.optional "supportedProviders" (fun names => .array (names.map Json.string))
        r.supportedProviders ++
      Members.optional "setupData" Json.string r.setupData

/-! ## Completing -/

/-- What a user asks for to complete a provisional funding source. -/
structure CompleteInput where
  id : FundingSourceId
  completionData : Payload.CompletionData
  updateCardFundingSource : Option Bool
  deriving DecidableEq

/-- A request to complete a provisional funding source. -/
structure CompleteRequest where
  id : String
  completionData : String
  updateCardFundingSource : Option Bool
  deriving DecidableEq

/-- The request for what is asked. -/
def CompleteInput.request (input : CompleteInput) : CompleteRequest where
  id := input.id.text
  completionData := input.completionData.encode
  updateCardFundingSource := input.updateCardFundingSource

def CompleteRequest.toJson (r : CompleteRequest) : Json :=
  .object <|
    [("id", .string r.id), ("completionData", .string r.completionData)] ++
      Members.optional "updateCardFundingSource" Json.bool r.updateCardFundingSource

/-! ## Refreshing -/

/-- What a user asks for to refresh a funding source. -/
structure RefreshInput where
  id : FundingSourceId
  refreshData : Payload.RefreshData
  language : Option String
  deriving DecidableEq

/-- A request to refresh a funding source. -/
structure RefreshRequest where
  id : String
  refreshData : String
  language : Option String
  deriving DecidableEq

/-- The request for what is asked. -/
def RefreshInput.request (input : RefreshInput) : RefreshRequest where
  id := input.id.text
  refreshData := input.refreshData.encode
  language := input.language

def RefreshRequest.toJson (r : RefreshRequest) : Json :=
  .object <|
    [("id", .string r.id), ("refreshData", .string r.refreshData)] ++
      Members.optional "language" Json.string r.language

end CardService
