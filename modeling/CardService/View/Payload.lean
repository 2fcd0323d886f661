import CardService.Payload.ClientConfiguration
import CardService.Payload.Interaction
import CardService.View.Basic

/-!
# CardService — views of payloads

A payload is shown with its tag, the record that a user sees, the record that is sent, and its
envelope.
-/

namespace CardService.View

open Payload

instance : View FundingSourceType := ⟨fun t => .string (Keyword.name t)⟩

/-- What is shown of every payload. -/
def payloadMembers (provider : Provider) (kind : FundingSourceType) (output record : Members)
    (encoded : String) : Members :=
  [member "provider" provider.name, member "version" version, member "type" kind,
    member "serialized" (Json.object output).text, member "wire" (Json.object record).text,
    member "encoded" encoded]

instance : View ProvisioningData where
  view data := .object <|
    payloadMembers data.provider data.fundingSourceType data.toOutput data.toRecord data.encode

instance : View InteractionData where
  view data := .object <|
    payloadMembers data.provider data.fundingSourceType data.toRecord data.toRecord data.encode ++
      [member "error_info" data.toErrorInfo.text]

instance : View ProviderConfiguration where
  view c := .object
    [member "provider" c.provider, member "version" c.version, member "type" c.fundingSourceType,
      member "api_key" c.apiKey]

end CardService.View
