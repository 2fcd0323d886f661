import CardService.Payload.Provisioning

/-!
# CardService — interaction data

What a backend error carries when the user has to act before a funding source can be used.
-/

namespace CardService.Payload

/-- The data with which a client lets the user act. -/
inductive InteractionData where
  | checkoutCard (redirectUrl : String)
  deriving DecidableEq

namespace InteractionData

def provider : InteractionData → Provider
  | .checkoutCard _ => .checkout

def fundingSourceType : InteractionData → FundingSourceType
  | .checkoutCard _ => .creditCard

/-- The record that a provider sends. -/
def toRecord : InteractionData → Members
  | .checkoutCard redirectUrl =>
    tagMembers .checkout .creditCard ++ [("redirectUrl", .string redirectUrl)]

def encode (data : InteractionData) : String := encodeEnvelope (.object data.toRecord)

/-- The key under which an error carries the envelope. -/
def infoKey : String := "provisioningData"

/-- The error info that carries the data. -/
def toErrorInfo (data : InteractionData) : Json := .object [(infoKey, .string data.encode)]

end InteractionData

def checkoutCardInteractionSchema : Schema where
  name := "CheckoutCardInteractionData"
  fields := tagRules .checkout .creditCard false ++ [{ name := "redirectUrl", kind := .string }]

/-- The known variants of interaction data. -/
def interactionRegistry : Registry InteractionData where
  variants :=
    [⟨checkoutCardInteractionSchema, fun record => do
        return .checkoutCard (← record.string? "redirectUrl")⟩]
  base := ⟨"BaseInteractionData", baseFields⟩

/-- The interaction data in the info of an error. -/
def decodeInteraction (info : Json) : Except DecodeError InteractionData :=
  match (info.get? InteractionData.infoKey).bind Json.string? with
  | none => .error ⟨.interaction, .missingData⟩
  | some raw => do
    let record ← decodeRecord .interaction raw
    payloadOf .interaction record (interactionRegistry.resolve record)

end CardService.Payload
