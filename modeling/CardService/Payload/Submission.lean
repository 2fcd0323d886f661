import CardService.Payload.Envelope
import CardService.Payload.Provider
import CardService.Record.OfJson

/-!
# CardService — data that a client submits

What a client sends to a provider to set up, complete or refresh a funding source.
-/

namespace CardService.Payload

open Record (Shape Layout)

/-- A text that the user has agreed to. -/
structure AuthorizationText where
  language : String
  content : String
  contentType : String
  hash : String
  hashAlgorithm : String
  deriving DecidableEq

namespace AuthorizationText

def shape : Shape AuthorizationText :=
  .record "AuthorizationText"
    (.field "language" none .text <|
      .field "content" none .text <|
      .field "contentType" none .text <|
      .field "hash" none .text <|
      .field "hashAlgorithm" none .text .done)
    (fun (language, content, contentType, hash, hashAlgorithm, ()) =>
      { language, content, contentType, hash, hashAlgorithm })
    (fun t => (t.language, t.content, t.contentType, t.hash, t.hashAlgorithm, ()))

def toJson (t : AuthorizationText) : Json :=
  .object [("language", .string t.language), ("content", .string t.content),
    ("contentType", .string t.contentType), ("hash", .string t.hash),
    ("hashAlgorithm", .string t.hashAlgorithm)]

end AuthorizationText

/-- What is sent to set up a funding source. -/
structure SetupData where
  applicationName : String
  deriving DecidableEq

namespace SetupData

def toRecord (data : SetupData) : Members := [("applicationName", .string data.applicationName)]

def encode (data : SetupData) : String := encodeEnvelope (.object data.toRecord)

end SetupData

/-- What is sent to complete a funding source. -/
inductive CompletionData where
  | stripeCard (paymentMethod : String)
  | checkoutCard (paymentToken : String)
  | checkoutBankAccount (publicToken accountId institutionId : String)
      (authorizationText : AuthorizationText)
  deriving DecidableEq

namespace CompletionData

def provider : CompletionData → Provider
  | .stripeCard _ => .stripe
  | .checkoutCard _ | .checkoutBankAccount .. => .checkout

def fundingSourceType : CompletionData → FundingSourceType
  | .stripeCard _ | .checkoutCard _ => .creditCard
  | .checkoutBankAccount .. => .bankAccount

/-- The members behind the tag. -/
def details : CompletionData → Members
  | .stripeCard paymentMethod => [("payment_method", .string paymentMethod)]
  | .checkoutCard paymentToken => [("payment_token", .string paymentToken)]
  | .checkoutBankAccount publicToken accountId institutionId authorizationText =>
    [("public_token", .string publicToken), ("account_id", .string accountId),
      ("institution_id", .string institutionId), ("authorizationText", authorizationText.toJson)]

def toRecord (data : CompletionData) : Members :=
  tagMembers data.provider data.fundingSourceType ++ data.details

def encode (data : CompletionData) : String := encodeEnvelope (.object data.toRecord)

end CompletionData

/-- What is sent to refresh a funding source. -/
inductive RefreshData where
  | checkoutBankAccount (applicationName : String) (accountId : Option String)
      (authorizationText : Option AuthorizationText)
  deriving DecidableEq

namespace RefreshData

def toRecord : RefreshData → Members
  | .checkoutBankAccount applicationName accountId authorizationText =>
    tagMembers .checkout .bankAccount ++ [("applicationName", .string applicationName)] ++
      Members.optional "accountId" Json.string accountId ++
      Members.optional "authorizationText" AuthorizationText.toJson authorizationText

def encode (data : RefreshData) : String := encodeEnvelope (.object data.toRecord)

end RefreshData

end CardService.Payload
