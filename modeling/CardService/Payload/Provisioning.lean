import CardService.Payload.Envelope
import CardService.Payload.Provider

/-!
# CardService — provisioning data

What a provider hands out to start setting up a funding source: three known variants, their
schemas, and the envelope they travel in.
-/

namespace CardService.Payload

/-- The data with which a client goes on setting up a funding source. -/
inductive ProvisioningData where
  | stripeCard (clientSecret intent : String)
  | checkoutCard
  | checkoutBankAccount
  deriving DecidableEq

namespace ProvisioningData

def provider : ProvisioningData → Provider
  | .stripeCard .. => .stripe
  | .checkoutCard | .checkoutBankAccount => .checkout

def fundingSourceType : ProvisioningData → FundingSourceType
  | .stripeCard .. | .checkoutCard => .creditCard
  | .checkoutBankAccount => .bankAccount

/-- The members behind the tag, where the client's secret stands under the given key. -/
def secrets (secretKey : String) : ProvisioningData → Members
  | .stripeCard clientSecret intent =>
    [(secretKey, .string clientSecret), ("intent", .string intent)]
  | _ => []

/-- The record that a provider sends. -/
def toRecord (data : ProvisioningData) : Members :=
  tagMembers data.provider data.fundingSourceType ++ data.secrets "client_secret"

/-- The record that a user of the client is shown. -/
def toOutput (data : ProvisioningData) : Members :=
  tagMembers data.provider data.fundingSourceType ++ data.secrets "clientSecret"

def encode (data : ProvisioningData) : String := encodeEnvelope (.object data.toRecord)

end ProvisioningData

/-! ## Schemas -/

/-- The rules for the tag of a variant. -/
def tagRules (provider : Provider) (kind : FundingSourceType) (optionalType : Bool) :
    List FieldRule :=
  [{ name := "provider", kind := .literalString provider.name },
    { name := "version", kind := .literalNumber version },
    { name := "type", kind := .literalString (Keyword.name kind), optional := optionalType }]

def stripeCardSchema : Schema where
  name := "StripeCardProvisioningData"
  fields := tagRules .stripe .creditCard true ++
    [{ name := "client_secret", kind := .string }, { name := "intent", kind := .string }]

def checkoutCardSchema : Schema where
  name := "CheckoutCardProvisioningData"
  fields := tagRules .checkout .creditCard false

def checkoutBankAccountSchema : Schema where
  name := "CheckoutBankAccountProvisioningData"
  fields := tagRules .checkout .bankAccount false

/-- The known variants of provisioning data. -/
def provisioningRegistry : Registry ProvisioningData where
  variants :=
    [⟨stripeCardSchema, fun record => do
        return .stripeCard (← record.string? "client_secret") (← record.string? "intent")⟩,
      ⟨checkoutCardSchema, fun _ => some .checkoutCard⟩,
      ⟨checkoutBankAccountSchema, fun _ => some .checkoutBankAccount⟩]
  base := ⟨"BaseProvisioningData", baseFields⟩

/-- The payload of a resolved record, or the refusal of a record without one. -/
def payloadOf {α : Type} (pipeline : Pipeline) (record : Members) :
    Resolution α → Except DecodeError α
  | .matched payload => .ok payload
  | .unrecognized tag => .error ⟨pipeline, .unrecognized tag⟩
  | .mismatch failures => .error ⟨pipeline, .noMatch record failures⟩

/-- The provisioning data in an envelope. -/
def decodeProvisioning (raw : String) : Except DecodeError ProvisioningData := do
  let record ← decodeRecord .provisioning raw
  payloadOf .provisioning record (provisioningRegistry.resolve record)

end CardService.Payload
