import CardService.Backend.Field
import CardService.ServiceConfig.Basic

/-!
# CardService — records of the configuration

How the backend sends its configuration, and how it is read off its records.
-/

namespace CardService

open Record (Shape Layout)

/-! ## Records -/

/-- How often transactions in one currency may be made, as the backend sends it. -/
structure CurrencyVelocityRecord where
  currency : String
  velocity : List String
  deriving DecidableEq

/-- A card type that a provider supports, as the backend sends it. -/
structure SupportedCardTypeRecord where
  cardType : String
  deriving DecidableEq

/-- A provider's support, as the backend sends it. -/
structure FundingSourceSupportRecord where
  providerType : String
  fundingSourceType : String
  network : String
  detail : List SupportedCardTypeRecord
  deriving DecidableEq

/-- The client configuration in its envelope, as the backend sends it. -/
structure ClientConfigurationRecord where
  data : String
  deriving DecidableEq

/-- The configuration, as the backend sends it. -/
structure ServiceConfigRecord where
  maxFundingSourceVelocity : List String
  maxFundingSourceFailureVelocity : List String
  maxCardCreationVelocity : List String
  maxTransactionVelocity : List CurrencyVelocityRecord
  maxTransactionAmount : List CurrencyAmountRecord
  virtualCardCurrencies : List String
  fundingSourceSupport : List FundingSourceSupportRecord
  bankAccountExpendable : Bool
  clientConfiguration : Option ClientConfigurationRecord
  deriving DecidableEq

/-! ## Layouts -/

def CurrencyVelocityRecord.shape : Shape CurrencyVelocityRecord :=
  .record "CurrencyVelocityWire"
    (.field "currency" none .text <|
      .field "velocity" none (.list .text) .done)
    (fun (currency, velocity, ()) => { currency, velocity })
    (fun r => (r.currency, r.velocity, ()))

def SupportedCardTypeRecord.shape : Shape SupportedCardTypeRecord :=
  .record "FundingSourceSupportDetailWire"
    (.field "cardType" none .text .done)
    (fun (cardType, ()) => { cardType })
    (fun r => (r.cardType, ()))

def FundingSourceSupportRecord.shape : Shape FundingSourceSupportRecord :=
  .record "FundingSourceSupportInfoWire"
    (.field "providerType" none .text <|
      .field "fundingSourceType" none .text <|
      .field "network" none .text <|
      .field "detail" (some []) (.list SupportedCardTypeRecord.shape) .done)
    (fun (providerType, fundingSourceType, network, detail, ()) =>
      { providerType, fundingSourceType, network, detail })
    (fun r => (r.providerType, r.fundingSourceType, r.network, r.detail, ()))

def ClientConfigurationRecord.shape : Shape ClientConfigurationRecord :=
  .record "ClientConfigurationWire"
    (.field "data" none .text .done)
    (fun (data, ()) => { data })
    (fun r => (r.data, ()))

def ServiceConfigRecord.shape : Shape ServiceConfigRecord :=
  .record "VirtualCardsConfigWire"
    (.field "maxFundingSourceVelocity" (some []) (.list .text) <|
      .field "maxFundingSourceFailureVelocity" (some []) (.list .text) <|
      .field "maxCardCreationVelocity" (some []) (.list .text) <|
      .field "maxTransactionVelocity" (some []) (.list CurrencyVelocityRecord.shape) <|
      .field "maxTransactionAmount" (some []) (.list CurrencyAmountRecord.shape) <|
      .field "virtualCardCurrencies" (some []) (.list .text) <|
      .field "fundingSourceSupportInfo" (some []) (.list FundingSourceSupportRecord.shape) <|
      .field "bankAccountFundingSourceExpendableEnabled" (some false) .flag <|
      .field "fundingSourceClientConfiguration" (some none)
        (.optional ClientConfigurationRecord.shape) .done)
    (fun (maxFundingSourceVelocity, maxFundingSourceFailureVelocity, maxCardCreationVelocity,
        maxTransactionVelocity, maxTransactionAmount, virtualCardCurrencies, fundingSourceSupport,
        bankAccountExpendable, clientConfiguration, ()) =>
      { maxFundingSourceVelocity, maxFundingSourceFailureVelocity, maxCardCreationVelocity,
        maxTransactionVelocity, maxTransactionAmount, virtualCardCurrencies, fundingSourceSupport,
        bankAccountExpendable, clientConfiguration })
    (fun r => (r.maxFundingSourceVelocity, r.maxFundingSourceFailureVelocity,
      r.maxCardCreationVelocity, r.maxTransactionVelocity, r.maxTransactionAmount,
      r.virtualCardCurrencies, r.fundingSourceSupport, r.bankAccountExpendable,
      r.clientConfiguration, ()))

/-! ## Reading records -/

/-- The velocity of a record. -/
def CurrencyVelocity.ofRecord (r : CurrencyVelocityRecord) : CurrencyVelocity where
  currency := r.currency
  velocity := r.velocity

/-- A provider's support, as a record gives it. -/
def FundingSourceSupport.ofRecord (r : FundingSourceSupportRecord) :
    Except Failure FundingSourceSupport := do
  return {
    providerType := r.providerType
    fundingSourceType := ← Backend.keyword "funding source type" r.fundingSourceType
    network := r.network
    cardTypes := r.detail.map fun detail => .ofName detail.cardType }

/-- The client configuration of a record. -/
def clientConfigurationOfRecord (r : ClientConfigurationRecord) :
    Except Failure (List Payload.ProviderConfiguration) :=
  (Payload.decodeClientConfiguration r.data).mapError Failure.decode

/-- The configuration of a record. An absent client configuration is an empty one. -/
def ServiceConfig.ofRecord (r : ServiceConfigRecord) : Except Failure ServiceConfig := do
  return {
    maxFundingSourceVelocity := r.maxFundingSourceVelocity
    maxFundingSourceFailureVelocity := r.maxFundingSourceFailureVelocity
    maxCardCreationVelocity := r.maxCardCreationVelocity
    maxTransactionVelocity := r.maxTransactionVelocity.map CurrencyVelocity.ofRecord
    maxTransactionAmount := r.maxTransactionAmount.map CurrencyAmount.ofRecord
    virtualCardCurrencies := r.virtualCardCurrencies
    fundingSourceSupport := ← r.fundingSourceSupport.mapM FundingSourceSupport.ofRecord
    bankAccountExpendable := r.bankAccountExpendable
    clientConfiguration :=
      (← r.clientConfiguration.mapM clientConfigurationOfRecord).getD [] }

end CardService
