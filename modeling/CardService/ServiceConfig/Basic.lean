import CardService.FundingSource.Basic
import CardService.Payload.ClientConfiguration

/-!
# CardService — configuration of the service

The limits that the service sets, and the funding sources that it supports.
-/

namespace CardService

/-- How often transactions in one currency may be made. -/
structure CurrencyVelocity where
  currency : String
  velocity : List String
  deriving DecidableEq

/-- A provider and the funding sources that it supports. -/
structure FundingSourceSupport where
  providerType : String
  fundingSourceType : FundingSourceType
  network : String
  cardTypes : List CardType
  deriving DecidableEq

/-- The configuration of the service. -/
structure ServiceConfig where
  maxFundingSourceVelocity : List String
  maxFundingSourceFailureVelocity : List String
  maxCardCreationVelocity : List String
  maxTransactionVelocity : List CurrencyVelocity
  maxTransactionAmount : List CurrencyAmount
  virtualCardCurrencies : List String
  fundingSourceSupport : List FundingSourceSupport
  bankAccountExpendable : Bool
  clientConfiguration : List Payload.ProviderConfiguration
  deriving DecidableEq

end CardService
