import CardService.Json.Basic
import CardService.Keyword

/-!
# CardService — providers and funding source types

The providers that issue payloads, the version of payloads, and the two types of funding source.
-/

namespace CardService

/-- The type of a funding source. -/
inductive FundingSourceType where
  | creditCard
  | bankAccount
  deriving DecidableEq, Inhabited

instance : Keyword FundingSourceType where
  all := [.creditCard, .bankAccount]
  name
    | .creditCard => "CREDIT_CARD"
    | .bankAccount => "BANK_ACCOUNT"

namespace Payload

/-- A provider of funding sources. -/
inductive Provider where
  | stripe
  | checkout
  deriving DecidableEq

def Provider.name : Provider → String
  | .stripe => "stripe"
  | .checkout => "checkout"

/-- The version of all payloads. -/
def version : UInt32 := 1

/-- The first members of a payload: what it says it is. -/
def tagMembers (provider : Provider) (kind : FundingSourceType) : Members :=
  [("provider", .string provider.name), ("version", .ofUInt32 version),
    ("type", .string (Keyword.name kind))]

end Payload

end CardService
