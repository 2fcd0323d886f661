import CardService.Record.Shape

/-!
# CardService — amounts of money

An amount in the minor units of a currency, as it is kept and as the backend sends it. Both are laid
out in the same way, under titles of their own.
-/

namespace CardService

open Record (Shape Layout)

/-- An amount of money, in minor units of its currency. -/
structure CurrencyAmount where
  currency : String
  amount : Int64
  deriving DecidableEq

/-- An amount of money, as the backend sends it. -/
structure CurrencyAmountRecord where
  currency : String
  amount : Int64
  deriving DecidableEq

/-- The fields of an amount. -/
def CurrencyAmount.layout :
    Layout (String × Int64 × Unit) (Option String × Option Int64 × Unit) :=
  .field "currency" none .text <|
    .field "amount" none .integer64 .done

def CurrencyAmount.shape : Shape CurrencyAmount :=
  .record "CurrencyAmount" layout
    (fun (currency, amount, ()) => { currency, amount })
    (fun a => (a.currency, a.amount, ()))

def CurrencyAmountRecord.shape : Shape CurrencyAmountRecord :=
  .record "CurrencyAmountWire" CurrencyAmount.layout
    (fun (currency, amount, ()) => { currency, amount })
    (fun r => (r.currency, r.amount, ()))

/-- The amount of a record. -/
def CurrencyAmount.ofRecord (r : CurrencyAmountRecord) : CurrencyAmount where
  currency := r.currency
  amount := r.amount

end CardService
