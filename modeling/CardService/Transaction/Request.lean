import CardService.Page
import CardService.Transaction.Basic

/-!
# CardService — requests for transactions

Transactions are listed page by page, within a span of time and in an order. A user gives the span
in instants, and the backend is sent milliseconds.
-/

namespace CardService

/-- A span of time, both ends included, in instants or in milliseconds. -/
structure SpanOf (Instant : Type) where
  start : Instant
  finish : Instant
  deriving DecidableEq

/-- A span between two instants. -/
abbrev DateRange := SpanOf Timestamp

/-- A span in milliseconds since the Unix epoch. -/
abbrev EpochRange := SpanOf Double

/-- The span in milliseconds. -/
def DateRange.toEpoch (range : DateRange) : EpochRange :=
  ⟨range.start.toEpochMs, range.finish.toEpochMs⟩

def EpochRange.toJson (range : EpochRange) : Json :=
  .object
    [("startDateEpochMs", .ofDouble range.start), ("endDateEpochMs", .ofDouble range.finish)]

/-- Which transactions to list, and in which order. -/
structure TransactionFilter where
  dateRange : Option EpochRange
  sortOrder : Option SortOrder
  deriving DecidableEq

/-- What a user asks for: newest first unless told otherwise. -/
structure TransactionListInput where
  page : PageRequest
  dateRange : Option DateRange
  sortOrder : SortOrder := .descending
  deriving DecidableEq

/-- The filter that the backend is sent. -/
def TransactionListInput.filter (input : TransactionListInput) : TransactionFilter where
  dateRange := input.dateRange.map DateRange.toEpoch
  sortOrder := some input.sortOrder

end CardService
