import CardService.Backend.Operation

/-!
# CardService — updates of funding sources

What a watch hears from the backend, and what subscribers are told of it.
-/

namespace CardService.Subscription

/-- Whether a watch is connected to the backend. -/
inductive ConnectionState where
  | connected
  | disconnected
  deriving DecidableEq, Inhabited

instance : Keyword ConnectionState where
  all := [.connected, .disconnected]
  name
    | .connected => "connected"
    | .disconnected => "disconnected"

/-- Something that a watch hears. -/
inductive WatchEvent where
  | update (response : Backend.Response)
  | fault (fault : WatchFault)
  | connection (state : ConnectionState)

/-- Something that a subscriber is told. -/
inductive Notice where
  | changed (source : FundingSource)
  | connection (state : ConnectionState)
  deriving DecidableEq

/-- The request for updates of an owner's funding sources. -/
def watchRequest (owner : String) : Backend.Request where
  document := .onFundingSourceUpdate
  bindings := .object [("owner", .string owner)]
  policy := none

/-- The root field of an update. -/
def updateField : String := Backend.Document.onFundingSourceUpdate.field

/-- The record of the funding source in an update. -/
def recordOfUpdate (response : Backend.Response) : Except Failure FundingSourceRecord :=
  match response.errors with
  | e :: _ => .error (Failure.ofBackend e)
  | [] =>
    match response.data.bind (Backend.rootValue? updateField) with
    | none => .error (.unexpected (.emptyUpdate updateField))
    | some value =>
      (FundingSourceRecord.shape.ofJson value).mapError fun mismatch =>
        .unexpected (.misshapen updateField mismatch)

/-- The funding source in an update. -/
def sourceOfUpdate (response : Backend.Response) : Except Failure FundingSource := do
  FundingSource.ofRecord (← recordOfUpdate response)

end CardService.Subscription
