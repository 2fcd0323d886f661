import CardService.Failure
import CardService.Identifier
import CardService.Json.Writer

/-!
# CardService — audit events

What is written down about the use of the client: one event for each call, and one for each change
that could not be delivered. An audit file holds one line of JSON for each event.
-/

namespace CardService.Audit

/-! ## Events -/

/-- One call of the client, with the kind of the failure if it failed. -/
structure CallEvent where
  operation : String
  errorKind : Option String
  deriving DecidableEq

/-- Why an event about subscriptions was written. -/
inductive Reason where
  | ownerChanged
  | subscriberFailed
  | updateDropped
  | watchError
  deriving DecidableEq

def Reason.name : Reason → String
  | .ownerChanged => "owner_changed"
  | .subscriberFailed => "subscriber_failed"
  | .updateDropped => "update_dropped"
  | .watchError => "watch_error"

/-- Something about subscriptions that reached nobody. -/
structure SubscriptionEvent where
  subscription : Option SubscriptionId
  reason : Reason
  detail : String
  deriving DecidableEq

/-- The event of a call with the given result. -/
def CallEvent.of {α : Type} (operation : String) (result : Except Failure α) : CallEvent where
  operation := operation
  errorKind :=
    match result with
    | .ok _ => none
    | .error failure => some failure.kind

/-- Whether a call succeeded. -/
def CallEvent.outcome (event : CallEvent) : String :=
  if event.errorKind.isNone then "success" else "error"

/-! ## Entries -/

/-- What is written down of a call. A file takes any texts, also such as no call has. -/
structure CallEntry where
  operation : String
  outcome : String
  errorKind : Option String
  deriving DecidableEq

instance : Coe CallEvent CallEntry where
  coe event := ⟨event.operation, event.outcome, event.errorKind⟩

/-- What is written down about subscriptions. -/
structure SubscriptionEntry where
  subscription : Option String
  reason : String
  detail : String
  deriving DecidableEq

instance : Coe SubscriptionEvent SubscriptionEntry where
  coe event := ⟨event.subscription.map Identifier.text, event.reason.name, event.detail⟩

/-- An event of either kind, as it is written down. -/
inductive Event where
  | call (entry : CallEntry)
  | subscription (entry : SubscriptionEntry)
  deriving DecidableEq

/-! ## Records -/

/-- A number of milliseconds since the Unix epoch, in 64 bits. A wider number could be written too,
but no clock needs one for over five hundred million years, and up to there a reader of JSON takes the
number as it is, where it would round a larger one. -/
abbrev ClockTime := UInt64

/-- The member that tells when an event happened. -/
def timeMember (time : ClockTime) : String × Json :=
  ("timestamp_ms", .number (.whole time.toNat (by
    have := time.toNat_lt
    unfold Whole64
    omega)))

/-- The kind of an event. -/
def Event.kind : Event → String
  | .call _ => "sdk_operation"
  | .subscription _ => "subscription_notification"

/-- What an event says besides its kind and its time. -/
def Event.details : Event → Members
  | .call entry =>
    [("operation", .string entry.operation), ("outcome", .string entry.outcome),
      ("error_kind", .ofOption Json.string entry.errorKind)]
  | .subscription entry =>
    [("subscription_id", .ofOption Json.string entry.subscription),
      ("reason", .string entry.reason), ("detail", .string entry.detail)]

/-- The record of an event. -/
def Event.toRecord (time : ClockTime) (event : Event) : Members :=
  ("event", .string event.kind) :: timeMember time :: event.details

/-- The line of an event in an audit file. -/
def Event.line (time : ClockTime) (event : Event) : String :=
  (Json.object (event.toRecord time)).text ++ "\n"

/-- An audit file after some more events. -/
def append (file : String) (events : List (ClockTime × Event)) : String :=
  events.foldl (fun file (time, event) => file ++ event.line time) file

end CardService.Audit
