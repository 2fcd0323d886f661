import CardService.Config.Validity
import CardService.Subscription.Hub

/-!
# CardService — the client

What a user calls. Operations and subscriptions are open to signed-in users only; leaving a
subscription and resetting the client are not. Each call writes exactly one audit event.
-/

namespace CardService.Client

open Subscription (Action Hub Subscriber)

/-! ## Making a client -/

/-- What writes the audit events of a client down: something that it is given, or what its
configuration names. -/
inductive AuditSink (Given : Type) where
  | given (sink : Given)
  | configured (target : AuditTarget)

/-- A client that has been made. -/
structure Built (Given : Type) where
  config : ClientConfig
  sink : AuditSink Given

/-- Makes a client with a configuration, or with the default one. The configuration must be valid,
and what it names for audit events must open, unless something else is given for them. -/
def build {World Given : Type} (opens : String → StateM World Bool) (config : Option ClientConfig)
    (given : Option Given) : StateM World (Except ConfigFault (Built Given)) :=
  let config := config.getD {}
  match config.validate with
  | .error problem => return .error (.invalid problem)
  | .ok () =>
    match given with
    | some sink => return .ok ⟨config, .given sink⟩
    | none => do
      return (← config.audit.openTarget opens).map fun target => ⟨config, .configured target⟩

/-! ## Surroundings -/

/-- A part of the backend that may be reached in a way of its own. -/
inductive Service where
  | configuration
  | fundingSources
  | cards
  | transactions
  deriving DecidableEq

instance : Keyword Service where
  all := [.configuration, .fundingSources, .cards, .transactions]
  name
    | .configuration => "configuration"
    | .fundingSources => "funding_sources"
    | .cards => "cards"
    | .transactions => "transactions"

/-- The service that an operation belongs to. -/
def serviceOf (op : Backend.Operation) : Service :=
  match op with
  | .getServiceConfig _ | .getClientConfiguration => .configuration
  | .provisionCard _ | .getProvisionalCard .. | .listProvisionalCards .. | .getCard .. |
    .listCards .. | .updateCard _ | .cancelCard _ => .cards
  | .getTransaction .. | .listCardTransactions .. | .listTransactions .. => .transactions
  | _ => .fundingSources

/-- What a client relies on, besides what its hub does. The session may fail with a message. Requests
that ask and requests that change something go to the backend in two ways. -/
structure Surroundings (World Handler : Type) where
  hub : Subscription.Surroundings World Handler
  isSignedIn : StateM World (Except String Bool)
  subject : StateM World (Except String (Option String))
  query : Service → Backend.Request → StateM World Backend.Reply
  mutate : Service → Backend.Request → StateM World Backend.Reply
  clearCache : StateM World (Except TransportFault Unit)
  audit : Audit.CallEvent → StateM World Unit

variable {World Handler : Type} (around : Surroundings World Handler)

/-- Writes the audit event of a call down. -/
def record {α : Type} (name : String) (result : Except Failure α) :
    Action World Handler Unit :=
  Hub.outside (around.audit (Audit.CallEvent.of name result))

/-- Fails unless someone is signed in. -/
def ensureSignedIn : Action World Handler (Except Failure Unit) := do
  match ← Hub.outside around.isSignedIn with
  | .error message => return .error (.session message)
  | .ok false => return .error .notSignedIn
  | .ok true => return .ok ()

/-! ## Operations -/

/-- Sends a request in the way that its document is meant for. A document that waits for changes is
not sent at all. -/
def send (service : Service) (request : Backend.Request) :
    Action World Handler (Except Failure Backend.Response) :=
  match request.document.kind with
  | .query => do
    return (← Hub.outside (around.query service request)).mapError Failure.transport
  | .mutation => do
    return (← Hub.outside (around.mutate service request)).mapError Failure.transport
  | .subscription => return .error (.unexpected (.notExecutable request.document.name))

/-- Sends the request of an operation as it is, and reads the records in the answer. -/
def fetch (op : Backend.Operation) : Action World Handler (Except Failure op.Records) := do
  return op.readRecords (← send around (serviceOf op) op.request)

/-- Sends the request of an operation, and reads its result. A listing that does not ask for a number
of items is sent the default. -/
def execute (config : ClientConfig) (op : Backend.Operation) :
    Action World Handler (Except Failure op.Result) := do
  let request := (op.withLimit config.list.defaultLimit).request
  return op.readResult (← send around (serviceOf op) request)

/-- Performs an operation for a signed-in user. -/
def perform (config : ClientConfig) (op : Backend.Operation) :
    Action World Handler (Except Failure op.Result) := do
  let result ←
    match ← ensureSignedIn around with
    | .ok () => execute around config op
    | .error failure => pure (.error failure)
  record around op.name result
  return result

/-! ## Subscriptions -/

/-- The name of the call that subscribes. -/
def subscribeName : String := "subscribe_to_funding_source_changes"

/-- The name of the call that unsubscribes. -/
def unsubscribeName : String := "unsubscribe_from_funding_source_changes"

/-- The name of the call that resets the client. -/
def resetName : String := "reset"

/-- Subscribes someone to changes of the signed-in user's funding sources. Nothing is answered, and
nothing written down, if the watcher crashes. -/
def subscribe (id : SubscriptionId) (subscriber : Subscriber Handler) :
    Action World Handler (Option (Except Failure Unit)) := do
  match ← attempt with
  | none => return none
  | some result =>
    record around subscribeName result
    return some result
where
  attempt : Action World Handler (Option (Except Failure Unit)) := do
    match ← ensureSignedIn around with
    | .error failure => return some (.error failure)
    | .ok () =>
      match ← Hub.outside around.subject with
      | .error message => return some (.error (.session message))
      | .ok none => return some (.error .notSignedIn)
      | .ok (some owner) =>
        let answer ← Hub.subscribe around.hub id owner subscriber
        return answer.map (Except.mapError Failure.watch)

/-- Ends a subscription. -/
def unsubscribe (id : SubscriptionId) : Action World Handler (Except Failure Unit) := do
  let result := (← Hub.unsubscribe around.hub id).mapError Failure.watch
  record around unsubscribeName result
  return result

/-- Ends all subscriptions, and then clears the cache. -/
def reset : Action World Handler (Except Failure Unit) := do
  let result ←
    match ← Hub.unsubscribeAll around.hub with
    | .ok () => do
      pure ((← Hub.outside around.clearCache).mapError Failure.transport)
    | .error fault => pure (.error (.watch fault))
  record around resetName result
  return result

end CardService.Client
