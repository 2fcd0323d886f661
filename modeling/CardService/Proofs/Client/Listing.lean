import CardService.Client
import CardService.Proofs.Subscription.Mirroring

/-!
# CardService — what a client does to its surroundings

The surroundings of a client are made to list, beside their world, what the client does to them: the
requests that it sends, the watches that it has started, and the events that it notes. Sessions are
asked, handlers are told and caches are cleared without a word.

A call consists of what is asked for (`Call.body`), which notes nothing, and of the note that is made
of its answer (`Call.note`). So a call does the same whether or not it is listed, and the list shows
one event for it (`Call.act_listing`).
-/

namespace CardService.Client

open Subscription (Action Hub Mirrors Station Subscriber)

/-! ## Entries -/

/-- Something that a client does to its surroundings. -/
inductive Entry where
  | queried (service : Service) (request : Backend.Request)
  | mutated (service : Service) (request : Backend.Request)
  | watched (mark : Nat)
  | noted (event : Audit.CallEvent)

/-- The event that an entry notes. -/
def Entry.event? : Entry → Option Audit.CallEvent
  | .noted event => some event
  | _ => none

variable {World Handler : Type} {α : Type}

/-! ## Listing -/

/-- A step in a world that is listed beside it. -/
def listed (entry : Entry) (step : StateM World α) : StateM (World × List Entry) α :=
  fun (world, entries) =>
    let (a, world) := step world
    (a, world, entries ++ [entry])

/-- A step in a world that is not listed. -/
def unlisted (step : StateM World α) : StateM (World × List Entry) α :=
  fun (world, entries) =>
    let (a, world) := step world
    (a, world, entries)

theorem listed_run (entry : Entry) (step : StateM World α) (world : World) (entries : List Entry) :
    listed entry step (world, entries) =
      ((step world).1, (step world).2, entries ++ [entry]) := rfl

/-- What a hub relies on, with the watches that are started listed. -/
def listingHub (around : Subscription.Surroundings World Handler) :
    Subscription.Surroundings (World × List Entry) Handler where
  watch := around.watch.map fun watch mark request => listed (.watched mark) (watch mark request)
  cancel := fun mark => unlisted (around.cancel mark)
  audit := fun event => unlisted (around.audit event)
  tell := fun handler notice s =>
    let (failure, t) := around.tell handler notice { s with world := s.world.1 }
    (failure, { t with world := (t.world, s.world.2) })

/-- Surroundings that list what a client does to them, and are otherwise the same. -/
def Surroundings.listing (around : Surroundings World Handler) :
    Surroundings (World × List Entry) Handler where
  hub := listingHub around.hub
  isSignedIn := unlisted around.isSignedIn
  subject := unlisted around.subject
  query := fun service request => listed (.queried service request) (around.query service request)
  mutate := fun service request => listed (.mutated service request) (around.mutate service request)
  clearCache := unlisted around.clearCache
  audit := fun event => listed (.noted event) (around.audit event)

/-- A station with an empty list beside its world. -/
def unwritten (s : Station World Handler) : Station (World × List Entry) Handler :=
  { s with world := (s.world, []) }

/-! ## Calls -/

/-- A call of a client. -/
inductive Call (Handler : Type) where
  | operation (op : Backend.Operation)
  | subscribe (id : SubscriptionId) (subscriber : Subscriber Handler)
  | unsubscribe (id : SubscriptionId)
  | reset

namespace Call

/-- The name under which a call is noted. -/
def name : Call Handler → String
  | .operation op => op.name
  | .subscribe .. => subscribeName
  | .unsubscribe _ => unsubscribeName
  | .reset => resetName

/-- What a call results in. -/
abbrev Result : Call Handler → Type
  | .operation op => op.Result
  | _ => Unit

/-- Makes a call. Nothing is answered if the watcher crashes. -/
def act (around : Surroundings World Handler) (config : ClientConfig) :
    (call : Call Handler) → Action World Handler (Option (Except Failure call.Result))
  | .operation op => do return some (← perform around config op)
  | .subscribe id subscriber => Client.subscribe around id subscriber
  | .unsubscribe id => do return some (← Client.unsubscribe around id)
  | .reset => do return some (← Client.reset around)

/-- What a client does to its surroundings when a call is made, in order. -/
def entries (around : Surroundings World Handler) (config : ClientConfig) (call : Call Handler)
    (s : Station World Handler) : List Entry :=
  (call.act around.listing config (unwritten s)).2.world.2

end Call

/-! ## Calls in two parts -/

namespace Call

/-- What a call does before it is noted. -/
def body (around : Surroundings World Handler) (config : ClientConfig) :
    (call : Call Handler) → Action World Handler (Option (Except Failure call.Result))
  | .operation op => do
    match ← ensureSignedIn around with
    | .ok () => return some (← execute around config op)
    | .error failure => return some (.error failure)
  | .subscribe id subscriber => subscribe.attempt around id subscriber
  | .unsubscribe id => do
    return some ((← Hub.unsubscribe around.hub id).mapError Failure.watch)
  | .reset => do
    match ← Hub.unsubscribeAll around.hub with
    | .ok () => return some ((← Hub.outside around.clearCache).mapError Failure.transport)
    | .error fault => return some (.error (.watch fault))

/-- Notes the answer of a call, if there is one. -/
def note (around : Surroundings World Handler) (call : Call Handler) :
    Option (Except Failure call.Result) → Action World Handler (Option (Except Failure call.Result))
  | none => pure none
  | some result => do
    record around call.name result
    return some result

theorem act_run (around : Surroundings World Handler) (config : ClientConfig)
    (call : Call Handler) (s : Station World Handler) :
    call.act around config s =
      call.note around (call.body around config s).1 (call.body around config s).2 := by
  cases call with
  -- the note is made in every branch, with the answer of the branch
  | operation op =>
    rw [act, body, perform]
    simp only [Hub.bind_run]
    rcases (ensureSignedIn around s).1 with failure | signedIn
    · rfl
    · rfl
  | subscribe id subscriber =>
    rw [act, body, Client.subscribe, Hub.bind_run]
    cases (subscribe.attempt around id subscriber s).1 with
    | none => rfl
    | some result => rfl
  | unsubscribe id => rfl
  | reset =>
    rw [act, body, Client.reset]
    simp only [Hub.bind_run]
    rcases (Hub.unsubscribeAll around.hub s).1 with fault | cleared
    · rfl
    · rfl

end Call

/-! ## Listing changes nothing -/

/-- The world beside which entries with certain events are listed. -/
def Noting (events : List Audit.CallEvent) (world' : World × List Entry) (world : World) : Prop :=
  world'.1 = world ∧ world'.2.filterMap Entry.event? = events

theorem listed_mirrors (events : List Audit.CallEvent) (entry : Entry)
    (hentry : entry.event? = none) (step : StateM World α) :
    Mirrors (Noting events) (listed entry step) step := by
  rintro ⟨world, entries⟩ _ ⟨rfl, hevents⟩
  refine ⟨rfl, rfl, ?_⟩
  show (entries ++ [entry]).filterMap Entry.event? = events
  rw [List.filterMap_append, hevents, List.filterMap_cons_none hentry, List.filterMap_nil,
    List.append_nil]

theorem unlisted_mirrors (events : List Audit.CallEvent) (step : StateM World α) :
    Mirrors (Noting events) (unlisted step) step := by
  rintro ⟨world, entries⟩ _ ⟨rfl, hevents⟩
  exact ⟨rfl, rfl, hevents⟩

/-- A hub notes no calls. -/
theorem listingHub_mirrors (events : List Audit.CallEvent)
    (around : Subscription.Surroundings World Handler) :
    (listingHub around).Mirrors (Noting events) around where
  watch := by
    show Option.Rel _ (around.watch.map _) around.watch
    cases around.watch with
    | none => exact .none
    | some watch =>
      refine .some fun mark request => ?_
      exact listed_mirrors events (.watched mark) rfl (watch mark request)
  cancel := fun mark => unlisted_mirrors events (around.cancel mark)
  audit := fun event => unlisted_mirrors events (around.audit event)
  tell := by
    rintro handler notice ⟨hub, channels, world, entries⟩ ⟨_, _, _⟩ ⟨rfl, rfl, rfl, hevents⟩
    exact ⟨rfl, rfl, rfl, rfl, hevents⟩

variable {around : Surroundings World Handler}

theorem ensureSignedIn_mirrors (events : List Audit.CallEvent) :
    Hub.Mirrors (Noting events) (ensureSignedIn around.listing) (ensureSignedIn around) := by
  refine (Hub.Mirrors.outside (unlisted_mirrors events around.isSignedIn)).bind fun answer => ?_
  rcases answer with message | signedIn
  · exact .pure _
  · cases signedIn with
    | false => exact .pure _
    | true => exact .pure _

/-- A request is listed, but it is no event. -/
theorem send_mirrors (events : List Audit.CallEvent) (service : Service)
    (request : Backend.Request) :
    Hub.Mirrors (Noting events) (send around.listing service request)
      (send around service request) := by
  rw [send, send]
  cases request.document.kind with
  | query =>
    have hquery :=
      listed_mirrors events (.queried service request) rfl (around.query service request)
    exact (Hub.Mirrors.outside hquery).bind fun _ => .pure _
  | mutation =>
    have hmutate :=
      listed_mirrors events (.mutated service request) rfl (around.mutate service request)
    exact (Hub.Mirrors.outside hmutate).bind fun _ => .pure _
  | subscription => exact .pure _

namespace Call

/-- Before it is noted, a call notes nothing. -/
theorem body_mirrors (events : List Audit.CallEvent) (around : Surroundings World Handler)
    (config : ClientConfig) (call : Call Handler) :
    Hub.Mirrors (Noting events) (call.body around.listing config) (call.body around config) := by
  have hhub := listingHub_mirrors events around.hub
  cases call with
  | operation op =>
    refine (ensureSignedIn_mirrors events).bind fun gate => ?_
    cases gate with
    | error failure => exact .pure _
    | ok signedIn =>
      exact ((send_mirrors events _ _).bind fun _ => .pure _).bind fun result => .pure (some result)
  | subscribe id subscriber =>
    refine (ensureSignedIn_mirrors events).bind fun gate => ?_
    cases gate with
    | error failure => exact .pure _
    | ok signedIn =>
      refine (Hub.Mirrors.outside (unlisted_mirrors events around.subject)).bind fun answer => ?_
      rcases answer with message | subject
      · exact .pure _
      · cases subject with
        | none => exact .pure _
        | some owner => exact (Hub.Mirrors.subscribe hhub id owner subscriber).bind fun _ => .pure _
  | unsubscribe id => exact (Hub.Mirrors.unsubscribe hhub id).bind fun _ => .pure _
  | reset =>
    refine (Hub.Mirrors.unsubscribeAll hhub).bind fun answer => ?_
    cases answer with
    | error fault => exact .pure _
    | ok cleared =>
      exact (Hub.Mirrors.outside (unlisted_mirrors events around.clearCache)).bind fun _ => .pure _

/-- A call has the same answer, and leaves the same hub, channels and world, whether or not what it
does is listed. One event is listed for it, unless it is not answered. -/
theorem act_listing (around : Surroundings World Handler) (config : ClientConfig)
    (call : Call Handler) (s : Station World Handler) :
    (call.act around.listing config (unwritten s)).1 = (call.act around config s).1 ∧
      (call.act around.listing config (unwritten s)).2.Beside
        (Noting ((call.act around config s).1.map (.of call.name)).toList)
        (call.act around config s).2 := by
  -- the body leaves no event behind, so the note of the answer is the only one
  obtain ⟨hanswer, hafter⟩ :=
    call.body_mirrors [] around config (unwritten s) s ⟨rfl, rfl, rfl, rfl⟩
  rw [act_run, act_run, hanswer]
  cases (call.body around config s).1 with
  | none => exact ⟨rfl, hafter⟩
  | some result =>
    obtain ⟨hhub, hchannels, hworld, hevents⟩ := hafter
    refine ⟨rfl, hhub, hchannels, ?_, ?_⟩
    · show (around.audit _ _).2 = (around.audit _ _).2
      rw [hworld]
    · -- what was listed before is followed by the note
      show ((call.body around.listing config (unwritten s)).2.world.2 ++ _).filterMap _ = _
      rw [List.filterMap_append, hevents]
      rfl

end Call

end CardService.Client
