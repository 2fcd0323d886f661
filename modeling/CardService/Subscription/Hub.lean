import CardService.Audit
import CardService.Subscription.Channel
import CardService.Subscription.Roster

/-!
# CardService — the subscription hub

The hub runs one watch for all subscribers. It is started for the owner that the first subscriber
comes with, and cancelled when the last one leaves; a subscriber of another owner has it started
anew, and all earlier subscribers are dropped. Updates are told to the subscribers in the order of
their ids.

The watcher and the subscribers are the hub's surroundings. Each watch gets a new mark, and what it
hears arrives under that mark, whenever it likes: during the start, during the cancellation, and
afterwards. Only marks that are `live` are listened to.
-/

namespace CardService.Subscription

/-! ## State -/

/-- A watch that runs for an owner. -/
structure Watch where
  owner : String
  mark : Nat
  deriving DecidableEq

/-- Who is told of updates: code of the client's user, or a channel known by its number. -/
inductive Subscriber (Handler : Type) where
  | handler (handler : Handler)
  | channel (number : Nat)
  deriving DecidableEq

/-- The state of a hub. -/
structure Hub (Handler : Type) where
  roster : Roster (Subscriber Handler)
  running : Option Watch
  connection : ConnectionState
  /-- The marks of the watches that are listened to. -/
  live : List Nat
  /-- The mark of the next watch. -/
  nextMark : Nat
  /-- Whether a watcher crashed while the hub was starting a watch. -/
  poisoned : Bool

/-- A hub, the channels of its subscribers, and the world around it. -/
structure Station (World Handler : Type) where
  hub : Hub Handler
  channels : List Channel
  world : World

/-- Something that happens at a station. -/
abbrev Action (World Handler : Type) : Type → Type := StateM (Station World Handler)

/-- How the start of a watch ends. -/
inductive StartOutcome where
  | started
  | refused (fault : WatchFault)
  | crashed

/-- What a watcher does when it is asked to start: it may report events right away. -/
structure StartAnswer where
  events : List WatchEvent
  outcome : StartOutcome

/-- What a hub relies on. -/
structure Surroundings (World Handler : Type) where
  /-- Starts a watch under a mark; there may be no watcher at all. -/
  watch : Option (Nat → Backend.Request → StateM World StartAnswer)
  /-- Cancels the watch of a mark, which may report more events. -/
  cancel : Nat → StateM World (List WatchEvent)
  /-- Writes an event down. -/
  audit : Audit.SubscriptionEvent → StateM World Unit
  /-- Tells code of the client's user, which may fail with a message, and may use the hub. -/
  tell : Handler → Notice → Action World Handler (Option String)

namespace Hub

variable {World Handler : Type}

/-- A hub without subscribers. -/
def empty : Hub Handler where
  roster := .empty
  running := none
  connection := .disconnected
  live := []
  nextMark := 0
  poisoned := false

/-! ## Acting -/

/-- A step in the world around the hub. -/
def outside {α : Type} (act : StateM World α) : Action World Handler α := fun station =>
  let (a, world) := act station.world
  (a, { station with world })

/-- A step of the hub. -/
def adjust (f : Hub Handler → Hub Handler) : Action World Handler Unit :=
  modify fun station => { station with hub := f station.hub }

/-- Writes an event about subscriptions down. -/
def record (around : Surroundings World Handler) (subscription : Option SubscriptionId)
    (reason : Audit.Reason) (detail : String) : Action World Handler Unit :=
  outside (around.audit ⟨subscription, reason, detail⟩)

/-! ## Telling subscribers -/

/-- Puts a notice into a channel; a channel that does not exist is closed. -/
def sendTo (number : Nat) (notice : Notice) (channels : List Channel) :
    Option String × List Channel :=
  match channels[number]? with
  | none => (some ChannelFault.closed.message, channels)
  | some channel =>
    match channel.send notice with
    | .ok channel => (none, channels.set number channel)
    | .error fault => (some fault.message, channels)

/-- Tells a subscriber, and gives the message it fails with. -/
def tell (around : Surroundings World Handler) : Subscriber Handler → Notice →
    Action World Handler (Option String)
  | .handler handler, notice => around.tell handler notice
  | .channel number, notice => fun station =>
    let (failure, channels) := sendTo number notice station.channels
    (failure, { station with channels })

/-- Tells subscribers one after the other. One that fails does not keep the others from being
told. -/
def tellAll (around : Surroundings World Handler) (notice : Notice) :
    List (SubscriptionId × Subscriber Handler) → Action World Handler Unit
  | [] => pure ()
  | (id, subscriber) :: rest => do
    match ← tell around subscriber notice with
    | none => pure ()
    | some message =>
      record around (some id) .subscriberFailed ("subscriber delivery failed: " ++ message)
    tellAll around notice rest

/-- Acts on an event of a watch that is listened to. -/
def route (around : Surroundings World Handler) : WatchEvent → Action World Handler Unit
  | .update response =>
    match sourceOfUpdate response with
    | .ok source => do tellAll around (.changed source) (← get).hub.roster.entries
    | .error failure => record around none .updateDropped failure.message
  | .fault fault => record around none .watchError fault.message
  | .connection state => do
    adjust fun hub => { hub with connection := state }
    tellAll around (.connection state) (← get).hub.roster.entries

/-- Takes an event in that arrived under a mark. -/
def hear (around : Surroundings World Handler) (mark : Nat) (event : WatchEvent) :
    Action World Handler Unit := do
  if (← get).hub.live.contains mark then route around event

/-- Takes several events in, in order. -/
def hearAll (around : Surroundings World Handler) (mark : Nat) :
    List WatchEvent → Action World Handler Unit
  | [] => pure ()
  | event :: rest => do
    hear around mark event
    hearAll around mark rest

/-! ## Starting and stopping -/

/-- Stops listening to the running watch, and then cancels it. -/
def cancelRunning (around : Surroundings World Handler) : Action World Handler Unit := do
  match (← get).hub.running with
  | none => pure ()
  | some watch =>
    adjust fun hub => { hub with running := none, live := hub.live.erase watch.mark }
    hearAll around watch.mark (← outside (around.cancel watch.mark))

/-- Stops the running watch, if there is one. -/
def stop (around : Surroundings World Handler) : Action World Handler Unit := do
  cancelRunning around
  adjust fun hub => { hub with connection := .disconnected }

/-- Drops all subscribers of a previous owner, each with a note. -/
def dropAll (around : Surroundings World Handler) (previous : String) :
    Action World Handler Unit := do
  let ids := (← get).hub.roster.ids
  adjust fun hub => { hub with roster := .empty }
  noteAll ids
where
  noteAll : List SubscriptionId → Action World Handler Unit
    | [] => pure ()
    | id :: rest => do
      record around (some id) .ownerChanged
        ("watcher restarted for another owner; previous owner " ++ previous)
      noteAll rest

/-- Subscribes someone and starts a watch. Without a watch, the subscriber is removed again. Nothing
is answered if the watcher crashes. -/
def start (around : Surroundings World Handler)
    (watch : Nat → Backend.Request → StateM World StartAnswer) (id : SubscriptionId)
    (owner : String) (subscriber : Subscriber Handler) :
    Action World Handler (Option (Except WatchFault Unit)) := do
  let mark := (← get).hub.nextMark
  adjust fun hub =>
    { hub with
      roster := hub.roster.insert id subscriber
      live := mark :: hub.live
      nextMark := mark + 1 }
  let answer ← outside (watch mark (watchRequest owner))
  hearAll around mark answer.events
  match answer.outcome with
  | .started =>
    adjust fun hub => { hub with running := some ⟨owner, mark⟩ }
    return some (.ok ())
  | .refused fault =>
    adjust fun hub => { hub with roster := hub.roster.erase id }
    return some (.error fault)
  | .crashed =>
    adjust fun hub => { hub with poisoned := true }
    return none

/-! ## Calls -/

/-- Subscribes someone for an owner, in place of an earlier subscriber with the same id. -/
def subscribe (around : Surroundings World Handler) (id : SubscriptionId) (owner : String)
    (subscriber : Subscriber Handler) :
    Action World Handler (Option (Except WatchFault Unit)) := do
  match around.watch with
  | none => return some (.error .unavailable)
  | some watch =>
    let hub := (← get).hub
    if hub.poisoned then return some (.error .poisoned)
    else
      match hub.running with
      | none => start around watch id owner subscriber
      | some current =>
        if current.owner = owner then
          adjust fun hub => { hub with roster := hub.roster.insert id subscriber }
          return some (.ok ())
        else
          stop around
          dropAll around current.owner
          start around watch id owner subscriber

/-- Removes a subscriber; an id that nobody has is ignored. -/
def unsubscribe (around : Surroundings World Handler) (id : SubscriptionId) :
    Action World Handler (Except WatchFault Unit) := do
  if (← get).hub.poisoned then return .error .poisoned
  else
    adjust fun hub => { hub with roster := hub.roster.erase id }
    if (← get).hub.roster.isEmpty then stop around
    return .ok ()

/-- Removes all subscribers. -/
def unsubscribeAll (around : Surroundings World Handler) :
    Action World Handler (Except WatchFault Unit) := do
  if (← get).hub.poisoned then return .error .poisoned
  else
    adjust fun hub => { hub with roster := .empty }
    stop around
    return .ok ()

/-- Gives the hub up: the running watch is cancelled, and nothing else changes. -/
def release (around : Surroundings World Handler) : Action World Handler Unit := do
  if (← get).hub.poisoned then pure () else cancelRunning around

end Hub

/-- Opens a channel, and gives its number. -/
def openChannel {World Handler : Type} (capacity : Nat) : Action World Handler Nat :=
  fun station =>
    (station.channels.length,
      { station with channels := station.channels ++ [Channel.empty capacity] })

end CardService.Subscription
