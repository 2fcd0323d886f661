import CardService.Proofs.Client.Listing
import Mathlib.Data.List.Forall2

/-!
# CardService — the gate of a client

Operations and subscriptions are for signed-in users. A call that is barred (`Barred`) asks the
session, is noted as failed, and does nothing else.

A client is used by calls, one after the other; between two of them its hub goes on by itself, and the
session may change (`Run`). The hub is kept in order by all of this (`Ready`), so that a reset always
finds a hub that it can clear. Each call leaves one event behind (`Deed.NotedAs`).

Main result: `calls_gated_and_noted`.
-/

namespace CardService.Client

open Subscription (Action Hub Station Subscriber)

variable {World Handler : Type}

/-! ## Deeds -/

/-- A call with its answer. -/
structure Deed (Handler : Type) where
  call : Call Handler
  answer : Option (Except Failure call.Result)

/-- An event tells what came of a call: its name, whether it succeeded, and why it failed if it did. -/
structure Deed.NotedAs (deed : Deed Handler) (event : Audit.CallEvent) : Prop where
  answered : deed.answer ≠ none
  operation : event.operation = deed.call.name
  outcome : event.outcome = "success" ↔ ∃ value, deed.answer = some (.ok value)
  errorKind : ∀ failure, deed.answer = some (.error failure) → event.errorKind = some failure.kind

theorem Deed.notedAs_of (call : Call Handler) (result : Except Failure call.Result) :
    Deed.NotedAs ⟨call, some result⟩ (.of call.name result) := by
  cases result with
  | ok value =>
    refine ⟨Option.some_ne_none _, rfl, ⟨fun _ => ⟨value, rfl⟩, fun _ => rfl⟩, ?_⟩
    intro failure hfailed
    cases hfailed
  | error failure =>
    refine ⟨Option.some_ne_none _, rfl, ⟨fun houtcome => ?_, fun ⟨_, hok⟩ => by cases hok⟩, ?_⟩
    · have hne : "error" ≠ "success" := by decide
      exact absurd houtcome hne
    · rintro _ ⟨⟩
      rfl

/-! ## Hubs in order -/

/-- A hub that is in order: its parts hang together, no start is going on, and no watcher crashed. -/
structure Ready (around : Surroundings World Handler) (hub : Hub Handler) : Prop where
  wired : Hub.Wired around.hub hub
  free : ¬ hub.Locked
  sound : hub.poisoned = false

variable {around : Surroundings World Handler} {config : ClientConfig}
variable {s t : Station World Handler}

theorem ready_empty : Ready around (.empty : Hub Handler) :=
  ⟨Hub.wired_empty, Hub.not_locked_empty, rfl⟩

/-- Calls keep a hub in order. -/
theorem Ready.hubCall (hready : Ready around s.hub) (hlawful : Hub.Lawful around.hub)
    (hsteady : Hub.Steady around.hub) (call : Hub.Call Handler) :
    Ready around (call.act around.hub s).2.hub := by
  have hturn := call.act_turn hlawful.reticent hready.wired.nodup hready.free
  exact ⟨hturn.wired hready.wired, hturn.free hready.free,
    hturn.sound (call.act_answered hsteady) hready.sound⟩

/-- So does everything else that happens to it, as long as no start is left unfinished. -/
theorem Ready.course {past : List (Hub.Deed Handler)} (hready : Ready around s.hub)
    (hlawful : Hub.Lawful around.hub) (hsteady : Hub.Steady around.hub)
    (hcourse : Hub.Course around.hub s past t) (hfree : ¬ t.hub.Locked) : Ready around t.hub where
  wired := hcourse.wired hlawful.reticent hready.wired
  free := hfree
  sound := hcourse.sound hlawful.reticent hready.wired (hcourse.answered hsteady) hready.sound

/-- What the gate makes of what the session says. -/
def admission : Except String Bool → Except Failure Unit
  | .error message => .error (.session message)
  | .ok false => .error .notSignedIn
  | .ok true => .ok ()

theorem ensureSignedIn_run (around : Surroundings World Handler) (s : Station World Handler) :
    ensureSignedIn around s =
      (admission (around.isSignedIn s.world).1,
        { s with world := (around.isSignedIn s.world).2 }) := by
  rw [ensureSignedIn, Hub.bind_run, Hub.outside_run]
  rcases (around.isSignedIn s.world).1 with message | signedIn
  · rfl
  · cases signedIn <;> rfl

/-! ## What a call does to the hub -/

/-- What becomes of a hub by a call of the client: it is left alone, or one call is made at it, and is
answered only if the client's call is. -/
inductive Touches (around : Surroundings World Handler) (hub : Hub Handler) {α : Type} :
    Option α × Station World Handler → Prop where
  | nothing {answer : α} {t : Station World Handler} (hsame : t.hub = hub) :
      Touches around hub (some answer, t)
  | once {answer : Option α} {t u : Station World Handler} (call : Hub.Call Handler)
      (hbefore : t.hub = hub) (hafter : u.hub = (call.act around.hub t).2.hub)
      (hanswered : (call.act around.hub t).1 ≠ none → answer ≠ none) :
      Touches around hub (answer, u)

theorem send_hub (around : Surroundings World Handler) (service : Service)
    (request : Backend.Request) (s : Station World Handler) :
    (send around service request s).2.hub = s.hub := by
  rw [send]
  cases request.document.kind <;> rfl

/-- A call of a client is at most one call at its hub. -/
theorem Call.body_touches (around : Surroundings World Handler) (config : ClientConfig)
    (call : Call Handler) (s : Station World Handler) :
    Touches around s.hub (call.body around config s) := by
  have hgate := ensureSignedIn_run around s
  cases call with
  | operation op =>
    rw [Call.body, Hub.bind_run, hgate]
    cases admission (around.isSignedIn s.world).1 with
    | error failure => exact .nothing rfl
    | ok signedIn => exact .nothing (send_hub around _ _ _)
  | subscribe id subscriber =>
    rw [Call.body, Client.subscribe.attempt, Hub.bind_run, hgate]
    cases admission (around.isSignedIn s.world).1 with
    | error failure => exact .nothing rfl
    | ok signedIn =>
      show Touches around s.hub (((Hub.outside around.subject : Action World Handler _) >>= _) _)
      rw [Hub.bind_run, Hub.outside_run]
      dsimp only
      rcases (around.subject (around.isSignedIn s.world).2).1 with message | subject
      · exact .nothing rfl
      · cases subject with
        | none => exact .nothing rfl
        | some owner =>
          -- the answer of the hub is passed on, with its failure in other words
          let t : Station World Handler :=
            { s with world := (around.subject (around.isSignedIn s.world).2).2 }
          refine .once (t := t) (.subscribe id owner subscriber) rfl rfl ?_
          exact fun hanswered hnone => hanswered (Option.map_eq_none_iff.mp hnone)
  | unsubscribe id =>
    exact .once (t := s) (.unsubscribe id) rfl rfl fun _ => Option.some_ne_none _
  | reset =>
    rw [Call.body, Hub.bind_run]
    -- the cache is cleared behind the hub's back
    rcases hanswer : (Hub.unsubscribeAll around.hub s).1 with fault | cleared
    · exact .once (t := s) .unsubscribeAll rfl rfl fun _ => Option.some_ne_none _
    · exact .once (t := s) .unsubscribeAll rfl rfl fun _ => Option.some_ne_none _

theorem Touches.ready {α : Type} {result : Option α × Station World Handler}
    (htouches : Touches around s.hub result) (hready : Ready around s.hub)
    (hlawful : Hub.Lawful around.hub) (hsteady : Hub.Steady around.hub) :
    Ready around result.2.hub := by
  cases htouches with
  | nothing hsame =>
    rw [hsame]
    exact hready
  | once call hbefore hafter hanswered =>
    -- the call is made in another world, but whether a hub is in order does not depend on the world
    rw [hafter]
    rw [← hbefore] at hready
    exact hready.hubCall hlawful hsteady call

/-- Only a watcher that crashes leaves a call without an answer. -/
theorem Touches.answered {α : Type} {result : Option α × Station World Handler}
    {hub : Hub Handler} (htouches : Touches around hub result)
    (hsteady : Hub.Steady around.hub) : result.1 ≠ none := by
  cases htouches with
  | nothing hsame => exact Option.some_ne_none _
  | once call hbefore hafter hanswered => exact hanswered (call.act_answered hsteady)

/-! ## Calls and their notes -/

theorem Call.note_answer (around : Surroundings World Handler) (call : Call Handler)
    (answer : Option (Except Failure call.Result)) (s : Station World Handler) :
    (call.note around answer s).1 = answer := by
  cases answer <;> rfl

theorem Call.note_hub (around : Surroundings World Handler) (call : Call Handler)
    (answer : Option (Except Failure call.Result)) (s : Station World Handler) :
    (call.note around answer s).2.hub = s.hub := by
  cases answer <;> rfl

theorem Call.act_ready (hready : Ready around s.hub) (hlawful : Hub.Lawful around.hub)
    (hsteady : Hub.Steady around.hub) (call : Call Handler) :
    Ready around (call.act around config s).2.hub := by
  rw [Call.act_run, Call.note_hub]
  exact (call.body_touches around config s).ready hready hlawful hsteady

/-- Each call is answered, and the one event that is noted for it tells its answer. -/
theorem Call.act_noted (call : Call Handler) (config : ClientConfig) (s : Station World Handler)
    (hsteady : Hub.Steady around.hub) :
    ∃ event, (call.entries around config s).filterMap Entry.event? = [event] ∧
      Deed.NotedAs ⟨call, (call.act around config s).1⟩ event := by
  obtain ⟨-, -, -, -, hevents⟩ := call.act_listing around config s
  have hanswered : (call.act around config s).1 ≠ none := by
    rw [Call.act_run, Call.note_answer]
    exact (call.body_touches around config s).answered hsteady
  obtain ⟨result, hresult⟩ := Option.ne_none_iff_exists'.mp hanswered
  rw [hresult] at hevents ⊢
  exact ⟨_, hevents, Deed.notedAs_of call result⟩

/-! ## Runs -/

/-- A run of a client: calls are made one after the other, and between two of them the hub goes on by
itself, as far as no start is left unfinished, and the world changes. The entries list what the client
does on account of the calls. -/
inductive Run (around : Surroundings World Handler) (config : ClientConfig)
    (start : Station World Handler) :
    List (Deed Handler) → List Entry → Station World Handler → Prop where
  | rest : Run around config start [] [] start
  | call {deeds entries s} (hrun : Run around config start deeds entries s) (call : Call Handler) :
      Run around config start (deeds ++ [⟨call, (call.act around config s).1⟩])
        (entries ++ call.entries around config s) (call.act around config s).2
  | meanwhile {deeds entries s past t} (hrun : Run around config start deeds entries s)
      (hcourse : Hub.Course around.hub s past t) (hfree : ¬ t.hub.Locked) :
      Run around config start deeds entries t

variable {start : Station World Handler} {deeds : List (Deed Handler)} {entries : List Entry}

theorem Run.ready (hrun : Run around config start deeds entries s) (hready : Ready around start.hub)
    (hlawful : Hub.Lawful around.hub) (hsteady : Hub.Steady around.hub) :
    Ready around s.hub := by
  induction hrun with
  | rest => exact hready
  | call _ call ih => exact call.act_ready ih hlawful hsteady
  | meanwhile _ hcourse hfree ih => exact ih.course hlawful hsteady hcourse hfree

/-- One event for each call, in the order of the calls. -/
theorem Run.noted (hrun : Run around config start deeds entries s)
    (hsteady : Hub.Steady around.hub) :
    List.Forall₂ Deed.NotedAs deeds (entries.filterMap Entry.event?) := by
  induction hrun with
  | rest => exact .nil
  | @call deeds entries s _ call ih =>
    -- the call comes last on both sides
    obtain ⟨event, hevents, hnoted⟩ := call.act_noted config s hsteady
    rw [List.filterMap_append, hevents]
    exact List.rel_append ih (.cons hnoted .nil)
  | meanwhile _ hcourse hfree ih => exact ih

/-! ## The gate -/

/-- Calls that are for signed-in users. -/
def Call.Gated : Call Handler → Prop
  | .operation _ => True
  | .subscribe .. => True
  | _ => False

/-- A call that does not get through: nobody is signed in, or it is not known whether anyone is; or a
subscriber comes for nobody, or it is not known for whom. -/
inductive Barred (around : Surroundings World Handler) (world : World) :
    Call Handler → Failure → Prop where
  | signedOut {call : Call Handler} (hgated : call.Gated)
      (hanswer : (around.isSignedIn world).1 = .ok false) : Barred around world call .notSignedIn
  | unsure {call : Call Handler} {message : String} (hgated : call.Gated)
      (hanswer : (around.isSignedIn world).1 = .error message) :
      Barred around world call (.session message)
  | nobody {id : SubscriptionId} {subscriber : Subscriber Handler}
      (hanswer : (around.isSignedIn world).1 = .ok true)
      (hsubject : (around.subject (around.isSignedIn world).2).1 = .ok none) :
      Barred around world (.subscribe id subscriber) .notSignedIn
  | unnamed {id : SubscriptionId} {subscriber : Subscriber Handler} {message : String}
      (hanswer : (around.isSignedIn world).1 = .ok true)
      (hsubject : (around.subject (around.isSignedIn world).2).1 = .error message) :
      Barred around world (.subscribe id subscriber) (.session message)

/-- Where the gate is closed, nothing is done but to ask the session. -/
theorem Call.body_of_closed (around : Surroundings World Handler) (config : ClientConfig)
    (s : Station World Handler) {call : Call Handler} {failure : Failure} (hgated : call.Gated)
    (hclosed : admission (around.isSignedIn s.world).1 = .error failure) :
    call.body around config s =
      (some (.error failure), { s with world := (around.isSignedIn s.world).2 }) := by
  have hgate := ensureSignedIn_run around s
  rw [hclosed] at hgate
  cases call with
  | operation op =>
    rw [Call.body, Hub.bind_run, hgate]
    rfl
  | subscribe id subscriber =>
    rw [Call.body, Client.subscribe.attempt, Hub.bind_run, hgate]
    rfl
  | unsubscribe id => exact hgated.elim
  | reset => exact hgated.elim

/-- Behind the gate, a subscriber is turned away without a subject. -/
def turnAway? : Except String (Option String) → Option Failure
  | .error message => some (.session message)
  | .ok none => some .notSignedIn
  | .ok (some _) => none

/-- Where there is no subject, nothing is done but to ask the session twice. -/
theorem Call.body_of_turnedAway (around : Surroundings World Handler) (config : ClientConfig)
    (s : Station World Handler) {id : SubscriptionId} {subscriber : Subscriber Handler}
    {failure : Failure} (hopen : admission (around.isSignedIn s.world).1 = .ok ())
    (haway : turnAway? (around.subject (around.isSignedIn s.world).2).1 = some failure) :
    (Call.subscribe id subscriber).body around config s =
      (some (.error failure),
        { s with world := (around.subject (around.isSignedIn s.world).2).2 }) := by
  have hgate := ensureSignedIn_run around s
  rw [hopen] at hgate
  rw [Call.body, Client.subscribe.attempt, Hub.bind_run, hgate]
  show (((Hub.outside around.subject : Action World Handler _) >>= _) _) = _
  rw [Hub.bind_run, Hub.outside_run]
  dsimp only
  rcases hsubject : (around.subject (around.isSignedIn s.world).2).1 with message | subject
  · rw [hsubject] at haway
    cases haway
    rfl
  · cases subject with
    | none =>
      rw [hsubject] at haway
      cases haway
      rfl
    | some owner =>
      rw [hsubject] at haway
      cases haway

theorem Barred.closed_or_turnedAway {world : World} {call : Call Handler} {failure : Failure}
    (hbarred : Barred around world call failure) :
    (call.Gated ∧ admission (around.isSignedIn world).1 = .error failure) ∨
      ∃ id subscriber, call = .subscribe id subscriber ∧
        admission (around.isSignedIn world).1 = .ok () ∧
        turnAway? (around.subject (around.isSignedIn world).2).1 = some failure := by
  cases hbarred with
  | signedOut hgated hanswer => exact .inl ⟨hgated, by rw [hanswer]; rfl⟩
  | unsure hgated hanswer => exact .inl ⟨hgated, by rw [hanswer]; rfl⟩
  | nobody hanswer hsubject =>
    exact .inr ⟨_, _, rfl, by rw [hanswer]; rfl, by rw [hsubject]; rfl⟩
  | unnamed hanswer hsubject =>
    exact .inr ⟨_, _, rfl, by rw [hanswer]; rfl, by rw [hsubject]; rfl⟩

/-- A barred call fails, and has done nothing to be listed. -/
theorem Barred.body_run {call : Call Handler} {failure : Failure}
    (hbarred : Barred around s.world call failure) (config : ClientConfig) :
    ∃ world, call.body around config s = (some (.error failure), { s with world }) ∧
      call.body around.listing config (unwritten s) =
        (some (.error failure), { s with world := (world, []) }) := by
  -- the listing session says the same, so that the same lemma serves both sides
  rcases hbarred.closed_or_turnedAway with ⟨hgated, hclosed⟩ | ⟨id, subscriber, rfl, hopen, haway⟩
  · exact ⟨_, Call.body_of_closed around config s hgated hclosed,
      Call.body_of_closed around.listing config (unwritten s) hgated hclosed⟩
  · exact ⟨_, Call.body_of_turnedAway around config s hopen haway,
      Call.body_of_turnedAway around.listing config (unwritten s) hopen haway⟩

/-- A barred call is answered with the failure and noted as failed; nothing is sent, no watch is
started, and the subscriptions stay as they are. -/
theorem Barred.act {call : Call Handler} {failure : Failure}
    (hbarred : Barred around s.world call failure) :
    (call.act around config s).1 = some (.error failure) ∧
      (call.act around config s).2.hub = s.hub ∧
      (call.act around config s).2.channels = s.channels ∧
      call.entries around config s = [.noted ⟨call.name, some failure.kind⟩] := by
  obtain ⟨world, hbody, hlisting⟩ := hbarred.body_run config
  rw [Call.entries, Call.act_run, Call.act_run, hbody, hlisting]
  exact ⟨rfl, rfl, rfl, rfl⟩

/-! ## Resetting -/

/-- A reset clears a hub that is in order, whoever is signed in and whatever comes of the cache. -/
theorem reset_clears (hready : Ready around s.hub) (config : ClientConfig) :
    (Call.reset.act around config s).2.hub.roster = .empty ∧
      (Call.reset.act around config s).2.hub.running = none := by
  -- the gate is not asked, and what comes of the cache is the last thing to happen
  obtain ⟨hanswer, hhub⟩ := Hub.unsubscribeAll_hub around.hub hready.sound hready.wired.nodup
  have hcleared : (Call.reset.act around config s).2.hub =
      { s.hub with roster := .empty }.stopped := by
    rw [Call.act_run, Call.note_hub, Call.body, Hub.bind_run, hanswer]
    exact hhub
  rw [hcleared, Hub.stopped_with_roster]
  exact ⟨rfl, Hub.cancelled_running s.hub⟩

/-! ## The client as a whole -/

/-- In every run of a new client, whatever the session, the backend and the watcher answer: every call
leaves exactly one event behind, in the order of the calls, that tells its name, whether it succeeded
and the kind of its failure; a call that is barred is answered with a failure, is noted as such, and
does nothing else; and a reset leaves no subscriber and no watch. Calls do the same whether or not
what they do is listed. -/
theorem calls_gated_and_noted (hlawful : Hub.Lawful around.hub) (hsteady : Hub.Steady around.hub)
    {channels : List Subscription.Channel} {world : World}
    (hrun : Run around config ⟨.empty, channels, world⟩ deeds entries s) :
    List.Forall₂ Deed.NotedAs deeds (entries.filterMap Entry.event?) ∧
    (∀ call failure, Barred around s.world call failure →
      (call.act around config s).1 = some (.error failure) ∧
      (call.act around config s).2.hub = s.hub ∧
      (call.act around config s).2.channels = s.channels ∧
      call.entries around config s = [.noted ⟨call.name, some failure.kind⟩]) ∧
    ((Call.reset.act around config s).2.hub.roster = .empty ∧
      (Call.reset.act around config s).2.hub.running = none) ∧
    ∀ call : Call Handler,
      (call.act around.listing config (unwritten s)).1 = (call.act around config s).1 ∧
      (call.act around.listing config (unwritten s)).2.Beside (fun world' world => world'.1 = world)
        (call.act around config s).2 := by
  refine ⟨hrun.noted hsteady, fun call failure hbarred => hbarred.act, ?_, fun call => ?_⟩
  · exact reset_clears (hrun.ready ready_empty hlawful hsteady) config
  · obtain ⟨hanswer, hhub, hchannels, hworld, -⟩ := call.act_listing around config s
    exact ⟨hanswer, hhub, hchannels, hworld⟩

/-- Surroundings in whose world someone is signed in or not. Watches are started, and nothing else is
within reach. -/
def lobby : Surroundings Bool Unit where
  hub :=
    { watch := some fun _ _ => pure ⟨[], .started⟩
      cancel := fun _ => pure []
      audit := fun _ => pure ()
      tell := fun _ _ => pure none }
  isSignedIn := fun signedIn => (.ok signedIn, signedIn)
  subject := pure (.ok (some "owner"))
  query := fun _ _ => pure (.error (.network "offline"))
  mutate := fun _ _ => pure (.error (.network "offline"))
  clearCache := pure (.error (.network "offline"))
  audit := fun _ => pure ()

/-- A client whose user subscribed, and then signed out. -/
def deserted : Station Bool Unit :=
  { ((Call.subscribe ⟨"a"⟩ (.handler ())).act lobby {} ⟨.empty, [], true⟩).2 with world := false }

/-- The watch runs on, operations are barred, and a reset ends the watch although it fails. -/
theorem calls_gated_and_noted_deserted :
    Hub.Lawful lobby.hub ∧ Hub.Steady lobby.hub ∧
      ∃ deeds entries, Run lobby {} ⟨.empty, [], true⟩ deeds entries deserted ∧
        entries.filterMap Entry.event? = [⟨subscribeName, none⟩] ∧
        List.Forall₂ Deed.NotedAs deeds (entries.filterMap Entry.event?) ∧
        deserted.hub.running = some ⟨"owner", 0⟩ ∧
        (Call.operation .getClientConfiguration).entries lobby {} deserted =
          [.noted ⟨"get_funding_source_client_configuration", some "not_signed_in"⟩] ∧
        (Call.reset.entries lobby {} deserted).filterMap Entry.event? =
          [⟨resetName, some "transport"⟩] ∧
        (Call.reset.act lobby {} deserted).2.hub.running = none := by
  have hlawful : Hub.Lawful lobby.hub := Hub.lawful_of_alike fun _ _ s => .refl s.hub
  have hsteady : Hub.Steady lobby.hub := by
    rintro watch ⟨⟩ mark request world ⟨⟩
  have hfree : ¬ deserted.hub.Locked := fun hlocked => by cases hlocked.1
  have hrun : Run lobby {} ⟨.empty, [], true⟩ _ _ deserted :=
    (Run.rest.call (.subscribe ⟨"a"⟩ (.handler ()))).meanwhile (.aside .rest (.refl _)) hfree
  obtain ⟨hnoted, hbarred, hreset, -⟩ := calls_gated_and_noted hlawful hsteady hrun
  have hentries := (hbarred (.operation .getClientConfiguration) .notSignedIn
    (.signedOut trivial rfl)).2.2.2
  exact ⟨hlawful, hsteady, _, _, hrun, rfl, hnoted, rfl, hentries, rfl, hreset.2⟩

end CardService.Client
