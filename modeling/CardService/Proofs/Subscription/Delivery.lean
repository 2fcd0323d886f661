import CardService.Proofs.Subscription.Agreement
import CardService.Proofs.Subscription.Registration

/-!
# CardService — how events are delivered

Acting on an event comes down to a list of happenings: a state of the connection is stored, a
subscriber is told, something is written down. `unfolding` says which happenings an event has, from
the roster alone, and `route_unfolds` that these and no others make up what the hub does, in this
order.

Main results:

* `tellAll_unfolds` — everyone on a list is told once, whoever fails, and each failure is written
  down right after it.
* `route_unfolds` — so what the hub does about any event is read off the roster.
* `route_hub` — unless someone who is told calls back, all that an event changes of the hub is the
  connection it reports.
-/

namespace CardService.Subscription.Hub

open Backend (updateOfCard updatedCard sourceOfUpdate_updateOfCard)

variable {World Handler : Type} {around : Surroundings World Handler}

/-! ## Happenings -/

/-- One thing that comes of an event. -/
inductive Happening (Handler : Type) where
  | stored (state : ConnectionState)
  | told (id : SubscriptionId) (subscriber : Subscriber Handler) (notice : Notice)
      (failure : Option String)
  | noted (event : Audit.SubscriptionEvent)
  deriving DecidableEq

/-- One thing after the other happens between two stations. -/
inductive Unfolds (around : Surroundings World Handler) :
    Station World Handler → List (Happening Handler) → Station World Handler → Prop where
  | nil {s} : Unfolds around s [] s
  | stored {s state rest t}
      (hrest : Unfolds around { s with hub := { s.hub with connection := state } } rest t) :
      Unfolds around s (.stored state :: rest) t
  | told {s id subscriber notice failure rest t}
      (hfailure : (tell around subscriber notice s).1 = failure)
      (hrest : Unfolds around (tell around subscriber notice s).2 rest t) :
      Unfolds around s (.told id subscriber notice failure :: rest) t
  | noted {s event rest t} (hrest : Unfolds around (outside (around.audit event) s).2 rest t) :
      Unfolds around s (.noted event :: rest) t

/-- What is written down when a subscriber fails with a message. -/
def failureNote (id : SubscriptionId) (message : String) : Audit.SubscriptionEvent :=
  ⟨some id, .subscriberFailed, "subscriber delivery failed: " ++ message⟩

/-- A subscriber is told, and a failure is written down. -/
def delivery (notice : Notice) (entry : SubscriptionId × Subscriber Handler)
    (failure : Option String) : List (Happening Handler) :=
  .told entry.1 entry.2 notice failure ::
    failure.toList.map fun message => .noted (failureNote entry.1 message)

/-- Each subscriber of a list is told, with an outcome for each. -/
def deliveries (notice : Notice) (entries : List (SubscriptionId × Subscriber Handler))
    (outcomes : List (Option String)) : List (Happening Handler) :=
  (entries.zip outcomes).flatMap fun (entry, failure) => delivery notice entry failure

/-- What comes of an event, if those on a list are told with an outcome for each. -/
def unfolding (entries : List (SubscriptionId × Subscriber Handler))
    (outcomes : List (Option String)) : WatchEvent → List (Happening Handler)
  | .update response =>
    match sourceOfUpdate response with
    | .ok source => deliveries (.changed source) entries outcomes
    | .error failure => [.noted ⟨none, .updateDropped, failure.message⟩]
  | .fault fault => [.noted ⟨none, .watchError, fault.message⟩]
  | .connection state => .stored state :: deliveries (.connection state) entries outcomes

/-- Whoever is told is on the list. -/
theorem mem_of_told {entries : List (SubscriptionId × Subscriber Handler)}
    {outcomes : List (Option String)} {event : WatchEvent} {id : SubscriptionId}
    {subscriber : Subscriber Handler} {notice : Notice} {failure : Option String}
    (h : .told id subscriber notice failure ∈ unfolding entries outcomes event) :
    (id, subscriber) ∈ entries := by
  have hdeliveries : ∀ notice', .told id subscriber notice failure ∈
      deliveries notice' entries outcomes → (id, subscriber) ∈ entries := by
    intro notice' hmem
    obtain ⟨⟨entry, outcome⟩, hentry, htold⟩ := List.mem_flatMap.mp hmem
    rcases List.mem_cons.mp htold with htold | hnoted
    · obtain ⟨rfl, rfl, -, -⟩ := Happening.told.inj htold
      exact (List.of_mem_zip hentry).1
    · simp at hnoted
  cases event with
  | update response =>
    rw [unfolding] at h
    split at h
    · exact hdeliveries _ h
    · simp at h
  | fault fault => simp [unfolding] at h
  | connection state => exact hdeliveries _ (by simpa [unfolding] using h)

/-! ## Unfolding events -/

variable {s : Station World Handler} {event : WatchEvent}

/-- A failure is written down before the next subscriber is told. -/
theorem tellAll_unfolds (around : Surroundings World Handler) (notice : Notice)
    (entries : List (SubscriptionId × Subscriber Handler)) (s : Station World Handler) :
    ∃ outcomes, outcomes.length = entries.length ∧
      Unfolds around s (deliveries notice entries outcomes)
        (tellAll around notice entries s).2 := by
  induction entries generalizing s with
  | nil => exact ⟨[], rfl, .nil⟩
  | cons entry rest ih =>
    obtain ⟨id, subscriber⟩ := entry
    rw [tellAll, bind_run]
    cases hfailure : (tell around subscriber notice s).1 with
    | none =>
      obtain ⟨outcomes, hlength, hrest⟩ := ih (tell around subscriber notice s).2
      exact ⟨none :: outcomes, congrArg Nat.succ hlength, .told hfailure hrest⟩
    | some message =>
      obtain ⟨outcomes, hlength, hrest⟩ := ih (outside (around.audit (failureNote id message))
        (tell around subscriber notice s).2).2
      exact ⟨some message :: outcomes, congrArg Nat.succ hlength, .told hfailure (.noted hrest)⟩

/-- What the hub does about an event is what the roster says comes of it. -/
theorem route_unfolds (around : Surroundings World Handler) (event : WatchEvent)
    (s : Station World Handler) :
    ∃ outcomes, outcomes.length = s.hub.roster.entries.length ∧
      Unfolds around s (unfolding s.hub.roster.entries outcomes event)
        (route around event s).2 := by
  -- where nobody is told, any outcomes will do
  have hnotes : ∃ outcomes : List (Option String),
      outcomes.length = s.hub.roster.entries.length :=
    ⟨List.replicate s.hub.roster.entries.length none, List.length_replicate⟩
  cases event with
  | update response =>
    rw [route]
    cases hsource : sourceOfUpdate response with
    | ok source =>
      obtain ⟨outcomes, hlength, htold⟩ := tellAll_unfolds around (.changed source)
        s.hub.roster.entries s
      refine ⟨outcomes, hlength, ?_⟩
      simp only [unfolding, hsource]
      exact htold
    | error failure =>
      obtain ⟨outcomes, hlength⟩ := hnotes
      refine ⟨outcomes, hlength, ?_⟩
      simp only [unfolding, hsource]
      exact .noted .nil
  | fault fault =>
    obtain ⟨outcomes, hlength⟩ := hnotes
    exact ⟨outcomes, hlength, .noted .nil⟩
  | connection state =>
    obtain ⟨outcomes, hlength, htold⟩ := tellAll_unfolds around (.connection state)
      s.hub.roster.entries { s with hub := { s.hub with connection := state } }
    exact ⟨outcomes, hlength, .stored htold⟩

/-! ## What an event changes -/

/-- The state of the connection that an event reports. -/
def reported : WatchEvent → Option ConnectionState
  | .connection state => some state
  | _ => none

/-- A hub after a report about its connection, if there is one. -/
def notified (hub : Hub Handler) (state : Option ConnectionState) : Hub Handler :=
  { hub with connection := state.getD hub.connection }

theorem notified_alike (hub : Hub Handler) (state : Option ConnectionState) :
    Alike hub (hub.notified state) := ⟨rfl, rfl, rfl, rfl, rfl⟩

/-- The subscribers of a hub do not call back: they leave it as it is, whatever is known of its
connection when they are told. -/
def Calm (around : Surroundings World Handler) (hub : Hub Handler) : Prop :=
  ∀ entry ∈ hub.roster.entries, ∀ notice (t : Station World Handler), Alike hub t.hub →
    (tell around entry.2 notice t).2.hub = t.hub

/-- Where no handler touches the hub, nobody calls back. -/
theorem calm_of_tell_hub
    (htell : ∀ handler notice s, (around.tell handler notice s).2.hub = s.hub)
    (hub : Hub Handler) : Calm around hub := by
  rintro ⟨id, handler | number⟩ - notice t -
  · exact htell handler notice t
  · rfl

theorem Calm.alike {hub hub' : Hub Handler} (hcalm : Calm around hub) (h : Alike hub hub') :
    Calm around hub' := by
  intro entry hentry notice t hsame
  rw [h.roster] at hentry
  exact hcalm entry hentry notice t (h.trans hsame)

theorem tellAll_hub (hcalm : Calm around s.hub) (notice : Notice) :
    (tellAll around notice s.hub.roster.entries s).2.hub = s.hub := by
  -- the induction is on what is left of the roster as it was when the event came
  have htold : ∀ (entries : List (SubscriptionId × Subscriber Handler)),
      (∀ entry ∈ entries, entry ∈ s.hub.roster.entries) → ∀ t : Station World Handler,
        t.hub = s.hub → (tellAll around notice entries t).2.hub = s.hub := by
    intro entries
    induction entries with
    | nil => exact fun _ t hhub => hhub
    | cons entry rest ih =>
      intro hmem t hhub
      obtain ⟨hentry, hrest⟩ := List.forall_mem_cons.mp hmem
      have hkept : (tell around entry.2 notice t).2.hub = s.hub :=
        (hcalm entry hentry notice t (hhub ▸ .refl s.hub)).trans hhub
      rw [tellAll, bind_run]
      cases (tell around entry.2 notice t).1 with
      | none => exact ih hrest _ hkept
      | some message => exact ih hrest _ hkept
  exact htold _ (fun _ h => h) s rfl

/-- An event that is acted upon changes the connection, if it reports one, and nothing else. -/
theorem route_hub (hcalm : Calm around s.hub) (event : WatchEvent) :
    (route around event s).2.hub = s.hub.notified (reported event) := by
  cases event with
  | update response =>
    rw [route]
    cases sourceOfUpdate response with
    | ok source => exact tellAll_hub hcalm _
    | error failure => rfl
  | fault fault => rfl
  | connection state =>
    -- the new state is stored before anybody is told
    have hcalm' := hcalm.alike (notified_alike s.hub (some state))
    exact tellAll_hub (s := { s with hub := s.hub.notified (some state) }) hcalm' _

/-- What several events report last. -/
def lastReport (events : List WatchEvent) : Option ConnectionState :=
  (events.filterMap reported).getLast?

theorem notified_lastReport (hub : Hub Handler) (event : WatchEvent) (rest : List WatchEvent) :
    (hub.notified (reported event)).notified (lastReport rest) =
      hub.notified (lastReport (event :: rest)) := by
  rw [lastReport, lastReport, List.filterMap_cons]
  cases reported event with
  | none => rfl
  | some state =>
    rw [List.getLast?_cons]
    cases (rest.filterMap reported).getLast? <;> rfl

/-- What several events report last, with one event more. -/
theorem lastReport_concat (events : List WatchEvent) (event : WatchEvent) :
    lastReport (events ++ [event]) = (reported event).or (lastReport events) := by
  rw [lastReport, List.filterMap_append, List.getLast?_append]
  cases hreported : reported event with
  | none =>
    rw [List.filterMap_cons_none hreported]
    rfl
  | some state =>
    rw [List.filterMap_cons_some hreported]
    rfl

/-- Events of a watch that is listened to leave the connection as the last of them reports it. -/
theorem hearAll_hub {mark : Nat} (hmark : mark ∈ s.hub.live) (hcalm : Calm around s.hub)
    (events : List WatchEvent) :
    (hearAll around mark events s).2.hub = s.hub.notified (lastReport events) := by
  induction events generalizing s with
  | nil => rfl
  | cons event rest ih =>
    have hroute := route_hub hcalm event
    have halike := hroute ▸ notified_alike s.hub (reported event)
    rw [hearAll, bind_run, hear_of_live hmark,
      ih (halike.live ▸ hmark) (hcalm.alike halike), hroute, notified_lastReport]

/-! ## Events of the running watch -/

/-- An update that carries an error is never taken for a funding source, whatever its data. -/
theorem sourceOfUpdate_of_errors {response : Backend.Response} {e : Backend.ErrorRecord}
    {rest : List Backend.ErrorRecord} (herrors : response.errors = e :: rest) :
    sourceOfUpdate response = .error (Failure.ofBackend e) := by
  rw [sourceOfUpdate, recordOfUpdate, herrors]
  rfl

/-- An event of the running watch, if nobody who is told of it calls back. A funding source is told
to everyone on the roster, each once, in the order of the bytes of their ids; so is a state of the
connection, after it was stored. Each failure is written down under the id it belongs to, and keeps
nobody from being told. An update that is no funding source and a fault of the watch are told to
nobody, and each is written down once, under no id. The roster stays as it is. -/
theorem hear_delivers (hlawful : Lawful around) {start : Station World Handler}
    {past : List (Deed Handler)} (hempty : start.hub = .empty)
    (hcourse : Course around start past s)
    {current : Watch} (hrunning : s.hub.running = some current) (hcalm : Calm around s.hub) :
    (∀ response source, sourceOfUpdate response = .ok source →
      ∃ outcomes, outcomes.length = s.hub.roster.entries.length ∧
        Unfolds around s (deliveries (.changed source) s.hub.roster.entries outcomes)
          (hear around current.mark (.update response) s).2) ∧
    (∀ state, ∃ outcomes, outcomes.length = s.hub.roster.entries.length ∧
      Unfolds around s
        (.stored state :: deliveries (.connection state) s.hub.roster.entries outcomes)
        (hear around current.mark (.connection state) s).2) ∧
    (∀ response failure, sourceOfUpdate response = .error failure →
      Unfolds around s [.noted ⟨none, .updateDropped, failure.message⟩]
        (hear around current.mark (.update response) s).2) ∧
    (∀ response e rest, response.errors = e :: rest →
      sourceOfUpdate response = .error (Failure.ofBackend e)) ∧
    (∀ fault, Unfolds around s [.noted ⟨none, .watchError, fault.message⟩]
      (hear around current.mark (.fault fault) s).2) ∧
    (s.hub.roster.entries.Pairwise fun a b => Roster.idBytes a.1 < Roster.idBytes b.1) ∧
    (∀ event, (hear around current.mark event s).2.hub = s.hub.notified (reported event)) := by
  have hwired : Wired around s.hub :=
    hcourse.wired hlawful.reticent (hempty ▸ wired_empty)
  have hhear : ∀ event, hear around current.mark event s = route around event s :=
    hear_of_live (hwired.running_live current hrunning)
  refine ⟨fun response source hsource => ?_, fun state => ?_, fun response failure hfailure => ?_,
    fun response e rest herrors => sourceOfUpdate_of_errors herrors, fun fault => ?_,
    s.hub.roster.entries_pairwise_idBytes, fun event => ?_⟩
  · have hroute := route_unfolds around (.update response) s
    simp only [unfolding, hsource] at hroute
    rw [hhear]
    exact hroute
  · rw [hhear]
    exact route_unfolds around (.connection state) s
  · obtain ⟨outcomes, -, hroute⟩ := route_unfolds around (.update response) s
    simp only [unfolding, hfailure] at hroute
    rw [hhear]
    exact hroute
  · rw [hhear]
    exact .noted .nil
  · rw [hhear]
    exact route_hub hcalm event

/-- Surroundings that write everything down. A handler is the message it fails with, if it does. -/
def diary : Surroundings (List Audit.SubscriptionEvent) (Option String) where
  watch := some fun _ _ => pure ⟨[], .started⟩
  cancel := fun _ => pure []
  audit := fun event => modify (· ++ [event])
  tell := fun failure _ => pure failure

/-- Two subscribers, the first of whom fails whenever it is told of something. -/
def troubled : Station (List Audit.SubscriptionEvent) (Option String) :=
  (callAll diary [.subscribe ⟨"b"⟩ "owner" (.handler none),
    .subscribe ⟨"a"⟩ "owner" (.handler (some "full"))] ⟨.empty, [], []⟩).2

/-- Both are told of a funding source, and both of a state of the connection. Each time the failure
of the first is all that is written down. -/
theorem hear_delivers_failing :
    Lawful diary ∧ (∃ past, Course diary ⟨.empty, [], []⟩ past troubled) ∧
      troubled.hub.running = some ⟨"owner", 0⟩ ∧ Calm diary troubled.hub ∧
      troubled.hub.roster.entries = [(⟨"a"⟩, .handler (some "full")), (⟨"b"⟩, .handler none)] ∧
      sourceOfUpdate updateOfCard = .ok updatedCard ∧
      (hear diary 0 (.update updateOfCard) troubled).2.world = [failureNote ⟨"a"⟩ "full"] ∧
      (∃ outcomes, outcomes.length = troubled.hub.roster.entries.length ∧
        Unfolds diary troubled
          (deliveries (.changed updatedCard) troubled.hub.roster.entries outcomes)
          (hear diary 0 (.update updateOfCard) troubled).2) ∧
      (hear diary 0 (.connection .connected) troubled).2.world = [failureNote ⟨"a"⟩ "full"] ∧
      ∃ outcomes, outcomes.length = troubled.hub.roster.entries.length ∧
        Unfolds diary troubled (.stored .connected ::
            deliveries (.connection .connected) troubled.hub.roster.entries outcomes)
          (hear diary 0 (.connection .connected) troubled).2 := by
  have hlawful : Lawful diary := lawful_of_alike fun _ _ s => .refl s.hub
  have hcalm : Calm diary troubled.hub := calm_of_tell_hub (fun _ _ _ => rfl) _
  have hcourse := (callAll_new hlawful.reticent [.subscribe ⟨"b"⟩ "owner" (.handler none),
    .subscribe ⟨"a"⟩ "owner" (.handler (some "full"))] [] []).1
  have hrunning : troubled.hub.running = some ⟨"owner", 0⟩ := by decide
  have hsource := sourceOfUpdate_updateOfCard
  have hdelivers := hear_delivers hlawful rfl hcourse hrunning hcalm
  exact ⟨hlawful, ⟨_, hcourse⟩, hrunning, hcalm, by decide, hsource, by decide +kernel,
    hdelivers.1 _ _ hsource, by decide, hdelivers.2.1 .connected⟩

end CardService.Subscription.Hub
