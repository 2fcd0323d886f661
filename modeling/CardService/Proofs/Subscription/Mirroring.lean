import CardService.Proofs.Subscription.Registration

/-!
# CardService — one hub in two worlds

Surroundings may keep more in their world than others do, such as a list of what was asked of them,
and be the same otherwise. A relation says which worlds belong together. An action mirrors another
one if from stations that differ in worlds that belong together both have the same result, and leave
such stations behind (`Hub.Mirrors`).

Where the surroundings mirror each other (`Surroundings.Mirrors`), everything that a hub does in the
one is mirrored in the other. The lemmas follow the hub's actions one by one, since mirroring goes
through sequences, case distinctions and recursions.
-/

namespace CardService.Subscription

variable {World World' Handler : Type} {α β : Type}

/-! ## Mirrored steps, actions and surroundings -/

/-- From worlds that belong together, steps have the same result and lead to such worlds. -/
def Mirrors (R : World' → World → Prop) (step' : StateM World' α) (step : StateM World α) : Prop :=
  ∀ world' world, R world' world →
    (step' world').1 = (step world).1 ∧ R (step' world').2 (step world).2

/-- Stations that differ in their worlds only, which belong together. -/
structure Station.Beside (R : World' → World → Prop) (s' : Station World' Handler)
    (s : Station World Handler) : Prop where
  hub : s'.hub = s.hub
  channels : s'.channels = s.channels
  world : R s'.world s.world

/-- From stations in worlds that belong together, actions have the same result and lead to such
stations. -/
def Hub.Mirrors (R : World' → World → Prop) (act' : Action World' Handler α)
    (act : Action World Handler α) : Prop :=
  ∀ s' s, s'.Beside R s → (act' s').1 = (act s).1 ∧ (act' s').2.Beside R (act s).2

/-- Surroundings do, in worlds that belong together, what other ones do. -/
structure Surroundings.Mirrors (R : World' → World → Prop) (around' : Surroundings World' Handler)
    (around : Surroundings World Handler) : Prop where
  watch : Option.Rel (fun watch' watch =>
    ∀ mark request, Subscription.Mirrors R (watch' mark request) (watch mark request))
    around'.watch around.watch
  cancel : ∀ mark, Subscription.Mirrors R (around'.cancel mark) (around.cancel mark)
  audit : ∀ event, Subscription.Mirrors R (around'.audit event) (around.audit event)
  tell : ∀ handler notice, Hub.Mirrors R (around'.tell handler notice) (around.tell handler notice)

namespace Hub.Mirrors

variable {R : World' → World → Prop}

/-! ## Ways to put actions together -/

section Combining

variable {act' other' : Action World' Handler α} {act other : Action World Handler α}

theorem pure (a : α) : Mirrors R (Pure.pure a : Action World' Handler α) (Pure.pure a) :=
  fun _ _ hbeside => ⟨rfl, hbeside⟩

theorem bind {next' : α → Action World' Handler β} {next : α → Action World Handler β}
    (hact : Mirrors R act' act) (hnext : ∀ a, Mirrors R (next' a) (next a)) :
    Mirrors R (act' >>= next') (act >>= next) := by
  intro s' s hbeside
  obtain ⟨hresult, hafter⟩ := hact s' s hbeside
  rw [bind_run, bind_run, hresult]
  exact hnext _ _ _ hafter

/-- What an action looks up may be anything but the world, which differs. -/
theorem get {next' : Station World' Handler → Action World' Handler β}
    {next : Station World Handler → Action World Handler β}
    (hnext : ∀ hub channels world' world,
      Mirrors R (next' ⟨hub, channels, world'⟩) (next ⟨hub, channels, world⟩)) :
    Mirrors R (MonadState.get >>= next') (MonadState.get >>= next) := by
  rintro ⟨hub, channels, world'⟩ ⟨_, _, world⟩ ⟨rfl, rfl, hworld⟩
  exact hnext hub channels world' world _ _ ⟨rfl, rfl, hworld⟩

theorem ite (c : Prop) [Decidable c] (hact : Mirrors R act' act)
    (hother : Mirrors R other' other) :
    Mirrors R (if c then act' else other') (if c then act else other) := by
  split
  · exact hact
  · exact hother

theorem adjust (f : Hub Handler → Hub Handler) :
    Mirrors R (Hub.adjust f : Action World' Handler Unit) (Hub.adjust f) :=
  fun _ _ hbeside => ⟨rfl, congrArg f hbeside.hub, hbeside.channels, hbeside.world⟩

/-- A step outside of the hub is mirrored if the step is. -/
theorem outside {step' : StateM World' α} {step : StateM World α}
    (hstep : Subscription.Mirrors R step' step) :
    Mirrors R (Hub.outside step' : Action World' Handler α) (Hub.outside step) := by
  intro s' s hbeside
  obtain ⟨hresult, hworld⟩ := hstep s'.world s.world hbeside.world
  exact ⟨hresult, hbeside.hub, hbeside.channels, hworld⟩

end Combining

variable {around' : Surroundings World' Handler} {around : Surroundings World Handler}

/-! ## Telling subscribers -/

theorem record (haround : around'.Mirrors R around) (id : Option SubscriptionId)
    (reason : Audit.Reason) (detail : String) :
    Mirrors R (Hub.record around' id reason detail) (Hub.record around id reason detail) :=
  .outside (haround.audit _)

theorem tell (haround : around'.Mirrors R around) (subscriber : Subscriber Handler)
    (notice : Notice) :
    Mirrors R (Hub.tell around' subscriber notice) (Hub.tell around subscriber notice) := by
  cases subscriber with
  | handler handler => exact haround.tell handler notice
  | channel number =>
    rintro ⟨hub, channels, world'⟩ ⟨_, _, world⟩ ⟨rfl, rfl, hworld⟩
    exact ⟨rfl, rfl, rfl, hworld⟩

theorem tellAll (haround : around'.Mirrors R around) (notice : Notice)
    (entries : List (SubscriptionId × Subscriber Handler)) :
    Mirrors R (Hub.tellAll around' notice entries) (Hub.tellAll around notice entries) := by
  induction entries with
  | nil => exact .pure ()
  | cons entry rest ih =>
    refine (tell haround entry.2 notice).bind fun failure => ?_
    cases failure with
    | none => exact ih
    | some message => exact (record haround _ _ _).bind fun _ => ih

theorem route (haround : around'.Mirrors R around) (event : WatchEvent) :
    Mirrors R (Hub.route around' event) (Hub.route around event) := by
  cases event with
  | update response =>
    rw [Hub.route, Hub.route]
    cases sourceOfUpdate response with
    | ok source => exact .get fun hub _ _ _ => tellAll haround _ hub.roster.entries
    | error failure => exact record haround _ _ _
  | fault fault => exact record haround _ _ _
  | connection state =>
    exact (adjust _).bind fun _ => .get fun hub _ _ _ => tellAll haround _ hub.roster.entries

/-- Both hubs listen to the same marks. -/
theorem hear (haround : around'.Mirrors R around) (mark : Nat) (event : WatchEvent) :
    Mirrors R (Hub.hear around' mark event) (Hub.hear around mark event) :=
  .get fun _ _ _ _ => .ite _ (route haround event) (.pure ())

theorem hearAll (haround : around'.Mirrors R around) (mark : Nat) (events : List WatchEvent) :
    Mirrors R (Hub.hearAll around' mark events) (Hub.hearAll around mark events) := by
  induction events with
  | nil => exact .pure ()
  | cons event rest ih => exact (hear haround mark event).bind fun _ => ih

/-! ## Starting and stopping -/

theorem cancelRunning (haround : around'.Mirrors R around) :
    Mirrors R (Hub.cancelRunning around') (Hub.cancelRunning around) := by
  -- the hub is the same on both sides, so the same watch runs or none does
  refine .get fun hub _ _ _ => ?_
  dsimp only
  cases hub.running with
  | none => exact .pure ()
  | some watch =>
    exact (adjust _).bind fun _ => (outside (haround.cancel watch.mark)).bind fun events =>
      hearAll haround watch.mark events

theorem stop (haround : around'.Mirrors R around) :
    Mirrors R (Hub.stop around') (Hub.stop around) :=
  (cancelRunning haround).bind fun _ => adjust _

theorem dropAll (haround : around'.Mirrors R around) (previous : String) :
    Mirrors R (Hub.dropAll around' previous) (Hub.dropAll around previous) := by
  refine .get fun hub _ _ _ => (adjust _).bind fun _ => ?_
  show Mirrors R (dropAll.noteAll around' previous hub.roster.ids)
    (dropAll.noteAll around previous hub.roster.ids)
  induction hub.roster.ids with
  | nil => exact .pure ()
  | cons id rest ih => exact (record haround _ _ _).bind fun _ => ih

theorem start (haround : around'.Mirrors R around)
    {watch' : Nat → Backend.Request → StateM World' StartAnswer}
    {watch : Nat → Backend.Request → StateM World StartAnswer}
    (hwatch : ∀ mark request, Subscription.Mirrors R (watch' mark request) (watch mark request))
    (id : SubscriptionId) (owner : String) (subscriber : Subscriber Handler) :
    Mirrors R (Hub.start around' watch' id owner subscriber)
      (Hub.start around watch id owner subscriber) := by
  -- the answer of the watcher, its events included, is the same on both sides
  refine .get fun hub _ _ _ => (adjust _).bind fun _ => ?_
  refine (outside (hwatch hub.nextMark (watchRequest owner))).bind fun answer => ?_
  refine (hearAll haround hub.nextMark answer.events).bind fun _ => ?_
  cases answer.outcome with
  | started => exact (adjust _).bind fun _ => .pure _
  | refused fault => exact (adjust _).bind fun _ => .pure _
  | crashed => exact (adjust _).bind fun _ => .pure _

/-! ## Calls -/

theorem subscribe (haround : around'.Mirrors R around) (id : SubscriptionId) (owner : String)
    (subscriber : Subscriber Handler) :
    Mirrors R (Hub.subscribe around' id owner subscriber)
      (Hub.subscribe around id owner subscriber) := by
  have hrel := haround.watch
  rw [Hub.subscribe, Hub.subscribe]
  -- there is a watcher on both sides or on none
  rcases hwatch' : around'.watch with _ | watch' <;> rcases hwatch : around.watch with _ | watch <;>
    rw [hwatch', hwatch] at hrel <;> cases hrel
  case none.none => exact .pure _
  case some.some hstart =>
    refine .get fun hub _ _ _ => .ite _ (.pure _) ?_
    dsimp only
    cases hub.running with
    | none => exact start haround hstart id owner subscriber
    | some current =>
      refine .ite _ ((adjust _).bind fun _ => .pure _) ?_
      exact (stop haround).bind fun _ => (dropAll haround current.owner).bind fun _ =>
        start haround hstart id owner subscriber

theorem unsubscribe (haround : around'.Mirrors R around) (id : SubscriptionId) :
    Mirrors R (Hub.unsubscribe around' id) (Hub.unsubscribe around id) := by
  refine .get fun _ _ _ _ => .ite _ (.pure _) ((adjust _).bind fun _ => .get fun hub _ _ _ => ?_)
  show Mirrors R (if hub.roster.isEmpty then _ else _) (if hub.roster.isEmpty then _ else _)
  split
  · exact (stop haround).bind fun _ => .pure _
  · exact .pure _

theorem unsubscribeAll (haround : around'.Mirrors R around) :
    Mirrors R (Hub.unsubscribeAll around') (Hub.unsubscribeAll around) :=
  .get fun _ _ _ _ =>
    .ite _ (.pure _) ((adjust _).bind fun _ => (stop haround).bind fun _ => .pure _)

theorem call (haround : around'.Mirrors R around) (call : Call Handler) :
    Mirrors R (call.act around') (call.act around) := by
  cases call with
  | subscribe id owner subscriber => exact subscribe haround id owner subscriber
  | unsubscribe id => exact (unsubscribe haround id).bind fun _ => .pure _
  | unsubscribeAll => exact (unsubscribeAll haround).bind fun _ => .pure _

theorem callAll (haround : around'.Mirrors R around) (calls : List (Call Handler)) :
    Mirrors R (Hub.callAll around' calls) (Hub.callAll around calls) := by
  induction calls with
  | nil => exact .pure []
  | cons next rest ih => exact (call haround next).bind fun _ => ih.bind fun _ => .pure _

theorem release (haround : around'.Mirrors R around) :
    Mirrors R (Hub.release around') (Hub.release around) :=
  .get fun _ _ _ _ => .ite _ (.pure ()) (cancelRunning haround)

end Hub.Mirrors

end CardService.Subscription
