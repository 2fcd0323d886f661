import CardService.Proofs.Subscription.Delivery

/-!
# CardService — watches are kept apart

All watches of a hub share its roster, and events of an old watch may arrive long after it was
stopped. They are kept apart by their marks alone: the running watch is listened to, and it is
registered for that one is on the roster; a watch that was stopped is not listened to any more, and
no later watch gets its mark.

There are four ways to stop a watch (`Stop`), and each of them ends it (`Stop.ended`).
-/

namespace CardService.Subscription.Hub

variable {World Handler : Type} {around : Surroundings World Handler}
variable {s t : Station World Handler} {current : Watch}

/-! ## Stopping a watch -/

/-- The ways to stop a watch that runs for an owner: the last subscriber leaves, all leave at once,
someone subscribes for another owner, or the hub is given up. -/
inductive Stop (around : Surroundings World Handler) (owner : String)
    (s : Station World Handler) : Station World Handler → Prop where
  | last {id} (hlast : (s.hub.roster.erase id).entries = []) :
      Stop around owner s (unsubscribe around id s).2
  | all : Stop around owner s (unsubscribeAll around s).2
  | other {id other subscriber} (hother : other ≠ owner) :
      Stop around owner s (subscribe around id other subscriber s).2
  | released : Stop around owner s (release around s).2

/-- A call for another owner never leaves the watch running, not even if it fails. -/
theorem Turn.replaced {hub hub' : Hub Handler} {id : SubscriptionId} {owner : String}
    {subscriber : Subscriber Handler} {answer : Option (Except WatchFault Unit)}
    (hturn : Turn around hub (.subscribe id owner subscriber) answer hub')
    (hwired : Wired around hub) (hrunning : hub.running = some current)
    (howner : owner ≠ current.owner) : hub'.running ≠ some current := by
  intro hruns
  cases hturn with
  | unavailable hwatch =>
    exact running_absurd (hwired.running_of_unwatched hwatch) hrunning
  | poisoned hpoisoned =>
    exact running_absurd (hwired.running_of_poisoned hpoisoned) hrunning
  | joined hrunning' =>
    exact howner (congrArg Watch.owner (Option.some.inj (hrunning'.symm.trans hrunning)))
  | started hwatch hpoisoned hidle hopened =>
    exact howner (congrArg Watch.owner (Option.some.inj hruns))
  | refused hwatch hpoisoned hidle hopened =>
    exact running_absurd (hopened.running.trans (cancelled_running hub)) hruns
  | crashed hwatch hpoisoned hidle hopened =>
    exact running_absurd (hopened.running.trans (cancelled_running hub)) hruns

/-- However a watch is stopped, the course goes on without it. -/
theorem Stop.ended (hstop : Stop around current.owner s t) (hquiet : Reticent around)
    (hwired : Wired around s.hub) (hrunning : s.hub.running = some current) :
    (∃ deeds, Course around s deeds t) ∧ t.hub.running ≠ some current := by
  have hfree := not_locked_of_running hrunning
  have hsound := hwired.running_sound current hrunning
  have hended : ∀ {hub : Hub Handler}, hub.running = none → hub.running ≠ some current :=
    fun hnone hruns => running_absurd hnone hruns
  cases hstop with
  | @last id hlast =>
    refine ⟨⟨_, .single around (.unsubscribe id) hfree⟩, hended ?_⟩
    rw [(unsubscribe_last around hsound hlast hwired.nodup).2]
    exact cancelled_running _
  | all =>
    refine ⟨⟨_, .single around .unsubscribeAll hfree⟩, hended ?_⟩
    rw [(unsubscribeAll_hub around hsound hwired.nodup).2]
    exact cancelled_running _
  | @other id other subscriber hother =>
    refine ⟨⟨_, .single around (.subscribe id other subscriber) hfree⟩, ?_⟩
    exact (subscribe_turn hquiet hwired.nodup hfree).replaced hwired hrunning hother
  | released =>
    refine ⟨⟨_, .release .rest⟩, hended ?_⟩
    rw [release_hub hwired.nodup, hsound]
    exact cancelled_running _

/-! ## The running watch and all others -/

/-- At whatever point of a course a watch runs: its events reach only those who are registered for
its owner. Once it was stopped, in whatever way, nothing comes of any event that arrives under its
mark, neither while it is cancelled nor at any later point of the course. -/
theorem watch_isolated (hlawful : Lawful around) {start : Station World Handler}
    {past : List (Deed Handler)} (hempty : start.hub = .empty)
    (hcourse : Course around start past s)
    (hrunning : s.hub.running = some current) :
    (∀ event, ∃ outcomes, outcomes.length = s.hub.roster.entries.length ∧
      Unfolds around s (unfolding s.hub.roster.entries outcomes event)
        (hear around current.mark event s).2 ∧
      ∀ id subscriber notice failure,
        .told id subscriber notice failure ∈ unfolding s.hub.roster.entries outcomes event →
          Registered past id current.owner subscriber) ∧
    (∀ mark event, ∃ deeds, Course around s deeds (hear around mark event s).2) ∧
    (∀ t, Stop around current.owner s t →
      (∃ deeds, Course around s deeds t) ∧ t.hub.running ≠ some current) ∧
    (cancelRunning around s = ((), { s with
      hub := s.hub.cancelled, world := (around.cancel current.mark s.world).2 })) ∧
    (∀ deeds t, Course around s deeds t → t.hub.running ≠ some current →
      ∀ more u, Course around t more u → ∀ event, hear around current.mark event u = ((), u)) := by
  have hquiet := hlawful.reticent
  have hwired : Wired around s.hub := hcourse.wired hquiet (hempty ▸ wired_empty)
  have hsynced := hcourse.synced hquiet hempty
  refine ⟨fun event => ?_, fun mark event => hlawful.hear mark event s,
    fun t hstop => hstop.ended hquiet hwired hrunning,
    cancelRunning_of_some hrunning hwired.nodup, ?_⟩
  · obtain ⟨outcomes, hlength, hunfolds⟩ := route_unfolds around event s
    rw [hear_of_live (hwired.running_live current hrunning)]
    refine ⟨outcomes, hlength, hunfolds, fun id subscriber notice failure htold => ?_⟩
    exact (hsynced.found current hrunning id subscriber).mp
      (Roster.get?_eq_some_iff.mpr (mem_of_told htold))
  · -- a watch that does not run any more is dead, and the dead stay dead
    intro deeds t ht hstopped more u hu event
    rcases ht.running_or_dead hquiet hwired hrunning with hruns | hdead
    · exact absurd hruns hstopped
    · exact hear_of_dead (hu.dead hquiet (ht.wired hquiet hwired) hdead).2 event

/-- Surroundings in which nobody does anything. -/
def still : Surroundings Unit SubscriptionId where
  watch := some fun _ _ => pure ⟨[], .started⟩
  cancel := fun _ => pure []
  audit := fun _ => pure ()
  tell := fun _ _ => pure none

/-- Whoever is told of something has an id unsubscribe at once, if a watch runs. -/
def leaving : Surroundings Unit SubscriptionId :=
  { still with
    tell := fun id _ s =>
      if s.hub.running.isSome then (none, (unsubscribe still id s).2) else (none, s) }

theorem leaving_lawful : Lawful leaving := by
  intro id notice s
  show ∃ deeds, Course leaving s deeds
    (if s.hub.running.isSome then (none, (unsubscribe still id s).2) else (none, s)).2
  split
  · rename_i hsome
    obtain ⟨current, hrunning⟩ := Option.isSome_iff_exists.mp hsome
    -- unsubscribing tells nobody, so it does not matter who would be told
    have hsame : unsubscribe still id s = unsubscribe leaving id s := rfl
    rw [hsame]
    exact ⟨_, .single leaving (.unsubscribe id) (not_locked_of_running hrunning)⟩
  · exact ⟨[], .rest⟩

/-- A new hub with a single subscriber, who leaves when told of anything. -/
def waiting : Station Unit SubscriptionId :=
  (subscribe leaving ⟨"a"⟩ "owner" (.handler ⟨"a"⟩) ⟨.empty, [], ()⟩).2

/-- It hears an event, and the subscriber leaves. -/
def deserted : Station Unit SubscriptionId := (hear leaving 0 (.connection .connected) waiting).2

/-- The subscriber comes back. -/
def revived : Station Unit SubscriptionId :=
  (subscribe leaving ⟨"a"⟩ "owner" (.handler ⟨"a"⟩) deserted).2

/-- The new watch is for the same owner but has another mark, and the old one stays silent. -/
theorem watch_isolated_return :
    (∃ past, Course leaving ⟨.empty, [], ()⟩ past waiting) ∧
      waiting.hub.running = some ⟨"owner", 0⟩ ∧ deserted.hub.running = none ∧
      revived.hub.running = some ⟨"owner", 1⟩ ∧
      ∀ event, hear leaving 0 event revived = ((), revived) := by
  have hwaiting := Course.single (s := ⟨.empty, [], ()⟩) leaving
    (.subscribe ⟨"a"⟩ "owner" (.handler ⟨"a"⟩)) not_locked_empty
  have hrunning : waiting.hub.running = some ⟨"owner", 0⟩ := by decide
  obtain ⟨-, hhear, -, -, hsilent⟩ := watch_isolated leaving_lawful rfl hwaiting hrunning
  obtain ⟨deeds, hdeserted⟩ := hhear 0 (.connection .connected)
  have hopen : ¬ deserted.hub.Locked := fun hlocked => hlocked.2.1 (by decide)
  have hrevived := Course.single leaving (.subscribe ⟨"a"⟩ "owner" (.handler ⟨"a"⟩)) hopen
  exact ⟨⟨_, hwaiting⟩, hrunning, by decide, by decide,
    hsilent deeds deserted hdeserted (by decide) _ revived hrevived⟩

end CardService.Subscription.Hub
