import CardService.Proofs.Subscription.Operations

/-!
# CardService — the course of a hub

What can happen to a hub in the long run. A call takes one of few turns (`Turn`), and
`Call.act_turn` is the only place where calls are taken apart; all that holds in the long run is
read off the turns.

A course is any number of calls, of changes around the hub, and of reports about the connection, one
after the other, until the hub is given up. Events are not a step of their own: those who are told
of one may call the hub again, and what they do is a part of the course (`Lawful`), so hearing an
event continues a course (`Lawful.hear`).

Main results:

* `Course.wired` — in every course the marks that are listened to were issued, each once, and the
  mark of the running watch is among them.
* `Course.dead` — a mark that is no longer listened to stays so.
* `Course.running_or_dead` — a watch runs on, or its mark is dead.
* `Course.answered` — with a watcher that does not crash, every call is answered.
-/

namespace CardService.Subscription.Hub

variable {World Handler : Type} {around : Surroundings World Handler}

/-! ## Calls -/

/-- A call at a hub. -/
inductive Call (Handler : Type) where
  | subscribe (id : SubscriptionId) (owner : String) (subscriber : Subscriber Handler)
  | unsubscribe (id : SubscriptionId)
  | unsubscribeAll

/-- Makes a call. Nothing is answered if the watcher crashes. -/
def Call.act (around : Surroundings World Handler) :
    Call Handler → Action World Handler (Option (Except WatchFault Unit))
  | .subscribe id owner subscriber => Hub.subscribe around id owner subscriber
  | .unsubscribe id => do return some (← Hub.unsubscribe around id)
  | .unsubscribeAll => do return some (← Hub.unsubscribeAll around)

/-- A call with its answer. -/
structure Deed (Handler : Type) where
  call : Call Handler
  answer : Option (Except WatchFault Unit)

/-! ## Turns -/

/-- A hub that waits for the watch of a first subscriber, after all earlier ones are gone. -/
def awaiting (hub : Hub Handler) (id : SubscriptionId) (subscriber : Subscriber Handler) :
    Hub Handler :=
  { hub.stopped with roster := .empty }.opened id subscriber

/-- Whoever waits for a watch is alone, and nobody is left when they are removed. -/
theorem erase_awaiting (hub : Hub Handler) (id : SubscriptionId)
    (subscriber : Subscriber Handler) : (hub.awaiting id subscriber).roster.erase id = .empty := by
  refine Roster.eq_empty (Roster.entries_eq_nil_iff.mpr fun key => ?_)
  show ((Roster.empty.insert id subscriber).erase id).get? key = none
  rw [Roster.get?_erase, Roster.get?_insert, Roster.get?_empty]
  split <;> rfl

/-- What a call makes of a hub that is not locked, and what it answers. -/
inductive Turn (around : Surroundings World Handler) (hub : Hub Handler) :
    Call Handler → Option (Except WatchFault Unit) → Hub Handler → Prop where
  /-- Without a watcher nobody can subscribe. -/
  | unavailable {id owner subscriber} (hwatch : around.watch = none) :
      Turn around hub (.subscribe id owner subscriber) (some (.error .unavailable)) hub
  /-- After a crash no call is served. -/
  | poisoned {call} (hpoisoned : hub.poisoned = true) :
      Turn around hub call (some (.error .poisoned)) hub
  /-- A subscriber for the owner of the running watch joins the others. -/
  | joined {id subscriber current} (hrunning : hub.running = some current) :
      Turn around hub (.subscribe id current.owner subscriber) (some (.ok ()))
        { hub with roster := hub.roster.insert id subscriber }
  /-- A subscriber for another owner has a watch started. -/
  | started {id owner subscriber opened} (hwatch : around.watch.isSome)
      (hpoisoned : hub.poisoned = false) (hidle : hub.Idle owner)
      (hopened : Alike (hub.awaiting id subscriber) opened) :
      Turn around hub (.subscribe id owner subscriber) (some (.ok ()))
        { opened with running := some ⟨owner, hub.nextMark⟩ }
  /-- The watch is refused, and its subscriber is removed again. -/
  | refused {id owner subscriber opened fault} (hwatch : around.watch.isSome)
      (hpoisoned : hub.poisoned = false) (hidle : hub.Idle owner)
      (hopened : Alike (hub.awaiting id subscriber) opened) :
      Turn around hub (.subscribe id owner subscriber) (some (.error fault))
        { opened with roster := .empty }
  /-- The watcher crashes. -/
  | crashed {id owner subscriber opened} (hwatch : around.watch.isSome)
      (hpoisoned : hub.poisoned = false) (hidle : hub.Idle owner)
      (hopened : Alike (hub.awaiting id subscriber) opened) :
      Turn around hub (.subscribe id owner subscriber) none { opened with poisoned := true }
  /-- Somebody leaves, and others stay. -/
  | left {id} (hpoisoned : hub.poisoned = false) (hleft : (hub.roster.erase id).entries ≠ []) :
      Turn around hub (.unsubscribe id) (some (.ok ()))
        { hub with roster := hub.roster.erase id }
  /-- The last one leaves, if there is one. -/
  | emptied {id} (hpoisoned : hub.poisoned = false) (hlast : (hub.roster.erase id).entries = []) :
      Turn around hub (.unsubscribe id) (some (.ok ())) { hub with roster := .empty }.stopped
  /-- All leave at once. -/
  | cleared (hpoisoned : hub.poisoned = false) :
      Turn around hub .unsubscribeAll (some (.ok ())) { hub with roster := .empty }.stopped

section Acting

variable {s : Station World Handler} {id : SubscriptionId} {owner : String}
variable {subscriber : Subscriber Handler}

/-- What a hub looks like when the watcher is asked for a fresh subscriber. -/
theorem opened_alike_awaiting (around : Surroundings World Handler) (hnodup : s.hub.live.Nodup)
    (hfree : ¬ s.hub.Locked) (hpoisoned : s.hub.poisoned = false) :
    Alike (s.hub.awaiting id subscriber) ((clearWay around s).2.hub.opened id subscriber) := by
  have hclear := clearWay_hub around hnodup hfree hpoisoned
  refine ⟨?_, hclear.running, ?_, ?_, hclear.poisoned⟩
  · show (clearWay around s).2.hub.roster.insert id subscriber = _
    rw [hclear.roster]
    rfl
  · show (clearWay around s).2.hub.nextMark :: (clearWay around s).2.hub.live = _
    rw [hclear.nextMark, hclear.live]
    rfl
  · show (clearWay around s).2.hub.nextMark + 1 = _
    rw [hclear.nextMark]
    rfl

/-- What it looks like when the watcher has answered. -/
theorem attempt_alike_awaiting (watch : Nat → Backend.Request → StateM World StartAnswer)
    (id : SubscriptionId) (owner : String) (subscriber : Subscriber Handler)
    (hquiet : Reticent around) (hnodup : s.hub.live.Nodup) (hfree : ¬ s.hub.Locked)
    (hpoisoned : s.hub.poisoned = false) :
    Alike (s.hub.awaiting id subscriber)
      (attempt around watch id owner subscriber (clearWay around s).2).2.hub := by
  have hclear := clearWay_hub around hnodup hfree hpoisoned
  refine (opened_alike_awaiting around hnodup hfree hpoisoned).trans (attempt_hub hquiet ?_ ?_)
  · exact hclear.running.trans (cancelled_running _)
  · exact hclear.poisoned.trans ((cancelled_poisoned _).trans hpoisoned)

theorem subscribe_turn (hquiet : Reticent around) (hnodup : s.hub.live.Nodup)
    (hfree : ¬ s.hub.Locked) :
    Turn around s.hub (.subscribe id owner subscriber)
      (subscribe around id owner subscriber s).1
      (subscribe around id owner subscriber s).2.hub := by
  cases hwatch : around.watch with
  | none =>
    rw [subscribe_unavailable hwatch]
    exact .unavailable hwatch
  | some watch =>
    have hsome : around.watch.isSome := by rw [hwatch]; rfl
    cases hpoisoned : s.hub.poisoned with
    | true =>
      rw [subscribe_poisoned hwatch hpoisoned]
      exact .poisoned hpoisoned
    | false =>
      rcases s.hub.idle_or_runs_for owner with hidle | ⟨current, hrunning, rfl⟩
      · -- no watch runs for this owner, so the watcher is asked
        have halike := attempt_alike_awaiting watch id owner subscriber hquiet hnodup hfree
          hpoisoned
        have hmark := clearWay_nextMark around hnodup hfree hpoisoned
        rw [subscribe_fresh hwatch hpoisoned hidle, start_eq, hmark]
        cases (attempt around watch id owner subscriber (clearWay around s).2).1.outcome with
        | started => exact .started hsome hpoisoned hidle halike
        | refused fault =>
          -- the newcomer was alone, so nobody is left
          have hempty : (attempt around watch id owner subscriber
              (clearWay around s).2).2.hub.roster.erase id = .empty := by
            rw [halike.roster]
            exact erase_awaiting s.hub id subscriber
          rw [conclude, bind_run, adjust_run, pure_run]
          simp only [hempty]
          exact .refused hsome hpoisoned hidle halike
        | crashed => exact .crashed hsome hpoisoned hidle halike
      · rw [subscribe_joined hwatch hpoisoned hrunning]
        exact .joined hrunning

/-- Each call at a hub that is not locked takes one of the turns. -/
theorem Call.act_turn (hquiet : Reticent around) (hnodup : s.hub.live.Nodup)
    (hfree : ¬ s.hub.Locked) (call : Call Handler) :
    Turn around s.hub call (call.act around s).1 (call.act around s).2.hub := by
  cases call with
  | subscribe id owner subscriber => exact subscribe_turn hquiet hnodup hfree
  | unsubscribe id =>
    rw [Call.act, bind_run, pure_run]
    cases hpoisoned : s.hub.poisoned with
    | true =>
      rw [unsubscribe_poisoned hpoisoned]
      exact .poisoned hpoisoned
    | false =>
      -- whether the watch goes on depends on who is left
      by_cases hlast : (s.hub.roster.erase id).entries = []
      · obtain ⟨hanswer, hhub⟩ := unsubscribe_last around hpoisoned hlast hnodup
        rw [hanswer, hhub]
        exact .emptied hpoisoned hlast
      · rw [unsubscribe_left hpoisoned hlast]
        exact .left hpoisoned hlast
  | unsubscribeAll =>
    rw [Call.act, bind_run, pure_run]
    cases hpoisoned : s.hub.poisoned with
    | true =>
      rw [unsubscribeAll_poisoned hpoisoned]
      exact .poisoned hpoisoned
    | false =>
      obtain ⟨hanswer, hhub⟩ := unsubscribeAll_hub around hpoisoned hnodup
      rw [hanswer, hhub]
      exact .cleared hpoisoned

end Acting

/-! ## Marks -/

/-- How the parts of a hub hang together. -/
structure Wired (around : Surroundings World Handler) (hub : Hub Handler) : Prop where
  nodup : hub.live.Nodup
  issued : ∀ mark ∈ hub.live, mark < hub.nextMark
  running_live : ∀ current, hub.running = some current → current.mark ∈ hub.live
  running_entries : ∀ current, hub.running = some current → hub.roster.entries ≠ []
  running_sound : ∀ current, hub.running = some current → hub.poisoned = false
  running_watched : ∀ current, hub.running = some current → around.watch.isSome

theorem wired_empty : Wired around (empty : Hub Handler) where
  nodup := .nil
  issued := fun _ h => absurd h (by simp [empty])
  running_live := fun _ h => nomatch h
  running_entries := fun _ h => nomatch h
  running_sound := fun _ h => nomatch h
  running_watched := fun _ h => nomatch h

/-- A mark that was issued, and is not listened to any more. -/
def Dead (mark : Nat) (hub : Hub Handler) : Prop := mark < hub.nextMark ∧ mark ∉ hub.live

variable {hub hub' : Hub Handler} {mark : Nat}

/-- Without a watcher no watch runs. -/
theorem Wired.running_of_unwatched (hwired : Wired around hub) (hwatch : around.watch = none) :
    hub.running = none := by
  refine Option.eq_none_iff_forall_ne_some.mpr fun current hrunning => ?_
  have hsome := hwired.running_watched current hrunning
  rw [hwatch] at hsome
  exact absurd hsome (by simp)

/-- After a crash no watch runs. -/
theorem Wired.running_of_poisoned (hwired : Wired around hub) (hpoisoned : hub.poisoned = true) :
    hub.running = none := by
  refine Option.eq_none_iff_forall_ne_some.mpr fun current hrunning => ?_
  exact absurd ((hwired.running_sound current hrunning).symm.trans hpoisoned) (by simp)

/-- Without subscribers the hub runs no watch, and without a watch it has no subscribers, unless a
start is going on or a watcher has crashed. -/
theorem Wired.running_iff (hwired : Wired around hub) (hfree : ¬ hub.Locked)
    (hsound : hub.poisoned = false) : hub.running.isSome ↔ hub.roster.size ≠ 0 := by
  rw [Roster.size_ne_zero_iff]
  constructor
  · intro hsome
    obtain ⟨current, hrunning⟩ := Option.isSome_iff_exists.mp hsome
    exact hwired.running_entries current hrunning
  · intro hentries
    rw [← Option.ne_none_iff_isSome]
    exact fun hrunning => hfree ⟨hrunning, hentries, hsound⟩

theorem Alike.wired (h : Alike hub hub') (hwired : Wired around hub) : Wired around hub' := by
  obtain ⟨hroster, hrunning, hlive, hnext, hpoisoned⟩ := h
  constructor
  · rw [hlive]
    exact hwired.nodup
  · rw [hlive, hnext]
    exact hwired.issued
  · rw [hrunning, hlive]
    exact hwired.running_live
  · rw [hrunning, hroster]
    exact hwired.running_entries
  · rw [hrunning, hpoisoned]
    exact hwired.running_sound
  · rw [hrunning]
    exact hwired.running_watched

theorem Alike.dead (h : Alike hub hub') (hdead : Dead mark hub) : Dead mark hub' := by
  rw [Dead, h.nextMark, h.live]
  exact hdead

/-- A hub without a watch hangs together if its marks do. -/
theorem wired_of_running_none (hnodup : hub.live.Nodup)
    (hissued : ∀ mark ∈ hub.live, mark < hub.nextMark) (hrunning : hub.running = none) :
    Wired around hub where
  nodup := hnodup
  issued := hissued
  running_live := fun _ h => running_absurd hrunning h
  running_entries := fun _ h => running_absurd hrunning h
  running_sound := fun _ h => running_absurd hrunning h
  running_watched := fun _ h => running_absurd hrunning h

theorem mem_cancelled_live (h : mark ∈ hub.cancelled.live) : mark ∈ hub.live := by
  rw [cancelled] at h
  split at h
  · exact h
  · exact List.mem_of_mem_erase h

theorem cancelled_nodup (hnodup : hub.live.Nodup) : hub.cancelled.live.Nodup := by
  rw [cancelled]
  split
  · exact hnodup
  · exact hnodup.erase _

theorem cancelled_wired (hwired : Wired around hub) : Wired around hub.cancelled := by
  refine wired_of_running_none (cancelled_nodup hwired.nodup) ?_ (cancelled_running hub)
  intro mark hmark
  rw [cancelled_nextMark]
  exact hwired.issued mark (mem_cancelled_live hmark)

theorem cancelled_dead (hdead : Dead mark hub) : Dead mark hub.cancelled := by
  refine ⟨?_, fun h => hdead.2 (mem_cancelled_live h)⟩
  rw [cancelled_nextMark]
  exact hdead.1

/-- Stopping a watch silences it. -/
theorem cancelled_running_dead (hwired : Wired around hub) {current : Watch}
    (hrunning : hub.running = some current) : Dead current.mark hub.cancelled := by
  have hmark := hwired.running_live current hrunning
  rw [cancelled_of_some hrunning]
  exact ⟨hwired.issued _ hmark, hwired.nodup.not_mem_erase⟩

/-- Whoever is on the roster, stopping a watch stops the same watch. -/
theorem cancelled_with_roster (hub : Hub Handler) (roster : Roster (Subscriber Handler)) :
    { hub with roster }.cancelled = { hub.cancelled with roster } := by
  obtain ⟨_, running, _, _, _, _⟩ := hub
  cases running <;> rfl

/-- Nothing runs at a stopped hub, so its roster has no part in how it hangs together. -/
theorem stopped_wired (hwired : Wired around hub) (roster : Roster (Subscriber Handler)) :
    Wired around { hub.stopped with roster } := by
  have hcancelled := cancelled_wired hwired
  exact wired_of_running_none hcancelled.nodup hcancelled.issued (cancelled_running hub)

theorem stopped_with_roster (hub : Hub Handler) (roster : Roster (Subscriber Handler)) :
    { hub with roster }.stopped = { hub.stopped with roster } := by
  rw [stopped, cancelled_with_roster, stopped]

/-- A hub that waits for a watch listens to a mark that it never issued before. -/
theorem awaiting_wired (hwired : Wired around hub) {id : SubscriptionId}
    {subscriber : Subscriber Handler} : Wired around (hub.awaiting id subscriber) := by
  have hstopped := stopped_wired hwired .empty
  refine wired_of_running_none ?_ ?_ (cancelled_running hub)
  · refine List.nodup_cons.mpr ⟨fun hmem => ?_, hstopped.nodup⟩
    exact Nat.lt_irrefl _ (hstopped.issued _ hmem)
  · intro mark hmark
    rcases List.mem_cons.mp hmark with rfl | hmark
    · exact Nat.lt_succ_self _
    · exact Nat.lt_succ_of_lt (hstopped.issued mark hmark)

theorem awaiting_dead (hdead : Dead mark hub.cancelled) {id : SubscriptionId}
    {subscriber : Subscriber Handler} : Dead mark (hub.awaiting id subscriber) := by
  obtain ⟨hissued, hnot⟩ := hdead
  refine ⟨Nat.lt_succ_of_lt hissued, fun hmem => ?_⟩
  rcases List.mem_cons.mp hmem with rfl | hmem
  · exact Nat.lt_irrefl _ hissued
  · exact hnot hmem

/-! ## What a turn keeps -/

namespace Turn

variable {call : Call Handler} {answer : Option (Except WatchFault Unit)}

theorem wired (hturn : Turn around hub call answer hub') (hwired : Wired around hub) :
    Wired around hub' := by
  cases hturn with
  | unavailable hwatch => exact hwired
  | poisoned hpoisoned => exact hwired
  | joined hrunning =>
    exact { hwired with running_entries := fun _ _ => Roster.entries_insert_ne_nil }
  | @started _ owner _ opened hwatch hpoisoned hidle hopened =>
    have hawaiting := hopened.wired (awaiting_wired hwired)
    -- the mark that the watch got was put on the list before the watcher was asked
    refine ⟨hawaiting.nodup, hawaiting.issued, ?_, ?_, ?_, fun _ _ => hwatch⟩
    · rintro current ⟨⟩
      show hub.nextMark ∈ opened.live
      rw [hopened.live]
      exact List.mem_cons.mpr (.inl (cancelled_nextMark hub).symm)
    · rintro current -
      show opened.roster.entries ≠ []
      rw [hopened.roster]
      exact Roster.entries_insert_ne_nil
    · rintro current -
      show opened.poisoned = false
      rw [hopened.poisoned]
      exact (cancelled_poisoned hub).trans hpoisoned
  | refused hwatch hpoisoned hidle hopened =>
    have hawaiting := hopened.wired (awaiting_wired hwired)
    exact wired_of_running_none hawaiting.nodup hawaiting.issued
      (hopened.running.trans (cancelled_running hub))
  | crashed hwatch hpoisoned hidle hopened =>
    have hawaiting := hopened.wired (awaiting_wired hwired)
    exact wired_of_running_none hawaiting.nodup hawaiting.issued
      (hopened.running.trans (cancelled_running hub))
  | left hpoisoned hleft => exact { hwired with running_entries := fun _ _ => hleft }
  | emptied hpoisoned hlast =>
    rw [stopped_with_roster]
    exact stopped_wired hwired .empty
  | cleared hpoisoned =>
    rw [stopped_with_roster]
    exact stopped_wired hwired .empty

theorem dead (hturn : Turn around hub call answer hub') (hdead : Dead mark hub) :
    Dead mark hub' := by
  have hcancelled := cancelled_dead hdead
  cases hturn with
  | unavailable hwatch => exact hdead
  | poisoned hpoisoned => exact hdead
  | joined hrunning => exact hdead
  | started hwatch hpoisoned hidle hopened => exact hopened.dead (awaiting_dead hcancelled)
  | refused hwatch hpoisoned hidle hopened => exact hopened.dead (awaiting_dead hcancelled)
  | crashed hwatch hpoisoned hidle hopened => exact hopened.dead (awaiting_dead hcancelled)
  | left hpoisoned hleft => exact hdead
  | emptied hpoisoned hlast => exact cancelled_dead hdead
  | cleared hpoisoned => exact cancelled_dead hdead

/-- No call ends in the middle of a start. -/
theorem free (hturn : Turn around hub call answer hub') (hfree : ¬ hub.Locked) :
    ¬ hub'.Locked := by
  rintro ⟨hrunning, hentries, hsound⟩
  cases hturn with
  | unavailable hwatch => exact hfree ⟨hrunning, hentries, hsound⟩
  | poisoned hpoisoned => exact hfree ⟨hrunning, hentries, hsound⟩
  | joined hrunning' => exact running_absurd hrunning hrunning'
  | started hwatch hpoisoned hidle hopened => exact absurd hrunning (by simp)
  | refused hwatch hpoisoned hidle hopened => exact hentries rfl
  | crashed hwatch hpoisoned hidle hopened => exact absurd hsound (by simp)
  | left hpoisoned hleft =>
    -- whoever is still there was there before
    refine hfree ⟨hrunning, fun hnone => hentries ?_, hsound⟩
    show List.filter _ hub.roster.entries = []
    rw [hnone, List.filter_nil]
  | emptied hpoisoned hlast => exact hentries (by rw [stopped_with_roster]; rfl)
  | cleared hpoisoned => exact hentries (by rw [stopped_with_roster]; rfl)

/-- A watch runs on, or nobody listens to it any more. -/
theorem running_or_dead (hturn : Turn around hub call answer hub') (hwired : Wired around hub)
    {current : Watch} (hrunning : hub.running = some current) :
    hub'.running = some current ∨ Dead current.mark hub' := by
  -- whatever ends the watch stops it first, and a stopped watch is dead
  have hdead := cancelled_running_dead hwired hrunning
  cases hturn with
  | unavailable hwatch => exact .inl hrunning
  | poisoned hpoisoned => exact .inl hrunning
  | joined hrunning' => exact .inl hrunning
  | started hwatch hpoisoned hidle hopened => exact .inr (hopened.dead (awaiting_dead hdead))
  | refused hwatch hpoisoned hidle hopened => exact .inr (hopened.dead (awaiting_dead hdead))
  | crashed hwatch hpoisoned hidle hopened => exact .inr (hopened.dead (awaiting_dead hdead))
  | left hpoisoned hleft => exact .inl hrunning
  | emptied hpoisoned hlast => exact .inr (stopped_with_roster hub .empty ▸ hdead)
  | cleared hpoisoned => exact .inr (stopped_with_roster hub .empty ▸ hdead)

/-- Only a watcher that crashes poisons the hub. -/
theorem sound (hturn : Turn around hub call answer hub') (hanswer : answer ≠ none)
    (hsound : hub.poisoned = false) : hub'.poisoned = false := by
  cases hturn with
  | unavailable hwatch => exact hsound
  | poisoned hpoisoned => exact hsound
  | joined hrunning => exact hsound
  | started hwatch hpoisoned hidle hopened =>
    exact hopened.poisoned.trans ((cancelled_poisoned hub).trans hsound)
  | refused hwatch hpoisoned hidle hopened =>
    exact hopened.poisoned.trans ((cancelled_poisoned hub).trans hsound)
  | crashed hwatch hpoisoned hidle hopened => exact absurd rfl hanswer
  | left hpoisoned hleft => exact hsound
  | emptied hpoisoned hlast => exact (cancelled_poisoned _).trans hsound
  | cleared hpoisoned => exact (cancelled_poisoned _).trans hsound

end Turn

/-! ## Courses -/

/-- What happens to a hub from a start on, with the calls that are made on the way. Calls are made
unless the hub is locked; everything else leaves the hub alone, apart from its connection. -/
inductive Course (around : Surroundings World Handler) (start : Station World Handler) :
    List (Deed Handler) → Station World Handler → Prop where
  | rest : Course around start [] start
  | aside {deeds s t} (hcourse : Course around start deeds s) (halike : Alike s.hub t.hub) :
      Course around start deeds t
  | call {deeds s} (hcourse : Course around start deeds s) (hfree : ¬ s.hub.Locked)
      (call : Call Handler) :
      Course around start (deeds ++ [⟨call, (call.act around s).1⟩]) (call.act around s).2
  | release {deeds s} (hcourse : Course around start deeds s) :
      Course around start deeds (release around s).2

/-- Those who are told of something use the hub like everybody else: they make calls, unless it is
locked. -/
def Lawful (around : Surroundings World Handler) : Prop :=
  ∀ handler notice s, ∃ deeds, Course around s deeds (around.tell handler notice s).2

namespace Course

variable {start s t : Station World Handler} {past deeds : List (Deed Handler)}

/-- A single call. -/
theorem single (around : Surroundings World Handler) (call : Call Handler)
    (hfree : ¬ s.hub.Locked) :
    Course around s [⟨call, (call.act around s).1⟩] (call.act around s).2 :=
  .call .rest hfree call

theorem trans (hcourse : Course around start past s) (hcourse' : Course around s deeds t) :
    Course around start (past ++ deeds) t := by
  induction hcourse' with
  | rest =>
    rw [List.append_nil]
    exact hcourse
  | aside _ halike ih => exact .aside ih halike
  | call _ hfree call ih =>
    rw [← List.append_assoc]
    exact .call ih hfree call
  | release _ ih => exact .release ih

/-- Nothing comes of a locked hub until the start is over. -/
theorem alike_of_locked (hcourse : Course around start deeds t) (hlocked : start.hub.Locked) :
    Alike start.hub t.hub := by
  induction hcourse with
  | rest => exact .refl _
  | aside _ halike ih => exact ih.trans halike
  | call _ hfree call ih => exact absurd (ih.locked hlocked) hfree
  | @release deeds s _ ih =>
    have hsame : Hub.release around s = ((), s) := by
      rw [Hub.release, bind_run, get_run]
      split
      · rfl
      · exact cancelRunning_of_none (ih.locked hlocked).1
    rw [hsame]
    exact ih

end Course

/-- Whoever leaves the hub alone is lawful. -/
theorem lawful_of_alike
    (halike : ∀ handler notice s, Alike s.hub (around.tell handler notice s).2.hub) :
    Lawful around :=
  fun handler notice s => ⟨[], .aside .rest (halike handler notice s)⟩

theorem Lawful.reticent (hlawful : Lawful around) : Reticent around := by
  intro handler notice s hlocked
  obtain ⟨deeds, hcourse⟩ := hlawful handler notice s
  exact hcourse.alike_of_locked hlocked

/-- Whatever is heard, under whatever mark, continues a course. -/
theorem Lawful.hear (hlawful : Lawful around) (mark : Nat) (event : WatchEvent)
    (s : Station World Handler) :
    ∃ deeds, Course around s deeds (Hub.hear around mark event s).2 := by
  have hkept : Kept around fun t => ∃ deeds, Course around s deeds t :=
    { told := by
        rintro subscriber notice t ⟨past, hpast⟩
        cases subscriber with
        | handler handler =>
          obtain ⟨deeds, hdeeds⟩ := hlawful handler notice t
          exact ⟨past ++ deeds, hpast.trans hdeeds⟩
        | channel number => exact ⟨past, .aside hpast (.refl _)⟩
      noted := fun _ _ ⟨past, hpast⟩ => ⟨past, .aside hpast (.refl _)⟩
      connected := fun _ _ ⟨past, hpast⟩ => ⟨past, .aside hpast ⟨rfl, rfl, rfl, rfl, rfl⟩⟩ }
  exact hkept.hear mark event ⟨[], .rest⟩

/-! ## What a course keeps -/

theorem released_wired (hwired : Wired around s.hub) : Wired around (release around s).2.hub := by
  rw [release_hub hwired.nodup]
  split
  · exact hwired
  · exact cancelled_wired hwired

namespace Course

variable {start s t : Station World Handler} {past deeds : List (Deed Handler)}

theorem wired (hcourse : Course around start deeds t) (hquiet : Reticent around)
    (hwired : Wired around start.hub) : Wired around t.hub := by
  induction hcourse with
  | rest => exact hwired
  | aside _ halike ih => exact halike.wired ih
  | call _ hfree call ih => exact (call.act_turn hquiet ih.nodup hfree).wired ih
  | release _ ih => exact released_wired ih

/-- A mark that is not listened to any more stays so. -/
theorem dead (hcourse : Course around start deeds t) (hquiet : Reticent around)
    (hwired : Wired around start.hub) (hdead : Dead mark start.hub) : Dead mark t.hub := by
  induction hcourse with
  | rest => exact hdead
  | aside _ halike ih => exact halike.dead ih
  | call hcourse hfree call ih =>
    exact (call.act_turn hquiet (hcourse.wired hquiet hwired).nodup hfree).dead ih
  | @release deeds s hcourse ih =>
    rw [release_hub (hcourse.wired hquiet hwired).nodup]
    split
    · exact ih
    · exact cancelled_dead ih

/-- A watch runs on, or its mark is dead. -/
theorem running_or_dead (hcourse : Course around start deeds t) (hquiet : Reticent around)
    (hwired : Wired around start.hub) {current : Watch}
    (hrunning : start.hub.running = some current) :
    t.hub.running = some current ∨ Dead current.mark t.hub := by
  induction hcourse with
  | rest => exact .inl hrunning
  | aside _ halike ih =>
    rcases ih with hruns | hdead
    · exact .inl (halike.running.trans hruns)
    · exact .inr (halike.dead hdead)
  | @call deeds s hcourse hfree call ih =>
    have hbefore := hcourse.wired hquiet hwired
    have hturn := call.act_turn hquiet hbefore.nodup hfree
    rcases ih with hruns | hdead
    · exact hturn.running_or_dead hbefore hruns
    · exact .inr (hturn.dead hdead)
  | @release deeds s hcourse ih =>
    have hbefore := hcourse.wired hquiet hwired
    rw [release_hub hbefore.nodup]
    split
    · exact ih
    · rcases ih with hruns | hdead
      · exact .inr (cancelled_running_dead hbefore hruns)
      · exact .inr (cancelled_dead hdead)

/-- As long as every call is answered, the hub is not poisoned. -/
theorem sound (hcourse : Course around start past t) (hquiet : Reticent around)
    (hwired : Wired around start.hub) (hanswers : ∀ deed ∈ past, deed.answer ≠ none)
    (hsound : start.hub.poisoned = false) : t.hub.poisoned = false := by
  induction hcourse with
  | rest => exact hsound
  | aside _ halike ih => exact halike.poisoned.trans (ih hanswers)
  | call hcourse hfree call ih =>
    have hbefore := ih fun deed h => hanswers deed (List.mem_append_left _ h)
    have hturn := call.act_turn hquiet (hcourse.wired hquiet hwired).nodup hfree
    exact hturn.sound (hanswers _ (List.mem_append_right _ (List.mem_singleton_self _))) hbefore
  | @release deeds s hcourse ih =>
    rw [release_hub (hcourse.wired hquiet hwired).nodup]
    split
    · exact ih hanswers
    · exact (cancelled_poisoned s.hub).trans (ih hanswers)

end Course

/-! ## Watchers that do not crash -/

/-- A watcher that starts watches or refuses to, but never crashes. -/
def Steady (around : Surroundings World Handler) : Prop :=
  ∀ watch, around.watch = some watch →
    ∀ mark request world, (watch mark request world).1.outcome ≠ .crashed

section Steady

variable {s t : Station World Handler} {deeds : List (Deed Handler)}

theorem start_answered {watch : Nat → Backend.Request → StateM World StartAnswer}
    (hwatch : ∀ mark request world, (watch mark request world).1.outcome ≠ .crashed)
    (id : SubscriptionId) (owner : String) (subscriber : Subscriber Handler) :
    (start around watch id owner subscriber s).1 ≠ none := by
  have houtcome : (attempt around watch id owner subscriber s).1.outcome ≠ .crashed := hwatch _ _ _
  rw [start_eq]
  cases hended : (attempt around watch id owner subscriber s).1.outcome with
  | started => exact Option.some_ne_none _
  | refused fault => exact Option.some_ne_none _
  | crashed => exact absurd hended houtcome

/-- Only a crash leaves a call without an answer. -/
theorem Call.act_answered (hsteady : Steady around) (call : Call Handler) :
    (call.act around s).1 ≠ none := by
  cases call with
  | subscribe id owner subscriber =>
    show (Hub.subscribe around id owner subscriber s).1 ≠ none
    cases hwatch : around.watch with
    | none =>
      rw [subscribe_unavailable hwatch]
      exact Option.some_ne_none _
    | some watch =>
      cases hpoisoned : s.hub.poisoned with
      | true =>
        rw [subscribe_poisoned hwatch hpoisoned]
        exact Option.some_ne_none _
      | false =>
        rcases s.hub.idle_or_runs_for owner with hidle | ⟨current, hrunning, rfl⟩
        · rw [subscribe_fresh hwatch hpoisoned hidle]
          exact start_answered (hsteady watch hwatch) id owner subscriber
        · rw [subscribe_joined hwatch hpoisoned hrunning]
          exact Option.some_ne_none _
  | unsubscribe id => exact Option.some_ne_none _
  | unsubscribeAll => exact Option.some_ne_none _

theorem Course.answered (hcourse : Course around s deeds t) (hsteady : Steady around) :
    ∀ deed ∈ deeds, deed.answer ≠ none := by
  induction hcourse with
  | rest => exact fun deed h => absurd h List.not_mem_nil
  | aside _ halike ih => exact ih
  | @call deeds s _ hfree call ih =>
    intro deed hdeed
    rcases List.mem_append.mp hdeed with hbefore | hlast
    · exact ih deed hbefore
    · rw [List.mem_singleton.mp hlast]
      exact call.act_answered hsteady
  | release _ ih => exact ih

end Steady

end CardService.Subscription.Hub
