import CardService.Proofs.Subscription.Delivery
import CardService.Proofs.Subscription.Errand
import CardService.Proofs.Subscription.Refusal

/-!
# CardService — what is known of the connection

A hub keeps a single note of the connection, which every watch may write over. All the same the note
is that of the running watch: it is what this watch reported last, and `disconnected` as long as it
reported nothing and whenever no watch runs (`connection_of_running`). The one exception are watches
whose start failed after they had reported something, since nobody stops listening to those.

A run is told with its history: which events were pushed, under which marks, and which starts failed
(`Chronicle`). What those do who are told of an event comes behind it in the history, and what is
pushed in the course of a start is a chronicle of its own, of the hub that waits for its watch.

Main results:

* `Candid.hear`, `Candid.act` — every event and every call continues a chronicle.
* `Passive.hear`, `Passive.act` — if nobody calls back, then with nothing but the events themselves.
* `Tracked.pushed`, `Tracked.stopped`, `Tracked.opened`, `Tracked.failed` — what each step keeps.
* `Chronicle.tracked` — so the note is right at every point of a chronicle.
-/

namespace CardService.Subscription.Hub

variable {World Handler : Type}

/-! ## Chronicles -/

/-- Something that the history of a hub tells of: an event was pushed under a mark, or the start of
the watch with that mark failed. -/
inductive Occurrence where
  | pushed (mark : Nat) (event : WatchEvent)
  | failed (mark : Nat)

/-- The events that were pushed under a mark. -/
def pushedUnder (mark : Nat) (history : List Occurrence) : List WatchEvent :=
  history.filterMap fun
    | .pushed other event => if other = mark then some event else none
    | .failed _ => none

/-- No watch pushes an event whose start fails. -/
def Silent (history : List Occurrence) : Prop :=
  ∀ mark, .failed mark ∈ history → pushedUnder mark history = []

/-- A hub when an event was pushed and nobody is told of it yet. -/
def taken (hub : Hub Handler) (mark : Nat) (event : WatchEvent) : Hub Handler :=
  if mark ∈ hub.live then hub.notified (reported event) else hub

/-- Whether a call has a watch started. -/
def Call.Asks (around : Surroundings World Handler) (hub : Hub Handler) : Call Handler → Prop
  | .subscribe _ owner _ => around.watch.isSome ∧ hub.poisoned = false ∧ hub.Idle owner
  | _ => False

/-- A station whose watcher was asked for a watch, before anything of it is heard. -/
def summoned (watch : Nat → Backend.Request → StateM World StartAnswer) (id : SubscriptionId)
    (owner : String) (subscriber : Subscriber Handler) (s : Station World Handler) :
    Station World Handler :=
  { s with
    hub := s.hub.opened id subscriber
    world := (watch s.hub.nextMark (watchRequest owner) s.world).2 }

/-- What comes to pass from a start on, with its history. -/
inductive Chronicle (around : Surroundings World Handler) :
    Station World Handler → List Occurrence → Station World Handler → Prop where
  | rest {s} : Chronicle around s [] s
  /-- Something happens around the hub. -/
  | aside {start history s t} (h : Chronicle around start history s) (hhub : t.hub = s.hub) :
      Chronicle around start history t
  /-- An event is pushed under a mark that was issued. Telling others of it comes behind. -/
  | push {start history s t} (h : Chronicle around start history s) {mark event}
      (hissued : mark < s.hub.nextMark) (htaken : t.hub = s.hub.taken mark event) :
      Chronicle around start (history ++ [.pushed mark event]) t
  /-- A call that has no watch started. -/
  | call {start history s} (h : Chronicle around start history s) (hfree : ¬ s.hub.Locked)
      (call : Call Handler) (hasks : ¬ call.Asks around s.hub) :
      Chronicle around start history (call.act around s).2
  /-- A call that does. Meanwhile its watch reports events, in their order, and those who are told
  of them may push others in between; in the end the start may fail. -/
  | summon {start history s id owner subscriber watch clear during}
      (h : Chronicle around start history s) (hfree : ¬ s.hub.Locked)
      (hwatch : around.watch = some watch) (hpoisoned : s.hub.poisoned = false)
      (hidle : s.hub.Idle owner) (hclear : (clearWay around s).2 = clear)
      (hduring : Chronicle around (summoned watch id owner subscriber clear) during
        (attempt around watch id owner subscriber clear).2)
      (hreported : ((attempt around watch id owner subscriber clear).1.events.map
        (.pushed clear.hub.nextMark)).Sublist during) :
      Chronicle around start
        (history ++ during ++
          if (attempt around watch id owner subscriber clear).1.outcome.granted then []
          else [.failed clear.hub.nextMark])
        (subscribe around id owner subscriber s).2

/-- Those who are told of something use the hub like everybody else: they make calls, unless it is
locked, and push events under the marks that watches have. -/
def Candid (around : Surroundings World Handler) : Prop :=
  ∀ handler notice s, ∃ history, Chronicle around s history (around.tell handler notice s).2

variable {around : Surroundings World Handler} {start s t : Station World Handler}
variable {past history during : List Occurrence} {hub : Hub Handler} {mark : Nat}
variable {event : WatchEvent}

theorem pushedUnder_append (mark : Nat) (past history : List Occurrence) :
    pushedUnder mark (past ++ history) = pushedUnder mark past ++ pushedUnder mark history :=
  List.filterMap_append ..

/-- A history tells of no event under a mark if it tells of none at all. -/
theorem pushedUnder_eq_nil (h : ∀ event, .pushed mark event ∉ history) :
    pushedUnder mark history = [] := by
  rw [pushedUnder, List.filterMap_eq_nil_iff]
  intro occurrence hmem
  cases occurrence with
  | pushed other event =>
    have hother : other ≠ mark := fun heq => h event (heq ▸ hmem)
    exact if_neg hother
  | failed other => rfl

/-- The history up to some point is silent if the whole of it is. -/
theorem Silent.of_append (h : Silent (past ++ history)) : Silent past := by
  intro mark hfailed
  have hnone := h mark (List.mem_append_left _ hfailed)
  rw [pushedUnder_append] at hnone
  exact (List.append_eq_nil_iff.mp hnone).1

theorem taken_alike (hub : Hub Handler) (mark : Nat) (event : WatchEvent) :
    Alike hub (hub.taken mark event) := by
  rw [taken]
  split
  · exact notified_alike hub _
  · exact .refl hub

/-! ## Chronicles are courses -/

namespace Chronicle

theorem trans (h : Chronicle around start past s) (h' : Chronicle around s history t) :
    Chronicle around start (past ++ history) t := by
  -- the later steps are put behind one by one; a start among them keeps a chronicle of its own
  induction h' with
  | rest =>
    rw [List.append_nil]
    exact h
  | aside _ hhub ih => exact .aside (ih h) hhub
  | push _ hissued htaken ih =>
    rw [← List.append_assoc]
    exact .push (ih h) hissued htaken
  | call _ hfree call hasks ih => exact .call (ih h) hfree call hasks
  | summon _ hfree hwatch hpoisoned hidle hclear hduring hreported ih _ =>
    rw [← List.append_assoc, ← List.append_assoc]
    exact .summon (ih h) hfree hwatch hpoisoned hidle hclear hduring hreported

theorem course (h : Chronicle around start history t) :
    ∃ deeds, Course around start deeds t := by
  induction h with
  | rest => exact ⟨[], .rest⟩
  | aside _ hhub ih =>
    obtain ⟨deeds, hcourse⟩ := ih
    exact ⟨deeds, .aside hcourse (hhub ▸ .refl _)⟩
  | push _ _ htaken ih =>
    obtain ⟨deeds, hcourse⟩ := ih
    exact ⟨deeds, .aside hcourse (htaken ▸ taken_alike ..)⟩
  | call _ hfree call _ ih =>
    obtain ⟨deeds, hcourse⟩ := ih
    exact ⟨_, .call hcourse hfree call⟩
  | @summon _ _ _ id owner subscriber _ _ _ _ hfree _ _ _ _ _ _ ih _ =>
    obtain ⟨deeds, hcourse⟩ := ih
    exact ⟨_, .call hcourse hfree (.subscribe id owner subscriber)⟩

theorem wired (h : Chronicle around start history t) (hquiet : Reticent around)
    (hempty : start.hub = .empty) : Wired around t.hub := by
  obtain ⟨deeds, hcourse⟩ := h.course
  exact hcourse.wired hquiet (hempty ▸ wired_empty)

theorem alike_of_locked (h : Chronicle around start history t) (hlocked : start.hub.Locked) :
    Alike start.hub t.hub := by
  obtain ⟨deeds, hcourse⟩ := h.course
  exact hcourse.alike_of_locked hlocked

end Chronicle

theorem Candid.lawful (hcandid : Candid around) : Lawful around := by
  intro handler notice s
  obtain ⟨history, h⟩ := hcandid handler notice s
  exact h.course

/-! ## Everything continues a chronicle -/

/-- With the way clear, a newcomer who waits for a watch locks the hub. -/
theorem opened_locked (around : Surroundings World Handler) (hnodup : s.hub.live.Nodup)
    (hfree : ¬ s.hub.Locked) (hpoisoned : s.hub.poisoned = false) {id : SubscriptionId}
    {subscriber : Subscriber Handler} :
    ((clearWay around s).2.hub.opened id subscriber).Locked := by
  have halike := clearWay_hub around hnodup hfree hpoisoned
  exact ⟨halike.running.trans (cancelled_running s.hub), Roster.entries_insert_ne_nil,
    halike.poisoned.trans ((cancelled_poisoned s.hub).trans hpoisoned)⟩

namespace Candid

theorem tellAll (hcandid : Candid around) (notice : Notice)
    (entries : List (SubscriptionId × Subscriber Handler)) (s : Station World Handler) :
    ∃ during, Chronicle around s during (Hub.tellAll around notice entries s).2 := by
  refine tellAll_keeps (P := fun t => ∃ during, Chronicle around s during t) ?_ ?_ notice entries
    ⟨[], .rest⟩
  · rintro subscriber notice t ⟨past, hpast⟩
    cases subscriber with
    | handler handler =>
      obtain ⟨during, hduring⟩ := hcandid handler notice t
      exact ⟨past ++ during, hpast.trans hduring⟩
    | channel number => exact ⟨past, .aside hpast rfl⟩
  · rintro event t ⟨past, hpast⟩
    exact ⟨past, .aside hpast rfl⟩

/-- A state of the connection is stored before anybody is told of it. -/
theorem route (hcandid : Candid around) (event : WatchEvent) (s : Station World Handler) :
    ∃ during, Chronicle around { s with hub := s.hub.notified (reported event) } during
      (Hub.route around event s).2 := by
  cases event with
  | update response =>
    rw [Hub.route]
    cases sourceOfUpdate response with
    | ok source => exact hcandid.tellAll _ _ s
    | error failure => exact ⟨[], .aside .rest rfl⟩
  | fault fault => exact ⟨[], .aside .rest rfl⟩
  | connection state => exact hcandid.tellAll _ _ _

/-- An event is pushed first, and then come those who are told of it. -/
theorem hear (hcandid : Candid around) (hissued : mark < s.hub.nextMark) (event : WatchEvent) :
    ∃ during, Chronicle around s (.pushed mark event :: during)
      (Hub.hear around mark event s).2 := by
  by_cases hlive : mark ∈ s.hub.live
  · have hpush : Chronicle around s [.pushed mark event]
        { s with hub := s.hub.notified (reported event) } :=
      .push .rest hissued (by rw [taken, if_pos hlive])
    obtain ⟨during, hduring⟩ := hcandid.route event s
    rw [hear_of_live hlive]
    exact ⟨during, hpush.trans hduring⟩
  · rw [hear_of_dead hlive]
    exact ⟨[], .push .rest hissued (by rw [taken, if_neg hlive])⟩

/-- While a start is going on, all that its watch reports is told in its order, among whatever else
is pushed meanwhile. -/
theorem hearAll (hcandid : Candid around) (hlocked : s.hub.Locked) (hissued : mark < s.hub.nextMark)
    (events : List WatchEvent) :
    ∃ during, Chronicle around s during (Hub.hearAll around mark events s).2 ∧
      (events.map (.pushed mark)).Sublist during := by
  induction events generalizing s with
  | nil => exact ⟨[], .rest, List.nil_sublist _⟩
  | cons event rest ih =>
    obtain ⟨first, hfirst⟩ := hcandid.hear hissued event
    -- the hub stays locked meanwhile, so the mark is still the last one that was issued
    have halike := hfirst.alike_of_locked hlocked
    obtain ⟨later, hlater, hreported⟩ := ih (halike.locked hlocked) (halike.nextMark ▸ hissued)
    refine ⟨.pushed mark event :: first ++ later, hfirst.trans hlater, ?_⟩
    exact (hreported.trans (List.sublist_append_right _ _)).cons_cons _

/-- A call continues a chronicle, whether or not it has a watch started. -/
theorem act (hcandid : Candid around) (hnodup : s.hub.live.Nodup) (hfree : ¬ s.hub.Locked)
    (call : Call Handler) : ∃ during, Chronicle around s during (call.act around s).2 := by
  by_cases hasks : call.Asks around s.hub
  · cases call with
    | subscribe id owner subscriber =>
      obtain ⟨hsome, hpoisoned, hidle⟩ := hasks
      obtain ⟨watch, hwatch⟩ := Option.isSome_iff_exists.mp hsome
      obtain ⟨clear, hclear⟩ : ∃ clear, (clearWay around s).2 = clear := ⟨_, rfl⟩
      have hlocked : (summoned watch id owner subscriber clear).hub.Locked :=
        hclear ▸ opened_locked around hnodup hfree hpoisoned
      -- whatever the watcher answers, its events are heard while the newcomer waits
      obtain ⟨during, hduring, hreported⟩ := hcandid.hearAll hlocked (Nat.lt_succ_self _)
        (attempt around watch id owner subscriber clear).1.events
      exact ⟨_, .summon .rest hfree hwatch hpoisoned hidle hclear hduring hreported⟩
    | unsubscribe id => exact hasks.elim
    | unsubscribeAll => exact hasks.elim
  · exact ⟨[], .call .rest hfree call hasks⟩

end Candid

/-! ## What a chronicle keeps -/

/-- How a hub stands to its history while the watch with some mark runs or is started, or none. -/
structure Tracked (history : List Occurrence) (current : Option Nat) (hub : Hub Handler) :
    Prop where
  issued : ∀ mark event, .pushed mark event ∈ history → mark < hub.nextMark
  live : ∀ mark, current = some mark → mark ∈ hub.live
  /-- Nothing else is listened to but what is left of failed starts. -/
  listened : ∀ mark ∈ hub.live, current = some mark ∨ .failed mark ∈ history
  connection : hub.connection =
    (current.bind fun mark => lastReport (pushedUnder mark history)).getD .disconnected

variable {current : Option Nat}

theorem tracked_empty : Tracked [] none (empty : Hub Handler) where
  issued := fun _ _ h => absurd h List.not_mem_nil
  live := fun _ h => nomatch h
  listened := fun _ h => absurd h List.not_mem_nil
  connection := rfl

/-- Neither the roster nor what runs has a part in it. -/
theorem Tracked.of_same {hub' : Hub Handler} (h : Tracked history current hub)
    (hlive : hub'.live = hub.live) (hnext : hub'.nextMark = hub.nextMark)
    (hconnection : hub'.connection = hub.connection) : Tracked history current hub' where
  issued := hnext ▸ h.issued
  live := hlive ▸ h.live
  listened := hlive ▸ h.listened
  connection := hconnection ▸ h.connection

/-- One event more is the last report of its own watch alone. An event of a watch that failed would
be listened to as well, but there is none. -/
theorem Tracked.pushed (h : Tracked history current hub) (hissued : mark < hub.nextMark)
    (hsilent : Silent (history ++ [.pushed mark event])) :
    Tracked (history ++ [.pushed mark event]) current (hub.taken mark event) := by
  have halike := taken_alike hub mark event
  have hunder : ∀ other, pushedUnder other (history ++ [.pushed mark event]) =
      pushedUnder other history ++ if mark = other then [event] else [] := by
    intro other
    rw [pushedUnder_append]
    by_cases hother : mark = other <;> simp [pushedUnder, hother]
  constructor
  · intro other event' hmem
    rw [halike.nextMark]
    rcases List.mem_append.mp hmem with hbefore | hlast
    · exact h.issued other event' hbefore
    · cases List.mem_singleton.mp hlast
      exact hissued
  · rw [halike.live]
    exact h.live
  · intro other hother
    rw [halike.live] at hother
    exact (h.listened other hother).imp_right (List.mem_append_left _)
  · by_cases hlive : mark ∈ hub.live
    · -- what is listened to is of the current watch, since those that failed are silent
      have hcurrent : current = some mark := by
        refine (h.listened mark hlive).resolve_right fun hfailed => ?_
        have hnone := hsilent mark (List.mem_append_left _ hfailed)
        rw [hunder, if_pos rfl] at hnone
        exact absurd hnone (by simp)
      have hbefore := h.connection
      rw [hcurrent, Option.bind_some] at hbefore ⊢
      rw [taken, if_pos hlive, hunder, if_pos rfl, lastReport_concat]
      show (reported event).getD hub.connection = _
      rw [hbefore]
      cases reported event <;> rfl
    · -- the current watch is listened to, so this is another one
      rw [taken, if_neg hlive, h.connection]
      cases hcurrent : current with
      | none => rfl
      | some other =>
        have hother : mark ≠ other := fun heq => hlive (heq ▸ h.live other hcurrent)
        rw [Option.bind_some, Option.bind_some, hunder, if_neg hother, List.append_nil]

/-- Without a watch, the note says that there is no connection. -/
theorem Tracked.stopped (h : Tracked history (hub.running.map Watch.mark) hub)
    (hnodup : hub.live.Nodup) : Tracked history none hub.stopped := by
  refine ⟨?_, nofun, ?_, rfl⟩
  · intro mark event hmem
    exact Nat.lt_of_lt_of_eq (h.issued mark event hmem) (cancelled_nextMark hub).symm
  · intro mark hmark
    rcases h.listened mark (mem_cancelled_live hmark) with hcurrent | hfailed
    · -- the mark of the running watch is the one that is not listened to any more
      obtain ⟨watch, hrunning, rfl⟩ := Option.map_eq_some_iff.mp hcurrent
      have hgone : watch.mark ∉ hub.stopped.live := by
        rw [Hub.stopped, cancelled_of_some hrunning]
        exact hnodup.not_mem_erase
      exact absurd hmark hgone
    · exact .inr hfailed

/-- A watch that is asked for has reported nothing yet. -/
theorem Tracked.opened (h : Tracked history none hub) (id : SubscriptionId)
    (subscriber : Subscriber Handler) :
    Tracked history (some hub.nextMark) (hub.opened id subscriber) := by
  -- the mark is new, and nothing can be pushed before it is issued
  have hnew : pushedUnder hub.nextMark history = [] :=
    pushedUnder_eq_nil fun event hmem => Nat.lt_irrefl _ (h.issued _ event hmem)
  refine ⟨?_, ?_, ?_, ?_⟩
  · intro mark event hmem
    exact Nat.lt_succ_of_lt (h.issued mark event hmem)
  · rintro mark ⟨⟩
    exact List.mem_cons_self
  · intro mark hmark
    rcases List.mem_cons.mp hmark with rfl | hbefore
    · exact .inl rfl
    · exact .inr ((h.listened mark hbefore).resolve_left nofun)
  · rw [Option.bind_some, hnew]
    exact h.connection

/-- A start that failed leaves the note as it was, if nothing was heard of it. -/
theorem Tracked.failed (h : Tracked history (some mark) hub)
    (hsilent : Silent (history ++ [.failed mark])) :
    Tracked (history ++ [.failed mark]) none hub := by
  have hnone : pushedUnder mark history = [] := by
    have hall := hsilent mark (List.mem_append_right _ (List.mem_singleton_self _))
    rw [pushedUnder_append] at hall
    exact (List.append_eq_nil_iff.mp hall).1
  refine ⟨?_, nofun, ?_, ?_⟩
  · intro other event hmem
    exact h.issued other event ((List.mem_append.mp hmem).resolve_right (by simp))
  · intro other hother
    rcases h.listened other hother with hcurrent | hfailed
    · -- nobody stops listening to the watch that failed
      cases hcurrent
      exact .inr (List.mem_append_right _ (List.mem_singleton_self _))
    · exact .inr (List.mem_append_left _ hfailed)
  · rw [h.connection, Option.bind_some, hnone]
    rfl

/-- A call that has no watch started stops the running one, or leaves it alone. -/
theorem Tracked.turned {call : Call Handler} {answer : Option (Except WatchFault Unit)}
    {hub' : Hub Handler} (h : Tracked history (hub.running.map Watch.mark) hub)
    (hturn : Turn around hub call answer hub') (hnodup : hub.live.Nodup)
    (hasks : ¬ call.Asks around hub) : Tracked history (hub'.running.map Watch.mark) hub' := by
  have hstopped : ∀ roster : Roster (Subscriber Handler),
      Tracked history ({ hub with roster }.stopped.running.map Watch.mark)
        { hub with roster }.stopped := by
    intro roster
    have hnone : ({ hub with roster } : Hub Handler).stopped.running = none := cancelled_running _
    have hsame : Tracked history (hub.running.map Watch.mark) { hub with roster } :=
      h.of_same rfl rfl rfl
    rw [hnone]
    exact hsame.stopped hnodup
  cases hturn with
  | unavailable hwatch => exact h
  | poisoned hpoisoned => exact h
  | joined hrunning => exact h.of_same rfl rfl rfl
  | started hwatch hpoisoned hidle hopened => exact absurd ⟨hwatch, hpoisoned, hidle⟩ hasks
  | refused hwatch hpoisoned hidle hopened => exact absurd ⟨hwatch, hpoisoned, hidle⟩ hasks
  | crashed hwatch hpoisoned hidle hopened => exact absurd ⟨hwatch, hpoisoned, hidle⟩ hasks
  | left hpoisoned hleft => exact h.of_same rfl rfl rfl
  | emptied hpoisoned hlast => exact hstopped .empty
  | cleared hpoisoned => exact hstopped .empty

/-- With the way clear for a new watch, no watch runs. -/
theorem Tracked.clearWay (h : Tracked history (s.hub.running.map Watch.mark) s.hub)
    (hnodup : s.hub.live.Nodup) : Tracked history none (Hub.clearWay around s).2.hub := by
  cases hrunning : s.hub.running with
  | none =>
    rw [hrunning] at h
    rw [clearWay_of_none hrunning]
    exact h
  | some watch =>
    rw [clearWay_of_some hrunning hnodup]
    exact (h.stopped hnodup).of_same rfl rfl rfl

namespace Chronicle

/-- While a start is going on, the watch that is asked for is the one that counts. -/
theorem tracked_of_locked (h : Chronicle around start during t) (hlocked : start.hub.Locked)
    (htracked : Tracked past current start.hub) (hsilent : Silent (past ++ during)) :
    Tracked (past ++ during) current t.hub := by
  induction h with
  | rest =>
    rw [List.append_nil]
    exact htracked
  | aside _ hhub ih =>
    rw [hhub]
    exact ih hlocked htracked hsilent
  | push _ hissued htaken ih =>
    rw [← List.append_assoc] at hsilent ⊢
    rw [htaken]
    exact (ih hlocked htracked hsilent.of_append).pushed hissued hsilent
  -- no call can be made as long as the hub waits for its watch
  | call h hfree => exact absurd ((h.alike_of_locked hlocked).locked hlocked) hfree
  | summon h hfree => exact absurd ((h.alike_of_locked hlocked).locked hlocked) hfree

/-- Otherwise it is the running watch. -/
theorem tracked (h : Chronicle around start history t) (hquiet : Reticent around)
    (hempty : start.hub = .empty) (hsilent : Silent history) :
    Tracked history (t.hub.running.map Watch.mark) t.hub := by
  induction h with
  | rest =>
    rw [hempty]
    exact tracked_empty
  | aside _ hhub ih =>
    rw [hhub]
    exact ih hempty hsilent
  | push _ hissued htaken ih =>
    rw [htaken, (taken_alike ..).running]
    exact (ih hempty hsilent.of_append).pushed hissued hsilent
  | call h hfree call hasks ih =>
    -- a call leaves nothing behind in the history, so the note must be right by what is stopped
    have hnodup := (h.wired hquiet hempty).nodup
    exact (ih hempty hsilent).turned (call.act_turn hquiet hnodup hfree) hnodup hasks
  | @summon start history s id owner subscriber watch clear during h hfree hwatch hpoisoned hidle
      hclear hduring hreported ih _ =>
    have hnodup := (h.wired hquiet hempty).nodup
    have hlocked : (summoned watch id owner subscriber clear).hub.Locked :=
      hclear ▸ opened_locked around hnodup hfree hpoisoned
    have hnone := hsilent.of_append
    have hbefore : Tracked history none clear.hub :=
      hclear ▸ (ih hempty hnone.of_append).clearWay hnodup
    -- the chronicle of the start is not one of a new hub, but one of a hub that is locked
    have hafter := hduring.tracked_of_locked hlocked (hbefore.opened id subscriber) hnone
    have hrunning : (attempt around watch id owner subscriber clear).2.hub.running = none :=
      ((hduring.alike_of_locked hlocked).locked hlocked).1
    rw [subscribe_fresh hwatch hpoisoned hidle, hclear, start_eq]
    generalize attempt around watch id owner subscriber clear = attempted at *
    obtain ⟨⟨events, outcome⟩, after⟩ := attempted
    -- the watch that counted during the start is the running one, or it has failed
    cases outcome with
    | started =>
      show Tracked (history ++ during ++ []) (some clear.hub.nextMark) _
      rw [List.append_nil]
      exact hafter.of_same rfl rfl rfl
    | refused fault =>
      show Tracked _ (after.hub.running.map Watch.mark) _
      rw [hrunning]
      exact (hafter.failed hsilent).of_same rfl rfl rfl
    | crashed =>
      show Tracked _ (after.hub.running.map Watch.mark) _
      rw [hrunning]
      exact (hafter.failed hsilent).of_same rfl rfl rfl

/-- No chronicle of a new hub ends in the middle of a start. -/
theorem free (h : Chronicle around start history t) (hquiet : Reticent around)
    (hempty : start.hub = .empty) : ¬ t.hub.Locked := by
  induction h with
  | rest =>
    rw [hempty]
    exact not_locked_empty
  | aside _ hhub ih =>
    rw [hhub]
    exact ih hempty
  | push _ _ htaken ih =>
    rw [htaken]
    exact fun hlocked => ih hempty ((taken_alike ..).symm.locked hlocked)
  | call h hfree call _ _ =>
    exact (call.act_turn hquiet (h.wired hquiet hempty).nodup hfree).free hfree
  | summon h hfree _ _ _ _ _ _ _ _ =>
    exact (subscribe_turn hquiet (h.wired hquiet hempty).nodup hfree).free hfree

end Chronicle

/-! ## Where nobody calls back -/

/-- Those who are told of something leave the hub alone. -/
def Passive (around : Surroundings World Handler) : Prop :=
  ∀ handler notice s, (around.tell handler notice s).2.hub = s.hub

/-- What there is to tell of a call if nobody calls back: what its watch reports in the course of
the start, and whether the start fails. -/
inductive Call.Tells (around : Surroundings World Handler) (s : Station World Handler) :
    Call Handler → List Occurrence → Prop where
  | nothing {call} (hasks : ¬ call.Asks around s.hub) : Tells around s call []
  | start {id owner subscriber watch answer} (hwatch : around.watch = some watch)
      (hpoisoned : s.hub.poisoned = false) (hidle : s.hub.Idle owner)
      (hasked : asked around watch owner s = answer) :
      Tells around s (.subscribe id owner subscriber)
        (answer.events.map (.pushed s.hub.nextMark) ++
          if answer.outcome.granted then [] else [.failed s.hub.nextMark])

namespace Passive

theorem candid (hpassive : Passive around) : Candid around :=
  fun handler notice s => ⟨[], .aside .rest (hpassive handler notice s)⟩

theorem hear_hub (hpassive : Passive around) (mark : Nat) (event : WatchEvent)
    (s : Station World Handler) :
    (Hub.hear around mark event s).2.hub = s.hub.taken mark event := by
  by_cases hlive : mark ∈ s.hub.live
  · rw [hear_of_live hlive, taken, if_pos hlive]
    exact route_hub (calm_of_tell_hub hpassive s.hub) event
  · rw [hear_of_dead hlive, taken, if_neg hlive]

theorem hear (hpassive : Passive around) (hissued : mark < s.hub.nextMark) (event : WatchEvent) :
    Chronicle around s [.pushed mark event] (Hub.hear around mark event s).2 :=
  .push .rest hissued (hpassive.hear_hub mark event s)

theorem hearAll (hpassive : Passive around) (hissued : mark < s.hub.nextMark)
    (events : List WatchEvent) :
    Chronicle around s (events.map (.pushed mark)) (Hub.hearAll around mark events s).2 := by
  induction events generalizing s with
  | nil => exact .rest
  | cons event rest ih =>
    have hmark : (Hub.hear around mark event s).2.hub.nextMark = s.hub.nextMark := by
      rw [hpassive.hear_hub]
      exact (taken_alike ..).nextMark
    exact (hpassive.hear hissued event).trans (ih (hmark ▸ hissued))

theorem act (hpassive : Passive around) (hnodup : s.hub.live.Nodup) (hfree : ¬ s.hub.Locked)
    {call : Call Handler} (htells : call.Tells around s during) :
    Chronicle around s during (call.act around s).2 := by
  cases htells with
  | nothing hasks => exact .call .rest hfree call hasks
  | @start id owner subscriber watch answer hwatch hpoisoned hidle hasked =>
    have hmark := clearWay_nextMark around hnodup hfree hpoisoned
    have hanswer : (attempt around watch id owner subscriber (clearWay around s).2).1 = answer := by
      rw [← hasked, asked, ← hmark]
      rfl
    rw [← hmark, ← hanswer]
    exact .summon .rest hfree hwatch hpoisoned hidle rfl
      (hpassive.hearAll (Nat.lt_succ_self _) _) (.refl _)

end Passive

/-! ## The running watch -/

/-- At whatever point of a run, if no watch pushes an event whose start fails: the connection is as
the running watch reported it last, be it in the course of its start, and `disconnected` if it has
reported nothing yet or no watch runs. A mark is issued when its watch is started, so whatever was
pushed under the mark of the running watch was pushed since then. The run goes on with every event
under a mark that was issued, of whichever watch, and with every call; and if nobody calls back,
nothing else comes into its history but this event, or the reports of the watch that is started. -/
theorem connection_of_running (hcandid : Candid around) (hempty : start.hub = .empty)
    (hchronicle : Chronicle around start history t) (hsilent : Silent history) :
    (t.hub.running = none → t.hub.connection = .disconnected) ∧
    (∀ current, t.hub.running = some current →
      t.hub.connection =
        (lastReport (pushedUnder current.mark history)).getD .disconnected) ∧
    (∀ mark event, mark < t.hub.nextMark → ∃ during,
      Chronicle around start (history ++ .pushed mark event :: during)
        (hear around mark event t).2) ∧
    (∀ call : Call Handler, ∃ during,
      Chronicle around start (history ++ during) (call.act around t).2) ∧
    (Passive around →
      (∀ mark event, mark < t.hub.nextMark →
        Chronicle around start (history ++ [.pushed mark event]) (hear around mark event t).2) ∧
      ∀ (call : Call Handler) during, call.Tells around t during →
        Chronicle around start (history ++ during) (call.act around t).2) := by
  have hquiet := hcandid.lawful.reticent
  have htracked := hchronicle.tracked hquiet hempty hsilent
  have hnodup := (hchronicle.wired hquiet hempty).nodup
  have hfree := hchronicle.free hquiet hempty
  refine ⟨?_, ?_, ?_, ?_, ?_⟩
  · intro hrunning
    have hconnection := htracked.connection
    rw [hrunning] at hconnection
    exact hconnection
  · intro current hrunning
    have hconnection := htracked.connection
    rw [hrunning] at hconnection
    exact hconnection
  · intro mark event hissued
    obtain ⟨during, hduring⟩ := hcandid.hear hissued event
    exact ⟨during, hchronicle.trans hduring⟩
  · intro call
    obtain ⟨during, hduring⟩ := hcandid.act hnodup hfree call
    exact ⟨during, hchronicle.trans hduring⟩
  · intro hpassive
    constructor
    · intro mark event hissued
      exact hchronicle.trans (hpassive.hear hissued event)
    · intro call during htells
      exact hchronicle.trans (hpassive.act hnodup hfree htells)

/-- A watcher that connects when it is asked, but refuses the second time. A watch that is cancelled
reports that it is connected all the same. -/
def wavering : Surroundings Nat Unit where
  watch := some fun _ _ asked =>
    if asked = 1 then (⟨[], .refused .unavailable⟩, 2)
    else (⟨[.connection .connected], .started⟩, asked + 1)
  cancel := fun _ => pure [.connection .connected]
  audit := fun _ => pure ()
  tell := fun _ _ => pure none

/-- A hub with a watch for its first subscriber, -/
def connectedOnce : Station Nat Unit :=
  (subscribe wavering ⟨"a"⟩ "first" (.handler ()) ⟨.empty, [], 0⟩).2

/-- without one after another owner was refused, -/
def disconnectedSince : Station Nat Unit :=
  (subscribe wavering ⟨"b"⟩ "second" (.handler ()) connectedOnce).2

/-- and with another watch for someone who came later. -/
def connectedAgain : Station Nat Unit :=
  (subscribe wavering ⟨"c"⟩ "first" (.handler ()) disconnectedSince).2

/-- What is pushed and refused meanwhile, and long after the first watch was stopped. -/
def vicissitudes : List Occurrence :=
  [.pushed 0 (.connection .connected), .failed 1, .pushed 2 (.connection .connected),
    .pushed 0 (.connection .disconnected)]

theorem connection_of_running_again :
    Candid wavering ∧ Silent vicissitudes ∧
      Chronicle wavering ⟨.empty, [], 0⟩ vicissitudes
        (hear wavering 0 (.connection .disconnected) connectedAgain).2 ∧
      disconnectedSince.hub.connection = .disconnected ∧
      (hear wavering 0 (.connection .disconnected) connectedAgain).2.hub.connection =
        (lastReport (pushedUnder 2 vicissitudes)).getD .disconnected ∧
      lastReport (pushedUnder 2 vicissitudes) = some .connected := by
  have hpassive : Passive wavering := fun _ _ _ => rfl
  have hsilent : Silent vicissitudes := by
    intro mark hfailed
    obtain rfl : mark = 1 := by simpa [vicissitudes] using hfailed
    rfl
  have hquiet : Reticent wavering := hpassive.candid.lawful.reticent
  have hcall : ∀ {history s} (call : Call Unit) {during},
      Chronicle wavering ⟨.empty, [], 0⟩ history s → call.Tells wavering s during →
        Chronicle wavering ⟨.empty, [], 0⟩ (history ++ during) (call.act wavering s).2 := by
    intro history s call during h htells
    exact h.trans (hpassive.act (h.wired hquiet rfl).nodup (h.free hquiet rfl) htells)
  have hfirst : Chronicle wavering ⟨.empty, [], 0⟩ (vicissitudes.take 1) connectedOnce :=
    hcall (.subscribe ⟨"a"⟩ "first" (.handler ())) .rest
      (.start rfl rfl (fun _ h => by cases h)
        (show _ = StartAnswer.mk [.connection .connected] .started from rfl))
  have hrefused : Chronicle wavering ⟨.empty, [], 0⟩ (vicissitudes.take 2) disconnectedSince :=
    hcall (.subscribe ⟨"b"⟩ "second" (.handler ())) hfirst
      (.start rfl rfl (by rintro _ ⟨⟩; decide)
        (show _ = StartAnswer.mk [] (.refused .unavailable) from rfl))
  have hsecond : Chronicle wavering ⟨.empty, [], 0⟩ (vicissitudes.take 3) connectedAgain :=
    hcall (.subscribe ⟨"c"⟩ "first" (.handler ())) hrefused
      (.start rfl rfl (fun _ h => by cases h)
        (show _ = StartAnswer.mk [.connection .connected] .started from rfl))
  -- the first watch was stopped long ago, so nobody listens to what it says now
  have hlate : Chronicle wavering ⟨.empty, [], 0⟩ vicissitudes
      (hear wavering 0 (.connection .disconnected) connectedAgain).2 :=
    hsecond.trans (hpassive.hear (by decide) _)
  have hrunning : (hear wavering 0 (.connection .disconnected) connectedAgain).2.hub.running =
      some ⟨"first", 2⟩ := rfl
  obtain ⟨-, hconnection, -⟩ := connection_of_running hpassive.candid rfl hlate hsilent
  exact ⟨hpassive.candid, hsilent, hlate, rfl, hconnection _ hrunning, rfl⟩

end CardService.Subscription.Hub
