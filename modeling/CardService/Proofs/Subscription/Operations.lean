import CardService.Proofs.Subscription.Roster
import CardService.Subscription.Hub

/-!
# CardService — what each action of a hub does

One law for each action, so that nothing further down has to open the actions themselves.

* An event that arrives under a mark that is not `live` changes nothing (`hear_of_dead`).
* What the hub does while it tells subscribers keeps every property that telling, writing down and
  a change of the connection keep (`Kept.hearAll`).
* Stopping a watch is a change of the hub's state only, whatever the cancelled watch still reports
  (`stop_hub`).
* A subscriber who needs a new watch is alone on the roster when the watch is asked to start
  (`subscribe_fresh`, `clearWay_hub`).
-/

namespace CardService.Subscription.Hub

variable {World Handler : Type} {around : Surroundings World Handler}
variable {s : Station World Handler}

/-! ## Running actions -/

theorem bind_run {α β : Type} (act : Action World Handler α) (next : α → Action World Handler β)
    (s : Station World Handler) : (act >>= next) s = next (act s).1 (act s).2 := rfl

theorem pure_run {α : Type} (a : α) (s : Station World Handler) :
    (pure a : Action World Handler α) s = (a, s) := rfl

theorem get_run (s : Station World Handler) :
    (get : Action World Handler (Station World Handler)) s = (s, s) := rfl

theorem adjust_run (f : Hub Handler → Hub Handler) (s : Station World Handler) :
    adjust f s = ((), { s with hub := f s.hub }) := rfl

theorem outside_run {α : Type} (act : StateM World α) (s : Station World Handler) :
    outside act s = ((act s.world).1, { s with world := (act s.world).2 }) := rfl

theorem ite_run {α : Type} (c : Prop) [Decidable c] (act other : Action World Handler α)
    (s : Station World Handler) :
    (if c then act else other) s = if c then act s else other s := by
  split <;> rfl

/-! ## Telling subscribers -/

/-- Telling several subscribers keeps what telling one and writing a failure down keep. -/
theorem tellAll_keeps {P : Station World Handler → Prop}
    (htold : ∀ subscriber notice s, P s → P (tell around subscriber notice s).2)
    (hnoted : ∀ event s, P s → P (outside (around.audit event) s).2) (notice : Notice)
    (entries : List (SubscriptionId × Subscriber Handler)) (h : P s) :
    P (tellAll around notice entries s).2 := by
  induction entries generalizing s with
  | nil => exact h
  | cons entry rest ih =>
    obtain ⟨id, subscriber⟩ := entry
    have htold' := htold subscriber notice s h
    rw [tellAll, bind_run]
    cases (tell around subscriber notice s).1 with
    | none => exact ih htold'
    | some message => exact ih (hnoted _ _ htold')

/-- A property of stations that telling a subscriber, writing an event down and a change of the
connection keep. -/
structure Kept (around : Surroundings World Handler) (P : Station World Handler → Prop) :
    Prop where
  told : ∀ subscriber notice s, P s → P (tell around subscriber notice s).2
  noted : ∀ event s, P s → P (outside (around.audit event) s).2
  connected : ∀ state s, P s → P { s with hub := { s.hub with connection := state } }

namespace Kept

variable {P : Station World Handler → Prop}

theorem tellAll (hkept : Kept around P) (notice : Notice)
    (entries : List (SubscriptionId × Subscriber Handler)) (h : P s) :
    P (Hub.tellAll around notice entries s).2 :=
  tellAll_keeps hkept.told hkept.noted notice entries h

theorem route (hkept : Kept around P) (event : WatchEvent) (h : P s) :
    P (Hub.route around event s).2 := by
  cases event with
  | update response =>
    rw [Hub.route]
    cases sourceOfUpdate response with
    | ok source => exact hkept.tellAll _ _ h
    | error failure => exact hkept.noted _ _ h
  | fault fault => exact hkept.noted _ _ h
  | connection state => exact hkept.tellAll _ _ (hkept.connected state _ h)

theorem hear (hkept : Kept around P) (mark : Nat) (event : WatchEvent) (h : P s) :
    P (Hub.hear around mark event s).2 := by
  rw [Hub.hear, bind_run, get_run]
  split
  · exact hkept.route event h
  · exact h

theorem hearAll (hkept : Kept around P) (mark : Nat) (events : List WatchEvent) (h : P s) :
    P (Hub.hearAll around mark events s).2 := by
  induction events generalizing s with
  | nil => exact h
  | cons event rest ih => exact ih (hkept.hear mark event h)

end Kept

/-! ## Listening -/

/-- An event under a mark that is listened to is acted upon. -/
theorem hear_of_live {mark : Nat} (h : mark ∈ s.hub.live) (event : WatchEvent) :
    hear around mark event s = route around event s := by
  rw [hear, bind_run, get_run, if_pos (List.contains_iff_mem.mpr h)]

/-- An event under a mark that nobody listens to changes nothing: nobody is told, nothing is
written down, and the connection stays as it is. -/
theorem hear_of_dead {mark : Nat} (h : mark ∉ s.hub.live) (event : WatchEvent) :
    hear around mark event s = ((), s) := by
  rw [hear, bind_run, get_run, if_neg (by simpa using h), pure_run]

theorem hearAll_of_dead {mark : Nat} (h : mark ∉ s.hub.live) (events : List WatchEvent) :
    hearAll around mark events s = ((), s) := by
  induction events with
  | nil => rfl
  | cons event rest ih => rw [hearAll, bind_run, hear_of_dead h, ih]

/-! ## Hubs that are alike -/

/-- A watch does not both run and not run. -/
theorem running_absurd {hub : Hub Handler} {current : Watch} {P : Prop}
    (hnone : hub.running = none) (hsome : hub.running = some current) : P := by
  rw [hnone] at hsome
  cases hsome

/-- Hubs that differ in their connection at most. -/
structure Alike (hub hub' : Hub Handler) : Prop where
  roster : hub'.roster = hub.roster
  running : hub'.running = hub.running
  live : hub'.live = hub.live
  nextMark : hub'.nextMark = hub.nextMark
  poisoned : hub'.poisoned = hub.poisoned

theorem Alike.refl (hub : Hub Handler) : Alike hub hub := ⟨rfl, rfl, rfl, rfl, rfl⟩

theorem Alike.trans {hub₁ hub₂ hub₃ : Hub Handler} (h : Alike hub₁ hub₂) (h' : Alike hub₂ hub₃) :
    Alike hub₁ hub₃ where
  roster := h'.roster.trans h.roster
  running := h'.running.trans h.running
  live := h'.live.trans h.live
  nextMark := h'.nextMark.trans h.nextMark
  poisoned := h'.poisoned.trans h.poisoned

theorem Alike.symm {hub hub' : Hub Handler} (h : Alike hub hub') : Alike hub' hub where
  roster := h.roster.symm
  running := h.running.symm
  live := h.live.symm
  nextMark := h.nextMark.symm
  poisoned := h.poisoned.symm

/-- A hub in the middle of a start: someone is registered, and no watch runs yet. Calls wait until
the start is over. A hub that was given up with subscribers is left like that for good. -/
def Locked (hub : Hub Handler) : Prop :=
  hub.running = none ∧ hub.roster.entries ≠ [] ∧ hub.poisoned = false

/-- A new hub is open for calls. -/
theorem not_locked_empty : ¬ (empty : Hub Handler).Locked := fun hlocked => hlocked.2.1 rfl

/-- Where a watch runs, the hub is not locked. -/
theorem not_locked_of_running {hub : Hub Handler} {current : Watch}
    (hrunning : hub.running = some current) : ¬ hub.Locked :=
  fun hlocked => running_absurd hlocked.1 hrunning

theorem Alike.locked {hub hub' : Hub Handler} (h : Alike hub hub') (hlocked : hub.Locked) :
    hub'.Locked := by
  obtain ⟨hrunning, hentries, hpoisoned⟩ := hlocked
  exact ⟨h.running ▸ hrunning, h.roster ▸ hentries, h.poisoned ▸ hpoisoned⟩

/-- Those who are told of something while the hub is locked change nothing of it but the connection,
since a call of theirs would wait for ever. -/
def Reticent (around : Surroundings World Handler) : Prop :=
  ∀ handler notice (s : Station World Handler), s.hub.Locked →
    Alike s.hub (around.tell handler notice s).2.hub

/-- What a locked hub hears changes nothing of it but the connection. -/
theorem hearAll_alike (hquiet : Reticent around) (hlocked : s.hub.Locked) (mark : Nat)
    (events : List WatchEvent) : Alike s.hub (hearAll around mark events s).2.hub := by
  have hkept : Kept around fun t => Alike s.hub t.hub :=
    { told := by
        intro subscriber notice t h
        cases subscriber with
        | handler handler => exact h.trans (hquiet handler notice t (h.locked hlocked))
        | channel number => exact h
      noted := fun _ _ h => h
      connected := fun _ _ h => ⟨h.roster, h.running, h.live, h.nextMark, h.poisoned⟩ }
  exact hkept.hearAll mark events (.refl s.hub)

/-! ## Stopping -/

/-- A hub whose running watch is no longer listened to. -/
def cancelled (hub : Hub Handler) : Hub Handler :=
  match hub.running with
  | none => hub
  | some watch => { hub with running := none, live := hub.live.erase watch.mark }

/-- A hub without a watch. -/
def stopped (hub : Hub Handler) : Hub Handler :=
  { hub.cancelled with connection := .disconnected }

theorem cancelled_of_none {hub : Hub Handler} (h : hub.running = none) : hub.cancelled = hub := by
  rw [cancelled, h]

theorem cancelled_of_some {hub : Hub Handler} {watch : Watch} (h : hub.running = some watch) :
    hub.cancelled = { hub with running := none, live := hub.live.erase watch.mark } := by
  rw [cancelled, h]

theorem cancelled_running (hub : Hub Handler) : hub.cancelled.running = none := by
  rw [cancelled]
  split
  · assumption
  · rfl

theorem cancelled_roster (hub : Hub Handler) : hub.cancelled.roster = hub.roster := by
  rw [cancelled]
  split <;> rfl

theorem cancelled_nextMark (hub : Hub Handler) : hub.cancelled.nextMark = hub.nextMark := by
  rw [cancelled]
  split <;> rfl

theorem cancelled_poisoned (hub : Hub Handler) : hub.cancelled.poisoned = hub.poisoned := by
  rw [cancelled]
  split <;> rfl

/-- Whatever a watch reports while it is cancelled comes too late. -/
theorem cancelRunning_of_some {watch : Watch} (hrunning : s.hub.running = some watch)
    (hnodup : s.hub.live.Nodup) :
    cancelRunning around s =
      ((), { s with hub := s.hub.cancelled, world := (around.cancel watch.mark s.world).2 }) := by
  rw [cancelRunning, bind_run, get_run, cancelled_of_some hrunning]
  simp only [hrunning, bind_run, adjust_run, outside_run]
  -- the mark was taken off the list before the watch is cancelled, and stood on it only once
  exact hearAll_of_dead hnodup.not_mem_erase _

theorem cancelRunning_of_none (hrunning : s.hub.running = none) :
    cancelRunning around s = ((), s) := by
  rw [cancelRunning, bind_run, get_run]
  simp only [hrunning, pure_run]

theorem cancelRunning_hub (hnodup : s.hub.live.Nodup) :
    (cancelRunning around s).2.hub = s.hub.cancelled := by
  cases hrunning : s.hub.running with
  | none => rw [cancelRunning_of_none hrunning, cancelled_of_none hrunning]
  | some watch => rw [cancelRunning_of_some hrunning hnodup]

theorem stop_hub (hnodup : s.hub.live.Nodup) : (stop around s).2.hub = s.hub.stopped := by
  rw [stop, bind_run, adjust_run, stopped, ← cancelRunning_hub hnodup]

/-- Giving a hub up cancels its watch. -/
theorem release_hub (hnodup : s.hub.live.Nodup) :
    (release around s).2.hub = if s.hub.poisoned then s.hub else s.hub.cancelled := by
  rw [release, bind_run, get_run]
  split
  · rfl
  · exact cancelRunning_hub hnodup

/-! ## Starting -/

/-- The notes about dropped subscribers are all that dropping them does to the world. -/
theorem dropAll_hub (previous : String) :
    (dropAll around previous s).2.hub = { s.hub with roster := .empty } := by
  have hnotes : ∀ (ids : List SubscriptionId) (t : Station World Handler),
      (dropAll.noteAll around previous ids t).2.hub = t.hub := by
    intro ids
    induction ids with
    | nil => intro t; rfl
    | cons id rest ih => intro t; exact ih _
  rw [dropAll, bind_run, get_run, bind_run, adjust_run, hnotes]

/-- Makes way for the watch of another owner: the running watch is stopped, and its subscribers are
dropped. -/
def clearWay (around : Surroundings World Handler) : Action World Handler Unit := do
  match (← get).hub.running with
  | none => pure ()
  | some current => do
    stop around
    dropAll around current.owner

theorem clearWay_of_none (hrunning : s.hub.running = none) : clearWay around s = ((), s) := by
  rw [clearWay, bind_run, get_run]
  simp only [hrunning, pure_run]

theorem clearWay_of_some {watch : Watch} (hrunning : s.hub.running = some watch)
    (hnodup : s.hub.live.Nodup) :
    (clearWay around s).2.hub = { s.hub.stopped with roster := .empty } := by
  rw [clearWay, bind_run, get_run]
  simp only [hrunning, bind_run]
  rw [dropAll_hub, stop_hub hnodup]

/-- With the way clear, no watch runs and nobody is registered. -/
theorem clearWay_hub (around : Surroundings World Handler) (hnodup : s.hub.live.Nodup)
    (hfree : ¬ s.hub.Locked) (hpoisoned : s.hub.poisoned = false) :
    Alike { s.hub.stopped with roster := .empty } (clearWay around s).2.hub := by
  cases hrunning : s.hub.running with
  | some watch =>
    rw [clearWay_of_some hrunning hnodup]
    exact .refl _
  | none =>
    -- nobody waits for a watch that does not run
    have hempty : s.hub.roster = .empty :=
      Roster.eq_empty (Classical.not_not.mp fun hentries => hfree ⟨hrunning, hentries, hpoisoned⟩)
    rw [clearWay_of_none hrunning, stopped, cancelled_of_none hrunning]
    exact ⟨hempty, rfl, rfl, rfl, rfl⟩

/-- The next watch gets the same mark, whether or not way had to be made for it. -/
theorem clearWay_nextMark (around : Surroundings World Handler) (hnodup : s.hub.live.Nodup)
    (hfree : ¬ s.hub.Locked) (hpoisoned : s.hub.poisoned = false) :
    (clearWay around s).2.hub.nextMark = s.hub.nextMark :=
  (clearWay_hub around hnodup hfree hpoisoned).nextMark.trans (cancelled_nextMark s.hub)

/-- A hub with a new mark, under which a first subscriber waits for the watch. -/
def opened (hub : Hub Handler) (id : SubscriptionId) (subscriber : Subscriber Handler) :
    Hub Handler :=
  { hub with
    roster := hub.roster.insert id subscriber
    live := hub.nextMark :: hub.live
    nextMark := hub.nextMark + 1 }

/-- What a watcher answers when it is asked to start a watch, and the station after its first events
were heard. -/
def attempt (around : Surroundings World Handler)
    (watch : Nat → Backend.Request → StateM World StartAnswer) (id : SubscriptionId)
    (owner : String) (subscriber : Subscriber Handler) : Action World Handler StartAnswer := do
  let mark := (← get).hub.nextMark
  adjust fun hub => hub.opened id subscriber
  let answer ← outside (watch mark (watchRequest owner))
  hearAll around mark answer.events
  return answer

/-- How an attempt to start a watch ends. -/
def conclude (id : SubscriptionId) (watch : Watch) :
    StartOutcome → Action World Handler (Option (Except WatchFault Unit))
  | .started => do
    adjust fun hub => { hub with running := some watch }
    return some (.ok ())
  | .refused fault => do
    adjust fun hub => { hub with roster := hub.roster.erase id }
    return some (.error fault)
  | .crashed => do
    adjust fun hub => { hub with poisoned := true }
    return none

variable {watch : Nat → Backend.Request → StateM World StartAnswer}
variable {id : SubscriptionId} {owner : String} {subscriber : Subscriber Handler}

theorem start_eq :
    start around watch id owner subscriber s =
      conclude id ⟨owner, s.hub.nextMark⟩
        (attempt around watch id owner subscriber s).1.outcome
        (attempt around watch id owner subscriber s).2 := by
  rw [start, attempt]
  simp only [bind_run, get_run, adjust_run, outside_run, pure_run]
  cases (watch s.hub.nextMark (watchRequest owner) s.world).1.outcome <;> rfl

theorem attempt_hub (hquiet : Reticent around) (hrunning : s.hub.running = none)
    (hpoisoned : s.hub.poisoned = false) :
    Alike (s.hub.opened id subscriber) (attempt around watch id owner subscriber s).2.hub := by
  have hlocked : (s.hub.opened id subscriber).Locked :=
    ⟨hrunning, Roster.entries_insert_ne_nil, hpoisoned⟩
  exact hearAll_alike (s := ⟨s.hub.opened id subscriber, s.channels, _⟩) hquiet hlocked _ _

/-! ## Subscribing -/

theorem subscribe_unavailable (hwatch : around.watch = none) :
    subscribe around id owner subscriber s = (some (.error .unavailable), s) := by
  rw [subscribe]
  simp only [hwatch, pure_run]

theorem subscribe_poisoned (hwatch : around.watch = some watch) (hpoisoned : s.hub.poisoned) :
    subscribe around id owner subscriber s = (some (.error .poisoned), s) := by
  rw [subscribe]
  simp only [hwatch]
  rw [bind_run, get_run]
  simp only [ite_run, hpoisoned, if_true, pure_run]

/-- Whoever comes for the owner of the running watch joins the others. -/
theorem subscribe_joined {current : Watch} (hwatch : around.watch = some watch)
    (hpoisoned : s.hub.poisoned = false) (hrunning : s.hub.running = some current) :
    subscribe around id current.owner subscriber s =
      (some (.ok ()),
        { s with hub := { s.hub with roster := s.hub.roster.insert id subscriber } }) := by
  rw [subscribe]
  simp only [hwatch]
  rw [bind_run, get_run]
  simp only [ite_run, hpoisoned, hrunning, Bool.false_eq_true, if_false, if_true, bind_run,
    adjust_run, pure_run]

/-- Whether no watch runs for an owner. -/
def Idle (hub : Hub Handler) (owner : String) : Prop :=
  ∀ current, hub.running = some current → current.owner ≠ owner

theorem idle_or_runs_for (hub : Hub Handler) (owner : String) :
    hub.Idle owner ∨ ∃ current, hub.running = some current ∧ current.owner = owner := by
  cases hrunning : hub.running with
  | none => exact Or.inl fun current h => running_absurd hrunning h
  | some current =>
    by_cases howner : current.owner = owner
    · exact Or.inr ⟨current, rfl, howner⟩
    · exact Or.inl fun other h => Option.some.inj (hrunning.symm.trans h) ▸ howner

/-- Anyone else has a watch started, after way was made for it. -/
theorem subscribe_fresh (hwatch : around.watch = some watch) (hpoisoned : s.hub.poisoned = false)
    (hidle : s.hub.Idle owner) :
    subscribe around id owner subscriber s =
      start around watch id owner subscriber (clearWay around s).2 := by
  rw [subscribe]
  simp only [hwatch]
  rw [bind_run, get_run]
  simp only [ite_run, hpoisoned, Bool.false_eq_true, if_false]
  cases hrunning : s.hub.running with
  | none => rw [clearWay_of_none hrunning]
  | some current =>
    simp only [ite_run, if_neg (hidle current hrunning), clearWay, bind_run, get_run, hrunning]

/-! ## Unsubscribing -/

theorem unsubscribe_poisoned (hpoisoned : s.hub.poisoned) :
    unsubscribe around id s = (.error .poisoned, s) := by
  rw [unsubscribe, bind_run, get_run]
  simp only [ite_run, hpoisoned, if_true, pure_run]

theorem unsubscribeAll_poisoned (hpoisoned : s.hub.poisoned) :
    unsubscribeAll around s = (.error .poisoned, s) := by
  rw [unsubscribeAll, bind_run, get_run]
  simp only [ite_run, hpoisoned, if_true, pure_run]

/-- While others are left, the watch goes on. -/
theorem unsubscribe_left (hpoisoned : s.hub.poisoned = false)
    (hleft : (s.hub.roster.erase id).entries ≠ []) :
    unsubscribe around id s =
      (.ok (), { s with hub := { s.hub with roster := s.hub.roster.erase id } }) := by
  have hempty : (s.hub.roster.erase id).isEmpty = false := by
    rw [← Bool.not_eq_true, Roster.isEmpty_iff]
    exact hleft
  rw [unsubscribe, bind_run, get_run]
  simp only [ite_run, hpoisoned, Bool.false_eq_true, if_false, bind_run, adjust_run, get_run,
    hempty, pure_run]

/-- With the last subscriber, the watch goes as well. -/
theorem unsubscribe_last (around : Surroundings World Handler) (hpoisoned : s.hub.poisoned = false)
    (hlast : (s.hub.roster.erase id).entries = []) (hnodup : s.hub.live.Nodup) :
    (unsubscribe around id s).1 = .ok () ∧
      (unsubscribe around id s).2.hub = { s.hub with roster := .empty }.stopped := by
  have hempty : (s.hub.roster.erase id).isEmpty = true := Roster.isEmpty_iff.mpr hlast
  rw [unsubscribe, bind_run, get_run]
  simp only [ite_run, hpoisoned, Bool.false_eq_true, if_false, bind_run, adjust_run, get_run,
    hempty, if_true, pure_run, true_and]
  rw [← Roster.eq_empty hlast]
  exact stop_hub hnodup

theorem unsubscribeAll_hub (around : Surroundings World Handler)
    (hpoisoned : s.hub.poisoned = false) (hnodup : s.hub.live.Nodup) :
    (unsubscribeAll around s).1 = .ok () ∧
      (unsubscribeAll around s).2.hub = { s.hub with roster := .empty }.stopped := by
  rw [unsubscribeAll, bind_run, get_run]
  simp only [ite_run, hpoisoned, Bool.false_eq_true, if_false, bind_run, adjust_run, pure_run,
    true_and]
  exact stop_hub hnodup

end CardService.Subscription.Hub
