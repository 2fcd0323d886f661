import CardService.Proofs.Subscription.Isolation

/-!
# CardService — refused starts

A watcher that refuses to start a watch was given a mark all the same, and reported events under it.
The roster is put right, and no watch runs. But nobody stops listening to the mark: it is `Stray`,
and stays so for good (`Course.stray`), whoever subscribes later. Nor is the connection reset, which
is left as the watcher reported it last (`refused_connection`).
-/

namespace CardService.Subscription.Hub

variable {World Handler : Type} {around : Surroundings World Handler}
variable {s t : Station World Handler} {hub hub' : Hub Handler} {mark : Nat}

/-! ## Marks without a watch -/

/-- A mark that is listened to, although it is not that of the running watch. -/
def Stray (mark : Nat) (hub : Hub Handler) : Prop :=
  mark ∈ hub.live ∧ ∀ current, hub.running = some current → current.mark ≠ mark

theorem Alike.stray (h : Alike hub hub') (hstray : Stray mark hub) : Stray mark hub' := by
  rw [Stray, h.live, h.running]
  exact hstray

/-- Stopping the running watch does not silence any other mark. -/
theorem cancelled_stray (hstray : Stray mark hub) : Stray mark hub.cancelled := by
  refine ⟨?_, fun _ h => running_absurd (cancelled_running hub) h⟩
  -- only the mark of the running watch is taken off the list, and this is another one
  cases hrunning : hub.running with
  | none =>
    rw [cancelled_of_none hrunning]
    exact hstray.1
  | some current =>
    rw [cancelled_of_some hrunning]
    exact (List.mem_erase_of_ne (hstray.2 current hrunning).symm).mpr hstray.1

theorem awaiting_stray (hstray : Stray mark hub) {id : SubscriptionId}
    {subscriber : Subscriber Handler} : Stray mark (hub.awaiting id subscriber) := by
  obtain ⟨hmark, hother⟩ := cancelled_stray hstray
  exact ⟨List.mem_cons_of_mem _ hmark, hother⟩

/-- No call silences a stray mark. -/
theorem Turn.stray {call : Call Handler} {answer : Option (Except WatchFault Unit)}
    (hturn : Turn around hub call answer hub') (hwired : Wired around hub)
    (hstray : Stray mark hub) : Stray mark hub' := by
  have hbelow := hwired.issued mark hstray.1
  cases hturn with
  | unavailable hwatch => exact hstray
  | poisoned hpoisoned => exact hstray
  | joined hrunning => exact hstray
  | started hwatch hpoisoned hidle hopened =>
    -- the new watch runs under a mark that was never issued before
    refine ⟨(hopened.stray (awaiting_stray hstray)).1, ?_⟩
    rintro current ⟨⟩
    exact Nat.ne_of_gt hbelow
  | refused hwatch hpoisoned hidle hopened => exact hopened.stray (awaiting_stray hstray)
  | crashed hwatch hpoisoned hidle hopened => exact hopened.stray (awaiting_stray hstray)
  | left hpoisoned hleft => exact hstray
  | emptied hpoisoned hlast =>
    rw [stopped_with_roster]
    exact cancelled_stray hstray
  | cleared hpoisoned =>
    rw [stopped_with_roster]
    exact cancelled_stray hstray

/-- A stray mark is listened to for good. -/
theorem Course.stray {start : Station World Handler} {deeds : List (Deed Handler)}
    (hcourse : Course around start deeds t) (hquiet : Reticent around)
    (hwired : Wired around start.hub) (hstray : Stray mark start.hub) : Stray mark t.hub := by
  induction hcourse with
  | rest => exact hstray
  | aside _ halike ih => exact halike.stray ih
  | call hcourse hfree call ih =>
    have hbefore := hcourse.wired hquiet hwired
    exact (call.act_turn hquiet hbefore.nodup hfree).stray hbefore ih
  | @release deeds s hcourse ih =>
    rw [release_hub (hcourse.wired hquiet hwired).nodup]
    split
    · exact ih
    · exact cancelled_stray ih

/-! ## What a refusal leaves behind -/

variable {watch : Nat → Backend.Request → StateM World StartAnswer} {id : SubscriptionId}
variable {owner : String} {subscriber : Subscriber Handler} {events : List WatchEvent}
variable {fault : WatchFault}

/-- What the watcher of a fresh subscriber answers when it is asked. -/
def asked (around : Surroundings World Handler)
    (watch : Nat → Backend.Request → StateM World StartAnswer) (owner : String)
    (s : Station World Handler) : StartAnswer :=
  (watch s.hub.nextMark (watchRequest owner) (clearWay around s).2.world).1

/-- A refusal is passed on, and leaves the hub as the events of the start left it, except that
nobody is on the roster. -/
theorem subscribe_refused (id : SubscriptionId) (subscriber : Subscriber Handler)
    (hquiet : Reticent around) (hwired : Wired around s.hub) (hfree : ¬ s.hub.Locked)
    (hwatch : around.watch = some watch) (hpoisoned : s.hub.poisoned = false)
    (hidle : s.hub.Idle owner)
    (hasked : asked around watch owner s = ⟨events, .refused fault⟩) :
    (subscribe around id owner subscriber s).1 = some (.error fault) ∧
      (subscribe around id owner subscriber s).2.hub =
        { (attempt around watch id owner subscriber (clearWay around s).2).2.hub with
          roster := .empty } := by
  have hmark := clearWay_nextMark around hwired.nodup hfree hpoisoned
  have hattempt : (attempt around watch id owner subscriber (clearWay around s).2).1 =
      ⟨events, .refused fault⟩ := by
    rw [← hasked, asked, ← hmark]
    rfl
  have halike := attempt_alike_awaiting watch id owner subscriber hquiet hwired.nodup hfree
    hpoisoned
  rw [subscribe_fresh hwatch hpoisoned hidle, start_eq, hattempt]
  refine ⟨rfl, ?_⟩
  show { (attempt around watch id owner subscriber (clearWay around s).2).2.hub with
    roster := (attempt around watch id owner subscriber (clearWay around s).2).2.hub.roster.erase
      id } = _
  rw [halike.roster, erase_awaiting]

/-- What is known of the connection when the watcher is asked. -/
theorem clearWay_connection (around : Surroundings World Handler) (hnodup : s.hub.live.Nodup) :
    (clearWay around s).2.hub.connection =
      if s.hub.running.isSome then .disconnected else s.hub.connection := by
  cases hrunning : s.hub.running with
  | none =>
    rw [clearWay_of_none hrunning]
    rfl
  | some current =>
    rw [clearWay_of_some hrunning hnodup]
    rfl

/-- A refusal leaves the connection as the watcher reported it last. -/
theorem refused_connection (hwired : Wired around s.hub) (hfree : ¬ s.hub.Locked)
    (hpoisoned : s.hub.poisoned = false) (hcalm : Calm around (s.hub.awaiting id subscriber))
    (hasked : asked around watch owner s = ⟨events, .refused fault⟩) :
    (attempt around watch id owner subscriber (clearWay around s).2).2.hub.connection =
      (lastReport events).getD
        (if s.hub.running.isSome then .disconnected else s.hub.connection) := by
  have hmark := clearWay_nextMark around hwired.nodup hfree hpoisoned
  have hcalm' := hcalm.alike (opened_alike_awaiting around hwired.nodup hfree hpoisoned)
  have hevents : (watch (clearWay around s).2.hub.nextMark (watchRequest owner)
      (clearWay around s).2.world).1.events = events := by
    rw [hmark]
    exact congrArg StartAnswer.events hasked
  rw [← clearWay_connection around hwired.nodup]
  show (hearAll around (clearWay around s).2.hub.nextMark _ _).2.hub.connection = _
  rw [hevents, hearAll_hub List.mem_cons_self hcalm']
  rfl

/-- An event makes no difference if and only if there is nobody to be told, and it is either an
update that is well-formed or a report of what is known already. -/
theorem unfolding_inert_iff {entries : List (SubscriptionId × Subscriber Handler)}
    {outcomes : List (Option String)} (hlength : outcomes.length = entries.length)
    (state : ConnectionState) (event : WatchEvent) :
    (∀ happening ∈ unfolding entries outcomes event, happening = .stored state) ↔
      entries = [] ∧ ((∃ response source, event = .update response ∧
        sourceOfUpdate response = .ok source) ∨ event = .connection state) := by
  have hdeliveries : ∀ notice, (∀ happening ∈ deliveries notice entries outcomes,
      happening = .stored state) ↔ entries = [] := by
    intro notice
    cases entries with
    | nil => simp [deliveries]
    | cons entry rest =>
      cases outcomes with
      | nil => simp at hlength
      | cons failure outcomes => simp [deliveries, delivery]
  cases event with
  | update response =>
    cases hsource : sourceOfUpdate response with
    | ok source => simp [unfolding, hsource, hdeliveries]
    | error failure => simp [unfolding, hsource]
  | fault fault => simp [unfolding]
  | connection other =>
    simp only [unfolding, List.forall_mem_cons, hdeliveries, Happening.stored.injEq]
    simp [and_comm]

/-- After a refusal nobody is registered and no watch runs. But the connection counts as
disconnected only if the last report of the start says so, or if there was none and it counted as
disconnected before; and the mark of the refused watch is listened to for good, so that whatever
arrives under it comes to what an event of the running watch comes to: everyone on the roster is
told, the connection is changed, and what cannot be told is written down. -/
theorem refused_start_overhears (hlawful : Lawful around) {start : Station World Handler}
    {past : List (Deed Handler)} (hempty : start.hub = .empty)
    (hcourse : Course around start past s) (hfree : ¬ s.hub.Locked)
    (hwatch : around.watch = some watch) (hpoisoned : s.hub.poisoned = false)
    (hidle : s.hub.Idle owner)
    (hasked : asked around watch owner s = ⟨events, .refused fault⟩)
    (ht : (subscribe around id owner subscriber s).2 = t) :
    (subscribe around id owner subscriber s).1 = some (.error fault) ∧
    t.hub.roster.size = 0 ∧ t.hub.running = none ∧
    (Calm around (s.hub.awaiting id subscriber) →
      (t.hub.connection = .disconnected ↔ lastReport events = some .disconnected ∨
        (lastReport events = none ∧
          (s.hub.running.isSome ∨ s.hub.connection = .disconnected)))) ∧
    (∀ deeds u, Course around t deeds u → ∀ event, ∃ outcomes,
      outcomes.length = u.hub.roster.entries.length ∧
      Unfolds around u (unfolding u.hub.roster.entries outcomes event)
        (hear around s.hub.nextMark event u).2 ∧
      ((∀ happening ∈ unfolding u.hub.roster.entries outcomes event,
          happening = .stored u.hub.connection) ↔
        u.hub.roster.entries = [] ∧ ((∃ response source, event = .update response ∧
          sourceOfUpdate response = .ok source) ∨ event = .connection u.hub.connection))) := by
  have hquiet := hlawful.reticent
  have hwired : Wired around s.hub := hcourse.wired hquiet (hempty ▸ wired_empty)
  obtain ⟨hanswer, hhub⟩ := subscribe_refused id subscriber hquiet hwired hfree hwatch hpoisoned
    hidle hasked
  have halike := attempt_alike_awaiting watch id owner subscriber hquiet hwired.nodup hfree
    hpoisoned
  have hturn := (Call.subscribe id owner subscriber).act_turn hquiet hwired.nodup hfree
  rw [Call.act, ht] at hturn
  rw [ht] at hhub
  have hrunning : t.hub.running = none := by
    rw [hhub]
    exact halike.running.trans (cancelled_running s.hub)
  have hstray : Stray s.hub.nextMark t.hub := by
    refine ⟨?_, fun _ h => running_absurd hrunning h⟩
    rw [hhub]
    -- the mark came onto the list for the start, and nothing takes it off
    show s.hub.nextMark ∈ (attempt around watch id owner subscriber _).2.hub.live
    rw [halike.live]
    exact List.mem_cons.mpr (.inl (cancelled_nextMark s.hub).symm)
  refine ⟨hanswer, by rw [hhub]; rfl, hrunning, fun hcalm => ?_, fun deeds u hu event => ?_⟩
  · rw [hhub]
    show (attempt around watch id owner subscriber _).2.hub.connection = _ ↔ _
    rw [refused_connection hwired hfree hpoisoned hcalm hasked]
    cases lastReport events with
    | some state => simp
    | none => cases hcurrent : s.hub.running <;> simp
  · have hlive := (hu.stray hquiet (hturn.wired hwired) hstray).1
    obtain ⟨outcomes, hlength, hunfolds⟩ := route_unfolds around event u
    rw [hear_of_live hlive]
    exact ⟨outcomes, hlength, hunfolds, unfolding_inert_iff hlength u.hub.connection event⟩

/-- A watcher that connects and then refuses, the first time it is asked. Subscribers note what they
are told. -/
def grudging : Surroundings (Nat × List Notice) Unit where
  watch := some fun _ _ (asked, told) =>
    if asked = 0 then (⟨[.connection .connected], .refused (.transport "offline")⟩, (1, told))
    else (⟨[], .started⟩, (asked + 1, told))
  cancel := fun _ => pure []
  audit := fun _ => pure ()
  tell := fun _ notice s => (none, { s with world := (s.world.1, s.world.2 ++ [notice]) })

/-- A new hub after its first subscriber was refused. -/
def refusedOnce : Station (Nat × List Notice) Unit :=
  (subscribe grudging ⟨"a"⟩ "first" (.handler ()) ⟨.empty, [], (0, [])⟩).2

/-- Someone else subscribes for another owner. -/
def takenOver : Station (Nat × List Notice) Unit :=
  (subscribe grudging ⟨"b"⟩ "second" (.handler ()) refusedOnce).2

theorem refused_start_overhears_takenOver :
    refusedOnce.hub.connection ≠ .disconnected ∧ takenOver.hub.running = some ⟨"second", 1⟩ ∧
      ∀ event, ∃ outcomes, outcomes.length = takenOver.hub.roster.entries.length ∧
        Unfolds grudging takenOver (unfolding takenOver.hub.roster.entries outcomes event)
          (hear grudging 0 event takenOver).2 := by
  have hlawful : Lawful grudging := lawful_of_alike fun _ _ s => .refl s.hub
  have hnew : Course grudging ⟨.empty, [], (0, [])⟩ [] ⟨.empty, [], (0, [])⟩ := .rest
  have hidle : (empty : Hub Unit).Idle "first" := fun _ h => nomatch h
  have hrefused : (subscribe grudging ⟨"a"⟩ "first" (.handler ()) ⟨.empty, [], (0, [])⟩).2 =
      refusedOnce := rfl
  have hcalm : Calm grudging ((empty : Hub Unit).awaiting ⟨"a"⟩ (.handler ())) :=
    calm_of_tell_hub (fun _ _ _ => rfl) _
  obtain ⟨-, -, -, hconnection, hheard⟩ :=
    refused_start_overhears hlawful rfl hnew not_locked_empty rfl rfl hidle rfl hrefused
  have hopen : ¬ refusedOnce.hub.Locked := fun hlocked => hlocked.2.1 (by decide)
  have htaken := Course.single grudging (.subscribe ⟨"b"⟩ "second" (.handler ())) hopen
  refine ⟨fun h => ?_, by decide, fun event => ?_⟩
  · exact absurd ((hconnection hcalm).mp h) (by decide)
  obtain ⟨outcomes, hlength, hunfolds, -⟩ := hheard _ takenOver htaken event
  exact ⟨outcomes, hlength, hunfolds⟩

/-- After the refusal the connection is not reset. An event under the refused mark reaches whoever
subscribed since, for another owner, and changes what is known of the connection. -/
theorem refused_start_not_silent :
    (subscribe grudging ⟨"a"⟩ "first" (.handler ()) ⟨.empty, [], (0, [])⟩).1 =
        some (.error (.transport "offline")) ∧
      refusedOnce.hub.connection ≠ .disconnected ∧
      takenOver.hub.running = some ⟨"second", 1⟩ ∧
      takenOver.hub.roster.entries = [(⟨"b"⟩, .handler ())] ∧
      (hear grudging 0 (.connection .disconnected) takenOver).2.world.2 =
        takenOver.world.2 ++ [.connection .disconnected] ∧
      (hear grudging 0 (.connection .disconnected) takenOver).2.hub.connection ≠
        takenOver.hub.connection :=
  ⟨rfl, by decide, by decide, by decide, by decide, by decide⟩

end CardService.Subscription.Hub
