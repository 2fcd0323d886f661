import CardService.Proofs.Subscription.Course

/-!
# CardService — who is registered

The roster of a hub is what its calls made of it: someone is registered from a successful call to
subscribe until a later call ends that (`Ends`). `Registered` says so of the calls alone; it knows
neither rosters nor watches.

Main results:

* `Turn.synced` — each call keeps the roster in step with the calls made so far.
* `Course.synced` — so the roster of the running watch is the replay of the course.
* `callAll_course` — calls in a row are such a course, and none of them leaves the hub locked, so
  that a watch runs whenever someone is registered.
-/

namespace CardService.Subscription.Hub

variable {World Handler : Type} {around : Surroundings World Handler}

/-! ## Replaying calls -/

/-- Whether a call ends what a successful call to subscribe under an id for an owner began: someone
else takes the id over, the id or everyone unsubscribes, or a subscriber comes for another owner,
even if in vain. -/
def Ends (id : SubscriptionId) (owner : String) (deed : Deed Handler) : Prop :=
  match deed.call with
  | .subscribe key other _ => other ≠ owner ∨ (key = id ∧ deed.answer = some (.ok ()))
  | .unsubscribe key => key = id
  | .unsubscribeAll => True

/-- Whether someone subscribed under an id for an owner, and nothing has ended that since. -/
def Registered (past : List (Deed Handler)) (id : SubscriptionId) (owner : String)
    (subscriber : Subscriber Handler) : Prop :=
  ∃ before after, past = before ++ ⟨.subscribe id owner subscriber, some (.ok ())⟩ :: after ∧
    ∀ deed ∈ after, ¬ Ends id owner deed

variable {past : List (Deed Handler)} {id : SubscriptionId} {owner : String}
variable {subscriber : Subscriber Handler}

theorem not_registered_nil : ¬ Registered ([] : List (Deed Handler)) id owner subscriber := by
  rintro ⟨before, after, hpast, -⟩
  exact absurd hpast (by simp)

/-- What one more call changes. -/
theorem registered_concat (deed : Deed Handler) :
    Registered (past ++ [deed]) id owner subscriber ↔
      deed = ⟨.subscribe id owner subscriber, some (.ok ())⟩ ∨
        (Registered past id owner subscriber ∧ ¬ Ends id owner deed) := by
  constructor
  · rintro ⟨before, after, hpast, hafter⟩
    -- either the last call is the one that registered, or it is one of those after it
    rcases List.eq_nil_or_concat after with rfl | ⟨middle, last, rfl⟩
    · exact .inl (List.singleton_inj.mp (List.append_inj' hpast rfl).2)
    · have hsplit : past ++ [deed] =
          (before ++ ⟨.subscribe id owner subscriber, some (.ok ())⟩ :: middle) ++ [last] := by
        rw [hpast, List.concat_eq_append, List.append_assoc, List.cons_append]
      obtain ⟨hfront, hlast⟩ := List.append_inj' hsplit rfl
      obtain rfl : deed = last := by simpa using hlast
      exact .inr ⟨⟨before, middle, hfront, fun other h => hafter other (by simp [h])⟩,
        hafter deed (by simp)⟩
  · rintro (rfl | ⟨⟨before, after, rfl, hafter⟩, hdeed⟩)
    · exact ⟨past, [], rfl, fun _ h => absurd h (by simp)⟩
    · refine ⟨before, after ++ [deed], by simp, fun other h => ?_⟩
      rcases List.mem_append.mp h with h | h
      · exact hafter other h
      · rw [List.mem_singleton.mp h]
        exact hdeed

section Calls

variable {key : SubscriptionId} {other : String} {newcomer : Subscriber Handler}
variable {answer : Option (Except WatchFault Unit)}

/-- A successful call to subscribe registers the newcomer, and leaves those who are registered for
the same owner under other ids. -/
theorem registered_subscribed :
    Registered (past ++ [⟨.subscribe key other newcomer, some (.ok ())⟩]) id owner subscriber ↔
      (id = key ∧ owner = other ∧ subscriber = newcomer) ∨
        (Registered past id owner subscriber ∧ other = owner ∧ key ≠ id) := by
  rw [registered_concat]
  simp [Ends, eq_comm]

/-- Any other call to subscribe registers nobody, and leaves those of the same owner. -/
theorem registered_of_refused (hanswer : answer ≠ some (.ok ()))
    (h : Registered (past ++ [⟨.subscribe key other newcomer, answer⟩]) id owner subscriber) :
    Registered past id owner subscriber ∧ other = owner := by
  rcases (registered_concat _).mp h with heq | ⟨hpast, hends⟩
  · exact absurd (congrArg Deed.answer heq) hanswer
  · exact ⟨hpast, Classical.not_not.mp fun hother => hends (.inl hother)⟩

theorem registered_unsubscribed :
    Registered (past ++ [⟨.unsubscribe key, answer⟩]) id owner subscriber ↔
      Registered past id owner subscriber ∧ key ≠ id := by
  rw [registered_concat]
  simp [Ends]

theorem not_registered_cleared :
    ¬ Registered (past ++ [⟨.unsubscribeAll, answer⟩]) id owner subscriber := by
  rw [registered_concat]
  simp [Ends]

end Calls

/-! ## Keeping the roster in step -/

/-- How the hub stands to the calls made so far. -/
structure Synced (past : List (Deed Handler)) (hub : Hub Handler) : Prop where
  /-- The running watch is for those who are registered. -/
  found : ∀ current, hub.running = some current → ∀ id subscriber,
    hub.roster.get? id = some subscriber ↔ Registered past id current.owner subscriber
  /-- They are registered for its owner. -/
  owned : ∀ current, hub.running = some current → ∀ id owner subscriber,
    Registered past id owner subscriber → owner = current.owner
  /-- A hub that waits for its first subscriber has none. -/
  nobody : hub.running = none → hub.poisoned = false → hub.roster.entries = [] →
    ∀ id owner subscriber, ¬ Registered past id owner subscriber

variable {hub hub' : Hub Handler}

theorem synced_empty : Synced [] (empty : Hub Handler) where
  found := fun _ h => nomatch h
  owned := fun _ h => nomatch h
  nobody := fun _ _ _ _ _ _ => not_registered_nil

theorem Alike.synced (h : Alike hub hub') (hsynced : Synced past hub) : Synced past hub' := by
  obtain ⟨hroster, hrunning, -, -, hpoisoned⟩ := h
  constructor
  · rw [hrunning, hroster]
    exact hsynced.found
  · rw [hrunning]
    exact hsynced.owned
  · rw [hrunning, hpoisoned, hroster]
    exact hsynced.nobody

/-- Nobody is registered for an owner without a watch. -/
theorem Synced.not_registered (hsynced : Synced past hub) (hfree : ¬ hub.Locked)
    (hpoisoned : hub.poisoned = false) (hidle : hub.Idle owner) :
    ¬ Registered past id owner subscriber := by
  intro hregistered
  cases hrunning : hub.running with
  | some current =>
    have howner := hsynced.owned current hrunning _ _ _ hregistered
    exact hidle current hrunning howner.symm
  | none =>
    -- a hub without a watch is open for calls only if nobody waits for one
    by_cases hentries : hub.roster.entries = []
    · exact hsynced.nobody hrunning hpoisoned hentries _ _ _ hregistered
    · exact hfree ⟨hrunning, hentries, hpoisoned⟩

/-- Whoever is on the roster is registered for the owner of the running watch. -/
theorem Synced.exists_running (hsynced : Synced past hub) (hfree : ¬ hub.Locked)
    (hsound : hub.poisoned = false) (hget : hub.roster.get? id = some subscriber) :
    ∃ current, hub.running = some current ∧ Registered past id current.owner subscriber := by
  cases hrunning : hub.running with
  | some current => exact ⟨current, rfl, (hsynced.found current hrunning id subscriber).mp hget⟩
  | none =>
    have hentries : hub.roster.entries ≠ [] := by
      intro hempty
      rw [Roster.entries_eq_nil_iff.mp hempty id] at hget
      cases hget
    exact absurd ⟨hrunning, hentries, hsound⟩ hfree

/-- The roster is the replay of the calls. -/
theorem Synced.get?_iff (hsynced : Synced past hub) (hfree : ¬ hub.Locked)
    (hsound : hub.poisoned = false) :
    hub.roster.get? id = some subscriber ↔ ∃ owner, Registered past id owner subscriber := by
  constructor
  · intro hget
    obtain ⟨current, -, hregistered⟩ := hsynced.exists_running hfree hsound hget
    exact ⟨current.owner, hregistered⟩
  · rintro ⟨owner, hregistered⟩
    rcases hub.idle_or_runs_for owner with hidle | ⟨current, hrunning, rfl⟩
    · exact absurd hregistered (hsynced.not_registered hfree hsound hidle)
    · exact (hsynced.found current hrunning id subscriber).mpr hregistered

/-- Where no watch runs, nobody may be registered, unless the hub was given up or has crashed. -/
theorem synced_of_running_none (hrunning : hub.running = none)
    (hnobody : hub.poisoned = false → hub.roster.entries = [] →
      ∀ id owner subscriber, ¬ Registered past id owner subscriber) : Synced past hub where
  found := fun _ h => running_absurd hrunning h
  owned := fun _ h => running_absurd hrunning h
  nobody := fun _ => hnobody

theorem synced_of_poisoned (hrunning : hub.running = none) (hpoisoned : hub.poisoned = true) :
    Synced past hub := by
  refine synced_of_running_none hrunning fun hsound => ?_
  exact absurd (hsound.symm.trans hpoisoned) (by simp)

/-! ## One call more -/

/-- Someone joins the others. -/
theorem Synced.joined {current : Watch} (hsynced : Synced past hub)
    (hrunning : hub.running = some current) :
    Synced (past ++ [⟨.subscribe id current.owner subscriber, some (.ok ())⟩])
      { hub with roster := hub.roster.insert id subscriber } := by
  constructor
  · intro other hother key found
    obtain rfl : current = other := Option.some.inj (hrunning.symm.trans hother)
    show (hub.roster.insert id subscriber).get? key = some found ↔ _
    rw [Roster.get?_insert, registered_subscribed, ← hsynced.found current hrunning]
    by_cases hkey : key = id
    · simp [hkey, eq_comm]
    · simp [hkey, Ne.symm hkey]
  · intro other hother key owner found hregistered
    obtain rfl : current = other := Option.some.inj (hrunning.symm.trans hother)
    rcases registered_subscribed.mp hregistered with ⟨-, howner, -⟩ | ⟨-, howner, -⟩
    · exact howner
    · exact howner.symm
  · intro hnone
    exact running_absurd hnone hrunning

/-- Someone is the first for an owner. All others were for other owners, and their registrations
end with the call. -/
theorem synced_started {mark : Nat}
    (hfresh : ∀ key found, ¬ Registered past key owner found)
    (hroster : hub.roster = Roster.empty.insert id subscriber) :
    Synced (past ++ [⟨.subscribe id owner subscriber, some (.ok ())⟩])
      { hub with running := some ⟨owner, mark⟩ } := by
  constructor
  · rintro current ⟨⟩ key found
    show hub.roster.get? key = some found ↔ _
    rw [hroster, registered_subscribed, Roster.get?_insert, Roster.get?_empty]
    constructor
    · intro hfound
      by_cases hkey : key = id
      · rw [if_pos hkey] at hfound
        exact .inl ⟨hkey, rfl, (Option.some.inj hfound).symm⟩
      · rw [if_neg hkey] at hfound
        exact absurd hfound (by simp)
    · rintro (⟨hkey, -, rfl⟩ | ⟨hregistered, -, -⟩)
      · rw [if_pos hkey]
      · exact absurd hregistered (hfresh key found)
  · rintro current ⟨⟩ key other found hregistered
    rcases registered_subscribed.mp hregistered with ⟨-, howner, -⟩ | ⟨-, howner, -⟩
    · exact howner
    · exact howner.symm
  · intro hnone
    exact absurd hnone (by simp)

/-- Someone leaves, and others stay. -/
theorem Synced.left (hsynced : Synced past hub) (hleft : (hub.roster.erase id).entries ≠ []) :
    Synced (past ++ [⟨.unsubscribe id, some (.ok ())⟩])
      { hub with roster := hub.roster.erase id } := by
  constructor
  · intro current hrunning key found
    show (hub.roster.erase id).get? key = some found ↔ _
    rw [Roster.get?_erase, registered_unsubscribed, ← hsynced.found current hrunning]
    by_cases hkey : key = id
    · simp [hkey]
    · simp [hkey, Ne.symm hkey]
  · intro current hrunning key owner found hregistered
    exact hsynced.owned current hrunning _ _ _ (registered_unsubscribed.mp hregistered).1
  · intro _ _ hentries
    exact absurd hentries hleft

/-- The last one leaves, if there is one. -/
theorem Synced.not_registered_emptied (hsynced : Synced past hub) (hfree : ¬ hub.Locked)
    (hpoisoned : hub.poisoned = false) (hlast : (hub.roster.erase id).entries = [])
    (key : SubscriptionId) :
    ¬ Registered (past ++ [⟨.unsubscribe id, some (.ok ())⟩]) key owner subscriber := by
  intro hregistered
  obtain ⟨hpast, hkey⟩ := registered_unsubscribed.mp hregistered
  rcases hub.idle_or_runs_for owner with hidle | ⟨current, hrunning, rfl⟩
  · exact hsynced.not_registered hfree hpoisoned hidle hpast
  · -- whoever is registered under another id would still be there
    have hfound := (hsynced.found current hrunning key subscriber).mpr hpast
    have hnone := Roster.entries_eq_nil_iff.mp hlast key
    rw [Roster.get?_erase, if_neg (Ne.symm hkey), hfound] at hnone
    exact absurd hnone (by simp)

/-- Each call keeps the roster in step. -/
theorem Turn.synced {call : Call Handler} {answer : Option (Except WatchFault Unit)}
    (hturn : Turn around hub call answer hub') (hwired : Wired around hub) (hfree : ¬ hub.Locked)
    (hsynced : Synced past hub) : Synced (past ++ [⟨call, answer⟩]) hub' := by
  cases hturn with
  | unavailable hwatch =>
    have hrunning := hwired.running_of_unwatched hwatch
    refine synced_of_running_none hrunning fun hpoisoned hentries id owner subscriber h => ?_
    -- the call registers nobody, so whoever is registered was so before
    obtain ⟨hpast, -⟩ := registered_of_refused (by simp) h
    exact hsynced.nobody hrunning hpoisoned hentries _ _ _ hpast
  | poisoned hpoisoned =>
    exact synced_of_poisoned (hwired.running_of_poisoned hpoisoned) hpoisoned
  | joined hrunning => exact hsynced.joined hrunning
  | started hwatch hpoisoned hidle hopened =>
    exact synced_started (fun _ _ => hsynced.not_registered hfree hpoisoned hidle) hopened.roster
  | refused hwatch hpoisoned hidle hopened =>
    refine synced_of_running_none (hopened.running.trans (cancelled_running hub)) ?_
    intro _ _ key other found hregistered
    -- the failed call ended what was registered for other owners, and for its own nobody was
    obtain ⟨hpast, rfl⟩ := registered_of_refused (by simp) hregistered
    exact hsynced.not_registered hfree hpoisoned hidle hpast
  | crashed hwatch hpoisoned hidle hopened =>
    exact synced_of_poisoned (hopened.running.trans (cancelled_running hub)) rfl
  | left hpoisoned hleft => exact hsynced.left hleft
  | emptied hpoisoned hlast =>
    refine synced_of_running_none (cancelled_running _) fun _ _ key owner found => ?_
    exact hsynced.not_registered_emptied hfree hpoisoned hlast key
  | cleared hpoisoned =>
    exact synced_of_running_none (cancelled_running _) fun _ _ _ _ _ => not_registered_cleared

/-- Giving a hub up makes a difference only if someone is registered. -/
theorem released_synced {s : Station World Handler} (hwired : Wired around s.hub)
    (hsynced : Synced past s.hub) : Synced past (release around s).2.hub := by
  rw [release_hub hwired.nodup]
  split
  · exact hsynced
  · refine synced_of_running_none (cancelled_running s.hub) fun hpoisoned hentries => ?_
    rw [cancelled_roster] at hentries
    rw [cancelled_poisoned] at hpoisoned
    -- nobody is on the roster, so no watch was running in the first place
    have hrunning : s.hub.running = none := Option.eq_none_iff_forall_ne_some.mpr
      fun current hcurrent => hwired.running_entries current hcurrent hentries
    exact hsynced.nobody hrunning hpoisoned hentries

/-- What has happened to a hub from its beginning on keeps its roster in step. -/
theorem Course.synced {start t : Station World Handler} (hcourse : Course around start past t)
    (hquiet : Reticent around) (hempty : start.hub = .empty) : Synced past t.hub := by
  have hstart : Wired around start.hub := hempty ▸ wired_empty
  induction hcourse with
  | rest => exact hempty ▸ synced_empty
  | aside _ halike ih => exact halike.synced ih
  | call hcourse hfree call ih =>
    have hwired := hcourse.wired hquiet hstart
    exact (call.act_turn hquiet hwired.nodup hfree).synced hwired hfree ih
  | release hcourse ih => exact released_synced (hcourse.wired hquiet hstart) ih

/-! ## Calls in a row -/

/-- Makes calls one after the other. -/
def callAll (around : Surroundings World Handler) :
    List (Call Handler) → Action World Handler (List (Deed Handler))
  | [] => pure []
  | call :: rest => do
    let answer ← call.act around
    return ⟨call, answer⟩ :: (← callAll around rest)

/-- Calls in a row are a course, and leave the hub open for more. -/
theorem callAll_course {start s : Station World Handler} (hquiet : Reticent around)
    (hwired : Wired around start.hub) (calls : List (Call Handler))
    (hcourse : Course around start past s) (hfree : ¬ s.hub.Locked) :
    Course around start (past ++ (callAll around calls s).1) (callAll around calls s).2 ∧
      ¬ (callAll around calls s).2.hub.Locked := by
  induction calls generalizing past s with
  | nil =>
    rw [callAll, pure_run, List.append_nil]
    exact ⟨hcourse, hfree⟩
  | cons call rest ih =>
    have hturn := call.act_turn hquiet (hcourse.wired hquiet hwired).nodup hfree
    have hrest := ih (.call hcourse hfree call) (hturn.free hfree)
    rw [List.append_assoc] at hrest
    rw [callAll, bind_run, bind_run, pure_run]
    exact hrest

/-- Calls in a row on a new hub. -/
theorem callAll_new (hquiet : Reticent around) (calls : List (Call Handler))
    (channels : List Channel) (world : World) :
    Course around ⟨.empty, channels, world⟩ (callAll around calls ⟨.empty, channels, world⟩).1
        (callAll around calls ⟨.empty, channels, world⟩).2 ∧
      ¬ (callAll around calls ⟨.empty, channels, world⟩).2.hub.Locked := by
  have hnew : Course around ⟨.empty, channels, world⟩ [] ⟨.empty, channels, world⟩ := .rest
  exact callAll_course hquiet wired_empty calls hnew not_locked_empty

theorem callAll_calls (around : Surroundings World Handler) (calls : List (Call Handler))
    (s : Station World Handler) :
    (callAll around calls s).1.map Deed.call = calls := by
  induction calls generalizing s with
  | nil => rfl
  | cons call rest ih => exact congrArg (call :: ·) (ih _)

/-- Whoever subscribes successfully does so for the owner of the watch that runs then. -/
theorem Turn.running_owner {answer : Option (Except WatchFault Unit)}
    (hturn : Turn around hub (.subscribe id owner subscriber) answer hub')
    (hanswer : answer = some (.ok ())) : hub'.running.map Watch.owner = some owner := by
  cases hturn with
  | unavailable hwatch => exact absurd hanswer (by simp)
  | poisoned hpoisoned => exact absurd hanswer (by simp)
  | joined hrunning => exact congrArg (Option.map Watch.owner) hrunning
  | started hwatch hpoisoned hidle hopened => rfl
  | refused hwatch hpoisoned hidle hopened => exact absurd hanswer (by simp)
  | crashed hwatch hpoisoned hidle hopened => exact absurd hanswer (by simp)

/-- Without a watcher no call does anything at all to a hub that nobody subscribed to. -/
theorem callAll_unwatched (hwatch : around.watch = none) (calls : List (Call Handler))
    {s : Station World Handler} (hempty : s.hub = .empty) :
    (callAll around calls s).2 = s ∧ ∀ deed ∈ (callAll around calls s).1,
      ∀ id owner subscriber, deed.call = .subscribe id owner subscriber →
        deed.answer = some (.error .unavailable) := by
  -- leaving an empty hub leaves it empty, and its connection is that of a new hub anyway
  have hcall : ∀ call : Call Handler, (call.act around s).2 = s := by
    intro call
    obtain ⟨hub, channels, world⟩ := s
    obtain rfl : hub = .empty := hempty
    cases call with
    | subscribe id owner subscriber =>
      rw [Call.act, subscribe_unavailable hwatch]
    | unsubscribe id => rfl
    | unsubscribeAll => rfl
  induction calls with
  | nil => exact ⟨rfl, fun _ h => absurd h (by simp [callAll, pure_run])⟩
  | cons call rest ih =>
    rw [callAll, bind_run, bind_run, pure_run, hcall call]
    refine ⟨ih.1, fun deed hdeed id owner subscriber hsubscribe => ?_⟩
    rcases List.mem_cons.mp hdeed with rfl | hdeed
    · obtain rfl : call = .subscribe id owner subscriber := hsubscribe
      show (Hub.subscribe around id owner subscriber s).1 = _
      rw [subscribe_unavailable hwatch]
    · exact ih.2 deed hdeed id owner subscriber hsubscribe

/-- After any calls in a row on a new hub, as long as no watcher crashes: a watch runs if and only
if someone is registered; all who are registered are so for its owner; and the roster is the replay
of the calls. Without a watcher, nobody can subscribe, and no call changes anything. -/
theorem callAll_settled (hquiet : Reticent around) {calls : List (Call Handler)}
    {channels : List Channel} {world : World} {deeds : List (Deed Handler)}
    {t : Station World Handler}
    (hrun : callAll around calls ⟨.empty, channels, world⟩ = (deeds, t)) :
    deeds.map Deed.call = calls ∧
    ((∀ deed ∈ deeds, deed.answer ≠ none) →
      (t.hub.running.isSome ↔ t.hub.roster.size ≠ 0) ∧
      (∀ id subscriber, t.hub.roster.get? id = some subscriber →
        ∃ current, t.hub.running = some current ∧
          Registered deeds id current.owner subscriber) ∧
      (∀ id subscriber, t.hub.roster.get? id = some subscriber ↔
        ∃ owner, Registered deeds id owner subscriber) ∧
      (∀ id owner subscriber, (subscribe around id owner subscriber t).1 = some (.ok ()) →
        (subscribe around id owner subscriber t).2.hub.running.map Watch.owner = some owner)) ∧
    (around.watch = none → t = ⟨.empty, channels, world⟩ ∧
      ∀ deed ∈ deeds, ∀ id owner subscriber, deed.call = .subscribe id owner subscriber →
        deed.answer = some (.error .unavailable)) := by
  obtain ⟨hcourse, hfree⟩ := callAll_new hquiet calls channels world
  have hcalls := callAll_calls around calls ⟨.empty, channels, world⟩
  rw [hrun] at hcourse hfree hcalls
  refine ⟨hcalls, fun hanswers => ?_, fun hwatch => ?_⟩
  · have hwired := hcourse.wired hquiet wired_empty
    have hsynced := hcourse.synced hquiet rfl
    have hsound := hcourse.sound hquiet wired_empty hanswers rfl
    refine ⟨hwired.running_iff hfree hsound,
      fun id subscriber hget => hsynced.exists_running hfree hsound hget,
      fun id subscriber => hsynced.get?_iff hfree hsound, fun id owner subscriber hanswer => ?_⟩
    exact (subscribe_turn hquiet hwired.nodup hfree).running_owner hanswer
  · have hunwatched := callAll_unwatched (s := ⟨.empty, channels, world⟩) hwatch calls rfl
    rw [hrun] at hunwatched
    exact hunwatched

/-- A watcher that counts its starts and refuses the second one. -/
def flaky : Surroundings Nat Unit where
  watch := some fun _ _ starts =>
    (⟨[.connection .connected], if starts = 1 then .refused .unavailable else .started⟩, starts + 1)
  cancel := fun _ => pure []
  audit := fun _ => pure ()
  tell := fun _ _ => pure none

/-- The call for the second owner drops everyone, although it is refused. -/
def restart : List (Call Unit) :=
  [.subscribe ⟨"a"⟩ "first" (.handler ()), .subscribe ⟨"b"⟩ "first" (.handler ()),
    .unsubscribe ⟨"a"⟩, .subscribe ⟨"c"⟩ "second" (.handler ()),
    .subscribe ⟨"d"⟩ "first" (.handler ())]

/-- What comes of these calls on a new hub. -/
def restarted : List (Deed Unit) × Station Nat Unit := callAll flaky restart ⟨.empty, [], 0⟩

theorem callAll_settled_restart :
    Reticent flaky ∧ callAll flaky restart ⟨.empty, [], 0⟩ = (restarted.1, restarted.2) ∧
      (∀ deed ∈ restarted.1, deed.answer ≠ none) ∧
      restarted.2.hub.roster.entries = [(⟨"d"⟩, .handler ())] ∧
      restarted.2.hub.running = some ⟨"first", 2⟩ ∧
      (∀ id subscriber, restarted.2.hub.roster.get? id = some subscriber ↔
        ∃ owner, Registered restarted.1 id owner subscriber) := by
  have hquiet : Reticent flaky := fun _ _ s _ => .refl s.hub
  have hrun : callAll flaky restart ⟨.empty, [], 0⟩ = (restarted.1, restarted.2) := rfl
  have hanswers : ∀ deed ∈ restarted.1, deed.answer ≠ none := by decide
  obtain ⟨-, hsettled, -⟩ := callAll_settled hquiet hrun
  exact ⟨hquiet, hrun, hanswers, by decide, by decide, (hsettled hanswers).2.2.1⟩

end CardService.Subscription.Hub
