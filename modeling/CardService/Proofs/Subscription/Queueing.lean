import CardService.Proofs.Subscription.Delivery

/-!
# CardService — what becomes of notices in a channel

A subscriber may be a channel, whose receiver fetches notices when it likes. There is room for so
many of them at a time, and none gets in any more once the receiver has closed the channel. Nothing
is lost without a note for all that: of every event that there is something to tell of, either the
notice gets into the channel, behind all earlier ones, or one failure is written down under the id
of the channel (`queue_accounts`).

What happens between two stations is summed up by what entered the channel and what failures were
written down (`Passage`). Passages are put together one behind the other, so what holds of a run
follows from its steps.

Main results:

* `tellAll_settles` — telling everyone on the roster tells the channel once.
* `hear_settles` — so does hearing an event, if there is something to tell.
* `Attended.passage` — what a whole run comes to.
-/

namespace CardService.Subscription

/-! ## Channels -/

namespace Channel

/-- Between two states of a channel, some notices entered it behind the others, and some were taken
out in front. -/
structure Moved (channel channel' : Channel) (entered taken : List Notice) : Prop where
  capacity : channel'.capacity = channel.capacity
  fits : channel.waiting.length ≤ channel.capacity → channel'.waiting.length ≤ channel'.capacity
  waiting : taken ++ channel'.waiting = channel.waiting ++ entered

variable {channel channel' channel'' : Channel} {notice : Notice}

theorem Moved.refl (channel : Channel) : Moved channel channel [] [] :=
  ⟨rfl, id, (List.append_nil _).symm⟩

theorem Moved.trans {entered entered' taken taken' : List Notice}
    (h : Moved channel channel' entered taken) (h' : Moved channel' channel'' entered' taken') :
    Moved channel channel'' (entered ++ entered') (taken ++ taken') where
  capacity := h'.capacity.trans h.capacity
  fits := fun hfits => h'.fits (h.fits hfits)
  waiting := by
    rw [List.append_assoc, h'.waiting, ← List.append_assoc, h.waiting, List.append_assoc]

/-- Whatever is taken out in front makes room. -/
theorem moved_of_taken {taken : List Notice} (hcapacity : channel'.capacity = channel.capacity)
    (hwaiting : channel.waiting = taken ++ channel'.waiting) : Moved channel channel' [] taken where
  capacity := hcapacity
  fits := by
    intro hfits
    rw [hwaiting, List.length_append] at hfits
    omega
  waiting := by rw [List.append_nil, hwaiting]

theorem moved_of_receive (h : channel.receive = some (notice, channel')) :
    Moved channel channel' [] [notice] := by
  rw [receive] at h
  split at h
  · cases h
  · rename_i first rest hwaiting
    cases h
    exact moved_of_taken rfl hwaiting

theorem moved_shut (channel : Channel) : Moved channel channel.shut [] [] :=
  moved_of_taken rfl rfl

/-- A receiver that leaves takes with it what waits. -/
theorem moved_close (channel : Channel) : Moved channel channel.close [] channel.waiting :=
  moved_of_taken rfl (List.append_nil _).symm

/-- A notice gets in only if there is room for it. -/
theorem moved_of_send (h : channel.send notice = .ok channel') :
    Moved channel channel' [notice] [] := by
  rw [send] at h
  split at h
  · cases h
  · split at h
    · cases h
    · rename_i hroom
      cases h
      refine ⟨rfl, fun _ => ?_, rfl⟩
      rw [List.length_append, List.length_singleton]
      exact Nat.lt_of_not_le hroom

end Channel

namespace Hub

open Backend (updateOfCard updatedCard sourceOfUpdate_updateOfCard)

variable {World Handler : Type}

/-! ## Passages -/

/-- What there is to tell of an event. -/
def noticeOf : WatchEvent → Option Notice
  | .update response => (sourceOfUpdate response).toOption.map .changed
  | .fault _ => none
  | .connection state => some (.connection state)

/-- What a world knows of the notes that were written down, and of the notices that the receiver of
a channel has fetched. -/
structure Ledger (World : Type) where
  notes : World → List Audit.SubscriptionEvent
  fetched : World → List Notice

/-- The failures to tell the subscriber with some id. -/
def failuresOf (id : SubscriptionId) (notes : List Audit.SubscriptionEvent) :
    List Audit.SubscriptionEvent :=
  notes.filter fun note => note.subscription = some id ∧ note.reason = .subscriberFailed

/-- Between two stations, some notices entered a channel, and some failures were written down. What
was taken out of the channel was fetched. -/
structure Passage (ledger : Ledger World) (number : Nat) (id : SubscriptionId)
    (entered : List Notice) (failed : List Audit.SubscriptionEvent)
    (s t : Station World Handler) : Prop where
  channel : ∀ channel, s.channels[number]? = some channel → ∃ channel' taken,
    t.channels[number]? = some channel' ∧ channel.Moved channel' entered taken ∧
      ledger.fetched t.world = ledger.fetched s.world ++ taken
  failures : failuresOf id (ledger.notes t.world) = failuresOf id (ledger.notes s.world) ++ failed

/-- Writing something down adds it to the notes, and fetches nothing. -/
def Ledger.KeptBy (ledger : Ledger World) (around : Surroundings World Handler) : Prop :=
  ∀ event world, ledger.notes (around.audit event world).2 = ledger.notes world ++ [event] ∧
    ledger.fetched (around.audit event world).2 = ledger.fetched world

/-- Those whose code is told of something may fetch from a channel, but put nothing into it, and
write down no failures of others. -/
def Apart (around : Surroundings World Handler) (ledger : Ledger World) (number : Nat)
    (id : SubscriptionId) : Prop :=
  ∀ handler notice s, Passage ledger number id [] [] s (around.tell handler notice s).2

variable {around : Surroundings World Handler} {ledger : Ledger World} {number : Nat}
variable {id : SubscriptionId} {s t u : Station World Handler}

theorem failuresOf_append (id : SubscriptionId) (notes more : List Audit.SubscriptionEvent) :
    failuresOf id (notes ++ more) = failuresOf id notes ++ failuresOf id more :=
  List.filter_append ..

theorem Passage.trans {entered entered' : List Notice}
    {failed failed' : List Audit.SubscriptionEvent}
    (h : Passage ledger number id entered failed s t)
    (h' : Passage ledger number id entered' failed' t u) :
    Passage ledger number id (entered ++ entered') (failed ++ failed') s u where
  channel := by
    intro channel hchannel
    obtain ⟨channel', taken, hchannel', hmoved, hfetched⟩ := h.channel channel hchannel
    obtain ⟨channel'', taken', hchannel'', hmoved', hfetched'⟩ := h'.channel channel' hchannel'
    refine ⟨channel'', taken ++ taken', hchannel'', hmoved.trans hmoved', ?_⟩
    rw [hfetched', hfetched, List.append_assoc]
  failures := by rw [h'.failures, h.failures, List.append_assoc]

/-- Nothing enters and nothing fails in the end. -/
theorem Passage.quiet {entered : List Notice} {failed : List Audit.SubscriptionEvent}
    (h : Passage ledger number id entered failed s t) (h' : Passage ledger number id [] [] t u) :
    Passage ledger number id entered failed s u := by
  have hall := h.trans h'
  rwa [List.append_nil, List.append_nil] at hall

/-- What has no part in the channel is no passage at all. -/
theorem passage_of_same (hchannel : t.channels[number]? = s.channels[number]?)
    (hfetched : ledger.fetched t.world = ledger.fetched s.world)
    (hfailures : failuresOf id (ledger.notes t.world) = failuresOf id (ledger.notes s.world)) :
    Passage ledger number id [] [] s t where
  channel := fun channel h =>
    ⟨channel, [], hchannel.trans h, .refl channel, by rw [hfetched, List.append_nil]⟩
  failures := by rw [hfailures, List.append_nil]

/-- A change of the channel alone, and of what was fetched from it. -/
theorem passage_of_moved {channel channel' : Channel} {entered taken : List Notice}
    (hchannel : s.channels[number]? = some channel) (hmoved : channel.Moved channel' entered taken)
    (hchannels : t.channels = s.channels.set number channel')
    (hfetched : ledger.fetched t.world = ledger.fetched s.world ++ taken)
    (hnotes : failuresOf id (ledger.notes t.world) = failuresOf id (ledger.notes s.world)) :
    Passage ledger number id entered [] s t where
  channel := by
    intro other hother
    obtain rfl : channel = other := Option.some.inj (hchannel.symm.trans hother)
    refine ⟨channel', taken, ?_, hmoved, hfetched⟩
    obtain ⟨hbound, -⟩ := List.getElem?_eq_some_iff.mp hchannel
    rw [hchannels, List.getElem?_set_self hbound]
  failures := by rw [hnotes, List.append_nil]

theorem failuresOf_failureNote (id : SubscriptionId) (message : String) :
    failuresOf id [failureNote id message] = [failureNote id message] := by
  simp [failuresOf, failureNote]

theorem failuresOf_failureNote_of_ne {key : SubscriptionId} (hkey : key ≠ id) (message : String) :
    failuresOf id [failureNote key message] = [] := by
  simp [failuresOf, failureNote, hkey]

theorem passage_record (hkept : ledger.KeptBy around) (number : Nat) (id : SubscriptionId)
    (event : Audit.SubscriptionEvent) (s : Station World Handler) :
    Passage ledger number id [] (failuresOf id [event]) s (outside (around.audit event) s).2 where
  channel := by
    intro channel hchannel
    refine ⟨channel, [], hchannel, .refl channel, ?_⟩
    rw [List.append_nil]
    exact (hkept event s.world).2
  failures := by
    rw [← failuresOf_append]
    exact congrArg (failuresOf id) (hkept event s.world).1

/-! ## Telling -/

/-- A notice gets into the channel unless the channel says why it does not. -/
theorem passage_own (around : Surroundings World Handler) (ledger : Ledger World) (number : Nat)
    (id : SubscriptionId) (notice : Notice) (s : Station World Handler) :
    Passage ledger number id
      (if (tell around (.channel number) notice s).1 = none then [notice] else []) []
      s (tell around (.channel number) notice s).2 := by
  show Passage ledger number id (if (sendTo number notice s.channels).1 = none then _ else _) [] s
    { s with channels := (sendTo number notice s.channels).2 }
  rw [sendTo]
  cases hchannel : s.channels[number]? with
  -- a channel that is gone fails like one that refuses the notice: nothing enters it
  | none => exact passage_of_same rfl rfl rfl
  | some channel =>
    cases hsend : channel.send notice with
    | error fault =>
      simp only [hsend]
      exact passage_of_same rfl rfl rfl
    | ok channel' =>
      simp only [hsend]
      exact passage_of_moved hchannel (Channel.moved_of_send hsend) rfl (List.append_nil _).symm rfl

/-- A channel fails for no other reason than that it is full or closed. -/
theorem fault_of_own {notice : Notice} {message : String}
    (h : (tell around (.channel number) notice s).1 = some message) :
    ∃ fault : ChannelFault, message = fault.message := by
  have hsent : (sendTo number notice s.channels).1 = some message := h
  rw [sendTo] at hsent
  split at hsent
  · exact ⟨.closed, (Option.some.inj hsent).symm⟩
  · split at hsent
    · cases hsent
    · rename_i fault _
      exact ⟨fault, (Option.some.inj hsent).symm⟩

/-- Nobody else puts anything into the channel. -/
theorem passage_other (hapart : Apart around ledger number id) {subscriber : Subscriber Handler}
    (hother : subscriber ≠ .channel number) (notice : Notice) (s : Station World Handler) :
    Passage ledger number id [] [] s (tell around subscriber notice s).2 := by
  cases subscriber with
  | handler handler => exact hapart handler notice s
  | channel other =>
    have hne : other ≠ number := fun heq => hother (congrArg _ heq)
    have hsame : (sendTo other notice s.channels).2[number]? = s.channels[number]? := by
      rw [sendTo]
      split
      · rfl
      · split
        · exact List.getElem?_set_ne hne
        · rfl
    exact passage_of_same hsame rfl rfl

/-- What became of a notice, if there was one: it entered the channel, or one failure of the channel
was written down, but not both. -/
def Settled (id : SubscriptionId) (notice : Option Notice) (entered : List Notice)
    (failed : List Audit.SubscriptionEvent) : Prop :=
  match notice with
  | some notice =>
    (entered = [notice] ∧ failed = []) ∨
      (entered = [] ∧ ∃ fault : ChannelFault, failed = [failureNote id fault.message])
  | none => entered = [] ∧ failed = []

variable {key : SubscriptionId} {subscriber : Subscriber Handler}
variable {rest entries : List (SubscriptionId × Subscriber Handler)}

/-- The channel is told first, and a failure is written down under its id. -/
theorem tellAll_cons_own (hkept : ledger.KeptBy around) (number : Nat) (id : SubscriptionId)
    (notice : Notice) (rest : List (SubscriptionId × Subscriber Handler))
    (s : Station World Handler) :
    ∃ t entered failed, Settled id (some notice) entered failed ∧
      Passage ledger number id entered failed s t ∧
      tellAll around notice ((id, .channel number) :: rest) s = tellAll around notice rest t := by
  have htold := passage_own around ledger number id notice s
  rw [tellAll, bind_run]
  cases hfailure : (tell around (.channel number) notice s).1 with
  | none =>
    rw [hfailure, if_pos rfl] at htold
    exact ⟨_, [notice], [], .inl ⟨rfl, rfl⟩, htold, rfl⟩
  | some message =>
    obtain ⟨fault, rfl⟩ := fault_of_own hfailure
    have hnoted := passage_record hkept number id (failureNote id fault.message)
      (tell around (.channel number) notice s).2
    rw [failuresOf_failureNote] at hnoted
    rw [hfailure, if_neg (Option.some_ne_none fault.message)] at htold
    exact ⟨_, [], [failureNote id fault.message], .inr ⟨rfl, fault, rfl⟩, htold.trans hnoted, rfl⟩

/-- Somebody else is told first, and a failure is written down under another id. -/
theorem tellAll_cons_other (hkept : ledger.KeptBy around) (hapart : Apart around ledger number id)
    (hkey : key ≠ id) (hother : subscriber ≠ .channel number) (notice : Notice)
    (rest : List (SubscriptionId × Subscriber Handler)) (s : Station World Handler) :
    ∃ t, Passage ledger number id [] [] s t ∧
      tellAll around notice ((key, subscriber) :: rest) s = tellAll around notice rest t := by
  have htold := passage_other hapart hother notice s
  rw [tellAll, bind_run]
  cases (tell around subscriber notice s).1 with
  | none => exact ⟨_, htold, rfl⟩
  | some message =>
    have hnoted := passage_record hkept number id (failureNote key message)
      (tell around subscriber notice s).2
    rw [failuresOf_failureNote_of_ne hkey] at hnoted
    exact ⟨_, htold.trans hnoted, rfl⟩

/-- Telling others leaves the channel to its receiver. -/
theorem tellAll_apart (hkept : ledger.KeptBy around) (hapart : Apart around ledger number id)
    (notice : Notice) (hothers : ∀ entry ∈ entries, entry.1 ≠ id ∧ entry.2 ≠ .channel number)
    (s : Station World Handler) :
    Passage ledger number id [] [] s (tellAll around notice entries s).2 := by
  -- each of the others may fetch from the channel, so the passages are quiet, but not empty
  induction entries generalizing s with
  | nil => exact passage_of_same rfl rfl rfl
  | cons entry rest ih =>
    obtain ⟨⟨hkey, hother⟩, hrest⟩ := List.forall_mem_cons.mp hothers
    obtain ⟨t, hpassage, htold⟩ := tellAll_cons_other hkept hapart hkey hother notice rest s
    rw [htold]
    exact hpassage.trans (ih hrest t)

/-- Telling everyone on a list settles the notice for the channel on it, which is told once. -/
theorem tellAll_settles (hkept : ledger.KeptBy around) (hapart : Apart around ledger number id)
    (notice : Notice) (hmem : (id, .channel number) ∈ entries)
    (hnodup : (entries.map Prod.fst).Nodup)
    (hsole : ∀ entry ∈ entries, entry.2 = .channel number → entry.1 = id)
    (s : Station World Handler) :
    ∃ entered failed, Settled id (some notice) entered failed ∧
      Passage ledger number id entered failed s (tellAll around notice entries s).2 := by
  induction entries generalizing s with
  | nil => exact absurd hmem List.not_mem_nil
  | cons entry rest ih =>
    obtain ⟨hfresh, hdistinct⟩ := List.nodup_cons.mp hnodup
    obtain ⟨hhead, hothers⟩ := List.forall_mem_cons.mp hsole
    rcases List.mem_cons.mp hmem with rfl | hlater
    · -- the channel is told now, and nobody behind it has its id or puts anything into it
      have hapart' : ∀ other ∈ rest, other.1 ≠ id ∧ other.2 ≠ .channel number := by
        intro other hother
        have hkey : other.1 ≠ id := fun heq => hfresh (List.mem_map.mpr ⟨other, hother, heq⟩)
        exact ⟨hkey, fun hchannel => hkey (hothers other hother hchannel)⟩
      obtain ⟨t, entered, failed, hsettled, hpassage, htold⟩ :=
        tellAll_cons_own hkept number id notice rest s
      rw [htold]
      have hrest := tellAll_apart hkept hapart notice hapart' t
      exact ⟨entered, failed, hsettled, hpassage.quiet hrest⟩
    · have hkey : entry.1 ≠ id := fun heq =>
        hfresh (List.mem_map.mpr ⟨_, hlater, heq.symm⟩)
      obtain ⟨t, hbefore, htold⟩ := tellAll_cons_other hkept hapart hkey
        (fun heq => hkey (hhead heq)) notice rest s
      obtain ⟨entered, failed, hsettled, hpassage⟩ := ih hlater hdistinct hothers t
      rw [htold]
      exact ⟨entered, failed, hsettled, hbefore.trans hpassage⟩

/-! ## Hearing -/

/-- A channel is registered under an id, and under no other, where it would be told once more. -/
def Sole (number : Nat) (id : SubscriptionId) (hub : Hub Handler) : Prop :=
  ∀ key, hub.roster.get? key = some (.channel number) ↔ key = id

/-- An event that is listened to settles what there is to tell of it. -/
theorem hear_settles (hkept : ledger.KeptBy around) (hapart : Apart around ledger number id)
    {mark : Nat} (hlive : mark ∈ s.hub.live) (hsole : Sole number id s.hub) (event : WatchEvent) :
    ∃ entered failed, Settled id (noticeOf event) entered failed ∧
      Passage ledger number id entered failed s (hear around mark event s).2 := by
  have hmem : (id, .channel number) ∈ s.hub.roster.entries :=
    Roster.get?_eq_some_iff.mp ((hsole id).mpr rfl)
  have hsole' : ∀ entry ∈ s.hub.roster.entries, entry.2 = .channel number → entry.1 = id := by
    rintro ⟨key, _⟩ hentry rfl
    exact (hsole key).mp (Roster.get?_eq_some_iff.mpr hentry)
  have htold := fun notice => tellAll_settles hkept hapart notice hmem
    s.hub.roster.ids_nodup hsole'
  rw [hear_of_live hlive]
  cases event with
  | update response =>
    rw [route, noticeOf]
    cases hsource : sourceOfUpdate response with
    | ok source => exact htold (.changed source) s
    | error failure =>
      -- the note that is written down has no id
      exact ⟨[], [], ⟨rfl, rfl⟩,
        passage_record hkept number id ⟨none, .updateDropped, failure.message⟩ s⟩
  | fault fault =>
    exact ⟨[], [], ⟨rfl, rfl⟩, passage_record hkept number id ⟨none, .watchError, fault.message⟩ s⟩
  | connection state =>
    -- storing the state has no part in the channel
    have hstored : Passage ledger number id [] [] s
        { s with hub := { s.hub with connection := state } } := passage_of_same rfl rfl rfl
    obtain ⟨entered, failed, hsettled, hpassage⟩ := htold (.connection state)
      { s with hub := { s.hub with connection := state } }
    exact ⟨entered, failed, hsettled, hstored.trans hpassage⟩

/-! ## Runs -/

/-- An event that was heard, and the failures that were written down for a subscriber then. -/
structure Heard where
  event : WatchEvent
  failed : List Audit.SubscriptionEvent

/-- What entered the channel of an event: what there is to tell, unless a failure says otherwise. -/
def Heard.entered (heard : Heard) : List Notice :=
  if heard.failed = [] then (noticeOf heard.event).toList else []

/-- What comes to pass with a channel that is registered under an id all the while: events of a
watch that is listened to, as the running one is, and whatever its receiver does. -/
inductive Attended (around : Surroundings World Handler) (ledger : Ledger World) (number : Nat)
    (id : SubscriptionId) (start : Station World Handler) :
    List Heard → Station World Handler → Prop where
  | rest : Attended around ledger number id start [] start
  /-- An event is heard, and some failures are written down meanwhile. -/
  | heard {trace s mark event failed} (h : Attended around ledger number id start trace s)
      (hlive : mark ∈ s.hub.live) (hsole : Sole number id s.hub)
      (hfailed : failuresOf id (ledger.notes (hear around mark event s).2.world) =
        failuresOf id (ledger.notes s.world) ++ failed) :
      Attended around ledger number id start (trace ++ [⟨event, failed⟩])
        (hear around mark event s).2
  /-- The receiver fetches a notice. -/
  | received {trace s t channel notice rest} (h : Attended around ledger number id start trace s)
      (hchannel : s.channels[number]? = some channel)
      (hreceive : channel.receive = some (notice, rest))
      (hchannels : t.channels = s.channels.set number rest)
      (hfetched : ledger.fetched t.world = ledger.fetched s.world ++ [notice])
      (hnotes : ledger.notes t.world = ledger.notes s.world) :
      Attended around ledger number id start trace t
  /-- The receiver wants no more. -/
  | shut {trace s channel} (h : Attended around ledger number id start trace s)
      (hchannel : s.channels[number]? = some channel) :
      Attended around ledger number id start trace
        { s with channels := s.channels.set number channel.shut }
  /-- The receiver leaves, with all that waits for it. -/
  | left {trace s t channel} (h : Attended around ledger number id start trace s)
      (hchannel : s.channels[number]? = some channel)
      (hchannels : t.channels = s.channels.set number channel.close)
      (hfetched : ledger.fetched t.world = ledger.fetched s.world ++ channel.waiting)
      (hnotes : ledger.notes t.world = ledger.notes s.world) :
      Attended around ledger number id start trace t
  /-- Something happens that has no part in the channel. -/
  | aside {trace s t} (h : Attended around ledger number id start trace s)
      (hchannel : t.channels[number]? = s.channels[number]?)
      (hfetched : ledger.fetched t.world = ledger.fetched s.world)
      (hfailures : failuresOf id (ledger.notes t.world) = failuresOf id (ledger.notes s.world)) :
      Attended around ledger number id start trace t

variable {start : Station World Handler} {trace : List Heard}

/-- What entered the channel is told from the failures. -/
theorem entered_of_settled {event : WatchEvent} {entered : List Notice}
    {failed : List Audit.SubscriptionEvent} (h : Settled id (noticeOf event) entered failed) :
    (Heard.mk event failed).entered = entered := by
  rw [Heard.entered]
  cases hnotice : noticeOf event with
  | none =>
    rw [hnotice] at h
    obtain ⟨rfl, rfl⟩ := h
    rfl
  | some notice =>
    rw [hnotice] at h
    rcases h with ⟨rfl, rfl⟩ | ⟨rfl, fault, rfl⟩
    · rfl
    · rfl

namespace Attended

/-- What a run comes to: all that entered the channel, and all failures that were written down. -/
theorem passage (h : Attended around ledger number id start trace t)
    (hkept : ledger.KeptBy around) (hapart : Apart around ledger number id) :
    Passage ledger number id (trace.flatMap Heard.entered) (trace.flatMap Heard.failed) start t ∧
      ∀ heard ∈ trace, Settled id (noticeOf heard.event) heard.entered heard.failed := by
  -- every step puts its own passage behind that of the steps before
  induction h with
  | rest => exact ⟨passage_of_same rfl rfl rfl, fun _ h => absurd h List.not_mem_nil⟩
  | @heard trace s mark event failed _ hlive hsole hfailed ih =>
    obtain ⟨hbefore, hsettled⟩ := ih
    obtain ⟨entered, failed', hlast, hpassage⟩ := hear_settles hkept hapart hlive hsole event
    -- the failures are those that the notes have more than before, so there are no others
    obtain rfl : failed' = failed := List.append_cancel_left (hpassage.failures.symm.trans hfailed)
    obtain rfl := entered_of_settled hlast
    constructor
    · simp only [List.flatMap_append, List.flatMap_singleton]
      exact hbefore.trans hpassage
    · intro heard hmem
      rcases List.mem_append.mp hmem with hmem | hmem
      · exact hsettled heard hmem
      · rw [List.mem_singleton.mp hmem]
        exact hlast
  | received _ hchannel hreceive hchannels hfetched hnotes ih =>
    have hmoved := Channel.moved_of_receive hreceive
    exact ⟨ih.1.quiet (passage_of_moved hchannel hmoved hchannels hfetched (congrArg _ hnotes)),
      ih.2⟩
  | @shut trace s channel _ hchannel ih =>
    have hmoved := channel.moved_shut
    exact ⟨ih.1.quiet (passage_of_moved hchannel hmoved rfl (List.append_nil _).symm rfl), ih.2⟩
  | @left trace s t channel _ hchannel hchannels hfetched hnotes ih =>
    have hmoved := channel.moved_close
    exact ⟨ih.1.quiet (passage_of_moved hchannel hmoved hchannels hfetched (congrArg _ hnotes)),
      ih.2⟩
  | aside _ hchannel hfetched hfailures ih =>
    exact ⟨ih.1.quiet (passage_of_same hchannel hfetched hfailures), ih.2⟩

/-- Whatever event comes, the run goes on with it. -/
theorem hear (h : Attended around ledger number id start trace t) (hkept : ledger.KeptBy around)
    (hapart : Apart around ledger number id) {mark : Nat} (hlive : mark ∈ t.hub.live)
    (hsole : Sole number id t.hub) (event : WatchEvent) :
    ∃ failed, Attended around ledger number id start (trace ++ [⟨event, failed⟩])
      (Hub.hear around mark event t).2 := by
  obtain ⟨entered, failed, -, hpassage⟩ := hear_settles hkept hapart hlive hsole event
  exact ⟨failed, .heard h hlive hsole hpassage.failures⟩

end Attended

/-- A channel with room for a limited number of notices, registered under an id for a whole run, in
which events of the watch come in any order with whatever the receiver does. What the receiver took
out, and then what still waits, are what waited in the beginning and then the notices of all events
that there was something to tell of, in their order, but for those that a failure was written down
for under this id. Each of these either entered the channel once or has one failure, which says that
the channel is full or closed, and events that there is nothing to tell of have neither. There are
never more notices in the channel than it has room for. -/
theorem queue_accounts (hkept : ledger.KeptBy around) (hapart : Apart around ledger number id)
    (hrun : Attended around ledger number id start trace t) {channel : Channel}
    (hstart : start.channels[number]? = some channel)
    (hroom : channel.waiting.length ≤ channel.capacity) :
    (∃ channel' taken, t.channels[number]? = some channel' ∧
      channel'.capacity = channel.capacity ∧ channel'.waiting.length ≤ channel.capacity ∧
      ledger.fetched t.world = ledger.fetched start.world ++ taken ∧
      taken ++ channel'.waiting = channel.waiting ++ trace.flatMap Heard.entered) ∧
    failuresOf id (ledger.notes t.world) =
      failuresOf id (ledger.notes start.world) ++ trace.flatMap Heard.failed ∧
    (∀ heard ∈ trace, Settled id (noticeOf heard.event) heard.entered heard.failed) ∧
    ∀ mark event, mark ∈ t.hub.live → Sole number id t.hub → ∃ failed,
      Attended around ledger number id start (trace ++ [⟨event, failed⟩])
        (hear around mark event t).2 := by
  obtain ⟨hpassage, hsettled⟩ := hrun.passage hkept hapart
  obtain ⟨channel', taken, hchannel', hmoved, hfetched⟩ := hpassage.channel channel hstart
  have hfits : channel'.waiting.length ≤ channel.capacity := by
    rw [← hmoved.capacity]
    exact hmoved.fits hroom
  refine ⟨?_, hpassage.failures, hsettled, ?_⟩
  · exact ⟨channel', taken, hchannel', hmoved.capacity, hfits, hfetched, hmoved.waiting⟩
  · intro mark event hlive hsole
    exact hrun.hear hkept hapart hlive hsole event

/-- Surroundings in which all that is written down and all that is fetched can be looked up. A
handler is the message it fails with, if it does. -/
def postbox : Surroundings (List Audit.SubscriptionEvent × List Notice) (Option String) where
  watch := some fun _ _ => pure ⟨[], .started⟩
  cancel := fun _ => pure []
  audit := fun event => modify fun (notes, fetched) => (notes ++ [event], fetched)
  tell := fun failure _ => pure failure

def postLedger : Ledger (List Audit.SubscriptionEvent × List Notice) := ⟨Prod.fst, Prod.snd⟩

/-- A subscriber that always fails, and a channel with room for one notice. -/
def cramped : Station (List Audit.SubscriptionEvent × List Notice) (Option String) :=
  (callAll postbox [.subscribe ⟨"a"⟩ "owner" (.handler (some "offline")),
    .subscribe ⟨"b"⟩ "owner" (.channel 0)] ⟨.empty, [.empty 1], ([], [])⟩).2

/-- It hears two events, of which the second, a funding source, finds the channel full. -/
def crowded : Station (List Audit.SubscriptionEvent × List Notice) (Option String) :=
  (hear postbox 0 (.update updateOfCard) (hear postbox 0 (.connection .connected) cramped).2).2

/-- The receiver fetches the first notice, -/
def relieved : Station (List Audit.SubscriptionEvent × List Notice) (Option String) :=
  { crowded with
    channels := crowded.channels.set 0 ⟨1, [], false⟩
    world := (crowded.world.1, crowded.world.2 ++ [.connection .connected]) }

/-- two more events are heard, of which one is told to nobody and the other is the funding source
again, -/
def refilled : Station (List Audit.SubscriptionEvent × List Notice) (Option String) :=
  (hear postbox 0 (.update updateOfCard) (hear postbox 0 (.fault .unavailable) relieved).2).2

/-- and the receiver closes the channel. -/
def resigned : Station (List Audit.SubscriptionEvent × List Notice) (Option String) :=
  { refilled with
    channels := refilled.channels.set 0 (Channel.mk 1 [.changed updatedCard] false).shut }

/-- All events, with the failures of the channel. -/
def hardships : List Heard :=
  [⟨.connection .connected, []⟩,
    ⟨.update updateOfCard, [failureNote ⟨"b"⟩ "no available capacity"]⟩,
    ⟨.fault .unavailable, []⟩, ⟨.update updateOfCard, []⟩,
    ⟨.connection .connected, [failureNote ⟨"b"⟩ "channel closed"]⟩]

theorem queue_accounts_hardships :
    postLedger.KeptBy postbox ∧ Apart postbox postLedger 0 ⟨"b"⟩ ∧
      cramped.channels[0]? = some (.empty 1) ∧
      Attended postbox postLedger 0 ⟨"b"⟩ cramped hardships
        (hear postbox 0 (.connection .connected) resigned).2 ∧
      ∃ channel' taken,
        (hear postbox 0 (.connection .connected) resigned).2.channels[0]? = some channel' ∧
          taken ++ channel'.waiting = [.connection .connected, .changed updatedCard] := by
  have hkept : postLedger.KeptBy postbox := fun _ _ => ⟨rfl, rfl⟩
  have hapart : Apart postbox postLedger 0 ⟨"b"⟩ := fun _ _ _ => passage_of_same rfl rfl rfl
  have hstart : cramped.channels[0]? = some (.empty 1) := by decide
  have hsole : ∀ hub : Hub (Option String), hub.roster.entries =
      [(⟨"a"⟩, .handler (some "offline")), (⟨"b"⟩, .channel 0)] → Sole 0 ⟨"b"⟩ hub := by
    intro hub hentries key
    rw [Roster.get?_eq_some_iff, hentries]
    simp
  have hfull : Attended postbox postLedger 0 ⟨"b"⟩ cramped (hardships.take 2) crowded :=
    .heard (.heard .rest (by decide) (hsole _ (by decide)) (by decide)) (by decide)
      (hsole _ (by decide)) (by decide +kernel)
  have hfetched : Attended postbox postLedger 0 ⟨"b"⟩ cramped (hardships.take 2) relieved :=
    .received hfull
      (show _ = some (Channel.mk 1 [.connection .connected] false) by decide +kernel) rfl
      (by rw [relieved]) (by simp only [relieved, postLedger]) (by rw [relieved, postLedger])
  have hrefilled : Attended postbox postLedger 0 ⟨"b"⟩ cramped (hardships.take 4) refilled :=
    .heard (.heard hfetched (by decide +kernel) (hsole _ (by decide +kernel)) (by decide +kernel))
      (by decide +kernel) (hsole _ (by decide +kernel)) (by decide +kernel)
  have hclosed : Attended postbox postLedger 0 ⟨"b"⟩ cramped (hardships.take 4) resigned :=
    .shut hrefilled (by decide +kernel)
  have hrun : Attended postbox postLedger 0 ⟨"b"⟩ cramped hardships
      (hear postbox 0 (.connection .connected) resigned).2 :=
    .heard hclosed (by decide +kernel) (hsole _ (by decide +kernel)) (by decide +kernel)
  have hentered :
      hardships.flatMap Heard.entered = [.connection .connected, .changed updatedCard] := by
    decide +kernel
  obtain ⟨⟨channel', taken, hchannel', -, -, -, haccount⟩, -⟩ :=
    queue_accounts hkept hapart hrun hstart (Nat.zero_le _)
  exact ⟨hkept, hapart, hstart, hrun, channel', taken, hchannel', haccount.trans hentered⟩

end Hub

end CardService.Subscription
