import CardService.Proofs.Subscription.Errand

/-!
# CardService — watches are cancelled once

Whoever has a watch started holds a handle to it, and has to cancel it. A hub keeps to a simple
protocol with its watcher (`Orderly`): it asks for a watch only when it holds no handle, and cancels
the handle that it holds. `Accounted` says that the errands so far are orderly and that the handle
which is out is that of the running watch; each action of a hub keeps it, and giving the hub up
leaves no handle.

Main results:

* `Call.act_accounted` — each call keeps the errands accounted for.
* `Orderly.count_start` — a handle is cancelled once, unless it is still out.
* `handles_cancelled_once` — what calls in a row on a new hub, and giving it up, come to.
-/

namespace CardService.Subscription

/-! ## The protocol -/

/-- The errands of someone who holds a single handle at most, and the mark of that handle. -/
inductive Orderly : List Errand → Option Nat → Prop where
  | nil : Orderly [] none
  | granted {past mark} (hpast : Orderly past none) (hnew : .start mark true ∉ past) :
      Orderly (past ++ [.start mark true]) (some mark)
  | refused {past mark} (hpast : Orderly past none) : Orderly (past ++ [.start mark false]) none
  | cancelled {past mark} (hpast : Orderly past (some mark)) :
      Orderly (past ++ [.cancel mark]) none

/-- A handle that was handed out, and not cancelled. -/
def Outstanding (errands : List Errand) (mark : Nat) : Prop :=
  .start mark true ∈ errands ∧ .cancel mark ∉ errands

namespace Orderly

variable {errands done : List Errand} {handle : Option Nat}

/-- What is orderly was so at every moment. -/
theorem of_isPrefix (horderly : Orderly errands handle) (hdone : done <+: errands) :
    ∃ handle', Orderly done handle' := by
  induction horderly with
  | nil => exact ⟨none, List.prefix_nil.mp hdone ▸ .nil⟩
  | granted hpast hnew ih =>
    rcases List.prefix_concat_iff.mp hdone with rfl | hdone
    · exact ⟨_, .granted hpast hnew⟩
    · exact ih hdone
  | refused hpast ih =>
    rcases List.prefix_concat_iff.mp hdone with rfl | hdone
    · exact ⟨_, .refused hpast⟩
    · exact ih hdone
  | cancelled hpast ih =>
    rcases List.prefix_concat_iff.mp hdone with rfl | hdone
    · exact ⟨_, .cancelled hpast⟩
    · exact ih hdone

/-- A watch is asked for only when no handle is out. -/
theorem of_start {mark : Nat} {granted : Bool}
    (horderly : Orderly (done ++ [.start mark granted]) handle) : Orderly done none := by
  generalize herrands : done ++ [Errand.start mark granted] = errands at horderly
  cases horderly with
  | nil => simp at herrands
  | granted hpast hnew => exact (List.append_inj' herrands rfl).1 ▸ hpast
  | refused hpast => exact (List.append_inj' herrands rfl).1 ▸ hpast
  | cancelled hpast => simp at herrands

/-- A handle was handed out as often as it was cancelled, and once more if it is out. -/
theorem count_start (horderly : Orderly errands handle) (mark : Nat) :
    errands.count (.start mark true) =
      errands.count (.cancel mark) + if handle = some mark then 1 else 0 := by
  induction horderly with
  | nil => rfl
  | @granted past other hpast hnew ih =>
    -- only the counts of the mark itself change, and only its handle is out or in
    by_cases hmark : other = mark <;> simp_all [List.count_append]
  | refused hpast ih => simp_all [List.count_append]
  | @cancelled past other hpast ih =>
    by_cases hmark : other = mark <;> simp_all [List.count_append]

/-- No mark is handed out twice. -/
theorem count_start_le (horderly : Orderly errands handle) (mark : Nat) :
    errands.count (.start mark true) ≤ 1 := by
  induction horderly with
  | nil => exact Nat.zero_le 1
  | @granted past other hpast hnew ih =>
    by_cases hmark : other = mark
    · subst hmark
      simp [List.count_append, List.count_eq_zero_of_not_mem hnew]
    · simpa [List.count_append, hmark] using ih
  | refused hpast ih => simpa [List.count_append] using ih
  | cancelled hpast ih => simpa [List.count_append] using ih

theorem outstanding_iff (horderly : Orderly errands handle) {mark : Nat} :
    Outstanding errands mark ↔ handle = some mark := by
  have hcount := horderly.count_start mark
  have hle := horderly.count_start_le mark
  rw [Outstanding, ← List.count_pos_iff, ← List.count_eq_zero]
  split at hcount
  · rename_i hhandle
    simp only [hhandle, iff_true]
    omega
  · rename_i hhandle
    simp only [hhandle, iff_false]
    omega

end Orderly

namespace Hub

variable {World Handler : Type} {around : Surroundings World Handler}
variable {s t : Station (World × List Errand) Handler}

/-! ## Accounting for errands -/

/-- The errands so far are orderly, and the handle that is out is that of the running watch. -/
structure Accounted (s : Station (World × List Errand) Handler) : Prop where
  orderly : Orderly s.world.2 (s.hub.running.map Watch.mark)
  issued : ∀ mark, .start mark true ∈ s.world.2 → mark < s.hub.nextMark

/-- Errands are not touched by anything that runs no errands. -/
theorem Accounted.of_eq (haccounted : Accounted s) (herrands : t.world.2 = s.world.2)
    (hrunning : t.hub.running = s.hub.running) (hnext : t.hub.nextMark = s.hub.nextMark) :
    Accounted t := by
  constructor
  · rw [herrands, hrunning]
    exact haccounted.orderly
  · rw [herrands, hnext]
    exact haccounted.issued

/-- Telling subscribers is no errand. -/
theorem kept_errands (around : Surroundings World Handler) (errands : List Errand) :
    Kept around.listing fun t => t.world.2 = errands where
  told := by
    intro subscriber notice t h
    cases subscriber with
    | handler handler => exact h
    | channel number => exact h
  noted := fun _ _ h => h
  connected := fun _ _ h => h

theorem reticent_listing (hquiet : Reticent around) : Reticent around.listing :=
  fun handler notice s hlocked => hquiet handler notice s.plain hlocked

/-- Cancelling the running watch returns the handle. -/
theorem cancelRunning_accounted (around : Surroundings World Handler)
    (hnodup : s.hub.live.Nodup) (haccounted : Accounted s) :
    Accounted (cancelRunning around.listing s).2 := by
  cases hrunning : s.hub.running with
  | none =>
    rw [cancelRunning_of_none hrunning]
    exact haccounted
  | some watch =>
    have horderly := haccounted.orderly
    rw [hrunning] at horderly
    rw [cancelRunning_of_some hrunning hnodup]
    constructor
    · show Orderly (s.world.2 ++ [.cancel watch.mark]) (s.hub.cancelled.running.map Watch.mark)
      rw [cancelled_running]
      exact .cancelled horderly
    · intro mark hmark
      show mark < s.hub.cancelled.nextMark
      rw [cancelled_nextMark]
      rcases List.mem_append.mp hmark with hmark | hmark
      · exact haccounted.issued mark hmark
      · simp at hmark

theorem stop_accounted (around : Surroundings World Handler) (hnodup : s.hub.live.Nodup)
    (haccounted : Accounted s) : Accounted (stop around.listing s).2 := by
  rw [stop, bind_run, adjust_run]
  exact (cancelRunning_accounted around hnodup haccounted).of_eq rfl rfl rfl

theorem dropAll_errands (around : Surroundings World Handler) (previous : String)
    (s : Station (World × List Errand) Handler) :
    (dropAll around.listing previous s).2.world.2 = s.world.2 := by
  have hnotes : ∀ (ids : List SubscriptionId) (t : Station (World × List Errand) Handler),
      (dropAll.noteAll around.listing previous ids t).2.world.2 = t.world.2 := by
    intro ids
    induction ids with
    | nil => intro t; rfl
    | cons id rest ih => intro t; exact ih _
  rw [dropAll, bind_run, get_run, bind_run, adjust_run, hnotes]

/-- Making way for a watch returns the handle of the one before. -/
theorem clearWay_accounted (around : Surroundings World Handler) (hnodup : s.hub.live.Nodup)
    (haccounted : Accounted s) : Accounted (clearWay around.listing s).2 := by
  cases hrunning : s.hub.running with
  | none =>
    rw [clearWay_of_none hrunning]
    exact haccounted
  | some current =>
    have hstopped := stop_accounted around hnodup haccounted
    rw [clearWay, bind_run, get_run]
    simp only [hrunning, bind_run]
    refine hstopped.of_eq (dropAll_errands around _ _) ?_ ?_
    · rw [dropAll_hub]
    · rw [dropAll_hub]

variable {watch : Nat → Backend.Request → StateM World StartAnswer} {id : SubscriptionId}
variable {owner : String} {subscriber : Subscriber Handler}

/-- A watch is asked for once, and nothing of what it reports right away is an errand. -/
theorem attempt_errands (around : Surroundings World Handler)
    (watch : Nat → Backend.Request → StateM World StartAnswer) (id : SubscriptionId)
    (owner : String) (subscriber : Subscriber Handler)
    (s : Station (World × List Errand) Handler) :
    (attempt around.listing (Surroundings.listStart watch) id owner subscriber s).2.world.2 =
      s.world.2 ++ [.start s.hub.nextMark (attempt around.listing (Surroundings.listStart watch) id
        owner subscriber s).1.outcome.granted] := by
  rw [attempt, bind_run, get_run, bind_run, adjust_run, bind_run, outside_run, bind_run, pure_run]
  exact (kept_errands around _).hearAll _ _ rfl

/-- A start hands out the handle of the watch that runs afterwards, or none. -/
theorem start_accounted (hquiet : Reticent around) (hrunning : s.hub.running = none)
    (hpoisoned : s.hub.poisoned = false) (haccounted : Accounted s) :
    Accounted (start around.listing (Surroundings.listStart watch) id owner subscriber s).2 := by
  have halike : Alike (s.hub.opened id subscriber)
      (attempt around.listing (Surroundings.listStart watch) id owner subscriber s).2.hub :=
    attempt_hub (reticent_listing hquiet) hrunning hpoisoned
  have herrands := attempt_errands around watch id owner subscriber s
  have horderly := haccounted.orderly
  rw [hrunning] at horderly
  rw [start_eq]
  generalize attempt around.listing (Surroundings.listStart watch) id owner subscriber s = attempted
    at halike herrands
  obtain ⟨⟨events, outcome⟩, t⟩ := attempted
  have hnone : t.hub.running = none := halike.running.trans hrunning
  have hissued : ∀ mark, .start mark true ∈ t.world.2 → mark < t.hub.nextMark := by
    intro mark hmark
    rw [halike.nextMark]
    rw [herrands] at hmark
    rcases List.mem_append.mp hmark with hmark | hmark
    · exact Nat.lt_succ_of_lt (haccounted.issued mark hmark)
    · obtain ⟨rfl, -⟩ : mark = s.hub.nextMark ∧ _ := by simpa using hmark
      exact Nat.lt_succ_self _
  cases outcome with
  | started =>
    refine ⟨?_, hissued⟩
    show Orderly t.world.2 (some s.hub.nextMark)
    rw [herrands]
    -- the mark is a new one, since all marks so far lie below it
    exact .granted horderly fun hmem => Nat.lt_irrefl _ (haccounted.issued _ hmem)
  | refused fault =>
    refine ⟨?_, hissued⟩
    show Orderly t.world.2 (t.hub.running.map Watch.mark)
    rw [herrands, hnone]
    exact .refused horderly
  | crashed =>
    refine ⟨?_, hissued⟩
    show Orderly t.world.2 (t.hub.running.map Watch.mark)
    rw [herrands, hnone]
    exact .refused horderly

/-! ## Calls -/

theorem subscribe_accounted (hquiet : Reticent around) (hnodup : s.hub.live.Nodup)
    (hfree : ¬ s.hub.Locked) (haccounted : Accounted s) :
    Accounted (subscribe around.listing id owner subscriber s).2 := by
  cases hwatch : around.watch with
  | none =>
    rw [subscribe_unavailable (Surroundings.listing_watch_of_none hwatch)]
    exact haccounted
  | some watch =>
    have hlisting := Surroundings.listing_watch_of_some hwatch
    cases hpoisoned : s.hub.poisoned with
    | true =>
      rw [subscribe_poisoned hlisting hpoisoned]
      exact haccounted
    | false =>
      rcases s.hub.idle_or_runs_for owner with hidle | ⟨current, hrunning, rfl⟩
      · have hclear := clearWay_hub around.listing hnodup hfree hpoisoned
        rw [subscribe_fresh hlisting hpoisoned hidle]
        refine start_accounted hquiet ?_ ?_ (clearWay_accounted around hnodup haccounted)
        · exact hclear.running.trans (cancelled_running _)
        · exact hclear.poisoned.trans ((cancelled_poisoned _).trans hpoisoned)
      · rw [subscribe_joined hlisting hpoisoned hrunning]
        exact haccounted.of_eq rfl rfl rfl

theorem unsubscribe_accounted (around : Surroundings World Handler) (hnodup : s.hub.live.Nodup)
    (haccounted : Accounted s) : Accounted (unsubscribe around.listing id s).2 := by
  have herased : Accounted { s with hub := { s.hub with roster := s.hub.roster.erase id } } :=
    haccounted.of_eq rfl rfl rfl
  rw [unsubscribe, bind_run, get_run, ite_run]
  split
  · exact haccounted
  · rw [bind_run, adjust_run, bind_run, get_run, ite_run]
    split
    · exact stop_accounted around hnodup herased
    · exact herased

theorem unsubscribeAll_accounted (around : Surroundings World Handler)
    (hnodup : s.hub.live.Nodup) (haccounted : Accounted s) :
    Accounted (unsubscribeAll around.listing s).2 := by
  rw [unsubscribeAll, bind_run, get_run, ite_run]
  split
  · exact haccounted
  · exact stop_accounted around hnodup (haccounted.of_eq rfl rfl rfl)

theorem Call.act_accounted (hquiet : Reticent around) (hnodup : s.hub.live.Nodup)
    (hfree : ¬ s.hub.Locked) (haccounted : Accounted s) (call : Call Handler) :
    Accounted (call.act around.listing s).2 := by
  cases call with
  | subscribe id owner subscriber => exact subscribe_accounted hquiet hnodup hfree haccounted
  | unsubscribe id => exact unsubscribe_accounted around hnodup haccounted
  | unsubscribeAll => exact unsubscribeAll_accounted around hnodup haccounted

theorem callAll_accounted (hquiet : Reticent around) (calls : List (Call Handler))
    (hwired : Wired around.listing s.hub) (hfree : ¬ s.hub.Locked) (haccounted : Accounted s) :
    Accounted (callAll around.listing calls s).2 := by
  induction calls generalizing s with
  | nil => exact haccounted
  | cons call rest ih =>
    have hturn := call.act_turn (reticent_listing hquiet) hwired.nodup hfree
    exact ih (hturn.wired hwired) (hturn.free hfree)
      (call.act_accounted hquiet hwired.nodup hfree haccounted)

/-- A hub that was given up holds no handle. -/
theorem release_orderly (hwired : Wired around.listing s.hub) (haccounted : Accounted s) :
    Orderly (release around.listing s).2.world.2 none := by
  have hended : (release around.listing s).2.hub.running = none := by
    rw [release_hub hwired.nodup]
    split
    · rename_i hpoisoned
      exact hwired.running_of_poisoned hpoisoned
    · exact cancelled_running s.hub
  have hkept : Accounted (release around.listing s).2 := by
    rw [release, bind_run, get_run, ite_run]
    split
    · exact haccounted
    · exact cancelRunning_accounted around hwired.nodup haccounted
  have horderly := hkept.orderly
  rw [hended] at horderly
  exact horderly

/-- Whatever calls are made in a row on a new hub, and whatever comes of each start, until the hub
is given up: each handle that was handed out is cancelled exactly once, and nothing else is; no two
handles are out at the same moment; and whenever a watch is asked for, no handle is out. This is so
of the run as it is, since listing the errands changes nothing of it. -/
theorem handles_cancelled_once (hquiet : Reticent around) (calls : List (Call Handler))
    (channels : List Channel) (world : World) {deeds : List (Deed Handler)}
    (hrun : lifetime around.listing calls ⟨.empty, channels, world, []⟩ = (deeds, t)) :
    lifetime around calls ⟨.empty, channels, world⟩ = (deeds, t.plain) ∧
    (∀ mark, .start mark true ∈ t.world.2 →
      t.world.2.count (.start mark true) = 1 ∧ t.world.2.count (.cancel mark) = 1) ∧
    (∀ mark, .cancel mark ∈ t.world.2 → .start mark true ∈ t.world.2) ∧
    (∀ done, done <+: t.world.2 → ∀ mark mark',
      Outstanding done mark → Outstanding done mark' → mark = mark') ∧
    (∀ done mark granted, done ++ [.start mark granted] <+: t.world.2 →
      ∀ mark', ¬ Outstanding done mark') := by
  have hfollows := Follows.lifetime around calls ⟨.empty, channels, world, []⟩
  have hnew : Accounted (⟨.empty, channels, world, []⟩ : Station (World × List Errand) Handler) :=
    ⟨.nil, fun mark h => absurd h (by simp)⟩
  have hcourse := (callAll_new (reticent_listing hquiet) calls channels (world, [])).1
  have horderly := release_orderly (hcourse.wired (reticent_listing hquiet) wired_empty)
    (callAll_accounted hquiet calls wired_empty not_locked_empty hnew)
  have herrands : (release around.listing
      (callAll around.listing calls ⟨.empty, channels, world, []⟩).2).2 = t :=
    congrArg Prod.snd hrun
  rw [hrun] at hfollows
  rw [herrands] at horderly
  refine ⟨hfollows, fun mark hmark => ?_, fun mark hmark => ?_, fun done hdone mark mark' => ?_,
    fun done mark granted hdone mark' => ?_⟩
  · -- in the end no handle is out, so that both counts agree
    have hcount := horderly.count_start mark
    have hle := horderly.count_start_le mark
    have hpos := List.count_pos_iff.mpr hmark
    rw [if_neg (by simp)] at hcount
    omega
  · have hcount := horderly.count_start mark
    rw [if_neg (by simp)] at hcount
    exact List.count_pos_iff.mp (hcount ▸ List.count_pos_iff.mpr hmark)
  · -- what was done up to any moment is orderly too, with one handle at most
    obtain ⟨handle, hbefore⟩ := horderly.of_isPrefix hdone
    rw [hbefore.outstanding_iff, hbefore.outstanding_iff]
    rintro rfl ⟨⟩
    rfl
  · obtain ⟨handle, hbefore⟩ := horderly.of_isPrefix hdone
    rw [hbefore.of_start.outstanding_iff]
    exact fun h => absurd h (by simp)

/-- What the watcher of some calls, the second start of which is refused, is asked for until the hub
is given up. -/
def restartEnded : List (Deed Unit) × Station (Nat × List Errand) Unit :=
  lifetime flaky.listing restart ⟨.empty, [], 0, []⟩

/-- Two handles are handed out, one before the refusal and one after it. -/
theorem handles_cancelled_once_restart :
    Reticent flaky ∧
      restartEnded.2.world.2 =
        [.start 0 true, .cancel 0, .start 1 false, .start 2 true, .cancel 2] ∧
      lifetime flaky restart ⟨.empty, [], 0⟩ = (restartEnded.1, restartEnded.2.plain) ∧
      restartEnded.2.world.2.count (.cancel 2) = 1 ∧
      ∀ mark, ¬ Outstanding [.start 0 true, .cancel 0, .start 1 false] mark := by
  have hquiet : Reticent flaky := fun _ _ s _ => .refl s.hub
  have hrun : lifetime flaky.listing restart ⟨.empty, [], 0, []⟩ =
    (restartEnded.1, restartEnded.2) := (Prod.eta restartEnded).symm
  have herrands : restartEnded.2.world.2 =
    [.start 0 true, .cancel 0, .start 1 false, .start 2 true, .cancel 2] := by decide +kernel
  obtain ⟨hplain, honce, -, -, hnone⟩ := handles_cancelled_once hquiet restart [] 0 hrun
  rw [herrands] at honce hnone
  refine ⟨hquiet, herrands, hplain, herrands ▸ (honce 2 (by decide)).2, ?_⟩
  exact hnone [.start 0 true, .cancel 0, .start 1 false] 2 true (by decide)

end Hub

end CardService.Subscription
