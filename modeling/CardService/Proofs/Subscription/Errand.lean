import CardService.Proofs.Subscription.Mirroring

/-!
# CardService — what a hub asks of its watcher

A hub sends its watcher on errands: it has watches started, and cancelled. Surroundings are made to
list these errands beside their world (`Surroundings.listing`), so that a run leaves behind what was
asked in the course of it, in order.

Listing changes nothing else: whatever is listed, listing surroundings mirror the original ones
(`Surroundings.listing_mirrors`). So calls in a row, after which the hub is given up, have the same
answers, and leave the same hub, channels and world (`Follows.lifetime`).
-/

namespace CardService.Subscription

/-! ## Errands -/

/-- What a hub asks of its watcher: to start a watch under a mark, which is granted or not, or to
cancel the watch of a mark. -/
inductive Errand where
  | start (mark : Nat) (granted : Bool)
  | cancel (mark : Nat)
  deriving DecidableEq

/-- Whether a watch is handed out. -/
def StartOutcome.granted : StartOutcome → Bool
  | .started => true
  | _ => false

variable {World Handler : Type}

/-- A station without the errands beside its world. -/
def Station.plain (s : Station (World × List Errand) Handler) : Station World Handler :=
  { s with world := s.world.1 }

namespace Surroundings

/-- Starts a watch, and lists that it was asked for. -/
def listStart (watch : Nat → Backend.Request → StateM World StartAnswer) (mark : Nat)
    (request : Backend.Request) : StateM (World × List Errand) StartAnswer :=
  fun (world, errands) =>
    let (answer, world) := watch mark request world
    (answer, world, errands ++ [.start mark answer.outcome.granted])

/-- Surroundings that list all errands beside the world, and are otherwise the same. -/
def listing (around : Surroundings World Handler) :
    Surroundings (World × List Errand) Handler where
  watch := around.watch.map listStart
  cancel := fun mark (world, errands) =>
    let (events, world) := around.cancel mark world
    (events, world, errands ++ [.cancel mark])
  audit := fun event (world, errands) =>
    let (_, world) := around.audit event world
    ((), world, errands)
  tell := fun handler notice s =>
    let (failure, t) := around.tell handler notice s.plain
    (failure, { t with world := (t.world, s.world.2) })

variable {around : Surroundings World Handler}

theorem listing_watch_of_none (hwatch : around.watch = none) : around.listing.watch = none :=
  congrArg (Option.map listStart) hwatch

theorem listing_watch_of_some {watch : Nat → Backend.Request → StateM World StartAnswer}
    (hwatch : around.watch = some watch) : around.listing.watch = some (listStart watch) :=
  congrArg (Option.map listStart) hwatch

/-! ## Listing changes nothing -/

/-- Whatever is listed, listing surroundings do what the original ones do. -/
theorem listing_mirrors (around : Surroundings World Handler) :
    around.listing.Mirrors (fun world' world => world'.1 = world) around where
  watch := by
    show Option.Rel _ (around.watch.map listStart) around.watch
    cases around.watch with
    | none => exact .none
    | some watch =>
      refine .some fun mark request => ?_
      rintro world' _ rfl
      exact ⟨rfl, rfl⟩
  cancel := by
    rintro mark world' _ rfl
    exact ⟨rfl, rfl⟩
  audit := by
    rintro event world' _ rfl
    exact ⟨rfl, rfl⟩
  tell := by
    rintro handler notice ⟨hub, channels, world'⟩ ⟨_, _, _⟩ ⟨rfl, rfl, rfl⟩
    exact ⟨rfl, rfl, rfl, rfl⟩

end Surroundings

namespace Hub

/-- An action does what another one does, apart from the errands that it lists. -/
def Follows {α : Type} (act' : Action (World × List Errand) Handler α)
    (act : Action World Handler α) : Prop :=
  ∀ s, act s.plain = ((act' s).1, (act' s).2.plain)

theorem Mirrors.follows {α : Type} {act' : Action (World × List Errand) Handler α}
    {act : Action World Handler α}
    (hmirrors : Mirrors (fun world' world => world'.1 = world) act' act) : Follows act' act := by
  intro s
  obtain ⟨hresult, hhub, hchannels, hworld⟩ := hmirrors s s.plain ⟨rfl, rfl, rfl⟩
  have hafter : (act s.plain).2 = (act' s).2.plain := by
    show _ = Station.mk _ _ _
    rw [hhub, hchannels, hworld]
  exact Prod.ext hresult.symm hafter

/-- Calls in a row, after which the hub is given up. -/
def lifetime (around : Surroundings World Handler) (calls : List (Call Handler)) :
    Action World Handler (List (Deed Handler)) := do
  let deeds ← callAll around calls
  release around
  return deeds

theorem Follows.lifetime (around : Surroundings World Handler) (calls : List (Call Handler)) :
    Follows (Hub.lifetime around.listing calls) (Hub.lifetime around calls) := by
  have hmirrors := around.listing_mirrors
  refine Mirrors.follows ?_
  exact (Mirrors.callAll hmirrors calls).bind fun deeds =>
    (Mirrors.release hmirrors).bind fun _ => .pure deeds

end Hub

end CardService.Subscription
