import CardService.Identifier

/-!
# CardService — rosters

Who is subscribed: a table from subscription ids, in their order and each at most once.
-/

namespace CardService.Subscription

/-- Entries whose ids ascend. -/
def Ascending {α : Type} (entries : List (SubscriptionId × α)) : Prop :=
  entries.Pairwise fun a b => a.1.text < b.1.text

/-- Subscribers by their ids. -/
structure Roster (α : Type) where
  entries : List (SubscriptionId × α)
  ascending : Ascending entries

namespace Roster

variable {α : Type}

/-- Nobody. -/
def empty : Roster α := ⟨[], .nil⟩

instance : Inhabited (Roster α) := ⟨empty⟩

/-- The number of subscribers. -/
def size (roster : Roster α) : Nat := roster.entries.length

/-- Whether there is no subscriber. -/
def isEmpty (roster : Roster α) : Bool := roster.entries.isEmpty

/-- The ids, in order. -/
def ids (roster : Roster α) : List SubscriptionId := roster.entries.map Prod.fst

/-- The subscriber of an id. -/
def get? (roster : Roster α) (id : SubscriptionId) : Option α := roster.entries.lookup id

/-- Puts an entry in its place among others, instead of one with the same id. -/
def place (id : SubscriptionId) (a : α) : List (SubscriptionId × α) → List (SubscriptionId × α)
  | [] => [(id, a)]
  | (key, b) :: rest =>
    if key = id then (id, a) :: rest
    else if id.text < key.text then (id, a) :: (key, b) :: rest
    else (key, b) :: place id a rest

theorem mem_place {id : SubscriptionId} {a : α} {entries : List (SubscriptionId × α)}
    {x : SubscriptionId × α} (h : x ∈ place id a entries) : x = (id, a) ∨ x ∈ entries := by
  induction entries with
  | nil => simpa [place] using h
  | cons head rest ih =>
    obtain ⟨key, b⟩ := head
    simp only [place] at h
    split at h
    · simp only [List.mem_cons] at h ⊢
      rcases h with h | h
      · exact .inl h
      · exact .inr (.inr h)
    · split at h
      · simpa only [List.mem_cons] using h
      · simp only [List.mem_cons] at h ⊢
        rcases h with h | h
        · exact .inr (.inl h)
        · exact (ih h).imp_right .inr

theorem ascending_place (id : SubscriptionId) (a : α) {entries : List (SubscriptionId × α)}
    (h : Ascending entries) : Ascending (place id a entries) := by
  induction entries with
  | nil => exact List.pairwise_singleton _ _
  | cons head rest ih =>
    obtain ⟨key, b⟩ := head
    have hrest := List.pairwise_cons.mp h
    simp only [place]
    split
    · rename_i hkey
      subst hkey
      exact List.pairwise_cons.mpr hrest
    · rename_i hkey
      split
      · rename_i hlt
        refine List.pairwise_cons.mpr ⟨fun x hx => ?_, h⟩
        rcases List.mem_cons.mp hx with rfl | hx
        · exact hlt
        · exact String.lt_trans hlt (hrest.1 x hx)
      · rename_i hlt
        have hgt : key.text < id.text := by
          refine Std.lt_of_le_of_ne (String.not_lt.mp hlt) fun heq => hkey ?_
          cases key
          cases id
          exact congrArg Identifier.mk heq
        refine List.pairwise_cons.mpr ⟨fun x hx => ?_, ih hrest.2⟩
        rcases mem_place hx with rfl | hx
        · exact hgt
        · exact hrest.1 x hx

/-- Subscribes someone under an id, in place of whoever was there. -/
def insert (roster : Roster α) (id : SubscriptionId) (a : α) : Roster α :=
  ⟨place id a roster.entries, ascending_place id a roster.ascending⟩

/-- Removes the subscriber of an id. -/
def erase (roster : Roster α) (id : SubscriptionId) : Roster α :=
  ⟨roster.entries.filter fun entry => decide (entry.1 ≠ id), roster.ascending.filter _⟩

end Roster

end CardService.Subscription
