import CardService.Proofs.Text.Utf8Order
import CardService.Subscription.Roster

/-!
# CardService — who is on a roster

A roster is told by what `get?` finds: `get?_insert` and `get?_erase` say what subscribing and
unsubscribing change, and `get?_eq_some_iff` that nothing is found but what is listed. Entries are
listed in the order of the bytes of their ids (`entries_pairwise_idBytes`).
-/

namespace CardService.Subscription.Roster

variable {α : Type} {roster : Roster α} {id key : SubscriptionId} {a : α}

/-! ## Finding -/

private theorem lookup_cons_eq_ite (other : SubscriptionId) (b : α)
    (rest : List (SubscriptionId × α)) :
    ((other, b) :: rest).lookup key = if key = other then some b else rest.lookup key := by
  rw [List.lookup_cons]
  by_cases h : key = other
  · simp [h]
  · rw [beq_eq_false_iff_ne.mpr h, if_neg h]

/-- What is found under an id is an entry, and each entry is found. -/
theorem get?_eq_some_iff : roster.get? id = some a ↔ (id, a) ∈ roster.entries := by
  obtain ⟨entries, ascending⟩ := roster
  change entries.lookup id = some a ↔ (id, a) ∈ entries
  induction entries with
  | nil => simp
  | cons head rest ih =>
    obtain ⟨key, b⟩ := head
    obtain ⟨hhead, hrest⟩ := List.pairwise_cons.mp ascending
    rw [lookup_cons_eq_ite]
    by_cases hkey : id = key
    · subst hkey
      -- no later entry has the id of the first
      have hnot : (id, a) ∉ rest := fun hmem => String.lt_irrefl id.text (hhead (id, a) hmem)
      simp [hnot, eq_comm]
    · simp [hkey, ih hrest]

/-- Nobody is registered if and only if nothing is found. -/
theorem entries_eq_nil_iff : roster.entries = [] ↔ ∀ id, roster.get? id = none := by
  constructor
  · intro h id
    rw [get?, h, List.lookup_nil]
  · intro h
    rw [List.eq_nil_iff_forall_not_mem]
    rintro ⟨id, a⟩ hmem
    have hfound := get?_eq_some_iff.mpr hmem
    rw [h id] at hfound
    exact absurd hfound (by simp)

/-- A roster without entries is the empty one. -/
theorem eq_empty (h : roster.entries = []) : roster = .empty := by
  obtain ⟨entries, ascending⟩ := roster
  subst h
  rfl

theorem isEmpty_iff : roster.isEmpty = true ↔ roster.entries = [] := List.isEmpty_iff

theorem size_ne_zero_iff : roster.size ≠ 0 ↔ roster.entries ≠ [] := by
  rw [size, ne_eq, List.length_eq_zero_iff]

/-! ## Changing -/

/-- What `place` puts into a list is found there, and all else is found as before. -/
theorem lookup_place (entries : List (SubscriptionId × α)) :
    (place id a entries).lookup key = if key = id then some a else entries.lookup key := by
  induction entries with
  | nil => rw [place, lookup_cons_eq_ite]
  | cons head rest ih =>
    obtain ⟨other, b⟩ := head
    rw [place]
    split
    · rename_i hother
      subst hother
      rw [lookup_cons_eq_ite, lookup_cons_eq_ite]
      split <;> rfl
    · rename_i hother
      split
      · rw [lookup_cons_eq_ite]
      · rw [lookup_cons_eq_ite, lookup_cons_eq_ite, ih]
        by_cases h : key = other
        · simp [h, hother]
        · simp [h]

theorem get?_insert :
    (roster.insert id a).get? key = if key = id then some a else roster.get? key :=
  lookup_place roster.entries

theorem get?_erase :
    (roster.erase id).get? key = if key = id then none else roster.get? key := by
  ext b
  rw [get?_eq_some_iff, erase, List.mem_filter, ← get?_eq_some_iff]
  by_cases h : key = id <;> simp [h]

theorem get?_empty : (empty : Roster α).get? id = none := rfl

theorem entries_insert_ne_nil : (roster.insert id a).entries ≠ [] := by
  intro h
  have hnone := entries_eq_nil_iff.mp h id
  rw [get?_insert, if_pos rfl] at hnone
  exact absurd hnone (by simp)

/-! ## Order -/

/-- The bytes of an id, by which ids are ordered. -/
def idBytes (id : SubscriptionId) : List UInt8 := Utf8.encode id.text.toList

/-- Entries ascend by the bytes of their ids; in particular, no id is listed twice. -/
theorem entries_pairwise_idBytes (roster : Roster α) :
    roster.entries.Pairwise fun a b => idBytes a.1 < idBytes b.1 :=
  roster.ascending.imp Utf8.encode_lt_encode

/-- No id is listed twice. -/
theorem ids_nodup (roster : Roster α) : roster.ids.Nodup := by
  refine List.pairwise_map.mpr (roster.ascending.imp fun hlt heq => ?_)
  rw [heq] at hlt
  exact String.lt_irrefl _ hlt

end CardService.Subscription.Roster
