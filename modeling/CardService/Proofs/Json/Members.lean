import CardService.Json.Basic
import Mathlib.Data.List.Perm.Basic

/-!
# CardService — looking up members

Which value stands under a key, for each way to put members together.
-/

namespace CardService.Members

variable {α : Type} (k key : String) (v : Json) (members rest : Members)

@[simp] theorem get?_nil : get? [] key = none := by
  rw [get?, List.lookup_nil]

@[simp] theorem get?_cons :
    get? ((k, v) :: rest) key = if key = k then some v else rest.get? key := by
  rw [get?, List.lookup_cons]
  by_cases h : key = k
  · rw [if_pos h, beq_iff_eq.mpr h]
  · rw [if_neg h, beq_eq_false_iff_ne.mpr h]
    rfl

@[simp] theorem get?_append : get? (members ++ rest) key = (members.get? key).or (rest.get? key) :=
  List.lookup_append

@[simp] theorem get?_optional (f : α → Json) (a : Option α) :
    (optional k f a).get? key = if key = k then a.map f else none := by
  cases a with
  | none => rw [Option.map_none, ite_self]; rfl
  | some a => exact get?_cons k key (f a) []

/-- Another value under one key leaves all other keys as they were. -/
theorem get?_insert :
    (members.insert k v).get? key = if key = k then some v else members.get? key := by
  induction members with
  | nil => exact get?_cons k key v []
  | cons member members ih =>
    obtain ⟨k', v'⟩ := member
    rw [insert]
    by_cases hk : k' = k
    · rw [if_pos hk, get?_cons, get?_cons, hk]
      split <;> rfl
    · rw [if_neg hk, get?_cons, get?_cons, ih]
      split
      · next h => rw [if_neg (h ▸ hk)]
      · rfl

/-- Without the members under one key, all other keys hold what they held. -/
theorem get?_filter_ne (h : key ≠ k) :
    get? (members.filter fun member => member.1 ≠ k) key = members.get? key := by
  induction members with
  | nil => rfl
  | cons member members ih =>
    obtain ⟨k', v'⟩ := member
    rw [List.filter_cons]
    by_cases hk : k' = k
    · subst hk
      rw [if_neg (by simp), ih, get?_cons, if_neg h]
    · rw [if_pos (by simpa using hk), get?_cons, get?_cons, ih]

/-- Where no key is repeated, the order of the members makes no difference. -/
theorem get?_perm {members members' : Members} (hperm : members.Perm members')
    (hkeys : (members.map Prod.fst).Nodup) : members.get? key = members'.get? key := by
  induction hperm with
  | nil => rfl
  | cons member _ ih =>
    obtain ⟨k, v⟩ := member
    rw [get?_cons, get?_cons, ih (List.nodup_cons.mp hkeys).2]
  | swap member other rest =>
    obtain ⟨k, v⟩ := member
    obtain ⟨k', v'⟩ := other
    -- the key is found in one of two neighbours at most
    have hne : k' ≠ k := fun h => (List.nodup_cons.mp hkeys).1 (h ▸ List.mem_cons_self)
    rw [get?_cons, get?_cons, get?_cons, get?_cons]
    by_cases hk : key = k
    · subst hk
      simp only [if_true, if_neg hne.symm]
    · simp only [if_neg hk]
  | trans hperm _ ih ih' =>
    exact (ih hkeys).trans (ih' ((hperm.map Prod.fst).nodup_iff.mp hkeys))

theorem optional_keys_sublist (f : α → Json) (a : Option α) :
    ((optional k f a).map Prod.fst).Sublist [k] := by
  cases a with
  | none => exact List.nil_sublist _
  | some a => exact .refl _

@[simp] theorem get?_object : (Json.object members).get? key = members.get? key := rfl

end CardService.Members
