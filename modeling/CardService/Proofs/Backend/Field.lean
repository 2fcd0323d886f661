import CardService.Backend.Field

/-!
# CardService — fields, understood

Which fields of a record are understood, and as what: an instant if it can be told, and a keyword if
it is the name of a value, which is then the value.
-/

namespace CardService.Backend

/-! ## Instants -/

section Instant

-- Stated of any double first: of a finite one, the conversion would be computed with.
variable {x : Double} {ms : Binary64} {t : Timestamp} {failure : Failure}

theorem instant_eq_ok_iff : instant x = .ok t ↔ Timestamp.ofEpochMs? x = some t := by
  unfold instant
  cases Timestamp.ofEpochMs? x with
  | none => exact ⟨nofun, nofun⟩
  | some t' => rw [Except.ok.injEq, Option.some.injEq]

theorem instant_eq_error_iff :
    instant x = .error failure ↔
      Timestamp.ofEpochMs? x = none ∧ failure = .unexpected (.invalidEpochMs x) := by
  unfold instant
  cases Timestamp.ofEpochMs? x with
  | none => rw [Except.error.injEq, eq_comm, eq_self, true_and]
  | some t' => exact ⟨nofun, nofun⟩

theorem instantOf_eq_ok_iff :
    instantOf ms = .ok t ↔ Timestamp.ofEpochMs? (.finite ms) = some t :=
  instant_eq_ok_iff

theorem instantOf_eq_error_iff :
    instantOf ms = .error failure ↔
      Timestamp.ofEpochMs? (.finite ms) = none ∧
        failure = .unexpected (.invalidEpochMs (.finite ms)) :=
  instant_eq_error_iff

end Instant

/-! ## Keywords -/

section Keywords

/-- The names of the values of a type. -/
def names (α : Type) [Keyword α] : List String := (Keyword.all : List α).map Keyword.name

variable {α : Type} [Keyword α] {field name : String} {a : α} {failure : Failure}

theorem keyword_eq_ok_iff : keyword field name = .ok a ↔ Keyword.parse? name = some a := by
  unfold keyword
  cases (Keyword.parse? name : Option α) with
  | none => exact ⟨nofun, nofun⟩
  | some b => rw [Except.ok.injEq, Option.some.injEq]

theorem name_of_keyword (h : keyword field name = .ok a) : Keyword.name a = name := by
  simpa using List.find?_some (keyword_eq_ok_iff.mp h)

theorem mem_names_of_keyword (h : keyword field name = .ok a) : name ∈ names α :=
  name_of_keyword h ▸ List.mem_map_of_mem (List.mem_of_find?_eq_some (keyword_eq_ok_iff.mp h))

theorem keyword_eq_error_iff :
    (keyword field name : Except Failure α) = .error failure ↔
      name ∉ names α ∧ failure = .unexpected (.unknownKeyword field name) := by
  have hnone : (Keyword.parse? name : Option α) = none ↔ name ∉ names α := by
    simp [Keyword.parse?, names]
  rw [← hnone, keyword]
  cases (Keyword.parse? name : Option α) with
  | none => rw [Except.error.injEq, eq_comm, eq_self, true_and]
  | some b => exact ⟨nofun, nofun⟩

end Keywords

end CardService.Backend
