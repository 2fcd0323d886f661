import CardService.Proofs.Outcome
import CardService.Record.OfJson

/-!
# CardService — records, read back

A value is written in one way only. Whether that way reads as the same value again is a question of
its parts: a value without parts has been read, or is one of a bounded kind; a list reads back if
its items do; and a record does if its fields do and have different keys.
-/

namespace CardService.Record

variable {α β σ : Type}

/-! ## Reading back -/

/-- What is written for a value is read as this value. -/
def Shape.ReadsBack (shape : Shape α) (a : α) : Prop :=
  ∀ tagged, shape.read tagged (shape.write a) = .ok a

/-- The values of all fields read back. A field that may be left out is one with an optional value,
as far as it is read. -/
def Layout.ReadsBack : {β σ : Type} → Layout β σ → β → Prop
  | _, _, .done, () => True
  | _, _, .field _ _ shape rest, (a, b) => shape.ReadsBack a ∧ rest.ReadsBack b
  | _, _, .omittable _ shape rest, (a, b) => (Shape.optional shape).ReadsBack a ∧ rest.ReadsBack b

/-! ## Values without parts -/

@[simp] theorem readsBack_flag (b : Bool) : Shape.flag.ReadsBack b := fun _ => rfl

theorem readsBack_natural32 (n : UInt32) : Shape.natural32.ReadsBack n := by
  intro tagged
  have hfits : (0 : Int) ≤ n.toNat ∧ (n.toNat : Int) < 0x100000000 := by
    have := n.toNat_lt
    omega
  show natural32 (.ofUInt32 n) = .ok n
  rw [Number.ofUInt32, natural32, if_pos hfits, Int.toNat_natCast, UInt32.ofNat_toNat]

theorem readsBack_integer64 (n : Int64) : Shape.integer64.ReadsBack n := by
  intro tagged
  have hfits : -0x8000000000000000 ≤ n.toInt ∧ n.toInt < 0x8000000000000000 :=
    ⟨n.le_toInt, n.toInt_lt⟩
  show integer64 (.ofInt64 n) = .ok n
  rw [Number.ofInt64, integer64, if_pos hfits, Int64.ofInt_toInt]

section Keyword

variable {all : List α} {name : α → String} {a : α} {s : String}

theorem named_eq_ok_iff :
    named all name s = .ok a ↔ all.find? (fun b => name b == s) = some a := by
  unfold named
  cases all.find? fun b => name b == s with
  | none => exact ⟨nofun, nofun⟩
  | some b => rw [Except.ok.injEq, Option.some.injEq]

/-- A value that has been found by some name is found by its own name, which is the same. -/
theorem readsBack_of_named (h : named all name s = .ok a) :
    (Shape.keyword all name).ReadsBack a := by
  have hfound := named_eq_ok_iff.mp h
  have hname : name a = s := by simpa using List.find?_some hfound
  intro tagged
  show named all name (name a) = .ok a
  rw [hname, h]

theorem readsBack_keyword {tagged : Bool} {json : Json}
    (h : (Shape.keyword all name).read tagged json = .ok a) :
    (Shape.keyword all name).ReadsBack a := by
  cases json with
  | string s => exact readsBack_of_named h
  | object members =>
    match members, h with
    | [(key, value)], h =>
      obtain ⟨b, hnamed, hunit⟩ := Except.bind_eq_ok_iff.mp h
      split at hunit
      · cases hunit
        exact readsBack_of_named hnamed
      · cases hunit
    | [], h => cases h
    | _ :: _ :: _, h => cases h
  | _ => cases h

end Keyword

/-! ## Optional values and lists -/

@[simp] theorem readsBack_none (item : Shape α) : (Shape.optional item).ReadsBack none :=
  fun _ => rfl

@[simp] theorem readsBack_nil (item : Shape α) : (Shape.list item).ReadsBack [] := fun _ => rfl

theorem read_optional_of_ne_null {item : Shape α} {tagged : Bool} {json : Json}
    (hjson : json ≠ .null) :
    (Shape.optional item).read tagged json = some <$> item.read tagged json := by
  cases json with
  | null => exact absurd rfl hjson
  | _ => rfl

/-- Only nothing is written as `null`, unless `null` was read as something. -/
theorem write_ne_null : {α : Type} → (shape : Shape α) → {tagged : Bool} → {json : Json} → {a : α} →
    json ≠ .null → shape.read tagged json = .ok a → shape.write a ≠ .null
  | _, .anything, _, _, _, hjson, h => Except.ok.inj h ▸ hjson
  | _, .optional item, tagged, json, a, hjson, h => by
    rw [read_optional_of_ne_null hjson] at h
    obtain ⟨b, hread, rfl⟩ := Except.map_eq_ok_iff.mp h
    exact write_ne_null item hjson hread
  | _, .text, _, _, _, _, _ => nofun
  | _, .flag, _, _, _, _, _ => nofun
  | _, .natural32, _, _, _, _, _ => nofun
  | _, .integer64, _, _, _, _, _ => nofun
  | _, .real, _, _, _, _, _ => nofun
  | _, .keyword _ _, _, _, _, _, _ => nofun
  | _, .list _, _, _, _, _, _ => nofun
  | _, .record _ _ _ _, _, _, _, _, _ => nofun
  | _, .tagged _ _ _, _, _, _, _, _ => nofun

theorem readsBack_some {item : Shape α} {a : α} (hnull : item.write a ≠ .null)
    (ha : item.ReadsBack a) : (Shape.optional item).ReadsBack (some a) := by
  intro tagged
  show (Shape.optional item).read tagged (item.write a) = .ok (some a)
  rw [read_optional_of_ne_null hnull, ha tagged]
  rfl

theorem readsBack_list {item : Shape α} {as : List α} (has : ∀ a ∈ as, item.ReadsBack a) :
    (Shape.list item).ReadsBack as := by
  intro tagged
  show (as.map fun a => item.write a).mapM (fun json => item.read tagged json) = .ok as
  rw [Except.mapM_eq_ok_iff, List.forall₂_map_left_iff, List.forall₂_same]
  exact fun a ha => has a ha tagged

/-! ## Records -/

/-- What is known once all fields that are written have been read. -/
def Layout.filled : {β σ : Type} → Layout β σ → β → σ
  | _, _, .done, () => ()
  | _, _, .field _ _ _ rest, (a, b) => (some a, rest.filled b)
  | _, _, .omittable _ _ rest, (a, b) => (a.map some, rest.filled b)

/-- Reads members into the fields of their keys, one after the other. -/
def Layout.fillAll (tagged : Bool) (layout : Layout β σ) (slots : σ) (members : Members) :
    Except Mismatch σ :=
  members.foldlM (fun slots (key, value) => layout.fill tagged key value slots) slots

section Fill

variable {key k : String} {absent : Option α} {shape : Shape α} {rest : Layout β σ}
variable {tagged : Bool} {value : Json} {slots : σ}

/-- A member of another key goes to the fields behind. -/
theorem fill_field_of_ne {slot : Option α} (hkey : k ≠ key) :
    (Layout.field key absent shape rest).fill tagged k value (slot, slots) =
      (slot, ·) <$> rest.fill tagged k value slots := by
  show (if k = key then _ else _) = _
  rw [if_neg hkey]
  rfl

theorem fill_omittable_of_ne {slot : Option (Option α)} (hkey : k ≠ key) :
    (Layout.omittable key shape rest).fill tagged k value (slot, slots) =
      (slot, ·) <$> rest.fill tagged k value slots := by
  show (if k = key then _ else _) = _
  rw [if_neg hkey]
  rfl

/-- The member of a key that comes first is read into its field. -/
theorem fill_field_self :
    (Layout.field key absent shape rest).fill tagged key value (none, slots) =
      (fun a => (some a, slots)) <$> shape.read tagged value := by
  show (if key = key then _ else _) = _
  rw [if_pos rfl]
  rfl

theorem fill_omittable_self :
    (Layout.omittable key shape rest).fill tagged key value (none, slots) =
      (fun a => (some a, slots)) <$> (Shape.optional shape).read tagged value := by
  show (if key = key then _ else _) = _
  rw [if_pos rfl]
  -- `null` is nothing to both, and anything else is read as an item by both
  cases value with
  | null => rfl
  | _ =>
    show (shape.read tagged _ >>= fun a => pure (some (some a), slots)) = _ <$> some <$> _
    cases shape.read tagged _ <;> rfl

end Fill

section Written

variable {key : String} {tagged : Bool} {members : Members} {slots : σ}

theorem key_mem_of_mem_write : {β σ : Type} → (layout : Layout β σ) → (b : β) →
    ∀ member ∈ layout.write b, member.1 ∈ layout.keys
  | _, _, .done, () => nofun
  | _, _, .field key absent shape rest, (a, b) => by
    intro member hmember
    rcases List.mem_cons.mp hmember with rfl | hmember
    · exact List.mem_cons_self
    · exact List.mem_cons_of_mem _ (key_mem_of_mem_write rest b member hmember)
  | _, _, .omittable key shape rest, (a, b) => by
    intro member hmember
    rcases List.mem_append.mp hmember with hmember | hmember
    · cases a with
      | none => cases hmember
      | some a =>
        rw [List.mem_singleton.mp hmember]
        exact List.mem_cons_self
    · exact List.mem_cons_of_mem _ (key_mem_of_mem_write rest b member hmember)

theorem ne_of_mem_write {layout : Layout β σ} {b : β} (hkey : key ∉ layout.keys) :
    ∀ member ∈ layout.write b, member.1 ≠ key := fun member hmember h =>
  hkey (h ▸ key_mem_of_mem_write layout b member hmember)

/-- Members of other keys leave the first field as it is. -/
theorem fillAll_behind {α' σ' : Type} {layout : Layout α' (σ' × σ)} {rest : Layout β σ}
    (hlayout : ∀ k value slot slots, k ≠ key →
      layout.fill tagged k value (slot, slots) = (slot, ·) <$> rest.fill tagged k value slots)
    (hmembers : ∀ member ∈ members, member.1 ≠ key) (slot : σ') :
    layout.fillAll tagged (slot, slots) members =
      (slot, ·) <$> rest.fillAll tagged slots members := by
  induction members generalizing slots with
  | nil => rfl
  | cons member members ih =>
    obtain ⟨k, value⟩ := member
    obtain ⟨hk, hmembers⟩ := List.forall_mem_cons.mp hmembers
    show (layout.fill tagged k value (slot, slots) >>= fun s => layout.fillAll tagged s members) =
      (slot, ·) <$> (rest.fill tagged k value slots >>= fun s => rest.fillAll tagged s members)
    rw [hlayout k value slot slots hk]
    cases rest.fill tagged k value slots with
    | error mismatch => rfl
    | ok slots' => exact ih hmembers

/-- What is written for the fields is read into them. -/
theorem fillAll_write : {β σ : Type} → (layout : Layout β σ) → layout.keys.Nodup → {b : β} →
    layout.ReadsBack b → layout.fillAll tagged layout.blank (layout.write b) = .ok (layout.filled b)
  | _, _, .done, _, (), _ => rfl
  | _, _, .field key absent shape rest, hkeys, (a, b), h => by
    obtain ⟨ha, hb⟩ : shape.ReadsBack a ∧ rest.ReadsBack b := h
    obtain ⟨hkey, hkeys⟩ := List.nodup_cons.mp hkeys
    have hothers : ∀ member ∈ rest.write b, member.1 ≠ key := ne_of_mem_write hkey
    show ((Layout.field key absent shape rest).fill tagged key (shape.write a)
      (none, rest.blank) >>= fun slots =>
        (Layout.field key absent shape rest).fillAll tagged slots (rest.write b)) = _
    -- the first member goes to the first field, and the other members have other keys
    rw [fill_field_self, ha tagged]
    show (Layout.field key absent shape rest).fillAll tagged (some a, rest.blank) (rest.write b) = _
    rw [fillAll_behind (fun _ _ _ _ => fill_field_of_ne) hothers, fillAll_write rest hkeys hb]
    rfl
  | _, _, .omittable key shape rest, hkeys, (a, b), h => by
    obtain ⟨ha, hb⟩ : (Shape.optional shape).ReadsBack a ∧ rest.ReadsBack b := h
    obtain ⟨hkey, hkeys⟩ := List.nodup_cons.mp hkeys
    have hothers : ∀ member ∈ rest.write b, member.1 ≠ key := ne_of_mem_write hkey
    cases a with
    | none =>
      -- nothing was written for the first field, which stays blank
      show (Layout.omittable key shape rest).fillAll tagged (none, rest.blank) (rest.write b) = _
      rw [fillAll_behind (fun _ _ _ _ => fill_omittable_of_ne) hothers, fillAll_write rest hkeys hb]
      rfl
    | some a =>
      show ((Layout.omittable key shape rest).fill tagged key (shape.write a)
        (none, rest.blank) >>= fun slots =>
          (Layout.omittable key shape rest).fillAll tagged slots (rest.write b)) = _
      have hread : (Shape.optional shape).read tagged (shape.write a) = .ok (some a) := ha tagged
      rw [fill_omittable_self, hread]
      show (Layout.omittable key shape rest).fillAll tagged (some (some a), rest.blank)
        (rest.write b) = _
      rw [fillAll_behind (fun _ _ _ _ => fill_omittable_of_ne) hothers, fillAll_write rest hkeys hb]
      rfl

theorem finish_filled : {β σ : Type} → (layout : Layout β σ) → (b : β) →
    layout.finish (layout.filled b) = .ok b
  | _, _, .done, () => rfl
  | _, _, .field key absent shape rest, (a, b) => by
    show (do return (a, ← rest.finish (rest.filled b)) : Except Mismatch _) = _
    rw [finish_filled rest b]
    rfl
  | _, _, .omittable key shape rest, (a, b) => by
    show (do return ((a.map some).join, ← rest.finish (rest.filled b)) : Except Mismatch _) = _
    rw [finish_filled rest b]
    cases a <;> rfl

end Written

/-- A record reads back if its parts do. -/
theorem readsBack_record {title : String} {layout : Layout β σ} {build : β → α} {parts : α → β}
    (hkeys : layout.keys.Nodup) {a : α} (hbuild : build (parts a) = a)
    (hparts : layout.ReadsBack (parts a)) :
    (Shape.record title layout build parts).ReadsBack a := by
  intro tagged
  show (layout.fillAll tagged layout.blank (layout.write (parts a)) >>= fun slots =>
    build <$> layout.finish slots) = .ok a
  rw [fillAll_write layout hkeys hparts, Except.ok_bind, finish_filled]
  exact congrArg Except.ok hbuild

end CardService.Record
