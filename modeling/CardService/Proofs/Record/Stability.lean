import CardService.Proofs.Record.ReadingBack

/-!
# CardService — records that keep what was read

A value that was read may have been given in many ways: its fields in another order or as an array,
with members that nobody asks for, without the fields that have a default, with whole numbers for
doubles. It is written in one way only, and that way reads as the same value again.

This holds for every layout that is sound in itself (`Shape.Lawful`): the fields of a record have
different keys, a value for an absent field is one that could have been given, the kinds of a union
can be told apart, and nothing is lost between a record and its parts.

Main result: `Shape.stable_of_lawful` — what was read by a lawful shape reads back.
-/

namespace CardService.Record

variable {α β σ : Type}

/-! ## Lawful shapes -/

/-- A record that has no field of the given key. -/
def Shape.IsRecordWithout (key : String) : {α : Type} → Shape α → Prop
  | _, .record _ layout _ _ => key ∉ layout.keys
  | _, _ => False

/-- The values that the kinds of a union make. -/
def Kinds.Makes : {α : Type} → Kinds α → α → Prop
  | _, .none, _ => False
  | _, .kind _ _ inject _ rest, a => (∃ b, inject b = a) ∨ rest.Makes a

mutual

/-- A shape that is sound in itself. -/
@[simp] def Shape.Lawful : {α : Type} → Shape α → Prop
  | _, .optional item => item.Lawful
  | _, .list item => item.Lawful
  | _, .record _ layout build parts =>
    layout.Lawful ∧ layout.keys.Nodup ∧ ∀ b, parts (build b) = b
  | _, .tagged _ tag kinds => kinds.Lawful tag
  | _, _ => True

/-- The fields of a record, each sound in itself, and so are the values for their absence. -/
@[simp] def Layout.Lawful : {β σ : Type} → Layout β σ → Prop
  | _, _, .done => True
  | _, _, .field _ absent shape rest =>
    shape.Lawful ∧ (∀ a ∈ absent, shape.ReadsBack a) ∧ rest.Lawful
  | _, _, .omittable _ shape rest => shape.Lawful ∧ rest.Lawful

/-- The kinds of a union, which can be told apart by their names and by their values. -/
def Kinds.Lawful (tag : String) : {α : Type} → Kinds α → Prop
  | _, .none => True
  | _, .kind name shape inject project rest =>
    shape.Lawful ∧ shape.IsRecordWithout tag ∧ name ∉ rest.names ∧
      (∀ b, project (inject b) = some b) ∧ (∀ a, rest.Makes a → project a = none) ∧ rest.Lawful tag

end

/-! ## What has been read -/

/-- Whatever is read by the shape reads back. -/
def Shape.Stable (shape : Shape α) : Prop :=
  ∀ {tagged json a}, shape.read tagged json = .ok a → shape.ReadsBack a

/-- Whatever the fields of a record can hold reads back, also where they were left out. -/
def Layout.Stable : {β σ : Type} → Layout β σ → Prop
  | _, _, .done => True
  | _, _, .field _ absent shape rest =>
    shape.Stable ∧ (∀ a ∈ absent, shape.ReadsBack a) ∧ rest.Stable
  | _, _, .omittable _ shape rest => shape.Stable ∧ rest.Stable

/-- Whatever the kinds of a union can be reads back. -/
def Kinds.Stable : {α : Type} → Kinds α → Prop
  | _, .none => True
  | _, .kind _ shape _ _ rest => shape.Stable ∧ rest.Stable

theorem stable_optional {item : Shape α} (hitem : item.Stable) : (Shape.optional item).Stable := by
  intro tagged json a h
  by_cases hjson : json = .null
  · subst hjson
    cases h
    exact readsBack_none item
  · rw [read_optional_of_ne_null hjson] at h
    obtain ⟨b, hread, rfl⟩ := Except.map_eq_ok_iff.mp h
    exact readsBack_some (write_ne_null item hjson hread) (hitem hread)

theorem stable_list {item : Shape α} (hitem : item.Stable) : (Shape.list item).Stable := by
  intro tagged json as h
  cases json with
  | array items =>
    have hall := (Except.mapM_eq_ok_iff.mp h).flip
    have hback : List.Forall₂ (fun a json => item.ReadsBack a ∧ item.read tagged json = .ok a)
        as items := hall.imp fun _ _ hread => ⟨hitem hread, hread⟩
    exact readsBack_list ((List.forall₂_and_left _ _).mp hback).1
  | _ => cases h

/-! ### Fields -/

/-- The values that are known halfway through reading read back. -/
def Layout.SlotsReadBack : {β σ : Type} → Layout β σ → σ → Prop
  | _, _, .done, () => True
  | _, _, .field _ _ shape rest, (slot, slots) =>
    (∀ a ∈ slot, shape.ReadsBack a) ∧ rest.SlotsReadBack slots
  | _, _, .omittable _ shape rest, (slot, slots) =>
    (∀ a ∈ slot, (Shape.optional shape).ReadsBack a) ∧ rest.SlotsReadBack slots

section Fields

variable {tagged : Bool} {key : String} {value : Json} {slots slots' : σ}

theorem slotsReadBack_blank : {β σ : Type} → (layout : Layout β σ) →
    layout.SlotsReadBack layout.blank
  | _, _, .done => trivial
  | _, _, .field _ _ _ rest => ⟨nofun, slotsReadBack_blank rest⟩
  | _, _, .omittable _ _ rest => ⟨nofun, slotsReadBack_blank rest⟩

/-- A member is read into one field, and the other fields stay as they are. -/
theorem slotsReadBack_fill : {β σ : Type} → (layout : Layout β σ) → layout.Stable →
    {slots slots' : σ} → layout.SlotsReadBack slots →
    layout.fill tagged key value slots = .ok slots' → layout.SlotsReadBack slots'
  | _, _, .done, _, (), (), _, _ => trivial
  | _, _, .field k absent shape rest, hstable, (slot, slots), slots', hslots, h => by
    obtain ⟨hshape, -, hrest⟩ := hstable
    obtain ⟨hslot, hslots⟩ := hslots
    by_cases hkey : key = k
    · subst hkey
      cases slot with
      | some a =>
        -- the key has come before, and a record that repeats one is refused
        rw [Layout.fill, if_pos rfl] at h
        cases h
      | none =>
        rw [fill_field_self] at h
        obtain ⟨a, hread, rfl⟩ := Except.map_eq_ok_iff.mp h
        exact ⟨fun _ ha => Option.some.inj ha ▸ hshape hread, hslots⟩
    · rw [fill_field_of_ne hkey] at h
      obtain ⟨slots', hfill, rfl⟩ := Except.map_eq_ok_iff.mp h
      exact ⟨hslot, slotsReadBack_fill rest hrest hslots hfill⟩
  | _, _, .omittable k shape rest, hstable, (slot, slots), slots', hslots, h => by
    obtain ⟨hshape, hrest⟩ := hstable
    obtain ⟨hslot, hslots⟩ := hslots
    by_cases hkey : key = k
    · subst hkey
      cases slot with
      | some a =>
        rw [Layout.fill, if_pos rfl] at h
        cases h
      | none =>
        rw [fill_omittable_self] at h
        obtain ⟨a, hread, rfl⟩ := Except.map_eq_ok_iff.mp h
        exact ⟨fun _ ha => Option.some.inj ha ▸ stable_optional hshape hread, hslots⟩
    · rw [fill_omittable_of_ne hkey] at h
      obtain ⟨slots', hfill, rfl⟩ := Except.map_eq_ok_iff.mp h
      exact ⟨hslot, slotsReadBack_fill rest hrest hslots hfill⟩

theorem slotsReadBack_fillAll {layout : Layout β σ} (hlayout : layout.Stable) {members : Members}
    (hslots : layout.SlotsReadBack slots) (h : layout.fillAll tagged slots members = .ok slots') :
    layout.SlotsReadBack slots' := by
  induction members generalizing slots with
  | nil => exact Except.ok.inj h ▸ hslots
  | cons member members ih =>
    obtain ⟨key, value⟩ := member
    obtain ⟨next, hfill, hrest⟩ := Except.bind_eq_ok_iff.mp h
    exact ih (slotsReadBack_fill layout hlayout hslots hfill) hrest

theorem readsBack_required {shape : Shape α} {absent slot : Option α} {a : α}
    (habsent : ∀ a ∈ absent, shape.ReadsBack a) (hslot : ∀ a ∈ slot, shape.ReadsBack a)
    (h : required key absent slot = .ok a) : shape.ReadsBack a := by
  match slot, absent, h with
  | some _, _, h => exact hslot a (congrArg some (Except.ok.inj h))
  | none, some _, h => exact habsent a (congrArg some (Except.ok.inj h))

theorem readsBack_finish : {β σ : Type} → (layout : Layout β σ) → layout.Stable →
    {slots : σ} → layout.SlotsReadBack slots → {b : β} → layout.finish slots = .ok b →
    layout.ReadsBack b
  | _, _, .done, _, (), _, (), _ => trivial
  | _, _, .field key absent shape rest, hstable, (slot, slots), hslots, b, h => by
    obtain ⟨-, habsent, hrest⟩ := hstable
    obtain ⟨hslot, hslots⟩ := hslots
    obtain ⟨a, hrequired, h⟩ := Except.bind_eq_ok_iff.mp h
    obtain ⟨b', hfinish, rfl⟩ := Except.map_eq_ok_iff.mp h
    exact ⟨readsBack_required habsent hslot hrequired,
      readsBack_finish rest hrest hslots hfinish⟩
  | _, _, .omittable key shape rest, hstable, (slot, slots), hslots, b, h => by
    obtain ⟨-, hrest⟩ := hstable
    obtain ⟨hslot, hslots⟩ := hslots
    obtain ⟨b', hfinish, rfl⟩ := Except.map_eq_ok_iff.mp h
    refine ⟨?_, readsBack_finish rest hrest hslots hfinish⟩
    cases slot with
    | none => exact readsBack_none shape
    | some a => exact hslot a rfl

theorem readItems_omittable {shape : Shape α} {rest : Layout β σ} {expected : String} {count : Nat}
    {item : Json} {items : List Json} :
    (Layout.omittable key shape rest).readItems tagged expected count (item :: items) =
      ((Shape.optional shape).read tagged item >>= fun a =>
        rest.readItems tagged expected (count + 1) items >>= fun (b, extra) =>
          .ok ((a, b), extra)) := by
  cases item <;> rfl

/-- The items of an array that stands for a record are read into its fields in order. -/
theorem readsBack_readItems {expected : String} : {β σ : Type} → (layout : Layout β σ) →
    layout.Stable → {count : Nat} → {items extra : List Json} → {b : β} →
    layout.readItems tagged expected count items = .ok (b, extra) → layout.ReadsBack b
  | _, _, .done, _, _, _, _, (), _ => trivial
  | _, _, .field key absent shape rest, hstable, count, items, extra, (a, b), h => by
    obtain ⟨hshape, habsent, hrest⟩ := hstable
    match items, absent, h with
    | item :: items, _, h =>
      obtain ⟨a', hread, h⟩ := Except.bind_eq_ok_iff.mp h
      obtain ⟨⟨b', extra'⟩, hitems, h⟩ := Except.bind_eq_ok_iff.mp h
      cases h
      exact ⟨hshape hread, readsBack_readItems rest hrest hitems⟩
    | [], some a', h =>
      obtain ⟨⟨b', extra'⟩, hitems, h⟩ := Except.bind_eq_ok_iff.mp h
      cases h
      exact ⟨habsent a rfl, readsBack_readItems rest hrest hitems⟩
  | _, _, .omittable key shape rest, hstable, count, items, extra, (a, b), h => by
    obtain ⟨hshape, hrest⟩ := hstable
    match items, h with
    | item :: items, h =>
      rw [readItems_omittable] at h
      obtain ⟨a', hread, h⟩ := Except.bind_eq_ok_iff.mp h
      obtain ⟨⟨b', extra'⟩, hitems, h⟩ := Except.bind_eq_ok_iff.mp h
      cases h
      exact ⟨stable_optional hshape hread, readsBack_readItems rest hrest hitems⟩
    | [], h =>
      obtain ⟨⟨b', extra'⟩, hitems, h⟩ := Except.bind_eq_ok_iff.mp h
      cases h
      exact ⟨readsBack_none shape, readsBack_readItems rest hrest hitems⟩

end Fields

theorem stable_record {title : String} {layout : Layout β σ} {build : β → α} {parts : α → β}
    (hlayout : layout.Stable) (hkeys : layout.keys.Nodup) (hparts : ∀ b, parts (build b) = b) :
    (Shape.record title layout build parts).Stable := by
  intro tagged json a h
  -- however the record was given, it was built from values of its fields
  have hbuilt : ∀ b, layout.ReadsBack b → build b = a →
      (Shape.record title layout build parts).ReadsBack a := by
    rintro b hb rfl
    refine readsBack_record hkeys ?_ ?_
    · rw [hparts]
    · rwa [hparts]
  cases json with
  | object members =>
    obtain ⟨slots, hfill, h⟩ := Except.bind_eq_ok_iff.mp h
    obtain ⟨b, hfinish, hbuild⟩ := Except.map_eq_ok_iff.mp h
    have hslots := slotsReadBack_fillAll hlayout (slotsReadBack_blank layout) hfill
    exact hbuilt b (readsBack_finish layout hlayout hslots hfinish) hbuild
  | array items =>
    obtain ⟨⟨b, extra⟩, hitems, h⟩ := Except.bind_eq_ok_iff.mp h
    refine hbuilt b (readsBack_readItems layout hlayout hitems) ?_
    cases extra with
    | nil => exact Except.ok.inj h
    | cons => cases h
  | _ => cases h

/-! ### Kinds -/

section Kinds

variable {tag name : String} {json : Json} {a : α}

theorem makes_of_read : {α : Type} → (kinds : Kinds α) → {a : α} →
    kinds.read name json = .ok a → kinds.Makes a
  | _, .none, _, h => nomatch h
  | _, .kind k shape inject project rest, a, h => by
    by_cases hname : name = k
    · rw [Kinds.read, if_pos hname] at h
      obtain ⟨b, -, hb⟩ := Except.map_eq_ok_iff.mp h
      exact .inl ⟨b, hb⟩
    · rw [Kinds.read, if_neg hname] at h
      exact .inr (makes_of_read rest h)

theorem write_of_isRecordWithout : {α : Type} → (shape : Shape α) → shape.IsRecordWithout tag →
    (a : α) → ∃ members, shape.write a = .object members ∧ ∀ member ∈ members, member.1 ≠ tag
  | _, .record _ layout _ parts, htag, a =>
    ⟨layout.write (parts a), rfl, ne_of_mem_write htag⟩

/-- What was read as a value of some kind is written under the name of this kind. -/
theorem written_of_read : {α : Type} → (kinds : Kinds α) → kinds.Lawful tag → kinds.Stable →
    {a : α} → kinds.read name json = .ok a →
    ∃ k ∈ kinds.names, ∃ members, (∀ member ∈ members, member.1 ≠ tag) ∧
      kinds.write tag a = (tag, .string k) :: members ∧ kinds.read k (.object members) = .ok a
  | _, .none, _, _, _, h => nomatch h
  | _, .kind k shape inject project rest, hlawful, hstable, a, h => by
    obtain ⟨-, hrecord, hk, hproject, hother, hlawful⟩ := hlawful
    obtain ⟨hshape, hrest⟩ := hstable
    by_cases hname : name = k
    · rw [Kinds.read, if_pos hname] at h
      obtain ⟨b, hread, rfl⟩ := Except.map_eq_ok_iff.mp h
      obtain ⟨members, hwrite, hmembers⟩ := write_of_isRecordWithout shape hrecord b
      refine ⟨k, List.mem_cons_self, members, hmembers, ?_, ?_⟩
      · rw [Kinds.write, hproject b]
        show (tag, Json.string k) :: ((shape.write b).members?.getD []) = _
        rw [hwrite]
        rfl
      · rw [Kinds.read, if_pos rfl, ← hwrite, hshape hread true]
        rfl
    · -- a value of a kind behind is none of the first kind, and its name is another one
      rw [Kinds.read, if_neg hname] at h
      obtain ⟨k', hk', members, hmembers, hwrite, hread⟩ := written_of_read rest hlawful hrest h
      refine ⟨k', List.mem_cons_of_mem _ hk', members, hmembers, ?_, ?_⟩
      · rw [Kinds.write, hother a (makes_of_read rest h), hwrite]
      · rwa [Kinds.read, if_neg (ne_of_mem_of_not_mem hk' hk)]

theorem named_id_of_mem {names : List String} (hname : name ∈ names) :
    named names id name = .ok name := by
  obtain ⟨k, hk⟩ : ∃ k, names.find? (fun k => id k == name) = some k :=
    Option.isSome_iff_exists.mp (List.find?_isSome.mpr ⟨name, hname, beq_self_eq_true name⟩)
  have hname : (k == name) = true := List.find?_some (p := fun k => id k == name) hk
  rw [named_eq_ok_iff, hk, eq_of_beq hname]

/-- Members of other keys are not the tag. -/
theorem splitTag_of_ne {names : List String} {members : Members}
    (hmembers : ∀ member ∈ members, member.1 ≠ tag) :
    splitTag tag names (some name) members = .ok (name, members) := by
  induction members with
  | nil => rfl
  | cons member members ih =>
    obtain ⟨key, value⟩ := member
    obtain ⟨hkey, hmembers⟩ := List.forall_mem_cons.mp hmembers
    rw [splitTag, if_neg hkey, ih hmembers]
    rfl

theorem stable_tagged {title : String} {kinds : Kinds α} (hlawful : kinds.Lawful tag)
    (hkinds : kinds.Stable) : (Shape.tagged title tag kinds).Stable := by
  intro tagged json a h
  -- however the kind was told, its name is written first and is the only tag
  have hback : ∀ name json, kinds.read name json = .ok a →
      (Shape.tagged title tag kinds).ReadsBack a := by
    intro name json hread tagged
    obtain ⟨k, hk, members, hmembers, hwrite, hread⟩ := written_of_read kinds hlawful hkinds hread
    show (Shape.tagged title tag kinds).read tagged (.object (kinds.write tag a)) = .ok a
    rw [hwrite, Shape.read, splitTag, if_pos rfl]
    show (named kinds.names id k >>= fun name => splitTag tag kinds.names (some name) members) >>=
      (fun split => kinds.read split.1 (.object split.2)) = _
    rw [named_id_of_mem hk, Except.ok_bind, splitTag_of_ne hmembers]
    exact hread
  cases json with
  | object members =>
    obtain ⟨⟨name, others⟩, -, hread⟩ := Except.bind_eq_ok_iff.mp h
    exact hback name _ hread
  | array items =>
    cases items with
    | nil => cases h
    | cons item items =>
      cases item with
      | string s =>
        obtain ⟨name, -, hread⟩ := Except.bind_eq_ok_iff.mp h
        exact hback name _ hread
      | _ => cases h
  | _ => cases h

end Kinds

/-! ## Every lawful shape -/

mutual

/-- What was read by a lawful shape is written in a way that reads as the same value. -/
theorem Shape.stable_of_lawful : {α : Type} → (shape : Shape α) → shape.Lawful → shape.Stable
  | _, .text, _ => fun _ _ => rfl
  | _, .flag, _ => fun _ => readsBack_flag _
  | _, .natural32, _ => fun _ => readsBack_natural32 _
  | _, .integer64, _ => fun _ => readsBack_integer64 _
  | _, .real, _ => fun _ _ => rfl
  | _, .anything, _ => fun _ _ => rfl
  | _, .keyword _ _, _ => readsBack_keyword
  | _, .optional item, h => stable_optional (item.stable_of_lawful h)
  | _, .list item, h => stable_list (item.stable_of_lawful h)
  | _, .record _ layout _ _, h => stable_record (layout.stable_of_lawful h.1) h.2.1 h.2.2
  | _, .tagged _ _ kinds, h => stable_tagged h (kinds.stable_of_lawful h)

theorem Layout.stable_of_lawful : {β σ : Type} → (layout : Layout β σ) → layout.Lawful →
    layout.Stable
  | _, _, .done, _ => trivial
  | _, _, .field _ _ shape rest, h =>
    ⟨shape.stable_of_lawful h.1, h.2.1, rest.stable_of_lawful h.2.2⟩
  | _, _, .omittable _ shape rest, h => ⟨shape.stable_of_lawful h.1, rest.stable_of_lawful h.2⟩

theorem Kinds.stable_of_lawful {tag : String} : {α : Type} → (kinds : Kinds α) →
    kinds.Lawful tag → kinds.Stable
  | _, .none, _ => trivial
  | _, .kind _ shape _ _ rest, h =>
    ⟨shape.stable_of_lawful h.1, rest.stable_of_lawful h.2.2.2.2.2⟩

end

end CardService.Record
