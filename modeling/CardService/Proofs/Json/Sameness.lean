import CardService.Proofs.Json.Members
import CardService.Proofs.Outcome

/-!
# CardService — values that are the same

Two values may be the same JSON though they are written differently: the order of the members of an
object says nothing, and neither does the sign of a zero. Records that are put together alike are
compared member by member, where an optional member is compared as an optional value.

Main results:

* `Json.Same.refl` — a value is the same as itself.
* `Members.same_append_iff` — members of one key are compared on their own.
* `Faithful.of_same_iff` — a way to write that keeps values apart up to sameness is faithful.
-/

namespace CardService

/-- Two numbers are the same if they are of one kind and have one value; so the two zeros are. -/
def Number.Same : Number → Number → Prop
  | .whole m _, .whole n _ => m = n
  | .float x, .float y => x.units = y.units
  | _, _ => False

/-- Two values are the same if they differ in nothing but the order of members and the sign of
zeros. -/
inductive Json.Same : Json → Json → Prop
  | null : Same .null .null
  | bool (b : Bool) : Same (.bool b) (.bool b)
  | number {x y : Number} (h : x.Same y) : Same (.number x) (.number y)
  | string (s : String) : Same (.string s) (.string s)
  | array {items others : List Json} (h : List.Forall₂ Same items others) :
      Same (.array items) (.array others)
  | object {members others : Members}
      (h : ∀ key, Option.Rel Same (members.get? key) (others.get? key)) :
      Same (.object members) (.object others)

/-- The same keys stand for the same values. -/
def Members.Same (members others : Members) : Prop :=
  ∀ key, Option.Rel Json.Same (members.get? key) (others.get? key)

theorem Number.Same.refl (x : Number) : x.Same x := by
  cases x with
  | whole => exact Eq.refl _
  | float => exact Eq.refl _

mutual

theorem Json.Same.refl : (v : Json) → v.Same v
  | .null => .null
  | .bool b => .bool b
  | .number x => .number (.refl x)
  | .string s => .string s
  | .array items => .array (items_refl items)
  | .object members => .object (members_refl members)

theorem Json.Same.items_refl : (items : List Json) → List.Forall₂ Json.Same items items
  | [] => .nil
  | v :: rest => .cons (refl v) (items_refl rest)

theorem Json.Same.members_refl : (members : Members) → members.Same members
  | [], _ => .none
  | (k, v) :: rest, key => by
    rw [Members.get?_cons]
    split
    · exact .some (refl v)
    · exact members_refl rest key

end

/-! ## Values without members -/

namespace Json

@[simp] theorem same_string_iff {s t : String} : (Json.string s).Same (.string t) ↔ s = t :=
  ⟨fun | .string _ => rfl, fun h => h ▸ .string s⟩

@[simp] theorem same_bool_iff {b c : Bool} : (Json.bool b).Same (.bool c) ↔ b = c :=
  ⟨fun | .bool _ => rfl, fun h => h ▸ .bool b⟩

@[simp] theorem same_ofUInt32_iff {m n : UInt32} : (ofUInt32 m).Same (ofUInt32 n) ↔ m = n := by
  refine ⟨fun h => ?_, fun h => h ▸ .refl _⟩
  cases h with
  | number h =>
    have hvalue : (m.toNat : Int) = n.toNat := h
    exact UInt32.toNat_inj.mp (Int.ofNat_inj.mp hvalue)

theorem same_array_iff {items others : List Json} :
    (Json.array items).Same (.array others) ↔ List.Forall₂ Same items others :=
  ⟨fun | .array h => h, .array⟩

@[simp] theorem same_strings_iff {texts others : List String} :
    (Json.array (texts.map Json.string)).Same (.array (others.map Json.string)) ↔
      texts = others := by
  rw [same_array_iff, List.forall₂_map_left_iff, List.forall₂_map_right_iff]
  simp only [same_string_iff, List.forall₂_eq_eq_eq]

@[simp] theorem same_object_iff {members others : Members} :
    (Json.object members).Same (.object others) ↔ members.Same others :=
  ⟨fun | .object h => h, .object⟩

end Json

/-! ## Members that are put together alike -/

namespace Members

variable {α : Type} {key : String} {rest others : Members}

@[simp] theorem same_nil : Members.Same [] [] := fun _ => .none

/-- Members of one key in front of members that have it not are compared on their own. -/
theorem same_append_iff {front front' : Members} (hfront : ∀ k ≠ key, front.get? k = none)
    (hfront' : ∀ k ≠ key, front'.get? k = none) (hrest : rest.get? key = none)
    (hothers : others.get? key = none) :
    Members.Same (front ++ rest) (front' ++ others) ↔
      Option.Rel Json.Same (front.get? key) (front'.get? key) ∧ rest.Same others := by
  constructor
  · intro h
    constructor
    · have hkey := h key
      rwa [get?_append, get?_append, hrest, hothers, Option.or_none, Option.or_none] at hkey
    · intro k
      by_cases hk : k = key
      · -- nothing stands under the key behind the front
        rw [hk, hrest, hothers]
        exact .none
      · have hbehind := h k
        rwa [get?_append, get?_append, hfront k hk, hfront' k hk, Option.none_or,
          Option.none_or] at hbehind
  · rintro ⟨hkey, hbehind⟩ k
    rw [get?_append, get?_append]
    by_cases hk : k = key
    · rwa [hk, hrest, hothers, Option.or_none, Option.or_none]
    · rw [hfront k hk, hfront' k hk, Option.none_or, Option.none_or]
      exact hbehind k

@[simp] theorem same_cons_iff {v w : Json} (hrest : rest.get? key = none)
    (hothers : others.get? key = none) :
    Members.Same ((key, v) :: rest) ((key, w) :: others) ↔ v.Same w ∧ rest.Same others := by
  have hfront : ∀ v : Json, ∀ k ≠ key, get? [(key, v)] k = none := fun v k hk => by
    rw [get?_cons, if_neg hk, get?_nil]
  have hsplit := same_append_iff (hfront v) (hfront w) hrest hothers
  rw [get?_cons, get?_cons, if_pos rfl, if_pos rfl, Option.rel_some_some] at hsplit
  exact hsplit

/-- A member that may be left out is compared as an optional value. -/
@[simp] theorem same_optional_append_iff (f : α → Json) (a b : Option α)
    (hrest : rest.get? key = none) (hothers : others.get? key = none) :
    Members.Same (optional key f a ++ rest) (optional key f b ++ others) ↔
      Option.Rel (fun a b => (f a).Same (f b)) a b ∧ rest.Same others := by
  have hfront : ∀ a : Option α, ∀ k ≠ key, (optional key f a).get? k = none := fun a k hk => by
    rw [get?_optional, if_neg hk]
  rw [same_append_iff (hfront a) (hfront b) hrest hothers, get?_optional, get?_optional,
    if_pos rfl, if_pos rfl, Option.rel_map_iff]

@[simp] theorem same_optional_iff (f : α → Json) (a b : Option α) :
    Members.Same (optional key f a) (optional key f b) ↔
      Option.Rel (fun a b => (f a).Same (f b)) a b := by
  have hlast := same_optional_append_iff f a b (get?_nil key) (get?_nil key)
  rw [List.append_nil, List.append_nil] at hlast
  exact hlast.trans (and_iff_left same_nil)

end Members

/-! ## Faithful ways to write -/

/-- A way to write values as JSON that keeps apart what is not the same, and has each of the choices
that a value may leave open under its key just where it is made. -/
structure Faithful {α : Type} (write : α → Json) (same : α → α → Prop)
    (choices : α → List (String × Bool)) : Prop where
  injective : Function.Injective write
  same_iff : ∀ a b, (write a).Same (write b) ↔ same a b
  chosen_iff : ∀ a, ∀ choice ∈ choices a, (write a).get? choice.1 ≠ none ↔ choice.2 = true

/-- What is written for equal values is the same, so sameness alone decides, but for the parts of a
value that may be the same without being equal. -/
theorem Faithful.of_same_iff {α : Type} {write : α → Json} {same : α → α → Prop}
    {choices : α → List (String × Bool)} (hsame : ∀ a b, (write a).Same (write b) ↔ same a b)
    (heq : ∀ a b, write a = write b → same a b → a = b)
    (hchosen : ∀ a, ∀ choice ∈ choices a, (write a).get? choice.1 ≠ none ↔ choice.2 = true) :
    Faithful write same choices where
  injective a b h := heq a b h ((hsame a b).mp (h ▸ .refl _))
  same_iff := hsame
  chosen_iff := hchosen

/-- Writing stays faithful behind a step that loses nothing. -/
theorem Faithful.of_injective {α β : Type} {write : β → Json} {f : α → β}
    {choices : α → List (String × Bool)} (hwrite : ∀ b c, (write b).Same (write c) ↔ b = c)
    (hf : Function.Injective f)
    (hchosen : ∀ a, ∀ choice ∈ choices a, (write (f a)).get? choice.1 ≠ none ↔ choice.2 = true) :
    Faithful (fun a => write (f a)) (· = ·) choices :=
  .of_same_iff (fun a b => (hwrite (f a) (f b)).trans hf.eq_iff) (fun _ _ _ h => h) hchosen

/-- A part that may be the same without being equal is told apart by what stands under its key. -/
theorem Faithful.of_same_but {α : Type} {write : α → Json} {same : α → α → Prop}
    {choices : α → List (String × Bool)} {key : String} {part : α → Option Json}
    (hpart : ∀ a, (write a).get? key = part a)
    (hsame : ∀ a b, (write a).Same (write b) ↔ same a b)
    (heq : ∀ a b, same a b → part a = part b → a = b)
    (hchosen : ∀ a, ∀ choice ∈ choices a, (write a).get? choice.1 ≠ none ↔ choice.2 = true) :
    Faithful write same choices := by
  refine .of_same_iff hsame (fun a b hwrite hab => heq a b hab ?_) hchosen
  rw [← hpart, hwrite, hpart]

end CardService
