import CardService.Record.Mismatch

/-!
# CardService — shapes of records

A `Shape α` says how an `α` is laid out in JSON. One shape serves three interpreters: the writer
(here), the reader of JSON values (`Record.OfJson`), and the reader of JSON text (`Record.OfText`).
-/

namespace CardService.Record

mutual

/-- How an `α` is laid out in JSON. -/
inductive Shape : Type → Type 1 where
  /-- A string. -/
  | text : Shape String
  /-- A boolean. -/
  | flag : Shape Bool
  /-- A whole number of 32 bits, without sign. -/
  | natural32 : Shape UInt32
  /-- A whole number of 64 bits, with sign. -/
  | integer64 : Shape Int64
  /-- A double; whole numbers are read too. -/
  | real : Shape Binary64
  /-- Any value at all. -/
  | anything : Shape Json
  /-- One of a few names. -/
  | keyword {α : Type} (all : List α) (name : α → String) : Shape α
  /-- A value or `null`. -/
  | optional {α : Type} (item : Shape α) : Shape (Option α)
  /-- An array. -/
  | list {α : Type} (item : Shape α) : Shape (List α)
  /-- An object with known fields; their values may also be given as an array, in order. -/
  | record {α β σ : Type} (title : String) (layout : Layout β σ) (build : β → α) (parts : α → β) :
      Shape α
  /-- An object with known fields, one of which names the kind of object. -/
  | tagged {α : Type} (title tag : String) (kinds : Kinds α) : Shape α

/-- The fields of a record, in order: `β` is what they hold together, and `σ` what of it is known
halfway through reading. A field with a value for its absence may be left out. -/
inductive Layout : Type → Type → Type 1 where
  | done : Layout Unit Unit
  | field {α β σ : Type} (key : String) (absent : Option α) (shape : Shape α) (rest : Layout β σ) :
      Layout (α × β) (Option α × σ)
  /-- A field that is written only where it has a value. -/
  | omittable {α β σ : Type} (key : String) (shape : Shape α) (rest : Layout β σ) :
      Layout (Option α × β) (Option (Option α) × σ)

/-- The kinds of a tagged union, by the names of their tags. -/
inductive Kinds : Type → Type 1 where
  | none {α : Type} : Kinds α
  | kind {α β : Type} (name : String) (shape : Shape β) (inject : β → α) (project : α → Option β)
      (rest : Kinds α) : Kinds α

end

/-! ## Fields and names -/

/-- The number of fields. -/
def Layout.size {β σ : Type} : Layout β σ → Nat
  | .done => 0
  | .field _ _ _ rest => rest.size + 1
  | .omittable _ _ rest => rest.size + 1

/-- The keys of the fields, in order. -/
def Layout.keys {β σ : Type} : Layout β σ → List String
  | .done => []
  | .field key _ _ rest => key :: rest.keys
  | .omittable key _ rest => key :: rest.keys

/-- No field is known yet. -/
def Layout.blank : {β σ : Type} → Layout β σ → σ
  | _, _, .done => ()
  | _, _, .field _ _ _ rest => (none, rest.blank)
  | _, _, .omittable _ _ rest => (none, rest.blank)

/-- The value of a field that may have been left out. -/
def required {α : Type} (key : String) (absent : Option α) : Option α → Except Mismatch α
  | some a => .ok a
  | none =>
    match absent with
    | some a => .ok a
    | none => .error (.missingField key)

/-- The values of all fields, once nothing more is to come. -/
def Layout.finish {β σ : Type} : Layout β σ → σ → Except Mismatch β
  | .done, () => .ok ()
  | .field key absent _ rest, (slot, slots) => do
    let a ← required key absent slot
    return (a, ← rest.finish slots)
  | .omittable _ _ rest, (slot, slots) => return (slot.join, ← rest.finish slots)

/-- The names of the kinds. -/
def Kinds.names {α : Type} : Kinds α → List String
  | .none => []
  | .kind name _ _ _ rest => name :: rest.names

/-- What a record of this title is called where it is missed. -/
def structTitle (title : String) : String := "struct " ++ title

/-- What is called for where an array has too few of a record's fields. -/
def structLength (title : String) (size : Nat) : String :=
  structTitle title ++ " with " ++ elements size

/-- What a tagged union is called where it is missed. -/
def unionTitle (title : String) : String := "internally tagged enum " ++ title

/-! ## Writing -/

mutual

/-- The JSON of a value. -/
def Shape.write {α : Type} : Shape α → α → Json
  | .text, s => .string s
  | .flag, b => .bool b
  | .natural32, n => .ofUInt32 n
  | .integer64, n => .ofInt64 n
  | .real, x => .number (.float x)
  | .anything, json => json
  | .keyword _ name, a => .string (name a)
  | .optional item, a => Json.ofOption (fun a => item.write a) a
  | .list item, as => .array (as.map fun a => item.write a)
  | .record _ layout _ parts, a => .object (layout.write (parts a))
  | .tagged _ tag kinds, a => .object (kinds.write tag a)

/-- The members of a record. -/
def Layout.write {β σ : Type} : Layout β σ → β → Members
  | .done, () => []
  | .field key _ shape rest, (a, b) => (key, shape.write a) :: rest.write b
  | .omittable key shape rest, (a, b) =>
    Members.optional key (fun a => shape.write a) a ++ rest.write b

/-- The members of a tagged record, its tag first. -/
def Kinds.write {α : Type} : Kinds α → String → α → Members
  | .none, _, _ => []
  | .kind name shape _ project rest, tag, a =>
    match project a with
    | some b => (tag, .string name) :: ((shape.write b).members?.getD [])
    | none => rest.write tag a

end

end CardService.Record
