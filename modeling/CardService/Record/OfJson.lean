import CardService.Record.Shape

/-!
# CardService — records read from JSON values

Reads a value of a shape from JSON. The members of an object are read in their own order, so the
first member that does not fit is the one reported; members that no field asks for are ignored.
-/

namespace CardService.Record

/-- What is called for where an array has more elements than a record has fields. Under a tagged
union the number of fields is named. -/
def lengthExpected (tagged : Bool) (size : Nat) : String :=
  if tagged then elements size ++ " in sequence" else "fewer elements in array"

/-- The first choice of the given name. -/
def named {α : Type} (all : List α) (name : α → String) (s : String) : Except Mismatch α :=
  match all.find? fun a => name a == s with
  | some a => .ok a
  | none => .error (.unknownVariant s (all.map name))

/-- A whole number in the range of 32 bits. -/
def natural32 : Number → Except Mismatch UInt32
  | .whole n h =>
    if 0 ≤ n ∧ n < 0x100000000 then .ok (UInt32.ofNat n.toNat)
    else .error (.wrongValue (.number (.whole n h)) "u32")
  | .float x => .error (.wrongType (.number (.float x)) "u32")

/-- A whole number in the range of 64 bits with sign. -/
def integer64 : Number → Except Mismatch Int64
  | .whole n h =>
    if -0x8000000000000000 ≤ n ∧ n < 0x8000000000000000 then .ok (Int64.ofInt n)
    else .error (.wrongValue (.number (.whole n h)) "i64")
  | .float x => .error (.wrongType (.number (.float x)) "i64")

/-- Takes the tag out of the members of a tagged record: the name it holds, and the other members.
`seen` is the name of a tag that came before. -/
def splitTag (tag : String) (names : List String) :
    Option String → Members → Except Mismatch (String × Members)
  | none, [] => .error (.missingField tag)
  | some name, [] => .ok (name, [])
  | seen, (key, value) :: rest =>
    if key = tag then
      match seen, value with
      | some _, _ => .error (.duplicateField tag)
      | none, .string s => do
        let name ← named names id s
        splitTag tag names (some name) rest
      | none, value => .error (.wrongType (.of value) "variant identifier")
    else do
      let (name, others) ← splitTag tag names seen rest
      return (name, (key, value) :: others)

mutual

/-- Reads a value of a shape. `tagged` holds under a tagged union. -/
def Shape.read {α : Type} (tagged : Bool) : Shape α → Json → Except Mismatch α
  | .text, json =>
    match json with
    | .string s => .ok s
    | json => .error (.wrongType (.of json) "a string")
  | .flag, json =>
    match json with
    | .bool b => .ok b
    | json => .error (.wrongType (.of json) "a boolean")
  | .natural32, json =>
    match json with
    | .number n => Record.natural32 n
    | json => .error (.wrongType (.of json) "u32")
  | .integer64, json =>
    match json with
    | .number n => Record.integer64 n
    | json => .error (.wrongType (.of json) "i64")
  | .real, json =>
    match json with
    | .number n => .ok n.toBinary64
    | json => .error (.wrongType (.of json) "f64")
  | .anything, json => .ok json
  | .keyword all name, json =>
    match json with
    | .string s => named all name s
    | .object [(key, value)] => do
      let a ← named all name key
      if value.isNull then return a else .error (.wrongType (.of value) "unit")
    | .object _ => .error (.wrongValue .map "map with a single key")
    | json => .error (.wrongType (.of json) "string or map")
  | .optional item, json =>
    match json with
    | .null => .ok none
    | json => some <$> item.read tagged json
  | .list item, json =>
    match json with
    | .array items => items.mapM fun json => item.read tagged json
    | json => .error (.wrongType (.of json) "a sequence")
  | .record title layout build _, json =>
    match json with
    | .object members => do
      let slots ← members.foldlM (fun slots (key, value) => layout.fill tagged key value slots)
        layout.blank
      build <$> layout.finish slots
    | .array items => do
      let (b, extra) ← layout.readItems tagged (structLength title layout.size) 0 items
      if extra.isEmpty then return build b
      else .error (.wrongLength items.length (lengthExpected tagged layout.size))
    | json => .error (.wrongType (.of json) (structTitle title))
  | .tagged title tag kinds, json =>
    match json with
    | .object members => do
      let (name, others) ← splitTag tag kinds.names none members
      kinds.read name (.object others)
    | .array (.string s :: items) => do
      let name ← named kinds.names id s
      kinds.read name (.array items)
    | .array (value :: _) => .error (.wrongType (.of value) "variant identifier")
    | .array [] => .error (.missingField tag)
    | json => .error (.wrongType (.of json) (unionTitle title))

/-- Reads one member into the field of its key, if there is one. -/
def Layout.fill {β σ : Type} (tagged : Bool) : Layout β σ → String → Json → σ → Except Mismatch σ
  | .done, _, _, () => .ok ()
  | .field key _ shape rest, k, value, (slot, slots) =>
    if k = key then
      if slot.isSome then .error (.duplicateField key)
      else return (some (← shape.read tagged value), slots)
    else return (slot, ← rest.fill tagged k value slots)
  | .omittable key shape rest, k, value, (slot, slots) =>
    if k = key then
      if slot.isSome then .error (.duplicateField key)
      else if value.isNull then return (some none, slots)
      else return (some (some (← shape.read tagged value)), slots)
    else return (slot, ← rest.fill tagged k value slots)

/-- Reads the fields from an array in order, and gives back the elements that are left. Fields with
a value for their absence may be missing at the end. -/
def Layout.readItems {β σ : Type} (tagged : Bool) (expected : String) :
    Layout β σ → Nat → List Json → Except Mismatch (β × List Json)
  | .done, _, items => .ok ((), items)
  | .field _ absent shape rest, count, items =>
    match items, absent with
    | item :: items, _ => do
      let a ← shape.read tagged item
      let (b, extra) ← rest.readItems tagged expected (count + 1) items
      return ((a, b), extra)
    | [], some a => do
      let (b, extra) ← rest.readItems tagged expected (count + 1) []
      return ((a, b), extra)
    | [], none => .error (.wrongLength count expected)
  | .omittable _ shape rest, count, items =>
    match items with
    | item :: items => do
      let a ← if item.isNull then pure none else some <$> shape.read tagged item
      let (b, extra) ← rest.readItems tagged expected (count + 1) items
      return ((a, b), extra)
    | [] => do
      let (b, extra) ← rest.readItems tagged expected (count + 1) []
      return ((none, b), extra)

/-- Reads the record of the kind with the given name. -/
def Kinds.read {α : Type} : Kinds α → String → Json → Except Mismatch α
  | .none, name, _ => .error (.unknownVariant name [])
  | .kind name shape inject _ rest, s, json =>
    if s = name then inject <$> shape.read true json else rest.read s json

end

/-- Reads a value of a shape. -/
def Shape.ofJson {α : Type} (shape : Shape α) (json : Json) : Except Mismatch α :=
  shape.read false json

end CardService.Record
