import CardService.Number.Double

/-!
# CardService — JSON values

JSON values whose objects keep the order of their members. A number is a 64-bit whole number or a
finite double; the two are different numbers even where their values agree.

A value read from a text may repeat a key (`Json` allows it); `Json.settle` gives the value that
such a text stands for.
-/

namespace CardService

/-- Whole numbers that a JSON number may hold exactly: those of 64 bits, signed or unsigned. -/
def Whole64 (n : Int) : Prop := -0x8000000000000000 ≤ n ∧ n < 0x10000000000000000

instance (n : Int) : Decidable (Whole64 n) := inferInstanceAs (Decidable (_ ∧ _))

theorem Whole64.natAbs_lt {n : Int} (h : Whole64 n) : n.natAbs < 0x10000000000000000 := by
  unfold Whole64 at h
  omega

/-- A JSON number. -/
inductive Number where
  | whole (value : Int) (fits : Whole64 value)
  | float (value : Binary64)
  deriving DecidableEq

namespace Number

/-- A 32-bit number. -/
def ofUInt32 (n : UInt32) : Number :=
  .whole n.toNat (by
    have := n.toNat_lt
    unfold Whole64
    omega)

/-- A signed 64-bit number. -/
def ofInt64 (n : Int64) : Number :=
  .whole n.toInt (by
    have := n.le_toInt
    have := n.toInt_lt
    unfold Whole64
    omega)

/-- The number as a double. A whole number goes to the nearest one. -/
def toBinary64 : Number → Binary64
  | .whole n h => .ofInt n h.natAbs_lt
  | .float x => x

end Number

/-- A JSON value. -/
inductive Json where
  | null
  | bool (value : Bool)
  | number (value : Number)
  | string (value : String)
  | array (items : List Json)
  | object (members : List (String × Json))

/-- The members of an object, in order. -/
abbrev Members := List (String × Json)

namespace Json

instance : Inhabited Json := ⟨.null⟩

/-! ## Shapes -/

def isNull : Json → Bool
  | .null => true
  | _ => false

def string? : Json → Option String
  | .string s => some s
  | _ => none

def number? : Json → Option Number
  | .number n => some n
  | _ => none

def members? : Json → Option Members
  | .object members => some members
  | _ => none

/-- A whole number below `2 ^ 32`. -/
def ofUInt32 (n : UInt32) : Json := .number (.ofUInt32 n)

def ofInt64 (n : Int64) : Json := .number (.ofInt64 n)

/-- A double; the ones that are not finite have no number in JSON. -/
def ofDouble : Double → Json
  | .finite x => .number (.float x)
  | _ => .null

/-- An optional value, `null` where it is absent. -/
def ofOption {α : Type} (f : α → Json) : Option α → Json
  | some a => f a
  | none => .null

end Json

/-! ## Members -/

namespace Members

/-- The value under a key. -/
def get? (members : Members) (key : String) : Option Json := List.lookup key members

/-- The string under a key. -/
def string? (members : Members) (key : String) : Option String :=
  (members.get? key).bind Json.string?

/-- Puts a value under a key: a key that is there keeps its place, a new one goes to the end. -/
def insert : Members → String → Json → Members
  | [], key, value => [(key, value)]
  | (k, v) :: rest, key, value =>
    if k = key then (key, value) :: rest else (k, v) :: insert rest key value

/-- A member that is left out where its value is absent. -/
def optional {α : Type} (key : String) (f : α → Json) : Option α → Members
  | some a => [(key, f a)]
  | none => []

end Members

namespace Json

/-- The value under a key of an object; anything else holds nothing. -/
def get? (json : Json) (key : String) : Option Json := json.members?.bind (·.get? key)

/-! ## Repeated keys -/

mutual

/-- The value a text with repeated keys stands for: in each object a repeated key keeps its first
place and takes its last value. -/
def settle : Json → Json
  | .array items => .array (settleItems items)
  | .object members => .object (settleMembers [] members)
  | json => json

def settleItems : List Json → List Json
  | [] => []
  | item :: rest => settle item :: settleItems rest

/-- Settles the members one by one and puts them into those that came before. -/
def settleMembers : Members → Members → Members
  | done, [] => done
  | done, (key, value) :: rest => settleMembers (done.insert key (settle value)) rest

end

/-! ## Depth -/

mutual

/-- How deep arrays and objects are nested. -/
def depth : Json → Nat
  | .array items => depthItems items + 1
  | .object members => depthMembers members + 1
  | _ => 0

def depthItems : List Json → Nat
  | [] => 0
  | item :: rest => max (depth item) (depthItems rest)

def depthMembers : Members → Nat
  | [] => 0
  | (_, value) :: rest => max (depth value) (depthMembers rest)

end

end Json

end CardService
