import CardService.CurrencyAmount
import CardService.Identifier
import CardService.Keyword
import CardService.Page
import CardService.Text.Split
import CardService.Timestamp

/-!
# CardService — views

How results are shown as JSON: members in snake case, and amounts and instants as decimal texts,
since a reader of JSON may round numbers.
-/

namespace CardService

/-- A type whose values can be shown as JSON. -/
class View (α : Type) where
  view : α → Json

export View (view)

namespace View

/-- A member that shows a value. -/
def member {α : Type} [View α] (key : String) (a : α) : String × Json := (key, view a)

instance : View Json := ⟨id⟩

instance : View String := ⟨.string⟩

instance : View Bool := ⟨.bool⟩

instance : View UInt32 := ⟨Json.ofUInt32⟩

instance : View Int64 := ⟨fun n => .string (String.ofList (Decimal.ofWhole n.toInt))⟩

instance : View Unit := ⟨fun _ => .null⟩

instance {α : Type} [View α] : View (Option α) := ⟨Json.ofOption view⟩

instance {α : Type} [View α] : View (List α) := ⟨fun items => .array (items.map view)⟩

instance {kind : IdentifierKind} : View (Identifier kind) := ⟨fun id => .string id.text⟩

instance : View Timestamp := ⟨fun t => .string (String.ofList (Decimal.ofWhole t.nanos))⟩

instance : View CurrencyAmount where
  view a := .object [member "currency" a.currency, member "amount" a.amount]

instance {α : Type} [View α] : View (Page α) where
  view page := .object [member "items" page.items, member "next_token" page.nextToken]

/-! ## Names -/

/-- Words with capitals, for words between underscores. -/
def title (name : String) : String :=
  String.ofList <| (Text.splitBy '_' name.toList).flatMap fun
    | [] => []
    | c :: rest => c.toUpper :: rest.map Char.toLower

/-- The title of a keyword. -/
def titleOf {α : Type} [Keyword α] (a : α) : String := title (Keyword.name a)

/-- The title of the last name of a value among the known ones. -/
def knownTitle {α : Type} [DecidableEq α] (known : List (String × α)) (a : α) : String :=
  match known.reverse.find? (·.2 = a) with
  | some (name, _) => title name
  | none => "Other"

end View

end CardService
