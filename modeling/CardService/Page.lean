import CardService.Record.Shape

/-!
# CardService — pages

Listings come page by page; a token asks for the next page.
-/

namespace CardService

open Record (Shape Layout)

/-- One page of a listing. -/
structure Page (α : Type) where
  items : List α
  nextToken : Option String
  deriving DecidableEq

namespace Page

variable {α β : Type}

/-- The layout of a page. -/
def shape (item : Shape α) : Shape (Page α) :=
  .record "ListWire"
    (.field "items" none (.list item) <|
      .field "nextToken" (some none) (.optional .text) .done)
    (fun (items, nextToken, ()) => { items, nextToken })
    (fun p => (p.items, p.nextToken, ()))

/-- Converts each item, or fails as the first item that fails. -/
def mapM {ε : Type} (f : α → Except ε β) (page : Page α) : Except ε (Page β) := do
  return { items := ← page.items.mapM f, nextToken := page.nextToken }

end Page

/-- What of a listing to return: how many items at most, and behind which token. -/
structure PageRequest where
  limit : Option UInt32
  nextToken : Option String
  deriving DecidableEq

end CardService
