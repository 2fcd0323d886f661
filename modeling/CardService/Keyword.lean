/-!
# CardService — keywords

Types with a few values that stand in records under fixed names.
-/

namespace CardService

/-- A type whose values are known by name. -/
class Keyword (α : Type) where
  /-- All values. -/
  all : List α
  /-- The name of a value. -/
  name : α → String

namespace Keyword

/-- The value of the given name. -/
def parse? {α : Type} [Keyword α] (s : String) : Option α := all.find? fun a => name a == s

end Keyword

end CardService
