import CardService.Subscription.Update
import CardService.View.Entity

/-!
# CardService — views of notices

What subscribers are told.
-/

namespace CardService.View

open Subscription

instance : View ConnectionState := ⟨fun state => .string (Keyword.name state)⟩

instance : View Notice where
  view
    | .changed source => .object [member "changed" source]
    | .connection state => .object [member "connection" state]

end CardService.View
