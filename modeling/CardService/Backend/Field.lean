import CardService.Failure
import CardService.Keyword
import CardService.Timestamp

/-!
# CardService — fields of the backend's records

How single fields of a record are understood: instants are milliseconds since the epoch, and
keywords are names out of a fixed list. What cannot be understood makes the response unexpected.
-/

namespace CardService.Backend

/-- The instant that a field gives. -/
def instant (ms : Double) : Except Failure Timestamp :=
  match Timestamp.ofEpochMs? ms with
  | some t => .ok t
  | none => .error (.unexpected (.invalidEpochMs ms))

/-- The instant that a field of a record gives. -/
def instantOf (ms : Binary64) : Except Failure Timestamp := instant (.finite ms)

/-- The value that a field names; `field` is what the failure calls it. -/
def keyword {α : Type} [Keyword α] (field name : String) : Except Failure α :=
  match Keyword.parse? name with
  | some a => .ok a
  | none => .error (.unexpected (.unknownKeyword field name))

end CardService.Backend
