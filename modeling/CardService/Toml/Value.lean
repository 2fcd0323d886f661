import CardService.Toml.Scalar

/-!
# CardService — TOML values

The value of a TOML document. A table knows how it was written, since that decides what may be added
to it later in the document.
-/

namespace CardService.Toml

/-- How a table was written. -/
inductive TableOrigin where
  /-- Under a header of its own. -/
  | header
  /-- Above the table of some header. -/
  | above
  /-- By the points in the key of a pair. -/
  | dotted
  /-- In braces. -/
  | braces
  deriving DecidableEq

/-- A TOML value. -/
inductive Value where
  | string (value : String)
  | scalar (value : Scalar)
  | array (items : List Value)
  /-- The tables of a header in double brackets, the last one first. -/
  | tables (members : List (List (String × Value)))
  | table (origin : TableOrigin) (members : List (String × Value))

instance : Inhabited Value := ⟨.array []⟩

/-- The members of a table. -/
abbrev Table := List (String × Value)

/-- Puts a value under a key, made of the one that is there. -/
def Table.alter (f : Option Value → Option Value) (key : String) : Table → Option Table
  | [] => do return [(key, ← f none)]
  | (k, value) :: rest =>
    if k = key then do return (k, ← f (some value)) :: rest
    else do return (k, value) :: (← Table.alter f key rest)

/-- Adds a member to a table. It must not be there yet. -/
def Table.add (key : String) (value : Value) (table : Table) : Option Table :=
  table.alter (fun | none => some value | some _ => none) key

/-! ## Pairs -/

/-- Adds a value under a key with points. The tables on the way are made by such keys only. -/
def Table.addPath (value : Value) : List String → Table → Option Table
  | [], _ => none
  | [key], table => table.add key value
  | key :: rest, table =>
    table.alter (fun
      | none => (Table.addPath value rest []).map (.table .dotted)
      | some (.table .dotted members) => (Table.addPath value rest members).map (.table .dotted)
      | some _ => none) key

/-! ## Headers -/

/-- Changes the table at the end of a path. Tables on the way are made where they are missing, and
the last one is meant where there are several. -/
def Table.atPath (f : Table → Option Table) : List String → Table → Option Table
  | [], table => f table
  | key :: rest, table =>
    table.alter (fun
      | none => (Table.atPath f rest []).map (.table .above)
      | some (.table .braces _) => none
      | some (.table origin members) => (Table.atPath f rest members).map (.table origin)
      | some (.tables (last :: earlier)) => do
        return .tables ((← Table.atPath f rest last) :: earlier)
      | some _ => none) key

/-- Opens the table of a header. -/
def Table.openTable (key : String) (table : Table) : Option Table :=
  table.alter (fun
    | none => some (.table .header [])
    | some (.table .above members) => some (.table .header members)
    | some _ => none) key

/-- Opens one more of the tables of a header in double brackets. -/
def Table.openNext (key : String) (table : Table) : Option Table :=
  table.alter (fun
    | none => some (.tables [[]])
    | some (.tables members) => some (.tables ([] :: members))
    | some _ => none) key

end CardService.Toml
