import CardService.Toml.Value

/-!
# CardService — TOML documents, read

A document is a list of headers and pairs. The headers open tables, and each pair adds a member to
the table that was opened last.
-/

namespace CardService.Toml

/-- How deep arrays and tables in braces may be nested, and how many parts a key may have. -/
def nestingLimit : Nat := 80

/-! ## Values -/

/-- Reads the items of an array behind its bracket, and the closing one. -/
def scanItems (item : List Char → Option (Value × List Char)) :
    Nat → List Value → List Char → Option (List Value × List Char)
  | 0, _, _ => none
  | fuel + 1, done, rest => do
    match ← skipFiller false rest with
    | ']' :: rest => return (done.reverse, rest)
    | rest =>
      let (value, rest) ← item rest
      match ← skipFiller false rest with
      | ',' :: rest => scanItems item fuel (value :: done) rest
      | ']' :: rest => return ((value :: done).reverse, rest)
      | _ => none

/-- Reads a pair up to the end of its value. What `skip` skips may stand around the sign between key
and value. -/
def scanPair (skip : List Char → Option (List Char))
    (value : List Char → Option (Value × List Char)) (rest : List Char) :
    Option (List String × Value × List Char) := do
  let (path, rest) ← scanKey (rest.length + 1) rest
  if nestingLimit < path.length then none
  match ← skip rest with
  | '=' :: rest =>
    let (v, rest) ← value (← skip rest)
    return (path, v, rest)
  | _ => none

/-- Reads the pairs of a table in braces behind the opening one, and the closing one. -/
def scanMembers (value : List Char → Option (Value × List Char)) :
    Nat → Table → List Char → Option (Table × List Char)
  | 0, _, _ => none
  | fuel + 1, table, rest => do
    match ← skipFiller false rest with
    | '\x7d' :: rest => return (table, rest)
    | rest =>
      let (path, v, rest) ← scanPair (skipFiller false) value rest
      let table ← table.addPath v path
      match ← skipFiller false rest with
      | ',' :: rest => scanMembers value fuel table rest
      | '\x7d' :: rest => return (table, rest)
      | _ => none

/-- Reads a value; so many levels of arrays and tables may still be opened. -/
def scanValue : Nat → List Char → Option (Value × List Char)
  | levels, '[' :: rest =>
    match levels with
    | 0 => none
    | inner + 1 => do
      let (items, rest) ← scanItems (fun r => scanValue inner r) (rest.length + 1) [] rest
      return (.array items, rest)
  | levels, '\x7b' :: rest =>
    match levels with
    | 0 => none
    | inner + 1 => do
      let (members, rest) ← scanMembers (fun r => scanValue inner r) (rest.length + 1) [] rest
      return (.table .braces members, rest)
  | _, '"' :: rest => do
    let (s, rest) ← scanString ('"' :: rest)
    return (.string s, rest)
  | _, '\'' :: rest => do
    let (s, rest) ← scanString ('\'' :: rest)
    return (.string s, rest)
  | _, rest => do
    let (s, rest) ← scanScalar rest
    return (.scalar s, rest)

/-! ## Documents -/

/-- A line of a document that says something. -/
inductive Statement where
  | table (path : List String)
  | nextTable (path : List String)
  | pair (path : List String) (value : Value)

/-- Reads a statement with its line. -/
def scanStatement (rest : List Char) : Option (Statement × List Char) := do
  match rest with
  | '[' :: '[' :: rest =>
    let (path, rest) ← scanKey (rest.length + 1) rest
    let ']' :: ']' :: rest := rest | none
    return (.nextTable path, ← skipLine rest)
  | '[' :: rest =>
    let (path, rest) ← scanKey (rest.length + 1) rest
    let ']' :: rest := rest | none
    return (.table path, ← skipLine rest)
  | rest =>
    let (path, v, rest) ← scanPair (fun r => some (skipBlank r)) (scanValue nestingLimit) rest
    return (.pair path v, ← skipLine rest)

/-- Reads the statements of a document. -/
def scanStatements : Nat → List Statement → List Char → Option (List Statement)
  | 0, _, _ => none
  | fuel + 1, done, rest =>
    match skipFiller false rest with
    | none => none
    | some [] => some done.reverse
    | some rest =>
      match scanStatement rest with
      | none => none
      | some (statement, rest) => scanStatements fuel (statement :: done) rest

/-- A document as far as it is read: its table, and the path of the table that is open. -/
structure Draft where
  root : Table
  path : List String

/-- Goes on with a statement. -/
def Draft.extend (draft : Draft) : Statement → Option Draft
  | .table path => do
    let key ← path.getLast?
    return ⟨← draft.root.atPath (·.openTable key) path.dropLast, path⟩
  | .nextTable path => do
    let key ← path.getLast?
    return ⟨← draft.root.atPath (·.openNext key) path.dropLast, path⟩
  | .pair path value => do
    return ⟨← draft.root.atPath (·.addPath value path) draft.path, draft.path⟩

/-- The table of a document. A mark of the byte order in front of it is skipped. -/
def parse (text : List Char) : Option Table := do
  let text :=
    match text with
    | '\uFEFF' :: rest => rest
    | text => text
  let statements ← scanStatements (text.length + 1) [] text
  let draft ← statements.foldlM Draft.extend ⟨[], []⟩
  return draft.root

end CardService.Toml
