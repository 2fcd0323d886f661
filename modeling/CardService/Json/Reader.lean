import CardService.Json.Scan

/-!
# CardService — JSON text, read

Reads a JSON value from its text. Arrays and objects may be nested `nestingLimit` deep; the reader
carries the number of levels that may still be opened.
-/

namespace CardService.Json

/-- How deep arrays and objects may be nested. -/
def nestingLimit : Nat := 127

/-! ## The steps of arrays and objects -/

/-- Goes to the next item of an array: the characters it starts with, or `none` in front of the
closing bracket. -/
def nextItem (first : Bool) (rest : List Char) : Except ScanFault (Option (List Char)) :=
  match skipBlank rest with
  | [] => .error (faultAt .endInList [])
  | ']' :: _ => .ok none
  | c :: r =>
    if first then .ok (some (c :: r))
    else if c = ',' then
      match skipBlank r with
      | [] => .error (faultAt .endInValue [])
      | ']' :: r => .error (faultAfter .trailingComma (']' :: r))
      | r => .ok (some r)
    else .error (faultAfter .expectedListCommaOrEnd (c :: r))

/-- Goes behind the quote of the next key of an object, or gives `none` in front of the closing
brace. -/
def nextKey (first : Bool) (rest : List Char) : Except ScanFault (Option (List Char)) :=
  match skipBlank rest with
  | [] => .error (faultAt .endInObject [])
  | '\x7d' :: _ => .ok none
  | c :: r =>
    if first then
      if c = '"' then .ok (some r) else .error (faultAfter .keyNotString (c :: r))
    else if c = ',' then
      match skipBlank r with
      | [] => .error (faultAt .endInValue [])
      | '"' :: r => .ok (some r)
      | '\x7d' :: r => .error (faultAfter .trailingComma ('\x7d' :: r))
      | r => .error (faultAfter .keyNotString r)
    else .error (faultAfter .expectedObjectCommaOrEnd (c :: r))

/-- Reads the colon behind a key. -/
def scanColon (rest : List Char) : Except ScanFault (List Char) :=
  match skipBlank rest with
  | [] => .error (faultAt .endInObject [])
  | ':' :: r => .ok r
  | r => .error (faultAfter .expectedColon r)

/-- Reads the items of an array behind its bracket, and the closing one. -/
def scanItems {α : Type} (item : List Char → Except ScanFault (α × List Char)) :
    Nat → Bool → List Char → Except ScanFault (List α × List Char)
  | 0, _, rest => .error (faultAt .endInList rest)
  | fuel + 1, first, rest => do
    match ← nextItem first rest with
    | none => return ([], (skipBlank rest).drop 1)
    | some rest =>
      let (a, rest) ← item rest
      let (items, rest) ← scanItems item fuel false rest
      return (a :: items, rest)

/-- Reads the members of an object behind its brace, and the closing one. -/
def scanMembers {α : Type} (value : List Char → Except ScanFault (α × List Char)) :
    Nat → Bool → List Char → Except ScanFault (List (String × α) × List Char)
  | 0, _, rest => .error (faultAt .endInObject rest)
  | fuel + 1, first, rest => do
    match ← nextKey first rest with
    | none => return ([], (skipBlank rest).drop 1)
    | some rest =>
      let (key, rest) ← scanString rest
      let rest ← scanColon rest
      let (a, rest) ← value rest
      let (members, rest) ← scanMembers value fuel false rest
      return ((key, a) :: members, rest)

/-! ## Values -/

/-- Reads a value as it is written: repeated keys stay. -/
def scanValue : Nat → List Char → Except ScanFault (Json × List Char)
  | levels, rest =>
    match skipBlank rest with
    | [] => .error (faultAt .endInValue [])
    | 'n' :: r => (scanWord "ull".toList r).map (.null, ·)
    | 't' :: r => (scanWord "rue".toList r).map (.bool true, ·)
    | 'f' :: r => (scanWord "alse".toList r).map (.bool false, ·)
    | '"' :: r => (scanString r).map fun (s, r) => (.string s, r)
    | '[' :: r =>
      match levels with
      | 0 => .error (faultAfter .tooDeep ('[' :: r))
      | inner + 1 =>
        (scanItems (fun r => scanValue inner r) (r.length + 1) true r).map
          fun (items, r) => (.array items, r)
    | '\x7b' :: r =>
      match levels with
      | 0 => .error (faultAfter .tooDeep ('\x7b' :: r))
      | inner + 1 =>
        (scanMembers (fun r => scanValue inner r) (r.length + 1) true r).map
          fun (members, r) => (.object members, r)
    | c :: r =>
      if c = '-' || c.isDigit then (scanNumber (c :: r)).map fun (n, r) => (.number n, r)
      else .error (faultAfter .expectedValue (c :: r))

/-- Nothing but blanks may be left. -/
def scanEnd (rest : List Char) : Except ScanFault Unit :=
  match skipBlank rest with
  | [] => .ok ()
  | r => .error (faultAfter .trailingCharacters r)

/-- A fault in a JSON text, and its place. -/
structure SyntaxError where
  fault : SyntaxFault
  position : Position
  deriving DecidableEq

def SyntaxError.message (e : SyntaxError) : String := e.fault.message ++ e.position.suffix

/-- Reads a whole text, as far as the faults go. -/
def scanText (text : List Char) : Except ScanFault Json := do
  let (json, rest) ← scanValue nestingLimit text
  scanEnd rest
  return json

/-- Reads a JSON value from its text. -/
def parse (text : String) : Except SyntaxError Json :=
  match scanText text.toList with
  | .ok json => .ok json.settle
  | .error e => .error ⟨e.fault, .of text.toList e.left⟩

end CardService.Json
