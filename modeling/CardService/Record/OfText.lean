import CardService.Json.Reader
import CardService.Json.Skip
import CardService.Record.OfJson

/-!
# CardService — records read from JSON text

Reads a value of a shape straight from JSON text. A mismatch is then reported with its place, and
it wins over faults of the text behind that place. Members that no field asks for are passed over.
-/

namespace CardService.Record

open Json (SyntaxFault ScanFault Position faultAt faultAfter bytesIn skipBlank nextItem nextKey
  scanString scanColon scanWord scanNumber scanValue scanItems skipValue)

/-! ## Faults -/

/-- What can go wrong while a record is read from text. -/
inductive TextCause where
  | syntaxFault (fault : SyntaxFault)
  | mismatch (mismatch : Mismatch)

def TextCause.message : TextCause → String
  | .syntaxFault fault => fault.message
  | .mismatch m => m.message

/-- A cause, and the number of bytes behind its place. The fields under a tagged union have no
place. -/
structure TextFault where
  cause : TextCause
  left : Option Nat

def ofScanFault (e : ScanFault) : TextFault := ⟨.syntaxFault e.fault, some e.left⟩

/-- A step of a scanner. -/
def step {α : Type} (scanned : Except ScanFault α) : Except TextFault α :=
  scanned.mapError ofScanFault

/-- A mismatch in front of the characters that are left. -/
def mismatchAt (mismatch : Mismatch) (rest : List Char) : TextFault :=
  ⟨.mismatch mismatch, some (bytesIn rest)⟩

/-- A mismatch of a value that has just been read. -/
def placed {α : Type} (read : Except Mismatch α) (rest : List Char) : Except TextFault α :=
  read.mapError fun m => mismatchAt m rest

/-- Where an object is given up: behind its brace if that comes next. -/
def giveUpObject (rest : List Char) : List Char :=
  match skipBlank rest with
  | '\x7d' :: r => r
  | r => r

/-- Where an array is given up: behind its bracket, or behind a comma, if that comes next. -/
def giveUpArray (rest : List Char) : List Char :=
  match skipBlank rest with
  | ']' :: r => r
  | ',' :: r => skipBlank r
  | r => r

/-- The fault of a value of another kind. Scalars are read first and reported behind. -/
def unexpected (expected : String) (rest : List Char) : TextFault :=
  let scalar (found : Except ScanFault (Found × List Char)) : TextFault :=
    match found with
    | .ok (found, rest) => mismatchAt (.wrongType found expected) rest
    | .error e => ofScanFault e
  match rest with
  | [] => ofScanFault (faultAt .endInValue [])
  | 'n' :: r => scalar ((scanWord "ull".toList r).map (.null, ·))
  | 't' :: r => scalar ((scanWord "rue".toList r).map (.bool true, ·))
  | 'f' :: r => scalar ((scanWord "alse".toList r).map (.bool false, ·))
  | '"' :: r => scalar ((scanString r).map fun (s, r) => (.string s, r))
  | '[' :: _ => mismatchAt (.wrongType .sequence expected) rest
  | '\x7b' :: _ => mismatchAt (.wrongType .map expected) rest
  | c :: _ =>
    if c = '-' || c.isDigit then scalar ((scanNumber rest).map fun (n, r) => (.number n, r))
    else ofScanFault (faultAfter .expectedValue rest)

/-! ## Scalars -/

/-- Reads a string. -/
def readText (expected : String) (rest : List Char) : Except TextFault (String × List Char) :=
  match skipBlank rest with
  | '"' :: r => step (scanString r)
  | r => .error (unexpected expected r)

/-- Reads a boolean. -/
def readFlag (rest : List Char) : Except TextFault (Bool × List Char) :=
  match skipBlank rest with
  | 't' :: r => step ((scanWord "rue".toList r).map (true, ·))
  | 'f' :: r => step ((scanWord "alse".toList r).map (false, ·))
  | r => .error (unexpected "a boolean" r)

/-- Reads a number of a kind. -/
def readNumber {α : Type} (expected : String) (kind : Number → Except Mismatch α)
    (rest : List Char) : Except TextFault (α × List Char) :=
  match skipBlank rest with
  | [] => .error (unexpected expected [])
  | c :: r => do
    if c = '-' || c.isDigit then
      let (n, rest) ← step (scanNumber (c :: r))
      let a ← placed (kind n) rest
      return (a, rest)
    else .error (unexpected expected (c :: r))

/-- Reads `null` where a keyword stands alone in an object. -/
def readUnit (rest : List Char) : Except TextFault (List Char) :=
  match skipBlank rest with
  | 'n' :: r => step (scanWord "ull".toList r)
  | r => .error (unexpected "unit" r)

/-- Reads a name and looks it up. -/
def readName {α : Type} (lookUp : String → Except Mismatch α) (rest : List Char) :
    Except TextFault (α × List Char) := do
  let (s, rest) ← readText "variant identifier" rest
  let a ← placed (lookUp s) rest
  return (a, rest)

/-- Reads the only key of an object, behind the brace, and looks it up. -/
def readKey {α : Type} (lookUp : String → Except Mismatch α) (rest : List Char) :
    Except TextFault (α × List Char) := do
  match ← step (nextKey true rest) with
  | some r => readName lookUp ('"' :: r)
  | none => .error (ofScanFault (faultAfter .expectedValue (skipBlank rest)))

/-- Reads a keyword: a string, or an object with the keyword as its only key. -/
def readKeyword {α : Type} (levels : Nat) (lookUp : String → Except Mismatch α) (rest : List Char) :
    Except TextFault (α × List Char) :=
  match skipBlank rest with
  | [] => .error (ofScanFault (faultAt .endInValue []))
  | '"' :: r => readName lookUp ('"' :: r)
  | '\x7b' :: r =>
    match levels with
    | 0 => .error (ofScanFault (faultAfter .tooDeep ('\x7b' :: r)))
    | _ + 1 => do
      let (a, rest) ← readKey lookUp r
      let rest ← step (scanColon rest)
      let rest ← readUnit rest
      match skipBlank rest with
      | '\x7d' :: r => return (a, r)
      | [] => .error (ofScanFault (faultAt .endInObject []))
      | r => .error (ofScanFault (faultAt .expectedValue r))
  | r => .error (ofScanFault (faultAfter .expectedValue r))

/-! ## Brackets -/

/-- Reads the end of an array that stands for a record. -/
def readArrayEnd (rest : List Char) : Except TextFault (List Char) :=
  match skipBlank rest with
  | ']' :: r => .ok r
  | ',' :: r =>
    match skipBlank r with
    | ']' :: r => .error (ofScanFault (faultAfter .trailingComma (']' :: r)))
    | r => .error (ofScanFault (faultAfter .trailingCharacters r))
  | [] => .error (ofScanFault (faultAt .endInList []))
  | r => .error (ofScanFault (faultAfter .trailingCharacters r))

/-- Reads the items of a list behind its bracket, and the closing one. -/
def readItems {α : Type} (item : List Char → Except TextFault (α × List Char)) :
    Nat → Bool → List Char → Except TextFault (List α × List Char)
  | 0, _, rest => .error (ofScanFault (faultAt .endInList rest))
  | fuel + 1, first, rest => do
    match ← step (nextItem first rest) with
    | none => return ([], (skipBlank rest).drop 1)
    | some rest =>
      let (a, rest) ← item rest
      let (items, rest) ← readItems item fuel false rest
      return (a :: items, rest)

/-- Reads the members of an object behind its brace, up to the closing one. `field` reads the value
of a known key on to what is known so far. -/
def readFields {σ : Type}
    (field : String → σ → List Char → Option (Except TextFault (σ × List Char))) :
    Nat → Bool → σ → List Char → Except TextFault (σ × List Char)
  | 0, _, _, rest => .error (ofScanFault (faultAt .endInObject rest))
  | fuel + 1, first, slots, rest => do
    match ← step (nextKey first rest) with
    | none => return (slots, rest)
    | some rest =>
      let (key, rest) ← step (scanString rest)
      match field key slots rest with
      | some read =>
        let (slots, rest) ← read
        readFields field fuel false slots rest
      | none =>
        let rest ← step (scanColon rest)
        let rest ← step (skipValue rest)
        readFields field fuel false slots rest

/-- Reads the members of a tagged record behind its brace, up to the closing one: the name under
the tag, and the other members. -/
def readTagged (levels : Nat) (tag : String) (names : List String) :
    Nat → Bool → Option String → List Char → Except TextFault ((String × Members) × List Char)
  | 0, _, _, rest => .error (ofScanFault (faultAt .endInObject rest))
  | fuel + 1, first, seen, rest => do
    match ← step (nextKey first rest) with
    | none =>
      match seen with
      | some name => return ((name, []), rest)
      | none => .error (mismatchAt (.missingField tag) (giveUpObject rest))
    | some rest =>
      let (key, rest) ← step (scanString rest)
      if key = tag then
        if seen.isSome then .error (mismatchAt (.duplicateField tag) (giveUpObject rest))
        else
          let rest ← step (scanColon rest)
          let (name, rest) ← readName (named names id) rest
          readTagged levels tag names fuel false (some name) rest
      else
        let rest ← step (scanColon rest)
        let (value, rest) ← step (scanValue levels rest)
        let ((name, others), rest) ← readTagged levels tag names fuel false seen rest
        return ((name, (key, value) :: others), rest)

/-- Opens a bracket, if there is a level left for it. -/
def opening {α : Type} (levels : Nat) (rest : List Char)
    (inner : Nat → Except TextFault (α × List Char)) : Except TextFault (α × List Char) :=
  match levels with
  | 0 => .error (ofScanFault (faultAfter .tooDeep rest))
  | levels + 1 => inner levels

/-! ## Shapes -/

mutual

/-- Reads a value of a shape, with some levels of nesting left. -/
def Shape.scan {α : Type} : Shape α → Nat → List Char → Except TextFault (α × List Char)
  | .text, _, rest => readText "a string" rest
  | .flag, _, rest => readFlag rest
  | .natural32, _, rest => readNumber "u32" Record.natural32 rest
  | .integer64, _, rest => readNumber "i64" Record.integer64 rest
  | .real, _, rest => readNumber "f64" (fun n => .ok n.toBinary64) rest
  | .anything, levels, rest => step ((scanValue levels rest).map fun (json, r) => (json.settle, r))
  | .keyword all name, levels, rest => readKeyword levels (named all name) rest
  | .optional item, levels, rest =>
    match skipBlank rest with
    | 'n' :: r => step ((scanWord "ull".toList r).map (none, ·))
    | r => (item.scan levels r).map fun (a, r) => (some a, r)
  | .list item, levels, rest =>
    match skipBlank rest with
    | '[' :: r =>
      opening levels ('[' :: r) fun inner =>
        readItems (fun rest => item.scan inner rest) (r.length + 1) true r
    | r => .error (unexpected "a sequence" r)
  | .record title layout build _, levels, rest =>
    match skipBlank rest with
    | '\x7b' :: r =>
      opening levels ('\x7b' :: r) fun inner => do
        let (slots, rest) ← readFields (fun key slots rest => layout.scanField inner key slots rest)
          (r.length + 1) true layout.blank r
        let b ← placed (layout.finish slots) (giveUpObject rest)
        return (build b, giveUpObject rest)
    | '[' :: r =>
      opening levels ('[' :: r) fun inner => do
        let (b, rest) ← layout.scanInOrder inner (structLength title layout.size) 0 r
        return (build b, ← readArrayEnd rest)
    | r => .error (unexpected (structTitle title) r)
  | .tagged title tag kinds, levels, rest =>
    match skipBlank rest with
    | '\x7b' :: r =>
      opening levels ('\x7b' :: r) fun inner => do
        let ((name, members), rest) ← readTagged inner tag kinds.names (r.length + 1) true none r
        match kinds.read name (.object members) with
        | .ok a => return (a, giveUpObject rest)
        | .error m => .error ⟨.mismatch m, none⟩
    | '[' :: r =>
      opening levels ('[' :: r) fun inner => do
        match ← step (nextItem true r) with
        | none => .error (mismatchAt (.missingField tag) (giveUpArray r))
        | some r =>
          let (name, rest) ← readName (named kinds.names id) r
          let item (r : List Char) : Except ScanFault (Json × List Char) := scanValue inner r
          let (items, rest) ← step (scanItems item (rest.length + 1) false rest)
          match kinds.read name (.array items) with
          | .ok a => return (a, rest)
          | .error m => .error ⟨.mismatch m, none⟩
    | r => .error (unexpected (unionTitle title) r)

/-- Reads the value of a key into its field; nothing is done for an unknown key. -/
def Layout.scanField {β σ : Type} : Layout β σ → Nat → String → σ → List Char →
    Option (Except TextFault (σ × List Char))
  | .done, _, _, _, _ => none
  | .field key _ shape rest, levels, k, (slot, slots), text =>
    if k = key then
      some (
        if slot.isSome then .error (mismatchAt (.duplicateField key) (giveUpObject text))
        else do
          let text ← step (scanColon text)
          let (a, text) ← shape.scan levels text
          return ((some a, slots), text))
    else (rest.scanField levels k slots text).map fun read =>
      read.map fun (slots, text) => ((slot, slots), text)
  | .omittable key shape rest, levels, k, (slot, slots), text =>
    if k = key then
      some (
        if slot.isSome then .error (mismatchAt (.duplicateField key) (giveUpObject text))
        else do
          let text ← step (scanColon text)
          match skipBlank text with
          | 'n' :: r =>
            let text ← step (scanWord "ull".toList r)
            return ((some none, slots), text)
          | r =>
            let (a, text) ← shape.scan levels r
            return ((some (some a), slots), text))
    else (rest.scanField levels k slots text).map fun read =>
      read.map fun (slots, text) => ((slot, slots), text)

/-- Reads the fields from the items of an array, in order. -/
def Layout.scanInOrder {β σ : Type} : Layout β σ → Nat → String → Nat → List Char →
    Except TextFault (β × List Char)
  | .done, _, _, _, text => .ok ((), text)
  | .field _ absent shape rest, levels, expected, count, text => do
    match ← step (nextItem (count == 0) text) with
    | some text =>
      let (a, text) ← shape.scan levels text
      let (b, text) ← rest.scanInOrder levels expected (count + 1) text
      return ((a, b), text)
    | none =>
      match absent with
      | some a =>
        let (b, text) ← rest.scanInOrder levels expected (count + 1) text
        return ((a, b), text)
      | none => .error (mismatchAt (.wrongLength count expected) (giveUpArray text))
  | .omittable _ shape rest, levels, expected, count, text => do
    match ← step (nextItem (count == 0) text) with
    | some text =>
      match skipBlank text with
      | 'n' :: r =>
        let text ← step (scanWord "ull".toList r)
        let (b, text) ← rest.scanInOrder levels expected (count + 1) text
        return ((none, b), text)
      | r =>
        let (a, text) ← shape.scan levels r
        let (b, text) ← rest.scanInOrder levels expected (count + 1) text
        return ((some a, b), text)
    | none =>
      let (b, text) ← rest.scanInOrder levels expected (count + 1) text
      return ((none, b), text)

end

/-! ## Whole texts -/

/-- What a text is refused with: a cause and, where there is one, its place. -/
structure TextError where
  cause : TextCause
  position : Option Position

def TextError.message (e : TextError) : String :=
  e.cause.message ++ (e.position.elim "" Position.suffix)

/-- Reads a value of a shape from a whole text. -/
def Shape.ofText {α : Type} (shape : Shape α) (text : String) : Except TextError α :=
  let read : Except TextFault α := do
    let (a, rest) ← shape.scan Json.nestingLimit text.toList
    step (Json.scanEnd rest)
    return a
  read.mapError fun e => ⟨e.cause, e.left.map fun left => .of text.toList left⟩

end CardService.Record
