import CardService.Text.Hex

/-!
# CardService — TOML text, its tokens

Scanners take the characters that are left of a text and give back what they read together with the
characters after it, or nothing where the text is not TOML. No fault is told apart from another.
-/

namespace CardService.Toml

/-! ## Blanks, newlines and comments -/

/-- The blanks within a line. -/
def isBlank (c : Char) : Bool := c = ' ' || c = '\t'

def skipBlank (rest : List Char) : List Char := rest.dropWhile isBlank

/-- Whether a character may stand in a comment or in a string: the tab is the only control
character that may. -/
def isPlain (c : Char) : Bool := c = '\t' || (0x20 ≤ c.toNat && c.toNat ≠ 0x7f)

/-- Skips blanks, newlines and comments. The flag tells whether a comment has been opened. -/
def skipFiller : Bool → List Char → Option (List Char)
  | _, [] => some []
  | _, '\n' :: rest => skipFiller false rest
  | _, '\r' :: '\n' :: rest => skipFiller false rest
  | true, c :: rest => if isPlain c then skipFiller true rest else none
  | false, c :: rest =>
    if isBlank c then skipFiller false rest
    else if c = '#' then skipFiller true rest
    else some (c :: rest)

/-- Skips a comment up to the end of its line. -/
def skipComment : List Char → Option (List Char)
  | [] => some []
  | '\n' :: rest => some rest
  | '\r' :: '\n' :: rest => some rest
  | c :: rest => if isPlain c then skipComment rest else none

/-- Skips the rest of a line, in which nothing but a comment may stand. -/
def skipLine (rest : List Char) : Option (List Char) :=
  match skipBlank rest with
  | [] => some []
  | '\n' :: rest => some rest
  | '\r' :: '\n' :: rest => some rest
  | '#' :: rest => skipComment rest
  | _ => none

/-! ## Strings -/

/-- Reads the hexadecimal digits of a character's code, and goes on from the digits before. -/
def scanCode : Nat → Nat → List Char → Option (Char × List Char)
  | 0, code, rest => if code.isValidChar then some (Char.ofNat code, rest) else none
  | _ + 1, _, [] => none
  | count + 1, code, c :: rest => do scanCode count (code * 16 + (← Text.hexDigit? c)) rest

/-- The character of a one-letter escape. -/
def shortEscape? (c : Char) : Option Char :=
  match c with
  | 'b' => some '\x08'
  | 't' => some '\t'
  | 'n' => some '\n'
  | 'f' => some '\x0c'
  | 'r' => some '\r'
  | 'e' => some '\x1b'
  | '"' => some '"'
  | '\\' => some '\\'
  | _ => none

/-- Reads an escape behind its backslash. -/
def scanEscape : List Char → Option (Char × List Char)
  | [] => none
  | 'x' :: rest => scanCode 2 0 rest
  | 'u' :: rest => scanCode 4 0 rest
  | 'U' :: rest => scanCode 8 0 rest
  | c :: rest => (shortEscape? c).map (·, rest)

/-- What a reader of strings collects, in reverse order. -/
def collected (done : List Char) (rest : List Char) : String × List Char :=
  (String.ofList done.reverse, rest)

/-- Reads a string on one line up to its closing quote. -/
def scanBasic : Nat → List Char → List Char → Option (String × List Char)
  | 0, _, _ => none
  | _ + 1, _, [] => none
  | fuel + 1, done, c :: rest =>
    if c = '"' then some (collected done rest)
    else if c = '\\' then do
      let (e, rest) ← scanEscape rest
      scanBasic fuel (e :: done) rest
    else if isPlain c then scanBasic fuel (c :: done) rest
    else none

/-- Reads a string on one line without escapes up to its closing quote. -/
def scanLiteral : List Char → List Char → Option (String × List Char)
  | _, [] => none
  | done, c :: rest =>
    if c = '\'' then some (collected done rest)
    else if isPlain c then scanLiteral (c :: done) rest
    else none

/-- Blanks and newlines. -/
def skipSpace (rest : List Char) : List Char :=
  match rest with
  | '\n' :: r => skipSpace r
  | '\r' :: '\n' :: r => skipSpace r
  | c :: r => if isBlank c then skipSpace r else c :: r
  | [] => []

/-- What follows a backslash at the end of a line: blanks, the newline, and all blanks and newlines
behind it. -/
def skipLineEnd? (rest : List Char) : Option (List Char) :=
  match skipBlank rest with
  | '\n' :: r => some (skipSpace r)
  | '\r' :: '\n' :: r => some (skipSpace r)
  | _ => none

/-- Goes behind the three quotes that close a string. Up to two more quotes in front of them belong
to the string. -/
def closeLong (quote : Char) (done : List Char) (rest : List Char) : String × List Char :=
  match rest with
  | a :: b :: r =>
    if a = quote then
      if b = quote then collected (quote :: quote :: done) r else collected (quote :: done) (b :: r)
    else collected done rest
  | [a] => if a = quote then collected (quote :: done) [] else collected done rest
  | [] => collected done []

/-- Reads a string on several lines up to its closing quotes; a newline stands for itself. -/
def scanLong (quote : Char) (escapes : Bool) : Nat → List Char → List Char →
    Option (String × List Char)
  | 0, _, _ => none
  | _ + 1, _, [] => none
  | fuel + 1, done, '\n' :: rest => scanLong quote escapes fuel ('\n' :: done) rest
  | fuel + 1, done, '\r' :: '\n' :: rest => scanLong quote escapes fuel ('\n' :: '\r' :: done) rest
  | fuel + 1, done, c :: rest =>
    if c = quote then
      match rest with
      | d :: e :: r =>
        if d = quote ∧ e = quote then some (closeLong quote done r)
        else scanLong quote escapes fuel (c :: done) rest
      | _ => scanLong quote escapes fuel (c :: done) rest
    else if escapes && c = '\\' then
      match skipLineEnd? rest with
      | some rest => scanLong quote escapes fuel done rest
      | none => do
        let (e, rest) ← scanEscape rest
        scanLong quote escapes fuel (e :: done) rest
    else if isPlain c then scanLong quote escapes fuel (c :: done) rest
    else none

/-- A newline right behind the opening quotes does not belong to the string. -/
def dropFirstNewline : List Char → List Char
  | '\n' :: rest => rest
  | '\r' :: '\n' :: rest => rest
  | rest => rest

/-- Reads a string of any kind, if there is one. -/
def scanString (rest : List Char) : Option (String × List Char) :=
  match rest with
  | '"' :: '"' :: '"' :: r => scanLong '"' true (r.length + 1) [] (dropFirstNewline r)
  | '"' :: r => scanBasic (r.length + 1) [] r
  | '\'' :: '\'' :: '\'' :: r => scanLong '\'' false (r.length + 1) [] (dropFirstNewline r)
  | '\'' :: r => scanLiteral [] r
  | _ => none

/-! ## Keys -/

/-- The characters of a bare key. -/
def isBareKey (c : Char) : Bool := c.isAlphanum || c = '_' || c = '-'

/-- Reads one part of a key. -/
def scanKeyPart (rest : List Char) : Option (String × List Char) :=
  match rest with
  | '"' :: r => scanBasic (r.length + 1) [] r
  | '\'' :: r => scanLiteral [] r
  | _ =>
    match rest.span isBareKey with
    | ([], _) => none
    | (part, r) => some (String.ofList part, r)

/-- Reads the parts of a key, with points between them, and the blanks behind. -/
def scanKey : Nat → List Char → Option (List String × List Char)
  | 0, _ => none
  | fuel + 1, rest => do
    let (part, rest) ← scanKeyPart (skipBlank rest)
    match skipBlank rest with
    | '.' :: rest =>
      let (parts, rest) ← scanKey fuel rest
      return (part :: parts, rest)
    | rest => return ([part], rest)

end CardService.Toml
