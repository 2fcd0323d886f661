import CardService.Json.Scan

/-!
# CardService — JSON text, passed over

Passes over a value that nobody asked for. Skipping checks less than reading does: it has no limit
of nesting, accepts any surrogate in a `\u` escape and numbers of any size, and it has faults of
its own where a list or an object breaks off.
-/

namespace CardService.Json

/-! ## Numbers and strings -/

/-- Passes over the digits of an exponent, behind its letter. -/
def skipExponent (rest : List Char) : Except ScanFault (List Char) :=
  let rest := match rest with
    | '+' :: r | '-' :: r => r
    | r => r
  match rest with
  | c :: r =>
    if c.isDigit then .ok (r.dropWhile Char.isDigit)
    else .error (faultAfter .invalidNumber rest)
  | [] => .error (faultAt .invalidNumber [])

/-- Passes over what may follow the whole digits of a number. -/
def skipAfterDigits (rest : List Char) : Except ScanFault (List Char) :=
  match rest with
  | '.' :: r =>
    match spanDigits r with
    | ([], r) => .error (faultAfter .invalidNumber r)
    | (_, 'e' :: r) | (_, 'E' :: r) => skipExponent r
    | (_, r) => .ok r
  | 'e' :: r | 'E' :: r => skipExponent r
  | r => .ok r

/-- Passes over a number behind its sign. -/
def skipMagnitude (rest : List Char) : Except ScanFault (List Char) :=
  match rest with
  | '0' :: r =>
    match r with
    | c :: _ => if c.isDigit then .error (faultAfter .invalidNumber r) else skipAfterDigits r
    | [] => skipAfterDigits r
  | c :: r =>
    if c.isDigit then skipAfterDigits (r.dropWhile Char.isDigit)
    else .error (faultAfter .invalidNumber rest)
  | [] => .error (faultAt .invalidNumber [])

/-- Passes over an escape behind its backslash. -/
def skipEscape (rest : List Char) : Except ScanFault (List Char) :=
  match rest with
  | [] => .error (faultAt .endInString [])
  | 'u' :: r => (scanHexFour r).map (·.2)
  | c :: r => if (shortEscape? c).isSome then .ok r else .error (faultAfter .invalidEscape rest)

/-- Passes over the characters of a string and its closing quote. -/
def skipChars : Nat → List Char → Except ScanFault (List Char)
  | 0, rest => .error (faultAt .endInString rest)
  | _ + 1, [] => .error (faultAt .endInString [])
  | fuel + 1, c :: rest =>
    if c = '"' then .ok rest
    else if c = '\\' then
      match skipEscape rest with
      | .ok rest => skipChars fuel rest
      | .error fault => .error fault
    else if c.toNat < 0x20 then .error (faultAt .controlCharacter (c :: rest))
    else skipChars fuel rest

/-- Passes over a string behind its opening quote. -/
def skipString (rest : List Char) : Except ScanFault (List Char) := skipChars (rest.length + 1) rest

/-! ## Values -/

/-- The two kinds of brackets that may be open. -/
inductive Bracket where
  | list
  | object
  deriving DecidableEq

def Bracket.closing : Bracket → Char
  | .list => ']'
  | .object => '\x7d'

/-- The fault of a text that ends inside brackets. -/
def Bracket.endFault : Bracket → SyntaxFault
  | .list => .endInList
  | .object => .endInObject

/-- The fault of brackets that do not go on with a comma. -/
def Bracket.commaFault : Bracket → SyntaxFault
  | .list => .expectedListCommaOrEnd
  | .object => .expectedObjectCommaOrEnd

/-- Where skipping stands: in front of a value, or behind one (or behind an opening bracket, where
no comma may follow). -/
inductive SkipState where
  | value
  | after (comma : Bool)

/-- Passes over the key and the colon in front of a member's value. -/
def skipKey (rest : List Char) : Except ScanFault (List Char) :=
  match skipBlank rest with
  | '"' :: r =>
    match skipString r with
    | .error fault => .error fault
    | .ok r =>
      match skipBlank r with
      | ':' :: r => .ok r
      | [] => .error (faultAt .endInObject [])
      | r => .error (faultAfter .expectedColon r)
  | [] => .error (faultAt .endInObject [])
  | r => .error (faultAfter .keyNotString r)

/-- Passes over a value with the given brackets open around it, the innermost first. -/
def skipFrom : Nat → SkipState → List Bracket → List Char → Except ScanFault (List Char)
  | 0, _, _, rest => .error (faultAt .endInValue rest)
  | fuel + 1, .value, opened, rest =>
    match skipBlank rest with
    | [] => .error (faultAt .endInValue [])
    | '[' :: r => skipFrom fuel (.after false) (.list :: opened) r
    | '\x7b' :: r => skipFrom fuel (.after false) (.object :: opened) r
    | c :: r =>
      let scalar : Except ScanFault (List Char) :=
        if c = 'n' then scanWord "ull".toList r
        else if c = 't' then scanWord "rue".toList r
        else if c = 'f' then scanWord "alse".toList r
        else if c = '-' then skipMagnitude r
        else if c.isDigit then skipMagnitude (c :: r)
        else if c = '"' then skipString r
        else .error (faultAfter .expectedValue (c :: r))
      match scalar with
      | .error fault => .error fault
      | .ok r => skipFrom fuel (.after true) opened r
  | _ + 1, .after _, [], rest => .ok rest
  | fuel + 1, .after comma, bracket :: opened, rest =>
    let next (r : List Char) : Except ScanFault (List Char) :=
      match bracket with
      | .list => skipFrom fuel .value (bracket :: opened) r
      | .object =>
        match skipKey r with
        | .ok r => skipFrom fuel .value (bracket :: opened) r
        | .error fault => .error fault
    match skipBlank rest with
    | [] => .error (faultAt bracket.endFault [])
    | c :: r =>
      if comma && c = ',' then next r
      else if c = bracket.closing then skipFrom fuel (.after true) opened r
      else if comma then .error (faultAfter bracket.commaFault (c :: r))
      else next (c :: r)

/-- Passes over one value. -/
def skipValue (rest : List Char) : Except ScanFault (List Char) :=
  skipFrom (2 * rest.length + 2) .value [] rest

end CardService.Json
