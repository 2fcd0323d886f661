import CardService.Json.Basic
import CardService.Number.Decimal
import CardService.Text.Hex

/-!
# CardService — JSON text, its tokens

Scanners take the characters that are left of a text and give back what they read together with
the characters after it. A fault says what is wrong and how many bytes of the text were left at
that point; `Position.of` turns that into a line and a column.
-/

namespace CardService.Json

/-! ## Faults and positions -/

/-- What can be wrong with a JSON text. -/
inductive SyntaxFault where
  | endInList
  | endInObject
  | endInString
  | endInValue
  | expectedColon
  | expectedListCommaOrEnd
  | expectedObjectCommaOrEnd
  | expectedIdent
  | expectedValue
  | invalidEscape
  | invalidNumber
  | numberOutOfRange
  | controlCharacter
  | keyNotString
  | loneSurrogate
  | trailingComma
  | trailingCharacters
  | unfinishedSurrogatePair
  | tooDeep
  deriving DecidableEq

def SyntaxFault.message : SyntaxFault → String
  | .endInList => "EOF while parsing a list"
  | .endInObject => "EOF while parsing an object"
  | .endInString => "EOF while parsing a string"
  | .endInValue => "EOF while parsing a value"
  | .expectedColon => "expected `:`"
  | .expectedListCommaOrEnd => "expected `,` or `]`"
  | .expectedObjectCommaOrEnd => "expected `,` or `\x7d`"
  | .expectedIdent => "expected ident"
  | .expectedValue => "expected value"
  | .invalidEscape => "invalid escape"
  | .invalidNumber => "invalid number"
  | .numberOutOfRange => "number out of range"
  | .controlCharacter => "control character (\\u0000-\\u001F) found while parsing a string"
  | .keyNotString => "key must be a string"
  | .loneSurrogate => "lone leading surrogate in hex escape"
  | .trailingComma => "trailing comma"
  | .trailingCharacters => "trailing characters"
  | .unfinishedSurrogatePair => "unexpected end of hex escape"
  | .tooDeep => "recursion limit exceeded"

/-- A fault, and the number of bytes of the text behind the place it is reported at. -/
structure ScanFault where
  fault : SyntaxFault
  left : Nat
  deriving DecidableEq

/-- The length of a text in bytes. -/
def bytesIn (text : List Char) : Nat := text.foldr (fun c n => c.utf8Size + n) 0

/-- A fault in front of the characters that are left. -/
def faultAt (fault : SyntaxFault) (rest : List Char) : ScanFault := ⟨fault, bytesIn rest⟩

/-- A fault behind the next byte, if there is one. -/
def faultAfter (fault : SyntaxFault) (rest : List Char) : ScanFault := ⟨fault, bytesIn rest - 1⟩

/-- A place in a text. Lines count from one, and columns count the bytes of the line in front. -/
structure Position where
  line : Nat
  column : Nat
  deriving DecidableEq

/-- Moves a position over the characters of the first `count` bytes. -/
def Position.advance : Position → Nat → List Char → Position
  | p, _, [] => p
  | p, count, c :: rest =>
    if count = 0 then p
    else if c = '\n' then Position.advance ⟨p.line + 1, 0⟩ (count - 1) rest
    else if count ≤ c.utf8Size then ⟨p.line, p.column + count⟩
    else Position.advance ⟨p.line, p.column + c.utf8Size⟩ (count - c.utf8Size) rest

/-- The place with `left` bytes of the text behind it. -/
def Position.of (text : List Char) (left : Nat) : Position :=
  Position.advance ⟨1, 0⟩ (bytesIn text - left) text

/-- The words that name a place. -/
def Position.suffix (p : Position) : String :=
  " at line " ++ toString p.line ++ " column " ++ toString p.column

/-! ## Blanks and words -/

/-- The four blank characters of JSON. -/
def isBlank (c : Char) : Bool := c = ' ' || c = '\n' || c = '\t' || c = '\r'

def skipBlank (rest : List Char) : List Char := rest.dropWhile isBlank

/-- Reads the rest of one of the words `null`, `true` and `false`. -/
def scanWord : List Char → List Char → Except ScanFault (List Char)
  | [], rest => .ok rest
  | _ :: _, [] => .error (faultAt .endInValue [])
  | w :: word, c :: rest =>
    if c = w then scanWord word rest else .error (faultAfter .expectedIdent (c :: rest))

/-! ## Numbers -/

/-- The digits at the front of a text, and what is behind them. -/
def spanDigits (rest : List Char) : List Char × List Char := rest.span Char.isDigit

/-- Puts decimal digits behind a number. -/
def appendDigits (n : Nat) (digits : List Char) : Nat :=
  digits.foldl (fun n c => 10 * n + (c.toNat - '0'.toNat)) n

/-- The largest exponent that is read. -/
def maxExponent : Nat := 0x7fffffff

/-- What is left behind the digit at which an exponent passes the largest one, if it does. -/
def exponentOverflow? : Nat → List Char → Option (List Char)
  | _, [] => none
  | exponent, c :: rest =>
    if c.isDigit then
      let next := appendDigits exponent [c]
      if maxExponent < next then some rest else exponentOverflow? next rest
    else none

/-- The double of a decimal that was read. -/
def scannedDouble (negative : Bool) (digits : Nat) (exponent : Int) (rest : List Char) :
    Except ScanFault (Number × List Char) :=
  match Decimal.toBinary64? negative ⟨digits, exponent⟩ with
  | some x => .ok (.float x, rest)
  | none => .error (faultAt .numberOutOfRange rest)

/-- Reads an exponent, behind its letter, of `digits` with `places` of them behind the point. -/
def scanExponent (negative : Bool) (digits places : Nat) (rest : List Char) :
    Except ScanFault (Number × List Char) :=
  let (down, rest) := match rest with
    | '+' :: r => (false, r)
    | '-' :: r => (true, r)
    | r => (false, r)
  match rest with
  | [] => .error (faultAt .endInValue [])
  | c :: _ =>
    if !c.isDigit then .error (faultAfter .invalidNumber rest)
    else
      let (exponent, behind) := spanDigits rest
      match exponentOverflow? 0 rest with
      | none =>
        let exponent : Int := appendDigits 0 exponent
        scannedDouble negative digits ((if down then -exponent else exponent) - places) behind
      | some overflow =>
        if digits ≠ 0 && !down then .error (faultAt .numberOutOfRange overflow)
        else scannedDouble negative 0 0 behind

/-- Reads the places behind a point. -/
def scanPlaces (negative : Bool) (digits : Nat) (rest : List Char) :
    Except ScanFault (Number × List Char) :=
  match spanDigits rest with
  | ([], []) => .error (faultAt .endInValue [])
  | ([], rest) => .error (faultAfter .invalidNumber rest)
  | (places, rest) =>
    let digits := appendDigits digits places
    match rest with
    | 'e' :: r | 'E' :: r => scanExponent negative digits places.length r
    | r => scannedDouble negative digits (-(places.length : Int)) r

/-- The number of a text without point and exponent: a whole number where it fits into 64 bits and
is not minus zero, and else a double. -/
def scannedWhole (negative : Bool) (digits : Nat) (rest : List Char) :
    Except ScanFault (Number × List Char) :=
  let value : Int := if negative then -(digits : Int) else digits
  if h : Whole64 value ∧ (negative → digits ≠ 0) then .ok (.whole value h.1, rest)
  else scannedDouble negative digits 0 rest

/-- Reads what may follow the whole digits of a number. -/
def scanAfterDigits (negative : Bool) (digits : Nat) (rest : List Char) :
    Except ScanFault (Number × List Char) :=
  match rest with
  | '.' :: r => scanPlaces negative digits r
  | 'e' :: r | 'E' :: r => scanExponent negative digits 0 r
  | r => scannedWhole negative digits r

/-- Reads a number behind its sign. A zero in front of further digits is no number. -/
def scanMagnitude (negative : Bool) (rest : List Char) : Except ScanFault (Number × List Char) :=
  match rest with
  | [] => .error (faultAt .endInValue [])
  | '0' :: r =>
    match r with
    | c :: _ =>
      if c.isDigit then .error (faultAfter .invalidNumber r) else scanAfterDigits negative 0 r
    | [] => scanAfterDigits negative 0 r
  | c :: _ =>
    if c.isDigit then
      let (digits, r) := spanDigits rest
      scanAfterDigits negative (appendDigits 0 digits) r
    else .error (faultAfter .invalidNumber rest)

def scanNumber (rest : List Char) : Except ScanFault (Number × List Char) :=
  match rest with
  | '-' :: r => scanMagnitude true r
  | r => scanMagnitude false r

/-! ## Strings -/

/-- The value of four hexadecimal digits. -/
def hexFour? (a b c d : Char) : Option Nat := do
  let digits ← [a, b, c, d].mapM Text.hexDigit?
  return digits.foldl (fun n d => n * 16 + d) 0

/-- Reads the four digits of a `\u` escape. -/
def scanHexFour (rest : List Char) : Except ScanFault (Nat × List Char) :=
  match rest with
  | a :: b :: c :: d :: r =>
    match hexFour? a b c d with
    | some n => .ok (n, r)
    | none => .error ⟨.invalidEscape, bytesIn rest - 4⟩
  | _ =>
    if bytesIn rest < 4 then .error ⟨.endInString, 0⟩
    else .error ⟨.invalidEscape, bytesIn rest - 4⟩

/-- Reads one given character of a surrogate pair. -/
def scanPairChar (expected : Char) (rest : List Char) : Except ScanFault (List Char) :=
  match rest with
  | [] => .error (faultAt .endInString [])
  | c :: r => if c = expected then .ok r else .error (faultAfter .unfinishedSurrogatePair rest)

/-- Reads a `\u` escape behind its letter: one character, or the two halves of one. -/
def scanUnicode (rest : List Char) : Except ScanFault (Char × List Char) := do
  let (n, rest) ← scanHexFour rest
  if 0xDC00 ≤ n ∧ n ≤ 0xDFFF then .error (faultAt .loneSurrogate rest)
  else if n < 0xD800 ∨ 0xDBFF < n then return (Char.ofNat n, rest)
  else
    let rest ← scanPairChar '\\' rest
    let rest ← scanPairChar 'u' rest
    let (low, rest) ← scanHexFour rest
    if low < 0xDC00 ∨ 0xDFFF < low then .error (faultAt .loneSurrogate rest)
    else return (Char.ofNat (0x10000 + (n - 0xD800) * 0x400 + (low - 0xDC00)), rest)

/-- The character of a one-letter escape. -/
def shortEscape? (c : Char) : Option Char :=
  match c with
  | '"' => some '"'
  | '\\' => some '\\'
  | '/' => some '/'
  | 'b' => some '\x08'
  | 'f' => some '\x0c'
  | 'n' => some '\n'
  | 'r' => some '\r'
  | 't' => some '\t'
  | _ => none

/-- Reads an escape behind its backslash. -/
def scanEscape (rest : List Char) : Except ScanFault (Char × List Char) :=
  match rest with
  | [] => .error (faultAt .endInString [])
  | 'u' :: r => scanUnicode r
  | c :: r =>
    match shortEscape? c with
    | some e => .ok (e, r)
    | none => .error (faultAfter .invalidEscape rest)

/-- Reads the characters of a string up to its closing quote, on to those in `done`, which are in
reverse order. -/
def scanChars : Nat → List Char → List Char → Except ScanFault (String × List Char)
  | 0, _, rest => .error (faultAt .endInString rest)
  | _ + 1, _, [] => .error (faultAt .endInString [])
  | fuel + 1, done, c :: rest =>
    if c = '"' then .ok (String.ofList done.reverse, rest)
    else if c = '\\' then
      match scanEscape rest with
      | .ok (e, rest) => scanChars fuel (e :: done) rest
      | .error fault => .error fault
    else if c.toNat < 0x20 then .error (faultAt .controlCharacter rest)
    else scanChars fuel (c :: done) rest

/-- Reads a string behind its opening quote. -/
def scanString (rest : List Char) : Except ScanFault (String × List Char) :=
  scanChars (rest.length + 1) [] rest

end CardService.Json
