import CardService.Json.Basic
import CardService.Number.Decimal

/-!
# CardService — JSON text, written

The compact text of a JSON value: no blanks, members in their order, the short escapes where JSON
has one, and `\u00xx` for the other control characters.
-/

namespace CardService

/-- The text of a finite double in JSON: its shortest decimal, positional from `1e-5` up to below
`1e16`, and in scientific notation outside that range. -/
def Binary64.text (x : Binary64) : List Char :=
  let decimal := Decimal.ofRank .toEven x.rank
  let plain := -5 ≤ decimal.leading ∧ decimal.leading ≤ 15
  Decimal.signed x.negative (if plain then decimal.positional true else decimal.scientific)

/-- The text of a JSON number. -/
def Number.text : Number → List Char
  | .whole n _ => Decimal.ofWhole n
  | .float x => x.text

namespace Json

/-! ## Strings -/

/-- The hexadecimal digit of a number below sixteen, in lower case. -/
def hexDigit (n : Nat) : Char := "0123456789abcdef".toList.getD n '0'

/-- How one character stands inside a JSON string. -/
def escape (c : Char) : List Char :=
  if c = '"' then ['\\', '"']
  else if c = '\\' then ['\\', '\\']
  else if c = '\x08' then ['\\', 'b']
  else if c = '\x0c' then ['\\', 'f']
  else if c = '\n' then ['\\', 'n']
  else if c = '\r' then ['\\', 'r']
  else if c = '\t' then ['\\', 't']
  else if c.toNat < 0x20 then
    ['\\', 'u', '0', '0', hexDigit (c.toNat / 16), hexDigit (c.toNat % 16)]
  else [c]

/-- A string between quotes. -/
def quote (s : String) : List Char := '"' :: (s.toList.flatMap escape ++ ['"'])

/-! ## Values -/

mutual

/-- The compact text of a value. -/
def write : Json → List Char
  | .null => "null".toList
  | .bool true => "true".toList
  | .bool false => "false".toList
  | .number n => n.text
  | .string s => quote s
  | .array items => '[' :: writeItems items
  | .object members => '\x7b' :: writeMembers members

/-- The items of an array, commas between them, and the closing bracket. -/
def writeItems : List Json → List Char
  | [] => [']']
  | [item] => write item ++ [']']
  | item :: next :: rest => write item ++ ',' :: writeItems (next :: rest)

/-- The members of an object, commas between them, and the closing brace. -/
def writeMembers : Members → List Char
  | [] => ['\x7d']
  | [(key, value)] => quote key ++ ':' :: write value ++ ['\x7d']
  | (key, value) :: next :: rest =>
    quote key ++ ':' :: write value ++ ',' :: writeMembers (next :: rest)

end

/-- The compact text of a value, as a string. -/
def text (json : Json) : String := String.ofList json.write

/-! ## In ASCII -/

/-- The escape of a UTF-16 unit. -/
def escapeUnit (n : Nat) : List Char :=
  '\\' :: 'u' :: [n / 4096, n / 256 % 16, n / 16 % 16, n % 16].map hexDigit

/-- A character of a JSON text in ASCII: one beyond it is escaped, as its UTF-16 units. -/
def asciiChar (c : Char) : List Char :=
  let n := c.toNat
  if n < 0x80 then [c]
  else if n < 0x10000 then escapeUnit n
  else escapeUnit (0xd800 + (n - 0x10000) / 0x400) ++ escapeUnit (0xdc00 + (n - 0x10000) % 0x400)

/-- The compact text of a value in ASCII. -/
def asciiText (json : Json) : String := String.ofList (json.write.flatMap asciiChar)

end Json

end CardService
