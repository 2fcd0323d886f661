import CardService.Toml.Scan

/-!
# CardService — TOML scalars

Numbers, dates and times. A whole number is read; the rest is kept as it is written, once it is
known to be well formed. Some texts begin like a whole number and are none; they may stand where
nobody reads them.
-/

namespace CardService.Toml

/-- A scalar that is not a string. -/
inductive Scalar where
  | boolean (value : Bool)
  | integer (value : Int)
  | float (text : String)
  | moment (text : String)
  /-- What only begins like a whole number. -/
  | loose (text : String)
  deriving DecidableEq

/-! ## Digits -/

/-- The value of a digit in some base. -/
def digitIn? (base : Nat) (c : Char) : Option Nat := do
  let n ← Text.hexDigit? c
  if n < base then some n else none

/-- Goes on reading digits behind a digit. An underscore stands between two digits. -/
def digitsFrom (base : Nat) : Nat → List Char → Option Nat
  | n, [] => some n
  | n, '_' :: c :: rest => do digitsFrom base (n * base + (← digitIn? base c)) rest
  | n, c :: rest => do digitsFrom base (n * base + (← digitIn? base c)) rest

/-- The number of some digits. -/
def digits? (base : Nat) : List Char → Option Nat
  | [] => none
  | c :: rest => do digitsFrom base (← digitIn? base c) rest

/-- A decimal number without sign, which has no zeros in front. -/
def decimal? (text : List Char) : Option Nat :=
  match text with
  | '0' :: _ :: _ => none
  | _ => digits? 10 text

/-- Splits a sign off. -/
def splitSign : List Char → Bool × List Char
  | '-' :: rest => (true, rest)
  | '+' :: rest => (false, rest)
  | rest => (false, rest)

/-- A whole number. A number in another base than ten has no sign. -/
def integer? (text : List Char) : Option Int :=
  match text with
  | '0' :: 'x' :: rest => (digits? 16 rest).map Int.ofNat
  | '0' :: 'o' :: rest => (digits? 8 rest).map Int.ofNat
  | '0' :: 'b' :: rest => (digits? 2 rest).map Int.ofNat
  | _ =>
    let (negative, rest) := splitSign text
    (decimal? rest).map fun n => if negative then -(n : Int) else n

/-! ## Floats -/

/-- An exponent behind its letter. -/
def isExponent (text : List Char) : Bool := (digits? 10 (splitSign text).2).isSome

def isExponentLetter (c : Char) : Bool := c = 'e' || c = 'E'

/-- A number with a fraction, an exponent, or both. -/
def isDecimalFloat (text : List Char) : Bool :=
  let (whole, rest) := text.span fun c => c ≠ '.' && !isExponentLetter c
  (decimal? whole).isSome &&
    match rest with
    | '.' :: rest =>
      let (fraction, rest) := rest.span fun c => !isExponentLetter c
      (digits? 10 fraction).isSome &&
        match rest with
        | [] => true
        | _ :: exponent => isExponent exponent
    | _ :: exponent => isExponent exponent
    | [] => false

def isFloat (text : List Char) : Bool :=
  let (_, rest) := splitSign text
  rest = "inf".toList || rest = "nan".toList || isDecimalFloat rest

/-! ## Dates and times -/

/-- The number of two digits in front of a text. -/
def twoDigits? : List Char → Option (Nat × List Char)
  | a :: b :: rest => do return ((← digitIn? 10 a) * 10 + (← digitIn? 10 b), rest)
  | _ => none

def isLeapYear (year : Nat) : Bool := year % 4 = 0 && (year % 100 ≠ 0 || year % 400 = 0)

def daysIn (year month : Nat) : Nat :=
  if month = 2 then (if isLeapYear year then 29 else 28)
  else if month = 4 ∨ month = 6 ∨ month = 9 ∨ month = 11 then 30
  else 31

/-- Reads a date. -/
def scanDate (text : List Char) : Option (List Char) := do
  let (century, rest) ← twoDigits? text
  let (years, rest) ← twoDigits? rest
  let '-' :: rest := rest | none
  let (month, rest) ← twoDigits? rest
  let '-' :: rest := rest | none
  let (day, rest) ← twoDigits? rest
  if 1 ≤ month ∧ month ≤ 12 ∧ 1 ≤ day ∧ day ≤ daysIn (century * 100 + years) month then some rest
  else none

/-- Reads the fraction of a second, if there is one. -/
def scanFraction : List Char → Option (List Char)
  | '.' :: rest =>
    match rest.span Char.isDigit with
    | ([], _) => none
    | (_, rest) => some rest
  | rest => some rest

/-- Reads a time of day; its seconds may be left out. -/
def scanTime (text : List Char) : Option (List Char) := do
  let (hour, rest) ← twoDigits? text
  let ':' :: rest := rest | none
  let (minute, rest) ← twoDigits? rest
  if 23 < hour ∨ 59 < minute then none
  match rest with
  | ':' :: rest =>
    let (second, rest) ← twoDigits? rest
    if 60 < second then none
    scanFraction rest
  | rest => some rest

/-- Whether a text is an offset from universal time, or nothing. -/
def isOffset (text : List Char) : Bool :=
  match text with
  | [] => true
  | ['Z'] => true
  | ['z'] => true
  | sign :: rest =>
    (sign = '+' || sign = '-') &&
      ((do
        let (hour, rest) ← twoDigits? rest
        let ':' :: rest := rest | none
        let (minute, rest) ← twoDigits? rest
        return hour ≤ 23 && minute ≤ 59 && rest.isEmpty : Option Bool).getD false)

/-- Whether a text is a date, a time, or both. -/
def isMoment (text : List Char) : Bool :=
  match scanDate text with
  | some [] => true
  | some (c :: rest) =>
    (c = 'T' || c = 't' || c = ' ') && ((scanTime rest).map isOffset).getD false
  | none => (scanTime text).map List.isEmpty |>.getD false

/-! ## Loose numbers -/

/-- Whether each underscore stands between hexadecimal digits. -/
def isGrouped : List Char → Bool
  | a :: '_' :: b :: rest =>
    (Text.hexDigit? a).isSome && (Text.hexDigit? b).isSome && isGrouped (b :: rest)
  | [_, '_'] => false
  | _ :: rest => isGrouped rest
  | [] => true

/-- Whether a string begins behind a tab. -/
def quotesAfterTab : List Char → Bool
  | '\t' :: c :: rest => c = '"' || c = '\'' || quotesAfterTab (c :: rest)
  | _ :: rest => quotesAfterTab rest
  | [] => false

/-- Whether a text begins like a whole number: with the mark of a base and nothing else, or with
digits and an underscore, and then anything but a point, an exponent or a blank. -/
def isLoose (text : List Char) : Bool :=
  if text = "0x".toList || text = "0o".toList || text = "0b".toList then true
  else
    let (_, number) := splitSign text
    let (whole, rest) := number.span Char.isDigit
    whole.head?.any (· ≠ '0') && rest.head? = some '_' && isGrouped number &&
      !quotesAfterTab rest && !rest.any fun c => c = '.' || isExponentLetter c || c = ' '

/-! ## Scalars -/

/-- The scalar that is written in some way. -/
def scalar? (text : List Char) : Option Scalar :=
  if text = "true".toList then some (.boolean true)
  else if text = "false".toList then some (.boolean false)
  else
    match integer? text with
    | some n => some (.integer n)
    | none =>
      if isFloat text then some (.float (String.ofList text))
      else if isMoment text then some (.moment (String.ofList text))
      else if isLoose text then some (.loose (String.ofList text))
      else none

/-- The characters that a scalar ends in front of. -/
def endsScalar (c : Char) : Bool := "=,[]\x7b\x7d#\r\n".toList.contains c

/-- A text without the blanks at its end. -/
def trimEnd (text : List Char) : List Char := (text.reverse.dropWhile isBlank).reverse

/-- Reads a scalar and the blanks behind it. -/
def scanScalar (rest : List Char) : Option (Scalar × List Char) := do
  let (text, rest) := rest.span (!endsScalar ·)
  return (← scalar? (trimEnd text), rest)

end CardService.Toml
