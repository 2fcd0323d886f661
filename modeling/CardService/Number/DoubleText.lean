import CardService.Number.Decimal

/-!
# CardService — reading doubles

A double is written as a decimal with an optional fraction and exponent, or as the word for an
infinity or for no number.
-/

namespace CardService.Double

/-- Puts decimal digits behind a number. -/
def extendBy (n : Nat) (digits : List Char) : Nat :=
  digits.foldl (fun n c => 10 * n + (c.toNat - '0'.toNat)) n

/-- A whole number with an optional sign. -/
def exponent? : List Char → Option Int
  | '-' :: digits => (natural? digits).map fun n => -(n : Int)
  | '+' :: digits => (natural? digits).map Int.ofNat
  | digits => (natural? digits).map Int.ofNat
where
  natural? (digits : List Char) : Option Nat :=
    if digits.isEmpty || !digits.all Char.isDigit then none else some (extendBy 0 digits)

/-- A decimal without a sign. -/
def decimal? (text : List Char) : Option Decimal := do
  let (whole, rest) := text.span Char.isDigit
  let (fraction, rest) := match rest with
    | '.' :: rest => rest.span Char.isDigit
    | rest => ([], rest)
  if whole.isEmpty && fraction.isEmpty then none
  let power ← match rest with
    | [] => some 0
    | 'e' :: rest => exponent? rest
    | 'E' :: rest => exponent? rest
    | _ => none
  return ⟨extendBy (extendBy 0 whole) fraction, power - (fraction.length : Int)⟩

/-- The double of an unsigned text. -/
def unsigned? (negative : Bool) (text : List Char) : Option Double :=
  let word := text.map Char.toLower
  if word = "inf".toList || word = "infinity".toList then some (.infinite negative)
  else if word = "nan".toList then some .notANumber
  else (decimal? text).map fun d =>
    match d.toBinary64? negative with
    | some x => .finite x
    | none => .infinite negative

/-- The double that a text stands for, rounded to the nearest where it has too many digits. -/
def parse? (text : String) : Option Double :=
  match text.toList with
  | '-' :: rest => unsigned? true rest
  | '+' :: rest => unsigned? false rest
  | rest => unsigned? false rest

end CardService.Double
