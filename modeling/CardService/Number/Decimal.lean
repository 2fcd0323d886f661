import CardService.Number.Double

/-!
# CardService — decimals

A decimal is a whole number of powers of ten. This module reads the double nearest to a decimal,
and finds the decimal with the fewest digits that reads back as a given double: it walks the grids
of powers of ten from coarse to fine and stops at the first grid that has a point in the interval
of reals nearest to the double.
-/

namespace CardService

/-- The value `digits * 10 ^ exponent`. -/
structure Decimal where
  digits : Nat
  exponent : Int
  deriving DecidableEq

namespace Decimal

/-! ## From decimals to doubles -/

/-- An exponent from which every decimal but zero is beyond the largest double. -/
def overflowExponent : Nat := 400

/-- The finite double nearest to a decimal, where there is one. A decimal whose exponent alone puts
it far above the largest double, or far below the least, is settled without raising ten to it. -/
def toBinary64? (negative : Bool) (d : Decimal) : Option Binary64 :=
  if d.digits = 0 then Binary64.round? negative 0 1
  else match d.exponent with
    | .ofNat e =>
      if overflowExponent < e then none
      else Binary64.round? negative (d.digits * Nat.pow 10 e * unitsPerOne) 1
    | .negSucc e =>
      if d.digits.log2 + overflowExponent < e then Binary64.round? negative 0 1
      else Binary64.round? negative (d.digits * unitsPerOne) (Nat.pow 10 (e + 1))

/-! ## From doubles to decimals -/

/-- The reals nearest to a double, in units of `2 ^ -1075`: the double, and half the way to either
neighbour. The ends belong to the interval when the rank is even. -/
structure Interval where
  low : Nat
  mid : Nat
  high : Nat
  closed : Bool

/-- The interval of the double of positive rank `rank`. -/
def intervalAt (rank : Nat) : Interval where
  low := Binary64.unitsAt (rank - 1) + Binary64.unitsAt rank
  mid := 2 * Binary64.unitsAt rank
  high := Binary64.unitsAt rank + Binary64.unitsAt (rank + 1)
  closed := rank % 2 == 0

/-- Scales for comparing `n * 10 ^ exponent` with units of `2 ^ -1075`: `n * step` against
`units * factor`. -/
def gridScale (exponent : Int) : Nat × Nat :=
  match exponent with
  | .ofNat e => (Nat.pow 10 e * (2 * unitsPerOne), 1)
  | .negSucc e => (2 * unitsPerOne, Nat.pow 10 (e + 1))

/-- Which of two neighbours on a grid is taken where the value is half way between them. -/
inductive Tie where
  /-- The one of even number. -/
  | toEven
  /-- The one farther from zero. -/
  | away
  deriving DecidableEq

/-- Whether a tie goes to the lower neighbour, which has the number `below`. -/
def Tie.goesDown (below : Nat) : Tie → Bool
  | .toEven => below % 2 == 0
  | .away => false

/-- The point of the grid of `10 ^ exponent` in an interval that lies nearest to its middle; of two
equally near points, the one that `tie` asks for. -/
def nearestOnGrid (tie : Tie) (i : Interval) (exponent : Int) : Option Nat :=
  let (step, factor) := gridScale exponent
  let inside (n : Nat) : Bool :=
    let point := n * step
    (i.low * factor < point && point < i.high * factor) ||
      (i.closed && (point == i.low * factor || point == i.high * factor))
  let below := i.mid * factor / step
  let twice := 2 * (i.mid * factor % step)
  let downFirst := twice < step || (twice == step && tie.goesDown below)
  let (first, second) := if downFirst then (below, below + 1) else (below + 1, below)
  if inside first then some first else if inside second then some second else none

/-- Walks from the grid of `10 ^ exponent` to finer ones, at most `fuel` of them. The double itself
is a decimal on the grid of `10 ^ -1075`. -/
def shortestFrom (tie : Tie) (i : Interval) : Nat → Int → Decimal
  | 0, _ => ⟨i.mid * Nat.pow 5 (unitExponent + 1), -(unitExponent + 1)⟩
  | fuel + 1, exponent =>
    match nearestOnGrid tie i exponent with
    | some digits => ⟨digits, exponent⟩
    | none => shortestFrom tie i fuel (exponent - 1)

/-- The decimal with the fewest digits among those that read back as the double of the given rank,
and among those the one nearest to it. -/
def ofRank (tie : Tie) (rank : Nat) : Decimal :=
  if rank = 0 then ⟨0, 0⟩
  else
    let i := intervalAt rank
    -- thirty thousandths of the binary exponent bound the decimal one from above
    shortestFrom tie i 24 (((i.mid.log2 : Int) - unitExponent) * 30103 / 100000 + 1)

/-! ## Digits and notations -/

/-- The decimal digits of a whole number. -/
def digitsOf (n : Nat) : List Char := Nat.toDigits 10 n

/-- The power of ten of the first digit. -/
def leading (d : Decimal) : Int := d.exponent + ((digitsOf d.digits).length : Int) - 1

/-- Positional notation. A whole number is followed by `.0` where `point` asks for it. -/
def positional (point : Bool) (d : Decimal) : List Char :=
  let ds := digitsOf d.digits
  match d.exponent with
  | .ofNat e => ds ++ List.replicate e '0' ++ (if point then ['.', '0'] else [])
  | .negSucc e =>
    let places := e + 1
    if places < ds.length then
      ds.take (ds.length - places) ++ '.' :: ds.drop (ds.length - places)
    else '0' :: '.' :: List.replicate (places - ds.length) '0' ++ ds

/-- Scientific notation: one digit before the point, and an exponent that always has a sign. -/
def scientific (d : Decimal) : List Char :=
  let power := d.leading
  let mantissa := match digitsOf d.digits with
    | [c] => [c]
    | c :: cs => c :: '.' :: cs
    | [] => []
  mantissa ++ 'e' :: (if power < 0 then '-' else '+') :: digitsOf power.natAbs

/-- A minus sign before a text. -/
def signed (negative : Bool) (text : List Char) : List Char :=
  if negative then '-' :: text else text

/-- The text of a whole number. -/
def ofWhole (n : Int) : List Char := signed (decide (n < 0)) (digitsOf n.natAbs)

end Decimal

/-! ## Texts of doubles -/

namespace Double

/-- The shortest text without an exponent, where ties go away from zero; a whole number has no
point. -/
def display : Double → String
  | .finite x =>
    String.ofList (Decimal.signed x.negative (Decimal.positional false (.ofRank .away x.rank)))
  | .infinite negative => if negative then "-inf" else "inf"
  | .notANumber => "NaN"

end Double

end CardService
