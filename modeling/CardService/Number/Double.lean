import CardService.Number.Binary64

/-!
# CardService — doubles with infinities

The doubles that arithmetic is done on: the finite ones, two infinities, and the value that is not
a number. Each operation is the exact result rounded once to the nearest double.
-/

namespace CardService

/-- A double of any kind. -/
inductive Double where
  | finite (x : Binary64)
  | infinite (negative : Bool)
  | notANumber
  deriving DecidableEq

namespace Double

instance : Inhabited Double := ⟨.finite .zero⟩

/-- The double nearest to `num / den` units; beyond the largest finite double it is infinite. -/
def round (negative : Bool) (num den : Nat) : Double :=
  match Binary64.round? negative num den with
  | some x => .finite x
  | none => .infinite negative

/-- The double nearest to a whole number. -/
def ofInt (n : Int) : Double := round (decide (n < 0)) (n.natAbs * unitsPerOne) 1

/-- Division by a positive whole number. -/
def divWhole : Double → Nat → Double
  | .finite x, n => round x.negative x.magnitude n
  | x, _ => x

/-- Multiplication by a positive whole number. -/
def mulWhole : Double → Nat → Double
  | .finite x, n => round x.negative (x.magnitude * n) 1
  | x, _ => x

/-- Addition; the sum of opposite values is a positive zero. -/
def add : Double → Double → Double
  | .finite x, .finite y =>
    let sum := x.units + y.units
    if sum = 0 then round (x.negative && y.negative) 0 1
    else round (decide (sum < 0)) sum.natAbs 1
  | .infinite s, .infinite t => if s = t then .infinite s else .notANumber
  | .infinite s, .finite _ => .infinite s
  | .finite _, .infinite t => .infinite t
  | .notANumber, _ => .notANumber
  | _, .notANumber => .notANumber

end Double

end CardService
