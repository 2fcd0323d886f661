/-!
# CardService — hexadecimal digits

Digits in base sixteen, whose letters may be of either case.
-/

namespace CardService.Text

/-- The value of a hexadecimal digit. -/
def hexDigit? (c : Char) : Option Nat :=
  if c.isDigit then some (c.toNat - '0'.toNat)
  else if 'a' ≤ c ∧ c ≤ 'f' then some (c.toNat - 'a'.toNat + 10)
  else if 'A' ≤ c ∧ c ≤ 'F' then some (c.toNat - 'A'.toNat + 10)
  else none

/-- The bytes of pairs of digits. -/
def hexBytes? : List Char → Option (List UInt8)
  | [] => some []
  | high :: low :: rest => do
    return UInt8.ofNat ((← hexDigit? high) * 16 + (← hexDigit? low)) :: (← hexBytes? rest)
  | _ => none

end CardService.Text
