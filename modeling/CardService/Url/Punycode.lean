/-!
# CardService — Punycode

Reads a text of any characters from one in ASCII. The characters beyond ASCII are inserted in
ascending order; the digits behind the last hyphen tell how far each one is from the one before, and
where it is inserted.
-/

namespace CardService.Url.Punycode

/-- The value of a digit. -/
def digit? (c : Char) : Option Nat :=
  if c.isAlpha then some (c.toLower.toNat - 'a'.toNat)
  else if c.isDigit then some (c.toNat - '0'.toNat + 26)
  else none

/-- From which value on a digit at some position, which grows by 36, is followed by another. -/
def threshold (position bias : Nat) : Nat := max 1 (min 26 (position - bias))

/-- Divides a distance until it is small, and counts by 36. -/
def shrink (distance count : Nat) : Nat × Nat :=
  if 455 < distance then shrink (distance / 35) (count + 36) else (distance, count)
termination_by distance
decreasing_by exact Nat.div_lt_self (by omega) (by omega)

/-- The bias after a distance, with so many characters in the text. -/
def adapt (distance size : Nat) (first : Bool) : Nat :=
  let damped := if first then distance / 700 else distance / 2
  let (rest, count) := shrink (damped + damped / size) 0
  count + 36 * rest / (rest + 38)

/-- Reads a distance: its digits, the least one first, up to one below its threshold. -/
def distance? (bias : Nat) : Nat → Nat → Nat → List Char → Option (Nat × List Char)
  | _, _, _, [] => none
  | sum, weight, position, c :: rest => do
    let d ← digit? c
    let sum := sum + d * weight
    let t := threshold position bias
    if d < t then return (sum, rest)
    else distance? bias sum (weight * (36 - t)) (position + 36) rest

theorem distance?_length {bias sum weight position n : Nat} {text rest : List Char}
    (h : distance? bias sum weight position text = some (n, rest)) : rest.length < text.length := by
  induction text generalizing sum weight position with
  | nil => simp [distance?] at h
  | cons c text ih =>
    simp only [distance?, Option.bind_eq_bind, Option.bind_eq_some_iff] at h
    obtain ⟨d, -, h⟩ := h
    split at h
    · simp_all
    · exact Nat.lt_succ_of_lt (ih h)

/-- The most that a distance may be. -/
def distanceLimit : Nat := 0x100000000

/-- Inserts characters: `code` is the code of the last one, and `index` the place behind it. -/
def insertAll (done : List Char) (code index bias : Nat) (first : Bool) (digits : List Char) :
    Option (List Char) :=
  if digits.isEmpty then some done
  else
    match h : distance? bias 0 1 36 digits with
    | none => none
    | some (n, rest) =>
      let size := done.length + 1
      let code := code + (index + n) / size
      let index := (index + n) % size
      if distanceLimit ≤ n ∨ ¬ code.isValidChar then none
      else
        insertAll (done.insertIdx index (Char.ofNat code)) code (index + 1) (adapt n size first)
          false rest
termination_by digits.length
decreasing_by exact distance?_length h

/-- Splits at the last hyphen that has something in front of it, if there is one. -/
def splitHyphen (text : List Char) : List Char × List Char :=
  match text.reverse.span (· ≠ '-') with
  | (digits, _ :: c :: basic) => ((c :: basic).reverse, digits.reverse)
  | _ => ([], text)

/-- The text that an ASCII text stands for. -/
def decode? (text : List Char) : Option (List Char) :=
  let (basic, digits) := splitHyphen text
  insertAll basic 0x80 0 72 true digits

end CardService.Url.Punycode
