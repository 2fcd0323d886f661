import CardService.Text.Hex

/-!
# CardService — tables of characters

A table that sorts characters into classes is written as a sequence of runs in the order of their
codes: a letter behind `f` for the class, and in hexadecimal the length of the run unless it is one.
-/

namespace CardService.Text

/-- The number of some hexadecimal digits. -/
def hexNumber (digits : List Nat) : Nat := digits.foldl (fun n d => n * 16 + d) 0

/-- The letter and the length of each run. -/
def readRuns (table : List Char) : List (Char × Nat) :=
  (table.foldr step ([], [])).2
where
  step (c : Char) : List Nat × List (Char × Nat) → List Nat × List (Char × Nat)
    | (digits, runs) =>
      match hexDigit? c with
      | some d => (d :: digits, runs)
      | none => ([], (c, if digits.isEmpty then 1 else hexNumber digits) :: runs)

/-- The letter of the run that holds a place. -/
def letterAt? (place : Nat) : List (Char × Nat) → Option Char
  | [] => none
  | (letter, length) :: runs =>
    if place < length then some letter else letterAt? (place - length) runs

end CardService.Text
