import CardService.Text.Runs
import CardService.Text.Split

/-!
# CardService — tables of codes

A table that gives some numbers for each of some characters is written as a sequence of entries in
the order of the characters' codes, with blanks between them. An entry consists of the numbers with
points between them, all in hexadecimal. In front of it stands the code of its character and a
colon, unless that is the code behind the last one. `A-B` is short for the entries of as many
characters in a row as there are numbers from `A` to `B`, and `A/B` for every second number and
every second character.
-/

namespace CardService.Text

/-- The number of some characters, of which those that are no digits do not count. -/
def numberOf (text : List Char) : Nat := hexNumber (text.filterMap hexDigit?)

/-- The entries that stand in steps for the numbers from one to another. -/
def entriesBetween (step code first last : Nat) : List (Nat × List Nat) :=
  (List.range ((last - first) / step + 1)).map fun i => (code + step * i, [first + step * i])

/-- The entries that one stands for, behind the colon. -/
def entriesAt (code : Nat) (entry : List Char) : List (Nat × List Nat) :=
  match splitBy '-' entry, splitBy '/' entry with
  | [first, last], _ => entriesBetween 1 code (numberOf first) (numberOf last)
  | _, [first, last] => entriesBetween 2 code (numberOf first) (numberOf last)
  | _, _ => [(code, (splitBy '.' entry).map numberOf)]

/-- The entries of a table, the next of which is that of the character with the code `next`. -/
def entriesFrom (next : Nat) : List (List Char) → List (Nat × List Nat)
  | [] => []
  | entry :: rest =>
    let entries :=
      match splitBy ':' entry with
      | [code, entry] => entriesAt (numberOf code) entry
      | _ => entriesAt next entry
    entries ++ entriesFrom (entries.getLast?.elim next (·.1 + 1)) rest

/-- The numbers by the codes of the characters. -/
def readCodes (table : List Char) : List (Nat × List Nat) := entriesFrom 0 (splitBy ' ' table)

end CardService.Text
