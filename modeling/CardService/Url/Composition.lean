import CardService.Url.CompositeTable

/-!
# CardService — composition

A text may have a character with marks as one character, or the marks behind it, in several orders.
To make such texts equal, all characters are taken apart, the marks of each one are put in the order
of their classes, and what can be one character is made one. The syllables of Hangul, which consist
of two or three letters, follow a rule; all others are in a table. Texts here have no characters
left that a domain name replaces.
-/

namespace CardService.Url

/-! ## Syllables -/

/-- The first syllable; the others follow in the order of their letters. -/
def firstSyllable : Nat := 0xac00

/-- How many letters begin a syllable. -/
def leadCount : Nat := 19

/-- How many vowels stand in the middle of a syllable. -/
def vowelCount : Nat := 21

/-- In how many ways a syllable ends: with one of the letters that end it, or with none. -/
def tailCount : Nat := 28

/-- The first of the letters that begin a syllable. -/
def firstLead : Nat := 0x1100

/-- The first of the vowels in its middle. -/
def firstVowel : Nat := 0x1161

/-- The character in front of the letters that end it. -/
def beforeTails : Nat := 0x11a7

/-- The parts of a syllable: one without its last letter, or two letters. -/
def syllableParts? (code : Nat) : Option (Nat × Nat) :=
  let index := code - firstSyllable
  let tail := index % tailCount
  let start := index / tailCount
  if code < firstSyllable || leadCount * vowelCount * tailCount ≤ index then none
  else if tail = 0 then some (firstLead + start / vowelCount, firstVowel + start % vowelCount)
  else some (code - tail, beforeTails + tail)

/-- The syllable of two parts. -/
def syllable? (first second : Nat) : Option Nat :=
  let lead := first - firstLead
  let vowel := second - firstVowel
  let index := first - firstSyllable
  let tail := second - beforeTails
  if firstLead ≤ first && lead < leadCount && firstVowel ≤ second && vowel < vowelCount then
    some (firstSyllable + (lead * vowelCount + vowel) * tailCount)
  else if firstSyllable ≤ first && index < leadCount * vowelCount * tailCount &&
      index % tailCount = 0 && beforeTails < second && tail < tailCount then
    some (first + tail)
  else none

/-! ## Parts -/

/-- The two parts of a character, if it has parts. -/
def partsOf? (c : Char) : Option (Char × Char) :=
  match syllableParts? c.toNat, compositeTable.lookup c.toNat with
  | some (first, second), _ => some (Char.ofNat first, Char.ofNat second)
  | none, some [first, second] => some (Char.ofNat first, Char.ofNat second)
  | none, _ => none

/-- The character of two parts, if there is one. -/
def composite? (first second : Char) : Option Char :=
  if second.toNat < 0x80 then none
  else
    match syllable? first.toNat second.toNat with
    | some code => some (Char.ofNat code)
    | none =>
      (compositeTable.find? (·.2 = [first.toNat, second.toNat])).map fun (code, _) =>
        Char.ofNat code

/-- The parts of a character that have no parts themselves, where the second part never has any, and
the first one has at most so many times. -/
def allParts : Nat → Char → List Char
  | 0, c => [c]
  | depth + 1, c =>
    match partsOf? c with
    | some (first, second) => allParts depth first ++ [second]
    | none => [c]

/-- How many times at most the first part of a character has parts. -/
def partDepth : Nat := 2

/-! ## Order -/

/-- A character and its class, which is zero unless it is a mark that may change places. -/
structure Classed where
  char : Char
  markClass : Nat

/-- A character with its class. -/
def Classed.of (c : Char) : Classed :=
  ⟨c, if c.toNat < 0x80 then 0 else ((markClassTable.lookup c.toNat).bind List.head?).getD 0⟩

/-- Puts a character in front of others, and behind those of them that belong in front of it. -/
def insertMark (c : Classed) : List Classed → List Classed
  | [] => [c]
  | d :: rest =>
    if 0 < d.markClass ∧ d.markClass < c.markClass then d :: insertMark c rest else c :: d :: rest

/-- Puts the marks between two other characters in the order of their classes. -/
def orderMarks (text : List Classed) : List Classed := text.foldr insertMark []

/-! ## Composition -/

/-- Composes a text that begins with a character and what has stayed behind it, in reverse order. A
character is reached over marks of lower classes only. -/
def composeFrom (base : Char) (behind : List Classed) : List Classed → List Char
  | [] => base :: (behind.map Classed.char).reverse
  | c :: rest =>
    let reached := behind.head?.all (·.markClass < c.markClass)
    match if reached then composite? base c.char else none with
    | some composite => composeFrom composite behind rest
    | none =>
      if c.markClass = 0 then
        base :: (behind.map Classed.char).reverse ++ composeFrom c.char [] rest
      else composeFrom base (c :: behind) rest

/-- The composed form of a text. -/
def composed (text : List Char) : List Char :=
  match orderMarks ((text.flatMap (allParts partDepth)).map Classed.of) with
  | [] => []
  | c :: rest => composeFrom c.char [] rest

end CardService.Url
