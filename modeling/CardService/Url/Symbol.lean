/-!
# CardService — symbols of domain names

What of a character matters for a domain name: an ASCII character is itself, and of any other one
only matters how it is written beside its neighbours.
-/

namespace CardService.Url

/-- The direction in which a character is written. -/
inductive Direction where
  | left
  | right
  /-- A European digit, which is written either way. -/
  | digit
  /-- An Arabic digit, which is written to the right of others only. -/
  | arabicDigit
  | neutral
  /-- A mark, which goes with the character in front of it. -/
  | mark
  deriving DecidableEq

/-- How a character is written beside its neighbours. -/
structure Sign where
  direction : Direction
  /-- Whether it is a mark, which cannot be the first character. -/
  isMark : Bool := false
  /-- Whether it suppresses the vowel of the character in front of it. -/
  isVirama : Bool := false
  /-- Whether it is written joined to the character in front of it. -/
  joinsPrevious : Bool := false
  /-- Whether it is written joined to the character behind it. -/
  joinsNext : Bool := false
  /-- Whether the characters on both its sides are joined as if it were not there. -/
  isTransparent : Bool := false
  deriving DecidableEq

/-- A character of a domain name, as far as it matters. -/
inductive Symbol where
  | ascii (c : Char)
  | sign (sign : Sign)
  /-- The mark that keeps its neighbours from being joined. -/
  | nonJoiner
  /-- The mark that has its neighbours joined. -/
  | joiner
  deriving DecidableEq

/-! ## Letters of the tables -/

/-- The sign that a letter stands for in the tables. -/
def Sign.ofLetter? : Char → Option Sign
  | 'l' => some { direction := .left }
  | 'h' => some { direction := .left, joinsNext := true }
  | 'i' => some { direction := .left, joinsPrevious := true, joinsNext := true }
  | 'k' => some { direction := .left, isMark := true }
  | 'K' => some { direction := .left, isMark := true, isTransparent := true }
  | 'w' => some { direction := .left, isMark := true, isVirama := true }
  | 'W' => some { direction := .left, isMark := true, isVirama := true, isTransparent := true }
  | 'r' => some { direction := .right }
  | 'R' => some { direction := .right, isTransparent := true }
  | 'g' => some { direction := .right, joinsNext := true }
  | 'j' => some { direction := .right, joinsPrevious := true }
  | 'u' => some { direction := .right, joinsPrevious := true, joinsNext := true }
  | 'm' => some { direction := .mark, isMark := true, isTransparent := true }
  | 'v' => some { direction := .mark, isMark := true, isVirama := true, isTransparent := true }
  | 'n' => some { direction := .neutral }
  | 's' => some { direction := .neutral, joinsPrevious := true, joinsNext := true }
  | 'p' => some { direction := .digit }
  | 'q' => some { direction := .arabicDigit }
  | _ => none

namespace Symbol

/-- The direction of a symbol. -/
def direction : Symbol → Direction
  | .ascii c => if c.isAlpha then .left else if c.isDigit then .digit else .neutral
  | .sign s => s.direction
  | .nonJoiner | .joiner => .neutral

def isAscii : Symbol → Bool
  | .ascii _ => true
  | _ => false

def isMark : Symbol → Bool
  | .sign s => s.isMark
  | _ => false

def isVirama : Symbol → Bool
  | .sign s => s.isVirama
  | _ => false

/-- Whether joining looks past a symbol. -/
def isTransparent : Symbol → Bool
  | .sign s => s.isTransparent
  | _ => false

def joinsPrevious : Symbol → Bool
  | .sign s => s.joinsPrevious
  | _ => false

def joinsNext : Symbol → Bool
  | .sign s => s.joinsNext
  | _ => false

end Symbol

end CardService.Url
