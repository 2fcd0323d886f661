import CardService.Url.Composition
import CardService.Url.Punycode
import CardService.Url.ReplacementTable
import CardService.Url.SignTable

/-!
# CardService — domains in URLs

A host is a domain if each of its labels is one in any script: made of characters that a name may
contain, not starting with a mark, with joiners only where they make a difference, and with
characters of one direction only if any of them is written from right to left. An ASCII label may
stand for such a label.
-/

namespace CardService.Url

/-! ## Characters -/

/-- The ASCII characters that no domain contains. -/
def isForbiddenInDomain (c : Char) : Bool :=
  c.toNat ≤ 0x20 || c.toNat = 0x7f || "%#/:<>?@[\\]^|".toList.contains c

/-- The characters that a domain has instead of one. -/
def replacement? (c : Char) : Option (List Char) :=
  if c.toNat < 0x80 then some [c.toLower]
  else if c = '\u200c' ∨ c = '\u200d' then some [c]
  else
    match standingOf c with
    | .refused => none
    | .omitted => some []
    | .replaced => some (replacementOf c)
    | .sign _ => some [c]

/-- What a character that may stand in a domain stands for. -/
def symbolOf? (c : Char) : Option Symbol :=
  if c.toNat < 0x80 then if isForbiddenInDomain c then none else some (.ascii c)
  else if c = '\u200c' then some .nonJoiner
  else if c = '\u200d' then some .joiner
  else
    match standingOf c with
    | .sign sign => some (.sign sign)
    | _ => none

/-! ## Rules for labels -/

/-- Whether joined characters are on both sides of a place, past what joining looks past. -/
def joinsAcross (before behind : List Symbol) : Bool :=
  ((before.dropWhile Symbol.isTransparent).head?.any Symbol.joinsNext) &&
    ((behind.dropWhile Symbol.isTransparent).head?.any Symbol.joinsPrevious)

/-- Whether the joiners of a label make a difference. The symbols in front come in reverse order. -/
def joinersMatter : List Symbol → List Symbol → Bool
  | _, [] => true
  | before, symbol :: behind =>
    let afterVirama := before.head?.any Symbol.isVirama
    let matters :=
      match symbol with
      | .joiner => afterVirama
      | .nonJoiner => afterVirama || joinsAcross before behind
      | _ => true
    matters && joinersMatter (symbol :: before) behind

/-- Whether a label is well formed on its own. -/
def isWellFormed (symbols : List Symbol) : Bool :=
  !symbols.head?.any Symbol.isMark && joinersMatter [] symbols

/-- Whether a label is written from right to left at some place. -/
def hasRight (symbols : List Symbol) : Bool :=
  symbols.any fun s => s.direction = .right || s.direction = .arabicDigit

/-- The direction at the end of a label, in front of marks. -/
def lastDirection? (symbols : List Symbol) : Option Direction :=
  (symbols.reverse.map Symbol.direction).find? (· ≠ .mark)

/-- Whether the characters of a label go one way, beside labels that go from right to left. -/
def goesOneWay (symbols : List Symbol) : Bool :=
  let all := symbols.map Symbol.direction
  match all with
  | [] => true
  | .left :: _ =>
    !hasRight symbols &&
      (lastDirection? symbols = some .left || lastDirection? symbols = some .digit)
  | .right :: _ =>
    !all.contains .left && !(all.contains .digit && all.contains .arabicDigit) &&
      lastDirection? symbols ≠ some .neutral
  | _ => false

/-! ## Labels -/

/-- Whether a character is in ASCII. -/
def isAscii (c : Char) : Bool := c.toNat < 0x80

/-- A label: its text in ASCII, of which nothing but the beginning is told where the label has other
characters, and the symbols of the text it stands for. -/
structure Label where
  text : List Char
  symbols : List Symbol

/-- What a label in ASCII that stands for another text begins with. -/
def alternateMark : List Char := "xn--".toList

/-- The most characters of a label that is not in ASCII. -/
def labelLimit : Nat := 1000

/-- The text that a label in ASCII stands for. It is not in ASCII itself, and has the form that the
texts of labels are brought to. There are at most two digits for each character that it may have. -/
def decodeLabel? (label : List Char) : Option (List Char) := do
  let digits := label.drop alternateMark.length
  if 2 * labelLimit < digits.length then none
  let text ← Punycode.decode? digits
  if text.all isAscii || labelLimit < text.length || composed text ≠ text then none else some text

/-- The label of a text. -/
def label? (text : List Char) : Option Label :=
  if alternateMark.isPrefixOf text then
    if text.all isAscii then do return ⟨text, ← (← decodeLabel? text).mapM symbolOf?⟩ else none
  else do
    let symbols ← text.mapM symbolOf?
    if text.all isAscii then some ⟨text, symbols⟩
    else if text.length ≤ labelLimit then some ⟨alternateMark, symbols⟩
    else none

/-! ## Domains -/

/-- The texts of the labels of a host, if it is a domain. -/
def domain? (host : List Char) : Option (List (List Char)) := do
  let text := composed (← host.mapM replacement?).flatten
  let labels ← (Text.splitBy '.' text).mapM label?
  let wellFormed := labels.all fun label => isWellFormed label.symbols
  let oneWay :=
    !(labels.any fun label => hasRight label.symbols) ||
      labels.all fun label => goesOneWay label.symbols
  if wellFormed && oneWay then some (labels.map Label.text) else none

end CardService.Url
