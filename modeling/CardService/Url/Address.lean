import CardService.Text.Hex
import CardService.Text.Split

/-!
# CardService — addresses in URLs

The host of a URL may be an address: four numbers for IPv4, in any of three bases and with the last
ones taken together, or eight groups for IPv6, some of which may be left out.
-/

namespace CardService.Url

/-- Goes on reading the digits of a number in some base. -/
def numberFrom (base : Nat) : Nat → List Char → Option Nat
  | n, [] => some n
  | n, c :: rest => do
    let d ← Text.hexDigit? c
    if d < base then numberFrom base (n * base + d) rest else none

namespace Ipv4

/-- A number of an address. A zero in front marks base eight, and `0x` base sixteen. -/
def number? (text : List Char) : Option Nat :=
  match text with
  | [] => none
  | '0' :: 'x' :: rest => numberFrom 16 0 rest
  | '0' :: 'X' :: rest => numberFrom 16 0 rest
  | '0' :: c :: rest => numberFrom 8 0 (c :: rest)
  | text => numberFrom 10 0 text

/-- The parts of a host, without an empty one at the end. -/
def withoutEnd (parts : List (List Char)) : List (List Char) :=
  if 1 < parts.length ∧ parts.getLast? = some [] then parts.dropLast else parts

/-- Whether the parts of a host are meant to be an address: the last one is a number. -/
def isMeant (parts : List (List Char)) : Bool :=
  match (withoutEnd parts).getLast? with
  | none => false
  | some last => (!last.isEmpty && last.all Char.isDigit) || (number? last).isSome

/-- Whether the parts of a host are an address: up to four numbers, of which the last one fills all
bytes that are left, and each other one a byte. -/
def isAddress (parts : List (List Char)) : Bool :=
  let parts := withoutEnd parts
  parts.length ≤ 4 &&
    match parts.mapM number? with
    | none => false
    | some numbers =>
      match numbers.reverse with
      | [] => false
      | last :: others => others.all (· ≤ 255) && last < Nat.pow 256 (4 - others.length)

end Ipv4

namespace Ipv6

/-- Whether a text is a byte in decimal digits, without zeros in front. -/
def isByte (text : List Char) : Bool :=
  match text with
  | ['0'] => true
  | '0' :: _ => false
  | [] => false
  | text => text.all Char.isDigit && (numberFrom 10 0 text).any (· ≤ 255)

/-- Whether a text is four bytes with points between them. -/
def isQuad (text : List Char) : Bool :=
  let parts := Text.splitBy '.' text
  parts.length = 4 && parts.all isByte

/-- Whether a text is a group of an address. -/
def isGroup (text : List Char) : Bool :=
  !text.isEmpty && text.length ≤ 4 && text.all fun c => (Text.hexDigit? c).isSome

/-- The number of groups that some parts stand for; four bytes may stand for the last two. -/
def groups? : List (List Char) → Option Nat
  | [] => some 0
  | [last] => if isGroup last then some 1 else if isQuad last then some 2 else none
  | part :: rest => if isGroup part then (groups? rest).map (· + 1) else none

/-- The texts around the first double colon, if there is one. -/
def splitGap? : List Char → Option (List Char × List Char)
  | ':' :: ':' :: rest => some ([], rest)
  | [] => none
  | c :: rest => (splitGap? rest).map fun (before, behind) => (c :: before, behind)

/-- The number of groups in a text that may be empty. -/
def side? (text : List Char) : Option Nat :=
  if text.isEmpty then some 0 else groups? (Text.splitBy ':' text)

/-- Whether a text is an address: eight groups, or fewer around a gap. Four bytes may only stand at
the end. -/
def isAddress (text : List Char) : Bool :=
  match splitGap? text with
  | none => groups? (Text.splitBy ':' text) = some 8
  | some (before, behind) =>
    match side? before, side? behind with
    | some a, some b => !before.contains '.' && a + b ≤ 7
    | _, _ => false

end Ipv6

end CardService.Url
