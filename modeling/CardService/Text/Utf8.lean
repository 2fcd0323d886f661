/-!
# CardService — UTF-8

Splits bytes into the characters they encode and the parts that encode none. A broken part is the
longest beginning of a character that the next byte cannot continue, so a lossy text has one
replacement character for each of them.
-/

namespace CardService.Utf8

/-- The bytes of a text. -/
def encode (text : List Char) : List UInt8 := text.flatMap String.utf8EncodeChar

/-- A part of a byte sequence: a character, or bytes that are none. `cutOff` holds where the bytes
end inside a character. -/
inductive Piece where
  | char (c : Char)
  | broken (size : Nat) (cutOff : Bool)
  deriving DecidableEq

/-- The number of bytes in a piece. -/
def Piece.size : Piece → Nat
  | .char c => c.utf8Size
  | .broken size _ => size

/-- Whether a byte can continue a character. -/
def isTail (b : UInt8) : Bool := 0x80 ≤ b && b ≤ 0xbf

/-- The six bits of a byte that continues a character. -/
def tailBits (b : UInt8) : Nat := b.toNat % 0x40

/-- The number of bytes behind the first one of a character. -/
def tailLength? (first : UInt8) : Option Nat :=
  if first < 0x80 then some 0
  else if 0xc2 ≤ first && first ≤ 0xdf then some 1
  else if 0xe0 ≤ first && first ≤ 0xef then some 2
  else if 0xf0 ≤ first && first ≤ 0xf4 then some 3
  else none

/-- Whether a byte can be the second one behind `first`: no character has two encodings, half a
surrogate pair is no character, and none lies beyond the last one. -/
def isSecond (first second : UInt8) : Bool :=
  if first = 0xe0 then 0xa0 ≤ second && second ≤ 0xbf
  else if first = 0xed then 0x80 ≤ second && second ≤ 0x9f
  else if first = 0xf0 then 0x90 ≤ second && second ≤ 0xbf
  else if first = 0xf4 then 0x80 ≤ second && second ≤ 0x8f
  else isTail second

/-- The first piece of `first :: rest`. -/
def piece (first : UInt8) (rest : List UInt8) : Piece :=
  match tailLength? first with
  | none => .broken 1 false
  | some 0 => .char (Char.ofNat first.toNat)
  | some n =>
    match rest with
    | [] => .broken 1 true
    | second :: rest =>
      if !isSecond first second then .broken 1 false
      else
        let tails := (rest.take (n - 1)).takeWhile isTail
        if tails.length = n - 1 then
          let lead := first.toNat % Nat.pow 2 (6 - n)
          .char (Char.ofNat ((second :: tails).foldl (fun code b => code * 0x40 + tailBits b) lead))
        else .broken (tails.length + 2) ((rest.drop tails.length).isEmpty)

/-- The pieces of a byte sequence. -/
def pieces : List UInt8 → List Piece
  | [] => []
  | first :: rest =>
    let p := piece first rest
    p :: pieces (rest.drop (p.size - 1))
termination_by bytes => bytes.length
decreasing_by
  simp only [List.length_drop, List.length_cons]
  omega

/-- Why bytes are no text: where the first broken piece starts, and its size unless the bytes just
end there. -/
structure Fault where
  validUpTo : Nat
  size : Option Nat
  deriving DecidableEq

def Fault.message (e : Fault) : String :=
  match e.size with
  | some n =>
    "invalid utf-8 sequence of " ++ toString n ++ " bytes from index " ++ toString e.validUpTo
  | none => "incomplete utf-8 byte sequence from index " ++ toString e.validUpTo

/-- The text of pieces without a broken one; `start` is the number of bytes in front of them. -/
def textOf (start : Nat) : List Piece → Except Fault (List Char)
  | [] => .ok []
  | .char c :: rest => (textOf (start + c.utf8Size) rest).map (c :: ·)
  | .broken size cutOff :: _ => .error ⟨start, if cutOff then none else some size⟩

/-- The text that bytes encode. -/
def decode (bytes : List UInt8) : Except Fault (List Char) := textOf 0 (pieces bytes)

/-- The text of bytes, with a replacement character for each broken piece. -/
def decodeLossy (bytes : List UInt8) : List Char :=
  (pieces bytes).map fun
    | .char c => c
    | .broken .. => '\ufffd'

end CardService.Utf8
