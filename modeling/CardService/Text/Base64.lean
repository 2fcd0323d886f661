import CardService.Text.Utf8

/-!
# CardService — Base64

The standard alphabet. Encoding pads to whole quads. Decoding wants neither padding nor unused low
bits that are zero, so it accepts every encoding of a byte sequence that has the right number of
symbols.
-/

namespace CardService.Base64

/-! ## Symbols -/

/-- The alphabet, in the order of the values. -/
def alphabet : List Char :=
  "ABCDEFGHIJKLMNOPQRSTUVWXYZabcdefghijklmnopqrstuvwxyz0123456789+/".toList

/-- The symbol of six bits. -/
def symbol (value : Nat) : Char := alphabet.getD value 'A'

/-- The six bits of a symbol. -/
def value? (b : UInt8) : Option Nat :=
  let n := b.toNat
  if 0x41 ≤ n ∧ n ≤ 0x5a then some (n - 0x41)
  else if 0x61 ≤ n ∧ n ≤ 0x7a then some (n - 0x61 + 26)
  else if 0x30 ≤ n ∧ n ≤ 0x39 then some (n - 0x30 + 52)
  else if n = 0x2b then some 62
  else if n = 0x2f then some 63
  else none

/-- The byte of the padding sign. -/
def padding : UInt8 := 0x3d

/-! ## Encoding -/

/-- Three bytes become four symbols; one or two that remain are padded. -/
def encode : List UInt8 → List Char
  | [] => []
  | [a] =>
    let n := a.toNat * 16
    [symbol (n / 64), symbol (n % 64), '=', '=']
  | [a, b] =>
    let n := (a.toNat * 256 + b.toNat) * 4
    [symbol (n / 4096), symbol (n / 64 % 64), symbol (n % 64), '=']
  | a :: b :: c :: rest =>
    let n := (a.toNat * 256 + b.toNat) * 256 + c.toNat
    symbol (n / 262144) :: symbol (n / 4096 % 64) :: symbol (n / 64 % 64) :: symbol (n % 64) ::
      encode rest

/-! ## Decoding -/

/-- Why a text is no Base64. -/
inductive Fault where
  | invalidByte (offset : Nat) (byte : UInt8)
  | invalidLength (length : Nat)
  deriving DecidableEq

def Fault.message : Fault → String
  | .invalidByte offset byte =>
    "Invalid symbol " ++ toString byte.toNat ++ ", offset " ++ toString offset ++ "."
  | .invalidLength length => "Invalid input length: " ++ toString length

/-- Four values of six bits become three bytes; what remains is cut down to whole bytes. -/
def regroup : List Nat → List UInt8
  | a :: b :: c :: d :: rest =>
    let n := ((a * 64 + b) * 64 + c) * 64 + d
    UInt8.ofNat (n / 65536) :: UInt8.ofNat (n / 256) :: UInt8.ofNat n :: regroup rest
  | [a, b, c] =>
    let n := (a * 64 + b) * 64 + c
    [UInt8.ofNat (n / 1024), UInt8.ofNat (n / 4)]
  | [a, b] => [UInt8.ofNat ((a * 64 + b) / 16)]
  | _ => []

/-- The values of symbols that nothing but symbols may stand between. -/
def values (offset : Nat) : List UInt8 → Except Fault (List Nat)
  | [] => .ok []
  | b :: rest =>
    match value? b with
    | some v => (values (offset + 1) rest).map (v :: ·)
    | none => .error (.invalidByte offset b)

/-- The values of the last quad, which may be padded behind its second symbol. `index` counts the
bytes of the quad in front, and `padded` is the offset of the first padding sign. -/
def lastValues (offset index : Nat) (padded : Option Nat) : List UInt8 → Except Fault (List Nat)
  | [] => .ok []
  | b :: rest =>
    if b = padding then
      if index < 2 then .error (.invalidByte (offset + index) b)
      else lastValues offset (index + 1) (padded.or (some (offset + index))) rest
    else
      match padded with
      | some first => .error (.invalidByte first padding)
      | none =>
        match value? b with
        | some v => (lastValues offset (index + 1) padded rest).map (v :: ·)
        | none => .error (.invalidByte (offset + index) b)

/-- The number of bytes in front of the last quad, which may be a short one. -/
def wholeQuads (length : Nat) : Nat := length - (if length % 4 = 0 then 4 else length % 4)

/-- A byte that is neither a symbol nor padding and stands alone behind the last quad. -/
def strayByte? (input : List UInt8) : Option UInt8 :=
  if input.length % 4 = 1 then
    input.getLast?.filter fun b => b ≠ padding && (value? b).isNone
  else none

/-- The bytes that a text encodes. -/
def decode (input : List UInt8) : Except Fault (List UInt8) :=
  match strayByte? input with
  | some b => .error (.invalidByte (input.length - 1) b)
  | none => do
    let start := wholeQuads input.length
    let front ← values 0 (input.take start)
    let last ← lastValues start 0 none (input.drop start)
    if !input.isEmpty && last.length < 2 then .error (.invalidLength (start + last.length))
    else return regroup (front ++ last)

end CardService.Base64
