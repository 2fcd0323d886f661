import CardService.Text.Utf8
import Mathlib.Tactic.SplitIfs

/-!
# CardService — the order of UTF-8

Texts are compared by code points. UTF-8 was made so that this is the order of the bytes as well:
`encode_lt_encode` says so, from the comparison of two characters in `utf8EncodeChar_append_lt`.
-/

namespace CardService.Utf8

/-- The bytes of the smaller of two characters come first, whatever follows either of them. -/
theorem utf8EncodeChar_append_lt {c d : Char} (h : c < d) (x y : List UInt8) :
    String.utf8EncodeChar c ++ x < String.utf8EncodeChar d ++ y := by
  have hlt : c.val.toNat < d.val.toNat := h
  have hmax : d.val.toNat < 0x110000 := by
    have hvalid := d.valid
    simp only [UInt32.isValidChar, Nat.isValidChar] at hvalid
    omega
  -- one case for each pair of lengths; a longer encoding has the larger leading byte
  unfold String.utf8EncodeChar
  simp only
  split_ifs <;>
    simp only [List.cons_append, List.nil_append, List.cons_lt_cons_iff, UInt8.lt_iff_toNat_lt,
      ← UInt8.toNat_inj, UInt8.toNat_ofNat'] <;>
    simp (disch := omega) only [Nat.mod_eq_of_lt] <;>
    omega

theorem encode_cons (c : Char) (text : List Char) :
    encode (c :: text) = String.utf8EncodeChar c ++ encode text := by
  rw [encode, encode, List.flatMap_cons]

theorem encode_append (a b : List Char) : encode (a ++ b) = encode a ++ encode b :=
  List.flatMap_append

theorem length_encode (text : List Char) :
    (encode text).length = (String.ofList text).utf8ByteSize := by
  rw [encode, ← List.size_toByteArray]
  rfl

/-- A text that comes first by code points comes first by bytes. -/
theorem encode_lt_encode {a b : List Char} (h : a < b) : encode a < encode b := by
  induction h with
  | @nil c rest =>
    rw [encode_cons]
    obtain ⟨byte, more, hbytes⟩ := List.exists_cons_of_ne_nil String.utf8EncodeChar_ne_nil
    rw [hbytes]
    exact List.nil_lt_cons ..
  | rel h =>
    rw [encode_cons, encode_cons]
    exact utf8EncodeChar_append_lt h _ _
  | cons _ ih =>
    rw [encode_cons, encode_cons]
    exact List.append_left_lt ih

end CardService.Utf8
