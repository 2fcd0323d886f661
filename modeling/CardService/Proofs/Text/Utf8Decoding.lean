import CardService.Proofs.Text.Utf8Order
import Mathlib.Data.List.TakeWhile

/-!
# CardService — reading UTF-8 back

A character is told from its bytes, whatever follows them: the first byte says how many belong to
it, and the low bits of all of them make up its code (`piece_of_tails`). So a text is cut into the
very characters it was written from, and none of its pieces is broken (`decode_encode`). A text of
bytes below 128 has as many characters as bytes (`eq_of_ascii`).
-/

namespace CardService.Utf8

/-! ## Bytes as numbers -/

theorem isTail_iff {b : UInt8} : isTail b = true ↔ 0x80 ≤ b.toNat ∧ b.toNat ≤ 0xbf := by
  simp [isTail, UInt8.le_iff_toNat_le]

theorem tailLength?_eq (b : UInt8) :
    tailLength? b =
      if b.toNat < 0x80 then some 0
      else if 0xc2 ≤ b.toNat ∧ b.toNat ≤ 0xdf then some 1
      else if 0xe0 ≤ b.toNat ∧ b.toNat ≤ 0xef then some 2
      else if 0xf0 ≤ b.toNat ∧ b.toNat ≤ 0xf4 then some 3
      else none := by
  simp [tailLength?, UInt8.le_iff_toNat_le, UInt8.lt_iff_toNat_lt]

/-- The second byte has a range of its own behind four of the first bytes. -/
theorem isSecond_iff {first second : UInt8} :
    isSecond first second = true ↔
      0x80 ≤ second.toNat ∧ second.toNat ≤ 0xbf ∧
      (first.toNat = 0xe0 → 0xa0 ≤ second.toNat) ∧ (first.toNat = 0xed → second.toNat ≤ 0x9f) ∧
      (first.toNat = 0xf0 → 0x90 ≤ second.toNat) ∧ (first.toNat = 0xf4 → second.toNat ≤ 0x8f) := by
  have heq : ∀ n : UInt8, first = n ↔ first.toNat = n.toNat := fun n => UInt8.toNat_inj.symm
  simp only [isSecond, heq]
  -- one case for each first byte with a range of its own, and one for all others
  split_ifs <;> simp_all [isTail, UInt8.le_iff_toNat_le] <;> omega

/-! ## One character -/

/-- The code of a character of several bytes. -/
def codeOf (first : UInt8) (tails : List UInt8) : Nat :=
  tails.foldl (fun code b => code * 0x40 + tailBits b) (first.toNat % Nat.pow 2 (6 - tails.length))

theorem piece_of_ascii {first : UInt8} (h : first.toNat < 0x80) (rest : List UInt8) :
    piece first rest = .char (Char.ofNat first.toNat) := by
  rw [piece, tailLength?_eq, if_pos h]
  rfl

/-- A character has its bytes as the first piece, whatever follows them. -/
theorem piece_of_tails {c : Char} {first second : UInt8} {tails : List UInt8}
    (hlength : tailLength? first = some (tails.length + 1)) (hsecond : isSecond first second)
    (htails : ∀ b ∈ tails, isTail b) (hcode : codeOf first (second :: tails) = c.toNat)
    (rest : List UInt8) : piece first (second :: tails ++ rest) = .char c := by
  have htake : ((tails ++ rest).take tails.length).takeWhile isTail = tails := by
    rw [List.take_left, List.takeWhile_eq_self_iff]
    exact htails
  rw [piece, hlength, ← Char.ofNat_toNat c, ← hcode]
  simp only [List.cons_append, hsecond, Bool.not_true, Bool.false_eq_true, if_false,
    Nat.add_sub_cancel, htake, if_true]
  rfl

/-- No code of a character is half a surrogate pair or beyond the last one. -/
theorem toNat_valid (c : Char) : c.toNat < 0xd800 ∨ 0xdfff < c.toNat ∧ c.toNat < 0x110000 :=
  c.valid

/-- The bytes of a character make up its code. Their ranges are those of no shorter character and of
no half of a surrogate pair. -/
theorem piece_utf8EncodeChar (c : Char) (rest : List UInt8) :
    ∃ first tails, String.utf8EncodeChar c = first :: tails ∧
      piece first (tails ++ rest) = .char c := by
  have hvalid := toNat_valid c
  unfold String.utf8EncodeChar
  simp only [show c.val.toNat = c.toNat from rfl]
  -- one case for each number of bytes
  split_ifs with h1 h2 h3 <;> refine ⟨_, _, rfl, ?_⟩
  · have hfirst : (UInt8.ofNat c.toNat).toNat = c.toNat := by
      rw [UInt8.toNat_ofNat']
      omega
    rw [List.nil_append, piece_of_ascii (by omega), hfirst, Char.ofNat_toNat]
  · apply piece_of_tails
    · rw [tailLength?_eq, UInt8.toNat_ofNat', if_neg (by omega), if_pos (by omega)]
      rfl
    · simp only [isSecond_iff, UInt8.toNat_ofNat']
      omega
    · exact List.forall_mem_nil _
    · simp only [codeOf, tailBits, UInt8.toNat_ofNat', List.foldl, List.length, Nat.pow_eq]
      omega
  · apply piece_of_tails
    · rw [tailLength?_eq, UInt8.toNat_ofNat', if_neg (by omega), if_neg (by omega),
        if_pos (by omega)]
      rfl
    · simp only [isSecond_iff, UInt8.toNat_ofNat']
      omega
    · simp only [List.forall_mem_singleton, isTail_iff, UInt8.toNat_ofNat']
      omega
    · simp only [codeOf, tailBits, UInt8.toNat_ofNat', List.foldl, List.length, Nat.pow_eq]
      omega
  · apply piece_of_tails
    · rw [tailLength?_eq, UInt8.toNat_ofNat', if_neg (by omega), if_neg (by omega),
        if_neg (by omega), if_pos (by omega)]
      rfl
    · simp only [isSecond_iff, UInt8.toNat_ofNat']
      omega
    · rw [List.forall_mem_cons, List.forall_mem_singleton]
      simp only [isTail_iff, UInt8.toNat_ofNat']
      omega
    · simp only [codeOf, tailBits, UInt8.toNat_ofNat', List.foldl, List.length, Nat.pow_eq]
      omega

/-! ## Texts -/

theorem pieces_utf8EncodeChar_append (c : Char) (rest : List UInt8) :
    pieces (String.utf8EncodeChar c ++ rest) = .char c :: pieces rest := by
  obtain ⟨first, tails, hbytes, hpiece⟩ := piece_utf8EncodeChar c rest
  have hsize : tails.length = c.utf8Size - 1 := by
    have hlength := String.length_utf8EncodeChar c
    rw [hbytes, List.length_cons] at hlength
    omega
  rw [hbytes, List.cons_append, pieces, hpiece, Piece.size, ← hsize, List.drop_left]

/-- A text is cut into the characters it was written from. -/
theorem pieces_encode (text : List Char) : pieces (encode text) = text.map .char := by
  induction text with
  | nil => rw [encode, List.flatMap_nil, pieces, List.map_nil]
  | cons c text ih => rw [encode_cons, pieces_utf8EncodeChar_append, ih, List.map_cons]

theorem textOf_map_char (start : Nat) (text : List Char) :
    textOf start (text.map .char) = .ok text := by
  induction text generalizing start with
  | nil => rfl
  | cons c text ih =>
    rw [List.map_cons, textOf, ih]
    rfl

/-- Reading gives back every text that was written. -/
theorem decode_encode (text : List Char) : decode (encode text) = .ok text := by
  rw [decode, pieces_encode, textOf_map_char]

/-! ## Texts of single bytes -/

theorem utf8Size_of_ascii : ∀ n < 128, (Char.ofNat n).utf8Size = 1 := by decide +kernel

/-- Bytes that belong to no longer character are characters of their own. -/
theorem pieces_of_ascii {bytes : List UInt8} (h : ∀ b ∈ bytes, b.toNat < 0x80) :
    pieces bytes = bytes.map fun b => .char (Char.ofNat b.toNat) := by
  induction bytes with
  | nil => rw [pieces, List.map_nil]
  | cons b bytes ih =>
    obtain ⟨hb, hbytes⟩ := List.forall_mem_cons.mp h
    have hsize : (Piece.char (Char.ofNat b.toNat)).size = 1 := utf8Size_of_ascii b.toNat hb
    rw [pieces, piece_of_ascii hb]
    simp only [hsize, Nat.sub_self, List.drop_zero, ih hbytes, List.map_cons]

/-- Where every byte is a character of its own, the text is told from them one by one. -/
theorem eq_of_ascii {text : List Char} (h : ∀ b ∈ encode text, b.toNat < 0x80) :
    text = (encode text).map fun b => Char.ofNat b.toNat := by
  have hpieces := (pieces_encode text).symm.trans (pieces_of_ascii h)
  rw [← Function.comp_def, ← List.map_map] at hpieces
  exact (List.map_inj_right fun _ _ => Piece.char.inj).mp hpieces

end CardService.Utf8
