import CardService.Proofs.Text.Utf8Order
import CardService.Text.Base64
import Mathlib.Data.List.DropRight

/-!
# CardService — reading Base64 back

Symbols are read as their six bits, and what may follow them is padding up to a whole quad. How much
of that padding is there makes no difference (`decode_symbols`), so that a text which was written
may lose any part of its padding and is still read (`decode_encode`).
-/

namespace CardService.Base64

/-! ## Reading symbols -/

/-- The number of padding signs that complete a quad. -/
def paddingRoom (symbols : Nat) : Nat := (4 - symbols % 4) % 4

theorem values_symbols {symbols : List UInt8} {vs : List Nat}
    (h : symbols.map value? = vs.map some) (offset : Nat) : values offset symbols = .ok vs := by
  induction symbols generalizing vs offset with
  | nil =>
    obtain rfl : vs = [] := List.map_eq_nil_iff.mp h.symm
    rfl
  | cons b symbols ih =>
    cases vs with
    | nil => exact absurd h (List.cons_ne_nil _ _)
    | cons v vs =>
      obtain ⟨hv, hvs⟩ := List.cons.inj h
      rw [values, hv]
      simp only [ih hvs]
      rfl

theorem lastValues_padding {index : Nat} (h : 2 ≤ index) (offset pad : Nat) (padded : Option Nat) :
    lastValues offset index padded (List.replicate pad padding) = .ok [] := by
  induction pad generalizing index padded with
  | zero => rfl
  | succ pad ih =>
    rw [List.replicate_succ, lastValues.eq_def]
    simp only [if_true, Nat.not_lt.mpr h, if_false]
    exact ih (Nat.le_succ_of_le h) _

/-- In the last quad the symbols come first, and the padding stands behind two of them at least. -/
theorem lastValues_symbols {symbols : List UInt8} {vs : List Nat}
    (h : symbols.map value? = vs.map some) {index pad : Nat}
    (hpad : pad = 0 ∨ 2 ≤ index + vs.length) (offset : Nat) :
    lastValues offset index none (symbols ++ List.replicate pad padding) = .ok vs := by
  induction symbols generalizing vs index with
  | nil =>
    obtain rfl : vs = [] := List.map_eq_nil_iff.mp h.symm
    rcases hpad with rfl | hindex
    · rfl
    · exact lastValues_padding hindex offset pad none
  | cons b symbols ih =>
    cases vs with
    | nil => exact absurd h (List.cons_ne_nil _ _)
    | cons v vs =>
      obtain ⟨hv, hvs⟩ := List.cons.inj h
      -- a padding sign has no value, so none is met before the symbols end
      have hsymbol : b ≠ padding := by
        rintro rfl
        have hnone : value? padding = none := by decide
        exact Option.some_ne_none v (hv.symm.trans hnone)
      have hrest := @ih vs hvs (index + 1) (by rw [List.length_cons] at hpad; omega)
      rw [List.cons_append, lastValues, if_neg hsymbol, hv]
      simp only [hrest]
      rfl

/-- Symbols are read as the bytes that their bits make up, whatever part of the padding is there. -/
theorem decode_symbols {symbols : List UInt8} {vs : List Nat}
    (h : symbols.map value? = vs.map some) (hlength : vs.length % 4 ≠ 1) {pad : Nat}
    (hpad : pad ≤ paddingRoom vs.length) :
    decode (symbols ++ List.replicate pad padding) = .ok (regroup vs) := by
  have hcount : symbols.length = vs.length := by
    have := congrArg List.length h
    rwa [List.length_map, List.length_map] at this
  have htotal : (symbols ++ List.replicate pad padding).length = vs.length + pad := by
    rw [List.length_append, List.length_replicate, hcount]
  -- the last quad starts in front of the padding, and it has two symbols at least
  obtain ⟨start, hstart, hfront, hlast⟩ : ∃ start, wholeQuads (vs.length + pad) = start ∧
      start ≤ vs.length ∧ (vs.length + pad = 0 ∨ 2 ≤ vs.length - start) := by
    refine ⟨_, rfl, ?_⟩
    unfold wholeQuads paddingRoom at *
    split <;> omega
  have hstray : strayByte? (symbols ++ List.replicate pad padding) = none := by
    rw [strayByte?, htotal, if_neg]
    unfold paddingRoom at hpad
    omega
  have hvalues : values 0 ((symbols ++ List.replicate pad padding).take start) =
      .ok (vs.take start) := by
    rw [List.take_append_of_le_length (by omega)]
    exact values_symbols (by rw [List.map_take, h, List.map_take]) 0
  have hrest : lastValues start 0 none ((symbols ++ List.replicate pad padding).drop start) =
      .ok (vs.drop start) := by
    rw [List.drop_append_of_le_length (by omega)]
    refine lastValues_symbols (by rw [List.map_drop, h, List.map_drop]) ?_ start
    rw [List.length_drop]
    omega
  rw [decode, hstray]
  simp only [htotal, hstart, hvalues, hrest, bind, Except.bind]
  -- two symbols of the last quad are enough for a byte
  rw [if_neg, List.take_append_drop]
  · rfl
  · rw [Bool.and_eq_true, Bool.not_eq_true', List.isEmpty_eq_false_iff, ← List.length_pos_iff,
      htotal, decide_eq_true_eq, List.length_drop]
    omega

/-! ## Writing symbols -/

/-- The groups of six bits that bytes are written as. -/
def sextets : List UInt8 → List Nat
  | [] => []
  | [a] =>
    let n := a.toNat * 16
    [n / 64, n % 64]
  | [a, b] =>
    let n := (a.toNat * 256 + b.toNat) * 4
    [n / 4096, n / 64 % 64, n % 64]
  | a :: b :: c :: rest =>
    let n := (a.toNat * 256 + b.toNat) * 256 + c.toNat
    n / 262144 :: n / 4096 % 64 :: n / 64 % 64 :: n % 64 :: sextets rest

theorem encode_eq (bytes : List UInt8) :
    encode bytes =
      (sextets bytes).map symbol ++ List.replicate (paddingRoom (sextets bytes).length) '=' := by
  induction bytes using sextets.induct with
  | case1 => rfl
  | case2 => rfl
  | case3 => rfl
  | case4 a b c rest ih =>
    have hroom : paddingRoom (sextets (a :: b :: c :: rest)).length =
        paddingRoom (sextets rest).length := by
      simp only [sextets, List.length_cons, paddingRoom]
      omega
    rw [hroom, encode, ih]
    rfl

theorem sextets_length_mod (bytes : List UInt8) : (sextets bytes).length % 4 ≠ 1 := by
  induction bytes using sextets.induct with
  | case1 | case2 | case3 => simp [sextets]
  | case4 a b c rest ih =>
    simp only [sextets, List.length_cons]
    omega

theorem sextets_lt (bytes : List UInt8) : ∀ v ∈ sextets bytes, v < 64 := by
  induction bytes using sextets.induct with
  | case1 => exact List.forall_mem_nil _
  | case2 a =>
    have ha := a.toNat_lt
    rw [sextets, List.forall_mem_cons, List.forall_mem_singleton]
    omega
  | case3 a b =>
    have ha := a.toNat_lt
    have hb := b.toNat_lt
    rw [sextets, List.forall_mem_cons, List.forall_mem_cons, List.forall_mem_singleton]
    omega
  | case4 a b c rest ih =>
    have ha := a.toNat_lt
    have hb := b.toNat_lt
    have hc := c.toNat_lt
    rw [sextets]
    simp only [List.forall_mem_cons]
    refine ⟨?_, ?_, ?_, ?_, ih⟩ <;> omega

/-- The bits that were cut into groups of six make up the same bytes again. -/
theorem regroup_sextets (bytes : List UInt8) : regroup (sextets bytes) = bytes := by
  have hbyte : ∀ (a : UInt8) (n : Nat), n % 256 = a.toNat → UInt8.ofNat n = a := by
    intro a n h
    rw [← UInt8.toNat_inj, UInt8.toNat_ofNat', ← h]
  induction bytes using sextets.induct with
  | case1 => rfl
  | case2 a =>
    have ha := a.toNat_lt
    rw [sextets, regroup, hbyte a _ (by omega)]
  | case3 a b =>
    have ha := a.toNat_lt
    have hb := b.toNat_lt
    rw [sextets, regroup, hbyte a _ (by omega), hbyte b _ (by omega)]
  | case4 a b c rest ih =>
    have ha := a.toNat_lt
    have hb := b.toNat_lt
    have hc := c.toNat_lt
    rw [sextets, regroup, ih, hbyte a _ (by omega), hbyte b _ (by omega), hbyte c _ (by omega)]

/-- A symbol is one byte of a text, and it is read as the six bits it stands for. -/
theorem symbol_byte : ∀ v < 64,
    String.utf8EncodeChar (symbol v) = [UInt8.ofNat (symbol v).toNat] ∧
      value? (UInt8.ofNat (symbol v).toNat) = some v ∧ symbol v ≠ '=' := by
  decide +kernel

/-- The bytes of symbols are read as the bits they stand for. -/
theorem value?_encode_symbols {vs : List Nat} (h : ∀ v ∈ vs, v < 64) :
    (Utf8.encode (vs.map symbol)).map value? = vs.map some := by
  induction vs with
  | nil => rfl
  | cons v vs ih =>
    obtain ⟨hv, hvs⟩ := List.forall_mem_cons.mp h
    obtain ⟨hbyte, hvalue, -⟩ := symbol_byte v hv
    rw [List.map_cons, Utf8.encode_cons, hbyte, List.map_append, ih hvs, List.map_cons,
      List.map_cons, hvalue]
    rfl

theorem encode_padding (pad : Nat) :
    Utf8.encode (List.replicate pad '=') = List.replicate pad padding := by
  rw [Utf8.encode, List.flatMap_replicate]
  exact List.flatten_replicate_singleton

/-! ## Reading what was written -/

/-- The padding at the end of a text that was written is what completes its last quad. -/
theorem rtakeWhile_encode (bytes : List UInt8) :
    (encode bytes).rtakeWhile (· = '=') =
      List.replicate (paddingRoom (sextets bytes).length) '=' := by
  have hsymbols : ((sextets bytes).map symbol).reverse.takeWhile (· = '=') = [] := by
    cases hlast : ((sextets bytes).map symbol).reverse with
    | nil => rfl
    | cons c rest =>
      have hmem : c ∈ (sextets bytes).map symbol := by
        rw [← List.mem_reverse, hlast]
        exact List.mem_cons_self
      obtain ⟨v, hv, rfl⟩ := List.mem_map.mp hmem
      have hne := (symbol_byte v (sextets_lt bytes v hv)).2.2
      exact List.takeWhile_cons_of_neg (by simpa using hne)
  rw [List.rtakeWhile, encode_eq, List.reverse_append, List.reverse_replicate,
    List.takeWhile_append_of_pos, hsymbols, List.append_nil, List.reverse_replicate]
  intro c hc
  rw [decide_eq_true_eq]
  exact List.eq_of_mem_replicate hc

/-- A text that was written is read back, also without some of the padding at its end. -/
theorem decode_encode {bytes : List UInt8} {k : Nat}
    (h : k ≤ ((encode bytes).rtakeWhile (· = '=')).length) :
    decode (Utf8.encode ((encode bytes).rdrop k)) = .ok bytes := by
  rw [rtakeWhile_encode, List.length_replicate] at h
  -- what is cut off is padding, and what remains of it is no more than was written
  rw [encode_eq, List.rdrop_append_of_le_length _ (by rwa [List.length_replicate]), List.rdrop,
    List.take_replicate, Utf8.encode, List.flatMap_append]
  have hread := decode_symbols (value?_encode_symbols (sextets_lt bytes)) (sextets_length_mod bytes)
    (Nat.sub_le (paddingRoom (sextets bytes).length) k)
  rw [regroup_sextets, ← encode_padding] at hread
  rw [List.length_replicate, Nat.min_eq_left (Nat.sub_le _ _)]
  exact hread

end CardService.Base64
