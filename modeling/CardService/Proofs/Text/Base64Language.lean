import CardService.Proofs.Outcome
import CardService.Proofs.Text.Base64Reading
import CardService.Proofs.Text.Utf8Decoding
import Mathlib.Tactic.Ring

/-!
# CardService — the texts that are Base64

Base64 is a language: symbols of the alphabet, not one more than whole quads of them, and behind
them at most the padding that completes the last quad (`Spelled`). What such a text stands for is
told on bits. Each symbol is six of them, and the bytes are cut off the row of bits, eight at a
time, as long as there are eight (`usedBits`, `octets`).

Main results:

* `Spelled.decode` — a text of the language is read as the bytes cut off its bits.
* `spelled_of_decode` — no other text is read at all, whatever characters it has.
* `usedBits_concat` — the low bits of the last symbol that make up no whole byte do not count.
-/

namespace CardService.Base64

/-! ## Bits -/

/-- The bits of a group of six, the highest first. -/
def sixBits (value : Nat) : List Bool := [5, 4, 3, 2, 1, 0].map value.testBit

/-- The number that bits stand for, the highest first. -/
def ofBits (bits : List Bool) : Nat := bits.foldl (fun n bit => 2 * n + bit.toNat) 0

/-- Bytes, cut off a row of bits. Less than eight bits in the end are no byte. -/
def octets : List Bool → List UInt8
  | b₇ :: b₆ :: b₅ :: b₄ :: b₃ :: b₂ :: b₁ :: b₀ :: rest =>
    UInt8.ofNat (ofBits [b₇, b₆, b₅, b₄, b₃, b₂, b₁, b₀]) :: octets rest
  | _ => []

/-- What is left of the bits behind the last whole byte does not count. -/
theorem octets_take (bits : List Bool) :
    octets (bits.take (bits.length / 8 * 8)) = octets bits := by
  induction bits using octets.induct with
  | case1 b₇ b₆ b₅ b₄ b₃ b₂ b₁ b₀ rest ih =>
    have hlength : (b₇ :: b₆ :: b₅ :: b₄ :: b₃ :: b₂ :: b₁ :: b₀ :: rest).length / 8 * 8 =
        rest.length / 8 * 8 + 8 := by
      simp only [List.length_cons]
      omega
    rw [hlength]
    simp only [List.take_succ_cons, octets, ih]
  | case2 bits hshort =>
    -- with eight bits or more, the first case would have applied
    have hlength : bits.length < 8 := by
      by_contra hlong
      match bits, hshort with
      | b₇ :: b₆ :: b₅ :: b₄ :: b₃ :: b₂ :: b₁ :: b₀ :: rest, hshort =>
        exact hshort _ _ _ _ _ _ _ _ _ rfl
      | [], _ | [_], _ | [_, _], _ | [_, _, _], _ | [_, _, _, _], _ | [_, _, _, _, _], _
      | [_, _, _, _, _, _], _ | [_, _, _, _, _, _, _], _ => simp at hlong
    rw [Nat.div_eq_of_lt hlength, Nat.zero_mul, List.take_zero, octets.eq_2 bits hshort]
    rfl

/-- The low bits of a number, the highest first. -/
def lowBits (width n : Nat) : List Bool := (List.range width).reverse.map n.testBit

theorem foldl_lowBits (start width n : Nat) :
    (lowBits width n).foldl (fun m bit => 2 * m + bit.toNat) start =
      start * 2 ^ width + n % 2 ^ width := by
  -- the highest bit comes first, and the others double the number that it makes of the start
  induction width generalizing start with
  | zero => simp [lowBits, Nat.mod_one]
  | succ width ih =>
    rw [lowBits, List.range_succ, List.reverse_append, List.reverse_singleton,
      List.singleton_append, List.map_cons, List.foldl_cons, ← lowBits, ih, Nat.toNat_testBit,
      Nat.mod_pow_succ, Nat.pow_succ]
    ring

/-- A byte takes what is left of one group, and the rest from the beginning of the next. -/
theorem ofBits_lowBits_append (m n width width' : Nat) :
    ofBits (lowBits width m ++ lowBits width' n) = m % 2 ^ width * 2 ^ width' + n % 2 ^ width' := by
  rw [ofBits, List.foldl_append, foldl_lowBits, foldl_lowBits, Nat.zero_mul, Nat.zero_add]

/-! There are three ways in which a byte can fall between two groups. -/

theorem ofBits_first (a b : Nat) :
    ofBits [a.testBit 5, a.testBit 4, a.testBit 3, a.testBit 2, a.testBit 1, a.testBit 0,
      b.testBit 5, b.testBit 4] = a % 64 * 4 + b / 16 % 4 := by
  have h : ofBits [a.testBit 5, a.testBit 4, a.testBit 3, a.testBit 2, a.testBit 1, a.testBit 0,
      (b / 2 ^ 4).testBit 1, (b / 2 ^ 4).testBit 0] = a % 2 ^ 6 * 2 ^ 2 + b / 2 ^ 4 % 2 ^ 2 :=
    ofBits_lowBits_append a (b / 2 ^ 4) 6 2
  rwa [Nat.testBit_div_two_pow, Nat.testBit_div_two_pow] at h

theorem ofBits_second (b c : Nat) :
    ofBits [b.testBit 3, b.testBit 2, b.testBit 1, b.testBit 0,
      c.testBit 5, c.testBit 4, c.testBit 3, c.testBit 2] = b % 16 * 16 + c / 4 % 16 := by
  have h : ofBits [b.testBit 3, b.testBit 2, b.testBit 1, b.testBit 0, (c / 2 ^ 2).testBit 3,
      (c / 2 ^ 2).testBit 2, (c / 2 ^ 2).testBit 1, (c / 2 ^ 2).testBit 0] =
        b % 2 ^ 4 * 2 ^ 4 + c / 2 ^ 2 % 2 ^ 4 :=
    ofBits_lowBits_append b (c / 2 ^ 2) 4 4
  rwa [Nat.testBit_div_two_pow, Nat.testBit_div_two_pow, Nat.testBit_div_two_pow,
    Nat.testBit_div_two_pow] at h

theorem ofBits_third (c d : Nat) :
    ofBits [c.testBit 1, c.testBit 0,
      d.testBit 5, d.testBit 4, d.testBit 3, d.testBit 2, d.testBit 1, d.testBit 0] =
        c % 4 * 64 + d % 64 :=
  ofBits_lowBits_append c d 2 6

theorem ofNat_congr {n m : Nat} (h : n % 256 = m % 256) : UInt8.ofNat n = UInt8.ofNat m := by
  rw [← UInt8.toNat_inj, UInt8.toNat_ofNat', UInt8.toNat_ofNat']
  exact h

/-- Groups of six bits are put together to the bytes that are cut off all of their bits. -/
theorem regroup_eq_octets {vs : List Nat} (h : ∀ v ∈ vs, v < 64) :
    regroup vs = octets (vs.flatMap sixBits) := by
  -- four groups make three bytes, and the last three or two groups one byte less than they are
  induction vs using regroup.induct with
  | case1 a b c d rest ih =>
    simp only [List.forall_mem_cons] at h
    obtain ⟨ha, hb, hc, hd, hrest⟩ := h
    simp only [List.flatMap_cons, sixBits, List.map_cons, List.map_nil, List.cons_append,
      List.nil_append, octets, ofBits_first, ofBits_second, ofBits_third]
    rw [regroup, ih hrest]
    congr 1
    · exact ofNat_congr (by omega)
    · congr 1
      · exact ofNat_congr (by omega)
      · congr 1
        exact ofNat_congr (by omega)
  | case2 a b c =>
    simp only [List.forall_mem_cons] at h
    obtain ⟨ha, hb, hc, -⟩ := h
    simp only [List.flatMap_cons, List.flatMap_nil, sixBits, List.map_cons, List.map_nil,
      List.cons_append, List.nil_append, octets, ofBits_first, ofBits_second]
    rw [regroup]
    congr 1
    · exact ofNat_congr (by omega)
    · congr 1
      exact ofNat_congr (by omega)
  | case3 a b =>
    simp only [List.forall_mem_cons] at h
    obtain ⟨ha, hb, -⟩ := h
    simp only [List.flatMap_cons, List.flatMap_nil, sixBits, List.map_cons, List.map_nil,
      List.cons_append, List.nil_append, octets, ofBits_first]
    rw [regroup]
    congr 1
    exact ofNat_congr (by omega)
  | case4 vs hfour hthree htwo =>
    -- fewer than two groups are left, and they make up no byte
    rcases vs with _ | ⟨a, _ | ⟨b, _ | ⟨c, _ | ⟨d, rest⟩⟩⟩⟩
    · rfl
    · rfl
    · exact absurd rfl (htwo a b)
    · exact absurd rfl (hthree a b c)
    · exact absurd rfl (hfour a b c d rest)

/-! ## The language -/

/-- The bits of a symbol. -/
def symbolBits (c : Char) : List Bool := sixBits (alphabet.idxOf c)

theorem length_flatMap_symbolBits (symbols : List Char) :
    (symbols.flatMap symbolBits).length = symbols.length * 6 := by
  have hsix : ∀ c ∈ symbols, (symbolBits c).length = 6 := fun _ _ => rfl
  rw [List.length_flatMap, List.map_congr_left hsix, List.map_const', List.sum_replicate_nat]

/-- The bits of symbols, as far as they make up whole bytes. -/
def usedBits (symbols : List Char) : List Bool :=
  (symbols.flatMap symbolBits).take (symbols.length * 6 / 8 * 8)

/-- A text is made of symbols, and of padding up to a whole quad. A quad that has a symbol has two
of them. -/
structure Spelled (symbols : List Char) (pad : Nat) (text : List Char) : Prop where
  text_eq : text = symbols ++ List.replicate pad '='
  symbols_mem : ∀ c ∈ symbols, c ∈ alphabet
  length_mod : symbols.length % 4 ≠ 1
  pad_le : pad ≤ paddingRoom symbols.length

/-- The low bits of the last symbol that no whole byte needs. -/
def unusedBits (symbols : Nat) : Nat := symbols * 6 % 8

/-- Two symbols with the same high bits leave the same bits behind when the others are cut off. -/
theorem usedBits_concat {front : List Char} {c d : Char}
    (h : alphabet.idxOf c / 2 ^ unusedBits (front.length + 1) =
      alphabet.idxOf d / 2 ^ unusedBits (front.length + 1)) :
    usedBits (front ++ [c]) = usedBits (front ++ [d]) := by
  have hfront : (front.flatMap symbolBits).length = front.length * 6 := length_flatMap_symbolBits _
  -- an even number of bits is left over, and it is the high ones that are kept
  have hkept : ∀ {m n k : Nat}, k = 0 ∨ k = 2 ∨ k = 4 ∨ k = 6 → m / 2 ^ k = n / 2 ^ k →
      (sixBits m).take (6 - k) = (sixBits n).take (6 - k) := by
    intro m n k hk hhigh
    have hbit : ∀ i, m.testBit (i + k) = n.testBit (i + k) := by
      intro i
      rw [← Nat.testBit_div_two_pow, hhigh, Nat.testBit_div_two_pow]
    rcases hk with rfl | rfl | rfl | rfl
    · simp [sixBits, hbit 5, hbit 4, hbit 3, hbit 2, hbit 1, hbit 0]
    · simp [sixBits, hbit 3, hbit 2, hbit 1, hbit 0]
    · simp [sixBits, hbit 1, hbit 0]
    · rfl
  have hcut : (front.length + 1) * 6 / 8 * 8 =
      (front.flatMap symbolBits).length + (6 - unusedBits (front.length + 1)) := by
    rw [hfront, unusedBits]
    omega
  have hlast := hkept (k := unusedBits (front.length + 1)) (by unfold unusedBits; omega) h
  simp only [usedBits, List.flatMap_append, List.length_append, List.length_singleton, hcut,
    List.take_length_add_append, List.flatMap_singleton]
  exact congrArg _ hlast

theorem symbol_idxOf {c : Char} (h : c ∈ alphabet) :
    alphabet.idxOf c < 64 ∧ symbol (alphabet.idxOf c) = c := by
  have hplace : alphabet.idxOf c < alphabet.length := List.idxOf_lt_length_iff.mpr h
  refine ⟨hplace, ?_⟩
  rw [symbol, List.getD_eq_getElem?_getD, List.getElem?_eq_getElem hplace,
    List.getElem_idxOf hplace]
  rfl

/-- A character of the alphabet is one byte, and its value is its place there. -/
theorem alphabet_byte {c : Char} (h : c ∈ alphabet) :
    String.utf8EncodeChar c = [UInt8.ofNat c.toNat] ∧
      value? (UInt8.ofNat c.toNat) = some (alphabet.idxOf c) := by
  obtain ⟨hplace, hsymbol⟩ := symbol_idxOf h
  obtain ⟨hbyte, hvalue, -⟩ := symbol_byte (alphabet.idxOf c) hplace
  rw [hsymbol] at hbyte hvalue
  exact ⟨hbyte, hvalue⟩

theorem toNat_lt_of_value? {b : UInt8} (h : (value? b).isSome) : b.toNat < 128 := by
  unfold value? at h
  simp only at h
  split_ifs at h <;> first | omega | cases h

/-- No other byte of a single character has a value. -/
theorem mem_alphabet_of_value? :
    ∀ n < 128, (value? (UInt8.ofNat n)).isSome → Char.ofNat n ∈ alphabet := by
  decide +kernel

theorem value?_encode_alphabet {symbols : List Char} (h : ∀ c ∈ symbols, c ∈ alphabet) :
    (Utf8.encode symbols).map value? = (symbols.map alphabet.idxOf).map some := by
  induction symbols with
  | nil => rfl
  | cons c symbols ih =>
    obtain ⟨hc, hsymbols⟩ := List.forall_mem_cons.mp h
    obtain ⟨hbyte, hvalue⟩ := alphabet_byte hc
    rw [Utf8.encode_cons, hbyte, List.map_append, ih hsymbols, List.map_cons, hvalue]
    rfl

/-- A text of the language is read as the bytes that are cut off its bits. -/
theorem Spelled.decode {symbols : List Char} {pad : Nat} {text : List Char}
    (h : Spelled symbols pad text) :
    decode (Utf8.encode text) = .ok (octets (usedBits symbols)) := by
  have hvalues := value?_encode_alphabet h.symbols_mem
  have hlength : (symbols.map alphabet.idxOf).length = symbols.length := List.length_map _
  have hread := decode_symbols hvalues (hlength.symm ▸ h.length_mod) (hlength.symm ▸ h.pad_le)
  -- the bits behind the last whole byte are passed over, so it makes no difference to drop them
  have hsmall : ∀ v ∈ symbols.map alphabet.idxOf, v < 64 := by
    intro v hv
    obtain ⟨c, hc, rfl⟩ := List.mem_map.mp hv
    exact (symbol_idxOf (h.symbols_mem c hc)).1
  have hbits : (symbols.map alphabet.idxOf).flatMap sixBits = symbols.flatMap symbolBits :=
    List.flatMap_map ..
  have hcount := length_flatMap_symbolBits symbols
  rw [h.text_eq, Utf8.encode_append, encode_padding, hread, regroup_eq_octets hsmall, hbits,
    usedBits, ← hcount, octets_take]

/-! ## Nothing else is read -/

theorem map_value?_of_values {offset : Nat} {symbols : List UInt8} {vs : List Nat}
    (h : values offset symbols = .ok vs) : symbols.map value? = vs.map some := by
  induction symbols generalizing offset vs with
  | nil =>
    cases h
    rfl
  | cons b symbols ih =>
    rw [values] at h
    cases hvalue : value? b with
    | none =>
      rw [hvalue] at h
      cases h
    | some v =>
      rw [hvalue] at h
      obtain ⟨rest, hrest, rfl⟩ := Except.map_eq_ok_iff.mp h
      rw [List.map_cons, hvalue, ih hrest]
      rfl

/-- What is read of the last quad are symbols in front of padding. Once padding was met, there is
only more of it. -/
theorem eq_of_lastValues {offset index : Nat} {padded : Option Nat} {input : List UInt8}
    {vs : List Nat} (h : lastValues offset index padded input = .ok vs) :
    ∃ symbols pad, input = symbols ++ List.replicate pad padding ∧
      symbols.map value? = vs.map some ∧ (padded.isSome → symbols = []) := by
  -- that no symbol follows a padding sign is carried along as the last part of the statement
  induction input generalizing index padded vs with
  | nil =>
    cases h
    exact ⟨[], 0, rfl, rfl, fun _ => rfl⟩
  | cons b rest ih =>
    rw [lastValues.eq_def] at h
    simp only at h
    split_ifs at h with hpadding hindex
    · -- the rest is read behind a padding sign, so it has no symbols
      obtain ⟨symbols, pad, rfl, hvalues, hnone⟩ := ih h
      have hsymbols : symbols = [] := hnone (by cases padded <;> rfl)
      subst hsymbols
      refine ⟨[], pad + 1, ?_, hvalues, fun _ => rfl⟩
      rw [hpadding]
      rfl
    · cases padded with
      | some first => cases h
      | none =>
        cases hvalue : value? b with
        | none =>
          simp only [hvalue] at h
          cases h
        | some v =>
          simp only [hvalue] at h
          obtain ⟨vs, hrest, rfl⟩ := Except.map_eq_ok_iff.mp h
          obtain ⟨symbols, pad, rfl, hvalues, -⟩ := ih hrest
          refine ⟨b :: symbols, pad, rfl, ?_, nofun⟩
          rw [List.map_cons, hvalue, hvalues]
          rfl

/-- The last quad starts behind whole quads, so that the symbols in it and the padding that
completes it are counted there alone. -/
theorem counts_of_lastQuad {length front symbols last pad : Nat}
    (hfront : min (wholeQuads length) length = front)
    (hlast : length - wholeQuads length = symbols + pad) (hsymbols : symbols = last)
    (hshort : ¬(0 < length ∧ last < 2)) :
    (front + last) % 4 ≠ 1 ∧ pad ≤ paddingRoom (front + last) := by
  unfold wholeQuads at hfront hlast
  unfold paddingRoom
  by_cases hwhole : length % 4 = 0
  · rw [if_pos hwhole] at hfront hlast
    omega
  · rw [if_neg hwhole] at hfront hlast
    omega

/-- Bytes that are read at all are symbols, and padding that completes their last quad or a part of
it. -/
theorem eq_of_decode {input bytes : List UInt8} (h : Base64.decode input = .ok bytes) :
    ∃ (symbols : List UInt8) (vs : List Nat) (pad : Nat),
      input = symbols ++ List.replicate pad padding ∧ symbols.map value? = vs.map some ∧
        vs.length % 4 ≠ 1 ∧ pad ≤ paddingRoom vs.length := by
  rw [Base64.decode] at h
  cases hstray : strayByte? input with
  | some b =>
    rw [hstray] at h
    cases h
  | none =>
    simp only [hstray] at h
    obtain ⟨front, hfront, h⟩ := Except.bind_eq_ok_iff.mp h
    obtain ⟨last, hlast, h⟩ := Except.bind_eq_ok_iff.mp h
    obtain ⟨symbols, pad, hinput, hvalues, -⟩ := eq_of_lastValues hlast
    have hfrontValues := map_value?_of_values hfront
    -- the last quad has two symbols at least, or there is nothing to read
    have hshort : ¬ (!input.isEmpty && decide (last.length < 2)) = true := by
      intro hshort
      rw [if_pos hshort] at h
      cases h
    rw [Bool.and_eq_true, Bool.not_eq_true', List.isEmpty_eq_false_iff, ← List.length_pos_iff,
      decide_eq_true_eq] at hshort
    have hcounts := congrArg List.length hfrontValues
    have hcount := congrArg List.length hvalues
    have htotal := congrArg List.length hinput
    simp only [List.length_map, List.length_take, List.length_drop, List.length_append,
      List.length_replicate] at hcounts hcount htotal
    refine ⟨input.take (wholeQuads input.length) ++ symbols, front ++ last, pad, ?_, ?_, ?_, ?_⟩
    · rw [List.append_assoc, ← hinput, List.take_append_drop]
    · rw [List.map_append, hfrontValues, hvalues, List.map_append]
    · exact List.length_append ▸ (counts_of_lastQuad hcounts htotal hcount hshort).1
    · exact List.length_append ▸ (counts_of_lastQuad hcounts htotal hcount hshort).2

/-- No text is read that is not of the language. -/
theorem spelled_of_decode {text : List Char} {bytes : List UInt8}
    (h : Base64.decode (Utf8.encode text) = .ok bytes) :
    ∃ symbols pad, Spelled symbols pad text := by
  obtain ⟨symbols, vs, pad, hinput, hvalues, hlength, hpad⟩ := eq_of_decode h
  have hcount : symbols.length = vs.length := by
    have := congrArg List.length hvalues
    rwa [List.length_map, List.length_map] at this
  have hsome : ∀ b ∈ symbols, (value? b).isSome := by
    intro b hb
    have hmem : value? b ∈ vs.map some := hvalues ▸ List.mem_map_of_mem hb
    obtain ⟨v, -, hv⟩ := List.mem_map.mp hmem
    rw [← hv]
    rfl
  -- all bytes that are read are ASCII, and then each of them is a character of the text
  have hascii : ∀ b ∈ Utf8.encode text, b.toNat < 128 := by
    intro b hb
    rw [hinput] at hb
    rcases List.mem_append.mp hb with hb | hb
    · exact toNat_lt_of_value? (hsome b hb)
    · rw [List.eq_of_mem_replicate hb]
      decide
  have htext := Utf8.eq_of_ascii hascii
  rw [hinput, List.map_append, List.map_replicate] at htext
  refine ⟨symbols.map fun b => Char.ofNat b.toNat, pad, htext, ?_, ?_, ?_⟩
  · intro c hc
    obtain ⟨b, hb, rfl⟩ := List.mem_map.mp hc
    refine mem_alphabet_of_value? b.toNat (toNat_lt_of_value? (hsome b hb)) ?_
    rw [UInt8.ofNat_toNat]
    exact hsome b hb
  · rwa [List.length_map, hcount]
  · rwa [List.length_map, hcount]

end CardService.Base64
