import CardService.Json.Scan
import CardService.Json.Writer
import Mathlib.Data.List.TakeDrop
import Mathlib.Tactic.SplitIfs

/-!
# CardService — JSON tokens, read back

The scanners take as much as they can, so a token that was written is read back if what follows it
cannot continue it. Only numbers can be continued (`EndsNumber`); a string has its closing quote.

Main results:

* `scanNumber_ofWhole` — every whole number of 64 bits is read back exactly.
* `scanString_escape` — so is every string, whichever of its characters had to be escaped.
-/

namespace CardService.Json

/-! ## Whole numbers -/

/-- What follows cannot be read as a part of the number in front of it. -/
def EndsNumber (rest : List Char) : Prop :=
  ∀ c ∈ rest.head?, c.isDigit = false ∧ c ≠ '.' ∧ c ≠ 'e' ∧ c ≠ 'E'

theorem endsNumber_nil : EndsNumber [] := by
  simp [EndsNumber]

theorem endsNumber_cons {c : Char} (h : c = ',' ∨ c = ']' ∨ c = '\x7d') (rest : List Char) :
    EndsNumber (c :: rest) := by
  intro d hd
  obtain rfl : c = d := by simpa using hd
  rcases h with rfl | rfl | rfl <;> decide

theorem spanDigits_append {digits rest : List Char} (hdigits : ∀ c ∈ digits, c.isDigit)
    (hrest : EndsNumber rest) : spanDigits (digits ++ rest) = (digits, rest) := by
  have hstop : rest.takeWhile Char.isDigit = [] ∧ rest.dropWhile Char.isDigit = rest := by
    cases rest with
    | nil => exact ⟨rfl, rfl⟩
    | cons c rest =>
      have hc : ¬ c.isDigit = true := by simp [(hrest c rfl).1]
      exact ⟨List.takeWhile_cons_of_neg hc, List.dropWhile_cons_of_neg hc⟩
  rw [spanDigits, List.span_eq_takeWhile_dropWhile, List.takeWhile_append_of_pos hdigits,
    List.dropWhile_append_of_pos hdigits, hstop.1, hstop.2, List.append_nil]

theorem scanAfterDigits_of_ends {rest : List Char} (hrest : EndsNumber rest) (negative : Bool)
    (digits : Nat) : scanAfterDigits negative digits rest = scannedWhole negative digits rest := by
  unfold scanAfterDigits
  split
  · exact absurd rfl (hrest '.' rfl).2.1
  · exact absurd rfl (hrest 'e' rfl).2.2.1
  · exact absurd rfl (hrest 'E' rfl).2.2.2
  · rfl

theorem appendDigits_toDigits (n : Nat) : appendDigits 0 (Nat.toDigits 10 n) = n := by
  rw [appendDigits, ← Nat.ofDigitChars_eq_foldl, Nat.ofDigitChars_ten_toDigits]

theorem isDigit_toDigits (n : Nat) : ∀ c ∈ Nat.toDigits 10 n, c.isDigit :=
  fun _ => Nat.isDigit_of_mem_toDigits (by decide) (by decide)

/-- There is no point in the decimal of a whole number, and no exponent. -/
theorem mem_ofWhole {n : Int} {c : Char} (h : c ∈ Decimal.ofWhole n) : c = '-' ∨ c.isDigit := by
  rw [Decimal.ofWhole, Decimal.signed] at h
  split at h
  · exact (List.mem_cons.mp h).imp_right (isDigit_toDigits _ c)
  · exact .inr (isDigit_toDigits _ c h)

theorem toDigits_eq_digit_cons (n : Nat) :
    ∃ c more, Nat.toDigits 10 n = c :: more ∧ c.isDigit := by
  obtain ⟨c, more, hdigits⟩ := List.exists_cons_of_ne_nil (@Nat.toDigits_ne_nil n 10)
  refine ⟨c, more, hdigits, isDigit_toDigits n c ?_⟩
  rw [hdigits]
  exact List.mem_cons_self

/-- The digits of a number other than zero do not start with a zero. -/
theorem toDigits_eq_cons_of_ne_zero {n : Nat} (hn : n ≠ 0) :
    ∃ c more, Nat.toDigits 10 n = c :: more ∧ c ≠ '0' := by
  induction n using Nat.strongRecOn with
  | ind n ih =>
    rcases Nat.lt_or_ge n 10 with hsmall | hlarge
    · exact ⟨n.digitChar, [], Nat.toDigits_of_lt_base hsmall, by rwa [Ne, Nat.digitChar_eq_zero]⟩
    · -- the first digit is that of the number without its last digit
      obtain ⟨c, more, hdigits, hc⟩ := ih (n / 10) (by omega) (by omega)
      refine ⟨c, more ++ [(n % 10).digitChar], ?_, hc⟩
      rw [Nat.toDigits_of_base_le (by decide) hlarge, hdigits, List.cons_append]

/-- The digits of a number are read as this number, without any part of what follows. -/
theorem scanMagnitude_toDigits (negative : Bool) (n : Nat) {rest : List Char}
    (hrest : EndsNumber rest) :
    scanMagnitude negative (Nat.toDigits 10 n ++ rest) = scannedWhole negative n rest := by
  rw [← scanAfterDigits_of_ends hrest]
  by_cases hn : n = 0
  · -- the scanner looks behind a zero whether a digit follows
    subst hn
    rw [Nat.toDigits_zero, List.singleton_append]
    cases rest with
    | nil => rfl
    | cons c rest =>
      simp only [scanMagnitude, (hrest c rfl).1]
      rfl
  · obtain ⟨c, more, hdigits, hc⟩ := toDigits_eq_cons_of_ne_zero hn
    have hall := isDigit_toDigits n
    have hspan := spanDigits_append hall hrest
    have hvalue := appendDigits_toDigits n
    rw [hdigits, List.cons_append] at hspan
    rw [hdigits] at hall hvalue
    have hdigit := hall c List.mem_cons_self
    rw [hdigits, List.cons_append, scanMagnitude]
    · simp only [hdigit, hspan, hvalue, if_true]
    · exact hc

theorem scanNumber_ofWhole {n : Int} (h : Whole64 n) {rest : List Char} (hrest : EndsNumber rest) :
    scanNumber (Decimal.ofWhole n ++ rest) = .ok (.whole n h, rest) := by
  have hwhole : ∀ negative : Bool, (if negative then -(n.natAbs : Int) else n.natAbs) = n →
      (negative → n.natAbs ≠ 0) → scannedWhole negative n.natAbs rest = .ok (.whole n h, rest) := by
    intro negative hvalue hzero
    simp only [scannedWhole, hvalue]
    rw [dif_pos ⟨h, hzero⟩]
  rw [Decimal.ofWhole, Decimal.signed, Decimal.digitsOf]
  -- minus zero would be a double, but no negative number has the digits of zero
  by_cases hneg : n < 0
  · rw [decide_eq_true hneg, if_pos rfl, List.cons_append]
    show scanMagnitude true _ = _
    rw [scanMagnitude_toDigits _ _ hrest]
    exact hwhole true (by rw [if_pos rfl]; omega) (by omega)
  · have hsign : ∀ r, Nat.toDigits 10 n.natAbs ++ rest ≠ '-' :: r := by
      intro r heq
      obtain ⟨c, more, hdigits, hdigit⟩ := toDigits_eq_digit_cons n.natAbs
      rw [hdigits, List.cons_append] at heq
      rw [(List.cons.inj heq).1] at hdigit
      exact absurd hdigit (by decide)
    rw [decide_eq_false hneg, if_neg Bool.false_ne_true, scanNumber.eq_2 _ hsign,
      scanMagnitude_toDigits _ _ hrest]
    exact hwhole false (by rw [if_neg Bool.false_ne_true]; omega) (absurd · Bool.false_ne_true)

/-! ## Strings -/

theorem hexFour?_control : ∀ n < 0x20,
    hexFour? '0' '0' (hexDigit (n / 16)) (hexDigit (n % 16)) = some n := by
  decide +kernel

theorem scanEscape_control {c : Char} (h : c.toNat < 0x20) (rest : List Char) :
    scanEscape ('u' :: '0' :: '0' :: hexDigit (c.toNat / 16) :: hexDigit (c.toNat % 16) :: rest) =
      .ok (c, rest) := by
  have hcode : ¬ (0xDC00 ≤ c.toNat ∧ c.toNat ≤ 0xDFFF) ∧ (c.toNat < 0xD800 ∨ 0xDBFF < c.toNat) := by
    omega
  simp only [scanEscape, scanUnicode, scanHexFour, hexFour?_control _ h, bind, Except.bind]
  rw [if_neg hcode.1, if_pos hcode.2, Char.ofNat_toNat]
  rfl

/-- A character stands in a string as it is, or as an escape that is read as this character. -/
theorem escape_cases (c : Char) :
    (escape c = [c] ∧ c ≠ '"' ∧ c ≠ '\\' ∧ ¬ c.toNat < 0x20) ∨
      ∃ more, escape c = '\\' :: more ∧ ∀ rest, scanEscape (more ++ rest) = .ok (c, rest) := by
  unfold escape
  split_ifs with hquote hbackslash hb hf hn hr ht hcontrol
  case pos => exact .inr ⟨_, rfl, fun rest => by rw [hquote]; rfl⟩
  case pos => exact .inr ⟨_, rfl, fun rest => by rw [hbackslash]; rfl⟩
  case pos => exact .inr ⟨_, rfl, fun rest => by rw [hb]; rfl⟩
  case pos => exact .inr ⟨_, rfl, fun rest => by rw [hf]; rfl⟩
  case pos => exact .inr ⟨_, rfl, fun rest => by rw [hn]; rfl⟩
  case pos => exact .inr ⟨_, rfl, fun rest => by rw [hr]; rfl⟩
  case pos => exact .inr ⟨_, rfl, fun rest => by rw [ht]; rfl⟩
  case pos => exact .inr ⟨_, rfl, scanEscape_control hcontrol⟩
  case neg => exact .inl ⟨rfl, hquote, hbackslash, hcontrol⟩

theorem scanChars_escape {fuel : Nat} {s : List Char} (hfuel : s.length < fuel)
    (done rest : List Char) :
    scanChars fuel done (s.flatMap escape ++ '"' :: rest) =
      .ok (String.ofList (done.reverse ++ s), rest) := by
  induction s generalizing fuel done with
  | nil =>
    obtain ⟨fuel, rfl⟩ := Nat.exists_eq_add_one.mpr hfuel
    rw [List.flatMap_nil, List.nil_append, scanChars, if_pos rfl, List.append_nil]
  | cons c s ih =>
    obtain ⟨fuel, rfl⟩ := Nat.exists_eq_add_one.mpr (Nat.zero_lt_of_lt hfuel)
    have hrest := ih (Nat.lt_of_succ_lt_succ hfuel) (c :: done)
    rw [List.reverse_cons, List.append_assoc, List.singleton_append] at hrest
    rw [List.flatMap_cons, List.append_assoc, ← hrest]
    rcases escape_cases c with ⟨hself, hquote, hbackslash, hcontrol⟩ | ⟨more, hescape, hscan⟩
    · rw [hself, List.singleton_append, scanChars, if_neg hquote, if_neg hbackslash,
        if_neg hcontrol]
    · rw [hescape, List.cons_append, scanChars, if_neg (by decide), if_pos rfl, hscan]

theorem length_le_flatMap_escape (s : List Char) : s.length ≤ (s.flatMap escape).length := by
  induction s with
  | nil => exact Nat.le_refl _
  | cons c s ih =>
    have hpos : 1 ≤ (escape c).length := by
      rcases escape_cases c with ⟨hself, -⟩ | ⟨more, hescape, -⟩
      · rw [hself]
        exact Nat.le_refl _
      · rw [hescape, List.length_cons]
        exact Nat.succ_le_succ (Nat.zero_le _)
    rw [List.flatMap_cons, List.length_append, List.length_cons]
    omega

/-- What stands between the quotes of a string is read as this string. -/
theorem scanString_escape (s : String) (rest : List Char) :
    scanString (s.toList.flatMap escape ++ '"' :: rest) = .ok (s, rest) := by
  have hlength := length_le_flatMap_escape s.toList
  rw [scanString, scanChars_escape (by rw [List.length_append]; omega), List.reverse_nil,
    List.nil_append, String.ofList_toList]

end CardService.Json
