import CardService.Text.Blank
import Mathlib.Data.List.TakeWhile

/-!
# CardService — texts without blanks around them

What is left of a text when a class of characters is removed from both of its ends: the text falls into
removed characters, the rest, and removed characters, and the rest neither begins nor ends with one.
There is one such rest for each text (`trimmed_iff`).
-/

namespace CardService.Text

variable {drop : Char → Bool} {text inner : List Char}

/-- What stays of a text at one end, where removed characters stand in front. -/
theorem dropWhile_eq_iff :
    text.dropWhile drop = inner ↔ ∃ front, text = front ++ inner ∧ (∀ c ∈ front, drop c = true) ∧
      ∀ c, inner.head? = some c → drop c = false := by
  constructor
  · rintro rfl
    refine ⟨text.takeWhile drop, List.takeWhile_append_dropWhile.symm,
      fun c => List.mem_takeWhile_imp, fun c hc => ?_⟩
    have hhead := List.head?_dropWhile_not drop text
    rw [hc] at hhead
    exact hhead
  · rintro ⟨front, rfl, hfront, hinner⟩
    rw [List.dropWhile_append_of_pos hfront]
    cases inner with
    | nil => rfl
    | cons c rest => exact List.dropWhile_cons_of_neg (by simp [hinner c rfl])

/-- The rest of a text without certain characters around it. -/
structure TrimmedBy (drop : Char → Bool) (text inner : List Char) : Prop where
  around : ∃ front back, text = front ++ inner ++ back ∧ (∀ c ∈ front, drop c = true) ∧
    ∀ c ∈ back, drop c = true
  first : ∀ c, inner.head? = some c → drop c = false
  last : ∀ c, inner.getLast? = some c → drop c = false

theorem trimBy_eq_iff : trimBy drop text = inner ↔ TrimmedBy drop text inner := by
  rw [trimBy, List.reverse_eq_iff, dropWhile_eq_iff]
  constructor
  · rintro ⟨back, hback, hdropped, hlast⟩
    obtain ⟨front, htext, hfront, hfirst⟩ := dropWhile_eq_iff.mp (Eq.refl (text.dropWhile drop))
    have hrest : text.dropWhile drop = inner ++ back.reverse := by
      rw [← List.reverse_inj, hback, List.reverse_append, List.reverse_reverse]
    rw [hrest] at htext hfirst
    refine ⟨⟨front, back.reverse, ?_, hfront, ?_⟩, ?_, ?_⟩
    · rw [htext, List.append_assoc]
    · intro c hc
      exact hdropped c (List.mem_reverse.mp hc)
    · -- the rest begins where the first removal stopped
      intro c hc
      exact hfirst c (by rw [List.head?_append, hc]; rfl)
    · intro c hc
      exact hlast c (by rw [List.head?_reverse, hc])
  · rintro ⟨⟨front, back, rfl, hfront, hback⟩, hfirst, hlast⟩
    cases inner with
    | nil =>
      -- nothing stays, so all goes at the first end
      have hall : (front ++ [] ++ back).dropWhile drop = [] := by
        rw [List.append_nil, List.dropWhile_append_of_pos hfront]
        exact List.dropWhile_eq_nil_iff.mpr hback
      rw [hall]
      exact ⟨[], rfl, nofun, nofun⟩
    | cons c rest =>
      have hrest : (front ++ c :: rest ++ back).dropWhile drop = c :: rest ++ back := by
        rw [List.append_assoc]
        exact dropWhile_eq_iff.mpr ⟨front, rfl, hfront, fun d hd => hfirst d hd⟩
      rw [hrest, List.reverse_append]
      refine ⟨back.reverse, rfl, fun d hd => hback d (List.mem_reverse.mp hd), fun d hd => ?_⟩
      rw [List.head?_reverse] at hd
      exact hlast d hd

/-- A text without the blanks around it. -/
def Trimmed (text inner : String) : Prop := TrimmedBy isBlank text.toList inner.toList

theorem trimmed_iff {text inner : String} : Trimmed text inner ↔ trim text = inner := by
  rw [Trimmed, ← trimBy_eq_iff, trim, ← String.toList_inj, String.toList_ofList]

end CardService.Text
