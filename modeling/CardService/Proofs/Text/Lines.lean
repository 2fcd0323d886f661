import CardService.Text.Split
import Mathlib.Data.List.Basic

/-!
# CardService — texts of lines

A text that is split at a separator falls into the parts in front of it and those behind it
(`splitBy_append_cons`), and what it is split into is all that stands between separators
(`mem_splitBy_iff`). The lines of a text whose last line is ended (`Ended`) are its parts between
line breaks, without the empty part behind the last one; a further line adds itself to them
(`linesOf_append`).
-/

namespace CardService.Text

/-! ## Parts -/

section Parts

variable {separator : Char} {part : List Char}

theorem splitBy_ne_nil (separator : Char) (text : List Char) : splitBy separator text ≠ [] := by
  cases text with
  | nil => exact List.cons_ne_nil _ _
  | cons c rest =>
    rw [splitBy]
    split
    · exact List.cons_ne_nil _ _
    · split <;> exact List.cons_ne_nil _ _

theorem splitBy_append_cons (separator : Char) (front rest : List Char) :
    splitBy separator (front ++ separator :: rest) =
      splitBy separator front ++ splitBy separator rest := by
  induction front with
  | nil =>
    rw [List.nil_append, splitBy.eq_2, if_pos rfl]
    rfl
  | cons c front ih =>
    rw [List.cons_append, splitBy, splitBy, ih]
    by_cases hc : c = separator
    · rw [if_pos hc, if_pos hc, List.cons_append]
    · -- the first part goes on with the character, and there is a first part
      obtain ⟨part, parts, hparts⟩ := List.exists_cons_of_ne_nil (splitBy_ne_nil separator front)
      rw [if_neg hc, if_neg hc, hparts, List.cons_append, List.cons_append]

theorem splitBy_of_notMem (h : separator ∉ part) : splitBy separator part = [part] := by
  induction part with
  | nil => rfl
  | cons c part ih =>
    obtain ⟨hc, hpart⟩ := List.ne_and_not_mem_of_not_mem_cons h
    rw [splitBy, if_neg hc.symm, ih hpart]

/-- A part of a text holds no separator, and there is one on either side of it, or the text ends. -/
structure IsPart (separator : Char) (text part : List Char) : Prop where
  unbroken : separator ∉ part
  around : ∃ front back, text = front ++ part ++ back ∧
    (front = [] ∨ ∃ before, front = before ++ [separator]) ∧
    (back = [] ∨ ∃ behind, back = separator :: behind)

theorem IsPart.append_left {text : List Char} (h : IsPart separator text part)
    (front : List Char) : IsPart separator (front ++ separator :: text) part := by
  obtain ⟨hpart, before, back, rfl, hbefore, hback⟩ := h
  refine ⟨hpart, front ++ separator :: before, back, ?_, .inr ?_, hback⟩
  · simp only [List.append_assoc, List.cons_append]
  · rcases hbefore with rfl | ⟨more, rfl⟩
    · exact ⟨front, rfl⟩
    · exact ⟨front ++ separator :: more, by simp only [List.append_assoc, List.cons_append]⟩

/-- Splitting gives all parts of a text and nothing else. -/
theorem mem_splitBy_iff {text : List Char} :
    part ∈ splitBy separator text ↔ IsPart separator text part := by
  constructor
  · intro hmem
    -- by the number of characters: what stands in front of the first separator is a part
    induction hlength : text.length using Nat.strongRecOn generalizing text with
    | ind length ih =>
      by_cases hseparator : separator ∈ text
      · obtain ⟨front, rest, rfl, hfront⟩ := List.eq_append_cons_of_mem hseparator
        rw [splitBy_append_cons, splitBy_of_notMem hfront, List.singleton_append,
          List.mem_cons] at hmem
        rcases hmem with rfl | hmem
        · exact ⟨hfront, [], separator :: rest, rfl, .inl rfl, .inr ⟨rest, rfl⟩⟩
        · have hshorter : rest.length < length := by
            rw [← hlength, List.length_append, List.length_cons]
            omega
          exact (ih rest.length hshorter hmem rfl).append_left front
      · rw [splitBy_of_notMem hseparator, List.mem_singleton] at hmem
        subst hmem
        exact ⟨hseparator, [], [], by rw [List.append_nil, List.nil_append], .inl rfl, .inl rfl⟩
  · rintro ⟨hpart, front, back, rfl, hfront, hback⟩
    -- a separator on one side, on both sides or on none splits the part off
    have hbehind : part ∈ splitBy separator (part ++ back) := by
      rcases hback with rfl | ⟨behind, rfl⟩
      · rw [List.append_nil, splitBy_of_notMem hpart]
        exact List.mem_singleton_self part
      · rw [splitBy_append_cons, splitBy_of_notMem hpart]
        exact List.mem_cons_self
    rcases hfront with rfl | ⟨before, rfl⟩
    · rw [List.nil_append]
      exact hbehind
    · rw [List.append_assoc, List.append_assoc, List.singleton_append, splitBy_append_cons]
      exact List.mem_append_right _ hbehind

end Parts

/-! ## Lines -/

/-- The text is empty, or its last line is ended. -/
def Ended (text : String) : Prop := text = "" ∨ ∃ front, text = front ++ "\n"

/-- The lines of a text whose last line is ended. -/
def linesOf (text : String) : List String :=
  (splitBy '\n' text.toList).dropLast.map String.ofList

theorem linesOf_append_newline (front : String) :
    linesOf (front ++ "\n") = (splitBy '\n' front.toList).map String.ofList := by
  have hnewline : (front ++ "\n").toList = front.toList ++ '\n' :: [] := String.toList_append
  rw [linesOf, hnewline, splitBy_append_cons]
  exact congrArg _ List.dropLast_concat

theorem ended_append_newline (front : String) : Ended (front ++ "\n") := .inr ⟨front, rfl⟩

/-- Behind a text whose last line is ended, another line stands on its own. -/
theorem linesOf_append {text line : String} (htext : Ended text) (hline : '\n' ∉ line.toList) :
    linesOf (text ++ (line ++ "\n")) = linesOf text ++ [line] := by
  rw [← String.append_assoc, linesOf_append_newline]
  rcases htext with rfl | ⟨front, rfl⟩
  · rw [String.empty_append, splitBy_of_notMem hline, List.map_singleton, String.ofList_toList]
    rfl
  · have hsplit : (front ++ "\n" ++ line).toList = front.toList ++ '\n' :: line.toList := by
      rw [String.append_assoc, String.toList_append, String.toList_append]
      rfl
    rw [hsplit, splitBy_append_cons, linesOf_append_newline, splitBy_of_notMem hline,
      List.map_append, List.map_singleton, String.ofList_toList]

end CardService.Text
