import CardService.Proofs.Json.Reading

/-!
# CardService — JSON texts without line breaks

The compact text of a value holds no control character: between its tokens there is nothing, and inside
its strings such characters are escaped. So a text is one line, whatever the strings in it say.

Main result: `write_printable`.
-/

namespace CardService.Json

/-- The character is none of the control characters, of which the line break is one. -/
def Printable (c : Char) : Prop := 0x20 ≤ c.toNat

instance (c : Char) : Decidable (Printable c) := inferInstanceAs (Decidable (0x20 ≤ c.toNat))

theorem Printable.ne_newline {c : Char} (h : Printable c) : c ≠ '\n' := by
  rintro rfl
  exact absurd h (by decide)

/-! ## Tokens -/

/-- A token is looked at character by character. -/
theorem printable_of_all {token : List Char} (h : token.all (fun c => decide (Printable c)) = true) :
    ∀ c ∈ token, Printable c :=
  fun c hc => of_decide_eq_true (List.all_eq_true.mp h c hc)

theorem printable_of_isDigit {c : Char} (h : c.isDigit) : Printable c := by
  rw [Char.isDigit, Bool.and_eq_true, decide_eq_true_eq] at h
  have hlow : (48 : UInt32).toNat ≤ c.val.toNat := UInt32.le_iff_toNat_le.mp h.1
  exact Nat.le_trans (by decide) hlow

theorem ofWhole_printable (n : Int) : ∀ c ∈ Decimal.ofWhole n, Printable c := by
  intro c hc
  rcases mem_ofWhole hc with rfl | hdigit
  · decide
  · exact printable_of_isDigit hdigit

theorem hexDigit_printable : ∀ n < 16, Printable (hexDigit n) := by
  decide

/-- Every control character has an escape, in which there is none. -/
theorem escape_printable (c : Char) : ∀ d ∈ escape c, Printable d := by
  unfold escape
  split_ifs with _ _ _ _ _ _ _ hcontrol
  -- seven characters have an escape of their own
  iterate 7
    · exact printable_of_all rfl
  · have hhigh := hexDigit_printable (c.toNat / 16) (by omega)
    have hlow := hexDigit_printable (c.toNat % 16) (by omega)
    simp only [List.forall_mem_cons, List.not_mem_nil, false_implies, implies_true, and_true]
    exact ⟨by decide, by decide, by decide, by decide, hhigh, hlow⟩
  · rw [List.forall_mem_singleton]
    exact Nat.not_lt.mp hcontrol

theorem quote_printable (s : String) : ∀ c ∈ quote s, Printable c := by
  rw [quote, List.forall_mem_cons, List.forall_mem_append, List.forall_mem_singleton]
  refine ⟨by decide, fun c hc => ?_, by decide⟩
  obtain ⟨d, -, hescape⟩ := List.mem_flatMap.mp hc
  exact escape_printable d c hescape

/-! ## Values -/

/-- The items of an array are written as those behind another one, but for the comma in front. -/
theorem writeItems_subset (items : List Json) : writeItems items ⊆ itemsTail items := by
  cases items with
  | nil => exact List.Subset.refl _
  | cons item items =>
    rw [writeItems_cons, itemsTail]
    exact List.subset_cons_self _ _

theorem writeMembers_subset (members : Members) : writeMembers members ⊆ membersTail members := by
  cases members with
  | nil => exact List.Subset.refl _
  | cons member members =>
    rw [writeMembers_cons, membersTail]
    exact List.subset_cons_self _ _

mutual

/-- The text of a value whose numbers are whole has no control characters. -/
theorem write_printable (v : Json) (hv : v.allWhole) : ∀ c ∈ v.write, Printable c := by
  cases v with
  | null => exact printable_of_all rfl
  | bool b => cases b <;> exact printable_of_all rfl
  | number n =>
    cases n with
    | float x => exact absurd hv Bool.false_ne_true
    | whole n h => exact ofWhole_printable n
  | string s => exact quote_printable s
  | array items =>
    rw [write, List.forall_mem_cons]
    exact ⟨by decide, fun c hc => itemsTail_printable items hv c (writeItems_subset items hc)⟩
  | object members =>
    rw [write, List.forall_mem_cons]
    exact ⟨by decide, fun c hc => membersTail_printable members hv c (writeMembers_subset members hc)⟩

theorem itemsTail_printable (items : List Json) (hitems : allWholeItems items) :
    ∀ c ∈ itemsTail items, Printable c := by
  cases items with
  | nil => exact printable_of_all rfl
  | cons item items =>
    obtain ⟨hitem, hitems⟩ := Bool.and_eq_true_iff.mp hitems
    rw [itemsTail, List.forall_mem_cons, List.forall_mem_append]
    exact ⟨by decide, write_printable item hitem, itemsTail_printable items hitems⟩

theorem membersTail_printable (members : Members) (hmembers : allWholeMembers members) :
    ∀ c ∈ membersTail members, Printable c := by
  cases members with
  | nil => exact printable_of_all rfl
  | cons member members =>
    obtain ⟨key, value⟩ := member
    obtain ⟨hvalue, hmembers⟩ := Bool.and_eq_true_iff.mp hmembers
    rw [membersTail, List.forall_mem_cons, List.forall_mem_append, List.forall_mem_cons,
      List.forall_mem_append]
    exact ⟨by decide, quote_printable key, by decide, write_printable value hvalue,
      membersTail_printable members hmembers⟩

end

end CardService.Json
