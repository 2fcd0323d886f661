import CardService.Json.Reader
import CardService.Proofs.Json.Tokens

/-!
# CardService — JSON values, read back

The text of a value is read as this value if it is nested no deeper than the reader may go, and else
the reader stops at a bracket or brace too deep inside it: `Reads` says which of the two holds.

Main results:

* `reads_write` — every value whose numbers are whole is read so, whatever follows its text.
* `settle_eq_self` — a value without repeated keys stands for itself.
* `parse_text` — hence a whole text is read as its value, or refused for its depth.
-/

namespace CardService.Json

/-! ## The values -/

mutual

/-- Whether all numbers in a value are whole. -/
def allWhole : Json → Bool
  | .number (.float _) => false
  | .array items => allWholeItems items
  | .object members => allWholeMembers members
  | _ => true

def allWholeItems : List Json → Bool
  | [] => true
  | item :: rest => allWhole item && allWholeItems rest

def allWholeMembers : Members → Bool
  | [] => true
  | (_, value) :: rest => allWhole value && allWholeMembers rest

end

mutual

/-- Whether no object in a value repeats a key. A text may repeat one, but then the value it stands
for does not. -/
def keysDistinct : Json → Bool
  | .array items => keysDistinctItems items
  | .object members => decide (members.map Prod.fst).Nodup && keysDistinctMembers members
  | _ => true

def keysDistinctItems : List Json → Bool
  | [] => true
  | item :: rest => keysDistinct item && keysDistinctItems rest

def keysDistinctMembers : Members → Bool
  | [] => true
  | (_, value) :: rest => keysDistinct value && keysDistinctMembers rest

end

/-! ## Values in arrays -/

theorem allWholeItems_iff {items : List Json} : allWholeItems items ↔ ∀ v ∈ items, v.allWhole := by
  induction items with
  | nil => exact iff_of_true rfl nofun
  | cons item items ih => rw [allWholeItems, Bool.and_eq_true_iff, List.forall_mem_cons, ih]

theorem keysDistinctItems_iff {items : List Json} :
    keysDistinctItems items ↔ ∀ v ∈ items, v.keysDistinct := by
  induction items with
  | nil => exact iff_of_true rfl nofun
  | cons item items ih => rw [keysDistinctItems, Bool.and_eq_true_iff, List.forall_mem_cons, ih]

theorem depthItems_le_iff {items : List Json} {n : Nat} :
    depthItems items ≤ n ↔ ∀ v ∈ items, v.depth ≤ n := by
  induction items with
  | nil => exact iff_of_true (Nat.zero_le n) nofun
  | cons item items ih => rw [depthItems, Nat.max_le, List.forall_mem_cons, ih]

/-! ## What reading gives -/

/-- Reading gives a value and leaves the rest, or it stops at the depth that does not fit. -/
inductive Reads {α : Type} (fits : Prop) (a : α) (rest : List Char) :
    Except ScanFault (α × List Char) → Prop
  | done (h : fits) : Reads fits a rest (.ok (a, rest))
  | tooDeep (h : ¬ fits) (left : Nat) : Reads fits a rest (.error ⟨.tooDeep, left⟩)

namespace Reads

variable {α β : Type} {p q : Prop} {a : α} {b : β} {rest more : List Char}

theorem congr {r : Except ScanFault (α × List Char)} (h : Reads p a rest r) (hpq : p ↔ q) :
    Reads q a rest r := by
  cases h with
  | done h => exact .done (hpq.mp h)
  | tooDeep h left => exact .tooDeep (h ∘ hpq.mpr) left

theorem map {r : Except ScanFault (α × List Char)} (h : Reads p a rest r) (f : α → β) :
    Reads p (f a) rest (r.map fun (a, rest) => (f a, rest)) := by
  cases h with
  | done h => exact .done h
  | tooDeep h left => exact .tooDeep h left

/-- What is read one after the other fits if both parts do. -/
theorem bind {r : Except ScanFault (α × List Char)}
    {f : α × List Char → Except ScanFault (β × List Char)} (h : Reads p a rest r)
    (hf : Reads q b more (f (a, rest))) : Reads (p ∧ q) b more (r >>= f) := by
  cases h with
  | done hp => exact hf.congr (and_iff_right hp).symm
  | tooDeep hp left => exact .tooDeep (fun h => hp h.1) left

end Reads

/-! ## One token -/

theorem skipBlank_cons {c : Char} (h : isBlank c = false) (rest : List Char) :
    skipBlank (c :: rest) = c :: rest :=
  List.dropWhile_cons_of_neg (by rw [h]; exact Bool.false_ne_true)

/-- Only numbers start with a minus or a digit. -/
def StartsNumber (c : Char) : Prop := c = '-' ∨ c.isDigit

theorem StartsNumber.ne {c d : Char} (hc : StartsNumber c) (hminus : d ≠ '-')
    (hdigit : d.isDigit = false) : c ≠ d := by
  rintro rfl
  exact hc.elim hminus (by rw [hdigit]; exact Bool.false_ne_true)

theorem StartsNumber.not_isBlank {c : Char} (hc : StartsNumber c) : isBlank c = false := by
  have hspace := hc.ne (d := ' ') (by decide) (by decide)
  have hline := hc.ne (d := '\n') (by decide) (by decide)
  have htab := hc.ne (d := '\t') (by decide) (by decide)
  have hreturn := hc.ne (d := '\r') (by decide) (by decide)
  simp [isBlank, hspace, hline, htab, hreturn]

theorem ofWhole_eq_cons (n : Int) :
    ∃ c more, Decimal.ofWhole n = c :: more ∧ StartsNumber c := by
  rw [Decimal.ofWhole, Decimal.signed]
  split
  · exact ⟨'-', _, rfl, .inl rfl⟩
  · obtain ⟨c, more, hdigits, hdigit⟩ := toDigits_eq_digit_cons n.natAbs
    exact ⟨c, more, hdigits, .inr hdigit⟩

theorem scanValue_number {c : Char} (hc : StartsNumber c) (levels : Nat) (rest : List Char) :
    scanValue levels (c :: rest) = (scanNumber (c :: rest)).map fun (n, r) => (.number n, r) := by
  rw [scanValue.eq_def]
  simp only [skipBlank_cons hc.not_isBlank]
  split
  · contradiction
  · exact absurd (List.cons.inj ‹_›).1 (hc.ne (by decide) (by decide))
  · exact absurd (List.cons.inj ‹_›).1 (hc.ne (by decide) (by decide))
  · exact absurd (List.cons.inj ‹_›).1 (hc.ne (by decide) (by decide))
  · exact absurd (List.cons.inj ‹_›).1 (hc.ne (by decide) (by decide))
  · exact absurd (List.cons.inj ‹_›).1 (hc.ne (by decide) (by decide))
  · exact absurd (List.cons.inj ‹_›).1 (hc.ne (by decide) (by decide))
  · obtain ⟨rfl, rfl⟩ := List.cons.inj ‹_›
    rw [if_pos]
    rw [Bool.or_eq_true, decide_eq_true_eq]
    exact hc

theorem scanValue_string (levels : Nat) (s : String) (rest : List Char) :
    scanValue levels (quote s ++ rest) = .ok (.string s, rest) := by
  have hscan := scanString_escape s rest
  rw [quote, List.cons_append, List.append_assoc, List.singleton_append, scanValue.eq_def]
  simp only [skipBlank_cons (c := '"') rfl, hscan]
  rfl

theorem scanValue_array (inner : Nat) (rest : List Char) :
    scanValue (inner + 1) ('[' :: rest) =
      (scanItems (scanValue inner) (rest.length + 1) true rest).map
        fun (items, r) => (.array items, r) := rfl

theorem scanValue_object (inner : Nat) (rest : List Char) :
    scanValue (inner + 1) ('\x7b' :: rest) =
      (scanMembers (scanValue inner) (rest.length + 1) true rest).map
        fun (members, r) => (.object members, r) := rfl

/-- The text of a value starts with a character by which an array that goes on is told from one
that ends. -/
theorem write_eq_cons {v : Json} (hv : v.allWhole) :
    ∃ c more, v.write = c :: more ∧ isBlank c = false ∧ c ≠ ']' := by
  cases v with
  | null => exact ⟨_, _, rfl, rfl, by decide⟩
  | bool b => cases b <;> exact ⟨_, _, rfl, rfl, by decide⟩
  | number n =>
    cases n with
    | whole n h =>
      obtain ⟨c, more, htext, hc⟩ := ofWhole_eq_cons n
      exact ⟨c, more, htext, hc.not_isBlank, hc.ne (by decide) (by decide)⟩
    | float x => exact absurd hv Bool.false_ne_true
  | string s => exact ⟨_, _, rfl, rfl, by decide⟩
  | array items => exact ⟨_, _, rfl, rfl, by decide⟩
  | object members => exact ⟨_, _, rfl, rfl, by decide⟩

/-! ## Arrays and objects -/

/-- The items behind one that was written, each with its comma, and the closing bracket. -/
def itemsTail : List Json → List Char
  | [] => [']']
  | item :: rest => ',' :: (item.write ++ itemsTail rest)

/-- The members behind one that was written, each with its comma, and the closing brace. -/
def membersTail : Members → List Char
  | [] => ['\x7d']
  | (key, value) :: rest => ',' :: (quote key ++ ':' :: (value.write ++ membersTail rest))

theorem writeItems_cons (item : Json) (rest : List Json) :
    writeItems (item :: rest) = item.write ++ itemsTail rest := by
  induction rest generalizing item with
  | nil => rfl
  | cons next rest ih => rw [writeItems, ih, itemsTail]

theorem writeMembers_cons (key : String) (value : Json) (rest : Members) :
    writeMembers ((key, value) :: rest) =
      quote key ++ ':' :: (value.write ++ membersTail rest) := by
  induction rest generalizing key value with
  | nil =>
    rw [writeMembers, membersTail]
    simp only [List.append_assoc, List.cons_append]
  | cons next rest ih =>
    rw [writeMembers, ih, membersTail]
    simp only [List.append_assoc, List.cons_append]

theorem endsNumber_itemsTail (items : List Json) (rest : List Char) :
    EndsNumber (itemsTail items ++ rest) := by
  cases items with
  | nil => exact endsNumber_cons (by decide) _
  | cons item items => exact endsNumber_cons (by decide) _

theorem endsNumber_membersTail (members : Members) (rest : List Char) :
    EndsNumber (membersTail members ++ rest) := by
  cases members with
  | nil => exact endsNumber_cons (by decide) _
  | cons member members => exact endsNumber_cons (by decide) _

theorem length_lt_itemsTail (items : List Json) : items.length < (itemsTail items).length := by
  induction items with
  | nil => decide
  | cons item items ih =>
    rw [itemsTail, List.length_cons, List.length_cons, List.length_append]
    omega

theorem length_lt_membersTail (members : Members) :
    members.length < (membersTail members).length := by
  induction members with
  | nil => decide
  | cons member members ih =>
    rw [membersTail, List.length_cons, List.length_cons, List.length_append, List.length_cons,
      List.length_append]
    omega

/-- The reader takes one step for each item, and the text is long enough to count them. -/
theorem length_le_writeItems (items : List Json) : items.length ≤ (writeItems items).length := by
  cases items with
  | nil => exact Nat.zero_le _
  | cons item items =>
    have hlength := length_lt_itemsTail items
    rw [writeItems_cons, List.length_append, List.length_cons]
    omega

theorem length_le_writeMembers (members : Members) :
    members.length ≤ (writeMembers members).length := by
  cases members with
  | nil => exact Nat.zero_le _
  | cons member members =>
    have hlength := length_lt_membersTail members
    rw [writeMembers_cons, List.length_append, List.length_cons, List.length_cons,
      List.length_append]
    omega

section Loops

variable {α : Type} (item : List Char → Except ScanFault (α × List Char)) (fuel : Nat)

theorem nextItem_first {c : Char} (hblank : isBlank c = false) (hend : c ≠ ']')
    (rest : List Char) : nextItem true (c :: rest) = .ok (some (c :: rest)) := by
  unfold nextItem
  simp only [skipBlank_cons hblank, if_true]

theorem nextItem_comma {c : Char} (hblank : isBlank c = false) (hend : c ≠ ']')
    (rest : List Char) : nextItem false (',' :: c :: rest) = .ok (some (c :: rest)) := by
  have hcomma : skipBlank (',' :: c :: rest) = ',' :: c :: rest := skipBlank_cons rfl _
  unfold nextItem
  rw [hcomma]
  split
  · contradiction
  · exact absurd (List.cons.inj ‹_›).1 (by decide)
  · obtain ⟨rfl, rfl⟩ := List.cons.inj ‹_›
    simp only [skipBlank_cons hblank, Bool.false_eq_true, if_false, if_true]
    -- the comma is gone, and what comes next is no bracket
    split
    · contradiction
    · exact absurd (List.cons.inj ‹_›).1 hend
    · rfl

theorem scanItems_next {c : Char} (hblank : isBlank c = false) (hend : c ≠ ']')
    (rest : List Char) :
    scanItems item (fuel + 1) false (',' :: c :: rest) =
      item (c :: rest) >>= fun (a, rest) =>
        (scanItems item fuel false rest).map fun (items, rest) => (a :: items, rest) := by
  rw [scanItems, nextItem_comma hblank hend]
  rfl

/-- The first item is read like one behind a comma. -/
theorem scanItems_first {c : Char} (hblank : isBlank c = false) (hend : c ≠ ']')
    (rest : List Char) :
    scanItems item (fuel + 1) true (c :: rest) =
      scanItems item (fuel + 1) false (',' :: c :: rest) := by
  rw [scanItems, scanItems, nextItem_first hblank hend, nextItem_comma hblank hend]
  rfl

theorem scanMembers_next (key : String) (rest : List Char) :
    scanMembers item (fuel + 1) false (',' :: (quote key ++ ':' :: rest)) =
      item rest >>= fun (a, rest) =>
        (scanMembers item fuel false rest).map fun (members, rest) =>
          ((key, a) :: members, rest) := by
  have hnext : nextKey false (',' :: (quote key ++ ':' :: rest)) =
      .ok (some (key.toList.flatMap escape ++ ['"'] ++ ':' :: rest)) := rfl
  rw [scanMembers, hnext]
  simp only [bind, Except.bind, List.append_assoc, List.singleton_append, scanString_escape]
  rfl

/-- The first member is read like one behind a comma. -/
theorem scanMembers_first (rest : List Char) :
    scanMembers item (fuel + 1) true ('"' :: rest) =
      scanMembers item (fuel + 1) false (',' :: '"' :: rest) := rfl

theorem scanItems_writeItems {items : List Json} (hitems : allWholeItems items)
    (rest : List Char) :
    scanItems item (fuel + 1) true (writeItems items ++ rest) =
      scanItems item (fuel + 1) false (itemsTail items ++ rest) := by
  cases items with
  | nil => rfl
  | cons first items =>
    obtain ⟨c, more, hhead, hblank, hend⟩ := write_eq_cons (Bool.and_eq_true_iff.mp hitems).1
    rw [writeItems_cons, itemsTail, hhead]
    exact scanItems_first item fuel hblank hend _

theorem scanMembers_writeMembers (members : Members) (rest : List Char) :
    scanMembers item (fuel + 1) true (writeMembers members ++ rest) =
      scanMembers item (fuel + 1) false (membersTail members ++ rest) := by
  cases members with
  | nil => rfl
  | cons member members =>
    rw [writeMembers_cons, membersTail]
    exact scanMembers_first item fuel _

end Loops

/-! ## Whole values -/

mutual

/-- The text of a value is read as this value, if it may be nested so deep. -/
theorem reads_write (v : Json) (hv : v.allWhole) (levels : Nat) {rest : List Char}
    (hrest : EndsNumber rest) :
    Reads (v.depth ≤ levels) v rest (scanValue levels (v.write ++ rest)) := by
  cases v with
  | null =>
    rw [scanValue.eq_def]
    exact .done (Nat.zero_le _)
  | bool b =>
    rw [scanValue.eq_def]
    cases b <;> exact .done (Nat.zero_le _)
  | number n =>
    cases n with
    | float x => exact absurd hv Bool.false_ne_true
    | whole n h =>
      obtain ⟨c, more, htext, hc⟩ := ofWhole_eq_cons n
      have hscan := scanNumber_ofWhole h hrest
      rw [htext, List.cons_append] at hscan
      rw [write, Number.text, htext, List.cons_append, scanValue_number hc, hscan]
      exact .done (Nat.zero_le _)
  | string s =>
    rw [write, scanValue_string]
    exact .done (Nat.zero_le _)
  | array items =>
    rw [write, List.cons_append, depth]
    cases levels with
    | zero => exact .tooDeep (Nat.not_succ_le_zero _) _
    | succ inner =>
      have hfuel : items.length < (writeItems items ++ rest).length + 1 := by
        have hlength := length_le_writeItems items
        rw [List.length_append]
        omega
      -- the items may be nested one level less deep than the array
      have hitems := reads_items items hv inner hfuel rest
      rw [← scanItems_writeItems _ _ hv] at hitems
      rw [scanValue_array]
      exact (hitems.map Json.array).congr Nat.succ_le_succ_iff.symm
  | object members =>
    rw [write, List.cons_append, depth]
    cases levels with
    | zero => exact .tooDeep (Nat.not_succ_le_zero _) _
    | succ inner =>
      have hfuel : members.length < (writeMembers members ++ rest).length + 1 := by
        have hlength := length_le_writeMembers members
        rw [List.length_append]
        omega
      have hmembers := reads_members members hv inner hfuel rest
      rw [← scanMembers_writeMembers] at hmembers
      rw [scanValue_object]
      exact (hmembers.map Json.object).congr Nat.succ_le_succ_iff.symm

theorem reads_items (items : List Json) (hitems : allWholeItems items) (inner : Nat) {fuel : Nat}
    (hfuel : items.length < fuel) (rest : List Char) :
    Reads (depthItems items ≤ inner) items rest
      (scanItems (scanValue inner) fuel false (itemsTail items ++ rest)) := by
  obtain ⟨fuel, rfl⟩ := Nat.exists_eq_add_one.mpr (Nat.zero_lt_of_lt hfuel)
  cases items with
  | nil => exact .done (Nat.zero_le _)
  | cons item items =>
    obtain ⟨hitem, hitems⟩ := Bool.and_eq_true_iff.mp hitems
    obtain ⟨c, more, hhead, hblank, hend⟩ := write_eq_cons hitem
    -- a comma or the bracket follows the item, so that a number ends there
    have hfirst := reads_write item hitem inner (endsNumber_itemsTail items rest)
    have hothers := reads_items items hitems inner (Nat.lt_of_succ_lt_succ hfuel) rest
    rw [hhead, List.cons_append] at hfirst
    rw [itemsTail, hhead, List.cons_append, List.cons_append, List.cons_append, List.append_assoc,
      scanItems_next _ _ hblank hend]
    refine (hfirst.bind (hothers.map (item :: ·))).congr ?_
    rw [depthItems, Nat.max_le]

theorem reads_members (members : Members) (hmembers : allWholeMembers members) (inner : Nat)
    {fuel : Nat} (hfuel : members.length < fuel) (rest : List Char) :
    Reads (depthMembers members ≤ inner) members rest
      (scanMembers (scanValue inner) fuel false (membersTail members ++ rest)) := by
  obtain ⟨fuel, rfl⟩ := Nat.exists_eq_add_one.mpr (Nat.zero_lt_of_lt hfuel)
  cases members with
  | nil => exact .done (Nat.zero_le _)
  | cons member members =>
    obtain ⟨key, value⟩ := member
    obtain ⟨hvalue, hmembers⟩ := Bool.and_eq_true_iff.mp hmembers
    have hfirst := reads_write value hvalue inner (endsNumber_membersTail members rest)
    have hothers := reads_members members hmembers inner (Nat.lt_of_succ_lt_succ hfuel) rest
    rw [membersTail, List.cons_append, List.append_assoc, List.cons_append, List.append_assoc,
      scanMembers_next]
    refine (hfirst.bind (hothers.map ((key, value) :: ·))).congr ?_
    rw [depthMembers, Nat.max_le]

end

/-! ## Repeated keys -/

/-- A new key goes to the end. -/
theorem insert_of_notMem {members : Members} {key : String}
    (h : key ∉ members.map Prod.fst) (value : Json) :
    members.insert key value = members ++ [(key, value)] := by
  induction members with
  | nil => rfl
  | cons member members ih =>
    obtain ⟨k, v⟩ := member
    rw [List.map_cons, List.mem_cons, not_or] at h
    rw [Members.insert, if_neg (Ne.symm h.1), ih h.2, List.cons_append]

mutual

/-- A value without repeated keys stands for itself. -/
theorem settle_eq_self (v : Json) (hv : v.keysDistinct) : v.settle = v := by
  cases v with
  | null | bool | number | string => rfl
  | array items => rw [settle, settleItems_eq_self items hv]
  | object members =>
    obtain ⟨hkeys, hvalues⟩ := Bool.and_eq_true_iff.mp hv
    rw [settle, settleMembers_eq_append [] members hvalues (of_decide_eq_true hkeys),
      List.nil_append]

theorem settleItems_eq_self (items : List Json) (hitems : keysDistinctItems items) :
    settleItems items = items := by
  cases items with
  | nil => rfl
  | cons item items =>
    obtain ⟨hitem, hitems⟩ := Bool.and_eq_true_iff.mp hitems
    rw [settleItems, settle_eq_self item hitem, settleItems_eq_self items hitems]

theorem settleMembers_eq_append (done members : Members) (hvalues : keysDistinctMembers members)
    (hkeys : ((done ++ members).map Prod.fst).Nodup) :
    settleMembers done members = done ++ members := by
  cases members with
  | nil => rw [settleMembers, List.append_nil]
  | cons member members =>
    obtain ⟨key, value⟩ := member
    obtain ⟨hvalue, hvalues⟩ := Bool.and_eq_true_iff.mp hvalues
    have hnew : key ∉ done.map Prod.fst := by
      rw [List.map_append, List.map_cons, List.nodup_append] at hkeys
      exact fun hmem => hkeys.2.2 key hmem key List.mem_cons_self rfl
    have hsplit : done ++ (key, value) :: members = done ++ [(key, value)] ++ members := by
      rw [List.append_assoc, List.singleton_append]
    rw [settleMembers, settle_eq_self value hvalue, insert_of_notMem hnew,
      settleMembers_eq_append _ members hvalues (by rwa [← hsplit]), hsplit]

end

/-! ## Whole texts -/

/-- The text of a value is read as this value if it is nested as deep as a text may be, and else
refused for its depth. -/
theorem parse_text {v : Json} (hwhole : v.allWhole) (hkeys : v.keysDistinct) :
    (v.depth ≤ nestingLimit → parse v.text = .ok v) ∧
      (nestingLimit < v.depth → ∃ position, parse v.text = .error ⟨.tooDeep, position⟩) := by
  have hread := reads_write v hwhole nestingLimit endsNumber_nil
  rw [List.append_nil] at hread
  rw [parse, text, String.toList_ofList, scanText]
  generalize scanValue nestingLimit v.write = r at hread ⊢
  cases hread with
  | done hfits =>
    refine ⟨fun _ => ?_, fun hdeep => absurd hfits (Nat.not_le.mpr hdeep)⟩
    show Except.ok v.settle = _
    rw [settle_eq_self v hkeys]
  | tooDeep hdeep left =>
    exact ⟨fun hfits => absurd hfits hdeep, fun _ => ⟨_, rfl⟩⟩

end CardService.Json
