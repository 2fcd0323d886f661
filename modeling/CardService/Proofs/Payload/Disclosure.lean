import CardService.Proofs.Payload.Interaction

/-!
# CardService — what is said of a payload

A payload that is refused is shown in the message: as the text that it is, or as the text, the value
or the tag that was found in it. Two payloads are `ShownAlike` if nothing tells them apart. Of a
payload that is no Base64 every character can be read off the message (`refused_text_injective`).
-/

namespace CardService

/-! ## Texts that end in a fault -/

/-- The last occurrence of an item splits a list in one way only. -/
theorem append_cons_inj_of_last {α : Type} {a a' rest rest' : List α} {x : α}
    (h : a ++ x :: rest = a' ++ x :: rest') (hrest : x ∉ rest) (hrest' : x ∉ rest') : a = a' := by
  -- one of the two beginnings is longer; what it is longer by would hold another such item
  rcases List.append_eq_append_iff.mp h with ⟨more, rfl, hmore⟩ | ⟨more, rfl, hmore⟩
  · cases more with
    | nil => rw [List.append_nil]
    | cons y more =>
      obtain ⟨rfl, rfl⟩ := List.cons.inj hmore
      exact absurd (List.mem_append_right more List.mem_cons_self) hrest
  · cases more with
    | nil => rw [List.append_nil]
    | cons y more =>
      obtain ⟨rfl, rfl⟩ := List.cons.inj hmore
      exact absurd (List.mem_append_right more List.mem_cons_self) hrest'

theorem not_mem_toString (n : Nat) : 'I' ∉ (toString n).toList := by
  intro hmem
  rw [Nat.toString_eq_repr, Nat.toList_repr] at hmem
  have hdigit : 'I'.isDigit := Nat.isDigit_of_mem_toDigits (by decide) (by decide) hmem
  exact absurd hdigit (by decide)

/-- A fault starts with a letter that it does not use again. -/
theorem Base64.Fault.message_eq_cons (fault : Base64.Fault) :
    ∃ rest, fault.message.toList = 'I' :: rest ∧ 'I' ∉ rest := by
  cases fault with
  | invalidByte offset byte =>
    have hlead : "Invalid symbol ".toList = 'I' :: "nvalid symbol ".toList := by decide +kernel
    refine ⟨"nvalid symbol ".toList ++ (toString byte.toNat).toList ++ ", offset ".toList ++
      (toString offset).toList ++ ".".toList, ?_, ?_⟩
    · unfold message
      simp only [String.toList_append, hlead, List.cons_append]
    · simp only [List.mem_append, not_or]
      exact ⟨⟨⟨⟨by decide, not_mem_toString _⟩, by decide⟩, not_mem_toString _⟩, by decide⟩
  | invalidLength length =>
    have hlead : "Invalid input length: ".toList = 'I' :: "nvalid input length: ".toList := by
      decide +kernel
    refine ⟨"nvalid input length: ".toList ++ (toString length).toList, ?_, ?_⟩
    · unfold message
      simp only [String.toList_append, hlead, List.cons_append]
    · simp only [List.mem_append, not_or]
      exact ⟨by decide, not_mem_toString _⟩

namespace Payload

/-- A text that is refused for not being Base64 can be told from what is said of it. -/
theorem refused_text_injective {raw raw' : String} {fault fault' : Base64.Fault}
    (h : (⟨.interaction, .notBase64 raw fault⟩ : DecodeError).detail =
      (⟨.interaction, .notBase64 raw' fault'⟩ : DecodeError).detail) : raw = raw' := by
  obtain ⟨rest, hrest, hnot⟩ := fault.message_eq_cons
  obtain ⟨rest', hrest', hnot'⟩ := fault'.message_eq_cons
  -- the payload stands between words that are fixed and the fault, and the fault can be told from the
  -- payload by its first letter, which is the last of its kind in the message
  have htexts := congrArg String.toList h
  simp only [DecodeError.detail, String.toList_append, hrest, hrest'] at htexts
  have hbefore := append_cons_inj_of_last htexts hnot hnot'
  exact String.toList_inj.mp (List.append_cancel_left (List.append_cancel_right hbefore))

/-! ## Payloads that are shown alike -/

/-- What comes of a payload, whatever else the info of the error says. -/
def interactionIn (raw : String) : Except DecodeError InteractionData :=
  decodeInteraction (.object [(InteractionData.infoKey, .string raw)])

theorem Carries.decodeInteraction {info : Json} {raw : String} (h : Carries info raw) :
    Payload.decodeInteraction info = interactionIn raw := by
  rw [interactionIn, decodeInteraction_of_carries h, decodeInteraction_of_carries ⟨_, rfl, rfl⟩]

/-- A text that is Base64. -/
def IsBase64 (raw : String) : Prop := ∃ bytes, Base64.decode (Utf8.encode raw.toList) = .ok bytes

theorem interactionIn_of_not_isBase64 {raw : String} (h : ¬ IsBase64 raw) :
    ∃ fault, interactionIn raw = .error ⟨.interaction, .notBase64 raw fault⟩ := by
  cases hdecode : Base64.decode (Utf8.encode raw.toList) with
  | ok bytes => exact absurd ⟨bytes, hdecode⟩ h
  | error fault =>
    refine ⟨fault, ?_⟩
    rw [interactionIn, decodeInteraction_of_carries ⟨_, rfl, rfl⟩, decodeRecord, decodeEnvelope,
      hdecode]
    rfl

/-- Two payloads of which the same is shown: both ask for an action of the user, or both are refused
in the same words. -/
inductive ShownAlike (raw raw' : String) : Prop where
  | decoded {data data' : InteractionData} (h : interactionIn raw = .ok data)
      (h' : interactionIn raw' = .ok data') : ShownAlike raw raw'
  | refused {e e' : DecodeError} (h : interactionIn raw = .error e)
      (h' : interactionIn raw' = .error e') (hdetail : e.detail = e'.detail) : ShownAlike raw raw'

/-- Texts that are no Base64 are shown as they are. -/
theorem shownAlike_iff_eq {raw raw' : String} (hraw : ¬ IsBase64 raw) (hraw' : ¬ IsBase64 raw') :
    ShownAlike raw raw' ↔ raw = raw' := by
  obtain ⟨fault, hfault⟩ := interactionIn_of_not_isBase64 hraw
  obtain ⟨fault', hfault'⟩ := interactionIn_of_not_isBase64 hraw'
  constructor
  · rintro (⟨h, -⟩ | ⟨h, h', hdetail⟩)
    · exact absurd (hfault.symm.trans h) (by simp)
    · -- both faults are the ones that are shown
      obtain rfl := Except.error.inj (hfault.symm.trans h)
      obtain rfl := Except.error.inj (hfault'.symm.trans h')
      exact refused_text_injective hdetail
  · rintro rfl
    exact .refused hfault hfault rfl

end Payload

end CardService
