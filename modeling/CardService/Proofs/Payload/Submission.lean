import CardService.Payload.Submission
import CardService.Proofs.Json.Sameness
import CardService.Proofs.Payload.Opening

/-!
# CardService — submitted data, recovered

What a client submits to a provider is written as a record and put into an envelope. The record
tells any two submissions apart, whichever variant they are and whatever they leave open, and the
envelope opens to the record. So nothing of a submission is lost on the way (`Recovered`).
-/

namespace CardService.Payload

/-! ## The parts of records -/

section Tag

variable {provider provider' : Provider} {kind kind' : FundingSourceType}

theorem Provider.name_inj : provider.name = provider'.name ↔ provider = provider' := by
  cases provider <;> cases provider' <;> decide

theorem keywordName_inj : Keyword.name kind = Keyword.name kind' ↔ kind = kind' := by
  cases kind <;> cases kind' <;> decide

/-- Records that begin with a tag are the same if their tags are equal and the rest is the same. -/
theorem same_tagMembers_append_iff {rest others : Members}
    (hrest : ∀ key ∈ ["provider", "version", "type"], rest.get? key = none)
    (hothers : ∀ key ∈ ["provider", "version", "type"], others.get? key = none) :
    Members.Same (tagMembers provider kind ++ rest) (tagMembers provider' kind' ++ others) ↔
      provider = provider' ∧ kind = kind' ∧ rest.Same others := by
  simp only [List.forall_mem_cons] at hrest hothers
  simp [tagMembers, hrest, hothers, Provider.name_inj, keywordName_inj]

end Tag

@[simp] theorem AuthorizationText.same_toJson_iff {text other : AuthorizationText} :
    text.toJson.Same other.toJson ↔ text = other := by
  cases text
  cases other
  simp [toJson]

/-! ## Recovery -/

/-- Submissions are recovered from their envelopes, which open to their records, and the records
keep them apart. -/
structure Recovered {α : Type} (record : α → Members) (encode : α → String)
    (choices : α → List (String × Bool)) : Prop where
  opened : ∀ pipeline data, decodeEnvelope pipeline (encode data) = .ok (.object (record data))
  faithful : Faithful (fun data => .object (record data)) (· = ·) choices

theorem Recovered.encode_injective {α : Type} {record : α → Members} {encode : α → String}
    {choices : α → List (String × Bool)} (h : Recovered record encode choices) :
    Function.Injective encode := by
  intro data other heq
  -- equal envelopes open to equal records
  have hother := h.opened .provisioning other
  rw [← heq, h.opened] at hother
  exact h.faithful.injective (Except.ok.inj hother)

namespace SetupData

theorem same_toRecord_iff {data other : SetupData} :
    data.toRecord.Same other.toRecord ↔ data = other := by
  cases data
  cases other
  simp [toRecord]

theorem recovered : Recovered toRecord encode fun _ => [] where
  opened pipeline data := decodeEnvelope_encodeEnvelope pipeline rfl rfl (by decide : 1 ≤ 127)
  faithful := .of_same_iff (fun _ _ => Json.same_object_iff.trans same_toRecord_iff)
    (fun _ _ _ h => h) nofun

end SetupData

namespace CompletionData

theorem same_toRecord_iff {data other : CompletionData} :
    data.toRecord.Same other.toRecord ↔ data = other := by
  have huntagged : ∀ data : CompletionData,
      ∀ key ∈ ["provider", "version", "type"], data.details.get? key = none := by
    intro data
    cases data <;> simp [details]
  rw [toRecord, toRecord, same_tagMembers_append_iff (huntagged data) (huntagged other)]
  -- two variants differ in their provider or in their type
  cases data <;> cases other <;> simp [provider, fundingSourceType, details]

theorem recovered : Recovered toRecord encode fun _ => [] where
  opened pipeline data := by
    refine decodeEnvelope_encodeEnvelope pipeline ?whole ?keys ?depth
    case whole | keys => cases data <;> rfl
    case depth => cases data <;> exact Nat.le_of_ble_eq_true rfl
  faithful := .of_same_iff (fun _ _ => Json.same_object_iff.trans same_toRecord_iff)
    (fun _ _ _ h => h) nofun

end CompletionData

namespace RefreshData

/-- What a refresh may leave open. -/
def choices : RefreshData → List (String × Bool)
  | .checkoutBankAccount _ accountId authorizationText =>
    [("accountId", accountId.isSome), ("authorizationText", authorizationText.isSome)]

theorem same_toRecord_iff {data other : RefreshData} :
    data.toRecord.Same other.toRecord ↔ data = other := by
  cases data
  cases other
  simp only [toRecord, List.append_assoc]
  rw [same_tagMembers_append_iff (by simp) (by simp)]
  simp

theorem chosen_iff (data : RefreshData) : ∀ choice ∈ data.choices,
    (Json.object data.toRecord).get? choice.1 ≠ none ↔ choice.2 = true := by
  obtain ⟨applicationName, accountId, authorizationText⟩ := data
  simp [choices, toRecord, tagMembers, Option.isSome_iff_ne_none]

theorem recovered : Recovered toRecord encode choices where
  opened pipeline data := by
    obtain ⟨applicationName, accountId, authorizationText⟩ := data
    refine decodeEnvelope_encodeEnvelope pipeline ?whole ?keys ?depth
    case whole | keys => cases accountId <;> cases authorizationText <;> rfl
    case depth =>
      cases accountId <;> cases authorizationText <;> exact Nat.le_of_ble_eq_true rfl
  faithful := .of_same_iff (fun _ _ => Json.same_object_iff.trans same_toRecord_iff)
    (fun _ _ _ h => h) chosen_iff

end RefreshData

end CardService.Payload
