import CardService.Proofs.Payload.Interaction

/-!
# CardService — payloads, read back

What is written for a payload is decoded as this payload, whatever characters its texts have: the
record that is written describes the payload, and its envelope gives the record back. So no two
payloads are written alike.
-/

namespace CardService.Payload

/-! ## Provisioning data -/

theorem describes_toRecord (data : ProvisioningData) : Describes data.toRecord data := by
  cases data with
  | stripeCard clientSecret intent => exact .stripeCard ⟨rfl, _, rfl, rfl⟩ (.inr rfl) rfl rfl
  | checkoutCard => exact .checkoutCard ⟨rfl, _, rfl, rfl⟩ rfl
  | checkoutBankAccount => exact .checkoutBankAccount ⟨rfl, _, rfl, rfl⟩ rfl

theorem decodeProvisioning_encode (data : ProvisioningData) :
    decodeProvisioning data.encode = .ok data := by
  have hdepth : (Json.object data.toRecord).depth = 1 := by cases data <;> rfl
  have hopen : decodeEnvelope .provisioning data.encode = .ok (.object data.toRecord) :=
    decodeEnvelope_encodeEnvelope .provisioning (by cases data <;> rfl) (by cases data <;> rfl)
      (by rw [hdepth]; decide)
  rw [decodeProvisioning_of_record hopen, payloadOf_eq_ok_iff, resolve_eq_iff]
  exact .described (describes_toRecord data)

/-! ## Interaction data -/

theorem redirects_toRecord (data : InteractionData) : Redirects data.toRecord data := by
  obtain ⟨redirectUrl⟩ := data
  exact .checkoutCard ⟨rfl, _, rfl, rfl⟩ rfl rfl

theorem decodeInteraction_toErrorInfo (data : InteractionData) :
    decodeInteraction data.toErrorInfo = .ok data := by
  have hdepth : (Json.object data.toRecord).depth = 1 := rfl
  have hopen : decodeEnvelope .interaction data.encode = .ok (.object data.toRecord) :=
    decodeEnvelope_encodeEnvelope .interaction rfl rfl (by rw [hdepth]; decide)
  have hcarries : Carries data.toErrorInfo data.encode := ⟨_, rfl, rfl⟩
  rw [decodeInteraction_of_record hcarries hopen, payloadOf_eq_ok_iff, resolve_interaction_iff]
  exact .redirects (redirects_toRecord data)

/-! ## Both -/

/-- Decoding gives back every payload that was written, and so it tells any two of them apart. -/
theorem payloads_read_back :
    (∀ data : ProvisioningData, decodeProvisioning data.encode = .ok data) ∧
      (∀ data : InteractionData, decodeInteraction data.toErrorInfo = .ok data) ∧
      Function.Injective ProvisioningData.encode ∧ Function.Injective InteractionData.encode ∧
      Function.Injective InteractionData.toErrorInfo := by
  have hinfo : Function.Injective InteractionData.toErrorInfo := by
    intro data other h
    have hother := decodeInteraction_toErrorInfo other
    rw [← h, decodeInteraction_toErrorInfo] at hother
    exact Except.ok.inj hother
  refine ⟨decodeProvisioning_encode, decodeInteraction_toErrorInfo, ?_, ?_, hinfo⟩
  · intro data other h
    have hother := decodeProvisioning_encode other
    rw [← h, decodeProvisioning_encode] at hother
    exact Except.ok.inj hother
  · intro data other h
    exact hinfo (by rw [InteractionData.toErrorInfo, InteractionData.toErrorInfo, h])

end CardService.Payload
