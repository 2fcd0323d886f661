import CardService.Payload.ClientConfiguration
import CardService.Proofs.Payload.Opening
import CardService.Proofs.Record.ReadingBack

/-!
# CardService — client configurations, read back

The record of an entry is what its layout writes, so the layout reads it back. The envelope gives
back a list of such records however long it is, since the list is nested no deeper for that.
-/

namespace CardService.Payload

open Record (Shape readsBack_of_named readsBack_natural32 readsBack_list readsBack_record)

namespace ProviderConfiguration

/-- The record that is put together by hand is the one the layout writes, member by member. -/
theorem write_shape (entry : ProviderConfiguration) :
    shape.write entry = .object entry.toRecord := rfl

theorem readsBack_fundingSourceType (type : FundingSourceType) :
    (Shape.keyword Keyword.all Keyword.name).ReadsBack type := by
  have hnamed : Record.named Keyword.all Keyword.name (Keyword.name type) = .ok type := by
    cases type <;> rfl
  exact readsBack_of_named hnamed

theorem readsBack_shape (entry : ProviderConfiguration) : shape.ReadsBack entry := by
  refine readsBack_record ?keys rfl ⟨fun _ => rfl, readsBack_natural32 entry.version,
    readsBack_fundingSourceType entry.fundingSourceType, fun _ => rfl, trivial⟩
  case keys =>
    show ["type", "version", "fundingSourceType", "apiKey"].Nodup
    decide

end ProviderConfiguration

/-! ## The envelope -/

theorem readsBack_clientConfigurationShape (entries : List ProviderConfiguration) :
    clientConfigurationShape.ReadsBack entries := by
  have hentries := readsBack_list fun entry (_ : entry ∈ entries) => entry.readsBack_shape
  refine readsBack_record ?keys rfl ⟨hentries, trivial⟩
  case keys => exact List.pairwise_singleton _ entriesKey

/-- The envelope of a client configuration gives its record back, however many entries it has. -/
theorem decodeRecord_encodeClientConfiguration (entries : List ProviderConfiguration) :
    decodeRecord .clientConfiguration (encodeClientConfiguration entries) =
      .ok [(entriesKey, .array (entries.map fun entry => .object entry.toRecord))] := by
  have hwhole : ∀ v ∈ entries.map fun entry => Json.object entry.toRecord, v.allWhole :=
    List.forall_mem_map.mpr fun _ _ => rfl
  have hkeys : ∀ v ∈ entries.map fun entry => Json.object entry.toRecord, v.keysDistinct :=
    List.forall_mem_map.mpr fun _ _ => rfl
  have hdepth : ∀ v ∈ entries.map fun entry => Json.object entry.toRecord, v.depth ≤ 1 :=
    List.forall_mem_map.mpr fun _ _ => Nat.le_refl 1
  rw [encodeClientConfiguration]
  refine decodeRecord_of_object (decodeEnvelope_encodeEnvelope _ ?whole ?keys ?depth)
  case whole =>
    show (Json.allWholeItems _ && true) = true
    rw [Json.allWholeItems_iff.mpr hwhole]
    rfl
  case keys =>
    show (decide [entriesKey].Nodup && (Json.keysDistinctItems _ && true)) = true
    rw [Json.keysDistinctItems_iff.mpr hkeys]
    rfl
  case depth =>
    -- the entries lie in an array in an object, at the same depth all of them
    have hitems := Json.depthItems_le_iff.mpr hdepth
    show max (Json.depthItems _ + 1) 0 + 1 ≤ 127
    omega

/-- Every client configuration is decoded as the entries it was made of, in their order, and the
record of each entry is the one its layout writes, with the same keys in the same order. -/
theorem clientConfigurations_read_back :
    (∀ entries, decodeClientConfiguration (encodeClientConfiguration entries) = .ok entries) ∧
      ∀ entry : ProviderConfiguration,
        ProviderConfiguration.shape.write entry = .object entry.toRecord ∧
          entry.toRecord.map Prod.fst = ["type", "version", "fundingSourceType", "apiKey"] := by
  refine ⟨fun entries => ?_, fun entry => ⟨entry.write_shape, rfl⟩⟩
  have hread : clientConfigurationShape.ofJson (clientConfigurationShape.write entries) =
      .ok entries := readsBack_clientConfigurationShape entries false
  rw [decodeClientConfiguration, decodeRecord_encodeClientConfiguration, Except.ok_bind]
  exact congrArg (Except.mapError _) hread

end CardService.Payload
