import CardService.Payload.Envelope
import CardService.Proofs.Json.Reading
import CardService.Proofs.Text.Base64Reading
import CardService.Proofs.Text.Utf8Decoding

/-!
# CardService — envelopes, opened again

An envelope that was made of a value opens to this value, with all of its padding or a part of it,
as long as the value is nested no deeper than a JSON text may be. The layers are undone one by one:
Base64 and UTF-8 give back what was written for every value (`decodeEnvelope_rdrop`), and only the
reader of JSON looks at the depth.
-/

namespace CardService.Payload

open Json (nestingLimit)

/-! ## The layers -/

/-- The bytes of a JSON text are read as its value, or refused for its depth. -/
theorem jsonOfBytes_write {v : Json} (hwhole : v.allWhole) (hkeys : v.keysDistinct) :
    (v.depth ≤ nestingLimit → jsonOfBytes (Utf8.encode v.write) = .ok v) ∧
      (nestingLimit < v.depth → ∃ position, jsonOfBytes (Utf8.encode v.write) =
        .error (.notJson v.text (.syntaxError ⟨.tooDeep, position⟩))) := by
  obtain ⟨hread, hdeep⟩ := Json.parse_text hwhole hkeys
  rw [Json.text] at *
  rw [jsonOfBytes, Utf8.decode_encode]
  refine ⟨fun h => ?_, fun h => ?_⟩
  · simp only [hread h]
  · obtain ⟨position, hparse⟩ := hdeep h
    exact ⟨position, by simp only [hparse]⟩

/-- Without some of its padding, an envelope still opens to the bytes that were put into it. -/
theorem decodeEnvelope_rdrop (pipeline : Pipeline) (v : Json) {k : Nat}
    (hk : k ≤ ((encodeEnvelope v).toList.rtakeWhile (· = '=')).length) :
    decodeEnvelope pipeline (String.ofList ((encodeEnvelope v).toList.rdrop k)) =
      (jsonOfBytes (Utf8.encode v.write)).mapError fun refusal => ⟨pipeline, refusal⟩ := by
  rw [encodeEnvelope, String.toList_ofList] at hk ⊢
  rw [decodeEnvelope, String.toList_ofList, Base64.decode_encode hk]

/-- An envelope with all of its padding opens to the value it was made of. -/
theorem decodeEnvelope_encodeEnvelope (pipeline : Pipeline) {v : Json} (hwhole : v.allWhole)
    (hkeys : v.keysDistinct) (hdepth : v.depth ≤ nestingLimit) :
    decodeEnvelope pipeline (encodeEnvelope v) = .ok v := by
  have hopen := decodeEnvelope_rdrop pipeline v (Nat.zero_le _)
  rw [List.rdrop_zero, String.ofList_toList] at hopen
  rw [hopen, (jsonOfBytes_write hwhole hkeys).1 hdepth]
  rfl

theorem decodeRecord_of_object {pipeline : Pipeline} {raw : String} {record : Members}
    (h : decodeEnvelope pipeline raw = .ok (.object record)) :
    decodeRecord pipeline raw = .ok record := by
  rw [decodeRecord, h]
  rfl

/-! ## The depth -/

/-- An envelope that has lost any part of its padding opens to the very value it was made of, its
members in their order, if arrays and objects are nested at most 127 deep in it. Deeper values are
refused as a JSON text, for nothing but their depth. -/
theorem opened_up_to_depth (pipeline : Pipeline) {v : Json} (hwhole : v.allWhole)
    (hkeys : v.keysDistinct) {k : Nat}
    (hk : k ≤ ((encodeEnvelope v).toList.rtakeWhile (· = '=')).length) :
    (v.depth ≤ 127 →
        decodeEnvelope pipeline (String.ofList ((encodeEnvelope v).toList.rdrop k)) = .ok v) ∧
      (127 < v.depth → ∃ e,
        decodeEnvelope pipeline (String.ofList ((encodeEnvelope v).toList.rdrop k)) = .error e ∧
          e.pipeline = pipeline ∧ e.stage = .json ∧
          ∃ position, e.refusal = .notJson v.text (.syntaxError ⟨.tooDeep, position⟩)) := by
  obtain ⟨hread, hdeep⟩ := jsonOfBytes_write hwhole hkeys
  rw [decodeEnvelope_rdrop pipeline v hk]
  constructor
  · intro hdepth
    rw [hread hdepth]
    rfl
  · intro hdepth
    obtain ⟨position, hrefused⟩ := hdeep hdepth
    rw [hrefused]
    exact ⟨_, rfl, rfl, rfl, position, rfl⟩

/-- So many arrays, each the only item of the one around it. -/
def nested : Nat → Json
  | 0 => .string "\"\\"
  | n + 1 => .array [nested n]

/-- Both sides of the limit, each with one padding sign less than was written. -/
theorem opened_up_to_depth_nested :
    ((nested 127).allWhole ∧ (nested 127).keysDistinct ∧ (nested 127).depth = 127 ∧
      1 ≤ ((encodeEnvelope (nested 127)).toList.rtakeWhile (· = '=')).length ∧
      decodeEnvelope .interaction
        (String.ofList ((encodeEnvelope (nested 127)).toList.rdrop 1)) = .ok (nested 127)) ∧
    ((nested 128).allWhole ∧ (nested 128).keysDistinct ∧ (nested 128).depth = 128 ∧
      1 ≤ ((encodeEnvelope (nested 128)).toList.rtakeWhile (· = '=')).length ∧
      ∃ e, decodeEnvelope .interaction
        (String.ofList ((encodeEnvelope (nested 128)).toList.rdrop 1)) = .error e ∧
          e.pipeline = .interaction ∧ e.stage = .json ∧ ∃ position,
            e.refusal = .notJson (nested 128).text (.syntaxError ⟨.tooDeep, position⟩)) := by
  have hvalues : ∀ n ∈ [127, 128],
      (nested n).allWhole ∧ (nested n).keysDistinct ∧ (nested n).depth = n := by
    decide +kernel
  have hpadding : ∀ n ∈ [127, 128],
      1 ≤ ((encodeEnvelope (nested n)).toList.rtakeWhile (· = '=')).length := by
    simp only [encodeEnvelope, String.toList_ofList, Base64.rtakeWhile_encode]
    decide +kernel
  obtain ⟨hwhole, hkeys, hdepth⟩ := hvalues 127 (by decide)
  obtain ⟨hwhole', hkeys', hdepth'⟩ := hvalues 128 (by decide)
  have hk := hpadding 127 (by decide)
  have hk' := hpadding 128 (by decide)
  exact ⟨⟨hwhole, hkeys, hdepth, hk,
      (opened_up_to_depth .interaction hwhole hkeys hk).1 (Nat.le_of_eq hdepth)⟩,
    hwhole', hkeys', hdepth', hk',
    (opened_up_to_depth .interaction hwhole' hkeys' hk').2 (by rw [hdepth']; decide)⟩

end CardService.Payload
