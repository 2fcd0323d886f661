import CardService.Proofs.Payload.Opening
import CardService.Proofs.Text.Base64Language

/-!
# CardService — which texts are envelopes

The first thing asked of an envelope is that it is a text of Base64, and exactly the texts that are
not are refused for that (`refused_unless_spelled`). From there on only the bytes count: the reader
of JSON sees neither the padding nor what the last symbol has to say beyond the last whole byte.
-/

namespace CardService.Payload

/-! ## Two stages -/

/-- Bytes are refused as JSON, or not at all. -/
theorem stage_of_jsonOfBytes {bytes : List UInt8} {refusal : Refusal}
    (h : jsonOfBytes bytes = .error refusal) : refusal.stage = .json := by
  rw [jsonOfBytes] at h
  cases htext : Utf8.decode bytes with
  | error fault =>
    rw [htext] at h
    cases h
    rfl
  | ok text =>
    simp only [htext] at h
    cases hjson : Json.parse (String.ofList text) with
    | error fault =>
      simp only [hjson] at h
      cases h
      rfl
    | ok json =>
      simp only [hjson] at h
      cases h

/-- A text of Base64 opens to what the bytes cut off its bits hold. -/
theorem decodeEnvelope_spelled (pipeline : Pipeline) {raw : String} {symbols : List Char}
    {pad : Nat} (h : Base64.Spelled symbols pad raw.toList) :
    decodeEnvelope pipeline raw =
      (jsonOfBytes (Base64.octets (Base64.usedBits symbols))).mapError (⟨pipeline, ·⟩) := by
  rw [decodeEnvelope, h.decode]

/-- Any other text is refused as it stands. -/
theorem decodeEnvelope_not_spelled (pipeline : Pipeline) {raw : String}
    (h : ¬∃ symbols pad, Base64.Spelled symbols pad raw.toList) :
    ∃ fault, decodeEnvelope pipeline raw = .error ⟨pipeline, .notBase64 raw fault⟩ := by
  cases hbytes : Base64.decode (Utf8.encode raw.toList) with
  | ok bytes => exact absurd (Base64.spelled_of_decode hbytes) h
  | error fault =>
    refine ⟨fault, ?_⟩
    rw [decodeEnvelope, hbytes]
    rfl

theorem stage_of_spelled {pipeline : Pipeline} {raw : String} {symbols : List Char} {pad : Nat}
    (h : Base64.Spelled symbols pad raw.toList) {e : DecodeError}
    (he : decodeEnvelope pipeline raw = .error e) : e.stage = .json := by
  rw [decodeEnvelope_spelled pipeline h] at he
  obtain ⟨refusal, hrefusal, rfl⟩ := Except.mapError_eq_error_iff.mp he
  exact stage_of_jsonOfBytes hrefusal

/-! ## The texts that are Base64 -/

/-- An envelope is refused as Base64, and then as it stands, exactly if it is not spelled with
symbols of the alphabet and padding behind them: no symbol alone in the last quad, and no more
padding than completes it. A text that is spelled so opens to what the bytes hold that its bits are
cut into, or is refused as their JSON. Another one with as much padding as it likes, and with
another last symbol that differs in nothing but its unused bits, opens to the same. -/
theorem refused_unless_spelled (pipeline : Pipeline) (raw : String) :
    ((∃ e, decodeEnvelope pipeline raw = .error e ∧ e.stage = .base64) ↔
        ¬∃ symbols pad, Base64.Spelled symbols pad raw.toList) ∧
      (∀ e, decodeEnvelope pipeline raw = .error e → e.stage = .base64 →
        ∃ fault, e = ⟨pipeline, .notBase64 raw fault⟩) ∧
      (∀ symbols pad, Base64.Spelled symbols pad raw.toList →
        decodeEnvelope pipeline raw =
            (jsonOfBytes (Base64.octets (Base64.usedBits symbols))).mapError (⟨pipeline, ·⟩) ∧
          ∀ e, decodeEnvelope pipeline raw = .error e → e.stage = .json) ∧
      (∀ symbols pad raw' pad', Base64.Spelled symbols pad raw.toList →
        Base64.Spelled symbols pad' raw'.toList →
          decodeEnvelope pipeline raw' = decodeEnvelope pipeline raw) ∧
      ∀ front c pad raw' d pad', Base64.Spelled (front ++ [c]) pad raw.toList →
        Base64.Spelled (front ++ [d]) pad' raw'.toList →
          Base64.alphabet.idxOf c / 2 ^ Base64.unusedBits (front.length + 1) =
              Base64.alphabet.idxOf d / 2 ^ Base64.unusedBits (front.length + 1) →
            decodeEnvelope pipeline raw' = decodeEnvelope pipeline raw := by
  -- no refusal is of both stages, so a text is either spelled or refused as Base64
  have hstage : ∀ {e : DecodeError}, e.stage = .base64 → e.stage ≠ .json := by
    intro e hbase hjson
    rw [hbase] at hjson
    cases hjson
  refine ⟨⟨?_, ?_⟩, ?_, ?_, ?_, ?_⟩
  · rintro ⟨e, he, hbase⟩ ⟨symbols, pad, hspelled⟩
    exact hstage hbase (stage_of_spelled hspelled he)
  · intro hnot
    obtain ⟨fault, hrefused⟩ := decodeEnvelope_not_spelled pipeline hnot
    exact ⟨_, hrefused, rfl⟩
  · intro e he hbase
    by_cases hspelled : ∃ symbols pad, Base64.Spelled symbols pad raw.toList
    · obtain ⟨symbols, pad, hspelled⟩ := hspelled
      exact absurd (stage_of_spelled hspelled he) (hstage hbase)
    · obtain ⟨fault, hrefused⟩ := decodeEnvelope_not_spelled pipeline hspelled
      exact ⟨fault, Except.error.inj (he.symm.trans hrefused)⟩
  · intro symbols pad hspelled
    exact ⟨decodeEnvelope_spelled pipeline hspelled, fun e he => stage_of_spelled hspelled he⟩
  · intro symbols pad raw' pad' hspelled hspelled'
    rw [decodeEnvelope_spelled pipeline hspelled, decodeEnvelope_spelled pipeline hspelled']
  · intro front c pad raw' d pad' hspelled hspelled' hhigh
    rw [decodeEnvelope_spelled pipeline hspelled, decodeEnvelope_spelled pipeline hspelled',
      Base64.usedBits_concat hhigh]

/-- An empty object, written without its padding and with a low bit set that does not count, opens
all the same; one padding sign too many, and a text is refused. -/
theorem refused_unless_spelled_e31 :
    Base64.Spelled ['e', '3', '0'] 1 "e30=".toList ∧ Base64.Spelled ['e', '3', '1'] 0 "e31".toList ∧
      decodeEnvelope .interaction "e31" = .ok (.object []) ∧
      decodeEnvelope .interaction "e31" = decodeEnvelope .interaction "e30=" ∧
      (∃ fault, decodeEnvelope .interaction "e30==" =
        .error ⟨.interaction, .notBase64 "e30==" fault⟩) ∧
      ¬∃ symbols pad, Base64.Spelled symbols pad "e30==".toList := by
  have hsymbols : ∀ {symbols : List Char}, symbols.all Base64.alphabet.contains = true →
      ∀ c ∈ symbols, c ∈ Base64.alphabet := by
    intro symbols hall c hc
    exact List.contains_iff_mem.mp (List.all_eq_true.mp hall c hc)
  have hpadded : Base64.Spelled ['e', '3', '0'] 1 "e30=".toList :=
    ⟨by decide +kernel, hsymbols (by decide +kernel), by decide, by decide⟩
  have hbare : Base64.Spelled ['e', '3', '1'] 0 "e31".toList :=
    ⟨by decide +kernel, hsymbols (by decide +kernel), by decide, by decide⟩
  -- the unused bits of the last symbol are dropped, and what is left are two braces
  have hbytes : Base64.octets (Base64.usedBits ['e', '3', '1']) =
      Utf8.encode (Json.object []).write := by
    decide +kernel
  have hopen : decodeEnvelope .interaction "e31" = .ok (.object []) := by
    rw [((refused_unless_spelled .interaction "e31").2.2.1 _ _ hbare).1, hbytes,
      (jsonOfBytes_write (by decide +kernel) (by decide +kernel)).1 (by decide +kernel)]
    rfl
  have hsame := (refused_unless_spelled .interaction "e30=").2.2.2.2 ['e', '3'] '0' 1 "e31" '1' 0
    hpadded hbare (by decide +kernel)
  have hrefused : ∃ fault, Base64.decode (Utf8.encode "e30==".toList) = .error fault :=
    ⟨.invalidByte 3 0x3d, by decide +kernel⟩
  obtain ⟨fault, hfault⟩ := hrefused
  have herror : decodeEnvelope .interaction "e30==" =
      .error ⟨.interaction, .notBase64 "e30==" fault⟩ := by
    rw [decodeEnvelope, hfault]
    rfl
  exact ⟨hpadded, hbare, hopen, hsame, ⟨fault, herror⟩,
    (refused_unless_spelled .interaction "e30==").1.mp ⟨_, herror, rfl⟩⟩

end CardService.Payload
