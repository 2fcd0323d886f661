import CardService.Proofs.Backend.Failures
import CardService.Proofs.Subscription.Delivery

/-!
# CardService — what is written down of a payload

An update with an error is dropped, and the message of its failure is written down in full. Where the
error asks for an action of the user, the message shows the payload that came with it, if it is
refused. So what is written down depends on payloads, and tells them apart wherever their messages do
(`dropped_update_discloses`).
-/

namespace CardService.Subscription

open Payload (IsBase64 InteractionData ShownAlike)

/-! ## Updates with a payload -/

/-- All of an update but the payload of its first error. -/
structure PayloadFrame where
  data : Option Json
  message : String
  errorType : Option String
  /-- The members of the info in front of the payload, and behind it. -/
  front : Members
  back : Members
  rest : List Backend.ErrorRecord
  front_free : front.get? InteractionData.infoKey = none

namespace PayloadFrame

variable (frame : PayloadFrame) (raw : String)

/-- The info of the first error. -/
def info : Json :=
  .object (frame.front ++ (InteractionData.infoKey, .string raw) :: frame.back)

/-- The first error. -/
def error : Backend.ErrorRecord := ⟨frame.message, frame.errorType, some (frame.info raw)⟩

/-- The update with a payload in its place. -/
def fill : Backend.Response := ⟨frame.data, frame.error raw :: frame.rest⟩

/-- The failure for which the update is dropped. -/
def failure : Failure := .ofBackend (frame.error raw)

/-- What is written down of the update. -/
def note : Audit.SubscriptionEvent := ⟨none, .updateDropped, (frame.failure raw).message⟩

theorem carries_info : Payload.Carries (frame.info raw) raw := by
  refine ⟨_, rfl, ?_⟩
  have hfront : List.lookup InteractionData.infoKey frame.front = none := frame.front_free
  show List.lookup _ (frame.front ++ _ :: frame.back) = _
  rw [List.lookup_append, hfront, Option.none_or, List.lookup_cons_self]

variable {frame : PayloadFrame} {raw raw' : String}

/-- An error that asks for an action of the user fails as its payload does. -/
theorem failure_of_interaction (htype : frame.errorType = some Failure.interactionType) :
    frame.failure raw = Failure.ofPayload raw := by
  rw [failure, error, htype, Failure.ofBackend_interaction,
    Failure.ofInteraction_of_carries (frame.carries_info raw)]

/-- What is written down tells two payloads apart, unless the error does not ask for an action of the
user or the payloads are shown alike. -/
theorem note_eq_iff :
    frame.note raw = frame.note raw' ↔
      frame.errorType ≠ some Failure.interactionType ∨ ShownAlike raw raw' := by
  -- apart from the message of the failure, notes do not depend on the update at all
  have hmessage : frame.note raw = frame.note raw' ↔
      (frame.failure raw).message = (frame.failure raw').message := by
    rw [note, note, Audit.SubscriptionEvent.mk.injEq]
    exact ⟨fun h => h.2.2, fun h => ⟨rfl, rfl, h⟩⟩
  rw [hmessage]
  by_cases htype : frame.errorType = some Failure.interactionType
  · rw [failure_of_interaction htype, failure_of_interaction htype,
      Failure.ofPayload_message_eq_iff]
    exact ⟨.inr, fun h => h.resolve_left (absurd htype)⟩
  · have hsame : frame.failure raw = frame.failure raw' := Failure.ofBackend_congr htype
    rw [hsame]
    exact ⟨fun _ => .inl htype, fun _ => rfl⟩

end PayloadFrame

namespace Hub

variable {World Handler : Type} {around : Surroundings World Handler}
variable {s : Station World Handler}

/-- An update with an error leaves one note behind, and does nothing else. Its note tells payloads
apart unless they are shown alike, or the error is not the one that asks for an action of the user.
Payloads that are no Base64 are refused for the same kind of failure, and each is written down in
full. -/
theorem dropped_update_discloses (hlawful : Lawful around) {start : Station World Handler}
    {past : List (Deed Handler)} (hempty : start.hub = .empty)
    (hcourse : Course around start past s) {current : Watch}
    (hrunning : s.hub.running = some current) (frame : PayloadFrame) :
    (∀ raw, hear around current.mark (.update (frame.fill raw)) s =
      ((), { s with world := (around.audit (frame.note raw) s.world).2 })) ∧
    (∀ raw raw', frame.note raw = frame.note raw' ↔
      frame.errorType ≠ some Failure.interactionType ∨ ShownAlike raw raw') ∧
    (frame.errorType = some Failure.interactionType →
      ∀ raw raw', ¬ IsBase64 raw → ¬ IsBase64 raw' →
        (frame.failure raw).kind = (frame.failure raw').kind ∧
        (frame.note raw = frame.note raw' ↔ raw = raw')) := by
  -- the running watch is listened to, so that its updates get through
  have hwired : Wired around s.hub := hcourse.wired hlawful.reticent (hempty ▸ wired_empty)
  refine ⟨fun raw => ?_, fun raw raw' => PayloadFrame.note_eq_iff, fun htype raw raw' hraw hraw' => ?_⟩
  · have hdropped : sourceOfUpdate (frame.fill raw) = .error (frame.failure raw) :=
      sourceOfUpdate_of_errors rfl
    rw [hear_of_live (hwired.running_live current hrunning), route]
    simp only [hdropped]
    rfl
  · obtain ⟨fault, hfault⟩ := Payload.interactionIn_of_not_isBase64 hraw
    obtain ⟨fault', hfault'⟩ := Payload.interactionIn_of_not_isBase64 hraw'
    refine ⟨?_, ?_⟩
    · rw [PayloadFrame.failure_of_interaction htype, PayloadFrame.failure_of_interaction htype,
        Failure.ofPayload, Failure.ofPayload, hfault, hfault']
      rfl
    · rw [PayloadFrame.note_eq_iff, Payload.shownAlike_iff_eq hraw hraw']
      exact ⟨fun h => h.resolve_left (absurd htype), .inr⟩

/-- An update with an error that asks for an action of the user, and with another one behind it. -/
def asking : PayloadFrame where
  data := none
  message := "more is needed"
  errorType := some Failure.interactionType
  front := [("code", .null)]
  back := []
  rest := [⟨"and more", none, none⟩]
  front_free := rfl

theorem diary_lawful : Lawful diary := lawful_of_alike fun _ _ s => .refl s.hub

theorem troubled_course : ∃ past, Course diary ⟨.empty, [], []⟩ past troubled :=
  ⟨_, (callAll_new diary_lawful.reticent [.subscribe ⟨"b"⟩ "owner" (.handler none),
    .subscribe ⟨"a"⟩ "owner" (.handler (some "full"))] [] []).1⟩

theorem troubled_running : troubled.hub.running = some ⟨"owner", 0⟩ := by decide

/-- Two texts that differ are told apart by what is written down of them. -/
theorem dropped_update_discloses_asking :
    Lawful diary ∧ (∃ past, Course diary ⟨.empty, [], []⟩ past troubled) ∧
      troubled.hub.running = some ⟨"owner", 0⟩ ∧ ¬ IsBase64 "secret!" ∧ ¬ IsBase64 "hidden?" ∧
      (hear diary 0 (.update (asking.fill "secret!")) troubled).2.world =
        [asking.note "secret!"] ∧
      asking.note "secret!" ≠ asking.note "hidden?" := by
  obtain ⟨past, hcourse⟩ := troubled_course
  have hsecret : ¬ IsBase64 "secret!" := by
    rintro ⟨bytes, hbytes⟩
    have herror : Base64.decode (Utf8.encode "secret!".toList) = .error (.invalidByte 6 0x21) := by
      decide +kernel
    exact absurd (herror.symm.trans hbytes) (by simp)
  have hhidden : ¬ IsBase64 "hidden?" := by
    rintro ⟨bytes, hbytes⟩
    have herror : Base64.decode (Utf8.encode "hidden?".toList) = .error (.invalidByte 6 0x3f) := by
      decide +kernel
    exact absurd (herror.symm.trans hbytes) (by simp)
  obtain ⟨hnoted, -, htold⟩ :=
    dropped_update_discloses diary_lawful rfl hcourse troubled_running asking
  refine ⟨diary_lawful, ⟨past, hcourse⟩, troubled_running, hsecret, hhidden, ?_, fun h => ?_⟩
  · have hheard : hear diary 0 (.update (asking.fill "secret!")) troubled = _ := hnoted "secret!"
    rw [hheard]
    rfl
  · have hsame := (htold rfl _ _ hsecret hhidden).2.mp h
    exact absurd hsame (by decide)

/-- Two updates at the same hub that differ in the payload only, are dropped for the same kind of
failure, and are written down differently. -/
theorem dropped_update_not_silent :
    Lawful diary ∧ (∃ past, Course diary ⟨.empty, [], []⟩ past troubled) ∧
      troubled.hub.running = some ⟨"owner", 0⟩ ∧
      (asking.failure "secret!").kind = "decode" ∧ (asking.failure "hidden?").kind = "decode" ∧
      (hear diary 0 (.update (asking.fill "secret!")) troubled).2.world =
        [⟨none, .updateDropped,
          "error info cannot be decoded as funding source interaction data: " ++
            "Base64 decoding failed: secret!: Invalid symbol 33, offset 6."⟩] ∧
      (hear diary 0 (.update (asking.fill "hidden?")) troubled).2.world =
        [⟨none, .updateDropped,
          "error info cannot be decoded as funding source interaction data: " ++
            "Base64 decoding failed: hidden?: Invalid symbol 63, offset 6."⟩] ∧
      (hear diary 0 (.update (asking.fill "secret!")) troubled).2.world ≠
        (hear diary 0 (.update (asking.fill "hidden?")) troubled).2.world := by
  have hsecret : (hear diary 0 (.update (asking.fill "secret!")) troubled).2.world =
      [⟨none, .updateDropped,
        "error info cannot be decoded as funding source interaction data: " ++
          "Base64 decoding failed: secret!: Invalid symbol 33, offset 6."⟩] := by
    decide +kernel
  have hhidden : (hear diary 0 (.update (asking.fill "hidden?")) troubled).2.world =
      [⟨none, .updateDropped,
        "error info cannot be decoded as funding source interaction data: " ++
          "Base64 decoding failed: hidden?: Invalid symbol 63, offset 6."⟩] := by
    decide +kernel
  refine ⟨diary_lawful, troubled_course, troubled_running, by decide +kernel, by decide +kernel,
    hsecret, hhidden, ?_⟩
  rw [hsecret, hhidden]
  decide +kernel

end Hub

end CardService.Subscription
