import CardService.Failure
import CardService.Proofs.Payload.Disclosure

/-!
# CardService — failures of backend errors

The type of an error decides what becomes of it, and its beginning decides where it is looked up. One
type only makes something of the info that comes with an error (`interactionType`): the one that asks
for an action of the user. All others pass it over (`ofBackend_congr`).

The failure that such an error becomes says of the payload in its info what is shown of it, and no
more (`ofPayload_message_eq_iff`).
-/

namespace CardService.Failure

variable {beginning text rest : String}

/-- What is left behind a beginning is what it has to be followed by. -/
theorem behind?_eq_some_iff : behind? beginning text = some rest ↔ text = beginning ++ rest := by
  unfold behind?
  constructor
  · intro hbehind
    split at hbehind
    · next hbegins =>
      obtain ⟨more, hmore⟩ := List.isPrefixOf_iff_prefix.mp hbegins
      rw [← hmore, List.drop_left, Option.some.injEq] at hbehind
      rw [← hbehind, ← String.toList_inj, String.toList_append, String.toList_ofList, hmore]
    · cases hbehind
  · rintro rfl
    have hbegins : beginning.toList.isPrefixOf (beginning ++ rest).toList := by
      rw [String.toList_append]
      exact List.isPrefixOf_iff_prefix.mpr (List.prefix_append _ _)
    rw [if_pos hbegins, String.toList_append, List.drop_left, String.ofList_toList]

/-- The type of the error that asks for an action of the user. -/
def interactionType : String := servicePrefix ++ interactionError

variable {message : String} {errorType : Option String} {info info' : Option Json}

theorem ofBackend_interaction :
    ofBackend ⟨message, some interactionType, info⟩ = ofInteraction info := by
  have hbehind : behind? servicePrefix interactionType = some interactionError :=
    behind?_eq_some_iff.mpr rfl
  have hlookup : ofErrorType? interactionType message info = some (ofInteraction info) := by
    rw [ofErrorType?, hbehind]
    simp only [if_true]
  rw [ofBackend, Option.bind_some, hlookup]

/-- Errors of all other types are not asked for their info. -/
theorem ofBackend_congr (htype : errorType ≠ some interactionType) :
    ofBackend ⟨message, errorType, info⟩ = ofBackend ⟨message, errorType, info'⟩ := by
  cases errorType with
  | none => rfl
  | some known =>
    have hlookup : ofErrorType? known message info = ofErrorType? known message info' := by
      rw [ofErrorType?, ofErrorType?]
      cases hbehind : behind? servicePrefix known with
      | none => rfl
      | some name =>
        -- behind the beginning of the service stands the rest of the type, so one type only has this name
        have hname : name ≠ interactionError := by
          rintro rfl
          exact htype (congrArg some (behind?_eq_some_iff.mp hbehind))
        simp only [if_neg hname]
    rw [ofBackend, ofBackend, Option.bind_some, Option.bind_some, hlookup]

/-! ## What failures say of payloads -/

open Payload (interactionIn ShownAlike)

/-- The failure that an error with a payload becomes. -/
def ofPayload (raw : String) : Failure :=
  match interactionIn raw with
  | .ok data => .interactionRequired data
  | .error e => .decode e

theorem ofInteraction_of_carries {info : Json} {raw : String} (h : Payload.Carries info raw) :
    ofInteraction (some info) = ofPayload raw := by
  rw [ofInteraction, Option.getD_some, h.decodeInteraction]
  unfold ofPayload
  cases interactionIn raw <;> rfl

/-- To ask for an action is not to refuse anything. -/
theorem message_interactionRequired_ne (data : Payload.InteractionData) {e : Payload.DecodeError}
    (hpipeline : e.pipeline = .interaction) :
    (interactionRequired data).message ≠ (decode e).message := by
  intro h
  -- the first letters of the two messages differ: one speaks of a funding source, the other of an error
  have hheads := congrArg (fun text => text.toList.head?) h
  have hleft : (interactionRequired data).message.toList.head? = some 'f' := by
    show "funding source requires user interaction".toList.head? = some 'f'
    decide +kernel
  have hright : (decode e).message.toList.head? = some 'e' := by
    show (e.pipeline.banner ++ ": " ++ e.detail).toList.head? = some 'e'
    rw [hpipeline, String.toList_append, String.toList_append, List.append_assoc,
      List.head?_append]
    have hbanner : (Payload.Pipeline.banner .interaction).toList.head? = some 'e' := by
      decide +kernel
    rw [hbanner, Option.some_or]
  simp only [hleft, hright] at hheads
  exact absurd hheads (by decide)

/-- Two payloads become failures with the same message if and only if they are shown alike. -/
theorem ofPayload_message_eq_iff {raw raw' : String} :
    (ofPayload raw).message = (ofPayload raw').message ↔ ShownAlike raw raw' := by
  -- a message starts with the words of its pipeline, which is the same for all of them
  have hpipeline : ∀ raw e, interactionIn raw = .error e → e.pipeline = .interaction :=
    fun _ _ h => Payload.decodeInteraction_pipeline h
  unfold ofPayload
  cases h : interactionIn raw with
  | ok data =>
    cases h' : interactionIn raw' with
    | ok data' => exact ⟨fun _ => .decoded h h', fun _ => rfl⟩
    | error e' =>
      constructor
      · intro hmessage
        exact absurd hmessage (message_interactionRequired_ne data (hpipeline _ _ h'))
      · rintro (⟨-, hok⟩ | ⟨herror, -, -⟩)
        · exact absurd (h'.symm.trans hok) (by simp)
        · exact absurd (h.symm.trans herror) (by simp)
  | error e =>
    cases h' : interactionIn raw' with
    | ok data' =>
      constructor
      · intro hmessage
        exact absurd hmessage.symm (message_interactionRequired_ne data' (hpipeline _ _ h))
      · rintro (⟨hok, -⟩ | ⟨-, herror, -⟩)
        · exact absurd (h.symm.trans hok) (by simp)
        · exact absurd (h'.symm.trans herror) (by simp)
    | error e' =>
      show e.message = e'.message ↔ _
      unfold Payload.DecodeError.message
      rw [hpipeline _ _ h, hpipeline _ _ h', String.append_right_inj]
      constructor
      · exact fun hdetail => .refused h h' hdetail
      · rintro (⟨hok, -⟩ | ⟨herror, herror', hdetail⟩)
        · exact absurd (h.symm.trans hok) (by simp)
        · obtain rfl := Except.error.inj (h.symm.trans herror)
          obtain rfl := Except.error.inj (h'.symm.trans herror')
          exact hdetail

end CardService.Failure
