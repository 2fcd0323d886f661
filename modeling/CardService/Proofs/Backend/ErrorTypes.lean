import CardService.Proofs.Backend.Failures

/-!
# CardService — the errors that are known

The backend reports an error by its type: a name behind one of two beginnings, of which one goes on
where the other ends. A name is known behind its own beginning only (`listing`). What becomes of an
error is told here by its type alone (`Reported`), with the info that comes along where the type asks
for it.

Main results:

* `ofBackend_eq_iff` — an error becomes the one failure that it is reported as.
* `beginning_of_listed` — a known name is found at the end of one other type, and of no more.
* `ofBackend_exact` — which types are known, what they become, and that no others are.
-/

namespace CardService.Failure

/-! ## The names -/

/-- The names of errors, each behind the beginning that it is known with, and the fault that it stands
for. The error that asks for an action of the user stands for none: its info has to be seen first. -/
def listing : List (String × String × Option BackendFault) :=
  (servicePrefix, interactionError, none) ::
    (BackendFault.ofService.map (fun (name, fault) => (servicePrefix, name, some fault)) ++
      BackendFault.ofPlatform.map fun (name, fault) => (platformPrefix, name, some fault))

theorem mem_listing_some_iff {own name : String} {fault : BackendFault} :
    (own, name, some fault) ∈ listing ↔
      (own = servicePrefix ∧ (name, fault) ∈ BackendFault.ofService) ∨
        (own = platformPrefix ∧ (name, fault) ∈ BackendFault.ofPlatform) := by
  simp only [listing, List.mem_cons, List.mem_append, List.mem_map, Prod.exists, Prod.mk.injEq,
    reduceCtorEq, and_false, false_or, Option.some.injEq]
  constructor
  · rintro (⟨_, _, hmem, rfl, rfl, rfl⟩ | ⟨_, _, hmem, rfl, rfl, rfl⟩)
    · exact .inl ⟨rfl, hmem⟩
    · exact .inr ⟨rfl, hmem⟩
  · rintro (⟨rfl, hmem⟩ | ⟨rfl, hmem⟩)
    · exact .inl ⟨name, fault, hmem, rfl, rfl, rfl⟩
    · exact .inr ⟨name, fault, hmem, rfl, rfl, rfl⟩

/-- The failure that an error is reported as: of a type that is not listed, an unknown one that keeps
type and message; of the type that asks for an action, the action, or why its data is refused; and of
every other type the fault that is listed, in the words of the backend. -/
inductive Reported (e : Backend.ErrorRecord) : Failure → Prop
  | unknown (unlisted : ∀ own name meaning, (own, name, meaning) ∈ listing →
        e.errorType ≠ some (own ++ name)) :
      Reported e (.unknown e.errorType e.message)
  | asked {data : Payload.InteractionData} (typed : e.errorType = some interactionType)
      (decoded : Payload.decodeInteraction (e.errorInfo.getD .null) = .ok data) :
      Reported e (.interactionRequired data)
  | refused {error : Payload.DecodeError} (typed : e.errorType = some interactionType)
      (undecoded : Payload.decodeInteraction (e.errorInfo.getD .null) = .error error) :
      Reported e (.decode error)
  | named {own name : String} {fault : BackendFault} (listed : (own, name, some fault) ∈ listing)
      (typed : e.errorType = some (own ++ name)) :
      Reported e (.backend fault e.message)

/-! ## Looking up -/

section Lookup

variable {name message : String} {fault : BackendFault} {info : Option Json}

/-- A table finds nothing that it does not list. -/
theorem lookup_eq_none {table : List (String × BackendFault)}
    (h : ∀ fault, (name, fault) ∉ table) : table.lookup name = none := by
  refine Option.eq_none_iff_forall_ne_some.mpr fun fault hlookup => h fault ?_
  obtain ⟨before, after, rfl, -⟩ := List.lookup_eq_some_iff.mp hlookup
  exact List.mem_append_right _ List.mem_cons_self

theorem lookup_ofService : ∀ entry ∈ BackendFault.ofService,
    entry.1 ≠ interactionError ∧ BackendFault.ofService.lookup entry.1 = some entry.2 := by
  decide

/-- No name of the platform goes on like the beginning of the service. -/
theorem lookup_ofPlatform : ∀ entry ∈ BackendFault.ofPlatform,
    behind? servicePrefix (platformPrefix ++ entry.1) = none ∧
      BackendFault.ofPlatform.lookup entry.1 = some entry.2 := by
  decide +kernel

theorem ofErrorType?_of_mem_ofService (h : (name, fault) ∈ BackendFault.ofService) :
    ofErrorType? (servicePrefix ++ name) message info = some (.backend fault message) := by
  obtain ⟨hname, hlookup⟩ := lookup_ofService _ h
  have hbehind : behind? servicePrefix (servicePrefix ++ name) = some name :=
    behind?_eq_some_iff.mpr rfl
  rw [ofErrorType?, hbehind]
  simp only [if_neg hname, hlookup, Option.map_some]

theorem ofErrorType?_of_mem_ofPlatform (h : (name, fault) ∈ BackendFault.ofPlatform) :
    ofErrorType? (platformPrefix ++ name) message info = some (.backend fault message) := by
  obtain ⟨hservice, hlookup⟩ := lookup_ofPlatform _ h
  have hbehind : behind? platformPrefix (platformPrefix ++ name) = some name :=
    behind?_eq_some_iff.mpr rfl
  rw [ofErrorType?, hservice]
  simp only [hbehind, Option.bind_some, hlookup, Option.map_some]

/-- A type is not known unless it is a listed name behind its own beginning. -/
theorem ofErrorType?_of_unlisted {errorType : String}
    (h : ∀ own name meaning, (own, name, meaning) ∈ listing → errorType ≠ own ++ name) :
    ofErrorType? errorType message info = none := by
  rw [ofErrorType?]
  cases hservice : behind? servicePrefix errorType with
  | some name =>
    -- behind the beginning of the service, only the names of the service are looked for
    have htype := behind?_eq_some_iff.mp hservice
    have hname : name ≠ interactionError := by
      rintro rfl
      exact h _ _ _ List.mem_cons_self htype
    have hlookup : BackendFault.ofService.lookup name = none := lookup_eq_none fun _ hmem =>
      h _ _ _ (mem_listing_some_iff.mpr (.inl ⟨rfl, hmem⟩)) htype
    simp only [if_neg hname, hlookup, Option.map_none]
  | none =>
    cases hplatform : behind? platformPrefix errorType with
    | none => rfl
    | some name =>
      have htype := behind?_eq_some_iff.mp hplatform
      have hlookup : BackendFault.ofPlatform.lookup name = none := lookup_eq_none fun _ hmem =>
        h _ _ _ (mem_listing_some_iff.mpr (.inr ⟨rfl, hmem⟩)) htype
      simp only [Option.bind_some, hlookup, Option.map_none]

end Lookup

/-! ## Failures -/

variable {e : Backend.ErrorRecord} {failure : Failure}

theorem Reported.ofBackend_eq (h : Reported e failure) : ofBackend e = failure := by
  obtain ⟨message, errorType, info⟩ := e
  cases h with
  | unknown unlisted =>
    cases errorType with
    | none => rfl
    | some known =>
      have hnone : ofErrorType? known message info = none :=
        ofErrorType?_of_unlisted fun own name meaning hmem htype =>
          unlisted own name meaning hmem (congrArg some htype)
      rw [ofBackend, Option.bind_some, hnone]
  | asked typed decoded =>
    obtain rfl : errorType = some interactionType := typed
    rw [ofBackend_interaction, ofInteraction, decoded]
  | refused typed undecoded =>
    obtain rfl : errorType = some interactionType := typed
    rw [ofBackend_interaction, ofInteraction, undecoded]
  | @named own name fault listed typed =>
    obtain rfl : errorType = some (own ++ name) := typed
    rcases mem_listing_some_iff.mp listed with ⟨rfl, hmem⟩ | ⟨rfl, hmem⟩
    · rw [ofBackend, Option.bind_some, ofErrorType?_of_mem_ofService hmem]
    · rw [ofBackend, Option.bind_some, ofErrorType?_of_mem_ofPlatform hmem]

theorem exists_reported (e : Backend.ErrorRecord) : ∃ failure, Reported e failure := by
  by_cases hlisted : ∃ own name meaning, (own, name, meaning) ∈ listing ∧
      e.errorType = some (own ++ name)
  · obtain ⟨own, name, meaning, hmem, htype⟩ := hlisted
    cases meaning with
    | some fault => exact ⟨_, .named hmem htype⟩
    | none =>
      -- only the error that asks for an action stands for no fault
      have hasks : (own, name) = (servicePrefix, interactionError) := by
        simpa [listing] using hmem
      obtain ⟨rfl, rfl⟩ := Prod.mk.inj hasks
      cases hdecoded : Payload.decodeInteraction (e.errorInfo.getD .null) with
      | ok data => exact ⟨_, .asked htype hdecoded⟩
      | error error => exact ⟨_, .refused htype hdecoded⟩
  · exact ⟨_, .unknown fun own name meaning hmem htype =>
      hlisted ⟨own, name, meaning, hmem, htype⟩⟩

/-- What becomes of an error is what it is reported as. -/
theorem ofBackend_eq_iff : ofBackend e = failure ↔ Reported e failure := by
  refine ⟨?_, Reported.ofBackend_eq⟩
  rintro rfl
  obtain ⟨failure, hreported⟩ := exists_reported e
  rwa [hreported.ofBackend_eq]

/-! ## Other beginnings -/

/-- One listed name is the end of another, and this is the only one that is. -/
theorem eq_of_suffix : ∀ entry ∈ listing, ∀ other ∈ listing,
    other.2.1.toList <:+ entry.2.1.toList → other = entry ∨
      (other.2.1 = "FundingSourceNotFoundError" ∧ entry.1 = servicePrefix ∧
        entry.2.1 = "Provisional" ++ "FundingSourceNotFoundError") := by
  decide +kernel

/-- What stands in front of a listed name within a listed name is nothing, but for the longer one of
the two names of which one is the end of the other. -/
theorem front_of_listed {own name own' name' : String} {meaning meaning' : Option BackendFault}
    {front : List Char} (hlisted : (own, name, meaning) ∈ listing)
    (hlisted' : (own', name', meaning') ∈ listing) (hname : name.toList = front ++ name'.toList) :
    (own' = own ∧ name' = name) ∨
      (own = servicePrefix ∧ name' = "FundingSourceNotFoundError" ∧
        front = "Provisional".toList) := by
  rcases eq_of_suffix _ hlisted _ hlisted' ⟨front, hname.symm⟩ with hsame | ⟨hshort, hown, hlong⟩
  · obtain ⟨hown, hrest⟩ := Prod.mk.inj hsame
    exact .inl ⟨hown, (Prod.mk.inj hrest).1⟩
  · have hshort : name' = "FundingSourceNotFoundError" := hshort
    have hlong : name = "Provisional" ++ "FundingSourceNotFoundError" := hlong
    rw [hshort, hlong, String.toList_append] at hname
    exact .inr ⟨hown, hshort, (List.append_cancel_right hname).symm⟩

theorem getLast?_beginning : ∀ entry ∈ listing, entry.1.toList.getLast? = some '.' := by
  decide +kernel

/-- Where a listed name stands behind anything but its own beginning, the whole is no listed type,
with one exception: the name that is the end of another one. -/
theorem beginning_of_listed {own name other own' name' : String}
    {meaning meaning' : Option BackendFault} (hlisted : (own, name, meaning) ∈ listing)
    (hlisted' : (own', name', meaning') ∈ listing) (heq : other ++ name = own' ++ name') :
    other = own ∨
      (other = servicePrefix ++ "Provisional" ∧ name = "FundingSourceNotFoundError") := by
  have hlists := congrArg String.toList heq
  rw [String.toList_append, String.toList_append] at hlists
  -- the shorter one of the two names is the end of the other
  rcases List.append_eq_append_iff.mp hlists with ⟨front, hown, hname⟩ | ⟨front, hother, hname⟩
  · rcases front_of_listed hlisted hlisted' hname with ⟨rfl, rfl⟩ | ⟨-, -, hfront⟩
    · exact .inl (String.append_left_inj name' |>.mp heq)
    · -- then a listed beginning would end in the middle of the longer name
      have hlast := getLast?_beginning _ hlisted'
      rw [hown, hfront, List.getLast?_append_of_ne_nil _ (by decide)] at hlast
      exact absurd hlast (by decide)
  · rcases front_of_listed hlisted' hlisted hname with ⟨rfl, rfl⟩ | ⟨hservice, hshort, hfront⟩
    · exact .inl (String.append_left_inj name |>.mp heq)
    · have hlonger : other = servicePrefix ++ "Provisional" := by
        rw [← String.toList_inj, hother, hfront, hservice, String.toList_append]
      exact .inr ⟨hlonger, hshort⟩

/-- An error becomes the one failure that it is reported as. Only the type that asks for an action
makes anything of the info. A listed name behind another beginning than its own, or behind none, is
unknown; the one beginning with which it is not is that of a longer name, which is listed itself. -/
theorem ofBackend_exact (e : Backend.ErrorRecord) :
    (∀ failure, ofBackend e = failure ↔ Reported e failure) ∧
    (∀ info, e.errorType ≠ some interactionType →
      ofBackend { e with errorInfo := info } = ofBackend e) ∧
    (∀ own name meaning, (own, name, meaning) ∈ listing → ∀ other, other ≠ own →
      e.errorType = some (other ++ name) →
        ofBackend e = .unknown e.errorType e.message ∨
          (other = servicePrefix ++ "Provisional" ∧ name = "FundingSourceNotFoundError")) := by
  refine ⟨fun failure => ofBackend_eq_iff, fun info htype => ofBackend_congr htype, ?_⟩
  intro own name meaning hlisted other hother htype
  by_cases hlonger : other = servicePrefix ++ "Provisional" ∧ name = "FundingSourceNotFoundError"
  · exact .inr hlonger
  · refine .inl (ofBackend_eq_iff.mpr (.unknown fun own' name' meaning' hlisted' htype' => ?_))
    have heq := Option.some.inj (htype.symm.trans htype')
    exact (beginning_of_listed hlisted hlisted' heq).elim hother hlonger

/-- Names of the platform and of the service, each behind the other's beginning, and one behind none;
and both where they belong. -/
theorem ofBackend_exact_strays :
    ofBackend ⟨"boom", some "sudoplatform.virtual-cards.ServiceError", none⟩ =
        .unknown (some "sudoplatform.virtual-cards.ServiceError") "boom" ∧
      ofBackend ⟨"boom", some "sudoplatform.CardStateError", none⟩ =
        .unknown (some "sudoplatform.CardStateError") "boom" ∧
      ofBackend ⟨"boom", some "CardStateError", none⟩ =
        .unknown (some "CardStateError") "boom" ∧
      ofBackend ⟨"boom", some "sudoplatform.virtual-cards.CardStateError", some .null⟩ =
        .backend .cardState "boom" ∧
      ofBackend ⟨"boom", some "sudoplatform.ServiceError", none⟩ = .backend .serviceError "boom" := by
  have hservice : (platformPrefix, "ServiceError", some BackendFault.serviceError) ∈ listing := by
    decide
  have hstate : (servicePrefix, "CardStateError", some BackendFault.cardState) ∈ listing := by
    decide
  have hstray : ∀ other own name fault, (own, name, some fault) ∈ listing → other ≠ own →
      name ≠ "FundingSourceNotFoundError" →
      ofBackend ⟨"boom", some (other ++ name), none⟩ = .unknown (some (other ++ name)) "boom" :=
    fun other own name fault hlisted hother hname =>
      ((ofBackend_exact ⟨"boom", some (other ++ name), none⟩).2.2 own name _ hlisted other hother
        rfl).resolve_right fun hlonger => hname hlonger.2
  refine ⟨hstray servicePrefix _ _ _ hservice (by decide) (by decide),
    hstray platformPrefix _ _ _ hstate (by decide) (by decide),
    hstray "" _ _ _ hstate (by decide) (by decide), ?_, ?_⟩
  · exact ((ofBackend_exact _).1 _).mpr (.named hstate rfl)
  · exact ((ofBackend_exact _).1 _).mpr (.named hservice rfl)

end CardService.Failure
