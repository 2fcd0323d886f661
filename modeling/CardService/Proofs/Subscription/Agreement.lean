import CardService.Proofs.Backend.Answers
import CardService.Proofs.Outcome
import CardService.Subscription.Update

/-!
# CardService — funding sources, pushed and asked for

A funding source reaches a client in two ways: a watch hears of it in an update, and a change of a
funding source is answered with it (`SourceChange`). The two ways read responses apart from each
other. They agree on every response, but for the field under which they look.

Main results:

* `SourceChange.exists_operation_eq_iff` — these changes are all the operations that cannot do
  without one funding source for an answer.
* `pushed_as_answered` — the same response gives the same funding source in both ways, or failures
  of the same kind.
-/

namespace CardService.Backend

open Subscription (updateField recordOfUpdate sourceOfUpdate)

/-! ## Changes -/

/-- A change that is answered with the funding source it was made to. -/
inductive SourceChange where
  | complete (request : CompleteRequest)
  | refresh (request : RefreshRequest)
  | cancel (id : FundingSourceId)
  | reviewUnfunded (id : FundingSourceId)

namespace SourceChange

def operation : SourceChange → Operation
  | .complete request => .completeFundingSource request
  | .refresh request => .refreshFundingSource request
  | .cancel id => .cancelFundingSource id
  | .reviewUnfunded id => .reviewUnfundedFundingSource id

/-- The root field of the answer. -/
def field (change : SourceChange) : String := change.operation.document.field

/-- The result of the operation. -/
def result (answer : Except Failure Response) : SourceChange → Except Failure FundingSource
  | .complete request => (Operation.completeFundingSource request).readResult answer
  | .refresh request => (Operation.refreshFundingSource request).readResult answer
  | .cancel id => (Operation.cancelFundingSource id).readResult answer
  | .reviewUnfunded id => (Operation.reviewUnfundedFundingSource id).readResult answer

/-- No other operation is answered with one funding source that has to be there. -/
theorem exists_operation_eq_iff (op : Operation) :
    (∃ change : SourceChange, change.operation = op) ↔
      op.resource = .fundingSource ∧ op.arity = .one := by
  constructor
  · rintro ⟨change, rfl⟩
    cases change <;> exact ⟨rfl, rfl⟩
  · rintro ⟨hresource, harity⟩
    cases op with
    | completeFundingSource request => exact ⟨.complete request, rfl⟩
    | refreshFundingSource request => exact ⟨.refresh request, rfl⟩
    | cancelFundingSource id => exact ⟨.cancel id, rfl⟩
    | reviewUnfundedFundingSource id => exact ⟨.reviewUnfunded id, rfl⟩
    | getFundingSource | listFundingSources => cases harity
    | _ => cases hresource

variable {change : SourceChange} {data : Json}

/-- All of them read their answer in one way. -/
theorem result_of_response (change : SourceChange) (response : Response) :
    change.result (.ok response) =
      (readRoot change.operation.document FundingSourceRecord.shape response >>=
        Arity.one.settle change.field) >>= FundingSource.ofRecord := by
  cases change <;> rfl

theorem result_of_errors {data : Option Json} {e : ErrorRecord} {rest : List ErrorRecord} :
    change.result (.ok ⟨data, e :: rest⟩) = .error (.ofBackend e) :=
  change.result_of_response _

theorem result_of_dataless :
    change.result (.ok ⟨none, []⟩) =
      .error (.unexpected (.noData change.operation.document.name)) :=
  change.result_of_response _

theorem result_of_lacks (hroot : rootValue? change.field data = none) :
    change.result (.ok ⟨some data, []⟩) = .error (.unexpected (.nullField change.field)) := by
  rw [field] at hroot
  rw [result_of_response, readRoot]
  simp only [hroot]
  rfl

section Held

variable {value : Json}

theorem result_of_read {record : FundingSourceRecord}
    (hroot : rootValue? change.field data = some value)
    (hread : FundingSourceRecord.shape.ofJson value = .ok record) :
    change.result (.ok ⟨some data, []⟩) = FundingSource.ofRecord record := by
  rw [field] at hroot
  rw [result_of_response, readRoot]
  simp only [hroot, hread]
  rw [Except.ok_bind, Arity.settle, Except.ok_bind]

theorem result_of_misshapen {mismatch : Record.Mismatch}
    (hroot : rootValue? change.field data = some value)
    (hread : FundingSourceRecord.shape.ofJson value = .error mismatch) :
    change.result (.ok ⟨some data, []⟩) =
      .error (.unexpected (.misshapen change.field mismatch)) := by
  rw [field] at hroot
  rw [result_of_response, readRoot]
  simp only [hroot, hread]
  rfl

end Held

end SourceChange

/-! ## Updates -/

section Update

variable {response : Response} {data value : Json}

theorem sourceOfUpdate_of_record {record : FundingSourceRecord}
    (hrecord : recordOfUpdate response = .ok record) :
    sourceOfUpdate response = FundingSource.ofRecord record := by
  rw [sourceOfUpdate, hrecord, Except.ok_bind]

theorem sourceOfUpdate_of_error {failure : Failure}
    (hrecord : recordOfUpdate response = .error failure) :
    sourceOfUpdate response = .error failure := by
  rw [sourceOfUpdate, hrecord, Except.error_bind]

theorem recordOfUpdate_of_lacks (hroot : rootValue? updateField data = none) :
    recordOfUpdate ⟨some data, []⟩ = .error (.unexpected (.emptyUpdate updateField)) := by
  rw [recordOfUpdate, Option.bind_some, hroot]

theorem recordOfUpdate_of_holds (hroot : rootValue? updateField data = some value) :
    recordOfUpdate ⟨some data, []⟩ =
      (FundingSourceRecord.shape.ofJson value).mapError fun mismatch =>
        .unexpected (.misshapen updateField mismatch) := by
  rw [recordOfUpdate, Option.bind_some, hroot]

end Update

/-! ## Responses under other fields -/

/-- Two responses with the same errors that hold the same, the first under one field and the second
under another. -/
inductive Response.Moved (field field' : String) : Response → Response → Prop where
  | dataless (errors : List ErrorRecord) : Moved field field' ⟨none, errors⟩ ⟨none, errors⟩
  | data (errors : List ErrorRecord) {data data' : Json}
      (hsame : ∀ value, HoldsAt field data value ↔ HoldsAt field' data' value) :
      Moved field field' ⟨some data, errors⟩ ⟨some data', errors⟩

/-- A key, with two names exchanged. -/
def exchangeKey (field field' key : String) : String :=
  if key = field then field' else if key = field' then field else key

/-- The members of an object, with two names exchanged. -/
def exchangeKeys (field field' : String) (members : Members) : Members :=
  members.map fun (key, value) => (exchangeKey field field' key, value)

/-- The same data with two fields exchanged; what is no object has no fields. -/
def exchangeFields (field field' : String) : Json → Json
  | .object members => .object (exchangeKeys field field' members)
  | data => data

/-- The same response with two fields of its data exchanged. -/
def Response.exchanged (field field' : String) (response : Response) : Response :=
  { response with data := response.data.map (exchangeFields field field') }

section Exchange

variable {field field' : String}

theorem exchangeKey_eq_iff {key : String} :
    exchangeKey field field' key = field' ↔ key = field := by
  unfold exchangeKey
  by_cases hkey : key = field
  · rw [if_pos hkey]
    exact ⟨fun _ => hkey, fun _ => rfl⟩
  · rw [if_neg hkey]
    by_cases hkey' : key = field'
    · -- this key gets the first name, which is its own only if the two names are one
      rw [if_pos hkey', hkey']
      exact eq_comm
    · rw [if_neg hkey']
      exact ⟨fun h => absurd h hkey', fun h => absurd h hkey⟩

theorem get?_exchangeKeys (members : Members) :
    (exchangeKeys field field' members).get? field' = members.get? field := by
  induction members with
  | nil => rfl
  | cons member rest ih =>
    obtain ⟨key, value⟩ := member
    have hkey : (field' == exchangeKey field field' key) = (field == key) := by
      rw [Bool.eq_iff_iff, beq_iff_eq, beq_iff_eq, eq_comm, exchangeKey_eq_iff, eq_comm]
    show List.lookup field' ((exchangeKey field field' key, value) :: exchangeKeys _ _ rest) =
      List.lookup field ((key, value) :: rest)
    rw [List.lookup_cons, List.lookup_cons, hkey]
    cases field == key with
    | true => rfl
    | false => exact ih

theorem holdsAt_exchangeFields {data value : Json} :
    HoldsAt field' (exchangeFields field field' data) value ↔ HoldsAt field data value := by
  constructor
  · intro hholds
    cases data with
    | object members =>
      obtain ⟨hget, hvalue⟩ := hholds
      rw [get?_exchangeKeys] at hget
      exact .member hget hvalue
    | _ => cases hholds
  · rintro ⟨hget, hvalue⟩
    refine .member ?_ hvalue
    rw [get?_exchangeKeys, hget]

/-- Every response can be given under another field. -/
theorem Response.moved_exchanged (field field' : String) (response : Response) :
    Moved field field' response (response.exchanged field field') := by
  obtain ⟨data, errors⟩ := response
  cases data with
  | none => exact .dataless errors
  | some data => exact .data errors fun value => holdsAt_exchangeFields.symm

end Exchange

/-! ## Agreement -/

/-- Results that agree: they are the same, or both are failures for a response that makes no sense.
They have to be the same where `exact` holds. -/
inductive Concord (exact : Prop) :
    Except Failure FundingSource → Except Failure FundingSource → Prop where
  | same (result : Except Failure FundingSource) : Concord exact result result
  | senseless (hinexact : ¬ exact) (cause cause' : UnexpectedResponse) :
      Concord exact (.error (.unexpected cause)) (.error (.unexpected cause'))

variable {change : SourceChange} {response response' : Response}

/-- The backend reports an error, or the record of a funding source can be read. -/
def Settled (response : Response) : Prop :=
  response.errors ≠ [] ∨ ∃ record, recordOfUpdate response = .ok record

theorem not_settled {data : Option Json} {failure : Failure}
    (hrecord : recordOfUpdate ⟨data, []⟩ = .error failure) : ¬ Settled ⟨data, []⟩ := by
  rintro (herrors | ⟨record, hread⟩)
  · exact herrors rfl
  · rw [hrecord] at hread
    cases hread

/-- What is read from a response does not depend on the way it came. -/
theorem concord_of_moved (hmoved : Response.Moved updateField change.field response response') :
    Concord (Settled response) (sourceOfUpdate response) (change.result (.ok response')) := by
  cases hmoved with
  | dataless errors =>
    cases errors with
    | nil =>
      have hrecord : recordOfUpdate ⟨none, []⟩ = .error (.unexpected (.emptyUpdate updateField)) :=
        rfl
      rw [sourceOfUpdate_of_error hrecord, SourceChange.result_of_dataless]
      exact .senseless (not_settled hrecord) _ _
    | cons e rest =>
      have hrecord : recordOfUpdate ⟨none, e :: rest⟩ = .error (.ofBackend e) := rfl
      rw [sourceOfUpdate_of_error hrecord, SourceChange.result_of_errors]
      exact .same _
  | @data errors data data' hsame =>
    cases errors with
    | nil =>
      have hmoved := rootValue?_congr hsame
      cases hroot : rootValue? updateField data with
      | none =>
        have hrecord := recordOfUpdate_of_lacks hroot
        rw [sourceOfUpdate_of_error hrecord, SourceChange.result_of_lacks (hmoved ▸ hroot)]
        exact .senseless (not_settled hrecord) _ _
      | some value =>
        have hrecord := recordOfUpdate_of_holds hroot
        rw [hmoved] at hroot
        cases hread : FundingSourceRecord.shape.ofJson value with
        | ok record =>
          rw [hread] at hrecord
          rw [sourceOfUpdate_of_record hrecord, SourceChange.result_of_read hroot hread]
          exact .same _
        | error mismatch =>
          -- the two failures name different fields, and are the same but for that
          rw [hread] at hrecord
          rw [sourceOfUpdate_of_error hrecord, SourceChange.result_of_misshapen hroot hread]
          exact .senseless (not_settled hrecord) _ _
    | cons e rest =>
      have hrecord : recordOfUpdate ⟨some data, e :: rest⟩ = .error (.ofBackend e) := rfl
      rw [sourceOfUpdate_of_error hrecord, SourceChange.result_of_errors]
      exact .same _

/-- Every response can be given as an update and as the answer to a change, and then either both
give the same funding source or both fail for reasons of the same kind. The two failures are the
same if the backend reports an error, and also if the record of a funding source can be read and
does not make one. -/
theorem pushed_as_answered (change : SourceChange) (response : Response) :
    Response.Moved updateField change.field response
      (response.exchanged updateField change.field) ∧
    ∀ response', Response.Moved updateField change.field response response' →
      (∀ source, sourceOfUpdate response = .ok source ↔
        change.result (.ok response') = .ok source) ∧
      (∀ failure, sourceOfUpdate response = .error failure →
        ∃ failure', change.result (.ok response') = .error failure' ∧
          failure'.kind = failure.kind) ∧
      ((response.errors ≠ [] ∨ ∃ record, recordOfUpdate response = .ok record) →
        sourceOfUpdate response = change.result (.ok response')) := by
  refine ⟨response.moved_exchanged _ _, fun response' hmoved => ?_⟩
  have hconcord := concord_of_moved hmoved
  generalize sourceOfUpdate response = pushed at hconcord ⊢
  generalize change.result (.ok response') = answered at hconcord ⊢
  cases hconcord with
  | same result => exact ⟨fun source => Iff.rfl, fun failure h => ⟨failure, h, rfl⟩, fun _ => rfl⟩
  | senseless hinexact cause cause' =>
    refine ⟨fun source => ⟨nofun, nofun⟩, ?_, fun hexact => absurd hexact hinexact⟩
    rintro failure ⟨⟩
    exact ⟨_, rfl, rfl⟩

/-- A response with a funding source under the field of updates. -/
def updateOfCard : Response where
  data := some (.object [(updateField, .object [("__typename", .string "CreditCardFundingSource"),
    ("id", .string "fs-1"), ("owner", .string "o-1"), ("version", .ofUInt32 3),
    ("createdAtEpochMs", .ofInt64 1000), ("updatedAtEpochMs", .ofInt64 2500),
    ("state", .string "INACTIVE"), ("currency", .string "USD"), ("last4", .string "4242"),
    ("network", .string "VISA"), ("cardType", .string "CREDIT")])])
  errors := []

/-- The funding source in this response. -/
def updatedCard : FundingSource where
  id := ⟨"fs-1"⟩
  owner := ⟨"o-1"⟩
  version := 3
  createdAt := ⟨1000000000, by decide⟩
  updatedAt := ⟨2500000000, by decide⟩
  state := .inactive
  flags := []
  currency := "USD"
  transactionVelocity := none
  last4 := "4242"
  account := .creditCard .visa .credit

theorem sourceOfUpdate_updateOfCard : sourceOfUpdate updateOfCard = .ok updatedCard :=
  Except.toOption_eq_some_iff.mp (by decide +kernel)

theorem pushed_as_answered_cancelled :
    sourceOfUpdate updateOfCard = .ok updatedCard ∧
      (SourceChange.cancel ⟨"fs-1"⟩).result
        (.ok (updateOfCard.exchanged updateField "cancelFundingSource")) = .ok updatedCard := by
  obtain ⟨hmoved, hagree⟩ := pushed_as_answered (.cancel ⟨"fs-1"⟩) updateOfCard
  exact ⟨sourceOfUpdate_updateOfCard,
    ((hagree _ hmoved).1 updatedCard).mp sourceOfUpdate_updateOfCard⟩

end CardService.Backend
