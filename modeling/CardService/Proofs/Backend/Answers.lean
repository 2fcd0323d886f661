import CardService.Backend.Operation

/-!
# CardService — what operations make of their answers

All operations read their answers by one table (`Operation.Answered`): a failure of the transport
comes before everything else, the first error of a response before its data, and the root field is
the only part of the data that is looked at. Operations differ in one respect only. A look-up by id
(`Operation.IsLookup`) may find nothing; all other operations need a root field.

Main results:

* `Operation.answered_iff` — an operation reads from an answer what the table says, and nothing else.
* `Operation.readRecords_congr` — answers that agree on what the table looks at are read alike.
-/

namespace CardService.Backend

/-! ## Root fields -/

/-- Data that holds a value in a field. Only objects hold anything, and `null` is no value. -/
inductive HoldsAt (field : String) : Json → Json → Prop where
  | member {members : Members} {value : Json} (hget : members.get? field = some value)
      (hvalue : value ≠ .null) : HoldsAt field (.object members) value

variable {field : String} {data data' value : Json}

theorem HoldsAt.ne_null (h : HoldsAt field data value) : value ≠ .null := by
  obtain ⟨hget, hvalue⟩ := h
  exact hvalue

theorem HoldsAt.get? (h : HoldsAt field data value) : data.get? field = some value := by
  obtain ⟨hget, hvalue⟩ := h
  exact hget

theorem rootValue?_eq_some_iff : rootValue? field data = some value ↔ HoldsAt field data value := by
  constructor
  · intro hroot
    have hget : data.get? field = some value ∧ value ≠ .null := by
      unfold rootValue? at hroot
      split at hroot
      · cases hroot
      · cases hroot
      · next found hfound hget =>
        cases hroot
        exact ⟨hget, hfound⟩
    -- nothing but an object has members
    cases data with
    | object members => exact .member hget.1 hget.2
    | null => cases hget.1
    | bool b => cases hget.1
    | number n => cases hget.1
    | string s => cases hget.1
    | array items => cases hget.1
  · intro hholds
    unfold rootValue?
    rw [hholds.get?]
    split
    · next hnone => cases hnone
    · next hnull => exact absurd (Option.some.inj hnull) hholds.ne_null
    · next found _ hfound => exact hfound.symm

theorem rootValue?_eq_none_iff :
    rootValue? field data = none ↔ ∀ value, ¬ HoldsAt field data value := by
  rw [Option.eq_none_iff_forall_ne_some]
  exact forall_congr' fun value => not_congr rootValue?_eq_some_iff

/-- Data that holds the same, be it in different fields, has the same root value. -/
theorem rootValue?_congr {field' : String}
    (hsame : ∀ value, HoldsAt field data value ↔ HoldsAt field' data' value) :
    rootValue? field data = rootValue? field' data' :=
  Option.ext fun value => by rw [rootValue?_eq_some_iff, rootValue?_eq_some_iff, hsame value]

/-! ## What was found -/

/-- What stood in the root field, read off the result; a look-up may have found nothing. -/
def Arity.found? {α : Type} : (arity : Arity) → arity.Of α → Option (arity.Held α)
  | .one, a => some a
  | .optional, held => held
  | .page, found => some found

/-- Results are the same where the same was found. -/
theorem Arity.found?_injective {α : Type} {arity : Arity} {result result' : arity.Of α}
    (h : arity.found? result = arity.found? result') : result = result' := by
  cases arity with
  | one => exact Option.some.inj h
  | optional => exact h
  | page => exact Option.some.inj h

/-- Whatever stands in the root field is the result. -/
theorem Arity.settle_some {α : Type} (arity : Arity) (field : String) (held : arity.Held α) :
    ∃ result, arity.settle field (some held) = .ok result ∧ arity.found? result = some held := by
  cases arity with
  | one => exact ⟨held, rfl, rfl⟩
  | optional => exact ⟨some held, rfl, rfl⟩
  | page => exact ⟨held, rfl, rfl⟩

/-- Where nothing stands there, it depends on the operation. -/
theorem Arity.settle_none {α : Type} (arity : Arity) (field : String) :
    (arity = .optional ∧
      ∃ result : arity.Of α, arity.settle field none = .ok result ∧ arity.found? result = none) ∨
    (arity ≠ .optional ∧
      (arity.settle field none : Except Failure (arity.Of α)) =
        .error (.unexpected (.nullField field))) := by
  cases arity with
  | optional => exact .inl ⟨rfl, none, rfl, rfl⟩
  | one => exact .inr ⟨by decide, rfl⟩
  | page => exact .inr ⟨by decide, rfl⟩

namespace Operation

/-- An operation that looks one thing up by its id. -/
inductive IsLookup : Operation → Prop where
  | fundingSource (id : FundingSourceId) (policy : CachePolicy) :
      IsLookup (.getFundingSource id policy)
  | provisionalFundingSource (id : FundingSourceId) (policy : CachePolicy) :
      IsLookup (.getProvisionalFundingSource id policy)
  | provisionalCard (id : CardId) (policy : CachePolicy) : IsLookup (.getProvisionalCard id policy)
  | card (id : CardId) (policy : CachePolicy) : IsLookup (.getCard id policy)
  | transaction (id : TransactionId) (policy : CachePolicy) : IsLookup (.getTransaction id policy)

theorem isLookup_iff (op : Operation) : op.IsLookup ↔ op.arity = .optional := by
  constructor
  · intro hlookup
    cases hlookup <;> rfl
  · intro harity
    cases op with
    | getFundingSource id policy => exact .fundingSource id policy
    | getProvisionalFundingSource id policy => exact .provisionalFundingSource id policy
    | getProvisionalCard id policy => exact .provisionalCard id policy
    | getCard id policy => exact .card id policy
    | getTransaction id policy => exact .transaction id policy
    | _ => cases harity

/-! ## The table -/

/-- How the root field of an operation is laid out. -/
abbrev rootShape (op : Operation) : Record.Shape (op.arity.Held op.resource.Record) :=
  op.arity.shape op.resource.shape

/-- What an operation results in, by what came of its request. -/
inductive Answered (op : Operation) : Reply → Except Failure op.Records → Prop where
  /-- The request was not answered. -/
  | unreachable (fault : TransportFault) : Answered op (.error fault) (.error (.transport fault))
  /-- The first error counts, whatever data and further errors come with it. -/
  | refused (data : Option Json) (e : ErrorRecord) (rest : List ErrorRecord) :
      Answered op (.ok ⟨data, e :: rest⟩) (.error (.ofBackend e))
  /-- There are neither errors nor data. -/
  | dataless : Answered op (.ok ⟨none, []⟩) (.error (.unexpected (.noData op.document.name)))
  /-- A look-up finds nothing. -/
  | notFound {data : Json} {result : op.Records} (hlookup : op.IsLookup)
      (hlacks : ∀ value, ¬ HoldsAt op.document.field data value)
      (hresult : op.arity.found? result = none) : Answered op (.ok ⟨some data, []⟩) (.ok result)
  /-- Any other operation cannot do without a root field. -/
  | missing {data : Json} (hlookup : ¬ op.IsLookup)
      (hlacks : ∀ value, ¬ HoldsAt op.document.field data value) :
      Answered op (.ok ⟨some data, []⟩) (.error (.unexpected (.nullField op.document.field)))
  /-- The root field is read. -/
  | read {data value : Json} {held : op.arity.Held op.resource.Record} {result : op.Records}
      (hholds : HoldsAt op.document.field data value) (hread : op.rootShape.ofJson value = .ok held)
      (hresult : op.arity.found? result = some held) :
      Answered op (.ok ⟨some data, []⟩) (.ok result)
  /-- The root field cannot be read. -/
  | misshapen {data value : Json} {mismatch : Record.Mismatch}
      (hholds : HoldsAt op.document.field data value)
      (hread : op.rootShape.ofJson value = .error mismatch) :
      Answered op (.ok ⟨some data, []⟩)
        (.error (.unexpected (.misshapen op.document.field mismatch)))

variable {op : Operation}

/-- What the records of a response are read from. -/
theorem readRecords_of_response (op : Operation) (response : Response) :
    op.readRecords (.ok response) =
      (readRoot op.document op.rootShape response).bind (op.arity.settle op.document.field) := rfl

section Data

variable {data value : Json}

theorem readRecords_of_lacks (hroot : rootValue? op.document.field data = none) :
    op.readRecords (.ok ⟨some data, []⟩) = op.arity.settle op.document.field none := by
  rw [readRecords_of_response, readRoot]
  simp only [hroot]
  rfl

theorem readRecords_of_read {held : op.arity.Held op.resource.Record}
    (hroot : rootValue? op.document.field data = some value)
    (hread : op.rootShape.ofJson value = .ok held) :
    op.readRecords (.ok ⟨some data, []⟩) = op.arity.settle op.document.field (some held) := by
  rw [readRecords_of_response, readRoot]
  simp only [hroot, hread]
  rfl

theorem readRecords_of_misshapen {mismatch : Record.Mismatch}
    (hroot : rootValue? op.document.field data = some value)
    (hread : op.rootShape.ofJson value = .error mismatch) :
    op.readRecords (.ok ⟨some data, []⟩) =
      .error (.unexpected (.misshapen op.document.field mismatch)) := by
  rw [readRecords_of_response, readRoot]
  simp only [hroot, hread]
  rfl

end Data

/-- An operation reads its answer by the table. -/
theorem answered_readRecords (op : Operation) (reply : Reply) :
    op.Answered reply (op.readRecords (reply.mapError .transport)) := by
  rcases reply with fault | ⟨data, errors⟩
  · exact .unreachable fault
  · show op.Answered _ (op.readRecords (.ok ⟨data, errors⟩))
    -- errors come before data, as in the code; the case of an error is left for the end
    rcases errors with _ | ⟨e, rest⟩
    · rcases data with _ | data
      · exact .dataless
      · cases hroot : rootValue? op.document.field data with
        | none =>
          have hlacks := rootValue?_eq_none_iff.mp hroot
          rw [readRecords_of_lacks hroot]
          -- without a root field the two sorts of operations part
          rcases op.arity.settle_none op.document.field with
            ⟨harity, found, hsettle, hfound⟩ | ⟨harity, hsettle⟩
          · rw [hsettle]
            exact .notFound (op.isLookup_iff.mpr harity) hlacks hfound
          · rw [hsettle]
            exact .missing (mt op.isLookup_iff.mp harity) hlacks
        | some value =>
          have hholds := rootValue?_eq_some_iff.mp hroot
          cases hread : op.rootShape.ofJson value with
          | error mismatch =>
            rw [readRecords_of_misshapen hroot hread]
            exact .misshapen hholds hread
          | ok held =>
            obtain ⟨found, hsettle, hfound⟩ := op.arity.settle_some op.document.field held
            rw [readRecords_of_read hroot hread, hsettle]
            exact .read hholds hread hfound
    · exact .refused data e rest

/-- The table leaves no choice. -/
theorem Answered.eq_readRecords {reply : Reply} {result : Except Failure op.Records}
    (h : op.Answered reply result) : result = op.readRecords (reply.mapError .transport) := by
  cases h with
  | unreachable fault => rfl
  | refused data e rest => rfl
  | dataless => rfl
  -- the rows for data without errors are told apart by what the root field holds, and the two rows for
  -- an empty one by the sort of the operation
  | @notFound data result hlookup hlacks hresult =>
    show _ = op.readRecords (.ok ⟨some data, []⟩)
    rw [readRecords_of_lacks (rootValue?_eq_none_iff.mpr hlacks)]
    rcases op.arity.settle_none op.document.field with
      ⟨harity, found, hsettle, hfound⟩ | ⟨harity, hsettle⟩
    · rw [hsettle, Arity.found?_injective (hresult.trans hfound.symm)]
    · exact absurd (op.isLookup_iff.mp hlookup) harity
  | @missing data hlookup hlacks =>
    show _ = op.readRecords (.ok ⟨some data, []⟩)
    rw [readRecords_of_lacks (rootValue?_eq_none_iff.mpr hlacks)]
    rcases op.arity.settle_none op.document.field with
      ⟨harity, found, hsettle, hfound⟩ | ⟨harity, hsettle⟩
    · exact absurd (op.isLookup_iff.mpr harity) hlookup
    · exact hsettle.symm
  | @read data value held result hholds hread hresult =>
    show _ = op.readRecords (.ok ⟨some data, []⟩)
    rw [readRecords_of_read (rootValue?_eq_some_iff.mpr hholds) hread]
    obtain ⟨found, hsettle, hfound⟩ := op.arity.settle_some op.document.field held
    rw [hsettle, Arity.found?_injective (hresult.trans hfound.symm)]
  | @misshapen data value mismatch hholds hread =>
    exact (readRecords_of_misshapen (rootValue?_eq_some_iff.mpr hholds) hread).symm

theorem answered_iff (op : Operation) (reply : Reply) (result : Except Failure op.Records) :
    op.Answered reply result ↔ result = op.readRecords (reply.mapError .transport) := by
  constructor
  · exact Answered.eq_readRecords
  · rintro rfl
    exact op.answered_readRecords reply

/-! ## Answers that are read alike -/

/-- Answers that agree on all that the table looks at. -/
inductive Agree (field : String) : Reply → Reply → Prop where
  | unreachable (fault : TransportFault) : Agree field (.error fault) (.error fault)
  | refused (data data' : Option Json) (e : ErrorRecord) (rest rest' : List ErrorRecord) :
      Agree field (.ok ⟨data, e :: rest⟩) (.ok ⟨data', e :: rest'⟩)
  | dataless : Agree field (.ok ⟨none, []⟩) (.ok ⟨none, []⟩)
  | data {data data' : Json} (hsame : ∀ value, HoldsAt field data value ↔ HoldsAt field data' value) :
      Agree field (.ok ⟨some data, []⟩) (.ok ⟨some data', []⟩)

/-- Nothing but what the table looks at has an influence on what is read. -/
theorem readRecords_congr {reply reply' : Reply} (hagree : Agree op.document.field reply reply') :
    op.readRecords (reply.mapError .transport) = op.readRecords (reply'.mapError .transport) := by
  cases hagree with
  | unreachable fault => rfl
  | refused data data' e rest rest' => rfl
  | dataless => rfl
  | @data data data' hsame =>
    show op.readRecords (.ok ⟨some data, []⟩) = op.readRecords (.ok ⟨some data', []⟩)
    -- the root value is all that is taken from the data
    have hroot := rootValue?_congr hsame
    rw [readRecords_of_response, readRecords_of_response, readRoot, readRoot]
    simp only [hroot]

end Operation

end CardService.Backend
