import CardService.Backend.Resource
import CardService.Backend.Response
import CardService.Proofs.Record.Stability

/-!
# CardService — the normal form of what the backend sends

Every record of the backend is laid out soundly, and so is a page of them, an error and a response.
What was read of them is therefore written in a normal form, which reads as the same.

For each layout it is checked that its fields are sound and that the values for their absence could
have been given, that their keys differ, and that a record is taken into its parts and put together
again in the same order.

Main result: `Message.read_normal_form`.
-/

namespace CardService

open Record (Shape Layout Kinds)

/-! ## Amounts, transactions and cards -/

@[simp] theorem CurrencyAmountRecord.shape_lawful : CurrencyAmountRecord.shape.Lawful := by
  refine ⟨?_, by decide, fun _ => rfl⟩
  simp [CurrencyAmount.layout]

@[simp] theorem MarkupRecord.shape_lawful : MarkupRecord.shape.Lawful := by
  refine ⟨?_, by decide, fun _ => rfl⟩
  simp

@[simp] theorem ChargeRecord.shape_lawful : ChargeRecord.shape.Lawful := by
  refine ⟨?_, by decide, fun _ => rfl⟩
  simp

@[simp] theorem TransactionRecord.shape_lawful : TransactionRecord.shape.Lawful := by
  refine ⟨?_, by decide, fun _ => rfl⟩
  simp

@[simp] theorem CardOwnerRecord.shape_lawful : CardOwnerRecord.shape.Lawful := by
  refine ⟨?_, by decide, fun _ => rfl⟩
  simp

@[simp] theorem BillingAddressRecord.shape_lawful : BillingAddressRecord.shape.Lawful := by
  refine ⟨?_, by decide, fun _ => rfl⟩
  simp

@[simp] theorem ExpiryRecord.shape_lawful : ExpiryRecord.shape.Lawful := by
  refine ⟨?_, by decide, fun _ => rfl⟩
  simp

@[simp] theorem CardRecord.shape_lawful : CardRecord.shape.Lawful := by
  refine ⟨?_, by decide, fun _ => rfl⟩
  simp

theorem ProvisionalCardRecord.shape_lawful : ProvisionalCardRecord.shape.Lawful := by
  refine ⟨?_, by decide, fun _ => rfl⟩
  simp

/-! ## Funding sources -/

@[simp] theorem TransactionVelocityRecord.shape_lawful :
    TransactionVelocityRecord.shape.Lawful := by
  refine ⟨?_, by decide, fun _ => rfl⟩
  simp

theorem FundingSourceRecord.cardShape_lawful : FundingSourceRecord.cardShape.Lawful := by
  refine ⟨?_, by decide, fun _ => rfl⟩
  simp

theorem FundingSourceRecord.bankShape_lawful : FundingSourceRecord.bankShape.Lawful := by
  refine ⟨?_, by decide, fun _ => rfl⟩
  simp

/-- Neither kind of account has a field of the tag's key, and a record is of one kind only. -/
theorem FundingSourceRecord.shape_lawful : FundingSourceRecord.shape.Lawful := by
  have hcard : FundingSourceRecord.cardShape.IsRecordWithout "__typename" := by
    simp [FundingSourceRecord.cardShape, Shape.IsRecordWithout, Layout.keys]
  have hbank : FundingSourceRecord.bankShape.IsRecordWithout "__typename" := by
    simp [FundingSourceRecord.bankShape, Shape.IsRecordWithout, Layout.keys]
  refine ⟨FundingSourceRecord.cardShape_lawful, hcard, by decide, fun _ => rfl, ?_,
    FundingSourceRecord.bankShape_lawful, hbank, by decide, fun _ => rfl, nofun, trivial⟩
  -- the kind behind the first one makes records with bank accounts, which are no credit cards
  rintro _ (⟨r, rfl⟩ | h)
  · rfl
  · exact h.elim

theorem ProvisionalFundingSourceRecord.shape_lawful :
    ProvisionalFundingSourceRecord.shape.Lawful := by
  refine ⟨?_, by decide, fun _ => rfl⟩
  simp

/-! ## Configuration -/

@[simp] theorem CurrencyVelocityRecord.shape_lawful : CurrencyVelocityRecord.shape.Lawful := by
  refine ⟨?_, by decide, fun _ => rfl⟩
  simp

@[simp] theorem SupportedCardTypeRecord.shape_lawful : SupportedCardTypeRecord.shape.Lawful := by
  refine ⟨?_, by decide, fun _ => rfl⟩
  simp

@[simp] theorem FundingSourceSupportRecord.shape_lawful :
    FundingSourceSupportRecord.shape.Lawful := by
  refine ⟨?_, by decide, fun _ => rfl⟩
  simp

@[simp] theorem ClientConfigurationRecord.shape_lawful :
    ClientConfigurationRecord.shape.Lawful := by
  refine ⟨?_, by decide, fun _ => rfl⟩
  simp

theorem ServiceConfigRecord.shape_lawful : ServiceConfigRecord.shape.Lawful := by
  refine ⟨?_, by decide, fun _ => rfl⟩
  simp

namespace Backend

/-! ## Messages -/

theorem Resource.shape_lawful (r : Resource) : r.shape.Lawful := by
  cases r with
  | serviceConfig => exact ServiceConfigRecord.shape_lawful
  | clientConfiguration => exact ClientConfigurationRecord.shape_lawful
  | fundingSource => exact FundingSourceRecord.shape_lawful
  | provisionalFundingSource => exact ProvisionalFundingSourceRecord.shape_lawful
  | card => exact CardRecord.shape_lawful
  | provisionalCard => exact ProvisionalCardRecord.shape_lawful
  | transaction => exact TransactionRecord.shape_lawful

theorem Arity.shape_lawful {α : Type} {item : Shape α} (hitem : item.Lawful) (arity : Arity) :
    (arity.shape item).Lawful := by
  cases arity with
  | one => exact hitem
  | optional => exact hitem
  | page =>
    have hkeys : ["items", "nextToken"].Nodup := by decide
    exact ⟨by simp [hitem], hkeys, fun _ => rfl⟩

@[simp] theorem ErrorRecord.shape_lawful : ErrorRecord.shape.Lawful := by
  refine ⟨?_, by decide, fun _ => rfl⟩
  simp

theorem Response.shape_lawful : Response.shape.Lawful := by
  refine ⟨?_, by decide, fun _ => rfl⟩
  simp

/-- What the backend can send: what is found for a request, an error, or a whole response. -/
inductive Message where
  | found (arity : Arity) (r : Resource)
  | error
  | response

namespace Message

/-- What a message is about. -/
abbrev Content : Message → Type
  | .found arity r => arity.Held r.Record
  | .error => ErrorRecord
  | .response => Response

/-- The layout of a message. -/
def shape : (m : Message) → Shape m.Content
  | .found arity r => arity.shape r.shape
  | .error => ErrorRecord.shape
  | .response => Response.shape

theorem shape_lawful (m : Message) : m.shape.Lawful := by
  cases m with
  | found arity r => exact Arity.shape_lawful r.shape_lawful arity
  | error => exact ErrorRecord.shape_lawful
  | response => exact Response.shape_lawful

/-- However a message was given, writing what was read of it and reading that gives the same. -/
theorem read_normal_form (m : Message) {json : Json} {content : m.Content}
    (h : m.shape.ofJson json = .ok content) :
    m.shape.ofJson (m.shape.write content) = .ok content :=
  m.shape.stable_of_lawful m.shape_lawful h false

/-- A page with one transaction, given as an array up to its last field without a default, with
whole numbers for doubles, an amount as an array, and members that nobody asks for. -/
def sparseListing : Json :=
  .object [("nextToken", .null), ("more", .bool true), ("items", .array [.array [
    .string "t-1", .string "o-1", .ofUInt32 2, .ofInt64 1700000000000, .ofInt64 1700000000500,
    .string "c-1", .string "s-1", .string "PENDING", .array [.string "USD", .ofInt64 5],
    .object [("amount", .ofInt64 (-7)), ("note", .array []), ("currency", .string "EUR")],
    .string "shop", .ofInt64 0]])]

/-- A thousand, as milliseconds. -/
def second : Binary64 := ⟨false, 0x408f400000000000, by decide⟩

/-- A card in an order of its own, with arrays for an owner and for its expiry, an address without a
second line, metadata with a `null`, and a last transaction that was declined. -/
def sparseCard : Json :=
  .object [("note", .bool true), ("pan", .string "4111"),
    ("expiry", .array [.string "05", .string "2031"]), ("id", .string "c-1"),
    ("owner", .string "o-1"), ("version", .ofUInt32 2),
    ("createdAtEpochMs", .number (.float .zero)),
    ("updatedAtEpochMs", .number (.float second)),
    ("owners", .array [.array [.string "o-2", .string "issuer"]]),
    ("fundingSourceId", .string "fs-1"), ("currency", .string "USD"), ("state", .string "ISSUED"),
    ("activatedAtEpochMs", .number (.float .zero)), ("cancelledAtEpochMs", .null),
    ("last4", .string "1111"), ("cardHolder", .string "A B"), ("csc", .string "123"),
    ("billingAddress", .object [("city", .string "Ulm"), ("addressLine1", .string "Weg 1"),
      ("country", .string "DE"), ("state", .string "BW"), ("postalCode", .string "89073")]),
    ("metadata", .object [("b", .null), ("a", .array [.ofInt64 (-1)])]),
    ("lastTransaction", .object [("declineReason", .string "limit"), ("id", .string "t-1"),
      ("owner", .string "o-1"), ("version", .ofUInt32 1),
      ("createdAtEpochMs", .number (.float .zero)), ("updatedAtEpochMs", .number (.float .zero)),
      ("cardId", .string "c-1"), ("sequenceId", .string "s-1"), ("type", .string "DECLINE"),
      ("billedAmount", .array [.string "USD", .ofInt64 5]),
      ("transactedAmount", .object [("amount", .ofInt64 (-7)), ("currency", .string "EUR")]),
      ("description", .string "shop"), ("transactedAtEpochMs", .number (.float second))])]

/-- What is read of this card. -/
def declinedCard : CardRecord where
  id := "c-1"
  owner := "o-1"
  version := 2
  createdAtEpochMs := .zero
  updatedAtEpochMs := second
  owners := [⟨"o-2", "issuer"⟩]
  fundingSourceId := "fs-1"
  currency := "USD"
  state := "ISSUED"
  activatedAtEpochMs := .zero
  cancelledAtEpochMs := none
  last4 := "1111"
  cardholder := "A B"
  pan := "4111"
  csc := "123"
  billingAddress := some ⟨"Weg 1", none, "Ulm", "BW", "89073", "DE"⟩
  expiry := ⟨"05", "2031"⟩
  metadata := some (.object [("b", .null), ("a", .array [.ofInt64 (-1)])])
  lastTransaction := some {
    id := "t-1"
    owner := "o-1"
    version := 1
    createdAtEpochMs := .zero
    updatedAtEpochMs := .zero
    cardId := "c-1"
    sequenceId := "s-1"
    transactionType := "DECLINE"
    billedAmount := ⟨"USD", 5⟩
    transactedAmount := ⟨"EUR", -7⟩
    description := "shop"
    transactedAtEpochMs := second
    settledAtEpochMs := none
    declineReason := some "limit"
    charges := [] }

theorem read_normal_form_sparse :
    (∃ page, (found .page .transaction).shape.ofJson sparseListing = .ok page ∧
      page.items.map (fun t => (t.id, t.billedAmount, t.transactedAmount, t.settledAtEpochMs)) =
        [("t-1", ⟨"USD", 5⟩, ⟨"EUR", -7⟩, none)] ∧
      (found .page .transaction).shape.ofJson ((found .page .transaction).shape.write page) =
        .ok page) ∧
    (found .one .card).shape.ofJson sparseCard = .ok declinedCard ∧
    (found .one .card).shape.ofJson ((found .one .card).shape.write declinedCard) =
      .ok declinedCard := by
  have hcard : (found .one .card).shape.ofJson sparseCard = .ok declinedCard := rfl
  refine ⟨?listing, hcard, read_normal_form (found .one .card) hcard⟩
  case listing =>
    have hread : ((found .page .transaction).shape.ofJson sparseListing).toOption.map
        (fun page => page.items.map fun t =>
          (t.id, t.billedAmount, t.transactedAmount, t.settledAtEpochMs)) =
        some [("t-1", ⟨"USD", 5⟩, ⟨"EUR", -7⟩, none)] := by
      decide +kernel
    obtain ⟨page, hok, hitems⟩ := Option.map_eq_some_iff.mp hread
    have hpage := Except.toOption_eq_some_iff.mp hok
    exact ⟨page, hpage, hitems, read_normal_form (found .page .transaction) hpage⟩

end Message

end Backend

end CardService
