import CardService.Backend.Resource
import CardService.Proofs.Backend.Field
import CardService.Proofs.Outcome
import Mathlib.Tactic.MkIffOfInductiveProp

/-!
# CardService — what an entity keeps of its record

An entity keeps everything of its record but for three things: an instant is kept, and not the
milliseconds that gave it; the content of a payload is kept, and not its text; and of the names of
networks, card types and account types that are not known only that they are not. A configuration
that comes without a client configuration is kept like one with an empty client configuration.

So two records have the same entity just if they are alike up to these (`Resource.Alike`). For each
kind of record this says what is compared by what it stands for, and that the records are equal once
they agree there.

Main result: `Resource.ofRecord_tells_apart`.
-/

namespace CardService

open Backend (instantOf keyword)

/-! ## Records that are alike

The fields that are compared by what they stand for come one by one, and `others` says that the
records are equal once they agree there. -/

/-- Milliseconds that give the same instant, or none. -/
def SameInstant (ms ms' : Binary64) : Prop :=
  Timestamp.ofEpochMs? (.finite ms) = Timestamp.ofEpochMs? (.finite ms')

/-- Transactions with the same instants; the states of their charges are compared as they are. -/
@[mk_iff] structure TransactionRecord.Alike (r r' : TransactionRecord) : Prop where
  createdAt : SameInstant r.createdAtEpochMs r'.createdAtEpochMs
  updatedAt : SameInstant r.updatedAtEpochMs r'.updatedAtEpochMs
  transactedAt : SameInstant r.transactedAtEpochMs r'.transactedAtEpochMs
  settledAt : Option.Rel SameInstant r.settledAtEpochMs r'.settledAtEpochMs
  others : { r with
    createdAtEpochMs := r'.createdAtEpochMs
    updatedAtEpochMs := r'.updatedAtEpochMs
    transactedAtEpochMs := r'.transactedAtEpochMs
    settledAtEpochMs := r'.settledAtEpochMs } = r'

/-- Cards with the same instants, whose last transactions are alike. -/
@[mk_iff] structure CardRecord.Alike (r r' : CardRecord) : Prop where
  createdAt : SameInstant r.createdAtEpochMs r'.createdAtEpochMs
  updatedAt : SameInstant r.updatedAtEpochMs r'.updatedAtEpochMs
  activatedAt : SameInstant r.activatedAtEpochMs r'.activatedAtEpochMs
  cancelledAt : Option.Rel SameInstant r.cancelledAtEpochMs r'.cancelledAtEpochMs
  lastTransaction : Option.Rel TransactionRecord.Alike r.lastTransaction r'.lastTransaction
  others : { r with
    createdAtEpochMs := r'.createdAtEpochMs
    updatedAtEpochMs := r'.updatedAtEpochMs
    activatedAtEpochMs := r'.activatedAtEpochMs
    cancelledAtEpochMs := r'.cancelledAtEpochMs
    lastTransaction := r'.lastTransaction } = r'

/-- Provisional cards with the same instants, whose cards are alike. -/
@[mk_iff] structure ProvisionalCardRecord.Alike (r r' : ProvisionalCardRecord) : Prop where
  createdAt : SameInstant r.createdAtEpochMs r'.createdAtEpochMs
  updatedAt : SameInstant r.updatedAtEpochMs r'.updatedAtEpochMs
  card : Option.Rel CardRecord.Alike r.card r'.card
  others : { r with
    createdAtEpochMs := r'.createdAtEpochMs
    updatedAtEpochMs := r'.updatedAtEpochMs
    card := r'.card } = r'

/-- Accounts of the same kind. Their names of networks and types stand for the same. -/
def AccountRecord.Alike : AccountRecord → AccountRecord → Prop
  | .creditCard card, .creditCard card' =>
    CardNetwork.ofName card.network = .ofName card'.network ∧
      CardType.ofName card.cardType = .ofName card'.cardType
  | .bankAccount account, .bankAccount account' =>
    BankAccountType.ofName account.accountType = .ofName account'.accountType ∧
      { account with accountType := account'.accountType } = account'
  | .creditCard _, .bankAccount _ => False
  | .bankAccount _, .creditCard _ => False

/-- Funding sources with the same instants, whose accounts are alike. -/
@[mk_iff] structure FundingSourceRecord.Alike (r r' : FundingSourceRecord) : Prop where
  createdAt : SameInstant r.createdAtEpochMs r'.createdAtEpochMs
  updatedAt : SameInstant r.updatedAtEpochMs r'.updatedAtEpochMs
  account : r.account.Alike r'.account
  others : { r with
    createdAtEpochMs := r'.createdAtEpochMs
    updatedAtEpochMs := r'.updatedAtEpochMs
    account := r'.account } = r'

/-- Provisional funding sources with the same instants and the same content of their payloads. -/
@[mk_iff] structure ProvisionalFundingSourceRecord.Alike
    (r r' : ProvisionalFundingSourceRecord) : Prop where
  createdAt : SameInstant r.createdAtEpochMs r'.createdAtEpochMs
  updatedAt : SameInstant r.updatedAtEpochMs r'.updatedAtEpochMs
  provisioningData :
    Payload.decodeProvisioning r.provisioningData = Payload.decodeProvisioning r'.provisioningData
  others : { r with
    createdAtEpochMs := r'.createdAtEpochMs
    updatedAtEpochMs := r'.updatedAtEpochMs
    provisioningData := r'.provisioningData } = r'

/-- Client configurations with the same content. -/
def ClientConfigurationRecord.Alike (r r' : ClientConfigurationRecord) : Prop :=
  Payload.decodeClientConfiguration r.data = Payload.decodeClientConfiguration r'.data

/-- Support for the same card types, in the same order. -/
@[mk_iff] structure FundingSourceSupportRecord.Alike (r r' : FundingSourceSupportRecord) :
    Prop where
  cardTypes : r.detail.map (CardType.ofName ·.cardType) = r'.detail.map (CardType.ofName ·.cardType)
  others : { r with detail := r'.detail } = r'

/-- The entries of a client configuration; an absent one has none. -/
def ServiceConfigRecord.entries (r : ServiceConfigRecord) :
    Except Payload.DecodeError (List Payload.ProviderConfiguration) :=
  match r.clientConfiguration with
  | some configuration => Payload.decodeClientConfiguration configuration.data
  | none => .ok []

/-- Configurations with the same entries for clients, whose support is alike at each place. -/
@[mk_iff] structure ServiceConfigRecord.Alike (r r' : ServiceConfigRecord) : Prop where
  support : List.Forall₂ FundingSourceSupportRecord.Alike
    r.fundingSourceSupport r'.fundingSourceSupport
  entries : r.entries = r'.entries
  others : { r with
    fundingSourceSupport := r'.fundingSourceSupport
    clientConfiguration := r'.clientConfiguration } = r'

/-! ## Computations with the same results -/

section SameIff

variable {ε α β : Type} {P Q : Prop} {R : α → α → Prop}

/-- Wherever two computations succeed, they have the same result just if `P` holds. -/
def SameIff (P : Prop) (x x' : Except ε α) : Prop :=
  ∀ a a', x = .ok a → x' = .ok a' → (a = a' ↔ P)

theorem sameIff_pure {a a' : α} (h : a = a' ↔ P) :
    SameIff P (pure a : Except ε α) (pure a') := by
  intro b b' hb hb'
  rwa [← Except.pure_eq_ok_iff.mp hb, ← Except.pure_eq_ok_iff.mp hb']

/-- What is known of two first results may be used for the second ones. -/
theorem sameIff_bind {x x' : Except ε α} {f f' : α → Except ε β}
    (hx : ∀ a a', x = .ok a → x' = .ok a' → R a a')
    (hf : ∀ a a', R a a' → SameIff Q (f a) (f' a')) : SameIff Q (x >>= f) (x' >>= f') := by
  intro b b' hb hb'
  obtain ⟨a, ha, hb⟩ := Except.bind_eq_ok_iff.mp hb
  obtain ⟨a', ha', hb'⟩ := Except.bind_eq_ok_iff.mp hb'
  exact hf a a' (hx a a' ha ha') b b' hb hb'

theorem SameIff.bind {x x' : Except ε α} {f f' : α → Except ε β} (hx : SameIff P x x')
    (hf : ∀ a a', (a = a' ↔ P) → SameIff Q (f a) (f' a')) : SameIff Q (x >>= f) (x' >>= f') :=
  sameIff_bind hx hf

/-- Lists come out the same just if they are as long and their items do. -/
theorem sameIff_mapM {f : α → Except ε β} (hf : ∀ a a', SameIff (R a a') (f a) (f a'))
    (as as' : List α) : SameIff (List.Forall₂ R as as') (as.mapM f) (as'.mapM f) := by
  intro bs bs' h h'
  rw [Except.mapM_eq_ok_iff] at h h'
  induction h generalizing as' bs' with
  | nil =>
    cases h' with
    | nil => simp
    | cons => simp
  | cons hab _ ih =>
    cases h' with
    | nil => simp
    | cons hab' hrest => rw [List.cons.injEq, List.forall₂_cons, hf _ _ _ _ hab hab', ih _ _ hrest]

theorem sameIff_optional {f : α → Except ε β} (hf : ∀ a a', SameIff (R a a') (f a) (f a'))
    (a a' : Option α) : SameIff (Option.Rel R a a') (a.mapM f) (a'.mapM f) := by
  intro b b' h h'
  cases a with
  | none =>
    cases h
    cases a' with
    | none =>
      cases h'
      simp
    | some a' =>
      obtain ⟨b', hb', h'⟩ := Except.bind_eq_ok_iff.mp h'
      cases h'
      simp
  | some a =>
    obtain ⟨b, hb, h⟩ := Except.bind_eq_ok_iff.mp h
    cases h
    cases a' with
    | none =>
      cases h'
      simp
    | some a' =>
      obtain ⟨b', hb', h'⟩ := Except.bind_eq_ok_iff.mp h'
      cases h'
      rw [Option.some.injEq, Option.rel_some_some, hf a a' b b' hb hb']

end SameIff

/-! ## Entities that are the same -/

theorem sameIff_instantOf (ms ms' : Binary64) :
    SameIff (SameInstant ms ms') (instantOf ms) (instantOf ms') := by
  intro t t' h h'
  rw [SameInstant, Backend.instantOf_eq_ok_iff.mp h, Backend.instantOf_eq_ok_iff.mp h',
    Option.some.injEq]

/-- No two names are those of the same value. -/
theorem sameIff_keyword {α : Type} [Keyword α] (field name name' : String) :
    SameIff (name = name') (keyword field name : Except Failure α) (keyword field name') := by
  intro a a' h h'
  constructor
  · rintro rfl
    rw [← Backend.name_of_keyword h, ← Backend.name_of_keyword h']
  · rintro rfl
    exact Except.ok.inj (h.symm.trans h')

theorem sameIff_decoded {α : Type} (x x' : Except Payload.DecodeError α) :
    SameIff (x = x') (x.mapError Failure.decode) (x'.mapError Failure.decode) := by
  intro a a' h h'
  rw [Except.mapError_eq_ok_iff.mp h, Except.mapError_eq_ok_iff.mp h', Except.ok.injEq]

/-! ### Parts that are copied

Nothing in these has to be understood, and each keeps all that its record says. -/

theorem CurrencyAmount.ofRecord_injective : Function.Injective CurrencyAmount.ofRecord := by
  rintro ⟨⟩ ⟨⟩ ⟨⟩
  rfl

theorem Markup.ofRecord_injective : Function.Injective Markup.ofRecord := by
  rintro ⟨⟩ ⟨⟩ ⟨⟩
  rfl

theorem CardOwner.ofRecord_injective : Function.Injective CardOwner.ofRecord := by
  rintro ⟨⟩ ⟨⟩ ⟨⟩
  rfl

theorem BillingAddress.ofRecord_injective : Function.Injective BillingAddress.ofRecord := by
  rintro ⟨⟩ ⟨⟩ ⟨⟩
  rfl

theorem Expiry.ofRecord_injective : Function.Injective Expiry.ofRecord := by
  rintro ⟨⟩ ⟨⟩ ⟨⟩
  rfl

theorem TransactionVelocity.ofRecord_injective :
    Function.Injective TransactionVelocity.ofRecord := by
  rintro ⟨⟩ ⟨⟩ ⟨⟩
  rfl

theorem CurrencyVelocity.ofRecord_injective : Function.Injective CurrencyVelocity.ofRecord := by
  rintro ⟨⟩ ⟨⟩ ⟨⟩
  rfl

/-! ### Transactions and cards -/

theorem sameIff_charge (r r' : ChargeRecord) :
    SameIff (r = r') (Charge.ofRecord r) (Charge.ofRecord r') := by
  refine (sameIff_optional (sameIff_keyword "charge state") r.state r'.state).bind
    fun state state' hstate => sameIff_pure ?_
  rw [Option.rel_eq_iff] at hstate
  obtain ⟨⟩ := r
  obtain ⟨⟩ := r'
  simp only [Charge.mk.injEq, ChargeRecord.mk.injEq, Identifier.mk.injEq,
    CurrencyAmount.ofRecord_injective.eq_iff, Markup.ofRecord_injective.eq_iff, hstate]

theorem sameIff_transaction (r r' : TransactionRecord) :
    SameIff (r.Alike r') (Transaction.ofRecord r) (Transaction.ofRecord r') := by
  refine (sameIff_mapM sameIff_charge _ _).bind fun charges charges' hcharges =>
    (sameIff_instantOf _ _).bind fun createdAt createdAt' hcreatedAt =>
    (sameIff_instantOf _ _).bind fun updatedAt updatedAt' hupdatedAt =>
    (sameIff_keyword _ _ _).bind fun type type' htype =>
    (sameIff_instantOf _ _).bind fun transactedAt transactedAt' htransactedAt =>
    (sameIff_optional sameIff_instantOf _ _).bind fun settledAt settledAt' hsettledAt =>
    sameIff_pure ?_
  -- both sides say of each field that it agrees, in the order of the entity and of the record
  rw [List.forall₂_eq_eq_eq] at hcharges
  rw [Transaction.mk.injEq, TransactionRecord.alike_iff, hcharges, hcreatedAt, hupdatedAt, htype,
    htransactedAt, hsettledAt]
  obtain ⟨⟩ := r
  obtain ⟨⟩ := r'
  simp only [TransactionRecord.mk.injEq, Identifier.mk.injEq,
    CurrencyAmount.ofRecord_injective.eq_iff, true_and, and_assoc, and_comm, and_left_comm]

theorem sameIff_card (r r' : CardRecord) :
    SameIff (r.Alike r') (Card.ofRecord r) (Card.ofRecord r') := by
  refine (sameIff_optional sameIff_transaction _ _).bind fun last last' hlast =>
    (sameIff_instantOf _ _).bind fun createdAt createdAt' hcreatedAt =>
    (sameIff_instantOf _ _).bind fun updatedAt updatedAt' hupdatedAt =>
    (sameIff_keyword _ _ _).bind fun state state' hstate =>
    (sameIff_instantOf _ _).bind fun activatedAt activatedAt' hactivatedAt =>
    (sameIff_optional sameIff_instantOf _ _).bind fun cancelledAt cancelledAt' hcancelledAt =>
    sameIff_pure ?_
  rw [Card.mk.injEq, CardRecord.alike_iff, hlast, hcreatedAt, hupdatedAt, hstate, hactivatedAt,
    hcancelledAt]
  obtain ⟨⟩ := r
  obtain ⟨⟩ := r'
  have howners := List.map_injective_iff.mpr CardOwner.ofRecord_injective
  have haddress := Option.map_injective BillingAddress.ofRecord_injective
  simp only [CardRecord.mk.injEq, Identifier.mk.injEq, howners.eq_iff, haddress.eq_iff,
    Expiry.ofRecord_injective.eq_iff, true_and, and_assoc, and_comm, and_left_comm]

theorem sameIff_provisionalCard (r r' : ProvisionalCardRecord) :
    SameIff (r.Alike r') (ProvisionalCard.ofRecord r) (ProvisionalCard.ofRecord r') := by
  refine (sameIff_instantOf _ _).bind fun createdAt createdAt' hcreatedAt =>
    (sameIff_instantOf _ _).bind fun updatedAt updatedAt' hupdatedAt =>
    (sameIff_keyword _ _ _).bind fun state state' hstate =>
    (sameIff_optional sameIff_card _ _).bind fun card card' hcard => sameIff_pure ?_
  rw [ProvisionalCard.mk.injEq, ProvisionalCardRecord.alike_iff, hcreatedAt, hupdatedAt, hstate,
    hcard]
  obtain ⟨⟩ := r
  obtain ⟨⟩ := r'
  simp only [ProvisionalCardRecord.mk.injEq, Identifier.mk.injEq, true_and, and_assoc, and_comm,
    and_left_comm]

/-! ### Funding sources -/

theorem account_eq_iff (r r' : AccountRecord) :
    Account.ofRecord r = Account.ofRecord r' ↔ r.Alike r' := by
  cases r with
  | creditCard card =>
    cases r' with
    | creditCard card' =>
      simp only [Account.ofRecord, AccountRecord.Alike, Account.creditCard.injEq]
    | bankAccount account' => simp only [Account.ofRecord, AccountRecord.Alike, reduceCtorEq]
  | bankAccount account =>
    cases r' with
    | creditCard card' => simp only [Account.ofRecord, AccountRecord.Alike, reduceCtorEq]
    | bankAccount account' =>
      obtain ⟨⟩ := account
      obtain ⟨⟩ := account'
      simp only [Account.ofRecord, AccountRecord.Alike, Account.bankAccount.injEq,
        BankAccountRecord.mk.injEq,
        (Option.map_injective CurrencyAmount.ofRecord_injective).eq_iff, true_and]

theorem sameIff_fundingSource (r r' : FundingSourceRecord) :
    SameIff (FundingSourceRecord.Alike r r') (FundingSource.ofRecord r)
      (FundingSource.ofRecord r') := by
  refine (sameIff_instantOf _ _).bind fun createdAt createdAt' hcreatedAt =>
    (sameIff_instantOf _ _).bind fun updatedAt updatedAt' hupdatedAt =>
    (sameIff_keyword _ _ _).bind fun state state' hstate =>
    (sameIff_mapM (sameIff_keyword "funding source flag") _ _).bind fun flags flags' hflags =>
    sameIff_pure ?_
  rw [List.forall₂_eq_eq_eq] at hflags
  rw [FundingSource.mk.injEq, FundingSourceRecord.alike_iff, hcreatedAt, hupdatedAt, hstate, hflags,
    account_eq_iff]
  obtain ⟨⟩ := r
  obtain ⟨⟩ := r'
  simp only [FundingSourceRecordOf.mk.injEq, Identifier.mk.injEq,
    (Option.map_injective TransactionVelocity.ofRecord_injective).eq_iff, true_and, and_assoc,
    and_comm, and_left_comm]

theorem sameIff_provisionalFundingSource (r r' : ProvisionalFundingSourceRecord) :
    SameIff (r.Alike r') (ProvisionalFundingSource.ofRecord r)
      (ProvisionalFundingSource.ofRecord r') := by
  refine (sameIff_instantOf _ _).bind fun createdAt createdAt' hcreatedAt =>
    (sameIff_instantOf _ _).bind fun updatedAt updatedAt' hupdatedAt =>
    (sameIff_keyword _ _ _).bind fun type type' htype =>
    (sameIff_keyword _ _ _).bind fun state state' hstate =>
    (sameIff_decoded _ _).bind fun data data' hdata => sameIff_pure ?_
  rw [ProvisionalFundingSource.mk.injEq, ProvisionalFundingSourceRecord.alike_iff, hcreatedAt,
    hupdatedAt, htype, hstate, hdata]
  obtain ⟨⟩ := r
  obtain ⟨⟩ := r'
  simp only [ProvisionalFundingSourceRecord.mk.injEq, Identifier.mk.injEq, true_and, and_assoc,
    and_comm, and_left_comm]

/-! ### Configuration -/

theorem sameIff_clientConfiguration (r r' : ClientConfigurationRecord) :
    SameIff (r.Alike r') (clientConfigurationOfRecord r) (clientConfigurationOfRecord r') :=
  sameIff_decoded _ _

theorem sameIff_fundingSourceSupport (r r' : FundingSourceSupportRecord) :
    SameIff (r.Alike r') (FundingSourceSupport.ofRecord r) (FundingSourceSupport.ofRecord r') := by
  refine (sameIff_keyword _ _ _).bind fun type type' htype => sameIff_pure ?_
  rw [FundingSourceSupport.mk.injEq, FundingSourceSupportRecord.alike_iff, htype]
  obtain ⟨⟩ := r
  obtain ⟨⟩ := r'
  simp only [FundingSourceSupportRecord.mk.injEq, true_and, and_assoc, and_comm]

/-- The entries are those of the client configuration, if there is one. -/
theorem entries_eq {r : ServiceConfigRecord} {found : Option (List Payload.ProviderConfiguration)}
    (h : r.clientConfiguration.mapM clientConfigurationOfRecord = .ok found) :
    r.entries = .ok (found.getD []) := by
  unfold ServiceConfigRecord.entries
  cases hconfiguration : r.clientConfiguration with
  | none =>
    rw [hconfiguration] at h
    cases h
    rfl
  | some configuration =>
    rw [hconfiguration] at h
    obtain ⟨entries, hentries, hfound⟩ := Except.bind_eq_ok_iff.mp h
    cases hfound
    exact Except.mapError_eq_ok_iff.mp hentries

theorem getD_eq_iff_entries (r r' : ServiceConfigRecord)
    (found found' : Option (List Payload.ProviderConfiguration))
    (h : r.clientConfiguration.mapM clientConfigurationOfRecord = .ok found)
    (h' : r'.clientConfiguration.mapM clientConfigurationOfRecord = .ok found') :
    found.getD [] = found'.getD [] ↔ r.entries = r'.entries := by
  rw [entries_eq h, entries_eq h', Except.ok.injEq]

theorem sameIff_serviceConfig (r r' : ServiceConfigRecord) :
    SameIff (r.Alike r') (ServiceConfig.ofRecord r) (ServiceConfig.ofRecord r') := by
  -- what is kept of the client configuration is not whether there is one, but its entries
  refine (sameIff_mapM sameIff_fundingSourceSupport _ _).bind fun support support' hsupport =>
    sameIff_bind (getD_eq_iff_entries r r') fun found found' hfound => sameIff_pure ?_
  rw [ServiceConfig.mk.injEq, ServiceConfigRecord.alike_iff, hsupport, hfound]
  obtain ⟨⟩ := r
  obtain ⟨⟩ := r'
  have hvelocity := List.map_injective_iff.mpr CurrencyVelocity.ofRecord_injective
  have hamount := List.map_injective_iff.mpr CurrencyAmount.ofRecord_injective
  simp only [ServiceConfigRecord.mk.injEq, hvelocity.eq_iff, hamount.eq_iff, true_and, and_assoc,
    and_comm, and_left_comm]

/-- A configuration that sets nothing, with some client configuration or none. -/
def ServiceConfigRecord.bare (clientConfiguration : Option ClientConfigurationRecord) :
    ServiceConfigRecord where
  maxFundingSourceVelocity := []
  maxFundingSourceFailureVelocity := []
  maxCardCreationVelocity := []
  maxTransactionVelocity := []
  maxTransactionAmount := []
  virtualCardCurrencies := []
  fundingSourceSupport := []
  bankAccountExpendable := false
  clientConfiguration

/-- The client configuration without entries, in its envelope. -/
def emptyClientConfiguration : ClientConfigurationRecord :=
  ⟨"eyJmdW5kaW5nU291cmNlVHlwZXMiOltdfQ=="⟩

/-- An absent client configuration is not told apart from an empty one. -/
theorem absent_client_configuration_as_empty :
    (∃ config,
      ServiceConfig.ofRecord (.bare none) = .ok config ∧
      ServiceConfig.ofRecord (.bare (some emptyClientConfiguration)) = .ok config) ∧
    ¬ Option.Rel ClientConfigurationRecord.Alike (ServiceConfigRecord.bare none).clientConfiguration
      (ServiceConfigRecord.bare (some emptyClientConfiguration)).clientConfiguration := by
  have hempty : clientConfigurationOfRecord emptyClientConfiguration = .ok [] :=
    Except.toOption_eq_some_iff.mp (by decide +kernel)
  refine ⟨⟨_, rfl, ?_⟩, nofun⟩
  have hfound : (ServiceConfigRecord.bare (some emptyClientConfiguration)).clientConfiguration.mapM
      clientConfigurationOfRecord = .ok (some []) := by
    show (clientConfigurationOfRecord emptyClientConfiguration >>= fun entries =>
      pure (some entries)) = _
    rw [hempty]
    rfl
  unfold ServiceConfig.ofRecord
  rw [hfound]
  rfl

namespace Backend.Resource

/-! ## Resources and pages -/

/-- Records that are alike. -/
def Alike : (r : Resource) → r.Record → r.Record → Prop
  | .serviceConfig => ServiceConfigRecord.Alike
  | .clientConfiguration => ClientConfigurationRecord.Alike
  | .fundingSource => FundingSourceRecord.Alike
  | .provisionalFundingSource => ProvisionalFundingSourceRecord.Alike
  | .card => CardRecord.Alike
  | .provisionalCard => ProvisionalCardRecord.Alike
  | .transaction => TransactionRecord.Alike

theorem sameIff_ofRecord (r : Resource) (record record' : r.Record) :
    SameIff (r.Alike record record') (r.ofRecord record) (r.ofRecord record') := by
  cases r with
  | serviceConfig => exact sameIff_serviceConfig record record'
  | clientConfiguration => exact sameIff_clientConfiguration record record'
  | fundingSource => exact sameIff_fundingSource record record'
  | provisionalFundingSource => exact sameIff_provisionalFundingSource record record'
  | card => exact sameIff_card record record'
  | provisionalCard => exact sameIff_provisionalCard record record'
  | transaction => exact sameIff_transaction record record'

theorem sameIff_page (r : Resource) (page page' : Page r.Record) :
    SameIff (List.Forall₂ r.Alike page.items page'.items ∧ page.nextToken = page'.nextToken)
      (page.mapM r.ofRecord) (page'.mapM r.ofRecord) := by
  refine (sameIff_mapM r.sameIff_ofRecord _ _).bind fun items items' hitems => sameIff_pure ?_
  rw [Page.mk.injEq, hitems]

/-- A page is converted item by item, and its token is kept. -/
theorem page_mapM_eq_ok_iff (r : Resource) (page : Page r.Record) (found : Page r.Entity) :
    page.mapM r.ofRecord = .ok found ↔
      List.Forall₂ (fun record entity => r.ofRecord record = .ok entity) page.items found.items ∧
        found.nextToken = page.nextToken := by
  rw [Page.mapM, Except.bind_eq_ok_iff]
  obtain ⟨items, nextToken⟩ := found
  constructor
  · rintro ⟨items', hitems, hfound⟩
    cases hfound
    exact ⟨Except.mapM_eq_ok_iff.mp hitems, rfl⟩
  · rintro ⟨hitems, rfl⟩
    exact ⟨items, Except.mapM_eq_ok_iff.mpr hitems, rfl⟩

/-- Entities are the same just if their records are alike, and pages of entities just if the pages
of records have the same token and records that are alike at each place. -/
theorem ofRecord_tells_apart (r : Resource) :
    (∀ record record' entity entity', r.ofRecord record = .ok entity →
      r.ofRecord record' = .ok entity' → (entity = entity' ↔ r.Alike record record')) ∧
    (∀ (page page' : Page r.Record) found found', page.mapM r.ofRecord = .ok found →
      page'.mapM r.ofRecord = .ok found' →
        (found = found' ↔
          List.Forall₂ r.Alike page.items page'.items ∧ page.nextToken = page'.nextToken)) ∧
    ∀ (page : Page r.Record) found, page.mapM r.ofRecord = .ok found ↔
      List.Forall₂ (fun record entity => r.ofRecord record = .ok entity) page.items found.items ∧
        found.nextToken = page.nextToken :=
  ⟨r.sameIff_ofRecord, r.sameIff_page, r.page_mapM_eq_ok_iff⟩

/-- A transaction, as it may be sent, that was made at some time. -/
def transactionMadeAt (createdAt : Binary64) : TransactionRecord where
  id := "t-1"
  owner := "o-1"
  version := 1
  createdAtEpochMs := createdAt
  updatedAtEpochMs := .zero
  cardId := "c-1"
  sequenceId := "s-1"
  transactionType := "PENDING"
  billedAmount := ⟨"USD", 5⟩
  transactedAmount := ⟨"EUR", 7⟩
  description := "shop"
  transactedAtEpochMs := .zero
  settledAtEpochMs := none
  declineReason := none
  charges := []

/-- Zero and the least double above it are different milliseconds, but the same instant. -/
theorem ofRecord_tells_apart_least :
    ∃ entity,
      Transaction.ofRecord (transactionMadeAt .zero) = .ok entity ∧
      Transaction.ofRecord (transactionMadeAt ⟨false, 1, by decide⟩) = .ok entity ∧
      transactionMadeAt .zero ≠ transactionMadeAt ⟨false, 1, by decide⟩ ∧
      (transactionMadeAt .zero).Alike (transactionMadeAt ⟨false, 1, by decide⟩) := by
  have hsome : (Transaction.ofRecord (transactionMadeAt .zero)).isOk = true := by decide +kernel
  have hsame : (Transaction.ofRecord (transactionMadeAt .zero)).toOption =
      (Transaction.ofRecord (transactionMadeAt ⟨false, 1, by decide⟩)).toOption := by
    decide +kernel
  obtain ⟨entity, h⟩ := Except.exists_ok_of_isOk hsome
  have h' : Transaction.ofRecord (transactionMadeAt ⟨false, 1, by decide⟩) = .ok entity := by
    rw [← Except.toOption_eq_some_iff, ← hsame, Except.toOption_eq_some_iff, h]
  exact ⟨entity, h, h', by decide, ((ofRecord_tells_apart .transaction).1 _ _ _ _ h h').mp rfl⟩

end Backend.Resource

end CardService
