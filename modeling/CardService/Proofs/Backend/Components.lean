import CardService.Backend.Resource
import CardService.Proofs.Backend.Field
import CardService.Proofs.Outcome

/-!
# CardService — what a record has to be understood in

Most of a record is taken over as it is. What has to be understood are its instants, its keywords
and its payloads, down to those of the records within it; these are its components. The entity of a
record is there if all components are sound, and otherwise the first one that is not tells how it
fails. Names of networks, card types and account types are no components: any name will do.

Main result: `Resource.ofRecord_judges_components`.
-/

namespace CardService.Backend

/-- A part of a record that has to be understood. -/
inductive Component where
  | instant (ms : Binary64)
  | keyword (known : List String) (field name : String)
  | provisioningData (raw : String)
  | clientConfiguration (raw : String)

namespace Component

/-- An instant can be told, a keyword is one that is known, and a payload decodes. -/
def Sound : Component → Prop
  | .instant ms => ∃ t, Timestamp.ofEpochMs? (.finite ms) = some t
  | .keyword known _ name => name ∈ known
  | .provisioningData raw => ∃ data, Payload.decodeProvisioning raw = .ok data
  | .clientConfiguration raw => ∃ entries, Payload.decodeClientConfiguration raw = .ok entries

/-- A payload of a provider. -/
def IsPayload : Component → Prop
  | .instant _ => False
  | .keyword .. => False
  | .provisioningData _ => True
  | .clientConfiguration _ => True

/-- How a component that is not sound is refused. -/
inductive Refused : Component → Failure → Prop where
  | instant {ms : Binary64} (h : Timestamp.ofEpochMs? (.finite ms) = none) :
    Refused (.instant ms) (.unexpected (.invalidEpochMs (.finite ms)))
  | keyword {known : List String} {field name : String} (h : name ∉ known) :
    Refused (.keyword known field name) (.unexpected (.unknownKeyword field name))
  | provisioningData {raw : String} {e : Payload.DecodeError}
    (h : Payload.decodeProvisioning raw = .error e) : Refused (.provisioningData raw) (.decode e)
  | clientConfiguration {raw : String} {e : Payload.DecodeError}
    (h : Payload.decodeClientConfiguration raw = .error e) :
    Refused (.clientConfiguration raw) (.decode e)

variable {c : Component} {failure failure' : Failure}

theorem Refused.unique (h : c.Refused failure) (h' : c.Refused failure') : failure = failure' := by
  cases h with
  | instant _ => cases h' with | instant _ => rfl
  | keyword _ => cases h' with | keyword _ => rfl
  | provisioningData h =>
    cases h' with | provisioningData h' => rw [Except.error.inj (h.symm.trans h')]
  | clientConfiguration h =>
    cases h' with | clientConfiguration h' => rw [Except.error.inj (h.symm.trans h')]

theorem Refused.not_sound (h : c.Refused failure) : ¬ c.Sound := by
  intro hsound
  cases h with
  | instant h =>
    obtain ⟨t, ht⟩ := hsound
    rw [h] at ht
    cases ht
  | keyword h => exact h hsound
  | provisioningData h =>
    obtain ⟨data, hdata⟩ := hsound
    rw [h] at hdata
    cases hdata
  | clientConfiguration h =>
    obtain ⟨entries, hentries⟩ := hsound
    rw [h] at hentries
    cases hentries

/-- Payloads are refused as undecodable, and everything else as unexpected. -/
theorem Refused.kind (h : c.Refused failure) :
    (c.IsPayload ∧ ∃ e, failure = .decode e) ∨ ∃ cause, failure = .unexpected cause := by
  cases h with
  | instant _ => exact .inr ⟨_, rfl⟩
  | keyword _ => exact .inr ⟨_, rfl⟩
  | provisioningData _ => exact .inl ⟨trivial, _, rfl⟩
  | clientConfiguration _ => exact .inl ⟨trivial, _, rfl⟩

end Component

/-! ## The components of records -/

def Charge.components (r : ChargeRecord) : List Component :=
  r.state.toList.map (.keyword (names ChargeState) "charge state")

/-- The components of a transaction; those of its charges come first. -/
def Transaction.components (r : TransactionRecord) : List Component :=
  r.charges.flatMap Charge.components ++
    [.instant r.createdAtEpochMs, .instant r.updatedAtEpochMs,
      .keyword (names TransactionType) "transaction type" r.transactionType,
      .instant r.transactedAtEpochMs] ++
    r.settledAtEpochMs.toList.map .instant

/-- The components of a card; those of its last transaction come first. -/
def Card.components (r : CardRecord) : List Component :=
  r.lastTransaction.toList.flatMap Transaction.components ++
    [.instant r.createdAtEpochMs, .instant r.updatedAtEpochMs,
      .keyword (names CardState) "card state" r.state, .instant r.activatedAtEpochMs] ++
    r.cancelledAtEpochMs.toList.map .instant

def ProvisionalCard.components (r : ProvisionalCardRecord) : List Component :=
  [.instant r.createdAtEpochMs, .instant r.updatedAtEpochMs,
    .keyword (names ProvisioningState) "provisioning state" r.provisioningState] ++
    r.card.toList.flatMap Card.components

/-- The components of a funding source, whatever its account. -/
def FundingSource.components (r : FundingSourceRecord) : List Component :=
  [.instant r.createdAtEpochMs, .instant r.updatedAtEpochMs,
    .keyword (names FundingSourceState) "funding source state" r.state] ++
    r.flags.map (.keyword (names FundingSourceFlag) "funding source flag")

def ProvisionalFundingSource.components (r : ProvisionalFundingSourceRecord) : List Component :=
  [.instant r.createdAtEpochMs, .instant r.updatedAtEpochMs,
    .keyword (names FundingSourceType) "funding source type" r.fundingSourceType,
    .keyword (names ProvisionalFundingSourceState) "provisional funding source state" r.state,
    .provisioningData r.provisioningData]

def ClientConfiguration.components (r : ClientConfigurationRecord) : List Component :=
  [.clientConfiguration r.data]

def ServiceConfig.components (r : ServiceConfigRecord) : List Component :=
  r.fundingSourceSupport.map (fun support =>
    .keyword (names FundingSourceType) "funding source type" support.fundingSourceType) ++
    r.clientConfiguration.toList.flatMap ClientConfiguration.components

namespace Resource

/-- The components of a record, in the order in which they are looked at. -/
def components : (r : Resource) → r.Record → List Component
  | .serviceConfig => ServiceConfig.components
  | .clientConfiguration => ClientConfiguration.components
  | .fundingSource => FundingSource.components
  | .provisionalFundingSource => ProvisionalFundingSource.components
  | .card => Card.components
  | .provisionalCard => ProvisionalCard.components
  | .transaction => Transaction.components

end Resource

/-! ## Judging components -/

/-- The first component that is not sound is refused so. -/
def FirstRefused (components : List Component) (failure : Failure) : Prop :=
  ∃ before c after, components = before ++ c :: after ∧ (∀ b ∈ before, b.Sound) ∧ c.Refused failure

section FirstRefused

variable {c : Component} {components : List Component} {failure failure' : Failure}

theorem FirstRefused.exists_not_sound (h : FirstRefused components failure) :
    ∃ c ∈ components, ¬ c.Sound ∧ c.Refused failure := by
  obtain ⟨before, c, after, rfl, -, hc⟩ := h
  exact ⟨c, by simp, hc.not_sound, hc⟩

theorem firstRefused_cons_iff :
    FirstRefused (c :: components) failure ↔
      c.Refused failure ∨ c.Sound ∧ FirstRefused components failure := by
  constructor
  · rintro ⟨_ | ⟨b, before⟩, d, after, hsplit, hbefore, hd⟩
    · cases hsplit
      exact .inl hd
    · cases hsplit
      obtain ⟨hb, hbefore⟩ := List.forall_mem_cons.mp hbefore
      exact .inr ⟨hb, before, d, after, rfl, hbefore, hd⟩
  · rintro (hc | ⟨hc, before, d, after, rfl, hbefore, hd⟩)
    · exact ⟨[], c, components, rfl, nofun, hc⟩
    · exact ⟨c :: before, d, after, rfl, List.forall_mem_cons.mpr ⟨hc, hbefore⟩, hd⟩

theorem FirstRefused.unique (h : FirstRefused components failure)
    (h' : FirstRefused components failure') : failure = failure' := by
  induction components with
  | nil =>
    obtain ⟨c, hc, -⟩ := h.exists_not_sound
    cases hc
  | cons c components ih =>
    -- the first component is refused in both cases or in none, as it cannot be sound too
    rcases firstRefused_cons_iff.mp h with hc | ⟨hc, h⟩ <;>
      rcases firstRefused_cons_iff.mp h' with hc' | ⟨hc', h'⟩
    · exact hc.unique hc'
    · exact absurd hc' hc.not_sound
    · exact absurd hc hc'.not_sound
    · exact ih h h'

end FirstRefused

section Judging

variable {α β : Type}

/-- A computation that succeeds if all components are sound, and fails as the first one that is
not. -/
def Judges (components : List Component) : Except Failure α → Prop
  | .ok _ => ∀ c ∈ components, c.Sound
  | .error failure => FirstRefused components failure

variable {components components' : List Component} {x : Except Failure α}
  {f : α → Except Failure β}

theorem Judges.ok_iff (h : Judges components x) :
    (∃ a, x = .ok a) ↔ ∀ c ∈ components, c.Sound := by
  cases x with
  | ok a => exact ⟨fun _ => h, fun _ => ⟨a, rfl⟩⟩
  | error failure =>
    obtain ⟨c, hc, hsound, -⟩ := h.exists_not_sound
    exact ⟨nofun, fun hall => absurd (hall c hc) hsound⟩

theorem Judges.error_iff {failure : Failure} (h : Judges components x) :
    x = .error failure ↔ FirstRefused components failure := by
  constructor
  · rintro rfl
    exact h
  · intro hfirst
    cases x with
    | ok a =>
      obtain ⟨c, hc, hsound, -⟩ := hfirst.exists_not_sound
      exact absurd (h c hc) hsound
    | error failure' => rw [h.unique hfirst]

theorem judges_pure (a : α) : Judges [] (pure a : Except Failure α) := nofun

theorem judges_one {c : Component} (hok : ∀ a, x = .ok a → c.Sound)
    (herror : ∀ failure, x = .error failure → c.Refused failure) : Judges [c] x := by
  cases x with
  | ok a => exact fun b hb => List.mem_singleton.mp hb ▸ hok a rfl
  | error failure => exact ⟨[], c, [], rfl, nofun, herror failure rfl⟩

/-- What comes next is looked at only if all components so far are sound. -/
theorem Judges.bind (hx : Judges components x) (hf : ∀ a, Judges components' (f a)) :
    Judges (components ++ components') (x >>= f) := by
  cases x with
  | error failure =>
    -- the later components stand behind the one that is refused, and are not looked at
    obtain ⟨before, c, after, rfl, hbefore, hc⟩ := hx
    exact ⟨before, c, after ++ components', by simp, hbefore, hc⟩
  | ok a =>
    have hfa := hf a
    rw [Except.ok_bind]
    cases h : f a with
    | error failure =>
      rw [h] at hfa
      obtain ⟨before, c, after, rfl, hbefore, hc⟩ := hfa
      exact ⟨components ++ before, c, after, by simp,
        List.forall_mem_append.mpr ⟨hx, hbefore⟩, hc⟩
    | ok b =>
      rw [h] at hfa
      exact List.forall_mem_append.mpr ⟨hx, hfa⟩

/-- Packing a result looks at nothing more. -/
theorem Judges.bind_pure (hx : Judges components x) (g : α → β) :
    Judges components (x >>= fun a => pure (g a)) := by
  have h := hx.bind fun a => judges_pure (g a)
  rwa [List.append_nil] at h

theorem judges_mapM {g : α → Except Failure β} {each : α → List Component}
    (hg : ∀ a, Judges (each a) (g a)) (as : List α) : Judges (as.flatMap each) (as.mapM g) := by
  induction as with
  | nil => exact judges_pure []
  | cons a as ih =>
    rw [List.mapM_cons, List.flatMap_cons]
    exact (hg a).bind fun b => ih.bind_pure (b :: ·)

theorem judges_mapM_one {g : α → Except Failure β} {each : α → Component}
    (hg : ∀ a, Judges [each a] (g a)) (as : List α) : Judges (as.map each) (as.mapM g) := by
  rw [List.map_eq_flatMap]
  exact judges_mapM hg as

theorem judges_optional {g : α → Except Failure β} {each : α → List Component}
    (hg : ∀ a, Judges (each a) (g a)) (a : Option α) :
    Judges (a.toList.flatMap each) (a.mapM g) := by
  cases a with
  | none => exact judges_pure none
  | some a =>
    rw [Option.toList_some, List.flatMap_singleton]
    exact (hg a).bind_pure some

theorem judges_optional_one {g : α → Except Failure β} {each : α → Component}
    (hg : ∀ a, Judges [each a] (g a)) (a : Option α) : Judges (a.toList.map each) (a.mapM g) := by
  rw [List.map_eq_flatMap]
  exact judges_optional hg a

end Judging

/-! ### Single components -/

theorem instantOf_judges (ms : Binary64) : Judges [.instant ms] (instantOf ms) := by
  refine judges_one (fun t h => ⟨t, instantOf_eq_ok_iff.mp h⟩) fun failure h => ?_
  obtain ⟨hnone, rfl⟩ := instantOf_eq_error_iff.mp h
  exact .instant hnone

theorem keyword_judges {α : Type} [Keyword α] (field name : String) :
    Judges [.keyword (names α) field name] (keyword field name : Except Failure α) := by
  refine judges_one (fun a h => mem_names_of_keyword h) fun failure h => ?_
  obtain ⟨hname, rfl⟩ := keyword_eq_error_iff.mp h
  exact .keyword hname

theorem decoded_judges {α : Type} {x : Except Payload.DecodeError α} {c : Component}
    (hok : ∀ a, x = .ok a → c.Sound) (herror : ∀ e, x = .error e → c.Refused (.decode e)) :
    Judges [c] (x.mapError Failure.decode) := by
  refine judges_one (fun a h => hok a (Except.mapError_eq_ok_iff.mp h)) fun failure h => ?_
  obtain ⟨e, he, rfl⟩ := Except.mapError_eq_error_iff.mp h
  exact herror e he

theorem decodeProvisioning_judges (raw : String) :
    Judges [.provisioningData raw] ((Payload.decodeProvisioning raw).mapError Failure.decode) :=
  decoded_judges (fun data h => ⟨data, h⟩) fun _ h => .provisioningData h

theorem clientConfiguration_judges (r : ClientConfigurationRecord) :
    Judges (ClientConfiguration.components r) (clientConfigurationOfRecord r) :=
  decoded_judges (fun entries h => ⟨entries, h⟩) fun _ h => .clientConfiguration h

/-! ### Whole records -/

theorem charge_judges (r : ChargeRecord) : Judges (Charge.components r) (Charge.ofRecord r) :=
  (judges_optional_one (keyword_judges "charge state") r.state).bind_pure _

theorem transaction_judges (r : TransactionRecord) :
    Judges (Transaction.components r) (Transaction.ofRecord r) := by
  rw [Transaction.components, List.append_assoc]
  exact (judges_mapM charge_judges r.charges).bind fun _ =>
    (instantOf_judges _).bind fun _ => (instantOf_judges _).bind fun _ =>
    (keyword_judges _ _).bind fun _ => (instantOf_judges _).bind fun _ =>
    (judges_optional_one instantOf_judges r.settledAtEpochMs).bind_pure _

theorem card_judges (r : CardRecord) : Judges (Card.components r) (Card.ofRecord r) := by
  rw [Card.components, List.append_assoc]
  exact (judges_optional transaction_judges r.lastTransaction).bind fun _ =>
    (instantOf_judges _).bind fun _ => (instantOf_judges _).bind fun _ =>
    (keyword_judges _ _).bind fun _ => (instantOf_judges _).bind fun _ =>
    (judges_optional_one instantOf_judges r.cancelledAtEpochMs).bind_pure _

theorem provisionalCard_judges (r : ProvisionalCardRecord) :
    Judges (ProvisionalCard.components r) (ProvisionalCard.ofRecord r) :=
  (instantOf_judges _).bind fun _ => (instantOf_judges _).bind fun _ =>
  (keyword_judges _ _).bind fun _ => (judges_optional card_judges r.card).bind_pure _

theorem fundingSource_judges (r : FundingSourceRecord) :
    Judges (FundingSource.components r) (FundingSource.ofRecord r) :=
  (instantOf_judges _).bind fun _ => (instantOf_judges _).bind fun _ =>
  (keyword_judges _ _).bind fun _ =>
  (judges_mapM_one (keyword_judges "funding source flag") r.flags).bind_pure _

theorem provisionalFundingSource_judges (r : ProvisionalFundingSourceRecord) :
    Judges (ProvisionalFundingSource.components r) (ProvisionalFundingSource.ofRecord r) :=
  (instantOf_judges _).bind fun _ => (instantOf_judges _).bind fun _ =>
  (keyword_judges _ _).bind fun _ => (keyword_judges _ _).bind fun _ =>
  (decodeProvisioning_judges _).bind_pure _

theorem fundingSourceSupport_judges (r : FundingSourceSupportRecord) :
    Judges [.keyword (names FundingSourceType) "funding source type" r.fundingSourceType]
      (FundingSourceSupport.ofRecord r) :=
  (keyword_judges _ _).bind_pure _

theorem serviceConfig_judges (r : ServiceConfigRecord) :
    Judges (ServiceConfig.components r) (ServiceConfig.ofRecord r) :=
  (judges_mapM_one fundingSourceSupport_judges r.fundingSourceSupport).bind fun _ =>
  (judges_optional clientConfiguration_judges r.clientConfiguration).bind_pure _

namespace Resource

theorem ofRecord_judges (r : Resource) (record : r.Record) :
    Judges (r.components record) (r.ofRecord record) := by
  cases r with
  | serviceConfig => exact serviceConfig_judges record
  | clientConfiguration => exact clientConfiguration_judges record
  | fundingSource => exact fundingSource_judges record
  | provisionalFundingSource => exact provisionalFundingSource_judges record
  | card => exact card_judges record
  | provisionalCard => exact provisionalCard_judges record
  | transaction => exact transaction_judges record

/-! ## Names that are taken as they come -/

/-- A record that differs in names of networks, card types and account types, or in more of what is
no component: a funding source with any other account, and a configuration with any other support
for the same types of funding sources. -/
def Relabelled : (r : Resource) → r.Record → r.Record → Prop
  | .serviceConfig, record, record' =>
    ∃ support, record' = { record with fundingSourceSupport := support } ∧
      support.map (·.fundingSourceType) = record.fundingSourceSupport.map (·.fundingSourceType)
  | .fundingSource, record, record' => ∃ account, record' = record.withAccount account
  | .clientConfiguration, record, record' => record' = record
  | .provisionalFundingSource, record, record' => record' = record
  | .card, record, record' => record' = record
  | .provisionalCard, record, record' => record' = record
  | .transaction, record, record' => record' = record

theorem Relabelled.components_eq {r : Resource} {record record' : r.Record}
    (h : r.Relabelled record record') : r.components record' = r.components record := by
  cases r with
  | serviceConfig =>
    obtain ⟨support, rfl, hsupport⟩ := h
    -- of the support only the types of funding sources are components
    have htypes := congrArg
      (List.map (Component.keyword (names FundingSourceType) "funding source type")) hsupport
    rw [List.map_map, List.map_map] at htypes
    exact congrArg (· ++ _) htypes
  | fundingSource =>
    obtain ⟨account, rfl⟩ := h
    rfl
  | clientConfiguration => rw [h]
  | provisionalFundingSource => rw [h]
  | card => rw [h]
  | provisionalCard => rw [h]
  | transaction => rw [h]

/-! ## Records and pages -/

/-- A failure to decode comes from a payload that does not, and any other failure is unexpected. -/
theorem kind_of_ofRecord_error {r : Resource} {record : r.Record} {failure : Failure}
    (h : r.ofRecord record = .error failure) :
    ((∃ e, failure = .decode e) ∧ ∃ c ∈ r.components record, c.IsPayload ∧ ¬ c.Sound) ∨
      ∃ cause, failure = .unexpected cause := by
  have hfirst := (r.ofRecord_judges record).error_iff.mp h
  obtain ⟨c, hc, hsound, hrefused⟩ := hfirst.exists_not_sound
  rcases hrefused.kind with ⟨hpayload, hdecode⟩ | hunexpected
  · exact .inl ⟨hdecode, c, hc, hpayload, hsound⟩
  · exact .inr hunexpected

/-- A record has an entity if all its components are sound, whatever names of networks, card types
and account types it gives; otherwise it fails as its first unsound component. A page has entities
if all its records have, and otherwise fails as the first record that has none. -/
theorem ofRecord_judges_components (r : Resource) :
    (∀ record : r.Record,
      ((∃ entity, r.ofRecord record = .ok entity) ↔ ∀ c ∈ r.components record, c.Sound) ∧
      (∀ record', r.Relabelled record record' →
        ((∃ entity, r.ofRecord record' = .ok entity) ↔ ∃ entity, r.ofRecord record = .ok entity)) ∧
      (∀ failure, r.ofRecord record = .error failure ↔
        FirstRefused (r.components record) failure) ∧
      ∀ failure, r.ofRecord record = .error failure →
        ((∃ e, failure = .decode e) ∧ ∃ c ∈ r.components record, c.IsPayload ∧ ¬ c.Sound) ∨
          ∃ cause, failure = .unexpected cause) ∧
    ∀ page : Page r.Record,
      ((∃ entities, page.mapM r.ofRecord = .ok entities) ↔
        ∀ record ∈ page.items, ∀ c ∈ r.components record, c.Sound) ∧
      ∀ failure, page.mapM r.ofRecord = .error failure ↔
        ∃ before record after, page.items = before ++ record :: after ∧
          (∀ earlier ∈ before, ∃ entity, r.ofRecord earlier = .ok entity) ∧
          r.ofRecord record = .error failure := by
  refine ⟨fun record => ⟨(r.ofRecord_judges record).ok_iff, fun record' hrelabelled => ?_,
    fun failure => (r.ofRecord_judges record).error_iff, fun failure => kind_of_ofRecord_error⟩,
    fun page => ?_⟩
  · rw [(r.ofRecord_judges record).ok_iff, (r.ofRecord_judges record').ok_iff,
      hrelabelled.components_eq]
  · have hpage : Judges (page.items.flatMap r.components) (page.mapM r.ofRecord) :=
      (judges_mapM r.ofRecord_judges page.items).bind_pure _
    refine ⟨?_, fun failure => ?_⟩
    · rw [hpage.ok_iff]
      simp only [List.mem_flatMap]
      exact ⟨fun h record hrecord c hc => h c ⟨record, hrecord, hc⟩,
        fun h c ⟨record, hrecord, hc⟩ => h record hrecord c hc⟩
    · rw [← Except.mapM_eq_error_iff, Page.mapM]
      cases page.items.mapM r.ofRecord with
      | ok entities => exact ⟨nofun, nofun⟩
      | error failure' => rw [Except.error_bind, Except.error.injEq, Except.error.injEq]

/-- A provisional funding source of an unknown type, with a payload that is not one. -/
def cashSource : ProvisionalFundingSourceRecord where
  id := "fs-1"
  owner := "o-1"
  version := 1
  createdAtEpochMs := .zero
  updatedAtEpochMs := .zero
  fundingSourceType := "CASH"
  provisioningData := "?"
  state := "PENDING"
  last4 := none

/-- The type is looked at before the payload. -/
theorem ofRecord_judges_components_cash :
    ProvisionalFundingSource.ofRecord cashSource =
      .error (.unexpected (.unknownKeyword "funding source type" "CASH")) ∧
    ¬ (Component.provisioningData cashSource.provisioningData).Sound := by
  have hinstant : (Component.instant .zero).Sound :=
    Option.isSome_iff_exists.mp (by decide +kernel)
  constructor
  · refine (((ofRecord_judges_components .provisionalFundingSource).1 cashSource).2.2.1 _).mpr
      ⟨[.instant .zero, .instant .zero], .keyword (names FundingSourceType) "funding source type"
        "CASH", _, rfl, ?_, .keyword (by decide)⟩
    simp [hinstant]
  · rintro ⟨data, hdata⟩
    have hnone : (Payload.decodeProvisioning cashSource.provisioningData).toOption = none := by
      decide +kernel
    rw [← Except.toOption_eq_some_iff, hnone] at hdata
    cases hdata

end Resource

end CardService.Backend
