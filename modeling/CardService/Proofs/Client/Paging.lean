import CardService.Backend.Listing
import CardService.Proofs.Client.Fetching
import CardService.Proofs.Client.Gate
import CardService.Proofs.Config.Validity
import CardService.Proofs.Json.Members
import CardService.Proofs.Timestamp.RoundTrip

/-!
# CardService — pages on the wire

What a user asks a listing for is handed on through the client, its services and the backend's
operations. What arrives is told here member by member (`Listing.Carried`): each part of the input has
one member, of its own name, and there are no others. Only a limit that is left open is filled in, and
a client that has been made has a default limit that the backend accepts (`build_valid`).

Main result: `listings_carried`.
-/

namespace CardService.Backend

/-! ## Listings -/

/-- The page that is listed. -/
def Listing.page : Listing → PageRequest
  | .fundingSources page | .provisionalFundingSources page | .provisionalCards page | .cards page =>
    page
  | .cardTransactions _ input | .transactions input => input.page

/-- What is asked of transactions. -/
def Listing.input? : Listing → Option TransactionListInput
  | .cardTransactions _ input | .transactions input => some input
  | _ => none

/-- The card whose transactions are listed. -/
def Listing.card? : Listing → Option CardId
  | .cardTransactions card _ => some card
  | _ => none

/-- A span is sent as milliseconds: both ends are finite, and each has its own name. -/
def SentAs (range : DateRange) (value : Json) : Prop :=
  ∃ start finish, range.start.toEpochMs = .finite start ∧ range.finish.toEpochMs = .finite finish ∧
    value = .object
      [("startDateEpochMs", .number (.float start)), ("endDateEpochMs", .number (.float finish))]

/-- Variables carry what a listing asks for, with a limit to fall back on, and nothing else. -/
structure Listing.Carried (listing : Listing) (fallback : UInt32) (members : Members) : Prop where
  keys : (members.map Prod.fst).Nodup
  limit : members.get? "limit" = some (.ofUInt32 (listing.page.limit.getD fallback))
  nextToken : members.get? "nextToken" = some (.ofOption .string listing.page.nextToken)
  dateRange : Option.Rel SentAs (listing.input?.bind (·.dateRange)) (members.get? "dateRange")
  sortOrder : members.get? "sortOrder" =
    listing.input?.map fun input => .string (Keyword.name input.sortOrder)
  card : members.get? "cardId" = listing.card?.map fun card => .string card.text
  others : ∀ key, key ∉ ["limit", "nextToken", "dateRange", "sortOrder", "cardId"] →
    members.get? key = none

/-! ## What is sent -/

/-- The span of every date range can be sent. -/
theorem sentAs_toEpoch (range : DateRange) : SentAs range range.toEpoch.toJson := by
  -- the milliseconds of an instant are finite, so neither end is sent as `null`
  obtain ⟨start, hstart, -⟩ := range.start.toEpochMs_near
  obtain ⟨finish, hfinish, -⟩ := range.finish.toEpochMs_near
  refine ⟨start, finish, hstart, hfinish, ?_⟩
  rw [DateRange.toEpoch, EpochRange.toJson, hstart, hfinish]
  rfl

/-- The variables of all listings are put together in the same way. -/
theorem Listing.bindings_eq (listing : Listing) (policy : CachePolicy) (limit : UInt32) :
    ((listing.operation policy).withLimit limit).bindings = .object
      ([("limit", .ofUInt32 (listing.page.limit.getD limit)),
          ("nextToken", .ofOption .string listing.page.nextToken)] ++
        Members.optional "dateRange" (fun range : DateRange => range.toEpoch.toJson)
          (listing.input?.bind (·.dateRange)) ++
        Members.optional "sortOrder" (fun input : TransactionListInput =>
          .string (Keyword.name input.sortOrder)) listing.input? ++
        Members.optional "cardId" (fun card : CardId => .string card.text) listing.card?) := by
  -- where no transactions are listed, the optional members are absent
  cases listing with
  | cardTransactions card input =>
    obtain ⟨page, range, order⟩ := input
    cases range <;> rfl
  | transactions input =>
    obtain ⟨page, range, order⟩ := input
    cases range <;> rfl
  | _ => rfl

theorem Listing.carried (listing : Listing) (policy : CachePolicy) (limit : UInt32) :
    ∃ members : Members, ((listing.operation policy).withLimit limit).bindings = .object members ∧
      listing.Carried limit members := by
  refine ⟨_, listing.bindings_eq policy limit, ?_⟩
  constructor
  case keys =>
    -- some of the keys that there may be, which are all different
    have hall : ["limit", "nextToken", "dateRange", "sortOrder", "cardId"].Nodup := by decide
    refine hall.sublist ?_
    simp only [List.map_append]
    exact (((List.Sublist.refl ["limit", "nextToken"]).append
      (Members.optional_keys_sublist _ _ _)).append
      (Members.optional_keys_sublist _ _ _)).append (Members.optional_keys_sublist _ _ _)
  case limit => simp
  case nextToken => simp
  case dateRange =>
    simp only [Members.get?_append, Members.get?_cons, Members.get?_nil, Members.get?_optional]
    cases listing.input?.bind (·.dateRange) with
    | none => exact .none
    | some range => exact .some (sentAs_toEpoch range)
  case sortOrder => simp
  case card => simp
  case others =>
    intro key hkey
    simp only [List.mem_cons, List.not_mem_nil, or_false, not_or] at hkey
    simp [hkey]

theorem Listing.request_eq (listing : Listing) (policy : CachePolicy) (limit : UInt32) :
    ∃ members : Members, ((listing.operation policy).withLimit limit).request =
        ⟨(listing.operation policy).document, .object members, some policy⟩ ∧
      listing.Carried limit members := by
  obtain ⟨members, hbindings, hcarried⟩ := listing.carried policy limit
  refine ⟨members, ?_, hcarried⟩
  rw [Operation.request, hbindings]
  cases listing <;> rfl

theorem Listing.kind (listing : Listing) (policy : CachePolicy) :
    (listing.operation policy).document.kind = .query := by
  cases listing <;> rfl

end CardService.Backend

namespace CardService.Client

open Backend (CachePolicy Listing Operation Request)
open Subscription (Hub Station)

/-! ## New clients -/

section Making

variable {World Given : Type} {opens : String → StateM World Bool} {config : Option ClientConfig}
variable {given : Option Given} {world world' : World} {client : Built Given}

/-- A client that has been made has the configuration that it was to have, and that is valid. -/
theorem build_valid (hbuilt : build opens config given world = (.ok client, world')) :
    client.config = config.getD {} ∧ client.config.Valid := by
  unfold build at hbuilt
  cases hvalid : (config.getD {}).validate with
  | error problem =>
    rw [hvalid] at hbuilt
    cases hbuilt
  | ok checked =>
    rw [hvalid] at hbuilt
    have hconfig : client.config = config.getD {} := by
      cases given with
      | some sink =>
        cases hbuilt
        rfl
      | none =>
        -- what the events are written to has been opened
        obtain ⟨target, -, rfl⟩ := Except.map_eq_ok_iff.mp (congrArg Prod.fst hbuilt)
        rfl
    exact ⟨hconfig, hconfig ▸ ClientConfig.validate_eq_ok_iff.mp hvalid⟩

end Making

/-! ## Requests for pages -/

variable {World Handler : Type} {around : Surroundings World Handler} {config : ClientConfig}
variable {s : Station World Handler} {op : Operation} {request : Request}

/-- For a signed-in user, a query is sent before its outcome is noted. -/
theorem Call.body_of_query (hsignedIn : (around.isSignedIn s.world).1 = .ok true)
    (hrequest : (op.withLimit config.list.defaultLimit).request = request)
    (hkind : request.document.kind = .query) :
    (Call.operation op).body around config s =
      (some (op.readResult ((around.query (serviceOf op) request
          (around.isSignedIn s.world).2).1.mapError .transport)),
        { s with world :=
          (around.query (serviceOf op) request (around.isSignedIn s.world).2).2 }) := by
  have hgate := ensureSignedIn_run around s
  rw [hsignedIn] at hgate
  rw [Call.body, Hub.bind_run, hgate]
  -- the gate is open, and leaves a world in which the session has been asked
  show (execute around config op >>= fun result => pure (some result)) _ = _
  rw [Hub.bind_run, execute, hrequest, Hub.bind_run, send_query hkind]
  rfl

/-- The query is the one request of the call. -/
theorem Call.entries_of_query (hsignedIn : (around.isSignedIn s.world).1 = .ok true)
    (hrequest : (op.withLimit config.list.defaultLimit).request = request)
    (hkind : request.document.kind = .query) :
    ∃ event, (Call.operation op).entries around config s =
      [.queried (serviceOf op) request, .noted event] := by
  -- the listing surroundings have the same session, and they list the query before the note
  have hlisted : (around.listing.isSignedIn (unwritten s).world).1 = .ok true := hsignedIn
  have hbody := Call.body_of_query hlisted hrequest hkind
  rw [Call.entries, Call.act_run, hbody]
  exact ⟨_, rfl⟩

/-! ## Clients that have been made -/

/-- However a client was made: its default limit is that of the configuration it was made with, and
lies between 1 and 100; and whatever a signed-in user lists, one request is sent, a query with the
policy that was given, which carries what is listed and nothing else. -/
theorem listings_carried {World Given Outside Handler : Type} {opens : String → StateM World Bool}
    {config : Option ClientConfig} {given : Option Given} {world world' : World}
    {client : Built Given} (hbuilt : build opens config given world = (.ok client, world'))
    (around : Surroundings Outside Handler) (s : Station Outside Handler)
    (hsignedIn : (around.isSignedIn s.world).1 = .ok true) (listing : Listing)
    (policy : CachePolicy) :
    client.config = config.getD {} ∧
    1 ≤ client.config.list.defaultLimit.toNat ∧ client.config.list.defaultLimit.toNat ≤ 100 ∧
    ∃ (members : Members) (event : Audit.CallEvent),
      (Call.operation (listing.operation policy)).entries around client.config s =
        [.queried (serviceOf (listing.operation policy))
            ⟨(listing.operation policy).document, .object members, some policy⟩,
          .noted event] ∧
      listing.Carried client.config.list.defaultLimit members := by
  obtain ⟨hconfig, hvalid⟩ := build_valid hbuilt
  obtain ⟨hpositive, hle⟩ := hvalid.limit
  obtain ⟨members, hrequest, hcarried⟩ :=
    listing.request_eq policy client.config.list.defaultLimit
  have hkind := listing.kind policy
  obtain ⟨event, hentries⟩ := Call.entries_of_query hsignedIn hrequest hkind
  exact ⟨hconfig, hpositive, hle, members, event, hentries, hcarried⟩

/-- The transactions of a card on the first day of 1970, from the oldest to the newest. -/
def firstDay : Listing :=
  .cardTransactions ⟨"card"⟩
    { page := ⟨none, some "next"⟩
      dateRange := some ⟨⟨0, by decide⟩, ⟨86399999999999, by decide⟩⟩
      sortOrder := .ascending }

/-- They are listed by a client with the default configuration, ten at a time. -/
theorem listings_carried_firstDay :
    build (fun _ => pure true : String → StateM Unit Bool) none (some ()) () =
        (.ok ⟨{}, .given ()⟩, ()) ∧
      (lobby.isSignedIn true).1 = .ok true ∧
      ∃ (members : Members) (event : Audit.CallEvent),
        (Call.operation (firstDay.operation .remoteOnly)).entries lobby {} ⟨.empty, [], true⟩ =
          [.queried .transactions ⟨.listTransactionsByCardId, .object members, some .remoteOnly⟩,
            .noted event] ∧
        members.get? "limit" = some (.ofUInt32 10) ∧
        members.get? "nextToken" = some (.string "next") ∧
        members.get? "dateRange" ≠ none ∧
        members.get? "sortOrder" = some (.string "ASC") ∧
        members.get? "cardId" = some (.string "card") := by
  have hbuilt : build (fun _ => pure true : String → StateM Unit Bool) none (some ()) () =
      (.ok ⟨{}, .given ()⟩, ()) := rfl
  obtain ⟨-, -, -, members, event, hentries, hcarried⟩ :=
    listings_carried hbuilt lobby ⟨.empty, [], true⟩ rfl firstDay .remoteOnly
  have hrange : members.get? "dateRange" ≠ none := by
    intro hnone
    have hrel := hcarried.dateRange
    rw [hnone] at hrel
    cases hrel
  exact ⟨hbuilt, rfl, members, event, hentries, hcarried.limit, hcarried.nextToken, hrange,
    hcarried.sortOrder, hcarried.card⟩

end CardService.Client
