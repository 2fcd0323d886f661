import CardService.Proofs.Backend.Answers
import CardService.Proofs.Client.Listing

/-!
# CardService — one request, and one way to read its answer

Every operation sends exactly one request, in the way that its document is meant for (`Asked`), and
results in what the table of answers gives for what came of it (`fetch_answered`). What a surrounding
backend sends along apart from that, be it further errors, data next to an error or other fields of
the data, has no influence.
-/

namespace CardService.Client

open Backend (CachePolicy Operation Reply Request)
open Subscription (Station)

variable {World Handler : Type}

/-! ## Sending -/

/-- How the request of an operation reaches the backend: as a query with a policy, or as a mutation
without one. The entry lists it, and the reply is what came of it. -/
inductive Asked (around : Surroundings World Handler) (op : Operation) (world : World) :
    Entry → Reply → World → Prop where
  | queried {policy : CachePolicy} {reply : Reply} {world' : World}
      (hkind : op.document.kind = .query) (hpolicy : op.request.policy = some policy)
      (hsent : around.query (serviceOf op) op.request world = (reply, world')) :
      Asked around op world (.queried (serviceOf op) op.request) reply world'
  | mutated {reply : Reply} {world' : World}
      (hkind : op.document.kind = .mutation) (hpolicy : op.request.policy = none)
      (hsent : around.mutate (serviceOf op) op.request world = (reply, world')) :
      Asked around op world (.mutated (serviceOf op) op.request) reply world'

/-- Each operation asks or changes something, and it has a policy just if it asks. -/
theorem kind_cases (op : Operation) :
    (op.document.kind = .query ∧ ∃ policy, op.request.policy = some policy) ∨
      (op.document.kind = .mutation ∧ op.request.policy = none) := by
  cases op with
  | setupFundingSource | completeFundingSource | refreshFundingSource | cancelFundingSource |
    cancelProvisionalFundingSource | reviewUnfundedFundingSource | provisionCard | updateCard |
    cancelCard => exact .inr ⟨rfl, rfl⟩
  | _ => exact .inl ⟨rfl, _, rfl⟩

/-- Whatever the surroundings are, the request of an operation reaches them. -/
theorem exists_asked (around : Surroundings World Handler) (op : Operation) (world : World) :
    ∃ entry reply world', Asked around op world entry reply world' := by
  rcases kind_cases op with ⟨hkind, policy, hpolicy⟩ | ⟨hkind, hpolicy⟩
  · exact ⟨_, _, _, .queried hkind hpolicy rfl⟩
  · exact ⟨_, _, _, .mutated hkind hpolicy rfl⟩

section Sending

variable {around : Surroundings World Handler} {service : Service} {request : Request}
variable {s : Station World Handler}

theorem send_query (hkind : request.document.kind = .query) :
    send around service request s =
      ((around.query service request s.world).1.mapError .transport,
        { s with world := (around.query service request s.world).2 }) := by
  rw [send]
  simp only [hkind]
  rfl

theorem send_mutation (hkind : request.document.kind = .mutation) :
    send around service request s =
      ((around.mutate service request s.world).1.mapError .transport,
        { s with world := (around.mutate service request s.world).2 }) := by
  rw [send]
  simp only [hkind]
  rfl

end Sending

/-! ## Fetching -/

variable {around : Surroundings World Handler} {op : Operation} {s : Station World Handler}
variable {entry : Entry} {reply : Reply} {world : World}

/-- An operation reads what came of its request, and does nothing else. -/
theorem fetch_of_asked (hasked : Asked around op s.world entry reply world) :
    fetch around op s = (op.readRecords (reply.mapError .transport), { s with world }) := by
  rw [fetch, Subscription.Hub.bind_run, Subscription.Hub.pure_run]
  -- by kind of document; the third kind, a subscription, is no operation's
  cases hasked with
  | queried hkind hpolicy hsent => rw [send_query hkind, hsent]
  | mutated hkind hpolicy hsent => rw [send_mutation hkind, hsent]

/-- Where requests are listed, the one request is all that is listed. -/
theorem Asked.listing (hasked : Asked around op s.world entry reply world) :
    Asked around.listing op (unwritten s).world entry reply (world, [entry]) := by
  cases hasked with
  | queried hkind hpolicy hsent =>
    refine .queried hkind hpolicy ?_
    show listed _ (around.query (serviceOf op) op.request) (s.world, []) = _
    rw [listed_run, hsent, List.nil_append]
  | mutated hkind hpolicy hsent =>
    refine .mutated hkind hpolicy ?_
    show listed _ (around.mutate (serviceOf op) op.request) (s.world, []) = _
    rw [listed_run, hsent, List.nil_append]

/-- Every operation, in all surroundings, sends exactly one request, as a query with a policy or as a
mutation without one, and that is all it does; its result is the one that the table of answers gives
for the reply; and it has the same result wherever the reply agrees on what the table looks at. -/
theorem fetch_answered (around : Surroundings World Handler) (op : Operation)
    (s : Station World Handler) :
    ∃ entry reply world result,
      Asked around op s.world entry reply world ∧
      fetch around op s = (result, { s with world }) ∧
      fetch around.listing op (unwritten s) = (result, { s with world := (world, [entry]) }) ∧
      (∀ result', op.Answered reply result' ↔ result' = result) ∧
      ∀ (around' : Surroundings World Handler) (t : Station World Handler) entry' reply' world',
        Asked around' op t.world entry' reply' world' →
        Operation.Agree op.document.field reply reply' → (fetch around' op t).1 = result := by
  obtain ⟨entry, reply, world, hasked⟩ := exists_asked around op s.world
  -- listing surroundings are surroundings, so the same lemma says what is listed
  refine ⟨entry, reply, world, op.readRecords (reply.mapError .transport), hasked,
    fetch_of_asked hasked, fetch_of_asked (s := unwritten s) hasked.listing,
    op.answered_iff reply, ?_⟩
  intro around' t entry' reply' world' hasked' hagree
  rw [fetch_of_asked hasked', Operation.readRecords_congr hagree]

end CardService.Client
