import SlaSettle.Effect.Throwing
import SlaSettle.Indexer.Holds
import SlaSettle.Indexer.Wire

/-!
# The chain behind the RPC

What ingestion may ask of its surroundings, and what the RPC may answer. The calls are those of
`EventClient` and of the database classes; any of them may throw instead of answering, and a call
that throws leaves the database as it was (a SQLite transaction or a D1 batch is atomic).

A `Chain` is the whole history of the watched contracts, in chain order, as it will turn out to
be. The RPC at any time may know only part of it, so a page is a run of events of any length, also
an empty one, from the position requested on (`Chain.Serves`). A ledger number stands for the
position of the first event in that ledger or a later one; a cursor is opaque, and the chain
records which position it stands for. `latestLedger` is at or above the ledgers of the page.
-/

namespace SlaSettle

namespace Indexer

open Js Effect

/-! ### Calls -/

/-- `EventsCursor`: a start ledger or a cursor, never both. -/
inductive EventsCursor where
  | ledger (startLedger : JsNumber)
  | cursor (cursor : String)
  deriving DecidableEq

/-- The response of `getEvents`, as far as it is read. The cursor is optional, as the poller's
tests and the nullable column have it. -/
structure GetEventsResponse where
  events : List RawEvent
  latestLedger : ℕ
  cursor : Option String

/-- The calls of an ingestion step. -/
inductive IngestCall where
  | getCheckpoint
  | getLatestLedger
  | getEvents (contractIds : List String) (cursor : EventsCursor) (limit : ℕ)
  | applyBatch (params : BatchParams)

/-- What a call returns when it does not throw. -/
def IngestCall.Returns : IngestCall → Type
  | getCheckpoint => Option CheckpointRow
  | getLatestLedger => ℕ
  | getEvents _ _ _ => GetEventsResponse
  | applyBatch _ => Unit

/-- The interface of an ingestion step: every call may throw. -/
abbrev ingestInterface : Interface := throwing Thrown IngestCall.Returns

/-- An ingestion step: it calls out, and may throw. -/
abbrev Ingest (α : Type) : Type := Throwing Thrown IngestCall.Returns α

/-- Await one call of an ingestion step. -/
abbrev IngestCall.await (c : IngestCall) : Ingest c.Returns := ask c

/-! ### The chain -/

/-- The events of the watched contracts, in chain order, under distinct ids. The vault numbers its
SLAs, so no two `sla_created` events share an `sla_id`. -/
structure Chain where
  events : List RawEvent
  ordered : events.Pairwise fun e e' => e.ledger ≤ e'.ledger
  ids : (events.map RawEvent.id).Nodup
  slaIds : (((history events).filterMap ContractEvent.sla?).map SlaRow.slaId).Nodup
  /-- The position a cursor stands for. -/
  position : String → ℕ

namespace Chain

/-- The chain on which the contracts emitted the events `es`. -/
def ofEmitted (es : List (EventHeader × OnChainEvent)) (position : String → ℕ)
    (ordered : es.Pairwise fun e e' => e.1.ledger ≤ e'.1.ledger)
    (ids : (es.map fun e => e.1.id).Nodup)
    (slaIds : (((es.map fun e => e.2.row e.1).filterMap ContractEvent.sla?).map
      SlaRow.slaId).Nodup) : Chain where
  events := es.map fun e => e.2.encode e.1
  ordered := List.pairwise_map.mpr ordered
  ids := by
    rw [List.map_map]
    exact ids
  slaIds := by
    rw [history_map_encode]
    exact slaIds
  position := position

variable (chain : Chain)

/-- The position a request starts from. -/
def indexOf : EventsCursor → ℕ
  | .ledger startLedger => chain.events.countP fun e => JsNumber.lt e.ledger startLedger
  | .cursor cursor => chain.position cursor

/-- The events from position `i` up to position `j`. -/
def between (i j : ℕ) : List RawEvent := (chain.events.drop i).take (j - i)

/-- The pages the RPC may answer a request with: a contiguous run of events from the position
requested, at most `limit` of them, and, if it carries one, a cursor for the position after. -/
structure Serves (q : EventsCursor) (limit : ℕ) (page : GetEventsResponse) : Prop where
  events : page.events <+: chain.events.drop (chain.indexOf q)
  limit : page.events.length ≤ limit
  tip : ∀ e ∈ page.events, e.ledger ≤ page.latestLedger
  cursor : ∀ c, page.cursor = some c → c ≠ "" →
    chain.position c = chain.indexOf q + page.events.length

/-- The position after a page served for `q`. -/
def after (q : EventsCursor) (page : GetEventsResponse) : ℕ :=
  chain.indexOf q + page.events.length

end Chain

/-- The response carries a cursor. -/
def GetEventsResponse.CarriesCursor (page : GetEventsResponse) : Prop :=
  ∃ c, page.cursor = some c ∧ c ≠ ""

/-- The world of an ingestion step: the database, and an RPC that answers `getEvents` with the
pages of `rpc` and `getLatestLedger` with anything. -/
inductive Answers (rpc : EventsCursor → ℕ → GetEventsResponse → Prop) :
    Db → (c : IngestCall) → Except Thrown c.Returns → Db → Prop
  | throws {db : Db} {c : IngestCall} {e : Thrown} : Answers rpc db c (.error e) db
  | getCheckpoint {db : Db} : Answers rpc db .getCheckpoint (.ok db.checkpoint) db
  | getLatestLedger {db : Db} {latest : ℕ} :
      Answers rpc db .getLatestLedger (.ok latest) db
  | getEvents {db : Db} {contractIds : List String} {q : EventsCursor} {limit : ℕ}
      {page : GetEventsResponse} (served : rpc q limit page) :
      Answers rpc db (.getEvents contractIds q limit) (.ok page) db
  | applyBatch {db : Db} {params : BatchParams} :
      Answers rpc db (.applyBatch params) (.ok ()) (db.applyBatch params)

/-- A page the RPC answered with is one it may serve, and asking changes nothing. -/
theorem answers_getEvents_ok_iff {rpc : EventsCursor → ℕ → GetEventsResponse → Prop} {db db' : Db}
    {contractIds : List String} {q : EventsCursor} {limit : ℕ} {page : GetEventsResponse} :
    Answers rpc db (.getEvents contractIds q limit) (.ok page) db' ↔
      rpc q limit page ∧ db' = db := by
  constructor
  · rintro ⟨⟩
    exact ⟨‹_›, rfl⟩
  · rintro ⟨served, rfl⟩
    exact .getEvents served

/-! ### Positions -/

namespace Chain

variable {chain : Chain} {q : EventsCursor} {limit : ℕ} {page : GetEventsResponse}

/-- A page is what lies between its two positions. -/
theorem Serves.events_eq (h : chain.Serves q limit page) :
    page.events = chain.between (chain.indexOf q) (chain.after q page) := by
  rw [between, after, Nat.add_sub_cancel_left]
  exact List.prefix_iff_eq_take.mp h.events

theorem Serves.subset (h : chain.Serves q limit page) : page.events ⊆ chain.events := by
  intro e he
  exact List.mem_of_mem_drop (h.events.subset he)

/-- The events up to `j` and on to `k` are the events up to `k`. -/
theorem between_append {i j k : ℕ} (hij : i ≤ j) (hjk : j ≤ k) :
    chain.between i j ++ chain.between j k = chain.between i k := by
  have hk : k - i = (j - i) + (k - j) := by omega
  have hj : j = i + (j - i) := by omega
  rw [between, between, between, hk, List.take_add, List.drop_drop, ← hj]

/-- What is left from `i` on is what lies up to `j` and what is left from there. -/
theorem drop_eq_between_append {i j : ℕ} (hij : i ≤ j) :
    chain.events.drop i = chain.between i j ++ chain.events.drop j := by
  have hj : chain.events.drop j = (chain.events.drop i).drop (j - i) := by
    rw [List.drop_drop, show i + (j - i) = j by omega]
  rw [hj, between, List.take_append_drop]

@[simp]
theorem between_self (i : ℕ) : chain.between i i = [] := by
  simp [between]

theorem between_sublist (i j : ℕ) : (chain.between i j).Sublist chain.events :=
  (List.take_sublist _ _).trans (List.drop_sublist _ _)

/-- Membership, by position. -/
theorem mem_between {i j : ℕ} {raw : RawEvent} :
    raw ∈ chain.between i j ↔ ∃ k, i ≤ k ∧ k < j ∧ chain.events[k]? = some raw := by
  rw [between, List.mem_iff_getElem?]
  constructor
  · rintro ⟨n, hn⟩
    rw [List.getElem?_take] at hn
    split at hn
    · rw [List.getElem?_drop] at hn
      exact ⟨i + n, by omega, by omega, hn⟩
    · cases hn
  · rintro ⟨k, hik, hkj, hk⟩
    refine ⟨k - i, ?_⟩
    rw [List.getElem?_take, if_pos (by omega), List.getElem?_drop]
    rwa [show i + (k - i) = k by omega]

/-- What lies before `k` lies before `j` or between the two. -/
theorem between_subset (i j k : ℕ) :
    chain.between i k ⊆ chain.between i j ++ chain.between j k := by
  intro raw hraw
  obtain ⟨n, hin, hnk, hn⟩ := mem_between.mp hraw
  refine List.mem_append.mpr ?_
  by_cases hnj : n < j
  · exact .inl (mem_between.mpr ⟨n, hin, hnj, hn⟩)
  · exact .inr (mem_between.mpr ⟨n, by omega, hnk, hn⟩)

/-- In a list ordered so that `p` holds on a prefix, `countP p` is where it stops holding. -/
private theorem holds_of_lt_countP {p : RawEvent → Bool} {raws : List RawEvent} {k : ℕ}
    {raw : RawEvent} (hordered : raws.Pairwise fun e e' => p e' → p e)
    (hk : k < raws.countP p) (hraw : raws[k]? = some raw) : p raw := by
  induction raws generalizing k with
  | nil => simp at hk
  | cons e raws ih =>
    obtain ⟨hhead, htail⟩ := List.pairwise_cons.mp hordered
    have he : p e := by
      obtain ⟨e', he', hpe'⟩ := List.countP_pos_iff.mp (Nat.zero_lt_of_lt hk)
      rcases List.mem_cons.mp he' with rfl | he'
      · exact hpe'
      · exact hhead e' he' hpe'
    cases k with
    | zero =>
      rw [List.getElem?_cons_zero, Option.some.injEq] at hraw
      exact hraw ▸ he
    | succ k =>
      rw [List.countP_cons_of_pos he] at hk
      exact ih htail (by omega) hraw

/-- An event before the position of a ledger number is in an earlier ledger. -/
theorem ledger_lt_of_lt_indexOf {startLedger : JsNumber} {k : ℕ} {raw : RawEvent}
    (hk : k < chain.indexOf (.ledger startLedger)) (hraw : chain.events[k]? = some raw) :
    JsNumber.lt raw.ledger startLedger = true := by
  refine holds_of_lt_countP (chain.ordered.imp ?_) hk hraw
  intro e e' hle hlt
  exact JsNumber.lt_of_natCast_le hle hlt

/-- The keys of the rows of a chain are distinct. -/
theorem distinctKeys (chain : Chain) : DistinctKeys (history chain.events) :=
  distinctKeys_history chain.ids chain.slaIds

theorem distinctKeys_between (i j : ℕ) : DistinctKeys (history (chain.between i j)) :=
  chain.distinctKeys.of_sublist ((between_sublist i j).filterMap _)

end Chain

end Indexer

end SlaSettle
