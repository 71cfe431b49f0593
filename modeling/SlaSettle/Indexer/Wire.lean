import SlaSettle.Indexer.ContractEvent

/-!
# The wire format

The events the two contracts emit, and the shape each has in a `getEvents` response: the format
pinned at the top of `rpc/decode.ts`. `topics[0]` is the event's symbol, the fields marked as topics
follow, and the rest is a map keyed by field name. `u64` and `i128` arrive as `bigint`, `u32` as a
number, an address or a symbol as a string, and `BytesN<32>` as bytes.

`readRaw_encode` is the round trip: the indexer reads back from each event exactly what it says.
-/

namespace SlaSettle

namespace Indexer

open Js

/-- An event as a contract emits it. -/
inductive OnChainEvent where
  | watcher (type : WatcherEventType) (address : String)
  | checkSubmitted (slaId : ℕ) (watcher : String) (roundId : ℕ) (endpointHash : List UInt8)
      (status : CheckStatus)
  | slaCreated (slaId : ℕ) (provider token : String) (endpointHash : List UInt8)
      (bondAmount : ℤ) (uptimeTargetBps quorumThreshold : ℕ) (penaltyPerBreach : ℤ)
      (beneficiary : String)
  | bondToppedUp (slaId : ℕ) (amount : ℤ)
  | settlementPaid (slaId roundId : ℕ) (payout : ℤ) (beneficiary : String)
  | slaCancelled (slaId : ℕ)
  | bondWithdrawn (slaId : ℕ) (amount : ℤ)

/-- What the RPC adds to an event. -/
structure EventHeader where
  id : String
  ledger : ℕ
  ledgerClosedAt : String
  txHash : String
  contractId : String

/-- The variant name of a check's status. -/
def CheckStatus.symbol : CheckStatus → String
  | .up => "Up"
  | .down => "Down"

/-- The symbol a watcher event is emitted under. -/
def WatcherEventType.eventType : WatcherEventType → EventType
  | .registered => .watcherRegistered
  | .removed => .watcherRemoved

namespace OnChainEvent

/-- The topics after decoding. -/
def topics : OnChainEvent → List JsValue
  | watcher type address => [.string type.eventType.topic, .string address]
  | checkSubmitted slaId address _ _ _ =>
    [.string EventType.checkSubmitted.topic, .bigint slaId, .string address]
  | slaCreated slaId provider _ _ _ _ _ _ _ =>
    [.string EventType.slaCreated.topic, .bigint slaId, .string provider]
  | bondToppedUp slaId _ => [.string EventType.bondToppedUp.topic, .bigint slaId]
  | settlementPaid slaId roundId _ _ =>
    [.string EventType.settlementPaid.topic, .bigint slaId, .bigint roundId]
  | slaCancelled slaId => [.string EventType.slaCancelled.topic, .bigint slaId]
  | bondWithdrawn slaId _ => [.string EventType.bondWithdrawn.topic, .bigint slaId]

/-- The payload after decoding. -/
def data : OnChainEvent → JsValue
  | watcher _ _ => .object []
  | checkSubmitted _ _ roundId endpointHash status => .object [
      ("endpoint_hash", .bytes endpointHash), ("round_id", .bigint roundId),
      ("status", .array [.string status.symbol])]
  | slaCreated _ _ token endpointHash bondAmount uptimeTargetBps quorumThreshold penaltyPerBreach
      beneficiary => .object [
      ("beneficiary", .string beneficiary), ("bond_amount", .bigint bondAmount),
      ("endpoint_hash", .bytes endpointHash), ("penalty_per_breach", .bigint penaltyPerBreach),
      ("quorum_threshold", .number quorumThreshold), ("token", .string token),
      ("uptime_target_bps", .number uptimeTargetBps)]
  | bondToppedUp _ amount => .object [("amount", .bigint amount)]
  | settlementPaid _ _ payout beneficiary => .object [
      ("beneficiary", .string beneficiary), ("payout", .bigint payout)]
  | slaCancelled _ => .object []
  | bondWithdrawn _ amount => .object [("amount", .bigint amount)]

/-- The event in a `getEvents` response. -/
def encode (header : EventHeader) (e : OnChainEvent) : RawEvent where
  id := header.id
  ledger := header.ledger
  ledgerClosedAt := header.ledgerClosedAt
  txHash := header.txHash
  contractId := some header.contractId
  topic := e.topics.map .ok
  value := .ok e.data

/-- What the event says, in the indexer's rows. -/
def row (header : EventHeader) : OnChainEvent → ContractEvent
  | watcher type address => .watcher ⟨type, address, header.ledgerClosedAt⟩
  | checkSubmitted slaId address roundId endpointHash status =>
    .check ⟨header.id, toString slaId, toString roundId, address, status, hexText endpointHash,
      header.ledgerClosedAt⟩
  | slaCreated slaId provider token endpointHash bondAmount _ quorumThreshold _ beneficiary =>
    .sla ⟨toString slaId, provider, token, hexText endpointHash, toString bondAmount,
      some quorumThreshold, beneficiary, header.ledgerClosedAt, header.txHash⟩
  | bondToppedUp slaId amount =>
    .lifecycle ⟨header.id, toString slaId, .bondToppedUp, some (toString amount), header.txHash,
      header.ledgerClosedAt⟩
  | settlementPaid slaId roundId payout beneficiary =>
    .settlement ⟨header.id, toString slaId, toString roundId, none, toString payout, beneficiary,
      header.txHash, header.ledgerClosedAt⟩
  | slaCancelled slaId =>
    .lifecycle ⟨header.id, toString slaId, .slaCancelled, none, header.txHash,
      header.ledgerClosedAt⟩
  | bondWithdrawn slaId amount =>
    .lifecycle ⟨header.id, toString slaId, .bondWithdrawn, some (toString amount), header.txHash,
      header.ledgerClosedAt⟩

end OnChainEvent

/-- **The wire round trip.** The indexer reads every emitted event back as what it says. -/
theorem readRaw_encode (header : EventHeader) (e : OnChainEvent) :
    readRaw (e.encode header) = .ok (some (e.row header)) := by
  have htopic : (e.encode header).topic = e.topics.map .ok := rfl
  have hvalue : (e.encode header).value = .ok e.data := rfl
  rw [readRaw, decodeEvent_of_ok htopic hvalue]
  cases e with
  | watcher type address => cases type <;> rfl
  | checkSubmitted slaId watcher roundId endpointHash status => cases status <;> rfl
  | slaCreated => rfl
  | bondToppedUp => rfl
  | settlementPaid => rfl
  | slaCancelled => rfl
  | bondWithdrawn => rfl

theorem meaning_encode (header : EventHeader) (e : OnChainEvent) :
    meaning (e.encode header) = some (e.row header) :=
  meaning_of_readRaw (readRaw_encode header e)

theorem readable_encode (header : EventHeader) (e : OnChainEvent) : Readable (e.encode header) :=
  ⟨_, readRaw_encode header e⟩

/-- What a stretch of emitted events says. -/
theorem history_map_encode (es : List (EventHeader × OnChainEvent)) :
    history (es.map fun e => e.2.encode e.1) = es.map fun e => e.2.row e.1 := by
  rw [history, List.filterMap_map, ← List.filterMap_eq_map]
  refine List.filterMap_congr fun e _ => ?_
  exact meaning_encode e.1 e.2

end Indexer

end SlaSettle
