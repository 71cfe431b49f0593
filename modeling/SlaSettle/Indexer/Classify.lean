import SlaSettle.Indexer.Db
import SlaSettle.Indexer.Decode

/-!
# Classifying a page of events

`classifyEvents` of `ingest/classify.ts`: one pass over the decoded events of a page, each pushed
onto the list of the table it belongs to. An event with an unknown topic, and a check whose status
is neither `["Up"]` nor `["Down"]`, are logged and skipped; a field of the wrong shape throws and
takes the page with it.

The rows themselves are built by one function per table (`checkRow`, `slaRow`, …), which read the
fields in the order of the source's object literals, so the first field that throws is the one
whose error is reported.
-/

namespace SlaSettle

namespace Indexer

open Js

/-- A check's status is a one-element vector around the symbol `Up` or `Down`; a bare string or
anything else is `none`, and the caller quarantines the event. -/
def parseCheckStatus : JsValue → Option CheckStatus
  | .array [.string "Up"] => some .up
  | .array [.string "Down"] => some .down
  | _ => none

/-! ### Rows -/

/-- The address is `topic[1]`; the event has no payload. -/
def watcherEvent (type : WatcherEventType) (event : DecodedEvent) : WatcherEvent where
  type := type
  address := (JsValue.element event.topics 1).toText
  occurredAt := event.ledgerCloseTime

def checkRow (event : DecodedEvent) (status : CheckStatus) : Except Thrown CheckRow := do
  let roundId ← event.data.getField "round_id"
  let endpointHash ← bytesToHex (← event.data.getField "endpoint_hash")
  return {
    eventId := event.eventId
    slaId := (JsValue.element event.topics 1).toText
    roundId := roundId.toText
    watcher := (JsValue.element event.topics 2).toText
    status
    endpointHash
    checkedAt := event.ledgerCloseTime }

def slaRow (event : DecodedEvent) : Except Thrown SlaRow := do
  let token ← event.data.getField "token"
  let endpointHash ← bytesToHex (← event.data.getField "endpoint_hash")
  let bondAmount ← amountToString (← event.data.getField "bond_amount")
  let quorumThreshold ← event.data.getField "quorum_threshold"
  let beneficiary ← event.data.getField "beneficiary"
  return {
    slaId := (JsValue.element event.topics 1).toText
    provider := (JsValue.element event.topics 2).toText
    token := token.toText
    endpointHash
    bondAmountAtCreation := bondAmount
    quorumThreshold := some quorumThreshold.toNumber
    beneficiary := beneficiary.toText
    createdAt := event.ledgerCloseTime
    txHash := event.txHash }

def settlementRow (event : DecodedEvent) : Except Thrown SettlementRow := do
  let penaltyAmount ← amountToString (← event.data.getField "payout")
  let beneficiary ← event.data.getField "beneficiary"
  return {
    eventId := event.eventId
    slaId := (JsValue.element event.topics 1).toText
    roundId := (JsValue.element event.topics 2).toText
    quorumThreshold := none
    penaltyAmount
    beneficiary := beneficiary.toText
    txHash := event.txHash
    ledgerCloseTime := event.ledgerCloseTime }

/-- The three lifecycle events share their row up to its type and amount. -/
def lifecycleEventRow (event : DecodedEvent) (eventType : LifecycleType) (amount : Option String) :
    LifecycleEventRow where
  eventId := event.eventId
  slaId := (JsValue.element event.topics 1).toText
  eventType := eventType
  amount := amount
  txHash := event.txHash
  ledgerCloseTime := event.ledgerCloseTime

theorem checkRow_eq_ok_iff {event : DecodedEvent} {status : CheckStatus} {c : CheckRow} :
    checkRow event status = .ok c ↔
      ∃ roundId bytes, event.data.getField "round_id" = .ok roundId ∧
        event.data.getField "endpoint_hash" = .ok (.bytes bytes) ∧
        c = {
          eventId := event.eventId
          slaId := (JsValue.element event.topics 1).toText
          roundId := roundId.toText
          watcher := (JsValue.element event.topics 2).toText
          status
          endpointHash := hexText bytes
          checkedAt := event.ledgerCloseTime } := by
  simp only [checkRow, bind_eq_ok_iff, bytesToHex_eq_ok_iff, pure_eq_ok_iff]
  constructor
  · rintro ⟨roundId, hround, value, hhash, text, ⟨bytes, rfl, rfl⟩, rfl⟩
    exact ⟨roundId, bytes, hround, hhash, rfl⟩
  · rintro ⟨roundId, bytes, hround, hhash, rfl⟩
    exact ⟨roundId, hround, _, hhash, _, ⟨bytes, rfl, rfl⟩, rfl⟩

theorem settlementRow_eventId {event : DecodedEvent} {s : SettlementRow}
    (h : settlementRow event = .ok s) : s.eventId = event.eventId := by
  simp only [settlementRow, bind_eq_ok_iff, pure_eq_ok_iff] at h
  obtain ⟨_, -, _, -, _, -, rfl⟩ := h
  rfl

/-! ### The loop -/

/-- One turn of the loop of `classifyEvents`. -/
def classifyEvent (batch : ClassifiedBatch) (event : DecodedEvent) :
    Except Thrown ClassifiedBatch :=
  match eventType? event.topicSymbol with
  | some .watcherRegistered =>
    return { batch with watcherEvents := batch.watcherEvents ++ [watcherEvent .registered event] }
  | some .watcherRemoved =>
    return { batch with watcherEvents := batch.watcherEvents ++ [watcherEvent .removed event] }
  | some .checkSubmitted => do
    match parseCheckStatus (← event.data.getField "status") with
    | none => return batch
    | some status => return { batch with checks := batch.checks ++ [← checkRow event status] }
  | some .slaCreated => do
    return { batch with slas := batch.slas ++ [← slaRow event] }
  | some .settlementPaid => do
    return { batch with settlements := batch.settlements ++ [← settlementRow event] }
  | some .bondToppedUp => do
    let amount ← amountToString (← event.data.getField "amount")
    return { batch with
      lifecycleEvents := batch.lifecycleEvents ++
        [lifecycleEventRow event .bondToppedUp (some amount)] }
  | some .slaCancelled =>
    return { batch with
      lifecycleEvents := batch.lifecycleEvents ++ [lifecycleEventRow event .slaCancelled none] }
  | some .bondWithdrawn => do
    let amount ← amountToString (← event.data.getField "amount")
    return { batch with
      lifecycleEvents := batch.lifecycleEvents ++
        [lifecycleEventRow event .bondWithdrawn (some amount)] }
  | none => return batch

/-- Group the rows of a page by table. -/
def classifyEvents (events : List DecodedEvent) : Except Thrown ClassifiedBatch :=
  events.foldlM classifyEvent emptyBatch

end Indexer

end SlaSettle
