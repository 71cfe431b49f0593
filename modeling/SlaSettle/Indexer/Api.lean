import SlaSettle.Effect.Relying
import SlaSettle.Indexer.LedgerInfo
import SlaSettle.Indexer.Providers
import SlaSettle.Indexer.QueryValidation

/-!
# The indexer's API

The endpoints of `worker/routes.ts` and `api/routes.ts` beside the settlements one: health,
watchers, clock, current round, provider SLAs and lifecycle events, each with the statement it runs
and the body it serves. The Node route for the current round asks for the eligible watchers in no
order; the others are the same on both servers.

A handler calls the database and the RPC; either may throw, and then so does the handler. The
settlements handler of `Settlements.lean` becomes one of them along `settlementsCalls`.
-/

namespace SlaSettle

namespace Indexer

open Js Effect Program Store

/-! ### Statements -/

structure EligibleWatcher where
  address : String
  registeredAt : String

structure CheckedIn where
  watcher : String
  status : CheckStatus
  checkedAt : String
  deriving DecidableEq

namespace Db

variable (db : Db)

/-- `SELECT address, registered_at FROM watchers WHERE removed_at IS NULL ORDER BY
registered_at`. -/
def getEligibleWatchers : List EligibleWatcher :=
  let rows := db.watchers.rows.filter fun r => r.removedAt.isNone
  (rows.mergeSort fun r r' => !(decide (r'.registeredAt < r.registeredAt))).map fun r =>
    ⟨r.address, r.registeredAt⟩

/-- `SELECT address FROM watchers WHERE removed_at IS NULL`. -/
def selectEligibleAddresses : List String :=
  (db.watchers.rows.filter fun r => r.removedAt.isNone).map WatcherRow.address

/-- `SELECT watcher, status, checked_at FROM checks WHERE sla_id = ? AND round_id = ?`. -/
def getCheckedInForRound (slaId roundId : String) : List CheckedIn :=
  (db.checks.rows.filter fun c => c.slaId = slaId && c.roundId = roundId).map fun c =>
    ⟨c.watcher, c.status, c.checkedAt⟩

/-- `SELECT … FROM sla_lifecycle_events WHERE sla_id = ? ORDER BY ledger_close_time DESC
LIMIT 100`. -/
def getLifecycleEvents (slaId : String) : List LifecycleEventRow :=
  let rows := db.lifecycleEvents.rows.filter fun r => r.slaId = slaId
  (rows.mergeSort fun r r' => !(decide (r.ledgerCloseTime < r'.ledgerCloseTime))).take 100

end Db

/-! ### Calls -/

/-- The calls of the handlers. -/
inductive ApiCall where
  /-- `new rpc.Server(env.RPC_URL)`, which refuses some addresses. -/
  | newServer
  | getCheckpoint
  | getEligibleWatchers
  | selectEligibleAddresses
  | getCheckedInForRound (slaId roundId : String)
  | getProviderSlas (address : String)
  | getLifecycleEvents (slaId : String)
  /-- `server._getLatestLedger()` -/
  | getLatestLedger
  | settlements (c : RouteCall)

/-- What a call returns when it does not throw. -/
def ApiCall.Returns : ApiCall → Type
  | newServer => Unit
  | getCheckpoint => Option CheckpointRow
  | getEligibleWatchers => List EligibleWatcher
  | selectEligibleAddresses => List String
  | getCheckedInForRound _ _ => List CheckedIn
  | getProviderSlas _ => List SlaRow
  | getLifecycleEvents _ => List LifecycleEventRow
  | getLatestLedger => Option Json
  | settlements c => c.Returns

abbrev apiInterface : Interface := throwing Thrown ApiCall.Returns

/-- A handler: it calls out, and may throw. -/
abbrev Api (α : Type) : Type := Throwing Thrown ApiCall.Returns α

/-- Await one call of a handler. -/
abbrev ApiCall.await (c : ApiCall) : Api c.Returns := ask c

/-- The calls of the settlements handler. -/
def settlementsCalls : Embedding routeInterface apiInterface where
  call := .settlements
  answer _ r := r

/-- The world of a handler: the database, and an RPC that may answer anything. -/
inductive ApiAnswers : Db → (c : ApiCall) → Except Thrown c.Returns → Db → Prop
  | throws {db : Db} {c : ApiCall} {e : Thrown} : ApiAnswers db c (.error e) db
  | newServer {db : Db} : ApiAnswers db .newServer (.ok ()) db
  | getCheckpoint {db : Db} : ApiAnswers db .getCheckpoint (.ok db.checkpoint) db
  | getEligibleWatchers {db : Db} :
      ApiAnswers db .getEligibleWatchers (.ok db.getEligibleWatchers) db
  | selectEligibleAddresses {db : Db} :
      ApiAnswers db .selectEligibleAddresses (.ok db.selectEligibleAddresses) db
  | getCheckedInForRound {db : Db} {slaId roundId : String} :
      ApiAnswers db (.getCheckedInForRound slaId roundId)
        (.ok (db.getCheckedInForRound slaId roundId)) db
  | getProviderSlas {db : Db} {address : String} :
      ApiAnswers db (.getProviderSlas address) (.ok (db.getProviderSlas address)) db
  | getLifecycleEvents {db : Db} {slaId : String} :
      ApiAnswers db (.getLifecycleEvents slaId) (.ok (db.getLifecycleEvents slaId)) db
  | getLatestLedger {db : Db} {raw : Option Json} :
      ApiAnswers db .getLatestLedger (.ok raw) db
  | settlements {db db' : Db} {c : RouteCall} {r : Except Thrown c.Returns}
      (here : RouteAnswers db c r db') : ApiAnswers db (.settlements c) r db'

/-! ### Bodies -/

/-- The library functions of the handlers. -/
structure ApiLib extends CodecLib, TextLib

def healthBody (cp : Option CheckpointRow) : Json :=
  .object [("status", .string "ok"),
    ("last_indexed_ledger", .ofNullable (fun ledger : ℕ => .number ledger)
      (cp.map CheckpointRow.lastLedger))]

def watchersBody (rows : List EligibleWatcher) : Json :=
  .object [("data", .array (rows.map fun r =>
    .object [("address", .string r.address), ("registered_at", .string r.registeredAt)])),
    ("next_cursor", .null)]

def CheckStatus.text : CheckStatus → String
  | up => "up"
  | down => "down"

def LifecycleType.text : LifecycleType → String
  | bondToppedUp => "bond_topped_up"
  | slaCancelled => "sla_cancelled"
  | bondWithdrawn => "bond_withdrawn"

def lifecycleBody (rows : List LifecycleEventRow) : Json :=
  .object [("data", .array (rows.map fun r =>
    .object [("event_type", .string r.eventType.text), ("amount", .ofNullable .string r.amount),
      ("tx_hash", .string r.txHash), ("ledger_close_time", .string r.ledgerCloseTime)])),
    ("next_cursor", .null)]

def clockBody (ledger : LedgerInfo) (closeTime : String) (roundId : JsNumber) : Json :=
  .object [("ledger_sequence", .number ledger.sequence), ("ledger_close_time", .string closeTime),
    ("current_round_id", .ofNumber roundId)]

/-- The addresses that are not among those that have checked in. -/
def notYetCheckedIn (watchers : List String) (checkedIn : List CheckedIn) : List String :=
  watchers.filter fun a => a ∉ checkedIn.map CheckedIn.watcher

def currentRoundBody (roundId : JsNumber) (roundStartedAt : String) (checkedIn : List CheckedIn)
    (notYet : List String) : Json :=
  .object [("round_id", .ofNumber roundId), ("round_started_at", .string roundStartedAt),
    ("checked_in", .array (checkedIn.map fun c =>
      .object [("watcher", .string c.watcher), ("status", .string c.status.text),
        ("checked_at", .string c.checkedAt)])),
    ("not_yet_checked_in", .array (notYet.map .string))]

/-! ### Handlers -/

def getLatestLedgerInfo (lib : TextLib) : Api LedgerInfo := do
  let raw ← ApiCall.getLatestLedger.await
  attempt (ledgerInfo lib raw)

/-- `GET /v1/clock` -/
def clock (lib : TextLib) (roundLengthSeconds : JsNumber) : Api Json := do
  let ledger ← getLatestLedgerInfo lib
  let closeTime ← attempt (toISOString (ledger.closeTimeMs : JsNumber))
  return clockBody ledger closeTime (currentRoundId ledger roundLengthSeconds)

/-- `GET /v1/slas/:slaId/current-round`, with the addresses of the eligible watchers as the server
asks for them. -/
def currentRoundWith (eligible : Api (List String)) (lib : TextLib) (roundLengthSeconds : JsNumber)
    (slaId : String) : Api Json := do
  let ledger ← getLatestLedgerInfo lib
  let roundId := currentRoundId ledger roundLengthSeconds
  let watchers ← eligible
  let checkedIn ← (ApiCall.getCheckedInForRound slaId (lib.numberText roundId)).await
  let startedAt ← attempt (toISOString ((roundId.mul roundLengthSeconds).mul 1000))
  return currentRoundBody roundId startedAt checkedIn (notYetCheckedIn watchers checkedIn)

/-- The Worker's eligible watchers, oldest registration first. -/
def workerEligible : Api (List String) := do
  let rows ← ApiCall.getEligibleWatchers.await
  return rows.map EligibleWatcher.address

/-- `GET /v1/slas/:slaId/current-round` of the Worker. -/
def workerCurrentRound : TextLib → JsNumber → String → Api Json := currentRoundWith workerEligible

/-- `GET /v1/slas/:slaId/current-round` of the Node API. -/
def nodeCurrentRound : TextLib → JsNumber → String → Api Json :=
  currentRoundWith ApiCall.selectEligibleAddresses.await

end Indexer

end SlaSettle
