import SlaSettle.Js.Value
import SlaSettle.Store.Table
import SlaSettle.Store.LastWrite

/-!
# The indexer's database

The tables of `schema.sql` and the statements that `IndexerDb` (better-sqlite3) and `IndexerD1`
(Cloudflare D1) run against them. Both classes execute the same statements in the same order, one
inside a transaction and one as a D1 batch, so `applyBatch` is one function on the state; that it
either takes effect as a whole or not at all is the business of whoever answers the call.

Rows are kept in insertion order under their primary key. Only the `watchers` table is sensitive
to the order of a batch: `eligible_foldl_applyWatcherEvent` reads it as a last-writer-wins
register per address.
-/

namespace SlaSettle

namespace Indexer

open Js Store

/-! ### Rows -/

structure CheckpointRow where
  lastLedger : ℕ
  lastCursor : Option String
  deriving DecidableEq

/-- `removedAt` is `none` (SQL `NULL`) while the watcher is eligible. -/
structure WatcherRow where
  address : String
  registeredAt : String
  removedAt : Option String
  deriving DecidableEq

inductive CheckStatus where
  | up
  | down
  deriving DecidableEq

structure CheckRow where
  eventId : String
  slaId : String
  roundId : String
  watcher : String
  status : CheckStatus
  endpointHash : String
  checkedAt : String
  deriving DecidableEq

structure SlaRow where
  slaId : String
  provider : String
  token : String
  endpointHash : String
  bondAmountAtCreation : String
  quorumThreshold : Option JsNumber
  beneficiary : String
  createdAt : String
  txHash : String
  deriving DecidableEq

inductive LifecycleType where
  | bondToppedUp
  | slaCancelled
  | bondWithdrawn
  deriving DecidableEq

structure LifecycleEventRow where
  eventId : String
  slaId : String
  eventType : LifecycleType
  amount : Option String
  txHash : String
  ledgerCloseTime : String
  deriving DecidableEq

inductive WatcherEventType where
  | registered
  | removed
  deriving DecidableEq

/-- One watcher registration or removal, in chain order (`occurredAt` is the source's `at`). -/
structure WatcherEvent where
  type : WatcherEventType
  address : String
  occurredAt : String
  deriving DecidableEq

structure SettlementRow where
  eventId : String
  slaId : String
  roundId : String
  quorumThreshold : Option JsNumber
  penaltyAmount : String
  beneficiary : String
  txHash : String
  ledgerCloseTime : String
  deriving DecidableEq

/-- The rows of one page, grouped by table. -/
structure ClassifiedBatch where
  watcherEvents : List WatcherEvent
  checks : List CheckRow
  slas : List SlaRow
  settlements : List SettlementRow
  lifecycleEvents : List LifecycleEventRow
  deriving DecidableEq

def emptyBatch : ClassifiedBatch := ⟨[], [], [], [], []⟩

/-- What `applyBatch` is given: the rows of a page and the checkpoint that goes with them. -/
structure BatchParams extends ClassifiedBatch where
  lastLedger : ℕ
  lastCursor : Option String
  deriving DecidableEq

/-- SQLite has no `NaN`: binding one stores `NULL`. -/
def bindNumber : Option JsNumber → Option JsNumber
  | some .nan => none
  | n => n

/-- The row that binding `s` stores. -/
def SlaRow.stored (s : SlaRow) : SlaRow :=
  { s with quorumThreshold := bindNumber s.quorumThreshold }

/-- The row that binding `s` stores. -/
def SettlementRow.stored (s : SettlementRow) : SettlementRow :=
  { s with quorumThreshold := bindNumber s.quorumThreshold }

@[simp]
theorem SlaRow.stored_slaId (s : SlaRow) : s.stored.slaId = s.slaId := rfl

@[simp]
theorem SettlementRow.stored_eventId (s : SettlementRow) : s.stored.eventId = s.eventId := rfl

/-! ### Tables and statements -/

structure Db where
  checkpoint : Option CheckpointRow
  watchers : Table WatcherRow WatcherRow.address
  checks : Table CheckRow CheckRow.eventId
  slas : Table SlaRow SlaRow.slaId
  settlements : Table SettlementRow SettlementRow.eventId
  lifecycleEvents : Table LifecycleEventRow LifecycleEventRow.eventId

namespace Db

/-- A freshly migrated database. -/
def empty : Db := ⟨none, .empty, .empty, .empty, .empty, .empty⟩

/-- `insertWatcher`: `INSERT … ON CONFLICT(address) DO UPDATE SET removed_at = NULL`. -/
def insertWatcher (t : Table WatcherRow WatcherRow.address) (address registeredAt : String) :
    Table WatcherRow WatcherRow.address :=
  t.upsert ⟨address, registeredAt, none⟩ (fun r => { r with removedAt := none }) fun _ => rfl

/-- `removeWatcher`: `UPDATE watchers SET removed_at = ? WHERE address = ?`. -/
def removeWatcher (t : Table WatcherRow WatcherRow.address) (removedAt address : String) :
    Table WatcherRow WatcherRow.address :=
  t.update (fun r => r.address = address) (fun r => { r with removedAt := some removedAt })
    fun _ => rfl

/-- One turn of the loop over `watcherEvents`. -/
def applyWatcherEvent (t : Table WatcherRow WatcherRow.address) (w : WatcherEvent) :
    Table WatcherRow WatcherRow.address :=
  match w.type with
  | .registered => insertWatcher t w.address w.occurredAt
  | .removed => removeWatcher t w.occurredAt w.address

/-- `applyBatch`, the statements of both database classes. -/
def applyBatch (db : Db) (params : BatchParams) : Db where
  checkpoint := some ⟨params.lastLedger, params.lastCursor⟩
  watchers := params.watcherEvents.foldl applyWatcherEvent db.watchers
  checks := db.checks.insertAll params.checks
  slas := db.slas.insertAll (params.slas.map SlaRow.stored)
  lifecycleEvents := db.lifecycleEvents.insertAll params.lifecycleEvents
  settlements := db.settlements.insertAll (params.settlements.map SettlementRow.stored)

/-- `getSlaQuorumThreshold`. -/
def getSlaQuorumThreshold (db : Db) (slaId : String) : Option JsNumber :=
  (db.slas.rows.find? fun r => r.slaId = slaId).bind SlaRow.quorumThreshold

/-- `setSlaQuorumThreshold`: cache a threshold that was read live, in both tables. -/
def setSlaQuorumThreshold (db : Db) (slaId : String) (threshold : JsNumber) : Db :=
  { db with
    slas := db.slas.update (fun r => r.slaId = slaId)
      (fun r => { r with quorumThreshold := bindNumber (some threshold) }) fun _ => rfl
    settlements := db.settlements.update (fun r => r.slaId = slaId && r.quorumThreshold.isNone)
      (fun r => { r with quorumThreshold := bindNumber (some threshold) }) fun _ => rfl }

/-! ### The eligible watcher set -/

/-- Whether `WHERE removed_at IS NULL` selects the address. -/
def eligible (t : Table WatcherRow WatcherRow.address) (address : String) : Bool :=
  t.rows.any fun r => r.address = address && r.removedAt.isNone

theorem eligible_iff {t : Table WatcherRow WatcherRow.address} {address : String} :
    eligible t address = true ↔ ∃ r ∈ t.rows, r.address = address ∧ r.removedAt = none := by
  simp [eligible]

@[simp]
theorem eligible_empty (address : String) : eligible .empty address = false := rfl

/-- A registration makes its address eligible and leaves the others. -/
theorem eligible_insertWatcher (t : Table WatcherRow WatcherRow.address)
    (address registeredAt a : String) :
    eligible (insertWatcher t address registeredAt) a =
      if address = a then true else eligible t a := by
  rw [Bool.eq_iff_iff]
  by_cases hkey : address ∈ t.keys
  · obtain ⟨r, hr, rfl⟩ := List.mem_map.mp hkey
    rw [insertWatcher, Table.upsert, if_pos hkey, eligible_iff]
    simp only [Table.mem_update]
    by_cases h : r.address = a
    · rw [if_pos h]
      refine iff_of_true ⟨{ r with removedAt := none }, ⟨r, hr, by simp⟩, h, rfl⟩ rfl
    · rw [if_neg h, eligible_iff]
      constructor
      · rintro ⟨x, ⟨y, hy, rfl⟩, hxa, hx⟩
        by_cases hyr : y.address = r.address
        · simp only [hyr, decide_true, if_true] at hxa
          exact absurd hxa h
        · simp only [hyr, decide_false, Bool.false_eq_true, if_false] at hxa hx
          exact ⟨y, hy, hxa, hx⟩
      · rintro ⟨y, hy, hya, hyn⟩
        have hyr : y.address ≠ r.address := fun hyr => h (hyr ▸ hya)
        exact ⟨y, ⟨y, hy, by simp [hyr]⟩, hya, hyn⟩
  · rw [insertWatcher, Table.upsert, if_neg hkey, eligible_iff,
      Table.rows_insertOrIgnore_of_notMem hkey]
    by_cases h : address = a
    · rw [if_pos h]
      exact iff_of_true ⟨⟨address, registeredAt, none⟩, by simp, h, rfl⟩ rfl
    · rw [if_neg h, eligible_iff]
      constructor
      · rintro ⟨x, hx, hxa, hxn⟩
        rcases List.mem_append.mp hx with hx | hx
        · exact ⟨x, hx, hxa, hxn⟩
        · rw [List.mem_singleton] at hx
          subst hx
          exact absurd hxa h
      · rintro ⟨x, hx, hxa, hxn⟩
        exact ⟨x, List.mem_append_left _ hx, hxa, hxn⟩

/-- A removal makes its address ineligible and leaves the others. -/
theorem eligible_removeWatcher (t : Table WatcherRow WatcherRow.address)
    (removedAt address a : String) :
    eligible (removeWatcher t removedAt address) a =
      if address = a then false else eligible t a := by
  rw [Bool.eq_iff_iff, removeWatcher, eligible_iff]
  simp only [Table.mem_update]
  by_cases h : address = a
  · rw [if_pos h]
    refine iff_of_false ?_ Bool.false_ne_true
    rintro ⟨x, ⟨y, -, rfl⟩, hxa, hxn⟩
    by_cases hy : y.address = address
    · simp [hy] at hxn
    · simp only [hy, decide_false, Bool.false_eq_true, if_false] at hxa
      exact hy (hxa.trans h.symm)
  · rw [if_neg h, eligible_iff]
    constructor
    · rintro ⟨x, ⟨y, hy, rfl⟩, hxa, hxn⟩
      by_cases hya : y.address = address
      · simp [hya] at hxn
      · simp only [hya, decide_false, Bool.false_eq_true, if_false] at hxa hxn
        exact ⟨y, hy, hxa, hxn⟩
    · rintro ⟨y, hy, hya, hyn⟩
      have hne : y.address ≠ address := fun hye => h (hye ▸ hya)
      exact ⟨y, ⟨y, hy, by simp [hne]⟩, hya, hyn⟩

/-- Whether a watcher event is a registration. -/
def registers (w : WatcherEvent) : Bool := w.type = .registered

theorem eligible_applyWatcherEvent (t : Table WatcherRow WatcherRow.address) (w : WatcherEvent)
    (a : String) :
    eligible (applyWatcherEvent t w) a = if w.address = a then registers w else eligible t a := by
  rw [applyWatcherEvent, registers]
  cases h : w.type with
  | registered => simp [eligible_insertWatcher]
  | removed => simp [eligible_removeWatcher]

/-- The kind of the last event about an address: `some true` for a registration, `some false` for
a removal, `none` if there is no event about it. -/
def lastWatcherEvent (a : String) (ws : List WatcherEvent) : Option Bool :=
  lastWrite WatcherEvent.address registers a ws

/-- Later events about an address win. -/
theorem lastWatcherEvent_append (a : String) (ws ws' : List WatcherEvent) :
    lastWatcherEvent a (ws ++ ws') = (lastWatcherEvent a ws').or (lastWatcherEvent a ws) :=
  lastWrite_append _ _ _ _ _

/-- **Eligibility is a last-writer-wins register.** After a list of watcher events an address is
eligible exactly when its last event is a registration, or as before if it has none. -/
theorem eligible_foldl_applyWatcherEvent (t : Table WatcherRow WatcherRow.address)
    (ws : List WatcherEvent) (a : String) :
    eligible (ws.foldl applyWatcherEvent t) a = (lastWatcherEvent a ws).getD (eligible t a) :=
  foldl_lastWrite WatcherEvent.address registers eligible_applyWatcherEvent t ws a

end Db

end Indexer

end SlaSettle
