import SlaSettle.Indexer.Ingest

/-!
# Runs of the ingestion loops

`IngestionLoop.Run` is a whole run on a fresh database, one step after another, failed or not,
logged step by step. Sequential sessions of both programs are runs of their loops
(`run_of_session_worker`, `run_of_session_poller`), so what is proved of runs holds of the code.

Whatever pages the RPC serves, every row of the tables comes from the chain and every event of a
page stored has its row (`IngestionLoop.Run.covers`).
-/

namespace SlaSettle

namespace Indexer

open Js Effect Program

/-! ### Runs -/

/-- A run of a loop from a fresh database: the log of its steps, and the database after them. -/
inductive IngestionLoop.Run (loop : IngestionLoop) (rpc : EventsCursor → GetEventsResponse → Prop) :
    List StepLog → Db → Prop
  | nil : Run loop rpc [] Db.empty
  | snoc {log : List StepLog} {db db' : Db} {entry : StepLog} (before : Run loop rpc log db)
      (last : Outcome loop rpc db entry db') : Run loop rpc (log ++ [entry]) db'

/-- The log of a session, step by step. -/
def sessionLog {α : Type} (log : List (List (Event ingestInterface) × α)) : List StepLog :=
  log.map fun step => stepLog step.1

/-- **The Worker's sessions are runs of its loop.** -/
theorem run_of_session_worker {rpc : EventsCursor → ℕ → GetEventsResponse → Prop}
    {env : WorkerEnv} {log : List (List (Event ingestInterface) × Except Thrown IngestionResult)}
    {db : Db} (h : Session (Answers rpc) (runIngestionStep env) Db.empty log db) :
    (workerLoop env).Run (fun q => rpc q defaultLimit) (sessionLog log) db := by
  induction h with
  | nil => exact .nil
  | snoc _ last ih =>
    rw [sessionLog, List.map_append, List.map_singleton]
    exact .snoc ih (exec_runIngestionStep last).1

/-- **The poller's sessions are runs of its loop.** -/
theorem run_of_session_poller {rpc : EventsCursor → ℕ → GetEventsResponse → Prop}
    {config : PollerConfig} {log : List (List (Event ingestInterface) × Except Thrown Bool)}
    {db : Db} (h : Session (Answers rpc) (runOnce config) Db.empty log db) :
    (pollerLoop config).Run (fun q => rpc q config.maxLedgersPerRequest) (sessionLog log) db := by
  induction h with
  | nil => exact .nil
  | snoc _ last ih =>
    rw [sessionLog, List.map_append, List.map_singleton]
    exact .snoc ih (exec_runOnce last).1

/-! ### What has been stored -/

/-- The events of the pages stored so far. -/
def storedEvents (log : List StepLog) : List RawEvent :=
  (log.filterMap StepLog.page).flatMap GetEventsResponse.events

@[simp]
theorem storedEvents_nil : storedEvents [] = [] := rfl

@[simp]
theorem storedEvents_failed (log : List StepLog) (read : Option CheckpointRow)
    (request : Option EventsCursor) :
    storedEvents (log ++ [⟨read, request, none⟩]) = storedEvents log := by
  simp [storedEvents]

@[simp]
theorem storedEvents_stored (log : List StepLog) (read : Option CheckpointRow)
    (request : Option EventsCursor) (page : GetEventsResponse) :
    storedEvents (log ++ [⟨read, request, some page⟩]) = storedEvents log ++ page.events := by
  simp [storedEvents]

/-- The position asked for by the first step that stored a page. -/
def firstStored (log : List StepLog) : Option EventsCursor :=
  log.findSome? fun step => if step.page.isSome then step.request else none

/-- The first position asked for at all, by a step that stored a page or by one that failed. -/
def firstRequest (log : List StepLog) : Option EventsCursor :=
  log.findSome? StepLog.request

@[simp]
theorem firstStored_nil : firstStored [] = none := rfl

@[simp]
theorem firstStored_failed (log : List StepLog) (read : Option CheckpointRow)
    (request : Option EventsCursor) :
    firstStored (log ++ [⟨read, request, none⟩]) = firstStored log := by
  simp [firstStored, List.findSome?_append]

@[simp]
theorem firstStored_stored (log : List StepLog) (read : Option CheckpointRow) (q : EventsCursor)
    (page : GetEventsResponse) :
    firstStored (log ++ [⟨read, some q, some page⟩]) = some ((firstStored log).getD q) := by
  cases h : log.findSome? fun step => if step.page.isSome then step.request else none <;>
    simp [firstStored, List.findSome?_append, h]

namespace IngestionLoop

variable {loop : IngestionLoop} {chain : Chain} {limit : ℕ}
  {rpc : EventsCursor → GetEventsResponse → Prop} {log : List StepLog} {db : Db}

/-- **Stored events have their rows**, and every row comes from the chain. -/
theorem Run.covers (hrpc : ∀ q page, rpc q page → chain.Serves q limit page)
    (h : loop.Run rpc log db) :
    db.Within (history chain.events) ∧ db.Covers (history (storedEvents log)) := by
  induction h with
  | nil => exact ⟨Db.within_empty _, Db.covers_nil _⟩
  | snoc _ last ih =>
    obtain ⟨hwithin, hcovers⟩ := ih
    cases last with
    | failed _ =>
      rw [storedEvents_failed]
      exact ⟨hwithin, hcovers⟩
    | @stored q page _ served _ =>
      have hsub : history page.events ⊆ history chain.events :=
        List.filterMap_subset _ (hrpc q page served).subset
      rw [storedEvents_stored, history_append]
      refine ⟨hwithin.applyBatch hsub _ _, (hcovers.of_applyBatch _).append ?_⟩
      exact hwithin.covers_applyBatch chain.distinctKeys hsub _ _

end IngestionLoop

end Indexer

end SlaSettle
