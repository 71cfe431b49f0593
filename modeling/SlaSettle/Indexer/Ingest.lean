import SlaSettle.Effect.Interleaving
import SlaSettle.Indexer.Rpc

/-!
# The two ingestion steps

`runIngestionStep` of the Worker and `runOnce` of the Node poller, as programs over the calls of
`Rpc.lean`. Both read the checkpoint, ask for one page from where it says, decode and classify it,
and write rows and new checkpoint in one batch; they differ in where they resume when the
checkpoint holds no cursor, and in the ledger they record.

`residual_runIngestionStep` says, once, what the Worker's step is about to do after any trace.
The executions of both programs are described by `exec_runIngestionStep` and `exec_runOnce` in
the terms of `Outcome`: a step changes nothing, or stores one page it was served.
-/

namespace SlaSettle

namespace Indexer

open Js Effect Program

/-! ### The Worker -/

/-- The bindings of the Worker that ingestion reads. -/
structure WorkerEnv where
  watcherRegistryContractId : Option String
  slaVaultContractId : Option String
  startLedger : Option String

structure IngestionResult where
  eventsIndexed : ℕ
  lastLedger : ℕ
  cursor : Option String
  deriving DecidableEq

def defaultStartLedger : ℕ := 4963530

def defaultLimit : ℕ := 50

/-- The configured contract ids that are non-empty strings. -/
def WorkerEnv.contractIds (env : WorkerEnv) : List String :=
  [env.watcherRegistryContractId, env.slaVaultContractId].reduceOption.filter (· ≠ "")

/-- The stored cursor, if there is one and it is not the empty string (which is falsy). -/
def storedCursor (cp : Option CheckpointRow) : Option String :=
  (cp.bind CheckpointRow.lastCursor).filter (· ≠ "")

/-- Where the Worker starts on a database that records no ledger. -/
def WorkerEnv.initialLedger (env : WorkerEnv) : JsNumber :=
  match env.startLedger.filter (· ≠ "") with
  | some text => .ofText text
  | none => defaultStartLedger

/-- Where the Worker resumes: the stored cursor, else the ledger after the stored one, else the
configured start. -/
def ingestionCursor (env : WorkerEnv) (cp : Option CheckpointRow) : EventsCursor :=
  match storedCursor cp with
  | some cursor => .cursor cursor
  | none =>
    match (cp.map CheckpointRow.lastLedger).filter (· ≠ 0) with
    | some lastLedger => .ledger (lastLedger + 1 : ℕ)
    | none => .ledger env.initialLedger

/-- One scheduled ingestion step of the Worker. -/
def runIngestionStep (env : WorkerEnv) : Ingest IngestionResult := do
  if env.contractIds = [] then
    throw (.error "No contract IDs configured for ingestion")
  let cp ← IngestCall.getCheckpoint.await
  let response ← (IngestCall.getEvents env.contractIds (ingestionCursor env cp) defaultLimit).await
  let decodedEvents ← attempt (response.events.mapM decodeEvent)
  let batch ← attempt (classifyEvents decodedEvents)
  let lastLedger := response.latestLedger
  let lastCursor := response.cursor.or (cp.bind CheckpointRow.lastCursor)
  (IngestCall.applyBatch ⟨batch, lastLedger, lastCursor⟩).await
  return { eventsIndexed := decodedEvents.length, lastLedger, cursor := lastCursor }

/-! ### The Node poller -/

/-- The configuration the poller reads; `startLedger` is optional, the limit positive. -/
structure PollerConfig where
  watcherRegistryContractId : String
  slaVaultContractId : String
  maxLedgersPerRequest : ℕ
  startLedger : Option ℕ

/-- The `cursor` of `runOnce`: the tip is asked for only when the checkpoint holds no cursor. -/
def pollerCursor (config : PollerConfig) (checkpoint : Option CheckpointRow) :
    Ingest EventsCursor :=
  match storedCursor checkpoint with
  | some cursor => return .cursor cursor
  | none => do
    let latest ← IngestCall.getLatestLedger.await
    return .ledger (config.startLedger.getD latest : ℕ)

/-- One cycle of the poller; `true` when a full page came back. -/
def runOnce (config : PollerConfig) : Ingest Bool := do
  let contractIds := [config.watcherRegistryContractId, config.slaVaultContractId]
  let checkpoint ← IngestCall.getCheckpoint.await
  let cursor ← pollerCursor config checkpoint
  let page ← (IngestCall.getEvents contractIds cursor config.maxLedgersPerRequest).await
  if page.events = [] then
    (IngestCall.applyBatch ⟨emptyBatch, page.latestLedger, page.cursor⟩).await
    return false
  let decoded ← attempt (page.events.mapM decodeEvent)
  let batch ← attempt (classifyEvents decoded)
  let lastLedger := (decoded.getLast?.map DecodedEvent.ledger).getD page.latestLedger
  (IngestCall.applyBatch ⟨batch, lastLedger, page.cursor⟩).await
  return decide (config.maxLedgersPerRequest ≤ decoded.length)

/-- The ledger the poller records with a page: that of its last event, or the tip. -/
def GetEventsResponse.pollerLedger (page : GetEventsResponse) : ℕ :=
  (page.events.getLast?.map RawEvent.ledger).getD page.latestLedger

/-! ### What a step does -/

/-- A loop of ingestion steps, abstractly: the positions it may ask for with a given checkpoint,
and the checkpoint it records with a page. -/
structure IngestionLoop where
  Requests : Option CheckpointRow → EventsCursor → Prop
  record : Option CheckpointRow → GetEventsResponse → CheckpointRow

def workerLoop (env : WorkerEnv) : IngestionLoop where
  Requests cp q := q = ingestionCursor env cp
  record cp page := ⟨page.latestLedger, page.cursor.or (cp.bind CheckpointRow.lastCursor)⟩

def pollerLoop (config : PollerConfig) : IngestionLoop where
  Requests cp q :=
    match storedCursor cp with
    | some cursor => q = .cursor cursor
    | none => ∃ latest : ℕ, q = .ledger (config.startLedger.getD latest : ℕ)
  record _ page := ⟨page.pollerLedger, page.cursor⟩

theorem pollerLoop_requests_of_cursor {config : PollerConfig} {cp : Option CheckpointRow}
    {c : String} (h : storedCursor cp = some c) (q : EventsCursor) :
    (pollerLoop config).Requests cp q ↔ q = .cursor c := by
  simp only [pollerLoop, h]

theorem pollerLoop_requests_of_no_cursor {config : PollerConfig} {cp : Option CheckpointRow}
    (h : storedCursor cp = none) (q : EventsCursor) :
    (pollerLoop config).Requests cp q ↔
      ∃ latest : ℕ, q = .ledger (config.startLedger.getD latest : ℕ) := by
  simp only [pollerLoop, h]

/-- What a step leaves behind: the checkpoint it read, the position it asked for, if it came to
that, and the page it stored, if it stored one. -/
structure StepLog where
  read : Option CheckpointRow
  request : Option EventsCursor
  page : Option GetEventsResponse

/-- The batch that stores a page with a checkpoint. -/
def storedBatch (page : GetEventsResponse) (cp : CheckpointRow) : BatchParams :=
  ⟨.ofEvents (history page.events), cp.lastLedger, cp.lastCursor⟩

/-- **What one step does.** It fails and changes nothing, or it stores a page it was served. -/
inductive Outcome (loop : IngestionLoop) (rpc : EventsCursor → GetEventsResponse → Prop) (db : Db) :
    StepLog → Db → Prop
  | failed {read : Option CheckpointRow} {request : Option EventsCursor}
      (asked : ∀ q, request = some q → loop.Requests db.checkpoint q) :
      Outcome loop rpc db ⟨read, request, none⟩ db
  | stored {q : EventsCursor} {page : GetEventsResponse} (asked : loop.Requests db.checkpoint q)
      (served : rpc q page) (readable : ∀ raw ∈ page.events, Readable raw) :
      Outcome loop rpc db ⟨db.checkpoint, some q, some page⟩
        (db.applyBatch (storedBatch page (loop.record db.checkpoint page)))

/-- The position a call asks for. -/
def IngestCall.request : IngestCall → Option EventsCursor
  | getEvents _ q _ => some q
  | _ => none

/-- The checkpoint an answered call read. -/
def checkpointRead : Event ingestInterface → Option (Option CheckpointRow)
  | ⟨.getCheckpoint, .ok cp⟩ => some cp
  | _ => none

/-- The page an answered call brought. -/
def servedPage : Event ingestInterface → Option GetEventsResponse
  | ⟨.getEvents _ _ _, .ok page⟩ => some page
  | _ => none

/-- Whether an answered call wrote a batch. -/
def wroteBatch : Event ingestInterface → Bool
  | ⟨.applyBatch _, .ok _⟩ => true
  | _ => false

/-- Read off a trace what the step leaves behind. -/
def stepLog (tr : List (Event ingestInterface)) : StepLog where
  read := (tr.findSome? checkpointRead).join
  request := tr.findSome? fun e => e.1.request
  page := if tr.any wroteBatch then tr.findSome? servedPage else none

section Exec

variable {rpc : EventsCursor → ℕ → GetEventsResponse → Prop} {db db' : Db}
  {tr : List (Event ingestInterface)}

/-- A page that is decoded and classified is stored as what it says. -/
private theorem storedBatch_of_classified {page : GetEventsResponse}
    {decoded : List DecodedEvent} {batch : ClassifiedBatch}
    (hdecode : page.events.mapM decodeEvent = .ok decoded)
    (hclassify : classifyEvents decoded = .ok batch) :
    (∀ raw ∈ page.events, Readable raw) ∧ batch = .ofEvents (history page.events) := by
  refine classifyPage_eq_ok_iff.mp ?_
  rw [hdecode]
  exact hclassify

/-- **The Worker's step.** -/
theorem exec_runIngestionStep {env : WorkerEnv} {r : Except Thrown IngestionResult}
    (h : Exec (Answers rpc) (runIngestionStep env) db tr r db') :
    Outcome (workerLoop env) (fun q => rpc q defaultLimit) db (stepLog tr) db' ∧
      ∀ e, r = .error e → (stepLog tr).page = none := by
  unfold runIngestionStep at h
  split at h
  · obtain ⟨rfl, rfl, rfl⟩ := exec_done_iff.mp h
    exact ⟨.failed (by simp), fun _ _ => rfl⟩
  rcases exec_ask_bind_iff.mp h with ⟨e, ⟨⟩, rfl, rfl⟩ | ⟨cp, db₁, tr₁, ⟨⟩, rest₁, rfl⟩
  · exact ⟨.failed (by simp [IngestCall.request]), fun _ _ => rfl⟩
  have hasked : (workerLoop env).Requests db.checkpoint (ingestionCursor env db.checkpoint) := rfl
  rcases exec_ask_bind_iff.mp rest₁ with ⟨e, ⟨⟩, rfl, rfl⟩ | ⟨page, db₂, tr₂, here, rest₂, rfl⟩
  · exact ⟨.failed (by simpa [IngestCall.request] using hasked), fun _ _ => rfl⟩
  obtain ⟨hserved, rfl⟩ := answers_getEvents_ok_iff.mp here
  -- From here on the trace has the page, and the step stores it or fails.
  rcases exec_attempt_bind_iff.mp rest₂ with ⟨e, -, rfl, rfl, rfl⟩ | ⟨decoded, hdecode, rest₃⟩
  · exact ⟨.failed (by simpa [IngestCall.request] using hasked), fun _ _ => rfl⟩
  rcases exec_attempt_bind_iff.mp rest₃ with ⟨e, -, rfl, rfl, rfl⟩ | ⟨batch, hclassify, rest₄⟩
  · exact ⟨.failed (by simpa [IngestCall.request] using hasked), fun _ _ => rfl⟩
  obtain ⟨hread, rfl⟩ := storedBatch_of_classified hdecode hclassify
  rcases exec_ask_bind_iff.mp rest₄ with ⟨e, ⟨⟩, rfl, rfl⟩ | ⟨_, db₃, tr₃, ⟨⟩, rest₅, rfl⟩
  · exact ⟨.failed (by simpa [IngestCall.request] using hasked), fun _ _ => rfl⟩
  obtain ⟨rfl, rfl, rfl⟩ := exec_return_iff.mp rest₅
  exact ⟨.stored hasked hserved hread, by simp⟩

/-- A call that leaves nothing in the log. -/
private def Silent (e : Event ingestInterface) : Prop :=
  checkpointRead e = none ∧ e.1.request = none ∧ servedPage e = none ∧ wroteBatch e = false

private theorem stepLog_drop_silent (tr₁ tr₃ : List (Event ingestInterface))
    {tr₂ : List (Event ingestInterface)} (hsilent : ∀ e ∈ tr₂, Silent e) :
    stepLog (tr₁ ++ (tr₂ ++ tr₃)) = stepLog (tr₁ ++ tr₃) := by
  have hread : tr₂.findSome? checkpointRead = none :=
    List.findSome?_eq_none_iff.mpr fun e he => (hsilent e he).1
  have hrequest : tr₂.findSome? (fun e => e.1.request) = none :=
    List.findSome?_eq_none_iff.mpr fun e he => (hsilent e he).2.1
  have hserved : tr₂.findSome? servedPage = none :=
    List.findSome?_eq_none_iff.mpr fun e he => (hsilent e he).2.2.1
  have hwrote : tr₂.any wroteBatch = false := by
    rw [List.any_eq_false]
    intro e he
    simp [(hsilent e he).2.2.2]
  simp only [stepLog, List.findSome?_append, List.any_append, hread, hrequest, hserved, hwrote,
    Option.none_or, Bool.false_or]

/-- The poller settles where to resume, asking for the tip at most. -/
private theorem exec_pollerCursor {config : PollerConfig} {cp : Option CheckpointRow}
    {r : Except Thrown EventsCursor} (h : Exec (Answers rpc) (pollerCursor config cp) db tr r db') :
    db' = db ∧ (∀ e ∈ tr, Silent e) ∧
      ∀ q, r = .ok q → (pollerLoop config).Requests cp q := by
  unfold pollerCursor at h
  simp only [pollerLoop]
  cases hcursor : storedCursor cp with
  | some cursor =>
    rw [hcursor] at h
    obtain ⟨rfl, rfl, rfl⟩ := exec_return_iff.mp h
    refine ⟨rfl, by simp, ?_⟩
    rintro q ⟨⟩
    rfl
  | none =>
    rw [hcursor] at h
    have hsilent : ∀ x, ∀ e ∈ [(⟨.getLatestLedger, x⟩ : Event ingestInterface)], Silent e := by
      intro x e he
      rw [List.mem_singleton.mp he]
      exact ⟨rfl, rfl, rfl, rfl⟩
    rcases exec_ask_bind_iff.mp h with ⟨e, ⟨⟩, rfl, rfl⟩ | ⟨latest, db₁, tr₁, ⟨⟩, rest, rfl⟩
    · exact ⟨rfl, hsilent _, by simp⟩
    · obtain ⟨rfl, rfl, rfl⟩ := exec_return_iff.mp rest
      refine ⟨rfl, hsilent _, ?_⟩
      rintro q ⟨⟩
      exact ⟨latest, rfl⟩

/-- **The poller's cycle.** -/
theorem exec_runOnce {config : PollerConfig} {r : Except Thrown Bool}
    (h : Exec (Answers rpc) (runOnce config) db tr r db') :
    Outcome (pollerLoop config) (fun q => rpc q config.maxLedgersPerRequest) db (stepLog tr) db' ∧
      ∀ e, r = .error e → (stepLog tr).page = none := by
  unfold runOnce at h
  rcases exec_ask_bind_iff.mp h with ⟨e, ⟨⟩, rfl, rfl⟩ | ⟨cp, db₁, tr₁, ⟨⟩, rest₁, rfl⟩
  · exact ⟨.failed (by simp [IngestCall.request]), fun _ _ => rfl⟩
  rcases exec_throwing_bind_iff.mp rest₁ with ⟨e, h₂, rfl⟩ | ⟨tr₂, q, db₂, tr₃, h₂, rest₂, rfl⟩
  · obtain ⟨rfl, hsilent, -⟩ := exec_pollerCursor h₂
    have hlog := stepLog_drop_silent [⟨.getCheckpoint, .ok db'.checkpoint⟩] [] hsilent
    rw [List.append_nil] at hlog
    rw [← List.singleton_append, hlog]
    exact ⟨.failed (by simp [IngestCall.request]), fun _ _ => rfl⟩
  obtain ⟨rfl, hsilent, hasked⟩ := exec_pollerCursor h₂
  have hasked := hasked q rfl
  rw [← List.singleton_append, stepLog_drop_silent _ _ hsilent]
  rcases exec_ask_bind_iff.mp rest₂ with ⟨e, ⟨⟩, rfl, rfl⟩ | ⟨page, db₃, tr₄, here, rest₃, rfl⟩
  · exact ⟨.failed (by simpa [IngestCall.request] using hasked), fun _ _ => rfl⟩
  obtain ⟨hserved, rfl⟩ := answers_getEvents_ok_iff.mp here
  split at rest₃
  · -- An empty page: nothing is decoded, and the tip is recorded.
    rename_i hempty
    rcases exec_ask_bind_iff.mp rest₃ with ⟨e, ⟨⟩, rfl, rfl⟩ | ⟨_, db₄, tr₅, ⟨⟩, rest₄, rfl⟩
    · exact ⟨.failed (by simpa [IngestCall.request] using hasked), fun _ _ => rfl⟩
    obtain ⟨rfl, rfl, rfl⟩ := exec_return_iff.mp rest₄
    have hstored : storedBatch page ((pollerLoop config).record db₃.checkpoint page) =
        ⟨emptyBatch, page.latestLedger, page.cursor⟩ := by
      simp [storedBatch, pollerLoop, GetEventsResponse.pollerLedger, hempty,
        ClassifiedBatch.ofEvents, emptyBatch]
    have hread : ∀ raw ∈ page.events, Readable raw := by simp [hempty]
    have houtcome : Outcome (pollerLoop config) (fun q => rpc q config.maxLedgersPerRequest) _
        ⟨_, some q, some page⟩ _ := .stored hasked hserved hread
    rw [hstored] at houtcome
    exact ⟨houtcome, by simp⟩
  rcases exec_attempt_bind_iff.mp rest₃ with ⟨e, -, rfl, rfl, rfl⟩ | ⟨decoded, hdecode, rest₄⟩
  · exact ⟨.failed (by simpa [IngestCall.request] using hasked), fun _ _ => rfl⟩
  rcases exec_attempt_bind_iff.mp rest₄ with ⟨e, -, rfl, rfl, rfl⟩ | ⟨batch, hclassify, rest₅⟩
  · exact ⟨.failed (by simpa [IngestCall.request] using hasked), fun _ _ => rfl⟩
  obtain ⟨hread, rfl⟩ := storedBatch_of_classified hdecode hclassify
  -- The decoded events carry the ledgers of the page.
  have hledger : (decoded.getLast?.map DecodedEvent.ledger).getD page.latestLedger =
      page.pollerLedger := by
    change _ = (page.events.getLast?.map RawEvent.ledger).getD page.latestLedger
    rw [← List.getLast?_map, ← List.getLast?_map, mapM_decodeEvent_ledger hdecode]
  rw [hledger] at rest₅
  rcases exec_ask_bind_iff.mp rest₅ with ⟨e, ⟨⟩, rfl, rfl⟩ | ⟨_, db₄, tr₅, ⟨⟩, rest₆, rfl⟩
  · exact ⟨.failed (by simpa [IngestCall.request] using hasked), fun _ _ => rfl⟩
  obtain ⟨rfl, rfl, rfl⟩ := exec_return_iff.mp rest₆
  exact ⟨.stored hasked hserved hread, by simp⟩

end Exec

/-! ### The Worker's step, call by call -/

/-- **What the Worker's step does next.** After any trace it is about to read the checkpoint, to ask
for the page after it, or to store the page it was given with the checkpoint it read. -/
theorem residual_runIngestionStep {env : WorkerEnv} {tr : List (Event ingestInterface)}
    {c : IngestCall} {next : Except Thrown c.Returns → Program ingestInterface _}
    (h : Residual (runIngestionStep env) tr (.call (I := ingestInterface) c next)) :
    (tr = [] ∧ c = .getCheckpoint) ∨
      (∃ cp, tr = [⟨.getCheckpoint, .ok cp⟩] ∧
        c = .getEvents env.contractIds (ingestionCursor env cp) defaultLimit) ∨
      ∃ cp page, tr = [⟨.getCheckpoint, .ok cp⟩,
          ⟨.getEvents env.contractIds (ingestionCursor env cp) defaultLimit, .ok page⟩] ∧
        (∀ raw ∈ page.events, Readable raw) ∧
        c = .applyBatch (storedBatch page ((workerLoop env).record cp page)) := by
  unfold runIngestionStep at h
  split at h
  · cases (residual_done_iff.mp h).2
  rcases residual_ask_bind h with ⟨rfl, _, hcall⟩ | ⟨e, ⟨⟩⟩ | ⟨cp, tr₁, rest₁, rfl⟩
  · cases hcall
    exact .inl ⟨rfl, rfl⟩
  rcases residual_ask_bind rest₁ with ⟨rfl, _, hcall⟩ | ⟨e, ⟨⟩⟩ | ⟨page, tr₂, rest₂, rfl⟩
  · cases hcall
    exact .inr (.inl ⟨cp, rfl, rfl⟩)
  -- With a page in hand, the step fails or is about to store it.
  cases hdecode : page.events.mapM decodeEvent with
  | error e =>
    rw [hdecode, attempt_error_bind] at rest₂
    cases (residual_done_iff.mp rest₂).2
  | ok decoded =>
  rw [hdecode, attempt_ok_bind] at rest₂
  cases hclassify : classifyEvents decoded with
  | error e =>
    rw [hclassify, attempt_error_bind] at rest₂
    cases (residual_done_iff.mp rest₂).2
  | ok batch =>
  obtain ⟨hread, rfl⟩ := storedBatch_of_classified hdecode hclassify
  rw [hclassify, attempt_ok_bind] at rest₂
  rcases residual_ask_bind rest₂ with ⟨rfl, _, hcall⟩ | ⟨e, ⟨⟩⟩ | ⟨_, tr₃, rest₃, rfl⟩
  · cases hcall
    exact .inr (.inr ⟨cp, page, rfl, hread, rfl⟩)
  · cases (residual_done_iff.mp rest₃).2

end Indexer

end SlaSettle
