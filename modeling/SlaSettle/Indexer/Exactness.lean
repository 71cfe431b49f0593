import SlaSettle.Indexer.Run

/-!
# Ingestion is exact

When every response carries a cursor, a sequential run of either loop on a fresh database keeps
the tables exactly equal to the fold of a stretch of the chain: from the position asked for by the
first step that stored a page, up to the position of the stored cursor
(`Chain.ExactFrom`). Pages may be of any size, cut anywhere, or empty, and any step may fail at any
of its calls, or on an event that cannot be read; a step that fails changes nothing.

The stretch does not always begin at the first position *asked for*: with no `START_LEDGER`, the
poller starts at the tip, and asks for the tip again when its first step has failed.
-/

namespace SlaSettle

namespace Indexer

open Js Effect Program

/-- The pages served by an RPC whose responses all carry a cursor. -/
def Chain.ServesWithCursor (chain : Chain) (q : EventsCursor) (limit : ℕ)
    (page : GetEventsResponse) : Prop :=
  chain.Serves q limit page ∧ page.CarriesCursor

/-- **The tables are the fold of a stretch of the chain**: the one from the position `start` up to
the stored cursor. Before there is such a position the database is fresh. -/
def Chain.ExactFrom (chain : Chain) (start : Option EventsCursor) (db : Db) : Prop :=
  match start with
  | none => db.checkpoint = none ∧ db.Holds []
  | some q => ∃ c, storedCursor db.checkpoint = some c ∧ chain.indexOf q ≤ chain.position c ∧
      db.Holds (history (chain.between (chain.indexOf q) (chain.position c)))

/-- A loop that records the cursor of a response, and resumes at the cursor it recorded. -/
structure IngestionLoop.FollowsCursors (loop : IngestionLoop) : Prop where
  resumes : ∀ cp c q, storedCursor cp = some c → loop.Requests cp q → q = .cursor c
  records : ∀ cp page c, page.cursor = some c → (loop.record cp page).lastCursor = some c

theorem workerLoop_followsCursors (env : WorkerEnv) : (workerLoop env).FollowsCursors where
  resumes cp c q hc hq := by
    rw [hq, ingestionCursor, hc]
  records cp page c hc := by
    change page.cursor.or _ = some c
    rw [hc, Option.some_or]

theorem pollerLoop_followsCursors (config : PollerConfig) :
    (pollerLoop config).FollowsCursors where
  resumes _ _ q hc hq := (pollerLoop_requests_of_cursor hc q).mp hq
  records _ _ _ hc := hc

/-- A recorded cursor that is not empty is what the checkpoint stores. -/
theorem storedCursor_some {cp : CheckpointRow} {c : String} (hc : cp.lastCursor = some c)
    (hne : c ≠ "") : storedCursor (some cp) = some c := by
  rw [storedCursor, Option.bind_some, hc, Option.filter_some, if_pos (by simpa using hne)]

/-- A page extends the stretch held by its events. -/
theorem Db.Holds.applyPage {chain : Chain} {db : Db} {i : ℕ} {q : EventsCursor} {limit : ℕ}
    {page : GetEventsResponse} (hserved : chain.Serves q limit page) (hi : i ≤ chain.indexOf q)
    (h : db.Holds (history (chain.between i (chain.indexOf q)))) (cp : CheckpointRow) :
    (db.applyBatch (storedBatch page cp)).Holds
      (history (chain.between i (chain.after q page))) := by
  have hcut : chain.between i (chain.indexOf q) ++ page.events =
      chain.between i (chain.after q page) := by
    rw [hserved.events_eq]
    exact Chain.between_append hi (Nat.le_add_right _ _)
  have hkeys : DistinctKeys (history (chain.between i (chain.indexOf q)) ++
      history page.events) := by
    rw [← history_append, hcut]
    exact Chain.distinctKeys_between _ _
  rw [← hcut, history_append]
  exact h.applyBatch hkeys _ _

/-- One step keeps the tables exact. -/
theorem Outcome.exactFrom {chain : Chain} {loop : IngestionLoop} {limit : ℕ}
    (hloop : loop.FollowsCursors) {log : List StepLog} {db db' : Db} {entry : StepLog}
    (h : Outcome loop (fun q => chain.ServesWithCursor q limit) db entry db')
    (hexact : chain.ExactFrom (firstStored log) db) :
    chain.ExactFrom (firstStored (log ++ [entry])) db' := by
  cases h with
  | failed _ =>
    rw [firstStored_failed]
    exact hexact
  | @stored q page asked served _ =>
    obtain ⟨hserved, c, hc, hne⟩ := served
    have hcursor := hloop.records db.checkpoint page c hc
    have hstored : storedCursor (some (loop.record db.checkpoint page)) = some c :=
      storedCursor_some hcursor hne
    have hposition : chain.position c = chain.after q page := hserved.cursor c hc hne
    rw [firstStored_stored]
    cases hfirst : firstStored log with
    | none =>
      -- The first page: the stretch begins where this step asked.
      rw [hfirst] at hexact
      obtain ⟨-, hempty⟩ := hexact
      refine ⟨c, hstored, by rw [hposition]; exact Nat.le_add_right _ _, ?_⟩
      rw [hposition]
      exact Db.Holds.applyPage hserved le_rfl (by simpa using hempty) _
    | some q₀ =>
      -- A later page continues at the cursor the step before recorded.
      rw [hfirst] at hexact
      obtain ⟨c₀, hc₀, hle, hholds⟩ := hexact
      have hq : q = .cursor c₀ := hloop.resumes _ _ _ hc₀ asked
      have hindex : chain.indexOf q = chain.position c₀ := by rw [hq, Chain.indexOf]
      refine ⟨c, hstored, ?_, ?_⟩
      · rw [hposition, Option.getD_some]
        exact hle.trans (by rw [← hindex]; exact Nat.le_add_right _ _)
      · rw [hposition, Option.getD_some]
        rw [← hindex] at hle hholds
        exact Db.Holds.applyPage hserved hle hholds _

/-- Every run keeps the tables exact. -/
theorem IngestionLoop.Run.exactFrom {chain : Chain} {loop : IngestionLoop} {limit : ℕ}
    (hloop : loop.FollowsCursors) {log : List StepLog} {db : Db}
    (h : loop.Run (fun q => chain.ServesWithCursor q limit) log db) :
    chain.ExactFrom (firstStored log) db := by
  induction h with
  | nil => exact ⟨rfl, Db.holds_empty⟩
  | snoc _ last ih => exact last.exactFrom hloop ih

/-- A step whose log holds no page left the database alone. -/
theorem Outcome.eq_of_page_none {loop : IngestionLoop}
    {rpc : EventsCursor → GetEventsResponse → Prop} {db db' : Db} {entry : StepLog}
    (h : Outcome loop rpc db entry db') (hpage : entry.page = none) : db' = db := by
  cases h with
  | failed _ => rfl
  | stored _ _ _ => cases hpage

/-- **Ingestion is exact over whole runs.** After any sequential run of either program on a fresh
database the tables are the fold of the chain from the position asked for by the first step that
stored a page up to the stored cursor, and a step that throws leaves the database as it was. -/
theorem ingestion_exact (chain : Chain) :
    (∀ (env : WorkerEnv) log db,
      Session (Answers chain.ServesWithCursor) (runIngestionStep env) Db.empty log db →
        chain.ExactFrom (firstStored (sessionLog log)) db ∧
        ∀ tr e db', Exec (Answers chain.ServesWithCursor) (runIngestionStep env) db tr (.error e)
          db' → db' = db) ∧
    ∀ (config : PollerConfig) log db,
      Session (Answers chain.ServesWithCursor) (runOnce config) Db.empty log db →
        chain.ExactFrom (firstStored (sessionLog log)) db ∧
        ∀ tr e db', Exec (Answers chain.ServesWithCursor) (runOnce config) db tr (.error e)
          db' → db' = db := by
  refine ⟨fun env log db h => ⟨?_, ?_⟩, fun config log db h => ⟨?_, ?_⟩⟩
  · exact (run_of_session_worker h).exactFrom (workerLoop_followsCursors env)
  · intro tr e db' hstep
    obtain ⟨houtcome, hthrown⟩ := exec_runIngestionStep hstep
    exact houtcome.eq_of_page_none (hthrown e rfl)
  · exact (run_of_session_poller h).exactFrom (pollerLoop_followsCursors config)
  · intro tr e db' hstep
    obtain ⟨houtcome, hthrown⟩ := exec_runOnce hstep
    exact houtcome.eq_of_page_none (hthrown e rfl)

/-! ### A poller that starts at the tip -/

/-- One watcher registration, in ledger 100. -/
def registrationChain : Chain :=
  .ofEmitted [(⟨"a", 100, "t0", "x", "registry"⟩, .watcher .registered "W")] (fun _ => 1)
    (by decide) (by decide) (by decide)

/-- A poller with no `START_LEDGER`. -/
def tipConfig : PollerConfig := ⟨"registry", "vault", 1000, none⟩

/-- A page of `registrationChain` with no events, served for ledger 101. -/
private def emptyPage : GetEventsResponse := ⟨[], 101, some "c"⟩

/-- Its page with the registration, served for ledger 100, with or without a cursor. -/
def registrationPage (cursor : Option String) : GetEventsResponse :=
  ⟨registrationChain.events, 100, cursor⟩

private theorem serves_emptyPage :
    registrationChain.ServesWithCursor (.ledger (101 : ℕ)) 1000 emptyPage := by
  have hindex : registrationChain.indexOf (.ledger (101 : ℕ)) = 1 := by decide +kernel
  refine ⟨⟨?_, by decide, by simp [emptyPage], ?_⟩, "c", rfl, by decide⟩
  · exact List.nil_prefix
  · intro c _ _
    exact hindex.symm

theorem serves_registrationPage (cursor : Option String) :
    registrationChain.Serves (.ledger (100 : ℕ)) 1000 (registrationPage cursor) := by
  have hindex : registrationChain.indexOf (.ledger (100 : ℕ)) = 0 := by decide +kernel
  refine ⟨?_, by simp [registrationPage, registrationChain, Chain.ofEmitted], ?_, ?_⟩
  · rw [hindex]
    exact List.prefix_refl _
  · intro e he
    rw [List.mem_singleton.mp he]
    exact le_rfl
  · intro c _ _
    rw [hindex]
    rfl

/-- A first step at ledger 100 whose request fails. -/
private theorem exec_failed_at_100 :
    Exec (Answers registrationChain.ServesWithCursor) (runOnce tipConfig) Db.empty
      [⟨.getCheckpoint, .ok none⟩, ⟨.getLatestLedger, .ok (100 : ℕ)⟩,
        ⟨.getEvents ["registry", "vault"] (.ledger (100 : ℕ)) 1000, .error .other⟩]
      (.error .other) Db.empty :=
  .call .getCheckpoint (.call .getLatestLedger (.call .throws .done))

/-- A step at ledger 101, which finds nothing. -/
private theorem exec_empty_at_101 :
    Exec (Answers registrationChain.ServesWithCursor) (runOnce tipConfig) Db.empty
      [⟨.getCheckpoint, .ok none⟩, ⟨.getLatestLedger, .ok (101 : ℕ)⟩,
        ⟨.getEvents ["registry", "vault"] (.ledger (101 : ℕ)) 1000, .ok emptyPage⟩,
        ⟨.applyBatch ⟨emptyBatch, 101, some "c"⟩, .ok ()⟩]
      (.ok false) (Db.empty.applyBatch ⟨emptyBatch, 101, some "c"⟩) :=
  .call .getCheckpoint (.call .getLatestLedger
    (.call (.getEvents serves_emptyPage) (.call .applyBatch .done)))

/-- With no `START_LEDGER`, a poller whose first step failed at ledger 100 begins at ledger 101:
what lies between is not in the tables. -/
theorem exact_from_first_request_fails :
    ¬ ∀ (chain : Chain) (config : PollerConfig) log db,
      Session (Answers chain.ServesWithCursor) (runOnce config) Db.empty log db →
        ∀ q c, firstRequest (sessionLog log) = some q → storedCursor db.checkpoint = some c →
          db.Holds (history (chain.between (chain.indexOf q) (chain.position c))) := by
  intro hall
  have hsession := Session.snoc (.snoc .nil exec_failed_at_100) exec_empty_at_101
  have hholds := hall registrationChain tipConfig _ _ hsession (.ledger (100 : ℕ)) "c" rfl rfl
  have hindex : registrationChain.indexOf (.ledger (100 : ℕ)) = 0 := by decide +kernel
  have hbetween : registrationChain.between 0 1 = registrationChain.events := rfl
  have hwatcher := hholds.watchers "W"
  rw [hindex, show registrationChain.position "c" = 1 from rfl, hbetween] at hwatcher
  exact absurd hwatcher (by decide)

/-- A poller that stores the registration in its first step. -/
theorem ingestion_exact_registration :
    ∃ db, registrationChain.ExactFrom (some (.ledger (100 : ℕ))) db ∧
      Db.eligible db.watchers "W" = true := by
  have hserved : registrationChain.ServesWithCursor (.ledger (100 : ℕ)) 1000
      (registrationPage (some "c")) := ⟨serves_registrationPage _, "c", rfl, by decide⟩
  have hstep : Exec (Answers registrationChain.ServesWithCursor) (runOnce tipConfig) Db.empty
      [⟨.getCheckpoint, .ok none⟩, ⟨.getLatestLedger, .ok (100 : ℕ)⟩,
        ⟨.getEvents ["registry", "vault"] (.ledger (100 : ℕ)) 1000,
          .ok (registrationPage (some "c"))⟩,
        ⟨.applyBatch (storedBatch (registrationPage (some "c")) ⟨100, some "c"⟩), .ok ()⟩]
      (.ok false)
      (Db.empty.applyBatch (storedBatch (registrationPage (some "c")) ⟨100, some "c"⟩)) :=
    .call .getCheckpoint (.call .getLatestLedger
      (.call (.getEvents hserved) (.call .applyBatch .done)))
  have hsession := Session.snoc .nil hstep
  exact ⟨_, ((ingestion_exact registrationChain).2 tipConfig _ _ hsession).1, by decide⟩

end Indexer

end SlaSettle
