import SlaSettle.Indexer.Exactness

/-!
# Resuming from the checkpoint

What becomes of a run when responses may come without a cursor. A loop then falls back on a ledger
number: the poller on `START_LEDGER` or the tip, the Worker on the ledger after the one it
recorded, which is the tip as the response reported it.

`Chain.NothingSkipped` says that no step of a run resumes past an event that is not stored yet, and
`resuming_skips_nothing` gives the condition on the steps under which it holds of each loop.
Between two steps the stored cursor vouches for what lies before it (`CursorInv`); where the Worker
has no cursor, the recorded ledger must (`WorkerInv`). `resuming_skips` is a run that loses an
event.
-/

namespace SlaSettle

namespace Indexer

open Js Effect Program

/-! ### Positions and steps -/

/-- **No event is skipped.** Whenever a step of the run stores a page, every event between the first
position asked for in the run and the position of the page has been stored by then. -/
def Chain.NothingSkipped (chain : Chain) (log : List StepLog) : Prop :=
  ∀ before step after q page q₀, log = before ++ step :: after → step.request = some q →
    step.page = some page → firstRequest log = some q₀ →
      chain.between (chain.indexOf q₀) (chain.indexOf q) ⊆ storedEvents before

/-- The page leaves no event for later in a ledger up to `ledger`. -/
def Chain.CompleteThrough (chain : Chain) (q : EventsCursor) (page : GetEventsResponse)
    (ledger : ℕ) : Prop :=
  ∀ k raw, chain.after q page ≤ k → chain.events[k]? = some raw → ledger < raw.ledger

@[simp]
theorem firstRequest_nil : firstRequest [] = none := rfl

theorem firstRequest_concat (log : List StepLog) (step : StepLog) :
    firstRequest (log ++ [step]) = (firstRequest log).or step.request := by
  simp [firstRequest, List.findSome?_append]

theorem storedEvents_subset_concat (log : List StepLog) (step : StepLog) :
    storedEvents log ⊆ storedEvents (log ++ [step]) := by
  intro raw hraw
  obtain ⟨read, request, page⟩ := step
  cases page with
  | none => rwa [storedEvents_failed]
  | some page =>
    rw [storedEvents_stored]
    exact List.mem_append_left _ hraw

/-- A stretch stored up to a page is stored through the page once the page is. -/
theorem Chain.Serves.between_after_subset {chain : Chain} {q : EventsCursor} {limit i : ℕ}
    {page : GetEventsResponse} {log : List StepLog} {read : Option CheckpointRow}
    (h : chain.Serves q limit page)
    (hskip : chain.between i (chain.indexOf q) ⊆ storedEvents log) :
    chain.between i (chain.after q page) ⊆ storedEvents (log ++ [⟨read, some q, some page⟩]) := by
  intro raw hraw
  rw [storedEvents_stored, h.events_eq]
  refine List.mem_append.mpr ?_
  rcases List.mem_append.mp (Chain.between_subset i (chain.indexOf q) _ hraw) with hraw | hraw
  · exact .inl (hskip hraw)
  · exact .inr hraw

/-- A run extended by one step skips nothing if the step does not. -/
theorem Chain.NothingSkipped.concat {chain : Chain} {log : List StepLog} {step : StepLog}
    (h : chain.NothingSkipped log)
    (hstep : ∀ q page q₀, step.request = some q → step.page = some page →
      firstRequest (log ++ [step]) = some q₀ →
        chain.between (chain.indexOf q₀) (chain.indexOf q) ⊆ storedEvents log) :
    chain.NothingSkipped (log ++ [step]) := by
  intro before step' after q page q₀ hlog hq hpage hfirst
  rcases List.eq_nil_or_concat after with rfl | ⟨after', last, rfl⟩
  · obtain ⟨rfl, hlast⟩ := List.append_inj' hlog rfl
    obtain rfl : step = step' := List.singleton_inj.mp hlast
    exact hstep q page q₀ hq hpage hfirst
  · -- The step lies before the last one, and asked for a position itself.
    have hlog' : log ++ [step] = (before ++ step' :: after') ++ [last] := by
      rw [hlog, List.concat_eq_append, List.append_assoc, List.cons_append]
    obtain ⟨rfl, -⟩ := List.append_inj' hlog' rfl
    refine h before step' after' q page q₀ rfl hq hpage ?_
    have hsome : firstRequest (before ++ step' :: after') ≠ none := by
      rw [firstRequest, Ne, List.findSome?_eq_none_iff]
      intro hnone
      have hstep' := hnone step' (by simp)
      rw [hq] at hstep'
      cases hstep'
    rw [firstRequest_concat] at hfirst
    cases hlog₀ : firstRequest (before ++ step' :: after') with
    | none => exact absurd hlog₀ hsome
    | some q₁ =>
      rw [hlog₀, Option.some_or] at hfirst
      exact hfirst

/-! ### What the cursor vouches for -/

/-- What holds between the steps of a run: the stored cursor lies behind nothing that is missing. -/
structure CursorInv (chain : Chain) (log : List StepLog) (db : Db) : Prop where
  fresh : firstRequest log = none → db.checkpoint = none
  cursor : ∀ c q₀, storedCursor db.checkpoint = some c → firstRequest log = some q₀ →
    chain.between (chain.indexOf q₀) (chain.position c) ⊆ storedEvents log

theorem cursorInv_nil (chain : Chain) : CursorInv chain [] Db.empty where
  fresh _ := rfl
  cursor _ _ hc := by cases hc

/-- While a cursor is stored, the first position asked for is settled. -/
theorem CursorInv.first_eq {chain : Chain} {log : List StepLog} {db : Db} {c : String}
    {q₀ : EventsCursor} {step : StepLog} (h : CursorInv chain log db)
    (hc : storedCursor db.checkpoint = some c) (hfirst : firstRequest (log ++ [step]) = some q₀) :
    firstRequest log = some q₀ := by
  rw [firstRequest_concat] at hfirst
  cases hlog : firstRequest log with
  | none =>
    rw [h.fresh hlog] at hc
    cases hc
  | some q₁ =>
    rw [hlog, Option.some_or] at hfirst
    exact hfirst

/-- A failed step keeps the invariant. -/
theorem CursorInv.failed {chain : Chain} {log : List StepLog} {db : Db}
    (h : CursorInv chain log db) (read : Option CheckpointRow) (request : Option EventsCursor) :
    CursorInv chain (log ++ [⟨read, request, none⟩]) db where
  fresh hnone := by
    rw [firstRequest_concat, Option.or_eq_none_iff] at hnone
    exact h.fresh hnone.1
  cursor c q₀ hc hfirst := by
    rw [storedEvents_failed]
    exact h.cursor c q₀ hc (h.first_eq hc hfirst)

/-- The cursor a loop leaves in the checkpoint is that of the page, or the one that was there. -/
def IngestionLoop.KeepsCursors (loop : IngestionLoop) : Prop :=
  ∀ cp page c, storedCursor (some (loop.record cp page)) = some c →
    (page.cursor = some c ∧ c ≠ "") ∨ storedCursor cp = some c

/-- A step that skips nothing and stores a page keeps the invariant. -/
theorem CursorInv.stored {chain : Chain} {loop : IngestionLoop} {log : List StepLog} {db : Db}
    {q : EventsCursor} {limit : ℕ} {page : GetEventsResponse} (h : CursorInv chain log db)
    (hloop : loop.KeepsCursors) (hserved : chain.Serves q limit page)
    (hskip : ∀ q₀, firstRequest (log ++ [⟨db.checkpoint, some q, some page⟩]) = some q₀ →
      chain.between (chain.indexOf q₀) (chain.indexOf q) ⊆ storedEvents log) :
    CursorInv chain (log ++ [⟨db.checkpoint, some q, some page⟩])
      (db.applyBatch (storedBatch page (loop.record db.checkpoint page))) where
  fresh hnone := by
    rw [firstRequest_concat, Option.or_eq_none_iff] at hnone
    cases hnone.2
  cursor c q₀ hc hfirst := by
    rcases hloop _ _ _ hc with ⟨hcursor, hne⟩ | hkept
    · rw [hserved.cursor c hcursor hne]
      exact hserved.between_after_subset (hskip q₀ hfirst)
    · have hold := h.cursor c q₀ hkept (h.first_eq hkept hfirst)
      exact List.Subset.trans hold (storedEvents_subset_concat _ _)

/-! ### The poller -/

theorem storedCursor_eq_some_iff {cp : CheckpointRow} {c : String} :
    storedCursor (some cp) = some c ↔ cp.lastCursor = some c ∧ c ≠ "" := by
  rw [storedCursor, Option.bind_some, Option.filter_eq_some_iff]
  simp

/-- A step of the poller resumes safely: `START_LEDGER` is set, or it found a cursor, or nothing
had been asked for before it. -/
def PollerConfig.Resumes (config : PollerConfig) (before : List StepLog) (step : StepLog) : Prop :=
  step.page ≠ none →
    config.startLedger ≠ none ∨ storedCursor step.read ≠ none ∨ firstRequest before = none

theorem pollerLoop_keepsCursors (config : PollerConfig) : (pollerLoop config).KeepsCursors := by
  intro cp page c hc
  exact .inl (storedCursor_eq_some_iff.mp hc)

/-- What holds between the cycles of the poller. -/
structure PollerInv (chain : Chain) (config : PollerConfig) (log : List StepLog) (db : Db) : Prop
    extends CursorInv chain log db where
  first : ∀ s, config.startLedger = some s → ∀ q₀, firstRequest log = some q₀ →
    q₀ = .ledger (s : ℕ)

/-- The first position asked for is `START_LEDGER`, where it is set. -/
private theorem PollerInv.first_concat {chain : Chain} {config : PollerConfig} {log : List StepLog}
    {db : Db} {step : StepLog} (h : PollerInv chain config log db)
    (hasked : ∀ q, step.request = some q → (pollerLoop config).Requests db.checkpoint q) (s : ℕ)
    (hs : config.startLedger = some s) (q₀ : EventsCursor)
    (hfirst : firstRequest (log ++ [step]) = some q₀) : q₀ = .ledger (s : ℕ) := by
  rw [firstRequest_concat] at hfirst
  cases hlog : firstRequest log with
  | some q₁ =>
    rw [hlog, Option.some_or] at hfirst
    exact h.first s hs q₀ (hlog.trans hfirst)
  | none =>
    rw [hlog, Option.none_or] at hfirst
    have hfresh : storedCursor db.checkpoint = none := by
      rw [h.fresh hlog]
      rfl
    obtain ⟨latest, rfl⟩ := (pollerLoop_requests_of_no_cursor hfresh q₀).mp (hasked q₀ hfirst)
    rw [hs, Option.getD_some]

/-- A cycle that resumes safely asks for a position before which nothing is missing. -/
private theorem PollerInv.skips_nothing {chain : Chain} {config : PollerConfig}
    {log : List StepLog} {db : Db} {q q₀ : EventsCursor} {page : GetEventsResponse}
    (h : PollerInv chain config log db) (hasked : (pollerLoop config).Requests db.checkpoint q)
    (hresumes : config.Resumes log ⟨db.checkpoint, some q, some page⟩)
    (hfirst : firstRequest (log ++ [⟨db.checkpoint, some q, some page⟩]) = some q₀) :
    chain.between (chain.indexOf q₀) (chain.indexOf q) ⊆ storedEvents log := by
  cases hcursor : storedCursor db.checkpoint with
  | some c =>
    obtain rfl := (pollerLoop_requests_of_cursor hcursor q).mp hasked
    exact h.cursor c q₀ hcursor (h.first_eq hcursor hfirst)
  | none =>
    -- Without a cursor the cycle asks for the first position of the run again.
    have hq : q = q₀ := by
      rcases hresumes (by simp) with hstart | hread | hnothing
      · obtain ⟨s, hs⟩ := Option.ne_none_iff_exists'.mp hstart
        obtain ⟨latest, hq⟩ := (pollerLoop_requests_of_no_cursor hcursor q).mp hasked
        rw [hs, Option.getD_some] at hq
        have hasked' : ∀ q', some q = some q' → (pollerLoop config).Requests db.checkpoint q' := by
          rintro _ ⟨⟩
          exact hasked
        rw [h.first_concat hasked' s hs q₀ hfirst, hq]
      · exact absurd hcursor hread
      · rw [firstRequest_concat, hnothing, Option.none_or, Option.some.injEq] at hfirst
        exact hfirst
    rw [hq, Chain.between_self]
    exact List.nil_subset _

/-- Runs of the poller whose cycles all resume safely skip nothing. -/
theorem PollerInv.of_run {chain : Chain} {config : PollerConfig} {limit : ℕ} {log : List StepLog}
    {db : Db} (h : (pollerLoop config).Run (fun q => chain.Serves q limit) log db)
    (hresumes : ∀ before step after, log = before ++ step :: after →
      config.Resumes before step) :
    PollerInv chain config log db ∧ chain.NothingSkipped log := by
  induction h with
  | nil => exact ⟨⟨cursorInv_nil chain, by simp⟩, by simp [Chain.NothingSkipped]⟩
  | @snoc log db db' step _ last ih =>
    obtain ⟨hinv, hskip⟩ := ih fun before step' after hlog =>
      hresumes before step' (after ++ [step]) (by rw [hlog]; simp)
    have hlast : config.Resumes log step := hresumes log step [] rfl
    cases last with
    | failed hasked =>
      refine ⟨⟨hinv.toCursorInv.failed _ _, hinv.first_concat hasked⟩, hskip.concat ?_⟩
      intro q page q₀ _ hpage
      cases hpage
    | @stored q page hasked hserved _ =>
      have hstep : ∀ q₀, firstRequest (log ++ [⟨db.checkpoint, some q, some page⟩]) = some q₀ →
          chain.between (chain.indexOf q₀) (chain.indexOf q) ⊆ storedEvents log :=
        fun _ hfirst => hinv.skips_nothing hasked hlast hfirst
      refine ⟨⟨hinv.toCursorInv.stored (pollerLoop_keepsCursors config) hserved hstep,
        hinv.first_concat ?_⟩, hskip.concat ?_⟩
      · rintro _ ⟨⟩
        exact hasked
      · rintro _ _ q₀ ⟨⟩ _ hfirst
        exact hstep q₀ hfirst

/-! ### The Worker -/

/-- A step of the Worker resumes safely: the response carries a cursor, or the one found is kept, or
the page leaves nothing for later up to the tip it reports. -/
def Chain.LeavesNothing (chain : Chain) (step : StepLog) : Prop :=
  ∀ q page, step.request = some q → step.page = some page →
    page.CarriesCursor ∨ (page.cursor = none ∧ storedCursor step.read ≠ none) ∨
      chain.CompleteThrough q page page.latestLedger

theorem workerLoop_keepsCursors (env : WorkerEnv) : (workerLoop env).KeepsCursors := by
  intro cp page c hc
  obtain ⟨hor, hne⟩ := storedCursor_eq_some_iff.mp hc
  change page.cursor.or (cp.bind CheckpointRow.lastCursor) = some c at hor
  cases hpage : page.cursor with
  | some c' =>
    rw [hpage, Option.some_or] at hor
    exact .inl ⟨hor, hne⟩
  | none =>
    rw [hpage, Option.none_or] at hor
    refine .inr ?_
    rw [storedCursor, hor, Option.filter_some, if_pos (by simpa using hne)]

/-- What holds between the steps of the Worker: without a cursor, the recorded ledger vouches for
the events up to it. -/
structure WorkerInv (chain : Chain) (env : WorkerEnv) (log : List StepLog) (db : Db) : Prop
    extends CursorInv chain log db where
  first : ∀ q₀, firstRequest log = some q₀ → q₀ = .ledger env.initialLedger
  ledger : ∀ cp, db.checkpoint = some cp → storedCursor (some cp) = none →
    ∀ k raw, chain.indexOf (.ledger env.initialLedger) ≤ k → chain.events[k]? = some raw →
      raw.ledger ≤ cp.lastLedger → raw ∈ storedEvents log

/-- The first position the Worker asks for is its configured start. -/
private theorem WorkerInv.first_concat {chain : Chain} {env : WorkerEnv} {log : List StepLog}
    {db : Db} {step : StepLog} (h : WorkerInv chain env log db)
    (hasked : ∀ q, step.request = some q → (workerLoop env).Requests db.checkpoint q)
    (q₀ : EventsCursor) (hfirst : firstRequest (log ++ [step]) = some q₀) :
    q₀ = .ledger env.initialLedger := by
  rw [firstRequest_concat] at hfirst
  cases hlog : firstRequest log with
  | some q₁ =>
    rw [hlog, Option.some_or] at hfirst
    exact h.first q₀ (hlog.trans hfirst)
  | none =>
    rw [hlog, Option.none_or] at hfirst
    have hq : q₀ = ingestionCursor env db.checkpoint := hasked q₀ hfirst
    rw [hq, h.fresh hlog]
    rfl

/-- The Worker asks for a position before which nothing is missing. -/
private theorem WorkerInv.skips_nothing {chain : Chain} {env : WorkerEnv} {log : List StepLog}
    {db : Db} {step : StepLog} {q₀ : EventsCursor} (h : WorkerInv chain env log db)
    (hasked : ∀ q, step.request = some q → (workerLoop env).Requests db.checkpoint q)
    (hfirst : firstRequest (log ++ [step]) = some q₀) :
    chain.between (chain.indexOf q₀) (chain.indexOf (ingestionCursor env db.checkpoint)) ⊆
      storedEvents log := by
  have hq₀ := h.first_concat hasked q₀ hfirst
  rw [ingestionCursor]
  cases hcursor : storedCursor db.checkpoint with
  | some c => exact h.cursor c q₀ hcursor (h.first_eq hcursor hfirst)
  | none =>
    cases hledger : (db.checkpoint.map CheckpointRow.lastLedger).filter (· ≠ 0) with
    | none =>
      rw [hq₀, Chain.between_self]
      exact List.nil_subset _
    | some lastLedger =>
      -- The ledger after the recorded one: what lies before it is vouched for.
      obtain ⟨hmap, -⟩ := Option.filter_eq_some_iff.mp hledger
      obtain ⟨cp, hcp, rfl⟩ := Option.map_eq_some_iff.mp hmap
      intro raw hraw
      obtain ⟨k, hik, hkj, hk⟩ := Chain.mem_between.mp hraw
      rw [hq₀] at hik
      rw [hcp] at hcursor
      refine h.ledger cp hcp hcursor k raw hik hk ?_
      have hlt := JsNumber.lt_natCast_iff.mp (Chain.ledger_lt_of_lt_indexOf hkj hk)
      omega

/-- A step that leaves no cursor has seen everything up to the tip it records. -/
private theorem Chain.LeavesNothing.complete {chain : Chain} (env : WorkerEnv)
    {cp : Option CheckpointRow} {q : EventsCursor} {page : GetEventsResponse}
    (h : chain.LeavesNothing ⟨cp, some q, some page⟩)
    (hcursor : storedCursor (some ((workerLoop env).record cp page)) = none) :
    chain.CompleteThrough q page page.latestLedger := by
  rcases h q page rfl rfl with ⟨c, hc, hne⟩ | ⟨hnone, hkept⟩ | hcomplete
  · have hrecord := (workerLoop_followsCursors env).records cp page c hc
    rw [storedCursor_some hrecord hne] at hcursor
    cases hcursor
  · refine absurd ?_ hkept
    have hcursor' : (page.cursor.or (cp.bind CheckpointRow.lastCursor)).filter (· ≠ "") = none :=
      hcursor
    rwa [hnone, Option.none_or] at hcursor'
  · exact hcomplete

/-- Runs of the Worker whose steps all resume safely skip nothing. -/
theorem WorkerInv.of_run {chain : Chain} {env : WorkerEnv} {limit : ℕ} {log : List StepLog}
    {db : Db} (h : (workerLoop env).Run (fun q => chain.Serves q limit) log db)
    (hsafe : ∀ step ∈ log, chain.LeavesNothing step) :
    WorkerInv chain env log db ∧ chain.NothingSkipped log := by
  induction h with
  | nil =>
    refine ⟨⟨cursorInv_nil chain, by simp, ?_⟩, by simp [Chain.NothingSkipped]⟩
    rintro cp ⟨⟩
  | @snoc log db db' step _ last ih =>
    obtain ⟨hinv, hskip⟩ := ih fun step' hstep' => hsafe step' (List.mem_append_left _ hstep')
    have hlast : chain.LeavesNothing step := hsafe step (by simp)
    cases last with
    | failed hasked =>
      refine ⟨⟨hinv.toCursorInv.failed _ _, hinv.first_concat hasked, ?_⟩, hskip.concat ?_⟩
      · rw [storedEvents_failed]
        exact hinv.ledger
      · intro q page q₀ _ hpage
        cases hpage
    | @stored q page hasked hserved _ =>
      have hasked' : ∀ q', some q = some q' → (workerLoop env).Requests db.checkpoint q' := by
        rintro _ ⟨⟩
        exact hasked
      have hq : q = ingestionCursor env db.checkpoint := hasked
      have hstep : ∀ q₀, firstRequest (log ++ [⟨db.checkpoint, some q, some page⟩]) = some q₀ →
          chain.between (chain.indexOf q₀) (chain.indexOf q) ⊆ storedEvents log := by
        intro q₀ hfirst
        rw [hq]
        exact hinv.skips_nothing hasked' hfirst
      refine ⟨⟨hinv.toCursorInv.stored (workerLoop_keepsCursors env) hserved hstep,
        hinv.first_concat hasked', ?_⟩, hskip.concat ?_⟩
      · -- No cursor is left, so the page is complete up to the tip that is recorded.
        rintro cp ⟨⟩ hcursor k raw hik hk hle
        have hcomplete := Chain.LeavesNothing.complete env hlast hcursor
        have hle : raw.ledger ≤ page.latestLedger := hle
        have hbefore : k < chain.after q page := by
          by_contra hge
          exact absurd (hcomplete k raw (by omega) hk) (not_lt.mpr hle)
        obtain ⟨q₀, hfirst⟩ : ∃ q₀,
            firstRequest (log ++ [⟨db.checkpoint, some q, some page⟩]) = some q₀ := by
          rw [firstRequest_concat]
          cases firstRequest log with
          | none => exact ⟨q, rfl⟩
          | some q₁ => exact ⟨q₁, rfl⟩
        have hq₀ := hinv.first_concat hasked' q₀ hfirst
        refine hserved.between_after_subset (hstep q₀ hfirst) ?_
        rw [hq₀]
        exact Chain.mem_between.mpr ⟨k, hik, hbefore, hk⟩
      · rintro _ _ q₀ ⟨⟩ _ hfirst
        exact hstep q₀ hfirst

/-- **Resuming skips nothing**, in runs whose steps all resume safely. -/
theorem resuming_skips_nothing (chain : Chain) :
    (∀ (env : WorkerEnv) log db,
      Session (Answers chain.Serves) (runIngestionStep env) Db.empty log db →
        (∀ step ∈ sessionLog log, chain.LeavesNothing step) →
          chain.NothingSkipped (sessionLog log)) ∧
    ∀ (config : PollerConfig) log db,
      Session (Answers chain.Serves) (runOnce config) Db.empty log db →
        (∀ before step after, sessionLog log = before ++ step :: after →
          config.Resumes before step) →
          chain.NothingSkipped (sessionLog log) := by
  refine ⟨fun env log db h hsafe => ?_, fun config log db h hresumes => ?_⟩
  · exact (WorkerInv.of_run (run_of_session_worker h) hsafe).2
  · exact (PollerInv.of_run (run_of_session_poller h) hresumes).2

/-! ### A poller that restarts at the tip -/

/-- A page without events and without a cursor. -/
private def barePage (latestLedger : ℕ) : GetEventsResponse := ⟨[], latestLedger, none⟩

private theorem serves_barePage (chain : Chain) (q : EventsCursor) (limit latestLedger : ℕ) :
    chain.Serves q limit (barePage latestLedger) where
  events := List.nil_prefix
  limit := Nat.zero_le _
  tip := by simp [barePage]
  cursor := by simp [barePage]

/-- A poller without `START_LEDGER` finds nothing at ledger 99 and is given no cursor. It asks again
at ledger 101, and the registration in ledger 100 is lost. -/
theorem resuming_skips :
    ¬ ∀ (chain : Chain) (config : PollerConfig) log db,
      Session (Answers chain.Serves) (runOnce config) Db.empty log db →
        chain.NothingSkipped (sessionLog log) := by
  intro hall
  have hserved := serves_barePage registrationChain
  have hfirst : Exec (Answers registrationChain.Serves) (runOnce tipConfig) Db.empty
      [⟨.getCheckpoint, .ok none⟩, ⟨.getLatestLedger, .ok (99 : ℕ)⟩,
        ⟨.getEvents ["registry", "vault"] (.ledger (99 : ℕ)) 1000, .ok (barePage 99)⟩,
        ⟨.applyBatch ⟨emptyBatch, 99, none⟩, .ok ()⟩]
      (.ok false) (Db.empty.applyBatch ⟨emptyBatch, 99, none⟩) :=
    .call .getCheckpoint (.call .getLatestLedger
      (.call (.getEvents (hserved _ _ _)) (.call .applyBatch .done)))
  have hsecond : Exec (Answers registrationChain.Serves) (runOnce tipConfig)
      (Db.empty.applyBatch ⟨emptyBatch, 99, none⟩)
      [⟨.getCheckpoint, .ok (some ⟨99, none⟩)⟩, ⟨.getLatestLedger, .ok (101 : ℕ)⟩,
        ⟨.getEvents ["registry", "vault"] (.ledger (101 : ℕ)) 1000, .ok (barePage 101)⟩,
        ⟨.applyBatch ⟨emptyBatch, 101, none⟩, .ok ()⟩]
      (.ok false) ((Db.empty.applyBatch ⟨emptyBatch, 99, none⟩).applyBatch
        ⟨emptyBatch, 101, none⟩) :=
    .call .getCheckpoint (.call .getLatestLedger
      (.call (.getEvents (hserved _ _ _)) (.call .applyBatch .done)))
  have hskip := hall _ _ _ _ (Session.snoc (.snoc .nil hfirst) hsecond)
    [⟨none, some (.ledger (99 : ℕ)), some (barePage 99)⟩]
    ⟨some ⟨99, none⟩, some (.ledger (101 : ℕ)), some (barePage 101)⟩ []
    (.ledger (101 : ℕ)) (barePage 101) (.ledger (99 : ℕ)) rfl rfl rfl rfl
  have hfrom : registrationChain.indexOf (.ledger (99 : ℕ)) = 0 := by decide +kernel
  have hto : registrationChain.indexOf (.ledger (101 : ℕ)) = 1 := by decide +kernel
  rw [hfrom, hto] at hskip
  exact absurd (hskip (List.mem_cons_self)) (List.not_mem_nil)

/-- A poller that starts at ledger 100 whenever it has no cursor. -/
def startConfig : PollerConfig := ⟨"registry", "vault", 1000, some 100⟩

/-- A poller with `START_LEDGER` set that is never given a cursor stores the same page twice, and
skips nothing. -/
theorem resuming_skips_nothing_restarted :
    registrationChain.NothingSkipped
      [⟨none, some (.ledger (100 : ℕ)), some (registrationPage none)⟩,
        ⟨some ⟨100, none⟩, some (.ledger (100 : ℕ)), some (registrationPage none)⟩] := by
  have hfirst : Exec (Answers registrationChain.Serves) (runOnce startConfig) Db.empty
      [⟨.getCheckpoint, .ok none⟩, ⟨.getLatestLedger, .ok (100 : ℕ)⟩,
        ⟨.getEvents ["registry", "vault"] (.ledger (100 : ℕ)) 1000, .ok (registrationPage none)⟩,
        ⟨.applyBatch (storedBatch (registrationPage none) ⟨100, none⟩), .ok ()⟩]
      (.ok false) (Db.empty.applyBatch (storedBatch (registrationPage none) ⟨100, none⟩)) :=
    .call .getCheckpoint (.call .getLatestLedger
      (.call (.getEvents (serves_registrationPage none)) (.call .applyBatch .done)))
  have hsecond : Exec (Answers registrationChain.Serves) (runOnce startConfig)
      (Db.empty.applyBatch (storedBatch (registrationPage none) ⟨100, none⟩))
      [⟨.getCheckpoint, .ok (some ⟨100, none⟩)⟩, ⟨.getLatestLedger, .ok (100 : ℕ)⟩,
        ⟨.getEvents ["registry", "vault"] (.ledger (100 : ℕ)) 1000, .ok (registrationPage none)⟩,
        ⟨.applyBatch (storedBatch (registrationPage none) ⟨100, none⟩), .ok ()⟩]
      (.ok false)
      ((Db.empty.applyBatch (storedBatch (registrationPage none) ⟨100, none⟩)).applyBatch
        (storedBatch (registrationPage none) ⟨100, none⟩)) :=
    .call .getCheckpoint (.call .getLatestLedger
      (.call (.getEvents (serves_registrationPage none)) (.call .applyBatch .done)))
  refine (resuming_skips_nothing registrationChain).2 startConfig _ _
    (Session.snoc (.snoc .nil hfirst) hsecond) ?_
  intro before step after _ _
  exact .inl (by simp [startConfig])

end Indexer

end SlaSettle
