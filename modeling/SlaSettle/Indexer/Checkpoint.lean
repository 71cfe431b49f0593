import SlaSettle.Indexer.Resume

/-!
# The recorded ledger

`last_ledger` of the checkpoint, which `/v1/health` reports as `last_indexed_ledger`. The Worker
records the tip as the response gives it, whether or not the page reached it; the poller records the
ledger of the last event of a page, whether or not the page ended with that ledger.

`checkpoint_ledger_stored` is the condition on the pages under which the recorded ledger is never
ahead of what has been stored (`Chain.StoredThroughCheckpoint`). `checkpoint_ledger_ahead` is a page
cut inside a ledger.
-/

namespace SlaSettle

namespace Indexer

open Js Effect Program

/-- **The checkpoint ledger is not ahead of what is stored**: every event from the first position
asked for, in a ledger up to the recorded one, has been stored. -/
def Chain.StoredThroughCheckpoint (chain : Chain) (log : List StepLog) (db : Db) : Prop :=
  ∀ cp q₀, db.checkpoint = some cp → firstRequest log = some q₀ →
    ∀ k raw, chain.indexOf q₀ ≤ k → chain.events[k]? = some raw → raw.ledger ≤ cp.lastLedger →
      raw ∈ storedEvents log

/-- A step that stores a page leaves no event for later in a ledger up to the one it records. -/
def Chain.LeavesNoneBehind (chain : Chain) (ledger : GetEventsResponse → ℕ) (step : StepLog) :
    Prop :=
  ∀ q page, step.request = some q → step.page = some page →
    chain.CompleteThrough q page (ledger page)

/-- The checkpoint of a run was recorded by the last step that stored a page. -/
theorem IngestionLoop.Run.last_stored {loop : IngestionLoop}
    {rpc : EventsCursor → GetEventsResponse → Prop} {log : List StepLog} {db : Db}
    {cp : CheckpointRow} (h : loop.Run rpc log db) (hcp : db.checkpoint = some cp) :
    ∃ before read q page after, log = before ++ ⟨read, some q, some page⟩ :: after ∧
      cp = loop.record read page ∧ rpc q page ∧
      storedEvents log = storedEvents before ++ page.events := by
  induction h with
  | nil => cases hcp
  | @snoc log _ _ step _ last ih =>
    cases last with
    | @failed read request _ =>
      obtain ⟨before, read', q, page, after, rfl, hrecord, hserved, hstored⟩ := ih hcp
      refine ⟨before, read', q, page, after ++ [⟨read, request, none⟩], by simp, hrecord, hserved,
        ?_⟩
      rw [storedEvents_failed, hstored]
    | @stored q page _ hserved _ =>
      refine ⟨log, _, q, page, [], rfl, ?_, hserved, storedEvents_stored _ _ _ _⟩
      exact (Option.some.inj hcp).symm

/-- Where nothing was skipped and the last page left none behind, the recorded ledger is not
ahead. -/
theorem IngestionLoop.Run.storedThrough {chain : Chain} {loop : IngestionLoop} {limit : ℕ}
    {log : List StepLog} {db : Db} {ledger : GetEventsResponse → ℕ}
    (hrecord : ∀ cp page, (loop.record cp page).lastLedger = ledger page)
    (h : loop.Run (fun q => chain.Serves q limit) log db) (hskip : chain.NothingSkipped log)
    (hcomplete : ∀ step ∈ log, chain.LeavesNoneBehind ledger step) :
    chain.StoredThroughCheckpoint log db := by
  intro cp q₀ hcp hfirst k raw hik hk hle
  obtain ⟨before, read, q, page, after, rfl, rfl, hserved, hstored⟩ := h.last_stored hcp
  have hbehind := hcomplete ⟨read, some q, some page⟩ (by simp) q page rfl rfl
  rw [hrecord] at hle
  have hbefore : k < chain.after q page := by
    by_contra hge
    exact absurd (hbehind k raw (by omega) hk) (not_lt.mpr hle)
  have hreached := hskip before ⟨read, some q, some page⟩ after q page q₀ rfl rfl rfl hfirst
  have hmem : raw ∈ storedEvents (before ++ [⟨read, some q, some page⟩]) :=
    hserved.between_after_subset hreached (Chain.mem_between.mpr ⟨k, hik, hbefore, hk⟩)
  rwa [storedEvents_stored, ← hstored] at hmem

theorem Chain.LeavesNoneBehind.leavesNothing {chain : Chain} {step : StepLog}
    (h : chain.LeavesNoneBehind GetEventsResponse.latestLedger step) : chain.LeavesNothing step :=
  fun q page hq hpage => .inr (.inr (h q page hq hpage))

/-- **The recorded ledger is not ahead**, in runs whose pages leave no event behind in a ledger up
to the one recorded with them; and what is stored has its rows. -/
theorem checkpoint_ledger_stored (chain : Chain) :
    (∀ (env : WorkerEnv) log db,
      Session (Answers chain.Serves) (runIngestionStep env) Db.empty log db →
        (∀ step ∈ sessionLog log,
          chain.LeavesNoneBehind GetEventsResponse.latestLedger step) →
          chain.StoredThroughCheckpoint (sessionLog log) db ∧
            db.Covers (history (storedEvents (sessionLog log)))) ∧
    ∀ (config : PollerConfig) log db,
      Session (Answers chain.Serves) (runOnce config) Db.empty log db →
        (∀ step ∈ sessionLog log,
          chain.LeavesNoneBehind GetEventsResponse.pollerLedger step) →
        (∀ before step after, sessionLog log = before ++ step :: after →
          config.Resumes before step) →
          chain.StoredThroughCheckpoint (sessionLog log) db ∧
            db.Covers (history (storedEvents (sessionLog log))) := by
  refine ⟨fun env log db h hbehind => ?_, fun config log db h hbehind hresumes => ?_⟩
  · have hrun := run_of_session_worker h
    have hskip := (WorkerInv.of_run hrun fun step hstep => (hbehind step hstep).leavesNothing).2
    refine ⟨hrun.storedThrough (fun _ _ => rfl) hskip hbehind, ?_⟩
    exact (hrun.covers fun _ _ hserved => hserved).2
  · have hrun := run_of_session_poller h
    have hskip := (PollerInv.of_run hrun hresumes).2
    refine ⟨hrun.storedThrough (fun _ _ => rfl) hskip hbehind, ?_⟩
    exact (hrun.covers fun _ _ hserved => hserved).2

/-! ### A page cut inside a ledger -/

/-- Two registrations in one ledger. -/
def twinChain : Chain :=
  .ofEmitted [(⟨"a", 100, "t0", "x", "registry"⟩, .watcher .registered "V"),
      (⟨"b", 100, "t0", "y", "registry"⟩, .watcher .registered "W")]
    (fun c => if c = "a" then 1 else 2) (by decide) (by decide) (by decide)

/-- A poller that asks for one event at a time. -/
def singleConfig : PollerConfig := ⟨"registry", "vault", 1, some 100⟩

/-- The first of the two registrations. -/
private def cutPage : GetEventsResponse := ⟨twinChain.events.take 1, 100, some "a"⟩

private theorem serves_cutPage : twinChain.Serves (.ledger (100 : ℕ)) 1 cutPage := by
  have hindex : twinChain.indexOf (.ledger (100 : ℕ)) = 0 := by decide +kernel
  refine ⟨?_, by decide, ?_, ?_⟩
  · rw [hindex]
    exact List.take_prefix _ _
  · intro e he
    rw [List.mem_singleton.mp he]
    exact le_rfl
  · rintro c ⟨⟩ _
    rw [hindex]
    rfl

/-- The poller records ledger 100 with the first registration in it, and the second is missing. -/
theorem checkpoint_ledger_ahead :
    ¬ ∀ (chain : Chain) (config : PollerConfig) log db,
      Session (Answers chain.Serves) (runOnce config) Db.empty log db →
        chain.StoredThroughCheckpoint (sessionLog log) db := by
  intro hall
  have hstep : Exec (Answers twinChain.Serves) (runOnce singleConfig) Db.empty
      [⟨.getCheckpoint, .ok none⟩, ⟨.getLatestLedger, .ok (100 : ℕ)⟩,
        ⟨.getEvents ["registry", "vault"] (.ledger (100 : ℕ)) 1, .ok cutPage⟩,
        ⟨.applyBatch (storedBatch cutPage ⟨100, some "a"⟩), .ok ()⟩]
      (.ok true) (Db.empty.applyBatch (storedBatch cutPage ⟨100, some "a"⟩)) :=
    .call .getCheckpoint (.call .getLatestLedger
      (.call (.getEvents serves_cutPage) (.call .applyBatch .done)))
  have hindex : twinChain.indexOf (.ledger (100 : ℕ)) = 0 := by decide +kernel
  obtain ⟨raw, hraw, hledger, hid⟩ : ∃ raw, twinChain.events[1]? = some raw ∧ raw.ledger = 100 ∧
      raw.id = "b" := ⟨_, rfl, rfl, rfl⟩
  have hstored := hall _ _ _ _ (Session.snoc .nil hstep) ⟨100, some "a"⟩ (.ledger (100 : ℕ)) rfl rfl
    1 raw (by rw [hindex]; omega) hraw (by rw [hledger])
  have heq : raw = twinChain.events.head (by decide) := List.mem_singleton.mp hstored
  rw [heq] at hid
  exact absurd hid (by decide)

/-- A page that holds all of its ledger records that ledger with everything in it stored. -/
theorem checkpoint_ledger_stored_registration :
    ∃ db, registrationChain.StoredThroughCheckpoint
        [⟨none, some (.ledger (100 : ℕ)), some (registrationPage (some "c"))⟩] db ∧
      db.checkpoint = some ⟨100, some "c"⟩ := by
  have hstep : Exec (Answers registrationChain.Serves) (runOnce startConfig) Db.empty
      [⟨.getCheckpoint, .ok none⟩, ⟨.getLatestLedger, .ok (100 : ℕ)⟩,
        ⟨.getEvents ["registry", "vault"] (.ledger (100 : ℕ)) 1000,
          .ok (registrationPage (some "c"))⟩,
        ⟨.applyBatch (storedBatch (registrationPage (some "c")) ⟨100, some "c"⟩), .ok ()⟩]
      (.ok false)
      (Db.empty.applyBatch (storedBatch (registrationPage (some "c")) ⟨100, some "c"⟩)) :=
    .call .getCheckpoint (.call .getLatestLedger
      (.call (.getEvents (serves_registrationPage (some "c"))) (.call .applyBatch .done)))
  refine ⟨_, ((checkpoint_ledger_stored registrationChain).2 startConfig _ _
    (Session.snoc .nil hstep) ?_ ?_).1, rfl⟩
  · intro step hstep q page hq hpage k raw hk hraw
    obtain rfl := List.mem_singleton.mp hstep
    cases hq
    cases hpage
    have hlast : registrationChain.events.length ≤ k :=
      (Nat.le_add_left _ _).trans hk
    rw [List.getElem?_eq_none hlast] at hraw
    cases hraw
  · intro before step after _ _
    exact .inl (by simp [startConfig])

end Indexer

end SlaSettle
