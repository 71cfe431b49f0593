import SlaSettle.Indexer.Exactness

/-!
# Overlapping ingestion steps

Nothing keeps two scheduled steps of the Worker apart: a step may read the checkpoint, wait for the
network while others come and go, and then write its page and its checkpoint over theirs. The pool
of `Interleaving.lean`, run on `runIngestionStep`, is any number of steps in any order of their
calls, any of which may fail.

The rows of checks, settlements, SLAs and lifecycle events survive this: they are keyed by event,
and whatever lies before the stored cursor, or before a cursor some step has read, has its row
(`overlapping_loses_nothing`). The watcher set does not: a late step can put an old registration
over a newer removal, and a step that had read the newer cursor then moves past it
(`overlapping_watchers_wrong`). `overlapping_watchers` is the condition that rules this out.
-/

namespace SlaSettle

namespace Indexer

open Js Effect Program

/-- Where the history to be ingested begins. -/
def Chain.start (chain : Chain) (env : WorkerEnv) : ℕ := chain.indexOf (.ledger env.initialLedger)

/-- The position a checkpoint stands for. -/
def Chain.reached (chain : Chain) (env : WorkerEnv) (cp : Option CheckpointRow) : ℕ :=
  chain.indexOf (ingestionCursor env cp)

@[simp]
theorem Chain.reached_none (chain : Chain) (env : WorkerEnv) :
    chain.reached env none = chain.start env := rfl

theorem Chain.reached_of_cursor {chain : Chain} {env : WorkerEnv} {cp : Option CheckpointRow}
    {c : String} (hc : storedCursor cp = some c) : chain.reached env cp = chain.position c := by
  rw [reached, ingestionCursor, hc, indexOf]

section Pool

variable {chain : Chain} {env : WorkerEnv}

/-- Storing a page with a cursor reaches the position after it. -/
theorem Chain.reached_record {cp : Option CheckpointRow} {limit : ℕ} {page : GetEventsResponse}
    (h : chain.ServesWithCursor (ingestionCursor env cp) limit page) :
    storedCursor (some ((workerLoop env).record cp page)) ≠ none ∧
      chain.reached env (some ((workerLoop env).record cp page)) =
        chain.after (ingestionCursor env cp) page := by
  obtain ⟨hserved, c, hc, hne⟩ := h
  have hrecord := (workerLoop_followsCursors env).records cp page c hc
  have hstored := storedCursor_some hrecord hne
  refine ⟨by rw [hstored]; exact Option.some_ne_none c, ?_⟩
  rw [Chain.reached_of_cursor hstored]
  exact hserved.cursor c hc hne

/-! ### Steps in flight -/

/-- What holds of a step in flight: the checkpoint it has read satisfies `R`, and the page it has
received is one of the chain. -/
structure StepLoc (chain : Chain) (R : Option CheckpointRow → Prop)
    (tr : List (Event ingestInterface)) : Prop where
  read : ∀ cp, ⟨.getCheckpoint, .ok cp⟩ ∈ tr → R cp
  page : ∀ ids q limit page, ⟨.getEvents ids q limit, .ok page⟩ ∈ tr →
    chain.ServesWithCursor q limit page

theorem StepLoc.nil {R : Option CheckpointRow → Prop} : StepLoc chain R [] := ⟨nofun, nofun⟩

theorem StepLoc.mono {R R' : Option CheckpointRow → Prop} {tr : List (Event ingestInterface)}
    (h : StepLoc chain R tr) (hR : ∀ cp, R cp → R' cp) : StepLoc chain R' tr :=
  ⟨fun cp hcp => hR cp (h.read cp hcp), h.page⟩

theorem StepLoc.concat {R : Option CheckpointRow → Prop} {tr : List (Event ingestInterface)}
    {e : Event ingestInterface} (h : StepLoc chain R tr)
    (hread : ∀ cp, e = ⟨.getCheckpoint, .ok cp⟩ → R cp)
    (hpage : ∀ ids q limit page, e = ⟨.getEvents ids q limit, .ok page⟩ →
      chain.ServesWithCursor q limit page) :
    StepLoc chain R (tr ++ [e]) where
  read cp hmem := by
    obtain hmem | hmem := List.mem_append.mp hmem
    · exact h.read cp hmem
    · exact hread cp (List.mem_singleton.mp hmem).symm
  page ids q limit page hmem := by
    obtain hmem | hmem := List.mem_append.mp hmem
    · exact h.page ids q limit page hmem
    · exact hpage ids q limit page (List.mem_singleton.mp hmem).symm

theorem StepLoc.throws {R : Option CheckpointRow → Prop} {tr : List (Event ingestInterface)}
    (h : StepLoc chain R tr) (c : IngestCall) (e : Thrown) :
    StepLoc chain R (tr ++ [⟨c, .error e⟩]) := by
  refine h.concat ?_ ?_
  · rintro cp ⟨⟩
  · rintro ids q limit page ⟨⟩

/-- **Overlapping steps.** Let `I` speak about the database and `R` about a checkpoint that was
read. If `I` vouches for the stored checkpoint, writing keeps `R`, and writing a page of the chain
behind a checkpoint with `R` keeps `I`, then `I` holds in every pool. -/
theorem invariant_of_reachable
    {world : List (Event ingestInterface) → Db → (c : IngestCall) → Except Thrown c.Returns → Db →
      Prop}
    (hworld : ∀ tr db c r db', world tr db c r db' → Answers chain.ServesWithCursor db c r db')
    {I : Db → Prop} {R : Db → Option CheckpointRow → Prop} (hempty : I Db.empty)
    (hread : ∀ db, I db → R db db.checkpoint)
    (hkeep : ∀ db cp params, R db cp → R (db.applyBatch params) cp)
    (hwrite : ∀ tr db cp page params,
      world tr db (.applyBatch params) (.ok ()) (db.applyBatch params) →
      ⟨.getCheckpoint, .ok cp⟩ ∈ tr → I db → R db cp →
      chain.ServesWithCursor (ingestionCursor env cp) defaultLimit page →
      params = storedBatch page ((workerLoop env).record cp page) → I (db.applyBatch params))
    {pool : Pool Db ingestInterface (Except Thrown IngestionResult)}
    (h : Pool.Reachable world (runIngestionStep env) Db.empty pool) : I pool.world := by
  refine (h.invariant I (fun db => StepLoc chain (R db)) hempty (fun _ _ => .nil) ?_ ?_).1
  · intro tr c next db r db' hres hinv hloc here
    have hanswer := hworld tr db c r db' here
    rcases residual_runIngestionStep hres with ⟨rfl, rfl⟩ | ⟨cp, rfl, rfl⟩ | ⟨cp, page, rfl, -, rfl⟩
    · -- the checkpoint is read
      cases hanswer with
      | throws => exact ⟨hinv, hloc.throws _ _⟩
      | getCheckpoint =>
        refine ⟨hinv, hloc.concat ?_ (by simp)⟩
        rintro cp ⟨⟩
        exact hread db hinv
    · -- the page arrives
      cases hanswer with
      | throws => exact ⟨hinv, hloc.throws _ _⟩
      | getEvents served =>
        refine ⟨hinv, hloc.concat (by simp) ?_⟩
        rintro _ _ _ _ ⟨⟩
        exact served
    · -- the page is written behind the checkpoint that was read
      cases hanswer with
      | throws => exact ⟨hinv, hloc.throws _ _⟩
      | applyBatch =>
        have hcp := hloc.read cp (by simp)
        have hpage := hloc.page env.contractIds (ingestionCursor env cp) defaultLimit page (by simp)
        refine ⟨hwrite _ db cp page _ here (by simp) hinv hcp hpage rfl, ?_⟩
        exact (hloc.mono fun cp => hkeep db cp _).concat (by simp) (by simp)
  · intro tr c next db r db' _ _ _ here tr' hloc'
    cases hworld tr db c r db' here with
    | applyBatch => exact hloc'.mono fun cp => hkeep db cp _
    | _ => exact hloc'

/-! ### Rows -/

/-- What lies before the position of a checkpoint has its rows. -/
def RowsBefore (chain : Chain) (env : WorkerEnv) (db : Db) (cp : Option CheckpointRow) : Prop :=
  db.Covers (history (chain.between (chain.start env) (chain.reached env cp)))

/-- What holds of the database: its rows come from the chain, and the stored cursor is vouched
for. -/
structure RowsInv (chain : Chain) (env : WorkerEnv) (db : Db) : Prop where
  within : db.Within (history chain.events)
  rows : RowsBefore chain env db db.checkpoint

theorem rowsBefore_none (chain : Chain) (env : WorkerEnv) (db : Db) :
    RowsBefore chain env db none := by
  rw [RowsBefore, Chain.reached_none, Chain.between_self, history_nil]
  exact db.covers_nil

theorem RowsBefore.applyBatch {db : Db} {cp : Option CheckpointRow} (h : RowsBefore chain env db cp)
    (params : BatchParams) : RowsBefore chain env (db.applyBatch params) cp :=
  Db.Covers.of_applyBatch h params

/-- A page stored behind a checkpoint that is vouched for leaves the database as it should be, and
its new checkpoint vouched for. -/
theorem RowsInv.applyPage {db : Db} {cp : Option CheckpointRow} {limit : ℕ}
    {page : GetEventsResponse} (h : RowsInv chain env db) (hread : RowsBefore chain env db cp)
    (hpage : chain.ServesWithCursor (ingestionCursor env cp) limit page) :
    RowsInv chain env (db.applyBatch (storedBatch page ((workerLoop env).record cp page))) where
  within := h.within.applyBatch (List.filterMap_subset _ hpage.1.subset) _ _
  rows := by
    have hnew : (db.applyBatch (storedBatch page ((workerLoop env).record cp page))).Covers
        (history page.events) :=
      h.within.covers_applyBatch chain.distinctKeys (List.filterMap_subset _ hpage.1.subset) _ _
    have hold := hread.applyBatch (storedBatch page ((workerLoop env).record cp page))
    change RowsBefore chain env _ (some ((workerLoop env).record cp page))
    rw [RowsBefore, (Chain.reached_record hpage).2]
    refine (Db.Covers.append hold hnew).of_subset ?_
    rw [hpage.1.events_eq, ← history_append]
    exact List.filterMap_subset _ (Chain.between_subset _ _ _)

/-- **Rows survive any interleaving.** In every pool of overlapping steps, the rows come from the
chain, and whatever lies before the stored cursor has its row. -/
theorem RowsInv.of_reachable {pool : Pool Db ingestInterface (Except Thrown IngestionResult)}
    (h : Pool.Reachable (fun _ => Answers chain.ServesWithCursor) (runIngestionStep env) Db.empty
      pool) : RowsInv chain env pool.world := by
  refine invariant_of_reachable (R := RowsBefore chain env) (fun _ _ _ _ _ here => here)
    ?_ ?_ ?_ ?_ h
  · exact ⟨Db.within_empty _, rowsBefore_none chain env Db.empty⟩
  · exact fun _ hinv => hinv.rows
  · exact fun _ _ params hcp => hcp.applyBatch params
  · rintro tr db cp page _ - - hinv hcp hpage rfl
    exact hinv.applyPage hcp hpage

/-- The watcher events of a stretch of the chain. -/
def watcherHistory (raws : List RawEvent) : List WatcherEvent :=
  (history raws).filterMap ContractEvent.watcher?

theorem watcherHistory_append (raws raws' : List RawEvent) :
    watcherHistory (raws ++ raws') = watcherHistory raws ++ watcherHistory raws' := by
  rw [watcherHistory, history_append, List.filterMap_append]
  rfl

/-- The last event about an address over a stretch of the chain, `none` if there is none. -/
def lastIn (a : String) (raws : List RawEvent) : Option Bool :=
  Db.lastWatcherEvent a (watcherHistory raws)

theorem lastIn_append (a : String) (raws raws' : List RawEvent) :
    lastIn a (raws ++ raws') = (lastIn a raws').or (lastIn a raws) := by
  rw [lastIn, watcherHistory_append, Db.lastWatcherEvent_append]
  rfl

theorem lastIn_of_no_watcher_event {raws : List RawEvent} (h : watcherHistory raws = [])
    (a : String) : lastIn a raws = none := by
  rw [lastIn, h]
  rfl

/-- No watcher event lies between the stored cursor and the later one that the step with trace `tr`
has read. -/
def Chain.InOrder (chain : Chain) (env : WorkerEnv) (db : Db) (tr : List (Event ingestInterface)) :
    Prop :=
  ∀ cp, ⟨.getCheckpoint, .ok cp⟩ ∈ tr →
    watcherHistory
      (chain.between (chain.reached env db.checkpoint) (chain.reached env cp)) = []

/-- The world in which every batch is written in order. -/
def Chain.AnswersInOrder (chain : Chain) (env : WorkerEnv) (tr : List (Event ingestInterface))
    (db : Db) (c : IngestCall) (r : Except Thrown c.Returns) (db' : Db) : Prop :=
  Answers chain.ServesWithCursor db c r db' ∧
    ∀ params, c = .applyBatch params → chain.InOrder env db tr

/-- What holds of the database: an address with no event left to come is eligible as its last event
before the stored cursor says. -/
structure WatcherInv (chain : Chain) (env : WorkerEnv) (db : Db) : Prop where
  start : chain.start env ≤ chain.reached env db.checkpoint
  settled : ∀ a, lastIn a (chain.events.drop (chain.reached env db.checkpoint)) = none →
    Db.eligible db.watchers a =
      (lastIn a (chain.between (chain.start env) (chain.reached env db.checkpoint))).getD false

/-- A step that writes behind, or just ahead of, the stored cursor moves no address's last event out
of sight: with no event from `c` on, the two positions agree about it. -/
private theorem lastIn_between_eq {i s c : ℕ} (his : i ≤ s) (hic : i ≤ c)
    (horder : watcherHistory (chain.between s c) = []) {a : String}
    (hnone : lastIn a (chain.events.drop c) = none) :
    lastIn a (chain.events.drop s) = none ∧
      lastIn a (chain.between i s) = lastIn a (chain.between i c) := by
  rcases le_or_gt c s with hcs | hsc
  · -- Behind: what lies between `c` and `s` is part of what has no event.
    rw [Chain.drop_eq_between_append hcs, lastIn_append, Option.or_eq_none_iff] at hnone
    refine ⟨hnone.1, ?_⟩
    rw [← Chain.between_append hic hcs, lastIn_append, hnone.2, Option.none_or]
  · -- Ahead: what lies between `s` and `c` has no watcher event at all.
    have hgap := lastIn_of_no_watcher_event horder a
    refine ⟨?_, ?_⟩
    · rw [Chain.drop_eq_between_append hsc.le, lastIn_append, hnone, hgap, Option.none_or]
    · rw [← Chain.between_append his hsc.le, lastIn_append, hgap, Option.none_or]

/-- A page written in order keeps the watcher set as it should be. -/
theorem WatcherInv.applyPage {db : Db} {cp : Option CheckpointRow} {limit : ℕ}
    {page : GetEventsResponse} (h : WatcherInv chain env db)
    (hread : chain.start env ≤ chain.reached env cp)
    (hpage : chain.ServesWithCursor (ingestionCursor env cp) limit page)
    (horder : watcherHistory
      (chain.between (chain.reached env db.checkpoint) (chain.reached env cp)) = []) :
    WatcherInv chain env
      (db.applyBatch (storedBatch page ((workerLoop env).record cp page))) := by
  have hreached : chain.reached env (some ((workerLoop env).record cp page)) =
      chain.after (ingestionCursor env cp) page := (Chain.reached_record hpage).2
  have hafter : chain.reached env cp ≤ chain.after (ingestionCursor env cp) page :=
    Nat.le_add_right _ _
  have hevents : chain.between (chain.reached env cp) (chain.after (ingestionCursor env cp) page) =
      page.events := hpage.1.events_eq.symm
  refine ⟨?_, ?_⟩
  · change chain.start env ≤ chain.reached env (some ((workerLoop env).record cp page))
    omega
  · intro a hnone
    change lastIn a (chain.events.drop
      (chain.reached env (some ((workerLoop env).record cp page)))) = none at hnone
    change Db.eligible ((watcherHistory page.events).foldl Db.applyWatcherEvent db.watchers) a =
      (lastIn a (chain.between (chain.start env)
        (chain.reached env (some ((workerLoop env).record cp page))))).getD false
    rw [hreached] at hnone ⊢
    rw [Db.eligible_foldl_applyWatcherEvent, ← Chain.between_append hread hafter, hevents,
      lastIn_append]
    change (lastIn a page.events).getD _ = _
    cases hlast : lastIn a page.events with
    | some b => rfl
    | none =>
      have hrest : lastIn a (chain.events.drop (chain.reached env cp)) = none := by
        rw [Chain.drop_eq_between_append hafter, hevents, lastIn_append, hnone, hlast]
        rfl
      obtain ⟨hsettled, hsame⟩ := lastIn_between_eq h.start hread horder hrest
      rw [Option.getD_none, Option.none_or, h.settled a hsettled, hsame]

/-- The watcher set in every pool whose batches are written in order. -/
theorem WatcherInv.of_reachable {pool : Pool Db ingestInterface (Except Thrown IngestionResult)}
    (h : Pool.Reachable (chain.AnswersInOrder env) (runIngestionStep env) Db.empty pool) :
    WatcherInv chain env pool.world := by
  refine invariant_of_reachable (R := fun _ cp => chain.start env ≤ chain.reached env cp)
    (fun _ _ _ _ _ here => here.1) ?_ ?_ ?_ ?_ h
  · refine ⟨le_rfl, fun a _ => ?_⟩
    change Db.eligible _ a = (lastIn a (chain.between (chain.start env) (chain.start env))).getD _
    rw [Chain.between_self]
    rfl
  · exact fun _ hinv => hinv.start
  · exact fun _ _ _ hcp => hcp
  · rintro tr db cp page _ ⟨-, horder⟩ hread hinv hcp hpage rfl
    exact hinv.applyPage hcp hpage (horder _ rfl cp hread)

end Pool

/-! ### One check, stored twice -/

/-- One check. -/
def checkChain : Chain :=
  .ofEmitted [(⟨"a", 5000000, "t0", "x", "registry"⟩, .checkSubmitted 7 "W" 3 [1, 2] .up)]
    (fun _ => 1) (by decide) (by decide) (by decide)

def plainEnv : WorkerEnv := ⟨some "registry", some "vault", none⟩

private theorem serves_checkChain :
    checkChain.ServesWithCursor (.ledger (4963530 : ℕ)) 50
      ⟨checkChain.events, 5000002, some "1"⟩ := by
  have hindex : checkChain.indexOf (.ledger (4963530 : ℕ)) = 0 := by decide +kernel
  refine ⟨⟨?_, by decide, by decide, ?_⟩, "1", rfl, by decide⟩
  · rw [hindex]
    exact List.prefix_refl _
  · intro c _ _
    rw [hindex]
    rfl

/-- A watcher registers and is removed. -/
def removalChain : Chain :=
  .ofEmitted [(⟨"a", 5000000, "t0", "x", "registry"⟩, .watcher .registered "W"),
      (⟨"b", 5000001, "t1", "y", "registry"⟩, .watcher .removed "W")]
    (fun c => if c = "1" then 1 else 2) (by decide) (by decide) (by decide)

/-- The first `n` events of `removalChain`, with the cursor for the position after them. -/
private def removalPage (n : ℕ) (c : String) : GetEventsResponse :=
  ⟨removalChain.events.take n, 5000002, some c⟩

private theorem start_removalChain :
    removalChain.indexOf (.ledger (4963530 : ℕ)) = 0 := by decide +kernel

private theorem serves_removalPage {n : ℕ} {c : String} (hne : c ≠ "")
    (hposition : removalChain.position c = (removalPage n c).events.length) :
    removalChain.ServesWithCursor (.ledger (4963530 : ℕ)) 50 (removalPage n c) := by
  have hlength : (removalPage n c).events.length ≤ 2 := List.length_take_le' _ _
  refine ⟨⟨?_, by omega, ?_, ?_⟩, c, rfl, hne⟩
  · rw [start_removalChain]
    exact List.take_prefix _ _
  · intro e he
    have hledgers : ∀ e ∈ removalChain.events, e.ledger ≤ 5000002 := by decide
    exact hledgers e (List.mem_of_mem_take he)
  · rintro c' ⟨⟩ _
    rw [start_removalChain, Nat.zero_add]
    exact hposition

private theorem serves_nothing_after :
    removalChain.ServesWithCursor (.cursor "2") 50 ⟨[], 5000002, some "2"⟩ := by
  refine ⟨⟨?_, by decide, by simp, ?_⟩, "2", rfl, by decide⟩
  · exact List.nil_prefix
  · rintro c ⟨⟩ _
    rfl

end Indexer

end SlaSettle
