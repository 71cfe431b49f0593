import SlaSettle.Indexer.Api
import SlaSettle.Indexer.Exactness
import SlaSettle.Indexer.Tally

/-!
# Who has checked in

What the current-round endpoint serves over a history of the chain. The round is the one the
contract is in when the reported ledger closes; those that have checked in are the voters of that
round, and those that have yet to are the addresses whose last watcher event is a registration and
that have no vote in it (`current_round_of_history`, for both servers).

`Db.Follows` is what the endpoint needs of the database: its checks are those of the history, and
its eligible watchers the registered ones.
-/

namespace SlaSettle

namespace Indexer

open Js Effect Program Store

/-! ### The participants of a round -/

/-- The vote that an event casts in a round, and the time of its ledger. -/
def checkedIn? (slaId : String) (roundId : ℕ) (e : EventHeader × OnChainEvent) :
    Option CheckedIn :=
  match e.2 with
  | .checkSubmitted s watcher r _ status =>
    if toString s = slaId ∧ r = roundId then some ⟨watcher, status, e.1.ledgerClosedAt⟩ else none
  | _ => none

/-- The votes of a round. -/
def Emitted.votes (es : Emitted) (slaId : String) (roundId : ℕ) : List CheckedIn :=
  es.filterMap (checkedIn? slaId roundId)

/-- The address has a vote in the round. -/
def Emitted.HasVoted (es : Emitted) (slaId : String) (roundId : ℕ) (address : String) : Prop :=
  ∃ v ∈ es.votes slaId roundId, v.watcher = address

/-- The last event about an address is its registration. -/
def Emitted.Registered (es : Emitted) (address : String) : Prop :=
  ∃ before header after, es = before ++ (header, .watcher .registered address) :: after ∧
    ∀ e ∈ after, ∀ type, e.2 ≠ .watcher type address

/-- **The database follows a history:** it has its checks, in some order, and its watchers. -/
structure Db.Follows (db : Db) (es : List ContractEvent) : Prop where
  checks : db.checks.rows.Perm (es.filterMap ContractEvent.check?)
  watchers : ∀ a, Db.eligible db.watchers a =
    (Db.lastWatcherEvent a (es.filterMap ContractEvent.watcher?)).getD false

/-- Tables that are the fold of a history follow it. -/
theorem Db.Holds.follows {db : Db} {es : List ContractEvent} (h : db.Holds es) : db.Follows es where
  checks := h.checks ▸ List.Perm.refl _
  watchers := h.watchers

private theorem watcher?_row_eq_some_iff {e : EventHeader × OnChainEvent} {w : WatcherEvent} :
    (e.2.row e.1).watcher? = some w ↔
      e.2 = .watcher w.type w.address ∧ e.1.ledgerClosedAt = w.occurredAt := by
  obtain ⟨header, e⟩ := e
  obtain ⟨type, address, occurredAt⟩ := w
  cases e with
  | watcher type' address' =>
    simp only [OnChainEvent.row, ContractEvent.watcher?, Option.some.injEq, WatcherEvent.mk.injEq,
      OnChainEvent.watcher.injEq, and_assoc]
  | _ => simp only [OnChainEvent.row, ContractEvent.watcher?, reduceCtorEq, false_and]

/-- The last event about an address, as the indexer reads it. -/
theorem lastWatcherEvent_rows_iff {es : Emitted} {a : String} :
    Db.lastWatcherEvent a (es.rows.filterMap ContractEvent.watcher?) = some true ↔
      es.Registered a := by
  have hrows : es.rows.filterMap ContractEvent.watcher? =
      es.filterMap fun e => (e.2.row e.1).watcher? := List.filterMap_map
  rw [hrows, Db.lastWatcherEvent, lastWrite_eq_some_iff]
  constructor
  · rintro ⟨before, w, after, hsplit, rfl, hregisters, hafter⟩
    obtain ⟨es₁, es₂, rfl, -, hes₂⟩ := List.filterMap_eq_append_iff.mp hsplit
    obtain ⟨skipped, e, rest, rfl, -, he, hrest⟩ := List.filterMap_eq_cons_iff.mp hes₂
    obtain ⟨hevent, -⟩ := watcher?_row_eq_some_iff.mp he
    have htype : w.type = .registered := of_decide_eq_true hregisters
    refine ⟨es₁ ++ skipped, e.1, rest, ?_, fun e' he' type htype' => ?_⟩
    · rw [List.append_assoc, ← htype, ← hevent]
    · have hmem : (⟨type, w.address, e'.1.ledgerClosedAt⟩ : WatcherEvent) ∈ after := by
        rw [← hrest]
        exact List.mem_filterMap.mpr ⟨e', he', watcher?_row_eq_some_iff.mpr ⟨htype', rfl⟩⟩
      exact hafter _ hmem rfl
  · rintro ⟨before, header, after, rfl, hafter⟩
    refine ⟨before.filterMap fun e => (e.2.row e.1).watcher?,
      ⟨.registered, a, header.ledgerClosedAt⟩, after.filterMap fun e => (e.2.row e.1).watcher?,
      ?_, rfl, rfl, fun w hw haddress => ?_⟩
    · rw [List.filterMap_append, List.filterMap_cons]
      rfl
    · obtain ⟨e, he, hread⟩ := List.mem_filterMap.mp hw
      exact hafter e he w.type (haddress ▸ (watcher?_row_eq_some_iff.mp hread).1)

theorem Db.Follows.eligible_iff {db : Db} {es : Emitted} (h : db.Follows es.rows) (a : String) :
    Db.eligible db.watchers a = true ↔ es.Registered a := by
  rw [h.watchers, ← lastWatcherEvent_rows_iff]
  cases Db.lastWatcherEvent a (es.rows.filterMap ContractEvent.watcher?) with
  | none => exact iff_of_false Bool.false_ne_true nofun
  | some registered => rw [Option.getD_some, Option.some.injEq]

/-- The checks of a round, as the indexer selects them. -/
theorem Db.Follows.getCheckedInForRound {db : Db} {es : Emitted} (h : db.Follows es.rows)
    (slaId : String) (roundId : ℕ) :
    (db.getCheckedInForRound slaId (toString roundId)).Perm (es.votes slaId roundId) := by
  have hselected : (db.getCheckedInForRound slaId (toString roundId)).Perm
      ((es.rows.filterMap ContractEvent.check?).filterMap fun c =>
        if c.slaId = slaId ∧ c.roundId = toString roundId then
          some ⟨c.watcher, c.status, c.checkedAt⟩
        else none) := by
    refine List.Perm.trans (.of_eq ?_) (h.checks.filterMap _)
    rw [Db.getCheckedInForRound, ← List.filterMap_eq_map, ← List.filterMap_eq_filter,
      List.filterMap_filterMap]
    refine List.filterMap_congr fun c _ => ?_
    by_cases hc : c.slaId = slaId ∧ c.roundId = toString roundId
    · simp [hc]
    · rw [if_neg hc]
      simpa [Option.guard] using fun hsla hround => hc ⟨hsla, hround⟩
  refine hselected.trans (.of_eq ?_)
  rw [Emitted.rows, List.filterMap_map, List.filterMap_filterMap, Emitted.votes]
  refine List.filterMap_congr fun e _ => ?_
  obtain ⟨header, e⟩ := e
  cases e with
  | checkSubmitted s watcher r hash status =>
    simp only [Function.comp_apply, OnChainEvent.row, ContractEvent.check?, Option.bind_some,
      checkedIn?, toString_nat_inj]
  | _ => rfl

/-! ### The answer -/

/-- A way of asking for the eligible watchers: it answers with each of them once. -/
def ReadsEligible (eligible : Api (List String)) : Prop :=
  ∀ {db db' : Db} {tr : List (Event apiInterface)} {watchers : List String},
    Exec ApiAnswers eligible db tr (.ok watchers) db' →
      db' = db ∧ watchers.Nodup ∧ ∀ a, a ∈ watchers ↔ Db.eligible db.watchers a = true

private theorem nodup_eligible (db : Db) :
    ((db.watchers.rows.filter fun r => r.removedAt.isNone).map WatcherRow.address).Nodup :=
  db.watchers.nodup.sublist (List.filter_sublist.map _)

private theorem mem_eligible {db : Db} {a : String} :
    a ∈ (db.watchers.rows.filter fun r => r.removedAt.isNone).map WatcherRow.address ↔
      Db.eligible db.watchers a = true := by
  simp only [List.mem_map, List.mem_filter, Option.isNone_iff_eq_none, Db.eligible_iff]
  exact exists_congr fun r => by tauto

theorem readsEligible_node : ReadsEligible ApiCall.selectEligibleAddresses.await := by
  intro db db' tr watchers h
  obtain ⟨here, rfl⟩ := exec_ask_iff.mp h
  cases here
  exact ⟨rfl, nodup_eligible db, fun a => mem_eligible⟩

theorem readsEligible_worker : ReadsEligible workerEligible := by
  intro db db' tr watchers h
  obtain ⟨rows, hrows, hmap⟩ := exec_bind_return_iff.mp h
  obtain ⟨here, rfl⟩ := exec_ask_iff.mp hrows
  cases here with
  | throws => cases hmap
  | getEligibleWatchers =>
    obtain rfl := Except.ok.inj hmap
    have hperm : (db.getEligibleWatchers.map EligibleWatcher.address).Perm
        ((db.watchers.rows.filter fun r => r.removedAt.isNone).map WatcherRow.address) := by
      rw [Db.getEligibleWatchers, List.map_map]
      exact (List.mergeSort_perm _ _).map _
    exact ⟨rfl, hperm.nodup_iff.mpr (nodup_eligible db),
      fun a => hperm.mem_iff.trans mem_eligible⟩

/-- What the RPC reports of the latest ledger: its sequence, and its close time in seconds. -/
structure Reports (raw : Option Json) (sequence closeTime : ℕ) : Prop where
  sequence_eq : optionalProperty raw "sequence" = some (.number sequence)
  sequence_pos : 0 < sequence
  sequence_lt : sequence < 2 ^ 53
  closeTime_eq : optionalProperty raw "closeTime" = some (.string (toString closeTime))
  closeTime_le : closeTime * 1000 ≤ maxTime

theorem exec_getLatestLedgerInfo {lib : TextLib} {db db' : Db} {tr : List (Event apiInterface)}
    {ledger : LedgerInfo} :
    Exec ApiAnswers (getLatestLedgerInfo lib) db tr (.ok ledger) db' ↔
      db' = db ∧ ∃ raw closeTime, tr = [⟨.getLatestLedger, .ok raw⟩] ∧
        Reports raw ledger.sequence closeTime ∧ ledger.closeTimeMs = closeTime * 1000 := by
  constructor
  · intro h
    rcases exec_ask_bind_iff.mp h with ⟨e, -, -, herror⟩ | ⟨raw, db₁, tr', here, hrest, rfl⟩
    · cases herror
    obtain ⟨rfl, hledger, rfl⟩ := exec_attempt_iff.mp hrest
    obtain ⟨⟨hseq, hpos, hlt⟩, closeTime, htext, hms⟩ := ledgerInfo_eq_ok_iff.mp hledger.symm
    cases here
    exact ⟨rfl, raw, closeTime, rfl, ⟨hseq, hpos, hlt, htext, hms ▸ ledger.closeTimeMs_le⟩, hms⟩
  · rintro ⟨rfl, raw, closeTime, rfl, hraw, hms⟩
    have hledger : ledgerInfo lib raw = .ok ledger := ledgerInfo_eq_ok_iff.mpr
      ⟨⟨hraw.sequence_eq, hraw.sequence_pos, hraw.sequence_lt⟩, closeTime, hraw.closeTime_eq, hms⟩
    exact exec_ask_bind_iff.mpr (.inr ⟨raw, db', [], .getLatestLedger,
      exec_attempt_iff.mpr ⟨rfl, hledger.symm, rfl⟩, rfl⟩)

/-- The start of a round, in milliseconds, computed with doubles. -/
private theorem startedAt_eq {t l : ℕ} (ht : t * 1000 ≤ maxTime) :
    toISOString ((((t / l : ℕ) : JsNumber).mul (l : JsNumber)).mul 1000) =
      .ok (isoText (t / l * l * 1000 : ℕ)) := by
  have hstart : t / l * l * 1000 ≤ maxTime :=
    (Nat.mul_le_mul_right 1000 (Nat.div_mul_le_self t l)).trans ht
  have hlt : t / l * l * 1000 < 2 ^ 53 := lt_of_le_of_lt hstart (by decide)
  have hthousand : JsNumber.mul ((t / l * l : ℕ) : JsNumber) 1000 =
      ((t / l * l * 1000 : ℕ) : JsNumber) := JsNumber.mul_natCast hlt
  rw [JsNumber.mul_natCast (by omega), hthousand, toISOString_natCast hstart]

/-- **What a server answers** for the current round, by what the RPC reports and the database
holds. -/
theorem exec_currentRoundWith {eligible : Api (List String)} (heligible : ReadsEligible eligible)
    {lib : TextLib} (hlib : lib.Documented) {l : ℕ} (hl : 0 < l) (hl1024 : l < 2 ^ 1024)
    {slaId : String} {db db' : Db} {tr : List (Event apiInterface)} {body : Json}
    (h : Exec ApiAnswers (currentRoundWith eligible lib (l : JsNumber) slaId) db tr (.ok body)
      db') :
    db' = db ∧ ∃ raw sequence t watchers,
      (⟨.getLatestLedger, .ok raw⟩ : Event apiInterface) ∈ tr ∧ Reports raw sequence t ∧
      watchers.Nodup ∧ (∀ a, a ∈ watchers ↔ Db.eligible db.watchers a = true) ∧
      body = currentRoundBody ((t / l : ℕ) : JsNumber) (isoText (t / l * l * 1000 : ℕ))
        (db.getCheckedInForRound slaId (toString (t / l)))
        (notYetCheckedIn watchers (db.getCheckedInForRound slaId (toString (t / l)))) := by
  obtain ⟨tr₁, ledger, db₁, tr₂, hledger, hafter, rfl⟩ := exec_bind_ok_iff.mp h
  obtain ⟨rfl, raw, t, rfl, hraw, hms⟩ := exec_getLatestLedgerInfo.mp hledger
  dsimp only at hafter
  rw [currentRoundId_eq hms hl hl1024] at hafter
  have hround : lib.numberText ((t / l : ℕ) : JsNumber) = toString (t / l) := by
    have ht := hraw.closeTime_le
    have hle := Nat.div_le_self t l
    rw [maxTime] at ht
    exact hlib.numberText_natCast _ (by omega)
  rw [hround] at hafter
  obtain ⟨tr₃, watchers, db₂, tr₄, hwatchers, hselect, rfl⟩ := exec_bind_ok_iff.mp hafter
  obtain ⟨rfl, hnodup, hmem⟩ := heligible hwatchers
  rcases exec_ask_bind_iff.mp hselect with
    ⟨e, -, -, herror⟩ | ⟨checkedIn, db₃, tr₅, here, hdate, rfl⟩
  · cases herror
  cases here
  rcases exec_attempt_bind_iff.mp hdate with ⟨e, -, -, herror, -⟩ | ⟨startedAt, hstart, hreturn⟩
  · cases herror
  rw [startedAt_eq hraw.closeTime_le, Except.ok.injEq] at hstart
  subst hstart
  obtain ⟨rfl, hbody, rfl⟩ := exec_return_iff.mp hreturn
  exact ⟨rfl, raw, ledger.sequence, t, watchers, List.mem_cons_self, hraw, hnodup, hmem,
    Except.ok.inj hbody⟩

/-- The two servers' handlers for the current round, on a database. -/
inductive AnswersCurrentRound (lib : TextLib) (l : ℕ) (slaId : String) (db : Db)
    (tr : List (Event apiInterface)) (body : Json) (db' : Db) : Prop
  | worker (h : Exec ApiAnswers (workerCurrentRound lib (l : JsNumber) slaId) db tr (.ok body) db')
  | node (h : Exec ApiAnswers (nodeCurrentRound lib (l : JsNumber) slaId) db tr (.ok body) db')

/-- **The current round of a history.** Either server answers with the round of the ledger that the
RPC reports, the votes of the history in it, and the registered addresses that have none. -/
theorem AnswersCurrentRound.of_follows {es : Emitted} {db : Db} (hdb : db.Follows es.rows)
    {lib : TextLib} (hlib : lib.Documented) {l : ℕ} (hl : 0 < l) (hl1024 : l < 2 ^ 1024)
    {slaId : String} {tr : List (Event apiInterface)} {body : Json} {db' : Db}
    (h : AnswersCurrentRound lib l slaId db tr body db') :
    db' = db ∧ ∃ raw sequence t checkedIn notYet,
      (⟨.getLatestLedger, .ok raw⟩ : Event apiInterface) ∈ tr ∧ Reports raw sequence t ∧
      body = currentRoundBody ((t / l : ℕ) : JsNumber) (isoText (t / l * l * 1000 : ℕ)) checkedIn
        notYet ∧
      checkedIn.Perm (es.votes slaId (t / l)) ∧ notYet.Nodup ∧
      ∀ a, a ∈ notYet ↔ es.Registered a ∧ ¬ es.HasVoted slaId (t / l) a := by
  have hanswer : db' = db ∧ ∃ raw sequence t watchers,
      (⟨.getLatestLedger, .ok raw⟩ : Event apiInterface) ∈ tr ∧ Reports raw sequence t ∧
      watchers.Nodup ∧ (∀ a, a ∈ watchers ↔ Db.eligible db.watchers a = true) ∧
      body = currentRoundBody ((t / l : ℕ) : JsNumber) (isoText (t / l * l * 1000 : ℕ))
        (db.getCheckedInForRound slaId (toString (t / l)))
        (notYetCheckedIn watchers (db.getCheckedInForRound slaId (toString (t / l)))) := by
    cases h with
    | worker h => exact exec_currentRoundWith readsEligible_worker hlib hl hl1024 h
    | node h => exact exec_currentRoundWith readsEligible_node hlib hl hl1024 h
  obtain ⟨rfl, raw, sequence, t, watchers, hmem, hraw, hnodup, hwatchers, rfl⟩ := hanswer
  have hvotes := hdb.getCheckedInForRound slaId (t / l)
  refine ⟨rfl, raw, sequence, t, _, _, hmem, hraw, rfl, hvotes, hnodup.filter _, fun a => ?_⟩
  rw [notYetCheckedIn, List.mem_filter, hwatchers, hdb.eligible_iff, decide_eq_true_eq,
    (hvotes.map CheckedIn.watcher).mem_iff, List.mem_map, Emitted.HasVoted]

/-- Where no call throws and the RPC's report is in order, the Worker answers. -/
theorem exists_workerCurrentRound {lib : TextLib} {l : ℕ} (hl : 0 < l) (hl1024 : l < 2 ^ 1024)
    {raw : Option Json} {sequence t : ℕ} (hraw : Reports raw sequence t) (slaId : String)
    (db : Db) : ∃ tr body, AnswersCurrentRound lib l slaId db tr body db := by
  let ledger : LedgerInfo := ⟨sequence, t * 1000, hraw.closeTime_le⟩
  have hround : currentRoundId ledger (l : JsNumber) = ((t / l : ℕ) : JsNumber) :=
    currentRoundId_eq rfl hl hl1024
  have hstart := startedAt_eq (l := l) hraw.closeTime_le
  rw [← hround] at hstart
  have hledger : Exec ApiAnswers (getLatestLedgerInfo lib) db [⟨.getLatestLedger, .ok raw⟩]
      (.ok ledger) db := exec_getLatestLedgerInfo.mpr ⟨rfl, raw, t, rfl, hraw, rfl⟩
  have hwatchers : Exec ApiAnswers workerEligible db
      [⟨.getEligibleWatchers, .ok db.getEligibleWatchers⟩]
      (.ok (db.getEligibleWatchers.map EligibleWatcher.address)) db :=
    exec_bind_return_iff.mpr ⟨_, exec_ask_iff.mpr ⟨.getEligibleWatchers, rfl⟩, rfl⟩
  exact ⟨_, _, .worker (exec_bind_ok_iff.mpr ⟨_, ledger, db, _, hledger,
    exec_bind_ok_iff.mpr ⟨_, _, db, _, hwatchers, exec_ask_bind_iff.mpr
      (.inr ⟨_, db, [], .getCheckedInForRound, exec_attempt_bind_iff.mpr
        (.inr ⟨_, hstart, exec_return_iff.mpr ⟨rfl, rfl, rfl⟩⟩), rfl⟩), rfl⟩, rfl⟩)⟩

/-! ### Over a run of ingestion -/

/-- The stretch of a history that a run has stored: from the first position it stored a page of up
to the stored cursor, or nothing. -/
def Chain.Stored (chain : Chain) (log : List StepLog) (db : Db) (es stored : Emitted) : Prop :=
  match firstStored log with
  | none => stored = []
  | some q => ∃ c, storedCursor db.checkpoint = some c ∧
      stored = (es.drop (chain.indexOf q)).take (chain.position c - chain.indexOf q)

/-- A run follows the stretch it has stored. -/
theorem Chain.follows_of_run {chain : Chain} {es : Emitted}
    (hes : chain.events = es.map fun e => e.2.encode e.1) {loop : IngestionLoop} {limit : ℕ}
    (hloop : loop.FollowsCursors) {log : List StepLog} {db : Db}
    (hrun : loop.Run (fun q => chain.ServesWithCursor q limit) log db) :
    ∃ stored, chain.Stored log db es stored ∧ db.Follows stored.rows := by
  have hexact := hrun.exactFrom hloop
  unfold Chain.Stored
  cases hfirst : firstStored log with
  | none =>
    rw [hfirst] at hexact
    exact ⟨[], rfl, hexact.2.follows⟩
  | some q =>
    rw [hfirst] at hexact
    obtain ⟨c, hc, -, hholds⟩ := hexact
    refine ⟨_, ⟨c, hc, rfl⟩, ?_⟩
    have hstretch : chain.between (chain.indexOf q) (chain.position c) =
        ((es.drop (chain.indexOf q)).take (chain.position c - chain.indexOf q)).map fun e =>
          e.2.encode e.1 := by
      rw [Chain.between, hes, List.map_take, List.map_drop]
    rw [hstretch, history_map_encode] at hholds
    exact hholds.follows

/-- Conversions to text that are right for integers. -/
def decimalText : TextLib where
  valueText _ := ""
  numberText
    | .finite q => toString q.num.toNat
    | _ => ""

theorem documented_decimalText : decimalText.Documented where
  numberText_natCast n _ := by
    rw [JsNumber.natCast_eq, decimalText]
    simp

/-- The RPC reports ledger 100, closed after two minutes. -/
def reportedLedger : Option Json :=
  some (.object [("sequence", .number (100 : ℕ)), ("closeTime", .string "120")])

theorem reports_reportedLedger : Reports reportedLedger 100 120 where
  sequence_eq := rfl
  sequence_pos := by decide
  sequence_lt := by decide
  closeTime_eq := rfl
  closeTime_le := by decide

end Indexer

end SlaSettle
