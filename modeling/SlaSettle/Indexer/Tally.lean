import SlaSettle.Indexer.Settlements
import SlaSettle.Indexer.Holds
import SlaSettle.Indexer.Wire

/-!
# Served tallies and the contract's tallies

On chain, votes are tallied per `(sla_id, round_id, endpoint_hash)`, and an SLA is settled by the
tally under the endpoint hash it was created with; a vote under another hash "never contributes".
`roundTallies` is that bookkeeping. The indexer counts the checks of `(sla_id, round_id)` whatever
their hash is, so the counts served with a settlement are the contract's exactly when every check
of the round carries the one commitment: `served_tallies`, for both routes and every page.

A database that has ingested a history holds its checks and its settlements in some order, with any
thresholds cached (`Db.Ingested`). That is what sequential runs (`Db.Holds.ingested`) and
overlapping ones (`Db.Within.ingested`) reach, and requests keep it (`Db.Ingested.of_sameVotes`).
-/

namespace SlaSettle

namespace Indexer

open Js Effect Program Store

/-! ### The contract's tallies -/

/-- What votes are partitioned by. -/
structure TallyKey where
  slaId : ℕ
  roundId : ℕ
  endpointHash : List UInt8
  deriving DecidableEq

/-- The votes with a status. -/
def VoteCounts.count (v : VoteCounts) : CheckStatus → ℕ
  | .up => v.votesUp
  | .down => v.votesDown

/-- One vote more. -/
def VoteCounts.add (v : VoteCounts) : CheckStatus → VoteCounts
  | .up => { v with votesUp := v.votesUp + 1 }
  | .down => { v with votesDown := v.votesDown + 1 }

theorem VoteCounts.eq_iff_count {v v' : VoteCounts} :
    v = v' ↔ ∀ status, v.count status = v'.count status := by
  constructor
  · rintro rfl _
    rfl
  · intro h
    obtain ⟨up, down⟩ := v
    obtain ⟨up', down'⟩ := v'
    have hup : up = up' := h .up
    have hdown : down = down' := h .down
    rw [hup, hdown]

theorem VoteCounts.count_add (v : VoteCounts) (status status' : CheckStatus) :
    (v.add status).count status' = v.count status' + if status = status' then 1 else 0 := by
  cases status <;> cases status' <;> rfl

namespace OnChainEvent

/-- The vote of a check, under the key of its tally. -/
def vote? : OnChainEvent → Option (TallyKey × CheckStatus)
  | checkSubmitted slaId _ roundId endpointHash status =>
    some (⟨slaId, roundId, endpointHash⟩, status)
  | _ => none

/-- Who votes in a check, and where. -/
def voter? : OnChainEvent → Option (ℕ × ℕ × String)
  | checkSubmitted slaId address roundId _ _ => some (slaId, roundId, address)
  | _ => none

/-- The SLA an event creates, and its commitment. -/
def created? : OnChainEvent → Option (ℕ × List UInt8)
  | slaCreated slaId _ _ endpointHash _ _ _ _ _ => some (slaId, endpointHash)
  | _ => none

/-- A vote with the status in the round, under any hash. -/
def votesIn (slaId roundId : ℕ) (status : CheckStatus) (e : OnChainEvent) : Bool :=
  e.vote?.any fun v => v.1.slaId = slaId && v.1.roundId = roundId && v.2 = status

end OnChainEvent

/-- The effect of one event on the tallies. -/
def recordVote (tallies : TallyKey → VoteCounts) (e : OnChainEvent) : TallyKey → VoteCounts :=
  match e.vote? with
  | some (key, status) => Function.update tallies key ((tallies key).add status)
  | none => tallies

/-- **The contract's tallies** after a history. -/
def roundTallies (es : List OnChainEvent) : TallyKey → VoteCounts :=
  es.foldl recordVote fun _ => ⟨0, 0⟩

/-- One event adds its vote to its own tally. -/
theorem count_recordVote (tallies : TallyKey → VoteCounts) (e : OnChainEvent) (key : TallyKey)
    (status : CheckStatus) :
    (recordVote tallies e key).count status =
      (tallies key).count status + if e.vote? = some (key, status) then 1 else 0 := by
  unfold recordVote
  cases hvote : e.vote? with
  | none => simp
  | some v =>
    obtain ⟨key', status'⟩ := v
    by_cases hkey : key = key'
    · subst hkey
      simp [VoteCounts.count_add]
    · simp [Function.update_of_ne hkey, Ne.symm hkey]

/-- A tally counts the votes under its key. -/
theorem count_roundTallies (es : List OnChainEvent) (key : TallyKey) (status : CheckStatus) :
    (roundTallies es key).count status = es.countP fun e => e.vote? = some (key, status) := by
  have hfold : ∀ tallies : TallyKey → VoteCounts,
      (es.foldl recordVote tallies key).count status =
        (tallies key).count status + es.countP fun e => e.vote? = some (key, status) := by
    induction es with
    | nil => exact fun _ => rfl
    | cons e es ih =>
      intro tallies
      rw [List.foldl_cons, ih, count_recordVote, List.countP_cons]
      simp only [decide_eq_true_eq]
      omega
  have hzero : VoteCounts.count ⟨0, 0⟩ status = 0 := by cases status <;> rfl
  rw [roundTallies, hfold, hzero, Nat.zero_add]

/-- Every vote of the round is under the commitment. -/
def OneCommitment (es : List OnChainEvent) (slaId roundId : ℕ) (endpointHash : List UInt8) : Prop :=
  ∀ e ∈ es, ∀ hash status, e.vote? = some (⟨slaId, roundId, hash⟩, status) → hash = endpointHash

/-- Restricting a count leaves it as it is exactly when the restriction costs nothing. -/
private theorem countP_eq_countP_iff {α : Type} {p q : α → Bool} {as : List α}
    (hsub : ∀ a, p a = true → q a = true) :
    as.countP q = as.countP p ↔ ∀ a ∈ as, q a = true → p a = true := by
  induction as with
  | nil => simp
  | cons a as ih =>
    have hle : as.countP p ≤ as.countP q := List.countP_mono_left fun x _ => hsub x
    rw [List.countP_cons, List.countP_cons, List.forall_mem_cons, ← ih]
    by_cases hp : p a = true
    · simp [hp, hsub a hp]
    · by_cases hq : q a = true
      · simp only [hp, hq, if_true, Bool.false_eq_true, if_false]
        simp only [forall_const, false_and, iff_false]
        omega
      · simp [hp, hq]

/-- **The counts of a round are the tally of a commitment exactly when all its votes are under
it.** -/
theorem countP_votesIn_eq_iff (es : List OnChainEvent) (slaId roundId : ℕ)
    (endpointHash : List UInt8) :
    (∀ status, es.countP (OnChainEvent.votesIn slaId roundId status) =
        (roundTallies es ⟨slaId, roundId, endpointHash⟩).count status) ↔
      OneCommitment es slaId roundId endpointHash := by
  have hiff : ∀ status, es.countP (OnChainEvent.votesIn slaId roundId status) =
      (roundTallies es ⟨slaId, roundId, endpointHash⟩).count status ↔
      ∀ e ∈ es, e.votesIn slaId roundId status = true →
        decide (e.vote? = some (⟨slaId, roundId, endpointHash⟩, status)) = true := by
    intro status
    rw [count_roundTallies]
    refine countP_eq_countP_iff fun e he => ?_
    rw [decide_eq_true_eq] at he
    simp [OnChainEvent.votesIn, he]
  constructor
  · intro h e he hash status hvote
    have hcounted := (hiff status).mp (h status) e he (by simp [OnChainEvent.votesIn, hvote])
    rw [hvote, decide_eq_true_eq] at hcounted
    simp only [Option.some.injEq, Prod.mk.injEq, TallyKey.mk.injEq] at hcounted
    exact hcounted.1.2.2
  · intro h status
    refine (hiff status).mpr fun e he hin => ?_
    cases hvote : e.vote? with
    | none => simp [OnChainEvent.votesIn, hvote] at hin
    | some v =>
      obtain ⟨⟨s, k, hash⟩, status'⟩ := v
      simp only [OnChainEvent.votesIn, hvote, Option.any_some, Bool.and_eq_true, decide_eq_true_eq]
        at hin
      obtain ⟨⟨rfl, rfl⟩, rfl⟩ := hin
      rw [h e he hash status' hvote, decide_eq_true_eq]

/-! ### What the indexer holds of a history -/

/-- **The database has ingested a history.** Its checks and settlements are those of the history,
in some order, with any thresholds cached. -/
structure Db.Ingested (db : Db) (es : List ContractEvent) : Prop where
  checks : db.checks.rows.Perm (es.filterMap ContractEvent.check?)
  settlements : (db.settlements.rows.map SettlementRow.withoutThreshold).Perm
    ((es.filterMap ContractEvent.settlement?).map SettlementRow.withoutThreshold)

/-- Storing a row changes its threshold only. -/
@[simp]
theorem SettlementRow.withoutThreshold_stored (r : SettlementRow) :
    r.stored.withoutThreshold = r.withoutThreshold := rfl

private theorem map_withoutThreshold_stored (rows : List SettlementRow) :
    (rows.map SettlementRow.stored).map SettlementRow.withoutThreshold =
      rows.map SettlementRow.withoutThreshold := by
  rw [List.map_map]
  rfl

/-- Tables that are the fold of a history have ingested it. -/
theorem Db.Holds.ingested {db : Db} {es : List ContractEvent} (h : db.Holds es) :
    db.Ingested es where
  checks := by rw [h.checks]
  settlements := by rw [h.settlements, map_withoutThreshold_stored]

/-- Tables that hold every row of a history, and no others, have ingested it. -/
theorem Db.Within.ingested {db : Db} {es : List ContractEvent} (h : db.Within es)
    (hcovers : db.Covers es) (hkeys : DistinctKeys es) : db.Ingested es where
  checks := by
    refine (List.perm_ext_iff_of_nodup db.checks.nodup.of_map hkeys.checks.of_map).mpr fun r => ?_
    exact ⟨h.checks r, hcovers.checks r⟩
  settlements := by
    rw [← map_withoutThreshold_stored (es.filterMap ContractEvent.settlement?)]
    refine List.Perm.map _ ?_
    have hnodup : ((es.filterMap ContractEvent.settlement?).map SettlementRow.stored |>.map
        SettlementRow.eventId).Nodup := by
      rw [List.map_map]
      exact hkeys.settlements
    refine (List.perm_ext_iff_of_nodup db.settlements.nodup.of_map hnodup.of_map).mpr fun r => ?_
    exact ⟨h.settlements r, hcovers.settlements r⟩

/-- Requests keep what was ingested. -/
theorem Db.Ingested.of_sameVotes {db db' : Db} {es : List ContractEvent} (h : db.Ingested es)
    (hsame : db.SameVotes db') : db'.Ingested es where
  checks := by
    rw [hsame.checks]
    exact h.checks
  settlements := by
    rw [hsame.settlements]
    exact h.settlements

/-- A history as it is emitted. -/
abbrev Emitted : Type := List (EventHeader × OnChainEvent)

/-- What a history says, in rows. -/
def Emitted.rows (es : Emitted) : List ContractEvent := es.map fun e => e.2.row e.1

/-- Its events. -/
def Emitted.events (es : Emitted) : List OnChainEvent := es.map Prod.snd

/-- The row of a check matches a round and a status exactly when its vote does. -/
private theorem check?_row_any (header : EventHeader) (e : OnChainEvent) (slaId roundId : ℕ)
    (status : CheckStatus) :
    (e.row header).check?.any (fun c => c.slaId = toString slaId && c.roundId = toString roundId &&
      c.status = status) = e.votesIn slaId roundId status := by
  cases e with
  | checkSubmitted s address k endpointHash status' =>
    simp only [OnChainEvent.row, ContractEvent.check?, OnChainEvent.votesIn, OnChainEvent.vote?,
      Option.any_some, toString_nat_inj]
  | _ => rfl

/-- The counts served for a round, under any hash. -/
theorem Db.Ingested.count_getVoteCounts {db : Db} {es : Emitted} (h : db.Ingested es.rows)
    (slaId roundId : ℕ) (status : CheckStatus) :
    (db.getVoteCounts (toString slaId) (toString roundId)).count status =
      es.events.countP (OnChainEvent.votesIn slaId roundId status) := by
  have hcount : (db.getVoteCounts (toString slaId) (toString roundId)).count status =
      db.checks.rows.countP fun c => c.slaId = toString slaId && c.roundId = toString roundId &&
        c.status = status := by
    cases status <;> rfl
  rw [hcount, h.checks.countP_eq, List.countP_filterMap, Emitted.rows, List.countP_map,
    Emitted.events, List.countP_map]
  refine List.countP_congr fun e _ => ?_
  rw [Function.comp_apply, Function.comp_apply, ← check?_row_any e.1 e.2]
  cases (e.2.row e.1).check? <;> rfl

/-! ### The counts of a response -/

/-- The counts of an entry. -/
def SettlementEntry.votes (e : SettlementEntry) : VoteCounts := ⟨e.votesUp, e.votesDown⟩

/-- The SLA was created with the endpoint hash. -/
def Created (es : Emitted) (slaId : ℕ) (endpointHash : List UInt8) : Prop :=
  ∃ e ∈ es.events, e.created? = some (slaId, endpointHash)

/-- The row of a settlement that was paid for a round. -/
def SettledAs (es : Emitted) (r : SettlementRow) (slaId roundId : ℕ) : Prop :=
  ∃ header payout beneficiary,
    (header, .settlementPaid slaId roundId payout beneficiary) ∈ es ∧
      r.withoutThreshold = ⟨header.id, toString slaId, toString roundId, none, toString payout,
        beneficiary, header.txHash, header.ledgerClosedAt⟩

theorem SettledAs.slaId_eq {es : Emitted} {r : SettlementRow} {slaId roundId : ℕ}
    (h : SettledAs es r slaId roundId) : r.slaId = toString slaId := by
  obtain ⟨_, _, _, -, heq⟩ := h
  exact congrArg SettlementRow.slaId heq

theorem SettledAs.roundId_eq {es : Emitted} {r : SettlementRow} {slaId roundId : ℕ}
    (h : SettledAs es r slaId roundId) : r.roundId = toString roundId := by
  obtain ⟨_, _, _, -, heq⟩ := h
  exact congrArg SettlementRow.roundId heq

/-- Every row of an ingested history is that of a settlement of it. -/
theorem Db.Ingested.settledAs {db : Db} {es : Emitted} (h : db.Ingested es.rows)
    {r : SettlementRow} (hr : r ∈ db.settlements.rows) :
    ∃ slaId roundId, SettledAs es r slaId roundId := by
  obtain ⟨r', hr', heq⟩ := List.mem_map.mp (h.settlements.subset (List.mem_map_of_mem hr))
  obtain ⟨row, hrow, hsettlement⟩ := List.mem_filterMap.mp hr'
  rw [ContractEvent.settlement?_eq_some] at hsettlement
  subst hsettlement
  obtain ⟨⟨header, e⟩, he, hrow⟩ := List.mem_map.mp hrow
  cases e with
  | settlementPaid slaId roundId payout beneficiary =>
    cases hrow
    exact ⟨slaId, roundId, header, payout, beneficiary, he, heq.symm⟩
  | _ => cases hrow

/-- A settlement is served with the counts of its round under any hash. -/
private theorem votes_settlementEntry {db : Db} {es : Emitted} (h : db.Ingested es.rows)
    {r : SettlementRow} {slaId roundId : ℕ} (hr : SettledAs es r slaId roundId)
    (threshold : Option JsNumber) (endpointHash : List UInt8) :
    (settlementEntry { r with quorumThreshold := threshold }
        (db.getVoteCounts r.slaId r.roundId)).votes =
      roundTallies es.events ⟨slaId, roundId, endpointHash⟩ ↔
      OneCommitment es.events slaId roundId endpointHash := by
  rw [← countP_votesIn_eq_iff, VoteCounts.eq_iff_count]
  refine forall_congr' fun status => ?_
  rw [← h.count_getVoteCounts, ← hr.slaId_eq, ← hr.roundId_eq]
  rfl

/-- **Served tallies.** For every history ingested, every page of settlements either route serves,
and every row of it: the counts served are the contract's tally of the round under the commitment
the SLA was created with if and only if every check of the round carries that commitment. -/
theorem served_tallies {es : Emitted} {db : Db} (hdb : db.Ingested es.rows) {slaId : String}
    {limitQuery : Option String} {before next : Option SettlementsCursor}
    {data : List SettlementEntry} {tr : List (Event routeInterface)} {db' : Db}
    (h : Exec RouteAnswers (workerSettlements slaId limitQuery before) db tr
        (.ok (.page data next)) db' ∨
      Exec RouteAnswers (nodeSettlements slaId limitQuery before) db tr
        (.ok (.page data next)) db') :
    ∃ limit, parseLimit limitQuery = .ok limit ∧
      List.Forall₂ (fun r e => ∃ s roundId, toString s = slaId ∧ SettledAs es r s roundId ∧
          e.roundId = .ofText (toString roundId) ∧
          ∀ endpointHash, Created es s endpointHash →
            (e.votes = roundTallies es.events ⟨s, roundId, endpointHash⟩ ↔
              OneCommitment es.events s roundId endpointHash))
        (db.settlementsPage slaId before limit) data := by
  have hpage : ∃ limit, parseLimit limitQuery = .ok limit ∧
      List.Forall₂ (fun r e => ∃ threshold, e =
          settlementEntry { r with quorumThreshold := threshold }
            (db.getVoteCounts r.slaId r.roundId))
        (db.settlementsPage slaId before limit) data :=
    h.elim (exec_settlementsWith (fillsThresholds_worker slaId))
      (exec_settlementsWith (fillsThresholds_node slaId))
  obtain ⟨limit, hlimit, hentries⟩ := hpage
  refine ⟨limit, hlimit, List.forall₂_iff_get.mpr ⟨hentries.length_eq, fun i hi hi' => ?_⟩⟩
  obtain ⟨hr, hslaId⟩ := Db.mem_settlementsPage (List.get_mem _ ⟨i, hi⟩)
  obtain ⟨threshold, he⟩ := hentries.get hi hi'
  obtain ⟨s, roundId, hsettled⟩ := hdb.settledAs hr
  refine ⟨s, roundId, hsettled.slaId_eq.symm.trans hslaId, hsettled, ?_, fun endpointHash _ => ?_⟩
  · rw [he, roundId_settlementEntry, hsettled.roundId_eq]
  · rw [he]
    exact votes_settlementEntry hdb hsettled threshold endpointHash

/-! ### Two votes in a round -/

/-- SLA 1 is created under the hash `[1]`. In round 5, `W1` votes up under it and `W2` votes down
under `second`, and the round is settled. -/
def twoVotes (second : List UInt8) : Emitted :=
  [(⟨"1", 10, "t1", "x1", "vault"⟩, .slaCreated 1 "P" "T" [1] 100 9900 1 5 "B"),
    (⟨"2", 11, "t2", "x2", "registry"⟩, .checkSubmitted 1 "W1" 5 [1] .up),
    (⟨"3", 11, "t2", "x3", "registry"⟩, .checkSubmitted 1 "W2" 5 second .down),
    (⟨"4", 12, "t3", "x4", "vault"⟩, .settlementPaid 1 5 5 "B")]

/-- The row of the settlement. -/
def settledRow : SettlementRow := ⟨"4", "1", "5", none, "5", "B", "x4", "t3"⟩

/-- A fresh database that has stored the history as one page. -/
def twoVotesDb (second : List UInt8) : Db :=
  Db.empty.applyBatch ⟨.ofEvents (twoVotes second).rows, 12, some "c"⟩

theorem distinctKeys_twoVotes (second : List UInt8) :
    DistinctKeys (twoVotes second).rows where
  checks := show ["2", "3"].Nodup by decide
  slas := show ["1"].Nodup by decide
  settlements := show ["4"].Nodup by decide
  lifecycleEvents := List.nodup_nil

theorem holds_twoVotesDb (second : List UInt8) :
    (twoVotesDb second).Holds (twoVotes second).rows :=
  Db.holds_empty.applyBatch (distinctKeys_twoVotes second) _ _

/-- What the Worker answers when the live read of the threshold fails. -/
private theorem exec_twoVotes (second : List UInt8) :
    Exec RouteAnswers (workerSettlements "1" none none) (twoVotesDb second)
      [⟨.selectSettlements "1" none 21, .ok [settledRow]⟩,
        ⟨.fetchQuorumThreshold "1", .error .other⟩,
        ⟨.getVoteCounts "1" "5", .ok ((twoVotesDb second).getVoteCounts "1" "5")⟩]
      (.ok (.page [settlementEntry settledRow ((twoVotesDb second).getVoteCounts "1" "5")] none))
      (twoVotesDb second) := by
  have hrows : (twoVotesDb second).settlements.rows = [settledRow] :=
    (holds_twoVotesDb second).settlements
  have hselected : (twoVotesDb second).selectSettlements "1" none 21 = [settledRow] := by
    simp [Db.selectSettlements, hrows, settledRow]
  exact .call (.selectSettlements hselected) (.call .throws (.call .getVoteCounts .done))

/-- A check under another hash is served as a vote. -/
theorem served_tallies_differ :
    ¬ ∀ (es : Emitted) (db : Db), (es.events.filterMap OnChainEvent.voter?).Nodup →
      DistinctKeys es.rows → db.Ingested es.rows →
      ∀ slaId limitQuery before tr data next db',
        Exec RouteAnswers (workerSettlements slaId limitQuery before) db tr
          (.ok (.page data next)) db' →
        ∃ limit, parseLimit limitQuery = .ok limit ∧
          List.Forall₂ (fun r e => ∃ s roundId, SettledAs es r s roundId ∧
              ∀ endpointHash, Created es s endpointHash →
                e.votes = roundTallies es.events ⟨s, roundId, endpointHash⟩)
            (db.settlementsPage slaId before limit) data := by
  intro hall
  obtain ⟨limit, -, hpage⟩ := hall (twoVotes [2]) (twoVotesDb [2]) (by decide)
    (distinctKeys_twoVotes _) (holds_twoVotesDb _).ingested _ _ _ _ _ _ _ (exec_twoVotes [2])
  obtain ⟨r, _, ⟨s, roundId, ⟨header, payout, beneficiary, hmem, -⟩, htally⟩, -, -⟩ :=
    List.forall₂_cons_right_iff.mp hpage
  have hround : s = 1 ∧ roundId = 5 := by
    simp only [twoVotes, List.mem_cons, Prod.mk.injEq, reduceCtorEq, and_false, false_or,
      OnChainEvent.settlementPaid.injEq, List.not_mem_nil, or_false] at hmem
    exact ⟨hmem.2.1, hmem.2.2.1⟩
  obtain ⟨rfl, rfl⟩ := hround
  have hcreated : Created (twoVotes [2]) 1 [1] := ⟨_, List.mem_cons_self, rfl⟩
  have hdown := congrArg VoteCounts.votesDown (htally [1] hcreated)
  have hzero : (roundTallies (twoVotes [2]).events ⟨1, 5, [1]⟩).votesDown = 0 := by decide
  exact absurd (hdown.trans hzero) (by decide)

/-- With both votes under the commitment, the tally is served. -/
theorem served_tallies_two_votes :
    ∃ limit, parseLimit none = .ok limit ∧
      List.Forall₂ (fun r e => ∃ s roundId, toString s = "1" ∧
          SettledAs (twoVotes [1]) r s roundId ∧ e.roundId = .ofText (toString roundId) ∧
          ∀ endpointHash, Created (twoVotes [1]) s endpointHash →
            (e.votes = roundTallies (twoVotes [1]).events ⟨s, roundId, endpointHash⟩ ↔
              OneCommitment (twoVotes [1]).events s roundId endpointHash))
        ((twoVotesDb [1]).settlementsPage "1" none limit)
        [settlementEntry settledRow ((twoVotesDb [1]).getVoteCounts "1" "5")] :=
  served_tallies (holds_twoVotesDb _).ingested (.inl (exec_twoVotes [1]))

end Indexer

end SlaSettle
