import SlaSettle.Indexer.Tally

/-!
# Live reads of a threshold

When a settlements page has a row without a `quorum_threshold`, the handlers read it live from the
contract. `exec_fillThresholdsWorker` says what the Worker then serves, by the first live read: the
threshold it returned in every row without one, or, if it failed, a row that still has none.

Ingestion stores every settlement without a threshold, whatever the `sla_created` event of its SLA
carried. `live_read_free_iff` draws the consequence: a response does not depend on the live read
exactly when every row of its page already carries the threshold, and after ingestion alone no row
does.
-/

namespace SlaSettle

namespace Indexer

open Js Effect Program Store

/-! ### The first live read -/

/-- What the first live read of a request came to, if there was one. -/
def firstRead : List (Event routeInterface) → Option (Except Thrown JsNumber)
  | [] => none
  | ⟨.fetchQuorumThreshold _, answer⟩ :: _ => some answer
  | ⟨.selectSettlements _ _ _, _⟩ :: tr | ⟨.setSlaQuorumThreshold _ _, _⟩ :: tr
  | ⟨.getVoteCounts _ _, _⟩ :: tr => firstRead tr

theorem firstRead_append (tr tr' : List (Event routeInterface)) :
    firstRead (tr ++ tr') = (firstRead tr).or (firstRead tr') := by
  induction tr with
  | nil => rfl
  | cons e tr ih =>
    obtain ⟨c, answer⟩ := e
    cases c with
    | fetchQuorumThreshold => rfl
    | selectSettlements | setSlaQuorumThreshold | getVoteCounts => exact ih

/-- Something was read only if there is a call for it. -/
theorem mem_of_firstRead {tr : List (Event routeInterface)} {answer : Except Thrown JsNumber}
    (h : firstRead tr = some answer) :
    ∃ slaId, (⟨.fetchQuorumThreshold slaId, answer⟩ : Event routeInterface) ∈ tr := by
  induction tr with
  | nil => cases h
  | cons e tr ih =>
    obtain ⟨c, r⟩ := e
    cases c with
    | fetchQuorumThreshold slaId =>
      obtain rfl := Option.some.inj h
      exact ⟨slaId, List.mem_cons_self⟩
    | selectSettlements | setSlaQuorumThreshold | getVoteCounts =>
      obtain ⟨slaId, hmem⟩ := ih h
      exact ⟨slaId, List.mem_cons_of_mem _ hmem⟩

/-- The row with a threshold filled in, if it has none. -/
def SettlementRow.fillWith (threshold : JsNumber) (r : SettlementRow) : SettlementRow :=
  { r with quorumThreshold := some (r.quorumThreshold.getD threshold) }

theorem SettlementRow.fillWith_of_none {threshold : JsNumber} {r : SettlementRow}
    (h : r.quorumThreshold = none) :
    r.fillWith threshold = { r with quorumThreshold := some threshold } := by
  rw [fillWith, h, Option.getD_none]

theorem SettlementRow.fillWith_of_ne_none {threshold : JsNumber} {r : SettlementRow}
    (h : r.quorumThreshold ≠ none) : r.fillWith threshold = r := by
  obtain ⟨t, ht⟩ := Option.ne_none_iff_exists'.mp h
  rw [fillWith, ht, Option.getD_some, ← ht]

section

variable {db db' : Db} {tr : List (Event routeInterface)} {slaId : String}
  {rows rows' : List SettlementRow}

/-- With a threshold at hand, it is filled in and nothing is read. -/
theorem fillThresholdsWorker_of_cached (threshold : JsNumber) (rows : List SettlementRow) :
    fillThresholdsWorker slaId (some threshold) rows =
      pure (rows.map (SettlementRow.fillWith threshold)) := by
  induction rows with
  | nil => rfl
  | cons row rows ih =>
    rw [fillThresholdsWorker]
    by_cases hnone : row.quorumThreshold = none
    · rw [if_pos hnone, List.map_cons, SettlementRow.fillWith_of_none hnone]
      change (fillThresholdsWorker slaId (some threshold) rows >>= _ : Route _) = _
      rw [ih]
      rfl
    · rw [if_neg hnone, List.map_cons, SettlementRow.fillWith_of_ne_none hnone, ih]
      rfl

theorem fillThresholdsNode_of_cached (threshold : JsNumber) (rows : List SettlementRow) :
    fillThresholdsNode slaId (some threshold) rows =
      pure (rows.map (SettlementRow.fillWith threshold)) := by
  induction rows with
  | nil => rfl
  | cons row rows ih =>
    rw [fillThresholdsNode]
    by_cases hnone : row.quorumThreshold = none
    · rw [if_pos hnone, List.map_cons, SettlementRow.fillWith_of_none hnone]
      change (fillThresholdsNode slaId (some threshold) rows >>= _ : Route _) = _
      rw [ih]
      rfl
    · rw [if_neg hnone, List.map_cons, SettlementRow.fillWith_of_ne_none hnone, ih]
      rfl

/-- The Worker's live read. What it returns is cached as soon as the read succeeds, also when
storing it fails. -/
private theorem exec_cachedThresholdWorker {cached : Option JsNumber}
    (h : Exec RouteAnswers (cachedThresholdWorker slaId none) db tr (.ok cached) db') :
    (∃ threshold, cached = some threshold ∧ firstRead tr = some (.ok threshold)) ∨
      cached = none ∧ ∃ e, firstRead tr = some (.error e) := by
  obtain ⟨answer, db₁, tr₁, here, rest, rfl⟩ := exec_observe_bind_iff.mp h
  cases answer with
  | error e =>
    obtain ⟨rfl, ⟨⟩, -⟩ := exec_return_iff.mp rest
    exact .inr ⟨rfl, e, rfl⟩
  | ok threshold =>
    obtain ⟨stored, db₂, tr₂, hstored, hreturn, rfl⟩ := exec_observe_bind_iff.mp rest
    obtain ⟨rfl, ⟨⟩, -⟩ := exec_return_iff.mp hreturn
    exact .inl ⟨threshold, rfl, rfl⟩

/-- **What the Worker fills in.** The rows need nothing; or the first live read succeeds, and its
threshold goes into every row without one; or it fails, and its row is left without. -/
theorem exec_fillThresholdsWorker
    (h : Exec RouteAnswers (fillThresholdsWorker slaId none rows) db tr (.ok rows') db') :
    (rows' = rows ∧ (∀ r ∈ rows, r.quorumThreshold ≠ none) ∧ firstRead tr = none) ∨
      (∃ threshold, firstRead tr = some (.ok threshold) ∧
        rows' = rows.map (SettlementRow.fillWith threshold)) ∨
      (∃ e, firstRead tr = some (.error e)) ∧ (∃ r ∈ rows, r.quorumThreshold = none) ∧
        ∃ r ∈ rows', r.quorumThreshold = none := by
  induction rows generalizing db tr rows' with
  | nil =>
    obtain ⟨rfl, ⟨⟩, -⟩ := exec_return_iff.mp h
    exact .inl ⟨rfl, by simp, rfl⟩
  | cons row rows ih =>
    rw [fillThresholdsWorker] at h
    split at h
    · rename_i hnone
      obtain ⟨tr₁, cached, db₁, tr₂, hcached, rest, rfl⟩ := exec_bind_ok_iff.mp h
      obtain ⟨tr₃, done, db₂, tr₄, hrest, hreturn, rfl⟩ := exec_bind_ok_iff.mp rest
      obtain ⟨rfl, ⟨⟩, rfl⟩ := exec_return_iff.mp hreturn
      rw [List.append_nil, firstRead_append]
      rcases exec_cachedThresholdWorker hcached with ⟨threshold, rfl, hread⟩ | ⟨rfl, e, hread⟩
      · rw [fillThresholdsWorker_of_cached] at hrest
        obtain ⟨-, ⟨⟩, -⟩ := exec_return_iff.mp hrest
        refine .inr (.inl ⟨threshold, by rw [hread, Option.some_or], ?_⟩)
        rw [List.map_cons, SettlementRow.fillWith_of_none hnone]
      · exact .inr (.inr ⟨⟨e, by rw [hread, Option.some_or]⟩, ⟨row, List.mem_cons_self, hnone⟩, _,
          List.mem_cons_self, rfl⟩)
    · rename_i hsome
      obtain ⟨tr₁, done, db₁, tr₂, hrest, hreturn, rfl⟩ := exec_bind_ok_iff.mp h
      obtain ⟨rfl, ⟨⟩, rfl⟩ := exec_return_iff.mp hreturn
      rw [List.append_nil]
      rcases ih hrest with
        ⟨rfl, hfull, hread⟩ | ⟨threshold, hread, rfl⟩ | ⟨hread, ⟨r, hr, hnone⟩, r', hr', hnone'⟩
      · exact .inl ⟨rfl, List.forall_mem_cons.mpr ⟨hsome, hfull⟩, hread⟩
      · refine .inr (.inl ⟨threshold, hread, ?_⟩)
        rw [List.map_cons, SettlementRow.fillWith_of_ne_none hsome]
      · exact .inr (.inr ⟨hread, ⟨r, List.mem_cons_of_mem _ hr, hnone⟩, r',
          List.mem_cons_of_mem _ hr', hnone'⟩)

/-- Serving rows reads nothing live. -/
theorem firstRead_serveRows {data : List SettlementEntry}
    (h : Exec RouteAnswers (serveRows rows) db tr (.ok data) db') : firstRead tr = none := by
  refine Option.eq_none_iff_forall_ne_some.mpr fun answer hread => ?_
  obtain ⟨slaId, hmem⟩ := mem_of_firstRead hread
  exact ((okObeys_serveRows rows).exec h).1 _ hmem

/-- **What a Worker page holds.** The rows of its page, with their thresholds as the first live read
leaves them, each with the counts of its round. -/
theorem exec_workerSettlements {limitQuery : Option String}
    {before next : Option SettlementsCursor} {data : List SettlementEntry}
    (h : Exec RouteAnswers (workerSettlements slaId limitQuery before) db tr
      (.ok (.page data next)) db') :
    ∃ limit filled, parseLimit limitQuery = .ok limit ∧
      data = filled.map (fun r => settlementEntry r (db.getVoteCounts r.slaId r.roundId)) ∧
      ((filled = db.settlementsPage slaId before limit ∧
          (∀ r ∈ db.settlementsPage slaId before limit, r.quorumThreshold ≠ none) ∧
          firstRead tr = none) ∨
        (∃ threshold, firstRead tr = some (.ok threshold) ∧
          filled = (db.settlementsPage slaId before limit).map (SettlementRow.fillWith threshold)) ∨
        (∃ e, firstRead tr = some (.error e)) ∧
          (∃ r ∈ db.settlementsPage slaId before limit, r.quorumThreshold = none) ∧
          ∃ r ∈ filled, r.quorumThreshold = none) := by
  obtain ⟨limit, filled, tr₁, db₁, tr₂, hlimit, hfill, hserve, rfl, -⟩ :=
    exec_settlementsWith_page h
  refine ⟨limit, filled, hlimit, ?_, ?_⟩
  · rw [exec_serveRows hserve]
    refine List.map_congr_left fun r _ => ?_
    rw [(sameVotes_of_exec hfill).getVoteCounts]
  · have hread : firstRead (⟨.selectSettlements slaId before (limit + 1),
        .ok (db.selectSettlements slaId before (limit + 1))⟩ :: (tr₁ ++ tr₂)) = firstRead tr₁ := by
      rw [firstRead, firstRead_append, firstRead_serveRows hserve, Option.or_none]
    rw [hread]
    exact exec_fillThresholdsWorker hfill

/-! ### Responses that do not depend on the live read -/

/-- A world in which the database answers and the live read may return anything or fail. -/
inductive RpcAnswers : Db → (c : RouteCall) → Except Thrown c.Returns → Db → Prop
  | selectSettlements {db : Db} {slaId : String} {before : Option SettlementsCursor} {limit : ℕ} :
      RpcAnswers db (.selectSettlements slaId before limit)
        (.ok (db.selectSettlements slaId before limit)) db
  | fetchQuorumThreshold {db : Db} {slaId : String} {answer : Except Thrown JsNumber} :
      RpcAnswers db (.fetchQuorumThreshold slaId) answer db
  | setSlaQuorumThreshold {db : Db} {slaId : String} {threshold : JsNumber} :
      RpcAnswers db (.setSlaQuorumThreshold slaId threshold) (.ok ())
        (db.setSlaQuorumThreshold slaId threshold)
  | getVoteCounts {db : Db} {slaId roundId : String} :
      RpcAnswers db (.getVoteCounts slaId roundId) (.ok (db.getVoteCounts slaId roundId)) db

theorem RpcAnswers.routeAnswers {db db' : Db} {c : RouteCall} {answer : Except Thrown c.Returns}
    (h : RpcAnswers db c answer db') : RouteAnswers db c answer db' := by
  cases h with
  | selectSettlements => exact .selectSettlements rfl
  | @fetchQuorumThreshold s read =>
    cases read with
    | error e => exact .throws
    | ok threshold => exact .fetchQuorumThreshold
  | setSlaQuorumThreshold => exact .setSlaQuorumThreshold
  | getVoteCounts => exact .getVoteCounts

/-- The world in which every live read fails. -/
inductive RpcDown : Db → (c : RouteCall) → Except Thrown c.Returns → Db → Prop
  | mk {db db' : Db} {c : RouteCall} {answer : Except Thrown c.Returns}
      (here : RpcAnswers db c answer db')
      (fails : ∀ slaId, c = .fetchQuorumThreshold slaId → ∃ e, answer = .error e) :
      RpcDown db c answer db'

theorem RpcDown.answers {db db' : Db} {c : RouteCall} {answer : Except Thrown c.Returns}
    (h : RpcDown db c answer db') : RpcAnswers db c answer db' := by
  cases h with
  | mk here _ => exact here

theorem rpcDown_serial (db : Db) (c : RouteCall) :
    ∃ answer db', RpcDown db c answer db' := by
  cases c with
  | selectSettlements => exact ⟨_, _, .mk .selectSettlements nofun⟩
  | fetchQuorumThreshold => exact ⟨.error .other, _, .mk .fetchQuorumThreshold fun _ _ => ⟨_, rfl⟩⟩
  | setSlaQuorumThreshold => exact ⟨_, _, .mk .setSlaQuorumThreshold nofun⟩
  | getVoteCounts => exact ⟨_, _, .mk .getVoteCounts nofun⟩

/-- No live read succeeds while they all fail. -/
private theorem firstRead_rpcDown {α : Type} {p : Route α} {r : Except Thrown α}
    (h : Exec RpcDown p db tr r db') (threshold : JsNumber) :
    firstRead tr ≠ some (.ok threshold) := by
  intro hread
  obtain ⟨s, hmem⟩ := mem_of_firstRead hread
  obtain ⟨t, t', -, fails⟩ := h.answered _ hmem
  obtain ⟨e, he⟩ := fails s rfl
  cases he

/-- Rows that all have a threshold are handed on as they are. -/
theorem fillThresholdsWorker_of_full {cached : Option JsNumber}
    (h : ∀ r ∈ rows, r.quorumThreshold ≠ none) :
    fillThresholdsWorker slaId cached rows = pure rows := by
  induction rows with
  | nil => rfl
  | cons row rows ih =>
    obtain ⟨hrow, hrows⟩ := List.forall_mem_cons.mp h
    rw [fillThresholdsWorker, if_neg hrow, ih hrows]
    rfl

theorem fillThresholdsNode_of_full {cached : Option JsNumber}
    (h : ∀ r ∈ rows, r.quorumThreshold ≠ none) :
    fillThresholdsNode slaId cached rows = pure rows := by
  induction rows with
  | nil => rfl
  | cons row rows ih =>
    obtain ⟨hrow, hrows⟩ := List.forall_mem_cons.mp h
    rw [fillThresholdsNode, if_neg hrow, ih hrows]
    rfl

/-- While the database answers, rows are served. -/
private theorem serveRows_answers {r : Except Thrown (List SettlementEntry)}
    (h : Exec RpcAnswers (serveRows rows) db tr r db') :
    r = .ok (rows.map fun r => settlementEntry r (db.getVoteCounts r.slaId r.roundId)) := by
  induction rows generalizing tr r db db' with
  | nil =>
    obtain ⟨-, rfl, -⟩ := exec_return_iff.mp h
    rfl
  | cons row rows ih =>
    rw [serveRows] at h
    rcases exec_ask_bind_iff.mp h with ⟨e, here, -, -⟩ | ⟨votes, db₁, tr₁, here, rest, -⟩
    · cases here
    · cases here
      rcases exec_throwing_bind_iff.mp rest with
        ⟨e, hfails, -⟩ | ⟨tr₂, done, db₂, tr₃, hrest, hreturn, -⟩
      · cases ih hfails
      · obtain ⟨-, rfl, -⟩ := exec_return_iff.mp hreturn
        have hdone := Except.ok.inj (ih hrest)
        rw [List.map_cons, hdone]

/-- Rows as they are served. -/
def Db.entries (db : Db) (rows : List SettlementRow) : List SettlementEntry :=
  rows.map fun r => settlementEntry r (db.getVoteCounts r.slaId r.roundId)

/-- The cursor behind a page: that of its last row, if more rows follow. -/
def Db.nextCursor (db : Db) (slaId : String) (before : Option SettlementsCursor) (limit : ℕ) :
    Option SettlementsCursor :=
  if limit < (db.selectSettlements slaId before (limit + 1)).length then
    (db.settlementsPage slaId before limit).getLast?.map SettlementRow.cursor else none

/-- With all thresholds at hand there is one response, whatever the live read would return. -/
private theorem response_of_full
    {fill : Option JsNumber → List SettlementRow → Route (List SettlementRow)}
    {limitQuery : Option String} {before : Option SettlementsCursor} {limit : ℕ}
    (hlimit : parseLimit limitQuery = .ok limit)
    (hfill : fill none (db.settlementsPage slaId before limit) =
      pure (db.settlementsPage slaId before limit))
    {r : Except Thrown SettlementsResponse}
    (h : Exec RpcAnswers (settlementsWith fill slaId limitQuery before) db tr r db') :
    r = .ok (.page (db.entries (db.settlementsPage slaId before limit))
      (db.nextCursor slaId before limit)) := by
  unfold settlementsWith at h
  rw [hlimit] at h
  rcases exec_ask_bind_iff.mp h with ⟨e, here, -, -⟩ | ⟨selected, db₁, tr₁, here, rest, -⟩
  · cases here
  · cases here
    have hfill' : fill none ((db.selectSettlements slaId before (limit + 1)).take limit) =
        pure (db.settlementsPage slaId before limit) := hfill
    rcases exec_throwing_bind_iff.mp rest with
      ⟨e, hfails, -⟩ | ⟨tr₂, filled, db₂, tr₃, hfilled, rest₂, -⟩
    · rw [take_of_hasMore, hfill'] at hfails
      obtain ⟨-, herror, -⟩ := exec_return_iff.mp hfails
      cases herror
    · rw [take_of_hasMore, hfill'] at hfilled
      obtain ⟨-, hrows, rfl⟩ := exec_return_iff.mp hfilled
      obtain rfl := Except.ok.inj hrows
      rcases exec_throwing_bind_iff.mp rest₂ with
        ⟨e, hfails, -⟩ | ⟨tr₄, data, db₄, tr₅, hserve, hreturn, -⟩
      · cases serveRows_answers hfails
      · obtain ⟨-, rfl, -⟩ := exec_return_iff.mp hreturn
        have hdata := Except.ok.inj (serveRows_answers hserve)
        simp only [Db.nextCursor, Db.entries, decide_eq_true_eq, hdata]

/-- The SLA was created with the threshold. -/
def CreatedWith (es : Emitted) (slaId : String) (threshold : JsNumber) : Prop :=
  ∃ header s provider token endpointHash bondAmount uptimeTargetBps quorumThreshold penaltyPerBreach
    beneficiary, (header, OnChainEvent.slaCreated s provider token endpointHash bondAmount
      uptimeTargetBps quorumThreshold penaltyPerBreach beneficiary) ∈ es ∧
      toString s = slaId ∧ (quorumThreshold : JsNumber) = threshold

/-- **No live read is needed.** Both handlers give one response whatever the live read would return,
and serve each row with the threshold its SLA was created with. -/
def LiveReadFree (es : Emitted) (db : Db) (slaId : String) (limitQuery : Option String)
    (before : Option SettlementsCursor) : Prop :=
  ∃ data next,
    (∀ e ∈ data, ∃ threshold, CreatedWith es slaId threshold ∧ e.quorumThreshold = some threshold) ∧
    ∀ tr r db', (Exec RpcAnswers (workerSettlements slaId limitQuery before) db tr r db' ∨
      Exec RpcAnswers (nodeSettlements slaId limitQuery before) db tr r db') →
      r = .ok (.page data next)

/-- Ingestion stores every settlement without a threshold. -/
theorem Db.Holds.quorumThreshold_eq_none {es : Emitted} (h : db.Holds es.rows) {r : SettlementRow}
    (hr : r ∈ db.settlements.rows) : r.quorumThreshold = none := by
  rw [h.settlements] at hr
  obtain ⟨stored, hstored, rfl⟩ := List.mem_map.mp hr
  obtain ⟨row, hrow, hsettlement⟩ := List.mem_filterMap.mp hstored
  rw [ContractEvent.settlement?_eq_some] at hsettlement
  subst hsettlement
  obtain ⟨⟨header, e⟩, -, hrow⟩ := List.mem_map.mp hrow
  cases e with
  | settlementPaid slaId roundId payout beneficiary =>
    cases hrow
    rfl
  | _ => cases hrow

/-- A response does not depend on the live read exactly when its rows carry their thresholds. -/
theorem liveReadFree_iff {es : Emitted} {limitQuery : Option String}
    {before : Option SettlementsCursor} {limit : ℕ} (hlimit : parseLimit limitQuery = .ok limit) :
    LiveReadFree es db slaId limitQuery before ↔
      ∀ r ∈ db.settlementsPage slaId before limit,
        ∃ threshold, CreatedWith es slaId threshold ∧ r.quorumThreshold = some threshold := by
  constructor
  · rintro ⟨data, next, hserved, hresponse⟩ r hr
    -- with the RPC down, what is served can only come from the rows
    obtain ⟨tr₁, answer, db₁, hdown⟩ :=
      exists_exec rpcDown_serial (workerSettlements slaId limitQuery before) db
    have hanswers := hdown.mono fun _ _ _ _ here => here.answers
    obtain rfl := hresponse _ _ _ (.inl hanswers)
    obtain ⟨limit', filled, hlimit', hdata, hfilled⟩ :=
      exec_workerSettlements (hanswers.mono fun _ _ _ _ here => here.routeAnswers)
    obtain rfl := Except.ok.inj (hlimit'.symm.trans hlimit)
    have hsome : ∀ r ∈ filled, ∃ threshold, CreatedWith es slaId threshold ∧
        r.quorumThreshold = some threshold := by
      intro r hr
      refine hserved (settlementEntry r (db.getVoteCounts r.slaId r.roundId)) ?_
      rw [hdata]
      exact List.mem_map_of_mem hr
    rcases hfilled with ⟨rfl, -, -⟩ | ⟨threshold, hread, -⟩ | ⟨-, -, r', hr', hnone⟩
    · exact hsome r hr
    · exact absurd hread (firstRead_rpcDown hdown threshold)
    · obtain ⟨threshold, -, hthreshold⟩ := hsome r' hr'
      rw [hnone] at hthreshold
      cases hthreshold
  · intro hcarried
    have hfull : ∀ r ∈ db.settlementsPage slaId before limit, r.quorumThreshold ≠ none := by
      intro r hr
      obtain ⟨threshold, -, hthreshold⟩ := hcarried r hr
      rw [hthreshold]
      exact Option.some_ne_none _
    refine ⟨db.entries (db.settlementsPage slaId before limit), db.nextCursor slaId before limit,
      fun e he => ?_, fun tr r db' h => ?_⟩
    · obtain ⟨r, hr, rfl⟩ := List.mem_map.mp he
      exact hcarried r hr
    · rcases h with h | h
      · exact response_of_full hlimit (fillThresholdsWorker_of_full hfull) h
      · exact response_of_full hlimit (fillThresholdsNode_of_full hfull) h

/-- **When no live read is needed:** exactly when every row of the page already carries the
threshold its SLA was created with. Ingestion stores none, so right after it the page must be
empty. -/
theorem live_read_free_iff (es : Emitted) (db : Db) (slaId : String) (limitQuery : Option String)
    (before : Option SettlementsCursor) (limit : ℕ) (hlimit : parseLimit limitQuery = .ok limit) :
    (LiveReadFree es db slaId limitQuery before ↔
      ∀ r ∈ db.settlementsPage slaId before limit,
        ∃ threshold, CreatedWith es slaId threshold ∧ r.quorumThreshold = some threshold) ∧
    (db.Holds es.rows →
      (LiveReadFree es db slaId limitQuery before ↔
        db.settlementsPage slaId before limit = [])) := by
  refine ⟨liveReadFree_iff hlimit, fun hdb => (liveReadFree_iff hlimit).trans ⟨?_, ?_⟩⟩
  · intro hcarried
    refine List.eq_nil_iff_forall_not_mem.mpr fun r hr => ?_
    obtain ⟨threshold, -, hthreshold⟩ := hcarried r hr
    rw [hdb.quorumThreshold_eq_none (Db.mem_settlementsPage hr).1] at hthreshold
    cases hthreshold
  · intro hempty
    rw [hempty]
    simp

end

/-! ### A settled SLA -/

private theorem page_twoVotesDb :
    (twoVotesDb [1]).settlementsPage "1" none 20 = [settledRow] := by
  have hrows : (twoVotesDb [1]).settlements.rows = [settledRow] :=
    (holds_twoVotesDb [1]).settlements
  simp [Db.settlementsPage, Db.selectSettlements, hrows, settledRow]

/-- An SLA that was created with a threshold and settled is not served without a live read. -/
theorem live_read_needed :
    ¬ ∀ (es : Emitted) (db : Db), DistinctKeys es.rows → db.Holds es.rows →
      (∀ header s roundId payout beneficiary,
        (header, OnChainEvent.settlementPaid s roundId payout beneficiary) ∈ es →
          ∃ threshold, CreatedWith es (toString s) threshold) →
      ∀ slaId limitQuery before limit, parseLimit limitQuery = .ok limit →
        LiveReadFree es db slaId limitQuery before := by
  intro hall
  have hcreated : CreatedWith (twoVotes [1]) "1" 1 :=
    ⟨_, _, _, _, _, _, _, _, _, _, List.mem_cons_self, rfl, rfl⟩
  have hlimit : parseLimit none = .ok 20 := rfl
  have hfree := hall (twoVotes [1]) (twoVotesDb [1]) (distinctKeys_twoVotes _) (holds_twoVotesDb _)
    (fun header s roundId payout beneficiary hmem => ?_) "1" none none 20 hlimit
  · obtain ⟨threshold, -, hthreshold⟩ := (liveReadFree_iff hlimit).mp hfree settledRow
      (by rw [page_twoVotesDb]; exact List.mem_cons_self)
    cases hthreshold
  · have hs : s = 1 := by
      simp only [twoVotes, List.mem_cons, Prod.mk.injEq, reduceCtorEq, and_false, false_or,
        OnChainEvent.settlementPaid.injEq, List.not_mem_nil, or_false] at hmem
      exact hmem.2.1
    subst hs
    exact ⟨1, hcreated⟩

/-- Right after ingestion, the page of the settled SLA is not empty. -/
theorem live_read_free_two_votes :
    (LiveReadFree (twoVotes [1]) (twoVotesDb [1]) "1" none none ↔
      ∀ r ∈ (twoVotesDb [1]).settlementsPage "1" none 20,
        ∃ threshold, CreatedWith (twoVotes [1]) "1" threshold ∧
          r.quorumThreshold = some threshold) ∧
    ((twoVotesDb [1]).Holds (twoVotes [1]).rows →
      (LiveReadFree (twoVotes [1]) (twoVotesDb [1]) "1" none none ↔
        (twoVotesDb [1]).settlementsPage "1" none 20 = [])) :=
  live_read_free_iff _ _ _ _ _ 20 rfl

end Indexer

end SlaSettle
