import SlaSettle.Effect.Throwing
import SlaSettle.Indexer.Db

/-!
# The settlements endpoint

`GET /v1/slas/:slaId/settlements`, as the Worker and the Node API serve it: one page of an SLA's
settlement rows, newest first, each with the vote counts of its round. The two handlers run the same
statements; they differ in what happens when the live read of a missing `quorum_threshold` fails,
which the Worker logs and the Node route passes on.

The `before` cursor is taken decoded, and `next_cursor` given before it is encoded.
`exec_settlementsWith` describes a successful response of either: its entries are the rows of the
page, in order, with the counts the database holds for them.
-/

namespace SlaSettle

namespace Indexer

open Js Effect Program Store

/-! ### Statements -/

/-- The place of a row in the pagination order. -/
structure SettlementsCursor where
  ledgerCloseTime : String
  eventId : String
  deriving DecidableEq

/-- `(ledger_close_time, event_id) < (?, ?)`. -/
def SettlementRow.isBefore (r : SettlementRow) (c : SettlementsCursor) : Bool :=
  r.ledgerCloseTime < c.ledgerCloseTime ||
    (r.ledgerCloseTime = c.ledgerCloseTime && r.eventId < c.eventId)

/-- The cursor of a row. -/
def SettlementRow.cursor (r : SettlementRow) : SettlementsCursor :=
  ⟨r.ledgerCloseTime, r.eventId⟩

/-- `SELECT * FROM settlements WHERE sla_id = ? [AND …] ORDER BY ledger_close_time DESC,
event_id DESC LIMIT ?`. -/
def Db.selectSettlements (db : Db) (slaId : String) (before : Option SettlementsCursor)
    (limit : ℕ) : List SettlementRow :=
  let rows := db.settlements.rows.filter fun r => r.slaId = slaId && before.all r.isBefore
  (rows.mergeSort fun r r' => !r.isBefore r'.cursor).take limit

structure VoteCounts where
  votesUp : ℕ
  votesDown : ℕ
  deriving DecidableEq

/-- `getVoteCounts`: the checks of a round with each status. -/
def Db.getVoteCounts (db : Db) (slaId roundId : String) : VoteCounts where
  votesUp := db.checks.rows.countP fun c => c.slaId = slaId && c.roundId = roundId && c.status = .up
  votesDown :=
    db.checks.rows.countP fun c => c.slaId = slaId && c.roundId = roundId && c.status = .down

/-! ### Calls -/

/-- The calls of the handlers. -/
inductive RouteCall where
  | selectSettlements (slaId : String) (before : Option SettlementsCursor) (limit : ℕ)
  | fetchQuorumThreshold (slaId : String)
  | setSlaQuorumThreshold (slaId : String) (threshold : JsNumber)
  | getVoteCounts (slaId roundId : String)

/-- What a call returns when it does not throw. -/
def RouteCall.Returns : RouteCall → Type
  | selectSettlements _ _ _ => List SettlementRow
  | fetchQuorumThreshold _ => JsNumber
  | setSlaQuorumThreshold _ _ => Unit
  | getVoteCounts _ _ => VoteCounts

abbrev routeInterface : Interface := throwing Thrown RouteCall.Returns

/-- A request handler: it calls out, and may throw. -/
abbrev Route (α : Type) : Type := Throwing Thrown RouteCall.Returns α

/-- Await one call of a handler. -/
abbrev RouteCall.await (c : RouteCall) : Route c.Returns := ask c

/-- Await one call and keep its error, as `catch` does. -/
abbrev RouteCall.caught (c : RouteCall) : Route (Except Thrown c.Returns) :=
  observe (I := routeInterface) c

/-- The world of a handler: the database, and a live read that may return anything. -/
inductive RouteAnswers : Db → (c : RouteCall) → Except Thrown c.Returns → Db → Prop
  | throws {db : Db} {c : RouteCall} {e : Thrown} : RouteAnswers db c (.error e) db
  | selectSettlements {db : Db} {slaId : String} {before : Option SettlementsCursor} {limit : ℕ}
      {rows : List SettlementRow} (selected : db.selectSettlements slaId before limit = rows) :
      RouteAnswers db (.selectSettlements slaId before limit) (.ok rows) db
  | fetchQuorumThreshold {db : Db} {slaId : String} {threshold : JsNumber} :
      RouteAnswers db (.fetchQuorumThreshold slaId) (.ok threshold) db
  | setSlaQuorumThreshold {db : Db} {slaId : String} {threshold : JsNumber} :
      RouteAnswers db (.setSlaQuorumThreshold slaId threshold) (.ok ())
        (db.setSlaQuorumThreshold slaId threshold)
  | getVoteCounts {db : Db} {slaId roundId : String} :
      RouteAnswers db (.getVoteCounts slaId roundId) (.ok (db.getVoteCounts slaId roundId)) db

/-! ### The handlers -/

/-- One entry of the response's `data`. -/
structure SettlementEntry where
  roundId : JsNumber
  votesUp : ℕ
  votesDown : ℕ
  quorumThreshold : Option JsNumber
  penaltyAmount : String
  beneficiary : String
  txHash : String
  ledgerCloseTime : String
  explorerUrl : String
  deriving DecidableEq

/-- The responses: a `400` with its error, or a `200` with a page. -/
inductive SettlementsResponse where
  | badRequest (error message : String)
  | page (data : List SettlementEntry) (nextCursor : Option SettlementsCursor)
  deriving DecidableEq

/-- The `limit` of the query, or the error and message it is rejected with. Absent, empty, zero and
non-numeric values fall back to 20, and anything above 100 is capped. What is left is an integer
from 1 to 100. -/
def parseLimit (limitQuery : Option String) : Except (String × String) ℕ :=
  let requestedLimit : JsNumber := match limitQuery with
    | some text => .ofText text
    | none => 20
  if requestedLimit.lt 0 then .error ("invalid_limit", "limit must not be negative")
  else if requestedLimit.isFinite && !requestedLimit.isInteger then
    .error ("invalid_limit", "limit must be an integer")
  else
    match JsNumber.min (if requestedLimit.truthy then requestedLimit else 20) 100 with
    | .finite q => .ok q.num.toNat
    | _ => .ok 100

/-- The entry a row is served as. -/
def settlementEntry (r : SettlementRow) (votes : VoteCounts) : SettlementEntry where
  roundId := .ofText r.roundId
  votesUp := votes.votesUp
  votesDown := votes.votesDown
  quorumThreshold := r.quorumThreshold
  penaltyAmount := r.penaltyAmount
  beneficiary := r.beneficiary
  txHash := r.txHash
  ledgerCloseTime := r.ledgerCloseTime
  explorerUrl := "https://stellar.expert/explorer/testnet/tx/" ++ r.txHash

theorem roundId_settlementEntry (r : SettlementRow) (votes : VoteCounts) :
    (settlementEntry r votes).roundId = .ofText r.roundId := rfl

/-- The cached threshold, or the Worker's live read: it is cached as soon as it succeeds, and any
error is logged. -/
def cachedThresholdWorker (slaId : String) : Option JsNumber → Route (Option JsNumber)
  | some threshold => return some threshold
  | none => do
    match ← (RouteCall.fetchQuorumThreshold slaId).caught with
    | .error _ => return none
    | .ok threshold =>
      let _ ← (RouteCall.setSlaQuorumThreshold slaId threshold).caught
      return some threshold

/-- The Worker's loop over the rows with no threshold. -/
def fillThresholdsWorker (slaId : String) :
    Option JsNumber → List SettlementRow → Route (List SettlementRow)
  | _, [] => return []
  | cachedThreshold, row :: rows => do
    if row.quorumThreshold = none then
      let cachedThreshold ← cachedThresholdWorker slaId cachedThreshold
      let rest ← fillThresholdsWorker slaId cachedThreshold rows
      return { row with quorumThreshold := cachedThreshold } :: rest
    else
      return row :: (← fillThresholdsWorker slaId cachedThreshold rows)

/-- The cached threshold, or the Node route's live read: an error ends the request. -/
def cachedThresholdNode (slaId : String) : Option JsNumber → Route JsNumber
  | some threshold => return threshold
  | none => do
    let threshold ← (RouteCall.fetchQuorumThreshold slaId).await
    (RouteCall.setSlaQuorumThreshold slaId threshold).await
    return threshold

/-- The Node route's loop over the rows with no threshold. -/
def fillThresholdsNode (slaId : String) :
    Option JsNumber → List SettlementRow → Route (List SettlementRow)
  | _, [] => return []
  | cachedThreshold, row :: rows => do
    if row.quorumThreshold = none then
      let threshold ← cachedThresholdNode slaId cachedThreshold
      let rest ← fillThresholdsNode slaId (some threshold) rows
      return { row with quorumThreshold := some threshold } :: rest
    else
      return row :: (← fillThresholdsNode slaId cachedThreshold rows)

/-- Serve each row with its vote counts. -/
def serveRows : List SettlementRow → Route (List SettlementEntry)
  | [] => return []
  | r :: rows => do
    let votes ← (RouteCall.getVoteCounts r.slaId r.roundId).await
    return settlementEntry r votes :: (← serveRows rows)

/-- The handler, with the loop that fills in missing thresholds. -/
def settlementsWith (fill : Option JsNumber → List SettlementRow → Route (List SettlementRow))
    (slaId : String) (limitQuery : Option String) (before : Option SettlementsCursor) :
    Route SettlementsResponse :=
  match parseLimit limitQuery with
  | .error (error, message) => return .badRequest error message
  | .ok limit => do
    let rows ← (RouteCall.selectSettlements slaId before (limit + 1)).await
    let hasMore := decide (limit < rows.length)
    let page ← fill none (if hasMore then rows.take limit else rows)
    let data ← serveRows page
    let nextCursor := if hasMore then page.getLast?.map SettlementRow.cursor else none
    return .page data nextCursor

/-- `GET /v1/slas/:slaId/settlements` of the Worker. -/
def workerSettlements (slaId : String) : Option String → Option SettlementsCursor →
    Route SettlementsResponse :=
  settlementsWith (fillThresholdsWorker slaId) slaId

/-- `GET /v1/slas/:slaId/settlements` of the Node API. -/
def nodeSettlements (slaId : String) : Option String → Option SettlementsCursor →
    Route SettlementsResponse :=
  settlementsWith (fillThresholdsNode slaId) slaId

/-! ### What a request leaves of the database -/

/-- A row up to its threshold. -/
def SettlementRow.withoutThreshold (r : SettlementRow) : SettlementRow :=
  { r with quorumThreshold := none }

theorem SettlementRow.eq_of_withoutThreshold {r r' : SettlementRow}
    (h : r'.withoutThreshold = r.withoutThreshold) :
    r' = { r with quorumThreshold := r'.quorumThreshold } := by
  cases r
  cases r'
  cases h
  rfl

/-- Two databases that differ in cached thresholds only, as far as settlements and votes go. -/
structure Db.SameVotes (db db' : Db) : Prop where
  checks : db'.checks = db.checks
  settlements : db'.settlements.rows.map SettlementRow.withoutThreshold =
    db.settlements.rows.map SettlementRow.withoutThreshold

theorem Db.SameVotes.refl (db : Db) : db.SameVotes db := ⟨rfl, rfl⟩

theorem Db.SameVotes.trans {db db' db'' : Db} (h : db.SameVotes db') (h' : db'.SameVotes db'') :
    db.SameVotes db'' :=
  ⟨h'.checks.trans h.checks, h'.settlements.trans h.settlements⟩

/-- Caching a threshold changes no vote and nothing else of a settlement. -/
theorem Db.sameVotes_setSlaQuorumThreshold (db : Db) (slaId : String) (threshold : JsNumber) :
    db.SameVotes (db.setSlaQuorumThreshold slaId threshold) where
  checks := rfl
  settlements := by
    change (db.settlements.rows.map _).map _ = _
    rw [List.map_map]
    refine List.map_congr_left fun r _ => ?_
    rw [Function.comp_apply]
    split <;> rfl

/-- **Requests change cached thresholds only.** -/
theorem sameVotes_of_exec {α : Type} {p : Route α} {db db' : Db}
    {tr : List (Event routeInterface)} {r : Except Thrown α}
    (h : Exec RouteAnswers p db tr r db') : db.SameVotes db' := by
  refine h.preserves (fun db₁ c r db₂ here hsame => ?_) (Db.SameVotes.refl db)
  cases here with
  | setSlaQuorumThreshold => exact hsame.trans (Db.sameVotes_setSlaQuorumThreshold _ _ _)
  | throws | selectSettlements _ | fetchQuorumThreshold | getVoteCounts => exact hsame

theorem Db.SameVotes.getVoteCounts {db db' : Db} (h : db.SameVotes db') (slaId roundId : String) :
    db'.getVoteCounts slaId roundId = db.getVoteCounts slaId roundId := by
  rw [Db.getVoteCounts, Db.getVoteCounts, h.checks]

/-! ### A successful response -/

/-- A loop over the rows that touches their thresholds only. -/
def FillsThresholds (fill : Option JsNumber → List SettlementRow → Route (List SettlementRow)) :
    Prop :=
  ∀ cached rows db tr rows' db', Exec RouteAnswers (fill cached rows) db tr (.ok rows') db' →
    rows'.map SettlementRow.withoutThreshold = rows.map SettlementRow.withoutThreshold

/-- A loop does, if it hands on each row up to its threshold and goes on with the rows behind. -/
private theorem fillsThresholds_of_cons
    {fill : Option JsNumber → List SettlementRow → Route (List SettlementRow)}
    (hnil : ∀ cached, fill cached [] = pure [])
    (hcons : ∀ {cached row rows db tr rows' db'},
      Exec RouteAnswers (fill cached (row :: rows)) db tr (.ok rows') db' →
        ∃ cached' db₁ tr₁ threshold done,
          Exec RouteAnswers (fill cached' rows) db₁ tr₁ (.ok done) db' ∧
          rows' = { row with quorumThreshold := threshold } :: done) :
    FillsThresholds fill := by
  intro cached rows
  induction rows generalizing cached with
  | nil =>
    intro db tr rows' db' h
    rw [hnil] at h
    obtain ⟨-, ⟨⟩, -⟩ := exec_return_iff.mp h
    rfl
  | cons row rows ih =>
    intro db tr rows' db' h
    obtain ⟨cached', db₁, tr₁, threshold, done, hrest, rfl⟩ := hcons h
    have hdone := ih cached' db₁ tr₁ done db' hrest
    rw [List.map_cons, List.map_cons, hdone]
    rfl

theorem fillsThresholds_worker (slaId : String) : FillsThresholds (fillThresholdsWorker slaId) := by
  refine fillsThresholds_of_cons (fun _ => rfl) fun {_ row _ _ _ _ _} h => ?_
  rw [fillThresholdsWorker] at h
  split at h
  · obtain ⟨tr₁, cached', db₁, tr₂, -, rest, rfl⟩ := exec_bind_ok_iff.mp h
    obtain ⟨tr₃, done, db₂, tr₄, hrest, hreturn, rfl⟩ := exec_bind_ok_iff.mp rest
    obtain ⟨-, ⟨⟩, rfl⟩ := exec_return_iff.mp hreturn
    exact ⟨_, _, _, cached', done, hrest, rfl⟩
  · obtain ⟨tr₁, done, db₁, tr₂, hrest, hreturn, rfl⟩ := exec_bind_ok_iff.mp h
    obtain ⟨-, ⟨⟩, rfl⟩ := exec_return_iff.mp hreturn
    exact ⟨_, _, _, row.quorumThreshold, done, hrest, rfl⟩

theorem fillsThresholds_node (slaId : String) : FillsThresholds (fillThresholdsNode slaId) := by
  refine fillsThresholds_of_cons (fun _ => rfl) fun {_ row _ _ _ _ _} h => ?_
  rw [fillThresholdsNode] at h
  split at h
  · obtain ⟨tr₁, threshold, db₁, tr₂, -, rest, rfl⟩ := exec_bind_ok_iff.mp h
    obtain ⟨tr₃, done, db₂, tr₄, hrest, hreturn, rfl⟩ := exec_bind_ok_iff.mp rest
    obtain ⟨-, ⟨⟩, rfl⟩ := exec_return_iff.mp hreturn
    exact ⟨_, _, _, some threshold, done, hrest, rfl⟩
  · obtain ⟨tr₁, done, db₁, tr₂, hrest, hreturn, rfl⟩ := exec_bind_ok_iff.mp h
    obtain ⟨-, ⟨⟩, rfl⟩ := exec_return_iff.mp hreturn
    exact ⟨_, _, _, row.quorumThreshold, done, hrest, rfl⟩

section

variable {db db' : Db} {tr : List (Event routeInterface)} {slaId : String}

/-- Lists with the same images are related entry by entry. -/
private theorem forall₂_of_map_eq {α β : Type} {f : α → β} {as bs : List α}
    (h : bs.map f = as.map f) : List.Forall₂ (fun a b => f b = f a) as bs := by
  have hmaps : List.Forall₂ (fun x y : β => y = x) (as.map f) (bs.map f) := by
    rw [h]
    exact List.forall₂_same.mpr fun _ _ => rfl
  rwa [List.forall₂_map_left_iff, List.forall₂_map_right_iff] at hmaps

/-- The call counts the votes of a round. -/
def RouteCall.CountsVotes : RouteCall → Prop
  | getVoteCounts _ _ => True
  | _ => False

/-- Serving rows counts votes, and does nothing else. -/
theorem okObeys_serveRows (rows : List SettlementRow) :
    OkObeys (I := routeInterface) RouteCall.CountsVotes (fun _ => True) (serveRows rows) := by
  induction rows with
  | nil => exact okObeys_return trivial
  | cons r rows ih =>
    have hcounts : RouteCall.CountsVotes (.getVoteCounts r.slaId r.roundId) := trivial
    exact okObeys_bind (okObeys_ask hcounts) fun _ _ =>
      okObeys_bind ih fun _ _ => okObeys_return trivial

/-- Rows are served with the counts the database holds for their rounds. -/
theorem exec_serveRows {rows : List SettlementRow} {data : List SettlementEntry}
    (h : Exec RouteAnswers (serveRows rows) db tr (.ok data) db') :
    data = rows.map fun r => settlementEntry r (db.getVoteCounts r.slaId r.roundId) := by
  induction rows generalizing tr data db db' with
  | nil =>
    obtain ⟨-, ⟨⟩, -⟩ := exec_return_iff.mp h
    rfl
  | cons r rows ih =>
    rw [serveRows] at h
    obtain ⟨tr₁, votes, db₁, tr₂, hcounts, rest, rfl⟩ := exec_bind_ok_iff.mp h
    obtain ⟨here, rfl⟩ := exec_ask_iff.mp hcounts
    cases here
    obtain ⟨tr₃, done, db₂, tr₄, hrest, hreturn, rfl⟩ := exec_bind_ok_iff.mp rest
    obtain ⟨-, ⟨⟩, -⟩ := exec_return_iff.mp hreturn
    rw [List.map_cons, ih hrest]

/-- The rows on the page of a request. -/
def Db.settlementsPage (db : Db) (slaId : String) (before : Option SettlementsCursor)
    (limit : ℕ) : List SettlementRow :=
  (db.selectSettlements slaId before (limit + 1)).take limit

/-- The page is the selection up to the limit, whether or not there is more. -/
theorem take_of_hasMore (rows : List SettlementRow) (limit : ℕ) :
    (if decide (limit < rows.length) then rows.take limit else rows) = rows.take limit := by
  by_cases hmore : limit < rows.length
  · rw [if_pos (decide_eq_true hmore)]
  · rw [if_neg (by simpa using hmore), List.take_of_length_le (not_lt.mp hmore)]

/-- A page holds rows of its SLA only. -/
theorem Db.mem_settlementsPage {before : Option SettlementsCursor} {limit : ℕ}
    {r : SettlementRow} (h : r ∈ db.settlementsPage slaId before limit) :
    r ∈ db.settlements.rows ∧ r.slaId = slaId := by
  have hsorted := List.mem_mergeSort.mp (List.mem_of_mem_take (List.mem_of_mem_take h))
  obtain ⟨hrow, hcond⟩ := List.mem_filter.mp hsorted
  rw [Bool.and_eq_true, decide_eq_true_eq] at hcond
  exact ⟨hrow, hcond.1⟩

/-- **A page, step by step.** The rows of the page are selected, their missing thresholds filled in,
and each is served with its counts. -/
theorem exec_settlementsWith_page
    {fill : Option JsNumber → List SettlementRow → Route (List SettlementRow)}
    {limitQuery : Option String} {before next : Option SettlementsCursor}
    {data : List SettlementEntry}
    (h : Exec RouteAnswers (settlementsWith fill slaId limitQuery before) db tr
      (.ok (.page data next)) db') :
    ∃ limit filled tr₁ db₁ tr₂, parseLimit limitQuery = .ok limit ∧
      Exec RouteAnswers (fill none (db.settlementsPage slaId before limit)) db tr₁ (.ok filled)
        db₁ ∧
      Exec RouteAnswers (serveRows filled) db₁ tr₂ (.ok data) db' ∧
      tr = ⟨.selectSettlements slaId before (limit + 1),
        .ok (db.selectSettlements slaId before (limit + 1))⟩ :: (tr₁ ++ tr₂) ∧
      next = if limit < (db.selectSettlements slaId before (limit + 1)).length then
        filled.getLast?.map SettlementRow.cursor else none := by
  unfold settlementsWith at h
  cases hlimit : parseLimit limitQuery with
  | error response =>
    rw [hlimit] at h
    obtain ⟨-, hpage, -⟩ := exec_return_iff.mp h
    cases hpage
  | ok limit =>
    rw [hlimit] at h
    obtain ⟨tr₁, rows, db₁, tr₂, hselect, rest, rfl⟩ := exec_bind_ok_iff.mp h
    obtain ⟨here, rfl⟩ := exec_ask_iff.mp hselect
    cases here with
    | selectSettlements selected =>
      obtain ⟨tr₃, filled, db₂, tr₄, hfill, rest₂, rfl⟩ := exec_bind_ok_iff.mp rest
      obtain ⟨tr₅, done, db₃, tr₆, hserve, hreturn, rfl⟩ := exec_bind_ok_iff.mp rest₂
      obtain ⟨rfl, ⟨⟩, rfl⟩ := exec_return_iff.mp hreturn
      subst selected
      rw [take_of_hasMore] at hfill
      refine ⟨limit, filled, tr₃, db₂, tr₅, rfl, hfill, hserve, by simp, ?_⟩
      simp only [decide_eq_true_eq]

/-- **A successful response serves its page.** Entry by entry, it holds the rows of the page up to
their thresholds, each with the counts the database holds for its round. -/
theorem exec_settlementsWith
    {fill : Option JsNumber → List SettlementRow → Route (List SettlementRow)}
    (hfill : FillsThresholds fill) {limitQuery : Option String}
    {before next : Option SettlementsCursor} {data : List SettlementEntry}
    (h : Exec RouteAnswers (settlementsWith fill slaId limitQuery before) db tr
      (.ok (.page data next)) db') :
    ∃ limit, parseLimit limitQuery = .ok limit ∧
      List.Forall₂ (fun r e => ∃ threshold, e =
          settlementEntry { r with quorumThreshold := threshold }
            (db.getVoteCounts r.slaId r.roundId))
        (db.settlementsPage slaId before limit) data := by
  obtain ⟨limit, filled, tr₁, db₁, tr₂, hlimit, hpage, hserve, -, -⟩ := exec_settlementsWith_page h
  have hrows := hfill _ _ _ _ _ _ hpage
  refine ⟨limit, hlimit, ?_⟩
  rw [exec_serveRows hserve, List.forall₂_map_right_iff]
  -- Filling thresholds in between changed no count.
  refine (forall₂_of_map_eq hrows).imp fun r r' hr => ⟨r'.quorumThreshold, ?_⟩
  rw [(sameVotes_of_exec hpage).getVoteCounts, SettlementRow.eq_of_withoutThreshold hr]

end

end Indexer

end SlaSettle
