import SlaSettle.Indexer.Cursor
import SlaSettle.Js.Decimal
import SlaSettle.Store.Paging
import Mathlib.Data.Prod.Lex
import Mathlib.Data.String.Basic

/-!
# Pagination of settlements

The settlements of an SLA are served newest first, in the order of `(ledger_close_time, event_id)`,
and a page is continued with the cursor of its last row. The two implementations,
`IndexerD1.getSettlementsPage` and the route of the Node API, select the same rows, so both are
keyset pagination over the rows of the SLA (`selectSettlements_eq`).

`settlements_paged` says what follows for a run of requests that starts without a cursor and goes on
with each response's: it serves the rows the SLA had at the first request, each once and in order,
also when newer settlements arrive in between, and it ends. Rows are compared up to their
thresholds, which a request may fill in.
-/

namespace SlaSettle

namespace Indexer

open Js Effect Program Store

/-! ### The order of pagination -/

/-- Cursors in the order of `(ledger_close_time, event_id)`. -/
instance : LinearOrder SettlementsCursor :=
  LinearOrder.lift' (fun c => toLex (c.ledgerCloseTime, c.eventId)) fun c c' h => by
    obtain ⟨htime, hid⟩ := Prod.mk.inj (toLex.injective h)
    cases c
    cases c'
    rw [SettlementsCursor.mk.injEq]
    exact ⟨htime, hid⟩

theorem SettlementRow.isBefore_iff {r : SettlementRow} {c : SettlementsCursor} :
    r.isBefore c = true ↔ r.cursor < c := by
  rw [isBefore, Bool.or_eq_true, Bool.and_eq_true, decide_eq_true_eq, decide_eq_true_eq,
    decide_eq_true_eq]
  exact (Prod.Lex.toLex_lt_toLex (x := (r.ledgerCloseTime, r.eventId))
    (y := (c.ledgerCloseTime, c.eventId))).symm

/-- The rows of an SLA. -/
def Db.slaRows (db : Db) (slaId : String) : List SettlementRow :=
  db.settlements.rows.filter fun r => r.slaId = slaId

/-- The statement selects from the rows of the SLA, newest first. -/
theorem selectSettlements_eq (db : Db) (slaId : String) (before : Option SettlementsCursor)
    (limit : ℕ) :
    db.selectSettlements slaId before limit =
      (selectBefore SettlementRow.cursor before (db.slaRows slaId)).take limit := by
  have hfilter : (db.settlements.rows.filter fun r => r.slaId = slaId && before.all r.isBefore) =
      (db.slaRows slaId).filter fun r => before.all fun c => r.cursor < c := by
    rw [Db.slaRows, List.filter_filter]
    refine List.filter_congr fun r _ => ?_
    rw [Bool.and_comm]
    congr 1
    refine congrArg (Option.all · before) (funext fun c => ?_)
    rw [Bool.eq_iff_iff, SettlementRow.isBefore_iff, decide_eq_true_eq]
  have horder : (fun r r' : SettlementRow => !r.isBefore r'.cursor) =
      fun r r' => decide (r'.cursor ≤ r.cursor) := by
    funext r r'
    rw [Bool.eq_iff_iff, Bool.not_eq_true', ← Bool.not_eq_true, SettlementRow.isBefore_iff, not_lt,
      decide_eq_true_eq]
  rw [Db.selectSettlements, selectBefore, hfilter, horder]

/-- The rows of an SLA up to their thresholds. -/
def Db.table (db : Db) (slaId : String) : List SettlementRow :=
  (db.slaRows slaId).map SettlementRow.withoutThreshold

/-- The history of an SLA: its rows up to their thresholds, newest first. -/
def Db.settlementHistory (db : Db) (slaId : String) : List SettlementRow :=
  (db.table slaId).mergeSort fun r r' => r'.cursor ≤ r.cursor

theorem Db.settlementHistory_perm (db : Db) (slaId : String) :
    (db.settlementHistory slaId).Perm (db.table slaId) :=
  List.mergeSort_perm _ _

/-- Event ids are distinct, so no two rows are at one place. -/
theorem Db.newestFirst_settlementHistory (db : Db) (slaId : String) :
    NewestFirst SettlementRow.cursor (db.settlementHistory slaId) := by
  refine newestFirst_mergeSort ?_
  have hids : ((db.slaRows slaId).map SettlementRow.eventId).Nodup :=
    db.settlements.nodup.sublist (List.filter_sublist.map _)
  refine List.Nodup.of_map SettlementsCursor.eventId ?_
  simpa only [Db.table, List.map_map, Function.comp_def, SettlementRow.cursor,
    SettlementRow.withoutThreshold] using hids

/-! ### The two implementations -/

/-- `IndexerD1.getSettlementsPage`: a page of rows, and whether there are more. -/
def Db.getSettlementsPage (db : Db) (slaId : String) (limit : ℕ)
    (before : Option SettlementsCursor) : List SettlementRow × Bool :=
  let rows := db.selectSettlements slaId before (limit + 1)
  let hasMore := decide (limit < rows.length)
  (if hasMore then rows.take limit else rows, hasMore)

/-- A request for a page of `getSettlementsPage`, which its caller continues with the cursor of the
last row if there are more. -/
def PageCall (slaId : String) (limit : ℕ) (before : Option SettlementsCursor) (db : Db)
    (served : List SettlementRow) (next : Option SettlementsCursor) : Prop :=
  ∃ hasMore, db.getSettlementsPage slaId limit before = (served, hasMore) ∧
    next = if hasMore then served.getLast?.map SettlementRow.cursor else none

/-- A request to the Node API that is answered with a page. The cursors are the texts that the
caller sees. -/
def NodeRequest (lib : CodecLib) (slaId : String) (limitQuery before : Option String) (db : Db)
    (data : List SettlementEntry) (next : Option String) : Prop :=
  ∃ cursor tr db', Exec RouteAnswers
      (nodeSettlements slaId limitQuery (before.bind (decodeCursor lib))) db tr
      (.ok (.page data cursor)) db' ∧
    next = cursor.map (encodeCursor lib)

/-- The page of a request, up to thresholds. -/
theorem page_table (db : Db) (slaId : String) (limit : ℕ) (before : Option SettlementsCursor) :
    page SettlementRow.cursor limit before (db.table slaId) =
      ⟨(db.settlementsPage slaId before limit).map SettlementRow.withoutThreshold,
        if limit < (db.selectSettlements slaId before (limit + 1)).length then
          (db.settlementsPage slaId before limit).getLast?.map SettlementRow.cursor else none⟩ := by
  have hkey : ∀ r : SettlementRow, r.withoutThreshold.cursor = r.cursor := fun _ => rfl
  rw [Db.table, page_map hkey]
  simp only [page, Db.settlementsPage, selectSettlements_eq]

/-- An accepted limit is at least one. -/
theorem parseLimit_pos {limitQuery : Option String} {limit : ℕ}
    (h : parseLimit limitQuery = .ok limit) : 0 < limit := by
  unfold parseLimit at h
  cases limitQuery with
  | none => exact Except.ok.inj h ▸ by decide
  | some text =>
  simp only at h
  generalize JsNumber.ofText text = requestedLimit at h
  cases requestedLimit with
  | nan => exact Except.ok.inj h ▸ by decide
  | posInfinity => exact Except.ok.inj h ▸ by decide
  | negInfinity => cases h
  | finite q =>
    by_cases hneg : (JsNumber.finite q).lt 0 = true
    · rw [if_pos hneg] at h
      cases h
    rw [if_neg hneg] at h
    split at h
    · cases h
    by_cases hq : q = 0
    · subst hq
      exact Except.ok.inj h ▸ by decide
    have htruthy : (JsNumber.finite q).truthy = true := decide_eq_true hq
    have hpos : 0 < q.num := by
      have hnonneg : ¬ q < 0 := fun hlt => hneg (decide_eq_true hlt)
      exact Rat.num_pos.mpr (lt_of_le_of_ne (not_lt.mp hnonneg) (Ne.symm hq))
    have hmin : (JsNumber.finite q).min 100 =
        if (JsNumber.finite q).lt 100 then .finite q else 100 := rfl
    rw [if_pos htruthy, hmin] at h
    by_cases hlt : (JsNumber.finite q).lt 100 = true
    · rw [if_pos hlt] at h
      obtain rfl := Except.ok.inj h
      omega
    · rw [if_neg hlt] at h
      exact Except.ok.inj h ▸ by decide

/-! ### Runs of requests -/

/-- Since the first request, the table of an SLA has only gained rows newer than those served. -/
def Db.Gained (db : Db) (slaId : String) (first : List SettlementRow) (db' : Db) : Prop :=
  ∃ fresh, (db'.table slaId).Perm (db.table slaId ++ fresh) ∧
    ∀ r ∈ fresh, ∀ r' ∈ first, r'.cursor < r.cursor

/-- What a run of requests has served of a history: a beginning, in order; all of it once no cursor
is left; and it takes no more requests than the history has pages. -/
structure Paged (history : List SettlementRow) (limit : ℕ) (pages : List (List SettlementRow))
    (next : Option SettlementsCursor) : Prop where
  served : pages.flatten.map SettlementRow.withoutThreshold <+: history
  all : next = none → pages.flatten.map SettlementRow.withoutThreshold = history
  length_le : pages.length ≤ (history.length - 1) / limit + 1

/-- A call serves a page of the table, up to thresholds. -/
private theorem pageCall_pageRequest {slaId : String} {limit : ℕ}
    {before next : Option SettlementsCursor} {db : Db} {served : List SettlementRow}
    (h : PageCall slaId limit before db served next) :
    PageRequest SettlementRow.cursor limit before (db.table slaId)
      (served.map SettlementRow.withoutThreshold) next := by
  obtain ⟨hasMore, hpage, rfl⟩ := h
  obtain ⟨rfl, rfl⟩ := Prod.mk.inj hpage
  rw [PageRequest, page_table, take_of_hasMore]
  simp only [decide_eq_true_eq]
  rfl

/-- Runs of calls are paged. -/
theorem paged_of_pageCalls {db : Db} {slaId : String} {limit : ℕ} (hlimit : 0 < limit)
    {first : List SettlementRow} {visits : List (Db × List SettlementRow)}
    {next : Option SettlementsCursor}
    (h : Follows (PageCall slaId limit) none ((db, first) :: visits) next)
    (hvisits : ∀ v ∈ visits, db.Gained slaId first v.1) :
    Paged (db.settlementHistory slaId) limit (first :: visits.map Prod.snd) next := by
  have hruns := h.map (f := fun db => db.table slaId)
    (g := List.map SettlementRow.withoutThreshold) fun _ _ _ _ => pageCall_pageRequest
  have hserves := hruns.serves hlimit (db.newestFirst_settlementHistory slaId)
    (db.settlementHistory_perm slaId).symm ?_
  · have hpages : (((db, first) :: visits).map (Prod.map (fun db => db.table slaId)
        (List.map SettlementRow.withoutThreshold))).flatMap Prod.snd =
        (first :: visits.map Prod.snd).flatten.map SettlementRow.withoutThreshold := by
      simp [List.flatMap_def, List.map_flatten, Function.comp_def]
    refine ⟨hpages ▸ hserves.served, fun hnext => hpages ▸ hserves.all hnext, ?_⟩
    simpa using hserves.length_le
  · intro v hv
    obtain ⟨visit, hvisit, rfl⟩ := List.mem_map.mp hv
    obtain ⟨fresh, hperm, hfresh⟩ := hvisits visit hvisit
    refine ⟨fresh, hperm.trans ((db.settlementHistory_perm slaId).symm.append_right fresh), ?_⟩
    intro r hr r' hr'
    obtain ⟨stored, hstored, rfl⟩ := List.mem_map.mp hr'
    exact hfresh r hr stored hstored

/-- The entries are those of the rows, with some thresholds and the counts of the database. -/
def EntriesOf (db : Db) (rows : List SettlementRow) (data : List SettlementEntry) : Prop :=
  List.Forall₂ (fun r e => ∃ threshold, e =
    settlementEntry { r with quorumThreshold := threshold } (db.getVoteCounts r.slaId r.roundId))
    rows data

/-- A request and the call it is answered with. -/
def Served (v : Db × List SettlementEntry) (call : Db × List SettlementRow) : Prop :=
  call.1 = v.1 ∧ EntriesOf v.1 call.2 v.2

/-- A call serves the page of its limit. -/
theorem pageCall_served {slaId : String} {limit : ℕ} {before next : Option SettlementsCursor}
    {db : Db} {served : List SettlementRow} (h : PageCall slaId limit before db served next) :
    served = db.settlementsPage slaId before limit := by
  obtain ⟨hasMore, hpage, -⟩ := h
  rw [Db.getSettlementsPage, take_of_hasMore] at hpage
  exact (Prod.mk.inj hpage).1.symm

/-- **The Node route pages as `getSettlementsPage` does.** Its entries are the rows of the page,
with the thresholds it filled in and the counts of their rounds. -/
theorem nodeRequest_pageCall {lib : CodecLib} {slaId : String}
    {limitQuery before next : Option String} {limit : ℕ}
    (hlimit : parseLimit limitQuery = .ok limit) {db : Db} {data : List SettlementEntry}
    (h : NodeRequest lib slaId limitQuery before db data next) :
    ∃ rows cursor, next = cursor.map (encodeCursor lib) ∧ EntriesOf db rows data ∧
      PageCall slaId limit (before.bind (decodeCursor lib)) db rows cursor := by
  obtain ⟨cursor, tr, db', hexec, rfl⟩ := h
  obtain ⟨limit', hlimit', hentries⟩ := exec_settlementsWith (fillsThresholds_node slaId) hexec
  obtain rfl := Except.ok.inj (hlimit.symm.trans hlimit')
  obtain ⟨limit'', filled, tr₁, db₁, tr₂, hlimit'', hfill, -, -, hnext⟩ :=
    exec_settlementsWith_page hexec
  obtain rfl := Except.ok.inj (hlimit.symm.trans hlimit'')
  have hcursors : filled.getLast?.map SettlementRow.cursor =
      (db.settlementsPage slaId (before.bind (decodeCursor lib)) limit).getLast?.map
        SettlementRow.cursor := by
    have hsame := congrArg (fun rows => rows.getLast?.map SettlementRow.cursor)
      (fillsThresholds_node slaId _ _ _ _ _ _ hfill)
    simp only [List.getLast?_map, Option.map_map] at hsame
    exact hsame
  refine ⟨_, cursor, rfl, hentries, decide (limit <
    (db.selectSettlements slaId (before.bind (decodeCursor lib)) (limit + 1)).length), ?_, ?_⟩
  · rw [Db.getSettlementsPage, take_of_hasMore]
    rfl
  · rw [hnext, hcursors]
    simp only [decide_eq_true_eq]

/-- Runs of requests to the Node route are runs of calls, entry by entry. -/
theorem pageCalls_of_nodeRequests {lib : CodecLib} (hlib : lib.RoundTrips) {slaId : String}
    {limitQuery next : Option String} {limit : ℕ} (hlimit : parseLimit limitQuery = .ok limit)
    {visits : List (Db × List SettlementEntry)}
    (h : Follows (NodeRequest lib slaId limitQuery) none visits next) :
    ∃ calls cursor, next = cursor.map (encodeCursor lib) ∧ List.Forall₂ Served visits calls ∧
      Follows (PageCall slaId limit) none calls cursor := by
  -- a text and the cursor it encodes; every request after the first is made with such a text
  have hstep : ∀ (before : Option String) (before' : Option SettlementsCursor),
      before = before'.map (encodeCursor lib) → before.bind (decodeCursor lib) = before' := by
    rintro _ (_ | cursor) rfl
    · rfl
    · exact decodeCursor_encodeCursor hlib cursor
  have hrequest : ∀ (before : Option String) (before' : Option SettlementsCursor) (found : Db)
      (data : List SettlementEntry) (next : Option String),
      before = before'.map (encodeCursor lib) →
      NodeRequest lib slaId limitQuery before found data next →
      ∃ (found' : Db) (rows : List SettlementRow) (cursor : Option SettlementsCursor),
        Served (found, data) (found', rows) ∧ next = cursor.map (encodeCursor lib) ∧
          PageCall slaId limit before' found' rows cursor := by
    intro before before' found data next hbefore here
    obtain ⟨rows, cursor, hnext, hentries, hcall⟩ := nodeRequest_pageCall hlimit here
    rw [hstep before before' hbefore] at hcall
    exact ⟨found, rows, cursor, ⟨rfl, hentries⟩, hnext, hcall⟩
  have hstart : none = (none : Option SettlementsCursor).map (encodeCursor lib) := rfl
  have hnone : ∀ text, some text ≠ (none : Option SettlementsCursor).map (encodeCursor lib) := nofun
  obtain ⟨calls, cursor, hcalls, hnext, hruns⟩ := Follows.simulate
    (R := fun before before' => before = before'.map (encodeCursor lib)) hnone hrequest h hstart
  exact ⟨calls, cursor, hnext, hcalls, hruns⟩

/-- The Node route fails only when a call does. -/
theorem failsByCalls_node (slaId : String) (limitQuery : Option String)
    (before : Option SettlementsCursor) :
    FailsByCalls (nodeSettlements slaId limitQuery before) := by
  have hcached : ∀ cached, FailsByCalls (cachedThresholdNode slaId cached) := by
    intro cached
    cases cached with
    | some threshold => exact failsByCalls_return threshold
    | none =>
      exact failsByCalls_bind (failsByCalls_ask _) fun threshold =>
        failsByCalls_bind (failsByCalls_ask _) fun _ => failsByCalls_return threshold
  have hfill : ∀ rows cached, FailsByCalls (fillThresholdsNode slaId cached rows) := by
    intro rows
    induction rows with
    | nil => exact fun _ => failsByCalls_return []
    | cons row rows ih =>
      intro cached
      rw [fillThresholdsNode]
      split
      · exact failsByCalls_bind (hcached cached) fun threshold =>
          failsByCalls_bind (ih _) fun rest => failsByCalls_return _
      · exact failsByCalls_bind (ih cached) fun rest => failsByCalls_return _
  have hserve : ∀ rows, FailsByCalls (serveRows rows) := by
    intro rows
    induction rows with
    | nil => exact failsByCalls_return []
    | cons r rows ih =>
      exact failsByCalls_bind (failsByCalls_ask _) fun votes =>
        failsByCalls_bind ih fun rest => failsByCalls_return _
  unfold nodeSettlements settlementsWith
  split
  · exact failsByCalls_return _
  · exact failsByCalls_bind (failsByCalls_ask _) fun rows =>
      failsByCalls_bind (hfill _ _) fun page =>
        failsByCalls_bind (hserve _) fun data => failsByCalls_return _

/-- Whatever is in the second list is related to something in the first. -/
private theorem exists_mem_of_forall₂ {α β : Type} {R : α → β → Prop} {as : List α} {bs : List β}
    (h : List.Forall₂ R as bs) {b : β} (hb : b ∈ bs) : ∃ a ∈ as, R a b := by
  induction h with
  | nil => simp at hb
  | @cons a b' as bs hab _ ih =>
    rcases List.mem_cons.mp hb with rfl | hrest
    · exact ⟨a, List.mem_cons_self, hab⟩
    · obtain ⟨a', ha', hab'⟩ := ih hrest
      exact ⟨a', List.mem_cons_of_mem a ha', hab'⟩

/-- With an accepted limit, the Node route answers with a page or fails. -/
private theorem nodeSettlements_page_or_error {slaId : String} {limitQuery : Option String}
    {before : Option SettlementsCursor} {limit : ℕ} (hlimit : parseLimit limitQuery = .ok limit)
    {db db' : Db} {tr : List (Event routeInterface)} {r : Except Thrown SettlementsResponse}
    (h : Exec RouteAnswers (nodeSettlements slaId limitQuery before) db tr r db') :
    (∃ data next, r = .ok (.page data next)) ∨ ∃ e, r = .error e := by
  cases r with
  | error e => exact .inr ⟨e, rfl⟩
  | ok response =>
    unfold nodeSettlements settlementsWith at h
    rw [hlimit] at h
    obtain ⟨tr₁, rows, db₁, tr₂, -, rest, -⟩ := exec_bind_ok_iff.mp h
    obtain ⟨tr₃, page, db₂, tr₄, -, rest, -⟩ := exec_bind_ok_iff.mp rest
    obtain ⟨tr₅, data, db₃, tr₆, -, rest, -⟩ := exec_bind_ok_iff.mp rest
    obtain ⟨-, hresponse, -⟩ := exec_return_iff.mp rest
    exact .inl ⟨data, _, hresponse⟩

/-- **Pagination is complete and free of duplicates.** A run of requests that starts without a
cursor serves the history its SLA had at the first request: a beginning of it, in order, and all of
it once no cursor is left, whatever newer settlements arrive in between. It ends after as many
requests as the history has pages. This holds of `getSettlementsPage` and of the Node route with any
limit it accepts, which answers each request with a page unless one of its calls fails. -/
theorem settlements_paged {lib : CodecLib} (hlib : lib.RoundTrips) (db : Db) (slaId : String) :
    ((db.settlementHistory slaId).Perm (db.table slaId) ∧
      NewestFirst SettlementRow.cursor (db.settlementHistory slaId)) ∧
    (∀ limit first visits next, 0 < limit →
      Follows (PageCall slaId limit) none ((db, first) :: visits) next →
      (∀ v ∈ visits, db.Gained slaId first v.1) →
      Paged (db.settlementHistory slaId) limit (first :: visits.map Prod.snd) next) ∧
    ∀ limitQuery limit, parseLimit limitQuery = .ok limit →
      (∀ first visits next,
        Follows (NodeRequest lib slaId limitQuery) none ((db, first) :: visits) next →
        (∀ v ∈ visits, db.Gained slaId (db.settlementsPage slaId none limit) v.1) →
        ∃ pages cursor, next = cursor.map (encodeCursor lib) ∧
          List.Forall₂ (fun v rows => EntriesOf v.1 rows v.2) ((db, first) :: visits) pages ∧
          Paged (db.settlementHistory slaId) limit pages cursor) ∧
      ∀ before (found : Db) tr r found',
        Exec RouteAnswers (nodeSettlements slaId limitQuery before) found tr r found' →
        (∃ data next, r = .ok (.page data next)) ∨
          ∃ c e, (⟨c, .error e⟩ : Event routeInterface) ∈ tr := by
  refine ⟨⟨db.settlementHistory_perm slaId, db.newestFirst_settlementHistory slaId⟩,
    fun limit first visits next hlimit h hvisits => paged_of_pageCalls hlimit h hvisits,
    fun limitQuery limit hlimit => ⟨fun first visits next h hvisits => ?_,
      fun before found tr r found' h => ?_⟩⟩
  · obtain ⟨calls, cursor, hnext, hcalls, hruns⟩ := pageCalls_of_nodeRequests hlib hlimit h
    obtain ⟨⟨found, rows⟩, rest, ⟨hfound, hentries⟩, hrest, rfl⟩ :=
      List.forall₂_cons_left_iff.mp hcalls
    obtain rfl : found = db := hfound
    refine ⟨rows :: rest.map Prod.snd, cursor, hnext, .cons hentries ?_,
      paged_of_pageCalls (parseLimit_pos hlimit) hruns fun call hcall => ?_⟩
    · rw [List.forall₂_map_right_iff]
      exact hrest.imp fun _ _ h => h.2
    · obtain ⟨next', hfirst⟩ := hruns.head
      obtain ⟨v, hv, hsame, -⟩ := exists_mem_of_forall₂ hrest hcall
      rw [pageCall_served hfirst, hsame]
      exact hvisits v hv
  · rcases nodeSettlements_page_or_error hlimit h with hpage | ⟨e, rfl⟩
    · exact .inl hpage
    · obtain ⟨c, hc⟩ := failsByCalls_node slaId limitQuery before tr e h.runs
      exact .inr ⟨c, e, hc⟩

/-! ### Two settlements at one time -/

/-- A settlement of SLA `1`. -/
private def tiedRow (eventId ledgerCloseTime : String) : SettlementRow :=
  ⟨eventId, "1", "5", some 1, "5", "B", "x", ledgerCloseTime⟩

/-- Two settlements at one time. -/
private def tiedDb : Db :=
  { Db.empty with settlements := ⟨[tiedRow "4" "t3", tiedRow "5" "t3"], by decide⟩ }

/-- A newer settlement has arrived. -/
private def gainedDb : Db :=
  { Db.empty with
    settlements := ⟨[tiedRow "4" "t3", tiedRow "5" "t3", tiedRow "6" "t4"], by decide⟩ }

private theorem tiedRow_lt : (tiedRow "4" "t3").cursor < (tiedRow "5" "t3").cursor ∧
    (tiedRow "5" "t3").cursor < (tiedRow "6" "t4").cursor := by
  constructor
  · exact SettlementRow.isBefore_iff.mp (by decide)
  · exact SettlementRow.isBefore_iff.mp (by decide)

private theorem select_tiedDb :
    tiedDb.selectSettlements "1" none 2 = [tiedRow "5" "t3", tiedRow "4" "t3"] := by
  have hselected : selectBefore SettlementRow.cursor none (tiedDb.slaRows "1") =
      [tiedRow "5" "t3", tiedRow "4" "t3"] :=
    selectBefore_eq (List.pairwise_pair.mpr tiedRow_lt.1) (List.Perm.swap _ _ _)
  rw [selectSettlements_eq, hselected]
  rfl

private theorem select_gainedDb :
    gainedDb.selectSettlements "1" (some ⟨"t3", "5"⟩) 2 = [tiedRow "4" "t3"] := by
  have hrows : gainedDb.settlements.rows.filter (fun r => r.slaId = "1" &&
      (some ⟨"t3", "5"⟩ : Option SettlementsCursor).all r.isBefore) = [tiedRow "4" "t3"] := by
    decide
  rw [Db.selectSettlements, hrows, List.mergeSort_singleton]
  rfl

private theorem gained_gainedDb : tiedDb.Gained "1" [tiedRow "5" "t3"] gainedDb := by
  refine ⟨[(tiedRow "6" "t4").withoutThreshold], List.Perm.refl _, ?_⟩
  intro r hr r' hr'
  rw [List.mem_singleton.mp hr, List.mem_singleton.mp hr']
  exact tiedRow_lt.2

/-- The JSON of the cursor of the first page. -/
private def firstJson : String := "\x7b\"ledgerCloseTime\":\"t3\",\"eventId\":\"5\"\x7d"

/-- Its base64url. -/
private def firstBase64 : String := "eyJsZWRnZXJDbG9zZVRpbWUiOiJ0MyIsImV2ZW50SWQiOiI1In0"

/-- Functions that round-trip, and do with the cursor of the first page what the library's do. -/
private def sampleCodec : CodecLib where
  stringify
    | .object ((_, .string time) :: (_, .string id) :: _) =>
      if time = "t3" ∧ id = "5" then firstJson
      else String.ofList ('#' :: .replicate time.length '1' ++ '0' :: (time ++ id).toList)
    | _ => ""
  parse text :=
    if text = firstJson then .ok (SettlementsCursor.toJson ⟨"t3", "5"⟩)
    else
      let n := (text.toList.tail.takeWhile (· = '1')).length
      let rest := text.toList.drop (n + 2)
      .ok (SettlementsCursor.toJson ⟨.ofList (rest.take n), .ofList (rest.drop n)⟩)
  toBase64url text := if text = firstJson then firstBase64 else "!" ++ text
  fromBase64url text := if text = firstBase64 then firstJson else .ofList text.toList.tail

private theorem roundTrips_sampleCodec : sampleCodec.RoundTrips where
  parse_stringify cursor := by
    obtain ⟨time, id⟩ := cursor
    by_cases hfirst : time = "t3" ∧ id = "5"
    · obtain ⟨rfl, rfl⟩ := hfirst
      rfl
    · have hstringify : sampleCodec.stringify (SettlementsCursor.toJson ⟨time, id⟩) =
          String.ofList ('#' :: .replicate time.length '1' ++ '0' :: (time ++ id).toList) :=
        if_neg hfirst
      have hne : String.ofList ('#' :: .replicate time.length '1' ++ '0' :: (time ++ id).toList) ≠
          firstJson := by
        intro heq
        have hhead := congrArg (fun text => text.toList.head?) heq
        rw [String.toList_ofList] at hhead
        cases hhead
      have htake : ((List.replicate time.length '1' ++ '0' :: (time ++ id).toList).takeWhile
          (· = '1')) = List.replicate time.length '1' := by
        rw [List.takeWhile_append_of_pos]
        · simp
        · intro c hc
          exact decide_eq_true (List.eq_of_mem_replicate hc)
      rw [hstringify]
      change (if _ = firstJson then _ else _) = _
      rw [if_neg hne]
      simp only [String.toList_ofList, List.cons_append, List.tail_cons, htake,
        List.length_replicate, List.drop_succ_cons]
      have hdrop : (List.replicate time.length '1' ++ '0' :: (time ++ id).toList).drop
          (time.length + 1) = time.toList ++ id.toList := by
        rw [List.append_cons, String.toList_append]
        exact List.drop_left' (by simp)
      rw [hdrop, List.take_left' String.length_toList, List.drop_left' String.length_toList,
        String.ofList_toList, String.ofList_toList]
  fromBase64url_toBase64url text := by
    by_cases hfirst : text = firstJson
    · subst hfirst
      rfl
    · have hne : "!" ++ text ≠ firstBase64 := by
        intro heq
        have hhead := congrArg (fun text => text.toList.head?) heq
        rw [String.toList_append] at hhead
        cases hhead
      have hto : sampleCodec.toBase64url text = "!" ++ text := if_neg hfirst
      rw [hto]
      change (if "!" ++ text = firstBase64 then firstJson
        else .ofList ("!" ++ text).toList.tail) = _
      rw [if_neg hne, String.toList_append]
      exact String.ofList_toList (s := text)

private theorem run_tiedDb : Follows (PageCall "1" 1) none
    [(tiedDb, [tiedRow "5" "t3"]), (gainedDb, [tiedRow "4" "t3"])] none := by
  refine .more ⟨true, ?_, rfl⟩ (.one ⟨false, ?_, rfl⟩)
  · rw [Db.getSettlementsPage, select_tiedDb]
    rfl
  · change gainedDb.getSettlementsPage "1" 1 (some ⟨"t3", "5"⟩) = _
    rw [Db.getSettlementsPage, select_gainedDb]
    rfl

private theorem parseLimit_one : parseLimit (some "1") = .ok 1 := by
  have hone : JsNumber.ofText "1" = (1 : ℕ) := JsNumber.ofText_toString_of_lt (n := 1) (by norm_num)
  rw [parseLimit]
  simp only [hone]
  rfl

/-- What the Node route answers to each request. -/
private theorem run_tiedDb_node : Follows (NodeRequest sampleCodec "1" (some "1")) none
    [(tiedDb, [settlementEntry (tiedRow "5" "t3") ⟨0, 0⟩]),
      (gainedDb, [settlementEntry (tiedRow "4" "t3") ⟨0, 0⟩])] none := by
  unfold NodeRequest nodeSettlements settlementsWith
  rw [parseLimit_one]
  refine .more (c := firstBase64)
    ⟨some ⟨"t3", "5"⟩, [⟨.selectSettlements "1" none 2, .ok [tiedRow "5" "t3", tiedRow "4" "t3"]⟩,
      ⟨.getVoteCounts "1" "5", .ok ⟨0, 0⟩⟩], tiedDb, ?_, rfl⟩
    (.one ⟨none, [⟨.selectSettlements "1" (some ⟨"t3", "5"⟩) 2, .ok [tiedRow "4" "t3"]⟩,
      ⟨.getVoteCounts "1" "5", .ok ⟨0, 0⟩⟩], gainedDb, ?_, rfl⟩)
  · exact .call (.selectSettlements select_tiedDb) (.call .getVoteCounts .done)
  · exact .call (.selectSettlements select_gainedDb) (.call .getVoteCounts .done)

/-- The runs over the two settlements, of calls and of requests, serve them both. -/
theorem settlements_paged_tied :
    Paged (tiedDb.settlementHistory "1") 1 [[tiedRow "5" "t3"], [tiedRow "4" "t3"]] none ∧
    ∃ pages cursor, none = cursor.map (encodeCursor sampleCodec) ∧
      List.Forall₂ (fun v rows => EntriesOf v.1 rows v.2)
        [(tiedDb, [settlementEntry (tiedRow "5" "t3") ⟨0, 0⟩]),
          (gainedDb, [settlementEntry (tiedRow "4" "t3") ⟨0, 0⟩])] pages ∧
      Paged (tiedDb.settlementHistory "1") 1 pages cursor := by
  have hgained : ∀ v ∈ [(gainedDb, [tiedRow "4" "t3"])],
      tiedDb.Gained "1" [tiedRow "5" "t3"] v.1 := by
    intro v hv
    rw [List.mem_singleton.mp hv]
    exact gained_gainedDb
  refine ⟨(settlements_paged roundTrips_sampleCodec tiedDb "1").2.1 1 _ _ _ Nat.one_pos run_tiedDb
    hgained, ?_⟩
  refine ((settlements_paged roundTrips_sampleCodec tiedDb "1").2.2 (some "1") 1 parseLimit_one).1
    _ _ _ run_tiedDb_node fun v hv => ?_
  rw [List.mem_singleton.mp hv, Db.settlementsPage, select_tiedDb]
  exact gained_gainedDb

end Indexer

end SlaSettle
