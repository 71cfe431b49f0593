import SlaSettle.Indexer.LiveReads

/-!
# How often a threshold is read live

All rows of a settlements page share their SLA, so one live read of its threshold would do for a
request. `ReadOnce` says that a request makes one at most, and that a row without a threshold is
served with the value that was read, unless the read failed.

In the Node route a read that fails ends the request. The Worker goes on, and reads again for the
next row without a threshold: `read_once_iff` says that it keeps to one read exactly when the page
has at most one such row, or the first read does not fail.
-/

namespace SlaSettle

namespace Indexer

open Js Effect Program Store

/-! ### Live reads of a trace -/

/-- What a call came to, if it is a live read. -/
def liveRead? : Event routeInterface → Option (Except Thrown JsNumber)
  | ⟨.fetchQuorumThreshold _, answer⟩ => some answer
  | ⟨.selectSettlements _ _ _, _⟩ | ⟨.setSlaQuorumThreshold _ _, _⟩
  | ⟨.getVoteCounts _ _, _⟩ => none

/-- What the live reads of a request came to, in order. -/
def liveReads (tr : List (Event routeInterface)) : List (Except Thrown JsNumber) :=
  tr.filterMap liveRead?

theorem liveReads_append (tr tr' : List (Event routeInterface)) :
    liveReads (tr ++ tr') = liveReads tr ++ liveReads tr' :=
  List.filterMap_append

theorem firstRead_eq_head? (tr : List (Event routeInterface)) :
    firstRead tr = (liveReads tr).head? := by
  induction tr with
  | nil => rfl
  | cons e tr ih =>
    obtain ⟨c, answer⟩ := e
    cases c with
    | fetchQuorumThreshold => rfl
    | selectSettlements | setSlaQuorumThreshold | getVoteCounts => exact ih

/-- Whether a row has no threshold. -/
def SettlementRow.isNull (r : SettlementRow) : Bool := r.quorumThreshold.isNone

/-- **One live read at most.** It is made for the rows of the page that have no threshold, and they
are served with its value unless it failed. -/
structure ReadOnce (db : Db) (slaId : String) (limitQuery : Option String)
    (before : Option SettlementsCursor) (tr : List (Event routeInterface))
    (r : Except Thrown SettlementsResponse) : Prop where
  once : (liveReads tr).length ≤ 1
  filled : ∀ data next, r = .ok (.page data next) → ∃ limit, parseLimit limitQuery = .ok limit ∧
    List.Forall₂ (fun row entry => row.isNull = true →
        (∃ threshold, .ok threshold ∈ liveReads tr ∧ entry.quorumThreshold = some threshold) ∨
          ∃ e, .error e ∈ liveReads tr)
      (db.settlementsPage slaId before limit) data

/-! ### Filling in thresholds -/

section

variable {db db' : Db} {tr : List (Event routeInterface)} {slaId : String}
  {rows : List SettlementRow} {r : Except Thrown (List SettlementRow)}

/-- Reads that fail one after another, one for each of `nulls` rows, or until one succeeds. -/
def ReadsUntilOk (nulls : ℕ) (reads : List (Except Thrown JsNumber)) : Prop :=
  ∃ es : List Thrown, (reads = es.map .error ∧ es.length = nulls) ∨
    ∃ threshold, reads = es.map .error ++ [.ok threshold] ∧ es.length < nulls

/-- There is one such read at most when there is one row, or the first read does not fail. -/
theorem ReadsUntilOk.length_le_one {nulls : ℕ} {reads : List (Except Thrown JsNumber)}
    (h : ReadsUntilOk nulls reads) :
    reads.length ≤ 1 ↔ nulls ≤ 1 ∨ ∀ e, reads.head? ≠ some (.error e) := by
  obtain ⟨es, ⟨rfl, hlength⟩ | ⟨threshold, rfl, hlength⟩⟩ := h
  · cases es with
    | nil => simp
    | cons e es =>
      have hsize : ((e :: es).map (Except.error (α := JsNumber))).length = nulls := by
        rw [List.length_map, hlength]
      rw [hsize]
      refine ⟨.inl, fun h => h.resolve_right fun hok => hok e rfl⟩
  · cases es with
    | nil => simp
    | cons e es =>
      simp only [List.length_cons] at hlength
      simp only [List.map_cons, List.cons_append, List.length_cons, List.length_append,
        List.length_map, List.length_nil, List.head?_cons]
      constructor
      · intro h
        omega
      · rintro (h | h)
        · omega
        · exact absurd rfl (h e)

/-- **The Worker's live reads.** It reads for one row after another until a read succeeds. -/
theorem readsUntilOk_worker
    (h : Exec RouteAnswers (fillThresholdsWorker slaId none rows) db tr r db') :
    ReadsUntilOk (rows.countP SettlementRow.isNull) (liveReads tr) := by
  induction rows generalizing db tr r with
  | nil =>
    obtain ⟨rfl, -, -⟩ := exec_return_iff.mp h
    exact ⟨[], .inl ⟨rfl, rfl⟩⟩
  | cons row rows ih =>
    rw [fillThresholdsWorker] at h
    split at h
    · rename_i hnull
      have hcount : (row :: rows).countP SettlementRow.isNull =
          rows.countP SettlementRow.isNull + 1 :=
        List.countP_cons_of_pos (by rw [SettlementRow.isNull, hnull]; rfl)
      rw [hcount]
      rcases exec_throwing_bind_iff.mp h with
        ⟨e, hfails, -⟩ | ⟨tr₁, cached, db₁, tr₂, hcached, rest, rfl⟩
      · obtain ⟨answer, db₁, tr₁, -, hrest, -⟩ := exec_observe_bind_iff.mp hfails
        cases answer with
        | error e' =>
          obtain ⟨-, ⟨⟩, -⟩ := exec_return_iff.mp hrest
        | ok threshold =>
          obtain ⟨_, _, _, -, hreturn, -⟩ := exec_observe_bind_iff.mp hrest
          obtain ⟨-, ⟨⟩, -⟩ := exec_return_iff.mp hreturn
      obtain ⟨x, hrest, -⟩ := exec_bind_return_iff.mp rest
      rw [liveReads_append]
      obtain ⟨answer, db₂, tr₃, -, hafter, rfl⟩ := exec_observe_bind_iff.mp hcached
      cases answer with
      | error e =>
        -- the read has failed, and the next row without a threshold is read for again
        obtain ⟨rfl, ⟨⟩, rfl⟩ := exec_return_iff.mp hafter
        obtain ⟨es, ⟨hreads, hlength⟩ | ⟨threshold, hreads, hlength⟩⟩ := ih hrest
        · refine ⟨e :: es, .inl ⟨?_, by rw [List.length_cons, hlength]⟩⟩
          rw [hreads]
          rfl
        · refine ⟨e :: es, .inr ⟨threshold, ?_, by rw [List.length_cons]; omega⟩⟩
          rw [hreads]
          rfl
      | ok threshold =>
        obtain ⟨stored, db₃, tr₄, -, hreturn, rfl⟩ := exec_observe_bind_iff.mp hafter
        obtain ⟨rfl, ⟨⟩, rfl⟩ := exec_return_iff.mp hreturn
        refine ⟨[], .inr ⟨threshold, ?_, Nat.succ_pos _⟩⟩
        rw [show fillThresholdsWorker slaId (some threshold) rows = _ from
          fillThresholdsWorker_of_cached threshold rows] at hrest
        obtain ⟨rfl, -, -⟩ := exec_return_iff.mp hrest
        rfl
    · rename_i hsome
      have hcount : (row :: rows).countP SettlementRow.isNull =
          rows.countP SettlementRow.isNull :=
        List.countP_cons_of_neg (by
          rw [SettlementRow.isNull, Option.isNone_iff_eq_none]
          exact hsome)
      rw [hcount]
      obtain ⟨x, hrest, -⟩ := exec_bind_return_iff.mp h
      exact ih hrest

/-- The Node route's live read. -/
theorem exec_cachedThresholdNode {x : Except Thrown JsNumber}
    (h : Exec RouteAnswers (cachedThresholdNode slaId none) db tr x db') :
    ∃ answer, liveReads tr = [answer] ∧
      ∀ threshold, x = .ok threshold → answer = .ok threshold := by
  rcases exec_ask_bind_iff.mp h with ⟨e, -, rfl, rfl⟩ | ⟨threshold, db₁, tr₁, -, rest, rfl⟩
  · exact ⟨.error e, rfl, nofun⟩
  refine ⟨.ok threshold, ?_, ?_⟩ <;>
    rcases exec_ask_bind_iff.mp rest with ⟨e, -, rfl, rfl⟩ | ⟨_, db₂, tr₂, -, hreturn, rfl⟩
  · rfl
  · obtain ⟨rfl, -, -⟩ := exec_return_iff.mp hreturn
    rfl
  · exact nofun
  · obtain ⟨-, rfl, -⟩ := exec_return_iff.mp hreturn
    exact fun _ hok => congrArg _ (Except.ok.inj hok)

/-- **The Node route's live reads.** It makes one at most, and either needs none or fills in what it
returned. -/
theorem exec_fillThresholdsNode
    (h : Exec RouteAnswers (fillThresholdsNode slaId none rows) db tr r db') :
    (liveReads tr).length ≤ 1 ∧ ∀ rows', r = .ok rows' →
      (rows' = rows ∧ ∀ r ∈ rows, r.isNull = false) ∨
        ∃ threshold, liveReads tr = [.ok threshold] ∧
          rows' = rows.map (SettlementRow.fillWith threshold) := by
  induction rows generalizing r with
  | nil =>
    obtain ⟨rfl, rfl, -⟩ := exec_return_iff.mp h
    refine ⟨Nat.zero_le _, fun rows' hrows => .inl ⟨(Except.ok.inj hrows).symm, ?_⟩⟩
    exact List.forall_mem_nil _
  | cons row rows ih =>
    rw [fillThresholdsNode] at h
    split at h
    · rename_i hnull
      rcases exec_throwing_bind_iff.mp h with
        ⟨e, hfails, rfl⟩ | ⟨tr₁, threshold, db₁, tr₂, hcached, rest, rfl⟩
      · obtain ⟨answer, hreads, -⟩ := exec_cachedThresholdNode hfails
        refine ⟨by rw [hreads]; exact le_rfl, fun rows' hok => ?_⟩
        cases hok
      obtain ⟨answer, hreads, hanswer⟩ := exec_cachedThresholdNode hcached
      obtain rfl := hanswer threshold rfl
      obtain ⟨x, hrest, rfl⟩ := exec_bind_return_iff.mp rest
      rw [fillThresholdsNode_of_cached] at hrest
      obtain ⟨rfl, rfl, -⟩ := exec_return_iff.mp hrest
      rw [List.append_nil, hreads]
      refine ⟨le_rfl, fun rows' hok => .inr ⟨threshold, rfl, ?_⟩⟩
      rw [List.map_cons, SettlementRow.fillWith_of_none hnull, ← Except.ok.inj hok]
    · rename_i hsome
      obtain ⟨x, hrest, rfl⟩ := exec_bind_return_iff.mp h
      obtain ⟨hlength, hrows⟩ := ih hrest
      refine ⟨hlength, fun rows' hok => ?_⟩
      cases x with
      | error e => cases hok
      | ok done =>
        cases hok
        rcases hrows done rfl with ⟨rfl, hfull⟩ | ⟨threshold, hread, rfl⟩
        · refine .inl ⟨rfl, List.forall_mem_cons.mpr ⟨?_, hfull⟩⟩
          rwa [SettlementRow.isNull, Option.isNone_eq_false_iff, Option.isSome_iff_ne_none]
        · refine .inr ⟨threshold, hread, ?_⟩
          rw [List.map_cons, SettlementRow.fillWith_of_ne_none hsome]

/-- Serving rows reads nothing live. -/
theorem liveReads_serveRows {r : Except Thrown (List SettlementEntry)}
    (h : Exec RouteAnswers (serveRows rows) db tr r db') : liveReads tr = [] := by
  refine List.filterMap_eq_nil_iff.mpr fun e he => ?_
  have hcounts := ((okObeys_serveRows rows).exec h).1 e he
  obtain ⟨c, answer⟩ := e
  cases c with
  | getVoteCounts => rfl
  | selectSettlements | fetchQuorumThreshold | setSlaQuorumThreshold => exact hcounts.elim

/-! ### A request -/

/-- The live reads of a request are made while thresholds are filled in, unless it has no page. -/
theorem liveReads_settlementsWith
    {fill : Option JsNumber → List SettlementRow → Route (List SettlementRow)}
    {limitQuery : Option String} {before : Option SettlementsCursor}
    {r : Except Thrown SettlementsResponse}
    (h : Exec RouteAnswers (settlementsWith fill slaId limitQuery before) db tr r db') :
    (liveReads tr = [] ∧ ∀ limit, parseLimit limitQuery = .ok limit → ∃ e,
        (⟨.selectSettlements slaId before (limit + 1), .error e⟩ : Event routeInterface) ∈ tr) ∨
      ∃ limit tr₁ r₁ db₁, parseLimit limitQuery = .ok limit ∧
      Exec RouteAnswers (fill none (db.settlementsPage slaId before limit)) db tr₁ r₁ db₁ ∧
      liveReads tr = liveReads tr₁ := by
  unfold settlementsWith at h
  cases hlimit : parseLimit limitQuery with
  | error response =>
    rw [hlimit] at h
    obtain ⟨rfl, -, -⟩ := exec_return_iff.mp h
    exact .inl ⟨rfl, nofun⟩
  | ok limit =>
    rw [hlimit] at h
    rcases exec_ask_bind_iff.mp h with ⟨e, -, rfl, -⟩ | ⟨selected, db₁, tr₁, here, rest, rfl⟩
    · refine .inl ⟨rfl, fun limit' hlimit' => ⟨e, ?_⟩⟩
      obtain rfl := Except.ok.inj hlimit'
      exact List.mem_cons_self
    cases here with
    | selectSettlements hselected =>
    subst hselected
    rcases exec_throwing_bind_iff.mp rest with
      ⟨e, hfails, -⟩ | ⟨tr₂, filled, db₂, tr₃, hfill, rest₂, rfl⟩
    · rw [take_of_hasMore] at hfails
      exact .inr ⟨limit, tr₁, _, _, rfl, hfails, rfl⟩
    · rw [take_of_hasMore] at hfill
      obtain ⟨x, hserve, -⟩ := exec_bind_return_iff.mp rest₂
      refine .inr ⟨limit, tr₂, _, _, rfl, hfill, ?_⟩
      change liveReads (tr₂ ++ tr₃) = liveReads tr₂
      rw [liveReads_append, liveReads_serveRows hserve, List.append_nil]

/-- Rows that need no threshold, or have been filled in with one that was read. -/
private theorem forall₂_filled {page filled : List SettlementRow}
    {reads : List (Except Thrown JsNumber)} (votes : SettlementRow → VoteCounts)
    (h : (filled = page ∧ ∀ r ∈ page, r.isNull = false) ∨
      ∃ threshold, .ok threshold ∈ reads ∧ filled = page.map (SettlementRow.fillWith threshold)) :
    List.Forall₂ (fun row entry => row.isNull = true →
        (∃ threshold, .ok threshold ∈ reads ∧ entry.quorumThreshold = some threshold) ∨
          ∃ e, .error e ∈ reads)
      page (filled.map fun r => settlementEntry r (votes r)) := by
  rcases h with ⟨rfl, hfull⟩ | ⟨threshold, hread, rfl⟩
  · rw [List.forall₂_map_right_iff]
    refine List.forall₂_same.mpr fun r hr hnull => ?_
    rw [hfull r hr] at hnull
    cases hnull
  · rw [List.map_map, List.forall₂_map_right_iff]
    refine List.forall₂_same.mpr fun r _ hnull => .inl ⟨threshold, hread, ?_⟩
    have hnone : r.quorumThreshold = none := Option.isNone_iff_eq_none.mp hnull
    rw [Function.comp_apply, SettlementRow.fillWith_of_none hnone]
    rfl

variable {limitQuery : Option String} {before : Option SettlementsCursor}
  {response : Except Thrown SettlementsResponse}

/-- The Node route makes one read at most. -/
theorem readOnce_node
    (h : Exec RouteAnswers (nodeSettlements slaId limitQuery before) db tr response db') :
    ReadOnce db slaId limitQuery before tr response where
  once := by
    rcases liveReads_settlementsWith h with ⟨hnone, -⟩ | ⟨limit, tr₁, r₁, db₁, -, hfill, hreads⟩
    · rw [hnone]
      exact Nat.zero_le _
    · rw [hreads]
      exact (exec_fillThresholdsNode hfill).1
  filled := by
    rintro data next rfl
    obtain ⟨limit, filled, tr₁, db₁, tr₂, hlimit, hfill, hserve, rfl, -⟩ :=
      exec_settlementsWith_page h
    refine ⟨limit, hlimit, ?_⟩
    have hreads : liveReads (⟨.selectSettlements slaId before (limit + 1),
        .ok (db.selectSettlements slaId before (limit + 1))⟩ :: (tr₁ ++ tr₂)) = liveReads tr₁ := by
      change liveReads (tr₁ ++ tr₂) = _
      rw [liveReads_append, liveReads_serveRows hserve, List.append_nil]
    rw [hreads, exec_serveRows hserve]
    refine forall₂_filled _ ?_
    rcases (exec_fillThresholdsNode hfill).2 filled rfl with hfull | ⟨threshold, hread, hrows⟩
    · exact .inl hfull
    · exact .inr ⟨threshold, by rw [hread]; exact List.mem_cons_self, hrows⟩

/-- The Worker serves rows without a threshold with the one that was read, unless a read failed. -/
theorem filled_worker {data : List SettlementEntry} {next : Option SettlementsCursor}
    (h : Exec RouteAnswers (workerSettlements slaId limitQuery before) db tr (.ok (.page data next))
      db') :
    ∃ limit, parseLimit limitQuery = .ok limit ∧
      List.Forall₂ (fun row entry => row.isNull = true →
          (∃ threshold, .ok threshold ∈ liveReads tr ∧ entry.quorumThreshold = some threshold) ∨
            ∃ e, .error e ∈ liveReads tr)
        (db.settlementsPage slaId before limit) data := by
  obtain ⟨limit, filled, hlimit, hdata, hfilled⟩ := exec_workerSettlements h
  have hmem : ∀ {answer : Except Thrown JsNumber}, firstRead tr = some answer →
      answer ∈ liveReads tr := by
    intro answer hread
    rw [firstRead_eq_head?] at hread
    exact List.mem_of_head? hread
  rcases hfilled with ⟨hsame, hfull, -⟩ | ⟨threshold, hread, hrows⟩ | ⟨⟨e, hread⟩, -, -⟩
  · refine ⟨limit, hlimit, hdata ▸ forall₂_filled _ (.inl ⟨hsame, fun r hr => ?_⟩)⟩
    rw [SettlementRow.isNull, Option.isNone_eq_false_iff, Option.isSome_iff_ne_none]
    exact hfull r hr
  · exact ⟨limit, hlimit, hdata ▸ forall₂_filled _ (.inr ⟨threshold, hmem hread, hrows⟩)⟩
  · obtain ⟨limit', hlimit', hserved⟩ := exec_settlementsWith (fillsThresholds_worker slaId) h
    exact ⟨limit', hlimit', hserved.imp fun _ _ _ _ => .inr ⟨e, hmem hread⟩⟩

/-- The Worker makes one read at most when the page has at most one row without a threshold, or the
first read does not fail. -/
theorem readOnce_worker_iff
    (h : Exec RouteAnswers (workerSettlements slaId limitQuery before) db tr response db') :
    ReadOnce db slaId limitQuery before tr response ↔
      ∀ limit, parseLimit limitQuery = .ok limit →
        (db.settlementsPage slaId before limit).countP SettlementRow.isNull ≤ 1 ∨
          ∀ e, firstRead tr ≠ some (.error e) := by
  have hfilled : ReadOnce db slaId limitQuery before tr response ↔ (liveReads tr).length ≤ 1 := by
    refine ⟨ReadOnce.once, fun honce => ⟨honce, ?_⟩⟩
    rintro data next rfl
    exact filled_worker h
  rw [hfilled, firstRead_eq_head?]
  rcases liveReads_settlementsWith h with ⟨hnone, -⟩ | ⟨limit, tr₁, r₁, db₁, hlimit, hfill, hreads⟩
  · rw [hnone]
    exact iff_of_true (Nat.zero_le _) fun _ _ => .inr nofun
  · rw [hreads, (readsUntilOk_worker hfill).length_le_one]
    constructor
    · intro hone limit' hlimit'
      obtain rfl := Except.ok.inj (hlimit.symm.trans hlimit')
      exact hone
    · exact fun hone => hone limit hlimit

/-- **When a request makes one live read at most:** always, in the Node route; in the Worker, when
the page has at most one row without a threshold, or the first read does not fail. -/
theorem read_once_iff (db : Db) (slaId : String) (limitQuery : Option String)
    (before : Option SettlementsCursor) :
    (∀ tr r db', Exec RouteAnswers (nodeSettlements slaId limitQuery before) db tr r db' →
      ReadOnce db slaId limitQuery before tr r) ∧
    ∀ tr r db', Exec RouteAnswers (workerSettlements slaId limitQuery before) db tr r db' →
      (ReadOnce db slaId limitQuery before tr r ↔ ∀ limit, parseLimit limitQuery = .ok limit →
        (db.settlementsPage slaId before limit).countP SettlementRow.isNull ≤ 1 ∨
          ∀ e, firstRead tr ≠ some (.error e)) :=
  ⟨fun _ _ _ h => readOnce_node h, fun _ _ _ h => readOnce_worker_iff h⟩

end

/-! ### Two settlements to read for -/

/-- Two settlements of SLA `1` without a threshold. -/
def unreadDb : Db :=
  { Db.empty with
    settlements := ⟨[⟨"4", "1", "5", none, "5", "B", "x4", "t3"⟩,
      ⟨"5", "1", "6", none, "5", "B", "x5", "t4"⟩], by decide⟩ }

private theorem countP_page_unreadDb :
    (unreadDb.settlementsPage "1" none 20).countP SettlementRow.isNull = 2 := by
  have hlength : (unreadDb.selectSettlements "1" none 21).length ≤ 20 := by
    rw [Db.selectSettlements, List.length_take, List.length_mergeSort]
    decide
  rw [Db.settlementsPage, List.take_of_length_le hlength, Db.selectSettlements,
    List.take_of_length_le (by rw [List.length_mergeSort]; decide),
    (List.mergeSort_perm _ _).countP_eq]
  rfl

/-- While reads fail, the Worker reads for each of them. -/
theorem read_twice :
    ∃ tr r db', Exec RouteAnswers (workerSettlements "1" none none) unreadDb tr r db' ∧
      ¬ ReadOnce unreadDb "1" none none tr r := by
  obtain ⟨tr, r, db', hdown⟩ :=
    exists_exec rpcDown_serial (workerSettlements "1" none none) unreadDb
  have h := hdown.mono fun _ _ _ _ here => here.answers.routeAnswers
  refine ⟨tr, r, db', h, fun honce => ?_⟩
  have hlimit : parseLimit none = .ok 20 := rfl
  rcases liveReads_settlementsWith h with
    ⟨-, hselect⟩ | ⟨limit, tr₁, r₁, db₁, hlimit', hfill, hreads⟩
  · obtain ⟨e, hmem⟩ := hselect 20 hlimit
    obtain ⟨t, t', here, -⟩ := hdown.answered _ hmem
    cases here
  obtain rfl := Except.ok.inj (hlimit.symm.trans hlimit')
  have huntil := readsUntilOk_worker hfill
  rw [countP_page_unreadDb, ← hreads] at huntil
  obtain ⟨es, ⟨hfailed, hlength⟩ | ⟨threshold, hok, -⟩⟩ := huntil
  · have := honce.once
    rw [hfailed, List.length_map, hlength] at this
    omega
  · -- no read succeeds
    have hmem : (.ok threshold : Except Thrown JsNumber) ∈ liveReads tr := by
      rw [hok]
      exact List.mem_append_right _ List.mem_cons_self
    obtain ⟨⟨c, answer⟩, hevent, hread⟩ := List.mem_filterMap.mp hmem
    cases c with
    | fetchQuorumThreshold slaId =>
      obtain rfl := Option.some.inj hread
      obtain ⟨t, t', -, fails⟩ := hdown.answered _ hevent
      obtain ⟨e, he⟩ := fails slaId rfl
      cases he
    | selectSettlements | setSlaQuorumThreshold | getVoteCounts => cases hread

end Indexer

end SlaSettle
