import SlaSettle.Indexer.Cursor
import SlaSettle.Indexer.LiveReads

/-!
# What a settlements request is answered to its query

The settlements endpoint takes a `limit` and a `before` cursor from its query, any text or none
each. `Validated` says what it should do with them: answer 400, without touching the database, when
the limit is refused (`LimitRefused`) or a cursor is given that is none (`BeforeRefused`), and else
serve as many rows as the limit says (`PageSize`).

A cursor that does not decode reads like one that is not given, and the first page is served.
`settlements_query_validated_iff` says that a request is validated exactly when its limit is refused
anyway, or its cursor is not to be.
-/

namespace SlaSettle

namespace Indexer

open Js Effect Program Store

/-! ### Requests -/

/-- The cursor of a request to the Node route. -/
def nodeBefore (lib : CodecLib) (beforeQuery : Option String) : Option SettlementsCursor :=
  beforeQuery.bind (decodeCursor lib)

/-- The cursor of a request to the Worker: an empty text is none. -/
def workerBefore (lib : CodecLib) : Option String → Option SettlementsCursor
  | some beforeParam => if beforeParam = "" then none else decodeCursor lib beforeParam
  | none => none

/-- A request to the Node route, with its query. -/
def nodeRequest (lib : CodecLib) (slaId : String) (limitQuery beforeQuery : Option String) :
    Route SettlementsResponse :=
  nodeSettlements slaId limitQuery (nodeBefore lib beforeQuery)

/-- A request to the Worker, with its query. -/
def workerRequest (lib : CodecLib) (slaId : String) (limitQuery beforeQuery : Option String) :
    Route SettlementsResponse :=
  workerSettlements slaId limitQuery (workerBefore lib beforeQuery)

/-! ### What a query asks for -/

/-- The limit is negative, or finite and no integer. -/
def LimitRefused (limitQuery : Option String) : Prop :=
  ∃ text, limitQuery = some text ∧ ((JsNumber.ofText text).lt 0 = true ∨
    ∃ q : ℚ, JsNumber.ofText text = .finite q ∧ ∀ n : ℤ, q ≠ n)

/-- A cursor is given, and it is none. -/
def BeforeRefused (lib : CodecLib) (beforeQuery : Option String) : Prop :=
  ∃ text, beforeQuery = some text ∧ text ≠ "" ∧ decodeCursor lib text = none

/-- The number of rows a limit asks for: its value, capped at 100, or 20 if it is absent, empty,
zero or not a number. -/
inductive PageSize : Option String → ℕ → Prop
  | absent : PageSize none 20
  | nan {text : String} (hnumber : JsNumber.ofText text = .nan) : PageSize (some text) 20
  | zero {text : String} (hnumber : JsNumber.ofText text = 0) : PageSize (some text) 20
  | infinite {text : String} (hnumber : JsNumber.ofText text = .posInfinity) :
      PageSize (some text) 100
  | number {text : String} {n : ℕ} (hnumber : JsNumber.ofText text = (n : JsNumber))
      (hpos : 0 < n) : PageSize (some text) (min n 100)

/-- An empty limit counts as zero. -/
example : PageSize (some "") 20 := .zero rfl

theorem PageSize.bounds {limitQuery : Option String} {n : ℕ} (h : PageSize limitQuery n) :
    0 < n ∧ n ≤ 100 := by
  cases h with
  | absent | nan _ | zero _ | infinite _ => decide
  | number _ hpos => omega

/-- **A query is validated.** -/
structure Validated (lib : CodecLib) (limitQuery beforeQuery : Option String)
    (tr : List (Event routeInterface)) (r : Except Thrown SettlementsResponse) : Prop where
  /-- A refused request is answered 400, without a call. -/
  refused : LimitRefused limitQuery ∨ BeforeRefused lib beforeQuery →
    tr = [] ∧ ∃ error message, r = .ok (.badRequest error message)
  /-- Any other selects and serves as many rows as its limit says. -/
  served : ¬ LimitRefused limitQuery → ¬ BeforeRefused lib beforeQuery →
    (∀ error message, r ≠ .ok (.badRequest error message)) ∧ ∃ n, PageSize limitQuery n ∧
      (∀ slaId before limit answer,
        (⟨.selectSettlements slaId before limit, answer⟩ : Event routeInterface) ∈ tr →
          limit = n + 1) ∧
      ∀ data next, r = .ok (.page data next) → data.length ≤ n
  /-- What is bound to `LIMIT` is between 2 and 101. -/
  bound : ∀ slaId before limit answer,
    (⟨.selectSettlements slaId before limit, answer⟩ : Event routeInterface) ∈ tr →
      2 ≤ limit ∧ limit ≤ 101

/-! ### The limit -/

theorem parseLimit_of_refused {limitQuery : Option String} (h : LimitRefused limitQuery) :
    ∃ error message, parseLimit limitQuery = .error (error, message) := by
  obtain ⟨text, rfl, hnegative | ⟨q, hq, hinteger⟩⟩ := h
  · exact ⟨_, _, if_pos hnegative⟩
  · have hden : (JsNumber.finite q).isInteger = false := by
      refine decide_eq_false fun hden => hinteger q.num ?_
      exact (Rat.coe_int_num_of_den_eq_one hden).symm
    rw [parseLimit]
    simp only [hq]
    by_cases hnegative : (JsNumber.finite q).lt 0 = true
    · exact ⟨_, _, if_pos hnegative⟩
    · rw [if_neg hnegative, if_pos (by rw [hden]; rfl)]
      exact ⟨_, _, rfl⟩

/-- An integer that is not negative is accepted. -/
theorem parseLimit_of_natCast {text : String} {n : ℕ}
    (hnumber : JsNumber.ofText text = (n : JsNumber)) :
    parseLimit (some text) = .ok (if n = 0 then 20 else min n 100) := by
  have hnegative : (JsNumber.finite (n : ℚ)).lt 0 = false :=
    decide_eq_false (not_lt.mpr (Nat.cast_nonneg n))
  have hinteger : (JsNumber.finite (n : ℚ)).isInteger = true := decide_eq_true (Rat.den_natCast n)
  rw [parseLimit]
  simp only [hnumber, JsNumber.natCast_eq, hnegative, hinteger]
  by_cases hzero : n = 0
  · subst hzero
    rfl
  have htruthy : (JsNumber.finite (n : ℚ)).truthy = true :=
    decide_eq_true (by exact_mod_cast hzero)
  have hmin : (JsNumber.finite (n : ℚ)).min 100 =
      if (JsNumber.finite (n : ℚ)).lt 100 then .finite n else 100 := rfl
  have hlt : (JsNumber.finite (n : ℚ)).lt 100 = decide (n < 100) := by
    rw [show (100 : JsNumber) = ((100 : ℕ) : JsNumber) from rfl, JsNumber.natCast_eq,
      JsNumber.lt_finite]
    exact decide_eq_decide.mpr Nat.cast_lt
  rw [htruthy, if_pos rfl, hmin, hlt, if_neg hzero]
  by_cases hn : n < 100
  · rw [if_pos (decide_eq_true hn), Nat.min_eq_left hn.le]
    simp
  · rw [if_neg (fun h => hn (of_decide_eq_true h)), Nat.min_eq_right (not_lt.mp hn)]
    simp only [Bool.not_true, Bool.and_false, Bool.false_eq_true, if_false]
    rfl

/-- What is not refused is accepted, for the number of rows it asks for. -/
theorem parseLimit_of_not_refused {limitQuery : Option String} (h : ¬ LimitRefused limitQuery) :
    ∃ n, PageSize limitQuery n ∧ parseLimit limitQuery = .ok n := by
  cases limitQuery with
  | none => exact ⟨20, .absent, rfl⟩
  | some text =>
  cases hnumber : JsNumber.ofText text with
  | nan => exact ⟨20, .nan hnumber, by rw [parseLimit]; simp only [hnumber]; rfl⟩
  | posInfinity => exact ⟨100, .infinite hnumber, by rw [parseLimit]; simp only [hnumber]; rfl⟩
  | negInfinity => exact absurd ⟨text, rfl, .inl (by rw [hnumber]; rfl)⟩ h
  | finite q =>
    have hnonneg : 0 ≤ q := by
      by_contra hneg
      refine h ⟨text, rfl, .inl ?_⟩
      rw [hnumber]
      exact decide_eq_true (not_le.mp hneg)
    obtain ⟨z, rfl⟩ : ∃ z : ℤ, q = z := by
      by_contra hinteger
      push Not at hinteger
      exact h ⟨text, rfl, .inr ⟨q, hnumber, hinteger⟩⟩
    obtain ⟨n, rfl⟩ := Int.eq_ofNat_of_zero_le (Int.cast_nonneg_iff.mp hnonneg)
    have hnumber : JsNumber.ofText text = (n : JsNumber) := by
      rw [hnumber, JsNumber.natCast_eq]
      norm_cast
    refine ⟨_, ?_, parseLimit_of_natCast hnumber⟩
    by_cases hzero : n = 0
    · subst hzero
      exact .zero hnumber
    · rw [if_neg hzero]
      exact .number hnumber (Nat.pos_of_ne_zero hzero)

/-! ### Calls -/

/-- Selects no page. -/
def RouteCall.NoSelect : RouteCall → Prop
  | selectSettlements _ _ _ => False
  | _ => True

section

variable {slaId : String}

theorem okObeys_call {c : RouteCall} (hc : c.NoSelect) :
    OkObeys (I := routeInterface) RouteCall.NoSelect (fun _ => True) c.await :=
  okObeys_ask hc

theorem okObeys_fillWorker (cached : Option JsNumber) (rows : List SettlementRow) :
    OkObeys (I := routeInterface) RouteCall.NoSelect (fun _ => True)
      (fillThresholdsWorker slaId cached rows) := by
  induction rows generalizing cached with
  | nil => exact okObeys_return trivial
  | cons row rows ih =>
    rw [fillThresholdsWorker]
    split
    · refine okObeys_bind (Q := fun _ => True) ?_ fun cached' _ =>
        okObeys_bind (ih cached') fun _ _ => okObeys_return trivial
      cases cached with
      | some threshold => exact okObeys_return trivial
      | none =>
        refine okObeys_bind (okObeys_observe (I := routeInterface)
          (c := .fetchQuorumThreshold slaId) trivial) fun answer _ => ?_
        cases answer with
        | error e => exact okObeys_return trivial
        | ok threshold =>
          exact okObeys_bind (okObeys_observe (I := routeInterface)
            (c := .setSlaQuorumThreshold slaId threshold) trivial) fun _ _ => okObeys_return trivial
    · exact okObeys_bind (ih cached) fun _ _ => okObeys_return trivial

theorem okObeys_fillNode (cached : Option JsNumber) (rows : List SettlementRow) :
    OkObeys (I := routeInterface) RouteCall.NoSelect (fun _ => True)
      (fillThresholdsNode slaId cached rows) := by
  induction rows generalizing cached with
  | nil => exact okObeys_return trivial
  | cons row rows ih =>
    rw [fillThresholdsNode]
    split
    · refine okObeys_bind (Q := fun _ => True) ?_ fun threshold _ =>
        okObeys_bind (ih (some threshold)) fun _ _ => okObeys_return trivial
      cases cached with
      | some threshold => exact okObeys_return trivial
      | none =>
        refine okObeys_bind (okObeys_call (c := .fetchQuorumThreshold slaId) trivial)
          fun threshold _ => ?_
        exact okObeys_bind (okObeys_call (c := .setSlaQuorumThreshold slaId threshold) trivial)
          fun _ _ => okObeys_return trivial
    · exact okObeys_bind (ih cached) fun _ _ => okObeys_return trivial

theorem RouteCall.CountsVotes.noSelect : ∀ c : RouteCall, c.CountsVotes → c.NoSelect
  | .getVoteCounts _ _, _ => trivial

/-- A request whose limit is accepted selects one page more than its limit, and is not answered
400. -/
theorem exec_settlementsWith_accepted
    {fill : Option JsNumber → List SettlementRow → Route (List SettlementRow)}
    (hfill : ∀ cached rows, OkObeys (I := routeInterface) RouteCall.NoSelect (fun _ => True)
      (fill cached rows))
    {limitQuery : Option String} {before : Option SettlementsCursor} {limit : ℕ} {db db' : Db}
    {tr : List (Event routeInterface)} {r : Except Thrown SettlementsResponse}
    (hlimit : parseLimit limitQuery = .ok limit)
    (h : Exec RouteAnswers (settlementsWith fill slaId limitQuery before) db tr r db') :
    (∃ answer tr', tr = ⟨.selectSettlements slaId before (limit + 1), answer⟩ :: tr' ∧
        ∀ e ∈ tr', RouteCall.NoSelect e.1) ∧
      ∀ error message, r ≠ .ok (.badRequest error message) := by
  unfold settlementsWith at h
  rw [hlimit] at h
  rcases exec_ask_bind_iff.mp h with ⟨e, -, rfl, rfl⟩ | ⟨rows, db₁, tr₁, -, rest, rfl⟩
  · exact ⟨⟨_, [], rfl, nofun⟩, nofun⟩
  have hrest : ∀ (page : List SettlementRow) (hasMore : Bool),
      OkObeys (I := routeInterface) RouteCall.NoSelect
      (fun response => ∀ error message, response ≠ .badRequest error message)
      ((do
        let page ← fill none page
        let data ← serveRows page
        let nextCursor := if hasMore then page.getLast?.map SettlementRow.cursor else none
        return .page data nextCursor) : Route SettlementsResponse) := fun page hasMore =>
    okObeys_bind (hfill none page) fun filled _ =>
      okObeys_bind ((okObeys_serveRows filled).mono RouteCall.CountsVotes.noSelect fun _ h => h)
        fun data _ => okObeys_return nofun
  obtain ⟨hcalls, hresponse⟩ := (hrest _ _).exec rest
  refine ⟨⟨_, tr₁, rfl, hcalls⟩, ?_⟩
  rintro error message rfl
  exact hresponse _ rfl error message rfl

/-- A request with a `before` cursor that is read as `before`. -/
theorem validated_iff {lib : CodecLib}
    {fill : Option JsNumber → List SettlementRow → Route (List SettlementRow)}
    (hcalls : ∀ cached rows, OkObeys (I := routeInterface) RouteCall.NoSelect (fun _ => True)
      (fill cached rows))
    (hfill : FillsThresholds fill) {limitQuery beforeQuery : Option String}
    {before : Option SettlementsCursor} {db db' : Db} {tr : List (Event routeInterface)}
    {r : Except Thrown SettlementsResponse}
    (h : Exec RouteAnswers (settlementsWith fill slaId limitQuery before) db tr r db') :
    Validated lib limitQuery beforeQuery tr r ↔
      LimitRefused limitQuery ∨ ¬ BeforeRefused lib beforeQuery := by
  by_cases hrefused : LimitRefused limitQuery
  · obtain ⟨error, message, hlimit⟩ := parseLimit_of_refused hrefused
    unfold settlementsWith at h
    rw [hlimit] at h
    obtain ⟨rfl, rfl, -⟩ := exec_return_iff.mp h
    refine iff_of_true ⟨fun _ => ⟨rfl, error, message, rfl⟩, fun hnot => absurd hrefused hnot, ?_⟩
      (.inl hrefused)
    exact nofun
  obtain ⟨n, hsize, hlimit⟩ := parseLimit_of_not_refused hrefused
  obtain ⟨⟨answer, tr', htr, hothers⟩, hresponse⟩ := exec_settlementsWith_accepted hcalls hlimit h
  have hselect : ∀ slaId' before' limit' answer',
      (⟨.selectSettlements slaId' before' limit', answer'⟩ : Event routeInterface) ∈ tr →
        limit' = n + 1 := by
    intro slaId' before' limit' answer' hmem
    rw [htr] at hmem
    rcases List.mem_cons.mp hmem with hhere | hrest
    · cases hhere
      rfl
    · exact (hothers _ hrest).elim
  constructor
  · intro hvalidated
    refine .inr fun hbefore => ?_
    obtain ⟨hnone, -⟩ := hvalidated.refused (.inr hbefore)
    rw [htr] at hnone
    cases hnone
  · intro hcondition
    have hbefore := hcondition.resolve_left hrefused
    refine ⟨fun hany => (hany.elim hrefused hbefore).elim, fun _ _ => ⟨hresponse, n, hsize, hselect,
      ?_⟩, fun slaId' before' limit' answer' hmem => ?_⟩
    · rintro data next rfl
      obtain ⟨limit, hlimit', hserved⟩ := exec_settlementsWith hfill h
      obtain rfl := Except.ok.inj (hlimit.symm.trans hlimit')
      rw [← hserved.length_eq, Db.settlementsPage]
      exact List.length_take_le _ _
    · have hbounds := hsize.bounds
      rw [hselect _ _ _ _ hmem]
      omega

variable {lib : CodecLib} {limitQuery beforeQuery : Option String} {db db' : Db}
  {tr : List (Event routeInterface)} {r : Except Thrown SettlementsResponse}

theorem validated_node_iff
    (h : Exec RouteAnswers (nodeRequest lib slaId limitQuery beforeQuery) db tr r db') :
    Validated lib limitQuery beforeQuery tr r ↔
      LimitRefused limitQuery ∨ ¬ BeforeRefused lib beforeQuery :=
  validated_iff okObeys_fillNode (fillsThresholds_node slaId) h

theorem validated_worker_iff
    (h : Exec RouteAnswers (workerRequest lib slaId limitQuery beforeQuery) db tr r db') :
    Validated lib limitQuery beforeQuery tr r ↔
      LimitRefused limitQuery ∨ ¬ BeforeRefused lib beforeQuery :=
  validated_iff okObeys_fillWorker (fillsThresholds_worker slaId) h

end

/-- **When a query is validated:** in both routes, exactly when its limit is refused anyway or its
cursor is not to be. -/
theorem settlements_query_validated_iff (lib : CodecLib) (slaId : String)
    (limitQuery beforeQuery : Option String) (db : Db) :
    (∀ tr r db', Exec RouteAnswers (nodeRequest lib slaId limitQuery beforeQuery) db tr r db' →
      (Validated lib limitQuery beforeQuery tr r ↔
        LimitRefused limitQuery ∨ ¬ BeforeRefused lib beforeQuery)) ∧
    ∀ tr r db', Exec RouteAnswers (workerRequest lib slaId limitQuery beforeQuery) db tr r db' →
      (Validated lib limitQuery beforeQuery tr r ↔
        LimitRefused limitQuery ∨ ¬ BeforeRefused lib beforeQuery) :=
  ⟨fun _ _ _ h => validated_node_iff h, fun _ _ _ h => validated_worker_iff h⟩

/-- The library on the text `x`, which encodes nothing. -/
private def blankCodec : CodecLib where
  stringify _ := ""
  parse _ := .error .other
  toBase64url _ := ""
  fromBase64url _ := ""

/-- A cursor that is none gets the first page, from either route. -/
theorem bad_cursor_served :
    (∃ tr r db', Exec RouteAnswers (nodeRequest blankCodec "1" none (some "x")) Db.empty tr r db' ∧
      ¬ Validated blankCodec none (some "x") tr r) ∧
    ∃ tr r db', Exec RouteAnswers (workerRequest blankCodec "1" none (some "x")) Db.empty tr r db' ∧
      ¬ Validated blankCodec none (some "x") tr r := by
  have hrefused : ¬ (LimitRefused none ∨ ¬ BeforeRefused blankCodec (some "x")) := by
    rintro (⟨_, ⟨⟩, -⟩ | hbefore)
    exact hbefore ⟨"x", rfl, by decide, rfl⟩
  have hexec : ∀ p : Route SettlementsResponse, ∃ tr r db', Exec RouteAnswers p Db.empty tr r db' :=
    fun p => by
      obtain ⟨tr, r, db', hdown⟩ := exists_exec rpcDown_serial p Db.empty
      exact ⟨tr, r, db', hdown.mono fun _ _ _ _ here => here.answers.routeAnswers⟩
  constructor
  · obtain ⟨tr, r, db', h⟩ := hexec (nodeRequest blankCodec "1" none (some "x"))
    exact ⟨tr, r, db', h, fun hvalidated => hrefused ((validated_node_iff h).mp hvalidated)⟩
  · obtain ⟨tr, r, db', h⟩ := hexec (workerRequest blankCodec "1" none (some "x"))
    exact ⟨tr, r, db', h, fun hvalidated => hrefused ((validated_worker_iff h).mp hvalidated)⟩

end Indexer

end SlaSettle
