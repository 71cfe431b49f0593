import SlaSettle.Indexer.LiveReads
import SlaSettle.Indexer.Traffic

/-!
# Cached thresholds

The Worker stores a quorum threshold when it ingests an `sla_created` event, and again when a
request for settlements meets a row without one: it reads the contract live, and the value it got is
written to both tables for later requests. Requests and ingestion overlap in any order.

Suppose that a live read, when it returns, returns the threshold with which the SLA was created.
Then so is everything stored and served, at every moment of every interleaving
(`thresholds_right`): a stored settlement has no threshold or that of its SLA, a stored SLA has its
own, and no response shows another one.

The argument is one of reliance. What a request writes is what it read live, and what it serves is
what it selected or read live; `RouteGood` and `IngestGood` say when answers are good, and
`RouteWrites` and `IngestWrites` what is written while they are.
-/

namespace SlaSettle

namespace Indexer

open Js Effect Program Store

/-! ### Right thresholds -/

/-- The threshold is missing, or the SLA was created with it. -/
def CarriesThreshold (es : Emitted) (slaId : String) (threshold : Option JsNumber) : Prop :=
  ∀ t, threshold = some t → CreatedWith es slaId t

/-- The SLA was created with the threshold, which is there. -/
def OwnThreshold (es : Emitted) (slaId : String) (threshold : Option JsNumber) : Prop :=
  ∃ t, threshold = some t ∧ CreatedWith es slaId t

/-- Every stored SLA has its threshold, and every settlement that of its SLA or none. -/
structure Db.CarriesThresholds (es : Emitted) (db : Db) : Prop where
  slas : ∀ r ∈ db.slas.rows, OwnThreshold es r.slaId r.quorumThreshold
  settlements : ∀ r ∈ db.settlements.rows, CarriesThreshold es r.slaId r.quorumThreshold

variable {es : Emitted} {slaId : String} {threshold : JsNumber} {db : Db}

theorem carriesThreshold_none : CarriesThreshold es slaId none := nofun

theorem CreatedWith.carries (h : CreatedWith es slaId threshold) :
    CarriesThreshold es slaId (some threshold) :=
  fun _ ht => Option.some.inj ht ▸ h

/-- Thresholds are numbers, so they are stored as they are. -/
theorem CreatedWith.bindNumber_eq (h : CreatedWith es slaId threshold) :
    bindNumber (some threshold) = some threshold := by
  obtain ⟨-, -, -, -, -, -, -, n, -, -, -, -, rfl⟩ := h
  rfl

theorem Db.carriesThresholds_empty : Db.empty.CarriesThresholds es :=
  ⟨by simp [Db.empty], by simp [Db.empty]⟩

/-- Caching a right threshold. -/
theorem Db.CarriesThresholds.setSlaQuorumThreshold (h : db.CarriesThresholds es)
    (hright : CreatedWith es slaId threshold) :
    (db.setSlaQuorumThreshold slaId threshold).CarriesThresholds es where
  slas := by
    intro r hr
    simp only [Db.setSlaQuorumThreshold, Table.mem_update] at hr
    obtain ⟨r, hmem, rfl⟩ := hr
    split
    · rename_i hsla
      rw [← of_decide_eq_true hsla] at hright
      exact ⟨threshold, hright.bindNumber_eq, hright⟩
    · exact h.slas r hmem
  settlements := by
    intro r hr
    simp only [Db.setSlaQuorumThreshold, Table.mem_update] at hr
    obtain ⟨r, hmem, rfl⟩ := hr
    split
    · rename_i hsla
      rw [Bool.and_eq_true, decide_eq_true_eq] at hsla
      rw [← hsla.1] at hright
      exact fun t ht => hright.carries t (hright.bindNumber_eq ▸ ht)
    · exact h.settlements r hmem

/-- Storing a batch whose SLAs have their thresholds and whose settlements have none. -/
theorem Db.CarriesThresholds.applyBatch (h : db.CarriesThresholds es) {params : BatchParams}
    (hslas : ∀ s ∈ params.slas, OwnThreshold es s.slaId s.quorumThreshold)
    (hsettlements : ∀ s ∈ params.settlements, s.quorumThreshold = none) :
    (db.applyBatch params).CarriesThresholds es where
  slas := by
    intro r hr
    rcases Table.mem_of_mem_insertAll hr with hr | hr
    · exact h.slas r hr
    · obtain ⟨s, hs, rfl⟩ := List.mem_map.mp hr
      obtain ⟨t, ht, hcreated⟩ := hslas s hs
      refine ⟨t, ?_, hcreated⟩
      rw [SlaRow.stored, ht]
      exact hcreated.bindNumber_eq
  settlements := by
    intro r hr
    rcases Table.mem_of_mem_insertAll hr with hr | hr
    · exact h.settlements r hr
    · obtain ⟨s, hs, rfl⟩ := List.mem_map.mp hr
      rw [SettlementRow.stored, hsettlements s hs]
      exact carriesThreshold_none

/-- The rows of emitted events. -/
theorem Emitted.ownThreshold_sla {s : SlaRow} (hs : s ∈ es.rows.filterMap ContractEvent.sla?) :
    OwnThreshold es s.slaId s.quorumThreshold := by
  obtain ⟨row, hrow, hsla⟩ := List.mem_filterMap.mp hs
  obtain ⟨⟨header, e⟩, he, rfl⟩ := List.mem_map.mp hrow
  cases e with
  | slaCreated slaId provider token endpointHash bondAmount uptimeTargetBps quorumThreshold
      penaltyPerBreach beneficiary =>
    obtain rfl := Option.some.inj hsla
    exact ⟨quorumThreshold, rfl, header, slaId, provider, token, endpointHash, bondAmount,
      uptimeTargetBps, quorumThreshold, penaltyPerBreach, beneficiary, he, rfl, rfl⟩
  | _ => cases hsla

theorem Emitted.quorumThreshold_settlement {s : SettlementRow}
    (hs : s ∈ es.rows.filterMap ContractEvent.settlement?) : s.quorumThreshold = none := by
  obtain ⟨row, hrow, hsettlement⟩ := List.mem_filterMap.mp hs
  obtain ⟨⟨header, e⟩, -, rfl⟩ := List.mem_map.mp hrow
  cases e with
  | settlementPaid slaId roundId payout beneficiary =>
    obtain rfl := Option.some.inj hsettlement
    rfl
  | _ => cases hsettlement

/-! ### Requests for settlements -/

/-- Rows that the handler may serve. -/
def RightRows (es : Emitted) (slaId : String) (rows : List SettlementRow) : Prop :=
  ∀ r ∈ rows, CarriesThreshold es slaId r.quorumThreshold

/-- The answers to the settlements handler are good: rows with right thresholds, and a live read
that returns the one of the SLA. -/
def RouteGood (es : Emitted) : Event routeInterface → Prop
  | ⟨.selectSettlements slaId _ _, .ok rows⟩ => RightRows es slaId rows
  | ⟨.fetchQuorumThreshold slaId, .ok threshold⟩ => CreatedWith es slaId threshold
  | _ => True

/-- What the handler writes is right. -/
def RouteWrites (es : Emitted) : RouteCall → Prop
  | .setSlaQuorumThreshold slaId threshold => CreatedWith es slaId threshold
  | _ => True

theorem okRelies_cachedThresholdWorker {cached : Option JsNumber}
    (h : CarriesThreshold es slaId cached) :
    OkRelies (RouteGood es) (RouteWrites es) (CarriesThreshold es slaId)
      (cachedThresholdWorker slaId cached) := by
  cases cached with
  | some t => exact okRelies_return h
  | none =>
    refine okRelies_bind (okRelies_observe (I := routeInterface) trivial) fun answer hanswer => ?_
    cases answer with
    | error e => exact okRelies_return carriesThreshold_none
    | ok t =>
      have hcreated : CreatedWith es slaId t := hanswer
      exact okRelies_bind (okRelies_observe (I := routeInterface) hcreated) fun _ _ =>
        okRelies_return hcreated.carries

theorem okRelies_fillThresholdsWorker {cached : Option JsNumber} {rows : List SettlementRow}
    (hcached : CarriesThreshold es slaId cached) (hrows : RightRows es slaId rows) :
    OkRelies (RouteGood es) (RouteWrites es) (RightRows es slaId)
      (fillThresholdsWorker slaId cached rows) := by
  induction rows generalizing cached with
  | nil => exact okRelies_return (by simp [RightRows])
  | cons row rows ih =>
    obtain ⟨hrow, hrest⟩ := List.forall_mem_cons.mp hrows
    rw [fillThresholdsWorker]
    split
    · refine okRelies_bind (okRelies_cachedThresholdWorker hcached) fun cached' hcached' => ?_
      exact okRelies_bind (ih hcached' hrest) fun filled hfilled =>
        okRelies_return (List.forall_mem_cons.mpr ⟨hcached', hfilled⟩)
    · exact okRelies_bind (ih hcached hrest) fun filled hfilled =>
        okRelies_return (List.forall_mem_cons.mpr ⟨hrow, hfilled⟩)

/-- Entries that may be served. -/
def RightEntries (es : Emitted) (slaId : String) (data : List SettlementEntry) : Prop :=
  ∀ e ∈ data, CarriesThreshold es slaId e.quorumThreshold

theorem okRelies_serveRows {rows : List SettlementRow} (hrows : RightRows es slaId rows) :
    OkRelies (RouteGood es) (RouteWrites es) (RightEntries es slaId) (serveRows rows) := by
  induction rows with
  | nil => exact okRelies_return (by simp [RightEntries])
  | cons row rows ih =>
    obtain ⟨hrow, hrest⟩ := List.forall_mem_cons.mp hrows
    refine okRelies_bind (okRelies_ask trivial) fun votes _ => ?_
    exact okRelies_bind (ih hrest) fun data hdata =>
      okRelies_return (List.forall_mem_cons.mpr ⟨hrow, hdata⟩)

/-- A page shows right thresholds. -/
def SettlementsResponse.ShowsThresholds (es : Emitted) (slaId : String) :
    SettlementsResponse → Prop
  | .badRequest _ _ => True
  | .page data _ => RightEntries es slaId data

/-- **The handler relies on what it reads.** While the answers are good it writes right thresholds,
and it shows right ones. -/
theorem okRelies_workerSettlements (limitQuery : Option String)
    (before : Option SettlementsCursor) :
    OkRelies (RouteGood es) (RouteWrites es) (SettlementsResponse.ShowsThresholds es slaId)
      (workerSettlements slaId limitQuery before) := by
  rw [workerSettlements, settlementsWith]
  split
  · exact okRelies_return trivial
  · rename_i limit _
    refine okRelies_bind (okRelies_ask trivial) fun rows hrows => ?_
    have hpage : ∀ hasMore : Bool, RightRows es slaId (if hasMore then rows.take limit else rows)
      | true => fun r hr => hrows r (List.mem_of_mem_take hr)
      | false => hrows
    refine okRelies_bind (okRelies_fillThresholdsWorker carriesThreshold_none (hpage _))
      fun page hfilled => ?_
    exact okRelies_bind (okRelies_serveRows hfilled) fun data hdata => okRelies_return hdata

/-! ### Ingestion -/

/-- The page that an ingestion step is given is one of the chain's. -/
def IngestGood (es : Emitted) : Event ingestInterface → Prop
  | ⟨.getEvents _ _ _, .ok page⟩ => page.events ⊆ es.map fun e => e.2.encode e.1
  | _ => True

/-- What ingestion writes is right. -/
def IngestWrites (es : Emitted) : IngestCall → Prop
  | .applyBatch params => (∀ s ∈ params.slas, OwnThreshold es s.slaId s.quorumThreshold) ∧
      ∀ s ∈ params.settlements, s.quorumThreshold = none
  | _ => True

theorem okRelies_runIngestionStep (env : WorkerEnv) :
    OkRelies (IngestGood es) (IngestWrites es) (fun _ => True) (runIngestionStep env) := by
  unfold runIngestionStep
  split
  · exact okRelies_attempt (x := .error _) nofun
  refine okRelies_bind (okRelies_ask trivial) fun cp _ => ?_
  refine okRelies_bind (okRelies_ask trivial) fun page hpage => ?_
  refine okRelies_bind (okRelies_attempt fun _ h => h) fun decoded hdecode => ?_
  refine okRelies_bind (okRelies_attempt fun _ h => h) fun batch hclassify => ?_
  have hbatch : page.events.mapM decodeEvent >>= classifyEvents = .ok batch := by
    rw [hdecode]
    exact hclassify
  obtain ⟨-, rfl⟩ := classifyPage_eq_ok_iff.mp hbatch
  have hrows : history page.events ⊆ es.rows := by
    intro row hrow
    obtain ⟨raw, hraw, hmeaning⟩ := mem_history.mp hrow
    rw [Emitted.rows, ← history_map_encode]
    exact mem_history.mpr ⟨raw, hpage hraw, hmeaning⟩
  have hwrites : ∀ lastLedger lastCursor, IngestWrites es
      (.applyBatch ⟨.ofEvents (history page.events), lastLedger, lastCursor⟩) := by
    refine fun _ _ => ⟨fun s hs => ?_, fun s hs => ?_⟩
    · obtain ⟨row, hrow, hsla⟩ := List.mem_filterMap.mp hs
      exact Emitted.ownThreshold_sla (List.mem_filterMap.mpr ⟨row, hrows hrow, hsla⟩)
    · obtain ⟨row, hrow, hsettlement⟩ := List.mem_filterMap.mp hs
      exact Emitted.quorumThreshold_settlement
        (List.mem_filterMap.mpr ⟨row, hrows hrow, hsettlement⟩)
  exact okRelies_bind (okRelies_ask (hwrites _ _)) fun _ _ => okRelies_return trivial

/-! ### The Worker -/

/-- The answers to a handler are good, and so is what it writes. -/
def ApiGood (es : Emitted) : Event apiInterface → Prop
  | ⟨.settlements c, r⟩ => RouteGood es ⟨c, r⟩
  | _ => True

def ApiWrites (es : Emitted) : ApiCall → Prop
  | .settlements c => RouteWrites es c
  | _ => True

/-- The answers to an invocation are good, and so is what it writes. -/
def WorkerGood (es : Emitted) : Event workerInterface → Prop
  | ⟨.nextEvent, _⟩ => True
  | ⟨.api c, r⟩ => ApiGood es ⟨c, r⟩
  | ⟨.ingest c, r⟩ => IngestGood es ⟨c, r⟩

def WorkerWrites (es : Emitted) : WorkerCall → Prop
  | .nextEvent => True
  | .api c => ApiWrites es c
  | .ingest c => IngestWrites es c

/-- What is served of settlements shows right thresholds. -/
def BodyShowsThresholds (es : Emitted) (lib : ApiLib) (slaId : String) (body : Json) : Prop :=
  ∃ data next, body = settlementsBody lib.toCodecLib data next ∧ RightEntries es slaId data

variable {lib : ApiLib}

private theorem okRelies_getLatestLedgerInfo :
    OkRelies (ApiGood es) (ApiWrites es) (fun _ => True) (getLatestLedgerInfo lib.toTextLib) :=
  okRelies_bind (okRelies_ask trivial) fun _ _ => okRelies_attempt fun _ _ => trivial

theorem okRelies_serve (endpoint : Endpoint) (roundLengthSeconds : JsNumber) (request : Request) :
    OkRelies (ApiGood es) (ApiWrites es) (fun answer => ∀ slaId, endpoint = .settlements slaId →
        answer.1 = 200 → BodyShowsThresholds es lib slaId answer.2)
      (endpoint.serve lib roundLengthSeconds request) := by
  -- only settlements have thresholds
  have hother : ∀ {p : Api (ℕ × Json)}, (∀ slaId, endpoint ≠ .settlements slaId) →
      OkRelies (ApiGood es) (ApiWrites es) (fun _ => True) p →
        OkRelies (ApiGood es) (ApiWrites es) (fun answer => ∀ slaId, endpoint = .settlements slaId →
          answer.1 = 200 → BodyShowsThresholds es lib slaId answer.2) p :=
    fun hne hp => hp.mono fun _ _ slaId heq => absurd heq (hne slaId)
  have hread : ∀ {c : ApiCall} {f : c.Returns → Json}, ApiWrites es c →
      OkRelies (ApiGood es) (ApiWrites es) (fun _ => True)
        (c.await >>= fun x => pure (200, f x) : Api (ℕ × Json)) :=
    fun hc => okRelies_bind (okRelies_ask hc) fun _ _ => okRelies_return trivial
  cases endpoint with
  | health => exact hother nofun (hread trivial)
  | watchers => exact hother nofun (hread trivial)
  | providerSlas address => exact hother nofun (hread trivial)
  | lifecycle slaId => exact hother nofun (hread trivial)
  | clock =>
    refine hother nofun (okRelies_bind (Q := fun _ => True) ?_ fun _ _ => okRelies_return trivial)
    exact okRelies_bind okRelies_getLatestLedgerInfo fun _ _ =>
      okRelies_bind (okRelies_attempt fun _ h => h) fun _ _ => okRelies_return trivial
  | currentRound slaId =>
    refine hother nofun (okRelies_bind (Q := fun _ => True) ?_ fun _ _ => okRelies_return trivial)
    refine okRelies_bind okRelies_getLatestLedgerInfo fun _ _ => ?_
    refine okRelies_bind (Q := fun _ => True) ?_ fun _ _ => ?_
    · exact okRelies_bind (okRelies_ask trivial) fun _ _ => okRelies_return trivial
    · refine okRelies_bind (okRelies_ask trivial) fun _ _ => ?_
      exact okRelies_bind (okRelies_attempt fun _ h => h) fun _ _ => okRelies_return trivial
  | settlements slaId =>
    have hsettled : OkRelies (ApiGood es) (ApiWrites es)
        (SettlementsResponse.ShowsThresholds es slaId) (along settlementsCalls
          (workerRequest lib.toCodecLib slaId request.limit request.before) :
            Api SettlementsResponse) :=
      Relies.along (okRelies_workerSettlements _ _) (fun _ h => h) fun _ _ h => h
    refine okRelies_bind hsettled fun response hresponse => ?_
    cases response with
    | badRequest error message =>
      exact okRelies_return fun _ _ h => absurd h (show (400 : ℕ) ≠ 200 by decide)
    | page data next =>
      refine okRelies_return fun slaId' heq _ => ?_
      obtain rfl := Endpoint.settlements.inj heq
      exact ⟨data, next, rfl, hresponse⟩

/-- A response to a request for settlements that has a body shows right thresholds. -/
def Response.ShowsThresholds (es : Emitted) (lib : ApiLib) (request : Request)
    (response : Response) : Prop :=
  ∀ slaId, route request.method request.path = some (.settlements slaId) → response.status = 200 →
    ∀ body, response.body = some body → BodyShowsThresholds es lib slaId body

theorem relies_workerFetch (env : FetchEnv) (request : Request) :
    Relies (ApiGood es) (ApiWrites es) (Response.ShowsThresholds es lib request)
      (workerFetch lib env request) := by
  unfold workerFetch
  dsimp only
  split
  · exact .done fun _ _ h => absurd h (show (204 : ℕ) ≠ 200 by decide)
  have hserver : OkRelies (ApiGood es) (ApiWrites es) (fun _ => True) ApiCall.newServer.await :=
    (okRelies_ask trivial).mono fun _ _ => trivial
  have hhandled : ∀ corsHeaders, OkRelies (ApiGood es) (ApiWrites es)
      (Response.ShowsThresholds es lib request) (handleRequest lib env request corsHeaders) := by
    intro corsHeaders
    refine okRelies_bind hserver fun _ _ => ?_
    split
    · rename_i endpoint hroute
      refine okRelies_bind (okRelies_serve endpoint env.roundLength request) fun answer hanswer =>
        ?_
      refine okRelies_return fun slaId hsettlements hstatus body hbody => ?_
      have hshows := hanswer slaId (Option.some.inj (hroute.symm.trans hsettlements)) hstatus
      rw [jsonResponse, Option.ite_none_left_eq_some, Option.some.injEq] at hbody
      exact hbody.2 ▸ hshows
    · exact okRelies_return fun _ _ h => absurd h (show (404 : ℕ) ≠ 200 by decide)
  refine Relies.bind (hhandled _) fun r hr => ?_
  cases r with
  | error e => exact .done fun _ _ h => absurd h (show (500 : ℕ) ≠ 200 by decide)
  | ok response => exact .done (hr response rfl)

theorem relies_invocation (fetchEnv : FetchEnv) (env : WorkerEnv) :
    Relies (WorkerGood es) (WorkerWrites es) (fun _ => True) (invocation lib fetchEnv env) := by
  refine .call trivial fun event _ => ?_
  rcases event with e | event
  · exact .done trivial
  cases event with
  | fetch request =>
    exact ((relies_workerFetch fetchEnv request).along (fun _ h => h) fun _ _ h => h).bind
      fun _ _ => .done trivial
  | scheduled =>
    exact (Relies.along (okRelies_runIngestionStep env) (fun _ h => h) fun _ _ h => h).bind
      fun _ _ => .done trivial

/-! ### Every interleaving -/

/-- A live read that returns, returns the threshold with which the SLA was created. -/
def LiveReadsRight (es : Emitted) : (c : WorkerCall) → Except Thrown c.Returns → Prop
  | .api (.settlements (.fetchQuorumThreshold slaId)), .ok threshold =>
    CreatedWith es slaId threshold
  | _, _ => True

/-- The world of the Worker over a chain on which the events `es` were emitted. -/
def RightAnswers (chain : Chain) (es : Emitted) (db : Db) (c : WorkerCall)
    (r : Except Thrown c.Returns) (db' : Db) : Prop :=
  WorkerAnswers chain.Serves db c r db' ∧ LiveReadsRight es c r

variable {chain : Chain}

/-- What is selected for a request. -/
theorem Db.CarriesThresholds.rightRows (h : db.CarriesThresholds es)
    (before : Option SettlementsCursor) (limit : ℕ) :
    RightRows es slaId (db.selectSettlements slaId before limit) := by
  intro row hrow
  rw [Db.selectSettlements] at hrow
  obtain ⟨hstored, hsla⟩ := List.mem_filter.mp
    ((List.mergeSort_perm _ _).subset (List.mem_of_mem_take hrow))
  rw [Bool.and_eq_true, decide_eq_true_eq] at hsla
  exact hsla.1 ▸ h.settlements row hstored

/-- An error is a good answer. -/
theorem workerGood_error {c : WorkerCall} {e : Thrown} : WorkerGood es ⟨c, .error e⟩ := by
  cases c with
  | nextEvent => trivial
  | api c =>
    cases c with
    | settlements c => cases c <;> trivial
    | _ => trivial
  | ingest c => cases c <;> trivial

/-- While the tables are right, so is every answer. -/
theorem RightAnswers.good (hes : chain.events = es.map fun e => e.2.encode e.1) {db' : Db}
    {c : WorkerCall} {r : Except Thrown c.Returns} (h : RightAnswers chain es db c r db')
    (hdb : db.CarriesThresholds es) : WorkerGood es ⟨c, r⟩ := by
  obtain ⟨hanswers, hlive⟩ := h
  cases hanswers with
  | nextEvent => trivial
  | api here =>
    cases here with
    | settlements here =>
      cases here with
      | selectSettlements selected => exact selected ▸ hdb.rightRows _ _
      | fetchQuorumThreshold => exact hlive
      | throws => exact workerGood_error
      | _ => trivial
    | throws => exact workerGood_error
    | _ => trivial
  | ingest here =>
    cases here with
    | getEvents served =>
      intro raw hraw
      rw [← hes]
      exact served.subset hraw
    | throws => exact workerGood_error
    | _ => trivial

/-- What is right when written keeps the tables right. -/
theorem RightAnswers.carriesThresholds {db' : Db} {c : WorkerCall} {r : Except Thrown c.Returns}
    (h : RightAnswers chain es db c r db') (hwrites : WorkerWrites es c)
    (hdb : db.CarriesThresholds es) : db'.CarriesThresholds es := by
  cases h.1 with
  | nextEvent => exact hdb
  | api here =>
    cases here with
    | settlements here =>
      cases here with
      | setSlaQuorumThreshold => exact hdb.setSlaQuorumThreshold hwrites
      | _ => exact hdb
    | _ => exact hdb
  | ingest here =>
    cases here with
    | applyBatch => exact hdb.applyBatch hwrites.1 hwrites.2
    | _ => exact hdb

/-- **Thresholds are right.** In every interleaving of requests and ingestion steps, every stored
SLA has the threshold it was created with, every stored settlement has that of its SLA or none, and
no response to a request for settlements shows another one. -/
theorem thresholds_right (hes : chain.events = es.map fun e => e.2.encode e.1)
    {fetchEnv : FetchEnv} {env : WorkerEnv} {pool : Pool Db workerInterface (Option Response)}
    (h : Pool.Reachable (fun _ => RightAnswers chain es) (invocation lib fetchEnv env) Db.empty
      pool) :
    pool.world.CarriesThresholds es ∧
      ∀ request tr response,
        ⟨⟨.nextEvent, .ok (.fetch request)⟩ :: tr, .done (some response)⟩ ∈ pool.threads →
          response.ShowsThresholds es lib request := by
  obtain ⟨hworld, hthreads⟩ := Pool.Reachable.invariant (Db.CarriesThresholds es)
    (fun _ tr => ∀ e ∈ tr, WorkerGood es e) Db.carriesThresholds_empty (fun _ _ => by simp)
    (fun {tr c next s r s'} hres hinv hloc here => by
      have hwrites := ((relies_invocation fetchEnv env).residual hres hloc).call_inv
      refine ⟨here.carriesThresholds hwrites hinv, fun e he => ?_⟩
      rcases List.mem_append.mp he with he | he
      · exact hloc e he
      · exact List.mem_singleton.mp he ▸ here.good hes hinv)
    (fun _ _ _ _ _ hloc => hloc) h
  refine ⟨hworld, fun request tr response hthread => ?_⟩
  obtain ⟨hres, hgood⟩ := hthreads _ hthread
  rcases residual_call_iff.mp hres with ⟨hnil, -⟩ | ⟨event, tr', hrest, hcons⟩
  · cases hnil
  obtain ⟨hhead, rfl⟩ := List.cons.inj hcons
  cases hhead
  have hrelies : Relies (WorkerGood es) (WorkerWrites es)
      (fun o : Option Response => ∀ r, o = some r → r.ShowsThresholds es lib request)
      (along apiCalls (workerFetch lib fetchEnv request) >>= fun r => done (some r)) :=
    ((relies_workerFetch fetchEnv request).along (fun _ h => h) fun _ _ h => h).bind
      fun r hr => .done fun r' hr' => Option.some.inj hr' ▸ hr
  exact (hrelies.residual hrest fun e he => hgood e (List.mem_cons_of_mem _ he)).done_inv
    response rfl

/-- An SLA is created with threshold 2, and settled. -/
def settledEvents : Emitted :=
  [(⟨"1", 5000000, "t1", "x1", "vault"⟩, .slaCreated 1 "P" "T" [1] 100 9900 2 5 "B"),
    (⟨"2", 5000001, "t2", "x2", "vault"⟩, .settlementPaid 1 5 5 "B")]

def settledChain : Chain :=
  .ofEmitted settledEvents (fun _ => 2) (by decide) (by decide) (by decide)

private def settledPage : GetEventsResponse := ⟨settledChain.events, 5000002, some "1"⟩

private theorem serves_settledPage :
    settledChain.Serves (.ledger (4963530 : ℕ)) 50 settledPage := by
  have hindex : settledChain.indexOf (.ledger (4963530 : ℕ)) = 0 := by decide +kernel
  refine ⟨?_, by decide, by decide, fun c _ _ => ?_⟩
  · rw [hindex]
    exact List.prefix_refl _
  · rw [hindex]
    rfl

private def settlementsRequest : Request := ⟨"GET", "/v1/slas/1/settlements", none, none, none⟩

private def settledRows : List SettlementRow := [⟨"2", "1", "5", none, "5", "B", "x2", "t2"⟩]

/-- A step stores both events; then a request is answered, whose live read returns 2. -/
theorem thresholds_right_settled :
    ∃ pool tr response,
      Pool.Reachable (fun _ => RightAnswers settledChain settledEvents)
        (invocation plainLib hubEnv plainEnv) Db.empty pool ∧
      ⟨⟨.nextEvent, .ok (.fetch settlementsRequest)⟩ :: tr, .done (some response)⟩ ∈ pool.threads ∧
      pool.world.CarriesThresholds settledEvents ∧
      response.ShowsThresholds settledEvents plainLib settlementsRequest := by
  have h₀ : Pool.Reachable (fun _ => RightAnswers settledChain settledEvents)
      (invocation plainLib hubEnv plainEnv) Db.empty ⟨Db.empty, []⟩ := .refl
  have hstep : Exec (RightAnswers settledChain settledEvents)
      (invocation plainLib hubEnv plainEnv) Db.empty _ _
      (Db.empty.applyBatch (storedBatch settledPage ⟨5000002, some "1"⟩)) :=
    .call ⟨@WorkerAnswers.nextEvent _ _ .scheduled, trivial⟩
      (.call ⟨.ingest .getCheckpoint, trivial⟩
        (.call ⟨.ingest (.getEvents serves_settledPage), trivial⟩
          (.call ⟨.ingest .applyBatch, trivial⟩ .done)))
  have h₁ := h₀.start.complete [] hstep
  have h₂ := h₁.start.answer [] ⟨@WorkerAnswers.nextEvent _ _ (.fetch settlementsRequest), trivial⟩
  have h₃ := h₂.answer [] ⟨.api .newServer, trivial⟩
  have hselected : (Db.empty.applyBatch (storedBatch settledPage
      ⟨5000002, some "1"⟩)).selectSettlements "1" none 21 = settledRows := by decide +kernel
  have h₄ := h₃.answer [] ⟨.api (.settlements (.selectSettlements hselected)), trivial⟩
  have hcreated : CreatedWith settledEvents "1" (2 : ℕ) :=
    ⟨_, _, _, _, _, _, _, _, _, _, List.mem_cons_self, rfl, rfl⟩
  have h₅ := h₄.answer [] ⟨.api (.settlements .fetchQuorumThreshold), hcreated⟩
  have h₆ := h₅.answer [] ⟨.api (.settlements .setSlaQuorumThreshold), trivial⟩
  have h₇ := h₆.answer [] ⟨.api (.settlements .getVoteCounts), trivial⟩
  obtain ⟨hworld, hresponses⟩ := thresholds_right rfl h₇
  exact ⟨_, _, _, h₇, List.mem_cons_self, hworld, hresponses _ _ _ List.mem_cons_self⟩

end Indexer

end SlaSettle
