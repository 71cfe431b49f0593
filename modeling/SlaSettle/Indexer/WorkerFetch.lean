import SlaSettle.Effect.Laws
import SlaSettle.Indexer.Api

/-!
# The Worker's fetch handler

`fetch` of `worker/index.ts` with `handleRequest` of `worker/routes.ts` and `worker/cors.ts`, over
the handlers of `Api.lean`. A request is what the handler reads of it; the tests of `handleRequest`
on method and path are one function, `route`, in the order of the source.

`route_eq_some_iff` says that routing inverts `Endpoint.path`, so no request could be taken by two
endpoints. `workerFetch_head` compares `HEAD` and `GET`, and `cors_header_iff` says which responses
carry the header that lets a page of another origin read them.
-/

namespace SlaSettle

namespace Indexer

open Js Effect Program

/-! ### Requests and responses -/

structure Request where
  method : String
  /-- `url.pathname` -/
  path : String
  /-- `url.searchParams.get("limit")` -/
  limit : Option String
  /-- `url.searchParams.get("before")` -/
  before : Option String
  /-- `request.headers.get("Origin")` -/
  origin : Option String

abbrev Headers : Type := List (String × String)

structure Response where
  status : ℕ
  headers : Headers
  body : Option Json

/-- The bindings that `fetch` reads. -/
structure FetchEnv where
  allowedOrigins : Option String
  roundLengthSeconds : Option String

def getAllowedOrigins (allowedOriginsConfig : Option String) : List String :=
  match allowedOriginsConfig.filter (· ≠ "") with
  | none => ["https://slasettle-web.vercel.app", "http://localhost:3000"]
  | some config =>
    ((config.toList.splitOn ',').map fun o => String.ofList (JsNumber.trim o)).filter (· ≠ "")

def getCorsHeaders (request : Request) (allowedOrigins : List String) : Headers :=
  match request.origin.filter (· ≠ "") with
  | none => []
  | some origin =>
    if origin ∈ allowedOrigins then
      [("Access-Control-Allow-Origin", origin),
        ("Access-Control-Allow-Methods", "GET, HEAD, OPTIONS"),
        ("Access-Control-Allow-Headers", "Content-Type"), ("Vary", "Origin")]
    else []

def handleOptions (request : Request) (allowedOrigins : List String) : Response :=
  ⟨204, getCorsHeaders request allowedOrigins, none⟩

def jsonResponse (data : Json) (status : ℕ) (extraHeaders : Headers) (isHead : Bool) : Response :=
  ⟨status, ("Content-Type", "application/json") :: extraHeaders, if isHead then none else some data⟩

/-! ### Routing -/

/-- The part of a path between a front and a back: `^front([^/]+)back$`. -/
def pathParam (front back path : String) : Option String :=
  let rest := path.toList.drop front.toList.length
  let param := rest.take (rest.length - back.toList.length)
  if front.toList <+: path.toList ∧ back.toList <:+ rest ∧ param ≠ [] ∧ '/' ∉ param then
    some (String.ofList param)
  else none

inductive Endpoint where
  | health
  | watchers
  | clock
  | currentRound (slaId : String)
  | settlements (slaId : String)
  | providerSlas (address : String)
  | lifecycle (slaId : String)
  deriving DecidableEq

/-- The endpoint that takes a request. -/
def route (method path : String) : Option Endpoint :=
  let isHead := method = "HEAD"
  let isGetOrHead := method = "GET" ∨ isHead
  if isGetOrHead ∧ path = "/v1/health" then some .health
  else if isGetOrHead ∧ path = "/v1/watchers" then some .watchers
  else if isGetOrHead ∧ path = "/v1/clock" then some .clock
  else if isGetOrHead then
    ((((pathParam "/v1/slas/" "/current-round" path).map Endpoint.currentRound).or
      ((pathParam "/v1/slas/" "/settlements" path).map Endpoint.settlements)).or
      ((pathParam "/v1/providers/" "/slas" path).map Endpoint.providerSlas)).or
      ((pathParam "/v1/slas/" "/lifecycle" path).map Endpoint.lifecycle)
  else none

/-! ### Handlers -/

def badRequestBody (error message : String) : Json :=
  .object [("error", .string error), ("message", .string message)]

def errorBody (error : String) : Json := .object [("error", .string error)]

/-- What an endpoint answers with: a status, and data. -/
def Endpoint.serve (lib : ApiLib) (roundLengthSeconds : JsNumber) (request : Request) :
    Endpoint → Api (ℕ × Json)
  | health => do
    let cp ← ApiCall.getCheckpoint.await
    return (200, healthBody cp)
  | watchers => do
    let rows ← ApiCall.getEligibleWatchers.await
    return (200, watchersBody rows)
  | clock => do
    let body ← Indexer.clock lib.toTextLib roundLengthSeconds
    return (200, body)
  | currentRound slaId => do
    let body ← workerCurrentRound lib.toTextLib roundLengthSeconds slaId
    return (200, body)
  | settlements slaId => do
    let response ← (along settlementsCalls
      (workerRequest lib.toCodecLib slaId request.limit request.before) : Api SettlementsResponse)
    match response with
    | .badRequest error message => return (400, badRequestBody error message)
    | .page data nextCursor => return (200, settlementsBody lib.toCodecLib data nextCursor)
  | providerSlas address => do
    let rows ← (ApiCall.getProviderSlas address).await
    return (200, providerSlasBody rows)
  | lifecycle slaId => do
    let rows ← (ApiCall.getLifecycleEvents slaId).await
    return (200, lifecycleBody rows)

/-- `Number(env.ROUND_LENGTH_SECONDS ?? 60)` -/
def FetchEnv.roundLength (env : FetchEnv) : JsNumber :=
  match env.roundLengthSeconds with
  | some text => .ofText text
  | none => 60

def handleRequest (lib : ApiLib) (env : FetchEnv) (request : Request) (corsHeaders : Headers) :
    Api Response := do
  ApiCall.newServer.await
  match route request.method request.path with
  | some endpoint => do
    let answer ← endpoint.serve lib env.roundLength request
    return jsonResponse answer.2 answer.1 corsHeaders (request.method = "HEAD")
  | none => return jsonResponse (errorBody "not_found") 404 corsHeaders false

/-- The `fetch` handler of the Worker. -/
def workerFetch (lib : ApiLib) (env : FetchEnv) (request : Request) :
    Program apiInterface Response := do
  let allowedOrigins := getAllowedOrigins env.allowedOrigins
  if request.method = "OPTIONS" then return handleOptions request allowedOrigins
  let corsHeaders := getCorsHeaders request allowedOrigins
  match ← (handleRequest lib env request corsHeaders).run with
  | .ok response => return response
  | .error _ => return jsonResponse (errorBody "internal_error") 500 corsHeaders false

/-! ### Routing inverts paths -/

theorem pathParam_eq_some_iff {front back path param : String} :
    pathParam front back path = some param ↔
      path = front ++ param ++ back ∧ param ≠ "" ∧ '/' ∉ param.toList := by
  unfold pathParam
  dsimp only
  constructor
  · intro h
    obtain ⟨⟨⟨rest, hfront⟩, ⟨middle, hback⟩, hne, hslash⟩, hparam⟩ :=
      Option.ite_none_right_eq_some.mp h
    rw [← hfront, List.drop_left] at hback hne hslash hparam
    rw [← hback, List.length_append, Nat.add_sub_cancel_right, List.take_left] at hne hslash hparam
    obtain rfl := Option.some.inj hparam
    refine ⟨?_, fun hempty => hne ?_, by rwa [String.toList_ofList]⟩
    · rw [← String.toList_inj, String.toList_append, String.toList_append, String.toList_ofList,
        ← hfront, ← hback, List.append_assoc]
    · rw [← String.toList_ofList (l := middle), hempty]
      rfl
  · rintro ⟨rfl, hne, hslash⟩
    rw [String.toList_append, String.toList_append, List.append_assoc, List.drop_left,
      List.length_append, Nat.add_sub_cancel_right, List.take_left, String.ofList_toList]
    refine if_pos ⟨List.prefix_append _ _, List.suffix_append _ _, fun hnil => hne ?_, hslash⟩
    rw [← String.toList_inj, hnil]
    rfl

namespace Endpoint

/-- The segments of an endpoint's path. -/
def segments : Endpoint → List String
  | health => ["", "v1", "health"]
  | watchers => ["", "v1", "watchers"]
  | clock => ["", "v1", "clock"]
  | currentRound slaId => ["", "v1", "slas", slaId, "current-round"]
  | settlements slaId => ["", "v1", "slas", slaId, "settlements"]
  | providerSlas address => ["", "v1", "providers", address, "slas"]
  | lifecycle slaId => ["", "v1", "slas", slaId, "lifecycle"]

/-- The path of an endpoint. -/
def path (e : Endpoint) : String := "/".intercalate e.segments

/-- The parameter of an endpoint, if it has one, is a segment of a path. -/
def Addressable (e : Endpoint) : Prop := ∀ s ∈ e.segments.drop 1, s ≠ "" ∧ '/' ∉ s.toList

theorem eq_of_segments_eq {e e' : Endpoint} (h : e.segments = e'.segments) : e = e' := by
  cases e <;> cases e' <;> simp_all [segments]

/-- **Paths are told apart.** -/
theorem eq_of_path_eq {e e' : Endpoint} (he : e.Addressable) (he' : e'.Addressable)
    (h : e.path = e'.path) : e = e' := by
  have hsplit : ∀ e : Endpoint, e.Addressable →
      e.path.toList.splitOn '/' = e.segments.map String.toList := by
    intro e he
    have hne : e.segments ≠ [] := by cases e <;> exact List.cons_ne_nil _ _
    have hslash : ∀ l ∈ e.segments.map String.toList, '/' ∉ l := by
      simp only [List.forall_mem_map]
      intro s hs
      have hcons : e.segments = "" :: e.segments.drop 1 := by cases e <;> rfl
      rw [hcons] at hs
      rcases List.mem_cons.mp hs with rfl | hs
      · simp
      · exact (he s hs).2
    rw [path, String.toList_intercalate]
    exact List.splitOn_intercalate '/' hslash (by simpa using hne)
  refine eq_of_segments_eq (List.map_injective_iff.mpr (fun s t => String.toList_inj.mp) ?_)
  rw [← hsplit e he, ← hsplit e' he', h]

@[simp]
theorem path_currentRound (slaId : String) :
    (currentRound slaId).path = "/v1/slas/" ++ slaId ++ "/current-round" := by
  rw [← String.toList_inj, path, String.toList_intercalate]
  simp [segments]

@[simp]
theorem path_settlements (slaId : String) :
    (settlements slaId).path = "/v1/slas/" ++ slaId ++ "/settlements" := by
  rw [← String.toList_inj, path, String.toList_intercalate]
  simp [segments]

@[simp]
theorem path_providerSlas (address : String) :
    (providerSlas address).path = "/v1/providers/" ++ address ++ "/slas" := by
  rw [← String.toList_inj, path, String.toList_intercalate]
  simp [segments]

@[simp]
theorem path_lifecycle (slaId : String) :
    (lifecycle slaId).path = "/v1/slas/" ++ slaId ++ "/lifecycle" := by
  rw [← String.toList_inj, path, String.toList_intercalate]
  simp [segments]

/-- Only the parameter of a path may be out of order. -/
theorem addressable_iff {e : Endpoint} :
    e.Addressable ↔ match e with
      | health | watchers | clock => True
      | currentRound s | settlements s | providerSlas s | lifecycle s =>
        s ≠ "" ∧ '/' ∉ s.toList := by
  cases e <;> simp [Addressable, segments]

end Endpoint

/-- The method is one that is routed. -/
def IsGetOrHead (method : String) : Prop := method = "GET" ∨ method = "HEAD"

private theorem path_of_route {method path : String} {e : Endpoint}
    (h : route method path = some e) : IsGetOrHead method ∧ e.Addressable ∧ path = e.path := by
  unfold route at h
  dsimp only at h
  split_ifs at h with hhealth hwatchers hclock hmethod
  · obtain rfl := Option.some.inj h
    exact ⟨hhealth.1, Endpoint.addressable_iff.mpr trivial, hhealth.2⟩
  · obtain rfl := Option.some.inj h
    exact ⟨hwatchers.1, Endpoint.addressable_iff.mpr trivial, hwatchers.2⟩
  · obtain rfl := Option.some.inj h
    exact ⟨hclock.1, Endpoint.addressable_iff.mpr trivial, hclock.2⟩
  · refine ⟨hmethod, ?_⟩
    simp only [Option.or_eq_some_iff, Option.map_eq_some_iff, pathParam_eq_some_iff] at h
    rcases h with ((⟨s, ⟨rfl, hs⟩, rfl⟩ | ⟨-, s, ⟨rfl, hs⟩, rfl⟩) | ⟨-, s, ⟨rfl, hs⟩, rfl⟩) |
      ⟨-, s, ⟨rfl, hs⟩, rfl⟩
    · exact ⟨Endpoint.addressable_iff.mpr hs, (Endpoint.path_currentRound s).symm⟩
    · exact ⟨Endpoint.addressable_iff.mpr hs, (Endpoint.path_settlements s).symm⟩
    · exact ⟨Endpoint.addressable_iff.mpr hs, (Endpoint.path_providerSlas s).symm⟩
    · exact ⟨Endpoint.addressable_iff.mpr hs, (Endpoint.path_lifecycle s).symm⟩

/-- **Routing inverts paths.** A request is taken by an endpoint exactly when its method is `GET` or
`HEAD` and its path is that of the endpoint. -/
theorem route_eq_some_iff {method path : String} {e : Endpoint} :
    route method path = some e ↔ IsGetOrHead method ∧ e.Addressable ∧ path = e.path := by
  refine ⟨path_of_route, fun ⟨hmethod, he, hpath⟩ => ?_⟩
  cases hroute : route method path with
  | some e' =>
    obtain ⟨-, he', hpath'⟩ := path_of_route hroute
    rw [Endpoint.eq_of_path_eq he he' (hpath.symm.trans hpath')]
  | none =>
    -- the test for the endpoint itself would have taken the request
    have hparam : ∀ front back p, p ≠ "" ∧ '/' ∉ p.toList →
        pathParam front back (front ++ p ++ back) = some p :=
      fun front back p hp => pathParam_eq_some_iff.mpr ⟨rfl, hp⟩
    unfold route at hroute
    dsimp only at hroute
    split_ifs at hroute with hhealth hwatchers hclock hmethod'
    · simp only [Option.or_eq_none_iff, Option.map_eq_none_iff] at hroute
      obtain ⟨⟨⟨hround, hsettlements⟩, hproviders⟩, hlifecycle⟩ := hroute
      have hwf := Endpoint.addressable_iff.mp he
      subst hpath
      cases e with
      | health => exact absurd ⟨hmethod, rfl⟩ hhealth
      | watchers => exact absurd ⟨hmethod, rfl⟩ hwatchers
      | clock => exact absurd ⟨hmethod, rfl⟩ hclock
      | currentRound s =>
        rw [Endpoint.path_currentRound, hparam _ _ _ hwf] at hround
        cases hround
      | settlements s =>
        rw [Endpoint.path_settlements, hparam _ _ _ hwf] at hsettlements
        cases hsettlements
      | providerSlas s =>
        rw [Endpoint.path_providerSlas, hparam _ _ _ hwf] at hproviders
        cases hproviders
      | lifecycle s =>
        rw [Endpoint.path_lifecycle, hparam _ _ _ hwf] at hlifecycle
        cases hlifecycle
    · exact absurd hmethod hmethod'

/-! ### What a request comes to -/

/-- What is left to say of a request that has been handled: the status and data of its endpoint,
nothing if it has none, or what was thrown. -/
def handled (lib : ApiLib) (env : FetchEnv) (request : Request) : Api (Option (ℕ × Json)) := do
  ApiCall.newServer.await
  match route request.method request.path with
  | some endpoint => do
    let answer ← endpoint.serve lib env.roundLength request
    return some answer
  | none => return none

/-- The response that is made of it. -/
def respond (request : Request) (corsHeaders : Headers) :
    Except Thrown (Option (ℕ × Json)) → Response
  | .ok (some answer) =>
    jsonResponse answer.2 answer.1 corsHeaders (request.method = "HEAD")
  | .ok none => jsonResponse (errorBody "not_found") 404 corsHeaders false
  | .error _ => jsonResponse (errorBody "internal_error") 500 corsHeaders false

theorem handleRequest_eq (lib : ApiLib) (env : FetchEnv) (request : Request)
    (corsHeaders : Headers) :
    handleRequest lib env request corsHeaders = (do
      let answer ← handled lib env request
      return respond request corsHeaders (.ok answer)) := by
  refine Eq.trans ?_ (bind_assoc ApiCall.newServer.await _ _).symm
  refine congrArg (ApiCall.newServer.await >>= ·) (funext fun _ => ?_)
  cases route request.method request.path with
  | none => rfl
  | some endpoint =>
    exact (bind_assoc (endpoint.serve lib env.roundLength request)
      (fun answer => (pure (some answer) : Api _))
      (fun answer => pure (respond request corsHeaders (.ok answer)))).symm

section

variable {σ : Type} {answers : σ → (c : ApiCall) → Except Thrown c.Returns → σ → Prop} {s s' : σ}
  {tr : List (Event apiInterface)} {lib : ApiLib} {env : FetchEnv} {request : Request}
  {response : Response}

/-- **The shape of the handler.** -/
theorem exec_workerFetch_iff :
    Exec answers (workerFetch lib env request) s tr response s' ↔
      (request.method = "OPTIONS" ∧ tr = [] ∧ s' = s ∧
        response = handleOptions request (getAllowedOrigins env.allowedOrigins)) ∨
      request.method ≠ "OPTIONS" ∧ ∃ x, Exec answers (handled lib env request) s tr x s' ∧
        response =
          respond request (getCorsHeaders request (getAllowedOrigins env.allowedOrigins)) x := by
  unfold workerFetch
  dsimp only
  by_cases hoptions : request.method = "OPTIONS"
  · rw [if_pos hoptions]
    refine exec_done_iff.trans ?_
    simp only [hoptions, true_and, ne_eq, not_true_eq_false, false_and, or_false]
    tauto
  · rw [if_neg hoptions, handleRequest_eq]
    simp only [hoptions, false_and, false_or, ne_eq, not_false_eq_true, true_and]
    refine exec_bind_iff.trans ?_
    constructor
    · rintro ⟨tr₁, r, s₁, tr₂, h₁, h₂, rfl⟩
      obtain ⟨x, hx, rfl⟩ := exec_bind_return_iff.mp h₁
      cases x with
      | error e =>
        obtain ⟨rfl, rfl, rfl⟩ := exec_done_iff.mp h₂
        exact ⟨.error e, by rwa [List.append_nil], rfl⟩
      | ok answer =>
        obtain ⟨rfl, rfl, rfl⟩ := exec_done_iff.mp h₂
        exact ⟨.ok answer, by rwa [List.append_nil], rfl⟩
    · rintro ⟨x, hx, rfl⟩
      refine ⟨tr, _, s', [], exec_bind_return_iff.mpr ⟨x, hx, rfl⟩, ?_, by simp⟩
      cases x <;> exact .done

/-- An endpoint that answers has a status of 200, or of 400 for a query it refuses. -/
theorem status_of_exec_serve {roundLengthSeconds : JsNumber} {endpoint : Endpoint}
    {answer : ℕ × Json}
    (h : Exec answers (endpoint.serve lib roundLengthSeconds request) s tr (.ok answer) s') :
    answer.1 = 200 ∨ answer.1 = 400 := by
  have hreturn : ∀ {α : Type} {p : Api α} {f : α → Json},
      Exec answers (p >>= fun a => pure (200, f a) : Api (ℕ × Json)) s tr (.ok answer) s' →
        answer.1 = 200 := by
    intro α p f hexec
    obtain ⟨x, -, hx⟩ := exec_bind_return_iff.mp hexec
    cases x with
    | error e => cases hx
    | ok a => rw [Except.ok.inj hx]
  cases endpoint with
  | settlements slaId =>
    obtain ⟨tr₁, settled, s₁, tr₂, -, hrespond, rfl⟩ := exec_bind_ok_iff.mp h
    cases settled with
    | badRequest error message =>
      obtain ⟨-, hok, -⟩ := exec_return_iff.mp hrespond
      exact .inr (by rw [Except.ok.inj hok])
    | page data next =>
      obtain ⟨-, hok, -⟩ := exec_return_iff.mp hrespond
      exact .inl (by rw [Except.ok.inj hok])
  | _ => exact .inl (hreturn h)

private theorem status_of_exec_handled {answer : ℕ × Json}
    (h : Exec answers (handled lib env request) s tr (.ok (some answer)) s') :
    answer.1 = 200 ∨ answer.1 = 400 := by
  obtain ⟨tr₁, _, s₁, tr₂, -, hrest, rfl⟩ := exec_bind_ok_iff.mp h
  cases hroute : route request.method request.path with
  | none =>
    rw [hroute] at hrest
    obtain ⟨-, hok, -⟩ := exec_return_iff.mp hrest
    cases hok
  | some endpoint =>
    rw [hroute] at hrest
    obtain ⟨x, hserve, hx⟩ := exec_bind_return_iff.mp hrest
    cases x with
    | error e => cases hx
    | ok a =>
      obtain rfl := Option.some.inj (Except.ok.inj hx)
      exact status_of_exec_serve hserve

/-! ### `HEAD` -/

/-- A response without its body, where the Worker leaves it out. -/
def Response.head (r : Response) : Response :=
  if r.status = 200 ∨ r.status = 400 then { r with body := none } else r

theorem route_head (path : String) : route "HEAD" path = route "GET" path := by
  simp [route]

private theorem handled_head :
    handled lib env { request with method := "HEAD" } =
      handled lib env { request with method := "GET" } := by
  unfold handled
  rw [route_head]
  refine congrArg (ApiCall.newServer.await >>= ·) (funext fun _ => ?_)
  cases route "GET" request.path with
  | none => rfl
  | some endpoint => cases endpoint <;> rfl

/-- **`HEAD` is `GET` without the body.** It makes the same calls with the same effect, and is
answered with the same status and headers; but the body of an error stays. -/
theorem workerFetch_head :
    Exec answers (workerFetch lib env { request with method := "HEAD" }) s tr response s' ↔
      ∃ r, Exec answers (workerFetch lib env { request with method := "GET" }) s tr r s' ∧
        response = r.head := by
  have hhead : ("HEAD" : String) ≠ "OPTIONS" := by decide
  have hget : ("GET" : String) ≠ "OPTIONS" := by decide
  have hshape : ∀ {x}, Exec answers (handled lib env { request with method := "GET" }) s tr x s' →
      ∀ corsHeaders, respond { request with method := "HEAD" } corsHeaders x =
        (respond { request with method := "GET" } corsHeaders x).head := by
    intro x hx corsHeaders
    match x with
    | .error e => rfl
    | .ok none => rfl
    | .ok (some answer) =>
      have hstatus := status_of_exec_handled hx
      exact (if_pos hstatus).symm
  simp only [exec_workerFetch_iff, hhead, hget, false_and, false_or, ne_eq, not_false_eq_true,
    true_and, handled_head]
  constructor
  · rintro ⟨x, hx, rfl⟩
    exact ⟨_, ⟨x, hx, rfl⟩, hshape hx _⟩
  · rintro ⟨_, ⟨x, hx, rfl⟩, rfl⟩
    exact ⟨x, hx, (hshape hx _).symm⟩

/-! ### `Access-Control-Allow-Origin` -/

/-- **Other origins.** A response lets the page of an origin read it exactly when the request comes
from there and the origin is configured, whatever the request is and whatever it is answered. -/
theorem cors_header_iff
    (h : Exec answers (workerFetch lib env request) s tr response s') (origin : String) :
    ("Access-Control-Allow-Origin", origin) ∈ response.headers ↔
      request.origin = some origin ∧ origin ∈ getAllowedOrigins env.allowedOrigins := by
  set allowed := getAllowedOrigins env.allowedOrigins with hallowed
  have hempty : "" ∉ allowed := by
    rw [hallowed, getAllowedOrigins]
    split
    · decide
    · simp
  have hcors : ("Access-Control-Allow-Origin", origin) ∈ getCorsHeaders request allowed ↔
      request.origin = some origin ∧ origin ∈ allowed := by
    unfold getCorsHeaders
    split
    · rename_i hnone
      refine iff_of_false (by simp) ?_
      rintro ⟨horigin, hmem⟩
      rw [horigin, Option.filter_eq_none_iff] at hnone
      have hne : origin = "" := by simpa using hnone origin rfl
      exact hempty (hne ▸ hmem)
    · rename_i o ho
      obtain ⟨horigin, -⟩ := Option.filter_eq_some_iff.mp ho
      rw [horigin, Option.some.injEq]
      split_ifs with hmem
      · simp only [List.mem_cons, Prod.mk.injEq, true_and, List.not_mem_nil, or_false,
          show ("Access-Control-Allow-Origin" : String) ≠ "Access-Control-Allow-Methods" by decide,
          show ("Access-Control-Allow-Origin" : String) ≠ "Access-Control-Allow-Headers" by decide,
          show ("Access-Control-Allow-Origin" : String) ≠ "Vary" by decide, false_and]
        exact ⟨fun heq => ⟨heq.symm, heq ▸ hmem⟩, fun heq => heq.1.symm⟩
      · exact iff_of_false List.not_mem_nil fun ⟨heq, hmem'⟩ => hmem (heq ▸ hmem')
  have htype : ∀ rest : Headers, ("Access-Control-Allow-Origin", origin) ∈
      ("Content-Type", "application/json") :: rest ↔
        ("Access-Control-Allow-Origin", origin) ∈ rest := by
    intro rest
    rw [List.mem_cons]
    have hne : ("Access-Control-Allow-Origin" : String) ≠ "Content-Type" := by decide
    exact or_iff_right fun heq => hne (congrArg Prod.fst heq)
  rcases exec_workerFetch_iff.mp h with ⟨-, -, -, rfl⟩ | ⟨-, x, -, rfl⟩
  · exact hcors
  · rw [← hcors]
    match x with
    | .error e => exact htype _
    | .ok none => exact htype _
    | .ok (some answer) => exact htype _

end

/-- The library for requests that need nothing of it. -/
def plainLib : ApiLib :=
  ⟨⟨fun _ => "", fun _ => .error .other, id, id⟩, ⟨fun _ => "", fun _ => ""⟩⟩

/-- A page of a configured origin asks for the Worker's health. -/
def healthRequest : Request := ⟨"GET", "/v1/health", none, none, some "https://hub.example"⟩

def hubEnv : FetchEnv := ⟨some "https://hub.example, http://localhost:3000", none⟩

/-- It may read the answer, and no page of another origin may. -/
theorem cors_header_health :
    ∃ response, Exec ApiAnswers (workerFetch plainLib hubEnv healthRequest) Db.empty
        [⟨.newServer, .ok ()⟩, ⟨.getCheckpoint, .ok none⟩] response Db.empty ∧
      response.status = 200 ∧
      ∀ origin, ("Access-Control-Allow-Origin", origin) ∈ response.headers ↔
        some "https://hub.example" = some origin ∧ origin ∈ getAllowedOrigins hubEnv.allowedOrigins
    := by
  have hexec : Exec ApiAnswers (workerFetch plainLib hubEnv healthRequest) Db.empty
      [⟨.newServer, .ok ()⟩, ⟨.getCheckpoint, .ok none⟩]
      (jsonResponse (healthBody none) 200
        (getCorsHeaders healthRequest (getAllowedOrigins hubEnv.allowedOrigins)) false) Db.empty :=
    .call .newServer (.call .getCheckpoint .done)
  exact ⟨_, hexec, rfl, cors_header_iff hexec⟩

end Indexer

end SlaSettle
