import Mathlib.Logic.Relation
import Mathlib.Order.Basic
import Mathlib.Order.Nat
import SlaSettle.Effect.InFlight
import SlaSettle.Web.RoundStatus

/-!
# The status page of an SLA

`StatusView` of `components/status/status-view.tsx` and the hooks behind it: `useSlaConfig`, which
reads the configuration, and `useRoundStatus`, which polls the round with the endpoint hash of that
configuration through `usePolling`.

Each hook is a state with its own functions. `ConfigHook` keeps what it has while it loads.
`PollHook` shows what it has for one fetcher only, which is a closure: it is compared by identity,
and a render makes a new one when the SLA or the hash is another. A hash is another when it is
another object, as it is after every read of the configuration.

A scene is the page with both hooks. Renders and effects are apart, and whatever has been asked for
comes back in any order. `settlement_offered` is about every render of every run: where settlement
is offered, it is offered from one consistent view of the round.
-/

namespace SlaSettle

namespace Web

open Effect Program

/-! ### The configuration -/

structure SlaConfigView where
  config : SLAConfig
  bondBalance : ℤ
  tokenDecimals : ℕ
  tokenSymbol : String

/-- What `fetchSlaConfig` awaits. -/
inductive ConfigCall where
  | getSla (slaId : ℕ)
  | getBondBalance (slaId : ℕ)
  | getTokenDecimals (token : String)
  | getTokenSymbol (token : String)

/-- What a call returns when it does not throw. -/
def ConfigCall.Returns : ConfigCall → Type
  | getSla _ => SLAConfig
  | getBondBalance _ => ℤ
  | getTokenDecimals _ => ℕ
  | getTokenSymbol _ => String

abbrev configInterface : Interface := throwing ReadError ConfigCall.Returns

/-- Await one call. -/
abbrev ConfigCall.await (c : ConfigCall) : Throwing ReadError ConfigCall.Returns c.Returns := ask c

def fetchSlaConfig (slaId : ℕ) : Throwing ReadError ConfigCall.Returns SlaConfigView := do
  let config ← (ConfigCall.getSla slaId).await
  let bondBalance ← (ConfigCall.getBondBalance slaId).await
  let tokenDecimals ← (ConfigCall.getTokenDecimals config.token).await
  let tokenSymbol ← (ConfigCall.getTokenSymbol config.token).await
  return ⟨config, bondBalance, tokenDecimals, tokenSymbol⟩

structure ConfigState where
  data : Option SlaConfigView
  loading : Bool
  error : Option String

/-- The hash of the configuration at hand. -/
def ConfigState.endpointHash (state : ConfigState) : Option EndpointHash :=
  state.data.map fun data => data.config.endpointHash

/-- A read of the configuration, by the run of the effect that started it. -/
structure ConfigFetch where
  run : ℕ
  slaId : ℕ

/-- `useSlaConfig`. -/
structure ConfigHook where
  state : ConfigState
  refreshKey : ℕ
  /-- The SLA and the key the effect last ran for. -/
  deps : Option (ℕ × ℕ)
  /-- The number of its last run: the runs before are cancelled. -/
  run : ℕ
  inFlight : List ConfigFetch
  /-- The number of hashes decoded so far. -/
  objects : ℕ
  /-- The reads that have returned. -/
  returned : List (ℕ × List (Event configInterface) × SlaConfigView)

namespace ConfigHook

def initial : ConfigHook := ⟨⟨none, true, none⟩, 0, none, 0, [], 0, []⟩

def refresh (h : ConfigHook) : ConfigHook := { h with refreshKey := h.refreshKey + 1 }

/-- The effect of a render: for another SLA or key it cancels the read of its run before and starts
one. The data stays as it is. -/
def effect (h : ConfigHook) (slaId refreshKey : ℕ) : ConfigHook :=
  if h.deps = some (slaId, refreshKey) then h
  else
    { h with
      state := { h.state with loading := true, error := none }
      deps := some (slaId, refreshKey)
      run := h.run + 1
      inFlight := ⟨h.run + 1, slaId⟩ :: h.inFlight }

/-- A read returns. It is dropped if the effect has run again. -/
def succeed (h : ConfigHook) (fetch : ConfigFetch) (tr : List (Event configInterface))
    (data : SlaConfigView) : ConfigHook :=
  { h with
    state := if fetch.run = h.run then ⟨some data, false, none⟩ else h.state
    objects := h.objects + 1
    returned := (fetch.slaId, tr, data) :: h.returned }

/-- A read throws. -/
def fail (h : ConfigHook) (fetch : ConfigFetch) (message : String) : ConfigHook :=
  { h with state := if fetch.run = h.run then ⟨none, false, some message⟩ else h.state }

end ConfigHook

/-! ### The polling -/

/-- The callback of `useRoundStatus`, with its identity. -/
structure Fetcher where
  id : ℕ
  slaId : ℕ
  endpointHash : Option EndpointHash
  deriving DecidableEq

/-- A call of a fetcher, by the run of the effect that made it. -/
structure Attempt where
  number : ℕ
  run : ℕ
  fetcher : Fetcher

/-- A view, and the number of the attempt it came from. -/
structure Polled where
  attempt : ℕ
  view : RoundStatusView

structure PollingSnapshot where
  data : Option Polled
  error : Option String
  loading : Bool
  fetcher : Fetcher

/-- The state a render sees: none if polling is disabled, or for another fetcher. -/
def PollingSnapshot.visible (state : PollingSnapshot) (fetcher : Fetcher) :
    PollingState RoundStatusView :=
  if fetcher.endpointHash.isSome ∧ state.fetcher = fetcher then
    ⟨state.data.map Polled.view, state.error, state.loading⟩
  else ⟨none, none, true⟩

/-- The variables of a run of the polling effect. -/
structure Ticking where
  fetcher : Fetcher
  inFlight : Bool
  hasFetched : Bool
  timer : Bool

/-- The timer is off. -/
def Ticking.clear (ticking : Ticking) : Ticking := { ticking with timer := false }

/-- The attempt is over, and the timer of the next one is set. -/
def Ticking.schedule (ticking : Ticking) : Ticking :=
  { ticking with inFlight := false, timer := true }

/-- `usePolling`, called by `useRoundStatus`. It is enabled for a fetcher that has a hash. -/
structure PollHook where
  state : PollingSnapshot
  restartKey : ℕ
  /-- The fetcher and the key the effect last ran for. -/
  deps : Option (Fetcher × ℕ)
  /-- The number of its last run: the runs before are cancelled. -/
  run : ℕ
  ticking : Option Ticking
  /-- `document.hidden`. -/
  hidden : Bool
  /-- The number of attempts so far. -/
  attempts : ℕ
  inFlight : List Attempt
  /-- The attempts that have returned, and those that have thrown. -/
  returned : List (Attempt × List (Event roundInterface) × RoundStatusView)
  failed : List Attempt

namespace PollHook

def initial (fetcher : Fetcher) (hidden : Bool) : PollHook where
  state := ⟨none, none, true, fetcher⟩
  restartKey := 0
  deps := none
  run := 0
  ticking := none
  hidden := hidden
  attempts := 0
  inFlight := []
  returned := []
  failed := []

def refresh (h : PollHook) : PollHook := { h with restartKey := h.restartKey + 1 }

/-- An attempt starts. -/
def fetch (h : PollHook) (ticking : Ticking) : PollHook :=
  { h with
    ticking := some { ticking with inFlight := true, hasFetched := true }
    attempts := h.attempts + 1
    inFlight := ⟨h.attempts + 1, h.run, ticking.fetcher⟩ :: h.inFlight }

/-- `tick()`: nothing while an attempt is in flight, and later if the tab is hidden and something
has been fetched. -/
def tick (h : PollHook) : PollHook :=
  match h.ticking with
  | none => h
  | some ticking =>
    if ticking.inFlight then h
    else if h.hidden && ticking.hasFetched then
      { h with ticking := some { ticking with timer := true } }
    else h.fetch ticking

/-- The effect of a render: for another fetcher or key it cancels its run before and starts one. -/
def effect (h : PollHook) (fetcher : Fetcher) (restartKey : ℕ) : PollHook :=
  if h.deps = some (fetcher, restartKey) then h
  else
    let h := { h with deps := some (fetcher, restartKey), run := h.run + 1 }
    if fetcher.endpointHash.isSome then
      { h with ticking := some ⟨fetcher, false, false, false⟩ }.tick
    else { h with state := ⟨none, none, true, fetcher⟩, ticking := none }

/-- The timer fires. -/
def timeout (h : PollHook) : PollHook :=
  { h with ticking := h.ticking.map Ticking.clear }.tick

/-- `onVisibilityChange()`. -/
def setHidden (h : PollHook) (hidden : Bool) : PollHook :=
  let h := { h with hidden := hidden }
  if hidden || h.ticking.any Ticking.inFlight then h else h.timeout

/-- What comes after an attempt: the next one is scheduled. -/
def schedule (h : PollHook) : PollHook :=
  { h with ticking := h.ticking.map Ticking.schedule }

/-- An attempt returns. It is dropped if the effect has run again. -/
def succeed (h : PollHook) (attempt : Attempt) (tr : List (Event roundInterface))
    (view : RoundStatusView) : PollHook :=
  let h := { h with returned := (attempt, tr, view) :: h.returned }
  if attempt.run = h.run then
    { h with state := ⟨some ⟨attempt.number, view⟩, none, false, attempt.fetcher⟩ }.schedule
  else h

/-- An attempt throws. The data of the same fetcher stays. -/
def fail (h : PollHook) (attempt : Attempt) (message : String) : PollHook :=
  let h := { h with failed := attempt :: h.failed }
  if attempt.run = h.run then
    { h with
      state :=
        ⟨if h.state.fetcher = attempt.fetcher then h.state.data else none, some message, false,
          attempt.fetcher⟩ }.schedule
  else h

end PollHook

/-! ### The page -/

inductive StatusPage where
  | loading
  | notLoaded (message : String)
  | shown (data : SlaConfigView) (round : RoundPanelView)

/-- What `StatusView` shows, of the configuration and the round. -/
def statusView (slaId : ℕ) (slaConfig : ConfigState) (roundStatus : PollingState RoundStatusView) :
    StatusPage :=
  if slaConfig.loading then .loading
  else
    match nonEmpty slaConfig.error, slaConfig.data with
    | none, some data =>
      .shown data (roundPanel slaId data.config data.tokenDecimals data.tokenSymbol roundStatus)
    | _, _ => .notLoaded (slaConfig.error.getD "No data was returned.")

/-- A render of the page: what it saw, and which attempts had failed by then. -/
structure StatusRender where
  slaId : ℕ
  config : ConfigState
  poll : PollingSnapshot
  fetcher : Fetcher
  refreshKey : ℕ
  restartKey : ℕ
  failed : List Attempt

def StatusRender.page (r : StatusRender) : StatusPage :=
  statusView r.slaId r.config (r.poll.visible r.fetcher)

structure StatusScene where
  config : ConfigHook
  poll : PollHook
  /-- The number of renders so far, which numbers the callbacks. -/
  count : ℕ
  rendered : StatusRender
  earlier : List StatusRender
  /-- The effects of the last render have yet to run. -/
  effectsDue : Bool

namespace StatusScene

/-- The page has rendered for the first time. -/
def mount (slaId : ℕ) (hidden : Bool) : StatusScene where
  config := .initial
  poll := .initial ⟨0, slaId, none⟩ hidden
  count := 0
  rendered := {
    slaId := slaId
    config := ConfigHook.initial.state
    poll := ⟨none, none, true, ⟨0, slaId, none⟩⟩
    fetcher := ⟨0, slaId, none⟩
    refreshKey := 0
    restartKey := 0
    failed := [] }
  earlier := []
  effectsDue := true

/-- `useCallback` of a render: the callback of the render before, if it is for the same SLA and
hash. -/
def callback (s : StatusScene) (slaId : ℕ) : Fetcher :=
  if s.rendered.fetcher.slaId = slaId ∧
      s.rendered.fetcher.endpointHash = s.config.state.endpointHash then s.rendered.fetcher
  else ⟨s.count + 1, slaId, s.config.state.endpointHash⟩

/-- The page renders, for the SLA it is given. -/
def render (s : StatusScene) (slaId : ℕ) : StatusScene :=
  { s with
    count := s.count + 1
    rendered := {
      slaId := slaId
      config := s.config.state
      poll := s.poll.state
      fetcher := s.callback slaId
      refreshKey := s.config.refreshKey
      restartKey := s.poll.restartKey
      failed := s.poll.failed }
    earlier := s.rendered :: s.earlier
    effectsDue := true }

/-- The effects of the last render run. -/
def runEffects (s : StatusScene) : StatusScene :=
  { s with
    config := s.config.effect s.rendered.slaId s.rendered.refreshKey
    poll := s.poll.effect s.rendered.fetcher s.rendered.restartKey
    effectsDue := false }

/-- `handleSettled()`, for the two hooks. -/
def handleSettled (s : StatusScene) : StatusScene :=
  { s with config := s.config.refresh, poll := s.poll.refresh }

end StatusScene

/-- One thing that happens. Effects run before the next render does, and each hash that is decoded
is an object of its own. -/
inductive StatusStep : StatusScene → StatusScene → Prop
  | render {s : StatusScene} {slaId : ℕ} (flushed : s.effectsDue = false) :
      StatusStep s (s.render slaId)
  | runEffects {s : StatusScene} (due : s.effectsDue = true) : StatusStep s s.runEffects
  | handleSettled {s : StatusScene} : StatusStep s s.handleSettled
  | configSucceed {s : StatusScene} {fetch : ConfigFetch} {l₁ l₂ : List ConfigFetch}
      {tr : List (Event configInterface)} {data : SlaConfigView}
      (inFlight : s.config.inFlight = l₁ ++ fetch :: l₂)
      (runs : Runs (fetchSlaConfig fetch.slaId) tr (.ok data))
      (fresh : data.config.endpointHash.ref = s.config.objects) :
      StatusStep s
        { s with config := { s.config with inFlight := l₁ ++ l₂ }.succeed fetch tr data }
  | configFail {s : StatusScene} {fetch : ConfigFetch} {l₁ l₂ : List ConfigFetch}
      {message : String} (inFlight : s.config.inFlight = l₁ ++ fetch :: l₂) :
      StatusStep s { s with config := { s.config with inFlight := l₁ ++ l₂ }.fail fetch message }
  | timeout {s : StatusScene} {ticking : Ticking} (running : s.poll.ticking = some ticking)
      (set : ticking.timer = true) : StatusStep s { s with poll := s.poll.timeout }
  | setHidden {s : StatusScene} {hidden : Bool} :
      StatusStep s { s with poll := s.poll.setHidden hidden }
  | pollSucceed {s : StatusScene} {attempt : Attempt} {l₁ l₂ : List Attempt}
      {endpointHash : EndpointHash} {tr : List (Event roundInterface)} {view : RoundStatusView}
      (inFlight : s.poll.inFlight = l₁ ++ attempt :: l₂)
      (hash : attempt.fetcher.endpointHash = some endpointHash)
      (runs : Runs (fetchRoundStatus attempt.fetcher.slaId endpointHash) tr view) :
      StatusStep s { s with poll := { s.poll with inFlight := l₁ ++ l₂ }.succeed attempt tr view }
  | pollFail {s : StatusScene} {attempt : Attempt} {l₁ l₂ : List Attempt} {message : String}
      (inFlight : s.poll.inFlight = l₁ ++ attempt :: l₂) :
      StatusStep s { s with poll := { s.poll with inFlight := l₁ ++ l₂ }.fail attempt message }

/-- The scenes a mounted page comes to. -/
def StatusReachable (s : StatusScene) : Prop :=
  ∃ slaId hidden, Relation.ReflTransGen StatusStep (.mount slaId hidden) s

/-! ### What holds of the configuration -/

/-- What holds of `useSlaConfig`: data that is not being loaded is of the SLA the effect last ran
for. -/
structure ConfigHook.Sound (h : ConfigHook) : Prop where
  runs : ∀ fetch ∈ h.inFlight, fetch.run ≤ h.run
  current : ∀ fetch ∈ h.inFlight, fetch.run = h.run → h.deps.map Prod.fst = some fetch.slaId
  read : h.state.loading = false → ∀ data, h.state.data = some data →
    ∃ slaId tr, h.deps.map Prod.fst = some slaId ∧ (slaId, tr, data) ∈ h.returned
  returned : ∀ call ∈ h.returned, Runs (fetchSlaConfig call.1) call.2.1 (.ok call.2.2)
  decoded : ∀ hash, h.state.endpointHash = some hash → hash.ref < h.objects

namespace ConfigHook.Sound

variable {h : ConfigHook}

theorem initial : ConfigHook.initial.Sound := ⟨nofun, nofun, nofun, nofun, nofun⟩

theorem refresh (hs : h.Sound) : h.refresh.Sound :=
  ⟨hs.runs, hs.current, hs.read, hs.returned, hs.decoded⟩

theorem effect (hs : h.Sound) (slaId refreshKey : ℕ) : (h.effect slaId refreshKey).Sound := by
  rw [ConfigHook.effect]
  split_ifs
  · exact hs
  refine ⟨?_, ?_, nofun, hs.returned, hs.decoded⟩
  · refine List.forall_mem_cons.mpr ⟨le_rfl, fun fetch hfetch => ?_⟩
    exact (hs.runs fetch hfetch).trans (Nat.le_succ _)
  · refine List.forall_mem_cons.mpr ⟨fun _ => rfl, fun fetch hfetch hrun => ?_⟩
    -- the reads of earlier runs are cancelled
    have hle : fetch.run ≤ h.run := hs.runs fetch hfetch
    have heq : fetch.run = h.run + 1 := hrun
    omega

theorem dropRequest (hs : h.Sound) {l : List ConfigFetch} (hsub : l ⊆ h.inFlight) :
    { h with inFlight := l }.Sound :=
  ⟨fun fetch hfetch => hs.runs fetch (hsub hfetch),
    fun fetch hfetch => hs.current fetch (hsub hfetch), hs.read, hs.returned, hs.decoded⟩

theorem succeed (hs : h.Sound) {fetch : ConfigFetch} {tr : List (Event configInterface)}
    {data : SlaConfigView} (hcurrent : fetch.run = h.run → h.deps.map Prod.fst = some fetch.slaId)
    (hruns : Runs (fetchSlaConfig fetch.slaId) tr (.ok data))
    (hfresh : data.config.endpointHash.ref = h.objects) : (h.succeed fetch tr data).Sound := by
  refine ⟨hs.runs, hs.current, fun hloading data' hdata => ?_,
    List.forall_mem_cons.mpr ⟨hruns, hs.returned⟩, fun hash hhash => ?_⟩
  · by_cases hrun : fetch.run = h.run
    · have hsome : some data = some data' := by simpa [ConfigHook.succeed, hrun] using hdata
      obtain rfl : data = data' := Option.some.inj hsome
      exact ⟨fetch.slaId, tr, hcurrent hrun, List.mem_cons_self⟩
    · have hkept : (h.succeed fetch tr data).state = h.state := if_neg hrun
      rw [hkept] at hloading hdata
      obtain ⟨slaId, tr', hdeps, hreturned⟩ := hs.read hloading data' hdata
      exact ⟨slaId, tr', hdeps, List.mem_cons_of_mem _ hreturned⟩
  · by_cases hrun : fetch.run = h.run
    · have hsome : some data.config.endpointHash = some hash := by
        simpa [ConfigHook.succeed, ConfigState.endpointHash, hrun] using hhash
      rw [← Option.some.inj hsome, hfresh]
      exact Nat.lt_succ_self _
    · have hkept : (h.succeed fetch tr data).state = h.state := if_neg hrun
      rw [hkept] at hhash
      exact (hs.decoded hash hhash).trans (Nat.lt_succ_self _)

theorem fail (hs : h.Sound) (fetch : ConfigFetch) (message : String) :
    (h.fail fetch message).Sound := by
  rw [ConfigHook.fail]
  split_ifs
  · exact ⟨hs.runs, hs.current, nofun, hs.returned, nofun⟩
  · exact hs

end ConfigHook.Sound

/-! ### What holds of the polling -/

/-- What holds of `usePolling`: one attempt of the effect's last run is in flight at most, and it is
the last one that was made; what is shown has been returned to the fetcher shown. -/
structure PollHook.Sound (h : PollHook) : Prop where
  runs : ∀ attempt ∈ h.inFlight, attempt.run ≤ h.run ∧ attempt.number ≤ h.attempts
  numbers : (h.inFlight.map Attempt.number).Nodup
  current : ∀ attempt ∈ h.inFlight, attempt.run = h.run →
    h.deps.map Prod.fst = some attempt.fetcher ∧ attempt.number = h.attempts ∧
      ∃ ticking, h.ticking = some ticking ∧ ticking.inFlight = true
  ticking : ∀ ticking, h.ticking = some ticking → h.deps.map Prod.fst = some ticking.fetcher
  failed : ∀ attempt ∈ h.failed, attempt.number ≤ h.attempts
  returned : ∀ call ∈ h.returned, ∃ hash, call.1.fetcher.endpointHash = some hash ∧
    Runs (fetchRoundStatus call.1.fetcher.slaId hash) call.2.1 call.2.2
  shown : ∀ polled, h.state.data = some polled → ∃ attempt tr,
    (attempt, tr, polled.view) ∈ h.returned ∧ attempt.number = polled.attempt ∧
      attempt.fetcher = h.state.fetcher

/-- No later attempt of the fetcher shown has failed, and those in flight are of the last run. -/
def PollHook.Latest (h : PollHook) (polled : Polled) : Prop :=
  (∀ attempt ∈ h.failed, attempt.fetcher = h.state.fetcher → attempt.number ≤ polled.attempt) ∧
  ∀ attempt ∈ h.inFlight, attempt.fetcher = h.state.fetcher → polled.attempt < attempt.number →
    attempt.run = h.run

namespace PollHook.Sound

variable {h : PollHook}

theorem initial (fetcher : Fetcher) (hidden : Bool) : (PollHook.initial fetcher hidden).Sound :=
  ⟨nofun, List.nodup_nil, nofun, nofun, nofun, nofun, nofun⟩

theorem refresh (hs : h.Sound) : h.refresh.Sound :=
  ⟨hs.runs, hs.numbers, hs.current, hs.ticking, hs.failed, hs.returned, hs.shown⟩

/-- An attempt starts when none is in flight. -/
theorem fetch (hs : h.Sound) {ticking : Ticking} (hticking : h.ticking = some ticking)
    (hidle : ticking.inFlight = false) : (h.fetch ticking).Sound := by
  have hdeps : h.deps.map Prod.fst = some ticking.fetcher := hs.ticking ticking hticking
  refine ⟨?_, ?_, ?_, ?_, fun attempt hattempt => ?_, hs.returned, hs.shown⟩
  · refine List.forall_mem_cons.mpr ⟨⟨le_rfl, le_rfl⟩, fun attempt hattempt => ?_⟩
    obtain ⟨hrun, hnumber⟩ := hs.runs attempt hattempt
    exact ⟨hrun, hnumber.trans (Nat.le_succ _)⟩
  · refine List.nodup_cons.mpr ⟨fun hmem => ?_, hs.numbers⟩
    obtain ⟨attempt, hattempt, hnumber⟩ := List.mem_map.mp hmem
    have hle : attempt.number ≤ h.attempts := (hs.runs attempt hattempt).2
    have heq : attempt.number = h.attempts + 1 := hnumber
    omega
  · refine List.forall_mem_cons.mpr ⟨fun _ => ⟨hdeps, rfl, _, rfl, rfl⟩, fun attempt hattempt => ?_⟩
    intro hrun
    obtain ⟨-, -, ticking', hticking', hbusy⟩ := hs.current attempt hattempt hrun
    obtain rfl : ticking = ticking' := Option.some.inj (hticking.symm.trans hticking')
    exact absurd hbusy (by simp [hidle])
  · intro ticking' hticking'
    rw [← Option.some.inj hticking']
    exact hdeps
  · exact (hs.failed attempt hattempt).trans (Nat.le_succ _)

/-- The timer does not matter. -/
theorem setTimer (hs : h.Sound) {ticking ticking' : Ticking} (hticking : h.ticking = some ticking)
    (hfetcher : ticking'.fetcher = ticking.fetcher) (hbusy : ticking'.inFlight = ticking.inFlight) :
    { h with ticking := some ticking' }.Sound := by
  refine ⟨hs.runs, hs.numbers, fun attempt hattempt hrun => ?_, fun ticking'' hticking'' => ?_,
    hs.failed, hs.returned, hs.shown⟩
  · obtain ⟨hdeps, hnumber, ticking₀, hticking₀, hbusy₀⟩ := hs.current attempt hattempt hrun
    obtain rfl : ticking = ticking₀ := Option.some.inj (hticking.symm.trans hticking₀)
    exact ⟨hdeps, hnumber, ticking', rfl, hbusy.trans hbusy₀⟩
  · rw [← Option.some.inj hticking'', hfetcher]
    exact hs.ticking ticking hticking

theorem tick (hs : h.Sound) : h.tick.Sound := by
  rw [PollHook.tick]
  split
  · exact hs
  next ticking hticking =>
    split_ifs with hbusy
    · exact hs
    · exact hs.setTimer hticking rfl rfl
    · exact hs.fetch hticking (eq_false_of_ne_true hbusy)

theorem timeout (hs : h.Sound) : h.timeout.Sound := by
  rw [PollHook.timeout]
  cases hticking : h.ticking with
  | none =>
    refine tick ⟨hs.runs, hs.numbers, fun attempt hattempt hrun => ?_, nofun, hs.failed,
      hs.returned, hs.shown⟩
    obtain ⟨-, -, ticking, hsome, -⟩ := hs.current attempt hattempt hrun
    cases hticking.symm.trans hsome
  | some ticking =>
    have hclear : { h with ticking := some ticking.clear }.Sound := hs.setTimer hticking rfl rfl
    exact hclear.tick

theorem setHidden (hs : h.Sound) (hidden : Bool) : (h.setHidden hidden).Sound := by
  have hset : { h with hidden := hidden }.Sound :=
    ⟨hs.runs, hs.numbers, hs.current, hs.ticking, hs.failed, hs.returned, hs.shown⟩
  rw [PollHook.setHidden]
  dsimp only
  split_ifs
  · exact hset
  · exact hset.timeout

theorem effect (hs : h.Sound) (fetcher : Fetcher) (restartKey : ℕ) :
    (h.effect fetcher restartKey).Sound := by
  -- the attempts of earlier runs are cancelled
  have hcancelled {attempt : Attempt} (hattempt : attempt ∈ h.inFlight) :
      attempt.run < h.run + 1 := Nat.lt_succ_of_le (hs.runs attempt hattempt).1
  have hruns : ∀ attempt ∈ h.inFlight, attempt.run ≤ h.run + 1 ∧ attempt.number ≤ h.attempts :=
    fun attempt hattempt => ⟨(hcancelled hattempt).le, (hs.runs attempt hattempt).2⟩
  rw [PollHook.effect]
  split_ifs with hdeps henabled
  · exact hs
  · refine tick ⟨hruns, hs.numbers, fun attempt hattempt hrun => ?_, fun ticking hticking => ?_,
      hs.failed, hs.returned, hs.shown⟩
    · exact absurd hrun (hcancelled hattempt).ne
    · rw [← Option.some.inj hticking]
      rfl
  · refine ⟨hruns, hs.numbers, fun attempt hattempt hrun => ?_, nofun, hs.failed, hs.returned,
      nofun⟩
    exact absurd hrun (hcancelled hattempt).ne

theorem dropRequest (hs : h.Sound) {l : List Attempt} (hsub : l.Sublist h.inFlight) :
    { h with inFlight := l }.Sound :=
  ⟨fun attempt hattempt => hs.runs attempt (hsub.subset hattempt),
    List.Nodup.sublist (hsub.map Attempt.number) hs.numbers,
    fun attempt hattempt => hs.current attempt (hsub.subset hattempt), hs.ticking, hs.failed,
    hs.returned, hs.shown⟩

/-- The next attempt is scheduled when none is in flight. -/
theorem schedule (hs : h.Sound) (hidle : ∀ attempt ∈ h.inFlight, attempt.run ≠ h.run) :
    h.schedule.Sound := by
  refine ⟨hs.runs, hs.numbers, fun attempt hattempt hrun => absurd hrun (hidle attempt hattempt),
    fun ticking hticking => ?_, hs.failed, hs.returned, hs.shown⟩
  obtain ⟨ticking', hticking', rfl⟩ := Option.map_eq_some_iff.mp hticking
  exact hs.ticking ticking' hticking'

/-- Without an attempt of the last run, none of that run is in flight. -/
theorem idle_of_current (hs : h.Sound) {attempt : Attempt} {l₁ l₂ : List Attempt}
    (hinFlight : h.inFlight = l₁ ++ attempt :: l₂) (hrun : attempt.run = h.run) :
    ∀ attempt' ∈ l₁ ++ l₂, attempt'.run ≠ h.run := by
  intro attempt' hattempt' hrun'
  have hnumber : attempt.number = h.attempts := (hs.current _ (mem_inFlight hinFlight) hrun).2.1
  have hnumber' : attempt'.number = h.attempts :=
    (hs.current _ (subset_inFlight hinFlight hattempt') hrun').2.1
  have hnodup : ((attempt :: (l₁ ++ l₂)).map Attempt.number).Nodup := by
    have hperm : (l₁ ++ attempt :: l₂).Perm (attempt :: (l₁ ++ l₂)) := List.perm_middle
    rw [← (hperm.map Attempt.number).nodup_iff, ← hinFlight]
    exact hs.numbers
  refine (List.nodup_cons.mp hnodup).1 ?_
  rw [hnumber, ← hnumber']
  exact List.mem_map_of_mem hattempt'

theorem succeed (hs : h.Sound) {attempt : Attempt} {l₁ l₂ : List Attempt}
    {endpointHash : EndpointHash} {tr : List (Event roundInterface)} {view : RoundStatusView}
    (hinFlight : h.inFlight = l₁ ++ attempt :: l₂)
    (hhash : attempt.fetcher.endpointHash = some endpointHash)
    (hruns : Runs (fetchRoundStatus attempt.fetcher.slaId endpointHash) tr view) :
    ({ h with inFlight := l₁ ++ l₂ }.succeed attempt tr view).Sound := by
  have hdrop := hs.dropRequest (sublist_inFlight hinFlight)
  have hreturned : ∀ call ∈ (attempt, tr, view) :: h.returned,
      ∃ hash, call.1.fetcher.endpointHash = some hash ∧
        Runs (fetchRoundStatus call.1.fetcher.slaId hash) call.2.1 call.2.2 :=
    List.forall_mem_cons.mpr ⟨⟨endpointHash, hhash, hruns⟩, hs.returned⟩
  have hlogged : { h with
      inFlight := l₁ ++ l₂, returned := (attempt, tr, view) :: h.returned }.Sound := by
    refine ⟨hdrop.runs, hdrop.numbers, hdrop.current, hdrop.ticking, hdrop.failed, hreturned, ?_⟩
    intro polled hpolled
    obtain ⟨attempt', tr', hmem, hnumber, hfetcher⟩ := hs.shown polled hpolled
    exact ⟨attempt', tr', List.mem_cons_of_mem _ hmem, hnumber, hfetcher⟩
  rw [PollHook.succeed]
  dsimp only
  split_ifs with hrun
  · have hidle := hs.idle_of_current hinFlight hrun
    refine schedule ⟨hlogged.runs, hlogged.numbers, hlogged.current, hlogged.ticking,
      hlogged.failed, hlogged.returned, fun polled hpolled => ?_⟩ hidle
    rw [← Option.some.inj hpolled]
    exact ⟨attempt, tr, List.mem_cons_self, rfl, rfl⟩
  · exact hlogged

theorem fail (hs : h.Sound) {attempt : Attempt} {l₁ l₂ : List Attempt} (message : String)
    (hinFlight : h.inFlight = l₁ ++ attempt :: l₂) :
    ({ h with inFlight := l₁ ++ l₂ }.fail attempt message).Sound := by
  have hdrop := hs.dropRequest (sublist_inFlight hinFlight)
  have hlogged : { h with inFlight := l₁ ++ l₂, failed := attempt :: h.failed }.Sound := by
    refine ⟨hdrop.runs, hdrop.numbers, hdrop.current, hdrop.ticking, ?_, hs.returned, hs.shown⟩
    exact List.forall_mem_cons.mpr ⟨(hs.runs attempt (mem_inFlight hinFlight)).2, hs.failed⟩
  rw [PollHook.fail]
  dsimp only
  split_ifs with hrun hsame
  · have hidle := hs.idle_of_current hinFlight hrun
    refine schedule ⟨hlogged.runs, hlogged.numbers, hlogged.current, hlogged.ticking,
      hlogged.failed, hlogged.returned, fun polled hpolled => ?_⟩ hidle
    -- data that is kept was returned to the same fetcher
    obtain ⟨attempt', tr, hmem, hnumber, hfetcher⟩ := hs.shown polled hpolled
    exact ⟨attempt', tr, hmem, hnumber, hfetcher.trans hsame⟩
  · exact schedule ⟨hlogged.runs, hlogged.numbers, hlogged.current, hlogged.ticking,
      hlogged.failed, hlogged.returned, nofun⟩ (hs.idle_of_current hinFlight hrun)
  · exact hlogged

end PollHook.Sound

/-- The polling goes on with the same on view. -/
structure PollHook.Continues (h h' : PollHook) : Prop where
  state : h'.state = h.state
  deps : h'.deps = h.deps
  restartKey : h'.restartKey = h.restartKey
  returned : h.returned ⊆ h'.returned
  latest : ∀ polled, h.Latest polled → h'.Latest polled

theorem PollHook.tick_continues (h : PollHook) : h.Continues h.tick := by
  rw [PollHook.tick]
  split
  · exact ⟨rfl, rfl, rfl, List.Subset.refl _, fun _ hl => hl⟩
  · split_ifs
    · exact ⟨rfl, rfl, rfl, List.Subset.refl _, fun _ hl => hl⟩
    · exact ⟨rfl, rfl, rfl, List.Subset.refl _, fun _ hl => hl⟩
    · -- a new attempt is of the last run
      refine ⟨rfl, rfl, rfl, List.Subset.refl _, fun _ hl => ⟨hl.1, ?_⟩⟩
      exact List.forall_mem_cons.mpr ⟨fun _ _ => rfl, hl.2⟩

theorem PollHook.timeout_continues (h : PollHook) : h.Continues h.timeout := by
  have htick := PollHook.tick_continues { h with ticking := h.ticking.map Ticking.clear }
  exact ⟨htick.state, htick.deps, htick.restartKey, htick.returned, htick.latest⟩

theorem PollHook.setHidden_continues (h : PollHook) (hidden : Bool) :
    h.Continues (h.setHidden hidden) := by
  rw [PollHook.setHidden]
  dsimp only
  split_ifs
  · exact ⟨rfl, rfl, rfl, List.Subset.refl _, fun _ hl => hl⟩
  · have htimeout := PollHook.timeout_continues { h with hidden := hidden }
    exact ⟨htimeout.state, htimeout.deps, htimeout.restartKey, htimeout.returned, htimeout.latest⟩

/-! ### What is on view -/

/-- A round is shown beside a configuration that has been loaded. -/
theorem statusView_shown {slaId : ℕ} {slaConfig : ConfigState}
    {roundStatus : PollingState RoundStatusView} {data : SlaConfigView} {round : RoundPanelView}
    (h : statusView slaId slaConfig roundStatus = .shown data round) :
    slaConfig.loading = false ∧ slaConfig.data = some data ∧
      roundPanel slaId data.config data.tokenDecimals data.tokenSymbol roundStatus = round := by
  rw [statusView] at h
  split_ifs at h with hloading
  split at h
  next data' _ hdata =>
    obtain ⟨rfl, hround⟩ := StatusPage.shown.inj h
    exact ⟨eq_false_of_ne_true hloading, hdata, hround⟩
  · cases h

/-- A view is visible to the fetcher that has it. -/
theorem visible_data {state : PollingSnapshot} {fetcher : Fetcher} {view : RoundStatusView}
    (h : (state.visible fetcher).data = some view) :
    state.fetcher = fetcher ∧ state.error = (state.visible fetcher).error ∧
      ∃ attempt, state.data = some ⟨attempt, view⟩ := by
  by_cases hvisible : fetcher.endpointHash.isSome ∧ state.fetcher = fetcher
  · have heq : state.visible fetcher = ⟨state.data.map Polled.view, state.error, state.loading⟩ :=
      if_pos hvisible
    rw [heq] at h ⊢
    obtain ⟨⟨attempt, view'⟩, hdata, rfl⟩ := Option.map_eq_some_iff.mp h
    exact ⟨hvisible.2, rfl, attempt, hdata⟩
  · have heq : state.visible fetcher = ⟨none, none, true⟩ := if_neg hvisible
    rw [heq] at h
    cases h

/-! ### What holds of the page -/

/-- A callback that has been made, for a hash that has been decoded. -/
def StatusScene.Known (s : StatusScene) (fetcher : Fetcher) : Prop :=
  fetcher.id ≤ s.count ∧ ∀ hash, fetcher.endpointHash = some hash → hash.ref < s.config.objects

/-- What is on view is not shown, or will not be any more: the configuration is being loaded, or it
has another hash. -/
def StatusScene.Superseded (s : StatusScene) : Prop :=
  s.config.state.loading = true ∨ s.config.state.endpointHash ≠ s.poll.state.fetcher.endpointHash

/-- **One view.** Settlement is offered from the configuration of the SLA and one view of the round,
which was read with the hash of that configuration. -/
structure OfferedFrom (s : StatusScene) (r : StatusRender) (action : TriggerSettlement)
    (data : SlaConfigView) (attempt : Attempt) (tr : List (Event roundInterface))
    (view : RoundStatusView) : Prop where
  slaId : action.slaId = r.slaId
  /-- The configuration on the page was read for the SLA. -/
  config : r.config.data = some data ∧ ∃ tr', (r.slaId, tr', data) ∈ s.config.returned ∧
    Runs (fetchSlaConfig r.slaId) tr' (.ok data)
  active : data.config.status = .active
  /-- The view was fetched with its hash. -/
  fetched : (attempt, tr, view) ∈ s.poll.returned ∧ attempt.fetcher = r.fetcher ∧
    Runs (fetchRoundStatus action.slaId data.config.endpointHash) tr view
  /-- It shows the round that is to be settled, with a time that belongs to it. -/
  round : ∃ panel asOf, r.page = .shown data (.round panel) ∧
    panel.round = .ok (action.roundId, some asOf, view.asOfSource) ∧
    BelongsTo tr action.slaId action.roundId asOf
  tally : ∃ tally : RoundTally,
    ⟨.getRoundTally action.slaId action.roundId data.config.endpointHash, .ok tally⟩ ∈ tr ∧
      data.config.quorumThreshold ≤ tally.votesDown
  settled : ⟨.isRoundSettled action.slaId action.roundId, .ok false⟩ ∈ tr
  /-- No later attempt of the fetcher had failed. -/
  latest : ∀ later ∈ r.failed, later.fetcher = r.fetcher → later.number ≤ attempt.number

/-- Settlement is offered on a page. -/
def StatusPage.Offers (page : StatusPage) (action : TriggerSettlement) : Prop :=
  ∃ data panel, page = .shown data (.round panel) ∧ panel.settlement = .triggerSettlement action

/-- What holds in every scene. -/
structure StatusScene.Sound (s : StatusScene) : Prop where
  config : s.config.Sound
  poll : s.poll.Sound
  keys : s.config.refreshKey = s.poll.restartKey
  renderedKeys : s.rendered.refreshKey = s.rendered.restartKey
  depKeys : s.poll.deps.map Prod.snd = s.config.deps.map Prod.snd
  flushed : s.effectsDue = false →
    s.config.deps = some (s.rendered.slaId, s.rendered.refreshKey) ∧
      s.poll.deps = some (s.rendered.fetcher, s.rendered.restartKey)
  renderedSla : s.rendered.fetcher.slaId = s.rendered.slaId
  knownRendered : s.Known s.rendered.fetcher
  knownShown : s.Known s.poll.state.fetcher
  knownDeps : ∀ fetcher, s.poll.deps.map Prod.fst = some fetcher → s.Known fetcher
  /-- Data for the callback of the last render was fetched by an effect of it. -/
  shownFor : ∀ polled, s.poll.state.data = some polled →
    s.poll.state.fetcher = s.rendered.fetcher → s.poll.deps.map Prod.fst = some s.rendered.fetcher
  /-- Data without an error is the latest there is, or not to be shown any more. -/
  latest : ∀ polled, s.poll.state.data = some polled → s.poll.state.error = none →
    s.poll.state.fetcher = s.rendered.fetcher → s.Superseded ∨ s.poll.Latest polled
  offered : ∀ r ∈ s.rendered :: s.earlier, ∀ action, r.page.Offers action →
    ∃ data attempt tr view, OfferedFrom s r action data attempt tr view

/-- What has been returned stays returned. -/
theorem OfferedFrom.more {s s' : StatusScene} {r : StatusRender} {action : TriggerSettlement}
    {data : SlaConfigView} {attempt : Attempt} {tr : List (Event roundInterface)}
    {view : RoundStatusView} (h : OfferedFrom s r action data attempt tr view)
    (hconfig : s.config.returned ⊆ s'.config.returned)
    (hpoll : s.poll.returned ⊆ s'.poll.returned) :
    OfferedFrom s' r action data attempt tr view := by
  obtain ⟨hdata, tr', hread, hruns⟩ := h.config
  obtain ⟨hfetched, hfetcher, hruns'⟩ := h.fetched
  exact ⟨h.slaId, ⟨hdata, tr', hconfig hread, hruns⟩, h.active, ⟨hpoll hfetched, hfetcher, hruns'⟩,
    h.round, h.tally, h.settled, h.latest⟩

theorem ConfigHook.effect_keeps (h : ConfigHook) (slaId refreshKey : ℕ) :
    (h.effect slaId refreshKey).deps = some (slaId, refreshKey) ∧
      (h.effect slaId refreshKey).refreshKey = h.refreshKey ∧
      (h.effect slaId refreshKey).objects = h.objects ∧
      (h.effect slaId refreshKey).returned = h.returned := by
  rw [ConfigHook.effect]
  split_ifs with hdeps
  · exact ⟨hdeps, rfl, rfl, rfl⟩
  · exact ⟨rfl, rfl, rfl, rfl⟩

theorem PollHook.effect_keeps (h : PollHook) (fetcher : Fetcher) (restartKey : ℕ) :
    (h.effect fetcher restartKey).deps = some (fetcher, restartKey) ∧
      (h.effect fetcher restartKey).restartKey = h.restartKey ∧
      h.returned ⊆ (h.effect fetcher restartKey).returned ∧
      ((h.effect fetcher restartKey).state = h.state ∨
        (h.effect fetcher restartKey).state = ⟨none, none, true, fetcher⟩) := by
  rw [PollHook.effect]
  split_ifs with hdeps
  · exact ⟨hdeps, rfl, List.Subset.refl _, .inl rfl⟩
  · have htick := PollHook.tick_continues { h with
      deps := some (fetcher, restartKey)
      run := h.run + 1
      ticking := some ⟨fetcher, false, false, false⟩ }
    exact ⟨htick.deps, htick.restartKey, htick.returned, .inl htick.state⟩
  · exact ⟨rfl, rfl, List.Subset.refl _, .inr rfl⟩

namespace StatusScene

variable {s : StatusScene}

/-- A callback is that of the render before, or new. -/
theorem callback_eq_or (s : StatusScene) (slaId : ℕ) :
    s.callback slaId = s.rendered.fetcher ∨ (s.callback slaId).id = s.count + 1 := by
  rw [callback]
  split_ifs
  · exact .inl rfl
  · exact .inr rfl

theorem callback_for (s : StatusScene) (slaId : ℕ) :
    (s.callback slaId).slaId = slaId ∧
      (s.callback slaId).endpointHash = s.config.state.endpointHash := by
  rw [callback]
  split_ifs with hsame
  · exact hsame
  · exact ⟨rfl, rfl⟩

/-- A known callback is not a new one. -/
theorem Known.eq_rendered {slaId : ℕ} (h : s.Known (s.callback slaId)) :
    s.callback slaId = s.rendered.fetcher := by
  refine (s.callback_eq_or slaId).resolve_right fun hnew => ?_
  have hle : (s.callback slaId).id ≤ s.count := h.1
  omega

namespace Sound

/-- **What a render offers.** -/
theorem offers (h : s.Sound) (hflushed : s.effectsDue = false) {slaId : ℕ}
    {action : TriggerSettlement} (hoffers : (s.render slaId).rendered.page.Offers action) :
    ∃ data attempt tr view,
      OfferedFrom (s.render slaId) (s.render slaId).rendered action data attempt tr view := by
  obtain ⟨data, panel, hpage, hsettlement⟩ := hoffers
  obtain ⟨hloading, hdata, hpanel⟩ := statusView_shown hpage
  obtain ⟨view, hview, herror, hactive, hsla, hround, hsettled, hshown, tally, htally, hquorum⟩ :=
    roundPanel_offers hpanel hsettlement
  obtain ⟨hfetcher, hsame, number, hpolled⟩ := visible_data hview
  -- the view is there already, so this render has the callback of the one before
  have hfetcher : s.poll.state.fetcher = s.callback slaId := hfetcher
  have hold : s.callback slaId = s.rendered.fetcher := (hfetcher ▸ h.knownShown).eq_rendered
  obtain ⟨hcallback, hhash⟩ := s.callback_for slaId
  have hslaId : s.rendered.slaId = slaId := by rw [← h.renderedSla, ← hold, hcallback]
  have hdata : s.config.state.data = some data := hdata
  have hendpoint : s.config.state.endpointHash = some data.config.endpointHash := by
    rw [ConfigState.endpointHash, hdata, Option.map_some]
  -- so the configuration was read for the SLA of both
  obtain ⟨slaId', tr', hdeps, hread⟩ := h.config.read hloading data hdata
  obtain rfl : slaId = slaId' := by
    rw [(h.flushed hflushed).1, hslaId] at hdeps
    exact Option.some.inj hdeps
  obtain ⟨attempt, tr, hreturned, hnumber, hattempt⟩ := h.poll.shown _ hpolled
  obtain ⟨hash, hhash', hruns⟩ := h.poll.returned _ hreturned
  have hattempt : attempt.fetcher = s.callback slaId := hattempt.trans hfetcher
  obtain rfl : hash = data.config.endpointHash := by
    rw [hattempt, hhash, hendpoint] at hhash'
    exact (Option.some.inj hhash').symm
  have hruns : Runs (fetchRoundStatus slaId data.config.endpointHash) tr view := by
    rw [hattempt, hcallback] at hruns
    exact hruns
  have hreads := runs_fetchRoundStatus hruns hround
  obtain ⟨asOf, hasOf, hbelongs⟩ := hreads.asOf
  obtain rfl : action.slaId = slaId := hsla
  refine ⟨data, attempt, tr, view, rfl, ⟨hdata, tr', hread, h.config.returned _ hread⟩, hactive,
    ⟨hreturned, hattempt, hruns⟩, ⟨panel, asOf, hpage, hasOf ▸ hshown, hbelongs⟩,
    ⟨tally, hreads.tally tally htally, hquorum⟩, hreads.settled false hsettled, ?_⟩
  intro later hlater hlaterFetcher
  -- nothing is being loaded, and the hash is the same
  have hlatest : s.Superseded ∨ s.poll.Latest ⟨number, view⟩ :=
    h.latest _ hpolled (hsame.trans herror) (hfetcher.trans hold)
  rcases hlatest with (hsuperseded | hsuperseded) | hlatest
  · cases hloading.symm.trans hsuperseded
  · exact absurd (hhash.symm.trans (congrArg Fetcher.endpointHash hfetcher.symm)) hsuperseded
  · rw [hnumber]
    exact hlatest.1 later hlater (hlaterFetcher.trans hfetcher.symm)

/-- What the renders so far offered, they offered from what is still there. -/
theorem offered_more {s' : StatusScene} (h : s.Sound)
    (hconfig : s.config.returned ⊆ s'.config.returned)
    (hpoll : s.poll.returned ⊆ s'.poll.returned) :
    ∀ r ∈ s.rendered :: s.earlier, ∀ action, r.page.Offers action →
      ∃ data attempt tr view, OfferedFrom s' r action data attempt tr view := by
  intro r hr action hoffers
  obtain ⟨data, attempt, tr, view, hfrom⟩ := h.offered r hr action hoffers
  exact ⟨data, attempt, tr, view, hfrom.more hconfig hpoll⟩

theorem render (h : s.Sound) (hflushed : s.effectsDue = false) (slaId : ℕ) :
    (s.render slaId).Sound := by
  have hmore {fetcher : Fetcher} (hknown : s.Known fetcher) : (s.render slaId).Known fetcher :=
    ⟨hknown.1.trans (Nat.le_succ _), hknown.2⟩
  obtain ⟨hcallback, hhash⟩ := s.callback_for slaId
  have hcallbackKnown : (s.render slaId).Known (s.callback slaId) := by
    refine ⟨?_, fun hash hsome => h.config.decoded hash (hhash ▸ hsome)⟩
    rcases s.callback_eq_or slaId with hold | hnew
    · rw [hold]
      exact h.knownRendered.1.trans (Nat.le_succ _)
    · exact hnew.le
  have hold (hfetcher : s.poll.state.fetcher = s.callback slaId) :
      s.callback slaId = s.rendered.fetcher := (hfetcher ▸ h.knownShown).eq_rendered
  refine ⟨h.config, h.poll, h.keys, h.keys, h.depKeys, nofun, hcallback, hcallbackKnown,
    hmore h.knownShown, fun fetcher hfetcher => hmore (h.knownDeps fetcher hfetcher),
    fun polled hpolled hfetcher => ?_, fun polled hpolled herror hfetcher => ?_, ?_⟩
  · have hshown := h.shownFor polled hpolled (hfetcher.trans (hold hfetcher))
    rwa [← hold hfetcher] at hshown
  · exact h.latest polled hpolled herror (hfetcher.trans (hold hfetcher))
  · refine List.forall_mem_cons.mpr ⟨fun action hoffers => h.offers hflushed hoffers, ?_⟩
    exact h.offered_more (List.Subset.refl _) (List.Subset.refl _)

/-- The effects run. -/
theorem runEffects (h : s.Sound) : s.runEffects.Sound := by
  obtain ⟨hdeps, hkey, hobjects, hreturned⟩ :=
    s.config.effect_keeps s.rendered.slaId s.rendered.refreshKey
  obtain ⟨hdeps', hkey', hreturned', hstate⟩ :=
    s.poll.effect_keeps s.rendered.fetcher s.rendered.restartKey
  have hknown {fetcher : Fetcher} (hk : s.Known fetcher) : s.runEffects.Known fetcher :=
    ⟨hk.1, fun hash hsome => hobjects.symm ▸ hk.2 hash hsome⟩
  have hrunDeps : s.runEffects.poll.deps.map Prod.fst = some s.rendered.fetcher := by
    rw [StatusScene.runEffects, hdeps', Option.map_some]
  refine ⟨h.config.effect _ _, h.poll.effect _ _, ?_, h.renderedKeys, ?_, fun _ => ⟨hdeps, hdeps'⟩,
    h.renderedSla, hknown h.knownRendered, ?_, fun fetcher hfetcher => ?_, fun _ _ _ => hrunDeps,
    fun polled hpolled herror hfetcher => ?_, ?_⟩
  · exact hkey.trans (h.keys.trans hkey'.symm)
  · rw [StatusScene.runEffects, hdeps, hdeps', Option.map_some, Option.map_some, h.renderedKeys]
  · rcases hstate with hsame | hblank
    · exact hknown (hsame.symm ▸ h.knownShown)
    · exact hknown (hblank.symm ▸ h.knownRendered)
  · rw [← Option.some.inj (hrunDeps.symm.trans hfetcher)]
    exact hknown h.knownRendered
  · -- an effect that starts polling again for the same callback also starts to load
    by_cases hsame : s.config.deps = some (s.rendered.slaId, s.rendered.refreshKey)
    · have hkept : s.runEffects.poll.state = s.poll.state := by
        refine hstate.resolve_right fun hblank => ?_
        have hnone : s.runEffects.poll.state.data = none := congrArg PollingSnapshot.data hblank
        cases hnone.symm.trans hpolled
      rw [hkept] at hpolled herror hfetcher
      have hfst : s.poll.deps.map Prod.fst = some s.rendered.fetcher :=
        h.shownFor polled hpolled hfetcher
      have hsnd : s.poll.deps.map Prod.snd = some s.rendered.restartKey := by
        rw [h.depKeys, hsame, Option.map_some, h.renderedKeys]
      have hpoll : s.poll.deps = some (s.rendered.fetcher, s.rendered.restartKey) := by
        obtain ⟨deps, hsome, hdepsFst⟩ := Option.map_eq_some_iff.mp hfst
        rw [hsome, Option.map_some] at hsnd
        rw [hsome, ← hdepsFst, ← Option.some.inj hsnd]
      have hpollEq : s.runEffects.poll = s.poll := if_pos hpoll
      have hconfigEq : s.runEffects.config = s.config := if_pos hsame
      rw [Superseded, hpollEq, hconfigEq]
      exact h.latest polled hpolled herror hfetcher
    · have hloading : s.runEffects.config.state.loading = true := by
        rw [StatusScene.runEffects, ConfigHook.effect, if_neg hsame]
      exact .inl (.inl hloading)
  · exact h.offered_more (fun _ hmem => hreturned.symm ▸ hmem) hreturned'

theorem handleSettled (h : s.Sound) : s.handleSettled.Sound :=
  ⟨h.config.refresh, h.poll.refresh, congrArg Nat.succ h.keys, h.renderedKeys, h.depKeys,
    h.flushed, h.renderedSla, h.knownRendered, h.knownShown, h.knownDeps, h.shownFor, h.latest,
    h.offered_more (List.Subset.refl _) (List.Subset.refl _)⟩

/-- The configuration has come, and what is on view will not be shown any more. -/
theorem setConfig (h : s.Sound) {config : ConfigHook} (hconfig : config.Sound)
    (hkey : config.refreshKey = s.config.refreshKey) (hdeps : config.deps = s.config.deps)
    (hobjects : s.config.objects ≤ config.objects) (hmore : s.config.returned ⊆ config.returned)
    (hstate : config.state = s.config.state ∨
      ∀ polled, s.poll.state.data = some polled →
        config.state.endpointHash ≠ s.poll.state.fetcher.endpointHash) :
    { s with config := config }.Sound := by
  have hknown {fetcher : Fetcher} (hk : s.Known fetcher) :
      { s with config := config }.Known fetcher :=
    ⟨hk.1, fun hash hsome => (hk.2 hash hsome).trans_le hobjects⟩
  refine ⟨hconfig, h.poll, hkey.trans h.keys, h.renderedKeys, h.depKeys.trans (by rw [hdeps]),
    fun hflushed => ⟨hdeps.trans (h.flushed hflushed).1, (h.flushed hflushed).2⟩, h.renderedSla,
    hknown h.knownRendered, hknown h.knownShown,
    fun fetcher hfetcher => hknown (h.knownDeps fetcher hfetcher), h.shownFor,
    fun polled hpolled herror hfetcher => ?_, h.offered_more hmore (List.Subset.refl _)⟩
  rcases hstate with hsame | hother
  · rw [Superseded]
    dsimp only
    rw [hsame]
    exact h.latest polled hpolled herror hfetcher
  · exact .inl (.inr (hother polled hpolled))

theorem configSucceed (h : s.Sound) {fetch : ConfigFetch} {l₁ l₂ : List ConfigFetch}
    {tr : List (Event configInterface)} {data : SlaConfigView}
    (hinFlight : s.config.inFlight = l₁ ++ fetch :: l₂)
    (hruns : Runs (fetchSlaConfig fetch.slaId) tr (.ok data))
    (hfresh : data.config.endpointHash.ref = s.config.objects) :
    { s with config := { s.config with inFlight := l₁ ++ l₂ }.succeed fetch tr data }.Sound := by
  have hdrop := h.config.dropRequest (subset_inFlight hinFlight)
  have hcurrent := h.config.current fetch (mem_inFlight hinFlight)
  refine h.setConfig (hdrop.succeed hcurrent hruns hfresh) rfl rfl (Nat.le_succ _)
    (List.subset_cons_self _ _) ?_
  by_cases hrun : fetch.run = s.config.run
  · -- the hash is a new object, so it is not the one on view
    refine .inr fun polled _ heq => ?_
    have hhash : s.poll.state.fetcher.endpointHash = some data.config.endpointHash := by
      rw [← heq]
      simp [ConfigHook.succeed, ConfigState.endpointHash, hrun]
    have hlt : data.config.endpointHash.ref < s.config.objects := h.knownShown.2 _ hhash
    omega
  · exact .inl (if_neg hrun)

theorem configFail (h : s.Sound) {fetch : ConfigFetch} {l₁ l₂ : List ConfigFetch}
    (message : String) (hinFlight : s.config.inFlight = l₁ ++ fetch :: l₂) :
    { s with config := { s.config with inFlight := l₁ ++ l₂ }.fail fetch message }.Sound := by
  have hdrop := h.config.dropRequest (subset_inFlight hinFlight)
  refine h.setConfig (hdrop.fail fetch message) rfl rfl le_rfl (List.Subset.refl _) ?_
  by_cases hrun : fetch.run = s.config.run
  · -- there is no hash any more, and the one on view is one
    refine .inr fun polled hpolled heq => ?_
    obtain ⟨attempt, tr, hreturned, -, hfetcher⟩ := h.poll.shown polled hpolled
    obtain ⟨hash, hhash, -⟩ := h.poll.returned _ hreturned
    have hnone : (none : Option EndpointHash) = some hash := by
      rw [← hhash, hfetcher, ← heq]
      simp [ConfigHook.fail, ConfigState.endpointHash, hrun]
    cases hnone
  · exact .inl (if_neg hrun)

/-- The polling has gone on. -/
theorem setPoll (h : s.Sound) {poll : PollHook} (hpoll : poll.Sound)
    (hkey : poll.restartKey = s.poll.restartKey) (hdeps : poll.deps = s.poll.deps)
    (hmore : s.poll.returned ⊆ poll.returned) (hknown : s.Known poll.state.fetcher)
    (hshownFor : ∀ polled, poll.state.data = some polled →
      poll.state.fetcher = s.rendered.fetcher →
        s.poll.deps.map Prod.fst = some s.rendered.fetcher)
    (hlatest : ∀ polled, poll.state.data = some polled → poll.state.error = none →
      poll.state.fetcher = s.rendered.fetcher →
        { s with poll := poll }.Superseded ∨ poll.Latest polled) :
    { s with poll := poll }.Sound :=
  ⟨h.config, hpoll, h.keys.trans hkey.symm, h.renderedKeys, hdeps.symm ▸ h.depKeys,
    fun hflushed => ⟨(h.flushed hflushed).1, hdeps.trans (h.flushed hflushed).2⟩, h.renderedSla,
    h.knownRendered, hknown, fun fetcher hfetcher => h.knownDeps fetcher (hdeps ▸ hfetcher),
    fun polled hpolled hfetcher => hdeps.symm ▸ hshownFor polled hpolled hfetcher, hlatest,
    h.offered_more (List.Subset.refl _) hmore⟩

theorem pollContinues (h : s.Sound) {poll : PollHook} (hpoll : poll.Sound)
    (hcontinues : s.poll.Continues poll) : { s with poll := poll }.Sound := by
  obtain ⟨hstate, hdeps, hkey, hreturned, hlatest⟩ := hcontinues
  refine h.setPoll hpoll hkey hdeps hreturned
    (hstate.symm ▸ h.knownShown) (hstate.symm ▸ h.shownFor) fun polled hpolled herror hfetcher => ?_
  rw [hstate] at hpolled herror hfetcher
  rw [Superseded]
  dsimp only
  rw [hstate]
  exact (h.latest polled hpolled herror hfetcher).imp_right (hlatest polled)

theorem pollSucceed (h : s.Sound) {attempt : Attempt} {l₁ l₂ : List Attempt}
    {endpointHash : EndpointHash} {tr : List (Event roundInterface)} {view : RoundStatusView}
    (hinFlight : s.poll.inFlight = l₁ ++ attempt :: l₂)
    (hhash : attempt.fetcher.endpointHash = some endpointHash)
    (hruns : Runs (fetchRoundStatus attempt.fetcher.slaId endpointHash) tr view) :
    { s with poll := { s.poll with inFlight := l₁ ++ l₂ }.succeed attempt tr view }.Sound := by
  have hpoll := h.poll.succeed hinFlight hhash hruns
  have hsub := subset_inFlight hinFlight
  by_cases hrun : attempt.run = s.poll.run
  · obtain ⟨hdeps, hnumber, -⟩ := h.poll.current attempt (mem_inFlight hinFlight) hrun
    have heq : { s.poll with inFlight := l₁ ++ l₂ }.succeed attempt tr view =
        { s.poll with
          inFlight := l₁ ++ l₂
          returned := (attempt, tr, view) :: s.poll.returned
          state := ⟨some ⟨attempt.number, view⟩, none, false, attempt.fetcher⟩ }.schedule :=
      if_pos hrun
    rw [heq] at hpoll ⊢
    refine h.setPoll hpoll rfl rfl (List.subset_cons_self _ _) (h.knownDeps _ hdeps)
      (fun _ _ hfetcher => hfetcher ▸ hdeps) fun polled hpolled _ _ => .inr ?_
    rw [← Option.some.inj hpolled]
    -- it was the last attempt that was made
    refine ⟨fun later hlater _ => hnumber ▸ h.poll.failed later hlater, ?_⟩
    intro later hlater _ hlt
    have hle : later.number ≤ s.poll.attempts := (h.poll.runs later (hsub hlater)).2
    have hlt : attempt.number < later.number := hlt
    omega
  · have heq : { s.poll with inFlight := l₁ ++ l₂ }.succeed attempt tr view =
        { s.poll with
          inFlight := l₁ ++ l₂
          returned := (attempt, tr, view) :: s.poll.returned } := if_neg hrun
    rw [heq] at hpoll ⊢
    exact h.pollContinues hpoll ⟨rfl, rfl, rfl, List.subset_cons_self _ _, fun _ hl =>
      ⟨hl.1, fun later hlater => hl.2 later (hsub hlater)⟩⟩

theorem pollFail (h : s.Sound) {attempt : Attempt} {l₁ l₂ : List Attempt} (message : String)
    (hinFlight : s.poll.inFlight = l₁ ++ attempt :: l₂) :
    { s with poll := { s.poll with inFlight := l₁ ++ l₂ }.fail attempt message }.Sound := by
  have hpoll := h.poll.fail message hinFlight
  by_cases hrun : attempt.run = s.poll.run
  · obtain ⟨hdeps, -, -⟩ := h.poll.current attempt (mem_inFlight hinFlight) hrun
    have heq : { s.poll with inFlight := l₁ ++ l₂ }.fail attempt message =
        { s.poll with
          inFlight := l₁ ++ l₂
          failed := attempt :: s.poll.failed
          state :=
            ⟨if s.poll.state.fetcher = attempt.fetcher then s.poll.state.data else none,
              some message, false, attempt.fetcher⟩ }.schedule := if_pos hrun
    rw [heq] at hpoll ⊢
    exact h.setPoll hpoll rfl rfl (List.Subset.refl _) (h.knownDeps _ hdeps)
      (fun _ _ hfetcher => hfetcher ▸ hdeps) fun _ _ herror => nomatch herror
  · have heq : { s.poll with inFlight := l₁ ++ l₂ }.fail attempt message =
        { s.poll with
          inFlight := l₁ ++ l₂
          failed := attempt :: s.poll.failed } := if_neg hrun
    rw [heq] at hpoll ⊢
    refine h.pollContinues hpoll ⟨rfl, rfl, rfl, List.Subset.refl _, fun polled hl => ⟨?_, ?_⟩⟩
    · -- an attempt of an earlier run is no later one
      refine List.forall_mem_cons.mpr ⟨fun hfetcher => ?_, hl.1⟩
      by_contra hlater
      exact hrun (hl.2 attempt (mem_inFlight hinFlight) hfetcher (not_le.mp hlater))
    · exact fun later hlater => hl.2 later (subset_inFlight hinFlight hlater)

/-- What one step preserves. -/
theorem step {s' : StatusScene} (h : s.Sound) (hstep : StatusStep s s') : s'.Sound := by
  cases hstep with
  | render flushed => exact h.render flushed _
  | runEffects _ => exact h.runEffects
  | handleSettled => exact h.handleSettled
  | configSucceed inFlight runs fresh => exact h.configSucceed inFlight runs fresh
  | configFail inFlight => exact h.configFail _ inFlight
  | timeout _ _ => exact h.pollContinues h.poll.timeout s.poll.timeout_continues
  | setHidden => exact h.pollContinues (h.poll.setHidden _) (s.poll.setHidden_continues _)
  | pollSucceed inFlight hash runs => exact h.pollSucceed inFlight hash runs
  | pollFail inFlight => exact h.pollFail _ inFlight

/-- A page that has been mounted. -/
theorem mount (slaId : ℕ) (hidden : Bool) : (StatusScene.mount slaId hidden).Sound := by
  have hknown : (StatusScene.mount slaId hidden).Known ⟨0, slaId, none⟩ := ⟨le_rfl, nofun⟩
  refine ⟨.initial, .initial _ hidden, rfl, rfl, rfl, nofun, rfl, hknown, hknown, nofun, nofun,
    nofun, ?_⟩
  refine List.forall_mem_singleton.mpr fun action hoffers => ?_
  -- the first render is still loading
  obtain ⟨_, _, hpage, _⟩ := hoffers
  cases hpage

end Sound

end StatusScene

theorem StatusReachable.sound {s : StatusScene} (h : StatusReachable s) : s.Sound := by
  obtain ⟨slaId, hidden, hrun⟩ := h
  induction hrun with
  | refl => exact .mount slaId hidden
  | tail _ hstep ih => exact ih.step hstep

/-- **Settlement is offered from one view.** Wherever the page offers to settle a round, the round,
its tally, its settled flag and the time shown with it come from one view, fetched with the hash of
the configuration shown, after which no attempt of the same fetcher had failed. -/
theorem settlement_offered {s : StatusScene} (h : StatusReachable s) :
    ∀ r ∈ s.rendered :: s.earlier, ∀ action, r.page.Offers action →
      ∃ data attempt tr view, OfferedFrom s r action data attempt tr view :=
  h.sound.offered

section

/-! A round with two Down votes, which is the quorum. -/

private def sampleConfig : SlaConfigView :=
  ⟨⟨"token", ⟨0, []⟩, 2, 1, .active⟩, 5, 7, "XLM"⟩

private def sampleView : RoundStatusView :=
  ⟨⟨some 4, some "12:00", some .ledger⟩, .ok [], .ok ⟨0, 2⟩, .ok false⟩

private theorem runs_sampleConfig : Runs (fetchSlaConfig 9)
    [⟨.getSla 9, .ok sampleConfig.config⟩, ⟨.getBondBalance 9, .ok (5 : ℤ)⟩,
      ⟨.getTokenDecimals "token", .ok (7 : ℕ)⟩, ⟨.getTokenSymbol "token", .ok "XLM"⟩]
    (.ok sampleConfig) :=
  .call (.call (.call (.call .done)))

private theorem runs_sampleView : Runs (fetchRoundStatus 9 ⟨0, []⟩)
    [⟨.getClock, .ok (⟨1, "12:00", 4⟩ : Clock)⟩,
      ⟨.getCurrentRound 9, .ok (⟨4, "11:55", [], []⟩ : CurrentRound)⟩,
      ⟨.getRoundTally 9 4 ⟨0, []⟩, .ok (⟨0, 2⟩ : RoundTally)⟩,
      ⟨.isRoundSettled 9 4, .ok false⟩]
    sampleView :=
  .call (.call (.call (.call .done)))

private theorem StatusReachable.next {s s' : StatusScene} (h : StatusReachable s)
    (hstep : StatusStep s s') : StatusReachable s' := by
  obtain ⟨slaId, hidden, hrun⟩ := h
  exact ⟨slaId, hidden, hrun.tail hstep⟩

private theorem StatusReachable.render {s : StatusScene} (h : StatusReachable s) (slaId : ℕ)
    (hflushed : s.effectsDue = false) : StatusReachable (s.render slaId) :=
  h.next (.render hflushed)

/-- The round is offered for settlement. -/
theorem settlement_offered_quorum : ∃ s, StatusReachable s ∧
    (∃ action, s.rendered.page.Offers action) ∧
    ∀ r ∈ s.rendered :: s.earlier, ∀ action, r.page.Offers action →
      ∃ data attempt tr view, OfferedFrom s r action data attempt tr view := by
  have hmount : StatusReachable (.mount 9 false) := ⟨9, false, .refl⟩
  have hconfig := (hmount.next (.runEffects rfl)).next
    (.configSucceed (List.nil_append _).symm runs_sampleConfig rfl)
  have hpolling := (hconfig.render 9 rfl).next (.runEffects rfl)
  have hview := hpolling.next (.pollSucceed (List.nil_append _).symm rfl runs_sampleView)
  have hshown := hview.render 9 rfl
  exact ⟨_, hshown, ⟨_, _, _, rfl, rfl⟩, settlement_offered hshown⟩

end

end Web

end SlaSettle
