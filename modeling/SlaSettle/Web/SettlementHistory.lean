import Mathlib.Logic.Function.Basic
import Mathlib.Logic.Relation
import SlaSettle.Effect.InFlight
import SlaSettle.Store.Paging

/-!
# The settlement history on the status page

`useSettlementHistory` of `lib/use-settlement-history.ts`: the list of an SLA's settlements, newest
first and a page at a time. Its effect loads the first page whenever the SLA changes, `reload` reads
the first page again, and `loadMore` the page behind the last row shown. All three write the same
state when their request comes back, and only the effect's own request is dropped when it is late.

A scene is the hook, mounted in a page, and the indexer it asks: the histories the indexer has of
all SLAs, which grow at their newest end, the requests in flight, and everything the hook has
exposed so far, one entry per render. `reload` and `loadMore` may be called from any of these
renders, since each passes its own closures on.

`history_contiguous` is about every run in which no late page is let in. Without that,
`history_gap` is a run that leaves out a row.
-/

namespace SlaSettle

namespace Web

open Effect Store

/-- The settlements asked for at once. -/
def PAGE_SIZE : ℕ := 20

variable {Sla Row κ : Type}

/-! ### The hook's state -/

/-- The state of the hook. -/
structure HistoryState (Row κ : Type) where
  settlements : List Row
  nextCursor : Option κ
  loading : Bool
  loadingMore : Bool
  error : Option String

/-- The state before the first effect. -/
def HistoryState.initial : HistoryState Row κ :=
  ⟨[], none, true, false, none⟩

/-- What the effect sets before its request. The rows stay as they are. -/
def HistoryState.startLoad (prev : HistoryState Row κ) : HistoryState Row κ :=
  { prev with loading := true, error := none }

/-- What the effect and `reload` set when their page comes. -/
def HistoryState.loaded (page : Page Row κ) : HistoryState Row κ :=
  ⟨page.rows, page.next, false, false, none⟩

/-- What the effect sets when its request fails. -/
def HistoryState.loadFailed (message : String) : HistoryState Row κ :=
  ⟨[], none, false, false, some message⟩

/-- What `reload` sets when its request fails. -/
def HistoryState.reloadFailed (prev : HistoryState Row κ) (message : String) :
    HistoryState Row κ :=
  { prev with error := some message }

/-- What `loadMore` sets before its request. -/
def HistoryState.startLoadMore (prev : HistoryState Row κ) : HistoryState Row κ :=
  { prev with loadingMore := true }

/-- What `loadMore` sets when its page comes. -/
def HistoryState.appended (prev : HistoryState Row κ) (page : Page Row κ) : HistoryState Row κ :=
  ⟨prev.settlements ++ page.rows, page.next, false, false, none⟩

/-- What `loadMore` sets when its request fails. -/
def HistoryState.loadMoreFailed (prev : HistoryState Row κ) (message : String) :
    HistoryState Row κ :=
  { prev with loadingMore := false, error := some message }

/-! ### The scene -/

/-- A request of the hook. The effect's own carries its number: its `cancelled` flag is set once
the effect has run again. -/
inductive HistoryRequest (κ : Type) where
  | initial (load : ℕ)
  | reload
  | loadMore (before : κ)

/-- The cursor a request is made with. -/
def HistoryRequest.before : HistoryRequest κ → Option κ
  | .initial _ => none
  | .reload => none
  | .loadMore before => some before

/-- A request in flight, and its page once the indexer has answered. -/
structure HistoryPending (Sla Row κ : Type) where
  request : HistoryRequest κ
  slaId : Sla
  answer : Option (Page Row κ)

/-- What the hook exposed at a render. `firstLoad` is the SLA whose first load was the last to
settle since the SLA changed. -/
structure HistoryRender (Sla Row κ : Type) where
  slaId : Sla
  state : HistoryState Row κ
  firstLoad : Option Sla

/-- The first load of the SLA of this render has settled. -/
def HistoryRender.Settled (render : HistoryRender Sla Row κ) : Prop :=
  render.firstLoad = some render.slaId

/-- The hook and the indexer. -/
structure HistoryScene (Sla Row κ : Type) where
  history : Sla → List Row
  slaId : Sla
  state : HistoryState Row κ
  /-- The SLA has changed, and the effect has yet to run for it. -/
  effectDue : Bool
  /-- The number of the effect's last run. -/
  load : ℕ
  firstLoad : Option Sla
  renders : List (HistoryRender Sla Row κ)
  inFlight : List (HistoryPending Sla Row κ)

namespace HistoryScene

/-- The hook has rendered for the first time. -/
def mount (history : Sla → List Row) (slaId : Sla) : HistoryScene Sla Row κ where
  history := history
  slaId := slaId
  state := .initial
  effectDue := true
  load := 0
  firstLoad := none
  renders := [⟨slaId, .initial, none⟩]
  inFlight := []

/-- The indexer records a settlement. -/
def grow [DecidableEq Sla] (s : HistoryScene Sla Row κ) (slaId : Sla) (row : Row) :
    HistoryScene Sla Row κ :=
  { s with history := Function.update s.history slaId (row :: s.history slaId) }

/-- The hook renders again. -/
def render (s : HistoryScene Sla Row κ) : HistoryScene Sla Row κ :=
  { s with renders := ⟨s.slaId, s.state, s.firstLoad⟩ :: s.renders }

/-- The hook renders for another SLA. -/
def changeSla (s : HistoryScene Sla Row κ) (slaId : Sla) : HistoryScene Sla Row κ :=
  { s with
    slaId := slaId
    effectDue := true
    firstLoad := none
    renders := ⟨slaId, s.state, none⟩ :: s.renders }

/-- The effect runs: it cancels the load of its run before and starts its own. -/
def runEffect (s : HistoryScene Sla Row κ) : HistoryScene Sla Row κ :=
  { s with
    state := s.state.startLoad
    effectDue := false
    load := s.load + 1
    inFlight := ⟨.initial (s.load + 1), s.slaId, none⟩ :: s.inFlight }

/-- `reload()` of a render. -/
def reload (s : HistoryScene Sla Row κ) (r : HistoryRender Sla Row κ) :
    HistoryScene Sla Row κ :=
  { s with inFlight := ⟨.reload, r.slaId, none⟩ :: s.inFlight }

/-- `loadMore()` of a render. It returns at once without a next cursor, and while that render shows
that more is on its way. -/
def loadMore (s : HistoryScene Sla Row κ) (r : HistoryRender Sla Row κ) :
    HistoryScene Sla Row κ :=
  match r.state.nextCursor, r.state.loadingMore with
  | some nextCursor, false =>
    { s with
      state := s.state.startLoadMore
      inFlight := ⟨.loadMore nextCursor, r.slaId, none⟩ :: s.inFlight }
  | _, _ => s

/-- A page comes back. The effect's own is dropped if the effect has run again. -/
def receive (s : HistoryScene Sla Row κ) (pending : HistoryPending Sla Row κ) (page : Page Row κ) :
    HistoryScene Sla Row κ :=
  match pending.request with
  | .initial load =>
    if load = s.load then { s with state := .loaded page, firstLoad := some pending.slaId } else s
  | .reload => { s with state := .loaded page }
  | .loadMore _ => { s with state := s.state.appended page }

/-- A request fails. -/
def fail (s : HistoryScene Sla Row κ) (pending : HistoryPending Sla Row κ) (message : String) :
    HistoryScene Sla Row κ :=
  match pending.request with
  | .initial load =>
    if load = s.load then { s with state := .loadFailed message, firstLoad := some pending.slaId }
    else s
  | .reload => { s with state := s.state.reloadFailed message }
  | .loadMore _ => { s with state := s.state.loadMoreFailed message }

end HistoryScene

/-- A row the indexer records next: newer than the rows of its SLA, and with a key of its own. -/
def IsNew [LinearOrder κ] (key : Row → κ) (history : Sla → List Row) (slaId : Sla) (row : Row) :
    Prop :=
  (∀ r ∈ history slaId, key r < key row) ∧ ∀ slaId', ∀ r ∈ history slaId', key r ≠ key row

/-- One thing that happens. Effects run before the next render does, and a page is one the indexer
had when it answered. `admits` restricts the pages that come back: the code takes them all. -/
inductive HistoryStep [LinearOrder κ] [DecidableEq Sla] (key : Row → κ)
    (admits : HistoryScene Sla Row κ → HistoryPending Sla Row κ → Prop) :
    HistoryScene Sla Row κ → HistoryScene Sla Row κ → Prop
  | grow {s : HistoryScene Sla Row κ} {slaId : Sla} {row : Row}
      (isNew : IsNew key s.history slaId row) : HistoryStep key admits s (s.grow slaId row)
  | render {s : HistoryScene Sla Row κ} (flushed : s.effectDue = false) :
      HistoryStep key admits s s.render
  | changeSla {s : HistoryScene Sla Row κ} {slaId : Sla} (flushed : s.effectDue = false)
      (other : slaId ≠ s.slaId) : HistoryStep key admits s (s.changeSla slaId)
  | runEffect {s : HistoryScene Sla Row κ} (due : s.effectDue = true) :
      HistoryStep key admits s s.runEffect
  | reload {s : HistoryScene Sla Row κ} {r : HistoryRender Sla Row κ} (rendered : r ∈ s.renders) :
      HistoryStep key admits s (s.reload r)
  | loadMore {s : HistoryScene Sla Row κ} {r : HistoryRender Sla Row κ} (rendered : r ∈ s.renders) :
      HistoryStep key admits s (s.loadMore r)
  | answer {s : HistoryScene Sla Row κ} {p : HistoryPending Sla Row κ}
      {l₁ l₂ : List (HistoryPending Sla Row κ)} (inFlight : s.inFlight = l₁ ++ p :: l₂)
      (waits : p.answer = none) :
      HistoryStep key admits s { s with
        inFlight := l₁ ++ { p with
          answer := some (page key PAGE_SIZE p.request.before (s.history p.slaId)) } :: l₂ }
  | receive {s : HistoryScene Sla Row κ} {p : HistoryPending Sla Row κ} {answer : Page Row κ}
      {l₁ l₂ : List (HistoryPending Sla Row κ)} (inFlight : s.inFlight = l₁ ++ p :: l₂)
      (answered : p.answer = some answer) (admitted : admits s p) :
      HistoryStep key admits s ({ s with inFlight := l₁ ++ l₂ }.receive p answer)
  | fail {s : HistoryScene Sla Row κ} {p : HistoryPending Sla Row κ} {message : String}
      {l₁ l₂ : List (HistoryPending Sla Row κ)} (inFlight : s.inFlight = l₁ ++ p :: l₂) :
      HistoryStep key admits s ({ s with inFlight := l₁ ++ l₂ }.fail p message)

/-- The scenes a mounted hook comes to. -/
def HistoryReachable [LinearOrder κ] [DecidableEq Sla] (key : Row → κ)
    (admits : HistoryScene Sla Row κ → HistoryPending Sla Row κ → Prop)
    (s : HistoryScene Sla Row κ) : Prop :=
  ∃ (history : Sla → List Row) (slaId : Sla), (∀ slaId', NewestFirst key (history slaId')) ∧
    Relation.ReflTransGen (HistoryStep key admits) (.mount history slaId) s

/-! ### What is in order -/

/-- A page that comes in order. Until the first load of the SLA shown has settled, that is any page.
From then on it is one of the SLA shown, and one that `loadMore` asked for is the page behind the
rows shown by now. -/
def InOrder (s : HistoryScene Sla Row κ) (p : HistoryPending Sla Row κ) : Prop :=
  match p.request with
  | .initial _ => True
  | .reload => s.firstLoad = some s.slaId → p.slaId = s.slaId
  | .loadMore before => s.firstLoad = some s.slaId →
    p.slaId = s.slaId ∧ (s.state.settlements = [] ∨ s.state.nextCursor = some before)

/-- The rows exposed are rows of the history with none repeated and none between them left out,
newest first, and the cursor is the last row's if there is more behind it. -/
structure Exposes [LinearOrder κ] (key : Row → κ) (history : List Row)
    (state : HistoryState Row κ) : Prop where
  contiguous : Contiguous key history state.settlements state.nextCursor
  newestFirst : NewestFirst key state.settlements

section

variable [LinearOrder κ] {key : Row → κ}

/-- A key of a row of some SLA. -/
def Known (key : Row → κ) (history : Sla → List Row) (c : κ) : Prop :=
  ∃ slaId, ∃ r ∈ history slaId, key r = c

/-- A page the indexer answered with, before it recorded the rows in front. -/
def Answered (key : Row → κ) (table : List Row) (before : Option κ) (answer : Page Row κ) : Prop :=
  ∃ fresh rows, table = fresh ++ rows ∧ answer = page key PAGE_SIZE before rows ∧
    ∀ r ∈ fresh, before ≠ some (key r)

/-- What holds in every scene. -/
structure HistoryScene.Sound (key : Row → κ) (s : HistoryScene Sla Row κ) : Prop where
  newestFirst : ∀ slaId, NewestFirst key (s.history slaId)
  stateKnown : ∀ c, s.state.nextCursor = some c → Known key s.history c
  renderKnown : ∀ r ∈ s.renders, ∀ c, r.state.nextCursor = some c → Known key s.history c
  requestKnown : ∀ p ∈ s.inFlight, ∀ c, p.request.before = some c → Known key s.history c
  answered : ∀ p ∈ s.inFlight, ∀ answer, p.answer = some answer →
    Answered key (s.history p.slaId) p.request.before answer
  shown : s.firstLoad = some s.slaId →
    Contiguous key (s.history s.slaId) s.state.settlements s.state.nextCursor
  rendered : ∀ r ∈ s.renders, r.Settled →
    Contiguous key (s.history r.slaId) r.state.settlements r.state.nextCursor

/-- A page's cursor is the key of a row. -/
theorem Answered.known {history : Sla → List Row} {slaId : Sla} {before : Option κ}
    {answer : Page Row κ} (h : Answered key (history slaId) before answer) {c : κ}
    (hnext : answer.next = some c) : Known key history c := by
  obtain ⟨fresh, rows, htable, rfl, -⟩ := h
  obtain ⟨r, hr, hc⟩ := page_next hnext
  exact ⟨slaId, r, htable ▸ List.mem_append_right fresh hr, hc⟩

/-- A page is contiguous. -/
theorem Answered.contiguous {table : List Row} {before : Option κ} {answer : Page Row κ}
    (h : Answered key table before answer) (hordered : NewestFirst key table) :
    Contiguous key table answer.rows answer.next := by
  obtain ⟨fresh, rows, rfl, rfl, -⟩ := h
  exact contiguous_page (by decide) (List.pairwise_append.mp hordered).2.1 before fresh

/-- A page behind the rows shown continues them. -/
theorem Answered.continues {table shown : List Row} {c : κ} {answer : Page Row κ}
    (h : Answered key table (some c) answer) (hordered : NewestFirst key table)
    (hshown : Contiguous key table shown (some c)) :
    Contiguous key table (shown ++ answer.rows) answer.next := by
  obtain ⟨fresh, rows, rfl, rfl, hfresh⟩ := h
  exact hshown.append_page (by decide) hordered fun r hr heq => hfresh r hr (congrArg some heq.symm)

namespace HistoryScene.Sound

variable {s : HistoryScene Sla Row κ}

/-- The numbering of the loads does not matter. -/
theorem setEffect (h : s.Sound key) (effectDue : Bool) (load : ℕ) :
    { s with effectDue := effectDue, load := load }.Sound key :=
  ⟨h.newestFirst, h.stateKnown, h.renderKnown, h.requestKnown, h.answered, h.shown, h.rendered⟩

/-- The hook's state may be set to what is contiguous, once the first load has settled. -/
theorem setState (h : s.Sound key) {state : HistoryState Row κ} {firstLoad : Option Sla}
    (hknown : ∀ c, state.nextCursor = some c → Known key s.history c)
    (hshown : firstLoad = some s.slaId →
      Contiguous key (s.history s.slaId) state.settlements state.nextCursor) :
    { s with state := state, firstLoad := firstLoad }.Sound key :=
  ⟨h.newestFirst, hknown, h.renderKnown, h.requestKnown, h.answered, hshown, h.rendered⟩

/-- Flags and messages do not matter. -/
theorem setFlags (h : s.Sound key) {state : HistoryState Row κ}
    (hrows : state.settlements = s.state.settlements)
    (hnext : state.nextCursor = s.state.nextCursor) : { s with state := state }.Sound key := by
  refine h.setState (fun c hc => h.stateKnown c (hnext ▸ hc)) fun hfirst => ?_
  rw [hrows, hnext]
  exact h.shown hfirst

/-- A request is made with a known cursor. -/
theorem ask (h : s.Sound key) {p : HistoryPending Sla Row κ} (hwaits : p.answer = none)
    (hknown : ∀ c, p.request.before = some c → Known key s.history c) :
    { s with inFlight := p :: s.inFlight }.Sound key := by
  refine ⟨h.newestFirst, h.stateKnown, h.renderKnown, ?_, ?_, h.shown, h.rendered⟩
  · exact List.forall_mem_cons.mpr ⟨hknown, h.requestKnown⟩
  · refine List.forall_mem_cons.mpr ⟨fun answer hanswer => ?_, h.answered⟩
    rw [hwaits] at hanswer
    cases hanswer

/-- A request is over. -/
theorem dropRequest (h : s.Sound key) {l : List (HistoryPending Sla Row κ)}
    (hsub : l ⊆ s.inFlight) : { s with inFlight := l }.Sound key :=
  ⟨h.newestFirst, h.stateKnown, h.renderKnown, fun p hp => h.requestKnown p (hsub hp),
    fun p hp => h.answered p (hsub hp), h.shown, h.rendered⟩

/-- A render exposes the state. -/
theorem expose (h : s.Sound key) {r : HistoryRender Sla Row κ} (hstate : r.state = s.state)
    (hshown : r.Settled →
      Contiguous key (s.history r.slaId) s.state.settlements s.state.nextCursor) :
    { s with renders := r :: s.renders }.Sound key := by
  refine ⟨h.newestFirst, h.stateKnown, ?_, h.requestKnown, h.answered, h.shown, ?_⟩
  · refine List.forall_mem_cons.mpr ⟨?_, h.renderKnown⟩
    rw [hstate]
    exact h.stateKnown
  · refine List.forall_mem_cons.mpr ⟨?_, h.rendered⟩
    rw [hstate]
    exact hshown

/-- A new row is added to one history. -/
theorem grow [DecidableEq Sla] (h : s.Sound key) {slaId : Sla} {row : Row}
    (hnew : IsNew key s.history slaId row) : (s.grow slaId row).Sound key := by
  have hcases (slaId' : Sla) : (s.grow slaId row).history slaId' = s.history slaId' ∨
      slaId' = slaId ∧ (s.grow slaId row).history slaId' = row :: s.history slaId' := by
    by_cases hsla : slaId' = slaId
    · subst hsla
      exact .inr ⟨rfl, Function.update_self ..⟩
    · exact .inl (Function.update_of_ne hsla ..)
  have hknown {c : κ} (hc : Known key s.history c) : Known key (s.grow slaId row).history c := by
    obtain ⟨slaId', r, hr, hc⟩ := hc
    refine ⟨slaId', r, ?_, hc⟩
    rcases hcases slaId' with hsame | ⟨-, hgrown⟩
    · rwa [hsame]
    · rw [hgrown]
      exact List.mem_cons_of_mem row hr
  have hcontiguous {slaId' : Sla} {shown : List Row} {next : Option κ}
      (hshown : Contiguous key (s.history slaId') shown next) :
      Contiguous key ((s.grow slaId row).history slaId') shown next := by
    rcases hcases slaId' with hsame | ⟨-, hgrown⟩
    · rwa [hsame]
    · rw [hgrown]
      exact hshown.grow row
  refine ⟨fun slaId' => ?_, fun c hc => hknown (h.stateKnown c hc),
    fun r hr c hc => hknown (h.renderKnown r hr c hc),
    fun p hp c hc => hknown (h.requestKnown p hp c hc), fun p hp answer hanswer => ?_,
    fun hfirst => hcontiguous (h.shown hfirst),
    fun r hr hsettled => hcontiguous (h.rendered r hr hsettled)⟩
  · rcases hcases slaId' with hsame | ⟨rfl, hgrown⟩
    · rw [hsame]
      exact h.newestFirst slaId'
    · rw [hgrown]
      exact List.pairwise_cons.mpr ⟨hnew.1, h.newestFirst slaId'⟩
  · obtain ⟨fresh, rows, htable, hpage, hfresh⟩ := h.answered p hp answer hanswer
    rcases hcases p.slaId with hsame | ⟨-, hgrown⟩
    · exact ⟨fresh, rows, hsame.trans htable, hpage, hfresh⟩
    · refine ⟨row :: fresh, rows, by rw [hgrown, htable, List.cons_append], hpage, ?_⟩
      -- the cursor was some row's key before, and the new row has a key of its own
      refine List.forall_mem_cons.mpr ⟨fun hbefore => ?_, hfresh⟩
      obtain ⟨slaId', r, hr, hc⟩ := h.requestKnown p hp _ hbefore
      exact hnew.2 slaId' r hr hc

/-- The indexer answers. -/
theorem answer (h : s.Sound key) {p : HistoryPending Sla Row κ}
    {l₁ l₂ : List (HistoryPending Sla Row κ)} (hinFlight : s.inFlight = l₁ ++ p :: l₂) :
    { s with
      inFlight := l₁ ++ { p with
        answer := some (page key PAGE_SIZE p.request.before (s.history p.slaId)) } :: l₂ }.Sound
      key := by
  have hp : p ∈ s.inFlight := mem_inFlight hinFlight
  refine ⟨h.newestFirst, h.stateKnown, h.renderKnown,
    forall_inFlight hinFlight h.requestKnown (h.requestKnown p hp),
    forall_inFlight hinFlight h.answered fun answer hanswer => ?_, h.shown, h.rendered⟩
  exact ⟨[], s.history p.slaId, rfl, (Option.some.inj hanswer).symm, nofun⟩

/-- A page comes back in order. -/
theorem receive (h : s.Sound key) {p : HistoryPending Sla Row κ} {answer : Page Row κ}
    (hanswer : Answered key (s.history p.slaId) p.request.before answer) (horder : InOrder s p) :
    (s.receive p answer).Sound key := by
  obtain ⟨request, slaId, answered⟩ := p
  have hcontiguous : Contiguous key (s.history slaId) answer.rows answer.next :=
    hanswer.contiguous (h.newestFirst slaId)
  have hknown (c : κ) (hc : answer.next = some c) : Known key s.history c := hanswer.known hc
  cases request with
  | initial load =>
    by_cases hload : load = s.load
    · have hset : s.receive ⟨.initial load, slaId, answered⟩ answer =
          { s with state := .loaded answer, firstLoad := some slaId } := if_pos hload
      rw [hset]
      exact h.setState hknown fun hfirst => Option.some.inj hfirst ▸ hcontiguous
    · have hdropped : s.receive ⟨.initial load, slaId, answered⟩ answer = s := if_neg hload
      rwa [hdropped]
  | reload => exact h.setState hknown fun hfirst => horder hfirst ▸ hcontiguous
  | loadMore before =>
    refine h.setState hknown fun hfirst => ?_
    obtain ⟨rfl, hshown⟩ := horder hfirst
    rcases hshown with hnone | hnext
    · rw [HistoryState.appended, hnone, List.nil_append]
      exact hcontiguous
    · exact hanswer.continues (h.newestFirst s.slaId) (hnext ▸ h.shown hfirst)

/-- A request fails. -/
theorem fail (h : s.Sound key) (p : HistoryPending Sla Row κ) (message : String) :
    (s.fail p message).Sound key := by
  rw [HistoryScene.fail]
  split
  · split
    · refine h.setState nofun fun _ => ?_
      exact ⟨[], s.history s.slaId, rfl, .inl ⟨rfl, rfl⟩⟩
    · exact h
  · exact h.setFlags rfl rfl
  · exact h.setFlags rfl rfl

/-- A render for another SLA: its first load has yet to settle. -/
theorem changeSla (h : s.Sound key) (slaId : Sla) : (s.changeSla slaId).Sound key := by
  refine ⟨h.newestFirst, h.stateKnown, ?_, h.requestKnown, h.answered, fun hfirst => ?_, ?_⟩
  · exact List.forall_mem_cons.mpr ⟨h.stateKnown, h.renderKnown⟩
  · cases hfirst
  · refine List.forall_mem_cons.mpr ⟨fun hfirst => ?_, h.rendered⟩
    cases hfirst

/-- The effect asks for the first page. -/
theorem runEffect (h : s.Sound key) : s.runEffect.Sound key := by
  have hstart : { s with state := s.state.startLoad }.Sound key := h.setFlags rfl rfl
  have hnumber := hstart.setEffect false (s.load + 1)
  exact hnumber.ask rfl nofun

/-- The next page is asked for with a cursor that was exposed. -/
theorem loadMore (h : s.Sound key) {r : HistoryRender Sla Row κ} (hr : r ∈ s.renders) :
    (s.loadMore r).Sound key := by
  rw [HistoryScene.loadMore]
  split
  next nextCursor hnext _ =>
    have hstart : { s with state := s.state.startLoadMore }.Sound key := h.setFlags rfl rfl
    refine hstart.ask rfl fun c hc => ?_
    obtain rfl : nextCursor = c := Option.some.inj hc
    exact h.renderKnown r hr nextCursor hnext
  · exact h

/-- What one step preserves. -/
theorem step [DecidableEq Sla] {s' : HistoryScene Sla Row κ} (h : s.Sound key)
    (hstep : HistoryStep key InOrder s s') : s'.Sound key := by
  cases hstep with
  | grow isNew => exact h.grow isNew
  | render _ => exact h.expose rfl h.shown
  | changeSla _ _ => exact h.changeSla _
  | runEffect _ => exact h.runEffect
  | reload _ => exact h.ask rfl nofun
  | loadMore rendered => exact h.loadMore rendered
  | answer inFlight _ => exact h.answer inFlight
  | @receive p answer l₁ l₂ inFlight answered admitted =>
    have hp : p ∈ s.inFlight := mem_inFlight inFlight
    exact (h.dropRequest (subset_inFlight inFlight)).receive
      (h.answered p hp answer answered) admitted
  | fail inFlight => exact (h.dropRequest (subset_inFlight inFlight)).fail _ _

end HistoryScene.Sound

/-- A hook that has been mounted. -/
theorem sound_mount {history : Sla → List Row} (h : ∀ slaId, NewestFirst key (history slaId))
    (slaId : Sla) : (HistoryScene.mount history slaId : HistoryScene Sla Row κ).Sound key := by
  -- nothing is shown yet, and nothing has been asked for
  refine ⟨h, nofun, ?_, fun p hp => ?_, fun p hp => ?_, nofun, ?_⟩
  · exact List.forall_mem_singleton.mpr nofun
  · exact absurd hp List.not_mem_nil
  · exact absurd hp List.not_mem_nil
  · exact List.forall_mem_singleton.mpr nofun

variable [DecidableEq Sla]

/-- What holds in every scene of a run in which no late page is let in. -/
theorem HistoryReachable.sound {s : HistoryScene Sla Row κ}
    (h : HistoryReachable key InOrder s) : s.Sound key := by
  obtain ⟨history, slaId, hordered, hrun⟩ := h
  induction hrun with
  | refl => exact sound_mount hordered slaId
  | tail _ hstep ih => exact ih.step hstep

/-! ### The settlements exposed -/

/-- **No gaps.** As long as every page comes in order, whatever the hook exposes once the first load
of its SLA has settled is a contiguous run of that SLA's history. -/
theorem history_contiguous {s : HistoryScene Sla Row κ} (h : HistoryReachable key InOrder s) :
    ∀ r ∈ s.renders, r.Settled → Exposes key (s.history r.slaId) r.state := by
  intro r hr hsettled
  have hsound := h.sound
  have hcontiguous := hsound.rendered r hr hsettled
  obtain ⟨before, after, hsplit, -⟩ := id hcontiguous
  have hordered : NewestFirst key (before ++ r.state.settlements ++ after) :=
    hsplit ▸ hsound.newestFirst r.slaId
  exact ⟨hcontiguous, (List.pairwise_append.mp (List.pairwise_append.mp hordered).1).2.1⟩

end

section

/-! A run of 21 settlements, one more than a page. -/

/-- The run goes on. -/
private theorem HistoryReachable.next {admits : HistoryScene ℕ ℕ ℕ → HistoryPending ℕ ℕ ℕ → Prop}
    {s s' : HistoryScene ℕ ℕ ℕ} (h : HistoryReachable id admits s)
    (hstep : HistoryStep id admits s s') : HistoryReachable id admits s' := by
  obtain ⟨history, slaId, hordered, hrun⟩ := h
  exact ⟨history, slaId, hordered, hrun.tail hstep⟩

/-- The request made last is answered. -/
private theorem HistoryReachable.answer
    {admits : HistoryScene ℕ ℕ ℕ → HistoryPending ℕ ℕ ℕ → Prop} {s : HistoryScene ℕ ℕ ℕ}
    (h : HistoryReachable id admits s) {request : HistoryRequest ℕ} {slaId : ℕ}
    {rest : List (HistoryPending ℕ ℕ ℕ)} (hinFlight : s.inFlight = ⟨request, slaId, none⟩ :: rest)
    {answer : Page ℕ ℕ}
    (hanswer : page id PAGE_SIZE request.before (s.history slaId) = answer) :
    HistoryReachable id admits { s with inFlight := ⟨request, slaId, some answer⟩ :: rest } := by
  subst hanswer
  have hhead : s.inFlight = [] ++ ⟨request, slaId, none⟩ :: rest := hinFlight
  exact h.next (.answer hhead rfl)

/-- Its page comes back. -/
private theorem HistoryReachable.receive
    {admits : HistoryScene ℕ ℕ ℕ → HistoryPending ℕ ℕ ℕ → Prop} {s : HistoryScene ℕ ℕ ℕ}
    (h : HistoryReachable id admits s) {request : HistoryRequest ℕ} {slaId : ℕ}
    {answer : Page ℕ ℕ} {rest : List (HistoryPending ℕ ℕ ℕ)}
    (hinFlight : s.inFlight = ⟨request, slaId, some answer⟩ :: rest)
    (hadmits : admits s ⟨request, slaId, some answer⟩) :
    HistoryReachable id admits
      ({ s with inFlight := rest }.receive ⟨request, slaId, some answer⟩ answer) :=
  h.next (.receive (hinFlight.trans (List.nil_append _).symm) rfl hadmits)

/-- The numbers below `n`, newest first. -/
private def below (n : ℕ) : List ℕ := (List.range n).reverse

/-- The first page of them is shown, and the next one has been asked for and answered. -/
private def nextAnswered : HistoryScene ℕ ℕ ℕ where
  history := fun _ => below 21
  slaId := 7
  state := ⟨(below 21).take 20, some 1, false, true, none⟩
  effectDue := false
  load := 1
  firstLoad := some 7
  renders := [⟨7, .loaded ⟨(below 21).take 20, some 1⟩, some 7⟩, ⟨7, .initial, none⟩]
  inFlight := [⟨.loadMore 1, 7, some ⟨[0], none⟩⟩]

private theorem reachable_nextAnswered
    {admits : HistoryScene ℕ ℕ ℕ → HistoryPending ℕ ℕ ℕ → Prop}
    (hfirst : ∀ s p load, p.request = .initial load → admits s p) :
    HistoryReachable id admits nextAnswered := by
  have hordered : NewestFirst id (below 21) := by
    unfold NewestFirst
    decide
  have hmount : HistoryReachable id admits (.mount (fun _ => below 21) 7) :=
    ⟨_, 7, fun _ => hordered, .refl⟩
  have hanswered := (hmount.next (.runEffect rfl)).answer rfl (page_eq hordered rfl)
  have hrendered := (hanswered.receive rfl (hfirst _ _ 1 rfl)).next (.render rfl)
  have hasked := hrendered.next (.loadMore List.mem_cons_self)
  exact hasked.answer rfl (page_eq hordered rfl)

/-- The second page comes in order. -/
theorem history_contiguous_second_page : ∃ s : HistoryScene ℕ ℕ ℕ, HistoryReachable id InOrder s ∧
    (∀ r ∈ s.renders, r.Settled → Exposes id (s.history r.slaId) r.state) ∧
    ∃ r ∈ s.renders, r.Settled ∧ r.state.settlements = s.history r.slaId := by
  have hanswered : HistoryReachable id InOrder nextAnswered := by
    refine reachable_nextAnswered fun s p load hinitial => ?_
    rw [InOrder, hinitial]
    trivial
  have hreceived := (hanswered.receive rfl fun _ => ⟨rfl, .inr rfl⟩).next (.render rfl)
  exact ⟨_, hreceived, history_contiguous hreceived, _, List.mem_cons_self, rfl, rfl⟩

/-- **A gap.** While the second page is on its way, a settlement is confirmed and the first page
read again: it ends a row earlier now, and the second page is appended to it all the same. -/
theorem history_gap : ¬ ∀ s : HistoryScene ℕ ℕ ℕ, HistoryReachable id (fun _ _ => True) s →
    ∀ r ∈ s.renders, r.Settled → Exposes id (s.history r.slaId) r.state := by
  intro hexposes
  have hanswered : HistoryReachable id (fun _ _ => True) nextAnswered :=
    reachable_nextAnswered fun _ _ _ _ => trivial
  have hnew : IsNew id nextAnswered.history 7 21 := by
    refine ⟨fun r hr => ?_, fun _ r hr => ?_⟩
    · simpa [nextAnswered, below] using hr
    · have hlt : r < 21 := by simpa [nextAnswered, below] using hr
      exact hlt.ne
  have hordered : NewestFirst id (below 22) := by
    unfold NewestFirst
    decide
  have hreloaded := ((hanswered.next (.grow hnew)).next (.reload List.mem_cons_self)).answer rfl
    (page_eq hordered rfl)
  have hshown := ((hreloaded.receive rfl trivial).receive rfl trivial).next (.render rfl)
  obtain ⟨before, after, hsplit, -⟩ := (hexposes _ hshown _ List.mem_cons_self rfl).contiguous
  -- 1 is between the rows shown, which end with 2 and 0
  have hinfix : (below 22).take 20 ++ [0] <:+: below 22 := ⟨before, after, hsplit.symm⟩
  revert hinfix
  decide

end

end Web

end SlaSettle
