import Mathlib.Logic.Relation
import SlaSettle.Web.PollingLoop
import SlaSettle.Web.RoundStatus

/-!
# `usePolling`

The hook of `lib/use-polling.ts`, for any fetcher and any data. `Hook` is a component that uses it,
with its renders and its effects apart, and `Step` is everything that may happen to it: it is
rendered, its effects are run, a timer fires, the tab is shown, a request comes back.

`polling_scheduled` is about every run. `Hook.Sound` is the invariant: the period that is not over
is the one whose cleanup is still to be run, and the data in the state was produced by its fetcher
in the current stretch.
-/

namespace SlaSettle

namespace Web

namespace Polling

open Effect Js

/-! ### The hook -/

/-- What `useState` keeps. -/
structure PollingSnapshot (F T : Type) extends PollingState T where
  fetcher : F

/-- What a fetcher throws, or its promise is rejected with. -/
inductive Rejection where
  | error (message : String)
  | other

def Rejection.message : Rejection → String
  | error message => message
  | other => "The request failed."

/-- What the effect depends on. -/
structure Deps (F : Type) where
  fetcher : F
  intervalMs : JsNumber
  restartKey : ℕ
  enabled : Bool
  deriving DecidableEq

/-- A value that a fetcher has produced, with the stretch in which its period began and the stretch
in which it came back. -/
structure Produced (F T : Type) where
  fetcher : F
  data : T
  began : ℕ
  settled : ℕ

/-- A component that uses the hook. -/
structure Hook (F T : Type) where
  state : PollingSnapshot F T
  restartKey : ℕ
  mounted : Bool
  /-- What the latest render was given. -/
  rendered : Deps F
  /-- What the latest render returned. -/
  shown : PollingState T
  /-- The effects of the latest render are still to be run. -/
  effectsDue : Bool
  /-- What the effect last ran with. -/
  ran : Option (Deps F)
  /-- The period that the effect started, if its cleanup is still to be run. -/
  running : Option ℕ
  /-- The periods that listen to `visibilitychange`. -/
  listeners : List ℕ
  /-- The number of periods so far. -/
  periods : ℕ
  hidden : Bool
  loop : Loop F
  /-- The enabled stretch: it goes up when a render that is enabled follows one that is not. -/
  stretch : ℕ
  produced : List (Produced F T)

/-- The empty loading state. -/
def emptyState {T : Type} : PollingState T := ⟨none, none, true⟩

namespace Hook

variable {F T : Type}

section

variable [DecidableEq F]

/-- `visibleState` -/
def visibleState (state : PollingSnapshot F T) (fetcher : F) (enabled : Bool) : PollingState T :=
  if enabled ∧ state.fetcher = fetcher then state.toPollingState else emptyState

/-- The first render. The periods to come are as one that is over. -/
def mount (fetcher : F) (intervalMs : JsNumber) (enabled hidden : Bool) : Hook F T where
  state := ⟨emptyState, fetcher⟩
  restartKey := 0
  mounted := true
  rendered := ⟨fetcher, intervalMs, 0, enabled⟩
  shown := visibleState ⟨emptyState, fetcher⟩ fetcher enabled
  effectsDue := true
  ran := none
  running := none
  listeners := []
  periods := 0
  hidden := hidden
  loop := ⟨fun _ => ⟨fetcher, intervalMs, 0, true, false, false, none⟩, [], 0, []⟩
  stretch := 0
  produced := []

/-- A component that is not mounted keeps its state. -/
def setState (h : Hook F T) (update : PollingSnapshot F T → PollingSnapshot F T) : Hook F T :=
  { h with state := if h.mounted then update h.state else h.state }

/-- `if (!cancelled) setState(…)` -/
def setStateOf (h : Hook F T) (i : ℕ) (update : PollingSnapshot F T → PollingSnapshot F T) :
    Hook F T :=
  if (h.loop.vars i).cancelled then h else h.setState update

/-- `finally` -/
def settle (h : Hook F T) (i : ℕ) : Hook F T := { h with loop := h.loop.settle i }

/-- The fetcher of a period has returned. -/
def succeed (h : Hook F T) (i : ℕ) (data : T) : Hook F T :=
  let period := h.loop.vars i
  let h := { h with produced := ⟨period.fetcher, data, period.stretch, h.stretch⟩ :: h.produced }
  (h.setStateOf i fun _ => ⟨⟨some data, none, false⟩, period.fetcher⟩).settle i

/-- The fetcher of a period has failed. -/
def fail (h : Hook F T) (i : ℕ) (err : Rejection) : Hook F T :=
  let fetcher := (h.loop.vars i).fetcher
  (h.setStateOf i fun prev =>
    ⟨⟨if prev.fetcher = fetcher then prev.data else none, some err.message, false⟩,
      fetcher⟩).settle i

/-- `tick()`, where `thrown` is what the fetcher throws before it returns a promise. -/
def tick (h : Hook F T) (i : ℕ) (thrown : Option Rejection) : Hook F T :=
  let period := h.loop.vars i
  if period.cancelled || period.inFlight then h
  -- a hidden tab skips refreshes, but never the first load
  else if h.hidden && period.hasFetched then { h with loop := h.loop.schedule i }
  else
    match thrown with
    | none => { h with loop := h.loop.fetch i }
    | some err => { h with loop := h.loop.begin i }.fail i err

def onVisibilityChange (h : Hook F T) (i : ℕ) (thrown : Option Rejection) : Hook F T :=
  if !h.hidden && !(h.loop.vars i).inFlight then
    { h with loop := h.loop.clearTimeout i }.tick i thrown
  else h

/-- The event `visibilitychange`. -/
def visibilityChange (h : Hook F T) (thrown : Option Rejection) : Hook F T :=
  h.listeners.foldl (fun h i => h.onVisibilityChange i thrown) h

/-- What the effect returned. -/
def cleanup (h : Hook F T) : Hook F T :=
  match h.running with
  | none => h
  | some i =>
    { h with
      loop := h.loop.stop i
      listeners := h.listeners.filter (· ≠ i)
      running := none }

/-- The effect. -/
def effect (h : Hook F T) (thrown : Option Rejection) : Hook F T :=
  let deps := h.rendered
  let h := { h with ran := some deps }
  if !deps.enabled then h.setState fun _ => ⟨emptyState, deps.fetcher⟩
  else
    let i := h.periods
    { h with
      loop := h.loop.set i ⟨deps.fetcher, deps.intervalMs, h.stretch, false, false, false, none⟩
      listeners := h.listeners ++ [i]
      running := some i
      periods := i + 1 }.tick i thrown

/-- The effects of the latest render are run: those of an unmounted component are cleaned up, and
those whose dependencies have not changed are skipped. -/
def runEffects (h : Hook F T) (thrown : Option Rejection) : Hook F T :=
  { (if !h.mounted then h.cleanup
      else if h.ran = some h.rendered then h
      else h.cleanup.effect thrown) with effectsDue := false }

/-- The component is rendered again. -/
def render (h : Hook F T) (fetcher : F) (intervalMs : JsNumber) (enabled : Bool) : Hook F T :=
  { h with
    rendered := ⟨fetcher, intervalMs, h.restartKey, enabled⟩
    shown := visibleState h.state fetcher enabled
    effectsDue := true
    stretch := if enabled && !h.rendered.enabled then h.stretch + 1 else h.stretch }

/-- A request of a period comes back. -/
inductive Completes (i : ℕ) (h : Hook F T) : Hook F T → Prop
  | returned {l₁ l₂ : List ℕ} (hrequests : h.loop.requests = l₁ ++ i :: l₂) (data : T) :
    Completes i h ({ h with loop := { h.loop with requests := l₁ ++ l₂ } }.succeed i data)
  | failed {l₁ l₂ : List ℕ} (hrequests : h.loop.requests = l₁ ++ i :: l₂) (err : Rejection) :
    Completes i h ({ h with loop := { h.loop with requests := l₁ ++ l₂ } }.fail i err)

/-- **One event**. Effects are run before the next render. -/
inductive Step (h : Hook F T) : Hook F T → Prop
  | render (hmounted : h.mounted = true) (heffects : h.effectsDue = false) (fetcher : F)
    (intervalMs : JsNumber) (enabled : Bool) : Step h (h.render fetcher intervalMs enabled)
  | unmount (hmounted : h.mounted = true) (heffects : h.effectsDue = false) :
    Step h { h with mounted := false, effectsDue := true }
  | runEffects (heffects : h.effectsDue = true) (thrown : Option Rejection) :
    Step h (h.runEffects thrown)
  | refresh : Step h { h with restartKey := h.restartKey + 1 }
  | hidden (value : Bool) : Step h { h with hidden := value }
  | visibilityChange (thrown : Option Rejection) : Step h (h.visibilityChange thrown)
  | timeout {timer : Timer} {l₁ l₂ : List Timer} (htimers : h.loop.timers = l₁ ++ timer :: l₂)
    (thrown : Option Rejection) :
    Step h ({ h with loop := { h.loop with timers := l₁ ++ l₂ } }.tick timer.period thrown)
  | completes {i : ℕ} {h' : Hook F T} (hcompletes : Completes i h h') : Step h h'

/-- A state of the component in a run from its first render. -/
def Run (h : Hook F T) : Prop :=
  ∃ fetcher intervalMs enabled hidden,
    Relation.ReflTransGen Step (mount fetcher intervalMs enabled hidden) h

end

/-! ### What holds of every run -/

/-- The current fetcher of the stretch has produced a value. -/
def Current (h : Hook F T) (fetcher : F) (data : T) : Prop :=
  ⟨fetcher, data, h.stretch, h.stretch⟩ ∈ h.produced

/-- What the closures and the renders rely on. -/
structure Steady (h : Hook F T) : Prop where
  active : ∀ i, (h.loop.vars i).cancelled = false ↔ h.running = some i
  fresh : ∀ i, h.periods ≤ i → (h.loop.vars i).cancelled = true ∧
    (h.loop.vars i).inFlight = false ∧ (h.loop.vars i).timer = none
  stretch : ∀ i, h.running = some i → (h.loop.vars i).stretch = h.stretch
  listeners : h.listeners = h.running.toList
  idle : (∀ deps, h.ran = some deps → deps.enabled = false) →
    h.running = none ∧ h.state.data = none
  data : ∀ v, h.state.data = some v → h.Current h.state.fetcher v
  shown : ∀ v, h.shown.data = some v → h.rendered.enabled = true ∧ h.Current h.rendered.fetcher v

/-- The invariant. -/
structure Sound (h : Hook F T) : Prop where
  steady : h.Steady
  scheduled : h.loop.Scheduled
  settled : h.mounted = true → h.effectsDue = false → h.ran = some h.rendered
  polls : h.mounted = true → ∀ deps, h.ran = some deps → deps.enabled = true → h.running ≠ none

/-- The closures of a period have run: no render and no effect has. -/
def After (h h' : Hook F T) : Prop :=
  ∃ state produced loop, h' = { h with state := state, produced := produced, loop := loop } ∧
    h'.Steady ∧ h'.loop.Scheduled

section

variable {h h' : Hook F T} {i : ℕ}

theorem Steady.lt_periods (hs : h.Steady) (hi : (h.loop.vars i).cancelled = false ∨
    (h.loop.vars i).inFlight = true) : i < h.periods := by
  by_contra hfresh
  obtain ⟨hcancelled, hidle, -⟩ := hs.fresh i (not_lt.mp hfresh)
  rcases hi with hactive | hflight
  · exact Bool.false_ne_true (hactive.symm.trans hcancelled)
  · exact Bool.false_ne_true (hidle.symm.trans hflight)

theorem Steady.loop (hs : h.Steady) {l : Loop F} (hl : h.loop.Retimed l i) (hi : i < h.periods) :
    { h with loop := l }.Steady := by
  have hvars : ∀ j, (l.vars j).cancelled = (h.loop.vars j).cancelled ∧
      (l.vars j).stretch = (h.loop.vars j).stretch := fun j => by
    by_cases hj : j = i
    · rw [hj]
      exact ⟨hl.cancelled, hl.stretch⟩
    · rw [hl.other j hj]
      exact ⟨rfl, rfl⟩
  refine ⟨fun j => ?_, fun j hj => ?_, fun j hj => ?_, hs.listeners, hs.idle, hs.data, hs.shown⟩
  · rw [(hvars j).1]
    exact hs.active j
  · rw [hl.other j (hi.trans_le hj).ne']
    exact hs.fresh j hj
  · exact (hvars j).2.trans (hs.stretch j hj)

theorem Steady.produced (hs : h.Steady) (p : Produced F T) :
    { h with produced := p :: h.produced }.Steady :=
  ⟨hs.active, hs.fresh, hs.stretch, hs.listeners, hs.idle,
    fun v hv => List.mem_cons_of_mem _ (hs.data v hv),
    fun v hv => ⟨(hs.shown v hv).1, List.mem_cons_of_mem _ (hs.shown v hv).2⟩⟩

theorem setStateOf_eq (h : Hook F T) (i : ℕ)
    (update : PollingSnapshot F T → PollingSnapshot F T) :
    ∃ state, h.setStateOf i update = { h with state := state } ∧
      (state = h.state ∨ (h.loop.vars i).cancelled = false ∧ state = update h.state) := by
  rw [setStateOf]
  split_ifs with hcancelled
  · exact ⟨h.state, rfl, .inl rfl⟩
  rw [setState]
  split_ifs
  · exact ⟨_, rfl, .inr ⟨by simpa using hcancelled, rfl⟩⟩
  · exact ⟨_, rfl, .inl rfl⟩

/-- A request ends. -/
theorem Steady.finish (hs : h.Steady) (hl : h.loop.Between i) (hi : i < h.periods)
    {update : PollingSnapshot F T → PollingSnapshot F T}
    (hupdate : (h.loop.vars i).stretch = h.stretch → ∀ v, (update h.state).data = some v →
      h.Current (update h.state).fetcher v) :
    h.After ((h.setStateOf i update).settle i) := by
  obtain ⟨state, heq, hstate⟩ := setStateOf_eq h i update
  rw [heq]
  refine ⟨state, h.produced, h.loop.settle i, rfl, ?_, hl.settle⟩
  have hkept : { h with state := state }.Steady := by
    rcases hstate with rfl | ⟨hactive, rfl⟩
    · exact hs
    -- the state was set, so the period is the one that runs, and it began in this stretch
    have hrunning := (hs.active i).mp hactive
    refine ⟨hs.active, hs.fresh, hs.stretch, hs.listeners, fun hoff => ?_,
      hupdate (hs.stretch i hrunning), hs.shown⟩
    exact absurd ((hs.idle hoff).1.symm.trans hrunning) (Option.some_ne_none i).symm
  exact hkept.loop Loop.retimed_settle hi

theorem Sound.of_after (hs : h.Sound) (hafter : h.After h') : h'.Sound := by
  obtain ⟨state, produced, loop, rfl, hsteady, hscheduled⟩ := hafter
  exact ⟨hsteady, hscheduled, hs.settled, hs.polls⟩

theorem Steady.succeed (hs : h.Steady) (hl : h.loop.Between i) (hi : i < h.periods) (data : T) :
    h.After (h.succeed i data) := by
  set period := h.loop.vars i
  set h₁ := { h with produced := ⟨period.fetcher, data, period.stretch, h.stretch⟩ :: h.produced }
  have hupdate : period.stretch = h.stretch → ∀ v, some data = some v →
      h₁.Current period.fetcher v := by
    rintro hstretch v ⟨⟩
    exact List.mem_cons.mpr (.inl (by rw [hstretch]))
  have hproduced : h₁.Steady := hs.produced _
  have hfinish : h₁.After ((h₁.setStateOf i fun _ =>
      ⟨⟨some data, none, false⟩, period.fetcher⟩).settle i) := hproduced.finish hl hi hupdate
  exact hfinish

/-- What is left when the effect that ran is cleaned up. -/
theorem Sound.cleanup (hs : h.Sound) :
    ∃ loop, h.cleanup = { h with loop := loop, listeners := [], running := none } ∧
      h.cleanup.Steady ∧ loop.Scheduled := by
  have hlisteners := hs.steady.listeners
  rw [Hook.cleanup]
  cases hrunning : h.running with
  | none =>
    rw [hrunning] at hlisteners
    refine ⟨h.loop, ?_, hs.steady, hs.scheduled⟩
    change h = { h with listeners := [], running := none }
    rw [← hrunning, ← show h.listeners = [] from hlisteners]
  | some i =>
    have hactive := (hs.steady.active i).mpr hrunning
    have hi := hs.steady.lt_periods (.inl hactive)
    -- only the variables of the period that ran are written
    have hself : ((h.loop.stop i).vars i).cancelled = true :=
      congrArg Period.cancelled Loop.vars_set_self
    have hother : ∀ j, j ≠ i → (h.loop.stop i).vars j = h.loop.vars j := fun j hj =>
      Loop.vars_set_of_ne hj
    have hnone : h.listeners.filter (· ≠ i) = [] := by
      rw [hlisteners, hrunning]
      simp
    refine ⟨h.loop.stop i, congrArg (fun listeners =>
      { h with loop := h.loop.stop i, listeners := listeners, running := none }) hnone, ?_,
      hs.scheduled.stop⟩
    refine ⟨fun j => ?_, fun j hj => ?_, fun j hj => ?_, hnone, fun hoff => ?_, hs.steady.data,
      hs.steady.shown⟩
    · refine iff_of_false (fun hj => ?_) (Option.some_ne_none j).symm
      by_cases hji : j = i
      · exact Bool.false_ne_true (hj.symm.trans (hji ▸ hself))
      · rw [hother j hji, hs.steady.active, hrunning] at hj
        exact hji (Option.some.inj hj).symm
    · change ((h.loop.stop i).vars j).cancelled = true ∧ _
      rw [hother j (hi.trans_le hj).ne']
      exact hs.steady.fresh j hj
    · exact absurd hj (Option.some_ne_none j).symm
    · exact ⟨rfl, (hs.steady.idle hoff).2⟩

theorem finish_of_cancelled (update : PollingSnapshot F T → PollingSnapshot F T)
    (hcancelled : (h.loop.vars i).cancelled = true) :
    (h.setStateOf i update).settle i =
      { h with loop := h.loop.set i { h.loop.vars i with inFlight := false } } := by
  rw [setStateOf, if_pos hcancelled, Hook.settle, Loop.settle_of_cancelled hcancelled]

theorem succeed_of_cancelled (hcancelled : (h.loop.vars i).cancelled = true) (data : T) :
    h.succeed i data =
      { h with
        produced :=
          ⟨(h.loop.vars i).fetcher, data, (h.loop.vars i).stretch, h.stretch⟩ :: h.produced
        loop := h.loop.set i { h.loop.vars i with inFlight := false } } :=
  finish_of_cancelled _ hcancelled

/-- A period has been started and its cleanup has not been run. -/
def Active (h : Hook F T) (i : ℕ) : Prop := i < h.periods ∧ (h.loop.vars i).cancelled = false

/-- A period has been started and is over. -/
def Ended (h : Hook F T) (i : ℕ) : Prop := i < h.periods ∧ (h.loop.vars i).cancelled = true

/-- A period that starts is a new one. -/
structure Later (h h' : Hook F T) : Prop where
  periods : h.periods ≤ h'.periods
  running : ∀ i, h'.running = some i → h.running = some i ∨ h.periods ≤ i

theorem Later.of_eq (hperiods : h'.periods = h.periods) (hrunning : h'.running = h.running) :
    h.Later h' :=
  ⟨hperiods.ge, fun _ hi => .inl (hrunning ▸ hi)⟩

theorem Later.ended (hlater : h.Later h') (hs : h.Steady) (hs' : h'.Steady) (hended : h.Ended i) :
    h'.Ended i := by
  refine ⟨hended.1.trans_le hlater.periods, ?_⟩
  rw [← Bool.not_eq_false, hs'.active]
  intro hrunning
  rcases hlater.running i hrunning with hrunning | hfresh
  · exact Bool.false_ne_true (((hs.active i).mpr hrunning).symm.trans hended.2)
  · exact absurd hended.1 hfresh.not_gt

variable [DecidableEq F]

theorem Steady.fail (hs : h.Steady) (hl : h.loop.Between i) (hi : i < h.periods)
    (err : Rejection) : h.After (h.fail i err) := by
  refine hs.finish hl hi fun _ v hv => ?_
  change (if h.state.fetcher = (h.loop.vars i).fetcher then h.state.data else none) = some v at hv
  split_ifs at hv with hfetcher
  exact hfetcher ▸ hs.data v hv

theorem Steady.tick (hs : h.Steady) (hl : h.loop.Between i)
    (hactive : (h.loop.vars i).cancelled = false) (hidle : (h.loop.vars i).inFlight = false)
    (thrown : Option Rejection) : h.After (h.tick i thrown) := by
  have hi := hs.lt_periods (.inl hactive)
  unfold Hook.tick
  simp only [hactive, hidle, Bool.or_self, Bool.false_eq_true, if_false]
  split_ifs with hskip
  · exact ⟨h.state, h.produced, _, rfl, hs.loop Loop.retimed_schedule hi, hl.schedule hidle⟩
  cases thrown with
  | none => exact ⟨h.state, h.produced, _, rfl, hs.loop Loop.retimed_fetch hi, hl.fetch⟩
  | some err =>
    have hbegin : { h with loop := h.loop.begin i }.Steady := hs.loop (.of_update rfl rfl rfl) hi
    exact hbegin.fail (hl.set rfl) hi err

theorem Sound.timeout (hs : h.Sound) {timer : Timer} {l₁ l₂ : List Timer}
    (htimers : h.loop.timers = l₁ ++ timer :: l₂) (thrown : Option Rejection) :
    h.After ({ h with loop := { h.loop with timers := l₁ ++ l₂ } }.tick timer.period thrown) := by
  obtain ⟨hactive, hidle⟩ := hs.scheduled.of_mem_timers (mem_inFlight htimers)
  have hrest : { h with loop := { h.loop with timers := l₁ ++ l₂ } }.Steady :=
    hs.steady.loop (.of_vars rfl) (hs.steady.lt_periods (.inl hactive))
  exact hrest.tick (hs.scheduled.fire htimers) hactive hidle thrown

/-- A request that comes back is of a period that has been started, over or not. -/
theorem Sound.completes (hs : h.Sound) (hcompletes : Completes i h h') : h.After h' := by
  have hback : ∀ {l₁ l₂ : List ℕ}, h.loop.requests = l₁ ++ i :: l₂ →
      { h with loop := { h.loop with requests := l₁ ++ l₂ } }.Steady ∧ i < h.periods := by
    intro l₁ l₂ hrequests
    have hi := hs.steady.lt_periods
      (.inr (hs.scheduled.of_mem_requests (mem_inFlight hrequests)))
    exact ⟨hs.steady.loop (.of_vars rfl) hi, hi⟩
  cases hcompletes with
  | returned hrequests data =>
    obtain ⟨hrest, hi⟩ := hback hrequests
    exact hrest.succeed (hs.scheduled.comeBack hrequests) hi data
  | failed hrequests err =>
    obtain ⟨hrest, hi⟩ := hback hrequests
    exact hrest.fail (hs.scheduled.comeBack hrequests) hi err

theorem Sound.visibilityChange (hs : h.Sound) (thrown : Option Rejection) :
    h.After (h.visibilityChange thrown) := by
  have hsame : h.After h := ⟨h.state, h.produced, h.loop, rfl, hs.steady, hs.scheduled⟩
  rw [Hook.visibilityChange, hs.steady.listeners]
  cases hrunning : h.running with
  | none => exact hsame
  | some i =>
    change h.After (h.onVisibilityChange i thrown)
    rw [onVisibilityChange]
    split_ifs with hvisible
    · have hidle : (h.loop.vars i).inFlight = false := by simp_all
      have hactive := (hs.steady.active i).mpr hrunning
      have hcleared : { h with loop := h.loop.clearTimeout i }.Steady :=
        hs.steady.loop (.of_vars rfl) (hs.steady.lt_periods (.inl hactive))
      exact hcleared.tick (hs.scheduled.clearTimeout hidle) hactive hidle thrown
    · exact hsame

/-- The effect runs when no period does. -/
theorem Steady.effect (hs : h.Steady) (hl : h.loop.Scheduled) (hrunning : h.running = none)
    (hmounted : h.mounted = true) (thrown : Option Rejection) :
    { h.effect thrown with effectsDue := false }.Sound ∧ h.periods ≤ (h.effect thrown).periods ∧
      ∀ i, (h.effect thrown).running = some i → h.periods ≤ i := by
  cases henabled : h.rendered.enabled with
  | false =>
    have heq : h.effect thrown =
        { h with ran := some h.rendered, state := ⟨emptyState, h.rendered.fetcher⟩ } := by
      unfold Hook.effect
      simp only [henabled, Bool.not_false, if_true, setState, hmounted]
    rw [heq]
    refine ⟨⟨⟨hs.active, hs.fresh, hs.stretch, hs.listeners, fun _ => ⟨hrunning, rfl⟩, ?_,
      hs.shown⟩, hl, fun _ _ => rfl, ?_⟩, le_rfl, fun i hi => ?_⟩
    · rintro v ⟨⟩
    · rintro - deps ⟨⟩ hon
      exact absurd (henabled.symm.trans hon) Bool.false_ne_true
    · exact absurd (hrunning.symm.trans hi) (Option.some_ne_none i).symm
  | true =>
    set period : Period F :=
      ⟨h.rendered.fetcher, h.rendered.intervalMs, h.stretch, false, false, false, none⟩
    set h₁ : Hook F T := { h with
      ran := some h.rendered
      loop := h.loop.set h.periods period
      listeners := h.listeners ++ [h.periods]
      running := some h.periods
      periods := h.periods + 1 }
    have heq : h.effect thrown = h₁.tick h.periods thrown := by
      unfold Hook.effect
      simp only [henabled, Bool.not_true, Bool.false_eq_true, if_false]
      rfl
    -- no closure that is left behind is of the new period
    have hself : h₁.loop.vars h.periods = period := Loop.vars_set_self
    have hother : ∀ j, j ≠ h.periods → h₁.loop.vars j = h.loop.vars j := fun j hj =>
      Loop.vars_set_of_ne hj
    obtain ⟨hcancelled, hidle, htimer⟩ := hs.fresh h.periods le_rfl
    have hsteady : h₁.Steady := by
      refine ⟨fun j => ?_, fun j hj => ?_, fun j hj => ?_, ?_, fun hoff => ?_, hs.data, hs.shown⟩
      · by_cases hj : j = h.periods
        · rw [hj, hself]
          exact iff_of_true rfl rfl
        · rw [hother j hj, hs.active, hrunning]
          exact iff_of_false (Option.some_ne_none j).symm fun hsome =>
            hj (Option.some.inj hsome).symm
      · rw [hother j (Nat.lt_of_succ_le hj).ne']
        exact hs.fresh j (Nat.le_of_succ_le hj)
      · rw [← Option.some.inj hj, hself]
      · change h.listeners ++ [h.periods] = _
        rw [hs.listeners, hrunning]
        rfl
      · exact absurd ((hoff _ rfl).symm.trans henabled) Bool.false_ne_true
    have hbetween : h₁.loop.Between h.periods := hl.start hcancelled hidle htimer.symm
    obtain ⟨state, produced, loop, htick, hafter, hscheduled⟩ :=
      hsteady.tick hbetween (by rw [hself]) (by rw [hself]) thrown
    rw [heq]
    rw [htick] at hafter hscheduled ⊢
    refine ⟨⟨?_, hscheduled, fun _ _ => rfl, fun _ _ _ _ => Option.some_ne_none _⟩,
      Nat.le_succ _, fun i hi => (Option.some.inj hi).le⟩
    exact ⟨hafter.active, hafter.fresh, hafter.stretch, hafter.listeners, hafter.idle, hafter.data,
      hafter.shown⟩

theorem Sound.runEffects (hs : h.Sound) (thrown : Option Rejection) :
    (h.runEffects thrown).Sound ∧ h.Later (h.runEffects thrown) := by
  obtain ⟨loop, hcleanup, hsteady, hscheduled⟩ := hs.cleanup
  rw [Hook.runEffects]
  cases hmounted : h.mounted with
  | false =>
    rw [hcleanup] at hsteady
    simp only [Bool.not_false, if_true, hcleanup]
    refine ⟨⟨⟨hsteady.active, hsteady.fresh, hsteady.stretch, hsteady.listeners, hsteady.idle,
      hsteady.data, hsteady.shown⟩, hscheduled, fun hon => ?_, fun hon => ?_⟩, le_rfl,
      fun i hi => ?_⟩
    · exact absurd (hmounted.symm.trans hon) Bool.false_ne_true
    · exact absurd (hmounted.symm.trans hon) Bool.false_ne_true
    · exact absurd hi (Option.some_ne_none i).symm
  | true =>
    simp only [Bool.not_true, Bool.false_eq_true, if_false]
    split_ifs with hsame
    -- nothing that the effect depends on has changed
    · have hst := hs.steady
      exact ⟨⟨⟨hst.active, hst.fresh, hst.stretch, hst.listeners, hst.idle, hst.data, hst.shown⟩,
        hs.scheduled, fun _ _ => hsame, hs.polls⟩, .of_eq rfl rfl⟩
    · have hrunning : h.cleanup.running = none := by rw [hcleanup]
      have hperiods : h.cleanup.periods = h.periods := by rw [hcleanup]
      obtain ⟨hsound, hmore, hnew⟩ := hsteady.effect (by rw [hcleanup]; exact hscheduled) hrunning
        (by rw [hcleanup]; exact hmounted) thrown
      rw [hperiods] at hmore hnew
      exact ⟨hsound, hmore, fun i hi => .inr (hnew i hi)⟩

theorem Sound.render (hs : h.Sound) (hmounted : h.mounted = true) (heffects : h.effectsDue = false)
    (fetcher : F) (intervalMs : JsNumber) (enabled : Bool) :
    (h.render fetcher intervalMs enabled).Sound := by
  have hst := hs.steady
  -- a new stretch begins when no period runs and there is no data
  have hstretch : (h.render fetcher intervalMs enabled).stretch = h.stretch ∨
      h.running = none ∧ h.state.data = none := by
    change (if enabled && !h.rendered.enabled then h.stretch + 1 else h.stretch) = h.stretch ∨ _
    split_ifs with hnew
    · have hoff : h.rendered.enabled = false := by
        rw [Bool.and_eq_true, Bool.not_eq_true'] at hnew
        exact hnew.2
      refine .inr (hst.idle fun deps hdeps => ?_)
      rw [hs.settled hmounted heffects] at hdeps
      exact Option.some.inj hdeps ▸ hoff
    · exact .inl rfl
  have hdata : ∀ v, h.state.data = some v →
      (h.render fetcher intervalMs enabled).Current h.state.fetcher v := by
    intro v hv
    rcases hstretch with hsame | ⟨-, hnone⟩
    · rw [Current, hsame]
      exact hst.data v hv
    · exact absurd (hnone.symm.trans hv) (Option.some_ne_none v).symm
  refine ⟨⟨hst.active, hst.fresh, fun i hi => ?_, hst.listeners, hst.idle, hdata, fun v hv => ?_⟩,
    hs.scheduled, fun _ hdue => absurd hdue.symm Bool.false_ne_true, hs.polls⟩
  · rcases hstretch with hsame | ⟨hnone, -⟩
    · rw [hsame]
      exact hst.stretch i hi
    · exact absurd (hnone.symm.trans hi) (Option.some_ne_none i).symm
  · change (visibleState h.state fetcher enabled).data = some v at hv
    rw [visibleState] at hv
    split_ifs at hv with hshown
    · exact ⟨hshown.1, hshown.2 ▸ hdata v hv⟩
    · cases hv

theorem mount_sound (fetcher : F) (intervalMs : JsNumber) (enabled hidden : Bool) :
    (mount fetcher intervalMs enabled hidden : Hook F T).Sound := by
  have hempty :
      (visibleState ⟨emptyState, fetcher⟩ fetcher enabled : PollingState T).data = none := by
    rw [visibleState]
    split_ifs <;> rfl
  refine ⟨⟨fun i => ?_, fun _ _ => ⟨rfl, rfl, rfl⟩, fun i hi => ?_, rfl, fun _ => ⟨rfl, rfl⟩,
    fun v hv => ?_, fun v hv => ?_⟩, ⟨⟨fun timer htimer => ?_, fun i j id hid => ?_,
    fun i id hid => ?_⟩, fun i => ⟨rfl, rfl⟩⟩, fun _ hdue => ?_, fun _ deps hran => ?_⟩
  · exact iff_of_false Bool.false_ne_true.symm (Option.some_ne_none i).symm
  · cases hi
  · cases hv
  · exact absurd (hempty.symm.trans hv) (Option.some_ne_none v).symm
  · cases htimer
  · cases hid
  · cases hid
  · cases hdue
  · cases hran

theorem Step.sound (hstep : Step h h') (hs : h.Sound) : h'.Sound ∧ h.Later h' := by
  have hafter : ∀ {h'}, h.After h' → h'.Sound ∧ h.Later h' := fun {h'} hafter => by
    refine ⟨hs.of_after hafter, ?_⟩
    obtain ⟨state, produced, loop, rfl, -⟩ := hafter
    exact .of_eq rfl rfl
  have hst := hs.steady
  have hsteady : ∀ {mounted effectsDue hidden restartKey}, Steady { h with
      mounted := mounted, effectsDue := effectsDue, hidden := hidden, restartKey := restartKey } :=
    ⟨hst.active, hst.fresh, hst.stretch, hst.listeners, hst.idle, hst.data, hst.shown⟩
  cases hstep with
  | render hmounted heffects fetcher intervalMs enabled =>
    exact ⟨hs.render hmounted heffects fetcher intervalMs enabled, .of_eq rfl rfl⟩
  | unmount => exact ⟨⟨hsteady, hs.scheduled, by rintro ⟨⟩, by rintro ⟨⟩⟩, .of_eq rfl rfl⟩
  | runEffects _ thrown => exact hs.runEffects thrown
  | refresh => exact ⟨⟨hsteady, hs.scheduled, hs.settled, hs.polls⟩, .of_eq rfl rfl⟩
  | hidden value => exact ⟨⟨hsteady, hs.scheduled, hs.settled, hs.polls⟩, .of_eq rfl rfl⟩
  | visibilityChange thrown => exact hafter (hs.visibilityChange thrown)
  | timeout htimers thrown => exact hafter (hs.timeout htimers thrown)
  | completes hcompletes => exact hafter (hs.completes hcompletes)

theorem Run.sound (hrun : h.Run) : h.Sound := by
  obtain ⟨fetcher, intervalMs, enabled, hidden, hsteps⟩ := hrun
  induction hsteps with
  | refl => exact mount_sound fetcher intervalMs enabled hidden
  | tail _ hstep ih => exact (hstep.sound ih).1

/-- A period that is over stays over. -/
theorem Sound.ended (hs : h.Sound) (hended : h.Ended i)
    (hsteps : Relation.ReflTransGen Step h h') : h'.Sound ∧ h'.Ended i := by
  induction hsteps with
  | refl => exact ⟨hs, hended⟩
  | tail _ hstep ih =>
    obtain ⟨hsound, hlater⟩ := hstep.sound ih.1
    exact ⟨hsound, hlater.ended ih.1.steady hsound.steady ih.2⟩

theorem fail_of_cancelled (hcancelled : (h.loop.vars i).cancelled = true) (err : Rejection) :
    h.fail i err = { h with loop := h.loop.set i { h.loop.vars i with inFlight := false } } :=
  finish_of_cancelled _ hcancelled

/-- What comes back to a period that is over is dropped. -/
theorem Completes.of_cancelled (hcompletes : Completes i h h')
    (hcancelled : (h.loop.vars i).cancelled = true) :
    h'.state = h.state ∧ h'.shown = h.shown ∧ h'.loop.timers = h.loop.timers ∧
      ∃ l₁ l₂, h.loop.requests = l₁ ++ i :: l₂ ∧ h'.loop.requests = l₁ ++ l₂ := by
  cases hcompletes with
  | @returned l₁ l₂ hrequests data =>
    rw [succeed_of_cancelled]
    · exact ⟨rfl, rfl, rfl, l₁, l₂, hrequests, rfl⟩
    · exact hcancelled
  | @failed l₁ l₂ hrequests err =>
    rw [fail_of_cancelled]
    · exact ⟨rfl, rfl, rfl, l₁, l₂, hrequests, rfl⟩
    · exact hcancelled

/-- **The scheduling of `usePolling`**, in every run. A period that is not over has one request in
flight and no timer, or one timer and no request; while polling is enabled there is such a period. A
period that is over stays over, and what still comes back to it changes nothing and starts no
request. The data that a render returned was produced by its fetcher in the current stretch. -/
theorem polling_scheduled (hrun : h.Run) :
    (∀ i, h.Active i →
      h.loop.requestsOf i = 1 ∧ h.loop.timersOf i = 0 ∨
        h.loop.requestsOf i = 0 ∧ h.loop.timersOf i = 1) ∧
    (h.mounted = true → h.effectsDue = false → h.rendered.enabled = true → ∃ i, h.Active i) ∧
    (∀ i, h.Ended i → ∀ h₁, Relation.ReflTransGen Step h h₁ →
      h₁.Ended i ∧ i ∉ h₁.listeners ∧ h₁.loop.timersOf i = 0 ∧
        ∀ h₂, Completes i h₁ h₂ →
          h₂.state = h₁.state ∧ h₂.shown = h₁.shown ∧ h₂.loop.timers = h₁.loop.timers ∧
            ∃ l₁ l₂, h₁.loop.requests = l₁ ++ i :: l₂ ∧ h₂.loop.requests = l₁ ++ l₂) ∧
    ∀ v, h.shown.data = some v →
      h.rendered.enabled = true ∧ ⟨h.rendered.fetcher, v, h.stretch, h.stretch⟩ ∈ h.produced := by
  have hs := hrun.sound
  refine ⟨fun i hactive => hs.scheduled.one_of_two hactive.2, fun hmounted heffects henabled => ?_,
    fun i hended h₁ hsteps => ?_, hs.steady.shown⟩
  · have hran := hs.settled hmounted heffects
    obtain ⟨i, hrunning⟩ := Option.ne_none_iff_exists'.mp (hs.polls hmounted _ hran henabled)
    have hactive := (hs.steady.active i).mpr hrunning
    exact ⟨i, hs.steady.lt_periods (.inl hactive), hactive⟩
  · obtain ⟨hs₁, hended₁⟩ := hs.ended hended hsteps
    refine ⟨hended₁, fun hmem => ?_, ?_, fun h₂ hcompletes => hcompletes.of_cancelled hended₁.2⟩
    · rw [hs₁.steady.listeners, Option.mem_toList, ← hs₁.steady.active] at hmem
      exact Bool.false_ne_true (hmem.symm.trans hended₁.2)
    · rw [(hs₁.scheduled.kept i).timers, hended₁.2, Bool.true_or, if_pos rfl]

/-- A page opens, its first request returns, and it is rendered again. -/
def polledOnce : Hook ℕ ℕ :=
  let opened := (mount 0 30000 true false).runEffects none
  ({ opened with loop := { opened.loop with requests := [] } }.succeed 0 7).render 0 30000 true

theorem polledOnce_scheduled :
    (polledOnce.loop.requestsOf 0 = 1 ∧ polledOnce.loop.timersOf 0 = 0 ∨
      polledOnce.loop.requestsOf 0 = 0 ∧ polledOnce.loop.timersOf 0 = 1) ∧
    ⟨0, 7, 0, 0⟩ ∈ polledOnce.produced := by
  have hrun : polledOnce.Run := by
    have hrequests : ((mount 0 30000 true false : Hook ℕ ℕ).runEffects none).loop.requests =
        [] ++ 0 :: [] := rfl
    exact ⟨0, 30000, true, false, .tail (.tail (.tail .refl (.runEffects rfl none))
      (.completes (.returned hrequests 7))) (.render rfl rfl 0 30000 true)⟩
  have hscheduled := polling_scheduled hrun
  exact ⟨hscheduled.1 0 ⟨by decide, rfl⟩, (hscheduled.2.2.2 7 rfl).2⟩

end

end Hook

end Polling

end Web

end SlaSettle
