import Mathlib.Logic.Function.Basic
import SlaSettle.Effect.InFlight
import SlaSettle.Js.Number

/-!
# The polling loop

The closures of `usePolling`. Each activation of the effect of `lib/use-polling.ts` is a *period*,
whose closures share the variables `cancelled`, `inFlight`, `hasFetched` and `timer`. A period that
is over leaves its closures behind, in requests that have not come back.

`Loop` is what the periods share: their variables, the timers that are pending, and the requests in
flight. `Loop.Scheduled` is the invariant: a period has the request that its variables say, and else
it has a timer unless it is over. A timer that fires and a request that comes back leave its period
with neither (`Loop.Between`), and what the closures do next restores the invariant.
-/

namespace SlaSettle

namespace Web

namespace Polling

open Effect Js

/-! ### Periods -/

/-- The variables of an activation of the effect. -/
structure Period (F : Type) where
  fetcher : F
  intervalMs : JsNumber
  /-- The enabled stretch it belongs to. -/
  stretch : ℕ
  cancelled : Bool
  inFlight : Bool
  hasFetched : Bool
  timer : Option ℕ

/-- A pending timer, whose callback is the `tick` of a period. -/
structure Timer where
  id : ℕ
  period : ℕ
  delay : JsNumber

/-- What the periods share: the variables of each, the pending timers, and the requests in flight,
each by its period. -/
structure Loop (F : Type) where
  vars : ℕ → Period F
  timers : List Timer
  /-- The number of timers so far. -/
  timerCount : ℕ
  requests : List ℕ

namespace Loop

variable {F : Type}

def set (l : Loop F) (i : ℕ) (p : Period F) : Loop F :=
  { l with vars := Function.update l.vars i p }

/-- `schedule()` -/
def schedule (l : Loop F) (i : ℕ) : Loop F :=
  if (l.vars i).cancelled then l
  else
    { l.set i { l.vars i with timer := some l.timerCount } with
      timers := ⟨l.timerCount, i, (l.vars i).intervalMs⟩ :: l.timers
      timerCount := l.timerCount + 1 }

/-- A request is about to be made. -/
def begin (l : Loop F) (i : ℕ) : Loop F :=
  l.set i { l.vars i with inFlight := true, hasFetched := true }

/-- A request is made. -/
def fetch (l : Loop F) (i : ℕ) : Loop F := { l.begin i with requests := i :: l.requests }

/-- What is done at the end of a request. -/
def settle (l : Loop F) (i : ℕ) : Loop F :=
  (l.set i { l.vars i with inFlight := false }).schedule i

/-- `clearTimeout(timer)` -/
def clearTimeout (l : Loop F) (i : ℕ) : Loop F :=
  { l with timers := l.timers.filter fun timer => some timer.id ≠ (l.vars i).timer }

/-- The cleanup of the effect, apart from the listener. -/
def stop (l : Loop F) (i : ℕ) : Loop F :=
  (l.set i { l.vars i with cancelled := true }).clearTimeout i

/-- The requests that a period has in flight. -/
def requestsOf (l : Loop F) (i : ℕ) : ℕ := l.requests.count i

/-- The timers of a period that are pending. -/
def timersOf (l : Loop F) (i : ℕ) : ℕ := (l.timers.map Timer.period).count i

/-! ### What holds of the scheduling -/

/-- A period has the request that its variables say, and else a timer unless it is over. -/
structure Kept (l : Loop F) (i : ℕ) : Prop where
  requests : l.requestsOf i = if (l.vars i).inFlight then 1 else 0
  timers : l.timersOf i = if (l.vars i).cancelled || (l.vars i).inFlight then 0 else 1

/-- What the variables `timer` say: a pending timer is that of its period, and no two periods share
one. -/
structure Identified (l : Loop F) : Prop where
  pending : ∀ timer ∈ l.timers, (l.vars timer.period).timer = some timer.id
  distinct : ∀ i j id, (l.vars i).timer = some id → (l.vars j).timer = some id → i = j
  bounded : ∀ i id, (l.vars i).timer = some id → id < l.timerCount

/-- The invariant. -/
structure Scheduled (l : Loop F) : Prop where
  identified : l.Identified
  kept : ∀ i, l.Kept i

/-- The invariant while a period has neither a request nor a timer. -/
structure Between (l : Loop F) (i : ℕ) : Prop where
  identified : l.Identified
  kept : ∀ j, j ≠ i → l.Kept j
  requests : l.requestsOf i = 0
  timers : l.timersOf i = 0

section

variable {l : Loop F} {i j : ℕ} {p : Period F}

@[simp]
theorem vars_set_self : (l.set i p).vars i = p := by simp [set]

theorem vars_set_of_ne (h : j ≠ i) : (l.set i p).vars j = l.vars j := by simp [set, h]

theorem timer_set (hp : p.timer = (l.vars i).timer) (j : ℕ) :
    ((l.set i p).vars j).timer = (l.vars j).timer := by
  by_cases hj : j = i
  · rw [hj, vars_set_self, hp]
  · rw [vars_set_of_ne hj]

theorem Identified.set (h : l.Identified) (hp : p.timer = (l.vars i).timer) :
    (l.set i p).Identified where
  pending timer htimer := (timer_set hp _).trans (h.pending timer htimer)
  distinct j k id hj hk :=
    h.distinct j k id ((timer_set hp j).symm.trans hj) ((timer_set hp k).symm.trans hk)
  bounded j id hj := h.bounded j id ((timer_set hp j).symm.trans hj)

theorem Kept.set (h : l.Kept j) (hj : j ≠ i) : (l.set i p).Kept j := by
  refine ⟨?_, ?_⟩
  · rw [vars_set_of_ne hj]
    exact h.requests
  · rw [vars_set_of_ne hj]
    exact h.timers

/-- Fewer timers may be pending. -/
theorem Identified.subset (h : l.Identified) {timers : List Timer} (hsub : timers ⊆ l.timers) :
    { l with timers := timers }.Identified :=
  ⟨fun timer htimer => h.pending timer (hsub htimer), h.distinct, h.bounded⟩

theorem Identified.requests (h : l.Identified) (requests : List ℕ) :
    { l with requests := requests }.Identified := ⟨h.pending, h.distinct, h.bounded⟩

/-- A period that has no timer is given the next one. -/
theorem Identified.assign (h : l.Identified) (hnone : ∀ timer ∈ l.timers, timer.period ≠ i)
    (delay : JsNumber) :
    { l.set i { l.vars i with timer := some l.timerCount } with
      timers := ⟨l.timerCount, i, delay⟩ :: l.timers
      timerCount := l.timerCount + 1 }.Identified := by
  set l' := l.set i { l.vars i with timer := some l.timerCount }
  have hself : (l'.vars i).timer = some l.timerCount := by rw [vars_set_self]
  have hother : ∀ j, j ≠ i → (l'.vars j).timer = (l.vars j).timer := fun j hj => by
    rw [vars_set_of_ne hj]
  -- the timer is none of those before it
  have hfresh : ∀ j id, (l'.vars j).timer = some id → j ≠ i → id < l.timerCount :=
    fun j id hid hj => h.bounded j id ((hother j hj).symm.trans hid)
  have hnew : ∀ id, (l'.vars i).timer = some id → id = l.timerCount := fun id hid =>
    Option.some.inj (hid.symm.trans hself)
  refine ⟨?_, fun j k id hj hk => ?_, fun j id hj => ?_⟩
  · refine List.forall_mem_cons.mpr ⟨hself, fun timer htimer => ?_⟩
    exact (hother _ (hnone timer htimer)).trans (h.pending timer htimer)
  · by_cases hji : j = i
    · by_cases hki : k = i
      · rw [hji, hki]
      · exact absurd (hnew id (hji ▸ hj)) (hfresh k id hk hki).ne
    · by_cases hki : k = i
      · exact absurd (hnew id (hki ▸ hk)) (hfresh j id hj hji).ne
      · exact h.distinct j k id ((hother j hji).symm.trans hj) ((hother k hki).symm.trans hk)
  · by_cases hji : j = i
    · rw [hnew id (hji ▸ hj)]
      exact Nat.lt_succ_self _
    · exact (hfresh j id hj hji).trans (Nat.lt_succ_self _)

namespace Between

variable (h : l.Between i)

include h

theorem set (hp : p.timer = (l.vars i).timer) : (l.set i p).Between i :=
  ⟨h.identified.set hp, fun j hj => (h.kept j hj).set hj, h.requests, h.timers⟩

/-- A period that is over needs no timer. -/
theorem scheduled (hcancelled : (l.vars i).cancelled = true)
    (hidle : (l.vars i).inFlight = false) : l.Scheduled := by
  refine ⟨h.identified, fun j => ?_⟩
  by_cases hj : j = i
  · subst hj
    exact ⟨by rw [hidle]; exact h.requests, by rw [hcancelled]; exact h.timers⟩
  · exact h.kept j hj

theorem schedule (hidle : (l.vars i).inFlight = false) : (l.schedule i).Scheduled := by
  rw [Loop.schedule]
  split_ifs with hcancelled
  · exact h.scheduled hcancelled hidle
  rw [Bool.not_eq_true] at hcancelled
  have hnone : ∀ timer ∈ l.timers, timer.period ≠ i := fun timer htimer hperiod =>
    List.count_eq_zero.mp h.timers (List.mem_map.mpr ⟨timer, htimer, hperiod⟩)
  refine ⟨h.identified.assign hnone _, fun j => ?_⟩
  by_cases hj : j = i
  · subst hj
    refine ⟨?_, ?_⟩
    · change l.requestsOf j = if ((l.set j _).vars j).inFlight then 1 else 0
      rw [vars_set_self, hidle]
      exact h.requests
    · change (j :: l.timers.map Timer.period).count j = if ((l.set j _).vars j).cancelled ||
        ((l.set j _).vars j).inFlight then 0 else 1
      rw [vars_set_self, hidle, hcancelled, List.count_cons_self]
      exact congrArg (· + 1) h.timers
  · refine ⟨((h.kept j hj).set hj).requests, ?_⟩
    change (i :: l.timers.map Timer.period).count j = _
    rw [List.count_cons_of_ne (Ne.symm hj)]
    exact ((h.kept j hj).set hj).timers

theorem settle : (l.settle i).Scheduled := by
  refine Between.schedule (h.set ?_) ?_
  · rfl
  · rw [vars_set_self]

theorem fetch : (l.fetch i).Scheduled := by
  have hbegin : (l.begin i).Between i := h.set rfl
  refine ⟨hbegin.identified.requests _, fun j => ?_⟩
  by_cases hj : j = i
  · subst hj
    have hflight : ((l.fetch j).vars j).inFlight = true :=
      congrArg Period.inFlight (vars_set_self (l := l))
    refine ⟨?_, ?_⟩
    · rw [hflight]
      exact List.count_cons_self.trans (congrArg (· + 1) h.requests)
    · rw [hflight, Bool.or_true]
      exact h.timers
  · refine ⟨?_, (hbegin.kept j hj).timers⟩
    exact (List.count_cons_of_ne (Ne.symm hj)).trans (hbegin.kept j hj).requests

end Between

namespace Scheduled

variable (h : l.Scheduled)

include h

/-- A period that is not over has one of the two. -/
theorem one_of_two (hactive : (l.vars i).cancelled = false) :
    l.requestsOf i = 1 ∧ l.timersOf i = 0 ∨ l.requestsOf i = 0 ∧ l.timersOf i = 1 := by
  rw [(h.kept i).requests, (h.kept i).timers, hactive, Bool.false_or]
  cases (l.vars i).inFlight with
  | false => exact .inr ⟨rfl, rfl⟩
  | true => exact .inl ⟨rfl, rfl⟩

/-- The period of a pending timer is not over, and it has no request. -/
theorem of_mem_timers {timer : Timer} (htimer : timer ∈ l.timers) :
    (l.vars timer.period).cancelled = false ∧ (l.vars timer.period).inFlight = false := by
  have hpos : 0 < l.timersOf timer.period :=
    List.count_pos_iff.mpr (List.mem_map_of_mem htimer)
  rw [(h.kept timer.period).timers] at hpos
  split_ifs at hpos with hor
  · exact absurd hpos (lt_irrefl 0)
  · rwa [Bool.not_eq_true, Bool.or_eq_false_iff] at hor

theorem of_mem_requests (hmem : i ∈ l.requests) : (l.vars i).inFlight = true := by
  have hpos : 0 < l.requestsOf i := List.count_pos_iff.mpr hmem
  rw [(h.kept i).requests] at hpos
  by_contra hflight
  rw [if_neg hflight] at hpos
  exact hpos.false

/-- A timer that fires leaves its period with neither. -/
theorem fire {timer : Timer} {l₁ l₂ : List Timer} (htimers : l.timers = l₁ ++ timer :: l₂) :
    { l with timers := l₁ ++ l₂ }.Between timer.period := by
  obtain ⟨hactive, hidle⟩ := h.of_mem_timers (mem_inFlight htimers)
  have hcount : ∀ j, l.timersOf j = (({ l with timers := l₁ ++ l₂ } : Loop F).timersOf j) +
      if timer.period = j then 1 else 0 := by
    intro j
    simp only [timersOf, htimers, List.map_append, List.map_cons, List.count_append,
      List.count_cons, beq_iff_eq]
    omega
  refine ⟨h.identified.subset (subset_inFlight htimers), fun j hj => ?_, ?_, ?_⟩
  · refine ⟨(h.kept j).requests, ?_⟩
    rw [← (h.kept j).timers, hcount j, if_neg (Ne.symm hj), Nat.add_zero]
  · exact (h.kept _).requests.trans (by rw [hidle]; rfl)
  -- it was the only one
  · have hone := (h.kept timer.period).timers
    rw [hcount, if_pos rfl, hactive, hidle] at hone
    exact Nat.succ.inj hone

/-- So does a request that comes back. -/
theorem comeBack {l₁ l₂ : List ℕ} (hrequests : l.requests = l₁ ++ i :: l₂) :
    { l with requests := l₁ ++ l₂ }.Between i := by
  have hflight := h.of_mem_requests (mem_inFlight hrequests)
  have hcount : ∀ j, l.requestsOf j = (({ l with requests := l₁ ++ l₂ } : Loop F).requestsOf j) +
      if i = j then 1 else 0 := by
    intro j
    simp only [requestsOf, hrequests, List.count_append, List.count_cons, beq_iff_eq]
    omega
  refine ⟨h.identified.requests _, fun j hj => ?_, ?_, ?_⟩
  · refine ⟨?_, (h.kept j).timers⟩
    rw [← (h.kept j).requests, hcount j, if_neg (Ne.symm hj), Nat.add_zero]
  · have hone := (h.kept i).requests
    rw [hcount, if_pos rfl, hflight] at hone
    exact Nat.succ.inj hone
  · exact (h.kept i).timers.trans (by rw [hflight, Bool.or_true, if_pos rfl])

/-- `clearTimeout` takes the timer of the period. -/
theorem timers_clearTimeout (i : ℕ) :
    (l.clearTimeout i).timers = l.timers.filter fun timer => timer.period ≠ i := by
  refine List.filter_congr fun timer htimer => ?_
  have hpending := h.identified.pending timer htimer
  refine decide_eq_decide.mpr (not_congr ⟨fun hid => ?_, fun hperiod => ?_⟩)
  · exact h.identified.distinct _ _ _ hpending hid.symm
  · rw [← hperiod, hpending]

theorem timersOf_clearTimeout (i j : ℕ) :
    (l.clearTimeout i).timersOf j = if j = i then 0 else l.timersOf j := by
  have hmap : (l.clearTimeout i).timers.map Timer.period =
      (l.timers.map Timer.period).filter (· ≠ i) := by
    rw [h.timers_clearTimeout, List.filter_map]
    rfl
  rw [timersOf, hmap]
  split_ifs with hj
  · exact List.count_eq_zero.mpr fun hmem => of_decide_eq_true (List.mem_filter.mp hmem).2 hj
  · exact List.count_filter (decide_eq_true hj)

theorem clearTimeout (hidle : (l.vars i).inFlight = false) : (l.clearTimeout i).Between i := by
  refine ⟨h.identified.subset (List.filter_subset_self _), fun j hj => ?_, ?_, ?_⟩
  · refine ⟨(h.kept j).requests, ?_⟩
    rw [h.timersOf_clearTimeout, if_neg hj]
    exact (h.kept j).timers
  · exact (h.kept i).requests.trans (by rw [hidle]; rfl)
  · rw [h.timersOf_clearTimeout, if_pos rfl]

theorem stop : (l.stop i).Scheduled := by
  set l' := l.set i { l.vars i with cancelled := true }
  have htimers : (l.stop i).timers = (l.clearTimeout i).timers := by
    change l.timers.filter (fun timer => some timer.id ≠ (l'.vars i).timer) = _
    rw [vars_set_self]
    rfl
  have hof : ∀ j, (l.stop i).timersOf j = if j = i then 0 else l.timersOf j := fun j => by
    rw [timersOf, htimers]
    exact h.timersOf_clearTimeout i j
  have hset : l'.Identified := h.identified.set rfl
  refine ⟨hset.subset (List.filter_subset_self _), fun j => ?_⟩
  by_cases hj : j = i
  · subst hj
    refine ⟨?_, ?_⟩
    · change l.requestsOf j = if (l'.vars j).inFlight then 1 else 0
      rw [vars_set_self]
      exact (h.kept j).requests
    · change _ = if (l'.vars j).cancelled || (l'.vars j).inFlight then 0 else 1
      rw [hof, if_pos rfl, vars_set_self, Bool.true_or, if_pos rfl]
  · have hkept : l'.Kept j := (h.kept j).set hj
    refine ⟨hkept.requests, ?_⟩
    rw [hof, if_neg hj]
    exact hkept.timers

/-- A period that has not been used yet is started, and has neither a request nor a timer. -/
theorem start (hcancelled : (l.vars i).cancelled = true) (hidle : (l.vars i).inFlight = false)
    (hp : p.timer = (l.vars i).timer) : (l.set i p).Between i := by
  refine Between.set ⟨h.identified, fun j _ => h.kept j, ?_, ?_⟩ hp
  · exact (h.kept i).requests.trans (by rw [hidle]; rfl)
  · exact (h.kept i).timers.trans (by rw [hcancelled]; rfl)

end Scheduled

theorem settle_of_cancelled (hcancelled : (l.vars i).cancelled = true) :
    l.settle i = l.set i { l.vars i with inFlight := false } := by
  rw [settle, schedule, vars_set_self, if_pos hcancelled]

/-! ### What stays -/

/-- Only the scheduling of a period differs. -/
structure Retimed (l l' : Loop F) (i : ℕ) : Prop where
  other : ∀ j, j ≠ i → l'.vars j = l.vars j
  cancelled : (l'.vars i).cancelled = (l.vars i).cancelled
  stretch : (l'.vars i).stretch = (l.vars i).stretch

theorem Retimed.of_vars {l' : Loop F} (h : l'.vars = l.vars) : l.Retimed l' i :=
  ⟨fun _ _ => congrFun h _, by rw [h], by rw [h]⟩

theorem Retimed.trans {l' l'' : Loop F} (h : l.Retimed l' i) (h' : l'.Retimed l'' i) :
    l.Retimed l'' i :=
  ⟨fun j hj => (h'.other j hj).trans (h.other j hj), h'.cancelled.trans h.cancelled,
    h'.stretch.trans h.stretch⟩

theorem Retimed.of_update {l' : Loop F} (h : l'.vars = Function.update l.vars i p)
    (hcancelled : p.cancelled = (l.vars i).cancelled) (hstretch : p.stretch = (l.vars i).stretch) :
    l.Retimed l' i := by
  refine ⟨fun j hj => ?_, ?_, ?_⟩
  · rw [h, Function.update_of_ne hj]
  · rw [h, Function.update_self, hcancelled]
  · rw [h, Function.update_self, hstretch]

theorem retimed_schedule : l.Retimed (l.schedule i) i := by
  rw [schedule]
  split_ifs
  · exact .of_vars rfl
  · exact .of_update rfl rfl rfl

theorem retimed_fetch : l.Retimed (l.fetch i) i := .of_update rfl rfl rfl

theorem retimed_settle : l.Retimed (l.settle i) i := by
  have hset : l.Retimed (l.set i { l.vars i with inFlight := false }) i := .of_update rfl rfl rfl
  exact hset.trans retimed_schedule

end

end Loop

end Polling

end Web

end SlaSettle
