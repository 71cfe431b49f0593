import Mathlib.Algebra.Order.Ring.Int
import SlaSettle.Watcher.Reads

/-!
# The schedule of retries

`retry.Do`, for any function `fn` and whatever it returns, call by call. A run is a row of calls of
`fn` with waits between them (`Attempts`), and `Retried` says which rows there are: after an error
the loop waits and calls again, unless no attempt is left or the context ends during the wait.

The delay is doubled in 64 bits before it is capped, and the first one is not capped. So the waits
follow `min (BaseDelay * 2 ^ i) MaxDelay` exactly when `DelaysFit` holds of the number of waits
(`retryDo_onSchedule_iff`).
-/

namespace SlaSettle

namespace Watcher

open Effect Program Go

section

variable {α : Type}

/-- Whether a function returned an error. -/
def failed : Except Stop α → Bool
  | .error (.err _) => true
  | _ => false

/-! ### Runs -/

/-- A trace of calls of `fn` that gave `outs`, with the waits `waits` after them: how long each is,
and whether the context ended. -/
inductive Attempts (fn : Daemon α) :
    List (Except Stop α) → List (ℤ × Bool) → List (Event watcherInterface) → Prop
  | nil : Attempts fn [] [] []
  | last {tr : List (Event watcherInterface)} {x : Except Stop α}
      (run : Runs (I := watcherInterface) fn tr x) : Attempts fn [x] [] tr
  | wait {tr tr' : List (Event watcherInterface)} {x : Except Stop α} {d : ℤ} {cancelled : Bool}
      {outs : List (Except Stop α)} {waits : List (ℤ × Bool)}
      (run : Runs (I := watcherInterface) fn tr x) (rest : Attempts fn outs waits tr') :
      Attempts fn (x :: outs) ((d, cancelled) :: waits) (tr ++ ⟨.wait d, cancelled⟩ :: tr')

/-- What a loop with `retries` attempts left after this one can do, starting with the delay `d`. -/
inductive Retried (maxDelay : ℤ) :
    ℕ → ℤ → List (Except Stop α) → List (ℤ × Bool) → Except Stop α → Prop
  | last {d : ℤ} {x : Except Stop α} : Retried maxDelay 0 d [x] [] x
  | stop {retries : ℕ} {d : ℤ} {x : Except Stop α} (hx : failed x = false) :
      Retried maxDelay retries d [x] [] x
  | cancelled {retries : ℕ} {d : ℤ} {x : Except Stop α} (hx : failed x = true) :
      Retried maxDelay (retries + 1) d [x] [(d, true)] (.error (.err .cancelled))
  | again {retries : ℕ} {d : ℤ} {x r : Except Stop α} {outs : List (Except Stop α)}
      {waits : List (ℤ × Bool)} (hx : failed x = true)
      (rest : Retried maxDelay retries (nextDelay maxDelay d) outs waits r) :
      Retried maxDelay (retries + 1) d (x :: outs) ((d, false) :: waits) r

theorem runs_retryLoop {maxDelay : ℤ} {fn : Daemon α} {retries : ℕ} {d : ℤ}
    {tr : List (Event watcherInterface)} {r : Except Stop α}
    (h : Runs (I := watcherInterface) (retryLoop maxDelay fn retries d) tr r) :
    ∃ outs waits, Attempts fn outs waits tr ∧ Retried maxDelay retries d outs waits r := by
  induction retries generalizing d tr with
  | zero => exact ⟨[r], [], .last h, .last⟩
  | succ retries ih =>
    rcases exec_throwing_bind_iff.mp h with ⟨stop, hpanic, rfl⟩ | ⟨tr₁, x, s₁, tr₂, h₁, h₂, rfl⟩
    · obtain ⟨x, hx, hrecovered⟩ := exec_catchErr_iff.mp hpanic
      rcases x with (e | why) | a <;> cases hrecovered
      exact ⟨_, [], .last hx, .stop rfl⟩
    obtain ⟨x', hx, hrecovered⟩ := exec_catchErr_iff.mp h₁
    rcases x' with (e | why) | a <;> cases hrecovered
    · -- the context may end during the wait
      obtain ⟨cancelled, s₂, tr₃, -, h₃, rfl⟩ := exec_observe_bind_iff.mp h₂
      cases cancelled with
      | true =>
        obtain ⟨rfl, rfl, rfl⟩ := exec_attempt_iff.mp h₃
        exact ⟨_, _, .wait hx .nil, .cancelled rfl⟩
      | false =>
        obtain ⟨outs, waits, hattempts, hretried⟩ := ih h₃
        exact ⟨_, _, .wait hx hattempts, .again rfl hretried⟩
    · obtain ⟨rfl, rfl, rfl⟩ := exec_return_iff.mp h₂
      rw [List.append_nil]
      exact ⟨_, [], .last hx, .stop rfl⟩

/-- **The runs of `retry.Do`.** -/
theorem runs_retryDo {opts : RetryOptions} {fn : Daemon α} {tr : List (Event watcherInterface)}
    {r : Except Stop α} (h : Runs (I := watcherInterface) (retryDo opts fn) tr r) :
    ∃ outs waits, Attempts fn outs waits tr ∧
      Retried opts.maxDelay (max 1 opts.maxAttempts - 1).toNat opts.baseDelay outs waits r :=
  runs_retryLoop h

/-! ### How often it calls -/

/-- How often a function is called: up to the first time it does not fail, but at most `attempts`
times. -/
def callCount (outcome : ℕ → Except Stop α) (attempts : ℕ) : ℕ :=
  min ((List.range attempts).findIdx (fun i => !failed (outcome i)) + 1) attempts

theorem callCount_eq {outcome : ℕ → Except Stop α} {attempts calls : ℕ}
    (hle : calls + 1 ≤ attempts) (hfailed : ∀ i < calls, failed (outcome i) = true)
    (hlast : failed (outcome calls) = true → calls + 1 = attempts) :
    callCount outcome attempts = calls + 1 := by
  have hfirst : calls ≤ (List.range attempts).findIdx fun i => !failed (outcome i) := by
    refine List.le_findIdx_of_not (by rw [List.length_range]; exact hle) fun i hi => ?_
    simp [hfailed i hi]
  cases hcalls : failed (outcome calls) with
  | true =>
    obtain rfl := hlast hcalls
    exact min_eq_right (Nat.add_le_add_right hfirst 1)
  | false =>
    have hfind : ((List.range attempts).findIdx fun i => !failed (outcome i)) ≤ calls := by
      by_contra hlt
      have := List.not_of_lt_findIdx (not_le.mp hlt)
      simp [hcalls] at this
    rw [callCount, Nat.le_antisymm hfind hfirst]
    exact min_eq_left hle

variable {maxDelay d : ℤ} {retries : ℕ} {outs : List (Except Stop α)} {waits : List (ℤ × Bool)}
  {r : Except Stop α}

/-- Every call but the last fails. After the last call there is no wait, unless the context ended
during it. -/
theorem Retried.calls (h : Retried maxDelay retries d outs waits r) :
    ∃ failures x, outs = failures ++ [x] ∧ (∀ y ∈ failures, failed y = true) ∧
      failures.length ≤ retries ∧
      ((waits.length = failures.length ∧ (∀ w ∈ waits, w.2 = false) ∧ r = x ∧
          (failed x = true → failures.length = retries)) ∨
        ∃ before d', waits = before ++ [(d', true)] ∧ before.length = failures.length ∧
          (∀ w ∈ before, w.2 = false) ∧ r = .error (.err .cancelled)) := by
  induction h with
  | last => exact ⟨[], _, rfl, by simp, le_rfl, .inl ⟨rfl, by simp, rfl, fun _ => rfl⟩⟩
  | stop hx =>
    refine ⟨[], _, rfl, by simp, Nat.zero_le _, .inl ⟨rfl, by simp, rfl, fun h => ?_⟩⟩
    exact absurd h (by simp [hx])
  | cancelled hx =>
    exact ⟨[], _, rfl, by simp, Nat.zero_le _, .inr ⟨[], _, rfl, rfl, by simp, rfl⟩⟩
  | @again retries d x r outs waits hx rest ih =>
    obtain ⟨failures, y, rfl, hfailures, hle, hwaits⟩ := ih
    refine ⟨x :: failures, y, rfl, List.forall_mem_cons.mpr ⟨hx, hfailures⟩,
      Nat.succ_le_succ hle, ?_⟩
    rcases hwaits with ⟨hlength, hnone, rfl, hlast⟩ | ⟨before, d', rfl, hlength, hnone, rfl⟩
    · refine .inl ⟨congrArg Nat.succ hlength, List.forall_mem_cons.mpr ⟨rfl, hnone⟩, rfl, ?_⟩
      exact fun hy => congrArg Nat.succ (hlast hy)
    · exact .inr ⟨(d, false) :: before, d', rfl, congrArg Nat.succ hlength,
        List.forall_mem_cons.mpr ⟨rfl, hnone⟩, rfl⟩

/-! ### How long it waits -/

/-- The delays are those of the loop. -/
theorem Retried.delays (h : Retried maxDelay retries d outs waits r) :
    waits.map Prod.fst = (List.range waits.length).map fun i => (nextDelay maxDelay)^[i] d := by
  induction h with
  | last => rfl
  | stop hx => rfl
  | cancelled hx => rfl
  | @again retries d x r outs waits hx rest ih =>
    rw [List.map_cons, ih, List.length_cons, List.range_succ_eq_map, List.map_cons, List.map_map]
    rfl

/-- The wait before call `i + 2`, as scheduled. -/
def scheduled (opts : RetryOptions) (i : ℕ) : ℤ := min (opts.baseDelay * 2 ^ i) opts.maxDelay

/-- The first wait is not above the cap, and no wait but the last is too long to be doubled. -/
structure DelaysFit (opts : RetryOptions) (waits : ℕ) : Prop where
  base : 1 ≤ waits → opts.baseDelay ≤ opts.maxDelay
  doubled : 2 ≤ waits → scheduled opts (waits - 2) < 2 ^ 62

theorem delaysFit_of_lt {opts : RetryOptions} (hbase : opts.baseDelay ≤ opts.maxDelay)
    (hmax : opts.maxDelay < 2 ^ 62) (waits : ℕ) : DelaysFit opts waits :=
  ⟨fun _ => hbase, fun _ => (min_le_right _ _).trans_lt hmax⟩

theorem nextDelay_of_lt (h0 : 0 ≤ d) (hd : d < 2 ^ 62) :
    nextDelay maxDelay d = min (d * 2) maxDelay := by
  rw [nextDelay, int64_of_lt (by omega) (by omega)]
  split <;> omega

/-- A delay that cannot be doubled becomes negative. -/
theorem nextDelay_neg (h0 : 0 ≤ maxDelay) (hd : 2 ^ 62 ≤ d) (hlt : d < 2 ^ 63) :
    nextDelay maxDelay d < 0 := by
  rw [nextDelay, int64_of_ge (by omega) (by omega)]
  split <;> omega

variable {opts : RetryOptions}

theorem scheduled_nonneg (hbase : 0 ≤ opts.baseDelay) (hmax : 0 ≤ opts.maxDelay) (i : ℕ) :
    0 ≤ scheduled opts i :=
  le_min (mul_nonneg hbase (pow_nonneg (by norm_num) i)) hmax

theorem scheduled_succ (hmax : 0 ≤ opts.maxDelay) (i : ℕ) :
    scheduled opts (i + 1) = min (scheduled opts i * 2) opts.maxDelay := by
  rw [scheduled, scheduled, pow_succ, ← mul_assoc]
  omega

theorem scheduled_mono (hbase : 0 ≤ opts.baseDelay) {i j : ℕ} (hij : i ≤ j) :
    scheduled opts i ≤ scheduled opts j := by
  refine min_le_min_right _ (mul_le_mul_of_nonneg_left ?_ hbase)
  exact pow_le_pow_right₀ (by norm_num) hij

/-- **The delays of the loop** are as scheduled, and never negative, exactly when they fit. -/
theorem delays_iff (hbase : 0 ≤ opts.baseDelay) (hmax : opts.maxDelay < 2 ^ 63) {n : ℕ} :
    (∀ i < n, (nextDelay opts.maxDelay)^[i] opts.baseDelay = scheduled opts i ∧
        0 ≤ (nextDelay opts.maxDelay)^[i] opts.baseDelay) ↔ DelaysFit opts n := by
  constructor
  · intro h
    have hle : 1 ≤ n → opts.baseDelay ≤ opts.maxDelay := by
      intro hn
      have hfirst := (h 0 hn).1
      rw [Function.iterate_zero_apply, scheduled, pow_zero, mul_one] at hfirst
      omega
    refine ⟨hle, fun hn => ?_⟩
    by_contra hlong
    obtain ⟨i, rfl⟩ : ∃ i, n = i + 2 := ⟨n - 2, by omega⟩
    have hbound : scheduled opts i ≤ opts.maxDelay := min_le_right _ _
    have hwait := (h i (by omega)).1
    have hnext := (h (i + 1) (by omega)).2
    rw [Function.iterate_succ_apply', hwait] at hnext
    rw [Nat.add_sub_cancel] at hlong
    have hneg : nextDelay opts.maxDelay (scheduled opts i) < 0 :=
      nextDelay_neg (by omega) (not_lt.mp hlong) (by omega)
    omega
  · intro h i hi
    have hmax0 : 0 ≤ opts.maxDelay := hbase.trans (h.base (by omega))
    suffices hdelay : (nextDelay opts.maxDelay)^[i] opts.baseDelay = scheduled opts i by
      exact ⟨hdelay, hdelay ▸ scheduled_nonneg hbase hmax0 i⟩
    induction i with
    | zero =>
      rw [Function.iterate_zero_apply, scheduled, pow_zero, mul_one]
      exact (min_eq_left (h.base (by omega))).symm
    | succ i ih =>
      have hlt : scheduled opts i < 2 ^ 62 :=
        (scheduled_mono hbase (by omega)).trans_lt (h.doubled (by omega))
      rw [Function.iterate_succ_apply', ih (by omega),
        nextDelay_of_lt (scheduled_nonneg hbase hmax0 i) hlt, scheduled_succ hmax0]

/-! ### The schedule -/

/-- A run that keeps the schedule: `fn` is called until it does not fail, at least once and at most
`MaxAttempts` times; its last outcome is the result; and the waits are as scheduled. -/
structure OnSchedule (opts : RetryOptions) (outcome : ℕ → Except Stop α)
    (outs : List (Except Stop α)) (waits : List (ℤ × Bool)) (r : Except Stop α) : Prop where
  calls : outs.length = callCount outcome (max 1 opts.maxAttempts).toNat
  result : r = outcome (outs.length - 1)
  delays : waits.map Prod.fst = (List.range (outs.length - 1)).map (scheduled opts)
  nonneg : ∀ w ∈ waits, 0 ≤ w.1

/-- What a run does in any case: how often it calls, what it returns, and how often it waits. -/
theorem Retried.counts {outcome : ℕ → Except Stop α}
    (h : Retried maxDelay retries d outs waits r)
    (houtcome : outs = (List.range outs.length).map outcome)
    (hnone : ∀ w ∈ waits, w.2 = false) :
    outs.length = callCount outcome (retries + 1) ∧ r = outcome (outs.length - 1) ∧
      waits.length = outs.length - 1 := by
  obtain ⟨failures, x, rfl, hfailures, hle, hwaits⟩ := h.calls
  rcases hwaits with ⟨hlength, -, rfl, hlast⟩ | ⟨before, d', rfl, -, -, -⟩
  swap
  · exact absurd (hnone (d', true) (by simp)) (by simp)
  rw [List.length_append, List.length_singleton, List.range_succ, List.map_append,
    List.map_singleton] at houtcome
  obtain ⟨hinit, hx⟩ := List.append_inj houtcome (by simp)
  obtain rfl := List.singleton_inj.mp hx
  have hcalls : callCount outcome (retries + 1) = failures.length + 1 := by
    refine callCount_eq (by omega) (fun i hi => ?_) fun h => congrArg Nat.succ (hlast h)
    exact hfailures _ (hinit ▸ List.mem_map_of_mem (List.mem_range.mpr hi))
  rw [hcalls, List.length_append, List.length_singleton]
  exact ⟨rfl, rfl, hlength⟩

/-- A wait during which the context ends is the last thing that happens. -/
theorem Retried.cancelled_last {d' : ℤ} {before after : List (ℤ × Bool)}
    (h : Retried maxDelay retries d outs (before ++ (d', true) :: after) r) :
    after = [] ∧ outs.length = before.length + 1 ∧ r = .error (.err .cancelled) := by
  obtain ⟨failures, x, rfl, -, -, ⟨-, hnone, -⟩ | ⟨before', _, hwaits, hlength, hnone, hr⟩⟩ :=
    h.calls
  · exact absurd (hnone (d', true) (by simp)) (by simp)
  obtain ⟨between, rfl, hend⟩ := append_eq_of_notMem_left hwaits.symm fun hmem =>
    absurd (hnone (d', true) hmem) (by simp)
  obtain ⟨rfl, rfl⟩ : between = [] ∧ after = [] := by
    cases between with
    | nil => exact ⟨rfl, (List.cons.inj hend).2.symm⟩
    | cons w between => simp at hend
  refine ⟨rfl, ?_, hr⟩
  rw [List.length_append, List.length_singleton, List.append_nil, hlength]

/-- Without a cancelled wait, the schedule is kept exactly when the delays fit. -/
theorem Retried.onSchedule_iff (hbase : 0 ≤ opts.baseDelay) (hmax : opts.maxDelay < 2 ^ 63)
    {outcome : ℕ → Except Stop α}
    (h : Retried opts.maxDelay (max 1 opts.maxAttempts - 1).toNat opts.baseDelay outs waits r)
    (houtcome : outs = (List.range outs.length).map outcome)
    (hnone : ∀ w ∈ waits, w.2 = false) :
    OnSchedule opts outcome outs waits r ↔
      DelaysFit opts (callCount outcome (max 1 opts.maxAttempts).toNat - 1) := by
  have hmost : (max 1 opts.maxAttempts - 1).toNat + 1 = (max 1 opts.maxAttempts).toNat := by omega
  obtain ⟨hcalls, hresult, hlength⟩ := h.counts houtcome hnone
  rw [hmost] at hcalls
  rw [← hcalls, ← hlength, ← delays_iff hbase hmax]
  have hdelays := h.delays
  constructor
  · intro hschedule i hi
    have hi' : i ∈ List.range waits.length := List.mem_range.mpr hi
    have hsame := hschedule.delays
    rw [← hlength, hdelays] at hsame
    refine ⟨List.map_inj_left.mp hsame i hi', ?_⟩
    obtain ⟨w, hw, hwait⟩ := List.mem_map.mp (hdelays ▸ List.mem_map_of_mem hi')
    exact hwait ▸ hschedule.nonneg w hw
  · intro hfits
    refine ⟨hcalls, hresult, ?_, fun w hw => ?_⟩
    · rw [hdelays, ← hlength]
      exact List.map_inj_left.mpr fun i hi => (hfits i (List.mem_range.mp hi)).1
    · obtain ⟨i, hi, hwait⟩ := List.mem_map.mp (hdelays ▸ List.mem_map_of_mem hw)
      exact hwait ▸ (hfits i (List.mem_range.mp hi)).2

/-- **The schedule of `retry.Do`.** A run is a row of calls with waits between them. If the context
ends during a wait, there is no call after it; if it never does, the schedule is kept exactly when
the delays fit. -/
theorem retryDo_onSchedule_iff {fn : Daemon α} {tr : List (Event watcherInterface)}
    (hbase : 0 ≤ opts.baseDelay) (hmax : opts.maxDelay < 2 ^ 63)
    (h : Runs (I := watcherInterface) (retryDo opts fn) tr r) :
    ∃ outs waits, Attempts fn outs waits tr ∧
      (∀ before after d, waits = before ++ (d, true) :: after →
        after = [] ∧ outs.length = before.length + 1 ∧ r = .error (.err .cancelled)) ∧
      ∀ outcome : ℕ → Except Stop α, outs = (List.range outs.length).map outcome →
        (∀ w ∈ waits, w.2 = false) →
          (OnSchedule opts outcome outs waits r ↔
            DelaysFit opts (callCount outcome (max 1 opts.maxAttempts).toNat - 1)) := by
  obtain ⟨outs, waits, hattempts, hretried⟩ := runs_retryDo h
  refine ⟨outs, waits, hattempts, ?_, fun outcome houtcome hnone => ?_⟩
  · rintro before after d rfl
    exact hretried.cancelled_last
  · exact hretried.onSchedule_iff hbase hmax houtcome hnone

end

/-! ### Samples -/

/-- Loading an account, as the client does it in an attempt. -/
def loadAttempt : Daemon Account := do orFail .rpc (← (WatcherCall.loadAccount []).await)

/-- An attempt that fails. -/
def failedLoad : Event watcherInterface := ⟨.loadAccount [], Except.error (α := Account) []⟩

/-- A wait during which the context does not end. -/
def waited (d : ℤ) : Event watcherInterface := ⟨.wait d, false⟩

/-- The default options, when the second attempt succeeds. -/
theorem onSchedule_default :
    ∃ outs waits outcome, Attempts loadAttempt outs waits
        [failedLoad, waited 150000000, ⟨.loadAccount [], .ok ⟨[], 1⟩⟩] ∧
      OnSchedule .default outcome outs waits (.ok ⟨[], 1⟩) := by
  have hrun : Runs (I := watcherInterface) (retryDo .default loadAttempt)
      [failedLoad, waited 150000000, ⟨.loadAccount [], .ok ⟨[], 1⟩⟩] (.ok ⟨[], 1⟩) :=
    .call (.call (.call .done))
  obtain ⟨outs, waits, hattempts, hcancelled, hschedule⟩ :=
    retryDo_onSchedule_iff (by decide) (by decide) hrun
  have hnone : ∀ w ∈ waits, w.2 = false := by
    rintro ⟨d, cancelled⟩ hw
    cases cancelled with
    | false => rfl
    | true =>
      obtain ⟨before, after, hsplit⟩ := List.mem_iff_append.mp hw
      exact absurd (hcancelled before after d hsplit).2.2 (by simp)
  refine ⟨outs, waits, fun i => outs.getD i (.ok ⟨[], 1⟩), hattempts, ?_⟩
  refine (hschedule _ ?_ hnone).mpr (delaysFit_of_lt (by decide) (by decide) _)
  refine List.ext_getElem (by simp) fun i hi _ => ?_
  simp [hi]

/-- **Waits that are not as scheduled.** Doubled once, a delay of `2 ^ 62` nanoseconds is negative;
and a first delay above the cap is waited in full. -/
theorem off_schedule :
    Runs (I := watcherInterface) (retryDo ⟨3, 2 ^ 62, 2 ^ 63 - 1⟩ loadAttempt)
        [failedLoad, waited (2 ^ 62), failedLoad, waited (-2 ^ 63), failedLoad]
        (.error (.err (.rpc []))) ∧
      scheduled ⟨3, 2 ^ 62, 2 ^ 63 - 1⟩ 1 = 2 ^ 63 - 1 ∧
      Runs (I := watcherInterface) (retryDo ⟨2, 600, 150⟩ loadAttempt)
        [failedLoad, waited 600, failedLoad] (.error (.err (.rpc []))) ∧
      scheduled ⟨2, 600, 150⟩ 0 = 150 := by
  refine ⟨?_, by decide, ?_, by decide⟩
  · have hdelay : nextDelay (2 ^ 63 - 1) (2 ^ 62) = -2 ^ 63 := by decide
    have hretry : Runs (I := watcherInterface) (retryLoop (2 ^ 63 - 1) loadAttempt 1 (-2 ^ 63))
        [failedLoad, waited (-2 ^ 63), failedLoad] (.error (.err (.rpc []))) :=
      .call (.call (.call .done))
    rw [← hdelay] at hretry
    exact .call (.call hretry)
  · exact .call (.call (.call .done))

end Watcher

end SlaSettle
