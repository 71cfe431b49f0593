import Mathlib.Data.Finset.Card
import Mathlib.Data.Finset.Dedup
import SlaSettle.Web.FetchProviderSlas

/-!
# Waiting for an SLA that was just created

`refreshAfterCreate()` of `useProviderSlas`: the list is read again until it has more SLAs than it
had, at most `INDEXING_RETRY_LIMIT` times by the timer. The indexer ingests on a schedule, so that
its first answers may be without the new SLA.

A run is one call, from the first render on, with the address unchanged. Loads end in any order
before the call and after it, and each answer contains those before. `Awaited` is what the call is
for: as long as the wait goes on there is a load or a timer, the timer fires at most
`INDEXING_RETRY_LIMIT` times, and the wait ends earlier only with an SLA in the list that did not
exist before. The first two hold in every run (`Rereads.goesOn`, `Rereads.le_limit`).

The wait ends when the list has more SLAs than `countRef`, the number that was rendered when the
call was made. `awaited_iff_countCovers` says when that is enough: `countRef` is short neither of
the list nor of the SLAs that existed, unless there is a new one already. Otherwise the SLAs that
existed are taken for growth (`not_awaited_after_failure`).
-/

namespace SlaSettle

namespace Web

open Effect

/-! ### A call and what follows it -/

/-- The SLAs a result is about. -/
def ProviderSlaResult.ids (result : ProviderSlaResult ProviderSlaView ProviderSlaFailure) :
    List ℤ :=
  result.slas.map ProviderSlaView.slaId ++ result.failures.map ProviderSlaFailure.slaId

/-- The hook with the SLAs of a provider. -/
abbrev SlaScene (Address : Type) : Type := ProviderScene Address ProviderSlaView ProviderSlaFailure

variable {Address : Type}

/-- One thing that happens while the address stays the same. An answer has no SLA twice, and it has
those of the answers before. -/
inductive LoadStep [DecidableEq Address] (address : Address) :
    SlaScene Address → SlaScene Address → Prop
  | render {s : SlaScene Address} (flushed : s.effectsDue = false) :
      LoadStep address s (s.render (some address))
  | runEffects {s : SlaScene Address} (due : s.effectsDue = true) : LoadStep address s s.runEffects
  | refresh {s : SlaScene Address} : LoadStep address s s.refresh
  | succeed {s : SlaScene Address} {fetch : ProviderFetch Address}
      {result : ProviderSlaResult ProviderSlaView ProviderSlaFailure}
      {l₁ l₂ : List (ProviderFetch Address)} (inFlight : s.inFlight = l₁ ++ fetch :: l₂)
      (distinct : result.ids.Nodup) (growing : ∀ answer ∈ s.returned, answer.2.ids ⊆ result.ids) :
      LoadStep address s ({ s with inFlight := l₁ ++ l₂ }.succeed fetch result)
  | fail {s : SlaScene Address} {fetch : ProviderFetch Address} {message : String}
      {l₁ l₂ : List (ProviderFetch Address)} (inFlight : s.inFlight = l₁ ++ fetch :: l₂) :
      LoadStep address s ({ s with inFlight := l₁ ++ l₂ }.fail fetch message)

/-- The hook at the time of the call. -/
def BeforeCreate [DecidableEq Address] (address : Address) (s : SlaScene Address) : Prop :=
  Relation.ReflTransGen (LoadStep address) (.mount (some address)) s

/-- What follows the call, with the number of times the timer has fired. It is set for five seconds,
and when it fires the hook has rendered what was set the time before. -/
inductive Rereads [DecidableEq Address] (address : Address) (called : SlaScene Address) :
    ℕ → SlaScene Address → Prop
  | start : Rereads address called 0 called
  | step {n : ℕ} {s s' : SlaScene Address} (before : Rereads address called n s)
      (hstep : LoadStep address s s') : Rereads address called n s'
  | retry {n count : ℕ} {s : SlaScene Address} {awaitingMoreThan : Option ℕ} {loading : Bool}
      (before : Rereads address called n s) (set : s.timer = true)
      (seen : s.retryDeps = some (awaitingMoreThan, count, s.retries, loading)) :
      Rereads address called (n + 1) s.retry

section

variable [DecidableEq Address] {address : Address} {n : ℕ} {s s' : SlaScene Address}

theorem LoadStep.providerStep (h : LoadStep address s s') :
    ProviderStep (fun _ => True) s s' := by
  cases h with
  | render flushed => exact .render flushed
  | runEffects due => exact .runEffects due trivial
  | refresh => exact .refresh
  | succeed inFlight _ _ => exact .succeed inFlight
  | fail inFlight => exact .fail inFlight

/-- What follows a call is a run of the hook. -/
theorem Rereads.reachable (h : Rereads address s.refreshAfterCreate n s')
    (hbefore : BeforeCreate address s) : ProviderReachable (fun _ => True) s' := by
  have hrun : Relation.ReflTransGen (ProviderStep fun _ => True) (.mount (some address)) s :=
    Relation.ReflTransGen.mono (fun _ _ => LoadStep.providerStep) _ _ hbefore
  refine ⟨some address, ?_⟩
  induction h with
  | start => exact hrun.tail .refreshAfterCreate
  | step _ hstep ih => exact ih.tail hstep.providerStep
  | retry _ set _ ih => exact ih.tail (.retry set)

end

/-- Everything that was set has been rendered, and the effects have run. -/
structure Rendered (s : SlaScene Address) : Prop where
  flushed : s.effectsDue = false
  state : s.rendered.state = s.state
  refreshKey : s.rendered.refreshKey = s.refreshKey
  awaitingMoreThan : s.rendered.awaitingMoreThan = s.awaitingMoreThan
  retries : s.rendered.retries = s.retries

/-- There is an SLA that did not exist before the create. -/
def HasNew (existed : Finset ℤ) (result : ProviderSlaResult ProviderSlaView ProviderSlaFailure) :
    Prop :=
  ∃ id ∈ result.ids, id ∉ existed

/-- **The new SLA is waited for.** -/
structure Awaited [DecidableEq Address] (address : Address) (existed : Finset ℤ)
    (called : SlaScene Address) : Prop where
  starts : called.awaitingMoreThan.isSome
  atMost {n : ℕ} {s : SlaScene Address} (hrun : Rereads address called n s) :
    n ≤ INDEXING_RETRY_LIMIT
  /-- A load or a timer, as long as the wait goes on. -/
  continues {n : ℕ} {s : SlaScene Address} (hrun : Rereads address called n s)
    (hrendered : Rendered s) (hawaiting : s.awaitingMoreThan.isSome) :
    s.timer = true ∨ ∃ fetch ∈ s.inFlight, fetch.run = s.run
  /-- What is listed when the wait is ended. -/
  stops {n : ℕ} {s : SlaScene Address} (hrun : Rereads address called n s)
    (hdue : s.effectsDue = true) (hawaiting : s.awaitingMoreThan.isSome)
    (hended : s.runEffects.awaitingMoreThan = none) :
    n = INDEXING_RETRY_LIMIT ∨ HasNew existed s.rendered.state.toProviderSlaResult

/-- The count at hand when the call is made is short neither of the list nor of the SLAs that
existed, unless there is a new one. -/
structure CountCovers (existed : Finset ℤ) (s : SlaScene Address) : Prop where
  listed : HasNew existed s.state.toProviderSlaResult ∨ s.state.count ≤ s.countRef
  answered : (∃ answer ∈ s.returned, HasNew existed answer.2) ∨ existed.card ≤ s.countRef

/-! ### What the effects do -/

namespace ProviderScene

variable {address : Address} {c : ℕ} {s s' : SlaScene Address}

theorem retryDeps_render (s : SlaScene Address) (address : Option Address) :
    (s.render address).rendered.retryDeps =
      (s.awaitingMoreThan, s.state.count, s.retries, s.state.loading) := rfl

/-- What the retrying effect does. -/
inductive Retrying (s : SlaScene Address) : SlaScene Address → Prop
  | unchanged (hdeps : s.retryDeps = some s.rendered.retryDeps) : Retrying s s
  | idle (hidle : s.rendered.awaitingMoreThan = none ∨ s.rendered.state.loading = true) :
      Retrying s { s with retryDeps := some s.rendered.retryDeps, timer := false }
  | ended {c : ℕ} (hawaiting : s.rendered.awaitingMoreThan = some c)
      (hloading : s.rendered.state.loading = false)
      (hended : c < s.rendered.state.count ∨ INDEXING_RETRY_LIMIT ≤ s.rendered.retries) :
      Retrying s
        { s with retryDeps := some s.rendered.retryDeps, timer := false, awaitingMoreThan := none }
  | armed {c : ℕ} (hawaiting : s.rendered.awaitingMoreThan = some c)
      (hcount : s.rendered.state.count ≤ c)
      (hretries : s.rendered.retries < INDEXING_RETRY_LIMIT) :
      Retrying s { s with retryDeps := some s.rendered.retryDeps, timer := true }

theorem retrying_retryEffect (s : SlaScene Address) : Retrying s s.retryEffect := by
  rw [retryEffect]
  by_cases hdeps : s.retryDeps = some s.rendered.retryDeps
  · rw [if_pos hdeps]
    exact .unchanged hdeps
  rw [if_neg hdeps]
  dsimp only
  cases hawaiting : s.rendered.awaitingMoreThan with
  | none => exact .idle (.inl hawaiting)
  | some c =>
    cases hloading : s.rendered.state.loading with
    | true => exact .idle (.inr hloading)
    | false =>
      dsimp only
      split_ifs with hended
      · exact .ended hawaiting hloading hended
      · obtain ⟨hcount, hretries⟩ := not_or.mp hended
        exact .armed hawaiting (Nat.le_of_not_lt hcount) (Nat.lt_of_not_le hretries)

theorem Retrying.ends (h : Retrying s s') (hdeps : s.retryDeps ≠ some s.rendered.retryDeps)
    (hawaiting : s.rendered.awaitingMoreThan = some c)
    (hloading : s.rendered.state.loading = false) (hcount : c < s.rendered.state.count) :
    s'.awaitingMoreThan = none := by
  cases h with
  | unchanged hsame => exact absurd hsame hdeps
  | idle hidle =>
    rcases hidle with hnone | hloads
    · exact absurd (hnone.symm.trans hawaiting) nofun
    · exact absurd (hloads.symm.trans hloading) nofun
  | ended _ _ _ => rfl
  | armed hawaiting' hcount' _ =>
    obtain rfl : _ = c := Option.some.inj (hawaiting'.symm.trans hawaiting)
    exact absurd hcount' (Nat.not_le_of_lt hcount)

variable [DecidableEq Address]

/-- The fetching effect, with an address. -/
theorem fetchEffect_of_address (haddress : s.rendered.address = some address) :
    s.fetchEffect =
      if s.fetchDeps = some (some address, s.rendered.refreshKey) then s
      else
        { s with
          fetchDeps := some (some address, s.rendered.refreshKey)
          run := s.run + 1
          state := s.state.startLoad
          inFlight := ⟨s.run + 1, address⟩ :: s.inFlight } := by
  rw [fetchEffect, haddress]
  rfl

/-- The fetching effect, with a key that it has not run for. -/
theorem fetchEffect_of_key (haddress : s.rendered.address = some address)
    (hkey : ∀ deps ∈ s.fetchDeps, deps.2 < s.rendered.refreshKey) :
    s.fetchEffect =
      { s with
        fetchDeps := some (some address, s.rendered.refreshKey)
        run := s.run + 1
        state := s.state.startLoad
        inFlight := ⟨s.run + 1, address⟩ :: s.inFlight } := by
  rw [fetchEffect_of_address haddress]
  exact if_neg fun hdeps => Nat.lt_irrefl _ (hkey _ hdeps)

theorem rendered_fetchEffect (haddress : s.rendered.address = some address) :
    s.countEffect.fetchEffect.rendered = s.rendered := by
  rw [fetchEffect_of_address (s := s.countEffect) haddress]
  split_ifs <;> rfl

theorem awaitingMoreThan_fetchEffect (haddress : s.rendered.address = some address) :
    s.countEffect.fetchEffect.awaitingMoreThan = s.awaitingMoreThan := by
  rw [fetchEffect_of_address (s := s.countEffect) haddress]
  split_ifs <;> rfl

theorem retryDeps_fetchEffect (haddress : s.rendered.address = some address) :
    s.countEffect.fetchEffect.retryDeps = s.retryDeps := by
  rw [fetchEffect_of_address (s := s.countEffect) haddress]
  split_ifs <;> rfl

end ProviderScene

/-! ### What holds throughout -/

/-- What holds before the call and after it. -/
structure ProviderScene.Loads (address : Address) (s : SlaScene Address) : Prop where
  address : s.rendered.address = some address
  exposed : s.rendered.refreshKey ≤ s.refreshKey
  fetched : ∀ deps ∈ s.fetchDeps, deps.2 ≤ s.refreshKey
  loading : s.state.loading = true → ∃ fetch ∈ s.inFlight, fetch.run = s.run
  seen : s.effectsDue = false → s.retryDeps = some s.rendered.retryDeps
  listed : ∀ id ∈ s.state.ids, ∃ answer ∈ s.returned, id ∈ answer.2.ids

namespace ProviderScene.Loads

variable {address : Address} {s s' : SlaScene Address}

theorem mount : Loads address (.mount (some address)) where
  address := rfl
  exposed := Nat.le_refl 0
  fetched := nofun
  loading := nofun
  seen := nofun
  listed _ hid := absurd hid List.not_mem_nil

theorem render (h : s.Loads address) : (s.render (some address)).Loads address :=
  { h with
    address := rfl
    exposed := Nat.le_refl s.refreshKey
    seen := nofun }

theorem retrying (h : s.Loads address) (hretry : Retrying s s') :
    s'.Loads address ∧ s'.retryDeps = some s'.rendered.retryDeps := by
  cases hretry with
  | unchanged hdeps => exact ⟨h, hdeps⟩
  | idle _ => exact ⟨{ h with seen := fun _ => rfl }, rfl⟩
  | ended _ _ _ => exact ⟨{ h with seen := fun _ => rfl }, rfl⟩
  | armed _ _ _ => exact ⟨{ h with seen := fun _ => rfl }, rfl⟩

/-- Another key. -/
theorem refresh (h : s.Loads address) : s.refresh.Loads address :=
  { h with
    exposed := Nat.le_succ_of_le h.exposed
    fetched := fun deps hdeps => Nat.le_succ_of_le (h.fetched deps hdeps) }

theorem retry (h : s.Loads address) : s.retry.Loads address := { h.refresh with }

theorem refreshAfterCreate (h : s.Loads address) : s.refreshAfterCreate.Loads address :=
  { h.refresh with }

/-- A fetch that has been cancelled is over: the current one is still in flight. -/
theorem dropFetch (h : s.Loads address) {fetch : ProviderFetch Address}
    {l₁ l₂ : List (ProviderFetch Address)} (hinFlight : s.inFlight = l₁ ++ fetch :: l₂)
    (hrun : fetch.run ≠ s.run) : { s with inFlight := l₁ ++ l₂ }.Loads address := by
  refine { h with loading := fun hloading => ?_ }
  obtain ⟨current, hcurrent, hcurrentRun⟩ := h.loading hloading
  rw [hinFlight, List.mem_append, List.mem_cons] at hcurrent
  rcases hcurrent with hcurrent | rfl | hcurrent
  · exact ⟨current, List.mem_append_left l₂ hcurrent, hcurrentRun⟩
  · exact absurd hcurrentRun hrun
  · exact ⟨current, List.mem_append_right l₁ hcurrent, hcurrentRun⟩

theorem succeed (h : s.Loads address) {fetch : ProviderFetch Address}
    {l₁ l₂ : List (ProviderFetch Address)} (hinFlight : s.inFlight = l₁ ++ fetch :: l₂)
    (result : ProviderSlaResult ProviderSlaView ProviderSlaFailure) :
    ({ s with inFlight := l₁ ++ l₂ }.succeed fetch result).Loads address := by
  rw [ProviderScene.succeed]
  dsimp only
  split_ifs with hrun
  · exact { h with
      loading := fun hloading => absurd hloading Bool.false_ne_true
      listed := fun id hid => ⟨_, List.mem_cons_self, hid⟩ }
  · refine { h.dropFetch hinFlight hrun with listed := fun id hid => ?_ }
    obtain ⟨answer, hanswer, hlisted⟩ := h.listed id hid
    exact ⟨answer, List.mem_cons_of_mem _ hanswer, hlisted⟩

theorem fail (h : s.Loads address) {fetch : ProviderFetch Address}
    {l₁ l₂ : List (ProviderFetch Address)} (hinFlight : s.inFlight = l₁ ++ fetch :: l₂)
    (message : String) : ({ s with inFlight := l₁ ++ l₂ }.fail fetch message).Loads address := by
  rw [ProviderScene.fail]
  dsimp only
  split_ifs with hrun
  · exact { h with loading := fun hloading => absurd hloading Bool.false_ne_true }
  · exact h.dropFetch hinFlight hrun

variable [DecidableEq Address]

/-- The fetch that the effect starts is the current one. -/
theorem fetchEffect (h : s.Loads address) : s.fetchEffect.Loads address := by
  rw [fetchEffect_of_address h.address]
  split_ifs
  · exact h
  · refine { h with
      fetched := fun deps hdeps => ?_
      loading := fun _ => ⟨_, List.mem_cons_self, rfl⟩ }
    obtain rfl : (some address, s.rendered.refreshKey) = deps := Option.some.inj hdeps
    exact h.exposed

/-- The dependencies of the retrying effect are those of the render it has run for. -/
theorem runEffects (h : s.Loads address) : s.runEffects.Loads address := by
  have hcount : s.countEffect.Loads address := { h with }
  obtain ⟨hretry, hdeps⟩ := hcount.fetchEffect.retrying (retrying_retryEffect _)
  exact { hretry with seen := fun _ => hdeps }

theorem step (h : s.Loads address) (hstep : LoadStep address s s') : s'.Loads address := by
  cases hstep with
  | render _ => exact h.render
  | runEffects _ => exact h.runEffects
  | refresh => exact h.refresh
  | succeed inFlight _ _ => exact h.succeed inFlight _
  | fail inFlight => exact h.fail inFlight _

end ProviderScene.Loads

/-! ### Before the call -/

/-- Nothing is waited for. -/
structure ProviderScene.Idle (s : SlaScene Address) : Prop where
  awaitingMoreThan : s.awaitingMoreThan = none
  exposed : s.rendered.awaitingMoreThan = none
  retries : s.retries = 0 ∧ s.rendered.retries = 0
  timer : s.timer = false
  retryDeps : ∀ deps ∈ s.retryDeps, deps.1 = none

namespace ProviderScene.Idle

variable {address : Address} {s s' : SlaScene Address}

theorem retrying (h : s.Idle) (hretry : Retrying s s') : s'.Idle := by
  cases hretry with
  | unchanged _ => exact h
  | idle _ =>
    refine { h with timer := rfl, retryDeps := fun deps hdeps => ?_ }
    obtain rfl : s.rendered.retryDeps = deps := Option.some.inj hdeps
    exact h.exposed
  | ended hawaiting _ _ => exact absurd (h.exposed.symm.trans hawaiting) nofun
  | armed hawaiting _ _ => exact absurd (h.exposed.symm.trans hawaiting) nofun

variable [DecidableEq Address]

theorem runEffects (h : s.Idle) (hloads : s.Loads address) : s.runEffects.Idle := by
  have hfetch : s.countEffect.fetchEffect.Idle := by
    rw [fetchEffect_of_address (s := s.countEffect) hloads.address]
    split_ifs
    · exact { h with }
    · exact { h with }
  exact { hfetch.retrying (retrying_retryEffect _) with }

theorem step (h : s.Idle) (hloads : s.Loads address) (hstep : LoadStep address s s') :
    s'.Idle := by
  cases hstep with
  | render _ =>
    exact { h with
      exposed := h.awaitingMoreThan
      retries := ⟨h.retries.1, h.retries.1⟩ }
  | runEffects _ => exact h.runEffects hloads
  | refresh => exact { h with }
  | succeed _ _ _ =>
    rw [ProviderScene.succeed]
    dsimp only
    split_ifs
    · exact { h with }
    · exact { h with }
  | fail _ =>
    rw [ProviderScene.fail]
    dsimp only
    split_ifs
    · exact { h with }
    · exact { h with }

end ProviderScene.Idle

/-- What holds when the call is made. -/
theorem BeforeCreate.loads_idle [DecidableEq Address] {address : Address} {s : SlaScene Address}
    (h : BeforeCreate address s) : s.Loads address ∧ s.Idle := by
  induction h with
  | refl => exact ⟨.mount, rfl, rfl, ⟨rfl, rfl⟩, rfl, nofun⟩
  | tail _ hstep ih =>
    obtain ⟨hloads, hidle⟩ := ih
    exact ⟨hloads.step hstep, hidle.step hloads hstep⟩

/-! ### After the call -/

/-- What holds of the timer while more than `c` SLAs are waited for, and after that. It has fired
`n` times. -/
structure ProviderScene.Waits (c n : ℕ) (s : SlaScene Address) : Prop where
  awaitingMoreThan : ∀ k ∈ s.awaitingMoreThan, k = c
  exposed : ∀ k ∈ s.rendered.awaitingMoreThan, k = c
  retries : s.retries = n
  spent : n ≤ INDEXING_RETRY_LIMIT
  exposedRetries : s.rendered.retries ≤ n
  armed : s.timer = true → ∀ deps ∈ s.retryDeps, deps.2.2.1 < INDEXING_RETRY_LIMIT
  /-- Once the effect has run for a list that is not loading, there is the timer, or it has
  fired, or the wait is over. -/
  resumes {k count retries : ℕ} (hdeps : s.retryDeps = some (some k, count, retries, false)) :
    s.timer = true ∨ retries < n ∨ s.awaitingMoreThan = none

namespace ProviderScene.Waits

variable {address : Address} {c n : ℕ} {s s' : SlaScene Address}

theorem refreshAfterCreate (hidle : s.Idle) : s.refreshAfterCreate.Waits s.countRef 0 where
  awaitingMoreThan _ hk := (Option.some.inj hk).symm
  exposed _ hk := absurd (hidle.exposed.symm.trans hk) nofun
  retries := rfl
  spent := Nat.zero_le _
  exposedRetries := Nat.le_of_eq hidle.retries.2
  armed htimer := absurd (hidle.timer.symm.trans htimer) nofun
  resumes hdeps := absurd (hidle.retryDeps _ hdeps) nofun

theorem render (h : s.Waits c n) (address : Option Address) : (s.render address).Waits c n :=
  { h with
    exposed := h.awaitingMoreThan
    exposedRetries := Nat.le_of_eq h.retries }

theorem retrying (h : s.Waits c n) (hretry : Retrying s s') : s'.Waits c n := by
  cases hretry with
  | unchanged _ => exact h
  | idle hidle =>
    refine { h with armed := nofun, resumes := fun hdeps => ?_ }
    -- an effect that did nothing had a list that was loading, or nothing to wait for
    have hrun : s.rendered.retryDeps = (some _, _, _, false) := Option.some.inj hdeps
    have hawaiting : s.rendered.awaitingMoreThan = some _ := congrArg Prod.fst hrun
    have hloading : s.rendered.state.loading = false := congrArg (·.2.2.2) hrun
    rcases hidle with hnone | hloads
    · exact absurd (hnone.symm.trans hawaiting) nofun
    · exact absurd (hloads.symm.trans hloading) nofun
  | ended _ _ _ =>
    exact { h with
      awaitingMoreThan := nofun
      armed := nofun
      resumes := fun _ => .inr (.inr rfl) }
  | armed _ _ hretries =>
    refine { h with armed := fun _ deps hdeps => ?_, resumes := fun _ => .inl rfl }
    obtain rfl : s.rendered.retryDeps = deps := Option.some.inj hdeps
    exact hretries

/-- The timer fires: it was set with retries left. -/
theorem retry (h : s.Waits c n) {awaitingMoreThan : Option ℕ} {count : ℕ} {loading : Bool}
    (hset : s.timer = true)
    (hseen : s.retryDeps = some (awaitingMoreThan, count, s.retries, loading)) :
    s.retry.Waits c (n + 1) := by
  have hspent : s.retries < INDEXING_RETRY_LIMIT := h.armed hset _ hseen
  rw [h.retries] at hspent
  refine { h with
    retries := congrArg (· + 1) h.retries
    spent := hspent
    exposedRetries := Nat.le_succ_of_le h.exposedRetries
    armed := nofun
    resumes := fun hdeps => ?_ }
  have hretries : s.retries = _ := congrArg (·.2.2.1) (Option.some.inj (hseen.symm.trans hdeps))
  exact .inr (.inl (Nat.lt_succ_of_le (Nat.le_of_eq (hretries.symm.trans h.retries))))

/-- With everything rendered, the list is loading or the timer is set. -/
theorem goesOn (h : s.Waits c n) (hloads : s.Loads address) (hrendered : Rendered s)
    (hawaiting : s.awaitingMoreThan.isSome) :
    s.timer = true ∨ ∃ fetch ∈ s.inFlight, fetch.run = s.run := by
  obtain ⟨k, hk⟩ := Option.isSome_iff_exists.mp hawaiting
  cases hloading : s.state.loading with
  | true => exact .inr (hloads.loading hloading)
  | false =>
    have hdeps : s.retryDeps = some (some k, s.state.count, s.retries, false) := by
      rw [hloads.seen hrendered.flushed, ProviderRender.retryDeps, hrendered.state,
        hrendered.awaitingMoreThan, hrendered.retries, hk, hloading]
    rcases h.resumes hdeps with htimer | hspent | hnone
    · exact .inl htimer
    · exact absurd h.retries (Nat.ne_of_lt hspent)
    · exact absurd (hnone.symm.trans hk) nofun

variable [DecidableEq Address]

theorem fetchEffect (h : s.Waits c n) (hloads : s.Loads address) :
    s.countEffect.fetchEffect.Waits c n := by
  rw [fetchEffect_of_address (s := s.countEffect) hloads.address]
  split_ifs
  · exact { h with }
  · exact { h with }

theorem runEffects (h : s.Waits c n) (hloads : s.Loads address) : s.runEffects.Waits c n :=
  { (h.fetchEffect hloads).retrying (retrying_retryEffect _) with }

theorem step (h : s.Waits c n) (hloads : s.Loads address) (hstep : LoadStep address s s') :
    s'.Waits c n := by
  cases hstep with
  | render _ => exact h.render _
  | runEffects _ => exact h.runEffects hloads
  | refresh => exact { h with }
  | succeed _ _ _ =>
    rw [ProviderScene.succeed]
    dsimp only
    split_ifs
    · exact { h with }
    · exact { h with }
  | fail _ =>
    rw [ProviderScene.fail]
    dsimp only
    split_ifs
    · exact { h with }
    · exact { h with }

end ProviderScene.Waits

section

variable [DecidableEq Address] {address : Address} {n : ℕ} {s s' : SlaScene Address}

theorem Rereads.loads_waits (h : Rereads address s.refreshAfterCreate n s')
    (hbefore : BeforeCreate address s) : s'.Loads address ∧ s'.Waits s.countRef n := by
  obtain ⟨hloads, hidle⟩ := hbefore.loads_idle
  induction h with
  | start => exact ⟨hloads.refreshAfterCreate, .refreshAfterCreate hidle⟩
  | step _ hstep ih => exact ⟨ih.1.step hstep, ih.2.step ih.1 hstep⟩
  | retry _ set seen ih => exact ⟨ih.1.retry, ih.2.retry set seen⟩

/-- However the loads end, the timer fires at most `INDEXING_RETRY_LIMIT` times. -/
theorem Rereads.le_limit (h : Rereads address s.refreshAfterCreate n s')
    (hbefore : BeforeCreate address s) : n ≤ INDEXING_RETRY_LIMIT :=
  (h.loads_waits hbefore).2.spent

/-- However the loads end, a wait that is not over goes on. -/
theorem Rereads.goesOn (h : Rereads address s.refreshAfterCreate n s')
    (hbefore : BeforeCreate address s) (hrendered : Rendered s')
    (hawaiting : s'.awaitingMoreThan.isSome) :
    s'.timer = true ∨ ∃ fetch ∈ s'.inFlight, fetch.run = s'.run := by
  obtain ⟨hloads, hwaits⟩ := h.loads_waits hbefore
  exact hwaits.goesOn hloads hrendered hawaiting

end

/-! ### When the count is enough -/

/-- More SLAs than `c` are listed only with a new one. -/
def GrowsNew (existed : Finset ℤ) (c : ℕ)
    (result : ProviderSlaResult ProviderSlaView ProviderSlaFailure) : Prop :=
  HasNew existed result ∨ result.ids.length ≤ c

theorem length_ids (state : ProviderSlasState ProviderSlaView ProviderSlaFailure) :
    state.ids.length = state.count := by
  rw [ProviderSlaResult.ids, List.length_append, List.length_map, List.length_map]
  rfl

/-- What is answered once a new SLA has been, or when no more than `c` existed. -/
theorem growsNew_answer {existed : Finset ℤ} {c : ℕ}
    {result : ProviderSlaResult ProviderSlaView ProviderSlaFailure}
    {returned : List (Address × ProviderSlaResult ProviderSlaView ProviderSlaFailure)}
    (hdistinct : result.ids.Nodup) (hgrowing : ∀ answer ∈ returned, answer.2.ids ⊆ result.ids)
    (hanswered : (∃ answer ∈ returned, HasNew existed answer.2) ∨ existed.card ≤ c) :
    GrowsNew existed c result := by
  by_cases hnew : HasNew existed result
  · exact .inl hnew
  rcases hanswered with ⟨answer, hanswer, id, hid, hfresh⟩ | hcard
  · exact .inl ⟨id, hgrowing answer hanswer hid, hfresh⟩
  · -- distinct SLAs all of which existed
    have hsub : result.ids.toFinset ⊆ existed := by
      intro id hid
      by_contra hfresh
      exact hnew ⟨id, List.mem_toFinset.mp hid, hfresh⟩
    right
    calc result.ids.length
      _ = result.ids.toFinset.card := (List.toFinset_card_of_nodup hdistinct).symm
      _ ≤ existed.card := Finset.card_le_card hsub
      _ ≤ c := hcard

/-- What holds of the list while more than `c` SLAs are waited for, when `c` was enough. -/
structure ProviderScene.Grows (existed : Finset ℤ) (c : ℕ) (s : SlaScene Address) : Prop where
  listed : GrowsNew existed c s.state.toProviderSlaResult
  exposed : s.rendered.awaitingMoreThan.isSome →
    GrowsNew existed c s.rendered.state.toProviderSlaResult
  answered : (∃ answer ∈ s.returned, HasNew existed answer.2) ∨ existed.card ≤ c

namespace ProviderScene.Grows

variable {address : Address} {existed : Finset ℤ} {c n : ℕ} {s s' : SlaScene Address}

theorem refreshAfterCreate (hidle : s.Idle) (hcovers : CountCovers existed s) :
    s.refreshAfterCreate.Grows existed s.countRef where
  listed := hcovers.listed.imp_right fun hcount => (length_ids s.state).trans_le hcount
  exposed hsome := absurd hidle.exposed (Option.isSome_iff_ne_none.mp hsome)
  answered := hcovers.answered

theorem retrying (h : s.Grows existed c) (hretry : Retrying s s') : s'.Grows existed c := by
  cases hretry with
  | unchanged _ => exact h
  | idle _ => exact { h with }
  | ended _ _ _ => exact { h with }
  | armed _ _ _ => exact { h with }

theorem succeed (h : s.Grows existed c) {fetch : ProviderFetch Address}
    {result : ProviderSlaResult ProviderSlaView ProviderSlaFailure}
    {l : List (ProviderFetch Address)} (hdistinct : result.ids.Nodup)
    (hgrowing : ∀ answer ∈ s.returned, answer.2.ids ⊆ result.ids) :
    ({ s with inFlight := l }.succeed fetch result).Grows existed c := by
  have hanswered : (∃ answer ∈ (fetch.address, result) :: s.returned, HasNew existed answer.2) ∨
      existed.card ≤ c :=
    h.answered.imp_left fun ⟨answer, hanswer, hnew⟩ =>
      ⟨answer, List.mem_cons_of_mem _ hanswer, hnew⟩
  rw [ProviderScene.succeed]
  dsimp only
  split_ifs
  · exact { h with
      listed := growsNew_answer hdistinct hgrowing h.answered
      answered := hanswered }
  · exact { h with answered := hanswered }

/-- The wait is ended for the list that the effect looks at. -/
theorem ended (h : s.Grows existed c) (hwaits : s.Waits c n) (hretry : Retrying s s')
    (hawaiting : s.awaitingMoreThan.isSome) (hended : s'.awaitingMoreThan = none) :
    n = INDEXING_RETRY_LIMIT ∨ HasNew existed s.rendered.state.toProviderSlaResult := by
  have hgoesOn : s.awaitingMoreThan ≠ none := Option.isSome_iff_ne_none.mp hawaiting
  cases hretry with
  | unchanged _ => exact absurd hended hgoesOn
  | idle _ => exact absurd hended hgoesOn
  | armed _ _ _ => exact absurd hended hgoesOn
  | ended hshown _ hwhy =>
    -- the effect looked at what was rendered, which may be behind
    obtain rfl := hwaits.exposed _ hshown
    rcases hwhy with hcount | hretries
    · rw [← length_ids] at hcount
      have hlisted := h.exposed (Option.isSome_of_eq_some hshown)
      exact .inr (hlisted.resolve_right (Nat.not_le_of_lt hcount))
    · exact .inl (Nat.le_antisymm hwaits.spent (hretries.trans hwaits.exposedRetries))

variable [DecidableEq Address]

/-- A fetch that starts keeps the list. -/
theorem fetchEffect (h : s.Grows existed c) (hloads : s.Loads address) :
    s.countEffect.fetchEffect.Grows existed c := by
  rw [fetchEffect_of_address (s := s.countEffect) hloads.address]
  split_ifs
  · exact { h with }
  · exact { h with }

theorem step (h : s.Grows existed c) (hloads : s.Loads address) (hstep : LoadStep address s s') :
    s'.Grows existed c := by
  cases hstep with
  | render _ => exact { h with exposed := fun _ => h.listed }
  | runEffects _ => exact { (h.fetchEffect hloads).retrying (retrying_retryEffect _) with }
  | refresh => exact { h with }
  | succeed _ distinct growing => exact h.succeed distinct growing
  | fail _ =>
    rw [ProviderScene.fail]
    dsimp only
    split_ifs
    · exact { h with }
    · exact { h with }

end ProviderScene.Grows

section

variable [DecidableEq Address] {address : Address} {existed : Finset ℤ} {n : ℕ}
  {s s' : SlaScene Address}

theorem Rereads.grows (h : Rereads address s.refreshAfterCreate n s')
    (hbefore : BeforeCreate address s) (hcovers : CountCovers existed s) :
    s'.Grows existed s.countRef := by
  induction h with
  | start => exact .refreshAfterCreate hbefore.loads_idle.2 hcovers
  | step hrun hstep ih => exact ih.step (hrun.loads_waits hbefore).1 hstep
  | retry _ _ _ ih => exact { ih with }

/-- A count that covers what existed is enough. -/
theorem CountCovers.awaited (h : CountCovers existed s) (hbefore : BeforeCreate address s) :
    Awaited address existed s.refreshAfterCreate := by
  refine ⟨rfl, fun hrun => hrun.le_limit hbefore, fun hrun => hrun.goesOn hbefore,
    fun hrun _ hawaiting hended => ?_⟩
  obtain ⟨hloads, hwaits⟩ := hrun.loads_waits hbefore
  have hgrows := (hrun.grows hbefore h).fetchEffect hloads
  have hshown := hgrows.ended (hwaits.fetchEffect hloads) (ProviderScene.retrying_retryEffect _)
  rw [ProviderScene.awaitingMoreThan_fetchEffect hloads.address,
    ProviderScene.rendered_fetchEffect hloads.address] at hshown
  exact hshown hawaiting hended

end

/-! ### When it is not -/

namespace ProviderScene

variable {address : Address} {c : ℕ} {s s₀ s' : SlaScene Address}

/-- The call has been made, and no render has seen it. -/
structure Called (s₀ s : SlaScene Address) : Prop where
  awaitingMoreThan : s.awaitingMoreThan = some s₀.countRef
  exposed : s.rendered.awaitingMoreThan = none
  retries : s.retries = 0
  exposedKey : s.rendered.refreshKey < s.refreshKey
  fetched : ∀ deps ∈ s.fetchDeps, deps.2 < s.refreshKey
  retryDeps : ∀ deps ∈ s.retryDeps, deps.1 = none
  listed : s.state.toProviderSlaResult = s₀.state.toProviderSlaResult
  returned : s.returned = s₀.returned

theorem called_refreshAfterCreate (hloads : s₀.Loads address) (hidle : s₀.Idle) :
    Called s₀ s₀.refreshAfterCreate where
  awaitingMoreThan := rfl
  exposed := hidle.exposed
  retries := rfl
  exposedKey := Nat.lt_succ_of_le hloads.exposed
  fetched deps hdeps := Nat.lt_succ_of_le (hloads.fetched deps hdeps)
  retryDeps := hidle.retryDeps
  listed := rfl
  returned := rfl

variable [DecidableEq Address]

/-- Effects that were due when the call was made. -/
theorem Called.runEffects (h : Called s₀ s) (haddress : s.rendered.address = some address) :
    Called s₀ s.runEffects := by
  have hfetch : Called s₀ s.countEffect.fetchEffect := by
    rw [fetchEffect_of_address (s := s.countEffect) haddress]
    split_ifs
    · exact { h with }
    · refine { h with fetched := fun deps hdeps => ?_ }
      obtain rfl : (some address, s.rendered.refreshKey) = deps := Option.some.inj hdeps
      exact h.exposedKey
  have hretry := retrying_retryEffect s.countEffect.fetchEffect
  rw [ProviderScene.runEffects]
  generalize s.countEffect.fetchEffect.retryEffect = s' at hretry
  cases hretry with
  | unchanged _ => exact { hfetch with }
  | idle _ =>
    refine { hfetch with retryDeps := fun deps hdeps => ?_ }
    obtain rfl : s.countEffect.fetchEffect.rendered.retryDeps = deps := Option.some.inj hdeps
    exact hfetch.exposed
  | ended hawaiting _ _ => exact absurd (hfetch.exposed.symm.trans hawaiting) nofun
  | armed hawaiting _ _ => exact absurd (hfetch.exposed.symm.trans hawaiting) nofun

end ProviderScene

variable [DecidableEq Address]

/-- The effects that were due have run. -/
theorem exists_called {address : Address} {s₀ : SlaScene Address} (hloads : s₀.Loads address)
    (hidle : s₀.Idle) : ∃ s, Rereads address s₀.refreshAfterCreate 0 s ∧ s.effectsDue = false ∧
      ProviderScene.Called s₀ s := by
  have hcalled := ProviderScene.called_refreshAfterCreate hloads hidle
  cases hdue : s₀.effectsDue with
  | false => exact ⟨_, .start, hdue, hcalled⟩
  | true => exact ⟨_, .step .start (.runEffects hdue), rfl, hcalled.runEffects hloads.address⟩

/-- The call has been rendered, and its load is under way. -/
structure ProviderScene.Asked (address : Address) (s₀ s : SlaScene Address) : Prop where
  flushed : s.effectsDue = false
  awaitingMoreThan : s.awaitingMoreThan = some s₀.countRef
  retries : s.retries = 0
  listed : s.state.toProviderSlaResult = s₀.state.toProviderSlaResult
  returned : s.returned = s₀.returned
  inFlight : ∃ l, s.inFlight = ⟨s.run, address⟩ :: l

/-- The call is rendered. It goes on unless the list that is there ends it. -/
theorem exists_asked {address : Address} {called s₀ s : SlaScene Address}
    (hrun : Rereads address called 0 s) (hflushed : s.effectsDue = false)
    (h : ProviderScene.Called s₀ s)
    (hgoesOn : s.state.loading = true ∨ s.state.count ≤ s₀.countRef) :
    ∃ s', Rereads address called 0 s' ∧ ProviderScene.Asked address s₀ s' ∧
      s'.retryDeps = some (some s₀.countRef, s.state.count, 0, s.state.loading) := by
  have hrendered := hrun.step (.render hflushed)
  refine ⟨_, hrendered.step (.runEffects rfl), ?_⟩
  have hexposed : (s.render (some address)).rendered.retryDeps =
      (some s₀.countRef, s.state.count, 0, s.state.loading) := by
    rw [ProviderScene.retryDeps_render, h.awaitingMoreThan, h.retries]
  have hretry :=
    ProviderScene.retrying_retryEffect (s.render (some address)).countEffect.fetchEffect
  rw [ProviderScene.runEffects]
  rw [ProviderScene.fetchEffect_of_key (s := (s.render (some address)).countEffect) rfl
    h.fetched] at hretry ⊢
  generalize ProviderScene.retryEffect _ = s' at hretry ⊢
  cases hretry with
  | unchanged hdeps =>
    -- it last ran without a call
    exact absurd (h.retryDeps _ (hdeps.trans (congrArg some hexposed))) nofun
  | idle _ =>
    exact ⟨⟨rfl, h.awaitingMoreThan, h.retries, h.listed, h.returned, s.inFlight, rfl⟩,
      congrArg some hexposed⟩
  | ended hawaiting hloading hended =>
    have hc : s₀.countRef = _ := Option.some.inj (h.awaitingMoreThan.symm.trans hawaiting)
    rcases hended with hcount | hretries
    · rcases hgoesOn with hloads | hgoesOn
      · exact absurd (hloads.symm.trans hloading) nofun
      · exact absurd (hc ▸ hcount) (Nat.not_lt_of_le hgoesOn)
    · exact absurd (hretries.trans_eq h.retries) (Nat.not_succ_le_zero _)
  | armed _ _ _ =>
    exact ⟨⟨rfl, h.awaitingMoreThan, h.retries, h.listed, h.returned, s.inFlight, rfl⟩,
      congrArg some hexposed⟩

/-- A list without a new one ends the wait if it has more SLAs than the call counted. -/
theorem Awaited.hasNew {address : Address} {existed : Finset ℤ} {c : ℕ}
    {called s : SlaScene Address} (h : Awaited address existed called)
    (hrun : Rereads address called 0 s) (hflushed : s.effectsDue = false)
    (hawaiting : s.awaitingMoreThan = some c) (hloading : s.state.loading = false)
    (hcount : c < s.state.count)
    (hdeps : s.retryDeps ≠ some (some c, s.state.count, s.retries, false)) :
    HasNew existed s.state.toProviderSlaResult := by
  have hexposed : (s.render (some address)).rendered.retryDeps =
      (some c, s.state.count, s.retries, false) := by
    rw [ProviderScene.retryDeps_render, hawaiting, hloading]
  have hended : (s.render (some address)).runEffects.awaitingMoreThan = none := by
    have hretry :=
      ProviderScene.retrying_retryEffect (s.render (some address)).countEffect.fetchEffect
    apply hretry.ends (c := c)
    · rw [ProviderScene.retryDeps_fetchEffect rfl, ProviderScene.rendered_fetchEffect rfl, hexposed]
      exact hdeps
    all_goals rw [ProviderScene.rendered_fetchEffect rfl]
    · exact hawaiting
    · exact hloading
    · exact hcount
  have hstops := h.stops (hrun.step (.render hflushed)) rfl (hawaiting ▸ rfl) hended
  exact hstops.resolve_left nofun

/-- The current load fails. -/
theorem LoadStep.failed {address : Address} {s : SlaScene Address}
    {l : List (ProviderFetch Address)} (hinFlight : s.inFlight = ⟨s.run, address⟩ :: l)
    (message : String) :
    LoadStep address s { s with inFlight := l, state := s.state.loadFailed message } := by
  have hstep : LoadStep address s
      ({ s with inFlight := [] ++ l }.fail ⟨s.run, address⟩ message) := .fail hinFlight
  rw [ProviderScene.fail, if_pos rfl] at hstep
  exact hstep

/-- The current load succeeds. -/
theorem LoadStep.succeeded {address : Address} {s : SlaScene Address}
    {l : List (ProviderFetch Address)} (hinFlight : s.inFlight = ⟨s.run, address⟩ :: l)
    {result : ProviderSlaResult ProviderSlaView ProviderSlaFailure} (hdistinct : result.ids.Nodup)
    (hgrowing : ∀ answer ∈ s.returned, answer.2.ids ⊆ result.ids) :
    LoadStep address s
      { s with
        inFlight := l, state := .loaded result, returned := (address, result) :: s.returned } := by
  have hstep : LoadStep address s
      ({ s with inFlight := [] ++ l }.succeed ⟨s.run, address⟩ result) :=
    .succeed hinFlight hdistinct hgrowing
  rw [ProviderScene.succeed] at hstep
  dsimp only at hstep
  rw [if_pos rfl] at hstep
  exact hstep

/-- SLAs none of which could be read. -/
def unread (ids : List ℤ) : ProviderSlaResult ProviderSlaView ProviderSlaFailure :=
  ⟨[], ids.map fun id => ⟨id, ""⟩⟩

theorem ids_unread (ids : List ℤ) : (unread ids).ids = ids := by
  rw [unread, ProviderSlaResult.ids, List.map_map]
  exact List.map_id ids

section

variable {address : Address} {existed : Finset ℤ} {s₀ : SlaScene Address}

/-- The load of the call is over, and the list it leaves ends the wait. -/
theorem Awaited.hasNew_of_asked {called s : SlaScene Address} {count : ℕ} {loading : Bool}
    (h : Awaited address existed called) (hrun : Rereads address called 0 s)
    (hasked : ProviderScene.Asked address s₀ s)
    (hdeps : s.retryDeps = some (some s₀.countRef, count, 0, loading))
    {state : ProviderSlasState ProviderSlaView ProviderSlaFailure}
    {inFlight : List (ProviderFetch Address)}
    {returned : List (Address × ProviderSlaResult ProviderSlaView ProviderSlaFailure)}
    (hstep : LoadStep address s
      { s with inFlight := inFlight, state := state, returned := returned })
    (hloading : state.loading = false) (hcount : s₀.countRef < state.count)
    (hchanged : loading = true ∨ count < state.count) :
    HasNew existed state.toProviderSlaResult := by
  refine h.hasNew (hrun.step hstep) hasked.flushed hasked.awaitingMoreThan hloading hcount
    fun hsame => ?_
  have hrerun : (some s₀.countRef, count, 0, loading) = (_, _, _, false) :=
    Option.some.inj (hdeps.symm.trans hsame)
  rcases hchanged with rfl | hless
  · exact absurd (congrArg (·.2.2.2) hrerun) nofun
  · exact absurd (congrArg (·.2.1) hrerun) (Nat.ne_of_lt hless)

/-- The load of the call fails, and the list that was there ends the wait. -/
theorem Awaited.listed (h : Awaited address existed s₀.refreshAfterCreate)
    (hloads : s₀.Loads address) (hidle : s₀.Idle) :
    HasNew existed s₀.state.toProviderSlaResult ∨ s₀.state.count ≤ s₀.countRef := by
  obtain ⟨s, hrun, hflushed, hcalled⟩ := exists_called hloads hidle
  by_contra hshort
  obtain ⟨hold, hcount⟩ := not_or.mp hshort
  rw [← hcalled.listed] at hold
  rw [← length_ids, ← hcalled.listed, length_ids, Nat.not_le] at hcount
  -- the next effects end the wait, unless a load is under way, which then fails
  cases hloading : s.state.loading with
  | false =>
    refine hold (h.hasNew hrun hflushed hcalled.awaitingMoreThan hloading hcount fun hdeps => ?_)
    exact absurd (hcalled.retryDeps _ hdeps) nofun
  | true =>
    obtain ⟨t, htrun, hasked, hdeps⟩ := exists_asked hrun hflushed hcalled (.inl hloading)
    obtain ⟨l, hinFlight⟩ := hasked.inFlight
    have hlisted : t.state.toProviderSlaResult = s.state.toProviderSlaResult :=
      hasked.listed.trans hcalled.listed.symm
    rw [← hlisted] at hold
    rw [← length_ids, ← hlisted, length_ids] at hcount
    have hnew := h.hasNew_of_asked htrun hasked hdeps (.failed hinFlight "") rfl hcount
      (.inl hloading)
    exact hold hnew

/-- The load of the call answers with what existed, and that ends the wait. -/
theorem Awaited.answered (h : Awaited address existed s₀.refreshAfterCreate)
    (hloads : s₀.Loads address) (hidle : s₀.Idle) :
    (∃ answer ∈ s₀.returned, HasNew existed answer.2) ∨ existed.card ≤ s₀.countRef := by
  by_contra hshort
  obtain ⟨hold, hcard⟩ := not_or.mp hshort
  have hcount : s₀.state.count ≤ s₀.countRef := by
    refine (h.listed hloads hidle).resolve_left ?_
    rintro ⟨id, hid, hnew⟩
    obtain ⟨answer, hanswer, hlisted⟩ := hloads.listed id hid
    exact hold ⟨answer, hanswer, id, hlisted, hnew⟩
  obtain ⟨s, hrun, hflushed, hcalled⟩ := exists_called hloads hidle
  rw [← length_ids, ← hcalled.listed, length_ids] at hcount
  obtain ⟨t, htrun, hasked, hdeps⟩ := exists_asked hrun hflushed hcalled (.inr hcount)
  obtain ⟨l, hinFlight⟩ := hasked.inFlight
  have hids : (unread existed.toList).ids = existed.toList := ids_unread _
  have hgrowing : ∀ answer ∈ t.returned, answer.2.ids ⊆ (unread existed.toList).ids := by
    intro answer hanswer id hid
    by_contra hnew
    rw [hids, Finset.mem_toList] at hnew
    rw [hasked.returned] at hanswer
    exact hold ⟨answer, hanswer, id, hid, hnew⟩
  have hloaded : existed.card = (ProviderSlasState.loaded (unread existed.toList)).count := by
    rw [← length_ids]
    exact (Finset.length_toList existed).symm.trans (congrArg List.length hids.symm)
  rw [hloaded, Nat.not_le] at hcard
  obtain ⟨id, hid, hnew⟩ := h.hasNew_of_asked htrun hasked hdeps
    (.succeeded hinFlight (hids.symm ▸ existed.nodup_toList) hgrowing) rfl hcard
    (.inr (hcount.trans_lt hcard))
  rw [ProviderSlasState.loaded, hids, Finset.mem_toList] at hid
  exact hnew hid

end

/-- **When the new SLA is waited for.** However the loads end before and after the call, the wait
ends early only with a new SLA in the list, if and only if the count at hand when the call is made
is short neither of the list nor of the SLAs that existed, unless there is a new one. -/
theorem awaited_iff_countCovers {address : Address} {s : SlaScene Address}
    (h : BeforeCreate address s) (existed : Finset ℤ) :
    Awaited address existed s.refreshAfterCreate ↔ CountCovers existed s := by
  obtain ⟨hloads, hidle⟩ := h.loads_idle
  constructor
  · intro hawaited
    exact ⟨hawaited.listed hloads hidle, hawaited.answered hloads hidle⟩
  · intro hcovers
    exact hcovers.awaited h

section

private theorem beforeCreate_asked :
    BeforeCreate 1 (ProviderScene.mount (some 1) : SlaScene ℕ).runEffects :=
  .single (.runEffects rfl)

private theorem Rereads.shown {address : ℕ} {n : ℕ} {called s : SlaScene ℕ}
    (h : Rereads address called n s) (hflushed : s.effectsDue = false) :
    Rereads address called n (s.render (some address)).runEffects :=
  (h.step (.render hflushed)).step (.runEffects rfl)

/-- With two SLAs listed, the third is waited for. -/
theorem awaited_third : ∃ s : SlaScene ℕ, BeforeCreate 1 s ∧ s.state.ids = [0, 1] ∧
    Awaited 1 {0, 1} s.refreshAfterCreate := by
  have hdistinct : (unread [0, 1]).ids.Nodup := by decide
  have hloaded := beforeCreate_asked.tail (.succeeded rfl hdistinct nofun)
  have hcounted := (hloaded.tail (.render rfl)).tail (.runEffects rfl)
  refine ⟨_, hcounted, rfl, (awaited_iff_countCovers hcounted {0, 1}).mpr ⟨.inr ?_, .inr ?_⟩⟩
  · exact Nat.le_refl 2
  · exact Nat.le_refl 2

/-- **The first load fails.** Then the SLA that existed ends the wait for another. -/
theorem not_awaited_after_failure :
    ¬ ∀ s : SlaScene ℕ, BeforeCreate 1 s → Awaited 1 {0} s.refreshAfterCreate := by
  intro hawaited
  -- nothing is listed, so that the call counts no SLA
  have hfailed := beforeCreate_asked.tail (.failed rfl "")
  have hcounted := (hfailed.tail (.render rfl)).tail (.runEffects rfl)
  have hdistinct : (unread [0]).ids.Nodup := by decide
  have hstops := (hawaited _ hcounted).stops
    (.step (.step (.shown .start rfl) (.succeeded rfl hdistinct nofun)) (.render rfl))
    rfl rfl rfl
  rcases hstops with hzero | ⟨id, hid, hnew⟩
  · exact absurd hzero nofun
  · exact hnew (Finset.mem_singleton.mpr (List.mem_singleton.mp hid))

end

end Web

end SlaSettle
