import Mathlib.Algebra.BigOperators.Group.Finset.Basic
import Mathlib.Data.List.Chain
import SlaSettle.Web.FetchProviderSlas

/-!
# Every SLA of a provider is accounted for

The runs of `fetchProviderSlas`. Each of them ends, within six steps for each summary
(`remaining_lt`, `Invariant.exists_step`), and lists every summary once, among the SLAs or among the
failures (`Returned`).

What the four workers do not bound is the number of summaries with a read in flight: a `Promise.all`
is rejected while its other read is pending, and the worker goes on to another summary. A run stays
within four summaries if and only if no worker does that (`fetchProviderSlas_accounts`).
-/

namespace SlaSettle

namespace Web

open Effect

namespace FetchScene

variable {summaries : List ProviderSlaSummary} {s s' : FetchScene} {i : ℕ}

/-! ### The end of a call -/

/-- Reads of a summary that are still to come back. -/
def readsLeft (s : FetchScene) (i : ℕ) : ℕ := ((s.reads i).map PromisePair.pending).getD 2

/-- What a summary still has to go through: its reads, those of its token, and itself. -/
def stepsLeft (s : FetchScene) (i : ℕ) : ℕ :=
  if (s.workers.results i).isSome then 0 else if (s.live i).isSome then 1 else 4

/-- A bound on the steps that are left. -/
def remaining (summaries : List ProviderSlaSummary) (s : FetchScene) : ℕ :=
  ∑ i ∈ Finset.range summaries.length, (s.readsLeft i + s.stepsLeft i) +
    (s.tokenMetadata.map fun e => e.2.pending).sum

theorem sum_add_le_sum {n i k : ℕ} {f g : ℕ → ℕ} (hi : i < n) (hother : ∀ j, j ≠ i → g j = f j)
    (hlt : g i + k ≤ f i) : ∑ j ∈ Finset.range n, g j + k ≤ ∑ j ∈ Finset.range n, f j := by
  have hmem : i ∈ Finset.range n := Finset.mem_range.mpr hi
  have hrest : ∑ j ∈ (Finset.range n).erase i, g j = ∑ j ∈ (Finset.range n).erase i, f j :=
    Finset.sum_congr rfl fun j hj => hother j (Finset.ne_of_mem_erase hj)
  rw [← Finset.add_sum_erase _ g hmem, ← Finset.add_sum_erase _ f hmem, hrest]
  omega

theorem remaining_start : remaining summaries (start summaries) = 6 * summaries.length := by
  have hsix : ∀ i, (start summaries).readsLeft i + (start summaries).stepsLeft i = 6 := by
    intro i
    simp only [readsLeft, stepsLeft, start, WorkerPool.start]
    split <;> rfl
  simp only [remaining, hsix]
  simp [start, Nat.mul_comm]

theorem readsLeft_finish (h : Invariant summaries s) (outcome : SlaOutcome) (j : ℕ) :
    (s.finish summaries i outcome).readsLeft j = s.readsLeft j := by
  unfold FetchScene.finish readsLeft
  dsimp only
  split
  · by_cases hj : j = s.workers.next
    · subst hj
      rw [h.reads_next]
      simp only [beginSummary, Function.update_self]
      rfl
    · simp only [beginSummary, Function.update_of_ne hj]
  · rfl

theorem results_finish (outcome : SlaOutcome) :
    (s.finish summaries i outcome).workers.results =
      Function.update s.workers.results i (some outcome) := by
  unfold FetchScene.finish
  dsimp only
  split
  · rfl
  · rfl

theorem live_finish (outcome : SlaOutcome) : (s.finish summaries i outcome).live = s.live := by
  unfold FetchScene.finish
  dsimp only
  split
  · rfl
  · rfl

theorem tokenMetadata_finish (outcome : SlaOutcome) :
    (s.finish summaries i outcome).tokenMetadata = s.tokenMetadata := by
  unfold FetchScene.finish
  dsimp only
  split
  · rfl
  · rfl

/-- A summary that is done has no steps left. -/
theorem remaining_finish (h : Invariant summaries s) (hi : i ∈ s.workers.running)
    (outcome : SlaOutcome) :
    remaining summaries (s.finish summaries i outcome) < remaining summaries s := by
  have hlt : i < summaries.length := (h.workers.running_lt i hi).trans_le h.workers.next_le
  have hresult : (s.workers.results i).isSome = false := by
    rw [Bool.eq_false_iff, Ne, h.workers.results_iff]
    exact fun hmem => hmem.2 hi
  have hsteps : ∀ j, j ≠ i → (s.finish summaries i outcome).stepsLeft j = s.stepsLeft j := by
    intro j hj
    rw [stepsLeft, results_finish, live_finish, Function.update_of_ne hj, stepsLeft]
  have hnone : (s.finish summaries i outcome).stepsLeft i = 0 := by
    rw [stepsLeft, results_finish, Function.update_self]
    rfl
  have hsome : 1 ≤ s.stepsLeft i := by
    rw [stepsLeft, hresult, if_neg Bool.false_ne_true]
    split <;> omega
  have hsum := sum_add_le_sum (k := 1) (g := fun j =>
    (s.finish summaries i outcome).readsLeft j + (s.finish summaries i outcome).stepsLeft j)
    (f := fun j => s.readsLeft j + s.stepsLeft j) hlt
    (fun j hj => by rw [readsLeft_finish h, hsteps j hj])
    (by rw [readsLeft_finish h, hnone]; omega)
  rw [remaining, remaining, tokenMetadata_finish]
  omega

/-- A summary that was read has its token's reads and itself left, where it had its own as well. -/
theorem remaining_fulfilled (h : Invariant summaries s) (hi : i ∈ s.workers.running)
    (hunread : s.live i = none) (config : SLAConfig) (bondBalance : ℤ) :
    remaining summaries
        ({ s with live := Function.update s.live i (some (config, bondBalance)) }.getTokenMetadata
          config.token) < remaining summaries s := by
  have hlt : i < summaries.length := (h.workers.running_lt i hi).trans_le h.workers.next_le
  have hresult : (s.workers.results i).isSome = false := by
    rw [Bool.eq_false_iff, Ne, h.workers.results_iff]
    exact fun hmem => hmem.2 hi
  have htokens : ((s.getTokenMetadata config.token).tokenMetadata.map fun e => e.2.pending).sum ≤
      (s.tokenMetadata.map fun e => e.2.pending).sum + 2 := by
    unfold FetchScene.getTokenMetadata
    split
    · omega
    · simp [PromisePair.start, PromisePair.pending]
  rw [getTokenMetadata_live]
  have hsum := sum_add_le_sum (k := 3) (g := fun j =>
    FetchScene.readsLeft { s.getTokenMetadata config.token with
      live := Function.update s.live i (some (config, bondBalance)) } j +
    FetchScene.stepsLeft { s.getTokenMetadata config.token with
      live := Function.update s.live i (some (config, bondBalance)) } j)
    (f := fun j => s.readsLeft j + s.stepsLeft j) hlt
    (fun j hj => by
      simp only [readsLeft, stepsLeft, reads_getTokenMetadata, workers_getTokenMetadata,
        Function.update_of_ne hj])
    (by
      simp only [readsLeft, stepsLeft, reads_getTokenMetadata, workers_getTokenMetadata,
        Function.update_self, hresult, hunread]
      simp)
  unfold remaining
  dsimp only at hsum ⊢
  omega

/-- **Every step brings the end nearer.** -/
theorem remaining_lt (h : Invariant summaries s) (hstep : FetchStep summaries s s') :
    remaining summaries s' < remaining summaries s := by
  cases hstep with
  | @read i p q reads settles =>
    have hlt : i < summaries.length :=
      ((h.reads_iff i).mp (by rw [reads]; rfl)).trans_le h.workers.next_le
    have hpending := settles.pending
    have hsum := sum_add_le_sum (k := 1) (g := fun j =>
      ({ s with reads := Function.update s.reads i (some q) } : FetchScene).readsLeft j +
        s.stepsLeft j)
      (f := fun j => s.readsLeft j + s.stepsLeft j) hlt
      (fun j hj => by simp only [readsLeft, Function.update_of_ne hj])
      (by simp only [readsLeft, Function.update_self, reads, Option.map_some, Option.getD_some]
          omega)
    exact Nat.add_lt_add_right hsum _
  | @metadata token p q l₁ l₂ reads settles =>
    have hpending := settles.pending
    refine Nat.add_lt_add_left ?_ _
    simp only [reads, List.map_append, List.map_cons, List.sum_append, List.sum_cons]
    omega
  | @afterReads i p outcome running reads unread settled =>
    cases outcome with
    | error err => exact remaining_finish h running _
    | ok live => exact remaining_fulfilled h running unread _ _
  | @afterMetadata i config bondBalance m outcome running live reads settled =>
    cases outcome with
    | error err => exact remaining_finish h running _
    | ok metadata => exact remaining_finish h running _

/-- A call that has not returned goes on. -/
theorem Invariant.exists_step (h : Invariant summaries s) (hrunning : s.workers.running ≠ []) :
    ∃ s', FetchStep summaries s s' := by
  obtain ⟨i, hi⟩ := List.exists_mem_of_ne_nil _ hrunning
  obtain ⟨p, hp⟩ := Option.isSome_iff_exists.mp ((h.reads_iff i).mpr (h.workers.running_lt i hi))
  cases hlive : s.live i with
  | none =>
    cases hout : p.outcome with
    | none =>
      obtain ⟨q, hpq⟩ := ((h.reads_valid i p hp).pending hout).exists_settles .unknown
      exact ⟨_, .read hp hpq⟩
    | some outcome => exact ⟨_, .afterReads hi hp hlive hout⟩
  | some live =>
    obtain ⟨config, bondBalance⟩ := live
    obtain ⟨e, he, htoken⟩ := List.mem_map.mp (h.live i config bondBalance hlive).1
    obtain ⟨token, m⟩ := e
    obtain rfl : token = config.token := htoken
    cases hout : m.outcome with
    | none =>
      obtain ⟨l₁, l₂, hsplit⟩ := List.append_of_mem he
      obtain ⟨q, hpq⟩ := ((h.metadata_valid _ he).pending hout).exists_settles .unknown
      exact ⟨_, .metadata hsplit hpq⟩
    | some outcome => exact ⟨_, .afterMetadata hi hlive he hout⟩

/-- What a call that has returned has read and lists: every summary once, in the order of the
indexer. -/
structure Returned (summaries : List ProviderSlaSummary) (s : FetchScene)
    (r : ProviderSlaResult ProviderSlaView ProviderSlaFailure) : Prop where
  read : ∀ i, (.getSla i ∈ s.started ↔ i < summaries.length) ∧
    (.getBondBalance i ∈ s.started ↔ i < summaries.length)
  listed : ∃ outcome : ℕ → SlaOutcome,
    (∀ i < summaries.length, Explained summaries s i (outcome i)) ∧
    r.slas = ((List.range summaries.length).map outcome).filterMap SlaOutcome.sla? ∧
    r.failures = ((List.range summaries.length).map outcome).filterMap SlaOutcome.failure? ∧
    r.slas.map ProviderSlaView.slaId =
      ((List.range summaries.length).filter fun i => (outcome i).isSla).map
        (slaIdAt summaries) ∧
    r.failures.map ProviderSlaFailure.slaId =
      ((List.range summaries.length).filter fun i => !(outcome i).isSla).map
        (slaIdAt summaries)

/-- The kept entries of a list, by what they were kept from. -/
theorem map_filterMap_eq {α β γ : Type} {f : α → Option β} {p : α → Bool} {g : β → γ} {h : α → γ}
    {l : List α} (hp : ∀ a ∈ l, (f a).isSome = p a) (hg : ∀ a ∈ l, ∀ b, f a = some b → g b = h a) :
    (l.filterMap f).map g = (l.filter p).map h := by
  induction l with
  | nil => rfl
  | cons a l ih =>
    obtain ⟨hpa, hp⟩ := List.forall_mem_cons.mp hp
    obtain ⟨hga, hg⟩ := List.forall_mem_cons.mp hg
    have htail := ih hp hg
    rw [List.filterMap_cons, List.filter_cons, ← hpa]
    cases hf : f a with
    | none => exact htail
    | some b => exact congrArg₂ List.cons (hga b hf) htail

theorem Explained.slaId_eq {outcome : SlaOutcome} (h : Explained summaries s i outcome) :
    outcome.slaId = slaIdAt summaries i := by
  cases outcome with
  | sla view => exact h.1
  | failure unread => exact h.1

theorem Invariant.returned (h : Invariant summaries s)
    {r : ProviderSlaResult ProviderSlaView ProviderSlaFailure}
    (hr : s.result summaries = some r) : Returned summaries s r := by
  rw [result, Option.ite_none_right_eq_some, Option.some_inj] at hr
  obtain ⟨hended, rfl⟩ := hr
  have hnext : s.workers.next = summaries.length := by
    refine le_antisymm h.workers.next_le (not_lt.mp fun hlt => ?_)
    have hfull := h.workers.full hlt
    rw [hended] at hfull
    cases hfull
  refine ⟨fun i => ⟨?_, ?_⟩, ?_⟩
  · rw [h.mem_started, Begun, hnext]
  · rw [h.mem_started, Begun, hnext]
  obtain ⟨outcome, houtcome⟩ : ∃ outcome : ℕ → SlaOutcome,
      ∀ i < summaries.length, s.workers.results i = some (outcome i) := by
    refine ⟨fun i => (s.workers.results i).getD (.failure ⟨0, ""⟩), fun i hi => ?_⟩
    obtain ⟨o, ho⟩ := Option.isSome_iff_exists.mp
      (h.workers.isSome_results (by decide) hended hi)
    simp only [ho, Option.getD_some]
  have hall : (List.range summaries.length).filterMap s.workers.results =
      (List.range summaries.length).map outcome := by
    rw [← List.filterMap_eq_map]
    exact List.filterMap_congr fun i hi => houtcome i (List.mem_range.mp hi)
  have hexplained : ∀ i < summaries.length, Explained summaries s i (outcome i) :=
    fun i hi => h.explained i _ (houtcome i hi)
  have hid : ∀ i ∈ List.range summaries.length, (outcome i).slaId = slaIdAt summaries i :=
    fun i hi => (hexplained i (List.mem_range.mp hi)).slaId_eq
  refine ⟨outcome, hexplained, by rw [hall], by rw [hall], ?_, ?_⟩
  · dsimp only
    rw [hall, List.filterMap_map]
    refine map_filterMap_eq (fun i _ => SlaOutcome.isSome_sla? _) fun i hi view hview => ?_
    exact (SlaOutcome.slaId_of_sla? hview).trans (hid i hi)
  · dsimp only
    rw [hall, List.filterMap_map]
    refine map_filterMap_eq (fun i _ => SlaOutcome.isSome_failure? _) fun i hi unread hunread => ?_
    exact (SlaOutcome.slaId_of_failure? hunread).trans (hid i hi)

/-! ### How many are read at once -/

/-- A read of a summary is pending. -/
def readInFlight (s : FetchScene) (i : ℕ) : Bool := (s.reads i).any fun p => decide p.InFlight

/-- The summaries that are being read: those a worker is at, and those with a read in flight. -/
def beingRead (s : FetchScene) : Finset ℕ :=
  (Finset.range s.workers.next).filter fun i => i ∈ s.workers.running ∨ s.readInFlight i = true

/-- No worker goes on to another summary while a read of the one it leaves is in flight. -/
def Fits (summaries : List ProviderSlaSummary) (s s' : FetchScene) : Prop :=
  s.workers.next < summaries.length →
    ∀ i ∈ s.workers.running, i ∉ s'.workers.running → s.readInFlight i = false

theorem mem_beingRead : i ∈ s.beingRead ↔
    i < s.workers.next ∧ (i ∈ s.workers.running ∨ s.readInFlight i = true) := by
  simp [beingRead]

theorem card_beingRead_start : (start summaries).beingRead.card ≤ MAX_CONCURRENT_SLA_READS := by
  refine (Finset.card_filter_le _ _).trans ?_
  rw [Finset.card_range]
  exact min_le_left _ _

/-- While summaries are left, the workers are at four of them. -/
theorem Invariant.le_card_beingRead (h : Invariant summaries s)
    (hmore : s.workers.next < summaries.length) :
    MAX_CONCURRENT_SLA_READS ≤ s.beingRead.card := by
  rw [← h.workers.full hmore, ← List.toFinset_card_of_nodup h.workers.nodup]
  refine Finset.card_le_card fun i hi => ?_
  have hi := List.mem_toFinset.mp hi
  exact mem_beingRead.mpr ⟨h.workers.running_lt i hi, .inl hi⟩

theorem running_finish (outcome : SlaOutcome) : (s.finish summaries i outcome).workers =
    s.workers.finish summaries.length i outcome := by
  unfold FetchScene.finish
  dsimp only
  split
  · rfl
  · rfl

theorem readInFlight_finish {outcome : SlaOutcome} {j : ℕ} (hj : j ≠ s.workers.next) :
    (s.finish summaries i outcome).readInFlight j = s.readInFlight j := by
  unfold FetchScene.finish readInFlight
  dsimp only
  split
  · simp only [beginSummary, Function.update_of_ne hj]
  · rfl

/-- A worker that goes on takes the summary it leaves off the list, unless a read of it is in
flight. -/
theorem Invariant.beingRead_finish (h : Invariant summaries s)
    (hmore : s.workers.next < summaries.length) (outcome : SlaOutcome) :
    (s.finish summaries i outcome).beingRead =
      insert s.workers.next (if s.readInFlight i then s.beingRead else s.beingRead.erase i) := by
  have hworkers : (s.finish summaries i outcome).workers =
      ⟨s.workers.next + 1, s.workers.next :: s.workers.running.erase i,
        Function.update s.workers.results i (some outcome)⟩ := by
    rw [running_finish, WorkerPool.finish_of_lt hmore]
  ext j
  rw [mem_beingRead, hworkers, Finset.mem_insert, List.mem_cons, h.workers.nodup.mem_erase_iff]
  by_cases hj : j = s.workers.next
  · subst hj
    exact iff_of_true ⟨Nat.lt_succ_self _, .inl (.inl rfl)⟩ (.inl rfl)
  rw [readInFlight_finish hj]
  have hlt : j < s.workers.next + 1 ↔ j < s.workers.next := by omega
  have hmem := mem_beingRead (s := s) (i := j)
  by_cases hji : j = i
  · subst hji
    cases hflight : s.readInFlight j <;> simp_all
  · split <;> simp_all

/-- A worker that ends leaves at most a summary with a read in flight. -/
theorem beingRead_finish_subset (hmore : ¬ s.workers.next < summaries.length)
    (outcome : SlaOutcome) : (s.finish summaries i outcome).beingRead ⊆ s.beingRead := by
  have hworkers : (s.finish summaries i outcome).workers =
      ⟨s.workers.next, s.workers.running.erase i,
        Function.update s.workers.results i (some outcome)⟩ := by
    rw [running_finish, WorkerPool.finish_of_not_lt hmore]
  intro j hj
  rw [mem_beingRead, hworkers] at hj
  obtain ⟨hlt, hj⟩ := hj
  rw [readInFlight_finish hlt.ne] at hj
  exact mem_beingRead.mpr ⟨hlt, hj.imp List.mem_of_mem_erase id⟩

/-- A summary is done. -/
theorem Invariant.finish_fits_iff (h : Invariant summaries s) (hi : i ∈ s.workers.running)
    (outcome : SlaOutcome) (hfour : s.beingRead.card ≤ MAX_CONCURRENT_SLA_READS) :
    (s.finish summaries i outcome).beingRead.card ≤ MAX_CONCURRENT_SLA_READS ↔
      Fits summaries s (s.finish summaries i outcome) := by
  by_cases hmore : s.workers.next < summaries.length
  swap
  · refine iff_of_true ?_ fun hlt => absurd hlt hmore
    exact (Finset.card_le_card (beingRead_finish_subset hmore outcome)).trans hfour
  have hnext : s.workers.next ∉ s.beingRead := fun hmem => lt_irrefl _ (mem_beingRead.mp hmem).1
  have hfits : Fits summaries s (s.finish summaries i outcome) ↔ s.readInFlight i = false := by
    have hrunning : ∀ j ∈ s.workers.running,
        j ∉ (s.finish summaries i outcome).workers.running ↔ j = i := by
      intro j hj
      have hlt := h.workers.running_lt j hj
      rw [running_finish, WorkerPool.finish_of_lt hmore, List.mem_cons,
        h.workers.nodup.mem_erase_iff]
      simp [hj, hlt.ne]
    constructor
    · exact fun hfits => hfits hmore i hi ((hrunning i hi).mpr rfl)
    · intro hflight _ j hj hleft
      rwa [(hrunning j hj).mp hleft]
  have hmem : i ∈ s.beingRead := mem_beingRead.mpr ⟨h.workers.running_lt i hi, .inl hi⟩
  have hpos : 0 < s.beingRead.card := Finset.card_pos.mpr ⟨i, hmem⟩
  have hle := h.le_card_beingRead hmore
  rw [hfits, h.beingRead_finish hmore]
  cases hflight : s.readInFlight i with
  | true =>
    rw [if_pos rfl, Finset.card_insert_of_notMem hnext]
    refine iff_of_false (by omega) (by simp)
  | false =>
    rw [if_neg Bool.false_ne_true, Finset.card_insert_of_notMem fun hmem' =>
      hnext (Finset.mem_of_mem_erase hmem'), Finset.card_erase_of_mem hmem]
    refine iff_of_true (by omega) rfl

/-- **A step** keeps to four summaries exactly when it fits. -/
theorem Invariant.fits_iff (h : Invariant summaries s) (hstep : FetchStep summaries s s')
    (hfour : s.beingRead.card ≤ MAX_CONCURRENT_SLA_READS) :
    s'.beingRead.card ≤ MAX_CONCURRENT_SLA_READS ↔ Fits summaries s s' := by
  cases hstep with
  | @read i p q reads settles =>
    refine iff_of_true (le_trans (Finset.card_le_card fun j hj => ?_) hfour) ?_
    · obtain ⟨hlt, hj⟩ := mem_beingRead.mp hj
      refine mem_beingRead.mpr ⟨hlt, hj.imp id fun hflight => ?_⟩
      by_cases hji : j = i
      · subst hji
        simp only [readInFlight, Function.update_self, Option.any_some, decide_eq_true_eq]
          at hflight
        simp only [readInFlight, reads, Option.any_some, decide_eq_true_eq]
        exact settles.inFlight_of hflight
      · simpa only [readInFlight, Function.update_of_ne hji] using hflight
    · exact fun _ j hj hleft => absurd hj hleft
  | metadata reads settles => exact iff_of_true hfour fun _ j hj hleft => absurd hj hleft
  | @afterReads i p outcome running reads unread settled =>
    cases outcome with
    | error err => exact h.finish_fits_iff running _ hfour
    | ok live =>
      obtain ⟨config, bondBalance⟩ := live
      have hsame : (s.afterReads summaries i (.ok (config, bondBalance))).beingRead =
          s.beingRead := by
        ext j
        rw [mem_beingRead, mem_beingRead]
        simp only [afterReads, readInFlight, reads_getTokenMetadata, workers_getTokenMetadata]
      refine iff_of_true (hsame ▸ hfour) fun _ j hj hleft => absurd hj ?_
      simpa only [afterReads, workers_getTokenMetadata] using hleft
  | afterMetadata running live reads settled =>
    rename_i outcome
    cases outcome with
    | error err => exact h.finish_fits_iff running _ hfour
    | ok metadata => exact h.finish_fits_iff running _ hfour

/-! ### Runs -/

/-- What holds of a call in any case: no read is started twice, four workers are at the summaries,
the call goes on until it returns, and then it has read and lists every summary once. -/
structure Accounts (summaries : List ProviderSlaSummary) (s : FetchScene) : Prop where
  started_nodup : s.started.Nodup
  running_le : s.workers.running.length ≤ MAX_CONCURRENT_SLA_READS
  progress : s.result summaries = none → ∃ s', FetchStep summaries s s'
  returned : ∀ r, s.result summaries = some r → Returned summaries s r

theorem Invariant.accounts (h : Invariant summaries s) : Accounts summaries s where
  started_nodup := h.started_nodup
  running_le := h.workers.length_le
  progress hnone := h.exists_step fun hended => by
    rw [result, if_pos hended] at hnone
    cases hnone
  returned _ hr := h.returned hr

/-- A run from a scene: every scene accounts for the summaries, and the run ends. -/
theorem Invariant.run_accounts (h : Invariant summaries s) {scenes : List FetchScene}
    (hrun : List.IsChain (FetchStep summaries) (s :: scenes)) :
    (∀ t ∈ s :: scenes, Accounts summaries t) ∧ scenes.length ≤ remaining summaries s := by
  induction scenes generalizing s with
  | nil => exact ⟨List.forall_mem_singleton.mpr h.accounts, Nat.zero_le _⟩
  | cons s' scenes ih =>
    obtain ⟨hstep, hrest⟩ := List.isChain_cons_cons.mp hrun
    obtain ⟨haccounts, hlength⟩ := ih (h.step hstep) hrest
    have hlt := remaining_lt h hstep
    refine ⟨List.forall_mem_cons.mpr ⟨h.accounts, haccounts⟩, ?_⟩
    rw [List.length_cons]
    omega

/-- A run from a scene with four summaries keeps to four exactly when all its steps fit. -/
theorem Invariant.run_fits_iff (h : Invariant summaries s)
    (hfour : s.beingRead.card ≤ MAX_CONCURRENT_SLA_READS) {scenes : List FetchScene}
    (hrun : List.IsChain (FetchStep summaries) (s :: scenes)) :
    (∀ t ∈ s :: scenes, t.beingRead.card ≤ MAX_CONCURRENT_SLA_READS) ↔
      List.IsChain (Fits summaries) (s :: scenes) := by
  induction scenes generalizing s with
  | nil =>
    exact iff_of_true (List.forall_mem_singleton.mpr hfour) (List.isChain_singleton s)
  | cons s' scenes ih =>
    obtain ⟨hstep, hrest⟩ := List.isChain_cons_cons.mp hrun
    have hfits := h.fits_iff hstep hfour
    rw [List.isChain_cons_cons, ← hfits]
    by_cases hfour' : s'.beingRead.card ≤ MAX_CONCURRENT_SLA_READS
    · rw [List.forall_mem_cons, ih (h.step hstep) hfour' hrest]
      exact and_congr_left fun _ => iff_of_true hfour hfour'
    · refine iff_of_false (fun hall => hfour' ?_) fun hchain => hfour' hchain.1
      exact hall s' (List.mem_cons_of_mem _ List.mem_cons_self)

end FetchScene

/-- **Every summary is accounted for.** In every run of `fetchProviderSlas`, in whatever order the
reads come back and however they end, each read is started once and the call returns every summary
once, after at most six steps for each. No more than four summaries are being read if and only if no
worker goes on to another summary while a read of the one it leaves is in flight. -/
theorem fetchProviderSlas_accounts {summaries : List ProviderSlaSummary}
    {scenes : List FetchScene}
    (hrun : List.IsChain (FetchStep summaries) (.start summaries :: scenes)) :
    (∀ s ∈ FetchScene.start summaries :: scenes, s.Accounts summaries) ∧
      scenes.length ≤ 6 * summaries.length ∧
      ((∀ s ∈ FetchScene.start summaries :: scenes,
          s.beingRead.card ≤ MAX_CONCURRENT_SLA_READS) ↔
        List.IsChain (FetchScene.Fits summaries) (.start summaries :: scenes)) := by
  obtain ⟨haccounts, hlength⟩ := FetchScene.invariant_start.run_accounts hrun
  rw [FetchScene.remaining_start] at hlength
  exact ⟨haccounts, hlength,
    FetchScene.invariant_start.run_fits_iff FetchScene.card_beingRead_start hrun⟩

/-! ### Samples -/

/-- Summaries with the ids below `n`. -/
def sampleSummaries (n : ℕ) : List ProviderSlaSummary :=
  (List.range n).map fun i => ⟨i, "CUSDC", 1, "GBENEFICIARY", "2026-10-01T00:00:00Z", "aa"⟩

def sampleSlaConfig : SLAConfig := ⟨"CUSDC", ⟨0, []⟩, 3, 10, .active⟩

namespace SampleRun

/-- One summary is read: its configuration, its bond, and then the metadata of its token. -/
def scene₀ : FetchScene := .start (sampleSummaries 1)

def scene₁ : FetchScene := { scene₀ with
  reads := Function.update scene₀.reads 0
    (some (PromisePair.start.settleFst (.ok sampleSlaConfig))) }

def scene₂ : FetchScene := { scene₁ with
  reads := Function.update scene₁.reads 0
    (some ((PromisePair.start.settleFst (.ok sampleSlaConfig)).settleSnd (.ok 77))) }

def scene₃ : FetchScene := scene₂.afterReads (sampleSummaries 1) 0 (.ok (sampleSlaConfig, 77))

def scene₄ : FetchScene := { scene₃ with
  tokenMetadata := [("CUSDC", PromisePair.start.settleFst (.ok 7))] }

def scene₅ : FetchScene := { scene₄ with
  tokenMetadata := [("CUSDC", (PromisePair.start.settleFst (.ok 7)).settleSnd (.ok "USDC"))] }

def scene₆ : FetchScene := scene₅.afterMetadata (sampleSummaries 1) 0 sampleSlaConfig 77
  (.ok (7, "USDC"))

end SampleRun

open SampleRun in
/-- The run of one summary. -/
theorem fetchProviderSlas_one :
    (∀ s ∈ [scene₀, scene₁, scene₂, scene₃, scene₄, scene₅, scene₆],
        s.Accounts (sampleSummaries 1) ∧ s.beingRead.card ≤ MAX_CONCURRENT_SLA_READS) ∧
      scene₆.result (sampleSummaries 1) = some ⟨[⟨0, sampleSlaConfig, 77, 7, "USDC"⟩], []⟩ := by
  have hrun : List.IsChain (FetchStep (sampleSummaries 1))
      (.start (sampleSummaries 1) :: [scene₁, scene₂, scene₃, scene₄, scene₅, scene₆]) := by
    refine List.isChain_cons_cons.mpr ⟨.read rfl (.fst rfl), ?_⟩
    refine List.isChain_cons_cons.mpr ⟨.read rfl (.snd rfl), ?_⟩
    refine List.isChain_cons_cons.mpr ⟨.afterReads (by decide) rfl rfl rfl, ?_⟩
    refine List.isChain_cons_cons.mpr ⟨@FetchStep.metadata _ _ _ _ _ [] _ rfl (.fst rfl), ?_⟩
    refine List.isChain_cons_cons.mpr ⟨@FetchStep.metadata _ _ _ _ _ [] _ rfl (.snd rfl), ?_⟩
    refine List.isChain_cons_cons.mpr ⟨.afterMetadata (by decide) rfl List.mem_cons_self rfl, ?_⟩
    exact List.isChain_singleton _
  have hfits : List.IsChain (FetchScene.Fits (sampleSummaries 1))
      (.start (sampleSummaries 1) :: [scene₁, scene₂, scene₃, scene₄, scene₅, scene₆]) := by
    have hlast : ∀ s s' : FetchScene, s.workers.next = 1 →
        s.Fits (sampleSummaries 1) s' := fun s s' hnext hlt => absurd hlt (by rw [hnext]; decide)
    simp only [List.isChain_cons_cons, List.isChain_singleton, and_true]
    exact ⟨hlast _ _ rfl, hlast _ _ rfl, hlast _ _ rfl, hlast _ _ rfl, hlast _ _ rfl,
      hlast _ _ rfl⟩
  obtain ⟨haccounts, -, hiff⟩ := fetchProviderSlas_accounts hrun
  exact ⟨fun s hs => ⟨haccounts s hs, hiff.mpr hfits s hs⟩, rfl⟩

/-- The first bond of five summaries cannot be read, while their configurations are. -/
def bondRejected : FetchScene :=
  let s : FetchScene := .start (sampleSummaries 5)
  { s with
    reads := Function.update s.reads 0 (some (PromisePair.start.settleSnd (.error .unknown))) }

/-- **Five summaries are being read.** The worker of the first one has gone on to the fifth, while
the configuration of the first one is still to come back. -/
theorem five_being_read :
    List.IsChain (FetchStep (sampleSummaries 5)) [.start (sampleSummaries 5), bondRejected,
        bondRejected.afterReads (sampleSummaries 5) 0 (.error .unknown)] ∧
      (bondRejected.afterReads (sampleSummaries 5) 0 (.error .unknown)).beingRead.card = 5 := by
  refine ⟨?_, by decide⟩
  refine List.isChain_cons_cons.mpr ⟨.read rfl (.snd rfl), ?_⟩
  refine List.isChain_cons_cons.mpr ⟨.afterReads (by decide) rfl rfl rfl, ?_⟩
  exact List.isChain_singleton _

end Web

end SlaSettle
