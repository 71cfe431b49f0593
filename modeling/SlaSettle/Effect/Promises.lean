import Mathlib.Data.List.Nodup
import Mathlib.Logic.Function.Basic

/-!
# Promises and workers

Two patterns of cooperative code. `PromisePair` is `Promise.all` of two promises: it is fulfilled
once both are, and rejected as soon as one is, while the other one may still be pending.
`WorkerPool` is a number of workers that share one index into a list: each takes the next item when
it is done with the one before, and ends when there is none.

`WorkerPool.Valid` says that every item before the shared index is being worked on or has a result,
and that no worker ends before the items do.
-/

namespace Effect

/-! ### Two promises -/

/-- Two promises as far as they have settled, and their `Promise.all`. -/
structure PromisePair (ε α β : Type) where
  fst : Option (Except ε α)
  snd : Option (Except ε β)
  outcome : Option (Except ε (α × β))

namespace PromisePair

variable {ε α β : Type}

/-- Both promises are pending. -/
def start : PromisePair ε α β := ⟨none, none, none⟩

/-- What two promises come to together, as far as they have settled. -/
def combine : Option (Except ε α) → Option (Except ε β) → Option (Except ε (α × β))
  | some (.error e), _ => some (.error e)
  | _, some (.error e) => some (.error e)
  | some (.ok a), some (.ok b) => some (.ok (a, b))
  | _, _ => none

/-- The first promise settles. -/
def settleFst (p : PromisePair ε α β) (r : Except ε α) : PromisePair ε α β :=
  { p with fst := some r, outcome := p.outcome.or (combine (some r) p.snd) }

/-- The second promise settles. -/
def settleSnd (p : PromisePair ε α β) (r : Except ε β) : PromisePair ε α β :=
  { p with snd := some r, outcome := p.outcome.or (combine p.fst (some r)) }

/-- One of the promises settles. -/
inductive Settles (p : PromisePair ε α β) : PromisePair ε α β → Prop
  | fst {r : Except ε α} (pending : p.fst = none) : Settles p (p.settleFst r)
  | snd {r : Except ε β} (pending : p.snd = none) : Settles p (p.settleSnd r)

/-- One of the promises is pending. -/
def InFlight (p : PromisePair ε α β) : Prop := p.fst = none ∨ p.snd = none

instance (p : PromisePair ε α β) : Decidable p.InFlight :=
  decidable_of_iff (p.fst.isNone ∨ p.snd.isNone) (by simp [InFlight])

/-- The number of promises that are pending. -/
def pending (p : PromisePair ε α β) : ℕ := p.fst.isNone.toNat + p.snd.isNone.toNat

/-- One of the promises was rejected with `e`. -/
def RejectedWith (p : PromisePair ε α β) (e : ε) : Prop :=
  p.fst = some (.error e) ∨ p.snd = some (.error e)

/-- Both promises were fulfilled. -/
def FulfilledWith (p : PromisePair ε α β) (a : α) (b : β) : Prop :=
  p.fst = some (.ok a) ∧ p.snd = some (.ok b)

/-- The outcome is that of the promises, and it is there once both have settled. -/
structure Valid (p : PromisePair ε α β) : Prop where
  fulfilled : ∀ a b, p.outcome = some (.ok (a, b)) → p.FulfilledWith a b
  rejected : ∀ e, p.outcome = some (.error e) → p.RejectedWith e
  pending : p.outcome = none → p.InFlight

/-- What has settled in `p` has settled alike in `q`. -/
structure Extends (p q : PromisePair ε α β) : Prop where
  fst : ∀ r, p.fst = some r → q.fst = some r
  snd : ∀ r, p.snd = some r → q.snd = some r

variable {p q : PromisePair ε α β} {x : Option (Except ε α)} {y : Option (Except ε β)}

theorem valid_start : (start : PromisePair ε α β).Valid where
  fulfilled _ _ h := by cases h
  rejected _ h := by cases h
  pending _ := .inl rfl

theorem combine_ok {a : α} {b : β} (h : combine x y = some (.ok (a, b))) :
    x = some (.ok a) ∧ y = some (.ok b) := by
  rcases x with _ | _ | a' <;> rcases y with _ | _ | b' <;> simp_all [combine]

theorem combine_error {e : ε} (h : combine x y = some (.error e)) :
    x = some (.error e) ∨ y = some (.error e) := by
  rcases x with _ | _ | a' <;> rcases y with _ | _ | b' <;> simp_all [combine]

theorem combine_none (h : combine x y = none) : x = none ∨ y = none := by
  rcases x with _ | _ | a' <;> rcases y with _ | _ | b' <;> simp_all [combine]

theorem Extends.refl (p : PromisePair ε α β) : p.Extends p := ⟨fun _ h => h, fun _ h => h⟩

theorem Settles.extends (h : p.Settles q) : p.Extends q := by
  cases h with
  | fst pending => exact ⟨fun _ hr => by simp [pending] at hr, fun _ hr => hr⟩
  | snd pending => exact ⟨fun _ hr => hr, fun _ hr => by simp [pending] at hr⟩

theorem Settles.outcome (h : p.Settles q) : q.outcome = p.outcome.or (combine q.fst q.snd) := by
  cases h with
  | fst pending => rfl
  | snd pending => rfl

theorem Settles.pending (h : p.Settles q) : q.pending + 1 = p.pending := by
  cases h with
  | fst hpending => simp [PromisePair.pending, settleFst, hpending, Nat.add_comm]
  | snd hpending => simp [PromisePair.pending, settleSnd, hpending]

/-- A pending promise can settle. -/
theorem InFlight.exists_settles (h : p.InFlight) (e : ε) : ∃ q, p.Settles q := by
  rcases h with h | h
  · exact ⟨p.settleFst (.error e), .fst h⟩
  · exact ⟨p.settleSnd (.error e), .snd h⟩

theorem Settles.inFlight_of (h : p.Settles q) (hq : q.InFlight) : p.InFlight := by
  cases h with
  | fst pending => exact .inl pending
  | snd pending => exact .inr pending

theorem Extends.rejectedWith (h : p.Extends q) {e : ε} (he : p.RejectedWith e) :
    q.RejectedWith e :=
  he.imp (h.fst _) (h.snd _)

theorem Extends.fulfilledWith (h : p.Extends q) {a : α} {b : β} (hab : p.FulfilledWith a b) :
    q.FulfilledWith a b :=
  ⟨h.fst _ hab.1, h.snd _ hab.2⟩

/-- An outcome stays, and a new one is that of the promises as they are now. -/
theorem Valid.extend (hp : p.Valid) (h : p.Extends q)
    (hq : q.outcome = p.outcome.or (combine q.fst q.snd)) : q.Valid := by
  cases hout : p.outcome with
  | none =>
    rw [hout, Option.none_or] at hq
    exact ⟨fun a b hab => combine_ok (hq ▸ hab), fun e he => combine_error (hq ▸ he),
      fun hnone => combine_none (hq ▸ hnone)⟩
  | some r =>
    rw [hout, Option.some_or, ← hout] at hq
    refine ⟨fun a b hab => h.fulfilledWith (hp.fulfilled a b (hq ▸ hab)),
      fun e he => h.rejectedWith (hp.rejected e (hq ▸ he)), fun hnone => ?_⟩
    rw [hq, hout] at hnone
    cases hnone

theorem Valid.settles (hp : p.Valid) (h : p.Settles q) : q.Valid := hp.extend h.extends h.outcome

end PromisePair

/-! ### Workers -/

/-- Workers that share the index `next` into a list of items. `running` holds the item of each
worker that has not ended. -/
structure WorkerPool (R : Type) where
  next : ℕ
  running : List ℕ
  results : ℕ → Option R

namespace WorkerPool

variable {R : Type}

/-- As many workers as the limit and the items allow have taken an item each. -/
def start (count limit : ℕ) : WorkerPool R :=
  ⟨min limit count, List.range (min limit count), fun _ => none⟩

/-- An item is done. Its worker takes the next one, if there is one. -/
def finish (count : ℕ) (p : WorkerPool R) (i : ℕ) (r : R) : WorkerPool R where
  next := if p.next < count then p.next + 1 else p.next
  running := if p.next < count then p.next :: p.running.erase i else p.running.erase i
  results := Function.update p.results i (some r)

/-- Every item before the index is in work or has a result, and while there are items left no
worker has ended. -/
structure Valid (count limit : ℕ) (p : WorkerPool R) : Prop where
  next_le : p.next ≤ count
  nodup : p.running.Nodup
  running_lt : ∀ i ∈ p.running, i < p.next
  results_iff : ∀ i, (p.results i).isSome = true ↔ i < p.next ∧ i ∉ p.running
  length_le : p.running.length ≤ limit
  full : p.next < count → p.running.length = limit

variable {count limit i : ℕ} {p : WorkerPool R} {r : R}

theorem valid_start : (start count limit : WorkerPool R).Valid count limit where
  next_le := Nat.min_le_right _ _
  nodup := List.nodup_range
  running_lt _ hi := List.mem_range.mp hi
  results_iff i := by simp [start]
  length_le := by
    simp only [start, List.length_range]
    omega
  full h := by
    have hlt : min limit count < count := h
    simp only [start, List.length_range]
    omega

theorem finish_of_lt (h : p.next < count) :
    p.finish count i r =
      ⟨p.next + 1, p.next :: p.running.erase i, Function.update p.results i (some r)⟩ := by
  rw [finish, if_pos h, if_pos h]

theorem finish_of_not_lt (h : ¬ p.next < count) :
    p.finish count i r = ⟨p.next, p.running.erase i, Function.update p.results i (some r)⟩ := by
  rw [finish, if_neg h, if_neg h]

theorem Valid.next_notMem (h : p.Valid count limit) : p.next ∉ p.running :=
  fun hmem => Nat.lt_irrefl _ (h.running_lt _ hmem)

/-- An item is done, and its worker takes the next. -/
theorem Valid.finish_lt (h : p.Valid count limit) (hi : i ∈ p.running) (hmore : p.next < count) :
    (p.finish count i r).Valid count limit := by
  have hlt := h.running_lt i hi
  have hlength : (p.next :: p.running.erase i).length = p.running.length := by
    rw [List.length_cons, List.length_erase_of_mem hi]
    exact Nat.sub_add_cancel (List.length_pos_of_mem hi)
  rw [finish_of_lt hmore]
  refine ⟨hmore, ?_, ?_, ?_, hlength ▸ h.length_le, fun _ => hlength ▸ h.full hmore⟩
  · exact List.nodup_cons.mpr
      ⟨fun hmem => h.next_notMem (List.mem_of_mem_erase hmem), h.nodup.erase i⟩
  · intro j hj
    rcases List.mem_cons.mp hj with rfl | hj
    · exact Nat.lt_succ_self _
    · exact Nat.lt_succ_of_lt (h.running_lt j (List.mem_of_mem_erase hj))
  · intro j
    dsimp only
    rw [List.mem_cons, h.nodup.mem_erase_iff, not_or, not_and]
    by_cases hji : j = i
    · subst hji
      rw [Function.update_self]
      exact iff_of_true rfl ⟨by omega, by omega, fun hne => absurd rfl hne⟩
    · rw [Function.update_of_ne hji, h.results_iff]
      constructor
      · rintro ⟨hj, hnot⟩
        exact ⟨by omega, by omega, fun _ => hnot⟩
      · rintro ⟨hj, hne, hnot⟩
        exact ⟨by omega, hnot hji⟩

/-- An item is done, and its worker ends. -/
theorem Valid.finish_not_lt (h : p.Valid count limit) (hi : i ∈ p.running)
    (hmore : ¬ p.next < count) : (p.finish count i r).Valid count limit := by
  rw [finish_of_not_lt hmore]
  refine ⟨h.next_le, h.nodup.erase i, fun j hj => h.running_lt j (List.mem_of_mem_erase hj), ?_,
    Nat.le_trans List.length_erase_le h.length_le, fun hlt => absurd hlt hmore⟩
  intro j
  dsimp only
  rw [h.nodup.mem_erase_iff, not_and]
  by_cases hji : j = i
  · subst hji
    rw [Function.update_self]
    exact iff_of_true rfl ⟨h.running_lt j hi, fun hne => absurd rfl hne⟩
  · rw [Function.update_of_ne hji, h.results_iff]
    exact and_congr_right fun _ => ⟨fun hnot _ => hnot, fun himp => himp hji⟩

theorem Valid.finish (h : p.Valid count limit) (hi : i ∈ p.running) :
    (p.finish count i r).Valid count limit := by
  by_cases hmore : p.next < count
  · exact h.finish_lt hi hmore
  · exact h.finish_not_lt hi hmore

/-- When all workers have ended, every item has a result. -/
theorem Valid.isSome_results (h : p.Valid count limit) (hlimit : 0 < limit)
    (hended : p.running = []) (hi : i < count) : (p.results i).isSome = true := by
  have hnext : ¬ p.next < count := by
    intro hlt
    have hfull := h.full hlt
    rw [hended, List.length_nil] at hfull
    omega
  rw [h.results_iff, hended]
  exact ⟨by omega, List.not_mem_nil⟩

end WorkerPool

end Effect
