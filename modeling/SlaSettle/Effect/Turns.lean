import SlaSettle.Effect.Throwing

/-!
# Turns of an event loop

A host with one thread runs a task until the task awaits an answer that is not there yet, and only
then takes up another one. Calls that only change the host's own state are answered within the turn;
`Immediate` says which ones, and how.

* `Program.turn` is what happens in one turn of a task.
* `AwaitsIn now G B Q p s` says that, while the answers are in `G`, the host's state satisfies `B`
  whenever `p` awaits one, and `Q` when it has ended, as long as nobody else changes that state.
  `AwaitsIn.turn` is the step.
* `Serial` says of the log of a host that its tasks followed one another: it is made of whole runs,
  and of a part of one more if a task is waiting.
-/

namespace Effect

open Program

variable {I : Interface} {α β ε σ : Type}

/-- The calls answered within a turn: the answer, and what becomes of the state. -/
abbrev Immediate (I : Interface) (σ : Type) : Type := (c : I.Call) → σ → Option (I.Answer c × σ)

/-- Run a task up to the first call that is not answered within the turn: the calls it performed,
what is left of it, and the state. -/
def Program.turn (now : Immediate I σ) : Program I α → σ → List (Event I) × Program I α × σ
  | done a, s => ([], done a, s)
  | call c next, s =>
    match now c s with
    | none => ([], call c next, s)
    | some (r, s') =>
      let rest := (next r).turn now s'
      (⟨c, r⟩ :: rest.1, rest.2)

/-- The tasks that a task leaves waiting: itself, unless it has ended. -/
def Program.waiting : Program I α → List (Program I α)
  | done _ => []
  | call c next => [call c next]

/-- What is left of a task after a turn. -/
theorem residual_turn (now : Immediate I σ) (p : Program I α) (s : σ) :
    Residual p (p.turn now s).1 (p.turn now s).2.1 := by
  induction p generalizing s with
  | done a => exact .refl
  | call c next ih =>
    rw [turn]
    cases hnow : now c s with
    | none => exact .refl
    | some answer => exact .call (ih answer.1 answer.2)

theorem Program.Residual.trans {p q u : Program I α} {tr tr' : List (Event I)} (h : Residual p tr q)
    (h' : Residual q tr' u) : Residual p (tr ++ tr') u := by
  induction h with
  | refl => exact h'
  | call _ ih => exact .call (ih h')

/-- A task of which a value is left has run. -/
theorem residual_done_iff_runs {p : Program I α} {tr : List (Event I)} {a : α} :
    Residual p tr (.done a) ↔ Runs p tr a := by
  constructor
  · intro h
    generalize hq : Program.done a = q at h
    induction h with
    | refl => exact hq ▸ .done
    | call _ ih => exact runs_call_iff.mpr ⟨_, _, ih hq, rfl⟩
  · intro h
    induction p generalizing tr with
    | done b =>
      obtain ⟨rfl, rfl⟩ := runs_done_iff.mp h
      exact .refl
    | call c next ih =>
      obtain ⟨r, tr', rest, rfl⟩ := runs_call_iff.mp h
      exact .call (ih r rest)

/-! ### The state at an await -/

section

variable {now : Immediate I σ} {G : Event I → Prop} {B : σ → Prop}

/-- From `s` on, while the answers are in `G`, the state satisfies `B` at every await, and `Q` at the
end. -/
inductive AwaitsIn (now : Immediate I σ) (G : Event I → Prop) (B : σ → Prop) (Q : α → σ → Prop) :
    Program I α → σ → Prop
  | done {a : α} {s : σ} (result : Q a s) : AwaitsIn now G B Q (done a) s
  | now {c : I.Call} {next : I.Answer c → Program I α} {r : I.Answer c} {s s' : σ}
      (here : now c s = some (r, s')) (rest : AwaitsIn now G B Q (next r) s') :
      AwaitsIn now G B Q (call c next) s
  | later {c : I.Call} {next : I.Answer c → Program I α} {s : σ} (here : now c s = none) (hB : B s)
      (rest : ∀ r, G ⟨c, r⟩ → AwaitsIn now G B Q (next r) s) : AwaitsIn now G B Q (call c next) s

theorem AwaitsIn.bind {R : α → σ → Prop} {Q : β → σ → Prop} {p : Program I α}
    {f : α → Program I β} {s : σ} (hp : AwaitsIn now G B R p s)
    (hf : ∀ a s', R a s' → AwaitsIn now G B Q (f a) s') : AwaitsIn now G B Q (p >>= f) s := by
  induction hp with
  | done result => exact hf _ _ result
  | now here _ ih => exact .now here ih
  | later here hB _ ih => exact .later here hB ih

theorem AwaitsIn.mono {B' : σ → Prop} {Q Q' : α → σ → Prop} {p : Program I α} {s : σ}
    (h : AwaitsIn now G B Q p s) (hB : ∀ s, B s → B' s) (hQ : ∀ a s, Q a s → Q' a s) :
    AwaitsIn now G B' Q' p s := by
  induction h with
  | done result => exact .done (hQ _ _ result)
  | now here _ ih => exact .now here ih
  | later here hs _ ih => exact .later here (hB _ hs) ih

/-- **One turn**: the task has ended, or it awaits. -/
theorem AwaitsIn.turn {Q : α → σ → Prop} {p : Program I α} {s : σ} (h : AwaitsIn now G B Q p s) :
    (∃ a, (p.turn now s).2.1 = .done a ∧ Q a (p.turn now s).2.2) ∨
    ∃ c next, (p.turn now s).2.1 = .call c next ∧ now c (p.turn now s).2.2 = none ∧
      B (p.turn now s).2.2 ∧ ∀ r, G ⟨c, r⟩ → AwaitsIn now G B Q (next r) (p.turn now s).2.2 := by
  induction h with
  | done result => exact .inl ⟨_, rfl, result⟩
  | now here _ ih => rwa [Program.turn, here]
  | later here hB rest =>
    rw [Program.turn, here]
    exact .inr ⟨_, _, rfl, here, hB, rest⟩

/-! ### Programs that may fail -/

theorem awaitsIn_return {Q : Except ε α → σ → Prop} {a : α} {s : σ} (h : Q (.ok a) s) :
    AwaitsIn now G B Q (pure a : ExceptT ε (Program I) α) s :=
  .done h

theorem awaitsIn_attempt {Q : Except ε α → σ → Prop} {x : Except ε α} {s : σ} (h : Q x s) :
    AwaitsIn now G B Q (attempt x : ExceptT ε (Program I) α) s :=
  .done h

/-- Sequencing: the second part starts in the state the first one leaves. -/
theorem awaitsIn_bind {R : Except ε α → σ → Prop} {Q : Except ε β → σ → Prop}
    {p : ExceptT ε (Program I) α} {f : α → ExceptT ε (Program I) β} {s : σ}
    (hp : AwaitsIn now G B R p s) (hok : ∀ a s', R (.ok a) s' → AwaitsIn now G B Q (f a) s')
    (herror : ∀ e s', R (.error e) s' → Q (.error e) s') :
    AwaitsIn now G B Q (p >>= f : ExceptT ε (Program I) β) s := by
  refine AwaitsIn.bind hp fun r s' hr => ?_
  match r with
  | .ok a => exact hok a s' hr
  | .error e => exact .done (herror e s' hr)

/-- Catching: the handler starts in the state in which the body failed. -/
theorem awaitsIn_tryCatch {R Q : Except ε α → σ → Prop} {p : ExceptT ε (Program I) α}
    {handle : ε → ExceptT ε (Program I) α} {s : σ} (hp : AwaitsIn now G B R p s)
    (hok : ∀ a s', R (.ok a) s' → Q (.ok a) s')
    (herror : ∀ e s', R (.error e) s' → AwaitsIn now G B Q (handle e) s') :
    AwaitsIn now G B Q (tryCatch p handle : ExceptT ε (Program I) α) s := by
  refine AwaitsIn.bind hp fun r s' hr => ?_
  match r with
  | .ok a => exact .done (hok a s' hr)
  | .error e => exact herror e s' hr

end

section

variable {Call : Type} {Returns : Call → Type} {now : Immediate (throwing ε Returns) σ}
  {G : Event (throwing ε Returns) → Prop} {B : σ → Prop} {c : Call} {s s' : σ}

/-- A call whose answer has to be waited for; its error is the program's. -/
theorem awaitsIn_ask (here : now c s = none) (hB : B s) :
    AwaitsIn now G B (fun (r : Except ε (Returns c)) s' => G ⟨c, r⟩ ∧ s' = s)
      (ask c : Throwing ε Returns (Returns c)) s :=
  .later here hB fun _ hr => .done ⟨hr, rfl⟩

/-- A call answered within the turn, and then more. -/
theorem awaitsIn_ask_bind_now {a : Returns c} {Q : Except ε β → σ → Prop}
    {f : Returns c → Throwing ε Returns β} (here : now c s = some (.ok a, s'))
    (h : AwaitsIn now G B Q (f a) s') : AwaitsIn now G B Q (ask c >>= f : Throwing ε Returns β) s := by
  rw [ask_bind]
  exact .now here h

end

/-! ### One task after the other -/

/-- The tasks waiting on a host, and its log: `n` tasks of the kind `P` were started one after the
other, of which all but the one still waiting have run. -/
inductive Serial (P : Program I α → Prop) : ℕ → List (Program I α) → List (Event I) → Prop
  | idle {runs : List (List (Event I))} (whole : ∀ tr ∈ runs, ∃ p a, P p ∧ Runs p tr a) :
      Serial P runs.length [] runs.flatten
  | waits {runs : List (List (Event I))} {p q : Program I α} {tr : List (Event I)}
      (whole : ∀ tr ∈ runs, ∃ p a, P p ∧ Runs p tr a) (kind : P p) (left : Residual p tr q) :
      Serial P (runs.length + 1) [q] (runs.flatten ++ tr)

section

variable {P : Program I α → Prop} {n : ℕ} {log : List (Event I)}

theorem Serial.length_le {tasks : List (Program I α)} (h : Serial P n tasks log) :
    tasks.length ≤ 1 := by
  cases h with
  | idle => exact Nat.zero_le _
  | waits => exact Nat.le_refl _

/-- A task that has got somewhere is waiting, or its run is over. -/
private theorem serial_waiting {runs : List (List (Event I))}
    (whole : ∀ tr ∈ runs, ∃ p a, P p ∧ Runs p tr a) {p q : Program I α} {tr : List (Event I)}
    (kind : P p) (left : Residual p tr q) :
    Serial P (runs.length + 1) q.waiting (runs.flatten ++ tr) := by
  match q with
  | .call c next => exact .waits whole kind left
  | .done a =>
    have hrun : Serial P (runs ++ [tr]).length [] (runs ++ [tr]).flatten := by
      refine .idle fun tr' htr' => ?_
      rcases List.mem_append.mp htr' with htr' | htr'
      · exact whole tr' htr'
      · exact List.mem_singleton.mp htr' ▸ ⟨p, a, kind, residual_done_iff_runs.mp left⟩
    rwa [List.length_append, List.length_singleton, List.flatten_append, List.flatten_singleton]
      at hrun

/-- With nothing waiting, a task is started. -/
theorem Serial.start (h : Serial P n [] log) {p : Program I α} (kind : P p) (now : Immediate I σ)
    (s : σ) : Serial P (n + 1) (p.turn now s).2.1.waiting (log ++ (p.turn now s).1) := by
  generalize htasks : ([] : List (Program I α)) = tasks at h
  cases h with
  | idle whole => exact serial_waiting whole kind (residual_turn now p s)
  | waits => cases htasks

/-- The task that waits gets its answer. -/
theorem Serial.resume {c : I.Call} {next : I.Answer c → Program I α}
    (h : Serial P n [.call c next] log) (r : I.Answer c) (now : Immediate I σ) (s : σ) :
    Serial P n ((next r).turn now s).2.1.waiting (log ++ ⟨c, r⟩ :: ((next r).turn now s).1) := by
  generalize htasks : [Program.call c next] = tasks at h
  cases h with
  | idle => cases htasks
  | @waits runs p q tr whole kind left =>
    obtain rfl : Program.call c next = q := (List.cons.inj htasks).1
    have hleft := (left.snoc r).trans (residual_turn now (next r) s)
    rw [List.append_assoc, List.singleton_append] at hleft
    rw [List.append_assoc]
    exact serial_waiting whole kind hleft

end

/-! ### Counting calls -/

/-- Along every run at most `k` of the calls are counted by `f`. -/
inductive AtMost (f : I.Call → Bool) : ℕ → Program I α → Prop
  | done {k : ℕ} {a : α} : AtMost f k (done a)
  | free {k : ℕ} {c : I.Call} {next : I.Answer c → Program I α} (here : f c = false)
      (rest : ∀ r, AtMost f k (next r)) : AtMost f k (call c next)
  | counted {k : ℕ} {c : I.Call} {next : I.Answer c → Program I α}
      (rest : ∀ r, AtMost f k (next r)) : AtMost f (k + 1) (call c next)

section

variable {f : I.Call → Bool} {k m : ℕ}

theorem AtMost.mono {p : Program I α} (h : AtMost f k p) (hk : k ≤ m) : AtMost f m p := by
  induction h generalizing m with
  | done => exact .done
  | free here _ ih => exact .free here fun r => ih r hk
  | counted _ ih =>
    obtain ⟨m, rfl⟩ : ∃ m', m = m' + 1 := ⟨m - 1, by omega⟩
    exact .counted fun r => ih r (Nat.le_of_succ_le_succ hk)

theorem AtMost.bind {p : Program I α} {next : α → Program I β} (hp : AtMost f k p)
    (hnext : ∀ a, AtMost f m (next a)) : AtMost f (k + m) (p >>= next) := by
  induction hp with
  | done => exact (hnext _).mono (Nat.le_add_left _ _)
  | free here _ ih => exact .free here ih
  | @counted k _ _ _ ih =>
    rw [Nat.succ_add k m]
    exact .counted ih

theorem atMost_ask {Call : Type} {Returns : Call → Type} {f : Call → Bool} {c : Call}
    (hc : f c = false) : AtMost (I := throwing ε Returns) f 0 (ask c) :=
  .free hc fun _ => .done

theorem atMost_ask_one {Call : Type} {Returns : Call → Type} {f : Call → Bool} {c : Call} :
    AtMost (I := throwing ε Returns) f 1 (ask c) :=
  .counted fun _ => .done

/-- Sequencing of programs that may fail. -/
theorem atMost_bind {p : ExceptT ε (Program I) α} {next : α → ExceptT ε (Program I) β}
    (hp : AtMost f k p) (hnext : ∀ a, AtMost f m (next a)) :
    AtMost f (k + m) (p >>= next : ExceptT ε (Program I) β) := by
  refine AtMost.bind hp fun r => ?_
  match r with
  | .ok a => exact hnext a
  | .error e => exact .done

/-- A first part that counts nothing. -/
theorem atMost_bind_free {p : ExceptT ε (Program I) α} {next : α → ExceptT ε (Program I) β}
    (hp : AtMost f 0 p) (hnext : ∀ a, AtMost f m (next a)) :
    AtMost f m (p >>= next : ExceptT ε (Program I) β) :=
  (atMost_bind hp hnext).mono (Nat.le_of_eq (Nat.zero_add m))

theorem atMost_tryCatch {p : ExceptT ε (Program I) α} {handle : ε → ExceptT ε (Program I) α}
    (hp : AtMost f k p) (hhandle : ∀ e, AtMost f m (handle e)) :
    AtMost f (k + m) (tryCatch p handle : ExceptT ε (Program I) α) := by
  refine AtMost.bind hp fun r => ?_
  match r with
  | .ok a => exact .done
  | .error e => exact hhandle e

/-- What a task has performed is counted, and what is left of it counts the rest. -/
theorem AtMost.residual {p q : Program I α} {tr : List (Event I)} (h : AtMost f k p)
    (hres : Residual p tr q) : ∃ j, AtMost f j q ∧ tr.countP (fun e => f e.1) + j ≤ k := by
  induction hres generalizing k with
  | refl => exact ⟨k, h, Nat.le_of_eq (Nat.zero_add k)⟩
  | @call c next r tr q _ ih =>
    cases h with
    | free here rest =>
      rw [List.countP_cons_of_neg (by simp [here])]
      exact ih (rest r)
    | counted rest =>
      obtain ⟨j, hj, hle⟩ := ih (rest r)
      have hcons : (⟨c, r⟩ :: tr : List (Event I)).countP (fun e => f e.1) ≤
          tr.countP (fun e => f e.1) + 1 := by
        rw [List.countP_cons]
        split <;> omega
      exact ⟨j, hj, by omega⟩

/-- Whether the call that a task awaits is counted. -/
def Program.awaits (f : I.Call → Bool) : Program I α → Bool
  | done _ => false
  | call c _ => f c

theorem AtMost.awaits {p : Program I α} (h : AtMost f k p) : (p.awaits f).toNat ≤ k := by
  cases h with
  | done => exact Nat.zero_le _
  | free here _ =>
    rw [Program.awaits, here]
    exact Nat.zero_le _
  | counted _ => exact Nat.le_trans (Bool.toNat_le _) (Nat.le_add_left _ _)

/-- How many of the calls answered so far, and of those awaited, are counted. -/
def asked (f : I.Call → Bool) (tasks : List (Program I α)) (log : List (Event I)) : ℕ :=
  log.countP (fun e => f e.1) + tasks.countP (Program.awaits f)

/-- Over a whole log, `k` for each task that was started. -/
theorem Serial.asked_le {P : Program I α → Prop} {n : ℕ} {tasks : List (Program I α)}
    {log : List (Event I)} (h : Serial P n tasks log) (hP : ∀ p, P p → AtMost f k p) :
    asked f tasks log ≤ n * k := by
  have hruns : ∀ runs : List (List (Event I)), (∀ tr ∈ runs, ∃ p a, P p ∧ Runs p tr a) →
      runs.flatten.countP (fun e => f e.1) ≤ runs.length * k := by
    intro runs whole
    induction runs with
    | nil => simp
    | cons tr runs ih =>
      obtain ⟨⟨p, a, hp, hrun⟩, hrest⟩ := List.forall_mem_cons.mp whole
      obtain ⟨j, -, htr⟩ := (hP p hp).residual (residual_done_iff_runs.mpr hrun)
      rw [List.flatten_cons, List.countP_append, List.length_cons, Nat.succ_mul, Nat.add_comm]
      exact Nat.add_le_add (ih hrest) (Nat.le_trans (Nat.le_add_right _ _) htr)
  cases h with
  | idle whole => exact hruns _ whole
  | @waits runs p q tr whole kind left =>
    obtain ⟨j, hj, htr⟩ := (hP _ kind).residual left
    have hq : [q].countP (Program.awaits f) = (q.awaits f).toNat := by
      rw [List.countP_singleton]
      cases q.awaits f with
      | false => rfl
      | true => rfl
    rw [asked, List.countP_append, hq, Nat.succ_mul, Nat.add_assoc]
    exact Nat.add_le_add (hruns _ whole) (Nat.le_trans (Nat.add_le_add_left hj.awaits _) htr)

end

end Effect
