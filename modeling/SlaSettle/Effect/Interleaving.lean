import SlaSettle.Effect.Program

/-!
# Sessions and interleavings of one program

Two ways in which the executions of one program share a world:

* `Session`: one execution after another, each run to its end before the next begins;
* `Pool.Step`: any number of executions at once, started at any time, each answered one call at
  a time in any order, and removed when it has returned.

In a pool the world may look at what a thread has done before it answers, so a condition on the
steps of a run is a pool with a stricter world; `Pool.Reachable.mono` compares the two.
`Pool.Reachable.invariant` is the proof rule: an invariant of the world together with an assertion
about each thread's own trace, where every answer must keep the assertions of the *other* threads.
-/

namespace Effect

open Program

variable {I : Interface} {α σ : Type}

/-! ### One execution after another -/

/-- `Session answers p s log s'`: executing `p` again and again from the world `s`, the list `log`
records the trace and the result of every execution, and the world is `s'` after the last. -/
inductive Session (answers : σ → (c : I.Call) → I.Answer c → σ → Prop) (p : Program I α) (s : σ) :
    List (List (Event I) × α) → σ → Prop
  | nil : Session answers p s [] s
  | snoc {log : List (List (Event I) × α)} {s' s'' : σ} {tr : List (Event I)} {a : α}
      (before : Session answers p s log s') (last : Exec answers p s' tr a s'') :
      Session answers p s (log ++ [(tr, a)]) s''

theorem Session.mono {answers answers' : σ → (c : I.Call) → I.Answer c → σ → Prop}
    {p : Program I α} {s s' : σ} {log : List (List (Event I) × α)}
    (h : Session answers p s log s') (hsub : ∀ s c r s', answers s c r s' → answers' s c r s') :
    Session answers' p s log s' := by
  induction h with
  | nil => exact .nil
  | snoc _ last ih => exact ih.snoc (last.mono hsub)

/-- One session after another. -/
theorem Session.append {answers : σ → (c : I.Call) → I.Answer c → σ → Prop} {p : Program I α}
    {s s' s'' : σ} {log log' : List (List (Event I) × α)} (h : Session answers p s log s')
    (h' : Session answers p s' log' s'') : Session answers p s (log ++ log') s'' := by
  induction h' with
  | nil => rwa [List.append_nil]
  | snoc _ last ih =>
    rw [← List.append_assoc]
    exact ih.snoc last

/-! ### Executions side by side -/

/-- An execution in flight: what it has done, and what is left to do. -/
structure Thread (I : Interface) (α : Type) where
  trace : List (Event I)
  rest : Program I α

/-- A world shared by the executions in flight. -/
structure Pool (σ : Type) (I : Interface) (α : Type) where
  world : σ
  threads : List (Thread I α)

namespace Pool

/-- One step of a pool: an execution of `p` starts, one of those in flight is answered, or one
that has returned leaves. -/
inductive Step (answers : List (Event I) → σ → (c : I.Call) → I.Answer c → σ → Prop)
    (p : Program I α) : Pool σ I α → Pool σ I α → Prop
  | start {s : σ} {ts : List (Thread I α)} : Step answers p ⟨s, ts⟩ ⟨s, ⟨[], p⟩ :: ts⟩
  | answer {s s' : σ} {ts₁ ts₂ : List (Thread I α)} {tr : List (Event I)} {c : I.Call}
      {next : I.Answer c → Program I α} {r : I.Answer c} (here : answers tr s c r s') :
      Step answers p ⟨s, ts₁ ++ ⟨tr, .call c next⟩ :: ts₂⟩
        ⟨s', ts₁ ++ ⟨tr ++ [⟨c, r⟩], next r⟩ :: ts₂⟩
  | finish {s : σ} {ts₁ ts₂ : List (Thread I α)} {tr : List (Event I)} {a : α} :
      Step answers p ⟨s, ts₁ ++ ⟨tr, .done a⟩ :: ts₂⟩ ⟨s, ts₁ ++ ts₂⟩

/-- The pools reachable from the world `s` with nothing in flight. -/
def Reachable (answers : List (Event I) → σ → (c : I.Call) → I.Answer c → σ → Prop)
    (p : Program I α) (s : σ) (pool : Pool σ I α) : Prop :=
  Relation.ReflTransGen (Step answers p) ⟨s, []⟩ pool

variable {answers : List (Event I) → σ → (c : I.Call) → I.Answer c → σ → Prop}
  {p : Program I α} {s₀ : σ} {pool : Pool σ I α}

/-- A world that answers more reaches more. -/
theorem Reachable.mono {answers' : List (Event I) → σ → (c : I.Call) → I.Answer c → σ → Prop}
    (hsub : ∀ tr s c r s', answers tr s c r s' → answers' tr s c r s')
    (h : Reachable answers p s₀ pool) : Reachable answers' p s₀ pool := by
  refine Relation.ReflTransGen.mono (fun a b hab => ?_) _ _ h
  cases hab with
  | start => exact .start
  | answer here => exact .answer (hsub _ _ _ _ _ here)
  | finish => exact .finish

/-- An execution may start at any time. -/
theorem Reachable.start {s : σ} {ts : List (Thread I α)} (h : Reachable answers p s₀ ⟨s, ts⟩) :
    Reachable answers p s₀ ⟨s, ⟨[], p⟩ :: ts⟩ :=
  h.tail .start

/-- Any execution in flight may be answered next. -/
theorem Reachable.answer {s s' : σ} (ts₁ : List (Thread I α)) {ts₂ : List (Thread I α)}
    {tr : List (Event I)} {c : I.Call} {next : I.Answer c → Program I α} {r : I.Answer c}
    (h : Reachable answers p s₀ ⟨s, ts₁ ++ ⟨tr, .call c next⟩ :: ts₂⟩)
    (here : answers tr s c r s') :
    Reachable answers p s₀ ⟨s', ts₁ ++ ⟨tr ++ [⟨c, r⟩], next r⟩ :: ts₂⟩ :=
  h.tail (.answer here)

/-- Where the world does not look at traces, what is left of an execution may run to its end with
nothing in between. -/
theorem Reachable.complete {answers : σ → (c : I.Call) → I.Answer c → σ → Prop} {s s' : σ}
    (ts₁ : List (Thread I α)) {ts₂ : List (Thread I α)} {tr tr' : List (Event I)}
    {q : Program I α} {a : α} (h : Reachable (fun _ => answers) p s₀ ⟨s, ts₁ ++ ⟨tr, q⟩ :: ts₂⟩)
    (hexec : Exec answers q s tr' a s') :
    Reachable (fun _ => answers) p s₀ ⟨s', ts₁ ++ ts₂⟩ := by
  induction hexec generalizing tr with
  | done => exact h.tail .finish
  | call here _ ih => exact ih (h.answer ts₁ here)

/-- **The rule for interleavings.** `Inv` holds of the world and `Loc` of the world and each
thread's trace in every reachable pool, provided the answer to any one thread keeps `Inv`,
keeps that thread's own `Loc`, and leaves the `Loc` of every other thread standing. -/
theorem Reachable.invariant (Inv : σ → Prop) (Loc : σ → List (Event I) → Prop)
    (hinit : Inv s₀) (hstart : ∀ s, Inv s → Loc s [])
    (hown : ∀ {tr c next s r s'}, Residual p tr (.call c next) → Inv s → Loc s tr →
      answers tr s c r s' → Inv s' ∧ Loc s' (tr ++ [⟨c, r⟩]))
    (hother : ∀ {tr c next s r s'}, Residual p tr (.call c next) → Inv s → Loc s tr →
      answers tr s c r s' → ∀ tr', Loc s tr' → Loc s' tr')
    (h : Reachable answers p s₀ pool) :
    Inv pool.world ∧ ∀ t ∈ pool.threads, Residual p t.trace t.rest ∧ Loc pool.world t.trace := by
  induction h with
  | refl => exact ⟨hinit, by simp⟩
  | tail _ hstep ih =>
    obtain ⟨hinv, hts⟩ := ih
    cases hstep with
    | start =>
      refine ⟨hinv, fun t ht => ?_⟩
      rcases List.mem_cons.mp ht with rfl | ht
      · exact ⟨.refl, hstart _ hinv⟩
      · exact hts t ht
    | @answer s s' ts₁ ts₂ tr c next r here =>
      obtain ⟨hres, hloc⟩ := hts ⟨tr, .call c next⟩ (by simp)
      obtain ⟨hinv', hloc'⟩ := hown hres hinv hloc here
      refine ⟨hinv', fun t ht => ?_⟩
      rcases List.mem_append.mp ht with ht | ht
      · obtain ⟨hr, hl⟩ := hts t (by simp [ht])
        exact ⟨hr, hother hres hinv hloc here _ hl⟩
      · rcases List.mem_cons.mp ht with rfl | ht
        · exact ⟨hres.snoc r, hloc'⟩
        · obtain ⟨hr, hl⟩ := hts t (by simp [ht])
          exact ⟨hr, hother hres hinv hloc here _ hl⟩
    | finish =>
      refine ⟨hinv, fun t ht => hts t ?_⟩
      rcases List.mem_append.mp ht with ht | ht <;> simp [ht]

end Pool

end Effect
