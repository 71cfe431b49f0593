import Mathlib.Data.List.Basic
import Mathlib.Logic.Relation

/-!
# Programs that call the outside world

A `Program I α` is a syntax for effectful code: it either returns, or
performs one call of the interface `I` and continues with whatever the world answers. Nothing
is assumed about the answers; they are fixed only when the program is *executed* against a
relation `answers` saying which answers the world may give in a state, and what the state is
afterwards.

* `Program.Exec` is the big-step semantics, labelled with the **trace** of calls and answers.
  `exec_bind_iff` and `exec_throwing_bind_iff` take a trace of a sequence apart, the second for
  programs in `ExceptT`, where an error of the first part skips the second.
* `Program.Obeys` bounds the calls a program can perform and the values it can return, and with
  them those of its executions.
* `Program.Runs` is execution against a world that may answer anything.
* `Program.exists_exec`: a world that always answers has an execution of every program, and
  `Program.execute` computes it where each call has one answer.
* `Program.Residual` relates a program to what is left of it after a trace. It is what a thread
  of an interleaving is made of.
-/

namespace Effect

/-- An interface: the calls a program may perform, and the type of the answer to each. -/
structure Interface where
  Call : Type
  Answer : Call → Type

/-- One call together with its answer. -/
abbrev Event (I : Interface) := Σ c : I.Call, I.Answer c

/-- A program over the interface `I` returning an `α`. -/
inductive Program (I : Interface) (α : Type) : Type
  | done (a : α) : Program I α
  | call (c : I.Call) (next : I.Answer c → Program I α) : Program I α

namespace Program

variable {I : Interface} {α β ε σ : Type}

/-- Sequencing: graft the continuation at every return. -/
protected def bind : Program I α → (α → Program I β) → Program I β
  | done a, f => f a
  | call c next, f => call c fun r => (next r).bind f

instance : Monad (Program I) where
  pure := done
  bind := Program.bind

@[simp]
theorem pure_eq_done (a : α) : (pure a : Program I α) = done a := rfl

@[simp]
theorem done_bind (a : α) (f : α → Program I β) : done a >>= f = f a := rfl

@[simp]
theorem call_bind (c : I.Call) (next : I.Answer c → Program I α) (f : α → Program I β) :
    call c next >>= f = call c fun r => next r >>= f := rfl

/-- Perform one call and return its answer. -/
def perform (c : I.Call) : Program I (I.Answer c) := call c done

/-! ### Execution against a world -/

/-- `Exec answers p s tr a s'`: started in the world state `s`, the program `p` may perform the
calls of `tr` with the answers recorded there, return `a`, and leave the world in `s'`. -/
inductive Exec (answers : σ → (c : I.Call) → I.Answer c → σ → Prop) :
    Program I α → σ → List (Event I) → α → σ → Prop
  | done {a : α} {s : σ} : Exec answers (done a) s [] a s
  | call {c : I.Call} {next : I.Answer c → Program I α} {r : I.Answer c} {s s' s'' : σ}
      {tr : List (Event I)} {a : α} (here : answers s c r s')
      (rest : Exec answers (next r) s' tr a s'') :
      Exec answers (call c next) s (⟨c, r⟩ :: tr) a s''

variable {answers : σ → (c : I.Call) → I.Answer c → σ → Prop}

@[simp]
theorem exec_done_iff {a b : α} {s s' : σ} {tr : List (Event I)} :
    Exec answers (.done a) s tr b s' ↔ tr = [] ∧ b = a ∧ s' = s := by
  constructor
  · rintro ⟨⟩
    exact ⟨rfl, rfl, rfl⟩
  · rintro ⟨rfl, rfl, rfl⟩
    exact .done

theorem exec_call_iff {c : I.Call} {next : I.Answer c → Program I α} {s s'' : σ}
    {tr : List (Event I)} {a : α} :
    Exec answers (.call c next) s tr a s'' ↔
      ∃ r s' tr', answers s c r s' ∧ Exec answers (next r) s' tr' a s'' ∧
        tr = ⟨c, r⟩ :: tr' := by
  constructor
  · rintro ⟨⟩
    exact ⟨_, _, _, ‹_›, ‹_›, rfl⟩
  · rintro ⟨r, s', tr', here, rest, rfl⟩
    exact .call here rest

theorem exec_perform_iff {c : I.Call} {s s' : σ} {tr : List (Event I)} {r : I.Answer c} :
    Exec answers (perform c) s tr r s' ↔ answers s c r s' ∧ tr = [⟨c, r⟩] := by
  simp only [perform, exec_call_iff, exec_done_iff]
  constructor
  · rintro ⟨r', t, tr', here, ⟨rfl, rfl, rfl⟩, rfl⟩
    exact ⟨here, rfl⟩
  · rintro ⟨here, rfl⟩
    exact ⟨r, s', [], here, ⟨rfl, rfl, rfl⟩, rfl⟩

/-- **Sequencing.** An execution of `p >>= f` is an execution of `p` followed by one of `f`. -/
theorem exec_bind_iff {p : Program I α} {f : α → Program I β} {s s'' : σ}
    {tr : List (Event I)} {b : β} :
    Exec answers (p >>= f) s tr b s'' ↔
      ∃ tr₁ a s' tr₂, Exec answers p s tr₁ a s' ∧ Exec answers (f a) s' tr₂ b s'' ∧
        tr = tr₁ ++ tr₂ := by
  induction p generalizing s tr with
  | done a =>
    constructor
    · intro h
      exact ⟨[], a, s, tr, .done, h, rfl⟩
    · rintro ⟨tr₁, a', s', tr₂, h₁, h₂, rfl⟩
      obtain ⟨rfl, rfl, rfl⟩ := exec_done_iff.mp h₁
      exact h₂
  | call c next ih =>
    rw [call_bind, exec_call_iff]
    constructor
    · rintro ⟨r, s₁, tr', here, rest, rfl⟩
      obtain ⟨tr₁, a, s', tr₂, h₁, h₂, rfl⟩ := (ih r).mp rest
      exact ⟨_, a, s', tr₂, .call here h₁, h₂, rfl⟩
    · rintro ⟨tr₁, a, s', tr₂, h₁, h₂, rfl⟩
      obtain ⟨r, s₁, tr', here, rest, rfl⟩ := exec_call_iff.mp h₁
      exact ⟨r, s₁, tr' ++ tr₂, here, (ih r).mpr ⟨tr', a, s', tr₂, rest, h₂, rfl⟩, rfl⟩

/-- Sequencing of programs that may throw: either the first part throws and the second is
skipped, or it returns and the second runs. -/
theorem exec_throwing_bind_iff {p : ExceptT ε (Program I) α} {f : α → ExceptT ε (Program I) β}
    {s s'' : σ} {tr : List (Event I)} {r : Except ε β} :
    Exec answers (p >>= f : ExceptT ε (Program I) β) s tr r s'' ↔
      (∃ e, Exec answers p s tr (.error e) s'' ∧ r = .error e) ∨
      ∃ tr₁ a s' tr₂, Exec answers p s tr₁ (.ok a) s' ∧ Exec answers (f a) s' tr₂ r s'' ∧
        tr = tr₁ ++ tr₂ := by
  change Exec answers (Program.bind p (ExceptT.bindCont f)) s tr r s'' ↔ _
  rw [show Program.bind p (ExceptT.bindCont f)
    = (show Program I (Except ε α) from p) >>= ExceptT.bindCont f from rfl, exec_bind_iff]
  constructor
  · rintro ⟨tr₁, a | a, s', tr₂, h₁, h₂, rfl⟩
    · obtain ⟨rfl, rfl, rfl⟩ := exec_done_iff.mp h₂
      exact .inl ⟨a, by simpa using h₁, rfl⟩
    · exact .inr ⟨tr₁, a, s', tr₂, h₁, h₂, rfl⟩
  · rintro (⟨e, h, rfl⟩ | ⟨tr₁, a, s', tr₂, h₁, h₂, rfl⟩)
    · exact ⟨tr, .error e, s'', [], h, .done, by simp⟩
    · exact ⟨tr₁, .ok a, s', tr₂, h₁, h₂, rfl⟩

/-- A world that answers more admits every execution of one that answers less. -/
theorem Exec.mono {answers' : σ → (c : I.Call) → I.Answer c → σ → Prop}
    (hsub : ∀ s c r s', answers s c r s' → answers' s c r s') {p : Program I α} {s s' : σ}
    {tr : List (Event I)} {a : α} (h : Exec answers p s tr a s') : Exec answers' p s tr a s' := by
  induction h with
  | done => exact .done
  | call here _ ih => exact .call (hsub _ _ _ _ here) ih

/-- **Invariants.** What every answer of the world preserves, every execution preserves. -/
theorem Exec.preserves {P : σ → Prop} (hstep : ∀ s c r s', answers s c r s' → P s → P s')
    {p : Program I α} {s s' : σ} {tr : List (Event I)} {a : α} (h : Exec answers p s tr a s')
    (hs : P s) : P s' := by
  induction h with
  | done => exact hs
  | call here _ ih => exact ih (hstep _ _ _ _ here hs)

/-- Every answer in a trace is one the world gave. -/
theorem Exec.answered {p : Program I α} {s s' : σ} {tr : List (Event I)} {a : α}
    (h : Exec answers p s tr a s') : ∀ e ∈ tr, ∃ t t', answers t e.1 e.2 t' := by
  induction h with
  | done => simp
  | call here _ ih => exact List.forall_mem_cons.mpr ⟨⟨_, _, here⟩, ih⟩

/-! ### Which calls a program performs -/

/-- Every call the program can come to perform satisfies `P`, and every value it can return
satisfies `Q`. -/
inductive Obeys (P : I.Call → Prop) (Q : α → Prop) : Program I α → Prop
  | done {a : α} (result : Q a) : Obeys P Q (done a)
  | call {c : I.Call} {next : I.Answer c → Program I α} (here : P c)
      (rest : ∀ r, Obeys P Q (next r)) : Obeys P Q (call c next)

/-- Sequencing: the second part may rely on what the first one returns. -/
theorem Obeys.bind {P : I.Call → Prop} {R : α → Prop} {Q : β → Prop} {p : Program I α}
    {f : α → Program I β} (hp : p.Obeys P R) (hf : ∀ a, R a → (f a).Obeys P Q) :
    (p >>= f).Obeys P Q := by
  induction hp with
  | done result => exact hf _ result
  | call here _ ih => exact .call here ih

theorem Obeys.mono {P P' : I.Call → Prop} {Q Q' : α → Prop} {p : Program I α} (h : p.Obeys P Q)
    (hP : ∀ c, P c → P' c) (hQ : ∀ a, Q a → Q' a) : p.Obeys P' Q' := by
  induction h with
  | done result => exact .done (hQ _ result)
  | call here _ ih => exact .call (hP _ here) ih

/-- An execution has such calls and such a result. -/
theorem Exec.obeys {P : I.Call → Prop} {Q : α → Prop} {p : Program I α} {s s' : σ}
    {tr : List (Event I)} {a : α} (h : Exec answers p s tr a s') (hp : p.Obeys P Q) :
    (∀ e ∈ tr, P e.1) ∧ Q a := by
  induction h with
  | done =>
    cases hp with
    | done result => exact ⟨by simp, result⟩
  | call _ _ ih =>
    cases hp with
    | call here rest =>
      obtain ⟨hcalls, hresult⟩ := ih (rest _)
      exact ⟨List.forall_mem_cons.mpr ⟨here, hcalls⟩, hresult⟩

/-! ### Runs in a world that may answer anything -/

/-- `Runs p tr a`: with the answers recorded in `tr`, the program `p` returns `a`. -/
def Runs (p : Program I α) (tr : List (Event I)) (a : α) : Prop :=
  Exec (fun (_ : Unit) _ _ _ => True) p () tr a ()

theorem runs_call_iff {c : I.Call} {next : I.Answer c → Program I α} {tr : List (Event I)}
    {a : α} :
    Runs (.call c next) tr a ↔ ∃ r tr', Runs (next r) tr' a ∧ tr = ⟨c, r⟩ :: tr' := by
  simp only [Runs, exec_call_iff, true_and]
  exact ⟨fun ⟨r, _, tr', h, e⟩ => ⟨r, tr', h, e⟩, fun ⟨r, tr', h, e⟩ => ⟨r, (), tr', h, e⟩⟩

theorem Runs.call {c : I.Call} {next : I.Answer c → Program I α} {r : I.Answer c}
    {tr : List (Event I)} {a : α} (h : Runs (next r) tr a) : Runs (.call c next) (⟨c, r⟩ :: tr) a :=
  runs_call_iff.mpr ⟨r, tr, h, rfl⟩

theorem Runs.done {a : α} : Runs (.done a : Program I α) [] a := Exec.done

theorem runs_perform_bind_iff {c : I.Call} {f : I.Answer c → Program I α} {tr : List (Event I)}
    {a : α} :
    Runs (perform c >>= f) tr a ↔ ∃ r tr', Runs (f r) tr' a ∧ tr = ⟨c, r⟩ :: tr' :=
  runs_call_iff

theorem runs_done_iff {a b : α} {tr : List (Event I)} :
    Runs (.done a : Program I α) tr b ↔ tr = [] ∧ b = a := by
  rw [Runs, exec_done_iff]
  exact ⟨fun ⟨htr, hb, _⟩ => ⟨htr, hb⟩, fun ⟨htr, hb⟩ => ⟨htr, hb, rfl⟩⟩

/-- An execution against any world is a run. -/
theorem Exec.runs {p : Program I α} {s s' : σ} {tr : List (Event I)} {a : α}
    (h : Exec answers p s tr a s') : Runs p tr a := by
  induction h with
  | done => exact .done
  | call _ _ ih => exact runs_call_iff.mpr ⟨_, _, ih, rfl⟩

/-! ### Worlds that always answer -/

/-- In a world that has an answer to every call, a program has an execution. -/
theorem exists_exec (hserial : ∀ s c, ∃ r s', answers s c r s') (p : Program I α) (s : σ) :
    ∃ tr a s', Exec answers p s tr a s' := by
  induction p generalizing s with
  | done a => exact ⟨[], a, s, .done⟩
  | call c next ih =>
    obtain ⟨r, s₁, here⟩ := hserial s c
    obtain ⟨tr, a, s', rest⟩ := ih r s₁
    exact ⟨⟨c, r⟩ :: tr, a, s', .call here rest⟩

/-- Execute a program, given the answer to each call. -/
def execute (answer : (c : I.Call) → I.Answer c) : Program I α → List (Event I) × α
  | done a => ([], a)
  | call c next =>
    let rest := (next (answer c)).execute answer
    (⟨c, answer c⟩ :: rest.1, rest.2)

theorem runs_execute (answer : (c : I.Call) → I.Answer c) (p : Program I α) :
    Runs p (p.execute answer).1 (p.execute answer).2 := by
  induction p with
  | done a => exact .done
  | call c next ih => exact (ih (answer c)).call

theorem answer_of_mem_execute {answer : (c : I.Call) → I.Answer c} {p : Program I α} {c : I.Call}
    {r : I.Answer c} (h : ⟨c, r⟩ ∈ (p.execute answer).1) : r = answer c := by
  induction p with
  | done a => cases h
  | call c' next ih =>
    rcases List.mem_cons.mp h with hhere | hrest
    · cases hhere
      rfl
    · exact ih (answer c') hrest

/-- Execute a program, given the answer to each call in each state. -/
def executeIn (answer : σ → (c : I.Call) → I.Answer c × σ) : Program I α → σ → List (Event I) × α
  | done a, _ => ([], a)
  | call c next, s =>
    let rest := (next (answer s c).1).executeIn answer (answer s c).2
    (⟨c, (answer s c).1⟩ :: rest.1, rest.2)

theorem runs_executeIn (answer : σ → (c : I.Call) → I.Answer c × σ) (p : Program I α) (s : σ) :
    Runs p (p.executeIn answer s).1 (p.executeIn answer s).2 := by
  induction p generalizing s with
  | done a => exact .done
  | call c next ih => exact (ih (answer s c).1 (answer s c).2).call

/-! ### Parts of a trace -/

/-- An entry of a list is in its first part or in its second. -/
theorem append_eq_append_cons {α : Type} {xs ys before after : List α} {x : α}
    (h : xs ++ ys = before ++ x :: after) :
    (∃ mid, xs = before ++ x :: mid ∧ after = mid ++ ys) ∨
      ∃ mid, before = xs ++ mid ∧ ys = mid ++ x :: after := by
  obtain ⟨mid, rfl, rfl⟩ | ⟨mid, rfl, hmid⟩ := List.append_eq_append_iff.mp h
  · exact .inr ⟨mid, rfl, rfl⟩
  · cases mid with
    | nil => exact .inr ⟨[], by simp, by simpa using hmid.symm⟩
    | cons y mid =>
      obtain ⟨rfl, rfl⟩ := List.cons.inj hmid
      exact .inl ⟨mid, rfl, rfl⟩

/-- An entry that is not in the second part of a list is in the first, where the first says. -/
theorem append_eq_of_notMem_right {α : Type} {xs ys before after : List α} {x : α}
    (h : xs ++ ys = before ++ x :: after) (hx : x ∉ ys) : ∃ after', xs = before ++ x :: after' := by
  rcases append_eq_append_cons h with ⟨mid, hmid, -⟩ | ⟨mid, -, rfl⟩
  · exact ⟨mid, hmid⟩
  · exact absurd (List.mem_append_right _ List.mem_cons_self) hx

/-- An entry that is not in the first part of a list is in the second. -/
theorem append_eq_of_notMem_left {α : Type} {xs ys before after : List α} {x : α}
    (h : xs ++ ys = before ++ x :: after) (hx : x ∉ xs) :
    ∃ before', before = xs ++ before' ∧ ys = before' ++ x :: after := by
  rcases append_eq_append_cons h with ⟨mid, rfl, -⟩ | hbehind
  · exact absurd (List.mem_append_right _ List.mem_cons_self) hx
  · exact hbehind

/-! ### What is left of a program -/

/-- `Residual p tr q`: after the calls and answers of `tr`, the program `p` has become `q`. -/
inductive Residual : Program I α → List (Event I) → Program I α → Prop
  | refl {p : Program I α} : Residual p [] p
  | call {c : I.Call} {next : I.Answer c → Program I α} {r : I.Answer c}
      {tr : List (Event I)} {q : Program I α} (rest : Residual (next r) tr q) :
      Residual (.call c next) (⟨c, r⟩ :: tr) q

theorem residual_done_iff {a : α} {tr : List (Event I)} {q : Program I α} :
    Residual (.done a) tr q ↔ tr = [] ∧ q = .done a := by
  constructor
  · rintro ⟨⟩
    exact ⟨rfl, rfl⟩
  · rintro ⟨rfl, rfl⟩
    exact .refl

theorem residual_call_iff {c : I.Call} {next : I.Answer c → Program I α} {tr : List (Event I)}
    {q : Program I α} :
    Residual (.call c next) tr q ↔
      (tr = [] ∧ q = .call c next) ∨
        ∃ r tr', Residual (next r) tr' q ∧ tr = ⟨c, r⟩ :: tr' := by
  constructor
  · intro h
    cases h with
    | refl => exact .inl ⟨rfl, rfl⟩
    | call rest => exact .inr ⟨_, _, rest, rfl⟩
  · rintro (⟨rfl, rfl⟩ | ⟨r, tr', rest, rfl⟩)
    · exact .refl
    · exact .call rest

/-- A residual program moves on by one more answer. -/
theorem Residual.snoc {p : Program I α} {tr : List (Event I)} {c : I.Call}
    {next : I.Answer c → Program I α} (h : Residual p tr (.call c next)) (r : I.Answer c) :
    Residual p (tr ++ [⟨c, r⟩]) (next r) := by
  generalize hq : Program.call c next = q at h
  induction h with
  | refl => subst hq; exact .call .refl
  | call _ ih => exact .call (ih hq)

end Program

end Effect
