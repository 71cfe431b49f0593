import SlaSettle.Effect.Program

/-!
# Programs that may fail

An `ExceptT ε (Program I)` calls the interface `I` and may fail with an `ε`. `attempt` runs code
that calls nothing, and `observe` performs a call and hands over its answer, whatever it is. Where
every call returns a value or fails with an `ε` (the interface `throwing`), `ask` awaits a call and
makes its error the program's.

The rules take apart what an execution of each does; together with `exec_throwing_bind_iff` they
describe the executions of any such program step by step.
-/

namespace Effect

open Program

/-! ### Any interface -/

section

variable {I : Interface} {ε α β σ : Type}

/-- Run code that calls nothing. -/
def attempt (x : Except ε α) : ExceptT ε (Program I) α := ExceptT.mk (pure x)

/-- Perform one call and hand over its answer. -/
def observe (c : I.Call) : ExceptT ε (Program I) (I.Answer c) :=
  ExceptT.mk (Program.perform c >>= fun r => pure (.ok r))

theorem attempt_ok_bind (a : α) (f : α → ExceptT ε (Program I) β) : attempt (.ok a) >>= f = f a :=
  rfl

theorem attempt_error_bind (e : ε) (f : α → ExceptT ε (Program I) β) :
    attempt (.error e) >>= f = Program.done (I := I) (.error e) :=
  rfl

variable {answers : σ → (c : I.Call) → I.Answer c → σ → Prop} {s s' : σ} {tr : List (Event I)}

theorem exec_attempt_iff {x r : Except ε α} :
    Exec answers (attempt x) s tr r s' ↔ tr = [] ∧ r = x ∧ s' = s :=
  exec_done_iff

theorem exec_return_iff {a : α} {r : Except ε α} :
    Exec answers (pure a : ExceptT ε (Program I) α) s tr r s' ↔ tr = [] ∧ r = .ok a ∧ s' = s :=
  exec_done_iff

/-- Sequencing, when nothing failed. -/
theorem exec_bind_ok_iff {p : ExceptT ε (Program I) α} {f : α → ExceptT ε (Program I) β} {b : β} :
    Exec answers (p >>= f : ExceptT ε (Program I) β) s tr (.ok b) s' ↔
      ∃ tr₁ a s₁ tr₂, Exec answers p s tr₁ (.ok a) s₁ ∧ Exec answers (f a) s₁ tr₂ (.ok b) s' ∧
        tr = tr₁ ++ tr₂ := by
  refine exec_throwing_bind_iff.trans ⟨fun h => ?_, .inr⟩
  rcases h with ⟨e, -, herror⟩ | h
  · cases herror
  · exact h

/-- Code that calls nothing, and then more. -/
theorem exec_attempt_bind_iff {x : Except ε α} {f : α → ExceptT ε (Program I) β}
    {r : Except ε β} :
    Exec answers (attempt x >>= f : ExceptT ε (Program I) β) s tr r s' ↔
      (∃ e, x = .error e ∧ tr = [] ∧ r = .error e ∧ s' = s) ∨
      ∃ a, x = .ok a ∧ Exec answers (f a) s tr r s' := by
  cases x with
  | error e => exact exec_done_iff.trans (by simp)
  | ok a => exact ⟨fun h => .inr ⟨a, rfl, h⟩, by simp [attempt_ok_bind]⟩

/-- A program whose value is only edited. -/
theorem exec_bind_return_iff {p : ExceptT ε (Program I) α} {f : α → β} {r : Except ε β} :
    Exec answers (p >>= fun a => pure (f a) : ExceptT ε (Program I) β) s tr r s' ↔
      ∃ x, Exec answers p s tr x s' ∧ r = x.map f := by
  refine exec_throwing_bind_iff.trans ⟨?_, ?_⟩
  · rintro (⟨e, h, rfl⟩ | ⟨tr₁, a, s₁, tr₂, h, hreturn, rfl⟩)
    · exact ⟨_, h, rfl⟩
    · obtain ⟨rfl, rfl, rfl⟩ := exec_return_iff.mp hreturn
      exact ⟨.ok a, by rwa [List.append_nil], rfl⟩
  · rintro ⟨e | a, h, rfl⟩
    · exact .inl ⟨e, h, rfl⟩
    · exact .inr ⟨tr, a, s', [], h, exec_return_iff.mpr ⟨rfl, rfl, rfl⟩, by simp⟩

theorem exec_observe_iff {c : I.Call} {r : Except ε (I.Answer c)} :
    Exec answers (observe c) s tr r s' ↔ ∃ x, answers s c x s' ∧ tr = [⟨c, x⟩] ∧ r = .ok x := by
  refine exec_bind_iff.trans ?_
  constructor
  · rintro ⟨tr₁, x, s₁, tr₂, h₁, h₂, rfl⟩
    obtain ⟨here, rfl⟩ := exec_perform_iff.mp h₁
    obtain ⟨rfl, rfl, rfl⟩ := exec_done_iff.mp h₂
    exact ⟨x, here, rfl, rfl⟩
  · rintro ⟨x, here, rfl, rfl⟩
    exact ⟨_, x, s', [], exec_perform_iff.mpr ⟨here, rfl⟩, .done, rfl⟩

/-- A call whose answer is handed over, and then more. -/
theorem exec_observe_bind_iff {c : I.Call} {f : I.Answer c → ExceptT ε (Program I) β}
    {r : Except ε β} :
    Exec answers (observe c >>= f : ExceptT ε (Program I) β) s tr r s' ↔
      ∃ x s₁ tr', answers s c x s₁ ∧ Exec answers (f x) s₁ tr' r s' ∧ tr = ⟨c, x⟩ :: tr' :=
  exec_call_iff

/-- Catching: either the body returns, or it fails and the handler takes over. -/
theorem exec_tryCatch_iff {p : ExceptT ε (Program I) α} {handle : ε → ExceptT ε (Program I) α}
    {r : Except ε α} :
    Exec answers (tryCatch p handle : ExceptT ε (Program I) α) s tr r s' ↔
      (∃ a, Exec answers p s tr (.ok a) s' ∧ r = .ok a) ∨
      ∃ tr₁ e s₁ tr₂, Exec answers p s tr₁ (.error e) s₁ ∧ Exec answers (handle e) s₁ tr₂ r s' ∧
        tr = tr₁ ++ tr₂ := by
  refine exec_bind_iff.trans ?_
  constructor
  · rintro ⟨tr₁, e | a, s₁, tr₂, h₁, h₂, rfl⟩
    · exact .inr ⟨tr₁, e, s₁, tr₂, h₁, h₂, rfl⟩
    · obtain ⟨rfl, rfl, rfl⟩ := exec_done_iff.mp h₂
      exact .inl ⟨a, by simpa using h₁, rfl⟩
  · rintro (⟨a, h, rfl⟩ | ⟨tr₁, e, s₁, tr₂, h₁, h₂, rfl⟩)
    · exact ⟨tr, .ok a, s', [], h, .done, by simp⟩
    · exact ⟨tr₁, .error e, s₁, tr₂, h₁, h₂, rfl⟩

/-! ### Which calls they perform -/

/-- Every call satisfies `P`, and every value returned without failing satisfies `Q`. -/
def OkObeys (P : I.Call → Prop) (Q : α → Prop) (p : ExceptT ε (Program I) α) : Prop :=
  Program.Obeys P (fun r : Except ε α => ∀ a, r = .ok a → Q a) p

variable {P : I.Call → Prop} {Q : α → Prop} {R : β → Prop}

theorem okObeys_attempt {x : Except ε α} (hx : ∀ a, x = .ok a → Q a) :
    OkObeys P Q (attempt x : ExceptT ε (Program I) α) :=
  .done hx

theorem okObeys_return {a : α} (ha : Q a) : OkObeys P Q (pure a : ExceptT ε (Program I) α) :=
  .done fun _ h => Except.ok.inj h ▸ ha

theorem okObeys_observe {c : I.Call} (hc : P c) :
    OkObeys P (fun _ => True) (observe c : ExceptT ε (Program I) (I.Answer c)) :=
  .call hc fun _ => .done fun _ _ => trivial

theorem OkObeys.mono {P' : I.Call → Prop} {Q' : α → Prop} {p : ExceptT ε (Program I) α}
    (h : OkObeys P Q p) (hP : ∀ c, P c → P' c) (hQ : ∀ a, Q a → Q' a) : OkObeys P' Q' p :=
  Obeys.mono h hP fun _ hr a ha => hQ a (hr a ha)

theorem okObeys_bind {p : ExceptT ε (Program I) α} {f : α → ExceptT ε (Program I) β}
    (hp : OkObeys P Q p) (hf : ∀ a, Q a → OkObeys P R (f a)) :
    OkObeys P R (p >>= f : ExceptT ε (Program I) β) := by
  refine Obeys.bind hp fun r hr => ?_
  cases r with
  | error e => exact .done fun _ h => by cases h
  | ok a => exact hf a (hr a rfl)

theorem okObeys_tryCatch {p : ExceptT ε (Program I) α} {handle : ε → ExceptT ε (Program I) α}
    (hp : OkObeys P Q p) (hhandle : ∀ e, OkObeys P Q (handle e)) :
    OkObeys P Q (tryCatch p handle : ExceptT ε (Program I) α) := by
  refine Obeys.bind hp fun r hr => ?_
  cases r with
  | error e => exact hhandle e
  | ok a => exact .done hr

/-- Events of `F` alone, and a failure; or events of `F`, and then what `K` says. -/
def After (F : Event I → Prop) (K : List (Event I) → Except ε β → Prop) (tr : List (Event I))
    (r : Except ε β) : Prop :=
  ((∀ e ∈ tr, F e) ∧ ∃ e, r = .error e) ∨ ∃ tr₁ tr₂, tr = tr₁ ++ tr₂ ∧ (∀ e ∈ tr₁, F e) ∧ K tr₂ r

/-- The calls of an execution, and its value if it does not fail. -/
theorem OkObeys.exec {p : ExceptT ε (Program I) α} {r : Except ε α} (hp : OkObeys P Q p)
    (h : Exec answers p s tr r s') : (∀ e ∈ tr, P e.1) ∧ ∀ a, r = .ok a → Q a :=
  h.obeys hp

/-- A program whose events are in `F`, and then more. -/
theorem exec_bind_after {F : Event I → Prop} {K : List (Event I) → Except ε β → Prop}
    {p : ExceptT ε (Program I) α} {f : α → ExceptT ε (Program I) β} {r : Except ε β}
    (hF : ∀ c x, P c → F ⟨c, x⟩) (hp : OkObeys P Q p)
    (hf : ∀ a s₁ tr', Q a → Exec answers (f a) s₁ tr' r s' → After F K tr' r)
    (h : Exec answers (p >>= f : ExceptT ε (Program I) β) s tr r s') : After F K tr r := by
  rcases exec_throwing_bind_iff.mp h with ⟨e, hfails, rfl⟩ | ⟨tr₁, a, s₁, tr₂, hp', hf', rfl⟩
  · exact .inl ⟨fun e he => hF _ _ ((hp.exec hfails).1 e he), e, rfl⟩
  obtain ⟨hcalls, ha⟩ := hp.exec hp'
  have htr₁ : ∀ e ∈ tr₁, F e := fun e he => hF _ _ (hcalls e he)
  rcases hf a s₁ tr₂ (ha a rfl) hf' with ⟨htr₂, e, rfl⟩ | ⟨tr₃, tr₄, rfl, htr₃, hK⟩
  · exact .inl ⟨List.forall_mem_append.mpr ⟨htr₁, htr₂⟩, e, rfl⟩
  · exact .inr ⟨tr₁ ++ tr₃, tr₄, (List.append_assoc _ _ _).symm,
      List.forall_mem_append.mpr ⟨htr₁, htr₃⟩, hK⟩

end

/-! ### Calls that fail with the program's errors -/

/-- The interface of the calls `Call`, each of which returns a `Returns c` or fails with an `ε`. -/
abbrev throwing {Call : Type} (ε : Type) (Returns : Call → Type) : Interface :=
  ⟨Call, fun c => Except ε (Returns c)⟩

/-- A program over such an interface that may fail itself. -/
abbrev Throwing {Call : Type} (ε : Type) (Returns : Call → Type) (α : Type) : Type :=
  ExceptT ε (Program (throwing ε Returns)) α

section

variable {Call ε β σ : Type} {Returns : Call → Type}

/-- Await one call; its error is the program's. -/
def ask (c : Call) : Throwing ε Returns (Returns c) :=
  ExceptT.mk (Program.perform (I := throwing ε Returns) c)

theorem exec_ask_iff {answers : σ → (c : Call) → Except ε (Returns c) → σ → Prop} {s s' : σ}
    {tr : List (Event (throwing ε Returns))} {c : Call} {r : Except ε (Returns c)} :
    Exec (I := throwing ε Returns) answers (ask c) s tr r s' ↔
      answers s c r s' ∧ tr = [⟨c, r⟩] :=
  exec_perform_iff

theorem ask_bind (c : Call) (f : Returns c → Throwing ε Returns β) :
    ask c >>= f = Program.call (I := throwing ε Returns) c fun r =>
      match r with
      | .ok a => f a
      | .error e => .done (.error e) := by
  change Program.call (I := throwing ε Returns) c _ = _
  congr 1
  funext r
  cases r <;> rfl

/-- A call, and then more: either the call fails, or it returns and the rest runs. -/
theorem exec_ask_bind_iff {answers : σ → (c : Call) → Except ε (Returns c) → σ → Prop} {s s' : σ}
    {tr : List (Event (throwing ε Returns))} {c : Call} {f : Returns c → Throwing ε Returns β}
    {r : Except ε β} :
    Exec (I := throwing ε Returns) answers (ask c >>= f : Throwing ε Returns β) s tr r s' ↔
      (∃ e, answers s c (.error e) s' ∧ tr = [⟨c, .error e⟩] ∧ r = .error e) ∨
      ∃ a s₁ tr', answers s c (.ok a) s₁ ∧
        Exec (I := throwing ε Returns) answers (f a) s₁ tr' r s' ∧ tr = ⟨c, .ok a⟩ :: tr' := by
  rw [ask_bind]
  refine exec_call_iff.trans ⟨?_, ?_⟩
  · rintro ⟨x, s₁, tr', here, rest, rfl⟩
    cases x with
    | error e =>
      obtain ⟨rfl, rfl, rfl⟩ := exec_done_iff.mp rest
      exact .inl ⟨e, here, rfl, rfl⟩
    | ok a => exact .inr ⟨a, s₁, tr', here, rest, rfl⟩
  · rintro (⟨e, here, rfl, rfl⟩ | ⟨a, s₁, tr', here, rest, rfl⟩)
    · exact ⟨.error e, s', [], here, .done, rfl⟩
    · exact ⟨.ok a, s₁, tr', here, rest, rfl⟩

theorem okObeys_ask {P : Call → Prop} {c : Call} (hc : P c) :
    OkObeys (I := throwing ε Returns) P (fun _ => True) (ask c) :=
  .call hc fun _ => .done fun _ _ => trivial

/-- What is left of a program that begins with a call: all of it, nothing because the call failed,
or what is left of the continuation. -/
theorem residual_ask_bind {c : Call} {f : Returns c → Throwing ε Returns β}
    {tr : List (Event (throwing ε Returns))} {q : Program (throwing ε Returns) (Except ε β)}
    (h : Residual (ask c >>= f : Throwing ε Returns β) tr q) :
    (tr = [] ∧ ∃ next, q = .call (I := throwing ε Returns) c next) ∨
      (∃ e, q = .done (.error e)) ∨
      ∃ a tr', Residual (f a) tr' q ∧ tr = ⟨c, .ok a⟩ :: tr' := by
  rw [ask_bind] at h
  rcases residual_call_iff.mp h with ⟨rfl, rfl⟩ | ⟨r, tr', rest, rfl⟩
  · exact .inl ⟨rfl, _, rfl⟩
  · cases r with
    | error e => exact .inr (.inl ⟨e, (residual_done_iff.mp rest).2⟩)
    | ok a => exact .inr (.inr ⟨a, tr', rest, rfl⟩)

/-! ### Programs that fail only when a call does -/

/-- A program that fails only with the error of one of its calls. -/
def FailsByCalls {α : Type} (p : Throwing ε Returns α) : Prop :=
  ∀ tr e, Program.Runs (I := throwing ε Returns) p tr (.error e) →
    ∃ c : Call, (⟨c, .error e⟩ : Event (throwing ε Returns)) ∈ tr

theorem failsByCalls_return {α : Type} (a : α) :
    FailsByCalls (pure a : Throwing ε Returns α) := by
  intro tr e h
  obtain ⟨-, herror, -⟩ := exec_return_iff.mp h
  cases herror

theorem failsByCalls_ask (c : Call) : FailsByCalls (ask c : Throwing ε Returns (Returns c)) := by
  intro tr e h
  obtain ⟨-, rfl⟩ := exec_ask_iff.mp h
  exact ⟨c, List.mem_cons_self⟩

theorem failsByCalls_bind {α : Type} {p : Throwing ε Returns α} {f : α → Throwing ε Returns β}
    (hp : FailsByCalls p) (hf : ∀ a, FailsByCalls (f a)) :
    FailsByCalls (p >>= f : Throwing ε Returns β) := by
  intro tr e h
  rcases exec_throwing_bind_iff.mp h with ⟨e', hfails, herror⟩ | ⟨tr₁, a, s, tr₂, -, hrest, rfl⟩
  · obtain rfl := Except.error.inj herror
    exact hp tr e hfails
  · obtain ⟨c, hc⟩ := hf a tr₂ e hrest
    exact ⟨c, List.mem_append_right tr₁ hc⟩

end

end Effect
