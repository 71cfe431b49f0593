import SlaSettle.Effect.Throwing

/-!
# Programs over another interface

A program over one interface becomes a program over another when each of its calls is performed by
a program of the other (`Program.interpret`). If what those programs can do is what the calls may be
answered (`Simulates`), then an execution of the interpreted program is one of the program itself
(`exec_of_interpret`), and what is proved of all executions of the one holds of the other.

`Program.along` is the case where each call is one call of the other interface. There the traces of
the two correspond entry by entry (`Embedding.Matches`), also for what is left of a program.
-/

namespace Effect

open Program

variable {I J : Interface} {α β σ τ : Type}

/-! ### Interpretation -/

namespace Program

/-- Perform each call of a program by a program over another interface. -/
def interpret (h : (c : I.Call) → Program J (I.Answer c)) : Program I α → Program J α
  | done a => done a
  | call c next => h c >>= fun r => interpret h (next r)

@[simp]
theorem interpret_done (h : (c : I.Call) → Program J (I.Answer c)) (a : α) :
    interpret h (done a) = done a := rfl

@[simp]
theorem interpret_call (h : (c : I.Call) → Program J (I.Answer c)) (c : I.Call)
    (next : I.Answer c → Program I α) :
    interpret h (call c next) = h c >>= fun r => interpret h (next r) := rfl

end Program

/-- Whatever the program for a call does, the call may be answered so, and the worlds stay
related. -/
def Simulates (R : σ → τ → Prop) (answers : σ → (c : I.Call) → I.Answer c → σ → Prop)
    (answers' : τ → (c : J.Call) → J.Answer c → τ → Prop)
    (h : (c : I.Call) → Program J (I.Answer c)) : Prop :=
  ∀ c s t tr r t', R s t → Exec answers' (h c) t tr r t' → ∃ s', answers s c r s' ∧ R s' t'

/-- **Simulation.** An execution of the interpreted program is one of the program. -/
theorem exec_of_interpret {R : σ → τ → Prop}
    {answers : σ → (c : I.Call) → I.Answer c → σ → Prop}
    {answers' : τ → (c : J.Call) → J.Answer c → τ → Prop}
    {h : (c : I.Call) → Program J (I.Answer c)} (hsim : Simulates R answers answers' h)
    {p : Program I α} {s : σ} {t t' : τ} {tr : List (Event J)} {a : α} (hR : R s t)
    (hexec : Exec answers' (p.interpret h) t tr a t') :
    ∃ tr' s', Exec answers p s tr' a s' ∧ R s' t' := by
  induction p generalizing s t tr with
  | done b =>
    obtain ⟨rfl, rfl, rfl⟩ := exec_done_iff.mp hexec
    exact ⟨[], s, .done, hR⟩
  | call c next ih =>
    obtain ⟨tr₁, r, t₁, tr₂, hcall, hrest, rfl⟩ := exec_bind_iff.mp hexec
    obtain ⟨s₁, here, hR₁⟩ := hsim c s t tr₁ r t₁ hR hcall
    obtain ⟨tr', s', hexec', hR'⟩ := ih r hR₁ hrest
    exact ⟨⟨c, r⟩ :: tr', s', .call here hexec', hR'⟩

/-- The calls it makes are those by which its calls are performed. -/
theorem obeys_interpret {P : J.Call → Prop} {h : (c : I.Call) → Program J (I.Answer c)}
    (hh : ∀ c, (h c).Obeys P fun _ => True) (p : Program I α) :
    (p.interpret h).Obeys P fun _ => True := by
  induction p with
  | done a => exact .done trivial
  | call c next ih => exact (hh c).bind fun r _ => ih r

/-! ### One call for one call -/

/-- The calls of an interface as calls of another, and what their answers then are. -/
structure Embedding (I J : Interface) where
  call : I.Call → J.Call
  answer : (c : I.Call) → J.Answer (call c) → I.Answer c

/-- An entry of a trace, and the entry it is for the embedded interface. -/
def Embedding.Matches (f : Embedding I J) (e' : Event J) (e : Event I) : Prop :=
  ∃ r, e' = ⟨f.call e.1, r⟩ ∧ f.answer e.1 r = e.2

/-- The world of the embedded interface. -/
def Embedding.Answers (f : Embedding I J) (answers : σ → (c : J.Call) → J.Answer c → σ → Prop)
    (s : σ) (c : I.Call) (x : I.Answer c) (s' : σ) : Prop :=
  ∃ r, answers s (f.call c) r s' ∧ f.answer c r = x

/-- Perform the calls of a program as calls of another interface. -/
def Program.along (f : Embedding I J) : Program I α → Program J α
  | done a => done a
  | call c next => call (f.call c) fun r => along f (next (f.answer c r))

@[simp]
theorem along_done (f : Embedding I J) (a : α) : along f (done a : Program I α) = done a := rfl

theorem along_eq_done_iff {f : Embedding I J} {p : Program I α} {a : α} :
    along f p = done a ↔ p = done a := by
  cases p with
  | done b => exact ⟨fun h => congrArg done (done.inj h), fun h => congrArg done (done.inj h)⟩
  | call c next => exact iff_of_false nofun nofun

/-- An execution makes the calls of the embedded interface. -/
theorem exec_along {f : Embedding I J} {answers : σ → (c : J.Call) → J.Answer c → σ → Prop}
    {p : Program I α} {s s' : σ} {tr : List (Event J)} {a : α}
    (h : Exec answers (along f p) s tr a s') :
    ∃ tr', Exec (f.Answers answers) p s tr' a s' ∧ List.Forall₂ f.Matches tr tr' := by
  induction p generalizing s tr with
  | done b =>
    obtain ⟨rfl, rfl, rfl⟩ := exec_done_iff.mp h
    exact ⟨[], .done, .nil⟩
  | call c next ih =>
    obtain ⟨r, s₁, tr₁, here, rest, rfl⟩ := exec_call_iff.mp h
    obtain ⟨tr', hexec, hmatch⟩ := ih _ rest
    exact ⟨⟨c, f.answer c r⟩ :: tr', .call ⟨r, here, rfl⟩ hexec, .cons ⟨r, rfl, rfl⟩ hmatch⟩

/-- What is left of it is what is left of the program, along the embedding. -/
theorem residual_along {f : Embedding I J} {p : Program I α} {tr : List (Event J)}
    {q : Program J α} (h : Residual (along f p) tr q) :
    ∃ tr' q', Residual p tr' q' ∧ q = along f q' ∧ List.Forall₂ f.Matches tr tr' := by
  induction p generalizing tr with
  | done b =>
    obtain ⟨rfl, rfl⟩ := residual_done_iff.mp h
    exact ⟨[], .done b, .refl, rfl, .nil⟩
  | call c next ih =>
    rcases residual_call_iff.mp h with ⟨rfl, rfl⟩ | ⟨r, tr₁, rest, rfl⟩
    · exact ⟨[], .call c next, .refl, rfl, .nil⟩
    · obtain ⟨tr', q', hres, rfl, hmatch⟩ := ih _ rest
      exact ⟨⟨c, f.answer c r⟩ :: tr', q', .call hres, rfl, .cons ⟨r, rfl, rfl⟩ hmatch⟩

end Effect
