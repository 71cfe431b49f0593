import SlaSettle.Effect.Throwing

/-!
# What every execution returns

`Yields answers p s Φ` says that from the state `s` every execution of `p` returns a value, without
failing, and that the value and the state it ends in satisfy `Φ`. There is one rule for each way of
building a program, so that a fact about a whole program in a given world is put together from what
the world answers to each of its calls.
-/

namespace Effect

open Program

variable {I : Interface} {ε α β σ : Type} {answers : σ → (c : I.Call) → I.Answer c → σ → Prop}
  {s : σ} {Φ Ψ : α → σ → Prop}

/-- Every execution of `p` from `s` returns a value, with `Φ`. -/
def Yields (answers : σ → (c : I.Call) → I.Answer c → σ → Prop) (p : ExceptT ε (Program I) α)
    (s : σ) (Φ : α → σ → Prop) : Prop :=
  ∀ tr r s', Exec answers p s tr r s' → ∃ a, r = .ok a ∧ Φ a s'

theorem Yields.mono {p : ExceptT ε (Program I) α} (h : Yields answers p s Φ)
    (hsub : ∀ a s', Φ a s' → Ψ a s') : Yields answers p s Ψ := by
  intro tr r s' hexec
  obtain ⟨a, rfl, ha⟩ := h tr r s' hexec
  exact ⟨a, rfl, hsub a s' ha⟩

theorem yields_return {a : α} (h : Φ a s) :
    Yields answers (pure a : ExceptT ε (Program I) α) s Φ := by
  intro tr r s' hexec
  obtain ⟨rfl, rfl, rfl⟩ := exec_return_iff.mp hexec
  exact ⟨a, rfl, h⟩

theorem yields_attempt {a : α} (h : Φ a s) :
    Yields answers (attempt (.ok a) : ExceptT ε (Program I) α) s Φ :=
  yields_return h

theorem yields_observe {c : I.Call} {Φ : I.Answer c → σ → Prop}
    (h : ∀ x s', answers s c x s' → Φ x s') :
    Yields answers (observe c : ExceptT ε (Program I) (I.Answer c)) s Φ := by
  intro tr r s' hexec
  obtain ⟨x, here, rfl, rfl⟩ := exec_observe_iff.mp hexec
  exact ⟨x, rfl, h x s' here⟩

theorem yields_bind {p : ExceptT ε (Program I) α} {f : α → ExceptT ε (Program I) β}
    {Ω : β → σ → Prop} (hp : Yields answers p s Φ)
    (hf : ∀ a s', Φ a s' → Yields answers (f a) s' Ω) :
    Yields answers (p >>= f : ExceptT ε (Program I) β) s Ω := by
  intro tr r s'' hexec
  obtain ⟨e, h₁, rfl⟩ | ⟨tr₁, a, s', tr₂, h₁, h₂, rfl⟩ := exec_throwing_bind_iff.mp hexec
  · obtain ⟨_, ⟨⟩, -⟩ := hp _ _ _ h₁
  · obtain ⟨_, ⟨⟩, ha⟩ := hp _ _ _ h₁
    exact hf a s' ha _ _ _ h₂

/-- Nothing is left to catch. -/
theorem yields_tryCatch {p : ExceptT ε (Program I) α} {handle : ε → ExceptT ε (Program I) α}
    (hp : Yields answers p s Φ) :
    Yields answers (tryCatch p handle : ExceptT ε (Program I) α) s Φ := by
  intro tr r s' hexec
  obtain ⟨a, h, rfl⟩ | ⟨tr₁, e, s₁, tr₂, h, -, -⟩ := exec_tryCatch_iff.mp hexec
  · obtain ⟨_, ⟨⟩, ha⟩ := hp _ _ _ h
    exact ⟨a, rfl, ha⟩
  · obtain ⟨_, ⟨⟩, -⟩ := hp _ _ _ h

end Effect
