import SlaSettle.Effect.Interpret

/-!
# What a program does while its answers are good

`Relies G P Q p` says: as long as every answer so far is in `G`, the next call of `p` satisfies `P`,
and the value it returns satisfies `Q`. Unlike `Program.Obeys` it speaks of calls whose arguments
come from earlier answers. There is one rule for each way of building a program; `Relies.residual`
carries it to what is left of a program in an interleaving, where the answers so far are its trace.
-/

namespace Effect

open Program

variable {I J : Interface} {ε α β : Type} {G : Event I → Prop} {P : I.Call → Prop} {Q : α → Prop}

/-- While the answers are in `G`, the calls satisfy `P` and the result `Q`. -/
inductive Relies (G : Event I → Prop) (P : I.Call → Prop) (Q : α → Prop) : Program I α → Prop
  | done {a : α} (result : Q a) : Relies G P Q (done a)
  | call {c : I.Call} {next : I.Answer c → Program I α} (here : P c)
      (rest : ∀ r, G ⟨c, r⟩ → Relies G P Q (next r)) : Relies G P Q (call c next)

theorem Relies.bind {R : β → Prop} {p : Program I α} {f : α → Program I β} (hp : Relies G P Q p)
    (hf : ∀ a, Q a → Relies G P R (f a)) : Relies G P R (p >>= f) := by
  induction hp with
  | done result => exact hf _ result
  | call here _ ih => exact .call here ih

theorem Relies.mono {Q' : α → Prop} {p : Program I α} (h : Relies G P Q p)
    (hQ : ∀ a, Q a → Q' a) : Relies G P Q' p := by
  induction h with
  | done result => exact .done (hQ _ result)
  | call here _ ih => exact .call here ih

/-- **What is left of a program** still relies on its answers, if those so far were good. -/
theorem Relies.residual {p q : Program I α} {tr : List (Event I)} (h : Relies G P Q p)
    (hres : Residual p tr q) (htr : ∀ e ∈ tr, G e) : Relies G P Q q := by
  induction hres with
  | refl => exact h
  | call _ ih =>
    cases h with
    | call _ rest =>
      obtain ⟨hhead, htail⟩ := List.forall_mem_cons.mp htr
      exact ih (rest _ hhead) htail

/-- The next call of what is left. -/
theorem Relies.call_inv {c : I.Call} {next : I.Answer c → Program I α}
    (h : Relies G P Q (Program.call c next)) : P c := by
  cases h with
  | call here _ => exact here

theorem Relies.done_inv {a : α} (h : Relies G P Q (Program.done a : Program I α)) : Q a := by
  cases h with
  | done result => exact result

/-- Along an embedding, what the program does is what its calls are. -/
theorem Relies.along {f : Embedding I J} {G' : Event J → Prop} {P' : J.Call → Prop}
    {p : Program I α} (h : Relies G P Q p) (hP : ∀ c, P c → P' (f.call c))
    (hG : ∀ c r, G' ⟨f.call c, r⟩ → G ⟨c, f.answer c r⟩) : Relies G' P' Q (p.along f) := by
  induction h with
  | done result => exact .done result
  | call here _ ih => exact .call (hP _ here) fun r hr => ih _ (hG _ r hr)

/-- An execution with good answers has such calls and such a result. -/
theorem Relies.exec {σ : Type} {answers : σ → (c : I.Call) → I.Answer c → σ → Prop}
    {p : Program I α} {s s' : σ} {tr : List (Event I)} {a : α} (h : Relies G P Q p)
    (hexec : Exec answers p s tr a s') (htr : ∀ e ∈ tr, G e) : (∀ e ∈ tr, P e.1) ∧ Q a := by
  induction hexec with
  | done => exact ⟨by simp, h.done_inv⟩
  | call _ _ ih =>
    cases h with
    | call here rest =>
      obtain ⟨hhead, htail⟩ := List.forall_mem_cons.mp htr
      obtain ⟨hcalls, hresult⟩ := ih (rest _ hhead) htail
      exact ⟨List.forall_mem_cons.mpr ⟨here, hcalls⟩, hresult⟩

/-! ### Programs that may fail -/

/-- The value returned satisfies `Q`, unless the program fails. -/
def OkRelies (G : Event I → Prop) (P : I.Call → Prop) (Q : α → Prop)
    (p : ExceptT ε (Program I) α) : Prop :=
  Relies G P (fun r : Except ε α => ∀ a, r = .ok a → Q a) p

theorem okRelies_return {a : α} (ha : Q a) : OkRelies G P Q (pure a : ExceptT ε (Program I) α) :=
  .done fun _ h => Except.ok.inj h ▸ ha

theorem okRelies_attempt {x : Except ε α} (hx : ∀ a, x = .ok a → Q a) :
    OkRelies G P Q (attempt x : ExceptT ε (Program I) α) :=
  .done hx

theorem okRelies_observe {c : I.Call} (hc : P c) :
    OkRelies G P (fun r => G ⟨c, r⟩) (observe c : ExceptT ε (Program I) (I.Answer c)) :=
  .call hc fun _ hr => .done fun _ h => Except.ok.inj h ▸ hr

theorem okRelies_bind {R : β → Prop} {p : ExceptT ε (Program I) α}
    {f : α → ExceptT ε (Program I) β} (hp : OkRelies G P Q p)
    (hf : ∀ a, Q a → OkRelies G P R (f a)) :
    OkRelies G P R (p >>= f : ExceptT ε (Program I) β) := by
  refine Relies.bind hp fun r hr => ?_
  cases r with
  | error e => exact .done nofun
  | ok a => exact hf a (hr a rfl)

theorem OkRelies.mono {Q' : α → Prop} {p : ExceptT ε (Program I) α} (h : OkRelies G P Q p)
    (hQ : ∀ a, Q a → Q' a) : OkRelies G P Q' p :=
  Relies.mono h fun _ hr a ha => hQ a (hr a ha)

theorem okRelies_tryCatch {p : ExceptT ε (Program I) α} {handle : ε → ExceptT ε (Program I) α}
    (hp : OkRelies G P Q p) (hhandle : ∀ e, OkRelies G P Q (handle e)) :
    OkRelies G P Q (tryCatch p handle : ExceptT ε (Program I) α) := by
  refine Relies.bind hp fun r hr => ?_
  cases r with
  | error e => exact hhandle e
  | ok a => exact .done hr

/-- A call whose error is the program's. -/
theorem okRelies_ask {Call : Type} {Returns : Call → Type} {G : Event (throwing ε Returns) → Prop}
    {P : Call → Prop} {c : Call} (hc : P c) :
    OkRelies (I := throwing ε Returns) G P (fun a => G ⟨c, .ok a⟩) (ask c) :=
  .call hc fun r hr => .done fun a ha => by subst ha; exact hr

end Effect
