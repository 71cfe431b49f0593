import SlaSettle.Effect.Interpret

/-!
# The laws of programs

Programs satisfy the monad laws, as equations between programs, and so do programs that may fail.
With `funext` under a binder, a program can then be rewritten into another form before its
executions are looked at.
-/

namespace Effect

namespace Program

variable {I J : Interface} {α β γ : Type}

theorem bind_done (p : Program I α) : p >>= done = p := by
  induction p with
  | done a => rfl
  | call c next ih =>
    rw [call_bind]
    exact congrArg (call c) (funext ih)

theorem bind_bind (p : Program I α) (f : α → Program I β) (g : β → Program I γ) :
    p >>= f >>= g = p >>= fun a => f a >>= g := by
  induction p with
  | done a => rfl
  | call c next ih =>
    rw [call_bind, call_bind, call_bind]
    exact congrArg (call c) (funext ih)

instance : LawfulMonad (Program I) := .mk' _ bind_done (fun a f => done_bind a f) bind_bind

/-- Performing calls elsewhere is compatible with sequencing. -/
theorem along_bind (f : Embedding I J) (p : Program I α) (g : α → Program I β) :
    along f (p >>= g) = along f p >>= fun a => along f (g a) := by
  induction p with
  | done a => rfl
  | call c next ih =>
    rw [call_bind, along, along, call_bind]
    exact congrArg (call (f.call c)) (funext fun r => ih (f.answer c r))

/-- A program performed elsewhere makes no calls but the embedded ones. -/
theorem obeys_along (f : Embedding I J) (p : Program I α) :
    (along f p).Obeys (fun c => ∃ c', c = f.call c') fun _ => True := by
  induction p with
  | done a => exact .done trivial
  | call c next ih => exact .call ⟨c, rfl⟩ fun r => ih (f.answer c r)

end Program

end Effect
