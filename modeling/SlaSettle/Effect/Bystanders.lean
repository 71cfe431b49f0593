import Mathlib.Data.List.Forall2
import Mathlib.Data.List.ReduceOption
import SlaSettle.Effect.Interleaving
import SlaSettle.Effect.Laws

/-!
# Pools with bystanders

A program that begins with one call and goes on by its answer stands for several kinds of
executions in one pool. Suppose that each of them either runs another program `q` along an
embedding or only makes calls that do not concern it: a bystander. Then the pool is, up to the
bystanders and their effect, a pool of `q` (`Pool.Reachable.tracked`), and what is proved of all
interleavings of `q` alone holds beside them.
-/

namespace Effect

open Program

variable {I J : Interface} {α β σ τ : Type}

/-! ### Running a program along an embedding -/

/-- `Tracks f p q`: the program `p` makes the calls of `q` along `f`, and goes on as `q` does. -/
inductive Tracks (f : Embedding I J) : Program J β → Program I α → Prop
  | done {b : β} {a : α} : Tracks f (done b) (done a)
  | call {c : I.Call} {next' : J.Answer (f.call c) → Program J β} {next : I.Answer c → Program I α}
      (rest : ∀ r, Tracks f (next' r) (next (f.answer c r))) :
      Tracks f (call (f.call c) next') (call c next)

theorem tracks_along (f : Embedding I J) (q : Program I α) (g : α → β) :
    Tracks f (along f q >>= fun a => done (g a)) q := by
  induction q with
  | done a => exact .done
  | call c next ih => exact .call fun r => ih (f.answer c r)

/-! ### The simulation -/

section

variable {f : Embedding I J} {P : J.Call → Prop} {start : J.Call}
  {next : J.Answer start → Program J β} {q : Program I α}

/-- What a thread is in the smaller pool: none that has not begun or is a bystander, or the one
whose program it runs. -/
def Shows (f : Embedding I J) (P : J.Call → Prop) (p : Program J β) (t : Thread J β) :
    Option (Thread I α) → Prop
  | none => t = ⟨[], p⟩ ∨ t.rest.Obeys P fun _ => True
  | some u => Tracks f t.rest u.rest ∧
    ∃ e tr, t.trace = e :: tr ∧ List.Forall₂ f.Matches tr u.trace

/-- One of the threads, and what it is. -/
private theorem forall₂_middle_iff {γ δ : Type} {R : γ → δ → Prop} {cs₁ cs₂ : List γ} {c : γ}
    {ds : List δ} :
    List.Forall₂ R (cs₁ ++ c :: cs₂) ds ↔ ∃ ds₁ d ds₂, ds = ds₁ ++ d :: ds₂ ∧
      List.Forall₂ R cs₁ ds₁ ∧ R c d ∧ List.Forall₂ R cs₂ ds₂ := by
  constructor
  · intro h
    induction cs₁ generalizing ds with
    | nil =>
      obtain ⟨d, ds₂, hd, hds₂, rfl⟩ := List.forall₂_cons_left_iff.mp h
      exact ⟨[], d, ds₂, rfl, .nil, hd, hds₂⟩
    | cons c' cs₁ ih =>
      obtain ⟨d', ds', hd', hds', rfl⟩ := List.forall₂_cons_left_iff.mp h
      obtain ⟨ds₁, d, ds₂, rfl, hds₁, hd, hds₂⟩ := ih hds'
      exact ⟨d' :: ds₁, d, ds₂, rfl, .cons hd' hds₁, hd, hds₂⟩
  · rintro ⟨ds₁, d, ds₂, rfl, hds₁, hd, hds₂⟩
    exact List.rel_append hds₁ (.cons hd hds₂)

/-- Editing one of the threads that are shown. -/
private theorem perm_edit {us₁ us₂ vs : List (Thread I α)} {u : Thread I α}
    (h : (us₁ ++ u :: us₂).Perm vs) :
    ∃ vs₁ vs₂, vs = vs₁ ++ u :: vs₂ ∧ (us₁ ++ us₂).Perm (vs₁ ++ vs₂) := by
  obtain ⟨vs₁, vs₂, rfl⟩ := List.append_of_mem (h.subset (by simp : u ∈ us₁ ++ u :: us₂))
  refine ⟨vs₁, vs₂, rfl, List.Perm.cons_inv (a := u) ?_⟩
  exact (List.perm_middle.symm.trans h).trans List.perm_middle

/-- **Bystanders.** Let each execution either run `q` or make calls in `P` only, and let calls in
`P`, like the first one, keep the relation `R` of the two worlds. Then every reachable pool is one
of `q` beside bystanders. -/
theorem Pool.Reachable.tracked {R : σ → τ → Prop}
    {answers : List (Event J) → σ → (c : J.Call) → J.Answer c → σ → Prop}
    {answers' : List (Event I) → τ → (c : I.Call) → I.Answer c → τ → Prop} {s₀ : σ} {t₀ : τ}
    (hinit : R s₀ t₀) (hnext : ∀ k, (next k).Obeys P (fun _ => True) ∨ Tracks f (next k) q)
    (hstart : ∀ {s t k s'}, R s t → answers [] s start k s' → R s' t)
    (hbystander : ∀ {tr s t c r s'}, P c → R s t → answers tr s c r s' → R s' t)
    (htrack : ∀ {e tr tr' s t c r s'}, List.Forall₂ f.Matches tr tr' → R s t →
      answers (e :: tr) s (f.call c) r s' → ∃ t', answers' tr' t c (f.answer c r) t' ∧ R s' t')
    {pool : Pool σ J β} (h : Reachable answers (call start next) s₀ pool) :
    ∃ pool' : Pool τ I α, Reachable answers' q t₀ pool' ∧ R pool.world pool'.world ∧
      ∃ shown, List.Forall₂ (Shows f P (call start next)) pool.threads shown ∧
        shown.reduceOption.Perm pool'.threads := by
  induction h with
  | refl => exact ⟨⟨t₀, []⟩, .refl, hinit, [], .nil, .refl _⟩
  | tail _ hstep ih =>
    obtain ⟨⟨t, us⟩, hreach, hR, shown, hshows, hperm⟩ := ih
    cases hstep with
    | start => exact ⟨⟨t, us⟩, hreach, hR, none :: shown, .cons (.inl rfl) hshows, hperm⟩
    | @answer s s' ts₁ ts₂ tr c nx r here =>
      obtain ⟨shown₁, o, shown₂, rfl, hshows₁, ho, hshows₂⟩ := forall₂_middle_iff.mp hshows
      have hshows' : ∀ t' o', Shows f P (call start next) t' o' →
          List.Forall₂ (Shows f P (call start next)) (ts₁ ++ t' :: ts₂) (shown₁ ++ o' :: shown₂) :=
        fun t' o' ho' => forall₂_middle_iff.mpr ⟨_, _, _, rfl, hshows₁, ho', hshows₂⟩
      rw [List.reduceOption_append] at hperm
      match o, ho with
      | none, .inl hidle =>
        -- its first call says what it is
        cases hidle
        rcases hnext r with hby | htracks
        · exact ⟨⟨t, us⟩, hreach, hstart hR here, _, hshows' _ none (.inr hby), by
            rwa [List.reduceOption_append]⟩
        · refine ⟨⟨t, ⟨[], q⟩ :: us⟩, hreach.start, hstart hR here, _,
            hshows' _ (some ⟨[], q⟩) ⟨htracks, _, [], rfl, .nil⟩, ?_⟩
          rw [List.reduceOption_append]
          exact List.perm_middle.trans (hperm.cons _)
      | none, .inr hby =>
        cases hby with
        | call hc rest =>
          exact ⟨⟨t, us⟩, hreach, hbystander hc hR here, _, hshows' _ none (.inr (rest r)), by
            rwa [List.reduceOption_append]⟩
      | some u, ⟨htracks, e, tr', htr, hmatch⟩ =>
        obtain ⟨utr, urest⟩ := u
        cases htracks with
        | @call c' _ next'' rest =>
          obtain rfl : tr = e :: tr' := htr
          obtain ⟨us₁, us₂, rfl, hothers⟩ := perm_edit hperm
          obtain ⟨t', here', hR'⟩ := htrack hmatch hR here
          have hmatch' : List.Forall₂ f.Matches (tr' ++ [⟨f.call c', r⟩])
              (utr ++ [⟨c', f.answer c' r⟩]) :=
            List.rel_append hmatch (.cons ⟨r, rfl, rfl⟩ .nil)
          refine ⟨⟨t', us₁ ++ ⟨utr ++ [⟨c', f.answer c' r⟩], next'' (f.answer c' r)⟩ :: us₂⟩,
            hreach.answer us₁ here', hR', _,
            hshows' _ (some ⟨utr ++ [⟨c', f.answer c' r⟩], next'' (f.answer c' r)⟩)
              ⟨rest r, e, _, rfl, hmatch'⟩, ?_⟩
          rw [List.reduceOption_append]
          exact List.perm_middle.trans ((hothers.cons _).trans List.perm_middle.symm)
    | @finish s ts₁ ts₂ tr a =>
      obtain ⟨shown₁, o, shown₂, rfl, hshows₁, ho, hshows₂⟩ := forall₂_middle_iff.mp hshows
      rw [List.reduceOption_append] at hperm
      match o, ho with
      | none, _ =>
        exact ⟨⟨t, us⟩, hreach, hR, _, List.rel_append hshows₁ hshows₂, by
          rwa [List.reduceOption_append]⟩
      | some u, ⟨htracks, _⟩ =>
        obtain ⟨utr, urest⟩ := u
        cases htracks with
        | done =>
          obtain ⟨us₁, us₂, rfl, hothers⟩ := perm_edit hperm
          exact ⟨⟨t, us₁ ++ us₂⟩, Relation.ReflTransGen.tail hreach .finish, hR, _,
            List.rel_append hshows₁ hshows₂, by rwa [List.reduceOption_append]⟩

end

end Effect
