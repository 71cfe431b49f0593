import Mathlib.Data.List.Induction

/-!
# Last-writer-wins registers

A stream of writes, each to one key. `lastWrite` is the value most recently written to a key,
if there is one; `lastWrite_append` makes it a monoid action, and `foldl_lastWrite` is the rule
for any state that is read key by key and changed by one write at a time: after a stream of
writes, a key reads as its last write, and as before where there was none.
-/

namespace Store

section LastWrite

variable {E K V S : Type} [DecidableEq K] (key : E → K) (value : E → V)

/-- The last value the stream writes to `k`. -/
def lastWrite (k : K) (es : List E) : Option V :=
  es.foldl (fun acc e => if key e = k then some (value e) else acc) none

@[simp]
theorem lastWrite_nil (k : K) : lastWrite key value k [] = none := rfl

private theorem foldl_lastWrite_acc (k : K) (acc : Option V) (es : List E) :
    es.foldl (fun acc e => if key e = k then some (value e) else acc) acc =
      (lastWrite key value k es).or acc := by
  induction es generalizing acc with
  | nil => simp
  | cons e es ih =>
    have hone : lastWrite key value k (e :: es) =
        (lastWrite key value k es).or (if key e = k then some (value e) else none) := ih _
    rw [List.foldl_cons, ih, hone]
    by_cases h : key e = k <;> cases lastWrite key value k es <;> simp [h]

/-- Writes of a later stream win over those of an earlier one. -/
theorem lastWrite_append (k : K) (es es' : List E) :
    lastWrite key value k (es ++ es') =
      (lastWrite key value k es').or (lastWrite key value k es) := by
  rw [lastWrite, List.foldl_append]
  exact foldl_lastWrite_acc key value k _ es'

theorem lastWrite_concat (k : K) (es : List E) (e : E) :
    lastWrite key value k (es ++ [e]) =
      if key e = k then some (value e) else lastWrite key value k es := by
  rw [lastWrite_append]
  by_cases h : key e = k <;> simp [lastWrite, h]

theorem lastWrite_cons (k : K) (e : E) (es : List E) :
    lastWrite key value k (e :: es) =
      (lastWrite key value k es).or (if key e = k then some (value e) else none) :=
  lastWrite_append key value k [e] es

/-- The last write to a key is one with none behind it. -/
theorem lastWrite_eq_some_iff {k : K} {es : List E} {v : V} :
    lastWrite key value k es = some v ↔
      ∃ before e after, es = before ++ e :: after ∧ key e = k ∧ value e = v ∧
        ∀ e' ∈ after, key e' ≠ k := by
  induction es using List.reverseRecOn with
  | nil => simp
  | append_singleton es e ih =>
    rw [lastWrite_concat]
    constructor
    · intro h
      split_ifs at h with hkey
      · exact ⟨es, e, [], rfl, hkey, Option.some.inj h, by simp⟩
      · obtain ⟨before, e', after, rfl, hkey', hvalue, hafter⟩ := ih.mp h
        refine ⟨before, e', after ++ [e], by simp, hkey', hvalue, ?_⟩
        exact List.forall_mem_append.mpr ⟨hafter, by simpa using hkey⟩
    · rintro ⟨before, e', after, hsplit, hkey', hvalue, hafter⟩
      rcases List.eq_nil_or_concat after with rfl | ⟨after', last, rfl⟩
      · obtain ⟨-, rfl⟩ := List.append_singleton_inj.mp hsplit
        rw [if_pos hkey', hvalue]
      · rw [List.concat_eq_append] at hsplit hafter
        rw [← List.cons_append, ← List.append_assoc] at hsplit
        obtain ⟨rfl, rfl⟩ := List.append_singleton_inj.mp hsplit
        obtain ⟨hafter', hlast⟩ := List.forall_mem_append.mp hafter
        rw [if_neg (hlast e (List.mem_singleton_self e))]
        exact ih.mpr ⟨before, e', after', rfl, hkey', hvalue, hafter'⟩

/-- **The register rule.** Let one write set what its key reads as and leave every other key.
Then after a stream of writes each key reads as its last write, or as before. -/
theorem foldl_lastWrite {step : S → E → S} {read : S → K → V}
    (hstep : ∀ s e k, read (step s e) k = if key e = k then value e else read s k)
    (s : S) (es : List E) (k : K) :
    read (es.foldl step s) k = (lastWrite key value k es).getD (read s k) := by
  induction es using List.reverseRecOn with
  | nil => rfl
  | append_singleton es e ih =>
    rw [List.foldl_append, List.foldl_cons, List.foldl_nil, hstep, ih, lastWrite_concat]
    by_cases h : key e = k <;> simp [h]

/-- **The register rule, row by row.** Let a write edit the rows with its key, the last edit
winning. Then a stream of writes edits each row by the last one to its key. -/
theorem foldl_map_lastWrite {R : Type} (rowKey : R → K) (set : V → R → R)
    (hkey : ∀ v r, rowKey (set v r) = rowKey r) (hset : ∀ v w r, set v (set w r) = set v r)
    (rows : List R) (es : List E) :
    es.foldl (fun rows e =>
        rows.map fun r => if rowKey r = key e then set (value e) r else r) rows =
      rows.map fun r => (lastWrite key value (rowKey r) es).elim r (set · r) := by
  induction es using List.reverseRecOn with
  | nil => simp
  | append_singleton es e ih =>
    rw [List.foldl_append, List.foldl_cons, List.foldl_nil, ih, List.map_map]
    refine List.map_congr_left fun r _ => ?_
    rw [Function.comp_apply, lastWrite_concat]
    cases lastWrite key value (rowKey r) es with
    | none =>
      by_cases h : rowKey r = key e
      · simp [h]
      · simp [h, Ne.symm h]
    | some v =>
      by_cases h : rowKey r = key e
      · simp [hkey, hset, h]
      · simp [hkey, h, Ne.symm h]

end LastWrite

end Store
