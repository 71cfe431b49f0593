import Mathlib.Data.List.Nodup

/-!
# Keyed tables

A `Table R key` is a list of rows in insertion order whose primary keys are pairwise distinct;
the distinctness is a field, so a table that breaks it cannot be built. The operations are the
SQL statements that keep it: `insertOrIgnore` (`INSERT OR IGNORE`), `upsert` (`INSERT … ON
CONFLICT DO UPDATE`) and `update` (`UPDATE … WHERE`).

`insertAll` inserts a list of rows one after another. Two facts carry what is proved about it:
rows are never lost (`rows_prefix_insertAll`), and on rows that are new and distinct it is a
plain append (`rows_insertAll_of_nodup`).
-/

namespace Store

variable {R K : Type}

/-- Rows in insertion order, with a unique primary key. -/
structure Table (R : Type) {K : Type} (key : R → K) where
  rows : List R
  nodup : (rows.map key).Nodup

namespace Table

variable {key : R → K}

/-- The primary keys in use. -/
def keys (t : Table R key) : List K := t.rows.map key

/-- The table with no rows. -/
def empty : Table R key := ⟨[], by simp⟩

@[simp]
theorem rows_empty : (empty : Table R key).rows = [] := rfl

@[simp]
theorem keys_empty : (empty : Table R key).keys = [] := rfl

@[ext]
theorem ext {t t' : Table R key} (h : t.rows = t'.rows) : t = t' := by
  cases t
  cases t'
  cases h
  rfl

variable [DecidableEq K]

/-- A row that is in a table is the only one with its key. -/
theorem filter_key_eq_singleton {t : Table R key} {r : R} (hr : r ∈ t.rows) :
    (t.rows.filter fun r' => key r' = key r) = [r] := by
  obtain ⟨rows, hnd⟩ := t
  induction rows with
  | nil => simp at hr
  | cons x rows ih =>
    simp only [List.map_cons, List.nodup_cons, List.mem_map] at hnd
    obtain ⟨hx, hnd⟩ := hnd
    rcases List.mem_cons.mp hr with rfl | hmem
    · have hnone : (rows.filter fun r' => key r' = key r) = [] := by
        rw [List.filter_eq_nil_iff]
        intro y hy hkey
        exact hx ⟨y, hy, by simpa using hkey⟩
      simp [hnone]
    · have hne : key x ≠ key r := fun h => hx ⟨r, hmem, h.symm⟩
      rw [List.filter_cons_of_neg (by simpa using hne)]
      exact ih hnd hmem

/-! ### `INSERT OR IGNORE` -/

/-- `INSERT OR IGNORE`: append the row unless its key is taken. -/
def insertOrIgnore (t : Table R key) (r : R) : Table R key :=
  if h : key r ∈ t.keys then t
  else ⟨t.rows ++ [r], by
    rw [List.map_append, List.map_singleton]
    exact List.Nodup.append t.nodup (by simp) (by simpa [List.disjoint_singleton, keys] using h)⟩

/-- Insert rows one after another, each unless its key is taken by then. -/
def insertAll (t : Table R key) (rs : List R) : Table R key := rs.foldl insertOrIgnore t

@[simp]
theorem insertAll_nil (t : Table R key) : t.insertAll [] = t := rfl

@[simp]
theorem insertAll_cons (t : Table R key) (r : R) (rs : List R) :
    t.insertAll (r :: rs) = (t.insertOrIgnore r).insertAll rs := rfl

theorem insertOrIgnore_of_mem {t : Table R key} {r : R} (h : key r ∈ t.keys) :
    t.insertOrIgnore r = t :=
  dif_pos h

theorem rows_insertOrIgnore_of_notMem {t : Table R key} {r : R} (h : key r ∉ t.keys) :
    (t.insertOrIgnore r).rows = t.rows ++ [r] := by
  rw [insertOrIgnore, dif_neg h]

theorem keys_insertOrIgnore (t : Table R key) (r : R) (k : K) :
    k ∈ (t.insertOrIgnore r).keys ↔ k ∈ t.keys ∨ k = key r := by
  by_cases h : key r ∈ t.keys
  · rw [insertOrIgnore_of_mem h]
    exact ⟨.inl, fun hk => hk.elim id fun hk => hk ▸ h⟩
  · simp only [keys, rows_insertOrIgnore_of_notMem h, List.map_append, List.map_singleton,
      List.mem_append, List.mem_singleton]

theorem rows_prefix_insertOrIgnore (t : Table R key) (r : R) :
    t.rows <+: (t.insertOrIgnore r).rows := by
  by_cases h : key r ∈ t.keys
  · exact (insertOrIgnore_of_mem h).symm ▸ List.prefix_refl t.rows
  · exact ⟨[r], (rows_insertOrIgnore_of_notMem h).symm⟩

/-- **Nothing is lost.** The rows of a table stay, in order, in front of what is inserted. -/
theorem rows_prefix_insertAll (t : Table R key) (rs : List R) :
    t.rows <+: (t.insertAll rs).rows := by
  induction rs generalizing t with
  | nil => exact List.prefix_refl _
  | cons r rs ih => exact (rows_prefix_insertOrIgnore t r).trans (ih _)

theorem keys_subset_insertAll (t : Table R key) (rs : List R) : t.keys ⊆ (t.insertAll rs).keys :=
  List.map_subset key (rows_prefix_insertAll t rs).subset

theorem mem_insertAll_of_mem {t : Table R key} {r : R} (h : r ∈ t.rows) (rs : List R) :
    r ∈ (t.insertAll rs).rows :=
  (rows_prefix_insertAll t rs).subset h

theorem mem_of_mem_insertAll {t : Table R key} {rs : List R} {r : R}
    (h : r ∈ (t.insertAll rs).rows) : r ∈ t.rows ∨ r ∈ rs := by
  induction rs generalizing t with
  | nil => exact .inl h
  | cons x rs ih =>
    rcases ih h with h | h
    · by_cases hk : key x ∈ t.keys
      · rw [insertOrIgnore_of_mem hk] at h
        exact .inl h
      · rw [rows_insertOrIgnore_of_notMem hk] at h
        rcases List.mem_append.mp h with h | h
        · exact .inl h
        · exact .inr (by simp [List.mem_singleton.mp h])
    · exact .inr (List.mem_cons_of_mem _ h)

/-- Inserting adds no rows but those given. -/
theorem rows_insertAll_subset {t : Table R key} {rows new : List R} (ht : t.rows ⊆ rows)
    (hnew : new ⊆ rows) : (t.insertAll new).rows ⊆ rows := by
  intro r hr
  rcases mem_of_mem_insertAll hr with hr | hr
  · exact ht hr
  · exact hnew hr

/-- Rows whose keys are taken are ignored. -/
theorem insertAll_of_keys_mem {t : Table R key} {rs : List R} (h : ∀ r ∈ rs, key r ∈ t.keys) :
    t.insertAll rs = t := by
  induction rs with
  | nil => rfl
  | cons r rs ih =>
    obtain ⟨hr, hrs⟩ := List.forall_mem_cons.mp h
    rw [insertAll_cons, insertOrIgnore_of_mem hr, ih hrs]

/-- Every key inserted is in use afterwards. -/
theorem key_mem_insertAll {t : Table R key} {rs : List R} {r : R} (h : r ∈ rs) :
    key r ∈ (t.insertAll rs).keys := by
  induction rs generalizing t with
  | nil => simp at h
  | cons x rs ih =>
    rcases List.mem_cons.mp h with rfl | h
    · have hx : key r ∈ (t.insertOrIgnore r).keys := (keys_insertOrIgnore t r _).mpr (.inr rfl)
      obtain ⟨y, hy, hyr⟩ := List.mem_map.mp hx
      exact List.mem_map.mpr ⟨y, mem_insertAll_of_mem hy rs, hyr⟩
    · exact ih h

/-- **New rows are appended.** When the keys of the rows are distinct and unused, inserting them
is appending them. -/
theorem rows_insertAll_of_nodup {t : Table R key} {rs : List R}
    (h : ((t.rows ++ rs).map key).Nodup) : (t.insertAll rs).rows = t.rows ++ rs := by
  induction rs generalizing t with
  | nil => simp
  | cons r rs ih =>
    have hr : key r ∉ t.keys := by
      rw [List.map_append, List.nodup_append] at h
      exact fun hmem => h.2.2 _ hmem _ (by simp) rfl
    have hrows : (t.insertOrIgnore r).rows = t.rows ++ [r] := rows_insertOrIgnore_of_notMem hr
    rw [insertAll_cons, ih (by rw [hrows]; simpa using h), hrows]
    simp

/-- A row inserted is present as it is, when no other row around has its key. -/
theorem mem_insertAll_of_key_unique {t : Table R key} {rs : List R} {r : R} (h : r ∈ rs)
    (huniq : ∀ r', r' ∈ t.rows ∨ r' ∈ rs → key r' = key r → r' = r) :
    r ∈ (t.insertAll rs).rows := by
  obtain ⟨y, hy, hyr⟩ := List.mem_map.mp (key_mem_insertAll (t := t) h)
  rwa [huniq y (mem_of_mem_insertAll hy) hyr] at hy

/-- Rows of a list with distinct keys are present once they are inserted, whatever part of the list
was there before. -/
theorem mem_insertAll_of_nodup {t : Table R key} {rows new : List R} (ht : t.rows ⊆ rows)
    (hrows : (rows.map key).Nodup) (hnew : new ⊆ rows) {r : R} (h : r ∈ new) :
    r ∈ (t.insertAll new).rows := by
  refine mem_insertAll_of_key_unique h fun r' hr' hkey => ?_
  have hmem : r' ∈ rows := hr'.elim (fun hr' => ht hr') fun hr' => hnew hr'
  exact List.inj_on_of_nodup_map hrows hmem (hnew h) hkey

/-- Tables with the same rows up to a view that keeps the key stay so when rows are inserted. -/
theorem map_rows_insertAll_congr {V : Type} {view : R → V} (viewKey : V → K)
    (hview : ∀ r, viewKey (view r) = key r) {t t' : Table R key}
    (h : t.rows.map view = t'.rows.map view) (rs : List R) :
    (t.insertAll rs).rows.map view = (t'.insertAll rs).rows.map view := by
  induction rs generalizing t t' with
  | nil => exact h
  | cons r rs ih =>
    have hkeys : ∀ t : Table R key, t.keys = (t.rows.map view).map viewKey := by
      intro t
      rw [List.map_map, keys]
      exact List.map_congr_left fun r _ => (hview r).symm
    refine ih ?_
    by_cases hr : key r ∈ t.keys
    · have hr' : key r ∈ t'.keys := by rwa [hkeys, ← h, ← hkeys]
      rw [insertOrIgnore_of_mem hr, insertOrIgnore_of_mem hr', h]
    · have hr' : key r ∉ t'.keys := by rwa [hkeys, ← h, ← hkeys]
      rw [rows_insertOrIgnore_of_notMem hr, rows_insertOrIgnore_of_notMem hr', List.map_append,
        List.map_append, h]

/-! ### `UPDATE … WHERE` and `ON CONFLICT DO UPDATE` -/

omit [DecidableEq K] in
/-- An edit that keeps the key keeps the keys of a list of rows. -/
theorem map_key_edit (p : R → Bool) (f : R → R) (hf : ∀ r, key (f r) = key r) (rows : List R) :
    (rows.map fun r => if p r then f r else r).map key = rows.map key := by
  rw [List.map_map]
  refine List.map_congr_left fun r _ => ?_
  by_cases h : p r <;> simp [h, hf]

/-- `UPDATE … SET f WHERE p`, for an edit `f` that keeps the primary key. -/
def update (t : Table R key) (p : R → Bool) (f : R → R) (hf : ∀ r, key (f r) = key r) :
    Table R key :=
  ⟨t.rows.map fun r => if p r then f r else r, by rw [map_key_edit p f hf]; exact t.nodup⟩

/-- `INSERT … ON CONFLICT DO UPDATE SET f`: edit the row with the key if there is one, append
the new row otherwise. -/
def upsert (t : Table R key) (r : R) (f : R → R) (hf : ∀ r, key (f r) = key r) : Table R key :=
  if key r ∈ t.keys then t.update (fun x => key x = key r) f hf else t.insertOrIgnore r

omit [DecidableEq K] in
theorem mem_update {t : Table R key} {p : R → Bool} {f : R → R}
    {hf : ∀ r, key (f r) = key r} {x : R} :
    x ∈ (t.update p f hf).rows ↔ ∃ r ∈ t.rows, (if p r then f r else r) = x :=
  List.mem_map

omit [DecidableEq K] in
@[simp]
theorem keys_update (t : Table R key) (p : R → Bool) (f : R → R)
    (hf : ∀ r, key (f r) = key r) : (t.update p f hf).keys = t.keys :=
  map_key_edit p f hf t.rows

end Table

end Store
