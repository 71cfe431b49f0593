import Mathlib.Data.List.Sort
import Mathlib.Order.Basic

/-!
# Keyset pagination

A table is read in pages, the newest rows first: each request asks for the rows before a cursor,
which is the key of the last row of the page before. `page` selects one row more than the limit, to
see whether there is more to come, and names the next cursor only then.

`Follows` is a run of requests in which each is made with the cursor the last one gave.
`page_eq_of_perm` says what one request is answered with, also when the table has gained newer rows
since, and `Follows.served` what a whole run is: the rows behind its first cursor, each once and in
order, as far as the run has come, and all of them when no cursor is left.
-/

namespace Store

variable {α β κ : Type} [LinearOrder κ]

/-! ### A page -/

/-- Newest first: the keys strictly decrease. -/
def NewestFirst (key : α → κ) (rows : List α) : Prop := rows.Pairwise fun r r' => key r' < key r

/-- The rows before a cursor, or all of them, newest first. -/
def selectBefore (key : α → κ) (cursor : Option κ) (rows : List α) : List α :=
  (rows.filter fun r => cursor.all fun c => key r < c).mergeSort fun r r' => key r' ≤ key r

/-- A page of rows, and the cursor behind it if there is more. -/
structure Page (α κ : Type) where
  rows : List α
  next : Option κ

/-- The page before a cursor. -/
def page (key : α → κ) (limit : ℕ) (cursor : Option κ) (rows : List α) : Page α κ :=
  let selected := (selectBefore key cursor rows).take (limit + 1)
  ⟨selected.take limit,
    if limit < selected.length then (selected.take limit).getLast?.map key else none⟩

variable {key : α → κ}

/-- A list of rows with distinct keys is newest first in one order only. -/
theorem NewestFirst.eq_of_perm {rows rows' : List α} (h : NewestFirst key rows)
    (h' : NewestFirst key rows') (hperm : rows.Perm rows') : rows = rows' :=
  hperm.eq_of_pairwise (fun _ _ _ _ hlt hgt => absurd (hlt.trans hgt) (lt_irrefl _)) h h'

/-- Sorting rows with distinct keys puts the newest first. -/
theorem newestFirst_mergeSort {rows : List α} (hkeys : (rows.map key).Nodup) :
    NewestFirst key (rows.mergeSort fun r r' => key r' ≤ key r) := by
  have hsorted : (rows.mergeSort fun r r' => key r' ≤ key r).Pairwise fun r r' =>
      decide (key r' ≤ key r) = true := by
    refine List.pairwise_mergeSort (fun r r' r'' h h' => ?_) (fun r r' => ?_) rows
    · rw [decide_eq_true_eq] at h h' ⊢
      exact h'.trans h
    · rw [Bool.or_eq_true, decide_eq_true_eq, decide_eq_true_eq]
      exact le_total _ _
  have hne : (rows.mergeSort fun r r' => key r' ≤ key r).Pairwise fun r r' => key r ≠ key r' := by
    rw [← List.pairwise_map]
    exact ((List.mergeSort_perm rows _).map key).nodup_iff.mpr hkeys
  refine List.Pairwise.imp ?_ (hsorted.and hne)
  intro r r' h
  rw [decide_eq_true_eq] at h
  exact lt_of_le_of_ne h.1 h.2.symm

/-- A selection is what is newest first of the rows before the cursor. -/
theorem selectBefore_eq {cursor : Option κ} {rows selected : List α}
    (hordered : NewestFirst key selected)
    (hperm : (rows.filter fun r => cursor.all fun c => key r < c).Perm selected) :
    selectBefore key cursor rows = selected := by
  have hkeys : ((rows.filter fun r => cursor.all fun c => key r < c).map key).Nodup := by
    rw [(hperm.map key).nodup_iff]
    exact List.pairwise_map.mpr (hordered.imp fun hlt => hlt.ne')
  exact (newestFirst_mergeSort hkeys).eq_of_perm hordered
    ((List.mergeSort_perm _ _).trans hperm)

/-- A page of a known selection: the row beyond the limit only tells whether there is more. -/
theorem page_of_selectBefore {limit : ℕ} {cursor : Option κ} {rows rest : List α}
    (h : selectBefore key cursor rows = rest) :
    page key limit cursor rows =
      ⟨rest.take limit,
        if limit < rest.length then (rest.take limit).getLast?.map key else none⟩ := by
  have hmore : limit < (rest.take (limit + 1)).length ↔ limit < rest.length := by
    rw [List.length_take]
    omega
  have htake : (rest.take (limit + 1)).take limit = rest.take limit := by
    rw [List.take_take, min_eq_left (Nat.le_succ limit)]
  simp only [page, h, htake, hmore]

/-- The next cursor is the key of a row. -/
theorem page_next {limit : ℕ} {cursor : Option κ} {rows : List α} {c : κ}
    (h : (page key limit cursor rows).next = some c) : ∃ r ∈ rows, key r = c := by
  rw [page] at h
  split_ifs at h
  obtain ⟨r, hr, hc⟩ := Option.map_eq_some_iff.mp h
  have hmem : r ∈ selectBefore key cursor rows :=
    List.mem_of_mem_take (List.mem_of_mem_take (List.mem_of_getLast? hr))
  rw [selectBefore, List.mem_mergeSort] at hmem
  exact ⟨r, List.mem_of_mem_filter hmem, hc⟩

/-- What is behind the last row of a beginning is the rest. -/
theorem NewestFirst.filter_lt {seen rest : List α} {r : α} (h : NewestFirst key (seen ++ rest))
    (hlast : seen.getLast? = some r) : (seen ++ rest).filter (fun r' => key r' < key r) = rest := by
  obtain ⟨init, rfl⟩ := List.getLast?_eq_some_iff.mp hlast
  obtain ⟨hseen, -, hacross⟩ := List.pairwise_append.mp h
  have hbefore : (init ++ [r]).filter (fun r' => key r' < key r) = [] := by
    refine List.filter_eq_nil_iff.mpr fun r' hr' => ?_
    rw [decide_eq_true_eq, not_lt]
    rcases List.mem_append.mp hr' with hinit | hlast
    · exact ((List.pairwise_append.mp hseen).2.2 r' hinit r List.mem_cons_self).le
    · exact (List.mem_singleton.mp hlast) ▸ le_rfl
  have hbehind : rest.filter (fun r' => key r' < key r) = rest := by
    refine List.filter_eq_self.mpr fun r' hr' => decide_eq_true ?_
    exact hacross r (List.mem_append_right init List.mem_cons_self) r' hr'
  rw [List.filter_append, hbefore, hbehind, List.nil_append]

/-- **One page.** Behind the rows seen so far, the page is the next rows, as many as the limit
allows, and it names its last row if there are more. Rows the table has gained do not matter, as
long as none of them is before the cursor. -/
theorem page_eq_of_perm {limit : ℕ} {seen rest fresh table : List α} {cursor : Option κ}
    (h : NewestFirst key (seen ++ rest)) (hcursor : seen.getLast?.map key = cursor)
    (hperm : table.Perm (seen ++ rest ++ fresh))
    (hfresh : ∀ r ∈ fresh, ∃ c, cursor = some c ∧ c ≤ key r) :
    page key limit cursor table =
      ⟨rest.take limit,
        if limit < rest.length then (rest.take limit).getLast?.map key else none⟩ := by
  have hrest : (seen ++ rest).filter (fun r => cursor.all fun c => key r < c) = rest := by
    cases hlast : seen.getLast? with
    | none =>
      rw [hlast] at hcursor
      subst cursor
      rw [List.getLast?_eq_none_iff.mp hlast, List.nil_append]
      exact List.filter_eq_self.mpr fun _ _ => rfl
    | some r =>
      rw [hlast] at hcursor
      subst cursor
      exact h.filter_lt hlast
  have hnone : fresh.filter (fun r => cursor.all fun c => key r < c) = [] := by
    refine List.filter_eq_nil_iff.mpr fun r hr => ?_
    obtain ⟨c, rfl, hle⟩ := hfresh r hr
    rw [Option.all_some, decide_eq_true_eq, not_lt]
    exact hle
  have hfilter : (table.filter fun r => cursor.all fun c => key r < c).Perm rest := by
    have hperm' := hperm.filter fun r => cursor.all fun c => key r < c
    rwa [List.filter_append, hrest, hnone, List.append_nil] at hperm'
  exact page_of_selectBefore (selectBefore_eq (List.pairwise_append.mp h).2.1 hfilter)

/-- A map that keeps the keys keeps the pages. -/
theorem page_map {key' : β → κ} {f : α → β} (hf : ∀ r, key' (f r) = key r) (limit : ℕ)
    (cursor : Option κ) (rows : List α) :
    page key' limit cursor (rows.map f) =
      ⟨(page key limit cursor rows).rows.map f, (page key limit cursor rows).next⟩ := by
  have hselect : selectBefore key' cursor (rows.map f) = (selectBefore key cursor rows).map f := by
    rw [selectBefore, selectBefore, List.map_mergeSort (s := fun r r' => key' r' ≤ key' r),
      List.filter_map]
    · simp only [Function.comp_def, hf]
    · intro r _ r' _
      rw [hf, hf]
  have hlast : key' ∘ f = key := funext hf
  simp only [page, hselect, ← List.map_take, List.length_map, List.getLast?_map, Option.map_map,
    hlast]

/-! ### A run of requests -/

/-- Requests that follow the cursors: each but the first is made with the cursor the one before was
answered with. A request is listed with the state it found and what it was served. -/
inductive Follows {γ σ ρ : Type} (request : Option γ → σ → ρ → Option γ → Prop) :
    Option γ → List (σ × ρ) → Option γ → Prop
  | one {before next : Option γ} {s : σ} {served : ρ} (here : request before s served next) :
      Follows request before [(s, served)] next
  | more {before next : Option γ} {c : γ} {s : σ} {served : ρ} {visits : List (σ × ρ)}
      (here : request before s served (some c)) (rest : Follows request (some c) visits next) :
      Follows request before ((s, served) :: visits) next

/-- Runs of requests carry over to related requests. -/
theorem Follows.simulate {γ γ' σ σ' ρ ρ' : Type} {request : Option γ → σ → ρ → Option γ → Prop}
    {request' : Option γ' → σ' → ρ' → Option γ' → Prop} {R : Option γ → Option γ' → Prop}
    {S : σ × ρ → σ' × ρ' → Prop} (hnone : ∀ c, ¬ R (some c) none)
    (hstep : ∀ before before' s served next, R before before' → request before s served next →
      ∃ s' served' next', S (s, served) (s', served') ∧ R next next' ∧
        request' before' s' served' next')
    {before next : Option γ} {before' : Option γ'} {visits : List (σ × ρ)}
    (h : Follows request before visits next) (hbefore : R before before') :
    ∃ visits' next', List.Forall₂ S visits visits' ∧ R next next' ∧
      Follows request' before' visits' next' := by
  induction h generalizing before' with
  | one here =>
    obtain ⟨s', served', next', hs, hnext, here'⟩ := hstep _ _ _ _ _ hbefore here
    exact ⟨_, next', .cons hs .nil, hnext, .one here'⟩
  | @more _ _ c _ _ _ here _ ih =>
    obtain ⟨s', served', next', hs, hnext, here'⟩ := hstep _ _ _ _ _ hbefore here
    cases next' with
    | none => exact absurd hnext (hnone c)
    | some c' =>
      obtain ⟨visits', last, hvisits, hlast, hrest⟩ := ih hnext
      exact ⟨_, last, .cons hs hvisits, hlast, .more here' hrest⟩

/-- The first request of a run. -/
theorem Follows.head {γ σ ρ : Type} {request : Option γ → σ → ρ → Option γ → Prop}
    {before next : Option γ} {s : σ} {served : ρ} {visits : List (σ × ρ)}
    (h : Follows request before ((s, served) :: visits) next) :
    ∃ next', request before s served next' := by
  cases h with
  | one here => exact ⟨_, here⟩
  | more here _ => exact ⟨_, here⟩

/-- Runs of requests carry over when each request does. -/
theorem Follows.map {γ σ σ' ρ ρ' : Type} {request : Option γ → σ → ρ → Option γ → Prop}
    {request' : Option γ → σ' → ρ' → Option γ → Prop} {f : σ → σ'} {g : ρ → ρ'}
    (hstep : ∀ before s served next, request before s served next →
      request' before (f s) (g served) next)
    {before next : Option γ} {visits : List (σ × ρ)} (h : Follows request before visits next) :
    Follows request' before (visits.map (Prod.map f g)) next := by
  induction h with
  | one here => exact .one (hstep _ _ _ _ here)
  | more here _ ih => exact .more (hstep _ _ _ _ here) ih

/-- A request for a page of the table it finds. -/
def PageRequest (key : α → κ) (limit : ℕ) (before : Option κ) (table served : List α)
    (next : Option κ) : Prop :=
  page key limit before table = ⟨served, next⟩

/-- The table holds the rows and others that are not before the cursor. -/
def GainedFrom (key : α → κ) (rows : List α) (cursor : Option κ) (table : List α) : Prop :=
  ∃ fresh, table.Perm (rows ++ fresh) ∧ ∀ r ∈ fresh, ∃ c, cursor = some c ∧ c ≤ key r

/-- What a run has served of the rows it set out for: a beginning, in order; all of them once no
cursor is left; and it takes no more requests than there are pages. -/
structure Serves (limit : ℕ) (rest : List α) (visits : List (List α × List α)) (next : Option κ) :
    Prop where
  served : visits.flatMap Prod.snd <+: rest
  all : next = none → visits.flatMap Prod.snd = rest
  length_le : visits.length ≤ (rest.length - 1) / limit + 1

section

variable {limit : ℕ} {seen rest table served : List α} {cursor next : Option κ}

/-- A request is served the next rows. -/
theorem PageRequest.served_eq (h : PageRequest key limit cursor table served next)
    (hordered : NewestFirst key (seen ++ rest)) (hcursor : seen.getLast?.map key = cursor)
    (htable : GainedFrom key (seen ++ rest) cursor table) :
    served = rest.take limit ∧
      next = if limit < rest.length then (rest.take limit).getLast?.map key else none := by
  obtain ⟨fresh, hperm, hfresh⟩ := htable
  have hpage := h.symm.trans (page_eq_of_perm hordered hcursor hperm hfresh)
  exact Page.mk.inj hpage

omit [LinearOrder κ] in
/-- Without a next cursor the page reaches the end. -/
theorem serves_one (hlimit : 0 < limit)
    (hnext : next = if limit < rest.length then (rest.take limit).getLast?.map key else none) :
    Serves limit rest [(table, rest.take limit)] next := by
  refine ⟨?_, fun hnone => ?_, ?_⟩
  · rw [List.flatMap_singleton]
    exact List.take_prefix limit rest
  · have hall : rest.length ≤ limit := by
      by_contra hmore
      rw [hnone, if_pos (not_le.mp hmore), eq_comm, Option.map_eq_none_iff,
        List.getLast?_eq_none_iff, List.take_eq_nil_iff] at hnext
      rcases hnext with hzero | hnil
      · omega
      · rw [hnil] at hmore
        exact hmore (Nat.zero_le limit)
    rw [List.flatMap_singleton]
    exact List.take_of_length_le hall
  · rw [List.length_singleton]
    exact Nat.le_add_left 1 _

omit [LinearOrder κ] in
/-- After a page with more behind it, the run goes on with the rest. -/
theorem Serves.more {visits : List (List α × List α)} (hlimit : 0 < limit)
    (hmore : limit < rest.length) (h : Serves limit (rest.drop limit) visits next) :
    Serves limit rest ((table, rest.take limit) :: visits) next := by
  refine ⟨?_, fun hlast => ?_, ?_⟩
  · rw [List.flatMap_cons]
    conv_rhs => rw [← List.take_append_drop limit rest]
    exact (List.prefix_append_right_inj _).mpr h.served
  · rw [List.flatMap_cons, h.all hlast]
    exact List.take_append_drop limit rest
  · have hlength := h.length_le
    have hdiv : (rest.length - 1) / limit = (rest.length - 1 - limit) / limit + 1 :=
      Nat.div_eq_sub_div hlimit (by omega)
    have hsub : rest.length - limit - 1 = rest.length - 1 - limit := by omega
    rw [List.length_drop, hsub] at hlength
    rw [List.length_cons, hdiv]
    omega

omit [LinearOrder κ] in
/-- A next cursor is the key of the last row served, and there is more behind it. -/
theorem next_eq_some (seen : List α) {c : κ}
    (hnext : some c = if limit < rest.length then (rest.take limit).getLast?.map key else none) :
    limit < rest.length ∧ ∃ r ∈ rest.take limit, key r = c ∧
      (seen ++ rest.take limit).getLast?.map key = some c := by
  have hmore : limit < rest.length := by
    by_contra hle
    rw [if_neg hle] at hnext
    cases hnext
  rw [if_pos hmore] at hnext
  obtain ⟨r, hr, hc⟩ := Option.map_eq_some_iff.mp hnext.symm
  refine ⟨hmore, r, List.mem_of_getLast? hr, hc, ?_⟩
  rw [List.getLast?_append, hr, Option.some_or, Option.map_some, hc]

/-- **A run behind a cursor** serves the rows behind it, whatever rows the table gains that are not
before the cursor. -/
theorem Follows.serves_behind (hlimit : 0 < limit) {c : κ} {visits : List (List α × List α)}
    (h : Follows (PageRequest key limit) (some c) visits next)
    (hordered : NewestFirst key (seen ++ rest)) (hcursor : seen.getLast?.map key = some c)
    (hvisits : ∀ v ∈ visits, GainedFrom key (seen ++ rest) (some c) v.1) :
    Serves limit rest visits next := by
  -- by induction on the run; the rows seen grow, so the cursor only moves away from the new rows
  generalize hbefore : some c = before at h
  induction h generalizing seen rest c with
  | @one before next table served here =>
    subst hbefore
    obtain ⟨rfl, hnext⟩ := here.served_eq hordered hcursor (hvisits _ List.mem_cons_self)
    exact serves_one hlimit hnext
  | @more before next c' table served visits here rest' ih =>
    subst hbefore
    obtain ⟨rfl, hnext⟩ := here.served_eq hordered hcursor (hvisits _ List.mem_cons_self)
    obtain ⟨hmore, r, hr, hc', hseen⟩ := next_eq_some seen hnext
    have hsplit : seen ++ rest.take limit ++ rest.drop limit = seen ++ rest := by
      rw [List.append_assoc, List.take_append_drop]
    have hlt : c' < c := by
      obtain ⟨last, hlast, rfl⟩ := Option.map_eq_some_iff.mp hcursor
      rw [← hc']
      exact (List.pairwise_append.mp hordered).2.2 last (List.mem_of_getLast? hlast) r
        (List.mem_of_mem_take hr)
    refine Serves.more hlimit hmore (ih (by rwa [hsplit]) hseen (fun v hv => ?_) rfl)
    obtain ⟨fresh, hperm, hfresh⟩ := hvisits v (List.mem_cons_of_mem _ hv)
    refine ⟨fresh, by rwa [hsplit], fun r' hr' => ⟨c', rfl, ?_⟩⟩
    obtain ⟨_, ⟨⟩, hle⟩ := hfresh r' hr'
    exact hlt.le.trans hle

/-- **A run from the start** serves all rows the table had at its first request, whatever newer rows
than those of its first page the table gains in between. -/
theorem Follows.serves (hlimit : 0 < limit) {rows : List α}
    {visits : List (List α × List α)}
    (h : Follows (PageRequest key limit) none ((table, served) :: visits) next)
    (hordered : NewestFirst key rows) (htable : table.Perm rows)
    (hvisits : ∀ v ∈ visits, ∃ fresh, v.1.Perm (rows ++ fresh) ∧
      ∀ r ∈ fresh, ∀ r' ∈ served, key r' < key r) :
    Serves limit rows ((table, served) :: visits) next := by
  have hfirst : GainedFrom key ([] ++ rows) none table := ⟨[], by simpa using htable, by simp⟩
  have hrows : NewestFirst key ([] ++ rows) := hordered
  cases h with
  | one here =>
    obtain ⟨rfl, hnext⟩ := here.served_eq hrows rfl hfirst
    exact serves_one hlimit hnext
  | @more _ _ c _ _ _ here rest =>
    obtain ⟨rfl, hnext⟩ := here.served_eq hrows rfl hfirst
    obtain ⟨hmore, r, hr, hc, hseen⟩ := next_eq_some [] hnext
    rw [List.nil_append] at hseen
    refine Serves.more hlimit hmore (rest.serves_behind hlimit ?_ hseen fun v hv => ?_)
    · rwa [List.take_append_drop]
    · obtain ⟨fresh, hperm, hfresh⟩ := hvisits v hv
      refine ⟨fresh, by rwa [List.take_append_drop], fun r' hr' => ⟨c, rfl, ?_⟩⟩
      rw [← hc]
      exact (hfresh r' hr' r hr).le

end

/-! ### What a reader holds -/

/-- The rows before a cursor are the last of the table. -/
theorem NewestFirst.exists_append_filter {rows : List α} (h : NewestFirst key rows) (c : κ) :
    ∃ seen, rows = seen ++ rows.filter (fun r => key r < c) := by
  induction rows with
  | nil => exact ⟨[], rfl⟩
  | cons r rows ih =>
    obtain ⟨hr, hrows⟩ := List.pairwise_cons.mp h
    by_cases hc : key r < c
    · have hall : (r :: rows).filter (fun r => key r < c) = r :: rows := by
        refine List.filter_eq_self.mpr fun r' hr' => decide_eq_true ?_
        rcases List.mem_cons.mp hr' with rfl | hmem
        · exact hc
        · exact (hr r' hmem).trans hc
      exact ⟨[], by rw [hall, List.nil_append]⟩
    · obtain ⟨seen, hseen⟩ := ih hrows
      refine ⟨r :: seen, ?_⟩
      rw [List.filter_cons_of_neg (by simpa using hc), List.cons_append, ← hseen]

/-- The page of a table, for whatever cursor. -/
theorem page_eq {limit : ℕ} {cursor : Option κ} {rows rest : List α} (h : NewestFirst key rows)
    (hrest : rest = rows.filter fun r => cursor.all fun c => key r < c) :
    page key limit cursor rows =
      ⟨rest.take limit,
        if limit < rest.length then (rest.take limit).getLast?.map key else none⟩ := by
  have hordered : NewestFirst key rest := by
    rw [hrest]
    exact List.Pairwise.sublist List.filter_sublist h
  exact page_of_selectBefore (selectBefore_eq hordered (by rw [hrest]))

/-- The rows held are a part of the table with nothing left out, and the cursor is behind them if
there is more. -/
def Contiguous (key : α → κ) (table shown : List α) (next : Option κ) : Prop :=
  ∃ before after, table = before ++ shown ++ after ∧
    (shown = [] ∧ next = none ∨
      ∃ r, shown.getLast? = some r ∧ next = if after = [] then none else some (key r))

omit [LinearOrder κ] in
/-- A table that grows at its newest end still holds them. -/
theorem Contiguous.grow {table shown : List α} {next : Option κ}
    (h : Contiguous key table shown next) (r : α) : Contiguous key (r :: table) shown next := by
  obtain ⟨before, after, rfl, hnext⟩ := h
  exact ⟨r :: before, after, rfl, hnext⟩

omit [LinearOrder κ] in
/-- The rows of a page, as they follow others. -/
private theorem contiguous_take {limit : ℕ} (hlimit : 0 < limit) (before shown rest : List α)
    (hshown : shown = [] ∨ rest ≠ []) :
    Contiguous key (before ++ shown ++ rest) (shown ++ rest.take limit)
      (if limit < rest.length then (rest.take limit).getLast?.map key else none) := by
  refine ⟨before, rest.drop limit, ?_, ?_⟩
  · rw [List.append_assoc, List.append_assoc, List.append_assoc, List.take_append_drop]
  · by_cases hrest : rest = []
    · obtain rfl := hshown.resolve_right (not_not.mpr hrest)
      subst hrest
      exact .inl ⟨by simp, by simp⟩
    · have htake : rest.take limit ≠ [] := by
        rw [Ne, List.take_eq_nil_iff]
        rintro (hzero | hnil)
        · omega
        · exact hrest hnil
      obtain ⟨r, hr⟩ := Option.ne_none_iff_exists'.mp
        (mt List.getLast?_eq_none_iff.mp htake)
      refine .inr ⟨r, by rw [List.getLast?_append, hr, Option.some_or], ?_⟩
      rw [hr, Option.map_some]
      by_cases hmore : limit < rest.length
      · rw [if_pos hmore, if_neg (mt List.drop_eq_nil_iff.mp (not_le.mpr hmore))]
      · rw [if_neg hmore, if_pos (List.drop_eq_nil_iff.mpr (not_lt.mp hmore))]

/-- **A page is contiguous,** also in the table that has grown since. -/
theorem contiguous_page {limit : ℕ} (hlimit : 0 < limit) {rows : List α}
    (h : NewestFirst key rows) (cursor : Option κ) (fresh : List α) :
    Contiguous key (fresh ++ rows) (page key limit cursor rows).rows
      (page key limit cursor rows).next := by
  have hseen : ∃ seen, rows = seen ++ rows.filter (fun r => cursor.all fun c => key r < c) := by
    cases cursor with
    | none => exact ⟨[], by simp⟩
    | some c => exact h.exists_append_filter c
  obtain ⟨seen, hsplit⟩ := hseen
  rw [page_eq h rfl]
  have hpage : Contiguous key _ _ _ := contiguous_take hlimit (fresh ++ seen) []
    (rows.filter fun r => cursor.all fun c => key r < c) (.inl rfl)
  rwa [List.append_nil, List.append_assoc, ← hsplit, List.nil_append] at hpage

/-- **The next page continues it.** Behind the rows held, the page of their cursor follows, also
when the table has grown since the page was taken. -/
theorem Contiguous.append_page {limit : ℕ} (hlimit : 0 < limit) {shown rows fresh : List α} {c : κ}
    (h : Contiguous key (fresh ++ rows) shown (some c)) (hordered : NewestFirst key (fresh ++ rows))
    (hfresh : ∀ r ∈ fresh, key r ≠ c) :
    Contiguous key (fresh ++ rows) (shown ++ (page key limit (some c) rows).rows)
      (page key limit (some c) rows).next := by
  obtain ⟨before, after, hsplit, hnext⟩ := h
  rcases hnext with ⟨-, hnone⟩ | ⟨r, hr, hnext⟩
  · cases hnone
  · have hafter : after ≠ [] := by
      rintro rfl
      rw [if_pos rfl] at hnext
      cases hnext
    obtain rfl : c = key r := by
      rw [if_neg hafter] at hnext
      exact Option.some.inj hnext
    have hlast : (before ++ shown).getLast? = some r := by
      rw [List.getLast?_append, hr, Option.some_or]
    have hbehind : (fresh ++ rows).filter (fun r' => key r' < key r) = after := by
      rw [hsplit]
      exact (hsplit ▸ hordered).filter_lt hlast
    -- the last row held is not among the new ones, so all of these are newer
    have hnone : fresh.filter (fun r' => key r' < key r) = [] := by
      refine List.filter_eq_nil_iff.mpr fun r' hr' => ?_
      rw [decide_eq_true_eq, not_lt]
      have hmem : r ∈ fresh ++ rows := by
        rw [hsplit]
        exact List.mem_append_left _ (List.mem_of_getLast? hlast)
      rcases List.mem_append.mp hmem with hin | hin
      · exact absurd rfl (hfresh r hin)
      · exact ((List.pairwise_append.mp hordered).2.2 r' hr' r hin).le
    have hrest : after = rows.filter fun r' => (some (key r)).all fun c => key r' < c := by
      rw [← hbehind, List.filter_append, hnone, List.nil_append]
      rfl
    rw [page_eq (List.pairwise_append.mp hordered).2.1 hrest, hsplit]
    exact contiguous_take hlimit before shown after (.inr hafter)

end Store
