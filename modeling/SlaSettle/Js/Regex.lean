import Mathlib.Data.List.Basic
import Mathlib.Data.List.DropRight

/-!
# Regular expressions

The patterns the modelled code uses, over any alphabet: character classes, greedy repetition of a
class, the anchors `^` and `$`, sequence and alternation. `ends` is the backtracking matcher: the
positions a match started here can end at, the preferred one first. `test` and `removeAll` are what
callers do with a pattern: `pattern.test(text)`, and `text.replace(pattern, "")` under the flag `g`.

`mem_ends_…` describe the matches of each construct by the text they consume, so a caller's pattern
is read off without running the matcher. `removeAll_trimEnds` is the one replacement in use: the
runs of a class at the two ends of a text.
-/

namespace Js

/-- A pattern over the alphabet `α`. -/
inductive Regex (α : Type) where
  | empty
  | one (p : α → Bool)
  | many (p : α → Bool)
  | start
  | stop
  | seq (r r' : Regex α)
  | alt (r r' : Regex α)

namespace Regex

variable {α : Type}

/-- `[p]+`. -/
def plus (p : α → Bool) : Regex α := seq (one p) (many p)

/-- `r?`. -/
def opt (r : Regex α) : Regex α := alt r empty

/-- `[p]{n}`. -/
def times (p : α → Bool) : ℕ → Regex α
  | 0 => empty
  | n + 1 => seq (one p) (times p n)

/-- The given text. -/
def literal [DecidableEq α] : List α → Regex α
  | [] => empty
  | c :: cs => seq (one (· = c)) (literal cs)

/-- The whole text, `^r$`. -/
def whole (r : Regex α) : Regex α := seq start (seq r stop)

/-! ### Matching -/

/-- The ends of a greedy run of a class, the longest first. -/
def runEnds (p : α → Bool) : ℕ → List α → List (ℕ × List α)
  | i, [] => [(i, [])]
  | i, c :: cs => if p c then runEnds p (i + 1) cs ++ [(i, c :: cs)] else [(i, c :: cs)]

/-- Where a match that starts at position `i`, with `text` ahead, may end, and what is ahead
there. -/
def ends : Regex α → ℕ → List α → List (ℕ × List α)
  | empty, i, text => [(i, text)]
  | one _, _, [] => []
  | one p, i, c :: cs => if p c then [(i + 1, cs)] else []
  | many p, i, text => runEnds p i text
  | start, i, text => if i = 0 then [(i, text)] else []
  | stop, i, text => if text = [] then [(i, text)] else []
  | seq r r', i, text => (r.ends i text).flatMap fun e => r'.ends e.1 e.2
  | alt r r', i, text => r.ends i text ++ r'.ends i text

/-- Whether there is a match at position `i` or later. -/
def testFrom (r : Regex α) : ℕ → List α → Bool
  | i, [] => !(r.ends i []).isEmpty
  | i, c :: cs => !(r.ends i (c :: cs)).isEmpty || testFrom r (i + 1) cs

/-- `pattern.test(text)`. -/
def test (r : Regex α) (text : List α) : Bool := testFrom r 0 text

/-- The replacement from position `i` on, of which the next `skip` characters belong to a match. -/
def removeFrom (r : Regex α) : ℕ → ℕ → List α → List α
  | _, _, [] => []
  | i, skip + 1, _ :: cs => removeFrom r (i + 1) skip cs
  | i, 0, c :: cs =>
    match (r.ends i (c :: cs)).head? with
    | some (j, _) =>
      if i < j then removeFrom r (i + 1) (j - i - 1) cs else c :: removeFrom r (i + 1) 0 cs
    | none => c :: removeFrom r (i + 1) 0 cs

/-- `text.replace(pattern, "")`, for a pattern with the flag `g`. -/
def removeAll (r : Regex α) (text : List α) : List α := removeFrom r 0 0 text

/-! ### What is matched -/

section

variable {r r' : Regex α} {p : α → Bool} {i : ℕ} {text : List α} {e : ℕ × List α}

/-- A run ends after any part of the class at its front. -/
theorem mem_runEnds :
    e ∈ runEnds p i text ↔ ∃ run, text = run ++ e.2 ∧ e.1 = i + run.length ∧ ∀ c ∈ run, p c := by
  induction text generalizing i with
  | nil =>
    rw [runEnds, List.mem_singleton]
    constructor
    · rintro rfl
      exact ⟨[], rfl, rfl, by simp⟩
    · rintro ⟨run, htext, hend, -⟩
      obtain ⟨rfl, hrest⟩ := List.append_eq_nil_iff.mp htext.symm
      exact Prod.ext hend hrest
  | cons c cs ih =>
    have hsplit : (∃ run, c :: cs = run ++ e.2 ∧ e.1 = i + run.length ∧ ∀ d ∈ run, p d) ↔
        e = (i, c :: cs) ∨ p c = true ∧
          ∃ run, cs = run ++ e.2 ∧ e.1 = i + 1 + run.length ∧ ∀ d ∈ run, p d := by
      constructor
      · rintro ⟨run, htext, hend, hclass⟩
        cases run with
        | nil => exact .inl (Prod.ext hend htext.symm)
        | cons d run =>
          rw [List.cons_append, List.cons.injEq] at htext
          obtain ⟨rfl, htext⟩ := htext
          refine .inr ⟨hclass c (by simp), run, htext, ?_, fun d hd => hclass d (by simp [hd])⟩
          rw [hend, List.length_cons]
          omega
      · rintro (rfl | ⟨hc, run, htext, hend, hclass⟩)
        · exact ⟨[], rfl, rfl, by simp⟩
        · refine ⟨c :: run, by rw [htext, List.cons_append], ?_, ?_⟩
          · rw [hend, List.length_cons]
            omega
          · exact List.forall_mem_cons.mpr ⟨hc, hclass⟩
    rw [hsplit, runEnds]
    by_cases hc : p c = true
    · rw [if_pos hc, List.mem_append, List.mem_singleton, ih]
      simp [hc, or_comm]
    · rw [if_neg hc, List.mem_singleton]
      simp [hc]

theorem mem_ends_one :
    e ∈ (one p).ends i text ↔ ∃ c, text = c :: e.2 ∧ e.1 = i + 1 ∧ p c = true := by
  cases text with
  | nil => simp [ends]
  | cons c cs =>
    rw [ends]
    by_cases hc : p c = true
    · rw [if_pos hc, List.mem_singleton, Prod.ext_iff]
      constructor
      · rintro ⟨hend, hrest⟩
        exact ⟨c, by rw [hrest], hend, hc⟩
      · rintro ⟨d, htext, hend, -⟩
        exact ⟨hend, (List.cons.inj htext).2.symm⟩
    · rw [if_neg hc]
      refine iff_of_false List.not_mem_nil ?_
      rintro ⟨d, htext, -, hd⟩
      exact hc ((List.cons.inj htext).1 ▸ hd)

theorem mem_ends_seq :
    e ∈ (seq r r').ends i text ↔ ∃ m ∈ r.ends i text, e ∈ r'.ends m.1 m.2 :=
  List.mem_flatMap

theorem mem_ends_alt : e ∈ (alt r r').ends i text ↔ e ∈ r.ends i text ∨ e ∈ r'.ends i text :=
  List.mem_append

theorem mem_ends_empty : e ∈ (empty : Regex α).ends i text ↔ e = (i, text) :=
  List.mem_singleton

theorem mem_ends_stop : e ∈ (stop : Regex α).ends i text ↔ e = (i, text) ∧ text = [] := by
  rw [ends]
  split
  · simp [*]
  · simp [*]

/-- A match of a class repeated `n` times consumes `n` characters of it. -/
theorem mem_ends_times {n : ℕ} :
    e ∈ (times p n).ends i text ↔
      ∃ run, text = run ++ e.2 ∧ e.1 = i + run.length ∧ run.length = n ∧ ∀ c ∈ run, p c := by
  induction n generalizing i text with
  | zero =>
    rw [times, mem_ends_empty]
    constructor
    · rintro rfl
      exact ⟨[], rfl, rfl, rfl, by simp⟩
    · rintro ⟨run, htext, hend, hlen, -⟩
      obtain rfl := List.length_eq_zero_iff.mp hlen
      exact Prod.ext hend htext.symm
  | succ n ih =>
    rw [times, mem_ends_seq]
    constructor
    · rintro ⟨m, hm, he⟩
      obtain ⟨c, htext, hone, hc⟩ := mem_ends_one.mp hm
      obtain ⟨run, hrest, hend, hlen, hclass⟩ := ih.mp he
      refine ⟨c :: run, by rw [htext, hrest, List.cons_append], ?_, by simp [hlen], ?_⟩
      · rw [hend, hone, List.length_cons]
        omega
      · exact List.forall_mem_cons.mpr ⟨hc, hclass⟩
    · rintro ⟨run, htext, hend, hlen, hclass⟩
      cases run with
      | nil => cases hlen
      | cons c run =>
        obtain ⟨hc, hclass⟩ := List.forall_mem_cons.mp hclass
        refine ⟨(i + 1, run ++ e.2), mem_ends_one.mpr ⟨c, htext, rfl, hc⟩, ih.mpr ?_⟩
        refine ⟨run, rfl, ?_, by simpa using hlen, hclass⟩
        rw [hend, List.length_cons]
        omega

/-- An anchored pattern is only tried at the start. -/
theorem test_start_seq : (seq start r).test text = !(r.ends 0 text).isEmpty := by
  have hlater : ∀ (text : List α) (i : ℕ), 0 < i → (seq start r).testFrom i text = false := by
    intro text
    induction text with
    | nil =>
      intro i hi
      simp [testFrom, ends, hi.ne']
    | cons c cs ih =>
      intro i hi
      simp [testFrom, ends, hi.ne', ih (i + 1) (by omega)]
  cases text with
  | nil => simp [test, testFrom, ends]
  | cons c cs => simp [test, testFrom, ends, hlater cs 1 (by omega)]

/-- A pattern for the whole text has a match if it can end where the text does. -/
theorem test_whole : (whole r).test text = true ↔ ∃ i, (i, []) ∈ r.ends 0 text := by
  rw [whole, test_start_seq, Bool.not_eq_true', List.isEmpty_eq_false_iff_exists_mem]
  constructor
  · rintro ⟨e, he⟩
    obtain ⟨m, hm, hstop⟩ := mem_ends_seq.mp he
    obtain ⟨-, hrest⟩ := mem_ends_stop.mp hstop
    exact ⟨m.1, by rwa [← hrest]⟩
  · rintro ⟨i, hi⟩
    exact ⟨(i, []), mem_ends_seq.mpr ⟨(i, []), hi, mem_ends_stop.mpr ⟨rfl, rfl⟩⟩⟩

/-- `/^[p]+$/` accepts the non-empty texts of the class. -/
theorem test_whole_plus :
    (whole (plus p)).test text = true ↔ text ≠ [] ∧ ∀ c ∈ text, p c = true := by
  rw [test_whole]
  constructor
  · rintro ⟨i, hi⟩
    obtain ⟨m, hm, hmany⟩ := mem_ends_seq.mp hi
    obtain ⟨c, htext, -, hc⟩ := mem_ends_one.mp hm
    obtain ⟨run, hrun, -, hclass⟩ := mem_runEnds.mp hmany
    rw [htext, hrun, List.append_nil]
    exact ⟨List.cons_ne_nil _ _, List.forall_mem_cons.mpr ⟨hc, hclass⟩⟩
  · rintro ⟨hne, hclass⟩
    cases text with
    | nil => exact absurd rfl hne
    | cons c cs =>
      obtain ⟨hc, hclass⟩ := List.forall_mem_cons.mp hclass
      refine ⟨1 + cs.length, mem_ends_seq.mpr ⟨(1, cs), ?_, ?_⟩⟩
      · exact mem_ends_one.mpr ⟨c, rfl, rfl, hc⟩
      · exact mem_runEnds.mpr ⟨cs, by simp, rfl, hclass⟩

/-- `/^[p]{n}$/` accepts the texts of the class of that length. -/
theorem test_whole_times {n : ℕ} :
    (whole (times p n)).test text = true ↔ text.length = n ∧ ∀ c ∈ text, p c = true := by
  rw [test_whole]
  constructor
  · rintro ⟨i, hi⟩
    obtain ⟨run, hrun, -, hlen, hclass⟩ := mem_ends_times.mp hi
    rw [hrun, List.append_nil]
    exact ⟨hlen, hclass⟩
  · rintro ⟨hlen, hclass⟩
    exact ⟨0 + text.length, mem_ends_times.mpr ⟨text, by simp, rfl, hlen, hclass⟩⟩

end

/-! ### Trimming a class -/

/-- `/^[p]+|[p]+$/`. -/
def trimEnds (p : α → Bool) : Regex α := alt (seq start (plus p)) (seq (plus p) stop)

section

variable {p : α → Bool}

/-- The longest run comes first. -/
private theorem head?_runEnds (i : ℕ) (text : List α) :
    (runEnds p i text).head? =
      some (i + (text.takeWhile p).length, text.dropWhile p) := by
  induction text generalizing i with
  | nil => rfl
  | cons c cs ih =>
    rw [runEnds]
    by_cases hc : p c = true
    · rw [if_pos hc, List.head?_append, ih, List.takeWhile_cons_of_pos hc,
        List.dropWhile_cons_of_pos hc, List.length_cons, Option.some_or]
      congr 2
      omega
    · rw [if_neg hc, List.takeWhile_cons_of_neg hc, List.dropWhile_cons_of_neg hc]
      rfl

/-- Of the runs at the front of a text, only the whole text is followed by its end. -/
private theorem flatMap_stop_runEnds (i : ℕ) (text : List α) :
    ((runEnds p i text).flatMap fun e => (stop : Regex α).ends e.1 e.2) =
      if text.all p then [(i + text.length, [])] else [] := by
  induction text generalizing i with
  | nil => rfl
  | cons c cs ih =>
    rw [runEnds]
    by_cases hc : p c = true
    · rw [if_pos hc, List.flatMap_append, ih, List.all_cons, hc, Bool.true_and]
      split
      · simp [ends]
        omega
      · simp [ends]
    · simp [hc, ends]

private theorem ends_plus_stop (i : ℕ) (c : α) (cs : List α) :
    (seq (plus p) stop).ends i (c :: cs) =
      if (c :: cs).all p then [(i + (c :: cs).length, [])] else [] := by
  have hplus : (plus p).ends i (c :: cs) = if p c then runEnds p (i + 1) cs else [] := by
    by_cases hc : p c = true
    · simp [plus, ends, hc]
    · simp [plus, ends, hc]
  rw [ends, hplus]
  by_cases hc : p c = true
  · rw [if_pos hc, flatMap_stop_runEnds, List.all_cons, hc, Bool.true_and, List.length_cons]
    split
    · congr 2
      omega
    · rfl
  · rw [if_neg hc, List.all_cons, Bool.eq_false_iff.mpr hc, Bool.false_and,
      if_neg Bool.false_ne_true]
    rfl

/-- Inside a match, its characters are dropped. -/
private theorem removeFrom_skip (r : Regex α) (i skip : ℕ) (text : List α) :
    removeFrom r i skip text = removeFrom r (i + skip) 0 (text.drop skip) := by
  induction text generalizing i skip with
  | nil =>
    rw [List.drop_nil]
    cases skip <;> rfl
  | cons c cs ih =>
    cases skip with
    | zero => rfl
    | succ skip =>
      rw [removeFrom, ih, List.drop_succ_cons]
      congr 1
      omega

/-- Behind the start, only a run that reaches the end is removed. -/
private theorem removeFrom_trimEnds {i : ℕ} (hi : 0 < i) (text : List α) :
    removeFrom (trimEnds p) i 0 text = text.rdropWhile p := by
  induction text generalizing i with
  | nil => rfl
  | cons c cs ih =>
    have hends : (trimEnds p).ends i (c :: cs) =
        if (c :: cs).all p then [(i + (c :: cs).length, [])] else [] := by
      rw [trimEnds, ends, ends_plus_stop]
      simp [ends, hi.ne']
    rw [removeFrom, hends]
    by_cases hall : (c :: cs).all p = true
    · rw [if_pos hall, List.rdropWhile_eq_nil_iff.mpr (by simpa using hall)]
      simp only [List.head?_cons, List.length_cons]
      rw [if_pos (by omega), removeFrom_skip, List.drop_eq_nil_of_le (by omega)]
      rfl
    · rw [if_neg hall, List.head?_nil]
      simp only
      rw [ih (by omega)]
      -- some character behind or at `c` is kept, so `c` is
      by_cases hcs : cs.all p = true
      · have hc : ¬ p c = true := fun hc => hall (by simp [hc, hcs])
        have hnil : cs.rdropWhile p = [] := List.rdropWhile_eq_nil_iff.mpr (by simpa using hcs)
        have hdrop : cs.reverse.dropWhile p = [] := by
          simpa [List.rdropWhile] using hnil
        rw [hnil, List.rdropWhile, List.reverse_cons, List.dropWhile_append, hdrop]
        simp [hc]
      · have hne : (cs.reverse.dropWhile p) ≠ [] := by
          intro h
          have hnil : cs.rdropWhile p = [] := by simp [List.rdropWhile, h]
          exact hcs (by simpa using List.rdropWhile_eq_nil_iff.mp hnil)
        rw [List.rdropWhile, List.rdropWhile, List.reverse_cons, List.dropWhile_append,
          if_neg (by simpa using hne)]
        simp

/-- **Trimming.** Replacing the pattern by nothing removes the runs of the class at both ends, and
nothing else. -/
theorem removeAll_trimEnds (text : List α) :
    (trimEnds p).removeAll text = (text.dropWhile p).rdropWhile p := by
  cases text with
  | nil => rfl
  | cons c cs =>
    rw [removeAll, removeFrom]
    by_cases hc : p c = true
    · have hhead : ((trimEnds p).ends 0 (c :: cs)).head? =
          some (1 + (cs.takeWhile p).length, cs.dropWhile p) := by
        have hplus : (seq start (plus p)).ends 0 (c :: cs) = runEnds p 1 cs := by
          simp [plus, ends, hc]
        rw [trimEnds, ends, hplus, List.head?_append, head?_runEnds, Option.some_or]
      rw [hhead]
      simp only
      have hdrop : cs.drop (cs.takeWhile p).length = cs.dropWhile p := by
        have hsplit : (cs.takeWhile p ++ cs.dropWhile p).drop (cs.takeWhile p).length =
            cs.dropWhile p := List.drop_left
        rwa [List.takeWhile_append_dropWhile] at hsplit
      rw [if_pos (by omega), removeFrom_skip, removeFrom_trimEnds (by omega),
        List.dropWhile_cons_of_pos hc]
      congr 1
      rw [← hdrop]
      congr 1
      omega
    · have hends : (trimEnds p).ends 0 (c :: cs) = [] := by
        rw [trimEnds, ends, ends_plus_stop]
        simp [plus, ends, hc]
      have hkeep : (c :: cs).rdropWhile p = c :: cs.rdropWhile p := by
        have hbehind := removeFrom_trimEnds (p := p) (i := 1) (by omega) (c :: cs)
        have hnone : ((trimEnds p).ends 1 (c :: cs)).head? = none := by
          rw [trimEnds, ends, ends_plus_stop]
          simp [ends, hc]
        rw [removeFrom, hnone] at hbehind
        simp only at hbehind
        rw [← hbehind, removeFrom_trimEnds (by omega)]
      rw [hends, List.head?_nil, List.dropWhile_cons_of_neg hc, hkeep]
      simp only
      rw [removeFrom_trimEnds (by omega)]

end

end Regex

end Js
