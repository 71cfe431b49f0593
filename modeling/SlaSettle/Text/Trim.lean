import Mathlib.Data.List.DropRight

/-!
# Trimming

`trim p` removes the members of a class from both ends of a list. `trim_trim` says that it does so
once and for all, and `exists_append_trim` that it removes nothing else.

An encoding that writes members of the class with units of one class, and all others with other
units (`KeepsApart`), carries trimming over: `KeepsApart.trim_flatMap`.
-/

namespace Text

variable {α β : Type}

/-- Remove the members of a class from both ends. -/
def trim (p : α → Bool) (l : List α) : List α := (l.dropWhile p).rdropWhile p

section

variable {p : α → Bool} {l : List α}

/-- What is left is a part, and what is removed is of the class. -/
theorem exists_append_trim (p : α → Bool) (l : List α) :
    ∃ front back, l = front ++ trim p l ++ back ∧ ∀ a ∈ front ++ back, p a = true := by
  refine ⟨l.takeWhile p, (l.dropWhile p).rtakeWhile p, ?_, fun a ha => ?_⟩
  · rw [trim, List.append_assoc, List.rdropWhile_append_rtakeWhile, List.takeWhile_append_dropWhile]
  · rcases List.mem_append.mp ha with hfront | hback
    · exact List.mem_takeWhile_imp hfront
    · exact List.mem_rtakeWhile_imp hback

/-- What is left does not begin with a member of the class. -/
theorem head?_trim {a : α} (h : (trim p l).head? = some a) : p a = false := by
  obtain ⟨back, hback⟩ : trim p l <+: l.dropWhile p := List.rdropWhile_prefix p _
  have hhead : (l.dropWhile p).head? = some a := by
    rw [← hback, List.head?_append, h, Option.some_or]
  have hnot := List.head?_dropWhile_not p l
  rw [hhead] at hnot
  simpa using hnot

/-- What is left does not end with a member of the class. -/
theorem getLast?_trim {a : α} (h : (trim p l).getLast? = some a) : p a = false := by
  have hne : trim p l ≠ [] := by
    intro hnil
    rw [hnil] at h
    cases h
  have hlast : (trim p l).getLast hne = a := by
    rw [List.getLast?_eq_some_getLast hne] at h
    exact Option.some.inj h
  have hnot := List.rdropWhile_last_not p (l.dropWhile p) hne
  rw [← hlast]
  exact eq_false_of_ne_true hnot

/-- Trimming is idempotent. -/
theorem trim_trim (p : α → Bool) (l : List α) : trim p (trim p l) = trim p l := by
  have hfront : (trim p l).dropWhile p = trim p l := by
    cases hl : trim p l with
    | nil => rfl
    | cons a as =>
      have hhead : p a = false := head?_trim (congrArg List.head? hl)
      exact List.dropWhile_cons_of_neg (by simp [hhead])
  calc trim p (trim p l) = (trim p l).rdropWhile p := by rw [trim, hfront]
    _ = trim p l := List.rdropWhile_idempotent p (l.dropWhile p)

end

/-! ### Encodings -/

/-- An encoding that writes a class with units of a class of units, and all else with others. -/
structure KeepsApart (p : α → Bool) (q : β → Bool) (encode : α → List β) : Prop where
  inside : ∀ a, p a = true → ∀ b ∈ encode a, q b = true
  outside : ∀ a, p a = false → encode a ≠ [] ∧ ∀ b ∈ encode a, q b = false

namespace KeepsApart

variable {p : α → Bool} {q : β → Bool} {encode : α → List β}

theorem dropWhile_flatMap (h : KeepsApart p q encode) (l : List α) :
    (l.flatMap encode).dropWhile q = (l.dropWhile p).flatMap encode := by
  induction l with
  | nil => rfl
  | cons a as ih =>
    rw [List.flatMap_cons]
    by_cases ha : p a = true
    · rw [List.dropWhile_append_of_pos (h.inside a ha), ih, List.dropWhile_cons_of_pos ha]
    · obtain ⟨hne, hout⟩ := h.outside a (eq_false_of_ne_true ha)
      rw [List.dropWhile_cons_of_neg ha, List.flatMap_cons]
      -- the first unit stops it
      cases hunits : encode a with
      | nil => exact absurd hunits hne
      | cons b bs =>
        have hb : q b = false := hout b (hunits ▸ List.mem_cons_self)
        exact List.dropWhile_cons_of_neg (by simp [hb])

theorem takeWhile_flatMap (h : KeepsApart p q encode) (l : List α) :
    (l.flatMap encode).takeWhile q = (l.takeWhile p).flatMap encode := by
  induction l with
  | nil => rfl
  | cons a as ih =>
    rw [List.flatMap_cons]
    by_cases ha : p a = true
    · rw [List.takeWhile_append_of_pos (h.inside a ha), ih, List.takeWhile_cons_of_pos ha,
        List.flatMap_cons]
    · obtain ⟨hne, hout⟩ := h.outside a (eq_false_of_ne_true ha)
      obtain ⟨b, bs, hunits⟩ := List.exists_cons_of_ne_nil hne
      have hb : q b = false := hout b (hunits ▸ List.mem_cons_self)
      rw [List.takeWhile_cons_of_neg ha, hunits, List.cons_append,
        List.takeWhile_cons_of_neg (by simp [hb]), List.flatMap_nil]

/-- The complement of a class is kept apart as well, if everything is written with some unit. -/
theorem not (h : KeepsApart p q encode) (hne : ∀ a, encode a ≠ []) :
    KeepsApart (fun a => !p a) (fun b => !q b) encode where
  inside a ha b hb := by
    rw [Bool.not_eq_true'] at ha ⊢
    exact (h.outside a ha).2 b hb
  outside a ha := by
    rw [Bool.not_eq_false'] at ha
    exact ⟨hne a, fun b hb => by rw [h.inside a ha b hb, Bool.not_true]⟩

theorem reverse (h : KeepsApart p q encode) : KeepsApart p q fun a => (encode a).reverse where
  inside a ha b hb := h.inside a ha b (List.mem_reverse.mp hb)
  outside a ha :=
    ⟨mt List.reverse_eq_nil_iff.mp (h.outside a ha).1,
      fun b hb => (h.outside a ha).2 b (List.mem_reverse.mp hb)⟩

theorem rdropWhile_flatMap (h : KeepsApart p q encode) (l : List α) :
    (l.flatMap encode).rdropWhile q = (l.rdropWhile p).flatMap encode := by
  have hreverse := h.reverse.dropWhile_flatMap l.reverse
  rw [List.rdropWhile, List.rdropWhile, List.reverse_flatMap, Function.comp_def, hreverse,
    List.reverse_flatMap]
  simp only [Function.comp_def, List.reverse_reverse]

/-- Trimming the units is trimming what they write. -/
theorem trim_flatMap (h : KeepsApart p q encode) (l : List α) :
    trim q (l.flatMap encode) = (trim p l).flatMap encode := by
  rw [trim, trim, h.dropWhile_flatMap, h.rdropWhile_flatMap]

end KeepsApart

end Text
