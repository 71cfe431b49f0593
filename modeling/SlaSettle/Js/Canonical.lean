import SlaSettle.Js.Decimal

/-!
# Canonical decimal text

The texts of the pattern `/^(0|[1-9]\d*)$/`: digits without a leading zero. They are the decimal
texts of the natural numbers (`isCanonical_iff`), so such a text and the number it writes say the
same.
-/

namespace Js

/-- `/^(0|[1-9]\d*)$/`, on characters. -/
def canonicalPattern : Regex Char :=
  .whole (.alt (.one (· = '0')) (.seq (.one fun c => c.isDigit && c ≠ '0') (.many Char.isDigit)))

/-- `/^(0|[1-9]\d*)$/.test(text)`. -/
def isCanonical (text : String) : Bool := canonicalPattern.test text.toList

/-- The characters of the pattern: a zero, or digits of which the first is none. -/
private theorem test_canonicalPattern {cs : List Char} :
    canonicalPattern.test cs = true ↔ cs = ['0'] ∨
      ∃ c ds, cs = c :: ds ∧ c.isDigit = true ∧ c ≠ '0' ∧ ∀ d ∈ ds, d.isDigit = true := by
  have hmany : ∀ (i : ℕ) (text : List Char) (e : ℕ × List Char),
      e ∈ (Regex.many Char.isDigit).ends i text ↔
        ∃ run, text = run ++ e.2 ∧ e.1 = i + run.length ∧ ∀ d ∈ run, d.isDigit = true :=
    fun _ _ _ => Regex.mem_runEnds
  rw [canonicalPattern, Regex.test_whole]
  simp only [Regex.mem_ends_alt, Regex.mem_ends_one, Regex.mem_ends_seq, hmany, decide_eq_true_eq,
    Bool.and_eq_true]
  constructor
  · rintro ⟨i, ⟨c, rfl, -, rfl⟩ | ⟨m, ⟨c, htext, -, hc, hne⟩, run, hrun, -, hclass⟩⟩
    · exact .inl rfl
    · refine .inr ⟨c, run, ?_, hc, hne, hclass⟩
      rw [htext, hrun, List.append_nil]
  · rintro (rfl | ⟨c, ds, rfl, hc, hne, hds⟩)
    · exact ⟨1, .inl ⟨'0', rfl, rfl, rfl⟩⟩
    · exact ⟨1 + ds.length, .inr ⟨(1, ds), ⟨c, rfl, rfl, hc, hne⟩, ds, by simp, rfl, hds⟩⟩

/-- A digit is that of a number below ten. -/
private theorem exists_digitChar {c : Char} (hc : c.isDigit = true) :
    ∃ n < 10, c = n.digitChar := by
  obtain ⟨hlow, hhigh⟩ : 48 ≤ c.toNat ∧ c.toNat ≤ 57 := Char.isDigit_iff_toNat.mp hc
  refine ⟨c.toNat - 48, by omega, Char.toNat_inj.mp ?_⟩
  rw [Nat.toNat_digitChar_of_lt_ten (by omega)]
  omega

/-- Digits without a leading zero are those of the number they write. -/
private theorem toDigits_ofDigitChars {c : Char} {cs : List Char} (hc : c.isDigit = true)
    (hne : c ≠ '0') (hcs : ∀ d ∈ cs, d.isDigit = true) :
    0 < Nat.ofDigitChars 10 (c :: cs) 0 ∧
      Nat.toDigits 10 (Nat.ofDigitChars 10 (c :: cs) 0) = c :: cs := by
  -- by induction from the end, since the last digit is a remainder
  induction cs using List.reverseRecOn with
  | nil =>
    obtain ⟨n, hn, rfl⟩ := exists_digitChar hc
    have hpos : 0 < n := Nat.pos_of_ne_zero fun h => hne (Nat.digitChar_eq_zero.mpr h)
    rw [Nat.ofDigitChars_cons_digitChar_of_lt_ten hn, Nat.ofDigitChars_nil, Nat.mul_zero,
      Nat.zero_add]
    exact ⟨hpos, Nat.toDigits_of_lt_base hn⟩
  | append_singleton cs d ih =>
    obtain ⟨hcs, hd⟩ := List.forall_mem_append.mp hcs
    obtain ⟨hpos, hdigits⟩ := ih hcs
    obtain ⟨n, hn, rfl⟩ := exists_digitChar (hd d List.mem_cons_self)
    have hvalue : Nat.ofDigitChars 10 (c :: (cs ++ [n.digitChar])) 0 =
        10 * Nat.ofDigitChars 10 (c :: cs) 0 + n := by
      rw [← List.cons_append, Nat.ofDigitChars_append,
        Nat.ofDigitChars_cons_digitChar_of_lt_ten hn, Nat.ofDigitChars_nil]
    rw [hvalue, ← Nat.toDigits_append_toDigits (by omega) hpos hn, hdigits,
      Nat.toDigits_of_lt_base hn]
    exact ⟨by omega, rfl⟩

/-- The digits of a positive number do not begin with a zero. -/
private theorem exists_toDigits {n : ℕ} (hn : 0 < n) :
    ∃ c ds, Nat.toDigits 10 n = c :: ds ∧ c ≠ '0' := by
  induction n using Nat.strongRecOn with
  | ind n ih =>
    by_cases hlast : n < 10
    · exact ⟨n.digitChar, [], Nat.toDigits_of_lt_base hlast,
        fun h => hn.ne' (Nat.digitChar_eq_zero.mp h)⟩
    · obtain ⟨c, ds, hdigits, hc⟩ := ih (n / 10) (by omega) (by omega)
      refine ⟨c, ds ++ [(n % 10).digitChar], ?_, hc⟩
      rw [Nat.toDigits_of_base_le (by omega) (by omega), hdigits, List.cons_append]

/-- **Canonical texts are the decimal texts of the natural numbers.** -/
theorem isCanonical_iff {text : String} : isCanonical text = true ↔ ∃ n : ℕ, text = toString n := by
  rw [isCanonical, test_canonicalPattern]
  constructor
  · rintro (hzero | ⟨c, ds, htext, hc, hne, hds⟩)
    · exact ⟨0, String.toList_inj.mp hzero⟩
    · refine ⟨Nat.ofDigitChars 10 (c :: ds) 0, String.toList_inj.mp ?_⟩
      rw [toList_toString_nat, (toDigits_ofDigitChars hc hne hds).2, htext]
  · rintro ⟨n, rfl⟩
    have hdigits : ∀ d ∈ (toString n).toList, d.isDigit = true := fun d hd =>
      isDigit_of_mem_toString hd
    rcases Nat.eq_zero_or_pos n with rfl | hpos
    · exact .inl rfl
    · obtain ⟨c, ds, htext, hc⟩ := exists_toDigits hpos
      rw [toList_toString_nat, htext] at hdigits ⊢
      obtain ⟨hdigit, hds⟩ := List.forall_mem_cons.mp hdigits
      exact .inr ⟨c, ds, rfl, hdigit, hc, hds⟩

end Js
