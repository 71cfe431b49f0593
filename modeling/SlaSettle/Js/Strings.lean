import SlaSettle.Js.Decimal
import SlaSettle.Js.Utf16

/-!
# Methods of strings

`trim`, `padStart` and `padEnd` of a string of code units, and what `Number(…)` and `BigInt(…)` make
of one. For strings of digits, `digits` is the number that is written: it is that of the parts put
together (`digits_append`), and `Number(…)` is the double nearest to it (`number_eq_toDouble`).
-/

namespace Js

/-- White space and line terminators. -/
def isSpaceUnit (u : UInt16) : Bool := JsNumber.isSpace (unitChar u)

/-- `\d` -/
def isDigitUnit (u : UInt16) : Bool := 0x30 ≤ u.toNat && u.toNat ≤ 0x39

namespace JsString

/-- `s.trim()` -/
def trim (s : JsString) : JsString := Text.trim isSpaceUnit s

/-- `s.padStart(length, fill)`, for one unit of filling. -/
def padStart (s : JsString) (length : ℕ) (fill : UInt16) : JsString :=
  List.replicate (length - s.length) fill ++ s

/-- `s.padEnd(length, fill)`, for one unit of filling. -/
def padEnd (s : JsString) (length : ℕ) (fill : UInt16) : JsString :=
  s ++ List.replicate (length - s.length) fill

/-- `s || t` -/
def orElse (s t : JsString) : JsString := if s = [] then t else s

/-- `Number(s)` -/
def number (s : JsString) : JsNumber := JsNumber.ofText (.ofList (scalars s))

/-- The number that digits write. -/
def digits (s : JsString) : ℕ := JsNumber.digitsValue 10 (scalars s)

/-- `BigInt(s)`, for digits. -/
def bigInt (s : JsString) : ℤ := s.digits

/-- The integer of digits in a base. -/
def integerLiteral (base : ℕ) (isDigit : Char → Bool) (cs : List Char) : Option ℤ :=
  if cs ≠ [] ∧ cs.all isDigit then some (JsNumber.digitsValue base cs : ℕ) else none

/-- `BigInt(s)` of any text; `none` is a `SyntaxError`. -/
def bigInt? (s : JsString) : Option ℤ :=
  match scalars s.trim with
  | [] => some 0
  | '0' :: 'x' :: cs | '0' :: 'X' :: cs =>
    integerLiteral 16 (fun c => c.isDigit || ('a' ≤ c.toLower && c.toLower ≤ 'f')) cs
  | '0' :: 'o' :: cs | '0' :: 'O' :: cs => integerLiteral 8 (fun c => '0' ≤ c && c ≤ '7') cs
  | '0' :: 'b' :: cs | '0' :: 'B' :: cs => integerLiteral 2 (fun c => c = '0' || c = '1') cs
  | '+' :: cs => integerLiteral 10 Char.isDigit cs
  | '-' :: cs => (integerLiteral 10 Char.isDigit cs).map (- ·)
  | cs => integerLiteral 10 Char.isDigit cs

theorem trim_trim (s : JsString) : s.trim.trim = s.trim := Text.trim_trim isSpaceUnit s

end JsString

/-! ### Digits -/

section

variable {s t : JsString}

theorem unitChar_of_isDigitUnit {u : UInt16} (h : isDigitUnit u = true) :
    isHighSurrogate u = false ∧ (unitChar u).isDigit = true := by
  simp only [isDigitUnit, Bool.and_eq_true, decide_eq_true_eq] at h
  have hhigh : isHighSurrogate u = false := by
    simp [isHighSurrogate]
    omega
  have hlow : isLowSurrogate u = false := by
    simp [isLowSurrogate]
    omega
  have hvalid : u.toNat.isValidChar := by
    rw [Nat.isValidChar]
    omega
  have hcode : (unitChar u).toNat = u.toNat := by
    rw [unitChar, hhigh, hlow, Bool.or_false, if_neg Bool.false_ne_true, toNat_charOfNat hvalid]
  refine ⟨hhigh, ?_⟩
  simp only [Char.isDigit, Bool.and_eq_true, decide_eq_true_eq, UInt32.le_iff_toNat_le]
  change 48 ≤ (unitChar u).toNat ∧ (unitChar u).toNat ≤ 57
  omega

/-- Digits are read one by one. -/
theorem scalars_digits (h : ∀ u ∈ s, isDigitUnit u = true) : scalars s = s.map unitChar := by
  induction s with
  | nil => rfl
  | cons u s ih =>
    obtain ⟨hu, hs⟩ := List.forall_mem_cons.mp h
    rw [scalars_cons (unitChar_of_isDigitUnit hu).1, ih hs, List.map_cons]

theorem isDigit_of_mem_scalars (h : ∀ u ∈ s, isDigitUnit u = true) :
    ∀ c ∈ scalars s, c.isDigit = true := by
  intro c hc
  rw [scalars_digits h, List.mem_map] at hc
  obtain ⟨u, hu, rfl⟩ := hc
  exact (unitChar_of_isDigitUnit (h u hu)).2

namespace JsString

theorem digits_eq (h : ∀ u ∈ s, isDigitUnit u = true) :
    s.digits = Nat.ofDigitChars 10 (s.map unitChar) 0 := by
  rw [digits, JsNumber.digitsValue_eq (isDigit_of_mem_scalars h), scalars_digits h]

/-- The digits behind count units, those in front a power of ten. -/
theorem digits_append (hs : ∀ u ∈ s, isDigitUnit u = true) (ht : ∀ u ∈ t, isDigitUnit u = true) :
    digits (s ++ t) = s.digits * 10 ^ t.length + t.digits := by
  have hst : ∀ u ∈ s ++ t, isDigitUnit u = true := by
    intro u hu
    exact (List.mem_append.mp hu).elim (hs u) (ht u)
  rw [digits_eq hst, digits_eq hs, digits_eq ht, List.map_append, Nat.ofDigitChars_append,
    Nat.ofDigitChars_eq_ofDigitChars_zero, List.length_map, mul_comm]

theorem isDigitUnit_replicate_zero (n : ℕ) :
    ∀ u ∈ List.replicate n (0x30 : UInt16), isDigitUnit u = true := by
  intro u hu
  rw [List.eq_of_mem_replicate hu]
  rfl

theorem digits_replicate_zero (n : ℕ) : digits (List.replicate n 0x30) = 0 := by
  have hzero : unitChar 0x30 = '0' := by decide
  rw [digits_eq (isDigitUnit_replicate_zero n), List.map_replicate, hzero,
    Nat.ofDigitChars_replicate_zero, mul_zero]

/-- Zeros behind multiply. -/
theorem digits_padEnd (hs : ∀ u ∈ s, isDigitUnit u = true) (length : ℕ) :
    digits (s.padEnd length 0x30) = s.digits * 10 ^ (length - s.length) := by
  rw [padEnd, digits_append hs (isDigitUnit_replicate_zero _), digits_replicate_zero,
    List.length_replicate, add_zero]

/-- Zeros in front do not count. -/
theorem digits_padStart (hs : ∀ u ∈ s, isDigitUnit u = true) (length : ℕ) :
    digits (s.padStart length 0x30) = s.digits := by
  rw [padStart, digits_append (isDigitUnit_replicate_zero _) hs, digits_replicate_zero, zero_mul,
    zero_add]

theorem isDigitUnit_padStart (hs : ∀ u ∈ s, isDigitUnit u = true) (length : ℕ) :
    ∀ u ∈ s.padStart length 0x30, isDigitUnit u = true := fun u hu =>
  (List.mem_append.mp hu).elim (isDigitUnit_replicate_zero _ u) (hs u)

/-- Units of filling that are dropped at the end are put back. -/
theorem padEnd_rdropWhile (s : JsString) (fill : UInt16) :
    padEnd (s.rdropWhile (· = fill)) s.length fill = s := by
  have hsplit : s.rdropWhile (· = fill) ++ s.rtakeWhile (· = fill) = s :=
    List.rdropWhile_append_rtakeWhile
  have hrun : s.rtakeWhile (· = fill) = List.replicate (s.rtakeWhile (· = fill)).length fill := by
    refine List.eq_replicate_iff.mpr ⟨rfl, fun u hu => ?_⟩
    have hfill := List.mem_rtakeWhile_imp hu
    exact of_decide_eq_true hfill
  have hlength := congrArg List.length hsplit
  rw [List.length_append] at hlength
  rw [padEnd, ← hlength, Nat.add_sub_cancel_left, ← hrun, hsplit]

/-- Text without white space is not trimmed. -/
theorem trim_eq_self (hs : ∀ u ∈ s, isSpaceUnit u = false) : s.trim = s := by
  have hfront : s.dropWhile isSpaceUnit = s := by
    cases s with
    | nil => rfl
    | cons u s => exact List.dropWhile_cons_of_neg (by simp [hs u])
  rw [trim, Text.trim, hfront, List.rdropWhile_eq_self_iff]
  intro hne
  rw [hs _ (List.getLast_mem hne)]
  exact Bool.false_ne_true

theorem isSpaceUnit_of_isDigitUnit {u : UInt16} (h : isDigitUnit u = true) :
    isSpaceUnit u = false :=
  JsNumber.isSpace_of_isDigit (unitChar_of_isDigitUnit h).2

/-- **Digits are an integer literal,** and the integer is the one they write. -/
theorem bigInt?_digits (hne : s ≠ []) (hs : ∀ u ∈ s, isDigitUnit u = true) :
    s.bigInt? = some s.bigInt := by
  have hread : ∀ cs : List Char, cs ≠ [] → (∀ c ∈ cs, c.isDigit = true) →
      integerLiteral 10 Char.isDigit cs = some (JsNumber.digitsValue 10 cs : ℕ) :=
    fun cs hne hcs => if_pos ⟨hne, List.all_eq_true.mpr hcs⟩
  have hscalars : scalars s ≠ [] := by
    rw [scalars_digits hs]
    exact mt List.map_eq_nil_iff.mp hne
  have hdigits := isDigit_of_mem_scalars hs
  rw [bigInt?, trim_eq_self fun u hu => isSpaceUnit_of_isDigitUnit (hs u hu), bigInt, digits]
  generalize scalars s = cs at hscalars hdigits ⊢
  -- a sign or a base prefix is not of digits
  split
  case h_1 => exact absurd rfl hscalars
  case h_2 | h_3 | h_4 | h_5 | h_6 | h_7 =>
    exact absurd (hdigits _ (List.mem_cons_of_mem _ List.mem_cons_self)) (by decide)
  case h_8 | h_9 => exact absurd (hdigits _ List.mem_cons_self) (by decide)
  case h_10 => exact hread cs hscalars hdigits

theorem number_eq_toDouble (hne : s ≠ []) (hs : ∀ u ∈ s, isDigitUnit u = true) :
    s.number = JsNumber.toDouble s.digits := by
  have hdecimal : isDecimal (.ofList (scalars s)) = true := by
    refine isDecimal_iff.mpr ?_
    rw [String.toList_ofList]
    refine ⟨?_, isDigit_of_mem_scalars hs⟩
    rw [scalars_digits hs]
    exact mt List.map_eq_nil_iff.mp hne
  rw [number, JsNumber.ofText_digits hdecimal, String.toList_ofList, digits]

end JsString

end

/-! ### The digits of a natural number -/

section

variable (n : ℕ)

private theorem units_toString :
    units (toString n) = (Nat.toDigits 10 n).map fun c => .ofNat c.toNat := by
  have hdigit : ∀ cs : List Char, (∀ c ∈ cs, c.isDigit = true) →
      utf16 cs = cs.map fun c => .ofNat c.toNat := by
    intro cs hcs
    induction cs with
    | nil => rfl
    | cons c cs ih =>
      obtain ⟨hc, hcs⟩ := List.forall_mem_cons.mp hcs
      have hcode : c.toNat ≤ 0x39 := (Char.isDigit_iff_toNat.mp hc).2
      rw [utf16, List.flatMap_cons, ← utf16, ih hcs, utf16Char, if_pos (by omega), List.map_cons,
        List.singleton_append]
  rw [units, hdigit _ fun c hc => isDigit_of_mem_toString hc, toList_toString_nat]

theorem isDigitUnit_of_mem_toString : ∀ u ∈ units (toString n), isDigitUnit u = true := by
  intro u hu
  rw [units_toString, List.mem_map] at hu
  obtain ⟨c, hc, rfl⟩ := hu
  obtain ⟨hlow, hhigh⟩ : 0x30 ≤ c.toNat ∧ c.toNat ≤ 0x39 :=
    Char.isDigit_iff_toNat.mp (Nat.isDigit_of_mem_toDigits (by omega) (by omega) hc)
  rw [isDigitUnit, UInt16.toNat_ofNat', Nat.mod_eq_of_lt (by omega), Bool.and_eq_true,
    decide_eq_true_eq, decide_eq_true_eq]
  exact ⟨hlow, hhigh⟩

theorem length_units_toString : (units (toString n)).length = (Nat.toDigits 10 n).length := by
  rw [units_toString, List.length_map]

theorem units_toString_ne_nil : units (toString n) ≠ [] := by
  rw [units_toString]
  exact mt List.map_eq_nil_iff.mp Nat.toDigits_ne_nil

theorem digits_units_toString : (units (toString n)).digits = n := by
  rw [JsString.digits, units, scalars_utf16, JsNumber.digitsValue_toString]

end

/-- An integer that is not above a small one, as a number, is not rounded. -/
theorem JsNumber.toDouble_of_not_lt {m n : ℕ} (hm : m < 2 ^ 53)
    (h : JsNumber.lt (m : JsNumber) (toDouble n) = false) :
    toDouble n = (n : JsNumber) ∧ n ≤ m := by
  by_cases hn : n < 2 ^ 53
  · have hvalue : toDouble n = (n : JsNumber) := toDouble_natCast hn
    refine ⟨hvalue, ?_⟩
    rw [hvalue] at h
    by_contra hlt
    rw [lt_natCast_iff.mpr (not_le.mp hlt)] at h
    exact Bool.false_ne_true h.symm
  · -- it is rounded to a number that is above all the small ones
    have hmq : (m : ℚ) < 2 ^ 53 := by exact_mod_cast hm
    exfalso
    rcases le_toDouble (not_lt.mp hn) with hinf | ⟨q, hfinite, hq⟩
    · rw [hinf] at h
      exact Bool.false_ne_true h.symm
    · rw [hfinite, natCast_eq, lt_finite, decide_eq_false_iff_not] at h
      exact h (lt_of_lt_of_le hmq hq)

end Js
