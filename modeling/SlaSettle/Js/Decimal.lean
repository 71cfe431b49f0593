import SlaSettle.Js.Regex
import SlaSettle.Js.Value

/-!
# Decimal text

The texts of the pattern `/^\d+$/`, what `Number(text)` and `BigInt(text)` make of them, and
`Number.isSafeInteger`. An integer's own decimal text reads back as the double nearest to it
(`ofText_toString`), and above `2^53` no rounding leads back below (`le_toDouble`); so the integers
that come out safe are those below `2^53`, unchanged (`safeInteger?_ofText_toString`).
-/

namespace Js

/-! ### Digits -/

/-- `/^\d+$/`, on characters. -/
def decimalPattern : Regex Char := .whole (.plus Char.isDigit)

/-- `/^\d+$/.test(text)`. -/
def isDecimal (text : String) : Bool := decimalPattern.test text.toList

/-- `BigInt(text)`, for decimal text. -/
def bigInt (text : String) : ℤ := JsNumber.digitsValue 10 text.toList

theorem isDecimal_iff {text : String} :
    isDecimal text = true ↔ text.toList ≠ [] ∧ ∀ c ∈ text.toList, c.isDigit = true :=
  Regex.test_whole_plus

theorem toList_toString_nat (n : ℕ) : (toString n).toList = Nat.toDigits 10 n :=
  Nat.toList_repr

theorem isDigit_of_mem_toString {n : ℕ} {c : Char} (h : c ∈ (toString n).toList) :
    c.isDigit = true := by
  rw [toList_toString_nat] at h
  exact Nat.isDigit_of_mem_toDigits (by omega) (by omega) h

theorem isDecimal_toString (n : ℕ) : isDecimal (toString n) = true := by
  refine isDecimal_iff.mpr ⟨?_, fun c hc => isDigit_of_mem_toString hc⟩
  rw [toList_toString_nat]
  exact Nat.toDigits_ne_nil

namespace JsNumber

/-- On digits, the value is the library's. -/
theorem digitsValue_eq {cs : List Char} (h : ∀ c ∈ cs, c.isDigit = true) :
    digitsValue 10 cs = Nat.ofDigitChars 10 cs 0 := by
  have hstep : ∀ (cs : List Char) (acc : ℕ), (∀ c ∈ cs, c.isDigit = true) →
      cs.foldl (fun acc c => acc * 10 + digitValue c) acc = Nat.ofDigitChars 10 cs acc := by
    intro cs
    induction cs with
    | nil =>
      intro acc _
      rw [List.foldl_nil, Nat.ofDigitChars_nil]
    | cons c cs ih =>
      intro acc h
      obtain ⟨hc, hcs⟩ := List.forall_mem_cons.mp h
      rw [List.foldl_cons, ih _ hcs, Nat.ofDigitChars_cons, digitValue, if_pos hc, mul_comm]
  exact hstep cs 0 h

theorem digitsValue_toString (n : ℕ) : digitsValue 10 (toString n).toList = n := by
  rw [digitsValue_eq fun c hc => isDigit_of_mem_toString hc, toList_toString_nat]
  exact Nat.ofDigitChars_ten_toDigits

end JsNumber

theorem bigInt_toString (n : ℕ) : bigInt (toString n) = n := by
  rw [bigInt, JsNumber.digitsValue_toString]

/-- The sign of a negative integer is not a digit. -/
theorem isDecimal_toString_int_iff (n : ℤ) : isDecimal (toString n) = true ↔ 0 ≤ n := by
  cases n with
  | ofNat n => exact iff_of_true (isDecimal_toString n) (Int.natCast_nonneg n)
  | negSucc n =>
    have htext : toString (Int.negSucc n) = "-" ++ toString (n + 1) := rfl
    refine iff_of_false (fun h => ?_) (by omega)
    have hsign : '-' ∈ (toString (Int.negSucc n)).toList := by
      rw [htext, String.toList_append]
      exact List.mem_append_left _ (by decide)
    exact absurd ((isDecimal_iff.mp h).2 '-' hsign) (by decide)

theorem bigInt_toString_int {n : ℤ} (h : 0 ≤ n) : bigInt (toString n) = n := by
  obtain ⟨m, rfl⟩ := Int.eq_ofNat_of_zero_le h
  exact bigInt_toString m

/-! ### `Number(text)` -/

namespace JsNumber

theorem isSpace_of_isDigit {c : Char} (h : c.isDigit = true) : isSpace c = false := by
  have hrange : 48 ≤ c.toNat ∧ c.toNat ≤ 57 := Char.isDigit_iff_toNat.mp h
  simp only [isSpace, Bool.or_eq_false_iff, decide_eq_false_iff_not, List.mem_cons,
    List.not_mem_nil, or_false, Bool.and_eq_false_iff]
  omega

/-- Digits have no white space around them. -/
private theorem trim_digits {cs : List Char} (h : ∀ c ∈ cs, c.isDigit = true) : trim cs = cs := by
  have hkeep : ∀ cs : List Char, (∀ c ∈ cs, c.isDigit = true) → cs.dropWhile isSpace = cs := by
    intro cs h
    cases cs with
    | nil => rfl
    | cons c cs =>
      rw [List.dropWhile_cons_of_neg]
      simp [isSpace_of_isDigit (h c (by simp))]
  rw [trim, hkeep cs h, hkeep cs.reverse fun c hc => h c (List.mem_reverse.mp hc),
    List.reverse_reverse]

/-- Digits have no base prefix and no sign. -/
private theorem literal_digits {cs : List Char} (h : ∀ c ∈ cs, c.isDigit = true) :
    literal cs = unsignedDecimal cs := by
  unfold literal
  split
  case h_1 | h_2 | h_3 | h_4 | h_5 | h_6 =>
    exact absurd (h _ (List.mem_cons_of_mem _ List.mem_cons_self)) (by decide)
  case h_7 | h_8 => exact absurd (h _ List.mem_cons_self) (by decide)
  case h_9 => rfl

private theorem span_digits {cs : List Char} (h : ∀ c ∈ cs, c.isDigit = true) :
    cs.span Char.isDigit = (cs, []) := by
  rw [List.span_eq_takeWhile_dropWhile, List.takeWhile_eq_self_iff.mpr h,
    List.dropWhile_eq_nil_iff.mpr h]

private theorem unsignedDecimal_digits {cs : List Char} (hne : cs ≠ [])
    (h : ∀ c ∈ cs, c.isDigit = true) :
    unsignedDecimal cs = some (toDouble (digitsValue 10 cs : ℕ)) := by
  have hinf : cs ≠ "Infinity".toList := by
    rintro rfl
    exact absurd (h 'I' (by decide)) (by decide)
  rw [unsignedDecimal, if_neg hinf, span_digits h]
  simp [hne, exponentPart]

/-- **Digits read as the nearest double.** -/
theorem ofText_digits {text : String} (h : isDecimal text = true) :
    ofText text = toDouble (digitsValue 10 text.toList : ℕ) := by
  obtain ⟨hne, hdigits⟩ := isDecimal_iff.mp h
  rw [ofText, trim_digits hdigits]
  generalize text.toList = cs at hne hdigits
  cases cs with
  | nil => exact absurd rfl hne
  | cons c cs =>
    simp only [literal_digits hdigits, unsignedDecimal_digits hne hdigits, Option.getD_some]

/-- The decimal text of an integer reads as the double nearest to it. -/
theorem ofText_toString (n : ℕ) : ofText (toString n) = toDouble n := by
  rw [ofText_digits (isDecimal_toString n), digitsValue_toString]

theorem ofText_toString_of_lt {n : ℕ} (hn : n < 2 ^ 53) : ofText (toString n) = (n : JsNumber) := by
  rw [ofText_toString, toDouble_natCast hn]

/-! ### Safe integers -/

theorem floor_le_roundHalfEven (q : ℚ) : ⌊q⌋ ≤ roundHalfEven q := by
  simp only [roundHalfEven]
  split_ifs <;> omega

/-- **Large integers stay large.** From `2^53` on, rounding does not lead below it. -/
theorem le_toDouble {n : ℕ} (hn : 2 ^ 53 ≤ n) :
    toDouble n = posInfinity ∨ ∃ q : ℚ, toDouble n = finite q ∧ 2 ^ 53 ≤ q := by
  have hq : (2 : ℚ) ^ (53 : ℕ) ≤ n := by exact_mod_cast hn
  have hpos : (0 : ℚ) < n := lt_of_lt_of_le (by positivity) hq
  have hlog : 53 ≤ Int.log 2 (n : ℚ) := by
    refine (Int.zpow_le_iff_le_log one_lt_two hpos).mp ?_
    exact_mod_cast hq
  set e : ℤ := max (Int.log 2 (n : ℚ) - 52) (-1074) with he
  have hlogexp : ((52 : ℕ) : ℤ) + e = Int.log 2 (n : ℚ) := by
    rw [he]
    push_cast
    omega
  -- the significand has its leading bit
  have hsignificand : (2 : ℚ) ^ (52 : ℕ) ≤ n / 2 ^ e := by
    have h2e : (0 : ℚ) < 2 ^ e := zpow_pos two_pos e
    rw [le_div_iff₀ h2e, ← zpow_natCast, ← zpow_add₀ two_ne_zero, hlogexp]
    exact Int.zpow_log_le_self one_lt_two hpos
  have hround : (2 : ℤ) ^ 52 ≤ roundHalfEven ((n : ℚ) / 2 ^ e) := by
    refine le_trans (Int.le_floor.mpr ?_) (floor_le_roundHalfEven _)
    exact_mod_cast hsignificand
  have hscale : (2 : ℚ) ≤ 2 ^ e := by
    have h1 : (1 : ℤ) ≤ e := by
      push_cast at hlogexp
      omega
    calc (2 : ℚ) = 2 ^ (1 : ℤ) := (zpow_one _).symm
      _ ≤ 2 ^ e := zpow_le_zpow_right₀ one_le_two h1
  set significand : ℤ := roundHalfEven ((n : ℚ) / 2 ^ e)
  have hmagnitude : (2 : ℚ) ^ 53 ≤ significand * 2 ^ e := by
    have hround' : (2 : ℚ) ^ 52 ≤ significand := by exact_mod_cast hround
    calc (2 : ℚ) ^ 53 = (2 : ℚ) ^ 52 * 2 := by norm_num
      _ ≤ (significand : ℚ) * 2 ^ e :=
        mul_le_mul hround' hscale (by norm_num) (le_trans (by norm_num) hround')
  have hvalue : toDouble n = if (2 : ℚ) ^ (1024 : ℕ) ≤ significand * 2 ^ e
      then posInfinity else finite (significand * 2 ^ e) := by
    simp only [toDouble, if_neg hpos.ne', if_neg (not_lt.mpr hpos.le), abs_of_pos hpos]
    rfl
  rw [hvalue]
  split_ifs
  · exact .inl rfl
  · exact .inr ⟨_, rfl, hmagnitude⟩

/-- `Number.isSafeInteger(n) && n >= 0`, with the integer it then is. -/
def safeInteger? : JsNumber → Option ℕ
  | finite q => if q.den = 1 ∧ 0 ≤ q ∧ q < 2 ^ 53 then some q.num.toNat else none
  | _ => none

/-- A number is a safe integer exactly when it is one. -/
theorem safeInteger?_eq_some_iff {a : JsNumber} {n : ℕ} :
    a.safeInteger? = some n ↔ a = (n : JsNumber) ∧ n < 2 ^ 53 := by
  constructor
  · intro h
    cases a with
    | finite q =>
      rw [safeInteger?] at h
      split at h
      · rename_i hsafe
        obtain ⟨hden, hnonneg, hlt⟩ := hsafe
        have hnum : 0 ≤ q.num := Rat.num_nonneg.mpr hnonneg
        have hint : (q.num : ℚ) = q := Rat.den_eq_one_iff q |>.mp hden
        have hcast : ((q.num.toNat : ℕ) : ℚ) = q := by
          rw [← hint]
          exact_mod_cast Int.toNat_of_nonneg hnum
        obtain rfl := Option.some.inj h
        refine ⟨by rw [natCast_eq, hcast], ?_⟩
        have hlt' : ((q.num.toNat : ℕ) : ℚ) < 2 ^ 53 := by rw [hcast]; exact hlt
        exact_mod_cast hlt'
      · cases h
    | _ => cases h
  · rintro ⟨rfl, hlt⟩
    have hq : (n : ℚ) < 2 ^ 53 := by exact_mod_cast hlt
    rw [natCast_eq, safeInteger?, if_pos ⟨Rat.den_natCast n, Nat.cast_nonneg n, hq⟩,
      Rat.num_natCast, Int.toNat_natCast]

/-- **A decimal text reads as a safe integer exactly below `2^53`,** and then as its own. -/
theorem safeInteger?_ofText_toString (n : ℕ) :
    (ofText (toString n)).safeInteger? = if n < 2 ^ 53 then some n else none := by
  rw [ofText_toString]
  split_ifs with hn
  · exact safeInteger?_eq_some_iff.mpr ⟨toDouble_natCast hn, hn⟩
  · refine Option.eq_none_iff_forall_ne_some.mpr fun m hm => ?_
    obtain ⟨hvalue, hlt⟩ := safeInteger?_eq_some_iff.mp hm
    rcases le_toDouble (not_lt.mp hn) with hinf | ⟨q, hfinite, hq⟩
    · rw [hinf] at hvalue
      cases hvalue
    · rw [hfinite, natCast_eq, finite.injEq] at hvalue
      have hmq : (m : ℚ) < 2 ^ 53 := by exact_mod_cast hlt
      rw [hvalue] at hq
      exact absurd hq (not_le.mpr hmq)

end JsNumber

end Js
