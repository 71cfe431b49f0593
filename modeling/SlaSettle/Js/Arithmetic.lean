import Mathlib.Data.Nat.Cast.Order.Field
import SlaSettle.Js.Decimal

/-!
# Arithmetic of numbers

`*`, `/` and `Math.floor`. A product or quotient of doubles is the double nearest to the exact one,
so the floor of a quotient of integers need not be the integer quotient: rounding may carry it over
the next integer. `floor_div` says that it does not while the dividend is a safe integer: a quotient
that is no integer is then farther from the next one than rounding moves it.
-/

namespace Js

namespace JsNumber

/-- An infinity. -/
def infinity (negative : Bool) : JsNumber := if negative then negInfinity else posInfinity

/-- `a * b` -/
def mul : JsNumber → JsNumber → JsNumber
  | finite a, finite b => toDouble (a * b)
  | finite a, posInfinity | posInfinity, finite a => if a = 0 then nan else infinity (a < 0)
  | finite a, negInfinity | negInfinity, finite a => if a = 0 then nan else infinity (0 < a)
  | posInfinity, posInfinity | negInfinity, negInfinity => posInfinity
  | posInfinity, negInfinity | negInfinity, posInfinity => negInfinity
  | nan, _ | _, nan => nan

/-- `a / b`. The two zeros are not told apart, and a division by zero is taken for one by `+0`. -/
def div : JsNumber → JsNumber → JsNumber
  | finite a, finite b =>
    if b = 0 then (if a = 0 then nan else infinity (a < 0)) else toDouble (a / b)
  | finite _, posInfinity | finite _, negInfinity => 0
  | posInfinity, finite b => infinity (b < 0)
  | negInfinity, finite b => infinity (0 ≤ b)
  | posInfinity, posInfinity | posInfinity, negInfinity | negInfinity, posInfinity
  | negInfinity, negInfinity => nan
  | nan, _ | _, nan => nan

/-- `Math.floor(a)` -/
def floor : JsNumber → JsNumber
  | finite q => finite ⌊q⌋
  | a => a

@[simp]
theorem floor_finite (q : ℚ) : floor (finite q) = finite ⌊q⌋ := rfl

theorem div_finite {a b : ℚ} (hb : b ≠ 0) : div (finite a) (finite b) = toDouble (a / b) :=
  if_neg hb

theorem mul_natCast {m n : ℕ} (h : m * n < 2 ^ 53) :
    mul (m : JsNumber) n = ((m * n : ℕ) : JsNumber) := by
  rw [← toDouble_natCast h, Nat.cast_mul]
  rfl

/-- A product of natural numbers is safe exactly when the exact one is, and then it is that. -/
theorem safeInteger?_mul (m n : ℕ) :
    (mul (m : JsNumber) n).safeInteger? = if m * n < 2 ^ 53 then some (m * n) else none := by
  have hproduct : mul (m : JsNumber) n = toDouble ((m * n : ℕ) : ℚ) := by
    rw [Nat.cast_mul]
    rfl
  rw [hproduct, ← ofText_toString, safeInteger?_ofText_toString]

/-! ### Rounding a quotient -/

theorem le_roundHalfEven {q : ℚ} {n : ℤ} (h : (n : ℚ) ≤ q) : n ≤ roundHalfEven q :=
  (Int.le_floor.mpr h).trans (floor_le_roundHalfEven q)

/-- What is more than a half below an integer is not rounded up to it. -/
theorem roundHalfEven_lt {q : ℚ} {n : ℤ} (h : q < n - 1 / 2) : roundHalfEven q < n := by
  have hfloor : ⌊q⌋ < n := Int.floor_lt.mpr (h.trans (by linarith))
  by_cases hlast : ⌊q⌋ = n - 1
  · have hexcess : q - ⌊q⌋ < 1 / 2 := by
      rw [hlast]
      push_cast
      linarith
    simp only [roundHalfEven, if_pos hexcess]
    exact hfloor
  · simp only [roundHalfEven]
    split_ifs <;> omega

/-- **Rounding stays between integers.** A rational between two successive safe integers, farther
below the upper one than half a unit in its last place, is rounded to one between them. -/
theorem toDouble_between {n : ℕ} {q : ℚ} (hn : n < 2 ^ 53) (hpos : 0 < q) (hle : n ≤ q)
    (hgap : q + 2 ^ max (Int.log 2 q - 52) (-1074) / 2 < n + 1) :
    ∃ r : ℚ, toDouble q = finite r ∧ n ≤ r ∧ r < n + 1 := by
  set e : ℤ := max (Int.log 2 q - 52) (-1074) with he
  have h2e : (0 : ℚ) < 2 ^ e := zpow_pos two_pos e
  have hq : q < 2 ^ (53 : ℕ) := by
    have hn' : (n : ℚ) + 1 ≤ 2 ^ (53 : ℕ) := by exact_mod_cast hn
    linarith
  have hlog : Int.log 2 q < 53 := by
    refine (Int.lt_zpow_iff_log_lt one_lt_two hpos).mp ?_
    exact_mod_cast hq
  obtain ⟨k, hk⟩ : ∃ k : ℕ, e = -(k : ℤ) := ⟨e.natAbs, by omega⟩
  -- the integers are multiples of the unit in the last place
  have hscale : ∀ m : ℤ, (m : ℚ) = ((m * 2 ^ k : ℤ) : ℚ) * 2 ^ e := by
    intro m
    rw [hk, zpow_neg, zpow_natCast]
    push_cast
    rw [mul_assoc, mul_inv_cancel₀ (pow_ne_zero k two_ne_zero), mul_one]
  have hlower : ((n : ℤ) * 2 ^ k : ℤ) ≤ roundHalfEven (q / 2 ^ e) := by
    refine le_roundHalfEven ((le_div_iff₀ h2e).mpr ?_)
    rw [← hscale]
    exact_mod_cast hle
  have hupper : roundHalfEven (q / 2 ^ e) < ((n + 1 : ℤ) * 2 ^ k : ℤ) := by
    refine roundHalfEven_lt ((div_lt_iff₀ h2e).mpr ?_)
    rw [sub_mul, ← hscale]
    push_cast
    linarith
  have hn_le : (n : ℚ) ≤ roundHalfEven (q / 2 ^ e) * 2 ^ e := by
    have hcast : (((n : ℤ) * 2 ^ k : ℤ) : ℚ) ≤ roundHalfEven (q / 2 ^ e) := by exact_mod_cast hlower
    calc (n : ℚ) = (((n : ℤ) * 2 ^ k : ℤ) : ℚ) * 2 ^ e := by rw [← hscale, Int.cast_natCast]
      _ ≤ _ := mul_le_mul_of_nonneg_right hcast h2e.le
  have hlt_n : roundHalfEven (q / 2 ^ e) * 2 ^ e < (n : ℚ) + 1 := by
    have hcast : (roundHalfEven (q / 2 ^ e) : ℚ) < (((n + 1 : ℤ) * 2 ^ k : ℤ) : ℚ) := by
      exact_mod_cast hupper
    calc roundHalfEven (q / 2 ^ e) * 2 ^ e < (((n + 1 : ℤ) * 2 ^ k : ℤ) : ℚ) * 2 ^ e :=
          mul_lt_mul_of_pos_right hcast h2e
      _ = (n : ℚ) + 1 := by rw [← hscale]; push_cast; rfl
  have hbig : ¬ (2 : ℚ) ^ (1024 : ℕ) ≤ roundHalfEven (q / 2 ^ e) * 2 ^ e := by
    refine not_le.mpr (hlt_n.trans_le ?_)
    have hn' : (n : ℚ) + 1 ≤ 2 ^ (53 : ℕ) := by exact_mod_cast hn
    exact hn'.trans (pow_le_pow_right₀ one_le_two (by norm_num))
  refine ⟨_, ?_, hn_le, hlt_n⟩
  simp only [toDouble, if_neg hpos.ne', abs_of_pos hpos, ← he, if_neg hbig,
    if_neg (not_lt.mpr hpos.le)]

/-- A quotient of a safe integer is farther from the next integer than half a unit in its last
place. -/
private theorem div_gap {a l : ℕ} (ha : a < 2 ^ 53) (ha0 : 0 < a) (hl : 0 < l)
    (hl1024 : l < 2 ^ 1024) :
    (a : ℚ) / l + 2 ^ max (Int.log 2 ((a : ℚ) / l) - 52) (-1074) / 2 < ((a / l : ℕ) : ℚ) + 1 := by
  have hlq : (0 : ℚ) < l := by exact_mod_cast hl
  have haq : (0 : ℚ) < a := by exact_mod_cast ha0
  have hpos : (0 : ℚ) < (a : ℚ) / l := div_pos haq hlq
  -- the unit in the last place is below twice the reciprocal of the divisor
  have hulp : (2 : ℚ) ^ max (Int.log 2 ((a : ℚ) / l) - 52) (-1074) < 2 / l := by
    rcases max_choice (Int.log 2 ((a : ℚ) / l) - 52) (-1074) with hmax | hmax
    · rw [hmax, zpow_sub₀ two_ne_zero, div_lt_iff₀ (zpow_pos two_pos _)]
      calc (2 : ℚ) ^ Int.log 2 ((a : ℚ) / l) ≤ a / l := by
            exact_mod_cast Int.zpow_log_le_self one_lt_two hpos
        _ < 2 ^ (53 : ℕ) / l := by
            refine div_lt_div_of_pos_right ?_ hlq
            exact_mod_cast ha
        _ = 2 / l * 2 ^ (52 : ℤ) := by norm_num; ring
    · rw [hmax, lt_div_iff₀ hlq, zpow_neg, inv_mul_lt_iff₀ (zpow_pos two_pos _)]
      have hlq1024 : (l : ℚ) < 2 ^ (1024 : ℕ) := by exact_mod_cast hl1024
      refine hlq1024.trans ?_
      rw [← zpow_natCast, ← zpow_add_one₀ two_ne_zero]
      exact zpow_lt_zpow_right₀ one_lt_two (by norm_num)
  -- and the quotient is a reciprocal of the divisor below the next integer
  have hbelow : (a : ℚ) / l + 1 / l ≤ ((a / l : ℕ) : ℚ) + 1 := by
    rw [← add_div, div_le_iff₀ hlq]
    have hnat : a + 1 ≤ (a / l + 1) * l := by
      rw [mul_comm]
      exact Nat.lt_mul_div_succ a hl
    exact_mod_cast hnat
  have hhalf : (2 : ℚ) ^ max (Int.log 2 ((a : ℚ) / l) - 52) (-1074) / 2 < 1 / l := by
    rw [div_lt_iff₀ two_pos]
    calc _ < (2 : ℚ) / l := hulp
      _ = 1 / l * 2 := by ring
  linarith

/-- **The floor of a quotient is the integer quotient,** for a safe dividend. -/
theorem floor_div {a l : ℕ} (ha : a < 2 ^ 53) (hl : 0 < l) (hl1024 : l < 2 ^ 1024) :
    floor (div (a : JsNumber) l) = ((a / l : ℕ) : JsNumber) := by
  have hl0 : (l : ℚ) ≠ 0 := by exact_mod_cast hl.ne'
  have hdiv : div (a : JsNumber) l = toDouble ((a : ℚ) / l) := div_finite hl0
  rw [hdiv]
  rcases Nat.eq_zero_or_pos a with rfl | ha0
  · rw [Nat.cast_zero, zero_div, Nat.zero_div]
    rfl
  have hpos : (0 : ℚ) < (a : ℚ) / l := div_pos (by exact_mod_cast ha0) (by exact_mod_cast hl)
  have hle : ((a / l : ℕ) : ℚ) ≤ (a : ℚ) / l := Nat.cast_div_le
  obtain ⟨r, hr, hlow, hhigh⟩ :=
    toDouble_between ((Nat.div_le_self a l).trans_lt ha) hpos hle (div_gap ha ha0 hl hl1024)
  have hfloor : ⌊r⌋ = ((a / l : ℕ) : ℤ) := by
    refine Int.floor_eq_iff.mpr ⟨?_, ?_⟩
    · exact_mod_cast hlow
    · exact_mod_cast hhigh
  rw [hr, floor_finite, hfloor]
  rfl

end JsNumber

end Js
