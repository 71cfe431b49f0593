import Mathlib.Data.Rat.Floor
import Mathlib.Data.Int.Log
import Mathlib.Algebra.Order.Floor.Ring

/-!
# JavaScript numbers

The values of the Number type and the conversion `Number(text)`. A finite number is the exact
rational it denotes; the two zeros are not told apart, since nothing the modelled code does with
a number separates them. `toDouble` rounds an exact rational to the nearest double, ties to even,
and `JsNumber.ofText` is the specification's StringToNumber: white space is trimmed, the empty
text is `0`, and anything that is not a numeric literal is `NaN`.

`toDouble_intCast` is what callers rely on: integers below `2^53` are exact.
-/

namespace Js

/-- A value of the Number type. -/
inductive JsNumber where
  | nan
  | posInfinity
  | negInfinity
  | finite (q : ℚ)
  deriving DecidableEq

namespace JsNumber

instance : OfNat JsNumber n := ⟨finite n⟩

instance : NatCast JsNumber := ⟨fun n => finite n⟩

/-- JavaScript's `<`: no number is below or above `NaN`. -/
def lt : JsNumber → JsNumber → Bool
  | nan, _ => false
  | _, nan => false
  | negInfinity, negInfinity => false
  | negInfinity, _ => true
  | _, negInfinity => false
  | posInfinity, _ => false
  | _, posInfinity => true
  | finite a, finite b => decide (a < b)

/-- `Number.isFinite`. -/
def isFinite : JsNumber → Bool
  | finite _ => true
  | _ => false

/-- `Number.isInteger`. -/
def isInteger : JsNumber → Bool
  | finite q => decide (q.den = 1)
  | _ => false

/-- Truthiness of a number: everything but zero and `NaN`. -/
def truthy : JsNumber → Bool
  | nan => false
  | finite q => decide (q ≠ 0)
  | _ => true

/-- `Math.min` of two numbers. -/
def min : JsNumber → JsNumber → JsNumber
  | nan, _ => nan
  | _, nan => nan
  | a, b => if lt a b then a else b

@[simp]
theorem lt_finite (a b : ℚ) : lt (finite a) (finite b) = decide (a < b) := rfl

@[simp]
theorem natCast_eq (n : ℕ) : (n : JsNumber) = finite n := rfl

/-- A smaller integer is below whatever a larger one is below. -/
theorem lt_of_natCast_le {m n : ℕ} {a : JsNumber} (hmn : m ≤ n) (h : lt (n : JsNumber) a = true) :
    lt (m : JsNumber) a = true := by
  cases a with
  | nan => cases h
  | posInfinity => rfl
  | negInfinity => cases h
  | finite q =>
    rw [natCast_eq, lt_finite, decide_eq_true_eq] at h ⊢
    exact lt_of_le_of_lt (by exact_mod_cast hmn) h

theorem lt_natCast_iff {m n : ℕ} : lt (m : JsNumber) (n : JsNumber) = true ↔ m < n := by
  rw [natCast_eq, natCast_eq, lt_finite, decide_eq_true_eq]
  exact Nat.cast_lt

/-! ### Rounding -/

/-- The integer nearest to `q`, ties to even. -/
def roundHalfEven (q : ℚ) : ℤ :=
  let below := ⌊q⌋
  let excess := q - below
  if excess < 1 / 2 then below
  else if 1 / 2 < excess then below + 1
  else if below % 2 = 0 then below else below + 1

theorem roundHalfEven_intCast (n : ℤ) : roundHalfEven n = n := by
  simp [roundHalfEven]

/-- The double nearest to a rational: 53 bits of significand down to the subnormal quantum
`2^(-1074)`, overflowing to an infinity at `2^1024`. -/
def toDouble (q : ℚ) : JsNumber :=
  if q = 0 then finite 0
  else
    let exponent := max (Int.log 2 |q| - 52) (-1074)
    let magnitude := roundHalfEven (|q| / 2 ^ exponent) * (2 : ℚ) ^ exponent
    if 2 ^ (1024 : ℕ) ≤ magnitude then (if q < 0 then negInfinity else posInfinity)
    else finite (if q < 0 then -magnitude else magnitude)

/-- **Small integers are exact.** -/
theorem toDouble_intCast {n : ℤ} (hn : |n| < 2 ^ 53) : toDouble n = finite n := by
  by_cases h0 : n = 0
  · simp [toDouble, h0]
  have hq0 : (n : ℚ) ≠ 0 := by exact_mod_cast h0
  have hpos : (0 : ℚ) < |(n : ℚ)| := abs_pos.mpr hq0
  have hlt : |(n : ℚ)| < 2 ^ (53 : ℕ) := by exact_mod_cast hn
  have hone : (1 : ℚ) ≤ |(n : ℚ)| := by
    have h1 : (1 : ℤ) ≤ |n| := Int.one_le_abs h0
    exact_mod_cast h1
  have hlog0 : 0 ≤ Int.log 2 |(n : ℚ)| := by
    have := Int.log_mono_right (b := 2) one_pos hone
    simpa using this
  have hlog : Int.log 2 |(n : ℚ)| < 53 := by
    refine (Int.lt_zpow_iff_log_lt one_lt_two hpos).mp ?_
    exact_mod_cast hlt
  set e : ℤ := max (Int.log 2 |(n : ℚ)| - 52) (-1074) with he
  have hele : e ≤ 0 := by omega
  obtain ⟨k, hk⟩ : ∃ k : ℕ, e = -(k : ℤ) := ⟨e.natAbs, by omega⟩
  -- scaling by a non-positive power of two keeps the magnitude an integer
  have hscaled : |(n : ℚ)| / 2 ^ e = ((|n| * 2 ^ k : ℤ) : ℚ) := by
    rw [hk, zpow_neg, div_inv_eq_mul, zpow_natCast]
    push_cast
    rfl
  have hmag : (roundHalfEven (|(n : ℚ)| / 2 ^ e) : ℚ) * 2 ^ e = |(n : ℚ)| := by
    have h2e : ((2 : ℚ) ^ e) ≠ 0 := zpow_ne_zero _ two_ne_zero
    rw [hscaled, roundHalfEven_intCast, ← hscaled, div_mul_cancel₀ _ h2e]
  have hbig : ¬ (2 : ℚ) ^ (1024 : ℕ) ≤ |(n : ℚ)| := by
    refine not_le.mpr (hlt.trans_le ?_)
    exact pow_le_pow_right₀ one_le_two (by norm_num)
  simp only [toDouble, if_neg hq0, ← he, hmag, if_neg hbig]
  by_cases hneg : (n : ℚ) < 0
  · rw [if_pos hneg, abs_of_neg hneg, neg_neg]
  · rw [if_neg hneg, abs_of_nonneg (not_lt.mp hneg)]

theorem toDouble_natCast {n : ℕ} (hn : n < 2 ^ 53) : toDouble n = (n : JsNumber) := by
  have hexact : toDouble ((n : ℤ) : ℚ) = finite ((n : ℤ) : ℚ) := by
    refine toDouble_intCast ?_
    rw [abs_of_nonneg (Int.natCast_nonneg n)]
    exact_mod_cast hn
  exact_mod_cast hexact

/-! ### Numeric literals -/

/-- The characters JavaScript trims around a numeric literal: its white space and line
terminators. -/
def isSpace (c : Char) : Bool :=
  c.toNat ∈ [0x09, 0x0A, 0x0B, 0x0C, 0x0D, 0x20, 0xA0, 0x1680, 0x2028, 0x2029, 0x202F, 0x205F,
    0x3000, 0xFEFF] || (0x2000 ≤ c.toNat && c.toNat ≤ 0x200A)

/-- `String.prototype.trim`, on characters. -/
def trim (cs : List Char) : List Char :=
  ((cs.dropWhile isSpace).reverse.dropWhile isSpace).reverse

/-- The value of a digit, in bases up to sixteen. -/
def digitValue (c : Char) : ℕ :=
  if c.isDigit then c.toNat - '0'.toNat else c.toLower.toNat - 'a'.toNat + 10

/-- The number a list of digits denotes. -/
def digitsValue (base : ℕ) (cs : List Char) : ℕ :=
  cs.foldl (fun acc c => acc * base + digitValue c) 0

/-- An exponent part (`e10`, `E-3`), or nothing. -/
def exponentPart : List Char → Option ℤ
  | [] => some 0
  | 'e' :: cs | 'E' :: cs =>
    let (negative, digits) := match cs with
      | '-' :: ds => (true, ds)
      | '+' :: ds => (false, ds)
      | ds => (false, ds)
    if digits ≠ [] ∧ digits.all Char.isDigit then
      let n : ℤ := digitsValue 10 digits
      some (if negative then -n else n)
    else none
  | _ => none

/-- An unsigned decimal literal: digits with at most one point, and an exponent. -/
def unsignedDecimal (cs : List Char) : Option JsNumber :=
  if cs = "Infinity".toList then some posInfinity
  else
    let (whole, rest) := cs.span Char.isDigit
    let (fraction, rest) := match rest with
      | '.' :: rest => rest.span Char.isDigit
      | rest => ([], rest)
    if whole = [] ∧ fraction = [] then none
    else (exponentPart rest).map fun e : ℤ =>
      toDouble (digitsValue 10 (whole ++ fraction) * (10 : ℚ) ^ (e - fraction.length))

/-- A literal with a base prefix (`0x1f`, `0o17`, `0b11`). -/
def prefixedInteger (base : ℕ) (isDigit : Char → Bool) (cs : List Char) : Option JsNumber :=
  if cs ≠ [] ∧ cs.all isDigit then some (toDouble (digitsValue base cs)) else none

/-- Negation. -/
def neg : JsNumber → JsNumber
  | nan => nan
  | posInfinity => negInfinity
  | negInfinity => posInfinity
  | finite q => finite (-q)

/-- StringToNumber on trimmed, non-empty text. -/
def literal : List Char → Option JsNumber
  | '0' :: 'x' :: cs | '0' :: 'X' :: cs =>
    prefixedInteger 16 (fun c => c.isDigit || ('a' ≤ c.toLower && c.toLower ≤ 'f')) cs
  | '0' :: 'o' :: cs | '0' :: 'O' :: cs => prefixedInteger 8 (fun c => '0' ≤ c && c ≤ '7') cs
  | '0' :: 'b' :: cs | '0' :: 'B' :: cs => prefixedInteger 2 (fun c => c = '0' || c = '1') cs
  | '+' :: cs => unsignedDecimal cs
  | '-' :: cs => (unsignedDecimal cs).map neg
  | cs => unsignedDecimal cs

/-- `Number(text)`. -/
def ofText (text : String) : JsNumber :=
  match trim text.toList with
  | [] => finite 0
  | cs => (literal cs).getD nan

example : ofText " 1.5e1 " = 15 ∧ ofText "1_000" = nan := by decide +kernel

end JsNumber

end Js
