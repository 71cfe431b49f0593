import Mathlib.Algebra.Order.Ring.Int
import Mathlib.Data.Nat.Digits.Defs
import Mathlib.Tactic.Ring

/-!
# Reading Go integers

`strconv.Atoi` and `strconv.ParseUint` in base ten and with 64 bits, on the bytes of a string. Their
error is left out: callers look only at whether there is one. The text of a number is read back as
that number, as long as it has 64 bits (`atoi_itoa`).
-/

namespace Go

/-- Whether a byte is a decimal digit. -/
def isDigit (ch : UInt8) : Bool := 0x30 ≤ ch && ch ≤ 0x39

/-- The number that digits denote. -/
def digitsValue (s : List UInt8) : ℕ := s.foldl (fun n ch => n * 10 + (ch - 0x30).toNat) 0

/-- `strconv.ParseUint(s, 10, 64)`, which takes no sign. -/
def parseUint (s : List UInt8) : Option ℕ :=
  if s ≠ [] ∧ s.all isDigit ∧ digitsValue s < 2 ^ 64 then some (digitsValue s) else none

/-- Whether a number begins with a minus, and what comes after its sign. -/
def splitSign : List UInt8 → Bool × List UInt8
  | [] => (false, [])
  | ch :: s =>
    if ch = 0x2D then (true, s) else if ch = 0x2B then (false, s) else (false, ch :: s)

/-- An integer, if it has 64 bits. -/
def checkInt64 (n : ℤ) : Option ℤ := if -2 ^ 63 ≤ n ∧ n < 2 ^ 63 then some n else none

/-- `strconv.Atoi(s)`. -/
def atoi (s : List UInt8) : Option ℤ :=
  let (negative, digits) := splitSign s
  if digits ≠ [] ∧ digits.all isDigit then
    checkInt64 (if negative then -digitsValue digits else digitsValue digits)
  else none

/-- `strconv.Itoa(n)`, for a natural number. -/
def itoa (n : ℕ) : List UInt8 := (Nat.toDigits 10 n).map fun c => UInt8.ofNat c.toNat

/-! ### What is read is in range -/

theorem checkInt64_eq_some_iff {m n : ℤ} :
    checkInt64 m = some n ↔ (-2 ^ 63 ≤ n ∧ n < 2 ^ 63) ∧ m = n := by
  rw [checkInt64, Option.ite_none_right_eq_some, Option.some_inj]
  exact and_congr_left fun hm => by rw [hm]

theorem atoi_bounds {s : List UInt8} {n : ℤ} (h : atoi s = some n) :
    -2 ^ 63 ≤ n ∧ n < 2 ^ 63 := by
  rw [atoi, Option.ite_none_right_eq_some] at h
  exact (checkInt64_eq_some_iff.mp h.2).1

theorem parseUint_lt {s : List UInt8} {n : ℕ} (h : parseUint s = some n) : n < 2 ^ 64 := by
  rw [parseUint, Option.ite_none_right_eq_some, Option.some_inj] at h
  obtain ⟨⟨-, -, hlt⟩, rfl⟩ := h
  exact hlt

/-! ### Texts of numbers -/

theorem toNat_ofNat_of_isDigit {c : Char} (h : c.isDigit = true) :
    (UInt8.ofNat c.toNat).toNat = c.toNat := by
  obtain ⟨-, hle⟩ := Char.isDigit_iff_toNat.mp h
  rw [UInt8.toNat_ofNat']
  exact Nat.mod_eq_of_lt (hle.trans_lt (by decide))

theorem isDigit_ofNat {c : Char} (h : c.isDigit = true) : isDigit (UInt8.ofNat c.toNat) = true := by
  obtain ⟨hge, hle⟩ := Char.isDigit_iff_toNat.mp h
  simp only [isDigit, Bool.and_eq_true, decide_eq_true_eq, UInt8.le_iff_toNat_le,
    toNat_ofNat_of_isDigit h]
  exact ⟨hge, hle⟩

theorem toNat_sub_zero {c : Char} (h : c.isDigit = true) :
    (UInt8.ofNat c.toNat - 0x30).toNat = c.toNat - '0'.toNat := by
  obtain ⟨hge, -⟩ := Char.isDigit_iff_toNat.mp h
  have hle : (0x30 : UInt8) ≤ UInt8.ofNat c.toNat := by
    rw [UInt8.le_iff_toNat_le, toNat_ofNat_of_isDigit h]
    exact hge
  rw [UInt8.toNat_sub_of_le _ _ hle, toNat_ofNat_of_isDigit h]
  rfl

/-- On digits, the value is the library's. -/
theorem digitsValue_map {cs : List Char} (h : ∀ c ∈ cs, c.isDigit = true) :
    digitsValue (cs.map fun c => UInt8.ofNat c.toNat) = Nat.ofDigitChars 10 cs 0 := by
  have hstep : ∀ (cs : List Char) (n : ℕ), (∀ c ∈ cs, c.isDigit = true) →
      (cs.map fun c => UInt8.ofNat c.toNat).foldl (fun n ch => n * 10 + (ch - 0x30).toNat) n =
        Nat.ofDigitChars 10 cs n := by
    intro cs
    induction cs with
    | nil =>
      intro n _
      rw [List.map_nil, List.foldl_nil, Nat.ofDigitChars_nil]
    | cons c cs ih =>
      intro n h
      obtain ⟨hc, hcs⟩ := List.forall_mem_cons.mp h
      rw [List.map_cons, List.foldl_cons, ih _ hcs, Nat.ofDigitChars_cons, toNat_sub_zero hc,
        mul_comm]
  exact hstep cs 0 h

theorem isDigit_of_mem_toDigits {n : ℕ} {c : Char} (h : c ∈ Nat.toDigits 10 n) :
    c.isDigit = true :=
  Nat.isDigit_of_mem_toDigits (by omega) (by omega) h

theorem digitsValue_itoa (n : ℕ) : digitsValue (itoa n) = n := by
  rw [itoa, digitsValue_map fun c hc => isDigit_of_mem_toDigits hc]
  exact Nat.ofDigitChars_toDigits (by omega) (by omega)

theorem itoa_ne_nil (n : ℕ) : itoa n ≠ [] := by
  rw [itoa, Ne, List.map_eq_nil_iff]
  exact Nat.toDigits_ne_nil

theorem all_isDigit_itoa (n : ℕ) : (itoa n).all isDigit = true := by
  rw [List.all_eq_true]
  intro ch hch
  obtain ⟨c, hc, rfl⟩ := List.mem_map.mp hch
  exact isDigit_ofNat (isDigit_of_mem_toDigits hc)

/-- Digits have no sign. -/
theorem splitSign_of_isDigit {s : List UInt8} (h : s.all isDigit = true) :
    splitSign s = (false, s) := by
  cases s with
  | nil => rfl
  | cons ch s =>
    have hch : isDigit ch = true := by
      rw [List.all_cons, Bool.and_eq_true] at h
      exact h.1
    have hminus : ch ≠ 0x2D := by
      rintro rfl
      exact absurd hch (by decide)
    have hplus : ch ≠ 0x2B := by
      rintro rfl
      exact absurd hch (by decide)
    rw [splitSign, if_neg hminus, if_neg hplus]

theorem atoi_itoa {n : ℕ} (h : n < 2 ^ 63) : atoi (itoa n) = some (n : ℤ) := by
  unfold atoi
  rw [splitSign_of_isDigit (all_isDigit_itoa n)]
  dsimp only
  rw [if_pos ⟨itoa_ne_nil n, all_isDigit_itoa n⟩, if_neg Bool.false_ne_true, digitsValue_itoa]
  exact checkInt64_eq_some_iff.mpr ⟨⟨by omega, by omega⟩, rfl⟩

example : atoi [0x2D, 0x34, 0x32] = some (-42) := by decide

end Go
