import Mathlib.Tactic.FieldSimp
import SlaSettle.Js.Strings

/-!
# Token amounts

`lib/format.ts`: a typed amount becomes an integer in the token's smallest unit, and an integer is
shown as an amount.

`IsNumeral` is what may be typed, and `decimalValue` the number it stands for. An amount is accepted
if it is a numeral with no more decimal places than the token has, and the integer is its value in
smallest units: `parseTokenAmount_eq_ok_iff`.
-/

namespace SlaSettle

namespace Web

open Js

/-- `.` -/
def point : UInt16 := 0x2E

/-- `,` -/
def comma : UInt16 := 0x2C

/-- `0` -/
def zeroDigit : UInt16 := 0x30

/-! ### Formatting -/

/-- `digits.replace(/\B(?=(\d{3})+(?!\d))/g, ",")` -/
def groupDigits : JsString → JsString
  | [] => []
  | u :: rest =>
    if rest ≠ [] ∧ rest.length % 3 = 0 then u :: comma :: groupDigits rest
    else u :: groupDigits rest

def formatTokenAmount (amount : ℤ) (decimals : ℕ) : JsString :=
  let sign := if amount < 0 then units "-" else []
  let divisor := 10 ^ decimals
  let whole := amount.natAbs / divisor
  let fraction := amount.natAbs % divisor
  let groupedWhole := groupDigits (units (toString whole))
  if decimals = 0 then sign ++ groupedWhole
  else
    let fractionDigits :=
      ((units (toString fraction)).padStart decimals zeroDigit).rdropWhile (· = zeroDigit)
    let fractionPart := if 0 < fractionDigits.length then point :: fractionDigits else []
    sign ++ groupedWhole ++ fractionPart

/-! ### Parsing -/

structure InvalidTokenAmountError where
  message : JsString
  deriving DecidableEq

/-- `/^\d*\.?\d*$/` -/
def amountPattern : Regex UInt16 :=
  .whole (.seq (.many isDigitUnit) (.seq (.opt (.one (· = point))) (.many isDigitUnit)))

def parseTokenAmount (input : JsString) (decimals : ℕ) : Except InvalidTokenAmountError ℤ :=
  let trimmed := input.trim
  if !amountPattern.test trimmed || trimmed = [] || trimmed = [point] then
    .error ⟨units "\"" ++ input ++ units "\" is not a valid amount."⟩
  else
    let parts := trimmed.splitOn point
    let wholePart : JsString := parts.headD []
    let fractionPart : JsString := parts.getD 1 []
    if decimals < fractionPart.length then
      .error ⟨units "\"" ++ input ++
        units s!"\" has more decimal places than this token supports ({decimals})."⟩
    else
      let whole := (wholePart.orElse (units "0")).bigInt
      let fraction := ((fractionPart.padEnd decimals zeroDigit).orElse (units "0")).bigInt
      .ok (whole * 10 ^ decimals + fraction)

/-! ### Numerals -/

/-- Digits, with a point in front, among or behind them or with none; and the digits on either side
of it. -/
structure IsNumeral (s whole fraction : JsString) : Prop where
  shape : s = whole ∧ fraction = [] ∨ s = whole ++ point :: fraction
  whole_digits : ∀ u ∈ whole, isDigitUnit u = true
  fraction_digits : ∀ u ∈ fraction, isDigitUnit u = true
  nonempty : whole ++ fraction ≠ []

/-- The number that a numeral stands for. -/
def decimalValue (s : JsString) : ℚ :=
  let whole := s.takeWhile (· ≠ point)
  let fraction := (s.dropWhile (· ≠ point)).drop 1
  JsString.digits (whole ++ fraction) / 10 ^ fraction.length

section

variable {s whole fraction : JsString}

theorem ne_point_of_isDigitUnit {u : UInt16} (h : isDigitUnit u = true) : u ≠ point := by
  rintro rfl
  exact absurd h (by decide)

/-- What the pattern accepts. -/
theorem amountPattern_test_iff :
    amountPattern.test s = true ↔ ∃ whole fraction : JsString,
      (s = whole ∧ fraction = [] ∨ s = whole ++ point :: fraction) ∧
        (∀ u ∈ whole, isDigitUnit u = true) ∧ ∀ u ∈ fraction, isDigitUnit u = true := by
  rw [amountPattern, Regex.test_whole]
  constructor
  · rintro ⟨i, hi⟩
    obtain ⟨m, hwhole, hrest⟩ := Regex.mem_ends_seq.mp hi
    obtain ⟨m', hpoint, hfraction⟩ := Regex.mem_ends_seq.mp hrest
    obtain ⟨whole, hs, -, hwholeDigits⟩ := Regex.mem_runEnds.mp hwhole
    obtain ⟨fraction, htail, -, hfractionDigits⟩ := Regex.mem_runEnds.mp hfraction
    rw [List.append_nil] at htail
    rcases Regex.mem_ends_alt.mp hpoint with hone | hnone
    · obtain ⟨c, hc, -, hcp⟩ := Regex.mem_ends_one.mp hone
      obtain rfl : c = point := of_decide_eq_true hcp
      refine ⟨whole, fraction, .inr ?_, hwholeDigits, hfractionDigits⟩
      rw [hs, hc, htail]
    · -- without a point, the second run of digits continues the first
      have hm : m' = m := Regex.mem_ends_empty.mp hnone
      refine ⟨whole ++ fraction, [], .inl ⟨?_, rfl⟩, ?_, nofun⟩
      · rw [hs, ← hm, htail]
      · exact fun u hu => (List.mem_append.mp hu).elim (hwholeDigits u) (hfractionDigits u)
  · rintro ⟨whole, fraction, ⟨rfl, rfl⟩ | rfl, hwhole, hfraction⟩
    · refine ⟨0 + s.length, Regex.mem_ends_seq.mpr ⟨(0 + s.length, []), ?_, ?_⟩⟩
      · exact Regex.mem_runEnds.mpr ⟨s, by simp, rfl, hwhole⟩
      · refine Regex.mem_ends_seq.mpr ⟨(0 + s.length, []), ?_, ?_⟩
        · exact Regex.mem_ends_alt.mpr (.inr (Regex.mem_ends_empty.mpr rfl))
        · exact Regex.mem_runEnds.mpr ⟨[], rfl, rfl, nofun⟩
    · refine ⟨0 + whole.length + 1 + fraction.length, Regex.mem_ends_seq.mpr
        ⟨(0 + whole.length, point :: fraction), ?_, ?_⟩⟩
      · exact Regex.mem_runEnds.mpr ⟨whole, rfl, rfl, hwhole⟩
      · refine Regex.mem_ends_seq.mpr ⟨(0 + whole.length + 1, fraction), ?_, ?_⟩
        · exact Regex.mem_ends_alt.mpr (.inl (Regex.mem_ends_one.mpr ⟨point, rfl, rfl, rfl⟩))
        · exact Regex.mem_runEnds.mpr ⟨fraction, by simp, rfl, hfraction⟩

/-- The texts that are not turned away at once are the numerals. -/
theorem exists_isNumeral_iff :
    (!amountPattern.test s || s = [] || s = [point]) = false ↔
      ∃ whole fraction, IsNumeral s whole fraction := by
  rw [Bool.or_eq_false_iff, Bool.or_eq_false_iff, Bool.not_eq_false', decide_eq_false_iff_not,
    decide_eq_false_iff_not, amountPattern_test_iff]
  constructor
  · rintro ⟨⟨⟨whole, fraction, hshape, hwhole, hfraction⟩, hempty⟩, hpoint⟩
    refine ⟨whole, fraction, hshape, hwhole, hfraction, fun hnil => ?_⟩
    obtain ⟨rfl, rfl⟩ := List.append_eq_nil_iff.mp hnil
    rcases hshape with ⟨hs, -⟩ | hs
    · exact hempty hs
    · exact hpoint hs
  · rintro ⟨whole, fraction, hs⟩
    refine ⟨⟨⟨whole, fraction, hs.shape, hs.whole_digits, hs.fraction_digits⟩, ?_⟩, ?_⟩
    · rintro rfl
      rcases hs.shape with ⟨hnil, hfraction⟩ | hcons
      · exact hs.nonempty (by rw [← hnil, hfraction, List.append_nil])
      · exact List.append_ne_nil_of_right_ne_nil _ (List.cons_ne_nil _ _) hcons.symm
    · rintro rfl
      rcases hs.shape with ⟨hone, -⟩ | hcons
      · exact ne_point_of_isDigitUnit (hs.whole_digits point (by simp [← hone])) rfl
      · have hlength := congrArg List.length hcons
        rw [List.length_append, List.length_cons, List.length_cons, List.length_nil] at hlength
        have hwhole : whole = [] := List.length_eq_zero_iff.mp (by omega)
        have hfraction : fraction = [] := List.length_eq_zero_iff.mp (by omega)
        exact hs.nonempty (by rw [hwhole, hfraction, List.append_nil])

namespace IsNumeral

variable (hs : IsNumeral s whole fraction)

include hs

theorem not_mem_whole : point ∉ whole := fun h => ne_point_of_isDigitUnit (hs.whole_digits _ h) rfl

theorem not_mem_fraction : point ∉ fraction :=
  fun h => ne_point_of_isDigitUnit (hs.fraction_digits _ h) rfl

/-- The parts that splitting at the point yields. -/
theorem splitOn_point :
    (s.splitOn point).headD [] = whole ∧ (s.splitOn point).getD 1 [] = fraction := by
  rcases hs.shape with ⟨rfl, rfl⟩ | rfl
  · rw [List.splitOn_eq_singleton hs.not_mem_whole]
    exact ⟨rfl, rfl⟩
  · rw [List.splitOn_append_cons_self_of_not_mem hs.not_mem_whole,
      List.splitOn_eq_singleton hs.not_mem_fraction]
    exact ⟨rfl, rfl⟩

theorem decimalValue_eq :
    decimalValue s = (whole.digits * 10 ^ fraction.length + fraction.digits) /
      10 ^ fraction.length := by
  have hparts : s.takeWhile (· ≠ point) = whole ∧
      (s.dropWhile (· ≠ point)).drop 1 = fraction := by
    have hwhole : ∀ u ∈ whole, decide (u ≠ point) = true := fun u hu =>
      decide_eq_true (ne_point_of_isDigitUnit (hs.whole_digits u hu))
    rcases hs.shape with ⟨rfl, rfl⟩ | rfl
    · rw [List.takeWhile_eq_self_iff.mpr hwhole, List.dropWhile_eq_nil_iff.mpr hwhole]
      exact ⟨rfl, rfl⟩
    · rw [List.takeWhile_append_of_pos hwhole, List.dropWhile_append_of_pos hwhole]
      simp
  rw [decimalValue, hparts.1, hparts.2, JsString.digits_append hs.whole_digits hs.fraction_digits]
  push_cast
  rfl

/-- The two integers that are added up are the value in smallest units. -/
theorem decimalValue_mul {decimals : ℕ} (hlength : fraction.length ≤ decimals) :
    decimalValue s * 10 ^ decimals = ((whole.digits * 10 ^ decimals +
      fraction.digits * 10 ^ (decimals - fraction.length) : ℕ) : ℚ) := by
  have hpow : (10 : ℚ) ^ decimals = 10 ^ (decimals - fraction.length) * 10 ^ fraction.length := by
    rw [← pow_add, Nat.sub_add_cancel hlength]
  have hne : (10 : ℚ) ^ fraction.length ≠ 0 := pow_ne_zero _ (by norm_num)
  rw [hs.decimalValue_eq]
  push_cast
  rw [hpow]
  field_simp

end IsNumeral

end

/-! ### What is accepted -/

section

variable {input : JsString} {decimals : ℕ}

theorem orElse_zero_digits (s : JsString) : (s.orElse (units "0")).digits = s.digits := by
  rw [JsString.orElse]
  split_ifs with hs
  · rw [hs]
    decide
  · rfl

/-- The result for a numeral. -/
theorem parseTokenAmount_of_isNumeral {whole fraction : JsString}
    (hs : IsNumeral input.trim whole fraction) :
    parseTokenAmount input decimals =
      if decimals < fraction.length then
        .error ⟨units "\"" ++ input ++
          units s!"\" has more decimal places than this token supports ({decimals})."⟩
      else
        .ok (whole.digits * 10 ^ decimals +
          fraction.digits * 10 ^ (decimals - fraction.length)) := by
  obtain ⟨hwhole, hfraction⟩ := hs.splitOn_point
  have haccepted : (!amountPattern.test input.trim || input.trim = [] || input.trim = [point]) =
      false := exists_isNumeral_iff.mpr ⟨whole, fraction, hs⟩
  simp only [parseTokenAmount]
  rw [haccepted, if_neg Bool.false_ne_true, hwhole, hfraction]
  split_ifs
  · rfl
  · rw [JsString.bigInt, JsString.bigInt, orElse_zero_digits, orElse_zero_digits, zeroDigit,
      JsString.digits_padEnd hs.fraction_digits]
    push_cast
    rfl

/-- **An amount is accepted** if it is a numeral with no more decimal places than the token has, and
it is its value in smallest units. -/
theorem parseTokenAmount_eq_ok_iff {n : ℤ} :
    parseTokenAmount input decimals = .ok n ↔ ∃ whole fraction,
      IsNumeral input.trim whole fraction ∧ fraction.length ≤ decimals ∧
        (n : ℚ) = decimalValue input.trim * 10 ^ decimals := by
  constructor
  · intro h
    by_cases hnumeral : ∃ whole fraction, IsNumeral input.trim whole fraction
    · obtain ⟨whole, fraction, hs⟩ := hnumeral
      rw [parseTokenAmount_of_isNumeral hs] at h
      split_ifs at h with hlength
      refine ⟨whole, fraction, hs, not_lt.mp hlength, ?_⟩
      rw [hs.decimalValue_mul (not_lt.mp hlength), ← Except.ok.inj h]
      push_cast
      rfl
    · have hrejected := eq_true_of_ne_false (mt exists_isNumeral_iff.mp hnumeral)
      simp only [parseTokenAmount] at h
      rw [hrejected, if_pos rfl] at h
      cases h
  · rintro ⟨whole, fraction, hs, hlength, hn⟩
    rw [hs.decimalValue_mul hlength] at hn
    have hvalue : n = ((whole.digits * 10 ^ decimals +
        fraction.digits * 10 ^ (decimals - fraction.length) : ℕ) : ℤ) := by exact_mod_cast hn
    rw [parseTokenAmount_of_isNumeral hs, if_neg (not_lt.mpr hlength), hvalue]
    push_cast
    rfl

end

end Web

end SlaSettle
