import SlaSettle.Js.Json

/-!
# Times as text

`new Date(time).toISOString()`, for a time in milliseconds since 1970. A time that is no number, or
farther than `8.64e15` milliseconds away, is not valid and has no text. Years outside `0000`–`9999`
are written with a sign and six digits.
-/

namespace Js

/-- The largest valid time. -/
def maxTime : ℕ := 8640000000000000

/-- The date of a day, counted from 1970-01-01, in the proleptic Gregorian calendar. Years are
counted from March, in eras of 400 of them. -/
def civilDate (day : ℤ) : ℤ × ℕ × ℕ :=
  let shifted := day + 719468
  let era := shifted / 146097
  let dayOfEra := (shifted % 146097).toNat
  let yearOfEra := (dayOfEra - dayOfEra / 1460 + dayOfEra / 36524 - dayOfEra / 146096) / 365
  let dayOfYear := dayOfEra - (365 * yearOfEra + yearOfEra / 4 - yearOfEra / 100)
  let monthFromMarch := (5 * dayOfYear + 2) / 153
  let month := if monthFromMarch < 10 then monthFromMarch + 3 else monthFromMarch - 9
  let year := era * 400 + yearOfEra + if month ≤ 2 then 1 else 0
  (year, month, dayOfYear - (153 * monthFromMarch + 2) / 5 + 1)

/-- Decimal digits, with zeros in front up to a width. -/
def zeroPadded (width n : ℕ) : String := .ofList (List.leftpad width '0' (toString n).toList)

/-- The year of a date: four digits, or a sign and six. -/
def yearText (year : ℤ) : String :=
  if 0 ≤ year ∧ year ≤ 9999 then zeroPadded 4 year.toNat
  else (if year < 0 then "-" else "+") ++ zeroPadded 6 year.natAbs

/-- The text of a valid time, `YYYY-MM-DDTHH:mm:ss.sssZ`. -/
def isoText (time : ℤ) : String :=
  let (year, month, day) := civilDate (time / 86400000)
  let rest := (time % 86400000).toNat
  yearText year ++ "-" ++ zeroPadded 2 month ++ "-" ++ zeroPadded 2 day ++ "T" ++
    zeroPadded 2 (rest / 3600000) ++ ":" ++ zeroPadded 2 (rest / 60000 % 60) ++ ":" ++
    zeroPadded 2 (rest / 1000 % 60) ++ "." ++ zeroPadded 3 (rest % 1000) ++ "Z"

/-- `new Date(time).toISOString()`, which throws for a time that is not valid. -/
def toISOString : JsNumber → Except Thrown String
  | .finite q =>
    if |q| ≤ maxTime then .ok (isoText (if q < 0 then ⌈q⌉ else ⌊q⌋))
    else .error (.error "Invalid time value")
  | _ => .error (.error "Invalid time value")

/-- The 29th of February of a year that is divided by 400. -/
example : isoText 951782400000 = "2000-02-29T00:00:00.000Z" := by decide +kernel

example : isoText (-1) = "1969-12-31T23:59:59.999Z" ∧
    isoText 8640000000000000 = "+275760-09-13T00:00:00.000Z" := by decide +kernel

theorem isoText_ne_empty (time : ℤ) : isoText time ≠ "" := by
  intro hempty
  have hlength := congrArg String.length hempty
  simp [isoText] at hlength

theorem toISOString_natCast {n : ℕ} (hn : n ≤ maxTime) :
    toISOString (n : JsNumber) = .ok (isoText n) := by
  have habs : |(n : ℚ)| ≤ maxTime := by
    rw [abs_of_nonneg (Nat.cast_nonneg n)]
    exact_mod_cast hn
  rw [JsNumber.natCast_eq, toISOString, if_pos habs, if_neg (not_lt.mpr (Nat.cast_nonneg n)),
    Int.floor_natCast]

end Js
