import SlaSettle.Js.Value

/-!
# JSON

The values a response body carries from `JSON.stringify` on one side to `response.json()` on the
other. Numbers and strings arrive as they were written, except that a number that is not finite is
written as `null`.

`isDateTime` is the date-time format that `Date.parse` must read.
-/

namespace Js

/-- A JSON value. -/
inductive Json where
  | null
  | bool (b : Bool)
  | number (q : ℚ)
  | string (s : String)
  | array (items : List Json)
  | object (fields : List (String × Json))

namespace Json

/-- A number as `JSON.stringify` writes it. -/
def ofNumber : JsNumber → Json
  | .finite q => number q
  | _ => null

/-- A value that may be `null`. -/
def ofNullable {α : Type} (f : α → Json) : Option α → Json
  | some a => f a
  | none => null

theorem ofNumber_eq_number_iff {a : JsNumber} {q : ℚ} : ofNumber a = number q ↔ a = .finite q := by
  cases a <;> simp [ofNumber]

theorem ofNullable_ofNumber_eq_number_iff {a : Option JsNumber} {q : ℚ} :
    ofNullable ofNumber a = number q ↔ a = some (.finite q) := by
  cases a with
  | none => simp [ofNullable]
  | some a => rw [ofNullable, ofNumber_eq_number_iff, Option.some.injEq]

end Json

/-! ### Dates -/

/-- Two digits, in a range. -/
private def twoDigits (lower upper : ℕ) (c d : Char) : Bool :=
  c.isDigit && d.isDigit && decide (lower ≤ JsNumber.digitsValue 10 [c, d]) &&
    decide (JsNumber.digitsValue 10 [c, d] ≤ upper)

/-- A time zone: `Z`, or an offset in hours and minutes. -/
private def isZone : List Char → Bool
  | ['Z'] => true
  | [sign, h, h', ':', m, m'] => (sign = '+' || sign = '-') && twoDigits 0 23 h h' &&
    twoDigits 0 59 m m'
  | _ => false

/-- The part behind the seconds: milliseconds if any, and a time zone. -/
private def isFractionAndZone : List Char → Bool
  | '.' :: a :: b :: c :: zone => a.isDigit && b.isDigit && c.isDigit && isZone zone
  | zone => isZone zone

/-- The date-time format of the language, `YYYY-MM-DDTHH:mm:ss.sssZ`, with the milliseconds left
out or not. It is the RFC 3339 format, for times in whole seconds or milliseconds. -/
def isDateTime (text : String) : Bool :=
  match text.toList with
  | y :: y' :: y'' :: y''' :: '-' :: m :: m' :: '-' :: d :: d' :: 'T' :: h :: h' :: ':' ::
      n :: n' :: ':' :: s :: s' :: rest =>
    [y, y', y'', y'''].all Char.isDigit && twoDigits 1 12 m m' && twoDigits 1 31 d d' &&
      twoDigits 0 23 h h' && twoDigits 0 59 n n' && twoDigits 0 59 s s' && isFractionAndZone rest
  | _ => false

example : isDateTime "2026-09-27T23:40:00Z" = true := by decide

end Js
