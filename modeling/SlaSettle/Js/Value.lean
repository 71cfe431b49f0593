import SlaSettle.Js.Number

/-!
# JavaScript values as the contract SDK decodes them

`JsValue` has one constructor for each kind of native value that `scValToNative` can return, and
`toText`, `toNumber` and `getField` are the conversions and the property access that the modelled
code applies to them: `String(value)`, `Number(value)` and `value.name`.

Numbers are the 32-bit integers of the wire format; 64-bit and wider integers arrive as
`bigint`. A byte array is a `Buffer`, whose text is its lossy UTF-8 decoding.

`Thrown` is what a `throw` may carry. Anything may be thrown in JavaScript; what the modelled
code looks at is whether it is an `Error`, and its message.
-/

namespace Js

/-- A value thrown by JavaScript code: an `Error` with its message, or anything else. -/
inductive Thrown where
  | error (message : String)
  | other
  deriving DecidableEq

/-- A sequence succeeds exactly when both of its parts do. -/
theorem bind_eq_ok_iff {ε α β : Type} {x : Except ε α} {f : α → Except ε β} {b : β} :
    x >>= f = .ok b ↔ ∃ a, x = .ok a ∧ f a = .ok b := by
  cases x with
  | error e => simp [bind, Except.bind]
  | ok a => simp [bind, Except.bind]

theorem pure_eq_ok_iff {ε α : Type} {a b : α} : (pure a : Except ε α) = .ok b ↔ a = b := by
  simp [pure, Except.pure]

/-- A native value. -/
inductive JsValue where
  | undefined
  | null
  | bool (b : Bool)
  | number (n : ℤ)
  | bigint (n : ℤ)
  | string (s : String)
  | bytes (b : List UInt8)
  | array (items : List JsValue)
  | object (fields : List (String × JsValue))

/-! ### Lossy UTF-8 -/

/-- The state of the UTF-8 decoder inside a sequence: the code point read so far, how many
continuation bytes are missing, and the range the next one must fall in. -/
structure Utf8State where
  codePoint : ℕ
  missing : ℕ
  lower : ℕ
  upper : ℕ

/-- The replacement character. -/
def replacement : Char := Char.ofNat 0xFFFD

/-- The decoder outside a sequence: a character, the start of a sequence, or an error. -/
def utf8Start (b : ℕ) : List Char × Option Utf8State :=
  if b ≤ 0x7F then ([Char.ofNat b], none)
  else if 0xC2 ≤ b ∧ b ≤ 0xDF then ([], some ⟨b % 0x20, 1, 0x80, 0xBF⟩)
  else if 0xE0 ≤ b ∧ b ≤ 0xEF then
    ([], some ⟨b % 0x10, 2, if b = 0xE0 then 0xA0 else 0x80, if b = 0xED then 0x9F else 0xBF⟩)
  else if 0xF0 ≤ b ∧ b ≤ 0xF4 then
    ([], some ⟨b % 0x08, 3, if b = 0xF0 then 0x90 else 0x80, if b = 0xF4 then 0x8F else 0xBF⟩)
  else ([replacement], none)

/-- One byte of the decoder. A byte that cannot continue the sequence ends it with a replacement
character and is read again outside it. -/
def utf8Step (state : Option Utf8State) (b : ℕ) : List Char × Option Utf8State :=
  match state with
  | none => utf8Start b
  | some st =>
    if st.lower ≤ b ∧ b ≤ st.upper then
      let codePoint := st.codePoint * 0x40 + b % 0x40
      if st.missing = 1 then ([Char.ofNat codePoint], none)
      else ([], some ⟨codePoint, st.missing - 1, 0x80, 0xBF⟩)
    else
      let (out, next) := utf8Start b
      (replacement :: out, next)

/-- The characters of a byte array, undecodable parts replaced. -/
def utf8Decode : Option Utf8State → List UInt8 → List Char
  | none, [] => []
  | some _, [] => [replacement]
  | state, b :: bs =>
    let (out, next) := utf8Step state b.toNat
    out ++ utf8Decode next bs

namespace JsValue

/-! ### Conversions -/

mutual

/-- `String(value)`. -/
def toText : JsValue → String
  | undefined => "undefined"
  | null => "null"
  | bool b => if b then "true" else "false"
  | number n => toString n
  | bigint n => toString n
  | string s => s
  | bytes b => String.ofList (utf8Decode none b)
  | array items => ",".intercalate (itemTexts items)
  | object _ => "[object Object]"

/-- The texts an array joins: an absent element contributes nothing. -/
def itemTexts : List JsValue → List String
  | [] => []
  | undefined :: items | null :: items => "" :: itemTexts items
  | item :: items => toText item :: itemTexts items

end

/-- `Number(value)`. Composite values are converted through their text. -/
def toNumber : JsValue → JsNumber
  | undefined => .nan
  | null => 0
  | bool b => if b then 1 else 0
  | number n => .finite n
  | bigint n => .toDouble n
  | string s => .ofText s
  | value => .ofText value.toText

/-- `value.name`, for a name that no built-in prototype defines: reading a property of
`undefined` or `null` throws, and a missing property reads as `undefined`. -/
def getField (value : JsValue) (name : String) : Except Thrown JsValue :=
  match value with
  | undefined | null =>
    .error (.error s!"Cannot read properties of {value.toText} (reading '{name}')")
  | object fields => .ok ((fields.lookup name).getD undefined)
  | _ => .ok undefined

/-- `values[i]`, for an array of values. -/
def element (values : List JsValue) (i : ℕ) : JsValue := values[i]?.getD undefined

@[simp]
theorem getField_object (fields : List (String × JsValue)) (name : String) :
    (object fields).getField name = .ok ((fields.lookup name).getD undefined) := rfl

end JsValue

/-! ### Decimal text -/

/-- Different numbers have different decimal texts. -/
theorem toString_nat_inj {m n : ℕ} : toString m = toString n ↔ m = n := by
  constructor
  · intro h
    have hdigits : Nat.toDigits 10 m = Nat.toDigits 10 n := by
      rw [← Nat.toList_repr, ← Nat.toList_repr]
      exact congrArg String.toList h
    calc m = Nat.ofDigitChars 10 (Nat.toDigits 10 m) 0 := Nat.ofDigitChars_ten_toDigits.symm
      _ = Nat.ofDigitChars 10 (Nat.toDigits 10 n) 0 := by rw [hdigits]
      _ = n := Nat.ofDigitChars_ten_toDigits
  · rintro rfl
    rfl

end Js
