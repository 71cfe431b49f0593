import SlaSettle.Js.Number
import SlaSettle.Js.Utf16

/-!
# Checked parameters

`packages/sdk/src/validate.ts`: values that the contracts would reject are turned away before any
call is made.

What the `URL` constructor, `sha256` and the checks of `StrKey` compute is left open: they are any
functions (`SdkLib`).
-/

namespace SlaSettle

namespace Sdk

open Js

/-- The library functions that are left open. -/
structure SdkLib where
  /-- The host of `new URL(…)`; none where the constructor throws. -/
  urlHost : JsString → Option JsString
  /-- `sha256` -/
  sha256 : List UInt8 → { b : List UInt8 // b.length = 32 }
  /-- `StrKey.isValidEd25519PublicKey` -/
  isValidEd25519PublicKey : JsString → Bool
  /-- `StrKey.isValidContract` -/
  isValidContract : JsString → Bool

/-- The error, without the field in front of its message. -/
structure InvalidSdkInputError where
  field : String
  reason : String
  deriving DecidableEq

def InvalidSdkInputError.message (e : InvalidSdkInputError) : String := s!"{e.field}: {e.reason}"

def maxI128 : ℤ := 2 ^ 127 - 1

def maxU32 : ℕ := 0xffff_ffff

def maxBps : ℕ := 10000

def assertAddress (lib : SdkLib) (value : JsString) (field : String) :
    Except InvalidSdkInputError Unit :=
  if !lib.isValidEd25519PublicKey value && !lib.isValidContract value then
    .error ⟨field, "is not a valid Stellar address (expected G... or C...)."⟩
  else .ok ()

def assertContractId (lib : SdkLib) (value : JsString) (field : String) :
    Except InvalidSdkInputError Unit :=
  if !lib.isValidContract value then
    .error ⟨field, "is not a valid contract ID (expected C...)."⟩
  else .ok ()

def assertPositiveAmount (value : ℤ) (field : String) : Except InvalidSdkInputError Unit :=
  if value ≤ 0 then .error ⟨field, "must be greater than zero."⟩
  else if maxI128 < value then .error ⟨field, "exceeds the maximum i128 value."⟩
  else .ok ()

def assertU32 (value : JsNumber) (field : String) (min max : ℕ) :
    Except InvalidSdkInputError Unit :=
  if !value.isInteger || value.lt min || JsNumber.lt max value then
    .error ⟨field, s!"must be a whole number between {min} and {max}."⟩
  else .ok ()

/-! ### What passes -/

section

variable {field : String}

/-- Every error names the field it is about. -/
theorem field_of_assert_eq_error {lib : SdkLib} {value : JsString} {amount : ℤ} {number : JsNumber}
    {min max : ℕ} {e : InvalidSdkInputError}
    (h : assertAddress lib value field = .error e ∨ assertContractId lib value field = .error e ∨
      assertPositiveAmount amount field = .error e ∨ assertU32 number field min max = .error e) :
    e.field = field := by
  rcases h with h | h | h | h
  · rw [assertAddress] at h
    split_ifs at h
    rw [← Except.error.inj h]
  · rw [assertContractId] at h
    split_ifs at h
    rw [← Except.error.inj h]
  · rw [assertPositiveAmount] at h
    split_ifs at h <;> rw [← Except.error.inj h]
  · rw [assertU32] at h
    split_ifs at h
    rw [← Except.error.inj h]

theorem assertAddress_eq_ok {lib : SdkLib} {value : JsString}
    (h : lib.isValidEd25519PublicKey value = true ∨ lib.isValidContract value = true) :
    assertAddress lib value field = .ok () := by
  rw [assertAddress, if_neg]
  rcases h with h | h
  · simp [h]
  · simp [h]

theorem assertContractId_eq_ok {lib : SdkLib} {value : JsString}
    (h : lib.isValidContract value = true) : assertContractId lib value field = .ok () := by
  rw [assertContractId, if_neg]
  simp [h]

theorem assertPositiveAmount_eq_ok {value : ℤ} (hpos : 0 < value) (hmax : value ≤ maxI128) :
    assertPositiveAmount value field = .ok () := by
  rw [assertPositiveAmount, if_neg (not_le.mpr hpos), if_neg (not_lt.mpr hmax)]

theorem assertU32_eq_ok {n min max : ℕ} (hmin : min ≤ n) (hmax : n ≤ max) :
    assertU32 n field min max = .ok () := by
  have hinteger : JsNumber.isInteger (n : JsNumber) = true := decide_eq_true (Rat.den_natCast n)
  have hlow : JsNumber.lt (n : JsNumber) min = false := by
    refine eq_false_of_ne_true fun h => ?_
    exact absurd (JsNumber.lt_natCast_iff.mp h) (not_lt.mpr hmin)
  have hhigh : JsNumber.lt (max : JsNumber) n = false := by
    refine eq_false_of_ne_true fun h => ?_
    exact absurd (JsNumber.lt_natCast_iff.mp h) (not_lt.mpr hmax)
  rw [assertU32, hinteger, hlow, hhigh]
  rfl

end

end Sdk

end SlaSettle
