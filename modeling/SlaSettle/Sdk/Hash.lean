import SlaSettle.Js.Regex
import SlaSettle.Sdk.Validate

/-!
# Endpoint commitments in the SDK

`packages/sdk/src/hash.ts`: an endpoint is committed to as the SHA-256 of a domain prefix and the
endpoint, in UTF-8, with leading and trailing ASCII white space removed, if that is an absolute
`http` or `https` URL.
-/

namespace SlaSettle

namespace Sdk

open Js

/-! ### Trimming -/

/-- The class of `ASCII_WHITESPACE`. -/
def isAsciiWhitespace (u : UInt16) : Bool := u ∈ units " \t\n\r\x0c\x0b"

/-- `ASCII_WHITESPACE`. -/
def asciiWhitespace : Regex UInt16 := .trimEnds isAsciiWhitespace

def trimEndpointInput (endpoint : JsString) : JsString := asciiWhitespace.removeAll endpoint

/-! ### Validation and hashing -/

def validateEndpointUrl (lib : SdkLib) (endpoint : JsString) (field : String) :
    Except InvalidSdkInputError Unit :=
  if endpoint.length = 0 then .error ⟨field, "must not be empty after trimming whitespace."⟩
  else if !(units "http://").isPrefixOf endpoint && !(units "https://").isPrefixOf endpoint then
    .error ⟨field, "must begin with http:// or https://."⟩
  else
    match lib.urlHost endpoint with
    | none => .error ⟨field, "is not a valid absolute URL."⟩
    | some host =>
      if host.length = 0 then .error ⟨field, "must include a host."⟩ else .ok ()

/-- `ENDPOINT_HASH_DOMAIN_PREFIX`. -/
def endpointHashDomainPrefix : String := "slasettle:endpoint:v1:"

def computeEndpointHash (lib : SdkLib) (endpoint : JsString) (field : String) :
    Except InvalidSdkInputError (List UInt8) := do
  let trimmed := trimEndpointInput endpoint
  validateEndpointUrl lib trimmed field
  return (lib.sha256 (utf8 (units endpointHashDomainPrefix ++ trimmed))).val

/-- What validation accepts. -/
theorem validateEndpointUrl_eq_ok_iff {lib : SdkLib} {endpoint : JsString} {field : String} :
    validateEndpointUrl lib endpoint field = .ok () ↔
      endpoint ≠ [] ∧ (units "http://" <+: endpoint ∨ units "https://" <+: endpoint) ∧
        ∃ host, lib.urlHost endpoint = some host ∧ host ≠ [] := by
  unfold validateEndpointUrl
  simp only [List.length_eq_zero_iff]
  by_cases hempty : endpoint = []
  · simp [hempty]
  rw [if_neg hempty]
  have hscheme : (!(units "http://").isPrefixOf endpoint &&
      !(units "https://").isPrefixOf endpoint) = false ↔
      units "http://" <+: endpoint ∨ units "https://" <+: endpoint := by
    rw [← Bool.not_or, Bool.not_eq_false', Bool.or_eq_true, List.isPrefixOf_iff_prefix,
      List.isPrefixOf_iff_prefix]
  split_ifs with hother
  · have hnone : ¬ (units "http://" <+: endpoint ∨ units "https://" <+: endpoint) := by
      intro h
      rw [hscheme.mpr h] at hother
      exact Bool.false_ne_true hother
    simp [hnone]
  · have hsome := hscheme.mp (eq_false_of_ne_true hother)
    cases lib.urlHost endpoint with
    | none => simp
    | some host => by_cases hhost : host = [] <;> simp [hempty, hsome, hhost]

/-- The hash of an endpoint is that of its trimmed form, which must be valid. -/
theorem computeEndpointHash_eq_ok_iff {lib : SdkLib} {endpoint : JsString} {field : String}
    {hash : List UInt8} :
    computeEndpointHash lib endpoint field = .ok hash ↔
      validateEndpointUrl lib (trimEndpointInput endpoint) field = .ok () ∧
        hash = (lib.sha256
          (utf8 (units endpointHashDomainPrefix ++ trimEndpointInput endpoint))).val := by
  rw [computeEndpointHash]
  cases validateEndpointUrl lib (trimEndpointInput endpoint) field with
  | error err => simp [bind, Except.bind]
  | ok u => simp [bind, Except.bind, pure, Except.pure, eq_comm]

end Sdk

end SlaSettle
