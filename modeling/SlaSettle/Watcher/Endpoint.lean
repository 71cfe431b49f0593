import Mathlib.Data.List.Basic

/-!
# Endpoint commitments

`internal/endpoint`: an endpoint is committed to as the SHA-256 of a domain prefix and the endpoint
with leading and trailing ASCII white space removed, if that is an absolute `http` or `https` URL.

A Go string is a list of bytes. What the standard library's `url.Parse` and `sha256.Sum256` compute
is left open: they are any two functions (`GoLib`).
-/

namespace SlaSettle

namespace Watcher

/-- A Go string. -/
abbrev GoString : Type := List UInt8

/-- A string literal. -/
def bytes (s : String) : GoString := s.toUTF8.data.toList

/-- Thirty-two bytes. -/
abbrev Hash : Type := { b : List UInt8 // b.length = 32 }

/-- A parsed URL, as far as this program looks into it. -/
structure URL where
  host : GoString

/-- The library functions that are left open. -/
structure GoLib where
  /-- `url.Parse` -/
  parseURL : GoString → Except GoString URL
  /-- `sha256.Sum256` -/
  sum256 : GoString → Hash
  /-- Whether `strkey.Decode` accepts a contract id. -/
  isContractID : GoString → Bool

/-! ### Trimming -/

/-- `asciiWhitespace`: space, tab, line feed, carriage return, form feed, vertical tab. -/
def asciiWhitespace : List UInt8 := [0x20, 0x09, 0x0A, 0x0D, 0x0C, 0x0B]

/-- `strings.Trim`, for a set of ASCII characters. -/
def trimSet (cutset : List UInt8) (s : GoString) : GoString :=
  ((s.dropWhile (· ∈ cutset)).reverse.dropWhile (· ∈ cutset)).reverse

def trimEndpointInput (endpoint : GoString) : GoString := trimSet asciiWhitespace endpoint

/-! ### Validation and hashing -/

inductive EndpointError where
  | empty
  | scheme
  | notURL (err : GoString)
  | noHost
  deriving DecidableEq

def EndpointError.message : EndpointError → GoString
  | empty => bytes "endpoint must not be empty after trimming whitespace"
  | scheme => bytes "endpoint must begin with http:// or https://"
  | notURL err => bytes "endpoint is not a valid URL: " ++ err
  | noHost => bytes "endpoint must include a host"

def validateEndpointURL (lib : GoLib) (endpoint : GoString) : Except EndpointError Unit :=
  if endpoint = [] then .error .empty
  else if !(bytes "http://").isPrefixOf endpoint && !(bytes "https://").isPrefixOf endpoint then
    .error .scheme
  else
    match lib.parseURL endpoint with
    | .error err => .error (.notURL err)
    | .ok u => if u.host = [] then .error .noHost else .ok ()

def domainPrefix : GoString := bytes "slasettle:endpoint:v1:"

def computeEndpointHash (lib : GoLib) (rawEndpoint : GoString) : Except EndpointError Hash :=
  let trimmed := trimEndpointInput rawEndpoint
  match validateEndpointURL lib trimmed with
  | .error err => .error err
  | .ok () => .ok (lib.sum256 (domainPrefix ++ trimmed))

/-- What validation accepts. -/
theorem validateEndpointURL_eq_ok_iff {lib : GoLib} {endpoint : GoString} :
    validateEndpointURL lib endpoint = .ok () ↔
      endpoint ≠ [] ∧ (bytes "http://" <+: endpoint ∨ bytes "https://" <+: endpoint) ∧
        ∃ u, lib.parseURL endpoint = .ok u ∧ u.host ≠ [] := by
  unfold validateEndpointURL
  by_cases hempty : endpoint = []
  · simp [hempty]
  by_cases hscheme : bytes "http://" <+: endpoint ∨ bytes "https://" <+: endpoint
  · have hprefix : (!(bytes "http://").isPrefixOf endpoint &&
        !(bytes "https://").isPrefixOf endpoint) = false := by
      rw [← Bool.not_or, Bool.not_eq_false', Bool.or_eq_true, List.isPrefixOf_iff_prefix,
        List.isPrefixOf_iff_prefix]
      exact hscheme
    rw [if_neg hempty, hprefix, if_neg Bool.false_ne_true]
    cases lib.parseURL endpoint with
    | error err => simp
    | ok u => by_cases hhost : u.host = [] <;> simp [hempty, hscheme, hhost]
  · have hprefix : (!(bytes "http://").isPrefixOf endpoint &&
        !(bytes "https://").isPrefixOf endpoint) = true := by
      rw [← Bool.not_or, Bool.not_eq_true', ← Bool.not_eq_true, Bool.or_eq_true,
        List.isPrefixOf_iff_prefix, List.isPrefixOf_iff_prefix]
      exact hscheme
    rw [if_neg hempty, hprefix, if_pos rfl]
    simp [hscheme]

/-- The hash of an endpoint is that of its trimmed form, which must be valid. -/
theorem computeEndpointHash_eq_ok_iff {lib : GoLib} {rawEndpoint : GoString} {hash : Hash} :
    computeEndpointHash lib rawEndpoint = .ok hash ↔
      validateEndpointURL lib (trimEndpointInput rawEndpoint) = .ok () ∧
        hash = lib.sum256 (domainPrefix ++ trimEndpointInput rawEndpoint) := by
  rw [computeEndpointHash]
  cases validateEndpointURL lib (trimEndpointInput rawEndpoint) with
  | error err => simp
  | ok u => simp [eq_comm]

/-- An endpoint that has a hash parses once it is trimmed. -/
theorem parseURL_of_computeEndpointHash {lib : GoLib} {rawEndpoint : GoString} {hash : Hash}
    (h : computeEndpointHash lib rawEndpoint = .ok hash) :
    ∃ u, lib.parseURL (trimEndpointInput rawEndpoint) = .ok u := by
  obtain ⟨hvalid, -⟩ := computeEndpointHash_eq_ok_iff.mp h
  obtain ⟨-, -, u, hparse, -⟩ := validateEndpointURL_eq_ok_iff.mp hvalid
  exact ⟨u, hparse⟩

end Watcher

end SlaSettle
