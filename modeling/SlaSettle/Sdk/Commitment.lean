import SlaSettle.Sdk.Hash
import SlaSettle.Watcher.Endpoint

/-!
# The two commitments of an endpoint

The SDK computes the commitment that a provider publishes, and the watcher the one it compares with
it (`Watcher.computeEndpointHash`). One trims code units with a pattern, the other bytes with a set
of characters. For a string without lone surrogates both remove the same white space, the ASCII
white space at its ends, and the two preimages are the same bytes: `commitments_agree`.
-/

namespace SlaSettle

namespace Sdk

open Js Text

/-! ### The class of characters -/

/-- The codes of the six characters. -/
private def isWhitespaceCode (n : ℕ) : Bool := n ∈ [0x20, 0x09, 0x0A, 0x0D, 0x0C, 0x0B]

private theorem isWhitespaceCode_lt (n : ℕ) (h : isWhitespaceCode n = true) : n < 0x80 := by
  rw [isWhitespaceCode, decide_eq_true_eq] at h
  simp only [List.mem_cons, List.not_mem_nil, or_false] at h
  omega

private theorem isAsciiWhitespace_eq :
    isAsciiWhitespace = fun u => isWhitespaceCode u.toNat := by
  funext u
  have hunits : units " \t\n\r\x0c\x0b" = [0x20, 0x09, 0x0A, 0x0D, 0x0C, 0x0B] := by decide
  rw [isAsciiWhitespace, isWhitespaceCode, hunits]
  simp [← UInt16.toNat_inj]

private theorem mem_asciiWhitespace_eq :
    (fun b => decide (b ∈ Watcher.asciiWhitespace)) =
      fun b : UInt8 => isWhitespaceCode b.toNat := by
  funext b
  rw [Watcher.asciiWhitespace, isWhitespaceCode]
  simp [← UInt8.toNat_inj]

/-! ### Trimming -/

theorem trimEndpointInput_eq (s : JsString) : trimEndpointInput s = trim isAsciiWhitespace s :=
  Regex.removeAll_trimEnds s

theorem watcher_trimEndpointInput_eq (s : Watcher.GoString) :
    Watcher.trimEndpointInput s = trim (· ∈ Watcher.asciiWhitespace) s := rfl

/-- Both trim the same characters. -/
theorem utf8_trimEndpointInput {s : JsString} (hs : isWellFormed s = true) :
    utf8 (trimEndpointInput s) = Watcher.trimEndpointInput (utf8 s) := by
  rw [trimEndpointInput_eq, watcher_trimEndpointInput_eq, isAsciiWhitespace_eq,
    mem_asciiWhitespace_eq]
  exact utf8_trim isWhitespaceCode_lt hs

/-- What is removed is ASCII white space at the ends, and all of it. -/
theorem exists_append_trimEndpointInput (s : JsString) :
    (∃ front back, s = front ++ trimEndpointInput s ++ back ∧
      ∀ u ∈ front ++ back, isAsciiWhitespace u = true) ∧
      ∀ u, (trimEndpointInput s).head? = some u ∨ (trimEndpointInput s).getLast? = some u →
        isAsciiWhitespace u = false := by
  rw [trimEndpointInput_eq]
  refine ⟨exists_append_trim isAsciiWhitespace s, fun u hu => ?_⟩
  rcases hu with hhead | hlast
  · exact head?_trim hhead
  · exact getLast?_trim hlast

theorem trimEndpointInput_trimEndpointInput (s : JsString) :
    trimEndpointInput (trimEndpointInput s) = trimEndpointInput s := by
  rw [trimEndpointInput_eq, trimEndpointInput_eq, trim_trim]

theorem watcher_trimEndpointInput_trimEndpointInput (s : Watcher.GoString) :
    Watcher.trimEndpointInput (Watcher.trimEndpointInput s) = Watcher.trimEndpointInput s := by
  rw [watcher_trimEndpointInput_eq, watcher_trimEndpointInput_eq, trim_trim]

/-! ### Hashing -/

/-- The bytes of a string literal are the encoding of its code units. -/
theorem bytes_eq_utf8 (text : String) : Watcher.bytes text = utf8 (units text) := by
  have hbytes : text.toUTF8 = (text.toList.flatMap String.utf8EncodeChar).toByteArray := by
    rw [String.toUTF8_eq_toByteArray, ← String.utf8Encode_toList, List.utf8Encode]
  rw [Watcher.bytes, hbytes, List.toList_data_toByteArray, units, utf8_utf16]

/-- Both hash the same bytes. -/
theorem utf8_preimage {s : JsString} (hs : isWellFormed s = true) :
    utf8 (units endpointHashDomainPrefix ++ trimEndpointInput s) =
      Watcher.domainPrefix ++ Watcher.trimEndpointInput (utf8 s) := by
  have hprefix : Watcher.domainPrefix =
      endpointHashDomainPrefix.toList.flatMap String.utf8EncodeChar := by
    rw [Watcher.domainPrefix, bytes_eq_utf8, units, utf8_utf16, endpointHashDomainPrefix]
  rw [units, utf8_utf16_append, utf8_trimEndpointInput hs, hprefix]

theorem digest_eq {lib : SdkLib} {goLib : Watcher.GoLib} {s : JsString} {field : String}
    {digest : List UInt8} {hash : Watcher.Hash} (hs : isWellFormed s = true)
    (hshared : ∀ b, lib.sha256 b = goLib.sum256 b)
    (hsdk : computeEndpointHash lib s field = .ok digest)
    (hwatcher : Watcher.computeEndpointHash goLib (utf8 s) = .ok hash) : digest = hash.val := by
  obtain ⟨-, hdigest⟩ := computeEndpointHash_eq_ok_iff.mp hsdk
  obtain ⟨-, hhash⟩ := Watcher.computeEndpointHash_eq_ok_iff.mp hwatcher
  calc digest = (lib.sha256 (utf8 (units endpointHashDomainPrefix ++ trimEndpointInput s))).val :=
      hdigest
    _ = (lib.sha256 (Watcher.domainPrefix ++ Watcher.trimEndpointInput (utf8 s))).val := by
      rw [utf8_preimage hs]
    _ = hash.val := by rw [hshared, hhash]

/-- **The commitments agree.** For a string without lone surrogates, the SDK's trimming is the
watcher's, in UTF-8. It is idempotent and removes nothing but ASCII white space at the two ends. If
both sides compute a hash, with one hash function, then they compute the same. -/
theorem commitments_agree {s : JsString} (hs : isWellFormed s = true) :
    utf8 (trimEndpointInput s) = Watcher.trimEndpointInput (utf8 s) ∧
      trimEndpointInput (trimEndpointInput s) = trimEndpointInput s ∧
      Watcher.trimEndpointInput (Watcher.trimEndpointInput (utf8 s)) =
        Watcher.trimEndpointInput (utf8 s) ∧
      (∃ front back, s = front ++ trimEndpointInput s ++ back ∧
        ∀ u ∈ front ++ back, isAsciiWhitespace u = true) ∧
      (∀ u, (trimEndpointInput s).head? = some u ∨ (trimEndpointInput s).getLast? = some u →
        isAsciiWhitespace u = false) ∧
      ∀ (lib : SdkLib) (goLib : Watcher.GoLib), (∀ b, lib.sha256 b = goLib.sum256 b) →
        ∀ field digest hash, computeEndpointHash lib s field = .ok digest →
          Watcher.computeEndpointHash goLib (utf8 s) = .ok hash → digest = hash.val := by
  obtain ⟨hparts, hends⟩ := exists_append_trimEndpointInput s
  refine ⟨utf8_trimEndpointInput hs, trimEndpointInput_trimEndpointInput s,
    watcher_trimEndpointInput_trimEndpointInput (utf8 s), hparts, hends, ?_⟩
  intro lib goLib hshared field digest hash hsdk hwatcher
  exact digest_eq hs hshared hsdk hwatcher

/-! ### An endpoint beside white space of both kinds -/

/-- A tab and a space in front, a no-break space and a line feed behind. -/
private def padded : JsString := units "\t https://api.example.com/\u00E9\u00A0\n"

/-- The SHA-256 of the preimage. -/
private def paddedDigest : Watcher.Hash :=
  ⟨[248, 199, 93, 215, 244, 61, 210, 214, 219, 102, 57, 187, 128, 81, 118, 40, 233, 137, 209, 227,
    20, 13, 78, 97, 69, 121, 60, 99, 5, 145, 65, 143], by decide⟩

private def sdkLib : SdkLib where
  urlHost _ := some (units "api.example.com")
  sha256 _ := paddedDigest
  isValidEd25519PublicKey _ := false
  isValidContract _ := false

private def goLib : Watcher.GoLib where
  parseURL _ := .ok ⟨Watcher.bytes "api.example.com"⟩
  sum256 _ := paddedDigest
  isContractID _ := false

/-- The no-break space is hashed, and the hashes agree. -/
theorem commitments_agree_padded :
    isWellFormed padded = true ∧
      trimEndpointInput padded = units "https://api.example.com/\u00E9\u00A0" ∧
      utf8 (trimEndpointInput padded) = Watcher.trimEndpointInput (utf8 padded) ∧
      computeEndpointHash sdkLib padded "endpoint" = .ok paddedDigest.val ∧
      Watcher.computeEndpointHash goLib (utf8 padded) = .ok paddedDigest ∧
      ∀ digest hash, computeEndpointHash sdkLib padded "endpoint" = .ok digest →
        Watcher.computeEndpointHash goLib (utf8 padded) = .ok hash → digest = hash.val := by
  have hs : isWellFormed padded = true := by decide
  obtain ⟨htrim, -, -, -, -, hdigest⟩ := commitments_agree hs
  refine ⟨hs, by decide, htrim, by decide, by decide, ?_⟩
  exact fun digest hash => hdigest sdkLib goLib (fun b => rfl) "endpoint" digest hash

end Sdk

end SlaSettle
