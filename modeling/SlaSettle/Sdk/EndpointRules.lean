import SlaSettle.Sdk.Commitment
import SlaSettle.Url.NetUrl
import SlaSettle.Url.Whatwg

/-!
# Which endpoints are valid

The SDK validates an endpoint with the `URL` constructor, the watcher with `url.Parse`. The two
follow different rules (`Whatwg.host`, `NetUrl.host`), and behind the same check of the scheme they
accept different endpoints: ports above 65535 and empty hosts pass the watcher only, additional
slashes, control characters and malformed escapes the SDK only. `endpoints_accepted_alike_iff` says
for which endpoints the difference does not show.
-/

namespace SlaSettle

namespace Sdk

open Js Url

open Watcher (bytes GoLib)

/-! ### The two parsers -/

def IsHttp (s : JsString) : Prop := units "http://" <+: s ∨ units "https://" <+: s

/-- The `URL` constructor follows the URL standard. -/
def FollowsUrlStandard (lib : SdkLib) (hosts : Whatwg.HostParser) : Prop :=
  ∀ s, IsHttp s → lib.urlHost s = (Whatwg.host hosts (scalars s)).map utf16

/-- `url.Parse` follows the rules of `net/url`. -/
def FollowsNetUrl (lib : GoLib) (ips : NetUrl.IPLiterals) : Prop :=
  ∀ s, bytes "http://" <+: s ∨ bytes "https://" <+: s →
    ∀ h, (∃ u, lib.parseURL s = .ok u ∧ u.host = h) ↔ NetUrl.host ips s = some h

/-! ### What each side accepts -/

/-- The two check the same scheme. -/
theorem isHttp_iff {s : JsString} :
    IsHttp s ↔ bytes "http://" <+: utf8 s ∨ bytes "https://" <+: utf8 s := by
  have hliteral : ∀ text : String, text.toList.all (·.toNat < 0x80) = true →
      (bytes text <+: utf8 s ↔ units text <+: s) := by
    intro text htext
    rw [bytes_eq_utf8, units, utf8_utf16]
    exact utf16_prefix_iff fun c hc => of_decide_eq_true (List.all_eq_true.mp htext c hc)
  rw [IsHttp, hliteral "http://" (by decide), hliteral "https://" (by decide)]

theorem IsHttp.ne_nil {s : JsString} (h : IsHttp s) : s ≠ [] := by
  rintro rfl
  rcases h with h | h <;> exact absurd (List.prefix_nil.mp h) (by decide)

theorem utf16_ne_nil {text : List Char} (h : text ≠ []) : utf16 text ≠ [] := by
  intro hnil
  have hread := scalars_utf16 text
  rw [hnil] at hread
  exact h hread.symm

section

variable {lib : SdkLib} {goLib : GoLib} {hosts : Whatwg.HostParser} {ips : NetUrl.IPLiterals}
  {s : JsString} {field : String}

theorem validateEndpointUrl_iff (hlib : FollowsUrlStandard lib hosts) :
    validateEndpointUrl lib s field = .ok () ↔
      IsHttp s ∧ Whatwg.IsHostPort hosts (Whatwg.hostPort (scalars s)) := by
  rw [validateEndpointUrl_eq_ok_iff, ← Whatwg.exists_host_iff]
  constructor
  · rintro ⟨-, hhttp, host, hurl, -⟩
    rw [hlib s hhttp, Option.map_eq_some_iff] at hurl
    obtain ⟨h, hhost, -⟩ := hurl
    exact ⟨hhttp, h, hhost⟩
  · rintro ⟨hhttp, h, hhost⟩
    refine ⟨hhttp.ne_nil, hhttp, utf16 h, ?_, utf16_ne_nil (Whatwg.host_ne_nil hhost)⟩
    rw [hlib s hhttp, hhost, Option.map_some]

theorem validateEndpointURL_iff (hgo : FollowsNetUrl goLib ips) :
    Watcher.validateEndpointURL goLib (utf8 s) = .ok () ↔
      IsHttp s ∧ NetUrl.KeepsRules ips (utf8 s) := by
  rw [Watcher.validateEndpointURL_eq_ok_iff, ← NetUrl.exists_host_iff, ← isHttp_iff]
  constructor
  · rintro ⟨-, hhttp, u, hparse, hne⟩
    exact ⟨hhttp, u.host, (hgo _ (isHttp_iff.mp hhttp) u.host).mp ⟨u, hparse, rfl⟩, hne⟩
  · rintro ⟨hhttp, h, hhost, hne⟩
    obtain ⟨u, hparse, rfl⟩ := (hgo _ (isHttp_iff.mp hhttp) h).mpr hhost
    refine ⟨?_, hhttp, u, hparse, hne⟩
    intro hnil
    have hprefix := isHttp_iff.mp hhttp
    rw [hnil] at hprefix
    rcases hprefix with h | h <;> exact absurd (List.prefix_nil.mp h) (by decide)

end

/-! ### The authority as it is written -/

def isAuthorityEnd (c : Char) : Bool := c = '/' || c = '?' || c = '#'

/-- What is between the two slashes behind the scheme and the next `/`, `?` or `#`. -/
def writtenAuthority (text : List Char) : List Char :=
  ((text.dropWhile (· ≠ ':')).drop 3).takeWhile (!isAuthorityEnd ·)

/-- The host and the port in it, behind the credentials. -/
def writtenHostPort (text : List Char) : List Char := (writtenAuthority text).rtakeWhile (· ≠ '@')

/-- The codes of the three characters. -/
private def isEndCode (n : ℕ) : Bool := n ∈ [0x2F, 0x3F, 0x23]

private theorem isEndCode_lt (n : ℕ) (h : isEndCode n = true) : n < 0x80 := by
  rw [isEndCode, decide_eq_true_eq] at h
  simp only [List.mem_cons, List.not_mem_nil, or_false] at h
  omega

private theorem isAuthorityEnd_eq (c : Char) : isAuthorityEnd c = isEndCode c.toNat := by
  rw [isAuthorityEnd, isEndCode]
  simp only [← Char.toNat_inj, List.mem_cons, List.not_mem_nil, or_false, Bool.decide_or,
    ← Bool.or_assoc]
  rfl

private theorem endsAuthority_eq (b : UInt8) : NetUrl.endsAuthority b = isEndCode b.toNat := by
  rw [NetUrl.endsAuthority, isEndCode]
  simp only [← UInt8.toNat_inj, List.mem_cons, List.not_mem_nil, or_false, Bool.decide_or,
    ← Bool.or_assoc]
  rfl

theorem writtenAuthority_append {text rest : List Char}
    (htext : text = "http://".toList ∨ text = "https://".toList) :
    writtenAuthority (text ++ rest) = rest.takeWhile (!isAuthorityEnd ·) := by
  rcases htext with rfl | rfl <;> rfl

/-- The watcher's authority is the written one, in UTF-8. -/
theorem authority_utf8 {text : List Char} {s : JsString}
    (htext : text = "http://".toList ∨ text = "https://".toList) :
    NetUrl.authority (utf8 (utf16 text ++ s)) =
      (writtenAuthority (text ++ scalars s)).flatMap String.utf8EncodeChar := by
  have hbytes : NetUrl.authority (utf8 (utf16 text ++ s)) =
      (utf8 s).takeWhile (!NetUrl.endsAuthority ·) := by
    rw [utf8_utf16_append]
    exact NetUrl.authority_append (by rcases htext with rfl | rfl <;> decide)
  have hkept := (keepsApart_utf8EncodeChar isEndCode_lt).not fun c => String.utf8EncodeChar_ne_nil
  rw [hbytes, writtenAuthority_append htext, utf8]
  simp only [endsAuthority_eq, isAuthorityEnd_eq]
  exact hkept.takeWhile_flatMap (scalars s)

/-- A character of an authority that the watcher accepts is read as it is by the SDK. -/
theorem plain_of_mem_writtenAuthority {ips : NetUrl.IPLiterals} {text : List Char} {s : JsString}
    (htext : text = "http://".toList ∨ text = "https://".toList)
    (hrules : NetUrl.KeepsRules ips (utf8 (utf16 text ++ s))) {c : Char}
    (hc : c ∈ writtenAuthority (text ++ scalars s)) :
    Whatwg.isC0OrSpace c = false ∧ Whatwg.endsAuthority c = false := by
  have hend : isAuthorityEnd c = false := by simpa using List.mem_takeWhile_imp hc
  have hplain : 0x20 < c.toNat ∧ c ≠ '\\' := by
    by_cases hascii : c.toNat < 0x80
    · have hmem : UInt8.ofNat c.toNat ∈ NetUrl.authority (utf8 (utf16 text ++ s)) := by
        rw [authority_utf8 htext]
        refine List.mem_flatMap.mpr ⟨c, hc, ?_⟩
        rw [utf8EncodeChar_ascii hascii]
        exact List.mem_singleton_self _
      obtain ⟨hcontrol, hspace, hbackslash⟩ := hrules.plain_authority _ hmem
      have hbyte : (UInt8.ofNat c.toNat).toNat = c.toNat := by
        rw [UInt8.toNat_ofNat', Nat.mod_eq_of_lt (by omega)]
      rw [NetUrl.isControl, Bool.or_eq_false_iff, decide_eq_false_iff_not, UInt8.lt_iff_toNat_lt,
        hbyte] at hcontrol
      rw [Ne, ← UInt8.toNat_inj, hbyte] at hspace hbackslash
      have hlow : ¬ c.toNat < 0x20 := hcontrol.1
      have hne : ¬ c.toNat = 0x20 := hspace
      refine ⟨by omega, ?_⟩
      rintro rfl
      exact hbackslash rfl
    · refine ⟨by omega, ?_⟩
      rintro rfl
      exact hascii (by decide)
  rw [isAuthorityEnd, Bool.or_eq_false_iff, Bool.or_eq_false_iff] at hend
  refine ⟨decide_eq_false (by omega), ?_⟩
  rw [Whatwg.endsAuthority, hend.1.1, hend.1.2, hend.2, decide_eq_false hplain.2]
  rfl

/-- **Under the watcher's rules both read the same authority,** the one that is written. -/
theorem hostPort_eq_writtenHostPort {ips : NetUrl.IPLiterals} {s : JsString} (hhttp : IsHttp s)
    (hrules : NetUrl.KeepsRules ips (utf8 s)) :
    Whatwg.hostPort (scalars s) = writtenHostPort (scalars s) := by
  obtain ⟨text, htext, rest, rfl⟩ : ∃ text : List Char,
      (text = "http://".toList ∨ text = "https://".toList) ∧ ∃ rest, utf16 text ++ rest = s := by
    rcases hhttp with ⟨rest, hs⟩ | ⟨rest, hs⟩
    · exact ⟨_, .inl rfl, rest, hs⟩
    · exact ⟨_, .inr rfl, rest, hs⟩
  have hne : writtenAuthority (text ++ scalars rest) ≠ [] := by
    intro hnil
    have hbytes := hrules.authority_ne_nil
    rw [authority_utf8 htext, hnil] at hbytes
    exact hbytes rfl
  have hsplit : scalars rest = writtenAuthority (text ++ scalars rest) ++
      (scalars rest).dropWhile (!isAuthorityEnd ·) := by
    rw [writtenAuthority_append htext, List.takeWhile_append_dropWhile]
  -- what follows begins with one of the three characters at which both end the authority
  have hback : ∀ c ∈ ((scalars rest).dropWhile (!isAuthorityEnd ·)).head?,
      Whatwg.isC0OrSpace c = false ∧ Whatwg.endsAuthority c = true := by
    intro c hc
    have hstop := List.head?_dropWhile_not (!isAuthorityEnd ·) (scalars rest)
    rw [Option.mem_def.mp hc] at hstop
    simp only [isAuthorityEnd, Bool.not_eq_false', Bool.or_eq_true, decide_eq_true_eq] at hstop
    rcases hstop with (rfl | rfl) | rfl <;> decide
  have hauthority : Whatwg.authority (text ++ scalars rest) =
      writtenAuthority (text ++ scalars rest) := by
    conv_lhs => rw [hsplit]
    exact Whatwg.authority_append htext hne
      (fun c hc => plain_of_mem_writtenAuthority htext hrules hc) hback
  rw [scalars_utf16_append, Whatwg.hostPort, writtenHostPort, hauthority]

/-! ### Where both accept the same -/

/-- Under the watcher's rules the host is valid for the URL standard too, and the port is at most
`65535`; against them there is no such host and port, with control characters removed and slashes
skipped. -/
structure RulesMeet (hosts : Whatwg.HostParser) (ips : NetUrl.IPLiterals) (endpoint : JsString) :
    Prop where
  kept : NetUrl.KeepsRules ips (utf8 endpoint) →
    Whatwg.IsHostPort hosts (writtenHostPort (scalars endpoint))
  broken : ¬ NetUrl.KeepsRules ips (utf8 endpoint) →
    ¬ Whatwg.IsHostPort hosts (Whatwg.hostPort (scalars endpoint))

/-- **Which endpoints are accepted alike.** The SDK and the watcher agree on an endpoint, once it is
trimmed, exactly if it has neither scheme or the rules of the two parsers meet on it. -/
theorem endpoints_accepted_alike_iff {lib : SdkLib} {goLib : GoLib} {hosts : Whatwg.HostParser}
    {ips : NetUrl.IPLiterals} (hlib : FollowsUrlStandard lib hosts) (hgo : FollowsNetUrl goLib ips)
    (s : JsString) (field : String) :
    (validateEndpointUrl lib (trimEndpointInput s) field = .ok () ↔
        Watcher.validateEndpointURL goLib (utf8 (trimEndpointInput s)) = .ok ()) ↔
      (IsHttp (trimEndpointInput s) → RulesMeet hosts ips (trimEndpointInput s)) := by
  rw [validateEndpointUrl_iff hlib, validateEndpointURL_iff hgo]
  generalize trimEndpointInput s = endpoint
  constructor
  · intro halike hhttp
    constructor
    · intro hrules
      rw [← hostPort_eq_writtenHostPort hhttp hrules]
      exact (halike.mpr ⟨hhttp, hrules⟩).2
    · intro hbroken hhost
      exact hbroken (halike.mp ⟨hhttp, hhost⟩).2
  · intro hmeet
    constructor
    · rintro ⟨hhttp, hhost⟩
      refine ⟨hhttp, ?_⟩
      by_contra hbroken
      exact (hmeet hhttp).broken hbroken hhost
    · rintro ⟨hhttp, hrules⟩
      refine ⟨hhttp, ?_⟩
      rw [hostPort_eq_writtenHostPort hhttp hrules]
      exact (hmeet hhttp).kept hrules

/-! ### Endpoints on which they differ -/

/-- A host parser that knows one name. -/
private def exampleHosts : Whatwg.HostParser where
  parse name := if name = "example.com".toList then some name else none
  ne_nil name host h := by
    split_ifs at h with hname
    rw [← Option.some.inj h, hname]
    decide

private def noLiterals : NetUrl.IPLiterals where
  parse _ := none
  ne_nil := nofun
  plain := nofun

private def standardSdkLib : SdkLib where
  urlHost s := (Whatwg.host exampleHosts (scalars s)).map utf16
  sha256 _ := ⟨List.replicate 32 0, List.length_replicate⟩
  isValidEd25519PublicKey _ := false
  isValidContract _ := false

private def netUrlLib : GoLib where
  parseURL s :=
    match NetUrl.host noLiterals s with
    | some h => .ok ⟨h⟩
    | none => .error (bytes "parse")
  sum256 _ := ⟨List.replicate 32 0, List.length_replicate⟩
  isContractID _ := false

private theorem followsUrlStandard_standardSdkLib :
    FollowsUrlStandard standardSdkLib exampleHosts := fun _ _ => rfl

private theorem followsNetUrl_netUrlLib : FollowsNetUrl netUrlLib noLiterals := by
  intro s _ h
  simp only [netUrlLib]
  rcases NetUrl.host noLiterals s with _ | h'
  · simp
  · simp

private def largePort : JsString := units "https://example.com:99999/health"

private def threeSlashes : JsString := units "https:///example.com/health"

private def withPort : JsString := units "https://example.com:8443/health"

/-- A port above `65535` is accepted by the watcher only, a third slash by the SDK only. -/
theorem endpoints_accepted_apart :
    FollowsUrlStandard standardSdkLib exampleHosts ∧ FollowsNetUrl netUrlLib noLiterals ∧
      (validateEndpointUrl standardSdkLib (trimEndpointInput largePort) "endpoint" ≠ .ok () ∧
        Watcher.validateEndpointURL netUrlLib (utf8 (trimEndpointInput largePort)) = .ok ()) ∧
      (validateEndpointUrl standardSdkLib (trimEndpointInput threeSlashes) "endpoint" = .ok () ∧
        Watcher.validateEndpointURL netUrlLib (utf8 (trimEndpointInput threeSlashes)) ≠ .ok ()) ∧
      ¬ ∀ s, (validateEndpointUrl standardSdkLib (trimEndpointInput s) "endpoint" = .ok () ↔
        Watcher.validateEndpointURL netUrlLib (utf8 (trimEndpointInput s)) = .ok ()) := by
  have hlarge : validateEndpointUrl standardSdkLib (trimEndpointInput largePort) "endpoint" ≠
        .ok () ∧
      Watcher.validateEndpointURL netUrlLib (utf8 (trimEndpointInput largePort)) = .ok () := by
    decide +kernel
  refine ⟨followsUrlStandard_standardSdkLib, followsNetUrl_netUrlLib, hlarge, ?_, fun halike => ?_⟩
  · decide +kernel
  · exact hlarge.1 ((halike largePort).mpr hlarge.2)

/-- On an ordinary endpoint the rules meet; they do not on the two above. -/
theorem endpoints_accepted_alike_with_port :
    FollowsUrlStandard standardSdkLib exampleHosts ∧ FollowsNetUrl netUrlLib noLiterals ∧
      RulesMeet exampleHosts noLiterals withPort ∧
      ¬ RulesMeet exampleHosts noLiterals largePort ∧
      ¬ RulesMeet exampleHosts noLiterals threeSlashes := by
  have halike := endpoints_accepted_alike_iff followsUrlStandard_standardSdkLib
    followsNetUrl_netUrlLib
  have hport : trimEndpointInput withPort = withPort := by decide +kernel
  have hlarge : trimEndpointInput largePort = largePort := by decide +kernel
  have hslashes : trimEndpointInput threeSlashes = threeSlashes := by decide +kernel
  refine ⟨followsUrlStandard_standardSdkLib, followsNetUrl_netUrlLib, ?_, ?_, ?_⟩
  · have hboth := (halike withPort "endpoint").mp (by decide +kernel)
    rw [hport] at hboth
    exact hboth (.inr (by decide +kernel))
  · intro hmeet
    have hwrong := (halike largePort "endpoint").mpr (by rw [hlarge]; exact fun _ => hmeet)
    exact absurd hwrong (by decide +kernel)
  · intro hmeet
    have hwrong := (halike threeSlashes "endpoint").mpr (by rw [hslashes]; exact fun _ => hmeet)
    exact absurd hwrong (by decide +kernel)

end Sdk

end SlaSettle
