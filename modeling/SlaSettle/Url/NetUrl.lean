import Mathlib.Data.List.DropRight
import Mathlib.Data.List.TakeWhile

/-!
# URLs by Go's `net/url`

The `Host` of an `http` or `https` URL as `url.Parse` computes it. The authority is what stands
between `//` and the next `/`, `?` or `#`; any digits are a port; control bytes in front of the
fragment, characters that a host or the credentials cannot have and malformed percent escapes in the
credentials, the path and the fragment are errors. Which literals may stand in brackets is left open
(`IPLiterals`).

`exists_host_iff` says what is accepted.
-/

namespace Url

namespace NetUrl

/-- What `parseHost` makes of a host with a bracket; none where it fails. -/
structure IPLiterals where
  parse : List UInt8 → Option (List UInt8)
  ne_nil : ∀ host h, parse host = some h → h ≠ []
  plain : ∀ host h, parse host = some h → ∀ b ∈ host, b ≠ 0x20 ∧ b ≠ 0x5C

/-! ### Bytes -/

def isControl (b : UInt8) : Bool := b < 0x20 || b = 0x7F

def isDigit (b : UInt8) : Bool := 0x30 ≤ b && b ≤ 0x39

def isLetter (b : UInt8) : Bool := 0x41 ≤ b && b ≤ 0x5A || 0x61 ≤ b && b ≤ 0x7A

/-- `ishex` -/
def isHex (b : UInt8) : Bool := isDigit b || 0x41 ≤ b && b ≤ 0x46 || 0x61 ≤ b && b ≤ 0x66

def unhex (b : UInt8) : UInt8 :=
  if isDigit b then b - 0x30 else if b ≤ 0x46 then b - 0x41 + 10 else b - 0x61 + 10

/-- `!shouldEscape`, in a host: letters, digits and `!"$&'()*+,-.:;<=>[]_~`. -/
def isHostByte (b : UInt8) : Bool :=
  isLetter b || isDigit b || b ∈ [0x21, 0x22, 0x24, 0x26, 0x27, 0x28, 0x29, 0x2A, 0x2B, 0x2C, 0x2D,
    0x2E, 0x3A, 0x3B, 0x3C, 0x3D, 0x3E, 0x5B, 0x5D, 0x5F, 0x7E]

/-- `validUserinfo`, of one byte: letters, digits and `!$%&'()*+,-.:;=@_~`. -/
def isUserinfoByte (b : UInt8) : Bool :=
  isLetter b || isDigit b || b ∈ [0x21, 0x24, 0x25, 0x26, 0x27, 0x28, 0x29, 0x2A, 0x2B, 0x2C, 0x2D,
    0x2E, 0x3A, 0x3B, 0x3D, 0x40, 0x5F, 0x7E]

/-! ### Parsing -/

inductive Encoding where
  | path
  | userPassword
  | host
  | fragment
  deriving DecidableEq

/-- In a host, only a byte beyond ASCII or `%` itself may be escaped. -/
def allowsEscape (mode : Encoding) (high low : UInt8) : Bool :=
  mode ≠ .host || 8 ≤ unhex high || high = 0x32 && low = 0x35

/-- `unescape`; none where it fails. -/
def unescape (mode : Encoding) : List UInt8 → Option (List UInt8)
  | [] => some []
  | b :: rest =>
    if b = 0x25 then
      match rest with
      | high :: low :: rest =>
        if isHex high && isHex low && allowsEscape mode high low then
          (unescape mode rest).map (((unhex high <<< 4) ||| unhex low) :: ·)
        else none
      | _ => none
    else if mode = .host && b < 0x80 && !isHostByte b then none
    else (unescape mode rest).map (b :: ·)

def validOptionalPort (port : List UInt8) : Bool :=
  match port with
  | [] => true
  | b :: digits => b = 0x3A && digits.all isDigit

/-- A host may have a port behind its last colon. -/
def parseHost (ips : IPLiterals) (host : List UInt8) : Option (List UInt8) :=
  if 0x5B ∈ host then ips.parse host
  else if 0x3A ∈ host ∧ validOptionalPort (0x3A :: host.rtakeWhile (· ≠ 0x3A)) = false then none
  else unescape .host host

/-- What is in front of the last `@`. -/
def userinfo (authority : List UInt8) : List UInt8 := (authority.rdropWhile (· ≠ 0x40)).dropLast

/-- What is behind it. -/
def hostPort (authority : List UInt8) : List UInt8 := authority.rtakeWhile (· ≠ 0x40)

def username (userinfo : List UInt8) : List UInt8 := userinfo.takeWhile (· ≠ 0x3A)

def password (userinfo : List UInt8) : List UInt8 := (userinfo.dropWhile (· ≠ 0x3A)).drop 1

/-- `parseAuthority`, as far as it yields the host. -/
def parseAuthority (ips : IPLiterals) (authority : List UInt8) : Option (List UInt8) := do
  let host ← parseHost ips (hostPort authority)
  if 0x40 ∉ authority then return host
  else
    let user := userinfo authority
    if !user.all isUserinfoByte then none
    else if 0x3A ∉ user then
      let _ ← unescape .userPassword user
      return host
    else
      let _ ← unescape .userPassword (username user)
      let _ ← unescape .userPassword (password user)
      return host

def beforeFragment (s : List UInt8) : List UInt8 := s.takeWhile (· ≠ 0x23)

def fragment (s : List UInt8) : List UInt8 := (s.dropWhile (· ≠ 0x23)).drop 1

/-- What is between the scheme and the query. -/
def hierarchy (s : List UInt8) : List UInt8 :=
  (((beforeFragment s).dropWhile (· ≠ 0x3A)).drop 1).takeWhile (· ≠ 0x3F)

def authority (s : List UInt8) : List UInt8 := ((hierarchy s).drop 2).takeWhile (· ≠ 0x2F)

def path (s : List UInt8) : List UInt8 := ((hierarchy s).drop 2).dropWhile (· ≠ 0x2F)

/-- The `Host` of `url.Parse(s)`, for a URL that begins with `http://` or `https://`; none where it
fails. -/
def host (ips : IPLiterals) (s : List UInt8) : Option (List UInt8) :=
  if (beforeFragment s).any isControl then none
  else do
    let host ← parseAuthority ips (authority s)
    let _ ← unescape .path (path s)
    let _ ← unescape .fragment (fragment s)
    return host

/-! ### What is accepted -/

/-- The rules, for a URL with a host. -/
structure KeepsRules (ips : IPLiterals) (s : List UInt8) : Prop where
  no_control : ∀ b ∈ beforeFragment s, isControl b = false
  userinfo_bytes : ∀ b ∈ userinfo (authority s), isUserinfoByte b = true
  username_escapes : (unescape .userPassword (username (userinfo (authority s)))).isSome
  password_escapes : (unescape .userPassword (password (userinfo (authority s)))).isSome
  host_ne_nil : hostPort (authority s) ≠ []
  host : (parseHost ips (hostPort (authority s))).isSome
  path_escapes : (unescape .path (path s)).isSome
  fragment_escapes : (unescape .fragment (fragment s)).isSome

section

variable {ips : IPLiterals} {s h : List UInt8} {mode : Encoding}

theorem unescape_ne_nil (hs : unescape mode s = some h) (hne : s ≠ []) : h ≠ [] := by
  rintro rfl
  obtain ⟨b, rest, rfl⟩ := List.exists_cons_of_ne_nil hne
  rw [unescape.eq_def] at hs
  dsimp only at hs
  split_ifs at hs
  · split at hs
    · split_ifs at hs
      simp at hs
    · cases hs
  · simp at hs

theorem unescape_escape {high low : UInt8} {rest : List UInt8} :
    unescape mode (0x25 :: high :: low :: rest) =
      if isHex high && isHex low && allowsEscape mode high low then
        (unescape mode rest).map (((unhex high <<< 4) ||| unhex low) :: ·)
      else none := by
  rw [unescape, if_pos rfl]

theorem unescape_cons {b : UInt8} {rest : List UInt8} (hb : b ≠ 0x25) :
    unescape mode (b :: rest) =
      if mode = .host && b < 0x80 && !isHostByte b then none
      else (unescape mode rest).map (b :: ·) := by
  rw [unescape.eq_def]
  exact if_neg hb

theorem ne_of_isHex {b : UInt8} (h : isHex b = true) : b ≠ 0x20 ∧ b ≠ 0x5C := by
  constructor <;> rintro rfl <;> exact absurd h (by decide)

/-- A host has neither spaces nor backslashes. -/
theorem plain_of_unescape (hs : unescape .host s = some h) : ∀ b ∈ s, b ≠ 0x20 ∧ b ≠ 0x5C := by
  induction s using unescape.induct .host generalizing h with
  | case1 => nofun
  | case2 high low rest hescape ih =>
    rw [unescape_escape, if_pos hescape, Option.map_eq_some_iff] at hs
    obtain ⟨h', hrest, -⟩ := hs
    rw [Bool.and_eq_true, Bool.and_eq_true] at hescape
    simp only [List.forall_mem_cons]
    exact ⟨by decide, ne_of_isHex hescape.1.1, ne_of_isHex hescape.1.2, ih hrest⟩
  | case3 high low rest hescape =>
    rw [unescape_escape, if_neg hescape] at hs
    cases hs
  | case4 rest hshort =>
    rw [unescape.eq_def] at hs
    dsimp only at hs
    rw [if_pos rfl] at hs
    split at hs
    · exact absurd rfl (hshort _ _ _)
    · cases hs
  | case5 b rest hb hchar =>
    rw [unescape_cons hb, if_pos hchar] at hs
    cases hs
  | case6 b rest hb hchar ih =>
    rw [unescape_cons hb, if_neg hchar, Option.map_eq_some_iff] at hs
    obtain ⟨h', hrest, -⟩ := hs
    refine List.forall_mem_cons.mpr ⟨?_, ih hrest⟩
    constructor <;> rintro rfl <;> exact hchar (by decide)

theorem plain_of_parseHost {name : List UInt8} (hs : parseHost ips name = some h) :
    ∀ b ∈ name, b ≠ 0x20 ∧ b ≠ 0x5C := by
  rw [parseHost] at hs
  split_ifs at hs
  · exact ips.plain name h hs
  · exact plain_of_unescape hs

theorem parseHost_ne_nil {name : List UInt8} (hs : parseHost ips name = some h) (hne : name ≠ []) :
    h ≠ [] := by
  rw [parseHost] at hs
  split_ifs at hs
  · exact ips.ne_nil name h hs
  · exact unescape_ne_nil hs hne

/-! ### The authority -/

theorem userinfo_of_notMem {a : List UInt8} (h : 0x40 ∉ a) : userinfo a = [] := by
  have hnil : a.rdropWhile (· ≠ 0x40) = [] := by
    refine List.rdropWhile_eq_nil_iff.mpr fun b hb => decide_eq_true ?_
    rintro rfl
    exact h hb
  rw [userinfo, hnil, List.dropLast_nil]

theorem username_of_notMem {user : List UInt8} (h : 0x3A ∉ user) :
    username user = user ∧ password user = [] := by
  have hall : ∀ b ∈ user, decide (b ≠ 0x3A) = true := by
    intro b hb
    refine decide_eq_true ?_
    rintro rfl
    exact h hb
  rw [username, password, List.takeWhile_eq_self_iff.mpr hall, List.dropWhile_eq_nil_iff.mpr hall,
    List.drop_nil]
  exact ⟨rfl, rfl⟩

theorem parseAuthority_eq_some_iff {a : List UInt8} :
    parseAuthority ips a = some h ↔ parseHost ips (hostPort a) = some h ∧
      (∀ b ∈ userinfo a, isUserinfoByte b = true) ∧
      (unescape .userPassword (username (userinfo a))).isSome ∧
      (unescape .userPassword (password (userinfo a))).isSome := by
  simp only [parseAuthority]
  rcases hhost : parseHost ips (hostPort a) with _ | host
  · exact iff_of_false nofun fun hparts => nomatch hparts.1
  by_cases hat : 0x40 ∈ a
  · by_cases hbytes : ∀ b ∈ userinfo a, isUserinfoByte b = true
    · have hall : (userinfo a).all isUserinfoByte = true := List.all_eq_true.mpr hbytes
      rw [iff_true_intro hbytes]
      by_cases hcolon : 0x3A ∈ userinfo a
      · rcases unescape .userPassword (username (userinfo a)) with _ | name
        · simp [hat, hall, hcolon]
        · rcases unescape .userPassword (password (userinfo a)) with _ | pass
          · simp [hat, hall, hcolon]
          · simp [hat, hall, hcolon]
      · obtain ⟨husername, hpassword⟩ := username_of_notMem hcolon
        rw [husername, hpassword]
        rcases unescape .userPassword (userinfo a) with _ | name
        · simp [hat, hall, hcolon]
        · simp [hat, hall, hcolon, unescape]
    · simp [hat, hbytes]
  · simp [hat, userinfo_of_notMem hat, username, password, unescape]

/-- **What is accepted, with a host.** -/
theorem exists_host_iff : (∃ h, host ips s = some h ∧ h ≠ []) ↔ KeepsRules ips s := by
  have hcontrol : (beforeFragment s).any isControl = false ↔
      ∀ b ∈ beforeFragment s, isControl b = false := by simp
  constructor
  · rintro ⟨h, hs, hne⟩
    simp only [host] at hs
    split_ifs at hs with hany
    obtain ⟨h', hauthority, hs⟩ := Option.bind_eq_some_iff.mp hs
    obtain ⟨path', hpath, hs⟩ := Option.bind_eq_some_iff.mp hs
    obtain ⟨fragment', hfragment, hs⟩ := Option.bind_eq_some_iff.mp hs
    obtain rfl := Option.some.inj hs
    obtain ⟨hhost, hbytes, hname, hpass⟩ := parseAuthority_eq_some_iff.mp hauthority
    refine ⟨hcontrol.mp (eq_false_of_ne_true hany), hbytes, hname, hpass, ?_, ?_, ?_, ?_⟩
    · intro hnil
      rw [hnil, parseHost, if_neg List.not_mem_nil, if_neg (fun h => List.not_mem_nil h.1),
        unescape, Option.some.injEq] at hhost
      exact hne hhost.symm
    · rw [hhost]
      rfl
    · rw [hpath]
      rfl
    · rw [hfragment]
      rfl
  · intro hrules
    obtain ⟨h, hhost⟩ := Option.isSome_iff_exists.mp hrules.host
    obtain ⟨path', hpath⟩ := Option.isSome_iff_exists.mp hrules.path_escapes
    obtain ⟨fragment', hfragment⟩ := Option.isSome_iff_exists.mp hrules.fragment_escapes
    have hauthority : parseAuthority ips (authority s) = some h :=
      parseAuthority_eq_some_iff.mpr
        ⟨hhost, hrules.userinfo_bytes, hrules.username_escapes, hrules.password_escapes⟩
    refine ⟨h, ?_, parseHost_ne_nil hhost hrules.host_ne_nil⟩
    simp only [host]
    rw [hcontrol.mpr hrules.no_control, if_neg Bool.false_ne_true, hauthority, hpath, hfragment]
    rfl

/-! ### What an accepted authority is like -/

theorem mem_authority {b : UInt8} (hb : b ∈ authority s) : b ∈ beforeFragment s := by
  have hhierarchy : b ∈ hierarchy s :=
    List.mem_of_mem_drop ((List.takeWhile_sublist _).mem hb)
  have hdrop := List.mem_of_mem_drop ((List.takeWhile_sublist _).mem hhierarchy)
  exact (List.dropWhile_sublist _).mem hdrop

/-- Each byte belongs to the host and port, to the credentials, or is the last `@`. -/
theorem mem_hostPort_or {a : List UInt8} {b : UInt8} (hb : b ∈ a) :
    b ∈ hostPort a ∨ b ∈ userinfo a ∨ b = 0x40 := by
  have hsplit : a.rdropWhile (· ≠ 0x40) ++ hostPort a = a := List.rdropWhile_append_rtakeWhile
  rw [← hsplit, List.mem_append] at hb
  rcases hb with hfront | hhost
  · have hne : a.rdropWhile (· ≠ 0x40) ≠ [] := List.ne_nil_of_mem hfront
    have hlast : (a.rdropWhile (· ≠ 0x40)).getLast hne = 0x40 := by
      simpa using List.rdropWhile_last_not (fun b : UInt8 => decide (b ≠ 0x40)) a hne
    rw [← List.dropLast_append_getLast hne, hlast, List.mem_append, List.mem_singleton] at hfront
    exact .inr hfront
  · exact .inl hhost

/-- An accepted authority has no control bytes, spaces or backslashes. -/
theorem KeepsRules.plain_authority (hs : KeepsRules ips s) :
    ∀ b ∈ authority s, isControl b = false ∧ b ≠ 0x20 ∧ b ≠ 0x5C := by
  intro b hb
  refine ⟨hs.no_control b (mem_authority hb), ?_⟩
  rcases mem_hostPort_or hb with hhost | huser | rfl
  · obtain ⟨h, hparse⟩ := Option.isSome_iff_exists.mp hs.host
    exact plain_of_parseHost hparse b hhost
  · have hbyte := hs.userinfo_bytes b huser
    constructor <;> rintro rfl <;> exact absurd hbyte (by decide)
  · decide

theorem KeepsRules.authority_ne_nil (hs : KeepsRules ips s) : authority s ≠ [] := by
  intro hnil
  have hhost := hs.host_ne_nil
  rw [hnil] at hhost
  exact hhost rfl

/-- A byte that ends the authority. -/
def endsAuthority (b : UInt8) : Bool := b = 0x2F || b = 0x3F || b = 0x23

/-- The authority of a URL is what is in front of the next `/`, `?` or `#`. -/
theorem authority_append {scheme rest : List UInt8}
    (hscheme : scheme = [0x68, 0x74, 0x74, 0x70, 0x3A, 0x2F, 0x2F] ∨
      scheme = [0x68, 0x74, 0x74, 0x70, 0x73, 0x3A, 0x2F, 0x2F]) :
    authority (scheme ++ rest) = rest.takeWhile (!endsAuthority ·) := by
  have hfront : beforeFragment (scheme ++ rest) = scheme ++ rest.takeWhile (· ≠ 0x23) := by
    have hall : scheme.all (· ≠ 0x23) = true := by rcases hscheme with rfl | rfl <;> decide
    exact List.takeWhile_append_of_pos (List.all_eq_true.mp hall)
  have hhierarchy : hierarchy (scheme ++ rest) =
      0x2F :: 0x2F :: (rest.takeWhile (· ≠ 0x23)).takeWhile (· ≠ 0x3F) := by
    rw [hierarchy, hfront]
    rcases hscheme with rfl | rfl <;> rfl
  rw [authority, hhierarchy, List.drop_succ_cons, List.drop_succ_cons, List.drop_zero,
    List.takeWhile_takeWhile, List.takeWhile_takeWhile]
  congr 1
  funext b
  simp [endsAuthority, Bool.and_assoc]

end

end NetUrl

end Url
