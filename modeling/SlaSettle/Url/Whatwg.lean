import SlaSettle.Text.Trim

/-!
# URLs by the URL standard

The host of an absolute `http` or `https` URL as the URL standard parses it. White space and control
characters at the two ends are removed, and tabs and line breaks everywhere; any number of slashes
and backslashes may stand in front of the authority; behind it nothing can fail. Which hosts there
are (names, IPv4 and IPv6 addresses) is left open (`HostParser`).

`exists_host_iff` says what is accepted, and `authority_append` that an authority with nothing of
this kind in or around it is taken as it is written.
-/

namespace Url

namespace Whatwg

/-- The standard's host parser, for a special scheme; none where it fails. -/
structure HostParser where
  parse : List Char → Option (List Char)
  ne_nil : ∀ name host, parse name = some host → host ≠ []

/-! ### Parsing -/

/-- A C0 control or a space. -/
def isC0OrSpace (c : Char) : Bool := c.toNat ≤ 0x20

def isTabOrNewline (c : Char) : Bool := c = '\t' || c = '\n' || c = '\r'

def isSlash (c : Char) : Bool := c = '/' || c = '\\'

/-- The authority state ends here. -/
def endsAuthority (c : Char) : Bool := c = '/' || c = '\\' || c = '?' || c = '#'

/-- What is left to parse of a text. -/
def stripped (text : List Char) : List Char :=
  (Text.trim isC0OrSpace text).filter (!isTabOrNewline ·)

def afterScheme (text : List Char) : List Char := (text.dropWhile (· ≠ ':')).drop 1

def authority (text : List Char) : List Char :=
  ((afterScheme (stripped text)).dropWhile isSlash).takeWhile (!endsAuthority ·)

/-- The host and the port, behind the credentials. -/
def hostPort (text : List Char) : List Char := (authority text).rtakeWhile (· ≠ '@')

/-- The host, and the port behind the first colon outside brackets. -/
def splitPort : Bool → List Char → List Char × List Char
  | _, [] => ([], [])
  | insideBrackets, c :: cs =>
    if c = ':' ∧ insideBrackets = false then ([], cs)
    else
      let insideBrackets := if c = '[' then true else if c = ']' then false else insideBrackets
      let (name, port) := splitPort insideBrackets cs
      (c :: name, port)

def isPort (port : List Char) : Bool :=
  port.all Char.isDigit && Nat.ofDigitChars 10 port 0 ≤ 65535

/-- The port in a host's serialization, which leaves out the scheme's default. -/
def portSuffix (text port : List Char) : List Char :=
  let number := Nat.ofDigitChars 10 port 0
  let default := if "https:".toList.isPrefixOf (stripped text) then 443 else 80
  if port = [] ∨ number = default then [] else ':' :: Nat.toDigits 10 number

/-- `new URL(text).host`, for an absolute URL of the scheme `http` or `https`; none where the
constructor throws. -/
def host (hosts : HostParser) (text : List Char) : Option (List Char) :=
  let (name, port) := splitPort false (hostPort text)
  if name = [] then none
  else
    match hosts.parse name with
    | none => none
    | some serialized =>
      if isPort port then some (serialized ++ portSuffix text port) else none

/-! ### What is accepted -/

/-- There is a valid host, and the port is a number up to `65535`. -/
structure IsHostPort (hosts : HostParser) (hostPort : List Char) : Prop where
  name_ne_nil : (splitPort false hostPort).1 ≠ []
  name : (hosts.parse (splitPort false hostPort).1).isSome
  port : isPort (splitPort false hostPort).2 = true

section

variable {hosts : HostParser} {text : List Char}

theorem host_eq_some_iff {h : List Char} :
    host hosts text = some h ↔ IsHostPort hosts (hostPort text) ∧
      ∃ serialized, hosts.parse (splitPort false (hostPort text)).1 = some serialized ∧
        h = serialized ++ portSuffix text (splitPort false (hostPort text)).2 := by
  simp only [host]
  by_cases hname : (splitPort false (hostPort text)).1 = []
  · rw [if_pos hname]
    exact iff_of_false nofun fun hgood => hgood.1.name_ne_nil hname
  rw [if_neg hname]
  rcases hparse : hosts.parse (splitPort false (hostPort text)).1 with _ | serialized
  · refine iff_of_false nofun ?_
    rintro ⟨-, serialized, hsome, -⟩
    cases hsome
  · by_cases hport : isPort (splitPort false (hostPort text)).2 = true
    · have hgood : IsHostPort hosts (hostPort text) := ⟨hname, by rw [hparse]; rfl, hport⟩
      simp [hport, hgood, eq_comm]
    · simp only [if_neg hport]
      exact iff_of_false nofun fun hgood => hport hgood.1.port

theorem exists_host_iff : (∃ h, host hosts text = some h) ↔ IsHostPort hosts (hostPort text) := by
  constructor
  · rintro ⟨h, hhost⟩
    exact (host_eq_some_iff.mp hhost).1
  · intro hgood
    obtain ⟨serialized, hparse⟩ := Option.isSome_iff_exists.mp hgood.name
    exact ⟨_, host_eq_some_iff.mpr ⟨hgood, serialized, hparse, rfl⟩⟩

theorem host_ne_nil {h : List Char} (hhost : host hosts text = some h) : h ≠ [] := by
  obtain ⟨-, serialized, hparse, rfl⟩ := host_eq_some_iff.mp hhost
  exact List.append_ne_nil_of_left_ne_nil (hosts.ne_nil _ _ hparse) _

end

/-! ### Authorities that are taken as written -/

theorem isTabOrNewline_of_plain {c : Char} (h : isC0OrSpace c = false) :
    isTabOrNewline c = false := by
  rw [isC0OrSpace, decide_eq_false_iff_not] at h
  simp only [isTabOrNewline, Bool.or_eq_false_iff, decide_eq_false_iff_not]
  refine ⟨⟨?_, ?_⟩, ?_⟩ <;> rintro rfl <;> exact h (by decide)

/-- Text without white space and control characters stays, and so does such a character behind
it. -/
theorem stripped_append {front back : List Char} (hne : front ≠ [])
    (hfront : ∀ c ∈ front, isC0OrSpace c = false)
    (hback : ∀ c ∈ back.head?, isC0OrSpace c = false) :
    ∃ back', stripped (front ++ back) = front ++ back' ∧ back'.head? = back.head? := by
  have hkept : front.filter (!isTabOrNewline ·) = front :=
    List.filter_eq_self.mpr fun c hc => by
      rw [isTabOrNewline_of_plain (hfront c hc), Bool.not_false]
  have hdrop : (front ++ back).dropWhile isC0OrSpace = front ++ back := by
    obtain ⟨c, cs, rfl⟩ := List.exists_cons_of_ne_nil hne
    rw [List.cons_append, List.dropWhile_cons_of_neg (by simp [hfront c List.mem_cons_self])]
  have hrdrop : (front ++ back).rdropWhile isC0OrSpace =
      front ++ back.rdropWhile isC0OrSpace := by
    rw [List.rdropWhile, List.reverse_append, List.dropWhile_append]
    split_ifs with hempty
    · have hback : back.rdropWhile isC0OrSpace = [] := by
        rw [List.rdropWhile, List.isEmpty_iff.mp hempty, List.reverse_nil]
      have hreverse : front.reverse.dropWhile isC0OrSpace = front.reverse := by
        obtain ⟨c, cs, hcons⟩ := List.exists_cons_of_ne_nil (mt List.reverse_eq_nil_iff.mp hne)
        have hmem : c ∈ front := by
          rw [← List.mem_reverse, hcons]
          exact List.mem_cons_self
        rw [hcons, List.dropWhile_cons_of_neg (by simp [hfront c hmem])]
      rw [hreverse, List.reverse_reverse, hback, List.append_nil]
    · rw [List.reverse_append, List.reverse_reverse, List.rdropWhile]
  refine ⟨(back.rdropWhile isC0OrSpace).filter (!isTabOrNewline ·), ?_, ?_⟩
  · rw [stripped, Text.trim, hdrop, hrdrop, List.filter_append, hkept]
  · -- the run that is removed from the end stops behind the first character
    cases back with
    | nil => rfl
    | cons c cs =>
      have hplain : isC0OrSpace c = false := hback c rfl
      obtain ⟨tail, htail⟩ := List.rdropWhile_prefix isC0OrSpace (c :: cs)
      cases hrest : (c :: cs).rdropWhile isC0OrSpace with
      | nil =>
        have hall := List.rdropWhile_eq_nil_iff.mp hrest c List.mem_cons_self
        rw [hplain] at hall
        cases hall
      | cons c' cs' =>
        rw [hrest, List.cons_append, List.cons.injEq] at htail
        rw [htail.1, List.filter_cons_of_pos (by simp [isTabOrNewline_of_plain hplain])]
        rfl

/-- **An authority without anything that is stripped, skipped or read as its end** is taken as it is
written. -/
theorem authority_append {scheme front back : List Char}
    (hscheme : scheme = "http://".toList ∨ scheme = "https://".toList) (hne : front ≠ [])
    (hfront : ∀ c ∈ front, isC0OrSpace c = false ∧ endsAuthority c = false)
    (hback : ∀ c ∈ back.head?, isC0OrSpace c = false ∧ endsAuthority c = true) :
    authority (scheme ++ (front ++ back)) = front := by
  have hplain : ∀ c ∈ scheme ++ front, isC0OrSpace c = false := by
    intro c hc
    rcases List.mem_append.mp hc with hc | hc
    · have hall : scheme.all (!isC0OrSpace ·) = true := by
        rcases hscheme with rfl | rfl <;> decide
      simpa using List.all_eq_true.mp hall c hc
    · exact (hfront c hc).1
  obtain ⟨back', hstripped, hhead⟩ :=
    stripped_append (List.append_ne_nil_of_right_ne_nil scheme hne) hplain
      fun c hc => (hback c hc).1
  have hafter : afterScheme (scheme ++ (front ++ back')) = '/' :: '/' :: (front ++ back') := by
    rcases hscheme with rfl | rfl <;> rfl
  have hslash : ∀ c ∈ front, isSlash c = false := by
    intro c hc
    have hends := (hfront c hc).2
    simp only [endsAuthority, Bool.or_eq_false_iff] at hends
    rw [isSlash, hends.1.1.1, hends.1.1.2]
    rfl
  have hskipped : ('/' :: '/' :: (front ++ back')).dropWhile isSlash = front ++ back' := by
    obtain ⟨c, cs, rfl⟩ := List.exists_cons_of_ne_nil hne
    rw [List.dropWhile_cons_of_pos rfl, List.dropWhile_cons_of_pos rfl, List.cons_append,
      List.dropWhile_cons_of_neg (by simp [hslash c List.mem_cons_self])]
  have hstop : back'.takeWhile (!endsAuthority ·) = [] := by
    cases back' with
    | nil => rfl
    | cons c cs =>
      have hends : endsAuthority c = true := (hback c (by rw [← hhead]; rfl)).2
      exact List.takeWhile_cons_of_neg (by simp [hends])
  rw [authority, ← List.append_assoc, hstripped, List.append_assoc, hafter, hskipped,
    List.takeWhile_append_of_pos (fun c hc => by simp [(hfront c hc).2]), hstop, List.append_nil]

end Whatwg

end Url
