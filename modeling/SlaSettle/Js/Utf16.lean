import Mathlib.Data.List.Basic
import SlaSettle.Js.Value
import SlaSettle.Text.Trim

/-!
# Strings of code units

A JavaScript string is a list of UTF-16 code units. `utf16` writes a text, `scalars` reads one, with
`U+FFFD` in place of every surrogate that is not one of a pair, and `utf8` is what a `TextEncoder`
makes of it.

`isWellFormed_iff` says that the strings without a lone surrogate are the texts, and
`utf8_trim` that a class of ASCII characters may be trimmed before a text is encoded or after.
-/

namespace Js

/-- A string of JavaScript. -/
abbrev JsString : Type := List UInt16

def isHighSurrogate (u : UInt16) : Bool := 0xD800 ≤ u.toNat && u.toNat < 0xDC00

def isLowSurrogate (u : UInt16) : Bool := 0xDC00 ≤ u.toNat && u.toNat < 0xE000

/-- The code units of a character. -/
def utf16Char (c : Char) : JsString :=
  if c.toNat < 0x10000 then [UInt16.ofNat c.toNat]
  else
    [UInt16.ofNat (0xD800 + (c.toNat - 0x10000) / 0x400),
      UInt16.ofNat (0xDC00 + (c.toNat - 0x10000) % 0x400)]

def utf16 (text : List Char) : JsString := text.flatMap utf16Char

/-- A string literal. -/
def units (text : String) : JsString := utf16 text.toList

/-- The character of a unit of its own. -/
def unitChar (u : UInt16) : Char :=
  if isHighSurrogate u || isLowSurrogate u then replacement else Char.ofNat u.toNat

/-- The character of a pair. -/
def pairChar (high low : UInt16) : Char :=
  Char.ofNat (0x10000 + (high.toNat - 0xD800) * 0x400 + (low.toNat - 0xDC00))

/-- The characters of a string. -/
def scalars : JsString → List Char
  | [] => []
  | [u] => [unitChar u]
  | u :: u' :: rest =>
    if isHighSurrogate u && isLowSurrogate u' then pairChar u u' :: scalars rest
    else unitChar u :: scalars (u' :: rest)

/-- `isWellFormed()`: the surrogates come in pairs. -/
def isWellFormed : JsString → Bool
  | [] => true
  | [u] => !isHighSurrogate u && !isLowSurrogate u
  | u :: u' :: rest =>
    if isHighSurrogate u then isLowSurrogate u' && isWellFormed rest
    else !isLowSurrogate u && isWellFormed (u' :: rest)

/-- `new TextEncoder().encode(…)`. -/
def utf8 (s : JsString) : List UInt8 := (scalars s).flatMap String.utf8EncodeChar

/-! ### Texts -/

theorem scalars_cons {u : UInt16} (h : isHighSurrogate u = false) (s : JsString) :
    scalars (u :: s) = unitChar u :: scalars s := by
  cases s with
  | nil => rfl
  | cons u' rest => rw [scalars, h, Bool.false_and, if_neg Bool.false_ne_true]

theorem isWellFormed_cons {u : UInt16} (hhigh : isHighSurrogate u = false)
    (hlow : isLowSurrogate u = false) (s : JsString) : isWellFormed (u :: s) = isWellFormed s := by
  cases s with
  | nil => simp [isWellFormed, hhigh, hlow]
  | cons u' rest =>
    rw [isWellFormed, hhigh, hlow, if_neg Bool.false_ne_true, Bool.not_false, Bool.true_and]

/-- A character is a unit that is no surrogate, or a pair. -/
theorem utf16Char_cases (c : Char) :
    (∃ u, utf16Char c = [u] ∧ isHighSurrogate u = false ∧ isLowSurrogate u = false ∧
      u.toNat = c.toNat ∧ unitChar u = c) ∨
    ∃ u u', utf16Char c = [u, u'] ∧ isHighSurrogate u = true ∧ isLowSurrogate u' = true ∧
      pairChar u u' = c := by
  have hvalid : c.toNat < 0xD800 ∨ 0xDFFF < c.toNat ∧ c.toNat < 0x110000 := c.valid
  rw [utf16Char]
  split_ifs with hsmall
  · have hunit : (UInt16.ofNat c.toNat).toNat = c.toNat := by
      rw [UInt16.toNat_ofNat']
      omega
    have hhigh : isHighSurrogate (UInt16.ofNat c.toNat) = false := by
      simp [isHighSurrogate, hunit]
      omega
    have hlow : isLowSurrogate (UInt16.ofNat c.toNat) = false := by
      simp [isLowSurrogate, hunit]
      omega
    refine .inl ⟨_, rfl, hhigh, hlow, hunit, ?_⟩
    rw [unitChar, hhigh, hlow, hunit, Bool.or_false, if_neg Bool.false_ne_true, Char.ofNat_toNat]
  · have hhigh : (UInt16.ofNat (0xD800 + (c.toNat - 0x10000) / 0x400)).toNat =
        0xD800 + (c.toNat - 0x10000) / 0x400 := by
      rw [UInt16.toNat_ofNat']
      omega
    have hlow : (UInt16.ofNat (0xDC00 + (c.toNat - 0x10000) % 0x400)).toNat =
        0xDC00 + (c.toNat - 0x10000) % 0x400 := by
      rw [UInt16.toNat_ofNat']
      omega
    refine .inr ⟨_, _, rfl, ?_, ?_, ?_⟩
    · simp [isHighSurrogate]
      omega
    · simp [isLowSurrogate]
      omega
    · have hsum : 0x10000 + (0xD800 + (c.toNat - 0x10000) / 0x400 - 0xD800) * 0x400 +
          (0xDC00 + (c.toNat - 0x10000) % 0x400 - 0xDC00) = c.toNat := by omega
      rw [pairChar, hhigh, hlow, hsum, Char.ofNat_toNat]

/-- A text in front of a string is read as it was written. -/
theorem scalars_utf16_append (text : List Char) (s : JsString) :
    scalars (utf16 text ++ s) = text ++ scalars s := by
  induction text with
  | nil => rfl
  | cons c cs ih =>
    rw [utf16, List.flatMap_cons, List.append_assoc, ← utf16, List.cons_append, ← ih]
    rcases utf16Char_cases c with ⟨u, hu, hhigh, -, -, hc⟩ | ⟨u, u', hu, hhigh, hlow, hc⟩
    · rw [hu, List.singleton_append, scalars_cons hhigh, hc]
    · rw [hu, List.cons_append, List.singleton_append, scalars, hhigh, hlow, Bool.true_and,
        if_pos rfl, hc]

theorem scalars_utf16 (text : List Char) : scalars (utf16 text) = text := by
  have happend := scalars_utf16_append text []
  rwa [List.append_nil, scalars, List.append_nil] at happend

theorem toNat_charOfNat {n : ℕ} (h : n.isValidChar) : (Char.ofNat n).toNat = n := by
  rw [Char.ofNat, dif_pos h]
  rfl

theorem utf16Char_unitChar {u : UInt16} (hhigh : isHighSurrogate u = false)
    (hlow : isLowSurrogate u = false) : utf16Char (unitChar u) = [u] := by
  have hlt : u.toNat < 65536 := u.toNat_lt
  have hvalid : u.toNat.isValidChar := by
    simp [isHighSurrogate] at hhigh
    simp [isLowSurrogate] at hlow
    rw [Nat.isValidChar]
    omega
  have hchar : (Char.ofNat u.toNat).toNat = u.toNat := toNat_charOfNat hvalid
  rw [unitChar, hhigh, hlow, Bool.or_false, if_neg Bool.false_ne_true, utf16Char, hchar,
    if_pos hlt, UInt16.ofNat_toNat]

theorem utf16Char_pairChar {u u' : UInt16} (hhigh : isHighSurrogate u = true)
    (hlow : isLowSurrogate u' = true) : utf16Char (pairChar u u') = [u, u'] := by
  simp only [isHighSurrogate, isLowSurrogate, Bool.and_eq_true, decide_eq_true_eq] at hhigh hlow
  have hvalid : (0x10000 + (u.toNat - 0xD800) * 0x400 + (u'.toNat - 0xDC00)).isValidChar := by
    rw [Nat.isValidChar]
    omega
  have hhighUnit : 0xD800 + (0x10000 + (u.toNat - 0xD800) * 0x400 + (u'.toNat - 0xDC00) - 0x10000) /
      0x400 = u.toNat := by omega
  have hlowUnit : 0xDC00 + (0x10000 + (u.toNat - 0xD800) * 0x400 + (u'.toNat - 0xDC00) - 0x10000) %
      0x400 = u'.toNat := by omega
  rw [pairChar, utf16Char, toNat_charOfNat hvalid, if_neg (by omega), hhighUnit, hlowUnit,
    UInt16.ofNat_toNat, UInt16.ofNat_toNat]

/-- A string in which the surrogates come in pairs is the text that is read from it. -/
theorem utf16_scalars {s : JsString} (h : isWellFormed s = true) : utf16 (scalars s) = s := by
  induction s using scalars.induct with
  | case1 => rfl
  | case2 u =>
    rw [isWellFormed, Bool.and_eq_true, Bool.not_eq_true', Bool.not_eq_true'] at h
    rw [scalars, utf16, List.flatMap_singleton, utf16Char_unitChar h.1 h.2]
  | case3 u u' rest hpair ih =>
    rw [Bool.and_eq_true] at hpair
    rw [isWellFormed, if_pos hpair.1, hpair.2, Bool.true_and] at h
    rw [scalars, hpair.1, hpair.2, Bool.true_and, if_pos rfl, utf16, List.flatMap_cons,
      utf16Char_pairChar hpair.1 hpair.2, ← utf16, ih h]
    rfl
  | case4 u u' rest hpair ih =>
    have hhigh : isHighSurrogate u = false := by
      by_contra hne
      rw [isWellFormed, if_pos (eq_true_of_ne_false hne), Bool.and_eq_true] at h
      exact hpair (Bool.and_eq_true_iff.mpr ⟨eq_true_of_ne_false hne, h.1⟩)
    rw [isWellFormed, hhigh, if_neg Bool.false_ne_true, Bool.and_eq_true, Bool.not_eq_true'] at h
    rw [scalars_cons hhigh, utf16, List.flatMap_cons, utf16Char_unitChar hhigh h.1, ← utf16, ih h.2]
    rfl

theorem isWellFormed_utf16 (text : List Char) : isWellFormed (utf16 text) = true := by
  induction text with
  | nil => rfl
  | cons c cs ih =>
    rw [utf16, List.flatMap_cons, ← utf16]
    rcases utf16Char_cases c with ⟨u, hu, hhigh, hlow, -, -⟩ | ⟨u, u', hu, hhigh, hlow, -⟩
    · rw [hu, List.singleton_append, isWellFormed_cons hhigh hlow, ih]
    · rw [hu, List.cons_append, List.singleton_append, isWellFormed, if_pos hhigh, hlow, ih]
      rfl

/-- The strings without a lone surrogate are the texts. -/
theorem isWellFormed_iff {s : JsString} : isWellFormed s = true ↔ ∃ text, s = utf16 text := by
  constructor
  · exact fun h => ⟨scalars s, (utf16_scalars h).symm⟩
  · rintro ⟨text, rfl⟩
    exact isWellFormed_utf16 text

theorem utf8_utf16 (text : List Char) :
    utf8 (utf16 text) = text.flatMap String.utf8EncodeChar := by
  rw [utf8, scalars_utf16]

theorem utf8_utf16_append (text : List Char) (s : JsString) :
    utf8 (utf16 text ++ s) = text.flatMap String.utf8EncodeChar ++ utf8 s := by
  rw [utf8, scalars_utf16_append, List.flatMap_append, ← utf8]

/-! ### Classes of ASCII characters -/

open Text

section

variable {cls : ℕ → Bool}

/-- A class of ASCII characters is kept apart in UTF-16. -/
theorem keepsApart_utf16Char (h : ∀ n, cls n = true → n < 0x80) :
    KeepsApart (fun c : Char => cls c.toNat) (fun u : UInt16 => cls u.toNat) utf16Char where
  inside c hc u hu := by
    have hlt : c.toNat < 0x80 := h c.toNat hc
    have hone : utf16Char c = [UInt16.ofNat c.toNat] := if_pos (by omega)
    rw [hone, List.mem_singleton] at hu
    rw [hu, UInt16.toNat_ofNat', Nat.mod_eq_of_lt (by omega)]
    exact hc
  outside c hc := by
    rcases utf16Char_cases c with ⟨u, hu, -, -, hval, -⟩ | ⟨u, u', hu, hhigh, hlow, -⟩
    · rw [hu]
      refine ⟨List.cons_ne_nil _ _, fun b hb => ?_⟩
      rw [List.mem_singleton.mp hb, hval]
      exact hc
    · rw [hu]
      refine ⟨List.cons_ne_nil _ _, fun b hb => ?_⟩
      -- both surrogates are beyond ASCII
      have hbig : 0xD800 ≤ b.toNat := by
        simp only [isHighSurrogate, isLowSurrogate, Bool.and_eq_true, decide_eq_true_eq]
          at hhigh hlow
        rcases List.mem_pair.mp hb with rfl | rfl <;> omega
      refine eq_false_of_ne_true fun hcls => ?_
      have hlt : b.toNat < 0x80 := h b.toNat hcls
      omega

theorem utf8EncodeChar_ascii {c : Char} (h : c.toNat < 0x80) :
    String.utf8EncodeChar c = [UInt8.ofNat c.toNat] := by
  have hval : c.val.toNat ≤ 0x7f := Nat.le_of_lt_succ h
  simp only [String.utf8EncodeChar]
  rw [if_pos hval]
  rfl

/-- The bytes of a character beyond ASCII are beyond ASCII. -/
theorem le_of_mem_utf8EncodeChar {c : Char} (h : 0x80 ≤ c.toNat) {b : UInt8}
    (hb : b ∈ String.utf8EncodeChar c) : 0x80 ≤ b.toNat := by
  have hval : ¬ c.val.toNat ≤ 0x7f := Nat.not_le_of_lt h
  have hlt : c.val.toNat < 0x110000 := by
    rcases c.valid with hsmall | ⟨-, hbig⟩
    · exact Nat.lt_trans hsmall (by omega)
    · exact hbig
  simp only [String.utf8EncodeChar, if_neg hval] at hb
  split_ifs at hb <;> simp only [List.mem_cons, List.not_mem_nil, or_false] at hb <;>
    rcases hb with rfl | rfl | rfl | rfl <;> simp <;> omega

theorem keepsApart_utf8EncodeChar (h : ∀ n, cls n = true → n < 0x80) :
    KeepsApart (fun c : Char => cls c.toNat) (fun b : UInt8 => cls b.toNat)
      String.utf8EncodeChar where
  inside c hc b hb := by
    have hlt : c.toNat < 0x80 := h c.toNat hc
    rw [utf8EncodeChar_ascii hlt, List.mem_singleton] at hb
    rw [hb, UInt8.toNat_ofNat', Nat.mod_eq_of_lt (by omega)]
    exact hc
  outside c hc := by
    refine ⟨String.utf8EncodeChar_ne_nil, fun b hb => ?_⟩
    by_cases hlt : c.toNat < 0x80
    · rw [utf8EncodeChar_ascii hlt, List.mem_singleton] at hb
      rw [hb, UInt8.toNat_ofNat', Nat.mod_eq_of_lt (by omega)]
      exact hc
    · refine eq_false_of_ne_true fun hcls => ?_
      have hbyte : b.toNat < 0x80 := h b.toNat hcls
      have hbig : 0x80 ≤ b.toNat := le_of_mem_utf8EncodeChar (by omega) hb
      omega

end

/-- Trimming a class of ASCII characters commutes with encoding. -/
theorem utf8_trim {cls : ℕ → Bool} (h : ∀ n, cls n = true → n < 0x80) {s : JsString}
    (hs : isWellFormed s = true) :
    utf8 (trim (fun u => cls u.toNat) s) = trim (fun b => cls b.toNat) (utf8 s) := by
  obtain ⟨text, rfl⟩ := isWellFormed_iff.mp hs
  rw [utf16, (keepsApart_utf16Char h).trim_flatMap, ← utf16, ← utf16, utf8_utf16, utf8_utf16,
    (keepsApart_utf8EncodeChar h).trim_flatMap]

/-! ### ASCII at the front -/

/-- An ASCII character is written as it is read. -/
theorem exists_of_scalars_eq_cons {s : JsString} {c : Char} {cs : List Char}
    (hs : scalars s = c :: cs) (hc : c.toNat < 0x80) :
    ∃ s', s = utf16Char c ++ s' ∧ scalars s' = cs := by
  have hunit : ∀ u, unitChar u = c → utf16Char c = [u] ∧ isHighSurrogate u = false := by
    intro u hu
    have hsurrogate : ¬ (isHighSurrogate u || isLowSurrogate u) = true := by
      intro h
      rw [unitChar, if_pos h] at hu
      rw [← hu] at hc
      exact absurd hc (by decide)
    rw [Bool.not_eq_true, Bool.or_eq_false_iff] at hsurrogate
    rw [← hu]
    exact ⟨utf16Char_unitChar hsurrogate.1 hsurrogate.2, hsurrogate.1⟩
  cases s with
  | nil => cases hs
  | cons u rest =>
    by_cases hhigh : isHighSurrogate u = true
    · cases rest with
      | nil =>
        rw [scalars, List.cons.injEq] at hs
        exact absurd hhigh (by rw [(hunit u hs.1).2]; exact Bool.false_ne_true)
      | cons u' rest =>
        rw [scalars] at hs
        split_ifs at hs with hpair
        · -- a pair is beyond ASCII
          rw [List.cons.injEq] at hs
          rw [Bool.and_eq_true] at hpair
          have htwo : utf16Char c = [u, u'] := by
            rw [← hs.1]
            exact utf16Char_pairChar hpair.1 hpair.2
          rw [utf16Char, if_pos (by omega)] at htwo
          cases htwo
        · rw [List.cons.injEq] at hs
          exact absurd hhigh (by rw [(hunit u hs.1).2]; exact Bool.false_ne_true)
    · rw [scalars_cons (eq_false_of_ne_true hhigh), List.cons.injEq] at hs
      exact ⟨rest, by rw [(hunit u hs.1).1, List.singleton_append], hs.2⟩

/-- The first byte tells an ASCII character. -/
theorem eq_of_utf8_prefix {c c' : Char} {bs bs' : List UInt8} (hc : c.toNat < 0x80)
    (h : UInt8.ofNat c.toNat :: bs <+: String.utf8EncodeChar c' ++ bs') : c' = c := by
  have hbyte : (UInt8.ofNat c.toNat).toNat = c.toNat := by
    rw [UInt8.toNat_ofNat', Nat.mod_eq_of_lt (by omega)]
  by_cases hc' : c'.toNat < 0x80
  · rw [utf8EncodeChar_ascii hc', List.singleton_append, List.cons_prefix_cons] at h
    have hcodes := congrArg UInt8.toNat h.1
    rw [hbyte, UInt8.toNat_ofNat', Nat.mod_eq_of_lt (by omega)] at hcodes
    exact Char.toNat_inj.mp hcodes.symm
  · obtain ⟨b, bs'', hencode⟩ := List.exists_cons_of_ne_nil (String.utf8EncodeChar_ne_nil (c := c'))
    rw [hencode, List.cons_append, List.cons_prefix_cons] at h
    have hbig : 0x80 ≤ b.toNat :=
      le_of_mem_utf8EncodeChar (by omega) (hencode ▸ List.mem_cons_self)
    rw [← h.1, hbyte] at hbig
    omega

/-- The units of an ASCII text are in front where its bytes are. -/
theorem utf16_prefix_iff {text : List Char} (htext : ∀ c ∈ text, c.toNat < 0x80) {s : JsString} :
    text.flatMap String.utf8EncodeChar <+: utf8 s ↔ utf16 text <+: s := by
  constructor
  · intro hprefix
    induction text generalizing s with
    | nil => exact List.nil_prefix
    | cons c cs ih =>
      obtain ⟨hc, hcs⟩ := List.forall_mem_cons.mp htext
      rw [List.flatMap_cons, utf8EncodeChar_ascii hc, utf8] at hprefix
      cases hread : scalars s with
      | nil =>
        rw [hread] at hprefix
        exact absurd (List.prefix_nil.mp hprefix) (List.cons_ne_nil _ _)
      | cons c' cs' =>
        rw [hread, List.flatMap_cons] at hprefix
        obtain rfl : c' = c := eq_of_utf8_prefix hc hprefix
        obtain ⟨s', rfl, hread'⟩ := exists_of_scalars_eq_cons hread hc
        rw [utf8EncodeChar_ascii hc, List.singleton_append, List.singleton_append,
          List.cons_prefix_cons, ← hread', ← utf8] at hprefix
        rw [utf16, List.flatMap_cons, ← utf16]
        exact (List.prefix_append_right_inj _).mpr (ih hcs hprefix.2)
  · rintro ⟨rest, rfl⟩
    rw [utf8_utf16_append]
    exact List.prefix_append _ _

end Js
