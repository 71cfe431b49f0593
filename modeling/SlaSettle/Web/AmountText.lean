import SlaSettle.Web.Format

/-!
# Amounts as text

What a reader of the page types, and what it is shown.

`parseTokenAmountThrowing` is `parseTokenAmount` with `BigInt` as it is: a function that throws a
`SyntaxError` where its argument is no integer literal. It is never reached with such an argument,
so that an amount is accepted exactly if it is one (`parseTokenAmount_accepts`).

The grouping of `formatTokenAmount` is a replacement at places between digits
(`insertAt_groupPlace`). What is shown is read back as the amount: `formatTokenAmount_lossless`.
-/

namespace SlaSettle

namespace Web

open Js

/-! ### What may be typed -/

/-- What `parseTokenAmount` may throw. -/
inductive AmountThrow where
  | invalidTokenAmountError (e : InvalidTokenAmountError)
  | syntaxError
  deriving DecidableEq

/-- `BigInt(s)` -/
def bigIntOrThrow (s : JsString) : Except AmountThrow ℤ := s.bigInt?.elim (.error .syntaxError) .ok

def parseTokenAmountThrowing (input : JsString) (decimals : ℕ) : Except AmountThrow ℤ :=
  let trimmed := input.trim
  if !amountPattern.test trimmed || trimmed = [] || trimmed = [point] then
    .error (.invalidTokenAmountError ⟨units "\"" ++ input ++ units "\" is not a valid amount."⟩)
  else
    let parts := trimmed.splitOn point
    let wholePart : JsString := parts.headD []
    let fractionPart : JsString := parts.getD 1 []
    if decimals < fractionPart.length then
      .error (.invalidTokenAmountError ⟨units "\"" ++ input ++
        units s!"\" has more decimal places than this token supports ({decimals})."⟩)
    else do
      let whole ← bigIntOrThrow (wholePart.orElse (units "0"))
      let fraction ← bigIntOrThrow ((fractionPart.padEnd decimals zeroDigit).orElse (units "0"))
      .ok (whole * 10 ^ decimals + fraction)

/-- Digits with at most one point and at least one digit, of which at most `decimals` are behind the
point. -/
structure IsAmount (decimals : ℕ) (s : JsString) : Prop where
  units : ∀ u ∈ s, isDigitUnit u = true ∨ u = point
  points : s.count point ≤ 1
  digit : ∃ u ∈ s, isDigitUnit u = true
  places : ((s.dropWhile (· ≠ point)).drop 1).length ≤ decimals

section

variable {s whole fraction input : JsString} {decimals : ℕ}

theorem bigIntOrThrow_orElse (hs : ∀ u ∈ s, isDigitUnit u = true) :
    bigIntOrThrow (s.orElse (units "0")) = .ok (s.orElse (units "0")).bigInt := by
  have hdigits : s.orElse (units "0") ≠ [] ∧
      ∀ u ∈ s.orElse (units "0"), isDigitUnit u = true := by
    have hzero : units "0" = [zeroDigit] := by decide
    rw [JsString.orElse]
    split_ifs with hnil
    · rw [hzero]
      exact ⟨List.cons_ne_nil _ _, List.forall_mem_singleton.mpr rfl⟩
    · exact ⟨hnil, hs⟩
  rw [bigIntOrThrow, JsString.bigInt?_digits hdigits.1 hdigits.2, Option.elim_some]

/-- `BigInt` is given digits. -/
theorem parseTokenAmountThrowing_eq :
    parseTokenAmountThrowing input decimals =
      (parseTokenAmount input decimals).mapError .invalidTokenAmountError := by
  by_cases hnumeral : ∃ whole fraction, IsNumeral input.trim whole fraction
  · obtain ⟨whole, fraction, hs⟩ := hnumeral
    obtain ⟨hwhole, hfraction⟩ := hs.splitOn_point
    have haccepted : (!amountPattern.test input.trim || input.trim = [] || input.trim = [point]) =
        false := exists_isNumeral_iff.mpr ⟨whole, fraction, hs⟩
    have hpadded : ∀ u ∈ fraction.padEnd decimals zeroDigit, isDigitUnit u = true := fun u hu =>
      (List.mem_append.mp hu).elim (hs.fraction_digits u) (JsString.isDigitUnit_replicate_zero _ u)
    simp only [parseTokenAmountThrowing, parseTokenAmount, haccepted, hwhole, hfraction,
      bigIntOrThrow_orElse hs.whole_digits, bigIntOrThrow_orElse hpadded, Bool.false_eq_true,
      if_false]
    split_ifs
    · rfl
    · rfl
  · have hrejected := eq_true_of_ne_false (mt exists_isNumeral_iff.mp hnumeral)
    simp only [parseTokenAmountThrowing, parseTokenAmount, hrejected, if_true]
    rfl

theorem IsNumeral.places (hs : IsNumeral s whole fraction) :
    (s.dropWhile (· ≠ point)).drop 1 = fraction := by
  have hwhole : ∀ u ∈ whole, decide (u ≠ point) = true := fun u hu =>
    decide_eq_true (ne_point_of_isDigitUnit (hs.whole_digits u hu))
  rcases hs.shape with ⟨rfl, rfl⟩ | rfl
  · rw [List.dropWhile_eq_nil_iff.mpr hwhole, List.drop_nil]
  · rw [List.dropWhile_append_of_pos hwhole]
    simp

/-- An amount is a numeral. -/
theorem isAmount_iff :
    IsAmount decimals s ↔ ∃ whole fraction, IsNumeral s whole fraction ∧
      fraction.length ≤ decimals := by
  constructor
  · intro hs
    have hdigits : ∀ part : JsString, part ⊆ s → point ∉ part →
        ∀ u ∈ part, isDigitUnit u = true := by
      intro part hpart hpoint u hu
      exact (hs.units u (hpart hu)).resolve_right fun h => hpoint (h ▸ hu)
    have hnumeral : ∃ whole fraction, IsNumeral s whole fraction := by
      obtain ⟨d, hd, hdigit⟩ := hs.digit
      by_cases hpoint : point ∈ s
      · obtain ⟨whole, fraction, hshape, hwhole⟩ := List.eq_append_cons_of_mem hpoint
        -- the point that ends the first part is the only one
        have hfraction : point ∉ fraction := by
          have hcount := hs.points
          rw [hshape, List.count_append, List.count_cons_self] at hcount
          exact List.count_eq_zero.mp (by omega)
        refine ⟨whole, fraction, .inr hshape, ?_, ?_, fun hnil => ?_⟩
        · exact hdigits whole (by simp [hshape]) hwhole
        · exact hdigits fraction (by simp [hshape]) hfraction
        · obtain ⟨rfl, rfl⟩ := List.append_eq_nil_iff.mp hnil
          rw [hshape, List.nil_append, List.mem_singleton] at hd
          exact ne_point_of_isDigitUnit hdigit hd
      · refine ⟨s, [], .inl ⟨rfl, rfl⟩, hdigits s (List.Subset.refl s) hpoint, nofun, ?_⟩
        rw [List.append_nil]
        exact List.ne_nil_of_mem hd
    obtain ⟨whole, fraction, hnumeral⟩ := hnumeral
    exact ⟨whole, fraction, hnumeral, hnumeral.places ▸ hs.places⟩
  · rintro ⟨whole, fraction, hs, hlength⟩
    have hparts : ∀ u ∈ whole ++ fraction, isDigitUnit u = true := fun u hu =>
      (List.mem_append.mp hu).elim (hs.whole_digits u) (hs.fraction_digits u)
    have hcount : (whole ++ fraction).count point = 0 := List.count_eq_zero.mpr fun h =>
      ne_point_of_isDigitUnit (hparts point h) rfl
    obtain ⟨d, hd⟩ := List.exists_mem_of_ne_nil _ hs.nonempty
    have hplaces := hs.places.symm ▸ hlength
    rcases hs.shape with ⟨rfl, rfl⟩ | rfl
    · rw [List.append_nil] at hparts hcount hd
      exact ⟨fun u hu => .inl (hparts u hu), by omega, ⟨d, hd, hparts d hd⟩, hplaces⟩
    · refine ⟨fun u hu => ?_, ?_, ⟨d, ?_, hparts d hd⟩, hplaces⟩
      · rcases List.mem_append.mp hu with hwhole | hrest
        · exact .inl (hs.whole_digits u hwhole)
        · rcases List.mem_cons.mp hrest with hpoint | hfraction
          · exact .inr hpoint
          · exact .inl (hs.fraction_digits u hfraction)
      · rw [List.count_append] at hcount ⊢
        rw [List.count_cons_self]
        omega
      · exact (List.mem_append.mp hd).elim (fun h => List.mem_append_left _ h) fun h =>
          List.mem_append_right _ (List.mem_cons_of_mem _ h)

theorem parseTokenAmountThrowing_eq_ok_iff {n : ℤ} :
    parseTokenAmountThrowing input decimals = .ok n ↔ parseTokenAmount input decimals = .ok n := by
  rw [parseTokenAmountThrowing_eq]
  cases parseTokenAmount input decimals with
  | error e => exact iff_of_false nofun nofun
  | ok m => exact ⟨fun h => congrArg _ (Except.ok.inj h), fun h => congrArg _ (Except.ok.inj h)⟩

/-- **An amount is accepted** if it is digits with at most one point and no more decimal places than
the token has, and the integer is its value in smallest units. Otherwise an
`InvalidTokenAmountError` is thrown, and nothing else is. -/
theorem parseTokenAmount_accepts (input : JsString) (decimals : ℕ) :
    ((∃ n, parseTokenAmountThrowing input decimals = .ok n) ↔ IsAmount decimals input.trim) ∧
    (∀ n : ℤ, parseTokenAmountThrowing input decimals = .ok n →
      (n : ℚ) = decimalValue input.trim * 10 ^ decimals) ∧
    (¬ IsAmount decimals input.trim → ∃ e : InvalidTokenAmountError,
      parseTokenAmountThrowing input decimals = .error (.invalidTokenAmountError e)) := by
  refine ⟨⟨?_, fun hamount => ?_⟩, fun n hn => ?_, fun hamount => ?_⟩
  · rintro ⟨n, hn⟩
    obtain ⟨whole, fraction, hs, hlength, -⟩ :=
      parseTokenAmount_eq_ok_iff.mp (parseTokenAmountThrowing_eq_ok_iff.mp hn)
    exact isAmount_iff.mpr ⟨whole, fraction, hs, hlength⟩
  · obtain ⟨whole, fraction, hs, hlength⟩ := isAmount_iff.mp hamount
    have hparse : parseTokenAmount input decimals = _ := parseTokenAmount_of_isNumeral hs
    rw [if_neg (not_lt.mpr hlength)] at hparse
    exact ⟨_, parseTokenAmountThrowing_eq_ok_iff.mpr hparse⟩
  · obtain ⟨-, -, -, -, hvalue⟩ :=
      parseTokenAmount_eq_ok_iff.mp (parseTokenAmountThrowing_eq_ok_iff.mp hn)
    exact hvalue
  · cases hparse : parseTokenAmount input decimals with
    | error e =>
      refine ⟨e, ?_⟩
      rw [parseTokenAmountThrowing_eq, hparse]
      rfl
    | ok n =>
      obtain ⟨whole, fraction, hs, hlength, -⟩ := parseTokenAmount_eq_ok_iff.mp hparse
      exact absurd (isAmount_iff.mpr ⟨whole, fraction, hs, hlength⟩) hamount

end

/-! ### Grouping -/

/-- `\w` -/
def isWordUnit (u : UInt16) : Bool :=
  isDigitUnit u || (0x41 ≤ u.toNat && u.toNat ≤ 0x5A) || (0x61 ≤ u.toNat && u.toNat ≤ 0x7A) ||
    u.toNat = 0x5F

/-- `(?=(\d{3})+(?!\d))`, in front of a text. -/
def threesAhead : JsString → Bool
  | a :: b :: c :: text =>
    isDigitUnit a && isDigitUnit b && isDigitUnit c &&
      (threesAhead text || !text.head?.any isDigitUnit)
  | _ => false

/-- `\B(?=(\d{3})+(?!\d))`, between a unit, if there is one, and a text. -/
def groupPlace (before : Option UInt16) (text : JsString) : Bool :=
  before.any isWordUnit == text.head?.any isWordUnit && threesAhead text

/-- `text.replace(place, mark)` behind a unit, for a pattern with the flag `g` that matches places
between units and no unit. -/
def insertAt (place : Option UInt16 → JsString → Bool) (mark : JsString) :
    Option UInt16 → JsString → JsString
  | before, [] => if place before [] then mark else []
  | before, u :: text =>
    (if place before (u :: text) then mark else []) ++ u :: insertAt place mark (some u) text

section

variable {s : JsString}

theorem ne_comma_of_isDigitUnit {u : UInt16} (h : isDigitUnit u = true) : u ≠ comma := by
  rintro rfl
  exact absurd h (by decide)

theorem threesAhead_eq (hs : ∀ u ∈ s, isDigitUnit u = true) :
    threesAhead s = decide (s ≠ [] ∧ s.length % 3 = 0) := by
  fun_induction threesAhead s with
  | case1 a b c text ih =>
    have htext : ∀ u ∈ text, isDigitUnit u = true := fun u hu => hs u (by simp [hu])
    have hend : (!text.head?.any isDigitUnit) = decide (text = []) := by
      cases text with
      | nil => rfl
      | cons d text => simp [htext d]
    have hlength : (a :: b :: c :: text).length % 3 = text.length % 3 := by
      simp only [List.length_cons]
      omega
    rw [hs a (by simp), hs b (by simp), hs c (by simp), ih htext, hend, hlength]
    by_cases hnil : text = []
    · simp [hnil]
    · simp [hnil]
  | case2 s h =>
    match s, h with
    | [], _ => rfl
    | [_], _ => rfl
    | [_, _], _ => rfl
    | a :: b :: c :: text, h => exact absurd rfl (h a b c text)

theorem groupPlace_some {u : UInt16} (hu : isDigitUnit u = true)
    (hs : ∀ u ∈ s, isDigitUnit u = true) :
    groupPlace (some u) s = decide (s ≠ [] ∧ s.length % 3 = 0) := by
  have hword : ∀ u, isDigitUnit u = true → isWordUnit u = true := fun u hu => by
    rw [isWordUnit, hu, Bool.true_or, Bool.true_or, Bool.true_or]
  rw [groupPlace, threesAhead_eq hs, Option.any_some, hword u hu]
  cases s with
  | nil => rfl
  | cons d s => rw [List.head?_cons, Option.any_some, hword d (hs d (by simp))]; rfl

theorem groupDigits_cons (u : UInt16) (s : JsString) :
    groupDigits (u :: s) =
      u :: ((if s ≠ [] ∧ s.length % 3 = 0 then [comma] else []) ++ groupDigits s) := by
  rw [groupDigits]
  split_ifs
  · rfl
  · rfl

/-- **The replacement groups.** -/
theorem insertAt_groupPlace (hs : ∀ u ∈ s, isDigitUnit u = true) :
    insertAt groupPlace [comma] none s = groupDigits s := by
  -- behind a digit, a mark is also put in front of what is left
  have hbehind : ∀ (s : JsString) (u : UInt16), isDigitUnit u = true →
      (∀ u ∈ s, isDigitUnit u = true) →
        u :: insertAt groupPlace [comma] (some u) s = groupDigits (u :: s) := by
    intro s
    induction s with
    | nil =>
      intro u hu hs
      rw [insertAt, groupPlace_some hu hs]
      rfl
    | cons d s ih =>
      intro u hu hs
      obtain ⟨hd, hs'⟩ := List.forall_mem_cons.mp hs
      rw [insertAt, ih d hd hs', groupPlace_some hu hs, groupDigits_cons u]
      simp only [decide_eq_true_eq]
  cases s with
  | nil => rfl
  | cons u s =>
    obtain ⟨hu, hs⟩ := List.forall_mem_cons.mp hs
    have hfirst : groupPlace none (u :: s) = false := by
      rw [groupPlace, List.head?_cons, Option.any_some, isWordUnit, hu]
      rfl
    rw [insertAt, hfirst, hbehind s u hu hs]
    rfl

/-- Marks apart, the digits are left as they are. -/
theorem filter_groupDigits (hs : ∀ u ∈ s, isDigitUnit u = true) :
    (groupDigits s).filter (· ≠ comma) = s := by
  induction s with
  | nil => rfl
  | cons u s ih =>
    obtain ⟨hu, hs⟩ := List.forall_mem_cons.mp hs
    have hmark : ([comma] : JsString).filter (· ≠ comma) = [] := by decide
    rw [groupDigits_cons, List.filter_cons_of_pos (by simpa using ne_comma_of_isDigitUnit hu),
      List.filter_append, ih hs]
    split_ifs
    · rw [hmark, List.nil_append]
    · rfl

theorem mem_groupDigits {u : UInt16} (hu : u ∈ groupDigits s) : u ∈ s ∨ u = comma := by
  induction s with
  | nil => cases hu
  | cons d s ih =>
    rw [groupDigits_cons, List.mem_cons, List.mem_append] at hu
    rcases hu with rfl | hmark | hrest
    · exact .inl List.mem_cons_self
    · split_ifs at hmark
      · exact .inr (List.mem_singleton.mp hmark)
      · cases hmark
    · exact (ih hrest).imp_left (List.mem_cons_of_mem d)

/-- Groups of three digits from the right, of which the first may have fewer. -/
def InThrees (s : JsString) : Prop :=
  ∃ first rest, s.splitOn comma = first :: rest ∧ 0 < first.length ∧ first.length ≤ 3 ∧
    (∀ group ∈ rest, group.length = 3) ∧
    ∀ group ∈ first :: rest, ∀ u ∈ group, isDigitUnit u = true

theorem inThrees_groupDigits (hne : s ≠ []) (hs : ∀ u ∈ s, isDigitUnit u = true) :
    InThrees (groupDigits s) := by
  -- the first group has what is left of the length
  suffices hsplit : ∃ first rest, (groupDigits s).splitOn comma = first :: rest ∧
      0 < first.length ∧ first.length ≤ 3 ∧ first.length % 3 = s.length % 3 ∧
      (∀ group ∈ rest, group.length = 3) ∧
      ∀ group ∈ first :: rest, ∀ u ∈ group, isDigitUnit u = true by
    obtain ⟨first, rest, hsplit, hpos, hle, -, hrest, hdigits⟩ := hsplit
    exact ⟨first, rest, hsplit, hpos, hle, hrest, hdigits⟩
  induction s with
  | nil => exact absurd rfl hne
  | cons u s ih =>
    obtain ⟨hu, hs⟩ := List.forall_mem_cons.mp hs
    have hcomma : u ≠ comma := ne_comma_of_isDigitUnit hu
    have hnot : comma ∉ [u] := by simpa using hcomma.symm
    by_cases hnil : s = []
    · subst hnil
      refine ⟨[u], [], List.splitOn_eq_singleton hnot, ?_⟩
      simp [hu]
    · obtain ⟨first, rest, hsplit, hpos, hle, hmod, hrest, hdigits⟩ := ih hnil hs
      rw [groupDigits_cons]
      by_cases hthree : s.length % 3 = 0
      · have hfirst : first.length = 3 := by omega
        refine ⟨[u], first :: rest, ?_, Nat.one_pos, by simp, ?_, ?_, ?_⟩
        · rw [if_pos ⟨hnil, hthree⟩, ← hsplit]
          exact List.splitOn_append_cons_self_of_not_mem hnot _
        · rw [List.length_singleton, List.length_cons]
          omega
        · exact List.forall_mem_cons.mpr ⟨hfirst, hrest⟩
        · exact List.forall_mem_cons.mpr ⟨by simpa using hu, hdigits⟩
      · refine ⟨u :: first, rest, ?_, Nat.succ_pos _, ?_, ?_, hrest, ?_⟩
        · rw [if_neg (mt And.right hthree), List.nil_append, List.splitOn_cons_eq_if_modifyHead,
            if_neg (by simpa using hcomma), hsplit, List.modifyHead_cons]
        · rw [List.length_cons]
          omega
        · rw [List.length_cons, List.length_cons]
          omega
        · obtain ⟨hfirst, hothers⟩ := List.forall_mem_cons.mp hdigits
          exact List.forall_mem_cons.mpr ⟨List.forall_mem_cons.mpr ⟨hu, hfirst⟩, hothers⟩

end

/-! ### What is shown -/

/-- `-` -/
def minus : UInt16 := 0x2D

/-- The digits behind the point. -/
def fractionDigits (amount : ℕ) (decimals : ℕ) : JsString :=
  ((units (toString (amount % 10 ^ decimals))).padStart decimals zeroDigit).rdropWhile
    (· = zeroDigit)

/-- What is shown behind the sign. -/
def unsignedText (amount : ℕ) (decimals : ℕ) : JsString :=
  insertAt groupPlace [comma] none (units (toString (amount / 10 ^ decimals))) ++
    if fractionDigits amount decimals = [] then [] else point :: fractionDigits amount decimals

section

variable {amount decimals : ℕ}

theorem fractionDigits_zero (amount : ℕ) : fractionDigits amount 0 = [] := by
  rw [fractionDigits, pow_zero, Nat.mod_one]
  decide

theorem unsignedText_eq :
    unsignedText amount decimals =
      groupDigits (units (toString (amount / 10 ^ decimals))) ++
        if fractionDigits amount decimals = [] then []
        else point :: fractionDigits amount decimals := by
  rw [unsignedText, insertAt_groupPlace (isDigitUnit_of_mem_toString _)]

theorem isDigitUnit_of_mem_fractionDigits :
    ∀ u ∈ fractionDigits amount decimals, isDigitUnit u = true := by
  intro u hu
  have hpadded := JsString.isDigitUnit_padStart
    (isDigitUnit_of_mem_toString (amount % 10 ^ decimals)) decimals
  exact hpadded u ((List.rdropWhile_prefix _ _).subset hu)

/-- The digits behind the point, and zeros up to the decimal places, write the fraction. -/
theorem digits_fractionDigits :
    (fractionDigits amount decimals).length ≤ decimals ∧
      (fractionDigits amount decimals).digits *
        10 ^ (decimals - (fractionDigits amount decimals).length) = amount % 10 ^ decimals := by
  by_cases hzero : decimals = 0
  · subst hzero
    rw [fractionDigits_zero, pow_zero, Nat.mod_one]
    exact ⟨le_rfl, by decide⟩
  · set fraction := amount % 10 ^ decimals with hfraction
    set padded := (units (toString fraction)).padStart decimals zeroDigit with hpadded
    have hle : (units (toString fraction)).length ≤ decimals := by
      rw [length_units_toString, Nat.length_toDigits_le_iff (by omega) (by omega)]
      exact Nat.mod_lt _ (by positivity)
    have hlength : padded.length = decimals := by
      rw [hpadded, JsString.padStart, List.length_append, List.length_replicate]
      omega
    have hdrop : fractionDigits amount decimals = padded.rdropWhile (· = zeroDigit) := rfl
    have hback : (fractionDigits amount decimals).padEnd decimals zeroDigit = padded := by
      rw [hdrop, ← hlength]
      exact JsString.padEnd_rdropWhile padded zeroDigit
    refine ⟨?_, ?_⟩
    · rw [hdrop, ← hlength]
      exact (List.rdropWhile_prefix _ _).length_le
    · have hdigits : ∀ u ∈ fractionDigits amount decimals, isDigitUnit u = true :=
        isDigitUnit_of_mem_fractionDigits
      have hvalue := JsString.digits_padEnd hdigits decimals
      calc (fractionDigits amount decimals).digits *
            10 ^ (decimals - (fractionDigits amount decimals).length)
          = padded.digits := by rw [← hvalue, ← hback]; rfl
        _ = (units (toString fraction)).digits :=
            JsString.digits_padStart (isDigitUnit_of_mem_toString fraction) decimals
        _ = fraction := digits_units_toString fraction

theorem formatTokenAmount_eq (amount : ℤ) (decimals : ℕ) :
    formatTokenAmount amount decimals =
      (if amount < 0 then [minus] else []) ++ unsignedText amount.natAbs decimals := by
  have hsign : units "-" = [minus] := by decide
  simp only [formatTokenAmount, hsign, unsignedText_eq]
  by_cases hzero : decimals = 0
  · subst hzero
    rw [if_pos rfl, fractionDigits_zero, if_pos rfl, List.append_nil]
  · rw [if_neg hzero, List.append_assoc, fractionDigits]
    simp only [List.length_pos_iff, ne_eq, ite_not]

theorem isNumeral_unsignedText :
    IsNumeral ((unsignedText amount decimals).filter (· ≠ comma))
      (units (toString (amount / 10 ^ decimals))) (fractionDigits amount decimals) := by
  have hwhole := isDigitUnit_of_mem_toString (amount / 10 ^ decimals)
  have hfraction : ∀ u ∈ fractionDigits amount decimals, isDigitUnit u = true :=
    isDigitUnit_of_mem_fractionDigits
  refine ⟨?_, hwhole, hfraction, List.append_ne_nil_of_left_ne_nil (units_toString_ne_nil _) _⟩
  rw [unsignedText_eq, List.filter_append, filter_groupDigits hwhole]
  by_cases hnil : fractionDigits amount decimals = []
  · rw [if_pos hnil]
    exact .inl ⟨List.append_nil _, hnil⟩
  · rw [if_neg hnil]
    refine .inr (congrArg _ (List.filter_eq_self.mpr ?_))
    exact List.forall_mem_cons.mpr ⟨by decide, fun u hu =>
      decide_eq_true (ne_comma_of_isDigitUnit (hfraction u hu))⟩

theorem IsNumeral.trim_eq_self {s whole fraction : JsString} (hs : IsNumeral s whole fraction) :
    s.trim = s := by
  refine JsString.trim_eq_self fun u hu => ?_
  have hspace : isSpaceUnit point = false := by decide
  have hparts : u ∈ whole ∨ u = point ∨ u ∈ fraction := by
    rcases hs.shape with ⟨rfl, -⟩ | rfl
    · exact .inl hu
    · simpa using hu
  rcases hparts with hwhole | rfl | hfraction
  · exact JsString.isSpaceUnit_of_isDigitUnit (hs.whole_digits u hwhole)
  · exact hspace
  · exact JsString.isSpaceUnit_of_isDigitUnit (hs.fraction_digits u hfraction)

theorem unsignedText_units :
    ∀ u ∈ unsignedText amount decimals, isDigitUnit u = true ∨ u = comma ∨ u = point := by
  intro u hu
  rw [unsignedText_eq, List.mem_append] at hu
  rcases hu with hwhole | htail
  · exact (mem_groupDigits hwhole).imp (isDigitUnit_of_mem_toString _ u) .inl
  · split_ifs at htail
    · cases htail
    · rcases List.mem_cons.mp htail with hpoint | hfraction
      · exact .inr (.inr hpoint)
      · exact .inl (isDigitUnit_of_mem_fractionDigits u hfraction)

theorem minus_notMem_unsignedText : minus ∉ unsignedText amount decimals := fun h => by
  rcases unsignedText_units minus h with hdigit | hcomma | hpoint
  · exact absurd hdigit (by decide)
  · exact absurd hcomma (by decide)
  · exact absurd hpoint (by decide)

/-- The point, if there is one, ends the groups. -/
theorem span_unsignedText :
    (unsignedText amount decimals).takeWhile (· ≠ point) =
        groupDigits (units (toString (amount / 10 ^ decimals))) ∧
      (unsignedText amount decimals).dropWhile (· ≠ point) =
        if fractionDigits amount decimals = [] then []
        else point :: fractionDigits amount decimals := by
  have hwhole : ∀ u ∈ groupDigits (units (toString (amount / 10 ^ decimals))),
      decide (u ≠ point) = true := by
    intro u hu
    rcases mem_groupDigits hu with hdigit | rfl
    · exact decide_eq_true
        (ne_point_of_isDigitUnit (isDigitUnit_of_mem_toString (amount / 10 ^ decimals) u hdigit))
    · decide
  rw [unsignedText_eq, List.takeWhile_append_of_pos hwhole, List.dropWhile_append_of_pos hwhole]
  split_ifs
  · exact ⟨List.append_nil _, rfl⟩
  · rw [List.takeWhile_cons_of_neg (by simp), List.dropWhile_cons_of_neg (by simp)]
    exact ⟨List.append_nil _, rfl⟩

/-- Behind a point there are digits, and the last one counts. -/
theorem getLast?_unsignedText (hpoint : point ∈ unsignedText amount decimals) :
    ∃ u, (unsignedText amount decimals).getLast? = some u ∧ isDigitUnit u = true ∧
      u ≠ zeroDigit := by
  by_cases hnil : fractionDigits amount decimals = []
  · rw [unsignedText_eq, if_pos hnil, List.append_nil] at hpoint
    rcases mem_groupDigits hpoint with hdigit | hcomma
    · exact absurd (isDigitUnit_of_mem_toString _ point hdigit) (by decide)
    · exact absurd hcomma (by decide)
  · refine ⟨(fractionDigits amount decimals).getLast hnil, ?_, ?_, ?_⟩
    · rw [unsignedText_eq, if_neg hnil, List.getLast?_append, List.getLast?_cons,
        List.getLast?_eq_some_getLast hnil, Option.getD_some, Option.some_or]
    · exact isDigitUnit_of_mem_fractionDigits _ (List.getLast_mem hnil)
    · have hlast := List.rdropWhile_last_not (· = zeroDigit) _ hnil
      exact fun hzero => hlast (decide_eq_true hzero)

/-- Without its marks, the text is read as the amount. -/
theorem parseTokenAmount_unsignedText :
    parseTokenAmount ((unsignedText amount decimals).filter (· ≠ comma)) decimals =
      .ok amount := by
  have hs : IsNumeral ((unsignedText amount decimals).filter (· ≠ comma)) _ _ :=
    isNumeral_unsignedText
  obtain ⟨hlength, hvalue⟩ : (fractionDigits amount decimals).length ≤ decimals ∧ _ :=
    digits_fractionDigits
  have hparse : parseTokenAmount ((unsignedText amount decimals).filter (· ≠ comma)) decimals = _ :=
    parseTokenAmount_of_isNumeral (hs.trim_eq_self.symm ▸ hs)
  have hsum : amount / 10 ^ decimals * 10 ^ decimals + amount % 10 ^ decimals = amount :=
    Nat.div_add_mod' amount (10 ^ decimals)
  rw [hparse, if_neg (not_lt.mpr hlength), digits_units_toString]
  refine congrArg Except.ok ?_
  rw [← hvalue] at hsum
  exact_mod_cast hsum

end

/-- What is shown without its sign. -/
def withoutSign (amount : ℤ) (shown : JsString) : JsString :=
  if amount < 0 then shown.tail else shown

/-- What is shown of an amount: behind a sign, a whole part in groups of three, and a fraction
without zeros at its end, if there is one; read without the sign and the marks, it is the amount. -/
structure Shows (decimals : ℕ) (amount : ℤ) (shown : JsString) : Prop where
  parsed : parseTokenAmountThrowing ((withoutSign amount shown).filter (· ≠ comma)) decimals =
    .ok |amount|
  sign : minus ∈ shown ↔ amount < 0
  sign_front : amount < 0 → shown.head? = some minus ∧ minus ∉ shown.tail
  whole : InThrees ((withoutSign amount shown).takeWhile (· ≠ point))
  marks : comma ∉ (withoutSign amount shown).dropWhile (· ≠ point)
  fraction : point ∈ shown → ∃ u, shown.getLast? = some u ∧ isDigitUnit u = true ∧ u ≠ zeroDigit

theorem withoutSign_formatTokenAmount (amount : ℤ) (decimals : ℕ) :
    withoutSign amount (formatTokenAmount amount decimals) =
      unsignedText amount.natAbs decimals := by
  rw [formatTokenAmount_eq, withoutSign]
  split_ifs
  · rfl
  · rfl

theorem shows_formatTokenAmount (decimals : ℕ) (amount : ℤ) :
    Shows decimals amount (formatTokenAmount amount decimals) := by
  have htext := withoutSign_formatTokenAmount amount decimals
  obtain ⟨hwhole, htail⟩ : (unsignedText amount.natAbs decimals).takeWhile (· ≠ point) = _ ∧ _ :=
    span_unsignedText
  refine ⟨?_, ?_, fun hneg => ?_, ?_, ?_, fun hpoint => ?_⟩
  · rw [htext, parseTokenAmountThrowing_eq_ok_iff, parseTokenAmount_unsignedText,
      Int.natCast_natAbs]
  · rw [formatTokenAmount_eq, List.mem_append]
    refine (or_iff_left minus_notMem_unsignedText).trans ?_
    split_ifs with hneg
    · exact iff_of_true List.mem_cons_self hneg
    · exact iff_of_false List.not_mem_nil hneg
  · rw [formatTokenAmount_eq, if_pos hneg]
    exact ⟨rfl, minus_notMem_unsignedText⟩
  · rw [htext, hwhole]
    exact inThrees_groupDigits (units_toString_ne_nil _) (isDigitUnit_of_mem_toString _)
  · rw [htext, htail]
    split_ifs
    · exact List.not_mem_nil
    · rintro (_ | ⟨_, hcomma⟩)
      exact ne_comma_of_isDigitUnit (isDigitUnit_of_mem_fractionDigits _ hcomma) rfl
  · have hsplit := formatTokenAmount_eq amount decimals
    have hmem : point ∈ unsignedText amount.natAbs decimals := by
      rw [hsplit, List.mem_append] at hpoint
      refine hpoint.resolve_left fun h => ?_
      split_ifs at h
      · exact absurd (List.mem_singleton.mp h) (by decide)
      · cases h
    obtain ⟨u, hlast, hu⟩ := getLast?_unsignedText hmem
    refine ⟨u, ?_, hu⟩
    rw [hsplit, List.getLast?_append, hlast]
    rfl

/-- **Formatting loses nothing.** What is shown of an amount is read as it, and so two amounts are
never shown alike. -/
theorem formatTokenAmount_lossless (decimals : ℕ) :
    (∀ amount : ℤ, Shows decimals amount (formatTokenAmount amount decimals)) ∧
      ∀ amount amount' : ℤ,
        formatTokenAmount amount decimals = formatTokenAmount amount' decimals →
          amount = amount' := by
  refine ⟨shows_formatTokenAmount decimals, fun amount amount' h => ?_⟩
  have hshows := shows_formatTokenAmount decimals amount
  have hshows' := shows_formatTokenAmount decimals amount'
  rw [← h] at hshows'
  have hsign : amount < 0 ↔ amount' < 0 := hshows.sign.symm.trans hshows'.sign
  have hsame : withoutSign amount' (formatTokenAmount amount decimals) =
      withoutSign amount (formatTokenAmount amount decimals) := by
    simp only [withoutSign, hsign]
  have hparsed := hshows'.parsed
  rw [hsame, hshows.parsed] at hparsed
  have habs : |amount| = |amount'| := Except.ok.inj hparsed
  rcases abs_eq_abs.mp habs with heq | heq
  · exact heq
  · omega

end Web

end SlaSettle
