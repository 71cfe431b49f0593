import SlaSettle.Js.Arithmetic
import SlaSettle.Js.Canonical
import SlaSettle.Js.Date

/-!
# The latest ledger

`getLatestLedgerInfo` and `currentRoundId` of `api/ledgerInfo.ts`. The RPC's answer is any JSON
value, of which two fields are read and checked, and the round is the floor of a quotient of
doubles. `ledgerInfo_eq_ok_iff` says which answers are accepted, and `currentRoundId_eq` that the
round is the contract's, the integer quotient of the ledger's time by the length of a round.
-/

namespace SlaSettle

namespace Indexer

open Js

/-- The conversions to text of the standard library. -/
structure TextLib where
  /-- `String(value)`, of a JSON value or `undefined` -/
  valueText : Option Json → String
  /-- `String(n)` -/
  numberText : JsNumber → String

/-- What is documented of them: a safe integer is written in decimal. -/
structure TextLib.Documented (lib : TextLib) : Prop where
  numberText_natCast : ∀ n : ℕ, n < 2 ^ 53 → lib.numberText (n : JsNumber) = toString n

/-- `raw?.name`, for a name that no built-in prototype defines. -/
def optionalProperty (raw : Option Json) (name : String) : Option Json :=
  match raw with
  | some (.object fields) => fields.lookup name
  | _ => none

/-- `LedgerInfo`: its time is one that a date can have. -/
structure LedgerInfo where
  sequence : ℕ
  closeTimeMs : ℕ
  closeTimeMs_le : closeTimeMs ≤ maxTime

def invalidLedgerField (lib : TextLib) (field : String) (value : Option Json) : Thrown :=
  .error s!"getLatestLedger returned an invalid {field}: {lib.valueText value}"

/-- The sequence of a ledger: a positive safe integer. -/
def ledgerSequence? : Option Json → Option ℕ
  | some (.number q) => (JsNumber.finite q).safeInteger?.filter (0 < ·)
  | _ => none

/-- The close time of a ledger in milliseconds, from its text in seconds. Digits are never
negative, so a safe integer here is one that is not. -/
def closeTimeMs? : Option Json → Option ℕ
  | some (.string closeTime) =>
    if isCanonical closeTime then
      match (JsNumber.ofText closeTime).safeInteger? with
      | some closeTimeSeconds =>
        (JsNumber.mul (closeTimeSeconds : JsNumber) 1000).safeInteger?.filter (· ≤ maxTime)
      | none => none
    else none
  | _ => none

theorem closeTimeMs?_le {closeTime : Option Json} {ms : ℕ} (h : closeTimeMs? closeTime = some ms) :
    ms ≤ maxTime := by
  unfold closeTimeMs? at h
  split at h
  case h_2 => cases h
  split_ifs at h
  split at h
  case h_2 => cases h
  obtain ⟨-, hle⟩ := Option.filter_eq_some_iff.mp h
  exact of_decide_eq_true hle

/-- The checks of `getLatestLedgerInfo` on what `_getLatestLedger` returned. -/
def ledgerInfo (lib : TextLib) (raw : Option Json) : Except Thrown LedgerInfo :=
  let sequence := optionalProperty raw "sequence"
  match ledgerSequence? sequence with
  | none => .error (invalidLedgerField lib "sequence" sequence)
  | some n =>
    let closeTime := optionalProperty raw "closeTime"
    match h : closeTimeMs? closeTime with
    | none => .error (invalidLedgerField lib "closeTime" closeTime)
    | some ms => .ok ⟨n, ms, closeTimeMs?_le h⟩

def currentRoundId (ledger : LedgerInfo) (roundLengthSeconds : JsNumber) : JsNumber :=
  ((JsNumber.div (ledger.closeTimeMs : JsNumber) 1000).div roundLengthSeconds).floor

/-! ### The answers that are accepted -/

theorem ledgerSequence?_eq_some_iff {value : Option Json} {n : ℕ} :
    ledgerSequence? value = some n ↔ value = some (.number n) ∧ 0 < n ∧ n < 2 ^ 53 := by
  unfold ledgerSequence?
  split
  · rename_i q
    rw [Option.filter_eq_some_iff, JsNumber.safeInteger?_eq_some_iff, JsNumber.natCast_eq,
      JsNumber.finite.injEq, decide_eq_true_eq, Option.some.injEq, Json.number.injEq]
    tauto
  · rename_i hother
    exact iff_of_false nofun fun h => hother _ h.1

private theorem safeInteger?_thousand (t : ℕ) :
    (JsNumber.mul (t : JsNumber) 1000).safeInteger? =
      if t * 1000 < 2 ^ 53 then some (t * 1000) else none :=
  JsNumber.safeInteger?_mul t 1000

/-- **The close times that are accepted** are the decimal texts of the seconds a date can have. -/
theorem closeTimeMs?_eq_some_iff {value : Option Json} {ms : ℕ} :
    closeTimeMs? value = some ms ↔
      ∃ t : ℕ, value = some (.string (toString t)) ∧ ms = t * 1000 ∧ ms ≤ maxTime := by
  constructor
  · intro h
    have hle := closeTimeMs?_le h
    unfold closeTimeMs? at h
    split at h
    case h_2 => cases h
    split_ifs at h with hcanonical
    obtain ⟨t, rfl⟩ := isCanonical_iff.mp hcanonical
    rw [JsNumber.safeInteger?_ofText_toString] at h
    by_cases ht : t < 2 ^ 53
    · rw [if_pos ht] at h
      obtain ⟨hms, -⟩ := Option.filter_eq_some_iff.mp h
      rw [safeInteger?_thousand] at hms
      split_ifs at hms
      exact ⟨t, rfl, (Option.some.inj hms).symm, hle⟩
    · rw [if_neg ht] at h
      cases h
  · rintro ⟨t, rfl, rfl, hle⟩
    have ht : t * 1000 < 2 ^ 53 := lt_of_le_of_lt hle (by decide)
    rw [closeTimeMs?, if_pos (isCanonical_iff.mpr ⟨t, rfl⟩), JsNumber.safeInteger?_ofText_toString,
      if_pos (by omega)]
    dsimp only
    rw [safeInteger?_thousand, if_pos ht, Option.filter_some, if_pos (decide_eq_true hle)]

/-- **The answers that are accepted:** an object with a positive safe sequence and the text of a
close time, in seconds, that a date can have. -/
theorem ledgerInfo_eq_ok_iff {lib : TextLib} {raw : Option Json} {ledger : LedgerInfo} :
    ledgerInfo lib raw = .ok ledger ↔
      (optionalProperty raw "sequence" = some (.number ledger.sequence) ∧ 0 < ledger.sequence ∧
        ledger.sequence < 2 ^ 53) ∧
      ∃ t : ℕ, optionalProperty raw "closeTime" = some (.string (toString t)) ∧
        ledger.closeTimeMs = t * 1000 := by
  have htime : (∃ t : ℕ, optionalProperty raw "closeTime" = some (.string (toString t)) ∧
      ledger.closeTimeMs = t * 1000) ↔
      closeTimeMs? (optionalProperty raw "closeTime") = some ledger.closeTimeMs := by
    rw [closeTimeMs?_eq_some_iff]
    exact ⟨fun ⟨t, htext, hms⟩ => ⟨t, htext, hms, ledger.closeTimeMs_le⟩,
      fun ⟨t, htext, hms, _⟩ => ⟨t, htext, hms⟩⟩
  rw [htime, ← ledgerSequence?_eq_some_iff]
  unfold ledgerInfo
  dsimp only
  split
  · rename_i hnone
    exact iff_of_false nofun fun h => by rw [hnone] at h; cases h.1
  · rename_i n hn
    rw [hn]
    split
    · rename_i hnone
      exact iff_of_false nofun fun h => by rw [hnone] at h; cases h.2
    · rename_i ms hms
      obtain ⟨sequence, closeTimeMs, hle⟩ := ledger
      simp only [hms, Except.ok.injEq, Option.some.injEq, LedgerInfo.mk.injEq]

/-! ### The round of a ledger -/

/-- **The round is the contract's:** the seconds of the ledger divided by the length of a round,
although the quotient is rounded before its floor is taken. -/
theorem currentRoundId_eq {ledger : LedgerInfo} {t l : ℕ} (ht : ledger.closeTimeMs = t * 1000)
    (hl : 0 < l) (hl1024 : l < 2 ^ 1024) :
    currentRoundId ledger (l : JsNumber) = ((t / l : ℕ) : JsNumber) := by
  have hsafe : t < 2 ^ 53 := by
    have hle : t * 1000 ≤ maxTime := ht ▸ ledger.closeTimeMs_le
    rw [maxTime] at hle
    omega
  have hseconds : JsNumber.div ((t * 1000 : ℕ) : JsNumber) 1000 = (t : JsNumber) := by
    have hdiv : JsNumber.div ((t * 1000 : ℕ) : JsNumber) 1000 =
        JsNumber.toDouble (((t * 1000 : ℕ) : ℚ) / 1000) := JsNumber.div_finite (by norm_num)
    have hquotient : ((t * 1000 : ℕ) : ℚ) / 1000 = (t : ℚ) := by
      rw [Nat.cast_mul]
      norm_num
    rw [hdiv, hquotient, JsNumber.toDouble_natCast hsafe]
  rw [currentRoundId, ht, hseconds, JsNumber.floor_div hsafe hl hl1024]

end Indexer

end SlaSettle
