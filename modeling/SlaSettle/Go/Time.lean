import Mathlib.Data.Int.Basic
import Mathlib.Tactic.Ring

/-!
# Go integers and times

The wrapping conversions `int64(x)` and `uint64(x)`, durations in `int64` nanoseconds, and the part
of `time.Time` that callers use: `time.Unix`, `t.Unix()` and the saturating `t.Sub(u)`. A time is a
number of seconds since the year 1 and the nanoseconds within the second, as in Go's own
representation, so the offset between the two epochs takes part in the wrapping.

`Time.ofUnixNanos` is a clock reading, given as nanoseconds since the Unix epoch. `sub_ofUnixNanos`
is the time from a reading to a later second, for every reading that is a time.
-/

namespace Go

/-! ### Wrapping -/

/-- Conversion to `uint64`. -/
def uint64 (x : ℤ) : ℤ := x % 2 ^ 64

/-- Conversion to `int64`. -/
def int64 (x : ℤ) : ℤ := (x + 2 ^ 63) % 2 ^ 64 - 2 ^ 63

theorem uint64_of_lt {x : ℤ} (h0 : 0 ≤ x) (h : x < 2 ^ 64) : uint64 x = x :=
  Int.emod_eq_of_lt h0 h

theorem int64_of_lt {x : ℤ} (h0 : -2 ^ 63 ≤ x) (h : x < 2 ^ 63) : int64 x = x := by
  rw [int64, Int.emod_eq_of_lt (by omega) (by omega)]
  omega

theorem int64_of_ge {x : ℤ} (h : 2 ^ 63 ≤ x) (hlt : x < 2 ^ 63 + 2 ^ 64) :
    int64 x = x - 2 ^ 64 := by
  rw [int64, ← Int.sub_emod_right, Int.emod_eq_of_lt (by omega) (by omega)]
  omega

/-! ### Durations -/

/-- `time.Second`; durations are in nanoseconds. -/
def second : ℤ := 10 ^ 9

/-- The longest duration. -/
def maxDuration : ℤ := 2 ^ 63 - 1

/-- The shortest duration. -/
def minDuration : ℤ := -2 ^ 63

/-! ### Times -/

/-- A time: seconds since the year 1, and nanoseconds. -/
structure Time where
  sec : ℤ
  nsec : ℤ
  deriving DecidableEq

/-- The seconds from the year 1 to the Unix epoch. -/
def unixToInternal : ℤ := 62135596800

namespace Time

/-- `time.Unix(sec, 0)`. -/
def ofUnix (sec : ℤ) : Time := ⟨int64 (sec + unixToInternal), 0⟩

/-- `t.Unix()`. -/
def unix (t : Time) : ℤ := int64 (t.sec - unixToInternal)

/-- `t.Sub(u)`, which saturates. -/
def sub (t u : Time) : ℤ :=
  max minDuration (min maxDuration ((t.sec - u.sec) * second + (t.nsec - u.nsec)))

/-- The reading of a clock, in nanoseconds since the Unix epoch. -/
def ofUnixNanos (nanos : ℕ) : Time := ⟨nanos / 10 ^ 9 + unixToInternal, nanos % 10 ^ 9⟩

/-- Clock readings stay below this bound: `2^62` seconds. -/
def readingBound : ℕ := 2 ^ 62 * 10 ^ 9

theorem ofUnixNanos_eq (nanos : ℕ) :
    ofUnixNanos nanos = ⟨(nanos / 10 ^ 9 : ℕ) + unixToInternal, (nanos % 10 ^ 9 : ℕ)⟩ := by
  push_cast
  rfl

theorem unix_ofUnixNanos {nanos : ℕ}
    (hclock : ((nanos / 10 ^ 9 : ℕ) : ℤ) + unixToInternal < 2 ^ 63) :
    (ofUnixNanos nanos).unix = (nanos / 10 ^ 9 : ℕ) := by
  rw [unix, ofUnixNanos_eq, add_sub_cancel_right]
  exact int64_of_lt (by omega) (by unfold unixToInternal at hclock; omega)

/-- The seconds of `time.Unix(int64(sec), 0)`, which may wrap once. -/
theorem ofUnix_int64_sec {sec : ℤ} (h0 : 0 ≤ sec) (h : sec < 2 ^ 64) :
    (ofUnix (int64 sec)).sec =
      if sec + unixToInternal < 2 ^ 63 then sec + unixToInternal
      else sec + unixToInternal - 2 ^ 64 := by
  have hinternal : unixToInternal = 62135596800 := rfl
  by_cases hfits : sec + unixToInternal < 2 ^ 63
  · rw [ofUnix, if_pos hfits, int64_of_lt (x := sec) (by omega) (by omega),
      int64_of_lt (by omega) hfits]
  rw [ofUnix, if_neg hfits]
  by_cases hlt : sec < 2 ^ 63
  · rw [int64_of_lt (x := sec) (by omega) hlt, int64_of_ge (by omega) (by omega)]
  · rw [int64_of_ge (x := sec) (by omega) (by omega), int64_of_lt (by omega) (by omega)]
    exact sub_add_eq_add_sub _ _ _

/-- The time from a reading to a later second: past the last time there is, that second has wrapped
to a time long past. -/
theorem sub_ofUnixNanos {nanos sec : ℕ}
    (hclock : ((nanos / 10 ^ 9 : ℕ) : ℤ) + unixToInternal < 2 ^ 63)
    (hafter : nanos < sec * 10 ^ 9) (hsec : sec < nanos / 10 ^ 9 + 2 ^ 63) :
    (ofUnix (int64 sec)).sub (ofUnixNanos nanos) =
      if (sec : ℤ) + unixToInternal < 2 ^ 63 then min maxDuration ((sec * 10 ^ 9 : ℕ) - nanos)
      else minDuration := by
  have hinternal : unixToInternal = 62135596800 := rfl
  have hsecond := ofUnix_int64_sec (Int.natCast_nonneg sec) (by omega)
  have hnanos := Nat.div_add_mod' nanos (10 ^ 9)
  rw [sub, hsecond, ofUnixNanos_eq, second, maxDuration, minDuration]
  clear hsecond
  split
  · have hwait : ((sec : ℤ) + unixToInternal - ((nanos / 10 ^ 9 : ℕ) + unixToInternal)) * 10 ^ 9 +
        (0 - (nanos % 10 ^ 9 : ℕ)) = (sec * 10 ^ 9 : ℕ) - nanos := by
      push_cast
      omega
    have hpos : -2 ^ 63 ≤ ((sec * 10 ^ 9 : ℕ) : ℤ) - nanos := by omega
    rw [← hwait] at hpos ⊢
    exact max_eq_right (le_min (by norm_num) hpos)
  · have hwait : ((sec : ℤ) + unixToInternal - 2 ^ 64 -
        ((nanos / 10 ^ 9 : ℕ) + unixToInternal)) * 10 ^ 9 + (0 - (nanos % 10 ^ 9 : ℕ)) ≤
          -2 ^ 63 := by
      omega
    exact max_eq_left ((min_le_right _ _).trans hwait)

end Time

end Go
