import Mathlib.Order.Bounds.Basic
import SlaSettle.Go.Time

/-!
# Pacing the daemon

`internal/round`: the rounds of the local clock, by which the daemon sleeps.
`untilNextRound_ofUnixNanos` gives the time it sleeps for every clock reading and round length, and
`untilNextRound_eq` says that, for readings in range, it sleeps exactly up to the next boundary.
-/

namespace SlaSettle

namespace Watcher

open Go

/-- `round.CurrentID`. -/
def currentID (t : Time) (roundLengthSeconds : ℤ) : ℤ :=
  uint64 t.unix / uint64 roundLengthSeconds

/-- `round.StartTime`. -/
def startTime (id roundLengthSeconds : ℤ) : Time :=
  .ofUnix (int64 (int64 id * int64 roundLengthSeconds))

/-- `round.UntilNextRound`. -/
def untilNextRound (now : Time) (roundLengthSeconds : ℤ) : ℤ :=
  let currentRound := currentID now roundLengthSeconds
  let nextRoundStart := startTime (uint64 (currentRound + 1)) roundLengthSeconds
  let d := nextRoundStart.sub now
  if d < 0 then 0 else d

/-- The length of a round of `seconds` seconds, in nanoseconds. -/
def roundNanos (seconds : ℕ) : ℕ := seconds * 10 ^ 9

/-! ### Boundaries -/

/-- The first boundary after a clock reading, in seconds. -/
def nextBoundary (nanos seconds : ℕ) : ℕ := (nanos / 10 ^ 9 / seconds + 1) * seconds

section

variable {nanos seconds : ℕ}

theorem nextBoundary_mul : nextBoundary nanos seconds * 10 ^ 9 =
    (nanos / roundNanos seconds + 1) * roundNanos seconds := by
  rw [nextBoundary, roundNanos, Nat.div_div_eq_div_mul, mul_comm (10 ^ 9) seconds, mul_assoc]

theorem lt_nextBoundary (nanos : ℕ) {seconds : ℕ} (hpos : 0 < seconds) :
    nanos < nextBoundary nanos seconds * 10 ^ 9 := by
  rw [nextBoundary_mul, mul_comm]
  exact Nat.lt_mul_div_succ nanos (Nat.mul_pos hpos (by norm_num))

theorem nextBoundary_le (nanos seconds : ℕ) :
    nextBoundary nanos seconds ≤ nanos / 10 ^ 9 + seconds := by
  rw [nextBoundary, add_mul, one_mul]
  exact Nat.add_le_add_right (Nat.div_mul_le_self _ _) _

theorem nextBoundary_mul_le (nanos seconds : ℕ) :
    nextBoundary nanos seconds * 10 ^ 9 ≤ nanos + roundNanos seconds := by
  rw [nextBoundary_mul, add_mul, one_mul]
  exact Nat.add_le_add_right (Nat.div_mul_le_self _ _) _

/-- It is the least multiple of the round length after the reading. -/
theorem isLeast_nextBoundary (nanos : ℕ) {seconds : ℕ} (hpos : 0 < seconds) :
    IsLeast {m | nanos < m ∧ roundNanos seconds ∣ m} (nextBoundary nanos seconds * 10 ^ 9) := by
  refine ⟨⟨lt_nextBoundary nanos hpos, ⟨nanos / roundNanos seconds + 1, ?_⟩⟩, ?_⟩
  · rw [nextBoundary_mul, mul_comm]
  · rintro _ ⟨hlt, k, rfl⟩
    have hk : nanos / roundNanos seconds < k := Nat.div_lt_of_lt_mul hlt
    rw [nextBoundary_mul, mul_comm]
    exact Nat.mul_le_mul_left _ hk

/-! ### Sleeping -/

theorem clamp_eq_max (d : ℤ) : (if d < 0 then 0 else d) = max 0 d := by
  split <;> omega

/-- The daemon sleeps up to the second that it takes for the next boundary. -/
theorem untilNextRound_eq_max
    (hclock : ((nanos / 10 ^ 9 : ℕ) : ℤ) + unixToInternal < 2 ^ 63) (hlt : seconds < 2 ^ 63) :
    untilNextRound (.ofUnixNanos nanos) seconds =
      max 0 ((Time.ofUnix (int64 (nextBoundary nanos seconds))).sub (.ofUnixNanos nanos)) := by
  have hnow : ((nanos / 10 ^ 9 : ℕ) : ℤ) < 2 ^ 63 - 1 := by
    unfold unixToInternal at hclock
    omega
  have hid := Nat.div_le_self (nanos / 10 ^ 9) seconds
  have hcurrent : currentID (.ofUnixNanos nanos) seconds = (nanos / 10 ^ 9 / seconds : ℕ) := by
    rw [currentID, Time.unix_ofUnixNanos hclock, uint64_of_lt (by omega) (by omega),
      uint64_of_lt (by omega) (by omega)]
    rfl
  obtain ⟨id, hid'⟩ : ∃ id, nanos / 10 ^ 9 / seconds = id := ⟨_, rfl⟩
  rw [hid'] at hid hcurrent
  have hid1 : uint64 ((id : ℤ) + 1) = (id : ℤ) + 1 := uint64_of_lt (by omega) (by omega)
  have hid2 : int64 ((id : ℤ) + 1) = (id : ℤ) + 1 := int64_of_lt (by omega) (by omega)
  have hseconds : int64 (seconds : ℤ) = seconds := int64_of_lt (by omega) (by omega)
  have hstart : startTime (uint64 ((id : ℤ) + 1)) seconds =
      .ofUnix (int64 (nextBoundary nanos seconds)) := by
    rw [startTime, hid1, hid2, hseconds, nextBoundary, hid']
    push_cast
    rfl
  rw [untilNextRound, hcurrent, hstart]
  exact clamp_eq_max _

/-- **Pacing, with every conversion that can wrap.** The daemon sleeps up to the next boundary, but
no longer than the longest duration; past the last time there is, it does not sleep at all. -/
theorem untilNextRound_ofUnixNanos
    (hclock : ((nanos / 10 ^ 9 : ℕ) : ℤ) + unixToInternal < 2 ^ 63) (hpos : 0 < seconds)
    (hlt : seconds < 2 ^ 63) :
    untilNextRound (.ofUnixNanos nanos) seconds =
      if (nextBoundary nanos seconds : ℤ) + unixToInternal < 2 ^ 63 then
        min maxDuration ((nextBoundary nanos seconds * 10 ^ 9 : ℕ) - nanos)
      else 0 := by
  have hafter := lt_nextBoundary nanos hpos
  have hle := nextBoundary_le nanos seconds
  rw [untilNextRound_eq_max hclock hlt, Time.sub_ofUnixNanos hclock hafter (by omega)]
  split
  · exact max_eq_right (le_min (by decide) (by omega))
  · exact max_eq_left (by decide)

/-- **The daemon sleeps up to the next boundary.** -/
theorem untilNextRound_eq (h : nanos + roundNanos seconds < Time.readingBound)
    (hpos : 0 < seconds) (hs : seconds < 2 ^ 32) :
    untilNextRound (.ofUnixNanos nanos) seconds =
      ((nanos / roundNanos seconds + 1) * roundNanos seconds - nanos : ℕ) := by
  have hafter := lt_nextBoundary nanos hpos
  have hle := nextBoundary_mul_le nanos seconds
  have hbound : nextBoundary nanos seconds < 2 ^ 62 :=
    Nat.lt_of_mul_lt_mul_right (hle.trans_lt h)
  have hnow : nanos / 10 ^ 9 < 2 ^ 62 :=
    Nat.div_lt_of_lt_mul (by rw [mul_comm]; exact (Nat.le_add_right _ _).trans_lt h)
  have hround : roundNanos seconds < 2 ^ 63 := by
    rw [roundNanos]
    omega
  have hinternal : unixToInternal = 62135596800 := rfl
  rw [untilNextRound_ofUnixNanos (by omega) hpos (by omega), if_pos (by omega), ← nextBoundary_mul,
    Nat.cast_sub hafter.le]
  exact min_eq_right (by unfold maxDuration; omega)

end

end Watcher

end SlaSettle
