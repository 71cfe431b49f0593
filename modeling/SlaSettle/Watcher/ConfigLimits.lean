import SlaSettle.Watcher.Config

/-!
# How far an accepted configuration carries

`Load` checks that the round length and the timeout are positive, in seconds, while the daemon
computes with nanoseconds and with seconds since the year 1, in 64 bits that wrap.

A round length paces the daemon at a clock reading if and only if the next boundary is a time and is
no further away than the longest duration (`paced_iff`): past the last time the daemon does not
sleep, and up to a boundary further away it wakes too early. A timeout reaches the probe unchanged,
with the grace that is added to it, up to 9223372031 seconds and no more (`timeoutKept_iff`).
-/

namespace SlaSettle

namespace Watcher

open Effect Program Go

section

variable {quote : GoString → GoString} {lookup : Lookup} {cfg : LoadedConfig} {nanos : ℕ}

/-! ### Pacing -/

/-- Exact pacing at a clock reading: the daemon sleeps, for a round at most, up to the first
boundary after the reading. -/
structure Paced (nanos : ℕ) (seconds : ℤ) : Prop where
  pos : 0 < untilNextRound (.ofUnixNanos nanos) seconds
  le : untilNextRound (.ofUnixNanos nanos) seconds ≤ seconds * second
  isLeast : IsLeast {m : ℤ | nanos < m ∧ seconds * second ∣ m}
    (nanos + untilNextRound (.ofUnixNanos nanos) seconds)

/-- The next boundary is a time, and a duration away. -/
structure BoundaryFits (nanos seconds : ℕ) : Prop where
  time : (nextBoundary nanos seconds : ℤ) + unixToInternal < 2 ^ 63
  duration : nextBoundary nanos seconds * 10 ^ 9 - nanos < 2 ^ 63

/-- The next boundary among the integers. -/
theorem isLeast_nextBoundary_int (nanos : ℕ) {seconds : ℕ} (hpos : 0 < seconds) :
    IsLeast {m : ℤ | nanos < m ∧ (seconds : ℤ) * second ∣ m}
      ((nextBoundary nanos seconds * 10 ^ 9 : ℕ) : ℤ) := by
  have hround : (seconds : ℤ) * second = (roundNanos seconds : ℕ) := by
    rw [roundNanos, second]
    push_cast
    rfl
  obtain ⟨⟨hlt, hdvd⟩, hleast⟩ := isLeast_nextBoundary nanos hpos
  rw [hround]
  refine ⟨⟨Int.ofNat_lt.mpr hlt, Int.natCast_dvd_natCast.mpr hdvd⟩, ?_⟩
  rintro m ⟨hm, hmdvd⟩
  obtain ⟨k, rfl⟩ := Int.eq_ofNat_of_zero_le (show 0 ≤ m by omega)
  exact Int.ofNat_le.mpr (hleast ⟨Int.ofNat_lt.mp hm, Int.natCast_dvd_natCast.mp hmdvd⟩)

theorem paced_natCast_iff (hclock : ((nanos / 10 ^ 9 : ℕ) : ℤ) + unixToInternal < 2 ^ 63)
    {seconds : ℕ} (hpos : 0 < seconds) (hlt : seconds < 2 ^ 63) :
    Paced nanos seconds ↔ BoundaryFits nanos seconds := by
  have hvalue := untilNextRound_ofUnixNanos hclock hpos hlt
  have hafter := lt_nextBoundary nanos hpos
  have hround := nextBoundary_mul_le nanos seconds
  have hleast := isLeast_nextBoundary_int nanos hpos
  constructor
  · intro h
    have hwait := h.isLeast.unique hleast
    have htime : (nextBoundary nanos seconds : ℤ) + unixToInternal < 2 ^ 63 := by
      by_contra hwrapped
      rw [if_neg hwrapped] at hvalue
      exact absurd h.pos (by rw [hvalue]; exact lt_irrefl 0)
    rw [if_pos htime] at hvalue
    refine ⟨htime, ?_⟩
    have hle : untilNextRound (.ofUnixNanos nanos) seconds ≤ maxDuration :=
      hvalue ▸ min_le_left _ _
    unfold maxDuration at hle
    omega
  · intro h
    have hwait : untilNextRound (.ofUnixNanos nanos) seconds =
        (nextBoundary nanos seconds * 10 ^ 9 : ℕ) - nanos := by
      have hduration := h.duration
      rw [hvalue, if_pos h.time]
      exact min_eq_right (by unfold maxDuration; omega)
    refine ⟨?_, ?_, ?_⟩
    · rw [hwait]
      omega
    · rw [hwait, second]
      unfold roundNanos at hround
      omega
    · rw [hwait, add_sub_cancel]
      exact hleast

/-- **Pacing of accepted configurations.** -/
theorem paced_iff (h : load quote lookup = .ok cfg)
    (hclock : ((nanos / 10 ^ 9 : ℕ) : ℤ) + unixToInternal < 2 ^ 63) :
    Paced nanos cfg.roundLengthSeconds ↔ BoundaryFits nanos cfg.roundLengthSeconds.toNat := by
  obtain ⟨hpos, hlt⟩ := roundLengthSeconds_bounds h
  obtain ⟨seconds, hseconds⟩ := Int.eq_ofNat_of_zero_le hpos.le
  rw [hseconds, Int.toNat_natCast]
  exact paced_natCast_iff hclock (by omega) (by omega)

/-- A round of a minute, in the middle of one. -/
theorem paced_default : Paced 1700000000123456789 60 := by
  have hload : load (fun v => v) (sampleEnv [] []) = .ok (loadedConfig (sampleEnv [] [])) := rfl
  have hfits : BoundaryFits 1700000000123456789 60 := ⟨by decide, by decide⟩
  exact (paced_iff hload (by decide)).mpr hfits

/-- **The longest round there is** is accepted, and with it the daemon does not sleep. -/
theorem not_paced_longest :
    ∃ cfg, load (fun v => v) (sampleEnv (bytes "9223372036854775807") []) = .ok cfg ∧
      untilNextRound (.ofUnixNanos 1700000000123456789) cfg.roundLengthSeconds = 0 ∧
      ¬ Paced 1700000000123456789 cfg.roundLengthSeconds :=
  ⟨_, rfl, by decide, fun h => absurd h.pos (by decide)⟩

/-! ### Timeouts -/

/-- The deadline that a round gives the probe. -/
def probeDeadline (cfg : Config) : ℤ := int64 (cfg.httpTimeout + 5 * second)

/-- A timeout of `n` seconds is kept: it is stored as it is, the probe gets five seconds more, both
are positive, and no probe of the daemon gets anything else. -/
structure TimeoutKept (cfg : Config) (n : ℤ) : Prop where
  stored : cfg.httpTimeout = n * second
  stored_pos : 0 < cfg.httpTimeout
  deadline : probeDeadline cfg = (n + 5) * second
  deadline_pos : 0 < probeDeadline cfg
  probes : ∀ (lib : GoLib) (client : Client) (rounds : ℕ) (tr : List (Event watcherInterface))
    (r : Except Stop Unit), Runs (I := watcherInterface) (main lib cfg client rounds) tr r →
      ∀ url clientTimeout ctxTimeout outcome,
        (⟨.httpGet url clientTimeout ctxTimeout, outcome⟩ : Event watcherInterface) ∈ tr →
          clientTimeout = n * second ∧ ctxTimeout = (n + 5) * second

/-- Every probe of a daemon gets its timeout and its deadline. -/
theorem timeouts_of_probe {cfg : Config} {lib : GoLib} {client : Client} {rounds : ℕ}
    {tr : List (Event watcherInterface)} {r : Except Stop Unit}
    (h : Runs (I := watcherInterface) (main lib cfg client rounds) tr r) {url : GoString}
    {clientTimeout ctxTimeout : ℤ} {outcome : Except HttpError ℤ}
    (hmem : (⟨.httpGet url clientTimeout ctxTimeout, outcome⟩ : Event watcherInterface) ∈ tr) :
    clientTimeout = cfg.httpTimeout ∧ ctxTimeout = probeDeadline cfg := by
  have hcalls := ((okObeys_main (P := fun c => ∀ url clientTimeout ctxTimeout,
    c = .httpGet url clientTimeout ctxTimeout →
      clientTimeout = cfg.httpTimeout ∧ ctxTimeout = probeDeadline cfg)
    ?_ ?_ ?_ ?_ ?_ rounds).exec h).1
  · exact hcalls _ hmem url clientTimeout ctxTimeout rfl
  · rintro hf _ hc url clientTimeout ctxTimeout rfl
    exact hc.elim
  · rintro url clientTimeout ctxTimeout hget
    cases hget
    exact ⟨rfl, rfl⟩
  · rintro url clientTimeout ctxTimeout ⟨⟩
  · rintro url clientTimeout ctxTimeout ⟨⟩
  · rintro d url clientTimeout ctxTimeout ⟨⟩

/-- What is stored of the timeout of an accepted environment. -/
theorem httpTimeout_of_load (h : load quote lookup = .ok cfg) :
    cfg.httpTimeout = int64 ((timeoutSeconds lookup).1 * second) ∧
      0 < (timeoutSeconds lookup).1 := by
  obtain ⟨-, rfl⟩ := load_eq_ok_iff.mp h
  exact ⟨rfl, (positiveInt_bounds (by decide) (by decide)).1⟩

/-- **Timeouts of accepted configurations.** -/
theorem timeoutKept_iff (h : load quote lookup = .ok cfg) :
    TimeoutKept cfg.toConfig (timeoutSeconds lookup).1 ↔
      (timeoutSeconds lookup).1 ≤ 9223372031 := by
  obtain ⟨hstored, hpos⟩ := httpTimeout_of_load h
  obtain ⟨n, hn⟩ : ∃ n, (timeoutSeconds lookup).1 = n := ⟨_, rfl⟩
  have hsecond : second = 10 ^ 9 := rfl
  rw [hn] at hstored hpos ⊢
  constructor
  · intro h
    -- the deadline is less than 2 ^ 63
    have hdeadline := h.deadline
    unfold probeDeadline int64 at hdeadline
    rw [hsecond] at hdeadline
    omega
  · intro hle
    have hbounds : 0 < n * second ∧ n * second < (n + 5) * second ∧ (n + 5) * second < 2 ^ 63 := by
      rw [hsecond]
      omega
    have hkept : cfg.httpTimeout = n * second := by
      rw [hstored]
      exact int64_of_lt (by omega) (by omega)
    have hdeadline : probeDeadline cfg.toConfig = (n + 5) * second := by
      rw [probeDeadline, hkept, ← add_mul]
      exact int64_of_lt (by omega) (by omega)
    refine ⟨hkept, by omega, hdeadline, by omega, ?_⟩
    intro lib client rounds tr r hrun url clientTimeout ctxTimeout outcome hmem
    obtain ⟨rfl, rfl⟩ := timeouts_of_probe hrun hmem
    exact ⟨hkept, hdeadline⟩

/-- The default timeout. -/
theorem timeoutKept_default : TimeoutKept (loadedConfig (sampleEnv [] [])).toConfig 10 := by
  have hload : load (fun v => v) (sampleEnv [] []) = .ok (loadedConfig (sampleEnv [] [])) := rfl
  exact (timeoutKept_iff hload).mpr (by decide)

/-- **The least timeout that is not kept**: the deadline of the probe is negative. -/
theorem not_timeoutKept_least :
    ∃ cfg, load (fun v => v) (sampleEnv [] (bytes "9223372032")) = .ok cfg ∧
      cfg.httpTimeout = 9223372032 * second ∧
      probeDeadline cfg.toConfig = -9223372036709551616 ∧
      ¬ TimeoutKept cfg.toConfig 9223372032 :=
  ⟨_, rfl, by decide, by decide, fun h => absurd h.deadline_pos (by decide)⟩

end

end Watcher

end SlaSettle
