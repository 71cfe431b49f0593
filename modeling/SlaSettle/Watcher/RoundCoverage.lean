import SlaSettle.Watcher.Scene

/-!
# Which rounds are voted in

A daemon should vote in every round of the contract. It wakes up at the boundaries of its own clock,
and votes in the round that the contract is in, whose clock lags behind. At a wake-up the contract
may still be in the previous round (`Behind`).

`rounds_covered`: with rounds of a minute and every call succeeding, the votes of a run miss no
round if and only if a wake-up at which the contract is behind is never followed by one at which it
is not. Where that happens, the round in between is skipped for good: the daemon sleeps through it.
-/

namespace SlaSettle

namespace Watcher

open Effect Program Go

/-! ### Consecutive votes -/

/-- Each round from one voted round to another has exactly one vote. -/
def Consecutive (votes : List ℕ) : Prop :=
  ∀ a ∈ votes, ∀ b ∈ votes, ∀ round, a ≤ round → round ≤ b → votes.count round = 1

/-- A later vote keeps votes consecutive if it is the next. -/
theorem consecutive_concat_iff {votes : List ℕ} {last round : ℕ} (hlast : last ∈ votes)
    (hmax : ∀ vote ∈ votes, vote ≤ last) (hround : last < round) :
    Consecutive (votes ++ [round]) ↔ Consecutive votes ∧ round = last + 1 := by
  have hcount : ∀ x, (votes ++ [round]).count x = votes.count x + if round = x then 1 else 0 := by
    intro x
    simp [List.count_append, List.count_singleton]
  have hnew : votes.count round = 0 :=
    List.count_eq_zero_of_not_mem fun hmem => absurd (hmax round hmem) (by omega)
  constructor
  · intro h
    refine ⟨fun a ha b hb x hax hxb => ?_, ?_⟩
    · have hx := h a (List.mem_append_left _ ha) b (List.mem_append_left _ hb) x hax hxb
      have hb := hmax b hb
      rw [hcount, if_neg (by omega)] at hx
      exact hx
    · by_contra hne
      have hx := h last (List.mem_append_left _ hlast) round
        (List.mem_append_right _ List.mem_cons_self) (last + 1) (by omega) (by omega)
      rw [hcount, if_neg hne] at hx
      have hmem : last + 1 ∈ votes := List.count_pos_iff.mp (by omega)
      exact absurd (hmax _ hmem) (by omega)
  · rintro ⟨h, rfl⟩ a ha b hb x hax hxb
    rw [hcount]
    by_cases hx : last + 1 = x
    · rw [if_pos hx, ← hx, hnew]
    rw [if_neg hx]
    have hbound : b ≤ last + 1 := by
      obtain hb | hb := List.mem_append.mp hb
      · exact (hmax b hb).trans (Nat.le_succ last)
      · exact (List.mem_singleton.mp hb).le
    have ha : a ∈ votes := by
      obtain ha | ha := List.mem_append.mp ha
      · exact ha
      · have := List.mem_singleton.mp ha
        omega
    exact h a ha last hlast x hax (by omega)

/-! ### Wake-ups -/

/-- The local time of the `i`-th wake-up of a daemon started at `start`. -/
def wakeAt (start : ℕ) : ℕ → ℕ
  | 0 => start
  | i + 1 => (start / Scene.contractRound + (i + 1)) * Scene.contractRound

/-- The contract's round at a wake-up. -/
def roundAt (lag : ℕ → ℕ) (start i : ℕ) : ℕ := (wakeAt start i - lag i) / Scene.contractRound

/-- At a wake-up the contract is still in the round before the local one. -/
def Behind (lag : ℕ → ℕ) (start i : ℕ) : Prop :=
  roundAt lag start i < wakeAt start i / Scene.contractRound

section

variable {lag : ℕ → ℕ} {start : ℕ}

theorem contractRound_pos : 0 < Scene.contractRound := by decide

theorem wakeAt_div (i : ℕ) :
    wakeAt start i / Scene.contractRound = start / Scene.contractRound + i := by
  cases i with
  | zero => rfl
  | succ i => exact Nat.mul_div_cancel _ contractRound_pos

theorem wakeAt_le (start i : ℕ) : wakeAt start i ≤ start + i * Scene.contractRound := by
  cases i with
  | zero => exact Nat.le_add_right _ _
  | succ i =>
    rw [wakeAt, add_mul]
    exact Nat.add_le_add_right (Nat.div_mul_le_self _ _) _

/-- The contract is in the local round or in the one before. -/
theorem roundAt_le (lag : ℕ → ℕ) (start i : ℕ) :
    roundAt lag start i ≤ start / Scene.contractRound + i := by
  rw [← wakeAt_div i]
  exact Nat.div_le_div_right (Nat.sub_le _ _)

theorem le_roundAt (start : ℕ) (hlag : ∀ i, lag i < Scene.contractRound) (i : ℕ) :
    start / Scene.contractRound + i ≤ roundAt lag start i + 1 := by
  rw [← wakeAt_div i, roundAt, ← Nat.add_div_right _ contractRound_pos]
  have hi := hlag i
  exact Nat.div_le_div_right (by omega)

/-- The daemon wakes up at the boundaries. -/
theorem wakeAt_succ (start i : ℕ) :
    wakeAt start (i + 1) = (wakeAt start i / Scene.contractRound + 1) * Scene.contractRound := by
  rw [wakeAt_div, wakeAt, add_assoc]

/-! ### Runs -/

/-- After `i` rounds, at the next wake-up. -/
structure AfterRounds (lag : ℕ → ℕ) (start i : ℕ) (scene : Scene) : Prop where
  clock : scene.clock = wakeAt start i
  wakeups : scene.wakeups = i

theorem AfterRounds.ledgerRound {i : ℕ} {scene : Scene} (h : AfterRounds lag start i scene) :
    scene.ledgerRound lag = roundAt lag start i := by
  rw [Scene.ledgerRound, h.clock, h.wakeups, roundAt]

/-- Going on for a round. -/
theorem AfterRounds.next {i : ℕ} {scene : Scene} (h : AfterRounds lag start i scene)
    (hrange : start + (i + 1) * Scene.contractRound < Time.readingBound) :
    AfterRounds lag start (i + 1) (scene.next lag 60) where
  clock := by
    have hclock : wakeAt start i + Scene.contractRound < Time.readingBound := by
      have hi := wakeAt_le start i
      rw [add_mul, one_mul] at hrange
      omega
    have hsleep : untilNextRound (.ofUnixNanos (wakeAt start i)) 60 =
        (((wakeAt start i / Scene.contractRound + 1) * Scene.contractRound - wakeAt start i : ℕ) :
          ℤ) :=
      untilNextRound_eq hclock (Nat.succ_pos 59) (by decide)
    have hlt := Nat.lt_mul_div_succ (wakeAt start i) contractRound_pos
    rw [mul_comm] at hlt
    rw [Scene.next, Scene.sleep, Scene.wake, h.clock, hsleep, wakeAt_succ, Int.toNat_natCast]
    dsimp only
    omega
  wakeups := by
    rw [Scene.next, Scene.sleep, Scene.wake, h.wakeups]

/-- The votes after a round: the last one is for the contract's round at its wake-up, and they are
consecutive if the contract was never behind at a wake-up and not at the next. -/
structure Covered (lag : ℕ → ℕ) (start i : ℕ) (votes : List ℕ) : Prop where
  last : roundAt lag start i ∈ votes
  max : ∀ vote ∈ votes, vote ≤ roundAt lag start i
  consecutive : Consecutive votes ↔
    ∀ j, j < i → Behind lag start j → Behind lag start (j + 1)

/-- The first round votes. -/
theorem covered_zero {scene : Scene} (h : AfterRounds lag start 0 scene)
    (hvotes : scene.votes = []) : Covered lag start 0 (scene.wake lag).votes := by
  have hwake : (scene.wake lag).votes = [roundAt lag start 0] := by
    rw [Scene.wake, h.ledgerRound, hvotes]
    rfl
  rw [hwake]
  refine ⟨List.mem_singleton.mpr rfl, fun vote hvote => (List.mem_singleton.mp hvote).le, ?_⟩
  refine iff_of_true ?_ fun j hj => absurd hj (Nat.not_lt_zero j)
  intro a ha b hb x hax hxb
  rw [List.mem_singleton] at ha hb
  obtain rfl : roundAt lag start 0 = x := by omega
  exact List.count_singleton_self

/-- **One round more.** The contract is in the round of the last vote, in the next one, or two
further on; the last is where it was behind and is not any more. -/
theorem Covered.next (hlag : ∀ i, lag i < Scene.contractRound) {i : ℕ} {scene : Scene}
    (hcovered : Covered lag start i scene.votes) (h : AfterRounds lag start (i + 1) scene) :
    Covered lag start (i + 1) (scene.wake lag).votes := by
  have hle := roundAt_le lag start i
  have hle' := roundAt_le lag start (i + 1)
  have hge := le_roundAt start hlag i
  have hge' := le_roundAt start hlag (i + 1)
  have hbehind : ∀ j, Behind lag start j ↔
      roundAt lag start j < start / Scene.contractRound + j := by
    intro j
    rw [Behind, wakeAt_div]
  have hsteady : (∀ j, j < i + 1 → Behind lag start j → Behind lag start (j + 1)) ↔
      (∀ j, j < i → Behind lag start j → Behind lag start (j + 1)) ∧
        (Behind lag start i → Behind lag start (i + 1)) :=
    Nat.forall_lt_succ_right
  have hwake : (scene.wake lag).votes =
      if roundAt lag start (i + 1) ∈ scene.votes then scene.votes
      else scene.votes ++ [roundAt lag start (i + 1)] := by
    rw [Scene.wake, h.ledgerRound]
  rw [hwake]
  by_cases hsame : roundAt lag start (i + 1) = roundAt lag start i
  · rw [hsame, if_pos hcovered.last]
    refine ⟨hsame ▸ hcovered.last, hsame ▸ hcovered.max, ?_⟩
    rw [hcovered.consecutive, hsteady, hbehind, hbehind]
    refine (and_iff_left fun hlt => ?_).symm
    omega
  · have hlater : roundAt lag start i < roundAt lag start (i + 1) := by omega
    have hnew : roundAt lag start (i + 1) ∉ scene.votes := fun hmem =>
      absurd (hcovered.max _ hmem) (by omega)
    rw [if_neg hnew]
    refine ⟨List.mem_append_right _ List.mem_cons_self, ?_, ?_⟩
    · intro vote hvote
      obtain hvote | hvote := List.mem_append.mp hvote
      · exact (hcovered.max vote hvote).trans hlater.le
      · exact (List.mem_singleton.mp hvote).le
    · rw [consecutive_concat_iff hcovered.last hcovered.max hlater, hcovered.consecutive, hsteady,
        hbehind i, hbehind (i + 1)]
      refine and_congr_right fun _ => ?_
      omega

/-- Every run: where the daemon is after `i` rounds, and the votes of the round after those. -/
theorem covered_run (hlag : ∀ i, lag i < Scene.contractRound) {i : ℕ}
    (hrange : start + i * Scene.contractRound < Time.readingBound) :
    AfterRounds lag start i (Scene.run lag 60 i ⟨start, 0, []⟩) ∧
      Covered lag start i ((Scene.run lag 60 i ⟨start, 0, []⟩).wake lag).votes := by
  induction i with
  | zero =>
    rw [Scene.run, Function.iterate_zero, id_eq]
    have hstart : AfterRounds lag start 0 ⟨start, 0, []⟩ := ⟨rfl, rfl⟩
    exact ⟨hstart, covered_zero hstart rfl⟩
  | succ i ih =>
    obtain ⟨hafter, hcovered⟩ := ih (by rw [add_mul] at hrange; omega)
    have hrun : Scene.run lag 60 (i + 1) ⟨start, 0, []⟩ =
        (Scene.run lag 60 i ⟨start, 0, []⟩).next lag 60 :=
      Function.iterate_succ_apply' _ _ _
    have hvotes : (Scene.run lag 60 (i + 1) ⟨start, 0, []⟩).votes =
        ((Scene.run lag 60 i ⟨start, 0, []⟩).wake lag).votes := by
      rw [hrun, Scene.next, Scene.sleep]
    have hnext : AfterRounds lag start (i + 1) (Scene.run lag 60 (i + 1) ⟨start, 0, []⟩) :=
      hrun ▸ hafter.next hrange
    rw [← hvotes] at hcovered
    exact ⟨hnext, hcovered.next hlag hnext⟩

end

section

variable {lib : GoLib} {cfg : Config} {client : Client} {committed : Hash} {lag : ℕ → ℕ}
  {start rounds : ℕ}

/-- **Which runs miss no round.** For every start and every lag of less than a minute, the votes of
a run in which every call succeeds are consecutive if and only if the contract is never behind at a
wake-up and not behind at the next. -/
theorem rounds_covered (hseconds : cfg.roundLengthSeconds = 60)
    (hregistry : lib.isContractID client.registryContract = true)
    (hvault : lib.isContractID client.slaVaultContract = true)
    (hlag : ∀ i, lag i < Scene.contractRound)
    (hrange : start + rounds * Scene.contractRound < Time.readingBound)
    {tr : List (Event watcherInterface)} {r : Except Stop Unit} {scene : Scene}
    (h : Exec (I := watcherInterface) (Scene.Answers lag client cfg.slaID committed)
      (mainLoop lib cfg client committed rounds) ⟨start, 0, []⟩ tr r scene) :
    Consecutive scene.votes ↔
      ∀ i, i + 1 < rounds → Behind lag start i → Behind lag start (i + 1) := by
  obtain ⟨_, -, rfl⟩ := Scene.yields_mainLoop hregistry hvault rounds tr r scene h
  rw [hseconds]
  cases rounds with
  | zero => exact iff_of_true nofun nofun
  | succ rounds =>
    have hrange : start + rounds * Scene.contractRound < Time.readingBound := by
      rw [add_mul] at hrange
      omega
    have hcovered := (covered_run hlag hrange).2
    have hvotes : (Scene.run lag 60 (rounds + 1) ⟨start, 0, []⟩).votes =
        ((Scene.run lag 60 rounds ⟨start, 0, []⟩).wake lag).votes := by
      rw [Scene.run, Function.iterate_succ_apply', Scene.next, Scene.sleep, Scene.run]
    rw [hvotes, hcovered.consecutive]
    simp only [Nat.add_lt_add_iff_right]

end

/-! ### A steady lag, and one that falls -/

/-- The local midnight at which the daemons below start. -/
def sampleStart : ℕ := 29453760 * Scene.contractRound

/-- The scenes in which such a daemon may be after a number of rounds. -/
def SampleRun (lag : ℕ → ℕ) (rounds : ℕ) (scene : Scene) : Prop :=
  ∃ tr r, Exec (I := watcherInterface)
    (Scene.Answers lag sampleClient (sampleConfig sampleTarget).slaID sampleHash)
    (mainLoop sampleLib (sampleConfig sampleTarget) sampleClient sampleHash rounds)
    ⟨sampleStart, 0, []⟩ tr r scene

private theorem exists_sampleRun (lag : ℕ → ℕ) (rounds : ℕ) :
    ∃ scene, SampleRun lag rounds scene := by
  obtain ⟨tr, r, scene, h⟩ := exists_exec (I := watcherInterface)
    (Scene.exists_answer lag sampleClient (sampleConfig sampleTarget).slaID sampleHash)
    (mainLoop sampleLib (sampleConfig sampleTarget) sampleClient sampleHash rounds)
    ⟨sampleStart, 0, []⟩
  exact ⟨scene, tr, r, h⟩

/-- With a lag of five seconds throughout, an hour of rounds is covered. -/
theorem rounds_covered_steady :
    ∃ scene, SampleRun (fun _ => 5 * 10 ^ 9) 60 scene ∧ Consecutive scene.votes := by
  obtain ⟨scene, tr, r, h⟩ := exists_sampleRun (fun _ => 5 * 10 ^ 9) 60
  have hlag : 5 * 10 ^ 9 < Scene.contractRound := by decide
  have hrange : sampleStart + 60 * Scene.contractRound < Time.readingBound := by decide
  refine ⟨scene, ⟨tr, r, h⟩, ?_⟩
  refine (rounds_covered rfl isContractID_sampleRegistry isContractID_sampleVault (fun _ => hlag)
    hrange h).mpr ?_
  intro i _ _
  rw [Behind, wakeAt_div, roundAt, wakeAt, Nat.div_lt_iff_lt_mul contractRound_pos]
  have hpos : 0 < (sampleStart / Scene.contractRound + (i + 1)) * Scene.contractRound :=
    Nat.mul_pos (Nat.succ_pos _) contractRound_pos
  omega

/-- The contract is five seconds behind at the first wake-up and not behind at the second: the round
that begins at the first is not voted in. -/
theorem round_skipped :
    ∃ scene, SampleRun (fun i => if i = 0 then 5 * 10 ^ 9 else 0) 2 scene ∧
      scene.votes = [29453759, 29453761] ∧ ¬ Consecutive scene.votes := by
  obtain ⟨scene, tr, r, h⟩ := exists_sampleRun (fun i => if i = 0 then 5 * 10 ^ 9 else 0) 2
  obtain ⟨_, -, hscene⟩ := Scene.yields_mainLoop isContractID_sampleRegistry
    isContractID_sampleVault 2 tr r scene h
  have hvotes : scene.votes = [29453759, 29453761] := by
    rw [hscene]
    decide +kernel
  refine ⟨scene, ⟨tr, r, h⟩, hvotes, fun hconsecutive => ?_⟩
  rw [hvotes] at hconsecutive
  have hskipped := hconsecutive 29453759 (by simp) 29453761 (by simp) 29453760 (by simp) (by simp)
  exact absurd hskipped (by decide)

end Watcher

end SlaSettle
