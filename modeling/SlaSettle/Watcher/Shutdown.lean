import SlaSettle.Watcher.Submission
import SlaSettle.Watcher.VoteIntegrity

/-!
# Shutting down

When the daemon is told to stop, its root context is cancelled. A check of the target that is under
way fails then, and the daemon takes the failure for a target that is down. From that point on every
request for an account fails as well (`SeesCancelled`), and a submission starts with one; so the
vote is not cast, and the loop returns when it next looks at the context (`shutdown_sends_nothing`).
-/

namespace SlaSettle

namespace Watcher

open Effect Program Go

/-- What a call that is made in a cancelled context answers: the clients return an error, and the
context is done. -/
def SeesCancelled : Event watcherInterface → Prop
  | ⟨.ctxDone, (cancelled : Bool)⟩ => cancelled = true
  | ⟨.loadAccount _, (x : Except GoString Account)⟩ => ∃ err, x = .error err
  | ⟨.simulateTransaction _, (x : Except GoString SimulateTransactionResponse)⟩ =>
    ∃ err, x = .error err
  | ⟨.sendTransaction _, (x : Except GoString SendTransactionResponse)⟩ => ∃ err, x = .error err
  | ⟨.pollTransaction _, (x : Except GoString TransactionStatus)⟩ => ∃ err, x = .error err
  | ⟨.httpGet _ _ _, (x : Except HttpError ℤ)⟩ => ∃ err, x = .error err
  | _ => True

/-- What the daemon still does: it asks for an account, waits, reads the time, and finds its context
done. -/
def WindsDown : Event watcherInterface → Prop
  | ⟨.loadAccount _, _⟩ | ⟨.wait _, _⟩ | ⟨.now, _⟩ => True
  | ⟨.ctxDone, (cancelled : Bool)⟩ => cancelled = true
  | _ => False

/-- A trace ends where the loop finds that its context is done. -/
def Returned (tr : List (Event watcherInterface)) : Prop :=
  ∃ front last, tr = front ++ [last] ∧
    (last = ⟨.ctxDone, true⟩ ∨ ∃ d, last = ⟨.wait d, true⟩)

/-! ### A submission -/

/-- In a cancelled context a program winds down, and returns an error. -/
def FailsCancelled {α : Type} (p : Daemon α) : Prop :=
  ∀ tr r, Runs (I := watcherInterface) p tr r → (∀ e ∈ tr, SeesCancelled e) →
    (∀ e ∈ tr, WindsDown e) ∧ ∃ e, r = .error (.err e)

section

variable {α β : Type} {p : Daemon α} {lib : GoLib} {client : Client}

theorem FailsCancelled.bind (hp : FailsCancelled p) (f : α → Daemon β) :
    FailsCancelled (p >>= f : Daemon β) := by
  intro tr r h hcancelled
  rcases exec_throwing_bind_iff.mp h with ⟨stop, hfails, rfl⟩ | ⟨tr₁, a, s, tr₂, hp', -, rfl⟩
  · obtain ⟨hwinds, e, he⟩ := hp tr _ hfails hcancelled
    exact ⟨hwinds, e, congrArg _ (Except.error.inj he)⟩
  · obtain ⟨-, e, ⟨⟩⟩ := hp tr₁ _ hp' fun e he => hcancelled e (List.mem_append_left _ he)

theorem FailsCancelled.wrapErr (hp : FailsCancelled p) (wrap : WatcherError → WatcherError) :
    FailsCancelled (wrapErr wrap p) := by
  intro tr r h hcancelled
  rcases exec_tryCatch_iff.mp h with ⟨a, hp', -⟩ | ⟨tr₁, stop, s, tr₂, hp', hwrap, rfl⟩
  · obtain ⟨-, e, ⟨⟩⟩ := hp tr _ hp' hcancelled
  · obtain ⟨hwinds, e, he⟩ := hp tr₁ _ hp' fun e he => hcancelled e (List.mem_append_left _ he)
    obtain rfl := Except.error.inj he
    obtain ⟨rfl, rfl, -⟩ := exec_attempt_iff.mp hwrap
    rw [List.append_nil]
    exact ⟨hwinds, wrap e, rfl⟩

/-- No account is loaded. -/
theorem failsCancelled_getSourceAccount : FailsCancelled client.getSourceAccount := by
  intro tr r h hcancelled
  have hattempt : ∀ s tr r s', Exec (I := watcherInterface) (fun (_ : Unit) _ _ _ => True)
      ((do orFail .rpc (← (WatcherCall.loadAccount client.watcherAddress).await)) :
        Daemon Account) s tr r s' →
      ∃ x : Except GoString Account, tr = [⟨.loadAccount client.watcherAddress, x⟩] ∧
        r = x.mapError fun err => .err (.rpc err) :=
    fun _ _ _ _ h => exec_orFail_await h
  rcases exec_retryDo_call hattempt h with ⟨hfailing, -, hr⟩ | ⟨attempts, a, -, rfl, -⟩
  · refine ⟨fun e he => ?_, hr⟩
    rcases hfailing e he with ⟨d, x, rfl⟩ | ⟨err, rfl⟩
    · trivial
    · trivial
  · obtain ⟨err, ⟨⟩⟩ := hcancelled _ (List.mem_append_right _ List.mem_cons_self)

/-- A submission begins with a simulation, and that with an account. -/
theorem failsCancelled_submitCheck (hid : lib.isContractID client.registryContract = true)
    (slaID roundID : ℕ) (endpointHash : Hash) (status : CheckStatus) :
    FailsCancelled (client.submitCheck lib slaID roundID endpointHash status) := by
  have hbuilt : Client.buildInvokeContractHostFunction lib client.registryContract "submit_check"
      (client.submitCheckArgs slaID roundID endpointHash status) =
      .ok (client.submission slaID roundID endpointHash status) := if_pos hid
  unfold Client.submitCheck
  rw [hbuilt, attempt_ok_bind]
  exact ((failsCancelled_getSourceAccount.bind _).bind _).wrapErr _ |>.bind _

end

/-! ### A round -/

section

variable {lib : GoLib} {cfg : Config} {client : Client} {endpointHash : Hash}

theorem OnlyReads.notMem_httpGet {tr : List (Event watcherInterface)} (h : OnlyReads tr)
    {url : GoString} {clientTimeout ctxTimeout : ℤ} {outcome : Except HttpError ℤ} :
    (⟨.httpGet url clientTimeout ctxTimeout, outcome⟩ : Event watcherInterface) ∉ tr :=
  fun hmem => (h _ hmem).elim fun _ hreads => hreads

/-- **A round that is told to stop** by the time its check returns has sent nothing and sends
nothing. -/
theorem runs_runOneRound_cancelled {before after : List (Event watcherInterface)} {url : GoString}
    {clientTimeout ctxTimeout : ℤ} {outcome : Except HttpError ℤ} {r : Except Stop Unit}
    (h : Runs (I := watcherInterface) (runOneRound lib cfg client endpointHash)
      (before ++ ⟨.httpGet url clientTimeout ctxTimeout, outcome⟩ :: after) r)
    (hcancelled : ∀ e ∈ after, SeesCancelled e) :
    OnlyReads before ∧ (∀ e ∈ after, WindsDown e) ∧ r = .ok () := by
  rcases exec_runOneRound h with hreads | ⟨roundID, v, result, tr₁, tr₂, tr₃, tr₄, tr₅, s₄, s₅, x,
    htr, hregistry, -, hcalls₁, -, hcalls₂, -, hcalls₃, -, -, hcheck, hsubmit, rfl⟩
  · exact absurd (List.mem_append_right _ List.mem_cons_self) hreads.notMem_httpGet
  have hreads₁ := OnlyReads.of_reads hcalls₁
  have hreads₂ := OnlyReads.of_reads hcalls₂
  have hreads₃ := OnlyReads.of_reads hcalls₃
  -- the check stands between the reads and the submission
  obtain ⟨before₁, rfl, htr₁⟩ := append_eq_of_notMem_left htr.symm hreads₁.notMem_httpGet
  obtain ⟨before₂, rfl, htr₂⟩ := append_eq_of_notMem_left htr₁ hreads₂.notMem_httpGet
  obtain ⟨before₃, rfl, htr₃⟩ := append_eq_of_notMem_left htr₂ hreads₃.notMem_httpGet
  have hnot : (⟨.httpGet url clientTimeout ctxTimeout, outcome⟩ : Event watcherInterface) ∉ tr₅ :=
    fun hmem => ((Client.okObeys_submitCheck _ _ _ _).exec hsubmit).1 _ hmem
  obtain ⟨rfl, rfl⟩ : before₃ = [] ∧ after = tr₅ := by
    obtain ⟨_, -, ⟨rfl, -, -⟩ | ⟨probe, rfl, -⟩⟩ := exec_checkTarget hcheck
    · rw [List.nil_append] at htr₃
      exact absurd (htr₃ ▸ List.mem_append_right _ List.mem_cons_self) hnot
    · cases before₃ with
      | nil => exact ⟨rfl, (List.cons.inj htr₃).2.symm⟩
      | cons e before₃ =>
        have htail : tr₅ = before₃ ++ ⟨.httpGet url clientTimeout ctxTimeout, outcome⟩ :: after :=
          (List.cons.inj htr₃).2
        exact absurd (htail ▸ List.mem_append_right _ List.mem_cons_self) hnot
  obtain ⟨hwinds, e, rfl⟩ := failsCancelled_submitCheck hregistry cfg.slaID roundID endpointHash
    (voteStatus result) after x hsubmit hcancelled
  rw [List.append_nil]
  exact ⟨hreads₁.append (hreads₂.append hreads₃), hwinds, rfl⟩

end

/-! ### The daemon -/

/-- What is behind an entry is behind every point up to the one after it. -/
private theorem subset_of_append_eq {α : Type} {live rest before after : List α} {x : α}
    (h : live ++ rest = before ++ x :: after) (hpoint : live.length ≤ before.length + 1) :
    after ⊆ rest := by
  rcases append_eq_append_cons h with ⟨mid, rfl, rfl⟩ | ⟨mid, rfl, rfl⟩
  · rw [List.length_append, List.length_cons] at hpoint
    obtain rfl : mid = [] := List.length_eq_zero_iff.mp (by omega)
    exact List.Subset.refl rest
  · exact fun e he => List.mem_append_right _ (List.mem_cons_of_mem _ he)

section

variable {lib : GoLib} {cfg : Config} {client : Client} {endpointHash : Hash}

/-- Before its next round the loop finds that its context is done. -/
theorem runs_mainLoop_done {rounds : ℕ} {tr : List (Event watcherInterface)} {r : Except Stop Unit}
    (h : Runs (I := watcherInterface) (mainLoop lib cfg client endpointHash rounds) tr r)
    (hcancelled : ∀ e ∈ tr, SeesCancelled e) :
    r = .ok () ∧ (rounds = 0 ∧ tr = [] ∨ tr = [⟨.ctxDone, true⟩]) := by
  cases rounds with
  | zero =>
    obtain ⟨rfl, rfl, -⟩ := exec_return_iff.mp h
    exact ⟨rfl, .inl ⟨rfl, rfl⟩⟩
  | succ rounds =>
    obtain ⟨done, s₁, tr₁, -, h₁, rfl⟩ := exec_observe_bind_iff.mp h
    obtain rfl : done = true := hcancelled _ List.mem_cons_self
    obtain ⟨rfl, rfl, -⟩ := exec_return_iff.mp h₁
    exact ⟨rfl, .inr rfl⟩

/-- What follows the round of a check. -/
theorem returned_of_waited {rounds : ℕ} {now : Time} {c : Bool} {d : ℤ}
    {front tr : List (Event watcherInterface)} {r : Except Stop Unit}
    (h : c = true ∧ tr = [] ∧ r = .ok () ∨
      Runs (I := watcherInterface) (mainLoop lib cfg client endpointHash rounds) tr r)
    (hcancelled : ∀ e ∈ tr, SeesCancelled e) :
    (∀ e ∈ tr, WindsDown e) ∧ r = .ok () ∧
      (0 < rounds → Returned (front ++ ⟨.now, now⟩ :: ⟨.wait d, c⟩ :: tr)) := by
  rcases h with ⟨rfl, rfl, rfl⟩ | h
  · exact ⟨nofun, rfl, fun _ => ⟨front ++ [⟨.now, now⟩], _, by simp, .inr ⟨d, rfl⟩⟩⟩
  · obtain ⟨rfl, ⟨rfl, rfl⟩ | rfl⟩ := runs_mainLoop_done h hcancelled
    · exact ⟨nofun, rfl, fun hrounds => absurd hrounds (lt_irrefl 0)⟩
    · refine ⟨List.forall_mem_singleton.mpr rfl, rfl, fun _ => ?_⟩
      exact ⟨front ++ [⟨.now, now⟩, ⟨.wait d, c⟩], _, by simp, .inl rfl⟩

/-- The iteration of a check sends nothing before it, and the loop winds down after it. -/
theorem runs_mainLoop_cancelled {rounds : ℕ} {before after : List (Event watcherInterface)}
    {url : GoString} {clientTimeout ctxTimeout : ℤ} {outcome : Except HttpError ℤ}
    {r : Except Stop Unit}
    (h : Runs (I := watcherInterface) (mainLoop lib cfg client endpointHash rounds)
      (before ++ ⟨.httpGet url clientTimeout ctxTimeout, outcome⟩ :: after) r)
    (hcancelled : ∀ e ∈ after, SeesCancelled e) :
    (∃ earlier iteration, before = earlier ++ ⟨.ctxDone, false⟩ :: iteration ∧
      OnlyReads iteration) ∧
    (∀ e ∈ after, WindsDown e) ∧ r = .ok () ∧
      (before.countP (fun e => WatcherCall.isLoopTop e.1) < rounds → Returned after) := by
  induction rounds generalizing before with
  | zero =>
    obtain ⟨htr, -, -⟩ := exec_return_iff.mp h
    exact absurd htr (List.append_ne_nil_of_right_ne_nil _ (List.cons_ne_nil _ _))
  | succ rounds ih =>
    obtain ⟨done, s₁, tr₁, -, h₁, htr⟩ := exec_observe_bind_iff.mp h
    obtain ⟨before, rfl, hrest⟩ : ∃ before', before = ⟨.ctxDone, done⟩ :: before' ∧
        tr₁ = before' ++ ⟨.httpGet url clientTimeout ctxTimeout, outcome⟩ :: after := by
      cases before with
      | nil => cases htr
      | cons e before =>
        obtain ⟨rfl, htail⟩ := List.cons.inj htr
        exact ⟨before, rfl, htail.symm⟩
    cases done with
    | true =>
      obtain ⟨hnil, -, -⟩ := exec_return_iff.mp h₁
      exact absurd (hrest.symm.trans hnil)
        (List.append_ne_nil_of_right_ne_nil _ (List.cons_ne_nil _ _))
    | false =>
    rcases exec_throwing_bind_iff.mp h₁ with ⟨stop, hround, -⟩ | ⟨tr₂, _, s₂, tr₃, hround, h₂, htr₁⟩
    · rw [hrest] at hround
      obtain ⟨-, -, ⟨⟩⟩ := runs_runOneRound_cancelled hround hcancelled
    have htop : tr₂.countP (fun e => WatcherCall.isLoopTop e.1) = 0 :=
      List.countP_eq_zero.mpr fun e he => by simp [isLoopTop_runOneRound hround e he]
    obtain ⟨now, s₃, tr₄, -, h₃, rfl⟩ := exec_observe_bind_iff.mp h₂
    obtain ⟨c, s₄, tr₅, -, h₄, rfl⟩ := exec_observe_bind_iff.mp h₃
    rw [hrest] at htr₁
    -- the check is in this round, or in a later one
    rcases append_eq_append_cons htr₁.symm with ⟨mid, rfl, rfl⟩ | ⟨mid, rfl, hmid⟩
    · obtain ⟨hcancelled₁, hcancelled₂⟩ := List.forall_mem_append.mp hcancelled
      obtain ⟨hreads, hwinds₁, -⟩ := runs_runOneRound_cancelled hround hcancelled₁
      have hwaited : c = true ∧ tr₅ = [] ∧ r = .ok () ∨
          Runs (I := watcherInterface) (mainLoop lib cfg client endpointHash rounds) tr₅ r := by
        cases c with
        | true =>
          obtain ⟨hnil, hr, -⟩ := exec_return_iff.mp h₄
          exact .inl ⟨rfl, hnil, hr⟩
        | false => exact .inr h₄
      obtain ⟨hwinds₂, hr, hreturned⟩ := returned_of_waited hwaited fun e he =>
        hcancelled₂ e (List.mem_cons_of_mem _ (List.mem_cons_of_mem _ he))
      rw [List.countP_append, Nat.add_eq_zero_iff] at htop
      refine ⟨⟨[], before, rfl, hreads⟩, ?_, hr, fun hrounds => hreturned ?_⟩
      · refine List.forall_mem_append.mpr ⟨hwinds₁, ?_⟩
        exact List.forall_mem_cons.mpr ⟨trivial, List.forall_mem_cons.mpr ⟨trivial, hwinds₂⟩⟩
      · rw [List.countP_cons_of_pos rfl, htop.1] at hrounds
        omega
    · obtain ⟨mid, rfl, rfl⟩ : ∃ mid', mid = ⟨.now, now⟩ ::
            ⟨.wait (untilNextRound now cfg.roundLengthSeconds), c⟩ :: mid' ∧
          tr₅ = mid' ++ ⟨.httpGet url clientTimeout ctxTimeout, outcome⟩ :: after := by
        rcases mid with _ | ⟨e, _ | ⟨e', mid⟩⟩
        · cases hmid
        · cases (List.cons.inj hmid).2
        · obtain ⟨rfl, hmid'⟩ := List.cons.inj hmid
          obtain ⟨rfl, htail⟩ := List.cons.inj hmid'
          exact ⟨mid, rfl, htail⟩
      cases c with
      | true =>
        obtain ⟨hnil, -, -⟩ := exec_return_iff.mp h₄
        exact absurd hnil (List.append_ne_nil_of_right_ne_nil _ (List.cons_ne_nil _ _))
      | false =>
        obtain ⟨⟨earlier, iteration, rfl, hreads⟩, hwinds, hr, hreturned⟩ := ih h₄
        refine ⟨⟨⟨.ctxDone, false⟩ :: (tr₂ ++ ⟨.now, now⟩ ::
          ⟨.wait (untilNextRound now cfg.roundLengthSeconds), false⟩ :: earlier), iteration,
          by simp, hreads⟩, hwinds, hr, fun hrounds => hreturned ?_⟩
        rw [List.countP_cons_of_pos rfl, List.countP_append, htop,
          List.countP_cons_of_neg Bool.false_ne_true, List.countP_cons_of_neg Bool.false_ne_true]
          at hrounds
        omega

/-- **Shutting down casts no vote.** Let the root context be cancelled after the part `live` of a
run, and a check of the target have returned when or after it was. Whatever the check said (that the
target is down, if it failed for this reason), its iteration sends nothing, nothing is sent
afterwards, and `main` returns before another round, unless the run was to end with this one. -/
theorem shutdown_sends_nothing {rounds : ℕ} {live rest before after : List (Event watcherInterface)}
    {url : GoString} {clientTimeout ctxTimeout : ℤ} {outcome : Except HttpError ℤ}
    {r : Except Stop Unit} (h : Runs (main lib cfg client rounds) (live ++ rest) r)
    (hcancelled : ∀ e ∈ rest, SeesCancelled e)
    (hprobe : live ++ rest =
      before ++ ⟨.httpGet url clientTimeout ctxTimeout, outcome⟩ :: after)
    (hpoint : live.length ≤ before.length + 1) :
    (∃ earlier iteration, before = earlier ++ ⟨.ctxDone, false⟩ :: iteration ∧
      OnlyReads iteration) ∧
    (∀ e ∈ after, WindsDown e) ∧ r = .ok () ∧
      (before.countP (fun e => WatcherCall.isLoopTop e.1) < rounds → Returned after) := by
  have hafter : ∀ e ∈ after, SeesCancelled e := fun e he =>
    hcancelled e (subset_of_append_eq hprobe hpoint he)
  rw [hprobe] at h
  unfold main at h
  cases hhash : computeEndpointHash lib cfg.targetURL with
  | error err =>
    rw [hhash] at h
    obtain ⟨htr, -, -⟩ := exec_return_iff.mp h
    exact absurd htr (List.append_ne_nil_of_right_ne_nil _ (List.cons_ne_nil _ _))
  | ok endpointHash =>
    rw [hhash] at h
    exact runs_mainLoop_cancelled h hafter

end

/-- A network in which everything succeeds until the target is checked, when the context is
cancelled. -/
def stopAtCheck (cancelled : Bool) (c : WatcherCall) : c.Answer × Bool :=
  match c with
  | .ctxDone => (cancelled, cancelled)
  | .wait _ => (cancelled, cancelled)
  | .now => (.ofUnixNanos 0, cancelled)
  | .loadAccount address => (if cancelled then .error [] else .ok ⟨address, 0⟩, cancelled)
  | .newTransaction _ _ => (.ok 0, cancelled)
  | .base64 _ => (.ok (), cancelled)
  | .sign _ => (.ok (), cancelled)
  | .simulateTransaction tx =>
    (if cancelled then .error []
      else .ok (Scene.response (fun _ => 0) sampleHash ⟨0, 0, []⟩ tx.op.hostFunction), cancelled)
  | .sendTransaction _ => (.error [], cancelled)
  | .pollTransaction _ => (.error [], cancelled)
  | .httpGet _ _ _ => (.error ⟨true, some true⟩, true)

/-- A daemon that is told to stop while it checks its target. -/
def stoppedRun : List (Event watcherInterface) × Except Stop Unit :=
  executeIn (I := watcherInterface) stopAtCheck
    (main sampleLib (sampleConfig sampleTarget) sampleClient 2) false

/-- It casts no vote. -/
theorem stoppedRun_sends_nothing :
    ∃ before after, stoppedRun.1 = before ++ ⟨.httpGet sampleTarget (10 * second) (15 * second),
        .error ⟨true, some true⟩⟩ :: after ∧
      (∀ e ∈ after, WindsDown e) ∧ stoppedRun.2 = .ok () ∧ Returned after := by
  set check : Event watcherInterface :=
    ⟨.httpGet sampleTarget (10 * second) (15 * second), .error ⟨true, some true⟩⟩
  set after : List (Event watcherInterface) :=
    [⟨.loadAccount sampleClient.watcherAddress, .error []⟩, ⟨.wait (150 * 10 ^ 6), true⟩,
      ⟨.now, .ofUnixNanos 0⟩, ⟨.wait (untilNextRound (.ofUnixNanos 0) 60), true⟩]
  have hsplit : stoppedRun.1 = stoppedRun.1.take 13 ++ check :: after := by rfl
  have hrun : Runs (main sampleLib (sampleConfig sampleTarget) sampleClient 2)
      ((stoppedRun.1.take 13 ++ [check]) ++ after) stoppedRun.2 := by
    rw [List.append_assoc, List.singleton_append, ← hsplit]
    exact runs_executeIn _ _ _
  have hcancelled : ∀ e ∈ after, SeesCancelled e := by
    refine List.forall_mem_cons.mpr ⟨⟨[], rfl⟩, ?_⟩
    exact List.forall_mem_cons.mpr ⟨trivial, List.forall_mem_cons.mpr ⟨trivial,
      List.forall_mem_singleton.mpr trivial⟩⟩
  obtain ⟨-, hwinds, hr, hreturned⟩ := shutdown_sends_nothing hrun hcancelled
    (List.append_assoc _ _ _) (by rw [List.length_append, List.length_singleton])
  exact ⟨_, after, hsplit, hwinds, hr, hreturned (by decide)⟩

end Watcher

end SlaSettle
