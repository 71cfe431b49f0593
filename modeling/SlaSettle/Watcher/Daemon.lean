import SlaSettle.Watcher.Reads
import SlaSettle.Watcher.Round

/-!
# The daemon

`cmd/watcher` and `internal/health`: one round of the daemon (`runOneRound`), and the loop that runs
a round, sleeps to the next boundary of the local clock, and starts again. The loop is given the
number of rounds it may still run; a run of the daemon is one for some such number.

`exec_runOneRound` takes a round apart: either it only reads, or it read a round that it had not
voted in, read the endpoint hash it is configured for, probed the target, and submitted what the
probe said.
-/

namespace SlaSettle

namespace Watcher

open Effect Program Go

/-! ### The health check -/

inductive HealthStatus where
  | up
  | down
  deriving DecidableEq

structure HealthResult where
  status : HealthStatus
  statusCode : ℤ
  timeout : Bool

/-- The part of `config.Config` that a round uses. -/
structure Config where
  slaID : ℕ
  targetURL : GoString
  roundLengthSeconds : ℤ
  httpTimeout : ℤ
  httpExpectMaxStatus : ℤ

/-- What a request says about its target. -/
def checkResult (cfg : Config) : Except HttpError ℤ → HealthResult
  | .error e => ⟨.down, 0, if e.ctxErr then true else e.netTimeout.getD false⟩
  | .ok statusCode =>
    if statusCode < cfg.httpExpectMaxStatus then ⟨.up, statusCode, false⟩
    else ⟨.down, statusCode, false⟩

/-- `Checker.Check`, in a context that times out after `ctxTimeout`. A URL that does not parse makes
no request. -/
def checkTarget (lib : GoLib) (cfg : Config) (ctxTimeout : ℤ) (targetURL : GoString) :
    Daemon HealthResult :=
  match lib.parseURL targetURL with
  | .error _ => return ⟨.down, 0, false⟩
  | .ok _ => do
    let outcome ← (WatcherCall.httpGet targetURL cfg.httpTimeout ctxTimeout).await
    return checkResult cfg outcome

/-- The status of a vote. -/
def voteStatus (result : HealthResult) : CheckStatus :=
  if result.status = .down then .down else .up

/-! ### Rounds -/

/-- `runOneRound`. Every error is logged and ends the round. -/
def runOneRound (lib : GoLib) (cfg : Config) (client : Client) (endpointHash : Hash) :
    Daemon Unit := do
  match ← catchErr (client.getCurrentRound lib) with
  | .error _ => return ()
  | .ok roundID =>
    match ← catchErr (client.hasVoted lib cfg.slaID roundID) with
    | .error _ => return ()
    | .ok true => return ()
    | .ok false =>
      match ← catchErr (client.getSlaEndpointHash lib cfg.slaID) with
      | .error _ => return ()
      | .ok committedHash =>
        if committedHash ≠ endpointHash then return ()
        else do
          let result ← checkTarget lib cfg (int64 (cfg.httpTimeout + 5 * second)) cfg.targetURL
          let _ ← catchErr (client.submitCheck lib cfg.slaID roundID endpointHash
            (voteStatus result))
          return ()

/-- The loop of `main`. -/
def mainLoop (lib : GoLib) (cfg : Config) (client : Client) (endpointHash : Hash) :
    ℕ → Daemon Unit
  | 0 => return ()
  | rounds + 1 => do
    match ← WatcherCall.ctxDone.await with
    | true => return ()
    | false => do
      runOneRound lib cfg client endpointHash
      let now ← WatcherCall.now.await
      match ← (WatcherCall.wait (untilNextRound now cfg.roundLengthSeconds)).await with
      | true => return ()
      | false => mainLoop lib cfg client endpointHash rounds

/-- `main`, from a loaded configuration: the endpoint must have a hash. -/
def main (lib : GoLib) (cfg : Config) (client : Client) (rounds : ℕ) : Daemon Unit :=
  match computeEndpointHash lib cfg.targetURL with
  | .error _ => return ()
  | .ok endpointHash => mainLoop lib cfg client endpointHash rounds

/-! ### A round, part by part -/

section

variable {σ : Type} {answers : σ → (c : WatcherCall) → c.Answer → σ → Prop} {s s' : σ}
  {tr : List (Event watcherInterface)} {lib : GoLib} {cfg : Config} {client : Client}
  {endpointHash : Hash}

/-- Whether a request says that its target is up. -/
def Answered (cfg : Config) (outcome : Except HttpError ℤ) : Prop :=
  ∃ statusCode, outcome = .ok statusCode ∧ statusCode < cfg.httpExpectMaxStatus

theorem voteStatus_checkResult {outcome : Except HttpError ℤ} :
    voteStatus (checkResult cfg outcome) = .up ↔ Answered cfg outcome := by
  cases outcome with
  | error e => simp [voteStatus, checkResult, Answered]
  | ok statusCode =>
    by_cases hup : statusCode < cfg.httpExpectMaxStatus <;>
      simp [voteStatus, checkResult, Answered, hup]

/-- A probe: the target does not parse, no request is made and the target counts as down; or one
request is made, and its outcome is the result. -/
theorem exec_checkTarget {ctxTimeout : ℤ} {targetURL : GoString} {r : Except Stop HealthResult}
    (h : Exec (I := watcherInterface) answers (checkTarget lib cfg ctxTimeout targetURL) s tr r
      s') :
    ∃ result, r = .ok result ∧
      ((tr = [] ∧ (∃ err, lib.parseURL targetURL = .error err) ∧ voteStatus result = .down) ∨
        ∃ outcome, tr = [⟨.httpGet targetURL cfg.httpTimeout ctxTimeout, outcome⟩] ∧
          result = checkResult cfg outcome) := by
  unfold checkTarget at h
  cases hparse : lib.parseURL targetURL with
  | error err =>
    rw [hparse] at h
    obtain ⟨rfl, rfl, rfl⟩ := exec_return_iff.mp h
    exact ⟨_, rfl, .inl ⟨rfl, ⟨err, rfl⟩, rfl⟩⟩
  | ok u =>
    rw [hparse] at h
    obtain ⟨outcome, s₁, tr₁, -, hreturn, rfl⟩ := exec_observe_bind_iff.mp h
    obtain ⟨rfl, rfl, -⟩ := exec_return_iff.mp hreturn
    exact ⟨_, rfl, .inr ⟨outcome, rfl, rfl⟩⟩

/-- A round makes the calls of the client, and requests the target as configured. -/
theorem okObeys_runOneRound {P : WatcherCall → Prop}
    (hclient : ∀ hf c, Client.Submits hf c → P c)
    (hprobe :
      P (.httpGet cfg.targetURL cfg.httpTimeout (int64 (cfg.httpTimeout + 5 * second)))) :
    OkObeys (I := watcherInterface) P (fun _ => True)
      (runOneRound lib cfg client endpointHash) := by
  have hreads : ∀ hf c, Client.Reads hf c → P c :=
    fun hf c hc => hclient hf c (Client.Submits.of_reads hc)
  refine okObeys_bind (okObeys_catchErr
    (Client.okObeys_getCurrentRound.mono (hreads _) fun _ h => h)) fun round _ => ?_
  split
  · exact okObeys_return trivial
  refine okObeys_bind (okObeys_catchErr
    ((Client.okObeys_hasVoted _ _).mono (hreads _) fun _ h => h)) fun voted _ => ?_
  split
  · exact okObeys_return trivial
  · exact okObeys_return trivial
  refine okObeys_bind (okObeys_catchErr
    ((Client.okObeys_getSlaEndpointHash _).mono (hreads _) fun _ h => h)) fun committed _ => ?_
  split
  · exact okObeys_return trivial
  split
  · exact okObeys_return trivial
  refine okObeys_bind (Q := fun _ => True) ?_ fun result _ => ?_
  · unfold checkTarget
    split
    · exact okObeys_return trivial
    · exact okObeys_bind (okObeys_await hprobe) fun _ _ => okObeys_return trivial
  refine okObeys_bind (okObeys_catchErr
    ((Client.okObeys_submitCheck _ _ _ _).mono (hclient _) fun _ h => h)) fun _ _ => ?_
  exact okObeys_return trivial

/-- So does a daemon, and besides it looks at its context and its clock, and sleeps. -/
theorem okObeys_main {P : WatcherCall → Prop} (hclient : ∀ hf c, Client.Submits hf c → P c)
    (hprobe :
      P (.httpGet cfg.targetURL cfg.httpTimeout (int64 (cfg.httpTimeout + 5 * second))))
    (hctxDone : P .ctxDone) (hnow : P .now) (hwait : ∀ d, P (.wait d)) (rounds : ℕ) :
    OkObeys (I := watcherInterface) P (fun _ => True) (main lib cfg client rounds) := by
  have hloop : ∀ endpointHash, OkObeys (I := watcherInterface) P (fun _ => True)
      (mainLoop lib cfg client endpointHash rounds) := by
    intro endpointHash
    induction rounds with
    | zero => exact okObeys_return trivial
    | succ rounds ih =>
      refine okObeys_bind (okObeys_await hctxDone) fun cancelled _ => ?_
      split
      · exact okObeys_return trivial
      refine okObeys_bind (okObeys_runOneRound hclient hprobe) fun _ _ => ?_
      refine okObeys_bind (okObeys_await hnow) fun now _ => ?_
      refine okObeys_bind (okObeys_await (hwait _)) fun cancelled _ => ?_
      split
      · exact okObeys_return trivial
      · exact ih
  unfold main
  split
  · exact okObeys_return trivial
  · exact hloop _

/-- Whether a call sends a transaction. -/
def WatcherCall.isSend : WatcherCall → Bool
  | sendTransaction _ => true
  | _ => false

/-- Nothing is sent in a trace. -/
def Silent (tr : List (Event watcherInterface)) : Prop :=
  ∀ e ∈ tr, WatcherCall.isSend e.1 = false

/-- A trace contains nothing but reads. -/
def OnlyReads (tr : List (Event watcherInterface)) : Prop := ∀ e ∈ tr, ∃ hf, Client.Reads hf e.1

theorem OnlyReads.append {tr tr' : List (Event watcherInterface)} (h : OnlyReads tr)
    (h' : OnlyReads tr') : OnlyReads (tr ++ tr') :=
  List.forall_mem_append.mpr ⟨h, h'⟩

theorem OnlyReads.of_reads {hf : HostFunction} (h : ∀ e ∈ tr, Client.Reads hf e.1) :
    OnlyReads tr :=
  fun e he => ⟨hf, h e he⟩

theorem OnlyReads.silent (h : OnlyReads tr) : Silent tr := by
  intro e he
  obtain ⟨hf, hreads⟩ := h e he
  cases hc : e.1 with
  | sendTransaction tx =>
    rw [hc] at hreads
    exact hreads.elim
  | _ => rfl

theorem silent_of_reads {hf : HostFunction} (h : ∀ e ∈ tr, Client.Reads hf e.1) : Silent tr :=
  (OnlyReads.of_reads h).silent

/-- The calls of a function whose error is kept as a value, and its result if it has one. -/
private theorem exec_catchErr_ok {α : Type} {p : Daemon α} {hf : HostFunction}
    (hp : OkObeys (I := watcherInterface) (Client.Reads hf) (fun _ => True) p)
    {r : Except Stop (Except WatcherError α)}
    (h : Exec (I := watcherInterface) answers (catchErr p) s tr r s') :
    (∀ e ∈ tr, Client.Reads hf e.1) ∧
      ∀ a, r = .ok (.ok a) → Exec (I := watcherInterface) answers p s tr (.ok a) s' := by
  refine ⟨((okObeys_catchErr hp).exec h).1, ?_⟩
  rintro a rfl
  obtain ⟨r', hr', hrecovered⟩ := exec_catchErr_iff.mp h
  rcases r' with (e | why) | b <;> cases hrecovered
  exact hr'

/-- The end of a round: the target is probed, and what the probe says is submitted. -/
private theorem exec_probeAndSubmit {ctxTimeout : ℤ} {roundID : ℕ} {r : Except Stop Unit}
    (h : Exec (I := watcherInterface) answers
      ((do
        let result ← checkTarget lib cfg ctxTimeout cfg.targetURL
        let _ ← catchErr (client.submitCheck lib cfg.slaID roundID endpointHash
          (voteStatus result))
        return ()) : Daemon Unit) s tr r s') :
    ∃ result s₁ tr₁ tr₂ x, tr = tr₁ ++ tr₂ ∧
      Exec (I := watcherInterface) answers (checkTarget lib cfg ctxTimeout cfg.targetURL) s tr₁
        (.ok result) s₁ ∧
      Exec (I := watcherInterface) answers
        (client.submitCheck lib cfg.slaID roundID endpointHash (voteStatus result)) s₁ tr₂ x s' ∧
      r = (recovered x).map fun _ => () := by
  rcases exec_throwing_bind_iff.mp h with ⟨_, h₁, -⟩ | ⟨tr₁, result, s₁, tr₂, h₁, h₂, rfl⟩
  · obtain ⟨_, ⟨⟩, -⟩ := exec_checkTarget h₁
  obtain ⟨kept, h₃, rfl⟩ := exec_bind_return_iff.mp h₂
  obtain ⟨x, h₄, rfl⟩ := exec_catchErr_iff.mp h₃
  exact ⟨result, s₁, tr₁, tr₂, x, rfl, h₁, h₄, rfl⟩

/-- **A round.** Either it only reads; or it read its round and that it had not voted in it, read
the endpoint hash it is configured for, probed the target, and then submitted what the probe
said. -/
theorem exec_runOneRound {r : Except Stop Unit}
    (h : Exec (I := watcherInterface) answers (runOneRound lib cfg client endpointHash) s tr r
      s') :
    OnlyReads tr ∨ ∃ roundID v result tr₁ tr₂ tr₃ tr₄ tr₅ s₄ s₅ x,
      tr = tr₁ ++ (tr₂ ++ (tr₃ ++ (tr₄ ++ tr₅))) ∧
      lib.isContractID client.registryContract = true ∧
      lib.isContractID client.slaVaultContract = true ∧
      (∀ e ∈ tr₁, Client.Reads client.roundRead e.1) ∧
      Client.Read tr₁ client.roundRead (.uint64 roundID) ∧
      (∀ e ∈ tr₂, Client.Reads (client.votedRead cfg.slaID roundID) e.1) ∧
      Client.Read tr₂ (client.votedRead cfg.slaID roundID) (.bool false) ∧
      (∀ e ∈ tr₃, Client.Reads (client.slaRead cfg.slaID) e.1) ∧
      Client.Read tr₃ (client.slaRead cfg.slaID) v ∧
      Client.endpointHashOf v = .ok endpointHash ∧
      Exec (I := watcherInterface) answers
        (checkTarget lib cfg (int64 (cfg.httpTimeout + 5 * second)) cfg.targetURL) s₄ tr₄
        (.ok result) s₅ ∧
      Exec (I := watcherInterface) answers
        (client.submitCheck lib cfg.slaID roundID endpointHash (voteStatus result)) s₅ tr₅ x s' ∧
      r = (recovered x).map fun _ => () := by
  rcases exec_throwing_bind_iff.mp h with ⟨_, h₁, -⟩ | ⟨tr₁, round, s₁, tr', h₁, h₂, rfl⟩
  · exact .inl (OnlyReads.of_reads (exec_catchErr_ok Client.okObeys_getCurrentRound h₁).1)
  obtain ⟨hcalls₁, hround⟩ := exec_catchErr_ok Client.okObeys_getCurrentRound h₁
  have hreads₁ := OnlyReads.of_reads hcalls₁
  cases round with
  | error e =>
    obtain ⟨rfl, -, -⟩ := exec_return_iff.mp h₂
    exact .inl (hreads₁.append nofun)
  | ok roundID =>
  rcases exec_throwing_bind_iff.mp h₂ with ⟨_, h₃, -⟩ | ⟨tr₂, voted, s₂, tr'', h₃, h₄, rfl⟩
  · have hcalls₂ := (exec_catchErr_ok (Client.okObeys_hasVoted _ _) h₃).1
    exact .inl (hreads₁.append (OnlyReads.of_reads hcalls₂))
  obtain ⟨hcalls₂, hvoted⟩ := exec_catchErr_ok (Client.okObeys_hasVoted _ _) h₃
  have hreads₂ := OnlyReads.of_reads hcalls₂
  rcases voted with e | voted | voted
  · obtain ⟨rfl, -, -⟩ := exec_return_iff.mp h₄
    exact .inl (hreads₁.append (hreads₂.append nofun))
  swap
  · obtain ⟨rfl, -, -⟩ := exec_return_iff.mp h₄
    exact .inl (hreads₁.append (hreads₂.append nofun))
  rcases exec_throwing_bind_iff.mp h₄ with ⟨_, h₅, -⟩ | ⟨tr₃, committed, s₃, tr₄, h₅, h₆, rfl⟩
  · have hcalls₃ := (exec_catchErr_ok (Client.okObeys_getSlaEndpointHash _) h₅).1
    exact .inl (hreads₁.append (hreads₂.append (OnlyReads.of_reads hcalls₃)))
  obtain ⟨hcalls₃, hcommitted⟩ := exec_catchErr_ok (Client.okObeys_getSlaEndpointHash _) h₅
  have hreads₃ := OnlyReads.of_reads hcalls₃
  cases committed with
  | error e =>
    obtain ⟨rfl, -, -⟩ := exec_return_iff.mp h₆
    exact .inl (hreads₁.append (hreads₂.append (hreads₃.append nofun)))
  | ok committedHash =>
  obtain ⟨v, hv, hhash⟩ := Client.exec_getSlaEndpointHash_ok (hcommitted committedHash rfl)
  by_cases hmatch : committedHash = endpointHash
  · subst hmatch
    change Exec _ (if committedHash ≠ committedHash then _ else _) _ _ _ _ at h₆
    rw [if_neg (not_not_intro rfl)] at h₆
    obtain ⟨result, s₅, tr₅, tr₆, x, rfl, hcheck, hsubmit, rfl⟩ := exec_probeAndSubmit h₆
    exact .inr ⟨roundID, v, result, tr₁, tr₂, tr₃, tr₅, tr₆, s₃, s₅, x, rfl,
      Client.isContractID_of_getCurrentRound (hround roundID rfl),
      Client.isContractID_of_getSlaEndpointHash (hcommitted _ rfl), hcalls₁,
      Client.exec_getCurrentRound_ok (hround roundID rfl), hcalls₂,
      Client.exec_hasVoted_ok (hvoted false rfl), hcalls₃, hv, hhash, hcheck, hsubmit,
      rfl⟩
  · change Exec _ (if committedHash ≠ endpointHash then _ else _) _ _ _ _ at h₆
    rw [if_pos hmatch] at h₆
    obtain ⟨rfl, -, -⟩ := exec_return_iff.mp h₆
    exact .inl (hreads₁.append (hreads₂.append (hreads₃.append nofun)))

end

end Watcher

end SlaSettle
