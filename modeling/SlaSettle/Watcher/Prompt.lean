import SlaSettle.Effect.Yields
import SlaSettle.Watcher.Daemon

/-!
# When every call succeeds

The daemon in a world in which nothing fails: what goes into a transaction succeeds at once and
changes nothing (`Prompt`), a read is answered (`Serves`), and a submission is prepared, sent and
confirmed (`Takes`). Then nothing is retried, each function of the client returns
(`Client.yields_getCurrentRound` and its siblings), and a round votes unless the watcher has voted
in it already (`yields_runOneRound`).
-/

namespace SlaSettle

namespace Watcher

open Effect Program Go

/-! ### Errors and retries -/

section

variable {α σ : Type} {answers : σ → (c : WatcherCall) → c.Answer → σ → Prop} {s : σ}
  {Φ : α → σ → Prop}

theorem yields_await {c : WatcherCall} {Φ : c.Answer → σ → Prop}
    (h : ∀ x s', answers s c x s' → Φ x s') :
    Yields (I := watcherInterface) answers c.await s Φ :=
  yields_observe (I := watcherInterface) h

theorem yields_catchErr {p : Daemon α} (h : Yields (I := watcherInterface) answers p s Φ) :
    Yields (I := watcherInterface) answers (catchErr p) s
      (fun r s' => ∃ a, r = .ok a ∧ Φ a s') := by
  intro tr r s' hexec
  obtain ⟨r', hr', rfl⟩ := exec_catchErr_iff.mp hexec
  obtain ⟨a, rfl, ha⟩ := h tr r' s' hr'
  exact ⟨.ok a, rfl, a, rfl, ha⟩

theorem yields_wrapErr {wrap : WatcherError → WatcherError} {p : Daemon α}
    (h : Yields (I := watcherInterface) answers p s Φ) :
    Yields (I := watcherInterface) answers (wrapErr wrap p) s Φ :=
  yields_tryCatch h

/-- The first attempt succeeds. -/
theorem yields_retryDo {opts : RetryOptions} {fn : Daemon α}
    (h : Yields (I := watcherInterface) answers fn s Φ) :
    Yields (I := watcherInterface) answers (retryDo opts fn) s Φ := by
  unfold retryDo
  generalize (max 1 opts.maxAttempts - 1).toNat = retries
  cases retries with
  | zero => exact h
  | succ retries =>
    refine yields_bind (yields_catchErr h) ?_
    rintro _ s' ⟨a, rfl, ha⟩
    exact yields_return ha

end

/-! ### The client -/

section

variable {σ : Type}

/-- What goes into a transaction succeeds, and a transaction that was sent is confirmed. -/
structure Prompt (answers : σ → (c : WatcherCall) → c.Answer → σ → Prop) : Prop where
  loadAccount : ∀ s address (r : Except GoString Account) s',
    answers s (.loadAccount address) r s' → s' = s ∧ ∃ account, r = .ok account
  newTransaction : ∀ s account op (r : Except GoString ℤ) s',
    answers s (.newTransaction account op) r s' → s' = s ∧ ∃ maxTime, r = .ok maxTime
  base64 : ∀ s tx (r : Except GoString Unit) s',
    answers s (.base64 tx) r s' → s' = s ∧ r = .ok ()
  sign : ∀ s tx (r : Except GoString Unit) s',
    answers s (.sign tx) r s' → s' = s ∧ r = .ok ()
  pollTransaction : ∀ s hash (r : Except GoString TransactionStatus) s',
    answers s (.pollTransaction hash) r s' → s' = s ∧ r = .ok .success

/-- A read of `hf` in the state `s` is answered, with `Φ`. -/
def Serves (answers : σ → (c : WatcherCall) → c.Answer → σ → Prop) (s : σ) (hf : HostFunction)
    (Φ : GoValue → σ → Prop) : Prop :=
  ∀ (tx : Transaction) (r : Except GoString SimulateTransactionResponse) s',
    tx.op.hostFunction = hf → answers s (.simulateTransaction tx) r s' →
      ∃ sim v, r = .ok sim ∧ sim.error = [] ∧ Client.readResult hf.functionName sim = .ok v ∧ Φ v s'

/-- A submission of `hf` in the state `s` is prepared and sent, with `Φ`. -/
structure Takes (answers : σ → (c : WatcherCall) → c.Answer → σ → Prop) (s : σ)
    (hf : HostFunction) (Φ : σ → Prop) : Prop where
  simulated : ∀ (tx : Transaction) (r : Except GoString SimulateTransactionResponse) s',
    tx.op.hostFunction = hf → answers s (.simulateTransaction tx) r s' →
      s' = s ∧ ∃ sim, r = .ok sim ∧ sim.error = [] ∧ ∀ op, ∃ op', Client.prepared op sim = .ok op'
  sent : ∀ (tx : Transaction) (r : Except GoString SendTransactionResponse) s',
    tx.op.hostFunction = hf → answers s (.sendTransaction tx) r s' →
      ∃ response, r = .ok response ∧ response.status ≠ .error ∧ Φ s'

namespace Client

variable {answers : σ → (c : WatcherCall) → c.Answer → σ → Prop} {s : σ} {lib : GoLib}
  {client : Client}

theorem yields_getSourceAccount (hp : Prompt answers) :
    Yields (I := watcherInterface) answers client.getSourceAccount s (fun _ s' => s' = s) := by
  refine yields_retryDo (yields_bind (yields_await (hp.loadAccount s _)) ?_)
  rintro _ s' ⟨rfl, account, rfl⟩
  exact yields_return rfl

theorem yields_newTransaction (hp : Prompt answers) (account : Account)
    (op : InvokeHostFunction) :
    Yields (I := watcherInterface) answers (newTransaction account op) s
      (fun tx s' => tx.op = op ∧ s' = s) := by
  refine yields_bind (yields_await (hp.newTransaction s account op)) ?_
  rintro _ s' ⟨rfl, maxTime, rfl⟩
  exact yields_return ⟨rfl, rfl⟩

theorem yields_simulate (hp : Prompt answers) {op : InvokeHostFunction}
    {Φ : SimulateTransactionResponse → σ → Prop}
    (h : ∀ (tx : Transaction) (r : Except GoString SimulateTransactionResponse) s',
      tx.op = op → answers s (.simulateTransaction tx) r s' →
        ∃ sim, r = .ok sim ∧ sim.error = [] ∧ Φ sim s') :
    Yields (I := watcherInterface) answers (client.simulate op) s Φ := by
  refine yields_bind (yields_getSourceAccount hp) ?_
  rintro account _ rfl
  refine yields_bind (yields_newTransaction hp account op) ?_
  rintro tx _ ⟨htx, rfl⟩
  refine yields_bind (yields_await (hp.base64 _ tx)) ?_
  rintro _ _ ⟨rfl, rfl⟩
  refine yields_bind (Φ := fun _ s' => s' = _) (yields_return rfl) ?_
  rintro _ _ rfl
  refine yields_bind (Φ := fun sim s' => sim.error = [] ∧ Φ sim s') (yields_retryDo ?_) ?_
  · refine yields_bind (yields_await (h tx · · htx)) ?_
    rintro _ s' ⟨sim, rfl, hsim⟩
    exact yields_return hsim
  · rintro sim s' ⟨herror, hsim⟩
    rw [if_neg (not_not_intro herror)]
    exact yields_return hsim

/-- A read that is served returns. -/
theorem yields_simulateReadOnly (hp : Prompt answers) {contractID : GoString}
    {functionName : String} {args : List ScVal} {Φ : GoValue → σ → Prop}
    (hid : lib.isContractID contractID = true)
    (h : Serves answers s ⟨contractID, functionName, args⟩ Φ) :
    Yields (I := watcherInterface) answers
      (client.simulateReadOnly lib contractID functionName args) s Φ := by
  have hbuilt : buildInvokeContractHostFunction lib contractID functionName args =
      .ok ⟨contractID, functionName, args⟩ := if_pos hid
  unfold simulateReadOnly
  rw [hbuilt, attempt_ok_bind]
  refine yields_bind (yields_simulate hp (Φ := fun sim s' =>
    ∃ v, readResult functionName sim = .ok v ∧ Φ v s') ?_) ?_
  · intro tx r s' htx hanswer
    obtain ⟨sim, v, rfl, herror, hread, hv⟩ := h tx r s' (by rw [htx]; rfl) hanswer
    exact ⟨sim, rfl, herror, v, hread, hv⟩
  · rintro sim s' ⟨v, hread, hv⟩
    rw [hread]
    exact yields_attempt hv

theorem yields_getCurrentRound (hp : Prompt answers) {Φ : ℕ → σ → Prop}
    (hid : lib.isContractID client.registryContract = true)
    (h : Serves answers s client.roundRead (fun v s' => ∃ round, v = .uint64 round ∧ Φ round s')) :
    Yields (I := watcherInterface) answers (client.getCurrentRound lib) s Φ := by
  refine yields_bind (yields_simulateReadOnly hp hid h) ?_
  rintro _ s' ⟨round, rfl, hround⟩
  exact yields_return hround

theorem yields_hasVoted (hp : Prompt answers) {slaID roundID : ℕ} {Φ : Bool → σ → Prop}
    (hid : lib.isContractID client.registryContract = true)
    (h : Serves answers s (client.votedRead slaID roundID)
      (fun v s' => ∃ voted, v = .bool voted ∧ Φ voted s')) :
    Yields (I := watcherInterface) answers (client.hasVoted lib slaID roundID) s Φ := by
  refine yields_bind (yields_simulateReadOnly hp hid h) ?_
  rintro _ s' ⟨voted, rfl, hvoted⟩
  exact yields_return hvoted

theorem yields_getSlaEndpointHash (hp : Prompt answers) {slaID : ℕ} {Φ : Hash → σ → Prop}
    (hid : lib.isContractID client.slaVaultContract = true)
    (h : Serves answers s (client.slaRead slaID)
      (fun v s' => ∃ hash, endpointHashOf v = .ok hash ∧ Φ hash s')) :
    Yields (I := watcherInterface) answers (client.getSlaEndpointHash lib slaID) s Φ := by
  refine yields_bind (yields_simulateReadOnly hp hid h) ?_
  rintro v s' ⟨hash, hv, hhash⟩
  rw [hv]
  exact yields_attempt hhash

/-- A submission that is taken returns. -/
theorem yields_submitCheck (hp : Prompt answers) {slaID roundID : ℕ} {endpointHash : Hash}
    {status : CheckStatus} {Φ : σ → Prop}
    (hid : lib.isContractID client.registryContract = true)
    (h : Takes answers s (client.submission slaID roundID endpointHash status) Φ) :
    Yields (I := watcherInterface) answers
      (client.submitCheck lib slaID roundID endpointHash status) s (fun _ s' => Φ s') := by
  have hbuilt : buildInvokeContractHostFunction lib client.registryContract "submit_check"
      (client.submitCheckArgs slaID roundID endpointHash status) =
      .ok (client.submission slaID roundID endpointHash status) := if_pos hid
  unfold submitCheck
  rw [hbuilt, attempt_ok_bind]
  refine yields_bind (Φ := fun op s' =>
    op.hostFunction = client.submission slaID roundID endpointHash status ∧ s' = s)
    (yields_wrapErr ?_) ?_
  · refine yields_bind (yields_simulate hp (Φ := fun sim s' =>
      s' = s ∧ ∀ op, ∃ op', prepared op sim = .ok op') ?_) ?_
    · intro tx r s' htx hanswer
      obtain ⟨rfl, sim, rfl, herror, hprepared⟩ := h.simulated tx r s' (by rw [htx]; rfl) hanswer
      exact ⟨sim, rfl, herror, rfl, hprepared⟩
    · rintro sim _ ⟨rfl, hprepared⟩
      obtain ⟨op', hop'⟩ := hprepared
        (client.invocation (client.submission slaID roundID endpointHash status))
      rw [hop']
      exact yields_attempt ⟨hostFunction_of_prepared hop', rfl⟩
  rintro op _ ⟨hop, rfl⟩
  refine yields_bind (yields_wrapErr (yields_getSourceAccount hp)) ?_
  rintro account _ rfl
  refine yields_bind (yields_newTransaction hp account op) ?_
  rintro tx _ ⟨htx, rfl⟩
  refine yields_bind (yields_await (hp.sign _ tx)) ?_
  rintro _ _ ⟨rfl, rfl⟩
  refine yields_bind (Φ := fun _ s' => s' = _) (yields_return rfl) ?_
  rintro _ _ rfl
  -- sending and polling
  refine yields_bind (yields_await (hp.base64 _ _)) ?_
  rintro _ _ ⟨rfl, rfl⟩
  refine yields_bind (Φ := fun _ s' => s' = _) (yields_return rfl) ?_
  rintro _ _ rfl
  refine yields_bind (Φ := fun response s' => response.status ≠ .error ∧ Φ s')
    (yields_retryDo ?_) ?_
  · refine yields_bind (yields_await (h.sent { tx with signed := true } · · (by rw [htx, hop]))) ?_
    rintro _ s' ⟨response, rfl, hresponse⟩
    exact yields_return hresponse
  rintro response s' ⟨hstatus, hs'⟩
  rw [if_neg hstatus]
  refine yields_bind (Φ := fun status s'' => status = .success ∧ s'' = s')
    (yields_wrapErr (yields_retryDo ?_)) ?_
  · refine yields_bind (yields_await (hp.pollTransaction _ _)) ?_
    rintro _ _ ⟨rfl, rfl⟩
    exact yields_return ⟨rfl, rfl⟩
  rintro _ _ ⟨rfl, rfl⟩
  rw [if_neg (not_not_intro rfl)]
  exact yields_return hs'

end Client

/-! ### A round -/

section

variable {answers : σ → (c : WatcherCall) → c.Answer → σ → Prop} {s : σ} {lib : GoLib}
  {cfg : Config} {client : Client} {endpointHash : Hash}

theorem yields_checkTarget {ctxTimeout : ℤ} {targetURL : GoString} {Φ : HealthResult → σ → Prop}
    (hunparsed : Φ ⟨.down, 0, false⟩ s)
    (h : ∀ (outcome : Except HttpError ℤ) s',
      answers s (.httpGet targetURL cfg.httpTimeout ctxTimeout) outcome s' →
        Φ (checkResult cfg outcome) s') :
    Yields (I := watcherInterface) answers (checkTarget lib cfg ctxTimeout targetURL) s Φ := by
  unfold checkTarget
  cases lib.parseURL targetURL with
  | error err => exact yields_return hunparsed
  | ok u =>
    refine yields_bind (yields_await h) ?_
    intro outcome s' houtcome
    exact yields_return houtcome

/-- In the state `s` the commitment matches, and whatever the probe of the target says is taken as
the vote of `round`, with `Φ`. -/
def TakesVote (answers : σ → (c : WatcherCall) → c.Answer → σ → Prop) (lib : GoLib) (cfg : Config)
    (client : Client) (endpointHash : Hash) (round : ℕ) (s : σ) (Φ : σ → Prop) : Prop :=
  Serves answers s (client.slaRead cfg.slaID) fun v s₁ =>
    ∃ hash, Client.endpointHashOf v = .ok hash ∧ hash = endpointHash ∧
      Yields (I := watcherInterface) answers
        (checkTarget lib cfg (int64 (cfg.httpTimeout + 5 * second)) cfg.targetURL) s₁
        fun result s₂ => Takes answers s₂
          (client.submission cfg.slaID round endpointHash (voteStatus result)) Φ

theorem yields_probeAndSubmit (hp : Prompt answers) {ctxTimeout : ℤ} {round : ℕ} {Φ : σ → Prop}
    (hregistry : lib.isContractID client.registryContract = true)
    (h : Yields (I := watcherInterface) answers
      (checkTarget lib cfg ctxTimeout cfg.targetURL) s fun result s₁ =>
        Takes answers s₁ (client.submission cfg.slaID round endpointHash (voteStatus result)) Φ) :
    Yields (I := watcherInterface) answers
      ((do
        let result ← checkTarget lib cfg ctxTimeout cfg.targetURL
        let _ ← catchErr (client.submitCheck lib cfg.slaID round endpointHash (voteStatus result))
        return ()) : Daemon Unit) s (fun _ s' => Φ s') := by
  refine yields_bind h fun result s₁ htakes => ?_
  refine yields_bind (yields_catchErr (Client.yields_submitCheck hp hregistry htakes)) ?_
  rintro _ s' ⟨_, -, hs'⟩
  exact yields_return hs'

/-- **A round in which every call succeeds.** The watcher has voted in its round already, or its
vote is taken. -/
theorem yields_runOneRound (hp : Prompt answers)
    (hregistry : lib.isContractID client.registryContract = true)
    (hvault : lib.isContractID client.slaVaultContract = true) {Φ : σ → Prop}
    (h : Serves answers s client.roundRead fun v s₁ => ∃ round, v = .uint64 round ∧
      Serves answers s₁ (client.votedRead cfg.slaID round) fun v s₂ => ∃ voted, v = .bool voted ∧
        ((voted = true ∧ Φ s₂) ∨
          voted = false ∧ TakesVote answers lib cfg client endpointHash round s₂ Φ)) :
    Yields (I := watcherInterface) answers (runOneRound lib cfg client endpointHash) s
      (fun _ s' => Φ s') := by
  refine yields_bind (yields_catchErr (Client.yields_getCurrentRound hp hregistry h)) ?_
  rintro _ s₁ ⟨round, rfl, hvoted⟩
  refine yields_bind (yields_catchErr (Client.yields_hasVoted hp hregistry hvoted)) ?_
  rintro _ s₂ ⟨_, rfl, ⟨rfl, hdone⟩ | ⟨rfl, hvote⟩⟩
  · exact yields_return hdone
  refine yields_bind (yields_catchErr (Client.yields_getSlaEndpointHash hp hvault hvote)) ?_
  rintro _ s₃ ⟨hash, rfl, rfl, hprobe⟩
  change Yields (I := watcherInterface) answers (if hash ≠ hash then _ else _) s₃ _
  rw [if_neg (not_not_intro rfl)]
  exact yields_probeAndSubmit hp hregistry hprobe

end

end

end Watcher

end SlaSettle
