import SlaSettle.Watcher.Contract

/-!
# What the contract client reads and sends

Rules for the executions of the client's functions, in any world. `okObeys_submitCheck` and its
siblings bound the calls each of them makes; `exec_getCurrentRound_ok`, `exec_hasVoted_ok` and
`exec_getSlaEndpointHash_ok` say that a value they return was read from the contract, and that no
other value was read along the way.
-/

namespace SlaSettle

namespace Watcher

open Effect Program Go

/-! ### Errors and retries -/

/-- A failed attempt at a call, or a wait between two of them. -/
def Failing {α : Type} (call : Except GoString α → Event watcherInterface)
    (e : Event watcherInterface) : Prop :=
  (∃ d x, e = ⟨.wait d, x⟩) ∨ ∃ err, e = call (.error err)

section

variable {α σ : Type} {answers : σ → (c : WatcherCall) → c.Answer → σ → Prop} {s s' : σ}
  {tr : List (Event watcherInterface)} {P : WatcherCall → Prop} {Q : α → Prop}

theorem exec_catchErr_iff {p : Daemon α} {r : Except Stop (Except WatcherError α)} :
    Exec (I := watcherInterface) answers (catchErr p) s tr r s' ↔
      ∃ r', Exec (I := watcherInterface) answers p s tr r' s' ∧ r = recovered r' := by
  refine exec_bind_iff.trans ?_
  constructor
  · rintro ⟨tr₁, r', s₁, tr₂, h₁, h₂, rfl⟩
    obtain ⟨rfl, rfl, rfl⟩ := exec_done_iff.mp h₂
    exact ⟨r', by simpa using h₁, rfl⟩
  · rintro ⟨r', h, rfl⟩
    exact ⟨tr, r', s', [], h, .done, by simp⟩

/-- A call whose error is passed on. -/
theorem exec_orFail_await {c : WatcherCall} {answer : c.Answer → Except GoString α}
    {r : Except Stop α}
    (h : Exec (I := watcherInterface) answers
      ((do orFail .rpc (answer (← c.await))) : Daemon α) s tr r s') :
    ∃ x : c.Answer, tr = [⟨c, x⟩] ∧ r = (answer x).mapError fun err => .err (.rpc err) := by
  obtain ⟨x, s₁, tr₁, -, hattempt, rfl⟩ := exec_observe_bind_iff.mp h
  obtain ⟨rfl, rfl, -⟩ := exec_attempt_iff.mp hattempt
  exact ⟨x, rfl, rfl⟩

/-- Retrying a call fails with its attempts, or returns what the last one answers. -/
theorem exec_retryDo_call {opts : RetryOptions} {fn : Daemon α} {r : Except Stop α}
    {call : Except GoString α → Event watcherInterface}
    (hfn : ∀ s tr r s', Exec (I := watcherInterface) answers fn s tr r s' →
      ∃ x : Except GoString α, tr = [call x] ∧ r = x.mapError fun err => .err (.rpc err))
    (h : Exec (I := watcherInterface) answers (retryDo opts fn) s tr r s') :
    ((∀ e ∈ tr, Failing call e) ∧ (∃ err, call (.error err) ∈ tr) ∧ ∃ e, r = .error (.err e)) ∨
      ∃ attempts a, (∀ e ∈ attempts, Failing call e) ∧ tr = attempts ++ [call (.ok a)] ∧
        r = .ok a := by
  unfold retryDo at h
  generalize (max 1 opts.maxAttempts - 1).toNat = retries, opts.baseDelay = delay at h
  induction retries generalizing s tr delay with
  | zero =>
    obtain ⟨x, rfl, rfl⟩ := hfn _ _ _ _ h
    cases x with
    | error err =>
      refine .inl ⟨fun e he => ?_, ⟨err, List.mem_cons_self⟩, _, rfl⟩
      exact .inr ⟨err, List.mem_singleton.mp he⟩
    | ok a => exact .inr ⟨[], a, nofun, rfl, rfl⟩
  | succ retries ih =>
    rcases exec_throwing_bind_iff.mp h with ⟨stop, hpanic, -⟩ | ⟨tr₁, r₁, s₁, tr₂, h₁, h₂, rfl⟩
    · obtain ⟨r', hr', hrecovered⟩ := exec_catchErr_iff.mp hpanic
      obtain ⟨x, -, rfl⟩ := hfn _ _ _ _ hr'
      cases x <;> cases hrecovered
    obtain ⟨r', hr', hrecovered⟩ := exec_catchErr_iff.mp h₁
    obtain ⟨x, rfl, rfl⟩ := hfn _ _ _ _ hr'
    cases x with
    | ok a =>
      cases hrecovered
      obtain ⟨rfl, rfl, rfl⟩ := exec_return_iff.mp h₂
      exact .inr ⟨[], a, nofun, by simp, rfl⟩
    | error err =>
      cases hrecovered
      obtain ⟨cancelled, s₂, tr₃, -, h₃, rfl⟩ := exec_observe_bind_iff.mp h₂
      -- the attempt and the wait come before what is left of the retries
      have hattempt : Failing call (call (.error err)) := .inr ⟨err, rfl⟩
      have hwait : Failing call ⟨.wait delay, cancelled⟩ := .inl ⟨delay, cancelled, rfl⟩
      cases cancelled with
      | true =>
        obtain ⟨rfl, rfl, rfl⟩ := exec_attempt_iff.mp h₃
        refine .inl ⟨?_, ⟨err, List.mem_cons_self⟩, _, rfl⟩
        exact List.forall_mem_cons.mpr ⟨hattempt, List.forall_mem_cons.mpr ⟨hwait, nofun⟩⟩
      | false =>
        rcases ih _ h₃ with ⟨hfailing, -, hr⟩ | ⟨attempts, a, hfailing, rfl, rfl⟩
        · refine .inl ⟨?_, ⟨err, List.mem_cons_self⟩, hr⟩
          exact List.forall_mem_cons.mpr ⟨hattempt, List.forall_mem_cons.mpr ⟨hwait, hfailing⟩⟩
        · refine .inr ⟨call (.error err) :: ⟨.wait delay, false⟩ :: attempts, a, ?_, rfl, rfl⟩
          exact List.forall_mem_cons.mpr ⟨hattempt, List.forall_mem_cons.mpr ⟨hwait, hfailing⟩⟩

theorem okObeys_await {c : WatcherCall} (hc : P c) :
    OkObeys (I := watcherInterface) P (fun _ => True) c.await :=
  okObeys_observe (I := watcherInterface) hc

theorem okObeys_catchErr {p : Daemon α} (hp : OkObeys (I := watcherInterface) P Q p) :
    OkObeys (I := watcherInterface) P (fun r => ∀ a, r = .ok a → Q a) (catchErr p) := by
  refine Obeys.bind hp fun r hr => .done ?_
  rintro _ hrecovered a rfl
  rcases r with (e | why) | b <;> cases hrecovered
  exact hr _ rfl

theorem okObeys_wrapErr {wrap : WatcherError → WatcherError} {p : Daemon α}
    (hp : OkObeys (I := watcherInterface) P Q p) :
    OkObeys (I := watcherInterface) P Q (wrapErr wrap p) := by
  refine okObeys_tryCatch hp fun stop => ?_
  cases stop with
  | err e => exact okObeys_attempt nofun
  | panic why => exact okObeys_attempt nofun

/-- Retrying only waits in addition. -/
theorem okObeys_retryDo {opts : RetryOptions} {fn : Daemon α} (hwait : ∀ d, P (.wait d))
    (hfn : OkObeys (I := watcherInterface) P Q fn) :
    OkObeys (I := watcherInterface) P Q (retryDo opts fn) := by
  have hloop : ∀ retries delay,
      OkObeys (I := watcherInterface) P Q (retryLoop opts.maxDelay fn retries delay) := by
    intro retries
    induction retries with
    | zero => exact fun _ => hfn
    | succ retries ih =>
      intro delay
      refine okObeys_bind (okObeys_catchErr hfn) fun r hr => ?_
      cases r with
      | ok a => exact okObeys_return (hr a rfl)
      | error e =>
        refine okObeys_bind (okObeys_await (hwait delay)) fun cancelled _ => ?_
        cases cancelled with
        | true => exact okObeys_attempt nofun
        | false => exact ih _
  exact hloop _ _

end

/-! ### Calls -/

namespace Client

section

variable {P : WatcherCall → Prop} {lib : GoLib} {client : Client} {hf : HostFunction}

/-- Reading the current round, as an invocation. -/
def roundRead (client : Client) : HostFunction := ⟨client.registryContract, "get_current_round", []⟩

/-- Reading whether the watcher has voted. -/
def votedRead (client : Client) (slaID roundID : ℕ) : HostFunction :=
  ⟨client.registryContract, "has_watcher_voted",
    [mustU64 slaID, mustU64 roundID, mustAccountAddress client.watcherAddress]⟩

/-- Reading the SLA. -/
def slaRead (client : Client) (slaID : ℕ) : HostFunction :=
  ⟨client.slaVaultContract, "get_sla", [mustU64 slaID]⟩

/-- Submitting a check. -/
def submission (client : Client) (slaID roundID : ℕ) (endpointHash : Hash) (status : CheckStatus) :
    HostFunction :=
  ⟨client.registryContract, "submit_check",
    client.submitCheckArgs slaID roundID endpointHash status⟩

theorem votedRead_ne_roundRead {slaID roundID : ℕ} :
    client.votedRead slaID roundID ≠ client.roundRead := by
  simp [votedRead, roundRead]

theorem slaRead_ne_roundRead {slaID : ℕ} : client.slaRead slaID ≠ client.roundRead := by
  simp [slaRead, roundRead]

theorem slaRead_ne_votedRead {slaID slaID' roundID : ℕ} :
    client.slaRead slaID ≠ client.votedRead slaID' roundID := by
  simp [slaRead, votedRead]

theorem submission_ne_roundRead {slaID roundID : ℕ} {endpointHash : Hash} {status : CheckStatus} :
    client.submission slaID roundID endpointHash status ≠ client.roundRead := by
  simp [submission, roundRead]

theorem submission_ne_votedRead {slaID slaID' roundID roundID' : ℕ} {endpointHash : Hash}
    {status : CheckStatus} :
    client.submission slaID roundID endpointHash status ≠ client.votedRead slaID' roundID' := by
  simp [submission, votedRead]

theorem submission_ne_slaRead {slaID slaID' roundID : ℕ} {endpointHash : Hash}
    {status : CheckStatus} :
    client.submission slaID roundID endpointHash status ≠ client.slaRead slaID' := by
  simp [submission, slaRead]

/-- What a submission determines. -/
theorem submission_inj {slaID slaID' roundID roundID' : ℕ} {endpointHash endpointHash' : Hash}
    {status status' : CheckStatus}
    (h : client.submission slaID roundID endpointHash status =
      client.submission slaID' roundID' endpointHash' status') :
    slaID = slaID' ∧ roundID = roundID' ∧ endpointHash = endpointHash' ∧ status = status' := by
  simp only [submission, submitCheckArgs, mustU64, mustBytesN32, mustCheckStatusEnum,
    HostFunction.mk.injEq, List.cons.injEq, ScVal.u64.injEq, ScVal.bytes.injEq, ScVal.vec.injEq,
    ScVal.symbol.injEq, Option.some.injEq, true_and, and_true] at h
  obtain ⟨rfl, rfl, hhash, hstatus⟩ := h
  refine ⟨rfl, rfl, Subtype.ext hhash, ?_⟩
  cases status <;> cases status' <;> first | rfl | exact absurd hstatus (by decide)

/-- The calls that put a transaction together. -/
def Builds : WatcherCall → Prop
  | .wait _ | .loadAccount _ | .newTransaction _ _ | .base64 _ => True
  | _ => False

/-- The calls of reading by simulating `hf`. -/
def Reads (hf : HostFunction) : WatcherCall → Prop
  | .simulateTransaction tx => tx.op.hostFunction = hf
  | c => Builds c

/-- The calls of submitting `hf`. -/
def Submits (hf : HostFunction) : WatcherCall → Prop
  | .sendTransaction tx => tx.op.hostFunction = hf
  | .sign _ | .pollTransaction _ => True
  | c => Reads hf c

theorem Reads.of_builds {c : WatcherCall} (h : Builds c) : Reads hf c := by
  cases c with
  | simulateTransaction tx => exact h.elim
  | _ => exact h

theorem Submits.of_reads {c : WatcherCall} (h : Reads hf c) : Submits hf c := by
  cases c with
  | sendTransaction tx => exact h.elim
  | sign tx => trivial
  | pollTransaction hash => trivial
  | _ => exact h

theorem okObeys_orFail {α : Type} {e : GoString → WatcherError} (x : Except GoString α) :
    OkObeys (I := watcherInterface) P (fun _ => True) (orFail e x) :=
  okObeys_attempt fun _ _ => trivial

theorem okObeys_getSourceAccount (hP : ∀ c, Builds c → P c) :
    OkObeys (I := watcherInterface) P (fun _ => True) client.getSourceAccount :=
  okObeys_retryDo (fun d => hP (.wait d) trivial) <|
    okObeys_bind (okObeys_await (hP (.loadAccount client.watcherAddress) trivial)) fun _ _ =>
      okObeys_orFail _

theorem okObeys_newTransaction (hP : ∀ c, Builds c → P c) (account : Account)
    (op : InvokeHostFunction) :
    OkObeys (I := watcherInterface) P (fun tx => tx.op = op) (newTransaction account op) := by
  refine okObeys_bind (okObeys_await (hP (.newTransaction account op) trivial)) fun _ _ => ?_
  refine okObeys_bind (okObeys_orFail _) fun _ _ => ?_
  exact okObeys_return (Q := fun tx : Transaction => tx.op = op) rfl

theorem okObeys_simulate (hP : ∀ c, Reads hf c → P c) {op : InvokeHostFunction}
    (hop : op.hostFunction = hf) :
    OkObeys (I := watcherInterface) P (fun _ => True) (client.simulate op) := by
  have hbuild : ∀ c, Builds c → P c := fun c hc => hP c (Reads.of_builds hc)
  refine okObeys_bind (okObeys_getSourceAccount hbuild) fun account _ => ?_
  refine okObeys_bind (okObeys_newTransaction hbuild account op) fun tx htx => ?_
  refine okObeys_bind (okObeys_await (hP (.base64 tx) trivial)) fun _ _ => ?_
  refine okObeys_bind (okObeys_orFail _) fun _ _ => ?_
  have hsimulate : P (.simulateTransaction tx) :=
    hP (.simulateTransaction tx) (by rw [Reads, htx, hop])
  refine okObeys_bind (Q := fun _ => True) ?_ fun sim _ => ?_
  · exact okObeys_retryDo (fun d => hP (.wait d) trivial) <|
      okObeys_bind (okObeys_await hsimulate) fun _ _ => okObeys_orFail _
  · split
    · exact okObeys_attempt nofun
    · exact okObeys_return trivial

theorem hostFunction_of_build {contractID : GoString} {functionName : String} {args : List ScVal}
    {built : HostFunction}
    (h : buildInvokeContractHostFunction lib contractID functionName args = .ok built) :
    built = ⟨contractID, functionName, args⟩ := by
  unfold buildInvokeContractHostFunction at h
  split at h
  · cases h
    rfl
  · cases h

/-- A read simulates its own invocation and nothing else. -/
theorem okObeys_simulateReadOnly (contractID : GoString) (functionName : String)
    (args : List ScVal) :
    OkObeys (I := watcherInterface) (Reads ⟨contractID, functionName, args⟩) (fun _ => True)
      (client.simulateReadOnly lib contractID functionName args) := by
  refine okObeys_bind (Q := fun built => built = ⟨contractID, functionName, args⟩)
    (okObeys_attempt fun built hbuilt => hostFunction_of_build hbuilt) fun built hbuilt => ?_
  have hop : (client.invocation built).hostFunction = ⟨contractID, functionName, args⟩ := hbuilt
  refine okObeys_bind (okObeys_simulate (fun _ hc => hc) hop) fun sim _ => ?_
  exact okObeys_attempt fun _ _ => trivial

theorem okObeys_getCurrentRound :
    OkObeys (I := watcherInterface) (Reads client.roundRead) (fun _ => True)
      (client.getCurrentRound lib) := by
  refine okObeys_bind (okObeys_simulateReadOnly _ _ _) fun v _ => ?_
  split
  · exact okObeys_return trivial
  · exact okObeys_attempt nofun

theorem okObeys_hasVoted (slaID roundID : ℕ) :
    OkObeys (I := watcherInterface) (Reads (client.votedRead slaID roundID)) (fun _ => True)
      (client.hasVoted lib slaID roundID) := by
  refine okObeys_bind (okObeys_simulateReadOnly _ _ _) fun v _ => ?_
  split
  · exact okObeys_return trivial
  · exact okObeys_attempt nofun

theorem okObeys_getSlaEndpointHash (slaID : ℕ) :
    OkObeys (I := watcherInterface) (Reads (client.slaRead slaID)) (fun _ => True)
      (client.getSlaEndpointHash lib slaID) := by
  refine okObeys_bind (okObeys_simulateReadOnly _ _ _) fun v _ => ?_
  exact okObeys_attempt fun _ _ => trivial

theorem hostFunction_of_prepared {op op' : InvokeHostFunction} {sim : SimulateTransactionResponse}
    (h : prepared op sim = .ok op') : op'.hostFunction = op.hostFunction := by
  unfold prepared at h
  split at h
  · cases h
  · split at h
    · cases h
    · cases h
      rfl

/-- A submission simulates and sends its own `submit_check` and nothing else. -/
theorem okObeys_submitCheck (slaID roundID : ℕ) (endpointHash : Hash) (status : CheckStatus) :
    OkObeys (I := watcherInterface)
      (Submits (client.submission slaID roundID endpointHash status)) (fun _ => True)
      (client.submitCheck lib slaID roundID endpointHash status) := by
  set hf : HostFunction := client.submission slaID roundID endpointHash status
  have hread : ∀ c, Reads hf c → Submits hf c := fun c hc => Submits.of_reads hc
  have hbuild : ∀ c, Builds c → Submits hf c := fun c hc => hread c (Reads.of_builds hc)
  refine okObeys_bind (Q := fun built => built = hf)
    (okObeys_attempt fun built hbuilt => hostFunction_of_build hbuilt) fun built hbuilt => ?_
  subst hbuilt
  refine okObeys_bind (Q := fun op => op.hostFunction = hf) (okObeys_wrapErr ?_) fun op hop => ?_
  · refine okObeys_bind (okObeys_simulate hread rfl) fun sim _ => okObeys_attempt fun op' hop' => ?_
    exact hostFunction_of_prepared hop'
  refine okObeys_bind (okObeys_wrapErr (okObeys_getSourceAccount hbuild)) fun account _ => ?_
  refine okObeys_bind (okObeys_newTransaction hbuild account op) fun tx htx => ?_
  refine okObeys_bind (okObeys_await (c := .sign tx) trivial) fun _ _ => ?_
  refine okObeys_bind (okObeys_orFail _) fun _ _ => ?_
  -- sending and polling
  refine okObeys_bind (okObeys_await (hread (.base64 _) trivial)) fun _ _ => ?_
  refine okObeys_bind (okObeys_orFail _) fun _ _ => ?_
  have hsend : Submits hf (.sendTransaction { tx with signed := true }) := by
    rw [Submits, htx, hop]
  refine okObeys_bind (Q := fun _ => True) (okObeys_retryDo (fun d => hread (.wait d) trivial) <|
    okObeys_bind (okObeys_await hsend) fun _ _ => okObeys_orFail _) fun response _ => ?_
  split
  · exact okObeys_attempt nofun
  refine okObeys_bind (Q := fun _ => True) (okObeys_wrapErr <|
    okObeys_retryDo (fun d => hread (.wait d) trivial) <|
      okObeys_bind (okObeys_await (c := .pollTransaction response.hash) trivial) fun _ _ =>
        okObeys_orFail _) fun polled _ => ?_
  split
  · exact okObeys_attempt nofun
  · exact okObeys_return trivial

end

/-! ### Reads -/

section

variable {σ : Type} {answers : σ → (c : WatcherCall) → c.Answer → σ → Prop} {s s' : σ}
  {tr : List (Event watcherInterface)} {lib : GoLib} {client : Client} {hf : HostFunction}

/-- A read in a trace: `hf` was simulated, and the response reads as `v`. -/
def ReadIn (tr : List (Event watcherInterface)) (hf : HostFunction) (v : GoValue) : Prop :=
  ∃ (tx : Transaction) (sim : SimulateTransactionResponse), tx.op.hostFunction = hf ∧
    (⟨.simulateTransaction tx, .ok sim⟩ : Event watcherInterface) ∈ tr ∧
    readResult hf.functionName sim = .ok v

/-- What `hf` was read as in a trace. -/
def Read (tr : List (Event watcherInterface)) (hf : HostFunction) (v : GoValue) : Prop :=
  ReadIn tr hf v ∧ ∀ v', ReadIn tr hf v' → v' = v

theorem ReadIn.mono {tr tr' : List (Event watcherInterface)} {v : GoValue} (h : ReadIn tr hf v)
    (hsub : tr ⊆ tr') : ReadIn tr' hf v := by
  obtain ⟨tx, sim, htx, hmem, hread⟩ := h
  exact ⟨tx, sim, htx, hsub hmem, hread⟩

theorem readIn_append_iff {tr tr' : List (Event watcherInterface)} {v : GoValue} :
    ReadIn (tr ++ tr') hf v ↔ ReadIn tr hf v ∨ ReadIn tr' hf v := by
  constructor
  · rintro ⟨tx, sim, htx, hmem, hread⟩
    obtain hmem | hmem := List.mem_append.mp hmem
    · exact .inl ⟨tx, sim, htx, hmem, hread⟩
    · exact .inr ⟨tx, sim, htx, hmem, hread⟩
  · rintro (h | h)
    · exact h.mono (List.subset_append_left _ _)
    · exact h.mono (List.subset_append_right _ _)

/-- Where only another function is simulated, `hf` is not read. -/
theorem not_readIn {hf' : HostFunction} (hcalls : ∀ e ∈ tr, Submits hf' e.1) (hne : hf ≠ hf')
    (v : GoValue) : ¬ ReadIn tr hf v := by
  rintro ⟨tx, sim, rfl, hmem, -⟩
  exact hne (hcalls _ hmem)

theorem not_readIn_append {tr tr' : List (Event watcherInterface)} (h : ∀ v, ¬ ReadIn tr hf v)
    (h' : ∀ v, ¬ ReadIn tr' hf v) (v : GoValue) : ¬ ReadIn (tr ++ tr') hf v :=
  fun hread => (readIn_append_iff.mp hread).elim (h v) (h' v)

theorem Read.append_right {tr tr' : List (Event watcherInterface)} {v : GoValue}
    (h : Read tr hf v) (h' : ∀ v', ¬ ReadIn tr' hf v') : Read (tr ++ tr') hf v :=
  ⟨readIn_append_iff.mpr (.inl h.1), fun v' hv' =>
    h.2 v' ((readIn_append_iff.mp hv').resolve_right (h' v'))⟩

theorem Read.append_left {tr tr' : List (Event watcherInterface)} {v : GoValue}
    (h : Read tr' hf v) (h' : ∀ v', ¬ ReadIn tr hf v') : Read (tr ++ tr') hf v :=
  ⟨readIn_append_iff.mpr (.inr h.1), fun v' hv' =>
    h.2 v' ((readIn_append_iff.mp hv').resolve_left (h' v'))⟩

/-- One attempt of a simulation. -/
private theorem exec_simulateAttempt {tx : Transaction}
    {r : Except Stop SimulateTransactionResponse}
    (h : Exec (I := watcherInterface) answers
      ((do orFail .rpc (← (WatcherCall.simulateTransaction tx).await)) :
        Daemon SimulateTransactionResponse) s tr r s') :
    ∃ x : Except GoString SimulateTransactionResponse, tr = [⟨.simulateTransaction tx, x⟩] ∧
      r = x.mapError fun err => .err (.rpc err) := exec_orFail_await h

/-- The response of a simulation that succeeded is in the trace, and no other response is. -/
theorem exec_simulate_ok {op : InvokeHostFunction} {sim : SimulateTransactionResponse}
    (h : Exec (I := watcherInterface) answers (client.simulate op) s tr (.ok sim) s') :
    (∃ tx : Transaction, tx.op = op ∧
        (⟨.simulateTransaction tx, .ok sim⟩ : Event watcherInterface) ∈ tr) ∧
      ∀ tx' sim', (⟨.simulateTransaction tx', .ok sim'⟩ : Event watcherInterface) ∈ tr →
        sim' = sim := by
  obtain ⟨tr₁, account, s₁, tr₂, h₁, h₂, rfl⟩ := exec_bind_ok_iff.mp h
  obtain ⟨tr₃, tx, s₃, tr₄, h₃, h₄, rfl⟩ := exec_bind_ok_iff.mp h₂
  obtain ⟨tr₅, encoded, s₅, tr₆, h₅, h₆, rfl⟩ := exec_bind_ok_iff.mp h₄
  obtain ⟨tr₇, _, s₇, tr₈, h₇, h₈, rfl⟩ := exec_bind_ok_iff.mp h₆
  obtain ⟨tr₉, sim', s₉, tr₁₀, h₉, h₁₀, rfl⟩ := exec_bind_ok_iff.mp h₈
  have hsim : tr₁₀ = [] ∧ sim' = sim := by
    split at h₁₀
    · obtain ⟨-, ⟨⟩, -⟩ := exec_attempt_iff.mp h₁₀
    · obtain ⟨rfl, ⟨⟩, -⟩ := exec_return_iff.mp h₁₀
      exact ⟨rfl, rfl⟩
  obtain ⟨rfl, rfl⟩ := hsim
  -- before the attempts nothing is simulated
  have hnone : ∀ {c : WatcherCall}, Builds c → ∀ tx', c ≠ .simulateTransaction tx' := by
    rintro _ hc tx' rfl
    exact hc
  have hbefore₁ := ((okObeys_getSourceAccount fun _ hc => hnone hc).exec h₁).1
  obtain ⟨hbefore₂, htx⟩ := (okObeys_newTransaction (fun _ hc => hnone hc) account op).exec h₃
  have hbefore₃ := ((okObeys_await (P := fun c => ∀ tx', c ≠ .simulateTransaction tx')
    (hnone (c := .base64 tx) trivial)).exec h₅).1
  obtain ⟨rfl, -, -⟩ := exec_attempt_iff.mp h₇
  rcases exec_retryDo_call (fun _ _ _ _ hattempt => exec_simulateAttempt hattempt) h₉ with
    ⟨-, -, _, ⟨⟩⟩ | ⟨attempts, _, hfailing, rfl, ⟨⟩⟩
  refine ⟨⟨tx, htx tx rfl, by simp⟩, fun tx' sim hmem => ?_⟩
  simp only [List.append_nil, List.nil_append, List.mem_append] at hmem
  obtain hmem | hmem | hmem | hmem | hmem := hmem
  · exact (hbefore₁ _ hmem tx' rfl).elim
  · exact (hbefore₂ _ hmem tx' rfl).elim
  · exact (hbefore₃ _ hmem tx' rfl).elim
  -- the attempts before the last have failed
  · rcases hfailing _ hmem with ⟨d, x, ⟨⟩⟩ | ⟨err, ⟨⟩⟩
  · cases List.mem_singleton.mp hmem
    rfl

/-- A read that returned was of a contract. -/
theorem isContractID_of_simulateReadOnly {contractID : GoString} {functionName : String}
    {args : List ScVal} {v : GoValue}
    (h : Exec (I := watcherInterface) answers
      (client.simulateReadOnly lib contractID functionName args) s tr (.ok v) s') :
    lib.isContractID contractID = true := by
  by_contra hid
  have hbuilt : buildInvokeContractHostFunction lib contractID functionName args =
      .error (.panic (.contractAddress contractID)) := if_neg hid
  unfold simulateReadOnly at h
  rw [hbuilt, attempt_error_bind] at h
  obtain ⟨-, ⟨⟩, -⟩ := exec_done_iff.mp h

/-- The value a simulation returned is what its function was read as. -/
theorem exec_simulateReadOnly_ok {contractID : GoString} {functionName : String}
    {args : List ScVal} {v : GoValue}
    (h : Exec (I := watcherInterface) answers
      (client.simulateReadOnly lib contractID functionName args) s tr (.ok v) s') :
    Read tr ⟨contractID, functionName, args⟩ v := by
  obtain ⟨tr₁, built, s₁, tr₂, h₁, h₂, rfl⟩ := exec_bind_ok_iff.mp h
  obtain ⟨rfl, hbuilt, rfl⟩ := exec_attempt_iff.mp h₁
  have hbuilt := hostFunction_of_build hbuilt.symm
  subst hbuilt
  obtain ⟨tr₃, sim, s₃, tr₄, h₃, h₄, rfl⟩ := exec_bind_ok_iff.mp h₂
  obtain ⟨rfl, hread, rfl⟩ := exec_attempt_iff.mp h₄
  rw [List.nil_append, List.append_nil]
  obtain ⟨⟨tx, htx, hmem⟩, hunique⟩ := exec_simulate_ok h₃
  refine ⟨⟨tx, sim, by rw [htx]; rfl, hmem, hread.symm⟩, ?_⟩
  rintro v' ⟨tx', sim', -, hmem', hread'⟩
  rw [hunique tx' sim' hmem', ← hread] at hread'
  exact (Except.ok.inj hread').symm

theorem isContractID_of_getCurrentRound {roundID : ℕ}
    (h : Exec (I := watcherInterface) answers (client.getCurrentRound lib) s tr (.ok roundID) s') :
    lib.isContractID client.registryContract = true := by
  obtain ⟨tr₁, v, s₁, tr₂, h₁, -, -⟩ := exec_bind_ok_iff.mp h
  exact isContractID_of_simulateReadOnly h₁

theorem isContractID_of_getSlaEndpointHash {slaID : ℕ} {hash : Hash}
    (h : Exec (I := watcherInterface) answers (client.getSlaEndpointHash lib slaID) s tr (.ok hash)
      s') : lib.isContractID client.slaVaultContract = true := by
  obtain ⟨tr₁, v, s₁, tr₂, h₁, -, -⟩ := exec_bind_ok_iff.mp h
  exact isContractID_of_simulateReadOnly h₁

theorem exec_getCurrentRound_ok {roundID : ℕ}
    (h : Exec (I := watcherInterface) answers (client.getCurrentRound lib) s tr (.ok roundID) s') :
    Read tr client.roundRead (.uint64 roundID) := by
  obtain ⟨tr₁, v, s₁, tr₂, h₁, h₂, rfl⟩ := exec_bind_ok_iff.mp h
  have hv : tr₂ = [] ∧ v = .uint64 roundID := by
    split at h₂
    · obtain ⟨rfl, ⟨⟩, -⟩ := exec_return_iff.mp h₂
      exact ⟨rfl, rfl⟩
    · obtain ⟨-, ⟨⟩, -⟩ := exec_attempt_iff.mp h₂
  obtain ⟨rfl, rfl⟩ := hv
  rw [List.append_nil]
  exact exec_simulateReadOnly_ok h₁

theorem exec_hasVoted_ok {slaID roundID : ℕ} {voted : Bool}
    (h : Exec (I := watcherInterface) answers (client.hasVoted lib slaID roundID) s tr (.ok voted)
      s') :
    Read tr (client.votedRead slaID roundID) (.bool voted) := by
  obtain ⟨tr₁, v, s₁, tr₂, h₁, h₂, rfl⟩ := exec_bind_ok_iff.mp h
  have hv : tr₂ = [] ∧ v = .bool voted := by
    split at h₂
    · obtain ⟨rfl, ⟨⟩, -⟩ := exec_return_iff.mp h₂
      exact ⟨rfl, rfl⟩
    · obtain ⟨-, ⟨⟩, -⟩ := exec_attempt_iff.mp h₂
  obtain ⟨rfl, rfl⟩ := hv
  rw [List.append_nil]
  exact exec_simulateReadOnly_ok h₁

theorem exec_getSlaEndpointHash_ok {slaID : ℕ} {hash : Hash}
    (h : Exec (I := watcherInterface) answers (client.getSlaEndpointHash lib slaID) s tr (.ok hash)
      s') :
    ∃ v, Read tr (client.slaRead slaID) v ∧
      endpointHashOf v = .ok hash := by
  obtain ⟨tr₁, v, s₁, tr₂, h₁, h₂, rfl⟩ := exec_bind_ok_iff.mp h
  obtain ⟨rfl, hhash, rfl⟩ := exec_attempt_iff.mp h₂
  rw [List.append_nil]
  exact ⟨v, exec_simulateReadOnly_ok h₁, hhash.symm⟩

end

end Client

end Watcher

end SlaSettle
