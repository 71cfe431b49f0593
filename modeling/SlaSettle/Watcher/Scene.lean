import SlaSettle.Watcher.Prompt

/-!
# A daemon whose calls all succeed

The world in which every RPC, HTTP and submission call succeeds at once. The registry's clock runs
behind the local one, by a lag that may differ from one wake-up of the daemon to the next; the vault
holds the commitment `committed`; a vote that was sent is in the registry's next answer.

What else such calls answer (accounts, time bounds, fees, authorizations, the status code of the
target) is left open. Still the scene after a round is determined: `Scene.yields_runOneRound` says
that it is `Scene.wake`.
-/

namespace SlaSettle

namespace Watcher

open Effect Program Go

/-- The local clock in nanoseconds, how often the contract's round was read, and the rounds of the
votes sent, in order. -/
structure Scene where
  clock : ℕ
  wakeups : ℕ
  votes : List ℕ

namespace Scene

/-- The length of the contract's rounds, in nanoseconds. -/
def contractRound : ℕ := roundNanos 60

/-- The contract's `get_current_round`, if its clock is behind by `lag i` nanoseconds at the `i`-th
wake-up. A ledger's time is never negative. -/
def ledgerRound (lag : ℕ → ℕ) (scene : Scene) : ℕ :=
  (scene.clock - lag scene.wakeups) / contractRound

/-- What the response to a simulation says. -/
structure Simulated (lag : ℕ → ℕ) (client : Client) (slaID : ℕ) (committed : Hash) (scene : Scene)
    (hf : HostFunction) (sim : SimulateTransactionResponse) : Prop where
  error : sim.error = []
  round : hf = client.roundRead →
    Client.readResult hf.functionName sim = .ok (.uint64 (scene.ledgerRound lag))
  voted : ∀ round, hf = client.votedRead slaID round →
    Client.readResult hf.functionName sim = .ok (.bool (decide (round ∈ scene.votes)))
  sla : hf = client.slaRead slaID →
    ∃ v, Client.readResult hf.functionName sim = .ok v ∧ Client.endpointHashOf v = .ok committed
  submission : ∀ round hash status, hf = client.submission slaID round hash status →
    ∀ op, ∃ op', Client.prepared op sim = .ok op'

/-- What a call may answer. -/
def Answers (lag : ℕ → ℕ) (client : Client) (slaID : ℕ) (committed : Hash) (scene : Scene) :
    (c : WatcherCall) → c.Answer → Scene → Prop
  | .ctxDone, cancelled, scene' => cancelled = false ∧ scene' = scene
  | .wait d, cancelled, scene' =>
    cancelled = false ∧ scene' = { scene with clock := scene.clock + d.toNat }
  | .now, time, scene' => time = .ofUnixNanos scene.clock ∧ scene' = scene
  | .loadAccount _, r, scene' => scene' = scene ∧ ∃ account, r = .ok account
  | .newTransaction _ _, r, scene' => scene' = scene ∧ ∃ maxTime, r = .ok maxTime
  | .base64 _, r, scene' => scene' = scene ∧ r = .ok ()
  | .sign _, r, scene' => scene' = scene ∧ r = .ok ()
  | .simulateTransaction tx, r, scene' =>
    ∃ sim, r = .ok sim ∧ Simulated lag client slaID committed scene tx.op.hostFunction sim ∧
      (tx.op.hostFunction = client.roundRead →
        scene' = { scene with wakeups := scene.wakeups + 1 }) ∧
      (tx.op.hostFunction ≠ client.roundRead → scene' = scene)
  | .sendTransaction tx, r, scene' =>
    ∃ response, r = .ok response ∧ response.status ≠ .error ∧
      ∀ round hash status, tx.op.hostFunction = client.submission slaID round hash status →
        scene' = { scene with votes := scene.votes ++ [round] }
  | .pollTransaction _, r, scene' => scene' = scene ∧ r = .ok .success
  | .httpGet _ _ _, r, scene' => scene' = scene ∧ ∃ statusCode, r = .ok statusCode

/-- The scene after a round of the daemon: it votes unless it has voted in the contract's round. -/
def wake (lag : ℕ → ℕ) (scene : Scene) : Scene where
  clock := scene.clock
  wakeups := scene.wakeups + 1
  votes :=
    if scene.ledgerRound lag ∈ scene.votes then scene.votes
    else scene.votes ++ [scene.ledgerRound lag]

variable {lag : ℕ → ℕ} {client : Client} {committed : Hash} {lib : GoLib} {cfg : Config}
  {scene : Scene}

theorem prompt (slaID : ℕ) : Prompt (Answers lag client slaID committed) where
  loadAccount _ _ _ _ h := h
  newTransaction _ _ _ _ _ h := h
  base64 _ _ _ _ h := h
  sign _ _ _ _ h := h
  pollTransaction _ _ _ _ h := h

/-- A vote is taken. -/
theorem takes_submission {round : ℕ} {hash : Hash} {status : CheckStatus} :
    Takes (Answers lag client cfg.slaID committed) scene
      (client.submission cfg.slaID round hash status)
      (fun scene' => scene' = { scene with votes := scene.votes ++ [round] }) where
  simulated := by
    rintro tx r scene' htx ⟨sim, rfl, hsim, -, hsame⟩
    refine ⟨hsame (htx ▸ Client.submission_ne_roundRead), sim, rfl, hsim.error, ?_⟩
    exact hsim.submission round hash status htx
  sent := by
    rintro tx r scene' htx ⟨response, rfl, hstatus, hvotes⟩
    exact ⟨response, rfl, hstatus, hvotes round hash status htx⟩

/-- **A round of the daemon.** The vote of the contract's round is sent, unless it was before. -/
theorem yields_runOneRound (hregistry : lib.isContractID client.registryContract = true)
    (hvault : lib.isContractID client.slaVaultContract = true) :
    Yields (I := watcherInterface) (Answers lag client cfg.slaID committed)
      (runOneRound lib cfg client committed) scene (fun _ scene' => scene' = scene.wake lag) := by
  refine Watcher.yields_runOneRound (prompt cfg.slaID) hregistry hvault ?_
  rintro tx r scene' htx ⟨sim, rfl, hsim, hread, -⟩
  obtain rfl := hread htx
  refine ⟨sim, _, rfl, hsim.error, htx ▸ hsim.round htx, scene.ledgerRound lag, rfl, ?_⟩
  rintro tx r scene' htx ⟨sim, rfl, hsim, -, hsame⟩
  obtain rfl := hsame (htx ▸ Client.votedRead_ne_roundRead)
  refine ⟨sim, _, rfl, hsim.error, htx ▸ hsim.voted _ htx, _, rfl, ?_⟩
  by_cases hvoted : scene.ledgerRound lag ∈ scene.votes
  · refine .inl ⟨decide_eq_true hvoted, ?_⟩
    rw [wake, if_pos hvoted]
  refine .inr ⟨decide_eq_false hvoted, ?_⟩
  rintro tx r scene' htx ⟨sim, rfl, hsim, -, hsame⟩
  obtain rfl := hsame (htx ▸ Client.slaRead_ne_roundRead)
  obtain ⟨v, hv, hhash⟩ := hsim.sla htx
  refine ⟨sim, v, rfl, hsim.error, htx ▸ hv, committed, hhash, rfl, ?_⟩
  have hafter : ∀ status, Takes (Answers lag client cfg.slaID committed)
      { scene with wakeups := scene.wakeups + 1 }
      (client.submission cfg.slaID (scene.ledgerRound lag) committed status)
      (fun scene' => scene' = scene.wake lag) := by
    intro status
    rw [wake, if_neg hvoted]
    exact takes_submission
  refine yields_checkTarget (hafter _) ?_
  rintro outcome scene' ⟨rfl, -⟩
  exact hafter _

/-- The scene at the next wake-up, if the daemon's rounds are `seconds` long. -/
def sleep (seconds : ℤ) (scene : Scene) : Scene :=
  { scene with
    clock := scene.clock + (untilNextRound (.ofUnixNanos scene.clock) seconds).toNat }

/-- A round, and the sleep after it. -/
def next (lag : ℕ → ℕ) (seconds : ℤ) (scene : Scene) : Scene := (scene.wake lag).sleep seconds

/-- The scene after a number of rounds. -/
def run (lag : ℕ → ℕ) (seconds : ℤ) (rounds : ℕ) (scene : Scene) : Scene :=
  (next lag seconds)^[rounds] scene

/-- **The loop.** The daemon wakes up, votes and sleeps, again and again. -/
theorem yields_mainLoop (hregistry : lib.isContractID client.registryContract = true)
    (hvault : lib.isContractID client.slaVaultContract = true) (rounds : ℕ) :
    Yields (I := watcherInterface) (Answers lag client cfg.slaID committed)
      (mainLoop lib cfg client committed rounds) scene
      (fun _ scene' => scene' = scene.run lag cfg.roundLengthSeconds rounds) := by
  induction rounds generalizing scene with
  | zero => exact yields_return rfl
  | succ rounds ih =>
    refine yields_bind (yields_await (c := .ctxDone) fun _ _ h => h) ?_
    rintro _ scene ⟨rfl, rfl⟩
    refine yields_bind (yields_runOneRound hregistry hvault) ?_
    rintro _ _ rfl
    refine yields_bind (yields_await (c := .now)
      (Φ := fun now scene' => now = .ofUnixNanos (scene.wake lag).clock ∧ scene' = scene.wake lag)
      fun _ _ h => h) ?_
    rintro now scene' ⟨hnow, rfl⟩
    have hwait : ∀ (ended : Bool) scene', Answers lag client cfg.slaID committed (scene.wake lag)
        (.wait (untilNextRound now cfg.roundLengthSeconds)) ended scene' →
        ended = false ∧ scene' = (scene.wake lag).sleep cfg.roundLengthSeconds := by
      rintro ended _ ⟨rfl, rfl⟩
      rw [hnow, sleep]
      exact ⟨rfl, rfl⟩
    refine yields_bind (yields_await hwait) ?_
    rintro _ _ ⟨rfl, rfl⟩
    refine ih.mono fun _ scene' h => ?_
    rw [h, run, run, Function.iterate_succ_apply, next]

/-- Votes are sent, not anything else. -/
theorem votes_of_silent {α : Type} {p : Program watcherInterface α} {slaID : ℕ}
    {tr : List (Event watcherInterface)} {a : α} {scene' : Scene}
    (h : Exec (I := watcherInterface) (Answers lag client slaID committed) p scene tr a scene')
    (hsilent : Silent tr) : scene'.votes = scene.votes := by
  induction h with
  | done => rfl
  | @call c next r scene scene₁ scene' tr a here _ ih =>
    obtain ⟨hsend, hrest⟩ := List.forall_mem_cons.mp hsilent
    rw [ih hrest]
    cases c with
    | sendTransaction tx => cases hsend
    | simulateTransaction tx =>
      obtain ⟨sim, -, -, hread, hsame⟩ := here
      by_cases hround : tx.op.hostFunction = client.roundRead
      · rw [hread hround]
      · rw [hsame hround]
    | ctxDone => rw [here.2]
    | wait d => rw [here.2]
    | now => rw [here.2]
    | _ => rw [here.1]

/-! ### Every call has an answer -/

/-- A response that reads as the decoding of `scv`. -/
def reading (scv : ScVal) : SimulateTransactionResponse := ⟨[], [⟨some (.ok scv), none⟩], .ok []⟩

/-- The contracts' response to the invocation `hf`. -/
def response (lag : ℕ → ℕ) (committed : Hash) (scene : Scene) (hf : HostFunction) :
    SimulateTransactionResponse :=
  match hf.functionName, hf.args with
  | "get_current_round", _ => reading (.u64 (some (scene.ledgerRound lag)))
  | "has_watcher_voted", [_, .u64 (some round), _] =>
    reading (.bool (some (decide (round ∈ scene.votes))))
  | "get_sla", _ =>
    reading (.map [(.symbol (some (bytes "endpoint_hash")), .bytes (some committed.val))])
  | _, _ => reading .void

theorem simulated_response {slaID : ℕ} (hf : HostFunction) :
    Simulated lag client slaID committed scene hf (scene.response lag committed hf) where
  error := by
    unfold response
    split <;> rfl
  round := by
    rintro rfl
    rfl
  voted := by
    rintro round rfl
    rfl
  sla := by
    rintro rfl
    refine ⟨.record (setField [] (bytes "endpoint_hash") (.bytes committed.val)), rfl, ?_⟩
    rw [Client.endpointHashOf, getField?_setField, if_pos rfl]
    exact dif_pos committed.property
  submission := by
    rintro round hash status rfl op
    exact ⟨_, rfl⟩

theorem exists_answer (lag : ℕ → ℕ) (client : Client) (slaID : ℕ) (committed : Hash)
    (scene : Scene) (c : WatcherCall) :
    ∃ r scene', Answers lag client slaID committed scene c r scene' := by
  cases c with
  | ctxDone => exact ⟨false, scene, rfl, rfl⟩
  | wait d => exact ⟨false, _, rfl, rfl⟩
  | now => exact ⟨_, scene, rfl, rfl⟩
  | loadAccount address => exact ⟨.ok ⟨address, 0⟩, scene, rfl, _, rfl⟩
  | newTransaction account op => exact ⟨.ok 0, scene, rfl, _, rfl⟩
  | base64 tx => exact ⟨.ok (), scene, rfl, rfl⟩
  | sign tx => exact ⟨.ok (), scene, rfl, rfl⟩
  | simulateTransaction tx =>
    refine ⟨.ok (scene.response lag committed tx.op.hostFunction), ?_⟩
    by_cases hround : tx.op.hostFunction = client.roundRead
    · exact ⟨_, _, rfl, simulated_response _, fun _ => rfl, fun h => absurd hround h⟩
    · exact ⟨_, _, rfl, simulated_response _, fun h => absurd h hround, fun _ => rfl⟩
  | sendTransaction tx =>
    refine ⟨.ok ⟨.pending, [], []⟩, ?_⟩
    by_cases hvote : ∃ round hash status,
      tx.op.hostFunction = client.submission slaID round hash status
    · obtain ⟨round, hash, status, htx⟩ := hvote
      refine ⟨{ scene with votes := scene.votes ++ [round] }, _, rfl, by simp, ?_⟩
      intro round' hash' status' htx'
      rw [(Client.submission_inj (htx.symm.trans htx')).2.1]
    · exact ⟨scene, _, rfl, by simp, fun round hash status htx =>
        absurd ⟨round, hash, status, htx⟩ hvote⟩
  | pollTransaction hash => exact ⟨.ok .success, scene, rfl, rfl⟩
  | httpGet url clientTimeout ctxTimeout => exact ⟨.ok 200, scene, rfl, _, rfl⟩

end Scene

/-! ### One daemon -/

/-- A committed endpoint. -/
def sampleTarget : GoString := bytes "http://sla.example/health"

/-- The library on the inputs below: what it answers about two spellings of an endpoint and the two
deployed contracts. -/
def sampleLib : GoLib where
  parseURL s :=
    if s = sampleTarget then .ok ⟨bytes "sla.example"⟩
    else .error (bytes "net/url: invalid control character in URL")
  sum256 _ := ⟨[192, 183, 205, 40, 103, 123, 179, 47, 225, 215, 151, 80, 253, 89, 20, 174, 133, 46,
    97, 145, 23, 14, 245, 43, 60, 174, 96, 192, 248, 145, 221, 187], rfl⟩
  isContractID s :=
    s == bytes "CDTIVQ6I77EMFP42522RIFKMSMJID3BDLNR5LPLJEGVAS4Q2DJDMN3DY" ||
      s == bytes "CA5R7V5IGMYOBRSAMP4R5MWURSNTY6565NSKEEVR6626PLC3VM2A3EZ2"

/-- The default configuration. -/
def sampleConfig (targetURL : GoString) : Config := ⟨1, targetURL, 60, 10 * second, 500⟩

def sampleClient : Client where
  registryContract := bytes "CDTIVQ6I77EMFP42522RIFKMSMJID3BDLNR5LPLJEGVAS4Q2DJDMN3DY"
  slaVaultContract := bytes "CA5R7V5IGMYOBRSAMP4R5MWURSNTY6565NSKEEVR6626PLC3VM2A3EZ2"
  watcherAddress := bytes "GA4WTXER6HGGZUXEPIOFYRTMOM34Q675DEAAK3WLBIO2FY7ENFNNDQHK"
  retryOpts := .default

theorem isContractID_sampleRegistry :
    sampleLib.isContractID sampleClient.registryContract = true := by decide

theorem isContractID_sampleVault : sampleLib.isContractID sampleClient.slaVaultContract = true := by
  decide

/-- The hash of the committed endpoint. -/
def sampleHash : Hash := sampleLib.sum256 []

end Watcher

end SlaSettle
