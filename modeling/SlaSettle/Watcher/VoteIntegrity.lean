import SlaSettle.Watcher.Scene

/-!
# What stands behind a vote

A vote should report on the endpoint that its hash commits to. `VoteIntegrity` says so of one
iteration of the daemon's loop: before a transaction is sent, the iteration has read the round and
the commitment the transaction carries and that the watcher has not voted in the round, and its
status is what a `GET` of the committed endpoint said.

The hash is that of the *trimmed* target, while the probe requests the target as configured. So the
votes of a daemon have integrity if and only if trimming leaves its target unchanged
(`votes_have_integrity`); a target with a line feed behind it does not parse, and is voted down
without a request.
-/

namespace SlaSettle

namespace Watcher

open Effect Program Go

/-! ### Iterations -/

/-- Whether a call is the look at the context that begins an iteration. -/
def WatcherCall.isLoopTop : WatcherCall → Bool
  | ctxDone => true
  | _ => false

/-- The iterations in a trace of the loop. -/
def iterations (tr : List (Event watcherInterface)) : List (List (Event watcherInterface)) :=
  tr.splitOnP fun e => WatcherCall.isLoopTop e.1

section

variable {σ : Type} {answers : σ → (c : WatcherCall) → c.Answer → σ → Prop} {s s' : σ}
  {tr : List (Event watcherInterface)} {lib : GoLib} {cfg : Config} {client : Client}
  {endpointHash : Hash}

/-- A round does not look at the context itself. -/
theorem isLoopTop_runOneRound {r : Except Stop Unit}
    (h : Exec (I := watcherInterface) answers (runOneRound lib cfg client endpointHash) s tr r
      s') :
    ∀ e ∈ tr, WatcherCall.isLoopTop e.1 = false := by
  refine ((okObeys_runOneRound (P := fun c => c.isLoopTop = false) ?_ ?_).exec h).1
  · intro hf c hc
    cases c with
    | ctxDone => exact hc.elim
    | _ => rfl
  · rfl

/-- A call between two rounds. -/
def WatcherCall.Paces : WatcherCall → Prop
  | now | wait _ => True
  | _ => False

/-- The loop starts by looking at the context. -/
private theorem exec_mainLoop_head {rounds : ℕ} {r : Except Stop Unit}
    (h : Exec (I := watcherInterface) answers (mainLoop lib cfg client endpointHash rounds) s tr r
      s') : tr = [] ∨ ∃ (cancelled : Bool) (rest : List (Event watcherInterface)),
        tr = ⟨.ctxDone, cancelled⟩ :: rest := by
  cases rounds with
  | zero => exact .inl (exec_return_iff.mp h).1
  | succ rounds =>
    obtain ⟨cancelled, _, rest, -, -, rfl⟩ := exec_call_iff.mp h
    exact .inr ⟨cancelled, rest, rfl⟩

/-- A look at the context begins an iteration. -/
private theorem iterations_append (xs ys : List (Event watcherInterface)) (cancelled : Bool) :
    iterations (xs ++ ⟨.ctxDone, cancelled⟩ :: ys) = iterations xs ++ iterations ys :=
  List.splitOnP_append_cons xs ys rfl

private theorem mem_iterations {cancelled : Bool} {xs rest it : List (Event watcherInterface)}
    (hxs : ∀ e ∈ xs, WatcherCall.isLoopTop e.1 = false)
    (hrest : rest = [] ∨ ∃ (cancelled : Bool) (rest' : List (Event watcherInterface)),
      rest = ⟨.ctxDone, cancelled⟩ :: rest')
    (hit : it ∈ iterations (⟨.ctxDone, cancelled⟩ :: (xs ++ rest))) :
    it = [] ∨ it = xs ∨ it ∈ iterations rest := by
  have hsingle : iterations xs = [xs] := List.splitOnP_eq_singleton hxs
  have htop := iterations_append [] (xs ++ rest) cancelled
  rw [List.nil_append] at htop
  rw [htop, List.mem_append] at hit
  obtain hit | hit := hit
  · exact .inl (List.mem_singleton.mp hit)
  obtain rfl | ⟨cancelled', rest', rfl⟩ := hrest
  · rw [List.append_nil, hsingle, List.mem_singleton] at hit
    exact .inr (.inl hit)
  · rw [iterations_append, hsingle, List.mem_append, List.mem_singleton] at hit
    refine .inr (hit.imp id fun hit => ?_)
    exact iterations_append [] rest' cancelled' ▸ List.mem_append_right _ hit

/-- **Iterations.** Every iteration of the loop is a round, after which at most the time is read and
waited for; or nothing. -/
theorem forall_iterations {Q : List (Event watcherInterface) → Prop} (hnil : Q [])
    (hround : ∀ {s tr r s'} after,
      Exec (I := watcherInterface) answers (runOneRound lib cfg client endpointHash) s tr r s' →
      (∀ e ∈ after, WatcherCall.Paces e.1) → Q (tr ++ after))
    {rounds : ℕ} {r : Except Stop Unit}
    (h : Exec (I := watcherInterface) answers (mainLoop lib cfg client endpointHash rounds) s tr r
      s') :
    ∀ it ∈ iterations tr, Q it := by
  induction rounds generalizing s tr with
  | zero =>
    obtain ⟨rfl, -, -⟩ := exec_return_iff.mp h
    rintro it hit
    rw [List.mem_singleton.mp hit]
    exact hnil
  | succ rounds ih =>
    obtain ⟨cancelled, s₁, tr₁, -, h₁, rfl⟩ := exec_call_iff.mp h
    -- the rest of the trace is a round with what follows it, and the other iterations
    suffices hsplit : ∃ xs rest, tr₁ = xs ++ rest ∧ Q xs ∧
        (∀ e ∈ xs, WatcherCall.isLoopTop e.1 = false) ∧
        (rest = [] ∨ ∃ (cancelled : Bool) (rest' : List (Event watcherInterface)),
          rest = ⟨.ctxDone, cancelled⟩ :: rest') ∧ ∀ it ∈ iterations rest, Q it by
      obtain ⟨xs, rest, rfl, hxs, hno, hrest, hothers⟩ := hsplit
      intro it hit
      obtain rfl | rfl | hit := mem_iterations hno hrest hit
      · exact hnil
      · exact hxs
      · exact hothers it hit
    have hnone : ∀ it ∈ iterations [], Q it := fun it hit => by
      rw [List.mem_singleton.mp hit]
      exact hnil
    cases cancelled with
    | true =>
      obtain ⟨rfl, -, -⟩ := exec_return_iff.mp h₁
      exact ⟨[], [], rfl, hnil, nofun, .inl rfl, hnone⟩
    | false =>
      rcases exec_throwing_bind_iff.mp h₁ with ⟨_, h₂, -⟩ | ⟨tr₂, _, s₂, tr₃, h₂, h₃, rfl⟩
      · -- the round panics
        refine ⟨tr₁, [], (List.append_nil tr₁).symm, ?_, isLoopTop_runOneRound h₂, .inl rfl, hnone⟩
        simpa using hround [] h₂ nofun
      obtain ⟨now, s₃, tr₄, -, h₄, rfl⟩ := exec_call_iff.mp h₃
      obtain ⟨ended, s₄, tr₅, -, h₅, rfl⟩ := exec_call_iff.mp h₄
      have hpaces : ∀ e ∈ ([⟨.now, now⟩, ⟨.wait (untilNextRound now cfg.roundLengthSeconds),
          ended⟩] : List (Event watcherInterface)), WatcherCall.Paces e.1 := by
        simp [WatcherCall.Paces]
      refine ⟨_, tr₅, (List.append_assoc tr₂ [_, _] tr₅).symm, hround _ h₂ hpaces, ?_, ?_⟩
      · refine List.forall_mem_append.mpr ⟨isLoopTop_runOneRound h₂, ?_⟩
        simp [WatcherCall.isLoopTop]
      cases ended with
      | true =>
        obtain ⟨rfl, -, -⟩ := exec_return_iff.mp h₅
        exact ⟨.inl rfl, hnone⟩
      | false => exact ⟨exec_mainLoop_head h₅, ih h₅⟩

/-! ### What stands behind a vote -/

/-- A `GET` of `url` in a trace, and what came of it. -/
def Probed (url : GoString) (tr : List (Event watcherInterface)) (outcome : Except HttpError ℤ) :
    Prop :=
  ∃ clientTimeout ctxTimeout,
    (⟨.httpGet url clientTimeout ctxTimeout, outcome⟩ : Event watcherInterface) ∈ tr

/-- What stands behind a vote: what its iteration did before. -/
structure Backed (cfg : Config) (client : Client) (endpointHash : Hash)
    (before : List (Event watcherInterface)) (roundID : ℕ) (status : CheckStatus) : Prop where
  round : Client.Read before client.roundRead (.uint64 roundID)
  notVoted : Client.Read before (client.votedRead cfg.slaID roundID) (.bool false)
  commitment : ∃ v, Client.Read before (client.slaRead cfg.slaID) v ∧
    Client.endpointHashOf v = .ok endpointHash
  up : status = .up ↔
    ∃ outcome, Probed (trimEndpointInput cfg.targetURL) before outcome ∧ Answered cfg outcome
  down : status = .down →
    ∃ outcome, Probed (trimEndpointInput cfg.targetURL) before outcome ∧ ¬ Answered cfg outcome

/-- **Vote integrity** of an iteration: every transaction it sends is a vote for the SLA and the
endpoint of this daemon, and backed by what the iteration did before. -/
def VoteIntegrity (cfg : Config) (client : Client) (endpointHash : Hash)
    (it : List (Event watcherInterface)) : Prop :=
  ∀ before tx (outcome : Except GoString SendTransactionResponse) after,
    it = before ++ ⟨.sendTransaction tx, outcome⟩ :: after →
      ∃ roundID status,
        tx.op.hostFunction = client.submission cfg.slaID roundID endpointHash status ∧
          Backed cfg client endpointHash before roundID status

private theorem notMem_of_silent {tx : Transaction}
    {outcome : Except GoString SendTransactionResponse} (h : Silent tr) :
    (⟨.sendTransaction tx, outcome⟩ : Event watcherInterface) ∉ tr :=
  fun hmem => Bool.noConfusion (h _ hmem)

/-- The client requests no URL. -/
private theorem not_probed {hf : HostFunction} {url : GoString} {outcome : Except HttpError ℤ}
    (h : ∀ e ∈ tr, Client.Submits hf e.1) : ¬ Probed url tr outcome := by
  rintro ⟨clientTimeout, ctxTimeout, hmem⟩
  exact h _ hmem

private theorem probed_append_iff {tr' : List (Event watcherInterface)} {url : GoString}
    {outcome : Except HttpError ℤ} :
    Probed url (tr ++ tr') outcome ↔ Probed url tr outcome ∨ Probed url tr' outcome := by
  simp only [Probed, List.mem_append, exists_or]

/-- What stands behind a vote, from the parts of the round that sent it. -/
private theorem backed_of_parts (htrim : trimEndpointInput cfg.targetURL = cfg.targetURL)
    {roundID : ℕ} {v : GoValue} {clientTimeout ctxTimeout : ℤ} {probe : Except HttpError ℤ}
    {tr₁ tr₂ tr₃ before : List (Event watcherInterface)}
    (hcalls₁ : ∀ e ∈ tr₁, Client.Reads client.roundRead e.1)
    (hround : Client.Read tr₁ client.roundRead (.uint64 roundID))
    (hcalls₂ : ∀ e ∈ tr₂, Client.Reads (client.votedRead cfg.slaID roundID) e.1)
    (hvoted : Client.Read tr₂ (client.votedRead cfg.slaID roundID) (.bool false))
    (hcalls₃ : ∀ e ∈ tr₃, Client.Reads (client.slaRead cfg.slaID) e.1)
    (hv : Client.Read tr₃ (client.slaRead cfg.slaID) v)
    (hhash : Client.endpointHashOf v = .ok endpointHash)
    (hcalls₅ : ∀ e ∈ before, Client.Submits
      (client.submission cfg.slaID roundID endpointHash (voteStatus (checkResult cfg probe))) e.1) :
    Backed cfg client endpointHash
      (tr₁ ++ (tr₂ ++ (tr₃ ++ ([⟨.httpGet cfg.targetURL clientTimeout ctxTimeout, probe⟩] ++
        before))))
      roundID (voteStatus (checkResult cfg probe)) := by
  have hsubmits₁ := fun e he => Client.Submits.of_reads (hcalls₁ e he)
  have hsubmits₂ := fun e he => Client.Submits.of_reads (hcalls₂ e he)
  have hsubmits₃ := fun e he => Client.Submits.of_reads (hcalls₃ e he)
  -- what the last parts do not read
  have hlast : ∀ hf, hf ≠ client.submission cfg.slaID roundID endpointHash
      (voteStatus (checkResult cfg probe)) → ∀ v, ¬ Client.ReadIn
        ([⟨.httpGet cfg.targetURL clientTimeout ctxTimeout, probe⟩] ++ before) hf v := by
    intro hf hne v hread
    obtain ⟨tx, sim, -, hmem, -⟩ | hread := Client.readIn_append_iff.mp hread
    · exact nomatch List.mem_singleton.mp hmem
    · exact Client.not_readIn hcalls₅ hne v hread
  have hprobed : ∀ probe', Probed (trimEndpointInput cfg.targetURL)
      (tr₁ ++ (tr₂ ++ (tr₃ ++ ([⟨.httpGet cfg.targetURL clientTimeout ctxTimeout, probe⟩] ++
        before)))) probe' ↔ probe' = probe := by
    intro probe'
    rw [probed_append_iff, probed_append_iff, probed_append_iff, probed_append_iff,
      or_iff_right (not_probed hsubmits₁), or_iff_right (not_probed hsubmits₂),
      or_iff_right (not_probed hsubmits₃), or_iff_left (not_probed hcalls₅), htrim]
    constructor
    · rintro ⟨_, _, hmem⟩
      cases List.mem_singleton.mp hmem
      rfl
    · rintro rfl
      exact ⟨clientTimeout, ctxTimeout, List.mem_singleton.mpr rfl⟩
  have hup : voteStatus (checkResult cfg probe) = .up ↔ Answered cfg probe := voteStatus_checkResult
  exact
    { round := hround.append_right <| Client.not_readIn_append
        (Client.not_readIn hsubmits₂ Client.votedRead_ne_roundRead.symm) <|
        Client.not_readIn_append (Client.not_readIn hsubmits₃ Client.slaRead_ne_roundRead.symm)
          (hlast _ Client.submission_ne_roundRead.symm)
      notVoted := (hvoted.append_right <| Client.not_readIn_append
        (Client.not_readIn hsubmits₃ Client.slaRead_ne_votedRead.symm)
        (hlast _ Client.submission_ne_votedRead.symm)).append_left
          (Client.not_readIn hsubmits₁ Client.votedRead_ne_roundRead)
      commitment := ⟨v, ((hv.append_right (hlast _ Client.submission_ne_slaRead.symm)).append_left
        (Client.not_readIn hsubmits₂ Client.slaRead_ne_votedRead)).append_left
          (Client.not_readIn hsubmits₁ Client.slaRead_ne_roundRead), hhash⟩
      up := by
        simp only [hprobed, exists_eq_left]
        exact hup
      down := by
        intro hdown
        refine ⟨probe, (hprobed probe).mpr rfl, fun hanswered => ?_⟩
        rw [hup.mpr hanswered] at hdown
        cases hdown }

/-- **A round votes with integrity**, if its target parses and trimming leaves it unchanged. -/
theorem voteIntegrity_runOneRound (htrim : trimEndpointInput cfg.targetURL = cfg.targetURL)
    (hparse : ∃ u, lib.parseURL cfg.targetURL = .ok u) {r : Except Stop Unit}
    (h : Exec (I := watcherInterface) answers (runOneRound lib cfg client endpointHash) s tr r s')
    {after : List (Event watcherInterface)} (hafter : ∀ e ∈ after, WatcherCall.Paces e.1) :
    VoteIntegrity cfg client endpointHash (tr ++ after) := by
  intro before tx outcome rest hsplit
  obtain ⟨rest, rfl⟩ := append_eq_of_notMem_right hsplit fun hmem => hafter _ hmem
  obtain hreads | ⟨roundID, v, result, tr₁, tr₂, tr₃, tr₄, tr₅, s₄, s₅, x, htr, -, -, hcalls₁,
    hround, hcalls₂, hvoted, hcalls₃, hv, hhash, hcheck, hsubmit, -⟩ := exec_runOneRound h
  · exact absurd (List.mem_append_right _ List.mem_cons_self) (notMem_of_silent hreads.silent)
  have hcalls₅ := ((Client.okObeys_submitCheck _ _ _ _).exec hsubmit).1
  obtain ⟨u, hu⟩ := hparse
  obtain ⟨probe, rfl, rfl⟩ : ∃ probe : Except HttpError ℤ,
      tr₄ = [⟨.httpGet cfg.targetURL cfg.httpTimeout (int64 (cfg.httpTimeout + 5 * second)),
        probe⟩] ∧ result = checkResult cfg probe := by
    obtain ⟨_, ⟨⟩, ⟨-, ⟨err, herr⟩, -⟩ | ⟨probe, htr₄, hresult⟩⟩ := exec_checkTarget hcheck
    · rw [hu] at herr
      cases herr
    · exact ⟨probe, htr₄, hresult⟩
  -- the transaction is sent in the last part of the round
  obtain ⟨before₁, rfl, htr₁⟩ :=
    append_eq_of_notMem_left htr.symm (notMem_of_silent (silent_of_reads hcalls₁))
  obtain ⟨before₂, rfl, htr₂⟩ :=
    append_eq_of_notMem_left htr₁ (notMem_of_silent (silent_of_reads hcalls₂))
  obtain ⟨before₃, rfl, htr₃⟩ :=
    append_eq_of_notMem_left htr₂ (notMem_of_silent (silent_of_reads hcalls₃))
  obtain ⟨before₄, rfl, rfl⟩ := append_eq_of_notMem_left htr₃ fun hmem =>
    nomatch List.mem_singleton.mp hmem
  refine ⟨roundID, voteStatus (checkResult cfg probe),
    hcalls₅ _ (List.mem_append_right _ List.mem_cons_self), ?_⟩
  exact backed_of_parts htrim hcalls₁ hround hcalls₂ hvoted hcalls₃ hv hhash
    fun e he => hcalls₅ e (List.mem_append_left _ he)

/-- Without two contracts to read, nothing is sent. -/
theorem silent_runOneRound (hids : ¬ (lib.isContractID client.registryContract = true ∧
      lib.isContractID client.slaVaultContract = true)) {r : Except Stop Unit}
    (h : Exec (I := watcherInterface) answers (runOneRound lib cfg client endpointHash) s tr r
      s') : Silent tr := by
  obtain hreads | ⟨_, _, _, _, _, _, _, _, _, _, _, -, hregistry, hvault, -⟩ := exec_runOneRound h
  · exact hreads.silent
  · exact absurd ⟨hregistry, hvault⟩ hids

end

/-! ### A target that is not trimmed -/

section

variable {lib : GoLib} {cfg : Config} {client : Client} {endpointHash : Hash}

/-- An event other than a look at the context is in an iteration. -/
private theorem exists_iteration {tr : List (Event watcherInterface)} {e : Event watcherInterface}
    (he : e ∈ tr) (htop : WatcherCall.isLoopTop e.1 = false) : ∃ it ∈ iterations tr, e ∈ it := by
  induction tr with
  | nil => cases he
  | cons x xs ih =>
    obtain ⟨it₀, its, hits⟩ := List.exists_cons_of_ne_nil
      (List.splitOnP_ne_nil (fun e : Event watcherInterface => WatcherCall.isLoopTop e.1) xs)
    have hcons : iterations (x :: xs) =
        if WatcherCall.isLoopTop x.1 then [] :: iterations xs else (x :: it₀) :: its := by
      rw [iterations, List.splitOnP_cons_eq_if_modifyHead, hits]
      simp only [List.modifyHead_cons, iterations, hits]
    rw [hcons]
    obtain rfl | he := List.mem_cons.mp he
    · rw [htop, if_neg Bool.false_ne_true]
      exact ⟨e :: it₀, List.mem_cons_self, List.mem_cons_self⟩
    obtain ⟨it, hit, heit⟩ := ih he
    split
    · exact ⟨it, List.mem_cons_of_mem _ hit, heit⟩
    · rw [iterations, hits] at hit
      obtain rfl | hit := List.mem_cons.mp hit
      · exact ⟨x :: it, List.mem_cons_self, List.mem_cons_of_mem _ heit⟩
      · exact ⟨it, List.mem_cons_of_mem _ hit, heit⟩

/-- A daemon requests its target as configured, and no other URL. -/
private theorem eq_of_probed {rounds : ℕ} {tr : List (Event watcherInterface)}
    {r : Except Stop Unit} (h : Runs (mainLoop lib cfg client endpointHash rounds) tr r) :
    ∀ it ∈ iterations tr, ∀ url outcome, Probed url it outcome → url = cfg.targetURL := by
  refine forall_iterations ?_ ?_ h
  · rintro url outcome ⟨_, _, hmem⟩
    cases hmem
  · rintro s tr r s' after hround hafter url outcome ⟨clientTimeout, ctxTimeout, hmem⟩
    have hcalls := ((okObeys_runOneRound (P := fun c => ∀ url clientTimeout ctxTimeout,
      c = .httpGet url clientTimeout ctxTimeout → url = cfg.targetURL) ?_ ?_).exec hround).1
    · obtain hmem | hmem := List.mem_append.mp hmem
      · exact hcalls _ hmem url clientTimeout ctxTimeout rfl
      · exact (hafter _ hmem).elim
    · rintro hf _ hc url clientTimeout ctxTimeout rfl
      exact hc.elim
    · rintro url clientTimeout ctxTimeout hget
      cases hget
      rfl

/-- **A daemon whose target is not trimmed** sends a vote without any request for the committed
endpoint. -/
theorem exists_unbacked_vote (htrim : trimEndpointInput cfg.targetURL ≠ cfg.targetURL)
    (hregistry : lib.isContractID client.registryContract = true)
    (hvault : lib.isContractID client.slaVaultContract = true) :
    ∃ tr r, Runs (mainLoop lib cfg client endpointHash 1) tr r ∧
      ∃ it ∈ iterations tr, ¬ VoteIntegrity cfg client endpointHash it := by
  -- a run in which every call succeeds votes
  obtain ⟨tr, r, scene', hexec⟩ := exists_exec (I := watcherInterface)
    (Scene.exists_answer (fun _ => 0) client cfg.slaID endpointHash)
    (mainLoop lib cfg client endpointHash 1) ⟨0, 0, []⟩
  obtain ⟨_, -, hscene⟩ := Scene.yields_mainLoop hregistry hvault 1 tr r scene' hexec
  have hvotes : scene'.votes ≠ [] := by
    rw [hscene, Scene.run, Function.iterate_one, Scene.next, Scene.sleep, Scene.wake]
    simp
  obtain ⟨e, he, hsend⟩ : ∃ e ∈ tr, WatcherCall.isSend e.1 = true := by
    by_contra hnone
    push Not at hnone
    exact hvotes (Scene.votes_of_silent hexec fun e he => by simpa using hnone e he)
  obtain ⟨c, outcome⟩ := e
  cases c with
  | sendTransaction tx =>
    obtain ⟨it, hit, hmem⟩ := exists_iteration he rfl
    refine ⟨tr, r, hexec.runs, it, hit, fun hintegrity => htrim ?_⟩
    obtain ⟨before, after, rfl⟩ := List.mem_iff_append.mp hmem
    obtain ⟨roundID, status, -, hbacked⟩ := hintegrity before tx outcome after rfl
    -- whatever the status, the committed endpoint was requested
    obtain ⟨probe, clientTimeout, ctxTimeout, hprobe⟩ :
        ∃ probe, Probed (trimEndpointInput cfg.targetURL) before probe := by
      cases status with
      | up =>
        obtain ⟨probe, hprobe, -⟩ := hbacked.up.mp rfl
        exact ⟨probe, hprobe⟩
      | down =>
        obtain ⟨probe, hprobe, -⟩ := hbacked.down rfl
        exact ⟨probe, hprobe⟩
    exact eq_of_probed hexec.runs _ hit _ probe
      ⟨clientTimeout, ctxTimeout, List.mem_append_left _ hprobe⟩
  | _ => cases hsend

/-- **Vote integrity.** For every target that the daemon accepts: in every run, every vote has
integrity, if and only if trimming leaves the target unchanged (or one of the contract ids is none,
and the daemon sends nothing). -/
theorem votes_have_integrity (haccept : computeEndpointHash lib cfg.targetURL = .ok endpointHash) :
    (∀ rounds tr r, Runs (main lib cfg client rounds) tr r →
      ∀ it ∈ iterations tr, VoteIntegrity cfg client endpointHash it) ↔
    trimEndpointInput cfg.targetURL = cfg.targetURL ∨
      ¬ (lib.isContractID client.registryContract = true ∧
        lib.isContractID client.slaVaultContract = true) := by
  have hmain : ∀ rounds, main lib cfg client rounds =
      mainLoop lib cfg client endpointHash rounds := by
    intro rounds
    rw [main, haccept]
  simp only [hmain]
  constructor
  · intro hall
    by_contra hnot
    rw [not_or, not_not] at hnot
    obtain ⟨htrim, hregistry, hvault⟩ := hnot
    obtain ⟨tr, r, hrun, it, hit, hbad⟩ := exists_unbacked_vote htrim hregistry hvault
    exact hbad (hall 1 tr r hrun it hit)
  · rintro hcond rounds tr r hrun
    refine forall_iterations ?_ ?_ hrun
    · intro before tx outcome after hnil
      cases before <;> cases hnil
    · intro s tr r s' after hround hafter
      obtain htrim | hids := hcond
      · have hparse := parseURL_of_computeEndpointHash haccept
        rw [htrim] at hparse
        exact voteIntegrity_runOneRound htrim hparse hround hafter
      · intro before tx outcome rest hsplit
        obtain ⟨rest, rfl⟩ := append_eq_of_notMem_right hsplit fun hmem => hafter _ hmem
        exact absurd (List.mem_append_right _ List.mem_cons_self)
          (notMem_of_silent (silent_runOneRound hids hround))

end

/-! ### With and without a line feed -/

/-- The votes of a daemon for the endpoint itself have integrity. -/
theorem votes_have_integrity_trimmed :
    computeEndpointHash sampleLib sampleTarget = .ok sampleHash ∧
      ∀ rounds tr r, Runs (main sampleLib (sampleConfig sampleTarget)
          sampleClient rounds) tr r →
        ∀ it ∈ iterations tr, VoteIntegrity (sampleConfig sampleTarget)
          sampleClient sampleHash it :=
  ⟨by rfl, (votes_have_integrity (by rfl)).mpr (.inl (by decide))⟩

/-- A line feed behind the target, which the daemon accepts, costs it a `GET` of the endpoint. -/
theorem votes_lack_integrity :
    computeEndpointHash sampleLib (sampleTarget ++ [0x0A]) = .ok sampleHash ∧
      ∃ tr r, Runs (main sampleLib (sampleConfig (sampleTarget ++ [0x0A]))
          sampleClient 1) tr r ∧
        ∃ it ∈ iterations tr, ¬ VoteIntegrity (sampleConfig (sampleTarget ++ [0x0A]))
          sampleClient sampleHash it := by
  have haccept : computeEndpointHash sampleLib (sampleTarget ++ [0x0A]) =
      .ok sampleHash := by rfl
  refine ⟨haccept, ?_⟩
  have hmain : main sampleLib (sampleConfig (sampleTarget ++ [0x0A])) sampleClient 1 =
      mainLoop sampleLib (sampleConfig (sampleTarget ++ [0x0A])) sampleClient
        sampleHash 1 := by
    rw [main, sampleConfig, haccept]
  rw [hmain]
  exact exists_unbacked_vote (by decide) isContractID_sampleRegistry isContractID_sampleVault

end Watcher

end SlaSettle
