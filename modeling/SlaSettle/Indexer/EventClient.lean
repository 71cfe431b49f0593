import SlaSettle.Effect.Interpret
import SlaSettle.Indexer.Run

/-!
# The poller's RPC client

`SorobanEventClient` of `rpc/client.ts`: how the calls of an ingestion step become requests to the
RPC. A request that fails without an answer is made again, up to three times in all, with a growing
delay; any other failure is thrown at once (`runs_withNetworkRetry_iff`).

`eventClient` performs each call of the poller by the client and the database. Whatever it does, the
call is answered as `Rpc.lean` says it may be (`simulates_eventClient`), so what is proved of
ingestion over that interface holds of ingestion over the client.
-/

namespace SlaSettle

namespace Indexer

open Js Effect Program

/-! ### Requests -/

/-- A thrown value, with what the client reads of it: `err.isAxiosError === true` and
`err.response !== undefined`. -/
structure RpcError where
  thrown : Thrown
  isAxiosError : Bool
  hasResponse : Bool

/-- The parameters of `server.getEvents`. -/
structure EventsRequest where
  contractIds : List String
  limit : ℕ
  startLedger : Option JsNumber
  cursor : Option String

/-- The requests of the client. -/
inductive RpcRequest where
  | getLatestLedger
  | getEvents (request : EventsRequest)

/-- What a request returns when it does not throw; of the latest ledger, its sequence. -/
def RpcRequest.Returns : RpcRequest → Type
  | getLatestLedger => ℕ
  | getEvents _ => GetEventsResponse

/-- The calls of the daemon. -/
inductive DaemonCall where
  /-- `signal.aborted` -/
  | aborted
  | getCheckpoint
  | applyBatch (params : BatchParams)
  | rpc (c : RpcRequest)
  /-- The `sleep` of the client, between attempts. -/
  | sleep (ms : ℕ)
  /-- The `sleep` of the poller, which an abort cuts short. -/
  | pause (ms : ℕ)

def DaemonCall.Answer : DaemonCall → Type
  | aborted => Bool
  | getCheckpoint => Except Thrown (Option CheckpointRow)
  | applyBatch _ => Except Thrown Unit
  | rpc c => Except RpcError c.Returns
  | sleep _ | pause _ => Unit

abbrev daemonInterface : Interface := ⟨DaemonCall, DaemonCall.Answer⟩

abbrev Daemon (α : Type) : Type := Program daemonInterface α

/-- Make one call of the daemon. -/
abbrev DaemonCall.await (c : DaemonCall) : Daemon c.Answer := perform (I := daemonInterface) c

/-- Make a request to the RPC. -/
def RpcRequest.send (c : RpcRequest) : Daemon (Except RpcError c.Returns) :=
  (DaemonCall.rpc c).await

/-! ### Retries -/

def retryAttempts : ℕ := 3

def retryBaseDelayMs : ℕ := 250

/-- An error of the HTTP client that came without an answer. -/
def isTransientNetworkError (err : RpcError) : Bool := err.isAxiosError && !err.hasResponse

/-- The loop of `withNetworkRetry`, from an attempt on, with so many left. -/
def retryFrom {α : Type} (fn : Daemon (Except RpcError α)) (attempt : ℕ) :
    ℕ → Daemon (Except RpcError α)
  | 0 => return .error ⟨.error "unreachable", false, false⟩
  | left + 1 => do
    match ← fn with
    | .ok a => return .ok a
    | .error err =>
      if !isTransientNetworkError err || attempt = retryAttempts then return .error err
      else
        (DaemonCall.sleep (retryBaseDelayMs * attempt)).await
        retryFrom fn (attempt + 1) left

def withNetworkRetry {α : Type} (fn : Daemon (Except RpcError α)) : Daemon (Except RpcError α) :=
  retryFrom fn 1 retryAttempts

/-- The trace of attempts that failed, with the delay after each. -/
def failedAttempts (c : RpcRequest) : ℕ → List RpcError → List (Event daemonInterface)
  | _, [] => []
  | attempt, err :: errs =>
    ⟨.rpc c, .error err⟩ :: ⟨.sleep (retryBaseDelayMs * attempt), ()⟩ ::
      failedAttempts c (attempt + 1) errs

section

variable {c : RpcRequest} {attempt left : ℕ} {tr : List (Event daemonInterface)}
  {r : Except RpcError c.Returns}

/-- One attempt: its answer is the result, or the next attempt follows after the delay. -/
private theorem runs_retryFrom_succ :
    Runs (retryFrom c.send attempt (left + 1)) tr r ↔
      (tr = [⟨.rpc c, r⟩] ∧ ∀ err, r = .error err → isTransientNetworkError err = true →
        attempt = retryAttempts) ∨
      ∃ err tr', isTransientNetworkError err = true ∧ attempt ≠ retryAttempts ∧
        tr = ⟨.rpc c, .error err⟩ :: ⟨.sleep (retryBaseDelayMs * attempt), ()⟩ :: tr' ∧
        Runs (retryFrom c.send (attempt + 1) left) tr' r := by
  rw [retryFrom]
  refine runs_perform_bind_iff.trans ⟨?_, ?_⟩
  · rintro ⟨answer, tr', hrest, rfl⟩
    match answer with
    | .ok a =>
      obtain ⟨rfl, rfl⟩ := runs_done_iff.mp hrest
      exact .inl ⟨rfl, nofun⟩
    | .error err =>
      dsimp only at hrest
      split_ifs at hrest with hthrown
      · obtain ⟨rfl, rfl⟩ := runs_done_iff.mp hrest
        refine .inl ⟨rfl, fun err' herr htransient => ?_⟩
        obtain rfl := Except.error.inj herr
        simpa [htransient] using hthrown
      · obtain ⟨_, tr'', hrest', rfl⟩ := runs_perform_bind_iff.mp hrest
        simp only [Bool.or_eq_true, Bool.not_eq_eq_eq_not, Bool.not_true, decide_eq_true_eq, not_or,
          Bool.not_eq_false] at hthrown
        exact .inr ⟨err, tr'', hthrown.1, hthrown.2, rfl, hrest'⟩
  · rintro (⟨rfl, hlast⟩ | ⟨err, tr', htransient, hattempt, rfl, hrest⟩)
    · refine ⟨r, [], ?_, rfl⟩
      match r with
      | .ok a => exact .done
      | .error err =>
        have hthrown : (!isTransientNetworkError err || decide (attempt = retryAttempts)) = true
            := by
          cases htransient : isTransientNetworkError err with
          | false => rfl
          | true => simpa using hlast err rfl htransient
        dsimp only
        rw [if_pos hthrown]
        exact .done
    · refine ⟨.error err, _, ?_, rfl⟩
      have hthrown : (!isTransientNetworkError err || decide (attempt = retryAttempts)) ≠ true := by
        simp [htransient, hattempt]
      dsimp only
      rw [if_neg hthrown]
      exact runs_perform_bind_iff.mpr ⟨(), tr', hrest, rfl⟩

private theorem runs_retryFrom_iff (hsum : attempt + left = retryAttempts) :
    Runs (retryFrom c.send attempt (left + 1)) tr r ↔
      ∃ failures : List RpcError, (∀ err ∈ failures, isTransientNetworkError err = true) ∧
        failures.length ≤ left ∧ tr = failedAttempts c attempt failures ++ [⟨.rpc c, r⟩] ∧
        ∀ err, r = .error err → isTransientNetworkError err = true → failures.length = left := by
  induction left generalizing attempt tr with
  | zero =>
    have hlast : attempt = retryAttempts := hsum
    rw [runs_retryFrom_succ]
    constructor
    · rintro (⟨rfl, -⟩ | ⟨-, -, -, hne, -⟩)
      · exact ⟨[], by simp, le_rfl, rfl, fun _ _ _ => rfl⟩
      · exact absurd hlast hne
    · rintro ⟨failures, -, hlength, rfl, -⟩
      obtain rfl := List.eq_nil_of_length_eq_zero (Nat.le_zero.mp hlength)
      exact .inl ⟨rfl, fun _ _ _ => hlast⟩
  | succ left ih =>
    have hmore : attempt ≠ retryAttempts := by omega
    rw [runs_retryFrom_succ]
    constructor
    · rintro (⟨rfl, hend⟩ | ⟨err, tr', htransient, -, rfl, hrest⟩)
      · exact ⟨[], by simp, Nat.zero_le _, rfl, fun err herr htransient =>
          absurd (hend err herr htransient) hmore⟩
      · obtain ⟨failures, hall, hlength, rfl, hend⟩ := (ih (by omega)).mp hrest
        refine ⟨err :: failures, List.forall_mem_cons.mpr ⟨htransient, hall⟩,
          Nat.succ_le_succ hlength, rfl, fun err' herr htransient' => ?_⟩
        rw [List.length_cons, hend err' herr htransient']
    · rintro ⟨failures, hall, hlength, rfl, hend⟩
      cases failures with
      | nil =>
        exact .inl ⟨rfl, fun err herr htransient => absurd (hend err herr htransient) (by simp)⟩
      | cons err failures =>
        obtain ⟨htransient, hall⟩ := List.forall_mem_cons.mp hall
        refine .inr ⟨err, _, htransient, hmore, rfl, (ih (by omega)).mpr
          ⟨failures, hall, Nat.le_of_succ_le_succ hlength, rfl, fun err' herr htransient' => ?_⟩⟩
        exact Nat.succ.inj (hend err' herr htransient')

/-- **Retries.** A request is answered by the last of at most three attempts. The others failed
without an answer and were followed by the delays; the last is the third, or did not fail so. -/
theorem runs_withNetworkRetry_iff :
    Runs (withNetworkRetry c.send) tr r ↔
      ∃ failures : List RpcError, (∀ err ∈ failures, isTransientNetworkError err = true) ∧
        failures.length ≤ 2 ∧ tr = failedAttempts c 1 failures ++ [⟨.rpc c, r⟩] ∧
        ∀ err, r = .error err → isTransientNetworkError err = true → failures.length = 2 :=
  @runs_retryFrom_iff c 1 2 tr r rfl

end

/-! ### The client -/

/-- The parameters for a page: a start ledger or a cursor, never both. -/
def eventsRequest (contractIds : List String) (limit : ℕ) : EventsCursor → EventsRequest
  | .ledger startLedger => ⟨contractIds, limit, some startLedger, none⟩
  | .cursor cursor => ⟨contractIds, limit, none, some cursor⟩

/-- `SorobanEventClient.getLatestLedger` -/
def clientLatestLedger : Daemon (Except Thrown ℕ) := do
  let res ← withNetworkRetry RpcRequest.getLatestLedger.send
  return res.mapError RpcError.thrown

/-- `SorobanEventClient.getEvents` -/
def clientEvents (contractIds : List String) (cursor : EventsCursor) (limit : ℕ) :
    Daemon (Except Thrown GetEventsResponse) :=
  if 5 < contractIds.length then
    return .error (.error (s!"getEvents called with {contractIds.length} contract IDs — " ++
      "Soroban RPC caps a single filter batch at 5. Split into multiple calls if this ever " ++
      "needs to watch more contracts."))
  else do
    let res ← withNetworkRetry (RpcRequest.getEvents (eventsRequest contractIds limit cursor)).send
    return res.mapError RpcError.thrown

/-- How the daemon performs the calls of a cycle. -/
def eventClient : (c : IngestCall) → Daemon (Except Thrown c.Returns)
  | .getCheckpoint => DaemonCall.getCheckpoint.await
  | .getLatestLedger => clientLatestLedger
  | .getEvents contractIds cursor limit => clientEvents contractIds cursor limit
  | .applyBatch params => (DaemonCall.applyBatch params).await

/-- The world of the daemon: the database, and an RPC that may fail in any way or answer. -/
inductive DaemonAnswers (rpc : EventsCursor → ℕ → GetEventsResponse → Prop) :
    Db → (c : DaemonCall) → c.Answer → Db → Prop
  | aborted {db : Db} {now : Bool} : DaemonAnswers rpc db .aborted now db
  | getCheckpointThrows {db : Db} {e : Thrown} :
      DaemonAnswers rpc db .getCheckpoint (.error e) db
  | getCheckpoint {db : Db} : DaemonAnswers rpc db .getCheckpoint (.ok db.checkpoint) db
  | applyBatchThrows {db : Db} {params : BatchParams} {e : Thrown} :
      DaemonAnswers rpc db (.applyBatch params) (.error e) db
  | applyBatch {db : Db} {params : BatchParams} :
      DaemonAnswers rpc db (.applyBatch params) (.ok ()) (db.applyBatch params)
  | rpcThrows {db : Db} {c : RpcRequest} {err : RpcError} :
      DaemonAnswers rpc db (.rpc c) (.error err) db
  | getLatestLedger {db : Db} {latest : ℕ} :
      DaemonAnswers rpc db (.rpc .getLatestLedger) (.ok latest) db
  | getEvents {db : Db} {contractIds : List String} {limit : ℕ} {q : EventsCursor}
      {page : GetEventsResponse} (served : rpc q limit page) :
      DaemonAnswers rpc db (.rpc (.getEvents (eventsRequest contractIds limit q))) (.ok page) db
  | sleep {db : Db} {ms : ℕ} : DaemonAnswers rpc db (.sleep ms) () db
  | pause {db : Db} {ms : ℕ} : DaemonAnswers rpc db (.pause ms) () db

section

variable {rpc : EventsCursor → ℕ → GetEventsResponse → Prop} {db db' : Db}
  {tr : List (Event daemonInterface)}

/-- Only a batch changes the database. -/
private theorem exec_keeps {α : Type} {p : Daemon α} {a : α}
    (h : Exec (DaemonAnswers rpc) p db tr a db')
    (htr : ∀ e ∈ tr, ∀ params, e.1 ≠ .applyBatch params) : db' = db := by
  induction h with
  | done => rfl
  | call here _ ih =>
    obtain ⟨hhead, htail⟩ := List.forall_mem_cons.mp htr
    rw [ih htail]
    cases here with
    | applyBatch => exact absurd rfl (hhead _)
    | _ => rfl

private theorem mem_failedAttempts {c : RpcRequest} {attempt : ℕ} {failures : List RpcError}
    {e : Event daemonInterface} (he : e ∈ failedAttempts c attempt failures) :
    e.1 = .rpc c ∨ ∃ ms, e.1 = .sleep ms := by
  induction failures generalizing attempt with
  | nil => cases he
  | cons err failures ih =>
    rcases List.mem_cons.mp he with rfl | he
    · exact .inl rfl
    · rcases List.mem_cons.mp he with rfl | he
      · exact .inr ⟨_, rfl⟩
      · exact ih he

/-- What a request comes to, with its retries: one answer to it, which leaves the database. -/
private theorem exec_withNetworkRetry {c : RpcRequest} {r : Except RpcError c.Returns}
    (h : Exec (DaemonAnswers rpc) (withNetworkRetry c.send) db tr r db') :
    db' = db ∧ ∃ t t', DaemonAnswers rpc t (.rpc c) r t' := by
  obtain ⟨failures, -, -, rfl, -⟩ := runs_withNetworkRetry_iff.mp h.runs
  refine ⟨exec_keeps h fun e he params => ?_, h.answered ⟨.rpc c, r⟩ (by simp)⟩
  rcases List.mem_append.mp he with he | he
  · rcases mem_failedAttempts he with hcall | ⟨ms, hcall⟩ <;> rw [hcall] <;> nofun
  · rw [List.mem_singleton.mp he]
    nofun

/-- The parameters say which page was asked for. -/
theorem eventsRequest_inj {contractIds contractIds' : List String} {limit limit' : ℕ}
    {q q' : EventsCursor}
    (h : eventsRequest contractIds limit q = eventsRequest contractIds' limit' q') :
    q = q' ∧ limit = limit' := by
  cases q <;> cases q' <;> cases h <;> exact ⟨rfl, rfl⟩

private theorem DaemonAnswers.getEvents_ok {request : EventsRequest} {page : GetEventsResponse}
    (h : DaemonAnswers rpc db (.rpc (.getEvents request)) (.ok page) db') :
    ∃ contractIds limit q, request = eventsRequest contractIds limit q ∧ rpc q limit page := by
  cases h with
  | getEvents served => exact ⟨_, _, _, rfl, served⟩

/-- **The client answers as it may be asked to.** -/
theorem simulates_eventClient :
    Simulates (I := ingestInterface) (J := daemonInterface) Eq (Answers rpc) (DaemonAnswers rpc)
      eventClient := by
  rintro c db _ tr r db' rfl h
  cases c with
  | getCheckpoint =>
    obtain ⟨here, -⟩ := exec_perform_iff.mp h
    cases here with
    | getCheckpointThrows => exact ⟨_, .throws, rfl⟩
    | getCheckpoint => exact ⟨_, .getCheckpoint, rfl⟩
  | applyBatch params =>
    obtain ⟨here, -⟩ := exec_perform_iff.mp h
    cases here with
    | applyBatchThrows => exact ⟨_, .throws, rfl⟩
    | applyBatch => exact ⟨_, .applyBatch, rfl⟩
  | getLatestLedger =>
    obtain ⟨tr₁, res, db₁, tr₂, hsend, hreturn, -⟩ := exec_bind_iff.mp h
    obtain ⟨-, rfl, rfl⟩ := exec_done_iff.mp hreturn
    obtain ⟨rfl, -⟩ := exec_withNetworkRetry hsend
    cases res with
    | error err => exact ⟨_, .throws, rfl⟩
    | ok latest => exact ⟨_, .getLatestLedger, rfl⟩
  | getEvents contractIds q limit =>
    change Exec _ (clientEvents contractIds q limit) _ _ _ _ at h
    rw [clientEvents] at h
    split_ifs at h
    · obtain ⟨-, rfl, rfl⟩ := exec_done_iff.mp h
      exact ⟨_, .throws, rfl⟩
    · obtain ⟨tr₁, res, db₁, tr₂, hsend, hreturn, -⟩ := exec_bind_iff.mp h
      obtain ⟨-, rfl, rfl⟩ := exec_done_iff.mp hreturn
      obtain ⟨rfl, t, t', here⟩ := exec_withNetworkRetry hsend
      cases res with
      | error err => exact ⟨_, .throws, rfl⟩
      | ok page =>
        obtain ⟨contractIds', limit', q', hrequest, served⟩ := here.getEvents_ok
        obtain ⟨rfl, rfl⟩ := eventsRequest_inj hrequest
        exact ⟨_, .getEvents served, rfl⟩

end

end Indexer

end SlaSettle
