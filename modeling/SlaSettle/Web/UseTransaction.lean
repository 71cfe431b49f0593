import SlaSettle.Effect.Throwing
import SlaSettle.Web.Wallet

/-!
# Driving a transaction

`useTransaction.run` of `lib/use-transaction.ts` and the two stages it awaits, `signTransaction`
and `submitTransaction` of `lib/wallet.ts`: build, sign, send, poll, with a state for the page to
show at each stage and one `catch` around all of them.

The world is the hook's state, which `setState` writes. Every call that leaves the app may return
anything it can return, or throw. What it throws is not a `WalletError`, which only this app
constructs: there `submitTransaction` and `signTransaction` do, and the form's `buildUnsignedTx`
may.

`exec_run` describes the runs: what was sent, what was polled, and the state left at the end.
-/

namespace SlaSettle

namespace Web

open Js Effect Program

/-! ### States and responses -/

inductive TransactionState where
  | idle
  | building
  | signing
  | submitting
  /-- Accepted by the network, not yet in a ledger. -/
  | pending (hash : String)
  | confirmed (hash : String)
  /-- Submitted, but polling ended without a final result. -/
  | unconfirmed (hash message : String)
  /-- The user declined in their wallet. Nothing was submitted. -/
  | rejected (message : String)
  | failed (hash : Option String) (message : String)
  deriving DecidableEq

/-- A transaction, as far as this code looks into it. -/
structure Transaction where
  xdr : String
  deriving DecidableEq

structure WalletConnection where
  address : String
  networkPassphrase : String

structure FreighterError where
  code : ℤ
  message : String

structure NetworkDetails where
  networkPassphrase : String
  error : Option FreighterError

structure SignedTransaction where
  signedTxXdr : String
  error : Option FreighterError

inductive SendTransactionStatus where
  | pending
  | duplicate
  | tryAgainLater
  | error
  deriving DecidableEq

structure SendTransactionResponse where
  status : SendTransactionStatus
  hash : String
  deriving DecidableEq

inductive GetTransactionStatus where
  | success
  | notFound
  | failed
  deriving DecidableEq

/-- The status stands for the whole response of the poll. -/
structure SubmittedTransaction where
  hash : String
  status : GetTransactionStatus
  deriving DecidableEq

/-! ### Calls -/

/-- What a run awaits, and the state it sets. -/
inductive TransactionCall where
  | buildUnsignedTx
  | getNetworkDetails
  | freighterSignTransaction (xdr networkPassphrase address : String)
  | fromXDR (xdr networkPassphrase : String)
  | getSdkConfig
  | getRpcServer
  | sendTransaction (tx : Transaction)
  | pollTransaction (hash : String) (attempts : ℕ)
  | setState (state : TransactionState)

/-- What a call returns when it does not throw. -/
def TransactionCall.Returns : TransactionCall → Type
  | buildUnsignedTx => Transaction
  | getNetworkDetails => NetworkDetails
  | freighterSignTransaction _ _ _ => SignedTransaction
  | fromXDR _ _ => Transaction
  | getSdkConfig => Unit
  | getRpcServer => Unit
  | sendTransaction _ => SendTransactionResponse
  | pollTransaction _ _ => GetTransactionStatus
  | setState _ => Unit

abbrev transactionInterface : Interface := throwing Failure TransactionCall.Returns

/-- Code of the transaction flow: it calls out, and may throw. -/
abbrev Flow (α : Type) : Type := Throwing Failure TransactionCall.Returns α

/-- Await one call. -/
abbrev TransactionCall.await (c : TransactionCall) : Flow c.Returns := ask c

/-- Whether a call sets the hook's state. -/
def TransactionCall.setsState : TransactionCall → Bool
  | setState _ => true
  | _ => false

/-- The world of a run. -/
inductive FlowAnswers :
    TransactionState → (c : TransactionCall) → Except Failure c.Returns → TransactionState → Prop
  | setState {state state' : TransactionState} :
      FlowAnswers state (.setState state') (.ok ()) state'
  | returns {state : TransactionState} {c : TransactionCall} {a : c.Returns}
      (outside : c.setsState = false) : FlowAnswers state c (.ok a) state
  | throws {state : TransactionState} {c : TransactionCall} {t : Thrown}
      (outside : c.setsState = false) : FlowAnswers state c (.error (.thrown t)) state
  | buildThrows {state : TransactionState} {message : String} {code : Option ℤ} :
      FlowAnswers state .buildUnsignedTx (.error (.walletError message code)) state

/-! ### The flow -/

def throwIfFreighterError : Option FreighterError → Except Failure Unit
  | some error => .error (.walletError error.message (some error.code))
  | none => .ok ()

/-- A refused network is a `WalletError`. -/
def requireNetwork (configured : Option String) (passphrase : String) : Except Failure Unit :=
  (checkWalletNetwork configured passphrase).mapError fun message => .walletError message none

def signTransaction (configured : Option String) (unsignedTx : Transaction)
    (wallet : WalletConnection) : Flow Transaction := do
  attempt (requireNetwork configured wallet.networkPassphrase)
  let liveNetwork ← TransactionCall.getNetworkDetails.await
  attempt (throwIfFreighterError liveNetwork.error)
  attempt (requireNetwork configured liveNetwork.networkPassphrase)
  let result ← (TransactionCall.freighterSignTransaction unsignedTx.xdr wallet.networkPassphrase
    wallet.address).await
  attempt (throwIfFreighterError result.error)
  (TransactionCall.fromXDR result.signedTxXdr wallet.networkPassphrase).await

def submitTransaction (signedTx : Transaction) (onSubmitted : String → Flow Unit) :
    Flow SubmittedTransaction := do
  TransactionCall.getSdkConfig.await
  TransactionCall.getRpcServer.await
  let sendResult ← (TransactionCall.sendTransaction signedTx).await
  match sendResult.status with
  | .error => attempt (.error (.walletError (sendErrorMessage sendResult.hash) none))
  | .tryAgainLater => attempt (.error (.walletError tryAgainLaterMessage none))
  -- Both mean that the hash is known to the network.
  | .pending | .duplicate => do
    onSubmitted sendResult.hash
    let status ← (TransactionCall.pollTransaction sendResult.hash 30).await
    return { hash := sendResult.hash, status }

/-- The state of a transaction that was polled. -/
def polledState (result : SubmittedTransaction) : TransactionState :=
  match result.status with
  | .success => .confirmed result.hash
  | .notFound => .unconfirmed result.hash
      "The transaction was submitted but its final status could not be confirmed yet. Check the transaction hash on an explorer before retrying."
  | .failed => .failed (some result.hash) "The transaction was included but failed on-chain."

/-- `err instanceof Error ? err.message : …`. -/
def failureMessage : Failure → String
  | .walletError message _ => message
  | .thrown (.error message) => message
  | .thrown .other =>
    "The transaction could not be completed. Check your wallet and try again."

/-- The state the `catch` block sets. -/
def caughtState (err : Failure) : TransactionState :=
  if isUserRejection err then
    .rejected "You declined the request in your wallet. Nothing was submitted."
  else .failed none (failureMessage err)

/-- The `try` block of `run`. -/
def runStages (configured : Option String) (wallet : WalletConnection) :
    Flow (Option SubmittedTransaction) := do
  let unsignedTx ← TransactionCall.buildUnsignedTx.await
  (TransactionCall.setState .signing).await
  let signedTx ← signTransaction configured unsignedTx wallet
  (TransactionCall.setState .submitting).await
  let result ← submitTransaction signedTx fun hash =>
    (TransactionCall.setState (.pending hash)).await
  (TransactionCall.setState (polledState result)).await
  return some result

/-- The `catch` block of `run`. -/
def handleFailure (err : Failure) : Flow (Option SubmittedTransaction) := do
  (TransactionCall.setState (caughtState err)).await
  return none

/-- `useTransaction.run`. -/
def run (configured : Option String) (wallet : WalletConnection) :
    Flow (Option SubmittedTransaction) :=
  match checkWalletNetwork configured wallet.networkPassphrase with
  | .error message => do
    (TransactionCall.setState (.failed none message)).await
    return none
  | .ok () => do
    (TransactionCall.setState .building).await
    tryCatch (runStages configured wallet) handleFailure

/-! ### What was sent and polled -/

/-- The outcome of a `sendTransaction`. -/
def send? : Event transactionInterface → Option (Except Failure SendTransactionResponse)
  | ⟨.sendTransaction _, outcome⟩ => some outcome
  | _ => none

/-- The outcome of a `pollTransaction`. -/
def poll? : Event transactionInterface → Option (Except Failure GetTransactionStatus)
  | ⟨.pollTransaction _ _, outcome⟩ => some outcome
  | _ => none

/-- The outcomes of the calls of `sendTransaction` in a run. -/
def sends (tr : List (Event transactionInterface)) :
    List (Except Failure SendTransactionResponse) :=
  tr.filterMap send?

/-- The outcomes of the calls of `pollTransaction` in a run. -/
def polls (tr : List (Event transactionInterface)) : List (Except Failure GetTransactionStatus) :=
  tr.filterMap poll?

theorem sends_append (tr tr' : List (Event transactionInterface)) :
    sends (tr ++ tr') = sends tr ++ sends tr' :=
  List.filterMap_append

theorem polls_append (tr tr' : List (Event transactionInterface)) :
    polls (tr ++ tr') = polls tr ++ polls tr' :=
  List.filterMap_append

theorem sends_append_setState (tr : List (Event transactionInterface)) (state : TransactionState) :
    sends (tr ++ [⟨.setState state, .ok ()⟩]) = sends tr :=
  (sends_append _ _).trans (List.append_nil _)

theorem polls_append_setState (tr : List (Event transactionInterface)) (state : TransactionState) :
    polls (tr ++ [⟨.setState state, .ok ()⟩]) = polls tr :=
  (polls_append _ _).trans (List.append_nil _)

/-- Nothing was sent or polled. -/
def Quiet (tr : List (Event transactionInterface)) : Prop := sends tr = [] ∧ polls tr = []

/-- Whether a call neither sends nor polls. -/
def TransactionCall.isQuiet : TransactionCall → Bool
  | sendTransaction _ | pollTransaction _ _ => false
  | _ => true

/-- Traces of quiet calls are quiet. -/
theorem quiet_of_forall {tr : List (Event transactionInterface)}
    (h : ∀ e ∈ tr, TransactionCall.isQuiet e.1 = true) : Quiet tr := by
  constructor
  · refine List.filterMap_eq_nil_iff.mpr fun e he => ?_
    obtain ⟨c, r⟩ := e
    have hc : c.isQuiet = true := h _ he
    cases c with
    | sendTransaction tx => cases hc
    | _ => rfl
  · refine List.filterMap_eq_nil_iff.mpr fun e he => ?_
    obtain ⟨c, r⟩ := e
    have hc : c.isQuiet = true := h _ he
    cases c with
    | pollTransaction hash attempts => cases hc
    | _ => rfl

/-! ### Runs, stage by stage -/

section

variable {configured : Option String} {wallet : WalletConnection}
  {s s' : TransactionState} {tr : List (Event transactionInterface)}

/-- Setting the state never fails. -/
private theorem exec_setState_bind {α : Type} {state : TransactionState} {f : Unit → Flow α}
    {r : Except Failure α}
    (h : Exec FlowAnswers ((TransactionCall.setState state).await >>= f : Flow α) s tr r s') :
    ∃ tr', Exec FlowAnswers (f ()) state tr' r s' ∧ tr = ⟨.setState state, .ok ()⟩ :: tr' := by
  rcases exec_ask_bind_iff.mp h with ⟨e, here, -⟩ | ⟨_, s₁, tr', here, rest, rfl⟩
  · cases here with
    | throws outside => cases outside
  · cases here with
    | setState => exact ⟨tr', rest, rfl⟩
    | returns outside => cases outside

/-- Signing sends nothing. -/
theorem quiet_signTransaction {unsignedTx : Transaction} {r : Except Failure Transaction}
    (h : Exec FlowAnswers (signTransaction configured unsignedTx wallet) s tr r s') : Quiet tr := by
  have hask : ∀ c : TransactionCall, c.isQuiet = true →
      OkObeys (fun c => TransactionCall.isQuiet c = true) (fun _ => True) c.await :=
    fun _ hc => okObeys_ask hc
  have hcalls : OkObeys (fun c => TransactionCall.isQuiet c = true) (fun _ => True)
      (signTransaction configured unsignedTx wallet) := by
    refine okObeys_bind (okObeys_attempt fun _ _ => trivial) fun _ _ => ?_
    refine okObeys_bind (hask _ rfl) fun _ _ => ?_
    refine okObeys_bind (okObeys_attempt fun _ _ => trivial) fun _ _ => ?_
    refine okObeys_bind (okObeys_attempt fun _ _ => trivial) fun _ _ => ?_
    refine okObeys_bind (hask _ rfl) fun _ _ => ?_
    exact okObeys_bind (okObeys_attempt fun _ _ => trivial) fun _ _ => hask (.fromXDR _ _) rfl
  exact quiet_of_forall (hcalls.exec h).1

/-- The network knows the transaction. -/
def SendTransactionResponse.accepted (response : SendTransactionResponse) : Prop :=
  response.status = .pending ∨ response.status = .duplicate

/-- How a submission can go: what was sent, what was polled, and how it ends. -/
inductive Submission : List (Except Failure SendTransactionResponse) →
    List (Except Failure GetTransactionStatus) → Except Failure SubmittedTransaction → Prop
  | unconfigured {t : Thrown} : Submission [] [] (.error (.thrown t))
  | sendThrew {t : Thrown} : Submission [.error (.thrown t)] [] (.error (.thrown t))
  | refused {hash : String} : Submission [.ok ⟨.error, hash⟩] []
      (.error (.walletError (sendErrorMessage hash) none))
  | busy {hash : String} : Submission [.ok ⟨.tryAgainLater, hash⟩] []
      (.error (.walletError tryAgainLaterMessage none))
  | pollThrew {response : SendTransactionResponse} {t : Thrown} (accepted : response.accepted) :
      Submission [.ok response] [.error (.thrown t)] (.error (.thrown t))
  | polled {response : SendTransactionResponse} {status : GetTransactionStatus}
      (accepted : response.accepted) :
      Submission [.ok response] [.ok status] (.ok ⟨response.hash, status⟩)

/-- A call that is no `setState` throws what is not a `WalletError`. -/
private theorem thrown_of_outside {c : TransactionCall} {e : Failure}
    (h : FlowAnswers s c (.error e) s') (hbuild : c ≠ .buildUnsignedTx) :
    ∃ t, e = .thrown t := by
  cases h with
  | throws _ => exact ⟨_, rfl⟩
  | buildThrows => exact absurd rfl hbuild

/-- The part of a submission after the network accepted the transaction. -/
private theorem exec_poll {response : SendTransactionResponse} (accepted : response.accepted)
    {r : Except Failure SubmittedTransaction}
    (h : Exec FlowAnswers (do
        (TransactionCall.setState (.pending response.hash)).await
        let status ← (TransactionCall.pollTransaction response.hash 30).await
        return ({ hash := response.hash, status } : SubmittedTransaction) : Flow _) s tr r s') :
    sends tr = [] ∧ Submission [.ok response] (polls tr) r := by
  obtain ⟨tr₁, rest, rfl⟩ := exec_setState_bind h
  change sends tr₁ = [] ∧ Submission _ (polls tr₁) r
  rcases exec_ask_bind_iff.mp rest with ⟨e, here, rfl, rfl⟩ | ⟨status, s₂, tr₂, here, hreturn, rfl⟩
  · obtain ⟨t, rfl⟩ := thrown_of_outside here nofun
    exact ⟨rfl, .pollThrew accepted⟩
  · obtain ⟨rfl, rfl, -⟩ := exec_return_iff.mp hreturn
    exact ⟨rfl, .polled accepted⟩

theorem exec_submitTransaction {signedTx : Transaction} {r : Except Failure SubmittedTransaction}
    (h : Exec FlowAnswers (submitTransaction signedTx fun hash =>
      (TransactionCall.setState (.pending hash)).await) s tr r s') :
    Submission (sends tr) (polls tr) r := by
  rcases exec_ask_bind_iff.mp h with ⟨e, here, rfl, rfl⟩ | ⟨_, s₁, tr₁, -, rest₁, rfl⟩
  · obtain ⟨t, rfl⟩ := thrown_of_outside here nofun
    exact .unconfigured
  rcases exec_ask_bind_iff.mp rest₁ with ⟨e, here, rfl, rfl⟩ | ⟨_, s₂, tr₂, -, rest₂, rfl⟩
  · obtain ⟨t, rfl⟩ := thrown_of_outside here nofun
    exact .unconfigured
  rcases exec_ask_bind_iff.mp rest₂ with ⟨e, here, rfl, rfl⟩ | ⟨response, s₃, tr₃, -, rest₃, rfl⟩
  · obtain ⟨t, rfl⟩ := thrown_of_outside here nofun
    exact .sendThrew
  -- The transaction was sent; its status decides.
  obtain ⟨status, hash⟩ := response
  cases status with
  | error =>
    obtain ⟨rfl, rfl, -⟩ := exec_attempt_iff.mp rest₃
    exact .refused
  | tryAgainLater =>
    obtain ⟨rfl, rfl, -⟩ := exec_attempt_iff.mp rest₃
    exact .busy
  | pending =>
    have accepted : SendTransactionResponse.accepted ⟨.pending, hash⟩ := .inl rfl
    obtain ⟨hsends, hsubmission⟩ := exec_poll accepted rest₃
    change Submission (.ok ⟨.pending, hash⟩ :: sends tr₃) (polls tr₃) r
    rwa [hsends]
  | duplicate =>
    have accepted : SendTransactionResponse.accepted ⟨.duplicate, hash⟩ := .inr rfl
    obtain ⟨hsends, hsubmission⟩ := exec_poll accepted rest₃
    change Submission (.ok ⟨.duplicate, hash⟩ :: sends tr₃) (polls tr₃) r
    rwa [hsends]

/-- How a run can go: what was sent, what was polled, and the state it leaves. -/
inductive RunOutcome : List (Except Failure SendTransactionResponse) →
    List (Except Failure GetTransactionStatus) → TransactionState → Prop
  | wrongNetwork {message : String} : RunOutcome [] [] (.failed none message)
  | notSubmitted {err : Failure} : RunOutcome [] [] (caughtState err)
  | submitted {sent : List (Except Failure SendTransactionResponse)}
      {polled : List (Except Failure GetTransactionStatus)} {result : SubmittedTransaction}
      (submission : Submission sent polled (.ok result)) :
      RunOutcome sent polled (polledState result)
  | notFinished {sent : List (Except Failure SendTransactionResponse)}
      {polled : List (Except Failure GetTransactionStatus)} {err : Failure}
      (submission : Submission sent polled (.error err)) :
      RunOutcome sent polled (caughtState err)

/-- The `try` block, up to the state the `catch` block sets. -/
private theorem exec_runStages {r : Except Failure (Option SubmittedTransaction)}
    (h : Exec FlowAnswers (runStages configured wallet) s tr r s') :
    (∀ err, r = .error err → RunOutcome (sends tr) (polls tr) (caughtState err)) ∧
      ∀ a, r = .ok a → RunOutcome (sends tr) (polls tr) s' := by
  rcases exec_ask_bind_iff.mp h with ⟨err, -, rfl, rfl⟩ | ⟨tx, s₁, tr₁, -, rest₁, rfl⟩
  · exact ⟨fun _ _ => .notSubmitted, nofun⟩
  obtain ⟨tr₂, rest₂, rfl⟩ := exec_setState_bind rest₁
  change (∀ err, r = .error err → RunOutcome (sends tr₂) (polls tr₂) (caughtState err)) ∧
    ∀ a, r = .ok a → RunOutcome (sends tr₂) (polls tr₂) s'
  rcases exec_throwing_bind_iff.mp rest₂ with
    ⟨err, hsign, rfl⟩ | ⟨tr₃, signedTx, s₃, tr₄, hsign, rest₃, rfl⟩
  · obtain ⟨hsends, hpolls⟩ := quiet_signTransaction hsign
    rw [hsends, hpolls]
    exact ⟨fun _ _ => .notSubmitted, nofun⟩
  obtain ⟨hsends, hpolls⟩ := quiet_signTransaction hsign
  rw [sends_append, polls_append, hsends, hpolls, List.nil_append, List.nil_append]
  obtain ⟨tr₅, rest₄, rfl⟩ := exec_setState_bind rest₃
  change (∀ err, r = .error err → RunOutcome (sends tr₅) (polls tr₅) (caughtState err)) ∧
    ∀ a, r = .ok a → RunOutcome (sends tr₅) (polls tr₅) s'
  rcases exec_throwing_bind_iff.mp rest₄ with
    ⟨err, hsubmit, rfl⟩ | ⟨tr₆, result, s₆, tr₇, hsubmit, rest₅, rfl⟩
  · refine ⟨fun err' herr => ?_, nofun⟩
    cases herr
    exact .notFinished (exec_submitTransaction hsubmit)
  obtain ⟨tr₈, hreturn, rfl⟩ := exec_setState_bind rest₅
  obtain ⟨rfl, rfl, rfl⟩ := exec_return_iff.mp hreturn
  refine ⟨nofun, fun _ _ => ?_⟩
  rw [sends_append_setState, polls_append_setState]
  exact .submitted (exec_submitTransaction hsubmit)

/-- **Every run.** A run never throws, and it ends as one of the outcomes. -/
theorem exec_run {r : Except Failure (Option SubmittedTransaction)}
    (h : Exec FlowAnswers (run configured wallet) s tr r s') :
    (∃ a, r = .ok a) ∧ RunOutcome (sends tr) (polls tr) s' := by
  unfold run at h
  split at h
  · obtain ⟨tr₁, hreturn, rfl⟩ := exec_setState_bind h
    obtain ⟨rfl, rfl, rfl⟩ := exec_return_iff.mp hreturn
    exact ⟨⟨_, rfl⟩, .wrongNetwork⟩
  · obtain ⟨tr₁, rest, rfl⟩ := exec_setState_bind h
    change _ ∧ RunOutcome (sends tr₁) (polls tr₁) s'
    rcases exec_tryCatch_iff.mp rest with ⟨a, htry, rfl⟩ | ⟨tr₂, err, s₂, tr₃, htry, hcatch, rfl⟩
    · exact ⟨⟨a, rfl⟩, (exec_runStages htry).2 a rfl⟩
    · have houtcome := (exec_runStages htry).1 err rfl
      obtain ⟨tr₄, hreturn, rfl⟩ := exec_setState_bind hcatch
      obtain ⟨rfl, rfl, rfl⟩ := exec_return_iff.mp hreturn
      rw [sends_append_setState, polls_append_setState]
      exact ⟨⟨_, rfl⟩, houtcome⟩

end

end Web

end SlaSettle
