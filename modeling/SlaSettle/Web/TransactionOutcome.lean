import SlaSettle.Web.UseTransaction

/-!
# What a run tells the user

Two promises of the transaction states, and exactly when a run keeps them.

* "The user declined in their wallet. Nothing was submitted": a run that ends `rejected` sent
  nothing. The error for a transaction that the *network* turned down after it was sent also reads
  like a rejection, so this holds when no send was answered with `ERROR`
  (`rejected_never_sent`).
* Once the network has accepted a transaction, the final state carries its hash and says what the
  chain reported. The `catch` block is shared with the stages before the submission and knows no
  hash, so this holds when the poll does not throw (`accepted_reported`).
-/

namespace SlaSettle

namespace Web

open Js Effect Program

/-! ### The final states -/

/-- The transaction a state refers to. -/
def TransactionState.hash? : TransactionState → Option String
  | pending hash | confirmed hash | unconfirmed hash _ => some hash
  | failed hash _ => hash
  | idle | building | signing | submitting | rejected _ => none

def TransactionState.isRejected : TransactionState → Bool
  | rejected _ => true
  | _ => false

def TransactionState.isConfirmed : TransactionState → Bool
  | confirmed _ => true
  | _ => false

def TransactionState.isFailed : TransactionState → Bool
  | failed _ _ => true
  | _ => false

def TransactionState.isUnconfirmed : TransactionState → Bool
  | unconfirmed _ _ => true
  | _ => false

theorem isRejected_caughtState (err : Failure) :
    (caughtState err).isRejected = isUserRejection err := by
  unfold caughtState
  split
  · rename_i h
    rw [h]
    rfl
  · rename_i h
    rw [Bool.not_eq_true] at h
    rw [h]
    rfl

theorem isRejected_polledState (result : SubmittedTransaction) :
    (polledState result).isRejected = false := by
  unfold polledState
  split <;> rfl

/-- The `catch` block knows no hash. -/
theorem hash?_caughtState (err : Failure) : (caughtState err).hash? = none := by
  unfold caughtState
  split <;> rfl

/-! ### A declined transaction was never sent -/

section

variable {configured : Option String} {wallet : WalletConnection} {s s' : TransactionState}
  {tr : List (Event transactionInterface)} {r : Except Failure (Option SubmittedTransaction)}

/-- **A transaction shown as declined was never sent**, in every run in which the network does not
answer the send with `ERROR`, and in no other. -/
theorem rejected_never_sent
    (h : Exec FlowAnswers (run configured wallet) s tr r s') :
    (s'.isRejected = true → sends tr = []) ↔
      ∀ response, .ok response ∈ sends tr → response.status ≠ .error := by
  obtain ⟨-, houtcome⟩ := exec_run h
  generalize sends tr = sent at houtcome ⊢
  generalize polls tr = polled at houtcome
  cases houtcome with
  | wrongNetwork => exact iff_of_true (fun _ => rfl) nofun
  | notSubmitted => exact iff_of_true (fun _ => rfl) nofun
  | @submitted _ _ result submission =>
    refine iff_of_true (fun hrejected => ?_) fun response hmem => ?_
    · rw [isRejected_polledState] at hrejected
      cases hrejected
    · cases submission with
      | polled accepted =>
        cases List.mem_singleton.mp hmem
        exact fun herror => by simp [SendTransactionResponse.accepted, herror] at accepted
  | @notFinished _ _ err submission =>
    rw [isRejected_caughtState]
    cases submission with
    | unconfigured => exact iff_of_true nofun nofun
    | sendThrew => exact iff_of_true nofun (by simp)
    | @refused hash =>
      rw [isUserRejection_sendError]
      refine iff_of_false (by simp) fun hall => ?_
      exact hall _ (List.mem_singleton.mpr rfl) rfl
    | busy =>
      rw [isUserRejection_tryAgainLater]
      exact iff_of_true nofun (by simp)
    | pollThrew accepted =>
      refine iff_of_true nofun fun response hmem => ?_
      cases List.mem_singleton.mp hmem
      exact fun herror => by simp [SendTransactionResponse.accepted, herror] at accepted

/-! ### An accepted transaction is reported -/

/-- The state says of the transaction what the chain reported, given the outcomes of the poll. -/
structure TransactionState.Reports (state : TransactionState) (hash : String)
    (polled : List (Except Failure GetTransactionStatus)) : Prop where
  hash : state.hash? = some hash
  confirmed : state.isConfirmed = true ↔ .ok .success ∈ polled
  failed : state.isFailed = true → .ok .failed ∈ polled
  otherwise : .ok .success ∉ polled → .ok .failed ∉ polled → state.isUnconfirmed = true

/-- A poll that returns is reported. -/
theorem reports_polledState (hash : String) (status : GetTransactionStatus) :
    (polledState ⟨hash, status⟩).Reports hash [.ok status] := by
  have hconfirmed : (polledState ⟨hash, status⟩).isConfirmed = true ↔
      (.ok .success : Except Failure GetTransactionStatus) ∈ [.ok status] := by
    cases status <;> simp [polledState, TransactionState.isConfirmed]
  cases status with
  | success => exact ⟨rfl, hconfirmed, nofun, by simp⟩
  | notFound => exact ⟨rfl, hconfirmed, nofun, fun _ _ => rfl⟩
  | failed => exact ⟨rfl, hconfirmed, by simp, by simp⟩

/-- **An accepted transaction is never lost or misreported**, in every run in which the poll does
not throw, and in no other. -/
theorem accepted_reported
    (h : Exec FlowAnswers (run configured wallet) s tr r s') :
    (∀ response, .ok response ∈ sends tr → response.accepted →
        s'.Reports response.hash (polls tr)) ↔
      ∀ err, .error err ∉ polls tr := by
  obtain ⟨-, houtcome⟩ := exec_run h
  generalize sends tr = sent at houtcome ⊢
  generalize polls tr = polled at houtcome ⊢
  cases houtcome with
  | wrongNetwork => exact iff_of_true nofun nofun
  | notSubmitted => exact iff_of_true nofun nofun
  | submitted submission =>
    cases submission with
    | @polled response status accepted =>
      refine iff_of_true (fun response' hmem _ => ?_) (by simp)
      cases List.mem_singleton.mp hmem
      exact reports_polledState _ _
  | notFinished submission =>
    cases submission with
    | unconfigured => exact iff_of_true nofun nofun
    | sendThrew => exact iff_of_true (by simp) nofun
    | refused => exact iff_of_true (by simp [SendTransactionResponse.accepted]) nofun
    | busy => exact iff_of_true (by simp [SendTransactionResponse.accepted]) nofun
    | @pollThrew response t accepted =>
      refine iff_of_false (fun hall => ?_) fun hall => hall _ (List.mem_singleton.mpr rfl)
      have hhash := (hall response (List.mem_singleton.mpr rfl) accepted).hash
      rw [hash?_caughtState] at hhash
      cases hhash

end

/-! ### Three runs -/

/-- A wallet on the configured network. -/
private def wallet : WalletConnection := ⟨"A", "N"⟩

/-- A run up to the signature, which the wallet answers with `signed`. -/
private def signTrace (signed : SignedTransaction) (rest : List (Event transactionInterface)) :
    List (Event transactionInterface) :=
  ⟨.setState .building, .ok ()⟩ :: ⟨.buildUnsignedTx, .ok ⟨"x"⟩⟩ ::
    ⟨.setState .signing, .ok ()⟩ :: ⟨.getNetworkDetails, .ok ⟨"N", none⟩⟩ ::
    ⟨.freighterSignTransaction "x" "N" "A", .ok signed⟩ :: rest

/-- A run up to the submission, which the network answers with `response`. -/
private def sendTrace (response : SendTransactionResponse)
    (rest : List (Event transactionInterface)) : List (Event transactionInterface) :=
  signTrace ⟨"y", none⟩ (⟨.fromXDR "y" "N", .ok ⟨"y"⟩⟩ :: ⟨.setState .submitting, .ok ()⟩ ::
    ⟨.getSdkConfig, .ok ()⟩ :: ⟨.getRpcServer, .ok ()⟩ ::
    ⟨.sendTransaction ⟨"y"⟩, .ok response⟩ :: rest)

/-- The wallet's error when the user declines. -/
private def declined : Failure := .walletError "The user rejected this request." (some (-4))

/-- The user declines. -/
private theorem exec_declined :
    Exec FlowAnswers (run (some "N") wallet) .idle
      (signTrace ⟨"", some ⟨-4, "The user rejected this request."⟩⟩
        [⟨.setState (caughtState declined), .ok ()⟩])
      (.ok none) (caughtState declined) :=
  .call .setState (.call (.returns rfl) (.call .setState (.call (.returns rfl)
    (.call (.returns rfl) (.call .setState .done)))))

/-- The error when the network turns the transaction down. -/
private def refused : Failure := .walletError (sendErrorMessage "h") none

/-- The network turns the transaction down. -/
private theorem exec_refused :
    Exec FlowAnswers (run (some "N") wallet) .idle
      (sendTrace ⟨.error, "h"⟩ [⟨.setState (caughtState refused), .ok ()⟩]) (.ok none)
      (caughtState refused) :=
  .call .setState (.call (.returns rfl) (.call .setState (.call (.returns rfl)
    (.call (.returns rfl) (.call (.returns rfl) (.call .setState (.call (.returns rfl)
      (.call (.returns rfl) (.call (.returns rfl) (.call .setState .done))))))))))

/-- The network accepts the transaction, and the poll has the outcome `polled`. -/
private def pollTrace (polled : Except Failure GetTransactionStatus) (final : TransactionState) :
    List (Event transactionInterface) :=
  sendTrace ⟨.pending, "h"⟩ [⟨.setState (.pending "h"), .ok ()⟩, ⟨.pollTransaction "h" 30, polled⟩,
    ⟨.setState final, .ok ()⟩]

/-- The transaction is confirmed. -/
private theorem exec_confirmed :
    Exec FlowAnswers (run (some "N") wallet) .idle (pollTrace (.ok .success) (.confirmed "h"))
      (.ok (some ⟨"h", .success⟩)) (.confirmed "h") :=
  .call .setState (.call (.returns rfl) (.call .setState (.call (.returns rfl)
    (.call (.returns rfl) (.call (.returns rfl) (.call .setState (.call (.returns rfl)
      (.call (.returns rfl) (.call (.returns rfl) (.call .setState (.call (.returns rfl)
        (.call .setState .done))))))))))))

/-- The error when the connection is lost. -/
private def lost : Failure := .thrown (.error "fetch failed")

/-- The connection is lost during the poll. -/
private theorem exec_poll_lost :
    Exec FlowAnswers (run (some "N") wallet) .idle
      (pollTrace (.error lost) (caughtState lost)) (.ok none) (caughtState lost) :=
  .call .setState (.call (.returns rfl) (.call .setState (.call (.returns rfl)
    (.call (.returns rfl) (.call (.returns rfl) (.call .setState (.call (.returns rfl)
      (.call (.returns rfl) (.call (.returns rfl) (.call .setState (.call (.throws rfl)
        (.call .setState .done))))))))))))

/-- A transaction the network turned down is shown as declined by the user. -/
theorem rejected_after_sending :
    ¬ ∀ configured wallet s tr r s', Exec FlowAnswers (run configured wallet) s tr r s' →
      s'.isRejected = true → sends tr = [] := by
  intro hall
  have hrejected : (caughtState refused).isRejected = true :=
    (isRejected_caughtState _).trans (isUserRejection_sendError "h")
  cases hall _ _ _ _ _ _ exec_refused hrejected

/-- The user declined, and nothing was sent. -/
theorem rejected_never_sent_declined :
    (caughtState declined).isRejected = true ∧
      sends (signTrace ⟨"", some ⟨-4, "The user rejected this request."⟩⟩
        [⟨.setState (caughtState declined), .ok ()⟩]) = [] := by
  have hrejected : (caughtState declined).isRejected = true := by
    rw [isRejected_caughtState]
    decide +kernel
  exact ⟨hrejected, (rejected_never_sent exec_declined).mpr nofun hrejected⟩

/-- An accepted transaction is shown as failed, without its hash. -/
theorem accepted_lost :
    ¬ ∀ configured wallet s tr r s', Exec FlowAnswers (run configured wallet) s tr r s' →
      ∀ response, .ok response ∈ sends tr → response.accepted →
        s'.Reports response.hash (polls tr) := by
  intro hall
  have hreports := hall _ _ _ _ _ _ exec_poll_lost ⟨.pending, "h"⟩ (List.mem_singleton.mpr rfl)
    (.inl rfl)
  have hhash := hreports.hash
  rw [hash?_caughtState] at hhash
  cases hhash

/-- A transaction that was confirmed is shown as confirmed. -/
theorem accepted_reported_confirmed :
    (TransactionState.confirmed "h").Reports "h"
      (polls (pollTrace (.ok .success) (.confirmed "h"))) :=
  (accepted_reported exec_confirmed).mpr (fun _ hmem => by cases List.mem_singleton.mp hmem)
    ⟨.pending, "h"⟩ (List.mem_singleton.mpr rfl) (.inl rfl)

end Web

end SlaSettle
