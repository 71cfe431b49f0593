import SlaSettle.Watcher.Scene

/-!
# Sending a check and waiting for it

A submission signs one envelope, sends it, and polls for its hash. `SubmissionProtocol` says what a
run of it should be: one envelope is sent, however often it is retried; a hash is polled for only
once the network has said that it holds the transaction; and the run returns exactly when the poll
ends with success.

`runs_submitCheck` says what a run is: nothing is sent; or the sending fails; or the network
responds, and unless it has rejected the envelope its hash is polled for. So the protocol is kept
unless the network has responded that the envelope should be sent again later
(`submission_protocol_iff`), and that response is polled for like any other (`polled_untaken`).
-/

namespace SlaSettle

namespace Watcher

open Effect Program Go

/-! ### The protocol -/

/-- Whether a response says that the network holds the transaction. -/
def SendStatus.isHeld : SendStatus → Bool
  | pending | duplicate => true
  | tryAgainLater | error => false

/-- The network has said that it holds the transaction with this hash. -/
def Held (tr : List (Event watcherInterface)) (hash : GoString) : Prop :=
  ∃ (tx : Transaction) (response : SendTransactionResponse),
    (⟨.sendTransaction tx, .ok response⟩ : Event watcherInterface) ∈ tr ∧
      response.hash = hash ∧ response.status.isHeld = true

/-- **What a run of a submission should be.** -/
structure SubmissionProtocol (tr : List (Event watcherInterface)) (r : Except Stop Unit) :
    Prop where
  /-- What is sent is one signed envelope. -/
  envelope : ∀ tx x, (⟨.sendTransaction tx, x⟩ : Event watcherInterface) ∈ tr →
    tx.signed = true ∧
      ∀ tx' x', (⟨.sendTransaction tx', x'⟩ : Event watcherInterface) ∈ tr → tx' = tx
  /-- What is polled for was held before. -/
  polled : ∀ before hash x after, tr = before ++ ⟨.pollTransaction hash, x⟩ :: after →
    Held before hash
  /-- The run returns exactly when its poll ends with success. -/
  returned : r = .ok () ↔
    ∃ before hash, tr = before ++ [⟨.pollTransaction hash, .ok .success⟩]
  /-- An envelope that the network did not take is not polled for, and the run ends in an error. -/
  notTaken : ∀ tx x, (⟨.sendTransaction tx, x⟩ : Event watcherInterface) ∈ tr →
    (∀ hash, ¬ Held tr hash) → (∃ e, r = .error (.err e)) ∧
      ∀ hash x, (⟨.pollTransaction hash, x⟩ : Event watcherInterface) ∉ tr

/-! ### A run -/

/-- Neither sends a transaction nor polls for one. -/
def WatcherCall.Prepares : WatcherCall → Prop
  | sendTransaction _ | pollTransaction _ => False
  | _ => True

/-- What happens until `tx` is sent. -/
def Unsent (tx : Transaction) (e : Event watcherInterface) : Prop :=
  e.1.Prepares ∨ ∃ err, e = ⟨.sendTransaction tx, .error err⟩

/-- What happens until the poll for `hash` ends. -/
def Unpolled (hash : GoString) (e : Event watcherInterface) : Prop :=
  e.1.Prepares ∨ ∃ err, e = ⟨.pollTransaction hash, .error err⟩

/-- What follows the response to an envelope: nothing, if it was rejected; else its hash is polled
for, in vain or until the poll ends. -/
inductive Confirms (response : SendTransactionResponse) :
    List (Event watcherInterface) → Except Stop Unit → Prop
  | rejected {e : WatcherError} (hstatus : response.status = .error) :
      Confirms response [] (.error (.err e))
  | unconfirmed {tr : List (Event watcherInterface)} {err : GoString} {e : WatcherError}
      (hstatus : response.status ≠ .error)
      (hpolled : (⟨.pollTransaction response.hash, .error err⟩ : Event watcherInterface) ∈ tr)
      (hpolls : ∀ e ∈ tr, Unpolled response.hash e) : Confirms response tr (.error (.err e))
  | finished {tr : List (Event watcherInterface)} {status : TransactionStatus} {e : WatcherError}
      (hstatus : response.status ≠ .error) (hpolls : ∀ e ∈ tr, Unpolled response.hash e)
      (hfinal : status ≠ .success) :
      Confirms response (tr ++ [⟨.pollTransaction response.hash, .ok status⟩]) (.error (.err e))
  | succeeded {tr : List (Event watcherInterface)} (hstatus : response.status ≠ .error)
      (hpolls : ∀ e ∈ tr, Unpolled response.hash e) :
      Confirms response (tr ++ [⟨.pollTransaction response.hash, .ok .success⟩]) (.ok ())

/-- What follows the signature of an envelope: it is sent in vain, or the network responds. -/
def Submitted (tx : Transaction) (tr : List (Event watcherInterface)) (r : Except Stop Unit) :
    Prop :=
  ((∀ e ∈ tr, Unsent tx e) ∧ ∃ e, r = .error (.err e)) ∨
    ∃ before response after, tr = before ++ ⟨.sendTransaction tx, .ok response⟩ :: after ∧
      (∀ e ∈ before, Unsent tx e) ∧ Confirms response after r

namespace Client

section

variable {σ : Type} {answers : σ → (c : WatcherCall) → c.Answer → σ → Prop} {s s' : σ}
  {tr : List (Event watcherInterface)} {lib : GoLib} {client : Client}

theorem exec_confirm {response : SendTransactionResponse} {r : Except Stop Unit}
    (hstatus : response.status ≠ .error)
    (h : Exec (I := watcherInterface) answers
      ((do
        let status ← wrapErr (.polling response.hash) <| retryDo client.retryOpts do
          orFail .rpc (← (WatcherCall.pollTransaction response.hash).await)
        if status ≠ .success then fail (.finished response.hash status) else return ()) :
        Daemon Unit) s tr r s') :
    Confirms response tr r := by
  have hattempt : ∀ s tr r s', Exec (I := watcherInterface) answers
      ((do orFail .rpc (← (WatcherCall.pollTransaction response.hash).await)) :
        Daemon TransactionStatus) s tr r s' →
      ∃ x : Except GoString TransactionStatus,
        tr = [⟨.pollTransaction response.hash, x⟩] ∧ r = x.mapError fun err => .err (.rpc err) :=
    fun _ _ _ _ h => exec_orFail_await h
  have hunpolled : ∀ e, Failing (fun x : Except GoString TransactionStatus =>
      ⟨.pollTransaction response.hash, x⟩) e → Unpolled response.hash e := by
    rintro _ (⟨d, x, rfl⟩ | ⟨err, rfl⟩)
    · exact .inl trivial
    · exact .inr ⟨err, rfl⟩
  rcases exec_throwing_bind_iff.mp h with
    ⟨stop, hwrapped, rfl⟩ | ⟨tr₁, status, s₁, tr₂, h₁, h₂, rfl⟩
  · rcases exec_tryCatch_iff.mp hwrapped with ⟨_, -, ⟨⟩⟩ | ⟨tr₁, e, s₁, tr₂, hpoll, hwrap, rfl⟩
    rcases exec_retryDo_call hattempt hpoll with
      ⟨hfailing, ⟨err, herr⟩, e', ⟨⟩⟩ | ⟨_, _, -, -, ⟨⟩⟩
    obtain ⟨rfl, hwrapped, -⟩ := exec_attempt_iff.mp hwrap
    obtain rfl := Except.error.inj hwrapped
    rw [List.append_nil]
    exact .unconfirmed hstatus herr fun e he => hunpolled e (hfailing e he)
  · have hpoll : Exec (I := watcherInterface) answers
        (retryDo client.retryOpts do
          orFail .rpc (← (WatcherCall.pollTransaction response.hash).await)) s tr₁ (.ok status)
        s₁ := by
      rcases exec_tryCatch_iff.mp h₁ with ⟨_, hpoll, hok⟩ | ⟨tr₃, e, s₃, tr₄, hpoll, hwrap, -⟩
      · cases hok
        exact hpoll
      rcases exec_retryDo_call hattempt hpoll with ⟨-, -, e', ⟨⟩⟩ | ⟨_, _, -, -, ⟨⟩⟩
      obtain ⟨-, ⟨⟩, -⟩ := exec_attempt_iff.mp hwrap
    rcases exec_retryDo_call hattempt hpoll with ⟨-, -, _, ⟨⟩⟩ | ⟨attempts, a, hfailing, rfl, hok⟩
    cases hok
    have hpolls := fun e he => hunpolled e (hfailing e he)
    by_cases hsuccess : status = .success
    · subst hsuccess
      rw [if_neg (not_not_intro rfl)] at h₂
      obtain ⟨rfl, rfl, -⟩ := exec_return_iff.mp h₂
      rw [List.append_nil]
      exact .succeeded hstatus hpolls
    · rw [if_pos hsuccess] at h₂
      obtain ⟨rfl, rfl, -⟩ := exec_attempt_iff.mp h₂
      rw [List.append_nil]
      exact .finished hstatus hpolls hsuccess

/-- A signed envelope is sent, and then confirmed. -/
theorem exec_submitAndPoll {tx : Transaction} {r : Except Stop Unit}
    (h : Exec (I := watcherInterface) answers (client.submitAndPoll tx) s tr r s') :
    Submitted tx tr r := by
  obtain ⟨encoded, s₁, tr₁, -, h₁, rfl⟩ := exec_observe_bind_iff.mp h
  have hbase64 : Unsent tx ⟨.base64 tx, encoded⟩ := .inl trivial
  rcases exec_attempt_bind_iff.mp h₁ with ⟨stop, hencoded, rfl, rfl, -⟩ | ⟨_, -, h₂⟩
  · cases encoded with
    | ok _ => cases hencoded
    | error err =>
      cases hencoded
      exact .inl ⟨List.forall_mem_cons.mpr ⟨hbase64, nofun⟩, _, rfl⟩
  have hattempt : ∀ s tr r s', Exec (I := watcherInterface) answers
      ((do orFail .rpc (← (WatcherCall.sendTransaction tx).await)) :
        Daemon SendTransactionResponse) s tr r s' →
      ∃ x : Except GoString SendTransactionResponse,
        tr = [⟨.sendTransaction tx, x⟩] ∧ r = x.mapError fun err => .err (.rpc err) :=
    fun _ _ _ _ h => exec_orFail_await h
  have hunsent : ∀ e, Failing (fun x : Except GoString SendTransactionResponse =>
      ⟨.sendTransaction tx, x⟩) e → Unsent tx e := by
    rintro _ (⟨d, x, rfl⟩ | ⟨err, rfl⟩)
    · exact .inl trivial
    · exact .inr ⟨err, rfl⟩
  rcases exec_throwing_bind_iff.mp h₂ with
    ⟨stop, hsend, rfl⟩ | ⟨tr₂, response, s₂, tr₃, hsend, h₃, rfl⟩
  · rcases exec_retryDo_call hattempt hsend with ⟨hfailing, -, e, ⟨⟩⟩ | ⟨_, _, -, -, ⟨⟩⟩
    refine .inl ⟨List.forall_mem_cons.mpr ⟨hbase64, fun e he => ?_⟩, e, rfl⟩
    exact hunsent e (hfailing e he)
  rcases exec_retryDo_call hattempt hsend with ⟨-, -, _, ⟨⟩⟩ | ⟨attempts, a, hfailing, rfl, hok⟩
  cases hok
  refine .inr ⟨⟨.base64 tx, encoded⟩ :: attempts, response, tr₃, by simp, ?_, ?_⟩
  · exact List.forall_mem_cons.mpr ⟨hbase64, fun e he => hunsent e (hfailing e he)⟩
  by_cases hstatus : response.status = .error
  · rw [if_pos hstatus] at h₃
    obtain ⟨rfl, rfl, -⟩ := exec_attempt_iff.mp h₃
    exact .rejected hstatus
  · rw [if_neg hstatus] at h₃
    exact exec_confirm hstatus h₃

/-- **A run of a submission:** nothing is sent, or a signed envelope is, and confirmed. -/
theorem runs_submitCheck {slaID roundID : ℕ} {endpointHash : Hash} {status : CheckStatus}
    {r : Except Stop Unit}
    (h : Runs (I := watcherInterface) (client.submitCheck lib slaID roundID endpointHash status)
      tr r) :
    After (fun e : Event watcherInterface => e.1.Prepares)
      (fun tr r => ∃ tx : Transaction, tx.signed = true ∧ Submitted tx tr r) tr r := by
  have hbuild : ∀ c, Builds c → WatcherCall.Prepares c := by
    rintro (_ | _) hc <;> trivial
  have hread : ∀ hf c, Reads hf c → WatcherCall.Prepares c := by
    rintro hf (_ | _) hc <;> trivial
  refine exec_bind_after (fun _ _ h => h) (Q := fun _ => True)
    (okObeys_attempt fun _ _ => trivial) (fun built s₁ tr₁ _ h₁ => ?_) h
  refine exec_bind_after (fun _ _ h => h) (Q := fun _ => True)
    (okObeys_wrapErr (okObeys_bind (okObeys_simulate (hread built) rfl) fun _ _ =>
      okObeys_attempt fun _ _ => trivial)) (fun op s₂ tr₂ _ h₂ => ?_) h₁
  refine exec_bind_after (fun _ _ h => h)
    (okObeys_wrapErr (okObeys_getSourceAccount hbuild)) (fun account s₃ tr₃ _ h₃ => ?_) h₂
  refine exec_bind_after (fun _ _ h => h)
    (okObeys_newTransaction hbuild account op) (fun tx s₄ tr₄ _ h₄ => ?_) h₃
  refine exec_bind_after (fun _ _ h => h)
    (okObeys_await (c := .sign tx) trivial) (fun x s₅ tr₅ _ h₅ => ?_) h₄
  refine exec_bind_after (fun _ _ h => h) (okObeys_orFail x) (fun _ s₆ tr₆ _ h₆ => ?_) h₅
  exact .inr ⟨[], tr₆, rfl, nofun, { tx with signed := true }, rfl, exec_submitAndPoll h₆⟩

end

end Client

/-! ### When the protocol is kept -/

section

variable {tr : List (Event watcherInterface)} {r : Except Stop Unit} {tx : Transaction}
  {response : SendTransactionResponse}

theorem not_unsent_poll {hash : GoString} {x : Except GoString TransactionStatus} :
    ¬ Unsent tx ⟨.pollTransaction hash, x⟩ := by
  rintro (⟨⟨⟩⟩ | ⟨err, ⟨⟩⟩)

theorem Unsent.eq_error {tx' : Transaction} {x : Except GoString SendTransactionResponse}
    (h : Unsent tx ⟨.sendTransaction tx', x⟩) : tx' = tx ∧ ∃ err, x = .error err := by
  rcases h with ⟨⟨⟩⟩ | ⟨err, h⟩
  cases h
  exact ⟨rfl, err, rfl⟩

/-- After a response, its hash is polled for and nothing is sent. -/
theorem Confirms.polls (h : Confirms response tr r) :
    ∀ e ∈ tr, e.1.Prepares ∨ ∃ x, e = ⟨.pollTransaction response.hash, x⟩ := by
  have hpolls : ∀ e, Unpolled response.hash e →
      e.1.Prepares ∨ ∃ x, e = ⟨.pollTransaction response.hash, x⟩ := by
    rintro e (hprepares | ⟨err, rfl⟩)
    · exact .inl hprepares
    · exact .inr ⟨_, rfl⟩
  cases h with
  | rejected _ => exact nofun
  | unconfirmed _ _ hunpolled => exact fun e he => hpolls e (hunpolled e he)
  | finished _ hunpolled _ | succeeded _ hunpolled =>
    refine List.forall_mem_append.mpr ⟨fun e he => hpolls e (hunpolled e he), ?_⟩
    exact List.forall_mem_singleton.mpr (.inr ⟨_, rfl⟩)

/-- It is polled for unless it was rejected. -/
theorem Confirms.exists_poll (h : Confirms response tr r) (hstatus : response.status ≠ .error) :
    ∃ x, (⟨.pollTransaction response.hash, x⟩ : Event watcherInterface) ∈ tr := by
  cases h with
  | rejected herror => exact absurd herror hstatus
  | unconfirmed _ hpolled _ => exact ⟨_, hpolled⟩
  | finished _ _ _ | succeeded _ _ => exact ⟨_, List.mem_append_right _ List.mem_cons_self⟩

theorem Confirms.of_error (h : Confirms response tr r) (hstatus : response.status = .error) :
    tr = [] ∧ ∃ e, r = .error (.err e) := by
  cases h with
  | rejected _ => exact ⟨rfl, _, rfl⟩
  | unconfirmed hne _ _ | finished hne _ _ | succeeded hne _ => exact absurd hstatus hne

/-- The run returns if the poll ends with success. -/
theorem Confirms.of_success (h : Confirms response tr r) {hash : GoString}
    (hsuccess : (⟨.pollTransaction hash, .ok .success⟩ : Event watcherInterface) ∈ tr) :
    r = .ok () := by
  have hnot : ∀ {hash' : GoString} {status : TransactionStatus},
      ¬ Unpolled hash' ⟨.pollTransaction hash, .ok status⟩ := by
    rintro _ _ (⟨⟨⟩⟩ | ⟨err, ⟨⟩⟩)
  cases h with
  | rejected _ => cases hsuccess
  | unconfirmed _ _ hpolls => exact absurd (hpolls _ hsuccess) hnot
  | finished _ hpolls hfinal =>
    rcases List.mem_append.mp hsuccess with hmem | hmem
    · exact absurd (hpolls _ hmem) hnot
    · cases List.mem_singleton.mp hmem
      exact absurd rfl hfinal
  | succeeded _ _ => rfl

/-- And only then. -/
theorem Confirms.success (h : Confirms response tr r) (hr : r = .ok ()) :
    ∃ before, tr = before ++ [⟨.pollTransaction response.hash, .ok .success⟩] := by
  cases h with
  | rejected _ | unconfirmed _ _ _ | finished _ _ _ => cases hr
  | succeeded _ _ => exact ⟨_, rfl⟩

/-- The protocol is kept when the network has not responded. -/
theorem protocol_of_unsent (htx : tx.signed = true) (h : ∀ e ∈ tr, Unsent tx e)
    (hr : ∃ stop, r = .error stop)
    (herr : ∀ tx' x, (⟨.sendTransaction tx', x⟩ : Event watcherInterface) ∈ tr →
      ∃ e, r = .error (.err e)) : SubmissionProtocol tr r where
  envelope tx₁ x hsent := by
    obtain ⟨rfl, -⟩ := (h _ hsent).eq_error
    exact ⟨htx, fun tx' x' hsent' => (h _ hsent').eq_error.1⟩
  polled before hash x after htr := by
    rw [htr] at h
    exact absurd (h _ (List.mem_append_right _ List.mem_cons_self)) not_unsent_poll
  returned := by
    constructor
    · rintro rfl
      obtain ⟨_, ⟨⟩⟩ := hr
    · rintro ⟨before, hash, rfl⟩
      exact absurd (h _ (List.mem_append_right _ List.mem_cons_self)) not_unsent_poll
  notTaken tx' x hsent _ :=
    ⟨herr tx' x hsent, fun hash x' hpoll => not_unsent_poll (h _ hpoll)⟩

section

variable {before after : List (Event watcherInterface)}

/-- What is sent, when the network has responded. -/
theorem eq_of_sent (hbefore : ∀ e ∈ before, Unsent tx e) (hafter : Confirms response after r)
    {tx' : Transaction} {x : Except GoString SendTransactionResponse}
    (hsent : (⟨.sendTransaction tx', x⟩ : Event watcherInterface) ∈
      before ++ ⟨.sendTransaction tx, .ok response⟩ :: after) :
    tx' = tx ∧ ∀ response', x = .ok response' → response' = response := by
  rcases List.mem_append.mp hsent with hmem | hmem
  · obtain ⟨rfl, err, rfl⟩ := (hbefore _ hmem).eq_error
    exact ⟨rfl, nofun⟩
  rcases List.mem_cons.mp hmem with hhere | hmem
  · cases hhere
    exact ⟨rfl, fun _ h => (Except.ok.inj h).symm⟩
  · rcases hafter.polls _ hmem with ⟨⟨⟩⟩ | ⟨_, ⟨⟩⟩

/-- What is polled for, is polled for after the response. -/
theorem poll_mem_after (hbefore : ∀ e ∈ before, Unsent tx e)
    {hash : GoString} {x : Except GoString TransactionStatus}
    (hpoll : (⟨.pollTransaction hash, x⟩ : Event watcherInterface) ∈
      before ++ ⟨.sendTransaction tx, .ok response⟩ :: after) :
    (⟨.pollTransaction hash, x⟩ : Event watcherInterface) ∈ after := by
  rcases List.mem_append.mp hpoll with hmem | hmem
  · exact absurd (hbefore _ hmem) not_unsent_poll
  · rcases List.mem_cons.mp hmem with hhere | hmem
    · cases hhere
    · exact hmem

/-- What is polled for was held, unless the network asked to try again later. -/
theorem held_of_response (hbefore : ∀ e ∈ before, Unsent tx e) (hafter : Confirms response after r)
    (hstatus : response.status ≠ .tryAgainLater) {before' after' : List (Event watcherInterface)}
    {hash : GoString} {x : Except GoString TransactionStatus}
    (htr : before ++ ⟨.sendTransaction tx, .ok response⟩ :: after =
      before' ++ ⟨.pollTransaction hash, x⟩ :: after') : Held before' hash := by
  obtain ⟨mid, rfl, hmid⟩ := append_eq_of_notMem_left htr fun hmem =>
    not_unsent_poll (hbefore _ hmem)
  cases mid with
  | nil => cases hmid
  | cons e mid =>
    obtain ⟨rfl, rfl⟩ := List.cons.inj hmid
    have hpolled : response.status ≠ .error := fun herror => by
      have hnil := (hafter.of_error herror).1
      simp at hnil
    rcases hafter.polls ⟨.pollTransaction hash, x⟩ (by simp) with ⟨⟨⟩⟩ | ⟨x', hx⟩
    cases hx
    refine ⟨tx, response, List.mem_append_right _ List.mem_cons_self, rfl, ?_⟩
    cases hresponse : response.status with
    | pending | duplicate => rfl
    | tryAgainLater => exact absurd hresponse hstatus
    | error => exact absurd hresponse hpolled

theorem protocol_of_response (htx : tx.signed = true) (hbefore : ∀ e ∈ before, Unsent tx e)
    (hafter : Confirms response after r) (hstatus : response.status ≠ .tryAgainLater) :
    SubmissionProtocol (before ++ ⟨.sendTransaction tx, .ok response⟩ :: after) r where
  envelope tx₁ x hsent := by
    obtain ⟨rfl, -⟩ := eq_of_sent hbefore hafter hsent
    exact ⟨htx, fun tx' x' hsent' => (eq_of_sent hbefore hafter hsent').1⟩
  polled before' hash x after' htr := held_of_response hbefore hafter hstatus htr
  returned := by
    constructor
    · intro hr
      obtain ⟨init, rfl⟩ := hafter.success hr
      exact ⟨before ++ ⟨.sendTransaction tx, .ok response⟩ :: init, response.hash, by simp⟩
    · rintro ⟨init, hash, htr⟩
      have hsuccess : (⟨.pollTransaction hash, .ok .success⟩ : Event watcherInterface) ∈
          before ++ ⟨.sendTransaction tx, .ok response⟩ :: after := by
        rw [htr]
        exact List.mem_append_right _ List.mem_cons_self
      exact hafter.of_success (poll_mem_after hbefore hsuccess)
  notTaken tx' x _ hnone := by
    have herror : response.status = .error := by
      by_contra hne
      obtain ⟨x', hpoll⟩ := hafter.exists_poll hne
      obtain ⟨before', after', hsplit⟩ := List.append_of_mem hpoll
      have htr : before ++ ⟨.sendTransaction tx, .ok response⟩ :: after =
          (before ++ ⟨.sendTransaction tx, .ok response⟩ :: before') ++
            ⟨.pollTransaction response.hash, x'⟩ :: after' := by simp [hsplit]
      obtain ⟨tx', response', hsent, hheld⟩ := held_of_response hbefore hafter hstatus htr
      refine hnone _ ⟨tx', response', ?_, hheld⟩
      rw [hsplit, ← List.cons_append, ← List.append_assoc]
      exact List.mem_append_left _ hsent
    obtain ⟨rfl, hr⟩ := hafter.of_error herror
    exact ⟨hr, fun hash x' hpoll => nomatch poll_mem_after hbefore hpoll⟩

/-- When the network asked to try again later, its hash is polled for nevertheless. -/
theorem not_protocol_of_response (hbefore : ∀ e ∈ before, Unsent tx e)
    (hafter : Confirms response after r) (hstatus : response.status = .tryAgainLater) :
    ¬ SubmissionProtocol (before ++ ⟨.sendTransaction tx, .ok response⟩ :: after) r := by
  intro h
  obtain ⟨x, hpoll⟩ := hafter.exists_poll (by rw [hstatus]; exact nofun)
  obtain ⟨before', after', hsplit⟩ := List.append_of_mem hpoll
  obtain ⟨tx', response', hsent, -, hheld⟩ := h.polled
    (before ++ ⟨.sendTransaction tx, .ok response⟩ :: before') _ x after' (by simp [hsplit])
  have hmem : (⟨.sendTransaction tx', .ok response'⟩ : Event watcherInterface) ∈
      before ++ ⟨.sendTransaction tx, .ok response⟩ :: after := by
    rw [hsplit, ← List.cons_append, ← List.append_assoc]
    exact List.mem_append_left _ hsent
  rw [(eq_of_sent hbefore hafter hmem).2 _ rfl, hstatus] at hheld
  cases hheld

end

/-- **When a run keeps the protocol:** exactly when the network has not responded that the envelope
should be sent again later. -/
theorem submission_protocol_iff {lib : GoLib} {client : Client} {slaID roundID : ℕ}
    {endpointHash : Hash} {status : CheckStatus}
    (h : Runs (I := watcherInterface) (client.submitCheck lib slaID roundID endpointHash status)
      tr r) :
    SubmissionProtocol tr r ↔ ∀ (tx : Transaction) (response : SendTransactionResponse),
      (⟨.sendTransaction tx, .ok response⟩ : Event watcherInterface) ∈ tr →
        response.status ≠ .tryAgainLater := by
  have hunsent : ∀ tx : Transaction, tx.signed = true → (∀ e ∈ tr, Unsent tx e) →
      (∃ stop, r = .error stop) →
      (∀ tx' x, (⟨.sendTransaction tx', x⟩ : Event watcherInterface) ∈ tr →
        ∃ e, r = .error (.err e)) →
      (SubmissionProtocol tr r ↔ ∀ (tx : Transaction) (response : SendTransactionResponse),
        (⟨.sendTransaction tx, .ok response⟩ : Event watcherInterface) ∈ tr →
          response.status ≠ .tryAgainLater) := by
    intro tx htx h hr herr
    refine iff_of_true (protocol_of_unsent htx h hr herr) fun tx' response hsent => ?_
    obtain ⟨-, err, ⟨⟩⟩ := (h _ hsent).eq_error
  rcases Client.runs_submitCheck h with ⟨hprepares, hr⟩ | ⟨tr₁, tr₂, rfl, hprepares, tx, htx, hsub⟩
  · -- nothing is sent, so any envelope will do
    refine hunsent ⟨⟨[], 0⟩, ⟨⟨[], "", []⟩, [], [], none⟩, 0, true⟩ rfl
      (fun e he => .inl (hprepares e he)) hr fun tx' x hsent => (hprepares _ hsent).elim
  have htr₁ : ∀ e ∈ tr₁, Unsent tx e := fun e he => .inl (hprepares e he)
  rcases hsub with ⟨htr₂, e, rfl⟩ | ⟨before, response, after, rfl, hbefore, hafter⟩
  · exact hunsent tx htx (List.forall_mem_append.mpr ⟨htr₁, htr₂⟩) ⟨_, rfl⟩ fun _ _ _ => ⟨e, rfl⟩
  have hall : ∀ e ∈ tr₁ ++ before, Unsent tx e := List.forall_mem_append.mpr ⟨htr₁, hbefore⟩
  rw [← List.append_assoc]
  constructor
  · intro hprotocol tx' response' hsent hstatus
    rw [(eq_of_sent hall hafter hsent).2 _ rfl] at hstatus
    exact not_protocol_of_response hall hafter hstatus hprotocol
  · intro hstatus
    refine protocol_of_response htx hall hafter (hstatus tx response ?_)
    exact List.mem_append_right _ List.mem_cons_self

end

/-- A network that prepares everything, responds to an envelope with `status`, and reports
success. -/
def respond (status : SendStatus) : (c : WatcherCall) → c.Answer
  | .ctxDone => false
  | .wait _ => false
  | .now => .ofUnixNanos 0
  | .loadAccount address => .ok ⟨address, 0⟩
  | .newTransaction _ _ => .ok 0
  | .base64 _ => .ok ()
  | .sign _ => .ok ()
  | .simulateTransaction _ => .ok ⟨[], [], .ok []⟩
  | .sendTransaction _ => .ok ⟨status, [], []⟩
  | .pollTransaction _ => .ok .success
  | .httpGet _ _ _ => .ok 200

/-- A vote in that network. -/
def sampleVote (status : SendStatus) : List (Event watcherInterface) × Except Stop Unit :=
  execute (I := watcherInterface) (respond status)
    (sampleClient.submitCheck sampleLib 1 0 sampleHash .up)

theorem runs_sampleVote (status : SendStatus) :
    Runs (I := watcherInterface) (sampleClient.submitCheck sampleLib 1 0 sampleHash .up)
      (sampleVote status).1 (sampleVote status).2 :=
  runs_execute _ _

/-- A vote that is pending. -/
theorem submission_protocol_pending :
    SubmissionProtocol (sampleVote .pending).1 (sampleVote .pending).2 :=
  (submission_protocol_iff (runs_sampleVote .pending)).mpr fun tx response hsent => by
    have hresponse := answer_of_mem_execute hsent
    cases hresponse
    exact nofun

/-- A vote that should be sent again later is polled for. -/
theorem polled_untaken :
    Runs (I := watcherInterface) (sampleClient.submitCheck sampleLib 1 0 sampleHash .up)
        (sampleVote .tryAgainLater).1 (sampleVote .tryAgainLater).2 ∧
      ¬ SubmissionProtocol (sampleVote .tryAgainLater).1 (sampleVote .tryAgainLater).2 := by
  refine ⟨runs_sampleVote _, fun h => ?_⟩
  obtain ⟨before, hash, htr⟩ := h.returned.mp rfl
  obtain ⟨tx, response, hsent, -, hheld⟩ := h.polled before hash _ [] htr
  have hmem : (⟨.sendTransaction tx, .ok response⟩ : Event watcherInterface) ∈
      (sampleVote .tryAgainLater).1 := by
    rw [htr]
    exact List.mem_append_left _ hsent
  have hresponse := answer_of_mem_execute hmem
  cases hresponse
  cases hheld

end Watcher

end SlaSettle
