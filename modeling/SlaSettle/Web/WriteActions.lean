import SlaSettle.Effect.Turns
import SlaSettle.Web.CreateSla
import SlaSettle.Web.UseTransaction

/-!
# One transaction at a time

The components that write to the contract: `CancelSlaAction` and `WithdrawBondAction`, whose button
opens the confirmation of `ConfirmAction`; `TriggerSettlementAction`, a plain button; and
`TopUpBondForm`. Each holds one `useTransaction` and disables its button while a transaction is busy.

A handler closes over what was last rendered, which may be behind the state of the hook; it runs up
to its first `await` within the click, and is taken up again when the answer is there, with clicks,
renders and changes of the wallet in between. `actions_serial` is what the buttons are disabled for:
in every order of these, the transactions of a mounted component follow one another, and there are no
more requests to sign, and none more to send, than there were clicks that let one through.
-/

namespace SlaSettle

namespace Web

open Js Effect Program

/-- Between the click and a terminal state. -/
def isTransactionBusy : TransactionState → Bool
  | .building | .signing | .submitting | .pending _ => true
  | _ => false

/-- `useNetworkGuard().blocked`. -/
def networkGuardBlocked (configured : Option String) : Option WalletConnection → Bool
  | none => false
  | some connection =>
    match checkWalletNetwork configured connection.networkPassphrase with
    | .ok () => false
    | .error _ => true

/-- What a render of a write action closes over. -/
structure ActionView where
  state : TransactionState
  connection : Option WalletConnection

def ActionView.busy (view : ActionView) : Bool := isTransactionBusy view.state

/-- `disabled={busy || !connection || guard.blocked}` -/
def ActionView.disabled (configured : Option String) (view : ActionView) : Bool :=
  view.busy || view.connection.isNone || networkGuardBlocked configured view.connection

/-! ### Handlers -/

/-- `handleCancel`, `handleWithdraw` and `handleTrigger`; they differ in the transaction they build. -/
def handleAction (configured : Option String) (view : ActionView) :
    Flow (Option SubmittedTransaction) :=
  match view.connection with
  | none => return none
  | some connection => run configured connection

/-- `handleSubmit` of `TopUpBondForm`, for a token of so many decimals and what was typed. -/
def handleTopUp (configured : Option String) (view : ActionView) (tokenDecimals : ℕ)
    (amount : JsString) : Flow (Option SubmittedTransaction) :=
  match view.connection with
  | none => return none
  | some connection =>
    if view.busy then return none
    else do
      -- `reset()`
      (TransactionCall.setState .idle).await
      match parsePositiveAmount amount tokenDecimals "top-up amount" with
      | .error _ => return none
      | .ok _ => run configured connection

/-- The handlers of the write actions. -/
inductive IsHandler (configured : Option String) :
    Program transactionInterface (Except Failure (Option SubmittedTransaction)) → Prop
  | action {view : ActionView} : IsHandler configured (handleAction configured view)
  | topUp {view : ActionView} {tokenDecimals : ℕ} {amount : JsString} :
      IsHandler configured (handleTopUp configured view tokenDecimals amount)

/-! ### Their turns -/

/-- Setting the state is done within the turn. -/
def setStateNow : Immediate transactionInterface TransactionState
  | .setState state, _ => some (.ok (), state)
  | _, _ => none

/-- A handler is waited for. -/
def Busy (state : TransactionState) : Prop := isTransactionBusy state = true

/-- A handler that has ended leaves a state that is not busy, and that of its result if it has one. -/
def Settled (r : Except Failure (Option SubmittedTransaction)) (state : TransactionState) : Prop :=
  isTransactionBusy state = false ∧ ∀ result, r = .ok (some result) → state = polledState result

/-- A program that waits only in busy states, until `Q` holds. -/
abbrev BusyUntil {α : Type} (Q : α → TransactionState → Prop) (p : Program transactionInterface α)
    (state : TransactionState) : Prop :=
  AwaitsIn setStateNow (fun _ => True) Busy Q p state

section

variable {configured : Option String} {connection : WalletConnection} {state : TransactionState}

theorem setStateNow_eq_none {c : TransactionCall} (hc : c.setsState = false) :
    setStateNow c state = none := by
  cases c with
  | setState _ => cases hc
  | _ => rfl

theorem isTransactionBusy_polledState (result : SubmittedTransaction) :
    isTransactionBusy (polledState result) = false := by
  unfold polledState
  split <;> rfl

theorem isTransactionBusy_caughtState (err : Failure) :
    isTransactionBusy (caughtState err) = false := by
  unfold caughtState
  split <;> rfl

private theorem awaitsIn_setState {α : Type} {Q : Except Failure α → TransactionState → Prop}
    {next : Unit → Flow α} {state' : TransactionState}
    (h : BusyUntil Q (next ()) state') :
    BusyUntil Q ((TransactionCall.setState state').await >>= next : Flow α) state :=
  awaitsIn_ask_bind_now rfl h

/-- Awaiting what is outside leaves the state. -/
private theorem awaitsIn_outside (c : TransactionCall) (hc : c.setsState = false)
    (hbusy : Busy state) :
    BusyUntil (fun _ state' => state' = state) c.await state :=
  (awaitsIn_ask (setStateNow_eq_none hc) hbusy).mono (fun _ h => h) fun _ _ h => h.2

/-- A stage that only awaits what is outside, and then more. -/
private theorem awaitsIn_stage {α β : Type} {stage : Flow α} {next : α → Flow β}
    {Q : Except Failure β → TransactionState → Prop}
    (hstage : BusyUntil (fun _ state' => state' = state) stage state)
    (hnext : ∀ a, BusyUntil Q (next a) state) (herror : ∀ e, Q (.error e) state) :
    BusyUntil Q (stage >>= next : Flow β) state :=
  awaitsIn_bind hstage (fun a _ h => h ▸ hnext a) fun e _ h => h ▸ herror e

private theorem awaitsIn_signTransaction {unsignedTx : Transaction} (hbusy : Busy state) :
    BusyUntil (fun _ state' => state' = state)
      (signTransaction configured unsignedTx connection) state := by
  have hthrows : ∀ x : Except Failure Unit,
      BusyUntil (fun _ state' => state' = state) (attempt x : Flow Unit) state :=
    fun _ => awaitsIn_attempt rfl
  refine awaitsIn_stage (hthrows _) (fun _ => ?_) fun _ => rfl
  refine awaitsIn_stage (awaitsIn_outside .getNetworkDetails rfl hbusy) (fun _ => ?_) fun _ => rfl
  refine awaitsIn_stage (hthrows _) (fun _ => ?_) fun _ => rfl
  refine awaitsIn_stage (hthrows _) (fun _ => ?_) fun _ => rfl
  refine awaitsIn_stage (awaitsIn_outside (.freighterSignTransaction _ _ _) rfl hbusy)
    (fun _ => ?_) fun _ => rfl
  exact awaitsIn_stage (hthrows _) (fun _ => awaitsIn_outside (.fromXDR _ _) rfl hbusy)
    fun _ => rfl

/-- While a transaction is submitted the state stays busy, whether it becomes pending or not. -/
private theorem awaitsIn_submitTransaction {signedTx : Transaction} (hbusy : Busy state) :
    BusyUntil (fun _ _ => True)
      (submitTransaction signedTx fun hash => (TransactionCall.setState (.pending hash)).await)
      state := by
  refine awaitsIn_stage (awaitsIn_outside .getSdkConfig rfl hbusy) (fun _ => ?_) fun _ => trivial
  refine awaitsIn_stage (awaitsIn_outside .getRpcServer rfl hbusy) (fun _ => ?_) fun _ => trivial
  refine awaitsIn_stage (awaitsIn_outside (.sendTransaction signedTx) rfl hbusy)
    (fun sendResult => ?_) fun _ => trivial
  have hpoll : BusyUntil (fun _ _ => True) (do
      (TransactionCall.setState (.pending sendResult.hash)).await
      let status ← (TransactionCall.pollTransaction sendResult.hash 30).await
      return ({ hash := sendResult.hash, status } : SubmittedTransaction) : Flow _) state :=
    awaitsIn_setState (awaitsIn_stage (awaitsIn_outside (.pollTransaction _ _) rfl rfl)
      (fun _ => awaitsIn_return trivial) fun _ => trivial)
  match hstatus : sendResult.status with
  | .error => exact awaitsIn_attempt trivial
  | .tryAgainLater => exact awaitsIn_attempt trivial
  | .pending => exact hpoll
  | .duplicate => exact hpoll

/-- **A run is busy until it has settled.** -/
theorem awaitsIn_run : BusyUntil Settled (run configured connection) state := by
  unfold run
  split
  · exact awaitsIn_setState (awaitsIn_return ⟨rfl, nofun⟩)
  · refine awaitsIn_setState (awaitsIn_tryCatch
      (R := fun r state => ∀ a, r = .ok a → Settled (.ok a) state) ?_
      (fun a _ h => h a rfl) fun err _ _ =>
        awaitsIn_setState (awaitsIn_return ⟨isTransactionBusy_caughtState err, nofun⟩))
    refine awaitsIn_stage (awaitsIn_outside .buildUnsignedTx rfl rfl) (fun unsignedTx => ?_)
      fun _ => nofun
    refine awaitsIn_setState (awaitsIn_stage (awaitsIn_signTransaction rfl) (fun signedTx => ?_)
      fun _ => nofun)
    refine awaitsIn_setState (awaitsIn_bind (awaitsIn_submitTransaction rfl)
      (fun result _ _ => ?_) fun _ _ _ => nofun)
    refine awaitsIn_setState (awaitsIn_return fun a ha => ?_)
    obtain rfl := Except.ok.inj ha
    exact ⟨isTransactionBusy_polledState result, fun result' h =>
      congrArg polledState (Option.some.inj (Except.ok.inj h))⟩

theorem awaitsIn_handler
    {p : Program transactionInterface (Except Failure (Option SubmittedTransaction))}
    (hidle : isTransactionBusy state = false) (h : IsHandler configured p) :
    BusyUntil Settled p state := by
  have hnothing : BusyUntil Settled (return none : Flow _) state :=
    awaitsIn_return ⟨hidle, nofun⟩
  cases h with
  | @action view =>
    unfold handleAction
    match view.connection with
    | none => exact hnothing
    | some connection => exact awaitsIn_run
  | @topUp view tokenDecimals amount =>
    unfold handleTopUp
    match view.connection with
    | none => exact hnothing
    | some connection =>
      dsimp only
      split
      · exact hnothing
      · refine awaitsIn_setState ?_
        match parsePositiveAmount amount tokenDecimals "top-up amount" with
        | .error _ => exact awaitsIn_return ⟨rfl, nofun⟩
        | .ok _ => exact awaitsIn_run

/-! ### What they ask for -/

/-- A request to sign. -/
def TransactionCall.signs : TransactionCall → Bool
  | freighterSignTransaction _ _ _ => true
  | _ => false

/-- A transaction sent to the network. -/
def TransactionCall.sends : TransactionCall → Bool
  | sendTransaction _ => true
  | _ => false

/-- What `f` counts of a run: so many requests to sign, so many transactions sent, nothing else. -/
structure Counts (f : TransactionCall → Bool) (signed sent : ℕ) : Prop where
  signature : ∀ xdr passphrase address,
    AtMost (I := transactionInterface) f signed
      (TransactionCall.freighterSignTransaction xdr passphrase address).await
  send : ∀ tx, AtMost (I := transactionInterface) f sent (TransactionCall.sendTransaction tx).await
  other : ∀ c : TransactionCall, c.signs = false → c.sends = false → f c = false

theorem counts_signs : Counts TransactionCall.signs 1 0 where
  signature _ _ _ := atMost_ask_one
  send _ := atMost_ask rfl
  other _ hsigns _ := hsigns

theorem counts_sends : Counts TransactionCall.sends 0 1 where
  signature _ _ _ := atMost_ask rfl
  send _ := atMost_ask_one
  other _ _ hsends := hsends

section

variable {f : TransactionCall → Bool} {signed sent : ℕ}

private theorem atMost_other (hf : Counts f signed sent) (c : TransactionCall)
    (hsigns : c.signs = false) (hsends : c.sends = false) :
    AtMost (I := transactionInterface) f 0 c.await :=
  atMost_ask (hf.other c hsigns hsends)

private theorem atMost_signTransaction (hf : Counts f signed sent) {unsignedTx : Transaction} :
    AtMost (I := transactionInterface) f signed
      (signTransaction configured unsignedTx connection) := by
  refine atMost_bind_free .done fun _ => ?_
  refine atMost_bind_free (atMost_other hf .getNetworkDetails rfl rfl) fun _ => ?_
  refine atMost_bind_free .done fun _ => atMost_bind_free .done fun _ => ?_
  refine atMost_bind (m := 0) (hf.signature _ _ _) fun _ => ?_
  exact atMost_bind_free .done fun _ => atMost_other hf (.fromXDR _ _) rfl rfl

private theorem atMost_submitTransaction (hf : Counts f signed sent) {signedTx : Transaction} :
    AtMost (I := transactionInterface) f sent (submitTransaction signedTx fun hash =>
      (TransactionCall.setState (.pending hash)).await) := by
  refine atMost_bind_free (atMost_other hf .getSdkConfig rfl rfl) fun _ => ?_
  refine atMost_bind_free (atMost_other hf .getRpcServer rfl rfl) fun _ => ?_
  refine atMost_bind (m := 0) (hf.send _) fun sendResult => ?_
  have hpoll : AtMost (I := transactionInterface) f 0 (do
      (TransactionCall.setState (.pending sendResult.hash)).await
      let status ← (TransactionCall.pollTransaction sendResult.hash 30).await
      return ({ hash := sendResult.hash, status } : SubmittedTransaction) : Flow _) :=
    atMost_bind_free (atMost_other hf (.setState _) rfl rfl) fun _ =>
      atMost_bind_free (atMost_other hf (.pollTransaction _ _) rfl rfl) fun _ => .done
  match hstatus : sendResult.status with
  | .error | .tryAgainLater => exact .done
  | .pending | .duplicate => exact hpoll

theorem atMost_run (hf : Counts f signed sent) :
    AtMost (I := transactionInterface) f (signed + sent) (run configured connection) := by
  have hset : ∀ state, AtMost (I := transactionInterface) f 0
      (TransactionCall.setState state).await := fun _ => atMost_other hf (.setState _) rfl rfl
  have hset_return : ∀ state (result : Option SubmittedTransaction),
      AtMost (I := transactionInterface) f 0
        (do (TransactionCall.setState state).await; return result : Flow _) :=
    fun state _ => atMost_bind_free (hset state) fun _ => .done
  unfold run
  split
  · exact (hset_return _ _).mono (Nat.zero_le _)
  · refine atMost_bind_free (hset _) fun _ =>
      atMost_tryCatch (m := 0) ?_ fun err => hset_return (caughtState err) none
    refine atMost_bind_free (atMost_other hf .buildUnsignedTx rfl rfl) fun _ => ?_
    refine atMost_bind_free (hset _) fun _ => atMost_bind (atMost_signTransaction hf) fun _ => ?_
    exact atMost_bind_free (hset _) fun _ =>
      atMost_bind (m := 0) (atMost_submitTransaction hf) fun _ => hset_return _ _

theorem atMost_handler (hf : Counts f signed sent)
    {p : Program transactionInterface (Except Failure (Option SubmittedTransaction))}
    (h : IsHandler configured p) : AtMost f (signed + sent) p := by
  cases h with
  | @action view =>
    unfold handleAction
    match view.connection with
    | none => exact .done
    | some connection => exact atMost_run hf
  | @topUp view tokenDecimals amount =>
    unfold handleTopUp
    match view.connection with
    | none => exact .done
    | some connection =>
      dsimp only
      split
      · exact .done
      · refine atMost_bind_free (atMost_other hf (.setState _) rfl rfl) fun _ => ?_
        match parsePositiveAmount amount tokenDecimals "top-up amount" with
        | .error _ => exact .done
        | .ok _ => exact atMost_run hf

end

end

/-! ### A mounted component -/

/-- How a component lets its handler be called: after a confirmation, by a button, or by a form. -/
inductive ActionKind where
  | confirmAction
  | button
  | form

/-- A mounted write action: the state of its hook, the wallet of the provider, whether the
confirmation is open, what was last rendered, the handlers that wait for an answer, and what all of
them have asked for. The confirmation is opened and closed by clicks only, which React renders before
the next one. -/
structure ActionScene where
  state : TransactionState
  connection : Option WalletConnection
  isOpen : Bool
  rendered : ActionView
  waiting : List (Program transactionInterface (Except Failure (Option SubmittedTransaction)))
  log : List (Event transactionInterface)
  /-- How often a handler was called. -/
  clicks : ℕ

namespace ActionScene

def mount (connection : Option WalletConnection) : ActionScene where
  state := .idle
  connection := connection
  isOpen := false
  rendered := ⟨.idle, connection⟩
  waiting := []
  log := []
  clicks := 0

def render (s : ActionScene) : ActionScene := { s with rendered := ⟨s.state, s.connection⟩ }

/-- The first turn of a handler, which a click calls, and the render that follows. -/
def call (s : ActionScene)
    (handler : Program transactionInterface (Except Failure (Option SubmittedTransaction))) :
    ActionScene :=
  let turn := handler.turn setStateNow s.state
  { s with
    state := turn.2.2
    waiting := s.waiting ++ turn.2.1.waiting
    log := s.log ++ turn.1
    clicks := s.clicks + 1 }.render

/-- A later turn: one handler gets its answer, the others wait on. -/
def resume (s : ActionScene)
    (before after :
      List (Program transactionInterface (Except Failure (Option SubmittedTransaction))))
    (answer : Event transactionInterface)
    (rest : Program transactionInterface (Except Failure (Option SubmittedTransaction))) :
    ActionScene :=
  let turn := rest.turn setStateNow s.state
  { s with
    state := turn.2.2
    waiting := before ++ turn.2.1.waiting ++ after
    log := s.log ++ answer :: turn.1 }

end ActionScene

/-- What can happen to a mounted component of a kind, for the configured network. -/
inductive ActionStep (configured : Option String) :
    ActionKind → ActionScene → ActionScene → Prop
  | render {kind : ActionKind} {s : ActionScene} : ActionStep configured kind s s.render
  | setConnection {kind : ActionKind} {s : ActionScene} {connection : Option WalletConnection} :
      ActionStep configured kind s { s with connection := connection }
  | openConfirmation {s : ActionScene} (closed : s.isOpen = false)
      (enabled : s.rendered.disabled configured = false) :
      ActionStep configured .confirmAction s { s with isOpen := true }.render
  /-- Going back, Escape, or an unmount of the confirmation. -/
  | closeConfirmation {s : ActionScene} :
      ActionStep configured .confirmAction s { s with isOpen := false }.render
  | confirm {s : ActionScene} (opened : s.isOpen = true) :
      ActionStep configured .confirmAction s
        ({ s with isOpen := false }.call (handleAction configured s.rendered))
  | click {s : ActionScene} (enabled : s.rendered.disabled configured = false) :
      ActionStep configured .button s (s.call (handleAction configured s.rendered))
  | submit {s : ActionScene} {tokenDecimals : ℕ} {amount : JsString} :
      ActionStep configured .form s
        (s.call (handleTopUp configured s.rendered tokenDecimals amount))
  | answer {kind : ActionKind} {s : ActionScene}
      {before after :
        List (Program transactionInterface (Except Failure (Option SubmittedTransaction)))}
      {c : TransactionCall} {r : Except Failure c.Returns}
      {next : Except Failure c.Returns →
        Program transactionInterface (Except Failure (Option SubmittedTransaction))}
      (waits : s.waiting = before ++ .call c next :: after) (here : FlowAnswers s.state c r s.state) :
      ActionStep configured kind s (s.resume before after ⟨c, r⟩ (next r))

/-- What holds of a mounted component at any time. -/
structure ActionScene.Ordered (configured : Option String) (kind : ActionKind) (s : ActionScene) :
    Prop where
  serial : ∃ n ≤ s.clicks, Serial (IsHandler configured) n s.waiting s.log
  busy : ∀ q ∈ s.waiting, Busy s.state ∧ ∃ c next, q = .call c next ∧
    ∀ r, True → BusyUntil Settled (next r) s.state
  idle : s.waiting = [] → isTransactionBusy s.state = false
  shown : s.waiting ≠ [] → s.rendered.busy = true
  confirmation : s.isOpen = true → s.waiting = [] ∧ kind = .confirmAction

namespace ActionScene.Ordered

variable {configured : Option String} {kind : ActionKind} {s : ActionScene}
  {p : Program transactionInterface (Except Failure (Option SubmittedTransaction))}

theorem mount (connection : Option WalletConnection) :
    (ActionScene.mount connection).Ordered configured kind where
  serial := ⟨0, le_rfl, @Serial.idle _ _ (IsHandler configured) [] nofun⟩
  busy := nofun
  idle _ := rfl
  shown h := absurd rfl h
  confirmation := nofun

theorem render (h : s.Ordered configured kind) : s.render.Ordered configured kind where
  serial := h.serial
  busy := h.busy
  idle := h.idle
  shown hwaiting := by
    obtain ⟨q, hq⟩ := List.exists_mem_of_ne_nil _ hwaiting
    exact (h.busy q hq).1
  confirmation := h.confirmation

/-- After a turn: nothing waits and the state has settled, or one handler waits and it is busy. -/
private theorem of_turn {state : TransactionState} (hp : BusyUntil Settled p state)
    (hwaiting : s.waiting = (p.turn setStateNow state).2.1.waiting)
    (hstate : s.state = (p.turn setStateNow state).2.2)
    (hserial : ∃ n ≤ s.clicks, Serial (IsHandler configured) n s.waiting s.log)
    (hshown : Busy s.state → s.rendered.busy = true) (hclosed : s.isOpen = false) :
    s.Ordered configured kind := by
  have hclosed' : ∀ h : s.isOpen = true, s.waiting = [] ∧ kind = .confirmAction :=
    fun h => absurd (hclosed.symm.trans h) nofun
  rcases hp.turn with ⟨a, hdone, hsettled, -⟩ | ⟨c, next, hcall, -, hbusy, hrest⟩
  · have hnone : s.waiting = [] := by
      rw [hwaiting, hdone]
      rfl
    rw [← hstate] at hsettled
    exact { serial := hserial
            busy := fun q hq => absurd (hnone ▸ hq) List.not_mem_nil
            idle := fun _ => hsettled
            shown := fun h => absurd hnone h
            confirmation := hclosed' }
  · have hone : s.waiting = [.call c next] := by
      rw [hwaiting, hcall]
      rfl
    rw [← hstate] at hbusy hrest
    exact { serial := hserial
            busy := fun q hq => ⟨hbusy, c, next, List.mem_singleton.mp (hone ▸ hq), hrest⟩
            idle := fun h => absurd (hone.symm.trans h) nofun
            shown := fun _ => hshown hbusy
            confirmation := hclosed' }

/-- A handler is called while none waits, and the confirmation is closed. -/
theorem call (h : s.Ordered configured kind) (hwaiting : s.waiting = [])
    (hclosed : s.isOpen = false) (hp : IsHandler configured p) :
    (s.call p).Ordered configured kind := by
  obtain ⟨n, hn, hserial⟩ := h.serial
  rw [hwaiting] at hserial
  have hafter : (s.call p).waiting = (p.turn setStateNow s.state).2.1.waiting := by
    rw [ActionScene.call, hwaiting]
    rfl
  refine of_turn (awaitsIn_handler (h.idle hwaiting) hp) hafter rfl
    ⟨n + 1, Nat.succ_le_succ hn, ?_⟩ id hclosed
  rw [hafter]
  exact hserial.start hp setStateNow s.state

/-- One handler gets its answer; it is the only one that waits. -/
theorem resume (h : s.Ordered configured kind)
    {before after :
      List (Program transactionInterface (Except Failure (Option SubmittedTransaction)))}
    {c : TransactionCall} {next : Except Failure c.Returns →
      Program transactionInterface (Except Failure (Option SubmittedTransaction))}
    (hwaiting : s.waiting = before ++ .call c next :: after) (r : Except Failure c.Returns) :
    (s.resume before after ⟨c, r⟩ (next r)).Ordered configured kind := by
  obtain ⟨n, hn, hserial⟩ := h.serial
  have hnonempty : s.waiting ≠ [] := by simp [hwaiting]
  obtain ⟨rfl, rfl⟩ : before = [] ∧ after = [] := by
    have hlength := hserial.length_le
    rw [hwaiting, List.length_append, List.length_cons] at hlength
    exact ⟨List.eq_nil_of_length_eq_zero (by omega), List.eq_nil_of_length_eq_zero (by omega)⟩
  obtain ⟨-, c', next', hcall, hrest⟩ := h.busy (.call c next) (by simp [hwaiting])
  cases hcall
  rw [hwaiting] at hserial
  have hclosed : s.isOpen = false := by
    cases hopen : s.isOpen with
    | false => rfl
    | true => exact absurd (h.confirmation hopen).1 hnonempty
  refine of_turn (hrest r trivial) (List.append_nil _) rfl ⟨n, hn, ?_⟩ (fun _ => h.shown hnonempty) hclosed
  rw [ActionScene.resume, List.append_nil, List.nil_append]
  exact hserial.resume r setStateNow s.state

/-- An enabled button is a sign that nothing waits. -/
private theorem waiting_of_not_busy (h : s.Ordered configured kind)
    (hbusy : s.rendered.busy = false) : s.waiting = [] := by
  by_contra hwaiting
  exact Bool.false_ne_true (hbusy.symm.trans (h.shown hwaiting))

private theorem waiting_of_enabled (h : s.Ordered configured kind)
    (henabled : s.rendered.disabled configured = false) : s.waiting = [] := by
  rw [ActionView.disabled, Bool.or_eq_false_iff, Bool.or_eq_false_iff] at henabled
  exact h.waiting_of_not_busy henabled.1.1

private theorem isOpen_of_kind (h : s.Ordered configured kind) (hkind : kind ≠ .confirmAction) :
    s.isOpen = false := by
  by_contra hopen
  exact hkind (h.confirmation (Bool.not_eq_false _ ▸ hopen)).2

private theorem close (h : s.Ordered configured kind) :
    ({ s with isOpen := false } : ActionScene).Ordered configured kind where
  serial := h.serial
  busy := h.busy
  idle := h.idle
  shown := h.shown
  confirmation := nofun

/-- A form that is submitted while a transaction is busy does nothing. -/
private theorem submit (h : s.Ordered configured .form) {tokenDecimals : ℕ} {amount : JsString} :
    (s.call (handleTopUp configured s.rendered tokenDecimals amount)).Ordered configured .form := by
  cases hbusy : s.rendered.busy with
  | false => exact h.call (h.waiting_of_not_busy hbusy) (h.isOpen_of_kind nofun) .topUp
  | true =>
    have hnothing : handleTopUp configured s.rendered tokenDecimals amount = .done (.ok none) := by
      unfold handleTopUp
      match s.rendered.connection with
      | none => rfl
      | some connection => exact if_pos hbusy
    obtain ⟨n, hn, hserial⟩ := h.serial
    have hsame : s.call (.done (.ok none)) = { s with clicks := s.clicks + 1 }.render := by
      simp only [ActionScene.call, turn, Program.waiting, List.append_nil]
    rw [hnothing, hsame]
    exact render
      { serial := ⟨n, Nat.le_succ_of_le hn, hserial⟩
        busy := h.busy
        idle := h.idle
        shown := h.shown
        confirmation := h.confirmation }

/-- **One step** keeps the order. -/
theorem step {s' : ActionScene} (h : s.Ordered configured kind)
    (hstep : ActionStep configured kind s s') : s'.Ordered configured kind := by
  cases hstep with
  | render => exact h.render
  | setConnection => exact ⟨h.serial, h.busy, h.idle, h.shown, h.confirmation⟩
  | openConfirmation _ enabled =>
    have hwaiting := h.waiting_of_enabled enabled
    exact render
      { serial := h.serial
        busy := h.busy
        idle := h.idle
        shown := h.shown
        confirmation := fun _ => ⟨hwaiting, rfl⟩ }
  | closeConfirmation => exact h.close.render
  | confirm opened => exact h.close.call (h.confirmation opened).1 rfl .action
  | click enabled => exact h.call (h.waiting_of_enabled enabled) (h.isOpen_of_kind nofun) .action
  | submit => exact h.submit
  | answer waits _ => exact h.resume waits _

end ActionScene.Ordered

/-- **One transaction at a time.** Whatever the order of clicks, renders, changes of the wallet and
answers, the handlers of a mounted component that ask for anything follow one another. While one waits
the hook and the page are busy and no confirmation is open; while none does the hook is not busy. There
are no more requests to sign, and no more transactions sent, than there were calls of a handler. -/
theorem actions_serial {configured : Option String} {kind : ActionKind}
    {connection : Option WalletConnection} {s : ActionScene}
    (h : Relation.ReflTransGen (ActionStep configured kind) (.mount connection) s) :
    (∃ n ≤ s.clicks, Serial (IsHandler configured) n s.waiting s.log) ∧
      (s.waiting ≠ [] → Busy s.state ∧ s.rendered.busy = true ∧ s.isOpen = false) ∧
      (s.waiting = [] → isTransactionBusy s.state = false) ∧
      asked TransactionCall.signs s.waiting s.log ≤ s.clicks ∧
      asked TransactionCall.sends s.waiting s.log ≤ s.clicks := by
  have hordered : s.Ordered configured kind := by
    induction h with
    | refl => exact .mount connection
    | tail _ hstep ih => exact ih.step hstep
  obtain ⟨n, hn, hserial⟩ := hordered.serial
  have hsigns := hserial.asked_le fun p hp => atMost_handler counts_signs hp
  have hsends := hserial.asked_le fun p hp => atMost_handler counts_sends hp
  rw [Nat.mul_one] at hsigns hsends
  refine ⟨⟨n, hn, hserial⟩, fun hwaiting => ?_, hordered.idle, hsigns.trans hn, hsends.trans hn⟩
  obtain ⟨q, hq⟩ := List.exists_mem_of_ne_nil _ hwaiting
  refine ⟨(hordered.busy q hq).1, hordered.shown hwaiting, ?_⟩
  by_contra hopen
  exact hwaiting (hordered.confirmation (Bool.not_eq_false _ ▸ hopen)).1

private def testnetWallet : WalletConnection := ⟨"G", "Test SDF Network ; September 2015"⟩

/-- A withdrawal is confirmed, and gets as far as the wallet. -/
theorem actions_serial_withdraw :
    ∃ s, Relation.ReflTransGen
        (ActionStep (some testnetWallet.networkPassphrase) .confirmAction)
        (.mount (some testnetWallet)) s ∧
      s.waiting.length = 1 ∧ s.clicks = 1 ∧
      asked TransactionCall.signs s.waiting s.log = 1 ∧ s.rendered.busy = true ∧
      ∃ n ≤ s.clicks, Serial (IsHandler (some testnetWallet.networkPassphrase)) n s.waiting s.log := by
  let configured := some testnetWallet.networkPassphrase
  let s₀ : ActionScene := .mount (some testnetWallet)
  have h₁ : ActionStep configured .confirmAction s₀ { s₀ with isOpen := true }.render :=
    .openConfirmation rfl (by decide)
  have h₂ := (Relation.ReflTransGen.single h₁).tail (.confirm rfl)
  have h₃ := h₂.tail (@ActionStep.answer configured .confirmAction _ [] [] .buildUnsignedTx
    (.ok ⟨"tx"⟩) _ rfl (.returns rfl))
  have hsteps := h₃.tail (@ActionStep.answer configured .confirmAction _ [] [] .getNetworkDetails
    (.ok ⟨testnetWallet.networkPassphrase, none⟩) _ rfl (.returns rfl))
  obtain ⟨hserial, hbusy, -⟩ := actions_serial hsteps
  exact ⟨_, hsteps, rfl, rfl, rfl, (hbusy nofun).2.1, hserial⟩

end Web

end SlaSettle
