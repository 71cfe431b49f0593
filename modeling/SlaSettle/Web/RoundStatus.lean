import Mathlib.Data.Int.Notation
import Mathlib.Data.List.Infix
import SlaSettle.Effect.Throwing

/-!
# The current round of an SLA

`fetchRoundStatus` of `lib/use-round-status.ts`, which puts a view of the round together from two
answers of the indexer and two contract reads, and the components that show it: `RoundPanel` and
`SettlementStatus` of `components/status/round-panel.tsx`. The latter offers to settle the round,
behind a chain of conditions.

`runs_fetchRoundStatus` says which reads the parts of a view come from, and
`roundPanel_offers` which conditions have held where settlement is offered.
-/

namespace SlaSettle

namespace Web

open Effect Program

/-! ### Failed reads -/

/-- What a contract read or a request to the indexer may throw. -/
inductive ReadError where
  | missingSdkConfig (message : String)
  | invalidSdkConfig (message : String)
  | missingIndexerConfig (message : String)
  | sorobanSimulation (method rpcMessage : String)
  | invalidSdkInput (message : String)
  | indexerUnavailable (message : String)
  | indexerApi (message : String)
  | indexerResponse (message : String)
  | typeError (message : String)
  | rangeError (message : String)
  | error (message : String)
  | unknown

/-- The contract's `SlaNotFound`, as the RPC spells it. -/
def reportsSlaNotFound (rpcMessage : String) : Bool :=
  "Error(Contract, #9)".toList <:+: rpcMessage.toList

def describeReadError : ReadError → String
  | .missingSdkConfig message => s!"This deployment is not configured correctly. {message}"
  | .invalidSdkConfig message => s!"This deployment is not configured correctly. {message}"
  | .missingIndexerConfig message => message
  | .sorobanSimulation method rpcMessage =>
    if method = "get_sla" && reportsSlaNotFound rpcMessage then
      "No SLA with this ID exists on this network (the contract reported SlaNotFound)."
    else s!"The contract rejected the read: {rpcMessage}"
  | .invalidSdkInput message => message
  | .indexerUnavailable message => message
  | .indexerApi message => message
  | .indexerResponse message => message
  | .typeError message => s!"The contract returned data this app does not recognize. {message}"
  | .rangeError message => s!"The contract returned data this app does not recognize. {message}"
  | .error message => s!"Soroban RPC request failed: {message}"
  | .unknown => "The request failed for an unknown reason."

/-! ### The view of a round -/

/-- An array of bytes. As an object it has an identity, which is what hooks compare. -/
structure EndpointHash where
  ref : ℕ
  bytes : List UInt8
  deriving DecidableEq

structure Clock where
  ledgerSequence : ℕ
  ledgerCloseTime : String
  currentRoundId : ℕ

inductive WatcherCheckStatus where
  | up
  | down
  | pending

structure CheckedInWatcher where
  watcher : String
  /-- `up`, or else `down`. -/
  up : Bool
  checkedAt : String

structure CurrentRound where
  roundId : ℕ
  roundStartedAt : String
  checkedIn : List CheckedInWatcher
  notYetCheckedIn : List String

structure RoundTally where
  votesUp : ℕ
  votesDown : ℕ

/-- What `fetchRoundStatus` awaits. -/
inductive RoundCall where
  | getClock
  | getCurrentRound (slaId : ℕ)
  | getRoundTally (slaId roundId : ℕ) (endpointHash : EndpointHash)
  | isRoundSettled (slaId roundId : ℕ)

/-- What a call returns when it does not throw. -/
def RoundCall.Returns : RoundCall → Type
  | getClock => Clock
  | getCurrentRound _ => CurrentRound
  | getRoundTally _ _ _ => RoundTally
  | isRoundSettled _ _ => Bool

abbrev roundInterface : Interface := throwing ReadError RoundCall.Returns

/-- One of the calls of a `Promise.allSettled`. -/
abbrev RoundCall.settle (c : RoundCall) : Program roundInterface (Except ReadError c.Returns) :=
  perform (I := roundInterface) c

structure RoundWatcherView where
  address : String
  status : WatcherCheckStatus

/-- A value that either loaded or is unavailable. -/
inductive Source (α : Type) where
  | ok (value : α)
  | unavailable (message : String)

/-- The source a settled call is. -/
def Source.ofResult {α : Type} : Except ReadError α → Source α
  | .ok value => .ok value
  | .error reason => .unavailable (describeReadError reason)

inductive AsOfSource where
  | ledger
  | roundStart

/-- The round of a view, and a time of it. -/
structure RoundIdentity where
  roundId : Option ℕ
  asOf : Option String
  asOfSource : Option AsOfSource

structure RoundStatusView extends RoundIdentity where
  watchers : Source (List RoundWatcherView)
  tally : Source RoundTally
  settled : Source Bool

/-- The round comes from the participation endpoint if it can. The clock's time is taken if it is
of the same round. -/
def roundIdentity (clockResult : Except ReadError Clock)
    (currentRoundResult : Except ReadError CurrentRound) : RoundIdentity :=
  match currentRoundResult, clockResult with
  | .ok currentRound, .ok clock =>
    if clock.currentRoundId = currentRound.roundId then
      ⟨some currentRound.roundId, some clock.ledgerCloseTime, some .ledger⟩
    else ⟨some currentRound.roundId, some currentRound.roundStartedAt, some .roundStart⟩
  | .ok currentRound, .error _ =>
    ⟨some currentRound.roundId, some currentRound.roundStartedAt, some .roundStart⟩
  | .error _, .ok clock => ⟨some clock.currentRoundId, some clock.ledgerCloseTime, some .ledger⟩
  | .error _, .error _ => ⟨none, none, none⟩

/-- The watchers of a round: those that have checked in, and those that have yet to. -/
def CurrentRound.watchers (currentRound : CurrentRound) : List RoundWatcherView :=
  currentRound.checkedIn.map (fun w => ⟨w.watcher, if w.up then .up else .down⟩) ++
    currentRound.notYetCheckedIn.map fun address => ⟨address, .pending⟩

/-- Why there is no round. -/
def noRoundReason : Except ReadError Clock → ReadError
  | .error reason => reason
  | .ok _ => .error "The current round is unknown."

def fetchRoundStatus (slaId : ℕ) (endpointHash : EndpointHash) :
    Program roundInterface RoundStatusView := do
  let clockResult ← RoundCall.getClock.settle
  let currentRoundResult ← (RoundCall.getCurrentRound slaId).settle
  let identity := roundIdentity clockResult currentRoundResult
  let watchers := Source.ofResult (currentRoundResult.map CurrentRound.watchers)
  match identity.roundId with
  | none =>
    let noRound := describeReadError (noRoundReason clockResult)
    return ⟨identity, watchers, .unavailable noRound, .unavailable noRound⟩
  | some roundId => do
    let tallyResult ← (RoundCall.getRoundTally slaId roundId endpointHash).settle
    let settledResult ← (RoundCall.isRoundSettled slaId roundId).settle
    return ⟨identity, watchers, .ofResult tallyResult, .ofResult settledResult⟩

/-- A time that belongs to a round: the source that gave it named this round. -/
def BelongsTo (tr : List (Event roundInterface)) (slaId roundId : ℕ) (asOf : String) : Prop :=
  (∃ clock : Clock, ⟨.getClock, .ok clock⟩ ∈ tr ∧ clock.currentRoundId = roundId ∧
    clock.ledgerCloseTime = asOf) ∨
  ∃ currentRound : CurrentRound, ⟨.getCurrentRound slaId, .ok currentRound⟩ ∈ tr ∧
    currentRound.roundId = roundId ∧ currentRound.roundStartedAt = asOf

/-- What is read for a view of a round. -/
structure ReadFor (tr : List (Event roundInterface)) (slaId roundId : ℕ)
    (endpointHash : EndpointHash) (view : RoundStatusView) : Prop where
  asOf : ∃ asOf, view.asOf = some asOf ∧ BelongsTo tr slaId roundId asOf
  tally : ∀ tally, view.tally = .ok tally →
    ⟨.getRoundTally slaId roundId endpointHash, .ok tally⟩ ∈ tr
  settled : ∀ settled, view.settled = .ok settled →
    ⟨.isRoundSettled slaId roundId, .ok settled⟩ ∈ tr

theorem Source.ofResult_eq_ok {α : Type} {result : Except ReadError α} {value : α}
    (h : Source.ofResult result = .ok value) : result = .ok value := by
  cases result with
  | error reason => cases h
  | ok a => exact congrArg Except.ok (Source.ok.inj h)

/-- The time of an identity is of its round. -/
theorem roundIdentity_asOf {tr : List (Event roundInterface)} {slaId roundId : ℕ}
    {clockResult : Except ReadError Clock} {currentRoundResult : Except ReadError CurrentRound}
    (hclock : ⟨.getClock, clockResult⟩ ∈ tr)
    (hcurrent : ⟨.getCurrentRound slaId, currentRoundResult⟩ ∈ tr)
    (hround : (roundIdentity clockResult currentRoundResult).roundId = some roundId) :
    ∃ asOf, (roundIdentity clockResult currentRoundResult).asOf = some asOf ∧
      BelongsTo tr slaId roundId asOf := by
  match currentRoundResult, clockResult with
  | .ok currentRound, .ok clock =>
    dsimp only [roundIdentity] at hround ⊢
    split_ifs at hround ⊢ with hsame
    · obtain rfl : currentRound.roundId = roundId := Option.some.inj hround
      exact ⟨_, rfl, .inl ⟨clock, hclock, hsame, rfl⟩⟩
    · exact ⟨_, rfl, .inr ⟨currentRound, hcurrent, Option.some.inj hround, rfl⟩⟩
  | .ok currentRound, .error _ =>
    exact ⟨_, rfl, .inr ⟨currentRound, hcurrent, Option.some.inj hround, rfl⟩⟩
  | .error _, .ok clock => exact ⟨_, rfl, .inl ⟨clock, hclock, Option.some.inj hround, rfl⟩⟩
  | .error _, .error _ => cases hround

/-- **The reads of a view.** All parts of a view of a round are read for that round. -/
theorem runs_fetchRoundStatus {slaId roundId : ℕ} {endpointHash : EndpointHash}
    {tr : List (Event roundInterface)} {view : RoundStatusView}
    (h : Runs (fetchRoundStatus slaId endpointHash) tr view)
    (hround : view.roundId = some roundId) :
    ReadFor tr slaId roundId endpointHash view := by
  obtain ⟨clockResult, tr₁, hclock, rfl⟩ := runs_perform_bind_iff.mp h
  obtain ⟨currentRoundResult, tr₂, hcurrent, rfl⟩ := runs_perform_bind_iff.mp hclock
  dsimp only at hcurrent
  cases hidentity : (roundIdentity clockResult currentRoundResult).roundId with
  | none =>
    rw [hidentity] at hcurrent
    obtain ⟨rfl, rfl⟩ := runs_done_iff.mp hcurrent
    cases hidentity.symm.trans hround
  | some roundId' =>
    rw [hidentity] at hcurrent
    obtain ⟨tallyResult, tr₃, htally, rfl⟩ := runs_perform_bind_iff.mp hcurrent
    obtain ⟨settledResult, tr₄, hsettled, rfl⟩ := runs_perform_bind_iff.mp htally
    obtain ⟨rfl, rfl⟩ := runs_done_iff.mp hsettled
    obtain rfl : roundId' = roundId := Option.some.inj (hidentity.symm.trans hround)
    refine ⟨roundIdentity_asOf ?_ ?_ hround, fun tally hok => ?_, fun settled hok => ?_⟩
    · exact List.mem_cons_self
    · exact List.mem_cons_of_mem _ List.mem_cons_self
    · obtain rfl : tallyResult = .ok tally := Source.ofResult_eq_ok hok
      exact List.mem_cons_of_mem _ (List.mem_cons_of_mem _ List.mem_cons_self)
    · obtain rfl : settledResult = .ok settled := Source.ofResult_eq_ok hok
      exact List.mem_of_getLast? rfl

/-! ### The round on the page -/

inductive SLAStatus where
  | active
  | cancelled
  deriving DecidableEq

/-- An SLA's configuration, as far as the round is concerned. -/
structure SLAConfig where
  token : String
  endpointHash : EndpointHash
  quorumThreshold : ℕ
  penaltyPerBreach : ℤ
  status : SLAStatus

structure PollingState (α : Type) where
  data : Option α
  error : Option String
  loading : Bool

structure QuorumStatus where
  votesDown : ℕ
  quorumThreshold : ℕ
  reached : Bool
  remaining : ℕ

def deriveQuorum (tally : RoundTally) (quorumThreshold : ℕ) : QuorumStatus :=
  let reached : Bool := quorumThreshold ≤ tally.votesDown
  ⟨tally.votesDown, quorumThreshold, reached,
    if reached then 0 else quorumThreshold - tally.votesDown⟩

/-- The properties of `TriggerSettlementAction`. -/
structure TriggerSettlement where
  slaId : ℕ
  roundId : ℕ
  votesDown : ℕ
  quorumThreshold : ℕ
  penaltyPerBreach : ℤ
  tokenDecimals : ℕ
  tokenSymbol : String

/-- What `SettlementStatus` shows. -/
inductive SettlementView where
  | notRefreshed
  | settledUnavailable (message : String)
  | alreadySettled
  | cancelled
  | disabled
  | noQuorum
  | triggerSettlement (action : TriggerSettlement)

def settlementStatus (slaId : ℕ) (config : SLAConfig) (tokenDecimals : ℕ) (tokenSymbol : String)
    (roundId : Option ℕ) (quorum : Option QuorumStatus) (settled : Source Bool) (stale : Bool) :
    SettlementView :=
  if stale then .notRefreshed
  else
    match settled with
    | .unavailable message => .settledUnavailable message
    | .ok true => .alreadySettled
    | .ok false =>
      if config.status ≠ .active then .cancelled
      else
        match roundId, quorum with
        | some roundId, some quorum =>
          if !quorum.reached then .noQuorum
          else .triggerSettlement {
            slaId := slaId
            roundId := roundId
            votesDown := quorum.votesDown
            quorumThreshold := config.quorumThreshold
            penaltyPerBreach := config.penaltyPerBreach
            tokenDecimals := tokenDecimals
            tokenSymbol := tokenSymbol }
        | _, _ => .disabled

/-- A text that is neither null nor empty. -/
def nonEmpty (text : Option String) : Option String := text.filter (· ≠ "")

/-- What `RoundPanel` shows of a round: a warning if the last refresh failed, the round with its
time or why it is unknown, the watchers, why there is no tally, the votes, and whether the round can
be settled. -/
structure RoundView where
  refreshFailed : Option String
  round : Except String (ℕ × Option String × Option AsOfSource)
  watchers : Source (List RoundWatcherView)
  tallyUnavailable : Option String
  votes : Option (ℕ × QuorumStatus)
  settlement : SettlementView

/-- What `RoundPanel` shows. -/
inductive RoundPanelView where
  | notLoaded (message : String)
  | loading
  | round (view : RoundView)

/-- The message of a source that is unavailable. -/
def Source.message? {α : Type} : Source α → Option String
  | .ok _ => none
  | .unavailable message => some message

def Source.value? {α : Type} : Source α → Option α
  | .ok value => some value
  | .unavailable _ => none

def roundPanel (slaId : ℕ) (config : SLAConfig) (tokenDecimals : ℕ) (tokenSymbol : String)
    (round : PollingState RoundStatusView) : RoundPanelView :=
  match round.data with
  | none =>
    match nonEmpty round.error with
    | some message => .notLoaded message
    | none => .loading
  | some data =>
    let quorum := data.tally.value?.map fun tally => deriveQuorum tally config.quorumThreshold
    .round {
      refreshFailed := nonEmpty round.error
      round :=
        match data.roundId with
        | some roundId => .ok (roundId, data.asOf, data.asOfSource)
        | none => .error <|
          data.tally.message?.getD "The current round could not be determined."
      watchers := data.watchers
      tallyUnavailable := data.roundId.bind fun _ => data.tally.message?
      votes := data.tally.value?.map fun tally =>
        (tally.votesUp, deriveQuorum tally config.quorumThreshold)
      settlement := settlementStatus slaId config tokenDecimals tokenSymbol data.roundId quorum
        data.settled round.error.isSome }

/-- Where settlement is offered, all conditions hold. -/
theorem settlementStatus_trigger {slaId : ℕ} {config : SLAConfig} {tokenDecimals : ℕ}
    {tokenSymbol : String} {roundId : Option ℕ} {quorum : Option QuorumStatus}
    {settled : Source Bool} {stale : Bool} {action : TriggerSettlement}
    (h : settlementStatus slaId config tokenDecimals tokenSymbol roundId quorum settled stale =
      .triggerSettlement action) :
    stale = false ∧ settled = .ok false ∧ config.status = .active ∧ action.slaId = slaId ∧
      roundId = some action.roundId ∧ ∃ q, quorum = some q ∧ q.reached = true := by
  unfold settlementStatus at h
  split at h
  · cases h
  next hstale =>
    split at h
    · cases h
    · cases h
    split at h
    · cases h
    next hstatus =>
      split at h
      next roundId quorum =>
        split at h
        · cases h
        next hreached =>
          obtain rfl := SettlementView.triggerSettlement.inj h
          refine ⟨eq_false_of_ne_true hstale, rfl, not_not.mp hstatus, rfl, rfl, quorum, rfl, ?_⟩
          simpa using hreached
      · cases h

/-- **The chain of conditions.** Settlement is offered for a round whose data was loaded without an
error since, whose tally has the quorum and whose settled flag is down, for an active SLA. -/
theorem roundPanel_offers {slaId : ℕ} {config : SLAConfig} {tokenDecimals : ℕ}
    {tokenSymbol : String} {round : PollingState RoundStatusView} {view : RoundView}
    {action : TriggerSettlement}
    (h : roundPanel slaId config tokenDecimals tokenSymbol round = .round view)
    (hoffers : view.settlement = .triggerSettlement action) :
    ∃ data, round.data = some data ∧ round.error = none ∧ config.status = .active ∧
      action.slaId = slaId ∧ data.roundId = some action.roundId ∧ data.settled = .ok false ∧
      view.round = .ok (action.roundId, data.asOf, data.asOfSource) ∧
      ∃ tally, data.tally = .ok tally ∧ config.quorumThreshold ≤ tally.votesDown := by
  rw [roundPanel] at h
  split at h
  · split at h <;> cases h
  next data hdata =>
    obtain rfl := RoundPanelView.round.inj h
    obtain ⟨hstale, hsettled, hactive, hsla, hround, quorum, hquorum, hreached⟩ :=
      settlementStatus_trigger hoffers
    obtain ⟨tally, htally, rfl⟩ := Option.map_eq_some_iff.mp hquorum
    have htally : data.tally = .ok tally := by
      cases hcase : data.tally with
      | unavailable message =>
        rw [hcase] at htally
        cases htally
      | ok value =>
        rw [hcase] at htally
        exact congrArg Source.ok (Option.some.inj htally)
    have herror : round.error = none := Option.not_isSome_iff_eq_none.mp (by simp [hstale])
    refine ⟨data, hdata, herror, hactive, hsla, hround, hsettled, ?_, tally, htally,
      of_decide_eq_true hreached⟩
    simp only [hround]

end Web

end SlaSettle
