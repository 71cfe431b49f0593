import SlaSettle.Effect.Throwing
import SlaSettle.Watcher.ScVal

/-!
# The contract client

`internal/contract` and `internal/retry`: how the daemon reads the two contracts by simulation, and
builds, signs, sends and polls `submit_check`.

The RPC node, the SDK's transaction builder, the clock and the daemon's context are the interface
`watcherInterface`. A base64 XDR text in a response is given by what decoding it yields, and an
envelope by the transaction it encodes. A Go function that returns an error ends in `Stop.err` here,
and a panic, which nothing recovers, in `Stop.panic`.
-/

namespace SlaSettle

namespace Watcher

open Effect Program Go

/-! ### Requests and responses -/

structure Account where
  address : GoString
  sequence : ℤ

/-- The invocation of a contract function. -/
structure HostFunction where
  contract : GoString
  functionName : String
  args : List ScVal

/-- `txnbuild.InvokeHostFunction`; the authorizations and the Soroban data are those a simulation
has returned. -/
structure InvokeHostFunction where
  hostFunction : HostFunction
  sourceAccount : GoString
  auth : List GoString
  sorobanData : Option GoString

/-- A transaction with one operation, valid up to `maxTime`. -/
structure Transaction where
  account : Account
  op : InvokeHostFunction
  maxTime : ℤ
  signed : Bool

structure SimulateHostFunctionResult where
  returnValue : Option (Except GoString ScVal)
  auth : Option (List (Except GoString GoString))

structure SimulateTransactionResponse where
  error : GoString
  results : List SimulateHostFunctionResult
  transactionData : Except GoString GoString

inductive SendStatus where
  | pending
  | duplicate
  | tryAgainLater
  | error
  deriving DecidableEq

structure SendTransactionResponse where
  status : SendStatus
  hash : GoString
  errorResult : GoString

inductive TransactionStatus where
  | success
  | notFound
  | failed
  deriving DecidableEq

/-- A failed HTTP request: whether its context had ended, and the error's own `Timeout()` if it has
one. -/
structure HttpError where
  ctxErr : Bool
  netTimeout : Option Bool

/-! ### Calls -/

/-- What the daemon calls. -/
inductive WatcherCall where
  /-- Whether `ctx.Done()` is closed. -/
  | ctxDone
  /-- `select` between `ctx.Done()` and `time.After(d)`: whether the context ended first. -/
  | wait (d : ℤ)
  | now
  | loadAccount (address : GoString)
  /-- `txnbuild.NewTransaction`, which takes the time bound from the clock. -/
  | newTransaction (account : Account) (op : InvokeHostFunction)
  | base64 (tx : Transaction)
  | sign (tx : Transaction)
  | simulateTransaction (tx : Transaction)
  | sendTransaction (tx : Transaction)
  | pollTransaction (hash : GoString)
  /-- A `GET`, with the client's timeout and that of its context. -/
  | httpGet (url : GoString) (clientTimeout ctxTimeout : ℤ)

/-- What a call answers. -/
def WatcherCall.Answer : WatcherCall → Type
  | ctxDone => Bool
  | wait _ => Bool
  | now => Time
  | loadAccount _ => Except GoString Account
  | newTransaction _ _ => Except GoString ℤ
  | base64 _ => Except GoString Unit
  | sign _ => Except GoString Unit
  | simulateTransaction _ => Except GoString SimulateTransactionResponse
  | sendTransaction _ => Except GoString SendTransactionResponse
  | pollTransaction _ => Except GoString TransactionStatus
  | httpGet _ _ _ => Except HttpError ℤ

abbrev watcherInterface : Interface := ⟨WatcherCall, WatcherCall.Answer⟩

/-- The errors the client returns. -/
inductive WatcherError where
  | rpc (err : GoString)
  /-- `ctx.Err()` -/
  | cancelled
  | newTransaction (err : GoString)
  | encoding (err : GoString)
  | signing (err : GoString)
  | simulation (err : GoString)
  | noResult (functionName : String)
  | xdr (err : GoString)
  | decode (err : DecodeError)
  | nonBool (result : GoValue)
  | nonU64 (result : GoValue)
  | nonStruct (result : GoValue)
  | missingEndpointHash
  | badEndpointHash (raw : GoValue)
  | transactionData (err : GoString)
  | authEntry (index : ℕ) (err : GoString)
  | simulatingSubmitCheck (err : WatcherError)
  | loadingSourceAccount (err : WatcherError)
  | rejected (errorResult : GoString)
  | polling (hash : GoString) (err : WatcherError)
  | finished (hash : GoString) (status : TransactionStatus)

/-- The ways it panics. -/
inductive Panic where
  | nilPointer
  /-- `mustContractScAddress` -/
  | contractAddress (contractID : GoString)

/-- How the daemon's code can end other than by returning. -/
inductive Stop where
  | err (e : WatcherError)
  | panic (why : Panic)

/-- The daemon's code. -/
abbrev Daemon (α : Type) : Type := ExceptT Stop (Program watcherInterface) α

/-- Perform one call. -/
abbrev WatcherCall.await (c : WatcherCall) : Daemon c.Answer := observe (I := watcherInterface) c

/-- Return an error. -/
abbrev fail {α : Type} (e : WatcherError) : Daemon α := attempt (.error (.err e))

/-- Return the error of a call. -/
abbrev orFail {α : Type} (e : GoString → WatcherError) (x : Except GoString α) : Daemon α :=
  attempt (x.mapError fun err => .err (e err))

/-- An error as a value: what `err != nil` looks at. A panic goes on. -/
def recovered {α : Type} : Except Stop α → Except Stop (Except WatcherError α)
  | .ok a => .ok (.ok a)
  | .error (.err e) => .ok (.error e)
  | .error (.panic why) => .error (.panic why)

/-- Run a function and keep its error as a value. -/
def catchErr {α : Type} (p : Daemon α) : Daemon (Except WatcherError α) :=
  ExceptT.mk ((p : Program watcherInterface (Except Stop α)) >>= fun r => .done (recovered r))

/-- Wrap the error of a function. -/
def wrapErr {α : Type} (wrap : WatcherError → WatcherError) (p : Daemon α) : Daemon α :=
  tryCatch p fun
    | .err e => fail (wrap e)
    | .panic why => attempt (.error (.panic why))

/-! ### Retrying -/

/-- `retry.Options`. -/
structure RetryOptions where
  maxAttempts : ℤ
  baseDelay : ℤ
  maxDelay : ℤ

/-- `retry.DefaultOptions`. -/
def RetryOptions.default : RetryOptions := ⟨3, 150 * 10 ^ 6, 600 * 10 ^ 6⟩

/-- The delay after `delay`. -/
def nextDelay (maxDelay delay : ℤ) : ℤ :=
  let doubled := int64 (delay * 2)
  if maxDelay < doubled then maxDelay else doubled

/-- The loop of `retry.Do`, with the attempts that remain after this one. -/
def retryLoop {α : Type} (maxDelay : ℤ) (fn : Daemon α) : ℕ → ℤ → Daemon α
  | 0, _ => fn
  | retries + 1, delay => do
    match ← catchErr fn with
    | .ok a => return a
    | .error _ =>
      match ← (WatcherCall.wait delay).await with
      | true => fail .cancelled
      | false => retryLoop maxDelay fn retries (nextDelay maxDelay delay)

/-- `retry.Do`. -/
def retryDo {α : Type} (opts : RetryOptions) (fn : Daemon α) : Daemon α :=
  retryLoop opts.maxDelay fn (max 1 opts.maxAttempts - 1).toNat opts.baseDelay

/-! ### The client -/

inductive CheckStatus where
  | up
  | down
  deriving DecidableEq

/-- The name of the status in the contract. -/
def CheckStatus.symbol : CheckStatus → GoString
  | .up => bytes "Up"
  | .down => bytes "Down"

/-- `contract.Client`. -/
structure Client where
  registryContract : GoString
  slaVaultContract : GoString
  watcherAddress : GoString
  retryOpts : RetryOptions

namespace Client

variable (lib : GoLib) (client : Client)

def getSourceAccount : Daemon Account :=
  retryDo client.retryOpts do
    orFail .rpc (← (WatcherCall.loadAccount client.watcherAddress).await)

/-- `txnbuild.NewTransaction` with `IncrementSequenceNum`. -/
def newTransaction (account : Account) (op : InvokeHostFunction) : Daemon Transaction := do
  let maxTime ← orFail .newTransaction (← (WatcherCall.newTransaction account op).await)
  return ⟨{ account with sequence := account.sequence + 1 }, op, maxTime, false⟩

def simulate (op : InvokeHostFunction) : Daemon SimulateTransactionResponse := do
  let sourceAccount ← client.getSourceAccount
  let tx ← newTransaction sourceAccount op
  orFail .encoding (← (WatcherCall.base64 tx).await)
  let sim ← retryDo client.retryOpts do
    orFail .rpc (← (WatcherCall.simulateTransaction tx).await)
  if sim.error ≠ [] then fail (.simulation sim.error) else return sim

/-- `decodeScVal`. -/
def decodeScVal (value : Except GoString ScVal) : Except Stop GoValue :=
  match value with
  | .error err => .error (.err (.xdr err))
  | .ok scv =>
    match decodeScValNative scv with
    | .ok v => .ok v
    | .error (.err e) => .error (.err (.decode e))
    | .error .nilPointer => .error (.panic .nilPointer)

/-- The value a simulation returns. -/
def readResult (functionName : String) (sim : SimulateTransactionResponse) :
    Except Stop GoValue :=
  match sim.results with
  | [] => .error (.err (.noResult functionName))
  | result :: _ =>
    match result.returnValue with
    | none => .error (.err (.noResult functionName))
    | some value => decodeScVal value

def buildInvokeContractHostFunction (contractID : GoString) (functionName : String)
    (args : List ScVal) : Except Stop HostFunction :=
  if lib.isContractID contractID then .ok ⟨contractID, functionName, args⟩
  else .error (.panic (.contractAddress contractID))

/-- An operation before it is prepared. -/
def invocation (hostFunction : HostFunction) : InvokeHostFunction :=
  ⟨hostFunction, client.watcherAddress, [], none⟩

def simulateReadOnly (contractID : GoString) (functionName : String) (args : List ScVal) :
    Daemon GoValue := do
  let hostFunction ← attempt (buildInvokeContractHostFunction lib contractID functionName args)
  let sim ← client.simulate (client.invocation hostFunction)
  attempt (readResult functionName sim)

def getCurrentRound : Daemon ℕ := do
  match ← client.simulateReadOnly lib client.registryContract "get_current_round" [] with
  | .uint64 round => return round
  | result => fail (.nonU64 result)

/-- `mustU64`. -/
def mustU64 (v : ℕ) : ScVal := .u64 (some v)

/-- `mustAccountAddress`. -/
def mustAccountAddress (address : GoString) : ScVal := .address (some (.ok address))

def hasVoted (slaID roundID : ℕ) : Daemon Bool := do
  let args := [mustU64 slaID, mustU64 roundID, mustAccountAddress client.watcherAddress]
  match ← client.simulateReadOnly lib client.registryContract "has_watcher_voted" args with
  | .bool b => return b
  | result => fail (.nonBool result)

/-- The `endpoint_hash` of a `get_sla` result. -/
def endpointHashOf (result : GoValue) : Except Stop Hash :=
  match result with
  | .record record =>
    match getField? record (bytes "endpoint_hash") with
    | none => .error (.err .missingEndpointHash)
    | some (.bytes b) =>
      if h : b.length = 32 then .ok ⟨b, h⟩ else .error (.err (.badEndpointHash (.bytes b)))
    | some raw => .error (.err (.badEndpointHash raw))
  | result => .error (.err (.nonStruct result))

def getSlaEndpointHash (slaID : ℕ) : Daemon Hash := do
  let result ← client.simulateReadOnly lib client.slaVaultContract "get_sla" [mustU64 slaID]
  attempt (endpointHashOf result)

/-! ### Submitting a check -/

/-- `mustCheckStatusEnum`. -/
def mustCheckStatusEnum (status : CheckStatus) : ScVal := .vec [.symbol (some status.symbol)]

/-- `mustBytesN32`. -/
def mustBytesN32 (b : Hash) : ScVal := .bytes (some b.val)

/-- The arguments of `submit_check`. -/
def submitCheckArgs (slaID roundID : ℕ) (endpointHash : Hash) (status : CheckStatus) :
    List ScVal :=
  [mustAccountAddress client.watcherAddress, mustU64 slaID, mustU64 roundID,
    mustBytesN32 endpointHash, mustCheckStatusEnum status]

/-- The authorization entries of a simulation, from the index of the first. -/
def decodeAuth (index : ℕ) : List (Except GoString GoString) → Except Stop (List GoString)
  | [] => .ok []
  | .ok entry :: entries => (decodeAuth (index + 1) entries).map (entry :: ·)
  | .error err :: _ => .error (.err (.authEntry index err))

/-- The operation with what its simulation returned. -/
def prepared (op : InvokeHostFunction) (sim : SimulateTransactionResponse) :
    Except Stop InvokeHostFunction :=
  match sim.transactionData with
  | .error err => .error (.err (.transactionData err))
  | .ok sorobanData =>
    match (sim.results.head?.bind SimulateHostFunctionResult.auth).getD [] |> decodeAuth 0 with
    | .error stop => .error stop
    | .ok auth => .ok { op with auth, sorobanData := some sorobanData }

def simulateAndPrepare (op : InvokeHostFunction) : Daemon InvokeHostFunction := do
  let sim ← client.simulate op
  attempt (prepared op sim)

def submitAndPoll (tx : Transaction) : Daemon Unit := do
  orFail .encoding (← (WatcherCall.base64 tx).await)
  let sendResp ← retryDo client.retryOpts do
    orFail .rpc (← (WatcherCall.sendTransaction tx).await)
  if sendResp.status = .error then fail (.rejected sendResp.errorResult)
  else do
    let status ← wrapErr (.polling sendResp.hash) <| retryDo client.retryOpts do
      orFail .rpc (← (WatcherCall.pollTransaction sendResp.hash).await)
    if status ≠ .success then fail (.finished sendResp.hash status) else return ()

def submitCheck (slaID roundID : ℕ) (endpointHash : Hash) (status : CheckStatus) :
    Daemon Unit := do
  let hostFunction ← attempt (buildInvokeContractHostFunction lib client.registryContract
    "submit_check" (client.submitCheckArgs slaID roundID endpointHash status))
  let preparedOp ← wrapErr .simulatingSubmitCheck
    (client.simulateAndPrepare (client.invocation hostFunction))
  let sourceAccount ← wrapErr .loadingSourceAccount client.getSourceAccount
  let tx ← newTransaction sourceAccount preparedOp
  orFail .signing (← (WatcherCall.sign tx).await)
  client.submitAndPoll { tx with signed := true }

end Client

end Watcher

end SlaSettle
