import SlaSettle.Go.Strconv
import SlaSettle.Watcher.Daemon

/-!
# Loading the configuration

`internal/config`: the configuration is read from an environment, and every value that is missing or
malformed is listed in the error. How `%q` prints a value is left open (`quote`).

`load_eq_ok_iff` says which environments are accepted and what is loaded from them. A number that is
accepted is a positive `int` (`positiveInt_bounds`), and every positive `int` is accepted
(`load_sampleEnv`).
-/

namespace SlaSettle

namespace Watcher

open Go

/-- `config.Config`. -/
structure LoadedConfig extends Config where
  rpcURL : GoString
  networkPassphrase : GoString
  watcherRegistryID : GoString
  slaVaultID : GoString
  watcherSecretKey : GoString

/-- An environment: the value of a variable and whether it is set. -/
abbrev Lookup : Type := String → GoString × Bool

/-! ### Errors -/

inductive ConfigError where
  | required (key : String)
  | slaID (value : GoString)
  | notPositive (key : String) (value : GoString)
  deriving DecidableEq

/-- The variable that an error is about. -/
def ConfigError.key : ConfigError → String
  | required key => key
  | slaID _ => "SLA_ID"
  | notPositive key _ => key

def ConfigError.message (quote : GoString → GoString) : ConfigError → GoString
  | required key => bytes key ++ bytes " is required"
  | slaID value => bytes "SLA_ID" ++ bytes " must be a non-negative integer, got " ++ quote value
  | notPositive key value => bytes key ++ bytes " must be a positive integer, got " ++ quote value

/-- The text of the error of `Load`. -/
def invalidConfiguration (quote : GoString → GoString) (errs : List ConfigError) : GoString :=
  errs.foldl (fun msg e => msg ++ bytes "\n  - " ++ e.message quote)
    (bytes "invalid configuration:")

/-! ### Variables

Each is read together with the errors it gives. -/

/-- `require` -/
def require (lookup : Lookup) (key : String) : GoString × List ConfigError :=
  let (v, ok) := lookup key
  (v, if !ok || v = [] then [.required key] else [])

def getOrDefault (lookup : Lookup) (key : String) (default : GoString) : GoString :=
  let (v, ok) := lookup key
  if ok && v ≠ [] then v else default

/-- `SLA_ID` -/
def slaID (lookup : Lookup) : ℕ × List ConfigError :=
  let (slaIDStr, errs) := require lookup "SLA_ID"
  if slaIDStr = [] then (0, errs)
  else
    match parseUint slaIDStr with
    | none => (0, errs ++ [.slaID slaIDStr])
    | some id => (id, errs)

/-- A variable that holds a positive `int`, if it is not empty. -/
def positiveInt (lookup : Lookup) (key : String) (default : ℤ) : ℤ × List ConfigError :=
  let v := (lookup key).1
  if v = [] then (default, [])
  else
    match atoi v with
    | none => (default, [.notPositive key v])
    | some n => if n ≤ 0 then (default, [.notPositive key v]) else (n, [])

def roundLengthSeconds (lookup : Lookup) : ℤ × List ConfigError :=
  positiveInt lookup "ROUND_LENGTH_SECONDS" 60

def timeoutSeconds (lookup : Lookup) : ℤ × List ConfigError :=
  positiveInt lookup "HTTP_TIMEOUT_SECONDS" 10

def httpExpectMaxStatus (lookup : Lookup) : ℤ × List ConfigError :=
  positiveInt lookup "HTTP_EXPECT_MAX_STATUS" 400

/-! ### Loading -/

/-- The errors of an environment, in the order in which `Load` finds them. -/
def configErrors (lookup : Lookup) : List ConfigError :=
  (require lookup "WATCHER_REGISTRY_CONTRACT_ID").2 ++ (require lookup "SLA_VAULT_CONTRACT_ID").2 ++
    (require lookup "WATCHER_SECRET_KEY").2 ++ (require lookup "TARGET_URL").2 ++
    (slaID lookup).2 ++ (roundLengthSeconds lookup).2 ++ (timeoutSeconds lookup).2 ++
    (httpExpectMaxStatus lookup).2

/-- The configuration of an environment without errors. -/
def loadedConfig (lookup : Lookup) : LoadedConfig where
  rpcURL := getOrDefault lookup "RPC_URL" (bytes "https://soroban-testnet.stellar.org")
  networkPassphrase :=
    getOrDefault lookup "NETWORK_PASSPHRASE" (bytes "Test SDF Network ; September 2015")
  watcherRegistryID := (require lookup "WATCHER_REGISTRY_CONTRACT_ID").1
  slaVaultID := (require lookup "SLA_VAULT_CONTRACT_ID").1
  watcherSecretKey := (require lookup "WATCHER_SECRET_KEY").1
  targetURL := (require lookup "TARGET_URL").1
  slaID := (slaID lookup).1
  roundLengthSeconds := (roundLengthSeconds lookup).1
  -- a product of two durations
  httpTimeout := int64 ((timeoutSeconds lookup).1 * second)
  httpExpectMaxStatus := (httpExpectMaxStatus lookup).1

/-- `config.Load` -/
def load (quote : GoString → GoString) (lookup : Lookup) : Except GoString LoadedConfig :=
  let errs := configErrors lookup
  if errs ≠ [] then .error (invalidConfiguration quote errs) else .ok (loadedConfig lookup)

section

variable {quote : GoString → GoString} {lookup : Lookup} {key : String} {default : ℤ}

/-- **What is loaded.** An environment is accepted when it has no errors. -/
theorem load_eq_ok_iff {cfg : LoadedConfig} :
    load quote lookup = .ok cfg ↔ configErrors lookup = [] ∧ loadedConfig lookup = cfg := by
  by_cases hnone : configErrors lookup = []
  · rw [load, if_neg (not_not_intro hnone), Except.ok.injEq]
    exact ⟨fun h => ⟨hnone, h⟩, fun h => h.2⟩
  · rw [load, if_pos hnone]
    refine ⟨fun h => ?_, fun h => absurd h.1 hnone⟩
    cases h

/-- An error begins with the variable that it is about. -/
theorem key_isPrefix_message (e : ConfigError) : bytes e.key <+: e.message quote := by
  cases e with
  | required key => exact List.prefix_append _ _
  | slaID value => exact ⟨_, (List.append_assoc _ _ _).symm⟩
  | notPositive key value => exact ⟨_, (List.append_assoc _ _ _).symm⟩

/-! ### What the variables may hold -/

/-- A number that is used is positive and has 64 bits, as long as its default has. -/
theorem positiveInt_bounds (hpos : 0 < default) (hlt : default < 2 ^ 63) :
    0 < (positiveInt lookup key default).1 ∧ (positiveInt lookup key default).1 < 2 ^ 63 := by
  unfold positiveInt
  dsimp only
  split
  · exact ⟨hpos, hlt⟩
  split
  · exact ⟨hpos, hlt⟩
  · rename_i n hn
    split
    · exact ⟨hpos, hlt⟩
    · exact ⟨by omega, (atoi_bounds hn).2⟩

/-- A number is accepted if it is left to its default or positive, and it is the one that is
used. -/
theorem positiveInt_eq_iff {n : ℤ} :
    positiveInt lookup key default = (n, []) ↔
      ((lookup key).1 = [] ∧ n = default) ∨
        (lookup key).1 ≠ [] ∧ atoi (lookup key).1 = some n ∧ 0 < n := by
  unfold positiveInt
  dsimp only
  by_cases hempty : (lookup key).1 = []
  · rw [if_pos hempty]
    simp [hempty, eq_comm]
  rw [if_neg hempty]
  cases hatoi : atoi (lookup key).1 with
  | none => simp [hempty]
  | some m =>
    by_cases hm : m ≤ 0
    · simp only [if_pos hm, Prod.mk.injEq, List.cons_ne_nil, and_false, false_iff]
      rintro (⟨h, -⟩ | ⟨-, h, hn⟩)
      · exact hempty h
      · obtain rfl := Option.some.inj h
        omega
    · simp only [if_neg hm, hempty, Prod.mk.injEq, and_true, false_and, false_or,
        Option.some.injEq, ne_eq, not_false_eq_true, true_and]
      exact ⟨fun h => ⟨h, by omega⟩, fun h => h.1⟩

theorem slaID_lt : (slaID lookup).1 < 2 ^ 64 := by
  unfold slaID
  dsimp only
  split
  · exact Nat.two_pow_pos 64
  split
  · exact Nat.two_pow_pos 64
  · exact parseUint_lt ‹_›

/-- The errors of the parts. -/
theorem configErrors_eq_nil_iff :
    configErrors lookup = [] ↔
      (require lookup "WATCHER_REGISTRY_CONTRACT_ID").2 = [] ∧
      (require lookup "SLA_VAULT_CONTRACT_ID").2 = [] ∧
      (require lookup "WATCHER_SECRET_KEY").2 = [] ∧ (require lookup "TARGET_URL").2 = [] ∧
      (slaID lookup).2 = [] ∧ (roundLengthSeconds lookup).2 = [] ∧
      (timeoutSeconds lookup).2 = [] ∧ (httpExpectMaxStatus lookup).2 = [] := by
  simp only [configErrors, List.append_eq_nil_iff, and_assoc]

/-- The round length of a loaded configuration is a positive `int`. -/
theorem roundLengthSeconds_bounds {cfg : LoadedConfig} (h : load quote lookup = .ok cfg) :
    0 < cfg.roundLengthSeconds ∧ cfg.roundLengthSeconds < 2 ^ 63 := by
  obtain ⟨-, rfl⟩ := load_eq_ok_iff.mp h
  exact positiveInt_bounds (by decide) (by decide)

end

/-! ### An environment -/

/-- The required variables, with the given round length and timeout. -/
def sampleEnv (roundLength timeout : GoString) : Lookup := fun key =>
  if key = "WATCHER_REGISTRY_CONTRACT_ID" then (bytes "CREGISTRY", true)
  else if key = "SLA_VAULT_CONTRACT_ID" then (bytes "CVAULT", true)
  else if key = "WATCHER_SECRET_KEY" then (bytes "SSECRET", true)
  else if key = "TARGET_URL" then (bytes "https://example.com/health", true)
  else if key = "SLA_ID" then (bytes "7", true)
  else if key = "ROUND_LENGTH_SECONDS" then (roundLength, roundLength ≠ [])
  else if key = "HTTP_TIMEOUT_SECONDS" then (timeout, timeout ≠ [])
  else ([], false)

/-- **Every positive `int` is accepted**, as a round length and as a timeout. -/
theorem load_sampleEnv (quote : GoString → GoString) {seconds timeout : ℕ} (hpos : 0 < seconds)
    (hlt : seconds < 2 ^ 63) (htpos : 0 < timeout) (htlt : timeout < 2 ^ 63) :
    ∃ cfg, load quote (sampleEnv (itoa seconds) (itoa timeout)) = .ok cfg ∧
      cfg.roundLengthSeconds = seconds ∧ cfg.httpTimeout = int64 (timeout * second) := by
  have hround : roundLengthSeconds (sampleEnv (itoa seconds) (itoa timeout)) = (↑seconds, []) :=
    positiveInt_eq_iff.mpr (.inr ⟨itoa_ne_nil seconds, atoi_itoa hlt, by omega⟩)
  have htimeout : timeoutSeconds (sampleEnv (itoa seconds) (itoa timeout)) = (↑timeout, []) :=
    positiveInt_eq_iff.mpr (.inr ⟨itoa_ne_nil timeout, atoi_itoa htlt, by omega⟩)
  refine ⟨_, load_eq_ok_iff.mpr ⟨configErrors_eq_nil_iff.mpr ?_, rfl⟩, ?_, ?_⟩
  · rw [hround, htimeout]
    exact ⟨rfl, rfl, rfl, rfl, rfl, rfl, rfl, rfl⟩
  · rw [loadedConfig, hround]
  · rw [loadedConfig, htimeout]

end Watcher

end SlaSettle
