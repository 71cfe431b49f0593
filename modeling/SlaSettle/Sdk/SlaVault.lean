import SlaSettle.Sdk.Hash

/-!
# Creating an SLA

`buildCreateSlaTx` of `packages/sdk/src/sla-vault.ts`: the parameters are checked and encoded as the
arguments of the contract's `create_sla`. The result is the call of `buildInvokeTx` that this leads
to; what that call does is left open.
-/

namespace SlaSettle

namespace Sdk

open Js

/-! ### Arguments -/

/-- `xdr.ScVal`, as far as `create_sla` needs it. -/
inductive ScVal where
  | address (a : JsString)
  | bytes (b : List UInt8)
  | u32 (n : JsNumber)
  | i128 (hi : ℤ) (lo : ℕ)
  deriving DecidableEq

/-- A value and the type it is to have. -/
inductive TypedValue where
  | address (value : JsString)
  | bytes (value : List UInt8)
  | u32 (value : JsNumber)
  | i128 (value : ℤ)

/-- An integer is encoded as its high and its low half. -/
def nativeToScVal : TypedValue → ScVal
  | .address value => .address value
  | .bytes value => .bytes value
  | .u32 value => .u32 value
  | .i128 value => .i128 (value / 2 ^ 64) (value % 2 ^ 64).toNat

/-- In range, the halves are a signed and an unsigned integer of 64 bits, and nothing is lost. -/
theorem nativeToScVal_i128 {n : ℤ} (hmin : -2 ^ 127 ≤ n) (hmax : n < 2 ^ 127) :
    ∃ hi lo, nativeToScVal (.i128 n) = .i128 hi lo ∧ n = hi * 2 ^ 64 + lo ∧
      -2 ^ 63 ≤ hi ∧ hi < 2 ^ 63 ∧ lo < 2 ^ 64 := by
  have hlow : ((n % 2 ^ 64).toNat : ℤ) = n % 2 ^ 64 := Int.toNat_of_nonneg (by omega)
  refine ⟨n / 2 ^ 64, (n % 2 ^ 64).toNat, rfl, ?_, ?_, ?_, ?_⟩
  · rw [hlow]
    omega
  · omega
  · omega
  · omega

/-- The settings of the SDK that `create_sla` needs. -/
structure SdkConfig where
  slaVaultContractId : JsString

/-- The arguments of `buildInvokeTx`. -/
structure InvokeTx where
  callerAddress : JsString
  contractId : JsString
  method : String
  args : List ScVal
  deriving DecidableEq

/-! ### `buildCreateSlaTx` -/

structure CreateSlaParams where
  provider : JsString
  token : JsString
  endpointUrl : Option JsString := none
  endpointHash : Option (List UInt8) := none
  bondAmount : ℤ
  uptimeTargetBps : JsNumber
  quorumThreshold : JsNumber
  penaltyPerBreach : ℤ
  beneficiary : JsString

def resolveEndpointHash (lib : SdkLib) (endpointUrl : Option JsString)
    (endpointHash : Option (List UInt8)) : Except InvalidSdkInputError (List UInt8) :=
  match endpointUrl, endpointHash with
  | none, none | some _, some _ =>
    .error ⟨"endpointUrl/endpointHash",
      "exactly one of endpointUrl or endpointHash must be provided."⟩
  | some url, none => computeEndpointHash lib url "endpointUrl"
  | none, some hash =>
    if hash.length ≠ 32 then .error ⟨"endpointHash", "must be exactly 32 bytes."⟩ else .ok hash

def buildCreateSlaTx (lib : SdkLib) (config : SdkConfig) (params : CreateSlaParams) :
    Except InvalidSdkInputError InvokeTx := do
  assertAddress lib params.provider "provider"
  assertContractId lib params.token "token"
  assertAddress lib params.beneficiary "beneficiary"
  assertPositiveAmount params.bondAmount "bondAmount"
  assertPositiveAmount params.penaltyPerBreach "penaltyPerBreach"
  assertU32 params.uptimeTargetBps "uptimeTargetBps" 1 maxBps
  assertU32 params.quorumThreshold "quorumThreshold" 1 maxU32
  let endpointHash ← resolveEndpointHash lib params.endpointUrl params.endpointHash
  return {
    callerAddress := params.provider
    contractId := config.slaVaultContractId
    method := "create_sla"
    args := [nativeToScVal (.address params.provider), nativeToScVal (.address params.token),
      nativeToScVal (.bytes endpointHash), nativeToScVal (.i128 params.bondAmount),
      nativeToScVal (.u32 params.uptimeTargetBps), nativeToScVal (.u32 params.quorumThreshold),
      nativeToScVal (.i128 params.penaltyPerBreach), nativeToScVal (.address params.beneficiary)] }

/-! ### What passes -/

/-- `assertAddress` accepts it. -/
def IsAddress (lib : SdkLib) (a : JsString) : Prop :=
  lib.isValidEd25519PublicKey a = true ∨ lib.isValidContract a = true

/-- What the checks demand of parameters with the hash of an endpoint. -/
structure IsCreatable (lib : SdkLib) (provider token : JsString) (hash : List UInt8)
    (bond penalty : ℤ) (bps quorum : ℕ) (beneficiary : JsString) : Prop where
  provider : IsAddress lib provider
  token : lib.isValidContract token = true
  beneficiary : IsAddress lib beneficiary
  bond_pos : 0 < bond
  bond_le : bond ≤ maxI128
  penalty_pos : 0 < penalty
  penalty_le : penalty ≤ maxI128
  bps_pos : 1 ≤ bps
  bps_le : bps ≤ maxBps
  quorum_pos : 1 ≤ quorum
  quorum_le : quorum ≤ maxU32
  hash_length : hash.length = 32

/-- Such parameters pass, and are encoded as they are. -/
theorem buildCreateSlaTx_eq_ok {lib : SdkLib} {provider token : JsString} {hash : List UInt8}
    {bond penalty : ℤ} {bps quorum : ℕ} {beneficiary : JsString} (config : SdkConfig)
    (h : IsCreatable lib provider token hash bond penalty bps quorum beneficiary) :
    buildCreateSlaTx lib config
        { provider := provider, token := token, endpointHash := some hash, bondAmount := bond,
          uptimeTargetBps := bps, quorumThreshold := quorum, penaltyPerBreach := penalty,
          beneficiary := beneficiary } =
      .ok ⟨provider, config.slaVaultContractId, "create_sla",
        [.address provider, .address token, .bytes hash, nativeToScVal (.i128 bond), .u32 bps,
          .u32 quorum, nativeToScVal (.i128 penalty), .address beneficiary]⟩ := by
  have hresolve : resolveEndpointHash lib none (some hash) = .ok hash := by
    rw [resolveEndpointHash, if_neg (not_not.mpr h.hash_length)]
  simp only [buildCreateSlaTx]
  rw [assertAddress_eq_ok h.provider, assertContractId_eq_ok h.token,
    assertAddress_eq_ok h.beneficiary, assertPositiveAmount_eq_ok h.bond_pos h.bond_le,
    assertPositiveAmount_eq_ok h.penalty_pos h.penalty_le, assertU32_eq_ok h.bps_pos h.bps_le,
    assertU32_eq_ok h.quorum_pos h.quorum_le, hresolve]
  rfl

end Sdk

end SlaSettle
