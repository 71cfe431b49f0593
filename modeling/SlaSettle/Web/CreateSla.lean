import SlaSettle.Sdk.SlaVault
import SlaSettle.Web.Format

/-!
# The form that creates an SLA

`lib/create-sla-validation.ts` and `components/dashboard/create-sla-form.tsx`: what was typed is
checked field by field, first what does not depend on the token, then the amounts, and becomes the
review from which `buildCreateSlaTx` is called.

The form and the SDK check separately. `create_sla_lines_up` says that what the form lets through,
the SDK accepts and encodes within the contract's bounds, exactly as it was typed.
-/

namespace SlaSettle

namespace Web

open Js Sdk

/-! ### Fields -/

structure CreateSlaFormValues where
  endpoint : JsString
  token : JsString
  bondAmount : JsString
  uptimeTargetPercent : JsString
  quorumThreshold : JsString
  penaltyPerBreach : JsString
  beneficiary : JsString

/-- An error text for each field that has one. -/
structure CreateSlaFieldErrors where
  endpoint : Option JsString := none
  token : Option JsString := none
  bondAmount : Option JsString := none
  uptimeTargetPercent : Option JsString := none
  quorumThreshold : Option JsString := none
  penaltyPerBreach : Option JsString := none
  beneficiary : Option JsString := none
  deriving DecidableEq

/-- The error text of a field that was rejected. -/
def errorOf {α : Type} : Except JsString α → Option JsString
  | .error text => some text
  | .ok _ => none

/-- A rejection with a fixed text. -/
def reject {α : Type} (text : String) : Except JsString α := .error (units text)

structure StaticFieldsResult where
  errors : CreateSlaFieldErrors
  endpoint : Option JsString
  endpointHash : Option (List UInt8)
  quorumThreshold : Option JsNumber
  uptimeTargetBps : Option JsNumber

/-- The error of `computeEndpointHash` is shown as one of three texts. -/
def validateEndpoint (lib : SdkLib) (endpoint : JsString) : Except JsString (List UInt8) :=
  match computeEndpointHash lib endpoint "endpoint" with
  | .ok hash => .ok hash
  | .error e =>
    if (trimEndpointInput endpoint).length = 0 then reject "Enter the service endpoint."
    else if (Regex.literal (units "http:// or https://")).test (units e.message) then
      reject "Use an absolute HTTP or HTTPS URL."
    else reject "Enter a valid absolute URL, including http:// or https://."

def validateToken (lib : SdkLib) (token : JsString) : Except JsString Unit :=
  if token = [] then reject "Enter the token contract ID."
  else if !lib.isValidContract token then
    reject "Not a valid token contract ID. It should start with C and be 56 characters."
  else .ok ()

def validateBeneficiary (lib : SdkLib) (beneficiary : JsString) : Except JsString Unit :=
  if beneficiary = [] then reject "Enter the beneficiary address."
  else if !lib.isValidEd25519PublicKey beneficiary && !lib.isValidContract beneficiary then
    reject "Not a valid Stellar address. It should start with G (or C for a contract)."
  else .ok ()

/-- `/^\d+$/` -/
def wholeNumberPattern : Regex UInt16 := .whole (.plus isDigitUnit)

def validateQuorum (quorum : JsString) : Except JsString JsNumber :=
  if quorum = [] then reject "Enter the number of Down votes required."
  else if !wholeNumberPattern.test quorum then reject "Use a whole number, for example 3."
  else
    let parsed := quorum.number
    if parsed.lt 1 then reject "At least 1 Down vote is required."
    else if JsNumber.lt maxU32 parsed then reject "That number is too large."
    else .ok parsed

/-- `/decimal places/.test(err.message)` -/
def mentionsDecimalPlaces (err : InvalidTokenAmountError) : Bool :=
  (Regex.literal (units "decimal places")).test err.message

def validateUptime (uptime : JsString) : Except JsString JsNumber :=
  if uptime = [] then reject "Enter an uptime target, for example 99.90."
  else
    match parseTokenAmount uptime 2 with
    | .ok bps =>
      if bps < 1 then reject "The uptime target must be greater than 0%."
      else if maxBps < bps then reject "The target cannot be more than 100%."
      else .ok (JsNumber.toDouble bps)
    | .error err =>
      if mentionsDecimalPlaces err then reject "Use at most 2 decimal places."
      else reject "Use a number such as 99.90."

def validateStaticFields (lib : SdkLib) (values : CreateSlaFormValues) : StaticFieldsResult :=
  let token := values.token.trim
  let beneficiary := values.beneficiary.trim
  let endpointHash := validateEndpoint lib values.endpoint
  let quorumThreshold := validateQuorum values.quorumThreshold.trim
  let uptimeTargetBps := validateUptime values.uptimeTargetPercent.trim
  { errors :=
      { endpoint := errorOf endpointHash
        token := errorOf (validateToken lib token)
        beneficiary := errorOf (validateBeneficiary lib beneficiary)
        quorumThreshold := errorOf quorumThreshold
        uptimeTargetPercent := errorOf uptimeTargetBps }
    endpoint := some (trimEndpointInput values.endpoint)
    endpointHash := endpointHash.toOption
    quorumThreshold := quorumThreshold.toOption
    uptimeTargetBps := uptimeTargetBps.toOption }

/-! ### Amounts -/

structure AmountFieldsResult where
  errors : CreateSlaFieldErrors
  bondAmount : Option ℤ
  penaltyPerBreach : Option ℤ

def parsePositiveAmount (input : JsString) (decimals : ℕ) (label : String) : Except JsString ℤ :=
  if input.trim = [] then reject s!"Enter the {label}."
  else
    match parseTokenAmount input decimals with
    | .error err =>
      if mentionsDecimalPlaces err then
        if decimals = 0 then reject "This token has no decimal places. Use a whole number."
        else reject s!"This token supports at most {decimals} decimal places."
      else reject "Use a plain number such as 1000.50."
    | .ok value =>
      if value ≤ 0 then reject "The amount must be greater than zero."
      else if maxI128 < value then reject "That amount is larger than the contract can store."
      else .ok value

def validateAmounts (values : CreateSlaFormValues) (decimals : ℕ) (symbol : JsString) :
    AmountFieldsResult :=
  let bond := parsePositiveAmount values.bondAmount decimals "bond amount"
  let penalty := parsePositiveAmount values.penaltyPerBreach decimals "penalty per breach"
  let penaltyError :=
    match bond, penalty with
    | .ok bond, .ok penalty =>
      if bond < penalty then
        some (units "The penalty cannot exceed the bond (" ++ formatTokenAmount bond decimals ++
          units " " ++ symbol ++ units ").")
      else none
    | _, _ => errorOf penalty
  { errors := { bondAmount := errorOf bond, penaltyPerBreach := penaltyError }
    bondAmount := bond.toOption
    penaltyPerBreach := penalty.toOption }

/-! ### The form -/

/-- What is shown for review. The fields that the source marks as present with `!` may be missing as
far as the types go. -/
structure CreateSlaReview where
  endpointHash : Option (List UInt8)
  token : JsString
  bondAmount : Option ℤ
  uptimeTargetBps : Option JsNumber
  quorumThreshold : Option JsNumber
  penaltyPerBreach : Option ℤ
  beneficiary : JsString
  tokenDecimals : ℕ
  tokenSymbol : JsString
  deriving DecidableEq

inductive Submitted where
  | fieldErrors (errors : CreateSlaFieldErrors)
  | review (review : CreateSlaReview)
  deriving DecidableEq

/-- `handleSubmit`, for what the token answers to `decimals()` and `symbol()`; none where a read
fails. -/
def handleSubmit (lib : SdkLib) (readToken : JsString → Option (ℕ × JsString))
    (values : CreateSlaFormValues) : Submitted :=
  let fields := validateStaticFields lib values
  if fields.errors ≠ {} then .fieldErrors fields.errors
  else
    let token := values.token.trim
    match readToken token with
    | none =>
      .fieldErrors { token := some (units
        ("Could not read decimals() and symbol() from this contract. " ++
          "Check that it is a SEP-41 token on this network.")) }
    | some (decimals, symbol) =>
      let amounts := validateAmounts values decimals symbol
      if amounts.errors ≠ {} then .fieldErrors amounts.errors
      else
        .review
          { endpointHash := fields.endpointHash
            token := token
            bondAmount := amounts.bondAmount
            uptimeTargetBps := fields.uptimeTargetBps
            quorumThreshold := fields.quorumThreshold
            penaltyPerBreach := amounts.penaltyPerBreach
            beneficiary := values.beneficiary.trim
            tokenDecimals := decimals
            tokenSymbol := symbol }

/-- The parameters with which `confirmCreate` calls `buildCreateSlaTx`, if none is missing. -/
def CreateSlaReview.createSlaParams (review : CreateSlaReview) (provider : JsString) :
    Option CreateSlaParams := do
  let endpointHash ← review.endpointHash
  let bondAmount ← review.bondAmount
  let uptimeTargetBps ← review.uptimeTargetBps
  let quorumThreshold ← review.quorumThreshold
  let penaltyPerBreach ← review.penaltyPerBreach
  return {
    provider := provider
    token := review.token
    endpointHash := some endpointHash
    bondAmount := bondAmount
    uptimeTargetBps := uptimeTargetBps
    quorumThreshold := quorumThreshold
    penaltyPerBreach := penaltyPerBreach
    beneficiary := review.beneficiary }

/-! ### What each check lets through -/

section

variable {lib : SdkLib}

theorem errorOf_eq_none_iff {α : Type} {r : Except JsString α} :
    errorOf r = none ↔ ∃ a, r = .ok a := by
  constructor
  · intro h
    rcases r with text | a
    · exact absurd h (Option.some_ne_none text)
    · exact ⟨a, rfl⟩
  · rintro ⟨a, rfl⟩
    rfl

theorem reject_ne_ok {α : Type} {text : String} {a : α} : reject text ≠ .ok a := nofun

theorem of_validateEndpoint_eq_ok {endpoint : JsString} {hash : List UInt8}
    (h : validateEndpoint lib endpoint = .ok hash) : hash.length = 32 := by
  unfold validateEndpoint at h
  split at h
  · rename_i hash' hcompute
    obtain ⟨-, hhash⟩ := computeEndpointHash_eq_ok_iff.mp hcompute
    rw [← Except.ok.inj h, hhash]
    exact (lib.sha256 _).property
  · unfold reject at h
    split_ifs at h

theorem of_validateToken_eq_ok {token : JsString} (h : validateToken lib token = .ok ()) :
    lib.isValidContract token = true := by
  unfold validateToken reject at h
  split_ifs at h with hempty hvalid
  simpa using hvalid

theorem of_validateBeneficiary_eq_ok {beneficiary : JsString}
    (h : validateBeneficiary lib beneficiary = .ok ()) : IsAddress lib beneficiary := by
  unfold validateBeneficiary reject at h
  split_ifs at h with hempty hvalid
  rw [IsAddress]
  by_contra hneither
  rw [not_or] at hneither
  exact hvalid (by simp [hneither])

/-- A quorum is the number that was typed. -/
theorem of_validateQuorum_eq_ok {quorum : JsString} {a : JsNumber}
    (h : validateQuorum quorum = .ok a) :
    a = (quorum.digits : JsNumber) ∧ 1 ≤ quorum.digits ∧ quorum.digits ≤ maxU32 := by
  simp only [validateQuorum, reject] at h
  split_ifs at h with hempty hpattern hlow hhigh
  have hdigits : ∀ u ∈ quorum, isDigitUnit u = true := by
    have htest : wholeNumberPattern.test quorum = true := by simpa using hpattern
    exact (Regex.test_whole_plus.mp htest).2
  rw [JsString.number_eq_toDouble hempty hdigits] at h hlow hhigh
  obtain ⟨hvalue, hle⟩ :=
    JsNumber.toDouble_of_not_lt (by decide) (eq_false_of_ne_true hhigh)
  rw [hvalue] at h hlow
  refine ⟨(Except.ok.inj h).symm, ?_, hle⟩
  by_contra hzero
  exact hlow (JsNumber.lt_natCast_iff (n := 1) |>.mpr (not_le.mp hzero))

/-- A target is a hundred times the percentage that was typed. -/
theorem of_validateUptime_eq_ok {uptime : JsString} {a : JsNumber}
    (h : validateUptime uptime = .ok a) :
    ∃ bps : ℕ, a = (bps : JsNumber) ∧ 1 ≤ bps ∧ bps ≤ maxBps ∧
      (bps : ℚ) = decimalValue uptime.trim * 100 := by
  unfold validateUptime at h
  split at h
  · exact absurd h reject_ne_ok
  split at h
  · rename_i bps hparse
    obtain ⟨-, -, -, -, hvalue⟩ := parseTokenAmount_eq_ok_iff.mp hparse
    unfold reject at h
    split_ifs at h with hlow hhigh
    obtain ⟨n, rfl⟩ : ∃ n : ℕ, bps = n := Int.eq_ofNat_of_zero_le (by omega)
    have hn : n ≤ maxBps := by exact_mod_cast not_lt.mp hhigh
    have hsmall : n < 2 ^ 53 := lt_of_le_of_lt hn (by decide)
    refine ⟨n, ?_, by omega, hn, ?_⟩
    · rw [← Except.ok.inj h]
      exact JsNumber.toDouble_natCast hsmall
    · have hsquare : (10 : ℚ) ^ 2 = 100 := by norm_num
      rw [hsquare] at hvalue
      exact_mod_cast hvalue
  · unfold reject at h
    split_ifs at h

/-- An amount is the one that was typed, in smallest units. -/
theorem of_parsePositiveAmount_eq_ok {input : JsString} {decimals : ℕ} {label : String} {n : ℤ}
    (h : parsePositiveAmount input decimals label = .ok n) :
    0 < n ∧ n ≤ maxI128 ∧ (n : ℚ) = decimalValue input.trim * 10 ^ decimals := by
  unfold parsePositiveAmount at h
  split at h
  · exact absurd h reject_ne_ok
  split at h
  · unfold reject at h
    split_ifs at h
  · rename_i value hparse
    obtain ⟨-, -, -, -, hvalue⟩ := parseTokenAmount_eq_ok_iff.mp hparse
    unfold reject at h
    split_ifs at h with hlow hhigh
    obtain rfl := Except.ok.inj h
    exact ⟨not_le.mp hlow, not_lt.mp hhigh, hvalue⟩

/-- Without an error text, both amounts were let through, and the penalty is within the bond. -/
theorem of_validateAmounts_errors_eq {values : CreateSlaFormValues} {decimals : ℕ}
    {symbol : JsString} (h : (validateAmounts values decimals symbol).errors = {}) :
    ∃ bond penalty,
      parsePositiveAmount values.bondAmount decimals "bond amount" = .ok bond ∧
      parsePositiveAmount values.penaltyPerBreach decimals "penalty per breach" = .ok penalty ∧
      penalty ≤ bond := by
  obtain ⟨bond, hbond⟩ := errorOf_eq_none_iff.mp (congrArg CreateSlaFieldErrors.bondAmount h)
  have hpenaltyError := congrArg CreateSlaFieldErrors.penaltyPerBreach h
  simp only [validateAmounts, hbond] at hpenaltyError
  -- the text of the penalty is about its own check or about the bond
  split at hpenaltyError
  · rename_i bond' penalty hbond' hpenalty
    obtain rfl := Except.ok.inj hbond'
    refine ⟨bond, penalty, hbond, hpenalty, ?_⟩
    split_ifs at hpenaltyError with hexceeds
    exact not_lt.mp hexceeds
  · rename_i hneither
    obtain ⟨penalty, hpenalty⟩ := errorOf_eq_none_iff.mp hpenaltyError
    exact absurd hpenalty (hneither bond penalty rfl)

end

/-! ### The form, the SDK and the contract -/

/-- The contract's bounds, and that the numbers are those that were typed. -/
structure AsTyped (values : CreateSlaFormValues) (decimals : ℕ) (bond penalty : ℤ)
    (bps quorum : ℕ) : Prop where
  penalty_pos : 0 < penalty
  penalty_le_bond : penalty ≤ bond
  bond_le : bond ≤ 2 ^ 127 - 1
  bps_pos : 1 ≤ bps
  bps_le : bps ≤ 10000
  quorum_pos : 1 ≤ quorum
  quorum_le : quorum ≤ 2 ^ 32 - 1
  bond_eq : (bond : ℚ) = decimalValue values.bondAmount.trim * 10 ^ decimals
  penalty_eq : (penalty : ℚ) = decimalValue values.penaltyPerBreach.trim * 10 ^ decimals
  bps_eq : (bps : ℚ) = decimalValue values.uptimeTargetPercent.trim * 100
  quorum_eq : quorum = values.quorumThreshold.trim.digits

/-- **The form, the SDK and the contract line up.** If neither check of the form reports an error,
every field is there, and for a valid provider the form calls `buildCreateSlaTx` with parameters
that the SDK accepts. The arguments are within the contract's bounds and exactly what was typed. -/
theorem create_sla_lines_up {lib : SdkLib} {config : SdkConfig} {values : CreateSlaFormValues}
    {decimals : ℕ} {symbol provider : JsString}
    (hstatic : (validateStaticFields lib values).errors = {})
    (hamounts : (validateAmounts values decimals symbol).errors = {})
    (hprovider : IsAddress lib provider) :
    ∃ (hash : List UInt8) (bond penalty : ℤ) (bps quorum : ℕ),
      (validateStaticFields lib values).endpointHash = some hash ∧
      (validateStaticFields lib values).uptimeTargetBps = some (bps : JsNumber) ∧
      (validateStaticFields lib values).quorumThreshold = some (quorum : JsNumber) ∧
      (validateAmounts values decimals symbol).bondAmount = some bond ∧
      (validateAmounts values decimals symbol).penaltyPerBreach = some penalty ∧
      (∀ readToken, readToken values.token.trim = some (decimals, symbol) →
        ∃ review params, handleSubmit lib readToken values = .review review ∧
          review.createSlaParams provider = some params ∧
          buildCreateSlaTx lib config params =
            .ok ⟨provider, config.slaVaultContractId, "create_sla",
              [.address provider, .address values.token.trim, .bytes hash,
                nativeToScVal (.i128 bond), .u32 bps, .u32 quorum, nativeToScVal (.i128 penalty),
                .address values.beneficiary.trim]⟩) ∧
      AsTyped values decimals bond penalty bps quorum := by
  obtain ⟨hash, hendpoint⟩ :=
    errorOf_eq_none_iff.mp (congrArg CreateSlaFieldErrors.endpoint hstatic)
  obtain ⟨_, htoken⟩ := errorOf_eq_none_iff.mp (congrArg CreateSlaFieldErrors.token hstatic)
  obtain ⟨_, hbeneficiary⟩ :=
    errorOf_eq_none_iff.mp (congrArg CreateSlaFieldErrors.beneficiary hstatic)
  obtain ⟨quorum, hquorum⟩ :=
    errorOf_eq_none_iff.mp (congrArg CreateSlaFieldErrors.quorumThreshold hstatic)
  obtain ⟨target, huptime⟩ :=
    errorOf_eq_none_iff.mp (congrArg CreateSlaFieldErrors.uptimeTargetPercent hstatic)
  obtain ⟨bond, penalty, hbond, hpenalty, hle⟩ := of_validateAmounts_errors_eq hamounts
  obtain ⟨rfl, hquorumPos, hquorumLe⟩ := of_validateQuorum_eq_ok hquorum
  obtain ⟨bps, rfl, hbpsPos, hbpsLe, hbpsEq⟩ := of_validateUptime_eq_ok huptime
  obtain ⟨hbondPos, hbondLe, hbondEq⟩ := of_parsePositiveAmount_eq_ok hbond
  obtain ⟨hpenaltyPos, hpenaltyLe, hpenaltyEq⟩ := of_parsePositiveAmount_eq_ok hpenalty
  have hcreatable : IsCreatable lib provider values.token.trim hash bond penalty bps
      values.quorumThreshold.trim.digits values.beneficiary.trim :=
    { provider := hprovider
      token := of_validateToken_eq_ok htoken
      beneficiary := of_validateBeneficiary_eq_ok hbeneficiary
      bond_pos := hbondPos
      bond_le := hbondLe
      penalty_pos := hpenaltyPos
      penalty_le := hpenaltyLe
      bps_pos := hbpsPos
      bps_le := hbpsLe
      quorum_pos := hquorumPos
      quorum_le := hquorumLe
      hash_length := of_validateEndpoint_eq_ok hendpoint }
  have hhashField : (validateStaticFields lib values).endpointHash = some hash := by
    rw [validateStaticFields, hendpoint, Except.toOption]
  have hbpsField : (validateStaticFields lib values).uptimeTargetBps = some (bps : JsNumber) := by
    rw [validateStaticFields, huptime, Except.toOption]
  have hquorumField : (validateStaticFields lib values).quorumThreshold =
      some (values.quorumThreshold.trim.digits : JsNumber) := by
    rw [validateStaticFields, hquorum, Except.toOption]
  have hbondField : (validateAmounts values decimals symbol).bondAmount = some bond := by
    rw [validateAmounts, hbond, Except.toOption]
  have hpenaltyField :
      (validateAmounts values decimals symbol).penaltyPerBreach = some penalty := by
    rw [validateAmounts, hpenalty, Except.toOption]
  refine ⟨hash, bond, penalty, bps, values.quorumThreshold.trim.digits, hhashField, hbpsField,
    hquorumField, hbondField, hpenaltyField, fun readToken hread => ?_, ?_⟩
  · refine ⟨⟨some hash, values.token.trim, some bond, some (bps : JsNumber),
      some (values.quorumThreshold.trim.digits : JsNumber), some penalty, values.beneficiary.trim,
      decimals, symbol⟩, _, ?_, rfl, buildCreateSlaTx_eq_ok config hcreatable⟩
    simp only [handleSubmit]
    rw [if_neg (not_not.mpr hstatic), hread]
    simp only
    rw [if_neg (not_not.mpr hamounts), hhashField, hbpsField, hquorumField, hbondField,
      hpenaltyField]
  · rw [JsString.trim_trim] at hbpsEq
    exact ⟨hpenaltyPos, hle, hbondLe, hbpsPos, hbpsLe, hquorumPos, hquorumLe, hbondEq, hpenaltyEq,
      hbpsEq, rfl⟩

/-! ### A filled-in form -/

private def sampleProvider : JsString :=
  units "GA4WTXER6HGGZUXEPIOFYRTMOM34Q675DEAAK3WLBIO2FY7ENFNNDQHK"

private def sampleToken : JsString :=
  units "CDLZFC3SYJYDZT7K67VZ75HPJVIEUVNIXF47ZG2FB2RMQQVU2HHGCYSC"

private def sampleBeneficiary : JsString :=
  units "GBWM5N2S3A3ZWEHNVTLLKSYRYCQB7ALJL4EOVO5ZFX6TSIZ3ZDED2UPB"

/-- The SHA-256 of the preimage. -/
private def sampleDigest : { b : List UInt8 // b.length = 32 } :=
  ⟨[74, 212, 83, 217, 190, 164, 249, 180, 236, 133, 202, 201, 41, 72, 209, 19, 150, 29, 205, 55,
    158, 41, 175, 160, 73, 196, 86, 1, 138, 81, 112, 203], by decide⟩

private def sampleSdkLib : SdkLib where
  urlHost _ := some (units "api.example.com")
  sha256 _ := sampleDigest
  isValidEd25519PublicKey a := a = sampleProvider || a = sampleBeneficiary
  isValidContract a := a = sampleToken

private def vaultConfig : SdkConfig :=
  ⟨units "CA5R7V5IGMYOBRSAMP4R5MWURSNTY6565NSKEEVR6626PLC3VM2A3EZ2"⟩

private def sampleForm : CreateSlaFormValues where
  endpoint := units " https://api.example.com/health\n"
  token := sampleToken ++ units " "
  bondAmount := units "1000.50"
  uptimeTargetPercent := units "99.9"
  quorumThreshold := units " 3"
  penaltyPerBreach := units ".5"
  beneficiary := sampleBeneficiary

/-- For a token of seven decimals, the form is let through, and these are the arguments. -/
theorem create_sla_lines_up_sample :
    IsAddress sampleSdkLib sampleProvider ∧
      ∃ review params,
        handleSubmit sampleSdkLib (fun _ => some (7, units "XLM")) sampleForm = .review review ∧
        review.createSlaParams sampleProvider = some params ∧
        buildCreateSlaTx sampleSdkLib vaultConfig params =
          .ok ⟨sampleProvider, vaultConfig.slaVaultContractId, "create_sla",
            [.address sampleProvider, .address sampleToken, .bytes sampleDigest.val,
              .i128 0 10005000000, .u32 (9990 : ℕ), .u32 (3 : ℕ), .i128 0 5000000,
              .address sampleBeneficiary]⟩ := by
  have hprovider : IsAddress sampleSdkLib sampleProvider := .inl (by decide +kernel)
  have htoken : sampleForm.token.trim = sampleToken := by decide +kernel
  have hbeneficiary : sampleForm.beneficiary.trim = sampleBeneficiary := by decide +kernel
  obtain ⟨hash, bond, penalty, bps, quorum, hhash, hbps, hquorum, hbond, hpenalty, hform, -⟩ :=
    @create_sla_lines_up sampleSdkLib vaultConfig sampleForm 7 (units "XLM") sampleProvider
      (by decide +kernel) (by decide +kernel) hprovider
  refine ⟨hprovider, ?_⟩
  have hhash' : hash = sampleDigest.val := by
    rw [← Option.some_inj, ← hhash]
    decide +kernel
  have hbps' : (bps : JsNumber) = (9990 : ℕ) := by
    rw [← Option.some_inj, ← hbps]
    decide +kernel
  have hquorum' : (quorum : JsNumber) = (3 : ℕ) := by
    rw [← Option.some_inj, ← hquorum]
    decide +kernel
  have hbond' : bond = 10005000000 := by
    rw [← Option.some_inj, ← hbond]
    decide +kernel
  have hpenalty' : penalty = 5000000 := by
    rw [← Option.some_inj, ← hpenalty]
    decide +kernel
  have hcall := hform (fun _ => some (7, units "XLM")) rfl
  rw [htoken, hbeneficiary, hhash', hbps', hquorum', hbond', hpenalty'] at hcall
  exact hcall

end Web

end SlaSettle
