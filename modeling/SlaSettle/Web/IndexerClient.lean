import SlaSettle.Js.Decimal
import SlaSettle.Js.Json

/-!
# The indexer client

`getSettlements` and `getProviderSlas` of `lib/indexer.ts`, with the checks they run on a response.
Each field has one check, which either returns the value or throws an `IndexerResponseError` that
names the field; `envelope` applies them to every item of a page.

The request itself is any function from a path to a body or an error: `indexerGet` turns whatever
goes wrong there into an error before the body is looked at.
-/

namespace SlaSettle

namespace Web

open Js

/-! ### Errors and library functions -/

/-- What the client throws. -/
inductive IndexerError where
  | missingConfig
  | unavailable (endpoint reason : String)
  | api (endpoint : String) (status : ℕ) (statusText : String)
  /-- `IndexerResponseError`: the body did not match the documented schema. -/
  | response (endpoint detail : String)
  | range (message : String)
  deriving DecidableEq

/-- A parsed URL, as far as this code looks into it. -/
structure ParsedUrl where
  protocol : String
  href : String

/-- The library functions the checks call. -/
structure ClientLib where
  /-- `StrKey.isValidEd25519PublicKey` -/
  isValidEd25519PublicKey : String → Bool
  /-- `StrKey.isValidContract` -/
  isValidContract : String → Bool
  /-- `new URL(text)`, which may throw -/
  parseURL : String → Option ParsedUrl
  /-- Whether `Date.parse` reads a text that is not in the date-time format. -/
  readsOtherDate : String → Bool
  /-- `String(n)` -/
  numberText : JsNumber → String
  /-- `new URLSearchParams(params).toString()` -/
  formEncode : List (String × String) → String

/-- What is documented of them: a Stellar address has 56 characters, and the URL of a transaction
is `https` and already in the form it is written back in. -/
structure ClientLib.Documented (lib : ClientLib) : Prop where
  length_ed25519 : ∀ text, lib.isValidEd25519PublicKey text = true → text.length = 56
  length_contract : ∀ text, lib.isValidContract text = true → text.length = 56
  parseURL_explorer : ∀ hash : String, hash.length = 64 →
    (∀ c ∈ hash.toList, c.isDigit || ('a' ≤ c && c ≤ 'f') || ('A' ≤ c && c ≤ 'F')) →
    lib.parseURL ("https://stellar.expert/explorer/testnet/tx/" ++ hash) =
      some ⟨"https:", "https://stellar.expert/explorer/testnet/tx/" ++ hash⟩

/-- `!Number.isNaN(Date.parse(text))`. -/
def ClientLib.readsDate (lib : ClientLib) (text : String) : Bool :=
  isDateTime text || lib.readsOtherDate text

/-- `StrKey.isValidEd25519PublicKey(text) || StrKey.isValidContract(text)`. -/
def ClientLib.isAddress (lib : ClientLib) (text : String) : Bool :=
  lib.isValidEd25519PublicKey text || lib.isValidContract text

/-! ### Response validation -/

/-- The properties of an object. -/
abbrev Fields : Type := List (String × Json)

/-- A check: a value, or an error. -/
abbrev Checked (α : Type) : Type := Except IndexerError α

def asObject (value : Json) (endpoint what : String) : Checked Fields :=
  match value with
  | .object fields => .ok fields
  | _ => .error (.response endpoint s!"{what} is not an object.")

def str (fields : Fields) (key endpoint : String) : Checked String :=
  match fields.lookup key with
  | some (.string value) =>
    if value = "" then .error (.response endpoint s!"\"{key}\" is not a non-empty string.")
    else .ok value
  | _ => .error (.response endpoint s!"\"{key}\" is not a non-empty string.")

def nonNegativeInt (fields : Fields) (key endpoint : String) : Checked ℕ :=
  match fields.lookup key with
  | some (.number value) =>
    match (JsNumber.finite value).safeInteger? with
    | some n => .ok n
    | none => .error (.response endpoint s!"\"{key}\" is not a non-negative integer.")
  | _ => .error (.response endpoint s!"\"{key}\" is not a non-negative integer.")

/-- An `i128` amount, which the API serializes as a decimal string. -/
def amount (fields : Fields) (key endpoint : String) : Checked ℤ :=
  match fields.lookup key with
  | some (.string value) =>
    if isDecimal value then .ok (bigInt value)
    else .error (.response endpoint s!"\"{key}\" is not a decimal string.")
  | _ => .error (.response endpoint s!"\"{key}\" is not a decimal string.")

def timestamp (lib : ClientLib) (fields : Fields) (key endpoint : String) : Checked String := do
  let value ← str fields key endpoint
  if lib.readsDate value then return value
  else throw (.response endpoint s!"\"{key}\" is not a timestamp.")

def stellarAddress (lib : ClientLib) (fields : Fields) (key endpoint : String) :
    Checked String := do
  let value ← str fields key endpoint
  if lib.isAddress value then return value
  else throw (.response endpoint s!"\"{key}\" is not a Stellar address.")

/-- A hexadecimal digit, of either case. -/
def isHexDigit (c : Char) : Bool := c.isDigit || ('a' ≤ c && c ≤ 'f') || ('A' ≤ c && c ≤ 'F')

/-- `/^[0-9a-fA-F]{64}$/`. -/
def txHashPattern : Regex Char := .whole (.times isHexDigit 64)

def txHash (fields : Fields) (key endpoint : String) : Checked String := do
  let value ← str fields key endpoint
  if txHashPattern.test value.toList then return value.map Char.toLower
  else throw (.response endpoint s!"\"{key}\" is not a 64-character transaction hash.")

def httpsUrl (lib : ClientLib) (fields : Fields) (key endpoint : String) : Checked String := do
  let value ← str fields key endpoint
  match lib.parseURL value with
  | none => throw (.response endpoint s!"\"{key}\" is not a URL.")
  | some parsed =>
    if parsed.protocol = "https:" then return parsed.href
    else throw (.response endpoint s!"\"{key}\" is not an https URL.")

structure PagedResult (α : Type) where
  data : List α
  nextCursor : Option String

/-- Check the items of a page, in order. -/
def parseItems {α : Type} (endpoint : String) (parseItem : Fields → Checked α) :
    ℕ → List Json → Checked (List α)
  | _, [] => return []
  | index, item :: items => do
    let value ← parseItem (← asObject item endpoint s!"data[{index}]")
    return value :: (← parseItems endpoint parseItem (index + 1) items)

def envelope {α : Type} (body : Json) (endpoint : String) (parseItem : Fields → Checked α) :
    Checked (PagedResult α) := do
  let page ← asObject body endpoint "the response"
  match page.lookup "data" with
  | some (.array items) =>
    match page.lookup "next_cursor" with
    | some .null => return ⟨← parseItems endpoint parseItem 0 items, none⟩
    | some (.string cursor) => return ⟨← parseItems endpoint parseItem 0 items, some cursor⟩
    | _ => throw (.response endpoint "\"next_cursor\" is neither null nor a string.")
  | _ => throw (.response endpoint "\"data\" is not an array.")

def checkSlaId (slaId : ℤ) : Checked String :=
  if slaId < 0 then .error (.range "slaId must be a non-negative bigint.")
  else .ok (toString slaId)

/-! ### Requests -/

/-- What a request is answered with: a body, or an error. -/
abbrev IndexerGet : Type := String → Checked Json

structure IndexedSettlement where
  roundId : ℤ
  votesUp : ℕ
  votesDown : ℕ
  quorumThreshold : ℕ
  penaltyAmount : ℤ
  beneficiary : String
  txHash : String
  ledgerCloseTime : String
  explorerUrl : String
  deriving DecidableEq

/-- One item of a page of settlements. -/
def parseSettlement (lib : ClientLib) (endpoint : String) (s : Fields) :
    Checked IndexedSettlement := do
  let roundId ← nonNegativeInt s "round_id" endpoint
  let votesUp ← nonNegativeInt s "votes_up" endpoint
  let votesDown ← nonNegativeInt s "votes_down" endpoint
  let quorumThreshold ← nonNegativeInt s "quorum_threshold" endpoint
  let penaltyAmount ← amount s "penalty_amount" endpoint
  let beneficiary ← stellarAddress lib s "beneficiary" endpoint
  let hash ← txHash s "tx_hash" endpoint
  let ledgerCloseTime ← timestamp lib s "ledger_close_time" endpoint
  let explorerUrl ← httpsUrl lib s "explorer_url" endpoint
  return ⟨roundId, votesUp, votesDown, quorumThreshold, penaltyAmount, beneficiary, hash,
    ledgerCloseTime, explorerUrl⟩

/-- The options of `getSettlements`. -/
structure SettlementsOptions where
  limit : Option JsNumber
  before : Option String

/-- The query of a request, empty when there are no options. -/
def SettlementsOptions.query (lib : ClientLib) (options : SettlementsOptions) : String :=
  let params := (options.limit.toList.map fun n => ("limit", lib.numberText n)) ++
    options.before.toList.map fun cursor => ("before", cursor)
  if params = [] then "" else "?" ++ lib.formEncode params

/-- The limits `getSettlements` refuses. -/
def SettlementsOptions.badLimit (options : SettlementsOptions) : Bool :=
  options.limit.any fun n => !n.isInteger || n.lt 1

def getSettlements (lib : ClientLib) (indexerGet : IndexerGet) (slaId : ℤ)
    (options : SettlementsOptions) : Checked (PagedResult IndexedSettlement) := do
  if options.badLimit then throw (.range "limit must be a positive integer.")
  let endpoint := "/v1/slas/" ++ (← checkSlaId slaId) ++ "/settlements" ++ options.query lib
  envelope (← indexerGet endpoint) endpoint (parseSettlement lib endpoint)

structure ProviderSlaSummary where
  slaId : ℤ
  token : String
  bondAmountAtCreation : ℤ
  beneficiary : String
  createdAt : String
  txHash : String
  deriving DecidableEq

/-- One item of a page of provider SLAs. -/
def parseProviderSla (lib : ClientLib) (endpoint : String) (s : Fields) :
    Checked ProviderSlaSummary := do
  let slaId ← nonNegativeInt s "sla_id" endpoint
  let token ← stellarAddress lib s "token" endpoint
  let bondAmountAtCreation ← amount s "bond_amount_at_creation" endpoint
  let beneficiary ← stellarAddress lib s "beneficiary" endpoint
  let createdAt ← timestamp lib s "created_at" endpoint
  let hash ← txHash s "tx_hash" endpoint
  return ⟨slaId, token, bondAmountAtCreation, beneficiary, createdAt, hash⟩

def getProviderSlas (lib : ClientLib) (indexerGet : IndexerGet) (address : String) :
    Checked (PagedResult ProviderSlaSummary) := do
  if !lib.isValidEd25519PublicKey address then
    throw (.range "address must be a valid Stellar account address (G...).")
  let endpoint := "/v1/providers/" ++ address ++ "/slas"
  envelope (← indexerGet endpoint) endpoint (parseProviderSla lib endpoint)

/-! ### What the checks accept -/

section

variable {lib : ClientLib} {fields : Fields} {key endpoint : String}

theorem str_eq_ok_iff {value : String} :
    str fields key endpoint = .ok value ↔
      fields.lookup key = some (.string value) ∧ value ≠ "" := by
  rw [str]
  split
  · rename_i text hlookup
    rw [hlookup]
    by_cases hempty : text = ""
    · simp only [hempty, if_true, reduceCtorEq, Option.some.injEq, Json.string.injEq, false_iff]
      rintro ⟨rfl, hne⟩
      exact hne rfl
    · simp only [hempty, if_false, Except.ok.injEq, Option.some.injEq, Json.string.injEq]
      constructor
      · rintro rfl
        exact ⟨rfl, hempty⟩
      · exact And.left
  · rename_i hother
    exact iff_of_false nofun fun h => hother _ h.1

theorem nonNegativeInt_eq_ok_iff {n : ℕ} :
    nonNegativeInt fields key endpoint = .ok n ↔
      fields.lookup key = some (.number n) ∧ n < 2 ^ 53 := by
  rw [nonNegativeInt]
  split
  · rename_i value hlookup
    rw [hlookup]
    have hsafe : (JsNumber.finite value).safeInteger? = some n ↔ value = n ∧ n < 2 ^ 53 := by
      rw [JsNumber.safeInteger?_eq_some_iff, JsNumber.natCast_eq, JsNumber.finite.injEq]
    rw [Option.some.injEq, Json.number.injEq, ← hsafe]
    split
    · rename_i m hm
      rw [hm, Except.ok.injEq, Option.some.injEq]
    · rename_i hnone
      simp [hnone]
  · rename_i hother
    exact iff_of_false nofun fun h => hother _ h.1

theorem amount_eq_ok_iff {n : ℤ} :
    amount fields key endpoint = .ok n ↔
      ∃ text, fields.lookup key = some (.string text) ∧ isDecimal text = true ∧
        bigInt text = n := by
  rw [amount]
  split
  · rename_i text hlookup
    rw [hlookup]
    by_cases hdecimal : isDecimal text = true
    · simp [hdecimal]
    · simp [hdecimal]
  · rename_i hother
    refine iff_of_false nofun ?_
    rintro ⟨text, htext, -⟩
    exact hother _ htext

/-- The checks that run `str` and then test the value share their reading. -/
private theorem bind_str_eq_ok_iff {α : Type} {f : String → Checked α} {a : α} :
    (str fields key endpoint >>= f) = .ok a ↔
      ∃ value, fields.lookup key = some (.string value) ∧ value ≠ "" ∧ f value = .ok a := by
  rw [bind_eq_ok_iff]
  simp only [str_eq_ok_iff, and_assoc]

theorem timestamp_eq_ok_iff {value : String} :
    timestamp lib fields key endpoint = .ok value ↔
      fields.lookup key = some (.string value) ∧ value ≠ "" ∧ lib.readsDate value = true := by
  rw [timestamp, bind_str_eq_ok_iff]
  constructor
  · rintro ⟨text, hlookup, hne, htest⟩
    split at htest
    · obtain rfl := pure_eq_ok_iff.mp htest
      exact ⟨hlookup, hne, by assumption⟩
    · cases htest
  · rintro ⟨hlookup, hne, htest⟩
    exact ⟨value, hlookup, hne, by rw [if_pos htest]; rfl⟩

theorem stellarAddress_eq_ok_iff {value : String} :
    stellarAddress lib fields key endpoint = .ok value ↔
      fields.lookup key = some (.string value) ∧ value ≠ "" ∧ lib.isAddress value = true := by
  rw [stellarAddress, bind_str_eq_ok_iff]
  constructor
  · rintro ⟨text, hlookup, hne, htest⟩
    split at htest
    · obtain rfl := pure_eq_ok_iff.mp htest
      exact ⟨hlookup, hne, by assumption⟩
    · cases htest
  · rintro ⟨hlookup, hne, htest⟩
    exact ⟨value, hlookup, hne, by rw [if_pos htest]; rfl⟩

theorem txHash_eq_ok_iff {hash : String} :
    txHash fields key endpoint = .ok hash ↔
      ∃ value, fields.lookup key = some (.string value) ∧ value.toList.length = 64 ∧
        (∀ c ∈ value.toList, isHexDigit c = true) ∧ value.map Char.toLower = hash := by
  rw [txHash, bind_str_eq_ok_iff]
  refine exists_congr fun value => ?_
  by_cases htest : txHashPattern.test value.toList = true
  · obtain ⟨hlen, hdigits⟩ := Regex.test_whole_times.mp htest
    have hne : value ≠ "" := by
      rintro rfl
      cases hlen
    rw [if_pos htest, pure_eq_ok_iff]
    exact ⟨fun ⟨hlookup, _, hhash⟩ => ⟨hlookup, hlen, hdigits, hhash⟩,
      fun ⟨hlookup, _, _, hhash⟩ => ⟨hlookup, hne, hhash⟩⟩
  · rw [if_neg htest]
    refine iff_of_false ?_ ?_
    · rintro ⟨-, -, h⟩
      cases h
    · rintro ⟨-, hlen, hdigits, -⟩
      exact htest (Regex.test_whole_times.mpr ⟨hlen, hdigits⟩)

theorem httpsUrl_eq_ok_iff {href : String} :
    httpsUrl lib fields key endpoint = .ok href ↔
      ∃ value, fields.lookup key = some (.string value) ∧ value ≠ "" ∧
        lib.parseURL value = some ⟨"https:", href⟩ := by
  rw [httpsUrl, bind_str_eq_ok_iff]
  refine exists_congr fun value => and_congr_right fun _ => and_congr_right fun _ => ?_
  cases hparse : lib.parseURL value with
  | none => simp [throw, throwThe, MonadExceptOf.throw]
  | some parsed =>
    obtain ⟨protocol, text⟩ := parsed
    by_cases hhttps : protocol = "https:"
    · simp [hhttps, pure_eq_ok_iff]
    · simp [hhttps, throw, throwThe, MonadExceptOf.throw]

/-- The items of a page are checked one by one. -/
theorem parseItems_eq_ok_iff {α : Type} {parseItem : Fields → Checked α} {index : ℕ}
    {items : List Json} {values : List α} :
    parseItems endpoint parseItem index items = .ok values ↔
      List.Forall₂ (fun item value => ∃ fields, item = .object fields ∧
        parseItem fields = .ok value) items values := by
  induction items generalizing index values with
  | nil =>
    rw [parseItems, pure_eq_ok_iff, List.forall₂_nil_left_iff, eq_comm]
  | cons item items ih =>
    rw [List.forall₂_cons_left_iff]
    simp only [parseItems, bind_eq_ok_iff, pure_eq_ok_iff, ih]
    constructor
    · rintro ⟨fields, hobject, value, hitem, rest, hrest, rfl⟩
      cases item with
      | object f =>
        obtain rfl := Except.ok.inj hobject
        exact ⟨value, rest, ⟨f, rfl, hitem⟩, hrest, rfl⟩
      | _ => cases hobject
    · rintro ⟨value, rest, ⟨fields, rfl, hitem⟩, hrest, rfl⟩
      exact ⟨fields, rfl, value, hitem, rest, hrest, rfl⟩

/-- **What a page is accepted as.** -/
theorem envelope_eq_ok_iff {α : Type} {parseItem : Fields → Checked α} {items : List Json}
    {cursor : Option String} {page : PagedResult α} :
    envelope (.object [("data", .array items), ("next_cursor", .ofNullable .string cursor)])
        endpoint parseItem = .ok page ↔
      List.Forall₂ (fun item value => ∃ fields, item = .object fields ∧
        parseItem fields = .ok value) items page.data ∧ page.nextCursor = cursor := by
  have hcursor : envelope (.object [("data", .array items),
      ("next_cursor", .ofNullable .string cursor)]) endpoint parseItem =
      (parseItems endpoint parseItem 0 items >>= fun data => return ⟨data, cursor⟩) := by
    cases cursor <;> rfl
  obtain ⟨data, nextCursor⟩ := page
  rw [hcursor]
  simp only [bind_eq_ok_iff, pure_eq_ok_iff, parseItems_eq_ok_iff, PagedResult.mk.injEq]
  constructor
  · rintro ⟨data, hdata, rfl, rfl⟩
    exact ⟨hdata, rfl⟩
  · rintro ⟨hdata, rfl⟩
    exact ⟨data, hdata, rfl, rfl⟩

end

end Web

end SlaSettle
