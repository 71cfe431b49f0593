import SlaSettle.Indexer.Cursor
import SlaSettle.Indexer.Tally

/-!
# The provider endpoint

`GET /v1/providers/:address/slas`, which the Worker and the Node API serve alike: the SLAs of a
provider, newest first, on one page. The rest of the module is what stored rows are worth:
`Stores es db` says that pages of the events `es` were decoded, classified and stored to reach `db`,
in any order and as often as they came, and then every row carries the integers of an event of `es`
in decimal (`Stores.createdAs`, `Stores.paidAs`).
-/

namespace SlaSettle

namespace Indexer

open Js Store

/-! ### The endpoint -/

/-- `SELECT … FROM slas WHERE provider = ? ORDER BY created_at DESC`. -/
def Db.getProviderSlas (db : Db) (address : String) : List SlaRow :=
  (db.slas.rows.filter fun r => r.provider = address).mergeSort fun r r' =>
    !(decide (r.createdAt < r'.createdAt))

/-- One entry of the response's `data`. -/
structure ProviderSlaEntry where
  slaId : JsNumber
  token : String
  endpointHash : String
  bondAmountAtCreation : String
  beneficiary : String
  createdAt : String
  txHash : String

/-- The entry a row is served as. -/
def providerSlaEntry (r : SlaRow) : ProviderSlaEntry where
  slaId := .ofText r.slaId
  token := r.token
  endpointHash := r.endpointHash
  bondAmountAtCreation := r.bondAmountAtCreation
  beneficiary := r.beneficiary
  createdAt := r.createdAt
  txHash := r.txHash

/-- The JSON of an entry. -/
def ProviderSlaEntry.toJson (e : ProviderSlaEntry) : Json :=
  .object [
    ("sla_id", .ofNumber e.slaId),
    ("token", .string e.token),
    ("endpoint_hash", .string e.endpointHash),
    ("bond_amount_at_creation", .string e.bondAmountAtCreation),
    ("beneficiary", .string e.beneficiary),
    ("created_at", .string e.createdAt),
    ("tx_hash", .string e.txHash)]

/-- The body of the response. -/
def providerSlasBody (rows : List SlaRow) : Json :=
  .object [("data", .array (rows.map fun r => (providerSlaEntry r).toJson)), ("next_cursor", .null)]

/-! ### What stored rows carry -/

/-- Pages of the events were decoded, classified and stored, and thresholds cached in between. -/
inductive Stores (es : Emitted) : Db → Prop
  | empty : Stores es Db.empty
  | page {db : Db} {events : Emitted} {batch : ClassifiedBatch} {lastLedger : ℕ}
      {lastCursor : Option String} (before : Stores es db) (subset : events ⊆ es)
      (classified : (events.map fun e => e.2.encode e.1).mapM decodeEvent >>= classifyEvents =
        .ok batch) :
      Stores es (db.applyBatch ⟨batch, lastLedger, lastCursor⟩)
  | cached {db : Db} {slaId : String} {threshold : JsNumber} (before : Stores es db) :
      Stores es (db.setSlaQuorumThreshold slaId threshold)

/-- The row of an SLA that a provider created with an id and a bond. -/
def CreatedAs (es : Emitted) (r : SlaRow) (slaId : ℕ) (bondAmount : ℤ) : Prop :=
  ∃ header provider token endpointHash uptimeTargetBps quorumThreshold penaltyPerBreach beneficiary,
    (header, .slaCreated slaId provider token endpointHash bondAmount uptimeTargetBps
      quorumThreshold penaltyPerBreach beneficiary) ∈ es ∧
    r.slaId = toString slaId ∧ r.provider = provider ∧ r.bondAmountAtCreation = toString bondAmount

/-- The row of a payout for a round. -/
def PaidAs (es : Emitted) (r : SettlementRow) (roundId : ℕ) (payout : ℤ) : Prop :=
  ∃ header slaId beneficiary, (header, .settlementPaid slaId roundId payout beneficiary) ∈ es ∧
    r.eventId = header.id ∧ r.slaId = toString slaId ∧ r.roundId = toString roundId ∧
    r.penaltyAmount = toString payout

/-- A page of emitted events is classified as what they say. -/
theorem classified_ofEvents (events : Emitted) :
    (events.map fun e => e.2.encode e.1).mapM decodeEvent >>= classifyEvents =
      .ok (.ofEvents events.rows) := by
  refine classifyPage_eq_ok_iff.mpr ⟨fun raw hraw => ?_, by rw [history_map_encode]; rfl⟩
  obtain ⟨e, -, rfl⟩ := List.mem_map.mp hraw
  exact readable_encode e.1 e.2

/-- What a page of emitted events is classified as. -/
theorem classified_eq_ofEvents {events : Emitted} {batch : ClassifiedBatch}
    (h : (events.map fun e => e.2.encode e.1).mapM decodeEvent >>= classifyEvents = .ok batch) :
    batch = .ofEvents events.rows :=
  Except.ok.inj (h.symm.trans (classified_ofEvents events))

/-- The row of an `sla_created` event carries its integers. -/
private theorem createdAs_of_mem {es events : Emitted} (hsub : events ⊆ es) {r : SlaRow}
    (hr : r ∈ events.rows.filterMap ContractEvent.sla?) :
    ∃ slaId bondAmount, CreatedAs es r slaId bondAmount := by
  obtain ⟨row, hrow, hsla⟩ := List.mem_filterMap.mp hr
  obtain ⟨⟨header, e⟩, he, rfl⟩ := List.mem_map.mp hrow
  cases e with
  | slaCreated slaId provider token endpointHash bondAmount uptimeTargetBps quorumThreshold
      penaltyPerBreach beneficiary =>
    obtain rfl := Option.some.inj hsla
    exact ⟨slaId, bondAmount, header, provider, token, endpointHash, uptimeTargetBps,
      quorumThreshold, penaltyPerBreach, beneficiary, hsub he, rfl, rfl, rfl⟩
  | _ => cases hsla

/-- The row of a `settlement_paid` event carries its integers. -/
private theorem paidAs_of_mem {es events : Emitted} (hsub : events ⊆ es) {r : SettlementRow}
    (hr : r ∈ events.rows.filterMap ContractEvent.settlement?) :
    ∃ roundId payout, PaidAs es r roundId payout := by
  obtain ⟨row, hrow, hsettlement⟩ := List.mem_filterMap.mp hr
  obtain ⟨⟨header, e⟩, he, rfl⟩ := List.mem_map.mp hrow
  cases e with
  | settlementPaid slaId roundId payout beneficiary =>
    obtain rfl := Option.some.inj hsettlement
    exact ⟨roundId, payout, header, slaId, beneficiary, hsub he, rfl, rfl, rfl, rfl⟩
  | _ => cases hsettlement

/-- **Stored SLAs carry the integers of their events.** -/
theorem Stores.createdAs {es : Emitted} {db : Db} (h : Stores es db) :
    ∀ r ∈ db.slas.rows, ∃ slaId bondAmount, CreatedAs es r slaId bondAmount := by
  -- by induction on what was stored; caching touches thresholds only
  induction h with
  | empty => exact fun r hr => absurd hr List.not_mem_nil
  | @page db events batch lastLedger lastCursor _ hsub hclassified ih =>
    obtain rfl := classified_eq_ofEvents hclassified
    intro r hr
    rcases Table.mem_of_mem_insertAll hr with hold | hnew
    · exact ih r hold
    · obtain ⟨s, hs, rfl⟩ := List.mem_map.mp hnew
      have hcreated : ∃ slaId bondAmount, CreatedAs es s slaId bondAmount :=
        createdAs_of_mem hsub hs
      exact hcreated
  | @cached db slaId threshold _ ih =>
    intro r hr
    obtain ⟨s, hs, rfl⟩ := List.mem_map.mp hr
    have hcreated := ih s hs
    split
    · exact hcreated
    · exact hcreated

/-- **Stored settlements carry the integers of their events.** -/
theorem Stores.paidAs {es : Emitted} {db : Db} (h : Stores es db) :
    ∀ r ∈ db.settlements.rows, ∃ roundId payout, PaidAs es r roundId payout := by
  induction h with
  | empty => exact fun r hr => absurd hr List.not_mem_nil
  | @page db events batch lastLedger lastCursor _ hsub hclassified ih =>
    obtain rfl := classified_eq_ofEvents hclassified
    intro r hr
    rcases Table.mem_of_mem_insertAll hr with hold | hnew
    · exact ih r hold
    · obtain ⟨s, hs, rfl⟩ := List.mem_map.mp hnew
      have hpaid : ∃ roundId payout, PaidAs es s roundId payout := paidAs_of_mem hsub hs
      exact hpaid
  | @cached db slaId threshold _ ih =>
    intro r hr
    obtain ⟨s, hs, rfl⟩ := List.mem_map.mp hr
    have hpaid := ih s hs
    split
    · exact hpaid
    · exact hpaid

/-- A provider's SLAs are stored SLAs of the provider. -/
theorem Db.mem_getProviderSlas {db : Db} {address : String} {r : SlaRow}
    (h : r ∈ db.getProviderSlas address) : r ∈ db.slas.rows ∧ r.provider = address := by
  obtain ⟨hrow, hprovider⟩ := List.mem_filter.mp (List.mem_mergeSort.mp h)
  exact ⟨hrow, of_decide_eq_true hprovider⟩

end Indexer

end SlaSettle
