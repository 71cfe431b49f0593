import SlaSettle.Indexer.Providers
import SlaSettle.Web.ServedSettlements

/-!
# Numbers from the chain to the client

Ids travel as text, then as a JavaScript number, then as JSON, and amounts as decimal text; the
client reads them back as integers. `Number(text)` loses digits from `2^53` on, and there the
client's safe-integer check refuses whatever came out; a negative amount is no decimal text. So what
the client does return is the integer of the event, for every SLA and every settlement
(`numbers_exact`).
-/

namespace SlaSettle

namespace Web

open Js Indexer Effect Program

/-- The number of a decimal text, if the client accepts it, is the integer that was written. -/
theorem eq_of_ofText_toString {m n : ℕ} (h : JsNumber.ofText (toString m) = (n : JsNumber))
    (hn : n < 2 ^ 53) : m = n := by
  have hsafe : (JsNumber.ofText (toString m)).safeInteger? = some n :=
    JsNumber.safeInteger?_eq_some_iff.mpr ⟨h, hn⟩
  rw [JsNumber.safeInteger?_ofText_toString] at hsafe
  split at hsafe
  · exact Option.some.inj hsafe
  · cases hsafe

/-- An amount, if the client accepts its text, is the integer that was written. -/
theorem bigInt_of_isDecimal {n : ℤ} (h : isDecimal (toString n) = true) :
    bigInt (toString n) = n :=
  bigInt_toString_int ((isDecimal_toString_int_iff n).mp h)

/-! ### Settlements -/

/-- A settlement that the client returns has the integers of the event. -/
private theorem parseSettlement_exact {lib : ClientLib} {endpoint : String} {es : Emitted}
    {r : SettlementRow} {roundId : ℕ} {payout : ℤ} (hr : PaidAs es r roundId payout)
    {threshold : Option JsNumber} {votes : VoteCounts} {s : IndexedSettlement}
    (h : parseSettlement lib endpoint
      (entryFields (settlementEntry { r with quorumThreshold := threshold } votes)) = .ok s) :
    s.roundId = roundId ∧ s.penaltyAmount = payout := by
  obtain ⟨header, slaId, beneficiary, -, -, -, hround, hpayout⟩ := hr
  obtain ⟨⟨n, hn, hlt, hs⟩, -, -, -, ⟨hdecimal, hamount⟩, -⟩ := parseSettlement_eq_ok_iff.mp h
  have hround' : JsNumber.ofText (toString roundId) = (n : JsNumber) := by
    rw [← hround]
    exact hn
  have hdecimal' : isDecimal (toString payout) = true := by
    rw [← hpayout]
    exact hdecimal
  have hamount' : s.penaltyAmount = bigInt (toString payout) := by
    rw [← hpayout]
    exact hamount
  rw [hs, hamount', eq_of_ofText_toString hround' hlt, bigInt_of_isDecimal hdecimal']
  exact ⟨rfl, rfl⟩

/-- What `getSettlements` returns has passed the checks on the body. -/
theorem envelope_of_getSettlements {lib : ClientLib} {body : Json} {slaId : ℤ}
    {options : SettlementsOptions} {page : PagedResult IndexedSettlement}
    (h : getSettlements lib (fun _ => .ok body) slaId options = .ok page) :
    ∃ endpoint, envelope body endpoint (parseSettlement lib endpoint) = .ok page := by
  rw [getSettlements] at h
  split at h
  · cases h
  · obtain ⟨id, -, h⟩ := bind_eq_ok_iff.mp h
    exact ⟨_, h⟩

/-! ### Provider SLAs -/

/-- The properties of an entry. -/
def providerSlaFields (e : ProviderSlaEntry) : Fields :=
  [("sla_id", .ofNumber e.slaId), ("token", .string e.token),
    ("endpoint_hash", .string e.endpointHash),
    ("bond_amount_at_creation", .string e.bondAmountAtCreation),
    ("beneficiary", .string e.beneficiary), ("created_at", .string e.createdAt),
    ("tx_hash", .string e.txHash)]

/-- An entry is accepted with these values. -/
theorem parseProviderSla_eq_ok_iff {lib : ClientLib} {endpoint : String} {e : ProviderSlaEntry}
    {s : ProviderSlaSummary} :
    parseProviderSla lib endpoint (providerSlaFields e) = .ok s ↔
      (∃ n : ℕ, e.slaId = (n : JsNumber) ∧ n < 2 ^ 53 ∧ s.slaId = n) ∧
      (lib.isAddress e.token = true ∧ e.token ≠ "" ∧ s.token = e.token) ∧
      (isDecimal e.bondAmountAtCreation = true ∧
        s.bondAmountAtCreation = bigInt e.bondAmountAtCreation) ∧
      (lib.isAddress e.beneficiary = true ∧ e.beneficiary ≠ "" ∧ s.beneficiary = e.beneficiary) ∧
      (lib.readsDate e.createdAt = true ∧ e.createdAt ≠ "" ∧ s.createdAt = e.createdAt) ∧
      (IsTxHash e.txHash ∧ s.txHash = e.txHash.map Char.toLower) := by
  have hsla : (providerSlaFields e).lookup "sla_id" = some (.ofNumber e.slaId) := rfl
  have htoken : (providerSlaFields e).lookup "token" = some (.string e.token) := rfl
  have hbond : (providerSlaFields e).lookup "bond_amount_at_creation" =
      some (.string e.bondAmountAtCreation) := rfl
  have hbeneficiary : (providerSlaFields e).lookup "beneficiary" =
      some (.string e.beneficiary) := rfl
  have htime : (providerSlaFields e).lookup "created_at" = some (.string e.createdAt) := rfl
  have hhash : (providerSlaFields e).lookup "tx_hash" = some (.string e.txHash) := rfl
  simp only [parseProviderSla, bind_eq_ok_iff, pure_eq_ok_iff, nonNegativeInt_eq_ok_iff,
    amount_eq_ok_iff, stellarAddress_eq_ok_iff, txHash_eq_ok_iff, timestamp_eq_ok_iff, hsla, htoken,
    hbond, hbeneficiary, htime, hhash, Option.some.injEq, Json.ofNumber_eq_number_iff,
    Json.string.injEq]
  constructor
  · rintro ⟨n, ⟨hn, hlt⟩, token, ⟨rfl, htokenne, htoken⟩, bond, ⟨text, rfl, hdecimal, rfl⟩,
      beneficiary, ⟨rfl, hne, haddress⟩, time, ⟨rfl, htimene, hdate⟩, hash,
      ⟨value, rfl, hlen, hdigits, rfl⟩, rfl⟩
    exact ⟨⟨n, hn, hlt, rfl⟩, ⟨htoken, htokenne, rfl⟩, ⟨hdecimal, rfl⟩, ⟨haddress, hne, rfl⟩,
      ⟨hdate, htimene, rfl⟩, ⟨hlen, hdigits⟩, rfl⟩
  · rintro ⟨⟨n, hn, hlt, hs1⟩, ⟨htoken, htokenne, hs2⟩, ⟨hdecimal, hs3⟩, ⟨haddress, hne, hs4⟩,
      ⟨hdate, htimene, hs5⟩, ⟨hlen, hdigits⟩, hs6⟩
    refine ⟨n, ⟨hn, hlt⟩, _, ⟨rfl, htokenne, htoken⟩, _, ⟨_, rfl, hdecimal, rfl⟩, _,
      ⟨rfl, hne, haddress⟩, _, ⟨rfl, htimene, hdate⟩, _, ⟨_, rfl, hlen, hdigits, rfl⟩, ?_⟩
    rw [← hs1, ← hs2, ← hs3, ← hs4, ← hs5, ← hs6]

/-- An SLA that the client returns has the integers of the event. -/
private theorem parseProviderSla_exact {lib : ClientLib} {endpoint : String} {es : Emitted}
    {r : SlaRow} {slaId : ℕ} {bondAmount : ℤ} (hr : CreatedAs es r slaId bondAmount)
    {s : ProviderSlaSummary}
    (h : parseProviderSla lib endpoint (providerSlaFields (providerSlaEntry r)) = .ok s) :
    s.slaId = slaId ∧ s.bondAmountAtCreation = bondAmount := by
  obtain ⟨header, provider, token, endpointHash, uptimeTargetBps, quorumThreshold,
    penaltyPerBreach, beneficiary, -, hid, -, hbond⟩ := hr
  obtain ⟨⟨n, hn, hlt, hs⟩, -, ⟨hdecimal, hamount⟩, -⟩ := parseProviderSla_eq_ok_iff.mp h
  have hid' : JsNumber.ofText (toString slaId) = (n : JsNumber) := by
    rw [← hid]
    exact hn
  have hdecimal' : isDecimal (toString bondAmount) = true := by
    rw [← hbond]
    exact hdecimal
  have hamount' : s.bondAmountAtCreation = bigInt (toString bondAmount) := by
    rw [← hbond]
    exact hamount
  rw [hs, hamount', eq_of_ofText_toString hid' hlt, bigInt_of_isDecimal hdecimal']
  exact ⟨rfl, rfl⟩

/-- What `getProviderSlas` returns has passed the checks on the body. -/
theorem envelope_of_getProviderSlas {lib : ClientLib} {body : Json} {address : String}
    {page : PagedResult ProviderSlaSummary}
    (h : getProviderSlas lib (fun _ => .ok body) address = .ok page) :
    ∃ endpoint, envelope body endpoint (parseProviderSla lib endpoint) = .ok page := by
  rw [getProviderSlas] at h
  split at h
  · cases h
  · exact ⟨_, h⟩

/-! ### The pipeline -/

/-- Two steps, entry by entry. -/
private theorem forall₂_trans {α β γ : Type} {R : α → β → Prop} {S : β → γ → Prop} {as : List α}
    {bs : List β} {cs : List γ} (h : List.Forall₂ R as bs) (h' : List.Forall₂ S bs cs) :
    List.Forall₂ (fun a c => ∃ b, R a b ∧ S b c) as cs := by
  induction h generalizing cs with
  | nil =>
    rw [List.forall₂_nil_left_iff.mp h']
    exact .nil
  | cons hab _ ih =>
    obtain ⟨c, rest, hbc, hrest, rfl⟩ := List.forall₂_cons_left_iff.mp h'
    exact .cons ⟨_, hab, hbc⟩ (ih hrest)

/-- **Numbers survive exactly or not at all.** Over a database that pages of the events have led to,
whatever the client returns of the settlements or of a provider's SLAs has, row by row, the round
and payout, or the id and bond, of the event behind the row. -/
theorem numbers_exact {es : Emitted} {db : Db} (hdb : Stores es db) (lib : ClientLib)
    (codec : CodecLib) :
    (∀ slaId limitQuery before tr data next db' requested options page,
      (Exec RouteAnswers (workerSettlements slaId limitQuery before) db tr
          (.ok (.page data next)) db' ∨
        Exec RouteAnswers (nodeSettlements slaId limitQuery before) db tr
          (.ok (.page data next)) db') →
      getSettlements lib (fun _ => .ok (settlementsBody codec data next)) requested options =
        .ok page →
      ∃ limit, parseLimit limitQuery = .ok limit ∧
        List.Forall₂ (fun r s => ∃ (roundId : ℕ) (payout : ℤ), PaidAs es r roundId payout ∧
            s.roundId = (roundId : ℤ) ∧ s.penaltyAmount = payout)
          (db.settlementsPage slaId before limit) page.data) ∧
    ∀ address page,
      getProviderSlas lib (fun _ => .ok (providerSlasBody (db.getProviderSlas address))) address =
        .ok page →
      List.Forall₂ (fun r s => ∃ (slaId : ℕ) (bondAmount : ℤ), CreatedAs es r slaId bondAmount ∧
          s.slaId = (slaId : ℤ) ∧ s.bondAmountAtCreation = bondAmount)
        (db.getProviderSlas address) page.data := by
  constructor
  · intro slaId limitQuery before tr data next db' requested options page hserved hread
    obtain ⟨limit, hlimit, hentries⟩ := hserved.elim
      (exec_settlementsWith (fillsThresholds_worker slaId))
      (exec_settlementsWith (fillsThresholds_node slaId))
    refine ⟨limit, hlimit, ?_⟩
    obtain ⟨endpoint, hpage⟩ := envelope_of_getSettlements hread
    rw [settlementsBody] at hpage
    obtain ⟨hitems, -⟩ := envelope_eq_ok_iff.mp hpage
    rw [List.forall₂_map_left_iff] at hitems
    have hpaid : ∀ r ∈ db.settlementsPage slaId before limit, ∃ roundId payout,
        PaidAs es r roundId payout := fun r hr => hdb.paidAs r (Db.mem_settlementsPage hr).1
    refine ((List.forall₂_and_left _ _).mpr ⟨hpaid, forall₂_trans hentries hitems⟩).imp ?_
    rintro r s ⟨⟨roundId, payout, hr⟩, e, ⟨threshold, rfl⟩, fields, hfields, hparse⟩
    obtain rfl := Json.object.inj hfields
    obtain ⟨hround, hamount⟩ := parseSettlement_exact hr hparse
    exact ⟨roundId, payout, hr, hround, hamount⟩
  · intro address page hread
    obtain ⟨endpoint, hpage⟩ := envelope_of_getProviderSlas hread
    have hbody : providerSlasBody (db.getProviderSlas address) = .object
        [("data", .array ((db.getProviderSlas address).map fun r => (providerSlaEntry r).toJson)),
          ("next_cursor", .ofNullable .string none)] := rfl
    rw [hbody] at hpage
    obtain ⟨hitems, -⟩ := envelope_eq_ok_iff.mp hpage
    rw [List.forall₂_map_left_iff] at hitems
    have hcreated : ∀ r ∈ db.getProviderSlas address, ∃ slaId bondAmount,
        CreatedAs es r slaId bondAmount :=
      fun r hr => hdb.createdAs r (Db.mem_getProviderSlas hr).1
    refine ((List.forall₂_and_left _ _).mpr ⟨hcreated, hitems⟩).imp ?_
    rintro r s ⟨⟨slaId, bondAmount, hr⟩, fields, hfields, hparse⟩
    obtain rfl := Json.object.inj hfields
    obtain ⟨hid, hamount⟩ := parseProviderSla_exact hr hparse
    exact ⟨slaId, bondAmount, hr, hid, hamount⟩

/-- The row of the SLA that was settled once. -/
private def createdRow : SlaRow :=
  ⟨"1", zeroAccount, zeroContract, hexText [1], "100", some 1, zeroAccount, "2026-09-27T23:40:00Z",
    String.ofList (.replicate 64 'a')⟩

/-- What the client makes of it. -/
private def createdSla : ProviderSlaSummary :=
  ⟨1, zeroContract, 100, zeroAccount, "2026-09-27T23:40:00Z", String.ofList (.replicate 64 'a')⟩

private theorem stores_settledOnce : Stores settledOnce settledOnceDb :=
  .page .empty (List.Subset.refl _) (classified_ofEvents settledOnce)

private theorem getProviderSlas_settledOnce :
    settledOnceDb.getProviderSlas zeroAccount = [createdRow] := by
  have hslas : settledOnceDb.slas.rows = [createdRow] := holds_settledOnceDb.slas
  have hfilter : [createdRow].filter (fun r => decide (r.provider = zeroAccount)) = [createdRow] :=
    List.filter_cons_of_pos (decide_eq_true (p := createdRow.provider = zeroAccount) rfl)
  rw [Db.getProviderSlas, hslas, hfilter, List.mergeSort_singleton]

private theorem parseProviderSla_createdRow (endpoint : String) :
    parseProviderSla sampleLib endpoint (providerSlaFields (providerSlaEntry createdRow)) =
      .ok createdSla := by
  have hwf := wellFormed_settledOnce _ List.mem_cons_self
  have hprovider := hwf.addresses zeroAccount (by simp [eventAddresses])
  have htoken := hwf.addresses zeroContract (by simp [eventAddresses])
  have hone : JsNumber.ofText "1" = (1 : ℕ) := JsNumber.ofText_toString_of_lt (n := 1) (by norm_num)
  have hlower : createdSla.txHash = (providerSlaEntry createdRow).txHash.map Char.toLower := by
    rw [← String.toList_inj, String.toList_map]
    change (String.ofList (.replicate 64 'a')).toList =
      (String.ofList (.replicate 64 'a')).toList.map Char.toLower
    rw [String.toList_ofList, List.map_replicate]
    rfl
  refine parseProviderSla_eq_ok_iff.mpr ⟨⟨1, hone, by norm_num, rfl⟩, ⟨htoken, ?_, rfl⟩,
    ⟨isDecimal_toString 100, (bigInt_toString 100).symm⟩, ⟨hprovider, ?_, rfl⟩,
    ⟨?_, by decide, rfl⟩, hwf.txHash, hlower⟩
  · decide
  · decide
  · rw [ClientLib.readsDate, Bool.or_eq_true]
    exact .inl hwf.ledgerClosedAt

/-- The provider of the SLA that was settled once is shown its id and its bond. -/
theorem numbers_exact_settled_once :
    List.Forall₂ (fun r s => ∃ (slaId : ℕ) (bondAmount : ℤ),
        CreatedAs settledOnce r slaId bondAmount ∧ s.slaId = (slaId : ℤ) ∧
          s.bondAmountAtCreation = bondAmount)
      (settledOnceDb.getProviderSlas zeroAccount) [createdSla] := by
  have hvalid : sampleLib.isValidEd25519PublicKey zeroAccount = true :=
    decide_eq_true (p := zeroAccount = zeroAccount) rfl
  have hread : getProviderSlas sampleLib
      (fun _ => .ok (providerSlasBody (settledOnceDb.getProviderSlas zeroAccount))) zeroAccount =
      .ok ⟨[createdSla], none⟩ := by
    have hbody : providerSlasBody [createdRow] = .object
        [("data", .array [(providerSlaEntry createdRow).toJson]),
          ("next_cursor", .ofNullable .string none)] := rfl
    have hpage : envelope (providerSlasBody [createdRow])
        ("/v1/providers/" ++ zeroAccount ++ "/slas") (parseProviderSla sampleLib
          ("/v1/providers/" ++ zeroAccount ++ "/slas")) = .ok ⟨[createdSla], none⟩ := by
      rw [hbody, envelope_eq_ok_iff]
      exact ⟨.cons ⟨_, rfl, parseProviderSla_createdRow _⟩ .nil, rfl⟩
    rw [getProviderSlas, hvalid, getProviderSlas_settledOnce]
    exact hpage
  exact (numbers_exact stores_settledOnce sampleLib noCodec).2 zeroAccount _ hread

end Web

end SlaSettle
