import SlaSettle.Indexer.Cursor
import SlaSettle.Indexer.LiveReads
import SlaSettle.Web.IndexerClient

/-!
# What the Worker serves and the client reads

The Worker writes a page of settlements and the web client checks it field by field. Over a history
of well-formed events every field passes but four: the threshold, which the Worker serves as `null`
when its live read failed; an amount, if it is negative; a transaction hash, which the client turns
to lower case; and a vote count, if it is no safe integer. `worker_page_read_iff` says that a page
is read as it was served exactly when these four are in order in each of its rows.
-/

namespace SlaSettle

namespace Web

open Js Indexer Effect Program

/-! ### Well-formed histories -/

/-- The ids an event carries. -/
def eventIds : OnChainEvent → List ℕ
  | .watcher _ _ => []
  | .checkSubmitted slaId _ roundId _ _ => [slaId, roundId]
  | .slaCreated slaId _ _ _ _ _ _ _ _ => [slaId]
  | .bondToppedUp slaId _ => [slaId]
  | .settlementPaid slaId roundId _ _ => [slaId, roundId]
  | .slaCancelled slaId => [slaId]
  | .bondWithdrawn slaId _ => [slaId]

/-- The addresses an event carries. -/
def eventAddresses : OnChainEvent → List String
  | .watcher _ address => [address]
  | .checkSubmitted _ watcher _ _ _ => [watcher]
  | .slaCreated _ provider token _ _ _ _ _ beneficiary => [provider, token, beneficiary]
  | .bondToppedUp _ _ => []
  | .settlementPaid _ _ _ beneficiary => [beneficiary]
  | .slaCancelled _ => []
  | .bondWithdrawn _ _ => []

/-- Sixty-four hexadecimal digits. -/
def IsTxHash (text : String) : Prop :=
  text.toList.length = 64 ∧ ∀ c ∈ text.toList, isHexDigit c = true

/-- A well-formed event: ids below `2^53`, Stellar addresses, a hash and a close time. -/
structure WellFormed (lib : ClientLib) (e : EventHeader × OnChainEvent) : Prop where
  ids : ∀ n ∈ eventIds e.2, n < 2 ^ 53
  addresses : ∀ address ∈ eventAddresses e.2, lib.isAddress address = true
  txHash : IsTxHash e.1.txHash
  ledgerClosedAt : isDateTime e.1.ledgerClosedAt = true

/-! ### One entry -/

/-- The entry that carries the values of a settlement. -/
def IndexedSettlement.asServed (s : IndexedSettlement) : SettlementEntry where
  roundId := .finite s.roundId
  votesUp := s.votesUp
  votesDown := s.votesDown
  quorumThreshold := some (s.quorumThreshold : JsNumber)
  penaltyAmount := toString s.penaltyAmount
  beneficiary := s.beneficiary
  txHash := s.txHash
  ledgerCloseTime := s.ledgerCloseTime
  explorerUrl := s.explorerUrl

/-- The properties of an entry. -/
def entryFields (e : SettlementEntry) : Fields :=
  [("round_id", .ofNumber e.roundId), ("votes_up", .number e.votesUp),
    ("votes_down", .number e.votesDown),
    ("quorum_threshold", .ofNullable .ofNumber e.quorumThreshold),
    ("penalty_amount", .string e.penaltyAmount), ("beneficiary", .string e.beneficiary),
    ("tx_hash", .string e.txHash), ("ledger_close_time", .string e.ledgerCloseTime),
    ("explorer_url", .string e.explorerUrl)]

theorem toJson_eq (e : SettlementEntry) : e.toJson = .object (entryFields e) := rfl

/-- An entry is accepted with these values. -/
theorem parseSettlement_eq_ok_iff {lib : ClientLib} {endpoint : String} {e : SettlementEntry}
    {s : IndexedSettlement} :
    parseSettlement lib endpoint (entryFields e) = .ok s ↔
      (∃ n : ℕ, e.roundId = (n : JsNumber) ∧ n < 2 ^ 53 ∧ s.roundId = n) ∧
      (e.votesUp < 2 ^ 53 ∧ s.votesUp = e.votesUp) ∧
      (e.votesDown < 2 ^ 53 ∧ s.votesDown = e.votesDown) ∧
      (e.quorumThreshold = some (s.quorumThreshold : JsNumber) ∧ s.quorumThreshold < 2 ^ 53) ∧
      (isDecimal e.penaltyAmount = true ∧ s.penaltyAmount = bigInt e.penaltyAmount) ∧
      (lib.isAddress e.beneficiary = true ∧ e.beneficiary ≠ "" ∧ s.beneficiary = e.beneficiary) ∧
      (IsTxHash e.txHash ∧ s.txHash = e.txHash.map Char.toLower) ∧
      (lib.readsDate e.ledgerCloseTime = true ∧ e.ledgerCloseTime ≠ "" ∧
        s.ledgerCloseTime = e.ledgerCloseTime) ∧
      e.explorerUrl ≠ "" ∧ lib.parseURL e.explorerUrl = some ⟨"https:", s.explorerUrl⟩ := by
  have hround : (entryFields e).lookup "round_id" = some (.ofNumber e.roundId) := rfl
  have hup : (entryFields e).lookup "votes_up" = some (.number e.votesUp) := rfl
  have hdown : (entryFields e).lookup "votes_down" = some (.number e.votesDown) := rfl
  have hthreshold : (entryFields e).lookup "quorum_threshold" =
      some (.ofNullable .ofNumber e.quorumThreshold) := rfl
  have hamount : (entryFields e).lookup "penalty_amount" = some (.string e.penaltyAmount) := rfl
  have hbeneficiary : (entryFields e).lookup "beneficiary" = some (.string e.beneficiary) := rfl
  have hhash : (entryFields e).lookup "tx_hash" = some (.string e.txHash) := rfl
  have htime : (entryFields e).lookup "ledger_close_time" = some (.string e.ledgerCloseTime) := rfl
  have hurl : (entryFields e).lookup "explorer_url" = some (.string e.explorerUrl) := rfl
  simp only [parseSettlement, bind_eq_ok_iff, pure_eq_ok_iff, nonNegativeInt_eq_ok_iff,
    amount_eq_ok_iff, stellarAddress_eq_ok_iff, txHash_eq_ok_iff, timestamp_eq_ok_iff,
    httpsUrl_eq_ok_iff, hround, hup, hdown, hthreshold, hamount, hbeneficiary, hhash, htime, hurl,
    Option.some.injEq, Json.ofNumber_eq_number_iff, Json.ofNullable_ofNumber_eq_number_iff,
    Json.number.injEq, Json.string.injEq, Nat.cast_inj]
  constructor
  · rintro ⟨round, ⟨hround, hround53⟩, up, ⟨rfl, hup53⟩, down, ⟨rfl, hdown53⟩, threshold,
      ⟨hthreshold, hthreshold53⟩, payout, ⟨text, rfl, hdecimal, rfl⟩, beneficiary,
      ⟨rfl, hne, haddress⟩, hash, ⟨value, rfl, hlen, hdigits, rfl⟩, time, ⟨rfl, htimene, hdate⟩,
      url, ⟨value, rfl, hurlne, hparse⟩, rfl⟩
    exact ⟨⟨round, hround, hround53, rfl⟩, ⟨hup53, rfl⟩, ⟨hdown53, rfl⟩,
      ⟨hthreshold, hthreshold53⟩, ⟨hdecimal, rfl⟩, ⟨haddress, hne, rfl⟩, ⟨⟨hlen, hdigits⟩, rfl⟩,
      ⟨hdate, htimene, rfl⟩, hurlne, hparse⟩
  · rintro ⟨⟨round, hround, hround53, hs1⟩, ⟨hup53, hs2⟩, ⟨hdown53, hs3⟩,
      ⟨hthreshold, hthreshold53⟩, ⟨hdecimal, hs5⟩, ⟨haddress, hne, hs6⟩, ⟨⟨hlen, hdigits⟩, hs7⟩,
      ⟨hdate, htimene, hs8⟩, hurlne, hparse⟩
    refine ⟨round, ⟨hround, hround53⟩, _, ⟨rfl, hup53⟩, _, ⟨rfl, hdown53⟩, _,
      ⟨hthreshold, hthreshold53⟩, _, ⟨_, rfl, hdecimal, rfl⟩, _, ⟨rfl, hne, haddress⟩, _,
      ⟨_, rfl, hlen, hdigits, rfl⟩, _, ⟨rfl, htimene, hdate⟩, _, ⟨_, rfl, hurlne, hparse⟩, ?_⟩
    rw [← hs1, ← hs2, ← hs3, ← hs5, ← hs6, ← hs7, ← hs8]

theorem ClientLib.Documented.ne_empty_of_isAddress {lib : ClientLib} (hlib : lib.Documented)
    {text : String} (haddress : lib.isAddress text = true) : text ≠ "" := by
  rintro rfl
  rcases Bool.or_eq_true _ _ |>.mp haddress with h | h
  · cases hlib.length_ed25519 _ h
  · cases hlib.length_contract _ h

theorem explorerUrl_ne_empty (r : SettlementRow) (votes : VoteCounts) :
    (settlementEntry r votes).explorerUrl ≠ "" := by
  intro hempty
  have hlen := congrArg String.length hempty
  simp [settlementEntry] at hlen

/-- The entry of a well-formed settlement passes every check but four, which are those on its
threshold, its amount, the case of its hash and its counts. -/
theorem parseSettlement_settled_iff {lib : ClientLib} (hlib : lib.Documented) {es : Emitted}
    (hes : ∀ e ∈ es, WellFormed lib e) {r : SettlementRow} {slaId roundId : ℕ}
    (hr : SettledAs es r slaId roundId) {endpoint : String} {e : SettlementEntry}
    {threshold : Option JsNumber} {votes : VoteCounts}
    (he : e = settlementEntry { r with quorumThreshold := threshold } votes) :
    (∃ s, parseSettlement lib endpoint (entryFields e) = .ok s ∧ s.asServed = e) ↔
      (∃ n : ℕ, n < 2 ^ 53 ∧ threshold = some (n : JsNumber)) ∧
        (∃ n : ℕ, r.penaltyAmount = toString n) ∧ r.txHash.map Char.toLower = r.txHash ∧
        votes.votesUp < 2 ^ 53 ∧ votes.votesDown < 2 ^ 53 := by
  obtain ⟨header, payout, beneficiary, hmem, hrow⟩ := hr
  have hwf := hes _ hmem
  have hround : r.roundId = toString roundId := congrArg SettlementRow.roundId hrow
  have hpayout : r.penaltyAmount = toString payout := congrArg SettlementRow.penaltyAmount hrow
  have hbeneficiary : r.beneficiary = beneficiary := congrArg SettlementRow.beneficiary hrow
  have hhash : r.txHash = header.txHash := congrArg SettlementRow.txHash hrow
  have htime : r.ledgerCloseTime = header.ledgerClosedAt :=
    congrArg SettlementRow.ledgerCloseTime hrow
  have hround53 : roundId < 2 ^ 53 := hwf.ids roundId (by simp [eventIds])
  have hroundId : e.roundId = (roundId : JsNumber) := by
    have hsafe := JsNumber.safeInteger?_ofText_toString roundId
    rw [if_pos hround53] at hsafe
    rw [he, roundId_settlementEntry, hround]
    exact (JsNumber.safeInteger?_eq_some_iff.mp hsafe).1
  have haddress : lib.isAddress beneficiary = true := hwf.addresses _ (by simp [eventAddresses])
  have hurl : lib.parseURL e.explorerUrl = some ⟨"https:", e.explorerUrl⟩ := by
    rw [he]
    have hlen : r.txHash.length = 64 := by
      rw [hhash, ← String.length_toList]
      exact hwf.txHash.1
    exact hlib.parseURL_explorer r.txHash hlen fun c hc => hwf.txHash.2 c (hhash ▸ hc)
  constructor
  · rintro ⟨s, hparse, hserved⟩
    obtain ⟨-, hup, hdown, hthreshold, hamount, -, hhash', -⟩ := parseSettlement_eq_ok_iff.mp hparse
    have hlower : e.txHash.map Char.toLower = e.txHash := by
      rw [← hhash'.2]
      exact congrArg SettlementEntry.txHash hserved
    rw [he] at hup hdown hthreshold hamount hlower
    refine ⟨⟨s.quorumThreshold, hthreshold.2, hthreshold.1⟩, ?_, hlower, hup.1, hdown.1⟩
    have hnonneg : 0 ≤ payout := by
      rw [← isDecimal_toString_int_iff, ← hpayout]
      exact hamount.1
    obtain ⟨n, rfl⟩ := Int.eq_ofNat_of_zero_le hnonneg
    exact ⟨n, hpayout⟩
  · rintro ⟨⟨n, hn, hthreshold⟩, ⟨amount, hamount⟩, hlower, hup, hdown⟩
    have htimene : header.ledgerClosedAt ≠ "" := by
      intro hempty
      have hdate := hwf.ledgerClosedAt
      rw [hempty] at hdate
      cases hdate
    have hurlne : e.explorerUrl ≠ "" := he ▸ explorerUrl_ne_empty _ _
    refine ⟨⟨roundId, votes.votesUp, votes.votesDown, n, amount, beneficiary, r.txHash,
      r.ledgerCloseTime, e.explorerUrl⟩, parseSettlement_eq_ok_iff.mpr ?_, ?_⟩
    · rw [hroundId]
      subst he
      refine ⟨⟨roundId, rfl, hround53, rfl⟩, ⟨hup, rfl⟩, ⟨hdown, rfl⟩, ⟨hthreshold, hn⟩, ?_, ?_, ?_,
        ?_, hurlne, hurl⟩
      · change isDecimal r.penaltyAmount = true ∧ (amount : ℤ) = bigInt r.penaltyAmount
        rw [hamount]
        exact ⟨isDecimal_toString amount, (bigInt_toString amount).symm⟩
      · change lib.isAddress r.beneficiary = true ∧ r.beneficiary ≠ "" ∧ beneficiary = r.beneficiary
        rw [hbeneficiary]
        exact ⟨haddress, hlib.ne_empty_of_isAddress haddress, rfl⟩
      · change IsTxHash r.txHash ∧ r.txHash = r.txHash.map Char.toLower
        rw [hlower, hhash]
        exact ⟨hwf.txHash, rfl⟩
      · change lib.readsDate r.ledgerCloseTime = true ∧ r.ledgerCloseTime ≠ "" ∧ _
        rw [htime, ClientLib.readsDate, hwf.ledgerClosedAt, Bool.true_or]
        exact ⟨rfl, htimene, rfl⟩
    · rw [he] at hroundId ⊢
      have hid : JsNumber.ofText r.roundId = .finite (roundId : ℤ) := by
        rw [Int.cast_natCast]
        exact hroundId
      simp only [IndexedSettlement.asServed, settlementEntry, hid, hthreshold, hamount,
        ← hbeneficiary]
      rfl

/-! ### A page -/

/-- The client reads the page as it was served: the same entries in the same order. -/
def ReadAsServed (lib : ClientLib) (codec : CodecLib) (slaId : ℤ) (options : SettlementsOptions)
    (data : List SettlementEntry) (next : Option SettlementsCursor) : Prop :=
  ∃ page, getSettlements lib (fun _ => .ok (settlementsBody codec data next)) slaId options =
      .ok page ∧
    page.data.map IndexedSettlement.asServed = data ∧
    page.nextCursor = next.map (encodeCursor codec)

/-- The threshold a row is served with: its own, or what the live read returned. -/
def servedThreshold (read : Option (Except Thrown JsNumber)) (r : SettlementRow) :
    Option JsNumber :=
  r.quorumThreshold.or (read.bind Except.toOption)

/-- What the client needs of a row, beyond what well-formed events give it. -/
structure Legible (db : Db) (read : Option (Except Thrown JsNumber)) (r : SettlementRow) :
    Prop where
  threshold : ∃ n : ℕ, n < 2 ^ 53 ∧ servedThreshold read r = some (n : JsNumber)
  payout : ∃ n : ℕ, r.penaltyAmount = toString n
  txHash : r.txHash.map Char.toLower = r.txHash
  votesUp : (db.getVoteCounts r.slaId r.roundId).votesUp < 2 ^ 53
  votesDown : (db.getVoteCounts r.slaId r.roundId).votesDown < 2 ^ 53

/-- A list of results exists if each of them does. -/
private theorem exists_forall₂_iff {α β : Type} {R : α → β → Prop} {as : List α} :
    (∃ bs, List.Forall₂ R as bs) ↔ ∀ a ∈ as, ∃ b, R a b := by
  induction as with
  | nil => exact iff_of_true ⟨[], .nil⟩ (by simp)
  | cons a as ih =>
    rw [List.forall_mem_cons, ← ih]
    constructor
    · rintro ⟨bs, h⟩
      obtain ⟨b, bs, hb, hbs, rfl⟩ := List.forall₂_cons_left_iff.mp h
      exact ⟨⟨b, hb⟩, bs, hbs⟩
    · rintro ⟨⟨b, hb⟩, bs, hbs⟩
      exact ⟨b :: bs, .cons hb hbs⟩

/-- Items that are accepted, with the values they were served with. -/
private theorem forall₂_served_iff {parseItem : Fields → Checked IndexedSettlement}
    {data : List SettlementEntry} {values : List IndexedSettlement} :
    List.Forall₂ (fun e s => ∃ fields, SettlementEntry.toJson e = .object fields ∧
        parseItem fields = .ok s) data values ∧ values.map IndexedSettlement.asServed = data ↔
      List.Forall₂ (fun e s => parseItem (entryFields e) = .ok s ∧ s.asServed = e) data values := by
  induction data generalizing values with
  | nil =>
    rw [List.forall₂_nil_left_iff, List.forall₂_nil_left_iff, List.map_eq_nil_iff, and_self]
  | cons e data ih =>
    rw [List.forall₂_cons_left_iff, List.forall₂_cons_left_iff]
    constructor
    · rintro ⟨⟨s, rest, ⟨fields, hfields, hparse⟩, hrest, rfl⟩, hserved⟩
      obtain ⟨hs, hserved⟩ := List.cons.inj hserved
      obtain rfl := Json.object.inj ((toJson_eq e).symm.trans hfields)
      exact ⟨s, rest, ⟨hparse, hs⟩, ih.mp ⟨hrest, hserved⟩, rfl⟩
    · rintro ⟨s, rest, ⟨hparse, hs⟩, hrest, rfl⟩
      obtain ⟨hitems, hserved⟩ := ih.mpr hrest
      exact ⟨⟨s, rest, ⟨_, toJson_eq e, hparse⟩, hitems, rfl⟩, by rw [List.map_cons, hs, hserved]⟩

/-- The path of a request for settlements. -/
def settlementsPath (lib : ClientLib) (slaId : ℕ) (options : SettlementsOptions) : String :=
  "/v1/slas/" ++ toString (slaId : ℤ) ++ "/settlements" ++ options.query lib

/-- A page is read as it was served when each of its entries is. -/
theorem readAsServed_iff {lib : ClientLib} {codec : CodecLib} {slaId : ℕ}
    {options : SettlementsOptions} (hlimit : options.badLimit = false)
    {data : List SettlementEntry} {next : Option SettlementsCursor} :
    ReadAsServed lib codec slaId options data next ↔
      ∀ e ∈ data, ∃ s, parseSettlement lib (settlementsPath lib slaId options) (entryFields e) =
        .ok s ∧ s.asServed = e := by
  have hget : getSettlements lib (fun _ => .ok (settlementsBody codec data next)) slaId options =
      envelope (settlementsBody codec data next) (settlementsPath lib slaId options)
        (parseSettlement lib (settlementsPath lib slaId options)) := by
    have hid : checkSlaId (slaId : ℤ) = .ok (toString (slaId : ℤ)) := if_neg (by omega)
    rw [getSettlements, hlimit, hid]
    rfl
  rw [ReadAsServed, hget, ← exists_forall₂_iff]
  constructor
  · rintro ⟨page, hpage, hserved, -⟩
    obtain ⟨hitems, -⟩ := envelope_eq_ok_iff.mp hpage
    rw [List.forall₂_map_left_iff] at hitems
    exact ⟨page.data, forall₂_served_iff.mp ⟨hitems, hserved⟩⟩
  · rintro ⟨values, hvalues⟩
    obtain ⟨hitems, hserved⟩ := forall₂_served_iff.mpr hvalues
    refine ⟨⟨values, _⟩, envelope_eq_ok_iff.mpr ⟨?_, rfl⟩, hserved, rfl⟩
    rw [List.forall₂_map_left_iff]
    exact hitems

/-- A row whose threshold was served without one is not read. -/
private theorem not_readAsServed_of_none {lib : ClientLib} {codec : CodecLib} {slaId : ℕ}
    {options : SettlementsOptions} (hlimit : options.badLimit = false)
    {data : List SettlementEntry} {next : Option SettlementsCursor} {e : SettlementEntry}
    (he : e ∈ data) (hnone : e.quorumThreshold = none) :
    ¬ ReadAsServed lib codec slaId options data next := by
  intro hread
  obtain ⟨s, hparse, -⟩ := (readAsServed_iff hlimit).mp hread e he
  obtain ⟨-, -, -, hthreshold, -⟩ := parseSettlement_eq_ok_iff.mp hparse
  have hsome := hthreshold.1
  rw [hnone] at hsome
  cases hsome

/-- What the Worker fills in is the served threshold, unless a live read failed. -/
private theorem map_servedThreshold {rows filled : List SettlementRow}
    {read : Option (Except Thrown JsNumber)}
    (h : (filled = rows ∧ (∀ r ∈ rows, r.quorumThreshold ≠ none) ∧ read = none) ∨
      ∃ threshold, read = some (.ok threshold) ∧
        filled = rows.map (SettlementRow.fillWith threshold)) :
    filled = rows.map fun r => { r with quorumThreshold := servedThreshold read r } := by
  rcases h with ⟨rfl, -, rfl⟩ | ⟨threshold, rfl, rfl⟩
  · have hsame : ∀ r : SettlementRow, { r with quorumThreshold := servedThreshold none r } = r := by
      intro r
      rw [servedThreshold, Option.bind_none, Option.or_none]
    simp only [hsame, List.map_id']
  · refine List.map_congr_left fun r _ => ?_
    rw [SettlementRow.fillWith, servedThreshold]
    cases r.quorumThreshold <;> rfl

/-- **What the client reads of the Worker's pages.** A page over a well-formed history is read as it
was served exactly when each of its rows is legible: it has a threshold, of its own or from a live
read that did not fail, its amount is not negative, its hash is in lower case, and the threshold and
the counts are safe integers. -/
theorem worker_page_read_iff {lib : ClientLib} (hlib : lib.Documented) (codec : CodecLib)
    {es : Emitted} (hes : ∀ e ∈ es, WellFormed lib e) {db : Db} (hdb : db.Ingested es.rows)
    {slaId : ℕ} {options : SettlementsOptions} (hlimit : options.badLimit = false)
    {limitQuery : Option String} {before next : Option SettlementsCursor}
    {data : List SettlementEntry} {tr : List (Event routeInterface)} {db' : Db}
    (h : Exec RouteAnswers (workerSettlements (toString slaId) limitQuery before) db tr
      (.ok (.page data next)) db') :
    ∃ limit, parseLimit limitQuery = .ok limit ∧
      (ReadAsServed lib codec slaId options data next ↔
        ∀ r ∈ db.settlementsPage (toString slaId) before limit, Legible db (firstRead tr) r) := by
  obtain ⟨limit, filled, hparse, hdata, hfilled⟩ := exec_workerSettlements h
  refine ⟨limit, hparse, ?_⟩
  rw [← or_assoc] at hfilled
  rcases hfilled with hfilled | ⟨⟨e, hread⟩, ⟨r, hr, hnone⟩, r', hr', hnone'⟩
  · rw [readAsServed_iff hlimit, hdata, map_servedThreshold hfilled, List.map_map,
      List.forall_mem_map]
    refine forall₂_congr fun r hr => ?_
    obtain ⟨s, roundId, hsettled⟩ := hdb.settledAs (Db.mem_settlementsPage hr).1
    rw [Function.comp_apply, parseSettlement_settled_iff hlib hes hsettled rfl]
    exact ⟨fun ⟨threshold, payout, hash, up, down⟩ => ⟨threshold, payout, hash, up, down⟩,
      fun h => ⟨h.threshold, h.payout, h.txHash, h.votesUp, h.votesDown⟩⟩
  · -- a failed live read leaves a row without a threshold, which the client refuses
    refine iff_of_false (not_readAsServed_of_none hlimit
      (e := settlementEntry r' (db.getVoteCounts r'.slaId r'.roundId)) ?_ hnone') ?_
    · rw [hdata]
      exact List.mem_map_of_mem hr'
    · intro hlegible
      obtain ⟨n, -, hserved⟩ := (hlegible r hr).threshold
      rw [hread, servedThreshold, hnone] at hserved
      cases hserved

/-! ### An SLA that was settled -/

/-- The address of the account whose key is all zeros. -/
def zeroAccount : String := "GAAAAAAAAAAAAAAAAAAAAAAAAAAAAAAAAAAAAAAAAAAAAAAAAAAAAWHF"

/-- The address of the contract whose hash is all zeros. -/
def zeroContract : String := "CAAAAAAAAAAAAAAAAAAAAAAAAAAAAAAAAAAAAAAAAAAAAAAAAAAABSC4"

/-- A history with an SLA that is created and settled. -/
def settledOnce : Emitted :=
  [(⟨"1", 10, "2026-09-27T23:40:00Z", String.ofList (.replicate 64 'a'), "vault"⟩,
      .slaCreated 1 zeroAccount zeroContract [1] 100 9900 1 5 zeroAccount),
    (⟨"2", 11, "2026-09-27T23:45:00Z", String.ofList (.replicate 64 'b'), "vault"⟩,
      .settlementPaid 1 5 5 zeroAccount)]

/-- A fresh database that has stored the history as one page. -/
def settledOnceDb : Db := Db.empty.applyBatch ⟨.ofEvents settledOnce.rows, 11, some "c"⟩

/-- The library functions, as far as this history needs them. -/
def sampleLib : ClientLib where
  isValidEd25519PublicKey text := text = zeroAccount
  isValidContract text := text = zeroContract
  parseURL text := if text.toList.take 8 = "https://".toList then some ⟨"https:", text⟩ else none
  readsOtherDate _ := false
  numberText _ := ""
  formEncode _ := ""

/-- Some codec; this page has no cursor to encode. -/
def noCodec : CodecLib := ⟨fun _ => "", fun _ => .error .other, id, id⟩

theorem documented_sampleLib : sampleLib.Documented where
  length_ed25519 text h := by
    rw [of_decide_eq_true h]
    decide
  length_contract text h := by
    rw [of_decide_eq_true h]
    decide
  parseURL_explorer hash _ _ := by
    refine if_pos ?_
    rw [String.toList_append]
    rfl

theorem wellFormed_settledOnce : ∀ e ∈ settledOnce, WellFormed sampleLib e := by
  have hhash : ∀ c, isHexDigit c = true → IsTxHash (String.ofList (.replicate 64 c)) := by
    intro c hc
    rw [IsTxHash, String.toList_ofList]
    refine ⟨List.length_replicate, fun d hd => ?_⟩
    rw [List.eq_of_mem_replicate hd]
    exact hc
  have hprovider : sampleLib.isAddress zeroAccount = true :=
    (Bool.or_eq_true _ _).mpr (.inl (decide_eq_true (p := zeroAccount = zeroAccount) rfl))
  have htoken : sampleLib.isAddress zeroContract = true :=
    (Bool.or_eq_true _ _).mpr (.inr (decide_eq_true (p := zeroContract = zeroContract) rfl))
  refine List.forall_mem_cons.mpr ⟨⟨?_, ?_, hhash 'a' rfl, by decide⟩,
    List.forall_mem_cons.mpr ⟨⟨?_, ?_, hhash 'b' rfl, by decide⟩, by simp⟩⟩
  · simp [eventIds]
  · simp [eventAddresses, hprovider, htoken]
  · simp [eventIds]
  · simp [eventAddresses, hprovider]

/-- The row of the settlement. -/
private def paidRow : SettlementRow :=
  ⟨"2", "1", "5", none, "5", zeroAccount, String.ofList (.replicate 64 'b'), "2026-09-27T23:45:00Z"⟩

theorem distinctKeys_settledOnce : DistinctKeys settledOnce.rows where
  checks := List.nodup_nil
  slas := show ["1"].Nodup by decide
  settlements := show ["2"].Nodup by decide
  lifecycleEvents := List.nodup_nil

theorem holds_settledOnceDb : settledOnceDb.Holds settledOnce.rows :=
  Db.holds_empty.applyBatch distinctKeys_settledOnce _ _

/-- What the Worker answers, by what the live read returns. -/
private theorem exec_settledOnce :
    Exec RouteAnswers (workerSettlements (toString 1) none none) settledOnceDb
      [⟨.selectSettlements "1" none 21, .ok [paidRow]⟩,
        ⟨.fetchQuorumThreshold "1", .error .other⟩,
        ⟨.getVoteCounts "1" "5", .ok (settledOnceDb.getVoteCounts "1" "5")⟩]
      (.ok (.page [settlementEntry paidRow (settledOnceDb.getVoteCounts "1" "5")] none))
      settledOnceDb := by
  have hrows : settledOnceDb.settlements.rows = [paidRow] := holds_settledOnceDb.settlements
  have hselected : settledOnceDb.selectSettlements "1" none 21 = [paidRow] := by
    simp [Db.selectSettlements, hrows, paidRow]
  exact .call (.selectSettlements hselected) (.call .throws (.call .getVoteCounts .done))

/-- When the live read fails, the client throws on what the Worker serves. -/
theorem worker_page_not_read :
    ¬ ∀ (lib : ClientLib) (codec : CodecLib) (es : Emitted) (db : Db), lib.Documented →
      DistinctKeys es.rows → (∀ e ∈ es, WellFormed lib e) → db.Holds es.rows →
      ∀ (slaId : ℕ) (options : SettlementsOptions) limitQuery before tr data next db',
        options.badLimit = false →
        Exec RouteAnswers (workerSettlements (toString slaId) limitQuery before) db tr
          (.ok (.page data next)) db' →
        ReadAsServed lib codec slaId options data next := by
  intro hall
  have hread := hall sampleLib noCodec settledOnce settledOnceDb documented_sampleLib
    distinctKeys_settledOnce wellFormed_settledOnce holds_settledOnceDb 1 ⟨none, none⟩ _ _ _ _ _ _
    rfl exec_settledOnce
  exact not_readAsServed_of_none rfl List.mem_cons_self rfl hread

/-- The page of the settled SLA, by its one row. -/
theorem worker_page_read_settled_once :
    ∃ limit, parseLimit none = .ok limit ∧
      (ReadAsServed sampleLib noCodec 1 ⟨none, none⟩
          [settlementEntry paidRow (settledOnceDb.getVoteCounts "1" "5")] none ↔
        ∀ r ∈ settledOnceDb.settlementsPage (toString 1) none limit,
          Legible settledOnceDb (some (.error .other)) r) :=
  worker_page_read_iff documented_sampleLib noCodec wellFormed_settledOnce
    holds_settledOnceDb.ingested rfl exec_settledOnce

end Web

end SlaSettle
