import SlaSettle.Indexer.Participation
import SlaSettle.Web.RoundStatus
import SlaSettle.Web.ServedSettlements

/-!
# The clock and the current round, from the RPC to the page

`getClock` and `getCurrentRound` of `lib/indexer.ts`, and what they read of the servers' answers.
The clock that the client reads is the ledger the RPC reported (`clock_read_iff`). The current
round is read exactly when every registered address that has yet to vote is an account, and then
the page lists each voter with its vote and each of those addresses as pending
(`current_round_read_iff`).
-/

namespace SlaSettle

namespace Web

open Js Indexer Effect Program

/-! ### Requests -/

def getClock (lib : ClientLib) (indexerGet : IndexerGet) : Checked Clock := do
  let endpoint := "/v1/clock"
  let fields ← asObject (← indexerGet endpoint) endpoint "the response"
  let ledgerSequence ← nonNegativeInt fields "ledger_sequence" endpoint
  let ledgerCloseTime ← timestamp lib fields "ledger_close_time" endpoint
  let currentRoundId ← nonNegativeInt fields "current_round_id" endpoint
  return ⟨ledgerSequence, ledgerCloseTime, currentRoundId⟩

/-- `items.map((item, index) => …)`, from an index on. -/
def mapIndexed {α : Type} (f : ℕ → Json → Checked α) : ℕ → List Json → Checked (List α)
  | _, [] => return []
  | index, item :: items => do
    let a ← f index item
    return a :: (← mapIndexed f (index + 1) items)

/-- The status of an entry of `checked_in`: whether it is `up`, or else `down`. -/
def parseUp (endpoint : String) (index : ℕ) : Option Json → Checked Bool
  | some (.string "up") => .ok true
  | some (.string "down") => .ok false
  | _ => .error (.response endpoint s!"checked_in[{index}].status is not \"up\" or \"down\".")

/-- One entry of `checked_in`. -/
def parseCheckedIn (lib : ClientLib) (endpoint : String) (index : ℕ) (item : Json) :
    Checked CheckedInWatcher := do
  let w ← asObject item endpoint s!"checked_in[{index}]"
  let up ← parseUp endpoint index (w.lookup "status")
  let watcher ← stellarAddress lib w "watcher" endpoint
  let checkedAt ← timestamp lib w "checked_at" endpoint
  return ⟨watcher, up, checkedAt⟩

/-- One entry of `not_yet_checked_in`. -/
def parseNotYet (lib : ClientLib) (endpoint : String) (index : ℕ) : Json → Checked String
  | .string address =>
    if lib.isValidEd25519PublicKey address then return address
    else throw (.response endpoint s!"not_yet_checked_in[{index}] is not a watcher address.")
  | _ => throw (.response endpoint s!"not_yet_checked_in[{index}] is not a watcher address.")

def getCurrentRound (lib : ClientLib) (indexerGet : IndexerGet) (slaId : ℤ) :
    Checked CurrentRound := do
  let endpoint := "/v1/slas/" ++ (← checkSlaId slaId) ++ "/current-round"
  let fields ← asObject (← indexerGet endpoint) endpoint "the response"
  match fields.lookup "checked_in", fields.lookup "not_yet_checked_in" with
  | some (.array checkedIn), some (.array notYet) =>
    let roundId ← nonNegativeInt fields "round_id" endpoint
    let roundStartedAt ← timestamp lib fields "round_started_at" endpoint
    let checkedIn ← mapIndexed (parseCheckedIn lib endpoint) 0 checkedIn
    let notYetCheckedIn ← mapIndexed (parseNotYet lib endpoint) 0 notYet
    return ⟨roundId, roundStartedAt, checkedIn, notYetCheckedIn⟩
  | _, _ =>
    throw (.response endpoint "\"checked_in\" and \"not_yet_checked_in\" must both be arrays.")

/-! ### What they accept -/

/-- Where an entry is accepted by what it is made of, so are all of them. -/
theorem mapIndexed_map_eq_ok_iff {α β : Type} {f : ℕ → Json → Checked α} {json : β → Json}
    {P : β → Prop} {read : β → α} (hf : ∀ index b a, f index (json b) = .ok a ↔ P b ∧ a = read b)
    {index : ℕ} {bs : List β} {as : List α} :
    mapIndexed f index (bs.map json) = .ok as ↔ (∀ b ∈ bs, P b) ∧ as = bs.map read := by
  induction bs generalizing index as with
  | nil => simpa [mapIndexed] using pure_eq_ok_iff.trans eq_comm
  | cons b bs ih =>
    simp only [List.map_cons, mapIndexed, bind_eq_ok_iff, pure_eq_ok_iff, hf, ih,
      List.forall_mem_cons]
    constructor
    · rintro ⟨_, ⟨hb, rfl⟩, _, ⟨hbs, rfl⟩, rfl⟩
      exact ⟨⟨hb, hbs⟩, rfl⟩
    · rintro ⟨⟨hb, hbs⟩, rfl⟩
      exact ⟨_, ⟨hb, rfl⟩, _, ⟨hbs, rfl⟩, rfl⟩

/-- The entry of `checked_in` that is served for a vote. -/
def checkedInJson (c : CheckedIn) : Json :=
  .object [("watcher", .string c.watcher), ("status", .string c.status.text),
    ("checked_at", .string c.checkedAt)]

theorem parseCheckedIn_eq_ok_iff {lib : ClientLib} {endpoint : String} {index : ℕ} {c : CheckedIn}
    {w : CheckedInWatcher} :
    parseCheckedIn lib endpoint index (checkedInJson c) = .ok w ↔
      ((lib.isAddress c.watcher = true ∧ c.watcher ≠ "") ∧
        lib.readsDate c.checkedAt = true ∧ c.checkedAt ≠ "") ∧
        w = ⟨c.watcher, c.status = .up, c.checkedAt⟩ := by
  obtain ⟨watcher, status, checkedAt⟩ := c
  have hwatcher : List.lookup "watcher" [("watcher", Json.string watcher),
      ("status", .string status.text), ("checked_at", .string checkedAt)] =
      some (.string watcher) := rfl
  have hstatus : parseUp endpoint index (List.lookup "status" [("watcher", Json.string watcher),
      ("status", .string status.text), ("checked_at", .string checkedAt)]) =
      .ok (decide (status = .up)) := by cases status <;> rfl
  have hchecked : List.lookup "checked_at" [("watcher", Json.string watcher),
      ("status", .string status.text), ("checked_at", .string checkedAt)] =
      some (.string checkedAt) := rfl
  simp only [parseCheckedIn, checkedInJson, asObject, bind_eq_ok_iff, pure_eq_ok_iff,
    Except.ok.injEq, exists_eq_left', stellarAddress_eq_ok_iff, timestamp_eq_ok_iff, hwatcher,
    hstatus, hchecked, Option.some.injEq, Json.string.injEq]
  constructor
  · rintro ⟨_, ⟨rfl, hne, haddress⟩, _, ⟨rfl, hdatene, hdate⟩, rfl⟩
    exact ⟨⟨⟨haddress, hne⟩, hdate, hdatene⟩, rfl⟩
  · rintro ⟨⟨⟨haddress, hne⟩, hdate, hdatene⟩, rfl⟩
    exact ⟨_, ⟨rfl, hne, haddress⟩, _, ⟨rfl, hdatene, hdate⟩, rfl⟩

theorem parseNotYet_eq_ok_iff {lib : ClientLib} {endpoint : String} {index : ℕ}
    {address a : String} :
    parseNotYet lib endpoint index (.string address) = .ok a ↔
      lib.isValidEd25519PublicKey address = true ∧ a = address := by
  rw [parseNotYet]
  split_ifs with hvalid
  · rw [pure_eq_ok_iff]
    exact ⟨fun h => ⟨hvalid, h.symm⟩, fun h => h.2.symm⟩
  · exact iff_of_false nofun fun h => hvalid h.1

/-- The properties of a current round as it is served. -/
def currentRoundFields (roundId : ℕ) (startedAt : String) (checkedIn : List CheckedIn)
    (notYet : List String) : Fields :=
  [("round_id", .number roundId), ("round_started_at", .string startedAt),
    ("checked_in", .array (checkedIn.map checkedInJson)),
    ("not_yet_checked_in", .array (notYet.map .string))]

/-- **What the client reads of a current round.** -/
theorem getCurrentRound_eq_ok_iff {lib : ClientLib} {slaId : ℕ} {roundId : ℕ}
    (hround : roundId < 2 ^ 53) {startedAt : String} (hstart : lib.readsDate startedAt = true)
    (hstartne : startedAt ≠ "") {checkedIn : List CheckedIn} {notYet : List String}
    {currentRound : CurrentRound} :
    getCurrentRound lib (fun _ => .ok (currentRoundBody (roundId : JsNumber) startedAt checkedIn
        notYet)) slaId = .ok currentRound ↔
      (∀ c ∈ checkedIn, (lib.isAddress c.watcher = true ∧ c.watcher ≠ "") ∧
        lib.readsDate c.checkedAt = true ∧ c.checkedAt ≠ "") ∧
      (∀ a ∈ notYet, lib.isValidEd25519PublicKey a = true) ∧
      currentRound = ⟨roundId, startedAt,
        checkedIn.map fun c => ⟨c.watcher, c.status = .up, c.checkedAt⟩, notYet⟩ := by
  set fields := currentRoundFields roundId startedAt checkedIn notYet with hfields
  set endpoint := "/v1/slas/" ++ toString (slaId : ℤ) ++ "/current-round" with hendpoint
  have hid : checkSlaId (slaId : ℤ) = .ok (toString (slaId : ℤ)) := if_neg (by omega)
  have hget : getCurrentRound lib (fun _ => .ok (currentRoundBody (roundId : JsNumber) startedAt
      checkedIn notYet)) slaId = (do
        let roundId ← nonNegativeInt fields "round_id" endpoint
        let roundStartedAt ← timestamp lib fields "round_started_at" endpoint
        let read ← mapIndexed (parseCheckedIn lib endpoint) 0 (checkedIn.map checkedInJson)
        let notYetCheckedIn ← mapIndexed (parseNotYet lib endpoint) 0 (notYet.map .string)
        return ⟨roundId, roundStartedAt, read, notYetCheckedIn⟩) := by
    rw [getCurrentRound, hid]
    rfl
  have hid' : fields.lookup "round_id" = some (.number roundId) := rfl
  have hstarted : fields.lookup "round_started_at" = some (.string startedAt) := rfl
  have hnotYet : ∀ index (a b : String), parseNotYet lib endpoint index (.string a) = .ok b ↔
      lib.isValidEd25519PublicKey a = true ∧ b = id a := fun _ _ _ => parseNotYet_eq_ok_iff
  simp only [hget, bind_eq_ok_iff, pure_eq_ok_iff, nonNegativeInt_eq_ok_iff, timestamp_eq_ok_iff,
    mapIndexed_map_eq_ok_iff fun _ _ _ => parseCheckedIn_eq_ok_iff,
    mapIndexed_map_eq_ok_iff hnotYet, hid', hstarted, Option.some.injEq, Json.number.injEq,
    Json.string.injEq, Nat.cast_inj, List.map_id]
  constructor
  · rintro ⟨_, ⟨rfl, -⟩, _, ⟨rfl, -, -⟩, _, ⟨hchecked, rfl⟩, _, ⟨haccounts, rfl⟩, rfl⟩
    exact ⟨hchecked, haccounts, rfl⟩
  · rintro ⟨hchecked, haccounts, rfl⟩
    exact ⟨_, ⟨rfl, hround⟩, _, ⟨rfl, hstartne, hstart⟩, _, ⟨hchecked, rfl⟩, _, ⟨haccounts, rfl⟩,
      rfl⟩

theorem getClock_eq_ok_iff {lib : ClientLib} {ledger : LedgerInfo} {closeTime : String}
    {roundId : ℕ} {c : Clock} :
    getClock lib (fun _ => .ok (clockBody ledger closeTime (roundId : JsNumber))) = .ok c ↔
      ledger.sequence < 2 ^ 53 ∧ (closeTime ≠ "" ∧ lib.readsDate closeTime = true) ∧
        roundId < 2 ^ 53 ∧ c = ⟨ledger.sequence, closeTime, roundId⟩ := by
  set fields : Fields := [("ledger_sequence", .number ledger.sequence),
    ("ledger_close_time", .string closeTime), ("current_round_id", .number roundId)] with hfields
  have hsequence : fields.lookup "ledger_sequence" = some (.number ledger.sequence) := rfl
  have htime : fields.lookup "ledger_close_time" = some (.string closeTime) := rfl
  have hround : fields.lookup "current_round_id" = some (.number roundId) := rfl
  have hget : getClock lib (fun _ => .ok (clockBody ledger closeTime (roundId : JsNumber))) = (do
      let ledgerSequence ← nonNegativeInt fields "ledger_sequence" "/v1/clock"
      let ledgerCloseTime ← timestamp lib fields "ledger_close_time" "/v1/clock"
      let currentRoundId ← nonNegativeInt fields "current_round_id" "/v1/clock"
      return ⟨ledgerSequence, ledgerCloseTime, currentRoundId⟩) := rfl
  simp only [hget, bind_eq_ok_iff, pure_eq_ok_iff, nonNegativeInt_eq_ok_iff, timestamp_eq_ok_iff,
    hsequence, htime, hround, Option.some.injEq, Json.number.injEq, Json.string.injEq,
    Nat.cast_inj]
  constructor
  · rintro ⟨_, ⟨rfl, hsequence53⟩, _, ⟨rfl, htime⟩, _, ⟨rfl, hround53⟩, rfl⟩
    exact ⟨hsequence53, htime, hround53, rfl⟩
  · rintro ⟨hsequence53, htime, hround53, rfl⟩
    exact ⟨_, ⟨rfl, hsequence53⟩, _, ⟨rfl, htime⟩, _, ⟨rfl, hround53⟩, rfl⟩

/-! ### The clock -/

/-- What is documented of `Date.parse`: it reads what `toISOString` writes. -/
def ClientLib.ReadsIso (lib : ClientLib) : Prop :=
  ∀ ms : ℕ, ms ≤ maxTime → lib.readsDate (isoText ms) = true

section

variable {lib : ClientLib} {texts : TextLib} {l : ℕ} {db db' : Db}
  {tr : List (Event apiInterface)} {body : Json}

/-- What a server answers for the clock. -/
theorem exec_clock_iff (hl : 0 < l) (hl1024 : l < 2 ^ 1024) :
    Exec ApiAnswers (clock texts (l : JsNumber)) db tr (.ok body) db' ↔
      db' = db ∧ ∃ raw t, ∃ ledger : LedgerInfo, tr = [⟨.getLatestLedger, .ok raw⟩] ∧
        Reports raw ledger.sequence t ∧ ledger.closeTimeMs = t * 1000 ∧
        body = clockBody ledger (isoText (t * 1000 : ℕ)) ((t / l : ℕ) : JsNumber) := by
  constructor
  · intro h
    obtain ⟨tr₁, ledger, db₁, tr₂, hledger, hrest, rfl⟩ := exec_bind_ok_iff.mp h
    obtain ⟨rfl, raw, t, rfl, hraw, hms⟩ := exec_getLatestLedgerInfo.mp hledger
    rw [currentRoundId_eq hms hl hl1024, hms, toISOString_natCast hraw.closeTime_le] at hrest
    obtain ⟨rfl, hbody, rfl⟩ := exec_return_iff.mp hrest
    exact ⟨rfl, raw, t, ledger, rfl, hraw, hms, Except.ok.inj hbody⟩
  · rintro ⟨rfl, raw, t, ledger, rfl, hraw, hms, rfl⟩
    refine exec_bind_ok_iff.mpr ⟨_, ledger, db', [],
      exec_getLatestLedgerInfo.mpr ⟨rfl, raw, t, rfl, hraw, hms⟩, ?_, rfl⟩
    rw [currentRoundId_eq hms hl hl1024, hms, toISOString_natCast hraw.closeTime_le]
    exact exec_return_iff.mpr ⟨rfl, rfl, rfl⟩

/-- **The clock, end to end.** A server answers and the client reads the answer exactly when the
RPC reports a ledger, and what is read is that ledger and the contract's round at its close. -/
theorem clock_read_iff (hiso : lib.ReadsIso) (hl : 0 < l) (hl1024 : l < 2 ^ 1024)
    {raw : Option Json} {c : Clock} :
    (∃ body, Exec ApiAnswers (clock texts (l : JsNumber)) db [⟨.getLatestLedger, .ok raw⟩]
        (.ok body) db ∧ getClock lib (fun _ => .ok body) = .ok c) ↔
      ∃ t : ℕ, Reports raw c.ledgerSequence t ∧
        c.ledgerCloseTime = isoText (t * 1000 : ℕ) ∧ c.currentRoundId = t / l := by
  constructor
  · rintro ⟨body, hexec, hread⟩
    obtain ⟨-, raw', t, ledger, htr, hraw, -, rfl⟩ := (exec_clock_iff hl hl1024).mp hexec
    obtain ⟨-, -, -, rfl⟩ := getClock_eq_ok_iff.mp hread
    cases htr
    exact ⟨t, hraw, rfl, rfl⟩
  · rintro ⟨t, hraw, htime, hround⟩
    let ledger : LedgerInfo := ⟨c.ledgerSequence, t * 1000, hraw.closeTime_le⟩
    have hsafe : t / l < 2 ^ 53 := by
      have ht := hraw.closeTime_le
      have hle := Nat.div_le_self t l
      rw [maxTime] at ht
      omega
    refine ⟨clockBody ledger (isoText (t * 1000 : ℕ)) ((t / l : ℕ) : JsNumber),
      (exec_clock_iff hl hl1024).mpr ⟨rfl, raw, t, ledger, rfl, hraw, rfl, rfl⟩,
      getClock_eq_ok_iff.mpr ⟨hraw.sequence_lt, ⟨isoText_ne_empty _, hiso _ hraw.closeTime_le⟩,
        hsafe, ?_⟩⟩
    rw [← htime, ← hround]

end

/-! ### The current round -/

/-- The status a vote is shown with. -/
def shownStatus : CheckStatus → WatcherCheckStatus
  | .up => .up
  | .down => .down

/-- The votes of a well-formed history pass the client's checks. -/
theorem votes_accepted {lib : ClientLib} (hlib : lib.Documented) {es : Emitted}
    (hes : ∀ e ∈ es, WellFormed lib e) {slaId : String} {roundId : ℕ} {v : CheckedIn}
    (hv : v ∈ es.votes slaId roundId) :
    (lib.isAddress v.watcher = true ∧ v.watcher ≠ "") ∧
      lib.readsDate v.checkedAt = true ∧ v.checkedAt ≠ "" := by
  obtain ⟨⟨header, e⟩, he, hread⟩ := List.mem_filterMap.mp hv
  have hwf := hes _ he
  have htimene : header.ledgerClosedAt ≠ "" := by
    intro hempty
    have hdate := hwf.ledgerClosedAt
    rw [hempty] at hdate
    cases hdate
  cases e with
  | checkSubmitted s watcher r hash status =>
    obtain ⟨-, hvote⟩ := Option.ite_none_right_eq_some.mp hread
    obtain rfl := Option.some.inj hvote
    have haddress : lib.isAddress watcher = true :=
      hwf.addresses watcher (List.mem_singleton_self watcher)
    refine ⟨⟨haddress, hlib.ne_empty_of_isAddress haddress⟩, ?_, htimene⟩
    rw [ClientLib.readsDate, hwf.ledgerClosedAt, Bool.true_or]
  | _ => cases hread

/-- **The current round, end to end.** Over a well-formed history the client reads what a server
answers exactly when every registered address without a vote is an account. It then shows each vote
with its status, and each of those addresses as pending. -/
theorem current_round_read_iff {lib : ClientLib} (hlib : lib.Documented) (hiso : lib.ReadsIso)
    {texts : TextLib} (htexts : texts.Documented) {es : Emitted}
    (hes : ∀ e ∈ es, WellFormed lib e) {db : Db} (hdb : db.Follows es.rows) {l : ℕ} (hl : 0 < l)
    (hl1024 : l < 2 ^ 1024) {slaId : ℕ} {tr : List (Event apiInterface)} {body : Json} {db' : Db}
    (h : AnswersCurrentRound texts l (toString slaId) db tr body db') :
    ∃ t : ℕ, (∃ raw sequence, (⟨.getLatestLedger, .ok raw⟩ : Event apiInterface) ∈ tr ∧
        Reports raw sequence t) ∧
      ((∃ currentRound, getCurrentRound lib (fun _ => .ok body) slaId = .ok currentRound) ↔
        ∀ a, es.Registered a → ¬ es.HasVoted (toString slaId) (t / l) a →
          lib.isValidEd25519PublicKey a = true) ∧
      ∀ currentRound, getCurrentRound lib (fun _ => .ok body) slaId = .ok currentRound →
        currentRound.roundId = t / l ∧
        currentRound.roundStartedAt = isoText (t / l * l * 1000 : ℕ) ∧
        (∀ w, w ∈ currentRound.watchers ↔
          (∃ v ∈ es.votes (toString slaId) (t / l), w = ⟨v.watcher, shownStatus v.status⟩) ∨
          w.status = .pending ∧ es.Registered w.address ∧
            ¬ es.HasVoted (toString slaId) (t / l) w.address) ∧
        (((es.votes (toString slaId) (t / l)).map CheckedIn.watcher).Nodup →
          (currentRound.watchers.map RoundWatcherView.address).Nodup) := by
  obtain ⟨-, raw, sequence, t, checkedIn, notYet, hmem, hraw, rfl, hvotes, hnodup, hnotYet⟩ :=
    h.of_follows hdb htexts hl hl1024
  have hstart : t / l * l * 1000 ≤ maxTime :=
    (Nat.mul_le_mul_right 1000 (Nat.div_mul_le_self t l)).trans hraw.closeTime_le
  have hsafe : t / l < 2 ^ 53 := by
    have ht := hraw.closeTime_le
    have hle := Nat.div_le_self t l
    rw [maxTime] at ht
    omega
  have haccepted : ∀ c ∈ checkedIn, (lib.isAddress c.watcher = true ∧ c.watcher ≠ "") ∧
      lib.readsDate c.checkedAt = true ∧ c.checkedAt ≠ "" :=
    fun c hc => votes_accepted hlib hes (hvotes.mem_iff.mp hc)
  have hread := fun currentRound => @getCurrentRound_eq_ok_iff lib slaId (t / l) hsafe _
    (hiso _ hstart) (isoText_ne_empty _) checkedIn notYet currentRound
  refine ⟨t, ⟨raw, sequence, hmem, hraw⟩, ?_, fun currentRound hok => ?_⟩
  · simp only [hread, exists_and_left, exists_eq, and_true, and_iff_right haccepted, hnotYet,
      and_imp]
  · obtain ⟨-, -, rfl⟩ := (hread currentRound).mp hok
    have hchecked : (CurrentRound.watchers ⟨t / l, isoText (t / l * l * 1000 : ℕ),
        checkedIn.map fun c => ⟨c.watcher, c.status = .up, c.checkedAt⟩, notYet⟩) =
        checkedIn.map (fun c => ⟨c.watcher, shownStatus c.status⟩) ++
          notYet.map fun a => ⟨a, .pending⟩ := by
      rw [CurrentRound.watchers, List.map_map]
      refine congrArg (· ++ _) (List.map_congr_left fun c _ => ?_)
      cases hstatus : c.status <;> simp [hstatus, shownStatus]
    rw [hchecked]
    refine ⟨rfl, rfl, fun w => ?_, fun hdistinct => ?_⟩
    · rw [List.mem_append, List.mem_map, List.mem_map]
      refine or_congr ?_ ?_
      · simp only [hvotes.mem_iff, eq_comm]
      · constructor
        · rintro ⟨a, ha, rfl⟩
          exact ⟨rfl, (hnotYet a).mp ha⟩
        · rintro ⟨hpending, hmember⟩
          exact ⟨w.address, (hnotYet _).mpr hmember, by rw [← hpending]⟩
    · rw [List.map_append, List.map_map, List.map_map]
      refine List.Nodup.append ?_ ?_ ?_
      · exact ((hvotes.map CheckedIn.watcher).nodup_iff).mpr hdistinct
      · exact (List.map_id notYet).symm ▸ hnodup
      · intro a hchecked hpending
        obtain ⟨c, hc, rfl⟩ := List.mem_map.mp hchecked
        obtain ⟨b, hb, hsame⟩ := List.mem_map.mp hpending
        exact ((hnotYet b).mp hb).2 ⟨c, hvotes.mem_iff.mp hc, hsame.symm⟩

/-! ### A watcher that is a contract -/

/-- Library functions whose `Date.parse` reads any text. -/
def readerLib : ClientLib := { sampleLib with readsOtherDate := fun _ => true }

theorem documented_readerLib : readerLib.Documented :=
  ⟨documented_sampleLib.length_ed25519, documented_sampleLib.length_contract,
    documented_sampleLib.parseURL_explorer⟩

theorem readsIso_readerLib : readerLib.ReadsIso := fun _ _ => Bool.or_true _

private theorem minute_lt : 60 < 2 ^ 1024 := by
  calc 60 < 2 ^ 60 := Nat.lt_two_pow_self
    _ ≤ 2 ^ 1024 := pow_le_pow_right₀ one_le_two (by norm_num)

/-- The clock of a ledger that closed after two minutes, with rounds of one. -/
theorem clock_read_two_minutes :
    ∃ body, Exec ApiAnswers (clock decimalText (60 : ℕ)) Db.empty
        [⟨.getLatestLedger, .ok reportedLedger⟩] (.ok body) Db.empty ∧
      getClock readerLib (fun _ => .ok body) = .ok ⟨100, isoText (120 * 1000 : ℕ), 2⟩ :=
  (clock_read_iff readsIso_readerLib (by decide) minute_lt).mpr
    ⟨120, reports_reportedLedger, rfl, rfl⟩

/-- A contract is registered as a watcher. -/
def contractWatcher : Emitted :=
  [(⟨"1", 10, "2026-09-27T23:40:00Z", String.ofList (.replicate 64 'a'), "registry"⟩,
    .watcher .registered zeroContract)]

theorem wellFormed_contractWatcher : ∀ e ∈ contractWatcher, WellFormed readerLib e := by
  have hcontract : readerLib.isAddress zeroContract = true :=
    (Bool.or_eq_true _ _).mpr (.inr (decide_eq_true (p := zeroContract = zeroContract) rfl))
  intro e he
  obtain rfl := List.mem_singleton.mp he
  refine ⟨by simp [eventIds], by simp [eventAddresses, hcontract], ?_, by decide⟩
  rw [IsTxHash, String.toList_ofList]
  refine ⟨List.length_replicate, fun c hc => ?_⟩
  rw [List.eq_of_mem_replicate hc]
  rfl

/-- A fresh database that has stored the registration. -/
def contractWatcherDb : Db := Db.empty.applyBatch ⟨.ofEvents contractWatcher.rows, 10, some "c"⟩

theorem follows_contractWatcherDb : contractWatcherDb.Follows contractWatcher.rows :=
  have hkeys : DistinctKeys ([] ++ contractWatcher.rows) :=
    ⟨List.nodup_nil, List.nodup_nil, List.nodup_nil, List.nodup_nil⟩
  (Db.holds_empty.applyBatch hkeys _ _).follows

/-- Until the contract votes, no current round is read. -/
theorem current_round_not_read_contract :
    ∃ tr body, AnswersCurrentRound decimalText 60 (toString 1) contractWatcherDb tr body
        contractWatcherDb ∧
      ¬ ∃ currentRound, getCurrentRound readerLib (fun _ => .ok body) (1 : ℕ) =
        .ok currentRound := by
  obtain ⟨tr, body, hanswer⟩ := @exists_workerCurrentRound decimalText 60 (by decide)
    minute_lt _ _ _ reports_reportedLedger (toString 1) contractWatcherDb
  obtain ⟨t, -, hiff, -⟩ := current_round_read_iff documented_readerLib readsIso_readerLib
    documented_decimalText wellFormed_contractWatcher follows_contractWatcherDb (by decide)
    minute_lt hanswer
  refine ⟨tr, body, hanswer, fun hread => ?_⟩
  have hregistered : contractWatcher.Registered zeroContract := ⟨[], _, [], rfl, by simp⟩
  have hunvoted : ¬ contractWatcher.HasVoted (toString 1) (t / 60) zeroContract :=
    fun ⟨v, hv, _⟩ => by cases hv
  have haccount : zeroContract = zeroAccount :=
    of_decide_eq_true (hiff.mp hread zeroContract hregistered hunvoted)
  exact absurd haccount (by decide)

end Web

end SlaSettle
