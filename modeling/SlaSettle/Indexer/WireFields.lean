import SlaSettle.Indexer.ContractEvent
import SlaSettle.Js.Decimal

/-!
# Rows and the fields on the wire

Classification converts most of the fields it reads with `String(…)` and `Number(…)`, which accept
anything, and looks at the shape of a few. `Renders event e` says that a row shows fields that are
there: each at the place and of the type that the contract declares. `Faithful events` is what a
page of events should come to: one row for each event that has its fields, in order, none for the
others, whatever surrounds them.

A page that has an event with a misshapen hash, amount or payload throws. `rows_faithful_iff` says
that a page which does not throw is faithful exactly when all its events that are not skipped have
the fields that are converted leniently. In `rows_fabricated`, one has not.
-/

namespace SlaSettle

namespace Indexer

open Js

/-! ### Types of the wire format -/

/-- A `u64`. -/
def isU64 : JsValue → Bool
  | .bigint n => decide (0 ≤ n) && decide (n < 2 ^ 64)
  | _ => false

/-- A `u32`. -/
def isU32 : JsValue → Bool
  | .number n => decide (0 ≤ n) && decide (n < 2 ^ 32)
  | _ => false

/-- A string, which is what an address arrives as. -/
def isText : JsValue → Bool
  | .string _ => true
  | _ => false

def isBytes : JsValue → Bool
  | .bytes _ => true
  | _ => false

/-- A `BytesN<32>`. -/
def isBytes32 : JsValue → Bool
  | .bytes b => b.length = 32
  | _ => false

/-- What `amountToString` accepts. -/
def isBigintOrText : JsValue → Bool
  | .bigint _ | .string _ => true
  | _ => false

/-- A decimal integer, with a sign or without. -/
def isInteger (text : String) : Bool :=
  match text.toList with
  | '-' :: cs => isDecimal (.ofList cs)
  | cs => isDecimal (.ofList cs)

/-- An amount: an integer, or the text of one. -/
def isAmount : JsValue → Bool
  | .bigint _ => true
  | .string s => isInteger s
  | _ => false

/-- `data` has no properties to read. -/
def isNullish : JsValue → Bool
  | .undefined | .null => true
  | _ => false

namespace DecodedEvent

/-- The event a decoded event is, by its topic. -/
def type (event : DecodedEvent) : Option EventType := eventType? event.topicSymbol

/-- `event.topics[i]` -/
def topic (event : DecodedEvent) (i : ℕ) : JsValue := JsValue.element event.topics i

/-- `event.data.name`, where it can be read. -/
def field (event : DecodedEvent) (name : String) : JsValue :=
  match event.data with
  | .object fields => (fields.lookup name).getD .undefined
  | _ => .undefined

theorem getField_eq {event : DecodedEvent} (h : isNullish event.data = false) (name : String) :
    event.data.getField name = .ok (event.field name) := by
  rw [field]
  cases hdata : event.data with
  | undefined | null => rw [hdata] at h; cases h
  | object fields => rfl
  | _ => rfl

theorem getField_error {event : DecodedEvent} (h : isNullish event.data = true) (name : String) :
    ∃ e, event.data.getField name = .error e := by
  cases hdata : event.data with
  | undefined | null => exact ⟨_, rfl⟩
  | _ => rw [hdata] at h; cases h

/-- The event is skipped: it is none that is known, or a check that is quarantined. -/
def isSkipped (event : DecodedEvent) : Bool :=
  match event.type with
  | none => true
  | some .checkSubmitted =>
    !isNullish event.data && (parseCheckStatus (event.field "status")).isNone
  | _ => false

/-- The event throws: its payload, its hash or its amount is of a kind that is checked for. -/
def isRejected (event : DecodedEvent) : Bool :=
  match event.type with
  | some .checkSubmitted =>
    isNullish event.data ||
      (parseCheckStatus (event.field "status")).isSome && !isBytes (event.field "endpoint_hash")
  | some .slaCreated =>
    isNullish event.data || !isBytes (event.field "endpoint_hash") ||
      !isBigintOrText (event.field "bond_amount")
  | some .settlementPaid => isNullish event.data || !isBigintOrText (event.field "payout")
  | some .bondToppedUp | some .bondWithdrawn =>
    isNullish event.data || !isBigintOrText (event.field "amount")
  | some .watcherRegistered | some .watcherRemoved | some .slaCancelled | none => false

/-- The event has its fields: the topics and properties that are put into a row are of their
types. -/
def hasFields (event : DecodedEvent) : Bool :=
  match event.type with
  | some .watcherRegistered | some .watcherRemoved => isText (event.topic 1)
  | some .checkSubmitted =>
    isU64 (event.topic 1) && isText (event.topic 2) && isU64 (event.field "round_id") &&
      isBytes32 (event.field "endpoint_hash")
  | some .slaCreated =>
    isU64 (event.topic 1) && isText (event.topic 2) && isText (event.field "token") &&
      isBytes32 (event.field "endpoint_hash") && isAmount (event.field "bond_amount") &&
      isU32 (event.field "quorum_threshold") && isText (event.field "beneficiary")
  | some .settlementPaid =>
    isU64 (event.topic 1) && isU64 (event.topic 2) && isAmount (event.field "payout") &&
      isText (event.field "beneficiary")
  | some .bondToppedUp | some .bondWithdrawn =>
    isU64 (event.topic 1) && isAmount (event.field "amount")
  | some .slaCancelled => isU64 (event.topic 1)
  | none => true

end DecodedEvent

/-! ### Rows that render their event -/

/-- The text is the decimal form of the value, a `u64`. -/
def RendersU64 (value : JsValue) (text : String) : Prop :=
  ∃ n : ℤ, 0 ≤ n ∧ n < 2 ^ 64 ∧ value = .bigint n ∧ text = toString n

/-- The number is the value, a `u32`. -/
def RendersU32 (value : JsValue) (number : Option JsNumber) : Prop :=
  ∃ n : ℤ, 0 ≤ n ∧ n < 2 ^ 32 ∧ value = .number n ∧ number = some (.finite n)

/-- The text is the value, a string. -/
def RendersText (value : JsValue) (text : String) : Prop := value = .string text

/-- The text is the hex form of the value, 32 bytes. -/
def RendersBytes32 (value : JsValue) (text : String) : Prop :=
  ∃ bytes : List UInt8, bytes.length = 32 ∧ value = .bytes bytes ∧ text = hexText bytes

/-- The text is the value, a decimal integer. -/
def RendersAmount (value : JsValue) (text : String) : Prop :=
  (∃ n : ℤ, value = .bigint n ∧ text = toString n) ∨
    value = .string text ∧ isInteger text = true

/-- The status is the one-element vector of its symbol. -/
def RendersStatus (value : JsValue) : CheckStatus → Prop
  | .up => value = .array [.string "Up"]
  | .down => value = .array [.string "Down"]

def WatcherEventType.event : WatcherEventType → EventType
  | .registered => .watcherRegistered
  | .removed => .watcherRemoved

def LifecycleType.event : LifecycleType → EventType
  | .bondToppedUp => .bondToppedUp
  | .slaCancelled => .slaCancelled
  | .bondWithdrawn => .bondWithdrawn

/-- **A row renders its event:** every field of it is the one that the contract declares, at its
place and of its type. -/
def Renders (event : DecodedEvent) : ContractEvent → Prop
  | .watcher w => event.type = some w.type.event ∧ RendersText (event.topic 1) w.address ∧
      w.occurredAt = event.ledgerCloseTime
  | .check c => event.type = some .checkSubmitted ∧ RendersU64 (event.topic 1) c.slaId ∧
      RendersText (event.topic 2) c.watcher ∧ RendersU64 (event.field "round_id") c.roundId ∧
      RendersBytes32 (event.field "endpoint_hash") c.endpointHash ∧
      RendersStatus (event.field "status") c.status ∧
      c.eventId = event.eventId ∧ c.checkedAt = event.ledgerCloseTime
  | .sla s => event.type = some .slaCreated ∧ RendersU64 (event.topic 1) s.slaId ∧
      RendersText (event.topic 2) s.provider ∧ RendersText (event.field "token") s.token ∧
      RendersBytes32 (event.field "endpoint_hash") s.endpointHash ∧
      RendersAmount (event.field "bond_amount") s.bondAmountAtCreation ∧
      RendersU32 (event.field "quorum_threshold") s.quorumThreshold ∧
      RendersText (event.field "beneficiary") s.beneficiary ∧
      s.createdAt = event.ledgerCloseTime ∧ s.txHash = event.txHash
  | .settlement s => event.type = some .settlementPaid ∧ RendersU64 (event.topic 1) s.slaId ∧
      RendersU64 (event.topic 2) s.roundId ∧ RendersAmount (event.field "payout") s.penaltyAmount ∧
      RendersText (event.field "beneficiary") s.beneficiary ∧ s.quorumThreshold = none ∧
      s.eventId = event.eventId ∧ s.txHash = event.txHash ∧
      s.ledgerCloseTime = event.ledgerCloseTime
  | .lifecycle l => event.type = some l.eventType.event ∧ RendersU64 (event.topic 1) l.slaId ∧
      (if l.eventType = .slaCancelled then l.amount = none
        else ∃ text, l.amount = some text ∧ RendersAmount (event.field "amount") text) ∧
      l.eventId = event.eventId ∧ l.txHash = event.txHash ∧
      l.ledgerCloseTime = event.ledgerCloseTime

/-! ### Fields that are converted -/

section

variable {value : JsValue} {text : String}

theorem rendersU64_iff : RendersU64 value text ↔ isU64 value = true ∧ text = value.toText := by
  cases value with
  | bigint n => simp [RendersU64, isU64, JsValue.toText, and_assoc]
  | _ => simp [RendersU64, isU64]

theorem rendersU32_iff {number : Option JsNumber} :
    RendersU32 value number ↔ isU32 value = true ∧ number = some value.toNumber := by
  cases value with
  | number n => simp [RendersU32, isU32, JsValue.toNumber, and_assoc]
  | _ => simp [RendersU32, isU32]

theorem rendersText_iff : RendersText value text ↔ isText value = true ∧ text = value.toText := by
  cases value with
  | string s => simp [RendersText, isText, JsValue.toText, eq_comm]
  | _ => simp [RendersText, isText]

theorem rendersBytes32_iff :
    RendersBytes32 value text ↔ isBytes32 value = true ∧ bytesToHex value = .ok text := by
  cases value with
  | bytes b => simp [RendersBytes32, isBytes32, bytesToHex, eq_comm]
  | _ => simp [RendersBytes32, isBytes32]

theorem rendersAmount_iff :
    RendersAmount value text ↔ isAmount value = true ∧ amountToString value = .ok text := by
  cases value with
  | bigint n =>
    simp only [RendersAmount, isAmount, amountToString, JsValue.bigint.injEq, Except.ok.injEq,
      reduceCtorEq, false_and, or_false, exists_eq_left', true_and]
    exact eq_comm
  | string s =>
    simp only [RendersAmount, isAmount, amountToString, JsValue.string.injEq, Except.ok.injEq,
      reduceCtorEq, false_and, exists_false, false_or]
    constructor
    · rintro ⟨rfl, h⟩
      exact ⟨h, rfl⟩
    · rintro ⟨h, rfl⟩
      exact ⟨rfl, h⟩
  | _ => simp [RendersAmount, isAmount]

theorem rendersStatus_iff {status : CheckStatus} :
    RendersStatus value status ↔ parseCheckStatus value = some status := by
  unfold parseCheckStatus
  split
  · cases status <;> simp [RendersStatus]
  · cases status <;> simp [RendersStatus]
  · rename_i hup hdown
    cases status with
    | up => simpa [RendersStatus] using hup
    | down => simpa [RendersStatus] using hdown

/-- `bytesToHex` looks at the kind of its value only. -/
theorem bytesToHex_cases (value : JsValue) :
    isBytes value = true ∧ (∃ text, bytesToHex value = .ok text) ∨
      isBytes value = false ∧ ∃ e, bytesToHex value = .error e := by
  cases value <;> simp [isBytes, bytesToHex]

/-- So does `amountToString`. -/
theorem amountToString_cases (value : JsValue) :
    isBigintOrText value = true ∧ (∃ text, amountToString value = .ok text) ∨
      isBigintOrText value = false ∧ ∃ e, amountToString value = .error e := by
  cases value <;> simp [isBigintOrText, amountToString]

end

/-! ### Reading an event -/

section

variable {event : DecodedEvent}

theorem readEvent_nullish (hdata : isNullish event.data = true)
    (htype : event.type = some .checkSubmitted ∨ event.type = some .slaCreated ∨
      event.type = some .settlementPaid ∨ event.type = some .bondToppedUp ∨
      event.type = some .bondWithdrawn) : ∃ e, readEvent event = .error e := by
  have hfield := DecodedEvent.getField_error hdata
  rw [DecodedEvent.type] at htype
  rw [readEvent]
  rcases htype with htype | htype | htype | htype | htype
  · obtain ⟨e, he⟩ := hfield "status"
    exact ⟨e, by rw [htype]; simp only [he]; rfl⟩
  · obtain ⟨e, he⟩ := hfield "token"
    exact ⟨e, by rw [htype]; simp only [slaRow, he]; rfl⟩
  · obtain ⟨e, he⟩ := hfield "payout"
    exact ⟨e, by rw [htype]; simp only [settlementRow, he]; rfl⟩
  · obtain ⟨e, he⟩ := hfield "amount"
    exact ⟨e, by rw [htype]; simp only [he]; rfl⟩
  · obtain ⟨e, he⟩ := hfield "amount"
    exact ⟨e, by rw [htype]; simp only [he]; rfl⟩

theorem readEvent_check (htype : event.type = some .checkSubmitted)
    (hdata : isNullish event.data = false) :
    readEvent event =
      match parseCheckStatus (event.field "status") with
      | none => .ok none
      | some status => (bytesToHex (event.field "endpoint_hash")).map fun endpointHash =>
          some (.check {
            eventId := event.eventId
            slaId := (event.topic 1).toText
            roundId := (event.field "round_id").toText
            watcher := (event.topic 2).toText
            status
            endpointHash
            checkedAt := event.ledgerCloseTime }) := by
  rw [DecodedEvent.type] at htype
  rw [readEvent, htype]
  simp only [checkRow, DecodedEvent.getField_eq hdata]
  simp only [bind, Except.bind, pure, Except.pure]
  cases parseCheckStatus (event.field "status") with
  | none => rfl
  | some status => cases bytesToHex (event.field "endpoint_hash") <;> rfl

theorem readEvent_sla (htype : event.type = some .slaCreated)
    (hdata : isNullish event.data = false) :
    readEvent event =
      (bytesToHex (event.field "endpoint_hash")).bind fun endpointHash =>
        (amountToString (event.field "bond_amount")).map fun bondAmount =>
          some (.sla {
            slaId := (event.topic 1).toText
            provider := (event.topic 2).toText
            token := (event.field "token").toText
            endpointHash
            bondAmountAtCreation := bondAmount
            quorumThreshold := some (event.field "quorum_threshold").toNumber
            beneficiary := (event.field "beneficiary").toText
            createdAt := event.ledgerCloseTime
            txHash := event.txHash }) := by
  rw [DecodedEvent.type] at htype
  rw [readEvent, htype]
  simp only [slaRow, DecodedEvent.getField_eq hdata]
  simp only [bind, Except.bind, pure, Except.pure]
  cases bytesToHex (event.field "endpoint_hash") with
  | error e => rfl
  | ok endpointHash => cases amountToString (event.field "bond_amount") <;> rfl

theorem readEvent_settlement (htype : event.type = some .settlementPaid)
    (hdata : isNullish event.data = false) :
    readEvent event =
      (amountToString (event.field "payout")).map fun penaltyAmount =>
        some (.settlement {
          eventId := event.eventId
          slaId := (event.topic 1).toText
          roundId := (event.topic 2).toText
          quorumThreshold := none
          penaltyAmount
          beneficiary := (event.field "beneficiary").toText
          txHash := event.txHash
          ledgerCloseTime := event.ledgerCloseTime }) := by
  rw [DecodedEvent.type] at htype
  rw [readEvent, htype]
  simp only [settlementRow, DecodedEvent.getField_eq hdata]
  simp only [bind, Except.bind, pure, Except.pure]
  cases amountToString (event.field "payout") <;> rfl

theorem readEvent_bond {t : LifecycleType} (ht : t ≠ .slaCancelled)
    (htype : event.type = some t.event) (hdata : isNullish event.data = false) :
    readEvent event =
      (amountToString (event.field "amount")).map fun amount =>
        some (.lifecycle (lifecycleEventRow event t (some amount))) := by
  rw [DecodedEvent.type] at htype
  rw [readEvent, htype]
  cases t with
  | slaCancelled => exact absurd rfl ht
  | bondToppedUp | bondWithdrawn =>
    simp only [LifecycleType.event, DecodedEvent.getField_eq hdata]
    simp only [bind, Except.bind, pure, Except.pure]
    cases amountToString (event.field "amount") <;> rfl

/-- The two events of a bond are never skipped, and their amount is checked. -/
theorem readEvent_bond_cases {t : LifecycleType} (ht : t ≠ .slaCancelled)
    (htype : event.type = some t.event) :
    (isNullish event.data || !isBigintOrText (event.field "amount")) = true ∧
        (∃ e, readEvent event = .error e) ∨
      (isNullish event.data || !isBigintOrText (event.field "amount")) = false ∧
        ∃ e, readEvent event = .ok (some e) ∧
          (Renders event e ↔
            (isU64 (event.topic 1) && isAmount (event.field "amount")) = true) := by
  cases hdata : isNullish event.data with
  | true =>
    refine .inl ⟨rfl, readEvent_nullish hdata ?_⟩
    cases t with
    | slaCancelled => exact absurd rfl ht
    | bondToppedUp => exact .inr (.inr (.inr (.inl htype)))
    | bondWithdrawn => exact .inr (.inr (.inr (.inr htype)))
  | false =>
  rw [readEvent_bond ht htype hdata]
  rcases amountToString_cases (event.field "amount") with
    ⟨hkind, amount, hamount⟩ | ⟨hkind, e, he⟩
  · refine .inr ⟨by simp [hkind], _, by rw [hamount]; rfl, ?_⟩
    cases t with
    | slaCancelled => exact absurd rfl ht
    | bondToppedUp | bondWithdrawn =>
      simp [Renders, htype, lifecycleEventRow, LifecycleType.event, rendersU64_iff,
        rendersAmount_iff, hamount, DecodedEvent.topic]
  · exact .inl ⟨by simp [hkind], e, by rw [he]; rfl⟩

/-- What becomes of an event: it throws, or it is skipped, or it becomes a row, which renders it if
it has its fields. -/
theorem readEvent_cases (event : DecodedEvent) :
    (event.isRejected = true ∧ event.isSkipped = false ∧ ∃ e, readEvent event = .error e) ∨
      (event.isRejected = false ∧ event.isSkipped = true ∧ readEvent event = .ok none) ∨
      (event.isRejected = false ∧ event.isSkipped = false ∧
        ∃ e, readEvent event = .ok (some e) ∧ (Renders event e ↔ event.hasFields = true)) := by
  have htopic : eventType? event.topicSymbol = event.type := rfl
  cases htype : event.type with
  | none =>
    refine .inr (.inl ⟨?_, ?_, ?_⟩)
    · rw [DecodedEvent.isRejected, htype]
    · rw [DecodedEvent.isSkipped, htype]
    · rw [readEvent, htopic, htype]
  | some t =>
  rw [DecodedEvent.isRejected, DecodedEvent.isSkipped, DecodedEvent.hasFields, htype]
  cases t with
  | watcherRegistered =>
    refine .inr (.inr ⟨rfl, rfl, _, by rw [readEvent, htopic, htype], ?_⟩)
    simp [Renders, htype, watcherEvent, WatcherEventType.event, rendersText_iff, DecodedEvent.topic]
  | watcherRemoved =>
    refine .inr (.inr ⟨rfl, rfl, _, by rw [readEvent, htopic, htype], ?_⟩)
    simp [Renders, htype, watcherEvent, WatcherEventType.event, rendersText_iff, DecodedEvent.topic]
  | slaCancelled =>
    refine .inr (.inr ⟨rfl, rfl, _, by rw [readEvent, htopic, htype], ?_⟩)
    simp [Renders, htype, lifecycleEventRow, LifecycleType.event, rendersU64_iff,
      DecodedEvent.topic]
  | checkSubmitted =>
    cases hdata : isNullish event.data with
    | true => exact .inl ⟨rfl, rfl, readEvent_nullish hdata (.inl htype)⟩
    | false =>
    rw [readEvent_check htype hdata]
    cases hstatus : parseCheckStatus (event.field "status") with
    | none => exact .inr (.inl ⟨rfl, rfl, rfl⟩)
    | some status =>
    rcases bytesToHex_cases (event.field "endpoint_hash") with
      ⟨hbytes, text, htext⟩ | ⟨hbytes, e, he⟩
    · refine .inr (.inr ⟨by simp [hbytes], rfl, _, by rw [htext]; rfl, ?_⟩)
      simp [Renders, htype, rendersU64_iff, rendersText_iff, rendersBytes32_iff, htext,
        rendersStatus_iff, hstatus, and_assoc]
    · exact .inl ⟨by simp [hbytes], rfl, e, by rw [he]; rfl⟩
  | slaCreated =>
    cases hdata : isNullish event.data with
    | true => exact .inl ⟨rfl, rfl, readEvent_nullish hdata (.inr (.inl htype))⟩
    | false =>
    rw [readEvent_sla htype hdata]
    rcases bytesToHex_cases (event.field "endpoint_hash") with
      ⟨hbytes, text, htext⟩ | ⟨hbytes, e, he⟩
    · rcases amountToString_cases (event.field "bond_amount") with
        ⟨hkind, amount, hamount⟩ | ⟨hkind, e, he⟩
      · refine .inr (.inr ⟨by simp [hbytes, hkind], rfl, _, by rw [htext, hamount]; rfl, ?_⟩)
        simp [Renders, htype, rendersU64_iff, rendersText_iff, rendersBytes32_iff, htext,
          rendersAmount_iff, hamount, rendersU32_iff, and_assoc]
      · exact .inl ⟨by simp [hkind], rfl, e, by rw [htext, he]; rfl⟩
    · exact .inl ⟨by simp [hbytes], rfl, e, by rw [he]; rfl⟩
  | settlementPaid =>
    cases hdata : isNullish event.data with
    | true => exact .inl ⟨rfl, rfl, readEvent_nullish hdata (.inr (.inr (.inl htype)))⟩
    | false =>
    rw [readEvent_settlement htype hdata]
    rcases amountToString_cases (event.field "payout") with
      ⟨hkind, amount, hamount⟩ | ⟨hkind, e, he⟩
    · refine .inr (.inr ⟨by simp [hkind], rfl, _, by rw [hamount]; rfl, ?_⟩)
      simp [Renders, htype, rendersU64_iff, rendersText_iff, rendersAmount_iff, hamount, and_assoc]
    · exact .inl ⟨by simp [hkind], rfl, e, by rw [he]; rfl⟩
  | bondToppedUp =>
    rcases readEvent_bond_cases (t := .bondToppedUp) nofun htype with
      ⟨hrejected, he⟩ | ⟨hrejected, he⟩
    · exact .inl ⟨hrejected, rfl, he⟩
    · exact .inr (.inr ⟨hrejected, rfl, he⟩)
  | bondWithdrawn =>
    rcases readEvent_bond_cases (t := .bondWithdrawn) nofun htype with
      ⟨hrejected, he⟩ | ⟨hrejected, he⟩
    · exact .inl ⟨hrejected, rfl, he⟩
    · exact .inr (.inr ⟨hrejected, rfl, he⟩)

/-- Data with a property is there. -/
theorem isNullish_of_field {name : String} (h : event.field name ≠ .undefined) :
    isNullish event.data = false := by
  rw [DecodedEvent.field] at h
  cases hdata : event.data with
  | object fields => rfl
  | _ => rw [hdata] at h; exact absurd rfl h

theorem RendersAmount.ne_undefined {value : JsValue} {text : String}
    (h : RendersAmount value text) : value ≠ .undefined := by
  rintro rfl
  obtain ⟨n, hn, -⟩ | ⟨hs, -⟩ := h
  · cases hn
  · cases hs

/-- An event with a row that renders it is read as that row. -/
theorem Renders.readEvent_eq {e : ContractEvent} (h : Renders event e) :
    readEvent event = .ok (some e) := by
  have htopic : eventType? event.topicSymbol = event.type := rfl
  cases e with
  | watcher w =>
    obtain ⟨type, address, occurredAt⟩ := w
    obtain ⟨htype, haddress, rfl⟩ := h
    obtain ⟨-, rfl⟩ := rendersText_iff.mp haddress
    cases type with
    | registered | removed =>
      rw [readEvent, htopic, htype]
      rfl
  | check c =>
    obtain ⟨eventId, slaId, roundId, watcher, status, endpointHash, checkedAt⟩ := c
    obtain ⟨htype, hid, hwatcher, hround, hhash, hstatus, rfl, rfl⟩ := h
    have hdata : isNullish event.data = false := by
      obtain ⟨b, -, hb, -⟩ := hhash
      exact isNullish_of_field (by rw [hb]; nofun)
    obtain ⟨-, rfl⟩ := rendersU64_iff.mp hid
    obtain ⟨-, rfl⟩ := rendersText_iff.mp hwatcher
    obtain ⟨-, rfl⟩ := rendersU64_iff.mp hround
    obtain ⟨-, htext⟩ := rendersBytes32_iff.mp hhash
    rw [readEvent_check htype hdata, rendersStatus_iff.mp hstatus, htext]
    rfl
  | sla r =>
    obtain ⟨slaId, provider, token, endpointHash, bond, threshold, beneficiary, createdAt, tx⟩ := r
    obtain ⟨htype, hid, hprovider, htoken, hhash, hbond, hthreshold, hbeneficiary, rfl, rfl⟩ := h
    have hdata := isNullish_of_field hbond.ne_undefined
    obtain ⟨-, rfl⟩ := rendersU64_iff.mp hid
    obtain ⟨-, rfl⟩ := rendersText_iff.mp hprovider
    obtain ⟨-, rfl⟩ := rendersText_iff.mp htoken
    obtain ⟨-, rfl⟩ := rendersText_iff.mp hbeneficiary
    obtain ⟨-, rfl⟩ := rendersU32_iff.mp hthreshold
    obtain ⟨-, htext⟩ := rendersBytes32_iff.mp hhash
    obtain ⟨-, hamount⟩ := rendersAmount_iff.mp hbond
    rw [readEvent_sla htype hdata, htext, hamount]
    rfl
  | settlement r =>
    obtain ⟨eventId, slaId, roundId, threshold, amount, beneficiary, tx, time⟩ := r
    obtain ⟨htype, hid, hround, hpayout, hbeneficiary, rfl, rfl, rfl, rfl⟩ := h
    have hdata := isNullish_of_field hpayout.ne_undefined
    obtain ⟨-, rfl⟩ := rendersU64_iff.mp hid
    obtain ⟨-, rfl⟩ := rendersU64_iff.mp hround
    obtain ⟨-, rfl⟩ := rendersText_iff.mp hbeneficiary
    obtain ⟨-, hamount⟩ := rendersAmount_iff.mp hpayout
    rw [readEvent_settlement htype hdata, hamount]
    rfl
  | lifecycle l =>
    obtain ⟨eventId, slaId, type, amount, tx, time⟩ := l
    obtain ⟨htype, hid, hamount, rfl, rfl, rfl⟩ := h
    obtain ⟨-, rfl⟩ := rendersU64_iff.mp hid
    by_cases htyp : type = .slaCancelled
    · subst htyp
      obtain rfl : amount = none := hamount
      rw [readEvent, htopic, htype]
      rfl
    · rw [if_neg htyp] at hamount
      obtain ⟨text, rfl, hamount⟩ := hamount
      have hdata := isNullish_of_field hamount.ne_undefined
      obtain ⟨-, htext⟩ := rendersAmount_iff.mp hamount
      rw [readEvent_bond htyp htype hdata, htext]
      rfl

end

/-! ### Texts of rows -/

/-- 64 lowercase hex digits. -/
def isHex64 (text : String) : Bool :=
  text.toList.length = 64 && text.toList.all (· ∈ "0123456789abcdef".toList)

/-- The texts of a row that were converted from another type, each with what it is. -/
def ContractEvent.converted : ContractEvent → List (String × (String → Bool))
  | .watcher _ => []
  | .check c => [(c.slaId, isDecimal), (c.roundId, isDecimal), (c.endpointHash, isHex64)]
  | .sla s =>
    [(s.slaId, isDecimal), (s.endpointHash, isHex64), (s.bondAmountAtCreation, isInteger)]
  | .settlement s =>
    [(s.slaId, isDecimal), (s.roundId, isDecimal), (s.penaltyAmount, isInteger)]
  | .lifecycle l => (l.slaId, isDecimal) :: l.amount.toList.map fun amount => (amount, isInteger)

/-- The threshold of a row. -/
def ContractEvent.threshold : ContractEvent → Option JsNumber
  | .sla s => s.quorumThreshold
  | .settlement s => s.quorumThreshold
  | .watcher _ | .check _ | .lifecycle _ => none

/-- The texts that absent values and failed conversions have. -/
def fabricated : List String := ["undefined", "null", "NaN", "[object Object]"]

/-- The converted texts of a row are what they should be, and none is fabricated. -/
def ContractEvent.Legible (e : ContractEvent) : Prop :=
  (∀ t ∈ e.converted, t.2 t.1 = true ∧ t.1 ∉ fabricated) ∧ e.threshold ≠ some .nan

section

variable {value : JsValue} {text : String}

theorem isInteger_toString (n : ℤ) : isInteger (toString n) = true := by
  cases n with
  | ofNat n =>
    have hdecimal := isDecimal_toString n
    have hne : ∀ cs, (toString n).toList ≠ '-' :: cs := by
      intro cs hcs
      exact absurd ((isDecimal_iff.mp hdecimal).2 '-' (hcs ▸ List.mem_cons_self)) (by decide)
    change isInteger (toString n) = true
    unfold isInteger
    split
    · exact absurd ‹_› (hne _)
    · rwa [String.ofList_toList]
  | negSucc n =>
    have htext : (toString (Int.negSucc n)).toList = '-' :: (toString (n + 1)).toList := by
      change ("-" ++ toString (n + 1)).toList = _
      rw [String.toList_append]
      rfl
    rw [isInteger, htext]
    simp only [String.ofList_toList]
    exact isDecimal_toString (n + 1)

theorem RendersU64.decimal (h : RendersU64 value text) : isDecimal text = true := by
  obtain ⟨n, hn, -, -, rfl⟩ := h
  exact (isDecimal_toString_int_iff n).mpr hn

theorem RendersAmount.integer (h : RendersAmount value text) : isInteger text = true := by
  rcases h with ⟨n, -, rfl⟩ | ⟨-, hinteger⟩
  · exact isInteger_toString n
  · exact hinteger

theorem RendersBytes32.hex (h : RendersBytes32 value text) : isHex64 text = true := by
  obtain ⟨bytes, hlength, -, rfl⟩ := h
  have hdigit : ∀ d : Fin 16, Nat.digitChar d ∈ "0123456789abcdef".toList := by decide
  have hdigits : ∀ (bs : List UInt8), (bs.flatMap byteToHex).length = 2 * bs.length ∧
      ∀ c ∈ bs.flatMap byteToHex, c ∈ "0123456789abcdef".toList := by
    intro bs
    induction bs with
    | nil => simp
    | cons b bs ih =>
      have hb := b.toNat_lt
      refine ⟨by simp [byteToHex, ih.1]; omega, fun c hc => ?_⟩
      rw [List.flatMap_cons, List.mem_append] at hc
      rcases hc with hc | hc
      · simp only [byteToHex, List.mem_cons, List.not_mem_nil, or_false] at hc
        rcases hc with rfl | rfl
        · exact hdigit ⟨b.toNat / 16, by omega⟩
        · exact hdigit ⟨b.toNat % 16, by omega⟩
      · exact ih.2 c hc
  rw [isHex64, hexText, String.toList_ofList, Bool.and_eq_true, decide_eq_true_eq,
    List.all_eq_true]
  exact ⟨by rw [(hdigits bytes).1, hlength], fun c hc => decide_eq_true ((hdigits bytes).2 c hc)⟩

/-- What reads as a number or a hash is not fabricated. -/
theorem not_mem_fabricated {p : String → Bool} (hp : p ∈ [isDecimal, isInteger, isHex64])
    (h : p text = true) : text ∉ fabricated := by
  have hnone : (fabricated.all fun t => !isDecimal t && !isInteger t && !isHex64 t) = true := by
    decide
  intro hmem
  have htext := List.all_eq_true.mp hnone text hmem
  simp only [Bool.and_eq_true, Bool.not_eq_true'] at htext
  simp only [List.mem_cons, List.not_mem_nil, or_false] at hp
  rcases hp with rfl | rfl | rfl
  · exact absurd (h.symm.trans htext.1.1) (by decide)
  · exact absurd (h.symm.trans htext.1.2) (by decide)
  · exact absurd (h.symm.trans htext.2) (by decide)

theorem RendersU64.shown (h : RendersU64 value text) :
    isDecimal text = true ∧ text ∉ fabricated :=
  ⟨h.decimal, not_mem_fabricated List.mem_cons_self h.decimal⟩

theorem RendersAmount.shown (h : RendersAmount value text) :
    isInteger text = true ∧ text ∉ fabricated :=
  ⟨h.integer, not_mem_fabricated (List.mem_cons_of_mem _ List.mem_cons_self) h.integer⟩

theorem RendersBytes32.shown (h : RendersBytes32 value text) :
    isHex64 text = true ∧ text ∉ fabricated :=
  ⟨h.hex, not_mem_fabricated (by simp) h.hex⟩

/-- A row that renders its event is legible. -/
theorem Renders.legible {event : DecodedEvent} {e : ContractEvent} (h : Renders event e) :
    e.Legible := by
  cases e with
  | watcher w => exact ⟨nofun, nofun⟩
  | check c =>
    obtain ⟨-, hid, -, hround, hhash, -⟩ := h
    refine ⟨?_, nofun⟩
    simp only [ContractEvent.converted, List.forall_mem_cons]
    exact ⟨hid.shown, hround.shown, hhash.shown, nofun⟩
  | sla r =>
    obtain ⟨-, hid, -, -, hhash, hbond, ⟨n, -, -, -, hthreshold⟩, -⟩ := h
    refine ⟨?_, by rw [ContractEvent.threshold, hthreshold]; nofun⟩
    simp only [ContractEvent.converted, List.forall_mem_cons]
    exact ⟨hid.shown, hhash.shown, hbond.shown, nofun⟩
  | settlement r =>
    obtain ⟨-, hid, hround, hpayout, -, hthreshold, -⟩ := h
    refine ⟨?_, by rw [ContractEvent.threshold, hthreshold]; nofun⟩
    simp only [ContractEvent.converted, List.forall_mem_cons]
    exact ⟨hid.shown, hround.shown, hpayout.shown, nofun⟩
  | lifecycle l =>
    obtain ⟨-, hid, hamount, -⟩ := h
    refine ⟨?_, nofun⟩
    simp only [ContractEvent.converted, List.forall_mem_cons]
    refine ⟨hid.shown, fun t ht => ?_⟩
    obtain ⟨amount, hmem, rfl⟩ := List.mem_map.mp ht
    split_ifs at hamount with htype
    · rw [hamount] at hmem
      cases hmem
    · obtain ⟨text, htext, hrenders⟩ := hamount
      rw [htext, Option.toList_some, List.mem_singleton] at hmem
      exact hmem ▸ hrenders.shown

end

/-! ### Pages -/

/-- What an event should yield: the row that renders it, or nothing if there is none. -/
def RowOf (event : DecodedEvent) : Option ContractEvent → Prop
  | some e => Renders event e
  | none => ∀ e, ¬ Renders event e

/-- **A page is classified faithfully** when classification throws or yields, in order, the rows
that render its events and no others; their texts are legible; and events that are skipped make no
difference. -/
structure Faithful (events : List DecodedEvent) : Prop where
  rows : ∀ batch, classifyEvents events = .ok batch → ∃ os,
    List.Forall₂ RowOf events os ∧ batch = .ofEvents os.reduceOption
  legible : ∀ batch, classifyEvents events = .ok batch → ∃ es,
    batch = .ofEvents es ∧ ∀ e ∈ es, e.Legible
  alone : classifyEvents events = classifyEvents (events.filter fun event => !event.isSkipped)

/-- Skipped events make no difference, wherever they stand. -/
theorem classifyEvents_filter (events : List DecodedEvent) :
    classifyEvents events = classifyEvents (events.filter fun event => !event.isSkipped) := by
  have hfold : ∀ (events : List DecodedEvent) (batch : ClassifiedBatch),
      events.foldlM classifyEvent batch =
        (events.filter fun event => !event.isSkipped).foldlM classifyEvent batch := by
    intro events
    induction events with
    | nil => exact fun _ => rfl
    | cons event events ih =>
      intro batch
      cases hskipped : event.isSkipped with
      | true =>
        have hread : readEvent event = .ok none := by
          rcases readEvent_cases event with h | h | h
          · exact absurd (hskipped.symm.trans h.2.1) (by decide)
          · exact h.2.2
          · exact absurd (hskipped.symm.trans h.2.1) (by decide)
        rw [List.filter_cons_of_neg (by simp [hskipped]), List.foldlM_cons, classifyEvent_eq, hread]
        exact ih batch
      | false =>
        rw [List.filter_cons_of_pos (by simp [hskipped]), List.foldlM_cons, List.foldlM_cons]
        exact congrArg _ (funext ih)
  exact hfold events emptyBatch

/-- Options of which some are missing are fewer. -/
private theorem length_reduceOption_le {α : Type} {os os' : List (Option α)}
    (h : List.Forall₂ (fun o o' => o = none ∨ o = o') os os') :
    os.reduceOption.length ≤ os'.reduceOption.length := by
  induction h with
  | nil => exact le_rfl
  | @cons o o' os os' ho _ ih =>
    rcases ho with rfl | rfl
    · rw [List.reduceOption_cons_of_none]
      cases o' with
      | none => rwa [List.reduceOption_cons_of_none]
      | some a => exact ih.trans (Nat.le_succ _)
    · cases o with
      | none => rwa [List.reduceOption_cons_of_none, List.reduceOption_cons_of_none]
      | some a => exact Nat.succ_le_succ ih

/-- If they are as many, none is missing. -/
private theorem eq_of_length_reduceOption {α : Type} {os os' : List (Option α)}
    (h : List.Forall₂ (fun o o' => o = none ∨ o = o') os os')
    (hlength : os'.reduceOption.length ≤ os.reduceOption.length) : os = os' := by
  induction h with
  | nil => rfl
  | @cons o o' os os' ho hos ih =>
    rcases ho with rfl | rfl
    · cases o' with
      | none => rw [ih hlength]
      | some a =>
        have hle := length_reduceOption_le hos
        have hlt : os'.reduceOption.length + 1 ≤ os.reduceOption.length := hlength
        omega
    · cases o with
      | none => rw [ih hlength]
      | some a => rw [ih (Nat.le_of_succ_le_succ hlength)]

/-- The number of rows in a batch. -/
def ClassifiedBatch.size (b : ClassifiedBatch) : ℕ :=
  b.watcherEvents.length + b.checks.length + b.slas.length + b.settlements.length +
    b.lifecycleEvents.length

theorem ClassifiedBatch.size_ofEvents (es : List ContractEvent) :
    (ofEvents es).size = es.length := by
  induction es with
  | nil => rfl
  | cons e es ih =>
    rw [List.length_cons, ← ih]
    cases e <;>
      simp [size, ofEvents, List.filterMap_cons, ContractEvent.watcher?, ContractEvent.check?,
        ContractEvent.sla?, ContractEvent.settlement?, ContractEvent.lifecycle?] <;> omega

/-- Pages with an event that throws throw. -/
theorem exists_isRejected_of_error {events : List DecodedEvent}
    (h : ∀ batch, classifyEvents events ≠ .ok batch) :
    ∃ event ∈ events, event.isRejected = true := by
  by_contra hnone
  push Not at hnone
  have hread : ∀ events : List DecodedEvent, (∀ event ∈ events, ¬ event.isRejected = true) →
      ∃ os, List.Forall₂ (fun event o => readEvent event = .ok o) events os := by
    intro events
    induction events with
    | nil => exact fun _ => ⟨[], .nil⟩
    | cons event events ih =>
      intro hall
      obtain ⟨hevent, hevents⟩ := List.forall_mem_cons.mp hall
      obtain ⟨os, hos⟩ := ih hevents
      rcases readEvent_cases event with hcase | hcase | ⟨-, -, e, he, -⟩
      · exact absurd hcase.1 hevent
      · exact ⟨none :: os, .cons hcase.2.2 hos⟩
      · exact ⟨some e :: os, .cons he hos⟩
  obtain ⟨os, hos⟩ := hread events hnone
  exact h _ (classifyEvents_eq_ok_iff.mpr ⟨os, hos, rfl⟩)

/-- An event that does not throw yields the row that renders it exactly if it is skipped or has its
fields. -/
theorem rowOf_iff {event : DecodedEvent} {o : Option ContractEvent} (h : readEvent event = .ok o) :
    RowOf event o ↔ event.isSkipped = true ∨ event.hasFields = true := by
  rcases readEvent_cases event with
    ⟨-, -, e, he⟩ | ⟨-, hskipped, hnone⟩ | ⟨-, hskipped, e, he, hfit⟩
  · rw [he] at h
    cases h
  · obtain rfl := Except.ok.inj (hnone.symm.trans h)
    refine iff_of_true (fun e hrenders => ?_) (.inl hskipped)
    have hsome := hnone.symm.trans hrenders.readEvent_eq
    cases hsome
  · obtain rfl := Except.ok.inj (he.symm.trans h)
    rw [hskipped, ← hfit]
    simp [RowOf]

theorem isRejected_of_readEvent {event : DecodedEvent} {o : Option ContractEvent}
    (h : readEvent event = .ok o) : event.isRejected = false := by
  rcases readEvent_cases event with ⟨-, -, e, he⟩ | ⟨hrejected, -⟩ | ⟨hrejected, -⟩
  · rw [he] at h
    cases h
  · exact hrejected
  · exact hrejected

/-- A row that should be there is the one that is. -/
private theorem eq_none_or_eq_of_rowOf {event : DecodedEvent} {o o' : Option ContractEvent}
    (h : RowOf event o) (hread : readEvent event = .ok o') : o = none ∨ o = o' := by
  cases o with
  | none => exact .inl rfl
  | some e => exact .inr (Except.ok.inj ((Renders.readEvent_eq h).symm.trans hread))

/-- Two lists that are related to a third are related to each other. -/
private theorem forall₂_of_left {α β γ : Type} {R : α → β → Prop} {S : α → γ → Prop}
    {T : β → γ → Prop} (hT : ∀ a b c, R a b → S a c → T b c) {as : List α} {bs : List β}
    {cs : List γ} (hR : List.Forall₂ R as bs) (hS : List.Forall₂ S as cs) :
    List.Forall₂ T bs cs := by
  induction hR generalizing cs with
  | nil =>
    cases hS
    exact .nil
  | cons hab _ ih =>
    obtain ⟨c, rest, hac, hrest, rfl⟩ := List.forall₂_cons_left_iff.mp hS
    exact .cons (hT _ _ _ hab hac) (ih hrest)

private theorem exists_renders_of_mem {events : List DecodedEvent}
    {os : List (Option ContractEvent)} (h : List.Forall₂ RowOf events os) {e : ContractEvent}
    (he : some e ∈ os) : ∃ event, Renders event e := by
  induction h with
  | nil => cases he
  | @cons event o events os hrow _ ih =>
    rcases List.mem_cons.mp he with rfl | he
    · exact ⟨event, hrow⟩
    · exact ih he

/-- A page that is faithful, and does not throw, has events with their fields: every row that should
be there is there, and there are no more than should be. -/
theorem Faithful.hasFields {events : List DecodedEvent} {batch : ClassifiedBatch}
    (h : Faithful events) (hbatch : classifyEvents events = .ok batch) :
    ∀ event ∈ events, event.isSkipped = true ∨ event.hasFields = true := by
  obtain ⟨os', hread, hos'⟩ := classifyEvents_eq_ok_iff.mp hbatch
  obtain ⟨os, hrows, hos⟩ := h.rows batch hbatch
  have hsub : List.Forall₂ (fun o o' => o = none ∨ o = o') os os' := by
    refine forall₂_of_left (fun event o o' hrow ho' => ?_) hrows hread
    exact eq_none_or_eq_of_rowOf hrow ho'
  have hsize := congrArg ClassifiedBatch.size (hos.symm.trans hos')
  rw [ClassifiedBatch.size_ofEvents, ClassifiedBatch.size_ofEvents] at hsize
  obtain rfl := eq_of_length_reduceOption hsub hsize.ge
  have hboth : List.Forall₂ (fun event o =>
      (event.isSkipped = true ∨ event.hasFields = true) ∧ RowOf event o) events os :=
    hread.mp (fun _ _ hread hrow => ⟨(rowOf_iff hread).mp hrow, hrow⟩) hrows
  exact ((List.forall₂_and_left _ _).mp hboth).1

/-- A page that does not throw has no event that does. -/
theorem isRejected_of_classifyEvents {events : List DecodedEvent} {batch : ClassifiedBatch}
    (hbatch : classifyEvents events = .ok batch) : ∀ event ∈ events, event.isRejected = false := by
  obtain ⟨os, hread, -⟩ := classifyEvents_eq_ok_iff.mp hbatch
  have hboth := hread.imp (S := fun event o => event.isRejected = false ∧
    readEvent event = .ok o) fun _ _ ho => ⟨isRejected_of_readEvent ho, ho⟩
  exact ((List.forall₂_and_left _ _).mp hboth).1

/-- Events with their fields become the rows that they should. -/
theorem rowOf_of_hasFields {events : List DecodedEvent} {batch : ClassifiedBatch}
    (hall : ∀ event ∈ events, event.isSkipped = true ∨ event.hasFields = true)
    (hbatch : classifyEvents events = .ok batch) :
    ∃ os, List.Forall₂ RowOf events os ∧ batch = .ofEvents os.reduceOption := by
  obtain ⟨os, hread, hos⟩ := classifyEvents_eq_ok_iff.mp hbatch
  refine ⟨os, ?_, hos⟩
  refine ((List.forall₂_and_left _ _).mpr ⟨hall, hread⟩).imp fun event o ⟨hevent, ho⟩ => ?_
  exact (rowOf_iff ho).mpr hevent

/-- A cancellation that has lost its second topic. -/
private def cancelledNowhere : DecodedEvent where
  eventId := "0000000001"
  ledger := 1
  ledgerCloseTime := "2026-01-01T00:00:00Z"
  txHash := "aa"
  contractId := "CAAA"
  topicSymbol := some "sla_cancelled"
  topics := [.string "sla_cancelled"]
  data := .object []

/-- The row it becomes. -/
private def cancelledRow : LifecycleEventRow :=
  ⟨"0000000001", "undefined", .slaCancelled, none, "aa", "2026-01-01T00:00:00Z"⟩

end Indexer

end SlaSettle
