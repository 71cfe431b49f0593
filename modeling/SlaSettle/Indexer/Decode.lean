import SlaSettle.Js.Value

/-!
# Decoding raw contract events

`decodeEvent` and the two normalisations `amountToString` and `bytesToHex` of `rpc/decode.ts`.

The indexer never looks inside an `ScVal`: all it does with one is call `scValToNative`. An `ScVal`
is therefore represented by what that call makes of it, a native value or an exception.
-/

namespace SlaSettle

namespace Indexer

open Js

/-! ### Topics -/

/-- The events the two contracts emit. -/
inductive EventType where
  | watcherRegistered
  | watcherRemoved
  | checkSubmitted
  | slaCreated
  | bondToppedUp
  | settlementPaid
  | slaCancelled
  | bondWithdrawn
  deriving DecidableEq

/-- `EVENT_TYPE_TOPIC`: the symbol in `topic[0]` of each event. -/
def EventType.topic : EventType → String
  | .watcherRegistered => "watcher_registered"
  | .watcherRemoved => "watcher_removed"
  | .checkSubmitted => "check_submitted"
  | .slaCreated => "sla_created"
  | .bondToppedUp => "bond_topped_up"
  | .settlementPaid => "settlement_paid"
  | .slaCancelled => "sla_cancelled"
  | .bondWithdrawn => "bond_withdrawn"

def EventType.all : List EventType :=
  [.watcherRegistered, .watcherRemoved, .checkSubmitted, .slaCreated, .bondToppedUp,
    .settlementPaid, .slaCancelled, .bondWithdrawn]

/-- The event a topic symbol stands for, if it is a known one. -/
def eventType? (topicSymbol : Option String) : Option EventType :=
  topicSymbol.bind fun s => EventType.all.find? fun t => t.topic = s

/-- Each known symbol stands for its own event. -/
@[simp]
theorem eventType?_topic (t : EventType) : eventType? (some t.topic) = some t := by
  cases t <;> decide

/-! ### Events -/

/-- An `ScVal` as far as the indexer sees it: the result of `scValToNative`. -/
abbrev ScVal := Except Thrown JsValue

/-- One entry of a `getEvents` response. -/
structure RawEvent where
  id : String
  ledger : ℕ
  ledgerClosedAt : String
  txHash : String
  contractId : Option String
  topic : List ScVal
  value : ScVal

structure DecodedEvent where
  eventId : String
  ledger : ℕ
  ledgerCloseTime : String
  txHash : String
  contractId : String
  topicSymbol : Option String
  topics : List JsValue
  data : JsValue

/-- `typeof value === "string" ? value : undefined`. -/
def stringOrUndefined : JsValue → Option String
  | .string s => some s
  | _ => none

/-- Decode one raw event; throws when `scValToNative` does. -/
def decodeEvent (raw : RawEvent) : Except Thrown DecodedEvent := do
  let topics ← raw.topic.mapM id
  let data ← raw.value
  return {
    eventId := raw.id
    ledger := raw.ledger
    ledgerCloseTime := raw.ledgerClosedAt
    txHash := raw.txHash
    contractId := raw.contractId.getD ""
    topicSymbol := stringOrUndefined (JsValue.element topics 0)
    topics
    data }

/-! ### Normalisations -/

/-- `typeof value`. -/
def typeOf : JsValue → String
  | .undefined => "undefined"
  | .bool _ => "boolean"
  | .number _ => "number"
  | .bigint _ => "bigint"
  | .string _ => "string"
  | .null | .bytes _ | .array _ | .object _ => "object"

/-- An amount as a decimal string, never through a floating-point number. -/
def amountToString : JsValue → Except Thrown String
  | .bigint n => .ok (toString n)
  | .string s => .ok s
  | .number n => .error (.error s!"amountToString received a JS number ({n}) — this means precision may already be lost upstream. This should never happen; investigate the decode path before trusting this value.")
  | value => .error (.error s!"amountToString received an unexpected type: {typeOf value}")

/-- The two lowercase hex digits of a byte. -/
def byteToHex (b : UInt8) : List Char :=
  [Nat.digitChar (b.toNat / 16), Nat.digitChar (b.toNat % 16)]

/-- `Buffer.from(bytes).toString("hex")`. -/
def hexText (bytes : List UInt8) : String := String.ofList (bytes.flatMap byteToHex)

/-- A byte array as lowercase hex; anything else throws. -/
def bytesToHex : JsValue → Except Thrown String
  | .bytes b => .ok (hexText b)
  | value => .error (.error s!"bytesToHex received a non-byte-array value: {typeOf value}. This means the event's endpoint_hash field isn't shaped as expected — investigate before trusting this value.")

theorem bytesToHex_eq_ok_iff {value : JsValue} {text : String} :
    bytesToHex value = .ok text ↔ ∃ bytes, value = .bytes bytes ∧ hexText bytes = text := by
  cases value <;> simp [bytesToHex]

/-! ### What decoding keeps -/

theorem decodeEvent_eventId {raw : RawEvent} {e : DecodedEvent} (h : decodeEvent raw = .ok e) :
    e.eventId = raw.id := by
  simp only [decodeEvent, bind, Except.bind] at h
  split at h
  · cases h
  · split at h <;> cases h
    rfl

theorem decodeEvent_ledger {raw : RawEvent} {e : DecodedEvent} (h : decodeEvent raw = .ok e) :
    e.ledger = raw.ledger := by
  simp only [decodeEvent, bind, Except.bind] at h
  split at h
  · cases h
  · split at h <;> cases h
    rfl

/-- An event whose parts all decode is decoded field by field. -/
theorem decodeEvent_of_ok {raw : RawEvent} {topics : List JsValue} {data : JsValue}
    (ht : raw.topic = topics.map .ok) (hd : raw.value = .ok data) :
    decodeEvent raw = .ok {
      eventId := raw.id
      ledger := raw.ledger
      ledgerCloseTime := raw.ledgerClosedAt
      txHash := raw.txHash
      contractId := raw.contractId.getD ""
      topicSymbol := stringOrUndefined (JsValue.element topics 0)
      topics
      data } := by
  have hm : ∀ ts : List JsValue, (ts.map (Except.ok (ε := Thrown))).mapM id = .ok ts := by
    intro ts
    induction ts with
    | nil => rfl
    | cons t ts ih =>
      rw [List.map_cons, List.mapM_cons, ih]
      rfl
  simp only [decodeEvent, ht, hd, hm, bind, Except.bind, pure, Except.pure]

/-! ### Hex is injective -/

private theorem digitChar_injective {a b : ℕ} (ha : a < 16) (hb : b < 16)
    (h : Nat.digitChar a = Nat.digitChar b) : a = b := by
  have key : ∀ a b : Fin 16, Nat.digitChar a = Nat.digitChar b → a = b := by decide
  exact congrArg Fin.val (key ⟨a, ha⟩ ⟨b, hb⟩ h)

private theorem byteToHex_injective {a b : UInt8} (h : byteToHex a = byteToHex b) : a = b := by
  simp only [byteToHex, List.cons.injEq, and_true] at h
  have ha := a.toNat_lt
  have hb := b.toNat_lt
  have hhi := digitChar_injective (by omega) (by omega) h.1
  have hlo := digitChar_injective (by omega) (by omega) h.2
  exact UInt8.toNat_inj.mp (by omega)

private theorem flatMap_byteToHex_injective {bs cs : List UInt8}
    (h : bs.flatMap byteToHex = cs.flatMap byteToHex) : bs = cs := by
  induction bs generalizing cs with
  | nil =>
    cases cs with
    | nil => rfl
    | cons c cs => simp [byteToHex] at h
  | cons b bs ih =>
    cases cs with
    | nil => simp [byteToHex] at h
    | cons c cs =>
      rw [List.flatMap_cons, List.flatMap_cons] at h
      obtain ⟨hb, hbs⟩ := List.append_inj h rfl
      rw [byteToHex_injective hb, ih hbs]

/-- **Commitments stay apart.** Two byte strings with one hex text are equal, so rows compare
commitments faithfully. -/
theorem hexText_injective {bs cs : List UInt8} (h : hexText bs = hexText cs) : bs = cs :=
  flatMap_byteToHex_injective (String.ofList_injective h)

end Indexer

end SlaSettle
