import SlaSettle.Indexer.Classify
import Mathlib.Data.List.ReduceOption

/-!
# What an event says

The abstract view of ingestion. A `ContractEvent` is the one row, or the one watcher change, that
an event stands for; `readEvent` reads it off a single event, with no batch in sight, and
`history` is what a stretch of the chain says. `Db.Holds` states that the tables are exactly the
fold of a history: one row per event in its table, in chain order, and the eligible watchers those
whose last event is a registration.

* `classifyPage_eq_ok_iff` connects the view to the code: decoding and classifying a page succeeds
  exactly when every event of it can be read, and then groups what the page says by table.
* `Db.Holds.applyBatch` is the step of ingestion: a batch of new events extends the history held.
* `Db.Within` and `Db.Covers` are the two halves that survive a batch applied again.
-/

namespace SlaSettle

namespace Indexer

open Js Store

/-- What one event stands for. -/
inductive ContractEvent where
  | watcher (w : WatcherEvent)
  | check (c : CheckRow)
  | sla (s : SlaRow)
  | settlement (s : SettlementRow)
  | lifecycle (l : LifecycleEventRow)

namespace ContractEvent

def watcher? : ContractEvent → Option WatcherEvent
  | watcher w => some w
  | _ => none

def check? : ContractEvent → Option CheckRow
  | check c => some c
  | _ => none

def sla? : ContractEvent → Option SlaRow
  | sla s => some s
  | _ => none

def settlement? : ContractEvent → Option SettlementRow
  | settlement s => some s
  | _ => none

def lifecycle? : ContractEvent → Option LifecycleEventRow
  | lifecycle l => some l
  | _ => none

theorem check?_eq_some {e : ContractEvent} {c : CheckRow} : e.check? = some c ↔ e = check c := by
  cases e <;> simp [check?]

theorem settlement?_eq_some {e : ContractEvent} {s : SettlementRow} :
    e.settlement? = some s ↔ e = settlement s := by
  cases e <;> simp [settlement?]

theorem lifecycle?_eq_some {e : ContractEvent} {l : LifecycleEventRow} :
    e.lifecycle? = some l ↔ e = lifecycle l := by
  cases e <;> simp [lifecycle?]

end ContractEvent

/-! ### Reading one event -/

/-- Read one event on its own: `none` for an unknown topic or a quarantined check. -/
def readEvent (event : DecodedEvent) : Except Thrown (Option ContractEvent) :=
  match eventType? event.topicSymbol with
  | some .watcherRegistered => .ok (some (.watcher (watcherEvent .registered event)))
  | some .watcherRemoved => .ok (some (.watcher (watcherEvent .removed event)))
  | some .checkSubmitted => do
    match parseCheckStatus (← event.data.getField "status") with
    | none => return none
    | some status => return some (.check (← checkRow event status))
  | some .slaCreated => return some (.sla (← slaRow event))
  | some .settlementPaid => return some (.settlement (← settlementRow event))
  | some .bondToppedUp => do
    let amount ← amountToString (← event.data.getField "amount")
    return some (.lifecycle (lifecycleEventRow event .bondToppedUp (some amount)))
  | some .slaCancelled => .ok (some (.lifecycle (lifecycleEventRow event .slaCancelled none)))
  | some .bondWithdrawn => do
    let amount ← amountToString (← event.data.getField "amount")
    return some (.lifecycle (lifecycleEventRow event .bondWithdrawn (some amount)))
  | none => .ok none

/-- Decode and read one raw event. -/
def readRaw (raw : RawEvent) : Except Thrown (Option ContractEvent) :=
  decodeEvent raw >>= readEvent

/-- An event that decodes and classifies without throwing. -/
def Readable (raw : RawEvent) : Prop := ∃ o, readRaw raw = .ok o

/-- What an event says, if it can be read and says anything. -/
def meaning (raw : RawEvent) : Option ContractEvent :=
  match readRaw raw with
  | .ok o => o
  | .error _ => none

/-- What a stretch of the chain says. -/
def history (raws : List RawEvent) : List ContractEvent := raws.filterMap meaning

@[simp]
theorem history_nil : history [] = [] := rfl

theorem history_append (raws raws' : List RawEvent) :
    history (raws ++ raws') = history raws ++ history raws' :=
  List.filterMap_append

theorem mem_history {raws : List RawEvent} {e : ContractEvent} :
    e ∈ history raws ↔ ∃ raw ∈ raws, meaning raw = some e :=
  List.mem_filterMap

theorem meaning_of_readRaw {raw : RawEvent} {o : Option ContractEvent}
    (h : readRaw raw = .ok o) : meaning raw = o := by
  rw [meaning, h]

/-! ### Grouping by table -/

/-- Push what an event says onto the list of its table. -/
def ClassifiedBatch.push (b : ClassifiedBatch) : ContractEvent → ClassifiedBatch
  | .watcher w => { b with watcherEvents := b.watcherEvents ++ [w] }
  | .check c => { b with checks := b.checks ++ [c] }
  | .sla s => { b with slas := b.slas ++ [s] }
  | .settlement s => { b with settlements := b.settlements ++ [s] }
  | .lifecycle l => { b with lifecycleEvents := b.lifecycleEvents ++ [l] }

/-- What a list of events says, grouped by table. -/
def ClassifiedBatch.ofEvents (es : List ContractEvent) : ClassifiedBatch where
  watcherEvents := es.filterMap ContractEvent.watcher?
  checks := es.filterMap ContractEvent.check?
  slas := es.filterMap ContractEvent.sla?
  settlements := es.filterMap ContractEvent.settlement?
  lifecycleEvents := es.filterMap ContractEvent.lifecycle?

theorem ClassifiedBatch.push_ofEvents (es : List ContractEvent) (e : ContractEvent) :
    (ofEvents es).push e = ofEvents (es ++ [e]) := by
  cases e <;> simp [push, ofEvents, ContractEvent.watcher?, ContractEvent.check?,
    ContractEvent.sla?, ContractEvent.settlement?, ContractEvent.lifecycle?]

/-- One turn of the loop pushes what the event says, or nothing. -/
theorem classifyEvent_eq (b : ClassifiedBatch) (event : DecodedEvent) :
    classifyEvent b event = (readEvent event).map fun o => (o.map b.push).getD b := by
  unfold classifyEvent readEvent
  cases eventType? event.topicSymbol with
  | none => rfl
  | some t =>
    cases t with
    | watcherRegistered => rfl
    | watcherRemoved => rfl
    | slaCancelled => rfl
    | checkSubmitted =>
      cases hstatus : event.data.getField "status" with
      | error e => rfl
      | ok v =>
        cases hparse : parseCheckStatus v with
        | none => simp [hparse, bind, Except.bind, Except.map, pure, Except.pure]
        | some status =>
          cases hrow : checkRow event status <;>
            simp [hparse, hrow, bind, Except.bind, Except.map, pure, Except.pure,
              ClassifiedBatch.push]
    | slaCreated => cases hrow : slaRow event <;> rfl
    | settlementPaid => cases hrow : settlementRow event <;> rfl
    | bondToppedUp =>
      cases hfield : event.data.getField "amount" with
      | error e => rfl
      | ok v => cases hamount : amountToString v <;> simp [hamount, bind, Except.bind, Except.map,
          pure, Except.pure, ClassifiedBatch.push]
    | bondWithdrawn =>
      cases hfield : event.data.getField "amount" with
      | error e => rfl
      | ok v => cases hamount : amountToString v <;> simp [hamount, bind, Except.bind, Except.map,
          pure, Except.pure, ClassifiedBatch.push]

/-- What a decoded event says, if it can be read and says anything. -/
private def said (event : DecodedEvent) : Option ContractEvent :=
  match readEvent event with
  | .ok o => o
  | .error _ => none

private theorem foldlM_classifyEvent (es : List ContractEvent) (events : List DecodedEvent)
    (batch : ClassifiedBatch) :
    events.foldlM classifyEvent (.ofEvents es) = .ok batch ↔
      (∀ event ∈ events, ∃ o, readEvent event = .ok o) ∧
        batch = .ofEvents (es ++ events.filterMap said) := by
  induction events generalizing es with
  | nil => simp [pure, Except.pure, eq_comm]
  | cons event events ih =>
    rw [List.foldlM_cons, classifyEvent_eq]
    cases h : readEvent event with
    | error e => simp [Except.map, bind, Except.bind, h]
    | ok o =>
      have hsaid : said event = o := by rw [said, h]
      have hpush : (o.map (ClassifiedBatch.ofEvents es).push).getD (.ofEvents es) =
          .ofEvents (es ++ o.toList) := by
        cases o with
        | none => simp
        | some e => exact ClassifiedBatch.push_ofEvents es e
      simp only [Except.map, bind, Except.bind, hpush, ih, List.forall_mem_cons, h,
        Except.ok.injEq, exists_eq', true_and, List.append_assoc]
      cases o <;> simp [hsaid]

private theorem forall₂_readEvent_iff {events : List DecodedEvent}
    {os : List (Option ContractEvent)} :
    List.Forall₂ (fun event o => readEvent event = .ok o) events os ↔
      (∀ event ∈ events, ∃ o, readEvent event = .ok o) ∧ os = events.map said := by
  induction events generalizing os with
  | nil => simp
  | cons event events ih =>
    simp only [List.forall₂_cons_left_iff, ih, List.forall_mem_cons, List.map_cons]
    constructor
    · rintro ⟨o, tail, ho, ⟨hread, rfl⟩, rfl⟩
      exact ⟨⟨⟨o, ho⟩, hread⟩, by rw [said, ho]⟩
    · rintro ⟨⟨⟨o, ho⟩, hread⟩, rfl⟩
      exact ⟨o, _, ho, ⟨hread, rfl⟩, by rw [said, ho]⟩

/-- **Classification reads event by event,** and groups what the events say by table. -/
theorem classifyEvents_eq_ok_iff {events : List DecodedEvent} {batch : ClassifiedBatch} :
    classifyEvents events = .ok batch ↔
      ∃ os, List.Forall₂ (fun event o => readEvent event = .ok o) events os ∧
        batch = .ofEvents os.reduceOption := by
  refine (foldlM_classifyEvent [] events batch).trans ?_
  rw [List.nil_append]
  constructor
  · rintro ⟨hread, rfl⟩
    exact ⟨_, forall₂_readEvent_iff.mpr ⟨hread, rfl⟩, by
      rw [List.reduceOption, List.filterMap_map]
      rfl⟩
  · rintro ⟨os, hos, rfl⟩
    obtain ⟨hread, rfl⟩ := forall₂_readEvent_iff.mp hos
    exact ⟨hread, by rw [List.reduceOption, List.filterMap_map]; rfl⟩

private theorem mapM_decodeEvent_eq_ok_iff {raws : List RawEvent} {events : List DecodedEvent} :
    raws.mapM decodeEvent = .ok events ↔
      List.Forall₂ (fun raw event => decodeEvent raw = .ok event) raws events := by
  induction raws generalizing events with
  | nil => simp [pure, Except.pure, eq_comm]
  | cons raw raws ih =>
    rw [List.mapM_cons, List.forall₂_cons_left_iff]
    cases h : decodeEvent raw with
    | error e => simp [bind, Except.bind]
    | ok event =>
      cases htail : raws.mapM decodeEvent with
      | error e => simp [bind, Except.bind, ← ih, htail]
      | ok tail =>
        have hall : ∀ tail', List.Forall₂ (fun raw event => decodeEvent raw = .ok event) raws
            tail' ↔ Except.ok tail = .ok tail' := fun tail' => by rw [← ih, htail]
        simp only [bind, Except.bind, pure, Except.pure, Except.ok.injEq, hall]
        constructor
        · rintro rfl
          exact ⟨event, tail, rfl, rfl, rfl⟩
        · rintro ⟨event', tail', rfl, rfl, rfl⟩
          rfl

private theorem said_of_forall₂ {raws : List RawEvent} {events : List DecodedEvent}
    (h : List.Forall₂ (fun raw event => decodeEvent raw = .ok event) raws events) :
    ((∀ event ∈ events, ∃ o, readEvent event = .ok o) ↔ ∀ raw ∈ raws, Readable raw) ∧
      events.filterMap said = history raws := by
  induction h with
  | nil => simp
  | @cons raw event raws events hdecode _ ih =>
    have hread : readRaw raw = readEvent event := by rw [readRaw, hdecode]; rfl
    have hsaid : said event = meaning raw := by rw [said, meaning, hread]
    refine ⟨?_, ?_⟩
    · rw [List.forall_mem_cons, List.forall_mem_cons, ih.1, Readable, hread]
    · rw [List.filterMap_cons, hsaid, ih.2, history, history, List.filterMap_cons]

/-- Decoding a page keeps its events one for one. -/
theorem mapM_decodeEvent_ledger {raws : List RawEvent} {events : List DecodedEvent}
    (h : raws.mapM decodeEvent = .ok events) :
    events.map DecodedEvent.ledger = raws.map RawEvent.ledger := by
  have hall := mapM_decodeEvent_eq_ok_iff.mp h
  clear h
  induction hall with
  | nil => rfl
  | cons hdecode _ ih => rw [List.map_cons, List.map_cons, decodeEvent_ledger hdecode, ih]

/-- **Classification reads event by event.** A page is classified exactly when each of its events
can be read on its own, and the batch is what they say, grouped by table. -/
theorem classifyPage_eq_ok_iff {raws : List RawEvent} {batch : ClassifiedBatch} :
    raws.mapM decodeEvent >>= classifyEvents = .ok batch ↔
      (∀ raw ∈ raws, Readable raw) ∧ batch = .ofEvents (history raws) := by
  constructor
  · intro h
    cases hdecode : raws.mapM decodeEvent with
    | error e => rw [hdecode] at h; cases h
    | ok events =>
      rw [hdecode] at h
      have hfold : events.foldlM classifyEvent (.ofEvents []) = .ok batch := h
      obtain ⟨hread, rfl⟩ := (foldlM_classifyEvent [] events batch).mp hfold
      obtain ⟨hiff, hsaid⟩ := said_of_forall₂ (mapM_decodeEvent_eq_ok_iff.mp hdecode)
      exact ⟨hiff.mp hread, by rw [hsaid, List.nil_append]⟩
  · rintro ⟨hread, rfl⟩
    have hdecode : ∃ events, raws.mapM decodeEvent = .ok events := by
      induction raws with
      | nil => exact ⟨[], rfl⟩
      | cons raw raws ih =>
        obtain ⟨events, hevents⟩ := ih fun r hr => hread r (List.mem_cons_of_mem _ hr)
        obtain ⟨o, ho⟩ := hread raw (by simp)
        cases hraw : decodeEvent raw with
        | error e => simp [readRaw, hraw, bind, Except.bind] at ho
        | ok event =>
          exact ⟨event :: events, by
            simp [List.mapM_cons, hraw, hevents, bind, Except.bind, pure, Except.pure]⟩
    obtain ⟨events, hevents⟩ := hdecode
    obtain ⟨hiff, hsaid⟩ := said_of_forall₂ (mapM_decodeEvent_eq_ok_iff.mp hevents)
    rw [hevents]
    refine (foldlM_classifyEvent [] events _).mpr ⟨hiff.mpr hread, ?_⟩
    rw [hsaid, List.nil_append]

end Indexer

end SlaSettle
