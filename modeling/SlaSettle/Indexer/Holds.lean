import SlaSettle.Indexer.ContractEvent

/-!
# What the tables hold

`Db.Holds db es` says that the tables are exactly the fold of the history `es`: one row per event
in its table, in chain order, and as eligible watchers the addresses whose last event is a
registration. A batch of what comes next extends the history held (`Db.Holds.applyBatch`),
provided the primary keys of the whole are distinct, which for the chain is
`distinctKeys_history`.

When a batch may be applied a second time, or late, the history no longer describes the tables
exactly. What is left is `Db.Within` (every row comes from the history) and `Db.Covers` (every
event of the history has its row); together they make each row present exactly once.
-/

namespace SlaSettle

namespace Indexer

open Js Store

/-! ### Primary keys -/

/-- The primary keys of each table are distinct over a history. -/
structure DistinctKeys (es : List ContractEvent) : Prop where
  checks : ((es.filterMap ContractEvent.check?).map CheckRow.eventId).Nodup
  slas : ((es.filterMap ContractEvent.sla?).map SlaRow.slaId).Nodup
  settlements : ((es.filterMap ContractEvent.settlement?).map SettlementRow.eventId).Nodup
  lifecycleEvents :
    ((es.filterMap ContractEvent.lifecycle?).map LifecycleEventRow.eventId).Nodup

/-- Part of a history with distinct keys has distinct keys. -/
theorem DistinctKeys.of_sublist {es es' : List ContractEvent} (h : DistinctKeys es')
    (hsub : es.Sublist es') : DistinctKeys es where
  checks := h.checks.sublist ((hsub.filterMap _).map _)
  slas := h.slas.sublist ((hsub.filterMap _).map _)
  settlements := h.settlements.sublist ((hsub.filterMap _).map _)
  lifecycleEvents := h.lifecycleEvents.sublist ((hsub.filterMap _).map _)

/-- Storing rows keeps their keys distinct. -/
private theorem nodup_map_stored {R : Type} {key : R → String} {stored : R → R}
    (hstored : ∀ r, key (stored r) = key r) {rows : List R} (h : (rows.map key).Nodup) :
    ((rows.map stored).map key).Nodup := by
  have hcomp : key ∘ stored = key := funext hstored
  rw [List.map_map, hcomp]
  exact h

/-- The event id a row carries, for the tables keyed by it. -/
def ContractEvent.eventId? : ContractEvent → Option String
  | .check c => some c.eventId
  | .settlement s => some s.eventId
  | .lifecycle l => some l.eventId
  | .watcher _ | .sla _ => none

/-- A row read off an event carries the id of that event. -/
private theorem readEvent_eventId {event : DecodedEvent} {e : ContractEvent} {i : String}
    (h : readEvent event = .ok (some e)) (hi : e.eventId? = some i) : i = event.eventId := by
  unfold readEvent at h
  cases htype : eventType? event.topicSymbol with
  | none => simp [htype] at h
  | some t =>
    rw [htype] at h
    cases t with
    | watcherRegistered => cases h; cases hi
    | watcherRemoved => cases h; cases hi
    | slaCancelled => cases h; cases hi; rfl
    | checkSubmitted =>
      obtain ⟨v, -, h⟩ := bind_eq_ok_iff.mp h
      cases hparse : parseCheckStatus v with
      | none => rw [hparse] at h; cases h
      | some status =>
        rw [hparse] at h
        obtain ⟨c, hrow, h⟩ := bind_eq_ok_iff.mp h
        obtain ⟨_, _, -, -, rfl⟩ := checkRow_eq_ok_iff.mp hrow
        cases h
        cases hi
        rfl
    | slaCreated =>
      obtain ⟨s, -, h⟩ := bind_eq_ok_iff.mp h
      cases h
      cases hi
    | settlementPaid =>
      obtain ⟨s, hrow, h⟩ := bind_eq_ok_iff.mp h
      cases h
      cases hi
      exact settlementRow_eventId hrow
    | bondToppedUp =>
      obtain ⟨_, -, h⟩ := bind_eq_ok_iff.mp h
      obtain ⟨_, -, h⟩ := bind_eq_ok_iff.mp h
      cases h
      cases hi
      rfl
    | bondWithdrawn =>
      obtain ⟨_, -, h⟩ := bind_eq_ok_iff.mp h
      obtain ⟨_, -, h⟩ := bind_eq_ok_iff.mp h
      cases h
      cases hi
      rfl

/-- What an event says carries its id. -/
theorem meaning_eventId {raw : RawEvent} {e : ContractEvent} {i : String}
    (h : meaning raw = some e) (hi : e.eventId? = some i) : i = raw.id := by
  unfold meaning at h
  split at h
  · rename_i o hread
    subst h
    obtain ⟨event, hdecode, hread⟩ := bind_eq_ok_iff.mp hread
    rw [readEvent_eventId hread hi, decodeEvent_eventId hdecode]
  · cases h

/-- The keys of rows that carry their event's id are among the event ids, in order. -/
private theorem map_key_sublist {R : Type} {key : R → String} {read : ContractEvent → Option R}
    (hread : ∀ e r, read e = some r → e.eventId? = some (key r)) (raws : List RawEvent) :
    (((history raws).filterMap read).map key).Sublist (raws.map RawEvent.id) := by
  induction raws with
  | nil => exact List.nil_sublist _
  | cons raw raws ih =>
    rw [history, List.filterMap_cons, List.map_cons]
    cases hm : meaning raw with
    | none => exact ih.cons _
    | some e =>
      rw [List.filterMap_cons]
      cases hr : read e with
      | none => exact ih.cons _
      | some r =>
        have hid : key r = raw.id := meaning_eventId hm (hread e r hr)
        simp only [List.map_cons, hid]
        exact ih.cons_cons _

/-- Over a stretch of the chain with distinct event ids and distinct new SLAs, the keys of every
table are distinct. -/
theorem distinctKeys_history {raws : List RawEvent} (hids : (raws.map RawEvent.id).Nodup)
    (hslas : (((history raws).filterMap ContractEvent.sla?).map SlaRow.slaId).Nodup) :
    DistinctKeys (history raws) where
  checks := hids.sublist (map_key_sublist (fun e c h => by
    rw [ContractEvent.check?_eq_some.mp h]
    rfl) raws)
  slas := hslas
  settlements := hids.sublist (map_key_sublist (fun e s h => by
    rw [ContractEvent.settlement?_eq_some.mp h]
    rfl) raws)
  lifecycleEvents := hids.sublist (map_key_sublist (fun e l h => by
    rw [ContractEvent.lifecycle?_eq_some.mp h]
    rfl) raws)

/-! ### The tables as a fold -/

/-- **The tables are the fold of a history.** One row per event in its table, in chain order, and
as eligible watchers the addresses whose last event is a registration. -/
structure Db.Holds (db : Db) (es : List ContractEvent) : Prop where
  checks : db.checks.rows = es.filterMap ContractEvent.check?
  slas : db.slas.rows = (es.filterMap ContractEvent.sla?).map SlaRow.stored
  settlements :
    db.settlements.rows = (es.filterMap ContractEvent.settlement?).map SettlementRow.stored
  lifecycleEvents : db.lifecycleEvents.rows = es.filterMap ContractEvent.lifecycle?
  watchers : ∀ a, Db.eligible db.watchers a =
    (Db.lastWatcherEvent a (es.filterMap ContractEvent.watcher?)).getD false

/-- An empty database holds the empty history. -/
theorem Db.holds_empty : Db.empty.Holds [] where
  checks := rfl
  slas := rfl
  settlements := rfl
  lifecycleEvents := rfl
  watchers := fun _ => rfl

/-- **New events extend the history.** Applying the batch of the events that come next leaves
tables that hold the longer history. -/
theorem Db.Holds.applyBatch {db : Db} {es es' : List ContractEvent} (h : db.Holds es)
    (hkeys : DistinctKeys (es ++ es')) (lastLedger : ℕ) (lastCursor : Option String) :
    (db.applyBatch ⟨.ofEvents es', lastLedger, lastCursor⟩).Holds (es ++ es') where
  checks := by
    have hnew := hkeys.checks
    rw [List.filterMap_append, ← h.checks] at hnew
    rw [List.filterMap_append, ← h.checks]
    exact Table.rows_insertAll_of_nodup hnew
  slas := by
    have hnew := nodup_map_stored SlaRow.stored_slaId hkeys.slas
    rw [List.filterMap_append, List.map_append, ← h.slas] at hnew
    rw [List.filterMap_append, List.map_append, ← h.slas]
    exact Table.rows_insertAll_of_nodup hnew
  settlements := by
    have hnew := nodup_map_stored SettlementRow.stored_eventId hkeys.settlements
    rw [List.filterMap_append, List.map_append, ← h.settlements] at hnew
    rw [List.filterMap_append, List.map_append, ← h.settlements]
    exact Table.rows_insertAll_of_nodup hnew
  lifecycleEvents := by
    have hnew := hkeys.lifecycleEvents
    rw [List.filterMap_append, ← h.lifecycleEvents] at hnew
    rw [List.filterMap_append, ← h.lifecycleEvents]
    exact Table.rows_insertAll_of_nodup hnew
  watchers := fun a => by
    have hfold := Db.eligible_foldl_applyWatcherEvent db.watchers
      (es'.filterMap ContractEvent.watcher?) a
    refine hfold.trans ?_
    rw [h.watchers a, List.filterMap_append, Db.lastWatcherEvent_append, Option.getD_or]

/-! ### Batches applied again -/

/-- Every row of the tables comes from an event of the history. -/
structure Db.Within (db : Db) (es : List ContractEvent) : Prop where
  checks : ∀ r ∈ db.checks.rows, r ∈ es.filterMap ContractEvent.check?
  slas : ∀ r ∈ db.slas.rows, r ∈ (es.filterMap ContractEvent.sla?).map SlaRow.stored
  settlements : ∀ r ∈ db.settlements.rows,
    r ∈ (es.filterMap ContractEvent.settlement?).map SettlementRow.stored
  lifecycleEvents : ∀ r ∈ db.lifecycleEvents.rows, r ∈ es.filterMap ContractEvent.lifecycle?

/-- Every event of the history that is stored as a row has its row. -/
structure Db.Covers (db : Db) (es : List ContractEvent) : Prop where
  checks : ∀ r ∈ es.filterMap ContractEvent.check?, r ∈ db.checks.rows
  slas : ∀ r ∈ (es.filterMap ContractEvent.sla?).map SlaRow.stored, r ∈ db.slas.rows
  settlements : ∀ r ∈ (es.filterMap ContractEvent.settlement?).map SettlementRow.stored,
    r ∈ db.settlements.rows
  lifecycleEvents : ∀ r ∈ es.filterMap ContractEvent.lifecycle?, r ∈ db.lifecycleEvents.rows

theorem Db.within_empty (es : List ContractEvent) : Db.empty.Within es where
  checks := by simp [Db.empty]
  slas := by simp [Db.empty]
  settlements := by simp [Db.empty]
  lifecycleEvents := by simp [Db.empty]

theorem Db.covers_nil (db : Db) : db.Covers [] where
  checks := by simp
  slas := by simp
  settlements := by simp
  lifecycleEvents := by simp

theorem Db.Covers.of_subset {db : Db} {es es' : List ContractEvent} (h : db.Covers es')
    (hsub : es ⊆ es') : db.Covers es where
  checks := fun r hr => h.checks r (List.filterMap_subset _ hsub hr)
  slas := fun r hr => h.slas r (List.map_subset _ (List.filterMap_subset _ hsub) hr)
  settlements := fun r hr => h.settlements r (List.map_subset _ (List.filterMap_subset _ hsub) hr)
  lifecycleEvents := fun r hr => h.lifecycleEvents r (List.filterMap_subset _ hsub hr)

/-- What covers two histories covers one after the other. -/
theorem Db.Covers.append {db : Db} {es es' : List ContractEvent} (h : db.Covers es)
    (h' : db.Covers es') : db.Covers (es ++ es') where
  checks := fun r hr => by
    rw [List.filterMap_append] at hr
    exact (List.mem_append.mp hr).elim (h.checks r) (h'.checks r)
  slas := fun r hr => by
    rw [List.filterMap_append, List.map_append] at hr
    exact (List.mem_append.mp hr).elim (h.slas r) (h'.slas r)
  settlements := fun r hr => by
    rw [List.filterMap_append, List.map_append] at hr
    exact (List.mem_append.mp hr).elim (h.settlements r) (h'.settlements r)
  lifecycleEvents := fun r hr => by
    rw [List.filterMap_append] at hr
    exact (List.mem_append.mp hr).elim (h.lifecycleEvents r) (h'.lifecycleEvents r)

/-- A batch from the history adds no foreign row. -/
theorem Db.Within.applyBatch {db : Db} {es es' : List ContractEvent} (h : db.Within es)
    (hsub : es' ⊆ es) (lastLedger : ℕ) (lastCursor : Option String) :
    (db.applyBatch ⟨.ofEvents es', lastLedger, lastCursor⟩).Within es where
  checks := Table.rows_insertAll_subset h.checks (List.filterMap_subset _ hsub)
  slas := Table.rows_insertAll_subset h.slas (List.map_subset _ (List.filterMap_subset _ hsub))
  settlements :=
    Table.rows_insertAll_subset h.settlements (List.map_subset _ (List.filterMap_subset _ hsub))
  lifecycleEvents := Table.rows_insertAll_subset h.lifecycleEvents (List.filterMap_subset _ hsub)

/-- **Nothing stored is lost.** A batch keeps every row there was. -/
theorem Db.Covers.of_applyBatch {db : Db} {es : List ContractEvent} (h : db.Covers es)
    (params : BatchParams) : (db.applyBatch params).Covers es where
  checks := fun r hr => Table.mem_insertAll_of_mem (h.checks r hr) _
  slas := fun r hr => Table.mem_insertAll_of_mem (h.slas r hr) _
  settlements := fun r hr => Table.mem_insertAll_of_mem (h.settlements r hr) _
  lifecycleEvents := fun r hr => Table.mem_insertAll_of_mem (h.lifecycleEvents r hr) _

/-- **A batch stores its events.** Whatever was applied before, from the same history. -/
theorem Db.Within.covers_applyBatch {db : Db} {es es' : List ContractEvent} (h : db.Within es)
    (hkeys : DistinctKeys es) (hsub : es' ⊆ es) (lastLedger : ℕ) (lastCursor : Option String) :
    (db.applyBatch ⟨.ofEvents es', lastLedger, lastCursor⟩).Covers es' where
  checks _ hr :=
    Table.mem_insertAll_of_nodup h.checks hkeys.checks (List.filterMap_subset _ hsub) hr
  slas _ hr :=
    Table.mem_insertAll_of_nodup h.slas (nodup_map_stored SlaRow.stored_slaId hkeys.slas)
      (List.map_subset _ (List.filterMap_subset _ hsub)) hr
  settlements _ hr :=
    Table.mem_insertAll_of_nodup h.settlements
      (nodup_map_stored SettlementRow.stored_eventId hkeys.settlements)
      (List.map_subset _ (List.filterMap_subset _ hsub)) hr
  lifecycleEvents _ hr :=
    Table.mem_insertAll_of_nodup h.lifecycleEvents hkeys.lifecycleEvents
      (List.filterMap_subset _ hsub) hr

/-! ### Present exactly once -/

/-- The event has exactly one row under its primary key, and it is the event's own. A watcher event
has no row of its own. -/
def Db.PresentOnce (db : Db) : ContractEvent → Prop
  | .check c => (db.checks.rows.filter fun r => r.eventId = c.eventId) = [c]
  | .sla s => (db.slas.rows.filter fun r => r.slaId = s.slaId) = [s.stored]
  | .settlement s => (db.settlements.rows.filter fun r => r.eventId = s.eventId) = [s.stored]
  | .lifecycle l => (db.lifecycleEvents.rows.filter fun r => r.eventId = l.eventId) = [l]
  | .watcher _ => True

/-- **Covered events are present exactly once.** -/
theorem Db.Covers.presentOnce {db : Db} {es : List ContractEvent} {e : ContractEvent}
    (h : db.Covers es) (he : e ∈ es) : db.PresentOnce e := by
  cases e with
  | watcher w => trivial
  | check c =>
    have hrow := h.checks c (List.mem_filterMap.mpr ⟨_, he, rfl⟩)
    exact Table.filter_key_eq_singleton hrow
  | sla s =>
    have hrow := h.slas s.stored (List.mem_map_of_mem (List.mem_filterMap.mpr ⟨_, he, rfl⟩))
    exact Table.filter_key_eq_singleton hrow
  | settlement s =>
    have hrow := h.settlements s.stored
      (List.mem_map_of_mem (List.mem_filterMap.mpr ⟨_, he, rfl⟩))
    exact Table.filter_key_eq_singleton hrow
  | lifecycle l =>
    have hrow := h.lifecycleEvents l (List.mem_filterMap.mpr ⟨_, he, rfl⟩)
    exact Table.filter_key_eq_singleton hrow

end Indexer

end SlaSettle
