import SlaSettle.Indexer.Db

/-!
# Applying batches again

What is written to the database is a list of batches, with thresholds cached in between. Applying
the last batches a second time, in order, changes nothing (`reprocessing_harmless`), whatever they
hold and whatever was there before.

Rows that are inserted once are ignored the second time, since their keys are taken. A watcher's row
is edited again and again on the way, and the second pass takes it through states of its own, but in
the end it is what the last event about its address makes of it (`Db.AsLast`), and the second pass
ends with the same event.
-/

namespace SlaSettle

namespace Indexer

open Js Store

/-! ### Writes -/

/-- A write to the database: a batch, or a threshold that was read live. -/
inductive Write where
  | applyBatch (params : BatchParams)
  | setSlaQuorumThreshold (slaId : String) (threshold : JsNumber)

/-- The batch of a write, if it is one. -/
def Write.batch? : Write → Option BatchParams
  | applyBatch params => some params
  | setSlaQuorumThreshold _ _ => none

/-- What a watcher event sets `removed_at` to. -/
def WatcherEvent.removedAt (w : WatcherEvent) : Option String :=
  match w.type with
  | .registered => none
  | .removed => some w.occurredAt

/-- The row with another `removed_at`. -/
def WatcherRow.withRemovedAt (removedAt : Option String) (r : WatcherRow) : WatcherRow :=
  { r with removedAt }

namespace Db

def write (db : Db) : Write → Db
  | .applyBatch params => db.applyBatch params
  | .setSlaQuorumThreshold slaId threshold => db.setSlaQuorumThreshold slaId threshold

/-- Writes one after another. -/
def writeAll (db : Db) (writes : List Write) : Db := writes.foldl write db

/-- Batches one after another. -/
def applyBatches (db : Db) (batches : List BatchParams) : Db := batches.foldl applyBatch db

/-! ### Watchers -/

/-- The last value that watcher events set `removed_at` to. -/
def lastRemovedAt (a : String) (ws : List WatcherEvent) : Option (Option String) :=
  lastWrite WatcherEvent.address WatcherEvent.removedAt a ws

section

variable {t : Table WatcherRow WatcherRow.address}

theorem rows_removeWatcher {removedAt address : String} :
    (removeWatcher t removedAt address).rows = t.rows.map fun r =>
      if r.address = address then r.withRemovedAt (some removedAt) else r := by
  refine List.map_congr_left fun r _ => ?_
  by_cases h : r.address = address <;> simp [h, WatcherRow.withRemovedAt]

theorem rows_insertWatcher_of_mem {address registeredAt : String} (h : address ∈ t.keys) :
    (insertWatcher t address registeredAt).rows = t.rows.map fun r =>
      if r.address = address then r.withRemovedAt none else r := by
  rw [insertWatcher, Table.upsert, if_pos h]
  refine List.map_congr_left fun r _ => ?_
  by_cases h : r.address = address <;> simp [h, WatcherRow.withRemovedAt]

theorem rows_insertWatcher_of_notMem {address registeredAt : String} (h : address ∉ t.keys) :
    (insertWatcher t address registeredAt).rows = t.rows ++ [⟨address, registeredAt, none⟩] := by
  rw [insertWatcher, Table.upsert, if_neg h, Table.rows_insertOrIgnore_of_notMem h]

/-- A watcher event edits the row of its address, unless it registers an address that has none. -/
theorem rows_applyWatcherEvent {w : WatcherEvent}
    (h : w.type = .registered → w.address ∈ t.keys) :
    (applyWatcherEvent t w).rows = t.rows.map fun r =>
      if r.address = w.address then r.withRemovedAt w.removedAt else r := by
  rw [applyWatcherEvent, WatcherEvent.removedAt]
  cases htype : w.type with
  | registered => exact rows_insertWatcher_of_mem (h htype)
  | removed => exact rows_removeWatcher

/-- Then the addresses are the same. -/
theorem keys_applyWatcherEvent_of_mem {w : WatcherEvent}
    (h : w.type = .registered → w.address ∈ t.keys) : (applyWatcherEvent t w).keys = t.keys := by
  rw [Table.keys, rows_applyWatcherEvent h, List.map_map]
  refine List.map_congr_left fun r _ => ?_
  rw [Function.comp_apply]
  split <;> rfl

/-- Addresses stay, and one that is registered is there. -/
theorem keys_applyWatcherEvent (w : WatcherEvent) :
    t.keys ⊆ (applyWatcherEvent t w).keys ∧
      (w.type = .registered → w.address ∈ (applyWatcherEvent t w).keys) := by
  by_cases h : w.type = .registered → w.address ∈ t.keys
  · rw [keys_applyWatcherEvent_of_mem h]
    exact ⟨List.Subset.refl _, h⟩
  · push Not at h
    have hkeys : (applyWatcherEvent t w).keys = t.keys ++ [w.address] := by
      rw [Table.keys, applyWatcherEvent, h.1]
      simp only [rows_insertWatcher_of_notMem h.2, List.map_append, List.map_singleton, Table.keys]
    rw [hkeys]
    exact ⟨List.subset_append_left _ _, fun _ => by simp⟩

theorem keys_foldl_applyWatcherEvent (ws : List WatcherEvent) :
    t.keys ⊆ (ws.foldl applyWatcherEvent t).keys ∧
      ∀ w ∈ ws, w.type = .registered → w.address ∈ (ws.foldl applyWatcherEvent t).keys := by
  induction ws generalizing t with
  | nil => exact ⟨List.Subset.refl _, nofun⟩
  | cons w ws ih =>
    obtain ⟨hkeep, hregistered⟩ := keys_applyWatcherEvent (t := t) w
    obtain ⟨hkeep', hregistered'⟩ := ih (t := applyWatcherEvent t w)
    exact ⟨List.Subset.trans hkeep hkeep',
      List.forall_mem_cons.mpr ⟨fun h => hkeep' (hregistered h), hregistered'⟩⟩

/-- A row after a watcher event is its own, or it was there and is about another address. -/
theorem mem_applyWatcherEvent {w : WatcherEvent} {r : WatcherRow}
    (h : r ∈ (applyWatcherEvent t w).rows) :
    r.address = w.address ∧ r.removedAt = w.removedAt ∨
      r.address ≠ w.address ∧ r ∈ t.rows := by
  by_cases hmem : w.type = .registered → w.address ∈ t.keys
  · rw [rows_applyWatcherEvent hmem] at h
    obtain ⟨x, hx, rfl⟩ := List.mem_map.mp h
    split_ifs with haddress
    · exact .inl ⟨haddress, rfl⟩
    · exact .inr ⟨haddress, hx⟩
  · push Not at hmem
    rw [applyWatcherEvent, hmem.1] at h
    simp only [rows_insertWatcher_of_notMem hmem.2] at h
    rcases List.mem_append.mp h with hr | hr
    · exact .inr ⟨fun haddress => hmem.2 (haddress ▸ List.mem_map_of_mem hr), hr⟩
    · obtain rfl := List.mem_singleton.mp hr
      exact .inl ⟨rfl, by rw [WatcherEvent.removedAt, hmem.1]⟩

/-- Every row is as the last event about its address leaves it. -/
def AsLast (t : Table WatcherRow WatcherRow.address) (ws : List WatcherEvent) : Prop :=
  ∀ r ∈ t.rows, ∀ v, lastRemovedAt r.address ws = some v → r.removedAt = v

/-- **Events leave rows as the last one about their address.** -/
theorem asLast_foldl (t : Table WatcherRow WatcherRow.address) (ws : List WatcherEvent) :
    AsLast (ws.foldl applyWatcherEvent t) ws := by
  induction ws using List.reverseRecOn with
  | nil => exact fun _ _ _ h => nomatch h
  | append_singleton ws w ih =>
    rw [List.foldl_append, List.foldl_cons, List.foldl_nil]
    intro r hr v hv
    rw [lastRemovedAt, lastWrite_concat] at hv
    rcases mem_applyWatcherEvent hr with ⟨haddress, hremoved⟩ | ⟨haddress, hr⟩
    · rw [if_pos haddress.symm] at hv
      rw [hremoved, Option.some.inj hv]
    · rw [if_neg (Ne.symm haddress)] at hv
      exact ih r hr v hv

/-- Later events that are about other addresses or say the same leave rows as they were left. -/
theorem AsLast.of_append {ws ws' : List WatcherEvent} (h : AsLast t (ws ++ ws')) :
    AsLast t ws' := by
  intro r hr v hv
  refine h r hr v ?_
  rw [lastRemovedAt, lastWrite_append]
  exact Option.or_eq_some_iff.mpr (.inl hv)

/-- Events about addresses that have rows edit each by the last one about it. -/
theorem rows_foldl_applyWatcherEvent {ws : List WatcherEvent}
    (h : ∀ w ∈ ws, w.type = .registered → w.address ∈ t.keys) :
    (ws.foldl applyWatcherEvent t).rows = t.rows.map fun r =>
      (lastRemovedAt r.address ws).elim r (WatcherRow.withRemovedAt · r) := by
  have hstep : (ws.foldl applyWatcherEvent t).rows =
      ws.foldl (fun rows w => rows.map fun r =>
        if r.address = w.address then r.withRemovedAt w.removedAt else r) t.rows := by
    induction ws generalizing t with
    | nil => rfl
    | cons w ws ih =>
      obtain ⟨hw, hws⟩ := List.forall_mem_cons.mp h
      rw [List.foldl_cons, List.foldl_cons, ← rows_applyWatcherEvent hw]
      refine ih fun w' hw' hregistered => ?_
      rw [keys_applyWatcherEvent_of_mem hw]
      exact hws w' hw' hregistered
  rw [hstep]
  exact foldl_map_lastWrite WatcherEvent.address WatcherEvent.removedAt WatcherRow.address
    WatcherRow.withRemovedAt (fun _ _ => rfl) (fun _ _ _ => rfl) t.rows ws

/-- **A second pass ends where the first one did.** -/
theorem foldl_applyWatcherEvent_of_asLast {ws : List WatcherEvent} (h : AsLast t ws)
    (hkeys : ∀ w ∈ ws, w.type = .registered → w.address ∈ t.keys) :
    ws.foldl applyWatcherEvent t = t := by
  refine Table.ext ?_
  rw [rows_foldl_applyWatcherEvent hkeys]
  refine (List.map_congr_left fun r hr => ?_).trans (List.map_id t.rows)
  cases hlast : lastRemovedAt r.address ws with
  | none => rfl
  | some v =>
    rw [Option.elim_some, ← h r hr v hlast]
    rfl

end

/-! ### Rows that are inserted once -/

/-- The keys of a batch are taken. -/
structure Knows (db : Db) (params : BatchParams) : Prop where
  checks : ∀ r ∈ params.checks, r.eventId ∈ db.checks.keys
  slas : ∀ r ∈ params.slas, r.slaId ∈ db.slas.keys
  settlements : ∀ r ∈ params.settlements, r.eventId ∈ db.settlements.keys
  lifecycleEvents : ∀ r ∈ params.lifecycleEvents, r.eventId ∈ db.lifecycleEvents.keys

/-- A batch takes its keys. -/
theorem knows_applyBatch (db : Db) (params : BatchParams) :
    (db.applyBatch params).Knows params where
  checks _ hr := Table.key_mem_insertAll hr
  slas r hr := Table.key_mem_insertAll (r := r.stored) (List.mem_map_of_mem hr)
  settlements r hr := Table.key_mem_insertAll (r := r.stored) (List.mem_map_of_mem hr)
  lifecycleEvents _ hr := Table.key_mem_insertAll hr

/-- Keys stay taken. -/
theorem Knows.write {db : Db} {params : BatchParams} (h : db.Knows params) (w : Write) :
    (db.write w).Knows params := by
  cases w with
  | applyBatch p =>
    exact ⟨fun r hr => Table.keys_subset_insertAll _ _ (h.checks r hr),
      fun r hr => Table.keys_subset_insertAll _ _ (h.slas r hr),
      fun r hr => Table.keys_subset_insertAll _ _ (h.settlements r hr),
      fun r hr => Table.keys_subset_insertAll _ _ (h.lifecycleEvents r hr)⟩
  | setSlaQuorumThreshold slaId threshold =>
    refine ⟨h.checks, fun r hr => ?_, fun r hr => ?_, h.lifecycleEvents⟩
    · rw [Db.write, setSlaQuorumThreshold, Table.keys_update]
      exact h.slas r hr
    · rw [Db.write, setSlaQuorumThreshold, Table.keys_update]
      exact h.settlements r hr

/-- A batch whose keys are taken changes the checkpoint and watchers only. -/
theorem Knows.applyBatch_eq {db : Db} {params : BatchParams} (h : db.Knows params) :
    db.applyBatch params = { db with
      checkpoint := some ⟨params.lastLedger, params.lastCursor⟩
      watchers := params.watcherEvents.foldl applyWatcherEvent db.watchers } := by
  have hslas : db.slas.insertAll (params.slas.map SlaRow.stored) = db.slas :=
    Table.insertAll_of_keys_mem (List.forall_mem_map.mpr h.slas)
  have hsettlements :
      db.settlements.insertAll (params.settlements.map SettlementRow.stored) = db.settlements :=
    Table.insertAll_of_keys_mem (List.forall_mem_map.mpr h.settlements)
  rw [applyBatch, Table.insertAll_of_keys_mem h.checks, hslas, hsettlements,
    Table.insertAll_of_keys_mem h.lifecycleEvents]

/-! ### The second pass -/

/-- The checkpoint a list of batches leaves: that of the last one, or the one there was. -/
def checkpointAfter (checkpoint : Option CheckpointRow) (batches : List BatchParams) :
    Option CheckpointRow :=
  (batches.getLast?.map fun params => ⟨params.lastLedger, params.lastCursor⟩).or checkpoint

/-- The watchers that a list of batches leaves. -/
def watchersAfter (t : Table WatcherRow WatcherRow.address) (batches : List BatchParams) :
    Table WatcherRow WatcherRow.address :=
  (batches.flatMap fun params => params.watcherEvents).foldl applyWatcherEvent t

theorem checkpointAfter_concat (checkpoint : Option CheckpointRow) (batches : List BatchParams)
    (params : BatchParams) :
    checkpointAfter checkpoint (batches ++ [params]) =
      some ⟨params.lastLedger, params.lastCursor⟩ := by
  rw [checkpointAfter, List.getLast?_concat, Option.map_some, Option.some_or]

theorem watchersAfter_concat (t : Table WatcherRow WatcherRow.address) (batches : List BatchParams)
    (params : BatchParams) :
    watchersAfter t (batches ++ [params]) =
      params.watcherEvents.foldl applyWatcherEvent (watchersAfter t batches) := by
  rw [watchersAfter, List.flatMap_append, List.flatMap_singleton, List.foldl_append, watchersAfter]

/-- The last of some batches leaves the checkpoint it left before. -/
theorem checkpointAfter_again (checkpoint : Option CheckpointRow)
    (before again : List BatchParams) :
    checkpointAfter (checkpointAfter checkpoint (before ++ again)) again =
      checkpointAfter checkpoint (before ++ again) := by
  rw [checkpointAfter, checkpointAfter, List.getLast?_append]
  cases again.getLast? with
  | none => rfl
  | some params => rfl

/-- So do their watcher events with the watchers. -/
theorem watchersAfter_again (t : Table WatcherRow WatcherRow.address)
    (before again : List BatchParams) :
    watchersAfter (watchersAfter t (before ++ again)) again =
      watchersAfter t (before ++ again) := by
  have hevents : watchersAfter t (before ++ again) =
      ((before.flatMap fun params => params.watcherEvents) ++
        again.flatMap fun params => params.watcherEvents).foldl applyWatcherEvent t := by
    rw [watchersAfter, List.flatMap_append]
  rw [hevents, watchersAfter]
  refine foldl_applyWatcherEvent_of_asLast (asLast_foldl _ _).of_append fun w hw => ?_
  exact (keys_foldl_applyWatcherEvent _).2 w (List.mem_append_right _ hw)

/-- What writes leave of the checkpoint and watchers, and the keys they take. -/
theorem writeAll_spec (db : Db) (writes : List Write) :
    (db.writeAll writes).checkpoint =
        checkpointAfter db.checkpoint (writes.filterMap Write.batch?) ∧
      (db.writeAll writes).watchers =
        watchersAfter db.watchers (writes.filterMap Write.batch?) ∧
      ∀ params ∈ writes.filterMap Write.batch?, (db.writeAll writes).Knows params := by
  induction writes using List.reverseRecOn with
  | nil => exact ⟨rfl, rfl, nofun⟩
  | append_singleton writes w ih =>
    obtain ⟨hcheckpoint, hwatchers, hknows⟩ := ih
    have hwrite : db.writeAll (writes ++ [w]) = (db.writeAll writes).write w := by
      rw [writeAll, List.foldl_append, List.foldl_cons, List.foldl_nil, writeAll]
    rw [hwrite, List.filterMap_append]
    cases w with
    | applyBatch params =>
      change _ = checkpointAfter _ (_ ++ [params]) ∧ _ = watchersAfter _ (_ ++ [params]) ∧
        ∀ p ∈ _ ++ [params], _
      rw [checkpointAfter_concat, watchersAfter_concat, ← hwatchers]
      refine ⟨rfl, rfl, fun p hp => ?_⟩
      rcases List.mem_append.mp hp with hp | hp
      · exact (hknows p hp).write _
      · obtain rfl := List.mem_singleton.mp hp
        exact knows_applyBatch _ _
    | setSlaQuorumThreshold slaId threshold =>
      change _ = checkpointAfter _ (_ ++ []) ∧ _ = watchersAfter _ (_ ++ []) ∧ ∀ p ∈ _ ++ [], _
      rw [List.append_nil]
      exact ⟨hcheckpoint, hwatchers, fun p hp => (hknows p hp).write _⟩

/-- Batches whose keys are taken change the checkpoint and watchers only. -/
theorem applyBatches_of_knows {db : Db} {batches : List BatchParams}
    (h : ∀ params ∈ batches, db.Knows params) :
    db.applyBatches batches = { db with
      checkpoint := checkpointAfter db.checkpoint batches
      watchers := watchersAfter db.watchers batches } := by
  induction batches using List.reverseRecOn with
  | nil => rfl
  | append_singleton batches params ih =>
    have hbefore := ih fun p hp => h p (List.mem_append_left _ hp)
    have hparams : (db.applyBatches batches).Knows params := by
      obtain ⟨hchecks, hslas, hsettlements, hlifecycle⟩ := h params (by simp)
      rw [hbefore]
      exact ⟨hchecks, hslas, hsettlements, hlifecycle⟩
    rw [applyBatches, List.foldl_append, List.foldl_cons, List.foldl_nil, checkpointAfter_concat,
      watchersAfter_concat]
    rw [applyBatches] at hbefore hparams
    rw [hparams.applyBatch_eq, hbefore]

/-- **Reprocessing is harmless.** After any writes to any database, applying the batches of the last
writes again, in order, leaves every table and the checkpoint as they are. -/
theorem reprocessing_harmless (db : Db) (before again : List Write) :
    (db.writeAll (before ++ again)).applyBatches (again.filterMap Write.batch?) =
      db.writeAll (before ++ again) := by
  obtain ⟨hcheckpoint, hwatchers, hknows⟩ := writeAll_spec db (before ++ again)
  rw [List.filterMap_append] at hcheckpoint hwatchers hknows
  rw [applyBatches_of_knows fun params hp => hknows params (List.mem_append_right _ hp)]
  rw [hcheckpoint, hwatchers, checkpointAfter_again, watchersAfter_again, ← hcheckpoint,
    ← hwatchers]

end Db

end Indexer

end SlaSettle
