import Dripline.Proofs.Store.Lawful
import Dripline.Proofs.Time.Sorting
import Mathlib.Data.Multiset.Basic

/-!
# Two stores of executions are as good as one

Whatever is asked of two stores, with times that have an offset and new ids for new records, the answers are
the same:

* `OrderedExecutions`: what a store of executions says of the order in which its records were created, of
  what is not there, and of the most recent ones. A table orders them by the text of a column;
* `Archive.Call`, `Archive.answers`: what can be asked, and the answers. Scheduled executions come in no
  order (`Multiset`);
* `Matched`: two stores that keep the same records, created in the same order;
* `Matched.answer`: one call; **`executions_interchangeable`**: any calls, to a store in memory and to a table.

A limit that has no 64 bits is refused by a table only (`executions_differ`).
-/

namespace Dripline

/-! ## 1. The order of creation -/

/-- A record that was created at a reading in a zone. -/
def Execution.IsCreatedIn (zone : Offset) (e : Execution) : Prop :=
  ∃ m, e.createdAt = some m ∧ m.offset = some zone

/-- When a record was created, in microseconds. -/
def Execution.createdTicks (e : Execution) : Nat := (e.createdAt.map Moment.ticks).getD 0

/-- Records from the latest to the earliest; those of one time keep their order. -/
def latestCreated (es : List Execution) : List Execution :=
  es.mergeSort fun a b => decide (b.createdTicks ≤ a.createdTicks)

/-- The limits that every store accepts. -/
def IsLimit (n : Int) : Prop := 0 ≤ n ∧ n < 2 ^ 63

instance : DecidablePred IsLimit := fun n => inferInstanceAs (Decidable (0 ≤ n ∧ n < 2 ^ 63))

/-- **A store that tells in which order its records were created.** -/
class OrderedExecutions (ε : Type) [ExecutionStorage ε] [LawfulExecutions ε] where
  /-- What the operations keep, when times have an offset. -/
  Orderly : ε → Prop
  /-- The ids in the order in which their records were created. -/
  ids : ε → List String
  orderly_blank : Orderly LawfulExecutions.blank
  ids_blank : ids LawfulExecutions.blank = []
  sound {s : ε} : Orderly s → LawfulExecutions.Sound s
  create_new {s : ε} {e : Execution} {now : Moment} {supply : Ids} : Orderly s →
    ExecutionStorage.get s (supply.orNext e.id).1 = none → (e.createdAt.getD now).isAnchored = true →
    Orderly (ExecutionStorage.create s e now supply).store ∧
      ids (ExecutionStorage.create s e now supply).store = ids s ++ [(supply.orNext e.id).1]
  update_any {s : ε} {id : String} {fields : List Field} : Orderly s →
    Orderly (ExecutionStorage.update s id fields).2 ∧ ids (ExecutionStorage.update s id fields).2 = ids s
  append_any {s : ε} {id : String} {entry : LogEntry} : Orderly s →
    Orderly (ExecutionStorage.appendLog s id entry).2 ∧
      ids (ExecutionStorage.appendLog s id entry).2 = ids s
  update_unknown {s : ε} {id : String} {fields : List Field} {fault : Fault} :
    checkFields fields = .error fault → ExecutionStorage.update s id fields = (.error fault, s)
  update_missing {s : ε} {id : String} {fields : List Field} : ExecutionStorage.get s id = none →
    checkFields fields = .ok () → ExecutionStorage.update s id fields = (.error (.noExecution id), s)
  append_missing {s : ε} {id : String} {entry : LogEntry} : ExecutionStorage.get s id = none →
    ExecutionStorage.appendLog s id entry = (.error (.noExecution id), s)
  listRecent_eq {s : ε} {zone : Offset} {limit : Int} : Orderly s →
    (∀ id e, ExecutionStorage.get s id = some e → e.IsCreatedIn zone) → IsLimit limit →
    ExecutionStorage.listRecent s limit =
      .ok ((latestCreated ((ids s).filterMap (ExecutionStorage.get s))).take limit.toNat)

/-! ## 2. Records in memory -/

namespace MemoryExecutions

theorem values_eq {s : MemoryExecutions} (h : s.IsSound) :
    s.items.values = s.items.keys.filterMap s.items.get? :=
  (Keyed.filterMap_lookup h.distinct).symm

theorem keys_put_of_new {s : MemoryExecutions} {id : String} (e : Execution) (h : s.items.get? id = none) :
    (s.items.put id e).keys = s.items.keys ++ [id] := by
  unfold Keyed.keys Keyed.put
  rw [Keyed.putEntry_of_new e (Keyed.not_mem_keys_of_lookup h), List.map_append]
  rfl

theorem keys_put_of_found {s : MemoryExecutions} (hs : s.IsSound) {id : String} {e e' : Execution}
    (h : s.items.get? id = some e) : (s.items.put id e').keys = s.items.keys := by
  have hmem : id ∈ s.items.entries.map Prod.fst := List.mem_map_of_mem (Keyed.mem_of_lookup h)
  unfold Keyed.keys Keyed.put
  rw [Keyed.putEntry_of_mem e' hs.distinct hmem, List.map_map]
  refine List.map_congr_left fun entry _ => ?_
  show (if entry.1 = id then (id, e') else entry).1 = entry.1
  split
  · rename_i hid
    exact hid.symm
  · rfl

theorem creationKey_of_zone {e : Execution} {zone : Offset} (h : e.IsCreatedIn zone) :
    creationKey e = Moment.shifted e.createdTicks zone ∧ isAnchored e = true := by
  obtain ⟨m, hm, hzone⟩ := h
  unfold creationKey isAnchored Execution.createdTicks Moment.instant? Moment.isAnchored
  rw [hm]
  dsimp only [Option.map]
  rw [hzone]
  exact ⟨rfl, rfl⟩

theorem update_keeps {s : MemoryExecutions} (h : s.IsSound) (id : String) (fields : List Field) :
    (update s id fields).2.IsSound ∧ (update s id fields).2.items.keys = s.items.keys := by
  unfold update
  cases checkFields fields with
  | error fault => exact ⟨h, rfl⟩
  | ok u =>
    cases hget : s.items.get? id with
    | none => exact ⟨h, rfl⟩
    | some e =>
      have hid : (fields.foldl write e).id = id := by
        rw [← written_kept_id]
        exact (written_id e _ fields).trans (h.own id e hget)
      exact ⟨isSound_put h hid, keys_put_of_found h hget⟩

theorem appendLog_keeps {s : MemoryExecutions} (h : s.IsSound) (id : String) (entry : LogEntry) :
    (appendLog s id entry).2.IsSound ∧ (appendLog s id entry).2.items.keys = s.items.keys := by
  unfold appendLog
  cases hget : s.items.get? id with
  | none => exact ⟨h, rfl⟩
  | some e => exact ⟨isSound_put h (h.own id e hget), keys_put_of_found h hget⟩

/-- Records that were created in one zone are listed as they were created. -/
theorem listRecent_eq {s : MemoryExecutions} {zone : Offset}
    (hzone : ∀ e ∈ s.items.values, e.IsCreatedIn zone) (limit : Int) :
    listRecent s limit = .ok (takeSigned limit (latestCreated s.items.values)) := by
  have hanchored : s.items.values.all isAnchored = true :=
    List.all_eq_true.mpr fun e he => (creationKey_of_zone (hzone e he)).2
  have hsorted : latestFirst creationKey s.items.values = latestCreated s.items.values := by
    refine mergeSort_congr fun a ha b hb => ?_
    rw [(creationKey_of_zone (hzone a ha)).1, (creationKey_of_zone (hzone b hb)).1]
    exact decide_eq_decide.mpr (by unfold Moment.shifted; omega)
  unfold listRecent
  dsimp only
  rw [hanchored, Bool.true_or, if_pos rfl, hsorted]

theorem listRecent_of_zone {s : MemoryExecutions} {zone : Offset} (h : s.IsSound)
    (hzone : ∀ id e, s.items.get? id = some e → e.IsCreatedIn zone) (n : Nat) :
    listRecent s n = .ok ((latestCreated (s.items.keys.filterMap s.items.get?)).take n) := by
  rw [listRecent_eq fun e he => hzone e.id e ((mem_values_iff h e).mp he), values_eq h]
  rfl

instance : OrderedExecutions MemoryExecutions where
  Orderly := IsSound
  ids s := s.items.keys
  orderly_blank := isSound_empty
  ids_blank := rfl
  sound h := h
  create_new h hnew _ := ⟨isSound_put h rfl, keys_put_of_new _ hnew⟩
  update_any h := update_keeps h _ _
  append_any h := appendLog_keeps h _ _
  update_unknown {s id fields fault} h := by
    show update s id fields = _
    unfold update
    rw [h]
  update_missing {s id fields} hget hfields := by
    have hget' : s.items.get? id = none := hget
    show update s id fields = _
    unfold update
    rw [hfields, hget']
  append_missing {s id entry} hget := by
    have hget' : s.items.get? id = none := hget
    show appendLog s id entry = _
    unfold appendLog
    rw [hget']
  listRecent_eq h hzone hlimit := by
    obtain ⟨n, rfl⟩ := Int.eq_ofNat_of_zero_le hlimit.1
    exact listRecent_of_zone h hzone n

end MemoryExecutions

/-! ## 3. Tables of text columns -/

theorem isColumnNumber_iff {n : Int} : isColumnNumber n = true ↔ -2 ^ 63 ≤ n ∧ n < 2 ^ 63 := by
  unfold isColumnNumber
  rw [Bool.and_eq_true, decide_eq_true_iff, decide_eq_true_iff]
  omega

namespace ExecutionTable

/-- A sound table whose records were created at readings with an offset. -/
structure IsOrderly (t : ExecutionTable) : Prop where
  sound : t.IsSound
  anchored : ∀ r ∈ t.rows, ∃ m : Moment, m.isAnchored = true ∧ r.createdAt = momentColumn m

theorem rows_eq {t : ExecutionTable} (h : t.IsSound) :
    t.rows.map t.executionOf = (t.rows.map ExecutionRow.id).filterMap t.get := by
  rw [List.filterMap_map, ← List.filterMap_eq_map]
  refine List.filterMap_congr fun r hr => ?_
  have hget := (mem_rows_map_iff h (t.executionOf r)).mp (List.mem_map_of_mem hr)
  exact hget.symm

theorem write_createdAt (r : ExecutionRow) (fields : List Field) :
    (fields.foldl write r).createdAt = r.createdAt := by
  induction fields generalizing r with
  | nil => rfl
  | cons f fields ih =>
    rw [List.foldl_cons, ih]
    cases f <;> rfl

theorem rows_create {t : ExecutionTable} {e : Execution} {now : Moment} {supply : Ids}
    (h : t.get (supply.orNext e.id).1 = none) : ∃ r : ExecutionRow,
      (t.create e now supply).store.rows = t.rows ++ [r] ∧ r.id = (supply.orNext e.id).1 ∧
        r.createdAt = momentColumn (e.createdAt.getD now) := by
  have hnew := (get_eq_none_iff t _).mp h
  unfold create
  dsimp only
  rw [if_neg (mt (any_iff_mem_ids t.rows _).mp hnew)]
  exact ⟨_, rfl, rfl, rfl⟩

theorem createdAt_of_row {t : ExecutionTable} {r : ExecutionRow} {m : Moment} (hm : m.isAnchored = true)
    (hr : r.createdAt = momentColumn m) : (t.executionOf r).createdAt = some m := by
  show some (columnMoment r.createdAt) = _
  rw [hr]
  exact congrArg some (columnKept_of_anchored hm)

theorem create_keeps {t : ExecutionTable} {e : Execution} {now : Moment} {supply : Ids} (h : t.IsOrderly)
    (hnew : t.get (supply.orNext e.id).1 = none) (hanchored : (e.createdAt.getD now).isAnchored = true) :
    (t.create e now supply).store.IsOrderly ∧ (t.create e now supply).store.rows.map ExecutionRow.id =
      t.rows.map ExecutionRow.id ++ [(supply.orNext e.id).1] := by
  obtain ⟨r, hrows, hid, hcreated⟩ : ∃ r : ExecutionRow, (t.create e now supply).store.rows = t.rows ++ [r] ∧
      r.id = (supply.orNext e.id).1 ∧ r.createdAt = momentColumn (e.createdAt.getD now) := rows_create hnew
  obtain ⟨t', hcreate, hsound, _⟩ := create_eq h.sound now rfl hnew
  refine ⟨⟨?_, ?_⟩, ?_⟩
  · rw [hcreate]
    exact hsound
  · rw [hrows]
    exact List.forall_mem_append.mpr ⟨h.anchored, List.forall_mem_singleton.mpr ⟨_, hanchored, hcreated⟩⟩
  · rw [hrows, List.map_append, List.map_singleton, hid]

theorem update_keeps {t : ExecutionTable} (h : t.IsOrderly) (id : String) (fields : List Field) :
    (update t id fields).2.IsOrderly ∧
      (update t id fields).2.rows.map ExecutionRow.id = t.rows.map ExecutionRow.id := by
  have hids : (t.rows.map fun r => if r.id = id then fields.foldl write r else r).map ExecutionRow.id =
      t.rows.map ExecutionRow.id := by
    rw [List.map_map]
    exact List.map_congr_left fun r _ => revised_id id fields r
  have hnext : IsOrderly { t with rows := t.rows.map fun r => if r.id = id then fields.foldl write r else r } := by
    refine ⟨isSound_update h.sound id fields, fun r hr => ?_⟩
    obtain ⟨old, hold, rfl⟩ := List.mem_map.mp hr
    obtain ⟨m, hm, hcreated⟩ := h.anchored old hold
    refine ⟨m, hm, ?_⟩
    split
    · rw [write_createdAt]
      exact hcreated
    · exact hcreated
  unfold update
  cases checkFields fields with
  | error fault => exact ⟨h, rfl⟩
  | ok u =>
    dsimp only
    split
    · exact ⟨hnext, hids⟩
    · exact ⟨hnext, hids⟩

theorem appendLog_keeps {t : ExecutionTable} (h : t.IsOrderly) (id : String) (entry : LogEntry) :
    (appendLog t id entry).2.IsOrderly ∧
      (appendLog t id entry).2.rows.map ExecutionRow.id = t.rows.map ExecutionRow.id := by
  unfold appendLog
  split
  · rename_i hthere
    have hmem := (any_iff_mem_ids t.rows id).mp hthere
    refine ⟨⟨⟨h.sound.distinct, ?_⟩, h.anchored⟩, rfl⟩
    exact List.forall_mem_append.mpr ⟨h.sound.owned, List.forall_mem_singleton.mpr hmem⟩
  · exact ⟨h, rfl⟩

/-- Rows whose records were created in one zone are ordered as the records were created: the texts of the
    column are ordered as the readings are. -/
theorem descending_createdAt {t : ExecutionTable} {zone : Offset}
    (hcolumns : ∀ r ∈ t.rows, ∃ m : Moment, m.isAnchored = true ∧ r.createdAt = momentColumn m)
    (hzone : ∀ e ∈ t.rows.map t.executionOf, e.IsCreatedIn zone) :
    (descending ExecutionRow.createdAt t.rows).map t.executionOf =
      latestCreated (t.rows.map t.executionOf) := by
  have hrow : ∀ r ∈ t.rows, ∃ m : Moment, m.offset = some zone ∧ r.createdAt = momentColumn m ∧
      (t.executionOf r).createdTicks = m.ticks := by
    intro r hr
    obtain ⟨m, hm, hcreated⟩ := hcolumns r hr
    have hread := createdAt_of_row (t := t) hm hcreated
    obtain ⟨m', hm', hoffset⟩ := hzone _ (List.mem_map_of_mem hr)
    rw [hread] at hm'
    cases hm'
    refine ⟨m, hoffset, hcreated, ?_⟩
    unfold Execution.createdTicks
    rw [hread]
    rfl
  refine List.map_mergeSort fun a ha b hb => ?_
  obtain ⟨m, hm, ha', hticks⟩ := hrow a ha
  obtain ⟨m', hm', hb', hticks'⟩ := hrow b hb
  rw [hticks, hticks', ha', hb']
  exact Moment.not_render_lt (hm.trans hm'.symm)

/-- Rows whose records were created in one zone are listed as the records were created. -/
theorem listRecent_eq {t : ExecutionTable} {zone : Offset}
    (hcolumns : ∀ r ∈ t.rows, ∃ m : Moment, m.isAnchored = true ∧ r.createdAt = momentColumn m)
    (hzone : ∀ e ∈ t.rows.map t.executionOf, e.IsCreatedIn zone) {limit : Int}
    (hlimit : isColumnNumber limit = true) :
    listRecent t limit = .ok (if limit < 0 then latestCreated (t.rows.map t.executionOf)
      else (latestCreated (t.rows.map t.executionOf)).take limit.toNat) := by
  unfold listRecent
  rw [if_pos hlimit]
  dsimp only
  rw [← descending_createdAt hcolumns hzone, apply_ite (List.map t.executionOf), List.map_take]

theorem listRecent_of_zone {t : ExecutionTable} {zone : Offset} {limit : Int} (h : t.IsOrderly)
    (hzone : ∀ id e, t.get id = some e → e.IsCreatedIn zone) (hlimit : IsLimit limit) :
    listRecent t limit =
      .ok ((latestCreated ((t.rows.map ExecutionRow.id).filterMap t.get)).take limit.toNat) := by
  have hcolumn : isColumnNumber limit = true := by
    unfold IsLimit at hlimit
    exact isColumnNumber_iff.mpr (by omega)
  rw [listRecent_eq h.anchored (fun e he => hzone _ _ ((mem_rows_map_iff h.sound e).mp he)) hcolumn,
    if_neg (Int.not_lt.mpr hlimit.1), rows_eq h.sound]

instance : OrderedExecutions ExecutionTable where
  Orderly := IsOrderly
  ids t := t.rows.map ExecutionRow.id
  orderly_blank := ⟨isSound_empty, List.forall_mem_nil _⟩
  ids_blank := rfl
  sound h := h.sound
  create_new h hnew hanchored := create_keeps h hnew hanchored
  update_any h := update_keeps h _ _
  append_any h := appendLog_keeps h _ _
  update_unknown {t id fields fault} h := by
    show update t id fields = _
    unfold update
    rw [h]
  update_missing hget hfields := update_of_missing hget hfields
  append_missing {t id entry} hget := by
    have hnew := (get_eq_none_iff t id).mp hget
    show appendLog t id entry = _
    unfold appendLog
    rw [if_neg (mt (any_iff_mem_ids t.rows id).mp hnew)]
  listRecent_eq h hzone hlimit := listRecent_of_zone h hzone hlimit

end ExecutionTable

/-! ## 4. Times with an offset -/

/-- The moments of a field have an offset. -/
def Field.IsAnchored : Field → Prop
  | .scheduledFor m => ∀ x ∈ m, x.isAnchored = true
  | .completedAt m => ∀ x ∈ m, x.isAnchored = true
  | _ => True

/-- The moments of a record have an offset. -/
structure Execution.IsAnchored (e : Execution) : Prop where
  log : ∀ entry ∈ e.log, entry.timestamp.isAnchored = true
  scheduledFor : ∀ m ∈ e.scheduledFor, m.isAnchored = true
  completedAt : ∀ m ∈ e.completedAt, m.isAnchored = true

instance : DecidablePred Field.IsAnchored
  | .scheduledFor m => inferInstanceAs (Decidable (∀ x ∈ m, x.isAnchored = true))
  | .completedAt m => inferInstanceAs (Decidable (∀ x ∈ m, x.isAnchored = true))
  | .status _ => isTrue trivial
  | .currentNode _ => isTrue trivial
  | .unknown _ => isTrue trivial

instance : DecidablePred Execution.IsAnchored := fun e =>
  decidable_of_iff ((∀ entry ∈ e.log, entry.timestamp.isAnchored = true) ∧
    (∀ m ∈ e.scheduledFor, m.isAnchored = true) ∧ ∀ m ∈ e.completedAt, m.isAnchored = true)
    ⟨fun ⟨hlog, hscheduled, hcompleted⟩ => ⟨hlog, hscheduled, hcompleted⟩,
      fun h => ⟨h.log, h.scheduledFor, h.completedAt⟩⟩

section

variable {kept kept' : Moment → Moment} (h : ∀ m, m.isAnchored = true → kept m = kept' m)

include h

theorem map_kept {o : Option Moment} (ho : ∀ m ∈ o, m.isAnchored = true) : o.map kept = o.map kept' :=
  Option.map_congr fun m hm => h m (ho m hm)

theorem keep_congr {entry : LogEntry} (hentry : entry.timestamp.isAnchored = true) :
    entry.keep kept = entry.keep kept' := by
  unfold LogEntry.keep
  rw [h _ hentry]

theorem created_congr {e : Execution} (he : e.IsAnchored) {now : Moment}
    (hcreated : (e.createdAt.getD now).isAnchored = true) (id : String) :
    e.created kept id now = e.created kept' id now := by
  have hlog : e.log.map (LogEntry.keep kept) = e.log.map (LogEntry.keep kept') :=
    List.map_congr_left fun entry hentry => keep_congr h (he.log entry hentry)
  unfold Execution.created
  rw [hlog, map_kept h he.scheduledFor, map_kept h he.completedAt, h _ hcreated]

theorem written_congr {fields : List Field} (hfields : ∀ f ∈ fields, f.IsAnchored) (e : Execution) :
    e.written kept fields = e.written kept' fields := by
  unfold Execution.written
  congr 1
  refine List.map_congr_left fun f hf => ?_
  have hanchored := hfields f hf
  cases f with
  | scheduledFor m => exact congrArg Field.scheduledFor (map_kept h hanchored)
  | completedAt m => exact congrArg Field.completedAt (map_kept h hanchored)
  | status s => rfl
  | currentNode id => rfl
  | unknown name => rfl

end

theorem written_createdAt (e : Execution) (kept : Moment → Moment) (fields : List Field) :
    (e.written kept fields).createdAt = e.createdAt := by
  unfold Execution.written
  induction fields generalizing e with
  | nil => rfl
  | cons f fields ih =>
    rw [List.map_cons, List.foldl_cons, ih]
    cases f <;> rfl

/-! ## 5. Calls -/

/-- A store of executions with the supply of ids for it. -/
structure Archive (ε : Type) where
  store : ε
  ids : Ids

namespace Archive

/-- What can be asked of a store of executions. -/
inductive Call where
  | create (e : Execution)
  | get (id : String)
  | update (id : String) (fields : List Field)
  | appendLog (id : String) (entry : LogEntry)
  | listScheduled
  | listRecent (limit : Int)

/-- An answer: records or a fault, or records in no order. -/
inductive Answer where
  | records (x : Except Fault (List Execution))
  | scheduled (es : Multiset Execution)

/-- The times that a call carries have an offset, new records are created at readings in a zone, and a limit
    is one that every store accepts. -/
def Call.Fits (zone : Offset) (now : Moment) : Call → Prop
  | .create e => e.IsAnchored ∧ (e.createdAt.getD now).offset = some zone
  | .update _ fields => ∀ f ∈ fields, f.IsAnchored
  | .appendLog _ entry => entry.timestamp.isAnchored = true
  | .listRecent limit => IsLimit limit
  | _ => True

instance (zone : Offset) (now : Moment) : DecidablePred (Call.Fits zone now)
  | .create e => inferInstanceAs (Decidable (e.IsAnchored ∧ (e.createdAt.getD now).offset = some zone))
  | .update _ fields => inferInstanceAs (Decidable (∀ f ∈ fields, f.IsAnchored))
  | .appendLog _ entry => inferInstanceAs (Decidable (entry.timestamp.isAnchored = true))
  | .listRecent limit => inferInstanceAs (Decidable (IsLimit limit))
  | .get _ => isTrue trivial
  | .listScheduled => isTrue trivial

section

variable {ε : Type} [ExecutionStorage ε]

/-- The answer to a call, and the archive after it. -/
def answer (a : Archive ε) (now : Moment) : Call → Answer × Archive ε
  | .create e =>
    let c := ExecutionStorage.create a.store e now a.ids
    (.records (c.result.map fun e => [e]), ⟨c.store, c.ids⟩)
  | .get id => (.records (.ok (ExecutionStorage.get a.store id).toList), a)
  | .update id fields =>
    let u := ExecutionStorage.update a.store id fields
    (.records (u.1.map fun e => [e]), ⟨u.2, a.ids⟩)
  | .appendLog id entry =>
    let u := ExecutionStorage.appendLog a.store id entry
    (.records (u.1.map fun _ => []), ⟨u.2, a.ids⟩)
  | .listScheduled => (.scheduled (ExecutionStorage.listScheduled a.store), a)
  | .listRecent limit => (.records (ExecutionStorage.listRecent a.store limit), a)

/-- The answers to calls, one after the other. -/
def answers (a : Archive ε) : List (Moment × Call) → List Answer
  | [] => []
  | (now, c) :: calls => (a.answer now c).1 :: (a.answer now c).2.answers calls

/-- What is to be created gets an id that is not there. -/
def IsNew (a : Archive ε) : Call → Prop
  | .create e => ExecutionStorage.get a.store (a.ids.orNext e.id).1 = none
  | _ => True

/-- Every record that is created gets a new id. -/
def CreatesNew (a : Archive ε) : List (Moment × Call) → Prop
  | [] => True
  | (now, c) :: calls => a.IsNew c ∧ (a.answer now c).2.CreatesNew calls

end

/-! ## 6. Two stores -/

section

variable {ε ζ : Type} [ExecutionStorage ε] [LawfulExecutions ε] [OrderedExecutions ε]
  [ExecutionStorage ζ] [LawfulExecutions ζ] [OrderedExecutions ζ]

/-- **Two stores with the same records**, which were created in the same order at readings in a zone. -/
structure Matched (zone : Offset) (s : ε) (t : ζ) : Prop where
  left : OrderedExecutions.Orderly s
  right : OrderedExecutions.Orderly t
  ids : OrderedExecutions.ids t = OrderedExecutions.ids s
  get : ∀ id, ExecutionStorage.get t id = ExecutionStorage.get s id
  zoned : ∀ id e, ExecutionStorage.get s id = some e → e.IsCreatedIn zone

variable {zone : Offset} {s s' : ε} {t t' : ζ} {now : Moment}

/-- The same record under one id, and nothing else is new. -/
theorem Matched.revised (h : Matched zone s t) {id : String} {e : Execution} (he : e.IsCreatedIn zone)
    (hs : ExecutionStorage.get s' id = some e ∧
      ∀ id', id' ≠ id → ExecutionStorage.get s' id' = ExecutionStorage.get s id')
    (ht : ExecutionStorage.get t' id = some e ∧
      ∀ id', id' ≠ id → ExecutionStorage.get t' id' = ExecutionStorage.get t id')
    (hleft : OrderedExecutions.Orderly s') (hright : OrderedExecutions.Orderly t')
    (hids : OrderedExecutions.ids t' = OrderedExecutions.ids s') : Matched zone s' t' where
  left := hleft
  right := hright
  ids := hids
  get id' := by
    by_cases hid : id' = id
    · rw [hid, hs.1, ht.1]
    · rw [hs.2 id' hid, ht.2 id' hid, h.get id']
  zoned id' e' hget := by
    by_cases hid : id' = id
    · rw [hid, hs.1] at hget
      cases hget
      exact he
    · rw [hs.2 id' hid] at hget
      exact h.zoned id' e' hget

theorem Matched.listScheduled (h : Matched zone s t) :
    (ExecutionStorage.listScheduled t).Perm (ExecutionStorage.listScheduled s) := by
  have hleft := OrderedExecutions.sound h.left
  have hright := OrderedExecutions.sound h.right
  refine (List.perm_ext_iff_of_nodup (LawfulExecutions.nodup_listScheduled hright).of_map
    (LawfulExecutions.nodup_listScheduled hleft).of_map).mpr fun e => ?_
  rw [LawfulExecutions.mem_listScheduled e hleft, LawfulExecutions.mem_listScheduled e hright, h.get]

theorem Matched.listRecent (h : Matched zone s t) {limit : Int} (hlimit : IsLimit limit) :
    ExecutionStorage.listRecent t limit = ExecutionStorage.listRecent s limit := by
  have hget : (ExecutionStorage.get t : String → Option Execution) = ExecutionStorage.get s := funext h.get
  have hzoned : ∀ id e, ExecutionStorage.get t id = some e → e.IsCreatedIn zone := by
    rw [hget]
    exact h.zoned
  rw [OrderedExecutions.listRecent_eq h.left h.zoned hlimit, OrderedExecutions.listRecent_eq h.right hzoned hlimit,
    h.ids, hget]

theorem matched_blank : Matched zone (LawfulExecutions.blank : ε) (LawfulExecutions.blank : ζ) where
  left := OrderedExecutions.orderly_blank
  right := OrderedExecutions.orderly_blank
  ids := OrderedExecutions.ids_blank.trans OrderedExecutions.ids_blank.symm
  get id := (LawfulExecutions.get_blank id).trans (LawfulExecutions.get_blank id).symm
  zoned id e hget := by
    rw [LawfulExecutions.get_blank] at hget
    cases hget

/-! ### One call -/

variable [KeepsMoments ε true] [KeepsMoments ζ true]

omit [OrderedExecutions ε] [OrderedExecutions ζ] in
theorem kept_agree (m : Moment) (hm : m.isAnchored = true) :
    LawfulExecutions.kept ζ m = LawfulExecutions.kept ε m := by
  rw [KeepsMoments.kept_eq m hm, KeepsMoments.kept_eq m hm]

/-- What one call comes to: the same answer, and stores that are still matched. -/
def Follows (zone : Offset) (a : Archive ε) (b : Archive ζ) (now : Moment) (c : Call) : Prop :=
  (b.answer now c).1 = (a.answer now c).1 ∧
    Matched zone (a.answer now c).2.store (b.answer now c).2.store ∧
    (b.answer now c).2.ids = (a.answer now c).2.ids

variable {ids : Ids}

theorem Matched.create (h : Matched zone s t) {e : Execution} (hfits : Call.Fits zone now (.create e))
    (hnew : ExecutionStorage.get s (ids.orNext e.id).1 = none) :
    Follows zone (⟨s, ids⟩ : Archive ε) (⟨t, ids⟩ : Archive ζ) now (.create e) := by
  obtain ⟨hanchored, hzone⟩ := hfits
  have hcreated := Moment.isAnchored_of_offset hzone
  have hnew' : ExecutionStorage.get t (ids.orNext e.id).1 = none := (h.get _).trans hnew
  obtain ⟨s', hs', _, hown, hothers⟩ := LawfulExecutions.create_free now (OrderedExecutions.sound h.left) hnew
  obtain ⟨t', ht', _, hown', hothers'⟩ := LawfulExecutions.create_free now (OrderedExecutions.sound h.right) hnew'
  have hleft := OrderedExecutions.create_new h.left hnew hcreated
  have hright := OrderedExecutions.create_new h.right hnew' hcreated
  have hsame := created_congr (kept_agree (ε := ε) (ζ := ζ)) hanchored hcreated (ids.orNext e.id).1
  have hcreatedIn : (e.created (LawfulExecutions.kept ε) (ids.orNext e.id).1 now).IsCreatedIn zone := by
    refine ⟨e.createdAt.getD now, ?_, hzone⟩
    show some (LawfulExecutions.kept ε (e.createdAt.getD now)) = _
    rw [KeepsMoments.kept_eq _ hcreated]
  rw [hs'] at hleft
  rw [ht'] at hright
  rw [hsame] at ht' hown'
  refine ⟨?_, ?_, ?_⟩
  · show Answer.records ((ExecutionStorage.create t e now ids).result.map _) =
      .records ((ExecutionStorage.create s e now ids).result.map _)
    rw [hs', ht']
  · show Matched zone (ExecutionStorage.create s e now ids).store (ExecutionStorage.create t e now ids).store
    rw [hs', ht']
    exact h.revised hcreatedIn ⟨hown, hothers⟩ ⟨hown', hothers'⟩ hleft.1 hright.1
      (by rw [hleft.2, hright.2, h.ids])
  · show (ExecutionStorage.create t e now ids).ids = (ExecutionStorage.create s e now ids).ids
    rw [hs', ht']

/-- **The fields of a record**: they are written in both stores, or refused by both. -/
theorem Matched.update (h : Matched zone s t) (id : String) {fields : List Field}
    (hfits : ∀ f ∈ fields, f.IsAnchored) :
    Follows zone (⟨s, ids⟩ : Archive ε) (⟨t, ids⟩ : Archive ζ) now (.update id fields) := by
  suffices hupdate : (ExecutionStorage.update t id fields).1 = (ExecutionStorage.update s id fields).1 ∧
      Matched zone (ExecutionStorage.update s id fields).2 (ExecutionStorage.update t id fields).2 from
    ⟨congrArg (fun x : Except Fault Execution => Answer.records (x.map fun e => [e])) hupdate.1, hupdate.2, rfl⟩
  cases hfields : checkFields fields with
  | error fault =>
    rw [OrderedExecutions.update_unknown hfields, OrderedExecutions.update_unknown hfields]
    exact ⟨rfl, h⟩
  | ok u =>
    cases hget : ExecutionStorage.get s id with
    | none =>
      rw [OrderedExecutions.update_missing hget hfields,
        OrderedExecutions.update_missing ((h.get id).trans hget) hfields]
      exact ⟨rfl, h⟩
    | some e =>
      obtain ⟨s', hs', _, hown, hothers⟩ :=
        LawfulExecutions.update_found (OrderedExecutions.sound h.left) hget hfields
      obtain ⟨t', ht', _, hown', hothers'⟩ :=
        LawfulExecutions.update_found (OrderedExecutions.sound h.right) ((h.get id).trans hget) hfields
      have hleft : OrderedExecutions.Orderly (ExecutionStorage.update s id fields).2 ∧ _ :=
        OrderedExecutions.update_any h.left
      have hright : OrderedExecutions.Orderly (ExecutionStorage.update t id fields).2 ∧ _ :=
        OrderedExecutions.update_any h.right
      -- what is written has an offset, so that both stores keep it alike
      rw [written_congr (kept_agree (ε := ε) (ζ := ζ)) hfits e] at ht' hown'
      rw [hs'] at hleft
      rw [ht'] at hright
      rw [hs', ht']
      have hcreatedIn : (e.written (LawfulExecutions.kept ε) fields).IsCreatedIn zone := by
        unfold Execution.IsCreatedIn
        rw [written_createdAt]
        exact h.zoned id e hget
      exact ⟨rfl, h.revised hcreatedIn ⟨hown, hothers⟩ ⟨hown', hothers'⟩ hleft.1 hright.1
        (by rw [hleft.2, hright.2, h.ids])⟩

/-- **An entry of a log**: it is appended in both stores, or there is no such record. -/
theorem Matched.append (h : Matched zone s t) (id : String) {entry : LogEntry}
    (hfits : entry.timestamp.isAnchored = true) :
    Follows zone (⟨s, ids⟩ : Archive ε) (⟨t, ids⟩ : Archive ζ) now (.appendLog id entry) := by
  suffices happend : (ExecutionStorage.appendLog t id entry).1 = (ExecutionStorage.appendLog s id entry).1 ∧
      Matched zone (ExecutionStorage.appendLog s id entry).2 (ExecutionStorage.appendLog t id entry).2 from
    ⟨congrArg (fun x : Except Fault Unit => Answer.records (x.map fun _ => [])) happend.1, happend.2, rfl⟩
  cases hget : ExecutionStorage.get s id with
  | none =>
    rw [OrderedExecutions.append_missing hget, OrderedExecutions.append_missing ((h.get id).trans hget)]
    exact ⟨rfl, h⟩
  | some e =>
    obtain ⟨s', hs', _, hown, hothers⟩ :=
      LawfulExecutions.append_found entry (OrderedExecutions.sound h.left) hget
    obtain ⟨t', ht', _, hown', hothers'⟩ :=
      LawfulExecutions.append_found entry (OrderedExecutions.sound h.right) ((h.get id).trans hget)
    have hleft : OrderedExecutions.Orderly (ExecutionStorage.appendLog s id entry).2 ∧ _ :=
      OrderedExecutions.append_any h.left
    have hright : OrderedExecutions.Orderly (ExecutionStorage.appendLog t id entry).2 ∧ _ :=
      OrderedExecutions.append_any h.right
    have hnoted : e.noted (LawfulExecutions.kept ζ) entry = e.noted (LawfulExecutions.kept ε) entry := by
      unfold Execution.noted
      rw [keep_congr (kept_agree (ε := ε) (ζ := ζ)) hfits]
    rw [hnoted] at hown'
    rw [hs'] at hleft
    rw [ht'] at hright
    rw [hs', ht']
    have hcreatedIn : (e.noted (LawfulExecutions.kept ε) entry).IsCreatedIn zone := h.zoned id e hget
    exact ⟨rfl, h.revised hcreatedIn ⟨hown, hothers⟩ ⟨hown', hothers'⟩ hleft.1 hright.1
      (by rw [hleft.2, hright.2, h.ids])⟩

/-- **One call.** -/
theorem Matched.follows (h : Matched zone s t) {c : Call} (hfits : c.Fits zone now)
    (hnew : (⟨s, ids⟩ : Archive ε).IsNew c) :
    Follows zone (⟨s, ids⟩ : Archive ε) (⟨t, ids⟩ : Archive ζ) now c := by
  cases c with
  | create e => exact h.create hfits hnew
  | get id => exact ⟨congrArg (fun o : Option Execution => Answer.records (.ok o.toList)) (h.get id), h, rfl⟩
  | update id fields => exact h.update id hfits
  | appendLog id entry => exact h.append id hfits
  | listScheduled => exact ⟨congrArg Answer.scheduled (Multiset.coe_eq_coe.mpr h.listScheduled), h, rfl⟩
  | listRecent limit => exact ⟨congrArg Answer.records (h.listRecent hfits), h, rfl⟩

/-- **The same answers**, to any calls. -/
theorem answers_eq (calls : List (Moment × Call)) {a : Archive ε} {b : Archive ζ}
    (h : Matched zone a.store b.store) (hids : b.ids = a.ids) (hfits : ∀ x ∈ calls, x.2.Fits zone x.1)
    (hnew : a.CreatesNew calls) : b.answers calls = a.answers calls := by
  induction calls generalizing a b with
  | nil => rfl
  | cons x calls ih =>
    obtain ⟨now, c⟩ := x
    obtain ⟨hfirst, hrest⟩ := hnew
    obtain ⟨s, ids⟩ := a
    obtain ⟨t, ids'⟩ := b
    cases hids
    obtain ⟨hanswer, hmatched, hnext⟩ := h.follows (hfits _ List.mem_cons_self) hfirst
    show (answer _ now c).1 :: answers _ calls = (answer _ now c).1 :: answers _ calls
    rw [hanswer, ih hmatched hnext (fun y hy => hfits y (List.mem_cons_of_mem _ hy)) hrest]

end

/-- Two records, one created a minute after the other, whose logs grow in turn. -/
def turnCalls : List (Moment × Call) :=
  let later := Moment.first.addMicros 60000000
  let entry : LogEntry := ⟨"mail", "action", later, "success", some "Sent", none⟩
  [(Moment.first, .create ⟨"x", "id-1", "a@b.com", .pending, none, [], none, none, none⟩),
    (later, .create ⟨"", "id-1", "b@b.com", .pending, none, [entry], none, none, none⟩),
    (later, .appendLog "x" entry), (later, .appendLog "id-1" entry), (later, .appendLog "x" entry),
    (later, .update "id-1" [.currentNode (some "wait"), .scheduledFor (some later)]),
    (later, .update "x" [.unknown "log"]), (later, .update "y" []), (later, .get "x"), (later, .listScheduled),
    (later, .listRecent 1), (later, .listRecent 9223372036854775807)]

/-- One record, and a limit that has more than 64 bits. -/
def wideCalls : List (Moment × Call) :=
  [(Moment.first, .create ⟨"x", "id-1", "a@b.com", .pending, none, [], none, none, none⟩),
    (Moment.first, .listRecent (2 ^ 63))]

end Archive

end Dripline
