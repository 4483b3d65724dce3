import Dripline.Store.Memory
import Dripline.Store.Table
import Dripline.Proofs.Time.Stamp
import Mathlib.Data.List.Nodup

/-!
# What a store of executions does

`LawfulExecutions` fixes what the runner relies on, in terms of `get` alone:

* a record that is created under a free id, written to or appended to is read back with that change,
  and no other record notices (`Revises`);
* a store may keep a moment in a form of its own (`kept`); everything else it keeps as it is;
* the scheduled executions are listed once each.

`Sound` is what every store keeps that grows from an empty one by these operations. Records in memory
and tables of text columns are both lawful; the first keep every moment as it is, the second in the
form in which its column reads back. `KeepsMoments` says which moments a store keeps as they are: the
first keep all of them, the second those with an offset.
-/

namespace Dripline

/-! ## 1. The laws -/

/-- The field with its moment in the form that a store keeps. -/
def Field.keep (kept : Moment → Moment) : Field → Field
  | .scheduledFor m => .scheduledFor (m.map kept)
  | .completedAt m => .completedAt (m.map kept)
  | f => f

/-- The entry with its time in the form that a store keeps. -/
def LogEntry.keep (kept : Moment → Moment) (e : LogEntry) : LogEntry :=
  { e with timestamp := kept e.timestamp }

/-- The record with fields written, as a store keeps them. -/
def Execution.written (e : Execution) (kept : Moment → Moment) (fields : List Field) : Execution :=
  (fields.map (Field.keep kept)).foldl MemoryExecutions.write e

/-- The record with one more entry in its log, as a store keeps it. -/
def Execution.noted (e : Execution) (kept : Moment → Moment) (entry : LogEntry) : Execution :=
  { e with log := e.log ++ [entry.keep kept] }

/-- The record that is created under an id at a moment, as a store keeps it. -/
def Execution.created (e : Execution) (kept : Moment → Moment) (id : String) (now : Moment) :
    Execution :=
  { e with
    id := id
    log := e.log.map (LogEntry.keep kept)
    scheduledFor := e.scheduledFor.map kept
    completedAt := e.completedAt.map kept
    createdAt := some (kept (e.createdAt.getD now)) }

/-- **A store whose records can be relied on.** -/
class LawfulExecutions (ε : Type) [ExecutionStorage ε] where
  /-- The form in which a moment is read back. -/
  kept : Moment → Moment
  /-- What the operations keep. -/
  Sound : ε → Prop
  /-- The store without records. -/
  blank : ε
  sound_blank : Sound blank
  get_blank (id : String) : ExecutionStorage.get blank id = none
  id_of_get {s : ε} {id : String} {e : Execution} :
    Sound s → ExecutionStorage.get s id = some e → e.id = id
  create_free {s : ε} {ids : Ids} {e : Execution} (now : Moment) : Sound s →
    ExecutionStorage.get s (ids.orNext e.id).1 = none →
    ∃ s', ExecutionStorage.create s e now ids =
        ⟨.ok (e.created kept (ids.orNext e.id).1 now), s', (ids.orNext e.id).2⟩ ∧
      Sound s' ∧
      ExecutionStorage.get s' (ids.orNext e.id).1 =
        some (e.created kept (ids.orNext e.id).1 now) ∧
      ∀ id, id ≠ (ids.orNext e.id).1 → ExecutionStorage.get s' id = ExecutionStorage.get s id
  update_found {s : ε} {id : String} {e : Execution} {fields : List Field} : Sound s →
    ExecutionStorage.get s id = some e → checkFields fields = .ok () →
    ∃ s', ExecutionStorage.update s id fields = (.ok (e.written kept fields), s') ∧
      Sound s' ∧ ExecutionStorage.get s' id = some (e.written kept fields) ∧
      ∀ id', id' ≠ id → ExecutionStorage.get s' id' = ExecutionStorage.get s id'
  append_found {s : ε} {id : String} {e : Execution} (entry : LogEntry) : Sound s →
    ExecutionStorage.get s id = some e →
    ∃ s', ExecutionStorage.appendLog s id entry = (.ok (), s') ∧
      Sound s' ∧ ExecutionStorage.get s' id = some (e.noted kept entry) ∧
      ∀ id', id' ≠ id → ExecutionStorage.get s' id' = ExecutionStorage.get s id'
  mem_listScheduled {s : ε} (e : Execution) : Sound s →
    (e ∈ ExecutionStorage.listScheduled s ↔
      ExecutionStorage.get s e.id = some e ∧ e.isSuspended = true)
  nodup_listScheduled {s : ε} : Sound s →
    ((ExecutionStorage.listScheduled s).map Execution.id).Nodup

/-- A later store: under one id stands a given record, under every other what stood there before. -/
structure Revises {ε : Type} [ExecutionStorage ε] [LawfulExecutions ε] (s s' : ε) (id : String)
    (e : Execution) : Prop where
  sound : LawfulExecutions.Sound s'
  own : ExecutionStorage.get s' id = some e
  others : ∀ id', id' ≠ id → ExecutionStorage.get s' id' = ExecutionStorage.get s id'

section

variable {ε : Type} [ExecutionStorage ε] [LawfulExecutions ε] {s : ε} {id : String} {e : Execution}

theorem Revises.same (hs : LawfulExecutions.Sound s) (he : ExecutionStorage.get s id = some e) :
    Revises s s id e := ⟨hs, he, fun _ _ => rfl⟩

/-- Fields are written to the record under an id, and to no other. -/
theorem revises_update (hs : LawfulExecutions.Sound s) (he : ExecutionStorage.get s id = some e)
    {fields : List Field} (hfields : checkFields fields = .ok ()) :
    ∃ s', ExecutionStorage.update s id fields =
        (.ok (e.written (LawfulExecutions.kept ε) fields), s') ∧
      Revises s s' id (e.written (LawfulExecutions.kept ε) fields) := by
  obtain ⟨s', hs', hsound, hown, hothers⟩ := LawfulExecutions.update_found hs he hfields
  exact ⟨s', hs', hsound, hown, hothers⟩

/-- An entry is appended to the log of the record under an id, and to no other. -/
theorem revises_append (hs : LawfulExecutions.Sound s) (he : ExecutionStorage.get s id = some e)
    (entry : LogEntry) :
    ∃ s', ExecutionStorage.appendLog s id entry = (.ok (), s') ∧
      Revises s s' id (e.noted (LawfulExecutions.kept ε) entry) := by
  obtain ⟨s', hs', hsound, hown, hothers⟩ := LawfulExecutions.append_found entry hs he
  exact ⟨s', hs', hsound, hown, hothers⟩

end

theorem written_id (e : Execution) (kept : Moment → Moment) (fields : List Field) :
    (e.written kept fields).id = e.id := by
  unfold Execution.written
  induction fields generalizing e with
  | nil => rfl
  | cons f fields ih =>
    rw [List.map_cons, List.foldl_cons, ih]
    cases f <;> rfl

/-! ## 2. Keys of a table -/

namespace Keyed

universe u

variable {α : Type u}

theorem mem_of_lookup {k : String} {a : α} :
    ∀ {es : List (String × α)}, lookup k es = some a → (k, a) ∈ es
  | [], h => by cases h
  | (q, b) :: es, h => by
    unfold lookup at h
    by_cases hq : q = k
    · rw [if_pos hq] at h
      cases h
      exact hq ▸ List.mem_cons_self
    · rw [if_neg hq] at h
      exact List.mem_cons_of_mem _ (mem_of_lookup h)

theorem lookup_of_mem {k : String} {a : α} :
    ∀ {es : List (String × α)}, (es.map Prod.fst).Nodup → (k, a) ∈ es → lookup k es = some a
  | [], _, h => absurd h List.not_mem_nil
  | (q, b) :: es, hnd, h => by
    rw [List.map_cons, List.nodup_cons] at hnd
    unfold lookup
    rcases List.mem_cons.mp h with e | h
    · cases e
      exact if_pos rfl
    · have hq : q ≠ k := fun e => hnd.1 (List.mem_map.mpr ⟨_, h, e.symm⟩)
      rw [if_neg hq]
      exact lookup_of_mem hnd.2 h

theorem not_mem_keys_of_lookup {k : String} :
    ∀ {es : List (String × α)}, lookup k es = none → k ∉ es.map Prod.fst
  | [], _ => List.not_mem_nil
  | (q, b) :: es, h => by
    unfold lookup at h
    by_cases hq : q = k
    · rw [if_pos hq] at h
      cases h
    · rw [if_neg hq] at h
      rw [List.map_cons, List.mem_cons, not_or]
      exact ⟨Ne.symm hq, not_mem_keys_of_lookup h⟩

theorem mem_keys_putEntry (k k' : String) (a : α) (es : List (String × α)) :
    k' ∈ (putEntry k a es).map Prod.fst ↔ k' = k ∨ k' ∈ es.map Prod.fst := by
  induction es with
  | nil => simp [putEntry]
  | cons e es ih =>
    obtain ⟨q, b⟩ := e
    unfold putEntry
    by_cases hq : q = k
    · rw [if_pos hq]
      simp [hq]
    · rw [if_neg hq, List.map_cons, List.mem_cons, ih, List.map_cons, List.mem_cons]
      exact or_left_comm

theorem nodup_keys_putEntry (k : String) (a : α) {es : List (String × α)}
    (h : (es.map Prod.fst).Nodup) : ((putEntry k a es).map Prod.fst).Nodup := by
  induction es with
  | nil => simp [putEntry]
  | cons e es ih =>
    obtain ⟨q, b⟩ := e
    rw [List.map_cons, List.nodup_cons] at h
    unfold putEntry
    by_cases hq : q = k
    · rw [if_pos hq, List.map_cons, List.nodup_cons]
      exact ⟨hq ▸ h.1, h.2⟩
    · rw [if_neg hq, List.map_cons, List.nodup_cons, mem_keys_putEntry, not_or]
      exact ⟨⟨hq, h.1⟩, ih h.2⟩

theorem putEntry_of_new {k : String} (a : α) {es : List (String × α)} (h : k ∉ es.map Prod.fst) :
    putEntry k a es = es ++ [(k, a)] := by
  induction es with
  | nil => rfl
  | cons e es ih =>
    obtain ⟨q, b⟩ := e
    rw [List.map_cons, List.mem_cons, not_or] at h
    unfold putEntry
    rw [if_neg (Ne.symm h.1), ih h.2, List.cons_append]

theorem putEntry_of_mem {k : String} (a : α) {es : List (String × α)} (hnd : (es.map Prod.fst).Nodup)
    (h : k ∈ es.map Prod.fst) : putEntry k a es = es.map fun e => if e.1 = k then (k, a) else e := by
  induction es with
  | nil => cases h
  | cons e es ih =>
    obtain ⟨q, b⟩ := e
    rw [List.map_cons, List.nodup_cons] at hnd
    unfold putEntry
    by_cases hq : q = k
    · have hrest : es.map (fun e => if e.1 = k then (k, a) else e) = es := by
        refine (List.map_congr_left fun e he => if_neg fun hk => ?_).trans (List.map_id' es)
        exact hnd.1 (List.mem_map.mpr ⟨e, he, hk.trans hq.symm⟩)
      rw [if_pos hq, List.map_cons, if_pos hq, hrest]
    · rw [if_neg hq, List.map_cons, if_neg hq, ih hnd.2]
      exact (List.mem_cons.mp h).resolve_left (Ne.symm hq)

/-- Values come in the order of their keys. -/
theorem filterMap_lookup {es : List (String × α)} (h : (es.map Prod.fst).Nodup) :
    (es.map Prod.fst).filterMap (fun k => lookup k es) = es.map Prod.snd := by
  rw [List.filterMap_map, ← List.filterMap_eq_map]
  exact List.filterMap_congr fun e he => lookup_of_mem h he

end Keyed

/-! ## 3. Records in memory -/

namespace MemoryExecutions

/-- Every record stands once, under its own id. -/
structure IsSound (s : MemoryExecutions) : Prop where
  distinct : (s.items.entries.map Prod.fst).Nodup
  own : ∀ id e, s.items.get? id = some e → e.id = id

theorem isSound_empty : empty.IsSound := ⟨List.nodup_nil, fun _ _ h => nomatch h⟩

theorem isSound_put {s : MemoryExecutions} (h : s.IsSound) {e : Execution} {id : String}
    (he : e.id = id) : IsSound ⟨s.items.put id e⟩ where
  distinct := Keyed.nodup_keys_putEntry id e h.distinct
  own := fun id' e' hget => by
    rw [Keyed.get?_put] at hget
    by_cases hid : id = id'
    · rw [if_pos hid] at hget
      cases hget
      exact he.trans hid
    · rw [if_neg hid] at hget
      exact h.own id' e' hget

theorem keep_id (f : Field) : f.keep id = f := by
  cases f with
  | scheduledFor m => cases m <;> rfl
  | completedAt m => cases m <;> rfl
  | _ => rfl

theorem written_kept_id (e : Execution) (fields : List Field) :
    e.written id fields = fields.foldl write e := by
  unfold Execution.written
  rw [List.map_id'' keep_id]

theorem created_kept_id (e : Execution) (key : String) (now : Moment) :
    e.created id key now = { e with id := key, createdAt := some (e.createdAt.getD now) } := by
  unfold Execution.created
  rw [Option.map_id_fun, List.map_id'' (f := LogEntry.keep id) fun _ => rfl]
  rfl

theorem mem_values_iff {s : MemoryExecutions} (h : s.IsSound) (e : Execution) :
    e ∈ s.items.values ↔ s.items.get? e.id = some e := by
  unfold Keyed.values Keyed.get?
  rw [List.mem_map]
  constructor
  · rintro ⟨⟨k, e'⟩, hmem, rfl⟩
    have hget := Keyed.lookup_of_mem h.distinct hmem
    rw [h.own k e' hget]
    exact hget
  · intro hget
    exact ⟨_, Keyed.mem_of_lookup hget, rfl⟩

theorem nodup_ids_values {s : MemoryExecutions} (h : s.IsSound) :
    (s.items.values.map Execution.id).Nodup := by
  have hids : s.items.values.map Execution.id = s.items.entries.map Prod.fst := by
    unfold Keyed.values
    rw [List.map_map]
    exact List.map_congr_left fun e he => h.own e.1 e.2 (Keyed.lookup_of_mem h.distinct he)
  rw [hids]
  exact h.distinct

instance : LawfulExecutions MemoryExecutions where
  kept := id
  Sound := IsSound
  blank := empty
  sound_blank := isSound_empty
  get_blank _ := rfl
  id_of_get h hget := h.own _ _ hget
  create_free {s ids e} now h _ := by
    refine ⟨⟨s.items.put (ids.orNext e.id).1 (e.created id (ids.orNext e.id).1 now)⟩, ?_,
      isSound_put h rfl, ?_, fun id' hne => ?_⟩
    · rw [created_kept_id]
      rfl
    · exact (Keyed.get?_put _ _ _ _).trans (if_pos rfl)
    · exact (Keyed.get?_put _ _ _ _).trans (if_neg hne.symm)
  update_found {s key e fields} h hget hfields := by
    refine ⟨⟨s.items.put key (e.written id fields)⟩, ?_,
      isSound_put h ((written_id e id fields).trans (h.own _ _ hget)), ?_, fun id' hne => ?_⟩
    · show update s key fields = _
      have hget' : s.items.get? key = some e := hget
      unfold update
      rw [hfields, hget', written_kept_id]
    · exact (Keyed.get?_put _ _ _ _).trans (if_pos rfl)
    · exact (Keyed.get?_put _ _ _ _).trans (if_neg hne.symm)
  append_found {s key e} entry h hget := by
    have hkey : (e.noted id entry).id = key := h.own key e hget
    refine ⟨⟨s.items.put key (e.noted id entry)⟩, ?_, isSound_put h hkey, ?_, fun id' hne => ?_⟩
    · show appendLog s key entry = _
      have hget' : s.items.get? key = some e := hget
      unfold appendLog
      rw [hget']
      rfl
    · exact (Keyed.get?_put _ _ _ _).trans (if_pos rfl)
    · exact (Keyed.get?_put _ _ _ _).trans (if_neg hne.symm)
  mem_listScheduled {s} e h := by
    show e ∈ s.items.values.filter Execution.isSuspended ↔ _
    rw [List.mem_filter, mem_values_iff h]
    rfl
  nodup_listScheduled {s} h := by
    show ((s.items.values.filter Execution.isSuspended).map Execution.id).Nodup
    exact (nodup_ids_values h).sublist (List.Sublist.map _ List.filter_sublist)

end MemoryExecutions

/-! ## 4. Tables of text columns -/

namespace ExecutionTable

/-- Ids stand in one row only, and log entries belong to rows. -/
structure IsSound (t : ExecutionTable) : Prop where
  distinct : (t.rows.map ExecutionRow.id).Nodup
  owned : ∀ l ∈ t.logRows, l.executionId ∈ t.rows.map ExecutionRow.id

/-- A moment after it was a column. -/
def columnKept (m : Moment) : Moment := columnMoment (momentColumn m)

theorem columnMoment_comp : columnMoment ∘ momentColumn = columnKept := by
  funext m
  rw [Function.comp_apply, columnKept]

theorem entryOf_comp (id : String) : entryOf ∘ logRow id = LogEntry.keep columnKept := rfl

theorem isSound_empty : empty.IsSound := ⟨List.nodup_nil, fun _ h => absurd h List.not_mem_nil⟩

theorem any_iff_mem_ids (rows : List ExecutionRow) (id : String) :
    (rows.any fun r => r.id == id) = true ↔ id ∈ rows.map ExecutionRow.id := by
  rw [List.any_eq_true, List.mem_map]
  simp

theorem get_eq_none_iff (t : ExecutionTable) (id : String) :
    t.get id = none ↔ id ∉ t.rows.map ExecutionRow.id := by
  unfold get
  rw [Option.map_eq_none_iff, List.find?_eq_none, List.mem_map]
  simp

/-- What is read under an id comes from its row. -/
theorem get_eq_some_iff (t : ExecutionTable) (id : String) (e : Execution) :
    t.get id = some e ↔ ∃ r, t.rows.find? (fun r => r.id == id) = some r ∧ t.executionOf r = e := by
  unfold get
  rw [Option.map_eq_some_iff]

theorem id_of_find? {rows : List ExecutionRow} {id : String} {r : ExecutionRow}
    (h : rows.find? (fun r => r.id == id) = some r) : r.id = id := by
  have := List.find?_some h
  simpa using this

theorem write_id (r : ExecutionRow) (fields : List Field) : (fields.foldl write r).id = r.id := by
  induction fields generalizing r with
  | nil => rfl
  | cons f fields ih =>
    rw [List.foldl_cons, ih]
    cases f <;> rfl

theorem revised_id (id : String) (fields : List Field) (r : ExecutionRow) :
    (if r.id = id then fields.foldl write r else r).id = r.id := by
  by_cases h : r.id = id
  · rw [if_pos h, write_id]
  · rw [if_neg h]

/-- Columns that are written read back as fields that are written. -/
theorem executionOf_write (t : ExecutionTable) (r : ExecutionRow) (fields : List Field) :
    t.executionOf (fields.foldl write r) = (t.executionOf r).written columnKept fields := by
  unfold Execution.written
  induction fields generalizing r with
  | nil => rfl
  | cons f fields ih =>
    rw [List.foldl_cons, ih, List.map_cons, List.foldl_cons]
    congr 1
    cases f with
    | scheduledFor m => cases m <;> rfl
    | completedAt m => cases m <;> rfl
    | _ => rfl

theorem find?_revised (rows : List ExecutionRow) (id id' : String) (fields : List Field) :
    (rows.map fun r => if r.id = id then fields.foldl write r else r).find? (fun r => r.id == id') =
      (rows.find? fun r => r.id == id').map
        fun r => if r.id = id then fields.foldl write r else r := by
  rw [List.find?_map]
  congr 1
  refine congrArg (fun p => rows.find? p) (funext fun r => ?_)
  show (_ == id') = _
  rw [revised_id]

theorem isSound_update {t : ExecutionTable} (h : t.IsSound) (id : String) (fields : List Field) :
    IsSound { t with rows := t.rows.map fun r => if r.id = id then fields.foldl write r else r } := by
  have hids : (t.rows.map fun r => if r.id = id then fields.foldl write r else r).map
      ExecutionRow.id = t.rows.map ExecutionRow.id := by
    rw [List.map_map]
    exact List.map_congr_left fun r _ => revised_id id fields r
  exact ⟨hids ▸ h.distinct, fun l hl => hids ▸ h.owned l hl⟩

theorem update_eq {t : ExecutionTable} {id : String} {e : Execution} {fields : List Field}
    (hget : t.get id = some e) (hfields : checkFields fields = .ok ()) :
    let t' := { t with rows := t.rows.map fun r => if r.id = id then fields.foldl write r else r }
    t.update id fields = (.ok (e.written columnKept fields), t') ∧
      t'.get id = some (e.written columnKept fields) ∧
      ∀ id', id' ≠ id → t'.get id' = t.get id' := by
  intro t'
  obtain ⟨r, hr, hre⟩ := (get_eq_some_iff t id e).mp hget
  have hown : t'.get id = some (e.written columnKept fields) := by
    refine (get_eq_some_iff t' id _).mpr ⟨fields.foldl write r, ?_, ?_⟩
    · rw [find?_revised, hr, Option.map_some, if_pos (id_of_find? hr)]
    · rw [← hre]
      exact executionOf_write t r fields
  refine ⟨?_, hown, fun id' hne => ?_⟩
  · unfold update
    rw [hfields]
    dsimp only
    rw [hown]
  · unfold get
    rw [find?_revised, Option.map_map]
    cases hf : t.rows.find? (fun r => r.id == id') with
    | none => rfl
    | some r' =>
      have hr' : r'.id ≠ id := fun e => hne ((id_of_find? hf).symm.trans e)
      show some (t'.executionOf (if r'.id = id then fields.foldl write r' else r')) = _
      rw [if_neg hr']
      rfl

/-- Without a row under an id no column is written. -/
theorem update_of_missing {t : ExecutionTable} {id : String} {fields : List Field} (hget : t.get id = none)
    (hfields : checkFields fields = .ok ()) : t.update id fields = (.error (.noExecution id), t) := by
  have hrows : (t.rows.map fun r => if r.id = id then fields.foldl write r else r) = t.rows := by
    refine (List.map_congr_left fun r hr => if_neg fun hid => ?_).trans (List.map_id' t.rows)
    exact (get_eq_none_iff t id).mp hget (List.mem_map.mpr ⟨r, hr, hid⟩)
  unfold update
  rw [hfields]
  dsimp only
  rw [hrows, hget]

theorem append_eq {t : ExecutionTable} (h : t.IsSound) {id : String} {e : Execution}
    (entry : LogEntry) (hget : t.get id = some e) :
    let t' : ExecutionTable := { t with logRows := t.logRows ++ [logRow id entry] }
    t.appendLog id entry = (.ok (), t') ∧ t'.IsSound ∧
      t'.get id = some (e.noted columnKept entry) ∧ ∀ id', id' ≠ id → t'.get id' = t.get id' := by
  intro t'
  obtain ⟨r, hr, hre⟩ := (get_eq_some_iff t id e).mp hget
  have hmem : id ∈ t.rows.map ExecutionRow.id :=
    List.mem_map.mpr ⟨r, List.mem_of_find?_eq_some hr, id_of_find? hr⟩
  refine ⟨?_, ⟨h.distinct, fun l hl => ?_⟩, ?_, fun id' hne => ?_⟩
  · unfold appendLog
    rw [if_pos ((any_iff_mem_ids t.rows id).mpr hmem)]
  · rcases List.mem_append.mp hl with hl | hl
    · exact h.owned l hl
    · rw [List.mem_singleton.mp hl]
      exact hmem
  · refine (get_eq_some_iff t' id _).mpr ⟨r, hr, ?_⟩
    rw [← hre]
    simp only [executionOf, Execution.noted, t', List.filter_append, List.map_append]
    simp [logRow, id_of_find? hr, entryOf, LogEntry.keep, columnKept]
  · unfold get
    cases hf : t.rows.find? (fun r => r.id == id') with
    | none => simp [t']
    | some r' =>
      have hr' : id ≠ r'.id := fun e => hne (e.trans (id_of_find? hf)).symm
      simp [t', executionOf, List.filter_append, logRow, hr']

theorem create_eq {t : ExecutionTable} (h : t.IsSound) {ids ids' : Ids} {id : String}
    {e : Execution} (now : Moment) (hid : ids.orNext e.id = (id, ids')) (hfree : t.get id = none) :
    ∃ t', t.create e now ids = ⟨.ok (e.created columnKept id now), t', ids'⟩ ∧ t'.IsSound ∧
      t'.get id = some (e.created columnKept id now) ∧ ∀ id', id' ≠ id → t'.get id' = t.get id' := by
  have hnew : id ∉ t.rows.map ExecutionRow.id := (get_eq_none_iff t id).mp hfree
  let row : ExecutionRow :=
    ⟨id, e.automationId, e.subject, e.status.label, e.currentNode, e.scheduledFor.map momentColumn,
      e.completedAt.map momentColumn, momentColumn (e.createdAt.getD now)⟩
  let t' : ExecutionTable := ⟨t.rows ++ [row], t.logRows ++ e.log.map (logRow id)⟩
  -- no log entry is left over from an earlier record with this id
  have hlog : (t'.logRows.filter fun l => l.executionId = id) = e.log.map (logRow id) := by
    have hold : (t.logRows.filter fun l => l.executionId = id) = [] := by
      rw [List.filter_eq_nil_iff]
      intro l hl hid
      exact hnew (of_decide_eq_true hid ▸ h.owned l hl)
    have hadd : ((e.log.map (logRow id)).filter fun l => l.executionId = id) =
        e.log.map (logRow id) := by
      rw [List.filter_eq_self]
      intro l hl
      obtain ⟨entry, _, rfl⟩ := List.mem_map.mp hl
      exact decide_eq_true rfl
    rw [List.filter_append, hold, hadd, List.nil_append]
  have hrow : t'.executionOf row = e.created columnKept id now := by
    unfold executionOf Execution.created
    rw [hlog, List.map_map, entryOf_comp, Option.map_map, Option.map_map, columnMoment_comp]
    rfl
  refine ⟨t', ?_, ⟨?_, fun l hl => ?_⟩, ?_, fun id' hne => ?_⟩
  · unfold create
    rw [hid]
    dsimp only
    rw [if_neg (mt (any_iff_mem_ids t.rows id).mp hnew), ← hrow]
  · rw [List.map_append, List.nodup_append]
    refine ⟨h.distinct, List.nodup_singleton _, fun a ha b hb e => ?_⟩
    rw [List.map_singleton, List.mem_singleton] at hb
    rw [e, hb] at ha
    exact hnew ha
  · rw [List.map_append, List.mem_append]
    rcases List.mem_append.mp hl with hl | hl
    · exact Or.inl (h.owned l hl)
    · obtain ⟨entry, _, rfl⟩ := List.mem_map.mp hl
      exact Or.inr (List.mem_singleton.mpr rfl)
  · refine (get_eq_some_iff t' id _).mpr ⟨row, ?_, hrow⟩
    rw [List.find?_append, List.find?_eq_none.mpr, Option.none_or]
    · simp [row]
    · intro r hr hid
      exact hnew (List.mem_map.mpr ⟨r, hr, by simpa using hid⟩)
  · unfold get
    rw [List.find?_append]
    cases hf : t.rows.find? (fun r => r.id == id') with
    | none => simp [row, hne.symm]
    | some r' =>
      have hr' : id ≠ r'.id := fun e => hne (e.trans (id_of_find? hf)).symm
      simp [t', executionOf, List.filter_append, logRow, hr']

theorem mem_rows_map_iff {t : ExecutionTable} (h : t.IsSound) (e : Execution) :
    e ∈ t.rows.map t.executionOf ↔ t.get e.id = some e := by
  rw [List.mem_map, get_eq_some_iff]
  constructor
  · rintro ⟨r, hr, rfl⟩
    refine ⟨r, ?_, rfl⟩
    cases hf : t.rows.find? (fun r' => r'.id == (t.executionOf r).id) with
    | none =>
      have hne := List.find?_eq_none.mp hf r hr
      exact absurd (beq_self_eq_true r.id) hne
    | some r' =>
      have hid : r'.id = r.id := id_of_find? hf
      rw [List.inj_on_of_nodup_map h.distinct (List.mem_of_find?_eq_some hf) hr hid]
  · rintro ⟨r, hr, hre⟩
    exact ⟨r, List.mem_of_find?_eq_some hr, hre⟩

theorem listScheduled_perm (t : ExecutionTable) :
    t.listScheduled.Perm ((t.rows.map t.executionOf).filter Execution.isSuspended) := by
  unfold listScheduled byScheduledTime
  rw [List.filter_map]
  refine ((List.mergeSort_perm _ _).map _).trans (List.Perm.of_eq ?_)
  congr 2
  funext r
  have hstatus : (r.status == Status.pending.label) = decide ((⟨r.status⟩ : Status) = .pending) := by
    simp [Status.pending, beq_eq_decide]
  cases hs : r.scheduledFor <;> simp [executionOf, Execution.isSuspended, hs, hstatus]

instance : LawfulExecutions ExecutionTable where
  kept := columnKept
  Sound := IsSound
  blank := empty
  sound_blank := isSound_empty
  get_blank _ := rfl
  id_of_get {t id e} _ hget := by
    obtain ⟨r, hr, rfl⟩ := (get_eq_some_iff t id e).mp hget
    exact id_of_find? hr
  create_free now h hfree := create_eq h now rfl hfree
  update_found {t id e fields} h hget hfields :=
    have ⟨hupdate, hown, hother⟩ := update_eq hget hfields
    ⟨_, hupdate, isSound_update h id fields, hown, hother⟩
  append_found entry h hget := ⟨_, append_eq h entry hget⟩
  mem_listScheduled {t} e h := by
    show e ∈ t.listScheduled ↔ _
    rw [(listScheduled_perm t).mem_iff, List.mem_filter, mem_rows_map_iff h]
    rfl
  nodup_listScheduled {t} h := by
    have hids : ((t.rows.map t.executionOf).map Execution.id).Nodup := by
      rw [List.map_map]
      exact h.distinct
    exact ((listScheduled_perm t).map _).nodup_iff.mpr
      (hids.sublist (List.Sublist.map _ List.filter_sublist))

end ExecutionTable

/-! ## 5. Moments that are kept as they are -/

/-- A store that keeps the moments of a kind as they are, those with an offset or those without. -/
class KeepsMoments (ε : Type) [ExecutionStorage ε] [LawfulExecutions ε] (anchored : Bool) : Prop where
  kept_eq (m : Moment) : m.isAnchored = anchored → LawfulExecutions.kept ε m = m

instance (anchored : Bool) : KeepsMoments MemoryExecutions anchored where
  kept_eq _ _ := rfl

theorem Moment.isAnchored_of_offset {m : Moment} {zone : Offset} (h : m.offset = some zone) :
    m.isAnchored = true := by
  unfold Moment.isAnchored
  rw [h]
  rfl

/-- **A moment with an offset** is read back from its column. -/
theorem ExecutionTable.columnKept_of_anchored {m : Moment} (h : m.isAnchored = true) :
    columnKept m = m := by
  unfold columnKept columnMoment momentColumn
  rw [Moment.ofText?_render, Option.getD_some]
  unfold Moment.isAnchored at h
  unfold Moment.assumeUtc
  split
  · rename_i hnone
    rw [hnone] at h
    cases h
  · rfl

instance : KeepsMoments ExecutionTable true where
  kept_eq _ := ExecutionTable.columnKept_of_anchored

end Dripline
