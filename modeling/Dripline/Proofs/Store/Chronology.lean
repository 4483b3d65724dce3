import Dripline.Proofs.Store.Executions
import Dripline.Proofs.Time.Order
import Mathlib.Data.List.Permutation

/-!
# Tables in the order of time

A table orders its rows by the text of a column. A text has a fraction only where the reading has one, so
that the texts of a column have two lengths; where all of them are in universal time they are still ordered
as the moments are, since the sign of the offset comes before the point of a fraction:

* `momentColumn_lt_iff`: of two moments the earlier one has the lesser text;
* `length_momentColumn`: the two lengths;
* `areByTime_descending`: rows that are sorted by a column stand from its latest moment to its earliest;
* `AutomationTable.isUtc_create`, `isUtc_update`, `isUtc_delete`, `ExecutionTable.isUtc_create`,
  `isUtc_update`, `isUtc_appendLog`: a table that is written in universal time has such a column;
* **`columns_sort_by_time`**: the order of the texts, the moment that is read back, and what the two tables
  list.
-/

namespace Dripline

/-! ## 1. Texts of moments -/

/-- A moment in universal time. -/
def Moment.IsUtc (m : Moment) : Prop := m.offset = some .utc

instance : DecidablePred Moment.IsUtc := fun m => inferInstanceAs (Decidable (m.offset = some .utc))

/-- **Of two moments in universal time the earlier one has the lesser text.** -/
theorem momentColumn_lt_iff {a b : Moment} (ha : a.IsUtc) (hb : b.IsUtc) :
    momentColumn a < momentColumn b ↔ a.before b = .ok true := by
  have htext : momentColumn a < momentColumn b ↔ a.ticks < b.ticks :=
    Moment.render_lt_render_iff (ha.trans hb.symm)
  rw [htext, Moment.before_of_zone ha hb, Except.ok.injEq, decide_eq_true_iff]

/-- **A fraction is written only where there is one**, in six digits behind a point. -/
theorem length_momentColumn {m : Moment} (h : m.IsUtc) :
    (momentColumn m).length = if m.ticks % secondMicros = 0 then 25 else 32 := by
  have hdate : (Moment.dateChars m.ticks).length = 10 := by
    simp [Moment.dateChars, Text.length_fixedDigits]
  have htime : (Moment.timeChars m.ticks).length = if m.ticks % secondMicros = 0 then 8 else 15 := by
    unfold Moment.timeChars
    by_cases hfraction : m.ticks % secondMicros = 0
    · simp [hfraction, Text.length_fixedDigits]
    · simp [hfraction, Text.length_fixedDigits]
  have hoffset : (m.offset.map Moment.offsetChars).getD [] = "+00:00".toList := by
    rw [h]
    decide
  unfold momentColumn Moment.render Moment.chars
  rw [String.length_ofList, hoffset]
  simp only [List.length_append, List.length_cons, hdate, htime]
  split <;> rfl

/-- A whole second has the shorter text, and it comes before its fractions. -/
example : momentColumn Moment.first = "0001-01-01T00:00:00+00:00" ∧
    momentColumn (Moment.first.addMicros 1) = "0001-01-01T00:00:00.000001+00:00" := by decide

/-- **A moment in universal time is read back from its text.** -/
theorem columnMoment_momentColumn {m : Moment} (h : m.IsUtc) : columnMoment (momentColumn m) = m :=
  ExecutionTable.columnKept_of_anchored (Moment.isAnchored_of_offset h)

/-! ## 2. Rows -/

/-- A column that holds a moment in universal time. -/
def IsUtcColumn (text : String) : Prop := ∃ m : Moment, m.IsUtc ∧ text = momentColumn m

/-- The same rows, none of which holds an earlier moment than one that follows it. -/
structure AreByTime {β : Type} (column : β → String) (rows sorted : List β) : Prop where
  same : sorted.Perm rows
  latestFirst : sorted.Pairwise fun r s =>
    (columnMoment (column r)).before (columnMoment (column s)) = .ok false

section

variable {β : Type} {column : β → String} {rows : List β}

theorem pairwise_descending (column : β → String) (rows : List β) :
    (descending column rows).Pairwise fun r s => ¬ column r < column s := by
  have hsorted := @List.pairwise_mergeSort _ (fun r s : β => !decide (column r < column s))
    (fun r s t hrs hst => by
      simp only [Bool.not_eq_true', decide_eq_false_iff_not, String.not_lt] at hrs hst ⊢
      exact String.le_trans hst hrs)
    (fun r s => by
      simp only [Bool.or_eq_true, Bool.not_eq_true', decide_eq_false_iff_not, String.not_lt]
      exact String.le_total (column s) (column r)) rows
  exact hsorted.imp fun h => by simpa using h

/-- **Rows that are sorted by the text of a column are sorted by its moments.** -/
theorem areByTime_descending (h : ∀ r ∈ rows, IsUtcColumn (column r)) :
    AreByTime column rows (descending column rows) := by
  have hsame : (descending column rows).Perm rows := List.mergeSort_perm rows _
  refine ⟨hsame, (pairwise_descending column rows).imp_of_mem fun {r s} hr hs hnot => ?_⟩
  obtain ⟨m, hm, hrow⟩ := h r (hsame.mem_iff.mp hr)
  obtain ⟨n, hn, hrow'⟩ := h s (hsame.mem_iff.mp hs)
  rw [hrow, hrow', momentColumn_lt_iff hm hn, Moment.before_of_zone hm hn] at hnot
  rw [hrow, hrow', columnMoment_momentColumn hm, columnMoment_momentColumn hn, Moment.before_of_zone hm hn]
  simpa using hnot

end

/-! ## 3. What the tables write -/

namespace AutomationTable

/-- A table whose rows were last written in universal time. -/
def IsUtc (t : AutomationTable) : Prop := ∀ r ∈ t.rows, IsUtcColumn r.updatedAt

variable {t : AutomationTable} {now : Moment}

theorem isUtc_empty : empty.IsUtc := List.forall_mem_nil _

theorem isUtc_create (h : t.IsUtc) (hnow : now.IsUtc) (a : Automation) (ids : Ids) :
    (t.create a now ids).store.IsUtc := by
  unfold create
  dsimp only
  split
  · exact h
  · exact List.forall_mem_append.mpr ⟨h, List.forall_mem_singleton.mpr ⟨now, hnow, rfl⟩⟩

theorem isUtc_update (h : t.IsUtc) (hnow : now.IsUtc) (a : Automation) : (t.update a now).2.IsUtc := by
  have hrevised : IsUtc ⟨t.rows.map fun r => if r.id = a.id then revisedRow a now r else r⟩ := by
    intro r hr
    obtain ⟨old, hold, rfl⟩ := List.mem_map.mp hr
    split
    · exact ⟨now, hnow, rfl⟩
    · exact h old hold
  unfold update
  split
  · exact h
  · split
    · exact h
    · dsimp only
      -- the row that is read back has no say in what was written
      split <;> exact hrevised

theorem isUtc_delete (h : t.IsUtc) (id : String) : (AutomationStorage.delete t id).2.IsUtc :=
  fun r hr => h r (List.mem_of_mem_filter hr)

end AutomationTable

namespace ExecutionTable

/-- A table whose executions were created in universal time. -/
def IsUtc (t : ExecutionTable) : Prop := ∀ r ∈ t.rows, IsUtcColumn r.createdAt

variable {t : ExecutionTable} {now : Moment}

theorem isUtc_empty : empty.IsUtc := List.forall_mem_nil _

theorem isUtc_create (h : t.IsUtc) {e : Execution} (he : (e.createdAt.getD now).IsUtc) (ids : Ids) :
    (t.create e now ids).store.IsUtc := by
  unfold create
  dsimp only
  split
  · exact h
  · exact List.forall_mem_append.mpr ⟨h, List.forall_mem_singleton.mpr ⟨_, he, rfl⟩⟩

theorem isUtc_update (h : t.IsUtc) (id : String) (fields : List Field) : (t.update id fields).2.IsUtc := by
  have hwritten : IsUtc { t with rows := t.rows.map fun r => if r.id = id then fields.foldl write r else r } := by
    intro r hr
    obtain ⟨old, hold, rfl⟩ := List.mem_map.mp hr
    split
    · rw [write_createdAt]
      exact h old hold
    · exact h old hold
  unfold update
  split
  · exact h
  · dsimp only
    split <;> exact hwritten

theorem isUtc_appendLog (h : t.IsUtc) (id : String) (entry : LogEntry) : (t.appendLog id entry).2.IsUtc := by
  unfold appendLog
  split <;> exact h

end ExecutionTable

/-! ## 4. What the tables list -/

/-- **The texts of a column are ordered as its moments are**, although they have two lengths: the lesser
    text is the earlier moment, each moment is read back from its text, and the tables list what was updated
    or created last first. -/
theorem columns_sort_by_time {a b : Moment} (ha : a.IsUtc) (hb : b.IsUtc) {t : AutomationTable}
    (ht : t.IsUtc) {e : ExecutionTable} (he : e.IsUtc) :
    (momentColumn a < momentColumn b ↔ a.before b = .ok true) ∧
      columnMoment (momentColumn a) = a ∧
      (momentColumn a).length = (if a.ticks % secondMicros = 0 then 25 else 32) ∧
      (∃ rows, AreByTime AutomationRow.updatedAt t.rows rows ∧
        AutomationStorage.list t = AutomationTable.automationsOf rows) ∧
      ∃ rows, AreByTime ExecutionRow.createdAt e.rows rows ∧
        ∀ limit, isColumnNumber limit = true → ExecutionStorage.listRecent e limit =
          .ok ((if limit < 0 then rows else rows.take limit.toNat).map e.executionOf) := by
  refine ⟨momentColumn_lt_iff ha hb, columnMoment_momentColumn ha, length_momentColumn ha, ?_, ?_⟩
  · exact ⟨_, areByTime_descending ht, rfl⟩
  · refine ⟨_, areByTime_descending he, fun limit hlimit => ?_⟩
    exact if_pos hlimit

/-- A note that has no nodes. -/
def blankNote (name : String) : Automation := ⟨"", name, ⟨[], []⟩, none, none⟩

/-- A run of a note. -/
def blankRun (subject : String) : Execution := ⟨"", "id-1", subject, .pending, none, [], none, none, none⟩

/-- The reading that follows the first one of the calendar. -/
def secondReading : Moment := Moment.first.addMicros 1

/-- Three notes, one of which is deleted; the second of the others is revised a reading later. -/
def twoNotes : AutomationTable :=
  let x := AutomationTable.empty.create (blankNote "x") Moment.first ⟨0⟩
  let y := x.store.create (blankNote "y") Moment.first x.ids
  let z := y.store.create (blankNote "z") Moment.first y.ids
  let kept := (AutomationStorage.delete z.store "id-3").2
  (kept.update { blankNote "y" with id := "id-2" } secondReading).2

/-- Two runs, created one reading after the other, the first of which has ended by then. -/
def twoRuns : ExecutionTable :=
  let ann := ExecutionTable.empty.create (blankRun "ann@example.org") Moment.first ⟨3⟩
  let bob := ann.store.create (blankRun "bob@example.org") secondReading ann.ids
  let noted := (bob.store.appendLog "id-4" ⟨"end", "end", secondReading, "success", none, none⟩).2
  (noted.update "id-4" [.status .completed, .completedAt (some secondReading)]).2

theorem isUtc_first : Moment.first.IsUtc := rfl

theorem isUtc_secondReading : secondReading.IsUtc := rfl

theorem isUtc_twoNotes : twoNotes.IsUtc := by
  have hx := AutomationTable.isUtc_create AutomationTable.isUtc_empty isUtc_first (blankNote "x") ⟨0⟩
  have hy := AutomationTable.isUtc_create hx isUtc_first (blankNote "y") ⟨1⟩
  have hz := AutomationTable.isUtc_create hy isUtc_first (blankNote "z") ⟨2⟩
  exact AutomationTable.isUtc_update (AutomationTable.isUtc_delete hz "id-3") isUtc_secondReading _

theorem isUtc_twoRuns : twoRuns.IsUtc := by
  have hann := ExecutionTable.isUtc_create ExecutionTable.isUtc_empty (e := blankRun "ann@example.org")
    isUtc_first ⟨3⟩
  have hbob := ExecutionTable.isUtc_create hann (e := blankRun "bob@example.org") isUtc_secondReading ⟨4⟩
  exact ExecutionTable.isUtc_update (ExecutionTable.isUtc_appendLog hbob "id-4" _) "id-4" _

/-- Of two rows the one of the later moment stands first. -/
theorem AreByTime.eq_pair {β : Type} {column : β → String} {r s : β} {sorted : List β}
    (h : AreByTime column [r, s] sorted)
    (hbefore : (columnMoment (column r)).before (columnMoment (column s)) = .ok true) : sorted = [s, r] := by
  rcases List.perm_pair.mp h.same with rfl | rfl
  · have hnot := List.rel_of_pairwise_cons h.latestFirst (List.mem_singleton_self s)
    cases hbefore.symm.trans hnot
  · rfl

/-- The tables of the two runs. -/
theorem twoRuns_eq : twoRuns =
    ⟨[⟨"id-4", "id-1", "ann@example.org", "completed", none, none, some (momentColumn secondReading),
        momentColumn .first⟩,
      ⟨"id-5", "id-1", "bob@example.org", "pending", none, none, none, momentColumn secondReading⟩],
      [⟨"id-4", "end", "end", momentColumn secondReading, "success", none, none⟩]⟩ := by
  decide +kernel

/-- The whole second is the lesser text, and the note that was revised last and the run that was created
    last are listed first. -/
theorem columns_sort_by_time_second :
    (Moment.first.IsUtc ∧ secondReading.IsUtc ∧ twoNotes.IsUtc ∧ twoRuns.IsUtc) ∧
      momentColumn Moment.first < momentColumn secondReading ∧
      columnMoment (momentColumn Moment.first) = Moment.first ∧
      (momentColumn Moment.first).length = 25 ∧
      AutomationStorage.list twoNotes =
        .ok [⟨"id-2", "y", ⟨[], []⟩, some .first, some secondReading⟩,
          ⟨"id-1", "x", ⟨[], []⟩, some .first, some .first⟩] ∧
      ExecutionStorage.listRecent twoRuns 1 =
        .ok [⟨"id-5", "id-1", "bob@example.org", .pending, none, [], none, none, some secondReading⟩] := by
  obtain ⟨hless, hread, hlength, ⟨notes, hnotes, hlist⟩, runs, hruns, hrecent⟩ :=
    columns_sort_by_time isUtc_first isUtc_secondReading isUtc_twoNotes isUtc_twoRuns
  refine ⟨⟨isUtc_first, isUtc_secondReading, isUtc_twoNotes, isUtc_twoRuns⟩, hless.mpr (by decide), hread,
    hlength, ?_, ?_⟩
  · rw [hlist, hnotes.eq_pair (by decide)]
    rfl
  · rw [twoRuns_eq] at hruns hrecent ⊢
    rw [hrecent 1 (by decide), hruns.eq_pair (by decide)]
    rfl

end Dripline
