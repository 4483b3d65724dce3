import Dripline.Run.Runner
import Dripline.Delivery.Outbox
import Dripline.Proofs.Store.Executions
import Dripline.Proofs.Time.Order

/-!
# Listing executions

A runner lists the records that were created last, the newest first. When they were created in universal
time, no two of them at one time:

* `AreLatest`: what the newest records are. There is one list of so many of them (`AreLatest.eq`);
* `areLatest_take`: the first records of all, sorted from the latest to the earliest, are the newest;
* `memory_list_of_pos`, `table_list_of_pos`: what a store lists for a positive limit;
* **`lists_latest`**: a runner lists as many as a positive limit says, whatever its store, unless a table
  refuses the limit; and what the other limits come to;
* `lists_past_limit`: zero and a negative limit list records.
-/

namespace Dripline

/-! ## 1. The newest records -/

/-- One record was created before another. -/
def Execution.IsCreatedBefore (a b : Execution) : Prop :=
  ∃ m n, a.createdAt = some m ∧ b.createdAt = some n ∧ m.before n = .ok true

/-- Records that were created in universal time, no two of them at one time. -/
structure AreDated (es : List Execution) : Prop where
  utc : ∀ e ∈ es, e.IsCreatedIn .utc
  distinct : (es.map Execution.createdAt).Nodup

/-- Of all records, the newest ones, from the newest on: no other record was created after one of them. -/
structure AreLatest (all es : List Execution) : Prop where
  stored : ∀ e ∈ es, e ∈ all
  ordered : es.Pairwise fun a b => b.IsCreatedBefore a
  latest : ∀ e ∈ es, ∀ old ∈ all, old ∉ es → old.IsCreatedBefore e

theorem Execution.IsCreatedBefore.asymm {a b : Execution} (h : a.IsCreatedBefore b) :
    ¬ b.IsCreatedBefore a := by
  rintro ⟨n, m, hn, hm, hback⟩
  obtain ⟨m', n', hm', hn', hbefore⟩ := h
  cases hm.symm.trans hm'
  cases hn.symm.trans hn'
  unfold Moment.before at hbefore hback
  rw [Moment.aligned?_swap] at hback
  cases haligned : Moment.aligned? m n with
  | none =>
    rw [haligned] at hbefore
    cases hbefore
  | some scale =>
    rw [haligned] at hbefore hback
    have hlt : scale.1 < scale.2 := of_decide_eq_true (Except.ok.inj hbefore)
    have hgt : scale.2 < scale.1 := of_decide_eq_true (Except.ok.inj hback)
    omega

theorem AreLatest.nodup {all es : List Execution} (h : AreLatest all es) : es.Nodup :=
  h.ordered.imp fun hlater heq => (heq ▸ hlater).asymm (heq ▸ hlater)

/-- **There is one list** of so many newest records, in whatever order a store keeps its records. -/
theorem AreLatest.eq {all all' es es' : List Execution} (h : AreLatest all es) (h' : AreLatest all' es')
    (hsame : ∀ e, e ∈ all' ↔ e ∈ all) (hlength : es'.length = es.length) : es' = es := by
  have hperm : es'.Perm es := by
    by_cases hsubset : es ⊆ es'
    · exact ((List.subperm_of_subset h.nodup hsubset).perm_of_length_le hlength.le).symm
    · obtain ⟨e, he, hnot⟩ : ∃ e, e ∈ es ∧ e ∉ es' := by
        simpa only [List.subset_def, not_forall, exists_prop] using hsubset
      refine (List.subperm_of_subset h'.nodup fun e' he' => ?_).perm_of_length_le hlength.ge
      by_contra hnot'
      -- each of two records that only one list has would be the older one
      exact (h.latest e he e' ((hsame e').mp (h'.stored e' he')) hnot').asymm
        (h'.latest e' he' e ((hsame e).mpr (h.stored e he)) hnot)
  exact hperm.eq_of_pairwise (fun a b _ _ hab hba => absurd hba hab.asymm) h'.ordered h.ordered

theorem isCreatedBefore_of_ticks {zone : Offset} {a b : Execution} (ha : a.IsCreatedIn zone)
    (hb : b.IsCreatedIn zone) (h : a.createdTicks < b.createdTicks) : a.IsCreatedBefore b := by
  obtain ⟨m, hm, hzone⟩ := ha
  obtain ⟨n, hn, hzone'⟩ := hb
  unfold Execution.createdTicks at h
  rw [hm, hn] at h
  have hlt : m.ticks < n.ticks := h
  exact ⟨m, n, hm, hn, by rw [Moment.before_of_zone hzone hzone', decide_eq_true hlt]⟩

theorem mem_latestCreated {es : List Execution} {e : Execution} : e ∈ latestCreated es ↔ e ∈ es :=
  (List.mergeSort_perm es _).mem_iff

theorem length_latestCreated (es : List Execution) : (latestCreated es).length = es.length :=
  List.length_mergeSort es

theorem pairwise_latestCreated (es : List Execution) :
    (latestCreated es).Pairwise fun a b => b.createdTicks ≤ a.createdTicks := by
  have hsorted := @List.pairwise_mergeSort _ (fun a b : Execution => decide (b.createdTicks ≤ a.createdTicks))
    (fun a b c hab hbc => decide_eq_true (Nat.le_trans (of_decide_eq_true hbc) (of_decide_eq_true hab)))
    (fun a b => by
      rw [Bool.or_eq_true, decide_eq_true_iff, decide_eq_true_iff]
      exact Nat.le_total _ _) es
  exact hsorted.imp fun h => of_decide_eq_true h

namespace AreDated

variable {all : List Execution} (h : AreDated all)

include h

theorem nodup : all.Nodup := h.distinct.of_map

/-- Two records that were created at one time are one. -/
theorem eq_of_ticks {a b : Execution} (ha : a ∈ all) (hb : b ∈ all)
    (hticks : a.createdTicks = b.createdTicks) : a = b := by
  refine List.inj_on_of_nodup_map h.distinct ha hb ?_
  obtain ⟨⟨ticks, offset, within⟩, hm, hzone⟩ := h.utc a ha
  obtain ⟨⟨ticks', offset', within'⟩, hn, hzone'⟩ := h.utc b hb
  unfold Execution.createdTicks at hticks
  rw [hm, hn] at hticks ⊢
  cases hzone
  cases hzone'
  cases (hticks : ticks = ticks')
  rfl

/-- Each of the sorted records was created after all that follow it. -/
theorem strictly_latestCreated : (latestCreated all).Pairwise fun a b => b.IsCreatedBefore a := by
  have hnodup : (latestCreated all).Pairwise (· ≠ ·) := (List.mergeSort_perm all _).nodup_iff.mpr h.nodup
  refine ((pairwise_latestCreated all).and hnodup).imp_of_mem fun {a b} ha hb hab => ?_
  have ha' := mem_latestCreated.mp ha
  have hb' := mem_latestCreated.mp hb
  exact isCreatedBefore_of_ticks (h.utc b hb') (h.utc a ha')
    (Nat.lt_of_le_of_ne hab.1 fun heq => hab.2 (h.eq_of_ticks hb' ha' heq).symm)

/-- **The first of the sorted records are the newest ones.** -/
theorem areLatest_take (n : Nat) : AreLatest all ((latestCreated all).take n) := by
  have hstrictly := h.strictly_latestCreated
  rw [← List.take_append_drop n (latestCreated all), List.pairwise_append] at hstrictly
  obtain ⟨hordered, _, hacross⟩ := hstrictly
  refine ⟨fun e he => mem_latestCreated.mp (List.mem_of_mem_take he), hordered, fun e he old hold hnot => ?_⟩
  have hold' : old ∈ (latestCreated all).take n ++ (latestCreated all).drop n := by
    rw [List.take_append_drop]
    exact mem_latestCreated.mpr hold
  exact hacross e he old ((List.mem_append.mp hold').resolve_left hnot)

end AreDated

/-! ## 2. Runners -/

theorem takeSigned_of_neg {β : Type} {n : Int} (h : n < 0) (items : List β) :
    MemoryExecutions.takeSigned n items = items.take (items.length - n.natAbs) := by
  cases n with
  | ofNat k => exact absurd h (Int.not_lt.mpr (Int.natCast_nonneg k))
  | negSucc k => rfl

theorem takeSigned_of_pos {β : Type} {n : Int} (h : 0 < n) (items : List β) :
    MemoryExecutions.takeSigned n items = items.take n.toNat := by
  cases n with
  | ofNat k => rfl
  | negSucc k => cases h

namespace Runner

section

variable {α ε ν : Type} [ExecutionStorage ε]

/-- For a limit, a runner lists so many of its records: the newest ones. -/
def Lists (r : Runner α ε ν) (limit : Int) (n : Nat) : Prop :=
  ∃ es, r.listExecutions (some limit) = .ok es ∧ AreLatest (ExecutionStorage.all r.executions) es ∧
    es.length = n

theorem Lists.unique {r : Runner α ε ν} {limit : Int} {m n : Nat} (h : r.Lists limit m)
    (h' : r.Lists limit n) : m = n := by
  obtain ⟨es, hlist, _, rfl⟩ := h
  obtain ⟨es', hlist', _, rfl⟩ := h'
  cases hlist.symm.trans hlist'
  rfl

/-- A limit other than zero is handed to the store. -/
theorem listExecutions_of_ne (r : Runner α ε ν) {limit : Int} (h : limit ≠ 0) :
    r.listExecutions (some limit) = ExecutionStorage.listRecent r.executions limit := by
  unfold listExecutions
  rw [Option.getD_some, if_neg h]

/-- What is listed are the first of the sorted records. -/
theorem lists_of_take {r : Runner α ε ν} {limit : Int} {n k : Nat}
    (h : AreDated (ExecutionStorage.all r.executions))
    (hlist : r.listExecutions (some limit) =
      .ok ((latestCreated (ExecutionStorage.all r.executions)).take k))
    (hlength : min k (ExecutionStorage.all r.executions).length = n) : r.Lists limit n := by
  refine ⟨_, hlist, h.areLatest_take k, ?_⟩
  rw [List.length_take, length_latestCreated, hlength]

end

/-! ### In memory -/

section

variable {α ν : Type} {r : Runner α MemoryExecutions ν} {limit : Int}
  (h : AreDated (ExecutionStorage.all r.executions))

include h

theorem memory_list (hlimit : limit ≠ 0) : r.listExecutions (some limit) =
    .ok (MemoryExecutions.takeSigned limit (latestCreated (ExecutionStorage.all r.executions))) := by
  rw [listExecutions_of_ne r hlimit]
  exact MemoryExecutions.listRecent_eq h.utc limit

theorem memory_list_of_pos (hpos : 0 < limit) : r.listExecutions (some limit) =
    .ok ((latestCreated (ExecutionStorage.all r.executions)).take limit.toNat) := by
  rw [memory_list h hpos.ne', takeSigned_of_pos hpos]

/-- A negative limit leaves out as many of the oldest records. -/
theorem memory_lists_of_neg (hneg : limit < 0) :
    r.Lists limit ((ExecutionStorage.all r.executions).length - limit.natAbs) := by
  refine lists_of_take h ?_ (Nat.min_eq_left (Nat.sub_le _ limit.natAbs))
  rw [memory_list h hneg.ne, takeSigned_of_neg hneg, length_latestCreated]

end

/-! ### In tables -/

section

variable {α ν : Type} {t : Runner α ExecutionTable ν} {limit : Int}
  (h : AreDated (ExecutionStorage.all t.executions))
  (hcolumns : ∀ row ∈ t.executions.rows, ∃ m : Moment, m.isAnchored = true ∧ row.createdAt = momentColumn m)

include h hcolumns

theorem table_list (hlimit : limit ≠ 0) (hcolumn : isColumnNumber limit = true) :
    t.listExecutions (some limit) = .ok (if limit < 0 then latestCreated (ExecutionStorage.all t.executions)
      else (latestCreated (ExecutionStorage.all t.executions)).take limit.toNat) := by
  rw [listExecutions_of_ne t hlimit]
  exact ExecutionTable.listRecent_eq hcolumns h.utc hcolumn

theorem table_list_of_pos (hpos : 0 < limit) (hlt : limit < 2 ^ 63) : t.listExecutions (some limit) =
    .ok ((latestCreated (ExecutionStorage.all t.executions)).take limit.toNat) := by
  rw [table_list h hcolumns hpos.ne' (isColumnNumber_iff.mpr (by omega)), if_neg (by omega)]

/-- A negative limit leaves out no record. -/
theorem table_lists_of_neg (hneg : limit < 0) (hge : -2 ^ 63 ≤ limit) :
    t.Lists limit (ExecutionStorage.all t.executions).length := by
  refine lists_of_take h (k := (ExecutionStorage.all t.executions).length) ?_ (Nat.min_self _)
  rw [table_list h hcolumns hneg.ne (isColumnNumber_iff.mpr (by omega)), if_pos hneg]
  exact congrArg _ (List.take_of_length_le (length_latestCreated _).le).symm

omit h hcolumns in
/-- A limit that has no 64 bits is refused. -/
theorem table_refuses (hwide : limit < -2 ^ 63 ∨ 2 ^ 63 ≤ limit) :
    t.listExecutions (some limit) = .error .numberTooLarge := by
  have hnot : isColumnNumber limit ≠ true := fun h => by
    have := isColumnNumber_iff.mp h
    omega
  rw [listExecutions_of_ne t (by omega)]
  exact if_neg hnot

end

/-! ### Both -/

/-- **A runner lists the newest of its records**, as many as a positive limit says, and two runners whose
    stores keep the same records list the same. A negative limit leaves out the oldest records in memory, and
    none in a table, which refuses a limit that has no 64 bits. Zero stands for the runner's own limit. -/
theorem lists_latest {α β ν μ : Type} (r : Runner α MemoryExecutions ν) (t : Runner β ExecutionTable μ)
    (limit : Int) (hr : AreDated (ExecutionStorage.all r.executions))
    (ht : AreDated (ExecutionStorage.all t.executions))
    (hcolumns : ∀ row ∈ t.executions.rows,
      ∃ m : Moment, m.isAnchored = true ∧ row.createdAt = momentColumn m) :
    (0 < limit →
      r.Lists limit (min limit.toNat (ExecutionStorage.all r.executions).length) ∧
      (limit < 2 ^ 63 → t.Lists limit (min limit.toNat (ExecutionStorage.all t.executions).length)) ∧
      (limit < 2 ^ 63 →
        (∀ e, e ∈ ExecutionStorage.all t.executions ↔ e ∈ ExecutionStorage.all r.executions) →
        t.listExecutions (some limit) = r.listExecutions (some limit))) ∧
      (limit < 0 →
        r.Lists limit ((ExecutionStorage.all r.executions).length - limit.natAbs) ∧
        (-2 ^ 63 ≤ limit → t.Lists limit (ExecutionStorage.all t.executions).length)) ∧
      (limit < -2 ^ 63 ∨ 2 ^ 63 ≤ limit → t.listExecutions (some limit) = .error .numberTooLarge) ∧
      (limit = 0 →
        r.listExecutions (some limit) = r.listExecutions none ∧
        t.listExecutions (some limit) = t.listExecutions none) := by
  refine ⟨fun hpos => ⟨?_, fun hlt => ?_, fun hlt hsame => ?_⟩, fun hneg => ⟨?_, fun hge => ?_⟩,
    fun hwide => table_refuses hwide, fun hzero => ?_⟩
  · exact lists_of_take hr (memory_list_of_pos hr hpos) rfl
  · exact lists_of_take ht (table_list_of_pos ht hcolumns hpos hlt) rfl
  · have hstored : (ExecutionStorage.all t.executions).length = (ExecutionStorage.all r.executions).length :=
      ((List.perm_ext_iff_of_nodup ht.nodup hr.nodup).mpr hsame).length_eq
    obtain ⟨es, hes, hlatest, hlength⟩ := lists_of_take hr (memory_list_of_pos hr hpos) rfl
    obtain ⟨es', hes', hlatest', hlength'⟩ := lists_of_take ht (table_list_of_pos ht hcolumns hpos hlt) rfl
    rw [hes, hes', hlatest.eq hlatest' hsame (by rw [hlength, hlength', hstored])]
  · exact memory_lists_of_neg hr hneg
  · exact table_lists_of_neg ht hcolumns hneg hge
  · rw [hzero]
    exact ⟨rfl, rfl⟩

/-! ### Three records -/

/-- A record that was created at a moment. -/
def recorded (id : String) (m : Moment) : Execution :=
  ⟨id, "greet", "ann@example.org", .completed, none, [], none, none, some m⟩

/-- The reading so many minutes after the first one of the calendar. -/
def minute (n : Nat) : Moment := Moment.first.addMicros (n * 60000000)

/-- Three records, which do not stand in the order in which they were created. -/
def threeRecords : List Execution := [recorded "x" (minute 1), recorded "y" (minute 3), recorded "z" (minute 2)]

/-- The row of a record that has no log and stands at no node. -/
def bareRow (e : Execution) : ExecutionRow :=
  ⟨e.id, e.automationId, e.subject, e.status.label, none, none, none,
    momentColumn (e.createdAt.getD Moment.first)⟩

/-- A runner over a store of executions. -/
def runnerOver {ε : Type} (executions : ε) : Runner MemoryAutomations ε Outbox where
  automations := .empty
  executions := executions
  notifier := .empty
  clock := Moment.first
  ids := ⟨0⟩
  timers := .empty
  queue := []
  journal := []
  previewChars := 50
  recentLimit := 50

/-- The three records in memory. -/
def overMemory : Runner MemoryAutomations MemoryExecutions Outbox :=
  runnerOver ⟨⟨threeRecords.map fun e => (e.id, e)⟩⟩

/-- The three records in a table. -/
def overTable : Runner MemoryAutomations ExecutionTable Outbox :=
  runnerOver ⟨threeRecords.map bareRow, []⟩

theorem areDated_threeRecords : AreDated threeRecords where
  utc e he := by
    simp only [threeRecords, List.mem_cons, List.not_mem_nil, or_false] at he
    rcases he with rfl | rfl | rfl <;> exact ⟨_, rfl, rfl⟩
  distinct := by decide

theorem all_overMemory : ExecutionStorage.all overMemory.executions = threeRecords := rfl

theorem columns_overTable : ∀ row ∈ overTable.executions.rows,
    ∃ m : Moment, m.isAnchored = true ∧ row.createdAt = momentColumn m := by
  intro row hrow
  obtain ⟨e, he, rfl⟩ := List.mem_map.mp hrow
  obtain ⟨m, hm, hzone⟩ := areDated_threeRecords.utc e he
  refine ⟨m, Moment.isAnchored_of_offset hzone, ?_⟩
  unfold bareRow
  rw [hm]
  rfl

theorem executionOf_bareRow (rows : List ExecutionRow) (id : String) {m : Moment}
    (hm : m.isAnchored = true) :
    (⟨rows, []⟩ : ExecutionTable).executionOf (bareRow (recorded id m)) = recorded id m :=
  congrArg (Execution.mk id "greet" "ann@example.org" .completed none [] none none)
    (ExecutionTable.createdAt_of_row (t := ⟨rows, []⟩) hm rfl)

theorem all_overTable : ExecutionStorage.all overTable.executions = threeRecords := by
  have hrow (id : String) (n : Nat) :
      overTable.executions.executionOf (bareRow (recorded id (minute n))) = recorded id (minute n) :=
    executionOf_bareRow _ id (Moment.isAnchored_addMicros Moment.first _)
  show [_, _, _] = [_, _, _]
  rw [hrow, hrow, hrow]

/-- The newest two of the three records. -/
theorem lists_latest_two : overMemory.Lists 2 2 ∧ overTable.Lists 2 2 ∧
    overTable.listExecutions (some 2) = overMemory.listExecutions (some 2) := by
  obtain ⟨hpos, _⟩ := lists_latest overMemory overTable 2
    (all_overMemory ▸ areDated_threeRecords) (all_overTable ▸ areDated_threeRecords) columns_overTable
  obtain ⟨hmemory, htable, hsame⟩ := hpos (by decide)
  rw [all_overTable] at htable hsame
  exact ⟨hmemory, htable (by decide), hsame (by decide) fun e => Iff.rfl⟩

/-- **Zero and a negative limit** are not taken for no record: zero lists all three, and the limit one below
    it lists two of them in memory and three in the table. -/
theorem lists_past_limit : AreDated (ExecutionStorage.all overMemory.executions) ∧
    ExecutionStorage.all overTable.executions = ExecutionStorage.all overMemory.executions ∧
    ¬ overMemory.Lists 0 0 ∧ ¬ overTable.Lists 0 0 ∧ ¬ overMemory.Lists (-1) 0 ∧ ¬ overTable.Lists (-1) 0 ∧
    overTable.listExecutions (some (-1)) ≠ overMemory.listExecutions (some (-1)) := by
  have hmemory : AreDated (ExecutionStorage.all overMemory.executions) := areDated_threeRecords
  have htable : AreDated (ExecutionStorage.all overTable.executions) := all_overTable ▸ areDated_threeRecords
  -- zero lists what the runner's own limit lists
  have hown : overMemory.listExecutions (some 50) = _ := memory_list_of_pos hmemory (by decide)
  have hown' : overTable.listExecutions (some 50) = _ :=
    table_list_of_pos htable columns_overTable (by decide) (by decide)
  have hzero : overMemory.Lists 0 3 := lists_of_take hmemory hown rfl
  have hzero' : overTable.Lists 0 (ExecutionStorage.all overTable.executions).length :=
    lists_of_take htable hown' rfl
  have hneg : overMemory.Lists (-1) 2 := memory_lists_of_neg hmemory (by decide)
  have hneg' : overTable.Lists (-1) (ExecutionStorage.all overTable.executions).length :=
    table_lists_of_neg htable columns_overTable (by decide) (by decide)
  rw [all_overTable] at hzero' hneg'
  refine ⟨hmemory, all_overTable, fun h => ?_, fun h => ?_, fun h => ?_, fun h => ?_, fun heq => ?_⟩
  · cases hzero.unique h
  · cases hzero'.unique h
  · cases hneg.unique h
  · cases hneg'.unique h
  · obtain ⟨es, hes, _, hlength⟩ := hneg
    obtain ⟨es', hes', _, hlength'⟩ := hneg'
    rw [hes, hes'] at heq
    cases heq
    cases hlength.symm.trans hlength'

end Runner

end Dripline
