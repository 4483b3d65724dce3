import Dripline.Delivery.Outbox
import Dripline.Proofs.Run.Timing

/-!
# Recovery

A recovery goes through the scheduled records, in whatever order the store lists them, and arms what it
can. Which records it arms is decided before it begins: none of them comes into the way of another.

* `isUnattended`: the record has no timer, and its moment compares with the clock;
* `rearm_cases`, `rearmAll_arms`: one record, and all of them. The new timers stand behind those that are
  there, in the order of the records;
* `AwaitsTimer`: the same, read off the store and the registry;
* **`recovery_complete`**: the new timers are those that are awaited, each once and for the moment of its
  record; nothing else changes; a second recovery arms nothing.
-/

namespace Dripline

/-! ## 1. The registry -/

theorem Keyed.entries_put_of_free {α : Type} {t : Keyed α} {k : String} (a : α) (h : t.get? k = none) :
    (t.put k a).entries = t.entries ++ [(k, a)] :=
  Keyed.putEntry_of_new a (Keyed.not_mem_keys_of_lookup h)

theorem Keyed.get?_of_entries_append {α : Type} {t t' : Keyed α} {new : List (String × α)}
    (h : t'.entries = t.entries ++ new) (k : String) :
    t'.get? k = (t.get? k).or (Keyed.lookup k new) := by
  unfold Keyed.get?
  rw [h, Keyed.lookup_append]

namespace Runner

/-! ## 2. One record -/

section

variable {α ε ν : Type}

/-- The record is scheduled for a moment that compares with the clock, and has no timer. -/
def isUnattended (r : Runner α ε ν) (e : Execution) : Bool :=
  (r.timers.get? e.id).isNone && e.scheduledFor.any fun due => due.isAnchored == r.clock.isAnchored

variable {r : Runner α ε ν} {e : Execution}

theorem isUnattended_iff : r.isUnattended e = true ↔
    r.timers.get? e.id = none ∧
      ∃ due, e.scheduledFor = some due ∧ due.isAnchored = r.clock.isAnchored := by
  unfold isUnattended
  rw [Bool.and_eq_true, Option.isNone_iff_eq_none, Option.any_eq_true]
  simp only [beq_iff_eq]

/-- It does not depend on the timers of others. -/
theorem isUnattended_congr {r' : Runner α ε ν} (htimer : r'.timers.get? e.id = r.timers.get? e.id)
    (hclock : r'.clock = r.clock) : r'.isUnattended e = r.isUnattended e := by
  unfold isUnattended
  rw [htimer, hclock]

theorem schedule_of_free {due : Moment} (hfree : r.timers.get? e.id = none)
    (hkind : due.isAnchored = r.clock.isAnchored) :
    (r.schedule e.id due).1 = .ok true ∧ (r.schedule e.id due).2.timers = r.timers.arm e.id due := by
  obtain ⟨micros, hsince⟩ := Moment.since_of_kind hkind
  unfold schedule secondsUntil
  rw [hfree, hsince]
  exact ⟨rfl, rfl⟩

theorem schedule_of_mixed {due : Moment} (hfree : r.timers.get? e.id = none)
    (hkind : due.isAnchored ≠ r.clock.isAnchored) :
    (r.schedule e.id due).1 = .error .mixedDifference ∧ (r.schedule e.id due).2.timers = r.timers := by
  unfold schedule secondsUntil
  rw [hfree, Moment.since_of_mixed hkind]
  exact ⟨rfl, rfl⟩

/-- A record counts when a timer was armed for it. -/
theorem rearm_count {due : Moment} (hdue : e.scheduledFor = some due) :
    (r.rearm e).1 = match (r.schedule e.id due).1 with
      | .ok true => 1
      | _ => 0 := by
  unfold rearm
  rw [hdue]
  dsimp only
  cases r.schedule e.id due with
  | mk outcome r' =>
    cases outcome with
    | error fault => rfl
    | ok armed => cases armed <;> rfl

/-- **A record is armed and counted when it is unattended**, and passed over otherwise. -/
theorem rearm_cases (r : Runner α ε ν) (e : Execution) :
    (r.isUnattended e = true ∧ (r.rearm e).1 = 1 ∧
        ∃ due, e.scheduledFor = some due ∧ (r.rearm e).2.timers = r.timers.arm e.id due) ∨
      r.isUnattended e = false ∧ (r.rearm e).1 = 0 ∧ (r.rearm e).2.timers = r.timers := by
  have htimers := r.rearm_timers e
  cases hdue : e.scheduledFor with
  | none =>
    rw [hdue] at htimers
    refine .inr ⟨?_, ?_, htimers⟩
    · unfold isUnattended
      rw [hdue, Option.any_none, Bool.and_false]
    · unfold rearm
      rw [hdue]
  | some due =>
    rw [hdue, Option.map_some, Option.getD_some] at htimers
    have hcount := rearm_count (r := r) hdue
    cases hthere : r.timers.get? e.id with
    | some timer =>
      have hsome : (r.timers.get? e.id).isSome = true := by rw [hthere]; rfl
      have hkept : (r.schedule e.id due).2.timers = r.timers := by
        unfold schedule
        rw [hthere]
        rfl
      refine .inr ⟨?_, rearm_count_armed hsome, htimers.trans hkept⟩
      unfold isUnattended
      rw [hthere]
      rfl
    | none =>
      by_cases hkind : due.isAnchored = r.clock.isAnchored
      · obtain ⟨hout, harmed⟩ := schedule_of_free hthere hkind
        rw [hout] at hcount
        exact .inl ⟨isUnattended_iff.mpr ⟨hthere, due, hdue, hkind⟩, hcount, due, rfl,
          htimers.trans harmed⟩
      · obtain ⟨hout, hkept⟩ := schedule_of_mixed hthere hkind
        rw [hout] at hcount
        refine .inr ⟨Bool.eq_false_iff.mpr fun h => ?_, hcount, htimers.trans hkept⟩
        obtain ⟨_, due', hdue', hkind'⟩ := isUnattended_iff.mp h
        cases hdue.symm.trans hdue'
        exact hkind hkind'

/-! ## 3. All records -/

/-- **A recovery arms the unattended records in their order** and counts them. A timer that is armed on
    the way is that of another record, and leaves the rest as they were. -/
theorem rearmAll_arms {es : List Execution} (hids : (es.map Execution.id).Nodup) :
    ∃ armed : List (String × Timer),
      (r.rearmAll es).2.timers.entries.entries = r.timers.entries.entries ++ armed ∧
      (r.rearmAll es).2.timers.nextSerial = r.timers.nextSerial + armed.length ∧
      (r.rearmAll es).1 = armed.length ∧
      armed.map (fun x => (x.1, some x.2.due, x.2.phase)) =
        (es.filter r.isUnattended).map fun e => (e.id, e.scheduledFor, TimerPhase.waiting) := by
  induction es generalizing r with
  | nil => exact ⟨[], (List.append_nil _).symm, rfl, rfl, rfl⟩
  | cons e es ih =>
    rw [List.map_cons, List.nodup_cons] at hids
    have hothers : ∀ e' ∈ es, e'.id ≠ e.id := fun e' he' hid => hids.1 (hid ▸ List.mem_map_of_mem he')
    have hclock : (r.rearm e).2.clock = r.clock := (r.rearm_keeps e).2.clock
    obtain ⟨armed, hentries, hserial, hcount, harmed⟩ := ih (r := (r.rearm e).2) hids.2
    have hfilter : es.filter (r.rearm e).2.isUnattended = es.filter r.isUnattended := by
      refine List.filter_congr fun e' he' => isUnattended_congr ?_ hclock
      rcases r.rearm_cases e with ⟨_, _, due, _, htimers⟩ | ⟨_, _, htimers⟩
      · rw [htimers, Timers.get?_arm, if_neg (hothers e' he').symm]
      · rw [htimers]
    rw [hfilter] at harmed
    rcases r.rearm_cases e with ⟨hun, hone, due, hdue, htimers⟩ | ⟨hun, hzero, htimers⟩
    · have hfree := (isUnattended_iff.mp hun).1
      refine ⟨(e.id, ⟨due, r.timers.nextSerial, .waiting⟩) :: armed, ?_, ?_, ?_, ?_⟩
      · refine hentries.trans ?_
        rw [htimers, List.append_cons]
        exact congrArg (· ++ armed) (Keyed.entries_put_of_free _ hfree)
      · refine hserial.trans ?_
        rw [htimers, List.length_cons]
        show r.timers.nextSerial + 1 + armed.length = _
        omega
      · show (r.rearm e).1 + ((r.rearm e).2.rearmAll es).1 = _
        rw [hone, hcount, List.length_cons, Nat.add_comm]
      · rw [List.filter_cons_of_pos hun, List.map_cons, List.map_cons, harmed, hdue]
    · rw [htimers] at hentries hserial
      refine ⟨armed, hentries, hserial, ?_, ?_⟩
      · show (r.rearm e).1 + ((r.rearm e).2.rearmAll es).1 = _
        rw [hzero, hcount, Nat.zero_add]
      · rw [List.filter_cons_of_neg (Bool.eq_false_iff.mp hun), harmed]

end

/-! ## 4. What a recovery comes to -/

section

variable {α ε ν : Type} [ExecutionStorage ε]

/-- A timer is wanted for an execution: its record is pending and scheduled for a moment that compares with
    the clock, and it has none. -/
structure AwaitsTimer (r : Runner α ε ν) (id : String) (due : Moment) : Prop where
  record : ∃ e, ExecutionStorage.get r.executions id = some e ∧ e.status = .pending ∧
    e.scheduledFor = some due
  comparable : due.isAnchored = r.clock.isAnchored
  free : r.timers.get? id = none

variable [LawfulExecutions ε] {r : Runner α ε ν} {id : String} {due : Moment}

/-- The executions that await a timer are the unattended ones among those that the store lists. -/
theorem awaitsTimer_iff (hs : LawfulExecutions.Sound r.executions) :
    r.AwaitsTimer id due ↔ ∃ e ∈ (ExecutionStorage.listScheduled r.executions).filter r.isUnattended,
      e.id = id ∧ e.scheduledFor = some due := by
  constructor
  · rintro ⟨⟨e, hget, hpending, hdue⟩, hkind, hfree⟩
    have hid := LawfulExecutions.id_of_get hs hget
    have hsuspended : e.isSuspended = true :=
      Execution.isSuspended_iff.mpr ⟨hpending, by rw [hdue]; rfl⟩
    have hlisted : e ∈ ExecutionStorage.listScheduled r.executions :=
      (LawfulExecutions.mem_listScheduled e hs).mpr ⟨hid ▸ hget, hsuspended⟩
    have hunattended : r.isUnattended e = true :=
      isUnattended_iff.mpr ⟨hid ▸ hfree, due, hdue, hkind⟩
    exact ⟨e, List.mem_filter.mpr ⟨hlisted, hunattended⟩, hid, hdue⟩
  · rintro ⟨e, he, rfl, hdue⟩
    obtain ⟨hlisted, hunattended⟩ := List.mem_filter.mp he
    obtain ⟨hget, hsuspended⟩ := (LawfulExecutions.mem_listScheduled e hs).mp hlisted
    obtain ⟨hfree, due', hdue', hkind⟩ := isUnattended_iff.mp hunattended
    cases hdue.symm.trans hdue'
    exact ⟨⟨e, hget, (Execution.isSuspended_iff.mp hsuspended).1, hdue⟩, hkind, hfree⟩

/-- **The timers that a recovery arms** stand behind the others, one for each execution that awaits one. -/
theorem recover_arms (hs : LawfulExecutions.Sound r.executions) :
    ∃ armed : List (String × Timer),
      r.recover.2.timers.entries.entries = r.timers.entries.entries ++ armed ∧
      r.recover.2.timers.nextSerial = r.timers.nextSerial + armed.length ∧
      r.recover.1 = armed.length ∧ (armed.map Prod.fst).Nodup ∧
      (∀ id timer, (id, timer) ∈ armed → timer.phase = .waiting ∧ r.AwaitsTimer id timer.due) ∧
      ∀ id due, r.AwaitsTimer id due → ∃ serial, (id, ⟨due, serial, .waiting⟩) ∈ armed := by
  have hids := LawfulExecutions.nodup_listScheduled hs
  obtain ⟨armed, hentries, hserial, hcount, hsame⟩ :=
    rearmAll_arms (r := r.say .info .scheduler
      s!"Found {(ExecutionStorage.listScheduled r.executions).length} pending executions to resume") hids
  have harmed : armed.map (fun x => (x.1, some x.2.due, x.2.phase)) =
      ((ExecutionStorage.listScheduled r.executions).filter r.isUnattended).map
        fun e => (e.id, e.scheduledFor, TimerPhase.waiting) := hsame
  have hkeys : armed.map Prod.fst =
      ((ExecutionStorage.listScheduled r.executions).filter r.isUnattended).map Execution.id := by
    have h := congrArg (List.map Prod.fst) harmed
    rwa [List.map_map, List.map_map] at h
  refine ⟨armed, hentries, hserial, hcount, ?_, fun id timer hx => ?_, fun id due hawaits => ?_⟩
  · rw [hkeys]
    exact hids.sublist (List.filter_sublist.map _)
  · have hmem := List.mem_map_of_mem (f := fun x => (x.1, some x.2.due, x.2.phase)) hx
    rw [harmed] at hmem
    obtain ⟨e, he, heq⟩ := List.mem_map.mp hmem
    simp only [Prod.mk.injEq] at heq
    obtain ⟨hid, hdue, hphase⟩ := heq
    exact ⟨hphase.symm, (awaitsTimer_iff hs).mpr ⟨e, he, hid, hdue⟩⟩
  · obtain ⟨e, he, hid, hdue⟩ := (awaitsTimer_iff hs).mp hawaits
    have hmem := List.mem_map_of_mem (f := fun e => (e.id, e.scheduledFor, TimerPhase.waiting)) he
    rw [← harmed] at hmem
    obtain ⟨⟨id', timer⟩, hx, heq⟩ := List.mem_map.mp hmem
    simp only [hid, hdue, Prod.mk.injEq, Option.some.injEq] at heq
    obtain ⟨rfl, rfl, hphase⟩ := heq
    exact ⟨timer.serial, by rw [← hphase]; exact hx⟩

omit [LawfulExecutions ε] in
/-- Nothing but timers and journal is different after a recovery. -/
theorem recover_eq (r : Runner α ε ν) :
    r.recover.2 = { r with timers := r.recover.2.timers, journal := r.recover.2.journal } := by
  obtain ⟨hexecutions, hsilent⟩ := r.recover_keeps
  obtain ⟨⟨hautomations, hclock, hids, hqueue, hpreview, hlimit⟩, hnotifier⟩ := hsilent
  cases hr : r.recover.2 with
  | mk automations executions notifier clock ids timers queue journal previewChars recentLimit =>
    rw [hr] at hexecutions hautomations hclock hids hqueue hpreview hlimit hnotifier
    dsimp only at hexecutions hautomations hclock hids hqueue hpreview hlimit hnotifier ⊢
    rw [hexecutions, hautomations, hclock, hids, hqueue, hpreview, hlimit, hnotifier]

/-- Where no execution awaits a timer, a recovery only tells what it found. -/
theorem recover_of_none (hs : LawfulExecutions.Sound r.executions)
    (hnone : ∀ id due, ¬ r.AwaitsTimer id due) :
    r.recover.1 = 0 ∧ r.recover.2 = { r with journal := r.recover.2.journal } := by
  obtain ⟨armed, hentries, hserial, hcount, _, hawaited, _⟩ := recover_arms hs
  have hnil : armed = [] := List.eq_nil_iff_forall_not_mem.mpr fun ⟨id, timer⟩ hx =>
    hnone id timer.due (hawaited id timer hx).2
  rw [hnil, List.append_nil] at hentries
  rw [hnil] at hserial hcount
  have htimers : r.recover.2.timers = r.timers := by
    cases hkept : r.recover.2.timers with
    | mk entries nextSerial =>
      rw [hkept] at hentries hserial
      cases entries
      exact congrArg₂ Timers.mk (congrArg Keyed.mk hentries) hserial
  refine ⟨hcount, r.recover_eq.trans ?_⟩
  rw [htimers]

/-- **A recovery is complete, does what it can, and is done once.** It arms exactly one timer for each
    execution that awaits one, at the moment of its record, and says how many; a record whose moment does
    not compare with the clock has no part in it, wherever it is listed. Every timer that is there stays,
    every record stays as it is, and a second recovery arms nothing. -/
theorem recovery_complete (hs : LawfulExecutions.Sound r.executions) :
    (∃ armed : List (String × Timer),
        r.recover.2.timers.entries.entries = r.timers.entries.entries ++ armed ∧
        r.recover.1 = armed.length ∧ (armed.map Prod.fst).Nodup ∧
        ∀ id timer, (id, timer) ∈ armed → timer.phase = .waiting ∧ r.AwaitsTimer id timer.due) ∧
      (∀ id due, r.AwaitsTimer id due →
        ∃ serial, r.recover.2.timers.get? id = some ⟨due, serial, .waiting⟩) ∧
      (∀ id, (∀ due, ¬ r.AwaitsTimer id due) → r.recover.2.timers.get? id = r.timers.get? id) ∧
      r.recover.2 = { r with timers := r.recover.2.timers, journal := r.recover.2.journal } ∧
      r.recover.2.recover.1 = 0 ∧
      r.recover.2.recover.2 = { r.recover.2 with journal := r.recover.2.recover.2.journal } := by
  obtain ⟨armed, hentries, _, hcount, hkeys, hawaited, harmed⟩ := recover_arms hs
  have hget := Keyed.get?_of_entries_append hentries
  have hnew : ∀ id due, r.AwaitsTimer id due →
      ∃ serial, r.recover.2.timers.get? id = some ⟨due, serial, .waiting⟩ := fun id due hawaits => by
    obtain ⟨serial, hx⟩ := harmed id due hawaits
    have hfree : r.timers.entries.get? id = none := hawaits.free
    refine ⟨serial, (hget id).trans ?_⟩
    rw [hfree, Option.none_or]
    exact Keyed.lookup_of_mem hkeys hx
  have hothers : ∀ id, (∀ due, ¬ r.AwaitsTimer id due) →
      r.recover.2.timers.get? id = r.timers.get? id := fun id hnone => by
    have hunarmed : Keyed.lookup id armed = none :=
      Option.eq_none_iff_forall_not_mem.mpr fun timer htimer =>
        hnone timer.due (hawaited id timer (Keyed.mem_of_lookup htimer)).2
    refine (hget id).trans ?_
    rw [hunarmed, Option.or_none]
    rfl
  have hexecutions : r.recover.2.executions = r.executions := r.recover_keeps.1
  have hclock : r.recover.2.clock = r.clock := r.recover_keeps.2.clock
  have hagain : ∀ id due, ¬ r.recover.2.AwaitsTimer id due := fun id due hawaits => by
    -- what is still free afterwards was free before, and has been armed
    have hfree : r.timers.get? id = none := Option.eq_none_iff_forall_not_mem.mpr fun timer htimer => by
      cases hawaits.free.symm.trans (recover_kept htimer)
    have hbefore : r.AwaitsTimer id due :=
      ⟨hexecutions ▸ hawaits.record, hawaits.comparable.trans (congrArg _ hclock), hfree⟩
    obtain ⟨serial, htimer⟩ := hnew id due hbefore
    cases hawaits.free.symm.trans htimer
  have hs' : LawfulExecutions.Sound r.recover.2.executions := hexecutions.symm ▸ hs
  exact ⟨⟨armed, hentries, hcount, hkeys, hawaited⟩, hnew, hothers, r.recover_eq, recover_of_none hs' hagain⟩

end

/-- An execution that is suspended until a moment. -/
def suspended (id : String) (due : Moment) : Execution :=
  ⟨id, "pause", "ann@example.org", .pending, some "wait", [], some due, none, some Moment.first⟩

/-- A runner over four suspended executions: the second one waits for a moment without an offset, and the
    third one has a timer. -/
def interrupted : Runner MemoryAutomations MemoryExecutions Outbox where
  automations := .empty
  executions := ⟨(((Keyed.empty.put "id-1" (suspended "id-1" Moment.first)).put "id-2"
    (suspended "id-2" { Moment.last with offset := none })).put "id-3"
    (suspended "id-3" Moment.last)).put "id-4" (suspended "id-4" Moment.last)⟩
  notifier := .empty
  clock := Moment.first
  ids := ⟨4⟩
  timers := Timers.empty.arm "id-3" Moment.first
  queue := []
  journal := []
  previewChars := 50
  recentLimit := 50

theorem isSound_interrupted : interrupted.executions.IsSound where
  distinct := by decide
  own := fun id e hget => by
    have hown : ∀ x ∈ interrupted.executions.items.entries, x.2.id = x.1 := by decide
    exact hown (id, e) (Keyed.mem_of_lookup hget)

/-- The first and the last one are armed, whatever stands between them. -/
theorem recovery_complete_interrupted :
    (∃ serial, interrupted.recover.2.timers.get? "id-1" = some ⟨Moment.first, serial, .waiting⟩) ∧
      interrupted.recover.2.timers.get? "id-2" = none ∧
      interrupted.recover.2.timers.get? "id-3" = some ⟨Moment.first, 0, .waiting⟩ ∧
      (∃ serial, interrupted.recover.2.timers.get? "id-4" = some ⟨Moment.last, serial, .waiting⟩) ∧
      interrupted.recover.2.recover.1 = 0 := by
  obtain ⟨_, hnew, hothers, _, hagain, _⟩ := recovery_complete (r := interrupted) isSound_interrupted
  have hmixed : ∀ due, ¬ interrupted.AwaitsTimer "id-2" due := by
    rintro due ⟨⟨e, hget, _, hdue⟩, hkind, _⟩
    cases hget
    cases hdue
    cases hkind
  have hkept : ∀ due, ¬ interrupted.AwaitsTimer "id-3" due := fun due hawaits => nomatch hawaits.free
  exact ⟨hnew "id-1" _ ⟨⟨_, rfl, rfl, rfl⟩, rfl, rfl⟩, hothers "id-2" hmixed, hothers "id-3" hkept,
    hnew "id-4" _ ⟨⟨_, rfl, rfl, rfl⟩, rfl, rfl⟩, hagain⟩

end Runner

end Dripline
