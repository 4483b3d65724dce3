import Dripline.Proofs.Run.Lifecycle
import Dripline.Proofs.Time.Order

/-!
# Timers

What becomes of timers, said once:

* `Timers.get?_arm`, `get?_setPhase`, `release_own`, `release_other`: the registry seen through `get?`;
* `schedule_cases`: a timer is there already, cannot be calculated, or is armed;
* `Rings`, `stepTask_rings`: what one stage of a task does to the timer of its execution. A resumption
  cancels it when it begins and releases it when it is past the delay, and only a suspension arms one;
* `Rings.other`: no other timer notices;
* `rearmAll_kept`, `rearmAll_armed`, `rearmAll_origin`: a recovery keeps the timers that are there, and
  arms one for every suspended record without one.
-/

namespace Dripline

/-! ## 1. The registry -/

namespace Timers

variable (t : Timers) (id id' : String)

@[simp] theorem get?_empty : empty.get? id = none := rfl

@[simp] theorem get?_arm (due : Moment) :
    (t.arm id due).get? id' =
      if id = id' then some ⟨due, t.nextSerial, .waiting⟩ else t.get? id' :=
  Keyed.get?_put _ _ _ _

@[simp] theorem get?_setPhase (phase : TimerPhase) :
    (t.setPhase id phase).get? id' =
      if id = id' then (t.get? id).map fun timer => { timer with phase := phase } else t.get? id' := by
  unfold setPhase
  cases h : t.get? id with
  | none =>
    by_cases hid : id = id'
    · rw [if_pos hid, ← hid]
      exact h
    · rw [if_neg hid]
  | some timer => exact Keyed.get?_put _ _ _ _

/-- A timer that gets another phase is due when it was. -/
theorem origin_setPhase {phase : TimerPhase} {timer : Timer}
    (h : (t.setPhase id phase).get? id' = some timer) :
    ∃ old, t.get? id' = some old ∧ old.due = timer.due := by
  rw [get?_setPhase] at h
  split at h
  · rename_i hid
    rw [Option.map_eq_some_iff, hid] at h
    obtain ⟨old, hold, rfl⟩ := h
    exact ⟨old, hold, rfl⟩
  · exact ⟨timer, h, rfl⟩

/-- A timer is released by its own serial number only. -/
theorem release_own (serial : Option Nat) :
    (t.release id serial).get? id =
      if (t.get? id).map Timer.serial = serial then none else t.get? id := by
  unfold release
  cases h : t.get? id with
  | none => exact h.trans (ite_self none).symm
  | some timer =>
    cases serial with
    | none => exact h
    | some n =>
      have hiff : (some timer).map Timer.serial = some n ↔ timer.serial = n := Option.some_inj
      by_cases hn : timer.serial = n
      · simp only [if_pos hn, if_pos (hiff.mpr hn)]
        exact (Keyed.get?_erase _ _ _).trans (if_pos rfl)
      · simp only [if_neg hn, if_neg (mt hiff.mp hn)]
        exact h

theorem release_other {id id' : String} (h : id' ≠ id) (serial : Option Nat) :
    (t.release id serial).get? id' = t.get? id' := by
  unfold release
  split
  · split
    · exact (Keyed.get?_erase _ _ _).trans (if_neg h.symm)
    · rfl
  · rfl

/-- A timer fires when it waits and the moment that it is due at is reached. -/
theorem isDue_iff {now : Moment} {timer : Timer} :
    isDue now timer = true ↔ timer.phase = .waiting ∧ timer.due.atMost now = .ok true := by
  unfold isDue
  rw [Bool.and_eq_true, decide_eq_true_eq]
  cases timer.due.atMost now with
  | error fault => simp
  | ok reached => simp

/-- A timer that is not among those that are due is not due. -/
theorem isDue_of_not_mem {id : String} {timer : Timer} {now : Moment} (h : id ∉ t.dueIds now)
    (htimer : t.get? id = some timer) : isDue now timer = false := by
  refine Bool.eq_false_iff.mpr fun hdue => h ?_
  have hmem : (id, timer) ∈ t.entries.entries.filter fun e => isDue now e.2 :=
    List.mem_filter.mpr ⟨Keyed.mem_of_lookup htimer, hdue⟩
  exact List.mem_map.mpr ⟨_, List.mem_mergeSort.mpr hmem, rfl⟩

/-- Where no timer is the next one, none waits. -/
theorem phase_of_nextDue? {id : String} {timer : Timer} (h : t.nextDue? = none)
    (htimer : t.get? id = some timer) : timer.phase ≠ .waiting := by
  intro hphase
  have hmem : (id, timer) ∈ t.entries.entries.filter fun e => e.2.phase = .waiting :=
    List.mem_filter.mpr ⟨Keyed.mem_of_lookup htimer, decide_eq_true hphase⟩
  rw [nextDue?, Option.map_eq_none_iff, List.head?_eq_none_iff] at h
  have hsorted : (id, timer) ∈ (t.entries.entries.filter fun e => e.2.phase = .waiting).mergeSort
      firesBefore := List.mem_mergeSort.mpr hmem
  rw [h] at hsorted
  cases hsorted

/-- Where there is no timer, none is the next one. -/
theorem nextDue?_of_count (h : t.count = 0) : t.nextDue? = none := by
  have hnone : t.entries.entries = [] := List.eq_nil_of_length_eq_zero h
  unfold nextDue?
  rw [hnone, List.filter_nil, List.mergeSort_nil]
  rfl

end Timers

/-- The serial number of the timer that a resumption will release. -/
def Stage.timer? : Stage → Option Nat
  | .leave _ timer => timer
  | .lost _ _ timer => timer
  | .lostClosing timer => timer
  | _ => none

/-! ## 2. One stage -/

namespace Runner

section

variable {α ε ν : Type} (r : Runner α ε ν) (id : String) (due : Moment)

/-- **A timer is there already, or cannot be calculated, or is armed.** -/
theorem schedule_cases :
    ((r.timers.get? id).isSome = true ∧ (r.schedule id due).1 = .ok false ∧
        (r.schedule id due).2.timers = r.timers) ∨
      (r.timers.get? id = none ∧ (∃ fault, due.since r.clock = .error fault) ∧
        (∃ fault, (r.schedule id due).1 = .error fault) ∧
        (r.schedule id due).2.timers = r.timers) ∨
      r.timers.get? id = none ∧ (r.schedule id due).1 = .ok true ∧
        (r.schedule id due).2.timers = r.timers.arm id due := by
  unfold schedule secondsUntil
  cases hthere : r.timers.get? id with
  | some timer => exact .inl ⟨rfl, rfl, rfl⟩
  | none =>
    cases hsince : due.since r.clock with
    | error fault => exact .inr (.inl ⟨rfl, ⟨fault, rfl⟩, ⟨fault, rfl⟩, rfl⟩)
    | ok micros => exact .inr (.inr ⟨rfl, rfl, rfl⟩)

theorem attend_timers (setup : Setup) :
    (r.attend setup id due).2.timers =
      if setup.scheduled then (r.schedule id due).2.timers else r.timers := by
  unfold attend
  split
  · cases r.schedule id due with
    | mk outcome r' => cases outcome <;> rfl
  · rfl

end

section

variable {α ε ν : Type} {r : Runner α ε ν} {id id' : String} {due : Moment} {timer : Timer}

/-- A timer that is there is kept. -/
theorem schedule_kept (h : r.timers.get? id' = some timer) :
    (r.schedule id due).2.timers.get? id' = some timer := by
  rcases r.schedule_cases id due with ⟨_, _, hsame⟩ | ⟨_, _, _, hsame⟩ | ⟨hfree, _, harmed⟩
  · rw [hsame, h]
  · rw [hsame, h]
  · have hne : id ≠ id' := by
      rintro rfl
      cases hfree.symm.trans h
    rw [harmed, Timers.get?_arm, if_neg hne, h]

/-- A timer that was not there waits for the moment that it was asked for. -/
theorem schedule_origin (h : (r.schedule id due).2.timers.get? id' = some timer) :
    r.timers.get? id' = some timer ∨
      r.timers.get? id' = none ∧ timer.phase = .waiting ∧ id = id' ∧ due = timer.due := by
  rcases r.schedule_cases id due with ⟨_, _, hsame⟩ | ⟨_, _, _, hsame⟩ | ⟨hfree, _, harmed⟩
  · exact .inl (hsame ▸ h)
  · exact .inl (hsame ▸ h)
  · rw [harmed, Timers.get?_arm] at h
    by_cases hid : id = id'
    · rw [if_pos hid] at h
      cases h
      exact .inr ⟨hid ▸ hfree, rfl, hid, rfl⟩
    · rw [if_neg hid] at h
      exact .inl h

/-- After asking for it there is a timer, if its moment compares with the clock. -/
theorem schedule_armed (hsince : ∃ micros, due.since r.clock = .ok micros) :
    ((r.schedule id due).2.timers.get? id).isSome = true := by
  obtain ⟨micros, hok⟩ := hsince
  rcases r.schedule_cases id due with ⟨hthere, _, hsame⟩ | ⟨_, ⟨fault, hfault⟩, _⟩ | ⟨_, _, harmed⟩
  · rw [hsame]
    exact hthere
  · cases hok.symm.trans hfault
  · rw [harmed, Timers.get?_arm, if_pos rfl]
    rfl

theorem attend_armed {setup : Setup} (id : String) (hscheduled : setup.scheduled = true)
    (hsince : ∃ micros, due.since r.clock = .ok micros) :
    ((r.attend setup id due).2.timers.get? id).isSome = true := by
  rw [r.attend_timers id due setup, if_pos hscheduled]
  exact schedule_armed hsince

end

/-- **What a stage does to the timer of its execution**: a resumption drops it, or cancels it and goes
    on with its serial number until it releases it; an interpreter leaves it alone, or arms one when
    there is none. -/
inductive Rings (timers : Timers) (id : String) : Stage → Next → Timers → Prop where
  | dropped (result : TaskResult) :
      Rings timers id .wake (.done result)
        ((timers.cancel id).release id ((timers.get? id).map Timer.serial))
  | cancelled (stage : Stage) (hrole : stage.role = .resuming)
      (htimer : stage.timer? = (timers.get? id).map Timer.serial) :
      Rings timers id .wake (.stage stage) (timers.cancel id)
  | passed (stage stage' : Stage) (hwaking : stage.role ≠ .waking) (hrole : stage'.role = stage.role)
      (htimer : stage'.timer? = stage.timer?) : Rings timers id stage (.stage stage') timers
  | released (stage : Stage) (next : Next) (hrole : stage.role = .resuming)
      (hnext : ∀ stage', next = .stage stage' → stage'.role = .interpreting) :
      Rings timers id stage next (timers.release id stage.timer?)
  | ended (stage : Stage) (result : TaskResult) (hrole : stage.role = .interpreting) :
      Rings timers id stage (.done result) timers
  | armed (walk : Walk) (node : Node) (message : String) (due : Moment) (result : TaskResult)
      (hfree : timers.get? id = none) :
      Rings timers id (.settle walk node (.suspend message due)) (.done result) (timers.arm id due)

variable {α ε ν : Type} [AutomationStorage α] [ExecutionStorage ε] [Notifier ν]
  {r : Runner α ε ν} {id : String}

/-- No other timer notices. -/
theorem Rings.other {timers timers' : Timers} {stage : Stage} {next : Next}
    (h : Rings timers id stage next timers') {id' : String} (hid : id' ≠ id) :
    timers'.get? id' = timers.get? id' := by
  cases h with
  | dropped result =>
    rw [Timers.release_other _ hid]
    exact (Timers.get?_setPhase _ _ _ _).trans (if_neg hid.symm)
  | cancelled stage hrole htimer => exact (Timers.get?_setPhase _ _ _ _).trans (if_neg hid.symm)
  | passed => rfl
  | released => exact Timers.release_other _ hid _
  | ended => rfl
  | armed => exact (Timers.get?_arm _ _ _ _).trans (if_neg hid.symm)

/-- A resumption that is dropped leaves no timer. -/
theorem dropped_own (timers : Timers) (id : String) :
    ((timers.cancel id).release id ((timers.get? id).map Timer.serial)).get? id = none := by
  have hcancel : (timers.cancel id).get? id =
      (timers.get? id).map fun timer => { timer with phase := .cancelled } :=
    (Timers.get?_setPhase _ _ _ _).trans (if_pos rfl)
  rw [Timers.release_own, hcancel, Option.map_map]
  exact if_pos rfl

omit [Notifier ν] in
theorem stepWake_rings {e : Execution} (he : ExecutionStorage.get r.executions id = some e) :
    Rings r.timers id .wake (r.stepWake id).2 (r.stepWake id).1.timers := by
  unfold stepWake
  simp only [he]
  split
  · exact .dropped _
  · dsimp only [say]
    split
    · exact .dropped _
    · exact .cancelled _ rfl rfl
    · split <;> exact .cancelled _ rfl rfl

variable [LawfulExecutions ε]

/-- What a stage leaves is described by what it does to the timer of its execution. -/
def Handles (timers : Timers) (id : String) (stage : Stage) (out : Runner α ε ν × Next) : Prop :=
  Rings timers id stage out.2 out.1.timers

section

variable {timers : Timers} {stage : Stage} {e : Execution}

omit [AutomationStorage α] [Notifier ν] in
/-- A write of known fields goes through, and what follows it handles the timer. -/
theorem write_handles {fields : List Field} {next : Execution → Runner α ε ν → Runner α ε ν × Next}
    (hs : LawfulExecutions.Sound r.executions) (he : ExecutionStorage.get r.executions id = some e)
    (hfields : ∀ f ∈ fields, ∀ name, f ≠ .unknown name)
    (h : ∀ e s', Handles timers id stage (next e { r with executions := s' })) :
    Handles timers id stage (r.write id fields next) := by
  obtain ⟨s', hs', _⟩ := revises_update hs he (checkFields_of_known hfields)
  unfold write
  rw [hs']
  exact h _ s'

omit [AutomationStorage α] [Notifier ν] in
theorem append_handles {entry : LogEntry} {next : Stage}
    (hs : LawfulExecutions.Sound r.executions) (he : ExecutionStorage.get r.executions id = some e)
    (h : Rings timers id stage (.stage next) r.timers) :
    Handles timers id stage (r.append id entry next) := by
  obtain ⟨s', hs', _⟩ := revises_append hs he entry
  unfold append
  rw [hs']
  exact h

omit [AutomationStorage α] [Notifier ν] in
/-- A suspension arms a timer when there is none. -/
theorem stepSettle_handles {setup : Setup} {walk : Walk} {node : Node} {result : StepResult}
    (hs : LawfulExecutions.Sound r.executions) (he : ExecutionStorage.get r.executions id = some e) :
    Handles r.timers id (.settle walk node result) (r.stepSettle setup id walk node result) := by
  cases result with
  | proceed message next => exact .passed _ _ nofun rfl rfl
  | stuck message error => exact .passed _ _ nofun rfl rfl
  | finish message =>
    have hs' : LawfulExecutions.Sound
      (r.say .info .interpreter s!"Execution {id} completed").executions := hs
    exact write_handles hs' he (by simp) fun _ _ => .ended _ _ rfl
  | suspend message due =>
    refine write_handles hs he (by simp) fun e s' => ?_
    dsimp only
    generalize hsaid : say { r with executions := s' } .info .interpreter
      s!"Execution {id} suspended at {node.id} until {due.render}" = said
    have htimers : said.timers = r.timers := by
      rw [← hsaid]
      rfl
    have hattend := said.attend_timers id due setup
    rw [htimers] at hattend
    have hrings : ∀ result, Rings r.timers id (.settle walk node (.suspend message due))
        (.done result) (said.attend setup id due).2.timers := by
      intro result
      rw [hattend]
      split
      · rcases said.schedule_cases id due with ⟨_, _, h⟩ | ⟨_, _, _, h⟩ | ⟨hfree, _, h⟩
        · rw [h, htimers]
          exact .ended _ _ rfl
        · rw [h, htimers]
          exact .ended _ _ rfl
        · rw [h, htimers]
          exact .armed _ _ _ _ _ (htimers ▸ hfree)
      · exact .ended _ _ rfl
    cases hcase : said.attend setup id due with
    | mk outcome r' =>
      rw [hcase] at hrings
      cases outcome <;> exact hrings _

/-- After a suspension there is a timer, if its moment compares with the clock. -/
theorem stepTask_armed {t : Task} {walk : Walk} {node : Node} {message : String} {due : Moment}
    (hs : LawfulExecutions.Sound r.executions)
    (he : ExecutionStorage.get r.executions t.executionId = some e)
    (hstage : t.stage = .settle walk node (.suspend message due)) (hscheduled : t.setup.scheduled = true)
    (hsince : ∃ micros, due.since r.clock = .ok micros) :
    ((r.stepTask t).1.timers.get? t.executionId).isSome = true := by
  have hfields : checkFields [.status .pending, .currentNode (some node.id),
    .scheduledFor (some due)] = .ok () := checkFields_of_known (by simp)
  obtain ⟨s', hs', _⟩ := revises_update hs he hfields
  unfold stepTask
  rw [hstage]
  show ((r.stepSettle t.setup t.executionId walk node (.suspend message due)).1.timers.get?
    t.executionId).isSome = true
  unfold stepSettle write
  simp only [hs']
  generalize hsaid : say { r with executions := s' } .info .interpreter
    s!"Execution {t.executionId} suspended at {node.id} until {due.render}" = said
  have hclock : said.clock = r.clock := by
    rw [← hsaid]
    rfl
  have harmed := attend_armed (r := said) t.executionId hscheduled (hclock ▸ hsince)
  cases hcase : said.attend t.setup t.executionId due with
  | mk outcome r' =>
    rw [hcase] at harmed
    cases outcome <;> exact harmed

/-- **A stage handles the timer of its execution in one of these ways.** -/
theorem stepTask_rings {t : Task} (hs : LawfulExecutions.Sound r.executions)
    (he : ExecutionStorage.get r.executions t.executionId = some e) :
    Handles r.timers t.executionId t.stage (r.stepTask t) := by
  unfold stepTask
  cases t.stage with
  | enter =>
    show Handles _ _ _ (r.stepEnter t.executionId)
    unfold stepEnter
    rw [he]
    dsimp only
    split
    · exact .ended _ _ rfl
    · exact .passed _ _ nofun rfl rfl
    · split
      · exact .passed _ _ nofun rfl rfl
      · split <;> exact .passed _ _ nofun rfl rfl
  | arrive walk nodeId =>
    show Handles _ _ _ (r.stepArrive t.executionId walk nodeId)
    unfold stepArrive
    split
    · exact .passed _ _ nofun rfl rfl
    · exact write_handles hs he (by simp) fun _ _ => .passed _ _ nofun rfl rfl
  | act walk node =>
    show Handles _ _ _ (r.stepAct t.setup walk node)
    unfold stepAct
    split
    · exact .passed _ _ nofun rfl rfl
    · exact .passed _ _ nofun rfl rfl
    · dsimp only
      split <;> exact .passed _ _ nofun rfl rfl
  | note walk node result => exact append_handles hs he (.passed _ _ nofun rfl rfl)
  | settle walk node result => exact stepSettle_handles hs he
  | failing entry error =>
    cases entry with
    | none => exact .passed _ _ nofun rfl rfl
    | some entry =>
      have hs' : LawfulExecutions.Sound
        (r.say .error .interpreter s!"Execution {t.executionId} failed: {error}").executions := hs
      exact append_handles hs' he (.passed _ _ nofun rfl rfl)
  | closing => exact write_handles hs he (by simp) fun _ _ => .ended _ _ rfl
  | wake => exact stepWake_rings he
  | lost nodeId error timer =>
    have hs' : LawfulExecutions.Sound (r.say .error .scheduler
      s!"Execution {t.executionId} failed on resume: {error}").executions := hs
    have hpassed : Rings r.timers t.executionId (.lost nodeId error timer)
      (.stage (.lostClosing timer)) r.timers := .passed _ _ nofun rfl rfl
    exact append_handles hs' he hpassed
  | lostClosing timer =>
    have hreleased : Rings r.timers t.executionId (.lostClosing timer) (.done (.ok none))
        (r.timers.release t.executionId timer) :=
      .released (.lostClosing timer) _ rfl fun _ h => nomatch h
    exact write_handles hs he (by simp) fun _ _ => hreleased
  | leave target timer =>
    have hreleased : Rings r.timers t.executionId (.leave target timer) (.stage .enter)
        (r.timers.release t.executionId timer) :=
      .released (.leave target timer) _ rfl fun stage' h => by
        cases h
        rfl
    exact write_handles hs he (by simp) fun _ _ => hreleased

end

/-! ## 3. Recovery -/

section

variable {α ε ν : Type} {r : Runner α ε ν} {id : String} {due : Moment} {timer : Timer}

theorem rearm_timers (r : Runner α ε ν) (e : Execution) :
    (r.rearm e).2.timers = (e.scheduledFor.map fun due => (r.schedule e.id due).2.timers).getD r.timers := by
  unfold rearm
  cases e.scheduledFor with
  | none => rfl
  | some due =>
    show _ = (r.schedule e.id due).2.timers
    dsimp only
    cases r.schedule e.id due with
    | mk outcome r' =>
      cases outcome with
      | error fault => rfl
      | ok armed => cases armed <;> rfl

theorem rearm_kept {e : Execution} (h : r.timers.get? id = some timer) :
    (r.rearm e).2.timers.get? id = some timer := by
  rw [rearm_timers]
  cases e.scheduledFor with
  | none => exact h
  | some due => exact schedule_kept h

theorem rearm_origin {e : Execution} (h : (r.rearm e).2.timers.get? id = some timer) :
    r.timers.get? id = some timer ∨
      r.timers.get? id = none ∧ timer.phase = .waiting ∧ e.id = id ∧ e.scheduledFor = some timer.due := by
  rw [rearm_timers] at h
  cases hscheduled : e.scheduledFor with
  | none =>
    rw [hscheduled] at h
    exact .inl h
  | some due =>
    rw [hscheduled] at h
    rcases schedule_origin h with hthere | ⟨hfree, hphase, hid, hdue⟩
    · exact .inl hthere
    · exact .inr ⟨hfree, hphase, hid, congrArg some hdue⟩

theorem rearm_armed {e : Execution} (hscheduled : e.scheduledFor = some due)
    (hsince : ∃ micros, due.since r.clock = .ok micros) :
    ((r.rearm e).2.timers.get? e.id).isSome = true := by
  rw [rearm_timers, hscheduled]
  exact schedule_armed hsince

/-- A record that is scheduled and has no timer counts. -/
theorem rearm_count_free {e : Execution} (hfree : r.timers.get? e.id = none)
    (hscheduled : e.scheduledFor = some due) (hsince : ∃ micros, due.since r.clock = .ok micros) :
    (r.rearm e).1 = 1 := by
  obtain ⟨micros, hok⟩ := hsince
  unfold rearm schedule secondsUntil
  simp only [hscheduled, hfree, hok, Option.isSome_none, Bool.false_eq_true, if_false, Except.map]

/-- A record that has a timer does not count. -/
theorem rearm_count_armed {e : Execution} (hthere : (r.timers.get? e.id).isSome = true) :
    (r.rearm e).1 = 0 := by
  unfold rearm schedule
  cases e.scheduledFor with
  | none => rfl
  | some due => simp only [hthere, if_true]

/-- **A recovery keeps the timers that are there.** -/
theorem rearmAll_kept {es : List Execution} (h : r.timers.get? id = some timer) :
    (r.rearmAll es).2.timers.get? id = some timer := by
  induction es generalizing r with
  | nil => exact h
  | cons e es ih => exact ih (rearm_kept h)

/-- **A timer that a recovery arms** waits for the moment that a record is scheduled for. -/
theorem rearmAll_origin {es : List Execution} (h : (r.rearmAll es).2.timers.get? id = some timer) :
    r.timers.get? id = some timer ∨
      r.timers.get? id = none ∧ timer.phase = .waiting ∧
        ∃ e ∈ es, e.id = id ∧ e.scheduledFor = some timer.due := by
  induction es generalizing r with
  | nil => exact .inl h
  | cons e es ih =>
    rcases ih (r := (r.rearm e).2) h with hthere | ⟨hfree, hphase, e', he', hrecord⟩
    · rcases rearm_origin hthere with hbefore | ⟨hfree, hphase, hrecord⟩
      · exact .inl hbefore
      · exact .inr ⟨hfree, hphase, e, List.mem_cons_self, hrecord⟩
    · cases hbefore : r.timers.get? id with
      | none => exact .inr ⟨rfl, hphase, e', List.mem_cons_of_mem _ he', hrecord⟩
      | some before => cases hfree.symm.trans (rearm_kept hbefore)

/-- **After a recovery every scheduled record has a timer**, if its moment compares with the clock. -/
theorem rearmAll_armed {es : List Execution} {e : Execution} (he : e ∈ es)
    (hscheduled : e.scheduledFor = some due) (hsince : ∃ micros, due.since r.clock = .ok micros) :
    ((r.rearmAll es).2.timers.get? e.id).isSome = true := by
  induction es generalizing r with
  | nil => cases he
  | cons e' es ih =>
    rcases List.mem_cons.mp he with rfl | he
    · obtain ⟨timer, htimer⟩ := Option.isSome_iff_exists.mp (rearm_armed hscheduled hsince)
      have hkept : (r.rearmAll (e :: es)).2.timers.get? e.id = some timer :=
        rearmAll_kept (r := (r.rearm e).2) htimer
      rw [hkept]
      rfl
    · refine ih (r := (r.rearm e').2) he ?_
      rw [(r.rearm_keeps e').2.clock]
      exact hsince

/-- **A recovery counts every scheduled record once** that has no timer. -/
theorem rearmAll_count_free {es : List Execution} (hids : (es.map Execution.id).Nodup)
    (hes : ∀ e ∈ es, r.timers.get? e.id = none ∧
      ∃ due, e.scheduledFor = some due ∧ ∃ micros, due.since r.clock = .ok micros) :
    (r.rearmAll es).1 = es.length := by
  induction es generalizing r with
  | nil => rfl
  | cons e es ih =>
    rw [List.map_cons, List.nodup_cons] at hids
    rw [List.forall_mem_cons] at hes
    obtain ⟨⟨hfree, due, hscheduled, hsince⟩, hlater⟩ := hes
    have hrest : ∀ e' ∈ es, (r.rearm e).2.timers.get? e'.id = none ∧
        ∃ due, e'.scheduledFor = some due ∧ ∃ micros, due.since (r.rearm e).2.clock = .ok micros := by
      intro e' he'
      obtain ⟨hfree', hdue'⟩ := hlater e' he'
      refine ⟨Option.eq_none_iff_forall_not_mem.mpr fun timer htimer => ?_, ?_⟩
      · rcases rearm_origin htimer with hbefore | ⟨_, _, hid, _⟩
        · cases hfree'.symm.trans hbefore
        · exact hids.1 (hid ▸ List.mem_map_of_mem he')
      · rw [(r.rearm_keeps e).2.clock]
        exact hdue'
    show (r.rearm e).1 + ((r.rearm e).2.rearmAll es).1 = es.length + 1
    rw [rearm_count_free hfree hscheduled hsince, ih hids.2 hrest, Nat.add_comm]

/-- A recovery counts no record that has a timer. -/
theorem rearmAll_count_armed {es : List Execution}
    (hes : ∀ e ∈ es, (r.timers.get? e.id).isSome = true) : (r.rearmAll es).1 = 0 := by
  induction es generalizing r with
  | nil => rfl
  | cons e es ih =>
    rw [List.forall_mem_cons] at hes
    show (r.rearm e).1 + ((r.rearm e).2.rearmAll es).1 = 0
    rw [rearm_count_armed hes.1, Nat.zero_add]
    refine ih fun e' he' => ?_
    obtain ⟨timer, htimer⟩ := Option.isSome_iff_exists.mp (hes.2 e' he')
    exact Option.isSome_iff_exists.mpr ⟨timer, rearm_kept htimer⟩

end

section

variable {α ε ν : Type} [ExecutionStorage ε] [LawfulExecutions ε] {r : Runner α ε ν} {id : String}
  {timer : Timer}

omit [LawfulExecutions ε] in
theorem recover_kept (h : r.timers.get? id = some timer) :
    r.recover.2.timers.get? id = some timer :=
  rearmAll_kept (r := r.say _ _ _) h

/-- **What a recovery arms** is due when a suspended record says. -/
theorem recover_origin (hs : LawfulExecutions.Sound r.executions)
    (h : r.recover.2.timers.get? id = some timer) :
    r.timers.get? id = some timer ∨
      r.timers.get? id = none ∧ timer.phase = .waiting ∧
        ∃ e, ExecutionStorage.get r.executions id = some e ∧ e.isSuspended = true ∧
          e.scheduledFor = some timer.due := by
  rcases rearmAll_origin (r := r.say _ _ _) h with hthere | ⟨hfree, hphase, e, he, rfl, hdue⟩
  · exact .inl hthere
  · obtain ⟨hget, hsuspended⟩ := (LawfulExecutions.mem_listScheduled e hs).mp he
    exact .inr ⟨hfree, hphase, e, hget, hsuspended, hdue⟩

/-- **After a recovery every suspended record has a timer**, if its moment compares with the clock. -/
theorem recover_armed (hs : LawfulExecutions.Sound r.executions) {e : Execution} {due : Moment}
    (he : ExecutionStorage.get r.executions id = some e) (hsuspended : e.isSuspended = true)
    (hscheduled : e.scheduledFor = some due) (hsince : ∃ micros, due.since r.clock = .ok micros) :
    (r.recover.2.timers.get? id).isSome = true := by
  have hid := LawfulExecutions.id_of_get hs he
  have hmem : e ∈ ExecutionStorage.listScheduled r.executions :=
    (LawfulExecutions.mem_listScheduled e hs).mpr ⟨hid ▸ he, hsuspended⟩
  rw [← hid]
  exact rearmAll_armed (r := r.say _ _ _) hmem hscheduled hsince

end

/-- An execution that is started handles no timer, and takes no time. -/
theorem start_timers {α ε ν : Type} [AutomationStorage α] [ExecutionStorage ε]
    (r : Runner α ε ν) (automationId : String) (subject : Option String) :
    (r.start automationId subject).2.timers = r.timers ∧
      (r.start automationId subject).2.clock = r.clock := by
  unfold start
  split
  · exact ⟨rfl, rfl⟩
  · split
    · exact ⟨rfl, rfl⟩
    · exact ⟨rfl, rfl⟩
    · split
      · exact ⟨rfl, rfl⟩
      · exact ⟨rfl, rfl⟩
      · dsimp only
        split <;> exact ⟨rfl, rfl⟩

end Runner

end Dripline
