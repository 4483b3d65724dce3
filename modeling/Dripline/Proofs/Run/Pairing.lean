import Dripline.Proofs.Run.Timing

/-!
# Timers and resumptions

A timer that fires hands its execution over to a resumption, and is released by it:

* `Session.Pairs`: a resumption that is past its reading carries the serial number of the timer that it
  will release, and a timer that waits no longer has a resumption on its way;
* `Session.Attended`: every resumption that is past its reading has a timer to release;
* `Pairs.of_turn`: a turn of the execution's own task, by what it does to the timer;
* **`Pairs.apply`**: one event at a time, whatever the records say, as long as resumptions do not race.
  Only a recovery has to find resumptions attended, since it arms a timer where there is none.
-/

namespace Dripline

/-- An event that arms timers for executions that were suspended before. -/
def Event.Arms {α ν : Type} : Event α ν → Prop
  | .recover => True
  | .rearm _ => True
  | _ => False

namespace Session

/-! ## 1. Pairs -/

section

variable {α ε ν : Type} {s s' : Session α ε ν} {id : String}

/-- **The timer and the resumption of an execution go together.** -/
structure Pairs (s : Session α ε ν) (id : String) : Prop where
  carried : ∀ t ∈ s.runner.queue, t.executionId = id → t.stage.role = .resuming →
    ∀ timer, s.runner.timers.get? id = some timer →
      t.stage.timer? = some timer.serial ∧ timer.phase ≠ .waiting
  awaited : ∀ timer, s.runner.timers.get? id = some timer → timer.phase ≠ .waiting →
    ∃ t ∈ s.runner.queue, t.executionId = id ∧ t.stage.role ≠ .interpreting

/-- Every resumption of an execution that is on its way has a timer to release. -/
def Attended (s : Session α ε ν) (id : String) : Prop :=
  ∀ t ∈ s.runner.queue, t.executionId = id → t.stage.role = .resuming →
    (s.runner.timers.get? id).isSome = true

theorem Pairs.of_none (h : s.runner.timers.get? id = none) : s.Pairs id where
  carried _ _ _ _ _ htimer := nomatch h.symm.trans htimer
  awaited _ htimer := nomatch h.symm.trans htimer

/-- What passes an execution by: its timer is what it was, and so are the tasks that resume it, but for
    new ones that have not begun. -/
theorem Pairs.of_same (h : s.Pairs id)
    (htimers : s'.runner.timers.get? id = s.runner.timers.get? id)
    (hkept : ∀ t ∈ s.runner.queue, t.executionId = id → t ∈ s'.runner.queue)
    (hnew : ∀ t ∈ s'.runner.queue, t.executionId = id → t ∈ s.runner.queue ∨
      t.stage.role ≠ .resuming) : s'.Pairs id where
  carried t ht hid hrole timer htimer := by
    rcases hnew t ht hid with ht | hother
    · exact h.carried t ht hid hrole timer (htimers ▸ htimer)
    · exact absurd hrole hother
  awaited timer htimer hphase := by
    obtain ⟨t, ht, hid, hrole⟩ := h.awaited timer (htimers ▸ htimer) hphase
    exact ⟨t, hkept t ht hid, hid, hrole⟩

/-- One more task that has not begun. -/
theorem Pairs.of_queued (h : s.Pairs id) {t : Task} (htimers : s'.runner.timers = s.runner.timers)
    (hqueue : s'.runner.queue = s.runner.queue ++ [t]) (hrole : t.stage.role ≠ .resuming) :
    s'.Pairs id := by
  refine h.of_same (by rw [htimers]) (fun t' ht' _ => ?_) fun t' ht' _ => ?_
  · rw [hqueue]
    exact List.mem_append_left _ ht'
  · rw [hqueue, List.mem_append, List.mem_singleton] at ht'
    rcases ht' with ht' | rfl
    · exact .inl ht'
    · exact .inr hrole

end

/-! ## 2. Turns -/

variable {α ε ν : Type} [AutomationStorage α] [ExecutionStorage ε] [Notifier ν]
  [LawfulExecutions ε] {s s' : Session α ε ν} {id : String} {t : Task}
  {before after : List Task} {e e' : Execution}

namespace TakesTurn

theorem rings (hgo : s.TakesTurn s' t before after e e') (ho : s.IsSound) :
    Runner.Rings s.runner.timers t.executionId t.stage (s.runner.stepTask t).2 s'.runner.timers := by
  rw [hgo.timers]
  exact Runner.stepTask_rings ho.sound hgo.found

/-- A task that goes on is queued at its next stage. -/
theorem mem_of_stage (hgo : s.TakesTurn s' t before after e e') {stage : Stage}
    (hstage : (s.runner.stepTask t).2 = .stage stage) :
    { t with stage := stage } ∈ s'.runner.queue := by
  rcases hgo.queued with ⟨stage', hstage', hq⟩ | ⟨result, hdone, _⟩
  · cases hstage.symm.trans hstage'
    rw [hq]
    exact List.mem_append_right _ List.mem_cons_self
  · cases hstage.symm.trans hdone

/-- A task whose role is another one is still queued after the turn. -/
theorem mem_of_role (hgo : s.TakesTurn s' t before after e e') {t' : Task}
    (ht' : t' ∈ s.runner.queue) (hrole : t'.stage.role ≠ t.stage.role) : t' ∈ s'.runner.queue := by
  rcases hgo.eq_or_mem ht' with rfl | ht'
  · exact absurd rfl hrole
  · exact hgo.mem_of_stayed ht'

/-- **A resumption ends or is handed on** when its execution is being interpreted: nobody resumes it. -/
theorem not_resuming (hgo : s.TakesTurn s' t before after e e') (ho : s.IsOrderly)
    (hrole : t.stage.role = .interpreting)
    (hnext : ∀ stage, (s.runner.stepTask t).2 = .stage stage → stage.role = .interpreting) {t' : Task}
    (ht' : t' ∈ s'.runner.queue) (hid : t'.executionId = t.executionId) :
    t'.stage.role ≠ .resuming := by
  intro hresuming
  rcases hgo.mem_queued ht' with ht' | ⟨stage, hstage, rfl⟩
  · exact (hgo.apart ho).1 t' ht' (Task.holds_of_interpreting hrole) (Task.holds_of_resuming hresuming)
      hid.symm
  · cases (hnext stage hstage).symm.trans hresuming

end TakesTurn

/-- When a task goes on, it is the only one that holds its execution. -/
theorem GoesAlone.eq_of_holds (hgo : s.GoesAlone s' t before after e e') (ho : s.IsOrderly)
    {stage : Stage} (hstage : (s.runner.stepTask t).2 = .stage stage) {t' : Task}
    (ht' : t' ∈ s'.runner.queue) (hid : t'.executionId = t.executionId) (hholds : t'.Holds) :
    t' = { t with stage := stage } := by
  rcases hgo.mem_queued ht' with ht' | ⟨stage', hstage', rfl⟩
  · exact absurd hid (hgo.apart_of_stage ho hstage ht' hholds)
  · cases hstage.symm.trans hstage'
    rfl

/-- A task on its way past the delay goes on with the timer that it will release. -/
theorem Pairs.of_resuming (ho : s.IsOrderly) (hgo : s.GoesAlone s' t before after e e')
    {stage : Stage} (hstage : (s.runner.stepTask t).2 = .stage stage) (hrole : stage.role = .resuming)
    (htimers : ∀ timer, s'.runner.timers.get? t.executionId = some timer →
      stage.timer? = some timer.serial ∧ timer.phase ≠ .waiting) : s'.Pairs t.executionId where
  carried t' ht' hid hrole' timer htimer := by
    rw [hgo.eq_of_holds ho hstage ht' hid (Task.holds_of_resuming hrole')]
    exact htimers timer htimer
  awaited _ _ _ := by
    refine ⟨_, hgo.mem_of_stage hstage, rfl, ?_⟩
    show stage.role ≠ .interpreting
    rw [hrole]
    decide

/-- A task that interprets keeps the pair as it is, if its timer is the same or a new one. -/
theorem Pairs.of_interpreting (ho : s.IsOrderly) (h : s.Pairs t.executionId)
    (hgo : s.TakesTurn s' t before after e e') (hrole : t.stage.role = .interpreting)
    (hnext : ∀ stage, (s.runner.stepTask t).2 = .stage stage → stage.role = .interpreting)
    (htimers : ∀ timer, s'.runner.timers.get? t.executionId = some timer →
      timer.phase = .waiting ∨ s.runner.timers.get? t.executionId = some timer) :
    s'.Pairs t.executionId where
  carried t' ht' hid hrole' := absurd hrole' (hgo.not_resuming ho hrole hnext ht' hid)
  awaited timer htimer hphase := by
    rcases htimers timer htimer with hwaiting | hold
    · exact absurd hwaiting hphase
    · obtain ⟨t', ht', hid, hother⟩ := h.awaited timer hold hphase
      exact ⟨t', hgo.mem_of_role ht' (hrole ▸ hother), hid, hother⟩

/-- **A turn of the execution's own task** keeps its timer and its resumption together. -/
theorem Pairs.of_turn (ho : s.IsOrderly) (h : s.Pairs t.executionId)
    (hgo : s.GoesAlone s' t before after e e') : s'.Pairs t.executionId := by
  have hrings := hgo.rings ho.toIsSound
  have hcarried := h.carried t hgo.mem rfl
  have hinterpreting := Pairs.of_interpreting ho h hgo.toTakesTurn
  generalize hnext : (s.runner.stepTask t).2 = next at hrings hinterpreting
  generalize htimers : s'.runner.timers = timers at hrings
  generalize t.stage = stage at hrings hcarried hinterpreting
  cases hrings with
  | dropped result => exact .of_none (by rw [htimers]; exact Runner.dropped_own _ _)
  | cancelled stage' hrole htimer =>
    refine .of_resuming ho hgo hnext hrole fun timer h' => ?_
    rw [htimers, Timers.cancel, Timers.get?_setPhase, if_pos rfl, Option.map_eq_some_iff] at h'
    obtain ⟨armed, harmed, rfl⟩ := h'
    rw [harmed] at htimer
    exact ⟨htimer, nofun⟩
  | passed _ stage' hwaking hrole htimer =>
    cases hrole' : stage.role with
    | waking => exact absurd hrole' hwaking
    | interpreting =>
      refine hinterpreting hrole' ?_ fun timer h' => .inr ?_
      · rintro _ ⟨rfl⟩
        exact hrole.trans hrole'
      · rwa [htimers] at h'
    | resuming =>
      refine .of_resuming ho hgo hnext (hrole.trans hrole') fun timer h' => ?_
      rw [htimers] at h'
      obtain ⟨hserial, hphase⟩ := hcarried hrole' timer h'
      exact ⟨htimer.trans hserial, hphase⟩
  | released _ _ hrole _ =>
    refine .of_none ?_
    rw [htimers, Timers.release_own]
    cases htimer : s.runner.timers.get? t.executionId with
    | none => exact ite_self none
    | some timer => rw [(hcarried hrole timer htimer).1]; exact if_pos rfl
  | ended _ result hrole =>
    refine hinterpreting hrole (fun _ h => nomatch h) fun timer h' => .inr ?_
    rwa [htimers] at h'
  | armed walk node message due result _ =>
    refine hinterpreting rfl (fun _ h => nomatch h) fun timer h' => .inl ?_
    rw [htimers, Timers.get?_arm, if_pos rfl] at h'
    cases h'
    rfl

/-- A turn of a task for another execution passes this one by. -/
theorem Pairs.of_other (h : s.Pairs id) (hgo : s.TakesTurn s' t before after e e')
    (ho : s.IsSound) (hid : id ≠ t.executionId) : s'.Pairs id := by
  refine h.of_same ((hgo.rings ho).other hid) (fun t' ht' hid' => ?_) fun t' ht' hid' => .inl ?_
  · exact (hgo.mem_iff_of_other (hid'.trans_ne hid)).mpr ht'
  · exact (hgo.mem_iff_of_other (hid'.trans_ne hid)).mp ht'

omit [AutomationStorage α] [Notifier ν] [LawfulExecutions ε] in
/-- A resumption that is dropped for want of a record leaves no timer. -/
theorem DropsWake.timers_own (hdrop : s.DropsWake s' t before after) :
    s'.runner.timers.get? t.executionId = none := by
  rw [hdrop.timers]
  exact Runner.dropped_own _ _

omit [AutomationStorage α] [Notifier ν] [LawfulExecutions ε] in
/-- The timers of other executions do not notice that a resumption is dropped. -/
theorem DropsWake.timers_other (hdrop : s.DropsWake s' t before after) (hid : id ≠ t.executionId) :
    s'.runner.timers.get? id = s.runner.timers.get? id := by
  rw [hdrop.timers, Timers.release_other _ hid, Timers.cancel, Timers.get?_setPhase,
    if_neg (Ne.symm hid)]

omit [AutomationStorage α] [Notifier ν] [LawfulExecutions ε] in
theorem Pairs.of_dropped (h : s.Pairs id) (hdrop : s.DropsWake s' t before after) : s'.Pairs id := by
  by_cases hid : id = t.executionId
  · exact .of_none (hid ▸ hdrop.timers_own)
  · refine h.of_same (hdrop.timers_other hid) (fun t' ht' hid' => (hdrop.mem_iff ?_).mpr ht')
      fun t' ht' _ => .inl (hdrop.mem_of_queued ht')
    rintro rfl
    exact hid hid'.symm

/-! ## 3. Events -/

omit [LawfulExecutions ε] in
/-- A timer that fires is known to have fired, and a resumption is on its way. -/
theorem Pairs.fire (h : s.Pairs id) (other : String) : (s.apply (.fire other)).Pairs id := by
  have hkept : ∀ t ∈ s.runner.queue, t ∈ (s.apply (.fire other)).runner.queue :=
    fun t ht => List.mem_append_left _ ht
  have hnew : ∀ t ∈ (s.apply (.fire other)).runner.queue, t ∈ s.runner.queue ∨
      t = ⟨other, .fired, s.runner.setup, .wake⟩ := fun t ht => by
    rcases List.mem_append.mp ht with ht | ht
    · exact .inl ht
    · exact .inr (List.mem_singleton.mp ht)
  by_cases hid : other = id
  · subst hid
    have hown : (s.apply (.fire other)).runner.timers.get? other =
        (s.runner.timers.get? other).map fun timer => { timer with phase := .fired } :=
      (Timers.get?_setPhase _ _ _ _).trans (if_pos rfl)
    refine ⟨fun t ht hid hrole timer htimer => ?_, fun _ _ _ =>
      ⟨_, List.mem_append_right _ (List.mem_singleton_self _), rfl, nofun⟩⟩
    rw [hown, Option.map_eq_some_iff] at htimer
    obtain ⟨armed, harmed, rfl⟩ := htimer
    rcases hnew t ht with ht | rfl
    · exact ⟨(h.carried t ht hid hrole armed harmed).1, nofun⟩
    · cases hrole
  · refine h.of_same ((Timers.get?_setPhase _ _ _ _).trans (if_neg hid))
      (fun t ht _ => hkept t ht) fun t ht hid' => ?_
    rcases hnew t ht with ht | rfl
    · exact .inl ht
    · exact absurd hid' hid

omit [AutomationStorage α] [ExecutionStorage ε] [Notifier ν] [LawfulExecutions ε] in
/-- Where the timers that are there are kept, and the new ones wait, timers and resumptions stay together
    if no resumption is on its way without a timer. -/
theorem Pairs.of_armed (h : s.Pairs id) (hattended : s.Attended id)
    (hqueue : s'.runner.queue = s.runner.queue)
    (hkept : ∀ timer, s.runner.timers.get? id = some timer → s'.runner.timers.get? id = some timer)
    (hnew : ∀ timer, s'.runner.timers.get? id = some timer →
      s.runner.timers.get? id = some timer ∨ timer.phase = .waiting) : s'.Pairs id := by
  refine ⟨fun t ht hid hrole timer htimer => ?_, fun timer htimer hphase => ?_⟩
  · rw [hqueue] at ht
    obtain ⟨old, hold⟩ := Option.isSome_iff_exists.mp (hattended t ht hid hrole)
    cases (hkept old hold).symm.trans htimer
    exact h.carried t ht hid hrole timer hold
  · rw [hqueue]
    exact h.awaited timer ((hnew timer htimer).resolve_right hphase) hphase

omit [LawfulExecutions ε] in
/-- A recovery keeps the timers that are there, and the ones that it arms wait, whatever it has
    listed. -/
theorem Pairs.rearm (h : s.Pairs id) (hattended : s.Attended id) (listed : List Execution) :
    (s.apply (.rearm listed)).Pairs id :=
  h.of_armed hattended (s.runner.rearmAll_keeps listed).2.queue (fun _ => Runner.rearmAll_kept)
    fun _ htimer => (Runner.rearmAll_origin htimer).imp_right fun ⟨_, hwaiting, _⟩ => hwaiting

/-- A recovery that lists what is suspended now. -/
theorem Pairs.recover (ho : s.IsSound) (h : s.Pairs id) (hattended : s.Attended id) :
    (s.apply .recover).Pairs id :=
  h.of_armed hattended s.runner.recover_keeps.2.queue (fun _ => Runner.recover_kept)
    fun _ htimer => (Runner.recover_origin ho.sound htimer).imp_right fun ⟨_, hwaiting, _⟩ => hwaiting

/-- **Every event without a race keeps timers and resumptions together.** A recovery does so as long as no
    resumption is on its way without a timer, whatever it has listed. -/
theorem Pairs.apply (ho : s.IsOrderly) (h : s.Pairs id) {event : Event α ν}
    (hrace : s.races event = false) (hrecover : event.Arms → s.Attended id) :
    (s.apply event).Pairs id := by
  cases event with
  | start automationId subject =>
    show Pairs ⟨(s.runner.start automationId subject).2, s.sent⟩ id
    rcases Runner.start_cases ho.sound ho.free automationId subject with
      ⟨_, hsame⟩ | ⟨a, address, _, _, _, _, hbegan⟩
    · rw [hsame]
      exact h
    · exact h.of_queued (s.runner.start_timers automationId subject).1 hbegan.queue nofun
  | author automations drawn => exact h.of_same rfl (fun _ ht _ => ht) fun _ ht _ => .inl ht
  | equip notifier previewChars recentLimit =>
    exact h.of_same rfl (fun _ ht _ => ht) fun _ ht _ => .inl ht
  | clock now => exact h.of_same rfl (fun _ ht _ => ht) fun _ ht _ => .inl ht
  | fire other => exact h.fire other
  | resume other => exact h.of_queued rfl rfl nofun
  | recover => exact h.recover ho.toIsSound (hrecover trivial)
  | rearm listed => exact h.rearm (hrecover trivial) listed
  | disarm => exact .of_none rfl
  | go place =>
    rcases apply_go_alone_cases ho.sound ho.exists_of_held hrace with
      hnone | ⟨t, before, after, hdrop⟩ | ⟨t, before, after, e, e', hgo⟩
    · rw [hnone]
      exact h
    · exact h.of_dropped hdrop
    · by_cases hid : id = t.executionId
      · subst hid
        exact h.of_turn ho hgo
      · exact h.of_other hgo.toTakesTurn ho.toIsSound hid
  | reopen =>
    rcases s.apply_reopen_cases with hnone | ⟨_, hnew⟩
    · rw [hnone]
      exact h
    · rw [hnew]
      exact .of_none rfl
  | crash => exact .of_none rfl

end Session

end Dripline
