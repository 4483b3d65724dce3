import Dripline.Proofs.Run.Timing

/-!
# Where resumptions come from timers alone

A resumption that nobody asked for comes from a timer that waited. Such resumptions do not overlap:

* `Session.Rung`, `Session.RungThroughout`: events and runs in which timers fire while they wait, no
  resumption is asked for, and timers are disarmed by the end of their process only;
* `OneByOne`: the invariant. At most one resumption of an execution is under way, and the entry of its
  timer stays in the registry and waits no more, so that no second one is armed;
* `OneByOne.apply`, `IsRung.oneByOne`: every such event keeps it, and so does every run of them;
* **`raceFree_of_rung`**: no resumption overlaps another one in any such run, whatever crashes.

A resumption that is asked for finds no such entry to stop it, nor does one whose timer was disarmed while
it is under way: that is how races come about.
-/

namespace Dripline

/-- A task on its way past a delay, from its beginning on. -/
def Task.Resumes (t : Task) : Prop := t.stage.role ≠ .interpreting

theorem Task.resumes_of_waking (t : Task) (h : t.stage.role = .waking) : t.Resumes := by
  unfold Task.Resumes
  rw [h]
  decide

theorem Task.resumes_of_resuming (t : Task) (h : t.stage.role = .resuming) : t.Resumes := by
  unfold Task.Resumes
  rw [h]
  decide

/-- Two tasks do not resume the same execution. -/
def Task.ResumesApart (t t' : Task) : Prop :=
  t.Resumes → t'.Resumes → t.executionId ≠ t'.executionId

theorem Task.ResumesApart.symm {t t' : Task} (h : t.ResumesApart t') : t'.ResumesApart t :=
  fun ht' ht e => h ht ht' e.symm

namespace Runner

variable {timers timers' : Timers} {id : String} {stage stage' : Stage} {next : Next}

/-- A task resumes when it resumed before. -/
theorem Rings.resumes_before (h : Rings timers id stage (.stage stage') timers')
    (hrole : stage'.role ≠ .interpreting) : stage.role ≠ .interpreting := by
  cases h with
  | cancelled => exact nofun
  | passed _ _ _ hsame => exact hsame ▸ hrole
  | released _ _ _ hnext => exact absurd (hnext stage' rfl) hrole

/-- While a task resumes, its timer waits no more. -/
theorem Rings.own_kept (h : Rings timers id stage (.stage stage') timers')
    (hrole : stage'.role ≠ .interpreting)
    (hthere : ∃ timer, timers.get? id = some timer ∧ timer.phase ≠ .waiting) :
    ∃ timer, timers'.get? id = some timer ∧ timer.phase ≠ .waiting := by
  cases h with
  | cancelled =>
    obtain ⟨timer, htimer, _⟩ := hthere
    refine ⟨{ timer with phase := .cancelled }, ?_, nofun⟩
    show (timers.setPhase id .cancelled).get? id = _
    rw [Timers.get?_setPhase, if_pos rfl, htimer]
    rfl
  | passed => exact hthere
  | released _ _ _ hnext => exact absurd (hnext stage' rfl) hrole

/-- A task that interprets leaves a timer alone that is there. -/
theorem Rings.same_of_interpreting (h : Rings timers id stage next timers')
    (hrole : stage.role = .interpreting) {timer : Timer} (hthere : timers.get? id = some timer) :
    timers' = timers := by
  cases h with
  | dropped => cases hrole
  | cancelled => cases hrole
  | passed => rfl
  | released _ _ hresuming => cases hrole.symm.trans hresuming
  | ended => rfl
  | armed _ _ _ _ _ hfree => cases hfree.symm.trans hthere

end Runner

namespace Session

variable {α ε ν : Type} {s s' : Session α ε ν}

/-- An event in which no resumption is asked for, and a timer fires while it waits. -/
def Rung (s : Session α ε ν) : Event α ν → Prop
  | .fire id => ∃ timer, s.runner.timers.get? id = some timer ∧ timer.phase = .waiting
  | .resume _ => False
  | .disarm => False
  | _ => True

/-- A run of such events. -/
def RungThroughout [AutomationStorage α] [ExecutionStorage ε] [Notifier ν] (s : Session α ε ν)
    (events : List (Event α ν)) : Prop := s.Throughout Rung events

/-- **Resumptions one by one**: no execution has two of them, and the timer of the one that it has is in
    the registry and waits no more. -/
structure OneByOne (s : Session α ε ν) : Prop where
  apart : s.runner.queue.Pairwise Task.ResumesApart
  rung : ∀ t ∈ s.runner.queue, t.Resumes →
    ∃ timer, s.runner.timers.get? t.executionId = some timer ∧ timer.phase ≠ .waiting

/-- The task that begins does not race. -/
theorem OneByOne.races_eq_false (h : s.OneByOne) (event : Event α ν) : s.races event = false := by
  cases event with
  | go place =>
    show s.runner.queue[place]?.any s.runner.races = false
    cases hplace : s.runner.queue[place]? with
    | none => rfl
    | some t =>
      refine Runner.races_eq_false_iff.mpr fun hrole t' ht' hid hrole' => ?_
      obtain ⟨before, after, hqueue⟩ := List.append_of_mem (List.mem_of_getElem? hplace)
      have happart := h.apart
      rw [hqueue, List.pairwise_middle Task.ResumesApart.symm, List.pairwise_cons] at happart
      have hother : t' ∈ before ++ after := by
        rw [hqueue, List.mem_append, List.mem_cons, or_left_comm] at ht'
        refine List.mem_append.mpr (ht'.resolve_left ?_)
        rintro rfl
        cases hrole.symm.trans hrole'
      exact happart.1 t' hother (t.resumes_of_waking hrole) (t'.resumes_of_resuming hrole') hid.symm
  | _ => rfl

/-- Events that keep the timers which are there add no resumption. -/
theorem OneByOne.of_kept (h : s.OneByOne)
    (hkept : ∀ id timer, s.runner.timers.get? id = some timer →
      s'.runner.timers.get? id = some timer)
    (hqueue : s'.runner.queue = s.runner.queue) : s'.OneByOne where
  apart := hqueue ▸ h.apart
  rung t ht hresumes := by
    obtain ⟨timer, htimer, hphase⟩ := h.rung t (hqueue ▸ ht) hresumes
    exact ⟨timer, hkept _ timer htimer, hphase⟩

/-- The tasks that are left resume one by one when their timers are what they were. -/
theorem OneByOne.of_sublist (h : s.OneByOne) (hqueue : s'.runner.queue.Sublist s.runner.queue)
    (htimers : ∀ t ∈ s'.runner.queue, t.Resumes →
      s'.runner.timers.get? t.executionId = s.runner.timers.get? t.executionId) : s'.OneByOne where
  apart := h.apart.sublist hqueue
  rung t ht hresumes := by
    rw [htimers t ht hresumes]
    exact h.rung t (hqueue.subset ht) hresumes

/-- The timer of an execution fires, and its resumption is queued. -/
theorem OneByOne.fire (h : s.OneByOne) {id : String} {timer : Timer}
    (htimer : s.runner.timers.get? id = some timer) (hphase : timer.phase = .waiting) :
    OneByOne ⟨s.runner.fire id, s.sent⟩ := by
  have hfree : ∀ t ∈ s.runner.queue, t.Resumes → t.executionId ≠ id := by
    rintro t ht hresumes rfl
    obtain ⟨timer', htimer', hphase'⟩ := h.rung t ht hresumes
    cases htimer.symm.trans htimer'
    exact hphase' hphase
  have hphases : ∀ id', (s.runner.fire id).timers.get? id' =
      if id = id' then (s.runner.timers.get? id).map fun timer => { timer with phase := .fired }
      else s.runner.timers.get? id' := fun id' => Timers.get?_setPhase _ _ _ _
  refine ⟨?_, fun t ht hresumes => ?_⟩
  · show (s.runner.queue ++ [_]).Pairwise Task.ResumesApart
    rw [List.pairwise_append]
    refine ⟨h.apart, List.pairwise_singleton _ _, fun t ht u hu hresumes _ => ?_⟩
    rw [List.mem_singleton.mp hu]
    exact hfree t ht hresumes
  · rw [hphases]
    rcases List.mem_append.mp ht with ht | ht
    · rw [if_neg (hfree t ht hresumes).symm]
      exact h.rung t ht hresumes
    · rw [List.mem_singleton.mp ht, if_pos rfl, htimer]
      exact ⟨_, rfl, nofun⟩

variable [AutomationStorage α] [ExecutionStorage ε] [Notifier ν] [LawfulExecutions ε]

/-- **A turn**: a resumption keeps the entry of its timer until it lets it go, and goes on as no resumption
    from then on. -/
theorem OneByOne.of_turn {t : Task} {before after : List Task} {e e' : Execution} (hs : s.IsSound)
    (h : s.OneByOne) (hgo : s.TakesTurn s' t before after e e') : s'.OneByOne := by
  have hrings := Runner.stepTask_rings (t := t) hs.sound hgo.found
  unfold Runner.Handles at hrings
  rw [← hgo.timers] at hrings
  have happart := h.apart
  rw [hgo.queue, List.pairwise_middle Task.ResumesApart.symm, List.pairwise_cons] at happart
  have hothers : ∀ t' ∈ before ++ after, t'.Resumes →
      ∃ timer, s'.runner.timers.get? t'.executionId = some timer ∧ timer.phase ≠ .waiting := by
    intro t' ht' hresumes'
    obtain ⟨timer, htimer, hphase⟩ := h.rung t' (hgo.mem_of_other ht') hresumes'
    refine ⟨timer, ?_, hphase⟩
    by_cases hid : t'.executionId = t.executionId
    · -- this one interprets, since no two resume, and finds the entry of that resumption
      have hrole : t.stage.role = .interpreting :=
        not_not.mp fun hresumes => happart.1 t' ht' hresumes hresumes' hid.symm
      rw [hid] at htimer ⊢
      rw [hrings.same_of_interpreting hrole htimer, htimer]
    · rw [hrings.other hid, htimer]
  rcases hgo.queued with ⟨stage, hstage, hq⟩ | ⟨_, _, hq⟩
  · rw [hstage] at hrings
    refine ⟨?_, fun t' ht' hresumes => ?_⟩
    · rw [hq, List.pairwise_middle Task.ResumesApart.symm, List.pairwise_cons]
      exact ⟨fun t' ht' hresumes => happart.1 t' ht' (hrings.resumes_before hresumes), happart.2⟩
    · rw [hq, List.mem_append, List.mem_cons, or_left_comm, ← List.mem_append] at ht'
      rcases ht' with rfl | ht'
      · exact hrings.own_kept hresumes (h.rung t hgo.mem (hrings.resumes_before hresumes))
      · exact hothers t' ht' hresumes
  · exact ⟨hq ▸ happart.2, fun t' ht' => hothers t' (hq ▸ ht')⟩

omit [AutomationStorage α] [Notifier ν] in
/-- An execution begins, whose task is no resumption. -/
theorem OneByOne.of_began {r : Runner α ε ν} {e : Execution} (h : s.OneByOne) (hbegan : s.runner.Began r e)
    (htimers : r.timers = s.runner.timers) : OneByOne ⟨r, s.sent⟩ where
  apart := by
    show r.queue.Pairwise Task.ResumesApart
    rw [hbegan.queue, List.pairwise_append]
    refine ⟨h.apart, List.pairwise_singleton _ _, fun t _ u hu _ hresumes => ?_⟩
    rw [List.mem_singleton.mp hu] at hresumes
    exact absurd rfl hresumes
  rung t ht hresumes := by
    have ht' : t ∈ r.queue := ht
    rw [hbegan.queue, List.mem_append, List.mem_singleton] at ht'
    show ∃ timer, r.timers.get? t.executionId = some timer ∧ timer.phase ≠ .waiting
    rw [htimers]
    rcases ht' with ht' | rfl
    · exact h.rung t ht' hresumes
    · exact absurd rfl hresumes

omit [AutomationStorage α] [Notifier ν] [LawfulExecutions ε] in
/-- A resumption that finds nothing to do is dropped, and its timer is let go. -/
theorem OneByOne.of_dropped {t : Task} {before after : List Task} (h : s.OneByOne)
    (hdrop : s.DropsWake s' t before after) : s'.OneByOne := by
  have happart := h.apart
  rw [hdrop.queue, List.pairwise_middle Task.ResumesApart.symm, List.pairwise_cons] at happart
  have hresumes := t.resumes_of_waking hdrop.waking
  refine h.of_sublist ?_ fun t' ht' hresumes' => ?_
  · rw [hdrop.queue, hdrop.queued]
    exact (List.Sublist.refl before).append (List.sublist_cons_self t after)
  · rw [hdrop.queued] at ht'
    have hid : t'.executionId ≠ t.executionId := fun hid =>
      happart.1 t' ht' hresumes hresumes' hid.symm
    rw [hdrop.timers, Timers.release_other _ hid]
    exact (Timers.get?_setPhase _ _ _ _).trans (if_neg hid.symm)

/-- **Every such event keeps resumptions one by one.** -/
theorem OneByOne.apply (hs : s.IsSound) (h : s.OneByOne) {event : Event α ν} (hrung : s.Rung event) :
    (s.apply event).OneByOne := by
  cases event with
  | start id subject =>
    show OneByOne ⟨(s.runner.start id subject).2, s.sent⟩
    rcases Runner.start_cases hs.sound hs.free id subject with
      ⟨_, hsame⟩ | ⟨a, address, _, _, _, _, hbegan⟩
    · rw [hsame]
      exact h
    · exact h.of_began hbegan (s.runner.start_timers id subject).1
  | author automations drawn => exact h.of_kept (fun _ _ h => h) rfl
  | equip notifier previewChars recentLimit => exact h.of_kept (fun _ _ h => h) rfl
  | clock now => exact h.of_kept (fun _ _ h => h) rfl
  | fire id =>
    obtain ⟨timer, htimer, hphase⟩ := hrung
    exact h.fire htimer hphase
  | resume id => exact hrung.elim
  | recover =>
    exact h.of_kept (fun _ _ htimer => Runner.recover_kept htimer) s.runner.recover_keeps.2.queue
  | rearm listed =>
    exact h.of_kept (fun _ _ htimer => Runner.rearmAll_kept htimer)
      (s.runner.rearmAll_keeps listed).2.queue
  | disarm => exact hrung.elim
  | go place =>
    rcases apply_go_cases hs.sound hs.exists_of_held place with
      hnone | ⟨t, before, after, hdrop⟩ | ⟨t, before, after, e, e', hgo⟩
    · rw [hnone]
      exact h
    · exact h.of_dropped hdrop
    · exact h.of_turn hs hgo
  | reopen =>
    rcases s.apply_reopen_cases with hnone | ⟨_, hnew⟩
    · rw [hnone]
      exact h
    · rw [hnew]
      exact ⟨.nil, fun t ht => absurd ht List.not_mem_nil⟩
  | crash => exact ⟨.nil, fun t ht => absurd ht List.not_mem_nil⟩

/-- A session that such events lead to from a store without executions. -/
def IsRung (s : Session α ε ν) : Prop :=
  ∃ automations notifier clock ids previewChars recentLimit events,
    (opened automations notifier clock ids previewChars recentLimit : Session α ε ν).RungThroughout
        events ∧
      s = (opened automations notifier clock ids previewChars recentLimit).run events

theorem IsRung.run (h : s.IsRung) {events : List (Event α ν)} (hrung : s.RungThroughout events) :
    (s.run events).IsRung := by
  obtain ⟨automations, notifier, clock, ids, previewChars, recentLimit, earlier, hearlier, rfl⟩ := h
  exact ⟨automations, notifier, clock, ids, previewChars, recentLimit, earlier ++ events,
    throughout_append.mpr ⟨hearlier, hrung⟩, (run_append _ earlier events).symm⟩

theorem IsRung.oneByOne (h : s.IsRung) : s.IsSound ∧ s.OneByOne := by
  obtain ⟨automations, notifier, clock, ids, previewChars, recentLimit, events, hrung, rfl⟩ := h
  exact throughout_induction (fun s => s.IsSound ∧ s.OneByOne) Rung
    (fun _ event hrung h => ⟨(isSound_apply h.1 event).1, h.2.apply h.1 hrung⟩) hrung
    ⟨(isOrderly_opened _ _ _ _ _ _).toIsSound, .nil, fun t ht => absurd ht List.not_mem_nil⟩

/-- **Resumptions by timers do not overlap**, in any run from a store without executions in which none is
    asked for, however often the process ends and a new one recovers. -/
theorem raceFree_of_rung (h : s.IsRung) {events : List (Event α ν)}
    (hrung : s.RungThroughout events) : s.RaceFree events := by
  induction events generalizing s with
  | nil => exact trivial
  | cons event events ih =>
    have hnext : (s.run [event]).IsRung := h.run ⟨hrung.1, trivial⟩
    exact ⟨h.oneByOne.2.races_eq_false event, ih hnext hrung.2⟩

end Session

end Dripline
