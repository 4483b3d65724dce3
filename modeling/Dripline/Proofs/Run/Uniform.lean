import Dripline.Proofs.Run.Timing
import Dripline.Proofs.Run.Course

/-!
# Moments of one kind

A clock whose moments all carry an offset, or all carry none, over a store that keeps such moments as
they are:

* `Step.Settles`, `Step.settles_of_plan`: what the step of a node settles on;
  `Step.isAnchored_of_suspend`: it waits for a moment of the kind of the clock;
* `IsTimed`: what tasks are about to wait for is of that kind, so that every timer can be calculated,
  whatever the store makes of it; `IsTimed.apply`: events keep it that leave the kind of the clock
  alone;
* `IsUniform`: so are the moments that records are scheduled for, where the store keeps them;
  `IsUniform.apply`, `isUniform_run`;
* `IsReachableIn`: the sessions that are reached under such a clock.
-/

namespace Dripline

/-! ## 1. Steps -/

/-- The moment until which the result of a step waits, while it is logged and takes effect. -/
def Stage.due? : Stage → Option Moment
  | .note _ _ (.suspend _ due) => some due
  | .settle _ _ (.suspend _ due) => some due
  | _ => none

/-- An event after which the clock shows a moment of a kind, if it sets the clock. -/
def Event.ShowsKind {α ν : Type} (anchored : Bool) : Event α ν → Prop
  | .clock now => now.isAnchored = anchored
  | _ => True

/-- A moment of a kind, if there is one. -/
def Moment.HasKind (anchored : Bool) (m : Option Moment) : Prop :=
  ∀ due, m = some due → due.isAnchored = anchored

theorem Moment.hasKind_none {anchored : Bool} : HasKind anchored none := nofun

namespace Step

variable {g : Graph} {subject message : String} {now due : Moment} {n : Node}

/-- What the step of a node settles on: only a delay waits, and only a condition is stuck. -/
inductive Settles (now : Moment) (n : Node) : StepResult → Prop where
  | proceed (message next : String) : Settles now n (.proceed message next)
  | suspend (message : String) (d : Delay) (due : Moment) (hkind : n.kind = .delay)
      (hdue : d.resumeTime now = .ok due) : Settles now n (.suspend message due)
  | finish (message : String) : Settles now n (.finish message)
  | stuck (message : String) (outcome : Bool) (hkind : n.kind = .condition) :
      Settles now n
        (.stuck message s!"No {outcomeLabel outcome} path found for condition node {n.id}")

theorem settles_of_plan {result : StepResult} (h : plan g subject now n = .ok (.settled result)) :
    Settles now n result := by
  unfold plan at h
  cases hkind : n.kind with
  | start =>
    simp only [hkind] at h
    cases hexit : exit g n.id with
    | error fault => rw [hexit] at h; cases h
    | ok next => rw [hexit] at h; cases h; exact .proceed _ _
  | finish => simp only [hkind] at h; cases h; exact .finish _
  | action =>
    simp only [hkind] at h
    unfold planAction at h
    split at h
    · split at h
      · cases h
      · cases hexit : exit g n.id with
        | error fault => rw [hexit] at h; cases h
        | ok next => rw [hexit] at h; cases h
    · cases h
  | delay =>
    simp only [hkind] at h
    cases hdata : n.data with
    | delay d =>
      rw [hdata] at h
      cases hexit : exit g n.id with
      | error fault => simp only [planDelay, hexit] at h; cases h
      | ok next =>
        rw [Flow.planDelay_eq hexit] at h
        split at h
        · cases h
        · split at h
          · cases h
            exact .proceed _ _
          · cases hdue : d.resumeTime now with
            | error fault => simp only [hdue] at h; cases h
            | ok due => simp only [hdue] at h; cases h; exact .suspend _ d due hkind hdue
    | _ => rw [hdata] at h; cases h
  | condition =>
    simp only [hkind] at h
    unfold planCondition at h
    split at h
    · dsimp only at h
      split at h
      · cases h
        exact .proceed _ _
      · cases h
        exact .stuck _ _ hkind
    · cases h
  | unknown text noKind => simp only [hkind] at h; cases h

/-- Only the step of a delay waits. -/
theorem kind_of_suspend (h : plan g subject now n = .ok (.settled (.suspend message due))) :
    n.kind = .delay := by
  cases settles_of_plan h with
  | suspend _ d _ hkind => exact hkind

/-- **A step waits for a moment of the kind of the clock.** -/
theorem isAnchored_of_suspend (h : plan g subject now n = .ok (.settled (.suspend message due))) :
    due.isAnchored = now.isAnchored := by
  cases settles_of_plan h with
  | suspend _ d _ hkind hdue =>
    obtain ⟨millis, _, hlater⟩ := bind_eq_ok hdue
    exact Moment.isAnchored_addMillis hlater

end Step

namespace Runner

variable {α ε ν : Type} [AutomationStorage α] [ExecutionStorage ε] [Notifier ν]
  [LawfulExecutions ε] {r : Runner α ε ν} {id : String} {setup : Setup} {e e' : Execution}
  {stage : Stage} {next : Next} {sent : Option Sending} {anchored : Bool}

/-- **A stage leaves moments of the kind of the clock** to the next one. -/
theorem Turn.dueKind {stage' : Stage} (h : Turn r id setup e stage e' (.stage stage') sent)
    (hclock : r.clock.isAnchored = anchored) (hdue : Moment.HasKind anchored stage.due?) :
    Moment.HasKind anchored stage'.due? := by
  cases h with
  | actSettled walk node result hplan =>
    cases result with
    | suspend message due =>
      rintro _ ⟨rfl⟩
      exact (Step.isAnchored_of_suspend hplan).trans hclock
    | _ => exact Moment.hasKind_none
  | note walk node result => cases result <;> exact hdue
  | _ => exact Moment.hasKind_none

/-- **A stage schedules moments of the kind of the clock**, where the store keeps them. -/
theorem Turn.scheduledKind [KeepsMoments ε anchored] (h : Turn r id setup e stage e' next sent)
    (hrecord : Moment.HasKind anchored e.scheduledFor) (hdue : Moment.HasKind anchored stage.due?) :
    Moment.HasKind anchored e'.scheduledFor := by
  cases h with
  | settleSuspend walk node message due result hresult =>
    rintro _ ⟨rfl⟩
    have hkind := hdue due rfl
    rw [KeepsMoments.kept_eq due hkind]
    exact hkind
  | closing => exact Moment.hasKind_none
  | lostClosing => exact Moment.hasKind_none
  | leave => exact Moment.hasKind_none
  | _ => exact hrecord

end Runner

/-! ## 2. Tasks and the clock -/

namespace Session

section

variable {α ε ν : Type} {s s' : Session α ε ν} {anchored : Bool}

/-- **A session under a clock of one kind**: what its tasks are about to wait for can be compared with
    the clock, and they arm timers. -/
structure IsTimed (s : Session α ε ν) (anchored : Bool) : Prop where
  clock : s.runner.clock.isAnchored = anchored
  dues : ∀ t ∈ s.runner.queue, Moment.HasKind anchored t.stage.due?
  setups : ∀ t ∈ s.runner.queue, t.setup.scheduled = true

/-- Tasks that have not begun wait for nothing yet. -/
theorem IsTimed.of_queue (h : s.IsTimed anchored) (hclock : s'.runner.clock.isAnchored = anchored)
    (hqueue : ∀ t ∈ s'.runner.queue, t ∈ s.runner.queue ∨
      t.stage.due? = none ∧ t.setup = s.runner.setup) : s'.IsTimed anchored where
  clock := hclock
  dues t ht := by
    rcases hqueue t ht with ht | ⟨hnone, _⟩
    · exact h.dues t ht
    · rw [hnone]
      exact Moment.hasKind_none
  setups t ht := by
    rcases hqueue t ht with ht | ⟨_, hsetup⟩
    · exact h.setups t ht
    · rw [hsetup]
      rfl

/-- One more task that has not begun. -/
theorem IsTimed.of_queued (h : s.IsTimed anchored) {t : Task}
    (hclock : s'.runner.clock = s.runner.clock) (hqueue : s'.runner.queue = s.runner.queue ++ [t])
    (hnone : t.stage.due? = none) (hsetup : t.setup = s.runner.setup) : s'.IsTimed anchored := by
  refine h.of_queue (hclock ▸ h.clock) fun t' ht' => ?_
  rw [hqueue, List.mem_append, List.mem_singleton] at ht'
  rcases ht' with ht' | rfl
  · exact .inl ht'
  · exact .inr ⟨hnone, hsetup⟩

end

variable {α ε ν : Type} [AutomationStorage α] [ExecutionStorage ε] [Notifier ν]
  [LawfulExecutions ε] {s s' : Session α ε ν} {anchored : Bool} {id : String}

omit [AutomationStorage α] [Notifier ν] in
theorem isTimed_opened (automations : α) (notifier : ν) {clock : Moment} (ids : Ids)
    (previewChars recentLimit : Int) (hclock : clock.isAnchored = anchored) :
    (opened automations notifier clock ids previewChars recentLimit : Session α ε ν).IsTimed
      anchored :=
  ⟨hclock, fun _ ht => absurd ht List.not_mem_nil, fun _ ht => absurd ht List.not_mem_nil⟩

theorem IsTimed.of_turn {t : Task} {before after : List Task} {e e' : Execution}
    (h : s.IsTimed anchored) (hgo : s.TakesTurn s' t before after e e') : s'.IsTimed anchored := by
  refine ⟨hgo.clock ▸ h.clock, fun t' ht' => ?_, fun t' ht' => ?_⟩
  · rcases hgo.mem_queued ht' with ht' | ⟨stage, hstage, rfl⟩
    · exact h.dues t' (hgo.mem_of_other ht')
    · have hturn := hgo.turn
      rw [hstage] at hturn
      exact hturn.dueKind h.clock (h.dues t hgo.mem)
  · rcases hgo.mem_queued ht' with ht' | ⟨stage, _, rfl⟩
    · exact h.setups t' (hgo.mem_of_other ht')
    · exact h.setups t hgo.mem

/-- **An event that leaves the kind of the clock alone** keeps tasks in line with it. -/
theorem IsTimed.apply (ho : s.IsSound) (h : s.IsTimed anchored) {event : Event α ν}
    (hkind : event.ShowsKind anchored) : (s.apply event).IsTimed anchored := by
  cases event with
  | start automationId subject =>
    show IsTimed ⟨(s.runner.start automationId subject).2, s.sent⟩ anchored
    rcases Runner.start_cases ho.sound ho.free automationId subject with
      ⟨_, hsame⟩ | ⟨a, address, _, _, _, _, hbegan⟩
    · rw [hsame]
      exact h
    · exact h.of_queued (s.runner.start_timers automationId subject).2 hbegan.queue rfl rfl
  | author automations drawn => exact h.of_queue h.clock fun _ ht => .inl ht
  | equip notifier previewChars recentLimit => exact h.of_queue h.clock fun _ ht => .inl ht
  | clock now => exact h.of_queue hkind fun _ ht => .inl ht
  | fire id => exact h.of_queued rfl rfl rfl rfl
  | resume id => exact h.of_queued rfl rfl rfl rfl
  | recover =>
    obtain ⟨_, haround⟩ := s.runner.recover_keeps
    refine h.of_queue ?_ fun t ht => .inl ?_
    · show s.runner.recover.2.clock.isAnchored = anchored
      rw [haround.clock]
      exact h.clock
    · rw [← haround.queue]
      exact ht
  | rearm listed =>
    obtain ⟨_, haround⟩ := s.runner.rearmAll_keeps listed
    refine h.of_queue ?_ fun t ht => .inl ?_
    · show (s.runner.rearmAll listed).2.clock.isAnchored = anchored
      rw [haround.clock]
      exact h.clock
    · rw [← haround.queue]
      exact ht
  | disarm => exact h.of_queue h.clock fun _ ht => .inl ht
  | go place =>
    rcases apply_go_cases ho.sound ho.exists_of_held place with
      hnone | ⟨t, before, after, hdrop⟩ | ⟨t, before, after, e, e', hgo⟩
    · rw [hnone]
      exact h
    · exact h.of_queue (hdrop.clock ▸ h.clock) fun t' ht' => .inl (hdrop.mem_of_queued ht')
    · exact h.of_turn hgo
  | reopen =>
    rcases s.apply_reopen_cases with hnone | ⟨_, hnew⟩
    · rw [hnone]
      exact h
    · rw [hnew]
      exact h.of_queue h.clock fun t ht => absurd ht List.not_mem_nil
  | crash => exact h.of_queue h.clock fun t ht => absurd ht List.not_mem_nil

/-! ## 3. Records and the clock -/

/-- **A session whose moments are of one kind**, and whose tasks arm timers. -/
structure IsUniform (s : Session α ε ν) (anchored : Bool) : Prop where
  clock : s.runner.clock.isAnchored = anchored
  records : ∀ id e, ExecutionStorage.get s.runner.executions id = some e →
    Moment.HasKind anchored e.scheduledFor
  dues : ∀ t ∈ s.runner.queue, Moment.HasKind anchored t.stage.due?
  setups : ∀ t ∈ s.runner.queue, t.setup.scheduled = true

omit [AutomationStorage α] [Notifier ν] [LawfulExecutions ε] in
theorem IsUniform.timed (h : s.IsUniform anchored) : s.IsTimed anchored :=
  ⟨h.clock, h.dues, h.setups⟩

/-- **An event that leaves the kind of the clock alone** keeps moments of one kind. -/
theorem IsUniform.apply [KeepsMoments ε anchored] (ho : s.IsSound) (h : s.IsUniform anchored)
    {event : Event α ν} (hkind : event.ShowsKind anchored) : (s.apply event).IsUniform anchored := by
  obtain ⟨hclock, hdues, hsetups⟩ := h.timed.apply ho hkind
  refine ⟨hclock, ?_, hdues, hsetups⟩
  cases event with
  | start automationId subject =>
    show ∀ id e, ExecutionStorage.get (s.runner.start automationId subject).2.executions id = some e → _
    rcases Runner.start_cases ho.sound ho.free automationId subject with
      ⟨_, hsame⟩ | ⟨a, address, _, _, _, _, hbegan⟩
    · rw [hsame]
      exact h.records
    · intro id e he
      by_cases hid : id = (s.runner.newRecord a address).id
      · subst hid
        cases hbegan.revises.own.symm.trans he
        exact Moment.hasKind_none
      · exact h.records id e ((hbegan.revises.others id hid).symm.trans he)
  | recover =>
    show ∀ id e, ExecutionStorage.get s.runner.recover.2.executions id = some e → _
    rw [s.runner.recover_keeps.1]
    exact h.records
  | rearm listed =>
    show ∀ id e, ExecutionStorage.get (s.runner.rearmAll listed).2.executions id = some e → _
    rw [(s.runner.rearmAll_keeps listed).1]
    exact h.records
  | go place =>
    rcases apply_go_cases ho.sound ho.exists_of_held place with
      hnone | ⟨t, before, after, hdrop⟩ | ⟨t, before, after, e, e', hgo⟩
    · rw [hnone]
      exact h.records
    · rw [hdrop.executions]
      exact h.records
    · intro id e₁ he₁
      by_cases hid : id = t.executionId
      · subst hid
        cases hgo.revises.own.symm.trans he₁
        exact hgo.turn.scheduledKind (h.records _ e hgo.found) (h.dues t hgo.mem)
      · exact h.records id e₁ ((hgo.revises.others id hid).symm.trans he₁)
  | reopen =>
    rcases s.apply_reopen_cases with hnone | ⟨_, hnew⟩
    · rw [hnone]
      exact h.records
    · rw [hnew]
      exact h.records
  | _ => exact h.records

theorem isUniform_run [KeepsMoments ε anchored] (ho : s.IsSound) (h : s.IsUniform anchored)
    {events : List (Event α ν)} (hkinds : ∀ event ∈ events, event.ShowsKind anchored) :
    (s.run events).IsUniform anchored :=
  (run_induction (fun s => s.IsSound ∧ s.IsUniform anchored) _
    (fun _ event hkind h => ⟨(isSound_apply h.1 event).1, h.2.apply h.1 hkind⟩) hkinds
    ⟨ho, h⟩).2

/-- A session that some events lead to from a store without executions, under a clock whose moments are
    all of one kind. -/
def IsReachableIn (s : Session α ε ν) (anchored : Bool) : Prop :=
  ∃ automations notifier clock ids previewChars recentLimit events,
    clock.isAnchored = anchored ∧ (∀ event ∈ events, event.ShowsKind anchored) ∧
      s = (opened automations notifier clock ids previewChars recentLimit).run events

theorem isReachableIn_opened (automations : α) (notifier : ν) {clock : Moment} (ids : Ids)
    (previewChars recentLimit : Int) (hclock : clock.isAnchored = anchored) :
    (opened automations notifier clock ids previewChars recentLimit : Session α ε ν).IsReachableIn
      anchored :=
  ⟨_, _, _, _, _, _, [], hclock, fun _ h => absurd h List.not_mem_nil, rfl⟩

theorem IsReachableIn.run (h : s.IsReachableIn anchored) {events : List (Event α ν)}
    (hkinds : ∀ event ∈ events, event.ShowsKind anchored) : (s.run events).IsReachableIn anchored := by
  obtain ⟨automations, notifier, clock, ids, previewChars, recentLimit, earlier, hclock, hearlier,
    rfl⟩ := h
  refine ⟨automations, notifier, clock, ids, previewChars, recentLimit, earlier ++ events, hclock,
    fun event hevent => ?_, (run_append _ _ _).symm⟩
  exact (List.mem_append.mp hevent).elim (hearlier event) (hkinds event)

theorem IsReachableIn.isSound (h : s.IsReachableIn anchored) : s.IsSound := by
  obtain ⟨automations, notifier, clock, ids, previewChars, recentLimit, events, _, _, rfl⟩ := h
  exact isSound_run (isOrderly_opened _ _ _ _ _ _).toIsSound events

theorem IsReachableIn.isUniform [KeepsMoments ε anchored] (h : s.IsReachableIn anchored) :
    s.IsUniform anchored := by
  obtain ⟨automations, notifier, clock, ids, previewChars, recentLimit, events, hclock, hkinds, rfl⟩ :=
    h
  have ho := (isOrderly_opened (ε := ε) automations notifier clock ids previewChars
    recentLimit).toIsSound
  refine isUniform_run ho ⟨hclock, fun id e he => ?_, ?_, ?_⟩ hkinds
  · rw [opened, LawfulExecutions.get_blank] at he
    cases he
  · exact fun t ht => absurd ht List.not_mem_nil
  · exact fun t ht => absurd ht List.not_mem_nil

end Session

end Dripline
