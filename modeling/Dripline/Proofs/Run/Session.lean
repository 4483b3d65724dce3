import Dripline.Proofs.Run.Turn

/-!
# Sessions

A session is a runner over its stores together with all that can happen to it, in any order:

* `Event`: an execution is started, automations are edited, the notifier changes, the clock is set,
  timers fire, resumptions are asked for, timers are recovered or disarmed, a queued task takes one
  stage, and the process ends, with its tasks between two steps (`reopen`) or in the middle of them
  (`crash`);
* `Session.apply`, `Session.run`: what events do, each of them by the operations of the runner;
* `Session.opened`: a session over a store without executions;
* `Session.Throughout`: runs whose events are allowed where they happen;
* `Session.RaceFree`: runs in which no resumption overlaps another one of the same execution;
  `Session.Serial`: runs in which none overlaps any other task of it.

Tasks take turns stage by stage, so every order in which they can be interleaved is a run of a session. A
stage writes to a store at most once, and what it wrote is not taken back: that a rollback on a connection
which tasks share undoes what another one has not committed yet is NOT covered here.
Nothing holds a resumption back: between reading a suspended record and moving it past its delay, the
stores may take their time, and a second resumption of that execution may read the same record
(`Runner.races`). What needs that this does not happen says so by `RaceFree`, and what needs that nobody
is at work on an execution when it is resumed (`Runner.cutsIn`) says so by `Serial`. `start_cases`,
`recover_keeps`, `apply_reopen_cases` and `apply_go_cases` say what the events with several ways do,
and `apply_go_alone_cases` what a turn is that races with none.
-/

namespace Dripline

/-! ## 1. Roles of tasks -/

/-- What a task is up to: about to resume, on the way past a delay, or interpreting. -/
inductive Role where
  | waking
  | resuming
  | interpreting
deriving DecidableEq, Repr

/-- The role of a task at a stage. -/
def Stage.role : Stage → Role
  | .wake => .waking
  | .leave _ _ => .resuming
  | .lost _ _ _ => .resuming
  | .lostClosing _ => .resuming
  | _ => .interpreting

theorem Stage.eq_wake_of_role {stage : Stage} (h : stage.role = .waking) : stage = .wake := by
  cases stage with
  | wake => rfl
  | _ => cases h

/-- Whether a stage stands within a step: its message may be sent or its entry written, and the rest of
    the step is still to come. -/
def Stage.isWithinStep : Stage → Bool
  | .note _ _ _ => true
  | .settle _ _ _ => true
  | _ => false

/-- A task that may write to the record of its execution. -/
def Task.Holds (t : Task) : Prop := t.stage.role ≠ .waking

theorem Task.holds_of_resuming {t : Task} (h : t.stage.role = .resuming) : t.Holds := by
  unfold Task.Holds
  rw [h]
  decide

theorem Task.holds_of_interpreting {t : Task} (h : t.stage.role = .interpreting) : t.Holds := by
  unfold Task.Holds
  rw [h]
  decide

/-- Two tasks do not hold the same execution. -/
def Task.Apart (t t' : Task) : Prop := t.Holds → t'.Holds → t.executionId ≠ t'.executionId

theorem Task.Apart.symm {t t' : Task} (h : t.Apart t') : t'.Apart t :=
  fun ht' ht e => h ht ht' e.symm

theorem Task.apart_of_waking {t t' : Task} (h : t'.stage.role = .waking) : t.Apart t' :=
  fun _ ht' => absurd h ht'

/-! ## 2. Events -/

/-- What can happen to a session. -/
inductive Event (α ν : Type) where
  /-- An execution is started. -/
  | start (automationId : String) (subject : Option String)
  /-- Automations are created, changed or deleted, and ids are taken for them. -/
  | author (automations : α) (drawn : Nat)
  /-- The notifier is in another state or another one, and other limits hold. -/
  | equip (notifier : ν) (previewChars recentLimit : Int)
  /-- The clock shows another time. -/
  | clock (now : Moment)
  /-- The timer of an execution fires. -/
  | fire (id : String)
  /-- A resumption is asked for, without a timer. -/
  | resume (id : String)
  /-- Timers are armed for all suspended executions. -/
  | recover
  /-- Timers are armed for executions that were listed some time ago. -/
  | rearm (listed : List Execution)
  /-- All timers are disarmed. -/
  | disarm
  /-- The task at a place of the queue takes its next stage. -/
  | go (place : Nat)
  /-- A new process takes over the stores, with no task within a step. -/
  | reopen
  /-- The process is gone, whatever its tasks were doing, and a new one takes over the stores. -/
  | crash

/-- A runner and the messages that were sent, oldest first. -/
structure Session (α ε ν : Type) where
  runner : Runner α ε ν
  sent : List Sending

namespace Runner

variable {α ε ν : Type} [AutomationStorage α] [ExecutionStorage ε] [Notifier ν]

/-- Queues a resumption that no timer asked for. -/
def summon (r : Runner α ε ν) (id : String) : Runner α ε ν :=
  { r with queue := r.queue ++ [⟨id, .direct, r.setup, .wake⟩] }

/-- Disarms every timer. -/
def disarm (r : Runner α ε ν) : Runner α ε ν :=
  { r with timers := { r.timers with entries := .empty } }

/-- Whether a task races: it is a resumption that begins while another one of the same execution has
    read the record and not yet moved it. -/
def races (r : Runner α ε ν) (t : Task) : Bool :=
  decide (t.stage.role = .waking) && r.queue.any fun t' =>
    decide (t'.executionId = t.executionId) && decide (t'.stage.role = .resuming)

omit [AutomationStorage α] [ExecutionStorage ε] [Notifier ν] in
theorem races_eq_false_iff {r : Runner α ε ν} {t : Task} :
    r.races t = false ↔ (t.stage.role = .waking → ∀ t' ∈ r.queue,
      t'.executionId = t.executionId → t'.stage.role ≠ .resuming) := by
  unfold races
  rw [Bool.and_eq_false_iff, decide_eq_false_iff_not, List.any_eq_false, ← imp_iff_not_or]
  refine imp_congr_right fun _ => forall₂_congr fun t' _ => ?_
  rw [Bool.and_eq_true, decide_eq_true_eq, decide_eq_true_eq, not_and]

/-- Whether a task cuts in: it is a resumption that begins while another task of the same execution is
    under way. -/
def cutsIn (r : Runner α ε ν) (t : Task) : Bool :=
  decide (t.stage.role = .waking) && r.queue.any fun t' =>
    decide (t'.executionId = t.executionId) && decide (t'.stage.role ≠ .waking)

omit [AutomationStorage α] [ExecutionStorage ε] [Notifier ν] in
theorem races_of_cutsIn {r : Runner α ε ν} {t : Task} (h : r.cutsIn t = false) : r.races t = false := by
  unfold cutsIn at h
  rw [Bool.and_eq_false_iff, decide_eq_false_iff_not, List.any_eq_false, ← imp_iff_not_or] at h
  refine races_eq_false_iff.mpr fun hrole t' ht' hid hresuming => h hrole t' ht' ?_
  rw [Bool.and_eq_true, decide_eq_true_eq, decide_eq_true_eq, hresuming]
  exact ⟨hid, nofun⟩

/-- The task at a place of the queue takes a stage, after which it stands where it stood or is done. -/
def goOn (r : Runner α ε ν) (place : Nat) (t : Task) : Runner α ε ν :=
  match r.stepTask t with
  | (r, .stage stage) => { r with queue := r.queue.set place { t with stage := stage } }
  | (r, .done result) => { r.tellResult t.origin result with queue := r.queue.eraseIdx place }

end Runner

namespace Session

variable {α ε ν : Type} [AutomationStorage α] [ExecutionStorage ε] [Notifier ν]

/-- A session after an event. -/
def apply (s : Session α ε ν) : Event α ν → Session α ε ν
  | .start id subject => { s with runner := (s.runner.start id subject).2 }
  | .author automations drawn =>
    { s with runner := { s.runner with
      automations := automations
      ids := ⟨s.runner.ids.taken + drawn⟩ } }
  | .equip notifier previewChars recentLimit =>
    { s with runner := { s.runner with
      notifier := notifier
      previewChars := previewChars
      recentLimit := recentLimit } }
  | .clock now => { s with runner := { s.runner with clock := now } }
  | .fire id => { s with runner := s.runner.fire id }
  | .resume id => { s with runner := s.runner.summon id }
  | .recover => { s with runner := s.runner.recover.2 }
  | .rearm listed => { s with runner := (s.runner.rearmAll listed).2 }
  | .disarm => { s with runner := s.runner.disarm }
  | .go place =>
    match s.runner.queue[place]? with
    | none => s
    | some t => ⟨s.runner.goOn place t, s.sent ++ (s.runner.sending? t).toList⟩
  | .reopen =>
    if s.runner.queue.all fun t => !t.stage.isWithinStep then
      { s with runner := s.runner.reopened }
    else s
  | .crash => { s with runner := s.runner.reopened }

/-- **A session after events**, one after the other. -/
def run (s : Session α ε ν) : List (Event α ν) → Session α ε ν
  | [] => s
  | event :: events => (s.apply event).run events

/-- **Events that happen one after the other**, each of them allowed in the session that it finds. -/
def Throughout (allowed : Session α ε ν → Event α ν → Prop) (s : Session α ε ν) :
    List (Event α ν) → Prop
  | [] => True
  | event :: events => allowed s event ∧ (s.apply event).Throughout allowed events

instance decidableThroughout (allowed : Session α ε ν → Event α ν → Prop)
    [∀ s event, Decidable (allowed s event)] (s : Session α ε ν) :
    (events : List (Event α ν)) → Decidable (s.Throughout allowed events)
  | [] => .isTrue trivial
  | event :: events =>
    @instDecidableAnd _ _ inferInstance (decidableThroughout allowed (s.apply event) events)

/-- Whether an event is a turn that races. -/
def races (s : Session α ε ν) : Event α ν → Bool
  | .go place => s.runner.queue[place]?.any s.runner.races
  | _ => false

/-- Whether an event is a turn that cuts in. -/
def cutsIn (s : Session α ε ν) : Event α ν → Bool
  | .go place => s.runner.queue[place]?.any s.runner.cutsIn
  | _ => false

/-- **No resumption overlaps another one** of the same execution in a run of events. -/
def RaceFree (s : Session α ε ν) (events : List (Event α ν)) : Prop :=
  s.Throughout (fun s event => s.races event = false) events

instance (s : Session α ε ν) (events : List (Event α ν)) : Decidable (s.RaceFree events) :=
  inferInstanceAs (Decidable (s.Throughout _ events))

/-- **No resumption overlaps any other task** of the same execution in a run of events. What is said of timers
    asks for this much: the write that suspends an execution and the arming of its timer are one stage here,
    while over a real store a resumption can begin between the two. -/
def Serial (s : Session α ε ν) (events : List (Event α ν)) : Prop :=
  s.Throughout (fun s event => s.cutsIn event = false) events

instance (s : Session α ε ν) (events : List (Event α ν)) : Decidable (s.Serial events) :=
  inferInstanceAs (Decidable (s.Throughout _ events))

/-- A session over a store without executions. -/
def opened [LawfulExecutions ε] (automations : α) (notifier : ν) (clock : Moment) (ids : Ids)
    (previewChars recentLimit : Int) : Session α ε ν where
  runner :=
    { automations := automations
      executions := LawfulExecutions.blank
      notifier := notifier
      clock := clock
      ids := ids
      timers := .empty
      queue := []
      journal := []
      previewChars := previewChars
      recentLimit := recentLimit }
  sent := []

theorem run_append (s : Session α ε ν) (events later : List (Event α ν)) :
    s.run (events ++ later) = (s.run events).run later := by
  induction events generalizing s with
  | nil => rfl
  | cons event events ih => exact ih (s.apply event)

theorem throughout_append {allowed : Session α ε ν → Event α ν → Prop} {s : Session α ε ν}
    {events later : List (Event α ν)} :
    s.Throughout allowed (events ++ later) ↔
      s.Throughout allowed events ∧ (s.run events).Throughout allowed later := by
  induction events generalizing s with
  | nil => exact (true_and _).symm.to_iff
  | cons event events ih =>
    show _ ∧ (s.apply event).Throughout allowed (events ++ later) ↔ (_ ∧ _) ∧ _
    rw [ih, and_assoc]
    rfl

theorem Throughout.mono {allowed allowed' : Session α ε ν → Event α ν → Prop} {s : Session α ε ν}
    {events : List (Event α ν)} (hmore : ∀ s event, allowed s event → allowed' s event)
    (h : s.Throughout allowed events) : s.Throughout allowed' events := by
  induction events generalizing s with
  | nil => exact trivial
  | cons event events ih => exact ⟨hmore s event h.1, ih h.2⟩

theorem raceFree_append {s : Session α ε ν} {events later : List (Event α ν)} :
    s.RaceFree (events ++ later) ↔ s.RaceFree events ∧ (s.run events).RaceFree later :=
  throughout_append

omit [AutomationStorage α] [ExecutionStorage ε] [Notifier ν] in
/-- A turn that does not cut in does not race. -/
theorem races_of_cutsIn {s : Session α ε ν} {event : Event α ν} (h : s.cutsIn event = false) :
    s.races event = false := by
  cases event with
  | go place =>
    have hcuts : s.runner.queue[place]?.any s.runner.cutsIn = false := h
    show s.runner.queue[place]?.any s.runner.races = false
    cases hplace : s.runner.queue[place]? with
    | none => rfl
    | some t =>
      rw [hplace] at hcuts
      exact Runner.races_of_cutsIn hcuts
  | _ => rfl

theorem Serial.raceFree {s : Session α ε ν} {events : List (Event α ν)} (h : s.Serial events) :
    s.RaceFree events := h.mono fun _ _ => races_of_cutsIn

/-- What every allowed event keeps, every run of them keeps. -/
theorem run_induction (motive : Session α ε ν → Prop) (allowed : Event α ν → Prop)
    (step : ∀ s event, allowed event → motive s → motive (s.apply event)) {s : Session α ε ν}
    {events : List (Event α ν)} (hall : ∀ event ∈ events, allowed event) (h : motive s) :
    motive (s.run events) := by
  induction events generalizing s with
  | nil => exact h
  | cons event events ih =>
    rw [List.forall_mem_cons] at hall
    exact ih hall.2 (step s event hall.1 h)

/-- What every event keeps that is allowed where it happens, a whole run of them keeps. -/
theorem throughout_induction (motive : Session α ε ν → Prop)
    (allowed : Session α ε ν → Event α ν → Prop)
    (step : ∀ s event, allowed s event → motive s → motive (s.apply event)) {s : Session α ε ν}
    {events : List (Event α ν)} (hall : s.Throughout allowed events) (h : motive s) :
    motive (s.run events) := by
  induction events generalizing s with
  | nil => exact h
  | cons event events ih => exact ih hall.2 (step s event hall.1 h)

/-- What every allowed event without a race keeps, every race-free run of them keeps. -/
theorem raceFree_induction (motive : Session α ε ν → Prop) (allowed : Event α ν → Prop)
    (step : ∀ s event, allowed event → s.races event = false → motive s → motive (s.apply event))
    {s : Session α ε ν} {events : List (Event α ν)} (hall : ∀ event ∈ events, allowed event)
    (hfree : s.RaceFree events) (h : motive s) : motive (s.run events) := by
  induction events generalizing s with
  | nil => exact h
  | cons event events ih =>
    rw [List.forall_mem_cons] at hall
    exact ih hall.2 hfree.2 (step s event hall.1 hfree.1 h)

end Session

/-! ## 3. What events do -/

namespace Runner

variable {α ε ν : Type} [AutomationStorage α] [ExecutionStorage ε] [Notifier ν]
  {r r' : Runner α ε ν}

section

variable [LawfulExecutions ε]

/-- The record of an execution that is started now. -/
def newRecord (r : Runner α ε ν) (a : Automation) (subject : String) : Execution where
  id := r.ids.next.1
  automationId := a.id
  subject := subject
  status := .pending
  currentNode := none
  log := []
  scheduledFor := none
  completedAt := none
  createdAt := some (LawfulExecutions.kept ε r.clock)

/-- A runner that has begun an execution: its record is new, and the interpreter is queued. -/
structure Began (r r' : Runner α ε ν) (e : Execution) : Prop where
  revises : Revises r.executions r'.executions e.id e
  queue : r'.queue = r.queue ++ [⟨e.id, .dispatched, r.setup, .enter⟩]
  ids : r'.ids = r.ids.next.2
  automations : r'.automations = r.automations

omit [Notifier ν] in
/-- **An execution begins** for an address and an automation that passes the check. -/
theorem start_accepted {id address : String} {subject : Option String} {a : Automation}
    (hs : LawfulExecutions.Sound r.executions)
    (hfree : ExecutionStorage.get r.executions r.ids.next.1 = none)
    (haddress : Address.clean subject = .ok address)
    (hget : AutomationStorage.get r.automations id = .ok (some a))
    (hproblems : a.flow.problems r.clock = .ok []) :
    (r.start id subject).1 = .ok (r.newRecord a address) ∧
      r.Began (r.start id subject).2 (r.newRecord a address) := by
  obtain ⟨s', hcreate, hsound, hown, hothers⟩ := LawfulExecutions.create_free
    (e := ⟨"", a.id, address, .pending, none, [], none, none, none⟩) r.clock hs hfree
  unfold start
  simp only [haddress, hget, hproblems, hcreate]
  exact ⟨rfl, ⟨hsound, hown, hothers⟩, rfl, rfl, rfl⟩

omit [Notifier ν] in
/-- **An execution is refused without a trace, or begins.** -/
theorem start_cases (hs : LawfulExecutions.Sound r.executions)
    (hfree : ExecutionStorage.get r.executions r.ids.next.1 = none) (id : String)
    (subject : Option String) :
    ((∃ fault, (r.start id subject).1 = .error fault) ∧ (r.start id subject).2 = r) ∨
      ∃ a address, Address.clean subject = .ok address ∧
        AutomationStorage.get r.automations id = .ok (some a) ∧
        a.flow.problems r.clock = .ok [] ∧
        (r.start id subject).1 = .ok (r.newRecord a address) ∧
        r.Began (r.start id subject).2 (r.newRecord a address) := by
  cases haddress : Address.clean subject with
  | error fault =>
    unfold start
    rw [haddress]
    exact .inl ⟨⟨fault, rfl⟩, rfl⟩
  | ok address =>
    cases hget : AutomationStorage.get r.automations id with
    | error fault =>
      unfold start
      simp only [haddress, hget]
      exact .inl ⟨⟨fault, rfl⟩, trivial⟩
    | ok found =>
      cases found with
      | none =>
        unfold start
        simp only [haddress, hget]
        exact .inl ⟨⟨_, rfl⟩, trivial⟩
      | some a =>
        cases hproblems : a.flow.problems r.clock with
        | error fault =>
          unfold start
          simp only [haddress, hget, hproblems]
          exact .inl ⟨⟨_, rfl⟩, trivial⟩
        | ok problems =>
          cases problems with
          | nil =>
            obtain ⟨hok, hbegan⟩ := start_accepted hs hfree haddress hget hproblems
            exact .inr ⟨a, address, rfl, rfl, hproblems, hok, hbegan⟩
          | cons p ps =>
            unfold start
            simp only [haddress, hget, hproblems]
            exact .inl ⟨⟨_, rfl⟩, trivial⟩

end

omit [AutomationStorage α] [ExecutionStorage ε] [Notifier ν] in
theorem rearm_keeps (r : Runner α ε ν) (e : Execution) :
    (r.rearm e).2.executions = r.executions ∧ Silent r (r.rearm e).2 := by
  unfold rearm
  cases e.scheduledFor with
  | none => exact ⟨rfl, .of_kept r _ _ _⟩
  | some due =>
    have hexecutions := r.schedule_executions e.id due
    have haround := r.schedule_silent e.id due
    dsimp only
    cases hcase : r.schedule e.id due with
    | mk outcome r' =>
      rw [hcase] at hexecutions haround
      cases outcome with
      | error fault => exact ⟨hexecutions, haround.trans (r'.say_silent _ _ _)⟩
      | ok armed => cases armed <;> exact ⟨hexecutions, haround⟩

omit [AutomationStorage α] [ExecutionStorage ε] [Notifier ν] in
theorem rearmAll_keeps (es : List Execution) (r : Runner α ε ν) :
    (r.rearmAll es).2.executions = r.executions ∧ Silent r (r.rearmAll es).2 := by
  induction es generalizing r with
  | nil => exact ⟨rfl, .of_kept r _ _ _⟩
  | cons e es ih =>
    obtain ⟨hexecutions, haround⟩ := r.rearm_keeps e
    obtain ⟨hexecutions', haround'⟩ := ih (r.rearm e).2
    exact ⟨hexecutions'.trans hexecutions, haround.trans haround'⟩

omit [AutomationStorage α] [Notifier ν] in
/-- **A recovery touches timers only**, and tells about them. -/
theorem recover_keeps (r : Runner α ε ν) :
    r.recover.2.executions = r.executions ∧ Silent r r.recover.2 := by
  unfold recover
  obtain ⟨hexecutions, haround⟩ := rearmAll_keeps (ExecutionStorage.listScheduled r.executions)
    (r.say .info .scheduler
      s!"Found {(ExecutionStorage.listScheduled r.executions).length} pending executions to resume")
  exact ⟨hexecutions, (r.say_silent _ _ _).trans haround⟩

omit [AutomationStorage α] [ExecutionStorage ε] [Notifier ν] in
theorem tellResult_keeps (r : Runner α ε ν) (origin : Origin) (result : TaskResult) :
    (r.tellResult origin result).executions = r.executions ∧
      Silent r (r.tellResult origin result) := by
  cases result with
  | ok e => exact ⟨rfl, .of_kept r _ _ _⟩
  | error fault => cases origin <;> exact ⟨rfl, .of_kept r _ _ _⟩

omit [AutomationStorage α] [ExecutionStorage ε] [Notifier ν] in
theorem tellResult_timers (r : Runner α ε ν) (origin : Origin) (result : TaskResult) :
    (r.tellResult origin result).timers = r.timers := by
  cases result with
  | ok e => rfl
  | error fault => cases origin <;> rfl

/-- **A turn changes the queue at one place**: the task has another stage, or is done. -/
theorem goOn_cases {place : Nat} {t : Task} (ht : r.queue[place]? = some t) :
    ∃ before after, r.queue = before ++ t :: after ∧
      (r.goOn place t).executions = (r.stepTask t).1.executions ∧
      (r.goOn place t).automations = r.automations ∧ (r.goOn place t).ids = r.ids ∧
      ((∃ stage, (r.stepTask t).2 = .stage stage ∧
          (r.goOn place t).queue = before ++ { t with stage := stage } :: after) ∨
        ∃ result, (r.stepTask t).2 = .done result ∧
          (r.goOn place t).queue = before ++ after) := by
  obtain ⟨hlt, hget⟩ := List.getElem?_eq_some_iff.mp ht
  have hqueue : r.queue = r.queue.take place ++ t :: r.queue.drop (place + 1) := by
    rw [← hget, List.getElem_cons_drop, List.take_append_drop]
  have haround := r.stepTask_around t
  refine ⟨_, _, hqueue, ?_⟩
  unfold goOn
  cases hstep : r.stepTask t with
  | mk r' next =>
    rw [hstep] at haround
    cases next with
    | stage stage =>
      refine ⟨rfl, haround.automations, haround.ids, .inl ⟨stage, rfl, ?_⟩⟩
      show r'.queue.set place _ = _
      rw [haround.queue, List.set_eq_take_append_cons_drop, if_pos hlt]
    | done result =>
      obtain ⟨hexecutions, htold⟩ := r'.tellResult_keeps t.origin result
      refine ⟨hexecutions, htold.automations.trans haround.automations,
        htold.ids.trans haround.ids,
        .inr ⟨result, rfl, ?_⟩⟩
      show r'.queue.eraseIdx place = _
      rw [haround.queue, List.eraseIdx_eq_take_drop_succ]

/-- A turn handles timers as its stage does, and takes no time. -/
theorem goOn_timers (r : Runner α ε ν) (place : Nat) (t : Task) :
    (r.goOn place t).timers = (r.stepTask t).1.timers ∧ (r.goOn place t).clock = r.clock := by
  have haround := r.stepTask_around t
  unfold goOn
  cases hstep : r.stepTask t with
  | mk r' next =>
    rw [hstep] at haround
    cases next with
    | stage stage => exact ⟨rfl, haround.clock⟩
    | done result =>
      exact ⟨r'.tellResult_timers t.origin result,
        (r'.tellResult_keeps t.origin result).2.clock.trans haround.clock⟩

end Runner

/-! ## 4. Turns in a session -/

namespace Session

variable {α ε ν : Type} [AutomationStorage α] [ExecutionStorage ε] [Notifier ν]
  [LawfulExecutions ε]

/-- **A task takes its turn** on a record that is there: the session before and after, the task with its
    place in the queue, and the record before and after. -/
structure TakesTurn (s s' : Session α ε ν) (t : Task) (before after : List Task)
    (e e' : Execution) : Prop where
  queue : s.runner.queue = before ++ t :: after
  found : ExecutionStorage.get s.runner.executions t.executionId = some e
  turn : Runner.Turn s.runner t.executionId t.setup e t.stage e' (s.runner.stepTask t).2
    (s.runner.sending? t)
  revises : Revises s.runner.executions s'.runner.executions t.executionId e'
  automations : s'.runner.automations = s.runner.automations
  ids : s'.runner.ids = s.runner.ids
  timers : s'.runner.timers = (s.runner.stepTask t).1.timers
  clock : s'.runner.clock = s.runner.clock
  sent : s'.sent = s.sent ++ (s.runner.sending? t).toList
  queued : (∃ stage, (s.runner.stepTask t).2 = .stage stage ∧
      s'.runner.queue = before ++ { t with stage := stage } :: after) ∨
    ∃ result, (s.runner.stepTask t).2 = .done result ∧ s'.runner.queue = before ++ after

/-- A task takes its turn and does not race. -/
structure GoesAlone (s s' : Session α ε ν) (t : Task) (before after : List Task)
    (e e' : Execution) : Prop extends s.TakesTurn s' t before after e e' where
  alone : s.runner.races t = false

/-- A resumption is dropped, since there is no such execution. -/
structure DropsWake (s s' : Session α ε ν) (t : Task) (before after : List Task) : Prop where
  queue : s.runner.queue = before ++ t :: after
  waking : t.stage.role = .waking
  missing : ExecutionStorage.get s.runner.executions t.executionId = none
  executions : s'.runner.executions = s.runner.executions
  automations : s'.runner.automations = s.runner.automations
  ids : s'.runner.ids = s.runner.ids
  timers : s'.runner.timers = (s.runner.timers.cancel t.executionId).release t.executionId
    ((s.runner.timers.get? t.executionId).map Timer.serial)
  clock : s'.runner.clock = s.runner.clock
  sent : s'.sent = s.sent
  queued : s'.runner.queue = before ++ after

omit [AutomationStorage α] [Notifier ν] [LawfulExecutions ε] in
theorem DropsWake.mem {s s' : Session α ε ν} {t : Task} {before after : List Task}
    (hdrop : s.DropsWake s' t before after) : t ∈ s.runner.queue :=
  hdrop.queue ▸ List.mem_append_right _ List.mem_cons_self

omit [AutomationStorage α] [Notifier ν] [LawfulExecutions ε] in
/-- The other tasks stay in the queue, and no new ones come. -/
theorem DropsWake.mem_iff {s s' : Session α ε ν} {t t' : Task} {before after : List Task}
    (hdrop : s.DropsWake s' t before after) (hne : t' ≠ t) :
    t' ∈ s'.runner.queue ↔ t' ∈ s.runner.queue := by
  rw [hdrop.queue, hdrop.queued, List.mem_append, List.mem_append, List.mem_cons, or_iff_right hne]

omit [AutomationStorage α] [Notifier ν] [LawfulExecutions ε] in
theorem DropsWake.mem_of_queued {s s' : Session α ε ν} {t t' : Task} {before after : List Task}
    (hdrop : s.DropsWake s' t before after) (ht' : t' ∈ s'.runner.queue) : t' ∈ s.runner.queue := by
  by_cases hne : t' = t
  · exact hne ▸ hdrop.mem
  · exact (hdrop.mem_iff hne).mp ht'

/-- **The task at a place** drops its resumption, or takes its turn on a record. -/
theorem apply_go_of_place {s : Session α ε ν} {t : Task} {place : Nat}
    (hs : LawfulExecutions.Sound s.runner.executions)
    (hheld : t.Holds → ∃ e, ExecutionStorage.get s.runner.executions t.executionId = some e)
    (hplace : s.runner.queue[place]? = some t) :
    (∃ before after, s.DropsWake (s.apply (.go place)) t before after) ∨
      ∃ before after e e', s.TakesTurn (s.apply (.go place)) t before after e e' := by
  unfold apply
  simp only [hplace]
  obtain ⟨before, after, hqueue, hexecutions, hautomations, hids, hqueued⟩ :=
    Runner.goOn_cases hplace
  obtain ⟨htimers, hclock⟩ := s.runner.goOn_timers place t
  cases he : ExecutionStorage.get s.runner.executions t.executionId with
  | some e =>
    obtain ⟨e', hturn, hrev⟩ := Runner.stepTask_takes hs he
    exact .inr ⟨before, after, e, e', hqueue, he, hturn, hexecutions ▸ hrev,
      hautomations, hids, htimers, hclock, rfl, hqueued⟩
  | none =>
    have hwaking : t.stage.role = .waking := not_not.mp fun hholds => by
      obtain ⟨e, hfound⟩ := hheld hholds
      rw [he] at hfound
      cases hfound
    have hwake := Stage.eq_wake_of_role hwaking
    obtain ⟨hsame, hdone⟩ := Runner.stepTask_missing hwake he
    have hquiet : s.runner.sending? t = none :=
      Runner.sending?_of_not_act fun walk node => by rw [hwake]; exact nofun
    rcases hqueued with ⟨stage, hstage, _⟩ | ⟨_, _, hq⟩
    · rw [hdone] at hstage
      cases hstage
    · exact .inl ⟨before, after, hqueue, hwaking, he, hexecutions.trans hsame, hautomations,
        hids, htimers.trans (Runner.stepTask_missing_timers hwake he), hclock,
        by rw [hquiet]; exact List.append_nil _, hq⟩

omit [LawfulExecutions ε] in
/-- Where no task stands, nothing happens. -/
theorem apply_go_of_place_none {s : Session α ε ν} {place : Nat}
    (hplace : s.runner.queue[place]? = none) : s.apply (.go place) = s := by
  unfold apply
  simp only [hplace]

omit [LawfulExecutions ε] in
/-- **What a new process is**: none at all, or one that takes over between two steps. -/
theorem apply_reopen_cases (s : Session α ε ν) :
    s.apply .reopen = s ∨
      (∀ t ∈ s.runner.queue, t.stage.isWithinStep = false) ∧
        s.apply .reopen = ⟨s.runner.reopened, s.sent⟩ := by
  unfold Session.apply
  dsimp only
  split
  · rename_i hbetween
    rw [List.all_eq_true] at hbetween
    exact .inr ⟨fun t ht => by simpa using hbetween t ht, rfl⟩
  · exact .inl rfl

omit [AutomationStorage α] [ExecutionStorage ε] [Notifier ν] [LawfulExecutions ε] in
/-- The task at the place of a turn without a race does not race. -/
theorem alone_of_place {s : Session α ε ν} {t : Task} {place : Nat}
    (hplace : s.runner.queue[place]? = some t) (hrace : s.races (.go place) = false) :
    s.runner.races t = false := by
  have hany : s.runner.queue[place]?.any s.runner.races = false := hrace
  rw [hplace] at hany
  exact hany

/-- **What a turn is**: none at all, a dropped resumption, or a turn on a record. -/
theorem apply_go_cases {s : Session α ε ν} (hs : LawfulExecutions.Sound s.runner.executions)
    (hheld : ∀ {t}, t ∈ s.runner.queue → t.Holds →
      ∃ e, ExecutionStorage.get s.runner.executions t.executionId = some e) (place : Nat) :
    s.apply (.go place) = s ∨
      (∃ t before after, s.DropsWake (s.apply (.go place)) t before after) ∨
      ∃ t before after e e', s.TakesTurn (s.apply (.go place)) t before after e e' := by
  cases hplace : s.runner.queue[place]? with
  | none => exact .inl (apply_go_of_place_none hplace)
  | some t =>
    exact .inr ((apply_go_of_place hs (hheld (List.mem_of_getElem? hplace)) hplace).imp
      (fun hdrop => ⟨t, hdrop⟩) fun hgo => ⟨t, hgo⟩)

/-- **What a turn without a race is**: none at all, a dropped resumption, or a turn on a record while no
    other resumption has read it. -/
theorem apply_go_alone_cases {s : Session α ε ν}
    (hs : LawfulExecutions.Sound s.runner.executions)
    (hheld : ∀ {t}, t ∈ s.runner.queue → t.Holds →
      ∃ e, ExecutionStorage.get s.runner.executions t.executionId = some e) {place : Nat}
    (hrace : s.races (.go place) = false) :
    s.apply (.go place) = s ∨
      (∃ t before after, s.DropsWake (s.apply (.go place)) t before after) ∨
      ∃ t before after e e', s.GoesAlone (s.apply (.go place)) t before after e e' := by
  cases hplace : s.runner.queue[place]? with
  | none => exact .inl (apply_go_of_place_none hplace)
  | some t =>
    have halone := alone_of_place hplace hrace
    refine .inr ((apply_go_of_place hs (hheld (List.mem_of_getElem? hplace)) hplace).imp
      (fun hdrop => ⟨t, hdrop⟩) ?_)
    rintro ⟨before, after, e, e', hgo⟩
    exact ⟨t, before, after, e, e', hgo, halone⟩

end Session

end Dripline
