import Dripline.Run.Runner
import Dripline.Proofs.Store.Lawful

/-!
# One stage of a task

Everything that a stage can do, said once:

* `Sending`, `sending?`: the message that a stage sends, if it sends one;
* `Turn`: the record before and after a stage, what comes next and what is sent, one rule for each way
  through the stage. A rule names the record that is written, so that a stage without a write shows;
* `stepTask_turn`: a stage takes one of these ways, and the store is revised in that record alone;
* `stepTask_missing`: a resumption of an execution that is not there changes no record, and drops its
  timer (`stepTask_missing_timers`);
* `Around`, `Silent`, `stepTask_around`, `stepTask_silent`: the parts of a runner that no stage touches,
  and those that only a delivery touches.

Whatever is proved about runs goes through `Turn` and unfolds no stage again.
-/

namespace Dripline

/-! ## 1. What is sent -/

/-- A message that the notifier took for an execution. -/
structure Sending where
  executionId : String
  subject : String
  message : String
deriving DecidableEq, Repr

namespace Runner

variable {α ε ν : Type} [AutomationStorage α] [ExecutionStorage ε] [Notifier ν]

/-- What the notifier answers to a message at this moment. -/
def answer (r : Runner α ε ν) (subject message : String) : Except SendFault String :=
  (Notifier.send r.notifier (ExecutionStorage.all r.executions) subject message).outcome

/-- What a stage of a task sends: only an action does, and only when its delivery succeeds. -/
def sending? (r : Runner α ε ν) (t : Task) : Option Sending :=
  match t.stage with
  | .act walk node =>
    match Step.plan walk.graph walk.subject r.clock node with
    | .ok (.deliver message _) =>
      match r.answer walk.subject message with
      | .ok _ => some ⟨t.executionId, walk.subject, message⟩
      | .error _ => none
    | _ => none
  | _ => none

omit [AutomationStorage α] in
theorem sending?_of_not_act {r : Runner α ε ν} {t : Task} (h : ∀ walk node, t.stage ≠ .act walk node) :
    r.sending? t = none := by
  unfold sending?
  split
  · rename_i walk node hstage
    exact absurd hstage (h walk node)
  · rfl

/-! ## 2. The ways through a stage -/

section Turn

variable [LawfulExecutions ε]

/-- **The ways through a stage** of a task for the execution `id` with the record `e`: the record
    after it, what comes next, and what was sent. -/
inductive Turn (r : Runner α ε ν) (id : String) (setup : Setup) (e : Execution) :
    Stage → Execution → Next → Option Sending → Prop where
  | enterUnread (fault : Fault)
      (hget : AutomationStorage.get r.automations e.automationId = .error fault) :
      Turn r id setup e .enter e (.done (.error fault)) none
  | enterGone (hget : AutomationStorage.get r.automations e.automationId = .ok none) :
      Turn r id setup e .enter e
        (.stage (.failing none s!"Automation not found: {e.automationId}")) none
  | enterAgain (a : Automation) (nodeId : String)
      (hget : AutomationStorage.get r.automations e.automationId = .ok (some a))
      (hnode : e.currentNode = some nodeId) :
      Turn r id setup e .enter e (.stage (.arrive ⟨id, e.subject, .ofFlow a.flow⟩ nodeId)) none
  | enterFirst (a : Automation) (start : Node)
      (hget : AutomationStorage.get r.automations e.automationId = .ok (some a))
      (hnode : e.currentNode = none) (hstart : (Graph.ofFlow a.flow).start? = some start) :
      Turn r id setup e .enter e (.stage (.arrive ⟨id, e.subject, .ofFlow a.flow⟩ start.id)) none
  | enterNowhere (a : Automation)
      (hget : AutomationStorage.get r.automations e.automationId = .ok (some a))
      (hnode : e.currentNode = none) (hstart : (Graph.ofFlow a.flow).start? = none) :
      Turn r id setup e .enter e (.stage (.failing none "Start node not found")) none
  | arriveNowhere (walk : Walk) (nodeId : String) (hnode : walk.graph.node? nodeId = none) :
      Turn r id setup e (.arrive walk nodeId) e
        (.stage (.failing (some (nodeId, "unknown")) s!"Node {nodeId} not found")) none
  | arrive (walk : Walk) (nodeId : String) (node : Node)
      (hnode : walk.graph.node? nodeId = some node) :
      Turn r id setup e (.arrive walk nodeId)
        { e with status := .running, currentNode := some node.id } (.stage (.act walk node)) none
  | actFault (walk : Walk) (node : Node) (fault : StepFault)
      (hplan : Step.plan walk.graph walk.subject r.clock node = .error fault) :
      Turn r id setup e (.act walk node) e
        (.stage (.failing (some (node.id, node.kind.text)) fault.message)) none
  | actSettled (walk : Walk) (node : Node) (result : StepResult)
      (hplan : Step.plan walk.graph walk.subject r.clock node = .ok (.settled result)) :
      Turn r id setup e (.act walk node) e (.stage (.note walk node result)) none
  | actUndelivered (walk : Walk) (node : Node) (message next : String) (fault : SendFault)
      (hplan : Step.plan walk.graph walk.subject r.clock node = .ok (.deliver message next))
      (hanswer : r.answer walk.subject message = .error fault) :
      Turn r id setup e (.act walk node) e
        (.stage (.failing (some (node.id, node.kind.text)) fault.message)) none
  | actDelivered (walk : Walk) (node : Node) (message next deliveryId : String)
      (hplan : Step.plan walk.graph walk.subject r.clock node = .ok (.deliver message next))
      (hanswer : r.answer walk.subject message = .ok deliveryId) :
      Turn r id setup e (.act walk node) e
        (.stage (.note walk node (Step.delivered setup.previewChars message next deliveryId)))
        (some ⟨id, walk.subject, message⟩)
  | note (walk : Walk) (node : Node) (result : StepResult) :
      Turn r id setup e (.note walk node result)
        (e.noted (LawfulExecutions.kept ε) (r.logEntry node (some result.message) none))
        (.stage (.settle walk node result)) none
  | settleProceed (walk : Walk) (node : Node) (message next : String) :
      Turn r id setup e (.settle walk node (.proceed message next)) e
        (.stage (.arrive walk next)) none
  | settleStuck (walk : Walk) (node : Node) (message error : String) :
      Turn r id setup e (.settle walk node (.stuck message error)) e
        (.stage (.failing (some (node.id, node.kind.text)) error)) none
  | settleSuspend (walk : Walk) (node : Node) (message : String) (due : Moment)
      (result : TaskResult)
      (hresult : ∀ fault, result = .error fault → ∃ a, fault = .arithmetic a) :
      Turn r id setup e (.settle walk node (.suspend message due))
        { e with
          status := .pending
          currentNode := some node.id
          scheduledFor := some (LawfulExecutions.kept ε due) }
        (.done result) none
  | settleFinish (walk : Walk) (node : Node) (message : String) (found : Execution) :
      Turn r id setup e (.settle walk node (.finish message))
        { e with
          status := .completed
          completedAt := some (LawfulExecutions.kept ε r.clock) }
        (.done (.ok (some found))) none
  | failingQuiet (error : String) : Turn r id setup e (.failing none error) e (.stage .closing) none
  | failing (nodeId kind error : String) :
      Turn r id setup e (.failing (some (nodeId, kind)) error)
        (e.noted (LawfulExecutions.kept ε) (r.failureEntry nodeId kind error))
        (.stage .closing) none
  | closing (found : Execution) :
      Turn r id setup e .closing
        { e with
          status := .failed
          scheduledFor := none
          completedAt := some (LawfulExecutions.kept ε r.clock) }
        (.done (.ok (some found))) none
  | wakeStale (hsuspended : e.isSuspended = false) :
      Turn r id setup e .wake e (.done (.ok none)) none
  | wakeUnread (fault : Fault) (hsuspended : e.isSuspended = true)
      (hget : AutomationStorage.get r.automations e.automationId = .error fault) :
      Turn r id setup e .wake e (.done (.error fault)) none
  | wakeGone (timer : Option Nat) (hsuspended : e.isSuspended = true)
      (hget : AutomationStorage.get r.automations e.automationId = .ok none) :
      Turn r id setup e .wake e
        (.stage (.lost e.currentNode s!"Automation not found: {e.automationId}" timer)) none
  | wake (a : Automation) (target : String) (timer : Option Nat)
      (hsuspended : e.isSuspended = true)
      (hget : AutomationStorage.get r.automations e.automationId = .ok (some a))
      (htarget : e.currentNode.bind (Graph.ofFlow a.flow).successor? = some target) :
      Turn r id setup e .wake e (.stage (.leave target timer)) none
  | wakeNowhere (a : Automation) (timer : Option Nat) (hsuspended : e.isSuspended = true)
      (hget : AutomationStorage.get r.automations e.automationId = .ok (some a))
      (htarget : e.currentNode.bind (Graph.ofFlow a.flow).successor? = none) :
      Turn r id setup e .wake e
        (.stage (.lost e.currentNode
          ("No outgoing edge from node " ++ e.currentNode.getD "None") timer)) none
  | lost (nodeId : Option String) (error : String) (timer : Option Nat) (entry : LogEntry)
      (herror : entry.error = some error) :
      Turn r id setup e (.lost nodeId error timer)
        (e.noted (LawfulExecutions.kept ε) entry) (.stage (.lostClosing timer)) none
  | lostClosing (timer : Option Nat) :
      Turn r id setup e (.lostClosing timer)
        { e with
          status := .failed
          scheduledFor := none
          completedAt := some (LawfulExecutions.kept ε r.clock) }
        (.done (.ok none)) none
  | leave (target : String) (timer : Option Nat) :
      Turn r id setup e (.leave target timer)
        { e with currentNode := some target, scheduledFor := none } (.stage .enter) none

/-! ## 3. Each stage takes one of its ways -/

variable {r : Runner α ε ν} {id : String} {setup : Setup} {e : Execution}

/-- What a stage leaves is described by a turn, and the store is revised in one record. -/
def Takes (r : Runner α ε ν) (id : String) (setup : Setup) (e : Execution) (stage : Stage)
    (sent : Option Sending) (out : Runner α ε ν × Next) : Prop :=
  ∃ e', Turn r id setup e stage e' out.2 sent ∧ Revises r.executions out.1.executions id e'

theorem stepEnter_takes (hs : LawfulExecutions.Sound r.executions)
    (he : ExecutionStorage.get r.executions id = some e) :
    Takes r id setup e .enter none (r.stepEnter id) := by
  have hsame := Revises.same hs he
  unfold stepEnter
  rw [he]
  cases hget : AutomationStorage.get r.automations e.automationId with
  | error fault =>
    simp only [hget]
    exact ⟨e, .enterUnread fault hget, hsame⟩
  | ok found =>
    cases found with
    | none =>
      simp only [hget]
      exact ⟨e, .enterGone hget, hsame⟩
    | some a =>
      cases hnode : e.currentNode with
      | some nodeId =>
        simp only [hget, hnode]
        exact ⟨e, .enterAgain a nodeId hget hnode, hsame⟩
      | none =>
        cases hstart : (Graph.ofFlow a.flow).start? with
        | some start =>
          simp only [hget, hnode, hstart]
          exact ⟨e, .enterFirst a start hget hnode hstart, hsame⟩
        | none =>
          simp only [hget, hnode, hstart]
          exact ⟨e, .enterNowhere a hget hnode hstart, hsame⟩

theorem checkFields_of_known {fields : List Field} (h : ∀ f ∈ fields, ∀ name, f ≠ .unknown name) :
    checkFields fields = .ok () := by
  unfold checkFields unknownNames
  rw [List.filterMap_eq_nil_iff.mpr fun f hf => ?_, List.mergeSort_nil, List.eraseDups_nil]
  cases f with
  | unknown name => exact absurd rfl (h _ hf name)
  | _ => rfl

/-- A write of known fields goes through, and what follows it sees the revised store. -/
theorem write_takes {q : Runner α ε ν} {stage : Stage} {sent : Option Sending} {fields : List Field}
    {next : Execution → Runner α ε ν → Runner α ε ν × Next} (hq : q.executions = r.executions)
    (hs : LawfulExecutions.Sound r.executions) (he : ExecutionStorage.get r.executions id = some e)
    (hfields : ∀ f ∈ fields, ∀ name, f ≠ .unknown name)
    (h : ∀ s', Revises r.executions s' id (e.written (LawfulExecutions.kept ε) fields) →
      Takes r id setup e stage sent
        (next (e.written (LawfulExecutions.kept ε) fields) { q with executions := s' })) :
    Takes r id setup e stage sent (q.write id fields next) := by
  obtain ⟨s', hs', hrev⟩ := revises_update hs he (checkFields_of_known hfields)
  unfold write
  rw [hq, hs']
  exact h s' hrev

theorem append_takes {q : Runner α ε ν} {stage next : Stage} {sent : Option Sending}
    {entry : LogEntry} (hq : q.executions = r.executions)
    (hs : LawfulExecutions.Sound r.executions) (he : ExecutionStorage.get r.executions id = some e)
    (h : Turn r id setup e stage (e.noted (LawfulExecutions.kept ε) entry) (.stage next) sent) :
    Takes r id setup e stage sent (q.append id entry next) := by
  obtain ⟨s', hs', hrev⟩ := revises_append hs he entry
  unfold append
  rw [hq, hs']
  exact ⟨_, h, hrev⟩

theorem stepArrive_takes (hs : LawfulExecutions.Sound r.executions)
    (he : ExecutionStorage.get r.executions id = some e) (walk : Walk) (nodeId : String) :
    Takes r id setup e (.arrive walk nodeId) none (r.stepArrive id walk nodeId) := by
  unfold stepArrive
  cases hnode : walk.graph.node? nodeId with
  | none => exact ⟨e, .arriveNowhere walk nodeId hnode, Revises.same hs he⟩
  | some node =>
    exact write_takes rfl hs he (by simp) fun s' hrev => ⟨_, .arrive walk nodeId node hnode, hrev⟩

theorem stepAct_takes (hs : LawfulExecutions.Sound r.executions)
    (he : ExecutionStorage.get r.executions id = some e) {t : Task} (hid : t.executionId = id)
    {walk : Walk} {node : Node} (hstage : t.stage = .act walk node) :
    Takes r id setup e (.act walk node) (r.sending? t) (r.stepAct setup walk node) := by
  have hsame := Revises.same hs he
  unfold stepAct sending?
  rw [hstage, hid]
  cases hplan : Step.plan walk.graph walk.subject r.clock node with
  | error fault =>
    simp only [hplan]
    exact ⟨e, .actFault walk node fault hplan, hsame⟩
  | ok plan =>
    cases plan with
    | settled result =>
      simp only [hplan]
      exact ⟨e, .actSettled walk node result hplan, hsame⟩
    | deliver message next =>
      cases hanswer : r.answer walk.subject message with
      | error fault =>
        have houtcome := hanswer
        unfold answer at houtcome
        simp only [hplan, hanswer, houtcome]
        exact ⟨e, .actUndelivered walk node message next fault hplan hanswer, hsame⟩
      | ok deliveryId =>
        have houtcome := hanswer
        unfold answer at houtcome
        simp only [hplan, hanswer, houtcome]
        exact ⟨e, .actDelivered walk node message next deliveryId hplan hanswer, hsame⟩

omit [AutomationStorage α] [ExecutionStorage ε] [Notifier ν] [LawfulExecutions ε] in
theorem schedule_executions (r : Runner α ε ν) (id : String) (due : Moment) :
    (r.schedule id due).2.executions = r.executions := by
  unfold schedule
  split
  · rfl
  · split <;> rfl

omit [AutomationStorage α] [ExecutionStorage ε] [Notifier ν] [LawfulExecutions ε] in
theorem attend_executions (r : Runner α ε ν) (setup : Setup) (id : String) (due : Moment) :
    (r.attend setup id due).2.executions = r.executions := by
  have hschedule := r.schedule_executions id due
  unfold attend
  split
  · cases h : r.schedule id due with
    | mk result r' =>
      rw [h] at hschedule
      cases result <;> exact hschedule
  · rfl

theorem stepSettle_takes (hs : LawfulExecutions.Sound r.executions)
    (he : ExecutionStorage.get r.executions id = some e) (walk : Walk) (node : Node)
    (result : StepResult) :
    Takes r id setup e (.settle walk node result) none (r.stepSettle setup id walk node result) := by
  cases result with
  | proceed message next =>
    exact ⟨e, .settleProceed walk node message next, Revises.same hs he⟩
  | stuck message error =>
    exact ⟨e, .settleStuck walk node message error, Revises.same hs he⟩
  | finish message =>
    exact write_takes rfl hs he (by simp) fun s' hrev => ⟨_, .settleFinish walk node message _, hrev⟩
  | suspend message due =>
    refine write_takes rfl hs he (by simp) fun s' hrev => ?_
    -- arming the timer comes after the write and can only change what is returned
    dsimp only
    generalize hsaid : say { r with executions := s' } .info .interpreter
      s!"Execution {id} suspended at {node.id} until {due.render}" = said
    have hexecutions : said.executions = s' := by
      rw [← hsaid]
      rfl
    have hattend := (said.attend_executions setup id due).trans hexecutions
    cases hcase : said.attend setup id due with
    | mk outcome r' =>
      rw [hcase] at hattend
      cases outcome with
      | ok _ => exact ⟨_, .settleSuspend walk node message due _ nofun, hattend ▸ hrev⟩
      | error fault =>
        refine ⟨_, .settleSuspend walk node message due _ fun _ h => ?_, hattend ▸ hrev⟩
        exact ⟨fault, (Except.error.inj h).symm⟩

theorem stepFailing_takes (hs : LawfulExecutions.Sound r.executions)
    (he : ExecutionStorage.get r.executions id = some e) (entry : Option (String × String))
    (error : String) :
    Takes r id setup e (.failing entry error) none (r.stepFailing id entry error) := by
  cases entry with
  | none => exact ⟨e, .failingQuiet error, Revises.same hs he⟩
  | some entry =>
    obtain ⟨nodeId, kind⟩ := entry
    exact append_takes rfl hs he (.failing nodeId kind error)

theorem stepClosing_takes (hs : LawfulExecutions.Sound r.executions)
    (he : ExecutionStorage.get r.executions id = some e) :
    Takes r id setup e .closing none (r.stepClosing id) :=
  write_takes rfl hs he (by simp) fun _ hrev => ⟨_, .closing _, hrev⟩

theorem stepWake_takes (hs : LawfulExecutions.Sound r.executions)
    (he : ExecutionStorage.get r.executions id = some e) :
    Takes r id setup e .wake none (r.stepWake id) := by
  have hsame := Revises.same hs he
  unfold stepWake
  simp only [he]
  cases hsuspended : e.isSuspended with
  | false =>
    simp only [Bool.not_false, if_true]
    exact ⟨e, .wakeStale hsuspended, hsame⟩
  | true =>
    simp only [Bool.not_true, Bool.false_eq_true, if_false]
    cases hget : AutomationStorage.get r.automations e.automationId with
    | error fault =>
      simp only [say, hget]
      exact ⟨e, .wakeUnread fault hsuspended hget, hsame⟩
    | ok found =>
      cases found with
      | none =>
        simp only [say, hget]
        exact ⟨e, .wakeGone _ hsuspended hget, hsame⟩
      | some a =>
        cases htarget : e.currentNode.bind (Graph.ofFlow a.flow).successor? with
        | some target =>
          simp only [say, hget, htarget]
          exact ⟨e, .wake a target _ hsuspended hget htarget, hsame⟩
        | none =>
          simp only [say, hget, htarget]
          exact ⟨e, .wakeNowhere a _ hsuspended hget htarget, hsame⟩

theorem stepLost_takes (hs : LawfulExecutions.Sound r.executions)
    (he : ExecutionStorage.get r.executions id = some e) (nodeId : Option String) (error : String)
    (timer : Option Nat) :
    Takes r id setup e (.lost nodeId error timer) none (r.stepLost id nodeId error timer) := by
  exact append_takes rfl hs he (.lost nodeId error timer _ rfl)

theorem stepLostClosing_takes (hs : LawfulExecutions.Sound r.executions)
    (he : ExecutionStorage.get r.executions id = some e) (timer : Option Nat) :
    Takes r id setup e (.lostClosing timer) none (r.stepLostClosing id timer) :=
  write_takes rfl hs he (by simp) fun _ hrev => ⟨_, .lostClosing timer, hrev⟩

theorem stepLeave_takes (hs : LawfulExecutions.Sound r.executions)
    (he : ExecutionStorage.get r.executions id = some e) (target : String) (timer : Option Nat) :
    Takes r id setup e (.leave target timer) none (r.stepLeave id target timer) :=
  write_takes rfl hs he (by simp) fun _ hrev => ⟨_, .leave target timer, hrev⟩

/-- **A stage takes one of its ways**, and revises the store in the record of its execution alone. -/
theorem stepTask_takes {t : Task} (hs : LawfulExecutions.Sound r.executions)
    (he : ExecutionStorage.get r.executions t.executionId = some e) :
    Takes r t.executionId t.setup e t.stage (r.sending? t) (r.stepTask t) := by
  have hquiet := sending?_of_not_act (r := r) (t := t)
  unfold stepTask
  cases hstage : t.stage with
  | act walk node => exact stepAct_takes hs he rfl hstage
  | enter => rw [hquiet (by simp [hstage])]; exact stepEnter_takes hs he
  | arrive walk nodeId => rw [hquiet (by simp [hstage])]; exact stepArrive_takes hs he walk nodeId
  | note walk node result =>
    rw [hquiet (by simp [hstage])]
    exact append_takes rfl hs he (.note walk node result)
  | settle walk node result =>
    rw [hquiet (by simp [hstage])]
    exact stepSettle_takes hs he walk node result
  | failing entry error =>
    rw [hquiet (by simp [hstage])]
    exact stepFailing_takes hs he entry error
  | closing => rw [hquiet (by simp [hstage])]; exact stepClosing_takes hs he
  | wake => rw [hquiet (by simp [hstage])]; exact stepWake_takes hs he
  | lost nodeId error timer =>
    rw [hquiet (by simp [hstage])]
    exact stepLost_takes hs he nodeId error timer
  | lostClosing timer => rw [hquiet (by simp [hstage])]; exact stepLostClosing_takes hs he timer
  | leave target timer => rw [hquiet (by simp [hstage])]; exact stepLeave_takes hs he target timer

end Turn

variable {r : Runner α ε ν}

/-- A resumption of an execution that is not there changes no record. -/
theorem stepTask_missing {t : Task} (hstage : t.stage = .wake)
    (he : ExecutionStorage.get r.executions t.executionId = none) :
    (r.stepTask t).1.executions = r.executions ∧ (r.stepTask t).2 = .done (.ok none) := by
  unfold stepTask
  rw [hstage]
  show (r.stepWake t.executionId).1.executions = _ ∧ (r.stepWake t.executionId).2 = _
  unfold stepWake
  simp only [he]
  exact ⟨rfl, rfl⟩

/-- A resumption of an execution that is not there drops its timer. -/
theorem stepTask_missing_timers {t : Task} (hstage : t.stage = .wake)
    (he : ExecutionStorage.get r.executions t.executionId = none) :
    (r.stepTask t).1.timers = (r.timers.cancel t.executionId).release t.executionId
      ((r.timers.get? t.executionId).map Timer.serial) := by
  unfold stepTask
  rw [hstage]
  show (r.stepWake t.executionId).1.timers = _
  unfold stepWake
  simp only [he]
  rfl

/-! ## 4. What no stage touches -/

/-- The parts of a runner that no stage touches. -/
structure Around (r r' : Runner α ε ν) : Prop where
  automations : r'.automations = r.automations
  clock : r'.clock = r.clock
  ids : r'.ids = r.ids
  queue : r'.queue = r.queue
  previewChars : r'.previewChars = r.previewChars
  recentLimit : r'.recentLimit = r.recentLimit

/-- The parts of a runner that nothing but a delivery touches. -/
structure Silent (r r' : Runner α ε ν) : Prop extends Around r r' where
  notifier : r'.notifier = r.notifier

omit [AutomationStorage α] [ExecutionStorage ε] [Notifier ν] in
/-- Other records, timers and lines in the journal. -/
theorem Silent.of_kept (r : Runner α ε ν) (executions : ε) (timers : Timers) (journal : List Line) :
    Silent r { r with executions := executions, timers := timers, journal := journal } where
  automations := rfl
  clock := rfl
  ids := rfl
  queue := rfl
  previewChars := rfl
  recentLimit := rfl
  notifier := rfl

omit [AutomationStorage α] [ExecutionStorage ε] [Notifier ν] in
theorem Silent.trans {r r' r'' : Runner α ε ν} (h : Silent r r') (h' : Silent r' r'') :
    Silent r r'' where
  automations := h'.automations.trans h.automations
  clock := h'.clock.trans h.clock
  ids := h'.ids.trans h.ids
  queue := h'.queue.trans h.queue
  previewChars := h'.previewChars.trans h.previewChars
  recentLimit := h'.recentLimit.trans h.recentLimit
  notifier := h'.notifier.trans h.notifier

omit [AutomationStorage α] [ExecutionStorage ε] [Notifier ν] in
theorem say_silent (r : Runner α ε ν) (level : Level) (speaker : Speaker) (text : String) :
    Silent r (r.say level speaker text) := .of_kept r _ _ _

omit [AutomationStorage α] [Notifier ν] in
theorem write_silent {id : String} {fields : List Field}
    {next : Execution → Runner α ε ν → Runner α ε ν × Next}
    (h : ∀ e s', Silent r (next e { r with executions := s' }).1) :
    Silent r (r.write id fields next).1 := by
  unfold write
  split
  · exact h _ _
  · exact .of_kept r _ _ _

omit [AutomationStorage α] [Notifier ν] in
theorem append_silent (id : String) (entry : LogEntry) (next : Stage) :
    Silent r (r.append id entry next).1 := by
  unfold append
  split <;> exact .of_kept r _ _ _

omit [AutomationStorage α] [ExecutionStorage ε] [Notifier ν] in
theorem schedule_silent (r : Runner α ε ν) (id : String) (due : Moment) :
    Silent r (r.schedule id due).2 := by
  unfold schedule
  split
  · exact .of_kept r _ _ _
  · split <;> exact .of_kept r _ _ _

omit [AutomationStorage α] [ExecutionStorage ε] [Notifier ν] in
theorem attend_silent (r : Runner α ε ν) (setup : Setup) (id : String) (due : Moment) :
    Silent r (r.attend setup id due).2 := by
  have hschedule := r.schedule_silent id due
  unfold attend
  split
  · cases hcase : r.schedule id due with
    | mk outcome r' =>
      rw [hcase] at hschedule
      cases outcome <;> exact hschedule
  · exact .of_kept r _ _ _

omit [Notifier ν] in
theorem stepEnter_silent (r : Runner α ε ν) (id : String) : Silent r (r.stepEnter id).1 := by
  have hsame : Silent r r := .of_kept r _ _ _
  unfold stepEnter
  split
  · exact hsame
  · split
    · exact hsame
    · exact hsame
    · dsimp only
      split
      · exact hsame
      · split <;> exact hsame

omit [Notifier ν] in
theorem stepWake_silent (r : Runner α ε ν) (id : String) : Silent r (r.stepWake id).1 := by
  unfold stepWake
  dsimp only
  split
  · exact .of_kept r _ _ _
  · split
    · exact .of_kept r _ _ _
    · split
      · exact .of_kept r _ _ _
      · exact .of_kept r _ _ _
      · split <;> exact .of_kept r _ _ _

/-- **A stage touches records, timers and the journal only**, if it is not the step of a node. -/
theorem stepTask_silent {t : Task} (h : ∀ walk node, t.stage ≠ .act walk node) :
    Silent r (r.stepTask t).1 := by
  unfold stepTask
  cases hstage : t.stage with
  | enter => exact r.stepEnter_silent t.executionId
  | arrive walk nodeId =>
    show Silent r (r.stepArrive t.executionId walk nodeId).1
    unfold stepArrive
    split
    · exact .of_kept r _ _ _
    · exact write_silent fun _ _ => .of_kept r _ _ _
  | act walk node => exact absurd hstage (h walk node)
  | note walk node result => exact append_silent _ _ _
  | settle walk node result =>
    cases result with
    | proceed message next => exact .of_kept r _ _ _
    | stuck message error => exact .of_kept r _ _ _
    | finish message =>
      exact (r.say_silent _ _ _).trans (write_silent fun _ _ => .of_kept _ _ _ _)
    | suspend message due =>
      refine write_silent fun e s' => ?_
      dsimp only
      generalize hsaid : say { r with executions := s' } .info .interpreter
        s!"Execution {t.executionId} suspended at {node.id} until {due.render}" = said
      have hbefore : Silent r said := hsaid ▸ .of_kept r _ _ _
      have hattend := hbefore.trans (said.attend_silent t.setup t.executionId due)
      split <;> rename_i hcase <;> rw [hcase] at hattend <;> exact hattend
  | failing entry error =>
    cases entry with
    | none => exact r.say_silent _ _ _
    | some entry => exact (r.say_silent _ _ _).trans (append_silent _ _ _)
  | closing => exact write_silent fun _ _ => .of_kept r _ _ _
  | wake => exact r.stepWake_silent t.executionId
  | lost nodeId error timer => exact (r.say_silent _ _ _).trans (append_silent _ _ _)
  | lostClosing timer => exact write_silent fun _ _ => .of_kept r _ _ _
  | leave target timer => exact write_silent fun _ _ => .of_kept r _ _ _

omit [AutomationStorage α] in
theorem stepAct_around (r : Runner α ε ν) (setup : Setup) (walk : Walk) (node : Node) :
    Around r (r.stepAct setup walk node).1 := by
  unfold stepAct
  split
  · exact ⟨rfl, rfl, rfl, rfl, rfl, rfl⟩
  · exact ⟨rfl, rfl, rfl, rfl, rfl, rfl⟩
  · dsimp only
    split <;> exact ⟨rfl, rfl, rfl, rfl, rfl, rfl⟩

/-- **A stage touches records, the notifier, timers and the journal only.** -/
theorem stepTask_around (r : Runner α ε ν) (t : Task) : Around r (r.stepTask t).1 := by
  by_cases hact : ∃ walk node, t.stage = .act walk node
  · obtain ⟨walk, node, hstage⟩ := hact
    unfold stepTask
    rw [hstage]
    exact r.stepAct_around t.setup walk node
  · exact (stepTask_silent fun walk node hstage => hact ⟨walk, node, hstage⟩).toAround

end Runner

end Dripline
