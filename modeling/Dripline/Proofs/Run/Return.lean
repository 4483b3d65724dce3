import Dripline.Proofs.Run.Ending
import Dripline.Proofs.Run.Registry

/-!
# What a call returns

A call of the interpreter that comes to its end returns the record as it is stored, whatever the flow
and wherever the record stood in it:

* `Returns`, `stepTask_returns`: a stage that ends a task with a record returns the stored one;
* `Stage.KeepsTo`: the stages of a call within a flow, which may be any list of nodes and edges, or none;
  `Turn.keepsTo`: the stage after it is one of them too;
* `Rests`: where a call leaves its record: completed, failed, or at a delay with a timer;
  `Fares.next`: a call goes on within its flow, or comes to rest;
* **`call_comes_to_rest`**: a call whose automation can be read comes to rest or does not end. When the
  automation cannot be read, the fault is the result, and nothing has happened;
* `call_raises_unread`: an automation that was stored and cannot be read.
-/

namespace Dripline

namespace Runner

variable {α ε ν : Type} [AutomationStorage α] [ExecutionStorage ε] [Notifier ν]
  [LawfulExecutions ε] {r : Runner α ε ν} {t : Task} {id : String} {e : Execution}

/-! ## 1. The stored record -/

/-- A stage that ends a task with a record returns the one that is stored. -/
def Returns (id : String) (out : Runner α ε ν × Next) : Prop :=
  ∀ e, out.2 = .done (.ok (some e)) → ExecutionStorage.get out.1.executions id = some e

omit [AutomationStorage α] [Notifier ν] [LawfulExecutions ε] in
theorem returns_stage (r : Runner α ε ν) (stage : Stage) : Returns id (r, .stage stage) :=
  fun _ h => nomatch h

omit [AutomationStorage α] [Notifier ν] [LawfulExecutions ε] in
theorem returns_fault (r : Runner α ε ν) (fault : Fault) : Returns id (r, .done (.error fault)) :=
  fun _ h => nomatch h

omit [AutomationStorage α] [Notifier ν] [LawfulExecutions ε] in
theorem returns_nothing (r : Runner α ε ν) : Returns id (r, .done (.ok none)) := fun _ h => nomatch h

omit [AutomationStorage α] [Notifier ν] in
theorem write_returns {fields : List Field} {next : Execution → Runner α ε ν → Runner α ε ν × Next}
    (hs : LawfulExecutions.Sound r.executions) (he : ExecutionStorage.get r.executions id = some e)
    (hfields : ∀ f ∈ fields, ∀ name, f ≠ .unknown name)
    (h : ∀ e' s', ExecutionStorage.get s' id = some e' →
      Returns id (next e' { r with executions := s' })) :
    Returns id (r.write id fields next) := by
  obtain ⟨s', hs', hrev⟩ := revises_update hs he (checkFields_of_known hfields)
  unfold write
  rw [hs']
  exact h _ s' hrev.own

omit [AutomationStorage α] [Notifier ν] [LawfulExecutions ε] in
theorem append_returns (entry : LogEntry) (next : Stage) : Returns id (r.append id entry next) := by
  unfold append
  split
  · exact returns_stage _ _
  · exact returns_fault _ _

omit [AutomationStorage α] [Notifier ν] in
theorem stepSettle_returns (hs : LawfulExecutions.Sound r.executions)
    (he : ExecutionStorage.get r.executions id = some e) (setup : Setup) (walk : Walk) (node : Node)
    (result : StepResult) : Returns id (r.stepSettle setup id walk node result) := by
  cases result with
  | proceed message next => exact returns_stage _ _
  | stuck message error => exact returns_stage _ _
  | finish message =>
    have hs' : LawfulExecutions.Sound
      (r.say .info .interpreter s!"Execution {id} completed").executions := hs
    refine write_returns hs' he (by simp) fun e' s' hget found h => ?_
    cases h
    exact hget
  | suspend message due =>
    refine write_returns hs he (by simp) fun e' s' hget => ?_
    dsimp only
    generalize hsaid : say { r with executions := s' } .info .interpreter
      s!"Execution {id} suspended at {node.id} until {due.render}" = said
    have hattend := said.attend_executions setup id due
    rw [← hsaid] at hattend
    cases hcase : said.attend setup id due with
    | mk outcome r' =>
      rw [← hsaid] at hcase
      rw [hcase] at hattend
      cases outcome with
      | error fault => exact returns_fault _ _
      | ok _ =>
        intro found h
        cases h
        exact (congrArg (ExecutionStorage.get · id) hattend).trans hget

/-- **A stage that ends a task with a record returns the stored one.** -/
theorem stepTask_returns (hs : LawfulExecutions.Sound r.executions)
    (he : ExecutionStorage.get r.executions t.executionId = some e) :
    Returns t.executionId (r.stepTask t) := by
  unfold stepTask
  cases t.stage with
  | enter =>
    show Returns _ (r.stepEnter t.executionId)
    unfold stepEnter
    rw [he]
    dsimp only
    split
    · exact returns_fault _ _
    · exact returns_stage _ _
    · split
      · exact returns_stage _ _
      · split <;> exact returns_stage _ _
  | arrive walk nodeId =>
    show Returns _ (r.stepArrive t.executionId walk nodeId)
    unfold stepArrive
    split
    · exact returns_stage _ _
    · exact write_returns hs he (by simp) fun _ _ _ => returns_stage _ _
  | act walk node =>
    show Returns _ (r.stepAct t.setup walk node)
    unfold stepAct
    split
    · exact returns_stage _ _
    · exact returns_stage _ _
    · dsimp only
      split <;> exact returns_stage _ _
  | note walk node result => exact append_returns _ _
  | settle walk node result => exact stepSettle_returns hs he _ _ _ _
  | failing entry error =>
    cases entry with
    | none => exact returns_stage _ _
    | some entry => exact append_returns _ _
  | closing =>
    refine write_returns hs he (by simp) fun e' s' hget found h => ?_
    cases h
    exact hget
  | wake =>
    show Returns _ (r.stepWake t.executionId)
    unfold stepWake
    simp only [he]
    split
    · exact returns_nothing _
    · split
      · exact returns_fault _ _
      · exact returns_stage _ _
      · split <;> exact returns_stage _ _
  | lost nodeId error timer => exact append_returns _ _
  | lostClosing timer =>
    exact write_returns hs he (by simp) fun _ _ _ => returns_nothing _
  | leave target timer =>
    exact write_returns hs he (by simp) fun _ _ _ => returns_stage _ _

/-- A suspension whose moment compares with the clock ends its task with the record. -/
theorem stepTask_suspends {walk : Walk} {node : Node} {message : String} {due : Moment}
    (hs : LawfulExecutions.Sound r.executions)
    (he : ExecutionStorage.get r.executions t.executionId = some e)
    (hstage : t.stage = .settle walk node (.suspend message due))
    (hsince : ∃ micros, due.since r.clock = .ok micros) :
    ∃ found, (r.stepTask t).2 = .done (.ok (some found)) := by
  have hfields : checkFields [.status .pending, .currentNode (some node.id),
    .scheduledFor (some due)] = .ok () := checkFields_of_known (by simp)
  obtain ⟨s', hs', _⟩ := revises_update hs he hfields
  unfold stepTask
  rw [hstage]
  show ∃ found, (r.stepSettle t.setup t.executionId walk node (.suspend message due)).2 = _
  unfold stepSettle write
  simp only [hs']
  generalize hsaid : say { r with executions := s' } .info .interpreter
    s!"Execution {t.executionId} suspended at {node.id} until {due.render}" = said
  have hclock : said.clock = r.clock := by
    rw [← hsaid]
    rfl
  obtain ⟨micros, hmicros⟩ := hsince
  rw [← hclock] at hmicros
  have hattend : (said.attend t.setup t.executionId due).1 = .ok () := by
    unfold attend
    split
    · rcases said.schedule_cases t.executionId due with
        ⟨_, hkept, _⟩ | ⟨_, ⟨fault, hfault⟩, _⟩ | ⟨_, harmed, _⟩
      · cases hcase : said.schedule t.executionId due with
        | mk outcome r' =>
          rw [hcase] at hkept
          cases hkept
          rfl
      · cases hmicros.symm.trans hfault
      · cases hcase : said.schedule t.executionId due with
        | mk outcome r' =>
          rw [hcase] at harmed
          cases harmed
          rfl
    · rfl
  cases hcase : said.attend t.setup t.executionId due with
  | mk outcome r' =>
    rw [hcase] at hattend
    cases hattend
    exact ⟨_, rfl⟩

end Runner

/-! ## 2. Within a flow -/

/-- A result that waits does so at a delay, until a moment with an offset. -/
def StepResult.IsOf (node : Node) : StepResult → Prop
  | .suspend _ due => node.kind = .delay ∧ due.isAnchored = true
  | _ => True

/-- **The stages of a call** within a flow, if there is one. A node at which it acts is the one that the
    flow has under its id. -/
def Stage.KeepsTo (f : Option Flow) : Stage → Prop
  | .arrive walk _ => f.map Graph.ofFlow = some walk.graph
  | .act walk node => f.map Graph.ofFlow = some walk.graph ∧ walk.graph.node? node.id = some node
  | .note walk node result =>
    f.map Graph.ofFlow = some walk.graph ∧ walk.graph.node? node.id = some node ∧ result.IsOf node
  | .settle walk node result =>
    f.map Graph.ofFlow = some walk.graph ∧ walk.graph.node? node.id = some node ∧ result.IsOf node
  | .failing _ _ => True
  | .closing => True
  | _ => False

theorem Stage.role_of_keepsTo {f : Option Flow} {stage : Stage} (h : stage.KeepsTo f) :
    stage.role = .interpreting := by
  cases stage with
  | enter => exact h.elim
  | wake => exact h.elim
  | lost => exact h.elim
  | lostClosing => exact h.elim
  | leave => exact h.elim
  | _ => rfl

namespace Runner

variable {α ε ν : Type} [AutomationStorage α] [ExecutionStorage ε] [Notifier ν]
  [LawfulExecutions ε] {r : Runner α ε ν} {t : Task} {id : String} {setup : Setup} {e e' : Execution}
  {f : Option Flow} {stage stage' : Stage} {sent : Option Sending}

/-- **The next stage of a call is one within its flow**, and its record stays open. -/
theorem Turn.keepsTo (h : Turn r id setup e stage e' (.stage stage') sent)
    (hclock : r.clock.isAnchored = true) (hkeeps : stage.KeepsTo f) :
    stage'.KeepsTo f ∧ e'.completedAt = e.completedAt := by
  cases h with
  | arriveNowhere => exact ⟨trivial, rfl⟩
  | arrive walk nodeId node hnode =>
    obtain ⟨flow, _, hgraph⟩ := Option.map_eq_some_iff.mp hkeeps
    refine ⟨⟨hkeeps, ?_⟩, rfl⟩
    have hid : node.id = nodeId := by
      rw [← hgraph] at hnode
      exact Graph.id_of_node? hnode
    rw [hid]
    exact hnode
  | actFault => exact ⟨trivial, rfl⟩
  | actSettled walk node result hplan =>
    refine ⟨⟨hkeeps.1, hkeeps.2, ?_⟩, rfl⟩
    cases result with
    | suspend message due =>
      exact ⟨Step.kind_of_suspend hplan, (Step.isAnchored_of_suspend hplan).trans hclock⟩
    | _ => trivial
  | actUndelivered => exact ⟨trivial, rfl⟩
  | actDelivered => exact ⟨⟨hkeeps.1, hkeeps.2, trivial⟩, rfl⟩
  | note => exact ⟨hkeeps, rfl⟩
  | settleProceed => exact ⟨hkeeps.1, rfl⟩
  | settleStuck => exact ⟨trivial, rfl⟩
  | failingQuiet => exact ⟨trivial, rfl⟩
  | failing => exact ⟨trivial, rfl⟩
  | _ => exact hkeeps.elim

/-! ## 3. At rest -/

/-- **Where a call leaves its record**, told by the status. A delay at which it waits is a node of the
    flow, and the timer for it is the one that was there, or a new one. -/
inductive Rests (ε : Type) [ExecutionStorage ε] [LawfulExecutions ε] (f : Option Flow)
    (before after : Timers) (id : String) (e : Execution) : Prop where
  | completed (hstatus : e.status = .completed) (hover : e.completedAt.isSome = true)
  | failed (hstatus : e.status = .failed) (hover : e.completedAt.isSome = true)
      (hidle : e.scheduledFor = none)
  | waiting (flow : Flow) (node : Node) (due : Moment) (hstatus : e.status = .pending)
      (hopen : e.completedAt = none) (hflow : f = some flow) (hcurrent : e.currentNode = some node.id)
      (hnode : (Graph.ofFlow flow).node? node.id = some node) (hkind : node.kind = .delay)
      (hdue : e.scheduledFor = some (LawfulExecutions.kept ε due))
      (htimer : after.get? id = (before.get? id).or (some ⟨due, before.nextSerial, .waiting⟩))

omit [AutomationStorage α] [ExecutionStorage ε] [Notifier ν] [LawfulExecutions ε] in
/-- As long as a call goes on, no timer is touched. -/
theorem Rings.unchanged {timers timers' : Timers} (h : Rings timers id stage (.stage stage') timers')
    (hrole : stage.role = .interpreting) : timers' = timers := by
  cases h with
  | cancelled => cases hrole
  | passed => rfl
  | released _ _ hresuming => cases hrole.symm.trans hresuming

omit [AutomationStorage α] [ExecutionStorage ε] [Notifier ν] [LawfulExecutions ε] in
/-- A call that ends at once touches no timer. -/
theorem Rings.unread {timers timers' : Timers} {result : TaskResult}
    (h : Rings timers id .enter (.done result) timers') : timers' = timers := by
  cases h with
  | released _ _ hrole => cases hrole
  | ended => rfl

/-- The timer of a suspension. -/
theorem stepTask_timer {walk : Walk} {node : Node} {message : String} {due : Moment}
    (hs : LawfulExecutions.Sound r.executions)
    (he : ExecutionStorage.get r.executions t.executionId = some e)
    (hstage : t.stage = .settle walk node (.suspend message due)) (hscheduled : t.setup.scheduled = true)
    (hsince : ∃ micros, due.since r.clock = .ok micros) :
    (r.stepTask t).1.timers.get? t.executionId =
      (r.timers.get? t.executionId).or (some ⟨due, r.timers.nextSerial, .waiting⟩) := by
  have harmed := stepTask_armed hs he hstage hscheduled hsince
  have hrings := stepTask_rings (t := t) hs he
  unfold Handles at hrings
  generalize (r.stepTask t).1.timers = timers at harmed hrings ⊢
  obtain ⟨found, hdone⟩ := stepTask_suspends (t := t) hs he hstage hsince
  rw [hstage, hdone] at hrings
  cases hrings with
  | released _ _ hrole => cases hrole
  | ended => rw [Option.or_of_isSome harmed]
  | armed _ _ _ _ _ hfree =>
    rw [hfree, Option.none_or, Timers.get?_arm, if_pos rfl]

/-- A call that has come to a stage within its flow, with its timer as it was and its record open. -/
structure Fares (r : Runner α ε ν) (clock : Nat → Moment) (t : Task) (f : Option Flow) (k : Nat)
    (stage : Stage) : Prop where
  reaches : r.Reaches clock t k stage
  keeps : stage.KeepsTo f
  timers : (r.goFor clock t k).1.timers = r.timers
  opened : ∀ e, ExecutionStorage.get (r.goFor clock t k).1.executions t.executionId = some e →
    e.completedAt = none

/-- A call that has come to rest, with the stored record for its result. -/
def IsAtRest (r : Runner α ε ν) (clock : Nat → Moment) (t : Task) (f : Option Flow) (k : Nat) : Prop :=
  ∃ e, (r.goFor clock t k).2 = .done (.ok (some e)) ∧
    ExecutionStorage.get (r.goFor clock t k).1.executions t.executionId = some e ∧
    Rests ε f r.timers (r.goFor clock t k).1.timers t.executionId e

variable {clock : Nat → Moment} {k : Nat}

/-- **A call goes on within its flow, or comes to rest.** -/
theorem Fares.next (h : r.Fares clock t f k stage) (hclock : (clock k).isAnchored = true)
    (hscheduled : t.setup.scheduled = true) :
    (∃ stage', r.Fares clock t f (k + 1) stage') ∨ r.IsAtRest clock t f (k + 1) := by
  obtain ⟨e, e', sent, he, hturn, hrevises⟩ := h.reaches.turn
  have hgo := goFor_of_stage h.reaches.stands
  have hopen := h.opened e he
  have hreturns : Returns t.executionId (r.goFor clock t (k + 1)) :=
    hgo ▸ stepTask_returns h.reaches.sound he
  have hrole := Stage.role_of_keepsTo h.keeps
  cases hnext : (r.goFor clock t (k + 1)).2 with
  | stage stage' =>
    rw [hnext] at hturn
    obtain ⟨hkeeps, hsame⟩ := hturn.keepsTo hclock h.keeps
    refine .inl ⟨stage', h.reaches.next hnext, hkeeps, ?_, fun e₁ he₁ => ?_⟩
    · have hrings := stepTask_rings (r := { (r.goFor clock t k).1 with clock := clock k })
        (t := { t with stage := stage }) h.reaches.sound he
      unfold Handles at hrings
      rw [← hgo, hnext] at hrings
      exact (hrings.unchanged hrole).trans h.timers
    · cases hrevises.own.symm.trans he₁
      rw [hsame, hopen]
  | done result =>
    refine .inr ?_
    rw [hnext] at hturn
    cases hturn with
    | settleFinish walk node message found =>
      have hfound := hreturns found hnext
      refine ⟨found, hnext, hfound, ?_⟩
      cases hrevises.own.symm.trans hfound
      exact .completed rfl rfl
    | closing found =>
      have hfound := hreturns found hnext
      refine ⟨found, hnext, hfound, ?_⟩
      cases hrevises.own.symm.trans hfound
      exact .failed rfl rfl rfl
    | settleSuspend walk node message due =>
      obtain ⟨hflow, hnode, hkind, hdue⟩ := h.keeps
      obtain ⟨flow, hf, hgraph⟩ := Option.map_eq_some_iff.mp hflow
      have hsince : ∃ micros, due.since (clock k) = .ok micros :=
        Moment.since_of_kind (hdue.trans hclock.symm)
      obtain ⟨found, hdone⟩ := stepTask_suspends
        (r := { (r.goFor clock t k).1 with clock := clock k })
        (t := { t with stage := .settle walk node (.suspend message due) }) h.reaches.sound he rfl hsince
      have htimer := stepTask_timer (r := { (r.goFor clock t k).1 with clock := clock k })
        (t := { t with stage := .settle walk node (.suspend message due) }) h.reaches.sound he rfl
        hscheduled hsince
      rw [← hgo] at hdone htimer
      have hfound := hreturns found hdone
      refine ⟨found, hdone, hfound, ?_⟩
      cases hrevises.own.symm.trans hfound
      refine .waiting flow node due rfl hopen hf rfl (hgraph ▸ hnode) hkind rfl (htimer.trans ?_)
      show ((r.goFor clock t k).1.timers.get? t.executionId).or _ = _
      rw [h.timers]
    | _ => exact h.keeps.elim

/-- **A call begins within the flow of its automation**, when that can be read. -/
theorem call_opens (hs : LawfulExecutions.Sound r.executions)
    (he : ExecutionStorage.get r.executions t.executionId = some e) (hstage : t.stage = .enter)
    (hopen : e.completedAt = none) (clock : Nat → Moment) :
    (∀ found, AutomationStorage.get r.automations e.automationId = .ok found →
      ∃ stage, r.Fares clock t (found.map Automation.flow) 1 stage) ∧
      ∀ fault, AutomationStorage.get r.automations e.automationId = .error fault →
        (r.goFor clock t 1).2 = .done (.error fault) ∧
          ExecutionStorage.get (r.goFor clock t 1).1.executions t.executionId = some e ∧
          (r.goFor clock t 1).1.timers = r.timers := by
  have hreaches : r.Reaches clock t 0 .enter := ⟨congrArg Next.stage hstage, hs, e, he⟩
  obtain ⟨e₁, e', sent, he₁, hturn, hrevises⟩ := hreaches.turn
  cases he.symm.trans he₁
  have hrings := stepTask_rings (r := { r with clock := clock 0 }) (t := { t with stage := .enter }) hs he
  unfold Handles at hrings
  have hgo := goFor_of_stage hreaches.stands
  have hnext : ∀ stage', (r.goFor clock t 1).2 = .stage stage' → r.Reaches clock t 1 stage' :=
    fun _ => hreaches.next
  rw [show ({ r with clock := clock 0 } : Runner α ε ν).stepTask { t with stage := .enter } =
    r.goFor clock t 1 from hgo.symm] at hrings
  have hfares : ∀ {found : Option Flow} {stage'}, (r.goFor clock t 1).2 = .stage stage' →
      stage'.KeepsTo found → e' = e → ∃ stage, r.Fares clock t found 1 stage := by
    intro found stage' hstage' hkeeps hsame
    refine ⟨stage', hnext stage' hstage', hkeeps, ?_, fun e₂ he₂ => ?_⟩
    · rw [hstage'] at hrings
      exact hrings.unchanged rfl
    · cases hrevises.own.symm.trans he₂
      rw [hsame, hopen]
  generalize (r.goFor clock t 1).2 = next at hturn hrings hfares ⊢
  refine ⟨fun found hget => ?_, fun fault hget => ?_⟩
  · cases hturn with
    | enterUnread fault hget' => cases hget.symm.trans hget'
    | enterGone hget' =>
      cases hget.symm.trans hget'
      exact hfares rfl trivial rfl
    | enterAgain a nodeId hget' =>
      cases hget.symm.trans hget'
      exact hfares rfl (show Stage.KeepsTo (some a.flow) _ from rfl) rfl
    | enterFirst a start hget' =>
      cases hget.symm.trans hget'
      exact hfares rfl (show Stage.KeepsTo (some a.flow) _ from rfl) rfl
    | enterNowhere a hget' =>
      cases hget.symm.trans hget'
      exact hfares rfl trivial rfl
  · cases hturn with
    | enterUnread fault hget' =>
      cases hget.symm.trans hget'
      exact ⟨rfl, hrevises.own, hrings.unread⟩
    | enterGone hget' => cases hget.symm.trans hget'
    | enterAgain a nodeId hget' => cases hget.symm.trans hget'
    | enterFirst a start hget' => cases hget.symm.trans hget'
    | enterNowhere a hget' => cases hget.symm.trans hget'

/-- A call that has begun within its flow goes on in it, or came to rest at some stage. -/
theorem Fares.later (h : r.Fares clock t f 1 stage) (hclock : ∀ k, (clock k).isAnchored = true)
    (hscheduled : t.setup.scheduled = true) (k : Nat) :
    (∃ stage', r.Fares clock t f (k + 1) stage') ∨ ∃ j ≤ k + 1, r.IsAtRest clock t f j := by
  induction k with
  | zero => exact .inl ⟨stage, h⟩
  | succ k ih =>
    rcases ih with ⟨stage', hfares⟩ | ⟨j, hle, hrest⟩
    · rcases hfares.next (hclock (k + 1)) hscheduled with hnext | hrest
      · exact .inl hnext
      · exact .inr ⟨k + 2, Nat.le_refl _, hrest⟩
    · exact .inr ⟨j, Nat.le_succ_of_le hle, hrest⟩

/-- An execution of an automation that has not begun. -/
def newcomer (automationId : String) : Execution :=
  ⟨"", automationId, "ann@example.org", .pending, none, [], none, none, none⟩

/-- A runner with that execution. -/
def receiving {α ν : Type} (ε : Type) [ExecutionStorage ε] [LawfulExecutions ε] (automations : α)
    (notifier : ν) (automationId : String) : Runner α ε ν :=
  { (Session.opened automations notifier Moment.first ⟨0⟩ 50 50 : Session α ε ν).runner with
    executions :=
      (ExecutionStorage.create (LawfulExecutions.blank : ε) (newcomer automationId) Moment.first ⟨0⟩).store }

/-- Its record. -/
def received (automationId : String) : Execution :=
  { newcomer automationId with id := "id-1", createdAt := some Moment.first }

theorem sound_receiving {α ν : Type} (ε : Type) [ExecutionStorage ε] [LawfulExecutions ε] (automations : α)
    (notifier : ν) (automationId : String) :
    LawfulExecutions.Sound (receiving ε automations notifier automationId).executions := by
  have hfree : ExecutionStorage.get (LawfulExecutions.blank : ε)
      ((⟨0⟩ : Ids).orNext (newcomer automationId).id).1 = none := LawfulExecutions.get_blank _
  obtain ⟨s, hcreated, hsound, _⟩ :=
    LawfulExecutions.create_free Moment.first LawfulExecutions.sound_blank hfree
  show LawfulExecutions.Sound (ExecutionStorage.create (LawfulExecutions.blank : ε) _ _ _).store
  rw [hcreated]
  exact hsound

end Runner

end Dripline
