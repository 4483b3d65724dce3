import Dripline.Proofs.Flow.Reorder
import Dripline.Proofs.Run.Operations
import Dripline.Proofs.Run.Structure

/-!
# Runs over a flow in another order

Two sessions whose stores hold one flow in different orders do the same, event by event:

* `Stage.Mirrors`, `Task.Mirrors`: the same stage, within the graph of the flow in another order;
* `Session.KeepsWithin`: all executions of an automation stay within its flow, so that whatever is
  suspended stands at a delay; `KeepsWithin.apply`: an event that leaves the flow alone keeps them there;
* `stepTask_mirrors`: one stage in either session; `stepEnter_mirrors` and `stepWake_mirrors` where the
  automation is read;
* `Session.Mirrors`: the sessions differ in that automation and in the graphs of their tasks only;
  `turn_mirrors`, **`Mirrors.apply`**: one turn, and one event, at a time;
* **`order_does_not_matter`**: a flow is accepted in every order or in none, and if it is, no run tells
  the orders apart.

The suspension is where the order could show: a resumption takes the first edge out of the node that the
record stands at, whatever that node is by then. Within the flow it is a delay, with one edge. An execution
that was begun on another flow may be resumed at a condition, so the automation is saved, in either order,
before it is executed.
-/

namespace Dripline

/-! ## 1. Lists side by side -/

section

variable {β γ : Type} {R : β → γ → Prop} {l : List β} {l' : List γ} {b : β} {c : γ}

theorem rel_getElem? (h : List.Forall₂ R l l') (i : Nat) : Option.Rel R l[i]? l'[i]? := by
  induction h generalizing i with
  | nil => exact .none
  | cons hhead _ ih =>
    cases i with
    | zero => exact .some hhead
    | succ i => exact ih i

theorem rel_set (h : List.Forall₂ R l l') (hbc : R b c) (i : Nat) :
    List.Forall₂ R (l.set i b) (l'.set i c) := by
  induction h generalizing i with
  | nil => exact .nil
  | cons hhead htail ih =>
    cases i with
    | zero => exact .cons hbc htail
    | succ i => exact .cons hhead (ih i)

theorem rel_eraseIdx (h : List.Forall₂ R l l') (i : Nat) :
    List.Forall₂ R (l.eraseIdx i) (l'.eraseIdx i) := by
  induction h generalizing i with
  | nil => exact .nil
  | cons hhead htail ih =>
    cases i with
    | zero => exact htail
    | succ i => exact .cons hhead (ih i)

theorem map_eq_of_rel {κ : Type} {key : β → κ} {key' : γ → κ} (h : List.Forall₂ R l l')
    (hkey : ∀ b c, R b c → key' c = key b) : l'.map key' = l.map key := by
  induction h with
  | nil => rfl
  | cons hhead _ ih => rw [List.map_cons, List.map_cons, hkey _ _ hhead, ih]

end

/-! ## 2. Stages, tasks and stores -/

/-- The same walk, over the graph of the flow in another order. -/
def Walk.Mirrors (f : Flow) (walk walk' : Walk) : Prop :=
  walk.graph = .ofFlow f ∧ ∃ g : Flow, g.Reorders f ∧ walk' = { walk with graph := .ofFlow g }

/-- **The same stage**, within the graph of the flow in another order. -/
inductive Stage.Mirrors (f : Flow) : Stage → Stage → Prop where
  | same (stage : Stage) : Mirrors f stage stage
  | arrive (walk walk' : Walk) (nodeId : String) (h : walk.Mirrors f walk') :
      Mirrors f (.arrive walk nodeId) (.arrive walk' nodeId)
  | act (walk walk' : Walk) (node : Node) (h : walk.Mirrors f walk')
      (hnode : walk.graph.node? node.id = some node) : Mirrors f (.act walk node) (.act walk' node)
  | note (walk walk' : Walk) (node : Node) (result : StepResult) (h : walk.Mirrors f walk') :
      Mirrors f (.note walk node result) (.note walk' node result)
  | settle (walk walk' : Walk) (node : Node) (result : StepResult) (h : walk.Mirrors f walk') :
      Mirrors f (.settle walk node result) (.settle walk' node result)

/-- The same task, at the same stage. -/
def Task.Mirrors (f : Flow) (t t' : Task) : Prop :=
  ∃ stage', t.stage.Mirrors f stage' ∧ t' = { t with stage := stage' }

/-- What comes next is the same. -/
inductive Runner.Next.Mirrors (f : Flow) : Runner.Next → Runner.Next → Prop where
  | stage (stage stage' : Stage) (h : stage.Mirrors f stage') : Mirrors f (.stage stage) (.stage stage')
  | done (result : TaskResult) : Mirrors f (.done result) (.done result)

/-- **Two stores that hold one automation in different orders**, and agree on all others. -/
structure AutomationStorage.Mirrors {α : Type} [AutomationStorage α] (automationId : String) (f : Flow)
    (automations automations' : α) : Prop where
  own : ∃ a a', AutomationStorage.get automations automationId = .ok (some a) ∧
    AutomationStorage.get automations' automationId = .ok (some a') ∧
      a.flow = f ∧ a'.flow.Reorders f ∧ a'.id = a.id
  others : ∀ id, id ≠ automationId →
    AutomationStorage.get automations' id = AutomationStorage.get automations id

/-- **The same event.** What is authored holds the automation in different orders, too. -/
inductive Event.Mirrors {α ν : Type} [AutomationStorage α] (automationId : String) (f : Flow) :
    Event α ν → Event α ν → Prop where
  | same (event : Event α ν) (hevent : ∀ automations drawn, event ≠ .author automations drawn) :
      Mirrors automationId f event event
  | author (automations automations' : α) (drawn : Nat)
      (h : AutomationStorage.Mirrors automationId f automations automations') :
      Mirrors automationId f (.author automations drawn) (.author automations' drawn)

/-- **What can be started** is the same in both stores, under the same id. -/
theorem AutomationStorage.Mirrors.startable_iff {α : Type} [AutomationStorage α] {automationId : String}
    {f : Flow} {automations automations' : α}
    (h : AutomationStorage.Mirrors automationId f automations automations') (id ownId : String)
    (now : Moment) :
    (∃ a, AutomationStorage.get automations' id = .ok (some a) ∧ a.flow.problems now = .ok [] ∧
        a.id = ownId) ↔
      ∃ a, AutomationStorage.get automations id = .ok (some a) ∧ a.flow.problems now = .ok [] ∧
        a.id = ownId := by
  by_cases hid : id = automationId
  · obtain ⟨a, a', hget, hget', rfl, hreorders, hsame⟩ := h.own
    subst hid
    have haccepted := Flow.problems_reorder hreorders now
    constructor
    · rintro ⟨b, hb, hproblems, hown⟩
      cases hget'.symm.trans hb
      exact ⟨a, hget, haccepted.mp hproblems, hsame.symm.trans hown⟩
    · rintro ⟨b, hb, hproblems, hown⟩
      cases hget.symm.trans hb
      exact ⟨a', hget', haccepted.mpr hproblems, hsame.trans hown⟩
  · rw [h.others id hid]

theorem Task.Mirrors.refl (f : Flow) (t : Task) : t.Mirrors f t := ⟨t.stage, .same t.stage, rfl⟩

theorem Runner.Next.Mirrors.refl (f : Flow) (next : Runner.Next) : next.Mirrors f next := by
  cases next with
  | stage stage => exact .stage _ _ (.same stage)
  | done result => exact .done result

theorem Stage.Mirrors.isWithinStep {f : Flow} {stage stage' : Stage} (h : stage.Mirrors f stage') :
    stage'.isWithinStep = stage.isWithinStep := by
  cases h <;> rfl

theorem Walk.Mirrors.agrees {f : Flow} {accepted : Moment} {walk walk' : Walk}
    (h : walk.Mirrors f walk') (hwf : f.IsWellFormed accepted) : walk.graph.Agrees walk'.graph := by
  obtain ⟨hgraph, g, hreorders, rfl⟩ := h
  rw [hgraph]
  exact hreorders.agrees hwf

theorem Walk.Mirrors.subject {f : Flow} {walk walk' : Walk} (h : walk.Mirrors f walk') :
    walk'.subject = walk.subject := by
  obtain ⟨_, g, _, rfl⟩ := h
  rfl

/-- No task is within a step in either queue, or one is in both. -/
theorem all_between_mirrors {f : Flow} {queue queue' : List Task}
    (h : List.Forall₂ (Task.Mirrors f) queue queue') :
    (queue'.all fun t => !t.stage.isWithinStep) = queue.all fun t => !t.stage.isWithinStep := by
  have hwithin : queue'.map (fun t => t.stage.isWithinStep) = queue.map fun t => t.stage.isWithinStep := by
    refine map_eq_of_rel h ?_
    rintro t _ ⟨stage', hstage, rfl⟩
    exact hstage.isWithinStep
  have hall := congrArg (List.all · fun within => !within) hwithin
  simp only [List.all_map] at hall
  exact hall

theorem Event.Mirrors.leaves {α ν : Type} [AutomationStorage α] {automationId : String} {f : Flow}
    {event event' : Event α ν} (h : Event.Mirrors automationId f event event') :
    event.Leaves automationId f := by
  cases h with
  | same event hevent =>
    cases event with
    | author automations drawn => exact absurd rfl (hevent automations drawn)
    | _ => exact trivial
  | author automations automations' drawn h =>
    obtain ⟨a, _, hget, _, hflow, _⟩ := h.own
    exact ⟨a, hget, hflow⟩

/-! ## 3. Executions within their flow -/

namespace Session

variable {α ε ν : Type} [AutomationStorage α] [ExecutionStorage ε] [Notifier ν]
  [LawfulExecutions ε] {s : Session α ε ν} {f : Flow} {accepted : Moment} {automationId : String}

/-- **All executions of an automation stay within its flow.** -/
structure KeepsWithin (s : Session α ε ν) (automationId : String) (f : Flow) : Prop where
  stored : ∃ a, AutomationStorage.get s.runner.automations automationId = .ok (some a) ∧ a.flow = f
  within : ∀ id e, ExecutionStorage.get s.runner.executions id = some e →
    e.automationId = automationId → s.StaysWithin f e

/-- **An event that leaves the flow alone** keeps all executions of its automation within it. -/
theorem KeepsWithin.apply (hwf : f.IsWellFormed accepted) (ho : s.IsSound)
    (h : s.KeepsWithin automationId f) {event : Event α ν} (hleaves : event.Leaves automationId f) :
    (s.apply event).KeepsWithin automationId f where
  stored := by
    by_cases hevent : ∃ automations drawn, event = .author automations drawn
    · obtain ⟨automations, drawn, rfl⟩ := hevent
      exact hleaves
    · rw [automations_of_not_author ho fun automations drawn heq => hevent ⟨automations, drawn, heq⟩]
      exact h.stored
  within id e he hown := by
    obtain ⟨hnext, hretains⟩ := isSound_apply ho event
    cases hbefore : ExecutionStorage.get s.runner.executions id with
    | some e₀ =>
      obtain ⟨e₁, he₁, hsame⟩ := hretains id e₀ hbefore
      cases he₁.symm.trans he
      -- the record was there, and goes on
      have hown₀ : e₀.automationId = automationId := hsame.automationId.symm.trans hown
      obtain ⟨e', hwithin, hremains⟩ :=
        (h.within id e₀ hbefore hown₀).apply hwf ho (hown₀.symm ▸ hleaves)
      have hid : e'.id = id := hremains.id.trans (LawfulExecutions.id_of_get ho.sound hbefore)
      cases (hid ▸ hwithin.found).symm.trans he
      exact hwithin
    | none =>
      -- the record is new, so that it is the one that a start made
      by_cases hevent : ∃ started subject, event = .start started subject
      · obtain ⟨started, subject, rfl⟩ := hevent
        change ExecutionStorage.get (s.runner.start started subject).2.executions id = some e at he
        show StaysWithin ⟨(s.runner.start started subject).2, s.sent⟩ f e
        rcases Runner.start_cases ho.sound ho.free started subject with
          ⟨_, hsame⟩ | ⟨a, address, _, _, _, _, hbegan⟩
        · rw [hsame, hbefore] at he
          cases he
        · have hid : id = (s.runner.newRecord a address).id := by
            by_contra hother
            rw [hbegan.revises.others id hother, hbefore] at he
            cases he
          rw [hid, hbegan.revises.own] at he
          cases he
          have hstored : a.id = automationId := hown
          exact .begun ho (by rw [hstored]; exact h.stored) hbegan
      · rw [missing_of_not_start ho (fun started subject heq => hevent ⟨started, subject, heq⟩) hbefore]
          at he
        cases he

omit [LawfulExecutions ε] in
/-- What is suspended stands at a delay. -/
theorem KeepsWithin.waits (h : s.KeepsWithin automationId f) {id : String} {e : Execution}
    (he : ExecutionStorage.get s.runner.executions id = some e) (hown : e.automationId = automationId)
    (hsuspended : e.isSuspended = true) :
    ∃ n ∈ f.nodes, n.kind = .delay ∧ e.currentNode = some n.id :=
  (h.within id e he hown).stays.waits hsuspended

end Session

/-! ## 4. One stage in either runner -/

namespace Runner

variable {α ε ν : Type} [AutomationStorage α] [ExecutionStorage ε] [Notifier ν] {r : Runner α ε ν}
  {f : Flow} {accepted : Moment} {automationId : String} {automations : α} {queue : List Task}
  {e : Execution}

/-- The same happened to a runner with automations and a queue of its own, and what comes next is the
    same. -/
def MirrorsBeside (f : Flow) (automations : α) (queue : List Task) (x y : Runner α ε ν × Next) : Prop :=
  y.1 = x.1.beside automations queue ∧ x.2.Mirrors f y.2

omit [AutomationStorage α] [ExecutionStorage ε] [Notifier ν] in
theorem AlikeBeside.mirrors {x y : Runner α ε ν × Next} (h : AlikeBeside automations queue x y) (f : Flow) :
    MirrorsBeside f automations queue x y := by
  obtain ⟨hrunner, hnext⟩ := h
  refine ⟨hrunner, ?_⟩
  rw [hnext]
  exact .refl f x.2

omit [Notifier ν] in
/-- **The interpreter is called** for an execution of the automation. -/
theorem stepEnter_mirrors (hwf : f.IsWellFormed accepted) {id : String}
    (h : AutomationStorage.Mirrors automationId f r.automations automations)
    (he : ExecutionStorage.get r.executions id = some e) (hown : e.automationId = automationId) :
    MirrorsBeside f automations queue (r.stepEnter id) ((r.beside automations queue).stepEnter id) := by
  obtain ⟨a, a', hget, hget', rfl, hreorders, _⟩ := h.own
  have hwalk : Walk.Mirrors a.flow ⟨id, e.subject, .ofFlow a.flow⟩ ⟨id, e.subject, .ofFlow a'.flow⟩ :=
    ⟨rfl, a'.flow, hreorders, rfl⟩
  unfold stepEnter
  dsimp only [beside]
  simp only [he, hown, hget, hget']
  cases e.currentNode with
  | some nodeId => exact ⟨rfl, .stage _ _ (.arrive _ _ _ hwalk)⟩
  | none =>
    simp only [(hreorders.agrees hwf).start]
    cases (Graph.ofFlow a.flow).start? with
    | none => exact ⟨rfl, .refl _ _⟩
    | some start => exact ⟨rfl, .stage _ _ (.arrive _ _ _ hwalk)⟩

omit [Notifier ν] in
/-- **A resumption begins** for an execution of the automation, which stands at a delay. -/
theorem stepWake_mirrors (hwf : f.IsWellFormed accepted) {id : String}
    (h : AutomationStorage.Mirrors automationId f r.automations automations)
    (he : ExecutionStorage.get r.executions id = some e) (hown : e.automationId = automationId)
    (hwaits : e.isSuspended = true → ∃ n ∈ f.nodes, n.kind = .delay ∧ e.currentNode = some n.id) :
    AlikeBeside automations queue (r.stepWake id) ((r.beside automations queue).stepWake id) := by
  obtain ⟨a, a', hget, hget', rfl, hreorders, _⟩ := h.own
  unfold stepWake
  dsimp only [beside, say]
  simp only [he, hown, hget, hget']
  cases hsuspended : e.isSuspended with
  | false => exact ⟨rfl, rfl⟩
  | true =>
    obtain ⟨n, hn, hkind, hnode⟩ := hwaits hsuspended
    -- one edge leaves a delay, so that the first one is the same
    have hsame : (Graph.ofFlow a'.flow).successor? n.id = (Graph.ofFlow a.flow).successor? n.id :=
      (hreorders.agrees hwf).successor n (Flow.node?_of_mem hwf hn) (hkind.trans_ne (by decide))
    simp only [hnode, Option.bind_some, hsame, Bool.not_true, Bool.false_eq_true, if_false]
    cases (Graph.ofFlow a.flow).successor? n.id <;> exact ⟨rfl, rfl⟩

omit [AutomationStorage α] [Notifier ν] in
theorem stepArrive_mirrors (hwf : f.IsWellFormed accepted) {walk walk' : Walk}
    (hwalk : walk.Mirrors f walk') (id nodeId : String) :
    MirrorsBeside f automations queue (r.stepArrive id walk nodeId)
      ((r.beside automations queue).stepArrive id walk' nodeId) := by
  have hsame := (hwalk.agrees hwf).node nodeId
  unfold stepArrive
  rw [hsame]
  cases hnode : walk.graph.node? nodeId with
  | none => exact ⟨rfl, .refl _ _⟩
  | some node =>
    have hfound : walk.graph.node? node.id = some node := by
      have hid : node.id = nodeId := Graph.id_of_node? (hwalk.1 ▸ hnode)
      rw [hid, hnode]
    unfold write
    dsimp only [beside]
    cases ExecutionStorage.update r.executions id
      [.status .running, .currentNode (some node.id)] with
    | mk outcome executions =>
      cases outcome with
      | ok written => exact ⟨rfl, .stage _ _ (.act _ _ _ hwalk hfound)⟩
      | error fault => exact ⟨rfl, .refl _ _⟩

omit [AutomationStorage α] in
theorem stepAct_mirrors (hwf : f.IsWellFormed accepted) {walk walk' : Walk} {node : Node}
    (hwalk : walk.Mirrors f walk') (hnode : walk.graph.node? node.id = some node) (setup : Setup) :
    MirrorsBeside f automations queue (r.stepAct setup walk node)
      ((r.beside automations queue).stepAct setup walk' node) := by
  have hplan := Step.plan_agrees (hwalk.agrees hwf) hnode walk.subject r.clock
  unfold stepAct
  dsimp only [beside]
  rw [hwalk.subject, hplan]
  cases Step.plan walk.graph walk.subject r.clock node with
  | error fault => exact ⟨rfl, .refl _ _⟩
  | ok plan =>
    cases plan with
    | settled result => exact ⟨rfl, .stage _ _ (.note _ _ _ _ hwalk)⟩
    | deliver message next =>
      dsimp only
      cases (Notifier.send r.notifier (ExecutionStorage.all r.executions) walk.subject
        message).outcome with
      | error fault => exact ⟨rfl, .refl _ _⟩
      | ok deliveryId => exact ⟨rfl, .stage _ _ (.note _ _ _ _ hwalk)⟩

omit [AutomationStorage α] [Notifier ν] in
theorem stepNote_mirrors {walk walk' : Walk} (hwalk : walk.Mirrors f walk') (id : String) (node : Node)
    (result : StepResult) (entry : LogEntry) :
    MirrorsBeside f automations queue (r.append id entry (.settle walk node result))
      ((r.beside automations queue).append id entry (.settle walk' node result)) := by
  unfold append
  dsimp only [beside]
  cases ExecutionStorage.appendLog r.executions id entry with
  | mk outcome executions =>
    cases outcome with
    | ok done => exact ⟨rfl, .stage _ _ (.settle _ _ _ _ hwalk)⟩
    | error fault => exact ⟨rfl, .refl _ _⟩

/-- **The same stage in two runners** whose stores hold the automation in different orders. -/
theorem stepTask_mirrors (queue : List Task) (hwf : f.IsWellFormed accepted) {t : Task} {stage' : Stage}
    (h : AutomationStorage.Mirrors automationId f r.automations automations)
    (hstage : t.stage.Mirrors f stage')
    (hwaits : ∀ e, ExecutionStorage.get r.executions t.executionId = some e →
      e.automationId = automationId → e.isSuspended = true →
        ∃ n ∈ f.nodes, n.kind = .delay ∧ e.currentNode = some n.id) :
    MirrorsBeside f automations queue (r.stepTask t)
      ((r.beside automations queue).stepTask { t with stage := stage' }) := by
  obtain ⟨id, origin, setup, stage⟩ := t
  cases hstage with
  | same =>
    by_cases hown : ∃ e, ExecutionStorage.get r.executions id = some e ∧ e.automationId = automationId
    · obtain ⟨e, he, hown⟩ := hown
      cases stage with
      | enter => exact stepEnter_mirrors hwf h he hown
      | wake => exact (stepWake_mirrors hwf h he hown (hwaits e he hown)).mirrors f
      | _ =>
        exact (r.stepTask_beside automations queue _ fun hreads => by
          rcases hreads with h | h <;> cases h).mirrors f
    · -- an execution of another automation reads the same in both
      refine (r.stepTask_beside automations queue _ fun _ e he => h.others _ fun heq => ?_).mirrors f
      exact hown ⟨e, he, heq⟩
  | arrive walk walk' nodeId hwalk => exact stepArrive_mirrors hwf hwalk id nodeId
  | act walk walk' node hwalk hnode => exact stepAct_mirrors hwf hwalk hnode setup
  | note walk walk' node result hwalk => exact stepNote_mirrors hwalk id node result _
  | settle walk walk' node result hwalk =>
    cases result with
    | proceed message next => exact ⟨rfl, .stage _ _ (.arrive _ _ _ hwalk)⟩
    | _ =>
      exact (r.stepTask_beside automations queue ⟨id, origin, setup, .settle walk node _⟩ fun hreads => by
        rcases hreads with h | h <;> cases h).mirrors f

omit [AutomationStorage α] in
/-- The same is sent in both. -/
theorem sending?_mirrors (hwf : f.IsWellFormed accepted) {t : Task} {stage' : Stage}
    (hstage : t.stage.Mirrors f stage') :
    (r.beside automations queue).sending? { t with stage := stage' } = r.sending? t := by
  obtain ⟨id, origin, setup, stage⟩ := t
  cases hstage with
  | act walk walk' node hwalk hnode =>
    have hplan := Step.plan_agrees (hwalk.agrees hwf) hnode walk.subject r.clock
    unfold sending?
    dsimp only [beside]
    rw [hwalk.subject, hplan]
    rfl
  | _ => rfl

/-- **A turn in either runner**, at the same place of the queue. -/
theorem goOn_mirrors (hwf : f.IsWellFormed accepted) {t t' : Task}
    (h : AutomationStorage.Mirrors automationId f r.automations automations)
    (hqueue : List.Forall₂ (Task.Mirrors f) r.queue queue) (htask : t.Mirrors f t')
    (hwaits : ∀ e, ExecutionStorage.get r.executions t.executionId = some e →
      e.automationId = automationId → e.isSuspended = true →
        ∃ n ∈ f.nodes, n.kind = .delay ∧ e.currentNode = some n.id) (place : Nat) :
    ∃ queue', List.Forall₂ (Task.Mirrors f) (r.goOn place t).queue queue' ∧
      (r.beside automations queue).goOn place t' = (r.goOn place t).beside automations queue' := by
  obtain ⟨stage', hstage, rfl⟩ := htask
  have haround := r.stepTask_around t
  obtain ⟨hrunner, hnext⟩ := stepTask_mirrors queue hwf h hstage hwaits
  unfold goOn
  cases hstep : r.stepTask t with
  | mk r₁ next =>
    cases hstep' : (r.beside automations queue).stepTask { t with stage := stage' } with
    | mk r₂ next' =>
      rw [hstep] at hrunner hnext haround
      rw [hstep'] at hrunner hnext
      cases hrunner
      have hqueue₁ : List.Forall₂ (Task.Mirrors f) r₁.queue queue := haround.queue.symm ▸ hqueue
      cases hnext with
      | stage later later' hlater =>
        exact ⟨_, rel_set hqueue₁ ⟨later', hlater, rfl⟩ place, rfl⟩
      | done result =>
        have htold := r₁.tellResult_beside automations queue t.origin result
        exact ⟨_, rel_eraseIdx hqueue₁ place,
          congrArg (fun told : Runner α ε ν => { told with queue := queue.eraseIdx place }) htold⟩

/-! ## 5. Starts and recoveries -/

omit [AutomationStorage α] [ExecutionStorage ε] [Notifier ν] in
theorem rearm_beside (r : Runner α ε ν) (automations : α) (queue : List Task) (e : Execution) :
    (r.beside automations queue).rearm e = ((r.rearm e).1, (r.rearm e).2.beside automations queue) := by
  unfold rearm
  cases e.scheduledFor with
  | none => rfl
  | some due =>
    dsimp only
    rw [schedule_beside]
    cases r.schedule e.id due with
    | mk outcome r' =>
      cases outcome with
      | error fault => rfl
      | ok armed => cases armed <;> rfl

omit [AutomationStorage α] [ExecutionStorage ε] [Notifier ν] in
theorem rearmAll_beside (r : Runner α ε ν) (automations : α) (queue : List Task) (es : List Execution) :
    ((r.beside automations queue).rearmAll es).2 = (r.rearmAll es).2.beside automations queue := by
  induction es generalizing r with
  | nil => rfl
  | cons e es ih =>
    show (((r.beside automations queue).rearm e).2.rearmAll es).2 = ((r.rearm e).2.rearmAll es).2.beside _ _
    rw [rearm_beside]
    exact ih _

omit [AutomationStorage α] [Notifier ν] in
theorem recover_beside (r : Runner α ε ν) (automations : α) (queue : List Task) :
    (r.beside automations queue).recover.2 = r.recover.2.beside automations queue :=
  rearmAll_beside (r.say _ _ _) automations queue _

/-- What a start comes to, for an automation that is accepted. -/
def begun (r : Runner α ε ν) (automationId address : String) : Runner α ε ν :=
  let created := ExecutionStorage.create r.executions
    ⟨"", automationId, address, .pending, none, [], none, none, none⟩ r.clock r.ids
  let r := { r with executions := created.store, ids := created.ids }
  match created.result with
  | .error _ => r
  | .ok e =>
    (r.say .info .runner s!"Started execution {e.id} of automation {automationId} for {address}").dispatch
      e.id

omit [AutomationStorage α] [Notifier ν] in
theorem begun_beside (r : Runner α ε ν) (automations : α) (queue : List Task)
    (automationId address : String) :
    ∃ new, (r.begun automationId address).queue = r.queue ++ new ∧
      (r.beside automations queue).begun automationId address =
        (r.begun automationId address).beside automations (queue ++ new) := by
  unfold begun
  dsimp only [beside]
  cases (ExecutionStorage.create r.executions
    ⟨"", automationId, address, .pending, none, [], none, none, none⟩ r.clock r.ids).result with
  | error fault => exact ⟨[], (List.append_nil _).symm, by simp only [List.append_nil]⟩
  | ok e => exact ⟨_, rfl, rfl⟩

omit [Notifier ν] in
theorem start_eq_begun {id address : String} {subject : Option String} {a : Automation}
    (haddress : Address.clean subject = .ok address)
    (hget : AutomationStorage.get r.automations id = .ok (some a))
    (hproblems : a.flow.problems r.clock = .ok []) :
    (r.start id subject).2 = r.begun a.id address := by
  unfold start begun
  simp only [haddress, hget, hproblems]
  cases (ExecutionStorage.create r.executions
    ⟨"", a.id, address, .pending, none, [], none, none, none⟩ r.clock r.ids).result <;> rfl

omit [Notifier ν] in
theorem start_eq_self {id : String} {subject : Option String}
    (h : ∀ a, AutomationStorage.get r.automations id = .ok (some a) → a.flow.problems r.clock ≠ .ok []) :
    (r.start id subject).2 = r := by
  unfold start
  cases Address.clean subject with
  | error fault => rfl
  | ok address =>
    cases hget : AutomationStorage.get r.automations id with
    | error fault => rfl
    | ok found =>
      cases found with
      | none => rfl
      | some a =>
        dsimp only
        cases hproblems : a.flow.problems r.clock with
        | error fault => rfl
        | ok problems =>
          cases problems with
          | nil => exact absurd hproblems (h a hget)
          | cons p ps => rfl

omit [Notifier ν] in
/-- **An execution is started in both or refused in both.** -/
theorem start_mirrors (queue : List Task)
    (h : AutomationStorage.Mirrors automationId f r.automations automations)
    (id : String) (subject : Option String) :
    ∃ new, (r.start id subject).2.queue = r.queue ++ new ∧
      ((r.beside automations queue).start id subject).2 =
        (r.start id subject).2.beside automations (queue ++ new) := by
  have hrefused : ∃ new, r.queue = r.queue ++ new ∧
      r.beside automations queue = r.beside automations (queue ++ new) :=
    ⟨[], (List.append_nil _).symm, by rw [List.append_nil]⟩
  cases haddress : Address.clean subject with
  | error fault =>
    unfold start
    rw [haddress]
    exact hrefused
  | ok address =>
    by_cases haccepted : ∃ a, AutomationStorage.get r.automations id = .ok (some a) ∧
        a.flow.problems r.clock = .ok []
    · obtain ⟨a, hget, hproblems⟩ := haccepted
      obtain ⟨a', hget', hproblems', hid⟩ :=
        (h.startable_iff id a.id r.clock).mpr ⟨a, hget, hproblems, rfl⟩
      have hright : ((r.beside automations queue).start id subject).2 =
          (r.beside automations queue).begun a'.id address := start_eq_begun haddress hget' hproblems'
      rw [start_eq_begun haddress hget hproblems, hright, hid]
      exact r.begun_beside automations queue a.id address
    · have hright : ((r.beside automations queue).start id subject).2 = r.beside automations queue := by
        refine start_eq_self fun a' hget' hproblems' => haccepted ?_
        obtain ⟨a, hget, hproblems, _⟩ :=
          (h.startable_iff id a'.id r.clock).mp ⟨a', hget', hproblems', rfl⟩
        exact ⟨a, hget, hproblems⟩
      rw [start_eq_self fun a hget hproblems => haccepted ⟨a, hget, hproblems⟩, hright]
      exact hrefused

end Runner

/-! ## 6. Sessions -/

namespace Session

section

variable {α ε ν : Type} [AutomationStorage α] {automationId : String} {f : Flow}

/-- **The same session**, but for the order of one automation and of the graphs of its tasks. -/
inductive Mirrors (automationId : String) (f : Flow) : Session α ε ν → Session α ε ν → Prop where
  | beside (r : Runner α ε ν) (sent : List Sending) (automations : α) (queue : List Task)
      (hstores : AutomationStorage.Mirrors automationId f r.automations automations)
      (htasks : List.Forall₂ (Task.Mirrors f) r.queue queue) :
      Mirrors automationId f ⟨r, sent⟩ ⟨r.beside automations queue, sent⟩

end

variable {α ε ν : Type} [AutomationStorage α] [ExecutionStorage ε] [Notifier ν] [LawfulExecutions ε]
  {s s' : Session α ε ν} {f g : Flow} {accepted : Moment} {automationId : String}

/-- **A turn in both sessions**, at the same place of the queue. -/
theorem turn_mirrors {r : Runner α ε ν} {sent : List Sending} {automations : α} {queue : List Task}
    (hwf : f.IsWellFormed accepted) (ho : IsSound ⟨r, sent⟩)
    (hwithin : KeepsWithin ⟨r, sent⟩ automationId f)
    (hstores : AutomationStorage.Mirrors automationId f r.automations automations)
    (htasks : List.Forall₂ (Task.Mirrors f) r.queue queue) (place : Nat) :
    Mirrors automationId f (Session.apply ⟨r, sent⟩ (.go place))
      (Session.apply ⟨r.beside automations queue, sent⟩ (.go place)) := by
  have hkept : AutomationStorage.Mirrors automationId f
      (Session.apply ⟨r, sent⟩ (.go place)).runner.automations automations := by
    rw [automations_of_not_author ho fun _ _ heq => by cases heq]
    exact hstores
  have hturn := rel_getElem? htasks place
  unfold Session.apply at hkept ⊢
  rw [show (r.beside automations queue).queue = queue from rfl]
  dsimp only at hkept ⊢
  generalize r.queue[place]? = left, queue[place]? = right at hturn hkept ⊢
  cases hturn with
  | none => exact .beside r sent automations queue hstores htasks
  | @some t t' htask =>
    dsimp only at hkept ⊢
    obtain ⟨queue', hqueue', hgone⟩ := Runner.goOn_mirrors hwf hstores htasks htask
      (fun e he hown hsuspended => hwithin.waits he hown hsuspended) place
    obtain ⟨stage', hstage, rfl⟩ := htask
    rw [hgone, Runner.sending?_mirrors hwf hstage]
    exact .beside _ _ automations queue' hkept hqueue'

/-- **The same event** in both sessions. -/
theorem Mirrors.apply (hwf : f.IsWellFormed accepted) (ho : s.IsSound)
    (hwithin : s.KeepsWithin automationId f) (h : Mirrors automationId f s s') {event event' : Event α ν}
    (hevent : event.Mirrors automationId f event') :
    Mirrors automationId f (s.apply event) (s'.apply event') := by
  obtain ⟨r, sent, automations, queue, hstores, htasks⟩ := h
  cases hevent with
  | author authored authored' drawn h => exact .beside _ sent authored' queue h htasks
  | same event hevent =>
    have hstores' : AutomationStorage.Mirrors automationId f
        (Session.apply ⟨r, sent⟩ event).runner.automations automations := by
      rw [automations_of_not_author ho hevent]
      exact hstores
    -- a new task is the same in both
    have hqueued (new : List Task) : List.Forall₂ (Task.Mirrors f) (r.queue ++ new) (queue ++ new) :=
      List.rel_append htasks (List.forall₂_same.mpr fun t _ => .refl f t)
    cases event with
    | author authored drawn => exact absurd rfl (hevent authored drawn)
    | start id subject =>
      obtain ⟨new, hqueue, hstart⟩ := Runner.start_mirrors queue hstores id subject
      show Mirrors automationId f ⟨(r.start id subject).2, sent⟩
        ⟨((r.beside automations queue).start id subject).2, sent⟩
      rw [hstart]
      exact .beside _ sent automations _ hstores' (hqueue.symm ▸ hqueued new)
    | equip notifier previewChars recentLimit => exact .beside _ sent automations queue hstores htasks
    | clock now => exact .beside _ sent automations queue hstores htasks
    | fire id => exact .beside (r.fire id) sent automations _ hstores (hqueued _)
    | resume id => exact .beside (r.summon id) sent automations _ hstores (hqueued _)
    | recover =>
      show Mirrors automationId f ⟨r.recover.2, sent⟩ ⟨(r.beside automations queue).recover.2, sent⟩
      rw [r.recover_beside]
      exact .beside _ sent automations queue hstores' (r.recover_keeps.2.queue.symm ▸ htasks)
    | rearm listed =>
      show Mirrors automationId f ⟨(r.rearmAll listed).2, sent⟩
        ⟨((r.beside automations queue).rearmAll listed).2, sent⟩
      rw [r.rearmAll_beside]
      exact .beside _ sent automations queue hstores' ((r.rearmAll_keeps listed).2.queue.symm ▸ htasks)
    | disarm => exact .beside r.disarm sent automations queue hstores htasks
    | go place => exact turn_mirrors hwf ho hwithin hstores htasks place
    | reopen =>
      unfold Session.apply
      rw [show (r.beside automations queue).queue = queue from rfl, all_between_mirrors htasks]
      dsimp only
      cases r.queue.all fun t => !t.stage.isWithinStep with
      | true => exact .beside r.reopened sent automations [] hstores .nil
      | false => exact .beside r sent automations queue hstores htasks
    | crash => exact .beside r.reopened sent automations [] hstores .nil

/-- **The same events**, one after the other. -/
theorem Mirrors.run (hwf : f.IsWellFormed accepted) (ho : s.IsSound)
    (hwithin : s.KeepsWithin automationId f) (h : Mirrors automationId f s s')
    {events events' : List (Event α ν)}
    (hevents : List.Forall₂ (Event.Mirrors automationId f) events events') :
    Mirrors automationId f (s.run events) (s'.run events') := by
  induction hevents generalizing s s' with
  | nil => exact h
  | cons hevent _ ih =>
    exact ih (isSound_apply ho _).1 (hwithin.apply hwf ho hevent.leaves) (h.apply hwf ho hwithin hevent)

omit [ExecutionStorage ε] [Notifier ν] [LawfulExecutions ε] in
/-- What a session and one in another order have in common. -/
theorem Mirrors.same (h : Mirrors automationId f s s') :
    s'.runner.executions = s.runner.executions ∧ s'.sent = s.sent ∧
      s'.runner.notifier = s.runner.notifier ∧ s'.runner.journal = s.runner.journal ∧
      s'.runner.timers = s.runner.timers ∧
      List.Forall₂ (Task.Mirrors f) s.runner.queue s'.runner.queue := by
  obtain ⟨r, sent, automations, queue, _, htasks⟩ := h
  exact ⟨rfl, rfl, rfl, rfl, rfl, htasks⟩

/-- **The order of nodes and edges does not matter.** A flow is accepted in every order or in none. Let
    an automation be saved with an accepted flow in one order or in the other, while it has no
    executions. Whatever happens afterwards, as long as the automation keeps this flow: both sessions
    have the same records with the same logs, sent the same to the same notifier, said the same, armed
    the same timers, and their tasks stand at the same stages of the same steps. -/
theorem order_does_not_matter {f g : Flow} (hreorders : g.Reorders f) :
    (∀ now, g.problems now = .ok [] ↔ f.problems now = .ok []) ∧
      ∀ accepted, f.problems accepted = .ok [] →
      ∀ s : Session α ε ν, s.IsReachable → ∀ automationId,
        (∀ id e, ExecutionStorage.get s.runner.executions id = some e →
          e.automationId ≠ automationId) →
      ∀ (a : Automation) (automations automations' : α) (drawn : Nat), a.flow = f →
        AutomationStorage.get automations automationId = .ok (some a) →
        AutomationStorage.get automations' automationId = .ok (some { a with flow := g }) →
        (∀ id, id ≠ automationId →
          AutomationStorage.get automations' id = AutomationStorage.get automations id) →
      ∀ events events', List.Forall₂ (Event.Mirrors automationId f) events events' →
        let now := (s.apply (.author automations drawn)).run events
        let now' := (s.apply (.author automations' drawn)).run events'
        now'.runner.executions = now.runner.executions ∧ now'.sent = now.sent ∧
          now'.runner.notifier = now.runner.notifier ∧ now'.runner.journal = now.runner.journal ∧
          now'.runner.timers = now.runner.timers ∧
          List.Forall₂ (Task.Mirrors f) now.runner.queue now'.runner.queue := by
  refine ⟨Flow.problems_reorder hreorders, ?_⟩
  rintro accepted haccepted s hs automationId hnone a automations automations' drawn rfl hget hget' hothers
    events events' hevents
  have hwf := Check.isWellFormed_of_problems haccepted
  have hwithin : (s.apply (.author automations drawn)).KeepsWithin automationId a.flow :=
    ⟨⟨a, hget, rfl⟩, fun id e he hown => absurd hown (hnone id e he)⟩
  have hsaved : Mirrors automationId a.flow (s.apply (.author automations drawn))
      (s.apply (.author automations' drawn)) :=
    .beside _ s.sent automations' s.runner.queue
      ⟨⟨a, { a with flow := g }, hget, hget', rfl, hreorders, rfl⟩, hothers⟩
      (List.forall₂_same.mpr fun t _ => .refl a.flow t)
  exact (hsaved.run hwf (isSound_apply hs.isSound _).1 hwithin hevents).same

/-- The automation whose flow has a node of every kind, back to front. -/
def reversedGreeting : Automation :=
  { greeting with flow := ⟨greetingFlow.nodes.reverse, greetingFlow.edges.reverse⟩ }

/-- The automation is saved, and the subject is greeted. -/
def greetedWith (a : Automation) : Session MemoryAutomations MemoryExecutions Outbox :=
  (greetingSession.apply (.author ⟨Keyed.empty.put greeting.id a⟩ 0)).run
    (.start greeting.id (some "ann@example.org") :: greetingEvents)

theorem order_does_not_matter_greeting :
    (greetedWith reversedGreeting).runner.executions = (greetedWith greeting).runner.executions ∧
      (greetedWith reversedGreeting).sent = (greetedWith greeting).sent ∧
      (greetedWith greeting).sent.length = 1 ∧ (greetedWith greeting).runner.queue = [] := by
  have hevents : List.Forall₂ (Event.Mirrors (α := MemoryAutomations) (ν := Outbox) greeting.id greetingFlow)
      (.start greeting.id (some "ann@example.org") :: greetingEvents)
      (.start greeting.id (some "ann@example.org") :: greetingEvents) := by
    refine List.forall₂_same.mpr fun event hevent => .same event fun automations drawn heq => ?_
    subst heq
    simp [greetingEvents] at hevent
  have hothers : ∀ id, id ≠ greeting.id →
      (Keyed.empty.put greeting.id reversedGreeting).get? id =
        (Keyed.empty.put greeting.id greeting).get? id := fun id hid => by
    rw [Keyed.get?_put, Keyed.get?_put, if_neg hid.symm, if_neg hid.symm]
  obtain ⟨hexecutions, hsent, _⟩ :=
    (order_does_not_matter (f := greetingFlow) (g := reversedGreeting.flow)
      ⟨List.reverse_perm _, List.reverse_perm _⟩).2 Moment.first (by decide +kernel)
      greetingSession ⟨_, _, _, _, _, _, [], rfl⟩ greeting.id (fun id e he => by cases he) greeting
      ⟨Keyed.empty.put greeting.id greeting⟩
      ⟨Keyed.empty.put greeting.id reversedGreeting⟩ 0 rfl rfl rfl
      (fun id hid => congrArg Except.ok (hothers id hid)) _ _ hevents
  refine ⟨?_, ?_, by decide +kernel, List.isEmpty_iff.mp (by decide +kernel)⟩
  · unfold greetedWith
    exact hexecutions
  · unfold greetedWith
    exact hsent

end Session

end Dripline
