import Dripline.Proofs.Flow.Walk
import Dripline.Proofs.Run.Course

/-!
# How far one call of the interpreter goes

A call goes on from node to node until the walk comes to the end node or to a delay that is still to be
waited for, and nothing else in an accepted flow stops it: a flow may lead back to a node that it has
passed. The clock is read anew at every stage.

* `Flow.visit`: the walk from where a record stands; `Node.Halts`: what a call does not go past;
  `Flow.StopsAfter`: the walk comes to such a node, or there is none to begin with;
* `goFor`: a call after a number of stages; `executes`: the nodes whose steps it has done;
  `finish_eq_some_iff`: under a clock that stands still this is how tasks are run to their end;
* `Reaches.round`: every node takes four stages, after which the call is over or at the next node;
* **`call_ends_where_walk_stops`**: a call executes the nodes of the walk up to the one that stops it,
  and no others. When every message is delivered, nothing else ends it;
* `circles_forever`: a flow that is accepted, and a call that goes round in it for ever.
-/

namespace Dripline

theorem filterMap_range_prefix {β : Type} (g : Nat → Option β) {i j : Nat} (h : i ≤ j) :
    (List.range i).filterMap g <+: (List.range j).filterMap g := by
  have hrange : List.range i <+: List.range j := by
    rw [← Nat.min_eq_left h, ← List.take_range]
    exact List.take_prefix i _
  exact hrange.filterMap g

/-! ## 1. The walk of a call -/

/-- **The walk of a call**: from the node where the record stands, or else from the start node. -/
def Flow.visit (f : Flow) (subject : String) (current : Option String) : Nat → Option Node
  | 0 => match current with
    | some id => f.nodes.find? fun n => n.id = id
    | none => f.station subject 0
  | j + 1 => (f.visit subject current j).bind (f.follow subject)

/-- The first `j` nodes of the walk of a call. -/
def Flow.visits (f : Flow) (subject : String) (current : Option String) (j : Nat) : List Node :=
  (List.range j).filterMap (f.visit subject current)

/-- A call does not go past a node: the end node, or a delay that at this moment is still to be waited
    for or cannot be calculated. -/
def Node.Halts (n : Node) (now : Moment) : Prop :=
  n.kind = .finish ∨ n.kind = .delay ∧ ∃ d, n.data = .delay d ∧
    ∀ millis, d.millis now = .ok millis → 0 < millis

/-- **The walk of a call stops after a number of nodes.** Its `j`-th step comes after one stage for the
    call and four for each node before; the second of its own four does the step. -/
def Flow.StopsAfter (f : Flow) (subject : String) (current : Option String) (clock : Nat → Moment) :
    Nat → Prop
  | 0 => f.visit subject current 0 = none
  | j + 1 => ∃ n, f.visit subject current j = some n ∧ n.Halts (clock (4 * j + 2))

namespace Flow

variable {f : Flow} {subject : String} {current : Option String} {n : Node} {j : Nat}
  {now accepted : Moment}

theorem visits_succ (hn : f.visit subject current j = some n) :
    f.visits subject current (j + 1) = f.visits subject current j ++ [n] := by
  unfold visits
  rw [List.range_succ, List.filterMap_append, List.filterMap_cons_some hn, List.filterMap_nil]

theorem visits_prefix {i : Nat} (h : i ≤ j) :
    f.visits subject current i <+: f.visits subject current j := filterMap_range_prefix _ h

theorem length_visits (h : ∀ i < j, ∃ m, f.visit subject current i = some m) :
    (f.visits subject current j).length = j := by
  induction j with
  | zero => rfl
  | succ j ih =>
    obtain ⟨m, hm⟩ := h j (Nat.lt_succ_self j)
    rw [visits_succ hm, List.length_append, ih fun i hi => h i (Nat.lt_succ_of_lt hi),
      List.length_singleton]

theorem mem_of_visit : ∀ {j : Nat} {n : Node}, f.visit subject current j = some n → n ∈ f.nodes
  | 0, n, h => by
    cases current with
    | none => exact mem_of_station (show f.station subject 0 = some n from h)
    | some id => exact List.mem_of_find?_eq_some h
  | _ + 1, _, h => by
    obtain ⟨p, _, hp⟩ := Option.bind_eq_some_iff.mp h
    exact mem_of_follow hp

/-- The step of a node that stops a call waits, ends the walk or fails. -/
theorem plan_of_halts (h : f.IsWellFormed accepted) (hn : n ∈ f.nodes) (subject : String)
    (hhalts : n.Halts now) :
    (∃ fault, Step.plan (Graph.ofFlow f) subject now n = .error fault) ∨
      (∃ text due, Step.plan (Graph.ofFlow f) subject now n = .ok (.settled (.suspend text due))) ∨
      ∃ text, Step.plan (Graph.ofFlow f) subject now n = .ok (.settled (.finish text)) := by
  unfold Step.plan
  rcases hhalts with hk | ⟨hk, d, hd, hmillis⟩
  · rw [hk]
    exact .inr (.inr ⟨_, rfl⟩)
  · obtain ⟨m, hm⟩ := follow_of_isWellFormed h hn (by rw [hk]; nofun) subject
    have hexit := exit_of_follow hm (by rw [hk]; nofun)
    simp only [hk, hd, planDelay_eq hexit]
    cases hcase : d.millis now with
    | error fault => exact .inl ⟨_, rfl⟩
    | ok millis =>
      simp only [if_neg (Int.not_le.mpr (hmillis millis hcase))]
      cases d.resumeTime now with
      | error fault => exact .inl ⟨_, rfl⟩
      | ok due => exact .inr (.inl ⟨_, _, rfl⟩)

/-- The step of any other node goes on to the next one, after a delivery if it has one. -/
theorem plan_of_not_halts (h : f.IsWellFormed accepted) (hn : n ∈ f.nodes) (subject : String)
    (hhalts : ¬ n.Halts now) :
    ∃ m, f.follow subject n = some m ∧
      ((∃ text, Step.plan (Graph.ofFlow f) subject now n = .ok (.settled (.proceed text m.id))) ∨
        ∃ message, Step.plan (Graph.ofFlow f) subject now n = .ok (.deliver message m.id)) := by
  have hfinish : n.kind ≠ .finish := fun hk => hhalts (.inl hk)
  by_cases hk : n.kind = .delay
  · obtain ⟨m, hm⟩ := follow_of_isWellFormed h hn hfinish subject
    have hexit := exit_of_follow hm (by rw [hk]; nofun)
    have hcomplete := h.complete n hn
    unfold Node.IsComplete at hcomplete
    rw [hk] at hcomplete
    obtain ⟨d, hd, _⟩ := hcomplete
    refine ⟨m, hm, .inl ?_⟩
    unfold Step.plan
    simp only [hk, hd, planDelay_eq hexit]
    by_contra hplan
    refine hhalts (.inr ⟨hk, d, hd, fun millis hmillis => ?_⟩)
    by_contra hpast
    rw [hmillis] at hplan
    simp only [if_pos (Int.not_lt.mp hpast)] at hplan
    exact hplan ⟨_, rfl⟩
  · rcases plan_ofFlow h hn subject now with ⟨plan, hplan, hkeeps⟩ | ⟨fault, _, hmiscalculates⟩
    · cases hkeeps with
      | proceed text m hm => exact ⟨m, hm, .inl ⟨text, hplan⟩⟩
      | suspend text due m hm hdelay => exact absurd hdelay hk
      | finish text hk => exact absurd hk hfinish
      | deliver message m hm => exact ⟨m, hm, .inr ⟨message, hplan⟩⟩
    · exact absurd hmiscalculates.1 hk

end Flow

/-! ## 2. A call, stage by stage -/

namespace Runner

variable {α ε ν : Type} [AutomationStorage α] [ExecutionStorage ε] [Notifier ν]

/-- **A task after a number of stages**, nothing else taking a turn, under a clock that is read anew at
    each stage. -/
def goFor (r : Runner α ε ν) (clock : Nat → Moment) (t : Task) : Nat → Runner α ε ν × Next
  | 0 => (r, .stage t.stage)
  | k + 1 =>
    match r.goFor clock t k with
    | (r, .stage stage) => ({ r with clock := clock k } : Runner α ε ν).stepTask { t with stage := stage }
    | (r, .done result) => (r, .done result)

/-- The node whose step is done by a stage. -/
def Next.acting? : Next → Option Node
  | .stage (.act _ node) => some node
  | _ => none

/-- **The nodes that a task executes** within a number of stages. -/
def executes (r : Runner α ε ν) (clock : Nat → Moment) (t : Task) (k : Nat) : List Node :=
  (List.range k).filterMap fun i => (r.goFor clock t i).2.acting?

variable {r r' : Runner α ε ν} {clock : Nat → Moment} {t : Task} {k k' : Nat} {stage : Stage}
  {result : TaskResult}

theorem goFor_of_stage (h : (r.goFor clock t k).2 = .stage stage) :
    r.goFor clock t (k + 1) =
      ({ (r.goFor clock t k).1 with clock := clock k } : Runner α ε ν).stepTask
        { t with stage := stage } := by
  rw [goFor]
  cases hcase : r.goFor clock t k with
  | mk r' next =>
    rw [hcase] at h
    cases h
    rfl

/-- A task that is over stays as it is. -/
theorem goFor_of_done (h : (r.goFor clock t k).2 = .done result) (hle : k ≤ k') :
    r.goFor clock t k' = r.goFor clock t k := by
  induction k', hle using Nat.le_induction with
  | base => rfl
  | succ k' _ ih =>
    rw [goFor, ih]
    cases hcase : r.goFor clock t k with
    | mk r' next =>
      rw [hcase] at h
      cases h
      rfl

theorem goFor_succ_left (r : Runner α ε ν) (clock : Moment) (hclock : r.clock = clock) (t : Task)
    (k : Nat) :
    r.goFor (fun _ => clock) t (k + 1) = match r.stepTask t with
      | (r', .stage stage) => r'.goFor (fun _ => clock) { t with stage := stage } k
      | (r', .done result) => (r', .done result) := by
  subst hclock
  induction k with
  | zero =>
    show r.stepTask t = _
    cases r.stepTask t with
    | mk r' next => cases next <;> rfl
  | succ k ih =>
    rw [goFor, ih]
    cases r.stepTask t with
    | mk r' next => cases next <;> rfl

/-- **Under a clock that stands still** a task is run to its end in this way. -/
theorem finish_eq_some_iff {fuel : Nat} :
    finish fuel r t = some (r', result) ↔
      r.goFor (fun _ => r.clock) t fuel = (r', .done result) := by
  induction fuel generalizing r t with
  | zero => exact ⟨nofun, nofun⟩
  | succ fuel ih =>
    have hclock := (r.stepTask_around t).clock
    rw [goFor_succ_left r r.clock rfl]
    unfold finish
    cases hstep : r.stepTask t with
    | mk r₁ next =>
      rw [hstep] at hclock
      cases next with
      | stage stage =>
        show finish fuel r₁ _ = _ ↔ r₁.goFor _ _ fuel = _
        rw [ih, show r₁.clock = r.clock from hclock]
      | done result₁ => simp

theorem executes_prefix (h : k ≤ k') : r.executes clock t k <+: r.executes clock t k' :=
  filterMap_range_prefix _ h

theorem executes_succ (k : Nat) :
    r.executes clock t (k + 1) =
      r.executes clock t k ++ (r.goFor clock t k).2.acting?.toList := by
  unfold executes
  rw [List.range_succ, List.filterMap_append]
  cases h : (r.goFor clock t k).2.acting? <;> simp [h]

/-- A task that is over executes nothing more. -/
theorem executes_of_done (h : (r.goFor clock t k).2 = .done result) (k' : Nat) :
    r.executes clock t k' <+: r.executes clock t k := by
  rcases Nat.le_total k' k with hle | hle
  · exact executes_prefix hle
  · induction k', hle using Nat.le_induction with
    | base => exact List.prefix_rfl
    | succ k' hle ih =>
      rw [executes_succ, goFor_of_done h hle, h]
      exact (List.append_nil _).symm ▸ ih

/-! ## 3. From one node to the next -/

variable [LawfulExecutions ε] {walk : Walk} {n : Node} {f : Flow} {subject : String}
  {accepted : Moment}

/-- A task stands at a stage after a number of stages, on a record that is there. -/
structure Reaches (r : Runner α ε ν) (clock : Nat → Moment) (t : Task) (k : Nat) (stage : Stage) :
    Prop where
  stands : (r.goFor clock t k).2 = .stage stage
  sound : LawfulExecutions.Sound (r.goFor clock t k).1.executions
  found : ∃ e, ExecutionStorage.get (r.goFor clock t k).1.executions t.executionId = some e

/-- **The next stage** is one of those that a turn leads to. -/
theorem Reaches.turn (h : r.Reaches clock t k stage) :
    ∃ e e' sent, ExecutionStorage.get (r.goFor clock t k).1.executions t.executionId = some e ∧
      Turn { (r.goFor clock t k).1 with clock := clock k } t.executionId t.setup e stage e'
        (r.goFor clock t (k + 1)).2 sent ∧
      Revises (r.goFor clock t k).1.executions (r.goFor clock t (k + 1)).1.executions t.executionId
        e' := by
  obtain ⟨e, he⟩ := h.found
  rw [goFor_of_stage h.stands]
  obtain ⟨e', hturn, hrevises⟩ := stepTask_takes
    (r := { (r.goFor clock t k).1 with clock := clock k }) (t := { t with stage := stage }) h.sound he
  exact ⟨e, e', _, he, hturn, hrevises⟩

theorem Reaches.next {stage' : Stage} (h : r.Reaches clock t k stage)
    (hnext : (r.goFor clock t (k + 1)).2 = .stage stage') : r.Reaches clock t (k + 1) stage' := by
  obtain ⟨e, e', sent, _, _, hrevises⟩ := h.turn
  exact ⟨hnext, hrevises.sound, e', hrevises.own⟩

/-- Where every turn leads to one stage, the task goes on there. -/
theorem Reaches.leads {stage' : Stage} (h : r.Reaches clock t k stage)
    (hways : ∀ (r' : Runner α ε ν) e e' next sent, r'.clock = clock k →
      Turn r' t.executionId t.setup e stage e' next sent → next = .stage stage') :
    r.Reaches clock t (k + 1) stage' := by
  obtain ⟨e, e', sent, _, hturn, _⟩ := h.turn
  exact h.next (hways _ _ _ _ _ rfl hturn)

/-- Where every turn is the last one, the task is over. -/
theorem Reaches.ends (h : r.Reaches clock t k stage)
    (hways : ∀ (r' : Runner α ε ν) e e' next sent,
      Turn r' t.executionId t.setup e stage e' next sent → ∃ result, next = .done result) :
    ∃ result, (r.goFor clock t (k + 1)).2 = .done result := by
  obtain ⟨e, e', sent, _, hturn, _⟩ := h.turn
  exact hways _ _ _ _ _ hturn

/-- The walk arrives at a node of its flow. -/
theorem Reaches.act (hwf : f.IsWellFormed accepted) (hn : n ∈ f.nodes)
    (hgraph : walk.graph = Graph.ofFlow f) (h : r.Reaches clock t k (.arrive walk n.id)) :
    r.Reaches clock t (k + 1) (.act walk n) := by
  have hnode : walk.graph.node? n.id = some n := by
    rw [hgraph]
    exact Flow.node?_of_mem hwf hn
  refine h.leads fun _ _ _ _ _ _ hturn => ?_
  cases hturn with
  | arriveNowhere _ _ hnone => cases hnode.symm.trans hnone
  | arrive _ _ node hsome =>
    cases hnode.symm.trans hsome
    rfl

/-- A step that fails. -/
theorem Reaches.failing {fault : StepFault} (h : r.Reaches clock t k (.act walk n))
    (hplan : Step.plan walk.graph walk.subject (clock k) n = .error fault) :
    r.Reaches clock t (k + 1) (.failing (some (n.id, n.kind.text)) fault.message) := by
  refine h.leads fun _ _ _ _ _ hclock hturn => ?_
  rw [← hclock] at hplan
  cases hturn with
  | actFault _ _ _ hplan' =>
    cases hplan.symm.trans hplan'
    rfl
  | actSettled _ _ _ hplan' => cases hplan.symm.trans hplan'
  | actUndelivered _ _ _ _ _ hplan' => cases hplan.symm.trans hplan'
  | actDelivered _ _ _ _ _ hplan' => cases hplan.symm.trans hplan'

/-- A step that needs no delivery. -/
theorem Reaches.settled {outcome : StepResult} (h : r.Reaches clock t k (.act walk n))
    (hplan : Step.plan walk.graph walk.subject (clock k) n = .ok (.settled outcome)) :
    r.Reaches clock t (k + 1) (.note walk n outcome) := by
  refine h.leads fun _ _ _ _ _ hclock hturn => ?_
  rw [← hclock] at hplan
  cases hturn with
  | actFault _ _ _ hplan' => cases hplan.symm.trans hplan'
  | actSettled _ _ _ hplan' =>
    cases hplan.symm.trans hplan'
    rfl
  | actUndelivered _ _ _ _ _ hplan' => cases hplan.symm.trans hplan'
  | actDelivered _ _ _ _ _ hplan' => cases hplan.symm.trans hplan'

/-- A step with a delivery, which is refused or made. -/
theorem Reaches.delivering {message target : String} (h : r.Reaches clock t k (.act walk n))
    (hplan : Step.plan walk.graph walk.subject (clock k) n = .ok (.deliver message target)) :
    (∃ fault, (r.goFor clock t k).1.answer walk.subject message = .error fault ∧
        r.Reaches clock t (k + 1) (.failing (some (n.id, n.kind.text)) fault.message)) ∨
      ∃ text, r.Reaches clock t (k + 1) (.note walk n (.proceed text target)) := by
  obtain ⟨e, e', sent, _, hturn, _⟩ := h.turn
  have hnext : ∀ stage', (r.goFor clock t (k + 1)).2 = .stage stage' →
      r.Reaches clock t (k + 1) stage' := fun _ => h.next
  generalize (r.goFor clock t (k + 1)).2 = next at hturn hnext
  cases hturn with
  | actFault _ _ _ hplan' => cases hplan.symm.trans hplan'
  | actSettled _ _ _ hplan' => cases hplan.symm.trans hplan'
  | actUndelivered _ _ _ _ fault hplan' hanswer =>
    cases hplan.symm.trans hplan'
    exact .inl ⟨fault, hanswer, hnext _ rfl⟩
  | actDelivered _ _ _ _ deliveryId hplan' =>
    cases hplan.symm.trans hplan'
    exact .inr ⟨_, hnext _ rfl⟩

theorem Reaches.noted {outcome : StepResult} (h : r.Reaches clock t k (.note walk n outcome)) :
    r.Reaches clock t (k + 1) (.settle walk n outcome) :=
  h.leads fun _ _ _ _ _ _ hturn => by cases hturn; rfl

theorem Reaches.proceeds {text target : String}
    (h : r.Reaches clock t k (.settle walk n (.proceed text target))) :
    r.Reaches clock t (k + 1) (.arrive walk target) :=
  h.leads fun _ _ _ _ _ _ hturn => by cases hturn; rfl

theorem Reaches.suspends {text : String} {due : Moment}
    (h : r.Reaches clock t k (.settle walk n (.suspend text due))) :
    ∃ result, (r.goFor clock t (k + 1)).2 = .done result :=
  h.ends fun _ _ _ _ _ hturn => by cases hturn; exact ⟨_, rfl⟩

theorem Reaches.finishes {text : String} (h : r.Reaches clock t k (.settle walk n (.finish text))) :
    ∃ result, (r.goFor clock t (k + 1)).2 = .done result :=
  h.ends fun _ _ _ _ _ hturn => by cases hturn; exact ⟨_, rfl⟩

theorem Reaches.closing {entry : String × String} {error : String}
    (h : r.Reaches clock t k (.failing (some entry) error)) : r.Reaches clock t (k + 1) .closing :=
  h.leads fun _ _ _ _ _ _ hturn => by cases hturn; rfl

theorem Reaches.closed (h : r.Reaches clock t k .closing) :
    ∃ result, (r.goFor clock t (k + 1)).2 = .done result :=
  h.ends fun _ _ _ _ _ hturn => by cases hturn; exact ⟨_, rfl⟩

/-! ## 4. One node -/

/-- A node takes four stages, of which the second does its step. -/
theorem executes_round {stage₂ stage₃ : Stage} (h₀ : r.Reaches clock t k (.arrive walk n.id))
    (h₁ : r.Reaches clock t (k + 1) (.act walk n)) (h₂ : r.Reaches clock t (k + 2) stage₂)
    (h₃ : r.Reaches clock t (k + 3) stage₃) (hquiet₂ : (Next.stage stage₂).acting? = none)
    (hquiet₃ : (Next.stage stage₃).acting? = none) :
    r.executes clock t (k + 4) = r.executes clock t k ++ [n] := by
  rw [executes_succ, executes_succ, executes_succ, executes_succ, h₀.stands, h₁.stands, h₂.stands,
    h₃.stands, hquiet₂, hquiet₃]
  simp [Next.acting?]

/-- **Every node takes four stages.** Then the call is over, because the node stops it or a message was
    refused, or it has arrived at the next node. -/
theorem Reaches.round (hwf : f.IsWellFormed accepted) (hn : n ∈ f.nodes)
    (hgraph : walk.graph = Graph.ofFlow f) (h : r.Reaches clock t k (.arrive walk n.id)) :
    r.executes clock t (k + 4) = r.executes clock t k ++ [n] ∧
      ((∃ result, (r.goFor clock t (k + 4)).2 = .done result) ∧
          (n.Halts (clock (k + 1)) ∨ ∃ message fault,
            (r.goFor clock t (k + 1)).1.answer walk.subject message = .error fault) ∨
        ¬ n.Halts (clock (k + 1)) ∧ ∃ m, f.follow walk.subject n = some m ∧
          r.Reaches clock t (k + 4) (.arrive walk m.id)) := by
  have hact := h.act hwf hn hgraph
  by_cases hhalts : n.Halts (clock (k + 1))
  · have hplan := Flow.plan_of_halts hwf hn walk.subject hhalts
    rw [← hgraph] at hplan
    rcases hplan with ⟨fault, hplan⟩ | ⟨text, due, hplan⟩ | ⟨text, hplan⟩
    · have hfailing := hact.failing hplan
      have hclosing := hfailing.closing
      exact ⟨executes_round h hact hfailing hclosing rfl rfl, .inl ⟨hclosing.closed, .inl hhalts⟩⟩
    · have hnote := hact.settled hplan
      have hsettle := hnote.noted
      exact ⟨executes_round h hact hnote hsettle rfl rfl, .inl ⟨hsettle.suspends, .inl hhalts⟩⟩
    · have hnote := hact.settled hplan
      have hsettle := hnote.noted
      exact ⟨executes_round h hact hnote hsettle rfl rfl, .inl ⟨hsettle.finishes, .inl hhalts⟩⟩
  · obtain ⟨m, hm, hplan⟩ := Flow.plan_of_not_halts hwf hn walk.subject hhalts
    rw [← hgraph] at hplan
    have hgoes : ∀ {text}, r.Reaches clock t (k + 2) (.note walk n (.proceed text m.id)) →
        r.executes clock t (k + 4) = r.executes clock t k ++ [n] ∧
          r.Reaches clock t (k + 4) (.arrive walk m.id) := fun hnote =>
      ⟨executes_round h hact hnote hnote.noted rfl rfl, hnote.noted.proceeds⟩
    rcases hplan with ⟨text, hplan⟩ | ⟨message, hplan⟩
    · obtain ⟨hexecutes, harrive⟩ := hgoes (hact.settled hplan)
      exact ⟨hexecutes, .inr ⟨hhalts, m, hm, harrive⟩⟩
    · rcases hact.delivering hplan with ⟨fault, hanswer, hfailing⟩ | ⟨text, hnote⟩
      · have hclosing := hfailing.closing
        exact ⟨executes_round h hact hfailing hclosing rfl rfl,
          .inl ⟨hclosing.closed, .inr ⟨message, fault, hanswer⟩⟩⟩
      · obtain ⟨hexecutes, harrive⟩ := hgoes hnote
        exact ⟨hexecutes, .inr ⟨hhalts, m, hm, harrive⟩⟩

/-! ## 5. One node after the other -/

/-- A call has arrived at a node of its walk and executed those before. -/
structure Visits (r : Runner α ε ν) (clock : Nat → Moment) (t : Task) (walk : Walk) (f : Flow)
    (current : Option String) (j : Nat) (n : Node) : Prop where
  node : f.visit walk.subject current j = some n
  arrives : r.Reaches clock t (4 * j + 1) (.arrive walk n.id)
  executes : r.executes clock t (4 * j + 1) = f.visits walk.subject current j

variable {current : Option String} {j : Nat} {id : String} {e : Execution} {a : Automation}

/-- **After a node** the call is over, or it has arrived at the next one. -/
theorem Visits.next (hwf : f.IsWellFormed accepted) (hgraph : walk.graph = Graph.ofFlow f)
    (h : r.Visits clock t walk f current j n) :
    ((∃ result, (r.goFor clock t (4 * (j + 1) + 1)).2 = .done result) ∧
        r.executes clock t (4 * (j + 1) + 1) = f.visits walk.subject current (j + 1) ∧
        (n.Halts (clock (4 * j + 2)) ∨ ∃ message fault,
          (r.goFor clock t (4 * j + 2)).1.answer walk.subject message = .error fault)) ∨
      ¬ n.Halts (clock (4 * j + 2)) ∧ ∃ m, r.Visits clock t walk f current (j + 1) m := by
  obtain ⟨hexecutes, hround⟩ := h.arrives.round hwf (Flow.mem_of_visit h.node) hgraph
  rw [h.executes, ← Flow.visits_succ h.node] at hexecutes
  rcases hround with ⟨hdone, hcause⟩ | ⟨hgoes, m, hm, harrives⟩
  · exact .inl ⟨hdone, hexecutes, hcause⟩
  · refine .inr ⟨hgoes, m, ?_, harrives, hexecutes⟩
    rw [Flow.visit, h.node, Option.bind_some, hm]

/-- A call that has begun its walk is at its `j`-th node, or was over at one before. -/
theorem Visits.later (hwf : f.IsWellFormed accepted) (hgraph : walk.graph = Graph.ofFlow f)
    (h : r.Visits clock t walk f current 0 n) (j : Nat) :
    (∃ m, r.Visits clock t walk f current j m) ∨
      ∃ i ≤ j, (∃ result, (r.goFor clock t (4 * i + 1)).2 = .done result) ∧
        r.executes clock t (4 * i + 1) = f.visits walk.subject current i := by
  induction j with
  | zero => exact .inl ⟨n, h⟩
  | succ j ih =>
    rcases ih with ⟨m, hm⟩ | ⟨i, hle, hover⟩
    · rcases hm.next hwf hgraph with ⟨hdone, hexecutes, _⟩ | ⟨_, hnext⟩
      · exact .inr ⟨j + 1, Nat.le_refl _, hdone, hexecutes⟩
      · exact .inl hnext
    · exact .inr ⟨i, Nat.le_succ_of_le hle, hover⟩

/-- **A call begins** at the node where its record stands, or at the start; it fails when there is no
    such node any more. -/
theorem call_begins (hs : LawfulExecutions.Sound r.executions)
    (he : ExecutionStorage.get r.executions id = some e)
    (hget : AutomationStorage.get r.automations e.automationId = .ok (some a))
    (hwf : a.flow.IsWellFormed accepted) (origin : Origin) (setup : Setup) (clock : Nat → Moment) :
    let call : Task := ⟨id, origin, setup, .enter⟩
    let walk : Walk := ⟨id, e.subject, Graph.ofFlow a.flow⟩
    (∃ n, r.Visits clock call walk a.flow e.currentNode 0 n) ∨
      a.flow.visit e.subject e.currentNode 0 = none ∧
        ∃ nodeId, r.Reaches clock call 1 (.arrive walk nodeId) ∧
          walk.graph.node? nodeId = none := by
  intro call walk
  have hreaches : r.Reaches clock call 0 .enter := ⟨rfl, hs, e, he⟩
  obtain ⟨e₁, e', sent, he₁, hturn, _⟩ := hreaches.turn
  cases he.symm.trans he₁
  have hnext : ∀ stage', (r.goFor clock call 1).2 = .stage stage' → r.Reaches clock call 1 stage' :=
    fun _ => hreaches.next
  have hstart : (Graph.ofFlow a.flow).start? = a.flow.station e.subject 0 :=
    Flow.start?_eq_station hwf
  have hcurrent : ∀ {n}, a.flow.visit e.subject e.currentNode 0 = some n →
      r.Reaches clock call 1 (.arrive walk n.id) →
      r.Visits clock call walk a.flow e.currentNode 0 n := fun hvisit harrives =>
    ⟨hvisit, harrives, rfl⟩
  generalize (r.goFor clock call 1).2 = next at hturn hnext
  cases hturn with
  | enterUnread fault hget' => cases hget.symm.trans hget'
  | enterGone hget' => cases hget.symm.trans hget'
  | enterAgain a' nodeId hget' hnode =>
    cases hget.symm.trans hget'
    have harrives := hnext _ rfl
    cases hfind : a.flow.nodes.find? fun n => n.id = nodeId with
    | some n =>
      have hid : n.id = nodeId := by simpa using List.find?_some hfind
      refine .inl ⟨n, hcurrent ?_ (hid ▸ harrives)⟩
      rw [hnode]
      exact hfind
    | none =>
      refine .inr ⟨?_, nodeId, harrives, (Graph.node?_ofFlow _ _).trans hfind⟩
      rw [hnode]
      exact hfind
  | enterFirst a' start hget' hnode hstart' =>
    cases hget.symm.trans hget'
    refine .inl ⟨start, hcurrent ?_ (hnext _ rfl)⟩
    rw [hnode]
    exact hstart.symm.trans hstart'
  | enterNowhere a' hget' hnode hstart' =>
    cases hget.symm.trans hget'
    obtain ⟨s, hs⟩ := Flow.station_zero_of_isWellFormed hwf e.subject
    cases (hstart.symm.trans hstart').symm.trans hs

/-- The walk of a call that arrives at no node is over at once. -/
theorem Reaches.lost {nodeId : String} (hnode : walk.graph.node? nodeId = none)
    (h : r.Reaches clock t 1 (.arrive walk nodeId)) (hstage : t.stage = .enter) :
    (∃ result, (r.goFor clock t 4).2 = .done result) ∧ r.executes clock t 4 = [] := by
  have hfailing : r.Reaches clock t 2 (.failing (some (nodeId, "unknown"))
      s!"Node {nodeId} not found") := by
    refine h.leads fun _ _ _ _ _ _ hturn => ?_
    cases hturn with
    | arriveNowhere => rfl
    | arrive _ _ node hsome => cases hnode.symm.trans hsome
  have hclosing := hfailing.closing
  have hbegins : (r.goFor clock t 0).2 = .stage .enter := congrArg Next.stage hstage
  refine ⟨hclosing.closed, ?_⟩
  rw [executes_succ, executes_succ, executes_succ, executes_succ, hbegins, h.stands, hfailing.stands,
    hclosing.stands]
  rfl

end Runner

/-- **A notifier that delivers every message** while its state is of some kind, and keeps it so. -/
def Notifier.Obliges (ν : Type) [Notifier ν] (P : ν → Prop) : Prop :=
  ∀ notifier, P notifier → ∀ executions subject message,
    (∃ deliveryId, (Notifier.send notifier executions subject message).outcome = .ok deliveryId) ∧
      P (Notifier.send notifier executions subject message).notifier

namespace Runner

variable {α ε ν : Type} [AutomationStorage α] [ExecutionStorage ε] [Notifier ν]
  {r : Runner α ε ν} {clock : Nat → Moment} {t : Task} {P : ν → Prop}

/-- A stage leaves the notifier as it is, or after one message. -/
theorem stepTask_notifier (r : Runner α ε ν) (t : Task) :
    (r.stepTask t).1.notifier = r.notifier ∨ ∃ executions subject message,
      (r.stepTask t).1.notifier =
        (Notifier.send r.notifier executions subject message).notifier := by
  by_cases hact : ∃ walk node, t.stage = .act walk node
  · obtain ⟨walk, node, hstage⟩ := hact
    unfold stepTask
    rw [hstage]
    show (r.stepAct t.setup walk node).1.notifier = _ ∨ ∃ executions subject message,
      (r.stepAct t.setup walk node).1.notifier = _
    unfold stepAct
    split
    · exact .inl rfl
    · exact .inl rfl
    · dsimp only
      split <;> exact .inr ⟨_, _, _, rfl⟩
  · exact .inl (stepTask_silent fun walk node hstage => hact ⟨walk, node, hstage⟩).notifier

theorem obliges_goFor (hobliges : Notifier.Obliges ν P) (h : P r.notifier) (k : Nat) :
    P (r.goFor clock t k).1.notifier := by
  induction k with
  | zero => exact h
  | succ k ih =>
    cases hnext : (r.goFor clock t k).2 with
    | done result =>
      rw [goFor_of_done hnext (Nat.le_succ k)]
      exact ih
    | stage stage =>
      rw [goFor_of_stage hnext]
      rcases stepTask_notifier { (r.goFor clock t k).1 with clock := clock k }
        { t with stage := stage } with hsame | ⟨executions, subject, message, hsent⟩
      · rw [hsame]
        exact ih
      · rw [hsent]
        exact (hobliges _ ih executions subject message).2

variable [LawfulExecutions ε] {walk : Walk} {f : Flow} {n : Node} {accepted : Moment}
  {current : Option String} {id : String} {e : Execution} {a : Automation}

/-- **A walk that nothing stops** goes on for ever when every message is delivered. -/
theorem Visits.endless (hwf : f.IsWellFormed accepted) (hgraph : walk.graph = Graph.ofFlow f)
    (h : r.Visits clock t walk f current 0 n) (hobliges : Notifier.Obliges ν P) (hP : P r.notifier)
    (hgoes : ∀ j, ¬ f.StopsAfter walk.subject current clock j) (j : Nat) :
    ∃ m, r.Visits clock t walk f current j m := by
  induction j with
  | zero => exact ⟨n, h⟩
  | succ j ih =>
    obtain ⟨m, hm⟩ := ih
    rcases hm.next hwf hgraph with ⟨_, _, hhalts | ⟨message, fault, hanswer⟩⟩ | ⟨_, hnext⟩
    · exact absurd ⟨m, hm.node, hhalts⟩ (hgoes (j + 1))
    · obtain ⟨deliveryId, hdelivered⟩ := (hobliges _ (obliges_goFor hobliges hP _)
        (ExecutionStorage.all (r.goFor clock t (4 * _ + 2)).1.executions) walk.subject message).1
      cases hanswer.symm.trans hdelivered
    · exact hnext

/-- **A call ends where its walk stops.** One call of the interpreter, for any record of an automation
    that is accepted, alone and under any clock: if the walk from where the record stands stops after `j`
    nodes, the call is over after `4 * j + 4` stages at the latest, and executes no nodes but these, in
    this order. When every message is delivered it executes finitely many nodes only then. -/
theorem call_ends_where_walk_stops (hs : LawfulExecutions.Sound r.executions)
    (he : ExecutionStorage.get r.executions id = some e)
    (hget : AutomationStorage.get r.automations e.automationId = .ok (some a))
    (haccepted : a.flow.problems accepted = .ok []) (origin : Origin) (setup : Setup)
    (clock : Nat → Moment) :
    let call : Task := ⟨id, origin, setup, .enter⟩
    (∀ j, a.flow.StopsAfter e.subject e.currentNode clock j →
      (∃ result, (r.goFor clock call (4 * j + 4)).2 = .done result) ∧
        ∀ k, r.executes clock call k <+: a.flow.visits e.subject e.currentNode j) ∧
      ∀ P : ν → Prop, Notifier.Obliges ν P → P r.notifier →
        (∃ bound, ∀ k, (r.executes clock call k).length ≤ bound) →
          ∃ j, a.flow.StopsAfter e.subject e.currentNode clock j := by
  intro call
  have hwf := Check.isWellFormed_of_problems haccepted
  have hbegins := call_begins hs he hget hwf origin setup clock
  constructor
  · intro j hstops
    -- wherever the call is over, it has executed a prefix of the walk
    have hover : ∃ K ≤ 4 * j + 4, ∃ i ≤ j, (∃ result, (r.goFor clock call K).2 = .done result) ∧
        r.executes clock call K = a.flow.visits e.subject e.currentNode i := by
      rcases hbegins with ⟨n, hn⟩ | ⟨_, nodeId, harrives, hnode⟩
      · cases j with
        | zero => cases hn.node.symm.trans hstops
        | succ j =>
          obtain ⟨m, hm, hhalts⟩ := hstops
          rcases hn.later hwf rfl j with ⟨m', hm'⟩ | ⟨i, hle, hdone⟩
          · cases hm.symm.trans hm'.node
            rcases hm'.next hwf rfl with ⟨hdone, hexecutes, _⟩ | ⟨hgoes, _⟩
            · exact ⟨_, by omega, j + 1, Nat.le_refl _, hdone, hexecutes⟩
            · exact absurd hhalts hgoes
          · exact ⟨_, by omega, i, Nat.le_succ_of_le hle, hdone⟩
      · exact ⟨4, by omega, 0, Nat.zero_le j, harrives.lost hnode rfl⟩
    obtain ⟨K, hK, i, hi, ⟨result, hdone⟩, hexecutes⟩ := hover
    refine ⟨⟨result, ?_⟩, fun k => (executes_of_done hdone k).trans ?_⟩
    · rw [goFor_of_done hdone hK]
      exact hdone
    · rw [hexecutes]
      exact Flow.visits_prefix hi
  · rintro P hobliges hP ⟨bound, hbound⟩
    by_contra hnever
    have hgoes : ∀ j, ¬ a.flow.StopsAfter e.subject e.currentNode clock j := fun j hj =>
      hnever ⟨j, hj⟩
    rcases hbegins with ⟨n, hn⟩ | ⟨hnone, _⟩
    · obtain ⟨m, hm⟩ := hn.endless hwf rfl hobliges hP hgoes (bound + 1)
      have hlength := hbound (4 * (bound + 1) + 1)
      rw [hm.executes, Flow.length_visits fun i _ =>
        (hn.endless hwf rfl hobliges hP hgoes i).imp fun _ h => h.node] at hlength
      omega
    · exact hgoes 0 hnone

/-- A flow that leads back to its condition after every message, without a delay on the way. -/
def circlesFlow : Flow where
  nodes :=
    [⟨"start", .start, .empty⟩,
      ⟨"ours", .condition, .condition ⟨[⟨some "ends_with", some "@example.org", "email"⟩], none⟩⟩,
      ⟨"mail", .action, .action (some "hello")⟩, ⟨"end", .finish, .empty⟩]
  edges :=
    [⟨"e1", "start", "ours", none⟩, ⟨"e2", "ours", "end", some "true"⟩,
      ⟨"e3", "ours", "mail", some "false"⟩, ⟨"e4", "mail", "ours", none⟩]

/-- A runner that has just begun an execution of that flow. -/
def circling (subject : String) : Runner MemoryAutomations MemoryExecutions Outbox :=
  ((Session.opened ⟨Keyed.empty.put "circles" ⟨"circles", "Circles", circlesFlow, none, none⟩⟩ .empty
    Moment.first ⟨0⟩ 50 50 : Session MemoryAutomations MemoryExecutions Outbox).runner.start "circles"
      (some subject)).2

/-- The record of that execution. -/
def circled (subject : String) : Execution :=
  ⟨"id-1", "circles", subject, .pending, none, [], none, none, some Moment.first⟩

theorem obliges_outbox : Notifier.Obliges Outbox fun outbox => outbox.failure = none := by
  intro outbox h executions subject message
  show (∃ deliveryId, (outbox.send executions subject message).outcome = .ok deliveryId) ∧
    (outbox.send executions subject message).notifier.failure = none
  unfold Outbox.send
  rw [h]
  exact ⟨⟨_, rfl⟩, rfl⟩

theorem sound_circling (subject : String) :
    LawfulExecutions.Sound (circling subject).executions :=
  (Session.isSound_apply (Session.isOrderly_opened _ _ _ _ _ _).toIsSound
    (.start "circles" (some subject))).1.sound

/-- A subject of ours comes to the end node at once. -/
theorem call_ends_where_walk_stops_ours :
    let call : Task := ⟨"id-1", .direct, ⟨true, 50⟩, .enter⟩
    (∃ result, ((circling "bob@example.org").goFor (fun _ => Moment.first) call 16).2 =
        .done result) ∧
      ∀ k, (circling "bob@example.org").executes (fun _ => Moment.first) call k <+:
        circlesFlow.visits "bob@example.org" none 3 := by
  have hfound : ExecutionStorage.get (circling "bob@example.org").executions "id-1" =
      some (circled "bob@example.org") := by decide +kernel
  have hstops : circlesFlow.StopsAfter "bob@example.org" none (fun _ => Moment.first) 3 :=
    ⟨⟨"end", .finish, .empty⟩, by decide +kernel, .inl rfl⟩
  exact (call_ends_where_walk_stops (sound_circling _) hfound rfl
    (show circlesFlow.problems Moment.first = .ok [] by decide +kernel) _ _ _).1 3 hstops

/-- For any other subject every node but the end leads to such a node. -/
theorem leads_back_circlesFlow : ∀ n ∈ circlesFlow.nodes.take 3,
    (n.kind ≠ .finish ∧ n.kind ≠ .delay) ∧
      ∃ m ∈ circlesFlow.nodes.take 3, circlesFlow.follow "ann@example.com" n = some m := by
  decide +kernel

theorem visit_circlesFlow (j : Nat) :
    ∃ n ∈ circlesFlow.nodes.take 3, circlesFlow.visit "ann@example.com" none j = some n := by
  induction j with
  | zero => exact ⟨⟨"start", .start, .empty⟩, by decide, by decide +kernel⟩
  | succ j ih =>
    obtain ⟨n, hn, hvisit⟩ := ih
    obtain ⟨_, m, hm, hfollow⟩ := leads_back_circlesFlow n hn
    refine ⟨m, hm, ?_⟩
    rw [Flow.visit, hvisit, Option.bind_some, hfollow]

/-- **A call goes round for ever**: the flow is accepted, every message is delivered, and the call
    executes more nodes than any bound. -/
theorem circles_forever :
    circlesFlow.problems Moment.first = .ok [] ∧
      (∀ fuel, (circling "ann@example.com").run fuel "id-1" = none) ∧
      ∀ bound, ∃ k, bound < ((circling "ann@example.com").executes (fun _ => Moment.first)
        ⟨"id-1", .direct, (circling "ann@example.com").setup, .enter⟩ k).length := by
  have haccepted : circlesFlow.problems Moment.first = .ok [] := by decide +kernel
  have hwf := Check.isWellFormed_of_problems haccepted
  have hfound : ExecutionStorage.get (circling "ann@example.com").executions "id-1" =
      some (circled "ann@example.com") := by decide +kernel
  have hgoes : ∀ j, ¬ circlesFlow.StopsAfter "ann@example.com" none (fun _ => Moment.first) j := by
    intro j hstops
    cases j with
    | zero =>
      obtain ⟨n, _, hvisit⟩ := visit_circlesFlow 0
      cases hvisit.symm.trans hstops
    | succ j =>
      obtain ⟨n, hvisit, hhalts⟩ := hstops
      obtain ⟨n', hn', hvisit'⟩ := visit_circlesFlow j
      cases hvisit.symm.trans hvisit'
      obtain ⟨⟨hfinish, hdelay⟩, _⟩ := leads_back_circlesFlow n hn'
      exact hhalts.elim hfinish fun h => hdelay h.1
  have hvisits : ∀ j, ∃ m, (circling "ann@example.com").Visits (fun _ => Moment.first)
      ⟨"id-1", .direct, (circling "ann@example.com").setup, .enter⟩
      ⟨"id-1", "ann@example.com", Graph.ofFlow circlesFlow⟩ circlesFlow none j m := by
    rcases call_begins (sound_circling "ann@example.com") hfound rfl hwf .direct
      (circling "ann@example.com").setup (fun _ => Moment.first) with ⟨n, hn⟩ | ⟨hnone, _⟩
    · exact hn.endless hwf rfl obliges_outbox rfl hgoes
    · exact absurd hnone (hgoes 0)
  refine ⟨haccepted, fun fuel => ?_, fun bound => ?_⟩
  · cases hrun : (circling "ann@example.com").run fuel "id-1" with
    | none => rfl
    | some ended =>
      obtain ⟨m, hm⟩ := hvisits fuel
      have hdone := congrArg Prod.snd (finish_eq_some_iff.mp hrun)
      have hlater := goFor_of_done hdone (show fuel ≤ 4 * fuel + 1 by omega)
      have hstands := hm.arrives.stands
      rw [show (fun _ => Moment.first) = fun _ : Nat => (circling "ann@example.com").clock from rfl,
        hlater, hdone] at hstands
      cases hstands
  · obtain ⟨m, hm⟩ := hvisits (bound + 1)
    refine ⟨4 * (bound + 1) + 1, ?_⟩
    rw [hm.executes, Flow.length_visits fun i _ => (hvisits i).imp fun _ h => h.node]
    exact Nat.lt_succ_self bound

end Runner

end Dripline
