import Dripline.Proofs.Run.Audit
import Dripline.Proofs.Run.Timing
import Dripline.Proofs.Run.Ending

/-!
# Executions do not notice each other

One store, one registry of timers and one notifier serve all executions. Work for one of them still
depends on its own record, its own timer and its automation alone, and changes nothing else:

* `Receipt.Matches`, `LogEntry.Matches`, `Execution.Matches`: the same but for delivery ids, which count
  the messages of all executions;
* `Notifier.IsSteady`: a notifier whose answers depend on the subject and the message only;
* `Spares`, `finish_spares`: what work for one execution leaves alone;
* `Agrees`, `stepTask_parallel`, `finish_agrees`: two runners that agree on one execution do the same work
  for it, stage by stage and to the end;
* **`executions_independent`**: the work for two executions can be done in either order.
-/

namespace Dripline

/-! ## 1. Up to delivery ids -/

/-- The same message for the same execution, with whatever delivery id. -/
def Receipt.Matches (x x' : Receipt) : Prop := x' = { x with deliveryId := x'.deliveryId }

/-- The same text, or two texts about the same message. -/
inductive TextMatches : String → String → Prop where
  | same (text : String) : TextMatches text text
  | receipts (x x' : Receipt) (h : x.Matches x') : TextMatches x.text x'.text

/-- The same entry, with whatever delivery id in its message. -/
def LogEntry.Matches (entry entry' : LogEntry) : Prop :=
  entry' = { entry with message := entry'.message } ∧
    Option.Rel TextMatches entry.message entry'.message

/-- The same record, with whatever delivery ids in its log. -/
def Execution.Matches (e e' : Execution) : Prop :=
  e' = { e with log := e'.log } ∧ List.Forall₂ LogEntry.Matches e.log e'.log

/-- The same timer: it may have been armed earlier or later than other ones. -/
def Timer.Matches (timer timer' : Timer) : Prop := timer' = { timer with serial := timer'.serial }

theorem LogEntry.Matches.refl (entry : LogEntry) : entry.Matches entry := by
  refine ⟨rfl, ?_⟩
  cases entry.message with
  | none => exact .none
  | some text => exact .some (.same text)

theorem LogEntry.Matches.of_eq {entry entry' : LogEntry} (h : entry' = entry) :
    entry.Matches entry' := h ▸ .refl entry

theorem Execution.Matches.refl (e : Execution) : e.Matches e := by
  refine ⟨rfl, ?_⟩
  induction e.log with
  | nil => exact .nil
  | cons entry log ih => exact .cons (.refl entry) ih

theorem exists_of_rel_some {β γ : Type} {R : β → γ → Prop} {b : β} {found : Option γ}
    (h : Option.Rel R (some b) found) : ∃ c, found = some c ∧ R b c := by
  cases h with
  | some h => exact ⟨_, rfl, h⟩

theorem exists_of_rel_of_some {β γ : Type} {R : β → γ → Prop} {c : γ} {found : Option β}
    (h : Option.Rel R found (some c)) : ∃ b, found = some b ∧ R b c := by
  cases h with
  | some h => exact ⟨_, rfl, h⟩

namespace Execution.Matches

variable {e e' : Execution}

theorem isSuspended (h : e.Matches e') : e'.isSuspended = e.isSuspended := by
  rw [h.1]
  rfl

theorem write (h : e.Matches e') (f : Field) :
    (MemoryExecutions.write e f).Matches (MemoryExecutions.write e' f) := by
  cases f <;> exact ⟨by rw [h.1]; rfl, h.2⟩

theorem written (h : e.Matches e') (kept : Moment → Moment) (fields : List Field) :
    (e.written kept fields).Matches (e'.written kept fields) := by
  unfold Execution.written
  induction fields.map (Field.keep kept) generalizing e e' with
  | nil => exact h
  | cons f fields ih => exact ih (h.write f)

theorem noted (h : e.Matches e') (kept : Moment → Moment) {entry entry' : LogEntry}
    (hentry : entry.Matches entry') : (e.noted kept entry).Matches (e'.noted kept entry') := by
  refine ⟨?_, List.rel_append h.2 (.cons ⟨?_, hentry.2⟩ .nil)⟩
  · rw [h.1]
    rfl
  · rw [hentry.1]
    rfl

end Execution.Matches

/-- The same stage, with whatever delivery id in the result that comes next. -/
inductive Stage.Matches : Stage → Stage → Prop where
  | same (stage : Stage) : Matches stage stage
  | note (walk : Walk) (node : Node) (text text' next : String) (h : TextMatches text text') :
      Matches (.note walk node (.proceed text next)) (.note walk node (.proceed text' next))
  | settle (walk : Walk) (node : Node) (text text' next : String) :
      Matches (.settle walk node (.proceed text next)) (.settle walk node (.proceed text' next))

theorem Stage.Matches.act_iff {stage stage' : Stage} (h : stage.Matches stage') {walk : Walk}
    {node : Node} : stage' = .act walk node ↔ stage = .act walk node := by
  cases h with
  | same => exact Iff.rfl
  | note => exact iff_of_false nofun nofun
  | settle => exact iff_of_false nofun nofun

/-- A task comes to the same stage, or is done. -/
inductive Runner.Next.Matches : Runner.Next → Runner.Next → Prop where
  | stage (before after : Stage) (h : before.Matches after) : Matches (.stage before) (.stage after)
  | done (result result' : TaskResult) : Matches (.done result) (.done result')

/-! ## 2. Steady notifiers -/

/-- **A notifier whose answers depend on the subject and the message only**, but for the delivery ids,
    while its state is of some kind, and which keeps it so. -/
structure Notifier.IsSteady (ν : Type) [Notifier ν] (P : ν → Prop)
    (verdict : String → String → Except SendFault Unit) : Prop where
  keeps : ∀ notifier executions subject message, P notifier →
    P (Notifier.send notifier executions subject message).notifier
  answers : ∀ notifier executions subject message, P notifier →
    (Notifier.send notifier executions subject message).outcome.map (fun _ => ()) =
      verdict subject message

/-! ## 3. What work for one execution leaves alone -/

namespace Runner

variable {α ε ν : Type} [ExecutionStorage ε] [LawfulExecutions ε] {r r' r'' : Runner α ε ν}
  {id : String}

/-- **A later runner to which something happened that concerns one execution only.** -/
structure Spares (r r' : Runner α ε ν) (id : String) : Prop where
  sound : LawfulExecutions.Sound r'.executions
  records : ∀ id', id' ≠ id →
    ExecutionStorage.get r'.executions id' = ExecutionStorage.get r.executions id'
  timers : ∀ id', id' ≠ id → r'.timers.get? id' = r.timers.get? id'
  automations : r'.automations = r.automations
  clock : r'.clock = r.clock

theorem Spares.trans (h : r.Spares r' id) (h' : r'.Spares r'' id) : r.Spares r'' id where
  sound := h'.sound
  records id' hid := (h'.records id' hid).trans (h.records id' hid)
  timers id' hid := (h'.timers id' hid).trans (h.timers id' hid)
  automations := h'.automations.trans h.automations
  clock := h'.clock.trans h.clock

/-- A task has a record to work on, or looks for one. -/
def Grounded (r : Runner α ε ν) (t : Task) : Prop :=
  t.Holds → ∃ e, ExecutionStorage.get r.executions t.executionId = some e

variable [AutomationStorage α] [Notifier ν]

/-- **One stage** concerns its execution only, and the task still has its record after it. -/
theorem stepTask_spares {t : Task} (hs : LawfulExecutions.Sound r.executions) (h : r.Grounded t) :
    r.Spares (r.stepTask t).1 t.executionId ∧ ∀ stage, (r.stepTask t).2 = .stage stage →
      (r.stepTask t).1.Grounded { t with stage := stage } := by
  have haround := r.stepTask_around t
  cases he : ExecutionStorage.get r.executions t.executionId with
  | some e =>
    obtain ⟨e', _, hrev⟩ := stepTask_takes hs he
    exact ⟨⟨hrev.sound, hrev.others, fun _ hid => (stepTask_rings hs he).other hid,
      haround.automations, haround.clock⟩, fun _ _ _ => ⟨e', hrev.own⟩⟩
  | none =>
    have hwake : t.stage = .wake := Stage.eq_wake_of_role (not_not.mp fun hholds => by
      obtain ⟨e, hfound⟩ := h hholds
      cases he.symm.trans hfound)
    obtain ⟨hsame, hdone⟩ := stepTask_missing hwake he
    refine ⟨⟨hsame ▸ hs, fun id' _ => by rw [hsame], fun id' hid => ?_, haround.automations,
      haround.clock⟩, fun stage hstage => nomatch hdone.symm.trans hstage⟩
    rw [stepTask_missing_timers hwake he, Timers.release_other _ hid, Timers.cancel,
      Timers.get?_setPhase, if_neg (Ne.symm hid)]

/-- **A task to its end** concerns its execution only. -/
theorem finish_spares {fuel : Nat} {t : Task} {result : TaskResult}
    (hs : LawfulExecutions.Sound r.executions) (h : r.Grounded t)
    (hfinish : finish fuel r t = some (r', result)) : r.Spares r' t.executionId := by
  induction fuel generalizing r t with
  | zero => cases hfinish
  | succ fuel ih =>
    obtain ⟨hspares, hground⟩ := stepTask_spares hs h
    unfold finish at hfinish
    cases hstep : r.stepTask t with
    | mk r₁ next =>
      rw [hstep] at hfinish hspares hground
      cases next with
      | stage stage =>
        exact hspares.trans (ih (t := { t with stage := stage }) hspares.sound (hground stage rfl) hfinish)
      | done result =>
        cases hfinish
        exact hspares

end Runner

/-! ## 4. The same work in two runners -/

namespace Runner

section

variable {α ε ν : Type} [ExecutionStorage ε] [LawfulExecutions ε] {P : ν → Prop} {id : String}

/-- **Two runners that agree on one execution**: they read the same automations and the same clock, and
    its records and its timers match. -/
structure Agrees (P : ν → Prop) (id : String) (r r' : Runner α ε ν) : Prop where
  automations : r'.automations = r.automations
  clock : r'.clock = r.clock
  sound : LawfulExecutions.Sound r.executions
  sound' : LawfulExecutions.Sound r'.executions
  notifier : P r.notifier
  notifier' : P r'.notifier
  records : Option.Rel Execution.Matches (ExecutionStorage.get r.executions id)
    (ExecutionStorage.get r'.executions id)
  timers : Option.Rel Timer.Matches (r.timers.get? id) (r'.timers.get? id)

/-- The same happened to two runners that agree on an execution. While the task goes on, its timers are
    the same, by their serial numbers too. -/
structure Parallel (P : ν → Prop) (id : String) (out out' : Runner α ε ν × Next) : Prop where
  agrees : Agrees P id out.1 out'.1
  next : out.2.Matches out'.2
  timer : ∀ stage, out.2 = .stage stage → out'.1.timers.get? id = out.1.timers.get? id

variable {q q' : Runner α ε ν} {e e' : Execution} {stage stage' : Stage}

theorem parallel_stage (h : Agrees P id q q') (hstage : stage.Matches stage')
    (htimer : q'.timers.get? id = q.timers.get? id) :
    Parallel P id (q, .stage stage) (q', .stage stage') := ⟨h, .stage _ _ hstage, fun _ _ => htimer⟩

theorem parallel_done (h : Agrees P id q q') (result result' : TaskResult) :
    Parallel P id (q, .done result) (q', .done result') :=
  ⟨h, .done result result', fun _ heq => nomatch heq⟩

theorem Agrees.found (h : Agrees P id q q') (he : ExecutionStorage.get q.executions id = some e) :
    ∃ e', ExecutionStorage.get q'.executions id = some e' ∧ e.Matches e' :=
  exists_of_rel_some (he ▸ h.records)

theorem Agrees.lost (h : Agrees P id q q') (he : ExecutionStorage.get q.executions id = none) :
    ExecutionStorage.get q'.executions id = none := by
  have hrecords := h.records
  rw [he] at hrecords
  generalize ExecutionStorage.get q'.executions id = found at hrecords
  cases hrecords
  rfl

theorem records_of_eq {found found' : Option Execution} (h : found' = found) :
    Option.Rel Execution.Matches found found' := by
  rw [h]
  cases found with
  | none => exact .none
  | some e => exact .some (.refl e)

theorem timers_of_eq {timer timer' : Option Timer} (h : timer' = timer) :
    Option.Rel Timer.Matches timer timer' := by
  rw [h]
  cases timer with
  | none => exact .none
  | some timer => exact .some rfl

/-- What is said changes nothing. -/
theorem Agrees.said (h : Agrees P id q q') (level level' : Level) (speaker speaker' : Speaker)
    (text text' : String) : Agrees P id (q.say level speaker text) (q'.say level' speaker' text') :=
  ⟨h.automations, h.clock, h.sound, h.sound', h.notifier, h.notifier', h.records, h.timers⟩

/-- Other timers that match, too. -/
theorem Agrees.timed (h : Agrees P id q q') {timers timers' : Timers} (journal journal' : List Line)
    (htimers : Option.Rel Timer.Matches (timers.get? id) (timers'.get? id)) :
    Agrees P id { q with timers := timers, journal := journal }
      { q' with timers := timers', journal := journal' } :=
  ⟨h.automations, h.clock, h.sound, h.sound', h.notifier, h.notifier', h.records, htimers⟩

theorem Agrees.stored (h : Agrees P id q q') {s s' : ε} (hrev : Revises q.executions s id e)
    (hrev' : Revises q'.executions s' id e') (hmatches : e.Matches e') :
    Agrees P id { q with executions := s } { q' with executions := s' } where
  automations := h.automations
  clock := h.clock
  sound := hrev.sound
  sound' := hrev'.sound
  notifier := h.notifier
  notifier' := h.notifier'
  records := by
    rw [hrev.own, hrev'.own]
    exact .some hmatches
  timers := h.timers

/-- The same fields are written, and what follows is the same. -/
theorem write_parallel (h : Agrees P id q q') (he : ExecutionStorage.get q.executions id = some e)
    {fields fields' : List Field} (hsame : fields' = fields)
    (hfields : ∀ f ∈ fields, ∀ name, f ≠ .unknown name)
    {next next' : Execution → Runner α ε ν → Runner α ε ν × Next}
    (hnext : ∀ e e' s s', Agrees P id { q with executions := s } { q' with executions := s' } →
      Parallel P id (next e { q with executions := s }) (next' e' { q' with executions := s' })) :
    Parallel P id (q.write id fields next) (q'.write id fields' next') := by
  subst hsame
  obtain ⟨e', he', hmatches⟩ := h.found he
  obtain ⟨s, hs, hrev⟩ := revises_update h.sound he (checkFields_of_known hfields)
  obtain ⟨s', hs', hrev'⟩ := revises_update h.sound' he' (checkFields_of_known hfields)
  unfold write
  rw [hs, hs']
  exact hnext _ _ s s' (h.stored hrev hrev' (hmatches.written _ _))

/-- Entries are appended that match. -/
theorem append_parallel (h : Agrees P id q q') (he : ExecutionStorage.get q.executions id = some e)
    {entry entry' : LogEntry} (hentry : entry.Matches entry') (hstage : stage.Matches stage')
    (htimer : q'.timers.get? id = q.timers.get? id) :
    Parallel P id (q.append id entry stage) (q'.append id entry' stage') := by
  obtain ⟨e', he', hmatches⟩ := h.found he
  obtain ⟨s, hs, hrev⟩ := revises_append h.sound he entry
  obtain ⟨s', hs', hrev'⟩ := revises_append h.sound' he' entry'
  unfold append
  rw [hs, hs']
  exact parallel_stage (h.stored hrev hrev' (hmatches.noted _ hentry)) hstage htimer

end

variable {α ε ν : Type} [AutomationStorage α] [ExecutionStorage ε] [Notifier ν]
  [LawfulExecutions ε] {P : ν → Prop} {verdict : String → String → Except SendFault Unit}
  {r r' : Runner α ε ν} {id : String} {e : Execution}

omit [Notifier ν] in
theorem stepEnter_parallel (h : Agrees P id r r') (htimer : r'.timers.get? id = r.timers.get? id)
    (he : ExecutionStorage.get r.executions id = some e) :
    Parallel P id (r.stepEnter id) (r'.stepEnter id) := by
  obtain ⟨e', he', hsame, _⟩ := h.found he
  have hautomation : e'.automationId = e.automationId := by rw [hsame]
  have hsubject : e'.subject = e.subject := by rw [hsame]
  have hnode : e'.currentNode = e.currentNode := by rw [hsame]
  unfold stepEnter
  simp only [he, he', hautomation, hsubject, hnode, h.automations]
  cases AutomationStorage.get r.automations e.automationId with
  | error fault => exact parallel_done h _ _
  | ok found =>
    cases found with
    | none => exact parallel_stage h (.same _) htimer
    | some a =>
      cases e.currentNode with
      | some nodeId => exact parallel_stage h (.same _) htimer
      | none =>
        dsimp only
        cases (Graph.ofFlow a.flow).start? with
        | none => exact parallel_stage h (.same _) htimer
        | some start => exact parallel_stage h (.same _) htimer

omit [AutomationStorage α] [Notifier ν] in
theorem stepArrive_parallel (h : Agrees P id r r') (htimer : r'.timers.get? id = r.timers.get? id)
    (he : ExecutionStorage.get r.executions id = some e) (walk : Walk) (nodeId : String) :
    Parallel P id (r.stepArrive id walk nodeId) (r'.stepArrive id walk nodeId) := by
  unfold stepArrive
  cases walk.graph.node? nodeId with
  | none => exact parallel_stage h (.same _) htimer
  | some node =>
    exact write_parallel h he rfl (by simp) fun _ _ _ _ hstored =>
      parallel_stage (hstored.said _ _ _ _ _ _) (.same _) htimer

omit [AutomationStorage α] in
/-- A steady notifier gives two runners the same answer, but for the delivery id. -/
theorem answers_agree (hsteady : Notifier.IsSteady ν P verdict) (h : Agrees P id r r')
    (subject message : String) :
    (∃ fault, r.answer subject message = .error fault ∧ r'.answer subject message = .error fault) ∨
      ∃ deliveryId deliveryId', r.answer subject message = .ok deliveryId ∧
        r'.answer subject message = .ok deliveryId' := by
  have hanswer : (r.answer subject message).map (fun _ => ()) = verdict subject message :=
    hsteady.answers _ _ _ _ h.notifier
  have hanswer' : (r'.answer subject message).map (fun _ => ()) = verdict subject message :=
    hsteady.answers _ _ _ _ h.notifier'
  rw [← hanswer'] at hanswer
  generalize r.answer subject message = answer at hanswer
  generalize r'.answer subject message = answer' at hanswer
  cases answer with
  | error fault =>
    cases answer' with
    | error fault' =>
      cases hanswer
      exact .inl ⟨fault, rfl, rfl⟩
    | ok deliveryId' => cases hanswer
  | ok deliveryId =>
    cases answer' with
    | error fault' => cases hanswer
    | ok deliveryId' => exact .inr ⟨deliveryId, deliveryId', rfl, rfl⟩

omit [AutomationStorage α] in
/-- The notifier is asked in both runners. -/
theorem Agrees.notified (hsteady : Notifier.IsSteady ν P verdict) (h : Agrees P id r r')
    (executions executions' : List Execution) (subject message : String)
    (journal journal' : List Line) :
    Agrees P id
      { r with
        notifier := (Notifier.send r.notifier executions subject message).notifier
        journal := journal }
      { r' with
        notifier := (Notifier.send r'.notifier executions' subject message).notifier
        journal := journal' } :=
  ⟨h.automations, h.clock, h.sound, h.sound', hsteady.keeps _ _ _ _ h.notifier,
    hsteady.keeps _ _ _ _ h.notifier', h.records, h.timers⟩

omit [AutomationStorage α] in
theorem stepAct_parallel (hsteady : Notifier.IsSteady ν P verdict) (h : Agrees P id r r')
    (htimer : r'.timers.get? id = r.timers.get? id) (setup : Setup) (walk : Walk) (node : Node) :
    Parallel P id (r.stepAct setup walk node) (r'.stepAct setup walk node) := by
  have hplan' : Step.plan walk.graph walk.subject r'.clock node =
      Step.plan walk.graph walk.subject r.clock node := by rw [h.clock]
  unfold stepAct
  simp only [hplan']
  cases Step.plan walk.graph walk.subject r.clock node with
  | error fault => exact parallel_stage h (.same _) htimer
  | ok plan =>
    cases plan with
    | settled result => exact parallel_stage h (.same _) htimer
    | deliver message next =>
      dsimp only
      have hanswers := answers_agree hsteady h walk.subject message
      unfold answer at hanswers
      rcases hanswers with ⟨fault, houtcome, houtcome'⟩ | ⟨deliveryId, deliveryId', houtcome, houtcome'⟩
      · simp only [houtcome, houtcome']
        exact parallel_stage (h.notified hsteady _ _ _ _ _ _) (.same _) htimer
      · simp only [houtcome, houtcome']
        have htext := TextMatches.receipts
          ⟨walk.executionId, walk.subject, message, deliveryId, setup.previewChars⟩
          ⟨walk.executionId, walk.subject, message, deliveryId', setup.previewChars⟩ rfl
        exact parallel_stage (h.notified hsteady _ _ _ _ _ _) (.note walk node _ _ next htext) htimer

omit [AutomationStorage α] [Notifier ν] in
/-- A timer is armed in both runners or in none. -/
theorem schedule_agrees (h : Agrees P id r r') (htimer : r'.timers.get? id = r.timers.get? id)
    (due : Moment) :
    (r'.schedule id due).1 = (r.schedule id due).1 ∧
      Agrees P id (r.schedule id due).2 (r'.schedule id due).2 := by
  have hseconds : r'.secondsUntil due = r.secondsUntil due := by
    unfold secondsUntil
    rw [h.clock]
  unfold schedule
  rw [htimer, hseconds]
  by_cases hthere : (r.timers.get? id).isSome = true
  · rw [if_pos hthere, if_pos hthere]
    exact ⟨rfl, h.said _ _ _ _ _ _⟩
  · rw [if_neg hthere, if_neg hthere]
    cases r.secondsUntil due with
    | error fault => exact ⟨rfl, h⟩
    | ok seconds =>
      refine ⟨rfl, h.timed _ _ ?_⟩
      rw [Timers.get?_arm, Timers.get?_arm, if_pos rfl, if_pos rfl]
      exact .some rfl

omit [AutomationStorage α] [Notifier ν] in
theorem attend_agrees (h : Agrees P id r r') (htimer : r'.timers.get? id = r.timers.get? id)
    (setup : Setup) (due : Moment) :
    (r'.attend setup id due).1 = (r.attend setup id due).1 ∧
      Agrees P id (r.attend setup id due).2 (r'.attend setup id due).2 := by
  obtain ⟨hsame, hagrees⟩ := schedule_agrees h htimer due
  unfold attend
  cases setup.scheduled with
  | false => exact ⟨rfl, h.said _ _ _ _ _ _⟩
  | true =>
    rw [if_pos rfl, if_pos rfl]
    cases hcase : r.schedule id due with
    | mk outcome q =>
      cases hcase' : r'.schedule id due with
      | mk outcome' q' =>
        rw [hcase, hcase'] at hsame hagrees
        cases hsame
        cases outcome <;> exact ⟨rfl, hagrees⟩

omit [AutomationStorage α] [Notifier ν] in
theorem stepSettle_parallel (h : Agrees P id r r') (htimer : r'.timers.get? id = r.timers.get? id)
    (he : ExecutionStorage.get r.executions id = some e) (setup : Setup) (walk : Walk) (node : Node)
    (result : StepResult) :
    Parallel P id (r.stepSettle setup id walk node result)
      (r'.stepSettle setup id walk node result) := by
  cases result with
  | proceed message next => exact parallel_stage h (.same _) htimer
  | stuck message error => exact parallel_stage h (.same _) htimer
  | finish message =>
    dsimp only [stepSettle]
    exact write_parallel (h.said _ _ _ _ _ _) he (by rw [← h.clock]) (by simp) fun _ _ _ _ hstored =>
      parallel_done hstored _ _
  | suspend message due =>
    dsimp only [stepSettle]
    refine write_parallel h he rfl (by simp) fun e e' s s' hstored => ?_
    obtain ⟨hsame, hagrees⟩ := attend_agrees
      (hstored.said .info .info .interpreter .interpreter
        s!"Execution {id} suspended at {node.id} until {due.render}"
        s!"Execution {id} suspended at {node.id} until {due.render}") htimer setup due
    cases hcase : (say { r with executions := s } .info .interpreter
        s!"Execution {id} suspended at {node.id} until {due.render}").attend setup id due with
    | mk outcome q =>
      cases hcase' : (say { r' with executions := s' } .info .interpreter
          s!"Execution {id} suspended at {node.id} until {due.render}").attend setup id due with
      | mk outcome' q' =>
        rw [hcase, hcase'] at hsame hagrees
        cases hsame
        cases outcome <;> exact parallel_done hagrees _ _

omit [AutomationStorage α] [Notifier ν] in
theorem stepFailing_parallel (h : Agrees P id r r') (htimer : r'.timers.get? id = r.timers.get? id)
    (he : ExecutionStorage.get r.executions id = some e) (entry : Option (String × String))
    (error : String) : Parallel P id (r.stepFailing id entry error) (r'.stepFailing id entry error) := by
  have hsaid := h.said .error .error .interpreter .interpreter s!"Execution {id} failed: {error}"
    s!"Execution {id} failed: {error}"
  cases entry with
  | none => exact parallel_stage hsaid (.same _) htimer
  | some entry =>
    refine append_parallel hsaid he (.of_eq ?_) (.same _) htimer
    unfold failureEntry
    rw [hsaid.clock]

omit [AutomationStorage α] [Notifier ν] in
/-- The record is closed in both runners. -/
theorem closing_fields (h : Agrees P id r r') :
    [Field.status .failed, .scheduledFor none, .completedAt (some r'.clock)] =
      [Field.status .failed, .scheduledFor none, .completedAt (some r.clock)] := by
  rw [h.clock]

omit [AutomationStorage α] [Notifier ν] in
/-- A timer that is the same is released in both runners. -/
theorem released_agrees (h : Agrees P id r r') (htimer : r'.timers.get? id = r.timers.get? id)
    (timer : Option Nat) :
    (r'.release id timer).timers.get? id = (r.release id timer).timers.get? id ∧
      Agrees P id (r.release id timer) (r'.release id timer) := by
  have hsame : (r'.timers.release id timer).get? id = (r.timers.release id timer).get? id := by
    rw [Timers.release_own, Timers.release_own, htimer]
  exact ⟨hsame, h.timed _ _ (timers_of_eq hsame)⟩

omit [AutomationStorage α] [Notifier ν] in
theorem stepLost_parallel (h : Agrees P id r r') (htimer : r'.timers.get? id = r.timers.get? id)
    (he : ExecutionStorage.get r.executions id = some e) (nodeId : Option String) (error : String)
    (timer : Option Nat) :
    Parallel P id (r.stepLost id nodeId error timer) (r'.stepLost id nodeId error timer) := by
  have hsaid := h.said .error .error .scheduler .scheduler
    s!"Execution {id} failed on resume: {error}" s!"Execution {id} failed on resume: {error}"
  dsimp only [stepLost]
  refine append_parallel hsaid he (.of_eq ?_) (.same _) htimer
  rw [hsaid.clock]

omit [AutomationStorage α] [Notifier ν] in
theorem stepClosing_parallel (h : Agrees P id r r')
    (he : ExecutionStorage.get r.executions id = some e) :
    Parallel P id (r.stepClosing id) (r'.stepClosing id) :=
  write_parallel h he (closing_fields h) (by simp) fun _ _ _ _ hstored => parallel_done hstored _ _

omit [AutomationStorage α] [Notifier ν] in
theorem stepLostClosing_parallel (h : Agrees P id r r')
    (htimer : r'.timers.get? id = r.timers.get? id)
    (he : ExecutionStorage.get r.executions id = some e) (timer : Option Nat) :
    Parallel P id (r.stepLostClosing id timer) (r'.stepLostClosing id timer) :=
  write_parallel h he (closing_fields h) (by simp) fun _ _ _ _ hstored =>
    parallel_done (released_agrees hstored htimer timer).2 _ _

omit [AutomationStorage α] [Notifier ν] in
theorem stepLeave_parallel (h : Agrees P id r r') (htimer : r'.timers.get? id = r.timers.get? id)
    (he : ExecutionStorage.get r.executions id = some e) (target : String) (timer : Option Nat) :
    Parallel P id (r.stepLeave id target timer) (r'.stepLeave id target timer) :=
  write_parallel h he rfl (by simp) fun _ _ _ _ hstored =>
    parallel_stage (released_agrees hstored htimer timer).2 (.same _)
      (released_agrees hstored htimer timer).1

omit [Notifier ν] in
/-- A resumption finds the same timer and the same record, or drops the same timer. -/
theorem stepWake_parallel (h : Agrees P id r r') (htimer : r'.timers.get? id = r.timers.get? id) :
    Parallel P id (r.stepWake id) (r'.stepWake id) := by
  have hcancelled : (r'.timers.cancel id).get? id = (r.timers.cancel id).get? id := by
    unfold Timers.cancel
    rw [Timers.get?_setPhase, Timers.get?_setPhase, htimer]
  have hdropped : ((r'.timers.cancel id).release id ((r.timers.get? id).map Timer.serial)).get? id =
      ((r.timers.cancel id).release id ((r.timers.get? id).map Timer.serial)).get? id := by
    rw [Timers.release_own, Timers.release_own, hcancelled]
  have hdrops : ∀ journal journal', Agrees P id
      { r with
        timers := (r.timers.cancel id).release id ((r.timers.get? id).map Timer.serial)
        journal := journal }
      { r' with
        timers := (r'.timers.cancel id).release id ((r.timers.get? id).map Timer.serial)
        journal := journal' } := fun _ _ => h.timed _ _ (timers_of_eq hdropped)
  unfold stepWake
  rw [htimer]
  cases he : ExecutionStorage.get r.executions id with
  | none =>
    simp only [he, h.lost he]
    exact parallel_done (hdrops _ _) _ _
  | some e =>
    obtain ⟨e', he', hsame, hlog⟩ := h.found he
    have hsuspended := Execution.Matches.isSuspended ⟨hsame, hlog⟩
    have hautomation : e'.automationId = e.automationId := by rw [hsame]
    have hnode : e'.currentNode = e.currentNode := by rw [hsame]
    simp only [he, he', hsuspended, hautomation, hnode]
    cases e.isSuspended with
    | false => exact parallel_done (hdrops _ _) _ _
    | true =>
      have hget : AutomationStorage.get r'.automations e.automationId =
          AutomationStorage.get r.automations e.automationId := by rw [h.automations]
      simp only [say, Bool.not_true, Bool.false_eq_true, if_false, hget]
      cases AutomationStorage.get r.automations e.automationId with
      | error fault => exact parallel_done (hdrops _ _) _ _
      | ok found =>
        cases found with
        | none => exact parallel_stage (h.timed _ _ (timers_of_eq hcancelled)) (.same _) hcancelled
        | some a =>
          dsimp only
          cases e.currentNode.bind (Graph.ofFlow a.flow).successor? with
          | some target =>
            exact parallel_stage (h.timed _ _ (timers_of_eq hcancelled)) (.same _) hcancelled
          | none =>
            exact parallel_stage (h.timed _ _ (timers_of_eq hcancelled)) (.same _) hcancelled

/-- **The same stage in two runners** that agree on its execution. -/
theorem stepTask_parallel (hsteady : Notifier.IsSteady ν P verdict) {t : Task} {stage' : Stage}
    (h : Agrees P t.executionId r r')
    (htimer : r'.timers.get? t.executionId = r.timers.get? t.executionId) (hground : r.Grounded t)
    (hstage : t.stage.Matches stage') :
    Parallel P t.executionId (r.stepTask t) (r'.stepTask { t with stage := stage' }) := by
  obtain ⟨id, origin, setup, stage⟩ := t
  cases hstage with
  | note walk node text text' next htext =>
    obtain ⟨e, he⟩ := hground nofun
    refine append_parallel h he ⟨?_, .some htext⟩ (.settle walk node text text' next) htimer
    unfold logEntry
    rw [h.clock]
  | settle walk node text text' next => exact parallel_stage h (.same _) htimer
  | same =>
    cases stage with
    | wake => exact stepWake_parallel h htimer
    | enter =>
      obtain ⟨e, he⟩ := hground nofun
      exact stepEnter_parallel h htimer he
    | arrive walk nodeId =>
      obtain ⟨e, he⟩ := hground nofun
      exact stepArrive_parallel h htimer he walk nodeId
    | act walk node => exact stepAct_parallel hsteady h htimer setup walk node
    | note walk node result =>
      obtain ⟨e, he⟩ := hground nofun
      refine append_parallel h he (.of_eq ?_) (.same _) htimer
      unfold logEntry
      rw [h.clock]
    | settle walk node result =>
      obtain ⟨e, he⟩ := hground nofun
      exact stepSettle_parallel h htimer he setup walk node result
    | failing entry error =>
      obtain ⟨e, he⟩ := hground nofun
      exact stepFailing_parallel h htimer he entry error
    | closing =>
      obtain ⟨e, he⟩ := hground nofun
      exact stepClosing_parallel h he
    | lost nodeId error timer =>
      obtain ⟨e, he⟩ := hground nofun
      exact stepLost_parallel h htimer he nodeId error timer
    | lostClosing timer =>
      obtain ⟨e, he⟩ := hground nofun
      exact stepLostClosing_parallel h htimer he timer
    | leave target timer =>
      obtain ⟨e, he⟩ := hground nofun
      exact stepLeave_parallel h htimer he target timer

omit [AutomationStorage α] in
/-- The same is sent in both. -/
theorem receipts_agree (hsteady : Notifier.IsSteady ν P verdict) {t : Task} {stage' : Stage}
    (h : Agrees P t.executionId r r') (hstage : t.stage.Matches stage') :
    List.Forall₂ Receipt.Matches (r.receipt? t).toList
      (r'.receipt? { t with stage := stage' }).toList := by
  by_cases hact : ∃ walk node, t.stage = .act walk node
  · obtain ⟨walk, node, hact⟩ := hact
    have hact' := hstage.act_iff.mpr hact
    have hplan' : Step.plan walk.graph walk.subject r'.clock node =
        Step.plan walk.graph walk.subject r.clock node := by rw [h.clock]
    unfold receipt?
    simp only [hact, hact', hplan']
    cases Step.plan walk.graph walk.subject r.clock node with
    | error fault => exact .nil
    | ok plan =>
      cases plan with
      | settled result => exact .nil
      | deliver message next =>
        rcases answers_agree hsteady h walk.subject message with
          ⟨fault, hanswer, hanswer'⟩ | ⟨deliveryId, deliveryId', hanswer, hanswer'⟩
        · simp only [hanswer, hanswer']
          exact .nil
        · simp only [hanswer, hanswer']
          exact .cons rfl .nil
  · have hother : ∀ walk node, t.stage ≠ .act walk node := fun walk node heq =>
      hact ⟨walk, node, heq⟩
    have hother' : ∀ walk node, stage' ≠ .act walk node := fun walk node heq =>
      hother walk node (hstage.act_iff.mp heq)
    rw [receipt?_of_not_act hother, receipt?_of_not_act hother']
    exact .nil

omit [LawfulExecutions ε] in
/-- **The receipts of a task to its end**, as far as it comes within a number of stages. -/
def receiptsWithin : Nat → Runner α ε ν → Task → List Receipt
  | 0, _, _ => []
  | fuel + 1, r, t =>
    (r.receipt? t).toList ++
      match r.stepTask t with
      | (r, .stage stage) => receiptsWithin fuel r { t with stage := stage }
      | (_, .done _) => []

/-- **The same task to its end in two runners** that agree on its execution: it ends in both or in none,
    they still agree, and the same was sent. -/
theorem finish_agrees (hsteady : Notifier.IsSteady ν P verdict) (fuel : Nat) {t : Task} {stage' : Stage}
    (h : Agrees P t.executionId r r')
    (htimer : r'.timers.get? t.executionId = r.timers.get? t.executionId) (hground : r.Grounded t)
    (hstage : t.stage.Matches stage') :
    Option.Rel (fun out out' => Agrees P t.executionId out.1 out'.1) (finish fuel r t)
        (finish fuel r' { t with stage := stage' }) ∧
      List.Forall₂ Receipt.Matches (receiptsWithin fuel r t)
        (receiptsWithin fuel r' { t with stage := stage' }) := by
  induction fuel generalizing r r' t stage' with
  | zero => exact ⟨.none, .nil⟩
  | succ fuel ih =>
    have hreceipts := receipts_agree hsteady h hstage
    obtain ⟨hagrees, hnext, htimer'⟩ := stepTask_parallel hsteady h htimer hground hstage
    obtain ⟨_, hground'⟩ := stepTask_spares h.sound hground
    unfold finish receiptsWithin
    cases hstep : r.stepTask t with
    | mk q next =>
      cases hstep' : r'.stepTask { t with stage := stage' } with
      | mk q' next' =>
        rw [hstep, hstep'] at hagrees hnext
        rw [hstep, hstep'] at htimer'
        rw [hstep] at hground'
        cases hnext with
        | done result result' => exact ⟨.some hagrees, List.rel_append hreceipts .nil⟩
        | stage later later' hmatches =>
          obtain ⟨hends, hsent⟩ := ih (t := { t with stage := later }) hagrees (htimer' later rfl)
            (hground' later rfl) hmatches
          exact ⟨hends, List.rel_append hreceipts hsent⟩

/-! ## 5. Either order -/

omit [LawfulExecutions ε] in
/-- A task leaves a notifier of a kind that it keeps. -/
theorem finish_notifier (hsteady : Notifier.IsSteady ν P verdict) {fuel : Nat} {t : Task}
    {result : TaskResult} (h : P r.notifier) (hfinish : finish fuel r t = some (r', result)) :
    P r'.notifier := by
  induction fuel generalizing r t with
  | zero => cases hfinish
  | succ fuel ih =>
    have hkept : P (r.stepTask t).1.notifier := by
      rcases stepTask_notifier r t with hsame | ⟨executions, subject, message, hsent⟩
      · rw [hsame]
        exact h
      · rw [hsent]
        exact hsteady.keeps _ _ _ _ h
    unfold finish at hfinish
    cases hstep : r.stepTask t with
    | mk q next =>
      rw [hstep] at hfinish hkept
      cases next with
      | stage stage => exact ih hkept hfinish
      | done result =>
        cases hfinish
        exact hkept

omit [AutomationStorage α] [Notifier ν] in
/-- Two runners agree on an execution whose record and timer are the same in both. -/
theorem agrees_of_same (hautomations : r'.automations = r.automations) (hclock : r'.clock = r.clock)
    (hs : LawfulExecutions.Sound r.executions) (hs' : LawfulExecutions.Sound r'.executions)
    (hP : P r.notifier) (hP' : P r'.notifier)
    (hrecord : ExecutionStorage.get r'.executions id = ExecutionStorage.get r.executions id)
    (htimer : r'.timers.get? id = r.timers.get? id) : Agrees P id r r' where
  automations := hautomations
  clock := hclock
  sound := hs
  sound' := hs'
  notifier := hP
  notifier' := hP'
  records := records_of_eq hrecord
  timers := timers_of_eq htimer

omit [AutomationStorage α] [Notifier ν] in
/-- **Two orders of work match**, if the work for either execution does and spares everything else. -/
theorem orders_match {rx ry rxy ryx : Runner α ε ν} {x y : String}
    (hx : r.Spares rx x) (hy : r.Spares ry y) (hxy : rx.Spares rxy y) (hyx : ry.Spares ryx x)
    (hne : x ≠ y) (hagreesx : Agrees P x rx ryx) (hagreesy : Agrees P y rxy ry) (id : String) :
    Option.Rel Execution.Matches (ExecutionStorage.get rxy.executions id)
        (ExecutionStorage.get ryx.executions id) ∧
      Option.Rel Timer.Matches (rxy.timers.get? id) (ryx.timers.get? id) := by
  by_cases hidx : id = x
  · rw [hidx, hxy.records x hne, hxy.timers x hne]
    exact ⟨hagreesx.records, hagreesx.timers⟩
  by_cases hidy : id = y
  · rw [hidy, hyx.records y hne.symm, hyx.timers y hne.symm]
    exact ⟨hagreesy.records, hagreesy.timers⟩
  rw [hxy.records id hidy, hx.records id hidx, hyx.records id hidx, hy.records id hidy,
    hxy.timers id hidy, hx.timers id hidx, hyx.timers id hidx, hy.timers id hidy]
  exact ⟨records_of_eq rfl, timers_of_eq rfl⟩

end Runner

namespace Session

variable {α ε ν : Type} [AutomationStorage α] [ExecutionStorage ε] [Notifier ν]
  [LawfulExecutions ε] {P : ν → Prop} {verdict : String → String → Except SendFault Unit}
  {s : Session α ε ν}

open Runner in
/-- **Executions are independent.** In every session two tasks of different executions are queued, be it
    calls of the interpreter or resumptions and wherever they stand; the notifier's answers depend on the
    subject and the message only. If both tasks come to their end, then the work for the first one
    leaves the record, the log and the timer of the second one as they are; either task also comes to
    its end after the other one; and in either order all records and all timers are the same afterwards
    and the same messages were sent for either execution, up to delivery ids. -/
theorem executions_independent (ho : s.IsSound) (hsteady : Notifier.IsSteady ν P verdict)
    (hP : P s.runner.notifier) {x y : Task} (hx : x ∈ s.runner.queue) (hy : y ∈ s.runner.queue)
    (hne : x.executionId ≠ y.executionId) {fuel fuel' : Nat} {rx ry : Runner α ε ν}
    {resultx resulty : TaskResult} (hfinishx : finish fuel s.runner x = some (rx, resultx))
    (hfinishy : finish fuel' s.runner y = some (ry, resulty)) :
    (ExecutionStorage.get rx.executions y.executionId =
        ExecutionStorage.get s.runner.executions y.executionId ∧
      rx.timers.get? y.executionId = s.runner.timers.get? y.executionId) ∧
      ∃ rxy ryx resulty' resultx', finish fuel' rx y = some (rxy, resulty') ∧
        finish fuel ry x = some (ryx, resultx') ∧
        (∀ id, Option.Rel Execution.Matches (ExecutionStorage.get rxy.executions id)
          (ExecutionStorage.get ryx.executions id)) ∧
        (∀ id, Option.Rel Timer.Matches (rxy.timers.get? id) (ryx.timers.get? id)) ∧
        List.Forall₂ Receipt.Matches (receiptsWithin fuel s.runner x) (receiptsWithin fuel ry x) ∧
        List.Forall₂ Receipt.Matches (receiptsWithin fuel' rx y) (receiptsWithin fuel' s.runner y) := by
  have hgroundx : s.runner.Grounded x := ho.exists_of_held hx
  have hgroundy : s.runner.Grounded y := ho.exists_of_held hy
  have hsparesx := finish_spares ho.sound hgroundx hfinishx
  have hsparesy := finish_spares ho.sound hgroundy hfinishy
  have hPx := finish_notifier hsteady hP hfinishx
  have hPy := finish_notifier hsteady hP hfinishy
  have hrecordy := hsparesx.records _ hne.symm
  have htimery := hsparesx.timers _ hne.symm
  have hrecordx := hsparesy.records _ hne
  have htimerx := hsparesy.timers _ hne
  -- the first task finds its execution the same before and after the second one, and vice versa
  obtain ⟨hendsx, hsentx⟩ := finish_agrees hsteady fuel (t := x)
    (agrees_of_same hsparesy.automations hsparesy.clock ho.sound hsparesy.sound hP hPy hrecordx htimerx)
    htimerx hgroundx (.same x.stage)
  have hgroundy' : rx.Grounded y := fun hholds => by
    obtain ⟨e, he⟩ := hgroundy hholds
    exact ⟨e, hrecordy.trans he⟩
  obtain ⟨hendsy, hsenty⟩ := finish_agrees hsteady fuel' (t := y)
    (agrees_of_same hsparesx.automations.symm hsparesx.clock.symm hsparesx.sound ho.sound hPx hP
      hrecordy.symm htimery.symm) htimery.symm hgroundy' (.same y.stage)
  obtain ⟨⟨ryx, resultx'⟩, hfinishyx, hagreesx⟩ := exists_of_rel_some (hfinishx ▸ hendsx)
  obtain ⟨⟨rxy, resulty'⟩, hfinishxy, hagreesy⟩ := exists_of_rel_of_some (hfinishy ▸ hendsy)
  have hgroundx' : ry.Grounded x := fun hholds => by
    obtain ⟨e, he⟩ := hgroundx hholds
    exact ⟨e, hrecordx.trans he⟩
  have hmatch := orders_match hsparesx hsparesy
    (finish_spares hsparesx.sound hgroundy' hfinishxy)
    (finish_spares hsparesy.sound hgroundx' hfinishyx) hne hagreesx hagreesy
  exact ⟨⟨hrecordy, htimery⟩, rxy, ryx, resulty', resultx', hfinishxy, hfinishyx,
    fun id => (hmatch id).1, fun id => (hmatch id).2, hsentx, hsenty⟩

/-- Two executions for one subject, whose delays are over: their timers have fired. -/
def greetedPair : Session MemoryAutomations MemoryExecutions Outbox :=
  greetingSession.run ([.start "greeting" (some "ann@example.org"),
    .start "greeting" (some "ann@example.org")] ++ List.replicate 26 (.go 0) ++
    [.clock (Moment.first.addMicros 3600000000), .fire "id-1", .fire "id-2"])

theorem isSteady_outbox : Notifier.IsSteady Outbox (fun outbox => outbox.failure = none)
    fun _ _ => .ok () where
  keeps outbox executions subject message h := by
    show (outbox.send executions subject message).notifier.failure = none
    unfold Outbox.send
    rw [h]
  answers outbox executions subject message h := by
    show (outbox.send executions subject message).outcome.map _ = _
    unfold Outbox.send
    rw [h]
    rfl

open Runner in
theorem executions_independent_pair : ∃ x ∈ greetedPair.runner.queue, ∃ y ∈ greetedPair.runner.queue,
    x.executionId = "id-1" ∧ y.executionId = "id-2" ∧
    ∃ rx ry resultx resulty, finish 20 greetedPair.runner x = some (rx, resultx) ∧
      finish 20 greetedPair.runner y = some (ry, resulty) ∧
      (ExecutionStorage.get rx.executions y.executionId =
          ExecutionStorage.get greetedPair.runner.executions y.executionId ∧
        rx.timers.get? y.executionId = greetedPair.runner.timers.get? y.executionId) ∧
      ∃ rxy ryx resulty' resultx', finish 20 rx y = some (rxy, resulty') ∧
        finish 20 ry x = some (ryx, resultx') ∧
        (∀ id, Option.Rel Execution.Matches (ExecutionStorage.get rxy.executions id)
          (ExecutionStorage.get ryx.executions id)) ∧
        (∀ id, Option.Rel Timer.Matches (rxy.timers.get? id) (ryx.timers.get? id)) ∧
        List.Forall₂ Receipt.Matches (receiptsWithin 20 greetedPair.runner x)
          (receiptsWithin 20 ry x) ∧
        List.Forall₂ Receipt.Matches (receiptsWithin 20 rx y)
          (receiptsWithin 20 greetedPair.runner y) := by
  have ho : greetedPair.IsSound := isSound_run (isOrderly_opened _ _ _ _ _ _).toIsSound _
  have hids : greetedPair.runner.queue.map Task.executionId = ["id-1", "id-2"] := by decide +kernel
  have hends : ∀ t ∈ greetedPair.runner.queue, (finish 20 greetedPair.runner t).isSome = true :=
    List.all_eq_true.mp (by decide +kernel)
  obtain ⟨x, queue, hqueue, hidx, hrest⟩ := List.map_eq_cons_iff.mp hids
  obtain ⟨y, rest, hqueue', hidy, _⟩ := List.map_eq_cons_iff.mp hrest
  have hx : x ∈ greetedPair.runner.queue := hqueue ▸ List.mem_cons_self
  have hy : y ∈ greetedPair.runner.queue := by
    rw [hqueue, hqueue']
    exact List.mem_cons_of_mem _ List.mem_cons_self
  have hne : x.executionId ≠ y.executionId := by
    rw [hidx, hidy]
    decide
  obtain ⟨⟨rx, resultx⟩, hfinishx⟩ := Option.isSome_iff_exists.mp (hends x hx)
  obtain ⟨⟨ry, resulty⟩, hfinishy⟩ := Option.isSome_iff_exists.mp (hends y hy)
  exact ⟨x, hx, y, hy, hidx, hidy, rx, ry, resultx, resulty, hfinishx, hfinishy,
    executions_independent ho isSteady_outbox (by decide +kernel) hx hy hne hfinishx hfinishy⟩

end Session

end Dripline
