import Dripline.Proofs.Run.Course
import Dripline.Proofs.Time.Order

/-!
# What a runner does is a run of a session

The program does not interleave tasks as freely as a session does: it runs a queued task to its end, and
drains, resumes, waits and shuts down in loops over that. All of it is what events do:

* `stepTask_beside`, `stepTask_withQueue`: a stage does the same whatever else is queued;
* `Leads`: what events of some kind lead a runner to; `Performs`: by turns, timers and the clock alone;
* `finish_leads`, `runQueue_leads`: a task, and all that are in flight, run to their end by turns;
* `drain_leads`, `waitUntilIdle_leads`: draining and waiting, by events that leave the kind of the clock
  alone, and what is left over when they end;
* **`drain_performs`**, **`shutdown_performs`**, **`resume_performs`**, **`waitUntilIdle_performs`**: the
  operations of a runner none of whose tasks is in the middle of a resumption;
* `IsReachable.performs`: what is proved of every session that can be reached holds after each of them;
  `IsOrderly.performs`: and every record goes on.

Nothing races in any of this, since every task runs to its end before the next one begins.
-/

namespace Dripline

/-! ## 1. The queue and a stage -/

namespace Runner

variable {α ε ν : Type} [AutomationStorage α] [ExecutionStorage ε] [Notifier ν]

/-- The runner with another queue. -/
def withQueue (r : Runner α ε ν) (queue : List Task) : Runner α ε ν := { r with queue := queue }

/-- The runner with other automations and another queue. -/
def beside (r : Runner α ε ν) (automations : α) (queue : List Task) : Runner α ε ν :=
  { r with automations := automations, queue := queue }

/-- The same happened to a runner with a queue of its own. -/
def Alike (queue : List Task) (x y : Runner α ε ν × Next) : Prop :=
  y.1 = x.1.withQueue queue ∧ y.2 = x.2

/-- The same happened to a runner with automations and a queue of its own. -/
def AlikeBeside (automations : α) (queue : List Task) (x y : Runner α ε ν × Next) : Prop :=
  y.1 = x.1.beside automations queue ∧ y.2 = x.2

omit [AutomationStorage α] [ExecutionStorage ε] [Notifier ν] in
theorem say_beside (r : Runner α ε ν) (automations : α) (queue : List Task) (level : Level)
    (speaker : Speaker) (text : String) :
    (r.beside automations queue).say level speaker text =
      (r.say level speaker text).beside automations queue := rfl

omit [AutomationStorage α] [ExecutionStorage ε] [Notifier ν] in
theorem schedule_beside (r : Runner α ε ν) (automations : α) (queue : List Task) (id : String)
    (due : Moment) :
    (r.beside automations queue).schedule id due =
      ((r.schedule id due).1, (r.schedule id due).2.beside automations queue) := by
  have hseconds : (r.beside automations queue).secondsUntil due = r.secondsUntil due := rfl
  unfold schedule
  rw [hseconds]
  by_cases h : (r.timers.get? id).isSome = true
  · rw [if_pos h, if_pos (show ((r.beside automations queue).timers.get? id).isSome = true from h)]
    rfl
  · rw [if_neg h, if_neg (show ¬((r.beside automations queue).timers.get? id).isSome = true from h)]
    cases r.secondsUntil due <;> rfl

omit [AutomationStorage α] [ExecutionStorage ε] [Notifier ν] in
theorem attend_beside (r : Runner α ε ν) (automations : α) (queue : List Task) (setup : Setup)
    (id : String) (due : Moment) :
    (r.beside automations queue).attend setup id due =
      ((r.attend setup id due).1, (r.attend setup id due).2.beside automations queue) := by
  unfold attend
  rw [schedule_beside]
  split
  · cases r.schedule id due with
    | mk outcome r' => cases outcome <;> rfl
  · rfl

omit [AutomationStorage α] [Notifier ν] in
theorem write_beside (r : Runner α ε ν) (automations : α) (queue : List Task) (id : String)
    (fields : List Field) {next : Execution → Runner α ε ν → Runner α ε ν × Next}
    (h : ∀ e r, AlikeBeside automations queue (next e r) (next e (r.beside automations queue))) :
    AlikeBeside automations queue (r.write id fields next)
      ((r.beside automations queue).write id fields next) := by
  have hsame : ExecutionStorage.update (r.beside automations queue).executions id fields =
    ExecutionStorage.update r.executions id fields := rfl
  unfold write
  rw [hsame]
  cases ExecutionStorage.update r.executions id fields with
  | mk outcome s =>
    cases outcome with
    | ok e => exact h e { r with executions := s }
    | error fault => exact ⟨rfl, rfl⟩

omit [AutomationStorage α] [Notifier ν] in
theorem append_beside (r : Runner α ε ν) (automations : α) (queue : List Task) (id : String)
    (entry : LogEntry) (next : Stage) :
    AlikeBeside automations queue (r.append id entry next)
      ((r.beside automations queue).append id entry next) := by
  have hsame : ExecutionStorage.appendLog (r.beside automations queue).executions id entry =
    ExecutionStorage.appendLog r.executions id entry := rfl
  unfold append
  rw [hsame]
  cases ExecutionStorage.appendLog r.executions id entry with
  | mk outcome s => cases outcome <;> exact ⟨rfl, rfl⟩

/-- **A stage does the same whatever else is queued**, and whatever automations there are, as long as it
    reads the same one. Only the first stage of a call and of a resumption reads any. -/
theorem stepTask_beside (r : Runner α ε ν) (automations : α) (queue : List Task) (t : Task)
    (hreads : t.stage = .enter ∨ t.stage = .wake → ∀ e,
      ExecutionStorage.get r.executions t.executionId = some e →
        AutomationStorage.get automations e.automationId =
          AutomationStorage.get r.automations e.automationId) :
    AlikeBeside automations queue (r.stepTask t) ((r.beside automations queue).stepTask t) := by
  unfold stepTask
  cases hstage : t.stage with
  | enter =>
    show AlikeBeside automations queue (r.stepEnter t.executionId)
      ((r.beside automations queue).stepEnter t.executionId)
    unfold stepEnter
    dsimp only [beside]
    cases he : ExecutionStorage.get r.executions t.executionId with
    | none => exact ⟨rfl, rfl⟩
    | some e =>
      simp only [hreads (.inl hstage) e he]
      split
      · exact ⟨rfl, rfl⟩
      · exact ⟨rfl, rfl⟩
      · split
        · exact ⟨rfl, rfl⟩
        · split <;> exact ⟨rfl, rfl⟩
  | arrive walk nodeId =>
    show AlikeBeside automations queue (r.stepArrive t.executionId walk nodeId) _
    dsimp only [stepArrive]
    split
    · exact ⟨rfl, rfl⟩
    · exact write_beside _ _ _ _ _ fun _ _ => ⟨rfl, rfl⟩
  | act walk node =>
    show AlikeBeside automations queue (r.stepAct t.setup walk node)
      ((r.beside automations queue).stepAct t.setup walk node)
    unfold stepAct
    dsimp only [beside]
    split
    · exact ⟨rfl, rfl⟩
    · exact ⟨rfl, rfl⟩
    · split <;> exact ⟨rfl, rfl⟩
  | note walk node result => exact append_beside _ _ _ _ _ _
  | settle walk node result =>
    cases result with
    | proceed message next => exact ⟨rfl, rfl⟩
    | stuck message error => exact ⟨rfl, rfl⟩
    | finish message => exact write_beside (r.say _ _ _) _ _ _ _ fun _ _ => ⟨rfl, rfl⟩
    | suspend message due =>
      refine write_beside _ _ _ _ _ fun e r => ?_
      dsimp only
      rw [say_beside, attend_beside]
      cases (r.say _ _ _).attend t.setup t.executionId due with
      | mk outcome r' => cases outcome <;> exact ⟨rfl, rfl⟩
  | failing entry error =>
    cases entry with
    | none => exact ⟨rfl, rfl⟩
    | some entry => exact append_beside (r.say _ _ _) _ _ _ _ _
  | closing => exact write_beside _ _ _ _ _ fun _ _ => ⟨rfl, rfl⟩
  | wake =>
    show AlikeBeside automations queue (r.stepWake t.executionId)
      ((r.beside automations queue).stepWake t.executionId)
    unfold stepWake
    dsimp only [beside, say]
    cases he : ExecutionStorage.get r.executions t.executionId with
    | none => exact ⟨rfl, rfl⟩
    | some e =>
      simp only [hreads (.inr hstage) e he]
      split
      · exact ⟨rfl, rfl⟩
      · split
        · exact ⟨rfl, rfl⟩
        · exact ⟨rfl, rfl⟩
        · split <;> exact ⟨rfl, rfl⟩
  | lost nodeId error timer => exact append_beside (r.say _ _ _) _ _ _ _ _
  | lostClosing timer => exact write_beside _ _ _ _ _ fun _ _ => ⟨rfl, rfl⟩
  | leave target timer => exact write_beside _ _ _ _ _ fun _ _ => ⟨rfl, rfl⟩

theorem stepTask_withQueue (r : Runner α ε ν) (queue : List Task) (t : Task) :
    Alike queue (r.stepTask t) ((r.withQueue queue).stepTask t) := by
  obtain ⟨hrunner, hnext⟩ := r.stepTask_beside r.automations queue t fun _ _ _ => rfl
  refine ⟨hrunner.trans ?_, hnext⟩
  rw [← (r.stepTask_around t).automations]
  rfl

omit [AutomationStorage α] [ExecutionStorage ε] [Notifier ν] in
theorem tellResult_beside (r : Runner α ε ν) (automations : α) (queue : List Task) (origin : Origin)
    (result : TaskResult) :
    (r.beside automations queue).tellResult origin result =
      (r.tellResult origin result).beside automations queue := by
  cases result with
  | ok e => rfl
  | error fault => cases origin <;> rfl

omit [AutomationStorage α] [ExecutionStorage ε] [Notifier ν] in
theorem tellResult_withQueue (r : Runner α ε ν) (queue : List Task) (origin : Origin)
    (result : TaskResult) :
    (r.withQueue queue).tellResult origin result = (r.tellResult origin result).withQueue queue := by
  refine (r.tellResult_beside r.automations queue origin result).trans ?_
  cases result with
  | ok e => rfl
  | error fault => cases origin <;> rfl

theorem finish_queue {fuel : Nat} {r r' : Runner α ε ν} {t : Task} {result : TaskResult}
    (h : finish fuel r t = some (r', result)) : r'.queue = r.queue := by
  induction fuel generalizing r t with
  | zero => cases h
  | succ fuel ih =>
    have haround := r.stepTask_around t
    unfold finish at h
    cases hstep : r.stepTask t with
    | mk r₁ next =>
      rw [hstep] at h haround
      cases next with
      | stage stage => exact (ih h).trans haround.queue
      | done result =>
        cases h
        exact haround.queue

end Runner

/-! ## 2. What a runner does by itself -/

/-- An event that a runner brings about by itself as time goes by. -/
def Event.IsOwn {α ν : Type} : Event α ν → Prop
  | .clock _ => True
  | .fire _ => True
  | .resume _ => True
  | .disarm => True
  | .go _ => True
  | _ => False

theorem Event.IsOwn.leaves {α ν : Type} [AutomationStorage α] {event : Event α ν} (h : event.IsOwn)
    (automationId : String) (f : Flow) : event.Leaves automationId f := by
  cases event with
  | author automations drawn => exact h.elim
  | _ => exact trivial

theorem Event.IsOwn.isGraceful {α ν : Type} {event : Event α ν} (h : event.IsOwn) :
    event.IsGraceful := by
  cases event with
  | crash => exact h
  | _ => exact trivial

/-- An event in which a queued task takes a turn. -/
def Event.IsTurn {α ν : Type} : Event α ν → Prop
  | .go _ => True
  | _ => False

/-- An event by which a runner works off what is queued or due, under a clock whose moments are of one
    kind. -/
def Event.IsWork {α ν : Type} (anchored : Bool) : Event α ν → Prop
  | .clock now => now.isAnchored = anchored
  | .fire _ => True
  | .go _ => True
  | _ => False

theorem Event.IsTurn.isWork {α ν : Type} {event : Event α ν} (h : event.IsTurn) (anchored : Bool) :
    event.IsWork anchored := by
  cases event with
  | go place => exact trivial
  | _ => exact h.elim

theorem Event.IsWork.isOwn {α ν : Type} {anchored : Bool} {event : Event α ν}
    (h : event.IsWork anchored) : event.IsOwn := by
  cases event with
  | clock now => exact trivial
  | fire id => exact trivial
  | go place => exact trivial
  | _ => exact h.elim

theorem Event.IsTurn.isOwn {α ν : Type} {event : Event α ν} (h : event.IsTurn) : event.IsOwn :=
  (h.isWork true).isOwn

namespace Runner

variable {α ε ν : Type} [AutomationStorage α] [ExecutionStorage ε] [Notifier ν]
  {r r' r'' : Runner α ε ν}

/-- **What events of some kind lead a runner to**, whatever was sent before, without a race. -/
def Leads (allowed : Event α ν → Prop) (r r' : Runner α ε ν) : Prop :=
  ∀ sent, ∃ events : List (Event α ν), (∀ event ∈ events, allowed event) ∧
    (⟨r, sent⟩ : Session α ε ν).RaceFree events ∧
    ((⟨r, sent⟩ : Session α ε ν).run events).runner = r'

/-- **What a runner gets to by itself**. -/
def Performs (r r' : Runner α ε ν) : Prop := r.Leads Event.IsOwn r'

/-- No task is in the middle of a resumption. -/
def IsCalm (r : Runner α ε ν) : Prop := ∀ t ∈ r.queue, t.stage.role ≠ .resuming

/-- Every queued task is in flight, and none is in the middle of a resumption. -/
def IsEager (r : Runner α ε ν) : Prop :=
  ∀ t ∈ r.queue, t.stage.role ≠ .resuming ∧ t.isInFlight = true

section

variable {allowed allowed' : Event α ν → Prop}

theorem Leads.refl (r : Runner α ε ν) : r.Leads allowed r :=
  fun _ => ⟨[], fun _ h => absurd h List.not_mem_nil, trivial, rfl⟩

theorem Leads.trans (h : r.Leads allowed r') (h' : r'.Leads allowed r'') : r.Leads allowed r'' := by
  intro sent
  obtain ⟨events, hown, hfree, rfl⟩ := h sent
  obtain ⟨events', hown', hfree', rfl⟩ := h' ((⟨r, sent⟩ : Session α ε ν).run events).sent
  refine ⟨events ++ events', fun event hevent => ?_, Session.raceFree_append.mpr ⟨hfree, hfree'⟩, ?_⟩
  · rcases List.mem_append.mp hevent with hevent | hevent
    · exact hown event hevent
    · exact hown' event hevent
  · rw [Session.run_append]

theorem Leads.mono (h : r.Leads allowed r') (hmore : ∀ event, allowed event → allowed' event) :
    r.Leads allowed' r' := fun sent =>
  let ⟨events, hevents, hrun⟩ := h sent
  ⟨events, fun event hevent => hmore event (hevents event hevent), hrun⟩

/-- One event. -/
theorem Leads.of_event {e : Event α ν} (hallowed : allowed e)
    (hrace : ∀ sent, (⟨r, sent⟩ : Session α ε ν).races e = false)
    (h : ∀ sent, ((⟨r, sent⟩ : Session α ε ν).apply e).runner = r') : r.Leads allowed r' :=
  fun sent => ⟨[e], fun _ hevent => List.mem_singleton.mp hevent ▸ hallowed, ⟨hrace sent, trivial⟩,
    h sent⟩

end

/-! ## 3. Tasks run to their end -/

omit [AutomationStorage α] [ExecutionStorage ε] [Notifier ν] in
theorem races_of_calm {before after : List Task} {t : Task}
    (hcalm : ∀ t' ∈ before ++ after, t'.stage.role ≠ .resuming) :
    (r.withQueue (before ++ t :: after)).races t = false := by
  refine races_eq_false_iff.mpr fun hwaking t' ht' _ => ?_
  have ht' : t' ∈ before ++ t :: after := ht'
  rw [List.mem_append, List.mem_cons, or_left_comm, ← List.mem_append] at ht'
  rcases ht' with rfl | ht'
  · rw [hwaking]
    decide
  · exact hcalm t' ht'

/-- A turn of the task at its place in the queue. -/
theorem goOn_leads {before after : List Task} {t : Task}
    (hcalm : ∀ t' ∈ before ++ after, t'.stage.role ≠ .resuming) :
    (r.withQueue (before ++ t :: after)).Leads Event.IsTurn
      ((r.withQueue (before ++ t :: after)).goOn before.length t) := by
  have hplace : (r.withQueue (before ++ t :: after)).queue[before.length]? = some t := by
    show (before ++ t :: after)[before.length]? = some t
    rw [List.getElem?_append_right (Nat.le_refl _), Nat.sub_self, List.getElem?_cons_zero]
  refine .of_event (e := .go before.length) trivial (fun sent => ?_) fun sent => ?_
  · show (r.withQueue (before ++ t :: after)).queue[before.length]?.any _ = false
    rw [hplace]
    exact races_of_calm hcalm
  · simp only [Session.apply, hplace]

/-- **A task runs to its end** at its place in the queue. -/
theorem finish_leads {fuel : Nat} {before after : List Task} {t : Task} {result : TaskResult}
    (hcalm : ∀ t' ∈ before ++ after, t'.stage.role ≠ .resuming)
    (h : finish fuel r t = some (r', result)) :
    (r.withQueue (before ++ t :: after)).Leads Event.IsTurn
      ((r'.tellResult t.origin result).withQueue (before ++ after)) := by
  induction fuel generalizing r t with
  | zero => cases h
  | succ fuel ih =>
    refine (goOn_leads hcalm).trans ?_
    obtain ⟨hrunner, hnext⟩ := r.stepTask_withQueue (before ++ t :: after) t
    unfold finish at h
    unfold goOn
    cases hstep : r.stepTask t with
    | mk r₁ next =>
      cases hstep' : (r.withQueue (before ++ t :: after)).stepTask t with
      | mk r₂ next' =>
        rw [hstep, hstep'] at hrunner hnext
        cases hrunner
        cases hnext
        rw [hstep] at h
        cases next with
        | stage stage =>
          have hset : (before ++ t :: after).set before.length { t with stage := stage } =
              before ++ { t with stage := stage } :: after := by
            rw [List.set_append_right _ _ (Nat.le_refl _), Nat.sub_self, List.set_cons_zero]
          show Leads _ (r₁.withQueue ((before ++ t :: after).set before.length _)) _
          rw [hset]
          exact ih h
        | done result =>
          cases h
          have herase : (before ++ t :: after).eraseIdx before.length = before ++ after := by
            rw [List.eraseIdx_append_of_length_le (Nat.le_refl _), Nat.sub_self, List.eraseIdx_cons_zero]
          show Leads _ (((r'.withQueue _).tellResult t.origin result).withQueue
            ((before ++ t :: after).eraseIdx before.length)) _
          rw [herase, tellResult_withQueue]
          exact .refl _

/-- **All tasks in flight run to their end**, and the others stay where they are. -/
theorem runQueue_leads {fuel : Nat} {before ts : List Task}
    (hcalm : ∀ t ∈ before ++ ts, t.stage.role ≠ .resuming)
    (h : runQueue fuel r (ts.filter Task.isInFlight) = some r') :
    (r.withQueue (before ++ ts)).Leads Event.IsTurn
      (r'.withQueue (before ++ ts.filter fun t => !t.isInFlight)) := by
  induction ts generalizing r before with
  | nil =>
    cases h
    exact .refl _
  | cons t ts ih =>
    have hothers : ∀ t' ∈ before ++ ts, t'.stage.role ≠ .resuming := fun t' ht' => hcalm t' <| by
      rw [List.mem_append, List.mem_cons, or_left_comm, ← List.mem_append]
      exact .inr ht'
    cases hflight : t.isInFlight with
    | true =>
      rw [List.filter_cons_of_pos hflight] at h
      rw [List.filter_cons_of_neg (by rw [hflight]; decide)]
      unfold runQueue at h
      cases hfinish : finish fuel r t with
      | none =>
        rw [hfinish] at h
        cases h
      | some ended =>
        obtain ⟨r₁, result⟩ := ended
        rw [hfinish] at h
        exact (finish_leads hothers hfinish).trans (ih hothers h)
    | false =>
      rw [List.filter_cons_of_neg (by rw [hflight]; decide)] at h
      rw [List.filter_cons_of_pos (by rw [hflight]; decide), List.append_cons before t ts,
        List.append_cons before t (ts.filter fun t => !t.isInFlight)]
      exact ih (by rw [← List.append_cons]; exact hcalm) h

theorem runQueue_queue {fuel : Nat} {ts : List Task} (h : runQueue fuel r ts = some r') :
    r'.queue = r.queue := by
  induction ts generalizing r with
  | nil =>
    cases h
    rfl
  | cons t ts ih =>
    unfold runQueue at h
    cases hfinish : finish fuel r t with
    | none =>
      rw [hfinish] at h
      cases h
    | some ended =>
      obtain ⟨r₁, result⟩ := ended
      rw [hfinish] at h
      have htold := (r₁.tellResult_keeps t.origin result).2.queue
      exact (ih h).trans (htold.trans (finish_queue hfinish))

/-- **The tasks in flight end** by turns, and those that were asked for are left. -/
theorem runQueued_leads {fuel : Nat} (hcalm : r.IsCalm) (h : r.runQueued fuel = some r') :
    r.Leads Event.IsTurn r' ∧ r'.queue = r.asked := by
  have hqueue : r'.queue = r.asked := runQueue_queue h
  have hrun : runQueue fuel (r.withQueue r.asked) (r.queue.filter Task.isInFlight) = some r' := h
  have hturns : ((r.withQueue r.asked).withQueue ([] ++ r.queue)).Leads Event.IsTurn
      (r'.withQueue ([] ++ r.asked)) := runQueue_leads hcalm hrun
  have hsame : r'.withQueue r.asked = r' := by
    rw [← hqueue]
    rfl
  rw [List.nil_append, List.nil_append, hsame] at hturns
  exact ⟨hturns, hqueue⟩

/-! ## 4. Operations -/

omit [AutomationStorage α] [ExecutionStorage ε] [Notifier ν] in
theorem isEager_of_idle (h : r.queue = []) : r.IsEager := by
  intro t ht
  rw [h] at ht
  cases ht

omit [AutomationStorage α] [ExecutionStorage ε] [Notifier ν] in
/-- One call of the interpreter is queued, and nothing else. -/
theorem isEager_of_dispatched {id : String} {setup : Setup}
    (h : r.queue = [⟨id, .dispatched, setup, .enter⟩]) : r.IsEager := by
  intro t ht
  rw [h, List.mem_singleton] at ht
  rw [ht]
  exact ⟨nofun, rfl⟩

omit [AutomationStorage α] [ExecutionStorage ε] [Notifier ν] in
theorem IsEager.isCalm (h : r.IsEager) : r.IsCalm := fun t ht => (h t ht).1

omit [AutomationStorage α] [ExecutionStorage ε] [Notifier ν] in
theorem IsEager.asked_eq_nil (h : r.IsEager) : r.asked = [] := by
  unfold asked
  rw [List.filter_eq_nil_iff]
  intro t ht
  rw [(h t ht).2]
  decide

omit [AutomationStorage α] [ExecutionStorage ε] [Notifier ν] in
/-- What is left when nothing is in flight is calm, and was asked for before. -/
theorem calm_of_asked (hcalm : r.IsCalm) (h : r'.queue = r.asked) :
    r'.IsCalm ∧ r'.asked = r.asked := by
  refine ⟨fun t ht => hcalm t (List.mem_of_mem_filter (h ▸ ht)), ?_⟩
  unfold asked at h ⊢
  rw [h, List.filter_filter]
  simp only [Bool.and_self]

/-- Work leaves the kind of the clock alone. -/
theorem Leads.isAnchored_clock {anchored : Bool} (h : r.Leads (Event.IsWork anchored) r')
    (hclock : r.clock.isAnchored = anchored) : r'.clock.isAnchored = anchored := by
  obtain ⟨events, hwork, _, rfl⟩ := h []
  refine Session.run_induction (fun s => s.runner.clock.isAnchored = anchored) (Event.IsWork anchored)
    (fun s event hevent hs => ?_) hwork hclock
  cases event with
  | clock now => exact hevent
  | fire id => exact hs
  | go place =>
    unfold Session.apply
    dsimp only
    split
    · exact hs
    · rename_i t _
      rw [show (s.runner.goOn place t).clock = s.runner.clock from (s.runner.goOn_timers place t).2]
      exact hs
  | _ => exact hevent.elim

section

variable {anchored : Bool}

/-- Timers that fire one after the other. -/
theorem fireAll_leads (ids : List String) (hcalm : r.IsCalm) :
    r.Leads (Event.IsWork anchored) (ids.foldl fire r) ∧ (ids.foldl fire r).IsCalm ∧
      (ids.foldl fire r).asked = r.asked := by
  induction ids generalizing r with
  | nil => exact ⟨.refl r, hcalm, rfl⟩
  | cons id ids ih =>
    have hcalm' : (r.fire id).IsCalm := by
      intro t ht
      rcases List.mem_append.mp ht with ht | ht
      · exact hcalm t ht
      · rw [List.mem_singleton.mp ht]
        exact nofun
    have hasked : (r.fire id).asked = r.asked :=
      (List.filter_append _ _).trans (List.append_nil _)
    obtain ⟨hleads, hlater, hsame⟩ := ih hcalm'
    exact ⟨(Leads.of_event (e := .fire id) trivial (fun _ => rfl) fun _ => rfl).trans hleads, hlater,
      hsame.trans hasked⟩

theorem drainWithin_leads (anchored : Bool) {fuel rounds : Nat} (hcalm : r.IsCalm)
    (h : drainWithin fuel rounds r = some r') :
    r.Leads (Event.IsWork anchored) r' ∧ r'.queue = r.asked ∧ r'.timers.dueIds r'.clock = [] := by
  induction rounds generalizing r with
  | zero => cases h
  | succ rounds ih =>
    unfold drainWithin at h
    split at h
    · split at h
      · cases h
      · rename_i r₁ hqueued
        obtain ⟨hfirst, hleft⟩ := runQueued_leads hcalm hqueued
        obtain ⟨hcalm₁, hasked⟩ := calm_of_asked hcalm hleft
        obtain ⟨hleads, hqueue, hdue⟩ := ih hcalm₁ h
        exact ⟨(hfirst.mono fun _ hturn => hturn.isWork anchored).trans hleads, hqueue.trans hasked, hdue⟩
    · rename_i hnone
      split at h
      · rename_i hdue
        cases h
        refine ⟨.refl _, (List.filter_eq_self.mpr fun t ht => ?_).symm, List.isEmpty_iff.mp hdue⟩
        rw [List.any_eq_true, not_exists] at hnone
        rw [Bool.not_eq_true']
        exact Bool.eq_false_iff.mpr fun hflight => hnone t ⟨ht, hflight⟩
      · obtain ⟨hfired, hcalm', hasked⟩ := fireAll_leads (r.timers.dueIds r.clock) hcalm
        obtain ⟨hleads, hqueue, hdue⟩ := ih hcalm' h
        exact ⟨hfired.trans hleads, hqueue.trans hasked, hdue⟩

/-- **Draining** is turns and timers, and leaves nothing in flight and nothing due. -/
theorem drain_leads (anchored : Bool) {fuel : Nat} (hcalm : r.IsCalm) (h : r.drain fuel = some r') :
    r.Leads (Event.IsWork anchored) r' ∧ r'.queue = r.asked ∧ r'.timers.dueIds r'.clock = [] :=
  drainWithin_leads anchored hcalm h

/-- The clock moves on, and what is due by then runs. -/
theorem passUntil_leads {fuel rounds : Nat} {target : Moment}
    (hclock : r.clock.isAnchored = anchored) (htarget : target.isAnchored = anchored)
    (hcalm : r.IsCalm) (h : passUntil fuel rounds r target = some r') :
    r.Leads (Event.IsWork anchored) r' ∧ r'.IsCalm ∧ r'.asked = r.asked := by
  induction rounds generalizing r with
  | zero => cases h
  | succ rounds ih =>
    have hto : ∀ now : Moment, now.isAnchored = anchored →
        r.Leads (Event.IsWork anchored) { r with clock := now } := fun now hnow =>
      .of_event (e := .clock now) hnow (fun _ => rfl) fun _ => rfl
    unfold passUntil at h
    split at h
    · cases h
      exact ⟨hto target htarget, hcalm, rfl⟩
    · split at h
      · rename_i micros _ _
        split at h
        · cases h
        · rename_i hdrain
          have hcalm₁ : (r.advance micros.toNat).IsCalm := hcalm
          have hnow : (r.advance micros.toNat).clock.isAnchored = anchored :=
            (Moment.isAnchored_addMicros _ _).trans hclock
          obtain ⟨hdrained, hleft, _⟩ := drain_leads anchored hcalm₁ hdrain
          obtain ⟨hcalm₂, hasked⟩ := calm_of_asked hcalm₁ hleft
          obtain ⟨hlater, hcalm', hsame⟩ := ih (hdrained.isAnchored_clock hnow) hcalm₂ h
          exact ⟨((hto _ hnow).trans hdrained).trans hlater, hcalm', hsame.trans hasked⟩
      · cases h
        exact ⟨hto target htarget, hcalm, rfl⟩

theorem waitWithin_leads {fuel nap rounds : Nat} (hclock : r.clock.isAnchored = anchored)
    (hcalm : r.IsCalm) (h : waitWithin fuel nap rounds r = some r') :
    r.Leads (Event.IsWork anchored) r' ∧ r'.queue = r.asked ∧ r'.timers.count = 0 := by
  induction rounds generalizing r with
  | zero => cases h
  | succ rounds ih =>
    unfold waitWithin at h
    split at h
    · cases h
    · rename_i r₁ hdrain
      obtain ⟨hdrained, hleft, _⟩ := drain_leads anchored hcalm hdrain
      obtain ⟨hcalm₁, hasked⟩ := calm_of_asked hcalm hleft
      split at h
      · rename_i hnone
        cases h
        exact ⟨hdrained, hleft, hnone⟩
      · dsimp only at h
        split at h
        · cases h
        · rename_i hpass
          have hclock₁ := hdrained.isAnchored_clock hclock
          obtain ⟨hpassed, hcalm', hsame⟩ := passUntil_leads hclock₁
            ((Moment.isAnchored_addMicros _ _).trans hclock₁) hcalm₁ hpass
          obtain ⟨hlater, hqueue, hcount⟩ := ih (hpassed.isAnchored_clock hclock₁) hcalm' h
          exact ⟨(hdrained.trans hpassed).trans hlater, hqueue.trans (hsame.trans hasked), hcount⟩

/-- **Waiting** until no timer is left is turns, timers and the clock. -/
theorem waitUntilIdle_leads {fuel nap : Nat} (hclock : r.clock.isAnchored = anchored)
    (hcalm : r.IsCalm) (h : r.waitUntilIdle fuel nap = some r') :
    r.Leads (Event.IsWork anchored) r' ∧ r'.queue = r.asked ∧ r'.timers.count = 0 :=
  waitWithin_leads hclock hcalm h

end

/-- Where draining leaves no timer, waiting is draining. -/
theorem waitUntilIdle_of_drain {fuel nap : Nat} (h : r.drain (fuel + 1) = some r')
    (hnone : r'.timers.count = 0) : r.waitUntilIdle (fuel + 1) nap = some r' := by
  unfold waitUntilIdle waitWithin
  simp only [h, hnone, if_true]

/-- **Draining** is turns and timers, and leaves nothing in flight. -/
theorem drain_performs {fuel : Nat} (hcalm : r.IsCalm) (h : r.drain fuel = some r') :
    r.Performs r' ∧ r'.queue = r.asked := by
  obtain ⟨hleads, hleft, _⟩ := drain_leads true hcalm h
  exact ⟨hleads.mono fun _ => Event.IsWork.isOwn, hleft⟩

/-- **Shutting down** disarms the timers and lets the tasks in flight end. -/
theorem shutdown_performs {fuel : Nat} (hcalm : r.IsCalm) (h : r.shutdown fuel = some r') :
    r.Performs r' ∧ r'.queue = r.asked := by
  obtain ⟨hleads, hleft⟩ := runQueued_leads (r := r.disarm) hcalm h
  exact ⟨(Leads.of_event (e := .disarm) trivial (fun _ => rfl) fun _ => rfl).trans
    (hleads.mono fun _ => Event.IsTurn.isOwn), hleft⟩

/-- **A resumption that is waited for** leaves the queue as it is. -/
theorem resume_performs {fuel : Nat} {id : String} {result : TaskResult} (hcalm : r.IsCalm)
    (h : r.resume fuel id = some (r', result)) : r.Performs r' ∧ r'.queue = r.queue := by
  have hqueue := finish_queue h
  have hcalm' : ∀ t ∈ r.queue ++ [], t.stage.role ≠ .resuming := by
    rw [List.append_nil]
    exact hcalm
  have hended : (r.summon id).Performs ((r'.tellResult .direct result).withQueue (r.queue ++ [])) :=
    (finish_leads hcalm' h).mono fun _ => Event.IsTurn.isOwn
  -- nobody is told how a resumption ends that is waited for
  have hsame : (r'.tellResult .direct result).withQueue (r.queue ++ []) = r' := by
    rw [List.append_nil, ← hqueue]
    cases result <;> rfl
  rw [hsame] at hended
  exact ⟨(Leads.of_event (e := .resume id) trivial (fun _ => rfl) fun _ => rfl).trans hended, hqueue⟩

/-- **Waiting** until no timer is left is turns, timers and the clock. -/
theorem waitUntilIdle_performs {fuel nap : Nat} (hcalm : r.IsCalm)
    (h : r.waitUntilIdle fuel nap = some r') : r.Performs r' ∧ r'.queue = r.asked := by
  obtain ⟨hleads, hleft, _⟩ := waitUntilIdle_leads rfl hcalm h
  exact ⟨hleads.mono fun _ => Event.IsWork.isOwn, hleft⟩

end Runner

/-! ## 5. What was proved of sessions -/

namespace Session

variable {α ε ν : Type} [AutomationStorage α] [ExecutionStorage ε] [Notifier ν]
  [LawfulExecutions ε] {s : Session α ε ν} {r : Runner α ε ν} {f : Flow} {e : Execution}
  {accepted : Moment}

/-- **What is reached by itself is reached**, with what was sent on the way. -/
theorem IsReachable.performs (h : s.IsReachable) (hperforms : s.runner.Performs r) :
    ∃ sent, (⟨r, sent⟩ : Session α ε ν).IsReachable := by
  obtain ⟨events, _, _, hrun⟩ := hperforms s.sent
  refine ⟨(s.run events).sent, ?_⟩
  rw [← hrun]
  exact h.run events

/-- **What a runner does by itself** keeps its records in order, and every record goes on. -/
theorem IsOrderly.performs (h : s.IsOrderly) (hperforms : s.runner.Performs r) :
    ∃ sent, IsOrderly ⟨r, sent⟩ ∧ Extends ⟨r, sent⟩ s := by
  obtain ⟨events, _, hfree, hrun⟩ := hperforms s.sent
  refine ⟨(s.run events).sent, ?_⟩
  rw [← hrun]
  refine raceFree_induction (fun s' => s'.IsOrderly ∧ s'.Extends s) (fun _ => True)
    (fun s' event _ hrace hs' => ?_) (fun _ _ => trivial) hfree ⟨h, .of_executions rfl⟩
  obtain ⟨hnext, hext⟩ := isOrderly_apply hs'.1 hrace
  refine ⟨hnext, fun id e he => ?_⟩
  obtain ⟨e', he', hcont⟩ := hs'.2 id e he
  obtain ⟨e'', he'', hcont'⟩ := hext id e' he'
  exact ⟨e'', he'', hcont'.trans hcont⟩

/-- **What a runner does by itself keeps executions on their course**, and settled between two steps. -/
theorem OnCourse.performs (hwf : f.IsWellFormed accepted) (ho : s.IsOrderly) (h : s.OnCourse f e)
    (hrests : s.Rests f e) (hperforms : s.runner.Performs r) :
    ∃ sent e', OnCourse ⟨r, sent⟩ f e' ∧ Rests ⟨r, sent⟩ f e' ∧ e'.Continues e := by
  obtain ⟨events, hown, hfree, hrun⟩ := hperforms s.sent
  obtain ⟨e', hcourse, hcont, hlater⟩ :=
    h.run hwf ho hfree fun event hevent => (hown event hevent).leaves e.automationId f
  have hrests' := hlater (fun event hevent => (hown event hevent).isGraceful) hrests
  refine ⟨(s.run events).sent, e', ?_⟩
  rw [← hrun]
  exact ⟨hcourse, hrests', hcont⟩

end Session

end Dripline
