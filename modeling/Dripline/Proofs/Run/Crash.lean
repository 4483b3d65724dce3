import Dripline.Proofs.Run.Course
import Dripline.Proofs.Run.Unraced

/-!
# Delivery over crashes

A process can stop between a message and its entry in the log. What is left then is a record whose log is
one node behind its messages, and which nobody takes up again: a resumption needs a scheduled time, and
that is written with the end of a step and taken away before the next one begins.

* `Delivers`: the messages of an execution are those of a prefix of the walk, and the log is at most one
  node behind;
* `Stands.delivers`, `Settled.delivers`: so it is at every stage of a task, and after its last one;
* `delivers_apply`, `delivers_run`: what events keep, crashes among them;
* **`delivers_at_most_once`**: at every moment of every such history the messages are those of a prefix of
  the walk, and the next one is that of the first action that has not sent.
-/

namespace Dripline

/-! ## 1. Messages and log -/

/-- **Messages are those of a prefix of the walk**, and the log is at most one node behind. -/
def Delivers (f : Flow) (e : Execution) (sent : List Sending) : Prop :=
  ∃ j k, e.Logged f j ∧ e.Mailed f sent k ∧ j ≤ k ∧ k ≤ j + 1

section

variable {f : Flow} {e : Execution} {sent sent' : List Sending} {k : Nat}

theorem Delivers.level (hlogged : e.Logged f k) (hmailed : e.Mailed f sent k) : Delivers f e sent :=
  ⟨k, k, hlogged, hmailed, Nat.le_refl k, Nat.le_succ k⟩

theorem Delivers.behind (hlogged : e.Logged f k) (hmailed : e.Mailed f sent (k + 1)) :
    Delivers f e sent :=
  ⟨k, k + 1, hlogged, hmailed, Nat.le_succ k, Nat.le_refl (k + 1)⟩

theorem Delivers.of_mailed (h : Delivers f e sent)
    (hsent : ∀ k, e.Mailed f sent k → e.Mailed f sent' k) : Delivers f e sent' := by
  obtain ⟨j, k, hlogged, hmailed, hle, hlag⟩ := h
  exact ⟨j, k, hlogged, hsent k hmailed, hle, hlag⟩

theorem Settled.delivers (h : Settled f e sent) : Delivers f e sent := by
  obtain ⟨k, hlogged, hmailed, _⟩ := h
  exact .level hlogged hmailed

/-- Wherever a task stands, only a step that has sent and not yet logged is behind. -/
theorem Stands.delivers {ν : Type} [Notifier ν] {stage : Stage} (h : Stands ν f e sent stage) :
    Delivers f e sent := by
  cases h with
  | note k n result hn hkeeps hlogged hmailed => exact .behind hlogged hmailed
  | enterFirst n hn hnode hlogged hmailed => exact .level hlogged hmailed
  | enterAgain k n hn hnode hlogged hmailed => exact .level hlogged hmailed
  | arrive k n hn hlogged hmailed => exact .level hlogged hmailed
  | act k n hn hlogged hmailed => exact .level hlogged hmailed
  | settle k n result hn hkeeps hlogged hmailed => exact .level hlogged hmailed
  | failing k n error hn hfails hlogged hmailed => exact .level hlogged hmailed
  | closing k n hn hlast hlogged hmailed => exact .level hlogged hmailed
  | leave k n m timer hn hm hlogged hmailed => exact .level hlogged hmailed

end

namespace Session

variable {α ε ν : Type} [AutomationStorage α] [ExecutionStorage ε] [Notifier ν]
  [LawfulExecutions ε] {s s' : Session α ε ν} {f : Flow} {e e' : Execution} {accepted : Moment}

/-! ## 2. What events keep -/

/-- **A turn of any task**: the one that holds the execution comes to another stage or to its end, and
    the others send for others. -/
theorem delivers_of_turn {t : Task} {before after : List Task} {e₁ e₁' : Execution}
    (hwf : f.IsWellFormed accepted) (ho : s.IsOrderly) (hcourse : s.OnCourse f e)
    (h : Delivers f e s.sent) (hgo : s.TakesTurn s' t before after e₁ e₁')
    (hfound : ExecutionStorage.get s'.runner.executions e.id = some e') : Delivers f e' s'.sent := by
  obtain ⟨a, hstored, hflow⟩ := hcourse.stored
  have hturn := hgo.turn
  by_cases hid : t.executionId = e.id
  · have hbefore := hgo.found
    have hafter := hgo.revises.own
    rw [hid] at hbefore hafter hturn
    cases hcourse.found.symm.trans hbefore
    cases hafter.symm.trans hfound
    rw [hgo.sent]
    by_cases hholds : t.Holds
    · have hnext := hturn.follows hwf hstored hflow (hgo.fits ho)
        (hcourse.stands t hgo.mem hid hholds) hcourse.blamed
      rcases hgo.queued with ⟨stage, hstage, _⟩ | ⟨result, hdone, _⟩
      · exact (hnext.stands stage hstage).delivers
      · exact (hnext.settled result hdone).delivers
    · rw [Stage.eq_wake_of_role (not_not.mp hholds)] at hturn
      obtain ⟨hsame, hquiet, _⟩ := hturn.follows_wake hstored hflow hcourse.waits
      rw [hsame, hquiet, Option.toList_none, List.append_nil]
      exact h
  · cases ((hgo.revises.others e.id (Ne.symm hid)).trans hcourse.found).symm.trans hfound
    rw [hgo.sent]
    refine h.of_mailed fun k hmailed => hmailed.other fun x hx => ?_
    rw [Option.mem_toList.mp hx] at hturn
    rw [hturn.executionId_of_sent]
    exact hid

/-- **Every event that leaves the flow as it is**, a crash like any other. -/
theorem delivers_apply (hwf : f.IsWellFormed accepted) (ho : s.IsOrderly) (hcourse : s.OnCourse f e)
    (h : Delivers f e s.sent) (event : Event α ν)
    (hfound : ExecutionStorage.get (s.apply event).runner.executions e.id = some e') :
    Delivers f e' (s.apply event).sent := by
  by_cases hevent : ∃ place, event = .go place
  · obtain ⟨place, rfl⟩ := hevent
    rcases apply_go_cases ho.sound ho.exists_of_held place with
      hnone | ⟨t, before, after, hdrop⟩ | ⟨t, before, after, e₁, e₁', hgo⟩
    · rw [hnone] at hfound ⊢
      cases hcourse.found.symm.trans hfound
      exact h
    · rw [hdrop.executions] at hfound
      cases hcourse.found.symm.trans hfound
      rw [hdrop.sent]
      exact h
    · exact delivers_of_turn hwf ho hcourse h hgo hfound
  · obtain ⟨hsent, hkeeps⟩ := passes_of_not_go ho.toIsSound fun place heq => hevent ⟨place, heq⟩
    cases (hkeeps hcourse.found).symm.trans hfound
    rw [hsent]
    exact h

/-- **A race-free run of such events.** -/
theorem delivers_run (hwf : f.IsWellFormed accepted) (ho : s.IsOrderly) (hcourse : s.OnCourse f e)
    (h : Delivers f e s.sent) {events : List (Event α ν)} (hfree : s.RaceFree events)
    (hleaves : ∀ event ∈ events, event.Leaves e.automationId f) :
    ∃ e', (s.run events).OnCourse f e' ∧ e'.Continues e ∧ Delivers f e' (s.run events).sent := by
  induction events generalizing s e with
  | nil => exact ⟨e, hcourse, .same e, h⟩
  | cons event events ih =>
    rw [List.forall_mem_cons] at hleaves
    obtain ⟨e₁, hcourse₁, hcont₁, _⟩ := hcourse.apply hwf ho hfree.1 hleaves.1
    have h₁ := delivers_apply hwf ho hcourse h event (hcont₁.id ▸ hcourse₁.found)
    obtain ⟨e₂, hcourse₂, hcont₂, h₂⟩ := ih (isOrderly_apply ho hfree.1).1 hcourse₁ h₁ hfree.2
      (hcont₁.automationId ▸ hleaves.2)
    exact ⟨e₂, hcourse₂, hcont₂.trans hcont₁, h₂⟩

/-! ## 3. At most once -/

/-- **What is sent next** is the message of the first node of the walk whose message was not sent. -/
theorem OnCourse.sends_next {t : Task} {x : Sending} (hwf : f.IsWellFormed accepted)
    (ho : s.IsOrderly) (h : s.OnCourse f e) (ht : t ∈ s.runner.queue) (hid : t.executionId = e.id)
    (hsends : s.runner.sending? t = some x) :
    ∃ k n, f.station e.subject k = some n ∧ e.Mailed f s.sent k ∧
      n.message? = some x.message ∧ x.subject = e.subject := by
  obtain ⟨e', hturn, _⟩ := Runner.stepTask_takes (t := t) ho.sound (hid ▸ h.found)
  rw [hsends] at hturn
  cases hstage : t.stage with
  | act walk node =>
    have hholds : t.Holds := Task.holds_of_interpreting (by rw [hstage]; rfl)
    have hstands := h.stands t ht hid hholds
    rw [hstage] at hstands hturn
    cases hstands with
    | act k n hn hlogged hmailed =>
      refine ⟨k, node, hn, hmailed, ?_⟩
      generalize (s.runner.stepTask t).2 = next at hturn
      cases hturn with
      | actDelivered walk node message nextId deliveryId hplan hanswer =>
        rcases Flow.plan_ofFlow hwf (Flow.mem_of_station hn) e.subject s.runner.clock with
          ⟨plan, hok, hplans⟩ | ⟨fault, herror, _⟩
        · cases hok.symm.trans hplan
          cases hplans with
          | deliver message m hm hmessage => exact ⟨hmessage, rfl⟩
        · cases herror.symm.trans hplan
  | _ =>
    rw [Runner.sending?_of_not_act fun walk node heq => by rw [hstage] at heq; cases heq] at hsends
    cases hsends

/-- **At most once, whatever crashes.** An execution that is started for an automation without problems,
    whose flow nobody changes from then on: at every moment of every history, where the process may be
    gone between any two writes and messages and a new one takes over the stores, any number of times,
    there are `j` and `k`, with `k` at most one more than `j`, such that the entries without error are
    those of the first `j` nodes of the reference walk and the messages that were sent for it are those
    of the actions among its first `k` nodes, in this order, one for each. What a task is about to send
    is the message of the node after these. In the history all resumptions come from timers, or else none
    overlaps another one of the same execution. -/
theorem delivers_at_most_once (hs : s.IsUnraced) {a : Automation} {subject : Option String}
    {address : String}
    (hstored : AutomationStorage.get s.runner.automations a.id = .ok (some a))
    (haccepted : a.flow.problems s.runner.clock = .ok [])
    (haddress : Address.clean subject = .ok address) :
    ∃ e, (s.runner.start a.id subject).1 = .ok e ∧
      ∀ later : List (Event α ν), (∀ event ∈ later, event.Leaves a.id a.flow) →
        (s.IsRung ∧ (s.apply (.start a.id subject)).RungThroughout later ∨
          (s.apply (.start a.id subject)).RaceFree later) →
        let now := (s.apply (.start a.id subject)).run later
        let sentAfter := fun k => ((a.flow.walk address k).filterMap Node.message?).map
          fun message => (⟨e.id, address, message⟩ : Sending)
        (∃ e' j k, ExecutionStorage.get now.runner.executions e.id = some e' ∧
          (e'.log.filter fun entry => entry.error.isNone).map LogEntry.nodeId =
            (a.flow.walk address j).map Node.id ∧
          now.sent.filter (fun x => x.executionId = e.id) = sentAfter k ∧ j ≤ k ∧ k ≤ j + 1) ∧
        ∀ t ∈ now.runner.queue, t.executionId = e.id → ∀ x, now.runner.sending? t = some x →
          ∃ k n, a.flow.station address k = some n ∧
            now.sent.filter (fun x => x.executionId = e.id) = sentAfter k ∧
            n.message? = some x.message ∧ x.subject = address := by
  have ho := hs.isOrderly
  have hwf := Check.isWellFormed_of_problems haccepted
  obtain ⟨hok, hbegan⟩ := Runner.start_accepted ho.sound ho.free haddress hstored haccepted
  obtain ⟨hcourse, hrests⟩ := OnCourse.begun ho hwf ⟨a, hstored, rfl⟩ hbegan
  have ho₁ := ho.of_began hbegan
  have hmem : ⟨s.runner.ids.next.1, .dispatched, s.runner.setup, .enter⟩ ∈
      (s.runner.start a.id subject).2.queue := by
    rw [hbegan.queue]
    exact List.mem_append_right _ (List.mem_singleton_self _)
  have hdelivers := (hcourse.stands _ hmem rfl nofun).delivers
  refine ⟨_, hok, fun later hlater hhistory => ?_⟩
  have hfree : (s.apply (.start a.id subject)).RaceFree later := by
    rcases hhistory with ⟨hrung, hlater⟩ | hfree
    · have hstarted : (s.run [.start a.id subject]).IsRung := hrung.run ⟨trivial, trivial⟩
      exact raceFree_of_rung hstarted hlater
    · exact hfree
  intro now sentAfter
  obtain ⟨e', hcourse', hcont, j, k, hlogged, hmailed, hle, hlag⟩ :=
    delivers_run hwf ho₁ hcourse hdelivers hfree hlater
  have hid : e'.id = (s.runner.newRecord a address).id := hcont.id
  have hsubject : e'.subject = address := hcont.subject
  unfold Execution.Logged at hlogged
  unfold Execution.Mailed at hmailed
  rw [hsubject] at hlogged hmailed
  rw [hid] at hmailed
  refine ⟨⟨e', j, k, hid ▸ hcourse'.found, hlogged, hmailed, hle, hlag⟩, fun t ht hown x hsends => ?_⟩
  obtain ⟨i, n, hn, hmailed', hmessage, hx⟩ :=
    hcourse'.sends_next hwf (isOrderly_run ho₁ hfree) ht (hown.trans hid.symm) hsends
  unfold Execution.Mailed at hmailed'
  rw [hsubject] at hn hmailed' hx
  rw [hid] at hmailed'
  exact ⟨i, n, hn, hmailed', hmessage, hx⟩

/-- The process crashes during the delay, and another time when the message has just been sent; each new
    one recovers, and the timer fires again. -/
def crashedEvents : List (Event MemoryAutomations Outbox) :=
  List.replicate 14 (.go 0) ++
    [.crash, .recover, .clock (Moment.first.addMicros 3600000000), .fire "id-1"] ++
    List.replicate 5 (.go 0) ++ [.crash, .recover, .fire "id-1"] ++ List.replicate 5 (.go 0)

theorem delivers_at_most_once_crashed :
    ∃ e, (greetingSession.runner.start greeting.id (some "ann@example.org")).1 = .ok e ∧
      let now := (greetingSession.apply (.start greeting.id (some "ann@example.org"))).run
        crashedEvents
      let sentAfter := fun k => ((greetingFlow.walk "ann@example.org" k).filterMap Node.message?).map
        fun message => (⟨e.id, "ann@example.org", message⟩ : Sending)
      (∃ e' j k, ExecutionStorage.get now.runner.executions e.id = some e' ∧
        (e'.log.filter fun entry => entry.error.isNone).map LogEntry.nodeId =
          (greetingFlow.walk "ann@example.org" j).map Node.id ∧
        now.sent.filter (fun x => x.executionId = e.id) = sentAfter k ∧ j ≤ k ∧ k ≤ j + 1) ∧
      ∀ t ∈ now.runner.queue, t.executionId = e.id → ∀ x, now.runner.sending? t = some x →
        ∃ k n, greetingFlow.station "ann@example.org" k = some n ∧
          now.sent.filter (fun x => x.executionId = e.id) = sentAfter k ∧
          n.message? = some x.message ∧ x.subject = "ann@example.org" := by
  have hevents : ∀ event ∈ crashedEvents, event.Leaves greeting.id greetingFlow := by
    intro event hevent
    simp only [crashedEvents, List.mem_append, List.mem_replicate, List.mem_cons,
      List.not_mem_nil, or_false] at hevent
    rcases hevent with (((⟨_, rfl⟩ | rfl | rfl | rfl | rfl) | ⟨_, rfl⟩) | rfl | rfl | rfl) | ⟨_, rfl⟩ <;>
      trivial
  obtain ⟨e, hok, h⟩ := delivers_at_most_once (s := greetingSession) (a := greeting)
    ⟨_, _, _, _, _, _, [], trivial, rfl⟩ (by decide +kernel) (by decide +kernel)
    (show Address.clean (some "ann@example.org") = .ok "ann@example.org" by decide +kernel)
  exact ⟨e, hok, h crashedEvents hevents (.inr (by decide +kernel))⟩

end Session

end Dripline
