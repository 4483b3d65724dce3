import Dripline.Proofs.Run.Course

/-!
# No structural failures

What an execution that was started for a flow without problems never runs into, whatever its tasks do to
each other:

* `Execution.StaysWithin`: its record stands at a node of the flow, at a delay when it is suspended, and
  its errors are those of a delivery or of the calculation of a delay;
* `StandsWithin`: the stages that its tasks can be at;
* `Turn.stays_within`: one stage of a task leads from there to there; `Turn.fails`: which stage fails;
* `Session.StaysWithin`, `StaysWithin.apply`, `StaysWithin.run`: every event keeps it there, and so does
  every run;
* **`never_structurally_wrong`**: no step fails but for its delivery or the calculation of its delay.

Nothing here hangs on where in its walk an execution stands, so that resumptions may overlap.
-/

namespace Dripline

/-! ## 1. Records and stages within a flow -/

/-- A record that stays within a flow: it stands at one of its nodes, which is a delay when it is
    suspended, and every logged error is one of its node that is left. -/
structure Execution.StaysWithin (ν : Type) [Notifier ν] (e : Execution) (f : Flow) : Prop where
  node : ∀ nodeId, e.currentNode = some nodeId → ∃ n ∈ f.nodes, n.id = nodeId
  waits : e.isSuspended = true → ∃ n ∈ f.nodes, n.kind = .delay ∧ e.currentNode = some n.id
  errors : ∀ entry ∈ e.log, ∀ error, entry.error = some error →
    ∃ n ∈ f.nodes, entry.nodeId = n.id ∧ n.FailsFor ν error
  failed : e.status = .failed → ∃ entry ∈ e.log, entry.error.isSome = true

/-- **The stages within a flow** that a task of an execution can be at. -/
inductive StandsWithin (ν : Type) [Notifier ν] (f : Flow) (e : Execution) : Stage → Prop where
  | wake : StandsWithin ν f e .wake
  | enter : StandsWithin ν f e .enter
  | arrive (n : Node) (hn : n ∈ f.nodes) :
      StandsWithin ν f e (.arrive ⟨e.id, e.subject, .ofFlow f⟩ n.id)
  | act (n : Node) (hn : n ∈ f.nodes) : StandsWithin ν f e (.act ⟨e.id, e.subject, .ofFlow f⟩ n)
  | note (n : Node) (result : StepResult) (hn : n ∈ f.nodes) (hkeeps : f.Keeps e.subject n result) :
      StandsWithin ν f e (.note ⟨e.id, e.subject, .ofFlow f⟩ n result)
  | settle (n : Node) (result : StepResult) (hn : n ∈ f.nodes) (hkeeps : f.Keeps e.subject n result) :
      StandsWithin ν f e (.settle ⟨e.id, e.subject, .ofFlow f⟩ n result)
  | failing (n : Node) (error : String) (hn : n ∈ f.nodes) (hfails : n.FailsFor ν error) :
      StandsWithin ν f e (.failing (some (n.id, n.kind.text)) error)
  | closing (hlogged : ∃ entry ∈ e.log, entry.error.isSome = true) : StandsWithin ν f e .closing
  | leave (m : Node) (timer : Option Nat) (hm : m ∈ f.nodes) : StandsWithin ν f e (.leave m.id timer)

section

variable {ν : Type} [Notifier ν] {f : Flow} {e e' : Execution} {stage : Stage}

/-- A task stands where it stood when the record goes on. -/
theorem StandsWithin.mono (h : StandsWithin ν f e stage) (hremains : e'.Remains e) :
    StandsWithin ν f e' stage := by
  cases h with
  | wake => exact .wake
  | enter => exact .enter
  | arrive n hn => exact hremains.id ▸ hremains.subject ▸ .arrive n hn
  | act n hn => exact hremains.id ▸ hremains.subject ▸ .act n hn
  | note n result hn hkeeps =>
    rw [← hremains.subject] at hkeeps
    exact hremains.id ▸ hremains.subject ▸ .note n result hn hkeeps
  | settle n result hn hkeeps =>
    rw [← hremains.subject] at hkeeps
    exact hremains.id ▸ hremains.subject ▸ .settle n result hn hkeeps
  | failing n error hn hfails => exact .failing n error hn hfails
  | closing hlogged =>
    obtain ⟨entry, hentry, herror⟩ := hlogged
    exact .closing ⟨entry, hremains.log.subset hentry, herror⟩
  | leave m timer hm => exact .leave m timer hm

namespace Execution.StaysWithin

/-- Other fields are written, and the record is not suspended. -/
theorem of_awake (h : e.StaysWithin ν f) (hlog : e'.log = e.log)
    (hnode : ∀ nodeId, e'.currentNode = some nodeId → ∃ n ∈ f.nodes, n.id = nodeId)
    (hawake : e'.isSuspended = false)
    (hfailed : e'.status = .failed → ∃ entry ∈ e.log, entry.error.isSome = true) :
    e'.StaysWithin ν f where
  node := hnode
  waits hsuspended := by
    rw [hawake] at hsuspended
    cases hsuspended
  errors := hlog ▸ h.errors
  failed hstatus := hlog ▸ hfailed hstatus

theorem noted {kept : Moment → Moment} {entry : LogEntry} (h : e.StaysWithin ν f)
    (herrors : ∀ error, entry.error = some error →
      ∃ n ∈ f.nodes, entry.nodeId = n.id ∧ n.FailsFor ν error) :
    (e.noted kept entry).StaysWithin ν f where
  node := h.node
  waits := h.waits
  errors entry' hmem error herror := by
    rcases List.mem_append.mp hmem with hmem | hmem
    · exact h.errors entry' hmem error herror
    · rw [List.mem_singleton.mp hmem] at herror ⊢
      exact herrors error herror
  failed hstatus := by
    obtain ⟨entry', hentry', herror⟩ := h.failed hstatus
    exact ⟨entry', List.mem_append_left _ hentry', herror⟩

/-- **Out of a delay** there is a way to a node of the flow, which the index of the graph knows. -/
theorem target (h : e.StaysWithin ν f) {accepted : Moment} (hwf : f.IsWellFormed accepted)
    (hsuspended : e.isSuspended = true) :
    ∃ m ∈ f.nodes, e.currentNode.bind (Graph.ofFlow f).successor? = some m.id := by
  obtain ⟨n, hn, hkind, hnode⟩ := h.waits hsuspended
  obtain ⟨m, hm⟩ := Flow.follow_of_isWellFormed hwf hn (by rw [hkind]; exact nofun) e.subject
  refine ⟨m, Flow.mem_of_follow hm, ?_⟩
  rw [hnode, Option.bind_some, Flow.successor?_of_follow hm (by rw [hkind]; exact nofun)]

end Execution.StaysWithin

end

/-! ## 2. One stage -/

/-- What holds after a stage: the record stays within the flow, and so does the task if it goes on. -/
structure AfterWithin (ν : Type) [Notifier ν] (f : Flow) (e : Execution) (next : Runner.Next) : Prop where
  stays : e.StaysWithin ν f
  stands : ∀ stage, next = .stage stage → StandsWithin ν f e stage
  faults : ∀ fault, next = .done (.error fault) → ∃ a, fault = .arithmetic a

section

variable {ν : Type} [Notifier ν] {f : Flow} {e : Execution}

theorem afterWithin_stage {stage : Stage} (hstays : e.StaysWithin ν f)
    (hstands : StandsWithin ν f e stage) : AfterWithin ν f e (.stage stage) where
  stays := hstays
  stands _ h := by
    cases h
    exact hstands
  faults _ h := nomatch h

theorem afterWithin_done {found : Option Execution} (hstays : e.StaysWithin ν f) :
    AfterWithin ν f e (.done (.ok found)) where
  stays := hstays
  stands _ h := nomatch h
  faults _ h := nomatch h

end

namespace Runner

variable {α ε ν : Type} [AutomationStorage α] [ExecutionStorage ε] [Notifier ν]
  [LawfulExecutions ε] {r : Runner α ε ν} {setup : Setup} {e e' : Execution} {stage : Stage}
  {next : Next} {out : Option Sending} {f : Flow} {accepted : Moment} {n : Node}

/-- The step of a node leads to a result that keeps to the walk, or to a failure that is left. -/
theorem Turn.stays_within_act (hwf : f.IsWellFormed accepted) (hn : n ∈ f.nodes)
    (h : Turn r e.id setup e (.act ⟨e.id, e.subject, .ofFlow f⟩ n) e' next out)
    (hstays : e.StaysWithin ν f) : AfterWithin ν f e' next := by
  have hplans := Flow.plan_ofFlow hwf hn e.subject r.clock
  cases h with
  | actFault _ _ fault hplan =>
    rcases hplans with ⟨plan, hok, _⟩ | ⟨a, herror, hmis⟩
    · cases hok.symm.trans hplan
    · cases herror.symm.trans hplan
      exact afterWithin_stage hstays (.failing n _ hn (.miscalculated _ a hmis))
  | actSettled _ _ result hplan =>
    rcases hplans with ⟨plan, hok, hplans⟩ | ⟨a, herror, _⟩
    · cases hok.symm.trans hplan
      cases hplans with
      | proceed text m hm => exact afterWithin_stage hstays (.note n _ hn ⟨m, hm, rfl⟩)
      | suspend text due m hm hk => exact afterWithin_stage hstays (.note n _ hn ⟨hk, m, hm⟩)
      | finish text hk => exact afterWithin_stage hstays (.note n _ hn hk)
    · cases herror.symm.trans hplan
  | actUndelivered _ _ message nextId fault hplan hanswer =>
    rcases hplans with ⟨plan, hok, hplans⟩ | ⟨a, herror, _⟩
    · cases hok.symm.trans hplan
      cases hplans with
      | deliver message m hm hmessage =>
        exact afterWithin_stage hstays (.failing n _ hn (.undelivered _ _ _ _ fault hmessage hanswer))
    · cases herror.symm.trans hplan
  | actDelivered _ _ message nextId deliveryId hplan hanswer =>
    rcases hplans with ⟨plan, hok, hplans⟩ | ⟨a, herror, _⟩
    · cases hok.symm.trans hplan
      cases hplans with
      | deliver message m hm hmessage => exact afterWithin_stage hstays (.note n _ hn ⟨m, hm, rfl⟩)
    · cases herror.symm.trans hplan

/-- The result of a step takes effect within the flow. -/
theorem Turn.stays_within_settle {result : StepResult} (hn : n ∈ f.nodes)
    (h : Turn r e.id setup e (.settle ⟨e.id, e.subject, .ofFlow f⟩ n result) e' next out)
    (hkeeps : f.Keeps e.subject n result) (hstays : e.StaysWithin ν f) : AfterWithin ν f e' next := by
  cases h with
  | settleProceed _ _ message nextId =>
    obtain ⟨m, hm, rfl⟩ := hkeeps
    exact afterWithin_stage hstays (.arrive m (Flow.mem_of_follow hm))
  | settleStuck => exact hkeeps.elim
  | settleSuspend _ _ message due result hresult =>
    exact {
      stays :=
        { node := fun nodeId hnode => ⟨n, hn, Option.some.inj hnode⟩
          waits := fun _ => ⟨n, hn, hkeeps.1, rfl⟩
          errors := hstays.errors
          failed := fun hfailed => absurd hfailed (show Status.pending ≠ .failed by decide) }
      stands := fun _ h => nomatch h
      faults := fun fault h => hresult fault (Next.done.inj h) }
  | settleFinish _ _ message found =>
    exact afterWithin_done (hstays.of_awake rfl hstays.node
      (isSuspended_of_status (show Status.completed ≠ .pending by decide))
      fun hfailed => absurd hfailed (show Status.completed ≠ .failed by decide))

/-- **One stage of a task within the flow** leaves the record and the task within the flow, whatever the
    record says by then. -/
theorem Turn.stays_within {a : Automation} (hwf : f.IsWellFormed accepted)
    (hstored : AutomationStorage.get r.automations e.automationId = .ok (some a)) (hflow : a.flow = f)
    (h : Turn r e.id setup e stage e' next out) (hstands : StandsWithin ν f e stage)
    (hstays : e.StaysWithin ν f) : AfterWithin ν f e' next := by
  cases hstands with
  | wake =>
    cases h with
    | wakeStale => exact afterWithin_done hstays
    | wakeUnread fault hsuspended hget => cases hstored.symm.trans hget
    | wakeGone timer hsuspended hget => cases hstored.symm.trans hget
    | wake b target timer hsuspended hget htarget =>
      cases hstored.symm.trans hget
      obtain ⟨m, hm, hway⟩ := hstays.target hwf hsuspended
      rw [hflow, hway] at htarget
      cases htarget
      exact afterWithin_stage hstays (.leave m timer hm)
    | wakeNowhere b timer hsuspended hget htarget =>
      cases hstored.symm.trans hget
      obtain ⟨m, hm, hway⟩ := hstays.target hwf hsuspended
      rw [hflow, hway] at htarget
      cases htarget
  | enter =>
    cases h with
    | enterUnread fault hget => cases hstored.symm.trans hget
    | enterGone hget => cases hstored.symm.trans hget
    | enterAgain b nodeId hget hnode =>
      cases hstored.symm.trans hget
      obtain ⟨n, hn, rfl⟩ := hstays.node nodeId hnode
      exact hflow ▸ afterWithin_stage (hflow.symm ▸ hstays) (.arrive n (hflow.symm ▸ hn))
    | enterFirst b start hget hnode hstart =>
      cases hstored.symm.trans hget
      have hfirst : (Graph.ofFlow f).start? = f.station e.subject 0 := Flow.start?_eq_station hwf
      rw [hflow, hfirst] at hstart
      rw [hflow]
      exact afterWithin_stage hstays (.arrive start (Flow.mem_of_station hstart))
    | enterNowhere b hget hnode hstart =>
      cases hstored.symm.trans hget
      obtain ⟨start, hfirst⟩ := Flow.station_zero_of_isWellFormed hwf e.subject
      rw [hflow, Flow.start?_eq_station hwf, hfirst] at hstart
      cases hstart
  | arrive n hn =>
    have hnode := Flow.node?_of_mem hwf hn
    cases h with
    | arriveNowhere _ _ hnone => cases hnode.symm.trans hnone
    | arrive _ _ node hnode' =>
      cases hnode.symm.trans hnode'
      exact afterWithin_stage (hstays.of_awake rfl (fun nodeId hid => ⟨n, hn, Option.some.inj hid⟩)
        (isSuspended_of_status (show Status.running ≠ .pending by decide))
        fun hfailed => absurd hfailed (show Status.running ≠ .failed by decide)) (.act n hn)
  | act n hn => exact h.stays_within_act hwf hn hstays
  | note n result hn hkeeps =>
    cases h
    exact afterWithin_stage (hstays.noted nofun) (.settle n result hn hkeeps)
  | settle n result hn hkeeps => exact h.stays_within_settle hn hkeeps hstays
  | failing n error hn hfails =>
    cases h
    refine afterWithin_stage (hstays.noted fun error' herror => ?_)
      (.closing ⟨_, List.mem_append_right _ (List.mem_singleton_self _), rfl⟩)
    cases herror
    exact ⟨n, hn, rfl, hfails⟩
  | closing hlogged =>
    cases h
    exact afterWithin_done (hstays.of_awake rfl hstays.node
      (isSuspended_of_status (show Status.failed ≠ .pending by decide)) fun _ => hlogged)
  | leave m timer hm =>
    cases h
    refine afterWithin_stage (hstays.of_awake rfl (fun nodeId hid => ⟨m, hm, Option.some.inj hid⟩) ?_
      hstays.failed) .enter
    unfold Execution.isSuspended
    exact Bool.and_false _

/-- The step of a node fails at this moment: the notifier refuses its message, or its delay cannot be
    calculated. -/
def Fails (r : Runner α ε ν) (f : Flow) (subject : String) (n : Node) (error : String) : Prop :=
  (∃ message next fault, Step.plan (.ofFlow f) subject r.clock n = .ok (.deliver message next) ∧
      r.answer subject message = .error fault ∧ error = fault.message) ∨
    ∃ fault, Step.plan (.ofFlow f) subject r.clock n = .error (.arithmetic fault) ∧
      error = fault.message

/-- **Only the step of a node fails**, and only in one of the two ways that are left. -/
theorem Turn.fails {a : Automation} (hwf : f.IsWellFormed accepted)
    (hstored : AutomationStorage.get r.automations e.automationId = .ok (some a)) (hflow : a.flow = f)
    {entry : Option (String × String)} {error : String}
    (h : Turn r e.id setup e stage e' (.stage (.failing entry error)) out)
    (hstands : StandsWithin ν f e stage) :
    ∃ n ∈ f.nodes, stage = .act ⟨e.id, e.subject, .ofFlow f⟩ n ∧
      entry = some (n.id, n.kind.text) ∧ r.Fails f e.subject n error := by
  cases h with
  | enterGone hget => cases hstored.symm.trans hget
  | enterNowhere b hget hnode hstart =>
    cases hstored.symm.trans hget
    obtain ⟨start, hfirst⟩ := Flow.station_zero_of_isWellFormed hwf e.subject
    rw [hflow, Flow.start?_eq_station hwf, hfirst] at hstart
    cases hstart
  | arriveNowhere walk nodeId hnone =>
    cases hstands with
    | arrive n hn => cases (Flow.node?_of_mem hwf hn).symm.trans hnone
  | actFault walk node fault hplan =>
    cases hstands with
    | act n hn =>
      refine ⟨node, hn, rfl, rfl, .inr ?_⟩
      rcases Flow.plan_ofFlow hwf hn e.subject r.clock with ⟨plan, hok, _⟩ | ⟨b, herror, _⟩
      · cases hok.symm.trans hplan
      · cases herror.symm.trans hplan
        exact ⟨b, hplan, rfl⟩
  | actUndelivered walk node message nextId fault hplan hanswer =>
    cases hstands with
    | act n hn => exact ⟨node, hn, rfl, rfl, .inl ⟨message, nextId, fault, hplan, hanswer, rfl⟩⟩
  | settleStuck walk node message error =>
    cases hstands with
    | settle n result hn hkeeps => exact hkeeps.elim

end Runner

/-! ## 3. Sessions -/

namespace Session

variable {α ε ν : Type} [AutomationStorage α] [ExecutionStorage ε] [Notifier ν]
  [LawfulExecutions ε] {s s' : Session α ε ν} {f : Flow} {e e' : Execution} {accepted : Moment}

/-- **An execution within the flow** of its automation, with all its tasks. -/
structure StaysWithin (s : Session α ε ν) (f : Flow) (e : Execution) : Prop where
  found : ExecutionStorage.get s.runner.executions e.id = some e
  stored : ∃ a, AutomationStorage.get s.runner.automations e.automationId = .ok (some a) ∧ a.flow = f
  stays : e.StaysWithin ν f
  stands : ∀ t ∈ s.runner.queue, t.executionId = e.id → StandsWithin ν f e t.stage

/-- A turn of a task of the execution. -/
theorem StaysWithin.of_own {t : Task} {before after : List Task} (hwf : f.IsWellFormed accepted)
    (h : s.StaysWithin f e) (hgo : s.TakesTurn s' t before after e e') (hid : t.executionId = e.id) :
    s'.StaysWithin f e' := by
  obtain ⟨a, hstored, hflow⟩ := h.stored
  have hturn := hgo.turn
  rw [hid] at hturn
  have hremains := hturn.remains
  have hafter := hturn.stays_within hwf hstored hflow (h.stands t hgo.mem hid) h.stays
  have hown := hgo.revises.own
  rw [hid, ← hremains.id] at hown
  refine ⟨hown, ?_, hafter.stays, fun t' ht' hid' => ?_⟩
  · rw [hgo.automations, hremains.automationId]
    exact h.stored
  · rcases hgo.mem_queued ht' with ht' | ⟨stage, hstage, rfl⟩
    · exact (h.stands t' (hgo.mem_of_other ht') (hid'.trans hremains.id)).mono hremains
    · exact hafter.stands stage hstage

/-- A turn of a task of another execution. -/
theorem StaysWithin.of_other {t : Task} {before after : List Task} {e₁ e₁' : Execution}
    (h : s.StaysWithin f e) (hgo : s.TakesTurn s' t before after e₁ e₁') (hid : e.id ≠ t.executionId) :
    s'.StaysWithin f e where
  found := (hgo.revises.others _ hid).trans h.found
  stored := hgo.automations ▸ h.stored
  stays := h.stays
  stands t' ht' hid' :=
    h.stands t' ((hgo.mem_iff_of_other (hid'.trans_ne hid)).mp ht') hid'

/-- **An event that leaves the flow as it is** keeps the execution within it. -/
theorem StaysWithin.apply (hwf : f.IsWellFormed accepted) (hs : s.IsSound) (h : s.StaysWithin f e)
    {event : Event α ν} (hleaves : event.Leaves e.automationId f) :
    ∃ e', (s.apply event).StaysWithin f e' ∧ e'.Remains e := by
  by_cases hturn : ∃ place, event = .go place
  · obtain ⟨place, rfl⟩ := hturn
    rcases apply_go_cases hs.sound hs.exists_of_held place with
      hnone | ⟨t, before, after, hdrop⟩ | ⟨t, before, after, e₁, e₁', hgo⟩
    · rw [hnone]
      exact ⟨e, h, .same e⟩
    · exact ⟨e, ⟨hdrop.executions ▸ h.found, hdrop.automations ▸ h.stored, h.stays,
        fun t' ht' => h.stands t' (hdrop.mem_of_queued ht')⟩, .same e⟩
    · by_cases hid : e.id = t.executionId
      · have hsame : e₁ = e := by
          have hfound := hgo.found
          rw [← hid, h.found] at hfound
          exact (Option.some.inj hfound).symm
        subst hsame
        have hremains := hgo.turn.remains
        exact ⟨e₁', h.of_own hwf hgo hid.symm, hremains⟩
      · exact ⟨e, h.of_other hgo hid, .same e⟩
  · have hpass : ∀ place, event ≠ .go place := fun place heq => hturn ⟨place, heq⟩
    refine ⟨e, ⟨(passes_of_not_go hs hpass).2 h.found, ?_, h.stays, fun t ht hid => ?_⟩, .same e⟩
    · by_cases hauthor : ∃ automations drawn, event = .author automations drawn
      · obtain ⟨automations, drawn, rfl⟩ := hauthor
        exact hleaves
      · rw [automations_of_not_author hs fun automations drawn heq => hauthor ⟨automations, drawn, heq⟩]
        exact h.stored
    · rcases queue_of_not_go hs hpass with ⟨new, hqueue, hnew⟩ | ⟨hqueue, _⟩
      · rw [hqueue, List.mem_append] at ht
        rcases ht with ht | ht
        · exact h.stands t ht hid
        · rcases hnew t ht with hstage | ⟨hstage, _⟩
          · rw [hstage]
            exact .wake
          · rw [hstage]
            exact .enter
      · rw [hqueue] at ht
        cases ht

/-- **A run of events that leave the flow as it is** keeps the execution within it. -/
theorem StaysWithin.run (hwf : f.IsWellFormed accepted) (hs : s.IsSound) (h : s.StaysWithin f e)
    {events : List (Event α ν)} (hleaves : ∀ event ∈ events, event.Leaves e.automationId f) :
    ∃ e', (s.run events).StaysWithin f e' ∧ e'.Remains e := by
  induction events generalizing s e with
  | nil => exact ⟨e, h, .same e⟩
  | cons event events ih =>
    rw [List.forall_mem_cons] at hleaves
    obtain ⟨e₁, hwithin₁, hremains₁⟩ := h.apply hwf hs hleaves.1
    obtain ⟨e₂, hwithin₂, hremains₂⟩ :=
      ih (isSound_apply hs event).1 hwithin₁ (hremains₁.automationId ▸ hleaves.2)
    exact ⟨e₂, hwithin₂, hremains₂.trans hremains₁⟩

/-- **An execution begins within the flow** of its automation. -/
theorem StaysWithin.begun {r : Runner α ε ν} {a : Automation} {address : String} (hs : s.IsSound)
    (hstored : ∃ b, AutomationStorage.get s.runner.automations a.id = .ok (some b) ∧ b.flow = f)
    (hbegan : s.runner.Began r (s.runner.newRecord a address)) :
    StaysWithin ⟨r, s.sent⟩ f (s.runner.newRecord a address) where
  found := hbegan.revises.own
  stored := by
    show ∃ b, AutomationStorage.get r.automations a.id = .ok (some b) ∧ b.flow = f
    rw [hbegan.automations]
    exact hstored
  stays := ⟨nofun, nofun, fun _ hentry => absurd hentry List.not_mem_nil,
    fun hfailed => absurd hfailed (show Status.pending ≠ .failed by decide)⟩
  stands t ht hid := by
    have ht' : t ∈ r.queue := ht
    rw [hbegan.queue, List.mem_append, List.mem_singleton] at ht'
    rcases ht' with ht' | rfl
    · by_cases hholds : t.Holds
      · obtain ⟨e, he⟩ := hs.found t ht' hholds
        cases (hid ▸ he).symm.trans hs.free
      · rw [Stage.eq_wake_of_role (not_not.mp hholds)]
        exact .wake
    · exact .enter

/-- What can still go wrong at the next stage of a task: the step of a node fails for its delivery or
    the calculation of its delay, and a timer may not be calculated. No resumption gets lost. -/
structure OnlyFails (r : Runner α ε ν) (f : Flow) (subject : String) (t : Task) : Prop where
  step : ∀ entry error, (r.stepTask t).2 = .stage (.failing entry error) →
    ∃ n ∈ f.nodes, t.stage = .act ⟨t.executionId, subject, .ofFlow f⟩ n ∧
      entry = some (n.id, n.kind.text) ∧ r.Fails f subject n error
  resumption : ∀ nodeId error timer, (r.stepTask t).2 ≠ .stage (.lost nodeId error timer)
  call : ∀ fault, (r.stepTask t).2 = .done (.error fault) → ∃ a, fault = .arithmetic a

theorem StaysWithin.onlyFails {t : Task} (hwf : f.IsWellFormed accepted) (hs : s.IsSound)
    (h : s.StaysWithin f e) (ht : t ∈ s.runner.queue) (hid : t.executionId = e.id) :
    OnlyFails s.runner f e.subject t := by
  obtain ⟨a, hstored, hflow⟩ := h.stored
  have hstands := h.stands t ht hid
  obtain ⟨e', hturn, _⟩ := Runner.stepTask_takes hs.sound (hid ▸ h.found)
  rw [hid] at hturn
  have hafter := hturn.stays_within hwf hstored hflow hstands h.stays
  refine ⟨fun entry error hnext => ?_, fun nodeId error timer hnext => ?_, hafter.faults⟩
  · rw [hnext] at hturn
    rw [hid]
    exact hturn.fails hwf hstored hflow hstands
  · cases hafter.stands _ hnext

/-- **No structural failure.** An execution that was started, and with that found to be without problems,
    for a flow that nobody changes from then on, whatever else happens in between, overlapping
    resumptions included: no task of it gets into a failure but at the step of a node of the flow whose
    message the notifier refuses or whose delay cannot be calculated, no resumption of it gets lost, its
    record stands at a node of the flow, and all errors of its log are such failures. Without races a
    failed record also ends in one of them. -/
theorem never_structurally_wrong (hs : s.IsReachable) {a : Automation} {subject : Option String}
    {e : Execution} (hstored : AutomationStorage.get s.runner.automations a.id = .ok (some a))
    (hstart : (s.runner.start a.id subject).1 = .ok e) (later : List (Event α ν))
    (hlater : ∀ event ∈ later, event.Leaves a.id a.flow) :
    let now := (s.apply (.start a.id subject)).run later
    (∀ t ∈ now.runner.queue, t.executionId = e.id → OnlyFails now.runner a.flow e.subject t) ∧
      ∃ e', ExecutionStorage.get now.runner.executions e.id = some e' ∧ e'.StaysWithin ν a.flow ∧
        (s.IsUnraced → (s.apply (.start a.id subject)).RaceFree later → e'.Blamed ν a.flow) := by
  have hsound := hs.isSound
  intro now
  rcases Runner.start_cases hsound.sound hsound.free a.id subject with
    ⟨⟨fault, hfault⟩, _⟩ | ⟨b, address, _, hget, haccepted, hok, hbegan⟩
  · cases hfault.symm.trans hstart
  cases hstored.symm.trans hget
  cases hok.symm.trans hstart
  have hwf := Check.isWellFormed_of_problems haccepted
  have hsound₁ := hsound.of_began hbegan
  obtain ⟨e', hwithin, hremains⟩ :=
    (StaysWithin.begun hsound ⟨a, hstored, rfl⟩ hbegan).run hwf hsound₁ hlater
  have hid : e'.id = (s.runner.newRecord a address).id := hremains.id
  have hsubject : e'.subject = (s.runner.newRecord a address).subject := hremains.subject
  refine ⟨fun t ht hown => ?_, e', hid ▸ hwithin.found, hwithin.stays, fun hunraced hfree => ?_⟩
  · rw [← hsubject]
    exact hwithin.onlyFails hwf (isSound_run hsound₁ later) ht (hown.trans hid.symm)
  · have ho := hunraced.isOrderly
    obtain ⟨e₁, hcourse, hcont, _⟩ := (OnCourse.begun ho hwf ⟨a, hstored, rfl⟩ hbegan).1.run hwf
      (ho.of_began hbegan) hfree hlater
    have hsame : e₁ = e' := by
      have hfound := hcourse.found
      rw [hcont.id, ← hid] at hfound
      exact Option.some.inj (hfound.symm.trans hwithin.found)
    exact hsame ▸ hcourse.blamed

/-- The process crashes during the delay, and the message is refused afterwards: its task stands at the
    action. -/
def refusedEvents : List (Event MemoryAutomations Outbox) :=
  List.replicate 14 (.go 0) ++
    [.crash, .recover, .equip ⟨some "no route", []⟩ 50 50, .fire "id-1"] ++
    List.replicate 4 (.go 0)

theorem never_structurally_wrong_refused :
    let e := greetingSession.runner.newRecord greeting "ann@example.org"
    let now := (greetingSession.apply (.start greeting.id (some "ann@example.org"))).run refusedEvents
    (∀ t ∈ now.runner.queue, t.executionId = e.id →
        OnlyFails now.runner greeting.flow e.subject t) ∧
      ∃ e', ExecutionStorage.get now.runner.executions e.id = some e' ∧
        e'.StaysWithin Outbox greeting.flow ∧ e'.Blamed Outbox greeting.flow := by
  have hevents : ∀ event ∈ refusedEvents, event.Leaves greeting.id greeting.flow := by
    intro event hevent
    simp only [refusedEvents, List.mem_append, List.mem_replicate, List.mem_cons,
      List.not_mem_nil, or_false] at hevent
    rcases hevent with (⟨_, rfl⟩ | rfl | rfl | rfl | rfl) | ⟨_, rfl⟩ <;> trivial
  have hstart : (greetingSession.runner.start greeting.id (some "ann@example.org")).1 =
      .ok (greetingSession.runner.newRecord greeting "ann@example.org") := by decide +kernel
  obtain ⟨honly, e', hfound, hstays, hblamed⟩ :=
    never_structurally_wrong (s := greetingSession) (a := greeting) ⟨_, _, _, _, _, _, [], rfl⟩
      (by decide +kernel) hstart refusedEvents hevents
  exact ⟨honly, e', hfound, hstays,
    hblamed ⟨_, _, _, _, _, _, [], trivial, rfl⟩ (by decide +kernel)⟩

end Session

end Dripline
