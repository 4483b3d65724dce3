import Dripline.Proofs.Flow.Walk
import Dripline.Proofs.Run.Lifecycle

/-!
# Where an execution stands in the walk of its flow

A record and the messages that were sent, held against the reference walk of a well-formed flow:

* `Execution.Logged`, `Execution.Mailed`: the steps that went well, and the messages sent, are those of a
  prefix of the walk;
* `Stands`: for each stage of a task, how far that prefix reaches. Within a step the message may be one
  node ahead of the log, and both one node ahead of the record;
* `Waits`, `Settled`: the same for a suspended record and for one that is not held by any task;
* `Node.FailsFor`, `Execution.Blamed`: the failures that are left, those of a delivery and those of the
  calculation of a delay;
* **`Turn.follows`**: one stage of a task leads from one such position to the next.
-/

namespace Dripline

/-! ## 1. Failures that are left -/

/-- The ways in which the step of a node in a walk can fail: its message is not delivered, or its delay
    cannot be calculated. -/
inductive Node.FailsFor (ν : Type) [Notifier ν] (n : Node) : String → Prop where
  | undelivered (notifier : ν) (es : List Execution) (subject message : String) (fault : SendFault)
      (hmessage : n.message? = some message)
      (hanswer : (Notifier.send notifier es subject message).outcome = .error fault) :
      FailsFor ν n fault.message
  | miscalculated (now : Moment) (fault : ArithFault) (hfault : n.Miscalculates now fault) :
      FailsFor ν n fault.message

/-- Every logged error is one of its node in the flow, and a failed record ends in such an entry. -/
structure Execution.Blamed (ν : Type) [Notifier ν] (e : Execution) (f : Flow) : Prop where
  errors : ∀ entry ∈ e.log, ∀ error, entry.error = some error →
    ∃ n ∈ f.nodes, entry.nodeId = n.id ∧ n.FailsFor ν error
  failed : e.status = .failed → ∃ entry, e.log.getLast? = some entry ∧ entry.error.isSome = true

/-! ## 2. Positions -/

/-- The steps that went well are the first `k` of the walk. -/
def Execution.Logged (e : Execution) (f : Flow) (k : Nat) : Prop :=
  (e.log.filter fun entry => entry.error.isNone).map LogEntry.nodeId =
    (f.walk e.subject k).map Node.id

/-- The messages sent for an execution are those of the first `k` nodes of the walk. -/
def Execution.Mailed (e : Execution) (f : Flow) (sent : List Sending) (k : Nat) : Prop :=
  sent.filter (fun x => x.executionId = e.id) =
    ((f.walk e.subject k).filterMap Node.message?).map fun message => ⟨e.id, e.subject, message⟩

/-- The result of a step keeps to the walk. -/
def Flow.Keeps (f : Flow) (subject : String) (n : Node) : StepResult → Prop
  | .proceed _ next => ∃ m, f.follow subject n = some m ∧ m.id = next
  | .suspend _ _ => n.kind = .delay ∧ ∃ m, f.follow subject n = some m
  | .finish _ => n.kind = .finish
  | .stuck _ _ => False

/-- **Where a task stands in the walk**, at each of the stages that it can be at. -/
inductive Stands (ν : Type) [Notifier ν] (f : Flow) (e : Execution) (sent : List Sending) :
    Stage → Prop where
  | enterFirst (n : Node) (hn : f.station e.subject 0 = some n) (hnode : e.currentNode = none)
      (hlogged : e.Logged f 0) (hmailed : e.Mailed f sent 0) : Stands ν f e sent .enter
  | enterAgain (k : Nat) (n : Node) (hn : f.station e.subject k = some n)
      (hnode : e.currentNode = some n.id) (hlogged : e.Logged f k) (hmailed : e.Mailed f sent k) :
      Stands ν f e sent .enter
  | arrive (k : Nat) (n : Node) (hn : f.station e.subject k = some n) (hlogged : e.Logged f k)
      (hmailed : e.Mailed f sent k) :
      Stands ν f e sent (.arrive ⟨e.id, e.subject, .ofFlow f⟩ n.id)
  | act (k : Nat) (n : Node) (hn : f.station e.subject k = some n) (hlogged : e.Logged f k)
      (hmailed : e.Mailed f sent k) : Stands ν f e sent (.act ⟨e.id, e.subject, .ofFlow f⟩ n)
  | note (k : Nat) (n : Node) (result : StepResult) (hn : f.station e.subject k = some n)
      (hkeeps : f.Keeps e.subject n result) (hlogged : e.Logged f k)
      (hmailed : e.Mailed f sent (k + 1)) :
      Stands ν f e sent (.note ⟨e.id, e.subject, .ofFlow f⟩ n result)
  | settle (k : Nat) (n : Node) (result : StepResult) (hn : f.station e.subject k = some n)
      (hkeeps : f.Keeps e.subject n result) (hlogged : e.Logged f (k + 1))
      (hmailed : e.Mailed f sent (k + 1)) :
      Stands ν f e sent (.settle ⟨e.id, e.subject, .ofFlow f⟩ n result)
  | failing (k : Nat) (n : Node) (error : String) (hn : f.station e.subject k = some n)
      (hfails : n.FailsFor ν error) (hlogged : e.Logged f k) (hmailed : e.Mailed f sent k) :
      Stands ν f e sent (.failing (some (n.id, n.kind.text)) error)
  | closing (k : Nat) (n : Node) (hn : f.station e.subject k = some n)
      (hlast : ∃ entry, e.log.getLast? = some entry ∧ entry.error.isSome = true)
      (hlogged : e.Logged f k) (hmailed : e.Mailed f sent k) : Stands ν f e sent .closing
  | leave (k : Nat) (n m : Node) (timer : Option Nat) (hn : f.station e.subject k = some n)
      (hm : f.follow e.subject n = some m) (hlogged : e.Logged f (k + 1))
      (hmailed : e.Mailed f sent (k + 1)) : Stands ν f e sent (.leave m.id timer)

/-- Where a suspended record waits: at a delay, whose step is done but for the way on. -/
def Waits (f : Flow) (e : Execution) (sent : List Sending) : Prop :=
  ∃ k n m, f.station e.subject k = some n ∧ n.kind = .delay ∧ f.follow e.subject n = some m ∧
    e.currentNode = some n.id ∧ e.Logged f (k + 1) ∧ e.Mailed f sent (k + 1)

/-- **Between two steps**, log and messages are those of the same prefix of the walk, and the record is
    completed exactly when that prefix has come to the end node. -/
def Settled (f : Flow) (e : Execution) (sent : List Sending) : Prop :=
  ∃ k, e.Logged f k ∧ e.Mailed f sent k ∧
    (e.status = .completed ↔ ∃ n ∈ f.walk e.subject k, n.kind = .finish)

section

variable {f : Flow} {e e' : Execution} {sent : List Sending} {k : Nat} {n m : Node}

theorem Execution.Mailed.quiet (h : e.Mailed f sent k) (hn : f.station e.subject k = some n)
    (hquiet : n.message? = none) : e.Mailed f sent (k + 1) := by
  unfold Execution.Mailed at h ⊢
  rw [Flow.walk_succ hn, List.filterMap_append, List.filterMap_cons_none hquiet,
    List.filterMap_nil, List.append_nil]
  exact h

theorem Execution.Mailed.send {message : String} (h : e.Mailed f sent k)
    (hn : f.station e.subject k = some n) (hmessage : n.message? = some message) :
    e.Mailed f (sent ++ [⟨e.id, e.subject, message⟩]) (k + 1) := by
  unfold Execution.Mailed at h ⊢
  rw [Flow.walk_succ hn, List.filter_append, h, List.filterMap_append,
    List.filterMap_cons_some hmessage, List.filterMap_nil, List.map_append, List.map_singleton,
    List.filter_cons_of_pos (by simp), List.filter_nil]

/-- A message for another execution does not count. -/
theorem Execution.Mailed.other {later : List Sending} (h : e.Mailed f sent k)
    (hlater : ∀ x ∈ later, x.executionId ≠ e.id) : e.Mailed f (sent ++ later) k := by
  unfold Execution.Mailed at h ⊢
  have hnone : later.filter (fun x => x.executionId = e.id) = [] :=
    List.filter_eq_nil_iff.mpr fun x hx => by simpa using hlater x hx
  rw [List.filter_append, h, hnone, List.append_nil]

theorem Execution.Logged.success {kept : Moment → Moment} {entry : LogEntry} (h : e.Logged f k)
    (hn : f.station e.subject k = some n) (hid : entry.nodeId = n.id) (herror : entry.error = none) :
    (e.noted kept entry).Logged f (k + 1) := by
  have hone : [entry.keep kept].filter (fun entry => entry.error.isNone) = [entry.keep kept] := by
    simp [LogEntry.keep, herror]
  show ((e.log ++ [entry.keep kept]).filter _).map _ = (f.walk e.subject (k + 1)).map Node.id
  rw [Flow.walk_succ hn, List.filter_append, hone, List.map_append, List.map_append, h]
  exact congrArg (fun id => _ ++ [id]) hid

theorem Execution.Logged.failure {kept : Moment → Moment} {entry : LogEntry} (h : e.Logged f k)
    (herror : entry.error.isSome = true) : (e.noted kept entry).Logged f k := by
  have hnone : [entry.keep kept].filter (fun entry => entry.error.isNone) = [] := by
    obtain ⟨error, herror⟩ := Option.isSome_iff_exists.mp herror
    simp [LogEntry.keep, herror]
  show ((e.log ++ [entry.keep kept]).filter _).map _ = _
  rw [List.filter_append, hnone, List.append_nil]
  exact h

/-- A record that is not completed is settled where the walk has a station left. -/
theorem settled_of_station (hlogged : e.Logged f k) (hmailed : e.Mailed f sent k)
    (hn : f.station e.subject k = some n) (hopen : e.status ≠ .completed) : Settled f e sent := by
  refine ⟨k, hlogged, hmailed, fun h => absurd h hopen, ?_⟩
  rintro ⟨m, hm, hkind⟩
  exact absurd hkind (Flow.kind_ne_finish_of_mem_walk hn m hm)

/-- **A task that is not within a step** stands at a settled record. -/
theorem Stands.settled {ν : Type} [Notifier ν] {stage : Stage} (h : Stands ν f e sent stage)
    (hstage : stage.isWithinStep = false) (hopen : e.status ≠ .completed) : Settled f e sent := by
  cases h with
  | enterFirst n hn hnode hlogged hmailed => exact settled_of_station hlogged hmailed hn hopen
  | enterAgain k n hn hnode hlogged hmailed => exact settled_of_station hlogged hmailed hn hopen
  | arrive k n hn hlogged hmailed => exact settled_of_station hlogged hmailed hn hopen
  | act k n hn hlogged hmailed => exact settled_of_station hlogged hmailed hn hopen
  | note => cases hstage
  | settle => cases hstage
  | failing k n error hn hfails hlogged hmailed => exact settled_of_station hlogged hmailed hn hopen
  | closing k n hn hlast hlogged hmailed => exact settled_of_station hlogged hmailed hn hopen
  | leave k n m timer hn hm hlogged hmailed =>
    exact settled_of_station hlogged hmailed (Flow.station_succ hn hm) hopen

end

/-! ## 3. What is blamed -/

section

variable {ν : Type} [Notifier ν] {f : Flow} {e e' : Execution}

/-- The errors of a log stay what they are when other fields are written. -/
theorem Execution.Blamed.of_log (h : e.Blamed ν f) (hlog : e'.log = e.log)
    (hstatus : e'.status ≠ .failed) : e'.Blamed ν f :=
  ⟨hlog ▸ h.errors, fun hfailed => absurd hfailed hstatus⟩

theorem Execution.Blamed.success {kept : Moment → Moment} {entry : LogEntry} (h : e.Blamed ν f)
    (herror : entry.error = none) (hstatus : e.status ≠ .failed) : (e.noted kept entry).Blamed ν f where
  errors entry' hmem error herror' := by
    rcases List.mem_append.mp hmem with hmem | hmem
    · exact h.errors entry' hmem error herror'
    · rw [List.mem_singleton.mp hmem] at herror'
      cases herror.symm.trans herror'
  failed hfailed := absurd hfailed hstatus

theorem Execution.Blamed.failure {kept : Moment → Moment} {entry : LogEntry} {n : Node}
    {error : String} (h : e.Blamed ν f) (hn : n ∈ f.nodes) (hid : entry.nodeId = n.id)
    (herror : entry.error = some error) (hfails : n.FailsFor ν error) :
    (e.noted kept entry).Blamed ν f where
  errors entry' hmem error' herror' := by
    rcases List.mem_append.mp hmem with hmem | hmem
    · exact h.errors entry' hmem error' herror'
    · rw [List.mem_singleton.mp hmem] at herror' ⊢
      cases herror.symm.trans herror'
      exact ⟨n, hn, hid, hfails⟩
  failed _ := by
    refine ⟨entry.keep kept, List.getLast?_concat, ?_⟩
    show entry.error.isSome = true
    rw [herror]
    rfl

end

/-! ## 4. One stage -/

/-- Where a record stands after a stage of the task that holds it. -/
structure After (ν : Type) [Notifier ν] (f : Flow) (e : Execution) (sent : List Sending)
    (next : Runner.Next) : Prop where
  stands : ∀ stage, next = .stage stage → Stands ν f e sent stage
  settled : ∀ result, next = .done result → Settled f e sent
  waits : e.isSuspended = true → Waits f e sent
  blamed : e.Blamed ν f
  faults : ∀ fault, next = .done (.error fault) → ∃ a, fault = .arithmetic a

section

variable {ν : Type} [Notifier ν] {f : Flow} {e : Execution} {sent : List Sending}

/-- The task goes on at a stage, and the record is not suspended. -/
theorem after_stage {stage : Stage} (hstands : Stands ν f e sent stage)
    (hawake : e.isSuspended = false) (hblamed : e.Blamed ν f) :
    After ν f e sent (.stage stage) where
  stands _ h := by
    cases h
    exact hstands
  settled _ h := nomatch h
  waits h := by
    rw [hawake] at h
    cases h
  blamed := hblamed
  faults _ h := nomatch h

/-- The task is done, and the record is not suspended. -/
theorem after_done {found : Option Execution} (hsettled : Settled f e sent)
    (hawake : e.isSuspended = false) (hblamed : e.Blamed ν f) :
    After ν f e sent (.done (.ok found)) where
  stands _ h := nomatch h
  settled _ _ := hsettled
  waits h := by
    rw [hawake] at h
    cases h
  blamed := hblamed
  faults _ h := nomatch h

theorem isSuspended_of_status (h : e.status ≠ .pending) : e.isSuspended = false := by
  unfold Execution.isSuspended
  rw [decide_eq_false h, Bool.false_and]

end

namespace Runner

variable {α ε ν : Type} [AutomationStorage α] [ExecutionStorage ε] [Notifier ν]
  [LawfulExecutions ε] {r : Runner α ε ν} {id : String} {setup : Setup} {e e' : Execution}
  {stage : Stage} {next : Next} {out : Option Sending} {f : Flow} {sent : List Sending} {k : Nat}
  {n : Node}

/-- The interpreter reads the record: it goes where the record stands, or to the start. -/
theorem Turn.follows_enter {accepted : Moment} {a : Automation} (hwf : f.IsWellFormed accepted)
    (hstored : AutomationStorage.get r.automations e.automationId = .ok (some a)) (hflow : a.flow = f)
    (h : Turn r e.id setup e .enter e' next out) (hfits : e.Fits .interpreting)
    (hstands : Stands ν f e sent .enter) (hblamed : e.Blamed ν f) :
    After ν f e' (sent ++ out.toList) next := by
  have hawake := hfits.not_suspended
  cases h with
  | enterUnread fault hget => rw [hstored] at hget; cases hget
  | enterGone hget => rw [hstored] at hget; cases hget
  | enterAgain b nodeId hget hnode =>
    rw [hstored] at hget
    cases hget
    rw [hflow, Option.toList_none, List.append_nil]
    cases hstands with
    | enterFirst n hn hnone => rw [hnone] at hnode; cases hnode
    | enterAgain k n hn hnode' hlogged hmailed =>
      rw [hnode] at hnode'
      cases hnode'
      exact after_stage (.arrive k n hn hlogged hmailed) hawake hblamed
  | enterFirst b start hget hnode hstart =>
    rw [hstored] at hget
    cases hget
    rw [hflow, Flow.start?_eq_station hwf] at hstart
    rw [hflow, Option.toList_none, List.append_nil]
    cases hstands with
    | enterFirst n hn hnone hlogged hmailed =>
      exact after_stage (.arrive 0 start hstart hlogged hmailed) hawake hblamed
    | enterAgain k n hn hnode' => rw [hnode] at hnode'; cases hnode'
  | enterNowhere b hget hnode hstart =>
    rw [hstored] at hget
    cases hget
    obtain ⟨start, hfirst⟩ := Flow.station_zero_of_isWellFormed hwf e.subject
    rw [hflow, Flow.start?_eq_station hwf, hfirst] at hstart
    cases hstart

/-- The step of a node: a result that keeps to the walk, or a failure that is left. -/
theorem Turn.follows_act {accepted : Moment} (hwf : f.IsWellFormed accepted)
    (hn : f.station e.subject k = some n)
    (h : Turn r e.id setup e (.act ⟨e.id, e.subject, .ofFlow f⟩ n) e' next out)
    (hfits : e.Fits .interpreting) (hlogged : e.Logged f k) (hmailed : e.Mailed f sent k)
    (hblamed : e.Blamed ν f) : After ν f e' (sent ++ out.toList) next := by
  have hawake := hfits.not_suspended
  have hplans := Flow.plan_ofFlow hwf (Flow.mem_of_station hn) e.subject r.clock
  cases h with
  | actFault _ _ fault hplan =>
    rcases hplans with ⟨plan, hok, _⟩ | ⟨a, herror, hmis⟩
    · cases hok.symm.trans hplan
    · cases herror.symm.trans hplan
      rw [Option.toList_none, List.append_nil]
      exact after_stage (.failing k n _ hn (.miscalculated _ a hmis) hlogged hmailed) hawake hblamed
  | actSettled _ _ result hplan =>
    rw [Option.toList_none, List.append_nil]
    rcases hplans with ⟨plan, hok, hplans⟩ | ⟨a, herror, _⟩
    · cases hok.symm.trans hplan
      cases hplans with
      | proceed text m hm hquiet =>
        exact after_stage (.note k n _ hn ⟨m, hm, rfl⟩ hlogged (hmailed.quiet hn hquiet)) hawake hblamed
      | suspend text due m hm hk =>
        have hquiet : n.message? = none := by
          unfold Node.message?
          rw [hk]
        exact after_stage (.note k n _ hn ⟨hk, m, hm⟩ hlogged (hmailed.quiet hn hquiet)) hawake hblamed
      | finish text hk =>
        have hquiet : n.message? = none := by
          unfold Node.message?
          rw [hk]
        exact after_stage (.note k n _ hn hk hlogged (hmailed.quiet hn hquiet)) hawake hblamed
    · cases herror.symm.trans hplan
  | actUndelivered _ _ message nextId fault hplan hanswer =>
    rcases hplans with ⟨plan, hok, hplans⟩ | ⟨a, herror, _⟩
    · cases hok.symm.trans hplan
      cases hplans with
      | deliver message m hm hmessage =>
        rw [Option.toList_none, List.append_nil]
        exact after_stage (.failing k n _ hn (.undelivered _ _ _ _ fault hmessage hanswer) hlogged
          hmailed) hawake hblamed
    · cases herror.symm.trans hplan
  | actDelivered _ _ message nextId deliveryId hplan hanswer =>
    rcases hplans with ⟨plan, hok, hplans⟩ | ⟨a, herror, _⟩
    · cases hok.symm.trans hplan
      cases hplans with
      | deliver message m hm hmessage =>
        exact after_stage (.note k n _ hn ⟨m, hm, rfl⟩ hlogged (hmailed.send hn hmessage)) hawake hblamed
    · cases herror.symm.trans hplan

/-- The result of a step takes effect: it goes on, waits, or ends the walk. -/
theorem Turn.follows_settle {result : StepResult} (hn : f.station e.subject k = some n)
    (h : Turn r e.id setup e (.settle ⟨e.id, e.subject, .ofFlow f⟩ n result) e' next out)
    (hfits : e.Fits .interpreting) (hkeeps : f.Keeps e.subject n result)
    (hlogged : e.Logged f (k + 1)) (hmailed : e.Mailed f sent (k + 1)) (hblamed : e.Blamed ν f) :
    After ν f e' (sent ++ out.toList) next := by
  cases h with
  | settleProceed _ _ message nextId =>
    obtain ⟨m, hm, rfl⟩ := hkeeps
    rw [Option.toList_none, List.append_nil]
    exact after_stage (.arrive (k + 1) m (Flow.station_succ hn hm) hlogged hmailed)
      hfits.not_suspended hblamed
  | settleStuck => exact hkeeps.elim
  | settleSuspend _ _ message due result hresult =>
    obtain ⟨hkind, m, hm⟩ := hkeeps
    rw [Option.toList_none, List.append_nil]
    have hpending : Status.pending ≠ .failed := by decide
    have hstation := Flow.station_succ hn hm
    exact {
      stands := fun _ h => nomatch h
      settled := fun _ _ => settled_of_station (k := k + 1) hlogged hmailed hstation
        (show Status.pending ≠ .completed by decide)
      waits := fun _ => ⟨k, n, m, hn, hkind, hm, rfl, hlogged, hmailed⟩
      blamed := hblamed.of_log rfl hpending
      faults := fun fault h => hresult fault (Next.done.inj h) }
  | settleFinish _ _ message found =>
    rw [Option.toList_none, List.append_nil]
    have hmem : n ∈ f.walk e.subject (k + 1) := by
      rw [Flow.walk_succ hn]
      exact List.mem_append_right _ (List.mem_singleton_self n)
    exact after_done ⟨k + 1, hlogged, hmailed, fun _ => ⟨n, hmem, hkeeps⟩, fun _ => rfl⟩
      (isSuspended_of_status (show Status.completed ≠ .pending by decide))
      (hblamed.of_log rfl (show Status.completed ≠ .failed by decide))

/-- **One stage of a task that holds its record** leads from one position in the walk to the next, for
    as long as the automation has the flow that was accepted. -/
theorem Turn.follows {accepted : Moment} {a : Automation} (hwf : f.IsWellFormed accepted)
    (hstored : AutomationStorage.get r.automations e.automationId = .ok (some a)) (hflow : a.flow = f)
    (h : Turn r e.id setup e stage e' next out) (hfits : e.Fits stage.role)
    (hstands : Stands ν f e sent stage) (hblamed : e.Blamed ν f) :
    After ν f e' (sent ++ out.toList) next := by
  cases hstands with
  | enterFirst n hn hnode hlogged hmailed =>
    exact h.follows_enter hwf hstored hflow hfits (.enterFirst n hn hnode hlogged hmailed) hblamed
  | enterAgain k n hn hnode hlogged hmailed =>
    exact h.follows_enter hwf hstored hflow hfits (.enterAgain k n hn hnode hlogged hmailed) hblamed
  | arrive k n hn hlogged hmailed =>
    have hnode := Flow.node?_of_mem hwf (Flow.mem_of_station hn)
    cases h with
    | arriveNowhere _ _ hnone => cases hnode.symm.trans hnone
    | arrive _ _ node hnode' =>
      cases hnode.symm.trans hnode'
      rw [Option.toList_none, List.append_nil]
      exact after_stage (.act k n hn hlogged hmailed)
        (isSuspended_of_status (show Status.running ≠ .pending by decide))
        (hblamed.of_log rfl (show Status.running ≠ .failed by decide))
  | act k n hn hlogged hmailed => exact h.follows_act hwf hn hfits hlogged hmailed hblamed
  | note k n result hn hkeeps hlogged hmailed =>
    cases h
    rw [Option.toList_none, List.append_nil]
    exact after_stage (.settle k n result hn hkeeps (hlogged.success hn rfl rfl) hmailed)
      hfits.not_suspended (hblamed.success rfl fun hfailed => hfits.1 (.inr hfailed))
  | settle k n result hn hkeeps hlogged hmailed =>
    exact h.follows_settle hn hfits hkeeps hlogged hmailed hblamed
  | failing k n error hn hfails hlogged hmailed =>
    cases h
    rw [Option.toList_none, List.append_nil]
    exact after_stage
      (.closing k n hn ⟨_, List.getLast?_concat, rfl⟩ (hlogged.failure rfl) hmailed)
      hfits.not_suspended (hblamed.failure (Flow.mem_of_station hn) rfl rfl hfails)
  | closing k n hn hlast hlogged hmailed =>
    cases h
    rw [Option.toList_none, List.append_nil]
    exact after_done
      (settled_of_station (k := k) hlogged hmailed hn (show Status.failed ≠ .completed by decide))
      (isSuspended_of_status (show Status.failed ≠ .pending by decide))
      ⟨hblamed.errors, fun _ => hlast⟩
  | leave k n m timer hn hm hlogged hmailed =>
    cases h
    rw [Option.toList_none, List.append_nil]
    have hpending := (Execution.isSuspended_iff.mp hfits).1
    have hawake : Execution.isSuspended { e with currentNode := some m.id, scheduledFor := none } =
        false := by
      unfold Execution.isSuspended
      exact Bool.and_false _
    have hfailed : e.status ≠ .failed := by
      rw [hpending]
      decide
    exact after_stage
      (.enterAgain (k + 1) m (Flow.station_succ hn hm) rfl hlogged hmailed) hawake
      (hblamed.of_log rfl hfailed)

/-- **A resumption of a record that waits in the walk** finds the way past the delay, if it goes on at
    all, and never gets lost. -/
theorem Turn.follows_wake {a : Automation}
    (hstored : AutomationStorage.get r.automations e.automationId = .ok (some a)) (hflow : a.flow = f)
    (h : Turn r e.id setup e .wake e' next out) (hwaits : e.isSuspended = true → Waits f e sent) :
    e' = e ∧ out = none ∧ (next = .done (.ok none) ∨
      ∃ stage, next = .stage stage ∧ Stands ν f e sent stage) := by
  cases h with
  | wakeStale => exact ⟨rfl, rfl, .inl rfl⟩
  | wakeUnread fault hsuspended hget => rw [hstored] at hget; cases hget
  | wakeGone timer hsuspended hget => rw [hstored] at hget; cases hget
  | wake b target timer hsuspended hget htarget =>
    rw [hstored] at hget
    cases hget
    obtain ⟨k, n, m, hn, hkind, hm, hnode, hlogged, hmailed⟩ := hwaits hsuspended
    rw [hnode, hflow, Option.bind_some,
      Flow.successor?_of_follow hm (by rw [hkind]; exact nofun)] at htarget
    cases htarget
    exact ⟨rfl, rfl, .inr ⟨_, rfl, .leave k n m timer hn hm hlogged hmailed⟩⟩
  | wakeNowhere b timer hsuspended hget htarget =>
    rw [hstored] at hget
    cases hget
    obtain ⟨k, n, m, hn, hkind, hm, hnode, _⟩ := hwaits hsuspended
    rw [hnode, hflow, Option.bind_some,
      Flow.successor?_of_follow hm (by rw [hkind]; exact nofun)] at htarget
    cases htarget

end Runner

end Dripline
