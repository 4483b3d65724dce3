import Dripline.Store.Table
import Dripline.Delivery.Outbox
import Dripline.Proofs.Run.Session
import Dripline.Proofs.Store.Ids

/-!
# The life of a record

No write sets all fields of a record, so what its fields say together hangs on the order of writes:

* `Execution.IsOrderly`: a record is closed when its status is final, and scheduled only while it is
  pending at a node;
* `Execution.Remains`, `Execution.Continues`: a later state of a record has a longer log and the same
  identity, and a final record does not change any more;
* `Execution.Fits`: what the role of a task says about the record that it holds;
* `Turn.remains`, `Turn.keeps`: one stage of a task, and of one that fits its record, way by way;
* `Session.IsSound`, `isSound_apply`: what every event keeps. The store is in order, tasks and messages
  are of executions that are there, and no record loses its identity or its log;
* `Session.IsOrderly`, `isOrderly_apply`: what every event without a race keeps. No execution is held by
  two tasks, and every task that holds one fits its record;
* `passes_of_not_go`, `queue_of_not_go`: only turns send messages and write records, and what else can be
  queued; `automations_of_not_author`, `missing_of_not_start`: only authoring changes automations, and
  only a start makes a record;
* **`records_orderly_throughout`**: every record in every run, write by write, and in the runs without
  races no final record is touched; **`race_reopens_completed`**: a race that touches one.

Nothing is assumed about automations: they may be edited or deleted between any two stages.
-/

namespace Dripline

/-! ## 1. Records -/

/-- A record whose fields agree with each other. -/
structure Execution.IsOrderly (e : Execution) : Prop where
  closed : e.completedAt.isSome = true ↔ e.status = .completed ∨ e.status = .failed
  scheduled : e.scheduledFor.isSome = true → e.status = .pending ∧ e.currentNode.isSome = true

/-- The same record later on: what identifies it stays, and its log only grows. -/
structure Execution.Remains (e' e : Execution) : Prop where
  id : e'.id = e.id
  automationId : e'.automationId = e.automationId
  subject : e'.subject = e.subject
  createdAt : e'.createdAt = e.createdAt
  log : e.log <+: e'.log

/-- A later state of a record, which stays as it is once it is final. -/
structure Execution.Continues (e' e : Execution) : Prop extends e'.Remains e where
  final : e.status = .completed ∨ e.status = .failed → e' = e

/-- What the role of a task says about the record that it holds. -/
def Execution.Fits (e : Execution) : Role → Prop
  | .waking => True
  | .resuming => e.isSuspended = true
  | .interpreting => ¬ (e.status = .completed ∨ e.status = .failed) ∧ e.scheduledFor = none

namespace Execution

variable {e e' : Execution}

theorem isSuspended_iff : e.isSuspended = true ↔ e.status = .pending ∧ e.scheduledFor.isSome = true := by
  unfold isSuspended
  rw [Bool.and_eq_true, decide_eq_true_eq]

theorem pending_not_final (h : e.status = .pending) : ¬ (e.status = .completed ∨ e.status = .failed) := by
  rw [h]
  decide

theorem Fits.not_final {role : Role} (h : e.Fits role) (hrole : role ≠ .waking) :
    ¬ (e.status = .completed ∨ e.status = .failed) := by
  cases role with
  | waking => exact absurd rfl hrole
  | resuming => exact pending_not_final (isSuspended_iff.mp h).1
  | interpreting => exact h.1

/-- No record fits both a task that interprets and one that is on the way past a delay. -/
theorem Fits.not_suspended (h : e.Fits .interpreting) : e.isSuspended = false := by
  unfold isSuspended
  rw [h.2]
  exact Bool.and_false _

theorem Remains.same (e : Execution) : e.Remains e :=
  ⟨rfl, rfl, rfl, rfl, List.prefix_refl _⟩

theorem Remains.trans {e'' : Execution} (h : e''.Remains e') (h' : e'.Remains e) : e''.Remains e where
  id := h.id.trans h'.id
  automationId := h.automationId.trans h'.automationId
  subject := h.subject.trans h'.subject
  createdAt := h.createdAt.trans h'.createdAt
  log := h'.log.trans h.log

theorem Continues.same (e : Execution) : e.Continues e := ⟨.same e, fun _ => rfl⟩

theorem Continues.trans {e'' : Execution} (h : e''.Continues e') (h' : e'.Continues e) :
    e''.Continues e where
  toRemains := h.toRemains.trans h'.toRemains
  final hfinal := by
    have heq := h'.final hfinal
    exact (h.final (by rw [heq]; exact hfinal)).trans heq

/-- One more entry in the log of a record that is not final. -/
theorem continues_noted (hopen : ¬ (e.status = .completed ∨ e.status = .failed))
    (kept : Moment → Moment) (entry : LogEntry) : (e.noted kept entry).Continues e :=
  ⟨⟨rfl, rfl, rfl, rfl, List.prefix_append _ _⟩, fun h => absurd h hopen⟩

theorem IsOrderly.noted (h : e.IsOrderly) (kept : Moment → Moment) (entry : LogEntry) :
    (e.noted kept entry).IsOrderly := ⟨h.closed, h.scheduled⟩

theorem IsOrderly.completedAt_eq_none (h : e.IsOrderly)
    (hopen : ¬ (e.status = .completed ∨ e.status = .failed)) : e.completedAt = none :=
  Option.not_isSome_iff_eq_none.mp (mt h.closed.mp hopen)

/-- A record that is not final and not closed. -/
theorem isOrderly_of_open (hopen : ¬ (e.status = .completed ∨ e.status = .failed))
    (hdone : e.completedAt = none)
    (hscheduled : e.scheduledFor.isSome = true → e.status = .pending ∧ e.currentNode.isSome = true) :
    e.IsOrderly where
  closed := by
    rw [hdone]
    exact ⟨nofun, fun h => absurd h hopen⟩
  scheduled := hscheduled

/-- A record that is not final continues with other fields and the same log. -/
theorem continues_of_open (hopen : ¬ (e.status = .completed ∨ e.status = .failed)) (status : Status)
    (currentNode : Option String) (scheduledFor completedAt : Option Moment) :
    Continues { e with
      status := status
      currentNode := currentNode
      scheduledFor := scheduledFor
      completedAt := completedAt } e :=
  ⟨⟨rfl, rfl, rfl, rfl, List.prefix_refl _⟩, fun h => absurd h hopen⟩

end Execution

/-! ## 2. One stage -/

namespace Runner

variable {α ε ν : Type} [AutomationStorage α] [ExecutionStorage ε] [Notifier ν]
  [LawfulExecutions ε] {r : Runner α ε ν} {id : String} {setup : Setup} {e e' : Execution}
  {stage : Stage} {next : Next} {sent : Option Sending}

/-- A resumption that begins writes nothing. -/
theorem Turn.eq_of_waking (h : Turn r id setup e stage e' next sent)
    (hrole : stage.role = .waking) : e' = e := by
  cases h <;> first | rfl | cases hrole

theorem keeps_stage {stage' : Stage} (ho : e'.IsOrderly) (hc : e'.Continues e)
    (hrole : stage'.role ≠ .waking) (hfits : e'.Fits stage'.role) :
    e'.IsOrderly ∧ e'.Continues e ∧
      ∀ next, Next.stage stage' = .stage next → next.role ≠ .waking ∧ e'.Fits next.role :=
  ⟨ho, hc, by rintro _ ⟨rfl⟩; exact ⟨hrole, hfits⟩⟩

theorem keeps_done {result : TaskResult} (ho : e'.IsOrderly) (hc : e'.Continues e) :
    e'.IsOrderly ∧ e'.Continues e ∧
      ∀ next, Next.done result = .stage next → next.role ≠ .waking ∧ e'.Fits next.role :=
  ⟨ho, hc, fun _ h => nomatch h⟩

/-- **What one stage keeps** when the record fits the role of the task: the record stays orderly, it
    continues the one before, and it fits the role of the next stage, which is past waking. -/
theorem Turn.keeps (h : Turn r id setup e stage e' next sent) (ho : e.IsOrderly)
    (hfits : e.Fits stage.role) :
    e'.IsOrderly ∧ e'.Continues e ∧
      ∀ stage', next = .stage stage' → stage'.role ≠ .waking ∧ e'.Fits stage'.role := by
  have hsame := Execution.Continues.same e
  cases h with
  | enterUnread => exact keeps_done ho hsame
  | enterGone => exact keeps_stage ho hsame nofun hfits
  | enterAgain => exact keeps_stage ho hsame nofun hfits
  | enterFirst => exact keeps_stage ho hsame nofun hfits
  | enterNowhere => exact keeps_stage ho hsame nofun hfits
  | arriveNowhere => exact keeps_stage ho hsame nofun hfits
  | arrive walk nodeId node hnode =>
    obtain ⟨hopen, hnone⟩ := hfits
    have hstatus : ¬ (Status.running = .completed ∨ Status.running = .failed) := by decide
    exact keeps_stage
      (Execution.isOrderly_of_open hstatus (ho.completedAt_eq_none hopen) (by rw [hnone]; exact nofun))
      (Execution.continues_of_open hopen _ _ _ _) nofun ⟨hstatus, hnone⟩
  | actFault => exact keeps_stage ho hsame nofun hfits
  | actSettled => exact keeps_stage ho hsame nofun hfits
  | actUndelivered => exact keeps_stage ho hsame nofun hfits
  | actDelivered => exact keeps_stage ho hsame nofun hfits
  | note => exact keeps_stage (ho.noted _ _) (Execution.continues_noted hfits.1 _ _) nofun hfits
  | settleProceed => exact keeps_stage ho hsame nofun hfits
  | settleStuck => exact keeps_stage ho hsame nofun hfits
  | settleSuspend walk node message due result hresult =>
    exact keeps_done
      (Execution.isOrderly_of_open (Execution.pending_not_final rfl)
        (ho.completedAt_eq_none hfits.1) fun _ => ⟨rfl, rfl⟩)
      (Execution.continues_of_open hfits.1 _ _ _ _)
  | settleFinish walk node message found =>
    refine keeps_done ⟨⟨fun _ => .inl rfl, fun _ => rfl⟩, ?_⟩
      (Execution.continues_of_open hfits.1 _ _ _ _)
    rw [hfits.2]
    exact nofun
  | failingQuiet => exact keeps_stage ho hsame nofun hfits
  | failing => exact keeps_stage (ho.noted _ _) (Execution.continues_noted hfits.1 _ _) nofun hfits
  | closing =>
    exact keeps_done ⟨⟨fun _ => .inr rfl, fun _ => rfl⟩, nofun⟩
      (Execution.continues_of_open hfits.1 _ _ _ _)
  | wakeStale => exact keeps_done ho hsame
  | wakeUnread => exact keeps_done ho hsame
  | wakeGone timer hsuspended => exact keeps_stage ho hsame nofun hsuspended
  | wake a target timer hsuspended => exact keeps_stage ho hsame nofun hsuspended
  | wakeNowhere a timer hsuspended => exact keeps_stage ho hsame nofun hsuspended
  | lost =>
    exact keeps_stage (ho.noted _ _) (Execution.continues_noted (hfits.not_final nofun) _ _) nofun hfits
  | lostClosing =>
    exact keeps_done ⟨⟨fun _ => .inr rfl, fun _ => rfl⟩, nofun⟩
      (Execution.continues_of_open (hfits.not_final nofun) _ _ _ _)
  | leave target timer =>
    have hopen := hfits.not_final (e := e) nofun
    exact keeps_stage ⟨ho.closed, nofun⟩ (Execution.continues_of_open hopen _ _ _ _) nofun ⟨hopen, rfl⟩

/-- **What every stage keeps**, whatever its record looks like. -/
theorem Turn.remains (h : Turn r id setup e stage e' next sent) : e'.Remains e := by
  cases h with
  | note => exact ⟨rfl, rfl, rfl, rfl, List.prefix_append _ _⟩
  | failing => exact ⟨rfl, rfl, rfl, rfl, List.prefix_append _ _⟩
  | lost => exact ⟨rfl, rfl, rfl, rfl, List.prefix_append _ _⟩
  | _ => exact ⟨rfl, rfl, rfl, rfl, List.prefix_refl _⟩

/-- A resumption goes on only for a suspended record. -/
theorem Turn.suspended_of_waking {stage' : Stage}
    (h : Turn r id setup e stage e' (.stage stage') sent) (hrole : stage.role = .waking) :
    e.isSuspended = true := by
  cases h <;> first | assumption | cases hrole

/-- What a stage sends belongs to the execution of its task. -/
theorem Turn.executionId_of_sent {x : Sending} (h : Turn r id setup e stage e' next (some x)) :
    x.executionId = id := by
  cases h
  rfl

end Runner

/-! ## 3. Sessions -/

namespace Session

variable {α ε ν : Type} [ExecutionStorage ε] [LawfulExecutions ε] {s s' : Session α ε ν}

/-- What holds of every session: the store is in order and all its ids were given, and the tasks that may
    write and the messages are of executions that are there. -/
structure IsSound (s : Session α ε ν) : Prop where
  sound : LawfulExecutions.Sound s.runner.executions
  given : ∀ id e, ExecutionStorage.get s.runner.executions id = some e → s.runner.ids.HasGiven id
  found : ∀ t ∈ s.runner.queue, t.Holds →
    ∃ e, ExecutionStorage.get s.runner.executions t.executionId = some e
  sent : ∀ x ∈ s.sent, ∃ e, ExecutionStorage.get s.runner.executions x.executionId = some e

/-- **The invariant of a session without races**: its records are orderly, no execution is held by two
    tasks, and a task that holds one fits its record. -/
structure IsOrderly (s : Session α ε ν) : Prop extends s.IsSound where
  records : ∀ id e, ExecutionStorage.get s.runner.executions id = some e → e.IsOrderly
  apart : s.runner.queue.Pairwise Task.Apart
  fits : ∀ t ∈ s.runner.queue, ∀ e,
    ExecutionStorage.get s.runner.executions t.executionId = some e → e.Fits t.stage.role

/-- Every record of one session is there in a later one. -/
def Retains (s' s : Session α ε ν) : Prop :=
  ∀ id e, ExecutionStorage.get s.runner.executions id = some e →
    ∃ e', ExecutionStorage.get s'.runner.executions id = some e' ∧ e'.Remains e

/-- Every record of one session goes on in a later one. -/
def Extends (s' s : Session α ε ν) : Prop :=
  ∀ id e, ExecutionStorage.get s.runner.executions id = some e →
    ∃ e', ExecutionStorage.get s'.runner.executions id = some e' ∧ e'.Continues e

theorem isOrderly_opened (automations : α) (notifier : ν) (clock : Moment) (ids : Ids)
    (previewChars recentLimit : Int) :
    IsOrderly (opened (ε := ε) automations notifier clock ids previewChars recentLimit) where
  sound := LawfulExecutions.sound_blank
  given id e h := by
    rw [opened, LawfulExecutions.get_blank] at h
    cases h
  records id e h := by
    rw [opened, LawfulExecutions.get_blank] at h
    cases h
  apart := List.Pairwise.nil
  found t ht := absurd ht List.not_mem_nil
  fits t ht := absurd ht List.not_mem_nil
  sent x hx := absurd hx List.not_mem_nil

theorem IsSound.free (h : s.IsSound) :
    ExecutionStorage.get s.runner.executions s.runner.ids.next.1 = none := by
  cases hget : ExecutionStorage.get s.runner.executions s.runner.ids.next.1 with
  | none => rfl
  | some e => exact absurd (h.given _ e hget) s.runner.ids.next_not_given

theorem IsSound.exists_of_held (h : s.IsSound) {t : Task} (ht : t ∈ s.runner.queue)
    (hholds : t.Holds) :
    ∃ e, ExecutionStorage.get s.runner.executions t.executionId = some e := h.found t ht hholds

/-- A task that holds an execution fits its record. -/
theorem IsOrderly.held (h : s.IsOrderly) (t : Task) (ht : t ∈ s.runner.queue) (hholds : t.Holds) :
    ∃ e, ExecutionStorage.get s.runner.executions t.executionId = some e ∧ e.Fits t.stage.role := by
  obtain ⟨e, he⟩ := h.found t ht hholds
  exact ⟨e, he, h.fits t ht e he⟩

omit [LawfulExecutions ε] in
theorem Extends.of_executions (h : s'.runner.executions = s.runner.executions) : s'.Extends s :=
  fun _ e he => ⟨e, h ▸ he, .same e⟩

omit [LawfulExecutions ε] in
theorem Extends.retains (h : s'.Extends s) : s'.Retains s := fun id e he => by
  obtain ⟨e', he', hcont⟩ := h id e he
  exact ⟨e', he', hcont.toRemains⟩

omit [LawfulExecutions ε] in
theorem Retains.of_executions (h : s'.runner.executions = s.runner.executions) : s'.Retains s :=
  (Extends.of_executions h).retains

/-- Events that write no record keep a session sound when they add no task that holds one. -/
theorem IsSound.of_executions (h : s.IsSound)
    (hexecutions : s'.runner.executions = s.runner.executions)
    (hids : s.runner.ids.taken ≤ s'.runner.ids.taken) (hsent : s'.sent = s.sent)
    (hqueue : ∀ t ∈ s'.runner.queue, t.Holds → t ∈ s.runner.queue) : s'.IsSound where
  sound := hexecutions ▸ h.sound
  given id e he := (h.given id e (hexecutions ▸ he)).mono hids
  found t ht hholds := hexecutions ▸ h.found t (hqueue t ht hholds) hholds
  sent := by
    rw [hsent, hexecutions]
    exact h.sent

/-- Events that write no record keep the invariant when they add no task that holds one. -/
theorem IsOrderly.of_executions (h : s.IsOrderly)
    (hexecutions : s'.runner.executions = s.runner.executions)
    (hids : s.runner.ids.taken ≤ s'.runner.ids.taken) (hsent : s'.sent = s.sent)
    (hapart : s'.runner.queue.Pairwise Task.Apart)
    (hqueue : ∀ t ∈ s'.runner.queue, t.Holds → t ∈ s.runner.queue) : s'.IsOrderly where
  toIsSound := h.toIsSound.of_executions hexecutions hids hsent hqueue
  records id e he := h.records id e (hexecutions ▸ he)
  apart := hapart
  fits t ht e he := by
    by_cases hholds : t.Holds
    · exact h.fits t (hqueue t ht hholds) e (hexecutions ▸ he)
    · rw [not_not.mp hholds]
      trivial

omit [ExecutionStorage ε] [LawfulExecutions ε] in
/-- A resumption that is queued is no task that holds an execution. -/
theorem mem_of_waking {t t' : Task} (ht : t.stage.role = .waking)
    (hqueue : s'.runner.queue = s.runner.queue ++ [t]) (ht' : t' ∈ s'.runner.queue)
    (hholds : t'.Holds) : t' ∈ s.runner.queue := by
  rw [hqueue, List.mem_append, List.mem_singleton] at ht'
  rcases ht' with ht' | rfl
  · exact ht'
  · exact absurd ht hholds

/-- A resumption that is queued keeps a session sound. -/
theorem IsSound.of_waking (h : s.IsSound) {t : Task} (ht : t.stage.role = .waking)
    (hexecutions : s'.runner.executions = s.runner.executions) (hids : s'.runner.ids = s.runner.ids)
    (hsent : s'.sent = s.sent) (hqueue : s'.runner.queue = s.runner.queue ++ [t]) : s'.IsSound :=
  h.of_executions hexecutions (Nat.le_of_eq (by rw [hids])) hsent fun _ => mem_of_waking ht hqueue

/-- A resumption that is queued keeps the invariant. -/
theorem IsOrderly.of_waking (h : s.IsOrderly) {t : Task} (ht : t.stage.role = .waking)
    (hexecutions : s'.runner.executions = s.runner.executions) (hids : s'.runner.ids = s.runner.ids)
    (hsent : s'.sent = s.sent) (hqueue : s'.runner.queue = s.runner.queue ++ [t]) :
    s'.IsOrderly := by
  refine h.of_executions hexecutions (Nat.le_of_eq (by rw [hids])) hsent ?_
    fun _ => mem_of_waking ht hqueue
  rw [hqueue, List.pairwise_append]
  refine ⟨h.apart, List.pairwise_singleton _ _, fun t' _ u hu => ?_⟩
  rw [List.mem_singleton.mp hu]
  exact Task.apart_of_waking ht

/-- The records of a session are there, as they were, when an execution has begun. -/
theorem IsSound.kept_of_began (h : s.IsSound) {r : Runner α ε ν} {a : Automation} {address id : String}
    {e : Execution} (hbegan : s.runner.Began r (s.runner.newRecord a address))
    (he : ExecutionStorage.get s.runner.executions id = some e) :
    ExecutionStorage.get r.executions id = some e := by
  have hid : id ≠ s.runner.ids.next.1 := by
    rintro rfl
    rw [h.free] at he
    cases he
  exact (hbegan.revises.others id hid).trans he

theorem IsSound.of_began (h : s.IsSound) {r : Runner α ε ν} {a : Automation} {address : String}
    (hbegan : s.runner.Began r (s.runner.newRecord a address)) : IsSound ⟨r, s.sent⟩ where
  sound := hbegan.revises.sound
  given id e he := by
    show r.ids.HasGiven id
    rw [hbegan.ids]
    by_cases hid : id = s.runner.ids.next.1
    · exact ⟨s.runner.ids.taken, Nat.lt_succ_self _, hid⟩
    · exact (h.given id e ((hbegan.revises.others id hid).symm.trans he)).mono (Nat.le_succ _)
  found t ht hholds := by
    have ht' : t ∈ r.queue := ht
    rw [hbegan.queue, List.mem_append, List.mem_singleton] at ht'
    rcases ht' with ht' | rfl
    · obtain ⟨e, he⟩ := h.found t ht' hholds
      exact ⟨e, h.kept_of_began hbegan he⟩
    · exact ⟨_, hbegan.revises.own⟩
  sent x hx := by
    obtain ⟨e, he⟩ := h.sent x hx
    exact ⟨e, h.kept_of_began hbegan he⟩

theorem IsOrderly.of_began (h : s.IsOrderly) {r : Runner α ε ν} {a : Automation} {address : String}
    (hbegan : s.runner.Began r (s.runner.newRecord a address)) : IsOrderly ⟨r, s.sent⟩ where
  toIsSound := h.toIsSound.of_began hbegan
  records id e he := by
    by_cases hid : id = s.runner.ids.next.1
    · subst hid
      have hnew : s.runner.newRecord a address = e :=
        Option.some.inj (hbegan.revises.own.symm.trans he)
      rw [← hnew]
      exact Execution.isOrderly_of_open (Execution.pending_not_final rfl) rfl nofun
    · exact h.records id e ((hbegan.revises.others id hid).symm.trans he)
  apart := by
    show r.queue.Pairwise Task.Apart
    rw [hbegan.queue, List.pairwise_append]
    refine ⟨h.apart, List.pairwise_singleton _ _, fun t ht u hu hholds _ hid => ?_⟩
    rw [List.mem_singleton.mp hu] at hid
    obtain ⟨e, he⟩ := h.found t ht hholds
    rw [show t.executionId = s.runner.ids.next.1 from hid, h.free] at he
    cases he
  fits t ht e he := by
    have ht' : t ∈ r.queue := ht
    rw [hbegan.queue, List.mem_append, List.mem_singleton] at ht'
    rcases ht' with ht' | rfl
    · by_cases hholds : t.Holds
      · obtain ⟨e₀, he₀, hfits⟩ := h.held t ht' hholds
        cases (h.kept_of_began hbegan he₀).symm.trans he
        exact hfits
      · rw [not_not.mp hholds]
        trivial
    · cases hbegan.revises.own.symm.trans he
      exact ⟨Execution.pending_not_final rfl, rfl⟩

/-- A resumption that is dropped leaves a session that is sound. -/
theorem DropsWake.isSound {t : Task} {before after : List Task}
    (hdrop : s.DropsWake s' t before after) (h : s.IsSound) : s'.IsSound :=
  h.of_executions hdrop.executions (Nat.le_of_eq (by rw [hdrop.ids])) hdrop.sent
    fun _ ht' _ => hdrop.mem_of_queued ht'

/-- A resumption that is dropped leaves a session that is orderly. -/
theorem DropsWake.isOrderly {t : Task} {before after : List Task}
    (hdrop : s.DropsWake s' t before after) (h : s.IsOrderly) : s'.IsOrderly := by
  have happart := h.apart
  rw [hdrop.queue, List.pairwise_middle Task.Apart.symm, List.pairwise_cons] at happart
  exact h.of_executions hdrop.executions (Nat.le_of_eq (by rw [hdrop.ids])) hdrop.sent
    (hdrop.queued ▸ happart.2) fun t' ht' _ => hdrop.mem_of_queued ht'

/-- A new process over the same stores finds a sound session. -/
theorem IsSound.reopened (h : s.IsSound) : IsSound ⟨s.runner.reopened, s.sent⟩ :=
  h.of_executions rfl (Nat.le_refl _) rfl fun _ ht' => absurd ht' List.not_mem_nil

/-- A new process over the same stores finds an orderly session. -/
theorem IsOrderly.reopened (h : s.IsOrderly) : IsOrderly ⟨s.runner.reopened, s.sent⟩ :=
  h.of_executions rfl (Nat.le_refl _) rfl .nil fun _ ht' => absurd ht' List.not_mem_nil

/-! ## 4. Turns -/

variable [AutomationStorage α] [Notifier ν] {t t' : Task} {before after : List Task}
  {e e' : Execution}

namespace TakesTurn

theorem mem (hgo : s.TakesTurn s' t before after e e') : t ∈ s.runner.queue :=
  hgo.queue ▸ List.mem_append_right _ List.mem_cons_self

theorem mem_of_other (hgo : s.TakesTurn s' t before after e e') (ht' : t' ∈ before ++ after) :
    t' ∈ s.runner.queue := by
  rw [hgo.queue]
  rcases List.mem_append.mp ht' with ht' | ht'
  · exact List.mem_append_left _ ht'
  · exact List.mem_append_right _ (List.mem_cons_of_mem _ ht')

/-- A task after the turn is another one, or the one that took it, at its next stage. -/
theorem mem_queued (hgo : s.TakesTurn s' t before after e e') (ht' : t' ∈ s'.runner.queue) :
    t' ∈ before ++ after ∨
      ∃ stage, (s.runner.stepTask t).2 = .stage stage ∧ t' = { t with stage := stage } := by
  rcases hgo.queued with ⟨stage, hstage, hq⟩ | ⟨_, _, hq⟩
  · rw [hq, List.mem_append, List.mem_cons] at ht'
    rcases ht' with ht' | ht' | ht'
    · exact .inl (List.mem_append_left _ ht')
    · exact .inr ⟨stage, hstage, ht'⟩
    · exact .inl (List.mem_append_right _ ht')
  · exact .inl (hq ▸ ht')

/-- A task of another execution is queued after the turn when it was before. -/
theorem mem_iff_of_other (hgo : s.TakesTurn s' t before after e e')
    (hid : t'.executionId ≠ t.executionId) : t' ∈ s'.runner.queue ↔ t' ∈ s.runner.queue := by
  have hne : t' ≠ t := fun h => hid (h ▸ rfl)
  rw [hgo.queue, List.mem_append, List.mem_cons, or_iff_right hne]
  rcases hgo.queued with ⟨stage, _, hq⟩ | ⟨_, _, hq⟩
  · have hne' : t' ≠ { t with stage := stage } := fun h => hid (h ▸ rfl)
    rw [hq, List.mem_append, List.mem_cons, or_iff_right hne']
  · rw [hq, List.mem_append]

/-- The tasks that do not take the turn stay in the queue. -/
theorem mem_of_stayed (hgo : s.TakesTurn s' t before after e e') (ht' : t' ∈ before ++ after) :
    t' ∈ s'.runner.queue := by
  rw [List.mem_append] at ht'
  rcases hgo.queued with ⟨stage, _, hq⟩ | ⟨_, _, hq⟩
  · rw [hq, List.mem_append, List.mem_cons]
    exact ht'.imp_right .inr
  · rw [hq, List.mem_append]
    exact ht'

/-- A task before the turn is the one that takes it, or another one. -/
theorem eq_or_mem (hgo : s.TakesTurn s' t before after e e') (ht' : t' ∈ s.runner.queue) :
    t' = t ∨ t' ∈ before ++ after := by
  rw [hgo.queue, List.mem_append, List.mem_cons] at ht'
  rw [List.mem_append]
  exact or_left_comm.mp ht'

theorem apart (hgo : s.TakesTurn s' t before after e e') (h : s.IsOrderly) :
    (∀ t' ∈ before ++ after, t.Apart t') ∧ (before ++ after).Pairwise Task.Apart := by
  have happart := h.apart
  rw [hgo.queue, List.pairwise_middle Task.Apart.symm, List.pairwise_cons] at happart
  exact happart

theorem fits (hgo : s.TakesTurn s' t before after e e') (h : s.IsOrderly) : e.Fits t.stage.role :=
  h.fits t hgo.mem e hgo.found

theorem keeps (hgo : s.TakesTurn s' t before after e e') (h : s.IsOrderly) :
    e'.IsOrderly ∧ e'.Continues e ∧ ∀ stage, (s.runner.stepTask t).2 = .stage stage →
      stage.role ≠ .waking ∧ e'.Fits stage.role :=
  hgo.turn.keeps (h.records _ e hgo.found) (hgo.fits h)

/-- Another task that holds the same execution can only watch a resumption begin. -/
theorem same_of_other (hgo : s.TakesTurn s' t before after e e') (h : s.IsOrderly)
    (ht' : t' ∈ before ++ after) (hholds : t'.Holds) (hid : t'.executionId = t.executionId) :
    t.stage.role = .waking ∧ e' = e := by
  have hrole : t.stage.role = .waking :=
    not_not.mp fun hown => (hgo.apart h).1 t' ht' hown hholds hid.symm
  exact ⟨hrole, hgo.turn.eq_of_waking hrole⟩

/-- The tasks that do not take the turn find their records as they were. -/
theorem held_of_other (hgo : s.TakesTurn s' t before after e e') (h : s.IsOrderly)
    (ht' : t' ∈ before ++ after) (hholds : t'.Holds) :
    ∃ e₁, ExecutionStorage.get s.runner.executions t'.executionId = some e₁ ∧
      ExecutionStorage.get s'.runner.executions t'.executionId = some e₁ ∧
      e₁.Fits t'.stage.role := by
  obtain ⟨e₁, he₁, hfits⟩ := h.held t' (hgo.mem_of_other ht') hholds
  refine ⟨e₁, he₁, ?_, hfits⟩
  by_cases hid : t'.executionId = t.executionId
  · rw [hid, hgo.found] at he₁
    cases he₁
    rw [hid, hgo.revises.own, (hgo.same_of_other h ht' hholds hid).2]
  · exact (hgo.revises.others _ hid).trans he₁

theorem extend (hgo : s.TakesTurn s' t before after e e') (h : s.IsOrderly) : s'.Extends s := by
  intro id e₁ he₁
  by_cases hid : id = t.executionId
  · subst hid
    rw [hgo.found] at he₁
    cases he₁
    exact ⟨e', hgo.revises.own, (hgo.keeps h).2.1⟩
  · exact ⟨e₁, (hgo.revises.others id hid).trans he₁, .same e₁⟩

/-- Every record is there after a turn, whatever the task found. -/
theorem retain (hgo : s.TakesTurn s' t before after e e') : s'.Retains s := by
  intro id e₁ he₁
  by_cases hid : id = t.executionId
  · subst hid
    rw [hgo.found] at he₁
    cases he₁
    exact ⟨e', hgo.revises.own, hgo.turn.remains⟩
  · exact ⟨e₁, (hgo.revises.others id hid).trans he₁, .same e₁⟩

theorem isSound (hgo : s.TakesTurn s' t before after e e') (h : s.IsSound) : s'.IsSound where
  sound := hgo.revises.sound
  given id e₁ he₁ := by
    rw [hgo.ids]
    by_cases hid : id = t.executionId
    · exact hid ▸ h.given _ e hgo.found
    · exact h.given id e₁ ((hgo.revises.others id hid).symm.trans he₁)
  found t' ht' hholds := by
    rcases hgo.mem_queued ht' with ht' | ⟨stage, hstage, rfl⟩
    · obtain ⟨e₁, he₁⟩ := h.found t' (hgo.mem_of_other ht') hholds
      obtain ⟨e₂, he₂, _⟩ := hgo.retain _ e₁ he₁
      exact ⟨e₂, he₂⟩
    · exact ⟨e', hgo.revises.own⟩
  sent x hx := by
    rw [hgo.sent] at hx
    rcases List.mem_append.mp hx with hx | hx
    · obtain ⟨e₁, he₁⟩ := h.sent x hx
      obtain ⟨e₂, he₂, _⟩ := hgo.retain _ e₁ he₁
      exact ⟨e₂, he₂⟩
    · have hturn := hgo.turn
      rw [Option.mem_toList.mp hx] at hturn
      rw [hturn.executionId_of_sent]
      exact ⟨e', hgo.revises.own⟩

end TakesTurn

namespace GoesAlone

/-- **Nobody else holds the execution of a task that goes on.** When a resumption has just begun, its
    record is suspended: whoever else held it would be resuming, and then this task would race. -/
theorem apart_of_stage (hgo : s.GoesAlone s' t before after e e') (h : s.IsOrderly) {stage : Stage}
    (hstage : (s.runner.stepTask t).2 = .stage stage) (ht' : t' ∈ before ++ after)
    (hholds : t'.Holds) : t'.executionId ≠ t.executionId := by
  intro hid
  obtain ⟨hrole, -⟩ := hgo.same_of_other h ht' hholds hid
  have hturn := hgo.turn
  rw [hstage] at hturn
  have hsuspended := hturn.suspended_of_waking hrole
  obtain ⟨e₁, he₁, _, hfits⟩ := hgo.held_of_other h ht' hholds
  rw [hid, hgo.found] at he₁
  cases he₁
  cases hrole' : t'.stage.role with
  | waking => exact hholds hrole'
  | resuming =>
    exact Runner.races_eq_false_iff.mp hgo.alone hrole t' (hgo.mem_of_other ht') hid hrole'
  | interpreting =>
    rw [hrole'] at hfits
    rw [hfits.not_suspended] at hsuspended
    cases hsuspended

theorem isOrderly (hgo : s.GoesAlone s' t before after e e') (h : s.IsOrderly) : s'.IsOrderly where
  toIsSound := hgo.isSound h.toIsSound
  records id e₁ he₁ := by
    by_cases hid : id = t.executionId
    · subst hid
      rw [hgo.revises.own] at he₁
      cases he₁
      exact (hgo.keeps h).1
    · exact h.records id e₁ ((hgo.revises.others id hid).symm.trans he₁)
  apart := by
    rcases hgo.queued with ⟨stage, hstage, hq⟩ | ⟨_, _, hq⟩
    · rw [hq, List.pairwise_middle Task.Apart.symm, List.pairwise_cons]
      exact ⟨fun t' ht' _ hholds hid => hgo.apart_of_stage h hstage ht' hholds hid.symm,
        (hgo.apart h).2⟩
    · rw [hq]
      exact (hgo.apart h).2
  fits t' ht' e₁ he₁ := by
    rcases hgo.mem_queued ht' with ht' | ⟨stage, hstage, rfl⟩
    · by_cases hholds : t'.Holds
      · obtain ⟨e₂, _, he₂, hfits⟩ := hgo.held_of_other h ht' hholds
        cases he₂.symm.trans he₁
        exact hfits
      · rw [not_not.mp hholds]
        trivial
    · cases hgo.revises.own.symm.trans he₁
      exact ((hgo.keeps h).2.2 stage hstage).2

end GoesAlone

/-! ## 5. Events -/

/-- **Every event keeps a session sound**, and every record is there after it. -/
theorem isSound_apply (h : s.IsSound) (event : Event α ν) :
    (s.apply event).IsSound ∧ (s.apply event).Retains s := by
  have hsame : s.Retains s := .of_executions rfl
  cases event with
  | start id subject =>
    show IsSound ⟨(s.runner.start id subject).2, s.sent⟩ ∧
      Retains ⟨(s.runner.start id subject).2, s.sent⟩ s
    rcases Runner.start_cases h.sound h.free id subject with
      ⟨_, hrefused⟩ | ⟨a, address, _, _, _, _, hbegan⟩
    · rw [hrefused]
      exact ⟨h, hsame⟩
    · exact ⟨h.of_began hbegan, fun _ e he => ⟨e, h.kept_of_began hbegan he, .same e⟩⟩
  | author automations drawn =>
    exact ⟨h.of_executions rfl (Nat.le_add_right _ _) rfl fun _ ht _ => ht, hsame⟩
  | equip notifier previewChars recentLimit =>
    exact ⟨h.of_executions rfl (Nat.le_refl _) rfl fun _ ht _ => ht, hsame⟩
  | clock now => exact ⟨h.of_executions rfl (Nat.le_refl _) rfl fun _ ht _ => ht, hsame⟩
  | fire id => exact ⟨h.of_waking rfl rfl rfl rfl rfl, hsame⟩
  | resume id => exact ⟨h.of_waking rfl rfl rfl rfl rfl, hsame⟩
  | recover =>
    obtain ⟨hexecutions, haround⟩ := s.runner.recover_keeps
    exact ⟨h.of_executions hexecutions (Nat.le_of_eq (congrArg Ids.taken haround.ids.symm)) rfl
      fun t ht _ => haround.queue ▸ ht, .of_executions hexecutions⟩
  | rearm listed =>
    obtain ⟨hexecutions, haround⟩ := s.runner.rearmAll_keeps listed
    exact ⟨h.of_executions hexecutions (Nat.le_of_eq (congrArg Ids.taken haround.ids.symm)) rfl
      fun t ht _ => haround.queue ▸ ht, .of_executions hexecutions⟩
  | disarm => exact ⟨h.of_executions rfl (Nat.le_refl _) rfl fun _ ht _ => ht, hsame⟩
  | go place =>
    rcases apply_go_cases h.sound h.exists_of_held place with
      hnone | ⟨t, before, after, hdrop⟩ | ⟨t, before, after, e, e', hgo⟩
    · rw [hnone]
      exact ⟨h, hsame⟩
    · exact ⟨hdrop.isSound h, .of_executions hdrop.executions⟩
    · exact ⟨hgo.isSound h, hgo.retain⟩
  | reopen =>
    rcases s.apply_reopen_cases with hnone | ⟨_, hnew⟩
    · rw [hnone]
      exact ⟨h, hsame⟩
    · rw [hnew]
      exact ⟨h.reopened, hsame⟩
  | crash => exact ⟨h.reopened, hsame⟩

/-- **Every event without a race keeps the invariant**, and every record goes on in the session after
    it. -/
theorem isOrderly_apply (h : s.IsOrderly) {event : Event α ν} (hrace : s.races event = false) :
    (s.apply event).IsOrderly ∧ (s.apply event).Extends s := by
  have hsame : s.Extends s := .of_executions rfl
  cases event with
  | start id subject =>
    show IsOrderly ⟨(s.runner.start id subject).2, s.sent⟩ ∧
      Extends ⟨(s.runner.start id subject).2, s.sent⟩ s
    rcases Runner.start_cases h.sound h.free id subject with
      ⟨_, hrefused⟩ | ⟨a, address, _, _, _, _, hbegan⟩
    · rw [hrefused]
      exact ⟨h, hsame⟩
    · exact ⟨h.of_began hbegan, fun _ e he => ⟨e, h.kept_of_began hbegan he, .same e⟩⟩
  | author automations drawn =>
    exact ⟨h.of_executions rfl (Nat.le_add_right _ _) rfl h.apart fun _ ht _ => ht, hsame⟩
  | equip notifier previewChars recentLimit =>
    exact ⟨h.of_executions rfl (Nat.le_refl _) rfl h.apart fun _ ht _ => ht, hsame⟩
  | clock now => exact ⟨h.of_executions rfl (Nat.le_refl _) rfl h.apart fun _ ht _ => ht, hsame⟩
  | fire id => exact ⟨h.of_waking rfl rfl rfl rfl rfl, hsame⟩
  | resume id => exact ⟨h.of_waking rfl rfl rfl rfl rfl, hsame⟩
  | recover =>
    obtain ⟨hexecutions, haround⟩ := s.runner.recover_keeps
    refine ⟨h.of_executions hexecutions (Nat.le_of_eq (congrArg Ids.taken haround.ids.symm)) rfl
      (haround.queue ▸ h.apart) fun t ht _ => haround.queue ▸ ht, .of_executions hexecutions⟩
  | rearm listed =>
    obtain ⟨hexecutions, haround⟩ := s.runner.rearmAll_keeps listed
    refine ⟨h.of_executions hexecutions (Nat.le_of_eq (congrArg Ids.taken haround.ids.symm)) rfl
      (haround.queue ▸ h.apart) fun t ht _ => haround.queue ▸ ht, .of_executions hexecutions⟩
  | disarm => exact ⟨h.of_executions rfl (Nat.le_refl _) rfl h.apart fun _ ht _ => ht, hsame⟩
  | go place =>
    rcases apply_go_alone_cases h.sound h.exists_of_held hrace with
      hnone | ⟨t, before, after, hdrop⟩ | ⟨t, before, after, e, e', hgo⟩
    · rw [hnone]
      exact ⟨h, hsame⟩
    · exact ⟨hdrop.isOrderly h, .of_executions hdrop.executions⟩
    · exact ⟨hgo.isOrderly h, hgo.extend h⟩
  | reopen =>
    rcases s.apply_reopen_cases with hnone | ⟨_, hnew⟩
    · rw [hnone]
      exact ⟨h, hsame⟩
    · rw [hnew]
      exact ⟨h.reopened, hsame⟩
  | crash => exact ⟨h.reopened, hsame⟩

/-- **Only a turn sends and writes**: whatever else happens, no message goes out and the records that are
    there stay as they are. -/
theorem passes_of_not_go (ho : s.IsSound) {event : Event α ν} (hevent : ∀ place, event ≠ .go place) :
    (s.apply event).sent = s.sent ∧
      ∀ {id e}, ExecutionStorage.get s.runner.executions id = some e →
        ExecutionStorage.get (s.apply event).runner.executions id = some e := by
  cases event with
  | start automationId subject =>
    refine ⟨rfl, fun {id e} hfound => ?_⟩
    show ExecutionStorage.get (s.runner.start automationId subject).2.executions id = some e
    rcases Runner.start_cases ho.sound ho.free automationId subject with
      ⟨_, hsame⟩ | ⟨a, address, _, _, _, _, hbegan⟩
    · rw [hsame]
      exact hfound
    · exact ho.kept_of_began hbegan hfound
  | recover => exact ⟨rfl, fun hfound => s.runner.recover_keeps.1 ▸ hfound⟩
  | rearm listed => exact ⟨rfl, fun hfound => (s.runner.rearmAll_keeps listed).1 ▸ hfound⟩
  | reopen =>
    rcases s.apply_reopen_cases with hnone | ⟨_, hnew⟩
    · rw [hnone]
      exact ⟨rfl, fun hfound => hfound⟩
    · rw [hnew]
      exact ⟨rfl, fun hfound => hfound⟩
  | go place => exact absurd rfl (hevent place)
  | author automations drawn => exact ⟨rfl, fun hfound => hfound⟩
  | equip notifier previewChars recentLimit => exact ⟨rfl, fun hfound => hfound⟩
  | clock now => exact ⟨rfl, fun hfound => hfound⟩
  | fire id => exact ⟨rfl, fun hfound => hfound⟩
  | resume id => exact ⟨rfl, fun hfound => hfound⟩
  | disarm => exact ⟨rfl, fun hfound => hfound⟩
  | crash => exact ⟨rfl, fun hfound => hfound⟩

/-- Only authoring changes automations. -/
theorem automations_of_not_author (ho : s.IsSound) {event : Event α ν}
    (hevent : ∀ automations drawn, event ≠ .author automations drawn) :
    (s.apply event).runner.automations = s.runner.automations := by
  cases event with
  | author automations drawn => exact absurd rfl (hevent automations drawn)
  | start id subject =>
    show (s.runner.start id subject).2.automations = _
    rcases Runner.start_cases ho.sound ho.free id subject with
      ⟨_, hsame⟩ | ⟨a, address, _, _, _, _, hbegan⟩
    · rw [hsame]
    · exact hbegan.automations
  | recover => exact s.runner.recover_keeps.2.automations
  | rearm listed => exact (s.runner.rearmAll_keeps listed).2.automations
  | go place =>
    rcases apply_go_cases ho.sound ho.exists_of_held place with
      hnone | ⟨t, before, after, hdrop⟩ | ⟨t, before, after, e, e', hgo⟩
    · rw [hnone]
    · exact hdrop.automations
    · exact hgo.automations
  | reopen =>
    rcases s.apply_reopen_cases with hnone | ⟨_, hnew⟩
    · rw [hnone]
    · rw [hnew]
      rfl
  | _ => rfl

/-- Only a start makes a record. -/
theorem missing_of_not_start (ho : s.IsSound) {event : Event α ν} {id : String}
    (hevent : ∀ started subject, event ≠ .start started subject)
    (h : ExecutionStorage.get s.runner.executions id = none) :
    ExecutionStorage.get (s.apply event).runner.executions id = none := by
  cases event with
  | start started subject => exact absurd rfl (hevent started subject)
  | recover =>
    show ExecutionStorage.get s.runner.recover.2.executions id = none
    rw [s.runner.recover_keeps.1, h]
  | rearm listed =>
    show ExecutionStorage.get (s.runner.rearmAll listed).2.executions id = none
    rw [(s.runner.rearmAll_keeps listed).1, h]
  | go place =>
    rcases apply_go_cases ho.sound ho.exists_of_held place with
      hnone | ⟨t, before, after, hdrop⟩ | ⟨t, before, after, e, e', hgo⟩
    · rw [hnone, h]
    · rw [hdrop.executions, h]
    · have hid : id ≠ t.executionId := by
        rintro rfl
        cases h.symm.trans hgo.found
      exact (hgo.revises.others id hid).trans h
  | reopen =>
    rcases s.apply_reopen_cases with hnone | ⟨_, hnew⟩
    · rw [hnone, h]
    · rw [hnew]
      exact h
  | _ => exact h

/-- **What is queued without a turn**: resumptions and calls for executions that are new. A new process
    begins without tasks, and lets them come to the end of a step unless it takes over from a crash. -/
theorem queue_of_not_go (ho : s.IsSound) {event : Event α ν} (hevent : ∀ place, event ≠ .go place) :
    (∃ new, (s.apply event).runner.queue = s.runner.queue ++ new ∧ ∀ t ∈ new, t.stage = .wake ∨
        t.stage = .enter ∧ ExecutionStorage.get s.runner.executions t.executionId = none) ∨
      (s.apply event).runner.queue = [] ∧
        (event = .crash ∨ ∀ t ∈ s.runner.queue, t.stage.isWithinStep = false) := by
  have hsame : ∃ new, s.runner.queue = s.runner.queue ++ new ∧ ∀ t ∈ new, t.stage = .wake ∨
      t.stage = .enter ∧ ExecutionStorage.get s.runner.executions t.executionId = none :=
    ⟨[], (List.append_nil _).symm, fun _ ht => absurd ht List.not_mem_nil⟩
  cases event with
  | go place => exact absurd rfl (hevent place)
  | start id subject =>
    refine .inl ?_
    show ∃ new, (s.runner.start id subject).2.queue = _ ∧ _
    rcases Runner.start_cases ho.sound ho.free id subject with
      ⟨_, hrefused⟩ | ⟨a, address, _, _, _, _, hbegan⟩
    · rw [hrefused]
      exact hsame
    · refine ⟨_, hbegan.queue, fun t ht => .inr ?_⟩
      rw [List.mem_singleton.mp ht]
      exact ⟨rfl, ho.free⟩
  | fire id => exact .inl ⟨_, rfl, fun t ht => .inl (List.mem_singleton.mp ht ▸ rfl)⟩
  | resume id => exact .inl ⟨_, rfl, fun t ht => .inl (List.mem_singleton.mp ht ▸ rfl)⟩
  | recover =>
    refine .inl ?_
    show ∃ new, s.runner.recover.2.queue = _ ∧ _
    rw [s.runner.recover_keeps.2.queue]
    exact hsame
  | rearm listed =>
    refine .inl ?_
    show ∃ new, (s.runner.rearmAll listed).2.queue = _ ∧ _
    rw [(s.runner.rearmAll_keeps listed).2.queue]
    exact hsame
  | reopen =>
    rcases s.apply_reopen_cases with hnone | ⟨hbetween, hnew⟩
    · rw [hnone]
      exact .inl hsame
    · rw [hnew]
      exact .inr ⟨rfl, .inr hbetween⟩
  | crash => exact .inr ⟨rfl, .inl rfl⟩
  | author automations drawn => exact .inl hsame
  | equip notifier previewChars recentLimit => exact .inl hsame
  | clock now => exact .inl hsame
  | disarm => exact .inl hsame

theorem isSound_run (h : s.IsSound) (events : List (Event α ν)) : (s.run events).IsSound :=
  run_induction IsSound (fun _ => True) (fun _ event _ h => (isSound_apply h event).1)
    (fun _ _ => trivial) h

theorem isOrderly_run (h : s.IsOrderly) {events : List (Event α ν)} (hfree : s.RaceFree events) :
    (s.run events).IsOrderly :=
  raceFree_induction IsOrderly (fun _ => True) (fun _ _ _ hrace h => (isOrderly_apply h hrace).1)
    (fun _ _ => trivial) hfree h

/-- A session that some events lead to from a store without executions. -/
def IsReachable (s : Session α ε ν) : Prop :=
  ∃ automations notifier clock ids previewChars recentLimit events,
    s = (opened automations notifier clock ids previewChars recentLimit).run events

/-- A session that events without a race lead to from a store without executions. -/
def IsUnraced (s : Session α ε ν) : Prop :=
  ∃ automations notifier clock ids previewChars recentLimit events,
    (opened automations notifier clock ids previewChars recentLimit : Session α ε ν).RaceFree events ∧
      s = (opened automations notifier clock ids previewChars recentLimit).run events

theorem IsReachable.isSound (h : s.IsReachable) : s.IsSound := by
  obtain ⟨automations, notifier, clock, ids, previewChars, recentLimit, events, rfl⟩ := h
  exact isSound_run (isOrderly_opened _ _ _ _ _ _).toIsSound events

theorem IsReachable.run (h : s.IsReachable) (events : List (Event α ν)) :
    (s.run events).IsReachable := by
  obtain ⟨automations, notifier, clock, ids, previewChars, recentLimit, earlier, rfl⟩ := h
  exact ⟨automations, notifier, clock, ids, previewChars, recentLimit, earlier ++ events,
    (run_append _ earlier events).symm⟩

theorem IsUnraced.isOrderly (h : s.IsUnraced) : s.IsOrderly := by
  obtain ⟨automations, notifier, clock, ids, previewChars, recentLimit, events, hfree, rfl⟩ := h
  exact isOrderly_run (isOrderly_opened _ _ _ _ _ _) hfree

theorem IsUnraced.run (h : s.IsUnraced) {events : List (Event α ν)} (hfree : s.RaceFree events) :
    (s.run events).IsUnraced := by
  obtain ⟨automations, notifier, clock, ids, previewChars, recentLimit, earlier, hearlier, rfl⟩ := h
  exact ⟨automations, notifier, clock, ids, previewChars, recentLimit, earlier ++ events,
    raceFree_append.mpr ⟨hearlier, hfree⟩, (run_append _ earlier events).symm⟩

/-- **The life of every record in every run** from a store without executions. An event writes to the
    store once at most, so that the session before and after it is the store before and after a write.
    Every record is there after it as the same one, with a log that only grows. When no resumption has
    overlapped another one of the same execution, then all records are orderly; a record that is final
    stays as it is; and no task that may write stands at a final record. -/
theorem records_orderly_throughout (automations : α) (notifier : ν) (clock : Moment) (ids : Ids)
    (previewChars recentLimit : Int) (events : List (Event α ν)) (event : Event α ν) :
    let start : Session α ε ν := opened automations notifier clock ids previewChars recentLimit
    let before := start.run events
    (∀ id e, ExecutionStorage.get before.runner.executions id = some e →
        ∃ e', ExecutionStorage.get (before.apply event).runner.executions id = some e' ∧
          e'.Remains e) ∧
      (start.RaceFree (events ++ [event]) →
        (∀ id e, ExecutionStorage.get (before.apply event).runner.executions id = some e →
          e.IsOrderly) ∧
        (∀ id e, ExecutionStorage.get before.runner.executions id = some e →
          ∃ e', ExecutionStorage.get (before.apply event).runner.executions id = some e' ∧
            e'.Continues e) ∧
        ∀ t ∈ before.runner.queue, t.stage ≠ .wake →
          ∃ e, ExecutionStorage.get before.runner.executions t.executionId = some e ∧
            ¬ (e.status = .completed ∨ e.status = .failed)) := by
  intro start before
  have hopened : start.IsOrderly := isOrderly_opened _ _ _ _ _ _
  refine ⟨(isSound_apply (isSound_run hopened.toIsSound events) event).2, fun hfree => ?_⟩
  obtain ⟨hearlier, hrace, _⟩ := raceFree_append.mp hfree
  have h : before.IsOrderly := isOrderly_run hopened hearlier
  obtain ⟨hnext, hext⟩ := isOrderly_apply h hrace
  refine ⟨hnext.records, hext, fun t ht hstage => ?_⟩
  have hholds : t.Holds := fun hrole => hstage (Stage.eq_wake_of_role hrole)
  obtain ⟨e, he, hfits⟩ := h.held t ht hholds
  exact ⟨e, he, hfits.not_final hholds⟩

/-- The flow of a message after a minute. -/
def reminderFlow : Flow where
  nodes :=
    [⟨"start", .start, .empty⟩,
      ⟨"wait", .delay, .delay ⟨some "relative", none, some (.ofInt 1), some "minutes"⟩⟩,
      ⟨"mail", .action, .action (some "hello")⟩, ⟨"end", .finish, .empty⟩]
  edges :=
    [⟨"e1", "start", "wait", none⟩, ⟨"e2", "wait", "mail", none⟩, ⟨"e3", "mail", "end", none⟩]

/-- The automation with this flow. -/
def reminder : Automation := ⟨"reminder", "Reminder", reminderFlow, none, none⟩

/-- A session with that automation, whose executions are in a table. -/
def reminderSession : Session MemoryAutomations ExecutionTable Outbox :=
  opened ⟨Keyed.empty.put "reminder" reminder⟩ .empty Moment.first ⟨0⟩ 50 50

/-- An execution is suspended and resumed, and a second resumption waits until the first has begun to move
    its record. -/
def oneAwake : List (Event MemoryAutomations Outbox) :=
  .start "reminder" (some "ann@example.org") :: List.replicate 9 (.go 0) ++
    [.resume "id-1", .resume "id-1", .go 0, .go 0]

/-- The step after that leaves an orderly record. -/
theorem records_orderly_throughout_reminder :
    reminderSession.RaceFree (oneAwake ++ [.go 0]) ∧
      ∃ e, ExecutionStorage.get ((reminderSession.run oneAwake).apply (.go 0)).runner.executions "id-1" =
        some e ∧ e.status = .pending ∧ e.IsOrderly := by
  have hfree : reminderSession.RaceFree (oneAwake ++ [.go 0]) := by decide +kernel
  have hstatus : (ExecutionStorage.get ((reminderSession.run oneAwake).apply (.go 0)).runner.executions
      "id-1").map Execution.status = some .pending := by decide +kernel
  obtain ⟨e, he, hpending⟩ := Option.map_eq_some_iff.mp hstatus
  refine ⟨hfree, e, he, hpending, ?_⟩
  unfold reminderSession at hfree he
  exact ((records_orderly_throughout _ _ _ _ _ _ oneAwake (.go 0)).2 hfree).1 "id-1" e he

/-- An execution is suspended, and two resumptions of it read its record before one of them moves it. -/
def bothAwake : List (Event MemoryAutomations Outbox) :=
  .start "reminder" (some "ann@example.org") :: List.replicate 9 (.go 0) ++
    [.resume "id-1", .resume "id-1", .go 0, .go 1]

/-- **A race writes to a completed record**: the first of two resumptions takes the execution to its end,
    and the second puts it back to the action and lets it run, closed as it is. -/
theorem race_reopens_completed :
    let standing : Session MemoryAutomations ExecutionTable Outbox →
        Option (Status × Option String × Bool) := fun s =>
      (ExecutionStorage.get s.runner.executions "id-1").map fun e =>
        (e.status, e.currentNode, e.completedAt.isSome)
    let before := reminderSession.run (bothAwake ++ List.replicate 10 (.go 0))
    standing before = some (.completed, some "end", true) ∧
      standing (before.apply (.go 0)) = some (.completed, some "mail", true) ∧
      standing (before.run (List.replicate 3 (.go 0))) = some (.running, some "mail", true) := by
  decide +kernel

end Session

end Dripline
