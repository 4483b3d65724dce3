import Dripline.Proofs.Run.Return

/-!
# What a step that goes wrong leaves behind

A step goes wrong before its delivery, in its delivery, or with a result that has no way on. In each
case the record is closed, with an entry of the node at the end of its log:

* `mishap?`: the text with which the step of a node goes wrong, if it does; `StepFault.message_ne_empty`,
  `Step.error_ne_empty_of_stuck`: the library's own texts are not empty;
* `Reaches.of_stands`: wherever a task stands, it stands on a record;
* `Reaches.fails`: a step that goes wrong comes to a failure with that text;
* `Reaches.recorded`, `Reaches.shut`: the failure is logged, then the record is closed;
* **`mishap_closes_record`**: whatever goes wrong, the task ends with the failed record, whose last entry
  has the node and the text. The entry is a failed one too, unless a notifier refused without a text;
* `refused_without_text`: a refusal that is logged as a success.
-/

namespace Dripline

/-! ## 1. Texts -/

theorem String.append_ne_empty {s t : String} (h : s ≠ "") : s ++ t ≠ "" := by
  intro he
  exact h (String.append_eq_empty_iff.mp he).1

theorem ArithFault.message_ne_empty (fault : ArithFault) : fault.message ≠ "" := by
  cases fault with
  | tooManyDays days =>
    exact String.append_ne_empty (String.append_ne_empty (by decide))
  | _ => decide

theorem StepFault.message_ne_empty (fault : StepFault) : fault.message ≠ "" := by
  cases fault with
  | arithmetic fault => exact fault.message_ne_empty
  | unknownKind kind => exact String.append_ne_empty (by decide)
  | noMessage id => exact String.append_ne_empty (String.append_ne_empty (by decide))
  | noMode id => exact String.append_ne_empty (String.append_ne_empty (by decide))
  | noRules id => exact String.append_ne_empty (String.append_ne_empty (by decide))
  | noExit id => exact String.append_ne_empty (by decide)

/-- The text of a step that is stuck is not empty. -/
theorem Step.error_ne_empty_of_stuck {g : Graph} {subject message error : String} {now : Moment} {n : Node}
    (h : plan g subject now n = .ok (.settled (.stuck message error))) : error ≠ "" := by
  cases settles_of_plan h with
  | stuck =>
    exact String.append_ne_empty (String.append_ne_empty (String.append_ne_empty (by decide)))

namespace Runner

variable {α ε ν : Type} [AutomationStorage α] [ExecutionStorage ε] [Notifier ν] {r : Runner α ε ν}
  {t : Task} {walk : Walk} {node : Node} {error : String}

/-- **The text with which the step of a node goes wrong**, if it does: it has a fault, its delivery is
    refused, or its result has no way on. -/
def mishap? (r : Runner α ε ν) (walk : Walk) (node : Node) : Option String :=
  match Step.plan walk.graph walk.subject r.clock node with
  | .error fault => some fault.message
  | .ok (.settled (.stuck _ error)) => some error
  | .ok (.settled _) => none
  | .ok (.deliver message _) =>
    match r.answer walk.subject message with
    | .error fault => some fault.message
    | .ok _ => none

/-- A notifier refuses the message of a step with a text. -/
def Refuses (r : Runner α ε ν) (walk : Walk) (node : Node) (text : String) : Prop :=
  ∃ message next fault,
    Step.plan walk.graph walk.subject r.clock node = .ok (.deliver message next) ∧
      r.answer walk.subject message = .error fault ∧ fault.message = text

omit [AutomationStorage α] in
/-- The three ways in which a step goes wrong. -/
theorem mishap?_cases (h : r.mishap? walk node = some error) :
    (∃ fault, Step.plan walk.graph walk.subject r.clock node = .error fault ∧ fault.message = error) ∨
      (∃ text, Step.plan walk.graph walk.subject r.clock node = .ok (.settled (.stuck text error))) ∨
      r.Refuses walk node error := by
  unfold mishap? at h
  cases hplan : Step.plan walk.graph walk.subject r.clock node with
  | error fault =>
    rw [hplan] at h
    cases h
    exact .inl ⟨fault, rfl, rfl⟩
  | ok plan =>
    rw [hplan] at h
    cases plan with
    | settled result =>
      cases result with
      | stuck text error' =>
        cases h
        exact .inr (.inl ⟨text, rfl⟩)
      | _ => cases h
    | deliver message next =>
      cases hanswer : r.answer walk.subject message with
      | ok deliveryId => simp only [hanswer] at h; cases h
      | error fault =>
        simp only [hanswer] at h
        cases h
        exact .inr (.inr ⟨message, next, fault, hplan, hanswer, rfl⟩)

omit [AutomationStorage α] in
/-- Only a notifier refuses without a text. -/
theorem refuses_of_mishap_empty (h : r.mishap? walk node = some "") : r.Refuses walk node "" := by
  rcases mishap?_cases h with ⟨fault, _, hempty⟩ | ⟨text, hstuck⟩ | hrefuses
  · exact absurd hempty fault.message_ne_empty
  · exact absurd rfl (Step.error_ne_empty_of_stuck hstuck)
  · exact hrefuses

/-! ## 2. From the step to the closed record -/

variable [LawfulExecutions ε] {clock : Nat → Moment} {k : Nat} {stage : Stage} {e : Execution}

/-- **Wherever a task stands, it stands on a record**, when there was one to begin with. -/
theorem Reaches.of_stands (hs : LawfulExecutions.Sound r.executions)
    (he : ExecutionStorage.get r.executions t.executionId = some e)
    (hstands : (r.goFor clock t k).2 = .stage stage) : r.Reaches clock t k stage := by
  induction k generalizing stage with
  | zero => exact ⟨hstands, hs, e, he⟩
  | succ k ih =>
    cases hbefore : (r.goFor clock t k).2 with
    | stage before => exact (ih hbefore).next hstands
    | done result =>
      rw [goFor_of_done hbefore (Nat.le_succ k), hbefore] at hstands
      cases hstands

/-- A delivery that is refused. -/
theorem Reaches.refused {message target : String} {fault : SendFault}
    (h : r.Reaches clock t k (.act walk node))
    (hplan : Step.plan walk.graph walk.subject (clock k) node = .ok (.deliver message target))
    (hanswer : (r.goFor clock t k).1.answer walk.subject message = .error fault) :
    r.Reaches clock t (k + 1) (.failing (some (node.id, node.kind.text)) fault.message) := by
  obtain ⟨e, e', sent, _, hturn, _⟩ := h.turn
  refine h.next ?_
  generalize (r.goFor clock t (k + 1)).2 = next at hturn
  cases hturn with
  | actFault _ _ _ hplan' => cases hplan.symm.trans hplan'
  | actSettled _ _ _ hplan' => cases hplan.symm.trans hplan'
  | actUndelivered _ _ _ _ _ hplan' hanswer' =>
    cases hplan.symm.trans hplan'
    cases hanswer.symm.trans hanswer'
    rfl
  | actDelivered _ _ _ _ _ hplan' hanswer' =>
    cases hplan.symm.trans hplan'
    cases hanswer.symm.trans hanswer'

/-- **A step that goes wrong comes to a failure** with that text, after its result is logged if it has
    one. -/
theorem Reaches.fails (h : r.Reaches clock t k (.act walk node))
    (hmishap : ({ (r.goFor clock t k).1 with clock := clock k } : Runner α ε ν).mishap? walk node =
      some error) :
    ∃ j, r.Reaches clock t j (.failing (some (node.id, node.kind.text)) error) := by
  rcases mishap?_cases hmishap with
    ⟨fault, hplan, rfl⟩ | ⟨text, hplan⟩ | ⟨message, target, fault, hplan, hanswer, rfl⟩
  · exact ⟨k + 1, h.failing hplan⟩
  · have hsettle := (h.settled hplan).noted
    refine ⟨k + 3, hsettle.leads fun _ _ _ _ _ _ hturn => ?_⟩
    cases hturn
    rfl
  · exact ⟨k + 1, h.refused hplan hanswer⟩

/-- The entry of a step that goes wrong: the node, the text, and a failed status if there is a text. -/
structure IsFailureOf (entry : LogEntry) (node : Node) (text : String) : Prop where
  nodeId : entry.nodeId = node.id
  nodeKind : entry.nodeKind = node.kind.text
  error : entry.error = some text
  status : entry.status = LogEntry.failure ↔ text ≠ ""

/-- **The failure is logged**, at the end of the log. -/
theorem Reaches.recorded
    (h : r.Reaches clock t k (.failing (some (node.id, node.kind.text)) error)) :
    ∃ e entry, ExecutionStorage.get (r.goFor clock t (k + 1)).1.executions t.executionId = some e ∧
      e.log.getLast? = some entry ∧ IsFailureOf entry node error := by
  obtain ⟨e, e', sent, _, hturn, hrevises⟩ := h.turn
  generalize (r.goFor clock t (k + 1)).2 = next at hturn
  cases hturn with
  | failing =>
    refine ⟨_, _, hrevises.own, List.getLast?_concat, rfl, rfl, rfl, ?_⟩
    show (if error = "" then LogEntry.success else LogEntry.failure) = LogEntry.failure ↔ error ≠ ""
    by_cases hempty : error = ""
    · rw [if_pos hempty]
      exact iff_of_false (by decide) (not_not.mpr hempty)
    · rw [if_neg hempty]
      exact iff_of_true rfl hempty

/-- **The record is closed**, and is the result. -/
theorem Reaches.shut (h : r.Reaches clock t k .closing)
    (he : ExecutionStorage.get (r.goFor clock t k).1.executions t.executionId = some e) :
    ∃ e', (r.goFor clock t (k + 1)).2 = .done (.ok (some e')) ∧
      ExecutionStorage.get (r.goFor clock t (k + 1)).1.executions t.executionId = some e' ∧
      e'.status = .failed ∧ e'.completedAt.isSome = true ∧ e'.log = e.log := by
  obtain ⟨e₁, e', sent, he₁, hturn, hrevises⟩ := h.turn
  cases he.symm.trans he₁
  have hreturns : Returns t.executionId (r.goFor clock t (k + 1)) :=
    goFor_of_stage h.stands ▸ stepTask_returns h.sound he
  cases hnext : (r.goFor clock t (k + 1)).2 with
  | stage stage =>
    rw [hnext] at hturn
    cases hturn
  | done result =>
    rw [hnext] at hturn
    cases hturn with
    | closing found =>
      have hfound := hreturns found hnext
      refine ⟨found, rfl, hfound, ?_⟩
      cases hrevises.own.symm.trans hfound
      exact ⟨rfl, rfl, rfl⟩

/-- **A step that goes wrong closes its record.** One task alone, under any clock and over any flow: when
    the step of a node goes wrong with a text, the task ends with the record as it is stored. That record
    has failed and is over, and the last entry of its log has the node and the text. The entry is a failed
    one as well, unless the text is empty, which it is only when a notifier refused without one. -/
theorem mishap_closes_record (hs : LawfulExecutions.Sound r.executions)
    (he : ExecutionStorage.get r.executions t.executionId = some e)
    (hact : (r.goFor clock t k).2 = .stage (.act walk node))
    (hmishap : ({ (r.goFor clock t k).1 with clock := clock k } : Runner α ε ν).mishap? walk node =
      some error) :
    (∃ j e' entry, (r.goFor clock t j).2 = .done (.ok (some e')) ∧
        ExecutionStorage.get (r.goFor clock t j).1.executions t.executionId = some e' ∧
        e'.status = .failed ∧ e'.completedAt.isSome = true ∧ e'.log.getLast? = some entry ∧
        IsFailureOf entry node error) ∧
      (error = "" →
        ({ (r.goFor clock t k).1 with clock := clock k } : Runner α ε ν).Refuses walk node "") := by
  constructor
  · obtain ⟨j, hfailing⟩ := (Reaches.of_stands hs he hact).fails hmishap
    obtain ⟨e₁, entry, he₁, hlast, hentry⟩ := hfailing.recorded
    obtain ⟨e', hdone, hfound, hstatus, hover, hlog⟩ := hfailing.closing.shut he₁
    exact ⟨j + 2, e', entry, hdone, hfound, hstatus, hover, hlog ▸ hlast, hentry⟩
  · rintro rfl
    exact refuses_of_mishap_empty hmishap

deriving instance DecidableEq for Graph, Walk, Stage, Next

/-- A flow with one message. -/
def mailFlow : Flow where
  nodes := [⟨"start", .start, .empty⟩, ⟨"mail", .action, .action (some "hello")⟩, ⟨"end", .finish, .empty⟩]
  edges := [⟨"e1", "start", "mail", none⟩, ⟨"e2", "mail", "end", none⟩]

/-- A runner with an execution of that flow, and with a notifier that refuses every message. -/
def refusing (text : String) : Runner MemoryAutomations MemoryExecutions Outbox :=
  receiving MemoryExecutions ⟨Keyed.empty.put "mail" ⟨"mail", "Mail", mailFlow, none, none⟩⟩
    ⟨some text, []⟩ "mail"

/-- A refusal with a text. -/
theorem mishap_closes_record_refused :
    ∃ j e' entry, ((refusing "mailbox full").goFor (fun _ => Moment.first)
        ⟨"id-1", .direct, ⟨true, 50⟩, .enter⟩ j).2 = .done (.ok (some e')) ∧
      e'.status = .failed ∧ e'.log.getLast? = some entry ∧ entry.nodeId = "mail" ∧
      entry.status = LogEntry.failure := by
  let walk : Walk := ⟨"id-1", "ann@example.org", Graph.ofFlow mailFlow⟩
  let mail : Node := ⟨"mail", .action, .action (some "hello")⟩
  let call : Task := ⟨"id-1", .direct, ⟨true, 50⟩, .enter⟩
  have hfound : ExecutionStorage.get (refusing "mailbox full").executions "id-1" =
      some (received "mail") := by decide +kernel
  have hact : ((refusing "mailbox full").goFor (fun _ => Moment.first) call 6).2 =
      .stage (.act walk mail) := by decide +kernel
  have hmishap : mishap? { ((refusing "mailbox full").goFor (fun _ => Moment.first) call 6).1 with
      clock := Moment.first } walk mail = some "mailbox full" := by decide +kernel
  obtain ⟨⟨j, e', entry, hdone, _, hstatus, _, hlast, hentry⟩, _⟩ :=
    mishap_closes_record (sound_receiving _ _ _ _) hfound hact hmishap
  exact ⟨j, e', entry, hdone, hstatus, hlast, hentry.nodeId, hentry.status.mpr (by decide)⟩

/-- **A refusal that is logged as a success**: without a text the entry of the failed step does not say
    that it failed. -/
theorem refused_without_text :
    (refusing "").answer "ann@example.org" "hello" = .error (.undelivered "") ∧
      ((refusing "").run 9 "id-1").map Prod.snd = some (.ok (some
        { received "mail" with
          status := .failed
          currentNode := some "mail"
          log := [⟨"start", "start", Moment.first, LogEntry.success, some "Flow started", none⟩,
            ⟨"mail", "action", Moment.first, LogEntry.success, none, some ""⟩]
          completedAt := some Moment.first })) := by
  decide +kernel

end Runner

end Dripline
