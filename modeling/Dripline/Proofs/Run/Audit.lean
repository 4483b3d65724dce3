import Dripline.Proofs.Run.Course

/-!
# The log tells what was sent

A message is sent by one stage of a task and logged by the next one. In between the log owes an entry:

* `Receipt`, `Session.receipts`: the messages that the notifier took, with its delivery ids;
* `Execution.deliveries`, `LogEntry.Tells`: the entries of actions that went well, and what such an entry
  says about a message;
* `Accounts`, `stepTask_accounts`: a stage neither sends nor logs a delivery, or it sends and from then on
  owes an entry, or it writes the entry that is owed;
* `Session.Balances`: the invariant. The entries and the messages of an execution agree one by one, but for
  a last message whose entry is owed;
* `Session.IsSilenced`: the invariant of an execution whose step has failed. Nobody is left who sends;
* **`log_tells_what_was_sent`**: the three properties together, as long as no resumptions race;
* `race_sends_after_failure`: what a race makes of them.

Flows are whatever somebody puts into the store at any time: nothing here asks whether they are well
formed.
-/

namespace Dripline

/-! ## 1. Messages with their delivery ids -/

/-- A message that the notifier took for an execution, with the delivery id that it gave and the number
    of characters that the log is to quote. -/
structure Receipt where
  executionId : String
  subject : String
  message : String
  deliveryId : String
  previewChars : Int
deriving DecidableEq, Repr

/-- A receipt without what the notifier and the log add. -/
def Receipt.sending (x : Receipt) : Sending := ⟨x.executionId, x.subject, x.message⟩

/-- How a log tells of a message: by its first characters and by its delivery id. -/
def Receipt.text (x : Receipt) : String :=
  "Email sent: \"" ++ Step.preview x.message x.previewChars ++ "...\" (ID: " ++ x.deliveryId ++ ")"

/-- The entry tells of the message. -/
def LogEntry.Tells (entry : LogEntry) (x : Receipt) : Prop := entry.message = some x.text

/-- An entry of an action that went well. -/
def LogEntry.isDelivery (entry : LogEntry) : Bool :=
  decide (entry.nodeKind = NodeKind.action.text) && entry.error.isNone

/-- The log of an execution, as far as it is about deliveries. -/
def Execution.deliveries (e : Execution) : List LogEntry := e.log.filter LogEntry.isDelivery

namespace Runner

variable {α ε ν : Type} [AutomationStorage α] [ExecutionStorage ε] [Notifier ν]

/-- The receipt for what a stage of a task sends. -/
def receipt? (r : Runner α ε ν) (t : Task) : Option Receipt :=
  match t.stage with
  | .act walk node =>
    match Step.plan walk.graph walk.subject r.clock node with
    | .ok (.deliver message _) =>
      match r.answer walk.subject message with
      | .ok deliveryId =>
        some ⟨t.executionId, walk.subject, message, deliveryId, t.setup.previewChars⟩
      | .error _ => none
    | _ => none
  | _ => none

omit [AutomationStorage α] in
/-- There is a receipt for what is sent, and for nothing else. -/
theorem receipt?_sending (r : Runner α ε ν) (t : Task) :
    (r.receipt? t).map Receipt.sending = r.sending? t := by
  unfold receipt? sending?
  cases t.stage with
  | act walk node =>
    cases hplan : Step.plan walk.graph walk.subject r.clock node with
    | error fault => simp only [hplan, Option.map_none]
    | ok plan =>
      cases plan with
      | settled result => simp only [hplan, Option.map_none]
      | deliver message next =>
        simp only [hplan]
        cases r.answer walk.subject message <;> rfl
  | _ => rfl

omit [AutomationStorage α] in
theorem receipt?_of_not_act {r : Runner α ε ν} {t : Task} (h : ∀ walk node, t.stage ≠ .act walk node) :
    r.receipt? t = none := by
  unfold receipt?
  split
  · rename_i walk node hstage
    exact absurd hstage (h walk node)
  · rfl

omit [AutomationStorage α] in
theorem executionId_of_receipt? {r : Runner α ε ν} {t : Task} {x : Receipt}
    (h : r.receipt? t = some x) : x.executionId = t.executionId := by
  unfold receipt? at h
  split at h
  · split at h
    · split at h
      · cases h
        rfl
      · cases h
    · cases h
  · cases h

end Runner

namespace Session

variable {α ε ν : Type} [AutomationStorage α] [ExecutionStorage ε] [Notifier ν]

/-- The receipt for what an event sends. -/
def receipt? (s : Session α ε ν) : Event α ν → Option Receipt
  | .go place => s.runner.queue[place]?.bind s.runner.receipt?
  | _ => none

/-- **The receipts of a run**, oldest first. -/
def receipts (s : Session α ε ν) : List (Event α ν) → List Receipt
  | [] => []
  | event :: events => (s.receipt? event).toList ++ (s.apply event).receipts events

omit [AutomationStorage α] in
theorem receipt?_of_place_none {s : Session α ε ν} {place : Nat}
    (hplace : s.runner.queue[place]? = none) : s.receipt? (.go place) = none := by
  show s.runner.queue[place]?.bind _ = none
  rw [hplace]
  rfl

omit [AutomationStorage α] in
theorem receipt?_of_place {s : Session α ε ν} {place : Nat} {t : Task}
    (hplace : s.runner.queue[place]? = some t) : s.receipt? (.go place) = s.runner.receipt? t := by
  show s.runner.queue[place]?.bind _ = _
  rw [hplace]
  rfl

theorem apply_sent (s : Session α ε ν) (event : Event α ν) :
    (s.apply event).sent = s.sent ++ (s.receipt? event).toList.map Receipt.sending := by
  cases event with
  | go place =>
    cases hplace : s.runner.queue[place]? with
    | none =>
      rw [apply_go_of_place_none hplace, receipt?_of_place_none hplace]
      exact (List.append_nil _).symm
    | some t =>
      rw [receipt?_of_place hplace, ← Option.toList_map, s.runner.receipt?_sending t]
      unfold apply
      simp only [hplace]
  | reopen =>
    rcases s.apply_reopen_cases with hnone | ⟨_, hnew⟩
    · rw [hnone]
      exact (List.append_nil _).symm
    · rw [hnew]
      exact (List.append_nil _).symm
  | _ => exact (List.append_nil _).symm

/-- **What a run sends is what it has receipts for.** -/
theorem run_sent (s : Session α ε ν) (events : List (Event α ν)) :
    (s.run events).sent = s.sent ++ (s.receipts events).map Receipt.sending := by
  induction events generalizing s with
  | nil => exact (List.append_nil _).symm
  | cons event events ih =>
    rw [run, ih, s.apply_sent, receipts, List.map_append, List.append_assoc]

end Session

/-! ## 2. One stage -/

/-- The text that the log owes at a stage: a message was sent, and its entry comes next. -/
def Stage.owed? : Stage → Option String
  | .note _ node result => if node.kind = .action then some result.message else none
  | _ => none

/-- The text that the log owes after a stage. -/
def Runner.Next.owed? (next : Runner.Next) : Option String :=
  match next with
  | .stage after => after.owed?
  | .done _ => none

theorem Stage.isWithinStep_of_owed {stage : Stage} {text : String} (h : stage.owed? = some text) :
    stage.isWithinStep = true := by
  cases stage with
  | note walk node result => rfl
  | _ => cases h

/-- A task that owes an entry holds its execution. -/
theorem Task.holds_of_owed {t : Task} {text : String} (h : t.stage.owed? = some text) : t.Holds := by
  refine Task.holds_of_interpreting ?_
  cases hstage : t.stage with
  | note walk node result => rfl
  | _ =>
    rw [hstage] at h
    cases h

namespace Step

variable {g : Graph} {subject : String} {now : Moment} {n : Node}

theorem settled_of_planDelay {id : String} {data : NodeData} {plan : StepPlan}
    (h : planDelay g now id data = .ok plan) : ∃ result, plan = .settled result := by
  cases data with
  | delay d =>
    cases hexit : exit g id with
    | error fault =>
      simp only [planDelay, hexit] at h
      cases h
    | ok next =>
      rw [Flow.planDelay_eq hexit] at h
      cases hmillis : d.millis now with
      | error fault => simp only [hmillis] at h; cases h
      | ok millis =>
        simp only [hmillis] at h
        split at h
        · cases h
          exact ⟨_, rfl⟩
        · cases hdue : d.resumeTime now with
          | error fault => simp only [hdue] at h; cases h
          | ok due =>
            simp only [hdue] at h
            cases h
            exact ⟨_, rfl⟩
  | _ => cases h

theorem settled_of_planCondition {id : String} {data : NodeData} {plan : StepPlan}
    (h : planCondition g subject id data = .ok plan) : ∃ result, plan = .settled result := by
  cases data with
  | condition c =>
    unfold planCondition at h
    dsimp only at h
    cases hbranch : g.branch? id (c.outcome subject) <;> simp only [hbranch] at h <;> cases h <;>
      exact ⟨_, rfl⟩
  | _ => cases h

/-- Only the step of an action asks for a delivery. -/
theorem settled_of_kind {plan : StepPlan} (hkind : n.kind ≠ .action)
    (h : Step.plan g subject now n = .ok plan) : ∃ result, plan = .settled result := by
  unfold Step.plan at h
  cases hk : n.kind with
  | action => exact absurd hk hkind
  | start =>
    simp only [hk] at h
    cases hexit : exit g n.id with
    | error fault => rw [hexit] at h; cases h
    | ok next =>
      rw [hexit] at h
      cases h
      exact ⟨_, rfl⟩
  | finish =>
    simp only [hk] at h
    cases h
    exact ⟨_, rfl⟩
  | delay =>
    simp only [hk] at h
    exact settled_of_planDelay h
  | condition =>
    simp only [hk] at h
    exact settled_of_planCondition h
  | unknown text hno =>
    simp only [hk] at h
    cases h

/-- The step of an action asks for a delivery of the text of its node, on the way that leads out of it,
    or there is a fault. -/
theorem deliver_of_kind {plan : StepPlan} (hkind : n.kind = .action)
    (h : Step.plan g subject now n = .ok plan) :
    ∃ message next, plan = .deliver message next ∧ n.data = .action (some message) ∧
      message ≠ "" ∧ g.successor? n.id = some next := by
  unfold Step.plan at h
  simp only [hkind] at h
  cases hdata : n.data with
  | action message =>
    cases message with
    | none =>
      rw [hdata] at h
      cases h
    | some message =>
      simp only [hdata, planAction] at h
      split at h
      · cases h
      · rename_i hne
        unfold exit at h
        cases hnext : g.successor? n.id with
        | none => rw [hnext] at h; cases h
        | some next =>
          rw [hnext] at h
          cases h
          exact ⟨message, next, rfl, rfl, hne, rfl⟩
  | _ =>
    rw [hdata] at h
    cases h

end Step

/-- **A stage and the log.** The stage neither sends nor logs a delivery; or it writes the entry that is
    owed; or it sends, and owes an entry from then on. -/
inductive Accounts (e e' : Execution) (stage : Stage) (next : Runner.Next) : Option Receipt → Prop where
  | quiet (hlog : e'.deliveries = e.deliveries) (howed : stage.owed? = none)
      (hnext : next.owed? = none) : Accounts e e' stage next none
  | pays (text : String) (entry : LogEntry) (howed : stage.owed? = some text)
      (hentry : entry.message = some text) (hlog : e'.deliveries = e.deliveries ++ [entry])
      (hnext : next.owed? = none) : Accounts e e' stage next none
  | owes (x : Receipt) (hstage : stage.role = .interpreting) (howed : stage.owed? = none)
      (hlog : e'.deliveries = e.deliveries) (hnext : next.owed? = some x.text) :
      Accounts e e' stage next (some x)

/-- An entry that tells of no delivery. -/
theorem deliveries_noted_of_other {e : Execution} {kept : Moment → Moment} {entry : LogEntry}
    (h : entry.isDelivery = false) : (e.noted kept entry).deliveries = e.deliveries := by
  show (e.log ++ [entry.keep kept]).filter _ = _
  have hkeep : (entry.keep kept).isDelivery = false := h
  rw [List.filter_append, List.filter_singleton, hkeep]
  exact List.append_nil _

theorem deliveries_noted {e : Execution} {kept : Moment → Moment} {entry : LogEntry}
    (h : entry.isDelivery = true) :
    (e.noted kept entry).deliveries = e.deliveries ++ [entry.keep kept] := by
  show (e.log ++ [entry.keep kept]).filter _ = _
  have hkeep : (entry.keep kept).isDelivery = true := h
  rw [List.filter_append, List.filter_singleton, hkeep]
  rfl

/-- Nothing is a delivery that tells of an error. -/
theorem LogEntry.isDelivery_of_error {entry : LogEntry} {error : String}
    (h : entry.error = some error) : entry.isDelivery = false := by
  unfold LogEntry.isDelivery
  rw [h]
  exact Bool.and_false _

theorem NodeKind.text_eq_action_iff {k : NodeKind} : k.text = NodeKind.action.text ↔ k = .action := by
  constructor
  · intro h
    rw [← ofText_text k, h, ofText_text]
  · rintro rfl
    rfl

namespace Runner

variable {α ε ν : Type} [AutomationStorage α] [ExecutionStorage ε] [Notifier ν]
  [LawfulExecutions ε] {r : Runner α ε ν} {e e' : Execution} {t : Task}

/-- The step of a node sends and owes the entry, or does neither. -/
theorem Turn.accounts_of_act {walk : Walk} {node : Node} {next : Next} {sent : Option Sending}
    (hstage : t.stage = .act walk node)
    (h : Turn r t.executionId t.setup e (.act walk node) e' next sent) :
    Accounts e e' (.act walk node) next (r.receipt? t) := by
  unfold receipt?
  rw [hstage]
  cases h with
  | actFault _ _ fault hplan =>
    simp only [hplan]
    exact .quiet rfl rfl rfl
  | actSettled _ _ result hplan =>
    simp only [hplan]
    refine .quiet rfl rfl (if_neg fun hkind => ?_)
    obtain ⟨message, next, hdeliver, _⟩ := Step.deliver_of_kind hkind hplan
    cases hdeliver
  | actUndelivered _ _ message nextId fault hplan hanswer =>
    simp only [hplan, hanswer]
    exact .quiet rfl rfl rfl
  | actDelivered _ _ message nextId deliveryId hplan hanswer =>
    simp only [hplan, hanswer]
    refine .owes _ rfl rfl rfl (if_pos (not_not.mp fun hkind => ?_))
    obtain ⟨result, hsettled⟩ := Step.settled_of_kind hkind hplan
    cases hsettled

/-- The result of a step is logged: that is the entry that is owed, if one is. -/
theorem Turn.accounts_of_note {walk : Walk} {node : Node} {result : StepResult} {next : Next}
    {sent : Option Sending}
    (h : Turn r t.executionId t.setup e (.note walk node result) e' next sent) :
    Accounts e e' (.note walk node result) next none := by
  cases h with
  | note =>
    by_cases hkind : node.kind = .action
    · refine .pays result.message _ (if_pos hkind) ?_ (deliveries_noted ?_) rfl
      · rfl
      · unfold LogEntry.isDelivery
        rw [Bool.and_eq_true, decide_eq_true_eq]
        exact ⟨NodeKind.text_eq_action_iff.mpr hkind, rfl⟩
    · refine .quiet (deliveries_noted_of_other ?_) (if_neg hkind) rfl
      unfold LogEntry.isDelivery
      rw [Bool.and_eq_false_iff, decide_eq_false_iff_not]
      exact .inl fun htext => hkind (NodeKind.text_eq_action_iff.mp htext)

/-- **Every stage keeps the account**, way by way. -/
theorem Turn.accounts {stage : Stage} {next : Next} {sent : Option Sending} (hstage : t.stage = stage)
    (h : Turn r t.executionId t.setup e stage e' next sent) :
    Accounts e e' stage next (r.receipt? t) := by
  by_cases hact : ∃ walk node, stage = .act walk node
  · obtain ⟨walk, node, rfl⟩ := hact
    exact h.accounts_of_act hstage
  rw [receipt?_of_not_act fun walk node heq => hact ⟨walk, node, hstage.symm.trans heq⟩]
  cases h with
  | actFault => exact absurd ⟨_, _, rfl⟩ hact
  | actSettled => exact absurd ⟨_, _, rfl⟩ hact
  | actUndelivered => exact absurd ⟨_, _, rfl⟩ hact
  | actDelivered => exact absurd ⟨_, _, rfl⟩ hact
  | note walk node result => exact Turn.accounts_of_note (t := t) (.note walk node result)
  | failing nodeId kind error =>
    exact .quiet (deliveries_noted_of_other (LogEntry.isDelivery_of_error rfl)) rfl rfl
  | lost nodeId error timer entry herror =>
    exact .quiet (deliveries_noted_of_other (LogEntry.isDelivery_of_error herror)) rfl rfl
  | _ => exact .quiet rfl rfl rfl

end Runner

/-! ## 3. The account of an execution -/

namespace Session

variable {α ε ν : Type} [AutomationStorage α] [ExecutionStorage ε] [Notifier ν]
  [LawfulExecutions ε] {s s' : Session α ε ν} {e e' : Execution} {xs : List Receipt}

/-- **The account of an execution**: the entries of its deliveries tell of its messages one by one, and
    while a task owes an entry, of all but the last one, of which that entry will tell. -/
structure Balances (s : Session α ε ν) (e : Execution) (xs : List Receipt) : Prop where
  found : ExecutionStorage.get s.runner.executions e.id = some e
  even : (∀ t ∈ s.runner.queue, t.executionId = e.id → t.stage.owed? = none) →
    List.Forall₂ LogEntry.Tells e.deliveries xs
  owing : ∀ t ∈ s.runner.queue, t.executionId = e.id → ∀ text, t.stage.owed? = some text →
    ∃ earlier x, xs = earlier ++ [x] ∧ x.text = text ∧
      List.Forall₂ LogEntry.Tells e.deliveries earlier

omit [AutomationStorage α] [Notifier ν] [LawfulExecutions ε] in
/-- What passes an execution by leaves its account as it is. -/
theorem Balances.of_same (h : s.Balances e xs)
    (hfound : ExecutionStorage.get s'.runner.executions e.id = some e)
    (hqueue : ∀ t : Task, t.executionId = e.id → t.stage.owed? ≠ none →
      (t ∈ s'.runner.queue ↔ t ∈ s.runner.queue)) : s'.Balances e xs where
  found := hfound
  even heven := h.even fun t ht hid => not_not.mp fun howed =>
    howed (heven t ((hqueue t hid howed).mpr ht) hid)
  owing t ht hid text howed := by
    have hsome : t.stage.owed? ≠ none := by
      rw [howed]
      exact nofun
    exact h.owing t ((hqueue t hid hsome).mp ht) hid text howed

variable {t : Task} {before after : List Task}

/-- While a task holds the execution, nobody else owes an entry. -/
theorem TakesTurn.unowed_of_other (hgo : s.TakesTurn s' t before after e e') (ho : s.IsOrderly)
    (hholds : t.Holds) {t' : Task} (ht' : t' ∈ before ++ after)
    (hid : t'.executionId = t.executionId) : t'.stage.owed? = none := by
  cases howed : t'.stage.owed? with
  | none => rfl
  | some text => exact absurd hid.symm ((hgo.apart ho).1 t' ht' hholds (Task.holds_of_owed howed))

/-- What is owed after a turn is owed by the task that took it, or was owed before. -/
theorem TakesTurn.owed_after (hgo : s.TakesTurn s' t before after e e') {t' : Task}
    (ht' : t' ∈ s'.runner.queue) :
    t' ∈ before ++ after ∨ t'.stage.owed? = (s.runner.stepTask t).2.owed? := by
  refine (hgo.mem_queued ht').imp_right ?_
  rintro ⟨stage, hstage, rfl⟩
  rw [hstage]
  rfl

/-- A turn that neither sends nor logs a delivery. -/
theorem Balances.of_quiet (h : s.Balances e xs) (hgo : s.TakesTurn s' t before after e e')
    (hid : e'.id = e.id) (hown : ExecutionStorage.get s'.runner.executions e'.id = some e')
    (hlog : e'.deliveries = e.deliveries) (howed : t.stage.owed? = none)
    (hnext : (s.runner.stepTask t).2.owed? = none) : s'.Balances e' xs where
  found := hown
  even heven := by
    rw [hlog]
    refine h.even fun t' ht' hid' => ?_
    rcases hgo.eq_or_mem ht' with rfl | ht'
    · exact howed
    · exact heven t' (hgo.mem_of_stayed ht') (hid'.trans hid.symm)
  owing t' ht' hid' text howed' := by
    rw [hlog]
    rcases hgo.owed_after ht' with ht' | hsame
    · exact h.owing t' (hgo.mem_of_other ht') (hid'.trans hid) text howed'
    · cases hnext.symm.trans (hsame.symm.trans howed')

/-- A turn that writes the entry that is owed. -/
theorem Balances.of_paid {text : String} {entry : LogEntry} (ho : s.IsOrderly) (h : s.Balances e xs)
    (hgo : s.TakesTurn s' t before after e e') (htid : t.executionId = e.id) (hid : e'.id = e.id)
    (hown : ExecutionStorage.get s'.runner.executions e'.id = some e')
    (howed : t.stage.owed? = some text) (hentry : entry.message = some text)
    (hlog : e'.deliveries = e.deliveries ++ [entry])
    (hnext : (s.runner.stepTask t).2.owed? = none) : s'.Balances e' xs where
  found := hown
  even _ := by
    obtain ⟨earlier, x, rfl, rfl, htold⟩ := h.owing t hgo.mem htid text howed
    rw [hlog]
    exact List.rel_append htold (.cons hentry .nil)
  owing t' ht' hid' text' howed' := by
    rcases hgo.owed_after ht' with ht' | hsame
    · have hnone := hgo.unowed_of_other ho (Task.holds_of_owed howed) ht'
        (hid'.trans (hid.trans htid.symm))
      cases hnone.symm.trans howed'
    · cases hnext.symm.trans (hsame.symm.trans howed')

/-- A turn that sends a message and owes the entry from then on. -/
theorem Balances.of_owed {x : Receipt} (ho : s.IsOrderly) (h : s.Balances e xs)
    (hgo : s.TakesTurn s' t before after e e') (htid : t.executionId = e.id) (hid : e'.id = e.id)
    (hown : ExecutionStorage.get s'.runner.executions e'.id = some e') (hholds : t.Holds)
    (howed : t.stage.owed? = none) (hlog : e'.deliveries = e.deliveries)
    (hnext : (s.runner.stepTask t).2.owed? = some x.text) : s'.Balances e' (xs ++ [x]) where
  found := hown
  even heven := by
    rcases hgo.queued with ⟨stage, hstage, hq⟩ | ⟨result, hdone, _⟩
    · have hnone := heven { t with stage := stage } (hq ▸ List.mem_append_right _ List.mem_cons_self)
        (htid.trans hid.symm)
      rw [hstage] at hnext
      cases hnone.symm.trans hnext
    · rw [hdone] at hnext
      cases hnext
  owing t' ht' hid' text howed' := by
    rcases hgo.owed_after ht' with ht' | hsame
    · have hnone := hgo.unowed_of_other ho hholds ht' (hid'.trans (hid.trans htid.symm))
      cases hnone.symm.trans howed'
    · rw [hsame, hnext] at howed'
      cases howed'
      refine ⟨xs, x, rfl, rfl, hlog ▸ h.even fun t' ht' hid' => ?_⟩
      rcases hgo.eq_or_mem ht' with rfl | ht'
      · exact howed
      · exact hgo.unowed_of_other ho hholds ht' (hid'.trans htid.symm)

/-- **A turn of a task of the execution** leaves the account as it is, pays what is owed, or borrows. -/
theorem Balances.of_turn (ho : s.IsOrderly) (h : s.Balances e xs)
    (hgo : s.TakesTurn s' t before after e e') (htid : t.executionId = e.id) :
    s'.Balances e' (xs ++ (s.runner.receipt? t).toList) := by
  have hid : e'.id = e.id := (hgo.keeps ho).2.1.id
  have hown : ExecutionStorage.get s'.runner.executions e'.id = some e' :=
    (hid.trans htid.symm) ▸ hgo.revises.own
  have haccounts := hgo.turn.accounts rfl
  generalize s.runner.receipt? t = out at haccounts
  cases haccounts with
  | quiet hlog howed hnext =>
    rw [Option.toList_none, List.append_nil]
    exact h.of_quiet hgo hid hown hlog howed hnext
  | pays text entry howed hentry hlog hnext =>
    rw [Option.toList_none, List.append_nil]
    exact h.of_paid ho hgo htid hid hown howed hentry hlog hnext
  | owes x hstage howed hlog hnext =>
    exact h.of_owed ho hgo htid hid hown (Task.holds_of_interpreting hstage) howed hlog hnext

/-- **A turn of any task.** -/
theorem Balances.go (ho : s.IsOrderly) (h : s.Balances e xs) (place : Nat) :
    ∃ e', (s.apply (.go place)).Balances e'
        (xs ++ (s.receipt? (.go place)).toList.filter fun x => x.executionId = e.id) ∧
      e'.id = e.id := by
  cases hplace : s.runner.queue[place]? with
  | none =>
    rw [apply_go_of_place_none hplace, receipt?_of_place_none hplace]
    exact ⟨e, (List.append_nil xs).symm ▸ h, rfl⟩
  | some t =>
    rw [receipt?_of_place hplace]
    rcases apply_go_of_place ho.sound (ho.exists_of_held (List.mem_of_getElem? hplace)) hplace with
      ⟨before, after, hdrop⟩ | ⟨before, after, e₁, e₁', hgo⟩
    · have hwake := Stage.eq_wake_of_role hdrop.waking
      rw [Runner.receipt?_of_not_act fun walk node heq => by rw [hwake] at heq; cases heq]
      refine ⟨e, ?_, rfl⟩
      rw [Option.toList_none, List.filter_nil, List.append_nil]
      refine h.of_same (hdrop.executions ▸ h.found) fun t' _ howed => hdrop.mem_iff ?_
      rintro rfl
      rw [hwake] at howed
      exact howed rfl
    · by_cases htid : t.executionId = e.id
      · have hsame : e₁ = e := Option.some.inj (hgo.found.symm.trans (htid ▸ h.found))
        subst hsame
        refine ⟨e₁', ?_, (hgo.keeps ho).2.1.id⟩
        rw [List.filter_eq_self.mpr fun x hx => decide_eq_true
          ((Runner.executionId_of_receipt? (Option.mem_toList.mp hx)).trans htid)]
        exact h.of_turn ho hgo htid
      · refine ⟨e, ?_, rfl⟩
        rw [List.filter_eq_nil_iff.mpr fun x hx heq => htid
          ((Runner.executionId_of_receipt? (Option.mem_toList.mp hx)).symm.trans
            (of_decide_eq_true heq)), List.append_nil]
        exact h.of_same ((hgo.revises.others _ (Ne.symm htid)).trans h.found) fun t' hid' _ =>
          hgo.mem_iff_of_other (hid'.trans_ne (Ne.symm htid))

omit [AutomationStorage α] [LawfulExecutions ε] in
/-- Only a turn has a receipt. -/
theorem receipt?_of_not_go {event : Event α ν} (hevent : ∀ place, event ≠ .go place) :
    s.receipt? event = none := by
  cases event with
  | go place => exact absurd rfl (hevent place)
  | _ => rfl

/-- **Every event that tears no task out of a step** keeps the account. -/
theorem Balances.apply (ho : s.IsOrderly) (h : s.Balances e xs) {event : Event α ν}
    (hgraceful : event.IsGraceful) :
    ∃ e', (s.apply event).Balances e'
        (xs ++ (s.receipt? event).toList.filter fun x => x.executionId = e.id) ∧ e'.id = e.id := by
  by_cases hgo : ∃ place, event = .go place
  · obtain ⟨place, rfl⟩ := hgo
    exact h.go ho place
  have hgo : ∀ place, event ≠ .go place := fun place heq => hgo ⟨place, heq⟩
  have hfound := (passes_of_not_go ho.toIsSound hgo).2 h.found
  refine ⟨e, ?_, rfl⟩
  rw [receipt?_of_not_go hgo, Option.toList_none, List.filter_nil, List.append_nil]
  rcases queue_of_not_go ho.toIsSound hgo with ⟨new, hqueue, hnew⟩ | ⟨hempty, hcrash | hbetween⟩
  · refine h.of_same hfound fun t _ howed => ?_
    rw [hqueue, List.mem_append, or_iff_left]
    intro ht
    rcases hnew t ht with hstage | ⟨hstage, _⟩ <;> rw [hstage] at howed <;> exact howed rfl
  · subst hcrash
    exact hgraceful.elim
  · refine h.of_same hfound fun t _ howed => ?_
    rw [hempty, iff_of_false List.not_mem_nil]
    intro ht
    obtain ⟨text, htext⟩ := Option.ne_none_iff_exists'.mp howed
    cases (Stage.isWithinStep_of_owed htext).symm.trans (hbetween t ht)

/-- **A run of such events** without a race. -/
theorem Balances.run (ho : s.IsOrderly) (h : s.Balances e xs) {events : List (Event α ν)}
    (hfree : s.RaceFree events) (hgraceful : ∀ event ∈ events, event.IsGraceful) :
    ∃ e', (s.run events).Balances e'
        (xs ++ (s.receipts events).filter fun x => x.executionId = e.id) ∧ e'.id = e.id := by
  induction events generalizing s e xs with
  | nil => exact ⟨e, (List.append_nil xs).symm ▸ h, rfl⟩
  | cons event events ih =>
    rw [List.forall_mem_cons] at hgraceful
    obtain ⟨e₁, h₁, hid₁⟩ := h.apply ho hgraceful.1
    obtain ⟨e₂, h₂, hid₂⟩ := ih (isOrderly_apply ho hfree.1).1 h₁ hfree.2 hgraceful.2
    rw [hid₁, List.append_assoc, ← List.filter_append] at h₂
    exact ⟨e₂, h₂, hid₂.trans hid₁⟩

omit [AutomationStorage α] [Notifier ν] in
/-- An execution that is begun has nothing to account for. -/
theorem balances_began {r : Runner α ε ν} {a : Automation} {subject : String} (ho : s.IsOrderly)
    (hbegan : s.runner.Began r (s.runner.newRecord a subject)) :
    Balances ⟨r, s.sent⟩ (s.runner.newRecord a subject) [] where
  found := hbegan.revises.own
  even _ := .nil
  owing t ht hid text howed := by
    have ht' : t ∈ r.queue := ht
    rw [hbegan.queue, List.mem_append, List.mem_singleton] at ht'
    rcases ht' with ht' | rfl
    · obtain ⟨e, he, _⟩ := ho.held t ht' (Task.holds_of_owed howed)
      rw [hid] at he
      cases ho.free.symm.trans he
    · cases howed

end Session

/-! ## 4. After a failure -/

/-- A stage from which a task comes to no delivery, if it does not resume its execution. -/
def Stage.isMute : Stage → Bool
  | .wake => true
  | .failing _ _ => true
  | .closing => true
  | _ => false

namespace Runner

variable {α ε ν : Type} [AutomationStorage α] [ExecutionStorage ε] [Notifier ν] {r : Runner α ε ν}
  {t : Task}

/-- **The step of a node raises**: it has a fault before any delivery, or its delivery is refused. -/
def Raises (r : Runner α ε ν) (t : Task) : Prop :=
  ∃ walk node, t.stage = .act walk node ∧
    ((∃ fault, Step.plan walk.graph walk.subject r.clock node = .error fault) ∨
      ∃ message next fault, Step.plan walk.graph walk.subject r.clock node =
        .ok (.deliver message next) ∧ r.answer walk.subject message = .error fault)

theorem Raises.fails (h : r.Raises t) :
    ∃ entry error, (r.stepTask t).2 = .stage (.failing entry error) := by
  obtain ⟨walk, node, hstage, hraises⟩ := h
  unfold stepTask
  rw [hstage]
  show ∃ entry error, (r.stepAct t.setup walk node).2 = _
  unfold stepAct
  rcases hraises with ⟨fault, hplan⟩ | ⟨message, next, fault, hplan, hanswer⟩
  · simp only [hplan]
    exact ⟨_, _, rfl⟩
  · unfold answer at hanswer
    simp only [hplan, hanswer]
    exact ⟨_, _, rfl⟩

/-- **Without a message or an edge out of it, an action fails before anybody is asked**: the notifier
    and everything else is as it was. -/
theorem stepTask_of_undeliverable {walk : Walk} {node : Node} (hstage : t.stage = .act walk node)
    (hkind : node.kind = .action)
    (hlacks : node.message?.getD "" = "" ∨ walk.graph.outgoing node.id = []) :
    ∃ fault, r.stepTask t =
      (r, .stage (.failing (some (node.id, NodeKind.action.text)) fault)) := by
  unfold stepTask
  rw [hstage]
  show ∃ fault, r.stepAct t.setup walk node = _
  unfold stepAct
  cases hplan : Step.plan walk.graph walk.subject r.clock node with
  | error fault =>
    simp only [hkind]
    exact ⟨_, rfl⟩
  | ok plan =>
    obtain ⟨message, next, _, hdata, hmessage, hnext⟩ := Step.deliver_of_kind hkind hplan
    rcases hlacks with hnone | hnone
    · unfold Node.message? at hnone
      rw [hkind, hdata] at hnone
      exact absurd hnone hmessage
    · unfold Graph.successor? at hnext
      rw [hnone] at hnext
      cases hnext

variable [LawfulExecutions ε] {id : String} {setup : Setup} {e e' : Execution} {stage : Stage}
  {next : Next} {sent : Option Sending}

/-- A task without a delivery in sight stays so, and suspends nothing. -/
theorem Turn.mute (h : Turn r id setup e stage e' next sent) (hmute : stage.isMute = true)
    (hawake : e.isSuspended = false) :
    e'.isSuspended = false ∧ ∀ later, next = .stage later → later.isMute = true := by
  cases h with
  | failingQuiet => exact ⟨hawake, by rintro _ ⟨rfl⟩; rfl⟩
  | failing => exact ⟨hawake, by rintro _ ⟨rfl⟩; rfl⟩
  | closing =>
    exact ⟨isSuspended_of_status (show Status.failed ≠ .pending by decide), fun _ h => nomatch h⟩
  | wakeStale => exact ⟨hawake, fun _ h => nomatch h⟩
  | wakeUnread fault hsuspended => cases hawake.symm.trans hsuspended
  | wakeGone timer hsuspended => cases hawake.symm.trans hsuspended
  | wake a target timer hsuspended => cases hawake.symm.trans hsuspended
  | wakeNowhere a timer hsuspended => cases hawake.symm.trans hsuspended
  | _ => cases hmute

end Runner

namespace Session

variable {α ε ν : Type} [AutomationStorage α] [ExecutionStorage ε] [Notifier ν]
  [LawfulExecutions ε] {s s' : Session α ε ν} {id : String}

/-- **An execution of which nothing more is sent**: it is not suspended, and its tasks are resumptions
    and those that close it. -/
structure IsSilenced (s : Session α ε ν) (id : String) : Prop where
  awake : ∃ e, ExecutionStorage.get s.runner.executions id = some e ∧ e.isSuspended = false
  mute : ∀ t ∈ s.runner.queue, t.executionId = id → t.stage.isMute = true

/-- **A step that raises silences its execution** where nobody else holds it. -/
theorem isSilenced_of_raises (ho : s.IsOrderly) {place : Nat} {t : Task}
    (hplace : s.runner.queue[place]? = some t) (hraises : s.runner.Raises t) :
    (s.apply (.go place)).IsSilenced t.executionId := by
  obtain ⟨entry, error, hfails⟩ := hraises.fails
  obtain ⟨walk, node, hact, _⟩ := hraises
  have hrole : t.stage.role = .interpreting := by
    rw [hact]
    rfl
  rcases apply_go_of_place ho.sound (ho.exists_of_held (List.mem_of_getElem? hplace)) hplace with
    ⟨before, after, hdrop⟩ | ⟨before, after, e, e', hgo⟩
  · cases hdrop.waking.symm.trans hrole
  · obtain ⟨_, hfits⟩ := (hgo.keeps ho).2.2 _ hfails
    refine ⟨⟨e', hgo.revises.own, Execution.Fits.not_suspended hfits⟩, fun t' ht' hid => ?_⟩
    rcases hgo.mem_queued ht' with ht' | ⟨stage, hstage, rfl⟩
    · have hwaking : t'.stage.role = .waking := not_not.mp fun hholds =>
        (hgo.apart ho).1 t' ht' (Task.holds_of_interpreting hrole) hholds hid.symm
      rw [Stage.eq_wake_of_role hwaking]
      rfl
    · cases hstage.symm.trans hfails
      rfl

/-- **No event breaks the silence**, not even one that races. -/
theorem IsSilenced.apply (ho : s.IsSound) (h : s.IsSilenced id) (event : Event α ν) :
    (s.apply event).IsSilenced id := by
  obtain ⟨e, hfound, hawake⟩ := h.awake
  by_cases hgo : ∃ place, event = .go place
  · obtain ⟨place, rfl⟩ := hgo
    rcases apply_go_cases ho.sound ho.exists_of_held place with
      hnone | ⟨t, before, after, hdrop⟩ | ⟨t, before, after, e₁, e₁', hgo⟩
    · rw [hnone]
      exact h
    · exact ⟨⟨e, hdrop.executions ▸ hfound, hawake⟩, fun t' ht' hid =>
        h.mute t' (hdrop.mem_of_queued ht') hid⟩
    · by_cases htid : t.executionId = id
      · have hsame : e₁ = e := Option.some.inj (hgo.found.symm.trans (htid ▸ hfound))
        subst hsame
        obtain ⟨hawake', hmute⟩ := hgo.turn.mute (h.mute t hgo.mem htid) hawake
        refine ⟨⟨e₁', htid ▸ hgo.revises.own, hawake'⟩, fun t' ht' hid => ?_⟩
        rcases hgo.mem_queued ht' with ht' | ⟨stage, hstage, rfl⟩
        · exact h.mute t' (hgo.mem_of_other ht') hid
        · exact hmute stage hstage
      · refine ⟨⟨e, (hgo.revises.others id (Ne.symm htid)).trans hfound, hawake⟩,
          fun t' ht' hid => ?_⟩
        exact h.mute t' ((hgo.mem_iff_of_other (hid.trans_ne (Ne.symm htid))).mp ht') hid
  · have hgo : ∀ place, event ≠ .go place := fun place heq => hgo ⟨place, heq⟩
    refine ⟨⟨e, (passes_of_not_go ho hgo).2 hfound, hawake⟩, fun t ht hid => ?_⟩
    rcases queue_of_not_go ho hgo with ⟨new, hqueue, hnew⟩ | ⟨hempty, _⟩
    · rw [hqueue, List.mem_append] at ht
      rcases ht with ht | ht
      · exact h.mute t ht hid
      · rcases hnew t ht with hstage | ⟨_, hfree⟩
        · rw [hstage]
          rfl
        · rw [hid, hfound] at hfree
          cases hfree
    · rw [hempty] at ht
      exact absurd ht List.not_mem_nil

omit [AutomationStorage α] [LawfulExecutions ε] in
theorem IsSilenced.receipt?_ne (h : s.IsSilenced id) {event : Event α ν} {x : Receipt}
    (hx : s.receipt? event = some x) : x.executionId ≠ id := by
  intro hid
  cases event with
  | go place =>
    cases hplace : s.runner.queue[place]? with
    | none =>
      rw [receipt?_of_place_none hplace] at hx
      cases hx
    | some t =>
      rw [receipt?_of_place hplace] at hx
      have hmute := h.mute t (List.mem_of_getElem? hplace)
        ((Runner.executionId_of_receipt? hx).symm.trans hid)
      rw [Runner.receipt?_of_not_act fun walk node hstage => by rw [hstage] at hmute; cases hmute] at hx
      cases hx
  | _ => cases hx

/-- **Nothing is sent any more, whatever happens.** -/
theorem IsSilenced.receipts_eq_nil (ho : s.IsSound) (h : s.IsSilenced id)
    (events : List (Event α ν)) :
    (s.receipts events).filter (fun x => x.executionId = id) = [] := by
  induction events generalizing s with
  | nil => rfl
  | cons event events ih =>
    rw [receipts, List.filter_append, ih (isSound_apply ho event).1 (h.apply ho event),
      List.append_nil, List.filter_eq_nil_iff]
    exact fun x hx => by simpa using h.receipt?_ne (Option.mem_toList.mp hx)

end Session

/-! ## 5. Log and messages -/

namespace Runner

variable {α ε ν : Type} [ExecutionStorage ε]

/-- An execution is put into the store by hand, for any automation and any subject, and the interpreter
    is called for it. -/
def launch (r : Runner α ε ν) (automationId subject : String) : Runner α ε ν :=
  let created := ExecutionStorage.create r.executions
    ⟨"", automationId, subject, .pending, none, [], none, none, none⟩ r.clock r.ids
  dispatch { r with executions := created.store, ids := created.ids } r.ids.next.1

/-- It begins like one that was started. -/
theorem launch_began [LawfulExecutions ε] {r : Runner α ε ν}
    (hs : LawfulExecutions.Sound r.executions)
    (hfree : ExecutionStorage.get r.executions r.ids.next.1 = none) (a : Automation)
    (subject : String) : r.Began (r.launch a.id subject) (r.newRecord a subject) := by
  obtain ⟨s', hcreate, hsound, hown, hothers⟩ := LawfulExecutions.create_free
    (e := ⟨"", a.id, subject, .pending, none, [], none, none, none⟩) r.clock hs hfree
  unfold launch
  simp only [hcreate]
  exact ⟨⟨hsound, hown, hothers⟩, rfl, rfl, rfl⟩

end Runner

namespace Session

variable {α ε ν : Type} [AutomationStorage α] [ExecutionStorage ε] [Notifier ν]
  [LawfulExecutions ε] {s : Session α ε ν}

/-- **The log tells exactly what was sent.** An execution begins, for any automation and any subject, and
    whatever happens from then on. (1) Between two steps, if no resumptions raced and no crash tore a task
    out of a step, the entries of actions without error tell one by one and in order of the messages that
    the notifier took for it: by their first characters and by their delivery ids. (2) A task at an action
    without a message, or without an edge out of it, fails and asks nobody to send. (3) Once a step has
    raised or a message was refused, nothing more is sent for the execution, whatever happens, crashes and
    races from then on, if nothing has raced before. -/
theorem log_tells_what_was_sent (ho : s.IsOrderly) {r : Runner α ε ν} {a : Automation}
    {subject : String} (hbegan : s.runner.Began r (s.runner.newRecord a subject))
    (later : List (Event α ν)) :
    let id := (s.runner.newRecord a subject).id
    let begun : Session α ε ν := ⟨r, s.sent⟩
    let now := begun.run later
    (begun.RaceFree later → (∀ event ∈ later, event.IsGraceful) →
        (∀ t ∈ now.runner.queue, t.executionId = id → t.stage.isWithinStep = false) →
        ∃ e, ExecutionStorage.get now.runner.executions id = some e ∧
          List.Forall₂ LogEntry.Tells e.deliveries
            ((begun.receipts later).filter fun x => x.executionId = id)) ∧
      (∀ t ∈ now.runner.queue, ∀ walk node, t.stage = .act walk node → node.kind = .action →
        (node.message?.getD "" = "" ∨ walk.graph.outgoing node.id = []) →
        ∃ fault, now.runner.stepTask t =
          (now.runner, .stage (.failing (some (node.id, NodeKind.action.text)) fault))) ∧
      (begun.RaceFree later → ∀ place t, now.runner.queue[place]? = some t → t.executionId = id →
        now.runner.Raises t →
        ∀ rest, ((now.apply (.go place)).receipts rest).filter (fun x => x.executionId = id) = []) := by
  intro id begun now
  have ho₁ : begun.IsOrderly := ho.of_began hbegan
  refine ⟨fun hfree hgraceful hbetween => ?_, fun t _ walk node hstage hkind hlacks =>
    Runner.stepTask_of_undeliverable hstage hkind hlacks,
    fun hfree place t hplace hid hraises rest => ?_⟩
  · obtain ⟨e, hbalances, hid⟩ := (balances_began ho hbegan).run ho₁ hfree hgraceful
    have hfound := hbalances.found
    rw [hid] at hfound
    refine ⟨e, hfound, hbalances.even fun t ht hown => ?_⟩
    cases howed : t.stage.owed? with
    | none => rfl
    | some text =>
      cases (Stage.isWithinStep_of_owed howed).symm.trans (hbetween t ht (hown.trans hid))
  · have ho₂ : now.IsOrderly := isOrderly_run ho₁ hfree
    rw [← hid]
    exact (isSilenced_of_raises ho₂ hplace hraises).receipts_eq_nil
      (isSound_apply ho₂.toIsSound (.go place)).1 rest

/-- A flow that no check would accept: its second action leads nowhere. -/
def danglingFlow : Flow where
  nodes :=
    [⟨"start", .start, .empty⟩, ⟨"one", .action, .action (some "hello")⟩,
      ⟨"two", .action, .action (some "again")⟩]
  edges := [⟨"e1", "start", "one", none⟩, ⟨"e2", "one", "two", none⟩]

/-- A session with that flow, whose log quotes four characters. -/
def danglingSession : Session MemoryAutomations MemoryExecutions Outbox :=
  opened ⟨Keyed.empty.put "loose" ⟨"loose", "Loose", danglingFlow, none, none⟩⟩ .empty
    Moment.first ⟨0⟩ 4 50

theorem log_tells_what_was_sent_dangling :
    let begun : Session MemoryAutomations MemoryExecutions Outbox :=
      ⟨danglingSession.runner.launch "loose" "ann", []⟩
    let now := begun.run (List.replicate 16 (.go 0))
    (∃ e, ExecutionStorage.get now.runner.executions "id-1" = some e ∧
        List.Forall₂ LogEntry.Tells e.deliveries
          ((begun.receipts (List.replicate 16 (.go 0))).filter fun x => x.executionId = "id-1")) ∧
      (∀ t ∈ now.runner.queue, ∀ walk node, t.stage = .act walk node → node.kind = .action →
        (node.message?.getD "" = "" ∨ walk.graph.outgoing node.id = []) →
        ∃ fault, now.runner.stepTask t =
          (now.runner, .stage (.failing (some (node.id, NodeKind.action.text)) fault))) ∧
      ∀ place t, now.runner.queue[place]? = some t → t.executionId = "id-1" →
        now.runner.Raises t →
        ∀ rest, ((now.apply (.go place)).receipts rest).filter
          (fun x => x.executionId = "id-1") = [] := by
  have ho : danglingSession.IsOrderly := isOrderly_opened _ _ _ _ _ _
  obtain ⟨htold, hunsent, hsilent⟩ := log_tells_what_was_sent ho
    (Runner.launch_began ho.sound ho.free ⟨"loose", "Loose", danglingFlow, none, none⟩ "ann")
    (List.replicate 16 (.go 0))
  have hfree : (⟨danglingSession.runner.launch "loose" "ann", []⟩ :
      Session MemoryAutomations MemoryExecutions Outbox).RaceFree (List.replicate 16 (.go 0)) := by
    decide +kernel
  have hidle : (Session.run (⟨danglingSession.runner.launch "loose" "ann", []⟩ :
      Session MemoryAutomations MemoryExecutions Outbox) (List.replicate 16 (.go 0))).runner.queue = [] :=
    List.isEmpty_iff.mp (by decide +kernel)
  refine ⟨htold hfree (fun event hevent => ?_) fun t ht => ?_, hunsent, hsilent hfree⟩
  · rw [(List.mem_replicate.mp hevent).2]
    trivial
  · exact absurd (hidle ▸ ht) List.not_mem_nil

/-- The notifier refuses everything, the first of two racing resumptions fails, and the notifier takes
    messages again. -/
def failedAwake : List (Event MemoryAutomations Outbox) :=
  bothAwake ++ .equip ⟨some "refused", []⟩ 50 50 :: List.replicate 6 (.go 0) ++ [.equip .empty 50 50]

/-- **A race sends after a failure**: the delivery of one resumption was refused, and its execution is
    failed; the other one is under way all the same, and sends. -/
theorem race_sends_after_failure :
    let failed := reminderSession.run failedAwake
    let now := failed.run (List.replicate 10 (.go 0))
    let errors : Session MemoryAutomations ExecutionTable Outbox →
        Option (Status × List (Option String)) := fun s =>
      (ExecutionStorage.get s.runner.executions "id-1").map fun e => (e.status, e.log.map LogEntry.error)
    errors failed = some (.failed, [none, none, some "refused"]) ∧ failed.sent = [] ∧
      errors now = some (.completed, [none, none, some "refused", none, none]) ∧
      now.sent.map Sending.message = ["hello"] := by
  decide +kernel

end Session

end Dripline
