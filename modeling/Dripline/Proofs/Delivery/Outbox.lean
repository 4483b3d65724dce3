import Dripline.Delivery.Outbox
import Dripline.Proofs.Run.Session

/-!
# What is sent is what an outbox keeps

The messages that a session counts as sent are those that an outbox holds as deliveries, in the same
order: `stepTask_letters` for one stage, `IsRecorded.apply` and `IsRecorded.run` for a session whose
outbox is not exchanged.
-/

namespace Dripline

/-- What a delivery has in common with a sending. -/
def Delivery.letter (d : Delivery) : String × String := (d.subject, d.message)

/-- What a sending has in common with a delivery. -/
def Sending.letter (x : Sending) : String × String := (x.subject, x.message)

/-- An outbox keeps what it accepts, and nothing else. -/
theorem Outbox.send_cases (o : Outbox) (executions : List Execution) (subject message : String) :
    (∃ fault, (o.send executions subject message).outcome = .error fault ∧
        (o.send executions subject message).notifier = o) ∨
      ∃ id, (o.send executions subject message).outcome = .ok id ∧
        (o.send executions subject message).notifier.deliveries.map Delivery.letter =
          o.deliveries.map Delivery.letter ++ [(subject, message)] := by
  unfold send
  cases o.failure with
  | some text => exact .inl ⟨_, rfl, rfl⟩
  | none => exact .inr ⟨_, rfl, by rw [List.map_append]; rfl⟩

variable {α ε : Type} [AutomationStorage α] [ExecutionStorage ε]

namespace Runner

/-- **A stage delivers what it sends**, and nothing else. -/
theorem stepTask_letters (r : Runner α ε Outbox) (t : Task) :
    (r.stepTask t).1.notifier.deliveries.map Delivery.letter =
      r.notifier.deliveries.map Delivery.letter ++
        (r.sending? t).toList.map Sending.letter := by
  by_cases hact : ∃ walk node, t.stage = .act walk node
  · obtain ⟨walk, node, hstage⟩ := hact
    have hstep : r.stepTask t = r.stepAct t.setup walk node := by
      unfold stepTask
      rw [hstage]
    rw [hstep]
    unfold stepAct sending? answer
    simp only [hstage]
    cases Step.plan walk.graph walk.subject r.clock node with
    | error fault => exact (List.append_nil _).symm
    | ok plan =>
      cases plan with
      | settled result => exact (List.append_nil _).symm
      | deliver message next =>
        dsimp only
        rcases r.notifier.send_cases (ExecutionStorage.all r.executions) walk.subject message with
          ⟨fault, houtcome, hkept⟩ | ⟨id, houtcome, hkept⟩
        · rw [show (Notifier.send r.notifier _ walk.subject message).outcome = _ from houtcome]
          show List.map Delivery.letter (r.notifier.send _ _ _).notifier.deliveries = _
          rw [hkept]
          exact (List.append_nil _).symm
        · rw [show (Notifier.send r.notifier _ walk.subject message).outcome = _ from houtcome]
          exact hkept
  · have hsilent : ∀ walk node, t.stage ≠ .act walk node := fun walk node hstage =>
      hact ⟨walk, node, hstage⟩
    rw [(stepTask_silent hsilent).notifier, sending?_of_not_act hsilent]
    exact (List.append_nil _).symm

theorem goOn_notifier {ν : Type} [Notifier ν] (r : Runner α ε ν) (place : Nat) (t : Task) :
    (r.goOn place t).notifier = (r.stepTask t).1.notifier := by
  unfold goOn
  cases r.stepTask t with
  | mk r' next =>
    cases next with
    | stage stage => rfl
    | done result => exact (r'.tellResult_keeps t.origin result).2.notifier

theorem start_notifier {ν : Type} (r : Runner α ε ν) (id : String) (subject : Option String) :
    (r.start id subject).2.notifier = r.notifier := by
  unfold start
  split
  · rfl
  · split
    · rfl
    · rfl
    · split
      · rfl
      · rfl
      · dsimp only
        split <;> rfl

end Runner

namespace Session

variable {s : Session α ε Outbox}

/-- The outbox holds what was sent. -/
def IsRecorded (s : Session α ε Outbox) : Prop :=
  s.runner.notifier.deliveries.map Delivery.letter = s.sent.map Sending.letter

/-- **An event that leaves the deliveries to the session** keeps the outbox in agreement. -/
theorem IsRecorded.apply (h : s.IsRecorded) {event : Event α Outbox}
    (hkept : ∀ outbox previewChars recentLimit, event = .equip outbox previewChars recentLimit →
      outbox.deliveries = s.runner.notifier.deliveries) : (s.apply event).IsRecorded := by
  unfold IsRecorded at h ⊢
  unfold Session.apply
  cases event with
  | start id subject =>
    dsimp only
    rw [s.runner.start_notifier id subject]
    exact h
  | equip outbox previewChars recentLimit =>
    dsimp only
    rw [hkept outbox previewChars recentLimit rfl]
    exact h
  | recover =>
    dsimp only
    rw [s.runner.recover_keeps.2.notifier]
    exact h
  | rearm listed =>
    dsimp only
    rw [(s.runner.rearmAll_keeps listed).2.notifier]
    exact h
  | go place =>
    cases hplace : s.runner.queue[place]? with
    | none =>
      simp only [hplace]
      exact h
    | some t =>
      simp only [hplace]
      rw [s.runner.goOn_notifier place t, s.runner.stepTask_letters t, h, List.map_append]
  | reopen =>
    dsimp only
    split <;> exact h
  | _ => exact h

/-- **A run whose outbox is not exchanged** keeps it in agreement. -/
theorem IsRecorded.run (h : s.IsRecorded) {events : List (Event α Outbox)}
    (hkept : ∀ event ∈ events, ∀ outbox previewChars recentLimit,
      event ≠ .equip outbox previewChars recentLimit) : (s.run events).IsRecorded :=
  run_induction IsRecorded _ (fun _ _ hother hrecorded => hrecorded.apply
    fun outbox previewChars recentLimit e => absurd e (hother outbox previewChars recentLimit))
    hkept h

end Session

end Dripline
