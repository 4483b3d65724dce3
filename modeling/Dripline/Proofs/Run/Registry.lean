import Dripline.Store.Table
import Dripline.Proofs.Run.Pairing
import Dripline.Proofs.Run.Uniform
import Dripline.Proofs.Run.Course

/-!
# The registry of timers is an index over the records

A record that is pending and scheduled is the only thing that says that an execution is suspended, and
the timers follow it:

* `Tracks`: a timer is due when its record says, it is known by its serial number to the resumption that
  will release it, and unless it waits there is a resumption on its way;
* `Covers`: an execution whose record is scheduled has a timer, and so has every resumption that is on
  its way (`Attended`);
* `Tracks.apply`, `Covers.apply`: one event at a time, on top of what timers and resumptions do
  (`Pairs.apply`). A resumption whose automation cannot be read gives up its timer and leaves the record
  as it is, so that executions stay covered only as long as their automations can be read;
* **`registry_indexes_suspensions`**: with nothing queued, the timers are the suspended executions, each
  with its own moment, and a recovery builds the same registry again.
-/

namespace Dripline

/-- The moment at which a suspended execution goes on. -/
def Execution.waitsFor? (e : Execution) : Option Moment :=
  if e.status = .pending then e.scheduledFor else none

theorem Execution.waitsFor?_of_fits {e : Execution} (h : e.Fits .interpreting) :
    e.waitsFor? = none := by
  unfold Execution.waitsFor?
  rw [h.2]
  exact ite_self none

theorem Execution.waitsFor?_of_status {e : Execution} (h : e.status ≠ .pending) :
    e.waitsFor? = none := if_neg h

theorem Execution.waitsFor?_eq_some_iff {e : Execution} {due : Moment} :
    e.waitsFor? = some due ↔ e.isSuspended = true ∧ e.scheduledFor = some due := by
  rw [Execution.isSuspended_iff]
  unfold Execution.waitsFor?
  constructor
  · intro h
    split at h
    · rename_i hpending
      exact ⟨⟨hpending, by rw [h]; rfl⟩, h⟩
    · cases h
  · rintro ⟨⟨hpending, _⟩, hdue⟩
    rw [if_pos hpending, hdue]

theorem Execution.waitsFor?_of_awake {e : Execution} (h : e.isSuspended = false) :
    e.waitsFor? = none := by
  cases hdue : e.waitsFor? with
  | none => rfl
  | some due => rw [(Execution.waitsFor?_eq_some_iff.mp hdue).1] at h; cases h

/-- A resumption that is on its way leaves the record scheduled as it is. -/
theorem Runner.Turn.waitsFor?_of_resuming {α ε ν : Type} [AutomationStorage α] [ExecutionStorage ε]
    [Notifier ν] [LawfulExecutions ε] {r : Runner α ε ν} {id : String} {setup : Setup}
    {e e' : Execution} {stage stage' : Stage} {sent : Option Sending}
    (h : Turn r id setup e stage e' (.stage stage') sent) (hrole : stage'.role = .resuming) :
    e'.waitsFor? = e.waitsFor? := by
  cases h <;> first | rfl | cases hrole

/-- An event in the life of one runner, which never gives up its timers all at once, and whose recoveries
    arm timers for what is suspended at that time. -/
def Event.IsOngoing {α ν : Type} : Event α ν → Prop
  | .rearm _ => False
  | .disarm => False
  | .reopen => False
  | .crash => False
  | _ => True

theorem Event.IsOngoing.eq_recover {α ν : Type} {event : Event α ν} (h : event.IsOngoing)
    (harms : event.Arms) : event = .recover := by
  cases event with
  | recover => rfl
  | rearm listed => exact h.elim
  | _ => exact harms.elim

namespace Session

/-! ## 1. What timers say -/

section

variable {α ε ν : Type} [ExecutionStorage ε] {s s' : Session α ε ν} {id : String}

/-- The moment at which an execution goes on, according to the store. -/
def due? (s : Session α ε ν) (id : String) : Option Moment :=
  (ExecutionStorage.get s.runner.executions id).bind Execution.waitsFor?

/-- **The timer of an execution follows its record.** -/
structure Tracks (s : Session α ε ν) (id : String) : Prop where
  due : ∀ timer, s.runner.timers.get? id = some timer → s.due? id = some timer.due
  carried : ∀ t ∈ s.runner.queue, t.executionId = id → t.stage.role = .resuming →
    ∀ timer, s.runner.timers.get? id = some timer →
      t.stage.timer? = some timer.serial ∧ timer.phase ≠ .waiting
  awaited : ∀ timer, s.runner.timers.get? id = some timer → timer.phase ≠ .waiting →
    ∃ t ∈ s.runner.queue, t.executionId = id ∧ t.stage.role ≠ .interpreting

/-- **An execution whose record is scheduled has a timer.** -/
def Covers (s : Session α ε ν) (id : String) : Prop :=
  ∀ due, s.due? id = some due → (s.runner.timers.get? id).isSome = true

theorem due?_eq (h : ExecutionStorage.get s.runner.executions id = some e) :
    s.due? id = e.waitsFor? := by
  unfold due?
  rw [h, Option.bind_some]

theorem due?_congr (h : ExecutionStorage.get s'.runner.executions id =
    ExecutionStorage.get s.runner.executions id) : s'.due? id = s.due? id := by
  unfold due?
  rw [h]

theorem Tracks.pairs (h : s.Tracks id) : s.Pairs id := ⟨h.carried, h.awaited⟩

/-- The timer of an execution, if it has one, is due when its record says. -/
def IsDueAsWritten (s : Session α ε ν) (id : String) : Prop :=
  ∀ timer, s.runner.timers.get? id = some timer → s.due? id = some timer.due

theorem IsDueAsWritten.of_none (h : s.runner.timers.get? id = none) : s.IsDueAsWritten id :=
  fun _ htimer => nomatch h.symm.trans htimer

theorem IsDueAsWritten.of_same (h : s.IsDueAsWritten id)
    (htimers : s'.runner.timers.get? id = s.runner.timers.get? id) (hdue : s'.due? id = s.due? id) :
    s'.IsDueAsWritten id := by
  intro timer htimer
  rw [hdue]
  exact h timer (htimers ▸ htimer)

theorem Tracks.of_none (h : s.runner.timers.get? id = none) : s.Tracks id :=
  let ⟨hcarried, hawaited⟩ := Pairs.of_none h
  ⟨IsDueAsWritten.of_none h, hcarried, hawaited⟩

theorem Covers.of_same (h : s.Covers id)
    (htimers : s'.runner.timers.get? id = s.runner.timers.get? id) (hdue : s'.due? id = s.due? id) :
    s'.Covers id := by
  intro due hsome
  rw [htimers]
  exact h due (hdue ▸ hsome)

theorem Covers.of_none (h : s.due? id = none) : s.Covers id :=
  fun _ hsome => nomatch h.symm.trans hsome

end

/-! ## 2. Turns -/

variable {α ε ν : Type} [AutomationStorage α] [ExecutionStorage ε] [Notifier ν]
  [LawfulExecutions ε] {s s' : Session α ε ν} {anchored : Bool} {id : String} {t : Task}
  {before after : List Task} {e e' : Execution}

namespace TakesTurn

theorem due?_other (hgo : s.TakesTurn s' t before after e e') (hid : id ≠ t.executionId) :
    s'.due? id = s.due? id := due?_congr (hgo.revises.others id hid)

theorem due?_own (hgo : s.TakesTurn s' t before after e e') :
    s'.due? t.executionId = e'.waitsFor? := due?_eq hgo.revises.own

/-- A resumption on its way leaves the execution suspended as it is. -/
theorem due?_of_resuming (hgo : s.TakesTurn s' t before after e e') {stage : Stage}
    (hstage : (s.runner.stepTask t).2 = .stage stage) (hrole : stage.role = .resuming) :
    s'.due? t.executionId = s.due? t.executionId := by
  have hturn := hgo.turn
  rw [hstage] at hturn
  rw [hgo.due?_own, due?_eq hgo.found]
  exact hturn.waitsFor?_of_resuming hrole

end TakesTurn

/-- A suspension arms a timer for the moment that it writes. -/
theorem TakesTurn.due?_of_suspend [KeepsMoments ε anchored] (hu : s.IsUniform anchored)
    (hgo : s.TakesTurn s' t before after e e') {walk : Walk} {node : Node} {message : String}
    {due : Moment} {result : TaskResult} (hstage : t.stage = .settle walk node (.suspend message due))
    (hdone : (s.runner.stepTask t).2 = .done result) : s'.due? t.executionId = some due := by
  have hkind : due.isAnchored = anchored := hu.dues t hgo.mem due (by rw [hstage]; rfl)
  have hturn := hgo.turn
  rw [hgo.due?_own]
  generalize s.runner.sending? t = sent at hturn
  rw [hstage, hdone] at hturn
  cases hturn
  show some (LawfulExecutions.kept ε due) = some due
  rw [KeepsMoments.kept_eq due hkind]

/-- **A turn of the execution's own task** keeps its timer in line with the record. -/
theorem IsDueAsWritten.of_turn [KeepsMoments ε anchored] (ho : s.IsOrderly)
    (hu : s.IsUniform anchored) (h : s.Tracks t.executionId)
    (hgo : s.TakesTurn s' t before after e e') : s'.IsDueAsWritten t.executionId := by
  have hrings := hgo.rings ho.toIsSound
  have hfits := hgo.fits ho
  have hcarried := h.carried t hgo.mem rfl
  -- an execution that is being interpreted is not scheduled, and so it has no timer
  have hfree : t.stage.role = .interpreting → s.runner.timers.get? t.executionId = none := by
    intro hrole
    rw [hrole] at hfits
    cases htimer : s.runner.timers.get? t.executionId with
    | none => rfl
    | some timer =>
      have hdue := h.due timer htimer
      rw [due?_eq hgo.found, Execution.waitsFor?_of_fits hfits] at hdue
      cases hdue
  generalize hnext : (s.runner.stepTask t).2 = next at hrings
  generalize htimers : s'.runner.timers = timers at hrings
  generalize hstage : t.stage = stage at hrings hfree hcarried
  cases hrings with
  | dropped result => exact .of_none (by rw [htimers]; exact Runner.dropped_own _ _)
  | cancelled stage' hrole htimer =>
    intro timer h'
    rw [htimers] at h'
    obtain ⟨armed, harmed, hsame⟩ := Timers.origin_setPhase _ _ _ h'
    rw [hgo.due?_of_resuming hnext hrole, ← hsame]
    exact h.due armed harmed
  | passed _ stage' hwaking hrole htimer =>
    cases hrole' : stage.role with
    | waking => exact absurd hrole' hwaking
    | interpreting => exact .of_none (by rw [htimers]; exact hfree hrole')
    | resuming =>
      exact .of_same h.due (by rw [htimers]) (hgo.due?_of_resuming hnext (hrole.trans hrole'))
  | released _ _ hrole _ =>
    refine .of_none ?_
    rw [htimers, Timers.release_own]
    cases htimer : s.runner.timers.get? t.executionId with
    | none => exact ite_self none
    | some timer => rw [(hcarried hrole timer htimer).1]; exact if_pos rfl
  | ended _ result hrole => exact .of_none (by rw [htimers]; exact hfree hrole)
  | armed walk node message due result _ =>
    intro timer h'
    rw [htimers, Timers.get?_arm, if_pos rfl] at h'
    cases h'
    exact hgo.due?_of_suspend hu hstage hnext

theorem Tracks.of_turn [KeepsMoments ε anchored] (ho : s.IsOrderly) (hu : s.IsUniform anchored)
    (h : s.Tracks t.executionId) (hgo : s.GoesAlone s' t before after e e') :
    s'.Tracks t.executionId :=
  let ⟨hcarried, hawaited⟩ := h.pairs.of_turn ho hgo
  ⟨IsDueAsWritten.of_turn ho hu h hgo.toTakesTurn, hcarried, hawaited⟩

/-- **A turn of the execution's own task** leaves it a timer when it leaves it suspended, if the
    automation can be read. -/
theorem Covers.of_turn (ho : s.IsOrderly) (htimed : s.IsTimed anchored) (h : s.Covers t.executionId)
    (hgo : s.TakesTurn s' t before after e e')
    (hreads : ∃ found, AutomationStorage.get s.runner.automations e.automationId = .ok found) :
    s'.Covers t.executionId := by
  have hrings := hgo.rings ho.toIsSound
  have hturn := hgo.turn
  have hfits := hgo.fits ho
  have hnextFits := (hgo.keeps ho).2.2
  have hnone : e'.waitsFor? = none → s'.Covers t.executionId := fun hnone =>
    .of_none (hgo.due?_own.trans hnone)
  have harmed : ∀ walk node message due, t.stage = .settle walk node (.suspend message due) →
      (s'.runner.timers.get? t.executionId).isSome = true := by
    intro walk node message due hstage
    have hkind : due.isAnchored = s.runner.clock.isAnchored :=
      (htimed.dues t hgo.mem due (by rw [hstage]; rfl)).trans htimed.clock.symm
    rw [hgo.timers]
    exact Runner.stepTask_armed ho.sound hgo.found hstage (htimed.setups t hgo.mem)
      (Moment.since_of_kind hkind)
  have hdue : ∀ stage, (s.runner.stepTask t).2 = .stage stage → stage.role = .resuming →
      s'.due? t.executionId = s.due? t.executionId := fun _ => hgo.due?_of_resuming
  generalize s.runner.sending? t = sent at hturn
  generalize (s.runner.stepTask t).2 = next at hrings hturn hdue hnextFits
  generalize htimers : s'.runner.timers = timers at hrings harmed
  generalize t.stage = stage at hrings hturn hfits harmed
  cases hrings with
  | dropped result =>
    cases hturn with
    | wakeStale hawake => exact hnone (Execution.waitsFor?_of_awake hawake)
    | wakeUnread fault _ hget =>
      obtain ⟨found, hfound⟩ := hreads
      cases hfound.symm.trans hget
  | cancelled stage' hrole htimer =>
    intro due hsome
    rw [hdue stage' rfl hrole] at hsome
    rw [htimers, Timers.cancel, Timers.get?_setPhase, if_pos rfl, Option.isSome_map]
    exact h due hsome
  | passed _ stage' hwaking hrole htimer =>
    cases hrole' : stage.role with
    | waking => exact absurd hrole' hwaking
    | interpreting =>
      have hfits' := (hnextFits stage' rfl).2
      rw [hrole.trans hrole'] at hfits'
      exact hnone (Execution.waitsFor?_of_fits hfits')
    | resuming => exact h.of_same (by rw [htimers]) (hdue stage' rfl (hrole.trans hrole'))
  | released _ _ hrole hnext =>
    cases hturn with
    | leave target timer => exact hnone (ite_self none)
    | lostClosing timer =>
      exact hnone (Execution.waitsFor?_of_status (show Status.failed ≠ .pending by decide))
    | lost => cases hnext _ rfl
    | _ => cases hrole
  | ended _ result hrole =>
    rw [hrole] at hfits
    cases hturn with
    | enterUnread => exact hnone (Execution.waitsFor?_of_fits hfits)
    | settleSuspend walk node message due =>
      intro _ _
      rw [htimers]
      exact harmed walk node message due rfl
    | settleFinish =>
      exact hnone (Execution.waitsFor?_of_status (show Status.completed ≠ .pending by decide))
    | closing =>
      exact hnone (Execution.waitsFor?_of_status (show Status.failed ≠ .pending by decide))
    | _ => cases hrole
  | armed walk node message due result _ =>
    intro _ _
    rw [htimers]
    exact harmed walk node message due rfl

/-! ## 3. Events -/

/-- The automation of an execution can be read. -/
def Reads (s : Session α ε ν) (id : String) : Prop :=
  ∀ e, ExecutionStorage.get s.runner.executions id = some e →
    ∃ found, AutomationStorage.get s.runner.automations e.automationId = .ok found

omit [AutomationStorage α] [Notifier ν] in
/-- An execution that is begun waits for nothing yet, and the others wait for what they did. -/
theorem due?_of_began (ho : s.IsSound) {r : Runner α ε ν} {a : Automation} {address : String}
    (hbegan : s.runner.Began r (s.runner.newRecord a address)) (id : String) :
    due? ⟨r, s.sent⟩ id = s.due? id := by
  by_cases hid : id = (s.runner.newRecord a address).id
  · have hnone : s.due? id = none := by
      unfold due?
      rw [hid, show (s.runner.newRecord a address).id = s.runner.ids.next.1 from rfl, ho.free]
      rfl
    rw [hnone, hid]
    exact due?_eq (s := ⟨r, s.sent⟩) hbegan.revises.own
  · exact due?_congr (hbegan.revises.others id hid)

omit [AutomationStorage α] [Notifier ν] in
theorem Covers.of_began (ho : s.IsSound) (h : s.Covers id) {r : Runner α ε ν} {a : Automation}
    {address : String} (hbegan : s.runner.Began r (s.runner.newRecord a address))
    (htimers : r.timers = s.runner.timers) : Covers ⟨r, s.sent⟩ id :=
  h.of_same (congrArg (Timers.get? · id) htimers) (due?_of_began ho hbegan id)

omit [AutomationStorage α] [Notifier ν] in
theorem Covers.attended (ho : s.IsOrderly) (h : s.Covers id) : s.Attended id := by
  intro t ht hid hrole
  obtain ⟨e, he, hfits⟩ := ho.held t ht (Task.holds_of_resuming hrole)
  rw [hid] at he
  rw [hrole] at hfits
  obtain ⟨due, hdue⟩ := Option.isSome_iff_exists.mp (Execution.isSuspended_iff.mp hfits).2
  refine h due ?_
  rw [due?_eq he]
  exact Execution.waitsFor?_eq_some_iff.mpr ⟨hfits, hdue⟩

omit [LawfulExecutions ε] in
/-- A recovery leaves executions suspended as they are. -/
theorem due?_recover (s : Session α ε ν) (id : String) : (s.apply .recover).due? id = s.due? id :=
  due?_congr (congrArg (ExecutionStorage.get · id) s.runner.recover_keeps.1)

/-- The timers that a recovery arms are due when the records say. -/
theorem IsDueAsWritten.recover (ho : s.IsSound) (h : s.IsDueAsWritten id) :
    (s.apply .recover).IsDueAsWritten id := by
  intro timer htimer
  rw [due?_recover]
  rcases Runner.recover_origin ho.sound htimer with hold | ⟨_, _, e, he, hsuspended, hscheduled⟩
  · exact h timer hold
  · rw [due?_eq he]
    exact Execution.waitsFor?_eq_some_iff.mpr ⟨hsuspended, hscheduled⟩

/-- A recovery keeps the timers in line with the records, when no resumption is on its way without
    one. -/
theorem Tracks.recover (ho : s.IsSound) (h : s.Tracks id) (hattended : s.Attended id) :
    (s.apply .recover).Tracks id :=
  let ⟨hcarried, hawaited⟩ := h.pairs.recover ho hattended
  ⟨IsDueAsWritten.recover ho h.due, hcarried, hawaited⟩

/-- **Every event without a race keeps timers in line with the records.** Those that arm timers do so if
    they arm them for what is suspended now, and no resumption is on its way without a timer. -/
theorem Tracks.apply [KeepsMoments ε anchored] (ho : s.IsOrderly) (hu : s.IsUniform anchored)
    (h : s.Tracks id) {event : Event α ν} (hrace : s.races event = false)
    (harms : event.Arms → event = .recover ∧ s.Attended id) : (s.apply event).Tracks id := by
  obtain ⟨hcarried, hawaited⟩ := h.pairs.apply ho hrace fun hevent => (harms hevent).2
  refine ⟨?_, hcarried, hawaited⟩
  show (s.apply event).IsDueAsWritten id
  have hdue : s.IsDueAsWritten id := h.due
  cases event with
  | start automationId subject =>
    show IsDueAsWritten ⟨(s.runner.start automationId subject).2, s.sent⟩ id
    rcases Runner.start_cases ho.sound ho.free automationId subject with
      ⟨_, hsame⟩ | ⟨a, address, _, _, _, _, hbegan⟩
    · rw [hsame]
      exact hdue
    · exact hdue.of_same (congrArg (Timers.get? · id) (s.runner.start_timers automationId subject).1)
        (due?_of_began ho.toIsSound hbegan id)
  | author automations drawn => exact hdue
  | equip notifier previewChars recentLimit => exact hdue
  | clock now => exact hdue
  | fire other =>
    intro timer htimer
    obtain ⟨old, hold, hsame⟩ := Timers.origin_setPhase _ _ _ htimer
    rw [← hsame]
    exact hdue old hold
  | resume other => exact hdue
  | recover => exact .recover ho.toIsSound hdue
  | rearm listed => cases (harms trivial).1
  | disarm => exact .of_none rfl
  | go place =>
    rcases apply_go_cases ho.sound ho.exists_of_held place with
      hnone | ⟨t, before, after, hdrop⟩ | ⟨t, before, after, e, e', hgo⟩
    · rw [hnone]
      exact hdue
    · by_cases hid : id = t.executionId
      · exact .of_none (hid ▸ hdrop.timers_own)
      · exact hdue.of_same (hdrop.timers_other hid) (due?_congr (by rw [hdrop.executions]))
    · by_cases hid : id = t.executionId
      · subst hid
        exact .of_turn ho hu h hgo
      · exact hdue.of_same ((hgo.rings ho.toIsSound).other hid) (hgo.due?_other hid)
  | reopen =>
    rcases s.apply_reopen_cases with hnone | ⟨_, hnew⟩
    · rw [hnone]
      exact hdue
    · rw [hnew]
      exact .of_none rfl
  | crash => exact .of_none rfl

/-- **An event in the life of one runner** leaves every suspended execution its timer, if its automation
    can be read. -/
theorem Covers.apply (ho : s.IsOrderly) (htimed : s.IsTimed anchored) (h : s.Covers id)
    (hreads : s.Reads id) {event : Event α ν} (hongoing : event.IsOngoing) :
    (s.apply event).Covers id := by
  cases event with
  | start automationId subject =>
    show Covers ⟨(s.runner.start automationId subject).2, s.sent⟩ id
    rcases Runner.start_cases ho.sound ho.free automationId subject with
      ⟨_, hsame⟩ | ⟨a, address, _, _, _, _, hbegan⟩
    · rw [hsame]
      exact h
    · exact h.of_began ho.toIsSound hbegan (s.runner.start_timers automationId subject).1
  | author automations drawn => exact h.of_same rfl rfl
  | equip notifier previewChars recentLimit => exact h.of_same rfl rfl
  | clock now => exact h.of_same rfl rfl
  | fire other =>
    intro due hsome
    show ((s.runner.timers.setPhase other .fired).get? id).isSome = true
    rw [Timers.get?_setPhase]
    by_cases hid : other = id
    · rw [if_pos hid, Option.isSome_map, hid]
      exact h due hsome
    · rw [if_neg hid]
      exact h due hsome
  | resume other => exact h.of_same rfl rfl
  | recover =>
    intro due hsome
    rw [due?_recover] at hsome
    obtain ⟨timer, htimer⟩ := Option.isSome_iff_exists.mp (h due hsome)
    rw [show (s.apply .recover).runner.timers.get? id = some timer from Runner.recover_kept htimer]
    rfl
  | rearm listed => exact hongoing.elim
  | disarm => exact hongoing.elim
  | go place =>
    rcases apply_go_cases ho.sound ho.exists_of_held place with
      hnone | ⟨t, before, after, hdrop⟩ | ⟨t, before, after, e, e', hgo⟩
    · rw [hnone]
      exact h
    · by_cases hid : id = t.executionId
      · refine .of_none ?_
        unfold due?
        rw [hdrop.executions, hid, hdrop.missing]
        rfl
      · exact h.of_same (hdrop.timers_other hid) (due?_congr (by rw [hdrop.executions]))
    · by_cases hid : id = t.executionId
      · subst hid
        exact h.of_turn ho htimed hgo (hreads e hgo.found)
      · exact h.of_same ((hgo.rings ho.toIsSound).other hid) (hgo.due?_other hid)
  | reopen => exact hongoing.elim
  | crash => exact hongoing.elim

/-! ## 4. Runs -/

/-- **A recovery gives every suspended execution a timer.** -/
theorem covers_recover (ho : s.IsSound) (hu : s.IsUniform anchored) (id : String) :
    (s.apply .recover).Covers id := by
  intro due hsome
  rw [due?_recover] at hsome
  obtain ⟨e, he, hwaits⟩ := Option.bind_eq_some_iff.mp hsome
  obtain ⟨hsuspended, hscheduled⟩ := Execution.waitsFor?_eq_some_iff.mp hwaits
  have hkind : due.isAnchored = s.runner.clock.isAnchored :=
    (hu.records id e he due hscheduled).trans hu.clock.symm
  exact Runner.recover_armed ho.sound he hsuspended hscheduled (Moment.since_of_kind hkind)

/-- **Through the life of a runner** the timer of an execution is there when its record is scheduled, and
    in line with it, as long as its automation can be read and no resumptions race. -/
theorem follows_run [KeepsMoments ε anchored] (ho : s.IsOrderly) (hu : s.IsUniform anchored)
    (htracks : s.Tracks id) (hcovers : s.Covers id) {events : List (Event α ν)}
    (hevents : ∀ event ∈ events, event.ShowsKind anchored ∧ event.IsOngoing)
    (hfree : s.RaceFree events)
    (hreads : ∀ earlier, earlier <+: events → (s.run earlier).Reads id) :
    (s.run events).Tracks id ∧ (s.run events).Covers id := by
  induction events generalizing s with
  | nil => exact ⟨htracks, hcovers⟩
  | cons event events ih =>
    rw [List.forall_mem_cons] at hevents
    obtain ⟨⟨hkind, hongoing⟩, hlater⟩ := hevents
    have hnow : s.Reads id := hreads [] (List.nil_prefix)
    refine ih (isOrderly_apply ho hfree.1).1 (hu.apply ho.toIsSound hkind)
      (htracks.apply ho hu hfree.1 fun harms => ⟨hongoing.eq_recover harms, hcovers.attended ho⟩)
      (hcovers.apply ho hu.timed hnow hongoing) hlater hfree.2 fun earlier hprefix => ?_
    exact hreads (event :: earlier) (List.cons_prefix_cons.mpr ⟨rfl, hprefix⟩)

omit [AutomationStorage α] [LawfulExecutions ε] [Notifier ν] in
/-- With nothing queued, what is tracked and covered is indexed: the timer waits for the moment that the
    record says. -/
theorem Tracks.indexes (h : s.Tracks id) (hcovers : s.Covers id) (hidle : s.runner.queue = []) :
    (s.runner.timers.get? id).map (fun timer => (timer.due, timer.phase)) =
      (s.due? id).map fun due => (due, .waiting) := by
  cases htimer : s.runner.timers.get? id with
  | none =>
    cases hdue : s.due? id with
    | none => rfl
    | some due =>
      have hthere := hcovers due hdue
      rw [htimer] at hthere
      cases hthere
  | some timer =>
    have hwaiting : timer.phase = .waiting := by
      by_contra hphase
      obtain ⟨t, ht, _⟩ := h.awaited timer htimer hphase
      rw [hidle] at ht
      cases ht
    rw [h.due timer htimer, Option.map_some, Option.map_some, hwaiting]

/-- **A new runner that recovers** tracks and covers every execution. -/
theorem follows_recovered [KeepsMoments ε anchored] (id : String) (ho : s.IsSound)
    (hu : s.IsUniform anchored) (htimers : s.runner.timers.get? id = none) (hidle : s.runner.queue = []) :
    (s.apply .recover).Tracks id ∧ (s.apply .recover).Covers id := by
  refine ⟨Tracks.recover ho (.of_none htimers) fun t ht => ?_, covers_recover ho hu id⟩
  rw [hidle] at ht
  cases ht

omit [ExecutionStorage ε] [Notifier ν] [LawfulExecutions ε] [AutomationStorage α] in
/-- Automations in memory can always be read. -/
theorem reads_memory {ε : Type} [ExecutionStorage ε] (s : Session MemoryAutomations ε ν) (id : String) :
    s.Reads id := fun _ _ => ⟨_, rfl⟩

/-- A session that was left with one execution suspended. -/
def greetedSession : Session MemoryAutomations MemoryExecutions Outbox :=
  greetingSession.run (.start greeting.id (some "ann@example.org") :: List.replicate 14 (.go 0))

theorem isReachableIn_greetedSession : greetedSession.IsReachableIn true :=
  (isReachableIn_opened _ _ _ _ _ rfl).run fun event hevent => by
    rw [List.mem_cons, List.mem_replicate] at hevent
    rcases hevent with rfl | ⟨_, rfl⟩ <;> trivial

theorem isUnraced_greetedSession : greetedSession.IsUnraced :=
  ⟨_, _, _, _, _, _, _, by decide +kernel, rfl⟩

/-- A second execution is suspended later than the first. -/
def secondGreeting : List (Event MemoryAutomations Outbox) :=
  [.clock (Moment.first.addMicros 60000000), .start greeting.id (some "bob@example.org")] ++
    List.replicate 14 (.go 0)

/-- The flow of a pause. -/
def pauseFlow (d : Delay) : Flow where
  nodes := [⟨"start", .start, .empty⟩, ⟨"wait", .delay, .delay d⟩, ⟨"end", .finish, .empty⟩]
  edges := [⟨"e1", "start", "wait", none⟩, ⟨"e2", "wait", "end", none⟩]

/-- The automation of a pause. -/
def pause (d : Delay) : Automation := ⟨"pause", "Pause", pauseFlow d, none, none⟩

/-- A minute. -/
def minute : Delay := ⟨some "relative", none, some (.ofInt 1), some "minutes"⟩

/-- The last reading of the calendar five hours west of Greenwich, whose universal time lies beyond it. -/
def lastEvening : Delay :=
  ⟨some "absolute", some { Moment.last with offset := some ⟨-18000, by decide⟩ }, none, none⟩

/-- A table with a pause of a minute. -/
def pauses : AutomationTable :=
  (AutomationStorage.create AutomationTable.empty (pause minute) Moment.first ⟨0⟩).store

/-- The table after the pause was put off to the last evening. -/
def latePauses : AutomationTable := (AutomationStorage.update pauses (pause lastEvening) Moment.first).2

/-- A session over tables with that automation. -/
def pauseSession : Session AutomationTable ExecutionTable Outbox :=
  opened pauses .empty Moment.first ⟨0⟩ 50 50

/-- An execution is suspended, its automation is put off to the last evening, and its timer fires. -/
def unreadEvents : List (Event AutomationTable Outbox) :=
  .start "pause" (some "ann@example.org") :: List.replicate 9 (.go 0) ++
    [.author latePauses 0, .clock (Moment.first.addMicros 60000000), .fire "id-1", .go 0]

end Session

end Dripline
