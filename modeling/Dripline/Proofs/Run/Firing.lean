import Dripline.Proofs.Run.Registry

/-!
# Timers do not fire for a later suspension

A timer fires, and its resumption is queued; between the two anything may happen. A resumption knows
which execution it is for and not which suspension, so the invariant has to say that the timer that
fired is still the one of the suspension that the record is in:

* `Permits`, `Permitted`: what one runner lets happen. A timer fires when it waits and is due, time goes
  forward, and neither a recovery nor another resumption falls between reading a suspended record and
  moving it;
* `OfOneOrigin`: the resumptions of an execution that have not begun come all from timers, or none does;
* `Punctual`: a resumption that a timer queued is still attended by that timer, whose moment is reached;
* `Punctual.apply`: one event at a time. Whatever else would release the timer or suspend the execution
  anew is kept out: an interpreter by the record, a resumption that has begun by its timer, and one that
  was asked for by `OfOneOrigin`;
* **`fires_no_sooner`**: a resumption that a timer queued finds the moment of the suspension reached;
* `fires_sooner_when_resumed`: not so when a resumption was asked for while the timer's was queued.
-/

namespace Dripline

/-- A resumption that the timer of an execution queued, and that has not begun. -/
def Task.alarms (id : String) (t : Task) : Bool :=
  decide (t.executionId = id) && decide (t.origin = .fired) && decide (t.stage.role = .waking)

theorem Task.alarms_iff {id : String} {t : Task} :
    t.alarms id = true ↔ t.executionId = id ∧ t.origin = .fired ∧ t.stage.role = .waking := by
  unfold alarms
  rw [Bool.and_eq_true, Bool.and_eq_true, decide_eq_true_eq, decide_eq_true_eq, decide_eq_true_eq,
    and_assoc]

theorem Task.alarms_of_origin {id : String} {t : Task} (h : t.origin ≠ .fired) :
    t.alarms id = false :=
  Bool.eq_false_iff.mpr fun halarms => h (alarms_iff.mp halarms).2.1

theorem Task.alarms_of_role {id : String} {t : Task} (h : t.stage.role ≠ .waking) :
    t.alarms id = false :=
  Bool.eq_false_iff.mpr fun halarms => h (alarms_iff.mp halarms).2.2

namespace Session

/-! ## 1. What one runner lets happen -/

section

variable {α ε ν : Type} {s s' : Session α ε ν} {id : String}

/-- **What can happen next in the life of one runner.** A timer fires when it waits and its moment is
    reached, the clock goes forward, a recovery takes place at once and while no resumption stands
    between reading a suspended record and moving it, and no resumption begins then for the same
    execution. -/
def Permits (s : Session α ε ν) : Event α ν → Prop
  | .clock now => s.runner.clock.atMost now = .ok true
  | .fire id => (s.runner.timers.get? id).any (Timers.isDue s.runner.clock) = true
  | .recover => ∀ t ∈ s.runner.queue, t.stage.role ≠ .resuming
  | .go place => s.races (.go place) = false
  | .rearm _ => False
  | .disarm => False
  | .reopen => False
  | .crash => False
  | _ => True

instance decidablePermits (s : Session α ε ν) : (event : Event α ν) → Decidable (s.Permits event)
  | .clock now => inferInstanceAs (Decidable (s.runner.clock.atMost now = .ok true))
  | .fire id =>
    inferInstanceAs (Decidable ((s.runner.timers.get? id).any (Timers.isDue s.runner.clock) = true))
  | .recover => inferInstanceAs (Decidable (∀ t ∈ s.runner.queue, t.stage.role ≠ .resuming))
  | .go place => inferInstanceAs (Decidable (s.races (.go place) = false))
  | .rearm _ | .disarm | .reopen | .crash => .isFalse fun h => h
  | .start _ _ | .author _ _ | .equip _ _ _ | .resume _ => .isTrue trivial

theorem Permits.races_eq_false {event : Event α ν} (h : s.Permits event) : s.races event = false := by
  cases event with
  | go place => exact h
  | _ => rfl

/-- **Events that can happen one after the other in the life of one runner.** -/
def Permitted [AutomationStorage α] [ExecutionStorage ε] [Notifier ν] (s : Session α ε ν)
    (events : List (Event α ν)) : Prop := s.Throughout Permits events

instance [AutomationStorage α] [ExecutionStorage ε] [Notifier ν] (s : Session α ε ν)
    (events : List (Event α ν)) : Decidable (s.Permitted events) :=
  inferInstanceAs (Decidable (s.Throughout _ events))

/-- **The resumptions of an execution that have not begun are of one origin**: timers queued them all, or
    none of them. -/
def OfOneOrigin (s : Session α ε ν) (id : String) : Prop :=
  ∀ t ∈ s.runner.queue, ∀ t' ∈ s.runner.queue, t.executionId = id → t'.executionId = id →
    t.stage.role = .waking → t'.stage.role = .waking → t.origin = t'.origin

instance (s : Session α ε ν) (id : String) : Decidable (s.OfOneOrigin id) :=
  inferInstanceAs (Decidable (∀ t ∈ s.runner.queue, ∀ t' ∈ s.runner.queue, t.executionId = id →
    t'.executionId = id → t.stage.role = .waking → t'.stage.role = .waking → t.origin = t'.origin))

/-! ## 2. What stays true of timers that fired -/

/-- The timer of an execution waits no more, and its moment is reached. -/
def Rang (s : Session α ε ν) (id : String) : Prop :=
  ∃ timer, s.runner.timers.get? id = some timer ∧ timer.phase ≠ .waiting ∧
    timer.due.atMost s.runner.clock = .ok true

/-- **A resumption that a timer queued is attended by that timer**, which is the only one to have queued
    one, and no other resumption of the execution is on its way then. -/
structure Punctual [ExecutionStorage ε] (s : Session α ε ν) (id : String) : Prop where
  tracks : s.Tracks id
  rang : ∀ t ∈ s.runner.queue, t.executionId = id → t.origin = .fired →
    t.stage.role ≠ .interpreting → s.Rang id
  single : s.runner.queue.countP (Task.alarms id) ≤ 1
  alone : ∀ t ∈ s.runner.queue, t.alarms id = true → ∀ t' ∈ s.runner.queue, t'.executionId = id →
    t'.stage.role ≠ .resuming

theorem Rang.of_same (h : s.Rang id) (htimers : s'.runner.timers.get? id = s.runner.timers.get? id)
    (hclock : s'.runner.clock = s.runner.clock) : s'.Rang id := by
  unfold Rang
  rw [htimers, hclock]
  exact h

/-- What passes an execution by leaves its timer alone and queues no resumption of it for a timer. -/
theorem Punctual.of_same [ExecutionStorage ε] (h : s.Punctual id) (htracks : s'.Tracks id)
    (hrang : s.Rang id → s'.Rang id)
    (hcount : s'.runner.queue.countP (Task.alarms id) ≤ s.runner.queue.countP (Task.alarms id))
    (hqueue : ∀ t ∈ s'.runner.queue, t.executionId = id → t ∈ s.runner.queue ∨
      t.origin ≠ .fired ∧ t.stage.role ≠ .resuming) : s'.Punctual id where
  tracks := htracks
  rang t ht hid horigin hrole := by
    rcases hqueue t ht hid with ht | ⟨hother, _⟩
    · exact hrang (h.rang t ht hid horigin hrole)
    · exact absurd horigin hother
  single := hcount.trans h.single
  alone t ht halarms t' ht' hid' hrole' := by
    obtain ⟨hid, horigin, _⟩ := Task.alarms_iff.mp halarms
    rcases hqueue t ht hid with ht | ⟨hother, _⟩
    · rcases hqueue t' ht' hid' with ht' | ⟨_, hother⟩
      · exact h.alone t ht halarms t' ht' hid' hrole'
      · exact hother hrole'
    · exact hother horigin

/-- A task is queued that no timer asked for and that has not begun to resume. -/
theorem Punctual.of_queued [ExecutionStorage ε] (h : s.Punctual id) (htracks : s'.Tracks id) {new : Task}
    (hqueue : s'.runner.queue = s.runner.queue ++ [new]) (horigin : new.origin ≠ .fired)
    (hrole : new.stage.role ≠ .resuming) (hrang : s.Rang id → s'.Rang id) : s'.Punctual id := by
  refine h.of_same htracks hrang ?_ fun t ht _ => ?_
  · rw [hqueue, List.countP_append, List.countP_singleton, Task.alarms_of_origin horigin]
    exact Nat.le_refl _
  · rw [hqueue, List.mem_append, List.mem_singleton] at ht
    rcases ht with ht | rfl
    · exact .inl ht
    · exact .inr ⟨horigin, hrole⟩

/-- With no resumption by a timer in the queue there is nothing more to say. -/
theorem Punctual.of_quiet [ExecutionStorage ε] (htracks : s.Tracks id)
    (hquiet : ∀ t ∈ s.runner.queue, t.executionId = id → t.origin = .fired →
      t.stage.role = .interpreting) : s.Punctual id := by
  have hnone : ∀ t ∈ s.runner.queue, ¬ t.alarms id = true := by
    intro t ht halarms
    obtain ⟨hid, horigin, hrole⟩ := Task.alarms_iff.mp halarms
    cases hrole.symm.trans (hquiet t ht hid horigin)
  refine ⟨htracks, fun t ht hid horigin hrole => ?_, ?_, fun t ht halarms => ?_⟩
  · exact absurd (hquiet t ht hid horigin) hrole
  · rw [List.countP_eq_zero.mpr hnone]
    exact Nat.zero_le 1
  · exact absurd halarms (hnone t ht)

end

/-! ## 3. Turns -/

variable {α ε ν : Type} [AutomationStorage α] [ExecutionStorage ε] [Notifier ν]
  [LawfulExecutions ε] {s s' : Session α ε ν} {anchored : Bool} {id : String} {t t' : Task}
  {before after : List Task} {e e' : Execution}

/-- A turn queues no resumption that has not begun. -/
theorem TakesTurn.countP_alarms_le (hgo : s.TakesTurn s' t before after e e') (ho : s.IsOrderly)
    (id : String) :
    s'.runner.queue.countP (Task.alarms id) ≤ s.runner.queue.countP (Task.alarms id) := by
  rw [hgo.queue, List.countP_append, List.countP_cons]
  rcases hgo.queued with ⟨stage, hstage, hq⟩ | ⟨_, _, hq⟩
  · have hbegun : ({ t with stage := stage } : Task).alarms id = false :=
      Task.alarms_of_role ((hgo.keeps ho).2.2 stage hstage).1
    rw [hq, List.countP_append, List.countP_cons, hbegun]
    exact Nat.add_le_add_left (Nat.add_le_add_left (Nat.zero_le _) _) _
  · rw [hq, List.countP_append]
    exact Nat.add_le_add_left (Nat.le_add_right _ _) _

/-- **No other resumption by a timer is around when a task of its execution takes its turn.** -/
theorem Punctual.alone_of_turn (ho : s.IsOrderly) (h : s.Punctual t.executionId)
    (horigin : s.OfOneOrigin t.executionId) (hgo : s.GoesAlone s' t before after e e')
    (ht' : t' ∈ before ++ after) (hid : t'.executionId = t.executionId)
    (hfired : t'.origin = .fired) : t'.stage.role = .interpreting := by
  have hmem := hgo.mem_of_other ht'
  by_contra hrole'
  cases hrole : t.stage.role with
  | waking =>
    cases hother : t'.stage.role with
    | waking =>
      -- both come from timers, but only one timer has fired
      have halarms : t.alarms t.executionId = true := Task.alarms_iff.mpr
        ⟨rfl, (horigin t hgo.mem t' hmem rfl hid hrole hother).trans hfired, hrole⟩
      have halarms' : 0 < (before ++ after).countP (Task.alarms t.executionId) :=
        List.countP_pos_iff.mpr ⟨t', ht', Task.alarms_iff.mpr ⟨hid, hfired, hother⟩⟩
      have hsingle := h.single
      rw [hgo.queue, List.countP_append, List.countP_cons, if_pos halarms] at hsingle
      rw [List.countP_append] at halarms'
      omega
    | resuming => exact Runner.races_eq_false_iff.mp hgo.alone hrole t' hmem hid hother
    | interpreting => exact hrole' hother
  | resuming =>
    cases hother : t'.stage.role with
    | waking =>
      exact h.alone t' hmem (Task.alarms_iff.mpr ⟨hid, hfired, hother⟩) t hgo.mem rfl hrole
    | resuming =>
      exact (hgo.apart ho).1 t' ht' (Task.holds_of_resuming hrole) (Task.holds_of_resuming hother)
        hid.symm
    | interpreting => exact hrole' hother
  | interpreting =>
    -- the timer of that resumption says that the record is suspended, and then nobody interprets it
    obtain ⟨timer, htimer, _⟩ := h.rang t' hmem hid hfired hrole'
    have hfits := hgo.fits ho
    rw [hrole] at hfits
    have hdue := h.tracks.due timer htimer
    rw [due?_eq hgo.found, Execution.waitsFor?_of_fits hfits] at hdue
    cases hdue

/-- **A turn of the execution's own task** keeps the timer of a resumption that goes on. -/
theorem Punctual.of_turn [KeepsMoments ε anchored] (ho : s.IsOrderly) (hu : s.IsUniform anchored)
    (h : s.Punctual t.executionId) (horigin : s.OfOneOrigin t.executionId)
    (hgo : s.GoesAlone s' t before after e e') : s'.Punctual t.executionId := by
  have htracks := h.tracks.of_turn ho hu hgo
  -- only the task itself can be a resumption by a timer, and it has begun
  have hself : ∀ t' ∈ s'.runner.queue, t'.executionId = t.executionId → t'.origin = .fired →
      t'.stage.role ≠ .interpreting →
        ∃ stage, (s.runner.stepTask t).2 = .stage stage ∧ t' = { t with stage := stage } := by
    intro t' ht' hid hfired hrole
    rcases hgo.mem_queued ht' with ht' | hstage
    · exact absurd (h.alone_of_turn ho horigin hgo ht' hid hfired) hrole
    · exact hstage
  refine ⟨htracks, fun t' ht' hid hfired hrole => ?_, (hgo.countP_alarms_le ho _).trans h.single,
    fun t' ht' halarms => ?_⟩
  · obtain ⟨stage', hstage, rfl⟩ := hself t' ht' hid hfired hrole
    have hrings := hgo.rings ho.toIsSound
    have hrang := h.rang t hgo.mem rfl hfired
    unfold Rang
    rw [hgo.clock]
    rw [hstage] at hrings
    generalize s'.runner.timers = timers at hrings
    generalize t.stage = stage at hrings hrang
    cases hrings with
    | cancelled _ hresuming _ =>
      obtain ⟨timer, htimer, _, hreached⟩ := hrang nofun
      refine ⟨{ timer with phase := .cancelled }, ?_, nofun, hreached⟩
      rw [Timers.cancel, Timers.get?_setPhase, if_pos rfl, htimer]
      rfl
    | passed _ _ _ hsame _ => exact hrang (hsame ▸ hrole)
    | released _ _ _ hnext => exact absurd (hnext stage' rfl) hrole
  · obtain ⟨hid, hfired, hwaking⟩ := Task.alarms_iff.mp halarms
    obtain ⟨stage, hstage, rfl⟩ := hself t' ht' hid hfired (by rw [hwaking]; decide)
    exact absurd hwaking ((hgo.keeps ho).2.2 stage hstage).1

/-! ## 4. Events -/

omit [LawfulExecutions ε] in
/-- **A timer that fires** has queued nothing yet, and its moment is reached. -/
theorem Punctual.fire (h : s.Punctual id) (htracks : (s.apply (.fire id)).Tracks id)
    (hpermits : s.Permits (.fire id)) : (s.apply (.fire id)).Punctual id := by
  obtain ⟨timer, htimer, hdue⟩ := (Option.any_eq_true _ _).mp hpermits
  obtain ⟨hwaiting, hreached⟩ := Timers.isDue_iff.mp hdue
  -- what a timer queued, and what has begun to resume, goes with a timer that waits no more
  have hfree : ∀ t ∈ s.runner.queue, t.alarms id = false := by
    intro t ht
    refine Bool.eq_false_iff.mpr fun halarms => ?_
    obtain ⟨hid, horigin, hrole⟩ := Task.alarms_iff.mp halarms
    obtain ⟨timer', htimer', hphase, _⟩ := h.rang t ht hid horigin (by rw [hrole]; decide)
    cases htimer.symm.trans htimer'
    exact hphase hwaiting
  have hquiet : ∀ t ∈ s.runner.queue, t.executionId = id → t.stage.role ≠ .resuming :=
    fun t ht hid hrole => (h.tracks.carried t ht hid hrole timer htimer).2 hwaiting
  have hrang : (s.apply (.fire id)).Rang id := by
    refine ⟨{ timer with phase := .fired }, ?_, nofun, hreached⟩
    show (s.runner.timers.setPhase id .fired).get? id = _
    rw [Timers.get?_setPhase, if_pos rfl, htimer]
    rfl
  refine ⟨htracks, fun _ _ _ _ _ => hrang, ?_, fun _ _ _ t' ht' hid => ?_⟩
  · have hnone : s.runner.queue.countP (Task.alarms id) = 0 :=
      List.countP_eq_zero.mpr fun t ht => Bool.eq_false_iff.mp (hfree t ht)
    show (s.runner.queue ++ [_]).countP _ ≤ 1
    rw [List.countP_append, hnone, Nat.zero_add]
    exact List.countP_le_length
  · rcases List.mem_append.mp ht' with ht' | ht'
    · exact hquiet t' ht' hid
    · rw [List.mem_singleton.mp ht']
      exact nofun

omit [AutomationStorage α] [Notifier ν] [LawfulExecutions ε] in
/-- A resumption that is dropped for want of a record leaves none behind. -/
theorem Punctual.of_dropped (h : s.Punctual id) (htracks : s'.Tracks id)
    (hdrop : s.DropsWake s' t before after) : s'.Punctual id := by
  by_cases hid : id = t.executionId
  · refine .of_quiet htracks fun t' ht' hid' horigin => ?_
    by_contra hrole
    obtain ⟨timer, htimer, _⟩ := h.rang t' (hdrop.mem_of_queued ht') hid' horigin hrole
    have hdue := h.tracks.due timer htimer
    unfold due? at hdue
    rw [hid, hdrop.missing] at hdue
    cases hdue
  · refine h.of_same htracks (fun hrang => hrang.of_same (hdrop.timers_other hid) hdrop.clock) ?_
      fun t' ht' _ => .inl (hdrop.mem_of_queued ht')
    rw [hdrop.queued, hdrop.queue, List.countP_append, List.countP_append, List.countP_cons]
    exact Nat.add_le_add_left (Nat.le_add_right _ _) _

/-- **Each event keeps the timers that fired with their resumptions.** -/
theorem Punctual.apply [KeepsMoments ε anchored] (ho : s.IsOrderly) (hu : s.IsUniform anchored)
    (h : s.Punctual id) (horigin : s.OfOneOrigin id) {event : Event α ν} (hpermits : s.Permits event) :
    (s.apply event).Punctual id := by
  have htracks : (s.apply event).Tracks id := by
    refine h.tracks.apply ho hu hpermits.races_eq_false fun harms => ?_
    cases event with
    | recover => exact ⟨rfl, fun t ht _ hrole => absurd hrole (hpermits t ht)⟩
    | rearm listed => exact hpermits.elim
    | _ => exact harms.elim
  have hsame : ∀ {s' : Session α ε ν}, s'.Tracks id → s'.runner.queue = s.runner.queue →
      (s.Rang id → s'.Rang id) → s'.Punctual id := fun htracks hqueue hrang =>
    h.of_same htracks hrang (by rw [hqueue]) fun t ht _ => .inl (hqueue ▸ ht)
  cases event with
  | start automationId subject =>
    obtain ⟨htimers, hclock⟩ := s.runner.start_timers automationId subject
    have hrang : s.Rang id → (s.apply (.start automationId subject)).Rang id := fun hrang =>
      hrang.of_same (congrArg (Timers.get? · id) htimers) hclock
    rcases Runner.start_cases ho.sound ho.free automationId subject with
      ⟨_, hrefused⟩ | ⟨a, address, _, _, _, _, hbegan⟩
    · exact hsame htracks (congrArg Runner.queue hrefused) hrang
    · exact h.of_queued htracks hbegan.queue nofun nofun hrang
  | author automations drawn => exact hsame htracks rfl fun hrang => hrang.of_same rfl rfl
  | equip notifier previewChars recentLimit =>
    exact hsame htracks rfl fun hrang => hrang.of_same rfl rfl
  | clock now =>
    refine hsame htracks rfl ?_
    rintro ⟨timer, htimer, hphase, hreached⟩
    exact ⟨timer, htimer, hphase, Moment.atMost_trans hreached hpermits⟩
  | fire other =>
    by_cases hid : other = id
    · subst hid
      exact h.fire htracks hpermits
    · refine h.of_same htracks (fun hrang => hrang.of_same ?_ rfl) ?_ fun t ht hid' => ?_
      · exact (Timers.get?_setPhase _ _ _ _).trans (if_neg hid)
      · have hother : (⟨other, .fired, s.runner.setup, .wake⟩ : Task).alarms id = false :=
          Bool.eq_false_iff.mpr fun halarms => hid (Task.alarms_iff.mp halarms).1
        show (s.runner.queue ++ [_]).countP _ ≤ _
        rw [List.countP_append, List.countP_singleton, hother]
        exact Nat.le_refl _
      · rcases List.mem_append.mp ht with ht | ht
        · exact .inl ht
        · rw [List.mem_singleton.mp ht] at hid'
          exact absurd hid' hid
  | resume other => exact h.of_queued htracks rfl nofun nofun fun hrang => hrang.of_same rfl rfl
  | recover =>
    obtain ⟨_, haround⟩ := s.runner.recover_keeps
    refine hsame htracks haround.queue ?_
    rintro ⟨timer, htimer, hphase, hreached⟩
    refine ⟨timer, Runner.recover_kept htimer, hphase, ?_⟩
    show timer.due.atMost s.runner.recover.2.clock = .ok true
    rw [haround.clock]
    exact hreached
  | go place =>
    rcases apply_go_alone_cases ho.sound ho.exists_of_held hpermits with
      hnone | ⟨t, before, after, hdrop⟩ | ⟨t, before, after, e, e', hgo⟩
    · rw [hnone]
      exact h
    · exact h.of_dropped htracks hdrop
    · by_cases hid : id = t.executionId
      · subst hid
        exact h.of_turn ho hu horigin hgo
      · refine h.of_same htracks
          (fun hrang => hrang.of_same ((hgo.rings ho.toIsSound).other hid) hgo.clock)
          (hgo.countP_alarms_le ho id) fun t' ht' hid' => .inl ?_
        exact (hgo.mem_iff_of_other (hid'.trans_ne hid)).mp ht'
  | rearm listed => exact hpermits.elim
  | disarm => exact hpermits.elim
  | reopen => exact hpermits.elim
  | crash => exact hpermits.elim

/-! ## 5. Runs -/

omit [AutomationStorage α] [Notifier ν] [LawfulExecutions ε] in
/-- A clock that goes forward shows moments of one kind. -/
theorem IsUniform.showsKind (hu : s.IsUniform anchored) {event : Event α ν}
    (hpermits : s.Permits event) : event.ShowsKind anchored := by
  cases event with
  | clock now => exact (Moment.isAnchored_of_atMost hpermits).symm.trans hu.clock
  | _ => trivial

/-- **Through the life of one runner** timers that fired stay with their resumptions, as long as none is
    asked for beside them. -/
theorem punctual_run [KeepsMoments ε anchored] (ho : s.IsOrderly) (hu : s.IsUniform anchored)
    (h : s.Punctual id) {events : List (Event α ν)} (hpermitted : s.Permitted events)
    (horigin : ∀ earlier, earlier <+: events → (s.run earlier).OfOneOrigin id) :
    (s.run events).Punctual id := by
  induction events generalizing s with
  | nil => exact h
  | cons event events ih =>
    obtain ⟨hpermits, hlater⟩ := hpermitted
    refine ih (isOrderly_apply ho hpermits.races_eq_false).1
      (hu.apply ho.toIsSound (hu.showsKind hpermits))
      (h.apply ho hu (horigin [] List.nil_prefix) hpermits) hlater fun earlier hprefix => ?_
    exact horigin (event :: earlier) (List.cons_prefix_cons.mpr ⟨rfl, hprefix⟩)

/-- The flow of two pauses, a minute and two hours. -/
def twoPauses : Flow where
  nodes :=
    [⟨"start", .start, .empty⟩, ⟨"first", .delay, .delay minute⟩,
      ⟨"second", .delay, .delay ⟨some "relative", none, some (.ofInt 2), some "hours"⟩⟩,
      ⟨"end", .finish, .empty⟩]
  edges :=
    [⟨"e1", "start", "first", none⟩, ⟨"e2", "first", "second", none⟩,
      ⟨"e3", "second", "end", none⟩]

/-- A session with an automation of that flow. -/
def twoPausesSession : Session MemoryAutomations MemoryExecutions Outbox :=
  opened ⟨Keyed.empty.put "pauses" ⟨"pauses", "Pauses", twoPauses, none, none⟩⟩ .empty Moment.first ⟨0⟩
    50 50

/-- An execution is suspended at the first pause. -/
def firstPause : List (Event MemoryAutomations Outbox) :=
  .start "pauses" (some "ann@example.org") :: List.replicate 9 (.go 0)

/-- It is resumed at once, and the timer of the second pause fires when that is over. -/
def secondPauseEnds : List (Event MemoryAutomations Outbox) :=
  firstPause ++ .resume "id-1" :: List.replicate 7 (.go 0) ++
    [.clock (Moment.first.addMicros 7200000000), .fire "id-1", .go 0]

/-- The timer of the first pause fires, and before its resumption begins, one that was asked for takes
    the execution to the second pause. -/
def overtaken : List (Event MemoryAutomations Outbox) :=
  firstPause ++ [.clock (Moment.first.addMicros 60000000), .fire "id-1", .resume "id-1"] ++
    List.replicate 7 (.go 1) ++ [.go 0]

end Session

end Dripline
