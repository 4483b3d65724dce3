import Dripline.Delivery.Outbox
import Dripline.Proofs.Run.Position

/-!
# Executions keep to the walk of their flow

An execution that was started for a flow without problems, in any session and for as long as nobody
changes that flow:

* `Session.OnCourse`: the invariant of one execution. Its task stands somewhere in the walk, or its record
  waits there, and nothing is logged but steps of the walk and failures that are left;
* `Session.Rests`: while no task holds it, the record is settled;
* `OnCourse.of_turn`, `OnCourse.apply`, `OnCourse.run`: a turn, an event and a run keep both, the second
  one unless the process crashes in the middle of a step;
* **`walks_exactly_once`**: between two steps, log and messages are those of one prefix of the walk;
* **`race_sends_twice`**: what becomes of that when two resumptions overlap.
-/

namespace Dripline

/-! ## 1. The invariant -/

/-- An event that leaves the flow of an automation as it is. -/
def Event.Leaves {α ν : Type} [AutomationStorage α] (automationId : String) (f : Flow) :
    Event α ν → Prop
  | .author automations _ =>
    ∃ a, AutomationStorage.get automations automationId = .ok (some a) ∧ a.flow = f
  | _ => True

/-- An event that tears no task out of a step. -/
def Event.IsGraceful {α ν : Type} : Event α ν → Prop
  | .crash => False
  | _ => True

namespace Session

variable {α ε ν : Type} [AutomationStorage α] [ExecutionStorage ε] [Notifier ν]
  [LawfulExecutions ε] {s s' : Session α ε ν} {f : Flow} {e e' : Execution} {accepted : Moment}

/-- **An execution on its course** through the flow of its automation. -/
structure OnCourse (s : Session α ε ν) (f : Flow) (e : Execution) : Prop where
  found : ExecutionStorage.get s.runner.executions e.id = some e
  stored : ∃ a, AutomationStorage.get s.runner.automations e.automationId = .ok (some a) ∧ a.flow = f
  stands : ∀ t ∈ s.runner.queue, t.executionId = e.id → t.Holds → Stands ν f e s.sent t.stage
  waits : e.isSuspended = true → Waits f e s.sent
  blamed : e.Blamed ν f

/-- While no task holds it, the record is settled. -/
def Rests (s : Session α ε ν) (f : Flow) (e : Execution) : Prop :=
  (∀ t ∈ s.runner.queue, t.executionId = e.id → ¬ t.Holds) → Settled f e s.sent

theorem OnCourse.fits (ho : s.IsOrderly) (h : s.OnCourse f e) {t : Task} (ht : t ∈ s.runner.queue)
    (hid : t.executionId = e.id) (hholds : t.Holds) : e.Fits t.stage.role := by
  obtain ⟨e₁, he₁, hfits⟩ := ho.held t ht hholds
  rw [hid, h.found] at he₁
  cases he₁
  exact hfits

/-- **Between two steps** of its task, an execution on its course is settled. -/
theorem OnCourse.settled (ho : s.IsOrderly) (h : s.OnCourse f e) (hrests : s.Rests f e)
    (hbetween : ∀ t ∈ s.runner.queue, t.executionId = e.id → t.stage.isWithinStep = false) :
    Settled f e s.sent := by
  by_cases hheld : ∃ t ∈ s.runner.queue, t.executionId = e.id ∧ t.Holds
  · obtain ⟨t, ht, hid, hholds⟩ := hheld
    exact (h.stands t ht hid hholds).settled (hbetween t ht hid) fun hdone =>
      (h.fits ho ht hid hholds).not_final hholds (.inl hdone)
  · exact hrests fun t ht hid hholds => hheld ⟨t, ht, hid, hholds⟩

/-! ## 2. Events that pass an execution by -/

omit [AutomationStorage α] [ExecutionStorage ε] [LawfulExecutions ε] in
/-- Messages for other executions change nothing. -/
theorem stands_of_mailed {sent sent' : List Sending} {stage : Stage}
    (hsent : ∀ k, e.Mailed f sent k → e.Mailed f sent' k) (h : Stands ν f e sent stage) :
    Stands ν f e sent' stage := by
  cases h with
  | enterFirst n hn hnode hlogged hmailed => exact .enterFirst n hn hnode hlogged (hsent _ hmailed)
  | enterAgain k n hn hnode hlogged hmailed =>
    exact .enterAgain k n hn hnode hlogged (hsent _ hmailed)
  | arrive k n hn hlogged hmailed => exact .arrive k n hn hlogged (hsent _ hmailed)
  | act k n hn hlogged hmailed => exact .act k n hn hlogged (hsent _ hmailed)
  | note k n result hn hkeeps hlogged hmailed =>
    exact .note k n result hn hkeeps hlogged (hsent _ hmailed)
  | settle k n result hn hkeeps hlogged hmailed =>
    exact .settle k n result hn hkeeps hlogged (hsent _ hmailed)
  | failing k n error hn hfails hlogged hmailed =>
    exact .failing k n error hn hfails hlogged (hsent _ hmailed)
  | closing k n hn hlast hlogged hmailed => exact .closing k n hn hlast hlogged (hsent _ hmailed)
  | leave k n m timer hn hm hlogged hmailed =>
    exact .leave k n m timer hn hm hlogged (hsent _ hmailed)

omit [LawfulExecutions ε] in
/-- **What passes an execution by**: its record, its flow, the tasks that hold it and its messages are
    what they were. -/
theorem OnCourse.of_same (h : s.OnCourse f e)
    (hfound : ExecutionStorage.get s'.runner.executions e.id = some e)
    (hstored : ∃ a, AutomationStorage.get s'.runner.automations e.automationId = .ok (some a) ∧
      a.flow = f)
    (hqueue : ∀ t : Task, t.executionId = e.id → t.Holds →
      (t ∈ s'.runner.queue ↔ t ∈ s.runner.queue))
    (hsent : ∀ k, e.Mailed f s.sent k → e.Mailed f s'.sent k) :
    s'.OnCourse f e ∧ (s.Rests f e → s'.Rests f e) where
  left :=
    { found := hfound
      stored := hstored
      stands := fun t ht hid hholds =>
        stands_of_mailed hsent (h.stands t ((hqueue t hid hholds).mp ht) hid hholds)
      waits := fun hsuspended => by
        obtain ⟨k, n, m, hn, hkind, hm, hnode, hlogged, hmailed⟩ := h.waits hsuspended
        exact ⟨k, n, m, hn, hkind, hm, hnode, hlogged, hsent _ hmailed⟩
      blamed := h.blamed }
  right hrests hfree := by
    obtain ⟨k, hlogged, hmailed, hdone⟩ := hrests fun t ht hid hholds =>
      hfree t ((hqueue t hid hholds).mpr ht) hid hholds
    exact ⟨k, hlogged, hsent _ hmailed, hdone⟩

/-! ## 3. Turns -/

/-- A turn of a task for another execution passes this one by. -/
theorem OnCourse.of_other {t : Task} {before after : List Task} {e₁ e₁' : Execution}
    (h : s.OnCourse f e) (hgo : s.TakesTurn s' t before after e₁ e₁') (hid : e.id ≠ t.executionId) :
    s'.OnCourse f e ∧ (s.Rests f e → s'.Rests f e) := by
  refine h.of_same ((hgo.revises.others _ hid).trans h.found) (hgo.automations ▸ h.stored)
    (fun t' hid' _ => hgo.mem_iff_of_other (hid'.trans_ne hid)) fun k hmailed => ?_
  rw [hgo.sent]
  refine hmailed.other fun x hx => ?_
  have hturn := hgo.turn
  rw [Option.mem_toList.mp hx] at hturn
  rw [hturn.executionId_of_sent]
  exact hid.symm

/-- A turn of the task that holds the execution. -/
theorem OnCourse.of_holder {t : Task} {before after : List Task} (hwf : f.IsWellFormed accepted)
    (ho : s.IsOrderly) (h : s.OnCourse f e) (hgo : s.TakesTurn s' t before after e e')
    (hid : t.executionId = e.id) (hholds : t.Holds) : s'.OnCourse f e' ∧ s'.Rests f e' := by
  obtain ⟨a, hstored, hflow⟩ := h.stored
  obtain ⟨_, hcont, hnext⟩ := hgo.keeps ho
  have hturn := hgo.turn
  rw [hid] at hturn
  have hafter := hturn.follows hwf hstored hflow (hgo.fits ho) (h.stands t hgo.mem hid hholds)
    h.blamed
  rw [← hgo.sent] at hafter
  have hown := hgo.revises.own
  rw [hid, ← hcont.id] at hown
  refine ⟨⟨hown, ?_, fun t' ht' hid' hholds' => ?_, hafter.waits, hafter.blamed⟩, fun hfree => ?_⟩
  · rw [hgo.automations, hcont.automationId]
    exact h.stored
  · rcases hgo.mem_queued ht' with ht' | ⟨stage, hstage, rfl⟩
    · have hne := (hgo.apart ho).1 t' ht' hholds hholds'
      exact absurd (hid'.trans (hcont.id.trans hid.symm)).symm hne
    · exact hafter.stands stage hstage
  · rcases hgo.queued with ⟨stage, hstage, hq⟩ | ⟨result, hdone, _⟩
    · refine absurd (hnext stage hstage).1 (hfree { t with stage := stage } ?_ (hid.trans hcont.id.symm))
      rw [hq]
      exact List.mem_append_right _ List.mem_cons_self
    · exact hafter.settled result hdone

/-- A resumption of the execution that begins, or is not needed. -/
theorem OnCourse.of_waking {t : Task} {before after : List Task} (ho : s.IsOrderly)
    (h : s.OnCourse f e) (hgo : s.GoesAlone s' t before after e e') (hid : t.executionId = e.id)
    (hrole : t.stage.role = .waking) :
    s'.OnCourse f e ∧ (s.Rests f e → s'.Rests f e) ∧ e' = e := by
  obtain ⟨a, hstored, hflow⟩ := h.stored
  have hturn := hgo.turn
  rw [hid, Stage.eq_wake_of_role hrole] at hturn
  obtain ⟨hsame, hquiet, hnext⟩ := hturn.follows_wake hstored hflow h.waits
  have hsent : s'.sent = s.sent := by
    rw [hgo.sent, hquiet]
    exact List.append_nil _
  have hfound := hgo.revises.own
  rw [hsame, hid] at hfound
  rcases hgo.queued with ⟨stage, hstage, hq⟩ | ⟨result, hdone, hq⟩
  · -- the task holds the execution from now on, and no other one does
    rcases hnext with hdone | ⟨stage', hstage', hstands⟩
    · cases hstage.symm.trans hdone
    cases hstage.symm.trans hstage'
    refine ⟨⟨hfound, hgo.automations ▸ h.stored, fun t' ht' hid' hholds' => ?_, ?_, h.blamed⟩,
      fun _ hfree => ?_, hsame⟩
    · rw [hsent]
      rcases hgo.mem_queued ht' with ht' | ⟨stage', hstage', rfl⟩
      · exact absurd (hid'.trans hid.symm) (hgo.apart_of_stage ho hstage ht' hholds')
      · cases hstage.symm.trans hstage'
        exact hstands
    · rw [hsent]
      exact h.waits
    · refine absurd ((hgo.keeps ho).2.2 stage hstage).1 (hfree { t with stage := stage } ?_ hid)
      rw [hq]
      exact List.mem_append_right _ List.mem_cons_self
  · obtain ⟨hcourse, hrests⟩ := h.of_same hfound (hgo.automations ▸ h.stored)
      (fun t' _ hholds' => by
        have hne : t' ≠ t := by
          rintro rfl
          exact hholds' hrole
        rw [hgo.queue, hq, List.mem_append, List.mem_append, List.mem_cons, or_iff_right hne])
      fun k hmailed => by
        rw [hsent]
        exact hmailed
    exact ⟨hcourse, hrests, hsame⟩

omit [LawfulExecutions ε] in
/-- A resumption that is dropped passes the executions by. -/
theorem OnCourse.of_dropped {t : Task} {before after : List Task} (h : s.OnCourse f e)
    (hdrop : s.DropsWake s' t before after) :
    s'.OnCourse f e ∧ (s.Rests f e → s'.Rests f e) := by
  refine h.of_same (hdrop.executions ▸ h.found) (hdrop.automations ▸ h.stored)
    (fun t' _ hholds => ?_) fun _ hmailed => hdrop.sent ▸ hmailed
  have hne : t' ≠ t := by
    rintro rfl
    exact hholds hdrop.waking
  exact hdrop.mem_iff hne

/-- **A turn of any task** that does not race keeps the execution on its course. -/
theorem OnCourse.of_turn {t : Task} {before after : List Task} {e₁ e₁' : Execution}
    (hwf : f.IsWellFormed accepted) (ho : s.IsOrderly) (h : s.OnCourse f e)
    (hgo : s.GoesAlone s' t before after e₁ e₁') :
    ∃ e', s'.OnCourse f e' ∧ e'.Continues e ∧ (s.Rests f e → s'.Rests f e') := by
  by_cases hid : e.id = t.executionId
  · have hsame : e₁ = e := by
      have hfound := hgo.found
      rw [← hid, h.found] at hfound
      exact (Option.some.inj hfound).symm
    subst hsame
    by_cases hholds : t.Holds
    · obtain ⟨hcourse, hrests⟩ := h.of_holder hwf ho hgo.toTakesTurn hid.symm hholds
      exact ⟨e₁', hcourse, (hgo.keeps ho).2.1, fun _ => hrests⟩
    · obtain ⟨hcourse, hrests, _⟩ := h.of_waking ho hgo hid.symm (not_not.mp hholds)
      exact ⟨e₁, hcourse, .same e₁, hrests⟩
  · obtain ⟨hcourse, hrests⟩ := h.of_other hgo.toTakesTurn hid
    exact ⟨e, hcourse, .same e, hrests⟩

/-! ## 4. Events -/

/-- An execution that is begun passes the ones that are there by. -/
theorem OnCourse.of_began {r : Runner α ε ν} {a : Automation} {address : String} (ho : s.IsOrderly)
    (h : s.OnCourse f e) (hbegan : s.runner.Began r (s.runner.newRecord a address)) :
    OnCourse ⟨r, s.sent⟩ f e ∧ (s.Rests f e → Rests ⟨r, s.sent⟩ f e) := by
  have hne : e.id ≠ s.runner.ids.next.1 := fun hid => by
    have hfound := h.found
    rw [hid, ho.free] at hfound
    cases hfound
  refine h.of_same ((hbegan.revises.others _ hne).trans h.found) (hbegan.automations ▸ h.stored)
    (fun t hid _ => ?_) fun _ hmailed => hmailed
  show t ∈ r.queue ↔ _
  rw [hbegan.queue, List.mem_append, List.mem_singleton, or_iff_left]
  rintro rfl
  exact hne hid.symm

omit [LawfulExecutions ε] in
/-- A resumption that is queued passes the executions by. -/
theorem OnCourse.of_queued {t : Task} (h : s.OnCourse f e) (ht : t.stage.role = .waking)
    (hexecutions : s'.runner.executions = s.runner.executions)
    (hautomations : s'.runner.automations = s.runner.automations)
    (hqueue : s'.runner.queue = s.runner.queue ++ [t]) (hsent : s'.sent = s.sent) :
    s'.OnCourse f e ∧ (s.Rests f e → s'.Rests f e) := by
  refine h.of_same (hexecutions ▸ h.found) (hautomations ▸ h.stored) (fun t' _ hholds => ?_)
    fun _ hmailed => hsent ▸ hmailed
  rw [hqueue, List.mem_append, List.mem_singleton, or_iff_left]
  rintro rfl
  exact hholds ht

/-- A new process finds the execution on its course: a task that is gone leaves the record where it
    stands, between two steps if the task was there. -/
theorem OnCourse.reopened (ho : s.IsOrderly) (h : s.OnCourse f e) :
    OnCourse ⟨s.runner.reopened, s.sent⟩ f e ∧
      ((∀ t ∈ s.runner.queue, t.stage.isWithinStep = false) → s.Rests f e →
        Rests ⟨s.runner.reopened, s.sent⟩ f e) := by
  refine ⟨⟨h.found, h.stored, fun t ht => absurd ht List.not_mem_nil, h.waits, h.blamed⟩,
    fun hbetween hrests _ => ?_⟩
  show Settled f e s.sent
  exact h.settled ho hrests fun t ht _ => hbetween t ht

omit [LawfulExecutions ε] in
theorem exists_of_pass {event : Event α ν}
    (h : (s.apply event).OnCourse f e ∧ (s.Rests f e → (s.apply event).Rests f e)) :
    ∃ e', (s.apply event).OnCourse f e' ∧ e'.Continues e ∧
      (event.IsGraceful → s.Rests f e → (s.apply event).Rests f e') :=
  ⟨e, h.1, .same e, fun _ => h.2⟩

/-- **An event that leaves the flow as it is**, and does not race, keeps the execution on its course. -/
theorem OnCourse.apply (hwf : f.IsWellFormed accepted) (ho : s.IsOrderly) (h : s.OnCourse f e)
    {event : Event α ν} (hrace : s.races event = false) (hleaves : event.Leaves e.automationId f) :
    ∃ e', (s.apply event).OnCourse f e' ∧ e'.Continues e ∧
      (event.IsGraceful → s.Rests f e → (s.apply event).Rests f e') := by
  cases event with
  | start id subject =>
    refine exists_of_pass ?_
    show OnCourse ⟨(s.runner.start id subject).2, s.sent⟩ f e ∧
      (_ → Rests ⟨(s.runner.start id subject).2, s.sent⟩ f e)
    rcases Runner.start_cases ho.sound ho.free id subject with
      ⟨_, hsame⟩ | ⟨a, address, _, _, _, _, hbegan⟩
    · rw [hsame]
      exact ⟨h, fun hrests => hrests⟩
    · exact h.of_began ho hbegan
  | author automations drawn =>
    exact exists_of_pass
      (h.of_same h.found hleaves (fun _ _ _ => Iff.rfl) fun _ hmailed => hmailed)
  | equip notifier previewChars recentLimit =>
    exact exists_of_pass
      (h.of_same h.found h.stored (fun _ _ _ => Iff.rfl) fun _ hmailed => hmailed)
  | clock now =>
    exact exists_of_pass
      (h.of_same h.found h.stored (fun _ _ _ => Iff.rfl) fun _ hmailed => hmailed)
  | fire id => exact exists_of_pass (h.of_queued rfl rfl rfl rfl rfl)
  | resume id => exact exists_of_pass (h.of_queued rfl rfl rfl rfl rfl)
  | recover =>
    obtain ⟨hexecutions, haround⟩ := s.runner.recover_keeps
    refine exists_of_pass (h.of_same ?_ ?_ (fun t _ _ => ?_) fun _ hmailed => hmailed)
    · exact hexecutions ▸ h.found
    · exact haround.automations ▸ h.stored
    · rw [← haround.queue]
      rfl
  | rearm listed =>
    obtain ⟨hexecutions, haround⟩ := s.runner.rearmAll_keeps listed
    refine exists_of_pass (h.of_same ?_ ?_ (fun t _ _ => ?_) fun _ hmailed => hmailed)
    · exact hexecutions ▸ h.found
    · exact haround.automations ▸ h.stored
    · rw [← haround.queue]
      rfl
  | disarm =>
    exact exists_of_pass
      (h.of_same h.found h.stored (fun _ _ _ => Iff.rfl) fun _ hmailed => hmailed)
  | go place =>
    rcases apply_go_alone_cases ho.sound ho.exists_of_held hrace with
      hnone | ⟨t, before, after, hdrop⟩ | ⟨t, before, after, e₁, e₁', hgo⟩
    · refine exists_of_pass ?_
      rw [hnone]
      exact ⟨h, fun hrests => hrests⟩
    · exact exists_of_pass (h.of_dropped hdrop)
    · obtain ⟨e', hcourse, hcont, hrests⟩ := h.of_turn hwf ho hgo
      exact ⟨e', hcourse, hcont, fun _ => hrests⟩
  | reopen =>
    obtain ⟨hcourse, hrests⟩ := h.reopened ho
    refine exists_of_pass ?_
    rcases s.apply_reopen_cases with hnone | ⟨hbetween, hnew⟩
    · rw [hnone]
      exact ⟨h, fun hrests => hrests⟩
    · rw [hnew]
      exact ⟨hcourse, hrests hbetween⟩
  | crash => exact ⟨e, (h.reopened ho).1, .same e, fun hgraceful => hgraceful.elim⟩

/-- **A race-free run of events that leave the flow as it is** keeps the execution on its course. -/
theorem OnCourse.run (hwf : f.IsWellFormed accepted) (ho : s.IsOrderly) (h : s.OnCourse f e)
    {events : List (Event α ν)} (hfree : s.RaceFree events)
    (hleaves : ∀ event ∈ events, event.Leaves e.automationId f) :
    ∃ e', (s.run events).OnCourse f e' ∧ e'.Continues e ∧
      ((∀ event ∈ events, event.IsGraceful) → s.Rests f e → (s.run events).Rests f e') := by
  induction events generalizing s e with
  | nil => exact ⟨e, h, .same e, fun _ hrests => hrests⟩
  | cons event events ih =>
    rw [List.forall_mem_cons] at hleaves
    obtain ⟨e₁, hcourse₁, hcont₁, hrests₁⟩ := h.apply hwf ho hfree.1 hleaves.1
    obtain ⟨e₂, hcourse₂, hcont₂, hrests₂⟩ := ih (isOrderly_apply ho hfree.1).1 hcourse₁ hfree.2
      (hcont₁.automationId ▸ hleaves.2)
    refine ⟨e₂, hcourse₂, hcont₂.trans hcont₁, fun hgraceful hrests => ?_⟩
    rw [List.forall_mem_cons] at hgraceful
    exact hrests₂ hgraceful.2 (hrests₁ hgraceful.1 hrests)

/-! ## 5. Whole runs -/

/-- **An execution begins on its course**, at the start of the walk. -/
theorem OnCourse.begun {r : Runner α ε ν} {a : Automation} {address : String} (ho : s.IsOrderly)
    (hwf : f.IsWellFormed accepted)
    (hstored : ∃ b, AutomationStorage.get s.runner.automations a.id = .ok (some b) ∧ b.flow = f)
    (hbegan : s.runner.Began r (s.runner.newRecord a address)) :
    OnCourse ⟨r, s.sent⟩ f (s.runner.newRecord a address) ∧
      Rests ⟨r, s.sent⟩ f (s.runner.newRecord a address) := by
  have hfree := ho.free
  obtain ⟨start, hstart⟩ := Flow.station_zero_of_isWellFormed hwf address
  have hunsent : s.sent.filter (fun x => x.executionId = s.runner.ids.next.1) = [] := by
    refine List.filter_eq_nil_iff.mpr fun x hx => ?_
    rw [decide_eq_true_eq]
    intro hid
    obtain ⟨e, he⟩ := ho.sent x hx
    rw [hid, hfree] at he
    cases he
  have hnew : ∀ t ∈ s.runner.queue, t.Holds → t.executionId ≠ s.runner.ids.next.1 := by
    intro t ht hholds hid
    obtain ⟨e, he, _⟩ := ho.held t ht hholds
    rw [hid, hfree] at he
    cases he
  have hblamed : (s.runner.newRecord a address).Blamed ν f :=
    ⟨fun _ hentry => absurd hentry List.not_mem_nil,
      fun hfailed => absurd hfailed (show Status.pending ≠ .failed by decide)⟩
  refine ⟨⟨hbegan.revises.own, ?_, fun t ht hid hholds => ?_, nofun, hblamed⟩,
    fun hidle => ?_⟩
  · show ∃ b, AutomationStorage.get r.automations a.id = .ok (some b) ∧ b.flow = f
    rw [hbegan.automations]
    exact hstored
  · have ht' : t ∈ r.queue := ht
    rw [hbegan.queue, List.mem_append, List.mem_singleton] at ht'
    rcases ht' with ht' | rfl
    · exact absurd hid (hnew t ht' hholds)
    · exact .enterFirst start hstart rfl rfl hunsent
  · refine absurd nofun (hidle ⟨_, .dispatched, s.runner.setup, .enter⟩ ?_ rfl)
    show _ ∈ r.queue
    rw [hbegan.queue]
    exact List.mem_append_right _ (List.mem_singleton_self _)

/-- **Every step exactly once.** An execution that is started for an automation without problems, whose
    flow nobody changes from then on, whatever else happens in between, short of a crash in the middle
    of a step and as long as no resumption overlaps another one of the same execution: whenever its task
    is between two steps, there is a number `k` such that the entries without error are those of the
    first `k` nodes of the reference walk, the messages that were sent for it are those of the actions
    among these nodes, in this order, and it is completed exactly when the end node is one of them. -/
theorem walks_exactly_once (hs : s.IsUnraced) {a : Automation} {subject : Option String}
    {address : String}
    (hstored : AutomationStorage.get s.runner.automations a.id = .ok (some a))
    (haccepted : a.flow.problems s.runner.clock = .ok [])
    (haddress : Address.clean subject = .ok address) :
    ∃ e, (s.runner.start a.id subject).1 = .ok e ∧
      ∀ later : List (Event α ν), (∀ event ∈ later, event.Leaves a.id a.flow ∧ event.IsGraceful) →
        (s.apply (.start a.id subject)).RaceFree later →
        let now := (s.apply (.start a.id subject)).run later
        (∀ t ∈ now.runner.queue, t.executionId = e.id → t.stage.isWithinStep = false) →
        ∃ e' k, ExecutionStorage.get now.runner.executions e.id = some e' ∧
          (e'.log.filter fun entry => entry.error.isNone).map LogEntry.nodeId =
            (a.flow.walk address k).map Node.id ∧
          now.sent.filter (fun x => x.executionId = e.id) =
            ((a.flow.walk address k).filterMap Node.message?).map
              (fun message => ⟨e.id, address, message⟩) ∧
          (e'.status = .completed ↔ ∃ n ∈ a.flow.walk address k, n.kind = .finish) := by
  have ho := hs.isOrderly
  have hwf := Check.isWellFormed_of_problems haccepted
  obtain ⟨hok, hbegan⟩ := Runner.start_accepted ho.sound ho.free haddress hstored haccepted
  obtain ⟨hcourse, hrests⟩ := OnCourse.begun ho hwf ⟨a, hstored, rfl⟩ hbegan
  refine ⟨_, hok, fun later hlater hfree => ?_⟩
  intro now hbetween
  have ho₁ := ho.of_began hbegan
  obtain ⟨e', hcourse', hcont, hrests'⟩ := hcourse.run hwf ho₁ hfree fun event hevent =>
    (hlater event hevent).1
  have hrests' : now.Rests a.flow e' := hrests' (fun event hevent => (hlater event hevent).2) hrests
  have hid : e'.id = (s.runner.newRecord a address).id := hcont.id
  obtain ⟨k, hlogged, hmailed, hdone⟩ := hcourse'.settled (isOrderly_run ho₁ hfree) hrests'
    fun t ht hown => hbetween t ht (hown.trans hid)
  have hsubject : e'.subject = address := hcont.subject
  unfold Execution.Logged at hlogged
  unfold Execution.Mailed at hmailed
  rw [hsubject] at hlogged hmailed hdone
  rw [hid] at hmailed
  exact ⟨e', k, hid ▸ hcourse'.found, hlogged, hmailed, hdone⟩

/-- A flow with a node of every kind: after an hour, a message to the subjects of one domain. -/
def greetingFlow : Flow where
  nodes :=
    [⟨"start", .start, .empty⟩,
      ⟨"ours", .condition, .condition ⟨[⟨some "ends_with", some "@example.org", "email"⟩], none⟩⟩,
      ⟨"wait", .delay, .delay ⟨some "relative", none, some (.ofInt 1), some "hours"⟩⟩,
      ⟨"mail", .action, .action (some "hello")⟩, ⟨"end", .finish, .empty⟩]
  edges :=
    [⟨"e1", "start", "ours", none⟩, ⟨"e2", "ours", "wait", some "true"⟩,
      ⟨"e3", "ours", "end", some "false"⟩, ⟨"e4", "wait", "mail", none⟩, ⟨"e5", "mail", "end", none⟩]

/-- The automation with this flow. -/
def greeting : Automation := ⟨"greeting", "Greeting", greetingFlow, none, none⟩

/-- A session with that automation, whose messages go to an outbox. -/
def greetingSession : Session MemoryAutomations MemoryExecutions Outbox :=
  opened ⟨Keyed.empty.put "greeting" greeting⟩ .empty Moment.first ⟨0⟩ 50 50

/-- The walk up to the delay, a new process that recovers twice, the delay's end with a timer and a
    resumption at once, and the rest of the walk. -/
def greetingEvents : List (Event MemoryAutomations Outbox) :=
  List.replicate 14 (.go 0) ++
    [.reopen, .recover, .recover, .clock (Moment.first.addMicros 3600000000), .fire "id-1",
      .resume "id-1"] ++
    List.replicate 16 (.go 0)

theorem walks_exactly_once_greeting :
    ∃ e, (greetingSession.runner.start greeting.id (some "ann@example.org")).1 = .ok e ∧
      let now := (greetingSession.apply (.start greeting.id (some "ann@example.org"))).run
        greetingEvents
      ∃ e' k, ExecutionStorage.get now.runner.executions e.id = some e' ∧
        (e'.log.filter fun entry => entry.error.isNone).map LogEntry.nodeId =
          (greetingFlow.walk "ann@example.org" k).map Node.id ∧
        now.sent.filter (fun x => x.executionId = e.id) =
          ((greetingFlow.walk "ann@example.org" k).filterMap Node.message?).map
            (fun message => ⟨e.id, "ann@example.org", message⟩) ∧
        (e'.status = .completed ↔
          ∃ n ∈ greetingFlow.walk "ann@example.org" k, n.kind = .finish) := by
  have hidle : ((greetingSession.apply (.start greeting.id (some "ann@example.org"))).run
      greetingEvents).runner.queue = [] := List.isEmpty_iff.mp (by decide +kernel)
  have hevents : ∀ event ∈ greetingEvents, event.Leaves greeting.id greetingFlow ∧
      event.IsGraceful := by
    intro event hevent
    simp only [greetingEvents, List.mem_append, List.mem_replicate, List.mem_cons,
      List.not_mem_nil, or_false] at hevent
    rcases hevent with (⟨_, rfl⟩ | rfl | rfl | rfl | rfl | rfl | rfl) | ⟨_, rfl⟩ <;>
      exact ⟨trivial, trivial⟩
  obtain ⟨e, hok, h⟩ := walks_exactly_once (s := greetingSession) (a := greeting)
    ⟨_, _, _, _, _, _, [], trivial, rfl⟩ (by decide +kernel) (by decide +kernel)
    (show Address.clean (some "ann@example.org") = .ok "ann@example.org" by decide +kernel)
  refine ⟨e, hok, h greetingEvents hevents (by decide +kernel) fun t ht => ?_⟩
  rw [hidle] at ht
  cases ht

/-- **A race sends a message twice**: two resumptions that both have read the record each take the
    execution past its delay and through the action. -/
theorem race_sends_twice :
    reminderFlow.problems Moment.first = .ok [] ∧
      let now := reminderSession.run (bothAwake ++ List.replicate 20 (.go 0))
      now.runner.queue.length = 0 ∧
        now.sent = List.replicate 2 ⟨"id-1", "ann@example.org", "hello"⟩ ∧
        (ExecutionStorage.get now.runner.executions "id-1").map (fun e =>
            (e.log.filter fun entry => entry.error.isNone).map LogEntry.nodeId) =
          some ["start", "wait", "mail", "end", "mail", "end"] := by
  decide +kernel

end Session

end Dripline
