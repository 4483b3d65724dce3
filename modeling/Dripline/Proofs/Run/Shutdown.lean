import Dripline.Proofs.Run.Operations
import Dripline.Proofs.Run.Registry

/-!
# Shutting down

A runner that shuts down disarms its timers and waits for the tasks that are in flight at that moment, in
this order. While it waits, these tasks may suspend their executions, which arms timers again, and such a
timer may fire:

* `Session.Works`: what a runner goes on doing while it waits; `left`, `Session.Gathers`: how many of the
  first tasks of the queue are left, and runs after which none of them is in flight any more;
* `queue_of_work`: the tasks that were there stand before those that came, and only timers send any;
* `shutdown_gathers`: running the tasks in flight to their end at once is one such run;
* `IsStill`: nothing of an execution is in flight or armed, and work on others leaves it so;
* `recover_rebuilds`: over the stores of a runner, a new one arms every suspended execution once;
* **`shutdown_settles`**: after shutting down, what is in flight or armed came from timers that tasks in
  flight have armed meanwhile, and a new runner arms every suspended execution once;
* `shutdown_leaves_timer`: a timer that is armed, and a task that is in flight, when the runner is down.
-/

namespace Dripline

variable {α ε ν : Type}

namespace Session

/-! ## 1. Waiting for the tasks in flight -/

/-- **What a runner does by itself**: a task takes a turn, time goes by, and a timer fires that waits and
    whose moment is reached. -/
def Works (s : Session α ε ν) : Event α ν → Prop
  | .clock now => s.runner.clock.atMost now = .ok true
  | .fire id => (s.runner.timers.get? id).any (Timers.isDue s.runner.clock) = true
  | .go _ => True
  | _ => False

instance (s : Session α ε ν) : (event : Event α ν) → Decidable (s.Works event)
  | .clock now => inferInstanceAs (Decidable (s.runner.clock.atMost now = .ok true))
  | .fire id =>
    inferInstanceAs (Decidable ((s.runner.timers.get? id).any (Timers.isDue s.runner.clock) = true))
  | .go _ => .isTrue trivial
  | .start _ _ | .author _ _ | .equip _ _ _ | .resume _ | .recover | .rearm _ | .disarm | .reopen
  | .crash => .isFalse fun h => h

theorem Works.exists_of_fire {s : Session α ε ν} {id : String} (h : s.Works (.fire id)) :
    ∃ timer, s.runner.timers.get? id = some timer := by
  obtain ⟨timer, htimer, _⟩ := (Option.any_eq_true _ _).mp h
  exact ⟨timer, htimer⟩

/-- A clock that goes forward shows moments of one kind. -/
theorem Works.showsKind {s : Session α ε ν} {event : Event α ν} (h : s.Works event) :
    event.ShowsKind s.runner.clock.isAnchored := by
  cases event with
  | clock now => exact (Moment.isAnchored_of_atMost h).symm
  | _ => trivial

variable [AutomationStorage α] [ExecutionStorage ε] [Notifier ν] {s s' : Session α ε ν}

/-- How many of the first tasks of the queue are left after an event. -/
def left (s : Session α ε ν) (n : Nat) : Event α ν → Nat
  | .go place =>
    if place < n ∧ (s.apply (.go place)).runner.queue.length < s.runner.queue.length then n - 1 else n
  | _ => n

/-- **Waiting for the first tasks of the queue**: work until none of them is in flight any more. -/
def Gathers (s : Session α ε ν) (n : Nat) : List (Event α ν) → Prop
  | [] => ∀ t ∈ s.runner.queue.take n, t.isInFlight = false
  | event :: events => s.Works event ∧ (s.apply event).Gathers (s.left n event) events

instance decidableGathers (s : Session α ε ν) (n : Nat) :
    (events : List (Event α ν)) → Decidable (s.Gathers n events)
  | [] => inferInstanceAs (Decidable (∀ t ∈ s.runner.queue.take n, t.isInFlight = false))
  | event :: events =>
    @instDecidableAnd _ _ inferInstance (decidableGathers (s.apply event) (s.left n event) events)

theorem Gathers.works {n : Nat} {events : List (Event α ν)} (h : s.Gathers n events) :
    s.Throughout Works events := by
  induction events generalizing s n with
  | nil => exact trivial
  | cons event events ih => exact ⟨h.1, ih h.2⟩

/-- A turn leaves the queue with one task at another stage, or without it. -/
theorem queue_of_go (s : Session α ε ν) (place : Nat) :
    (s.apply (.go place)).runner.queue = s.runner.queue ∨
      (∃ t stage, s.runner.queue[place]? = some t ∧ (s.apply (.go place)).runner.queue =
        s.runner.queue.set place { t with stage := stage }) ∨
      place < s.runner.queue.length ∧
        (s.apply (.go place)).runner.queue = s.runner.queue.eraseIdx place := by
  cases hplace : s.runner.queue[place]? with
  | none => exact .inl (by rw [apply_go_of_place_none hplace])
  | some t =>
    have haround := s.runner.stepTask_around t
    have happly : (s.apply (.go place)).runner = s.runner.goOn place t := by
      simp only [Session.apply, hplace]
    rw [happly]
    unfold Runner.goOn
    cases hstep : s.runner.stepTask t with
    | mk r next =>
      rw [hstep] at haround
      cases next with
      | stage stage =>
        refine .inr (.inl ⟨t, stage, rfl, ?_⟩)
        show r.queue.set place _ = _
        rw [haround.queue]
      | done result =>
        refine .inr (.inr ⟨(List.getElem?_eq_some_iff.mp hplace).1, ?_⟩)
        show r.queue.eraseIdx place = _
        rw [haround.queue]

/-- **The first tasks stand before the others**, and only timers send more. -/
theorem queue_of_work {first new : List Task} {event : Event α ν} (hworks : s.Works event)
    (hqueue : s.runner.queue = first ++ new) (hnew : ∀ t ∈ new, t.origin = .fired) :
    ∃ first' new', (s.apply event).runner.queue = first' ++ new' ∧
      first'.length = s.left first.length event ∧ (∀ t ∈ new', t.origin = .fired) ∧
      ((∀ id, event ≠ .fire id) → new'.length ≤ new.length) := by
  cases event with
  | clock now => exact ⟨first, new, hqueue, rfl, hnew, fun _ => Nat.le_refl _⟩
  | fire id =>
    refine ⟨first, new ++ [⟨id, .fired, s.runner.setup, .wake⟩], ?_, rfl, fun t ht => ?_,
      fun hno => absurd rfl (hno id)⟩
    · show s.runner.queue ++ [_] = _
      rw [hqueue, List.append_assoc]
    · rcases List.mem_append.mp ht with ht | ht
      · exact hnew t ht
      · rw [List.mem_singleton.mp ht]
  | go place =>
    rcases s.queue_of_go place with hsame | ⟨t, stage, ht, hset⟩ | ⟨hlt, herase⟩
    · have hleft : s.left first.length (.go place) = first.length :=
        if_neg fun h => absurd h.2 (by rw [hsame]; exact Nat.lt_irrefl _)
      exact ⟨first, new, hsame.trans hqueue, hleft.symm, hnew, fun _ => Nat.le_refl _⟩
    · have hleft : s.left first.length (.go place) = first.length :=
        if_neg fun h => absurd h.2 (by rw [hset, List.length_set]; exact Nat.lt_irrefl _)
      rw [hset, hleft, hqueue]
      rw [hqueue] at ht
      by_cases hplace : place < first.length
      · rw [List.set_append_left _ _ hplace]
        exact ⟨_, new, rfl, List.length_set, hnew, fun _ => Nat.le_refl _⟩
      · have hge := Nat.le_of_not_lt hplace
        rw [List.getElem?_append_right hge] at ht
        rw [List.set_append_right _ _ hge]
        refine ⟨first, _, rfl, rfl, fun t' ht' => ?_, fun _ => Nat.le_of_eq List.length_set⟩
        rcases List.mem_or_eq_of_mem_set ht' with ht' | rfl
        · exact hnew t' ht'
        · exact hnew t (List.mem_of_getElem? ht)
    · have hshorter : (s.apply (.go place)).runner.queue.length < s.runner.queue.length := by
        rw [herase, List.length_eraseIdx_of_lt hlt]
        exact Nat.sub_one_lt (Nat.ne_of_gt (Nat.zero_lt_of_lt hlt))
      by_cases hplace : place < first.length
      · have hleft : s.left first.length (.go place) = first.length - 1 := if_pos ⟨hplace, hshorter⟩
        rw [herase, hleft, hqueue, List.eraseIdx_append_of_lt_length hplace]
        exact ⟨_, new, rfl, List.length_eraseIdx_of_lt hplace, hnew, fun _ => Nat.le_refl _⟩
      · have hleft : s.left first.length (.go place) = first.length := if_neg fun h => hplace h.1
        rw [herase, hleft, hqueue, List.eraseIdx_append_of_length_le (Nat.le_of_not_lt hplace)]
        exact ⟨first, _, rfl, rfl, fun t ht => hnew t (List.mem_of_mem_eraseIdx ht),
          fun _ => List.length_eraseIdx_le _ _⟩
  | _ => exact hworks.elim

/-- **When a runner has waited**, the tasks that are left of those it waited for are not in flight, and
    timers have sent the others. -/
theorem Gathers.queue {first new : List Task} {events : List (Event α ν)}
    (h : s.Gathers first.length events) (hqueue : s.runner.queue = first ++ new)
    (hnew : ∀ t ∈ new, t.origin = .fired) :
    ∃ first' new', (s.run events).runner.queue = first' ++ new' ∧
      (∀ t ∈ first', t.isInFlight = false) ∧ (∀ t ∈ new', t.origin = .fired) ∧
      ((∀ id, Event.fire id ∉ events) → new'.length ≤ new.length) := by
  induction events generalizing s first new with
  | nil =>
    refine ⟨first, new, hqueue, fun t ht => h t ?_, hnew, fun _ => Nat.le_refl _⟩
    rw [hqueue, List.take_left]
    exact ht
  | cons event events ih =>
    obtain ⟨first₁, new₁, hqueue₁, hleft, hnew₁, hfewer⟩ := queue_of_work h.1 hqueue hnew
    obtain ⟨first', new', hqueue', hasked, hnew', hfewer'⟩ := ih (hleft ▸ h.2) hqueue₁ hnew₁
    refine ⟨first', new', hqueue', hasked, hnew', fun hno => ?_⟩
    have hlater := hfewer' fun id hid => hno id (List.mem_cons_of_mem _ hid)
    exact hlater.trans (hfewer fun id hid => hno id (hid ▸ List.mem_cons_self))

/-- With nothing queued and nothing armed there is nothing to wait for. -/
theorem idle_of_works {events : List (Event α ν)} (hworks : s.Throughout Works events)
    (hidle : s.runner.queue = []) (hfree : s.runner.timers.entries = .empty) :
    (s.run events).runner.queue = [] ∧ (s.run events).runner.timers.count = 0 := by
  have hstep : ∀ (s : Session α ε ν) event, s.Works event →
      s.runner.queue = [] ∧ s.runner.timers.entries = .empty →
      (s.apply event).runner.queue = [] ∧ (s.apply event).runner.timers.entries = .empty := by
    intro s event h hs
    cases event with
    | clock now => exact hs
    | fire id =>
      obtain ⟨timer, htimer⟩ := h.exists_of_fire
      unfold Timers.get? at htimer
      rw [hs.2] at htimer
      cases htimer
    | go place =>
      rw [apply_go_of_place_none (by rw [hs.1]; rfl)]
      exact hs
    | _ => exact h.elim
  obtain ⟨hqueue, hentries⟩ := throughout_induction
    (fun s => s.runner.queue = [] ∧ s.runner.timers.entries = .empty) Works hstep hworks ⟨hidle, hfree⟩
  refine ⟨hqueue, ?_⟩
  unfold Timers.count
  rw [hentries]
  rfl

/-! ## 2. Executions that nothing is in flight for -/

/-- Nothing of an execution is queued, and nothing is armed for it. -/
structure IsStill (s : Session α ε ν) (id : String) : Prop where
  free : s.runner.timers.get? id = none
  idle : ∀ t ∈ s.runner.queue, t.executionId ≠ id

variable [LawfulExecutions ε] {anchored : Bool} {id : String}

/-- **What a runner does by itself leaves an execution alone** that it has nothing to do for. -/
theorem IsStill.apply (ho : s.IsSound) (h : s.IsStill id) {event : Event α ν}
    (hworks : s.Works event) : (s.apply event).IsStill id := by
  cases event with
  | clock now => exact ⟨h.free, h.idle⟩
  | fire other =>
    obtain ⟨timer, htimer⟩ := hworks.exists_of_fire
    have hid : other ≠ id := by
      rintro rfl
      cases htimer.symm.trans h.free
    refine ⟨(Timers.get?_setPhase _ _ _ _).trans ((if_neg hid).trans h.free), fun t ht => ?_⟩
    rcases List.mem_append.mp ht with ht | ht
    · exact h.idle t ht
    · rw [List.mem_singleton.mp ht]
      exact hid
  | go place =>
    rcases apply_go_cases ho.sound ho.exists_of_held place with
      hnone | ⟨t, before, after, hdrop⟩ | ⟨t, before, after, e, e', hgo⟩
    · rw [hnone]
      exact h
    · have hid := h.idle t hdrop.mem
      exact ⟨(hdrop.timers_other hid.symm).trans h.free,
        fun t' ht' => h.idle t' (hdrop.mem_of_queued ht')⟩
    · have hid := h.idle t hgo.mem
      refine ⟨((hgo.rings ho).other hid.symm).trans h.free, fun t' ht' hid' => ?_⟩
      exact h.idle t' ((hgo.mem_iff_of_other (hid'.trans_ne hid.symm)).mp ht') hid'
  | _ => exact hworks.elim

theorem isStill_run (ho : s.IsSound) (h : s.IsStill id) {events : List (Event α ν)}
    (hworks : s.Throughout Works events) : (s.run events).IsStill id :=
  (throughout_induction (fun s => s.IsSound ∧ s.IsStill id) Works
    (fun _ event hworks h => ⟨(isSound_apply h.1 event).1, h.2.apply h.1 hworks⟩) hworks ⟨ho, h⟩).2

/-- What a runner does by itself leaves the kind of the clock alone. -/
theorem isUniform_of_works [KeepsMoments ε anchored] (ho : s.IsSound) (hu : s.IsUniform anchored)
    {events : List (Event α ν)} (hworks : s.Throughout Works events) :
    (s.run events).IsUniform anchored :=
  (throughout_induction (fun s => s.IsSound ∧ s.IsUniform anchored) Works
    (fun _ event hworks h =>
      ⟨(isSound_apply h.1 event).1, h.2.apply h.1 (h.2.clock ▸ hworks.showsKind)⟩) hworks ⟨ho, hu⟩).2

/-- What a runner does by itself keeps the timers in line with the records, if no resumptions race. -/
theorem tracks_of_works [KeepsMoments ε anchored] (ho : s.IsOrderly) (hu : s.IsUniform anchored)
    (h : s.Tracks id) {events : List (Event α ν)} (hworks : s.Throughout Works events)
    (hfree : s.RaceFree events) : (s.run events).Tracks id := by
  induction events generalizing s with
  | nil => exact h
  | cons event events ih =>
    have harms : event.Arms → event = .recover ∧ s.Attended id := fun harms => by
      cases event with
      | recover => exact hworks.1.elim
      | rearm listed => exact hworks.1.elim
      | _ => exact harms.elim
    exact ih (isOrderly_apply ho hfree.1).1 (hu.apply ho.toIsSound (hu.clock ▸ hworks.1.showsKind))
      (h.apply ho hu hfree.1 harms) hworks.2 hfree.2

/-! ## 3. A new runner over the same stores -/

/-- **A recovery rebuilds the timers** of a new runner: as many as there are suspended executions, each
    waiting for the moment of its record, and none a second time. -/
theorem recover_rebuilds [KeepsMoments ε anchored] (ho : s.IsSound) (hu : s.IsUniform anchored) :
    let new := s.runner.reopened.recover
    new.1 = (ExecutionStorage.listScheduled s.runner.executions).length ∧
      (∀ id, (new.2.timers.get? id).map (fun timer => (timer.due, timer.phase)) =
        (s.due? id).map fun due => (due, .waiting)) ∧
      new.2.recover.1 = 0 := by
  intro new
  have ho₀ := (isSound_apply ho (.crash : Event α ν)).1
  have hu₀ := hu.apply ho (show (.crash : Event α ν).ShowsKind anchored from trivial)
  have hexecutions : new.2.executions = s.runner.executions := s.runner.reopened.recover_keeps.1
  have hqueue : new.2.queue = [] := s.runner.reopened.recover_keeps.2.queue
  have hlisted : ∀ e ∈ ExecutionStorage.listScheduled s.runner.executions,
      ∃ due, ExecutionStorage.get s.runner.executions e.id = some e ∧
        e.scheduledFor = some due ∧ e.waitsFor? = some due := by
    intro e he
    obtain ⟨hget, hsuspended⟩ := (LawfulExecutions.mem_listScheduled e ho.sound).mp he
    obtain ⟨due, hdue⟩ := Option.isSome_iff_exists.mp (Execution.isSuspended_iff.mp hsuspended).2
    exact ⟨due, hget, hdue, Execution.waitsFor?_eq_some_iff.mpr ⟨hsuspended, hdue⟩⟩
  refine ⟨?_, fun id => ?_, ?_⟩
  · refine Runner.rearmAll_count_free (r := s.runner.reopened.say _ _ _)
      (LawfulExecutions.nodup_listScheduled ho.sound) fun e he => ?_
    obtain ⟨due, hget, hdue, _⟩ := hlisted e he
    have hkind : due.isAnchored = s.runner.clock.isAnchored :=
      (hu.records e.id e hget due hdue).trans hu.clock.symm
    exact ⟨rfl, due, hdue, Moment.since_of_kind hkind⟩
  · obtain ⟨htracks, hcovers⟩ := follows_recovered id ho₀ hu₀ rfl rfl
    have hdue : ((s.apply .crash).apply .recover).due? id = s.due? id :=
      due?_congr (congrArg (ExecutionStorage.get · id) hexecutions)
    rw [← hdue]
    exact htracks.indexes hcovers hqueue
  · refine Runner.rearmAll_count_armed (r := new.2.say _ _ _) fun e he => ?_
    rw [hexecutions] at he
    obtain ⟨due, hget, _, hwaits⟩ := hlisted e he
    refine covers_recover ho₀ hu₀ e.id due ?_
    unfold due?
    rw [show ((s.apply .crash).apply .recover).runner.executions = s.runner.executions from hexecutions,
      hget]
    exact hwaits

/-! ## 4. Shutting down -/

omit [LawfulExecutions ε] in
/-- Turns wait for the first tasks of the queue when they leave nothing in flight. -/
theorem gathers_of_turns {events : List (Event α ν)} (n : Nat)
    (hturns : ∀ event ∈ events, event.IsTurn)
    (hidle : ∀ t ∈ (s.run events).runner.queue, t.isInFlight = false) : s.Gathers n events := by
  induction events generalizing s n with
  | nil => exact fun t ht => hidle t (List.mem_of_mem_take ht)
  | cons event events ih =>
    rw [List.forall_mem_cons] at hturns
    refine ⟨?_, ih _ hturns.2 hidle⟩
    cases event with
    | go place => exact trivial
    | _ => exact hturns.1.elim

omit [LawfulExecutions ε] in
/-- **Running the tasks in flight to their end** one after the other is one way to wait for them, in which
    no timer fires and no resumptions race. -/
theorem shutdown_gathers {r : Runner α ε ν} {fuel : Nat} (hcalm : s.runner.IsCalm)
    (h : s.runner.shutdown fuel = some r) :
    ∃ events : List (Event α ν), (s.apply .disarm).Gathers s.runner.queue.length events ∧
      (∀ id, Event.fire id ∉ events) ∧ (s.apply .disarm).RaceFree events ∧
      ((s.apply .disarm).run events).runner = r := by
  obtain ⟨hleads, hqueue⟩ := Runner.runQueued_leads (r := s.runner.disarm) hcalm h
  obtain ⟨events, hturns, hfree, hrun⟩ := hleads s.sent
  refine ⟨events, gathers_of_turns _ hturns fun t ht => ?_, fun id hfire => hturns _ hfire, hfree, hrun⟩
  have ht : t ∈ r.queue := hrun ▸ ht
  rw [hqueue] at ht
  simpa using List.of_mem_filter ht

/-- **After shutting down**, when the tasks that were in flight have ended, in whatever order they took
    their turns and whatever timers fired meanwhile, as long as nobody asked for anything else:

    * a task that is in flight was sent by a timer that fired meanwhile, and there is none if none fired;
    * what is queued or armed is of executions that a task was queued for at the call, so that there is
      nothing if nothing was queued;
    * without races, what is armed is due when its record says, and waits or has its resumption queued;
    * a new runner over the same stores arms every suspended execution exactly once. -/
theorem shutdown_settles [KeepsMoments ε anchored] (hs : s.IsReachableIn anchored)
    {events : List (Event α ν)} (hgathers : (s.apply .disarm).Gathers s.runner.queue.length events) :
    let now := (s.apply .disarm).run events
    let new := now.runner.reopened.recover
    (∀ t ∈ now.runner.queue, t.isInFlight = true → t.origin = .fired ∧ ∃ id, Event.fire id ∈ events) ∧
      (∀ t ∈ now.runner.queue, ∃ t₀ ∈ s.runner.queue, t₀.executionId = t.executionId) ∧
      (∀ id timer, now.runner.timers.get? id = some timer →
        ∃ t₀ ∈ s.runner.queue, t₀.executionId = id) ∧
      (s.runner.queue = [] → now.runner.queue = [] ∧ now.runner.timers.count = 0) ∧
      (s.IsUnraced → (s.apply .disarm).RaceFree events →
        ∀ id timer, now.runner.timers.get? id = some timer → now.due? id = some timer.due ∧
          (timer.phase = .waiting ∨
            ∃ t ∈ now.runner.queue, t.executionId = id ∧ t.stage.role ≠ .interpreting)) ∧
      new.1 = (ExecutionStorage.listScheduled now.runner.executions).length ∧
      (∀ id, (new.2.timers.get? id).map (fun timer => (timer.due, timer.phase)) =
        (now.due? id).map fun due => (due, .waiting)) ∧
      new.2.recover.1 = 0 := by
  intro now new
  have ho₀ : (s.apply .disarm).IsSound := (isSound_apply hs.isSound (.disarm : Event α ν)).1
  have hu₀ : (s.apply .disarm).IsUniform anchored :=
    hs.isUniform.apply hs.isSound (show (.disarm : Event α ν).ShowsKind anchored from trivial)
  have hworks := hgathers.works
  have ho : now.IsSound := isSound_run ho₀ events
  have hu : now.IsUniform anchored := isUniform_of_works ho₀ hu₀ hworks
  have hstill : ∀ id, (∀ t ∈ s.runner.queue, t.executionId ≠ id) → now.IsStill id := fun id hnone =>
    isStill_run ho₀ ⟨rfl, hnone⟩ hworks
  refine ⟨fun t ht hflight => ?_, fun t ht => ?_, fun id timer htimer => ?_,
    fun hidle => idle_of_works hworks hidle rfl, fun hunraced hfree id timer htimer => ?_,
    recover_rebuilds ho hu⟩
  · have hnone : (s.apply .disarm).runner.queue = s.runner.queue ++ [] := (List.append_nil _).symm
    obtain ⟨first, came, hqueue, hasked, hcame, hfewer⟩ :=
      hgathers.queue hnone fun _ ht => absurd ht List.not_mem_nil
    have hmem : t ∈ came := by
      rw [hqueue, List.mem_append] at ht
      refine ht.resolve_left fun hfirst => ?_
      cases (hasked t hfirst).symm.trans hflight
    refine ⟨hcame t hmem, not_forall_not.mp fun hno => ?_⟩
    exact absurd (List.length_pos_of_mem hmem) (Nat.not_lt.mpr (hfewer hno))
  · by_contra hnone
    push Not at hnone
    exact (hstill t.executionId hnone).idle t ht rfl
  · by_contra hnone
    push Not at hnone
    cases htimer.symm.trans (hstill id hnone).free
  · have ho₁ := (isOrderly_apply hunraced.isOrderly (show s.races .disarm = false from rfl)).1
    have htracks : now.Tracks id := tracks_of_works ho₁ hu₀ (.of_none rfl) hworks hfree
    refine ⟨htracks.due timer htimer, ?_⟩
    by_cases hphase : timer.phase = .waiting
    · exact .inl hphase
    · exact .inr (htracks.awaited timer htimer hphase)

/-- A session in which one execution is suspended and another one has just been started. -/
def greetedTwice : Session MemoryAutomations MemoryExecutions Outbox :=
  greetedSession.run [.start greeting.id (some "bob@example.org")]

theorem isReachableIn_greetedTwice : greetedTwice.IsReachableIn true :=
  isReachableIn_greetedSession.run fun event hevent => by
    rw [List.mem_singleton.mp hevent]
    trivial

/-- The task in flight is waited for, and no timer fires. -/
def quietWait : List (Event MemoryAutomations Outbox) := List.replicate 13 (.go 0)

theorem shutdown_settles_greeting :
    (greetedTwice.apply .disarm).Gathers greetedTwice.runner.queue.length quietWait ∧
      let now := (greetedTwice.apply .disarm).run quietWait
      (∀ t ∈ now.runner.queue, t.isInFlight = true →
        t.origin = .fired ∧ ∃ id, Event.fire id ∈ quietWait) ∧
      now.runner.reopened.recover.1 =
          (ExecutionStorage.listScheduled now.runner.executions).length ∧
        now.runner.reopened.recover.2.recover.1 = 0 := by
  have hgathers : (greetedTwice.apply .disarm).Gathers greetedTwice.runner.queue.length quietWait := by
    decide +kernel
  obtain ⟨hflight, _, _, _, _, hcount, _, hagain⟩ :=
    shutdown_settles isReachableIn_greetedTwice hgathers
  exact ⟨hgathers, hflight, hcount, hagain⟩

/-- Two executions have just been started. -/
def startedTwice : Session MemoryAutomations MemoryExecutions Outbox :=
  greetedTwice.run [.start greeting.id (some "cem@example.org")]

/-- The first task in flight suspends its execution, and an hour later its timer fires, before the second
    one has ended. -/
def longWait : List (Event MemoryAutomations Outbox) :=
  List.replicate 13 (.go 0) ++ [.clock (Moment.first.addMicros 3600000000), .fire "id-2"] ++
    List.replicate 13 (.go 0)

/-- **A timer is armed after the runner was shut down**: the one that was disarmed is not, but the task in
    flight suspends its execution after that. Where another task is still under way when that timer fires,
    there is a task in flight as well. -/
theorem shutdown_leaves_timer :
    (greetedTwice.runner.shutdown 20).map (fun r => (r.queue.length, r.timers.count)) = some (0, 1) ∧
      (startedTwice.apply .disarm).Gathers startedTwice.runner.queue.length longWait ∧
      let now := (startedTwice.apply .disarm).run longWait
      now.runner.queue.map (fun t => (t.executionId, t.isInFlight)) = [("id-2", true)] ∧
        now.runner.timers.count = 2 := by
  decide +kernel

end Session

end Dripline
