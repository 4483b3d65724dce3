import Dripline.Flow.Step
import Dripline.Proofs.Flow.Index
import Dripline.Proofs.Flow.WellFormed

/-!
# The reference walk of a flow

`Flow.station` is the walk that a flow describes for a subject, read off the lists of the flow and
without the interpreter: from the start node along the one edge out of each node, at a condition along
the edge with its outcome's tag, up to the end node. `Flow.walk` is a prefix of it.

In a well-formed flow the interpreter has no other way to go:

* `follow_of_isWellFormed`: every node but the end has a next one, which is a node of the flow;
* `successor?_of_follow`, `branch?_of_follow`: the index of the graph knows the same way on;
* `plan_ofFlow`: a step does what the walk says (`Flow.Plans`), or its delay cannot be calculated;
* `kind_ne_finish_of_mem_walk`: a walk that stands somewhere has not passed the end node.
-/

namespace Dripline

/-! ## 1. The walk -/

/-- The edge that a walk takes out of a node for a subject. -/
def Flow.wayOut (f : Flow) (subject : String) (n : Node) : Option Edge :=
  match n.kind, n.data with
  | .start, _ => f.edges.find? fun e => e.source = n.id
  | .action, _ => f.edges.find? fun e => e.source = n.id
  | .delay, _ => f.edges.find? fun e => e.source = n.id
  | .condition, .condition c => f.edges.find? fun e =>
      e.source = n.id && e.handle = some (Graph.outcomeTag (c.outcome subject))
  | _, _ => none

/-- The node to which a walk goes from a node. -/
def Flow.follow (f : Flow) (subject : String) (n : Node) : Option Node :=
  (f.wayOut subject n).bind fun e => f.nodes.find? fun m => m.id = e.target

/-- **The reference walk**: where it stands after a number of steps, if it is not over by then. -/
def Flow.station (f : Flow) (subject : String) : Nat → Option Node
  | 0 => f.nodes.find? fun n => n.kind = .start
  | k + 1 => (f.station subject k).bind (f.follow subject)

/-- The first `k` nodes of the reference walk, all of them when it is over before. -/
def Flow.walk (f : Flow) (subject : String) (k : Nat) : List Node :=
  (List.range k).filterMap (f.station subject)

/-- The message that a node sends. -/
def Node.message? (n : Node) : Option String :=
  match n.kind, n.data with
  | .action, .action message => message
  | _, _ => none

/-- The delay of a node cannot be calculated at a moment. -/
def Node.Miscalculates (n : Node) (now : Moment) (fault : ArithFault) : Prop :=
  n.kind = .delay ∧ ∃ d, n.data = .delay d ∧
    (d.millis now = .error fault ∨ d.resumeTime now = .error fault)

/-- What the step of a node may plan when it keeps to the walk. -/
inductive Flow.Plans (f : Flow) (subject : String) (n : Node) : StepPlan → Prop where
  | proceed (text : String) (m : Node) (hm : f.follow subject n = some m)
      (hquiet : n.message? = none) : Plans f subject n (.settled (.proceed text m.id))
  | suspend (text : String) (due : Moment) (m : Node) (hm : f.follow subject n = some m)
      (hk : n.kind = .delay) : Plans f subject n (.settled (.suspend text due))
  | finish (text : String) (hk : n.kind = .finish) : Plans f subject n (.settled (.finish text))
  | deliver (message : String) (m : Node) (hm : f.follow subject n = some m)
      (hmessage : n.message? = some message) : Plans f subject n (.deliver message m.id)

variable {f : Flow} {subject : String} {n m : Node} {k : Nat}

theorem Flow.walk_succ (hn : f.station subject k = some n) :
    f.walk subject (k + 1) = f.walk subject k ++ [n] := by
  unfold Flow.walk
  rw [List.range_succ, List.filterMap_append, List.filterMap_cons_some hn, List.filterMap_nil]

theorem Flow.station_succ (hn : f.station subject k = some n) (hm : f.follow subject n = some m) :
    f.station subject (k + 1) = some m := by
  rw [Flow.station, hn, Option.bind_some, hm]

theorem Flow.mem_of_follow (hm : f.follow subject n = some m) : m ∈ f.nodes := by
  obtain ⟨e, _, he⟩ := Option.bind_eq_some_iff.mp hm
  exact List.mem_of_find?_eq_some he

theorem Flow.mem_of_station : ∀ {k : Nat} {n : Node}, f.station subject k = some n → n ∈ f.nodes
  | 0, _, h => List.mem_of_find?_eq_some h
  | k + 1, n, h => by
    obtain ⟨p, _, hp⟩ := Option.bind_eq_some_iff.mp h
    exact Flow.mem_of_follow hp

theorem Flow.follow_finish (hk : n.kind = .finish) : f.follow subject n = none := by
  unfold Flow.follow Flow.wayOut
  rw [hk]
  rfl

/-- A walk that stands at a node stood at a node before, which is not the end node. -/
theorem Flow.station_pred (h : f.station subject (k + 1) = some m) :
    ∃ n, f.station subject k = some n ∧ n.kind ≠ .finish := by
  obtain ⟨n, hn, hm⟩ := Option.bind_eq_some_iff.mp h
  refine ⟨n, hn, fun hk => ?_⟩
  rw [Flow.follow_finish hk] at hm
  cases hm

/-- **A walk that stands somewhere has not passed the end node.** -/
theorem Flow.kind_ne_finish_of_mem_walk : ∀ {k : Nat} {n : Node}, f.station subject k = some n →
    ∀ m ∈ f.walk subject k, m.kind ≠ .finish
  | 0, _, _, _, hm => absurd hm List.not_mem_nil
  | k + 1, _, h, m, hm => by
    obtain ⟨p, hp, hkind⟩ := Flow.station_pred h
    rw [Flow.walk_succ hp, List.mem_append, List.mem_singleton] at hm
    rcases hm with hm | rfl
    · exact Flow.kind_ne_finish_of_mem_walk hp m hm
    · exact hkind

/-! ## 2. The way on in a well-formed flow -/

namespace Flow

variable {now : Moment}

/-- The edge out of a node that has only one. -/
theorem find?_of_exits_length (h : (f.exits n).length = 1) :
    ∃ e, f.edges.find? (fun e => e.source = n.id) = some e := by
  obtain ⟨e, he⟩ := List.length_eq_one_iff.mp h
  refine ⟨e, ?_⟩
  rw [← List.head?_filter]
  exact congrArg List.head? he

/-- A condition has an edge for either outcome. -/
theorem find?_of_exits_perm (h : ((f.exits n).map Edge.handle).Perm [some "true", some "false"])
    (outcome : Bool) : ∃ e, f.edges.find? (fun e =>
      e.source = n.id && e.handle = some (Graph.outcomeTag outcome)) = some e := by
  have htag : some (Graph.outcomeTag outcome) ∈ [some "true", some "false"] := by
    cases outcome <;> decide
  obtain ⟨e, he, hhandle⟩ := List.mem_map.mp (h.symm.subset htag)
  obtain ⟨hmem, hsource⟩ := List.mem_filter.mp he
  refine Option.isSome_iff_exists.mp (List.find?_isSome.mpr ⟨e, hmem, ?_⟩)
  rw [Bool.and_eq_true]
  exact ⟨hsource, decide_eq_true hhandle⟩

theorem wayOut_of_isWellFormed (h : f.IsWellFormed now) (hn : n ∈ f.nodes)
    (hk : n.kind ≠ .finish) (subject : String) : ∃ e, f.wayOut subject n = some e := by
  have hexits := h.exits n hn
  have hcomplete := h.complete n hn
  unfold HasExits at hexits
  unfold Node.IsComplete at hcomplete
  unfold wayOut
  cases hkind : n.kind with
  | start => rw [hkind] at hexits; exact find?_of_exits_length hexits
  | finish => exact absurd hkind hk
  | action => rw [hkind] at hexits; exact find?_of_exits_length hexits
  | delay => rw [hkind] at hexits; exact find?_of_exits_length hexits
  | condition =>
    rw [hkind] at hexits hcomplete
    obtain ⟨c, hc, _⟩ := hcomplete
    rw [hc]
    exact find?_of_exits_perm hexits (c.outcome subject)
  | unknown text hno => rw [hkind] at hexits; exact hexits.elim

theorem mem_edges_of_wayOut {e : Edge} (h : f.wayOut subject n = some e) : e ∈ f.edges := by
  unfold wayOut at h
  split at h
  case h_5 => cases h
  all_goals exact List.mem_of_find?_eq_some h

/-- **Every node but the end has a next one.** -/
theorem follow_of_isWellFormed (h : f.IsWellFormed now) (hn : n ∈ f.nodes)
    (hk : n.kind ≠ .finish) (subject : String) : ∃ m, f.follow subject n = some m := by
  obtain ⟨e, he⟩ := wayOut_of_isWellFormed h hn hk subject
  obtain ⟨m, hm, hid⟩ := List.mem_map.mp (h.anchored e (mem_edges_of_wayOut he)).2
  unfold follow
  rw [he, Option.bind_some]
  exact Option.isSome_iff_exists.mp (List.find?_isSome.mpr ⟨m, hm, decide_eq_true hid⟩)

theorem station_zero_of_isWellFormed (h : f.IsWellFormed now) (subject : String) :
    ∃ s, f.station subject 0 = some s := by
  have hpos : 0 < (f.nodes.filter fun n => n.kind = .start).length := by
    rw [h.oneStart]
    exact Nat.one_pos
  obtain ⟨s, hs⟩ := List.exists_mem_of_length_pos hpos
  obtain ⟨hmem, hkind⟩ := List.mem_filter.mp hs
  exact Option.isSome_iff_exists.mp (List.find?_isSome.mpr ⟨s, hmem, hkind⟩)

theorem start?_eq_station (h : f.IsWellFormed now) :
    (Graph.ofFlow f).start? = f.station subject 0 := Graph.start?_ofFlow h.distinct

theorem node?_of_mem (h : f.IsWellFormed now) (hn : n ∈ f.nodes) :
    (Graph.ofFlow f).node? n.id = some n := by
  rw [Graph.node?_ofFlow]
  obtain ⟨m, hm⟩ := Option.isSome_iff_exists.mp (List.find?_isSome.mpr
    ⟨n, hn, decide_eq_true rfl⟩ : (f.nodes.find? fun m => m.id = n.id).isSome)
  have hid : m.id = n.id := by simpa using List.find?_some hm
  rw [hm, List.inj_on_of_nodup_map h.distinct (List.mem_of_find?_eq_some hm) hn hid]

/-- The id at the end of the way out is that of the next node. -/
theorem target_of_follow (hm : f.follow subject n = some m) :
    (f.wayOut subject n).map Edge.target = some m.id := by
  obtain ⟨e, he, hfind⟩ := Option.bind_eq_some_iff.mp hm
  have hid : m.id = e.target := by simpa using List.find?_some hfind
  rw [he, hid]
  rfl

/-- **The index knows the same way on**, out of a node that does not branch. -/
theorem successor?_of_follow (hm : f.follow subject n = some m) (hk : n.kind ≠ .condition) :
    (Graph.ofFlow f).successor? n.id = some m.id := by
  rw [Graph.successor?_ofFlow, ← target_of_follow hm]
  unfold wayOut
  cases hkind : n.kind with
  | condition => exact absurd hkind hk
  | finish => rw [follow_finish hkind] at hm; cases hm
  | unknown text h =>
    unfold follow wayOut at hm
    rw [hkind] at hm
    cases hm
  | start => rfl
  | action => rfl
  | delay => rfl

/-- **The index knows the same way on**, out of a condition. -/
theorem branch?_of_follow {c : Condition} (hm : f.follow subject n = some m)
    (hk : n.kind = .condition) (hc : n.data = .condition c) :
    (Graph.ofFlow f).branch? n.id (c.outcome subject) = some m.id := by
  rw [Graph.branch?_ofFlow, ← target_of_follow hm]
  unfold wayOut
  rw [hk, hc]

end Flow

/-! ## 3. Steps of the walk -/

namespace Flow

variable {now : Moment}

theorem exit_of_follow (hm : f.follow subject n = some m) (hk : n.kind ≠ .condition) :
    Step.exit (Graph.ofFlow f) n.id = .ok m.id := by
  unfold Step.exit
  rw [successor?_of_follow hm hk]

theorem planAction_of_follow {message : String} (hm : f.follow subject n = some m)
    (hk : n.kind = .action) (hd : n.data = .action (some message)) (hne : message ≠ "") :
    Step.planAction (Graph.ofFlow f) n.id n.data = .ok (.deliver message m.id) := by
  have hexit := exit_of_follow hm (by rw [hk]; exact fun e => nomatch e)
  unfold Step.planAction
  rw [hd]
  show (if message = "" then _ else _) = _
  rw [if_neg hne, hexit]
  rfl

/-- The step of a delay with a way on, its two calculations in turn. -/
theorem planDelay_eq {g : Graph} {id next : String} (hexit : Step.exit g id = .ok next)
    (now : Moment) (d : Delay) :
    Step.planDelay g now id (.delay d) = match d.millis now with
      | .error fault => .error (.arithmetic fault)
      | .ok millis =>
        if millis ≤ 0 then .ok (.settled (.proceed "Delay already elapsed, continuing" next))
        else match d.resumeTime now with
          | .error fault => .error (.arithmetic fault)
          | .ok due => .ok (.settled (.suspend ("Delaying " ++ d.describe) due)) := by
  simp only [Step.planDelay, hexit]
  cases d.millis now with
  | error fault => rfl
  | ok millis =>
    by_cases hle : millis ≤ 0
    · simp only [Step.reckon, Except.mapError, bind, Except.bind, if_pos hle]
    · simp only [Step.reckon, Except.mapError, bind, Except.bind, if_neg hle]
      cases d.resumeTime now <;> rfl

theorem planDelay_of_follow {d : Delay} (hm : f.follow subject n = some m)
    (hk : n.kind = .delay) (hd : n.data = .delay d) (now : Moment) :
    (∃ plan, Step.planDelay (Graph.ofFlow f) now n.id n.data = .ok plan ∧ f.Plans subject n plan) ∨
      ∃ fault, Step.planDelay (Graph.ofFlow f) now n.id n.data = .error (.arithmetic fault) ∧
        n.Miscalculates now fault := by
  have hexit := exit_of_follow hm (by rw [hk]; exact fun e => nomatch e)
  have hquiet : n.message? = none := by
    unfold Node.message?
    rw [hk]
  rw [hd, planDelay_eq hexit]
  cases hmillis : d.millis now with
  | error fault => exact .inr ⟨fault, rfl, hk, d, hd, .inl hmillis⟩
  | ok millis =>
    by_cases hle : millis ≤ 0
    · simp only [if_pos hle]
      exact .inl ⟨_, rfl, .proceed _ m hm hquiet⟩
    · simp only [if_neg hle]
      cases hdue : d.resumeTime now with
      | error fault => exact .inr ⟨fault, rfl, hk, d, hd, .inr hdue⟩
      | ok due => exact .inl ⟨_, rfl, .suspend _ due m hm hk⟩

theorem planCondition_of_follow {c : Condition} (hm : f.follow subject n = some m)
    (hk : n.kind = .condition) (hc : n.data = .condition c) :
    ∃ plan, Step.planCondition (Graph.ofFlow f) subject n.id n.data = .ok plan ∧
      f.Plans subject n plan := by
  have hbranch := branch?_of_follow hm hk hc
  have hquiet : n.message? = none := by
    unfold Node.message?
    rw [hk]
  rw [hc]
  unfold Step.planCondition
  simp only [hbranch]
  exact ⟨_, rfl, .proceed _ m hm hquiet⟩

/-- **A step in a well-formed flow keeps to the walk**, unless its delay cannot be calculated. -/
theorem plan_ofFlow {accepted : Moment} (h : f.IsWellFormed accepted) (hn : n ∈ f.nodes)
    (subject : String) (now : Moment) :
    (∃ plan, Step.plan (Graph.ofFlow f) subject now n = .ok plan ∧ f.Plans subject n plan) ∨
      ∃ fault, Step.plan (Graph.ofFlow f) subject now n = .error (.arithmetic fault) ∧
        n.Miscalculates now fault := by
  have hcomplete := h.complete n hn
  unfold Node.IsComplete at hcomplete
  unfold Step.plan
  by_cases hfin : n.kind = .finish
  · rw [hfin]
    exact .inl ⟨_, rfl, .finish _ hfin⟩
  obtain ⟨m, hm⟩ := follow_of_isWellFormed h hn hfin subject
  cases hkind : n.kind with
  | finish => exact absurd hkind hfin
  | unknown text hno => exact absurd hkind (h.known n hn text hno)
  | start =>
    have hexit := exit_of_follow hm (by rw [hkind]; exact fun e => nomatch e)
    simp only [hexit]
    refine .inl ⟨_, rfl, .proceed _ m hm ?_⟩
    unfold Node.message?
    rw [hkind]
  | action =>
    rw [hkind] at hcomplete
    obtain ⟨message, hd, c, hc, _⟩ := hcomplete
    have hne : message ≠ "" := by
      rintro rfl
      cases hc
    refine .inl ⟨_, planAction_of_follow hm hkind hd hne, .deliver message m hm ?_⟩
    unfold Node.message?
    rw [hkind, hd]
  | delay =>
    rw [hkind] at hcomplete
    obtain ⟨d, hd, _⟩ := hcomplete
    exact planDelay_of_follow hm hkind hd now
  | condition =>
    rw [hkind] at hcomplete
    obtain ⟨c, hc, _⟩ := hcomplete
    exact .inl (planCondition_of_follow hm hkind hc)

end Flow

end Dripline
