import Dripline.Proofs.Flow.Delay
import Dripline.Proofs.Outcome

/-!
# What the check reports

The check of a flow is a report or, where moments do not compare, none:

* `Node.isUnplaced`: the check of a node compares a time that carries no offset with the clock;
* `problems_eq_error_iff`: only such a node keeps the check from reporting, and always with the same fault;
* **`reports_unless_unplaced`**: every other flow gets a report, whatever else is wrong with it;
* `Problem.isOfConnection`, `mem_problems_iff`: what a report says about the connection comes from the last
  part of the check alone;
* `unreachable_mem_iff`, `endUnreachable_mem_iff`: what that part says, with paths in place of the
  breadth-first walk;
* **`reachability_exact`**: the walk ends, and the report names exactly the nodes that no path leads to;
* `unplaced_time_unreported`, `unplaced_time_hides_lost`: two flows without a report.
-/

namespace Dripline

/-- Whether a delay waits for a time that carries no offset. -/
def Delay.isUnplaced (d : Delay) : Bool :=
  d.mode = some "absolute" && d.time.any fun t => !t.isAnchored

/-- Whether the check of a node compares a time that carries no offset. A node without an id is not checked
    any further. -/
def Node.isUnplaced (n : Node) : Bool :=
  n.id ≠ "" && n.kind = .delay &&
    match n.data with
    | .delay d => d.isUnplaced
    | _ => false

namespace Check

variable {now : Moment} {fault : ArithFault}

/-! ## 1. Flows without a report -/

theorem atMost_eq_error_iff (hnow : now.isAnchored = true) (fault : ArithFault) (t : Moment) :
    t.atMost now = .error fault ↔ fault = .mixedOrder ∧ t.isAnchored = false := by
  cases ht : t.isAnchored with
  | true =>
    obtain ⟨late, hlate⟩ := Moment.atMost_of_kind (ht.trans hnow.symm)
    simp [hlate]
  | false =>
    unfold Moment.isAnchored at ht hnow
    obtain ⟨zone, hzone⟩ := Option.isSome_iff_exists.mp hnow
    have hnone : t.offset = none := by simpa using ht
    simp [Moment.atMost, Moment.aligned?, hzone, hnone, eq_comm]

theorem exists_unitProblems (hnow : now.isAnchored = true) (id : String) (amount : Option Double)
    (unit : Option String) : ∃ ps, unitProblems id amount unit now = .ok ps := by
  obtain ⟨micros, hmicros⟩ := Moment.since_of_kind (a := Moment.last) (b := now) hnow.symm
  unfold unitProblems millisLeft Moment.millisSince
  rw [hmicros]
  split
  · exact ⟨_, rfl⟩
  · split
    · exact ⟨_, rfl⟩
    · split <;> exact ⟨_, rfl⟩
    · exact ⟨_, rfl⟩

theorem delayProblems_eq_error_iff (hnow : now.isAnchored = true) (id : String) (d : Delay) :
    delayProblems id now (.delay d) = .error fault ↔ fault = .mixedOrder ∧ d.isUnplaced = true := by
  obtain ⟨mode, time, amount, unit⟩ := d
  by_cases habs : mode = some "absolute"
  · subst habs
    cases time with
    | none => simp [delayProblems, Delay.isUnplaced, isUnset]
    | some t =>
      have herror := atMost_eq_error_iff hnow fault t
      cases hlate : t.atMost now with
      | error f =>
        rw [hlate] at herror
        simpa [delayProblems, Delay.isUnplaced, isUnset, hlate, bind, Except.bind] using herror
      | ok late =>
        rw [hlate] at herror
        simpa [delayProblems, Delay.isUnplaced, isUnset, hlate, bind, Except.bind] using herror
  · by_cases hrel : mode = some "relative"
    · obtain ⟨ps, hps⟩ := exists_unitProblems hnow id amount unit
      subst hrel
      simp [delayProblems, Delay.isUnplaced, isUnset, hps, bind, Except.bind]
    · cases hset : isUnset mode <;> simp [delayProblems, Delay.isUnplaced, habs, hrel, hset]

theorem nodeProblems_eq_error_iff (hnow : now.isAnchored = true) (n : Node) :
    nodeProblems now n = .error fault ↔ fault = .mixedOrder ∧ n.isUnplaced = true := by
  unfold nodeProblems Node.isUnplaced
  by_cases hid : n.id = ""
  · simp [hid]
  · cases n.kind with
    | delay =>
      cases n.data with
      | delay d => simp [hid, delayProblems_eq_error_iff hnow]
      | _ => simp [hid, delayProblems]
    | _ => simp [hid]

theorem nodesProblems_eq_error_iff (hnow : now.isAnchored = true) (seen : List String) (ns : List Node) :
    nodesProblems now seen ns = .error fault ↔
      fault = .mixedOrder ∧ ∃ n ∈ ns, n.isUnplaced = true := by
  induction ns generalizing seen with
  | nil => simp [nodesProblems]
  | cons n ns ih =>
    have hnode : nodeProblems now n = .error fault ↔ _ := nodeProblems_eq_error_iff hnow n
    have hrest := ih (n.id :: seen)
    unfold nodesProblems
    rw [List.exists_mem_cons_iff, and_or_left, ← hnode, ← hrest]
    cases hown : nodeProblems now n with
    | error f =>
      -- both faults are the same one, whichever node is the first
      have hfirst := ((nodeProblems_eq_error_iff hnow n).mp hown).1
      have hsame : nodesProblems now (n.id :: seen) ns = .error fault → f = fault := fun h =>
        hfirst.trans (hrest.mp h).1.symm
      simpa [bind, Except.bind] using hsame
    | ok own => cases nodesProblems now (n.id :: seen) ns <;> simp [bind, Except.bind]

/-- **Only a time without an offset keeps the check from reporting.** -/
theorem problems_eq_error_iff (hnow : now.isAnchored = true) (f : Flow) :
    f.problems now = .error fault ↔ fault = .mixedOrder ∧ ∃ n ∈ f.nodes, n.isUnplaced = true := by
  unfold Flow.problems
  rw [← nodesProblems_eq_error_iff hnow []]
  by_cases hempty : f.nodes = []
  · simp [hempty, nodesProblems]
  · rw [if_neg (mt List.isEmpty_iff.mp hempty)]
    cases nodesProblems now [] f.nodes <;> simp [bind, Except.bind]

/-- A flow without such a time gets a report. -/
theorem exists_problems (hnow : now.isAnchored = true) {f : Flow}
    (hplaced : ∀ n ∈ f.nodes, n.isUnplaced = false) : ∃ ps, f.problems now = .ok ps := by
  cases h : f.problems now with
  | ok ps => exact ⟨ps, rfl⟩
  | error fault =>
    obtain ⟨_, n, hn, hunplaced⟩ := (problems_eq_error_iff hnow f).mp h
    rw [hplaced n hn] at hunplaced
    cases hunplaced

/-! ## 2. Parts of a report -/

end Check

/-- Whether a problem is one of the connection of the nodes. -/
def Problem.isOfConnection : Problem → Bool
  | .unreachable _ => true
  | .endUnreachable => true
  | _ => false

namespace Check

/-- What a report says about the connection of the nodes. -/
def ofConnection (ps : List Problem) : List Problem := ps.filter Problem.isOfConnection

@[simp] theorem ofConnection_nil : ofConnection [] = [] := rfl

@[simp] theorem ofConnection_cons (p : Problem) (ps : List Problem) :
    ofConnection (p :: ps) = if p.isOfConnection then p :: ofConnection ps else ofConnection ps :=
  List.filter_cons

@[simp] theorem ofConnection_append (ps qs : List Problem) :
    ofConnection (ps ++ qs) = ofConnection ps ++ ofConnection qs :=
  List.filter_append ps qs

theorem ofConnection_action (id : String) (data : NodeData) : ofConnection (actionProblems id data) = [] := by
  unfold actionProblems
  split
  · split <;> rfl
  · rfl

theorem ofConnection_rules (id : String) (index : Nat) (rs : List Rule) :
    ofConnection (rulesProblems id index rs) = [] := by
  induction rs generalizing index with
  | nil => rfl
  | cons r rs ih =>
    have hrule : ofConnection (ruleProblems id index r) = [] := by
      unfold ruleProblems
      split
      · rfl
      · split <;> rfl
    rw [rulesProblems, ofConnection_append, hrule, ih]
    rfl

theorem ofConnection_condition (id : String) (data : NodeData) :
    ofConnection (conditionProblems id data) = [] := by
  unfold conditionProblems
  split
  · rename_i c
    have hlogic : ofConnection (logicProblems id c.logic) = [] := by
      unfold logicProblems
      split
      · rfl
      · split <;> rfl
    split
    · rfl
    · rw [ofConnection_append, ofConnection_rules, hlogic]
      rfl
  · rfl

theorem ofConnection_unit {id : String} {amount : Option Double} {unit : Option String} {ps : List Problem}
    (h : unitProblems id amount unit now = .ok ps) : ofConnection ps = [] := by
  unfold unitProblems at h
  split at h
  · cases h
    rfl
  · split at h
    · cases h
      rfl
    · split at h
      · obtain ⟨left, _, h⟩ := bind_eq_ok h
        cases h
        split <;> rfl
      · cases h
        rfl
    · cases h
      rfl

theorem ofConnection_amount (id : String) (amount : Option Double) :
    ofConnection (amountProblems id amount) = [] := by
  unfold amountProblems
  split
  · rfl
  · split
    · rfl
    · split <;> rfl

theorem ofConnection_delay {id : String} {data : NodeData} {ps : List Problem}
    (h : delayProblems id now data = .ok ps) : ofConnection ps = [] := by
  unfold delayProblems at h
  split at h
  · split at h
    · cases h
      rfl
    · split at h
      · split at h
        · cases h
          rfl
        · obtain ⟨late, _, h⟩ := bind_eq_ok h
          cases h
          split <;> rfl
      · split at h
        · obtain ⟨qs, hunit, h⟩ := bind_eq_ok h
          cases h
          rw [ofConnection_append, ofConnection_amount, ofConnection_unit hunit]
          rfl
        · cases h
          rfl
  · cases h
    rfl

theorem ofConnection_node {n : Node} {ps : List Problem} (h : nodeProblems now n = .ok ps) :
    ofConnection ps = [] := by
  unfold nodeProblems at h
  split at h
  · cases h
    rfl
  · split at h
    · cases h
      exact ofConnection_action _ _
    · exact ofConnection_delay h
    · cases h
      exact ofConnection_condition _ _
    all_goals
      cases h
      rfl

theorem ofConnection_nodes {seen : List String} {ns : List Node} {ps : List Problem}
    (h : nodesProblems now seen ns = .ok ps) : ofConnection ps = [] := by
  induction ns generalizing seen ps with
  | nil =>
    cases h
    rfl
  | cons n ns ih =>
    unfold nodesProblems at h
    obtain ⟨own, hown, h⟩ := bind_eq_ok h
    obtain ⟨rest, hrest, h⟩ := bind_eq_ok h
    cases h
    rw [ofConnection_append, ofConnection_append, ofConnection_node hown, ih hrest]
    split <;> rfl

theorem ofConnection_edges (f : Flow) : ofConnection (edgesProblems f) = [] := by
  have hends : ∀ e, ofConnection (endpointProblems (f.nodes.map Node.id) e) = [] := by
    intro e
    unfold endpointProblems
    split <;> split <;> rfl
  have hexits : ∀ n, ofConnection (exitProblems f.edges n) = [] := by
    intro n
    unfold exitProblems
    dsimp only
    split <;> (try split) <;> (try split) <;> rfl
  unfold edgesProblems
  rw [ofConnection_append]
  unfold ofConnection at hends hexits ⊢
  rw [List.filter_flatMap, List.filter_flatMap]
  simp [hends, hexits]

/-- **What a report says about the connection** is what the last part of the check says. -/
theorem ofConnection_problems {f : Flow} {start : Node} {ps : List Problem}
    (hstart : ofKind f .start = [start]) (h : f.problems now = .ok ps) :
    ofConnection ps = connectionProblems f start (ofKind f .finish).head? := by
  have hnodes : ¬ f.nodes.isEmpty = true := by
    intro hempty
    rw [List.isEmpty_iff] at hempty
    rw [ofKind, hempty] at hstart
    cases hstart
  unfold Flow.problems at h
  rw [if_neg hnodes] at h
  obtain ⟨own, hown, h⟩ := bind_eq_ok h
  rw [hstart] at h
  cases h
  simp only [ofConnection_append, ofConnection_nodes hown, ofConnection_edges]
  have hends : ofConnection (if (ofKind f .finish).length = 1 then [] else [.endCount]) = [] := by
    split <;> rfl
  rw [hends]
  show ofConnection (connectionProblems f start (ofKind f .finish).head?) = _
  unfold connectionProblems
  dsimp only
  split <;> split <;> (try split) <;> rfl

end Check

/-! ## 3. Reachability -/

/-- The ids of the nodes that no path from an id leads to, in the order of the nodes. -/
def Flow.lostIds (f : Flow) (start : String) : List String :=
  (f.nodes.map Node.id).filter fun id => ¬ f.Reaches start id

theorem Flow.mem_lostIds {f : Flow} {start id : String} :
    id ∈ f.lostIds start ↔ id ∈ f.nodes.map Node.id ∧ ¬ f.Reaches start id := by
  unfold Flow.lostIds
  rw [List.mem_filter, decide_eq_true_eq]

namespace Check

theorem lostIds_eq (f : Flow) (start : String) :
    ((f.nodes.map Node.id).filter fun id => id ∉ reachedFrom f start) = f.lostIds start := by
  refine List.filter_congr fun id _ => ?_
  exact decide_eq_decide.mpr (not_congr (mem_reachedFrom_iff f start id))

/-- The lost nodes are reported together, when there are any. -/
theorem unreachable_mem_iff (f : Flow) (start : Node) (finish : Option Node) (ids : List String) :
    .unreachable ids ∈ connectionProblems f start finish ↔ ids ≠ [] ∧ ids = f.lostIds start.id := by
  have hlost : .unreachable ids ∈ (if (f.lostIds start.id).isEmpty then []
      else [Problem.unreachable (f.lostIds start.id)]) ↔ ids ≠ [] ∧ ids = f.lostIds start.id := by
    by_cases hnone : f.lostIds start.id = []
    · simp [hnone]
    · simp only [List.isEmpty_iff, hnone, if_false, List.mem_singleton, Problem.unreachable.injEq]
      exact ⟨fun heq => ⟨heq ▸ hnone, heq⟩, And.right⟩
  unfold connectionProblems
  dsimp only
  rw [lostIds_eq, List.mem_append, hlost, or_iff_left]
  cases finish with
  | none => simp
  | some e => by_cases he : e.id ∈ reachedFrom f start.id <;> simp [he]

/-- A lost end node is reported once more. -/
theorem endUnreachable_mem_iff (f : Flow) (start : Node) (finish : Option Node) :
    .endUnreachable ∈ connectionProblems f start finish ↔
      ∃ e, finish = some e ∧ ¬ f.Reaches start.id e.id := by
  have hlost : .endUnreachable ∉ (if (f.lostIds start.id).isEmpty then []
      else [Problem.unreachable (f.lostIds start.id)]) := by
    cases (f.lostIds start.id).isEmpty <;> simp
  unfold connectionProblems
  dsimp only
  rw [lostIds_eq, List.mem_append, or_iff_right hlost]
  cases finish with
  | none => simp
  | some e =>
    have hreached := mem_reachedFrom_iff f start.id e.id
    by_cases he : f.Reaches start.id e.id <;> simp [hreached, he]

/-- What a report says about the connection stands in it exactly when the last part of the check says it. -/
theorem mem_problems_iff {f : Flow} {start : Node} {ps : List Problem} {p : Problem}
    (hstart : ofKind f .start = [start]) (h : f.problems now = .ok ps) (hp : p.isOfConnection = true) :
    p ∈ ps ↔ p ∈ connectionProblems f start (ofKind f .finish).head? := by
  rw [← ofConnection_problems hstart h]
  unfold ofConnection
  rw [List.mem_filter]
  exact ⟨fun h => ⟨h, hp⟩, And.left⟩

end Check

namespace Flow

open Check

variable {now : Moment}

/-! ## 4. The whole report -/

/-- **Every flow gets a report**, whatever is wrong with it, unless the check has to compare a time that
    carries no offset with the clock. -/
theorem reports_unless_unplaced {f : Flow} (hnow : now.isAnchored = true) :
    ((∃ ps, f.problems now = .ok ps) ↔ ∀ n ∈ f.nodes, n.isUnplaced = false) ∧
      ∀ fault, f.problems now = .error fault → fault = .mixedOrder := by
  refine ⟨⟨?_, exists_problems hnow⟩, fun fault h => ((problems_eq_error_iff hnow f).mp h).1⟩
  rintro ⟨ps, hps⟩ n hn
  by_contra hunplaced
  have hfault := (problems_eq_error_iff hnow f).mpr ⟨rfl, n, hn, by simpa using hunplaced⟩
  cases hps.symm.trans hfault

/-- The first noon of the year 2030, without an offset. -/
def unplacedNoon : Moment := { noon2030 with offset := none }

/-- A flow of which nothing is right: data of other kinds, missing and repeated ids, amounts that are no
    numbers, edges from nowhere. Two of its times carry no offset, but nothing compares them. -/
def garbled : Flow where
  nodes := [⟨"", .delay, .delay (.upTo unplacedNoon)⟩, ⟨"a", .action, .delay (.upTo unplacedNoon)⟩,
    ⟨"a", .delay, .action none⟩, ⟨"b", .delay, .delay ⟨some "relative", none, some .nan, some "hours"⟩⟩,
    ⟨"c", .delay, .delay ⟨some "relative", none, some (.infinite false), some "weeks"⟩⟩,
    ⟨"c", .condition, .condition ⟨[⟨none, some "", "email"⟩], some "XOR"⟩⟩]
  edges := [⟨"", "nowhere", "a", some "maybe"⟩, ⟨"", "c", "", none⟩]

theorem reports_unless_unplaced_garbled :
    noon2030.isAnchored = true ∧ (∀ n ∈ garbled.nodes, n.isUnplaced = false) ∧
      ∃ ps, garbled.problems noon2030 = .ok ps := by
  have hplaced : ∀ n ∈ garbled.nodes, n.isUnplaced = false := by decide +kernel
  exact ⟨rfl, hplaced, (reports_unless_unplaced rfl).1.mpr hplaced⟩

/-- **No report**: a delay up to a time that carries no offset. -/
theorem unplaced_time_unreported :
    noon2030.isAnchored = true ∧
      (Flow.waiting (.upTo unplacedNoon)).problems noon2030 = .error .mixedOrder := by
  decide +kernel

/-- **The report on reachability is exact.** With exactly one start node, the breadth-first walk ends, and
    whatever else is wrong with the flow, the report names the nodes that no path from the start leads to,
    each as often as it occurs and in their order, and the end node when it is one of them. -/
theorem reachability_exact {f : Flow} {start : Node} (hstart : ofKind f .start = [start]) :
    (∃ turns ≤ f.edges.length + 1,
      (turn f)^[turns] ⟨[start.id], [start.id]⟩ = ⟨reachedFrom f start.id, []⟩) ∧
    (∀ now, now.isAnchored = true → (∀ n ∈ f.nodes, n.isUnplaced = false) →
      ∃ ps, f.problems now = .ok ps) ∧
    ∀ now ps, f.problems now = .ok ps →
      ((∃ ids, .unreachable ids ∈ ps) ↔ ∃ n ∈ f.nodes, ¬ f.Reaches start.id n.id) ∧
      (∀ ids, .unreachable ids ∈ ps → ids = f.lostIds start.id) ∧
      (.endUnreachable ∈ ps ↔
        ∃ e, (ofKind f .finish).head? = some e ∧ ¬ f.Reaches start.id e.id) := by
  refine ⟨⟨_, Nat.le_refl _, iterate_turn_ends f start.id⟩, fun now hnow hplaced => ?_,
    fun now ps hps => ⟨?_, fun ids hids => ?_, ?_⟩⟩
  · exact exists_problems hnow hplaced
  · constructor
    · rintro ⟨ids, hids⟩
      obtain ⟨hne, rfl⟩ :=
        (unreachable_mem_iff _ _ _ _).mp ((mem_problems_iff hstart hps rfl).mp hids)
      obtain ⟨id, hid⟩ := List.exists_mem_of_ne_nil _ hne
      obtain ⟨hmem, hlost⟩ := Flow.mem_lostIds.mp hid
      obtain ⟨n, hn, rfl⟩ := List.mem_map.mp hmem
      exact ⟨n, hn, hlost⟩
    · rintro ⟨n, hn, hlost⟩
      have hmem := Flow.mem_lostIds.mpr ⟨List.mem_map_of_mem hn, hlost⟩
      refine ⟨f.lostIds start.id, (mem_problems_iff hstart hps rfl).mpr ?_⟩
      exact (unreachable_mem_iff _ _ _ _).mpr ⟨List.ne_nil_of_mem hmem, rfl⟩
  · exact ((unreachable_mem_iff _ _ _ _).mp ((mem_problems_iff hstart hps rfl).mp hids)).2
  · rw [mem_problems_iff hstart hps rfl, endUnreachable_mem_iff]

/-- A flow with a cycle, two nodes of one id that nothing leads to, and an edge that goes on from where
    there is no node. -/
def haunted : Flow where
  nodes := [⟨"start", .start, .empty⟩, ⟨"mail", .action, .empty⟩, ⟨"lost", .action, .empty⟩,
    ⟨"lost", .delay, .empty⟩, ⟨"end", .finish, .empty⟩]
  edges := [⟨"e1", "start", "mail", none⟩, ⟨"e2", "mail", "start", none⟩, ⟨"e3", "mail", "ghost", none⟩,
    ⟨"e4", "ghost", "end", none⟩, ⟨"e5", "lost", "end", none⟩]

theorem reachability_exact_haunted :
    ofKind haunted .start = [⟨"start", .start, .empty⟩] ∧
      ∃ ps, haunted.problems noon2030 = .ok ps ∧
        .unreachable ["lost", "lost", "end"] ∈ ps ∧ .endUnreachable ∈ ps := by
  have hstart : ofKind haunted .start = [⟨"start", .start, .empty⟩] := by decide +kernel
  have hlost : ¬ haunted.Reaches "start" "end" := by decide +kernel
  have hids : haunted.lostIds "start" = ["lost", "lost", "end"] := by decide +kernel
  obtain ⟨_, hreports, hexact⟩ := reachability_exact hstart
  obtain ⟨ps, hps⟩ := hreports noon2030 rfl (by decide +kernel)
  obtain ⟨hsome, hall, hend⟩ := hexact noon2030 ps hps
  obtain ⟨ids, hmem⟩ := hsome.mpr ⟨⟨"end", .finish, .empty⟩, by decide +kernel, hlost⟩
  rw [hall ids hmem, hids] at hmem
  exact ⟨hstart, ps, hps, hmem, hend.mpr ⟨⟨"end", .finish, .empty⟩, by decide +kernel, hlost⟩⟩

/-- A flow with a node that nothing leads to, a delay up to a time that carries no offset. -/
def stranded : Flow where
  nodes := [⟨"start", .start, .empty⟩, ⟨"end", .finish, .empty⟩,
    ⟨"lost", .delay, .delay (.upTo unplacedNoon)⟩]
  edges := [⟨"e1", "start", "end", none⟩, ⟨"e2", "lost", "end", none⟩]

/-- **A lost node without a report**: the check ends at its time before it comes to the connection. -/
theorem unplaced_time_hides_lost :
    ofKind stranded .start = [⟨"start", .start, .empty⟩] ∧
      ¬ stranded.Reaches "start" "lost" ∧
      stranded.problems noon2030 = .error .mixedOrder := by
  decide +kernel

end Flow

end Dripline
