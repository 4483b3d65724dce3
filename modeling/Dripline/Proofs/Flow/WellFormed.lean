import Dripline.Proofs.Outcome
import Dripline.Proofs.Flow.Reach

/-!
# What the check of a flow accepts

`Flow.IsWellFormed` says what a flow must be, clause by clause and without the check: what each kind
asks of its data, where edges may end, how many edges leave a node, and that paths join every node to
the start. The check finds no problem exactly in these flows:

* `nodeProblems_eq_nil_iff`, `nodesProblems_eq_nil_iff`: the nodes one by one;
* `edgesProblems_eq_nil_iff`: the ends of the edges and the edges out of each node;
* `connectionProblems_eq_nil_iff`: the breadth-first walk against paths;
* `isWellFormed_of_problems`, `problems_of_isWellFormed`: both directions for the whole flow;
* **`problems_empty_iff_isWellFormed`**: the two together.

No clause needs a moment to have an offset: an order that does not exist counts as no order, and there
the check has no empty answer either.
-/

namespace Dripline

/-! ## 1. Well-formed flows -/

/-- A rule with a known operator and a value that is not empty. -/
def Rule.IsComplete (r : Rule) : Prop :=
  (∃ name op, r.operator = some name ∧ Operator.ofText? name = some op) ∧
    ∃ value, r.value = some value ∧ value ≠ ""

/-- Rules, all of them complete, and a known way to combine them. -/
def Condition.IsComplete (c : Condition) : Prop :=
  c.rules ≠ [] ∧ (∀ r ∈ c.rules, r.IsComplete) ∧
    (c.logic = none ∨ c.logic = some "AND" ∨ c.logic = some "OR")

/-- A time strictly after `now`, or a finite amount above zero of a known unit that is over before
    the calendar ends: its milliseconds, a product of doubles, are below those that are left. -/
def Delay.IsComplete (d : Delay) (now : Moment) : Prop :=
  (d.mode = some "absolute" ∧ ∃ t, d.time = some t ∧ now.before t = .ok true) ∨
    (d.mode = some "relative" ∧ ∃ amount name unit left, d.amount = some amount ∧
      amount.isFinite = true ∧ amount.isPositive = true ∧
      d.unit = some name ∧ DelayUnit.ofText? name = some unit ∧
      Moment.last.millisSince now = .ok left ∧ (amount.times unit.millis).lt left = true)

/-- What its kind asks of the data of a node at a moment. -/
def Node.IsComplete (n : Node) (now : Moment) : Prop :=
  match n.kind with
  | .start => True
  | .finish => True
  | .action => ∃ message, n.data = .action (some message) ∧
      ∃ c ∈ message.toList, Text.isBlank c = false
  | .delay => ∃ d, n.data = .delay d ∧ d.IsComplete now
  | .condition => ∃ c, n.data = .condition c ∧ c.IsComplete
  | .unknown _ _ => False

/-- The edges out of a node. -/
def Flow.exits (f : Flow) (n : Node) : List Edge := f.edges.filter fun e => e.source = n.id

/-- How many edges leave a node of its kind, and how those of a condition are tagged. -/
def Flow.HasExits (f : Flow) (n : Node) : Prop :=
  match n.kind with
  | .start => (f.exits n).length = 1
  | .action => (f.exits n).length = 1
  | .delay => (f.exits n).length = 1
  | .finish => f.exits n = []
  | .condition => ((f.exits n).map Edge.handle).Perm [some "true", some "false"]
  | .unknown _ _ => False

/-- **A flow that may be saved and started at a moment.** -/
structure Flow.IsWellFormed (f : Flow) (now : Moment) : Prop where
  notEmpty : f.nodes ≠ []
  oneStart : (f.nodes.filter fun n => n.kind = .start).length = 1
  oneEnd : (f.nodes.filter fun n => n.kind = .finish).length = 1
  named : ∀ n ∈ f.nodes, n.id ≠ ""
  distinct : (f.nodes.map Node.id).Nodup
  known : ∀ n ∈ f.nodes, ∀ text h, n.kind ≠ .unknown text h
  complete : ∀ n ∈ f.nodes, n.IsComplete now
  anchored : ∀ e ∈ f.edges, e.source ∈ f.nodes.map Node.id ∧ e.target ∈ f.nodes.map Node.id
  exits : ∀ n ∈ f.nodes, f.HasExits n
  joined : ∀ s ∈ f.nodes, s.kind = .start →
    ∀ n ∈ f.nodes, Relation.ReflTransGen f.Leads s.id n.id

namespace Check

/-! ## 2. Nodes -/

theorem isUnset_eq_false_iff (s : Option String) : isUnset s = false ↔ ∃ t, s = some t ∧ t ≠ "" := by
  cases s with
  | none => simp [isUnset]
  | some t => simp [isUnset]

theorem actionProblems_eq_nil_iff (id : String) (data : NodeData) :
    actionProblems id data = [] ↔ ∃ message, data = .action (some message) ∧
      ∃ c ∈ message.toList, Text.isBlank c = false := by
  unfold actionProblems
  split
  · rename_i message
    by_cases h : Text.isBlankText message = true
    · rw [if_pos h]
      simp only [Text.isBlankText, List.all_eq_true] at h
      constructor
      · intro h'
        cases h'
      · rintro ⟨_, e, c, hc, hb⟩
        cases e
        rw [h c hc] at hb
        cases hb
    · rw [if_neg h]
      refine iff_of_true rfl ⟨message, rfl, ?_⟩
      simpa [Text.isBlankText] using h
  · rename_i hdata
    constructor
    · intro h
      cases h
    · rintro ⟨message, e, _⟩
      exact absurd e (hdata message)

theorem ofText?_empty : Operator.ofText? "" = none := by decide

theorem ruleProblems_eq_nil_iff (id : String) (index : Nat) (r : Rule) :
    ruleProblems id index r = [] ↔ r.IsComplete := by
  unfold ruleProblems Rule.IsComplete
  rw [← isUnset_eq_false_iff]
  cases hop : r.operator with
  | none => simp [isUnset]
  | some name =>
    by_cases hname : name = ""
    · simp [isUnset, hname, ofText?_empty]
    · have hset : isUnset (some name) = false := by simp [isUnset, hname]
      cases hv : isUnset r.value <;> cases hknown : Operator.ofText? name <;> simp [hset, hknown]

theorem rulesProblems_eq_nil_iff (id : String) (index : Nat) (rs : List Rule) :
    rulesProblems id index rs = [] ↔ ∀ r ∈ rs, r.IsComplete := by
  induction rs generalizing index with
  | nil => simp [rulesProblems]
  | cons r rs ih =>
    rw [rulesProblems, List.append_eq_nil_iff, ruleProblems_eq_nil_iff, ih, List.forall_mem_cons]

theorem logicProblems_eq_nil_iff (id : String) (logic : Option String) :
    logicProblems id logic = [] ↔ logic = none ∨ logic = some "AND" ∨ logic = some "OR" := by
  cases logic with
  | none => simp [logicProblems]
  | some l => by_cases h : l = "AND" <;> simp [logicProblems, h]

theorem conditionProblems_eq_nil_iff (id : String) (data : NodeData) :
    conditionProblems id data = [] ↔ ∃ c, data = .condition c ∧ c.IsComplete := by
  unfold conditionProblems
  split
  · rename_i c
    by_cases h : c.rules.isEmpty = true
    · rw [if_pos h]
      rw [List.isEmpty_iff] at h
      constructor
      · intro h'
        cases h'
      · rintro ⟨_, e, hc⟩
        cases e
        exact absurd h hc.1
    · rw [if_neg h, List.append_eq_nil_iff, rulesProblems_eq_nil_iff, logicProblems_eq_nil_iff]
      rw [List.isEmpty_iff] at h
      constructor
      · rintro ⟨hr, hl⟩
        exact ⟨c, rfl, h, hr, hl⟩
      · rintro ⟨_, e, _, hr, hl⟩
        cases e
        exact ⟨hr, hl⟩
  · rename_i hdata
    constructor
    · intro h
      cases h
    · rintro ⟨c, e, _⟩
      exact absurd e (hdata c)

/-- The order that the check asks for, turned round. -/
theorem atMost_eq_false_iff (t now : Moment) : t.atMost now = .ok false ↔ now.before t = .ok true := by
  unfold Moment.atMost Moment.before Moment.aligned?
  cases t.offset <;> cases now.offset <;> simp

/-- Of two numbers, neither of them a NaN, one is at most the other or greater. -/
theorem le_eq_not_lt {x y : Double} (hx : x ≠ .nan) (hy : y ≠ .nan) : y.le x = !x.lt y := by
  cases x with
  | nan => exact absurd rfl hx
  | infinite s =>
    cases y with
    | nan => exact absurd rfl hy
    | infinite t => cases s <;> cases t <;> rfl
    | finite t n => rfl
  | finite s m =>
    cases y with
    | nan => exact absurd rfl hy
    | infinite t => cases t <;> rfl
    | finite t n =>
      show decide (Double.signedUnits t n ≤ Double.signedUnits s m) =
        !decide (Double.signedUnits s m < Double.signedUnits t n)
      rw [← decide_not]
      exact decide_eq_decide.mpr Int.not_lt.symm

theorem ofRounded_ne_nan (negative : Bool) (num den : Nat) :
    Double.ofRounded negative num den ≠ .nan := by
  unfold Double.ofRounded
  split <;> exact fun e => nomatch e

theorem times_ne_nan {x : Double} (k : Nat) (hx : x.isFinite = true) : x.times k ≠ .nan := by
  cases x with
  | nan => cases hx
  | infinite negative => cases hx
  | finite negative units => exact ofRounded_ne_nan negative _ _

theorem millisSince_ne_nan {m now : Moment} {left : Double} (h : m.millisSince now = .ok left) :
    left ≠ .nan := by
  obtain ⟨micros, _, rfl⟩ := map_eq_ok h
  rw [Double.ofQuotient, Double.ofRatio]
  exact ofRounded_ne_nan _ _ _

theorem amountProblems_eq_nil_iff (id : String) (amount : Option Double) :
    amountProblems id amount = [] ↔
      ∃ x, amount = some x ∧ x.isFinite = true ∧ x.isPositive = true := by
  cases amount with
  | none => simp [amountProblems]
  | some x =>
    unfold amountProblems
    cases hf : x.isFinite <;> cases hp : x.isPositive <;> simp [hf, hp]

theorem unitProblems_eq_nil_iff (id : String) {x : Double} (unit : Option String) (now : Moment)
    (hf : x.isFinite = true) (hp : x.isPositive = true) :
    unitProblems id (some x) unit now = .ok [] ↔
      ∃ name u left, unit = some name ∧ DelayUnit.ofText? name = some u ∧
        Moment.last.millisSince now = .ok left ∧ (x.times u.millis).lt left = true := by
  unfold unitProblems
  cases unit with
  | none => simp [isUnset]
  | some name =>
    by_cases hname : name = ""
    · have hempty : DelayUnit.ofText? "" = none := by decide
      simp [isUnset, hname, hempty]
    · cases hu : DelayUnit.ofText? name with
      | none => simp [isUnset, hname, hu]
      | some u =>
        cases hl : Moment.last.millisSince now with
        | error fault => simp [isUnset, hname, hu, hf, hp, millisLeft, hl, bind, Except.bind]
        | ok left =>
          have hle := le_eq_not_lt (times_ne_nan u.millis hf) (millisSince_ne_nan hl)
          simp [isUnset, hname, hu, hf, hp, millisLeft, hl, bind, Except.bind, hle]

/-- Problems in front of problems that are calculated. -/
theorem append_eq_ok_nil_iff (ps : List Problem) (r : Except ArithFault (List Problem)) :
    (do .ok (ps ++ (← r)) : Except ArithFault (List Problem)) = .ok [] ↔ ps = [] ∧ r = .ok [] := by
  cases r with
  | error fault => simp [bind, Except.bind]
  | ok qs => simp [bind, Except.bind]

theorem absoluteProblems_eq_nil_iff (id : String) (now : Moment) (time : Option Moment)
    (amount : Option Double) (unit : Option String) :
    delayProblems id now (.delay ⟨some "absolute", time, amount, unit⟩) = .ok [] ↔
      ∃ t, time = some t ∧ now.before t = .ok true := by
  cases time with
  | none => simp [delayProblems, isUnset]
  | some t =>
    have horder := atMost_eq_false_iff t now
    cases hle : t.atMost now with
    | error fault => simp [delayProblems, isUnset, ← horder, hle, bind, Except.bind]
    | ok late => cases late <;> simp [delayProblems, isUnset, ← horder, hle, bind, Except.bind]

theorem relativeProblems_eq_nil_iff (id : String) (now : Moment) (time : Option Moment)
    (amount : Option Double) (unit : Option String) :
    delayProblems id now (.delay ⟨some "relative", time, amount, unit⟩) = .ok [] ↔
      ∃ x name u left, amount = some x ∧ x.isFinite = true ∧ x.isPositive = true ∧
        unit = some name ∧ DelayUnit.ofText? name = some u ∧
        Moment.last.millisSince now = .ok left ∧ (x.times u.millis).lt left = true := by
  have hsplit : delayProblems id now (.delay ⟨some "relative", time, amount, unit⟩) = .ok [] ↔
      amountProblems id amount = [] ∧ unitProblems id amount unit now = .ok [] := by
    simp [delayProblems, isUnset, append_eq_ok_nil_iff]
  rw [hsplit, amountProblems_eq_nil_iff]
  constructor
  · rintro ⟨⟨x, hx, hf, hp⟩, hunit⟩
    rw [hx, unitProblems_eq_nil_iff id unit now hf hp] at hunit
    obtain ⟨name, u, left, h⟩ := hunit
    exact ⟨x, name, u, left, hx, hf, hp, h⟩
  · rintro ⟨x, name, u, left, hx, hf, hp, h⟩
    refine ⟨⟨x, hx, hf, hp⟩, ?_⟩
    rw [hx, unitProblems_eq_nil_iff id unit now hf hp]
    exact ⟨name, u, left, h⟩

theorem delayProblems_eq_nil_iff (id : String) (now : Moment) (data : NodeData) :
    delayProblems id now data = .ok [] ↔ ∃ d, data = .delay d ∧ d.IsComplete now := by
  cases data with
  | empty => simp [delayProblems]
  | action message => simp [delayProblems]
  | condition c => simp [delayProblems]
  | delay d =>
    obtain ⟨mode, time, amount, unit⟩ := d
    by_cases habs : mode = some "absolute"
    · subst habs
      rw [absoluteProblems_eq_nil_iff]
      simp [Delay.IsComplete]
    · by_cases hrel : mode = some "relative"
      · subst hrel
        rw [relativeProblems_eq_nil_iff]
        simp [Delay.IsComplete]
      · cases hset : isUnset mode <;> simp [delayProblems, Delay.IsComplete, habs, hrel, hset]

/-- **A node has no problem when it has an id and its data is what its kind asks for.** -/
theorem nodeProblems_eq_nil_iff (now : Moment) (n : Node) :
    nodeProblems now n = .ok [] ↔ n.id ≠ "" ∧ n.IsComplete now := by
  unfold nodeProblems Node.IsComplete
  by_cases hid : n.id = ""
  · simp [hid]
  · rw [if_neg hid]
    cases n.kind with
    | start => simp [hid]
    | finish => simp [hid]
    | action => simp [hid, ← actionProblems_eq_nil_iff n.id]
    | delay => simp [hid, ← delayProblems_eq_nil_iff n.id]
    | condition => simp [hid, ← conditionProblems_eq_nil_iff n.id]
    | unknown text h => simp

/-- **The nodes have no problem when none has and their ids are new and distinct.** -/
theorem nodesProblems_eq_nil_iff (now : Moment) (seen : List String) (ns : List Node) :
    nodesProblems now seen ns = .ok [] ↔ (∀ n ∈ ns, nodeProblems now n = .ok []) ∧
      (∀ n ∈ ns, n.id ∉ seen) ∧ (ns.map Node.id).Nodup := by
  induction ns generalizing seen with
  | nil => simp [nodesProblems]
  | cons n ns ih =>
    have hsplit : nodesProblems now seen (n :: ns) = .ok [] ↔
        n.id ∉ seen ∧ nodeProblems now n = .ok [] ∧ nodesProblems now (n.id :: seen) ns = .ok [] := by
      rw [nodesProblems]
      cases nodeProblems now n with
      | error fault => simp [bind, Except.bind]
      | ok own =>
        cases nodesProblems now (n.id :: seen) ns with
        | error fault => simp [bind, Except.bind]
        | ok rest => by_cases hid : n.id ∈ seen <;> simp [bind, Except.bind, hid]
    rw [hsplit, ih, List.forall_mem_cons, List.forall_mem_cons, List.map_cons, List.nodup_cons]
    constructor
    · rintro ⟨hid, hn, hns, hseen, hnd⟩
      refine ⟨⟨hn, hns⟩, ⟨hid, fun m hm h => hseen m hm (List.mem_cons_of_mem _ h)⟩, fun h => ?_, hnd⟩
      obtain ⟨m, hm, e⟩ := List.mem_map.mp h
      exact hseen m hm (e ▸ List.mem_cons_self)
    · rintro ⟨⟨hn, hns⟩, ⟨hid, hseen⟩, hnew, hnd⟩
      refine ⟨hid, hn, hns, fun m hm h => ?_, hnd⟩
      rcases List.mem_cons.mp h with e | h
      · exact hnew (e ▸ List.mem_map_of_mem hm)
      · exact hseen m hm h

/-! ## 3. Edges -/

theorem endpointProblems_eq_nil_iff (ids : List String) (e : Edge) :
    endpointProblems ids e = [] ↔ e.source ∈ ids ∧ e.target ∈ ids := by
  unfold endpointProblems
  by_cases hs : e.source ∈ ids <;> by_cases ht : e.target ∈ ids <;> simp [hs, ht]

theorem areOutcomeTags_iff {out : List Edge} (hlen : out.length = 2) :
    areOutcomeTags out = true ↔ (out.map Edge.handle).Perm [some "true", some "false"] := by
  match out, hlen with
  | [a, b], _ =>
    simp only [areOutcomeTags, Bool.or_eq_true, Bool.and_eq_true, decide_eq_true_eq, List.map_cons,
      List.map_nil]
    constructor
    · rintro (⟨ha, hb⟩ | ⟨ha, hb⟩)
      · rw [ha, hb]
      · rw [ha, hb]
        exact List.Perm.swap _ _ _
    · intro h
      have ha : a.handle ∈ [some "true", some "false"] := h.subset List.mem_cons_self
      rcases List.mem_pair.mp ha with ha | ha
      · rw [ha] at h ⊢
        exact Or.inl ⟨rfl, by simpa using h⟩
      · rw [ha] at h ⊢
        have h' := h.trans (List.Perm.swap (some "false") (some "true") [])
        exact Or.inr ⟨rfl, by simpa using h'⟩

theorem exitProblems_eq_nil_iff (f : Flow) {n : Node} (hn : ∀ text h, n.kind ≠ .unknown text h) :
    exitProblems f.edges n = [] ↔ f.HasExits n := by
  unfold exitProblems Flow.HasExits
  rw [show f.edges.filter (fun e => e.source = n.id) = f.exits n from rfl]
  cases hk : n.kind with
  | start => simp
  | finish => simp
  | action => simp
  | delay => simp
  | condition =>
    by_cases hlen : (f.exits n).length = 2
    · rw [← areOutcomeTags_iff hlen]
      simp [hlen]
    · have hperm : ¬ ((f.exits n).map Edge.handle).Perm [some "true", some "false"] := fun h =>
        hlen (by simpa using h.length_eq)
      simp [hlen, hperm]
  | unknown text h => exact absurd hk (hn text h)

/-- **The edges have no problem when they end at nodes and each node has the exits of its kind.** -/
theorem edgesProblems_eq_nil_iff (f : Flow) (hknown : ∀ n ∈ f.nodes, ∀ text h, n.kind ≠ .unknown text h) :
    edgesProblems f = [] ↔
      (∀ e ∈ f.edges, e.source ∈ f.nodes.map Node.id ∧ e.target ∈ f.nodes.map Node.id) ∧
        ∀ n ∈ f.nodes, f.HasExits n := by
  unfold edgesProblems
  rw [List.append_eq_nil_iff, List.flatMap_eq_nil_iff, List.flatMap_eq_nil_iff]
  refine and_congr (forall₂_congr fun e _ => ?_) (forall₂_congr fun n hn => ?_)
  · exact endpointProblems_eq_nil_iff _ e
  · exact exitProblems_eq_nil_iff f (hknown n hn)

/-! ## 4. Connection -/

/-- **The connection has no problem when every node is reached**, the end node among them. -/
theorem connectionProblems_eq_nil_iff (f : Flow) (start : Node) (finish : Option Node)
    (hfinish : ∀ e, finish = some e → e ∈ f.nodes) :
    connectionProblems f start finish = [] ↔
      ∀ n ∈ f.nodes, n.id ∈ reachedFrom f start.id := by
  unfold connectionProblems
  rw [List.append_eq_nil_iff]
  have hlost : ((f.nodes.map Node.id).filter fun id => id ∉ reachedFrom f start.id) = [] ↔
      ∀ n ∈ f.nodes, n.id ∈ reachedFrom f start.id := by
    simp [List.filter_eq_nil_iff]
  constructor
  · rintro ⟨h, _⟩
    rw [← hlost]
    by_contra hne
    rw [if_neg (mt List.isEmpty_iff.mp hne)] at h
    cases h
  · intro h
    refine ⟨by rw [hlost.mpr h]; rfl, ?_⟩
    cases finish with
    | none => rfl
    | some e => exact if_pos (h e (hfinish e rfl))

/-- Where edges end at nodes, every path of edges is one of edges out of nodes. -/
theorem mem_reachedFrom_iff_joined {f : Flow} {start x : String}
    (hends : ∀ e ∈ f.edges, e.source ∈ f.nodes.map Node.id ∧ e.target ∈ f.nodes.map Node.id) :
    x ∈ reachedFrom f start ↔ Relation.ReflTransGen f.Leads start x := by
  have hrel : (fun a b => a ∈ f.nodes.map Node.id ∧ f.Leads a b) = f.Leads := by
    funext a b
    refine propext ⟨And.right, fun h => ⟨?_, h⟩⟩
    obtain ⟨e, he, hsource, _⟩ := h
    exact hsource ▸ (hends e he).1
  rw [mem_reachedFrom_iff, Flow.Reaches, hrel]

/-! ## 5. The whole check -/

/-- The parts of the check, for a flow with nodes. -/
theorem problems_eq_nil_iff_parts (f : Flow) (now : Moment) (hne : f.nodes ≠ []) :
    f.problems now = .ok [] ↔ nodesProblems now [] f.nodes = .ok [] ∧ (ofKind f .finish).length = 1 ∧
      edgesProblems f = [] ∧ ∃ start, ofKind f .start = [start] ∧
        connectionProblems f start (ofKind f .finish).head? = [] := by
  unfold Flow.problems
  rw [if_neg (mt List.isEmpty_iff.mp hne)]
  cases nodesProblems now [] f.nodes with
  | error fault => simp [bind, Except.bind]
  | ok own =>
    by_cases hend : (ofKind f .finish).length = 1
    · match hs : ofKind f .start with
      | [] => simp [bind, Except.bind, hend]
      | [start] => simp [bind, Except.bind, hend]
      | _ :: _ :: _ => simp [bind, Except.bind, hend]
    · simp [bind, Except.bind, hend]

theorem mem_ofKind (f : Flow) (k : NodeKind) (n : Node) : n ∈ ofKind f k ↔ n ∈ f.nodes ∧ n.kind = k := by
  simp [ofKind]

theorem known_of_isComplete {n : Node} {now : Moment} (h : n.IsComplete now) (text : String)
    (hno : text ∉ kindNames) : n.kind ≠ .unknown text hno := by
  intro hk
  unfold Node.IsComplete at h
  rw [hk] at h
  exact h

theorem notEmpty_of_problems {f : Flow} {now : Moment} (h : f.problems now = .ok []) :
    f.nodes ≠ [] := by
  intro he
  unfold Flow.problems at h
  rw [if_pos (List.isEmpty_iff.mpr he)] at h
  cases h

/-- A flow without problems is well-formed. -/
theorem isWellFormed_of_problems {f : Flow} {now : Moment} (h : f.problems now = .ok []) :
    f.IsWellFormed now := by
  have hne := notEmpty_of_problems h
  obtain ⟨hnodes, hend, hedges, start, hstart, hconn⟩ := (problems_eq_nil_iff_parts f now hne).mp h
  obtain ⟨heach, _, hnd⟩ := (nodesProblems_eq_nil_iff now [] f.nodes).mp hnodes
  have hnode := fun n hn => (nodeProblems_eq_nil_iff now n).mp (heach n hn)
  have hknown := fun n hn => known_of_isComplete (hnode n hn).2
  obtain ⟨hends, hexits⟩ := (edgesProblems_eq_nil_iff f hknown).mp hedges
  have hreach := (connectionProblems_eq_nil_iff f start _ fun e he =>
    ((mem_ofKind f .finish e).mp (List.mem_of_mem_head? he)).1).mp hconn
  exact {
    notEmpty := hne
    oneStart := by
      show (ofKind f .start).length = 1
      rw [hstart]
      rfl
    oneEnd := hend
    named := fun n hn => (hnode n hn).1
    distinct := hnd
    known := hknown
    complete := fun n hn => (hnode n hn).2
    anchored := hends
    exits := hexits
    joined := fun s hs hk n hn => by
      have hs' := (mem_ofKind f .start s).mpr ⟨hs, hk⟩
      rw [hstart, List.mem_singleton] at hs'
      subst hs'
      exact (mem_reachedFrom_iff_joined hends).mp (hreach n hn) }

/-- A well-formed flow has no problems. -/
theorem problems_of_isWellFormed {f : Flow} {now : Moment} (h : f.IsWellFormed now) :
    f.problems now = .ok [] := by
  obtain ⟨start, hstart⟩ : ∃ start, ofKind f .start = [start] :=
    List.length_eq_one_iff.mp h.oneStart
  have hmem := (mem_ofKind f .start start).mp (hstart ▸ List.mem_singleton_self start)
  have hnodes : nodesProblems now [] f.nodes = .ok [] :=
    (nodesProblems_eq_nil_iff now [] f.nodes).mpr
      ⟨fun n hn => (nodeProblems_eq_nil_iff now n).mpr ⟨h.named n hn, h.complete n hn⟩,
        fun _ _ => List.not_mem_nil, h.distinct⟩
  have hedges := (edgesProblems_eq_nil_iff f h.known).mpr ⟨h.anchored, h.exits⟩
  have hconn := (connectionProblems_eq_nil_iff f start (ofKind f .finish).head? fun e he =>
    ((mem_ofKind f .finish e).mp (List.mem_of_mem_head? he)).1).mpr fun n hn =>
      (mem_reachedFrom_iff_joined h.anchored).mpr (h.joined start hmem.1 hmem.2 n hn)
  exact (problems_eq_nil_iff_parts f now h.notEmpty).mpr
    ⟨hnodes, h.oneEnd, hedges, start, hstart, hconn⟩

/-- **The check is sound and complete**: it finds no problem exactly in well-formed flows. -/
theorem problems_empty_iff_isWellFormed (f : Flow) (now : Moment) :
    f.problems now = .ok [] ↔ f.IsWellFormed now :=
  ⟨isWellFormed_of_problems, problems_of_isWellFormed⟩

end Check

end Dripline
