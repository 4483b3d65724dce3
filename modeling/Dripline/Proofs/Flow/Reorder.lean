import Dripline.Proofs.Flow.Walk

/-!
# The order of nodes and edges

The check counts and the graph of a flow takes what it finds first. In an accepted flow the two never
differ, since there is nothing to choose from:

* `Flow.Reorders`: the same nodes and the same edges in another order;
* `IsWellFormed.reorder`, **`problems_reorder`**: a flow is accepted in every order or in none;
* `eq_of_perm`, `find?_perm`: what is there once at most is found in every order;
* `Graph.Agrees`: two graphs that answer alike, but for the first edge out of a condition;
  **`Reorders.agrees`**: such are the graphs of an accepted flow in two orders;
* `Step.plan_agrees`: a step does not tell them apart.

A condition has two edges and the first of them does depend on the order; no step asks for it.
-/

namespace Dripline

/-! ## 1. What is there once at most -/

section

variable {β : Type} {l l' : List β} {p : β → Bool}

/-- A list with one element at most has only one order. -/
theorem eq_of_perm (h : l'.Perm l) (hone : l.length ≤ 1) : l' = l := by
  match l, hone with
  | [], _ => exact h.eq_nil
  | [b], _ => exact List.perm_singleton.mp h

/-- **What is there once at most** is found in every order. -/
theorem find?_perm (h : l'.Perm l) (hone : (l.filter p).length ≤ 1) : l'.find? p = l.find? p := by
  rw [← List.head?_filter, ← List.head?_filter, eq_of_perm (h.filter p) hone]

/-- An id that does not repeat is there once at most. -/
theorem length_filter_le_one {γ : Type} [DecidableEq γ] {key : β → γ} (h : (l.map key).Nodup) (k : γ) :
    (l.filter fun b => key b = k).length ≤ 1 := by
  have hcount : (l.map key).count k ≤ 1 := List.nodup_iff_count_le_one.mp h k
  rw [List.count, List.countP_map, List.countP_eq_length_filter] at hcount
  exact hcount

end

/-! ## 2. The check -/

namespace Flow

/-- **The same nodes and the same edges** in another order. -/
structure Reorders (g f : Flow) : Prop where
  nodes : g.nodes.Perm f.nodes
  edges : g.edges.Perm f.edges

variable {f g : Flow} {now : Moment} {n : Node}

theorem Reorders.refl (f : Flow) : f.Reorders f := ⟨.refl _, .refl _⟩

theorem Reorders.symm (h : g.Reorders f) : f.Reorders g := ⟨h.nodes.symm, h.edges.symm⟩

theorem Reorders.exits (h : g.Reorders f) (n : Node) : (g.exits n).Perm (f.exits n) :=
  h.edges.filter _

theorem Reorders.ids (h : g.Reorders f) : (g.nodes.map Node.id).Perm (f.nodes.map Node.id) :=
  h.nodes.map _

theorem Reorders.leads (h : g.Reorders f) {a b : String} (hab : f.Leads a b) : g.Leads a b := by
  obtain ⟨e, he, hends⟩ := hab
  exact ⟨e, h.edges.mem_iff.mpr he, hends⟩

/-- Edges are counted, and their tags compared, without their order. -/
theorem HasExits.reorder (h : g.Reorders f) (hexits : f.HasExits n) : g.HasExits n := by
  have hperm := h.exits n
  unfold HasExits at hexits ⊢
  cases hkind : n.kind with
  | start => rw [hkind] at hexits; exact hperm.length_eq.trans hexits
  | action => rw [hkind] at hexits; exact hperm.length_eq.trans hexits
  | delay => rw [hkind] at hexits; exact hperm.length_eq.trans hexits
  | finish =>
    rw [hkind] at hexits
    exact (hexits ▸ hperm).eq_nil
  | condition => rw [hkind] at hexits; exact (hperm.map _).trans hexits
  | unknown text hno => rw [hkind] at hexits; exact hexits

/-- **What is asked of a flow** does not depend on its order. -/
theorem IsWellFormed.reorder (hwf : f.IsWellFormed now) (h : g.Reorders f) : g.IsWellFormed now where
  notEmpty hnil := hwf.notEmpty (hnil ▸ h.nodes.symm).eq_nil
  oneStart := (h.nodes.filter _).length_eq.trans hwf.oneStart
  oneEnd := (h.nodes.filter _).length_eq.trans hwf.oneEnd
  named n hn := hwf.named n (h.nodes.mem_iff.mp hn)
  distinct := h.ids.nodup_iff.mpr hwf.distinct
  known n hn := hwf.known n (h.nodes.mem_iff.mp hn)
  complete n hn := hwf.complete n (h.nodes.mem_iff.mp hn)
  anchored e he :=
    (hwf.anchored e (h.edges.mem_iff.mp he)).imp h.ids.mem_iff.mpr h.ids.mem_iff.mpr
  exits n hn := (hwf.exits n (h.nodes.mem_iff.mp hn)).reorder h
  joined s hs hkind n hn :=
    Relation.ReflTransGen.mono (fun _ _ => h.leads) _ _
      (hwf.joined s (h.nodes.mem_iff.mp hs) hkind n (h.nodes.mem_iff.mp hn))

/-- **A flow is accepted in every order or in none.** -/
theorem problems_reorder (h : g.Reorders f) (now : Moment) :
    g.problems now = .ok [] ↔ f.problems now = .ok [] := by
  constructor <;> intro haccepted
  · exact Check.problems_of_isWellFormed ((Check.isWellFormed_of_problems haccepted).reorder h.symm)
  · exact Check.problems_of_isWellFormed ((Check.isWellFormed_of_problems haccepted).reorder h)

end Flow

/-! ## 3. The graph -/

/-- **Two graphs that answer alike**, but for the first edge out of a condition. -/
structure Graph.Agrees (g g' : Graph) : Prop where
  node : ∀ id, g'.node? id = g.node? id
  start : g'.start? = g.start?
  branch : ∀ id outcome, g'.branch? id outcome = g.branch? id outcome
  successor : ∀ n, g.node? n.id = some n → n.kind ≠ .condition →
    g'.successor? n.id = g.successor? n.id

namespace Flow

variable {f g : Flow} {now : Moment} {n : Node}

/-- At most one edge leaves a node that does not branch. -/
theorem length_exits_le_one (hexits : f.HasExits n) (hkind : n.kind ≠ .condition) :
    (f.exits n).length ≤ 1 := by
  unfold HasExits at hexits
  cases hk : n.kind with
  | condition => exact absurd hk hkind
  | finish =>
    rw [hk] at hexits
    rw [hexits]
    exact Nat.zero_le 1
  | unknown text hno => rw [hk] at hexits; exact hexits.elim
  | start => rw [hk] at hexits; exact hexits.le
  | action => rw [hk] at hexits; exact hexits.le
  | delay => rw [hk] at hexits; exact hexits.le

/-- At most one edge out of a node has the tag of an outcome. -/
theorem length_tagged_le_one (hexits : f.HasExits n) (outcome : Bool) :
    ((f.exits n).filter fun e => e.handle = some (Graph.outcomeTag outcome)).length ≤ 1 := by
  by_cases hkind : n.kind = .condition
  · unfold HasExits at hexits
    rw [hkind] at hexits
    have hdistinct : ((f.exits n).map Edge.handle).Nodup := hexits.nodup_iff.mpr (by decide)
    exact length_filter_le_one hdistinct _
  · exact (List.length_filter_le _ _).trans (length_exits_le_one hexits hkind)

/-- No edge leaves a node that is not there. -/
theorem outgoing_of_not_mem (h : f.IsWellFormed now) {id : String} (hid : id ∉ f.nodes.map Node.id) :
    (Graph.ofFlow f).outgoing id = [] := by
  rw [Graph.outgoing_ofFlow, List.filter_eq_nil_iff]
  intro e he hsource
  exact hid (of_decide_eq_true hsource ▸ (h.anchored e he).1)

/-- **The graphs of an accepted flow in two orders answer alike.** -/
theorem Reorders.agrees (h : g.Reorders f) (hwf : f.IsWellFormed now) :
    (Graph.ofFlow f).Agrees (Graph.ofFlow g) where
  node id := by
    rw [Graph.node?_ofFlow, Graph.node?_ofFlow]
    exact find?_perm h.nodes (length_filter_le_one hwf.distinct id)
  start := by
    rw [Graph.start?_ofFlow hwf.distinct, Graph.start?_ofFlow (hwf.reorder h).distinct]
    exact find?_perm h.nodes hwf.oneStart.le
  branch id outcome := by
    have hperm : ((Graph.ofFlow g).outgoing id).Perm ((Graph.ofFlow f).outgoing id) := by
      rw [Graph.outgoing_ofFlow, Graph.outgoing_ofFlow]
      exact h.edges.filter _
    unfold Graph.branch?
    rw [find?_perm hperm]
    by_cases hid : id ∈ f.nodes.map Node.id
    · obtain ⟨n, hn, rfl⟩ := List.mem_map.mp hid
      rw [Graph.outgoing_ofFlow]
      exact length_tagged_le_one (hwf.exits n hn) outcome
    · rw [outgoing_of_not_mem hwf hid]
      exact Nat.zero_le 1
  successor n hn hkind := by
    unfold Graph.successor?
    rw [Graph.outgoing_ofFlow, Graph.outgoing_ofFlow]
    have hsame : g.exits n = f.exits n :=
      eq_of_perm (h.exits n) (length_exits_le_one (hwf.exits n (Graph.mem_of_node? hn)) hkind)
    exact congrArg (fun es : List Edge => es.head?.map Edge.target) hsame

end Flow

/-! ## 4. Steps -/

namespace Step

variable {g g' : Graph} {n : Node}

theorem exit_agrees (h : g.Agrees g') (hn : g.node? n.id = some n) (hkind : n.kind ≠ .condition) :
    exit g' n.id = exit g n.id := by
  unfold exit
  rw [h.successor n hn hkind]

/-- **A step does not tell two graphs apart** that answer alike. -/
theorem plan_agrees (h : g.Agrees g') (hn : g.node? n.id = some n) (subject : String) (now : Moment) :
    plan g' subject now n = plan g subject now n := by
  have hexit := exit_agrees h hn
  unfold plan
  cases hkind : n.kind with
  | finish => rfl
  | unknown text hno => rfl
  | start => simp only [hexit (hkind.trans_ne (by decide))]
  | action => simp only [planAction, hexit (hkind.trans_ne (by decide))]
  | delay => simp only [planDelay, hexit (hkind.trans_ne (by decide))]
  | condition => simp only [planCondition, h.branch]

end Step

end Dripline
