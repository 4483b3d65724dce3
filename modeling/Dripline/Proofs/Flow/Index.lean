import Dripline.Flow.Graph
import Mathlib.Data.List.Nodup

/-!
# The index of a graph is a scan of its flow

`Graph.ofFlow` builds its two tables in one pass over each list. What they answer is what a scan of
the lists answers:

* `node?_ofFlow`: a node is the first of the flow with its id;
* `outgoing_ofFlow`, `successor?_ofFlow`, `branch?_ofFlow`: the edges out of a node are those of the
  flow with its id as their source, in the order of the flow;
* `values_ofFlow`: the nodes of the index are the first ones of their ids (`firstOfIds`), which are
  all nodes as soon as no id repeats (`start?_ofFlow`);
* `firstOfIds_eq_scan`: a node is one of these if no node before it in the flow has its id
  (`firstOccurrences`);
* **`index_is_scan`**: all that is asked of an index.
-/

namespace Dripline

namespace Graph

/-! ## 1. Nodes -/

theorem get?_putNodes (ns : List Node) (t : Keyed Node) (id : String) :
    (ns.foldl (fun index n => index.putNew n.id n) t).get? id =
      (t.get? id).or (ns.find? fun n => n.id = id) := by
  induction ns generalizing t with
  | nil => simp
  | cons n ns ih =>
    rw [List.foldl_cons, ih, Keyed.get?_putNew]
    by_cases h : n.id = id
    · simp [h]
    · simp [h]

/-- **A node is the first of the flow with its id.** -/
theorem node?_ofFlow (f : Flow) (id : String) :
    (ofFlow f).node? id = f.nodes.find? fun n => n.id = id := by
  unfold node? ofFlow
  rw [get?_putNodes, Keyed.get?_empty, Option.none_or]

theorem id_of_node? {f : Flow} {id : String} {n : Node} (h : (ofFlow f).node? id = some n) :
    n.id = id := by
  rw [node?_ofFlow] at h
  simpa using List.find?_some h

theorem mem_of_node? {f : Flow} {id : String} {n : Node} (h : (ofFlow f).node? id = some n) :
    n ∈ f.nodes := by
  rw [node?_ofFlow] at h
  exact List.mem_of_find?_eq_some h

/-- The nodes whose id is neither one of `seen` nor the id of an earlier node. -/
def firstOfIds (seen : List String) : List Node → List Node
  | [] => []
  | n :: ns => if n.id ∈ seen then firstOfIds seen ns else n :: firstOfIds (n.id :: seen) ns

theorem firstOfIds_congr (ns : List Node) {seen seen' : List String}
    (h : ∀ id, id ∈ seen ↔ id ∈ seen') : firstOfIds seen ns = firstOfIds seen' ns := by
  induction ns generalizing seen seen' with
  | nil => rfl
  | cons n ns ih =>
    unfold firstOfIds
    by_cases hn : n.id ∈ seen
    · rw [if_pos hn, if_pos ((h _).mp hn), ih h]
    · rw [if_neg hn, if_neg (mt (h _).mpr hn)]
      exact congrArg _ (ih fun id => by simp [h])

theorem mem_keys_iff (t : Keyed Node) (id : String) : id ∈ t.keys ↔ (t.get? id).isSome := by
  unfold Keyed.keys Keyed.get?
  induction t.entries with
  | nil => simp [Keyed.lookup]
  | cons e es ih =>
    by_cases h : e.1 = id
    · simp [Keyed.lookup, h]
    · have h' : id ≠ e.1 := fun e' => h e'.symm
      simp only [List.map_cons, List.mem_cons, h', false_or, Keyed.lookup, h, if_false]
      exact ih

theorem values_putNodes (ns : List Node) (t : Keyed Node) :
    (ns.foldl (fun index n => index.putNew n.id n) t).values =
      t.values ++ firstOfIds t.keys ns := by
  induction ns generalizing t with
  | nil => simp [firstOfIds]
  | cons n ns ih =>
    rw [List.foldl_cons, ih, firstOfIds]
    unfold Keyed.putNew Keyed.contains
    by_cases h : n.id ∈ t.keys
    · rw [if_pos ((mem_keys_iff t n.id).mp h), if_pos h]
    · rw [if_neg (mt (mem_keys_iff t n.id).mpr h), if_neg h]
      -- the new key stands last in the table and first in `firstOfIds`: only membership counts
      have hk : firstOfIds (t.keys ++ [n.id]) ns = firstOfIds (n.id :: t.keys) ns :=
        firstOfIds_congr ns fun id => by simp [or_comm]
      simpa [Keyed.values, Keyed.keys] using hk

/-- **The nodes of the index are the first ones of their ids**, in the order of the flow. -/
theorem values_ofFlow (f : Flow) : (ofFlow f).byId.values = firstOfIds [] f.nodes := by
  unfold ofFlow
  rw [values_putNodes]
  rfl

theorem firstOfIds_of_nodup (ns : List Node) (seen : List String)
    (hnew : ∀ n ∈ ns, n.id ∉ seen) (hnd : (ns.map Node.id).Nodup) : firstOfIds seen ns = ns := by
  induction ns generalizing seen with
  | nil => rfl
  | cons n ns ih =>
    rw [List.map_cons, List.nodup_cons] at hnd
    unfold firstOfIds
    rw [if_neg (hnew n List.mem_cons_self)]
    refine congrArg _ (ih _ (fun m hm => ?_) hnd.2)
    rw [List.mem_cons, not_or]
    exact ⟨fun e => hnd.1 (e ▸ List.mem_map_of_mem hm), hnew m (List.mem_cons_of_mem _ hm)⟩

/-- Where no id repeats, a walk begins at the first start node of the flow. -/
theorem start?_ofFlow {f : Flow} (hnd : (f.nodes.map Node.id).Nodup) :
    (ofFlow f).start? = f.nodes.find? fun n => n.kind = .start := by
  unfold start? nodesOfKind
  rw [values_ofFlow, firstOfIds_of_nodup f.nodes [] (fun _ _ => List.not_mem_nil) hnd,
    List.head?_filter]

/-! ## 2. Edges -/

theorem get?_addEdges (es : List Edge) (t : Keyed (List Edge)) (id : String) :
    ((es.foldl addEdge t).get? id).getD [] =
      (t.get? id).getD [] ++ es.filter fun e => e.source = id := by
  induction es generalizing t with
  | nil => simp
  | cons e es ih =>
    rw [List.foldl_cons, ih, addEdge, Keyed.get?_put]
    by_cases h : e.source = id
    · simp [h]
    · simp [h]

/-- **The edges out of a node are the edges of the flow with that source**, in its order. -/
theorem outgoing_ofFlow (f : Flow) (id : String) :
    (ofFlow f).outgoing id = f.edges.filter fun e => e.source = id := by
  unfold outgoing ofFlow
  rw [get?_addEdges, Keyed.get?_empty]
  rfl

theorem successor?_ofFlow (f : Flow) (id : String) :
    (ofFlow f).successor? id = (f.edges.find? fun e => e.source = id).map Edge.target := by
  unfold successor?
  rw [outgoing_ofFlow, List.head?_filter]

theorem branch?_ofFlow (f : Flow) (id : String) (outcome : Bool) :
    (ofFlow f).branch? id outcome =
      (f.edges.find? fun e => e.source = id && e.handle = some (outcomeTag outcome)).map
        Edge.target := by
  unfold branch?
  rw [outgoing_ofFlow, List.find?_filter]
  simp

/-! ## 3. First occurrences -/

/-- The nodes before which no node has their id, in order. -/
def firstOccurrences (ns : List Node) : List Node :=
  (ns.zipIdx.filter fun p : Node × Nat => ∀ m ∈ ns.take p.2, m.id ≠ p.1.id).map Prod.fst

/-- What is left of a list behind `front` is scanned with the places that it has in the whole. -/
theorem firstOfIds_eq_scan (front ns : List Node) :
    firstOfIds (front.map Node.id) ns =
      ((ns.zipIdx front.length).filter fun p : Node × Nat => ∀ m ∈ (front ++ ns).take p.2, m.id ≠ p.1.id).map
        Prod.fst := by
  induction ns generalizing front with
  | nil => rfl
  | cons n ns ih =>
    have hscan : firstOfIds ((front ++ [n]).map Node.id) ns =
        ((ns.zipIdx (front.length + 1)).filter fun p : Node × Nat =>
          ∀ m ∈ (front ++ n :: ns).take p.2, m.id ≠ p.1.id).map Prod.fst := by
      simpa using ih (front ++ [n])
    rw [firstOfIds, List.zipIdx_cons, List.filter_cons, List.take_left]
    by_cases h : n.id ∈ front.map Node.id
    · obtain ⟨m, hm, hid⟩ := List.mem_map.mp h
      have hnot : ¬ ∀ m ∈ front, m.id ≠ n.id := fun hall => hall m hm hid
      rw [if_pos h, if_neg (by simpa using hnot), ← hscan]
      -- the id is one of those in front already, so that counting it once more changes nothing
      refine firstOfIds_congr ns fun id => ?_
      rw [List.map_append, List.mem_append, List.map_singleton, List.mem_singleton]
      exact ⟨.inl, fun hid => hid.elim (fun hid => hid) fun heq => heq ▸ h⟩
    · have hall : ∀ m ∈ front, m.id ≠ n.id := fun m hm hid => h (hid ▸ List.mem_map_of_mem hm)
      rw [if_neg h, if_pos (by simpa using hall), List.map_cons, ← hscan]
      exact congrArg _ (firstOfIds_congr ns fun id => by simp [or_comm])

theorem nodesOfKind_ofFlow (f : Flow) (k : NodeKind) :
    (ofFlow f).nodesOfKind k = (firstOccurrences f.nodes).filter fun n => n.kind = k := by
  unfold nodesOfKind firstOccurrences
  rw [values_ofFlow]
  exact congrArg _ (firstOfIds_eq_scan [] f.nodes)

/-- **What is asked of an index is answered as a scan of the flow answers it**, whatever ids repeat and
    wherever its edges lead. -/
theorem index_is_scan (f : Flow) :
    (∀ id, (ofFlow f).node? id = f.nodes.find? fun n => n.id = id) ∧
    (∀ id, (ofFlow f).outgoing id = f.edges.filter fun e => e.source = id) ∧
    (∀ id, (ofFlow f).successor? id = (f.edges.find? fun e => e.source = id).map Edge.target) ∧
    (∀ id outcome, (ofFlow f).branch? id outcome =
      (f.edges.find? fun e => e.source = id && e.handle = some (outcomeTag outcome)).map Edge.target) ∧
    (∀ k, (ofFlow f).nodesOfKind k = (firstOccurrences f.nodes).filter fun n => n.kind = k) ∧
    (ofFlow f).start? = (firstOccurrences f.nodes).find? fun n => n.kind = .start := by
  refine ⟨node?_ofFlow f, outgoing_ofFlow f, successor?_ofFlow f, branch?_ofFlow f, nodesOfKind_ofFlow f, ?_⟩
  unfold start?
  rw [nodesOfKind_ofFlow, List.head?_filter]

/-- A node whose id came before is none of its kind, and a walk does not begin there. -/
example (x y : NodeData) : (ofFlow ⟨[⟨"a", .action, x⟩, ⟨"a", .start, y⟩], []⟩).start? = none := rfl

end Graph

end Dripline
