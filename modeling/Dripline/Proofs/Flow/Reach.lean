import Dripline.Flow.Check
import Mathlib.Data.Finset.Card
import Mathlib.Logic.Relation

/-!
# The breadth-first walk reaches what paths reach

`Check.spread` works off a queue with a number of turns. Here its answer is compared with paths:

* `Flow.Leads`: some edge of the flow goes from one id to another;
* `Flow.Reaches`: a path of such edges leads from one id to another, and each of them leaves a node;
* `mem_neighbours`: the neighbours of an id are where edges out of a node of the flow lead;
* `turns_suffice`: the queue is empty before the turns run out, since every id that enters it was a
  target of an edge that had not been reached (`unreachedTargets` counts them);
* **`mem_reachedFrom_iff`**: an id is reached exactly when a path of edges out of nodes leads there;
* `turn`, `iterate_turn_ends`: the same walk without a number of turns. It ends, with the same ids.
-/

namespace Dripline

/-- Some edge leads from an id to another. -/
def Flow.Leads (f : Flow) (a b : String) : Prop := ∃ e ∈ f.edges, e.source = a ∧ e.target = b

/-- A path of edges out of nodes leads from an id to another. -/
def Flow.Reaches (f : Flow) : String → String → Prop :=
  Relation.ReflTransGen fun a b => a ∈ f.nodes.map Node.id ∧ f.Leads a b

namespace Check

/-! ## 1. One turn -/

theorem mem_newcomers (ids reached : List String) (x : String) :
    x ∈ newcomers reached ids ↔ x ∈ ids ∧ x ∉ reached := by
  induction ids generalizing reached with
  | nil => simp [newcomers]
  | cons id ids ih =>
    unfold newcomers
    by_cases hid : id ∈ reached
    · rw [if_pos hid, ih, List.mem_cons]
      constructor
      · rintro ⟨hx, hr⟩
        exact ⟨Or.inr hx, hr⟩
      · rintro ⟨rfl | hx, hr⟩
        · exact absurd hid hr
        · exact ⟨hx, hr⟩
    · rw [if_neg hid, List.mem_cons, ih, List.mem_cons, List.mem_cons, not_or]
      constructor
      · rintro (rfl | ⟨hx, _, hr⟩)
        · exact ⟨Or.inl rfl, hid⟩
        · exact ⟨Or.inr hx, hr⟩
      · rintro ⟨hx, hr⟩
        by_cases e : x = id
        · exact Or.inl e
        · exact Or.inr ⟨hx.resolve_left e, e, hr⟩

theorem nodup_newcomers (ids reached : List String) : (newcomers reached ids).Nodup := by
  induction ids generalizing reached with
  | nil => exact List.nodup_nil
  | cons id ids ih =>
    unfold newcomers
    by_cases hid : id ∈ reached
    · rw [if_pos hid]
      exact ih reached
    · rw [if_neg hid, List.nodup_cons, mem_newcomers]
      exact ⟨fun h => h.2 List.mem_cons_self, ih _⟩

/-- **The neighbours of an id are where edges out of a node lead.** -/
theorem mem_neighbours (f : Flow) (a b : String) :
    b ∈ neighbours f a ↔ a ∈ f.nodes.map Node.id ∧ f.Leads a b := by
  unfold neighbours Flow.Leads
  by_cases ha : a ∈ f.nodes.map Node.id
  · rw [if_pos ha]
    simp [ha, and_assoc]
  · rw [if_neg ha]
    simp [ha]

/-! ## 2. The turns suffice -/

/-- The targets of edges that are not among the ids. -/
def unreachedTargets (f : Flow) (reached : List String) : Finset String :=
  (f.edges.map Edge.target).toFinset \ reached.toFinset

theorem newcomers_subset_unreached (f : Flow) (reached : List String) (id : String) :
    (newcomers reached (neighbours f id)).toFinset ⊆ unreachedTargets f reached := by
  intro x hx
  rw [List.mem_toFinset, mem_newcomers, mem_neighbours] at hx
  obtain ⟨⟨_, e, he, _, htarget⟩, hr⟩ := hx
  rw [unreachedTargets, Finset.mem_sdiff, List.mem_toFinset, List.mem_toFinset]
  exact ⟨List.mem_map.mpr ⟨e, he, htarget⟩, hr⟩

/-- What a turn appends to the queue it takes from the unreached targets. -/
theorem card_unreached_add (f : Flow) (reached : List String) (id : String) :
    (unreachedTargets f (reached ++ newcomers reached (neighbours f id))).card +
      (newcomers reached (neighbours f id)).length = (unreachedTargets f reached).card := by
  have hsub := newcomers_subset_unreached f reached id
  have hlen := List.toFinset_card_of_nodup (nodup_newcomers (neighbours f id) reached)
  have hsplit : unreachedTargets f (reached ++ newcomers reached (neighbours f id)) =
      unreachedTargets f reached \ (newcomers reached (neighbours f id)).toFinset := by
    unfold unreachedTargets
    rw [List.toFinset_append, Finset.sdiff_union_distrib, Finset.sdiff_sdiff_left']
  rw [hsplit, ← hlen]
  exact Finset.card_sdiff_add_card_eq_card hsub

/-- One turn for the start and one for each edge are enough. -/
theorem turns_suffice (f : Flow) (start : String) :
    [start].length + (unreachedTargets f [start]).card ≤ f.edges.length + 1 := by
  have h : (unreachedTargets f [start]).card ≤ (f.edges.map Edge.target).length :=
    (Finset.card_le_card Finset.sdiff_subset).trans (List.toFinset_card_le _)
  rw [List.length_map] at h
  rw [List.length_singleton]
  omega

/-! ## 3. The whole walk -/

theorem subset_spread (f : Flow) (turns : Nat) (reached queue : List String) :
    ∀ x ∈ reached, x ∈ spread f turns reached queue := by
  induction turns generalizing reached queue with
  | zero => exact fun x hx => hx
  | succ turns ih =>
    cases queue with
    | nil => exact fun x hx => hx
    | cons id queue => exact fun x hx => ih _ _ x (List.mem_append_left _ hx)

/-- What the walk reaches it reaches along paths. -/
theorem path_of_mem_spread (f : Flow) (start : String) (turns : Nat) (reached queue : List String)
    (hq : ∀ x ∈ queue, x ∈ reached)
    (hr : ∀ x ∈ reached, Relation.ReflTransGen (fun a b => b ∈ neighbours f a) start x) :
    ∀ x ∈ spread f turns reached queue,
      Relation.ReflTransGen (fun a b => b ∈ neighbours f a) start x := by
  induction turns generalizing reached queue with
  | zero => exact hr
  | succ turns ih =>
    cases queue with
    | nil => exact hr
    | cons id queue =>
      refine ih _ _ (fun x hx => ?_) (fun x hx => ?_)
      · rcases List.mem_append.mp hx with hx | hx
        · exact List.mem_append_left _ (hq x (List.mem_cons_of_mem _ hx))
        · exact List.mem_append_right _ hx
      · rcases List.mem_append.mp hx with hx | hx
        · exact hr x hx
        · exact (hr id (hq id List.mem_cons_self)).tail ((mem_newcomers _ _ x).mp hx).1

/-- When every reached id is queued or has its neighbours reached, and the turns cover the queue and
    the unreached targets, then all neighbours of what the walk reaches are reached. -/
theorem spread_closed (f : Flow) (turns : Nat) (reached queue : List String)
    (hdone : ∀ x ∈ reached, x ∈ queue ∨ ∀ y ∈ neighbours f x, y ∈ reached)
    (hturns : queue.length + (unreachedTargets f reached).card ≤ turns) :
    ∀ x ∈ spread f turns reached queue, ∀ y ∈ neighbours f x, y ∈ spread f turns reached queue := by
  induction turns generalizing reached queue with
  | zero =>
    have hq : queue = [] := List.length_eq_zero_iff.mp (by omega)
    subst hq
    exact fun x hx => (hdone x hx).resolve_left List.not_mem_nil
  | succ turns ih =>
    cases queue with
    | nil => exact fun x hx => (hdone x hx).resolve_left List.not_mem_nil
    | cons id queue =>
      refine ih _ _ (fun x hx => ?_) ?_
      · by_cases hx' : x ∈ reached
        · rcases hdone x hx' with hq | hy
          · rcases List.mem_cons.mp hq with rfl | hq
            · -- the id that leaves the queue: its neighbours were reached or come now
              refine Or.inr fun y hy => ?_
              by_cases hyr : y ∈ reached
              · exact List.mem_append_left _ hyr
              · exact List.mem_append_right _ ((mem_newcomers _ _ y).mpr ⟨hy, hyr⟩)
            · exact Or.inl (List.mem_append_left _ hq)
          · exact Or.inr fun y hy' => List.mem_append_left _ (hy y hy')
        · exact Or.inl (List.mem_append_right _ ((List.mem_append.mp hx).resolve_left hx'))
      · have hcard := card_unreached_add f reached id
        rw [List.length_cons] at hturns
        rw [List.length_append]
        omega

/-- **An id is reached exactly when a path of edges out of nodes leads to it.** -/
theorem mem_reachedFrom_iff (f : Flow) (start x : String) : x ∈ reachedFrom f start ↔ f.Reaches start x := by
  have hrel : (fun a b => a ∈ f.nodes.map Node.id ∧ f.Leads a b) =
      fun a b => b ∈ neighbours f a := by
    funext a b
    exact propext (mem_neighbours f a b).symm
  unfold Flow.Reaches
  rw [hrel]
  constructor
  · refine path_of_mem_spread f start _ [start] [start] (fun _ h => h) (fun y hy => ?_) x
    rw [List.mem_singleton.mp hy]
  · intro h
    induction h with
    | refl => exact subset_spread f _ _ _ start (List.mem_singleton.mpr rfl)
    | tail _ hstep ih =>
      exact spread_closed f _ [start] [start] (fun y hy => Or.inl hy) (turns_suffice f start)
        _ ih _ hstep

instance (f : Flow) (a b : String) : Decidable (f.Reaches a b) :=
  decidable_of_iff (b ∈ reachedFrom f a) (mem_reachedFrom_iff f a b)

/-! ## 4. The walk turn by turn -/

/-- Where the walk stands: the ids that are reached, and those of them that are still to be left. -/
structure Frontier where
  reached : List String
  queue : List String

/-- One turn of the walk, as long as the queue holds an id. -/
def turn (f : Flow) (s : Frontier) : Frontier :=
  match s.queue with
  | [] => s
  | id :: queue =>
    ⟨s.reached ++ newcomers s.reached (neighbours f id), queue ++ newcomers s.reached (neighbours f id)⟩

theorem iterate_turn_of_empty (f : Flow) (turns : Nat) (reached : List String) :
    (turn f)^[turns] ⟨reached, []⟩ = ⟨reached, []⟩ := by
  induction turns with
  | zero => rfl
  | succ turns ih =>
    rw [Function.iterate_succ_apply]
    exact ih

/-- When the turns cover the queue and the unreached targets, then they empty the queue, and they reach what
    `spread` does. -/
theorem iterate_turn_eq (f : Flow) (turns : Nat) (reached queue : List String)
    (hturns : queue.length + (unreachedTargets f reached).card ≤ turns) :
    (turn f)^[turns] ⟨reached, queue⟩ = ⟨spread f turns reached queue, []⟩ := by
  induction turns generalizing reached queue with
  | zero =>
    have hq : queue = [] := List.length_eq_zero_iff.mp (by omega)
    rw [hq]
    rfl
  | succ turns ih =>
    cases queue with
    | nil => exact iterate_turn_of_empty f (turns + 1) reached
    | cons id queue =>
      rw [Function.iterate_succ_apply]
      have hcard := card_unreached_add f reached id
      rw [List.length_cons] at hturns
      refine ih (reached ++ newcomers reached (neighbours f id))
        (queue ++ newcomers reached (neighbours f id)) ?_
      rw [List.length_append]
      omega

/-- **The walk ends**: after at most one turn for the start and one for each edge the queue is empty, and the
    ids that are reached are those of the check. -/
theorem iterate_turn_ends (f : Flow) (start : String) :
    (turn f)^[f.edges.length + 1] ⟨[start], [start]⟩ = ⟨reachedFrom f start, []⟩ :=
  iterate_turn_eq f _ _ _ (turns_suffice f start)

end Check

end Dripline
