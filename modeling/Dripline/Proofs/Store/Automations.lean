import Dripline.Store.Memory
import Dripline.Proofs.Document.Json
import Dripline.Proofs.Store.Ids
import Dripline.Proofs.Store.Lawful
import Dripline.Proofs.Time.Sorting

/-!
# What a store of automations does

`LawfulAutomations` fixes what a store of automations does, in terms of a list of what it holds:

* `SavedAutomation`: an automation with its times, as it was written; `shown` is what is read back where a
  store keeps moments in a form of its own;
* an automation is added at the end, takes the place of its older version or is taken out, and no
  operation that is refused changes anything;
* names are compared among all automations, the one that is written apart;
* what was written at moments with one offset is listed from the latest to the earliest.

Automations in memory (`MemoryAutomations.Holds`) and rows of text columns (`AutomationTable.Holds`) are
both lawful, the second since settled flows come back from their columns.
-/

namespace Dripline

/-! ## 1. The laws -/

/-- An automation in a store, with the times at which it was created and last written. -/
structure SavedAutomation where
  id : String
  name : String
  flow : Flow
  createdAt : Moment
  updatedAt : Moment
deriving DecidableEq

namespace SavedAutomation

/-- What is read back, where a store keeps moments in a form of its own. -/
def shown (kept : Moment → Moment) (a : SavedAutomation) : Automation :=
  ⟨a.id, a.name, a.flow, some (kept a.createdAt), some (kept a.updatedAt)⟩

/-- A new version under the same id. -/
def revised (a : SavedAutomation) (b : Automation) (now : Moment) : SavedAutomation :=
  { a with name := b.name, flow := b.flow, updatedAt := now }

/-- Automations with a new version in the place of the one under its id. -/
def replace (as : List SavedAutomation) (a : SavedAutomation) : List SavedAutomation :=
  as.map fun b => if b.id = a.id then a else b

/-- Automations in the order of the report: from the latest update to the earliest. -/
def latestFirst (as : List SavedAutomation) : List SavedAutomation :=
  as.mergeSort fun a b => decide (b.updatedAt.ticks ≤ a.updatedAt.ticks)

end SavedAutomation

/-- **A store whose automations can be relied on.** `Holds` tells what it holds, in the order in which the
    automations were created. -/
class LawfulAutomations (α : Type) [AutomationStorage α] where
  /-- The form in which a moment is read back. -/
  kept : Moment → Moment
  kept_eq {m : Moment} : m.isAnchored = true → kept m = m
  Holds : α → List SavedAutomation → Prop
  blank : α
  holds_blank : Holds blank []
  nodup_ids {s : α} {as : List SavedAutomation} : Holds s as → (as.map SavedAutomation.id).Nodup
  settled {s : α} {as : List SavedAutomation} : Holds s as → ∀ a ∈ as, a.flow.IsSettled
  get_eq {s : α} {as : List SavedAutomation} (id : String) : Holds s as →
    AutomationStorage.get s id = .ok ((as.find? fun a => a.id == id).map (·.shown kept))
  getByName_eq {s : α} {as : List SavedAutomation} (name : String) : Holds s as →
    AutomationStorage.getByName s name = .ok ((as.find? fun a => a.name == name).map (·.shown kept))
  list_perm {s : α} {as : List SavedAutomation} : Holds s as →
    ∃ listed, AutomationStorage.list s = .ok listed ∧ listed.Perm (as.map (·.shown kept))
  list_eq {s : α} {as : List SavedAutomation} {zone : Offset} : Holds s as →
    (∀ a ∈ as, a.updatedAt.offset = some zone) →
    AutomationStorage.list s = .ok ((SavedAutomation.latestFirst as).map (·.shown kept))
  create_taken {s : α} {as : List SavedAutomation} {a : Automation} (now : Moment) (ids : Ids) :
    Holds s as → a.name ∈ as.map SavedAutomation.name →
    ∃ ids', AutomationStorage.create s a now ids = ⟨.error (.nameTaken a.name), s, ids'⟩ ∧
      ids.taken ≤ ids'.taken
  create_free {s : α} {as : List SavedAutomation} {a : Automation} {ids : Ids} (now : Moment) :
    Holds s as → a.flow.IsSettled → a.name ∉ as.map SavedAutomation.name →
    (ids.orNext a.id).1 ∉ as.map SavedAutomation.id →
    ∃ s', AutomationStorage.create s a now ids =
        ⟨.ok { a with id := (ids.orNext a.id).1, createdAt := some now, updatedAt := some now }, s',
          (ids.orNext a.id).2⟩ ∧
      Holds s' (as ++ [⟨(ids.orNext a.id).1, a.name, a.flow, now, now⟩])
  update_missing {s : α} {as : List SavedAutomation} {a : Automation} (now : Moment) : Holds s as →
    a.id ∉ as.map SavedAutomation.id → AutomationStorage.update s a now = (.error (.noAutomation a.id), s)
  update_taken {s : α} {as : List SavedAutomation} {a : Automation} (now : Moment) : Holds s as →
    a.id ∈ as.map SavedAutomation.id → (∃ b ∈ as, b.name = a.name ∧ b.id ≠ a.id) →
    AutomationStorage.update s a now = (.error (.nameTaken a.name), s)
  update_free {s : α} {as : List SavedAutomation} {a : Automation} {old : SavedAutomation} (now : Moment) :
    Holds s as → a.flow.IsSettled → old ∈ as → old.id = a.id →
    (∀ b ∈ as, b.name = a.name → b.id = a.id) →
    ∃ s', AutomationStorage.update s a now = (.ok ((old.revised a now).shown kept), s') ∧
      Holds s' (SavedAutomation.replace as (old.revised a now))
  delete_eq {s : α} {as : List SavedAutomation} (id : String) : Holds s as →
    ∃ s', AutomationStorage.delete s id = (as.any fun a => a.id == id, s') ∧
      Holds s' (as.filter fun a => a.id ≠ id)

/-! ## 2. Lists by id -/

namespace SavedAutomation

variable {as : List SavedAutomation}

theorem eq_of_id (h : (as.map SavedAutomation.id).Nodup) {a b : SavedAutomation} (ha : a ∈ as) (hb : b ∈ as)
    (hid : a.id = b.id) : a = b :=
  List.inj_on_of_nodup_map h ha hb hid

/-- Under its own id an automation is found. -/
theorem find?_of_mem (h : (as.map SavedAutomation.id).Nodup) {a : SavedAutomation} (ha : a ∈ as) :
    as.find? (fun b => b.id == a.id) = some a := by
  cases hfound : as.find? (fun b => b.id == a.id) with
  | none => exact absurd (beq_self_eq_true a.id) (List.find?_eq_none.mp hfound a ha)
  | some b =>
    have htest := List.find?_some hfound
    have hid : b.id = a.id := beq_iff_eq.mp htest
    rw [eq_of_id h (List.mem_of_find?_eq_some hfound) ha hid]

theorem find?_of_not_mem {id : String} (h : id ∉ as.map SavedAutomation.id) :
    as.find? (fun b => b.id == id) = none := by
  rw [List.find?_eq_none]
  intro b hb hid
  exact h (List.mem_map.mpr ⟨b, hb, beq_iff_eq.mp hid⟩)

theorem nodup_append {a : SavedAutomation} (h : (as.map SavedAutomation.id).Nodup)
    (ha : a.id ∉ as.map SavedAutomation.id) : ((as ++ [a]).map SavedAutomation.id).Nodup := by
  rw [List.map_append, List.map_singleton, List.nodup_append]
  refine ⟨h, List.nodup_singleton _, fun id hid id' hid' heq => ?_⟩
  rw [List.mem_singleton.mp hid'] at heq
  exact ha (heq ▸ hid)

theorem settled_append {a : SavedAutomation} (h : ∀ b ∈ as, b.flow.IsSettled) (ha : a.flow.IsSettled) :
    ∀ b ∈ as ++ [a], b.flow.IsSettled :=
  List.forall_mem_append.mpr ⟨h, List.forall_mem_singleton.mpr ha⟩

/-- A new version keeps the ids as they are. -/
theorem map_id_replace (as : List SavedAutomation) (a : SavedAutomation) :
    (replace as a).map SavedAutomation.id = as.map SavedAutomation.id := by
  unfold replace
  rw [List.map_map]
  refine List.map_congr_left fun b _ => ?_
  show (if b.id = a.id then a else b).id = b.id
  split
  · rename_i hid
    exact hid.symm
  · rfl

theorem eq_or_mem_of_mem_replace {a b : SavedAutomation} (h : b ∈ replace as a) : b = a ∨ b ∈ as ∧ b.id ≠ a.id := by
  obtain ⟨c, hc, rfl⟩ := List.mem_map.mp h
  by_cases hid : c.id = a.id
  · rw [if_pos hid]
    exact .inl rfl
  · rw [if_neg hid]
    exact .inr ⟨hc, hid⟩

theorem mem_replace {a old : SavedAutomation} (hold : old ∈ as) (hid : old.id = a.id) : a ∈ replace as a :=
  List.mem_map.mpr ⟨old, hold, if_pos hid⟩

theorem settled_replace {a : SavedAutomation} (ha : a.flow.IsSettled) (h : ∀ b ∈ as, b.flow.IsSettled) :
    ∀ b ∈ replace as a, b.flow.IsSettled := by
  intro b hb
  rcases eq_or_mem_of_mem_replace hb with rfl | ⟨hb, _⟩
  · exact ha
  · exact h b hb

end SavedAutomation

/-! ## 3. Automations in memory -/

namespace MemoryAutomations

/-- **What a store in memory holds**: every automation under its own id. -/
structure Holds (s : MemoryAutomations) (as : List SavedAutomation) : Prop where
  entries : s.items.entries = as.map fun a => (a.id, a.shown id)
  distinct : (as.map SavedAutomation.id).Nodup
  settled : ∀ a ∈ as, a.flow.IsSettled

variable {s : MemoryAutomations} {as : List SavedAutomation} {a : Automation}

theorem Holds.values (h : s.Holds as) : s.items.values = as.map (·.shown id) := by
  unfold Keyed.values
  rw [h.entries, List.map_map]
  rfl

theorem Holds.keys (h : s.Holds as) : s.items.entries.map Prod.fst = as.map SavedAutomation.id := by
  rw [h.entries, List.map_map]
  rfl

theorem Holds.get? (h : s.Holds as) (key : String) :
    s.items.get? key = (as.find? fun a => a.id == key).map (·.shown id) := by
  unfold Keyed.get?
  rw [h.entries]
  clear h
  induction as with
  | nil => rfl
  | cons a as ih =>
    rw [List.map_cons, Keyed.lookup, List.find?_cons]
    by_cases hid : a.id = key
    · rw [if_pos hid, beq_iff_eq.mpr hid]
      rfl
    · rw [if_neg hid, beq_false_of_ne hid, ih]

theorem Holds.nameTaken_iff (h : s.Holds as) (name : String) (except : Option String) :
    s.nameTaken name except = true ↔ ∃ b ∈ as, b.name = name ∧ some b.id ≠ except := by
  unfold nameTaken
  rw [h.values, List.any_map, List.any_eq_true]
  simp [SavedAutomation.shown]

theorem updateInstant_shown {b : SavedAutomation} {zone : Offset} (h : b.updatedAt.offset = some zone) :
    updateInstant (b.shown id) = Moment.shifted b.updatedAt.ticks zone := by
  show (Moment.instant? b.updatedAt).getD 0 = _
  unfold Moment.instant?
  rw [h]
  rfl

/-- A new version takes the place of the old one. -/
theorem Holds.put {old : SavedAutomation} (h : s.Holds as) (now : Moment) (hflow : a.flow.IsSettled)
    (hold : old ∈ as) (hid : old.id = a.id) :
    Holds ⟨s.items.put a.id ((old.revised a now).shown id)⟩
      (SavedAutomation.replace as (old.revised a now)) := by
  refine ⟨?_, ?_, SavedAutomation.settled_replace hflow h.settled⟩
  · have hmem : a.id ∈ s.items.entries.map Prod.fst := by
      rw [h.keys, ← hid]
      exact List.mem_map_of_mem hold
    show Keyed.putEntry a.id _ s.items.entries = _
    unfold SavedAutomation.replace
    rw [Keyed.putEntry_of_mem _ (h.keys ▸ h.distinct) hmem, h.entries, List.map_map, List.map_map, ← hid]
    refine List.map_congr_left fun b _ => ?_
    show (if b.id = old.id then _ else _) = (fun c : SavedAutomation => (c.id, c.shown id))
      (if b.id = old.id then old.revised a now else b)
    split <;> rfl
  · rw [SavedAutomation.map_id_replace]
    exact h.distinct

instance : LawfulAutomations MemoryAutomations where
  kept := id
  kept_eq _ := rfl
  Holds := Holds
  blank := empty
  holds_blank := ⟨rfl, List.nodup_nil, List.forall_mem_nil _⟩
  nodup_ids h := h.distinct
  settled h := h.settled
  get_eq key h := congrArg Except.ok (h.get? key)
  getByName_eq name h := by
    show Except.ok (_ : Option Automation) = _
    rw [h.values, List.find?_map]
    rfl
  list_perm h := by
    refine ⟨_, rfl, ?_⟩
    rw [h.values]
    exact List.mergeSort_perm _ _
  list_eq {s as zone} h hzone := by
    show Except.ok (latestFirst updateInstant s.items.values) = _
    rw [h.values]
    unfold latestFirst SavedAutomation.latestFirst
    rw [List.map_mergeSort]
    intro a ha b hb
    rw [updateInstant_shown (hzone a ha), updateInstant_shown (hzone b hb)]
    exact decide_eq_decide.mpr (by unfold Moment.shifted; omega)
  create_taken {s as a} now ids h hname := by
    have htaken : s.nameTaken a.name none = true := by
      obtain ⟨b, hb, hbname⟩ := List.mem_map.mp hname
      exact (h.nameTaken_iff a.name none).mpr ⟨b, hb, hbname, Option.some_ne_none _⟩
    refine ⟨ids, ?_, Nat.le_refl _⟩
    show create s a now ids = _
    unfold create
    rw [if_pos htaken]
  create_free {s as a ids} now h hflow hname hnew := by
    have hfree : ¬ s.nameTaken a.name none = true := fun htaken => by
      obtain ⟨b, hb, hbname, _⟩ := (h.nameTaken_iff a.name none).mp htaken
      exact hname (List.mem_map.mpr ⟨b, hb, hbname⟩)
    refine ⟨_, if_neg hfree, ?_, SavedAutomation.nodup_append h.distinct hnew,
      SavedAutomation.settled_append h.settled hflow⟩
    show Keyed.putEntry _ _ s.items.entries = _
    rw [Keyed.putEntry_of_new _ (by rw [h.keys]; exact hnew), h.entries, List.map_append]
    rfl
  update_missing {s as a} now h hid := by
    show update s a now = _
    unfold update
    rw [h.get?, SavedAutomation.find?_of_not_mem hid]
    rfl
  update_taken {s as a} now h hid hname := by
    obtain ⟨old, hold, holdid⟩ := List.mem_map.mp hid
    have hfound := SavedAutomation.find?_of_mem h.distinct hold
    rw [holdid] at hfound
    obtain ⟨b, hb, hbname, hbid⟩ := hname
    have htaken : s.nameTaken a.name (some a.id) = true :=
      (h.nameTaken_iff _ _).mpr ⟨b, hb, hbname, fun heq => hbid (Option.some.inj heq)⟩
    show update s a now = _
    unfold update
    rw [h.get?, hfound]
    exact if_pos htaken
  update_free {s as a old} now h hflow hold hid hname := by
    have hfound := SavedAutomation.find?_of_mem h.distinct hold
    rw [hid] at hfound
    have hfree : ¬ s.nameTaken a.name (some a.id) = true := fun htaken => by
      obtain ⟨b, hb, hbname, hbid⟩ := (h.nameTaken_iff _ _).mp htaken
      exact hbid (congrArg some (hname b hb hbname))
    refine ⟨_, ?_, h.put now hflow hold hid⟩
    show update s a now = _
    unfold update
    rw [h.get?, hfound]
    refine (if_neg hfree).trans ?_
    have hshown : (old.revised a now).shown id =
        { a with createdAt := some old.createdAt, updatedAt := some now } := by
      unfold SavedAutomation.shown SavedAutomation.revised
      rw [hid]
      rfl
    rw [hshown]
    rfl
  delete_eq {s as} key h := by
    refine ⟨⟨s.items.erase key⟩, ?_, ?_, ?_, fun a ha => h.settled a (List.mem_of_mem_filter ha)⟩
    · show (s.items.contains key, _) = _
      unfold Keyed.contains
      rw [h.get?, Option.isSome_map, List.isSome_find?]
    · show s.items.entries.filter (fun e => e.1 ≠ key) = _
      rw [h.entries, List.filter_map]
      rfl
    · exact h.distinct.sublist (List.Sublist.map _ List.filter_sublist)

end MemoryAutomations

/-! ## 4. Automations in a table -/

namespace AutomationTable

open ExecutionTable (columnKept)

/-- The row of an automation. -/
def rowOf (a : SavedAutomation) : AutomationRow :=
  ⟨a.id, a.name, Json.render a.flow.nodesDocument, Json.render a.flow.edgesDocument,
    momentColumn a.createdAt, momentColumn a.updatedAt⟩

/-- **What a table holds**: the rows of automations with different ids, in their order. -/
structure Holds (t : AutomationTable) (as : List SavedAutomation) : Prop where
  rows : t.rows = as.map rowOf
  distinct : (as.map SavedAutomation.id).Nodup
  settled : ∀ a ∈ as, a.flow.IsSettled

variable {t : AutomationTable} {as : List SavedAutomation} {a : Automation}

theorem automationOf_rowOf {b : SavedAutomation} (h : b.flow.IsSettled) :
    automationOf (rowOf b) = .ok (b.shown columnKept) := by
  unfold automationOf rowOf
  dsimp only
  rw [flowOfColumns_of_isSettled h]
  rfl

theorem automationsOf_map (h : ∀ b ∈ as, b.flow.IsSettled) :
    automationsOf (as.map rowOf) = .ok (as.map (·.shown columnKept)) := by
  induction as with
  | nil => rfl
  | cons b bs ih =>
    rw [List.map_cons, automationsOf, automationOf_rowOf (h b List.mem_cons_self),
      ih fun c hc => h c (List.mem_cons_of_mem b hc)]
    rfl

theorem Holds.fetch (h : t.Holds as) (p : AutomationRow → Bool) :
    t.fetch p = .ok ((as.find? fun b => p (rowOf b)).map (·.shown columnKept)) := by
  unfold AutomationTable.fetch
  rw [h.rows, List.find?_map]
  cases hfound : as.find? (p ∘ rowOf) with
  | none =>
    rw [Option.map_none, show (as.find? fun b => p (rowOf b)) = none from hfound]
    rfl
  | some b =>
    rw [Option.map_some, show (as.find? fun b => p (rowOf b)) = some b from hfound]
    show (automationOf (rowOf b)).map some = _
    rw [automationOf_rowOf (h.settled b (List.mem_of_find?_eq_some hfound))]
    rfl

theorem Holds.any_rows (h : t.Holds as) (p : AutomationRow → Bool) :
    t.rows.any p = as.any fun b => p (rowOf b) := by
  rw [h.rows, List.any_map]
  rfl

theorem Holds.isThere_iff (h : t.Holds as) (id : String) :
    (t.rows.any fun r => r.id == id) = true ↔ id ∈ as.map SavedAutomation.id := by
  rw [h.any_rows, List.any_eq_true, List.mem_map]
  exact exists_congr fun b => and_congr_right fun _ => beq_iff_eq

theorem Holds.isTaken_iff (h : t.Holds as) (a : Automation) :
    (t.rows.any fun r => r.name == a.name && r.id != a.id) = true ↔
      ∃ b ∈ as, b.name = a.name ∧ b.id ≠ a.id := by
  rw [h.any_rows, List.any_eq_true]
  refine exists_congr fun b => and_congr_right fun _ => ?_
  rw [Bool.and_eq_true, beq_iff_eq, bne_iff_ne]
  rfl

/-- The rows are listed in the order of their columns. -/
theorem Holds.list_eq (h : t.Holds as) : AutomationStorage.list t =
    .ok ((as.mergeSort fun b c => !(momentColumn b.updatedAt < momentColumn c.updatedAt)).map
      (·.shown columnKept)) := by
  have hsorted : descending AutomationRow.updatedAt t.rows =
      (as.mergeSort fun b c => !(momentColumn b.updatedAt < momentColumn c.updatedAt)).map rowOf := by
    unfold descending
    rw [h.rows]
    exact Eq.symm (List.map_mergeSort (f := rowOf) fun _ _ _ _ => rfl)
  show automationsOf (descending AutomationRow.updatedAt t.rows) = _
  rw [hsorted]
  exact automationsOf_map fun b hb => h.settled b (List.mem_mergeSort.mp hb)

/-- A new version takes the place of the old one. -/
theorem Holds.revise {old : SavedAutomation} (h : t.Holds as) (now : Moment) (hflow : a.flow.IsSettled)
    (hold : old ∈ as) (hid : old.id = a.id) :
    Holds ⟨t.rows.map fun r => if r.id = a.id then revisedRow a now r else r⟩
      (SavedAutomation.replace as (old.revised a now)) := by
  refine ⟨?_, ?_, SavedAutomation.settled_replace hflow h.settled⟩
  · show t.rows.map _ = _
    unfold SavedAutomation.replace
    rw [h.rows, List.map_map, List.map_map, ← hid]
    refine List.map_congr_left fun b hb => ?_
    show (if b.id = old.id then revisedRow a now (rowOf b) else rowOf b) =
      rowOf (if b.id = old.id then old.revised a now else b)
    by_cases hbid : b.id = old.id
    · rw [if_pos hbid, if_pos hbid, SavedAutomation.eq_of_id h.distinct hb hold hbid]
      rfl
    · rw [if_neg hbid, if_neg hbid]
  · rw [SavedAutomation.map_id_replace]
    exact h.distinct

instance : LawfulAutomations AutomationTable where
  kept := columnKept
  kept_eq := ExecutionTable.columnKept_of_anchored
  Holds := Holds
  blank := empty
  holds_blank := ⟨rfl, List.nodup_nil, List.forall_mem_nil _⟩
  nodup_ids h := h.distinct
  settled h := h.settled
  get_eq _ h := h.fetch _
  getByName_eq _ h := h.fetch _
  list_perm h := ⟨_, h.list_eq, (List.mergeSort_perm _ _).map _⟩
  list_eq {t as zone} h hzone := by
    have horder : (as.mergeSort fun b c => !(momentColumn b.updatedAt < momentColumn c.updatedAt)) =
        SavedAutomation.latestFirst as :=
      mergeSort_congr fun b hb c hc => Moment.not_render_lt ((hzone b hb).trans (hzone c hc).symm)
    rw [h.list_eq, horder]
  create_taken {t as a} now ids h hname := by
    obtain ⟨b, hb, hbname⟩ := List.mem_map.mp hname
    have htaken : (t.rows.any fun r => r.id == (ids.orNext a.id).1 || r.name == a.name) = true := by
      rw [h.any_rows, List.any_eq_true]
      exact ⟨b, hb, by rw [show (rowOf b).name = a.name from hbname, beq_self_eq_true, Bool.or_true]⟩
    exact ⟨(ids.orNext a.id).2, if_pos htaken, ids.taken_le_orNext a.id⟩
  create_free {t as a ids} now h hflow hname hnew := by
    have hfree : ¬ (t.rows.any fun r => r.id == (ids.orNext a.id).1 || r.name == a.name) = true := by
      rw [h.any_rows, List.any_eq_true]
      rintro ⟨b, hb, htaken⟩
      rcases (Bool.or_eq_true _ _).mp htaken with hid | hbname
      · exact hnew (List.mem_map.mpr ⟨b, hb, beq_iff_eq.mp hid⟩)
      · exact hname (List.mem_map.mpr ⟨b, hb, beq_iff_eq.mp hbname⟩)
    refine ⟨_, if_neg hfree, ?_, SavedAutomation.nodup_append h.distinct hnew,
      SavedAutomation.settled_append h.settled hflow⟩
    show t.rows ++ _ = _
    rw [h.rows, List.map_append]
    rfl
  update_missing {t as a} now h hid := by
    have hmissing : (t.rows.any fun r => r.id == a.id) = false :=
      Bool.eq_false_iff.mpr (mt (h.isThere_iff a.id).mp hid)
    show update t a now = _
    unfold update
    rw [hmissing]
    rfl
  update_taken {t as a} now h hid hname := by
    show update t a now = _
    unfold update
    rw [(h.isThere_iff a.id).mpr hid, (h.isTaken_iff a).mpr hname]
    rfl
  update_free {t as a old} now h hflow hold hid hname := by
    have hthere := (h.isThere_iff a.id).mpr (hid ▸ List.mem_map_of_mem hold)
    have hfree : (t.rows.any fun r => r.name == a.name && r.id != a.id) = false := by
      refine Bool.eq_false_iff.mpr fun htaken => ?_
      obtain ⟨b, hb, hbname, hbid⟩ := (h.isTaken_iff a).mp htaken
      exact hbid (hname b hb hbname)
    have hnew := h.revise now hflow hold hid
    have hmem := SavedAutomation.mem_replace (a := old.revised a now) hold rfl
    have hfound := SavedAutomation.find?_of_mem hnew.distinct hmem
    rw [show (old.revised a now).id = a.id from hid] at hfound
    have hfetch := (hnew.fetch fun r => r.id == a.id).trans
      (congrArg (fun o : Option SavedAutomation => Except.ok (o.map (·.shown columnKept))) hfound)
    refine ⟨_, ?_, hnew⟩
    show update t a now = _
    unfold update
    rw [hthere, hfree]
    simp only [hfetch]
    rfl
  delete_eq {t as} key h := by
    refine ⟨⟨t.rows.filter fun r => r.id ≠ key⟩, ?_, ?_, ?_, fun a ha => h.settled a (List.mem_of_mem_filter ha)⟩
    · show (t.rows.any fun r => r.id == key, _) = _
      rw [h.any_rows]
      rfl
    · show t.rows.filter _ = _
      rw [h.rows, List.filter_map]
      rfl
    · exact h.distinct.sublist (List.Sublist.map _ List.filter_sublist)

end AutomationTable

end Dripline
