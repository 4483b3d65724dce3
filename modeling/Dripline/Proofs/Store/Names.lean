import Dripline.Proofs.Document.RoundTrip
import Dripline.Proofs.Store.Automations

/-!
# Automations by name

What a store does with names, whatever the automations in it are:

* `NamedAutomations`: an index of ids and names, in the order in which a name is looked for. A name
  is found where the index has it first; a new automation is added at the end; a new version keeps
  its place;
* of the flows in the store nothing is asked, only the one that is written has to be settled.

Automations in memory and rows of text columns both are such stores.
-/

namespace Dripline

/-! ## 1. The laws -/

/-- The automation `b` that a store answers with is `a` under an id, and can be read again. -/
structure IsStoredAs {α : Type} [AutomationStorage α] (s : α) (key : String) (a b : Automation) :
    Prop where
  id : b.id = key
  name : b.name = a.name
  flow : b.flow = a.flow
  readable : ∃ c, AutomationStorage.get s key = .ok (some c)

/-- **A store that finds automations by name.** -/
class NamedAutomations (α : Type) [AutomationStorage α] where
  /-- The ids with their names, in the order in which a name is looked for. -/
  index : α → List (String × String)
  /-- What the operations keep. -/
  Sound : α → Prop
  nodup_ids {s : α} : Sound s → ((index s).map Prod.fst).Nodup
  eq_of_get {s : α} {id : String} {a : Automation} : Sound s →
    AutomationStorage.get s id = .ok (some a) → a.id = id ∧ (id, a.name) ∈ index s
  get_ne_none {s : α} {id : String} : Sound s → id ∈ (index s).map Prod.fst →
    AutomationStorage.get s id ≠ .ok none
  getByName_eq {s : α} (name : String) : Sound s → AutomationStorage.getByName s name =
    match (index s).find? fun e => e.2 == name with
    | none => .ok none
    | some e => AutomationStorage.get s e.1
  create_taken {s : α} {a : Automation} (now : Moment) (ids : Ids) : Sound s →
    a.name ∈ (index s).map Prod.snd →
    ∃ ids', AutomationStorage.create s a now ids = ⟨.error (.nameTaken a.name), s, ids'⟩
  create_free {s : α} {a : Automation} {ids : Ids} (now : Moment) : Sound s → a.flow.IsSettled →
    a.name ∉ (index s).map Prod.snd → (ids.orNext a.id).1 ∉ (index s).map Prod.fst →
    ∃ b s', AutomationStorage.create s a now ids = ⟨.ok b, s', (ids.orNext a.id).2⟩ ∧ Sound s' ∧
      index s' = index s ++ [((ids.orNext a.id).1, a.name)] ∧
      IsStoredAs s' (ids.orNext a.id).1 a b
  unique_of_update {s : α} {a b : Automation} {now : Moment} : Sound s →
    (AutomationStorage.update s a now).1 = .ok b → ∀ e ∈ index s, e.2 = a.name → e.1 = a.id
  update_free {s : α} {a : Automation} (now : Moment) : Sound s → a.flow.IsSettled →
    a.id ∈ (index s).map Prod.fst → (∀ e ∈ index s, e.2 = a.name → e.1 = a.id) →
    ∃ b s', AutomationStorage.update s a now = (.ok b, s') ∧ Sound s' ∧
      index s' = (index s).map (fun e => if e.1 = a.id then (a.id, a.name) else e) ∧
      IsStoredAs s' a.id a b

/-! ## 2. Automations in memory -/

namespace MemoryAutomations

/-- The ids and names in memory. -/
def nameIndex (s : MemoryAutomations) : List (String × String) :=
  s.items.entries.map fun e => (e.1, e.2.name)

/-- Every automation is kept under its own id. -/
structure IsKeyed (s : MemoryAutomations) : Prop where
  distinct : (s.items.entries.map Prod.fst).Nodup
  own : ∀ e ∈ s.items.entries, e.2.id = e.1

variable {s : MemoryAutomations} {a : Automation}

theorem map_fst_nameIndex (s : MemoryAutomations) :
    s.nameIndex.map Prod.fst = s.items.entries.map Prod.fst := by
  unfold nameIndex
  rw [List.map_map]
  rfl

theorem nameTaken_none_iff (s : MemoryAutomations) (name : String) :
    s.nameTaken name none = true ↔ name ∈ s.nameIndex.map Prod.snd := by
  unfold nameTaken nameIndex Keyed.values
  simp

theorem nameTaken_some_iff (h : s.IsKeyed) (name id : String) :
    s.nameTaken name (some id) = true ↔ ∃ e ∈ s.nameIndex, e.2 = name ∧ e.1 ≠ id := by
  unfold nameTaken nameIndex Keyed.values
  rw [List.any_map, List.any_eq_true]
  constructor
  · rintro ⟨e, he, htest⟩
    obtain ⟨hname, hid⟩ := (Bool.and_eq_true _ _).mp htest
    refine ⟨_, List.mem_map_of_mem he, beq_iff_eq.mp hname, fun heq => ?_⟩
    exact bne_iff_ne.mp hid (congrArg some ((h.own e he).trans heq))
  · rintro ⟨_, hmem, rfl, hid⟩
    obtain ⟨e, he, rfl⟩ := List.mem_map.mp hmem
    refine ⟨e, he, (Bool.and_eq_true _ _).mpr ⟨beq_self_eq_true _, bne_iff_ne.mpr fun heq => ?_⟩⟩
    exact hid ((h.own e he).symm.trans (Option.some.inj heq))

/-- A version under a key that is there takes its place. -/
theorem IsKeyed.put (h : s.IsKeyed) (hmem : a.id ∈ s.items.entries.map Prod.fst) :
    IsKeyed ⟨s.items.put a.id a⟩ ∧ nameIndex ⟨s.items.put a.id a⟩ =
      s.nameIndex.map fun e => if e.1 = a.id then (a.id, a.name) else e := by
  refine ⟨⟨Keyed.nodup_keys_putEntry a.id a h.distinct, ?_⟩, ?_⟩
  · show ∀ e ∈ Keyed.putEntry a.id a s.items.entries, e.2.id = e.1
    rw [Keyed.putEntry_of_mem a h.distinct hmem, List.forall_mem_map]
    intro e he
    split
    · rfl
    · exact h.own e he
  · show (Keyed.putEntry a.id a s.items.entries).map _ = _
    unfold nameIndex
    rw [Keyed.putEntry_of_mem a h.distinct hmem, List.map_map, List.map_map]
    refine List.map_congr_left fun e _ => ?_
    show (fun e : String × Automation => (e.1, e.2.name)) (if e.1 = a.id then (a.id, a) else e) =
      if e.1 = a.id then (a.id, a.name) else (e.1, e.2.name)
    split <;> rfl

instance : NamedAutomations MemoryAutomations where
  index := nameIndex
  Sound := IsKeyed
  nodup_ids {s} h := by
    rw [map_fst_nameIndex]
    exact h.distinct
  eq_of_get {s id a} h hget := by
    have hmem := Keyed.mem_of_lookup (Except.ok.inj hget)
    exact ⟨h.own _ hmem, List.mem_map.mpr ⟨(id, a), hmem, rfl⟩⟩
  get_ne_none {s id} h hmem hget := by
    rw [map_fst_nameIndex] at hmem
    exact Keyed.not_mem_keys_of_lookup (Except.ok.inj hget) hmem
  getByName_eq {s} name h := by
    show Except.ok (s.items.values.find? _) = _
    unfold Keyed.values nameIndex
    rw [List.find?_map, List.find?_map]
    show Except.ok ((s.items.entries.find? fun e => e.2.name == name).map Prod.snd) =
      match (s.items.entries.find? fun e => e.2.name == name).map fun e => (e.1, e.2.name) with
      | none => .ok none
      | some e => .ok (s.items.get? e.1)
    cases hfound : s.items.entries.find? fun e => e.2.name == name with
    | none => rfl
    | some e =>
      exact congrArg Except.ok
        (Keyed.lookup_of_mem h.distinct (List.mem_of_find?_eq_some hfound)).symm
  create_taken {s a} now ids h hname := by
    exact ⟨ids, if_pos ((nameTaken_none_iff s a.name).mpr hname)⟩
  create_free {s a ids} now h hflow hname hnew := by
    have hfree : ¬ s.nameTaken a.name none = true := mt (nameTaken_none_iff s a.name).mp hname
    rw [map_fst_nameIndex] at hnew
    let b : Automation :=
      { a with id := (ids.orNext a.id).1, createdAt := some now, updatedAt := some now }
    have hcreate : create s a now ids = ⟨.ok b, ⟨s.items.put b.id b⟩, (ids.orNext a.id).2⟩ :=
      if_neg hfree
    have hentries : (s.items.put b.id b).entries = s.items.entries ++ [(b.id, b)] :=
      Keyed.putEntry_of_new b hnew
    refine ⟨b, _, hcreate, ⟨?_, ?_⟩, ?_, rfl, rfl, rfl, b, ?_⟩
    · exact Keyed.nodup_keys_putEntry b.id b h.distinct
    · rw [hentries, List.forall_mem_append]
      exact ⟨h.own, List.forall_mem_singleton.mpr rfl⟩
    · unfold nameIndex
      rw [hentries, List.map_append]
      rfl
    · show Except.ok ((s.items.put b.id b).get? b.id) = _
      rw [Keyed.get?_put, if_pos rfl]
  unique_of_update {s a b now} h hupdate e he hname := by
    change (update s a now).1 = _ at hupdate
    unfold update at hupdate
    split at hupdate
    · cases hupdate
    · split at hupdate
      · cases hupdate
      · rename_i hfree
        by_contra hid
        exact hfree ((nameTaken_some_iff h a.name a.id).mpr ⟨e, he, hname, hid⟩)
  update_free {s a} now h hflow hid hname := by
    rw [map_fst_nameIndex] at hid
    have hfree : ¬ s.nameTaken a.name (some a.id) = true := fun htaken => by
      obtain ⟨e, he, hename, heid⟩ := (nameTaken_some_iff h a.name a.id).mp htaken
      exact heid (hname e he hename)
    cases hcurrent : s.items.get? a.id with
    | none => exact absurd hid (Keyed.not_mem_keys_of_lookup hcurrent)
    | some current =>
      let b : Automation := { a with createdAt := current.createdAt, updatedAt := some now }
      have hupdate : update s a now = (.ok b, ⟨s.items.put b.id b⟩) := by
        unfold update
        rw [hcurrent]
        exact if_neg hfree
      obtain ⟨hkeyed, hindex⟩ := h.put (a := b) hid
      refine ⟨b, _, hupdate, hkeyed, hindex, rfl, rfl, rfl, b, ?_⟩
      show Except.ok ((s.items.put b.id b).get? b.id) = _
      rw [Keyed.get?_put, if_pos rfl]

end MemoryAutomations

/-! ## 3. Automations in a table -/

namespace AutomationTable

/-- The ids and names of rows. -/
def nameIndex (t : AutomationTable) : List (String × String) := t.rows.map fun r => (r.id, r.name)

/-- No id has two rows. -/
def IsKeyed (t : AutomationTable) : Prop := (t.rows.map AutomationRow.id).Nodup

variable {t : AutomationTable} {a : Automation}

theorem map_fst_nameIndex (t : AutomationTable) :
    t.nameIndex.map Prod.fst = t.rows.map AutomationRow.id := by
  unfold nameIndex
  rw [List.map_map]
  rfl

/-- The row under an id is the only one. -/
theorem IsKeyed.find?_of_mem (h : t.IsKeyed) {r : AutomationRow} (hr : r ∈ t.rows) :
    t.rows.find? (fun q => q.id == r.id) = some r := by
  cases hfound : t.rows.find? fun q => q.id == r.id with
  | none => exact absurd (beq_self_eq_true r.id) (List.find?_eq_none.mp hfound r hr)
  | some q =>
    have htest := List.find?_some hfound
    have hid : q.id = r.id := beq_iff_eq.mp htest
    rw [List.inj_on_of_nodup_map h (List.mem_of_find?_eq_some hfound) hr hid]

/-- A row is read as an automation with its id and its name. -/
theorem eq_of_automationOf {r : AutomationRow} (h : automationOf r = .ok a) :
    a.id = r.id ∧ a.name = r.name := by
  unfold automationOf at h
  obtain ⟨flow, _, rfl⟩ := map_eq_ok h
  exact ⟨rfl, rfl⟩

/-- A row whose columns hold a settled flow is read. -/
theorem automationOf_of_isSettled {r : AutomationRow} {f : Flow} (hf : f.IsSettled)
    (hnodes : r.nodes = Json.render f.nodesDocument)
    (hedges : r.edges = Json.render f.edgesDocument) :
    automationOf r =
      .ok ⟨r.id, r.name, f, some (columnMoment r.createdAt), some (columnMoment r.updatedAt)⟩ := by
  unfold automationOf
  rw [hnodes, hedges, flowOfColumns_of_isSettled hf]
  rfl

/-- What is fetched is read from a row that satisfies the test. -/
theorem mem_of_fetch {p : AutomationRow → Bool} (h : t.fetch p = .ok (some a)) :
    ∃ r ∈ t.rows, p r = true ∧ a.id = r.id ∧ a.name = r.name := by
  unfold fetch at h
  split at h
  · cases h
  · rename_i r hfound
    obtain ⟨b, hread, hb⟩ := map_eq_ok h
    cases hb
    exact ⟨r, List.mem_of_find?_eq_some hfound, List.find?_some hfound, eq_of_automationOf hread⟩

/-- Whether a row has an id, by the index. -/
theorem isThere_iff (t : AutomationTable) (id : String) :
    (t.rows.any fun r => r.id == id) = true ↔ id ∈ t.nameIndex.map Prod.fst := by
  rw [map_fst_nameIndex, List.any_eq_true, List.mem_map]
  exact exists_congr fun r => and_congr_right fun _ => beq_iff_eq

/-- Whether another row has a name, by the index. -/
theorem isTaken_iff (t : AutomationTable) (a : Automation) :
    (t.rows.any fun r => r.name == a.name && r.id != a.id) = true ↔
      ∃ e ∈ t.nameIndex, e.2 = a.name ∧ e.1 ≠ a.id := by
  simp only [nameIndex, List.any_eq_true, List.mem_map, exists_exists_and_eq_and, Bool.and_eq_true,
    beq_iff_eq, bne_iff_ne]

/-- The rows with a new version in its place. -/
def revisedRows (t : AutomationTable) (a : Automation) (now : Moment) : AutomationTable :=
  ⟨t.rows.map fun r => if r.id = a.id then revisedRow a now r else r⟩

theorem nameIndex_revisedRows (t : AutomationTable) (a : Automation) (now : Moment) :
    (t.revisedRows a now).nameIndex =
      t.nameIndex.map fun e => if e.1 = a.id then (a.id, a.name) else e := by
  unfold nameIndex revisedRows
  rw [List.map_map, List.map_map]
  refine List.map_congr_left fun r _ => ?_
  show (fun r : AutomationRow => (r.id, r.name)) (if r.id = a.id then revisedRow a now r else r) =
    if r.id = a.id then (a.id, a.name) else (r.id, r.name)
  split
  · rename_i hid
    exact congrArg (·, a.name) hid
  · rfl

theorem IsKeyed.revisedRows (h : t.IsKeyed) (a : Automation) (now : Moment) :
    (t.revisedRows a now).IsKeyed := by
  have hids : (t.revisedRows a now).rows.map AutomationRow.id = t.rows.map AutomationRow.id := by
    unfold AutomationTable.revisedRows
    rw [List.map_map]
    refine List.map_congr_left fun r _ => ?_
    show (if r.id = a.id then revisedRow a now r else r).id = r.id
    split <;> rfl
  unfold IsKeyed
  rw [hids]
  exact h

instance : NamedAutomations AutomationTable where
  index := nameIndex
  Sound := IsKeyed
  nodup_ids {t} h := by
    rw [map_fst_nameIndex]
    exact h
  eq_of_get {t id a} _ hget := by
    obtain ⟨r, hr, htest, hid, hname⟩ := mem_of_fetch hget
    have hrid : r.id = id := beq_iff_eq.mp htest
    exact ⟨hid.trans hrid, List.mem_map.mpr ⟨r, hr, by rw [hrid, hname]⟩⟩
  get_ne_none {t id} h hmem hget := by
    rw [map_fst_nameIndex] at hmem
    obtain ⟨r, hr, rfl⟩ := List.mem_map.mp hmem
    obtain ⟨b, _, hb⟩ := map_eq_ok ((fetch_of_find? (h.find?_of_mem hr)).symm.trans hget)
    cases hb
  getByName_eq {t} name h := by
    show t.fetch _ = _
    unfold nameIndex
    rw [List.find?_map]
    cases hfound : t.rows.find? fun r => r.name == name with
    | none =>
      rw [show t.rows.find? ((fun e : String × String => e.2 == name) ∘ fun r => (r.id, r.name)) = none
        from hfound]
      unfold fetch
      rw [hfound]
      rfl
    | some r =>
      rw [show t.rows.find? ((fun e : String × String => e.2 == name) ∘ fun r => (r.id, r.name)) =
        some r from hfound]
      exact (fetch_of_find? hfound).trans
        (fetch_of_find? (h.find?_of_mem (List.mem_of_find?_eq_some hfound))).symm
  create_taken {t a} now ids h hname := by
    have htaken : (t.rows.any fun r => r.id == (ids.orNext a.id).1 || r.name == a.name) = true := by
      unfold nameIndex at hname
      rw [List.map_map] at hname
      obtain ⟨r, hr, hrname⟩ := List.mem_map.mp hname
      refine List.any_eq_true.mpr ⟨r, hr, (Bool.or_eq_true _ _).mpr (.inr ?_)⟩
      exact beq_iff_eq.mpr hrname
    exact ⟨(ids.orNext a.id).2, if_pos htaken⟩
  create_free {t a ids} now h hflow hname hnew := by
    have hfree : ¬ (t.rows.any fun r => r.id == (ids.orNext a.id).1 || r.name == a.name) = true := by
      rw [List.any_eq_true]
      rintro ⟨r, hr, htaken⟩
      rcases (Bool.or_eq_true _ _).mp htaken with hid | hrname
      · exact hnew (List.mem_map.mpr ⟨_, List.mem_map_of_mem hr, beq_iff_eq.mp hid⟩)
      · exact hname (List.mem_map.mpr ⟨_, List.mem_map_of_mem hr, beq_iff_eq.mp hrname⟩)
    let row : AutomationRow := ⟨(ids.orNext a.id).1, a.name, Json.render a.flow.nodesDocument,
      Json.render a.flow.edgesDocument, momentColumn now, momentColumn now⟩
    let b : Automation := { a with id := row.id, createdAt := some now, updatedAt := some now }
    have hcreate : create t a now ids = ⟨.ok b, ⟨t.rows ++ [row]⟩, (ids.orNext a.id).2⟩ :=
      if_neg hfree
    have hkeyed : IsKeyed ⟨t.rows ++ [row]⟩ := by
      rw [map_fst_nameIndex] at hnew
      show ((t.rows ++ [row]).map AutomationRow.id).Nodup
      rw [List.map_append]
      exact List.Nodup.append h (List.nodup_singleton _) (List.disjoint_singleton.mpr hnew)
    have hfound := hkeyed.find?_of_mem (r := row) (List.mem_append_right _ (List.mem_singleton_self row))
    have hfetch := (fetch_of_find? hfound).trans
      (congrArg (Except.map some) (automationOf_of_isSettled hflow rfl rfl))
    refine ⟨b, _, hcreate, hkeyed, ?_, rfl, rfl, rfl, _, hfetch⟩
    unfold nameIndex
    rw [List.map_append]
    rfl
  unique_of_update {t a b now} h hupdate e he hname := by
    change (update t a now).1 = _ at hupdate
    unfold update at hupdate
    split at hupdate
    · cases hupdate
    · split at hupdate
      · cases hupdate
      · rename_i hfree
        by_contra hid
        exact hfree ((isTaken_iff t a).mpr ⟨e, he, hname, hid⟩)
  update_free {t a} now h hflow hid hname := by
    have hthere := (isThere_iff t a.id).mpr hid
    have hfree : (t.rows.any fun r => r.name == a.name && r.id != a.id) = false := by
      refine Bool.eq_false_iff.mpr fun htaken => ?_
      obtain ⟨e, he, hename, heid⟩ := (isTaken_iff t a).mp htaken
      exact heid (hname e he hename)
    have hkeyed := h.revisedRows a now
    obtain ⟨r, hr, hrid⟩ := List.any_eq_true.mp hthere
    have hrow : revisedRow a now r ∈ (t.revisedRows a now).rows :=
      List.mem_map.mpr ⟨r, hr, if_pos (beq_iff_eq.mp hrid)⟩
    have hfound := hkeyed.find?_of_mem hrow
    rw [show (revisedRow a now r).id = a.id from beq_iff_eq.mp hrid] at hfound
    have hfetch := (fetch_of_find? hfound).trans
      (congrArg (Except.map some) (automationOf_of_isSettled hflow rfl rfl))
    let b : Automation := ⟨r.id, a.name, a.flow, some (columnMoment r.createdAt),
      some (columnMoment (momentColumn now))⟩
    refine ⟨b, t.revisedRows a now, ?_, hkeyed, nameIndex_revisedRows t a now,
      beq_iff_eq.mp hrid, rfl, rfl, b, hfetch⟩
    show update t a now = _
    unfold update
    rw [hthere, hfree]
    unfold revisedRows at hfetch
    simp only [hfetch]
    rfl

end AutomationTable

end Dripline
