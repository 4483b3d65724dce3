import Dripline.Proofs.Authoring.Plan

/-!
# What is refused changes nothing

In any state of a store, also in one that no edits lead to:

* `AtomicAutomations`: an operation of the store that is refused leaves it as it was. A table writes the
  columns of a new version before it reads them back; it does so from a settled flow only, which comes
  back (`flowOfColumns_of_isSettled`);
* `flow_of_revision`: the flow of a new version was described, or it was read from the store;
* **`perform_refused`**: an edit that is refused leaves the store as it was.

An id that was taken for an automation whose name turned out to be taken is not given back.
-/

namespace Dripline

/-! ## 1. Stores -/

/-- A flow that was read from a store. -/
def IsReadFrom {α : Type} [AutomationStorage α] (s : α) (f : Flow) : Prop :=
  ∃ id a, AutomationStorage.get s id = .ok (some a) ∧ a.flow = f

/-- **A store of automations that does what it is asked for, or nothing.** -/
class AtomicAutomations (α : Type) [AutomationStorage α] : Prop where
  create_refused {s : α} {a : Automation} {now : Moment} {ids : Ids} {fault : Fault} :
    (AutomationStorage.create s a now ids).result = .error fault →
    (AutomationStorage.create s a now ids).store = s
  update_refused {s : α} {a : Automation} {now : Moment} {fault : Fault} :
    a.flow.IsSettled ∨ IsReadFrom s a.flow →
    (AutomationStorage.update s a now).1 = .error fault → (AutomationStorage.update s a now).2 = s
  delete_missing {s : α} {id : String} :
    (AutomationStorage.delete s id).1 = false → (AutomationStorage.delete s id).2 = s

namespace MemoryAutomations

theorem erase_of_missing {s : MemoryAutomations} {id : String} (h : s.items.contains id = false) :
    s.items.erase id = s.items := by
  have hnone : Keyed.lookup id s.items.entries = none := Option.isSome_eq_false_iff.mp h |> Option.isNone_iff_eq_none.mp
  unfold Keyed.erase
  congr 1
  refine List.filter_eq_self.mpr fun e he => decide_eq_true fun hid => ?_
  exact Keyed.not_mem_keys_of_lookup hnone (hid ▸ List.mem_map_of_mem he)

instance : AtomicAutomations MemoryAutomations where
  create_refused {s a now ids fault} h := by
    replace h : (create s a now ids).result = .error fault := h
    show (create s a now ids).store = s
    unfold create at h ⊢
    split
    · rfl
    · rename_i hfree
      rw [if_neg hfree] at h
      cases h
  update_refused {s a now fault} _ h := by
    replace h : (update s a now).1 = .error fault := h
    show (update s a now).2 = s
    unfold update at h ⊢
    cases hcurrent : s.items.get? a.id with
    | none => rfl
    | some current =>
      rw [hcurrent] at h
      dsimp only at h ⊢
      split
      · rfl
      · rename_i hfree
        rw [if_neg hfree] at h
        cases h
  delete_missing {s id} h := by
    show (⟨s.items.erase id⟩ : MemoryAutomations) = s
    rw [erase_of_missing h]

end MemoryAutomations

namespace AutomationTable

/-- What is read from a table is settled, since it was read from its columns. -/
theorem isSettled_of_isReadFrom {t : AutomationTable} {f : Flow} (h : IsReadFrom t f) : f.IsSettled := by
  obtain ⟨id, a, hget, rfl⟩ := h
  replace hget : t.fetch (fun r => r.id == id) = .ok (some a) := hget
  unfold fetch at hget
  cases hfound : t.rows.find? fun r => r.id == id with
  | none =>
    rw [hfound] at hget
    cases hget
  | some r =>
    rw [hfound] at hget
    obtain ⟨b, hread, hsome⟩ := map_eq_ok (hget : (automationOf r).map some = .ok (some a))
    cases hsome
    unfold automationOf at hread
    obtain ⟨flow, hflow, rfl⟩ := map_eq_ok hread
    exact Flow.isSettled_of_ofLists (mapError_eq_ok hflow)

/-- **A new version of a settled flow is read back** from its row. -/
theorem fetch_revised {t : AutomationTable} {a : Automation} (now : Moment) (hflow : a.flow.IsSettled)
    (hthere : (t.rows.any fun r => r.id == a.id) = true) :
    ∃ b, fetch ⟨t.rows.map fun r => if r.id = a.id then revisedRow a now r else r⟩
      (fun r => r.id == a.id) = .ok (some b) := by
  have hid (r : AutomationRow) : (if r.id = a.id then revisedRow a now r else r).id = r.id := by
    split <;> rfl
  unfold fetch
  dsimp only
  rw [List.find?_map]
  simp only [Function.comp_def, hid]
  cases hfound : t.rows.find? fun r => r.id == a.id with
  | none =>
    rw [← List.isSome_find?, hfound] at hthere
    cases hthere
  | some r =>
    have htest := List.find?_some hfound
    rw [Option.map_some, if_pos (beq_iff_eq.mp htest)]
    refine ⟨⟨r.id, a.name, a.flow, some (columnMoment r.createdAt), some (columnMoment (momentColumn now))⟩, ?_⟩
    show (automationOf (revisedRow a now r)).map some = _
    unfold automationOf revisedRow
    dsimp only
    rw [flowOfColumns_of_isSettled hflow]
    rfl

instance : AtomicAutomations AutomationTable where
  create_refused {t a now ids fault} h := by
    replace h : (create t a now ids).result = .error fault := h
    show (create t a now ids).store = t
    unfold create at h ⊢
    dsimp only at h ⊢
    split
    · rfl
    · rename_i hfree
      rw [if_neg hfree] at h
      cases h
  update_refused {t a now fault} hflow h := by
    replace h : (update t a now).1 = .error fault := h
    show (update t a now).2 = t
    have hsettled : a.flow.IsSettled := hflow.elim id isSettled_of_isReadFrom
    unfold update at h ⊢
    cases hthere : t.rows.any fun r => r.id == a.id with
    | false => rfl
    | true =>
      rw [hthere] at h
      cases htaken : t.rows.any fun r => r.name == a.name && r.id != a.id with
      | true => rfl
      | false =>
        obtain ⟨b, hb⟩ := fetch_revised now hsettled hthere
        rw [htaken] at h
        simp only [hb] at h
        cases h
  delete_missing {t id} h := by
    replace h : (t.rows.any fun r => r.id == id) = false := h
    show (⟨t.rows.filter fun r => r.id ≠ id⟩ : AutomationTable) = t
    congr 1
    refine List.filter_eq_self.mpr fun r hr => decide_eq_true fun hid => ?_
    exact List.any_eq_false.mp h r hr (beq_iff_eq.mpr hid)

end AutomationTable

/-! ## 2. Edits -/

namespace Authoring

/-- Nothing came of an operation: the store is as it was, and there is nothing to tell. -/
def Outcome.Leaves {α β : Type} (s : α) (o : Outcome α β) : Prop := o.store = s ∧ o.lines = []

theorem leaves_map {α β γ : Type} {s : α} {o : Outcome α β} {f : β → γ} {fault : Fault}
    (ho : o.result = .error fault → o.Leaves s) (h : (o.map f).result = .error fault) : (o.map f).Leaves s :=
  ho (error_of_map h)

variable {α : Type} [AutomationStorage α] {s : α} {ids : Ids} {now : Moment}

/-- The flow of a new version was described, or it is the old one. -/
theorem flow_of_revision {id : String} {name : Option String} {nodes : Option (List Node)}
    {edges : Option (List Edge)} {a : Automation} (h : revision s now id name nodes edges = .ok a)
    (hdescribed : (Edit.update id name nodes edges).IsDescribed) :
    a.flow.IsSettled ∨ IsReadFrom s a.flow := by
  obtain ⟨flow, htogether, h⟩ := bind_eq_ok h
  obtain ⟨old, hold, h⟩ := bind_eq_ok h
  obtain ⟨renamed, hname, h⟩ := bind_eq_ok h
  have hread : IsReadFrom s old.flow := by
    unfold get at hold
    split at hold
    · cases hold
    · cases hold
    · rename_i found hfound
      cases hold
      exact ⟨id, _, hfound, rfl⟩
  have hsame : renamed.flow = old.flow := by
    rw [rename_eq] at hname
    obtain ⟨accepted, _, rfl⟩ := map_eq_ok hname
    rfl
  rw [reflow_eq] at h
  obtain ⟨f, hnew, rfl⟩ := map_eq_ok h
  rcases newFlow_cases hnew with ⟨_, rfl⟩ | ⟨rfl, _⟩
  · exact .inr (hsame ▸ hread)
  · exact .inl (settled_of_together htogether hdescribed)

variable [AtomicAutomations α]

theorem create_refused {name : Option String} {flow : Flow} {fault : Fault}
    (h : (create s ids now name flow).result = .error fault) : (create s ids now name flow).Leaves s := by
  cases hchecked : checked now name flow with
  | error fault =>
    rw [create_eq, hchecked]
    exact ⟨rfl, rfl⟩
  | ok accepted =>
    rw [create_eq, hchecked] at h ⊢
    dsimp only at h ⊢
    cases hresult : (AutomationStorage.create s ⟨"", accepted, flow, none, none⟩ now ids).result with
    | error fault => exact ⟨AtomicAutomations.create_refused hresult, rfl⟩
    | ok a =>
      rw [hresult] at h
      cases h

theorem createFromEntries_refused {es : List (Value × Value)} {fault : Fault}
    (h : (createFromEntries s ids now es).result = .error fault) :
    (createFromEntries s ids now es).Leaves s := by
  rw [createFromEntries_eq] at h ⊢
  cases hdraft : draftOf es with
  | error fault => exact ⟨rfl, rfl⟩
  | ok draft =>
    rw [hdraft] at h
    exact create_refused h

theorem update_refused {id : String} {name : Option String} {nodes : Option (List Node)}
    {edges : Option (List Edge)} {fault : Fault} (hdescribed : (Edit.update id name nodes edges).IsDescribed)
    (h : (update s ids now id name nodes edges).result = .error fault) :
    (update s ids now id name nodes edges).Leaves s := by
  unfold update at h ⊢
  cases hrevision : revision s now id name nodes edges with
  | error fault => exact ⟨rfl, rfl⟩
  | ok a =>
    -- the store may write first: a table does, and the row is read back since its flow is settled
    have hstore {fault : Fault} : (AutomationStorage.update s a now).1 = .error fault →
        (AutomationStorage.update s a now).2 = s :=
      AtomicAutomations.update_refused (flow_of_revision hrevision hdescribed)
    rw [hrevision] at h
    dsimp only at h ⊢
    generalize AutomationStorage.update s a now = o at *
    obtain ⟨result, store⟩ := o
    cases result with
    | error fault => exact ⟨hstore rfl, rfl⟩
    | ok b => cases h

theorem delete_refused {id : String} {fault : Fault} (h : (delete s ids id).result = .error fault) :
    (delete s ids id).Leaves s := by
  have hstore : (AutomationStorage.delete s id).1 = false → (AutomationStorage.delete s id).2 = s :=
    AtomicAutomations.delete_missing
  unfold delete at h ⊢
  generalize AutomationStorage.delete s id = o at *
  obtain ⟨deleted, store⟩ := o
  cases deleted with
  | true => cases h
  | false => exact ⟨hstore rfl, rfl⟩

/-- **An edit that is refused leaves the store as it was.** -/
theorem perform_refused {e : Edit} (he : e.IsDescribed) {fault : Fault}
    (h : (e.perform s ids now).result = .error fault) : (e.perform s ids now).Leaves s := by
  unfold Edit.perform at h ⊢
  cases e with
  | create name flow => exact leaves_map create_refused h
  | createFromEntries es => exact leaves_map createFromEntries_refused h
  | update id name nodes edges => exact leaves_map (update_refused he) h
  | delete id => exact leaves_map delete_refused h

end Authoring

end Dripline
