import Dripline.Proofs.Authoring.Invariant
import Dripline.Proofs.Store.Names

/-!
# Saving a text again

A text is saved under the name in it. After a save that succeeds, the same text saved at the same
moment

* is a new version of the same automation, and the ids and names in the store stay as they are, when
  the name is written without blanks at its ends or was in the store as it is written;
* is refused otherwise, and nothing changes: the automation is looked for under the name as it is
  written and was created under the cleaned one (`save_again`).

Nothing is asked of the store but that it finds automations by name.
-/

namespace Dripline

namespace Authoring

open NamedAutomations (index Sound)

variable {α : Type} [AutomationStorage α] [NamedAutomations α] {s : α} {ids : Ids} {now : Moment}
  {a b : Automation}

/-! ## 1. Names in the index -/

/-- The name under an id, by the index. -/
theorem name_unique (hs : Sound s) {id name name' : String} (h : (id, name) ∈ index s)
    (h' : (id, name') ∈ index s) : name = name' :=
  congrArg Prod.snd (List.inj_on_of_nodup_map (NamedAutomations.nodup_ids hs) h h' rfl)

/-- A name that one automation has is found there. -/
theorem getByName_of_unique (hs : Sound s) {id name : String} (hmem : (id, name) ∈ index s)
    (hunique : ∀ e ∈ index s, e.2 = name → e.1 = id) :
    AutomationStorage.getByName s name = AutomationStorage.get s id := by
  rw [NamedAutomations.getByName_eq name hs]
  cases hfound : (index s).find? fun e => e.2 == name with
  | none => exact absurd (beq_self_eq_true name) (List.find?_eq_none.mp hfound _ hmem)
  | some e =>
    have htest := List.find?_some hfound
    exact congrArg _ (hunique e (List.mem_of_find?_eq_some hfound) (beq_iff_eq.mp htest))

/-- A name that no automation has is not found. -/
theorem getByName_of_not_mem (hs : Sound s) {name : String} (h : name ∉ (index s).map Prod.snd) :
    AutomationStorage.getByName s name = .ok none := by
  rw [NamedAutomations.getByName_eq name hs, List.find?_eq_none.mpr]
  intro e he htest
  exact h (List.mem_map.mpr ⟨e, he, beq_iff_eq.mp htest⟩)

/-- What is looked for under a name: nothing, or the automation that is read under some id. -/
theorem getByName_cases (hs : Sound s) {name : String} {found : Option Automation}
    (h : AutomationStorage.getByName s name = .ok found) :
    found = none ∧ name ∉ (index s).map Prod.snd ∨
      ∃ old, found = some old ∧ old.name = name ∧ (old.id, name) ∈ index s ∧
        AutomationStorage.get s old.id = .ok (some old) := by
  rw [NamedAutomations.getByName_eq name hs] at h
  cases hfound : (index s).find? fun e => e.2 == name with
  | none =>
    rw [hfound] at h
    refine .inl ⟨(Except.ok.inj h).symm, fun hmem => ?_⟩
    obtain ⟨e, he, hname⟩ := List.mem_map.mp hmem
    exact List.find?_eq_none.mp hfound e he (beq_iff_eq.mpr hname)
  | some e =>
    rw [hfound] at h
    replace h : AutomationStorage.get s e.1 = .ok found := h
    have he := List.mem_of_find?_eq_some hfound
    have htest := List.find?_some hfound
    have hname : e.2 = name := beq_iff_eq.mp htest
    cases found with
    | none => exact absurd h (NamedAutomations.get_ne_none hs (List.mem_map_of_mem he))
    | some old =>
      obtain ⟨hid, hmem⟩ := NamedAutomations.eq_of_get hs h
      have hold : old.name = name := (name_unique hs hmem he).trans hname
      rw [← hid] at h hmem
      exact .inr ⟨old, rfl, hold, hold ▸ hmem, h⟩

/-- A new version under the name that is there leaves the index as it is. -/
theorem map_index_self (hs : Sound s) {id name : String} (hmem : (id, name) ∈ index s) :
    (index s).map (fun e => if e.1 = id then (id, name) else e) = index s := by
  refine (List.map_congr_left fun e he => ?_).trans (List.map_id (index s))
  split
  · rename_i hid
    exact List.inj_on_of_nodup_map (NamedAutomations.nodup_ids hs) hmem he hid.symm
  · rfl

/-! ## 2. One save -/

/-- The accepted name is the given one without its blanks. -/
theorem eq_strip_of_acceptName {name accepted : String}
    (h : acceptName (some name) = .ok accepted) : accepted = Text.strip name := by
  unfold acceptName cleanName at h
  dsimp only [Option.getD_some] at h
  split at h
  · cases h
  · split at h
    · cases h
    · exact (Except.ok.inj h).symm

/-- The name and the flow of a new automation were accepted. -/
theorem checked_inv {given : Option String} {f : Flow} {accepted : String}
    (h : checked now given f = .ok accepted) :
    acceptName given = .ok accepted ∧ checkFlow f now = .ok () := by
  obtain ⟨name, hname, h⟩ := bind_eq_ok h
  obtain ⟨_, hflow, h⟩ := bind_eq_ok h
  cases h
  exact ⟨hname, hflow⟩

/-- **What a save leaves**: the automation `b` that it answers with is in the store under a name of
    its own, with the flow of `a`, which passed the check. -/
structure HasSaved (s : α) (now : Moment) (a b : Automation) : Prop where
  sound : Sound s
  passed : checkFlow a.flow now = .ok ()
  flow : b.flow = a.flow
  mem : (b.id, b.name) ∈ index s
  unique : ∀ e ∈ index s, e.2 = b.name → e.1 = b.id
  readable : ∃ c, AutomationStorage.get s b.id = .ok (some c)

/-- A new automation under a name that is taken. -/
theorem create_of_taken (hs : Sound s) {name : Option String} {f : Flow} {accepted : String}
    (hchecked : checked now name f = .ok accepted) (htaken : accepted ∈ (index s).map Prod.snd) :
    (create s ids now name f).result = .error (.nameTaken accepted) ∧
      (create s ids now name f).store = s := by
  obtain ⟨ids', hcreate⟩ := NamedAutomations.create_taken (a := ⟨"", accepted, f, none, none⟩) now ids
    hs htaken
  rw [create_eq, hchecked]
  dsimp only
  rw [hcreate]
  exact ⟨rfl, rfl⟩

/-- A new automation under a name that is free. -/
theorem create_of_free (hs : Sound s) (hfresh : ids.next.1 ∉ (index s).map Prod.fst)
    (hflow : a.flow.IsSettled) {name : Option String} {accepted : String}
    (hchecked : checked now name a.flow = .ok accepted)
    (hfree : accepted ∉ (index s).map Prod.snd) :
    ∃ b s', create s ids now name a.flow = ⟨.ok b, s', ids.next.2, [note "Created" b]⟩ ∧
      b.name = accepted ∧ index s' = index s ++ [(b.id, b.name)] ∧ HasSaved s' now a b := by
  obtain ⟨b, s', hcreate, hs', hindex, hid, hname, hbflow, hreadable⟩ := NamedAutomations.create_free
    (a := ⟨"", accepted, a.flow, none, none⟩) now hs hflow hfree hfresh
  replace hindex : index s' = index s ++ [(b.id, b.name)] := by rw [hindex, hid, hname]
  refine ⟨b, s', ?_, hname, hindex, hs', (checked_inv hchecked).2, hbflow, ?_, ?_, hid ▸ hreadable⟩
  · rw [create_eq, hchecked]
    dsimp only
    rw [hcreate]
    rfl
  · rw [hindex]
    exact List.mem_append_right _ (List.mem_singleton_self _)
  · intro e he hename
    rw [hindex] at he
    rcases List.mem_append.mp he with he | he
    · exact absurd (List.mem_map.mpr ⟨e, he, hename.trans hname⟩) hfree
    · rw [List.mem_singleton.mp he]

omit [NamedAutomations α] in
/-- The new version of an automation that is there. -/
theorem revision_eq (s : α) (now : Moment) (id : String) (f : Flow) :
    revision s now id none (some f.nodes) (some f.edges) =
      (get s id).bind fun old => (checkFlow f now).map fun _ => { old with flow := f } := rfl

/-- A new version with a flow that passes the check, under a name that no other automation has. -/
theorem update_of_unique (ids : Ids) (hs : Sound s) {old : Automation}
    (hold : AutomationStorage.get s old.id = .ok (some old)) (hflow : a.flow.IsSettled)
    (hcheck : checkFlow a.flow now = .ok ())
    (hunique : ∀ e ∈ index s, e.2 = old.name → e.1 = old.id) :
    ∃ b s', update s ids now old.id none (some a.flow.nodes) (some a.flow.edges) =
        ⟨.ok b, s', ids, [note "Updated" b]⟩ ∧
      b.id = old.id ∧ b.name = old.name ∧ index s' = index s ∧ HasSaved s' now a b := by
  have hmem := (NamedAutomations.eq_of_get hs hold).2
  obtain ⟨b, s', hupdate, hs', hindex, hid, hname, hbflow, hreadable⟩ := NamedAutomations.update_free
    (a := { old with flow := a.flow }) now hs hflow (List.mem_map_of_mem hmem) hunique
  replace hindex : index s' = index s := hindex.trans (map_index_self hs hmem)
  have hrevision : revision s now old.id none (some a.flow.nodes) (some a.flow.edges) =
      .ok { old with flow := a.flow } := by
    rw [revision_eq, hcheck]
    unfold get
    rw [hold]
    rfl
  refine ⟨b, s', ?_, hid, hname, hindex, hs', hcheck, hbflow, ?_, ?_, hid ▸ hreadable⟩
  · unfold update
    rw [hrevision]
    dsimp only
    rw [hupdate]
  · rw [hindex, hid, hname]
    exact hmem
  · rw [hindex, hid, hname]
    exact hunique

/-- A new version that was saved had a flow that passes the check and a name that no other has. -/
theorem update_inv (hs : Sound s) {old : Automation}
    (hold : AutomationStorage.get s old.id = .ok (some old))
    (h : (update s ids now old.id none (some a.flow.nodes) (some a.flow.edges)).result = .ok b) :
    checkFlow a.flow now = .ok () ∧ ∀ e ∈ index s, e.2 = old.name → e.1 = old.id := by
  unfold update at h
  split at h
  · cases h
  · rename_i new hrevision
    rw [revision_eq] at hrevision
    obtain ⟨old', hget, hrevision⟩ := bind_eq_ok hrevision
    obtain ⟨_, hcheck, rfl⟩ := map_eq_ok hrevision
    unfold get at hget
    rw [hold] at hget
    cases hget
    refine ⟨hcheck, fun e he hname => ?_⟩
    split at h
    · cases h
    · rename_i c s' hupdate
      exact NamedAutomations.unique_of_update hs (congrArg Prod.fst hupdate) e he hname

/-- **A save that succeeds**: a new version under the name as it is written, or a new automation
    under the cleaned one. -/
theorem hasSaved_of_saveNamed (hs : Sound s) (hfresh : ids.next.1 ∉ (index s).map Prod.fst)
    (hflow : a.flow.IsSettled) (h : (saveNamed s ids now a).result = .ok b) :
    HasSaved (saveNamed s ids now a).store now a b ∧
      (a.name ∈ (index s).map Prod.snd ∧ b.name = a.name ∧
          index (saveNamed s ids now a).store = index s ∨
        a.name ∉ (index s).map Prod.snd ∧ acceptName (some a.name) = .ok b.name ∧
          index (saveNamed s ids now a).store = index s ++ [(b.id, b.name)]) := by
  unfold saveNamed at h ⊢
  cases hfound : AutomationStorage.getByName s a.name with
  | error fault =>
    rw [hfound] at h
    cases h
  | ok found =>
    rw [hfound] at h
    rcases getByName_cases hs hfound with ⟨rfl, hfree⟩ | ⟨old, rfl, hname, hmem, hold⟩
    · dsimp only at h ⊢
      cases hchecked : checked now (some a.name) a.flow with
      | error fault =>
        rw [create_eq, hchecked] at h
        cases h
      | ok accepted =>
        by_cases htaken : accepted ∈ (index s).map Prod.snd
        · rw [(create_of_taken hs hchecked htaken).1] at h
          cases h
        · obtain ⟨c, s', hcreate, hcname, hindex, hsaved⟩ :=
            create_of_free hs hfresh hflow hchecked htaken
          rw [hcreate] at h ⊢
          cases h
          exact ⟨hsaved, .inr ⟨hfree, hcname ▸ (checked_inv hchecked).1, hindex⟩⟩
    · dsimp only at h ⊢
      obtain ⟨hcheck, hunique⟩ := update_inv hs hold h
      obtain ⟨c, s', hupdate, _, hcname, hindex, hsaved⟩ :=
        update_of_unique ids hs hold hflow hcheck hunique
      rw [hupdate] at h ⊢
      cases h
      exact ⟨hsaved, .inl ⟨List.mem_map.mpr ⟨_, hmem, rfl⟩, hcname.trans hname, hindex⟩⟩

/-! ## 3. The same save once more -/

/-- What was saved under the name as it is written is saved again as a new version. -/
theorem HasSaved.again (h : HasSaved s now a b) (hflow : a.flow.IsSettled) (hname : b.name = a.name)
    (ids : Ids) :
    ∃ c, (saveNamed s ids now a).result = .ok c ∧ c.id = b.id ∧ c.name = b.name ∧ c.flow = b.flow ∧
      index (saveNamed s ids now a).store = index s := by
  obtain ⟨old, hold⟩ := h.readable
  obtain ⟨hid, hmem⟩ := NamedAutomations.eq_of_get h.sound hold
  have holdname : old.name = b.name := name_unique h.sound hmem h.mem
  have hfound : AutomationStorage.getByName s a.name = .ok (some old) := by
    rw [← hname, getByName_of_unique h.sound h.mem h.unique, hold]
  rw [← hid] at hold
  obtain ⟨c, s', hupdate, hcid, hcname, hindex, hsaved⟩ := update_of_unique ids h.sound hold
    hflow h.passed (by rw [hid, holdname]; exact h.unique)
  have hsave : saveNamed s ids now a = ⟨.ok c, s', ids, [note "Updated" c]⟩ := by
    unfold saveNamed
    rw [hfound]
    exact hupdate
  rw [hsave]
  exact ⟨c, rfl, hcid.trans hid, hcname.trans holdname, hsaved.flow.trans h.flow.symm, hindex⟩

/-- What was saved under a cleaned name is looked for under the other one, and refused. -/
theorem HasSaved.refused (h : HasSaved s now a b) (haccept : acceptName (some a.name) = .ok b.name)
    (hfree : a.name ∉ (index s).map Prod.snd) (ids : Ids) :
    (saveNamed s ids now a).result = .error (.nameTaken b.name) ∧
      (saveNamed s ids now a).store = s := by
  have hsave : saveNamed s ids now a = create s ids now (some a.name) a.flow := by
    unfold saveNamed
    rw [getByName_of_not_mem h.sound hfree]
  have hchecked : checked now (some a.name) a.flow = .ok b.name := by
    unfold checked
    rw [haccept]
    show (checkFlow a.flow now).bind _ = _
    rw [h.passed]
    rfl
  rw [hsave]
  exact create_of_taken h.sound hchecked (List.mem_map.mpr ⟨_, h.mem, rfl⟩)

/-- **A text saved again** after a save that succeeded: it is a new version of what was saved if the
    name has no blanks at its ends or was in the store as it is written, and refused without a
    change if not. -/
theorem save_again (hs : Sound s) (hfresh : ids.next.1 ∉ (index s).map Prod.fst) {text : String}
    (hread : Automation.ofText text none = .ok a)
    (hsave : (saveText s ids now text).result = .ok b) :
    let first := saveText s ids now text
    let again := saveText first.store first.ids now text
    (Text.strip a.name = a.name ∨ a.name ∈ (index s).map Prod.snd →
      ∃ c, again.result = .ok c ∧ c.id = b.id ∧ c.name = b.name ∧ c.flow = b.flow ∧
        index again.store = index first.store) ∧
    (¬ (Text.strip a.name = a.name ∨ a.name ∈ (index s).map Prod.snd) →
      again.result = .error (.nameTaken b.name) ∧ again.store = first.store) := by
  intro first again
  have hflow : a.flow.IsSettled := Flow.IsDescribed.isSettled (.inr ⟨text, none, a, hread, rfl⟩)
  have hfirst : first = saveNamed s ids now a := by
    show saveText s ids now text = _
    unfold saveText
    rw [hread]
  have hagain : again = saveNamed first.store first.ids now a := by
    show saveText first.store first.ids now text = _
    unfold saveText
    rw [hread]
  change first.result = .ok b at hsave
  rw [hfirst] at hsave
  obtain ⟨hsaved, hcases⟩ := hasSaved_of_saveNamed hs hfresh hflow hsave
  rw [← hfirst] at hsaved hcases
  rw [hagain]
  constructor
  · intro hwritten
    refine hsaved.again hflow ?_ first.ids
    rcases hcases with ⟨_, hname, _⟩ | ⟨hfree, haccept, _⟩
    · exact hname
    · rcases hwritten with hclean | hmem
      · exact (eq_strip_of_acceptName haccept).trans hclean
      · exact absurd hmem hfree
  · intro hother
    rcases hcases with ⟨hmem, _, _⟩ | ⟨hfree, haccept, hindex⟩
    · exact absurd (.inr hmem) hother
    · refine hsaved.refused haccept ?_ first.ids
      rw [hindex, List.map_append, List.mem_append, not_or]
      refine ⟨hfree, fun hmem => hother (.inl ?_)⟩
      exact (eq_strip_of_acceptName haccept).symm.trans (List.mem_singleton.mp hmem).symm

/-- The text of a flow that does nothing, under a name. -/
def idleText (name : String) : String :=
  "name: " ++ name ++ "\nnodes:\n- \x7bid: start, type: start\x7d\n- \x7bid: end, type: end\x7d\n" ++
    "edges:\n- \x7bid: e, source: start, target: end\x7d\n"

/-- The flow of this text. -/
def idleFlow : Flow := ⟨[⟨"start", .start, .empty⟩, ⟨"end", .finish, .empty⟩], [⟨"e", "start", "end", none⟩]⟩

/-- The automation of this text, as it is saved first. -/
def idleSaved : Automation := ⟨"id-1", "Idle", idleFlow, some Moment.first, some Moment.first⟩

theorem save_again_idle :
    let first := saveText AutomationTable.empty ⟨0⟩ Moment.first (idleText "Idle")
    let again := saveText first.store first.ids Moment.first (idleText "Idle")
    first.result = .ok idleSaved ∧
      ∃ c, again.result = .ok c ∧ c.id = "id-1" ∧ c.name = "Idle" ∧ c.flow = idleFlow ∧
        index again.store = index first.store := by
  have hread : Automation.ofText (idleText "Idle") none =
      .ok ⟨"", "Idle", idleFlow, none, none⟩ := by decide +kernel
  have hsave : (saveText AutomationTable.empty ⟨0⟩ Moment.first (idleText "Idle")).result =
      .ok idleSaved := by decide +kernel
  refine ⟨hsave, ?_⟩
  exact (save_again (s := AutomationTable.empty) List.nodup_nil List.not_mem_nil hread hsave).1
    (.inl (by decide +kernel))

/-- **A name with a blank** is cleaned when it is saved, and looked for as it is written: the second
    save is refused. -/
theorem save_again_refused :
    let first := saveText AutomationTable.empty ⟨0⟩ Moment.first (idleText "' Idle'")
    let again := saveText first.store first.ids Moment.first (idleText "' Idle'")
    first.result = .ok idleSaved ∧ again.result = .error (.nameTaken "Idle") := by
  decide +kernel

end Authoring

end Dripline
