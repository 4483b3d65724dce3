import Dripline.Proofs.Authoring.Plan
import Dripline.Proofs.Text.Blank

/-!
# What is stored is in order

After any edits, refused ones among them, what a desk keeps has ids and names of its own, names as they
are cleaned, and flows that passed the check when they were last written:

* `isCleanName_of_acceptName`: an accepted name is what is left of itself (`Text.strip_strip`);
* `Edit.plan_cases`: what an edit comes to, with everything that was checked on the way;
* `Desk.InOrder`: the invariant, over what the desk keeps and the edits so far, the latest first;
* `Desk.inOrder_edit`, `Desk.inOrder_run`: one edit, and any number of them;
* **`Desk.stays_in_order`**: what it says about what the store lists, and that a new version differs from
  the old one in nothing that was not asked for.

A flow passes the check at a moment: later on an absolute delay may be past. That is why the invariant
looks for the edit that wrote it.
-/

namespace Dripline

/-! ## 1. Names -/

namespace Authoring

/-- A name that has no blanks at its ends, and 1 to 100 characters. -/
structure IsCleanName (name : String) : Prop where
  stripped : Text.strip name = name
  nonempty : 1 ≤ name.length
  short : name.length ≤ 100

theorem isCleanName_of_acceptName {given : Option String} {name : String}
    (h : acceptName given = .ok name) : IsCleanName name := by
  unfold acceptName cleanName at h
  dsimp only at h
  split at h
  · cases h
  · rename_i hne
    split at h
    · cases h
    · rename_i hshort
      cases h
      have hlength : (Text.strip (given.getD "")).length ≠ 0 := fun h => hne (String.length_eq_zero_iff.mp h)
      exact ⟨Text.strip_strip _, Nat.one_le_iff_ne_zero.mpr hlength, Nat.le_of_not_lt hshort⟩

/-! ## 2. What was checked -/

/-- Whether an edit writes a flow. -/
def Edit.carriesFlow : Edit → Bool
  | .create _ _ => true
  | .createFromEntries _ => true
  | .update _ _ nodes _ => nodes.isSome
  | .delete _ => false

theorem Edit.carriesFlow_of_new {e : Edit} (h : e.id? = none) : e.carriesFlow = true := by
  cases e with
  | create name flow => rfl
  | createFromEntries es => rfl
  | update id name nodes edges => cases h
  | delete id => cases h

variable {as : List SavedAutomation} {now : Moment}

theorem problems_of_checkFlow {f : Flow} (h : checkFlow f now = .ok ()) : f.problems now = .ok [] := by
  unfold checkFlow at h
  split at h
  · cases h
  · assumption
  · cases h

/-- A new automation that is accepted among others. -/
structure IsAdmitted (as : List SavedAutomation) (now : Moment) (name : String) (flow : Flow) : Prop where
  clean : IsCleanName name
  accepted : flow.problems now = .ok []
  unique : name ∉ as.map SavedAutomation.name

theorem isAdmitted_of_admission {given : Option String} {flow : Flow} {name : String}
    (h : admission as now given flow = .ok name) : IsAdmitted as now name flow := by
  obtain ⟨checkedName, hchecked, h⟩ := bind_eq_ok h
  obtain ⟨accepted, haccept, hchecked⟩ := bind_eq_ok hchecked
  obtain ⟨_, hflow, hchecked⟩ := bind_eq_ok hchecked
  cases hchecked
  split at h
  · cases h
  · rename_i hfree
    cases h
    exact ⟨isCleanName_of_acceptName haccept, problems_of_checkFlow hflow, hfree⟩

/-- A new version that is accepted among the others: what was asked for is new and was checked, everything
    else is the old version's. -/
structure IsVersion (as : List SavedAutomation) (now : Moment) (id : String) (name : Option String)
    (nodes : Option (List Node)) (old a : SavedAutomation) : Prop where
  mem : old ∈ as
  old_id : old.id = id
  same_id : a.id = old.id
  createdAt : a.createdAt = old.createdAt
  updatedAt : a.updatedAt = now
  clean : a.name = old.name ∨ IsCleanName a.name
  keeps_name : name = none → a.name = old.name
  accepted : nodes.isSome = true → a.flow.problems now = .ok []
  keeps_flow : nodes.isSome = false → a.flow = old.flow
  unique : ∀ b ∈ as, b.name = a.name → b.id = a.id

theorem id_of_lookup {id : String} {a : SavedAutomation} (h : lookup as id = .ok a) : a.id = id := by
  unfold lookup at h
  split at h
  · cases h
  · rename_i hfound
    cases h
    have htest := List.find?_some hfound
    exact beq_iff_eq.mp htest

theorem isVersion_of_version {id : String} {name : Option String} {nodes : Option (List Node)}
    {edges : Option (List Edge)} {a : SavedAutomation} (h : version as now id name nodes edges = .ok a) :
    ∃ old, IsVersion as now id name nodes old a := by
  obtain ⟨b, hredraft, h⟩ := bind_eq_ok h
  obtain ⟨flow, old, accepted, f, htogether, hold, hname, hflow, rfl⟩ := redraft_inv hredraft
  split at h
  · cases h
  · rename_i hfree
    cases h
    have hparts : nodes.isSome = flow.isSome := by
      rcases together_cases htogether with ⟨rfl, _, rfl⟩ | ⟨ns, es, rfl, _, rfl⟩ <;> rfl
    refine ⟨old, mem_of_lookup hold, id_of_lookup hold, rfl, rfl, rfl, ?_, ?_, ?_, ?_, ?_⟩
    · rcases newName_cases hname with ⟨_, hsame⟩ | ⟨given, _, haccept⟩
      · exact .inl hsame
      · exact .inr (isCleanName_of_acceptName haccept)
    · intro hnone
      rcases newName_cases hname with ⟨_, hsame⟩ | ⟨given, hsome, _⟩
      · exact hsame
      · rw [hnone] at hsome
        cases hsome
    · intro hsome
      rcases newFlow_cases hflow with ⟨rfl, _⟩ | ⟨_, hcheck⟩
      · rw [hparts] at hsome
        cases hsome
      · exact problems_of_checkFlow hcheck
    · intro hnone
      rcases newFlow_cases hflow with ⟨_, hsame⟩ | ⟨rfl, _⟩
      · exact hsame
      · rw [hparts] at hnone
        cases hnone
    · intro b hb hbname
      by_contra hbid
      have htest : (b.name == accepted && b.id != old.id) = true :=
        (Bool.and_eq_true _ _).mpr ⟨beq_iff_eq.mpr hbname, bne_iff_ne.mpr hbid⟩
      exact hfree (List.any_eq_true.mpr ⟨b, hb, htest⟩)

/-- **What an edit comes to, with what was checked.** -/
theorem Edit.plan_cases {e : Edit} {change : Change} (h : e.plan as now = .ok change) :
    (∃ name flow, change = .add name flow ∧ e.id? = none ∧ IsAdmitted as now name flow) ∨
      (∃ id name nodes edges old a, e = .update id name nodes edges ∧ change = .revise a ∧
        IsVersion as now id name nodes old a) ∨
      ∃ id, e = .delete id ∧ change = .remove id ∧ id ∈ as.map SavedAutomation.id := by
  unfold Edit.plan at h
  cases e with
  | create given flow =>
    obtain ⟨name, hname, rfl⟩ := map_eq_ok h
    exact .inl ⟨name, flow, rfl, rfl, isAdmitted_of_admission hname⟩
  | createFromEntries es =>
    cases hdraft : draftOf es with
    | error fault =>
      simp only [hdraft] at h
      cases h
    | ok draft =>
      simp only [hdraft] at h
      obtain ⟨name, hname, rfl⟩ := map_eq_ok h
      exact .inl ⟨name, draft.2, rfl, rfl, isAdmitted_of_admission hname⟩
  | update id name nodes edges =>
    obtain ⟨a, hversion, rfl⟩ := map_eq_ok h
    obtain ⟨old, hold⟩ := isVersion_of_version hversion
    exact .inr (.inl ⟨id, name, nodes, edges, old, a, rfl, rfl, hold⟩)
  | delete id =>
    obtain ⟨a, hfound, rfl⟩ := map_eq_ok h
    exact .inr (.inr ⟨id, rfl, rfl, List.mem_map.mpr ⟨a, mem_of_lookup hfound, id_of_lookup hfound⟩⟩)

/-! ## 3. The edits so far -/

/-- An edit that was performed. -/
structure Performed where
  now : Moment
  edit : Edit
  result : Except Fault (Option Automation)

/-- Whether an edit wrote the flow of the automation under an id. -/
def Performed.wrote (id : String) (p : Performed) : Bool :=
  p.edit.carriesFlow &&
    match p.result with
    | .ok (some a) => a.id == id
    | _ => false

/-- When the flow of the automation under an id was last written, by edits with the latest first. -/
def lastWritten (id : String) (history : List Performed) : Option Moment :=
  (history.find? (Performed.wrote id)).map Performed.now

theorem lastWritten_of_wrote {id : String} {p : Performed} (h : p.wrote id = true)
    (history : List Performed) : lastWritten id (p :: history) = some p.now := by
  unfold lastWritten
  rw [List.find?_cons_of_pos h]
  rfl

theorem lastWritten_of_not {id : String} {p : Performed} (h : p.wrote id = false)
    (history : List Performed) : lastWritten id (p :: history) = lastWritten id history := by
  unfold lastWritten
  rw [List.find?_cons_of_neg (by rw [h]; exact Bool.false_ne_true)]

theorem not_wrote_of_carries {id : String} {p : Performed} (h : p.edit.carriesFlow = false) :
    p.wrote id = false := by
  unfold Performed.wrote
  rw [h, Bool.false_and]

theorem not_wrote_of_id {id : String} {a : Automation} {e : Edit} (h : a.id ≠ id) :
    Performed.wrote id ⟨now, e, .ok (some a)⟩ = false := by
  unfold Performed.wrote
  dsimp only
  rw [beq_false_of_ne h, Bool.and_false]

namespace Desk

variable {α : Type} [AutomationStorage α]

/-- One edit more, at a desk with the edits so far. -/
def act (s : Desk α × List Performed) (x : Moment × Edit) : Desk α × List Performed :=
  let o := s.1.edit x.1 x.2
  (o.2, ⟨x.1, x.2, o.1⟩ :: s.2)

/-- Edits one after the other, and what became of them, the latest first. -/
def run (d : Desk α) (edits : List (Moment × Edit)) : Desk α × List Performed := edits.foldl act (d, [])

variable [LawfulAutomations α]

/-- **The invariant**: what a desk keeps is in order. -/
structure InOrder (d : Desk α) (as : List SavedAutomation) (history : List Performed) : Prop where
  keeps : d.Keeps as
  names : (as.map SavedAutomation.name).Nodup
  clean : ∀ a ∈ as, IsCleanName a.name
  accepted : ∀ a ∈ as, ∃ t, lastWritten a.id history = some t ∧ a.flow.problems t = .ok []

variable {d : Desk α} {history : List Performed} {e : Edit}

theorem InOrder.nodup_ids (h : d.InOrder as history) : (as.map SavedAutomation.id).Nodup :=
  LawfulAutomations.nodup_ids h.keeps.holds

/-- What was in order stays so when nothing was written. -/
theorem InOrder.accepted_of_not_wrote (h : d.InOrder as history) {p : Performed} {a : SavedAutomation}
    (ha : a ∈ as) (hp : p.wrote a.id = false) :
    ∃ t, lastWritten a.id (p :: history) = some t ∧ a.flow.problems t = .ok [] := by
  rw [lastWritten_of_not hp]
  exact h.accepted a ha

theorem InOrder.after_add (h : d.InOrder as history) {name : String} {flow : Flow}
    (hadmitted : IsAdmitted as now name flow) (hcarries : e.carriesFlow = true) {d' : Desk α}
    (hkeeps : d'.Keeps (as ++ [⟨d.ids.next.1, name, flow, now, now⟩])) :
    d'.InOrder (as ++ [⟨d.ids.next.1, name, flow, now, now⟩])
      (⟨now, e, .ok (some ⟨d.ids.next.1, name, flow, some now, some now⟩)⟩ :: history) where
  keeps := hkeeps
  names := by
    rw [List.map_append, List.map_singleton]
    refine List.Nodup.append h.names (List.nodup_singleton _) (List.disjoint_singleton.mpr hadmitted.unique)
  clean := List.forall_mem_append.mpr ⟨h.clean, List.forall_mem_singleton.mpr hadmitted.clean⟩
  accepted := by
    refine List.forall_mem_append.mpr ⟨fun a ha => ?_, List.forall_mem_singleton.mpr ?_⟩
    · have hid : d.ids.next.1 ≠ a.id := fun hid => d.ids.next_not_given (hid ▸ h.keeps.given a ha)
      exact h.accepted_of_not_wrote ha (not_wrote_of_id hid)
    · have hwrote : Performed.wrote d.ids.next.1
          ⟨now, e, .ok (some ⟨d.ids.next.1, name, flow, some now, some now⟩)⟩ = true := by
        unfold Performed.wrote
        rw [hcarries]
        exact beq_self_eq_true _
      exact ⟨now, lastWritten_of_wrote hwrote history, hadmitted.accepted⟩

/-- Names stay different when a new version has a name that no other has. -/
theorem InOrder.names_replace (h : d.InOrder as history) {a : SavedAutomation}
    (hunique : ∀ b ∈ as, b.name = a.name → b.id = a.id) :
    ((SavedAutomation.replace as a).map SavedAutomation.name).Nodup := by
  have hids : ((SavedAutomation.replace as a).map SavedAutomation.id).Nodup := by
    rw [SavedAutomation.map_id_replace]
    exact h.nodup_ids
  rw [List.nodup_map_iff_inj_on hids.of_map]
  intro b hb c hc hname
  rcases SavedAutomation.eq_or_mem_of_mem_replace hb with hba | ⟨hbas, hbid⟩
  · rcases SavedAutomation.eq_or_mem_of_mem_replace hc with hca | ⟨hcas, hcid⟩
    · exact hba.trans hca.symm
    · exact absurd (hunique c hcas (hname.symm.trans (congrArg SavedAutomation.name hba))) hcid
  · rcases SavedAutomation.eq_or_mem_of_mem_replace hc with hca | ⟨hcas, _⟩
    · exact absurd (hunique b hbas (hname.trans (congrArg SavedAutomation.name hca))) hbid
    · exact List.inj_on_of_nodup_map h.names hbas hcas hname

theorem InOrder.after_revise (h : d.InOrder as history) {id : String} {name : Option String}
    {nodes : Option (List Node)} {edges : Option (List Edge)} {old a : SavedAutomation}
    (hversion : IsVersion as now id name nodes old a) {kept : Moment → Moment} {d' : Desk α}
    (hkeeps : d'.Keeps (SavedAutomation.replace as a)) :
    d'.InOrder (SavedAutomation.replace as a)
      (⟨now, .update id name nodes edges, .ok (some (a.shown kept))⟩ :: history) where
  keeps := hkeeps
  names := h.names_replace hversion.unique
  clean := by
    intro b hb
    rcases SavedAutomation.eq_or_mem_of_mem_replace hb with rfl | ⟨hb, _⟩
    · rcases hversion.clean with hsame | hclean
      · rw [hsame]
        exact h.clean old hversion.mem
      · exact hclean
    · exact h.clean b hb
  accepted := by
    intro b hb
    rcases SavedAutomation.eq_or_mem_of_mem_replace hb with rfl | ⟨hb, hbid⟩
    · -- the flow is from this edit, or from the one that wrote the old version's
      cases hnodes : nodes.isSome with
      | true =>
        have hwrote : Performed.wrote b.id
            ⟨now, .update id name nodes edges, .ok (some (b.shown kept))⟩ = true := by
          unfold Performed.wrote
          rw [show (Edit.update id name nodes edges).carriesFlow = true from hnodes]
          exact beq_self_eq_true _
        exact ⟨now, lastWritten_of_wrote hwrote history, hversion.accepted hnodes⟩
      | false =>
        obtain ⟨t, hlast, hproblems⟩ := h.accepted old hversion.mem
        have hcarries : (Edit.update id name nodes edges).carriesFlow = false := hnodes
        refine ⟨t, ?_, ?_⟩
        · rw [lastWritten_of_not (not_wrote_of_carries hcarries), hversion.same_id]
          exact hlast
        · rw [hversion.keeps_flow hnodes]
          exact hproblems
    · exact h.accepted_of_not_wrote hb (not_wrote_of_id hbid.symm)

theorem InOrder.after_remove (h : d.InOrder as history) {id : String}
    {result : Except Fault (Option Automation)} (hcarries : e.carriesFlow = false) {d' : Desk α}
    (hkeeps : d'.Keeps (as.filter fun a => a.id ≠ id)) :
    d'.InOrder (as.filter fun a => a.id ≠ id) (⟨now, e, result⟩ :: history) where
  keeps := hkeeps
  names := h.names.sublist (List.Sublist.map _ List.filter_sublist)
  clean := fun _ ha => h.clean _ (List.mem_of_mem_filter ha)
  accepted := fun _ ha => h.accepted_of_not_wrote (List.mem_of_mem_filter ha) (not_wrote_of_carries hcarries)

/-- **One edit keeps a desk in order.** -/
theorem inOrder_edit (h : d.InOrder as history) (he : e.IsDescribed) (now : Moment) :
    ∃ as', (d.edit now e).2.InOrder as' (⟨now, e, (d.edit now e).1⟩ :: history) := by
  cases hplan : e.plan as now with
  | error fault =>
    obtain ⟨hresult, hkeeps⟩ := edit_of_error h.keeps he hplan
    have hwrote (id : String) : Performed.wrote id ⟨now, e, .error fault⟩ = false := Bool.and_false _
    rw [hresult]
    exact ⟨as, hkeeps, h.names, h.clean, fun a ha => h.accepted_of_not_wrote ha (hwrote a.id)⟩
  | ok change =>
    obtain ⟨hresult, hkeeps⟩ := edit_of_ok h.keeps he hplan
    rw [hresult]
    rcases Edit.plan_cases hplan with ⟨name, flow, rfl, hnew, hadmitted⟩ |
      ⟨id, name, nodes, edges, old, a, rfl, rfl, hversion⟩ | ⟨id, rfl, rfl, _⟩
    · exact ⟨_, h.after_add hadmitted (Edit.carriesFlow_of_new hnew) hkeeps⟩
    · exact ⟨_, h.after_revise hversion hkeeps⟩
    · exact ⟨_, h.after_remove rfl hkeeps⟩

/-- **Any number of edits keeps a desk in order.** -/
theorem inOrder_foldl (edits : List (Moment × Edit)) (hedits : ∀ x ∈ edits, x.2.IsDescribed)
    (s : Desk α × List Performed) (h : s.1.InOrder as s.2) :
    ∃ as', (edits.foldl act s).1.InOrder as' (edits.foldl act s).2 := by
  induction edits generalizing s as with
  | nil => exact ⟨as, h⟩
  | cons x edits ih =>
    obtain ⟨as', h'⟩ := inOrder_edit h (hedits x List.mem_cons_self) x.1
    exact ih (fun y hy => hedits y (List.mem_cons_of_mem x hy)) (act s x) h'

theorem inOrder_run (ids : Ids) (edits : List (Moment × Edit)) (hedits : ∀ x ∈ edits, x.2.IsDescribed) :
    ∃ as, ((fresh α ids).run edits).1.InOrder as ((fresh α ids).run edits).2 :=
  inOrder_foldl edits hedits (fresh α ids, [])
    ⟨keeps_fresh ids, List.nodup_nil, List.forall_mem_nil _, List.forall_mem_nil _⟩

/-- **A new version differs from the old one in nothing that was not asked for.** -/
theorem update_keeps (h : d.Keeps as) {id : String} {name : Option String} {nodes : Option (List Node)}
    {edges : Option (List Edge)} (he : (Edit.update id name nodes edges).IsDescribed) {b : Automation}
    (hb : (d.edit now (.update id name nodes edges)).1 = .ok (some b)) :
    get (d.edit now (.update id name nodes edges)).2.store id = .ok b ∧
      ∃ a ∈ as.map (·.shown (LawfulAutomations.kept α)), a.id = id ∧ b.id = a.id ∧
        b.createdAt = a.createdAt ∧ (name = none → b.name = a.name) ∧ (nodes = none → b.flow = a.flow) := by
  cases hplan : (Edit.update id name nodes edges).plan as now with
  | error fault =>
    rw [(edit_of_error h he hplan).1] at hb
    cases hb
  | ok change =>
    obtain ⟨hresult, hkeeps⟩ := edit_of_ok h he hplan
    rw [hresult] at hb
    obtain ⟨a, hversion, rfl⟩ : ∃ a, version as now id name nodes edges = .ok a ∧ .revise a = change :=
      map_eq_ok hplan
    obtain ⟨old, hold⟩ := isVersion_of_version hversion
    replace hkeeps : (d.edit now (.update id name nodes edges)).2.Keeps (SavedAutomation.replace as a) := hkeeps
    cases hb
    have hid : a.id = id := hold.same_id.trans hold.old_id
    have hmem := SavedAutomation.mem_replace hold.mem hold.same_id.symm
    have hlookup := lookup_of_mem (LawfulAutomations.nodup_ids hkeeps.holds) hmem
    refine ⟨?_, old.shown _, List.mem_map_of_mem hold.mem, hold.old_id, hold.same_id, ?_, hold.keeps_name, ?_⟩
    · rw [get_eq hkeeps.holds, ← hid, hlookup]
      rfl
    · show some _ = some _
      rw [hold.createdAt]
    · intro hnone
      exact hold.keeps_flow (by rw [hnone]; rfl)

/-- **What is stored is in order** after any edits: every automation has an id and a name of its own, a clean
    name, and a flow that passed the check at the edit that last wrote it; and a further update changes
    nothing that it does not carry. -/
theorem stays_in_order (ids : Ids) (edits : List (Moment × Edit)) (hedits : ∀ x ∈ edits, x.2.IsDescribed) :
    let s := (fresh α ids).run edits
    ∃ listed, AutomationStorage.list s.1.store = .ok listed ∧
      (listed.map Automation.id).Nodup ∧ (listed.map Automation.name).Nodup ∧
      (∀ a ∈ listed, IsCleanName a.name ∧
        ∃ t, lastWritten a.id s.2 = some t ∧ a.flow.problems t = .ok []) ∧
      ∀ now id name nodes edges, (Edit.update id name nodes edges).IsDescribed → ∀ b,
        (s.1.edit now (.update id name nodes edges)).1 = .ok (some b) →
        get (s.1.edit now (.update id name nodes edges)).2.store id = .ok b ∧
          ∃ a ∈ listed, a.id = id ∧ b.id = a.id ∧ b.createdAt = a.createdAt ∧
            (name = none → b.name = a.name) ∧ (nodes = none → b.flow = a.flow) := by
  intro s
  obtain ⟨as, h⟩ := inOrder_run (α := α) ids edits hedits
  obtain ⟨listed, hlisted, hperm⟩ := LawfulAutomations.list_perm h.keeps.holds
  refine ⟨listed, hlisted, ?_, ?_, ?_, ?_⟩
  · rw [(hperm.map Automation.id).nodup_iff, List.map_map]
    exact h.nodup_ids
  · rw [(hperm.map Automation.name).nodup_iff, List.map_map]
    exact h.names
  · intro a ha
    obtain ⟨saved, hsaved, rfl⟩ := List.mem_map.mp (hperm.mem_iff.mp ha)
    exact ⟨h.clean saved hsaved, h.accepted saved hsaved⟩
  · intro now id name nodes edges he b hb
    obtain ⟨hget, a, ha, hkept⟩ := update_keeps h.keeps he hb
    exact ⟨hget, a, hperm.mem_iff.mpr ha, hkept⟩

/-- Two automations with one flow, of which the second gets a new name, which is then refused to the first;
    at last the first is deleted. -/
def noteEdits : List (Moment × Edit) :=
  [(Moment.first, .create (some "First") noteFlow), (Moment.first, .create (some "Second") noteFlow),
    (Moment.first, .update "id-2" (some " Last ") none none),
    (Moment.first, .update "id-1" (some "Last") (some noteFlow.nodes) (some noteFlow.edges)),
    (Moment.first, .delete "id-1")]

theorem isDescribed_noteEdits : ∀ x ∈ noteEdits, x.2.IsDescribed := by
  simp [noteEdits, Edit.IsDescribed, isDescribed_noteFlow]
  exact ⟨⟨noteFlow, isDescribed_noteFlow, rfl⟩, ⟨noteFlow, isDescribed_noteFlow, rfl⟩⟩

theorem stays_in_order_notes :
    (∀ x ∈ noteEdits, x.2.IsDescribed) ∧
      (let s := (fresh MemoryAutomations ⟨0⟩).run noteEdits
       ∃ listed, AutomationStorage.list s.1.store = .ok listed ∧ ∀ a ∈ listed, IsCleanName a.name ∧
        ∃ t, lastWritten a.id s.2 = some t ∧ a.flow.problems t = .ok []) ∧
      let s := (fresh AutomationTable ⟨0⟩).run noteEdits
      ∃ listed, AutomationStorage.list s.1.store = .ok listed ∧ ∀ a ∈ listed, IsCleanName a.name ∧
        ∃ t, lastWritten a.id s.2 = some t ∧ a.flow.problems t = .ok [] := by
  refine ⟨isDescribed_noteEdits, ?_, ?_⟩
  · obtain ⟨listed, hlisted, _, _, hordered, _⟩ :=
      stays_in_order (α := MemoryAutomations) ⟨0⟩ noteEdits isDescribed_noteEdits
    exact ⟨listed, hlisted, hordered⟩
  · obtain ⟨listed, hlisted, _, _, hordered, _⟩ :=
      stays_in_order (α := AutomationTable) ⟨0⟩ noteEdits isDescribed_noteEdits
    exact ⟨listed, hlisted, hordered⟩

/-- The one that is left has its new name and the flow with which it was created. -/
example : AutomationStorage.list ((fresh MemoryAutomations ⟨0⟩).run noteEdits).1.store =
    .ok [⟨"id-2", "Last", noteFlow, some Moment.first, some Moment.first⟩] := by decide +kernel

end Desk

end Authoring

end Dripline
