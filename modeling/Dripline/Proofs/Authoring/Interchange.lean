import Dripline.Proofs.Authoring.Invariant
import Dripline.Proofs.Authoring.Refusal
import Mathlib.Logic.Equiv.Basic

/-!
# Two stores are as good as one

Whatever is asked at two desks over two lawful stores, at the same readings of the clock, the answers are
the same but for the ids that the supplies gave:

* `Call`: an edit, or one of the three ways to look something up; `Desk.answers`: the answers to calls;
* `renamed`: calls, answers and faults under other ids. `Edit.plan_renamed`: a plan does not look at ids
  other than for being the same;
* `Twin`: two desks that keep the same under a permutation of ids;
* `twin_edit`, `twin_answer`: one call. A new automation extends the permutation by a swap, which moves no
  id that is known, since both ids are new;
* **`answers_renamed`**: any calls; **`stores_interchangeable`**: a store in memory and a table;
* `stores_differ_on_halves`: what becomes of a name that is not whole.

The supplies may differ: a table takes an id for an automation that it refuses. A client may also ask for
ids that were not given yet; that is why the permutation is found at the end only, and why it matters that a
refusal leaves a desk as it was.
-/

namespace Dripline

variable (ρ : Equiv.Perm String)

/-! ## 1. Other ids -/

def SavedAutomation.renamed (a : SavedAutomation) : SavedAutomation := { a with id := ρ a.id }

def Automation.renamed (a : Automation) : Automation := { a with id := ρ a.id }

/-- A fault with the id that it names renamed. -/
def Fault.renamed : Fault → Fault
  | .noAutomation id => .noAutomation (ρ id)
  | fault => fault

/-- A result under other ids. -/
def relabel {β γ : Type} (f : β → γ) : Except Fault β → Except Fault γ
  | .ok b => .ok (f b)
  | .error fault => .error (fault.renamed ρ)

theorem relabel_bind {β β' γ γ' : Type} {f : β → β'} {g : γ → γ'} {x : Except Fault β}
    {x' : Except Fault β'} {k : β → Except Fault γ} {k' : β' → Except Fault γ'}
    (hx : x' = relabel ρ f x) (hk : ∀ b, k' (f b) = relabel ρ g (k b)) :
    x'.bind k' = relabel ρ g (x.bind k) := by
  rw [hx]
  cases x with
  | error fault => rfl
  | ok b => exact hk b

theorem relabel_map {β γ δ : Type} {f : β → γ} {g : γ → δ} (x : Except Fault β) :
    relabel ρ g (x.map f) = relabel ρ (g ∘ f) x := by
  cases x <;> rfl

theorem map_relabel {β γ δ : Type} {f : β → γ} {g : γ → δ} (x : Except Fault β) :
    (relabel ρ f x).map g = relabel ρ (g ∘ f) x := by
  cases x <;> rfl

namespace Authoring

/-- An edit under other ids. -/
def Edit.renamed : Edit → Edit
  | .create name flow => .create name flow
  | .createFromEntries es => .createFromEntries es
  | .update id name nodes edges => .update (ρ id) name nodes edges
  | .delete id => .delete (ρ id)

/-- A change under other ids. -/
def Change.renamed : Change → Change
  | .add name flow => .add name flow
  | .revise a => .revise (a.renamed ρ)
  | .remove id => .remove (ρ id)

theorem Edit.isDescribed_renamed {e : Edit} (h : e.IsDescribed) : (e.renamed ρ).IsDescribed := by
  cases e <;> exact h

theorem Edit.renamed_congr {σ : Equiv.Perm String} {e : Edit} (h : ∀ id, e.id? = some id → σ id = ρ id) :
    e.renamed σ = e.renamed ρ := by
  cases e with
  | create name flow => rfl
  | createFromEntries es => rfl
  | update id name nodes edges => exact congrArg (Edit.update · name nodes edges) (h id rfl)
  | delete id => exact congrArg Edit.delete (h id rfl)

/-! ## 2. Plans under other ids -/

/-- A result whose faults name no id. -/
def NamesNoId {β : Type} (x : Except Fault β) : Prop := x = relabel ρ id x

theorem namesNoId_of {β : Type} {x : Except Fault β} (h : ∀ fault, x = .error fault → fault.renamed ρ = fault) :
    NamesNoId ρ x := by
  unfold NamesNoId
  cases x with
  | error fault =>
    show Except.error fault = Except.error (fault.renamed ρ)
    rw [h fault rfl]
  | ok b => rfl

theorem namesNoId_acceptName (name : Option String) : NamesNoId ρ (acceptName name) := by
  refine namesNoId_of ρ fun fault h => ?_
  unfold acceptName at h
  cases hclean : cleanName name with
  | error complaint =>
    rw [hclean] at h
    cases h
    rfl
  | ok s =>
    rw [hclean] at h
    cases h

theorem namesNoId_checkFlow (f : Flow) (now : Moment) : NamesNoId ρ (checkFlow f now) := by
  refine namesNoId_of ρ fun fault h => ?_
  unfold checkFlow at h
  split at h
  · cases h
    rfl
  · cases h
  · cases h
    rfl

variable (as : List SavedAutomation) (now : Moment)

theorem namesNoId_checked (name : Option String) (flow : Flow) : NamesNoId ρ (checked now name flow) :=
  relabel_bind ρ (namesNoId_acceptName ρ name) fun _ => relabel_bind ρ (namesNoId_checkFlow ρ flow now) fun _ => rfl

theorem namesNoId_draftOf (es : List (Value × Value)) : NamesNoId ρ (draftOf es) := by
  unfold draftOf
  split
  · rfl
  · refine relabel_bind ρ (f := id) (namesNoId_of ρ fun fault h => ?_) fun flow =>
      relabel_bind ρ (f := id) (namesNoId_of ρ fun fault h => ?_) fun _ => rfl
    · cases hlists : Flow.ofLists ((Value.entry? "nodes" es).getD .null)
          ((Value.entry? "edges" es).getD .null) with
      | error f =>
        rw [hlists] at h
        cases h
        rfl
      | ok f =>
        rw [hlists] at h
        cases h
    · unfold nameOf at h
      split at h
      · cases h
      · split at h
        · cases h
        · cases h
          rfl

theorem map_name_renamed : (as.map (·.renamed ρ)).map SavedAutomation.name = as.map SavedAutomation.name := by
  rw [List.map_map]
  rfl

theorem find?_renamed (id : String) : (as.map (·.renamed ρ)).find? (fun a => a.id == ρ id) =
    (as.find? fun a => a.id == id).map (·.renamed ρ) := by
  rw [List.find?_map]
  congr 2
  funext a
  show (ρ a.id == ρ id) = (a.id == id)
  rw [Bool.eq_iff_iff, beq_iff_eq, beq_iff_eq]
  exact ρ.injective.eq_iff

theorem lookup_renamed (id : String) :
    lookup (as.map (·.renamed ρ)) (ρ id) = relabel ρ (·.renamed ρ) (lookup as id) := by
  unfold lookup
  rw [find?_renamed]
  cases as.find? fun a => a.id == id <;> rfl

theorem admission_renamed (name : Option String) (flow : Flow) :
    admission (as.map (·.renamed ρ)) now name flow = relabel ρ id (admission as now name flow) := by
  refine relabel_bind ρ (namesNoId_checked ρ now name flow) fun accepted => ?_
  rw [map_name_renamed]
  show (if accepted ∈ _ then _ else _) = _
  split <;> rfl

theorem namesNoId_newName (old : String) (name : Option String) : NamesNoId ρ (newName old name) := by
  cases name with
  | none => rfl
  | some given => exact namesNoId_acceptName ρ (some given)

theorem namesNoId_newFlow (old : Flow) (flow : Option Flow) : NamesNoId ρ (newFlow old now flow) := by
  cases flow with
  | none => rfl
  | some f =>
    show (checkFlow f now).map _ = relabel ρ id ((checkFlow f now).map _)
    rw [relabel_map]
    conv_lhs => rw [show checkFlow f now = relabel ρ id (checkFlow f now) from namesNoId_checkFlow ρ f now]
    exact map_relabel ρ _

theorem namesNoId_together (nodes : Option (List Node)) (edges : Option (List Edge)) :
    NamesNoId ρ (together nodes edges) := by
  cases nodes <;> cases edges <;> rfl

theorem redraft_renamed (id : String) (name : Option String) (nodes : Option (List Node))
    (edges : Option (List Edge)) : redraft (as.map (·.renamed ρ)) now (ρ id) name nodes edges =
      relabel ρ (·.renamed ρ) (redraft as now id name nodes edges) :=
  relabel_bind ρ (namesNoId_together ρ nodes edges) fun flow =>
    relabel_bind ρ (lookup_renamed ρ as id) fun old =>
      relabel_bind ρ (namesNoId_newName ρ old.name name) fun _ =>
        relabel_bind ρ (namesNoId_newFlow ρ now old.flow flow) fun _ => rfl

theorem version_renamed (id : String) (name : Option String) (nodes : Option (List Node))
    (edges : Option (List Edge)) : version (as.map (·.renamed ρ)) now (ρ id) name nodes edges =
      relabel ρ (·.renamed ρ) (version as now id name nodes edges) := by
  refine relabel_bind ρ (redraft_renamed ρ as now id name nodes edges) fun a => ?_
  have htaken : ((as.map (·.renamed ρ)).any fun b => b.name == (a.renamed ρ).name && b.id != (a.renamed ρ).id) =
      as.any fun b => b.name == a.name && b.id != a.id := by
    rw [List.any_map]
    congr 1
    funext b
    have hid : (ρ b.id != ρ a.id) = (b.id != a.id) := by
      rw [Bool.eq_iff_iff, bne_iff_ne, bne_iff_ne]
      exact ρ.injective.ne_iff
    show (b.name == a.name && ρ b.id != ρ a.id) = _
    rw [hid]
  rw [htaken]
  show (if _ then _ else _) = relabel ρ _ (if _ then _ else _)
  split <;> rfl

/-- **A plan does not look at ids** other than for being the same. -/
theorem Edit.plan_renamed (e : Edit) :
    (e.renamed ρ).plan (as.map (·.renamed ρ)) now = relabel ρ (·.renamed ρ) (e.plan as now) := by
  cases e with
  | create name flow =>
    show (admission _ now name flow).map _ = relabel ρ _ ((admission as now name flow).map _)
    rw [admission_renamed, map_relabel, relabel_map]
    rfl
  | createFromEntries es =>
    have hplan : ∀ held : List SavedAutomation, (Edit.createFromEntries es).plan held now =
        (draftOf es).bind fun draft => (admission held now draft.1 draft.2).map (.add · draft.2) := by
      intro held
      cases hes : draftOf es <;> simp only [Edit.plan, hes] <;> rfl
    show (Edit.createFromEntries es).plan _ now = _
    rw [hplan, hplan]
    refine relabel_bind ρ (namesNoId_draftOf ρ es) fun draft => ?_
    rw [id, admission_renamed, map_relabel, relabel_map]
    rfl
  | update id name nodes edges =>
    show (version _ now (ρ id) name nodes edges).map _ = relabel ρ _ ((version as now id name nodes edges).map _)
    rw [version_renamed, map_relabel, relabel_map]
    rfl
  | delete id =>
    show (lookup _ (ρ id)).map _ = relabel ρ _ ((lookup as id).map _)
    rw [lookup_renamed, map_relabel, relabel_map]
    rfl

/-! ## 3. Calls -/

/-- What can be asked at a desk. -/
inductive Call where
  | edit (e : Edit)
  | get (id : String)
  | getByName (name : Text.Points)
  | list

/-- The flows that a call carries are described, and the name that it asks for is whole. -/
def Call.IsDescribed : Call → Prop
  | .edit e => e.IsDescribed
  | .getByName name => ∃ text, name.text? = some text
  | _ => True

/-- A call under other ids. -/
def Call.renamed : Call → Call
  | .edit e => .edit (e.renamed ρ)
  | .get id => .get (ρ id)
  | .getByName name => .getByName name
  | .list => .list

/-- An answer: the automations that are handed back, or a fault. -/
abbrev Answer := Except Fault (List Automation)

/-- An answer under other ids. -/
def Answer.renamed (x : Answer) : Answer := relabel ρ (List.map (·.renamed ρ)) x

namespace Desk

section

variable {α : Type} [AutomationStorage α]

/-- The answer to a call, and the desk after it. -/
def answer (d : Desk α) (now : Moment) : Call → Answer × Desk α
  | .edit e => ((d.edit now e).1.map Option.toList, (d.edit now e).2)
  | .get id => ((Authoring.get d.store id).map fun a => [a], d)
  | .getByName name => ((AutomationStorage.getByPoints d.store name).map Option.toList, d)
  | .list => (AutomationStorage.list d.store, d)

/-- The answers to calls, one after the other. -/
def answers (d : Desk α) : List (Moment × Call) → List Answer
  | [] => []
  | (now, c) :: calls => (d.answer now c).1 :: (d.answer now c).2.answers calls

/-- An edit that is about an automation and is refused leaves the desk as it was. -/
theorem edit_refused [AtomicAutomations α] {d : Desk α} {now : Moment} {e : Edit} {id : String} {fault : Fault}
    (he : e.IsDescribed) (hid : e.id? = some id) (h : (d.edit now e).1 = .error fault) :
    (d.edit now e).2 = d := by
  have hstore : (e.perform d.store d.ids now).store = d.store := (perform_refused he h).1
  have hids : (e.perform d.store d.ids now).ids = d.ids := by
    cases e with
    | create name flow => cases hid
    | createFromEntries es => cases hid
    | update id name nodes edges =>
      show (update d.store d.ids now id name nodes edges).ids = d.ids
      unfold update
      split
      · rfl
      · split <;> rfl
    | delete id =>
      show (delete d.store d.ids id).ids = d.ids
      unfold delete
      split <;> rfl
  show (⟨(e.perform d.store d.ids now).store, (e.perform d.store d.ids now).ids⟩ : Desk α) = d
  rw [hstore, hids]

end

/-! ## 4. Two desks -/

section

variable {α β : Type} [AutomationStorage α] [LawfulAutomations α] [AutomationStorage β] [LawfulAutomations β]

/-- **Two desks that keep the same** under a permutation of ids, with the ids that are known so far. The
    permutation moves no id but those of the supplies, and all times are in one zone. -/
structure Twin (zone : Offset) (known : List String) (d : Desk α) (e : Desk β)
    (as : List SavedAutomation) : Prop where
  left : d.Keeps as
  right : e.Keeps (as.map (·.renamed ρ))
  zoned : ∀ a ∈ as, a.createdAt.offset = some zone ∧ a.updatedAt.offset = some zone
  ids : ∀ a ∈ as, a.id ∈ known
  given : ∀ id ∈ known, d.ids.HasGiven id ∧ e.ids.HasGiven (ρ id)
  fixes : ∀ id, ¬ Ids.IsSupplied id → ρ id = id

variable {ρ} {zone : Offset} {known : List String} {d : Desk α} {e : Desk β} {as : List SavedAutomation}
  {now : Moment} {σ : Equiv.Perm String}

theorem map_renamed_congr (h : ∀ a ∈ as, σ a.id = ρ a.id) :
    as.map (·.renamed σ) = as.map (·.renamed ρ) :=
  List.map_congr_left fun a ha => congrArg (fun id => { a with id := id }) (h a ha)

theorem Twin.agree (h : Twin ρ zone known d e as) (hσ : ∀ id ∈ known, σ id = ρ id) :
    e.Keeps (as.map (·.renamed σ)) := by
  rw [map_renamed_congr fun a ha => hσ a.id (h.ids a ha)]
  exact h.right

/-- Times in one zone are shown alike by all stores. -/
theorem shown_renamed {a : SavedAutomation} (hcreated : a.createdAt.offset = some zone)
    (hupdated : a.updatedAt.offset = some zone) :
    (a.renamed σ).shown (LawfulAutomations.kept β) = (a.shown (LawfulAutomations.kept α)).renamed σ := by
  have hkept {m : Moment} (hm : m.offset = some zone) :
      LawfulAutomations.kept β m = LawfulAutomations.kept α m := by
    have hanchored := Moment.isAnchored_of_offset hm
    rw [LawfulAutomations.kept_eq hanchored, LawfulAutomations.kept_eq hanchored]
  show (⟨_, _, _, some (LawfulAutomations.kept β a.createdAt), some (LawfulAutomations.kept β a.updatedAt)⟩ :
    Automation) = _
  rw [hkept hcreated, hkept hupdated]
  rfl

theorem Twin.shown (h : Twin ρ zone known d e as) {a : SavedAutomation} (ha : a ∈ as) :
    (a.renamed σ).shown (LawfulAutomations.kept β) = (a.shown (LawfulAutomations.kept α)).renamed σ :=
  shown_renamed (h.zoned a ha).1 (h.zoned a ha).2

/-! ### Looking something up -/

theorem Twin.get (h : Twin ρ zone known d e as) (hσ : ∀ id ∈ known, σ id = ρ id) (id : String) :
    (e.answer now (.get (σ id))).1 = ((d.answer now (.get id)).1).renamed σ := by
  have hd := get_eq h.left.holds id
  have he := get_eq (h.agree hσ).holds (σ id)
  show (Authoring.get e.store (σ id)).map _ = relabel σ _ ((Authoring.get d.store id).map _)
  rw [hd, he, lookup_renamed, relabel_map]
  cases hfound : lookup as id with
  | error fault => rfl
  | ok a => exact congrArg (fun b => Except.ok [b]) (h.shown (mem_of_lookup hfound))

omit [LawfulAutomations α] in
theorem getByPoints_of_text {name : Text.Points} {text : String} (hname : name.text? = some text) (s : α) :
    AutomationStorage.getByPoints s name = AutomationStorage.getByName s text := by
  unfold AutomationStorage.getByPoints
  rw [hname]

theorem Twin.getByName (h : Twin ρ zone known d e as) (hσ : ∀ id ∈ known, σ id = ρ id) {name : Text.Points}
    {text : String} (hname : name.text? = some text) :
    (e.answer now (.getByName name)).1 = ((d.answer now (.getByName name)).1).renamed σ := by
  have hd := LawfulAutomations.getByName_eq text h.left.holds
  have he := LawfulAutomations.getByName_eq text (h.agree hσ).holds
  have hfind : (as.map (·.renamed σ)).find? (fun a => a.name == text) =
      (as.find? fun a => a.name == text).map (·.renamed σ) := List.find?_map
  show (AutomationStorage.getByPoints e.store name).map _ =
    relabel σ _ ((AutomationStorage.getByPoints d.store name).map _)
  rw [getByPoints_of_text hname, getByPoints_of_text hname, hd, he, hfind, relabel_map]
  cases hfound : as.find? fun a => a.name == text with
  | none => rfl
  | some a => exact congrArg (fun b => Except.ok [b]) (h.shown (List.mem_of_find?_eq_some hfound))

theorem latestFirst_renamed : SavedAutomation.latestFirst (as.map (·.renamed σ)) =
    (SavedAutomation.latestFirst as).map (·.renamed σ) := by
  unfold SavedAutomation.latestFirst
  exact Eq.symm (List.map_mergeSort (f := SavedAutomation.renamed σ) fun _ _ _ _ => rfl)

theorem Twin.list (h : Twin ρ zone known d e as) (hσ : ∀ id ∈ known, σ id = ρ id) :
    (e.answer now .list).1 = ((d.answer now .list).1).renamed σ := by
  have hzone : ∀ a ∈ as, a.updatedAt.offset = some zone := fun a ha => (h.zoned a ha).2
  have hzone' : ∀ a ∈ as.map (·.renamed σ), a.updatedAt.offset = some zone :=
    List.forall_mem_map.mpr hzone
  have hd := LawfulAutomations.list_eq h.left.holds hzone
  have he := LawfulAutomations.list_eq (h.agree hσ).holds hzone'
  show AutomationStorage.list e.store = relabel σ _ (AutomationStorage.list d.store)
  rw [hd, he, latestFirst_renamed, List.map_map]
  show Except.ok _ = Except.ok _
  rw [List.map_map]
  refine congrArg Except.ok (List.map_congr_left fun a ha => ?_)
  exact h.shown (List.mem_mergeSort.mp ha)

/-! ### An edit -/

/-- The permutation with an id of one supply for an id of the other. -/
def extend (ρ : Equiv.Perm String) (id id' : String) : Equiv.Perm String := ρ.trans (Equiv.swap (ρ id) id')

theorem extend_self (id id' : String) : extend ρ id id' id = id' := Equiv.swap_apply_left _ _

theorem extend_of_ne {id id' other : String} (hne : other ≠ id) (hne' : ρ other ≠ id') :
    extend ρ id id' other = ρ other :=
  Equiv.swap_apply_of_ne_of_ne (fun h => hne (ρ.injective h)) hne'

/-- The next ids of the two supplies are the first for each other, and no known id is moved. -/
theorem Twin.extend_known (h : Twin ρ zone known d e as) {id : String} (hid : id ∈ known) :
    extend ρ d.ids.next.1 e.ids.next.1 id = ρ id := by
  obtain ⟨hgiven, hgiven'⟩ := h.given id hid
  refine extend_of_ne ?_ ?_
  · rintro rfl
    exact d.ids.next_not_given hgiven
  · intro hid'
    exact e.ids.next_not_given (hid' ▸ hgiven')

theorem Twin.extend_fixes (h : Twin ρ zone known d e as) {id : String} (hid : ¬ Ids.IsSupplied id) :
    extend ρ d.ids.next.1 e.ids.next.1 id = id := by
  have hfixed := h.fixes id hid
  refine (extend_of_ne ?_ ?_).trans hfixed
  · rintro rfl
    exact hid ⟨_, rfl⟩
  · rw [hfixed]
    rintro rfl
    exact hid ⟨_, rfl⟩

/-- What one call leads to: desks that keep the same under a permutation that moves no known id, and the same
    answer under every permutation that goes on from there. -/
def Follow (zone : Offset) (ρ : Equiv.Perm String) (known : List String) (d : Desk α) (e : Desk β)
    (now : Moment) (c : Call) : Prop :=
  ∃ ρ' known' as', (∀ id ∈ known, id ∈ known' ∧ ρ' id = ρ id) ∧
    Twin ρ' zone known' (d.answer now c).2 (e.answer now (c.renamed ρ')).2 as' ∧
    ∀ σ : Equiv.Perm String, (∀ id ∈ known', σ id = ρ' id) →
      (e.answer now (c.renamed σ)).1 = (d.answer now c).1.renamed σ ∧
        (e.answer now (c.renamed σ)).2 = (e.answer now (c.renamed ρ')).2

variable {x : Edit}

theorem Twin.edit_error (h : Twin ρ zone known d e as) (hx : x.IsDescribed) {fault : Fault}
    (hplan : x.plan as now = .error fault) (hσ : ∀ id ∈ known, σ id = ρ id) :
    (e.edit now (x.renamed σ)).1 = .error (fault.renamed σ) ∧
      (e.edit now (x.renamed σ)).2.Keeps (as.map (·.renamed σ)) := by
  have hplan' : (x.renamed σ).plan (as.map (·.renamed σ)) now = .error (fault.renamed σ) := by
    rw [Edit.plan_renamed, hplan]
    rfl
  exact edit_of_error (h.agree hσ) (Edit.isDescribed_renamed σ hx) hplan'

theorem Twin.edit_ok (h : Twin ρ zone known d e as) (hx : x.IsDescribed) {change : Change}
    (hplan : x.plan as now = .ok change) (hσ : ∀ id ∈ known, σ id = ρ id) :
    (e.edit now (x.renamed σ)).1 =
        .ok ((change.renamed σ).answer (LawfulAutomations.kept β) e.ids.next.1 now) ∧
      (e.edit now (x.renamed σ)).2.Keeps
        ((change.renamed σ).after e.ids.next.1 now (as.map (·.renamed σ))) := by
  have hplan' : (x.renamed σ).plan (as.map (·.renamed σ)) now = .ok (change.renamed σ) := by
    rw [Edit.plan_renamed, hplan]
    rfl
  exact edit_of_ok (h.agree hσ) (Edit.isDescribed_renamed σ hx) hplan'

/-- An edit that is refused at one desk is refused at the other, and both are as they were. -/
theorem Twin.follow_refused [AtomicAutomations β] (h : Twin ρ zone known d e as) (hx : x.IsDescribed)
    {fault : Fault} (hplan : x.plan as now = .error fault) : Follow zone ρ known d e now (.edit x) := by
  obtain ⟨hresult, hkeeps⟩ := edit_of_error h.left hx hplan
  have hids : d.ids.taken ≤ (d.edit now x).2.ids.taken := taken_le_edit h.left hx
  have hids' : e.ids.taken ≤ (e.edit now (x.renamed ρ)).2.ids.taken :=
    taken_le_edit h.right (Edit.isDescribed_renamed ρ hx)
  have hsame : ∀ id ∈ known, ρ id = ρ id := fun _ _ => rfl
  refine ⟨ρ, known, as, fun id hid => ⟨hid, rfl⟩, ⟨hkeeps, (h.edit_error hx hplan hsame).2, h.zoned, h.ids,
    fun id hid => ⟨(h.given id hid).1.mono hids, (h.given id hid).2.mono hids'⟩, h.fixes⟩, fun σ hσ => ⟨?_, ?_⟩⟩
  · show ((e.edit now (x.renamed σ)).1.map _ : Answer) = relabel σ _ ((d.edit now x).1.map _)
    rw [(h.edit_error hx hplan hσ).1, hresult]
    rfl
  · show (e.edit now (x.renamed σ)).2 = (e.edit now (x.renamed ρ)).2
    -- an id that was not given yet is renamed otherwise by `σ` than by `ρ`; being refused, the edit leaves
    -- the desk as it was for both
    cases hid : x.id? with
    | none =>
      rw [Edit.renamed_congr ρ (σ := σ) fun id hsome => by rw [hid] at hsome; cases hsome]
    | some id =>
      have hid' (τ : Equiv.Perm String) : (x.renamed τ).id? = some (τ id) := by
        cases x <;> cases hid <;> rfl
      rw [edit_refused (Edit.isDescribed_renamed σ hx) (hid' σ) (h.edit_error hx hplan hσ).1,
        edit_refused (Edit.isDescribed_renamed ρ hx) (hid' ρ) (h.edit_error hx hplan hsame).1]

/-- An edit that is not refused is about a new automation or one that is there. -/
theorem mem_ids_of_plan {change : Change} (hplan : x.plan as now = .ok change) {id : String}
    (hid : x.id? = some id) : id ∈ as.map SavedAutomation.id := by
  rcases Edit.plan_cases hplan with ⟨_, _, _, hnew, _⟩ | ⟨_, _, _, _, old, _, rfl, _, hversion⟩ |
    ⟨_, rfl, _, hmem⟩
  · rw [hnew] at hid
    cases hid
  · cases hid
    exact List.mem_map.mpr ⟨old, hversion.mem, hversion.old_id⟩
  · cases hid
    exact hmem

/-- What is kept after an edit has its times in the zone. -/
theorem Twin.zoned_after (h : Twin ρ zone known d e as) (hnow : now.offset = some zone) {change : Change}
    (hplan : x.plan as now = .ok change) (fresh : String) {a : SavedAutomation}
    (ha : a ∈ change.after fresh now as) : a.createdAt.offset = some zone ∧ a.updatedAt.offset = some zone := by
  rcases Edit.plan_cases hplan with ⟨name, flow, rfl, _⟩ | ⟨_, _, _, _, old, b, _, rfl, hversion⟩ |
    ⟨id, _, rfl, _⟩
  · rcases List.mem_append.mp ha with ha | ha
    · exact h.zoned a ha
    · rw [List.mem_singleton.mp ha]
      exact ⟨hnow, hnow⟩
  · rcases SavedAutomation.eq_or_mem_of_mem_replace ha with rfl | ⟨ha, _⟩
    · rw [hversion.createdAt, hversion.updatedAt]
      exact ⟨(h.zoned old hversion.mem).1, hnow⟩
    · exact h.zoned a ha
  · exact h.zoned a (List.mem_of_mem_filter ha)

theorem replace_renamed (as : List SavedAutomation) (a : SavedAutomation) :
    SavedAutomation.replace (as.map (·.renamed σ)) (a.renamed σ) =
      (SavedAutomation.replace as a).map (·.renamed σ) := by
  unfold SavedAutomation.replace
  rw [List.map_map, List.map_map]
  refine List.map_congr_left fun b _ => ?_
  show (if σ b.id = σ a.id then a.renamed σ else b.renamed σ) = (if b.id = a.id then a else b).renamed σ
  by_cases hid : b.id = a.id
  · rw [if_pos hid, if_pos (congrArg σ hid)]
  · rw [if_neg hid, if_neg fun hσ => hid (σ.injective hσ)]

/-- A change does not look at ids, when the new ones are renamed to each other. -/
theorem after_renamed (change : Change) {id id' : String} (hid : σ id = id') :
    (change.renamed σ).after id' now (as.map (·.renamed σ)) =
      (change.after id now as).map (·.renamed σ) := by
  cases change with
  | add name flow =>
    show _ ++ _ = (as ++ _).map _
    rw [List.map_append, ← hid]
    rfl
  | revise a => exact replace_renamed as a
  | remove removed =>
    show (as.map _).filter _ = (as.filter _).map _
    rw [List.filter_map]
    congr 2
    funext a
    exact decide_eq_decide.mpr σ.injective.ne_iff

/-- The same automation is handed back. -/
theorem Twin.answer_renamed (h : Twin ρ zone known d e as) (hnow : now.offset = some zone) {change : Change}
    (hplan : x.plan as now = .ok change) {id id' : String}
    (hid : ∀ a ∈ change.after id now as, a.id = id → σ id = id') :
    ((change.renamed σ).answer (LawfulAutomations.kept β) id' now).toList =
      ((change.answer (LawfulAutomations.kept α) id now).toList).map (·.renamed σ) := by
  cases change with
  | add name flow =>
    have hmem : (⟨id, name, flow, now, now⟩ : SavedAutomation) ∈ (Change.add name flow).after id now as :=
      List.mem_append_right as List.mem_cons_self
    show [(⟨id', name, flow, some now, some now⟩ : Automation)] = [⟨σ id, name, flow, some now, some now⟩]
    rw [hid _ hmem rfl]
  | revise a =>
    obtain ⟨b, hb, hba⟩ : ∃ b ∈ (Change.revise a).after id now as, b = a := by
      rcases Edit.plan_cases hplan with ⟨_, _, hadd, _⟩ | ⟨_, _, _, _, old, c, _, hrevise, hversion⟩ |
        ⟨_, _, hremove, _⟩
      · cases hadd
      · cases hrevise
        exact ⟨a, SavedAutomation.mem_replace hversion.mem hversion.same_id.symm, rfl⟩
      · cases hremove
    subst hba
    have hzoned := h.zoned_after hnow hplan id hb
    exact congrArg (fun c => [c]) (shown_renamed hzoned.1 hzoned.2)
  | remove removed => rfl

/-- **An edit that changes something at one desk changes the same at the other.** -/
theorem Twin.follow_changed (h : Twin ρ zone known d e as) (hx : x.IsDescribed) (hnow : now.offset = some zone)
    {change : Change} (hplan : x.plan as now = .ok change) : Follow zone ρ known d e now (.edit x) := by
  obtain ⟨hresult, hkeeps⟩ := edit_of_ok h.left hx hplan
  have hids : d.ids.taken ≤ (d.edit now x).2.ids.taken := taken_le_edit h.left hx
  -- the next ids of the two supplies belong together; when the edit takes none, nothing known has moved either
  let ρ' := extend ρ d.ids.next.1 e.ids.next.1
  let as' := change.after d.ids.next.1 now as
  have hρ' : ∀ id ∈ known, ρ' id = ρ id := fun id => h.extend_known
  have hids' : e.ids.taken ≤ (e.edit now (x.renamed ρ')).2.ids.taken :=
    taken_le_edit h.right (Edit.isDescribed_renamed ρ' hx)
  have hright : (e.edit now (x.renamed ρ')).2.Keeps (as'.map (·.renamed ρ')) := by
    have hkeeps' := (h.edit_ok hx hplan hρ').2
    rw [after_renamed change (extend_self d.ids.next.1 e.ids.next.1)] at hkeeps'
    exact hkeeps'
  refine ⟨ρ', as'.map SavedAutomation.id ++ known, as',
    fun id hid => ⟨List.mem_append_right _ hid, hρ' id hid⟩,
    ⟨hkeeps, hright, fun a ha => h.zoned_after hnow hplan _ ha,
      fun a ha => List.mem_append_left _ (List.mem_map_of_mem ha), fun id hid => ?_, fun id => h.extend_fixes⟩,
    fun σ hσ => ?_⟩
  · rcases List.mem_append.mp hid with hid | hid
    · obtain ⟨a, ha, rfl⟩ := List.mem_map.mp hid
      exact ⟨hkeeps.given a ha, hright.given _ (List.mem_map_of_mem ha)⟩
    · rw [hρ' id hid]
      exact ⟨(h.given id hid).1.mono hids, (h.given id hid).2.mono hids'⟩
  · have hσ' : ∀ id ∈ known, σ id = ρ id := fun id hid =>
      (hσ id (List.mem_append_right _ hid)).trans (hρ' id hid)
    have hfresh : ∀ a ∈ as', a.id = d.ids.next.1 → σ d.ids.next.1 = e.ids.next.1 := fun a ha hid => by
      rw [hσ _ (List.mem_append_left _ (hid ▸ List.mem_map_of_mem ha))]
      exact extend_self _ _
    have hedit : x.renamed σ = x.renamed ρ' := Edit.renamed_congr ρ' fun id hid => by
      obtain ⟨a, ha, rfl⟩ := List.mem_map.mp (mem_ids_of_plan hplan hid)
      rw [hσ' _ (h.ids a ha), hρ' _ (h.ids a ha)]
    constructor
    · show ((e.edit now (x.renamed σ)).1.map _ : Answer) = relabel σ _ ((d.edit now x).1.map _)
      rw [(h.edit_ok hx hplan hσ').1, hresult]
      exact congrArg Except.ok (h.answer_renamed hnow hplan hfresh)
    · show (e.edit now (x.renamed σ)).2 = (e.edit now (x.renamed ρ')).2
      rw [hedit]

/-! ### Any call -/

theorem Twin.follow_read (h : Twin ρ zone known d e as) {c : Call} (hd : (d.answer now c).2 = d)
    (he : ∀ σ, (e.answer now (c.renamed σ)).2 = e)
    (hanswer : ∀ σ : Equiv.Perm String, (∀ id ∈ known, σ id = ρ id) →
      (e.answer now (c.renamed σ)).1 = (d.answer now c).1.renamed σ) : Follow zone ρ known d e now c := by
  refine ⟨ρ, known, as, fun id hid => ⟨hid, rfl⟩, ?_, fun σ hσ => ⟨hanswer σ hσ, ?_⟩⟩
  · rw [hd, he]
    exact h
  · rw [he, he]

/-- **One call.** -/
theorem Twin.follow [AtomicAutomations β] (h : Twin ρ zone known d e as) {c : Call} (hc : c.IsDescribed)
    (hnow : now.offset = some zone) : Follow zone ρ known d e now c := by
  cases c with
  | edit x =>
    cases hplan : x.plan as now with
    | error fault => exact h.follow_refused hc hplan
    | ok change => exact h.follow_changed hc hnow hplan
  | get id => exact h.follow_read rfl (fun _ => rfl) fun σ hσ => h.get hσ id
  | getByName name =>
    obtain ⟨text, hname⟩ := hc
    exact h.follow_read rfl (fun _ => rfl) fun σ hσ => h.getByName hσ hname
  | list => exact h.follow_read rfl (fun _ => rfl) fun σ hσ => h.list hσ

/-! ## 5. Any calls -/

/-- **The same answers at both desks**, but for a permutation of the ids that the supplies gave. -/
theorem answers_renamed [AtomicAutomations β] (calls : List (Moment × Call)) {ρ : Equiv.Perm String}
    {known : List String} {d : Desk α} {e : Desk β} {as : List SavedAutomation}
    (h : Twin ρ zone known d e as) (hcalls : ∀ x ∈ calls, x.2.IsDescribed)
    (hzone : ∀ x ∈ calls, x.1.offset = some zone) :
    ∃ σ : Equiv.Perm String, (∀ id ∈ known, σ id = ρ id) ∧ (∀ id, ¬ Ids.IsSupplied id → σ id = id) ∧
      e.answers (calls.map fun x => (x.1, x.2.renamed σ)) = (d.answers calls).map (Answer.renamed σ) := by
  induction calls generalizing ρ known d e as with
  | nil => exact ⟨ρ, fun _ _ => rfl, h.fixes, rfl⟩
  | cons x calls ih =>
    obtain ⟨now, c⟩ := x
    obtain ⟨ρ', known', as', hknown, hnext, hanswer⟩ :=
      h.follow (hcalls _ List.mem_cons_self) (hzone _ List.mem_cons_self)
    obtain ⟨σ, hσ, hfixes, hrest⟩ := ih hnext (fun y hy => hcalls y (List.mem_cons_of_mem _ hy))
      fun y hy => hzone y (List.mem_cons_of_mem _ hy)
    obtain ⟨hfirst, hdesk⟩ := hanswer σ hσ
    refine ⟨σ, fun id hid => (hσ id (hknown id hid).1).trans (hknown id hid).2, hfixes, ?_⟩
    show (e.answer now (c.renamed σ)).1 :: (e.answer now (c.renamed σ)).2.answers _ =
      (d.answer now c).1.renamed σ :: ((d.answer now c).2.answers calls).map _
    rw [hfirst, hdesk, hrest]

end

/-- **A store in memory and a table are interchangeable**: whatever is asked of them, with described flows
    and whole names and at the same readings of a clock in one zone, the answers are the same under a
    permutation of the ids that the supplies gave. -/
theorem stores_interchangeable (zone : Offset) (ids ids' : Ids) (calls : List (Moment × Call))
    (hcalls : ∀ x ∈ calls, x.2.IsDescribed) (hzone : ∀ x ∈ calls, x.1.offset = some zone) :
    ∃ σ : Equiv.Perm String, (∀ id, ¬ Ids.IsSupplied id → σ id = id) ∧
      (⟨AutomationTable.empty, ids'⟩ : Desk AutomationTable).answers
          (calls.map fun x => (x.1, x.2.renamed σ)) =
        ((⟨MemoryAutomations.empty, ids⟩ : Desk MemoryAutomations).answers calls).map (Answer.renamed σ) := by
  have h : Twin (Equiv.refl String) zone [] (fresh MemoryAutomations ids) (fresh AutomationTable ids') [] :=
    ⟨keeps_fresh ids, keeps_fresh ids', List.forall_mem_nil _, List.forall_mem_nil _, List.forall_mem_nil _,
      fun _ _ => rfl⟩
  obtain ⟨σ, _, hfixes, hanswers⟩ := answers_renamed calls h hcalls hzone
  exact ⟨σ, hfixes, hanswers⟩

/-- Calls of which the second costs the table an id, so that the automation under "id-2" has another id
    there. -/
def noteCalls : List (Moment × Call) :=
  [.edit (.create (some "First") noteFlow), .edit (.create (some "First") noteFlow),
    .edit (.create (some "Second") noteFlow), .get "id-2", .edit (.update "id-2" (some "Last") none none),
    .getByName (.ofText "Last"), .edit (.delete "id-1"), .edit (.delete "id-9"), .list].map (Moment.first, ·)

theorem stores_interchangeable_notes :
    (∀ x ∈ noteCalls, x.2.IsDescribed) ∧ (∀ x ∈ noteCalls, x.1.offset = some .utc) ∧
      ∃ σ : Equiv.Perm String, (∀ id, ¬ Ids.IsSupplied id → σ id = id) ∧
        (⟨AutomationTable.empty, ⟨0⟩⟩ : Desk AutomationTable).answers
            (noteCalls.map fun x => (x.1, x.2.renamed σ)) =
          ((⟨MemoryAutomations.empty, ⟨0⟩⟩ : Desk MemoryAutomations).answers noteCalls).map
            (Answer.renamed σ) := by
  have hcalls : ∀ x ∈ noteCalls, x.2.IsDescribed := by
    have hlast : (Text.Points.ofText "Last").text? = some "Last" := by decide +kernel
    simp [noteCalls, Call.IsDescribed, Edit.IsDescribed, isDescribed_noteFlow, hlast]
  have hzone : ∀ x ∈ noteCalls, x.1.offset = some .utc := by
    intro x hx
    obtain ⟨c, _, rfl⟩ := List.mem_map.mp hx
    rfl
  exact ⟨hcalls, hzone, stores_interchangeable .utc ⟨0⟩ ⟨0⟩ noteCalls hcalls hzone⟩

/-- The third answers: the second automation, with an id of its own in each store. -/
example : ((⟨AutomationTable.empty, ⟨0⟩⟩ : Desk AutomationTable).answers (noteCalls.take 3))[2]? =
      some (.ok [⟨"id-3", "Second", noteFlow, some Moment.first, some Moment.first⟩]) ∧
    ((⟨MemoryAutomations.empty, ⟨0⟩⟩ : Desk MemoryAutomations).answers (noteCalls.take 3))[2]? =
      some (.ok [⟨"id-2", "Second", noteFlow, some Moment.first, some Moment.first⟩]) := by
  decide +kernel

/-- **Half a character tells the two apart**: in memory nothing has a name with one in it, and a query of the
    table cannot be asked for it. -/
theorem stores_differ_on_halves :
    let calls : List (Moment × Call) := [(Moment.first, .getByName [0xD83D])]
    let memory := (⟨MemoryAutomations.empty, ⟨0⟩⟩ : Desk MemoryAutomations).answers
    let table := (⟨AutomationTable.empty, ⟨0⟩⟩ : Desk AutomationTable).answers
    memory calls = [.ok []] ∧ table calls = [.error (.nameNotWhole [0xD83D])] ∧
      ¬ ∃ σ : Equiv.Perm String,
        table (calls.map fun x => (x.1, x.2.renamed σ)) = (memory calls).map (Answer.renamed σ) := by
  refine ⟨rfl, rfl, ?_⟩
  rintro ⟨σ, h⟩
  cases (List.cons.inj h).1

end Desk

end Authoring

end Dripline
