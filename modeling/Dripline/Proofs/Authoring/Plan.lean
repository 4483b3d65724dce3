import Dripline.Saving
import Dripline.Proofs.Document.RoundTrip
import Dripline.Proofs.Outcome
import Dripline.Proofs.Store.Automations

/-!
# What an edit comes to

An edit of automations is refused, or it comes to one change of what the store holds:

* `Flow.IsDescribed`: flows that were read from the lists of an editor or from a text;
* `Edit.plan`: what an edit comes to among given automations, without a store. The checks stand in the
  order in which they are made: name, flow, names of the others for a new automation; the flow's two
  parts, the id, name, flow, names of the others for a new version;
* `Change.after`: what is held after a change;
* **`perform_follows`**: every lawful store that holds those automations follows the plan, and the ids of
  what it holds stay among those that were given.
-/

namespace Dripline

/-! ## 1. Described flows -/

/-- A flow that the lists of an editor or the text of a document describe. -/
def Flow.IsDescribed (f : Flow) : Prop :=
  (∃ nodes edges, Flow.ofLists nodes edges = .ok f) ∨
    ∃ text id a, Automation.ofText text id = .ok a ∧ a.flow = f

theorem Flow.IsDescribed.isSettled {f : Flow} (h : f.IsDescribed) : f.IsSettled := by
  rcases h with ⟨nodes, edges, h⟩ | ⟨text, id, a, h, rfl⟩
  · exact Flow.isSettled_of_ofLists h
  · obtain ⟨v, hv⟩ := Automation.exists_of_ofText h
    exact (Automation.isSettled_of_ofDocument hv).1

/-- The nodes and edges of a flow that sends one message, as an editor hands them in. -/
def noteLists : Value × Value :=
  (.list [.object [("id", .text "start"), ("type", .text "start")],
      .object [("id", .text "mail"), ("type", .text "action"),
        ("data", .object [("message", .text "hello")])],
      .object [("id", .text "end"), ("type", .text "end")]],
    .list [.object [("source", .text "start"), ("target", .text "mail")],
      .object [("source", .text "mail"), ("target", .text "end")]])

/-- The flow of these lists. -/
def noteFlow : Flow where
  nodes := [⟨"start", .start, .empty⟩, ⟨"mail", .action, .action (some "hello")⟩, ⟨"end", .finish, .empty⟩]
  edges := [⟨"start->mail", "start", "mail", none⟩, ⟨"mail->end", "mail", "end", none⟩]

theorem isDescribed_noteFlow : noteFlow.IsDescribed :=
  .inl ⟨noteLists.1, noteLists.2, by decide +kernel⟩

namespace Authoring

/-! ## 2. Edits -/

/-- What can be asked for to change the automations of a store. -/
inductive Edit where
  | create (name : Option String) (flow : Flow)
  | createFromEntries (entries : List (Value × Value))
  | update (id : String) (name : Option String) (nodes : Option (List Node)) (edges : Option (List Edge))
  | delete (id : String)

/-- The flows that an edit carries are described. -/
def Edit.IsDescribed : Edit → Prop
  | .create _ flow => flow.IsDescribed
  | .createFromEntries _ => True
  | .update _ _ nodes edges =>
    (∀ ns, nodes = some ns → ∃ f : Flow, f.IsDescribed ∧ f.nodes = ns) ∧
      ∀ es, edges = some es → ∃ f : Flow, f.IsDescribed ∧ f.edges = es
  | .delete _ => True

/-- The id of the automation that an edit is about, when it is not a new one. -/
def Edit.id? : Edit → Option String
  | .create _ _ => none
  | .createFromEntries _ => none
  | .update id _ _ _ => some id
  | .delete id => some id

/-- The outcome with a function of what it returns. -/
def Outcome.map {α β γ : Type} (f : β → γ) (o : Outcome α β) : Outcome α γ :=
  ⟨o.result.map f, o.store, o.ids, o.lines⟩

/-- An edit, as it is performed. It returns the automation that was saved, if one was. -/
def Edit.perform {α : Type} [AutomationStorage α] (store : α) (ids : Ids) (now : Moment) :
    Edit → Outcome α (Option Automation)
  | .create name flow => (Authoring.create store ids now name flow).map some
  | .createFromEntries es => (Authoring.createFromEntries store ids now es).map some
  | .update id name nodes edges => (Authoring.update store ids now id name nodes edges).map some
  | .delete id => (Authoring.delete store ids id).map fun _ => none

/-! ## 3. What an edit comes to -/

/-- A change of what a store holds. -/
inductive Change where
  | add (name : String) (flow : Flow)
  | revise (a : SavedAutomation)
  | remove (id : String)

/-- What a store holds after a change, when the next id is `fresh`. -/
def Change.after (fresh : String) (now : Moment) (as : List SavedAutomation) : Change → List SavedAutomation
  | .add name flow => as ++ [⟨fresh, name, flow, now, now⟩]
  | .revise a => SavedAutomation.replace as a
  | .remove id => as.filter fun a => a.id ≠ id

/-- What is returned after a change. A new automation has its times as they are. -/
def Change.answer (kept : Moment → Moment) (fresh : String) (now : Moment) : Change → Option Automation
  | .add name flow => some ⟨fresh, name, flow, some now, some now⟩
  | .revise a => some (a.shown kept)
  | .remove _ => none

/-- The name of a new automation whose name and flow are acceptable. -/
def checked (now : Moment) (name : Option String) (flow : Flow) : Except Fault String := do
  let name ← acceptName name
  checkFlow flow now
  .ok name

/-- The name under which a new automation is accepted among others. -/
def admission (as : List SavedAutomation) (now : Moment) (name : Option String) (flow : Flow) :
    Except Fault String := do
  let name ← checked now name flow
  if name ∈ as.map SavedAutomation.name then .error (.nameTaken name) else .ok name

/-- The name and the flow that an editor handed in. -/
def draftOf (es : List (Value × Value)) : Except Fault (Option String × Flow) :=
  match requiredFields.filter (isAbsent es) with
  | name :: names => .error (.rejected [.missingFields (name :: names)])
  | [] => do
    let flow ← (Flow.ofLists ((Value.entry? "nodes" es).getD .null)
      ((Value.entry? "edges" es).getD .null)).mapError .document
    let name ← nameOf ((Value.entry? "name" es).getD .null)
    .ok (name, flow)

/-- The automation under an id. -/
def lookup (as : List SavedAutomation) (id : String) : Except Fault SavedAutomation :=
  match as.find? fun a => a.id == id with
  | none => .error (.noAutomation id)
  | some a => .ok a

/-- The new name of an automation, or the one it has. -/
def newName (old : String) : Option String → Except Fault String
  | none => .ok old
  | some name => acceptName (some name)

/-- The new flow of an automation, or the one it has. -/
def newFlow (old : Flow) (now : Moment) : Option Flow → Except Fault Flow
  | none => .ok old
  | some flow => (checkFlow flow now).map fun _ => flow

/-- A new version of an automation whose name and flow are acceptable. -/
def redraft (as : List SavedAutomation) (now : Moment) (id : String) (name : Option String)
    (nodes : Option (List Node)) (edges : Option (List Edge)) : Except Fault SavedAutomation := do
  let flow ← together nodes edges
  let old ← lookup as id
  let name ← newName old.name name
  let flow ← newFlow old.flow now flow
  .ok { old with name := name, flow := flow, updatedAt := now }

/-- The new version of an automation that is accepted among the others. -/
def version (as : List SavedAutomation) (now : Moment) (id : String) (name : Option String)
    (nodes : Option (List Node)) (edges : Option (List Edge)) : Except Fault SavedAutomation := do
  let a ← redraft as now id name nodes edges
  if as.any fun b => b.name == a.name && b.id != a.id then .error (.nameTaken a.name) else .ok a

/-- **What an edit comes to** in a store that holds given automations. -/
def Edit.plan (as : List SavedAutomation) (now : Moment) : Edit → Except Fault Change
  | .create name flow => (admission as now name flow).map fun name => .add name flow
  | .createFromEntries es =>
    match draftOf es with
    | .error fault => .error fault
    | .ok (name, flow) => (admission as now name flow).map fun name => .add name flow
  | .update id name nodes edges => (version as now id name nodes edges).map .revise
  | .delete id => (lookup as id).map fun _ => .remove id

/-! ## 4. Every store does so -/

/-- The ids of what is held were taken from the supply. -/
def AllGiven (ids : Ids) (as : List SavedAutomation) : Prop := ∀ a ∈ as, ids.HasGiven a.id

theorem not_mem_ids_of_given {ids : Ids} {as : List SavedAutomation} (hgiven : AllGiven ids as) :
    ids.next.1 ∉ as.map SavedAutomation.id := by
  intro hmem
  obtain ⟨a, ha, hid⟩ := List.mem_map.mp hmem
  exact ids.next_not_given (hid ▸ hgiven a ha)

section

variable {α : Type} [AutomationStorage α] {s : α} {as : List SavedAutomation} {ids : Ids} {now : Moment}

theorem create_eq (name : Option String) (flow : Flow) : create s ids now name flow =
    match checked now name flow with
    | .error fault => ⟨.error fault, s, ids, []⟩
    | .ok accepted =>
      let created := AutomationStorage.create s ⟨"", accepted, flow, none, none⟩ now ids
      match created.result with
      | .error fault => ⟨.error fault, created.store, created.ids, []⟩
      | .ok a => ⟨.ok a, created.store, created.ids, [note "Created" a]⟩ := by
  unfold create checked
  cases acceptName name with
  | error fault => rfl
  | ok accepted =>
    dsimp only [bind, Except.bind]
    cases checkFlow flow now with
    | error fault => rfl
    | ok u => rfl

theorem createFromEntries_eq (es : List (Value × Value)) : createFromEntries s ids now es =
    match draftOf es with
    | .error fault => refuse s ids fault
    | .ok (name, flow) => create s ids now name flow := by
  unfold createFromEntries draftOf
  cases requiredFields.filter (isAbsent es) with
  | cons name names => rfl
  | nil =>
    dsimp only
    cases Flow.ofLists ((Value.entry? "nodes" es).getD .null) ((Value.entry? "edges" es).getD .null) with
    | error fault => rfl
    | ok flow =>
      dsimp only
      cases nameOf ((Value.entry? "name" es).getD .null) with
      | error fault => rfl
      | ok name => rfl

theorem settled_of_draftOf {es : List (Value × Value)} {name : Option String} {flow : Flow}
    (h : draftOf es = .ok (name, flow)) : flow.IsSettled := by
  unfold draftOf at h
  split at h
  · cases h
  · obtain ⟨f, hlists, h⟩ := bind_eq_ok h
    obtain ⟨_, _, h⟩ := bind_eq_ok h
    cases h
    exact Flow.isSettled_of_ofLists (mapError_eq_ok hlists)

theorem mem_of_lookup {id : String} {a : SavedAutomation} (h : lookup as id = .ok a) : a ∈ as := by
  unfold lookup at h
  split at h
  · cases h
  · rename_i hfound
    cases h
    exact List.mem_of_find?_eq_some hfound

theorem lookup_of_mem (h : (as.map SavedAutomation.id).Nodup) {a : SavedAutomation} (ha : a ∈ as) :
    lookup as a.id = .ok a := by
  unfold lookup
  rw [SavedAutomation.find?_of_mem h ha]

theorem rename_eq (a : Automation) (name : Option String) :
    rename a name = (newName a.name name).map fun name => { a with name := name } := by
  cases name with
  | none => rfl
  | some name => rfl

theorem reflow_eq (a : Automation) (flow : Option Flow) :
    reflow a now flow = (newFlow a.flow now flow).map fun flow => { a with flow := flow } := by
  cases flow with
  | none => rfl
  | some flow =>
    unfold reflow newFlow
    dsimp only
    cases checkFlow flow now with
    | error fault => rfl
    | ok u => rfl

end

section

variable {α : Type} [AutomationStorage α] [LawfulAutomations α] {s : α} {as : List SavedAutomation}
  {ids : Ids} {now : Moment}

open LawfulAutomations (Holds kept)

/-- What an edit does to a store, by the change that it comes to. -/
def Follows (ids : Ids) (as : List SavedAutomation) (now : Moment) (plan : Except Fault Change)
    (o : Outcome α (Option Automation)) : Prop :=
  ids.taken ≤ o.ids.taken ∧
    match plan with
    | .error fault => o.result = .error fault ∧ Holds o.store as
    | .ok change =>
      o.result = .ok (change.answer (kept α) ids.next.1 now) ∧ Holds o.store (change.after ids.next.1 now as) ∧
        AllGiven o.ids (change.after ids.next.1 now as)

/-- **A new automation**: it is refused, or it is added at the end under the next id. -/
theorem create_follows (h : Holds s as) (hgiven : AllGiven ids as) (name : Option String) {flow : Flow}
    (hflow : flow.IsSettled) :
    Follows ids as now ((admission as now name flow).map fun name => .add name flow)
      ((create s ids now name flow).map some) := by
  unfold admission
  cases hchecked : checked now name flow with
  | error fault =>
    rw [create_eq, hchecked]
    exact ⟨Nat.le_refl _, rfl, h⟩
  | ok accepted =>
    rw [create_eq, hchecked]
    show Follows ids as now ((if accepted ∈ as.map SavedAutomation.name then
      Except.error (.nameTaken accepted) else .ok accepted).map _) _
    by_cases htaken : accepted ∈ as.map SavedAutomation.name
    · obtain ⟨ids', hcreate, hle⟩ := LawfulAutomations.create_taken
        (a := ⟨"", accepted, flow, none, none⟩) now ids h htaken
      rw [if_pos htaken]
      dsimp only
      rw [hcreate]
      exact ⟨hle, rfl, h⟩
    · obtain ⟨s', hcreate, hholds⟩ := LawfulAutomations.create_free
        (a := ⟨"", accepted, flow, none, none⟩) now h hflow htaken (not_mem_ids_of_given hgiven)
      rw [if_neg htaken]
      dsimp only
      rw [hcreate]
      refine ⟨Nat.le_succ _, rfl, hholds, ?_⟩
      refine List.forall_mem_append.mpr ⟨fun a ha => (hgiven a ha).mono (Nat.le_succ _), ?_⟩
      exact List.forall_mem_singleton.mpr ids.next_given

theorem createFromEntries_follows (h : Holds s as) (hgiven : AllGiven ids as) (es : List (Value × Value)) :
    Follows ids as now (Edit.plan as now (.createFromEntries es))
      ((createFromEntries s ids now es).map some) := by
  rw [createFromEntries_eq]
  unfold Edit.plan
  dsimp only
  cases hdraft : draftOf es with
  | error fault => exact ⟨Nat.le_refl _, rfl, h⟩
  | ok draft => exact create_follows h hgiven draft.1 (settled_of_draftOf hdraft)

theorem get_eq (h : Holds s as) (id : String) : get s id = (lookup as id).map (·.shown (kept α)) := by
  unfold get lookup
  rw [LawfulAutomations.get_eq id h]
  cases as.find? fun a => a.id == id <;> rfl

/-- **A new version before the names are compared**: what is read from the store, with a new name and a new
    flow. -/
theorem revision_spec (h : Holds s as) (now : Moment) (id : String) (name : Option String) (nodes : Option (List Node))
    (edges : Option (List Edge)) :
    match redraft as now id name nodes edges with
    | .error fault => revision s now id name nodes edges = .error fault
    | .ok a => ∃ old ∈ as, ∃ b, revision s now id name nodes edges = .ok b ∧ old.id = b.id ∧
        a = old.revised b now := by
  have hredraft : redraft as now id name nodes edges = (together nodes edges).bind fun flow =>
      (lookup as id).bind fun old => (newName old.name name).bind fun name =>
        (newFlow old.flow now flow).bind fun flow =>
          .ok { old with name := name, flow := flow, updatedAt := now } := rfl
  have hrevision : revision s now id name nodes edges = (together nodes edges).bind fun flow =>
      (get s id).bind fun a => (rename a name).bind fun a => reflow a now flow := rfl
  rw [hredraft, hrevision, get_eq h]
  cases together nodes edges with
  | error fault => rfl
  | ok flow =>
    dsimp only [Except.bind]
    cases hold : lookup as id with
    | error fault => rfl
    | ok old =>
      dsimp only [Except.bind, Except.map]
      rw [rename_eq]
      cases hname : newName old.name name with
      | error fault =>
        rw [show newName (old.shown (kept α)).name name = .error fault from hname]
        rfl
      | ok accepted =>
        rw [show newName (old.shown (kept α)).name name = .ok accepted from hname]
        dsimp only [Except.bind, Except.map]
        rw [reflow_eq]
        cases hflow : newFlow old.flow now flow with
        | error fault =>
          dsimp only
          rw [show newFlow (old.shown (kept α)).flow now flow = .error fault from hflow]
          rfl
        | ok f =>
          dsimp only
          rw [show newFlow (old.shown (kept α)).flow now flow = .ok f from hflow]
          refine ⟨old, mem_of_lookup hold, _, rfl, rfl, rfl⟩

theorem newName_cases {old accepted : String} {name : Option String} (h : newName old name = .ok accepted) :
    name = none ∧ accepted = old ∨ ∃ given, name = some given ∧ acceptName (some given) = .ok accepted := by
  cases name with
  | none =>
    cases h
    exact .inl ⟨rfl, rfl⟩
  | some given => exact .inr ⟨given, rfl, h⟩

theorem newFlow_cases {old f : Flow} {flow : Option Flow} (h : newFlow old now flow = .ok f) :
    flow = none ∧ f = old ∨ flow = some f ∧ checkFlow f now = .ok () := by
  cases flow with
  | none =>
    cases h
    exact .inl ⟨rfl, rfl⟩
  | some g =>
    obtain ⟨_, hcheck, rfl⟩ := map_eq_ok h
    exact .inr ⟨rfl, hcheck⟩

/-- A new version: the old one with what its new name and its new flow came to. -/
theorem redraft_inv {id : String} {name : Option String} {nodes : Option (List Node)}
    {edges : Option (List Edge)} {a : SavedAutomation} (h : redraft as now id name nodes edges = .ok a) :
    ∃ flow old accepted f, together nodes edges = .ok flow ∧ lookup as id = .ok old ∧
      newName old.name name = .ok accepted ∧ newFlow old.flow now flow = .ok f ∧
      a = { old with name := accepted, flow := f, updatedAt := now } := by
  obtain ⟨flow, htogether, h⟩ := bind_eq_ok h
  obtain ⟨old, hold, h⟩ := bind_eq_ok h
  obtain ⟨accepted, hname, h⟩ := bind_eq_ok h
  obtain ⟨f, hflow, h⟩ := bind_eq_ok h
  cases h
  exact ⟨flow, old, accepted, f, htogether, hold, hname, hflow, rfl⟩

theorem together_cases {nodes : Option (List Node)} {edges : Option (List Edge)} {flow : Option Flow}
    (h : together nodes edges = .ok flow) :
    nodes = none ∧ edges = none ∧ flow = none ∨
      ∃ ns es, nodes = some ns ∧ edges = some es ∧ flow = some ⟨ns, es⟩ := by
  cases nodes with
  | none =>
    cases edges with
    | none =>
      cases h
      exact .inl ⟨rfl, rfl, rfl⟩
    | some es => cases h
  | some ns =>
    cases edges with
    | none => cases h
    | some es =>
      cases h
      exact .inr ⟨ns, es, rfl, rfl, rfl⟩

/-- A flow whose parts are described is settled. -/
theorem settled_of_together {id : String} {name : Option String} {nodes : Option (List Node)}
    {edges : Option (List Edge)} {f : Flow} (h : together nodes edges = .ok (some f))
    (hdescribed : (Edit.update id name nodes edges).IsDescribed) : f.IsSettled := by
  rcases together_cases h with ⟨_, _, hnone⟩ | ⟨ns, es, rfl, rfl, hsome⟩
  · cases hnone
  · cases hsome
    obtain ⟨f, hf, rfl⟩ := hdescribed.1 ns rfl
    obtain ⟨g, hg, rfl⟩ := hdescribed.2 es rfl
    exact ⟨hf.isSettled.nodes, hg.isSettled.edges⟩

/-- The flow of a new version is settled when its parts are described. -/
theorem settled_of_redraft {id : String} {name : Option String} {nodes : Option (List Node)}
    {edges : Option (List Edge)} {a : SavedAutomation} (h : redraft as now id name nodes edges = .ok a)
    (hsettled : ∀ b ∈ as, b.flow.IsSettled) (hdescribed : (Edit.update id name nodes edges).IsDescribed) :
    a.flow.IsSettled := by
  obtain ⟨flow, old, accepted, f, htogether, hold, _, hflow, rfl⟩ := redraft_inv h
  rcases newFlow_cases hflow with ⟨_, rfl⟩ | ⟨rfl, _⟩
  · exact hsettled old (mem_of_lookup hold)
  · exact settled_of_together htogether hdescribed

theorem allGiven_replace {a : SavedAutomation} (hgiven : AllGiven ids as) (ha : ids.HasGiven a.id) :
    AllGiven ids (SavedAutomation.replace as a) := by
  intro b hb
  rcases SavedAutomation.eq_or_mem_of_mem_replace hb with rfl | ⟨hb, _⟩
  · exact ha
  · exact hgiven b hb

/-- **A new version**: it is refused, or it takes the place of the old one. -/
theorem update_follows (h : Holds s as) (hgiven : AllGiven ids as) {id : String} {name : Option String}
    {nodes : Option (List Node)} {edges : Option (List Edge)}
    (hdescribed : (Edit.update id name nodes edges).IsDescribed) :
    Follows ids as now (Edit.plan as now (.update id name nodes edges))
      ((update s ids now id name nodes edges).map some) := by
  have hrevision := revision_spec h now id name nodes edges
  unfold Edit.plan version update
  dsimp only
  cases hredraft : redraft as now id name nodes edges with
  | error fault =>
    rw [hredraft] at hrevision
    dsimp only at hrevision
    rw [hrevision]
    exact ⟨Nat.le_refl _, rfl, h⟩
  | ok a =>
    have hflow := settled_of_redraft hredraft (LawfulAutomations.settled h) hdescribed
    rw [hredraft] at hrevision
    obtain ⟨old, hold, b, hb, hid, rfl⟩ := hrevision
    rw [hb]
    show Follows ids as now ((if (as.any fun c => c.name == b.name && c.id != old.id) = true then
      Except.error (.nameTaken b.name) else .ok (old.revised b now)).map Change.revise) _
    by_cases htaken : (as.any fun c => c.name == b.name && c.id != old.id) = true
    · obtain ⟨c, hc, htest⟩ := List.any_eq_true.mp htaken
      obtain ⟨hcname, hcid⟩ := (Bool.and_eq_true _ _).mp htest
      have hupdate := LawfulAutomations.update_taken (a := b) now h
        (List.mem_map.mpr ⟨old, hold, hid⟩)
        ⟨c, hc, beq_iff_eq.mp hcname, hid ▸ bne_iff_ne.mp hcid⟩
      rw [if_pos htaken]
      dsimp only
      rw [hupdate]
      exact ⟨Nat.le_refl _, rfl, h⟩
    · obtain ⟨s', hupdate, hholds⟩ := LawfulAutomations.update_free (a := b) now h hflow hold hid
        fun c hc hcname => by
          by_contra hcid
          refine htaken (List.any_eq_true.mpr ⟨c, hc, (Bool.and_eq_true _ _).mpr ⟨?_, ?_⟩⟩)
          · exact beq_iff_eq.mpr hcname
          · exact bne_iff_ne.mpr (hid ▸ hcid)
      rw [if_neg htaken]
      dsimp only
      rw [hupdate]
      exact ⟨Nat.le_refl _, rfl, hholds, allGiven_replace hgiven (hgiven old hold)⟩

/-- **A deletion**: it is refused, or the automation under the id is gone. -/
theorem delete_follows (h : Holds s as) (hgiven : AllGiven ids as) (id : String) :
    Follows ids as now (Edit.plan as now (.delete id)) ((delete s ids id).map fun _ => none) := by
  obtain ⟨s', hdelete, hholds⟩ := LawfulAutomations.delete_eq id h
  unfold Edit.plan lookup delete
  dsimp only
  rw [hdelete]
  cases hfound : as.find? fun a => a.id == id with
  | none =>
    have hnone : (as.any fun a => a.id == id) = false := by rw [← List.isSome_find?, hfound]; rfl
    have hsame : (as.filter fun a => a.id ≠ id) = as :=
      List.filter_eq_self.mpr fun a ha =>
        decide_eq_true fun hid => List.find?_eq_none.mp hfound a ha (beq_iff_eq.mpr hid)
    rw [hnone]
    rw [hsame] at hholds
    exact ⟨Nat.le_refl _, rfl, hholds⟩
  | some a =>
    have hsome : (as.any fun a => a.id == id) = true := by rw [← List.isSome_find?, hfound]; rfl
    rw [hsome]
    exact ⟨Nat.le_refl _, rfl, hholds, fun b hb => hgiven b (List.mem_of_mem_filter hb)⟩

/-- **Every lawful store follows the plan of an edit.** -/
theorem perform_follows (h : Holds s as) (hgiven : AllGiven ids as) {e : Edit} (he : e.IsDescribed) :
    Follows ids as now (e.plan as now) (e.perform s ids now) := by
  cases e with
  | create name flow => exact create_follows h hgiven name he.isSettled
  | createFromEntries es => exact createFromEntries_follows h hgiven es
  | update id name nodes edges => exact update_follows h hgiven he
  | delete id => exact delete_follows h hgiven id

end

/-! ## 5. A desk -/

/-- A store with the supply of ids for it: what edits are made at. -/
structure Desk (α : Type) where
  store : α
  ids : Ids

namespace Desk

variable {α : Type} [AutomationStorage α]

/-- An edit at a desk: its result, and the desk after it. -/
def edit (d : Desk α) (now : Moment) (e : Edit) : Except Fault (Option Automation) × Desk α :=
  let o := e.perform d.store d.ids now
  (o.result, ⟨o.store, o.ids⟩)

variable [LawfulAutomations α]

/-- What is kept at a desk. -/
structure Keeps (d : Desk α) (as : List SavedAutomation) : Prop where
  holds : LawfulAutomations.Holds d.store as
  given : AllGiven d.ids as

/-- The desk at which nothing was edited yet. -/
def fresh (α : Type) [AutomationStorage α] [LawfulAutomations α] (ids : Ids) : Desk α :=
  ⟨LawfulAutomations.blank, ids⟩

theorem keeps_fresh (ids : Ids) : (fresh α ids).Keeps [] :=
  ⟨LawfulAutomations.holds_blank, List.forall_mem_nil _⟩

variable {d : Desk α} {as : List SavedAutomation} {now : Moment} {e : Edit}

theorem taken_le_edit (h : d.Keeps as) (he : e.IsDescribed) :
    d.ids.taken ≤ (d.edit now e).2.ids.taken :=
  (perform_follows h.holds h.given he).1

/-- An edit that comes to nothing. -/
theorem edit_of_error (h : d.Keeps as) (he : e.IsDescribed) {fault : Fault}
    (hplan : e.plan as now = .error fault) :
    (d.edit now e).1 = .error fault ∧ (d.edit now e).2.Keeps as := by
  obtain ⟨hids, hfollows⟩ : Follows d.ids as now _ _ := perform_follows h.holds h.given he
  rw [hplan] at hfollows
  exact ⟨hfollows.1, hfollows.2, fun a ha => (h.given a ha).mono hids⟩

/-- An edit that comes to a change. -/
theorem edit_of_ok (h : d.Keeps as) (he : e.IsDescribed) {change : Change}
    (hplan : e.plan as now = .ok change) :
    (d.edit now e).1 = .ok (change.answer (LawfulAutomations.kept α) d.ids.next.1 now) ∧
      (d.edit now e).2.Keeps (change.after d.ids.next.1 now as) := by
  obtain ⟨_, hfollows⟩ : Follows d.ids as now _ _ := perform_follows h.holds h.given he
  rw [hplan] at hfollows
  exact ⟨hfollows.1, hfollows.2.1, hfollows.2.2⟩

end Desk

end Authoring

end Dripline
