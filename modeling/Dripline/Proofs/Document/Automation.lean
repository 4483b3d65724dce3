import Dripline.Proofs.Document.Shape
import Dripline.Proofs.Outcome

/-!
# Automations read back

Reading a document goes through a draft, and so does the round trip:

* `draft`: what the document of a node, an edge, a flow or an automation says, and `shape_document` that
  it is read so, whatever the kinds, ids and times are;
* `IsSettled`: what settling establishes: data of the kind of its node, times in universal time and
  edges with ids (`isSettled_of_settle`), and that settling its draft gives it back (`settle_draft`);
* **`Automation.ofDocument_document`**, **`Flow.ofLists_documents`**: a settled automation and a settled
  flow are read back from what they are written as;
* **`Automation.isPlain_document`**: a document is written with nothing but mappings whose keys are
  different texts, lists, texts, numbers and null.
-/

namespace Dripline

open Shape Value

/-! ## 1. What a document says -/

/-- The draft that data is written as. -/
def NodeData.draft : NodeData → DataDraft
  | .empty => .blank
  | .action message => { DataDraft.blank with message := message }
  | .delay d => { DataDraft.blank with mode := d.mode, time := d.time, amount := d.amount, unit := d.unit }
  | .condition c => { DataDraft.blank with rules := some c.rules, logic := c.logic }

/-- The draft that a node is written as. -/
def Node.draft (n : Node) : NodeDraft := ⟨n.id, n.kind.text, n.data.draft⟩

/-- The draft that an edge is written as. -/
def Edge.draft (e : Edge) : EdgeDraft := ⟨some e.id, e.source, e.target, e.handle⟩

/-- The draft that a flow is written as. -/
def Flow.draft (f : Flow) : FlowDraft := ⟨f.nodes.map Node.draft, f.edges.map Edge.draft⟩

/-- The draft that an automation is written as. -/
def Automation.draft (a : Automation) : AutomationDraft := ⟨some a.id, a.name, a.flow.draft⟩

/-! ## 2. Documents are read as what they say -/

section Fields

variable {entries : List (String × Value)}

/-- A rule is read from its fields. -/
theorem Rule.shape_object {r : Rule}
    (hfield : withDefault "field" text "email" (fields entries) = .fits r.field)
    (hoperator : withDefault "operator" (optional text) none (fields entries) = .fits r.operator)
    (hvalue : withDefault "value" (optional text) none (fields entries) = .fits r.value) :
    Rule.shape (.object entries) = .fits r := by
  rw [object_eq_map]
  unfold Rule.shape model
  simp only [hfield, hoperator, hvalue, Shaped.map_fits, Shaped.fits_seq]

/-- Data is read from its fields, where none of the second names is there. -/
theorem DataDraft.shape_object {d : DataDraft}
    (hmessage : withDefault "message" (optional text) none (fields entries) = .fits d.message)
    (hmode : withDefault "mode" (optional text) none (fields entries) = .fits d.mode)
    (htime : withDefault "absoluteTime" (optional moment) none (fields entries) = .fits d.time)
    (hamount : withDefault "relativeValue" (optional decimal) none (fields entries) = .fits d.amount)
    (hunit : withDefault "relativeUnit" (optional text) none (fields entries) = .fits d.unit)
    (hrules : withDefault "rules" (optional (listOf Rule.shape)) none (fields entries) = .fits d.rules)
    (hlogic : withDefault "logic" (optional text) none (fields entries) = .fits d.logic)
    (htime' : entries.lookup "absolute_time" = none)
    (hamount' : entries.lookup "relative_value" = none)
    (hunit' : entries.lookup "relative_unit" = none) :
    DataDraft.shape (.object entries) = .fits d := by
  rw [object_eq_map]
  unfold DataDraft.shape model
  simp only [eitherName_fields htime', eitherName_fields hamount', eitherName_fields hunit', hmessage,
    hmode, htime, hamount, hunit, hrules, hlogic, Shaped.map_fits, Shaped.fits_seq]

/-- A node is read from its fields. -/
theorem NodeDraft.shape_object {n : NodeDraft} (hid : required "id" text (fields entries) = .fits n.id)
    (hkind : required "type" text (fields entries) = .fits n.kind)
    (hposition : entries.lookup "position" = none)
    (hdata : withDefault "data" DataDraft.shape .blank (fields entries) = .fits n.data) :
    NodeDraft.shape (.object entries) = .fits n := by
  rw [object_eq_map]
  unfold NodeDraft.shape model
  simp only [hid, hkind, withDefault_absent hposition, hdata, Shaped.map_fits, Shaped.fits_seq]

/-- An edge is read from its fields, where the second name is not there. -/
theorem EdgeDraft.shape_object {e : EdgeDraft}
    (hid : withDefault "id" (optional text) none (fields entries) = .fits e.id)
    (hsource : required "source" text (fields entries) = .fits e.source)
    (htarget : required "target" text (fields entries) = .fits e.target)
    (hhandle : withDefault "sourceHandle" (optional text) none (fields entries) = .fits e.handle)
    (hhandle' : entries.lookup "source_handle" = none) :
    EdgeDraft.shape (.object entries) = .fits e := by
  rw [object_eq_map]
  unfold EdgeDraft.shape model
  simp only [hid, hsource, htarget, eitherName_fields hhandle', hhandle, Shaped.map_fits, Shaped.fits_seq]

end Fields

theorem Rule.shape_document (r : Rule) : Rule.shape r.document = .fits r :=
  Rule.shape_object (withDefault_fields rfl rfl) (withDefault_fields rfl (optional_ofText? r.operator))
    (withDefault_fields rfl (optional_ofText? r.value))

theorem optional_rules (rules : List Rule) :
    optional (listOf Rule.shape) (.list (rules.map Rule.document)) = .fits (some rules) := by
  have hlist := listOf_map Rule.document id rules fun r _ => Rule.shape_document r
  rw [List.map_id] at hlist
  rw [optional_of_ne_null (v := .list _) (fun h => nomatch h), hlist]
  rfl

theorem DataDraft.shape_document (data : NodeData) :
    DataDraft.shape data.document = .fits data.draft := by
  cases data with
  | empty =>
    exact DataDraft.shape_object (withDefault_absent rfl) (withDefault_absent rfl)
      (withDefault_absent rfl) (withDefault_absent rfl) (withDefault_absent rfl)
      (withDefault_absent rfl) (withDefault_absent rfl) rfl rfl rfl
  | action message =>
    exact DataDraft.shape_object (withDefault_fields rfl (optional_ofText? message))
      (withDefault_absent rfl) (withDefault_absent rfl) (withDefault_absent rfl)
      (withDefault_absent rfl) (withDefault_absent rfl) (withDefault_absent rfl) rfl rfl rfl
  | delay d =>
    -- what remains of each field is to look its name up among fields that may be left out
    refine DataDraft.shape_object (withDefault_absent ?_)
      (withDefault_fields ?_ (optional_ofText? d.mode))
      (withDefault_optional (fun t => .text t.render) ?_ (fun _ h => nomatch h) moment_render)
      (withDefault_optional .float ?_ (fun _ h => nomatch h) fun _ => rfl)
      (withDefault_optional .text ?_ (fun _ h => nomatch h) fun _ => rfl)
      (withDefault_absent ?_) (withDefault_absent ?_) ?_ ?_ ?_ <;>
    simp only [NodeData.draft, List.lookup_append, List.lookup_cons, List.lookup_nil, lookup_fieldIf,
      String.reduceBEq, String.reduceEq, if_true, if_false, Option.none_or, Option.or_none]
  | condition c =>
    refine DataDraft.shape_object (withDefault_absent ?_) (withDefault_absent ?_)
      (withDefault_absent ?_) (withDefault_absent ?_) (withDefault_absent ?_)
      (withDefault_fields ?_ (optional_rules c.rules))
      (withDefault_optional .text ?_ (fun _ h => nomatch h) fun _ => rfl) ?_ ?_ ?_ <;>
    simp only [NodeData.draft, List.lookup_append, List.lookup_cons, List.lookup_nil, lookup_fieldIf,
      String.reduceBEq, String.reduceEq, if_true, if_false, Option.none_or, Option.or_none]

theorem NodeDraft.shape_document (n : Node) : NodeDraft.shape n.document = .fits n.draft :=
  NodeDraft.shape_object (required_fields rfl rfl) (required_fields rfl rfl) rfl
    (withDefault_fields rfl (DataDraft.shape_document n.data))

theorem EdgeDraft.shape_document (e : Edge) : EdgeDraft.shape e.document = .fits e.draft := by
  refine EdgeDraft.shape_object (withDefault_fields (v := .text e.id) ?_ rfl)
    (required_fields (v := .text e.source) ?_ rfl) (required_fields (v := .text e.target) ?_ rfl)
    (withDefault_optional .text ?_ (fun _ h => nomatch h) fun _ => rfl) ?_ <;>
  simp only [Edge.draft, List.lookup_append, List.lookup_cons, List.lookup_nil, lookup_fieldIf,
    String.reduceBEq, String.reduceEq, if_true, if_false, Option.none_or, Option.or_none]

/-- **A flow is read as what its lists say**, whatever else is in the mapping. -/
theorem FlowDraft.shape_fields (entries : List (String × Value)) (f : Flow)
    (hnodes : entries.lookup "nodes" = some f.nodesDocument)
    (hedges : entries.lookup "edges" = some f.edgesDocument) :
    FlowDraft.shape (fields entries) = .fits f.draft := by
  have hlist : listOf NodeDraft.shape f.nodesDocument = .fits (f.nodes.map Node.draft) :=
    listOf_map Node.document Node.draft f.nodes fun n _ => NodeDraft.shape_document n
  have hlist' : listOf EdgeDraft.shape f.edgesDocument = .fits (f.edges.map Edge.draft) :=
    listOf_map Edge.document Edge.draft f.edges fun e _ => EdgeDraft.shape_document e
  unfold FlowDraft.shape
  simp only [withDefault_fields hnodes hlist, withDefault_fields hedges hlist', Shaped.map_fits,
    Shaped.fits_seq]
  rfl

/-- The entries that an automation is written as. -/
def Automation.entries (a : Automation) : List (String × Value) :=
  [("id", .text a.id), ("name", .text a.name), ("nodes", a.flow.nodesDocument),
    ("edges", a.flow.edgesDocument)]

theorem AutomationDraft.shape_entries (a : Automation) :
    AutomationDraft.shape (fields a.entries) = .fits a.draft := by
  have hid : withDefault "id" (optional text) none (fields a.entries) = .fits (some a.id) :=
    withDefault_fields rfl rfl
  have hname : required "name" text (fields a.entries) = .fits a.name := required_fields rfl rfl
  have hflow : FlowDraft.shape (fields a.entries) = .fits a.flow.draft :=
    FlowDraft.shape_fields a.entries a.flow rfl rfl
  have honly : onlyFields ["id", "name", "nodes", "edges"] (fields a.entries) = .fits () :=
    onlyFields_fields (by simp [Automation.entries])
  unfold AutomationDraft.shape
  simp only [hid, hname, hflow, honly, Shaped.map_fits, Shaped.fits_seq]
  rfl

/-! ## 3. Settling -/

/-- **Data as settling leaves it** at a node of a kind: of that kind, and a time in universal time. -/
inductive NodeData.IsSettled : NodeKind → NodeData → Prop
  | action (message : Option String) : IsSettled .action (.action message)
  | delay (d : Delay) (htime : ∀ t, d.time = some t → t.offset = some .utc) :
      IsSettled .delay (.delay d)
  | condition (c : Condition) : IsSettled .condition (.condition c)
  | start : IsSettled .start .empty
  | finish : IsSettled .finish .empty
  | unknown (s : String) (h : s ∉ kindNames) : IsSettled (.unknown s h) .empty

/-- **A flow as settling leaves it**: the data of every node is settled, and every edge has an id. -/
structure Flow.IsSettled (f : Flow) : Prop where
  nodes : ∀ n ∈ f.nodes, n.data.IsSettled n.kind
  edges : ∀ e ∈ f.edges, e.id ≠ ""

theorem Moment.offset_of_toUtc {m u : Moment} (h : m.toUtc = .ok u) : u.offset = some .utc := by
  unfold Moment.toUtc at h
  split at h
  · cases h
    rfl
  · split at h
    · cases h
      rename_i hticks
      unfold Moment.ofTicks? at hticks
      split at hticks
      · split at hticks
        · cases hticks
          rfl
        · cases hticks
      · cases hticks
    · cases h

theorem Moment.toUtc_of_utc {m : Moment} (h : m.offset = some .utc) : m.toUtc = .ok m := by
  have hshifted : Moment.shifted m.ticks .utc = m.ticks := by
    show (m.ticks : Int) - 0 * _ = _
    rw [Int.zero_mul, Int.sub_zero]
  have hticks := Moment.ofTicks?_ticks m
  unfold Moment.toUtc
  rw [h] at hticks ⊢
  simp only [hshifted, hticks]

/-! ### Settling establishes it -/

theorem DataDraft.isSettled_of_settle {kind : NodeKind} {d : DataDraft} {data : NodeData}
    (h : d.settle kind = .ok data) : data.IsSettled kind := by
  cases kind with
  | start => cases h; exact .start
  | finish => cases h; exact .finish
  | action => cases h; exact .action _
  | condition => cases h; exact .condition _
  | unknown s hs => cases h; exact .unknown s hs
  | delay =>
    unfold DataDraft.settle at h
    dsimp only at h
    split at h
    · cases h
      exact .delay _ fun _ ht => nomatch ht
    · obtain ⟨u, hutc, rfl⟩ := map_eq_ok h
      refine .delay _ fun t' ht' => ?_
      cases ht'
      exact Moment.offset_of_toUtc hutc

theorem NodeDraft.isSettled_of_settle {d : NodeDraft} {n : Node} (h : d.settle = .ok n) :
    n.data.IsSettled n.kind := by
  obtain ⟨data, hdata, rfl⟩ := map_eq_ok h
  exact DataDraft.isSettled_of_settle hdata

theorem settleNodes_cons (d : NodeDraft) (ds : List NodeDraft) :
    settleNodes (d :: ds) = d.settle.bind fun n => (settleNodes ds).map (n :: ·) := rfl

theorem isSettled_of_settleNodes {ds : List NodeDraft} {ns : List Node} (h : settleNodes ds = .ok ns) :
    ∀ n ∈ ns, n.data.IsSettled n.kind := by
  induction ds generalizing ns with
  | nil =>
    cases h
    exact fun _ hn => absurd hn List.not_mem_nil
  | cons d ds ih =>
    rw [settleNodes_cons] at h
    obtain ⟨n, hnode, h⟩ := bind_eq_ok h
    obtain ⟨rest, hrest, rfl⟩ := map_eq_ok h
    exact List.forall_mem_cons.mpr ⟨NodeDraft.isSettled_of_settle hnode, ih hrest⟩

/-- An edge without id is named after its ends, and that name is not empty. -/
theorem EdgeDraft.id_settle_ne (d : EdgeDraft) : d.settle.id ≠ "" := by
  unfold EdgeDraft.settle
  dsimp only
  split
  · rename_i hempty
    intro h
    have hlength := congrArg String.length h
    rw [String.length_append, String.length_append] at hlength
    have harrow : "->".length = 2 := rfl
    have hnone : "".length = 0 := rfl
    omega
  · rename_i hset
    exact hset

theorem FlowDraft.isSettled_of_settle {d : FlowDraft} {f : Flow} (h : d.settle = .ok f) :
    f.IsSettled := by
  obtain ⟨nodes, hnodes, rfl⟩ := map_eq_ok h
  refine ⟨isSettled_of_settleNodes hnodes, fun e he => ?_⟩
  obtain ⟨draft, _, rfl⟩ := List.mem_map.mp he
  exact draft.id_settle_ne

/-! ### What is settled stays so -/

theorem NodeData.settle_draft {kind : NodeKind} {data : NodeData} (h : data.IsSettled kind) :
    data.draft.settle kind = .ok data := by
  cases h with
  | delay d htime =>
    obtain ⟨mode, time, amount, unit⟩ := d
    cases time with
    | none => rfl
    | some t =>
      show t.toUtc.map _ = _
      rw [Moment.toUtc_of_utc (htime t rfl)]
      rfl
  | _ => rfl

theorem Node.settle_draft {n : Node} (h : n.data.IsSettled n.kind) : n.draft.settle = .ok n := by
  unfold NodeDraft.settle Node.draft
  rw [NodeKind.ofText_text, NodeData.settle_draft h]
  rfl

theorem settleNodes_draft {ns : List Node} (h : ∀ n ∈ ns, n.data.IsSettled n.kind) :
    settleNodes (ns.map Node.draft) = .ok ns := by
  induction ns with
  | nil => rfl
  | cons n ns ih =>
    obtain ⟨hn, hns⟩ := List.forall_mem_cons.mp h
    rw [List.map_cons, settleNodes_cons, Node.settle_draft hn, ih hns]
    rfl

theorem Edge.settle_draft {e : Edge} (h : e.id ≠ "") : e.draft.settle = e := by
  show (⟨if e.id = "" then _ else e.id, _, _, _⟩ : Edge) = e
  rw [if_neg h]
  rfl

theorem Flow.settle_draft {f : Flow} (h : f.IsSettled) : f.draft.settle = .ok f := by
  have hedges : (f.edges.map Edge.draft).map EdgeDraft.settle = f.edges := by
    rw [List.map_map]
    exact (List.map_congr_left fun e he => Edge.settle_draft (h.edges e he)).trans (List.map_id _)
  unfold FlowDraft.settle Flow.draft
  rw [settleNodes_draft h.nodes, hedges]
  rfl

/-! ## 4. Documents read back -/

theorem Automation.document_eq (a : Automation) : a.document = .map (fields a.entries) := rfl

theorem Automation.firstMissing?_entries (a : Automation) : firstMissing? (fields a.entries) = none := by
  unfold firstMissing? requiredFields
  simp only [entry?_fields]
  rfl

/-- **What a document is read as is settled**, and has no times of a store. -/
theorem Automation.isSettled_of_ofDocument {v : Value} {given : Option String} {a : Automation}
    (h : Automation.ofDocument v given = .ok a) :
    a.flow.IsSettled ∧ a.createdAt = none ∧ a.updatedAt = none := by
  cases v with
  | map es =>
    unfold Automation.ofDocument Automation.ofEntries at h
    dsimp only at h
    split at h
    · cases h
    · split at h
      · cases h
      · obtain ⟨flow, hflow, rfl⟩ := map_eq_ok (mapError_eq_ok h)
        exact ⟨FlowDraft.isSettled_of_settle hflow, rfl, rfl⟩
  | _ => cases h

/-- **A settled automation is read back** from its document, under the given id if there is one. -/
theorem Automation.ofDocument_document {a : Automation} (h : a.flow.IsSettled) (given : Option String) :
    Automation.ofDocument a.document given =
      .ok ⟨firstSet given (some a.id), a.name, a.flow, none, none⟩ := by
  rw [document_eq]
  unfold Automation.ofDocument Automation.ofEntries AutomationDraft.settle
  simp only [firstMissing?_entries, AutomationDraft.shape_entries]
  show ((a.flow.draft.settle.map _).mapError _) = _
  rw [Flow.settle_draft h]
  rfl

/-- **What the lists of an editor are read as is settled.** -/
theorem Flow.isSettled_of_ofLists {nodes edges : Value} {f : Flow} (h : Flow.ofLists nodes edges = .ok f) :
    f.IsSettled := by
  unfold Flow.ofLists at h
  split at h
  · cases h
  · exact FlowDraft.isSettled_of_settle (mapError_eq_ok h)

/-- **A settled flow is read back** from its two lists. -/
theorem Flow.ofLists_documents {f : Flow} (h : f.IsSettled) :
    Flow.ofLists f.nodesDocument f.edgesDocument = .ok f := by
  have hshape : FlowDraft.shape [(.text "nodes", f.nodesDocument), (.text "edges", f.edgesDocument)] =
      .fits f.draft :=
    FlowDraft.shape_fields [("nodes", f.nodesDocument), ("edges", f.edgesDocument)] f rfl rfl
  unfold Flow.ofLists
  rw [hshape]
  show f.draft.settle.mapError _ = _
  rw [Flow.settle_draft h]
  rfl

/-! ## 5. What documents are made of -/

/-- **Plain values**: null, numbers, texts, lists of plain values, and mappings to plain values whose
    keys are different texts. -/
inductive Value.IsPlain : Value → Prop
  | null : IsPlain .null
  | float (x : Double) : IsPlain (.float x)
  | text (s : String) : IsPlain (.text s)
  | list {items : List Value} (hitems : ∀ v ∈ items, IsPlain v) : IsPlain (.list items)
  | object {entries : List (String × Value)} (hkeys : (entries.map Prod.fst).Nodup)
      (hvalues : ∀ e ∈ entries, IsPlain e.2) : IsPlain (.object entries)

namespace Value

theorem isPlain_ofText? (s : Option String) : (ofText? s).IsPlain := by
  cases s with
  | none => exact .null
  | some s => exact .text s

theorem isPlain_list_map {β : Type} {write : β → Value} (h : ∀ b, (write b).IsPlain) (bs : List β) :
    (list (bs.map write)).IsPlain := by
  refine .list fun v hv => ?_
  obtain ⟨b, _, rfl⟩ := List.mem_map.mp hv
  exact h b

/-- A mapping some of whose possible fields are left out. -/
theorem isPlain_object {entries : List (String × Value)} (names : List String) (hnames : names.Nodup)
    (hkeys : List.Sublist (entries.map Prod.fst) names) (hvalues : ∀ e ∈ entries, e.2.IsPlain) :
    (object entries).IsPlain :=
  .object (hnames.sublist hkeys) hvalues

end Value

theorem keys_fieldIf (name : String) (v : Option Value) :
    List.Sublist ((fieldIf name v).map Prod.fst) [name] := by
  cases v with
  | none => exact List.nil_sublist _
  | some v => exact List.Sublist.refl _

theorem isPlain_fieldIf {β : Type} {write : β → Value} (h : ∀ b, (write b).IsPlain) (name : String)
    (o : Option β) : ∀ e ∈ fieldIf name (o.map write), e.2.IsPlain := by
  intro e he
  cases o with
  | none => cases he
  | some b =>
    rw [List.mem_singleton.mp he]
    exact h b

theorem Rule.isPlain_document (r : Rule) : r.document.IsPlain :=
  isPlain_object ["field", "operator", "value"] (by decide) (List.Sublist.refl _)
    (List.forall_mem_cons.mpr ⟨.text _, List.forall_mem_cons.mpr ⟨isPlain_ofText? r.operator,
      List.forall_mem_singleton.mpr (isPlain_ofText? r.value)⟩⟩)

theorem NodeData.isPlain_document (data : NodeData) : data.document.IsPlain := by
  cases data with
  | empty => exact isPlain_object [] List.nodup_nil (List.Sublist.refl _) (List.forall_mem_nil _)
  | action message =>
    exact isPlain_object ["message"] (by decide) (List.Sublist.refl _)
      (List.forall_mem_singleton.mpr (isPlain_ofText? message))
  | delay d =>
    refine isPlain_object (["mode"] ++ ["absoluteTime"] ++ ["relativeValue"] ++ ["relativeUnit"])
      (by decide) ?_ ?_
    · simp only [List.map_append]
      exact (((List.Sublist.refl _).append (keys_fieldIf _ _)).append (keys_fieldIf _ _)).append
        (keys_fieldIf _ _)
    · simp only [List.forall_mem_append]
      exact ⟨⟨⟨List.forall_mem_singleton.mpr (isPlain_ofText? d.mode),
        isPlain_fieldIf (fun _ => .text _) _ _⟩, isPlain_fieldIf .float _ _⟩, isPlain_fieldIf .text _ _⟩
  | condition c =>
    refine isPlain_object (["rules"] ++ ["logic"]) (by decide) ?_ ?_
    · rw [List.map_append]
      exact (List.Sublist.refl _).append (keys_fieldIf _ _)
    · rw [List.forall_mem_append]
      exact ⟨List.forall_mem_singleton.mpr (isPlain_list_map Rule.isPlain_document c.rules),
        isPlain_fieldIf .text _ _⟩

theorem Node.isPlain_document (n : Node) : n.document.IsPlain :=
  isPlain_object ["id", "type", "data"] (by decide) (List.Sublist.refl _)
    (List.forall_mem_cons.mpr ⟨.text _, List.forall_mem_cons.mpr ⟨.text _,
      List.forall_mem_singleton.mpr n.data.isPlain_document⟩⟩)

theorem Edge.isPlain_document (e : Edge) : e.document.IsPlain := by
  refine isPlain_object (["id", "source", "target"] ++ ["sourceHandle"]) (by decide) ?_ ?_
  · rw [List.map_append]
    exact (List.Sublist.refl _).append (keys_fieldIf _ _)
  · rw [List.forall_mem_append]
    exact ⟨List.forall_mem_cons.mpr ⟨.text _, List.forall_mem_cons.mpr ⟨.text _,
      List.forall_mem_singleton.mpr (.text _)⟩⟩, isPlain_fieldIf .text _ _⟩

theorem Flow.isPlain_nodesDocument (f : Flow) : f.nodesDocument.IsPlain :=
  isPlain_list_map Node.isPlain_document f.nodes

theorem Flow.isPlain_edgesDocument (f : Flow) : f.edgesDocument.IsPlain :=
  isPlain_list_map Edge.isPlain_document f.edges

/-- **Documents are plain.** -/
theorem Automation.isPlain_document (a : Automation) : a.document.IsPlain :=
  isPlain_object ["id", "name", "nodes", "edges"] (by decide) (List.Sublist.refl _)
    (List.forall_mem_cons.mpr ⟨.text _, List.forall_mem_cons.mpr ⟨.text _,
      List.forall_mem_cons.mpr ⟨a.flow.isPlain_nodesDocument,
        List.forall_mem_singleton.mpr a.flow.isPlain_edgesDocument⟩⟩⟩)

end Dripline
