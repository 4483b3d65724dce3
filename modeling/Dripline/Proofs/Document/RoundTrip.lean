import Dripline.Document.Written
import Dripline.Store.Table
import Dripline.Proofs.Document.Automation

/-!
# Automations through texts and tables

A settled automation comes back from each form in which it outlives the program:

* `ofText_toText`: from its YAML text;
* `flowOfColumns_render`, `AutomationRow.Holds`: from the two columns of JSON that a table keeps of it,
  in the row that `fetch_create` and `update_of_free` find;
* **`Automation.round_trips`**: what was read from any document or text comes back from the document, the
  text and the row that it is written as, and is written the same again.

What is assumed of the two languages stands in the hypotheses: reading undoes writing on the documents at
hand, if they are plain. That they are is `Automation.isPlain_document`. Numbers are the same here when
they are represented the same, so that what is no number comes back like any other.
-/

namespace Dripline

/-! ## 1. Texts -/

theorem Automation.ofText_toText {a : Automation} (h : a.flow.IsSettled)
    (hread : Yaml.read? (Yaml.Layout.render a.document) = .ok a.document) (given : Option String) :
    Automation.ofText a.toText given = .ok ⟨firstSet given (some a.id), a.name, a.flow, none, none⟩ := by
  unfold Automation.ofText Automation.toText
  rw [hread]
  show (Automation.ofDocument a.document given).mapError _ = _
  rw [Automation.ofDocument_document h]
  rfl

/-- What is read from a text is read from a document. -/
theorem Automation.exists_of_ofText {s : String} {given : Option String} {a : Automation}
    (h : Automation.ofText s given = .ok a) : ∃ v, Automation.ofDocument v given = .ok a := by
  obtain ⟨v, _, hdocument⟩ := bind_eq_ok h
  exact ⟨v, mapError_eq_ok hdocument⟩

/-! ## 2. Columns -/

/-- **The columns of a row hold a flow**: they are the JSON texts that it is written as. -/
structure AutomationRow.Holds (r : AutomationRow) (f : Flow) : Prop where
  nodes : r.nodes = Json.render f.nodesDocument
  edges : r.edges = Json.render f.edgesDocument

namespace AutomationTable

variable {t : AutomationTable} {a : Automation} {now : Moment} {ids : Ids}

theorem flowOfColumns_render {f : Flow} (h : f.IsSettled)
    (hnodes : Json.read? (Json.render f.nodesDocument) = some f.nodesDocument)
    (hedges : Json.read? (Json.render f.edgesDocument) = some f.edgesDocument) :
    flowOfColumns (Json.render f.nodesDocument) (Json.render f.edgesDocument) = .ok f := by
  unfold flowOfColumns
  rw [hnodes, hedges]
  exact Flow.ofLists_documents h

/-- A row is read as the automation whose flow its columns hold. -/
theorem automationOf_holds {r : AutomationRow} {f : Flow} (hr : r.Holds f)
    (hcolumns : flowOfColumns (Json.render f.nodesDocument) (Json.render f.edgesDocument) = .ok f) :
    automationOf r =
      .ok ⟨r.id, r.name, f, some (columnMoment r.createdAt), some (columnMoment r.updatedAt)⟩ := by
  unfold automationOf
  rw [hr.nodes, hr.edges, hcolumns]
  rfl

theorem fetch_of_find? {p : AutomationRow → Bool} {r : AutomationRow} (h : t.rows.find? p = some r) :
    t.fetch p = (automationOf r).map some := by
  unfold fetch
  rw [h]

/-- **A created automation is found in a row that holds its flow.** -/
theorem fetch_create {s : Automation} (h : (t.create a now ids).result = .ok s) :
    ∃ r : AutomationRow, (t.create a now ids).store.fetch (fun q => q.id == s.id) =
        (automationOf r).map some ∧ r.id = s.id ∧ r.name = a.name ∧ r.Holds a.flow := by
  unfold create at h ⊢
  dsimp only at h ⊢
  generalize (ids.orNext a.id).1 = id at h ⊢
  split at h
  · cases h
  · rename_i hfree
    rw [if_neg hfree]
    cases h
    have hnone : t.rows.find? (fun q => q.id == id) = none := by
      rw [List.find?_eq_none]
      intro q hq hid
      exact hfree (List.any_eq_true.mpr ⟨q, hq, by rw [hid, Bool.true_or]⟩)
    refine ⟨⟨id, a.name, Json.render a.flow.nodesDocument, Json.render a.flow.edgesDocument,
      momentColumn now, momentColumn now⟩, fetch_of_find? ?_, rfl, rfl, rfl, rfl⟩
    rw [List.find?_append, hnone]
    simp only [List.find?_cons, beq_self_eq_true, Option.none_or]

/-- The row of a table with an id, after it was revised. -/
theorem find?_revised (now : Moment) {rows : List AutomationRow} (hid : ∃ r ∈ rows, r.id = a.id) :
    ∃ r, (rows.map fun r => if r.id = a.id then revisedRow a now r else r).find?
      (fun q => q.id == a.id) = some (revisedRow a now r) ∧ r.id = a.id := by
  have hkept : ((fun q : AutomationRow => q.id == a.id) ∘
      fun r => if r.id = a.id then revisedRow a now r else r) = fun q => q.id == a.id := by
    funext r
    show ((if r.id = a.id then revisedRow a now r else r).id == a.id) = _
    split <;> rfl
  obtain ⟨q, hq, hqid⟩ := hid
  obtain ⟨r, hr⟩ := Option.isSome_iff_exists.mp
    (List.find?_isSome.mpr ⟨q, hq, beq_iff_eq.mpr hqid⟩ : (rows.find? fun q => q.id == a.id).isSome)
  have hfound := List.find?_some hr
  have hrid : r.id = a.id := beq_iff_eq.mp hfound
  refine ⟨r, ?_, hrid⟩
  rw [List.find?_map, hkept, hr, Option.map_some, if_pos hrid]

/-- **A new version of an automation is read back from a row that holds its flow**, where its id is in the
    table and its name is not taken by another one. -/
theorem update_of_free (now : Moment) (hid : ∃ r ∈ t.rows, r.id = a.id)
    (hname : ∀ r ∈ t.rows, r.name = a.name → r.id = a.id) :
    ∃ r : AutomationRow, (t.update a now).1 = automationOf r ∧ r.id = a.id ∧ r.name = a.name ∧
      r.Holds a.flow := by
  have hthere : (t.rows.any fun r => r.id == a.id) = true := by
    obtain ⟨r, hr, hrid⟩ := hid
    exact List.any_eq_true.mpr ⟨r, hr, beq_iff_eq.mpr hrid⟩
  have hfree : (t.rows.any fun r => r.name == a.name && r.id != a.id) = false := by
    rw [List.any_eq_false]
    intro r hr htaken
    obtain ⟨hrname, hrid⟩ := (Bool.and_eq_true _ _).mp htaken
    exact bne_iff_ne.mp hrid (hname r hr (beq_iff_eq.mp hrname))
  obtain ⟨r, hfind, hrid⟩ := find?_revised now hid
  refine ⟨revisedRow a now r, ?_, hrid, rfl, rfl, rfl⟩
  unfold update
  rw [hthere, hfree]
  simp only [fetch_of_find? (t := ⟨_⟩) hfind]
  cases automationOf (revisedRow a now r) <;> rfl

end AutomationTable

/-! ## 3. What was read once comes back -/

/-- **An automation comes back** from everything that it is written as. -/
structure Automation.ComesBack (a : Automation) : Prop where
  /-- From its document: the same id, name, nodes and edges. -/
  document : Automation.ofDocument a.document none = .ok a
  /-- From its text. -/
  text : Automation.ofText a.toText none = .ok a
  /-- What comes back is written the same again. -/
  again : ∀ b, Automation.ofDocument a.document none = .ok b ∨ Automation.ofText a.toText none = .ok b →
    b.document = a.document ∧ b.toText = a.toText
  /-- Its nodes and edges, from the lists that they are written as. -/
  lists : Flow.ofLists a.flow.nodesDocument a.flow.edgesDocument = .ok a.flow
  /-- Its nodes and edges, from the columns that those lists are kept in. -/
  columns : AutomationTable.flowOfColumns (Json.render a.flow.nodesDocument)
    (Json.render a.flow.edgesDocument) = .ok a.flow
  /-- From any table in which it was created. -/
  created : ∀ (t : AutomationTable) (now : Moment) (ids : Ids) (s : Automation),
    (AutomationStorage.create t a now ids).result = .ok s →
      ∃ b, AutomationStorage.get (AutomationStorage.create t a now ids).store s.id = .ok (some b) ∧
        b.id = s.id ∧ b.name = a.name ∧ b.flow = a.flow
  /-- From any table in which it takes the place of an older version, under a name that is free. -/
  updated : ∀ (t : AutomationTable) (now : Moment), (∃ r ∈ t.rows, r.id = a.id) →
    (∀ r ∈ t.rows, r.name = a.name → r.id = a.id) →
      ∃ b, (AutomationStorage.update t a now).1 = .ok b ∧ b.id = a.id ∧ b.name = a.name ∧
        b.flow = a.flow

/-- **Documents round trip.** Whatever automation is read from a document or a text, under a given id or
    not: it comes back from its own document and text, and its nodes and edges from the columns of any
    table that it is written to. The two languages are assumed to be read back as they are written at the
    documents of this automation, as far as those are plain. -/
theorem Automation.round_trips {v : Value} {s : String} {given : Option String} {a : Automation}
    (hread : Automation.ofDocument v given = .ok a ∨ Automation.ofText s given = .ok a)
    (hyaml : a.document.IsPlain → Yaml.read? (Yaml.Layout.render a.document) = .ok a.document)
    (hjson : ∀ w ∈ [a.flow.nodesDocument, a.flow.edgesDocument], w.IsPlain →
      Json.read? (Json.render w) = some w) :
    a.ComesBack := by
  obtain ⟨v, hv⟩ : ∃ v, Automation.ofDocument v given = .ok a := by
    rcases hread with h | h
    · exact ⟨v, h⟩
    · exact Automation.exists_of_ofText h
  obtain ⟨hsettled, hcreated, hupdated⟩ := Automation.isSettled_of_ofDocument hv
  have hnodes := hjson _ List.mem_cons_self
  have hedges := hjson _ (List.mem_cons_of_mem _ List.mem_cons_self)
  have hself : (⟨firstSet none (some a.id), a.name, a.flow, none, none⟩ : Automation) = a := by
    obtain ⟨id, name, flow, createdAt, updatedAt⟩ := a
    cases hcreated
    cases hupdated
    rfl
  have hdocument : Automation.ofDocument a.document none = .ok a :=
    (Automation.ofDocument_document hsettled none).trans (congrArg _ hself)
  have htext : Automation.ofText a.toText none = .ok a :=
    (Automation.ofText_toText hsettled (hyaml a.isPlain_document) none).trans (congrArg _ hself)
  have hcolumns := AutomationTable.flowOfColumns_render hsettled (hnodes a.flow.isPlain_nodesDocument)
    (hedges a.flow.isPlain_edgesDocument)
  refine ⟨hdocument, htext, ?_, Flow.ofLists_documents hsettled, hcolumns, ?_, ?_⟩
  · rintro b (hb | hb)
    · cases hdocument.symm.trans hb
      exact ⟨rfl, rfl⟩
    · cases htext.symm.trans hb
      exact ⟨rfl, rfl⟩
  · intro t now ids s hs
    obtain ⟨r, hfetch, hid, hname, hholds⟩ := AutomationTable.fetch_create hs
    rw [AutomationTable.automationOf_holds hholds hcolumns] at hfetch
    exact ⟨_, hfetch, hid, hname, rfl⟩
  · intro t now hid hfree
    obtain ⟨r, hupdate, hrid, hname, hholds⟩ := AutomationTable.update_of_free now hid hfree
    rw [AutomationTable.automationOf_holds hholds hcolumns] at hupdate
    exact ⟨_, hupdate, hrid, hname, rfl⟩

/-! ## 4. A document that is read and written -/

namespace Value

mutual

/-- Equality of values, along their structure. -/
def beq : Value → Value → Bool
  | .null, .null => true
  | .bool b, .bool c => b == c
  | .int i, .int j => i == j
  | .float x, .float y => x == y
  | .text s, .text t => s == t
  | .bytes s, .bytes t => s == t
  | .date d, .date e => d == e
  | .moment m, .moment n => m == n
  | .list vs, .list ws => beqItems vs ws
  | .members vs, .members ws => beqItems vs ws
  | .map es, .map fs => beqEntries es fs
  | _, _ => false

/-- Equality of lists of values. -/
def beqItems : List Value → List Value → Bool
  | [], [] => true
  | v :: vs, w :: ws => beq v w && beqItems vs ws
  | _, _ => false

/-- Equality of lists of entries. -/
def beqEntries : List (Value × Value) → List (Value × Value) → Bool
  | [], [] => true
  | (k, v) :: es, (l, w) :: fs => beq k l && beq v w && beqEntries es fs
  | _, _ => false

end

mutual

theorem beq_iff : ∀ v w, beq v w = true ↔ v = w
  | .null, w | .bool _, w | .int _, w | .float _, w | .text _, w | .bytes _, w | .date _, w
  | .moment _, w => by cases w <;> simp [beq]
  | .list vs, w => by cases w <;> simp [beq, beqItems_iff vs]
  | .members vs, w => by cases w <;> simp [beq, beqItems_iff vs]
  | .map es, w => by cases w <;> simp [beq, beqEntries_iff es]

theorem beqItems_iff : ∀ vs ws, beqItems vs ws = true ↔ vs = ws
  | [], ws => by cases ws <;> simp [beqItems]
  | v :: vs, ws => by cases ws <;> simp [beqItems, beq_iff v, beqItems_iff vs]

theorem beqEntries_iff : ∀ es fs, beqEntries es fs = true ↔ es = fs
  | [], fs => by cases fs <;> simp [beqEntries]
  | (k, v) :: es, [] => by simp [beqEntries]
  | (k, v) :: es, (l, w) :: fs => by
    simp [beqEntries, beq_iff k, beq_iff v, beqEntries_iff es, Prod.ext_iff]

end

instance : DecidableEq Value := fun v w => decidable_of_iff _ (beq_iff v w)

end Value

/-- A written JSON text is read from its characters, without the text in between. -/
theorem Json.read?_render (v : Value) : Json.read? (Json.render v) =
    (Json.takeValue ((Json.chars v).length + 1) (Json.skipGaps (Json.chars v))).bind
      fun read => if (Json.skipGaps read.2).isEmpty then some read.1 else none := by
  unfold Json.read? Json.render
  rw [String.length_ofList, String.toList_ofList]
  cases Json.takeValue ((Json.chars v).length + 1) (Json.skipGaps (Json.chars v)) <;> rfl

/-- A YAML text is read from its characters. -/
theorem Yaml.read?_ofList (cs : List Char) : Yaml.read? (String.ofList cs) =
    let ts := if cs.all Yaml.isAllowed then
      (Yaml.Lexer.run (cs.length + 3) (.ofChars cs)).reverse else [.broken .malformed]
    if Value.nestingLimit < Yaml.nesting 0 ts then .error .nested else Yaml.valueOfTokens ts := by
  unfold Yaml.read? Yaml.tokens
  rw [String.toList_ofList]

/-- A document with fields of both spellings, fields of other kinds of nodes, an edge without id and a
    time with an offset. -/
def letterDocument : Value :=
  .object [("name", .text "Letters"),
    ("nodes", .list [
      .object [("id", .text "d"), ("type", .text "delay"), ("position", .object [("x", .int 3)]),
        ("data", .object [("mode", .text "absolute"), ("message", .text "lost"),
          ("absolute_time", .text "2024-05-01T09:30:00+02:00"), ("relativeValue", .int 2)])],
      .object [("id", .text "c"), ("type", .text "condition"), ("data", .object [("logic", .text "and"),
        ("rules", .list [.object [("operator", .text "contains"), ("value", .text "@")]])])],
      .object [("id", .text "a"), ("type", .text "action"), ("data", .object [("message", .null)])]]),
    ("edges", .list [.object [("source", .text "d"), ("target", .text "c")],
      .object [("id", .text "yes"), ("source", .text "c"), ("target", .text "a"),
        ("source_handle", .text "true")]])]

/-- What that document describes. -/
def letters : Automation where
  id := "letters"
  name := "Letters"
  flow :=
    { nodes := [
        ⟨"d", .delay, .delay ⟨some "absolute", some ⟨63850145400000000, some .utc, by decide⟩,
          some (.ofInt 2), none⟩⟩,
        ⟨"c", .condition, .condition ⟨[⟨some "contains", some "@", "email"⟩], some "and"⟩⟩,
        ⟨"a", .action, .action none⟩]
      edges := [⟨"d->c", "d", "c", none⟩, ⟨"yes", "c", "a", some "true"⟩] }
  createdAt := none
  updatedAt := none

theorem round_trips_letters :
    Automation.ofDocument letterDocument (some "letters") = .ok letters ∧ letters.ComesBack := by
  have hread : Automation.ofDocument letterDocument (some "letters") = .ok letters := by decide +kernel
  have hyaml : Yaml.read? (Yaml.Layout.render letters.document) = .ok letters.document :=
    (Yaml.read?_ofList _).trans (by decide +kernel)
  have hnodes : Json.read? (Json.render letters.flow.nodesDocument) = some letters.flow.nodesDocument :=
    (Json.read?_render _).trans (by decide +kernel)
  have hedges : Json.read? (Json.render letters.flow.edgesDocument) = some letters.flow.edgesDocument :=
    (Json.read?_render _).trans (by decide +kernel)
  have hjson : ∀ w ∈ [letters.flow.nodesDocument, letters.flow.edgesDocument],
      Json.read? (Json.render w) = some w :=
    List.forall_mem_cons.mpr ⟨hnodes, List.forall_mem_singleton.mpr hedges⟩
  exact ⟨hread, Automation.round_trips (s := "") (.inl hread) (fun _ => hyaml) fun w hw _ => hjson w hw⟩

end Dripline
