import Dripline.Command.Performance
import Dripline.Proofs.Document.Automation
import Dripline.Proofs.Flow.Report

/-!
# What can go wrong in a command

The failures of commands that check, save or run what a file describes are known beforehand: the program
answers them, or they are among a few that nothing answers. The library does not follow the program where a
text holds half of a surrogate pair, or where settings use arguments of the library that reads them.

* `Flow.fault_of_ofLists`, `Automation.fault_of_ofDocument`: the faults of documents. A time is the only
  calculation in them, and it fails only when universal time has no reading for it;
* `Flow.IsSettled.exists_problems`: a flow that was read from a document can always be checked, since its times
  compare with the clock;
* `Failure.Escapes`: the failures that nothing answers; `Failure.IsKnown`: one of them, or an answered one, or
  one that is not described;
* `SettledAutomations`, `NumberedExecutions`: what the commands ask of stores, whatever these hold. Both
  pairs of stores do it.
-/

namespace Dripline

/-! ## 1. Faults of documents -/

theorem Moment.fault_of_toUtc {m : Moment} {fault : ArithFault} (h : m.toUtc = .error fault) :
    fault = .dateOutOfRange := by
  unfold toUtc at h
  split at h
  · cases h
  · split at h
    · cases h
    · cases h
      rfl

theorem DataDraft.fault_of_settle {kind : NodeKind} {d : DataDraft} {fault : ArithFault}
    (h : d.settle kind = .error fault) : fault = .dateOutOfRange := by
  cases kind with
  | delay =>
    unfold settle at h
    dsimp only at h
    split at h
    · cases h
    · exact Moment.fault_of_toUtc (error_of_map h)
  | _ => cases h

theorem NodeDraft.fault_of_settle {d : NodeDraft} {fault : ArithFault} (h : d.settle = .error fault) :
    fault = .dateOutOfRange :=
  DataDraft.fault_of_settle (error_of_map h)

theorem fault_of_settleNodes {ds : List NodeDraft} {fault : ArithFault} (h : settleNodes ds = .error fault) :
    fault = .dateOutOfRange := by
  induction ds with
  | nil => cases h
  | cons d ds ih =>
    rw [settleNodes_cons] at h
    rcases error_of_bind h with hnode | ⟨n, _, hrest⟩
    · exact NodeDraft.fault_of_settle hnode
    · exact ih (error_of_map hrest)

theorem FlowDraft.fault_of_settle {d : FlowDraft} {fault : ArithFault} (h : d.settle = .error fault) :
    fault = .dateOutOfRange :=
  fault_of_settleNodes (error_of_map h)

/-- The lists of an editor do not fit, or hold a time without a reading. -/
theorem Flow.fault_of_ofLists {nodes edges : Value} {fault : DocumentFault}
    (h : Flow.ofLists nodes edges = .error fault) :
    fault.isReported = true ∨ fault = .arithmetic .dateOutOfRange := by
  unfold Flow.ofLists at h
  split at h
  · cases h
    exact .inl rfl
  · obtain ⟨fault', hflow, rfl⟩ := error_of_mapError h
    exact .inr (congrArg _ (FlowDraft.fault_of_settle hflow))

/-- A document is none of an automation, or holds a time without a reading. -/
theorem Automation.fault_of_ofDocument {v : Value} {given : Option String} {fault : DocumentFault}
    (h : Automation.ofDocument v given = .error fault) :
    fault.isReported = true ∨ fault = .arithmetic .dateOutOfRange := by
  cases v with
  | map es =>
    unfold Automation.ofDocument Automation.ofEntries at h
    dsimp only at h
    split at h
    · cases h
      exact .inl rfl
    · split at h
      · cases h
        exact .inl rfl
      · obtain ⟨fault', hflow, rfl⟩ := error_of_mapError h
        exact .inr (congrArg _ (FlowDraft.fault_of_settle (error_of_map hflow)))
  | _ => cases h; exact .inl rfl

/-- **The automation of a text is settled.** -/
theorem Automation.isSettled_of_ofText {text : String} {a : Automation}
    (h : Automation.ofText text none = .ok a) : a.flow.IsSettled := by
  obtain ⟨v, _, hdocument⟩ := bind_eq_ok h
  exact (Automation.isSettled_of_ofDocument (mapError_eq_ok hdocument)).1

/-! ## 2. Checks of what was read -/

/-- The check of what was read from a document compares no time without an offset. -/
theorem Node.isUnplaced_of_isSettled {n : Node} (h : n.data.IsSettled n.kind) : n.isUnplaced = false := by
  obtain ⟨id, kind, data⟩ := n
  unfold Node.isUnplaced
  cases h with
  | delay d htime =>
    have hplaced : d.isUnplaced = false := by
      unfold Delay.isUnplaced
      cases hd : d.time with
      | none => simp
      | some t => simp [Moment.isAnchored, htime t hd]
    simp [hplaced]
  | _ => simp

/-- **What was read from a document can be checked**, when the clock carries an offset. -/
theorem Flow.IsSettled.exists_problems {now : Moment} {f : Flow} (h : f.IsSettled)
    (hnow : now.isAnchored = true) : ∃ ps, f.problems now = .ok ps :=
  Check.exists_problems hnow fun n hn => Node.isUnplaced_of_isSettled (h.nodes n hn)

/-! ## 3. Known failures -/

namespace Command

/-- **The failures that nothing answers**: a text that is not well-formed, or a mark in it that does not fit
    its scalar; settings under a key that is no text; a level of the journal that means something else; a time
    that universal time has no reading for; an id that was given out before; and a database that cannot be
    used. What halves of surrogate pairs lead to, or more levels of nesting than are sure to be read, is not
    described (`Failure.isDescribed`), and so it is not listed. -/
inductive Failure.Escapes : Failure → Prop where
  | settingsText (fault : Yaml.Fault) (h : fault.isOfValue = false) (hdescribed : fault.isDescribed = true) :
    Escapes (.settings (.yaml fault))
  | settingsKey : Escapes (.settings .keyNotText)
  | level (fault : Logging.Fault) : Escapes (.level fault)
  | text (fault : Yaml.Fault) (h : fault.isOfValue = false) (hdescribed : fault.isDescribed = true) :
    Escapes (.fault (.yaml fault))
  | time : Escapes (.fault (.document (.arithmetic .dateOutOfRange)))
  | id : Escapes (.fault .executionIdTaken)
  | database (fault : DatabaseFault) : Escapes (.database fault)

/-- A failure with an answer, or one of those that nothing answers, if it is described what it leads to. -/
def Failure.IsKnown (f : Failure) : Prop :=
  f.isDescribed = true → f.isAnswered = true ∨ f.Escapes

namespace Failure

theorem IsKnown.of_answered {f : Failure} (h : f.isAnswered = true) : f.IsKnown := fun _ => .inl h

theorem IsKnown.of_escapes {f : Failure} (h : f.Escapes) : f.IsKnown := fun _ => .inr h

theorem isKnown_document {fault : DocumentFault}
    (h : fault.isReported = true ∨ fault = .arithmetic .dateOutOfRange) :
    IsKnown (.fault (.document fault)) := by
  rcases h with hreported | rfl
  · exact .of_answered hreported
  · exact .of_escapes .time

theorem isKnown_ofText {text : String} {fault : Fault} (h : Automation.ofText text none = .error fault) :
    IsKnown (.fault fault) := by
  rcases error_of_bind h with hread | ⟨v, _, h⟩
  · obtain ⟨yaml, _, rfl⟩ := error_of_mapError hread
    intro hdescribed
    cases hvalue : yaml.isOfValue with
    | true => exact .inl hvalue
    | false => exact .inr (.text yaml hvalue hdescribed)
  · obtain ⟨document, hdocument, rfl⟩ := error_of_mapError h
    exact isKnown_document (Automation.fault_of_ofDocument hdocument)

theorem isKnown_settings (fault : SettingsFault) : IsKnown (.settings fault) := by
  intro hdescribed
  cases hreported : fault.isReported with
  | true => exact .inl hreported
  | false =>
    cases fault with
    | yaml yaml => exact .inr (.settingsText yaml hreported hdescribed)
    | keyNotText => exact .inr .settingsKey
    | unpaired _ => cases hdescribed
    | nested _ => cases hdescribed
    | keyword _ => cases hdescribed
    | _ => cases hreported

end Failure

/-! ## 4. Stores -/

/-- **A store of automations as documents describe them**: what is read from it is settled, and its faults
    are known. -/
class SettledAutomations (α : Type) [AutomationStorage α] where
  /-- What the operations keep. -/
  Sound : α → Prop
  isSettled_of_get {s : α} {id : String} {a : Automation} : Sound s →
    AutomationStorage.get s id = .ok (some a) → a.flow.IsSettled
  isKnown_of_get {s : α} {id : String} {fault : Fault} : Sound s →
    AutomationStorage.get s id = .error fault → Failure.IsKnown (.fault fault)
  isKnown_of_getByName {s : α} {name : String} {fault : Fault} : Sound s →
    AutomationStorage.getByName s name = .error fault → Failure.IsKnown (.fault fault)
  sound_create {s : α} (a : Automation) (now : Moment) (ids : Ids) : Sound s → a.flow.IsSettled →
    Sound (AutomationStorage.create s a now ids).store
  isKnown_of_create {s : α} {a : Automation} {now : Moment} {ids : Ids} {fault : Fault} : Sound s →
    (AutomationStorage.create s a now ids).result = .error fault → Failure.IsKnown (.fault fault)
  sound_update {s : α} (a : Automation) (now : Moment) : Sound s → a.flow.IsSettled →
    Sound (AutomationStorage.update s a now).2
  isKnown_of_update {s : α} {a : Automation} {now : Moment} {fault : Fault} : Sound s →
    (AutomationStorage.update s a now).1 = .error fault → Failure.IsKnown (.fault fault)

/-- A store of executions in which only an id that was given out before is in the way of a new one. -/
class NumberedExecutions (ε : Type) [ExecutionStorage ε] : Prop where
  fault_of_create {s : ε} {e : Execution} {now : Moment} {ids : Ids} {fault : Fault} :
    (ExecutionStorage.create s e now ids).result = .error fault → fault = .executionIdTaken

instance : NumberedExecutions MemoryExecutions where
  fault_of_create h := nomatch h

instance : NumberedExecutions ExecutionTable where
  fault_of_create {s e now ids fault} h := by
    change (ExecutionTable.create s e now ids).result = .error fault at h
    unfold ExecutionTable.create at h
    dsimp only at h
    split at h
    · cases h
      rfl
    · cases h

/-- Every automation in memory is settled. -/
instance : SettledAutomations MemoryAutomations where
  Sound s := ∀ id a, s.items.get? id = some a → a.flow.IsSettled
  isSettled_of_get hs h := hs _ _ (Except.ok.inj h)
  isKnown_of_get _ h := nomatch h
  isKnown_of_getByName _ h := nomatch h
  sound_create {s} a now ids hs ha := by
    show ∀ id b, (MemoryAutomations.create s a now ids).store.items.get? id = some b → b.flow.IsSettled
    unfold MemoryAutomations.create
    split
    · exact hs
    · intro id b hb
      dsimp only at hb
      rw [Keyed.get?_put] at hb
      split at hb
      · cases hb
        exact ha
      · exact hs id b hb
  isKnown_of_create {s a now ids fault} _ h := by
    change (MemoryAutomations.create s a now ids).result = .error fault at h
    unfold MemoryAutomations.create at h
    split at h
    · cases h
      exact .of_answered rfl
    · cases h
  sound_update {s} a now hs ha := by
    show ∀ id b, (MemoryAutomations.update s a now).2.items.get? id = some b → b.flow.IsSettled
    unfold MemoryAutomations.update
    split
    · exact hs
    · split
      · exact hs
      · intro id b hb
        dsimp only at hb
        rw [Keyed.get?_put] at hb
        split at hb
        · cases hb
          exact ha
        · exact hs id b hb
  isKnown_of_update {s a now fault} _ h := by
    change (MemoryAutomations.update s a now).1 = .error fault at h
    unfold MemoryAutomations.update at h
    split at h
    · cases h
      exact .of_answered rfl
    · split at h
      · cases h
        exact .of_answered rfl
      · cases h

/-- What a table reads has the shape of documents, or is none for a known reason. -/
theorem fetch_cases (t : AutomationTable) (p : AutomationRow → Bool) :
    t.fetch p = .ok none ∨ (∃ a, t.fetch p = .ok (some a) ∧ a.flow.IsSettled) ∨
      ∃ fault, t.fetch p = .error fault ∧ Failure.IsKnown (.fault fault) := by
  unfold AutomationTable.fetch AutomationTable.automationOf AutomationTable.flowOfColumns
  split
  · exact .inl rfl
  · rename_i row _
    cases hflow : Flow.ofLists ((Json.read? row.nodes).getD .null) ((Json.read? row.edges).getD .null) with
    | ok flow => exact .inr (.inl ⟨_, rfl, Flow.isSettled_of_ofLists hflow⟩)
    | error fault => exact .inr (.inr ⟨_, rfl, Failure.isKnown_document (Flow.fault_of_ofLists hflow)⟩)

theorem isKnown_of_fetch {t : AutomationTable} {p : AutomationRow → Bool} {fault : Fault}
    (h : t.fetch p = .error fault) : Failure.IsKnown (.fault fault) := by
  rcases fetch_cases t p with hnone | ⟨a, ha, _⟩ | ⟨fault', hfault, hknown⟩
  · cases hnone.symm.trans h
  · cases ha.symm.trans h
  · cases hfault.symm.trans h
    exact hknown

/-- A table reads every automation through the shape of documents. -/
instance : SettledAutomations AutomationTable where
  Sound _ := True
  isSettled_of_get {t id a} _ h := by
    change t.fetch _ = .ok (some a) at h
    rcases fetch_cases t _ with hnone | ⟨b, hb, hsettled⟩ | ⟨fault, hfault, _⟩
    · cases hnone.symm.trans h
    · cases hb.symm.trans h
      exact hsettled
    · cases hfault.symm.trans h
  isKnown_of_get _ h := isKnown_of_fetch h
  isKnown_of_getByName _ h := isKnown_of_fetch h
  sound_create _ _ _ _ _ := trivial
  isKnown_of_create {t a now ids fault} _ h := by
    change (AutomationTable.create t a now ids).result = .error fault at h
    unfold AutomationTable.create at h
    dsimp only at h
    split at h
    · cases h
      exact .of_answered rfl
    · cases h
  sound_update _ _ _ _ := trivial
  isKnown_of_update {t a now fault} _ h := by
    change (AutomationTable.update t a now).1 = .error fault at h
    unfold AutomationTable.update at h
    split at h
    · cases h
      exact .of_answered rfl
    · split at h
      · cases h
        exact .of_answered rfl
      · dsimp only at h
        split at h
        · cases h
        · cases h
          exact .of_answered rfl
        · rename_i fault' hfetch
          cases h
          exact isKnown_of_fetch hfetch

end Command

end Dripline
