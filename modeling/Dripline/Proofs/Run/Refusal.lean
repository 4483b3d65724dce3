import Dripline.Delivery.Outbox
import Dripline.Run.Runner
import Dripline.Proofs.Authoring.Refusal

/-!
# Requests that are refused

Whatever a runner and its stores hold, a request that ends with a fault has changed nothing:

* `AtomicExecutions`: a store of executions does what it is asked for, or nothing. A table writes columns
  before it looks whether there was a row; without a row nothing was written;
* `Request`: what is asked of a runner, and `serve`: what comes of it;
* **`serve_leaves`**, **`serve_refused`**: after a request that was refused only the supply of ids can differ.
  A table takes an id before it turns out that a name is taken.
-/

namespace Dripline

/-! ## 1. Stores -/

/-- **A store of executions that does what it is asked for, or nothing.** -/
class AtomicExecutions (ε : Type) [ExecutionStorage ε] : Prop where
  create_refused {s : ε} {e : Execution} {now : Moment} {ids : Ids} {fault : Fault} :
    (ExecutionStorage.create s e now ids).result = .error fault →
    (ExecutionStorage.create s e now ids).store = s
  update_refused {s : ε} {id : String} {fields : List Field} {fault : Fault} :
    (ExecutionStorage.update s id fields).1 = .error fault → (ExecutionStorage.update s id fields).2 = s
  append_refused {s : ε} {id : String} {entry : LogEntry} {fault : Fault} :
    (ExecutionStorage.appendLog s id entry).1 = .error fault →
    (ExecutionStorage.appendLog s id entry).2 = s

namespace MemoryExecutions

instance : AtomicExecutions MemoryExecutions where
  create_refused h := by cases h
  update_refused {s id fields fault} h := by
    replace h : (update s id fields).1 = .error fault := h
    show (update s id fields).2 = s
    unfold update at h ⊢
    cases hfields : checkFields fields with
    | error fault => rfl
    | ok u =>
      cases hget : s.items.get? id with
      | none => rfl
      | some e =>
        rw [hfields, hget] at h
        cases h
  append_refused {s id entry fault} h := by
    replace h : (appendLog s id entry).1 = .error fault := h
    show (appendLog s id entry).2 = s
    unfold appendLog at h ⊢
    cases hget : s.items.get? id with
    | none => rfl
    | some e =>
      rw [hget] at h
      cases h

end MemoryExecutions

namespace ExecutionTable

instance : AtomicExecutions ExecutionTable where
  create_refused {t e now ids fault} h := by
    replace h : (create t e now ids).result = .error fault := h
    show (create t e now ids).store = t
    unfold create at h ⊢
    dsimp only at h ⊢
    split
    · rfl
    · rename_i hfree
      rw [if_neg hfree] at h
      cases h
  update_refused {t id fields fault} h := by
    replace h : (update t id fields).1 = .error fault := h
    show (update t id fields).2 = t
    cases hfields : checkFields fields with
    | error fault =>
      unfold update
      rw [hfields]
    | ok u =>
      cases hget : t.get id with
      | none => rw [update_of_missing hget hfields]
      | some e =>
        rw [(update_eq hget hfields).1] at h
        cases h
  append_refused {t id entry fault} h := by
    replace h : (appendLog t id entry).1 = .error fault := h
    show (appendLog t id entry).2 = t
    unfold appendLog at h ⊢
    split
    · rename_i hthere
      rw [if_pos hthere] at h
      cases h
    · rfl

end ExecutionTable

/-! ## 2. Requests -/

/-- What is asked of a runner and its stores. -/
inductive Request where
  /-- Automations are changed. -/
  | edit (e : Authoring.Edit)
  /-- An execution is started. -/
  | start (automationId : String) (subject : Option String)
  /-- Fields of an execution are written. -/
  | writeFields (executionId : String) (fields : List Field)
  /-- An entry is appended to the log of an execution. -/
  | appendEntry (executionId : String) (entry : LogEntry)

/-- The flows that a request carries are described. -/
def Request.IsDescribed : Request → Prop
  | .edit e => e.IsDescribed
  | _ => True

namespace Runner

variable {α ε ν : Type} [AutomationStorage α] [ExecutionStorage ε] [Notifier ν]

/-- What comes of a request: a fault, if it is refused, and the runner after it. -/
def serve (r : Runner α ε ν) : Request → Except Fault Unit × Runner α ε ν
  | .edit e =>
    let saved := e.perform r.automations r.ids r.clock
    (saved.result.map fun _ => (), { r with
      automations := saved.store
      ids := saved.ids
      journal := saved.lines.reverse ++ r.journal })
  | .start automationId subject =>
    let begun := r.start automationId subject
    (begun.1.map fun _ => (), begun.2)
  | .writeFields id fields =>
    let written := ExecutionStorage.update r.executions id fields
    (written.1.map fun _ => (), { r with executions := written.2 })
  | .appendEntry id entry =>
    let appended := ExecutionStorage.appendLog r.executions id entry
    (appended.1, { r with executions := appended.2 })

section

variable [AtomicExecutions ε] {r : Runner α ε ν} {fault : Fault}

omit [Notifier ν] in
/-- An execution that cannot be started has at most taken an id. -/
theorem start_refused {automationId : String} {subject : Option String}
    (h : (r.start automationId subject).1 = .error fault) :
    (r.start automationId subject).2 = { r with ids := (r.start automationId subject).2.ids } := by
  unfold start at h ⊢
  cases haddress : Address.clean subject with
  | error fault => rfl
  | ok address =>
    rw [haddress] at h
    cases hget : AutomationStorage.get r.automations automationId with
    | error fault => rfl
    | ok found =>
      rw [hget] at h
      cases found with
      | none => rfl
      | some a =>
        cases hproblems : a.flow.problems r.clock with
        | error fault => simp only [hproblems]
        | ok problems =>
          cases problems with
          | cons p ps => simp only [hproblems]
          | nil =>
            simp only [hproblems] at h ⊢
            cases hresult : (ExecutionStorage.create r.executions
                ⟨"", a.id, address, .pending, none, [], none, none, none⟩ r.clock r.ids).result with
            | error fault =>
              have hstore := AtomicExecutions.create_refused hresult
              simp only [hstore]
            | ok e =>
              rw [hresult] at h
              cases h

end

section

variable [AtomicAutomations α] [AtomicExecutions ε] {r : Runner α ε ν} {fault : Fault}

omit [Notifier ν] in
/-- A request that is refused changes nothing but the supply of ids, over any stores that do what they are
    asked for, or nothing. -/
theorem serve_leaves {q : Request} (hq : q.IsDescribed) (h : (r.serve q).1 = .error fault) :
    (r.serve q).2 = { r with ids := (r.serve q).2.ids } := by
  cases q with
  | edit e =>
    have hrefused : (e.perform r.automations r.ids r.clock).result = .error fault :=
      error_of_map h
    obtain ⟨hstore, hlines⟩ := Authoring.perform_refused hq hrefused
    unfold serve
    simp only [hstore, hlines, List.reverse_nil, List.nil_append]
  | start automationId subject =>
    have hrefused : (r.start automationId subject).1 = .error fault := error_of_map h
    have hsame := start_refused hrefused
    unfold serve
    exact hsame
  | writeFields id fields =>
    have hrefused : (ExecutionStorage.update r.executions id fields).1 = .error fault :=
      error_of_map h
    have hstore := AtomicExecutions.update_refused hrefused
    unfold serve
    simp only [hstore]
  | appendEntry id entry =>
    have hrefused : (ExecutionStorage.appendLog r.executions id entry).1 = .error fault := h
    have hstore := AtomicExecutions.append_refused hrefused
    unfold serve
    simp only [hstore]

end

omit [Notifier ν] in
/-- **A request that is refused changes nothing**, over stores in memory as over tables: neither automations
    nor executions with their logs, timers, queued tasks or anything else but the supply of ids. -/
theorem serve_refused {q : Request} (hq : q.IsDescribed) (fault : Fault) :
    (∀ r : Runner MemoryAutomations MemoryExecutions ν, (r.serve q).1 = .error fault →
        (r.serve q).2 = { r with ids := (r.serve q).2.ids }) ∧
      ∀ r : Runner AutomationTable ExecutionTable ν, (r.serve q).1 = .error fault →
        (r.serve q).2 = { r with ids := (r.serve q).2.ids } :=
  ⟨fun _ h => serve_leaves hq h, fun _ h => serve_leaves hq h⟩

/-- A runner over tables, with an automation whose name is "Note". -/
def noteRunner : Runner AutomationTable ExecutionTable Outbox :=
  ((⟨.empty, .empty, ⟨none, []⟩, Moment.first, ⟨0⟩, .empty, [], [], 50, 50⟩ :
    Runner AutomationTable ExecutionTable Outbox).serve (.edit (.create (some "Note") noteFlow))).2

/-- An automation with a name that is taken costs an id. -/
theorem serve_refused_taken :
    (noteRunner.serve (.edit (.create (some " Note ") noteFlow))).1 = .error (.nameTaken "Note") ∧
      (noteRunner.serve (.edit (.create (some " Note ") noteFlow))).2 = { noteRunner with ids := ⟨2⟩ } := by
  have hrefused : (noteRunner.serve (.edit (.create (some " Note ") noteFlow))).1 =
      .error (.nameTaken "Note") := by decide +kernel
  have hids : (noteRunner.serve (.edit (.create (some " Note ") noteFlow))).2.ids = ⟨2⟩ := by
    decide +kernel
  refine ⟨hrefused, ?_⟩
  have hsame := (serve_refused (q := .edit (.create (some " Note ") noteFlow)) isDescribed_noteFlow
    (.nameTaken "Note")).2 noteRunner hrefused
  rw [hsame, hids]

end Runner

end Dripline
