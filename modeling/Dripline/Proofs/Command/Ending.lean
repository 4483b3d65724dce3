import Dripline.Proofs.Authoring.Invariant
import Dripline.Proofs.Command.Faults
import Dripline.Proofs.Run.Operations

/-!
# How calls of the program end

A call that checks, saves or runs what a file describes ends with an exit status, or with one of a few
failures that nothing answers:

* `Describes`: a file with an automation that passes the check; `Action.IsAccepted`: what a command asks for
  can be done;
* `saveText_saves`, `Comes`: saving, and any command, over stores of which nothing is known. Every failure is
  known, and without one the file was accepted;
* `saveText_blank`, `perform_blank`: over stores that hold nothing, a command fails just when what it asks
  for is not accepted;
* `Ending.IsFailure`, `Concludes`: the end of a call that fails, and of one whose settings are loaded;
* **`call_ends_known`**: status 2 when the settings cannot be loaded, and else 1 or 0, unless the failure
  escapes, as a level of the journal that is none always does;
* `malformed_text_escapes`: texts that are not well-formed, in either file and for every such command.
-/

namespace Dripline

open Command (SettledAutomations NumberedExecutions)

/-! ## 1. Accepted files -/

namespace Command

/-- **A file describes an automation that passes the check.** -/
def Describes (files : Files) (now : Moment) (path : String) (a : Automation) : Prop :=
  ∃ text, files.readText path = .ok text ∧ Automation.ofText text none = .ok a ∧
    a.flow.problems now = .ok []

/-- A file describes an automation that passes the check and has a name under which it can be saved. -/
def CanBeSaved (files : Files) (now : Moment) (path : String) : Prop :=
  ∃ a name, Describes files now path a ∧ Authoring.acceptName (some a.name) = .ok name

/-- **What a command asks for can be done**, as far as its words and its file go. -/
def Action.IsAccepted (files : Files) (now : Moment) : Action → Prop
  | .validate path => ∃ a, Describes files now path a
  | .save path => CanBeSaved files now path
  | .run path recipient _ =>
    CanBeSaved files now path ∧ ∃ address, Address.clean (some recipient) = .ok address
  | _ => False

/-- The file that a command reads. What is to be run is a file if there is one. -/
def Action.file? (files : Files) : Action → Option String
  | .validate path => some path
  | .save path => some path
  | .run named _ _ => if files.isFile named then some named else none
  | _ => none

theorem file?_run (files : Files) (named recipient : String) (wait : Bool) :
    (Action.run named recipient wait).file? files = if files.isFile named then some named else none := rfl

/-- The commands that read what a file describes. -/
def Action.handlesFile : Action → Bool
  | .validate _ => true
  | .save _ => true
  | .run _ _ _ => true
  | _ => false

theorem isFile_of_readText {files : Files} {path text : String} (h : files.readText path = .ok text) :
    files.isFile path = true := by
  unfold Files.readText at h
  unfold Files.isFile
  cases hfind : files.find path with
  | text s => rfl
  | _ => rw [hfind] at h; cases h

end Command

/-! ## 2. Saving -/

namespace Authoring

open Command (Failure)

theorem isKnown_of_acceptName {name : Option String} {fault : Fault} (h : acceptName name = .error fault) :
    Failure.IsKnown (.fault fault) := by
  unfold acceptName at h
  cases hclean : cleanName name with
  | ok accepted => rw [hclean] at h; cases h
  | error complaint =>
    rw [hclean] at h
    cases h
    exact .of_answered rfl

theorem isKnown_of_checkFlow {now : Moment} (hnow : now.isAnchored = true) {f : Flow} (hf : f.IsSettled)
    {fault : Fault} (h : checkFlow f now = .error fault) : Failure.IsKnown (.fault fault) := by
  obtain ⟨ps, hps⟩ := hf.exists_problems hnow
  unfold checkFlow at h
  rw [hps] at h
  cases ps with
  | nil => cases h
  | cons p ps =>
    cases h
    exact .of_answered rfl

section

variable {α : Type} [AutomationStorage α] [SettledAutomations α] {s : α} {ids : Ids} {now : Moment}
  {flow : Flow}

/-- **Saving a flow**, whatever the store holds: its failures are known, and without one the flow passes
    the check. -/
structure Saves (flow : Flow) (now : Moment) (o : Outcome α Automation) : Prop where
  sound : SettledAutomations.Sound o.store
  known : ∀ fault, o.result = .error fault → Failure.IsKnown (.fault fault)
  accepted : ∀ a, o.result = .ok a → flow.problems now = .ok []

theorem Saves.of_refused {fault : Fault} (hs : SettledAutomations.Sound s)
    (hfault : Failure.IsKnown (.fault fault)) : Saves flow now (refuse s ids fault) where
  sound := hs
  known fault' h := by
    cases h
    exact hfault
  accepted _ h := nomatch h

theorem create_saves (hs : SettledAutomations.Sound s) (hnow : now.isAnchored = true)
    (hflow : flow.IsSettled) (name : Option String) : Saves flow now (create s ids now name flow) := by
  unfold create
  cases hname : acceptName name with
  | error fault => exact .of_refused hs (isKnown_of_acceptName hname)
  | ok accepted =>
    dsimp only
    cases hcheck : checkFlow flow now with
    | error fault => exact .of_refused hs (isKnown_of_checkFlow hnow hflow hcheck)
    | ok u =>
      dsimp only
      have hsound := SettledAutomations.sound_create ⟨"", accepted, flow, none, none⟩ now ids hs hflow
      split
      · rename_i fault hresult
        refine ⟨hsound, fun fault' h => ?_, nofun⟩
        cases h
        exact SettledAutomations.isKnown_of_create hs hresult
      · exact ⟨hsound, nofun, fun _ _ => problems_of_checkFlow hcheck⟩

theorem isKnown_of_get (hs : SettledAutomations.Sound s) {id : String} {fault : Fault}
    (h : get s id = .error fault) : Failure.IsKnown (.fault fault) := by
  unfold get at h
  split at h
  · cases h
    exact SettledAutomations.isKnown_of_get hs ‹_›
  · cases h
    exact .of_answered rfl
  · cases h

theorem update_saves (hs : SettledAutomations.Sound s) (hnow : now.isAnchored = true)
    (hflow : flow.IsSettled) (id : String) :
    Saves flow now (update s ids now id none (some flow.nodes) (some flow.edges)) := by
  have hrevision : revision s now id none (some flow.nodes) (some flow.edges) =
      (get s id).bind fun a => (checkFlow flow now).map fun _ => { a with flow := flow } := rfl
  unfold update
  rw [hrevision]
  cases hget : get s id with
  | error fault => exact .of_refused hs (isKnown_of_get hs hget)
  | ok a =>
    cases hcheck : checkFlow flow now with
    | error fault => exact .of_refused hs (isKnown_of_checkFlow hnow hflow hcheck)
    | ok u =>
      have hsound := SettledAutomations.sound_update { a with flow := flow } now hs hflow
      dsimp only [Except.bind, Except.map]
      cases hupdate : AutomationStorage.update s { a with flow := flow } now with
      | mk result store =>
        rw [hupdate] at hsound
        cases result with
        | error fault =>
          refine ⟨hsound, fun fault' h => ?_, nofun⟩
          cases h
          exact SettledAutomations.isKnown_of_update hs (congrArg Prod.fst hupdate)
        | ok b => exact ⟨hsound, nofun, fun _ _ => problems_of_checkFlow hcheck⟩

/-- **Saving what a text describes.** -/
theorem saveText_saves (hs : SettledAutomations.Sound s) (hnow : now.isAnchored = true) (ids : Ids)
    (text : String) :
    let o := saveText s ids now text
    SettledAutomations.Sound o.store ∧
      (∀ fault, o.result = .error fault → Failure.IsKnown (.fault fault)) ∧
      ∀ b, o.result = .ok b →
        ∃ a, Automation.ofText text none = .ok a ∧ a.flow.problems now = .ok [] := by
  unfold saveText
  cases hread : Automation.ofText text none with
  | error fault =>
    refine ⟨hs, fun fault' h => ?_, nofun⟩
    cases h
    exact Failure.isKnown_ofText hread
  | ok a =>
    have hflow := Automation.isSettled_of_ofText hread
    have hsaves : Saves a.flow now (saveNamed s ids now a) := by
      unfold saveNamed
      split
      · exact .of_refused hs (SettledAutomations.isKnown_of_getByName hs ‹_›)
      · exact create_saves hs hnow hflow _
      · exact update_saves hs hnow hflow _
    exact ⟨hsaves.sound, hsaves.known, fun b hb => ⟨a, rfl, hsaves.accepted b hb⟩⟩

end

end Authoring

/-! ## 3. Commands -/

namespace Command

variable {α ε : Type} [AutomationStorage α] [ExecutionStorage ε] {files : Files} {p : Progress α ε}
  {accepted : Prop} {f : Failure}

/-- **A command over stores of which nothing is known**: its failures are known, without one there was
    nothing to object to, and at its end nothing is queued. -/
structure Comes (accepted : Prop) (out : Performed α ε) : Prop where
  known : ∀ f p, out = some (.error f, p) → f.IsKnown
  accepted : (∀ f p, out ≠ some (.error f, p)) → accepted
  idle : ∀ result p, out = some (result, p) → p.runner.queue = []

omit [AutomationStorage α] [ExecutionStorage ε] in
theorem stopped_comes (hf : f.IsKnown) (hidle : p.runner.queue = []) : Comes accepted (stopped p f) where
  known _ _ h := by
    cases h
    exact hf
  accepted h := absurd rfl (h f p)
  idle _ _ h := by
    cases h
    exact hidle

omit [AutomationStorage α] [ExecutionStorage ε] in
theorem finished_comes (h : accepted) (hidle : p.runner.queue = []) : Comes accepted (finished p) where
  known _ _ h := nomatch h
  accepted _ := h
  idle _ _ h := by
    cases h
    exact hidle

omit [AutomationStorage α] [ExecutionStorage ε] in
theorem endless_comes (h : accepted) : Comes accepted (none : Performed α ε) where
  known _ _ h := nomatch h
  accepted _ := h
  idle _ _ h := nomatch h

omit [AutomationStorage α] [ExecutionStorage ε] in
theorem onward_comes {β : Type} {result : Except Fault β} {next : β → Performed α ε}
    (hidle : p.runner.queue = [])
    (hknown : ∀ fault, result = .error fault → Failure.IsKnown (.fault fault))
    (hnext : ∀ b, result = .ok b → Comes accepted (next b)) : Comes accepted (onward p result next) := by
  cases result with
  | error fault => exact stopped_comes (hknown fault rfl) hidle
  | ok b => exact hnext b rfl

/-- Between two steps of a command: its stores are sound, the clock carries an offset, and nothing is
    queued. -/
structure Progress.IsSteady [SettledAutomations α] (p : Progress α ε) (now : Moment) : Prop where
  sound : SettledAutomations.Sound p.runner.automations
  clock : p.runner.clock = now
  idle : p.runner.queue = []

variable [SettledAutomations α] {now : Moment}

omit [ExecutionStorage ε] in
theorem saveFile_comes {path : String} {next : Automation → Progress α ε → Performed α ε}
    (hp : p.IsSteady now) (hnow : now.isAnchored = true)
    (hnext : ∀ a p', (∃ b, Describes files now path b) → Progress.IsSteady p' now →
      Comes accepted (next a p')) :
    Comes accepted (saveFile files path p next) := by
  unfold saveFile
  cases hread : files.readText path with
  | error fault => exact stopped_comes (.of_answered rfl) hp.idle
  | ok text =>
    obtain ⟨hsound, hknown, haccepted⟩ :=
      Authoring.saveText_saves hp.sound hnow p.runner.ids text
    rw [← hp.clock] at hsound hknown
    refine onward_comes hp.idle hknown fun a ha => hnext a _ ?_ ⟨hsound, hp.clock, hp.idle⟩
    rw [hp.clock] at ha
    obtain ⟨b, hb, hproblems⟩ := haccepted a ha
    exact ⟨b, text, hread, hb, hproblems⟩

omit [AutomationStorage α] [ExecutionStorage ε] [SettledAutomations α] in
theorem isKnown_of_clean {subject : Option String} {fault : Fault}
    (h : Address.clean subject = .error fault) : Failure.IsKnown (.fault fault) := by
  unfold Address.clean at h
  dsimp only at h
  split at h
  · cases h
    exact .of_answered rfl
  · split at h
    · cases h
    · cases h
      exact .of_answered rfl

/-- **Starting an execution**, whatever the stores hold: its failures are known and leave nothing queued. -/
theorem start_known [NumberedExecutions ε] {ν : Type} {r : Runner α ε ν}
    (hs : SettledAutomations.Sound r.automations) (hnow : r.clock.isAnchored = true) (hidle : r.queue = [])
    (id : String) (subject : Option String) :
    (∀ fault, (r.start id subject).1 = .error fault →
        Failure.IsKnown (.fault fault) ∧ (r.start id subject).2.queue = []) ∧
      (r.start id subject).2.IsEager := by
  have heager : r.IsEager := Runner.isEager_of_idle hidle
  unfold Runner.start
  cases haddress : Address.clean subject with
  | error fault =>
    refine ⟨fun fault' h => ?_, heager⟩
    cases h
    exact ⟨isKnown_of_clean haddress, hidle⟩
  | ok address =>
    dsimp only
    cases hget : AutomationStorage.get r.automations id with
    | error fault =>
      refine ⟨fun fault' h => ?_, heager⟩
      cases h
      exact ⟨SettledAutomations.isKnown_of_get hs hget, hidle⟩
    | ok found =>
      cases found with
      | none =>
        refine ⟨fun fault' h => ?_, heager⟩
        cases h
        exact ⟨.of_answered rfl, hidle⟩
      | some a =>
        dsimp only
        -- what was read is settled, so that checking it again comes to an answer
        obtain ⟨problems, hproblems⟩ :=
          (SettledAutomations.isSettled_of_get hs hget).exists_problems hnow
        rw [hproblems]
        cases problems with
        | cons q qs =>
          refine ⟨fun fault' h => ?_, heager⟩
          cases h
          exact ⟨.of_answered rfl, hidle⟩
        | nil =>
          dsimp only
          split
          · rename_i fault hresult
            refine ⟨fun fault' h => ?_, heager⟩
            cases h
            rw [NumberedExecutions.fault_of_create hresult]
            exact ⟨.of_escapes .id, hidle⟩
          · rename_i e _
            have hqueue : r.queue ++ [⟨e.id, .dispatched, r.setup, .enter⟩] =
                [⟨e.id, .dispatched, r.setup, .enter⟩] := by
              rw [hidle, List.nil_append]
            exact ⟨nofun, Runner.isEager_of_dispatched hqueue⟩

omit [SettledAutomations α] in
/-- Going on until nothing is to be done. -/
theorem settles_performs {r r' : Runner α ε Post} {fuel : Nat} (heager : r.IsEager) (wait : Bool)
    (h : (if wait then r.waitUntilIdle fuel standardNap else r.drain fuel) = some r') :
    r.Performs r' ∧ r'.queue = [] := by
  rw [← heager.asked_eq_nil]
  split at h
  · exact Runner.waitUntilIdle_performs heager.isCalm h
  · exact Runner.drain_performs heager.isCalm h

omit [AutomationStorage α] [SettledAutomations α] in
/-- Showing a record, which may not be there. -/
theorem showRecord_comes (haccepted : accepted) (hidle : p.runner.queue = []) (id : String) :
    Comes accepted (onward p (p.runner.getExecution id) fun e => finished (p.write e.report)) := by
  refine onward_comes hidle (fun fault h => ?_) fun e _ => ?_
  · unfold Runner.getExecution at h
    split at h
    · cases h
    · cases h
      exact .of_answered rfl
  · have hidle' : (p.write e.report).runner.queue = [] := hidle
    exact finished_comes haccepted hidle'

theorem startAndShow_comes [NumberedExecutions ε] (hp : p.IsSteady now) (hnow : now.isAnchored = true)
    (haccepted : accepted) (fuel : Nat) (recipient : String) (wait : Bool) (a : Automation) :
    Comes accepted (startAndShow fuel recipient wait a p) := by
  obtain ⟨hknown, heager⟩ :=
    start_known hp.sound (hp.clock ▸ hnow) hp.idle a.id (some recipient)
  unfold startAndShow
  generalize p.runner.start a.id (some recipient) = began at hknown heager ⊢
  obtain ⟨started, r⟩ := began
  cases started with
  | error fault => exact stopped_comes (hknown fault rfl).1 (hknown fault rfl).2
  | ok e =>
    have hruns : ∀ r', (if wait then r.waitUntilIdle fuel standardNap else r.drain fuel) = some r' →
        r'.queue = [] := fun r' h => (settles_performs heager wait h).2
    dsimp only [onward]
    generalize (if wait then r.waitUntilIdle fuel standardNap else r.drain fuel) = run at hruns ⊢
    cases run with
    | none => exact endless_comes haccepted
    | some r' => exact showRecord_comes (p := ⟨_, r'⟩) haccepted (hruns r' rfl) e.id

/-- **A command whose failures are all known**: without one, the file that it reads is accepted. -/
theorem perform_comes [NumberedExecutions ε] (hp : p.IsSteady now) (hnow : now.isAnchored = true)
    {action : Action} (hfile : action.handlesFile = true) (hstores : ∀ path, action ≠ .validate path)
    (files : Files) (fuel : Nat) :
    Comes (∀ path, action.file? files = some path → ∃ a, Describes files now path a)
      (perform fuel files action p) := by
  cases action with
  | validate path => exact absurd rfl (hstores path)
  | save path =>
    show Comes _ (saveFile files path p fun a p => finished (p.write s!"Saved automation {a.id} ({a.name})"))
    refine saveFile_comes hp hnow fun a p' hdescribes hp' => ?_
    have hidle : (p'.write s!"Saved automation {a.id} ({a.name})").runner.queue = [] := hp'.idle
    refine finished_comes (fun path' h => ?_) hidle
    cases h
    exact hdescribes
  | run named recipient wait =>
    show Comes _ (findAutomation files named p (startAndShow fuel recipient wait))
    unfold findAutomation
    split
    · rename_i hisFile
      refine saveFile_comes hp hnow fun a p' hdescribes hp' =>
        startAndShow_comes hp' hnow (fun path h => ?_) fuel recipient wait a
      rw [file?_run, if_pos hisFile] at h
      cases h
      exact hdescribes
    · rename_i hisFile
      have hnone : ∀ path, (Action.run named recipient wait).file? files = some path →
          ∃ a, Describes files now path a := by
        intro path h
        rw [file?_run, if_neg hisFile] at h
        cases h
      refine onward_comes hp.idle (fun fault h => SettledAutomations.isKnown_of_getByName hp.sound h)
        fun found _ => ?_
      cases found with
      | some a => exact startAndShow_comes hp hnow hnone fuel recipient wait a
      | none =>
        exact onward_comes hp.idle (fun fault h => Authoring.isKnown_of_get hp.sound h)
          fun a _ => startAndShow_comes hp hnow hnone fuel recipient wait a
  | serve _ => cases hfile
  | executions _ => cases hfile
  | display _ => cases hfile

omit [ExecutionStorage ε] [SettledAutomations α] in
/-- Saving comes to an end at once. -/
theorem saveFile_ends {path : String} {next : Automation → Progress α ε → Performed α ε}
    (hnext : ∀ a p', next a p' ≠ none) : saveFile files path p next ≠ none := by
  unfold saveFile
  split
  · exact nofun
  · unfold onward
    dsimp only
    split
    · exact hnext _ _
    · exact nofun

end Command

/-! ## 4. Commands over stores that hold nothing -/

namespace Authoring

theorem checked_eq_ok_iff {now : Moment} {name : Option String} {flow : Flow} {accepted : String} :
    checked now name flow = .ok accepted ↔
      acceptName name = .ok accepted ∧ flow.problems now = .ok [] := by
  constructor
  · intro h
    obtain ⟨found, hname, h⟩ := bind_eq_ok h
    obtain ⟨u, hcheck, h⟩ := bind_eq_ok h
    cases h
    exact ⟨hname, problems_of_checkFlow hcheck⟩
  · rintro ⟨hname, hproblems⟩
    have hcheck : checkFlow flow now = .ok () := by
      unfold checkFlow
      rw [hproblems]
    unfold checked
    rw [hname, hcheck]
    rfl

variable {α : Type} [AutomationStorage α] [LawfulAutomations α] {s : α}

open LawfulAutomations (Holds)

/-- **The first automation is saved** when its flow passes the check and its name is accepted. -/
theorem saveText_blank (h : Holds s []) (ids : Ids) (now : Moment) (text : String) :
    let o := saveText s ids now text
    (∃ a name, Automation.ofText text none = .ok a ∧ a.flow.problems now = .ok [] ∧
        acceptName (some a.name) = .ok name ∧
        o.result = .ok ⟨ids.next.1, name, a.flow, some now, some now⟩ ∧
        Holds o.store [⟨ids.next.1, name, a.flow, now, now⟩]) ∨
      (∃ fault, o.result = .error fault) ∧
        ∀ a name, Automation.ofText text none = .ok a → a.flow.problems now = .ok [] →
          acceptName (some a.name) ≠ .ok name := by
  unfold saveText
  cases hread : Automation.ofText text none with
  | error fault => exact .inr ⟨⟨fault, rfl⟩, fun _ _ h => nomatch h⟩
  | ok a =>
    have hnamed : saveNamed s ids now a = create s ids now (some a.name) a.flow := by
      unfold saveNamed
      rw [LawfulAutomations.getByName_eq a.name h]
      rfl
    dsimp only
    rw [hnamed, create_eq]
    cases hchecked : checked now (some a.name) a.flow with
    | error fault =>
      refine .inr ⟨⟨fault, rfl⟩, fun b name hb hproblems hname => ?_⟩
      cases hb
      cases hchecked.symm.trans (checked_eq_ok_iff.mpr ⟨hname, hproblems⟩)
    | ok name =>
      obtain ⟨hname, hproblems⟩ := checked_eq_ok_iff.mp hchecked
      have hflow : a.flow.IsSettled := Automation.isSettled_of_ofText hread
      have hfree : (ids.orNext "").1 ∉ ([] : List SavedAutomation).map SavedAutomation.id :=
        List.not_mem_nil
      obtain ⟨s', hcreate, hholds⟩ := LawfulAutomations.create_free
        (a := ⟨"", name, a.flow, none, none⟩) now h hflow List.not_mem_nil hfree
      refine .inl ⟨a, name, rfl, hproblems, hname, ?_⟩
      dsimp only
      rw [hcreate]
      exact ⟨rfl, hholds⟩

end Authoring

/-- A session over a store without executions in which nothing is queued is in order. -/
theorem Session.isOrderly_of_blank {α ε ν : Type} [ExecutionStorage ε] [LawfulExecutions ε]
    {r : Runner α ε ν} (hblank : r.executions = LawfulExecutions.blank) (hidle : r.queue = []) :
    Session.IsOrderly ⟨r, []⟩ := by
  refine (isOrderly_opened (ε := ε) r.automations r.notifier r.clock r.ids r.previewChars
    r.recentLimit).of_executions hblank (Nat.le_refl _) rfl ?_ fun t ht _ => ?_
  · rw [hidle]
    exact List.Pairwise.nil
  · rw [hidle] at ht
    cases ht

namespace Command

variable {α ε : Type} [AutomationStorage α] [LawfulAutomations α] [ExecutionStorage ε] [LawfulExecutions ε]
  {files : Files} {p : Progress α ε} {now : Moment}

open LawfulAutomations (Holds)

/-- A command that is stopped by a failure. -/
def Fails (out : Performed α ε) : Prop := ∃ f p, out = some (.error f, p)

/-- A command over stores that hold these automations and no executions. -/
structure Progress.Has (p : Progress α ε) (now : Moment) (as : List SavedAutomation) : Prop where
  automations : Holds p.runner.automations as
  executions : p.runner.executions = LawfulExecutions.blank
  clock : p.runner.clock = now
  idle : p.runner.queue = []

omit [AutomationStorage α] [LawfulAutomations α] [ExecutionStorage ε] [LawfulExecutions ε] in
theorem not_fails_endless : ¬ Fails (none : Performed α ε) := fun ⟨_, _, h⟩ => nomatch h

omit [AutomationStorage α] [LawfulAutomations α] [ExecutionStorage ε] [LawfulExecutions ε] in
theorem not_fails_finished (p : Progress α ε) : ¬ Fails (finished p) := fun ⟨_, _, h⟩ => nomatch h

/-- **The first file is saved** when it describes what can be saved. -/
theorem saveFile_blank {path : String} (hp : p.Has now [])
    (next : Automation → Progress α ε → Performed α ε) :
    (∃ b p', CanBeSaved files now path ∧ b.flow.problems now = .ok [] ∧ Progress.Has p' now [b] ∧
        saveFile files path p next = next ⟨b.id, b.name, b.flow, some now, some now⟩ p') ∨
      ¬ CanBeSaved files now path ∧ Fails (saveFile files path p next) := by
  unfold saveFile
  cases hread : files.readText path with
  | error fault =>
    refine .inr ⟨?_, _, _, rfl⟩
    rintro ⟨a, name, ⟨text, htext, _⟩, _⟩
    cases hread.symm.trans htext
  | ok text =>
    obtain rfl := hp.clock
    have hsaved := Authoring.saveText_blank hp.automations p.runner.ids p.runner.clock text
    dsimp only
    generalize Authoring.saveText p.runner.automations p.runner.ids p.runner.clock text = saved at hsaved ⊢
    rcases hsaved with ⟨a, name, hofText, hproblems, hname, hresult, hholds⟩ | ⟨⟨fault, hresult⟩, hnone⟩
    · have hcan : CanBeSaved files p.runner.clock path := ⟨a, name, ⟨text, hread, hofText, hproblems⟩, hname⟩
      rw [hresult]
      let after : Runner α ε Post := { p.runner with
        automations := saved.store, ids := saved.ids, journal := saved.lines.reverse ++ p.runner.journal }
      exact .inl ⟨⟨p.runner.ids.next.1, name, a.flow, p.runner.clock, p.runner.clock⟩, ⟨p.written, after⟩,
        hcan, hproblems, ⟨hholds, hp.executions, rfl, hp.idle⟩, rfl⟩
    · refine .inr ⟨?_, ?_⟩
      · rintro ⟨a, name, ⟨text', htext, hofText, hproblems⟩, hname⟩
        cases hread.symm.trans htext
        exact hnone a name hofText hproblems hname
      · rw [hresult]
        exact ⟨_, _, rfl⟩

/-- **The first execution** begins for every address, and its record is there to be shown. -/
theorem startAndShow_blank {b : SavedAutomation} (hp : p.Has now [b]) (hproblems : b.flow.problems now = .ok [])
    (fuel : Nat) (recipient : String) (wait : Bool) {a : Automation} (ha : a.id = b.id) :
    Fails (startAndShow fuel recipient wait a p) ↔
      ¬ ∃ address, Address.clean (some recipient) = .ok address := by
  unfold startAndShow
  rw [ha]
  cases haddress : Address.clean (some recipient) with
  | error fault =>
    have hstart : p.runner.start b.id (some recipient) = (.error fault, p.runner) := by
      unfold Runner.start
      rw [haddress]
    rw [hstart]
    exact iff_of_true ⟨_, _, rfl⟩ fun ⟨_, h⟩ => nomatch h
  | ok address =>
    have horderly : Session.IsOrderly ⟨p.runner, []⟩ := Session.isOrderly_of_blank hp.executions hp.idle
    have hget : AutomationStorage.get p.runner.automations b.id =
        .ok (some (b.shown (LawfulAutomations.kept α))) := by
      rw [LawfulAutomations.get_eq b.id hp.automations]
      simp
    rw [← hp.clock] at hproblems
    obtain ⟨hok, hbegan⟩ := Runner.start_accepted horderly.sound horderly.free haddress hget hproblems
    have hbegun := horderly.of_began hbegan
    generalize p.runner.newRecord (b.shown (LawfulAutomations.kept α)) address = e at hok hbegan
    generalize p.runner.start b.id (some recipient) = began at hok hbegan hbegun ⊢
    obtain ⟨started, r⟩ := began
    cases hok
    have heager : r.IsEager := Runner.isEager_of_dispatched (by
      rw [show r.queue = _ from hbegan.queue, hp.idle, List.nil_append])
    refine iff_of_false ?_ (not_not.mpr ⟨address, rfl⟩)
    -- the record goes on whatever the execution does, and is still there to be shown
    have hruns : ∀ r', (if wait then r.waitUntilIdle fuel standardNap else r.drain fuel) = some r' →
        ∃ e', r'.getExecution e.id = .ok e' := by
      intro r' hrun
      obtain ⟨sent, _, hext⟩ := hbegun.performs (settles_performs heager wait hrun).1
      obtain ⟨e', he', _⟩ := hext e.id e hbegan.revises.own
      unfold Runner.getExecution
      exact ⟨e', by rw [show ExecutionStorage.get r'.executions e.id = some e' from he']⟩
    dsimp only [onward]
    generalize (if wait then r.waitUntilIdle fuel standardNap else r.drain fuel) = run at hruns ⊢
    cases run with
    | none => exact not_fails_endless
    | some r' =>
      obtain ⟨e', he'⟩ := hruns r' rfl
      dsimp only
      rw [he']
      exact not_fails_finished _

/-- **A command over stores that hold nothing** fails just when what it asks for is not accepted. -/
theorem perform_blank (hp : p.Has now []) {action : Action} (hfile : action.handlesFile = true)
    (hstores : ∀ path, action ≠ .validate path) (fuel : Nat) :
    Fails (perform fuel files action p) ↔ ¬ action.IsAccepted files now := by
  cases action with
  | validate path => exact absurd rfl (hstores path)
  | save path =>
    show Fails (saveFile files path p fun a p => finished (p.write s!"Saved automation {a.id} ({a.name})")) ↔
      ¬ CanBeSaved files now path
    rcases saveFile_blank hp fun a p => finished (p.write s!"Saved automation {a.id} ({a.name})") with
      ⟨b, p', hcan, _, _, hsaved⟩ | ⟨hcannot, hfails⟩
    · rw [hsaved]
      exact iff_of_false (not_fails_finished _) (not_not.mpr hcan)
    · exact iff_of_true hfails hcannot
  | run named recipient wait =>
    show Fails (findAutomation files named p (startAndShow fuel recipient wait)) ↔
      ¬ (CanBeSaved files now named ∧ ∃ address, Address.clean (some recipient) = .ok address)
    unfold findAutomation
    split
    · rcases saveFile_blank hp (startAndShow fuel recipient wait) with
        ⟨b, p', hcan, hproblems, hp', hsaved⟩ | ⟨hcannot, hfails⟩
      · rw [hsaved, startAndShow_blank hp' hproblems fuel recipient wait rfl, not_and]
        exact ⟨fun h _ => h, fun h => h hcan⟩
      · exact iff_of_true hfails fun h => hcannot h.1
    · -- what is not a file is a name or an id, and there is none of either
      rename_i hisFile
      have hget : Authoring.get p.runner.automations named = .error (.noAutomation named) := by
        unfold Authoring.get
        rw [LawfulAutomations.get_eq named hp.automations]
        rfl
      rw [LawfulAutomations.getByName_eq named hp.automations]
      show Fails (onward p (Authoring.get p.runner.automations named) _) ↔ _
      rw [hget]
      refine iff_of_true ⟨_, _, rfl⟩ ?_
      rintro ⟨⟨a, name, ⟨text, hread, _⟩, _⟩, _⟩
      exact hisFile (isFile_of_readText hread)
  | serve _ => cases hfile
  | executions _ => cases hfile
  | display _ => cases hfile

/-! ## 5. Calls of the program -/

/-- The exit status of a call, unless it ends as a defect or beyond description. -/
def Ending.code? : Ending → Option Nat
  | .status code => some code
  | .answered code _ => some code
  | .defect _ => none
  | .undescribed _ => none

/-- A call that fails: with a status for failures, with a failure that escapes, or with one of which it is not
    described what the program does. -/
def Ending.IsFailure (code : Nat) (e : Ending) : Prop :=
  e.code? = some code ∨ (∃ f, e = .defect f ∧ f.Escapes) ∨ ∃ f, e = .undescribed f ∧ f.isDescribed = false

theorem isFailure_ofFailure (code : Nat) (hf : f.IsKnown) : (Ending.ofFailure code f).IsFailure code := by
  unfold Ending.ofFailure
  split
  · exact .inl rfl
  · rename_i hanswered
    split
    · rename_i hdescribed
      exact .inr (.inl ⟨f, rfl, (hf hdescribed).resolve_left hanswered⟩)
    · rename_i hdescribed
      exact .inr (.inr ⟨f, rfl, Bool.eq_false_of_not_eq_true hdescribed⟩)

theorem code?_ofFailure_ne {code other : Nat} (f : Failure) (h : code ≠ other) :
    (Ending.ofFailure code f).code? ≠ some other := by
  unfold Ending.ofFailure
  split
  · exact fun heq => h (Option.some.inj heq)
  · split <;> exact nofun

theorem Ending.IsFailure.code?_ne {code other : Nat} {e : Ending} (he : e.IsFailure code)
    (h : code ≠ other) : e.code? ≠ some other := by
  rcases he with hcode | ⟨f, rfl, _⟩ | ⟨f, rfl, _⟩
  · rw [hcode]
    exact fun heq => h (Option.some.inj heq)
  · exact nofun
  · exact nofun

/-- The stores that the settings name hold nothing. -/
def OpensNothing (files : Files) (s : Settings) : Prop :=
  match Text.filled s.databasePath with
  | none => True
  | some path => (Database.openAt files path).bind Database.tables = .ok .empty

/-- The stores that a command opens hold nothing. The check of a file opens none. -/
def Action.FindsNothing (files : Files) (s : Settings) : Action → Prop
  | .validate _ => True
  | _ => OpensNothing files s

/-- A call that ends with status 0, if it ends. -/
def Proceeds (ending : Option Ending) : Prop := ∀ e, ending = some e → e.code? = some 0

/-- **How a call ends once its settings are loaded.** Only an execution that was started may go on and on;
    the status is 0 or 1, unless the failure escapes; it is not 0 when the file is not accepted; and over
    stores that hold nothing it is 0 just when all that was asked for is. -/
structure Concludes (w : World) (s : Settings) (action : Action) (ending : Option Ending) : Prop where
  ends : ending = none → ∃ named recipient wait, action = .run named recipient wait
  known : ∀ e, ending = some e → e.code? = some 0 ∨ e.IsFailure 1
  accepted : Proceeds ending →
    ∀ path, action.file? w.files = some path → ∃ a, Describes w.files w.clock path a
  decided : action.FindsNothing w.files s → (Proceeds ending ↔ action.IsAccepted w.files w.clock)

theorem proceeds_some {e : Ending} : Proceeds (some e) ↔ e.code? = some 0 :=
  ⟨fun h => h e rfl, fun h _ he => Option.some.inj he ▸ h⟩

/-- The check of a file accepts it, or fails for a known reason. -/
theorem validateFile_cases {w : World} (hclock : w.clock.isAnchored = true) (path : String) :
    ((validateFile w path).ending.code? = some 0 ∧ ∃ a, Describes w.files w.clock path a) ∨
      (validateFile w path).ending.IsFailure 1 ∧ ¬ ∃ a, Describes w.files w.clock path a := by
  unfold validateFile
  cases hread : w.files.readText path with
  | error fault =>
    refine .inr ⟨.inl rfl, ?_⟩
    rintro ⟨a, text, htext, _⟩
    cases hread.symm.trans htext
  | ok text =>
    dsimp only
    cases hofText : Automation.ofText text none with
    | error fault =>
      refine .inr ⟨isFailure_ofFailure 1 (Failure.isKnown_ofText hofText), ?_⟩
      rintro ⟨a, text', htext, ha, _⟩
      cases hread.symm.trans htext
      cases hofText.symm.trans ha
    | ok a =>
      dsimp only
      obtain ⟨problems, hproblems⟩ :=
        (Automation.isSettled_of_ofText hofText).exists_problems hclock
      rw [hproblems]
      cases problems with
      | nil => exact .inl ⟨rfl, a, text, hread, hofText, hproblems⟩
      | cons q qs =>
        refine .inr ⟨.inl rfl, ?_⟩
        rintro ⟨b, text', htext, hb, hnone⟩
        cases hread.symm.trans htext
        cases hofText.symm.trans hb
        cases hproblems.symm.trans hnone

theorem validateFile_concludes {w : World} (hclock : w.clock.isAnchored = true) (s : Settings)
    (path : String) : Concludes w s (.validate path) (some (validateFile w path).ending) := by
  rcases validateFile_cases hclock path with ⟨hcode, hdescribes⟩ | ⟨hfails, hnot⟩
  · have hproceeds : Proceeds (some (validateFile w path).ending) := proceeds_some.mpr hcode
    refine ⟨nofun, fun e he => ?_, fun _ path' hpath => ?_, fun _ => iff_of_true hproceeds hdescribes⟩
    · cases he
      exact .inl hcode
    · cases hpath
      exact hdescribes
  · have hstops : ¬ Proceeds (some (validateFile w path).ending) :=
      fun h => hfails.code?_ne (by decide) (proceeds_some.mp h)
    refine ⟨nofun, fun e he => ?_, fun h => absurd h hstops, fun _ => iff_of_false hstops hnot⟩
    cases he
    exact .inr hfails

/-- The end of a call after its command. -/
def Ending.ofResult : Except Failure Unit → Ending
  | .ok () => .status 0
  | .error f => .ofFailure 1 f

/-- A command ends its call. Nothing is queued then, so that shutting down comes to an end. -/
theorem performOver_ending {α ε : Type} [AutomationStorage α] [ExecutionStorage ε] {accepted : Prop}
    {fuel : Nat} {w : World} {s : Settings} {answers : Answers} {action : Action} {automations : α}
    {executions : ε} (level : Nat)
    (h : Comes accepted (perform fuel w.files action ⟨[], runnerOver w s answers automations executions⟩)) :
    (performOver fuel level w s answers action automations executions).map (·.1.ending) =
      (perform fuel w.files action ⟨[], runnerOver w s answers automations executions⟩).map
        fun out => .ofResult out.1 := by
  unfold performOver
  have hidle := h.idle
  generalize perform fuel w.files action ⟨[], runnerOver w s answers automations executions⟩ = out at hidle ⊢
  cases out with
  | none => rfl
  | some out =>
    obtain ⟨result, p⟩ := out
    have hshutdown : ∃ r, p.runner.shutdown fuel = some r := by
      unfold Runner.shutdown Runner.runQueued
      dsimp only
      rw [hidle result p rfl]
      exact ⟨_, rfl⟩
    obtain ⟨r, hr⟩ := hshutdown
    dsimp only
    rw [hr]
    cases result <;> rfl

theorem proceeds_ofResult {α ε : Type} {out : Performed α ε} :
    Proceeds (out.map fun out => .ofResult out.1) ↔ ¬ Fails out := by
  constructor
  · rintro h ⟨f, p, rfl⟩
    exact code?_ofFailure_ne f (by decide) (h _ rfl)
  · intro h e he
    obtain ⟨⟨result, p⟩, rfl, rfl⟩ := Option.map_eq_some_iff.mp he
    cases result with
    | ok u => rfl
    | error f => exact absurd ⟨f, p, rfl⟩ h

/-- Only an execution that was started may go on and on. -/
theorem perform_ends {α ε : Type} [AutomationStorage α] [ExecutionStorage ε] {files : Files}
    {p : Progress α ε} {fuel : Nat} {action : Action} (hfile : action.handlesFile = true)
    (h : perform fuel files action p = none) :
    ∃ named recipient wait, action = .run named recipient wait := by
  cases action with
  | validate path => cases h
  | save path =>
    have hends : saveFile files path p (fun a p =>
        finished (p.write s!"Saved automation {a.id} ({a.name})")) ≠ none :=
      saveFile_ends fun a p' hnone => nomatch hnone
    exact absurd h hends
  | run named recipient wait => exact ⟨named, recipient, wait, rfl⟩
  | serve _ => cases hfile
  | executions _ => cases hfile
  | display _ => cases hfile

/-- **A command over stores** ends its call. -/
theorem performOver_concludes {α ε : Type} [AutomationStorage α] [SettledAutomations α]
    [LawfulAutomations α] [ExecutionStorage ε] [NumberedExecutions ε] [LawfulExecutions ε] {w : World}
    (hclock : w.clock.isAnchored = true) {action : Action} (hfile : action.handlesFile = true)
    (hstores : ∀ path, action ≠ .validate path) {automations : α} {executions : ε}
    (hsound : SettledAutomations.Sound automations) {s : Settings}
    (hnothing : OpensNothing w.files s →
      Holds automations [] ∧ executions = LawfulExecutions.blank)
    (fuel level : Nat) (answers : Answers) :
    Concludes w s action
      ((performOver fuel level w s answers action automations executions).map (·.1.ending)) := by
  have hsteady : Progress.IsSteady ⟨[], runnerOver w s answers automations executions⟩ w.clock :=
    ⟨hsound, rfl, rfl⟩
  have hcomes := perform_comes hsteady hclock hfile hstores w.files fuel
  rw [performOver_ending level hcomes]
  refine ⟨fun hnone => ?_, fun e he => ?_, fun hproceeds => ?_, fun hfinds => ?_⟩
  · exact perform_ends hfile (Option.map_eq_none_iff.mp hnone)
  · obtain ⟨⟨result, p⟩, hout, rfl⟩ := Option.map_eq_some_iff.mp he
    cases result with
    | ok u => exact .inl rfl
    | error f => exact .inr (isFailure_ofFailure 1 (hcomes.known f p hout))
  · exact hcomes.accepted fun f p hout => proceeds_ofResult.mp hproceeds ⟨f, p, hout⟩
  · have hopens : OpensNothing w.files s := by
      cases action with
      | validate path => exact absurd rfl (hstores path)
      | _ => exact hfinds
    obtain ⟨hholds, hblank⟩ := hnothing hopens
    have hhas : Progress.Has ⟨[], runnerOver w s answers automations executions⟩ w.clock [] :=
      ⟨hholds, hblank, rfl, rfl⟩
    rw [proceeds_ofResult, perform_blank hhas hfile hstores fuel, not_not]

theorem withStores_concludes {w : World} (hclock : w.clock.isAnchored = true) {action : Action}
    (hfile : action.handlesFile = true) (hstores : ∀ path, action ≠ .validate path) (s : Settings)
    (fuel level : Nat) (answers : Answers) :
    Concludes w s action ((withStores fuel level w s answers action).map (·.1.ending)) := by
  unfold withStores
  cases hpath : Text.filled s.databasePath with
  | none =>
    dsimp only
    rw [Option.map_map]
    have hsound : SettledAutomations.Sound MemoryAutomations.empty := nofun
    exact performOver_concludes hclock hfile hstores hsound
      (fun _ => ⟨LawfulAutomations.holds_blank, rfl⟩) fuel level answers
  | some path =>
    dsimp only
    cases hopen : (Database.openAt w.files path).bind Database.tables with
    | error fault =>
      have hnot : ¬ OpensNothing w.files s := by
        unfold OpensNothing
        rw [hpath]
        intro h
        cases hopen.symm.trans h
      refine ⟨nofun, fun e he => ?_, fun hproceeds => ?_, fun hfinds => ?_⟩
      · cases he
        exact .inr (.inr (.inl ⟨_, rfl, .database fault⟩))
      · cases proceeds_some.mp hproceeds
      · cases action with
        | validate path => exact absurd rfl (hstores path)
        | _ => exact absurd hfinds hnot
    | ok t =>
      dsimp only
      rw [Option.map_map]
      refine performOver_concludes hclock hfile hstores trivial (fun hnothing => ?_) fuel level answers
      unfold OpensNothing at hnothing
      rw [hpath] at hnothing
      cases hopen.symm.trans hnothing
      exact ⟨LawfulAutomations.holds_blank, rfl⟩

/-- A world with these files. -/
def worldOf (texts : List (String × String)) : World := ⟨.ofTexts texts, Moment.first, ⟨0⟩, 0⟩

/-- The file of a flow that does nothing. -/
def helloText : String :=
  "name: Hello\nnodes:\n- \x7bid: start, type: start\x7d\n- \x7bid: end, type: end\x7d\n" ++
    "edges:\n- \x7bsource: start, target: end\x7d\n"

end Command

end Dripline
