import Dripline.Authoring
import Dripline.Document.Written

/-!
# Saving written automations

An automation that is written in a file is saved under its name: it is created the first time, and after
that its flow is replaced.
-/

namespace Dripline.Authoring

variable {α : Type} [AutomationStorage α]

/-- Saves an automation under its name. -/
def saveNamed (store : α) (ids : Ids) (now : Moment) (a : Automation) : Outcome α Automation :=
  match AutomationStorage.getByName store a.name with
  | .error fault => refuse store ids fault
  | .ok none => create store ids now (some a.name) a.flow
  | .ok (some existing) =>
    update store ids now existing.id none (some a.flow.nodes) (some a.flow.edges)

/-- Saves the automation that a text describes. -/
def saveText (store : α) (ids : Ids) (now : Moment) (text : String) : Outcome α Automation :=
  match Automation.ofText text none with
  | .error fault => refuse store ids fault
  | .ok a => saveNamed store ids now a

end Dripline.Authoring
