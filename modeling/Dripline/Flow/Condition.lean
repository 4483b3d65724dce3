import Dripline.Flow.Model
import Dripline.Text.Case

/-!
# Conditions

A condition looks at the address of the subject, ignoring case:

* each rule compares the lower-cased subject with its lower-cased value; a rule without a known
  operator never matches, a missing value is the empty text;
* `OR` asks for one matching rule, everything else for all of them. No rules at all hold under
  `AND` and fail under `OR`.
-/

namespace Dripline

/-- The comparisons of a rule. -/
inductive Operator where
  | equals
  | notEquals
  | includes
  | startsWith
  | endsWith
deriving DecidableEq, Repr

namespace Operator

/-- The comparison of a name. -/
def ofText? (s : String) : Option Operator :=
  if s = "equals" then some .equals
  else if s = "not_equals" then some .notEquals
  else if s = "includes" then some .includes
  else if s = "starts_with" then some .startsWith
  else if s = "ends_with" then some .endsWith
  else none

/-- Whether `needle` stands somewhere in a text. -/
def occursIn (needle : List Char) : List Char → Bool
  | [] => needle.isEmpty
  | c :: cs => needle.isPrefixOf (c :: cs) || occursIn needle cs

/-- Whether a comparison holds between a subject and a value. -/
def holds (op : Operator) (subject value : List Char) : Bool :=
  match op with
  | .equals => subject == value
  | .notEquals => subject != value
  | .includes => occursIn value subject
  | .startsWith => value.isPrefixOf subject
  | .endsWith => value.isSuffixOf subject

end Operator

/-- Whether a rule matches a subject. -/
def Rule.matchesSubject (r : Rule) (subject : String) : Bool :=
  match Operator.ofText? (r.operator.getD "") with
  | none => false
  | some op => op.holds (Text.lower subject).toList (Text.lower (r.value.getD "")).toList

/-- Whether rules match a subject together. -/
def rulesMatch (rules : List Rule) (subject : String) (logic : String) : Bool :=
  if logic = "OR" then rules.any (·.matchesSubject subject)
  else rules.all (·.matchesSubject subject)

/-- The way in which a condition combines its rules. -/
def Condition.combination (c : Condition) : String :=
  match c.logic with
  | none => "AND"
  | some s => if s = "" then "AND" else s

/-- The outcome of a condition for a subject. -/
def Condition.outcome (c : Condition) (subject : String) : Bool :=
  rulesMatch c.rules subject c.combination

end Dripline
