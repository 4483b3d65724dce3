import Dripline.Time.Stamp
import Dripline.Text.Digits
import Dripline.Text.Quoted

/-!
# Faults of YAML texts

Why a text has no value. A text that breaks the rules of the format is simply malformed; a text that
keeps them may still hold a scalar that its own type has no value for. Two kinds of texts are beyond
description: texts are made of whole characters here, and a scalar may escape half of a surrogate pair;
and how deep collections may be nested before the stack of the reader ends depends on its caller.
-/

namespace Dripline.Yaml

/-- Why a text has no value. -/
inductive Fault where
  /-- The text is not well-formed, or uses a type that is not known. -/
  | malformed
  /-- An escape for a number that is no character. -/
  | noCharacter
  /-- An escape for half of a surrogate pair. What becomes of a text that holds one is not described. -/
  | unpaired
  /-- More levels of collections than are sure to be read. What becomes of such a text is not described. -/
  | nested
  /-- A date or time with an impossible number. -/
  | impossibleTime (field : Moment.FieldFault) (n : Nat)
  /-- An offset of a day or more, in seconds. -/
  | impossibleOffset (seconds : Int)
  /-- A scalar marked as an integer that is none in its base. -/
  | notInteger (base : Nat) (text : String)
  /-- A whole number with more decimal digits than are read. -/
  | manyDigits (digits : Nat)
  /-- A scalar marked as a number that is none. -/
  | notNumber (text : String)
  /-- An empty scalar marked as a number. -/
  | emptyNumber
  /-- A scalar marked as a truth value that is none. -/
  | notTruth (text : String)
  /-- A scalar marked as a time that is none. -/
  | notTime
deriving DecidableEq, Repr

namespace Fault

/-- The name of a fault in reports. -/
def label : Fault → String
  | .malformed => "YAMLError"
  | .unpaired => "Surrogate"
  | .nested => "RecursionError"
  | .emptyNumber => "IndexError"
  | .notTruth _ => "KeyError"
  | .notTime => "AttributeError"
  | _ => "ValueError"

/-- Whether a fault says what is wrong with a value. The other faults are of the text itself, or of a
    mark that does not fit its scalar. -/
def isOfValue : Fault → Bool
  | .malformed => false
  | .unpaired => false
  | .nested => false
  | .emptyNumber => false
  | .notTruth _ => false
  | .notTime => false
  | _ => true

/-- Whether what a fault leads to is described. -/
def isDescribed : Fault → Bool
  | .unpaired => false
  | .nested => false
  | _ => true

/-- A span of seconds in days and seconds, as messages show it. -/
def spanText (seconds : Int) : String :=
  let days := Int.fdiv seconds 86400
  let rest := Int.fmod seconds 86400
  let parts := (if days = 0 then [] else [s!"days={days}"]) ++
    (if rest = 0 then [] else [s!"seconds={rest}"])
  "datetime.timedelta(" ++ ", ".intercalate parts ++ ")"

/-- The wording of a fault. A malformed text has none. -/
def message : Fault → String
  | .malformed => ""
  | .noCharacter => "chr() arg not in range(0x110000)"
  | .unpaired => "half of a surrogate pair"
  | .nested => "maximum recursion depth exceeded"
  | .impossibleTime field n => field.message n
  | .impossibleOffset seconds =>
    "offset must be a timedelta strictly between -timedelta(hours=24) and timedelta(hours=24), not "
      ++ spanText seconds ++ "."
  | .notInteger base text =>
    s!"invalid literal for int() with base {base}: " ++ Text.quoted text
  | .manyDigits digits =>
    s!"Exceeds the limit ({Text.digitLimit} digits) for integer string conversion: value has {digits} "
      ++ "digits; use sys.set_int_max_str_digits() to increase the limit"
  | .notNumber text => "could not convert string to float: " ++ Text.quoted text
  | .emptyNumber => "string index out of range"
  | .notTruth text => Text.quoted text
  | .notTime => "'NoneType' object has no attribute 'groupdict'"

end Fault

end Dripline.Yaml
