import Dripline.Journal
import Dripline.Text.Case

/-!
# Log levels by name

The level from which on the journal is shown. A name counts in any case, and one that means nothing stands for
the level of plain information. It is looked up among all that the logging library calls by a name in capitals,
so it may also mean something that is no level: the wording of a line, or the table of wordings.
-/

namespace Dripline.Logging

/-- What a name means that is no level. -/
inductive Fault where
  /-- The wording of a line. -/
  | wording
  /-- The wordings by their styles. -/
  | styles
deriving DecidableEq, Repr

namespace Fault

/-- The name of a fault in reports. -/
def label : Fault → String
  | .wording => "ValueError"
  | .styles => "TypeError"

/-- The text of a fault. -/
def message : Fault → String
  | .wording => "Unknown level: '%(levelname)s:%(name)s:%(message)s'"
  | .styles =>
    "Level not an integer or a valid string: \x7b'%': (<class 'logging.PercentStyle'>, " ++
      "'%(levelname)s:%(name)s:%(message)s'), '\x7b': (<class 'logging.StrFormatStyle'>, " ++
      "'\x7blevelname\x7d:\x7bname\x7d:\x7bmessage\x7d'), '$': (<class 'logging.StringTemplateStyle'>, " ++
      "'$\x7blevelname\x7d:$\x7bname\x7d:$\x7bmessage\x7d')\x7d"

end Fault

/-- What the names in capitals mean. -/
def meanings : List (String × Except Fault Nat) :=
  [("CRITICAL", .ok 50), ("FATAL", .ok 50), ("ERROR", .ok 40), ("WARN", .ok 30), ("WARNING", .ok 30),
    ("INFO", .ok 20), ("DEBUG", .ok 10), ("NOTSET", .ok 0), ("BASIC_FORMAT", .error .wording),
    ("_STYLES", .error .styles)]

/-- The capitals of a character, as far as they are letters of `meanings`. -/
def capital (c : Char) : List Char :=
  if c = 'ﬅ' ∨ c = 'ﬆ' then ['S', 'T'] else [Text.asciiCapital c]

/-- A name in capitals. -/
def capitals (name : String) : String := String.ofList (name.toList.flatMap capital)

/-- The level of a name. -/
def rankOf (name : String) : Except Fault Nat :=
  (meanings.lookup (capitals name)).getD (.ok Level.info.rank)

end Dripline.Logging
