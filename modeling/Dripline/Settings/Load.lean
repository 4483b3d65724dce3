import Dripline.Settings.Model
import Dripline.Document.Json
import Dripline.Yaml.Meaning
import Dripline.Files
import Dripline.Text.Case
import Dripline.Keyed

/-!
# Where settings come from

Settings are put together from a file and from variables of the environment, of which a variable counts
more than the file:

* `Naming`: how the variable of a field is named. `Environment.folded`: names count in any case, unless the
  naming is exact;
* `Environment.entries`: the fields that variables set. Fields of the mail server may be set together, as
  JSON, and one by one;
* `overlay`: mappings are put over each other field by field, to any depth;
* `Settings.keywords`, `Settings.naming`: the entries of a file are arguments of the library that puts
  settings together, and some names it takes for itself, three of which say how variables are named;
* `Settings.ofEntries`, `Settings.ofText`, `Settings.load`: the settings, or why there are none.
-/

namespace Dripline

/-- Why settings cannot be loaded. -/
inductive SettingsFault where
  | file (fault : FileFault)
  | yaml (fault : Yaml.Fault)
  | notMapping (path : String)
  | keyNotText
  /-- A variable that should hold JSON does not. -/
  | unreadable (field : String)
  /-- A variable holds half of a surrogate pair, whose effect is not described. -/
  | unpaired (field : String)
  /-- A variable may hold more levels than are sure to be read, and the effect is not described. -/
  | nested (field : String)
  /-- The name of the variable for a field cannot be put together. -/
  | unnamed (field : String)
  /-- The library takes an entry of the file for itself, with an effect that is not described here. -/
  | keyword (name : String)
  | shape (issues : List Shape.Issue)
deriving DecidableEq, Repr

namespace SettingsFault

/-- The name of a fault in reports. -/
def label : SettingsFault → String
  | .file fault => fault.label
  | .yaml fault => fault.label
  | .notMapping _ => "ValueError"
  | .keyNotText => "TypeError"
  | .unreadable _ => "SettingsError"
  | .unpaired _ => "Surrogate"
  | .nested _ => "RecursionError"
  | .unnamed _ => "SettingsError"
  | .keyword _ => "Keyword"
  | .shape _ => "ValueError"

/-- The wording of a fault. Misfits are listed beside it. -/
def message : SettingsFault → String
  | .file fault => fault.message
  | .yaml fault => fault.message
  | .notMapping path => s!"Config file {path} must contain a mapping"
  | .keyNotText => "keywords must be strings"
  | .unreadable field =>
    s!"error parsing value for field \"{field}\" from source \"EnvSettingsSource\""
  | .unnamed field =>
    s!"error getting value for field \"{field}\" from source \"EnvSettingsSource\""
  | .unpaired field => s!"half of a surrogate pair for field \"{field}\""
  | .nested field => s!"too many levels for field \"{field}\""
  | .keyword name => s!"{name} is an argument of the library"
  | .shape _ => "Invalid configuration"

/-- Whether the command line answers the fault with a message. -/
def isReported : SettingsFault → Bool
  | .yaml fault => fault.isOfValue
  | .keyNotText => false
  | .unpaired _ => false
  | .nested _ => false
  | .keyword _ => false
  | _ => true

/-- Whether what a fault leads to is described. -/
def isDescribed : SettingsFault → Bool
  | .yaml fault => fault.isDescribed
  | .unpaired _ => false
  | .nested _ => false
  | .keyword _ => false
  | _ => true

end SettingsFault

/-! ## 1. Mappings over each other -/

/-- The value under a key. -/
def valueUnder? (key : Value) : List (Value × Value) → Option Value
  | [] => none
  | (k, v) :: rest => if Value.sameKey k key then some v else valueUnder? key rest

mutual

/-- A value put over another one. Two mappings are merged. -/
def overlayValue : Value → Value → Value
  | .map upper, .map lower => .map (overlay upper lower)
  | upper, _ => upper

/-- Entries put over other ones. -/
def overlay : List (Value × Value) → List (Value × Value) → List (Value × Value)
  | [], lower => lower
  | (k, v) :: upper, lower =>
    overlay upper (Value.putEntry k
      (match valueUnder? k lower with
        | some w => overlayValue v w
        | none => v) lower)

end

/-! ## 2. Variables -/

/-- How the variable of a field is named: what its name begins with, what stands between the names of a
    field and of a field in it, and whether case counts. -/
structure Naming where
  lead : String
  joint : String
  exact : Bool
deriving DecidableEq, Repr

namespace Naming

/-- The program's own naming. -/
def standard : Naming := ⟨"FLOWBUILDER_", "__", false⟩

/-- A name as it is compared. -/
def fold (n : Naming) (name : String) : String := if n.exact then name else Text.lower name

/-- The name of the variable for a field, as it is compared. -/
def of (n : Naming) (field : String) : String := n.fold (n.lead ++ field)

end Naming

/-- The variables of the environment, in order. -/
abbrev Environment := List (String × String)

namespace Environment

/-- What the names of the program's variables begin with. -/
def lead : String := "flowbuilder_"

/-- The variables under their names as they are compared. Of two names that are compared as one the later
    one counts. -/
def folded (n : Naming) (env : Environment) : Keyed String :=
  env.foldl (fun t (name, s) => t.put (n.fold name) s) .empty

/-- The parts of a name between its joints, after a number of characters that are passed over. -/
def nameParts (joint : List Char) : Nat → List Char → List (List Char)
  | _, [] => [[]]
  | skipped + 1, _ :: cs => nameParts joint skipped cs
  | 0, c :: cs =>
    if joint.isPrefixOf (c :: cs) then [] :: nameParts joint (joint.length - 1) cs
    else
      match nameParts joint 0 cs with
      | [] => [[c]]
      | p :: ps => (c :: p) :: ps

/-- A text put into a mapping under a path of names. What is there and is no mapping is kept, unless
    the path ends at it. -/
def insert (text : String) : List String → List (Value × Value) → List (Value × Value)
  | [], es => es
  | [name], es => Value.putEntry (.text name) (.text text) es
  | name :: names, es =>
    match Value.entry? name es with
    | none => Value.putEntry (.text name) (.map (insert text names [])) es
    | some (.map inner) => Value.putEntry (.text name) (.map (insert text names inner)) es
    | some _ => es

/-- The fields in a field that are set one by one, none without a joint. -/
def nested (n : Naming) (vars : Keyed String) (field : String) : List (Value × Value) :=
  let start := (n.of field ++ n.joint).toList
  if n.joint = "" then []
  else
    vars.entries.foldl (fun es (name, s) =>
      if start.isPrefixOf name.toList then
        insert s ((nameParts n.joint.toList 0 (name.toList.drop start.length)).map String.ofList) es
      else es) []

/-- A name of a field in the case that the field has. -/
def properName (names : List String) (key : Value) : Value :=
  match key with
  | .text s =>
    match names.find? fun n => n == Text.lower s with
    | some n => .text n
    | none => key
  | key => key

/-- Entries under the proper names of their fields, where case does not count. -/
def withProperNames (n : Naming) (names : List String) (es : List (Value × Value)) :
    List (Value × Value) :=
  if n.exact then es else Value.collect (es.map fun (k, v) => (properName names k, v))

/-- Whether an escape for half of a surrogate pair stands in a text. -/
def escapesHalf : List Char → Bool
  | '\\' :: 'u' :: a :: b :: cs => isHalf a b || escapesHalf ('u' :: a :: b :: cs)
  | _ :: cs => escapesHalf cs
  | [] => false
where
  isHalf (a b : Char) : Bool := (a = 'd' || a = 'D') && (Text.readNat? 16 [b]).any (8 ≤ ·)

/-- The number of brackets in a text that may begin a list or a mapping: no less than its levels. -/
def openings (cs : List Char) : Nat := cs.countP fun c => c = '[' || c = '\x7b'

/-- What the variables say about the mail server: nothing, or a value. -/
def smtpValue (n : Naming) (vars : Keyed String) : Except SettingsFault (Option Value) :=
  let single := nested n vars "smtp"
  match vars.get? (n.of "smtp") with
  | none =>
    if single.isEmpty then .ok none
    else .ok (some (.map (withProperNames n SmtpSettings.fieldNames single)))
  | some text =>
    if Value.nestingLimit < openings text.toList then .error (.nested "smtp")
    else
      match Json.read? text with
      | none => .error (if escapesHalf text.toList then .unpaired "smtp" else .unreadable "smtp")
      | some .null => .ok none
      | some (.map es) =>
        .ok (some (.map (withProperNames n SmtpSettings.fieldNames (overlay single es))))
      | some v => .ok (some v)

/-- The entry of a field that a variable sets as a text. -/
def textEntry (n : Naming) (vars : Keyed String) (field : String) : List (Value × Value) :=
  match vars.get? (n.of field) with
  | some s => [(.text field, .text s)]
  | none => []

/-- The fields that variables set. -/
def entries (n : Naming) (env : Environment) : Except SettingsFault (List (Value × Value)) :=
  let vars := env.folded n
  (smtpValue n vars).map fun smtp =>
    (Settings.fieldNames.filter (· ≠ "smtp")).flatMap (textEntry n vars) ++
      match smtp with
      | some v => [(.text "smtp", v)]
      | none => []

end Environment

/-! ## 3. Settings -/

namespace Settings

/-- Whether a key of an entry is another spelling of the name of a field. -/
def isVariant (name : String) (e : Value × Value) : Bool :=
  match e.1 with
  | .text s => s != name && Text.lower s == name
  | _ => false

/-- The entry for a field: the one with its exact name, or else the first one that differs in case. -/
def fieldEntry (es : List (Value × Value)) (name : String) : List (Value × Value) :=
  match Value.entry? name es with
  | some v => [(.text name, v)]
  | none =>
    match es.find? (isVariant name) with
    | some e => [(.text name, e.2)]
    | none => []

/-- Whether an entry belongs to no field. -/
def isForeign (e : Value × Value) : Bool :=
  match e.1 with
  | .text s => !fieldNames.contains (Text.lower s)
  | _ => true

/-- Entries under the exact names of the fields, and all others. -/
def byField (es : List (Value × Value)) : List (Value × Value) :=
  fieldNames.flatMap (fieldEntry es) ++ es.filter isForeign

/-- Whether a value is a text. -/
def isText : Value → Bool
  | .text _ => true
  | _ => false

/-- The names that the library takes for itself: what a file has under them is no setting. -/
def keywords : List String :=
  ["_case_sensitive", "_nested_model_default_partial_update", "_env_prefix", "_env_file",
    "_env_file_encoding", "_env_ignore_empty", "_env_nested_delimiter", "_env_nested_max_split",
    "_env_parse_none_str", "_env_parse_enums", "_cli_prog_name", "_cli_parse_args",
    "_cli_settings_source", "_cli_parse_none_str", "_cli_hide_none_type", "_cli_avoid_json",
    "_cli_enforce_required", "_cli_use_class_docs_for_groups", "_cli_exit_on_error", "_cli_prefix",
    "_cli_flag_prefix_char", "_cli_implicit_flags", "_cli_ignore_unknown_args", "_cli_kebab_case",
    "_cli_shortcuts", "_secrets_dir"]

/-- Whether an entry is one that the library takes for itself. -/
def isKeyword (e : Value × Value) : Bool :=
  match e.1 with
  | .text s => keywords.contains s
  | _ => false

/-- The naming after an entry that the library takes for itself. Nothing leaves it as it is. -/
def rename (n : Naming) (e : Value × Value) : Except SettingsFault Naming :=
  match e.1, e.2 with
  | _, .null => .ok n
  | .text "_env_prefix", .text lead => .ok { n with lead := lead }
  | .text "_env_prefix", _ => .error (.unnamed "database_path")
  | .text "_env_nested_delimiter", .text joint => .ok { n with joint := joint }
  | .text "_env_nested_delimiter", v =>
    if v.isVoid then .ok { n with joint := "" } else .error (.keyword "_env_nested_delimiter")
  | .text "_case_sensitive", v => .ok { n with exact := !v.isVoid }
  | .text name, _ => .error (.keyword name)
  | _, _ => .ok n

/-- **How variables are named** after the entries that the library takes for itself. -/
def naming (es : List (Value × Value)) : Except SettingsFault Naming :=
  (es.filter isKeyword).foldlM rename .standard

/-- The settings that entries and variables describe. -/
def ofEntries (es : List (Value × Value)) (env : Environment) : Except SettingsFault Settings :=
  if es.any fun e => !isText e.1 then .error .keyNotText
  else
    match (naming es).bind fun n => env.entries n with
    | .error fault => .error fault
    | .ok upper =>
      match shape (overlay upper (byField (es.filter fun e => !isKeyword e))) with
      | .misfits issues => .error (.shape issues)
      | .fits s => .ok s

/-- The entries of a settings file. What counts as nothing is an empty file. -/
def entriesOfText (path text : String) : Except SettingsFault (List (Value × Value)) :=
  match Yaml.read? text with
  | .error fault => .error (.yaml fault)
  | .ok (.map es) => .ok es
  | .ok v => if v.isVoid then .ok [] else .error (.notMapping path)

/-- The settings of a file, which has a name for messages, and of variables. -/
def ofText (path text : String) (env : Environment) : Except SettingsFault Settings :=
  (entriesOfText path text).bind fun es => ofEntries es env

/-- The settings of the file at a path, if there is a path, and of variables. -/
def load (fs : Files) (path : Option String) (env : Environment) :
    Except SettingsFault Settings :=
  match Text.filled path with
  | none => ofEntries [] env
  | some path =>
    match fs.readText path with
    | .error fault => .error (.file fault)
    | .ok text => ofText path text env

end Settings

end Dripline
