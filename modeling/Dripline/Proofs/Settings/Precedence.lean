import Dripline.Proofs.Settings.Overlay
import Dripline.Proofs.Document.Json
import Dripline.Proofs.Store.Lawful
import Dripline.Proofs.Outcome

/-!
# Which source counts

A setting is what its variable says, or else the file, or else the default, and what the other settings
are does not matter:

* `Environment.value?`: what a variable is set to. `Environment.get?_folded`: that is what the program
  finds under its name;
* `Environment.entry?_nested`: the fields of the mail server that variables set one by one;
* `Settings.given?`: what a file gives for a field. `Settings.source`, `Settings.mailSource`: what a field
  is read from;
* `Settings.mail_sources`: the block of the mail server is put together field by field;
* **`Settings.load_follows`**: every setting is read from its source;
* `Settings.prefix_hides_variable`: what the library takes for itself changes the names of the sources.
-/

namespace Dripline

open Shape

/-! ## 1. Variables -/

namespace Environment

/-- What a variable is set to, by its name in lower case: names count in any case, and of several the last. -/
def value? (env : Environment) (name : String) : Option String :=
  (env.reverse.find? fun e => Text.lower e.1 == name).map Prod.snd

theorem value?_cons (e : String × String) (env : Environment) (name : String) :
    value? (e :: env) name = (value? env name).or (if Text.lower e.1 = name then some e.2 else none) := by
  unfold value?
  rw [List.reverse_cons, List.find?_append, List.find?_singleton]
  cases env.reverse.find? fun e => Text.lower e.1 == name with
  | some found => rfl
  | none =>
    by_cases hname : Text.lower e.1 = name
    · rw [beq_iff_eq.mpr hname, if_pos hname]
      rfl
    · rw [beq_eq_false_iff_ne.mpr hname, if_neg hname]
      rfl

/-- A table with one more variable in it. -/
def fold (t : Keyed String) (e : String × String) : Keyed String := t.put (Text.lower e.1) e.2

theorem get?_foldl (name : String) (env : Environment) : ∀ t : Keyed String,
    (env.foldl fold t).get? name = (env.value? name).or (t.get? name) := by
  induction env with
  | nil => intro t; rfl
  | cons e env ih =>
    intro t
    rw [List.foldl_cons, ih, value?_cons, fold, Keyed.get?_put, Option.or_assoc]
    congr 1
    split <;> rfl

/-- **What the program finds under a name** is what the variable is set to. -/
theorem get?_folded (env : Environment) (name : String) : (env.folded .standard).get? name = env.value? name :=
  (get?_foldl name env .empty).trans Option.or_none

theorem keys_foldl (env : Environment) : ∀ t : Keyed String, t.keys.Nodup →
    (env.foldl fold t).keys.Nodup ∧
      ∀ k ∈ (env.foldl fold t).keys, k ∈ t.keys ∨ ∃ e ∈ env, Text.lower e.1 = k := by
  induction env with
  | nil => exact fun t ht => ⟨ht, fun k hk => .inl hk⟩
  | cons e env ih =>
    intro t ht
    obtain ⟨hdistinct, hkeys⟩ := ih (fold t e) (Keyed.nodup_keys_putEntry _ _ ht)
    refine ⟨hdistinct, fun k hk => ?_⟩
    rcases hkeys k hk with hold | ⟨e', he', hlower⟩
    · rcases (Keyed.mem_keys_putEntry _ _ _ _).mp hold with rfl | hold
      · exact .inr ⟨e, List.mem_cons_self, rfl⟩
      · exact .inl hold
    · exact .inr ⟨e', List.mem_cons_of_mem _ he', hlower⟩

/-! ## 2. Fields of the mail server -/

/-- The name of the variable for a field of the mail server. -/
def mailName (field : String) : String := lead ++ "smtp__" ++ field

/-- A variable is not for the mail server as a whole, and if it is for something of it, for a field. -/
def IsOfField (name : String) : Prop :=
  name ≠ lead ++ "smtp" ∧
    ((mailName "").toList <+: name.toList → ∃ field ∈ SmtpSettings.fieldNames, name = mailName field)

/-- Of the mail server's settings, variables set fields that there are, one by one. -/
def SetsFields (env : Environment) : Prop := ∀ e ∈ env, IsOfField (Text.lower e.1)

instance : DecidablePred IsOfField := fun name =>
  inferInstanceAs (Decidable (name ≠ lead ++ "smtp" ∧
    ((mailName "").toList <+: name.toList → ∃ field ∈ SmtpSettings.fieldNames, name = mailName field)))

instance : DecidablePred SetsFields := fun env =>
  inferInstanceAs (Decidable (∀ e ∈ env, IsOfField (Text.lower e.1)))

/-- Entries with what one more variable says. -/
def nest (es : List (Value × Value)) (e : String × String) : List (Value × Value) :=
  if (mailName "").toList.isPrefixOf e.1.toList then
    insert e.2 ((nameParts ['_', '_'] 0 (e.1.toList.drop (mailName "").toList.length)).map String.ofList) es
  else es

theorem nested_eq (vars : Keyed String) :
    nested .standard vars "smtp" = vars.entries.foldl nest [] := by
  have hstart : (Naming.standard.of "smtp" ++ Naming.standard.joint).toList = (mailName "").toList := by
    decide +kernel
  have hjoint : Naming.standard.joint.toList = ['_', '_'] := by decide
  unfold nested
  rw [hstart, hjoint, if_neg (show ¬ Naming.standard.joint = "" by decide)]
  rfl

/-- A variable for a field puts its text there, and every other one changes nothing. -/
theorem nest_cases {name : String} (h : IsOfField name) :
    (∃ field ∈ SmtpSettings.fieldNames, name = mailName field ∧
      ∀ s es, nest es (name, s) = Value.putEntry (.text field) (.text s) es) ∨
    ((∀ field ∈ SmtpSettings.fieldNames, name ≠ mailName field) ∧ ∀ s es, nest es (name, s) = es) := by
  have hlead : ∀ field ∈ SmtpSettings.fieldNames, (mailName "").toList <+: (mailName field).toList := by decide
  have hparts : ∀ field ∈ SmtpSettings.fieldNames,
      (nameParts ['_', '_'] 0 ((mailName field).toList.drop (mailName "").toList.length)).map String.ofList =
        [field] := by
    decide
  unfold nest
  by_cases hprefix : (mailName "").toList <+: name.toList
  · obtain ⟨field, hfield, rfl⟩ := h.2 hprefix
    refine .inl ⟨field, hfield, rfl, fun s es => ?_⟩
    rw [if_pos (List.isPrefixOf_iff_prefix.mpr hprefix), hparts field hfield]
    rfl
  · refine .inr ⟨fun field hfield heq => hprefix (heq ▸ hlead field hfield), fun s es => ?_⟩
    exact if_neg fun hp => hprefix (List.isPrefixOf_iff_prefix.mp hp)

/-- Entries under names of fields of the mail server, each once. -/
def IsBlock (es : List (Value × Value)) : Prop :=
  ∃ us, es = Value.fields us ∧ (us.map Prod.fst).Nodup ∧ ∀ name ∈ us.map Prod.fst, name ∈ SmtpSettings.fieldNames

theorem IsBlock.putEntry {es : List (Value × Value)} (h : IsBlock es) {field : String}
    (hfield : field ∈ SmtpSettings.fieldNames) (v : Value) : IsBlock (Value.putEntry (.text field) v es) := by
  obtain ⟨us, rfl, hdistinct, hnames⟩ := h
  refine ⟨Keyed.putEntry field v us, Value.putEntry_fields field v us,
    Keyed.nodup_keys_putEntry field v hdistinct, fun name hname => ?_⟩
  rcases (Keyed.mem_keys_putEntry field name v us).mp hname with rfl | hold
  · exact hfield
  · exact hnames name hold

section

variable {L : List (String × String)} (h : ∀ e ∈ L, IsOfField e.1)

include h

theorem isBlock_foldl : ∀ {es : List (Value × Value)}, IsBlock es → IsBlock (L.foldl nest es) := by
  induction L with
  | nil => exact fun hes => hes
  | cons e L ih =>
    intro es hes
    obtain ⟨hfirst, hrest⟩ := List.forall_mem_cons.mp h
    refine ih hrest ?_
    rcases nest_cases hfirst with ⟨field, hfield, _, hput⟩ | ⟨_, hkept⟩
    · rw [hput]
      exact hes.putEntry hfield _
    · rw [hkept]
      exact hes

theorem entry?_foldl (hdistinct : (L.map Prod.fst).Nodup) {field : String}
    (hfield : field ∈ SmtpSettings.fieldNames) : ∀ es : List (Value × Value),
      Value.entry? field (L.foldl nest es) =
        ((Keyed.lookup (mailName field) L).map .text).or (Value.entry? field es) := by
  have hinj : ∀ f ∈ SmtpSettings.fieldNames, ∀ g ∈ SmtpSettings.fieldNames,
      mailName f = mailName g → f = g := by decide
  induction L with
  | nil => exact fun es => rfl
  | cons e L ih =>
    intro es
    obtain ⟨name, s⟩ := e
    obtain ⟨hfirst, hrest⟩ := List.forall_mem_cons.mp h
    rw [List.map_cons, List.nodup_cons] at hdistinct
    rw [List.foldl_cons, ih hrest hdistinct.2, Keyed.lookup]
    by_cases hname : name = mailName field
    · -- this is the variable, and it does not come again
      have hnone : Keyed.lookup (mailName field) L = none :=
        Option.eq_none_iff_forall_not_mem.mpr fun a ha =>
          hdistinct.1 (List.mem_map.mpr ⟨_, Keyed.mem_of_lookup ha, hname.symm⟩)
      rcases nest_cases hfirst with ⟨field', hfield', hname', hput⟩ | ⟨hother, _⟩
      · cases hinj field hfield field' hfield' (hname.symm.trans hname')
        rw [hput, Value.entry?_putEntry, if_pos rfl, if_pos hname, hnone]
        rfl
      · exact absurd hname (hother field hfield)
    · rw [if_neg hname]
      rcases nest_cases hfirst with ⟨field', hfield', hname', hput⟩ | ⟨_, hkept⟩
      · have hne : field' ≠ field := fun heq => hname (heq ▸ hname')
        rw [hput, Value.entry?_putEntry, if_neg hne]
      · rw [hkept]

end

section

variable {env : Environment} (h : env.SetsFields)

include h

theorem isOfField_folded : ∀ e ∈ (env.folded .standard).entries, IsOfField e.1 := fun e he => by
  rcases (keys_foldl env .empty List.nodup_nil).2 e.1 (List.mem_map_of_mem he) with hnone | ⟨e', he', hlower⟩
  · cases hnone
  · exact hlower ▸ h e' he'

theorem isBlock_nested : IsBlock (nested .standard (env.folded .standard) "smtp") :=
  isBlock_foldl (isOfField_folded h) ⟨[], rfl, List.nodup_nil, fun _ hname => nomatch hname⟩

/-- **What variables say of one field** is what its own variable is set to. -/
theorem entry?_nested {field : String} (hfield : field ∈ SmtpSettings.fieldNames) :
    Value.entry? field (nested .standard (env.folded .standard) "smtp") =
      (env.value? (mailName field)).map .text := by
  rw [nested_eq, entry?_foldl (isOfField_folded h) (keys_foldl env .empty List.nodup_nil).1 hfield]
  exact Option.or_none.trans (congrArg _ (get?_folded env (mailName field)))

end

/-- Entries under the names of the fields have their proper names. -/
theorem withProperNames_of_isBlock {es : List (Value × Value)} (h : IsBlock es) :
    withProperNames .standard SmtpSettings.fieldNames es = es := by
  obtain ⟨us, rfl, hdistinct, hnames⟩ := h
  have hproper : ∀ name ∈ SmtpSettings.fieldNames,
      SmtpSettings.fieldNames.find? (fun n => n == Text.lower name) = some name := by decide
  have hsame : ((Value.fields us).map fun e => (properName SmtpSettings.fieldNames e.1, e.2)) =
      Value.fields us := by
    unfold Value.fields
    rw [List.map_map]
    refine List.map_congr_left fun u hu => ?_
    show (properName SmtpSettings.fieldNames (.text u.1), u.2) = (.text u.1, u.2)
    unfold properName
    dsimp only
    rw [hproper u.1 (hnames u.1 (List.mem_map_of_mem hu))]
  exact (congrArg Value.collect hsame).trans (Json.collect_textEntries hdistinct)

/-- What variables say of the mail server: nothing, when they set no field of it. -/
def mail? (vars : Keyed String) : Option Value :=
  if (nested .standard vars "smtp").isEmpty then none else some (.map (nested .standard vars "smtp"))

/-- The names of the fields in the order in which variables are asked for them. -/
def askedNames : List String := Settings.fieldNames.filter (· ≠ "smtp") ++ ["smtp"]

/-- The value that variables have for a field. -/
def upper? (env : Environment) (name : String) : Option Value :=
  if name = "smtp" then mail? (env.folded .standard) else (env.value? (lead ++ name)).map .text

/-- The program's own variables begin with its name. -/
theorem of_standard {field : String} (h : field ∈ Settings.fieldNames) :
    Naming.standard.of field = lead ++ field := by
  have hall : ∀ field ∈ Settings.fieldNames, Naming.standard.of field = lead ++ field := by
    decide +kernel
  exact hall field h

theorem entries_eq {env : Environment} (h : env.SetsFields) :
    env.entries .standard = .ok (Value.fields (fieldsFrom askedNames env.upper?)) := by
  have hwhole : (env.folded .standard).get? (lead ++ "smtp") = none :=
    Option.eq_none_iff_forall_not_mem.mpr fun s hs =>
      (isOfField_folded h _ (Keyed.mem_of_lookup hs)).1 rfl
  have hmail : smtpValue .standard (env.folded .standard) = .ok (mail? (env.folded .standard)) := by
    unfold smtpValue mail?
    rw [of_standard (by decide), hwhole]
    dsimp only
    rw [withProperNames_of_isBlock (isBlock_nested h)]
    split <;> rfl
  have htext : ∀ name ∈ Settings.fieldNames.filter (· ≠ "smtp"),
      textEntry .standard (env.folded .standard) name = Value.fields (fieldIf name (env.upper? name)) := by
    intro name hname
    have hne : name ≠ "smtp" := of_decide_eq_true (List.mem_filter.mp hname).2
    unfold textEntry upper?
    rw [of_standard (List.mem_of_mem_filter hname), get?_folded, if_neg hne]
    cases env.value? (lead ++ name) <;> rfl
  have hfields : Value.fields (fieldsFrom askedNames env.upper?) =
      (Settings.fieldNames.filter (· ≠ "smtp")).flatMap (textEntry .standard (env.folded .standard)) ++
        Value.fields (fieldIf "smtp" (mail? (env.folded .standard))) := by
    unfold fieldsFrom askedNames Value.fields
    rw [List.flatMap_append, List.map_append, List.map_flatMap, List.flatMap_singleton]
    exact congrArg (· ++ _) (List.flatMap_congr fun name hname => (htext name hname).symm)
  unfold entries
  dsimp only
  rw [hmail, hfields]
  cases mail? (env.folded .standard) <;> rfl

end Environment

namespace Settings

/-! ## 3. Files -/

/-- What a file gives for a field: under its name, or else under the first one that differs in case. -/
def given? (es : List (Value × Value)) (name : String) : Option Value :=
  (Value.entry? name es).or ((es.find? (isVariant name)).map Prod.snd)

/-- What a file gives for a field of the mail server. -/
def mailGiven? (es : List (Value × Value)) (field : String) : Option Value :=
  match given? es "smtp" with
  | some (.map inner) => Value.entry? field inner
  | _ => none

theorem fieldEntry_eq (es : List (Value × Value)) (name : String) :
    fieldEntry es name = Value.fields (fieldIf name (given? es name)) := by
  unfold fieldEntry given?
  cases Value.entry? name es with
  | some v => rfl
  | none => cases es.find? (isVariant name) <;> rfl

theorem byField_eq (es : List (Value × Value)) :
    byField es = Value.fields (fieldsFrom fieldNames (given? es)) ++ es.filter isForeign := by
  unfold byField fieldsFrom Value.fields
  rw [List.map_flatMap]
  exact congrArg (· ++ _) (List.flatMap_congr fun name _ => fieldEntry_eq es name)

/-- A file with nothing that the library takes for itself leaves variables their names. -/
theorem naming_of_plain {es : List (Value × Value)} (h : ∀ e ∈ es, isKeyword e = false) :
    naming es = .ok .standard := by
  unfold naming
  rw [List.filter_eq_nil_iff.mpr fun e he => by rw [h e he]; decide]
  rfl

theorem filter_plain {es : List (Value × Value)} (h : ∀ e ∈ es, isKeyword e = false) :
    es.filter (fun e => !isKeyword e) = es :=
  List.filter_eq_self.mpr fun e he => by rw [h e he]; rfl

/-- **Under the name of a field** stands what the file gives for it. -/
theorem entry?_byField (es : List (Value × Value)) {name : String} (h : name ∈ fieldNames) :
    Value.entry? name (byField es) = given? es name := by
  have hlower : ∀ name ∈ fieldNames, Text.lower name = name := by decide
  have hforeign : Value.entry? name (es.filter isForeign) = none := by
    refine Value.entry?_eq_none fun e he hkey => ?_
    have hnot : isForeign e = true := (List.mem_filter.mp he).2
    unfold isForeign at hnot
    rw [hkey] at hnot
    dsimp only at hnot
    rw [hlower name h, List.contains_iff_mem.mpr h] at hnot
    cases hnot
  rw [byField_eq, Value.entry?_append, hforeign, Option.or_none, Value.entry?_fields, lookup_fieldsFrom, if_pos h]

/-! ## 4. Settings -/

/-- What a field is read from: its variable when that is set, or else the file. -/
def source (env : Environment) (es : List (Value × Value)) (name : String) : Option Value :=
  ((env.value? (Environment.lead ++ name)).map .text).or (given? es name)

/-- What a field of the mail server is read from. -/
def mailSource (env : Environment) (es : List (Value × Value)) (field : String) : Option Value :=
  ((env.value? (Environment.mailName field)).map .text).or (mailGiven? es field)

/-- A setting is what its source says, and the default when there is none. -/
def IsReadFrom {α : Type} (read : Value → Shaped α) (default : α) (source : Option Value) (a : α) : Prop :=
  match source with
  | some v => read v = .fits a
  | none => a = default

/-- **Every setting is read from its own source**, those of the mail server one by one. -/
structure Follows (env : Environment) (es : List (Value × Value)) (s : Settings) : Prop where
  databasePath : IsReadFrom (optional text) none (source env es "database_path") s.databasePath
  service : IsReadFrom Service.shape .log (source env es "notifier") s.service
  logLevel : IsReadFrom text "INFO" (source env es "log_level") s.logLevel
  previewChars : IsReadFrom (integerFrom 1) 50 (source env es "message_preview_chars") s.previewChars
  recentLimit : IsReadFrom (integerFrom 1) 50 (source env es "recent_executions_limit") s.recentLimit
  host : IsReadFrom (optional text) none (mailSource env es "host") s.smtp.host
  port : IsReadFrom integer 587 (mailSource env es "port") s.smtp.port
  user : IsReadFrom (optional text) none (mailSource env es "user") s.smtp.user
  password : IsReadFrom (optional text) none (mailSource env es "password") s.smtp.password
  fromEmail : IsReadFrom (optional text) none (mailSource env es "from_email") s.smtp.fromEmail
  fromName : IsReadFrom text "Automation Flow Builder" (mailSource env es "from_name") s.smtp.fromName
  useSsl : IsReadFrom truth false (mailSource env es "use_ssl") s.smtp.useSsl

theorem isReadFrom_of_withDefault {α : Type} {name : String} {read : Value → Shaped α} {default a : α}
    {es : List (Value × Value)} (h : withDefault name read default es = .fits a) :
    IsReadFrom read default (Value.entry? name es) a := by
  unfold withDefault at h
  unfold IsReadFrom
  cases hentry : Value.entry? name es with
  | none =>
    rw [hentry] at h
    cases h
    rfl
  | some v =>
    rw [hentry] at h
    exact Shaped.within_eq_fits h

/-- Settings are read field by field. -/
theorem isReadFrom_of_shape {es : List (Value × Value)} {s : Settings} (h : shape es = .fits s) :
    IsReadFrom (optional text) none (Value.entry? "database_path" es) s.databasePath ∧
      IsReadFrom Service.shape .log (Value.entry? "notifier" es) s.service ∧
      IsReadFrom SmtpSettings.shape .standard (Value.entry? "smtp" es) s.smtp ∧
      IsReadFrom text "INFO" (Value.entry? "log_level" es) s.logLevel ∧
      IsReadFrom (integerFrom 1) 50 (Value.entry? "message_preview_chars" es) s.previewChars ∧
      IsReadFrom (integerFrom 1) 50 (Value.entry? "recent_executions_limit" es) s.recentLimit := by
  obtain ⟨_, _, h₆, _, rfl⟩ := Shaped.seq_eq_fits h
  obtain ⟨_, recent, h₅, hrecent, rfl⟩ := Shaped.seq_eq_fits h₆
  obtain ⟨_, preview, h₄, hpreview, rfl⟩ := Shaped.seq_eq_fits h₅
  obtain ⟨_, level, h₃, hlevel, rfl⟩ := Shaped.seq_eq_fits h₄
  obtain ⟨_, smtp, h₂, hsmtp, rfl⟩ := Shaped.seq_eq_fits h₃
  obtain ⟨_, service, h₁, hservice, rfl⟩ := Shaped.seq_eq_fits h₂
  obtain ⟨path, hpath, rfl⟩ := Shaped.map_eq_fits h₁
  exact ⟨isReadFrom_of_withDefault hpath, isReadFrom_of_withDefault hservice,
    isReadFrom_of_withDefault hsmtp, isReadFrom_of_withDefault hlevel,
    isReadFrom_of_withDefault hpreview, isReadFrom_of_withDefault hrecent⟩

/-- The settings of the mail server are read field by field. -/
theorem isReadFrom_of_mailShape {es : List (Value × Value)} {m : SmtpSettings}
    (h : SmtpSettings.shape (.map es) = .fits m) :
    IsReadFrom (optional text) none (Value.entry? "host" es) m.host ∧
      IsReadFrom integer 587 (Value.entry? "port" es) m.port ∧
      IsReadFrom (optional text) none (Value.entry? "user" es) m.user ∧
      IsReadFrom (optional text) none (Value.entry? "password" es) m.password ∧
      IsReadFrom (optional text) none (Value.entry? "from_email" es) m.fromEmail ∧
      IsReadFrom text "Automation Flow Builder" (Value.entry? "from_name" es) m.fromName ∧
      IsReadFrom truth false (Value.entry? "use_ssl" es) m.useSsl := by
  obtain ⟨_, ssl, h₆, hssl, rfl⟩ := Shaped.seq_eq_fits h
  obtain ⟨_, name, h₅, hname, rfl⟩ := Shaped.seq_eq_fits h₆
  obtain ⟨_, email, h₄, hemail, rfl⟩ := Shaped.seq_eq_fits h₅
  obtain ⟨_, password, h₃, hpassword, rfl⟩ := Shaped.seq_eq_fits h₄
  obtain ⟨_, user, h₂, huser, rfl⟩ := Shaped.seq_eq_fits h₃
  obtain ⟨_, port, h₁, hport, rfl⟩ := Shaped.seq_eq_fits h₂
  obtain ⟨host, hhost, rfl⟩ := Shaped.map_eq_fits h₁
  exact ⟨isReadFrom_of_withDefault hhost, isReadFrom_of_withDefault hport, isReadFrom_of_withDefault huser,
    isReadFrom_of_withDefault hpassword, isReadFrom_of_withDefault hemail,
    isReadFrom_of_withDefault hname, isReadFrom_of_withDefault hssl⟩

section

variable {env : Environment} {es : List (Value × Value)} (henv : env.SetsFields)

include henv

/-- Two blocks over each other, field by field. -/
theorem entry?_overlay_nested (inner : List (Value × Value)) {field : String}
    (hfield : field ∈ SmtpSettings.fieldNames) :
    Value.entry? field (overlay (Environment.nested .standard (env.folded .standard) "smtp") inner) =
      ((env.value? (Environment.mailName field)).map .text).or (Value.entry? field inner) := by
  obtain ⟨us, hblock, hdistinct, _⟩ := Environment.isBlock_nested henv
  have hus := Environment.entry?_nested henv hfield
  rw [hblock, Value.entry?_fields] at hus
  rw [hblock, entry?_overlay field us inner hdistinct, hus, overlaid_text]

/-- **The block of the mail server** is put together field by field, whichever of the sources has one. -/
theorem mail_sources (hfile : ∀ v, given? es "smtp" = some v → ∃ inner, v = .map inner) {m : SmtpSettings}
    (h : IsReadFrom SmtpSettings.shape .standard (overlaid (env.upper? "smtp") (given? es "smtp")) m) :
    ∃ block, SmtpSettings.shape (.map block) = .fits m ∧
      ∀ field ∈ SmtpSettings.fieldNames, Value.entry? field block = mailSource env es field := by
  have hnested (field : String) (hfield : field ∈ SmtpSettings.fieldNames) :=
    Environment.entry?_nested henv hfield
  have hupper : env.upper? "smtp" = Environment.mail? (env.folded .standard) := if_pos rfl
  rw [hupper] at h
  unfold Environment.mail? at h
  unfold mailSource mailGiven?
  by_cases hnone : (Environment.nested .standard (env.folded .standard) "smtp").isEmpty = true
  · -- no variable is set
    rw [if_pos hnone] at h
    rw [List.isEmpty_iff.mp hnone] at hnested
    cases hgiven : given? es "smtp" with
    | none =>
      rw [hgiven] at h
      cases h
      refine ⟨[], rfl, fun field hfield => ?_⟩
      rw [← hnested field hfield]
      rfl
    | some v =>
      obtain ⟨inner, rfl⟩ := hfile v hgiven
      rw [hgiven] at h
      refine ⟨inner, h, fun field hfield => ?_⟩
      rw [← hnested field hfield]
      rfl
  · rw [if_neg hnone] at h
    cases hgiven : given? es "smtp" with
    | none =>
      rw [hgiven] at h
      refine ⟨_, h, fun field hfield => ?_⟩
      rw [hnested field hfield]
      exact Option.or_none.symm
    | some v =>
      obtain ⟨inner, rfl⟩ := hfile v hgiven
      rw [hgiven] at h
      refine ⟨overlay (Environment.nested .standard (env.folded .standard) "smtp") inner, ?_, fun field hfield =>
        entry?_overlay_nested henv inner hfield⟩
      have hover : overlayValue (.map (Environment.nested .standard (env.folded .standard) "smtp")) (.map inner) =
          .map (overlay (Environment.nested .standard (env.folded .standard) "smtp") inner) := by rw [overlayValue]
      exact hover ▸ h

/-- The settings of entries are read from what variables and entries have for each field. -/
theorem ofEntries_follows (hplain : ∀ e ∈ es, isKeyword e = false)
    (hfile : ∀ v, given? es "smtp" = some v → ∃ inner, v = .map inner) {s : Settings}
    (h : ofEntries es env = .ok s) : s.Follows env es := by
  have hshape : shape (overlay (Value.fields (fieldsFrom Environment.askedNames env.upper?)) (byField es)) =
      .fits s := by
    unfold ofEntries at h
    rw [naming_of_plain hplain, Except.bind, Environment.entries_eq henv, filter_plain hplain] at h
    dsimp only at h
    split at h
    · cases h
    · split at h
      · cases h
      · rename_i hfits
        cases h
        exact hfits
  have hasked : ∀ name ∈ fieldNames, name ∈ Environment.askedNames := by decide
  have hentry : ∀ name ∈ fieldNames,
      Value.entry? name (overlay (Value.fields (fieldsFrom Environment.askedNames env.upper?)) (byField es)) =
        overlaid (env.upper? name) (given? es name) := fun name hname => by
    rw [entry?_overlay name _ _ (nodup_keys_fieldsFrom (by decide) _), lookup_fieldsFrom,
      if_pos (hasked name hname), entry?_byField es hname]
  have hsource : ∀ name ∈ fieldNames, name ≠ "smtp" →
      overlaid (env.upper? name) (given? es name) = source env es name := fun name _ hne => by
    unfold Environment.upper? source
    rw [if_neg hne, overlaid_text]
  obtain ⟨hpath, hservice, hsmtp, hlevel, hpreview, hrecent⟩ := isReadFrom_of_shape hshape
  rw [hentry _ (by decide)] at hpath hservice hsmtp hlevel hpreview hrecent
  rw [hsource _ (by decide) (by decide)] at hpath hservice hlevel hpreview hrecent
  obtain ⟨block, hblock, hfields⟩ := mail_sources henv hfile hsmtp
  obtain ⟨hhost, hport, huser, hpassword, hemail, hname, hssl⟩ := isReadFrom_of_mailShape hblock
  rw [hfields _ (by decide)] at hhost hport huser hpassword hemail hname hssl
  exact ⟨hpath, hservice, hlevel, hpreview, hrecent, hhost, hport, huser, hpassword, hemail, hname, hssl⟩

end

/-- The entries of the file at a path, none without a path. -/
def fileEntries (fs : Files) (path : Option String) : Except SettingsFault (List (Value × Value)) :=
  match Text.filled path with
  | none => .ok []
  | some path =>
    match fs.readText path with
    | .error fault => .error (.file fault)
    | .ok text => entriesOfText path text

theorem load_eq (fs : Files) (path : Option String) (env : Environment) :
    load fs path env = (fileEntries fs path).bind fun es => ofEntries es env := by
  unfold load fileEntries
  cases Text.filled path with
  | none => rfl
  | some path =>
    dsimp only
    cases fs.readText path <;> rfl

/-- **Each setting on its own counts from its variable, or else the file, or else the default**: whenever
    settings are loaded from a file that has nothing that the library takes for itself and gives nothing or a
    mapping for the mail server, and from variables that set single fields. -/
theorem load_follows {fs : Files} {path : Option String} {env : Environment} {es : List (Value × Value)}
    {s : Settings} (hentries : fileEntries fs path = .ok es) (hplain : ∀ e ∈ es, isKeyword e = false)
    (hmail : ∀ v, given? es "smtp" = some v → ∃ inner, v = .map inner) (henv : env.SetsFields)
    (h : load fs path env = .ok s) : s.Follows env es := by
  rw [load_eq, hentries] at h
  exact ofEntries_follows henv hplain hmail h

/-- A file that gives a service and two fields of the mail server. -/
def robotFiles : Files :=
  .ofTexts [("settings.yaml", "notifier: log\nsmtp:\n  host: file.example.com\n  user: robot\n")]

/-- Variables for the service, for a database and for two fields of the mail server, of which the file gives
    one, and another variable. -/
def robotEnvironment : Environment :=
  [("FLOWBUILDER_NOTIFIER", "smtp"), ("FLOWBUILDER_SMTP__HOST", "env.example.com"),
    ("FLOWBUILDER_SMTP__PORT", "2525"), ("FLOWBUILDER_DATABASE_PATH", "/tmp/x.db"), ("HOME", "/root")]

/-- What they come to: the user is the file's, and the name that mails are from is the default. -/
def robotSettings : Settings :=
  ⟨some "/tmp/x.db", .smtp,
    ⟨some "env.example.com", 2525, some "robot", none, none, "Automation Flow Builder", false⟩, "INFO", 50, 50⟩

theorem load_follows_robot :
    load robotFiles (some "settings.yaml") robotEnvironment = .ok robotSettings ∧
      ∃ es, fileEntries robotFiles (some "settings.yaml") = .ok es ∧
        robotSettings.Follows robotEnvironment es := by
  have hload : load robotFiles (some "settings.yaml") robotEnvironment = .ok robotSettings :=
    eq_ok_of_toOption (by decide +kernel)
  have hread : (fileEntries robotFiles (some "settings.yaml")).toOption.any (fun es =>
      (es.all fun e => !isKeyword e) &&
        match given? es "smtp" with
        | some (.map _) => true
        | _ => false) = true := by decide +kernel
  obtain ⟨es, hes, hfits⟩ := (Option.any_eq_true _ _).mp hread
  obtain ⟨hplain, hmap⟩ := Bool.and_eq_true_iff.mp hfits
  have hentries := eq_ok_of_toOption hes
  refine ⟨hload, es, hentries, load_follows hentries (fun e he => ?_) (fun v hv => ?_)
    (by decide +kernel) hload⟩
  · simpa using List.all_eq_true.mp hplain e he
  · rw [hv] at hmap
    cases v with
    | map inner => exact ⟨inner, rfl⟩
    | _ => cases hmap

/-- **A file can take the variables away**: what it has under `_env_prefix` is no setting, and the variable
    of a field is asked for under another name. -/
theorem prefix_hides_variable :
    let files : Files := .ofTexts [("settings.yaml", "_env_prefix: X_\n")]
    let env : Environment := [("FLOWBUILDER_NOTIFIER", "smtp")]
    env.SetsFields ∧ env.value? (Environment.lead ++ "notifier") = some "smtp" ∧
      ∃ s, load files (some "settings.yaml") env = .ok s ∧ s.service = .log := by
  have hload : ((load (.ofTexts [("settings.yaml", "_env_prefix: X_\n")]) (some "settings.yaml")
      [("FLOWBUILDER_NOTIFIER", "smtp")]).toOption.map Settings.service) = some .log := by decide +kernel
  obtain ⟨s, hs, hservice⟩ := Option.map_eq_some_iff.mp hload
  exact ⟨by decide +kernel, by decide +kernel, s, eq_ok_of_toOption hs, hservice⟩

end Settings

end Dripline
