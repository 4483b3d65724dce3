import Dripline.Delivery.Post
import Dripline.Document.Shape

/-!
# Settings

What the program can be told beforehand, with a default for every field:

* `SmtpSettings.shape`: how to reach the mail server. Fields that it does not have are passed over;
* `Settings.shape`: all settings. There are no other fields.
-/

namespace Dripline

open Shape

/-- The settings of the program. Without a database everything is kept in memory. -/
structure Settings where
  databasePath : Option String
  service : Service
  smtp : SmtpSettings
  logLevel : String
  previewChars : Int
  recentLimit : Int
deriving DecidableEq, Repr

/-- The mail server settings without any being given. -/
def SmtpSettings.standard : SmtpSettings :=
  ⟨none, submissionPort, none, none, none, "Automation Flow Builder", false⟩

/-- The names of the fields for the mail server. -/
def SmtpSettings.fieldNames : List String :=
  ["host", "port", "user", "password", "from_email", "from_name", "use_ssl"]

/-- The settings for the mail server. -/
def SmtpSettings.shape : Value → Shaped SmtpSettings :=
  model fun es =>
    SmtpSettings.mk <$> withDefault "host" (optional text) none es <*>
      withDefault "port" integer standard.port es <*>
      withDefault "user" (optional text) none es <*>
      withDefault "password" (optional text) none es <*>
      withDefault "from_email" (optional text) none es <*>
      withDefault "from_name" text standard.fromName es <*>
      withDefault "use_ssl" truth false es

/-- A delivery service by its exact name. -/
def Service.shape (v : Value) : Shaped Service :=
  match v with
  | .text s =>
    match Service.ofName? s with
    | some service => .fits service
    | none => .misfit .notAmong
  | _ => .misfit .notAmong

namespace Settings

/-- The names of the fields. -/
def fieldNames : List String :=
  ["database_path", "notifier", "smtp", "log_level", "message_preview_chars",
    "recent_executions_limit"]

/-- How much of a message is quoted, and how many executions are listed, by default. -/
def standardLimit : Int := 50

/-- All settings. -/
def shape (es : List (Value × Value)) : Shaped Settings :=
  (fun path service smtp level preview recent _ => ⟨path, service, smtp, level, preview, recent⟩) <$>
    withDefault "database_path" (optional text) none es <*>
    withDefault "notifier" Service.shape .log es <*>
    withDefault "smtp" SmtpSettings.shape .standard es <*>
    withDefault "log_level" text "INFO" es <*>
    withDefault "message_preview_chars" (integerFrom 1) standardLimit es <*>
    withDefault "recent_executions_limit" (integerFrom 1) standardLimit es <*>
    onlyFields fieldNames es

end Settings

end Dripline
