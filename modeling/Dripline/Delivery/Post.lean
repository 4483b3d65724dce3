import Dripline.Delivery.Smtp

/-!
# The configured notifier

Which delivery service the settings name, and that service as one notifier:

* `Announcer`: no delivery at all, only a line in the journal for each message;
* `Mailer`: mails by SMTP;
* `Post`: either of them.
-/

namespace Dripline

/-- The delivery services that settings can name. -/
inductive Service where
  | log
  | smtp
deriving DecidableEq, Repr

/-- The service of a name. -/
def Service.ofName? (name : String) : Option Service :=
  if name = "log" then some .log else if name = "smtp" then some .smtp else none

/-- The name of a service. -/
def Service.name : Service → String
  | .log => "log"
  | .smtp => "smtp"

/-- A service that only tells of messages, each under a number. -/
structure Announcer where
  mails : Nat
deriving DecidableEq, Repr

/-- The domain of the ids that announcements have. -/
def Announcer.domain : String := "flowbuilder.local"

/-- Tells of a message. -/
def Announcer.send (a : Announcer) (subject message : String) : Sent Announcer :=
  let id := messageId (a.mails + 1) domain
  ⟨.ok id, ⟨a.mails + 1⟩,
    [⟨.info, .logNotifier, s!"Delivered message {id} to {subject}: {message}"⟩]⟩

/-- The notifier that settings describe. -/
inductive Post where
  | announcer (a : Announcer)
  | mailer (m : Mailer)

namespace Post

/-- The number of mails so far. -/
def mails : Post → Nat
  | .announcer a => a.mails
  | .mailer m => m.mails

/-- Delivers a message. -/
def send (p : Post) (subject message : String) : Sent Post :=
  match p with
  | .announcer a =>
    let s := a.send subject message
    ⟨s.outcome, .announcer s.notifier, s.lines⟩
  | .mailer m =>
    let s := m.send subject message
    ⟨s.outcome, .mailer s.notifier, s.lines⟩

instance : Notifier Post where
  send p _ := p.send

/-- The notifier of a service, after a number of mails. -/
def ofService (service : Service) (settings : SmtpSettings) (answers : Answers) (mails : Nat) :
    Post :=
  match service with
  | .log => .announcer ⟨mails⟩
  | .smtp => .mailer ⟨settings, answers, mails, []⟩

end Post

end Dripline
