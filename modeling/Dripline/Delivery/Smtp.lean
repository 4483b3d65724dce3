import Dripline.Delivery.Header
import Dripline.Delivery.Notifier
import Dripline.Text.Blank
import Dripline.Text.Quoted

/-!
# Sending by SMTP

The calls that one delivery makes to a mail server, and what becomes of their faults:

* `Answers`: what the server answers to each call, as a function, so that every server is one;
* `opening`, `transfer`: the calls before and within the session that is closed in any case. The mail is
  written down within it, just before it is handed over;
* `converse`: the calls that are made and the fault that is left at the end;
* `Mailer.send`: a delivery. The faults of a mail server are delivery failures; any other one is not.
-/

namespace Dripline

/-! ## 1. Settings -/

/-- How to reach the mail server and in whose name. -/
structure SmtpSettings where
  host : Option String
  port : Int
  user : Option String
  password : Option String
  fromEmail : Option String
  fromName : String
  useSsl : Bool
deriving DecidableEq, Repr

namespace SmtpSettings

/-- The address that mails come from. -/
def address (s : SmtpSettings) : String :=
  (Text.filled s.fromEmail).getD ((Text.filled s.user).getD "noreply@automation.local")

/-- Who sends the mails. -/
def sender (s : SmtpSettings) : Sender := ⟨s.fromName, s.address⟩

/-- The port on which a connection is secure from the beginning. -/
def securePort : Int := 465

/-- The port on which a plain connection becomes secure by a call. -/
def submissionPort : Int := 587

/-- Whether the connection is secure from the beginning. -/
def isSecure (s : SmtpSettings) : Bool := s.useSsl || s.port == securePort

/-- The name and the password, when both are set. -/
def credentials? (s : SmtpSettings) : Option (String × String) :=
  match Text.filled s.user, Text.filled s.password with
  | some u, some p => some (u, p)
  | _, _ => none

end SmtpSettings

/-! ## 2. Calls -/

/-- A call to a mail server. -/
inductive Call where
  | connect (secure : Bool) (host : String) (port : Int)
  | startTls
  | login (user password : String)
  | sendMail (sender : String) (recipients : List String) (mail : Mail)
  | quit
deriving DecidableEq, Repr

/-- Seconds after which a connection is given up. -/
def timeout : Double := .ofInt 30

/-- Why a call failed. -/
inductive CallFault where
  /-- The network or the server says so. -/
  | refused (text : String)
  /-- The system says so, with a number. -/
  | system (number : Int) (text : String)
  /-- The server says so, with a number. -/
  | reply (code : Int) (text : String)
  /-- Something that no mail server should run into. -/
  | broken (label text : String)
deriving DecidableEq, Repr

/-- The wording of a failed call. -/
def CallFault.message : CallFault → String
  | .refused text => text
  | .system number text => s!"[Errno {number}] {text}"
  | .reply code text => s!"({code}, {Text.quoted text})"
  | .broken _ text => text

/-- What a server answers to each call: nothing, or a fault. -/
abbrev Answers := Call → Option CallFault

/-- The server to which every call succeeds. -/
def Answers.obliging : Answers := fun _ => none

/-- Calls one after the other up to the first that fails, which is made too. -/
def runCalls (answers : Answers) : List Call → List Call × Option CallFault
  | [] => ([], none)
  | c :: cs =>
    match answers c with
    | some fault => ([c], some fault)
    | none =>
      let (made, fault) := runCalls answers cs
      (c :: made, fault)

/-- The calls that open a session. -/
def opening (s : SmtpSettings) (host : String) : List Call :=
  .connect s.isSecure host s.port ::
    if !s.isSecure && s.port == SmtpSettings.submissionPort then [.startTls] else []

/-- The calls of a session before the mail is handed over. -/
def authentication (s : SmtpSettings) : List Call :=
  match s.credentials? with
  | some (user, password) => [.login user password]
  | none => []

/-- The call that hands a mail over. -/
def handover (s : SmtpSettings) (mail : Mail) : Call :=
  .sendMail s.address [mail.recipient] mail

/-- The calls within a session, and the fault that ends them. The mail is written down between them, and
    one that cannot be is not handed over. -/
def transfer (answers : Answers) (s : SmtpSettings) (mail : Mail) :
    List Call × Option CallFault :=
  match runCalls answers (authentication s) with
  | (made, some fault) => (made, some fault)
  | (made, none) =>
    match mail.fault? with
    | some fault => (made, some (.broken fault.label fault.message))
    | none =>
      let (last, fault) := runCalls answers [handover s mail]
      (made ++ last, fault)

/-- One delivery: the calls that are made and the fault that is left. A session that was opened is
    closed, and a fault on closing it is the one that is left. -/
def converse (answers : Answers) (s : SmtpSettings) (host : String) (mail : Mail) :
    List Call × Option CallFault :=
  match runCalls answers (opening s host) with
  | (made, some fault) => (made, some fault)
  | (made, none) =>
    let (within, fault) := transfer answers s mail
    let (last, late) := runCalls answers [.quit]
    (made ++ within ++ last, late <|> fault)

/-! ## 3. Deliveries -/

/-- A delivery service over a mail server. It numbers its mails and keeps the calls it made. -/
structure Mailer where
  settings : SmtpSettings
  answers : Answers
  mails : Nat
  calls : List Call

namespace Mailer

/-- What a failed call means for the delivery. -/
def failure (recipient : String) (fault : CallFault) : SendFault × List Line :=
  match fault with
  | .broken label text => (.broken label text, [])
  | fault =>
    (.undelivered ("Failed to send email: " ++ fault.message),
      [⟨.error, .smtpNotifier, s!"Email sending to {recipient} failed: {fault.message}"⟩])

/-- Delivers a message. Without a host nothing is tried, and without a header nothing is numbered. -/
def send (m : Mailer) (recipient message : String) : Sent Mailer :=
  match Text.filled m.settings.host with
  | none => ⟨.error (.undelivered "Failed to send email: SMTP host is not configured"), m, []⟩
  | some host =>
    match Mail.compose m.settings.sender (m.mails + 1) recipient message with
    | .error fault => ⟨.error (.broken "UnicodeEncodeError" fault.message), m, []⟩
    | .ok mail =>
      let (made, fault) := converse m.answers m.settings host mail
      let m := { m with mails := m.mails + 1, calls := m.calls ++ made }
      match fault with
      | none =>
        ⟨.ok mail.id, m, [⟨.info, .smtpNotifier, s!"Email sent successfully to {recipient}"⟩]⟩
      | some fault =>
        let (fault, lines) := failure recipient fault
        ⟨.error fault, m, lines⟩

end Mailer

end Dripline
