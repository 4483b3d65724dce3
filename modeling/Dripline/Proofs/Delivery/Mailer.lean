import Dripline.Proofs.Delivery.Conversation

/-!
# Deliveries by SMTP

A delivery is a conversation about one mail, unless there is no host or no mail:

* `Mailer.Delivers`, `send_delivers`: the ways in which a delivery can go;
* **`calls_in_order`**: its calls are those that the settings ask for, in their order and as far as it gets.
  A password or a message never goes over a line that was to be secured and is not;
* **`closed_unless_unsecured`**: its connection is closed once, unless securing it fails.
  `unsecured_stays_open`: then it stays open;
* **`told_as_it_happened`**: it reports the id of the mail exactly when the server took the mail and the
  farewell too, and otherwise that the mail was not delivered, or could not be written.
  `late_fault_undoes`: a fault on the farewell hides that the mail was taken.
-/

namespace Dripline

/-! ## 1. The ways in which a delivery can go -/

theorem Mail.recipient_of_compose {sender : Sender} {number : Nat} {recipient message : String} {mail : Mail}
    (h : Mail.compose sender number recipient message = .ok mail) : mail.recipient = recipient := by
  unfold Mail.compose at h
  cases hheader : sender.header with
  | error fault =>
    rw [hheader] at h
    cases h
  | ok header =>
    rw [hheader] at h
    cases h
    rfl

theorem Mail.address_of_compose_error {sender : Sender} {number : Nat} {recipient message : String}
    {fault : EncodingFault} (h : Mail.compose sender number recipient message = .error fault) :
    isAscii sender.address.toList = false := by
  unfold Mail.compose Sender.header at h
  by_cases hascii : isAscii sender.address.toList = true
  · rw [hascii] at h
    simp only [Bool.not_true, Bool.false_eq_true, if_false] at h
    split at h <;> cases h
  · exact Bool.eq_false_iff.mpr hascii

/-- The fault is one that the network, the system or the server reports. -/
def CallFault.isTransport : CallFault → Bool
  | .broken .. => false
  | _ => true

namespace Mailer

/-- The calls that a delivery adds to those of earlier ones. -/
def made (m : Mailer) (recipient message : String) : List Call :=
  (m.send recipient message).notifier.calls.drop m.calls.length

/-- The mail of a delivery, or why there is none. -/
def mail (m : Mailer) (recipient message : String) : Except EncodingFault Mail :=
  Mail.compose m.settings.sender (m.mails + 1) recipient message

/-- What is reported about a mail, by the fault that a conversation leaves. -/
def verdict (mail : Mail) : Option CallFault → Except SendFault String
  | none => .ok mail.id
  | some fault => .error (failure mail.recipient fault).1

theorem verdict_eq_ok_iff {mail : Mail} {fault : Option CallFault} {id : String} :
    verdict mail fault = .ok id ↔ fault = none ∧ mail.id = id := by
  cases fault with
  | none => exact ⟨fun h => ⟨rfl, Except.ok.inj h⟩, fun h => congrArg Except.ok h.2⟩
  | some fault => exact ⟨fun h => (nomatch h), fun h => (nomatch h.1)⟩

theorem verdict_eq_error {mail : Mail} {fault : Option CallFault} {reported : SendFault}
    (h : verdict mail fault = .error reported) :
    ∃ left, fault = some left ∧ (failure mail.recipient left).1 = reported := by
  cases fault with
  | none => cases h
  | some fault => exact ⟨fault, rfl, Except.error.inj h⟩

theorem failure_of_isTransport {recipient : String} {fault : CallFault} (h : fault.isTransport = true) :
    ∃ text, (failure recipient fault).1 = .undelivered text := by
  cases fault with
  | broken label text => cases h
  | _ => exact ⟨_, rfl⟩

/-- The ways in which a delivery can go: the calls that are made, and what is reported. -/
inductive Delivers (m : Mailer) (recipient message : String) :
    List Call → Except SendFault String → Prop
  /-- There is no host to connect to. -/
  | homeless (hhost : Text.filled m.settings.host = none) :
      Delivers m recipient message []
        (.error (.undelivered "Failed to send email: SMTP host is not configured"))
  /-- There is no mail. -/
  | nameless (host : String) (fault : EncodingFault) (hhost : Text.filled m.settings.host = some host)
      (hmail : m.mail recipient message = .error fault) :
      Delivers m recipient message [] (.error (.broken "UnicodeEncodeError" fault.message))
  /-- There is a conversation about it. -/
  | conversed (host : String) (mail : Mail) (made : List Call) (fault : Option CallFault)
      (hhost : Text.filled m.settings.host = some host) (hmail : m.mail recipient message = .ok mail)
      (hcourse : Course m.answers m.settings host mail made fault) :
      Delivers m recipient message made (verdict mail fault)

/-- **A delivery goes in one of these ways**, and adds its calls to the earlier ones. -/
theorem send_delivers (m : Mailer) (recipient message : String) :
    (m.send recipient message).notifier.calls = m.calls ++ m.made recipient message ∧
      m.Delivers recipient message (m.made recipient message) (m.send recipient message).outcome := by
  unfold made
  cases hhost : Text.filled m.settings.host with
  | none =>
    have hsend : m.send recipient message =
        ⟨.error (.undelivered "Failed to send email: SMTP host is not configured"), m, []⟩ := by
      unfold send
      rw [hhost]
    rw [hsend, List.drop_length]
    exact ⟨(List.append_nil _).symm, .homeless hhost⟩
  | some host =>
    cases hmail : m.mail recipient message with
    | error fault =>
      have hsend : m.send recipient message =
          ⟨.error (.broken "UnicodeEncodeError" fault.message), m, []⟩ := by
        unfold send
        rw [hhost]
        unfold mail at hmail
        dsimp only
        rw [hmail]
      rw [hsend, List.drop_length]
      exact ⟨(List.append_nil _).symm, .nameless host fault hhost hmail⟩
    | ok mail =>
      have hcourse := converse_course m.answers m.settings host mail
      have hrecipient : mail.recipient = recipient := Mail.recipient_of_compose hmail
      have hsend : (m.send recipient message).notifier.calls =
            m.calls ++ (converse m.answers m.settings host mail).1 ∧
          (m.send recipient message).outcome =
            verdict mail (converse m.answers m.settings host mail).2 := by
        unfold send
        rw [hhost]
        unfold Mailer.mail at hmail
        dsimp only
        rw [hmail]
        dsimp only
        cases (converse m.answers m.settings host mail).2 with
        | none => exact ⟨rfl, rfl⟩
        | some fault => exact ⟨rfl, by rw [← hrecipient]; rfl⟩
      rw [hsend.1, hsend.2, List.drop_left]
      exact ⟨rfl, .conversed host mail _ _ hhost hmail hcourse⟩

/-! ## 2. Order and secrecy -/

/-- **The calls of a delivery are those that the settings ask for, in their order.** Without a host, or
    without a mail, there are none; otherwise there is a beginning of the script, perhaps with a farewell.
    So a mail is handed over once at most, and on the port where a line becomes secure by a call, neither
    a password nor a mail goes over it unless this call was made before and has succeeded. -/
theorem calls_in_order (m : Mailer) (recipient message : String) :
    (m.send recipient message).notifier.calls = m.calls ++ m.made recipient message ∧
      (m.settings.host.getD "" = "" → m.made recipient message = []) ∧
      (m.made recipient message = [] ∧
          (m.settings.host.getD "" = "" ∨ ∃ fault, m.mail recipient message = .error fault) ∨
        ∃ host mail steps, m.settings.host = some host ∧ m.mail recipient message = .ok mail ∧
          steps <+: m.settings.script host recipient mail ∧
          (m.made recipient message = steps ∨ m.made recipient message = steps ++ [.quit]) ∧
          (mail.fault? = none → (∀ call ∈ m.settings.script host recipient mail, m.answers call = none) →
            m.made recipient message = m.settings.script host recipient mail ++ [.quit])) ∧
      (m.made recipient message).countP Call.isHandover ≤ 1 ∧
      (m.settings.useSsl = false → m.settings.port = 587 → ∀ before call after,
        m.made recipient message = before ++ call :: after → call.isPrivate = true →
          .startTls ∈ before ∧ m.answers .startTls = none) := by
  obtain ⟨hcalls, hdelivers⟩ := m.send_delivers recipient message
  refine ⟨hcalls, ?_⟩
  generalize m.made recipient message = made at hdelivers ⊢
  generalize (m.send recipient message).outcome = outcome at hdelivers
  cases hdelivers with
  | homeless hhost =>
    exact ⟨fun _ => rfl, .inl ⟨rfl, .inl (Text.filled_eq_none_iff.mp hhost)⟩, Nat.zero_le _,
      fun _ _ before call after hmade => absurd hmade (by simp)⟩
  | nameless host fault hhost hmail =>
    exact ⟨fun _ => rfl, .inl ⟨rfl, .inr ⟨fault, hmail⟩⟩, Nat.zero_le _,
      fun _ _ before call after hmade => absurd hmade (by simp)⟩
  | conversed host mail made fault hhost hmail hcourse =>
    have hrecipient : mail.recipient = recipient := Mail.recipient_of_compose hmail
    have hcomplete := hcourse.completes
    obtain ⟨steps, hsteps, hmade⟩ := hcourse.follows
    rw [hrecipient] at hcomplete hsteps
    refine ⟨fun hnone => ?_, .inr ⟨host, mail, steps, Text.eq_some_of_filled hhost, hmail, hsteps, hmade,
      hcomplete⟩, ?_, fun hssl hport before call after hmade hprivate => ?_⟩
    · cases hhost.symm.trans (Text.filled_eq_none_iff.mpr hnone)
    · have honce : steps.countP Call.isHandover ≤ 1 :=
        m.settings.countP_script host recipient mail ▸ hsteps.sublist.countP_le
      rcases hmade with rfl | rfl
      · exact honce
      · rw [List.countP_append]
        exact honce
    · exact hcourse.secured_before (SmtpSettings.upgrades_iff.mpr ⟨hssl, hport⟩) hmade hprivate

/-! ## 3. The connection -/

/-- **The connection of a delivery is its only one, and is closed once and last**, except when it cannot be
    secured: then it is not closed at all. -/
theorem closed_unless_unsecured {m : Mailer} {recipient message : String} {secure : Bool} {host : String}
    {port : Int} (hmade : .connect secure host port ∈ m.made recipient message)
    (hgranted : m.answers (.connect secure host port) = none) :
    (m.made recipient message).countP Call.isConnect = 1 ∧
      if .startTls ∈ m.made recipient message ∧ m.answers .startTls ≠ none then
        .quit ∉ m.made recipient message
      else (m.made recipient message).count .quit = 1 ∧
        (m.made recipient message).getLast? = some .quit := by
  obtain ⟨-, hdelivers⟩ := m.send_delivers recipient message
  generalize m.made recipient message = made at hdelivers hmade ⊢
  generalize (m.send recipient message).outcome = outcome at hdelivers
  cases hdelivers with
  | homeless hhost => cases hmade
  | nameless host' fault hhost hmail => cases hmade
  | conversed host' mail made fault hhost hmail hcourse =>
    obtain ⟨rest, hrest, hothers⟩ := hcourse.connects_once
    have hconnection : .connect secure host port = connection m.settings host' := by
      rw [hrest, List.mem_cons] at hmade
      exact hmade.resolve_right fun h => nomatch hothers _ h
    refine ⟨?_, hcourse.closes (hconnection ▸ hgranted)⟩
    rw [hrest, List.countP_cons, List.countP_eq_zero.mpr (by simpa using hothers)]
    rfl

/-- A delivery service to a server on the port where a line becomes secure by a call. -/
def submission (answers : Answers) : Mailer where
  settings :=
    ⟨some "mail.example.com", SmtpSettings.submissionPort, some "robot", some "secret", none, "Flows", false⟩
  answers := answers
  mails := 0
  calls := []

/-- A server to which every call succeeds but one kind. -/
def refusing (p : Call → Bool) (text : String) : Answers := fun call =>
  if p call then some (.refused text) else none

/-- A server that takes no mail is left as it should be. -/
theorem closed_unless_unsecured_refused :
    let m := submission (refusing Call.isHandover "no such user")
    (m.made "ann@example.org" "hi").count .quit = 1 ∧
      (m.made "ann@example.org" "hi").getLast? = some .quit := by
  intro m
  have hmade : .connect false "mail.example.com" 587 ∈ m.made "ann@example.org" "hi" := by decide +kernel
  obtain ⟨-, hclosed⟩ := closed_unless_unsecured hmade rfl
  rwa [if_neg (by decide +kernel)] at hclosed

/-- A line that cannot be secured stays open. -/
theorem unsecured_stays_open :
    let m := submission (refusing (· == .startTls) "refused")
    .connect false "mail.example.com" 587 ∈ m.made "ann@example.org" "hi" ∧
      m.answers (.connect false "mail.example.com" 587) = none ∧
      (m.made "ann@example.org" "hi").count .quit = 0 := by
  decide +kernel

/-! ## 4. What is reported -/

/-- **A delivery is reported as it happened, up to the farewell.** The id of the mail is what is reported
    exactly when the server took the mail and the farewell too. Otherwise a delivery failure is, except
    when nothing was handed over because there was no mail, or none that could be written: the sender has
    no ASCII address, or a header has a line break. -/
theorem told_as_it_happened {m : Mailer}
    (hserver : ∀ call fault, m.answers call = some fault → fault.isTransport = true)
    (recipient message : String) :
    (∀ id, (m.send recipient message).outcome = .ok id ↔
        ∃ mail, m.mail recipient message = .ok mail ∧ mail.id = id ∧
          handover m.settings mail ∈ m.made recipient message ∧
          m.answers (handover m.settings mail) = none ∧ m.answers .quit = none) ∧
      ∀ fault, (m.send recipient message).outcome = .error fault →
        (∃ text, fault = .undelivered text) ∨
          (∀ call ∈ m.made recipient message, call.isHandover = false) ∧
            (isAscii m.settings.address.toList = false ∨
              ∃ mail, m.mail recipient message = .ok mail ∧
                ∃ header ∈ mail.headers, ∃ c ∈ header.2.toList, Header.isLineEnd c = true) := by
  obtain ⟨-, hdelivers⟩ := m.send_delivers recipient message
  generalize m.made recipient message = made at hdelivers ⊢
  generalize (m.send recipient message).outcome = outcome at hdelivers ⊢
  cases hdelivers with
  | homeless hhost =>
    refine ⟨fun id => ⟨fun h => (nomatch h), ?_⟩, fun fault hfault => ?_⟩
    · rintro ⟨mail, _, _, hmade, _⟩
      cases hmade
    · cases hfault
      exact .inl ⟨_, rfl⟩
  | nameless host fault hhost hmail =>
    refine ⟨fun id => ⟨fun h => (nomatch h), ?_⟩, fun _ _ => .inr ⟨fun _ hcall => (nomatch hcall), .inl ?_⟩⟩
    · rintro ⟨mail, _, _, hmade, _⟩
      cases hmade
    · exact Mail.address_of_compose_error hmail
  | conversed host mail made fault hhost hmail hcourse =>
    refine ⟨fun id => ?_, fun fault' hfault' => ?_⟩
    · rw [verdict_eq_ok_iff, hcourse.settled_iff]
      constructor
      · rintro ⟨⟨hmade, hsent, hlate⟩, hid⟩
        exact ⟨mail, hmail, hid, hmade, hsent, hlate⟩
      · rintro ⟨mail', hmail', hid, hmade, hsent, hlate⟩
        cases hmail.symm.trans hmail'
        exact ⟨⟨hmade, hsent, hlate⟩, hid⟩
    · obtain ⟨left, hleft, rfl⟩ := verdict_eq_error hfault'
      rcases hcourse.fault_cases hleft with ⟨call, hcall⟩ | ⟨hunwritten, hnone⟩
      · exact .inl (failure_of_isTransport (hserver call left hcall))
      · exact .inr ⟨hnone, .inr ⟨mail, hmail, Mail.broken_of_fault? hunwritten⟩⟩

/-- A mail that the server takes is reported by its id. -/
theorem told_as_it_happened_taken :
    ((submission .obliging).send "ann@example.org" "hi").outcome = .ok "<1@robot>" := by
  obtain ⟨htold, -⟩ :=
    told_as_it_happened (m := submission .obliging) (fun _ _ h => nomatch h) "ann@example.org" "hi"
  exact (htold "<1@robot>").mpr ⟨_, rfl, by decide +kernel, by decide +kernel, rfl, rfl⟩

/-- A fault on the farewell hides that the server took the mail. -/
theorem late_fault_undoes :
    let m := submission (refusing (· == .quit) "late")
    (m.made "ann@example.org" "hi").countP (fun call => call.isHandover && m.answers call == none) = 1 ∧
      (m.send "ann@example.org" "hi").outcome = .error (.undelivered "Failed to send email: late") :=
  ⟨by decide +kernel, rfl⟩

end Mailer

end Dripline
