import Dripline.Delivery.Smtp

/-!
# Conversations with a mail server

One mail is one conversation, and there are six ways in which that can go:

* `Course`, `converse_course`: the six ways, with the calls that are made and the fault that is left;
* `SmtpSettings.script`: the calls that the settings ask for, in their order;
* `Course.reaches`: how far a conversation gets -- to no connection, to none that is secure, or into a
  session, which is closed in any case;
* **`Course.follows`**, `Course.completes`: the calls are those of the script, up to some point, and perhaps
  `quit` after them. Without a fault they are all of them;
* **`Course.secured_before`**: what is not for everyone waits until the line is secure;
* **`Course.closes`**: a connection is closed once and last, except when it cannot be secured;
* `Course.settled_iff`, `Course.fault_cases`: the fault that is left is none exactly when the mail was taken
  and the farewell too. Otherwise it is that of a call, or of a mail that could not be written.
-/

namespace Dripline

/-! ## 1. Calls one after the other -/

section

variable {answers : Answers} {calls : List Call}

theorem runCalls_of_granted (h : ∀ c ∈ calls, answers c = none) : runCalls answers calls = (calls, none) := by
  induction calls with
  | nil => rfl
  | cons c cs ih =>
    rw [List.forall_mem_cons] at h
    unfold runCalls
    rw [h.1, ih h.2]

theorem runCalls_single (answers : Answers) (call : Call) :
    runCalls answers [call] = ([call], answers call) := by
  unfold runCalls
  cases answers call with
  | none => rfl
  | some fault => rfl

end

/-! ## 2. The ways in which a conversation can go -/

section

/-- The call that connects. -/
def connection (s : SmtpSettings) (host : String) : Call := .connect s.isSecure host s.port

/-- Whether a connection is plain at first and is to be secured by a call. -/
def SmtpSettings.upgrades (s : SmtpSettings) : Bool := !s.isSecure && s.port == SmtpSettings.submissionPort

/-- The ways in which a conversation about a mail can go: the calls that are made, and the fault that is
    left at the end. -/
inductive Course (answers : Answers) (s : SmtpSettings) (host : String) (mail : Mail) :
    List Call → Option CallFault → Prop
  /-- There is no connection. -/
  | unreached (fault : CallFault) (hconnect : answers (connection s host) = some fault) :
      Course answers s host mail [connection s host] (some fault)
  /-- The connection cannot be secured. -/
  | unsecured (fault : CallFault) (hplain : s.upgrades = true) (hconnect : answers (connection s host) = none)
      (hsecure : answers .startTls = some fault) :
      Course answers s host mail [connection s host, .startTls] (some fault)
  /-- The login fails. -/
  | unadmitted (user password : String) (fault : CallFault) (hopened : ∀ c ∈ opening s host, answers c = none)
      (hlogin : authentication s = [.login user password])
      (hfault : answers (.login user password) = some fault) :
      Course answers s host mail (opening s host ++ authentication s ++ [.quit]) (answers .quit <|> some fault)
  /-- The mail cannot be written. -/
  | unwritten (fault : HeaderFault) (hopened : ∀ c ∈ opening s host, answers c = none)
      (hadmitted : ∀ c ∈ authentication s, answers c = none) (hmail : mail.fault? = some fault) :
      Course answers s host mail (opening s host ++ authentication s ++ [.quit])
        (answers .quit <|> some (.broken fault.label fault.message))
  /-- The server does not take the mail. -/
  | refused (fault : CallFault) (hopened : ∀ c ∈ opening s host, answers c = none)
      (hadmitted : ∀ c ∈ authentication s, answers c = none) (hmail : mail.fault? = none)
      (hfault : answers (handover s mail) = some fault) :
      Course answers s host mail (opening s host ++ authentication s ++ [handover s mail, .quit])
        (answers .quit <|> some fault)
  /-- The server takes the mail. -/
  | accepted (hopened : ∀ c ∈ opening s host, answers c = none)
      (hadmitted : ∀ c ∈ authentication s, answers c = none) (hmail : mail.fault? = none)
      (hsent : answers (handover s mail) = none) :
      Course answers s host mail (opening s host ++ authentication s ++ [handover s mail, .quit])
        (answers .quit)

variable {answers : Answers} {s : SmtpSettings} {host : String} {mail : Mail}

/-- Before the session begins: no connection, no security, or a session. -/
theorem opening_cases (answers : Answers) (s : SmtpSettings) (host : String) :
    (∃ fault, answers (connection s host) = some fault ∧
        runCalls answers (opening s host) = ([connection s host], some fault)) ∨
      (∃ fault, s.upgrades = true ∧ answers (connection s host) = none ∧ answers .startTls = some fault ∧
        runCalls answers (opening s host) = ([connection s host, .startTls], some fault)) ∨
      (∀ c ∈ opening s host, answers c = none) ∧
        runCalls answers (opening s host) = (opening s host, none) := by
  have hopening : opening s host = connection s host :: if s.upgrades then [.startTls] else [] := rfl
  cases hconnect : answers (connection s host) with
  | some fault =>
    refine .inl ⟨fault, rfl, ?_⟩
    rw [hopening]
    unfold runCalls
    rw [hconnect]
  | none =>
    by_cases hplain : s.upgrades = true
    · rw [if_pos hplain] at hopening
      cases hsecure : answers .startTls with
      | some fault =>
        refine .inr (.inl ⟨fault, hplain, rfl, rfl, ?_⟩)
        rw [hopening]
        unfold runCalls
        rw [hconnect, runCalls_single, hsecure]
      | none =>
        have hgranted : ∀ c ∈ opening s host, answers c = none := by
          rw [hopening]
          simp [hconnect, hsecure]
        exact .inr (.inr ⟨hgranted, runCalls_of_granted hgranted⟩)
    · have hgranted : ∀ c ∈ opening s host, answers c = none := by
        rw [hopening, if_neg hplain]
        simp [hconnect]
      exact .inr (.inr ⟨hgranted, runCalls_of_granted hgranted⟩)

/-- Within the session: a login that fails, or none that does. -/
theorem authentication_cases (answers : Answers) (s : SmtpSettings) :
    (∃ user password fault, authentication s = [.login user password] ∧
        answers (.login user password) = some fault ∧
        runCalls answers (authentication s) = (authentication s, some fault)) ∨
      (∀ c ∈ authentication s, answers c = none) ∧
        runCalls answers (authentication s) = (authentication s, none) := by
  cases hlogin : s.credentials? with
  | none =>
    have hempty : authentication s = [] := by
      unfold authentication
      rw [hlogin]
    exact .inr ⟨by simp [hempty], by rw [hempty]; rfl⟩
  | some credentials =>
    obtain ⟨user, password⟩ := credentials
    have hsingle : authentication s = [.login user password] := by
      unfold authentication
      rw [hlogin]
    cases hfault : answers (.login user password) with
    | some fault =>
      exact .inl ⟨user, password, fault, hsingle, hfault, by rw [hsingle, runCalls_single, hfault]⟩
    | none => exact .inr ⟨by simp [hsingle, hfault], by rw [hsingle, runCalls_single, hfault]⟩

/-- **A conversation goes in one of these ways.** -/
theorem converse_course (answers : Answers) (s : SmtpSettings) (host : String) (mail : Mail) :
    Course answers s host mail (converse answers s host mail).1 (converse answers s host mail).2 := by
  unfold converse transfer
  rcases opening_cases answers s host with ⟨fault, hconnect, hrun⟩ |
    ⟨fault, hplain, hconnect, hsecure, hrun⟩ | ⟨hopened, hrun⟩
  · rw [hrun]
    exact .unreached fault hconnect
  · rw [hrun]
    exact .unsecured fault hplain hconnect hsecure
  · rw [hrun]
    rcases authentication_cases answers s with ⟨user, password, fault, hlogin, hfault, hrun'⟩ |
      ⟨hadmitted, hrun'⟩
    · rw [hrun']
      simp only [runCalls_single]
      exact .unadmitted user password fault hopened hlogin hfault
    · rw [hrun']
      cases hmail : mail.fault? with
      | some fault =>
        simp only [runCalls_single]
        exact .unwritten fault hopened hadmitted hmail
      | none =>
        simp only [runCalls_single, List.append_assoc, List.singleton_append]
        rw [← List.append_assoc]
        cases hsent : answers (handover s mail) with
        | some fault => exact .refused fault hopened hadmitted hmail hsent
        | none =>
          have hlate : (answers .quit <|> none) = answers .quit := by cases answers .quit <;> rfl
          rw [hlate]
          exact .accepted hopened hadmitted hmail hsent

end

/-! ## 3. The calls that settings ask for -/

/-- The calls with which a mail is to be sent, in their order: a connection that is secure from the
    beginning on the one port, and becomes so by a call on the other; a login with a user and a password;
    the mail. -/
def SmtpSettings.script (s : SmtpSettings) (host recipient : String) (mail : Mail) : List Call :=
  [.connect (s.useSsl || s.port == 465) host s.port] ++
    (if s.useSsl = false ∧ s.port = 587 then [.startTls] else []) ++
    (if s.user.getD "" ≠ "" ∧ s.password.getD "" ≠ "" then
      [.login (s.user.getD "") (s.password.getD "")] else []) ++
    [.sendMail s.address [recipient] mail]

namespace SmtpSettings

variable {s : SmtpSettings} {host : String}

theorem upgrades_iff : s.upgrades = true ↔ s.useSsl = false ∧ s.port = 587 := by
  unfold upgrades isSecure securePort submissionPort
  simp only [Bool.and_eq_true, Bool.not_eq_true', Bool.or_eq_false_iff, beq_iff_eq, beq_eq_false_iff_ne]
  constructor
  · rintro ⟨⟨hssl, _⟩, hport⟩
    exact ⟨hssl, hport⟩
  · rintro ⟨hssl, hport⟩
    exact ⟨⟨hssl, by omega⟩, hport⟩

theorem authentication_eq (s : SmtpSettings) :
    authentication s = if s.user.getD "" ≠ "" ∧ s.password.getD "" ≠ "" then
      [.login (s.user.getD "") (s.password.getD "")] else [] := by
  unfold authentication credentials?
  rw [Text.filled_eq, Text.filled_eq]
  by_cases huser : s.user.getD "" = "" <;> by_cases hpassword : s.password.getD "" = "" <;>
    simp [huser, hpassword]

theorem opening_of_upgrades (h : s.upgrades = true) : opening s host = [connection s host, .startTls] := by
  show connection s host :: (if s.upgrades = true then _ else _) = _
  rw [if_pos h]

theorem script_eq (s : SmtpSettings) (host : String) (mail : Mail) :
    s.script host mail.recipient mail = opening s host ++ authentication s ++ [handover s mail] := by
  have hsecure : (if s.upgrades = true then [Call.startTls] else []) =
      if s.useSsl = false ∧ s.port = 587 then [.startTls] else [] := by
    simp only [upgrades_iff]
  unfold script
  rw [s.authentication_eq, ← hsecure]
  rfl

end SmtpSettings

namespace Call

/-- The call connects. -/
def isConnect : Call → Bool
  | connect .. => true
  | _ => false

/-- The call hands a mail over. -/
def isHandover : Call → Bool
  | sendMail .. => true
  | _ => false

/-- The call says what is not for everyone: a password or a message. -/
def isPrivate : Call → Bool
  | login .. => true
  | sendMail .. => true
  | _ => false

theorem isConnect_of_isPrivate {call : Call} (h : call.isPrivate = true) : call.isConnect = false := by
  cases call with
  | connect secure host port => cases h
  | _ => rfl

end Call

theorem SmtpSettings.countP_script (s : SmtpSettings) (host recipient : String) (mail : Mail) :
    (s.script host recipient mail).countP Call.isHandover = 1 := by
  unfold SmtpSettings.script
  split <;> split <;> rfl

section

variable {s : SmtpSettings} {host : String} {mail : Mail} {call : Call}

theorem eq_startTls_of_mem_tail (h : call ∈ (opening s host).tail) : call = .startTls := by
  have htail : call ∈ if s.upgrades = true then [Call.startTls] else [] := h
  split at htail
  · exact List.mem_singleton.mp htail
  · cases htail

theorem mem_opening (h : call ∈ opening s host) : call = connection s host ∨ call = .startTls := by
  rcases List.mem_cons.mp h with hconnect | htail
  · exact .inl hconnect
  · exact .inr (eq_startTls_of_mem_tail (show call ∈ (opening s host).tail from htail))

theorem mem_authentication (h : call ∈ authentication s) : ∃ user password, call = .login user password := by
  rw [s.authentication_eq] at h
  split at h
  · exact ⟨_, _, List.mem_singleton.mp h⟩
  · cases h

variable {within : List Call} (hwithin : within <+: authentication s ++ [handover s mail])
include hwithin

/-- Between the opening and the farewell everything is private. -/
theorem isPrivate_of_mem_within (h : call ∈ within) : call.isPrivate = true := by
  rcases List.mem_append.mp (hwithin.mem h) with hlogin | hlast
  · obtain ⟨user, password, rfl⟩ := mem_authentication hlogin
    rfl
  · rw [List.mem_singleton.mp hlast]
    rfl

theorem quit_not_mem : .quit ∉ opening s host ++ within := fun h => by
  rcases List.mem_append.mp h with hopening | h
  · rcases mem_opening hopening with h | h <;> cases h
  · cases isPrivate_of_mem_within hwithin h

theorem startTls_mem_opening (h : .startTls ∈ opening s host ++ within) : .startTls ∈ opening s host :=
  (List.mem_append.mp h).resolve_right fun h => nomatch isPrivate_of_mem_within hwithin h

omit hwithin

/-- The mail is handed over in one place. -/
theorem isHandover_elsewhere (h : call ∈ opening s host ++ authentication s ++ [.quit]) :
    call.isHandover = false := by
  rw [List.mem_append, List.mem_append, List.mem_singleton] at h
  rcases h with (hopening | hlogin) | rfl
  · rcases mem_opening hopening with rfl | rfl <;> rfl
  · obtain ⟨user, password, rfl⟩ := mem_authentication hlogin
    rfl
  · rfl

theorem handover_not_mem : handover s mail ∉ opening s host ++ authentication s ++ [.quit] := fun h =>
  nomatch isHandover_elsewhere h

end

/-! ## 4. What a conversation comes to -/

section

variable {answers : Answers} {s : SmtpSettings} {host : String} {mail : Mail} {made : List Call}
  {fault : Option CallFault}

/-- How far a conversation gets: to no connection, to none that is secure, or into a session. A session
    is closed. -/
theorem Course.reaches (h : Course answers s host mail made fault) :
    (made = [connection s host] ∧ answers (connection s host) ≠ none) ∨
      (s.upgrades = true ∧ made = [connection s host, .startTls] ∧ answers .startTls ≠ none) ∨
      (∀ c ∈ opening s host, answers c = none) ∧
        ∃ within, within <+: authentication s ++ [handover s mail] ∧
          made = opening s host ++ within ++ [.quit] := by
  cases h with
  | unreached fault hconnect =>
    exact .inl ⟨rfl, Option.ne_none_iff_exists'.mpr ⟨fault, hconnect⟩⟩
  | unsecured fault hplain hconnect hsecure =>
    exact .inr (.inl ⟨hplain, rfl, Option.ne_none_iff_exists'.mpr ⟨fault, hsecure⟩⟩)
  | unadmitted user password fault hopened hlogin hfault =>
    exact .inr (.inr ⟨hopened, _, List.prefix_append .., rfl⟩)
  | unwritten fault hopened hadmitted hmail =>
    exact .inr (.inr ⟨hopened, _, List.prefix_append .., rfl⟩)
  | refused fault hopened hadmitted hmail hfault =>
    exact .inr (.inr ⟨hopened, _, List.prefix_rfl, by simp⟩)
  | accepted hopened hadmitted hmail hsent =>
    exact .inr (.inr ⟨hopened, _, List.prefix_rfl, by simp⟩)

/-- **A conversation keeps to the script** as far as it gets, and ends there or with a farewell. -/
theorem Course.follows (h : Course answers s host mail made fault) :
    ∃ steps, steps <+: s.script host mail.recipient mail ∧ (made = steps ∨ made = steps ++ [.quit]) := by
  rw [s.script_eq, List.append_assoc]
  rcases h.reaches with ⟨rfl, _⟩ | ⟨hplain, rfl, _⟩ | ⟨_, within, hwithin, rfl⟩
  · exact ⟨[connection s host], ⟨_, rfl⟩, .inl rfl⟩
  · rw [SmtpSettings.opening_of_upgrades hplain]
    exact ⟨[connection s host, .startTls], ⟨_, rfl⟩, .inl rfl⟩
  · exact ⟨_, (List.prefix_append_right_inj _).mpr hwithin, .inr rfl⟩

/-- **Nothing that is not for everyone goes over a line that is still to be secured.** -/
theorem Course.secured_before (h : Course answers s host mail made fault) (hplain : s.upgrades = true)
    {before after : List Call} {call : Call} (hmade : made = before ++ call :: after)
    (hprivate : call.isPrivate = true) : .startTls ∈ before ∧ answers .startTls = none := by
  have hmem : call ∈ made := hmade ▸ List.mem_append_right _ List.mem_cons_self
  rcases h.reaches with ⟨rfl, _⟩ | ⟨_, rfl, _⟩ | ⟨hopened, within, _, rfl⟩
  · rw [List.mem_singleton] at hmem
    rw [hmem] at hprivate
    cases hprivate
  · rw [List.mem_cons, List.mem_singleton] at hmem
    rcases hmem with rfl | rfl <;> cases hprivate
  · rw [SmtpSettings.opening_of_upgrades hplain] at hopened hmade
    refine ⟨?_, hopened _ (List.mem_cons_of_mem _ List.mem_cons_self)⟩
    -- the private call is neither of the first two
    match before with
    | [] =>
      cases hmade
      cases hprivate
    | [_] =>
      cases hmade
      cases hprivate
    | _ :: second :: before =>
      have hsecond : Call.startTls = second := (List.cons.inj (List.cons.inj hmade).2).1
      rw [← hsecond]
      exact List.mem_cons_of_mem _ List.mem_cons_self

/-- A conversation has one connection, made first. -/
theorem Course.connects_once (h : Course answers s host mail made fault) :
    ∃ rest, made = connection s host :: rest ∧ ∀ call ∈ rest, call.isConnect = false := by
  rcases h.reaches with ⟨rfl, _⟩ | ⟨_, rfl, _⟩ | ⟨_, within, hwithin, rfl⟩
  · exact ⟨[], rfl, fun _ hcall => nomatch hcall⟩
  · exact ⟨[.startTls], rfl, by decide⟩
  · refine ⟨(opening s host).tail ++ within ++ [.quit], rfl, fun call hcall => ?_⟩
    rw [List.mem_append, List.mem_append, List.mem_singleton] at hcall
    rcases hcall with (htail | hmiddle) | rfl
    · rw [eq_startTls_of_mem_tail htail]
      rfl
    · exact Call.isConnect_of_isPrivate (isPrivate_of_mem_within hwithin hmiddle)
    · rfl

/-- **A connection is closed once and last**, except when it cannot be secured. -/
theorem Course.closes (h : Course answers s host mail made fault)
    (hconnect : answers (connection s host) = none) :
    if .startTls ∈ made ∧ answers .startTls ≠ none then .quit ∉ made
    else made.count .quit = 1 ∧ made.getLast? = some .quit := by
  rcases h.reaches with ⟨_, hfault⟩ | ⟨_, rfl, hfault⟩ | ⟨hopened, within, hwithin, rfl⟩
  · exact absurd hconnect hfault
  · rw [if_pos ⟨List.mem_cons_of_mem _ List.mem_cons_self, hfault⟩]
    simp [connection]
  · have hsecured : ¬ (.startTls ∈ opening s host ++ within ++ [.quit] ∧ answers .startTls ≠ none) := by
      rintro ⟨hcall, hfault⟩
      rcases List.mem_append.mp hcall with hcall | hcall
      · exact hfault (hopened _ (startTls_mem_opening hwithin hcall))
      · cases List.mem_singleton.mp hcall
    rw [if_neg hsecured, List.count_append, List.count_eq_zero.mpr (quit_not_mem hwithin)]
    exact ⟨rfl, List.getLast?_concat⟩

/-- A conversation in which no call fails goes through the whole script. -/
theorem Course.completes (h : Course answers s host mail made fault) (hmail : mail.fault? = none)
    (hgranted : ∀ call ∈ s.script host mail.recipient mail, answers call = none) :
    made = s.script host mail.recipient mail ++ [.quit] := by
  rw [s.script_eq] at hgranted ⊢
  simp only [List.mem_append, List.mem_singleton] at hgranted
  cases h with
  | unreached fault hconnect =>
    cases hconnect.symm.trans (hgranted _ (.inl (.inl List.mem_cons_self)))
  | unsecured fault hplain hconnect hsecure =>
    have hopening : opening s host = [connection s host, .startTls] := SmtpSettings.opening_of_upgrades hplain
    cases hsecure.symm.trans (hgranted _ (.inl (.inl (by simp [hopening]))))
  | unadmitted user password fault hopened hlogin hfault =>
    cases hfault.symm.trans (hgranted _ (.inl (.inr (by simp [hlogin]))))
  | unwritten fault hopened hadmitted hfault => cases hfault.symm.trans hmail
  | refused fault hopened hadmitted hmail hfault => cases hfault.symm.trans (hgranted _ (.inr rfl))
  | accepted hopened hadmitted hmail hsent => exact (List.append_assoc _ [handover s mail] [Call.quit]).symm

/-- **Nothing is left to complain about exactly when the server took the mail**, and the farewell too. -/
theorem Course.settled_iff (h : Course answers s host mail made fault) :
    fault = none ↔ handover s mail ∈ made ∧ answers (handover s mail) = none ∧ answers .quit = none := by
  cases h with
  | unreached fault hconnect => simp [handover, connection]
  | unsecured fault hplain hconnect hsecure => simp [handover, connection]
  | unadmitted user password fault hopened hlogin hfault =>
    simp only [handover_not_mem, false_and, iff_false]
    cases answers .quit <;> simp
  | unwritten fault hopened hadmitted hmail =>
    simp only [handover_not_mem, false_and, iff_false]
    cases answers .quit <;> simp
  | refused fault hopened hadmitted hmail hfault => cases answers .quit <;> simp [hfault]
  | accepted hopened hadmitted hmail hsent => simp [hsent]

theorem late_or_left {late : Option CallFault} {fault left : CallFault}
    (h : (late <|> some fault) = some left) : late = some left ∨ fault = left := by
  cases late with
  | none => exact .inr (Option.some.inj h)
  | some late => exact .inl h

/-- **The fault that is left** is that of a call, or there is a mail that could not be written and was not
    handed over. -/
theorem Course.fault_cases (h : Course answers s host mail made fault) {left : CallFault}
    (hleft : fault = some left) :
    (∃ call, answers call = some left) ∨
      mail.fault? ≠ none ∧ ∀ call ∈ made, call.isHandover = false := by
  cases h with
  | unreached fault hconnect => exact .inl ⟨_, hconnect.trans hleft⟩
  | unsecured fault hplain hconnect hsecure => exact .inl ⟨_, hsecure.trans hleft⟩
  | unadmitted user password fault hopened hlogin hfault =>
    rcases late_or_left hleft with hlate | rfl
    · exact .inl ⟨_, hlate⟩
    · exact .inl ⟨_, hfault⟩
  | unwritten fault hopened hadmitted hmail =>
    exact .inr ⟨Option.ne_none_iff_exists'.mpr ⟨fault, hmail⟩, fun _ => isHandover_elsewhere⟩
  | refused fault hopened hadmitted hmail hfault =>
    rcases late_or_left hleft with hlate | rfl
    · exact .inl ⟨_, hlate⟩
    · exact .inl ⟨_, hfault⟩
  | accepted hopened hadmitted hmail hsent => exact .inl ⟨_, hleft⟩

end

end Dripline
