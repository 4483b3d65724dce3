import Dripline.Delivery.Mail
import Mathlib.Data.List.Basic

/-!
# A message stays text

The markup of a mail holds the message as text, whatever the message is:

* `replaceAll_eq`: several characters replaced one after the other, in the whole text each, are replaced in
  one pass when nothing that is put in holds a character whose turn comes later (`IsOrdered`). With the
  ampersand first that is so; `escape_cons` is the pass;
* `plain_of_mem_escape`, `exists_entity_of_suffix`, `unescape_escape`: an escaped text holds no character
  that means something, no ampersand but that of an entity, and nothing is lost in it;
* `Markup.Reading`, `Markup.tags`: a reader of markup, and the tags that it meets. A text between two pieces
  of markup brings in none if it holds no opening bracket (`tags_around`);
* **`message_stays_text`**: the markup is fixed but for the escaped message, and all mails have the same tags.
-/

namespace Dripline

namespace Text.Markup

/-! ## 1. Replacing in one pass -/

/-- What a table puts in the place of a character. -/
def standIn (table : List (Char × List Char)) (c : Char) : List Char := (table.lookup c).getD [c]

/-- What is put in holds no character that is replaced after it. -/
def IsOrdered (table : List (Char × List Char)) : Prop := table.Pairwise fun e f => f.1 ∉ e.2

instance : DecidablePred IsOrdered := fun table =>
  inferInstanceAs (Decidable (table.Pairwise fun e f => f.1 ∉ e.2))

variable {table : List (Char × List Char)}

theorem standIn_of_free {c : Char} (h : ∀ e ∈ table, e.1 ≠ c) : standIn table c = [c] := by
  unfold standIn
  rw [List.lookup_eq_none_iff.mpr fun e he => bne_iff_ne.mpr (h e he).symm]
  rfl

theorem standIn_cons (e : Char × List Char) (c : Char) :
    standIn (e :: table) c = if c = e.1 then e.2 else standIn table c := by
  unfold standIn
  rw [List.lookup_cons]
  by_cases h : c = e.1
  · rw [if_pos h, beq_iff_eq.mpr h]
    rfl
  · rw [if_neg h, beq_eq_false_iff_ne.mpr h]

/-- A text without the characters of a table is left as it is. -/
theorem flatMap_standIn_of_free {cs : List Char} (h : ∀ c ∈ cs, ∀ e ∈ table, e.1 ≠ c) :
    cs.flatMap (standIn table) = cs := by
  induction cs with
  | nil => rfl
  | cons c cs ih =>
    obtain ⟨hc, hcs⟩ := List.forall_mem_cons.mp h
    rw [List.flatMap_cons, standIn_of_free hc, ih hcs]
    rfl

/-- **Replacing one character after the other is one pass** over the text, if the table is ordered. -/
theorem replaceAll_eq (h : IsOrdered table) (cs : List Char) :
    replaceAll table cs = cs.flatMap (standIn table) := by
  induction table generalizing cs with
  | nil => exact (flatMap_standIn_of_free fun _ _ _ he => absurd he List.not_mem_nil).symm
  | cons e table ih =>
    obtain ⟨hfirst, hrest⟩ := List.pairwise_cons.mp h
    have hstep (c : Char) : (if c = e.1 then e.2 else [c]).flatMap (standIn table) = standIn (e :: table) c := by
      rw [standIn_cons]
      split
      · exact flatMap_standIn_of_free fun d hd f hf hfd => hfirst f hf (hfd ▸ hd)
      · rw [List.flatMap_singleton]
    calc replaceAll (e :: table) cs = replaceAll table (replace e.1 e.2 cs) := rfl
      _ = (cs.flatMap fun c => if c = e.1 then e.2 else [c]).flatMap (standIn table) := ih hrest _
      _ = cs.flatMap fun c => (if c = e.1 then e.2 else [c]).flatMap (standIn table) := List.flatMap_assoc
      _ = cs.flatMap (standIn (e :: table)) := by simp only [hstep]

/-! ## 2. Escaped texts -/

theorem escape_cons (c : Char) (cs : List Char) : escape (c :: cs) = standIn entities c ++ escape cs := by
  have hordered : IsOrdered entities := by decide
  unfold escape
  rw [replaceAll_eq hordered, replaceAll_eq hordered, List.flatMap_cons]

/-- A character has an entity, or is left as it is and means nothing. -/
theorem standIn_cases (c : Char) :
    (∃ e ∈ entities, e.1 = c ∧ standIn entities c = e.2) ∨
      (∀ e ∈ entities, e.1 ≠ c) ∧ standIn entities c = [c] := by
  by_cases h : ∀ e ∈ entities, e.1 ≠ c
  · exact .inr ⟨h, standIn_of_free h⟩
  · simp only [not_forall, not_not] at h
    obtain ⟨e, he, rfl⟩ := h
    have hown : ∀ e ∈ entities, standIn entities e.1 = e.2 := by decide
    exact .inl ⟨e, he, rfl, hown e he⟩

/-- The characters that end a text between tags or a quoted value. -/
def marks : List Char := ['<', '>', '"', '\'']

/-- **An escaped text is plain.** -/
theorem plain_of_mem_escape {cs : List Char} {d : Char} (h : d ∈ escape cs) : d ∉ marks := by
  induction cs with
  | nil => cases h
  | cons c cs ih =>
    rw [escape_cons, List.mem_append] at h
    rcases h with hd | hd
    · rcases standIn_cases c with ⟨e, he, -, hstand⟩ | ⟨hfree, hstand⟩
      · have hplain : (entities.all fun e => e.2.all fun d => decide (d ∉ marks)) = true := by decide
        exact of_decide_eq_true (List.all_eq_true.mp (List.all_eq_true.mp hplain e he) d (hstand ▸ hd))
      · have hmeant : (marks.all fun d => decide (∃ e ∈ entities, e.1 = d)) = true := by decide
        intro hmark
        obtain ⟨e, he, hed⟩ := of_decide_eq_true (List.all_eq_true.mp hmeant d hmark)
        rw [hstand, List.mem_singleton] at hd
        exact hfree e he (hed.trans hd)
    · exact ih hd

/-- What begins behind the occurrences of its first character begins in the rest. -/
theorem suffix_of_not_mem {c : Char} {xs ys after : List Char} (hc : c ∉ xs) (h : c :: after <:+ xs ++ ys) :
    c :: after <:+ ys := by
  induction xs with
  | nil => exact h
  | cons x xs ih =>
    rw [List.mem_cons, not_or] at hc
    rw [List.cons_append, List.suffix_cons_iff] at h
    rcases h with heq | hrest
    · exact absurd (List.cons.inj heq).1 hc.1
    · exact ih hc.2 hrest

/-- **Every ampersand of an escaped text begins an entity.** -/
theorem exists_entity_of_suffix {cs after : List Char} (h : '&' :: after <:+ escape cs) :
    ∃ e ∈ entities, e.2 <+: '&' :: after := by
  induction cs with
  | nil => cases List.suffix_nil.mp h
  | cons c cs ih =>
    rw [escape_cons] at h
    rcases standIn_cases c with ⟨e, he, -, hstand⟩ | ⟨hfree, hstand⟩
    · -- an entity is an ampersand and a name without one
      have hentity : ∀ e ∈ entities, e.2 = '&' :: e.2.tail ∧ '&' ∉ e.2.tail := by decide
      obtain ⟨hamp, hname⟩ := hentity e he
      rw [hstand, hamp, List.cons_append, List.suffix_cons_iff] at h
      rcases h with heq | hbehind
      · rw [heq, ← List.cons_append, ← hamp]
        exact ⟨e, he, List.prefix_append e.2 _⟩
      · exact ih (suffix_of_not_mem hname hbehind)
    · have hamp : ∃ e ∈ entities, e.1 = '&' := by decide
      obtain ⟨e, he, hamp⟩ := hamp
      rw [hstand] at h
      exact ih (suffix_of_not_mem (fun hc => hfree e he (hamp.trans (List.mem_singleton.mp hc))) h)

theorem unescape_cons {c : Char} (h : c ≠ '&') (cs : List Char) : unescape (c :: cs) = c :: unescape cs := by
  rw [unescape]
  all_goals
    intro rest hc
    exact absurd hc h

/-- **An escaped text shows the text that it was.** -/
theorem unescape_escape (cs : List Char) : unescape (escape cs) = cs := by
  induction cs with
  | nil => rfl
  | cons c cs ih =>
    rw [escape_cons]
    rcases standIn_cases c with ⟨e, he, rfl, hstand⟩ | ⟨hfree, hstand⟩
    · have hread : ∀ e ∈ entities, ∀ rest, unescape (e.2 ++ rest) = e.1 :: unescape rest := by
        simp only [entities, List.forall_mem_cons]
        exact ⟨fun _ => rfl, fun _ => rfl, fun _ => rfl, fun _ => rfl, fun _ => rfl, List.forall_mem_nil _⟩
      rw [hstand, hread e he, ih]
    · have hamp : ∃ e ∈ entities, e.1 = '&' := by decide
      obtain ⟨e, he, hamp⟩ := hamp
      rw [hstand, List.singleton_append, unescape_cons (hamp ▸ (hfree e he).symm), ih]

/-! ## 3. Tags -/

/-- Where a reader of markup stands, with what was read of the tag. -/
inductive Spot where
  | outside
  | within (tag : List Char)
  /-- In a value, which ends at the mark it began with. -/
  | quoted (mark : Char) (tag : List Char)
deriving DecidableEq, Repr

/-- A reader of markup: where it stands, and the tags that it has met. -/
structure Reading where
  spot : Spot
  tags : List (List Char)
deriving DecidableEq, Repr

/-- One character is read. -/
def Reading.step (r : Reading) (c : Char) : Reading :=
  match r.spot with
  | .outside => if c = '<' then { r with spot := .within [c] } else r
  | .within tag =>
    if c = '>' then ⟨.outside, r.tags ++ [tag ++ [c]]⟩
    else if c = '"' || c = '\'' then { r with spot := .quoted c (tag ++ [c]) }
    else { r with spot := .within (tag ++ [c]) }
  | .quoted mark tag =>
    if c = mark then { r with spot := .within (tag ++ [c]) }
    else { r with spot := .quoted mark (tag ++ [c]) }

/-- Characters are read. -/
def Reading.after (r : Reading) (cs : List Char) : Reading := cs.foldl Reading.step r

/-- The tags of a markup, in order. -/
def tags (markup : String) : List String :=
  ((Reading.mk .outside []).after markup.toList).tags.map String.ofList

/-- A text without an opening bracket holds no tag. -/
theorem after_of_plain {r : Reading} (hr : r.spot = .outside) {cs : List Char} (h : '<' ∉ cs) :
    r.after cs = r := by
  induction cs with
  | nil => rfl
  | cons c cs ih =>
    rw [List.mem_cons, not_or] at h
    have hstep : r.step c = r := by
      unfold Reading.step
      rw [hr]
      exact if_neg (Ne.symm h.1)
    show (r.step c).after cs = r
    rw [hstep, ih h.2]

/-- **A text between two pieces of markup brings in no tag**, if the first piece ends outside of all tags. -/
theorem tags_around {start finish : String} {cs : List Char}
    (hstart : ((Reading.mk .outside []).after start.toList).spot = .outside) (h : '<' ∉ cs) :
    tags (start ++ String.ofList cs ++ finish) = tags (start ++ finish) := by
  unfold tags
  rw [String.toList_append, String.toList_append, String.toList_append, String.toList_ofList]
  unfold Reading.after at hstart ⊢
  rw [List.foldl_append, List.foldl_append, List.foldl_append]
  have hplain := after_of_plain hstart h
  unfold Reading.after at hplain
  rw [hplain]

end Text.Markup

/-! ## 4. Mails -/

open Text

/-- The markup of a mail. -/
def Mail.markup (m : Mail) : String := ((m.parts.find? fun p => p.type == "text/html").map Part.text).getD ""

theorem Mail.parts_of_compose {sender : Sender} {number : Nat} {recipient message : String} {mail : Mail}
    (h : Mail.compose sender number recipient message = .ok mail) :
    mail.parts = [⟨"text/plain", message⟩, ⟨"text/html", markupBody message⟩] := by
  unfold Mail.compose at h
  cases hheader : sender.header with
  | error fault =>
    rw [hheader] at h
    cases h
  | ok header =>
    rw [hheader] at h
    cases h
    rfl

theorem Mail.markup_of_compose {sender : Sender} {number : Nat} {recipient message : String} {mail : Mail}
    (h : Mail.compose sender number recipient message = .ok mail) : mail.markup = markupBody message := by
  unfold Mail.markup
  rw [Mail.parts_of_compose h]
  rfl

/-- All messages have the tags that stand around them. -/
theorem tags_markupBody (message : String) :
    Markup.tags (markupBody message) = Markup.tags (markupStart ++ markupEnd) := by
  have hstart : ((Markup.Reading.mk .outside []).after markupStart.toList).spot = .outside := by decide +kernel
  exact Markup.tags_around hstart fun h => absurd (Markup.plain_of_mem_escape h) (by decide)

/-- **A message stays text.** The markup of a mail is fixed but for the escaped message. That one holds none of
    the characters that end a text or a quoted value, and no ampersand but that of an entity. Decoded, it is
    the message. So the markup of every mail has the same tags, whatever its message is. -/
theorem message_stays_text {sender : Sender} {number : Nat} {recipient message : String} {mail : Mail}
    (h : Mail.compose sender number recipient message = .ok mail) :
    (∃ escaped : List Char,
      mail.parts = [⟨"text/plain", message⟩,
        ⟨"text/html", markupStart ++ String.ofList escaped ++ markupEnd⟩] ∧
      (∀ c ∈ escaped, c ≠ '<' ∧ c ≠ '>' ∧ c ≠ '"' ∧ c ≠ '\'') ∧
      (∀ before after, escaped = before ++ '&' :: after →
        ∃ entity ∈ ["&amp;", "&lt;", "&gt;", "&quot;", "&#x27;"], String.toList entity <+: '&' :: after) ∧
      Markup.unescape escaped = message.toList) ∧
    ∀ (sender' : Sender) (number' : Nat) (recipient' message' : String) (mail' : Mail),
      Mail.compose sender' number' recipient' message' = .ok mail' →
        Markup.tags mail'.markup = Markup.tags mail.markup := by
  refine ⟨⟨Markup.escape message.toList, Mail.parts_of_compose h, ?_, ?_, Markup.unescape_escape _⟩, ?_⟩
  · intro c hc
    have hplain := Markup.plain_of_mem_escape hc
    unfold Markup.marks at hplain
    simpa only [List.mem_cons, List.not_mem_nil, or_false, not_or] using hplain
  · intro before after hescaped
    have hsuffix : '&' :: after <:+ Markup.escape message.toList := ⟨before, hescaped.symm⟩
    obtain ⟨e, he, hprefix⟩ := Markup.exists_entity_of_suffix hsuffix
    have hnamed : ∀ e ∈ Markup.entities, ∃ entity ∈ ["&amp;", "&lt;", "&gt;", "&quot;", "&#x27;"],
      String.toList entity = e.2 := by decide
    obtain ⟨entity, hentity, hname⟩ := hnamed e he
    exact ⟨entity, hentity, hname ▸ hprefix⟩
  · intro sender' number' recipient' message' mail' h'
    rw [Mail.markup_of_compose h', Mail.markup_of_compose h, tags_markupBody, tags_markupBody]

/-- A message with tags, quotes, an entity and half of one. -/
def trickyMessage : String := "</p><b title='x'>\"5 &lt; 6\" &amp</b>"

/-- Such a message brings in as little as an empty one. -/
theorem message_stays_text_tricky :
    ∃ mail blank, Mail.compose ⟨"Flows", "robot@example.org"⟩ 1 "ann@example.org" trickyMessage = .ok mail ∧
      Mail.compose ⟨"", "ann@example.org"⟩ 2 "robot@example.org" "" = .ok blank ∧
      Markup.tags blank.markup = Markup.tags mail.markup ∧
      ∃ escaped, mail.parts = [⟨"text/plain", trickyMessage⟩,
          ⟨"text/html", markupStart ++ String.ofList escaped ++ markupEnd⟩] ∧
        Markup.unescape escaped = trickyMessage.toList := by
  obtain ⟨mail, hmail⟩ :
      ∃ mail, Mail.compose ⟨"Flows", "robot@example.org"⟩ 1 "ann@example.org" trickyMessage = .ok mail := ⟨_, rfl⟩
  obtain ⟨blank, hblank⟩ :
      ∃ blank, Mail.compose ⟨"", "ann@example.org"⟩ 2 "robot@example.org" "" = .ok blank := ⟨_, rfl⟩
  obtain ⟨⟨escaped, hparts, -, -, hshown⟩, htags⟩ := message_stays_text hmail
  exact ⟨mail, blank, hmail, hblank, htags _ _ _ _ blank hblank, escaped, hparts, hshown⟩

end Dripline
