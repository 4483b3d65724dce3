import Dripline.Flow.Condition
import Dripline.Proofs.Text.Case

/-!
# Literal matches of a rule

A rule compares whole texts in lower case. What becomes of a match that is there as written:

* a subject that **equals** the value always matches;
* the value at the **start** or at the **end** of the subject matches unless one capital sigma of
  it takes another form there than in the value alone, which is told exactly
  (`Rule.literal_matches_kept`): `ΝΙΚΟΣ` does not start `ΝΙΚΟΣ.Α@MAIL.ΕΛΛΑΣ`, since its sigma is
  final in the value and not in the subject;
* the value **inside** the subject matches as soon as it stands there once with no such sigma.
-/

namespace Dripline

open Text (lowerFrom lowerAmid Turns ClosesInSigma OpensWithSigma meetsCased)

/-! ## 1. The comparisons -/

namespace Operator

/-- A value is included exactly if it stands somewhere in the subject. -/
theorem occursIn_iff (needle : List Char) : ∀ cs : List Char,
    occursIn needle cs = true ↔ needle <:+: cs
  | [] => by simp [occursIn]
  | c :: cs => by
    rw [occursIn, Bool.or_eq_true, List.isPrefixOf_iff_prefix, occursIn_iff needle cs,
      List.infix_cons_iff]

/-- A piece in front of a text is a prefix of it in another spelling only if it is spelled the
    same. -/
theorem isPrefixOf_append_iff {v piece : List Char} (hlen : v.length = piece.length)
    (rest : List Char) : v.isPrefixOf (piece ++ rest) = true ↔ piece = v := by
  rw [List.isPrefixOf_iff_prefix]
  constructor
  · rintro ⟨tail, h⟩
    exact (List.append_inj h hlen).1.symm
  · rintro rfl
    exact List.prefix_append piece rest

/-- The same of a piece that ends a text. -/
theorem isSuffixOf_append_iff {v piece : List Char} (hlen : v.length = piece.length)
    (front : List Char) : v.isSuffixOf (front ++ piece) = true ↔ piece = v := by
  rw [List.isSuffixOf_iff_suffix]
  constructor
  · rintro ⟨head, h⟩
    exact (List.append_inj' h hlen).2.symm
  · rintro rfl
    exact List.suffix_append front piece

/-- A value in front of `rest` starts the whole in lower case unless a letter of `rest` turns the
    sigma that closes it. -/
theorem startsWith_iff (v rest : List Char) :
    startsWith.holds (lowerFrom [] (v ++ rest)) (lowerFrom [] v) = true ↔
      ¬ (ClosesInSigma v ∧ meetsCased rest = true) := by
  rw [holds, Text.lowerFrom_append,
    isPrefixOf_append_iff (Text.length_lowerAmid v [] rest []).symm, Text.lowerAmid_eq_iff,
    Text.turns_behind_iff]

/-- A value behind `front` ends the whole in lower case unless a letter of `front` turns the sigma
    that opens it. -/
theorem endsWith_iff (front v : List Char) :
    endsWith.holds (lowerFrom [] (front ++ v)) (lowerFrom [] v) = true ↔
      ¬ (OpensWithSigma v ∧ meetsCased front.reverse = true) := by
  rw [holds, Text.lowerFrom_append, List.append_nil, ← Text.lowerAmid_nil front.reverse v,
    isSuffixOf_append_iff (Text.length_lowerAmid v front.reverse [] []).symm,
    Text.lowerAmid_eq_iff, Text.turns_front_iff]

/-- A value between two texts is included in lower case if no sigma of it turns there. -/
theorem includes_of_not_turns {front v rest : List Char} (h : ¬ Turns front.reverse rest v) :
    includes.holds (lowerFrom [] (front ++ v ++ rest)) (lowerFrom [] v) = true := by
  rw [holds, occursIn_iff, List.append_assoc, Text.lowerFrom_append, Text.lowerFrom_append,
    List.append_nil, (Text.lowerAmid_eq_iff front.reverse rest v).2 h, ← List.append_assoc]
  exact List.infix_append _ _ _

end Operator

/-! ## 2. The rule -/

namespace Rule

/-- What a rule looks for, a missing value being the empty text. -/
def wanted (r : Rule) : List Char := (r.value.getD "").toList

/-- A rule with a known operator compares the two texts in lower case. -/
theorem matchesSubject_of_ofText (op : Operator) {r : Rule} {name : String}
    (hname : r.operator = some name) (hop : Operator.ofText? name = some op) (subject : String) :
    r.matchesSubject subject = op.holds (lowerFrom [] subject.toList) (lowerFrom [] r.wanted) := by
  rw [matchesSubject, hname, Option.getD_some, hop]
  simp only [Text.toList_lower]
  rfl

/-- **What a rule makes of a literal match**, for every subject and every value: equality is always
    kept; a start and an end are kept unless the sigma at the end that meets the rest of the
    subject turns, exactly; a match inside is kept where no sigma turns. -/
theorem literal_matches_kept (r : Rule) (subject : String) :
    (r.operator = some "equals" → subject.toList = r.wanted → r.matchesSubject subject = true) ∧
    (r.operator = some "not_equals" → subject.toList = r.wanted →
      r.matchesSubject subject = false) ∧
    (r.operator = some "starts_with" → ∀ rest, subject.toList = r.wanted ++ rest →
      (r.matchesSubject subject = true ↔ ¬ (ClosesInSigma r.wanted ∧ meetsCased rest = true))) ∧
    (r.operator = some "ends_with" → ∀ front, subject.toList = front ++ r.wanted →
      (r.matchesSubject subject = true ↔
        ¬ (OpensWithSigma r.wanted ∧ meetsCased front.reverse = true))) ∧
    (r.operator = some "includes" → ∀ front rest, subject.toList = front ++ r.wanted ++ rest →
      ¬ Turns front.reverse rest r.wanted → r.matchesSubject subject = true) := by
  refine ⟨fun hop hsame => ?equals, fun hop hsame => ?differs, fun hop rest hstart => ?starts,
    fun hop front hend => ?ends, fun hop front rest hinside hstays => ?inside⟩
  case equals =>
    rw [matchesSubject_of_ofText .equals hop (by decide), hsame]
    exact beq_self_eq_true _
  case differs =>
    rw [matchesSubject_of_ofText .notEquals hop (by decide), hsame]
    exact bne_self_eq_false _
  case starts =>
    rw [matchesSubject_of_ofText .startsWith hop (by decide), hstart]
    exact Operator.startsWith_iff r.wanted rest
  case ends =>
    rw [matchesSubject_of_ofText .endsWith hop (by decide), hend]
    exact Operator.endsWith_iff front r.wanted
  case inside =>
    rw [matchesSubject_of_ofText .includes hop (by decide), hinside]
    exact Operator.includes_of_not_turns hstays

/-- A rule about an address. -/
def on (operator value : String) : Rule := ⟨some operator, some value, "email"⟩

/-- An address in Greek capitals, with a final sigma before the dot that a letter follows. -/
def nikos : String := "ΝΙΚΟΣ.Α@MAIL.ΕΛΛΑΣ"

theorem literal_matches_kept_nikos :
    (on "equals" nikos).matchesSubject nikos = true ∧
    (on "not_equals" nikos).matchesSubject nikos = false ∧
    (on "starts_with" "ΝΙΚΟ").matchesSubject nikos = true ∧
    ¬ (on "starts_with" "ΝΙΚΟΣ").matchesSubject nikos = true ∧
    ¬ (on "ends_with" "Σ").matchesSubject nikos = true ∧
    (on "includes" "MAIL").matchesSubject nikos = true := by
  refine ⟨(literal_matches_kept (on "equals" nikos) nikos).1 rfl rfl,
    (literal_matches_kept (on "not_equals" nikos) nikos).2.1 rfl rfl,
    ((literal_matches_kept (on "starts_with" "ΝΙΚΟ") nikos).2.2.1 rfl "Σ.Α@MAIL.ΕΛΛΑΣ".toList
      (by decide)).2 ?kept,
    fun h => ((literal_matches_kept (on "starts_with" "ΝΙΚΟΣ") nikos).2.2.1 rfl
      ".Α@MAIL.ΕΛΛΑΣ".toList (by decide)).1 h ?closes,
    fun h => ((literal_matches_kept (on "ends_with" "Σ") nikos).2.2.2.1 rfl
      "ΝΙΚΟΣ.Α@MAIL.ΕΛΛΑ".toList (by decide)).1 h ?opens,
    (literal_matches_kept (on "includes" "MAIL") nikos).2.2.2.2 rfl "ΝΙΚΟΣ.Α@".toList
      ".ΕΛΛΑΣ".toList (by decide) (Text.not_turns_of_not_mem (by decide))⟩
  case kept =>
    rintro ⟨⟨xs, ys, h, -⟩, -⟩
    have hsigma : 'Σ' ∈ (on "starts_with" "ΝΙΚΟ").wanted := by rw [h]; simp
    exact absurd hsigma (by decide)
  case closes =>
    exact ⟨⟨"ΝΙΚΟ".toList, [], by decide, by decide +kernel, rfl⟩, by decide +kernel⟩
  case opens =>
    exact ⟨⟨[], [], by decide, rfl, rfl⟩, by decide +kernel⟩

/-- **A literal match is lost** at the start, inside and at the end of an address: its sigmas are
    not the ones that the values have. -/
theorem literal_matches_lost :
    ((on "starts_with" "ΝΙΚΟΣ").wanted <+: nikos.toList ∧
      (on "starts_with" "ΝΙΚΟΣ").matchesSubject nikos = false) ∧
    ((on "includes" "ΝΙΚΟΣ").wanted <:+: nikos.toList ∧
      (on "includes" "ΝΙΚΟΣ").matchesSubject nikos = false) ∧
    ((on "ends_with" "Σ").wanted <:+ nikos.toList ∧
      (on "ends_with" "Σ").matchesSubject nikos = false) := by
  decide +kernel

end Rule

end Dripline
