import Dripline.Delivery.Mail
import Dripline.Text.Blank
import Dripline.Text.Quoted

/-!
# Headers as they are written

A mail is written down when it is handed over. A header value with line breaks goes on in further lines,
and a line that goes on must begin with a blank, since it would be taken for something else otherwise:

* `Header.fold`: the lines of a value as they are written. Lines of nothing but blanks are no lines of
  their own;
* `Header.fault?`, `Mail.fault?`: why a header, or a mail, cannot be written. A value that is not ASCII is
  encoded, and always can;
* `Mail.broken_of_fault?`: a mail that cannot be written has a header with a line break.
-/

namespace Dripline

namespace Header

/-- The characters that end a line of an ASCII text. -/
def isLineEnd (c : Char) : Bool :=
  (0x0A ≤ c.toNat && c.toNat ≤ 0x0D) || (0x1C ≤ c.toNat && c.toNat ≤ 0x1E)

/-- The blanks with which a line can begin that goes on. -/
def isMargin (c : Char) : Bool := c == ' ' || c == '\t'

/-- A line without the space at its end, when it ends in a single one. -/
def trimLine (line : List Char) : List Char :=
  match line.reverse with
  | ' ' :: rest => if rest.head?.any isMargin then line else rest.reverse
  | _ => line

/-- A line and those that follow it, as they are written. -/
def foldFrom (line : List Char) : List (List Char) → List (List Char)
  | [] => [line]
  | next :: rest =>
    if (trimLine next).all Text.isBlank then foldFrom (line ++ trimLine next) rest
    else line :: foldFrom (trimLine next) rest

/-- The lines of a value as they are written. -/
def fold (value : List Char) : List (List Char) :=
  match value.splitOnP isLineEnd with
  | [] => [[]]
  | [line] => [line]
  | line :: rest => foldFrom (trimLine line) rest

/-- Whether a line can go on from the one before. -/
def goesOn (line : List Char) : Bool := line.head?.any isMargin

/-- Whether a line, in one piece up to a colon, reads like a header of its own. -/
def hasInner : List Char → Bool
  | [] => false
  | c :: cs =>
    c == '\n' && ((cs.takeWhile fun c => !isMargin c).drop 1).contains ':' || hasInner cs

theorem hasInner_of_unbroken {cs : List Char} (h : ∀ c ∈ cs, isLineEnd c = false) : hasInner cs = false := by
  induction cs with
  | nil => rfl
  | cons c cs ih =>
    rw [List.forall_mem_cons] at h
    have hc : (c == '\n') = false := beq_eq_false_iff_ne.mpr fun hc => by
      rw [hc] at h
      exact absurd h.1 (by decide)
    unfold hasInner
    rw [hc, ih h.2]
    rfl

theorem fold_of_unbroken {cs : List Char} (h : ∀ c ∈ cs, isLineEnd c = false) : fold cs = [cs] := by
  unfold fold
  rw [List.splitOnP_eq_singleton h]

end Header

/-- Why a header cannot be written. -/
inductive HeaderFault where
  /-- A line of the value reads like a header of its own. -/
  | inner (value : String)
  /-- The value goes on in a line that does not begin with a blank. -/
  | brokenLine (header : String)
deriving DecidableEq, Repr

namespace HeaderFault

/-- The name of the fault in reports. -/
def label : HeaderFault → String
  | .inner _ => "HeaderParseError"
  | .brokenLine _ => "HeaderWriteError"

/-- The wording of the fault. -/
def message : HeaderFault → String
  | .inner value => "header value appears to contain an embedded header: " ++ Text.quoted value
  | .brokenLine header => "folded header contains newline: " ++ Text.quoted header

end HeaderFault

/-- Why a header with a name cannot have a value. -/
def Header.fault? (name value : String) : Option HeaderFault :=
  if !isAscii value.toList then none
  else
    let lines := fold value.toList
    let written := "\n".intercalate (lines.map String.ofList)
    if hasInner written.toList then some (.inner written)
    else if lines.tail.all goesOn then none
    else some (.brokenLine (name ++ ": " ++ written ++ "\n"))

/-- The headers of a mail with their names, in the order in which they are written. -/
def Mail.headers (m : Mail) : List (String × String) :=
  [("Subject", m.subject), ("From", m.sender), ("To", m.recipient), ("Message-ID", m.id)]

/-- Why a mail cannot be written: the first of its headers that cannot. -/
def Mail.fault? (m : Mail) : Option HeaderFault :=
  m.headers.findSome? fun h => Header.fault? h.1 h.2

/-- A value in one line can be written. -/
theorem Header.fault?_of_unbroken {name value : String} (h : ∀ c ∈ value.toList, isLineEnd c = false) :
    fault? name value = none := by
  unfold fault?
  rw [fold_of_unbroken h]
  have hwritten : "\n".intercalate ([value.toList].map String.ofList) = value := by
    rw [List.map_singleton, String.intercalate_singleton, String.ofList_toList]
  simp only [hwritten, hasInner_of_unbroken h, List.tail_cons, List.all_nil, if_true, Bool.false_eq_true,
    if_false, ite_self]

/-- A mail that cannot be written has a header with a line break. -/
theorem Mail.broken_of_fault? {m : Mail} (h : m.fault? ≠ none) :
    ∃ header ∈ m.headers, ∃ c ∈ header.2.toList, Header.isLineEnd c = true := by
  obtain ⟨fault, hfault⟩ := Option.ne_none_iff_exists'.mp h
  obtain ⟨header, hheader, hsome⟩ := List.exists_of_findSome?_eq_some hfault
  refine ⟨header, hheader, Classical.byContradiction fun hunbroken => ?_⟩
  have hnone : Header.fault? header.1 header.2 = none :=
    Header.fault?_of_unbroken fun c hc => Bool.eq_false_iff.mpr fun hend => hunbroken ⟨c, hc, hend⟩
  cases hnone.symm.trans hsome

end Dripline
