import Dripline.Address
import Dripline.Proofs.Text.Blank

/-!
# What an address is

The pattern of addresses is tried from the left, a run of characters giving back what it took too much of.
What it comes to can be said without it:

* `Pattern.Fits`: what a pattern says about a text; `accepts_iff`: trying finds it, whichever way the runs
  divide the text;
* `Address.HasForm`: no blank, one `@` with something before it, and a point inside the part after it;
* `fits_of_hasForm`, `hasForm_of_fits`: the pattern says the same of a text that does not end in a blank. A
  line feed at the end is what the pattern would let pass;
* **`clean_iff_hasForm`**: the addresses that are accepted, and what becomes of all other texts.
-/

namespace Dripline

namespace Text

/-! ## 1. Patterns -/

/-- What a pattern says about a text. -/
inductive Pattern.Fits : Pattern → List Char → Prop
  | done (cs : List Char) : Fits [] cs
  | one {p : Char → Bool} {c : Char} {pieces : Pattern} {cs : List Char} (hc : p c = true)
      (hrest : Fits pieces cs) : Fits (.one p :: pieces) (c :: cs)
  | run {p : Char → Bool} {front : List Char} {pieces : Pattern} {cs : List Char} (hne : front ≠ [])
      (hfront : ∀ c ∈ front, p c = true) (hrest : Fits pieces cs) : Fits (.run p :: pieces) (front ++ cs)
  | finish {pieces : Pattern} {cs : List Char} (hend : cs = [] ∨ cs = ['\n']) (hrest : Fits pieces cs) :
      Fits (.finish :: pieces) cs

/-- **A run is found** wherever it may end. -/
theorem runThen_iff (p : Char → Bool) (next : List Char → Bool) (cs : List Char) :
    Piece.runThen p next cs = true ↔
      ∃ front rest, cs = front ++ rest ∧ front ≠ [] ∧ (∀ c ∈ front, p c = true) ∧ next rest = true := by
  induction cs with
  | nil =>
    refine ⟨fun h => (nomatch h), ?_⟩
    rintro ⟨front, rest, hcs, hne, -⟩
    exact absurd (List.append_eq_nil_iff.mp hcs.symm).1 hne
  | cons c cs ih =>
    unfold Piece.runThen
    rw [Bool.and_eq_true, Bool.or_eq_true, ih]
    constructor
    · rintro ⟨hc, ⟨front, rest, rfl, -, hfront, hnext⟩ | hnext⟩
      · exact ⟨c :: front, rest, rfl, List.cons_ne_nil _ _, List.forall_mem_cons.mpr ⟨hc, hfront⟩, hnext⟩
      · exact ⟨[c], cs, rfl, List.cons_ne_nil _ _, List.forall_mem_singleton.mpr hc, hnext⟩
    · rintro ⟨front, rest, hcs, hne, hfront, hnext⟩
      obtain ⟨d, front, rfl⟩ := List.exists_cons_of_ne_nil hne
      obtain ⟨rfl, rfl⟩ := List.cons.inj hcs
      obtain ⟨hc, hfront⟩ := List.forall_mem_cons.mp hfront
      refine ⟨hc, ?_⟩
      by_cases hempty : front = []
      · rw [hempty]
        exact .inr hnext
      · exact .inl ⟨front, rest, rfl, hempty, hfront, hnext⟩

/-- **Trying the pieces finds what the pattern says.** -/
theorem Pattern.accepts_iff (pattern : Pattern) (cs : List Char) :
    pattern.accepts cs = true ↔ pattern.Fits cs := by
  induction pattern generalizing cs with
  | nil => exact ⟨fun _ => .done cs, fun _ => rfl⟩
  | cons piece pieces ih =>
    show piece.andThen (Pattern.accepts pieces) cs = true ↔ _
    cases piece with
    | one p =>
      cases cs with
      | nil => exact ⟨fun h => (nomatch h), fun h => (nomatch h)⟩
      | cons c cs =>
        show (p c && Pattern.accepts pieces cs) = true ↔ _
        rw [Bool.and_eq_true, ih]
        refine ⟨fun ⟨hc, hrest⟩ => .one hc hrest, fun h => ?_⟩
        cases h with
        | one hc hrest => exact ⟨hc, hrest⟩
    | run p =>
      refine (runThen_iff p (Pattern.accepts pieces) cs).trans ⟨?_, fun h => ?_⟩
      · rintro ⟨front, rest, rfl, hne, hfront, hnext⟩
        exact .run hne hfront ((ih rest).mp hnext)
      · cases h with
        | run hne hfront hrest => exact ⟨_, _, rfl, hne, hfront, (ih _).mpr hrest⟩
    | finish =>
      show ((cs == [] || cs == ['\n']) && Pattern.accepts pieces cs) = true ↔ _
      rw [Bool.and_eq_true, Bool.or_eq_true, beq_iff_eq, beq_iff_eq, ih]
      refine ⟨fun ⟨hend, hrest⟩ => .finish hend hrest, fun h => ?_⟩
      cases h with
      | finish hend hrest => exact ⟨hend, hrest⟩

end Text

/-! ## 2. Addresses -/

namespace Address

open Text (isBlank strip Pattern.Fits)

/-- **The form of an address.** -/
structure HasForm (t : String) : Prop where
  unbroken : ∀ c ∈ t.toList, isBlank c = false
  once : t.toList.count '@' = 1
  /-- Something stands before the `@`, and a point inside the part after it. -/
  divided : ∃ name domain, t.toList = name ++ '@' :: domain ∧ name ≠ [] ∧
    ∃ i, 0 < i ∧ i + 1 < domain.length ∧ domain[i]? = some '.'

theorem isPlain_iff (c : Char) : isPlain c = true ↔ isBlank c = false ∧ c ≠ '@' := by
  unfold isPlain
  rw [Bool.and_eq_true, Bool.not_eq_true', bne_iff_ne]

theorem fits_of_hasForm {t : String} (h : HasForm t) : pattern.Fits t.toList := by
  obtain ⟨name, domain, ht, hname, i, hpos, hi, hpoint⟩ := h.divided
  have hcount := h.once
  rw [ht, List.count_append, List.count_cons_self] at hcount
  have hplain {cs : List Char} (hsub : ∀ c ∈ cs, c ∈ t.toList) (hnone : cs.count '@' = 0) :
      ∀ c ∈ cs, isPlain c = true := fun c hc =>
    (isPlain_iff c).mpr ⟨h.unbroken c (hsub c hc), fun hat => List.count_eq_zero.mp hnone (hat ▸ hc)⟩
  have hdomain : ∀ c ∈ domain, isPlain c = true :=
    hplain (fun c hc => ht ▸ List.mem_append_right _ (List.mem_cons_of_mem _ hc)) (by omega)
  -- the point divides the domain into two runs
  have hdivided : domain = domain.take i ++ '.' :: domain.drop (i + 1) := by
    obtain ⟨hlt, hget⟩ := List.getElem?_eq_some_iff.mp hpoint
    rw [← hget, List.getElem_cons_drop, List.take_append_drop]
  have hfirst : domain.take i ≠ [] := List.ne_nil_of_length_pos (by rw [List.length_take]; omega)
  have hlast : domain.drop (i + 1) ≠ [] := List.ne_nil_of_length_pos (by rw [List.length_drop]; omega)
  have hends : Pattern.Fits [.run isPlain, .finish] (domain.drop (i + 1) ++ []) :=
    .run hlast (fun c hc => hdomain c (List.mem_of_mem_drop hc)) (.finish (.inl rfl) (.done []))
  rw [List.append_nil] at hends
  rw [ht, hdivided]
  exact .run hname (hplain (fun c hc => ht ▸ List.mem_append_left _ hc) (by omega))
    (.one (beq_self_eq_true '@')
      (.run hfirst (fun c hc => hdomain c (List.mem_of_mem_take hc)) (.one (beq_self_eq_true '.') hends)))

theorem hasForm_of_fits {t : String} (hlast : ∀ c, t.toList.getLast? = some c → isBlank c = false)
    (h : pattern.Fits t.toList) : HasForm t := by
  obtain ⟨name, first, last, rest, ht, hname, hfirst, hlast', hplain, hrest⟩ :
      ∃ name first last rest, t.toList = name ++ '@' :: (first ++ '.' :: (last ++ rest)) ∧
        name ≠ [] ∧ first ≠ [] ∧ last ≠ [] ∧ (∀ c ∈ name ++ first ++ last, isPlain c = true) ∧
        (rest = [] ∨ rest = ['\n']) := by
    generalize t.toList = cs at h
    cases h with
    | run hname hplain h =>
      cases h with
      | one hat h =>
        cases h with
        | run hfirst hplain' h =>
          cases h with
          | one hpoint h =>
            cases h with
            | run hlast hplain'' h =>
              cases h with
              | finish hend h =>
                cases beq_iff_eq.mp hat
                cases beq_iff_eq.mp hpoint
                exact ⟨_, _, _, _, rfl, hname, hfirst, hlast, List.forall_mem_append.mpr
                  ⟨List.forall_mem_append.mpr ⟨hplain, hplain'⟩, hplain''⟩, hend⟩
  rcases hrest with rfl | rfl
  · rw [List.append_nil] at ht
    have hfree {c : Char} (hc : c ∈ name ++ first ++ last) : isBlank c = false ∧ c ≠ '@' :=
      (isPlain_iff c).mp (hplain c hc)
    refine ⟨fun c hc => ?_, ?_, name, first ++ '.' :: last, ht, hname, first.length, ?_, ?_, ?_⟩
    · rw [ht, List.mem_append, List.mem_cons, List.mem_append, List.mem_cons] at hc
      rcases hc with hc | rfl | hc | rfl | hc
      · exact (hfree (List.mem_append_left _ (List.mem_append_left _ hc))).1
      · decide
      · exact (hfree (List.mem_append_left _ (List.mem_append_right _ hc))).1
      · decide
      · exact (hfree (List.mem_append_right _ hc)).1
    · have hnone : (name ++ first ++ last).count '@' = 0 :=
        List.count_eq_zero.mpr fun hat => (hfree hat).2 rfl
      rw [List.count_append, List.count_append] at hnone
      rw [ht, List.count_append, List.count_cons_self, List.count_append, List.count_cons_of_ne (by decide)]
      omega
    · exact List.length_pos_of_ne_nil hfirst
    · rw [List.length_append, List.length_cons]
      have := List.length_pos_of_ne_nil hlast'
      omega
    · rw [List.getElem?_append_right (Nat.le_refl _), Nat.sub_self]
      rfl
  · -- the pattern passes over a line feed at the end, which is a blank
    have hfeed : t.toList.getLast? = some '\n' := by
      rw [ht, ← List.cons_append, ← List.append_assoc, ← List.cons_append, ← List.append_assoc,
        List.getLast?_concat]
    exact absurd (hlast '\n' hfeed) (by decide)

theorem not_hasForm_empty : ¬HasForm "" := fun h => by
  have := h.once
  cases this

section

variable {subject : Option String} {t : String} (ht : strip (subject.getD "") = t)

include ht

theorem isAddress_iff : isAddress t.toList = true ↔ HasForm t := by
  have hlast : ∀ c, t.toList.getLast? = some c → isBlank c = false := fun c => ht ▸ Text.isBlank_of_getLast?
  exact (Text.Pattern.accepts_iff pattern t.toList).trans ⟨hasForm_of_fits hlast, fits_of_hasForm⟩

theorem clean_of_hasForm (h : HasForm t) : clean subject = .ok t := by
  have hne : t ≠ "" := fun hempty => not_hasForm_empty (hempty ▸ h)
  unfold clean
  dsimp only
  rw [ht, if_neg hne, if_pos ((isAddress_iff ht).mpr h)]

theorem clean_of_not_hasForm (h : ¬HasForm t) :
    clean subject = .error (if t = "" then .noSubject else .badSubject t) := by
  unfold clean
  dsimp only
  rw [ht]
  split
  · rfl
  · rw [if_neg (mt (isAddress_iff ht).mp h)]

end

/-- The text without the blanks at its ends. -/
def bare (subject : Option String) : String := strip (subject.getD "")

/-- **The addresses that are accepted** are the texts that have the form of one when the blanks at their ends
    are taken away. All other texts are refused, with what is left of them. The blanks that no address holds
    are those that are taken away. -/
theorem clean_iff_hasForm (subject : Option String) :
    (∀ a, clean subject = .ok a ↔ HasForm (bare subject) ∧ a = bare subject) ∧
      (HasForm (bare subject) → clean (some (bare subject)) = .ok (bare subject)) ∧
      (¬HasForm (bare subject) → ∃ fault, clean subject = .error fault ∧ fault.label = "InvalidSubjectError" ∧
        fault.message =
          if bare subject = "" then "Email is required" else "Invalid email format: " ++ bare subject) ∧
      ∀ c, isPlain c = false ↔ c = '@' ∨ strip (String.singleton c) = "" := by
  have ht : strip (subject.getD "") = bare subject := rfl
  refine ⟨fun a => ⟨fun ha => ?_, fun h => ?_⟩, clean_of_hasForm (Text.strip_strip _), fun h => ?_, fun c => ?_⟩
  · by_cases h : HasForm (bare subject)
    · exact ⟨h, Except.ok.inj (ha.symm.trans (clean_of_hasForm ht h))⟩
    · cases ha.symm.trans (clean_of_not_hasForm ht h)
  · rw [h.2]
    exact clean_of_hasForm ht h.1
  · refine ⟨_, clean_of_not_hasForm ht h, ?_⟩
    split
    · exact ⟨rfl, rfl⟩
    · exact ⟨rfl, rfl⟩
  · rw [Text.strip_singleton_iff, ← Bool.not_eq_true, isPlain_iff, not_and_or, not_not, Bool.not_eq_false]
    exact Or.comm

/-- An address with a point too many and blanks around it, two of them no spaces. -/
example : clean (some "\u2003 ann@mail..example.org\n") = .ok "ann@mail..example.org" := by decide +kernel

end Address

end Dripline
