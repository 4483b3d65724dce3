import Dripline.Text.Case

/-!
# Letter case inside a longer text

What the lower case of a text owes to the characters around it:

* a piece of a text goes to lower case between its neighbours (`lowerAmid`), and the lower case of
  the whole is the pieces put together (`lowerFrom_append`);
* the neighbours are seen at the capital sigma alone, and never change a length
  (`length_lowerAmid`): a piece keeps the lower case it has on its own exactly if none of its
  capital sigmas **turns** from one small form into the other (`lowerAmid_eq_iff`);
* a sigma turns at an end of the piece only: behind, where the piece closes in a final sigma and a
  letter follows (`turns_behind_iff`), and in front, where it opens with a sigma that is final once
  a letter precedes (`turns_front_iff`).
-/

namespace Dripline.Text

/-! ## 1. A piece of a text -/

/-- Whether a capital sigma between two texts is final, the characters in front of it nearest
    first. -/
def endsWord (before after : List Char) : Bool := meetsCased before && !meetsCased after

/-- The lower case of one character between two texts. -/
def lowerAt (before after : List Char) (c : Char) : List Char :=
  if c = 'Σ' then [if endsWord before after then 'ς' else 'σ'] else lowerChar c

/-- The lower case of a piece of a text, with what stands in front of it, the nearest first, and
    behind it. -/
def lowerAmid (before after : List Char) : List Char → List Char
  | [] => []
  | c :: rest => lowerAt before (rest ++ after) c ++ lowerAmid (c :: before) after rest

theorem lowerFrom_cons (before : List Char) (c : Char) (rest : List Char) :
    lowerFrom before (c :: rest) = lowerAt before rest c ++ lowerFrom (c :: before) rest := rfl

@[simp] theorem toList_lower (s : String) : (lower s).toList = lowerFrom [] s.toList := by
  simp [lower]

/-- **The lower case of two texts in a row** is the lower case of each one beside the other. -/
theorem lowerFrom_append (xs : List Char) : ∀ (before ys : List Char),
    lowerFrom before (xs ++ ys) = lowerAmid before ys xs ++ lowerFrom (xs.reverse ++ before) ys := by
  induction xs with
  | nil => intro before ys; rfl
  | cons c rest ih =>
    intro before ys
    rw [List.cons_append, lowerFrom_cons, ih (c :: before) ys, lowerAmid]
    simp

/-- With nothing behind it, a piece is the rest of the text. -/
theorem lowerAmid_nil (before xs : List Char) : lowerAmid before [] xs = lowerFrom before xs := by
  have h := lowerFrom_append xs before []
  rw [List.append_nil] at h
  rw [h, lowerFrom, List.append_nil]

/-- A character takes as much room in lower case wherever it stands. -/
theorem length_lowerAt (before after before' after' : List Char) (c : Char) :
    (lowerAt before after c).length = (lowerAt before' after' c).length := by
  unfold lowerAt
  split <;> rfl

/-- A text takes as much room in lower case wherever it stands. -/
theorem length_lowerAmid (v : List Char) : ∀ (before after before' : List Char),
    (lowerAmid before after v).length = (lowerFrom before' v).length := by
  induction v with
  | nil => intro before after before'; rfl
  | cons c rest ih =>
    intro before after before'
    rw [lowerAmid, lowerFrom_cons, List.length_append, List.length_append,
      ih (c :: before) after (c :: before'), length_lowerAt before (rest ++ after) before' rest c]

/-! ## 2. The sigmas of a piece -/

/-- A capital sigma of `v` takes another small form between `before` and `after` than it takes in
    `v` alone. -/
def Turns (before after v : List Char) : Prop :=
  ∃ xs ys, v = xs ++ 'Σ' :: ys ∧
    endsWord (xs.reverse ++ before) (ys ++ after) ≠ endsWord xs.reverse ys

/-- A text without a capital sigma is the same everywhere. -/
theorem not_turns_of_not_mem {before after v : List Char} (h : 'Σ' ∉ v) :
    ¬ Turns before after v := by
  rintro ⟨xs, ys, rfl, -⟩
  simp at h

/-- One character keeps its lower case exactly if, being a capital sigma, it ends a word in both
    places or in neither. -/
theorem lowerAt_eq_iff (before after before' after' : List Char) (c : Char) :
    lowerAt before after c = lowerAt before' after' c ↔
      (c = 'Σ' → endsWord before after = endsWord before' after') := by
  unfold lowerAt
  split
  · cases endsWord before after <;> cases endsWord before' after' <;> simp_all
  · simp_all

/-- Lower-casing between neighbours against lower-casing without them, where `near` holds what the
    two have read already. -/
theorem lowerAmid_eq_from_iff (before after v : List Char) : ∀ near : List Char,
    lowerAmid (near ++ before) after v = lowerFrom near v ↔
      ∀ xs ys, v = xs ++ 'Σ' :: ys →
        endsWord (xs.reverse ++ (near ++ before)) (ys ++ after) =
          endsWord (xs.reverse ++ near) ys := by
  induction v with
  | nil => intro near; simp [lowerAmid, lowerFrom]
  | cons c rest ih =>
    intro near
    have hlen := length_lowerAt (near ++ before) (rest ++ after) near rest c
    have hparts : lowerAmid (near ++ before) after (c :: rest) = lowerFrom near (c :: rest) ↔
        lowerAt (near ++ before) (rest ++ after) c = lowerAt near rest c ∧
          lowerAmid (c :: near ++ before) after rest = lowerFrom (c :: near) rest :=
      ⟨fun h => List.append_inj h hlen, fun ⟨hc, hrest⟩ => by
        rw [lowerAmid, lowerFrom_cons, hc]; exact congrArg _ hrest⟩
    rw [hparts, lowerAt_eq_iff, ih (c :: near)]
    constructor
    · rintro ⟨hhere, hrest⟩ xs ys hv
      cases xs with
      | nil =>
        obtain ⟨rfl, rfl⟩ : c = 'Σ' ∧ rest = ys := by simpa using hv
        exact hhere rfl
      | cons x xs =>
        obtain ⟨rfl, rfl⟩ : c = x ∧ rest = xs ++ 'Σ' :: ys := by simpa using hv
        simpa using hrest xs ys rfl
    · intro h
      refine ⟨fun hc => ?_, fun xs ys hrest => ?_⟩
      · simpa using h [] rest (by rw [hc]; rfl)
      · simpa using h (c :: xs) ys (by rw [hrest]; rfl)

/-- **A piece keeps the lower case it has on its own exactly if none of its sigmas turns.** -/
theorem lowerAmid_eq_iff (before after v : List Char) :
    lowerAmid before after v = lowerFrom [] v ↔ ¬ Turns before after v := by
  have h := lowerAmid_eq_from_iff before after v []
  simp only [List.nil_append, List.append_nil] at h
  rw [h]
  constructor
  · rintro hsame ⟨xs, ys, hv, hturn⟩
    exact hturn (hsame xs ys hv)
  · intro hturns xs ys hv
    exact Decidable.of_not_not fun hturn => hturns ⟨xs, ys, hv, hturn⟩

/-! ## 3. Where a sigma turns -/

/-- The text closes, but for characters that are passed over, in a sigma with a letter before it. -/
def ClosesInSigma (v : List Char) : Prop :=
  ∃ xs ys, v = xs ++ 'Σ' :: ys ∧ meetsCased xs.reverse = true ∧ ys.all isCaseIgnorable = true

/-- The text opens, but for characters that are passed over, with a sigma and no letter after it. -/
def OpensWithSigma (v : List Char) : Prop :=
  ∃ xs ys, v = xs ++ 'Σ' :: ys ∧ xs.all isCaseIgnorable = true ∧ meetsCased ys = false

/-- The search for a letter goes on behind a text that it passes over. -/
theorem meetsCased_append (xs ys : List Char) :
    meetsCased (xs ++ ys) = if xs.all isCaseIgnorable then meetsCased ys else meetsCased xs := by
  induction xs with
  | nil => rfl
  | cons c cs ih =>
    cases hc : isCaseIgnorable c with
    | true => simpa [meetsCased, List.dropWhile_cons, hc] using ih
    | false => simp [meetsCased, hc]

theorem meetsCased_of_all {xs : List Char} (h : xs.all isCaseIgnorable = true) :
    meetsCased xs = false := by
  have := meetsCased_append xs []
  simpa [h, meetsCased] using this

/-- **Behind a piece**, a letter turns the sigma that closes it, and nothing else does. -/
theorem turns_behind_iff (after v : List Char) :
    Turns [] after v ↔ ClosesInSigma v ∧ meetsCased after = true := by
  constructor
  · rintro ⟨xs, ys, rfl, hturn⟩
    rw [List.append_nil, endsWord, endsWord, meetsCased_append] at hturn
    cases hys : ys.all isCaseIgnorable with
    | false => simp [hys] at hturn
    | true =>
      simp only [hys, if_true, meetsCased_of_all hys] at hturn
      cases hxs : meetsCased xs.reverse <;> cases hafter : meetsCased after <;>
        simp [hxs, hafter] at hturn
      exact ⟨⟨xs, ys, rfl, hxs, hys⟩, rfl⟩
  · rintro ⟨⟨xs, ys, rfl, hxs, hys⟩, hafter⟩
    refine ⟨xs, ys, rfl, ?_⟩
    simp [endsWord, meetsCased_append ys, hys, hxs, hafter, meetsCased_of_all hys]

/-- **In front of a piece**, a letter turns the sigma that opens it, and nothing else does. -/
theorem turns_front_iff (before v : List Char) :
    Turns before [] v ↔ OpensWithSigma v ∧ meetsCased before = true := by
  constructor
  · rintro ⟨xs, ys, rfl, hturn⟩
    rw [List.append_nil, endsWord, endsWord, meetsCased_append, List.all_reverse] at hturn
    cases hxs : xs.all isCaseIgnorable with
    | false => simp [hxs] at hturn
    | true =>
      have hnone : meetsCased xs.reverse = false := meetsCased_of_all (by rwa [List.all_reverse])
      simp only [hxs, if_true, hnone] at hturn
      cases hys : meetsCased ys <;> cases hbefore : meetsCased before <;>
        simp [hys, hbefore] at hturn
      exact ⟨⟨xs, ys, rfl, hxs, hys⟩, rfl⟩
  · rintro ⟨⟨xs, ys, rfl, hxs, hys⟩, hbefore⟩
    have hnone : meetsCased xs.reverse = false := meetsCased_of_all (by rwa [List.all_reverse])
    refine ⟨xs, ys, rfl, ?_⟩
    simp [endsWord, meetsCased_append, hxs, hys, hnone, hbefore]

end Dripline.Text
