import Dripline.Document.Automation
import Dripline.Proofs.Time.Stamp

/-!
# Fields read back

What a mapping with texts as keys gives when it is read field by field:

* `entry?_fields`: the entry under a name is what is looked up under it, and `lookup_fieldIf` looks up
  a field that is left out when it is not set;
* `required_fields`, `withDefault_fields`, `withDefault_optional`, `eitherName_fields`: each reader of
  a field on such a mapping;
* `items_map`: a list of written items is read item by item;
* **`moment_render`**: a moment is read back from its text, which is not taken for a number.

A reader of two names finds the first one, since documents are written with the first name only.
-/

namespace Dripline

/-! ## 1. Mappings with texts as keys -/

namespace Value

/-- Entries with texts as keys. -/
def fields (entries : List (String × Value)) : List (Value × Value) :=
  entries.map fun (k, v) => (.text k, v)

theorem object_eq_map (entries : List (String × Value)) : object entries = .map (fields entries) := rfl

theorem entry?_fields (name : String) (entries : List (String × Value)) :
    entry? name (fields entries) = entries.lookup name := by
  induction entries with
  | nil => rfl
  | cons e entries ih =>
    obtain ⟨k, v⟩ := e
    show (if k = name then some v else entry? name (fields entries)) = _
    rw [List.lookup_cons, ih]
    by_cases h : k = name
    · rw [if_pos h, beq_iff_eq.mpr h.symm]
    · rw [if_neg h, beq_eq_false_iff_ne.mpr (Ne.symm h)]

end Value

theorem lookup_fieldIf (name key : String) (v : Option Value) :
    (fieldIf key v).lookup name = if name = key then v else none := by
  cases v with
  | none => exact (ite_self _).symm
  | some v =>
    show [(key, v)].lookup name = _
    rw [List.lookup_cons]
    by_cases h : name = key
    · rw [if_pos h, beq_iff_eq.mpr h]
    · rw [if_neg h, beq_eq_false_iff_ne.mpr h]
      rfl

namespace Shaped

variable {α β : Type}

@[simp] theorem map_fits (f : α → β) (a : α) : (f <$> Shaped.fits a) = .fits (f a) := rfl

@[simp] theorem fits_seq (f : α → β) (a : α) : (Shaped.fits f <*> Shaped.fits a) = .fits (f a) := rfl

theorem map_eq_fits {f : α → β} {x : Shaped α} {b : β} (h : f <$> x = .fits b) :
    ∃ a, x = .fits a ∧ f a = b := by
  cases x with
  | misfits issues => cases h
  | fits a =>
    cases h
    exact ⟨a, rfl, rfl⟩

theorem seq_eq_fits {f : Shaped (α → β)} {x : Shaped α} {b : β} (h : f <*> x = .fits b) :
    ∃ g a, f = .fits g ∧ x = .fits a ∧ g a = b := by
  cases f with
  | misfits issues => cases x <;> cases h
  | fits g =>
    cases x with
    | misfits issues => cases h
    | fits a =>
      cases h
      exact ⟨g, a, rfl, rfl, rfl⟩

theorem within_eq_fits {p : Shape.Place} {x : Shaped α} {a : α} (h : x.within p = .fits a) : x = .fits a := by
  cases x with
  | misfits issues => cases h
  | fits a' => exact h

end Shaped

namespace Shape

open Value (fields)

variable {α β : Type} {name : String} {entries : List (String × Value)} {v : Value} {a : α}
  {read : Value → Shaped α}

/-! ## 2. Fields -/

theorem required_fields (hfield : entries.lookup name = some v) (hread : read v = .fits a) :
    required name read (fields entries) = .fits a := by
  unfold required
  rw [Value.entry?_fields, hfield]
  show (read v).within (.key name) = _
  rw [hread]
  rfl

theorem withDefault_fields {default : α} (hfield : entries.lookup name = some v)
    (hread : read v = .fits a) : withDefault name read default (fields entries) = .fits a := by
  unfold withDefault
  rw [Value.entry?_fields, hfield]
  show (read v).within (.key name) = _
  rw [hread]
  rfl

theorem withDefault_absent {default : α} (hfield : entries.lookup name = none) :
    withDefault name read default (fields entries) = .fits default := by
  unfold withDefault
  rw [Value.entry?_fields, hfield]

theorem optional_of_ne_null (h : v ≠ .null) : optional read v = (read v).map some := by
  cases v with
  | null => exact absurd rfl h
  | _ => rfl

theorem optional_ofText? (s : Option String) : optional text (.ofText? s) = .fits s := by
  cases s <;> rfl

/-- **A field that is left out when it is not set** is read as what was set. -/
theorem withDefault_optional (write : α → Value) {o : Option α}
    (hfield : entries.lookup name = o.map write) (hset : ∀ a, write a ≠ .null)
    (hread : ∀ a, read (write a) = .fits a) :
    withDefault name (optional read) none (fields entries) = .fits o := by
  cases o with
  | none => exact withDefault_absent hfield
  | some a =>
    refine withDefault_fields hfield ?_
    rw [optional_of_ne_null (hset a), hread]
    rfl

/-- A field of two names is read under the first one where the second one is absent. -/
theorem eitherName_fields {second : String} {default : α} (hsecond : entries.lookup second = none) :
    eitherName name second read default (fields entries) =
      withDefault name read default (fields entries) := by
  unfold eitherName
  rw [withDefault_absent hsecond]
  rfl

theorem onlyFields_fields {names : List String} (h : ∀ e ∈ entries, e.1 ∈ names) :
    onlyFields names (fields entries) = .fits () := by
  unfold onlyFields fields
  refine if_pos (List.isEmpty_iff.mpr (List.filterMap_eq_nil_iff.mpr fun entry hentry => ?_))
  obtain ⟨e, he, rfl⟩ := List.mem_map.mp hentry
  exact if_pos (h e he)

/-! ## 3. Lists -/

theorem items_map (write : β → Value) (made : β → α) (bs : List β)
    (h : ∀ b ∈ bs, read (write b) = .fits (made b)) (n : Nat) :
    items read n (bs.map write) = .fits (bs.map made) := by
  induction bs generalizing n with
  | nil => rfl
  | cons b bs ih =>
    obtain ⟨hb, hbs⟩ := List.forall_mem_cons.mp h
    show List.cons <$> (read (write b)).within (.index n) <*> items read (n + 1) (bs.map write) = _
    rw [hb, ih hbs]
    rfl

theorem listOf_map (write : β → Value) (made : β → α) (bs : List β)
    (h : ∀ b ∈ bs, read (write b) = .fits (made b)) :
    listOf read (.list (bs.map write)) = .fits (bs.map made) :=
  items_map write made bs h 0

/-! ## 4. Moments -/

open Text in
/-- A text that begins with a digit has no sign in front. -/
theorem takeSign_of_isDigit {c : Char} (h : isDigit c = true) (cs : List Char) :
    Double.takeSign (c :: cs) = (false, c :: cs) := by
  unfold Double.takeSign
  split
  · rename_i heq
    cases heq
    exact absurd h (by decide)
  · rename_i heq
    cases heq
    exact absurd h (by decide)
  · rfl

open Text in
/-- Digits that end at a hyphen are no plain number. -/
theorem plainNumber?_hyphen (year : Nat) (rest : List Char) :
    plainNumber? (fixedDigits 4 year ++ '-' :: rest) = none := by
  have hends : Moment.EndsTime ('-' :: rest) := by
    intro c hc
    cases hc
    decide
  obtain ⟨c, cs, hfirst⟩ : ∃ c cs, fixedDigits 4 year = c :: cs :=
    List.exists_cons_of_length_pos (by rw [length_fixedDigits]; decide)
  have hdigit : isDigit c = true := isDigit_of_mem_fixedDigits (hfirst ▸ List.mem_cons_self)
  have hsign : Double.takeSign (fixedDigits 4 year ++ '-' :: rest) =
      (false, fixedDigits 4 year ++ '-' :: rest) := by
    rw [hfirst]
    exact takeSign_of_isDigit hdigit _
  unfold plainNumber?
  simp only [hsign]
  rw [Moment.takeWhile_fixedDigits 4 year hends, Moment.dropWhile_fixedDigits 4 year hends, hfirst]
  rfl

open Text in
/-- **A time stamp is no plain number.** -/
theorem plainNumber?_chars (m : Moment) : plainNumber? m.chars = none := by
  obtain ⟨year, rest, hchars⟩ : ∃ year rest, m.chars = fixedDigits 4 year ++ '-' :: rest := by
    unfold Moment.chars Moment.dateChars
    simp only [List.append_assoc, List.cons_append]
    exact ⟨_, _, rfl⟩
  exact hchars ▸ plainNumber?_hyphen year rest

theorem dateTime?_chars (m : Moment) : dateTime? m.chars = some m := by
  obtain ⟨f, time, offset, hdate, htime, hoffset, hfields⟩ := Moment.parts_chars m
  unfold dateTime?
  simp only [hdate, htime, hoffset, hfields, Option.bind_eq_bind, Option.bind_some]
  rfl

theorem momentText?_of_no_number {cs : List Char} (h : plainNumber? cs = none) :
    momentText? cs = dateTime? cs := by
  unfold momentText?
  rw [h]

theorem momentText?_chars (m : Moment) : momentText? m.chars = some m :=
  (momentText?_of_no_number (plainNumber?_chars m)).trans (dateTime?_chars m)

theorem moment_of_momentText? {s : String} {m : Moment} (h : momentText? s.toList = some m) :
    moment (.text s) = .fits m := by
  unfold moment
  simp only [h]

/-- **A moment is read back from its text.** -/
theorem moment_render (m : Moment) : moment (.text m.render) = .fits m :=
  moment_of_momentText? ((congrArg momentText? String.toList_ofList).trans (momentText?_chars m))

end Shape

end Dripline
