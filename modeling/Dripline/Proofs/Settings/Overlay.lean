import Dripline.Settings.Load
import Dripline.Proofs.Document.Automation

/-!
# Mappings over each other

What is found in a mapping that was put together, name by name:

* `entry?_putEntry`, `entry?_append`: one entry, and entries before others;
* **`entry?_overlay`**: one mapping over another. A name that only one of them has keeps its value, and of two
  values the upper one is put over the lower one, which no other name notices;
* `fieldsFrom`: the fields of some names that have a value.
-/

namespace Dripline

namespace Value

/-! ## 1. Entries -/

theorem sameKey_text_iff {k : Value} {name : String} : sameKey k (.text name) = true ↔ k = .text name := by
  cases k with
  | text s =>
    show (s == name) = true ↔ _
    rw [beq_iff_eq, Value.text.injEq]
  | float x => cases x <;> exact ⟨fun h => (nomatch h), fun h => (nomatch h)⟩
  | _ => exact ⟨fun h => (nomatch h), fun h => (nomatch h)⟩

theorem entry?_cons (name : String) (e : Value × Value) (es : List (Value × Value)) :
    entry? name (e :: es) = if sameKey e.1 (.text name) then some e.2 else entry? name es := by
  obtain ⟨k, v⟩ := e
  cases k with
  | text s =>
    show (if s = name then some v else entry? name es) = if (s == name) = true then some v else entry? name es
    simp only [beq_iff_eq]
  | float x => cases x <;> rfl
  | _ => rfl

theorem valueUnder?_text (name : String) (es : List (Value × Value)) :
    valueUnder? (.text name) es = entry? name es := by
  induction es with
  | nil => rfl
  | cons e es ih =>
    rw [entry?_cons, ← ih]
    rfl

theorem entry?_append (name : String) (xs ys : List (Value × Value)) :
    entry? name (xs ++ ys) = (Value.entry? name xs).or (Value.entry? name ys) := by
  induction xs with
  | nil => rfl
  | cons e xs ih =>
    rw [List.cons_append, entry?_cons, entry?_cons, ih]
    split <;> rfl

theorem entry?_eq_none {name : String} {es : List (Value × Value)} (h : ∀ e ∈ es, e.1 ≠ .text name) :
    entry? name es = none := by
  induction es with
  | nil => rfl
  | cons e es ih =>
    obtain ⟨hfirst, hrest⟩ := List.forall_mem_cons.mp h
    rw [entry?_cons, if_neg fun hkey => hfirst (sameKey_text_iff.mp hkey), ih hrest]

/-- A value that was put is found again, and no other name notices. -/
theorem entry?_putEntry (key name : String) (v : Value) (es : List (Value × Value)) :
    entry? name (putEntry (.text key) v es) = if key = name then some v else entry? name es := by
  induction es with
  | nil => rfl
  | cons e es ih =>
    obtain ⟨k, w⟩ := e
    show entry? name (if sameKey k (.text key) then (k, v) :: es else (k, w) :: putEntry (.text key) v es) = _
    by_cases hkey : sameKey k (.text key) = true
    · cases sameKey_text_iff.mp hkey
      rw [if_pos hkey]
      show (if key = name then some v else entry? name es) =
        if key = name then some v else if key = name then some w else entry? name es
      by_cases hname : key = name
      · rw [if_pos hname, if_pos hname]
      · rw [if_neg hname, if_neg hname, if_neg hname]
    · rw [if_neg hkey, entry?_cons, ih, entry?_cons]
      by_cases hname : sameKey k (.text name) = true
      · have hne : key ≠ name := fun heq => hkey (heq ▸ hname)
        rw [if_pos hname, if_pos hname, if_neg hne]
      · rw [if_neg hname, if_neg hname]

theorem putEntry_fields (key : String) (v : Value) (us : List (String × Value)) :
    putEntry (.text key) v (fields us) = fields (Keyed.putEntry key v us) := by
  induction us with
  | nil => rfl
  | cons u us ih =>
    obtain ⟨k, w⟩ := u
    show (if (k == key) = true then (Value.text k, v) :: fields us
      else (.text k, w) :: putEntry (.text key) v (fields us)) =
      fields (if k = key then (key, v) :: us else (k, w) :: Keyed.putEntry key v us)
    simp only [ih, beq_iff_eq]
    by_cases hkey : k = key
    · rw [if_pos hkey, if_pos hkey, hkey]
      rfl
    · rw [if_neg hkey, if_neg hkey]
      rfl

end Value

/-! ## 2. Mappings over each other -/

/-- What one name comes to when a mapping is put over another. -/
def overlaid : Option Value → Option Value → Option Value
  | some v, some w => some (overlayValue v w)
  | some v, none => some v
  | none, w => w

/-- Over whatever it is put, a text is what counts. -/
theorem overlaid_text (o : Option String) (w : Option Value) :
    overlaid (o.map .text) w = (o.map .text).or w := by
  cases o with
  | none => rfl
  | some s =>
    cases w with
    | none => rfl
    | some w => cases w <;> simp only [Option.map_some, overlaid, overlayValue, Option.some_or]

/-- **One mapping over another**, name by name. -/
theorem entry?_overlay (name : String) (us : List (String × Value)) :
    ∀ lower : List (Value × Value), (us.map Prod.fst).Nodup →
      Value.entry? name (overlay (Value.fields us) lower) =
        overlaid (us.lookup name) (Value.entry? name lower) := by
  induction us with
  | nil => intro lower _; rfl
  | cons u us ih =>
    obtain ⟨k, v⟩ := u
    intro lower hdistinct
    rw [List.map_cons, List.nodup_cons] at hdistinct
    show Value.entry? name (overlay ((.text k, v) :: Value.fields us) lower) = _
    rw [overlay, ih _ hdistinct.2, Value.entry?_putEntry, Value.valueUnder?_text, List.lookup_cons]
    by_cases hname : k = name
    · -- the name does not come again, so that what was put stays
      have hnone : us.lookup name = none := by
        rw [List.lookup_eq_none_iff]
        intro e he
        exact bne_iff_ne.mpr fun heq => hdistinct.1 (List.mem_map.mpr ⟨e, he, (hname.trans heq).symm⟩)
      rw [if_pos hname, hnone, beq_iff_eq.mpr hname.symm, hname]
      cases Value.entry? name lower <;> rfl
    · rw [if_neg hname, beq_eq_false_iff_ne.mpr (Ne.symm hname)]

/-! ## 3. Fields of some names -/

/-- The fields of those names that have a value. -/
def fieldsFrom (names : List String) (f : String → Option Value) : List (String × Value) :=
  names.flatMap fun name => fieldIf name (f name)

theorem lookup_fieldsFrom (names : List String) (f : String → Option Value) (name : String) :
    (fieldsFrom names f).lookup name = if name ∈ names then f name else none := by
  induction names with
  | nil => rfl
  | cons n names ih =>
    rw [fieldsFrom, List.flatMap_cons, List.lookup_append, lookup_fieldIf, ← fieldsFrom, ih]
    by_cases hname : name = n
    · have hmem : name ∈ n :: names := List.mem_cons.mpr (.inl hname)
      rw [if_pos hname, if_pos hmem, ← hname]
      cases f name with
      | none => rw [Option.none_or, ite_self]
      | some v => rfl
    · rw [if_neg hname, Option.none_or]
      simp only [List.mem_cons, hname, false_or]

theorem nodup_keys_fieldsFrom {names : List String} (h : names.Nodup) (f : String → Option Value) :
    ((fieldsFrom names f).map Prod.fst).Nodup := by
  refine List.Nodup.sublist ?_ h
  clear h
  induction names with
  | nil => exact List.nil_sublist _
  | cons n names ih =>
    rw [fieldsFrom, List.flatMap_cons, List.map_append]
    exact (keys_fieldIf n (f n)).append ih

end Dripline
