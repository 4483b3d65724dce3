/-!
# Tables in order of insertion

`Keyed α` maps texts to values and remembers in which order the keys came:

* `put` replaces a value in place and appends a new key at the end;
* `putNew` keeps the value that is there;
* `erase` forgets a key, so that a later `put` appends it again.

Each operation comes with its effect on `get?`, the view by which the rest of the library reads a
table.
-/

namespace Dripline

universe u

/-- Values under texts, in the order in which the keys were first put. -/
structure Keyed (α : Type u) where
  entries : List (String × α)
deriving Repr

namespace Keyed

variable {α : Type u}

instance [DecidableEq α] : DecidableEq (Keyed α) := fun a b =>
  decidable_of_iff (a.entries = b.entries) (by cases a; cases b; simp)

/-- The table without entries. -/
def empty : Keyed α := ⟨[]⟩

instance : Inhabited (Keyed α) := ⟨empty⟩

/-- The value of the first entry with the key. -/
def lookup (k : String) : List (String × α) → Option α
  | [] => none
  | (k', a) :: rest => if k' = k then some a else lookup k rest

/-- The entries with the value of the key replaced, appended when the key is new. -/
def putEntry (k : String) (a : α) : List (String × α) → List (String × α)
  | [] => [(k, a)]
  | (k', b) :: rest => if k' = k then (k, a) :: rest else (k', b) :: putEntry k a rest

/-- The value under a key. -/
def get? (t : Keyed α) (k : String) : Option α := lookup k t.entries

/-- Whether a key has a value. -/
def contains (t : Keyed α) (k : String) : Bool := (t.get? k).isSome

/-- The table with the value under the key. -/
def put (t : Keyed α) (k : String) (a : α) : Keyed α := ⟨putEntry k a t.entries⟩

/-- The table with the value under the key, unless the key has one already. -/
def putNew (t : Keyed α) (k : String) (a : α) : Keyed α :=
  if t.contains k then t else ⟨t.entries ++ [(k, a)]⟩

/-- The table without the key. -/
def erase (t : Keyed α) (k : String) : Keyed α := ⟨t.entries.filter fun e => e.1 ≠ k⟩

/-- The keys in order. -/
def keys (t : Keyed α) : List String := t.entries.map Prod.fst

/-- The values in order of their keys. -/
def values (t : Keyed α) : List α := t.entries.map Prod.snd

@[simp] theorem get?_empty (k : String) : (empty : Keyed α).get? k = none := rfl

theorem lookup_putEntry (k k' : String) (a : α) (es : List (String × α)) :
    lookup k' (putEntry k a es) = if k = k' then some a else lookup k' es := by
  induction es with
  | nil => simp [putEntry, lookup]
  | cons e es ih =>
    obtain ⟨q, b⟩ := e
    by_cases hq : q = k
    · subst hq
      by_cases hk : q = k' <;> simp [putEntry, lookup, hk]
    · by_cases hk : k = k'
      · subst hk
        simp [putEntry, lookup, hq, ih]
      · by_cases hqk : q = k'
        · subst hqk
          simp [putEntry, lookup, hq, hk]
        · simp [putEntry, lookup, hq, hk, hqk, ih]

/-- A value that was put is found again, and no other key notices. -/
@[simp] theorem get?_put (t : Keyed α) (k k' : String) (a : α) :
    (t.put k a).get? k' = if k = k' then some a else t.get? k' :=
  lookup_putEntry k k' a t.entries

theorem lookup_append (k : String) (xs ys : List (String × α)) :
    lookup k (xs ++ ys) = (lookup k xs).or (lookup k ys) := by
  induction xs with
  | nil => simp [lookup]
  | cons e es ih =>
    obtain ⟨q, b⟩ := e
    by_cases h : q = k <;> simp [lookup, h, ih]

/-- The first value put under a key stays. -/
@[simp] theorem get?_putNew (t : Keyed α) (k k' : String) (a : α) :
    (t.putNew k a).get? k' = (t.get? k').or (if k = k' then some a else none) := by
  unfold putNew contains
  by_cases hc : (t.get? k).isSome
  · simp only [hc, if_true]
    by_cases hk : k = k'
    · subst hk
      obtain ⟨b, hb⟩ := Option.isSome_iff_exists.mp hc
      simp [hb]
    · simp [hk]
  · rw [if_neg hc]
    simp [get?, lookup_append, lookup]

theorem lookup_filter_ne (k k' : String) (es : List (String × α)) :
    lookup k' (es.filter fun e => e.1 ≠ k) = if k = k' then none else lookup k' es := by
  induction es with
  | nil => simp [lookup]
  | cons e es ih =>
    obtain ⟨q, b⟩ := e
    by_cases hq : q = k
    · subst hq
      by_cases hk : q = k' <;> simp_all [lookup]
    · by_cases hk : k = k'
      · subst hk
        simp_all [lookup]
      · by_cases hqk : q = k' <;> simp_all [lookup]

/-- An erased key has no value, and no other key notices. -/
@[simp] theorem get?_erase (t : Keyed α) (k k' : String) :
    (t.erase k).get? k' = if k = k' then none else t.get? k' :=
  lookup_filter_ne k k' t.entries

end Keyed

end Dripline
