import Dripline.Proofs.Time.Stamp

/-!
# Time stamps sort as readings

A table orders its rows by the text of a column. Of two moments with one offset the later reading has
the later text:

* `fixedDigits_append_lt_iff`: numbers of one width, and then what follows them;
* `before_ofDays`: the dates of two days, by year, month and day;
* `dateChars_append_lt`, `timeChars_append_lt`: the parts of a time stamp. A whole second comes before
  its fractions, since every offset begins with a character before the point;
* **`render_lt_render_iff`**: time stamps with one offset, and `not_render_lt`, the test by which a table
  sorts.

With different offsets the texts are ordered otherwise than the instants.
-/

namespace Dripline

open Text

/-! ## 1. Digits -/

namespace Text

theorem digitChar_lt_iff {a b : Nat} (ha : a < 10) (hb : b < 10) : digitChar a < digitChar b ↔ a < b := by
  interval_cases a <;> interval_cases b <;> decide

theorem digitChar_inj {a b : Nat} (ha : a < 10) (hb : b < 10) : digitChar a = digitChar b ↔ a = b := by
  interval_cases a <;> interval_cases b <;> decide

/-- **Numbers of one width** are ordered as their digits are, and then by what follows. -/
theorem fixedDigits_append_lt_iff (w : Nat) : ∀ {a b : Nat} (xs ys : List Char), a < 10 ^ w → b < 10 ^ w →
    (fixedDigits w a ++ xs < fixedDigits w b ++ ys ↔ a < b ∨ a = b ∧ xs < ys) := by
  induction w with
  | zero =>
    intro a b xs ys ha hb
    have : a = b := by omega
    simp [fixedDigits, this]
  | succ w ih =>
    intro a b xs ys ha hb
    rw [Nat.pow_succ] at ha hb
    unfold fixedDigits
    rw [List.append_assoc, List.append_assoc, ih _ _ (by omega) (by omega), List.singleton_append,
      List.singleton_append, List.cons_lt_cons_iff, digitChar_lt_iff (by omega) (by omega),
      digitChar_inj (by omega) (by omega)]
    constructor
    · rintro (h | ⟨h, h' | ⟨h', hxs⟩⟩)
      · exact .inl (by omega)
      · exact .inl (by omega)
      · exact .inr ⟨by omega, hxs⟩
    · rintro (h | ⟨rfl, hxs⟩)
      · omega
      · exact .inr ⟨rfl, .inr ⟨rfl, hxs⟩⟩

end Text

/-! ## 2. Dates -/

namespace Calendar

theorem daysBeforeYear_succ {year : Nat} (h : 1 ≤ year) :
    daysBeforeYear (year + 1) = daysBeforeYear year + yearLength year := by
  have hleap : isLeap year = true ↔ year % 4 = 0 ∧ (year % 100 ≠ 0 ∨ year % 400 = 0) := by
    unfold isLeap
    simp only [Bool.and_eq_true, Bool.or_eq_true, beq_iff_eq, bne_iff_ne, ne_eq]
  have h4 : year / 4 = (year - 1) / 4 + if year % 4 = 0 then 1 else 0 := by split <;> omega
  have h100 : year / 100 = (year - 1) / 100 + if year % 100 = 0 then 1 else 0 := by split <;> omega
  have h400 : year / 400 = (year - 1) / 400 + if year % 400 = 0 then 1 else 0 := by split <;> omega
  have hle : (year - 1) / 100 ≤ (year - 1) / 4 := by omega
  unfold yearLength daysBeforeYear
  dsimp only
  rw [Nat.add_sub_cancel, h4, h100, h400]
  by_cases hyear : isLeap year = true
  · rw [if_pos hyear]
    rw [hleap] at hyear
    rw [if_pos hyear.1]
    rcases hyear.2 with h' | h'
    · rw [if_neg h', if_neg (by omega)]
      omega
    · rw [if_pos h', if_pos (by omega)]
      omega
  · rw [if_neg hyear]
    rw [hleap, not_and_or, not_or, not_not] at hyear
    rcases hyear with h' | ⟨h', h''⟩
    · rw [if_neg h', if_neg (by omega), if_neg (by omega)]
      omega
    · rw [if_pos h', if_pos (by omega), if_neg h'']
      omega

theorem daysBeforeYear_mono {y z : Nat} (hy : 1 ≤ y) (h : y ≤ z) : daysBeforeYear y ≤ daysBeforeYear z := by
  induction z, h using Nat.le_induction with
  | base => exact Nat.le_refl _
  | succ z hle ih =>
    rw [daysBeforeYear_succ (Nat.le_trans hy hle)]
    omega

theorem daysBeforeMonth_succ (year : Nat) {month : Nat} (h : 1 ≤ month) :
    daysBeforeMonth year (month + 1) = daysBeforeMonth year month + daysInMonth year month := by
  obtain ⟨m, rfl⟩ : ∃ m, month = m + 1 := ⟨month - 1, by omega⟩
  rw [daysBeforeMonth_eq, daysBeforeMonth_eq, Nat.add_sub_cancel, Nat.add_sub_cancel, List.take_add_one,
    List.sum_append]
  unfold daysInMonth
  dsimp only
  cases (monthLengths (isLeap year))[m]? <;> rfl

theorem daysBeforeMonth_mono (year : Nat) {m n : Nat} (hm : 1 ≤ m) (h : m ≤ n) :
    daysBeforeMonth year m ≤ daysBeforeMonth year n := by
  induction n, h using Nat.le_induction with
  | base => exact Nat.le_refl _
  | succ n hle ih =>
    rw [daysBeforeMonth_succ year (Nat.le_trans hm hle)]
    omega

/-- One date stands before another: by year, month and day. -/
def Date.Before (d e : Date) : Prop :=
  d.year < e.year ∨ d.year = e.year ∧ (d.month < e.month ∨ d.month = e.month ∧ d.day < e.day)

/-- **Later days have later dates.** -/
theorem before_ofDays {m n : Nat} (h : m < n) : (ofDays m).Before (ofDays n) := by
  obtain ⟨k, hk, hm, hyear, _⟩ := ofDays_year m
  obtain ⟨l, hl, hn, hyear', _⟩ := ofDays_year n
  have hmdate := isDate_ofDays m
  have hndate := isDate_ofDays n
  have hmdays := days_ofDays m
  have hndays := days_ofDays n
  unfold Date.days at hmdays hndays
  generalize ofDays m = d at *
  generalize ofDays n = e at *
  by_contra hnot
  unfold Date.Before at hnot
  rw [not_or, not_and, not_or, not_and] at hnot
  obtain ⟨hyears, hrest⟩ := hnot
  have hyear'' : d.year = e.year := by
    by_contra hne
    have := daysBeforeYear_mono (y := e.year + 1) (z := d.year) (by omega) (by omega)
    rw [daysBeforeYear_succ hyear'] at this
    omega
  obtain ⟨hmonths, hdays⟩ := hrest hyear''
  rw [hyear''] at hmdays
  have hmonth : d.month = e.month := by
    by_contra hne
    have := daysBeforeMonth_mono e.year (m := e.month + 1) (n := d.month) (by omega) (by omega)
    rw [daysBeforeMonth_succ e.year hndate.month.1] at this
    have := hndate.day
    omega
  have := hdays hmonth
  have := hmdate.day
  have := hndate.day
  rw [hmonth] at hmdays
  omega

end Calendar

/-! ## 3. Time stamps -/

namespace Moment

theorem cons_lt_cons_same (c : Char) (xs ys : List Char) : c :: xs < c :: ys ↔ xs < ys := by
  rw [List.cons_lt_cons_iff]
  exact ⟨fun h => h.elim (fun h => absurd h (Char.lt_irrefl c)) And.right, fun h => .inr ⟨rfl, h⟩⟩

/-- **Later days** are written as later texts, whatever follows. -/
theorem dateChars_append_lt {m n : Nat} (h : m / dayMicros < n / dayMicros)
    (hn : n / dayMicros < Calendar.totalDays) (xs ys : List Char) :
    dateChars m ++ xs < dateChars n ++ ys := by
  have hbounds {k : Nat} (hk : k < Calendar.totalDays) : (Calendar.ofDays k).year < 10 ^ 4 ∧
      (Calendar.ofDays k).month < 10 ^ 2 ∧ (Calendar.ofDays k).day < 10 ^ 2 := by
    have hdate := Calendar.isDate_ofDays k
    have hyear := Calendar.year_ofDays_le hk
    have hday := Calendar.daysInMonth_le (Calendar.ofDays k).year (Calendar.ofDays k).month
    have := hdate.month
    have := hdate.day
    unfold Calendar.lastYear at hyear
    omega
  obtain ⟨hyear, hmonth, hday⟩ := hbounds (Nat.lt_trans h hn)
  obtain ⟨hyear', hmonth', hday'⟩ := hbounds hn
  have hbefore := Calendar.before_ofDays h
  unfold dateChars
  dsimp only
  simp only [List.append_assoc, List.cons_append]
  rw [fixedDigits_append_lt_iff 4 _ _ hyear hyear', cons_lt_cons_same,
    fixedDigits_append_lt_iff 2 _ _ hmonth hmonth', cons_lt_cons_same,
    fixedDigits_append_lt_iff 2 _ _ hday hday']
  rcases hbefore with h | ⟨h, h' | ⟨h', h''⟩⟩
  · exact .inl h
  · exact .inr ⟨h, .inl h'⟩
  · exact .inr ⟨h, .inr ⟨h', .inl h''⟩⟩

/-- What begins before every fraction: nothing, or a character before the point. -/
def IsBeforePoint (cs : List Char) : Prop := ∀ ds : List Char, cs < '.' :: ds

theorem isBeforePoint_offset (offset : Option Offset) : IsBeforePoint ((offset.map offsetChars).getD []) := by
  intro ds
  cases offset with
  | none => exact List.nil_lt_cons '.' ds
  | some o =>
    show (if o.seconds < 0 then '-' else '+') :: _ < _
    rw [List.cons_lt_cons_iff]
    refine .inl ?_
    split <;> decide

/-- **Later times of a day** are written as later texts, before one offset. -/
theorem timeChars_append_lt {m n : Nat} (hday : m / dayMicros = n / dayMicros) (h : m < n)
    {offset : List Char} (hoffset : IsBeforePoint offset) :
    timeChars m ++ offset < timeChars n ++ offset := by
  have hseconds : m % dayMicros / secondMicros < 86400 ∧ n % dayMicros / secondMicros < 86400 := by
    unfold dayMicros secondMicros
    omega
  have hlater : m % dayMicros / secondMicros < n % dayMicros / secondMicros ∨
      m % dayMicros / secondMicros = n % dayMicros / secondMicros ∧
        m % secondMicros < n % secondMicros := by
    unfold dayMicros at hday ⊢
    unfold secondMicros
    omega
  have hfraction : m % secondMicros < 10 ^ 6 ∧ n % secondMicros < 10 ^ 6 := by
    unfold secondMicros
    omega
  unfold timeChars
  dsimp only
  generalize m % dayMicros / secondMicros = s at *
  generalize n % dayMicros / secondMicros = t at *
  generalize m % secondMicros = f at *
  generalize n % secondMicros = g at *
  simp only [List.append_assoc, List.cons_append]
  rw [fixedDigits_append_lt_iff 2 _ _ (by omega) (by omega), cons_lt_cons_same,
    fixedDigits_append_lt_iff 2 _ _ (by omega) (by omega), cons_lt_cons_same,
    fixedDigits_append_lt_iff 2 _ _ (by omega) (by omega)]
  rcases hlater with hlt | ⟨rfl, hlt⟩
  · omega
  · refine .inr ⟨rfl, .inr ⟨rfl, .inr ⟨rfl, ?_⟩⟩⟩
    rw [if_neg (show g ≠ 0 by omega)]
    by_cases hf : f = 0
    · rw [if_pos hf]
      exact hoffset _
    · rw [if_neg hf, List.cons_append, List.cons_append, cons_lt_cons_same,
        fixedDigits_append_lt_iff 6 _ _ hfraction.1 hfraction.2]
      exact .inl hlt

theorem render_lt_of_ticks_lt {a b : Moment} (hoffset : a.offset = b.offset) (h : a.ticks < b.ticks) :
    a.render < b.render := by
  show String.ofList a.chars < String.ofList b.chars
  rw [String.lt_iff, String.toList_ofList, String.toList_ofList]
  unfold chars
  rw [List.append_assoc, List.append_assoc]
  have hn : b.ticks / dayMicros < Calendar.totalDays :=
    (Nat.div_lt_iff_lt_mul (by decide)).mpr b.within
  rcases Nat.lt_or_eq_of_le (Nat.div_le_div_right h.le : a.ticks / dayMicros ≤ b.ticks / dayMicros) with
    hday | hday
  · exact dateChars_append_lt hday hn _ _
  · have hdate : dateChars a.ticks = dateChars b.ticks := by
      unfold dateChars
      rw [hday]
    rw [hdate, hoffset]
    refine List.append_left_lt ?_
    rw [List.cons_append, List.cons_append, cons_lt_cons_same]
    exact timeChars_append_lt hday h (isBeforePoint_offset b.offset)

/-- **Readings with one offset are ordered as their texts are.** -/
theorem render_lt_render_iff {a b : Moment} (hoffset : a.offset = b.offset) :
    a.render < b.render ↔ a.ticks < b.ticks := by
  refine ⟨fun h => ?_, render_lt_of_ticks_lt hoffset⟩
  by_contra hnot
  rcases Nat.lt_or_eq_of_le (Nat.le_of_not_lt hnot) with hlt | heq
  · exact String.lt_asymm h (render_lt_of_ticks_lt hoffset.symm hlt)
  · have : a = b := by
      obtain ⟨ticks, offset, within⟩ := a
      obtain ⟨ticks', offset', within'⟩ := b
      cases heq
      cases hoffset
      rfl
    rw [this] at h
    exact String.lt_irrefl _ h

/-- The test by which texts are sorted from the greatest to the least. -/
theorem not_render_lt {a b : Moment} (hoffset : a.offset = b.offset) :
    (!decide (a.render < b.render)) = decide (b.ticks ≤ a.ticks) := by
  rw [decide_eq_decide.mpr (render_lt_render_iff hoffset), ← decide_not]
  exact decide_eq_decide.mpr Nat.not_lt

end Moment

/-- Two tests that agree on a list sort it alike. -/
theorem mergeSort_congr {β : Type} {r s : β → β → Bool} {l : List β}
    (h : ∀ a ∈ l, ∀ b ∈ l, r a b = s a b) : l.mergeSort r = l.mergeSort s := by
  have hsame := List.map_mergeSort (f := id) h
  rwa [List.map_id, List.map_id] at hsame

end Dripline
