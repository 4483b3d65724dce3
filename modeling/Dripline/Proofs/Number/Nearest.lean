import Dripline.Proofs.Number.Rounding
import Mathlib.Tactic.FieldSimp

/-!
# Rounding goes to the nearest number

The format has a number at every count of units that is a multiple of the grid of its own width. A
quotient is rounded to the one that is nearest to it:

* `IsNearest`: no count of the format is nearer to a quotient, and of two that are equally near it is the
  one whose last bit is even;
* `exists_roundTo`: the same for the multiples of one step;
* `lt_of_finer`: a count on a finer grid than that of the quotient lies below the first count on that grid,
  so that only multiples of one step are in question;
* **`isNearest_roundUnits`**: a quotient is rounded to the nearest count;
* `IsNearest.le_of_le`, `IsNearest.le_of_ge`: rounding does not pass a count of the format;
* **`roundUnits_mono`**: rounding keeps the order of quotients.
-/

namespace Dripline.Double

/-- **The count of units nearest to a number of units**, of two that are equally near the even one. -/
structure IsNearest (units : Nat) (x : ℚ) : Prop where
  nearest : ∀ other : Nat, grid other ∣ other → |(units : ℚ) - x| ≤ |(other : ℚ) - x|
  even : ∀ other : Nat, grid other ∣ other → other ≠ units →
    |(other : ℚ) - x| = |(units : ℚ) - x| → units / grid units % 2 = 0

/-! ## 1. Distances -/

/-- How far a count is from a quotient, in parts of its denominator. -/
def offBy (units num den : Nat) : Nat := ((units * den : Int) - num).natAbs

theorem abs_sub_eq_offBy {den : Nat} (hden : 0 < den) (units num : Nat) :
    |(units : ℚ) - num / den| = offBy units num den / den := by
  have hpos : (0 : ℚ) < den := Nat.cast_pos.mpr hden
  have hsplit : (units : ℚ) - num / den = (((units * den : Int) - num : Int) : ℚ) / den := by
    push_cast
    field_simp
  unfold offBy
  rw [hsplit, abs_div, abs_of_pos hpos, Nat.cast_natAbs, Int.cast_abs]

theorem abs_sub_le_iff_offBy {den : Nat} (hden : 0 < den) (units other num : Nat) :
    |(units : ℚ) - num / den| ≤ |(other : ℚ) - num / den| ↔
      offBy units num den ≤ offBy other num den := by
  have hpos : (0 : ℚ) < den := Nat.cast_pos.mpr hden
  rw [abs_sub_eq_offBy hden, abs_sub_eq_offBy hden, div_le_div_iff_of_pos_right hpos, Nat.cast_le]

theorem abs_sub_eq_iff_offBy {den : Nat} (hden : 0 < den) (units other num : Nat) :
    |(units : ℚ) - num / den| = |(other : ℚ) - num / den| ↔
      offBy units num den = offBy other num den := by
  have hpos : (den : ℚ) ≠ 0 := Nat.cast_ne_zero.mpr hden.ne'
  rw [abs_sub_eq_offBy hden, abs_sub_eq_offBy hden, div_left_inj' hpos, Nat.cast_inj]

/-! ## 2. Multiples of a step -/

section Multiples

variable {step den : Nat}

/-- The multiples next to a quotient are off by what is left over and by what is missing, and all others
    by a whole step more. -/
theorem offBy_multiple (num : Nat) (hd : 0 < den * step) (j : Nat) :
    (j = num / (den * step) → offBy (j * step) num den = num % (den * step)) ∧
    (j = num / (den * step) + 1 → offBy (j * step) num den = den * step - num % (den * step)) ∧
    (j < num / (den * step) → num % (den * step) + den * step ≤ offBy (j * step) num den) ∧
    (num / (den * step) + 1 < j →
      den * step - num % (den * step) + den * step ≤ offBy (j * step) num den) := by
  have hnum := Nat.div_add_mod num (den * step)
  have hrest := Nat.mod_lt num hd
  have hoff : offBy (j * step) num den = ((j * (den * step) : Nat) - num : Int).natAbs := by
    unfold offBy
    push_cast
    congr 2
    ring
  rw [hoff]
  generalize den * step = d at *
  generalize num / d = q at *
  generalize num % d = r at *
  rw [← hnum]
  refine ⟨fun h => ?_, fun h => ?_, fun h => ?_, fun h => ?_⟩
  · rw [h, Nat.mul_comm q d]
    omega
  · rw [h, Nat.succ_mul, Nat.mul_comm q d]
    omega
  · have hle := Nat.mul_le_mul_right d (Nat.succ_le_of_lt h)
    rw [Nat.succ_mul, Nat.mul_comm q d] at hle
    omega
  · have hle := Nat.mul_le_mul_right d (Nat.succ_le_of_lt h)
    rw [Nat.succ_mul, Nat.succ_mul, Nat.mul_comm q d] at hle
    omega

/-- **Rounding to a multiple of a step** ends at the nearest one, of two at the even one. -/
theorem exists_roundTo (num : Nat) (hstep : 0 < step) (hden : 0 < den) :
    ∃ k, roundTo step num den = k * step ∧ num / (den * step) ≤ k ∧ k ≤ num / (den * step) + 1 ∧
      ∀ j, j ≠ k → offBy (k * step) num den ≤ offBy (j * step) num den ∧
        (offBy (j * step) num den = offBy (k * step) num den → k % 2 = 0) := by
  have hd : 0 < den * step := Nat.mul_pos hden hstep
  have hoff := offBy_multiple num hd
  have hrest := Nat.mod_lt num hd
  unfold roundTo
  dsimp only
  obtain ⟨q, hq⟩ : ∃ q, q = num / (den * step) := ⟨_, rfl⟩
  have hbelow := (hoff q).1 hq
  have habove := (hoff (q + 1)).2.1 (by omega)
  -- no other multiple is as near as the one below, and none nearer than the one above
  have hfar : ∀ j, j = q ∨ j = q + 1 ∨
      (offBy (q * step) num den < offBy (j * step) num den ∧
        (0 < num % (den * step) → offBy ((q + 1) * step) num den < offBy (j * step) num den)) := by
    intro j
    obtain ⟨_, _, hless, hmore⟩ := hoff j
    rcases Nat.lt_trichotomy j q with h | h | h
    · have := hless (by omega)
      omega
    · exact .inl h
    · rcases Nat.eq_or_lt_of_le (Nat.succ_le_of_lt h) with h' | h'
      · exact .inr (.inl h'.symm)
      · have := hmore (by omega)
        omega
  rw [← hq]
  split
  · refine ⟨q, rfl, Nat.le_refl _, Nat.le_succ q, fun j hj => ?_⟩
    rcases hfar j with rfl | rfl | ⟨h, _⟩ <;> omega
  · split
    · refine ⟨q + 1, rfl, Nat.le_succ q, Nat.le_refl _, fun j hj => ?_⟩
      rcases hfar j with rfl | rfl | ⟨_, h⟩ <;> omega
    · split
      · refine ⟨q, rfl, Nat.le_refl _, Nat.le_succ q, fun j hj => ⟨?_, fun _ => by assumption⟩⟩
        rcases hfar j with rfl | rfl | ⟨h, _⟩ <;> omega
      · refine ⟨q + 1, rfl, Nat.le_succ q, Nat.le_refl _, fun j hj => ⟨?_, fun _ => by omega⟩⟩
        rcases hfar j with rfl | rfl | ⟨_, h⟩ <;> omega

end Multiples

/-! ## 3. Counts of the format -/

section Rounding

variable {num den : Nat}

/-- A number whose grid is wider than a unit has 53 bits. -/
theorem pow_le_of_wide {n : Nat} (h : 0 < gridShift n) : 2 ^ (52 + gridShift n) ≤ n := by
  refine Nat.le_of_not_lt fun hlt => ?_
  have hexponent : 52 + gridShift n = precision + (gridShift n - 1) := by
    unfold precision
    omega
  rw [hexponent] at hlt
  have := gridShift_le_iff.mpr hlt
  omega

/-- A count on a finer grid has fewer bits. -/
theorem lt_of_finer {n g : Nat} (h : gridShift n < g) : n < 2 ^ (52 + g) := by
  have hexponent : 52 + g = precision + (g - 1) := by
    unfold precision
    omega
  rw [hexponent]
  exact gridShift_le_iff.mp (by omega)

/-- A multiple by an even factor of 53 bits, or by the first one beyond, has an even last bit. -/
theorem even_of_multiple {k g : Nat} (hk : k ≤ 2 ^ 53) (hlow : 0 < g → 2 ^ 52 ≤ k) (heven : k % 2 = 0) :
    k * 2 ^ g / grid (k * 2 ^ g) % 2 = 0 := by
  unfold grid
  rcases Nat.lt_or_eq_of_le hk with hlt | rfl
  · have hshift : gridShift (k * 2 ^ g) = g := by
      refine gridShift_eq ?_ fun hg => ?_
      · rw [Nat.pow_add]
        exact Nat.mul_lt_mul_of_pos_right hlt (Nat.two_pow_pos g)
      · rw [Nat.pow_add]
        exact Nat.mul_le_mul_right _ (hlow hg)
    rw [hshift, Nat.mul_div_cancel _ (Nat.two_pow_pos g)]
    exact heven
  · have hshift : gridShift (2 ^ 53 * 2 ^ g) = g + 1 := by
      rw [← Nat.pow_add]
      refine gridShift_eq (Nat.pow_lt_pow_right (by decide) (by omega)) fun _ => ?_
      exact Nat.pow_le_pow_right (by decide) (by omega)
    have hhalf : 2 ^ 53 * 2 ^ g = 2 ^ 52 * 2 ^ (g + 1) := by
      rw [← Nat.pow_add, ← Nat.pow_add]
      congr 1
      omega
    rw [hshift, hhalf, Nat.mul_div_cancel _ (Nat.two_pow_pos _)]
    decide

theorem offBy_lt_of_lt {a b : Nat} (hden : 0 < den) (hlt : a < b) (hle : b * den ≤ num) :
    offBy b num den < offBy a num den := by
  have hmul := Nat.mul_lt_mul_of_pos_right hlt hden
  unfold offBy
  omega

/-- **A quotient is rounded to the nearest count of the format.** -/
theorem isNearest_roundUnits (num : Nat) (hden : 0 < den) : IsNearest (roundUnits num den) (num / den) := by
  obtain ⟨g, hg⟩ : ∃ g, gridShift (num / den) = g := ⟨_, rfl⟩
  obtain ⟨k, hk, hlow, hhigh, hnearest⟩ := exists_roundTo num (Nat.two_pow_pos g) hden
  have hrounded : roundUnits num den = k * 2 ^ g := by
    rw [← hk, ← hg]
    rfl
  have hbits : num / (den * 2 ^ g) < 2 ^ 53 := by
    rw [← Nat.div_div_eq_div_mul, Nat.div_lt_iff_lt_mul (Nat.two_pow_pos g), ← Nat.pow_add, ← hg]
    exact gridShift_le_iff.mp (Nat.le_refl _)
  have hwide : 0 < g → 2 ^ 52 ≤ num / (den * 2 ^ g) := by
    intro hpos
    rw [← Nat.div_div_eq_div_mul, Nat.le_div_iff_mul_le (Nat.two_pow_pos g), ← Nat.pow_add, ← hg]
    exact pow_le_of_wide (by omega)
  -- another count is a multiple of the same step, or is farther away than one
  have hother : ∀ other, grid other ∣ other →
      (∃ j, other = j * 2 ^ g) ∨ offBy (k * 2 ^ g) num den < offBy other num den := by
    intro other hgrid
    rcases Nat.lt_or_ge (gridShift other) g with h | h
    · have hless := lt_of_finer h
      rw [Nat.pow_add] at hless
      have hbelow : 2 ^ 52 * 2 ^ g * den ≤ num := by
        rw [← Nat.le_div_iff_mul_le hden, ← Nat.pow_add, ← hg]
        exact pow_le_of_wide (by omega)
      have hlt := offBy_lt_of_lt hden hless hbelow
      by_cases hsame : 2 ^ 52 = k
      · rw [hsame] at hlt
        exact .inr hlt
      · exact .inr (Nat.lt_of_le_of_lt (hnearest _ hsame).1 hlt)
    · obtain ⟨j, hj⟩ := (Nat.pow_dvd_pow 2 h).trans hgrid
      exact .inl ⟨j, hj.trans (Nat.mul_comm _ j)⟩
  rw [hrounded]
  constructor
  · intro other hgrid
    rw [abs_sub_le_iff_offBy hden]
    rcases hother other hgrid with ⟨j, rfl⟩ | h
    · by_cases hj : j = k
      · rw [hj]
      · exact (hnearest j hj).1
    · exact Nat.le_of_lt h
  · intro other hgrid hne hequal
    rw [abs_sub_eq_iff_offBy hden] at hequal
    rcases hother other hgrid with ⟨j, rfl⟩ | h
    · have hj : j ≠ k := fun h => hne (by rw [h])
      have heven := (hnearest j hj).2 hequal
      exact even_of_multiple (by omega) (fun hpos => Nat.le_trans (hwide hpos) hlow) heven
    · omega

/-! ## 4. Order -/

theorem two_mul_le_of_nearer {a b x : ℚ} (hlt : a < b) (h : |a - x| ≤ |b - x|) : 2 * x ≤ a + b := by
  by_contra hgt
  rw [not_le] at hgt
  rw [abs_of_neg (by linarith : a - x < 0)] at h
  rcases abs_cases (b - x) with ⟨hb, _⟩ | ⟨hb, _⟩ <;> rw [hb] at h <;> linarith

theorem add_le_of_nearer {a b x : ℚ} (hlt : a < b) (h : |b - x| ≤ |a - x|) : a + b ≤ 2 * x := by
  by_contra hgt
  rw [not_le] at hgt
  rw [abs_of_pos (by linarith : 0 < b - x)] at h
  rcases abs_cases (a - x) with ⟨ha, _⟩ | ⟨ha, _⟩ <;> rw [ha] at h <;> linarith

variable {units count : Nat} {x : ℚ}

/-- What is not above a count of the format is not rounded above it. -/
theorem IsNearest.le_of_le (h : IsNearest units x) (hgrid : grid count ∣ count) (hle : x ≤ count) :
    units ≤ count := by
  by_contra hgt
  have hlt : (count : ℚ) < units := Nat.cast_lt.mpr (Nat.lt_of_not_le hgt)
  have := add_le_of_nearer hlt (h.nearest count hgrid)
  linarith

/-- What is not below a count of the format is not rounded below it. -/
theorem IsNearest.le_of_ge (h : IsNearest units x) (hgrid : grid count ∣ count) (hle : count ≤ x) :
    count ≤ units := by
  by_contra hgt
  have hlt : (units : ℚ) < count := Nat.cast_lt.mpr (Nat.lt_of_not_le hgt)
  have := two_mul_le_of_nearer hlt (h.nearest count hgrid)
  linarith

/-- **Rounding keeps order.** -/
theorem roundUnits_mono {num' : Nat} (hden : 0 < den) (hle : num ≤ num') :
    roundUnits num den ≤ roundUnits num' den := by
  have hpos : (0 : ℚ) < den := Nat.cast_pos.mpr hden
  have hquotients : (num / den : ℚ) ≤ num' / den := by
    rw [div_le_div_iff_of_pos_right hpos, Nat.cast_le]
    exact hle
  by_contra hgt
  have hlt : (roundUnits num' den : ℚ) < roundUnits num den := Nat.cast_lt.mpr (Nat.lt_of_not_le hgt)
  -- both quotients are on their side of the midpoint between the two counts, so they are the same
  have hlow := add_le_of_nearer hlt
    ((isNearest_roundUnits num hden).nearest _ (gridShift_roundUnits_dvd num' den))
  have hhigh := two_mul_le_of_nearer hlt
    ((isNearest_roundUnits num' hden).nearest _ (gridShift_roundUnits_dvd num den))
  have hsame : (num / den : ℚ) = num' / den := by linarith
  rw [div_left_inj' hpos.ne', Nat.cast_inj] at hsame
  rw [hsame] at hgt
  exact hgt (Nat.le_refl _)

end Rounding

end Dripline.Double
