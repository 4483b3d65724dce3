import Dripline.Number.Double
import Mathlib.Algebra.Order.Field.Basic
import Mathlib.Data.Rat.Cast.Order
import Mathlib.Tactic.Linarith
import Mathlib.Tactic.Qify
import Mathlib.Tactic.Ring

/-!
# Rounding to a number of the format

When a quotient is rounded to a given count of units:

* `IsNear`: the numbers that round to a count, as an interval between midpoints. It is narrower below a
  count where the grid gets finer;
* `exists_mul_grid`: a count of the format has at most 53 bits;
* `roundUnits_below_power`: a quotient on the finer grid below a power of two;
* **`roundUnits_of_isNear`**: a quotient in the interval of a count is rounded to it.
-/

namespace Dripline.Double

/-! ## 1. Near a count -/

/-- The width of the grid at a count of units. -/
def grid (units : Nat) : Nat := 2 ^ gridShift units

/-- How far below a count of units the quotients reach that round to it, in quarters of a unit: half a
    step, or a quarter of one where the grid gets finer below. -/
def marginBelow (units : Nat) : Nat :=
  if units = 2 ^ (bitLength units - 1) ∧ 1 < grid units then grid units else 2 * grid units

/-- **A number of units that rounds to a count**: it lies between the midpoints to the two neighbours, and
    may be a midpoint when the last bit is even. -/
structure IsNear (units : Nat) (x : ℚ) : Prop where
  low : (4 * units - marginBelow units : ℚ) ≤ 4 * x
  high : 4 * x ≤ 4 * units + 2 * grid units
  odd : units / grid units % 2 = 1 →
    (4 * units - marginBelow units : ℚ) < 4 * x ∧ 4 * x < 4 * units + 2 * grid units

theorem grid_pos (units : Nat) : 0 < grid units := Nat.two_pow_pos _

theorem one_pos : 0 < one := by
  unfold one
  generalize 1074 = n
  exact Nat.two_pow_pos n

theorem marginBelow_le (units : Nat) : marginBelow units ≤ 2 * grid units := by
  unfold marginBelow
  split <;> omega

/-! ## 2. Rounding to a multiple -/

/-- A quotient within half a step of a multiple is rounded to it, where two are equally near to the even
    one. -/
theorem roundTo_of_near {step num den k : Nat} (hstep : 0 < step) (hden : 0 < den)
    (hlow : 2 * (k * (den * step)) ≤ 2 * num + den * step)
    (hhigh : 2 * num ≤ 2 * (k * (den * step)) + den * step)
    (hodd : k % 2 = 1 → 2 * (k * (den * step)) < 2 * num + den * step ∧
      2 * num < 2 * (k * (den * step)) + den * step) :
    roundTo step num den = k * step := by
  unfold roundTo
  have hd : 0 < den * step := Nat.mul_pos hden hstep
  dsimp only
  generalize den * step = d at *
  have hnum : d * (num / d) + num % d = num := Nat.div_add_mod num d
  have hrest : num % d < d := Nat.mod_lt num hd
  generalize num / d = q at *
  generalize num % d = r at *
  rw [Nat.mul_comm k d] at hlow hhigh hodd
  have hle : q ≤ k := by
    by_contra hlt
    have := Nat.mul_le_mul_left d (Nat.succ_le_of_lt (Nat.lt_of_not_le hlt))
    rw [Nat.mul_succ] at this
    omega
  have hge : k ≤ q + 1 := by
    by_contra hlt
    have := Nat.mul_le_mul_left d (Nat.succ_le_of_lt (Nat.lt_of_not_le hlt))
    rw [Nat.mul_succ, Nat.mul_succ] at this
    omega
  rcases Nat.eq_or_lt_of_le hle with heq | hlt
  · rw [heq] at hnum ⊢
    by_cases htie : 2 * r < d
    · rw [if_pos htie]
    · rw [if_neg htie, if_neg (by omega), if_pos (by omega)]
  · obtain rfl : k = q + 1 := by omega
    rw [Nat.mul_succ] at hlow hhigh hodd
    rw [if_neg (by omega)]
    by_cases htie : d < 2 * r
    · rw [if_pos htie]
    · rw [if_neg htie, if_neg (by omega)]

/-! ## 3. Rounding to a count -/

/-- A count on its grid is a multiple by at most 53 bits, by exactly 53 where the grid is wider than a
    unit. -/
theorem exists_mul_grid {units : Nat} (h : grid units ∣ units) :
    ∃ m, m * grid units = units ∧ m < 2 ^ 53 ∧ (0 < gridShift units → 2 ^ 52 ≤ m) := by
  obtain ⟨m, hm⟩ := h
  rw [Nat.mul_comm] at hm
  refine ⟨m, hm.symm, ?_, fun hwide => ?_⟩
  · have hlt : units < 2 ^ (53 + gridShift units) := gridShift_le_iff.mp (Nat.le_refl _)
    rw [Nat.pow_add] at hlt
    by_contra hlarge
    have := Nat.mul_le_mul_right (grid units) (Nat.le_of_not_lt hlarge)
    rw [← hm] at this
    exact absurd hlt (Nat.not_lt_of_le this)
  · have hnot : ¬ units < 2 ^ (53 + (gridShift units - 1)) := fun hlt => by
      have := gridShift_le_iff.mpr hlt
      omega
    rw [show 53 + (gridShift units - 1) = 52 + gridShift units by omega, Nat.pow_add] at hnot
    by_contra hsmall
    have := Nat.mul_lt_mul_of_pos_right (Nat.lt_of_not_le hsmall) (grid_pos units)
    rw [← hm] at this
    exact hnot this

theorem gridShift_eq {n g : Nat} (hlt : n < 2 ^ (53 + g)) (hle : 0 < g → 2 ^ (52 + g) ≤ n) :
    gridShift n = g := by
  refine Nat.le_antisymm (gridShift_le_iff.mpr hlt) ?_
  by_contra hsmall
  have hbelow : n < 2 ^ (53 + (g - 1)) := gridShift_le_iff.mp (by omega)
  have := hle (by omega)
  rw [show 53 + (g - 1) = 52 + g by omega] at hbelow
  exact absurd hbelow (Nat.not_lt_of_le this)

/-- Where the grid gets finer below, the count is the first of its width. -/
theorem marginBelow_eq {units : Nat} (hwide : 0 < gridShift units)
    (hfirst : units = 2 ^ (52 + gridShift units)) : marginBelow units = grid units := by
  refine if_pos ⟨?_, Nat.one_lt_two_pow (Nat.pos_iff_ne_zero.mp hwide)⟩
  have hlog : bitLength units = 53 + gridShift units := by
    unfold gridShift precision at hwide ⊢
    omega
  rw [hlog, show 53 + gridShift units - 1 = 52 + gridShift units by omega]
  exact hfirst

/-- The bounds of a quotient near a count, without fractions. -/
theorem IsNear.bounds {units num den : Nat} (hden : 0 < den) (h : IsNear units (num / den)) :
    (4 * (units * den) ≤ 4 * num + marginBelow units * den ∧
      4 * num ≤ 4 * (units * den) + 2 * (den * grid units)) ∧
    (units / grid units % 2 = 1 → 4 * (units * den) < 4 * num + marginBelow units * den ∧
      4 * num < 4 * (units * den) + 2 * (den * grid units)) := by
  have hpos : (0 : ℚ) < den := Nat.cast_pos.mpr hden
  have hquotient : (num / den : ℚ) * den = num := div_mul_cancel₀ _ hpos.ne'
  generalize (num / den : ℚ) = x at h hquotient
  refine ⟨⟨?_, ?_⟩, fun hodd => ⟨?_, ?_⟩⟩
  · have := mul_le_mul_of_nonneg_right h.low hpos.le
    qify
    linarith
  · have := mul_le_mul_of_nonneg_right h.high hpos.le
    qify
    linarith
  · have := mul_lt_mul_of_pos_right (h.odd hodd).1 hpos
    qify
    linarith
  · have := mul_lt_mul_of_pos_right (h.odd hodd).2 hpos
    qify
    linarith

/-- Below a power of two the grid is finer: what is nearer to the power than half a step of that grid is
    rounded up to it. -/
theorem roundUnits_below_power {g num den : Nat} (hden : 0 < den)
    (hlow : 4 * (2 ^ 53 * (den * 2 ^ g)) ≤ 4 * num + 2 * (den * 2 ^ g))
    (hless : num < 2 ^ 53 * (den * 2 ^ g)) : roundUnits num den = 2 ^ 53 * 2 ^ g := by
  have hshift : gridShift (num / den) = g := by
    refine gridShift_eq ?_ fun _ => ?_
    · rwa [Nat.div_lt_iff_lt_mul hden, Nat.pow_add, Nat.mul_assoc, ← Nat.mul_comm den]
    · rw [Nat.le_div_iff_mul_le hden, Nat.pow_add, Nat.mul_assoc, ← Nat.mul_comm den]
      omega
  show roundTo (2 ^ gridShift (num / den)) num den = _
  rw [hshift]
  refine roundTo_of_near (Nat.two_pow_pos g) hden ?_ ?_ fun h => ?_
  · omega
  · omega
  · exact absurd h (by decide)

/-- **A quotient near a count of units is rounded to it.** -/
theorem roundUnits_of_isNear {units num den : Nat} (hgrid : grid units ∣ units) (hden : 0 < den)
    (h : IsNear units (num / den)) : roundUnits num den = units := by
  obtain ⟨m, hm, hupper, hlower⟩ := exists_mul_grid hgrid
  have hstep := grid_pos units
  have hunits : units * den = m * (den * grid units) := calc
    units * den = m * grid units * den := by rw [hm]
    _ = m * (den * grid units) := by ring
  have hquotient : units / grid units = m := Nat.div_eq_of_eq_mul_left hstep hm.symm
  have hmargin : marginBelow units * den ≤ 2 * (den * grid units) := by
    have := Nat.mul_le_mul_right den (marginBelow_le units)
    rwa [Nat.mul_assoc, Nat.mul_comm (grid units)] at this
  have hwidth : 0 < den * grid units := Nat.mul_pos hden hstep
  obtain ⟨⟨hlow, hhigh⟩, hodd⟩ := h.bounds hden
  rw [hquotient] at hodd
  -- a step above the count is still within 53 bits
  have hwhole : num / den < 2 ^ (53 + gridShift units) := by
    rw [Nat.div_lt_iff_lt_mul hden, Nat.pow_add, Nat.mul_assoc, ← Nat.mul_comm den]
    have := Nat.mul_le_mul_right (den * grid units) (Nat.succ_le_of_lt hupper)
    rw [Nat.succ_mul] at this
    show num < 2 ^ 53 * (den * grid units)
    omega
  by_cases hsame : 0 < gridShift units → 2 ^ (52 + gridShift units) ≤ num / den
  · show roundTo (2 ^ gridShift (num / den)) num den = units
    rw [gridShift_eq hwhole hsame]
    refine (roundTo_of_near hstep hden ?_ ?_ fun hm' => ?_).trans hm
    · omega
    · omega
    · obtain ⟨h1, h2⟩ := hodd hm'
      exact ⟨by omega, by omega⟩
  · -- the count is a power of two, and the quotient lies below it
    have hwide : 0 < gridShift units := by_contra fun hnot => hsame fun hpos => absurd hpos hnot
    have hbelow : num / den < 2 ^ (52 + gridShift units) := by
      by_contra hnot
      exact hsame fun _ => Nat.le_of_not_lt hnot
    have hless : num < 2 ^ 52 * (den * grid units) := by
      rw [Nat.div_lt_iff_lt_mul hden, Nat.pow_add, Nat.mul_assoc, ← Nat.mul_comm den] at hbelow
      exact hbelow
    have hfirst : m = 2 ^ 52 := by
      refine Nat.le_antisymm (Nat.le_of_not_lt fun hlt => ?_) (hlower hwide)
      have := Nat.mul_le_mul_right (den * grid units) (Nat.succ_le_of_lt hlt)
      rw [Nat.succ_mul] at this
      omega
    have hcount : units = 2 ^ (52 + gridShift units) := by
      rw [Nat.pow_add, ← hfirst]
      exact hm.symm
    obtain ⟨g, hg⟩ : ∃ g, gridShift units = g + 1 := ⟨gridShift units - 1, by omega⟩
    have hhalf : den * grid units = 2 * (den * 2 ^ g) := by
      unfold grid
      rw [hg, Nat.pow_succ]
      ring
    rw [marginBelow_eq hwide hcount, Nat.mul_comm (grid units), hunits, hfirst, hhalf] at hlow
    rw [hhalf] at hless
    have hrounded : roundUnits num den = 2 ^ 53 * 2 ^ g :=
      roundUnits_below_power hden (by omega) (by omega)
    rw [hrounded, hcount, hg, ← Nat.pow_add, show 53 + g = 52 + (g + 1) by omega]

end Dripline.Double
