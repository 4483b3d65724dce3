import Dripline.Number.Shortest
import Dripline.Proofs.Number.Rounding

/-!
# The shortest decimal reads back

What the search for a short decimal ends at:

* `readsBack_iff`: the test of the search says that a decimal is near the number, so that it rounds to it;
* `readsBack_of_fine`: one of the two decimals of seventeen digits around a number passes that test, and
  hence **`searchLength_finds`** one at that length or a smaller one;
* **`ofDecimal_of_isNear`**: a decimal near a number is read as that number.
-/

namespace Dripline.Double

/-! ## 1. Decimals that read back -/

/-- A decimal as a number of units. -/
def decimalUnits (q : Nat) (exponent : Int) : ℚ := q * (10 : ℚ) ^ exponent * (one : ℚ)

theorem zpow_of_nonneg {e : Int} (h : 0 ≤ e) : (10 : ℚ) ^ e = ((10 ^ e.toNat : Nat) : ℚ) := by
  obtain ⟨n, rfl⟩ := Int.eq_ofNat_of_zero_le h
  push_cast
  exact zpow_natCast 10 n

theorem zpow_of_neg {e : Int} (h : ¬ 0 ≤ e) : (10 : ℚ) ^ e * ((10 ^ (-e).toNat : Nat) : ℚ) = 1 := by
  have hneg : (10 : ℚ) ^ (-e) = ((10 ^ (-e).toNat : Nat) : ℚ) := zpow_of_nonneg (by omega)
  rw [← hneg, ← zpow_add₀ (by norm_num), add_neg_cancel, zpow_zero]

theorem marginBelow_le_four {units : Nat} (hpos : 0 < units) (hgrid : grid units ∣ units) :
    marginBelow units ≤ 2 * units :=
  Nat.le_trans (marginBelow_le units) (Nat.mul_le_mul_left 2 (Nat.le_of_dvd hpos hgrid))

/-- The test between two bounds, of a fraction, says that the number is near. -/
theorem isNear_iff_of_fraction {units num den : Nat} {x : ℚ} (hpos : 0 < units)
    (hgrid : grid units ∣ units) (hden : 0 < den) (hx : 4 * x * den = num) :
    (if (units / grid units) % 2 == 0 then
      decide ((4 * units - marginBelow units) * den ≤ num) &&
        decide (num ≤ (4 * units + 2 * grid units) * den)
    else decide ((4 * units - marginBelow units) * den < num) &&
      decide (num < (4 * units + 2 * grid units) * den)) = true ↔ IsNear units x := by
  have hd : (0 : ℚ) < den := Nat.cast_pos.mpr hden
  have hmargin := marginBelow_le_four hpos hgrid
  have hlow : (((4 * units - marginBelow units : Nat) : ℚ)) = 4 * units - marginBelow units := by
    rw [Nat.cast_sub (by omega)]
    push_cast
    rfl
  have h1 : (4 * units - marginBelow units) * den ≤ num ↔
      (4 * units - marginBelow units : ℚ) ≤ 4 * x := by
    rw [← Nat.cast_le (α := ℚ), Nat.cast_mul, hlow, ← hx, mul_le_mul_iff_left₀ hd]
  have h2 : num ≤ (4 * units + 2 * grid units) * den ↔ 4 * x ≤ 4 * units + 2 * grid units := by
    rw [← Nat.cast_le (α := ℚ), Nat.cast_mul, ← hx, mul_le_mul_iff_left₀ hd]
    push_cast
    rfl
  have h3 : (4 * units - marginBelow units) * den < num ↔
      (4 * units - marginBelow units : ℚ) < 4 * x := by
    rw [← Nat.cast_lt (α := ℚ), Nat.cast_mul, hlow, ← hx, mul_lt_mul_iff_left₀ hd]
  have h4 : num < (4 * units + 2 * grid units) * den ↔ 4 * x < 4 * units + 2 * grid units := by
    rw [← Nat.cast_lt (α := ℚ), Nat.cast_mul, ← hx, mul_lt_mul_iff_left₀ hd]
    push_cast
    rfl
  by_cases heven : units / grid units % 2 = 0
  · rw [if_pos (beq_iff_eq.mpr heven), Bool.and_eq_true, decide_eq_true_eq, decide_eq_true_eq, h1, h2]
    exact ⟨fun h => ⟨h.1, h.2, fun hodd => by omega⟩, fun h => ⟨h.low, h.high⟩⟩
  · rw [if_neg (mt beq_iff_eq.mp heven), Bool.and_eq_true, decide_eq_true_eq, decide_eq_true_eq, h3, h4]
    exact ⟨fun h => ⟨h.1.le, h.2.le, fun _ => h⟩, fun h => h.odd (by omega)⟩

/-- **A decimal reads back** when it is near, as a number of units. -/
theorem readsBack_iff {units : Nat} (hpos : 0 < units) (hgrid : grid units ∣ units) (q : Nat)
    (exponent : Int) : readsBack units q exponent = true ↔ IsNear units (decimalUnits q exponent) := by
  have hmargin : (if (decide (units = Nat.pow 2 (bitLength units - 1)) &&
      decide (1 < Nat.pow 2 (gridShift units))) = true then Nat.pow 2 (gridShift units)
      else 2 * Nat.pow 2 (gridShift units)) = marginBelow units := by
    unfold marginBelow
    simp only [Bool.and_eq_true, decide_eq_true_eq]
    rfl
  unfold readsBack
  dsimp only
  rw [hmargin]
  by_cases he : 0 ≤ exponent
  · rw [if_pos he]
    refine isNear_iff_of_fraction hpos hgrid Nat.one_pos ?_
    unfold decimalUnits
    rw [zpow_of_nonneg he, Nat.pow_eq]
    push_cast
    ring
  · rw [if_neg he]
    refine isNear_iff_of_fraction hpos hgrid (Nat.pow_pos (by decide)) ?_
    have hinv := zpow_of_neg he
    unfold decimalUnits
    calc 4 * (q * (10 : ℚ) ^ exponent * one) * ((10 ^ (-exponent).toNat : Nat) : ℚ)
        = q * (4 * one) * ((10 : ℚ) ^ exponent * ((10 ^ (-exponent).toNat : Nat) : ℚ)) := by ring
      _ = ((q * (4 * one) : Nat) : ℚ) := by rw [hinv]; push_cast; ring

/-! ## 2. The search -/

/-- A number of units in steps of a decimal grid, as a fraction. -/
def gridFraction (units : Nat) (exponent : Int) : Nat × Nat :=
  if 0 ≤ exponent then (units, one * Nat.pow 10 exponent.toNat)
  else (units * Nat.pow 10 (-exponent).toNat, one)

/-- The last point of a decimal grid that is not above a number of units. -/
def pointBelow (units : Nat) (exponent : Int) : Nat :=
  (gridFraction units exponent).1 / (gridFraction units exponent).2

theorem floor_bounds {x : ℚ} {num den : Nat} (hden : 0 < den) (hx : x * den = num) :
    ((num / den : Nat) : ℚ) ≤ x ∧ x < ((num / den : Nat) : ℚ) + 1 := by
  have hd : (0 : ℚ) < den := Nat.cast_pos.mpr hden
  constructor
  · refine le_of_mul_le_mul_right ?_ hd
    rw [hx]
    exact_mod_cast Nat.div_mul_le_self num den
  · refine lt_of_mul_lt_mul_right ?_ hd.le
    rw [hx]
    exact_mod_cast Nat.lt_mul_of_div_lt (Nat.lt_succ_self _) hden

/-- A number of units lies between the two grid points around it. -/
theorem pointBelow_bounds (units : Nat) (exponent : Int) :
    decimalUnits (pointBelow units exponent) exponent ≤ units ∧
      (units : ℚ) < decimalUnits (pointBelow units exponent + 1) exponent := by
  have hstep : (0 : ℚ) < (10 : ℚ) ^ exponent * one :=
    mul_pos (zpow_pos (by norm_num) _) (Nat.cast_pos.mpr one_pos)
  have hfloor : ((pointBelow units exponent : Nat) : ℚ) ≤ units / ((10 : ℚ) ^ exponent * one) ∧
      units / ((10 : ℚ) ^ exponent * one) < ((pointBelow units exponent : Nat) : ℚ) + 1 := by
    unfold pointBelow gridFraction
    have hone : 0 < one := one_pos
    generalize one = unit at hstep hone ⊢
    by_cases he : 0 ≤ exponent
    · rw [if_pos he]
      refine floor_bounds (Nat.mul_pos hone (Nat.pow_pos (by decide))) ?_
      rw [Nat.pow_eq, Nat.cast_mul, ← zpow_of_nonneg he, mul_comm (unit : ℚ)]
      exact div_mul_cancel₀ _ hstep.ne'
    · rw [if_neg he]
      refine floor_bounds hone ?_
      rw [Nat.pow_eq, Nat.cast_mul, div_mul_eq_mul_div, div_eq_iff hstep.ne']
      calc (units : ℚ) * unit
          = units * ((10 : ℚ) ^ exponent * ((10 ^ (-exponent).toNat : Nat) : ℚ)) * unit := by
            rw [zpow_of_neg he, mul_one]
        _ = units * ((10 ^ (-exponent).toNat : Nat) : ℚ) * ((10 : ℚ) ^ exponent * unit) := by ring
  rw [le_div_iff₀ hstep, div_lt_iff₀ hstep] at hfloor
  unfold decimalUnits
  rw [mul_assoc, mul_assoc, Nat.cast_succ]
  exact hfloor

/-- **The decimal of a length**: one of the two grid points around the number that reads back, if there
    is one. -/
theorem atLength_spec (units : Nat) (point : Int) (n : Nat) :
    (∃ q, atLength units point n = some (q, point - n) ∧ readsBack units q (point - n) = true) ∨
      atLength units point n = none ∧ ¬readsBack units (pointBelow units (point - n)) (point - n) ∧
        ¬readsBack units (pointBelow units (point - n) + 1) (point - n) := by
  unfold atLength pointBelow gridFraction
  dsimp only
  generalize (if 0 ≤ point - (n : Int) then (units, one * Nat.pow 10 (point - (n : Int)).toNat)
    else (units * Nat.pow 10 (-(point - (n : Int))).toNat, one)) = f
  generalize f.1 / f.2 = q
  by_cases hlow : readsBack units q (point - n) = true
  · by_cases hhigh : readsBack units (q + 1) (point - n) = true
    · rw [if_pos (by rw [hlow, hhigh]; rfl)]
      split
      · exact .inl ⟨q, rfl, hlow⟩
      · split
        · exact .inl ⟨q + 1, rfl, hhigh⟩
        · refine .inl ⟨_, rfl, ?_⟩
          split
          · exact hlow
          · exact hhigh
    · rw [if_neg (by simp [hhigh]), if_pos hlow]
      exact .inl ⟨q, rfl, hlow⟩
  · rw [if_neg (by simp [hlow]), if_neg hlow]
    by_cases hhigh : readsBack units (q + 1) (point - n) = true
    · rw [if_pos hhigh]
      exact .inl ⟨q + 1, rfl, hhigh⟩
    · rw [if_neg hhigh]
      exact .inr ⟨rfl, hlow, hhigh⟩

/-- **The search finds a decimal that reads back** when one of the lengths that it tries has one. -/
theorem searchLength_spec {units : Nat} {point : Int} {k : Nat}
    (h : readsBack units (pointBelow units (point - k)) (point - k) = true ∨
      readsBack units (pointBelow units (point - k) + 1) (point - k) = true) :
    ∀ tries n : Nat, n ≤ k → k < n + tries →
      ∃ q e, searchLength units point tries n = some (q, e) ∧ readsBack units q e = true
  | 0, n, hle, hlt => by omega
  | tries + 1, n, hle, hlt => by
    unfold searchLength
    rcases atLength_spec units point n with ⟨q, hfound, hreads⟩ | ⟨hnone, hlow, hhigh⟩
    · rw [hfound]
      exact ⟨q, _, rfl, hreads⟩
    · rw [hnone]
      have hne : n ≠ k := fun heq => by
        rw [heq] at hlow hhigh
        exact h.elim hlow hhigh
      exact searchLength_spec h tries (n + 1) (by omega) (by omega)

/-- The power of ten that a search upward ends at is large enough, if one within reach is. -/
theorem scaleUp_spec {num den : Nat} : ∀ {fuel j : Nat}, den ≤ num * 10 ^ (j + fuel) →
    den ≤ num * 10 ^ scaleUp num den fuel j
  | 0, _, h => h
  | fuel + 1, j, h => by
    unfold scaleUp
    split
    · rename_i hfits
      exact hfits
    · refine scaleUp_spec ?_
      rwa [show j + 1 + fuel = j + (fuel + 1) by omega]

theorem one_le_pow : one ≤ 10 ^ 400 := by decide +kernel

theorem pow_le_of_length {n k : Nat} (hn : 0 < n) (h : (Nat.toDigits 10 n).length = k + 1) :
    10 ^ k ≤ n := by
  rcases Nat.eq_zero_or_pos k with hk | hk
  · rw [hk]
    exact hn
  · by_contra hlt
    have := (Nat.length_toDigits_le_iff (by decide) hk).mpr (Nat.lt_of_not_le hlt)
    omega

/-- **The decimal point** stands behind the first digit or before it. -/
theorem decimalPoint_spec {units : Nat} (hpos : 0 < units) :
    decimalUnits 1 (decimalPoint units one - 1) ≤ units := by
  unfold decimalUnits decimalPoint
  have hscale : one ≤ units * 10 ^ scaleUp units one 400 0 :=
    scaleUp_spec (by
      rw [Nat.zero_add]
      exact Nat.le_trans one_le_pow (Nat.le_mul_of_pos_left _ hpos))
  have hone : 0 < one := one_pos
  rw [Nat.cast_one, one_mul]
  generalize one = unit at hone hscale ⊢
  by_cases hle : unit ≤ units
  · rw [if_pos hle]
    obtain ⟨k, hk⟩ : ∃ k, (Nat.toDigits 10 (units / unit)).length = k + 1 :=
      ⟨_, (Nat.succ_pred_eq_of_pos Nat.length_toDigits_pos).symm⟩
    have hpow := Nat.mul_le_mul_right unit (pow_le_of_length (Nat.div_pos hle hone) hk)
    have := Nat.le_trans hpow (Nat.div_mul_le_self units unit)
    rw [hk, Nat.cast_succ, add_sub_cancel_right, zpow_natCast]
    exact_mod_cast this
  · rw [if_neg hle, show (1 - (scaleUp units unit 400 0 : Int) - 1) = -(scaleUp units unit 400 0 : Int) by
      omega, zpow_neg, zpow_natCast, inv_mul_le_iff₀ (pow_pos (by norm_num) _), mul_comm]
    exact_mod_cast hscale

theorem IsNear.of_lt {units : Nat} {x : ℚ} (hlow : (4 * units - marginBelow units : ℚ) < 4 * x)
    (hhigh : 4 * x < 4 * units + 2 * grid units) : IsNear units x :=
  ⟨hlow.le, hhigh.le, fun _ => ⟨hlow, hhigh⟩⟩

/-- Below a count where the grid gets finer there are 52 bits. -/
theorem marginBelow_cases (units : Nat) :
    marginBelow units = 2 * grid units ∨ marginBelow units = grid units ∧ units = 2 ^ 52 * grid units := by
  unfold marginBelow
  split
  · rename_i hfirst
    refine .inr ⟨rfl, ?_⟩
    have hwide : gridShift units ≠ 0 := fun hzero => by
      have := hfirst.2
      unfold grid at this
      rw [hzero] at this
      exact absurd this (by decide)
    have hlog : bitLength units = 53 + gridShift units := by
      unfold gridShift precision at hwide ⊢
      omega
    unfold grid
    rw [← Nat.pow_add, show 52 + gridShift units = bitLength units - 1 by omega]
    exact hfirst.1
  · exact .inl rfl

/-- **Seventeen digits are enough**: on a decimal grid that fine, one of the two points around a count
    reads back. -/
theorem readsBack_of_fine {units : Nat} (hpos : 0 < units) (hgrid : grid units ∣ units) {exponent : Int}
    (hfine : decimalUnits (10 ^ 16) exponent ≤ units) :
    readsBack units (pointBelow units exponent) exponent = true ∨
      readsBack units (pointBelow units exponent + 1) exponent = true := by
  rw [readsBack_iff hpos hgrid, readsBack_iff hpos hgrid]
  obtain ⟨hlow, hhigh⟩ := pointBelow_bounds units exponent
  obtain ⟨m, hm, hupper, _⟩ := exists_mul_grid hgrid
  have hstep : 0 < grid units := grid_pos units
  unfold decimalUnits at hlow hhigh hfine ⊢
  rw [mul_assoc] at hlow hhigh hfine ⊢
  rw [mul_assoc ((pointBelow units exponent + 1 : Nat) : ℚ)]
  generalize (10 : ℚ) ^ exponent * (one : ℚ) = step at hlow hhigh hfine ⊢
  generalize pointBelow units exponent = below at hlow hhigh ⊢
  have hgridQ : (0 : ℚ) < grid units := Nat.cast_pos.mpr hstep
  push_cast at hlow hhigh hfine ⊢
  rcases marginBelow_cases units with hmargin | ⟨hmargin, hfirst⟩
  · have hunits : (units : ℚ) < 2 ^ 53 * grid units := by
      have := Nat.mul_lt_mul_of_pos_right hupper hstep
      rw [hm] at this
      exact_mod_cast this
    have hmarginQ : (marginBelow units : ℚ) = 2 * grid units := by rw [hmargin]; push_cast; rfl
    by_cases hhalf : 2 * (units - below * step) < step
    · refine .inl (.of_lt ?_ ?_) <;> linarith
    · refine .inr (.of_lt ?_ ?_) <;> linarith
  · have hunits : (units : ℚ) = 2 ^ 52 * grid units := by exact_mod_cast hfirst
    have hmarginQ : (marginBelow units : ℚ) = grid units := by rw [hmargin]
    refine .inr (.of_lt ?_ ?_) <;> linarith

/-- **The shortest decimal of a count reads back.** -/
theorem searchLength_finds {units : Nat} (hpos : 0 < units) (hgrid : grid units ∣ units) :
    ∃ q e, searchLength units (decimalPoint units one) 17 1 = some (q, e) ∧
      IsNear units (decimalUnits q e) := by
  have hfine : decimalUnits (10 ^ 16) (decimalPoint units one - 17) ≤ units := by
    refine le_trans (le_of_eq ?_) (decimalPoint_spec hpos)
    unfold decimalUnits
    rw [show decimalPoint units one - 1 = 16 + (decimalPoint units one - 17) by omega,
      zpow_add₀ (by norm_num)]
    push_cast
    ring
  obtain ⟨q, e, hfound, hreads⟩ := searchLength_spec (readsBack_of_fine hpos hgrid hfine) 17 1
    (by decide) (by decide)
  exact ⟨q, e, hfound, (readsBack_iff hpos hgrid q e).mp hreads⟩

/-! ## 3. Decimals as numbers -/

theorem ofRounded_of_eq (negative : Bool) {units : Units} {num den : Nat}
    (h : roundUnits num den = units) : ofRounded negative num den = .finite negative units := by
  unfold ofRounded
  have hbelow : roundUnits num den < overflow := h ▸ units.below
  rw [dif_pos hbelow]
  obtain ⟨count, below, onGrid⟩ := units
  subst h
  rfl

/-- A decimal near a count is within a factor of two of it. -/
theorem IsNear.factor {units : Nat} {x : ℚ} (hpos : 0 < units) (hgrid : grid units ∣ units)
    (h : IsNear units x) : (units : ℚ) ≤ 2 * x ∧ x ≤ 2 * units := by
  have hmargin : (marginBelow units : ℚ) ≤ 2 * units := by
    exact_mod_cast marginBelow_le_four hpos hgrid
  have hstep : (grid units : ℚ) ≤ units := by exact_mod_cast Nat.le_of_dvd hpos hgrid
  have := h.low
  have := h.high
  constructor <;> linarith

theorem two_overflow_le : 2 * overflow ≤ 10 ^ 400 * one := by decide +kernel

theorem two_one_le : 2 * one ≤ 10 ^ 400 := by decide +kernel

/-- A decimal by the place of its first digit. -/
theorem decimalUnits_bounds {m k : Nat} (hm : m ≠ 0) (hk : (Nat.toDigits 10 m).length = k + 1) (e : Int) :
    (10 : ℚ) ^ ((k : Int) + e) * one ≤ decimalUnits m e ∧
      decimalUnits m e < (10 : ℚ) ^ ((k : Int) + 1 + e) * one := by
  have hone : (0 : ℚ) < one := Nat.cast_pos.mpr one_pos
  have hten : (0 : ℚ) < (10 : ℚ) ^ e := zpow_pos (by norm_num) e
  have hfirst : ((10 ^ k : Nat) : ℚ) ≤ m := by
    exact_mod_cast pow_le_of_length (Nat.pos_of_ne_zero hm) hk
  have hlast : (m : ℚ) < ((10 ^ (k + 1) : Nat) : ℚ) := by
    exact_mod_cast (Nat.length_toDigits_le_iff (by decide) (Nat.succ_pos k)).mp hk.le
  unfold decimalUnits
  constructor
  · rw [zpow_add₀ (by norm_num), zpow_natCast]
    refine mul_le_mul_of_nonneg_right (mul_le_mul_of_nonneg_right ?_ hten.le) hone.le
    exact_mod_cast hfirst
  · rw [zpow_add₀ (by norm_num), ← Nat.cast_succ, zpow_natCast]
    refine mul_lt_mul_of_pos_right (mul_lt_mul_of_pos_right ?_ hten) hone
    exact_mod_cast hlast

/-- **A decimal near a count is read as it.** -/
theorem ofDecimal_of_isNear (negative : Bool) {units : Units} (hpos : 0 < units.count) {m : Nat}
    {e : Int} (h : IsNear units (decimalUnits m e)) : ofDecimal negative m e = .finite negative units := by
  obtain ⟨hlow, hhigh⟩ := h.factor hpos units.onGrid
  have hunits : (1 : ℚ) ≤ units.count := by exact_mod_cast hpos
  have hbelow : (units.count : ℚ) < overflow := by exact_mod_cast units.below
  have hone : (0 : ℚ) < one := Nat.cast_pos.mpr one_pos
  have hoverflow : (2 * overflow : ℚ) ≤ 10 ^ 400 * one := by exact_mod_cast two_overflow_le
  have hsmall : (2 * one : ℚ) ≤ 10 ^ 400 := by exact_mod_cast two_one_le
  have hround {num den : Nat} (hden : 0 < den)
      (hx : decimalUnits m e * den = ((num * one : Nat) : ℚ)) :
      ofRatio negative num den = .finite negative units := by
    have hd : (0 : ℚ) < den := Nat.cast_pos.mpr hden
    refine ofRounded_of_eq negative (roundUnits_of_isNear units.onGrid hden ?_)
    rwa [← hx, mul_div_cancel_right₀ _ hd.ne']
  have hm : m ≠ 0 := fun hzero => by
    rw [hzero, decimalUnits, Nat.cast_zero, zero_mul, zero_mul] at hlow
    linarith
  obtain ⟨k, hk⟩ : ∃ k, (Nat.toDigits 10 m).length = k + 1 :=
    ⟨_, (Nat.succ_pred_eq_of_pos Nat.length_toDigits_pos).symm⟩
  obtain ⟨hfirst, hlast⟩ := decimalUnits_bounds hm hk e
  generalize (overflow : ℚ) = beyond at hbelow hoverflow
  generalize hreach : (10 : ℚ) ^ 400 = reach at hoverflow hsmall
  unfold ofDecimal
  dsimp only
  rw [if_neg hm, hk, Nat.cast_succ, if_neg, if_neg]
  · unfold decimalUnits at hround
    split
    · rename_i he
      refine hround Nat.one_pos ?_
      rw [zpow_of_nonneg he, Nat.pow_eq]
      push_cast
      ring
    · rename_i he
      refine hround (Nat.pow_pos (by decide)) ?_
      rw [Nat.pow_eq, mul_right_comm, mul_assoc (m : ℚ), zpow_of_neg he]
      push_cast
      ring
  · -- a decimal that far below the format is less than half a unit
    intro hfar
    have hpow : (10 : ℚ) ^ ((k : Int) + 1 + e) ≤ (10 : ℚ) ^ (-400 : Int) :=
      zpow_le_zpow_right₀ (by norm_num) (by omega)
    have hinv : (10 : ℚ) ^ (-400 : Int) * reach = 1 := by
      rw [← hreach, ← zpow_natCast, ← zpow_add₀ (by norm_num)]
      rfl
    have := mul_le_mul_of_nonneg_right hpow hone.le
    have := mul_le_mul_of_nonneg_left hsmall (zpow_pos (by norm_num) (-400) : (0 : ℚ) < 10 ^ (-400 : Int)).le
    linarith
  · -- one that far above it is twice the largest count
    intro hfar
    have hpow : reach ≤ (10 : ℚ) ^ ((k : Int) + e) := by
      rw [← hreach, ← zpow_natCast]
      exact zpow_le_zpow_right₀ (by norm_num) (by omega)
    have := mul_le_mul_of_nonneg_right hpow hone.le
    linarith

end Dripline.Double
