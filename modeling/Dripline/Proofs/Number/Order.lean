import Dripline.Proofs.Number.Nearest

/-!
# Quotients of the format and their order

Quotients are rounded to the nearest number, and keep their order:

* `exists_ofQuotient`: a quotient of at most 53 bits before the point is finite, and its count is the nearest
  one;
* `count_le_whole`, `whole_le_count`: rounding does not pass a whole number, and so the whole part of the
  rounded quotient is less than one away from the exact one (`whole_near`);
* `le_trans`, `ofQuotient_le`: the comparison of numbers, and that of quotients, which rounding keeps;
* `exists_of_isPositive`, `exists_times_of_lt`, `count_lt_of_lt`: positive numbers, products that are below
  another number, and the counts of numbers in order.

This is all that the arithmetic of delays needs of rounding: what is below a whole number of milliseconds
may be rounded up to it, but not beyond.
-/

namespace Dripline.Double

/-! ## 1. Whole parts -/

theorem whole_lt_overflow : 2 ^ 53 * one < overflow := by decide +kernel

theorem grid_dvd_whole {n : Nat} (h : n ≤ 2 ^ 53) : grid (n * one) ∣ n * one := by
  unfold one
  generalize 1074 = g
  exact gridShift_mul_dvd h

section Wholes

variable {num den n units : Nat}

/-- A quotient that is not above a whole number of at most 53 bits is not rounded above it. -/
theorem count_le_whole (h : IsNearest units ((num * one : Nat) / den)) (hden : 0 < den) (hn : n ≤ 2 ^ 53)
    (hle : num ≤ n * den) : units ≤ n * one := by
  have hpos : (0 : ℚ) < den := Nat.cast_pos.mpr hden
  refine h.le_of_le (grid_dvd_whole hn) ?_
  rw [div_le_iff₀ hpos, ← Nat.cast_mul, Nat.cast_le]
  calc num * one ≤ n * den * one := Nat.mul_le_mul_right one hle
    _ = n * one * den := by ring

/-- One that is not below it is not rounded below it. -/
theorem whole_le_count (h : IsNearest units ((num * one : Nat) / den)) (hden : 0 < den) (hn : n ≤ 2 ^ 53)
    (hle : n * den ≤ num) : n * one ≤ units := by
  have hpos : (0 : ℚ) < den := Nat.cast_pos.mpr hden
  refine h.le_of_ge (grid_dvd_whole hn) ?_
  rw [le_div_iff₀ hpos, ← Nat.cast_mul, Nat.cast_le]
  calc n * one * den = n * den * one := by ring
    _ ≤ num * one := Nat.mul_le_mul_right one hle

/-- **The whole part of the number nearest to a quotient** is less than one away from the quotient. -/
theorem whole_near (h : IsNearest units ((num * one : Nat) / den)) (hden : 0 < den)
    (hle : num ≤ 2 ^ 53 * den) :
    num < (units / one + 1) * den ∧ units / one * den < num + den := by
  have hfloor : num / den ≤ 2 ^ 53 := Nat.div_le_of_le_mul (Nat.mul_comm (2 ^ 53) den ▸ hle)
  have hlow := whole_le_count h hden hfloor (Nat.div_mul_le_self num den)
  rw [← Nat.le_div_iff_mul_le one_pos] at hlow
  have hless : num < (units / one + 1) * den :=
    (Nat.div_lt_iff_lt_mul hden).mp (Nat.lt_succ_of_le hlow)
  refine ⟨hless, ?_⟩
  obtain ⟨n, hn⟩ : ∃ n, n = (num + den - 1) / den := ⟨_, rfl⟩
  have hceil : num ≤ n * den := by
    have := Nat.lt_div_mul_add hden (a := num + den - 1)
    rw [← hn] at this
    omega
  have hfew : n ≤ 2 ^ 53 := by
    rw [hn, ← Nat.lt_succ_iff, Nat.div_lt_iff_lt_mul hden, Nat.succ_mul]
    omega
  have hhigh := Nat.div_le_of_le_mul (Nat.mul_comm n one ▸ count_le_whole h hden hfew hceil)
  calc units / one * den ≤ n * den := Nat.mul_le_mul_right den hhigh
    _ ≤ num + den - 1 := by rw [hn]; exact Nat.div_mul_le_self _ _
    _ < num + den := by omega

end Wholes

/-- **A quotient of at most 53 bits** before the point is finite and rounded to the nearest number. -/
theorem exists_ofQuotient (num : Int) {den : Nat} (hden : 0 < den) (hle : num.natAbs ≤ 2 ^ 53 * den) :
    ∃ units : Units, ofQuotient num den = .finite (num < 0) units ∧
      IsNearest units ((num.natAbs * one : Nat) / den) := by
  have hnearest := isNearest_roundUnits (num.natAbs * one) hden
  have hfinite : roundUnits (num.natAbs * one) den < overflow :=
    Nat.lt_of_le_of_lt (count_le_whole hnearest hden (Nat.le_refl _) hle) whole_lt_overflow
  refine ⟨⟨_, hfinite, gridShift_roundUnits_dvd _ _⟩, ?_, hnearest⟩
  unfold ofQuotient ofRatio ofRounded
  rw [dif_pos hfinite]

/-! ## 2. Order -/

protected theorem le_trans {x y z : Double} (hxy : x.le y = true) (hyz : y.le z = true) : x.le z = true := by
  cases x <;> cases y <;> cases z <;> simp_all [le]
  case infinite.infinite.infinite r s t => cases s <;> simp_all
  case finite.finite.finite => exact Int.le_trans hxy hyz

theorem ofRounded_le_of_opposite {num num' den : Nat} :
    (ofRounded true num den).le (ofRounded false num' den) = true := by
  unfold ofRounded
  split <;> split <;> simp [le, signedUnits]

theorem ofRounded_mono {num num' den : Nat} (hden : 0 < den) (hle : num ≤ num') :
    (ofRounded false num den).le (ofRounded false num' den) = true ∧
      (ofRounded true num' den).le (ofRounded true num den) = true := by
  have hcounts := roundUnits_mono hden hle
  unfold ofRounded
  by_cases hfinite : roundUnits num' den < overflow
  · have hless : roundUnits num den < overflow := Nat.lt_of_le_of_lt hcounts hfinite
    simp [hfinite, hless, le, signedUnits, hcounts]
  · by_cases hless : roundUnits num den < overflow <;> simp [hfinite, hless, le]

/-- **Quotients keep their order** when they are rounded. -/
theorem ofQuotient_le {a b : Int} {den : Nat} (hden : 0 < den) (hle : a ≤ b) :
    (ofQuotient a den).le (ofQuotient b den) = true := by
  unfold ofQuotient ofRatio
  by_cases hb : b < 0
  · have hmagnitude : b.natAbs * one ≤ a.natAbs * one := Nat.mul_le_mul_right one (by omega)
    rw [decide_eq_true hb, decide_eq_true (by omega : a < 0)]
    exact (ofRounded_mono hden hmagnitude).2
  · rw [decide_eq_false hb]
    by_cases ha : a < 0
    · rw [decide_eq_true ha]
      exact ofRounded_le_of_opposite
    · have hmagnitude : a.natAbs * one ≤ b.natAbs * one := Nat.mul_le_mul_right one (by omega)
      rw [decide_eq_false ha]
      exact (ofRounded_mono hden hmagnitude).1

/-! ## 3. Signs -/

/-- A finite number above zero. -/
theorem exists_of_isPositive {x : Double} (hfinite : x.isFinite = true) (hpositive : x.isPositive = true) :
    ∃ units : Units, x = .finite false units ∧ 0 < units.count := by
  cases x with
  | nan => cases hfinite
  | infinite negative => cases hfinite
  | finite negative units =>
    have hsigned : signedUnits false 0 < signedUnits negative units := of_decide_eq_true hpositive
    unfold signedUnits at hsigned
    cases negative with
    | false => exact ⟨units, rfl, by simpa using hsigned⟩
    | true => simp at hsigned; omega

/-- A product with a number above zero that is below another number is finite. -/
theorem exists_times_of_lt {x y : Double} {k : Nat} (hfinite : x.isFinite = true)
    (hpositive : x.isPositive = true) (hlt : (x.times k).lt y = true) :
    ∃ units : Units, x.times k = .finite false units := by
  obtain ⟨count, rfl, _⟩ := exists_of_isPositive hfinite hpositive
  unfold times ofRounded at hlt ⊢
  dsimp only at hlt ⊢
  split
  · exact ⟨_, rfl⟩
  · rename_i hbeyond
    rw [dif_neg hbeyond] at hlt
    cases y with
    | infinite negative => simp [lt] at hlt
    | _ => cases hlt

/-- What is above a number without a sign has none either. -/
theorem count_lt_of_lt {negative : Bool} {m n : Units}
    (h : (Double.finite false m).lt (.finite negative n) = true) : negative = false ∧ m.count < n.count := by
  have hsigned : signedUnits false m < signedUnits negative n := of_decide_eq_true h
  cases negative with
  | false => exact ⟨rfl, Int.ofNat_lt.mp hsigned⟩
  | true =>
    simp only [signedUnits, Bool.false_eq_true, if_false, if_true] at hsigned
    omega

end Dripline.Double
