/-!
# Double precision numbers

The numbers of the standard 64-bit format, with exact rational arithmetic under every operation:

* a finite number counts units of 2⁻¹⁰⁷⁴, the smallest positive step of the format, so that every
  comparison of finite numbers is one of whole numbers;
* `Units` are the counts that the format has, so that there are no other numbers than its own;
* `roundUnits` is the only rounding: to 53 significant bits, a tie to the even neighbour. It ends at
  such a count (`gridShift_roundUnits_dvd`);
* `ofRatio` rounds a quotient, `times` a product; beyond the largest number both give infinity;
* `lt`, `le` and `same` are the format's comparisons: every one is false of a NaN, and the two
  zeros are the same number.
-/

namespace Dripline

namespace Double

/-- How many units make one. -/
def one : Nat := Nat.pow 2 1074

/-- The first count of units that is beyond the format. -/
def overflow : Nat := Nat.pow 2 2098

/-- The number of significant bits. -/
def precision : Nat := 53

/-- The number of binary digits of a number, zero for zero. -/
def bitLength (n : Nat) : Nat := if n = 0 then 0 else Nat.log2 n + 1

/-- The width of the grid, as a power of two, on which a number with that whole part is rounded. -/
def gridShift (whole : Nat) : Nat := bitLength whole - precision

/-- The multiple of `step` nearest to `num / den`, a tie to the even multiple. -/
def roundTo (step num den : Nat) : Nat :=
  let d := den * step
  let q := num / d
  let twice := 2 * (num % d)
  if twice < d then q * step
  else if d < twice then (q + 1) * step
  else if q % 2 = 0 then q * step else (q + 1) * step

/-- The count of units nearest to `num / den` among those with at most 53 significant bits. -/
def roundUnits (num den : Nat) : Nat :=
  roundTo (Nat.pow 2 (gridShift (num / den))) num den

theorem gridShift_le_iff {n g : Nat} : gridShift n ≤ g ↔ n < Nat.pow 2 (precision + g) := by
  unfold gridShift bitLength precision
  by_cases hn : n = 0
  · rw [if_pos hn, hn]
    exact iff_of_true (Nat.zero_le _) (Nat.two_pow_pos _)
  · rw [if_neg hn, Nat.pow_eq, ← Nat.log2_lt hn]
    omega

/-- A multiple of a step by at most 53 bits lies on the grid of its own width. -/
theorem gridShift_mul_dvd {k g : Nat} (h : k ≤ Nat.pow 2 precision) :
    Nat.pow 2 (gridShift (k * Nat.pow 2 g)) ∣ k * Nat.pow 2 g := by
  simp only [Nat.pow_eq] at h ⊢
  by_cases hk : k = 2 ^ precision
  · rw [hk, ← Nat.pow_add]
    have hshift : gridShift (2 ^ (precision + g)) ≤ g + 1 :=
      gridShift_le_iff.mpr (Nat.pow_lt_pow_right (by decide) (by omega))
    exact Nat.pow_dvd_pow 2 (Nat.le_trans hshift (by unfold precision; omega))
  · have hlt : k * 2 ^ g < 2 ^ (precision + g) := by
      rw [Nat.pow_add]
      exact Nat.mul_lt_mul_of_pos_right (by omega) (Nat.two_pow_pos g)
    exact Nat.dvd_trans (Nat.pow_dvd_pow 2 (gridShift_le_iff.mpr hlt)) (Nat.dvd_mul_left _ k)

theorem roundTo_eq_mul (step num den : Nat) :
    ∃ k, roundTo step num den = k * step ∧ k ≤ num / den / step + 1 := by
  unfold roundTo
  rw [Nat.div_div_eq_div_mul]
  dsimp only
  generalize num / (den * step) = q
  split
  · exact ⟨q, rfl, Nat.le_succ q⟩
  · split
    · exact ⟨q + 1, rfl, Nat.le_refl _⟩
    · split
      · exact ⟨q, rfl, Nat.le_succ q⟩
      · exact ⟨q + 1, rfl, Nat.le_refl _⟩

/-- **Rounding ends on the grid** of the count that it ends at. -/
theorem gridShift_roundUnits_dvd (num den : Nat) :
    Nat.pow 2 (gridShift (roundUnits num den)) ∣ roundUnits num den := by
  obtain ⟨k, hk, hle⟩ := roundTo_eq_mul (2 ^ gridShift (num / den)) num den
  have hwhole : num / den < 2 ^ (precision + gridShift (num / den)) :=
    gridShift_le_iff.mp (Nat.le_refl _)
  have hquotient : num / den / 2 ^ gridShift (num / den) < 2 ^ precision := by
    rw [Nat.div_lt_iff_lt_mul (Nat.two_pow_pos _), ← Nat.pow_add]
    exact hwhole
  have hrounded : roundUnits num den = k * 2 ^ gridShift (num / den) := hk
  have hmultiple : k ≤ 2 ^ precision := by omega
  rw [hrounded]
  exact gridShift_mul_dvd hmultiple

/-- A count of units that the format has: below its end, and on the grid of its own width. -/
structure Units where
  count : Nat
  below : count < overflow
  onGrid : Nat.pow 2 (gridShift count) ∣ count
deriving DecidableEq, Repr

instance : CoeOut Units Nat := ⟨Units.count⟩

theorem overflow_pos : 0 < overflow := by
  unfold overflow
  generalize 2098 = n
  exact Nat.two_pow_pos n

/-- No units. -/
def Units.zero : Units := ⟨0, overflow_pos, Nat.dvd_zero _⟩

end Double

/-- A number of the double precision format. `finite negative units` stands for
    `± units · 2⁻¹⁰⁷⁴`; zero has two signs. -/
inductive Double where
  | nan
  | infinite (negative : Bool)
  | finite (negative : Bool) (units : Double.Units)
deriving DecidableEq, Repr, Inhabited

namespace Double

/-- The number of units nearest to `± num / den`, infinity beyond the format. -/
def ofRounded (negative : Bool) (num den : Nat) : Double :=
  if h : roundUnits num den < overflow then
    .finite negative ⟨roundUnits num den, h, gridShift_roundUnits_dvd num den⟩
  else .infinite negative

/-- The number nearest to `± num / den`. -/
def ofRatio (negative : Bool) (num den : Nat) : Double := ofRounded negative (num * one) den

/-- The number nearest to an integer. -/
def ofInt (i : Int) : Double := ofRatio (i < 0) i.natAbs 1

/-- The quotient of two integers, rounded once. The divisor is positive. -/
def ofQuotient (num : Int) (den : Nat) : Double := ofRatio (num < 0) num.natAbs den

/-- The number nearest to `± mantissa · 10 ^ exponent`. Magnitudes far outside the format are
    settled by their number of digits alone. -/
def ofDecimal (negative : Bool) (mantissa : Nat) (exponent : Int) : Double :=
  let digits : Int := (Nat.toDigits 10 mantissa).length
  if mantissa = 0 then .finite negative .zero
  else if 400 < digits + exponent then .infinite negative
  else if digits + exponent < -400 then .finite negative .zero
  else if 0 ≤ exponent then ofRatio negative (mantissa * Nat.pow 10 exponent.toNat) 1
  else ofRatio negative mantissa (Nat.pow 10 (-exponent).toNat)

/-- The product with a positive whole number, rounded once. -/
def times (x : Double) (k : Nat) : Double :=
  match x with
  | .nan => .nan
  | .infinite negative => .infinite negative
  | .finite negative units => ofRounded negative (units * k) 1

/-- The signed count of units of a finite number. -/
def signedUnits (negative : Bool) (units : Nat) : Int := if negative then -units else units

/-- The number of a signed count of units, rounded. -/
def ofSignedUnits (units : Int) : Double := ofRounded (units < 0) units.natAbs 1

/-- The sum, rounded once. -/
def plus : Double → Double → Double
  | .nan, _ => .nan
  | _, .nan => .nan
  | .infinite s, .infinite t => if s = t then .infinite s else .nan
  | .infinite s, .finite _ _ => .infinite s
  | .finite _ _, .infinite t => .infinite t
  | .finite s m, .finite t n =>
    if m.count = 0 && n.count = 0 then .finite (s && t) .zero
    else ofSignedUnits (signedUnits s m + signedUnits t n)

/-- The number with the other sign. -/
def negate : Double → Double
  | .nan => .nan
  | .infinite s => .infinite !s
  | .finite s m => .finite (!s) m

/-- Whether the number is neither infinite nor a NaN. -/
def isFinite : Double → Bool
  | .finite _ _ => true
  | _ => false

/-- Whether the number is a zero of either sign. -/
def isZero : Double → Bool
  | .finite _ units => units.count == 0
  | _ => false

/-- Strictly smaller. -/
def lt : Double → Double → Bool
  | .nan, _ => false
  | _, .nan => false
  | .infinite s, .infinite t => s && !t
  | .infinite s, .finite _ _ => s
  | .finite _ _, .infinite t => !t
  | .finite s m, .finite t n => decide (signedUnits s m < signedUnits t n)

/-- Smaller or the same. -/
def le : Double → Double → Bool
  | .nan, _ => false
  | _, .nan => false
  | .infinite s, .infinite t => s || !t
  | .infinite s, .finite _ _ => s
  | .finite _ _, .infinite t => !t
  | .finite s m, .finite t n => decide (signedUnits s m ≤ signedUnits t n)

/-- The same number: a NaN is not the same as anything, and the two zeros are one number. -/
def same (x y : Double) : Bool := le x y && le y x

/-- The zero with a positive sign. -/
def zero : Double := .finite false .zero

/-- Greater than zero. -/
def isPositive (x : Double) : Bool := lt zero x

/-- The whole part toward zero of a finite number. -/
def truncUnits (negative : Bool) (units : Nat) : Int := signedUnits negative (units / one)

/-- Whether a number is finite and has no fraction. -/
def isWhole : Double → Bool
  | .finite _ units => units.count % one == 0
  | _ => false

end Double

end Dripline
