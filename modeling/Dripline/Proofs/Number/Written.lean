import Dripline.Number.Reading
import Dripline.Proofs.Number.Shortest

/-!
# Written numbers

The text of a number as its readers see it:

* `digitsValue`: zeros in front of digits do not count, and zeros behind them multiply;
* `IsWritten`: a whole part with a fraction or an exponent, and the value that the digits give;
* **`isWritten_magnitudeChars`**: the text of a number is of that form, and whatever decimal has its value
  is read as the number again.
-/

namespace Dripline.Double

/-! ## 1. Digits -/

open Text

theorem readNatFrom?_eq_ofDigitChars {cs : List Char} (h : ∀ c ∈ cs, isDigit c = true) (acc : Nat) :
    readNatFrom? 10 acc cs = some (Nat.ofDigitChars 10 cs acc) := by
  induction cs generalizing acc with
  | nil => rfl
  | cons c cs ih =>
    have hc : isDigit c = true := h c List.mem_cons_self
    have hrange : '0' ≤ c ∧ c ≤ '9' := by simpa [isDigit] using hc
    have hlt : c.toNat - '0'.toNat < 10 := by
      have : c.toNat ≤ '9'.toNat := hrange.2
      have h9 : '9'.toNat = 57 := rfl
      have h0 : '0'.toNat = 48 := rfl
      omega
    have hvalue : digitValue? c = some (c.toNat - '0'.toNat) := if_pos hc
    unfold readNatFrom?
    rw [hvalue]
    dsimp only
    rw [if_pos hlt, ih (fun d hd => h d (List.mem_cons_of_mem c hd)), Nat.ofDigitChars_cons, Nat.mul_comm]

theorem digitsValue_eq {cs : List Char} (h : ∀ c ∈ cs, isDigit c = true) :
    digitsValue cs = Nat.ofDigitChars 10 cs 0 := by
  unfold digitsValue
  rw [readNatFrom?_eq_ofDigitChars h]
  rfl

theorem decimal_eq (n : Nat) : decimal n = Nat.toDigits 10 n := by
  unfold decimal
  rw [Nat.toString_eq_ofList_toDigits, String.toList_ofList]

theorem isDigit_of_mem_decimal {n : Nat} {c : Char} (h : c ∈ decimal n) : isDigit c = true := by
  rw [decimal_eq] at h
  exact Nat.isDigit_of_mem_toDigits (by decide) (by decide) h

/-- A positive number does not begin with a zero. -/
theorem decimal_cons {n : Nat} (hn : 0 < n) : ∃ c cs, decimal n = c :: cs ∧ c ≠ '0' := by
  rw [decimal_eq]
  induction n using Nat.strong_induction_on with
  | _ n ih =>
    rw [Nat.toDigits_eq_if (by decide)]
    by_cases hlt : n < 10
    · rw [if_pos hlt]
      have hdigit : ∀ k < 10, 0 < k → Nat.digitChar k ≠ '0' := by decide
      exact ⟨_, [], rfl, hdigit n hlt hn⟩
    · rw [if_neg hlt]
      obtain ⟨c, cs, hcons, hc⟩ := ih (n / 10) (by omega) (by omega)
      exact ⟨c, cs ++ [_], by rw [hcons, List.cons_append], hc⟩

theorem isDigit_of_mem_zeros {k : Nat} {c : Char} (h : c ∈ List.replicate k '0') : isDigit c = true := by
  rw [List.eq_of_mem_replicate h]
  rfl

theorem isDigit_of_mem_padded {width n : Nat} {c : Char} (h : c ∈ padded width n) : isDigit c = true := by
  rcases List.mem_append.mp h with h | h
  · exact isDigit_of_mem_zeros h
  · exact isDigit_of_mem_decimal h

/-- Zeros in front do not count, and zeros at the end multiply. -/
theorem ofDigitChars_zeros_append (k : Nat) (cs : List Char) :
    Nat.ofDigitChars 10 (List.replicate k '0' ++ cs) 0 = Nat.ofDigitChars 10 cs 0 := by
  rw [Nat.ofDigitChars_append, Nat.ofDigitChars_replicate_zero, Nat.mul_zero]

theorem ofDigitChars_append_zeros (cs : List Char) (k : Nat) :
    Nat.ofDigitChars 10 (cs ++ List.replicate k '0') 0 = Nat.ofDigitChars 10 cs 0 * 10 ^ k := by
  rw [Nat.ofDigitChars_append, Nat.ofDigitChars_replicate_zero, Nat.mul_comm]

theorem digitsValue_decimal (n : Nat) : digitsValue (decimal n) = n := by
  rw [digitsValue_eq fun c => isDigit_of_mem_decimal, decimal_eq, Nat.ofDigitChars_ten_toDigits]

theorem digitsValue_padded (width n : Nat) : digitsValue (padded width n) = n := by
  rw [digitsValue_eq fun c => isDigit_of_mem_padded]
  unfold padded
  dsimp only
  rw [ofDigitChars_zeros_append, ← digitsValue_eq fun c => isDigit_of_mem_decimal, digitsValue_decimal]

theorem padded_ne_nil (width n : Nat) : padded width n ≠ [] := by
  unfold padded
  rw [decimal_eq]
  exact List.append_ne_nil_of_right_ne_nil _ Nat.toDigits_ne_nil

/-- Digits without the zeros at their end. -/
theorem exists_dropZeros (cs : List Char) : ∃ k,
    cs = (cs.reverse.dropWhile (· == '0')).reverse ++ List.replicate k '0' := by
  have hzeros : cs.reverse.takeWhile (· == '0') =
      List.replicate (cs.reverse.takeWhile (· == '0')).length '0' :=
    List.eq_replicate_of_mem fun c hc => beq_iff_eq.mp (List.all_eq_true.mp List.all_takeWhile c hc)
  have hsplit := congrArg List.reverse (List.takeWhile_append_dropWhile (p := (· == '0')) (l := cs.reverse))
  generalize (cs.reverse.takeWhile (· == '0')).length = k at hzeros
  rw [List.reverse_append, List.reverse_reverse, hzeros, List.reverse_replicate] at hsplit
  exact ⟨k, hsplit.symm⟩

/-! ## 2. The text of a number -/

/-- Digits of a whole part: no needless zero in front. -/
structure IsWhole (cs : List Char) : Prop where
  digits : ∀ c ∈ cs, isDigit c = true
  leads : cs = ['0'] ∨ ∃ c rest, cs = c :: rest ∧ c ≠ '0'

theorem isWhole_zero : IsWhole ['0'] := ⟨List.forall_mem_singleton.mpr rfl, .inl rfl⟩

/-- A fraction and its point, or nothing. -/
def fractionChars (cs : List Char) : List Char := if cs = [] then [] else '.' :: cs

/-- **Characters that stand for a number**: a whole part with a fraction, or with an exponent. -/
inductive IsWritten (value : ℚ) : List Char → Prop
  | positional {whole fraction : List Char} (hwhole : IsWhole whole)
      (hfraction : ∀ c ∈ fraction, isDigit c = true) (hsome : fraction ≠ [])
      (hvalue : (digitsValue (whole ++ fraction) : ℚ) * (10 : ℚ) ^ (-fraction.length : Int) = value) :
      IsWritten value (whole ++ '.' :: fraction)
  | scientific {whole fraction : List Char} {exponent : Int} (hwhole : IsWhole whole)
      (hfraction : ∀ c ∈ fraction, isDigit c = true)
      (hvalue : (digitsValue (whole ++ fraction) : ℚ) * (10 : ℚ) ^ (exponent - fraction.length) = value) :
      IsWritten value (whole ++ fractionChars fraction ++ 'e' :: exponentText exponent)

section

variable {point : Int} {digits : List Char} {c : Char} {cs : List Char}

theorem forall_digit_append {xs ys : List Char} (hx : ∀ c ∈ xs, isDigit c = true)
    (hy : ∀ c ∈ ys, isDigit c = true) : ∀ c ∈ xs ++ ys, isDigit c = true :=
  fun c h => (List.mem_append.mp h).elim (hx c) (hy c)

/-- Digits with an exponent. -/
theorem isWritten_exponent (hc : c ≠ '0') (hdigits : ∀ b ∈ c :: cs, isDigit b = true) :
    IsWritten ((Nat.ofDigitChars 10 (c :: cs) 0 : ℚ) * (10 : ℚ) ^ (point - (c :: cs).length))
      ([c] ++ fractionChars cs ++ 'e' :: exponentText (point - 1)) := by
  refine .scientific ⟨?_, .inr ⟨c, [], rfl, hc⟩⟩ ?_ ?_
  · exact fun b hb => hdigits b (List.mem_singleton.mp hb ▸ List.mem_cons_self)
  · exact fun b hb => hdigits b (List.mem_cons_of_mem c hb)
  · rw [List.singleton_append, digitsValue_eq hdigits, List.length_cons]
    congr 2
    omega

/-- Digits behind the point. -/
theorem isWritten_behind (hne : digits ≠ []) (hdigits : ∀ b ∈ digits, isDigit b = true) (hpoint : point ≤ 0) :
    IsWritten ((Nat.ofDigitChars 10 digits 0 : ℚ) * (10 : ℚ) ^ (point - digits.length))
      (['0'] ++ '.' :: (List.replicate (-point).toNat '0' ++ digits)) := by
  have hfraction := forall_digit_append (fun b => isDigit_of_mem_zeros (k := (-point).toNat)) hdigits
  refine .positional isWhole_zero hfraction (List.append_ne_nil_of_right_ne_nil _ hne) ?_
  have hzeros : ['0'] ++ (List.replicate (-point).toNat '0' ++ digits) =
      List.replicate ((-point).toNat + 1) '0' ++ digits := rfl
  rw [hzeros, digitsValue_eq (forall_digit_append (fun b => isDigit_of_mem_zeros) hdigits),
    ofDigitChars_zeros_append, List.length_append, List.length_replicate]
  congr 2
  omega

/-- Digits before the point, with zeros up to it. -/
theorem isWritten_before (hc : c ≠ '0') (hdigits : ∀ b ∈ c :: cs, isDigit b = true)
    (hpoint : (c :: cs).length ≤ point.toNat) :
    IsWritten ((Nat.ofDigitChars 10 (c :: cs) 0 : ℚ) * (10 : ℚ) ^ (point - (c :: cs).length))
      (c :: cs ++ List.replicate (point.toNat - (c :: cs).length) '0' ++ '.' :: ['0']) := by
  have hzeros (k : Nat) := forall_digit_append hdigits fun b => isDigit_of_mem_zeros (k := k)
  refine .positional ⟨hzeros _, .inr ⟨c, _, rfl, hc⟩⟩ isWhole_zero.digits (List.cons_ne_nil _ _) ?_
  have hlong : 0 < (c :: cs).length := Nat.succ_pos _
  generalize c :: cs = digits at *
  have hall : digits ++ List.replicate (point.toNat - digits.length) '0' ++ ['0'] =
      digits ++ List.replicate (point.toNat - digits.length + 1) '0' := by
    rw [List.append_assoc, List.replicate_succ']
  rw [hall, digitsValue_eq (hzeros _), ofDigitChars_append_zeros, Nat.cast_mul, Nat.cast_pow, Nat.cast_ofNat,
    mul_assoc, ← zpow_natCast, ← zpow_add₀ (by norm_num)]
  congr 2
  rw [List.length_singleton]
  omega

/-- Digits around the point. -/
theorem isWritten_around (hc : c ≠ '0') (hdigits : ∀ b ∈ c :: cs, isDigit b = true) (hpos : 0 < point)
    (hpoint : point < (c :: cs).length) :
    IsWritten ((Nat.ofDigitChars 10 (c :: cs) 0 : ℚ) * (10 : ℚ) ^ (point - (c :: cs).length))
      ((c :: cs).take point.toNat ++ '.' :: (c :: cs).drop point.toNat) := by
  obtain ⟨k, hk⟩ : ∃ k, point.toNat = k + 1 := ⟨point.toNat - 1, by omega⟩
  refine .positional ⟨fun b hb => hdigits b (List.mem_of_mem_take hb), .inr ⟨c, cs.take k, by rw [hk]; rfl, hc⟩⟩
    (fun b hb => hdigits b (List.mem_of_mem_drop hb)) ?_ ?_
  · exact List.ne_nil_of_length_pos (by rw [List.length_drop]; omega)
  · rw [List.take_append_drop, digitsValue_eq hdigits, List.length_drop]
    congr 2
    omega

end

/-- **A decimal is written as the number that it is.** -/
theorem isWritten_layout {d : Decimal} {c : Char} {cs : List Char} (hcons : d.digits = c :: cs)
    (hc : c ≠ '0') (hdigits : ∀ c ∈ d.digits, isDigit c = true) :
    IsWritten ((Nat.ofDigitChars 10 d.digits 0 : ℚ) * (10 : ℚ) ^ (d.point - d.digits.length)) d.layout := by
  obtain ⟨digits, point⟩ := d
  subst hcons
  unfold Decimal.layout
  dsimp only
  split
  · have hwritten : IsWritten _ ([c] ++ fractionChars cs ++ 'e' :: exponentText (point - 1)) :=
      isWritten_exponent hc hdigits
    cases cs with
    | nil => exact hwritten
    | cons b bs => exact hwritten
  · split
    · rename_i hpoint
      exact isWritten_behind (List.cons_ne_nil c cs) hdigits hpoint
    · split
      · rename_i hpoint
        exact isWritten_before hc hdigits hpoint
      · exact isWritten_around hc hdigits (by omega) (by omega)

/-- The shortest decimal of a positive count: its digits, and a number near the count. -/
theorem shortest_spec {units : Units} (hpos : 0 < units.count) :
    (∃ c cs, (shortest units).digits = c :: cs ∧ c ≠ '0') ∧
      (∀ c ∈ (shortest units).digits, isDigit c = true) ∧
      ∃ q e, IsNear units (decimalUnits q e) ∧ (q : ℚ) * (10 : ℚ) ^ e =
        (Nat.ofDigitChars 10 (shortest units).digits 0 : ℚ) *
          (10 : ℚ) ^ ((shortest units).point - (shortest units).digits.length) := by
  obtain ⟨q, e, hfound, hnear⟩ := searchLength_finds hpos units.onGrid
  have hq : 0 < q := Nat.pos_of_ne_zero fun hzero => by
    have := (hnear.factor hpos units.onGrid).1
    rw [hzero, decimalUnits, Nat.cast_zero, zero_mul, zero_mul, mul_zero] at this
    exact absurd hpos (Nat.not_lt.mpr (by exact_mod_cast this))
  have hshortest : shortest units =
      ⟨((decimal q).reverse.dropWhile (· == '0')).reverse, ((decimal q).length : Int) + e⟩ := by
    unfold shortest
    rw [hfound]
    rfl
  obtain ⟨k, hk⟩ := exists_dropZeros (decimal q)
  rw [hshortest]
  dsimp only
  generalize ((decimal q).reverse.dropWhile (· == '0')).reverse = digits at hk ⊢
  obtain ⟨c, cs, hcons, hc⟩ := decimal_cons hq
  have hdigits : ∀ b ∈ digits, isDigit b = true := fun b hb => by
    refine isDigit_of_mem_decimal (n := q) ?_
    rw [hk]
    exact List.mem_append_left _ hb
  refine ⟨?_, hdigits, q, e, hnear, ?_⟩
  · cases digits with
    | nil =>
      rw [hk, List.nil_append] at hcons
      have : c ∈ List.replicate k '0' := hcons ▸ List.mem_cons_self
      exact absurd (List.eq_of_mem_replicate this) hc
    | cons b bs =>
      rw [hk, List.cons_append, List.cons.injEq] at hcons
      exact ⟨b, bs, rfl, hcons.1 ▸ hc⟩
  · have hvalue : q = Nat.ofDigitChars 10 digits 0 * 10 ^ k := by
      rw [← ofDigitChars_append_zeros, ← hk, decimal_eq, Nat.ofDigitChars_ten_toDigits]
    have hlength : (decimal q).length = digits.length + k := by
      conv_lhs => rw [hk, List.length_append, List.length_replicate]
    have hexponent : ((decimal q).length : Int) + e - digits.length = k + e := by
      rw [hlength]
      omega
    have hcast : (q : ℚ) = Nat.ofDigitChars 10 digits 0 * (10 : ℚ) ^ k := by exact_mod_cast hvalue
    rw [hexponent, zpow_add₀ (by norm_num), zpow_natCast, ← mul_assoc, ← hcast]

/-- **A number is written as characters that are read as it**, after either sign. -/
theorem isWritten_magnitudeChars (units : Units) : ∃ value, IsWritten value (magnitudeChars units) ∧
    ∀ (negative : Bool) (m : Nat) (e : Int), (m : ℚ) * (10 : ℚ) ^ e = value →
      ofDecimal negative m e = .finite negative units := by
  unfold magnitudeChars
  by_cases hzero : units.count = 0
  · rw [if_pos hzero]
    refine ⟨0, .positional isWhole_zero isWhole_zero.digits (List.cons_ne_nil _ _) ?_,
      fun negative m e hvalue => ?_⟩
    · rw [show digitsValue (['0'] ++ ['0']) = 0 by decide, Nat.cast_zero, zero_mul]
    · have hm : m = 0 := by
        have := (mul_eq_zero.mp hvalue).resolve_right (zpow_ne_zero e (by norm_num))
        exact_mod_cast this
      obtain ⟨count, below, onGrid⟩ := units
      cases hzero
      unfold ofDecimal
      rw [hm]
      rfl
  · rw [if_neg hzero]
    have hpos : 0 < units.count := Nat.pos_of_ne_zero hzero
    obtain ⟨⟨c, cs, hcons, hc⟩, hdigits, q, e, hnear, hvalue⟩ := shortest_spec hpos
    refine ⟨_, isWritten_layout hcons hc hdigits, fun negative m e' h => ?_⟩
    refine ofDecimal_of_isNear negative hpos ?_
    unfold decimalUnits at hnear ⊢
    rw [h, ← hvalue]
    exact hnear

end Dripline.Double
