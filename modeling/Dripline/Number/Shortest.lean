import Dripline.Number.Double
import Dripline.Text.Digits

/-!
# The shortest decimal of a number

A number is written with the fewest significant digits that read back as the same number:

* `readsBack` says when a decimal point of some grid rounds to the number, in exact arithmetic: it
  lies between the midpoints to the two neighbours, and may be a midpoint when the last bit is even;
* `shortest` tries grids of 1, 2, … 17 digits and takes the nearer of the two grid points around
  the number, of two equally near ones the even one;
* `render` writes the digits positionally for magnitudes from 10⁻⁴ up to 10¹⁶ and with an exponent of
  at least two digits elsewhere; `.0` marks a whole number.
-/

namespace Dripline.Double

open Text

/-- A decimal `0.d₁d₂… · 10 ^ point`. -/
structure Decimal where
  digits : List Char
  point : Int
deriving DecidableEq, Repr

/-- The least `j` with `den ≤ num * 10 ^ j`, searched upward in at most `fuel` steps. -/
def scaleUp (num den : Nat) : Nat → Nat → Nat
  | 0, j => j
  | fuel + 1, j => if den ≤ num * Nat.pow 10 j then j else scaleUp num den fuel (j + 1)

/-- The `p` with `10 ^ (p - 1) ≤ num / den < 10 ^ p`. -/
def decimalPoint (num den : Nat) : Int :=
  if den ≤ num then ((Nat.toDigits 10 (num / den)).length : Int)
  else 1 - (scaleUp num den 400 0 : Int)

/-- Whether the number `q · 10 ^ exponent` rounds to the number of `units`. Four units are the
    measure, since the midpoint below a power of two is a quarter of a grid step away. -/
def readsBack (units : Nat) (q : Nat) (exponent : Int) : Bool :=
  let step := Nat.pow 2 (gridShift units)
  let even := (units / step) % 2 == 0
  let below := if units = Nat.pow 2 (bitLength units - 1) && 1 < step then step else 2 * step
  let low := 4 * units - below
  let high := 4 * units + 2 * step
  let (num, den) :=
    if 0 ≤ exponent then (q * Nat.pow 10 exponent.toNat * (4 * one), 1)
    else (q * (4 * one), Nat.pow 10 (-exponent).toNat)
  if even then low * den ≤ num && num ≤ high * den else low * den < num && num < high * den

/-- The decimal of `n` digits for the number of `units`, when one of that length reads back. The
    number has its decimal point at `point`. -/
def atLength (units : Nat) (point : Int) (n : Nat) : Option (Nat × Int) :=
  let exponent := point - n
  let (num, den) :=
    if 0 ≤ exponent then (units, one * Nat.pow 10 exponent.toNat)
    else (units * Nat.pow 10 (-exponent).toNat, one)
  let q := num / den
  let twice := 2 * (num % den)
  let lowFits := readsBack units q exponent
  let highFits := readsBack units (q + 1) exponent
  if lowFits && highFits then
    if twice < den then some (q, exponent)
    else if den < twice then some (q + 1, exponent)
    else some (if q % 2 = 0 then q else q + 1, exponent)
  else if lowFits then some (q, exponent)
  else if highFits then some (q + 1, exponent)
  else none

/-- The first length from `n` on, within the given number of tries, that reads back. -/
def searchLength (units : Nat) (point : Int) : Nat → Nat → Option (Nat × Int)
  | 0, _ => none
  | tries + 1, n =>
    match atLength units point n with
    | some hit => some hit
    | none => searchLength units point tries (n + 1)

/-- The shortest decimal of a positive number of units. -/
def shortest (units : Nat) : Decimal :=
  let (q, exponent) := (searchLength units (decimalPoint units one) 17 1).getD (0, 0)
  let digits := decimal q
  ⟨(digits.reverse.dropWhile (· == '0')).reverse, (digits.length : Int) + exponent⟩

/-- The text of an exponent: a sign and at least two digits. -/
def exponentText (e : Int) : List Char :=
  (if e < 0 then '-' else '+') :: padded 2 e.natAbs

/-- A decimal laid out as text, positionally where its magnitude allows. -/
def Decimal.layout (d : Decimal) : List Char :=
  let e := d.point - 1
  if e < -4 || 16 ≤ e then
    let mantissa :=
      match d.digits with
      | [] => []
      | [c] => [c]
      | c :: cs => c :: '.' :: cs
    mantissa ++ 'e' :: exponentText e
  else if d.point ≤ 0 then '0' :: '.' :: (List.replicate (-d.point).toNat '0' ++ d.digits)
  else
    let whole := d.point.toNat
    if d.digits.length ≤ whole then
      d.digits ++ List.replicate (whole - d.digits.length) '0' ++ ['.', '0']
    else d.digits.take whole ++ '.' :: d.digits.drop whole

/-- The text of a magnitude. -/
def magnitudeChars (units : Nat) : List Char :=
  if units = 0 then ['0', '.', '0'] else (shortest units).layout

/-- The shortest text that reads back as the number. -/
def render : Double → String
  | .nan => "nan"
  | .infinite true => "-inf"
  | .infinite false => "inf"
  | .finite true units => String.ofList ('-' :: magnitudeChars units)
  | .finite false units => String.ofList (magnitudeChars units)

/-- A number written with exactly three decimal places, a tie to the even neighbour; the exact
    value is rounded, not its shortest text. -/
def thousandths (x : Double) : String :=
  match x with
  | .nan => "nan"
  | .infinite negative => if negative then "-inf" else "inf"
  | .finite negative units =>
    let scaled := roundTo 1 (units * 1000) one
    let text := decimal (scaled / 1000) ++ '.' :: fixedDigits 3 (scaled % 1000)
    String.ofList (if negative then '-' :: text else text)

end Dripline.Double
