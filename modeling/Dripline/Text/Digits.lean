/-!
# Decimal digits

Reading and writing natural numbers in a base, digit by digit:

* `digitValue?`: the value of one digit in bases up to sixteen;
* `readNat?`: a non-empty run of digits, read in a base;
* `digitLimit`: the most decimal digits that are read as a whole number from outside;
* `padded`: a number written in decimal with leading zeros to a width.
-/

namespace Dripline.Text

/-- Whether a character is one of the ten ASCII digits. -/
def isDigit (c : Char) : Bool := '0' ≤ c && c ≤ '9'

/-- The value of a digit: `0`-`9`, then `a`-`f` in either case. -/
def digitValue? (c : Char) : Option Nat :=
  if '0' ≤ c && c ≤ '9' then some (c.toNat - '0'.toNat)
  else if 'a' ≤ c && c ≤ 'f' then some (c.toNat - 'a'.toNat + 10)
  else if 'A' ≤ c && c ≤ 'F' then some (c.toNat - 'A'.toNat + 10)
  else none

/-- Continues a number in a base with further digits; `none` at a character that is no digit of
    the base. -/
def readNatFrom? (base : Nat) (acc : Nat) : List Char → Option Nat
  | [] => some acc
  | c :: cs =>
    match digitValue? c with
    | some d => if d < base then readNatFrom? base (acc * base + d) cs else none
    | none => none

/-- A non-empty run of digits in a base. -/
def readNat? (base : Nat) : List Char → Option Nat
  | [] => none
  | cs => readNatFrom? base 0 cs

/-- The most decimal digits that a whole number in a document, a variable or an argument may have. -/
def digitLimit : Nat := 4300

/-- The digit of a value below sixteen, in lower case. -/
def digitChar (n : Nat) : Char :=
  if n < 10 then Char.ofNat ('0'.toNat + n) else Char.ofNat ('a'.toNat + (n - 10))

/-- The last `width` decimal digits of a number, with leading zeros. -/
def fixedDigits : Nat → Nat → List Char
  | 0, _ => []
  | w + 1, n => fixedDigits w (n / 10) ++ [digitChar (n % 10)]

/-- A number in decimal. -/
def decimal (n : Nat) : List Char := (toString n).toList

/-- A number in decimal, with leading zeros up to a width. -/
def padded (width n : Nat) : List Char :=
  let digits := decimal n
  List.replicate (width - digits.length) '0' ++ digits

/-- An integer in decimal, with a minus sign when negative. -/
def signedDecimal : Int → List Char
  | .ofNat n => decimal n
  | .negSucc n => '-' :: decimal (n + 1)

/-- The number `n` in lower-case hexadecimal, with leading zeros up to a width. -/
def hexPadded (width n : Nat) : List Char :=
  let digits := Nat.toDigits 16 n
  List.replicate (width - digits.length) '0' ++ digits

end Dripline.Text
