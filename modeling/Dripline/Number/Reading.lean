import Dripline.Number.Double
import Dripline.Text.Blank
import Dripline.Text.Digits

/-!
# Reading numbers

The written forms of numbers that settings, documents and arguments share:

* `digitRuns`: digits with single underscores between them;
* `readDecimal?`: sign, digits, point, exponent -- and the words for infinity and NaN in any case;
* `readInteger?`: sign and digits, not too many of them.

Blanks around the number are the caller's business.
-/

namespace Dripline.Double

open Text

/-- Reads digits, single underscores allowed between two of them. The flag says whether the last
    character was a digit; the digits come back in reverse. -/
def digitRunsFrom (afterDigit : Bool) (acc : List Char) : List Char → List Char × List Char
  | [] => (acc, [])
  | c :: cs =>
    if isDigit c then digitRunsFrom true (c :: acc) cs
    else
      match cs with
      | d :: ds =>
        if c = '_' && afterDigit && isDigit d then digitRunsFrom true (d :: acc) ds
        else (acc, c :: d :: ds)
      | [] => (acc, [c])

/-- The digits at the front of a text, single underscores between digits left out, and the rest. -/
def digitRuns (cs : List Char) : List Char × List Char :=
  let (acc, rest) := digitRunsFrom false [] cs
  (acc.reverse, rest)

/-- The value of a run of decimal digits. -/
def digitsValue (cs : List Char) : Nat := (readNatFrom? 10 0 cs).getD 0

/-- An optional sign in front, and whether it was a minus. -/
def takeSign : List Char → Bool × List Char
  | '+' :: cs => (false, cs)
  | '-' :: cs => (true, cs)
  | cs => (false, cs)

/-- An optional exponent: the letter `e` in either case, a sign, digits. -/
def takeExponent (cs : List Char) : Option Int :=
  match cs with
  | [] => some 0
  | e :: rest =>
    if e = 'e' || e = 'E' then
      let (negative, rest) := takeSign rest
      match digitRuns rest with
      | (d :: ds, []) =>
        let n := digitsValue (d :: ds)
        some (if negative then -n else n)
      | _ => none
    else none

/-- The number words, lower-cased. -/
def wordValue? (word : List Char) : Option (Bool → Double) :=
  if word = "inf".toList || word = "infinity".toList then some .infinite
  else if word = "nan".toList then some fun _ => .nan
  else none

/-- ASCII letters in lower case. -/
def asciiLower (c : Char) : Char := if 'A' ≤ c && c ≤ 'Z' then Char.ofNat (c.toNat + 32) else c

/-- A number in decimal notation without blanks around it. A digit must stand before or after the
    point. -/
def readDecimal? (cs : List Char) : Option Double :=
  let (negative, body) := takeSign cs
  match wordValue? (body.map asciiLower) with
  | some value => some (value negative)
  | none =>
    let (whole, rest) := digitRuns body
    let (fraction, rest) :=
      match rest with
      | '.' :: after => digitRuns after
      | _ => ([], rest)
    if whole.isEmpty && fraction.isEmpty then none
    else
      (takeExponent rest).map fun e =>
        ofDecimal negative (digitsValue (whole ++ fraction)) (e - fraction.length)

/-- A whole number: a sign and digits, single underscores between digits. Too many digits are not read. -/
def readInteger? (cs : List Char) : Option Int :=
  let (negative, body) := takeSign cs
  match digitRuns body with
  | (d :: ds, []) =>
    let n := digitsValue (d :: ds)
    if digitLimit < (d :: ds).length then none else some (if negative then -n else n)
  | _ => none

end Dripline.Double
