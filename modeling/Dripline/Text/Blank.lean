/-!
# Blank characters

What counts as blank space in names, addresses and numbers, fixed once for the whole library:

* `isBlank`: the characters that separate words -- tab to carriage return, the four information
  separators, space, next line, and the space characters of the wider tables;
* `strip`: a text without the blanks at its two ends;
* `isBlankText`: nothing but blanks (the empty text included);
* `filled`: a text that is there and not empty.
-/

namespace Dripline.Text

/-- The characters that count as blank. -/
def isBlank (c : Char) : Bool :=
  let n := c.toNat
  (0x09 ≤ n && n ≤ 0x0D) || (0x1C ≤ n && n ≤ 0x20) || n == 0x85 || n == 0xA0 || n == 0x1680 ||
    (0x2000 ≤ n && n ≤ 0x200A) || n == 0x2028 || n == 0x2029 || n == 0x202F || n == 0x205F ||
    n == 0x3000

/-- The blanks other than the four information separators. -/
def isWhiteSpace (c : Char) : Bool := isBlank c && !(0x1C ≤ c.toNat && c.toNat ≤ 0x1F)

/-- A list of characters without the leading and trailing ones that satisfy a test. -/
def trimBy (p : Char → Bool) (cs : List Char) : List Char :=
  ((cs.dropWhile p).reverse.dropWhile p).reverse

/-- A list of characters without the blanks at its two ends. -/
def stripChars (cs : List Char) : List Char := trimBy isBlank cs

/-- A text without the blanks at its two ends. -/
def strip (s : String) : String := String.ofList (stripChars s.toList)

/-- Whether a text holds nothing but blanks. -/
def isBlankText (s : String) : Bool := s.toList.all isBlank

/-- A text that is there and not empty. -/
def filled (s : Option String) : Option String := s.filter (· ≠ "")

theorem filled_eq (s : Option String) : filled s = if s.getD "" ≠ "" then some (s.getD "") else none := by
  cases s with
  | none => rfl
  | some s => by_cases h : s = "" <;> simp [filled, h]

theorem filled_eq_none_iff {s : Option String} : filled s = none ↔ s.getD "" = "" := by
  rw [filled_eq]
  split <;> simp_all

theorem eq_some_of_filled {s : Option String} {t : String} (h : filled s = some t) : s = some t :=
  (Option.filter_eq_some_iff.mp h).1

end Dripline.Text
