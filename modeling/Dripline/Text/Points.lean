import Dripline.Text.Digits

/-!
# Texts that are not whole

What comes from outside as a text may hold halves of surrogate pairs, which are no characters. `Points` are such
texts, by the numbers of their code points:

* `Points.text?`: the text that they are, if they are whole characters;
* `Points.refusal`: how an encoder words that it does not take them.
-/

namespace Dripline.Text

/-- A text by the numbers of its code points. -/
abbrev Points := List Nat

namespace Points

/-- The points of a text. -/
def ofText (s : String) : Points := s.toList.map Char.toNat

/-- The text of points that are all characters. -/
def text? (ps : Points) : Option String :=
  if ps.all fun n => n.isValidChar then some (String.ofList (ps.map Char.ofNat)) else none

/-- Whether a point is half of a surrogate pair. -/
def isHalf (n : Nat) : Bool := 0xD800 ≤ n && n < 0xE000

/-- The wording of the refusal to encode points, which tells of the first halves that stand in a row. -/
def refusal (ps : Points) : String :=
  let start := (ps.takeWhile fun n => !isHalf n).length
  "'utf-8' codec can't encode " ++
    (match (ps.drop start).takeWhile isHalf with
      | [n] => "character '\\u" ++ String.ofList (hexPadded 4 n) ++ s!"' in position {start}"
      | halves => s!"characters in position {start}-{start + halves.length - 1}") ++
    ": surrogates not allowed"

end Points

end Dripline.Text
