/-!
# Patterns

What a text looks like from its beginning, piece by piece:

* `Piece`: a character of a class, a run of such characters, or the end of the text. A line feed that ends
  the text may stand behind its end;
* `Pattern.accepts`: whether a text looks like that. A run takes as much as it can, and gives back one
  character after the other as long as the pieces behind it do not fit.
-/

namespace Dripline.Text

/-- A piece of a pattern. -/
inductive Piece where
  /-- One character of a class. -/
  | one (p : Char → Bool)
  /-- One or more characters of a class. -/
  | run (p : Char → Bool)
  /-- The end of the text. -/
  | finish

/-- What a text looks like: pieces, one after the other. -/
abbrev Pattern := List Piece

namespace Piece

/-- A run at the front of a text and what follows it, the longest run first. -/
def runThen (p : Char → Bool) (next : List Char → Bool) : List Char → Bool
  | [] => false
  | c :: cs => p c && (runThen p next cs || next cs)

/-- A piece at the front of a text and what follows it. -/
def andThen (next : List Char → Bool) : Piece → List Char → Bool
  | .one _, [] => false
  | .one p, c :: cs => p c && next cs
  | .run p, cs => runThen p next cs
  | .finish, cs => (cs == [] || cs == ['\n']) && next cs

end Piece

/-- Whether a text looks like a pattern from its beginning. -/
def Pattern.accepts : Pattern → List Char → Bool
  | [], _ => true
  | piece :: pieces, cs => piece.andThen (Pattern.accepts pieces) cs

end Dripline.Text
