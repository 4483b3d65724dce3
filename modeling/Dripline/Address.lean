import Dripline.Fault
import Dripline.Text.Pattern

/-!
# Addresses

The subject of an execution is an e-mail address, in a deliberately loose sense:

* one `@` with something before it, and no blank anywhere;
* after it a point that is neither the first nor the last character of that part.

Blanks around the address do not belong to it.
-/

namespace Dripline.Address

/-- A character that may stand on either side of the `@`. -/
def isPlain (c : Char) : Bool := !Text.isBlank c && c != '@'

/-- What an address looks like. The part after the `@` may hold several points, and any of them may be the
    one that has something on either side. -/
def pattern : Text.Pattern :=
  [.run isPlain, .one (· == '@'), .run isPlain, .one (· == '.'), .run isPlain, .finish]

/-- Whether characters have the form of an address. -/
def isAddress (cs : List Char) : Bool := pattern.accepts cs

/-- The address in a text, or why there is none. -/
def clean (subject : Option String) : Except Fault String :=
  let s := Text.strip (subject.getD "")
  if s = "" then .error .noSubject
  else if isAddress s.toList then .ok s
  else .error (.badSubject s)

end Dripline.Address
