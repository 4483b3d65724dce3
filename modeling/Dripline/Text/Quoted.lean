import Dripline.Text.Digits
import Dripline.Text.Printable

/-!
# Quoted text

A text between quotes, as messages show a name or a file:

* single quotes, or double quotes when the text holds a single quote and no double one;
* the quote in use and the backslash are escaped, line ends and tabs by their letters;
* a character that is not printable is written by its number, in two, four or eight digits.
-/

namespace Dripline.Text

/-- The quote around a text. -/
def quoteFor (cs : List Char) : Char :=
  if cs.contains '\'' && !cs.contains '"' then '"' else '\''

/-- One character inside quotes. -/
def quotedChar (quote c : Char) : List Char :=
  if c = quote || c = '\\' then ['\\', c]
  else if c = '\n' then ['\\', 'n']
  else if c = '\r' then ['\\', 'r']
  else if c = '\t' then ['\\', 't']
  else if isPrintable c then [c]
  else
    let n := c.toNat
    if n ≤ 0xFF then '\\' :: 'x' :: hexPadded 2 n
    else if n ≤ 0xFFFF then '\\' :: 'u' :: hexPadded 4 n
    else '\\' :: 'U' :: hexPadded 8 n

/-- A text between quotes. -/
def quoted (s : String) : String :=
  let quote := quoteFor s.toList
  String.ofList ([quote] ++ s.toList.flatMap (quotedChar quote) ++ [quote])

end Dripline.Text
