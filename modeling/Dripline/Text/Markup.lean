/-!
# Text in markup

The five characters that mean something in markup, and the entities that stand for them:

* `entities`: the characters with their entities, in the order in which they are replaced. The ampersand
  comes first, since every entity begins with one;
* `escape`: a text in which none of the five is left as it is, each of them replaced in the whole text;
* `unescape`: decodes the five entities from left to right, and leaves everything else alone.
-/

namespace Dripline.Text.Markup

/-- The characters that mean something in markup, with their entities. -/
def entities : List (Char × List Char) :=
  [('&', "&amp;".toList), ('<', "&lt;".toList), ('>', "&gt;".toList), ('"', "&quot;".toList),
    ('\'', "&#x27;".toList)]

/-- A text with another one wherever a character stood. -/
def replace (c : Char) (other : List Char) (cs : List Char) : List Char :=
  cs.flatMap fun d => if d = c then other else [d]

/-- A text with several characters replaced one after the other. -/
def replaceAll (table : List (Char × List Char)) (cs : List Char) : List Char :=
  table.foldl (fun cs e => replace e.1 e.2 cs) cs

/-- A text as it may stand between tags or in an attribute. -/
def escape (cs : List Char) : List Char := replaceAll entities cs

/-- The text that an escaped text shows. -/
def unescape : List Char → List Char
  | [] => []
  | '&' :: 'a' :: 'm' :: 'p' :: ';' :: cs => '&' :: unescape cs
  | '&' :: 'l' :: 't' :: ';' :: cs => '<' :: unescape cs
  | '&' :: 'g' :: 't' :: ';' :: cs => '>' :: unescape cs
  | '&' :: 'q' :: 'u' :: 'o' :: 't' :: ';' :: cs => '"' :: unescape cs
  | '&' :: '#' :: 'x' :: '2' :: '7' :: ';' :: cs => '\'' :: unescape cs
  | c :: cs => c :: unescape cs

end Dripline.Text.Markup
