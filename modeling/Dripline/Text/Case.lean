import Dripline.Text.Case.Table

/-!
# Letter case

Lower-casing of whole texts by the character standard:

* most capitals have one lower-case partner (`lowerRuns`);
* the dotted capital I becomes an `i` and a combining dot, so a text may grow;
* the capital sigma becomes the final form at the end of a word and the plain form elsewhere, so
  lower-casing does not go letter by letter: `lowerFrom` carries what stands before.
-/

namespace Dripline.Text

/-- Whether a character has a case. -/
def isCased (c : Char) : Bool := inRanges casedRanges c.toNat

/-- Whether the search for a neighbouring cased letter passes over a character. -/
def isCaseIgnorable (c : Char) : Bool := inRanges ignorableRanges c.toNat

/-- The lower-case partner of a character by a table of runs, the character itself by default. -/
def lowerBy (runs : List LowerRun) (c : Char) : Char :=
  let n := c.toNat
  match runs.find? fun r => r.first ≤ n && n ≤ r.last && (n - r.first) % r.step == 0 with
  | some r => Char.ofNat ((n : Int) + r.distance).toNat
  | none => c

/-- The lower-case form of a character on its own. -/
def lowerChar (c : Char) : List Char :=
  if c.toNat < 0x80 then [if 'A' ≤ c && c ≤ 'Z' then Char.ofNat (c.toNat + 32) else c]
  else if c = 'İ' then ['i', '\u0307']
  else [lowerBy lowerRuns c]

/-- Whether the first character that is not passed over has a case. -/
def meetsCased (cs : List Char) : Bool :=
  match cs.dropWhile isCaseIgnorable with
  | c :: _ => isCased c
  | [] => false

/-- The lower-case form of `rest`, where `before` holds the characters in front of it, the nearest
    first: a capital sigma is final when a letter stands before it and none after it. -/
def lowerFrom (before : List Char) : List Char → List Char
  | [] => []
  | c :: rest =>
    let here :=
      if c = 'Σ' then [if meetsCased before && !meetsCased rest then 'ς' else 'σ'] else lowerChar c
    here ++ lowerFrom (c :: before) rest

/-- A text in lower case. -/
def lower (s : String) : String := String.ofList (lowerFrom [] s.toList)

/-- The capital of a letter whose capital is in ASCII: the small letters, the dotless `ı` and the
    long `ſ`. All other characters stay. -/
def asciiCapital (c : Char) : Char :=
  if 'a' ≤ c && c ≤ 'z' then Char.ofNat (c.toNat - 32)
  else if c = 'ı' then 'I'
  else if c = 'ſ' then 'S'
  else c

end Dripline.Text
