import Dripline.Text.Base64
import Dripline.Text.Digits
import Dripline.Text.Markup

/-!
# Mails

The mail that carries a message:

* `Sender.header`: a name and an address in one header. A name is quoted where it holds a special
  character, and encoded where it is not ASCII; an address must be ASCII;
* `messageId`: the id of the mail, in the domain of the sender;
* `Mail.compose`: the headers and the two parts, plain text and markup. The message stands in the
  markup as text: it cannot bring in tags of its own.
-/

namespace Dripline

open Text

/-! ## 1. Header of the sender -/

/-- Whether a text is ASCII. -/
def isAscii (cs : List Char) : Bool := cs.all fun c => c.toNat < 128

/-- A part of a text that an encoding has no characters for. -/
structure EncodingFault where
  text : String
deriving DecidableEq, Repr

namespace EncodingFault

/-- A character by its number, as messages show it. -/
def charText (c : Char) : String :=
  let n := c.toNat
  let digits :=
    if n < 0x100 then 'x' :: hexPadded 2 n
    else if n < 0x10000 then 'u' :: hexPadded 4 n
    else 'U' :: hexPadded 8 n
  "'\\" ++ String.ofList digits ++ "'"

/-- The wording of the fault: the first run of characters that are not ASCII. -/
def message (f : EncodingFault) : String :=
  let cs := f.text.toList
  let start := (cs.takeWhile fun c => c.toNat < 128).length
  let run := (cs.drop start).takeWhile fun c => !(c.toNat < 128)
  let where_ :=
    match run with
    | [c] => s!"character {charText c} in position {start}"
    | _ => s!"characters in position {start}-{start + run.length - 1}"
  s!"'ascii' codec can't encode {where_}: ordinal not in range(128)"

end EncodingFault

/-- The bytes of a text. -/
def utf8 (s : String) : List UInt8 := s.toUTF8.toList

/-- Whether a byte stands for itself in an encoded word. -/
def isWordByte (b : UInt8) : Bool :=
  (48 ≤ b && b ≤ 57) || (65 ≤ b && b ≤ 90) || (97 ≤ b && b ≤ 122) ||
    ("-!*+/".toUTF8.toList.contains b)

/-- A byte in an encoded word, as a character or by its number. -/
def wordByte (b : UInt8) : List Char :=
  if isWordByte b then [Char.ofNat b.toNat]
  else if b = 32 then ['_']
  else '=' :: (hexPadded 2 b.toNat).map Char.toUpper

/-- A text as an encoded word, in the shorter of two encodings. -/
def encodedWord (s : String) : String :=
  let base := Base64.encode (utf8 s)
  let quoted := (utf8 s).flatMap wordByte
  if base.length < quoted.length then "=?utf-8?b?" ++ String.ofList base ++ "?="
  else "=?utf-8?q?" ++ String.ofList quoted ++ "?="

/-- A character for which a name must be quoted. -/
def isSpecial (c : Char) : Bool := "[]\\()<>@,:;\".".toList.contains c

/-- A character of a quoted name. -/
def nameChar (c : Char) : List Char := if c = '\\' || c = '"' then ['\\', c] else [c]

/-- A name as it stands in a header. -/
def displayName (name : String) : String :=
  let cs := name.toList
  if !isAscii cs then encodedWord name
  else if cs.any isSpecial then "\"" ++ String.ofList (cs.flatMap nameChar) ++ "\""
  else String.ofList (cs.flatMap nameChar)

/-- Who sends mails. -/
structure Sender where
  name : String
  address : String
deriving DecidableEq, Repr

/-- The header of a sender. -/
def Sender.header (s : Sender) : Except EncodingFault String :=
  if !isAscii s.address.toList then .error ⟨s.address⟩
  else if s.name = "" then .ok s.address
  else .ok (displayName s.name ++ " <" ++ s.address ++ ">")

/-! ## 2. Mails -/

/-- The domain of an address: what follows its last `@`, or all of it. -/
def domainOf (address : String) : String :=
  String.ofList (address.toList.reverse.takeWhile (· ≠ '@')).reverse

/-- The id of the mail with a number. -/
def messageId (number : Nat) (domain : String) : String := s!"<{number}@{domain}>"

/-- The subject line of all mails. -/
def subjectLine : String := "Automation Test Email"

/-- The markup before the message. -/
def markupStart : String :=
  "<div style=\"font-family: Arial, sans-serif; padding: 20px;\">" ++ "<h2>" ++ subjectLine ++
    "</h2>" ++ "<p>"

/-- The markup after the message. -/
def markupEnd : String :=
  "</p>" ++ "<hr style=\"margin: 20px 0; border: none; border-top: 1px solid #ddd;\">" ++
    "<p style=\"color: #666; font-size: 12px;\">" ++
    "This email was sent by an automation test execution." ++ "</p></div>"

/-- A message in markup. -/
def markupBody (message : String) : String :=
  markupStart ++ String.ofList (Markup.escape message.toList) ++ markupEnd

/-- A part of a mail. -/
structure Part where
  type : String
  text : String
deriving DecidableEq, Repr

/-- The character set that a part is sent in. -/
def Part.charset (p : Part) : String := if isAscii p.text.toList then "us-ascii" else "utf-8"

/-- A mail. -/
structure Mail where
  subject : String
  sender : String
  recipient : String
  id : String
  parts : List Part
deriving DecidableEq, Repr

/-- The type of a mail: its parts say the same. -/
def Mail.type : String := "multipart/alternative"

/-- The mail that carries a message, with the given number. -/
def Mail.compose (sender : Sender) (number : Nat) (recipient message : String) :
    Except EncodingFault Mail :=
  sender.header.map fun header =>
    ⟨subjectLine, header, recipient, messageId number (domainOf sender.address),
      [⟨"text/plain", message⟩, ⟨"text/html", markupBody message⟩]⟩

end Dripline
