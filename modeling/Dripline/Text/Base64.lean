/-!
# Bytes in sixty-four characters

Three bytes are written as four characters of six bits each:

* `encode`: the last group is filled up with `=`;
* `decode?`: characters outside the alphabet are passed over, and the first `=` that closes a group
  ends the text. A group that is left open holds no bytes.
-/

namespace Dripline.Text.Base64

/-- The character of a value below sixty-four. -/
def digit (n : Nat) : Char :=
  if n < 26 then Char.ofNat ('A'.toNat + n)
  else if n < 52 then Char.ofNat ('a'.toNat + (n - 26))
  else if n < 62 then Char.ofNat ('0'.toNat + (n - 52))
  else if n = 62 then '+'
  else '/'

/-- The value of a character. -/
def value? (c : Char) : Option Nat :=
  if 'A' ≤ c && c ≤ 'Z' then some (c.toNat - 'A'.toNat)
  else if 'a' ≤ c && c ≤ 'z' then some (c.toNat - 'a'.toNat + 26)
  else if '0' ≤ c && c ≤ '9' then some (c.toNat - '0'.toNat + 52)
  else if c = '+' then some 62
  else if c = '/' then some 63
  else none

/-- The text of some bytes. -/
def encode : List UInt8 → List Char
  | [] => []
  | [a] => [digit (a.toNat / 4), digit (a.toNat % 4 * 16), '=', '=']
  | [a, b] =>
    [digit (a.toNat / 4), digit (a.toNat % 4 * 16 + b.toNat / 16), digit (b.toNat % 16 * 4), '=']
  | a :: b :: c :: rest =>
    digit (a.toNat / 4) :: digit (a.toNat % 4 * 16 + b.toNat / 16) ::
      digit (b.toNat % 16 * 4 + c.toNat / 64) :: digit (c.toNat % 64) :: encode rest

/-- The bytes of a text from here on, after `place` characters of a group whose last bits are `bits`
    and `pads` signs of filling. -/
def decodeFrom? (place bits pads : Nat) : List Char → Option (List UInt8)
  | [] => if place = 0 then some [] else none
  | c :: cs =>
    if c = '=' then
      if place < 2 then decodeFrom? place bits pads cs
      else if 4 ≤ place + pads + 1 then some []
      else decodeFrom? place bits (pads + 1) cs
    else
      match value? c with
      | none => decodeFrom? place bits pads cs
      | some v =>
        match place with
        | 0 => decodeFrom? 1 v 0 cs
        | 1 => (decodeFrom? 2 (v % 16) 0 cs).map (UInt8.ofNat (bits * 4 + v / 16) :: ·)
        | 2 => (decodeFrom? 3 (v % 4) 0 cs).map (UInt8.ofNat (bits * 16 + v / 4) :: ·)
        | _ => (decodeFrom? 0 0 0 cs).map (UInt8.ofNat (bits * 64 + v) :: ·)

/-- The bytes of a text, unless a group is left open. -/
def decode? (cs : List Char) : Option (List UInt8) := decodeFrom? 0 0 0 cs

end Dripline.Text.Base64
