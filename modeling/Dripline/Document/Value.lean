import Dripline.Number.Shortest
import Dripline.Time.Stamp

/-!
# Document values

The plain data that documents and settings are made of before their shape is checked. A mapping
keeps its entries in the order of their keys' first appearance, and its keys may be any scalar.
-/

namespace Dripline

/-- A value of a document. -/
inductive Value where
  | null
  | bool (b : Bool)
  | int (i : Int)
  | float (x : Double)
  | text (s : String)
  /-- Raw bytes. -/
  | bytes (bs : List UInt8)
  /-- A calendar day, as its first reading. -/
  | date (day : Moment)
  | moment (m : Moment)
  | list (items : List Value)
  /-- The members of a set. -/
  | members (items : List Value)
  | map (entries : List (Value × Value))
deriving Repr, Inhabited

namespace Value

/-- The number of lists and mappings inside one another up to which a text is sure to be read, whoever
    reads it: each takes a part of the reader's stack. -/
def nestingLimit : Nat := 200

/-- An integer as a fraction of units of double precision, to compare it with a float. -/
def intUnits (i : Int) : Int := i * (Double.one : Int)

/-- The number a value stands for among keys: truth values are 0 and 1, and a whole float is the
    same key as the integer. -/
def numberUnits? : Value → Option Int
  | .bool b => some (intUnits (if b then 1 else 0))
  | .int i => some (intUnits i)
  | .float (.finite negative units) => some (Double.signedUnits negative units)
  | _ => none

/-- Whether two values are the same key of a mapping. -/
def sameKey : Value → Value → Bool
  | .null, .null => true
  | .text s, .text t => s == t
  | .bytes s, .bytes t => s == t
  | .date d, .date e => d.same e
  | .moment m, .moment n => m.same n
  | .float (.infinite s), .float (.infinite t) => s == t
  | a, b =>
    match a.numberUnits?, b.numberUnits? with
    | some x, some y => x == y
    | _, _ => false

/-- Entries with one more; a key that is there keeps its place and takes the new value. -/
def putEntry (key value : Value) : List (Value × Value) → List (Value × Value)
  | [] => [(key, value)]
  | (k, v) :: rest =>
    if sameKey k key then (k, value) :: rest else (k, v) :: putEntry key value rest

/-- Entries put one after the other. -/
def collect (entries : List (Value × Value)) : List (Value × Value) :=
  entries.foldl (fun acc (k, v) => putEntry k v acc) []

/-- The value under a text among entries. -/
def entry? (name : String) : List (Value × Value) → Option Value
  | [] => none
  | (.text k, v) :: rest => if k = name then some v else entry? name rest
  | _ :: rest => entry? name rest

/-- A mapping with texts as keys. -/
def object (entries : List (String × Value)) : Value :=
  .map (entries.map fun (k, v) => (.text k, v))

/-- The text, or null. -/
def ofText? : Option String → Value
  | some s => .text s
  | none => .null

/-- Whether a value counts as nothing: null, false, zero and whatever is empty. -/
def isVoid : Value → Bool
  | .null => true
  | .bool b => !b
  | .int i => i == 0
  | .float x => x.isZero
  | .text s => s == ""
  | .bytes bs => bs.isEmpty
  | .date _ => false
  | .moment _ => false
  | .list items => items.isEmpty
  | .members items => items.isEmpty
  | .map entries => entries.isEmpty

mutual

/-- A value with something else for each float in it. Keys stay as they are. -/
def mapFloats (f : Double → Value) : Value → Value
  | .float x => f x
  | .list items => .list (mapFloatsIn f items)
  | .map entries => .map (mapFloatsUnder f entries)
  | v => v

/-- Values with something else for each float in them. -/
def mapFloatsIn (f : Double → Value) : List Value → List Value
  | [] => []
  | v :: vs => v.mapFloats f :: mapFloatsIn f vs

/-- Entries with something else for each float in their values. -/
def mapFloatsUnder (f : Double → Value) : List (Value × Value) → List (Value × Value)
  | [] => []
  | (k, v) :: rest => (k, v.mapFloats f) :: mapFloatsUnder f rest

end

end Value

end Dripline
