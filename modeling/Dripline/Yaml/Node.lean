import Dripline.Yaml.Token
import Dripline.Yaml.Tag

/-!
# Nodes

The tree that the tokens of a document describe. A scalar is a text with a type; a missing one is empty.
An alias stands for the node of its anchor, and one inside that very node for an empty collection.

* `takeNode` reads a node off the front of the tokens, with fuel that their number bounds;
* `Node.ofTokens` reads the only document of a text, if it has one.
-/

namespace Dripline.Yaml

/-- A node of a document. -/
inductive Node where
  | scalar (tag : Tag) (text : String)
  | seq (tag : Tag) (items : List Node)
  | map (tag : Tag) (entries : List (Node × Node))
deriving Repr

namespace Node

/-- The type of a node. -/
def tag : Node → Tag
  | .scalar t _ => t
  | .seq t _ => t
  | .map t _ => t

/-- What stands where a scalar is missing. -/
def absent : Node := .scalar .null ""

/-- The nodes that have a name, and the tokens that are left. -/
structure Reader where
  tokens : List Token
  anchors : List (String × Node)
deriving Repr

/-- The addresses that the handles of tags stand for. -/
abbrev Handles := List (String × String)

/-- The fault at the front of the tokens, where another one was expected. -/
def unexpected (r : Reader) : Fault :=
  match r.tokens with
  | .broken fault :: _ => fault
  | _ => .malformed

/-- Whether a token is at the front. -/
def Reader.at_ (r : Reader) (t : Token) : Bool := r.tokens.head? = some t

/-- Whether one of some tokens is at the front. -/
def Reader.atAny (r : Reader) (ts : List Token) : Bool := ts.any r.at_

/-- The reader after the token at the front. -/
def Reader.skip (r : Reader) : Reader := { r with tokens := r.tokens.drop 1 }

/-- Gives a node a name. -/
def Reader.bindName (r : Reader) (name : Option String) (n : Node) : Reader :=
  match name with
  | some a => { r with anchors := (a, n) :: r.anchors }
  | none => r

/-! ## 1. Properties -/

/-- What may stand in front of a node: a name and the address of a type. -/
structure Properties where
  anchor : Option String
  address : Option String
deriving Repr

/-- The address that a tag stands for. -/
def address (handles : Handles) (handle : Option String) (suffix : String) :
    Except Fault String :=
  match handle with
  | none => .ok suffix
  | some h =>
    match handles.lookup h with
    | some start => .ok (start ++ suffix)
    | none => .error .malformed

/-- The properties at the front, a name and a tag in either order. -/
def takeProperties (handles : Handles) (r : Reader) : Except Fault (Properties × Reader) :=
  match r.tokens with
  | .anchor a :: .tag h s :: rest =>
    (address handles h s).map fun t => (⟨some a, some t⟩, { r with tokens := rest })
  | .tag h s :: .anchor a :: rest =>
    (address handles h s).map fun t => (⟨some a, some t⟩, { r with tokens := rest })
  | .anchor a :: rest => .ok (⟨some a, none⟩, { r with tokens := rest })
  | .tag h s :: rest =>
    (address handles h s).map fun t => (⟨none, some t⟩, { r with tokens := rest })
  | _ => .ok (⟨none, none⟩, r)

/-- The type of a scalar. Without a tag a plain one is known by its words and a quoted one is text; a
    lone `!` lets the words decide in both cases. -/
def Properties.scalarTag (p : Properties) (text : String) (isPlain : Bool) : Tag :=
  match p.address with
  | none => if isPlain then .ofPlain text else .str
  | some "!" => .ofPlain text
  | some a => .ofAddress a

/-- The type of a collection. -/
def Properties.collectionTag (p : Properties) (default : Tag) : Tag :=
  match p.address with
  | none => default
  | some "!" => default
  | some a => .ofAddress a

/-- A scalar with its properties, under its name from here on. -/
def Properties.closeScalar (p : Properties) (text : String) (isPlain : Bool) (r : Reader) :
    Node × Reader :=
  let n := Node.scalar (p.scalarTag text isPlain) text
  (n, r.bindName p.anchor n)

/-- A sequence with its properties, under its name from here on. -/
def Properties.closeSequence (p : Properties) (read : List Node × Reader) : Node × Reader :=
  let n := Node.seq (p.collectionTag .seq) read.1
  (n, read.2.bindName p.anchor n)

/-- A mapping with its properties, under its name from here on. -/
def Properties.closeMapping (p : Properties) (read : List (Node × Node) × Reader) :
    Node × Reader :=
  let n := Node.map (p.collectionTag .map) read.1
  (n, read.2.bindName p.anchor n)

/-! ## 2. Nodes -/

mutual

/-- A node. Block collections are allowed in block context, and a sequence without indentation of its
    own as the key or value of a block mapping. -/
def takeNode (handles : Handles) (block indentless : Bool) :
    Nat → Reader → Except Fault (Node × Reader)
  | 0, _ => .error .malformed
  | fuel + 1, r =>
    match r.tokens with
    | .alias name :: rest =>
      match r.anchors.lookup name with
      | some n => .ok (n, { r with tokens := rest })
      | none => .error .malformed
    | _ => do
      let (p, r) ← takeProperties handles r
      takeContent handles block indentless p fuel r

/-- What comes after the properties of a node. A collection has its name before its parts are read, and
    a name is given only once. -/
def takeContent (handles : Handles) (block indentless : Bool) (p : Properties) :
    Nat → Reader → Except Fault (Node × Reader)
  | 0, _ => .error .malformed
  | fuel + 1, r =>
    let sequence := r.bindName p.anchor (.seq (p.collectionTag .seq) [])
    let mapping := r.bindName p.anchor (.map (p.collectionTag .map) [])
    if p.anchor.any fun a => (r.anchors.lookup a).isSome then .error .malformed
    else if indentless && r.at_ .blockEntry then
      (takeIndentless handles fuel sequence).map p.closeSequence
    else
      match r.tokens with
      | .scalar text isPlain :: rest => .ok (p.closeScalar text isPlain { r with tokens := rest })
      | .flowSequenceStart :: _ =>
        (takeFlowItems handles true fuel sequence.skip).map p.closeSequence
      | .flowMappingStart :: _ =>
        (takeFlowEntries handles true fuel mapping.skip).map p.closeMapping
      | _ =>
        if block && r.at_ .blockSequenceStart then
          (takeBlockItems handles fuel sequence.skip).map p.closeSequence
        else if block && r.at_ .blockMappingStart then
          (takeBlockEntries handles fuel mapping.skip).map p.closeMapping
        else if p.anchor.isSome || p.address.isSome then .ok (p.closeScalar "" true r)
        else .error (unexpected r)

/-- A node, or an absent one before some tokens. -/
def takeUnless (handles : Handles) (stops : List Token) (block : Bool) :
    Nat → Reader → Except Fault (Node × Reader)
  | 0, _ => .error .malformed
  | fuel + 1, r =>
    if r.atAny stops then .ok (absent, r) else takeNode handles block block fuel r

/-- The items of a block sequence, to its end. -/
def takeBlockItems (handles : Handles) : Nat → Reader → Except Fault (List Node × Reader)
  | 0, _ => .error .malformed
  | fuel + 1, r =>
    if r.at_ .blockEntry then do
      let r := r.skip
      let (n, r) ←
        if r.atAny [.blockEntry, .blockEnd] then .ok (absent, r)
        else takeNode handles true false fuel r
      let (ns, r) ← takeBlockItems handles fuel r
      .ok (n :: ns, r)
    else if r.at_ .blockEnd then .ok ([], r.skip)
    else .error (unexpected r)

/-- The items of a sequence that is not indented further than its key. It has no end of its own. -/
def takeIndentless (handles : Handles) : Nat → Reader → Except Fault (List Node × Reader)
  | 0, _ => .error .malformed
  | fuel + 1, r =>
    if r.at_ .blockEntry then do
      let r := r.skip
      let (n, r) ←
        if r.atAny [.blockEntry, .key, .value, .blockEnd] then .ok (absent, r)
        else takeNode handles true false fuel r
      let (ns, r) ← takeIndentless handles fuel r
      .ok (n :: ns, r)
    else .ok ([], r)

/-- The entries of a block mapping, to its end. A key or a value may be missing. -/
def takeBlockEntries (handles : Handles) :
    Nat → Reader → Except Fault (List (Node × Node) × Reader)
  | 0, _ => .error .malformed
  | fuel + 1, r => do
    let stops := [Token.key, .value, .blockEnd]
    if r.at_ .key then
      let (k, r) ← takeUnless handles stops true fuel r.skip
      let (v, r) ←
        if r.at_ .value then takeUnless handles stops true fuel r.skip else .ok (absent, r)
      let (es, r) ← takeBlockEntries handles fuel r
      .ok ((k, v) :: es, r)
    else if r.at_ .blockEnd then .ok ([], r.skip)
    else .error (unexpected r)

/-- The items of a flow sequence, to its end. A key makes a mapping of one entry. -/
def takeFlowItems (handles : Handles) (isFirst : Bool) :
    Nat → Reader → Except Fault (List Node × Reader)
  | 0, _ => .error .malformed
  | fuel + 1, r => do
    if r.at_ .flowSequenceEnd then .ok ([], r.skip)
    else if !isFirst && !r.at_ .flowEntry then .error (unexpected r)
    else
      let r := if isFirst then r else r.skip
      if r.at_ .key then
        let stops := [Token.flowEntry, .flowSequenceEnd]
        let (k, r) ← takeUnless handles (.value :: stops) false fuel r.skip
        let (v, r) ←
          if r.at_ .value then takeUnless handles stops false fuel r.skip else .ok (absent, r)
        let (ns, r) ← takeFlowItems handles false fuel r
        .ok (.map .map [(k, v)] :: ns, r)
      else if r.at_ .flowSequenceEnd then .ok ([], r.skip)
      else
        let (n, r) ← takeNode handles false false fuel r
        let (ns, r) ← takeFlowItems handles false fuel r
        .ok (n :: ns, r)

/-- The entries of a flow mapping, to its end. A node without a mark is a key without a value. -/
def takeFlowEntries (handles : Handles) (isFirst : Bool) :
    Nat → Reader → Except Fault (List (Node × Node) × Reader)
  | 0, _ => .error .malformed
  | fuel + 1, r => do
    if r.at_ .flowMappingEnd then .ok ([], r.skip)
    else if !isFirst && !r.at_ .flowEntry then .error (unexpected r)
    else
      let r := if isFirst then r else r.skip
      if r.at_ .key then
        let stops := [Token.flowEntry, .flowMappingEnd]
        let (k, r) ← takeUnless handles (.value :: stops) false fuel r.skip
        let (v, r) ←
          if r.at_ .value then takeUnless handles stops false fuel r.skip else .ok (absent, r)
        let (es, r) ← takeFlowEntries handles false fuel r
        .ok ((k, v) :: es, r)
      else if r.at_ .flowMappingEnd then .ok ([], r.skip)
      else
        let (k, r) ← takeNode handles false false fuel r
        let (es, r) ← takeFlowEntries handles false fuel r
        .ok ((k, absent) :: es, r)

end

/-! ## 3. Documents -/

/-- The handles that every document has. -/
def standardHandles : Handles := [("!", "!"), ("!!", Tag.standard)]

/-- The directives at the front: the handles they define, each at most once, and whether a version was
    given. Only the first major version is known. -/
def takeDirectives : Nat → Bool → Handles → Reader → Except Fault (Handles × Reader)
  | 0, _, handles, r => .ok (handles, r)
  | fuel + 1, versioned, handles, r =>
    match r.tokens with
    | .directive (.version major) :: rest =>
      if versioned || major ≠ 1 then .error .malformed
      else takeDirectives fuel true handles { r with tokens := rest }
    | .directive (.tagHandle handle start) :: rest =>
      if (handles.lookup handle).isSome then .error .malformed
      else takeDirectives fuel versioned ((handle, start) :: handles) { r with tokens := rest }
    | .directive .other :: rest => takeDirectives fuel versioned handles { r with tokens := rest }
    | _ => .ok (handles, r)

/-- The reader after the marks for the end of a document. -/
def Reader.skipEnds (r : Reader) : Reader :=
  { r with tokens := r.tokens.dropWhile (· = .documentEnd) }

/-- Whether a token is a directive. -/
def isDirective : Token → Bool
  | .directive _ => true
  | _ => false

/-- A document with directives or a mark for its beginning. -/
def takeExplicit (fuel : Nat) (r : Reader) : Except Fault (Node × Reader) := do
  let (handles, r) ← takeDirectives fuel false [] r
  if !r.at_ .documentStart then .error (unexpected r)
  else
    let r := r.skip
    if r.atAny [.documentStart, .documentEnd, .streamEnd] || r.tokens.head?.any isDirective then
      .ok (absent, r)
    else takeNode (handles ++ standardHandles) true false fuel r

/-- The only document of a text; nothing when the text has none. -/
def ofTokens (ts : List Token) : Except Fault (Option Node) := do
  let r : Reader := ⟨ts, []⟩
  let fuel := 4 * ts.length + 8
  let close (n : Node) (r : Reader) : Except Fault (Option Node) :=
    let r := r.skipEnds
    if r.at_ .streamEnd then .ok (some n) else .error (unexpected r)
  if r.at_ .streamEnd then .ok none
  else if r.at_ .documentStart || r.tokens.head?.any isDirective then
    let (n, r) ← takeExplicit fuel r
    close n r
  else
    let (n, r) ← takeNode standardHandles true false fuel r
    close n r

end Node

end Dripline.Yaml
