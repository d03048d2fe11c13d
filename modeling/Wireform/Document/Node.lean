import Wireform.Document.Tag
import Wireform.Document.Token

/-!
The nodes of a document, read from its tokens. Nodes have numbers, by which collections refer to
what is in them, so an alias and its anchor come to the same node, and a node can be in itself.
-/

namespace Wireform.Document

open Text (CodePoint)

/-- What a node is made of; nodes are referred to by number. -/
inductive Shape where
  | scalar (text : List CodePoint)
  | sequence (items : List Nat)
  | mapping (entries : List (Nat × Nat))
  deriving DecidableEq

/-- A node with its type. -/
structure Node where
  tag : Tag
  shape : Shape
  deriving DecidableEq

/-- The nodes of a document by number. -/
abbrev Graph := Array Node

namespace Graph

/-- The type of a node. -/
def tag (g : Graph) (id : Nat) : Tag :=
  (g[id]?.map Node.tag).getD .unknown

/-- What a node is made of. -/
def shape (g : Graph) (id : Nat) : Shape :=
  (g[id]?.map Node.shape).getD (.scalar [])

/-- The graph with another type for a node. -/
def setTag (g : Graph) (id : Nat) (tag : Tag) : Graph :=
  g.modify id fun n => { n with tag }

/-- The graph with a node made of something else. -/
def setShape (g : Graph) (id : Nat) (shape : Shape) : Graph :=
  g.modify id fun n => { n with shape }

end Graph

/-- The state of reading nodes: the tokens left and the error behind them, if there is one, the
nodes so far, those that anchors name, what the handles of tags stand for, and how many collections
are open. -/
structure Reading where
  tokens : List Token
  flaw : Option DocumentError
  nodes : Graph := #[]
  anchors : List (String × Nat) := []
  handles : List (String × String) := []
  depth : Nat := 0

/-- A step of reading nodes. -/
abbrev Reader := StateT Reading (Except DocumentError)

namespace Reader

/-- The next token. -/
def peek : Reader Token := do
  let s ← get
  match s.tokens, s.flaw with
  | t :: _, _ => return t
  | [], some e => throw e
  | [], none => return .streamEnd

/-- Passes over the next token. -/
def skip : Reader Unit :=
  modify fun s => { s with tokens := s.tokens.tail }

/-- The document breaks the rules. -/
def fail {α : Type} : Reader α :=
  throw .malformed

/-- The node that an alias stands for. -/
def referent (name : String) : Reader Nat := do
  match (← get).anchors.lookup name with
  | some id => return id
  | none => fail

/-- Adds a node, under a name that is not in use if it has an anchor. -/
def add (anchor : Option String) (n : Node) : Reader Nat := do
  let anchors := (← get).anchors
  if anchor.any fun name => (anchors.lookup name).isSome then fail
  modifyGet fun s =>
    let id := s.nodes.size
    (id, { s with
      nodes := s.nodes.push n
      anchors := (anchor.map fun name => (name, id)).toList ++ s.anchors })

/-- Adds a scalar that is left out. -/
def addEmpty : Reader Nat :=
  add none ⟨.null, .scalar []⟩

/-- The most collections that may be open at once. Reading one takes two calls inside each other, of
which a thousand may be open; twenty are set aside for those that lead to the reader. -/
def maxDepth : Nat := (1000 - 20) / 2

/-- Goes into a collection, unless as many as may be are open. -/
def enter : Reader Unit := do
  let s ← get
  if s.depth = maxDepth then throw .tooDeep
  set { s with depth := s.depth + 1 }

/-- Adds a collection, which is there before what is in it. -/
def addAround (anchor : Option String) (tag : Tag) (contents : Reader Shape) : Reader Nat := do
  let id ← add anchor ⟨tag, .sequence []⟩
  enter
  let shape ← contents
  modify fun s => { s with nodes := s.nodes.setShape id shape, depth := s.depth - 1 }
  return id

/-- The full name of a tag. -/
def fullTag (handle : Option String) (suffix : String) : Reader String := do
  match handle with
  | none => return suffix
  | some h =>
    match (← get).handles.lookup h with
    | some expansion => return expansion ++ suffix
    | none => fail

/-- The anchor and tag in front of a node, in either order. -/
def properties : Reader (Option String × Option String) := do
  match ← peek with
  | .anchor name => do
    skip
    match ← peek with
    | .tag h s => do
      skip
      return (some name, some (← fullTag h s))
    | _ => return (some name, none)
  | .tag h s => do
    skip
    match ← peek with
    | .anchor name => do
      skip
      return (some name, some (← fullTag h s))
    | _ => return (none, some (← fullTag h s))
  | _ => return (none, none)

/-- The type of a scalar, given its tag. -/
def scalarTag (tag : Option String) (plain : Bool) (text : List CodePoint) : Tag :=
  match tag with
  | none => if plain then .ofPlain (text.map CodePoint.marked) else .str
  | some "!" => .ofPlain (text.map CodePoint.marked)
  | some name => .ofName name

/-- The type of a collection, given its tag. -/
def collectionTag (tag : Option String) (usual : Tag) : Tag :=
  match tag with
  | none => usual
  | some "!" => usual
  | some name => .ofName name

mutual

/-- A node. In `block` context blocks may open; an `indentless` sequence is one whose items stand in
the column of the key before it. -/
def node (block indentless : Bool) : Nat → Reader Nat
  | 0 => fail
  | fuel + 1 => do
    match ← peek with
    | .reference name => do
      skip
      referent name
    | _ => do
      let (anchor, tag) ← properties
      match ← peek with
      | .scalar text plain => do
        skip
        add anchor ⟨scalarTag tag plain text, .scalar text⟩
      | .flowSequence =>
        addAround anchor (collectionTag tag .seq) do
          skip
          return .sequence (← flowItems true fuel)
      | .flowMapping =>
        addAround anchor (collectionTag tag .map) do
          skip
          return .mapping (← flowEntries true fuel)
      | t =>
        if indentless && t = .blockEntry then
          addAround anchor (collectionTag tag .seq) do
            return .sequence (← indentlessItems fuel)
        else if block && t = .blockSequence then
          addAround anchor (collectionTag tag .seq) do
            skip
            return .sequence (← blockItems fuel)
        else if block && t = .blockMapping then
          addAround anchor (collectionTag tag .map) do
            skip
            return .mapping (← blockEntries fuel)
        else if anchor.isSome || tag.isSome then
          add anchor ⟨scalarTag tag true [], .scalar []⟩
        else fail

/-- A node, or an empty one if one of the tokens that end it comes first. -/
def nodeUnless (ends : List Token) (block indentless : Bool) : Nat → Reader Nat
  | 0 => fail
  | fuel + 1 => do
    if ends.contains (← peek) then addEmpty
    else node block indentless fuel

/-- The items of a block sequence. -/
def blockItems : Nat → Reader (List Nat)
  | 0 => fail
  | fuel + 1 => do
    match ← peek with
    | .blockEntry => do
      skip
      let n ← nodeUnless [.blockEntry, .blockEnd] true false fuel
      return n :: (← blockItems fuel)
    | .blockEnd => do
      skip
      return []
    | _ => fail

/-- The items of a sequence that is indented no further than the key before it. -/
def indentlessItems : Nat → Reader (List Nat)
  | 0 => fail
  | fuel + 1 => do
    match ← peek with
    | .blockEntry => do
      skip
      let n ← nodeUnless [.blockEntry, .key, .value, .blockEnd] true false fuel
      return n :: (← indentlessItems fuel)
    | _ => return []

/-- The value behind a key: empty unless a colon is there. -/
def valueUnless (ends : List Token) (block : Bool) : Nat → Reader Nat
  | 0 => fail
  | fuel + 1 => do
    match ← peek with
    | .value => do
      skip
      nodeUnless ends block block fuel
    | _ => addEmpty

/-- The entries of a block mapping. -/
def blockEntries : Nat → Reader (List (Nat × Nat))
  | 0 => fail
  | fuel + 1 => do
    match ← peek with
    | .key => do
      skip
      let k ← nodeUnless [.key, .value, .blockEnd] true true fuel
      let v ← valueUnless [.key, .value, .blockEnd] true fuel
      return (k, v) :: (← blockEntries fuel)
    | .blockEnd => do
      skip
      return []
    | _ => fail

/-- The only entry of a mapping that is an item of a sequence in brackets. -/
def soleEntry : Nat → Reader (Nat × Nat)
  | 0 => fail
  | fuel + 1 => do
    let k ← nodeUnless [.value, .flowEntry, .flowSequenceEnd] false false fuel
    let v ← valueUnless [.flowEntry, .flowSequenceEnd] false fuel
    return (k, v)

/-- The items of a sequence in brackets; a comma parts them. An item may be a single entry. -/
def flowItems (first : Bool) : Nat → Reader (List Nat)
  | 0 => fail
  | fuel + 1 => do
    if (← peek) ≠ .flowSequenceEnd then
      if !first then
        if (← peek) ≠ .flowEntry then fail
        skip
      match ← peek with
      | .flowSequenceEnd => do
        skip
        return []
      | .key => do
        let n ← addAround none .map do
          skip
          return .mapping [← soleEntry fuel]
        return n :: (← flowItems false fuel)
      | _ => do
        let n ← node false false fuel
        return n :: (← flowItems false fuel)
    else do
      skip
      return []

/-- The entries of a mapping in brackets; a comma parts them. -/
def flowEntries (first : Bool) : Nat → Reader (List (Nat × Nat))
  | 0 => fail
  | fuel + 1 => do
    if (← peek) ≠ .flowMappingEnd then
      if !first then
        if (← peek) ≠ .flowEntry then fail
        skip
      match ← peek with
      | .flowMappingEnd => do
        skip
        return []
      | .key => do
        skip
        let k ← nodeUnless [.value, .flowEntry, .flowMappingEnd] false false fuel
        let v ← valueUnless [.flowEntry, .flowMappingEnd] false fuel
        return (k, v) :: (← flowEntries false fuel)
      | _ => do
        let k ← node false false fuel
        let v ← addEmpty
        return (k, v) :: (← flowEntries false fuel)
    else do
      skip
      return []

end

/-- The handles that need no directive. -/
def usualHandles : List (String × String) :=
  [("!", "!"), ("!!", Tag.core)]

/-- The directives in front of a document: one version at most, of a known kind, and no handle
twice. -/
def directives (versioned : Bool) : Nat → Reader Unit
  | 0 => fail
  | fuel + 1 => do
    match ← peek with
    | .version major => do
      if versioned ∨ major ≠ 1 then fail
      skip
      directives true fuel
    | .handle name expansion => do
      if ((← get).handles.lookup name).isSome then fail
      modify fun s => { s with handles := (name, expansion) :: s.handles }
      skip
      directives versioned fuel
    | .otherDirective => do
      skip
      directives versioned fuel
    | _ => modify fun s => { s with handles := s.handles ++ usualHandles }

/-- Reads the directives in front of a document and the marker that starts it. -/
def documentStart (fuel : Nat) : Reader Unit := do
  modify fun s => { s with handles := [] }
  directives false fuel
  if (← peek) ≠ .documentStart then fail
  skip

/-- Passes over markers that end a document. -/
def skipEnds : Nat → Reader Unit
  | 0 => return
  | fuel + 1 => do
    if (← peek) = .documentEnd then
      skip
      skipEnds fuel

/-- Does the token start a document explicitly? -/
def startsDocument : Token → Bool
  | .version _ | .handle _ _ | .otherDirective | .documentStart => true
  | _ => false

/-- The node of the only document, if there is one. Each node takes a token at least, and so does
each way from a node into one of its parts. -/
def document (size : Nat) : Reader (Option Nat) := do
  let fuel := 4 * size + 4
  let first ← peek
  if first = .streamEnd then return none
  if startsDocument first then documentStart fuel
  else modify fun s => { s with handles := usualHandles }
  let next ← peek
  let root ←
    if startsDocument first &&
        (startsDocument next || next = .documentEnd || next = .streamEnd) then addEmpty
    else node true false fuel
  skipEnds fuel
  if (← peek) = .streamEnd then return some root
  documentStart fuel
  fail

end Reader

/-- The nodes of the only document among the tokens, and the number of its root, if there is one;
`flaw` is the error behind the tokens. -/
def Graph.ofTokens (tokens : List Token) (flaw : Option DocumentError) :
    Except DocumentError (Graph × Option Nat) :=
  ((Reader.document tokens.length).run { tokens, flaw }).map fun (root, s) => (s.nodes, root)

end Wireform.Document
