import Wireform.Document.Merge
import Wireform.Document.ScalarValue

/-!
The value that a document stands for. A scalar has its value at once. A collection is there before
what is in it: it waits until all that were met earlier have been filled, and whatever is wrong with
its contents comes up only then. So of several faults the one nearest to the root counts.
-/

namespace Wireform.Document

open Text (CodePoint)

/-- A scalar value and the node that it comes from. The undefined number comes from no node if it
goes by its own name: that is one number, while others are one for each node. -/
structure Key where
  value : Value
  origin : Option Nat

/-- Is the value the undefined number? -/
def isUndefined : Value → Bool
  | .number .nan => true
  | _ => false

/-- Are two scalars the same key of a map? -/
def Key.same (a b : Key) : Bool :=
  a.value.sameKey b.value ||
    (isUndefined a.value && isUndefined b.value && a.origin == b.origin)

/-- What a node has become, other nodes being referred to by number. -/
inductive Object where
  | scalar (k : Key)
  | list (items : List Nat)
  | pairs (items : List (Nat × Nat))
  | map (entries : List (Key × Nat))
  | set (keys : List Key)

/-- The entries with a node put under a key. A key that is there keeps its place and spelling. -/
def putKey (entries : List (Key × Nat)) (key : Key) (node : Nat) : List (Key × Nat) :=
  match entries with
  | [] => [(key, node)]
  | (k, n) :: rest => if k.same key then (k, node) :: rest else (k, n) :: putKey rest key node

/-- The text of a scalar, or of the default value of a mapping that stands in for one. -/
def Graph.scalarText (g : Graph) : Nat → Nat → Except DocumentError (List CodePoint)
  | 0, _ => .error .tooDeep
  | fuel + 1, id =>
    match g.shape id with
    | .scalar text => .ok text
    | .sequence _ => .error .malformed
    | .mapping entries =>
      match entries.find? fun e => g.tag e.1 == .value with
      | some (_, value) => g.scalarText fuel value
      | none => .error .malformed

/-- The scalar that a node with a type for scalars becomes. -/
def Graph.scalar (g : Graph) (id : Nat) : Except DocumentError Key := do
  let text ← g.scalarText (g.size + 1) id
  match g.tag id, g.shape id with
  | .timestamp, .mapping _ => throw .entriesForMoment
  | .float, _ =>
    return ⟨← scalarValue .float text, if namesUndefined text then none else some id⟩
  | tag, _ => return ⟨← scalarValue tag text, some id⟩

/-- The state of building: the nodes, what they have become, and the collections that have been met,
in that order. -/
structure Building where
  graph : Graph
  objects : Array (Option Object)
  met : Array Nat := #[]

/-- A step of building. -/
abbrev Builder := StateT Building (Except DocumentError)

namespace Builder

/-- A node becomes something. -/
def put (id : Nat) (o : Object) : Builder Unit :=
  modify fun s => { s with objects := s.objects.setIfInBounds id (some o) }

/-- A node becomes a collection, which is to be filled. -/
def meet (id : Nat) (o : Object) : Builder Object := do
  put id o
  modify fun s => { s with met := s.met.push id }
  return o

/-- What a node becomes, if it has not become something before. -/
def make (id : Nat) : Builder Object := do
  let s ← get
  match s.objects.getD id none with
  | some o => return o
  | none =>
    match s.graph.tag id with
    | .seq => meet id (.list [])
    | .omap | .pairs => meet id (.pairs [])
    | .map => meet id (.map [])
    | .set => meet id (.set [])
    | .merge | .value | .unknown => throw .malformed
    | _ => do
      let o := Object.scalar (← s.graph.scalar id)
      put id o
      return o

/-- What the items of a sequence become. -/
def makeItems : List Nat → Builder Unit
  | [] => return
  | n :: ns => do
    let _ ← make n
    makeItems ns

/-- The pairs of a sequence of mappings with one entry each. -/
def makePairs : List Nat → Builder (List (Nat × Nat))
  | [] => return []
  | n :: ns => do
    match (← get).graph.shape n with
    | .mapping [(k, v)] => do
      let _ ← make k
      let _ ← make v
      return (k, v) :: (← makePairs ns)
    | _ => throw .malformed

/-- The entries of a mapping, in which a later value for a key replaces an earlier one; no key is a
collection. -/
def makeEntries (entries : List (Key × Nat)) : List (Nat × Nat) → Builder (List (Key × Nat))
  | [] => return entries
  | (k, v) :: rest => do
    match ← make k with
    | .scalar key => do
      let _ ← make v
      makeEntries (putKey entries key v) rest
    | _ => throw .malformed

/-- The items of a node that has to be a sequence. -/
def itemsOf (id : Nat) : Builder (List Nat) := do
  match (← get).graph.shape id with
  | .sequence items => return items
  | _ => throw .malformed

/-- The entries of a node that has to be a mapping, with those that it takes over. -/
def entriesOf (id : Nat) : Builder (List (Nat × Nat)) := do
  let s ← get
  match s.graph.shape id with
  | .mapping _ => do
    let graph ← s.graph.merge id
    set { s with graph }
    return graph.entries id
  | _ => throw .malformed

/-- Fills a collection. -/
def fill (id : Nat) : Builder Unit := do
  match (← get).graph.tag id with
  | .seq => do
    let items ← itemsOf id
    makeItems items
    put id (.list items)
  | .omap | .pairs => do put id (.pairs (← makePairs (← itemsOf id)))
  | .map => do put id (.map (← makeEntries [] (← entriesOf id)))
  | .set => do put id (.set ((← makeEntries [] (← entriesOf id)).map (·.1)))
  | _ => return

/-- Fills the collections that have been met, from the one with a number on. Each node is met once
at most. -/
def fillFrom (number : Nat) : Nat → Builder Unit
  | 0 => return
  | fuel + 1 => do
    match (← get).met[number]? with
    | some id => do
      fill id
      fillFrom (number + 1) fuel
    | none => return

end Builder

/-- What the nodes become, starting from the root. -/
def Graph.build (g : Graph) (root : Nat) : Except DocumentError (Array (Option Object)) := do
  let start : Building := { graph := g, objects := Array.replicate g.size none }
  let (_, s) ← (do
    let _ ← Builder.make root
    Builder.fillFrom 0 (g.size + 1) : Builder Unit).run start
  return s.objects

/-! ## Values -/

/-- The value of a node as far as it is known, and whether that is all of it. -/
structure Draft where
  value : Value
  complete : Bool

namespace Object

/-- The value of an object, given those of the nodes in it. -/
def draft (drafts : Array Draft) (o : Object) : Draft :=
  let value (id : Nat) : Value := (drafts[id]?.map Draft.value).getD .null
  let complete (id : Nat) : Bool := (drafts[id]?.map Draft.complete).getD true
  match o with
  | .scalar k => ⟨k.value, true⟩
  | .list items => ⟨.list (items.map value), items.all complete⟩
  | .pairs items =>
    ⟨.list (items.map fun p => .pair (value p.1) (value p.2)),
      items.all fun p => complete p.1 && complete p.2⟩
  | .map entries =>
    ⟨.map (entries.map fun e => (e.1.value, value e.2)), entries.all fun e => complete e.2⟩
  | .set keys => ⟨.set (keys.map Key.value), true⟩

/-- The value of an object of which only the kind is known. -/
def hollow : Option Object → Draft
  | some (.list _) | some (.pairs _) => ⟨.list [], false⟩
  | some (.map _) => ⟨.map [], false⟩
  | some (.set _) => ⟨.set [], false⟩
  | _ => ⟨.null, false⟩

/-- The values of all nodes, known one level further than before. -/
def refine (objects : Array (Option Object)) (drafts : Array Draft) : Array Draft :=
  objects.zipWith
    (fun o d =>
      match o with
      | some o => if d.complete then d else o.draft drafts
      | none => ⟨d.value, true⟩)
    drafts

/-- The values of all nodes, known so many levels further, or to the end. -/
def refined (objects : Array (Option Object)) : Nat → Array Draft → Array Draft
  | 0, drafts => drafts
  | levels + 1, drafts =>
    if drafts.all Draft.complete then drafts else refined objects levels (refine objects drafts)

/-- How many levels of a value that is in itself are known, next to one for each node. Whatever has
an end is known to it after one level for each node. Of the rest, settings are looked for in the
document, in a section and under a name, and the kind of what is there is the fourth level. -/
def extraLevels : Nat := 4

/-- The value of a node. -/
def valueAt (objects : Array (Option Object)) (id : Nat) : Value :=
  let drafts := refined objects (objects.size + extraLevels) (objects.map hollow)
  (drafts[id]?.map Draft.value).getD .null

end Object

/-- The value that a text stands for; null if there is no document in it. -/
def load (c : Cursor) : Except DocumentError Value := do
  let (tokens, flaw) := Token.scan c
  match ← Graph.ofTokens tokens flaw with
  | (_, none) => return .null
  | (g, some root) => return Object.valueAt (← g.build root) root

end Wireform.Document
