import Wireform.Document.Node

/-!
Merging: a mapping takes over the entries of those that it names under its merge keys, in front of
its own. What counts is that these are mappings, whatever type they have. Merging changes nodes, and
whoever refers to one of them sees it changed.
-/

namespace Wireform.Document.Graph

/-- The entries of a node, none if it is no mapping. -/
def entries (g : Graph) (id : Nat) : List (Nat × Nat) :=
  match g.shape id with
  | .mapping es => es
  | _ => []

/-- Is this the key under which a mapping names others? -/
def isMergeKey (g : Graph) (id : Nat) : Bool :=
  g.tag id == .merge

/-- The graph with a key as a text if it is the sign for a default value. -/
def asText (g : Graph) (key : Nat) : Graph :=
  if g.tag key = .value then g.setTag key .str else g

/-- How many entries of the graph have a merge key. -/
def mergeCount (g : Graph) : Nat :=
  g.foldl
    (fun n node =>
      match node.shape with
      | .mapping es => n + (es.filter fun e => g.isMergeKey e.1).length
      | _ => n)
    0

/-- Merges into a mapping. `taken` are the entries taken over so far. Each round does away with one
entry that has a merge key, so `fuel` need not be more than there are of them. -/
def mergeFrom : Nat → List (Nat × Nat) → Nat → Graph → Except DocumentError Graph
  | 0, _, _, _ => .error .malformed
  | fuel + 1, taken, id, g =>
    let before := (g.entries id).takeWhile fun e => !g.isMergeKey e.1
    match (g.entries id).dropWhile fun e => !g.isMergeKey e.1 with
    | [] =>
      let g := (before.map (·.1)).foldl asText g
      .ok (g.setShape id (.mapping (taken ++ before)))
    | (_, source) :: after => do
      let g := g.setShape id (.mapping (before ++ after))
      match g.shape source with
      | .mapping _ =>
        let g ← mergeFrom fuel [] source g
        mergeFrom fuel (taken ++ g.entries source) id g
      | .sequence sources =>
        let (g, more) ← sources.foldlM
          (fun (g, more) source =>
            match g.shape source with
            | .mapping _ => do
              let g ← mergeFrom fuel [] source g
              return (g, g.entries source ++ more)
            | _ => throw .malformed)
          (g, [])
        mergeFrom fuel (taken ++ more) id g
      | .scalar _ => throw .malformed

/-- Merges into a mapping what it names under its merge keys. Of several mappings in a sequence the
entries of earlier ones come last, and so win. -/
def merge (g : Graph) (id : Nat) : Except DocumentError Graph :=
  mergeFrom (g.mergeCount + 1) [] id g

end Wireform.Document.Graph
