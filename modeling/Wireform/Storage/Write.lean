import Wireform.Storage.Tree

/-!
Changing files. A change goes through steps, each of which leaves a tree; the trees passed through
are kept, since whoever watches a folder may see any of them. New contents are written beside a file
first and then take its place in one step.
-/

namespace Wireform.Storage

/-- The tree as it is, and the trees before it, newest first. -/
structure History where
  tree : Tree
  past : List Tree := []

/-- Steps that change the tree and may fail on the way. A failure keeps the tree reached. -/
abbrev Steps := ExceptT StorageError (StateM History)

namespace Steps

/-- The tree as it is. -/
def tree : Steps Tree := do
  return (← get).tree

/-- Goes on to another tree. -/
def move (t : Tree) : Steps Unit :=
  modify fun h => { tree := t, past := h.tree :: h.past }

/-- Runs steps from a tree: the outcome and the tree reached. -/
def runFrom {α : Type} (s : Steps α) (t : Tree) : Except StorageError α × Tree :=
  let (outcome, h) := s.run { tree := t }
  (outcome, h.tree)

/-- Makes a folder where nothing is. -/
def makeFolder (p : Path) : Steps Unit := do
  let t ← tree
  let l ← t.locate .makeFolder p
  if (t.get? l).isSome then throw (.refused .exists p.text none)
  move (t.put l .folder)

/-- Makes a folder unless it is there. -/
def makeFolderIfMissing (p : Path) : Steps Unit :=
  tryCatch (makeFolder p) fun e => do
    match e with
    | .refused .notFound _ _ | .zeroInPath => throw e
    | _ => if !(← (← tree).holdsFolder p) then throw e

/-- Makes a folder and those around it, unless they are there. `depth` bounds how many are around
it. -/
def ensureFolderFrom : Nat → Path → Steps Unit
  | 0, p => makeFolderIfMissing p
  | depth + 1, p =>
    tryCatch (makeFolderIfMissing p) fun e => do
      match e with
      | .refused .notFound _ _ => do
        ensureFolderFrom depth p.parent
        makeFolderIfMissing p
      | _ => throw e

/-- Makes a folder and those around it, unless they are there. -/
def ensureFolder (p : Path) : Steps Unit :=
  ensureFolderFrom p.names.length p

/-- Opens a file for new contents: it is there afterwards, and empty. -/
def create (p : Path) : Steps Location := do
  let t ← tree
  let l ← t.locate .openToWrite p
  if t.get? l = some .folder then throw (.refused .isFolder p.text none)
  move (t.put l (.file []))
  return l

/-- Writes the contents of the file at a path that was opened for them. -/
def fill (p : Path) (l : Location) (bytes : List UInt8) : Steps Unit := do
  let t ← tree
  match t.refusal .write p with
  | some r => throw (.notWritten r)
  | none => move (t.put l (.file bytes))

/-- Moves a file to a path, in place of the file that may be there. -/
def rename (source target : Path) : Steps Unit := do
  let t ← tree
  let refuse (f : Fault) : StorageError := .refused f source.text (some target.text)
  if let some r := t.refusal .rename source then throw (refuse (.system r))
  match t.follow source, t.follow target with
  | .error f, _ => throw (refuse f)
  | _, .error f => throw (refuse f)
  | .ok a, .ok b =>
    if target.name = ".." then throw (refuse .busy)
    match t.get? a, t.get? b with
    | none, _ => throw (refuse .notFound)
    | _, some .folder => throw (refuse .isFolder)
    | some e, _ => if a ≠ b then move (t.carry a b e)

/-- Takes a file away. -/
def remove (p : Path) : Steps Unit := do
  let t ← tree
  let l ← t.locate .remove p
  match t.get? l with
  | some .folder => throw (.refused .isFolder p.text none)
  | some (.file _) => move (t.erase l)
  | none => throw (.refused .notFound p.text none)

/-- Writes new contents beside a file and moves them to its place. If that fails, what was written
is taken away again. -/
def replaceBeside (temporary p : Path) (bytes : List UInt8) : Steps Unit :=
  tryCatch
    (do
      let l ← create temporary
      fill temporary l bytes
      rename temporary p)
    fun e => do
      if ← (← tree).contains temporary then remove temporary
      throw (.notReplaced p.text e)

/-- Gives a file new contents, all or nothing, making the folders around it if need be. -/
def replaceFile (p : Path) (bytes : List UInt8) (suffix : String) : Steps Unit := do
  ensureFolder p.parent
  match p.withSuffix (p.suffix ++ suffix) with
  | .error e => throw (.suffix e)
  | .ok temporary => replaceBeside temporary p bytes

/-- What the name of the temporary file ends in. -/
def usualSuffix : String :=
  ".tmp"

/-- Gives a file a new text, all or nothing. -/
def replaceText (p : Path) (text : List Text.CodePoint) (charset : Text.Charset) :
    Steps Unit := do
  match Text.encodeIn charset text with
  | .error e => throw (.encoding e)
  | .ok bytes => replaceFile p bytes usualSuffix

/-- Opens a file to add to it, making the folders around it if need be: the number under which it is
open. Errors on opening it show its full path, `home` being that of the working folder. -/
def openToAppend (home : String) (p : Path) : Steps Nat := do
  ensureFolder p.parent
  let t ← tree
  let shown := p.absolute home
  match t.locate .openToAppend p with
  | .error (.refused f _ _) => throw (.refused f shown none)
  | .error e => throw e
  | .ok l =>
    match t.get? l with
    | some .folder => throw (.refused .isFolder shown none)
    | some (.file _) => move (t.openAt l)
    | none => move ((t.put l (.file [])).openAt l)
    return t.opened.length

end Steps

end Wireform.Storage
