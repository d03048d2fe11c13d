import Wireform.Document.Content
import Wireform.Storage.Tree
import Wireform.Text.Stream

/-!
Reading a document from a file. Its text comes in portions, and no further than it is needed; so
what is wrong with a portion does not matter if there is an error before.
-/

namespace Wireform.Document

/-- Why a file has no document to offer. -/
inductive FileError where
  | missing (path : String)
  | storage (e : Storage.StorageError)
  | malformed (path : String)
  | content (e : DocumentError)
  deriving DecidableEq

/-- The error in words. -/
def FileError.message : FileError → String
  | .missing path => "YAML file not found: " ++ path
  | .storage e => e.message
  | .malformed path => "Failed to parse YAML file " ++ path
  | .content e => e.message

/-- Can the character occur in a document at all? -/
def isAllowed (c : Char) : Bool :=
  c == '\t' || c == '\n' || c == '\r' || (' ' ≤ c && c ≤ '~') || c == '\x85' ||
    ('\xa0' ≤ c && c ≤ '\ufffd') || 0x10000 ≤ c.toNat

/-- The text of portions up to the first one with a character that cannot occur, and the error
behind it; `flaw` is the one behind all portions. -/
def legible (flaw : Option DocumentError) :
    List (List Char) → List Char × Option DocumentError
  | [] => ([], flaw)
  | p :: ps =>
    if p.all isAllowed then
      let (text, flaw) := legible flaw ps
      (p ++ text, flaw)
    else ([], some .malformed)

/-- The text of a document in portions. The first two come together. -/
def textOf (portions : List (List Char)) (flaw : Option DocumentError) :
    List Char × Option DocumentError :=
  match portions, flaw with
  | [_], some e => ([], some e)
  | p :: q :: ps, _ => legible flaw ((p ++ q) :: ps)
  | _, _ => legible flaw portions

/-- The value of the document that bytes hold; `path` is where they are from. -/
def ofBytes (path : String) (bytes : List UInt8) : Except FileError Value :=
  let (portions, e) := Text.portions bytes
  let (rest, flaw) := textOf portions (e.map .undecodable)
  match load { rest, flaw } with
  | .ok v => .ok v
  | .error .malformed => .error (.malformed path)
  | .error e => .error (.content e)

/-- The value of the document in a file. -/
def ofFile (t : Storage.Tree) (p : Storage.Path) : Except FileError Value := do
  if !(← (t.contains p).mapError .storage) then throw (.missing p.text)
  ofBytes p.text (← (t.read p).mapError .storage)

end Wireform.Document
