import Wireform.Storage.Path
import Wireform.Text.Utf8

/-!
A tree of files and folders, and what paths lead to in it. Files that are open are known by number,
so that whoever has one open still finds it after it is moved.

The system may refuse a call that the files themselves would allow: for want of a permission, of
space, or because a device fails. Which calls it refuses is part of the tree and can be anything, by
the kind of call and the path. It does not change while steps are taken.

Left out are links of both kinds, so that a file is in one place only, files that are neither
regular nor folders, reading and writing that stop halfway, and whatever others change in the
meantime. An open file takes all that is added to it.
-/

namespace Wireform.Storage

/-- A place in the tree: a row of names from the working folder. Leading double dots lead out of
that folder, and a leading slash starts at the outermost one. -/
abbrev Location := List String

/-- What can be at a location. -/
inductive Entry where
  | folder
  | file (bytes : List UInt8)
  deriving DecidableEq

/-- What the system can be asked to do with a path. -/
inductive Call where
  /-- Say what is there. -/
  | find
  | makeFolder
  | openToRead
  /-- Open a file for new contents. -/
  | openToWrite
  | openToAppend
  /-- Write the contents of a file that was opened for them. -/
  | write
  | rename
  | remove
  deriving DecidableEq

/-- Why the system refuses a call that the files would allow. -/
inductive Refusal where
  | notPermitted
  | deviceFails
  | denied
  | noSpace
  | readOnly
  | overQuota
  deriving DecidableEq

/-- The number of a refusal. -/
def Refusal.number : Refusal → Nat
  | .notPermitted => 1
  | .deviceFails => 5
  | .denied => 13
  | .noSpace => 28
  | .readOnly => 30
  | .overQuota => 122

/-- The refusal in words. -/
def Refusal.words : Refusal → String
  | .notPermitted => "Operation not permitted"
  | .deviceFails => "Input/output error"
  | .denied => "Permission denied"
  | .noSpace => "No space left on device"
  | .readOnly => "Read-only file system"
  | .overQuota => "Disk quota exceeded"

/-- A tree of files and folders. `opened` has the locations of the files that are open, by number; a
file that was taken away while open has none. `refusal` says which calls the system refuses. -/
structure Tree where
  entries : List (Location × Entry) := []
  opened : List (Option Location) := []
  refusal : Call → Path → Option Refusal := fun _ _ => none

/-- Why an operation is refused: over what is in the tree, or by the system. -/
inductive Fault where
  | notFound
  | exists
  | notFolder
  | isFolder
  | busy
  | nameTooLong
  | system (r : Refusal)
  deriving DecidableEq

/-- The number of a fault. -/
def Fault.number : Fault → Nat
  | .notFound => 2
  | .busy => 16
  | .exists => 17
  | .notFolder => 20
  | .isFolder => 21
  | .nameTooLong => 36
  | .system r => r.number

/-- The fault in words. -/
def Fault.words : Fault → String
  | .notFound => "No such file or directory"
  | .busy => "Device or resource busy"
  | .exists => "File exists"
  | .notFolder => "Not a directory"
  | .isFolder => "Is a directory"
  | .nameTooLong => "File name too long"
  | .system r => r.words

/-- The fault with its number. -/
def Fault.message (f : Fault) : String :=
  "[Errno " ++ toString f.number ++ "] " ++ f.words

/-- Why an operation on files fails. -/
inductive StorageError where
  /-- Refused at a path, or on the way from it to another one. -/
  | refused (fault : Fault) (path : String) (target : Option String)
  /-- Refused to a file that is open. -/
  | notWritten (r : Refusal)
  /-- The path holds a zero character. -/
  | zeroInPath
  | suffix (e : Path.SuffixError)
  | encoding (e : Text.EncodeError)
  /-- A file could not be replaced by new contents. -/
  | notReplaced (path : String) (cause : StorageError)
  deriving DecidableEq

/-- The error in words. -/
def StorageError.message : StorageError → String
  | .refused fault path target =>
    fault.message ++ ": " ++ Text.quoted path ++
      match target with
      | some t => " -> " ++ Text.quoted t
      | none => ""
  | .notWritten r => (Fault.system r).message
  | .zeroInPath => "embedded null byte"
  | .suffix e => e.message
  | .encoding e => e.message
  | .notReplaced path cause => "Failed to write " ++ path ++ " atomically: " ++ cause.message

/-- Is this a folder that is always there: the working folder, one around it, or the outermost? -/
def isFixed (l : Location) : Bool :=
  l == ["/"] || l.all (· == "..")

/-- The location of the folder around. -/
def outer (l : Location) : Location :=
  if l = ["/"] then l else if isFixed l then l ++ [".."] else l.dropLast

namespace Tree

/-- What is at a location. -/
def get? (t : Tree) (l : Location) : Option Entry :=
  if isFixed l then some .folder else t.entries.lookup l

/-- The tree with nothing at a location. -/
def erase (t : Tree) (l : Location) : Tree :=
  { t with
    entries := t.entries.filter (·.1 ≠ l)
    opened := t.opened.map fun place => place.filter (· ≠ l) }

/-- The tree with something at a location; a file that is open there stays open. -/
def put (t : Tree) (l : Location) (e : Entry) : Tree :=
  { t with entries := t.entries.filter (·.1 ≠ l) ++ [(l, e)] }

/-- The tree with something moved from one location to another. Whoever has it open finds it there;
what was there before is gone. -/
def carry (t : Tree) (a b : Location) (e : Entry) : Tree :=
  { (t.erase a).put b e with
    opened := t.opened.map fun place => if place = some a then some b else place.filter (· ≠ b) }

/-- The tree with a file open at a location. -/
def openAt (t : Tree) (l : Location) : Tree :=
  { t with opened := t.opened ++ [some l] }

/-- The folders around a location, outermost first. -/
def folders (l : Location) : List Location :=
  ((List.range l.length).drop 1).map l.take

/-- The tree with something at a location and folders around it. -/
def plant (t : Tree) (l : Location) (contents : Option (List UInt8)) : Tree :=
  let t := (folders l).foldl (fun t f => if (t.get? f).isSome then t else t.put f .folder) t
  match contents with
  | some bytes => t.put l (.file bytes)
  | none => if (t.get? l).isSome then t else t.put l .folder

/-- Adds bytes to the file that is open under a number, wherever it is. -/
def append (t : Tree) (number : Nat) (bytes : List UInt8) : Tree :=
  match t.opened[number]? with
  | some (some place) =>
    { t with
      entries := t.entries.map fun (l, e) =>
        match e with
        | .file old => (l, if l = place then .file (old ++ bytes) else e)
        | .folder => (l, e) }
  | _ => t

/-! ## What paths lead to -/

/-- The longest name, in bytes. -/
def maxName : Nat := 255

/-- The longest path, in bytes. -/
def maxPath : Nat := 4095

/-- The location under a name in the folder at a location. -/
def enter (t : Tree) (l : Location) (name : String) : Except Fault Location :=
  match t.get? l with
  | none => .error .notFound
  | some (.file _) => .error .notFolder
  | some .folder =>
    if name = ".." then .ok (outer l)
    else if maxName < name.utf8ByteSize then .error .nameTooLong
    else .ok (l ++ [name])

/-- The location where a path begins. -/
def start (p : Path) : Location :=
  if p.slashes = 0 then [] else ["/"]

/-- The location that a path leads to. All folders on the way are there; whether anything is at the
location itself is left open. -/
def follow (t : Tree) (p : Path) : Except Fault Location :=
  if maxPath < p.text.utf8ByteSize then .error .nameTooLong
  else p.names.foldlM t.enter (start p)

/-- The same for a call, with the path in the error. -/
def locate (t : Tree) (c : Call) (p : Path) : Except StorageError Location :=
  if p.text.toList.contains '\x00' then .error .zeroInPath
  else
    match t.refusal c p with
    | some r => .error (.refused (.system r) p.text none)
    | none => (t.follow p).mapError fun f => .refused f p.text none

/-- What a call finds at the end of a path. -/
def look (t : Tree) (c : Call) (p : Path) : Except StorageError Entry := do
  match t.get? (← t.locate c p) with
  | some e => return e
  | none => throw (.refused .notFound p.text none)

/-- Is something of a kind at the end of a path? It is an error to ask for a name that is too long,
or if the system refuses to say. -/
def asks (t : Tree) (p : Path) (kind : Entry → Bool) : Except StorageError Bool :=
  match t.look .find p with
  | .ok entry => .ok (kind entry)
  | .error e =>
    match e with
    | .refused .nameTooLong _ _ | .refused (.system _) _ _ => .error e
    | _ => .ok false

/-- Is anything at the end of a path? -/
def contains (t : Tree) (p : Path) : Except StorageError Bool :=
  t.asks p fun _ => true

/-- Is a folder at the end of a path? -/
def holdsFolder (t : Tree) (p : Path) : Except StorageError Bool :=
  t.asks p (· == .folder)

/-- The bytes of the file at the end of a path. -/
def read (t : Tree) (p : Path) : Except StorageError (List UInt8) := do
  match ← t.look .openToRead p with
  | .file bytes => return bytes
  | .folder => throw (.refused .isFolder p.text none)

end Tree

end Wireform.Storage
