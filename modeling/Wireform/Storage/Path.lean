import Wireform.Text.Quoted

/-!
Paths: a row of names, from the working folder or from the outermost one. Empty names and those of a
single dot do not count; two dots stay, since what they lead to depends on the folder before.
-/

namespace Wireform.Storage

/-- A path. `slashes` tells those from the outermost folder: one slash, or two, which are kept
apart; none is a path from the working folder. -/
structure Path where
  slashes : Nat := 0
  names : List String := []
  deriving DecidableEq

namespace Path

/-- The parts of a text between slashes. -/
def splitSlashes : List Char → List (List Char)
  | [] => [[]]
  | c :: cs =>
    if c = '/' then [] :: splitSlashes cs
    else
      match splitSlashes cs with
      | [] => [[c]]
      | part :: parts => (c :: part) :: parts

/-- The path that a text spells. -/
def ofText (s : String) : Path :=
  let leading := (s.toList.takeWhile (· == '/')).length
  { slashes := if leading = 2 then 2 else min leading 1,
    names := ((splitSlashes s.toList).map String.ofList).filter fun n => n ≠ "" ∧ n ≠ "." }

/-- The text of a path; the working folder itself is a dot. -/
def text (p : Path) : String :=
  if p.slashes = 0 ∧ p.names = [] then "."
  else String.ofList (List.replicate p.slashes '/') ++ "/".intercalate p.names

/-- The names with each double dot and the name before it left out. -/
def shorten (names : List String) : List String :=
  (names.foldl
    (fun acc n => if n = ".." ∧ acc ≠ [] ∧ acc.head? ≠ some ".." then acc.tail else n :: acc)
    []).reverse

/-- The full path, for a working folder with the path `home`. -/
def absolute (home : String) (p : Path) : String :=
  if p.slashes = 0 then "/".intercalate (home :: shorten p.names)
  else text { p with names := (shorten p.names).dropWhile (· == "..") }

/-- The path without its last name. -/
def parent (p : Path) : Path :=
  { p with names := p.names.dropLast }

/-- The last name, empty if there is none. -/
def name (p : Path) : String :=
  p.names.getLastD ""

/-- What follows the last dot of a name, with the dot; nothing if the dot comes first or last. -/
def suffixOf (name : List Char) : List Char :=
  let tail := name.reverse.takeWhile (· != '.')
  if tail.isEmpty ∨ name.length ≤ tail.length + 1 then [] else '.' :: tail.reverse

/-- The suffix of the last name. -/
def suffix (p : Path) : String :=
  String.ofList (suffixOf p.name.toList)

/-- Why a path cannot be given a suffix. -/
inductive SuffixError where
  | suffix (s : String)
  | noName (p : Path)
  deriving DecidableEq

/-- The error in words. -/
def SuffixError.message : SuffixError → String
  | .suffix s => "Invalid suffix " ++ Text.quoted s
  | .noName p => "PosixPath(" ++ Text.quoted p.text ++ ") has an empty name"

/-- Can the text be a suffix: nothing, or a dot with more behind it and no slash? -/
def isSuffix (s : String) : Bool :=
  !s.toList.contains '/' && (s.isEmpty || (s.toList.head? == some '.' && s != "."))

/-- The path with another suffix on its last name. -/
def withSuffix (p : Path) (s : String) : Except SuffixError Path :=
  if !isSuffix s then .error (.suffix s)
  else if p.name = "" then .error (.noName p)
  else
    let stem := p.name.toList.take (p.name.toList.length - (suffixOf p.name.toList).length)
    .ok { p with names := p.names.dropLast ++ [String.ofList stem ++ s] }

end Path

end Wireform.Storage
