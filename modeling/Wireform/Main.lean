import Std.Time.DateTime.Timestamp
import Wireform.Command.Run

/-!
The program: it looks up what is on the disk under the paths that the command line names, runs the
command on that, and brings the disk and the two output streams up to date.
-/

namespace Wireform.Command

/-- The path of a location. -/
def locationText (l : Storage.Location) : String :=
  match l with
  | "/" :: names => "/" ++ "/".intercalate names
  | names => "/".intercalate names

/-- The location of a path, its double dots taken by name. -/
def locationOf (p : Storage.Path) : Storage.Location :=
  p.names.foldl (fun l n => if n = ".." then Storage.outer l else l ++ [n]) (Storage.Tree.start p)

/-- The texts of paths that an invocation names. -/
def pathTexts (i : Invocation) : List String :=
  [i.input, textOf i.output, textOf i.output ++ Storage.Steps.usualSuffix, textOf i.config,
    textOf i.logFile]

/-- The locations that an invocation can lead to, folders before what is in them. -/
def places (i : Invocation) : List Storage.Location :=
  (pathTexts i).flatMap fun s =>
    let l := locationOf (.ofText s)
    Storage.Tree.folders l ++ [l]

/-- What the disk has under a path, if anything. -/
def probe (path : String) : IO (Option (Option (List UInt8))) := do
  try
    let bytes ← IO.FS.readBinFile path
    return some (some bytes.toList)
  catch e =>
    match e with
    | .inappropriateType _ code _ => return if code = 21 then some none else none
    | .noFileOrDirectory _ _ _ => return none
    | e => throw e

/-- The part of the disk at some locations. -/
def survey (ls : List Storage.Location) : IO Storage.Tree :=
  ls.foldlM
    (fun t l => do
      if (t.get? l).isSome then return t
      match ← probe (locationText l) with
      | some contents => return t.plant l contents
      | none => return t)
    {}

/-- Puts the output on the disk, in one step. -/
def replaceOnDisk (path : String) (bytes : List UInt8) : IO Unit := do
  let beside := path ++ Storage.Steps.usualSuffix
  IO.FS.writeBinFile beside (.mk bytes.toArray)
  IO.FS.rename beside path

/-- Adds to a file on the disk, which is there afterwards. -/
def appendOnDisk (path : String) (bytes : List UInt8) : IO Unit := do
  let h ← IO.FS.Handle.mk path .append
  h.write (.mk bytes.toArray)

/-- Takes a file from the disk, unless that has been done. -/
def removeOnDisk (path : String) : IO Unit := do
  try
    IO.FS.removeFile path
  catch e =>
    match e with
    | .noFileOrDirectory _ _ _ => return
    | e => throw e

/-- Brings the disk from one tree to another. The output is replaced as a whole, and any other file
has been added to. -/
def update (output : Storage.Location) (before after : Storage.Tree) : IO Unit := do
  for (l, e) in after.entries do
    if before.get? l ≠ some e then
      match e, before.get? l with
      | .folder, _ => IO.FS.createDirAll (locationText l)
      | .file bytes, some (.file old) =>
        if l = output then replaceOnDisk (locationText l) bytes
        else appendOnDisk (locationText l) (bytes.drop old.length)
      | .file bytes, _ =>
        if l = output then replaceOnDisk (locationText l) bytes
        else appendOnDisk (locationText l) bytes
  for (l, _) in before.entries do
    if (after.get? l).isNone then removeOnDisk (locationText l)

/-- The time in seconds since the start of 1970. -/
def now : IO Binary64 := do
  let t ← Std.Time.Timestamp.now
  let nanoseconds := t.toNanosecondsSinceUnixEpoch.val
  return Binary64.nearest (nanoseconds < 0) (nanoseconds.natAbs * Binary64.one) 1000000000

/-- All of the standard input, read in chunks. -/
partial def drain (s : IO.FS.Stream) (acc : ByteArray) : IO ByteArray := do
  let chunk ← s.read 65536
  if chunk.isEmpty then return acc else drain s (acc ++ chunk)

/-- The standard input, if an invocation needs it. -/
def inputFor (i : Invocation) : IO (List UInt8) := do
  if i.input = "-" then return (← drain (← IO.getStdin) .empty).toList else return []

/-- What a command line leads to; the numbers of exit codes, or one for an error that escapes. -/
def execute (argv : List String) : IO UInt32 := do
  let asked := Invocation.ofArguments argv
  let (output, tree, stdin) ←
    match asked with
    | .ok (some i) =>
      pure (locationOf (.ofText (textOf i.output)), ← survey (places i), ← inputFor i)
    | _ => pure ([], {}, [])
  let console ← IO.getStderr
  let world : World :=
    { home := (← IO.getEnv "PWD").getD ".", terminal := ← console.isTty, clock := ← now, tree }
  let (outcome, after) := run world argv stdin
  update output tree after.tree
  (← IO.getStdout).putStr after.output
  console.putStr (Text.withEscapes after.console)
  match outcome with
  | .exit code => return code.number.toUInt32
  | .escaped e =>
    console.putStrLn e.message
    return 1

end Wireform.Command

/-- The program. -/
def main (argv : List String) : IO UInt32 :=
  Wireform.Command.execute argv
