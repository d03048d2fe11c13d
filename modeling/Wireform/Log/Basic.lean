import Wireform.Log.Record
import Wireform.Storage.Write
import Wireform.Text.LetterCase

/-!
The log: where its lines go, from which level on, and with which context. Setting it up again
replaces its outlets, if it was set up in full before.

A record that has no line is dropped. Left out is that the console shows why, and that a context too
deep for JSON is an error to whoever logs with it.
-/

namespace Wireform

namespace Log

/-- Where lines go: to the console, or to the end of the file that is open under a number. -/
inductive Outlet where
  | console
  | file (number : Nat)
  deriving DecidableEq

/-- An outlet with the layout of its lines. -/
structure Handler where
  outlet : Outlet
  layout : Layout
  deriving DecidableEq

end Log

/-- The state of the log. -/
structure Log where
  handlers : List Log.Handler := []
  level : Level := .warning
  context : Log.Context := []
  configured : Bool := false

/-- What a run works with: the path of the working folder, whether the console is a terminal, the
time, how many collections inside each other there is room for in JSON, the files, the log, and what
has been put out so far. -/
structure World where
  home : String
  terminal : Bool := false
  clock : Binary64
  /-- Each collection takes one call, of which a thousand may be open at once; fifty are set aside
  for those that lead to the writer. -/
  room : Nat := 1000 - 50
  tree : Storage.Tree := {}
  log : Log := {}
  output : String := ""
  console : List Text.CodePoint := []

namespace Log

/-- How a log is to be set up. -/
structure Setup where
  level : String := "INFO"
  file : String := ""
  json : Bool := false
  color : Bool := true
  context : Context := []

/-- Why a log cannot be set up. -/
inductive SetupError where
  | unknownLevel (name : String)
  /-- The name is that of a text, as messages show it. -/
  | textForLevel (shown : String)
  /-- The name is that of a table, as messages show it. -/
  | tableForLevel (shown : String)
  | storage (e : Storage.StorageError)
  deriving DecidableEq

/-- The error in words. -/
def SetupError.message : SetupError → String
  | .unknownLevel name => "module 'logging' has no attribute '" ++ name ++ "'"
  | .textForLevel shown => "Unknown level: " ++ shown
  | .tableForLevel shown => "Level not an integer or a valid string: " ++ shown
  | .storage e => e.message

/-- The level with a name, in capitals. -/
def levelNamed? (name : String) : Option Level :=
  [("DEBUG", Level.debug), ("INFO", .info), ("WARNING", .warning), ("WARN", .warning),
    ("ERROR", .error), ("CRITICAL", .critical), ("FATAL", .critical), ("NOTSET", 0)].lookup name

/-- The usual layout of a line, in one of three styles of writing templates. -/
def usualLayout (opening closing : String) : String :=
  let place (name : String) : String := opening ++ name ++ closing
  Text.quoted (":".intercalate [place "levelname", place "name", place "message"])

/-- The styles of writing templates, as messages show them. -/
def stylesText : String :=
  "\x7b'%': (<class 'logging.PercentStyle'>, " ++ usualLayout "%(" ")s" ++
    "), '\x7b': (<class 'logging.StrFormatStyle'>, " ++ usualLayout "\x7b" "\x7d" ++
    "), '$': (<class 'logging.StringTemplateStyle'>, " ++ usualLayout "$\x7b" "\x7d" ++ ")\x7d"

/-- The level with a name, in capitals. Two names in the log belong to something else. -/
def levelOf (name : String) : Except SetupError Level :=
  match levelNamed? name with
  | some level => .ok level
  | none =>
    .error
      (if name = "BASIC_FORMAT" then .textForLevel (usualLayout "%(" ")s")
      else if name = "_STYLES" then .tableForLevel stylesText
      else .unknownLevel name)

/-- The console as an outlet. -/
def consoleHandler (w : World) (s : Setup) : Handler :=
  { outlet := .console, layout := { json := s.json, color := s.color && w.terminal } }

/-- A file as an outlet. -/
def fileHandler (s : Setup) (number : Nat) : Handler :=
  { outlet := .file number, layout := { json := s.json, color := false } }

/-- The world with another outlet of its log. -/
def attach (w : World) (h : Handler) : World :=
  { w with log := { w.log with handlers := w.log.handlers ++ [h] } }

/-- The world once its log is set up in full. -/
def finish (w : World) (s : Setup) : World :=
  { w with log := { w.log with context := w.log.context.push s.context, configured := true } }

/-- The world once the level is set, and the outlets of an earlier set-up are gone. -/
def begin (w : World) : World :=
  { w with log := { w.log with handlers := if w.log.configured then [] else w.log.handlers } }

/-- Sets up a log: the outlets that it gets, and the world after it. -/
def setUp (w : World) (s : Setup) : Except SetupError (List Handler) × World :=
  let w := begin w
  let name := String.ofList (Text.upper s.level.toList)
  match levelOf name with
  | .error e => (.error e, w)
  | .ok level =>
    let console := consoleHandler w s
    let w := attach { w with log := { w.log with level } } console
    if s.file.isEmpty then (.ok [console], finish w s)
    else
      match (Storage.Steps.openToAppend w.home (.ofText s.file)).runFrom w.tree with
      | (.error e, tree) => (.error (.storage e), { w with tree })
      | (.ok number, tree) =>
        let file := fileHandler s number
        (.ok [console, file], finish (attach { w with tree } file) s)

/-- Adds fields to the context. -/
def push (w : World) (more : Context) : World :=
  { w with log := { w.log with context := w.log.context.push more } }

/-- Takes fields from the context, all of them if none are named. -/
def pop (w : World) : Option (List (List Text.CodePoint)) → World
  | none => { w with log := { w.log with context := [] } }
  | some names => { w with log := { w.log with context := w.log.context.pop names } }

/-- Writes a line to an outlet. A file takes only what has a form in bytes. -/
def write (w : World) (o : Outlet) (line : List Text.CodePoint) : World :=
  match o with
  | .console => { w with console := w.console ++ line ++ [.char '\n'] }
  | .file number =>
    match Text.ofCodePoints? line with
    | some s => { w with tree := w.tree.append number (Text.encode (s ++ "\n")) }
    | none => w

/-- Writes a record to an outlet, if it has a line. -/
def deliver (r : Record) (w : World) (h : Handler) : World :=
  match h.layout.line w.room w.log.context r with
  | .ok line => write w h.outlet line
  | .error _ => w

/-- The record under the name of its channel; the one without a name is the root. -/
def named (r : Record) : Record :=
  if r.channel.isEmpty then { r with channel := Text.codePoints "root" } else r

/-- Puts a record into the log. Without outlets, warnings still reach the console, in words only. -/
def emit (w : World) (r : Record) : World :=
  if r.level ≤ 0 ∨ r.level < w.log.level then w
  else if w.log.handlers.isEmpty then
    match r.message with
    | .ok message => if Level.warning ≤ r.level then write w .console message else w
    | .error _ => w
  else w.log.handlers.foldl (deliver (named r)) w

/-- Puts a notice into the log. -/
def report (w : World) (n : Notice) : World :=
  emit w
    { channel := Text.codePoints n.channel, level := n.level,
      template := Text.codePoints n.message, created := w.clock }

/-- Puts notices into the log. -/
def reportAll (w : World) (ns : List Notice) : World :=
  ns.foldl report w

end Log

end Wireform
