import Wireform.Log.Instant
import Wireform.Log.Template
import Wireform.Notice
import Wireform.Value.Json

/-!
Records of a log and the two layouts of a line: for readers, with columns between bars, and for
programs, as a JSON object. Fields of the context are part of every line.
-/

namespace Wireform.Log

open Text (CodePoint codePoints)

/-- Fields that go with every record, in the order in which they came up. -/
abbrev Context := List (List CodePoint × Value)

/-- The context with a field; one that is there keeps its place. -/
def Context.put (c : Context) (name : List CodePoint) (v : Value) : Context :=
  match c with
  | [] => [(name, v)]
  | (n, w) :: rest => if n = name then (n, v) :: rest else (n, w) :: Context.put rest name v

/-- The context with more fields. -/
def Context.push (c more : Context) : Context :=
  more.foldl (fun c f => c.put f.1 f.2) c

/-- The context without some fields. -/
def Context.pop (c : Context) (names : List (List CodePoint)) : Context :=
  c.filter fun f => !names.contains f.1

/-- The usual name of a level. -/
def levelName (l : Level) : String :=
  if l = .debug then "DEBUG"
  else if l = .info then "INFO"
  else if l = .warning then "WARNING"
  else if l = .error then "ERROR"
  else if l = .critical then "CRITICAL"
  else if l = 0 then "NOTSET"
  else "Level " ++ toString l

/-- A record: where it is from, how much it matters and how that is called, its template and
arguments, its time in seconds since the start of 1970, and the wording of an error that goes with
it. -/
structure Record where
  channel : List CodePoint
  level : Level
  levelName : List CodePoint := codePoints (levelName level)
  template : List CodePoint
  args : List Value := []
  created : Binary64
  error : Option (List CodePoint) := none

/-- How lines look. -/
structure Layout where
  json : Bool := false
  color : Bool := false
  deriving DecidableEq

/-- Why a record has no line. -/
inductive LineError where
  | time (e : TimeError)
  | template (e : TemplateError)
  | json (e : JsonError)
  deriving DecidableEq

/-- The error in words. -/
def LineError.message : LineError → String
  | .time e => e.message
  | .template e => e.message
  | .json e => e.message

/-- The wording of a record. -/
def Record.message (r : Record) : Except LineError (List CodePoint) :=
  (fillTemplate r.template r.args).mapError .template

/-- The wording of the error that goes with a record. -/
def errorText (e : List CodePoint) : List CodePoint :=
  codePoints (if e.isEmpty then "ValueError" else "ValueError: ") ++ e

/-- A text with blanks behind it up to eight characters. -/
def column (s : List CodePoint) : List CodePoint :=
  s ++ List.replicate (8 - s.length) (.char ' ')

/-- The end of a colour. -/
def plainColor : String :=
  "\x1b[0m"

/-- The colour that goes with the name of a level. -/
def colorOf (name : List CodePoint) : String :=
  let colors : List (String × String) :=
    [("DEBUG", "\x1b[36m"), ("INFO", "\x1b[32m"), ("WARNING", "\x1b[33m"), ("ERROR", "\x1b[31m"),
      ("CRITICAL", "\x1b[35m"), ("RESET", plainColor)]
  ((colors.find? fun c => codePoints c.1 = name).map (·.2)).getD ""

/-- The column of the level. -/
def levelColumn (color : Bool) (name : List CodePoint) : List CodePoint :=
  if color then codePoints (colorOf name) ++ column name ++ codePoints plainColor else column name

/-- The fields of the context in a line for readers. -/
def contextColumn (context : Context) : List CodePoint :=
  [.char ' '].intercalate (context.map fun f => f.1 ++ .char '=' :: f.2.plain)

/-- The columns of a line for readers. -/
def columns (color : Bool) (context : Context) (m : Moment) (level message : List CodePoint) :
    List (List CodePoint) :=
  let fields := contextColumn context
  [codePoints (shortTime m), [.char '|'], levelColumn color level, [.char '|']] ++
    (if fields.isEmpty then [] else [fields, [.char '|']]) ++ [message]

/-- The fields of a line for programs. -/
def fields (context : Context) (m : Moment) (r : Record) (message : List CodePoint) : Context :=
  let own : Context :=
    [(codePoints "t", .text (longTime m)), (codePoints "lvl", .ofCodePoints r.levelName),
      (codePoints "name", .ofCodePoints r.channel), (codePoints "msg", .ofCodePoints message)]
  let all := own.push context
  match r.error with
  | some e => all.put (codePoints "exc") (.ofCodePoints (errorText e))
  | none => all

/-- Fields as a JSON object. -/
def Context.json (room : Nat) (c : Context) : Except JsonError String :=
  Value.json room (.map (c.map fun f => (.ofCodePoints f.1, f.2)))

/-- The line of a record; `room` is how many collections may be inside each other in JSON. -/
def Layout.line (layout : Layout) (room : Nat) (context : Context) (r : Record) :
    Except LineError (List CodePoint) := do
  let m ← (moment r.created).mapError .time
  let message ← r.message
  if layout.json then
    let text ← ((fields context m r message).json room).mapError .json
    return codePoints text
  else
    let line := [.char ' '].intercalate (columns layout.color context m r.levelName message)
    match r.error with
    | some e => return line ++ .char '\n' :: errorText e
    | none => return line

end Wireform.Log
