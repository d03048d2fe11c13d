import Wireform.Binary64.Reading
import Wireform.Text.Quoted

/-!
The command line. Every argument is first told apart as an option, a value or the mark behind which
there are only values; then they are taken in order. Long options may be cut short as long as one
option is meant, and a value may be joined to its option.
-/

namespace Wireform.Command

/-- The options. -/
inductive Switch where
  | help
  | output
  | config
  | feedRate
  | bendRate
  | positiveClearance
  | negativeClearance
  | logLevel
  | jsonLogs
  | logFile
  deriving DecidableEq

namespace Switch

/-- All options, in the order in which messages list them. -/
def all : List Switch :=
  [.help, .output, .config, .feedRate, .bendRate, .positiveClearance, .negativeClearance, .logLevel,
    .jsonLogs, .logFile]

/-- The spellings of an option. -/
def names : Switch → List String
  | .help => ["-h", "--help"]
  | .output => ["--output", "-o"]
  | .config => ["--config", "-c"]
  | .feedRate => ["--feed-feedrate"]
  | .bendRate => ["--bend-feedrate"]
  | .positiveClearance => ["--positive-clearance"]
  | .negativeClearance => ["--negative-clearance"]
  | .logLevel => ["--log-level"]
  | .jsonLogs => ["--json-logs"]
  | .logFile => ["--log-file"]

/-- Does a value go with the option? -/
def takesValue : Switch → Bool
  | .help | .jsonLogs => false
  | _ => true

/-- All spellings with their options. -/
def spellings : List (String × Switch) :=
  all.flatMap fun s => s.names.map fun n => (n, s)

end Switch

/-- The levels to choose from. -/
def levels : List String :=
  ["DEBUG", "INFO", "WARNING", "ERROR"]

/-- What is wrong with a command line. -/
inductive UsageError where
  | ambiguous (arg : String) (spellings : List String)
  | expectedOne (s : Switch)
  | ignoredValue (s : Switch) (value : String)
  | invalidNumber (s : Switch) (value : String)
  | invalidChoice (s : Switch) (value : String)
  | unrecognised (args : List String)
  deriving DecidableEq

/-- The error in words. -/
def UsageError.message : UsageError → String
  | .ambiguous arg spellings =>
    "ambiguous option: " ++ arg ++ " could match " ++ ", ".intercalate spellings
  | .expectedOne s => about s ++ "expected one argument"
  | .ignoredValue s value => about s ++ "ignored explicit argument " ++ Text.quoted value
  | .invalidNumber s value => about s ++ "invalid float value: " ++ Text.quoted value
  | .invalidChoice s value =>
    about s ++ "invalid choice: " ++ Text.quoted value ++ " (choose from " ++
      ", ".intercalate (levels.map Text.quoted) ++ ")"
  | .unrecognised args => "unrecognized arguments: " ++ " ".intercalate args
where
  /-- The option that a message is about. -/
  about (s : Switch) : String :=
    "argument " ++ "/".intercalate s.names ++ ": "

/-! ## Telling arguments apart -/

/-- What an argument is: a value, the mark behind which there are only values, or an option, known
or not, in one of its spellings and with the value joined to it. -/
inductive Kind where
  | value
  | mark
  | option (s : Option Switch) (spelling : String) (joined : Option String)
  deriving DecidableEq

/-- Is the text made of decimal digits, one at least? -/
def isNumeral (cs : List Char) : Bool :=
  !cs.isEmpty && cs.all fun c => (Text.decimalDigit? c).isSome

/-- Does the argument look like a negative number: a minus sign, digits, and maybe a point with
digits behind it? A line end behind it does not count. -/
def isNegativeNumber (cs : List Char) : Bool :=
  let cs := if cs.getLast? = some '\n' then cs.dropLast else cs
  match cs with
  | '-' :: body =>
    let whole := body.takeWhile (· != '.')
    match body.dropWhile (· != '.') with
    | [] => isNumeral body
    | _ :: places => (whole.isEmpty || isNumeral whole) && isNumeral places
  | _ => false

/-- The part of an argument before an equals sign, and the part behind it. -/
def splitJoined (cs : List Char) : String × Option String :=
  (String.ofList (cs.takeWhile (· != '=')),
    match cs.dropWhile (· != '=') with
    | [] => none
    | _ :: value => some (String.ofList value))

/-- The options that an argument may mean: those whose spelling it begins, or the one of a single
letter that it begins with. -/
def candidates (cs : List Char) : List (Switch × String × Option String) :=
  if cs.take 2 = ['-', '-'] then
    let (name, joined) := splitJoined cs
    Switch.spellings.filterMap fun (n, s) =>
      if name.toList.isPrefixOf n.toList then some (s, n, joined) else none
  else
    Switch.spellings.filterMap fun (n, s) =>
      if n.toList = cs.take 2 then some (s, n, some (String.ofList (cs.drop 2)))
      else if cs.isPrefixOf n.toList then some (s, n, none)
      else none

/-- What an argument is that is neither a known spelling nor joined to one by an equals sign. -/
def classifyOther (arg : String) : Except UsageError Kind :=
  match candidates arg.toList with
  | [(s, spelling, joined)] => .ok (.option (some s) spelling joined)
  | [] =>
    if isNegativeNumber arg.toList || arg.toList.contains ' ' then .ok .value
    else .ok (.option none arg none)
  | many => .error (.ambiguous arg (many.map (·.2.1)))

/-- What an argument is. -/
def classify (arg : String) : Except UsageError Kind :=
  match arg.toList with
  | '-' :: _ :: _ =>
    match Switch.spellings.lookup arg, splitJoined arg.toList with
    | some s, _ => .ok (.option (some s) arg none)
    | none, (name, some value) =>
      match Switch.spellings.lookup name with
      | some s => .ok (.option (some s) name (some value))
      | none => classifyOther arg
    | none, (_, none) => classifyOther arg
  | _ => .ok .value

/-- Tells all arguments apart. -/
def classifyAll : List String → Except UsageError (List (String × Kind))
  | [] => .ok []
  | arg :: rest =>
    if arg = "--" then .ok ((arg, .mark) :: rest.map fun a => (a, .value))
    else do
      let kind ← classify arg
      return (arg, kind) :: (← classifyAll rest)

/-! ## Taking them in order -/

/-- What an option was given: nothing at all, an empty row of values, or a value. -/
inductive Given (α : Type) where
  | absent
  | blank
  | value (a : α)
  deriving DecidableEq

/-- What a command line asks for. -/
structure Invocation where
  input : String := "-"
  output : Given String := .absent
  config : Given String := .absent
  feedRate : Given Binary64 := .absent
  bendRate : Given Binary64 := .absent
  positiveClearance : Given Binary64 := .absent
  negativeClearance : Given Binary64 := .absent
  logLevel : Given String := .absent
  jsonLogs : Bool := false
  logFile : Given String := .absent

/-- The value given to an option; the mark for values leaves it blank. -/
def givenText (v : String) : Given String :=
  if v = "--" then .blank else .value v

/-- The number given to an option. -/
def givenNumber (s : Switch) (v : String) : Except UsageError (Given Binary64) :=
  if v = "--" then .ok .blank
  else
    match Binary64.ofText? v with
    | some x => .ok (.value x)
    | none => .error (.invalidNumber s v)

/-- The level given to an option. -/
def givenLevel (v : String) : Except UsageError (Given String) :=
  if v = "--" ∨ levels.contains v then .ok (givenText v) else .error (.invalidChoice .logLevel v)

/-- The invocation with an option and its value. -/
def Invocation.set (i : Invocation) (s : Switch) (v : String) : Except UsageError Invocation :=
  match s with
  | .help => .ok i
  | .output => .ok { i with output := givenText v }
  | .config => .ok { i with config := givenText v }
  | .feedRate => (givenNumber s v).map fun x => { i with feedRate := x }
  | .bendRate => (givenNumber s v).map fun x => { i with bendRate := x }
  | .positiveClearance => (givenNumber s v).map fun x => { i with positiveClearance := x }
  | .negativeClearance => (givenNumber s v).map fun x => { i with negativeClearance := x }
  | .logLevel => (givenLevel v).map fun x => { i with logLevel := x }
  | .jsonLogs => .ok { i with jsonLogs := true }
  | .logFile => .ok { i with logFile := givenText v }

/-- What the next argument may be needed for: nothing in particular, the value of an option behind
flags joined to it, the input behind the mark for values, or that mark behind the input. -/
inductive Awaited where
  | nothing
  | value (flags : List Switch) (s : Switch)
  | input
  | mark
  deriving DecidableEq

/-- The state of taking arguments: the invocation so far, whether its input is taken, whether help
is asked for, the arguments that nothing takes, and what the next one may be needed for. -/
structure Taking where
  invocation : Invocation := {}
  inputTaken : Bool := false
  help : Bool := false
  extras : List String := []
  awaited : Awaited := .nothing

/-- Puts an argument with those that nothing takes. -/
def Taking.leave (t : Taking) (arg : String) : Taking :=
  { t with extras := t.extras ++ [arg] }

/-- Takes an argument as the input; `awaited` is what may stand behind it. -/
def Taking.input (t : Taking) (arg : String) (awaited : Awaited) : Taking :=
  { t with invocation := { t.invocation with input := arg }, inputTaken := true, awaited }

/-- Takes an option that has no value. -/
def Taking.flag (t : Taking) (s : Switch) : Taking :=
  match s with
  | .help => { t with help := true }
  | _ => { t with invocation := { t.invocation with jsonLogs := true } }

/-- Takes flags and then an option with a value, which no longer matters if help is asked for. -/
def Taking.option (t : Taking) (flags : List Switch) (s : Switch) (v : String) :
    Except UsageError Taking :=
  let t := flags.foldl Taking.flag { t with awaited := .nothing }
  if t.help then .ok t
  else (t.invocation.set s v).map fun i => { t with invocation := i }

/-- Options of a single letter that are joined: those without a value, and the last one with the
text joined to it. -/
def unjoin (s : Switch) (spelling : List Char) :
    List Char → Except UsageError (List Switch × Switch × Option String)
  | [] =>
    if s.takesValue then .ok ([], s, some "") else .error (.ignoredValue s "")
  | c :: cs =>
    if s.takesValue then .ok ([], s, some (String.ofList (c :: cs)))
    else if spelling[1]? = some '-' then .error (.ignoredValue s (String.ofList (c :: cs)))
    else
      match Switch.spellings.lookup (String.ofList ['-', c]), cs with
      | none, _ => .error (.ignoredValue s (String.ofList (c :: cs)))
      | some next, [] => .ok ([s], next, none)
      | some next, _ :: _ =>
        (unjoin next ['-', c] cs).map fun (flags, last) => (s :: flags, last)

/-- The flags and the last option that an argument stands for. -/
def options (s : Switch) (spelling : String) :
    Option String → Except UsageError (List Switch × Switch × Option String)
  | none => .ok ([], s, none)
  | some joined => unjoin s spelling.toList joined.toList

/-- Takes an argument that nothing before it waits for. The first value is the input; the mark for
values may stand before or behind it. -/
def Taking.plain (t : Taking) (arg : String) : Kind → Except UsageError Taking
  | .option none _ _ => .ok (t.leave arg)
  | .option (some s) spelling joined => do
    let (flags, last, value) ← options s spelling joined
    match value, last.takesValue with
    | some v, _ => t.option flags last v
    | none, false => return (flags.foldl Taking.flag t).flag last
    | none, true => return { t with awaited := .value flags last }
  | .value => .ok (if t.inputTaken then t.leave arg else t.input arg .mark)
  | .mark =>
    .ok (if t.inputTaken then t.leave arg else { t with inputTaken := true, awaited := .input })

/-- Takes an argument. -/
def Taking.step (t : Taking) (arg : String × Kind) : Except UsageError Taking :=
  if t.help then .ok t
  else
    match t.awaited, arg.2 with
    | .value flags s, .value => t.option flags s arg.1
    | .value _ s, _ => .error (.expectedOne s)
    | .input, .value => .ok (t.input arg.1 .nothing)
    | .mark, .mark => .ok { t with awaited := .nothing }
    | _, kind => { t with awaited := .nothing }.plain arg.1 kind

/-- Takes all arguments in order. -/
def takeAll (args : List (String × Kind)) : Except UsageError Taking := do
  let t ← args.foldlM Taking.step {}
  match t.awaited with
  | .value _ s => throw (.expectedOne s)
  | _ => return t

/-- What a command line asks for; `none` is help. -/
def Invocation.ofArguments (argv : List String) : Except UsageError (Option Invocation) := do
  let t ← takeAll (← classifyAll argv)
  if t.help then return none
  else if t.extras.isEmpty then return some t.invocation
  else throw (.unrecognised t.extras)

end Wireform.Command
