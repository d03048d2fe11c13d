import Wireform.Command.Options
import Wireform.Log.Basic
import Wireform.Settings.Document

/-!
A run of the command: set up the log, get the settings, read the program, compile it, and deliver
the G-code. Each stage that fails ends the run, with an exit code or with an error that goes to the
caller.
-/

namespace Wireform.Command

/-- The codes with which a run ends. -/
inductive ExitCode where
  | ok
  | programError
  | usageError
  deriving DecidableEq

/-- The number of an exit code. -/
def ExitCode.number : ExitCode → Nat
  | .ok => 0
  | .programError => 1
  | .usageError => 2

/-- An error that a run does not deal with itself. -/
inductive Escape where
  /-- The level of the log was left blank. -/
  | blankLevel
  /-- The path of the settings was left blank. -/
  | blankConfig
  | setup (e : Log.SetupError)
  | load (e : Settings.LoadError)
  | settings (e : SettingsError)
  | storage (e : Storage.StorageError)
  | compile (e : CompileError)
  deriving DecidableEq

/-- The error in words. -/
def Escape.message : Escape → String
  | .blankLevel => "'list' object has no attribute 'upper'"
  | .blankConfig => "expected str, bytes or os.PathLike object, not list"
  | .setup e => e.message
  | .load e => e.message
  | .settings e => e.message
  | .storage e => e.message
  | .compile e => e.message

/-- How a run ends. -/
inductive Outcome where
  | exit (code : ExitCode)
  | escaped (e : Escape)
  deriving DecidableEq

/-- The name of the command in messages. -/
def commandName : String :=
  "wire-bender"

/-- Writes a line to the console. -/
def say (w : World) (line : String) : World :=
  Log.write w .console (Text.codePoints line)

/-- A stage of a run: it goes on with a result, or the run ends; either way in another world. -/
abbrev Stage (α : Type) := Except Outcome α × World

/-- Ends the run with a message. -/
def stop {α : Type} (w : World) (code : ExitCode) (line : String) : Stage α :=
  (.error (.exit code), say w line)

/-- Ends the run with an error that it does not deal with. -/
def fail {α : Type} (w : World) (e : Escape) : Stage α :=
  (.error (.escaped e), w)

/-- Goes on to the next stage. -/
def Stage.andThen {α β : Type} (s : Stage α) (next : World → α → Stage β) : Stage β :=
  match s with
  | (.ok a, w) => next w a
  | (.error o, w) => (.error o, w)

/-! ## The log -/

/-- The text of an option, empty if nothing was given. -/
def textOf : Given String → String
  | .value s => s
  | _ => ""

/-- How an invocation has the log set up. -/
def logSetup (i : Invocation) (level : String) : Log.Setup :=
  { level, file := textOf i.logFile, json := i.jsonLogs,
    context := [(Text.codePoints "app", .text "compile_bend")] }

/-- Sets up the log. -/
def startLog (w : World) (i : Invocation) : Stage Unit :=
  let setUp (level : String) : Stage Unit :=
    match Log.setUp w (logSetup i level) with
    | (.ok _, w) => (.ok (), w)
    | (.error e, w) => fail w (.setup e)
  match i.logLevel with
  | .absent => setUp "WARNING"
  | .blank => fail (Log.begin w) .blankLevel
  | .value level => setUp level

/-! ## The settings -/

/-- Is the error one that a run reports? -/
def isReported : Settings.LoadError → Bool
  | .missing _ | .empty _ | .notMapping _ | .section _ _ => true
  | .file e =>
    match e with
    | .missing _ | .malformed _ | .storage (.refused .notFound _ _) => true
    | _ => false
  | .value e => e ≠ .tooLarge
  | .invalid e => e ≠ .tooLarge

/-- Ends the run over settings that cannot be had. -/
def refuseSettings {α : Type} (w : World) (e : Settings.LoadError) : Stage α :=
  if isReported e then stop w .usageError ("Error loading config: " ++ e.message)
  else fail w (.load e)

/-- The value of a number given on the command line. -/
def overrideOf : Given Binary64 → Value
  | .absent => .null
  | .blank => .list []
  | .value x => .number x

/-- The settings given on the command line. -/
def overrides (i : Invocation) : Settings.Overrides :=
  [(Setting.feedRate.name, overrideOf i.feedRate), (Setting.bendRate.name, overrideOf i.bendRate),
    (Setting.positiveClearance.name, overrideOf i.positiveClearance),
    (Setting.negativeClearance.name, overrideOf i.negativeClearance)]

/-- Reads the settings of a file, or takes the stock ones. Reading is reported before it begins. -/
def loadSettings (w : World) (source : Option Storage.Path) : Stage Settings :=
  match Settings.locate w.tree source with
  | .error e => refuseSettings w e
  | .ok () =>
    let w := Log.report w (.loadingSettings (Settings.sourceName source))
    let r := Settings.loaded (Settings.fetch w.tree source)
    let w := Log.reportAll w r.notices
    match r.outcome with
    | .ok c => (.ok c, w)
    | .error e => refuseSettings w e

/-- Replaces settings by those of the command line. -/
def overrideSettings (w : World) (i : Invocation) (c : Settings) : Stage Settings :=
  let r := c.reportOverride (overrides i)
  let w := Log.reportAll w r.notices
  match r.outcome with
  | .ok c => (.ok c, w)
  | .error .tooLarge => fail w (.settings .tooLarge)
  | .error e => stop w .usageError ("Error loading config: " ++ e.message)

/-- The settings that an invocation asks for. -/
def getSettings (w : World) (i : Invocation) : Stage Settings :=
  match i.config with
  | .blank => fail w .blankConfig
  | .absent => (loadSettings w none).andThen fun w c => overrideSettings w i c
  | .value path =>
    (loadSettings w (some (.ofText path))).andThen fun w c => overrideSettings w i c

/-! ## The program -/

/-- The text that bytes stand for, all line ends alike; or else why there is none. -/
def textOfBytes (bytes : List UInt8) : Except Text.DecodeError String :=
  (Text.decode bytes).map fun cs => String.ofList (Text.normaliseLineEnds cs)

/-- The bytes of the program: those of a file, or of the standard input. -/
def sourceBytes (w : World) (input : String) (stdin : List UInt8) :
    Except Storage.StorageError (List UInt8) :=
  if input = "-" then .ok stdin else w.tree.read (.ofText input)

/-- Reads the text of the program. -/
def readProgram (w : World) (input : String) (stdin : List UInt8) : Stage String :=
  match sourceBytes w input stdin with
  | .error .zeroInPath => fail w (.storage .zeroInPath)
  | .error e => stop w .usageError ("Error reading " ++ input ++ ": " ++ e.message)
  | .ok bytes =>
    match textOfBytes bytes with
    | .ok text => (.ok text, w)
    | .error e => stop w .usageError ("Error reading " ++ input ++ ": " ++ e.message)

/-- Compiles the program. -/
def compileProgram (w : World) (input : String) (c : Settings) (text : String) : Stage String :=
  let r := compile c text
  let w := Log.reportAll w r.notices
  match r.outcome with
  | .ok gcode => (.ok gcode, w)
  | .error (.source (.fault e)) =>
    let (o, w) : Stage String := stop w .programError (input ++ ": " ++ e.message)
    (o, Log.report w (.compileFailed e.fault.kind e.line))
  | .error e => fail w (.compile e)

/-! ## The output -/

/-- Delivers the G-code: to a file, all or nothing, or else to the standard output. -/
def deliver (w : World) (output : String) (gcode : String) : Stage Unit :=
  if output.isEmpty then (.ok (), { w with output := w.output ++ gcode ++ "\n" })
  else
    let text := Text.codePoints (gcode ++ "\n")
    let steps := Storage.Steps.replaceText (.ofText output) text .utf8
    let (result, tree) := steps.runFrom w.tree
    let w := { w with tree }
    match result with
    | .ok () => (.ok (), Log.report w (.written output))
    | .error e =>
      match e with
      | .notReplaced _ _ => stop w .usageError ("Error: " ++ e.message)
      | _ => fail w (.storage e)

/-- Does what an invocation asks for. -/
def perform (w : World) (i : Invocation) (stdin : List UInt8) : Stage Unit :=
  (startLog w i).andThen fun w () =>
  (getSettings w i).andThen fun w c =>
  (readProgram w i.input stdin).andThen fun w text =>
  (compileProgram w i.input c text).andThen fun w gcode =>
  deliver w (textOf i.output) gcode

/-- Runs the command. -/
def run (w : World) (argv : List String) (stdin : List UInt8) : Outcome × World :=
  match Invocation.ofArguments argv with
  | .error e => (.exit .usageError, say w (commandName ++ ": error: " ++ e.message))
  | .ok none => (.exit .ok, w)
  | .ok (some i) =>
    match perform w i stdin with
    | (.ok (), w) => (.exit .ok, w)
    | (.error o, w) => (o, w)

end Wireform.Command
