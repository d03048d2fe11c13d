import Wireform.Gcode.Machine
import Wireform.Program.Expansion
import Wireform.Program.Statement

/-!
Compiling: from the text of a bend program to the text of its G-code.
-/

namespace Wireform

/-- Why a program text has no G-code. -/
inductive CompileError where
  | source (e : SourceError)
  | unsupported (e : Gcode.Unsupported)
  deriving DecidableEq

/-- The error in words. -/
def CompileError.message : CompileError → String
  | .source e => e.message
  | .unsupported e => e.message

/-- Something done: what was reported on the way, and how it came out. -/
structure Report (ε α : Type) where
  notices : List Notice
  outcome : Except ε α

/-- Compiles a program text for a machine. -/
def compile (c : Settings) (text : String) : Report CompileError String :=
  match Program.ofSource text with
  | .error e => ⟨[], .error (.source e)⟩
  | .ok program =>
    let parsed := Notice.parsed program.length
    match program.expand with
    | .error e => ⟨[parsed], .error (.source (.fault e))⟩
    | .ok flat =>
      let expanded := Notice.expanded program.length flat.length
      match Gcode.generate c flat with
      | .error e => ⟨parsed :: expanded :: Gcode.notices c flat, .error (.unsupported e)⟩
      | .ok lines =>
        ⟨parsed :: expanded :: Gcode.notices c flat ++
            [.compiled program.length flat.length],
          .ok (Gcode.render lines)⟩

/-- The program of a text, with what is reported on the way. -/
def Program.reportSource (text : String) : Report CompileError Program :=
  match Program.ofSource text with
  | .error e => ⟨[], .error (.source e)⟩
  | .ok p => ⟨[.parsed p.length], .ok p⟩

/-- A program unrolled, with what is reported on the way. -/
def Program.reportExpansion (p : Program) : Report CompileError Program :=
  match p.expand with
  | .error e => ⟨[], .error (.source (.fault e))⟩
  | .ok flat => ⟨[.expanded p.length flat.length], .ok flat⟩

/-- The G-code of a program that needs no unrolling, with what is reported on the way. -/
def Gcode.report (c : Settings) (p : Program) : Report CompileError (List Gcode.Line) :=
  ⟨Gcode.notices c p, (Gcode.generate c p).mapError .unsupported⟩

/-- The settings with some replaced, with what is reported on the way. -/
def Settings.reportOverride (c : Settings) (o : Settings.Overrides) :
    Report SettingsError Settings :=
  match c.override o with
  | .ok c' => ⟨c'.notices, .ok c'⟩
  | .error e => ⟨[], .error e⟩

/-- A compiler is known by the settings of the machine it works for. -/
structure Compiler where
  settings : Settings
  deriving DecidableEq

namespace Compiler

/-- What a compiler can be asked to do. -/
inductive Request where
  | setOptions (o : Settings.Overrides)
  | compile (text : String)
  | parse (text : String)
  | expand (p : Program)
  | generate (p : Program)

/-- What a compiler answers. -/
inductive Answer where
  | settings (c : Settings)
  | gcode (text : String)
  | program (p : Program)
  | lines (ls : List Gcode.Line)

/-- Why a compiler does not do what it is asked. -/
inductive Refusal where
  | settings (e : SettingsError)
  | compile (e : CompileError)
  deriving DecidableEq

/-- A compiler for a machine with some settings replaced. -/
def create (c : Settings) (o : Settings.Overrides) : Except SettingsError Compiler :=
  match Settings.checkTaken "BendCompiler.__init__" ["self", "config"] o with
  | .error e => .error e
  | .ok () =>
    match c.override o with
    | .ok settings => .ok { settings }
    | .error e => .error e

/-- The compiler with some settings replaced. -/
def setOptions (k : Compiler) (o : Settings.Overrides) : Except SettingsError Compiler :=
  match Settings.checkTaken "BendCompiler.set_options" ["self"] o with
  | .error e => .error e
  | .ok () =>
    match k.settings.override o with
    | .ok settings => .ok { settings }
    | .error e => .error e

/-- Does what is asked, and what the compiler is afterwards. -/
def handle (k : Compiler) : Request → Report Refusal Answer × Compiler
  | .setOptions o =>
    match k.setOptions o with
    | .ok k' => (⟨k'.settings.notices, .ok (.settings k'.settings)⟩, k')
    | .error e => (⟨[], .error (.settings e)⟩, k)
  | .compile text =>
    let r := Wireform.compile k.settings text
    (⟨r.notices, (r.outcome.map .gcode).mapError .compile⟩, k)
  | .parse text =>
    let r := Program.reportSource text
    (⟨r.notices, (r.outcome.map .program).mapError .compile⟩, k)
  | .expand p =>
    let r := p.reportExpansion
    (⟨r.notices, (r.outcome.map .program).mapError .compile⟩, k)
  | .generate p =>
    let r := Gcode.report k.settings p
    (⟨r.notices, (r.outcome.map .lines).mapError .compile⟩, k)

end Compiler

end Wireform
