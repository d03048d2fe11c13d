import Wireform.Proofs.Command.Stages
import Wireform.Proofs.Storage.Replace

/-!
A run delivers all of its output or none.

`Prepares` says what a run is to compile, and by which settings, without reference to its stages or
to where the output goes. A run that ends well has delivered the G-code of just that, on the
standard output or in the output file; any other run has left both as they were.
-/

namespace Wireform.Command

variable {w w' : World} {i : Invocation} {stdin : List UInt8} {c c' : Settings}
  {input text text' : String}

/-- The settings that an invocation asks for: those of a source, and of the command line. -/
def Configured (w : World) (i : Invocation) (c : Settings) : Prop :=
  ∃ source base, settingsSource? i.config = some source ∧
    (Settings.load w.tree source).outcome = .ok base ∧ base.override (overrides i) = .ok c

/-- The text that there is to compile, its line ends all alike. -/
def Supplied (w : World) (input : String) (stdin : List UInt8) (text : String) : Prop :=
  ∃ bytes, sourceBytes w input stdin = .ok bytes ∧ textOfBytes bytes = .ok text

theorem Configured.unique (first : Configured w i c) (second : Configured w i c') : c = c' := by
  obtain ⟨source, base, named, found, replaced⟩ := first
  obtain ⟨source', base', named', found', replaced'⟩ := second
  rw [named] at named'
  cases named'
  rw [found] at found'
  cases found'
  rw [replaced] at replaced'
  exact Except.ok.inj replaced'

theorem Supplied.unique (first : Supplied w input stdin text)
    (second : Supplied w input stdin text') : text = text' := by
  obtain ⟨bytes, read, decoded⟩ := first
  obtain ⟨bytes', read', decoded'⟩ := second
  rw [read] at read'
  cases read'
  rw [decoded] at decoded'
  exact Except.ok.inj decoded'

/-! ## Up to compiling -/

/-- Nothing that is to be delivered has changed, and the log goes to the console still. -/
structure Untouched (w w' : World) : Prop where
  tree : w'.tree = w.tree
  output : w'.output = w.output
  console : w'.ToConsole

theorem Untouched.trans {w'' : World} (first : Untouched w w') (second : Untouched w' w'') :
    Untouched w w'' where
  tree := second.tree.trans first.tree
  output := second.output.trans first.output
  console := second.console

end Wireform.Command
