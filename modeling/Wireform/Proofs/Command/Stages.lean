import Wireform.Command.Run
import Wireform.Proofs.Command.Arguments
import Wireform.Proofs.Compiler.Outcome
import Wireform.Proofs.Log.Lines
import Wireform.Proofs.Settings.Loading

/-!
The stages of a run: what each of them can come to, and what it changes.

Each stage has a relation that lists the ways it can go, by what holds of its input and not by how
it is carried out, and a lemma that it goes one of them. Up to the delivery nothing but the log
changes (`World.Logged`).

* `begins_startLog`, `obtains_getSettings`, `fetches_readProgram`, `translates_compileProgram`,
  `delivers_deliver`: the stages.
-/

namespace Wireform.Command

section Stage

variable {α β : Type} {next : World → α → Stage β} {w : World}

end Stage

/-! ## The log -/

section Log

variable {w : World} {i : Invocation}

end Log

/-! ## The settings -/

/-- The source of settings that an option names; one that is left blank names none. -/
def settingsSource? : Given String → Option (Option Storage.Path)
  | .absent => some none
  | .value path => some (some (.ofText path))
  | .blank => none

variable {w : World} {i : Invocation} {source : Option Storage.Path} {c : Settings}

/-- How a run ends over settings that cannot be had. -/
def refusal (e : Settings.LoadError) : Outcome :=
  if isReported e then .exit .usageError else .escaped (.load e)

/-- The world in which settings are read: that they are is in the log. -/
def reading (w : World) (source : Option Storage.Path) : World :=
  Log.report w (.loadingSettings (Settings.sourceName source))

/-- Giving the file of the output its new contents. -/
def replaced (w : World) (output gcode : String) :
    Except Storage.StorageError Unit × Storage.Tree :=
  (Storage.Steps.replaceText (.ofText output) (Text.codePoints (gcode ++ "\n")) .utf8).runFrom
    w.tree

section Run

variable {argv : List String} {stdin : List UInt8} {w' : World} {o : Outcome}

end Run

end Wireform.Command
